import ComparativeLaw.CaseLaw.Token
import ComparativeLaw.Proofs.Text.Word

namespace ComparativeLaw.Token

open Text

theorem ofChars_append_blank {b : Char} (hb : isBlank b = true) (s t : List Char) :
    ofChars (s ++ b :: t) = ofChars s ++ ofChars t := by
  rw [ofChars, lowerChars_append_blank hb, words_append_blank hb, List.map_append]
  rfl

theorem ofChars_blanks_append {l : List Char} (hl : ∀ c ∈ l, isBlank c = true) (s : List Char) :
    ofChars (l ++ s) = ofChars s := by
  induction l with
  | nil => rfl
  | cons b l ih =>
    have hb := hl b List.mem_cons_self
    rw [List.cons_append, ← List.nil_append (b :: (l ++ s)), ofChars_append_blank hb,
      ih fun c hc => hl c (List.mem_cons_of_mem b hc)]
    rfl

theorem ofChars_append_blanks {r : List Char} (hr : ∀ c ∈ r, isBlank c = true) (s : List Char) :
    ofChars (s ++ r) = ofChars s := by
  cases r with
  | nil => rw [List.append_nil]
  | cons b r =>
    have hrest := ofChars_blanks_append (l := r) (s := [])
      fun c hc => hr c (List.mem_cons_of_mem b hc)
    rw [List.append_nil] at hrest
    rw [ofChars_append_blank (hr b List.mem_cons_self), hrest]
    exact List.append_nil _

/-- Blanks at the ends do not matter to the tokens. -/
theorem ofText_strip (s : String) : ofText (strip s) = ofText s := by
  obtain ⟨l, r, hs, hl, hr⟩ := eq_append_trimBy isBlank s.toList
  have hc : ofChars s.toList = ofChars (trimBy isBlank s.toList) :=
    calc ofChars s.toList
      _ = ofChars (l ++ trimBy isBlank s.toList ++ r) := congrArg ofChars hs
      _ = ofChars (l ++ trimBy isBlank s.toList) := ofChars_append_blanks hr _
      _ = ofChars (trimBy isBlank s.toList) := ofChars_blanks_append hl _
  simp only [ofText, strip, String.toList_ofList, hc]

theorem ofText_ne_nil {s : String} (h : isBlankText s = false) : ofText s ≠ [] := by
  have hs : ∃ c ∈ s.toList, isBlank c = false := by
    simpa [isBlankText] using h
  have hw := words_ne_nil (exists_not_blank_lowerFrom false hs)
  simpa [ofText, ofChars, lowerChars] using hw

theorem ofText_of_blank {s : String} (h : isBlankText s = true) : ofText s = [] := by
  have hs : ofChars (s.toList ++ []) = ofChars [] :=
    ofChars_blanks_append (List.all_eq_true.mp h) []
  rw [List.append_nil] at hs
  exact congrArg (List.map String.ofList) hs

/-- Only a blank text has no token. -/
theorem ofText_eq_nil_iff {s : String} : ofText s = [] ↔ isBlankText s = true := by
  cases hblank : isBlankText s with
  | true => exact iff_of_true (ofText_of_blank hblank) rfl
  | false => exact iff_of_false (ofText_ne_nil hblank) Bool.false_ne_true

theorem ofText_push_append {b : Char} (hb : isBlank b = true) (s t : String) :
    ofText (s.push b ++ t) = ofText s ++ ofText t := by
  have hs : (s.push b ++ t).toList = s.toList ++ b :: t.toList := by simp
  rw [ofText, hs, ofChars_append_blank hb, List.map_append]
  rfl

/-- A blank between two texts keeps their tokens apart. -/
theorem ofText_append_blank (s t : String) : ofText s!"{s} {t}" = ofText s ++ ofText t :=
  ofText_push_append (b := ' ') (by decide) s t

/-- Texts with blanks between them have the tokens of each. -/
theorem ofText_intercalate (ss : List String) :
    ofText (" ".intercalate ss) = ss.flatMap ofText := by
  induction ss with
  | nil => rfl
  | cons s ss ih =>
    cases ss with
    | nil => simp
    | cons t ss =>
      rw [List.flatMap_cons, ← ih, String.intercalate_cons_cons]
      exact ofText_append_blank s _

end ComparativeLaw.Token

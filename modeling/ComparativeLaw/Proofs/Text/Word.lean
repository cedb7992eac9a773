import ComparativeLaw.Proofs.Text.Blank

namespace ComparativeLaw.Text

theorem startsCased_append_blank {b : Char} (hb : isBlank b = true) (s t : List Char) :
    startsCased (s ++ b :: t) = startsCased s := by
  induction s with
  | nil => simp [startsCased, isCaseIgnorable_of_isBlank hb, isCased_of_isBlank hb]
  | cons c s ih => simp only [List.cons_append, startsCased, ih]

/-- What a character becomes does not depend on what follows the next blank. -/
theorem lowerIn_append_blank {b : Char} (hb : isBlank b = true) (before : Bool) (c : Char)
    (s t : List Char) : lowerIn before c (s ++ b :: t) = lowerIn before c s := by
  rw [lowerIn, lowerIn, startsCased_append_blank hb]

/-- A blank cuts the text for the lower case. -/
theorem lowerFrom_append_blank {b : Char} (hb : isBlank b = true) (before : Bool)
    (s t : List Char) :
    lowerFrom before (s ++ b :: t) = lowerFrom before s ++ b :: lowerFrom false t := by
  -- On what stands before the blank: at the blank itself what was cased before is forgotten.
  induction s generalizing before with
  | nil =>
    change lowerIn before b t ++ lowerFrom (casedAfter before b) t = b :: lowerFrom false t
    rw [lowerIn_of_isBlank hb, casedAfter_of_isBlank hb, List.singleton_append]
  | cons c s ih =>
    rw [List.cons_append, lowerFrom, lowerFrom, lowerIn_append_blank hb, ih, List.append_assoc]

/-- Both sides of a blank can be put in lower case apart from each other. -/
theorem lowerChars_append_blank {b : Char} (hb : isBlank b = true) (s t : List Char) :
    lowerChars (s ++ b :: t) = lowerChars s ++ b :: lowerChars t :=
  lowerFrom_append_blank hb false s t

/-- Lower case leaves no text of blanks only that was none. -/
theorem exists_not_blank_lowerFrom {s : List Char} (before : Bool)
    (h : ∃ c ∈ s, isBlank c = false) : ∃ d ∈ lowerFrom before s, isBlank d = false := by
  induction s generalizing before with
  | nil =>
    obtain ⟨c, hc, -⟩ := h
    exact absurd hc List.not_mem_nil
  | cons c s ih =>
    obtain ⟨x, hx, hxb⟩ := h
    rcases List.mem_cons.mp hx with rfl | hx
    · obtain ⟨d, hd⟩ := List.exists_mem_of_ne_nil _ (lowerIn_ne_nil before x s)
      exact ⟨d, List.mem_append_left _ hd, not_blank_of_mem_lowerIn hxb hd⟩
    · obtain ⟨d, hd, hdb⟩ := ih (casedAfter before c) ⟨x, hx, hxb⟩
      exact ⟨d, List.mem_append_right _ hd, hdb⟩

theorem wordsFrom_append_blank {b : Char} (hb : isBlank b = true) (word s t : List Char) :
    wordsFrom word (s ++ b :: t) = wordsFrom word s ++ words t := by
  -- On what stands before the blank, whatever word is unfinished there.
  induction s generalizing word with
  | nil =>
    cases word with
    | nil => simp [wordsFrom, hb, words]
    | cons c word => simp [wordsFrom, hb, words]
  | cons c s ih =>
    by_cases hc : isBlank c = true
    · cases word with
      | nil => simp [wordsFrom, hc, ih]
      | cons d word => simp [wordsFrom, hc, ih]
    · simp [wordsFrom, hc, ih]

/-- A blank ends a word. -/
theorem words_append_blank {b : Char} (hb : isBlank b = true) (s t : List Char) :
    words (s ++ b :: t) = words s ++ words t := wordsFrom_append_blank hb [] s t

theorem wordsFrom_ne_nil {word : List Char} (hw : word ≠ []) (s : List Char) :
    wordsFrom word s ≠ [] := by
  induction s generalizing word with
  | nil => simp [wordsFrom, hw]
  | cons c s ih =>
    by_cases hc : isBlank c = true
    · simp [wordsFrom, hc, hw]
    · simpa [wordsFrom, hc] using ih (List.cons_ne_nil c word)

/-- A text that is not made of blanks only has a word. -/
theorem words_ne_nil {s : List Char} (h : ∃ c ∈ s, isBlank c = false) : words s ≠ [] := by
  obtain ⟨c, hc, hb⟩ := h
  induction s with
  | nil => exact absurd hc List.not_mem_nil
  | cons d s ih =>
    by_cases hd : isBlank d = true
    · have hcs : c ∈ s := by
        rcases List.mem_cons.mp hc with rfl | hcs
        · rw [hb] at hd
          cases hd
        · exact hcs
      simpa [words, wordsFrom, hd] using ih hcs
    · simpa [words, wordsFrom, hd] using wordsFrom_ne_nil (List.cons_ne_nil d []) s

/-- A text without blanks that is not empty. -/
structure IsWord (w : List Char) : Prop where
  ne_nil : w ≠ []
  not_blank : ∀ c ∈ w, isBlank c = false

/-- Without a blank the word goes on to the end. -/
theorem wordsFrom_of_not_blank {s : List Char} (h : ∀ c ∈ s, isBlank c = false) {word : List Char}
    (hne : word ≠ []) : wordsFrom word s = [word.reverse ++ s] := by
  induction s generalizing word with
  | nil => simp [wordsFrom, hne]
  | cons c s ih =>
    obtain ⟨hc, hs⟩ := List.forall_mem_cons.mp h
    rw [wordsFrom, if_neg (by simp [hc]), ih hs (List.cons_ne_nil c word)]
    simp

/-- A word is the only word of itself. -/
theorem IsWord.words_eq {w : List Char} (h : IsWord w) : words w = [w] := by
  obtain ⟨c, s, rfl⟩ := List.exists_cons_of_ne_nil h.ne_nil
  obtain ⟨hc, hs⟩ := List.forall_mem_cons.mp h.not_blank
  rw [words, wordsFrom, if_neg (by simp [hc]), wordsFrom_of_not_blank hs (List.cons_ne_nil c [])]
  rfl

/-- The words of a text are words and made of its characters. -/
theorem isWord_of_mem_wordsFrom {word s w : List Char} (hword : ∀ c ∈ word, isBlank c = false)
    (hw : w ∈ wordsFrom word s) : IsWord w ∧ w ⊆ word ++ s := by
  -- With the word under way general: a blank ends it, and any other character joins it.
  induction s generalizing word with
  | nil =>
    rw [wordsFrom] at hw
    split at hw
    · cases hw
    · next hne =>
      rw [List.mem_singleton.mp hw]
      refine ⟨⟨by simpa using hne, fun c hc => hword c (List.mem_reverse.mp hc)⟩, ?_⟩
      simp
  | cons c s ih =>
    have hrest (hw : w ∈ wordsFrom [] s) : IsWord w ∧ w ⊆ word ++ c :: s := by
      obtain ⟨hword, hsub⟩ := ih (List.forall_mem_nil _) hw
      refine ⟨hword, fun d hd => ?_⟩
      exact List.mem_append_right _ (List.mem_cons_of_mem c (hsub hd))
    rw [wordsFrom] at hw
    split at hw
    · split at hw
      · exact hrest hw
      · next hne =>
        rcases List.mem_cons.mp hw with rfl | hw
        · refine ⟨⟨by simpa using hne, fun d hd => hword d (List.mem_reverse.mp hd)⟩, ?_⟩
          exact fun d hd => List.mem_append_left _ (List.mem_reverse.mp hd)
        · exact hrest hw
    · next hc =>
      obtain ⟨hw, hsub⟩ := ih (List.forall_mem_cons.mpr ⟨Bool.eq_false_iff.mpr hc, hword⟩) hw
      exact ⟨hw, fun d hd => List.perm_middle.mem_iff.mpr (hsub hd)⟩

theorem isWord_of_mem_words {s w : List Char} (hw : w ∈ words s) : IsWord w ∧ w ⊆ s :=
  isWord_of_mem_wordsFrom (List.forall_mem_nil _) hw

/-- Trimming takes away elements that satisfy `p` at both ends and nothing else. -/
theorem eq_append_trimBy {α : Type} (p : α → Bool) (s : List α) :
    ∃ l r, s = l ++ trimBy p s ++ r ∧ (∀ x ∈ l, p x = true) ∧ ∀ x ∈ r, p x = true := by
  let rest := s.dropWhile p
  refine ⟨s.takeWhile p, (rest.reverse.takeWhile p).reverse, ?_, ?_, ?_⟩
  · have hrest : rest =
        (rest.reverse.dropWhile p).reverse ++ (rest.reverse.takeWhile p).reverse := by
      rw [← List.reverse_append, List.takeWhile_append_dropWhile, List.reverse_reverse]
    rw [List.append_assoc, trimBy, ← hrest, List.takeWhile_append_dropWhile]
  · exact fun x hx => List.all_eq_true.mp List.all_takeWhile x hx
  · intro x hx
    exact List.all_eq_true.mp List.all_takeWhile x (List.mem_reverse.mp hx)

end ComparativeLaw.Text

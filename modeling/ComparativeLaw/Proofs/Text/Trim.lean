import ComparativeLaw.Proofs.Text.Settled
import Mathlib.Data.List.Basic
import Mathlib.Data.List.TakeWhile

namespace ComparativeLaw.Text

section Trimming

variable {α : Type} {p : α → Bool}

/-- A list with no element that satisfies `p` at either end. -/
structure Trimmed (p : α → Bool) (s : List α) : Prop where
  head : ∀ c ∈ s.head?, p c = false
  last : ∀ c ∈ s.getLast?, p c = false

theorem head?_dropWhile_not {s : List α} : ∀ c ∈ (s.dropWhile p).head?, p c = false := by
  induction s with
  | nil => simp
  | cons c s ih =>
    by_cases hc : p c = true
    · rwa [List.dropWhile_cons_of_pos hc]
    · rw [List.dropWhile_cons_of_neg hc]
      intro d hd
      cases hd
      exact Bool.eq_false_iff.mpr hc

theorem dropWhile_eq_self {s : List α} (h : ∀ c ∈ s.head?, p c = false) : s.dropWhile p = s := by
  cases s with
  | nil => rfl
  | cons c s =>
    have hc : p c = false := h c rfl
    exact List.dropWhile_cons_of_neg (by simp [hc])

/-- There is nothing to take from a trimmed text. -/
theorem Trimmed.trimBy_eq {s : List α} (h : Trimmed p s) : trimBy p s = s := by
  have hlast : ∀ c ∈ s.reverse.head?, p c = false := by
    rw [List.head?_reverse]
    exact h.last
  rw [trimBy, dropWhile_eq_self h.head, dropWhile_eq_self hlast, List.reverse_reverse]

/-- What is trimmed is trimmed: it neither starts nor ends with what is taken away. -/
theorem trimmed_trimBy (p : α → Bool) (s : List α) : Trimmed p (trimBy p s) := by
  let rest := s.dropWhile p
  let core := rest.reverse.dropWhile p
  have hrest : rest = core.reverse ++ (rest.reverse.takeWhile p).reverse := by
    rw [← List.reverse_append, List.takeWhile_append_dropWhile, List.reverse_reverse]
  constructor
  case head =>
    intro c hc
    -- The first element is still the first one of what follows the blanks ahead.
    have hfirst : c ∈ rest.head? := by
      rw [hrest]
      exact List.mem_head?_append_of_mem_head? hc
    exact head?_dropWhile_not c hfirst
  case last =>
    intro c hc
    have hfirst : c ∈ core.head? := by
      rwa [trimBy, List.getLast?_reverse] at hc
    exact head?_dropWhile_not c hfirst

/-- What is put around a trimmed list is trimmed off again. -/
theorem Trimmed.trimBy_append {l s r : List α} (h : Trimmed p s) (hl : ∀ c ∈ l, p c = true)
    (hr : ∀ c ∈ r, p c = true) : trimBy p (l ++ s ++ r) = s := by
  rw [trimBy, List.append_assoc, List.dropWhile_append_of_pos hl]
  cases s with
  | nil =>
    rw [List.nil_append, List.dropWhile_eq_nil_iff.mpr hr]
    rfl
  | cons c t =>
    have hhead : (c :: t ++ r).dropWhile p = c :: t ++ r := dropWhile_eq_self h.head
    have hlast : ((c :: t).reverse).dropWhile p = (c :: t).reverse := by
      apply dropWhile_eq_self
      rw [List.head?_reverse]
      exact h.last
    have hreverse : ∀ d ∈ r.reverse, p d = true := fun d hd => hr d (List.mem_reverse.mp hd)
    rw [hhead, List.reverse_append, List.dropWhile_append_of_pos hreverse, hlast,
      List.reverse_reverse]

/-- A trimmed list is not made of such elements only, unless it is empty. -/
theorem Trimmed.all_eq_false {s : List α} (h : Trimmed p s) (hne : s ≠ []) : s.all p = false := by
  obtain ⟨c, t, rfl⟩ := List.exists_cons_of_ne_nil hne
  have hc : p c = false := h.head c rfl
  rw [List.all_cons, hc, Bool.false_and]

/-- Nothing is left of a text if all of it is to be taken away. -/
theorem trimBy_eq_nil {s : List α} : trimBy p s = [] ↔ s.all p = true := by
  rw [← List.dropWhile_eq_nil_iff.trans List.all_eq_true.symm, trimBy, List.reverse_eq_nil_iff]
  constructor
  · intro h
    cases hrest : s.dropWhile p with
    | nil => rfl
    | cons c t =>
      -- The first one that is left does not satisfy `p`, so that something would be left again.
      have hc : p c = false := head?_dropWhile_not c (by rw [hrest]; rfl)
      have hmem : c ∈ (s.dropWhile p).reverse := by rw [hrest]; simp
      have hall := List.dropWhile_eq_nil_iff.mp h c hmem
      rw [hc] at hall
      cases hall
  · intro h
    rw [h]
    rfl

end Trimming

/-- Only a text of blanks is blank once it is trimmed. -/
theorem isBlankText_strip (s : String) : isBlankText (strip s) = isBlankText s := by
  unfold isBlankText strip
  rw [String.toList_ofList]
  cases hall : s.toList.all isBlank with
  | true =>
    rw [trimBy_eq_nil.mpr hall]
    rfl
  | false =>
    have hne : trimBy isBlank s.toList ≠ [] := by
      intro hnil
      rw [trimBy_eq_nil.mp hnil] at hall
      cases hall
    exact (trimmed_trimBy isBlank s.toList).all_eq_false hne

theorem ne_empty_of_isBlankText {s : String} (h : isBlankText s = false) : s ≠ "" := by
  rintro rfl
  exact absurd h (by decide)

theorem strip_strip (s : String) : strip (strip s) = strip s := by
  simp only [strip, String.toList_ofList, (trimmed_trimBy isBlank s.toList).trimBy_eq]

/-- What a change of case puts in place of a character: something, and blank only if the character
is. -/
structure Becomes (c : Char) (part : List Char) : Prop where
  ne_nil : part ≠ []
  not_blank : isBlank c = false → ∀ d ∈ part, isBlank d = false

theorem becomes_upperOf (c : Char) : Becomes c (upperOf c) :=
  ⟨upperOf_ne_nil c, fun h _ => not_blank_of_mem_upperOf h⟩

theorem becomes_lowerIn (before : Bool) (c : Char) (after : List Char) :
    Becomes c (lowerIn before c after) :=
  ⟨lowerIn_ne_nil before c after, fun h _ => not_blank_of_mem_lowerIn h⟩

/-- What starts with the part of the first character and ends with the part of the last one is
trimmed if the characters are. -/
theorem Trimmed.of_becomes {s t : List Char} (h : Trimmed isBlank s) (hnil : s = [] → t = [])
    (hfirst : ∀ c ∈ s.head?, ∃ x u, t = x ++ u ∧ Becomes c x)
    (hlast : ∀ c ∈ s.getLast?, ∃ v y, t = v ++ y ∧ Becomes c y) : Trimmed isBlank t := by
  by_cases hs : s = []
  · rw [hnil hs]
    exact hs ▸ h
  · constructor
    case head =>
      intro d hd
      obtain ⟨c, hc⟩ := Option.isSome_iff_exists.mp (List.isSome_head?.mpr hs)
      obtain ⟨x, u, rfl, hx⟩ := hfirst c hc
      rw [List.head?_append_of_ne_nil x hx.ne_nil] at hd
      exact hx.not_blank (h.head c hc) d (List.mem_of_head? hd)
    case last =>
      intro d hd
      obtain ⟨c, hc⟩ := Option.isSome_iff_exists.mp (List.getLast?_isSome.mpr hs)
      obtain ⟨v, y, rfl, hy⟩ := hlast c hc
      rw [List.getLast?_append_of_ne_nil v hy.ne_nil] at hd
      exact hy.not_blank (h.last c hc) d (List.mem_of_getLast? hd)

/-- The upper case of a trimmed text is trimmed. -/
theorem trimmed_upperChars {s : List Char} (h : Trimmed isBlank s) :
    Trimmed isBlank (upperChars s) := by
  apply h.of_becomes
  case hnil =>
    rintro rfl
    rfl
  case hfirst =>
    intro c hc
    obtain ⟨s', rfl⟩ := List.head?_eq_some_iff.mp hc
    exact ⟨upperOf c, upperChars s', List.flatMap_cons, becomes_upperOf c⟩
  case hlast =>
    intro c hc
    obtain ⟨front, rfl⟩ := List.getLast?_eq_some_iff.mp hc
    refine ⟨upperChars front, upperOf c, ?_, becomes_upperOf c⟩
    rw [upperChars, List.flatMap_append, List.flatMap_singleton]
    rfl

/-- The last character is put in lower case after whatever stands before it. -/
theorem exists_lowerFrom_concat (before : Bool) (front : List Char) (c : Char) :
    ∃ v b, lowerFrom before (front ++ [c]) = v ++ lowerIn b c [] := by
  induction front generalizing before with
  | nil => exact ⟨[], before, List.append_nil _⟩
  | cons d front ih =>
    obtain ⟨v, b, hv⟩ := ih (casedAfter before d)
    refine ⟨lowerIn before d (front ++ [c]) ++ v, b, ?_⟩
    rw [List.cons_append, lowerFrom, hv, List.append_assoc]

/-- The lower case of a trimmed text is trimmed. -/
theorem trimmed_lowerChars {s : List Char} (h : Trimmed isBlank s) :
    Trimmed isBlank (lowerChars s) := by
  apply h.of_becomes
  case hnil =>
    rintro rfl
    rfl
  case hfirst =>
    intro c hc
    obtain ⟨s', rfl⟩ := List.head?_eq_some_iff.mp hc
    exact ⟨lowerIn false c s', _, rfl, becomes_lowerIn false c s'⟩
  case hlast =>
    intro c hc
    obtain ⟨front, rfl⟩ := List.getLast?_eq_some_iff.mp hc
    obtain ⟨v, b, hv⟩ := exists_lowerFrom_concat false front c
    exact ⟨v, lowerIn b c [], hv, becomes_lowerIn b c []⟩

theorem upper_upper (s : String) : upper (upper s) = upper s := by
  simp only [upper, String.toList_ofList, upperChars_upperChars]

theorem lower_lower (s : String) : lower (lower s) = lower s := by
  simp only [lower, String.toList_ofList, lowerChars_lowerChars]

/-- After the upper case there is nothing left to trim. -/
theorem strip_upper_strip (s : String) : strip (upper (strip s)) = upper (strip s) := by
  have htrimmed := trimmed_upperChars (trimmed_trimBy isBlank s.toList)
  simp only [upper, strip, String.toList_ofList, htrimmed.trimBy_eq]

/-- After the lower case there is nothing left to trim. -/
theorem strip_lower_strip (s : String) : strip (lower (strip s)) = lower (strip s) := by
  have htrimmed := trimmed_lowerChars (trimmed_trimBy isBlank s.toList)
  simp only [lower, strip, String.toList_ofList, htrimmed.trimBy_eq]

end ComparativeLaw.Text

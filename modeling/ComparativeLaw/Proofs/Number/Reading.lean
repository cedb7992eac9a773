import ComparativeLaw.Proofs.Calendar.Text
import ComparativeLaw.Proofs.Text.Trim
import ComparativeLaw.Schema.Number

/-!
Number texts that are read in two ways: as a schema reads them, and by the plain form that any
script, blank and underscore is brought to. Each way reads texts that the other refuses. Where both
read a text, they read the same number.
-/
namespace ComparativeLaw

open Text

namespace Text

variable {s t u : List Char} {c : Char}

/-- A character that is its own plain form and no blank. -/
def Solid (c : Char) : Prop := c.toNat < 0x7F ∧ isBlank c = false

instance : DecidablePred Solid := fun c =>
  inferInstanceAs (Decidable (c.toNat < 0x7F ∧ isBlank c = false))

theorem isBlank_of_isPlainBlank (h : isPlainBlank c = true) : isBlank c = true := by
  have hrange : c.toNat = 0x20 ∨ 0x9 ≤ c.toNat ∧ c.toNat ≤ 0xD := by
    simp only [isPlainBlank, Bool.or_eq_true, Bool.and_eq_true, decide_eq_true_eq] at h
    rcases h with rfl | ⟨hlow, hhigh⟩
    · exact .inl rfl
    · exact .inr ⟨hlow, hhigh⟩
  simp only [isBlank, inRanges_iff, blankRanges, List.mem_cons]
  rcases hrange with h | h
  · exact ⟨(0x1C, 0x20), by simp, by omega, by omega⟩
  · exact ⟨(0x9, 0xD), by simp, h⟩

theorem Solid.not_plainBlank (h : Solid c) : isPlainBlank c = false := by
  rw [Bool.eq_false_iff]
  intro hc
  have hblank := isBlank_of_isPlainBlank hc
  rw [h.2] at hblank
  cases hblank

/-- A solid character is read as itself. -/
theorem Solid.plainDigit?_eq (h : Solid c) : plainDigit? c = some c := by
  rw [plainDigit?, if_pos h.1]

theorem solid_of_isDigit (h : isDigit c = true) : Solid c := by
  simp only [isDigit, Bool.and_eq_true, decide_eq_true_eq] at h
  have hrange : 0x30 ≤ c.toNat ∧ c.toNat ≤ 0x39 := h
  have hapart : apart [(0x30, 0x39)] blankRanges = true := by decide
  refine ⟨by omega, inRanges_of_apart hapart (inRanges_iff.mpr ⟨(0x30, 0x39), by simp, hrange⟩)⟩

/-- A blank around a number text has a plain blank for its plain form. -/
theorem plainDigit?_of_isSpace (h : Schema.isSpace c = true) :
    ∃ d, plainDigit? c = some d ∧ isPlainBlank d = true := by
  simp only [Schema.isSpace, Bool.and_eq_true, Bool.not_eq_true', Bool.and_eq_false_iff,
    decide_eq_false_iff_not] at h
  obtain ⟨hblank, hseparator⟩ := h
  by_cases hascii : c.toNat < 0x7F
  · refine ⟨c, by rw [plainDigit?, if_pos hascii], ?_⟩
    -- Below the delete character, all but the separators are plain blanks.
    have hrange : c.toNat = 0x20 ∨ 0x9 ≤ c.toNat ∧ c.toNat ≤ 0xD := by
      simp only [isBlank, inRanges_iff, blankRanges, List.mem_cons, List.not_mem_nil, or_false,
        exists_eq_or_imp, exists_eq_left] at hblank
      omega
    simp only [isPlainBlank, Bool.or_eq_true, Bool.and_eq_true, decide_eq_true_eq]
    rcases hrange with h | h
    · exact .inl (Char.toNat_inj.mp h)
    · exact .inr h
  · exact ⟨' ', by rw [plainDigit?, if_neg hascii, if_pos hblank], rfl⟩

/-- A text of solid characters has no blank to trim. -/
theorem trimmed_of_solid (h : ∀ c ∈ s, Solid c) : Trimmed isPlainBlank s where
  head c hc := (h c (List.mem_of_mem_head? hc)).not_plainBlank
  last c hc := (h c (List.mem_of_mem_getLast? hc)).not_plainBlank

theorem plain_of_solid (h : ∀ c ∈ s, Solid c) : s.mapM plainDigit? = some s := by
  induction s with
  | nil => rfl
  | cons c s ih =>
    obtain ⟨hc, hs⟩ := List.forall_mem_cons.mp h
    rw [List.mapM_cons, hc.plainDigit?_eq, ih hs]
    rfl

/-- What one reader takes for a space, the other one takes for a blank. -/
theorem plain_of_spaces (h : ∀ c ∈ s, Schema.isSpace c = true) :
    ∃ u, s.mapM plainDigit? = some u ∧ ∀ d ∈ u, isPlainBlank d = true := by
  induction s with
  | nil => exact ⟨[], rfl, nofun⟩
  | cons c s ih =>
    obtain ⟨hc, hs⟩ := List.forall_mem_cons.mp h
    obtain ⟨d, hd, hblank⟩ := plainDigit?_of_isSpace hc
    obtain ⟨u, hu, hblanks⟩ := ih hs
    refine ⟨d :: u, ?_, List.forall_mem_cons.mpr ⟨hblank, hblanks⟩⟩
    rw [List.mapM_cons, hd, hu]
    rfl

/-- A text whose trimmed part is solid keeps that part in its plain form. -/
theorem plain_of_trimmed (h : ∀ c ∈ Schema.trimmed s, Solid c) : ∃ before after,
    s.mapM plainDigit? = some (before ++ Schema.trimmed s ++ after) ∧
      (∀ d ∈ before, isPlainBlank d = true) ∧ ∀ d ∈ after, isPlainBlank d = true := by
  obtain ⟨before, after, hs, hbefore, hafter⟩ := eq_append_trimBy Schema.isSpace s
  obtain ⟨before', hbefore', hblank⟩ := plain_of_spaces hbefore
  obtain ⟨after', hafter', hblank'⟩ := plain_of_spaces hafter
  refine ⟨before', after', ?_, hblank, hblank'⟩
  have htrimmed : (trimBy Schema.isSpace s).mapM plainDigit? = some (Schema.trimmed s) :=
    plain_of_solid h
  conv_lhs => rw [hs]
  rw [List.mapM_append, List.mapM_append, hbefore', htrimmed, hafter']
  rfl

/-- A text that is solid between its spaces is read without them. -/
theorem plainNumber?_of_trimmed (h : ∀ c ∈ Schema.trimmed s, Solid c) :
    plainNumber? s = some (Schema.trimmed s) := by
  obtain ⟨before, after, hplain, hbefore, hafter⟩ := plain_of_trimmed h
  rw [plainNumber?, hplain]
  exact congrArg some ((trimmed_of_solid h).trimBy_append hbefore hafter)

theorem plainNumber?_of_solid (h : ∀ c ∈ s, Solid c) : plainNumber? s = some s := by
  rw [plainNumber?, plain_of_solid h]
  exact congrArg some (trimmed_of_solid h).trimBy_eq

/-- Where underscores may be dropped, all of them are dropped and nothing else. -/
theorem dropUnderscores_eq_filter {afterDigit : Bool} (h : dropUnderscores afterDigit s = some t) :
    t = s.filter (· ≠ '_') := by
  induction afterDigit, s using dropUnderscores.induct generalizing t with
  | case1 =>
    cases h
    rfl
  | case2 afterDigit c s hdigit ih =>
    rw [dropUnderscores, if_pos hdigit] at h
    obtain ⟨u, hu, rfl⟩ := Option.map_eq_some_iff.mp h
    have hc : c ≠ '_' := by
      rintro rfl
      simp [isDigit] at hdigit
    rw [ih hu, List.filter_cons_of_neg (by simp), List.filter_cons_of_pos (by simpa using hc)]
  | case3 afterDigit c s hdigit =>
    rw [dropUnderscores, if_neg hdigit] at h
    cases h
  | case4 => cases h
  | case5 afterDigit c s hpair hlast ih =>
    rw [dropUnderscores] at h
    · obtain ⟨u, hu, rfl⟩ := Option.map_eq_some_iff.mp h
      have hc : c ≠ '_' := by
        rintro rfl
        cases s with
        | nil => exact hlast rfl rfl
        | cons d s => exact hpair d s rfl rfl
      rw [ih hu, List.filter_cons_of_pos (by simpa using hc)]
    · exact hpair
    · exact hlast

/-- Once a character is no digit the number is lost. -/
theorem foldl_digits_none (s : List Char) :
    s.foldl (fun acc c => acc.bind fun v => (digitValue? c).map (10 * v + ·)) none = none := by
  induction s with
  | nil => rfl
  | cons c s ih => exact ih

/-- Only digits are read, and at least one. -/
theorem digits_of_readDigits? {n : Nat} (h : readDigits? s = some n) :
    s ≠ [] ∧ ∀ c ∈ s, isDigit c = true := by
  unfold readDigits? at h
  split at h
  · cases h
  · next hne =>
    refine ⟨by simpa using hne, ?_⟩
    clear hne
    -- Whatever the fold starts from, a character that is no digit leaves nothing for the rest.
    generalize some 0 = start at h
    induction s generalizing start with
    | nil => exact nofun
    | cons c s ih =>
      rw [List.foldl_cons] at h
      refine List.forall_mem_cons.mpr ⟨?_, ih _ h⟩
      by_contra hc
      have hnone : digitValue? c = none := if_neg hc
      simp [hnone, foldl_digits_none] at h

/-- A run of digits has its usual value. -/
theorem readDigits?_eq_some {n : Nat} (h : readDigits? s = some n) :
    n = Nat.ofDigitChars 10 s 0 := by
  obtain ⟨hne, hdigits⟩ := digits_of_readDigits? h
  have hread := readDigits?_eq hne fun c hc => isDigit_iff.mp (hdigits c hc)
  rw [hread] at h
  exact (Option.some.inj h).symm

theorem mem_splitSign (h : c ∈ s) : c = '-' ∨ c = '+' ∨ c ∈ (splitSign s).2 := by
  unfold splitSign
  split
  · exact (List.mem_cons.mp h).imp_right .inr
  · exact (List.mem_cons.mp h).elim (.inr ∘ .inl) (.inr ∘ .inr)
  · exact .inr (.inr h)

end Text

namespace Numeral

variable {s : List Char} {c : Char}

/-- A solid character that is no underscore. -/
def Numeric (c : Char) : Prop := Solid c ∧ c ≠ '_'

instance : DecidablePred Numeric := fun c => inferInstanceAs (Decidable (Solid c ∧ c ≠ '_'))

theorem numeric_of_isDigit (h : isDigit c = true) : Numeric c := by
  refine ⟨solid_of_isDigit h, ?_⟩
  rintro rfl
  cases h

theorem numeric_mark (h : c ∈ ['+', '-', '.', 'e', 'E']) : Numeric c := by
  simp only [List.mem_cons, List.not_mem_nil, or_false] at h
  rcases h with rfl | rfl | rfl | rfl | rfl <;> decide

theorem numeric_of_toLower (h : Numeric c.toLower) : Numeric c := by
  unfold Char.toLower at h
  split at h
  · next hupper =>
    have hrange : 0x41 ≤ c.toNat ∧ c.toNat ≤ 0x5A := hupper
    have hapart : apart [(0x41, 0x5A)] blankRanges = true := by decide
    refine ⟨⟨by omega, ?_⟩, ?_⟩
    · exact inRanges_of_apart hapart (inRanges_iff.mpr ⟨(0x41, 0x5A), by simp, hrange⟩)
    · rintro rfl
      exact absurd hrange (by decide)
  · exact h

theorem numeric_of_readDigits? {n : Nat} (h : readDigits? s = some n) : ∀ c ∈ s, Numeric c :=
  fun c hc => numeric_of_isDigit ((digits_of_readDigits? h).2 c hc)

/-- The sign is a character of numbers. -/
theorem numeric_of_splitSign (h : ∀ c ∈ (splitSign s).2, Numeric c) : ∀ c ∈ s, Numeric c := by
  intro c hc
  rcases mem_splitSign hc with rfl | rfl | hc
  · exact numeric_mark (by decide)
  · exact numeric_mark (by decide)
  · exact h c hc

theorem numeric_of_readExponent? {e : Int} (h : readExponent? s = some e) :
    ∀ c ∈ s, Numeric c := by
  cases s with
  | nil => exact nofun
  | cons c s =>
    rw [readExponent?] at h
    split at h
    · next hmark =>
      obtain ⟨n, hn, -⟩ := Option.bind_eq_some_iff.mp h
      have hc : c ∈ ['+', '-', '.', 'e', 'E'] := by
        simp only [Bool.or_eq_true, decide_eq_true_eq] at hmark
        rcases hmark with rfl | rfl <;> decide
      have hrest : ∀ d ∈ s, Numeric d := numeric_of_splitSign (numeric_of_readDigits? hn)
      exact List.forall_mem_cons.mpr ⟨numeric_mark hc, hrest⟩
    · cases h

/-- What is read without a sign is made of the characters of numbers. -/
theorem numeric_of_readUnsigned? {negative : Bool} {n : Numeral}
    (h : readUnsigned? negative s = some n) : ∀ c ∈ s, Numeric c := by
  have hsplit (t : List Char) {c : Char} (hc : c ∈ t) :
      c ∈ t.takeWhile isDigit ∨ c ∈ t.dropWhile isDigit := by
    rwa [← List.mem_append, List.takeWhile_append_dropWhile]
  unfold readUnsigned? at h
  obtain ⟨digits, hdigits, h⟩ := Option.bind_eq_some_iff.mp h
  obtain ⟨exponent, hexponent, -⟩ := Option.bind_eq_some_iff.mp h
  have hdigits := numeric_of_readDigits? hdigits
  have hexponent := numeric_of_readExponent? hexponent
  rw [List.forall_mem_append] at hdigits
  obtain ⟨hwhole, hfraction⟩ := hdigits
  have hrest := And.intro hfraction hexponent
  intro c hc
  rcases hsplit s hc with hc | hc
  · exact hwhole c hc
  -- What follows the whole part is a point with the fraction, or the exponent at once.
  split at hrest
  · next t hafter =>
    rw [hafter] at hc
    rcases List.mem_cons.mp hc with rfl | hc
    · exact numeric_mark (by decide)
    · exact (hsplit t hc).elim (hrest.1 c) (hrest.2 c)
  · exact hrest.2 c hc

/-- So is the name of a number that is not finite. -/
theorem numeric_of_name {name : String} (hname : name.toList.all (Numeric ·) = true)
    (h : String.ofList (s.map Char.toLower) = name) : ∀ c ∈ s, Numeric c := by
  intro c hc
  have hmem : c.toLower ∈ name.toList := by
    rw [← h, String.toList_ofList]
    exact List.mem_map_of_mem hc
  exact numeric_of_toLower (of_decide_eq_true (List.all_eq_true.mp hname _ hmem))

/-- What is read as a number of any sort is made of the characters of numbers. -/
theorem numeric_of_readPlain? {n : Numeral} (h : readPlain? s = some n) : ∀ c ∈ s, Numeric c := by
  apply numeric_of_splitSign
  unfold readPlain? at h
  generalize splitSign s = parts at h ⊢
  obtain ⟨negative, body⟩ := parts
  simp only at h
  -- What follows the sign is one of three names or a decimal number.
  split at h
  · next hname => exact numeric_of_name (by decide +kernel) hname
  · next hname => exact numeric_of_name (by decide +kernel) hname
  · next hname => exact numeric_of_name (by decide +kernel) hname
  · exact numeric_of_readUnsigned? h

/-- Where there is no underscore none is dropped. -/
theorem dropUnderscores_of_numeric {afterDigit : Bool} (h : ∀ c ∈ s, Numeric c) :
    dropUnderscores afterDigit s = some s := by
  induction s generalizing afterDigit with
  | nil => rfl
  | cons c s ih =>
    obtain ⟨hc, hs⟩ := List.forall_mem_cons.mp h
    rw [dropUnderscores, ih hs]
    · rfl
    · exact fun _ _ hbad => absurd hbad hc.2
    · exact fun hbad => absurd hbad hc.2

/-- The number that a schema reads from a text is the only one that the text may be read as. -/
theorem read?_eq {text : String} {n m : Numeral} (h : Schema.numeralOfText? text = some n)
    (hread : read? text = some m) : m = n := by
  unfold Schema.numeralOfText? at h
  obtain ⟨plain, hplain, hrest⟩ := Option.bind_eq_some_iff.mp hread
  obtain ⟨kept, hkept, hm⟩ := Option.bind_eq_some_iff.mp hrest
  cases htrimmed : readPlain? (Schema.trimmed text.toList) with
  | some n' =>
    have hnumeric := numeric_of_readPlain? htrimmed
    rw [plainNumber?_of_trimmed fun c hc => (hnumeric c hc).1] at hplain
    cases hplain
    rw [dropUnderscores_of_numeric hnumeric] at hkept
    cases hkept
    rw [htrimmed] at h hm
    exact Option.some.inj (hm.symm.trans h)
  | none =>
    rw [htrimmed] at h
    obtain ⟨dropped, hdropped, h⟩ := Option.bind_eq_some_iff.mp h
    -- Without its underscores the text is numeric, so that it is its own plain form.
    have hfilter : dropped = text.toList.filter (· ≠ '_') := by
      unfold Schema.withoutUnderscores? at hdropped
      split at hdropped
      · cases hdropped
      · exact (Option.some.inj hdropped).symm
    have hsolid : ∀ c ∈ text.toList, Solid c := by
      intro c hc
      by_cases hbar : c = '_'
      · subst hbar
        decide
      · have hmem : c ∈ dropped := by
          rw [hfilter]
          exact List.mem_filter.mpr ⟨hc, by simpa using hbar⟩
        exact (numeric_of_readPlain? h c hmem).1
    rw [plainNumber?_of_solid hsolid] at hplain
    cases hplain
    have hkept : kept = dropped := (dropUnderscores_eq_filter hkept).trans hfilter.symm
    rw [hkept, h] at hm
    exact (Option.some.inj hm).symm

end Numeral

namespace Text

variable {s t u w : List Char} {c : Char} {n m : Int}

def isWhole (c : Char) : Bool := isDigit c || c = '_' || c = '-' || c = '+'

/-- The sign and the size of the whole number that a text of digits, underscores and signs holds,
wherever they stand in it. -/
def wholeIn (s : List Char) : Option (Bool × Nat) :=
  if s.all isWhole then some (s.contains '-', Nat.ofDigitChars 10 (s.filter isDigit) 0) else none

def signedNumber (p : Bool × Nat) : Int := if p.1 then -p.2 else p.2

/-- A whole number is written in solid characters. -/
theorem solid_of_wholeIn {p : Bool × Nat} (h : wholeIn s = some p) : ∀ c ∈ s, Solid c := by
  unfold wholeIn at h
  split at h
  · next hall =>
    intro c hc
    have hc := List.all_eq_true.mp hall c hc
    simp only [isWhole, Bool.or_eq_true, decide_eq_true_eq] at hc
    rcases hc with ((hdigit | rfl) | rfl) | rfl
    · exact solid_of_isDigit hdigit
    all_goals decide
  · cases h

/-- Zeros, underscores and pluses in front count for nothing. -/
theorem wholeIn_cons (hc : c = '0' ∨ c = '_' ∨ c = '+') : wholeIn (c :: s) = wholeIn s := by
  rcases hc with rfl | rfl | rfl
  · have hdigits : (('0' :: s).filter isDigit) = '0' :: s.filter isDigit := rfl
    simp [wholeIn, hdigits, isWhole, isDigit, Nat.ofDigitChars_cons]
  · simp [wholeIn, isWhole, isDigit]
  · simp [wholeIn, isWhole, isDigit]

theorem wholeIn_minus (s : List Char) :
    wholeIn ('-' :: s) = (wholeIn s).map fun p => (true, p.2) := by
  unfold wholeIn
  have hall : ('-' :: s).all isWhole = s.all isWhole := by simp [isWhole]
  rw [hall]
  split
  · simp [isDigit]
  · rfl

/-- A run of digits and underscores has the value of its digits. -/
theorem wholeIn_of_run (h : ∀ c ∈ s, isDigit c = true ∨ c = '_') :
    wholeIn s = some (false, Nat.ofDigitChars 10 (s.filter (· ≠ '_')) 0) := by
  have hall : s.all isWhole = true := by
    refine List.all_eq_true.mpr fun c hc => ?_
    rcases h c hc with hdigit | rfl
    · simp [isWhole, hdigit]
    · rfl
  have hminus : s.contains '-' = false := by
    rw [List.contains_eq_mem, decide_eq_false_iff_not]
    intro hmem
    rcases h _ hmem with hdigit | hbar
    · cases hdigit
    · cases hbar
  have hdigits : s.filter isDigit = s.filter (· ≠ '_') := by
    refine List.filter_congr fun c hc => ?_
    rcases h c hc with hdigit | rfl
    · have hbar : c ≠ '_' := by
        rintro rfl
        cases hdigit
      rw [hdigit, decide_eq_true hbar]
    · rfl
  rw [wholeIn, if_pos hall, hminus, hdigits]

theorem wholeIn_of_readDigits? {k : Nat} (h : readDigits? s = some k) :
    wholeIn s = some (false, k) := by
  obtain ⟨-, hdigits⟩ := digits_of_readDigits? h
  have hbare : s.filter (· ≠ '_') = s := by
    refine List.filter_eq_self.mpr fun c hc => ?_
    have hbar : c ≠ '_' := by
      rintro rfl
      cases hdigits _ hc
    simpa using hbar
  rw [wholeIn_of_run fun c hc => .inl (hdigits c hc), hbare, readDigits?_eq_some h]

/-- Underscores do not matter to the value. -/
theorem wholeIn_filter (s : List Char) : wholeIn (s.filter (· ≠ '_')) = wholeIn s := by
  have hall : (s.filter (· ≠ '_')).all isWhole = s.all isWhole := by
    rw [Bool.eq_iff_iff, List.all_eq_true, List.all_eq_true]
    constructor
    · intro h c hc
      by_cases hbar : c = '_'
      · rw [hbar]
        rfl
      · exact h c (List.mem_filter.mpr ⟨hc, by simpa using hbar⟩)
    · exact fun h c hc => h c (List.mem_filter.mp hc).1
  have hminus : (s.filter (· ≠ '_')).contains '-' = s.contains '-' := by
    simp [List.contains_eq_mem]
  have hdigits : (s.filter (· ≠ '_')).filter isDigit = s.filter isDigit := by
    rw [List.filter_filter]
    refine List.filter_congr fun c _ => ?_
    by_cases hbar : c = '_'
    · rw [hbar]
      rfl
    · rw [decide_eq_true hbar, Bool.and_true]
  rw [wholeIn, hall, hminus, hdigits, wholeIn]

theorem plain_of_plainRun (h : (plainRun s).2 = true) :
    s.mapM plainDigit? = some (plainRun s).1 := by
  induction s with
  | nil => rfl
  | cons c s ih =>
    rw [List.mapM_cons]
    unfold plainRun at h ⊢
    cases hc : plainDigit? c with
    | none =>
      rw [hc] at h
      cases h
    | some d =>
      rw [hc] at h
      rw [ih h]
      rfl

theorem mem_plain (hu : s.mapM plainDigit? = some u) (hc : c ∈ s) (hsolid : Solid c) : c ∈ u := by
  induction s generalizing u with
  | nil => cases hc
  | cons d s ih =>
    rw [List.mapM_cons] at hu
    obtain ⟨e, he, hu⟩ := Option.bind_eq_some_iff.mp hu
    obtain ⟨v, hv, hu⟩ := Option.bind_eq_some_iff.mp hu
    cases hu
    rcases List.mem_cons.mp hc with rfl | hc
    · rw [hsolid.plainDigit?_eq] at he
      cases he
      exact List.mem_cons_self
    · exact List.mem_cons_of_mem _ (ih hv hc)

/-- What is left of a plain form without its blanks. -/
def unspaced (s : List Char) : List Char := s.filter fun c => !isPlainBlank c

theorem unspaced_of_blanks (h : ∀ c ∈ s, isPlainBlank c = true) : unspaced s = [] := by
  refine List.filter_eq_nil_iff.mpr fun c hc => ?_
  simp [h c hc]

theorem unspaced_of_solid (h : ∀ c ∈ s, Solid c) : unspaced s = s := by
  refine List.filter_eq_self.mpr fun c hc => ?_
  simp [(h c hc).not_plainBlank]

theorem unspaced_append (s t : List Char) : unspaced (s ++ t) = unspaced s ++ unspaced t :=
  List.filter_append s t

/-- Blanks in front do not matter once all of them are left out. -/
theorem unspaced_dropWhile (s : List Char) : unspaced (s.dropWhile isPlainBlank) = unspaced s := by
  have hblank : unspaced (s.takeWhile isPlainBlank) = [] :=
    unspaced_of_blanks fun c hc => List.mem_takeWhile_imp hc
  conv_rhs => rw [← List.takeWhile_append_dropWhile (p := isPlainBlank) (l := s)]
  rw [unspaced_append, hblank, List.nil_append]

/-- A run of digits with nothing but blanks behind it has the value of the run. -/
theorem wholeIn_of_digitRun {digits rest : List Char} {k : Nat}
    (h : digitRun? s = some (digits, rest)) (hk : readDigits? digits = some k)
    (hrest : rest.all isPlainBlank = true) : wholeIn (unspaced s) = some (false, k) := by
  obtain ⟨kept, hkept, hpair⟩ := Option.map_eq_some_iff.mp h
  obtain ⟨rfl, hdrop⟩ := Prod.mk.inj hpair
  let run := s.takeWhile fun c => isDigit c || c = '_'
  have hrun : ∀ c ∈ run, isDigit c = true ∨ c = '_' := by
    intro c hc
    simpa using List.mem_takeWhile_imp hc
  have hsolid : ∀ c ∈ run, Solid c := by
    intro c hc
    rcases hrun c hc with hdigit | rfl
    · exact solid_of_isDigit hdigit
    · decide
  have hsplit : s = run ++ rest := by
    obtain ⟨tail, htail⟩ := List.takeWhile_prefix (l := s) fun c => isDigit c || c = '_'
    have htail : run ++ tail = s := htail
    have hlength : s.drop run.length = tail := by
      rw [← htail, List.drop_left]
    rw [← hdrop, hlength, htail]
  have hblank : unspaced rest = [] := unspaced_of_blanks (List.all_eq_true.mp hrest)
  rw [hsplit, unspaced_append, hblank, List.append_nil, unspaced_of_solid hsolid,
    wholeIn_of_run hrun, ← dropUnderscores_eq_filter hkept, readDigits?_eq_some hk]

/-- The sign goes before the value of what follows it. -/
theorem wholeIn_of_splitSign {k : Nat}
    (h : wholeIn (unspaced (splitSign s).2) = some (false, k)) :
    wholeIn (unspaced s) = some ((splitSign s).1, k) := by
  unfold splitSign at h ⊢
  split at h
  · next t =>
    have hminus : unspaced ('-' :: t) = '-' :: unspaced t := rfl
    rw [hminus, wholeIn_minus, h]
    rfl
  · next t =>
    have hplus : unspaced ('+' :: t) = '+' :: unspaced t := rfl
    rw [hplus, wholeIn_cons (.inr (.inr rfl)), h]
  · exact h

/-- A whole number is what the plain form of its text holds between the blanks. -/
theorem readInteger_eq_ok {text : String} (h : readInteger text = .ok n) : ∃ u p,
    text.toList.mapM plainDigit? = some u ∧ wholeIn (unspaced u) = some p ∧ n = signedNumber p := by
  unfold readInteger at h
  simp only at h
  split at h
  · cases h
  · next digits rest hrun =>
    split at h
    · cases h
    · split at h
      · next k hk =>
        split at h
        · next hend =>
          cases h
          obtain ⟨hcomplete, hrest⟩ := Bool.and_eq_true_iff.mp hend
          have hnumber := wholeIn_of_splitSign (wholeIn_of_digitRun hrun hk hrest)
          rw [unspaced_dropWhile] at hnumber
          exact ⟨_, _, plain_of_plainRun hcomplete, hnumber, rfl⟩
        · cases h
      · cases h

end Text

namespace Schema

variable {s w : List Char} {n m : Int}

theorem afterZeros?_eq_some {last : Char} (h : afterZeros? last s = some w)
    (hlast : last = '0' ∨ last = '_') : wholeIn w = wholeIn s ∧ w ⊆ last :: s := by
  have hcount {c : Char} (hc : c = '0' ∨ c = '_') (t : List Char) : wholeIn (c :: t) = wholeIn t :=
    wholeIn_cons (hc.imp_right .inl)
  -- With the last character general: a zero or an underscore, so that it counts for nothing.
  induction s generalizing last with
  | nil =>
    cases h
    exact ⟨hcount hlast [], fun c hc => hc⟩
  | cons c s ih =>
    rw [afterZeros?] at h
    split at h
    · next hzero =>
      have hzero : c = '0' ∨ c = '_' := by simpa using hzero
      obtain ⟨hwhole, hsub⟩ := ih h hzero
      exact ⟨hwhole.trans (hcount hzero s).symm, fun d hd => List.mem_cons_of_mem _ (hsub hd)⟩
    · split at h
      · cases h
        exact ⟨rfl, fun d hd => List.mem_cons_of_mem _ hd⟩
      · split at h
        · cases h
          exact ⟨hcount hlast _, fun d hd => hd⟩
        · cases h

/-- Zeros in front do not matter to the value. -/
theorem withoutZeros?_eq_some (h : withoutZeros? s = some w) : wholeIn w = wholeIn s ∧ w ⊆ s := by
  unfold withoutZeros? at h
  split at h
  · cases h
  · next c t =>
    split at h
    · next hzero =>
      subst hzero
      obtain ⟨hwhole, hsub⟩ := afterZeros?_eq_some h (.inl rfl)
      exact ⟨hwhole.trans (wholeIn_cons (.inl rfl)).symm, hsub⟩
    · split at h
      · cases h
        exact ⟨rfl, fun d hd => hd⟩
      · cases h

/-- Nothing that counts is lost with the plus and the zeros in front. -/
theorem unpadded?_eq_some (h : unpadded? s = some w) : wholeIn w = wholeIn s ∧ w ⊆ s := by
  unfold unpadded? at h
  split at h
  · cases h
  · next t _ =>
    obtain ⟨hwhole, hsub⟩ := withoutZeros?_eq_some h
    refine ⟨hwhole.trans (wholeIn_cons (.inr (.inr rfl))).symm, ?_⟩
    exact fun d hd => List.mem_cons_of_mem _ (hsub hd)
  · next t =>
    obtain ⟨v, hv, rfl⟩ := Option.map_eq_some_iff.mp h
    obtain ⟨hwhole, hsub⟩ := withoutZeros?_eq_some hv
    refine ⟨by rw [wholeIn_minus, wholeIn_minus, hwhole], ?_⟩
    exact List.cons_subset_cons _ hsub
  · exact withoutZeros?_eq_some h

/-- A text without a point is its own whole part. -/
theorem wholePart?_eq_some (h : wholePart? s = some w) (hpoint : '.' ∉ s) : w = s := by
  have hnone : s.dropWhile (· ≠ '.') = [] := by
    refine List.dropWhile_eq_nil_iff.mpr fun c hc => ?_
    have hne : c ≠ '.' := by
      rintro rfl
      exact hpoint hc
    simpa using hne
  rw [wholePart?, hnone] at h
  exact (Option.some.inj h).symm

/-- Neither do the underscores that are taken out first. -/
theorem wholeIn_withoutUnderscores? (s : List Char) :
    wholeIn ((withoutUnderscores? s).getD s) = wholeIn s := by
  unfold withoutUnderscores?
  split
  · rfl
  · exact wholeIn_filter s

/-- The parts of a whole number without a point have its sign and its value. -/
theorem integerParts?_eq_some {negative : Bool} {digits : List Char} {k : Nat}
    (h : integerParts? s = some (negative, digits)) (hpoint : '.' ∉ s)
    (hdigits : wholeIn digits = some (false, k)) : wholeIn s = some (negative, k) := by
  obtain ⟨v, hv, h⟩ := Option.bind_eq_some_iff.mp h
  obtain ⟨whole, hwhole, h⟩ := Option.bind_eq_some_iff.mp h
  obtain ⟨hkept, hsub⟩ := unpadded?_eq_some hv
  have hsame : whole = v := wholePart?_eq_some hwhole fun hmem => hpoint (hsub hmem)
  have hbare := wholeIn_withoutUnderscores? whole
  rw [← hkept, ← hsame, ← hbare]
  generalize (withoutUnderscores? whole).getD whole = bare at h
  have h := Option.some.inj h
  split at h
  · obtain ⟨rfl, rfl⟩ := Prod.mk.inj h
    rw [wholeIn_minus, hdigits]
    rfl
  · obtain ⟨rfl, rfl⟩ := Prod.mk.inj h
    exact hdigits

/-- A whole number that a schema reads from a text without a point is what the text holds. -/
theorem integerOfText_eq_ok {text : String} (h : integerOfText text = .ok n)
    (hpoint : '.' ∉ trimmed text.toList) :
    ∃ p, wholeIn (trimmed text.toList) = some p ∧ n = signedNumber p := by
  unfold integerOfText at h
  split at h
  · cases h
  · next negative digits hparts =>
    simp only at h
    split at h
    · cases h
    · split at h
      · cases h
      · split at h
        · next k hrest hk =>
          cases h
          have hall : digits.takeWhile isDigit = digits := by
            have hsplit := List.takeWhile_append_dropWhile (p := isDigit) (l := digits)
            rwa [show digits.dropWhile isDigit = [] from hrest, List.append_nil] at hsplit
          have hk : readDigits? digits = some k := hall ▸ hk
          exact ⟨_, integerParts?_eq_some hparts hpoint (wholeIn_of_readDigits? hk), rfl⟩
        · cases h

/-- The whole number that a schema reads from a text is the only one that the text may be read
as. -/
theorem readInteger_eq {text : String} (h : integerOfText text = .ok n)
    (hread : readInteger text = .ok m) : m = n := by
  obtain ⟨u, p, hu, hp, rfl⟩ := readInteger_eq_ok hread
  have hpoint : '.' ∉ trimmed text.toList := by
    intro hmem
    obtain ⟨before, after, htext, -, -⟩ := eq_append_trimBy isSpace text.toList
    have htext : '.' ∈ text.toList := by
      rw [htext]
      exact List.mem_append_left _ (List.mem_append_right _ hmem)
    have hsolid : Solid '.' := by decide
    have hleft : '.' ∈ unspaced u :=
      List.mem_filter.mpr ⟨mem_plain hu htext hsolid, by decide⟩
    -- A point is no character of a whole number.
    unfold wholeIn at hp
    split at hp
    · next hall => exact absurd (List.all_eq_true.mp hall _ hleft) (by decide)
    · cases hp
  obtain ⟨q, hq, rfl⟩ := integerOfText_eq_ok h hpoint
  have hsolid := solid_of_wholeIn hq
  obtain ⟨before, after, hplain, hbefore, hafter⟩ := plain_of_trimmed hsolid
  have hunspaced : unspaced u = trimmed text.toList := by
    have hu : u = before ++ trimmed text.toList ++ after := Option.some.inj (hu.symm.trans hplain)
    rw [hu, unspaced_append, unspaced_append, unspaced_of_blanks hbefore, unspaced_of_blanks hafter,
      unspaced_of_solid hsolid, List.nil_append, List.append_nil]
  rw [hunspaced, hq] at hp
  cases hp
  rfl

end Schema

end ComparativeLaw

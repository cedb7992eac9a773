import ComparativeLaw.Proofs.Text.Word

/-!
Settled texts. Letter case is taken once and for all: what upper case leads to is its own upper case,
what lower case leads to is its own lower case wherever it stands, and neither makes a blank. The
tables of letters are checked run against run: no run ends where one starts.
-/
namespace ComparativeLaw.Text

/-- Whether a run ends where another one does not start: the ranges are apart, or the other one
passes over every second code point and the run keeps to the ones between. -/
def CaseRun.misses (r s : CaseRun) : Bool :=
  Nat.blt r.target.2 s.first || Nat.blt s.last r.target.1 ||
    Nat.beq s.step 2 && (Nat.beq r.step 2 || Nat.beq r.first r.last) &&
      Nat.beq ((r.target.1 + s.first) % 2) 1

/-- A run that misses another one does not move anything into it. -/
theorem CaseRun.not_covers_of_misses {r s : CaseRun} (hm : r.misses s = true)
    (h0 : 0 ≤ (r.first : Int) + r.offset) {n : Nat} (hn : r.covers n = true) :
    s.covers ((n : Int) + r.offset).toNat = false := by
  rw [Bool.eq_false_iff]
  intro hs
  obtain ⟨hfirst, hlast, hstep⟩ := CaseRun.covers_iff.mp hn
  obtain ⟨hfirst', hlast', hstep'⟩ := CaseRun.covers_iff.mp hs
  simp only [misses, CaseRun.target, Bool.or_eq_true, Bool.and_eq_true, Nat.blt_eq,
    Nat.beq_eq] at hm
  rcases hm with (hbelow | habove) | ⟨⟨htwo, hkeeps⟩, hodd⟩
  · omega
  · omega
  · rw [htwo] at hstep'
    rcases hkeeps with hkeeps | hsingle
    · rw [hkeeps] at hstep
      omega
    · omega

/-- Whether no run of a table ends where one starts. -/
def settles (runs : List CaseRun) : Bool :=
  runs.all fun r => decide (0 ≤ (r.first : Int) + r.offset) && runs.all r.misses

/-- Runs that settle move no point twice. -/
theorem shiftBy_shiftBy {runs : List CaseRun} (h : settles runs = true) (n : Nat) :
    shiftBy runs (shiftBy runs n) = shiftBy runs n := by
  rcases eq_shiftBy runs n with hs | ⟨r, hr, hc, hs⟩
  · rw [hs, hs]
  · have hrun := List.all_eq_true.mp h r hr
    simp only [Bool.and_eq_true, decide_eq_true_eq] at hrun
    obtain ⟨h0, hmisses⟩ := hrun
    rw [hs]
    -- A run that shifts the code point again would start where the first one ended.
    rcases eq_shiftBy runs ((n : Int) + r.offset).toNat with hs' | ⟨r', hr', hc', -⟩
    · exact hs'
    · have hm : r.misses r' = true := List.all_eq_true.mp hmisses r' hr'
      rw [CaseRun.not_covers_of_misses hm h0 hc] at hc'
      cases hc'

/-- The lower runs settle: each target is missed by every run. -/
theorem settles_lowerRuns : settles lowerRuns = true := by decide +kernel

theorem settles_upperRuns : settles upperRuns = true := by decide +kernel

/-- The character of a number and the number are one, unless it is no character's. -/
theorem toNat_ofNat_or (n : Nat) : (Char.ofNat n).toNat = n ∨ Char.ofNat n = '\x00' := by
  by_cases hv : n.isValidChar
  · exact .inl (toNat_ofNat hv)
  · right
    rw [Char.ofNat, dif_neg hv]
    rfl

/-- The code points that lower case maps on its own, apart from the shifts. -/
def lowerOwn : List (Nat × Nat) := [(0x41, 0x5A), (0x130, 0x130)]

/-- A code point that lower case leaves as it is. -/
structure IsLower (n : Nat) : Prop where
  own : inRanges lowerOwn n = false
  shift : shiftBy lowerRuns n = n

theorem ascii_apart_lowerSources :
    apart [(0, 0x7F)] (lowerRuns.map CaseRun.source) = true := by decide

theorem lowerOwn_apart_lowerTargets :
    apart lowerOwn (lowerRuns.map CaseRun.target) = true := by decide

theorem IsLower.of_ascii {n : Nat} (h : n ≤ 0x7F) (hl : ¬ (0x41 ≤ n ∧ n ≤ 0x5A)) : IsLower n where
  own := by
    rw [Bool.eq_false_iff]
    intro hown
    obtain ⟨r, hr, hr1, hr2⟩ := inRanges_iff.mp hown
    simp only [lowerOwn, List.mem_cons, List.not_mem_nil, or_false] at hr
    rcases hr with rfl | rfl
    · exact hl ⟨hr1, hr2⟩
    · omega
  shift := shiftBy_of_apart ascii_apart_lowerSources
    (inRanges_iff.mpr ⟨(0, 0x7F), List.mem_singleton_self _, Nat.zero_le n, h⟩)

/-- What the lower runs make of a point beyond ASCII is lower case. -/
theorem IsLower.of_shiftBy {n : Nat} (h : 0x7F < n) (h130 : n ≠ 0x130) :
    IsLower (shiftBy lowerRuns n) where
  own := by
    rw [Bool.eq_false_iff]
    intro hown
    obtain ⟨r, hr, hr1, hr2⟩ :=
      inRanges_iff.mp (inRanges_of_shiftBy lowerOwn_apart_lowerTargets hown)
    simp only [lowerOwn, List.mem_cons, List.not_mem_nil, or_false] at hr
    rcases hr with rfl | rfl <;> omega
  shift := shiftBy_shiftBy settles_lowerRuns n

/-- All that a character becomes in lower case is lower case. -/
theorem exists_isLower {c d : Char} (hd : d ∈ lowerOf c) : ∃ n, d = Char.ofNat n ∧ IsLower n := by
  simp only [lowerOf] at hd
  split at hd
  · next hascii =>
    have hle : c.toNat ≤ 0x7F := Nat.le_of_ble_eq_true hascii
    rw [List.mem_singleton.mp hd]
    split
    · next hletter =>
      simp only [Bool.and_eq_true, Nat.ble_eq] at hletter
      exact ⟨c.toNat + 32, rfl, .of_ascii (by omega) (by omega)⟩
    · next hletter =>
      simp only [Bool.and_eq_true, Nat.ble_eq] at hletter
      exact ⟨c.toNat, (Char.ofNat_toNat c).symm, .of_ascii hle hletter⟩
  · next hascii =>
    have hlt : 0x7F < c.toNat := by simpa using hascii
    split at hd
    · simp only [List.mem_cons, List.not_mem_nil, or_false] at hd
      rcases hd with rfl | rfl
      · exact ⟨0x69, rfl, .of_ascii (by decide) (by decide)⟩
      · exact ⟨0x307, rfl, by decide, by decide⟩
    · next h130 =>
      rw [List.mem_singleton.mp hd]
      have hne : c.toNat ≠ 0x130 := fun heq => h130 (Nat.beq_eq.mpr heq)
      exact ⟨_, rfl, .of_shiftBy hlt hne⟩

/-- A lower case point is its own lower case. -/
theorem IsLower.lowerOf_ofNat {n : Nat} (h : IsLower n) :
    lowerOf (Char.ofNat n) = [Char.ofNat n] := by
  rcases toNat_ofNat_or n with hn | h0
  · have hown := h.own
    simp only [inRanges, lowerOwn, List.any_cons, List.any_nil, Bool.or_false,
      Bool.or_eq_false_iff] at hown
    obtain ⟨hletter, hdotted⟩ := hown
    have h130 : Nat.beq n 0x130 = false := by
      rw [Bool.eq_false_iff]
      intro heq
      rw [Nat.eq_of_beq_eq_true heq] at hdotted
      cases hdotted
    simp [lowerOf, hn, hletter, h130, h.shift]
  · rw [h0]
    decide

theorem sigma_shifted : shiftBy lowerRuns 0x3A3 ≠ 0x3A3 := by decide

theorem IsLower.ofNat_ne_sigma {n : Nat} (h : IsLower n) : Char.ofNat n ≠ 'Σ' := by
  intro hsigma
  rcases toNat_ofNat_or n with hn | h0
  · rw [hsigma] at hn
    have hshift := h.shift
    rw [← hn] at hshift
    exact sigma_shifted hshift
  · rw [h0] at hsigma
    exact absurd hsigma (by decide)

/-- What lower case leads to is its own lower case wherever it stands. -/
theorem lowerIn_of_mem_lowerIn {c d : Char} {before : Bool} {after : List Char}
    (hd : d ∈ lowerIn before c after) (before' : Bool) (after' : List Char) :
    lowerIn before' d after' = [d] := by
  have hlower : ∃ n, d = Char.ofNat n ∧ IsLower n := by
    unfold lowerIn at hd
    split at hd
    · rw [List.mem_singleton.mp hd]
      split
      · exact ⟨0x3C2, rfl, by decide, by decide⟩
      · exact ⟨0x3C3, rfl, by decide, by decide⟩
    · exact exists_isLower hd
  obtain ⟨n, rfl, hn⟩ := hlower
  rw [lowerIn, if_neg hn.ofNat_ne_sigma, hn.lowerOf_ofNat]

theorem exists_of_mem_lowerFrom {d : Char} {before : Bool} {s : List Char}
    (hd : d ∈ lowerFrom before s) : ∃ c ∈ s, ∃ b after, d ∈ lowerIn b c after := by
  induction s generalizing before with
  | nil => cases hd
  | cons c s ih =>
    rcases List.mem_append.mp hd with hd | hd
    · exact ⟨c, List.mem_cons_self, before, s, hd⟩
    · obtain ⟨c', hc', hrest⟩ := ih hd
      exact ⟨c', List.mem_cons_of_mem c hc', hrest⟩

/-- A text each of whose characters is its own lower case is unchanged. -/
theorem lowerFrom_eq_self {s : List Char} (before : Bool)
    (h : ∀ d ∈ s, ∀ b after, lowerIn b d after = [d]) : lowerFrom before s = s := by
  induction s generalizing before with
  | nil => rfl
  | cons d s ih =>
    have hrest := ih (casedAfter before d) fun d' hd' => h d' (List.mem_cons_of_mem d hd')
    rw [lowerFrom, h d List.mem_cons_self, hrest, List.singleton_append]

/-- What a text in lower case is made of stays, also where a sigma might end a word. -/
theorem lowerIn_of_mem_lowerChars {s : List Char} {d : Char} (hd : d ∈ lowerChars s) (before : Bool)
    (after : List Char) : lowerIn before d after = [d] := by
  obtain ⟨c, -, b, after', hd⟩ := exists_of_mem_lowerFrom hd
  exact lowerIn_of_mem_lowerIn hd before after

theorem lowerChars_lowerChars (s : List Char) : lowerChars (lowerChars s) = lowerChars s :=
  lowerFrom_eq_self false fun _ hd => lowerIn_of_mem_lowerChars hd

/-- The lower case of a word is a word. -/
theorem IsWord.lowerChars {w : List Char} (h : IsWord w) : IsWord (lowerChars w) where
  ne_nil := by
    obtain ⟨c, s, rfl⟩ := List.exists_cons_of_ne_nil h.ne_nil
    exact List.append_ne_nil_of_left_ne_nil (lowerIn_ne_nil false c s) _
  not_blank d hd := by
    obtain ⟨c, hc, b, after, hd⟩ := exists_of_mem_lowerFrom hd
    exact not_blank_of_mem_lowerIn (h.not_blank c hc) hd

/-- The code points that upper case maps on its own, apart from the shifts. -/
def upperOwn : List (Nat × Nat) := (0x61, 0x7A) :: upperLong.map fun e => (e.1, e.1)

/-- A code point that upper case leaves as it is. -/
structure IsUpper (n : Nat) : Prop where
  own : inRanges upperOwn n = false
  shift : shiftBy upperRuns n = n

theorem ascii_apart_upperSources :
    apart [(0, 0x7F)] (upperRuns.map CaseRun.source) = true := by decide

theorem upperOwn_apart_upperTargets :
    apart upperOwn (upperRuns.map CaseRun.target) = true := by decide +kernel

theorem blank_apart_upperTargets :
    apart blankRanges (upperRuns.map CaseRun.target) = true := by decide

/-- The code points that the longer upper cases are made of. -/
def upperParts : List Nat := (upperLong.flatMap (·.2)).eraseDups

theorem isUpper_upperParts : ∀ n ∈ upperParts, inRanges upperOwn n = false ∧
    shiftBy upperRuns n = n ∧ inRanges blankRanges n = false := by decide +kernel

theorem upperLong_ne_nil : ∀ e ∈ upperLong, e.2 ≠ [] := by decide

theorem upperLong_not_ascii : ∀ e ∈ upperLong, 0x7F < e.1 := by decide

theorem exists_of_listed {table : List (Nat × List Nat)} {n : Nat} {ds : List Char}
    (h : listed table n = some ds) : ∃ e ∈ table, ds = e.2.map Char.ofNat := by
  obtain ⟨e, he, rfl⟩ := Option.map_eq_some_iff.mp h
  exact ⟨e, List.mem_of_find?_eq_some he, rfl⟩

theorem listed_eq_none_iff {table : List (Nat × List Nat)} {n : Nat} :
    listed table n = none ↔ ∀ e ∈ table, e.1 ≠ n := by
  simp [listed, List.find?_eq_none]

/-- The points with an upper case of their own are the small letters and those of the long list. -/
theorem mem_upperOwn_iff {n : Nat} : inRanges upperOwn n = true ↔
    0x61 ≤ n ∧ n ≤ 0x7A ∨ ∃ e ∈ upperLong, e.1 = n := by
  simp only [inRanges_iff, upperOwn, List.mem_cons, or_and_right, exists_or, exists_eq_left]
  apply or_congr_right
  constructor
  · rintro ⟨r, hr, hr1, hr2⟩
    obtain ⟨e, he, rfl⟩ := List.mem_map.mp hr
    exact ⟨e, he, Nat.le_antisymm hr1 hr2⟩
  · rintro ⟨e, he, rfl⟩
    exact ⟨_, List.mem_map_of_mem he, Nat.le_refl _, Nat.le_refl _⟩

theorem IsUpper.of_ascii {n : Nat} (h : n ≤ 0x7F) (hl : ¬ (0x61 ≤ n ∧ n ≤ 0x7A)) : IsUpper n where
  own := by
    rw [Bool.eq_false_iff]
    intro hown
    rcases mem_upperOwn_iff.mp hown with hletter | ⟨e, he, rfl⟩
    · exact hl hletter
    · have hlong := upperLong_not_ascii e he
      omega
  shift := shiftBy_of_apart ascii_apart_upperSources
    (inRanges_iff.mpr ⟨(0, 0x7F), List.mem_singleton_self _, Nat.zero_le n, h⟩)

/-- What the upper runs make of a point without a long upper case is upper case. -/
theorem IsUpper.of_shiftBy {n : Nat} (h : 0x7F < n) (hl : listed upperLong n = none) :
    IsUpper (shiftBy upperRuns n) where
  own := by
    rw [Bool.eq_false_iff]
    intro hown
    rcases mem_upperOwn_iff.mp (inRanges_of_shiftBy upperOwn_apart_upperTargets hown) with
      hletter | ⟨e, he, heq⟩
    · omega
    · exact listed_eq_none_iff.mp hl e he heq
  shift := shiftBy_shiftBy settles_upperRuns n

/-- What upper case makes of a character: a small letter of ASCII is moved, other ASCII stays, a
character with a longer upper case becomes its parts, and the others are shifted. -/
theorem cases_of_mem_upperOf {c d : Char} (hd : d ∈ upperOf c) :
    (0x61 ≤ c.toNat ∧ c.toNat ≤ 0x7A) ∧ d = Char.ofNat (c.toNat - 32) ∨
    (c.toNat ≤ 0x7F ∧ ¬ (0x61 ≤ c.toNat ∧ c.toNat ≤ 0x7A)) ∧ d = c ∨
    (∃ n ∈ upperParts, d = Char.ofNat n) ∨
    (0x7F < c.toNat ∧ listed upperLong c.toNat = none) ∧
      d = Char.ofNat (shiftBy upperRuns c.toNat) := by
  simp only [upperOf] at hd
  split at hd
  · next hascii =>
    have hle : c.toNat ≤ 0x7F := Nat.le_of_ble_eq_true hascii
    rw [List.mem_singleton.mp hd]
    split
    · next hletter =>
      simp only [Bool.and_eq_true, Nat.ble_eq] at hletter
      exact .inl ⟨hletter, rfl⟩
    · next hletter =>
      simp only [Bool.and_eq_true, Nat.ble_eq] at hletter
      exact .inr (.inl ⟨⟨hle, hletter⟩, rfl⟩)
  · next hascii =>
    have hlt : 0x7F < c.toNat := by simpa using hascii
    cases hl : listed upperLong c.toNat with
    | none =>
      rw [hl] at hd
      exact .inr (.inr (.inr ⟨⟨hlt, rfl⟩, List.mem_singleton.mp hd⟩))
    | some ds =>
      obtain ⟨e, he, rfl⟩ := exists_of_listed hl
      rw [hl] at hd
      obtain ⟨n, hn, rfl⟩ := List.mem_map.mp hd
      have hpart : n ∈ upperParts := List.mem_eraseDups.mpr (List.mem_flatMap_of_mem he hn)
      exact .inr (.inr (.inl ⟨n, hpart, rfl⟩))

/-- All that a character becomes in upper case is upper case. -/
theorem exists_isUpper {c d : Char} (hd : d ∈ upperOf c) : ∃ n, d = Char.ofNat n ∧ IsUpper n := by
  rcases cases_of_mem_upperOf hd with
    ⟨hletter, rfl⟩ | ⟨⟨hascii, hletter⟩, rfl⟩ | ⟨n, hpart, rfl⟩ | ⟨⟨hlt, hl⟩, rfl⟩
  · exact ⟨_, rfl, .of_ascii (by omega) (by omega)⟩
  · exact ⟨_, (Char.ofNat_toNat d).symm, .of_ascii hascii hletter⟩
  · obtain ⟨hown, hshift, -⟩ := isUpper_upperParts n hpart
    exact ⟨n, rfl, hown, hshift⟩
  · exact ⟨_, rfl, .of_shiftBy hlt hl⟩

/-- An upper case point is its own upper case. -/
theorem IsUpper.upperOf_ofNat {n : Nat} (h : IsUpper n) :
    upperOf (Char.ofNat n) = [Char.ofNat n] := by
  rcases toNat_ofNat_or n with hn | h0
  · have hown : ¬ (0x61 ≤ n ∧ n ≤ 0x7A) ∧ ∀ e ∈ upperLong, e.1 ≠ n := by
      have hown := mt mem_upperOwn_iff.mpr (Bool.eq_false_iff.mp h.own)
      exact ⟨fun hletter => hown (.inl hletter), fun e he heq => hown (.inr ⟨e, he, heq⟩)⟩
    have hletter : (Nat.ble 0x61 n && Nat.ble n 0x7A) = false := by
      simpa only [Bool.eq_false_iff, ne_eq, Bool.and_eq_true, Nat.ble_eq] using hown.1
    simp [upperOf, hn, hletter, listed_eq_none_iff.mpr hown.2, h.shift]
  · rw [h0]
    decide

/-- What upper case leads to is its own upper case. -/
theorem upperOf_of_mem_upperOf {c d : Char} (hd : d ∈ upperOf c) : upperOf d = [d] := by
  obtain ⟨n, rfl, hn⟩ := exists_isUpper hd
  exact hn.upperOf_ofNat

theorem upperChars_eq_self {s : List Char} (h : ∀ d ∈ s, upperOf d = [d]) : upperChars s = s := by
  induction s with
  | nil => rfl
  | cons d s ih =>
    have hrest : upperChars s = s := ih fun d' hd' => h d' (List.mem_cons_of_mem d hd')
    show upperOf d ++ upperChars s = d :: s
    rw [h d List.mem_cons_self, hrest, List.singleton_append]

theorem upperChars_upperChars (s : List Char) : upperChars (upperChars s) = upperChars s := by
  apply upperChars_eq_self
  intro d hd
  obtain ⟨c, -, hd⟩ := List.mem_flatMap.mp hd
  exact upperOf_of_mem_upperOf hd

/-- No character vanishes in upper case. -/
theorem upperOf_ne_nil (c : Char) : upperOf c ≠ [] := by
  simp only [upperOf]
  split
  · exact List.cons_ne_nil _ _
  · cases hl : listed upperLong c.toNat with
    | none => exact List.cons_ne_nil _ _
    | some ds =>
      obtain ⟨e, he, rfl⟩ := exists_of_listed hl
      exact mt List.map_eq_nil_iff.mp (upperLong_ne_nil e he)

/-- A character that is no blank has none in its upper case. -/
theorem not_blank_of_mem_upperOf {c d : Char} (h : isBlank c = false) (hd : d ∈ upperOf c) :
    isBlank d = false := by
  rw [Bool.eq_false_iff]
  intro hb
  rcases cases_of_mem_upperOf hd with
    ⟨hletter, rfl⟩ | ⟨-, rfl⟩ | ⟨n, hpart, rfl⟩ | ⟨-, rfl⟩
  · have hr : inRanges [(0x41, 0x5A)] (c.toNat - 32) = true :=
      inRanges_iff.mpr ⟨(0x41, 0x5A), by simp, by omega, by omega⟩
    have ha : apart [(0x41, 0x5A)] blankRanges = true := by decide
    have hn := isBlank_ofNat hb
    rw [inRanges_of_apart ha hr] at hn
    cases hn
  · rw [h] at hb
    cases hb
  · obtain ⟨-, -, hblank⟩ := isUpper_upperParts n hpart
    rw [isBlank_ofNat hb] at hblank
    cases hblank
  · have hn : isBlank c = true := inRanges_of_shiftBy blank_apart_upperTargets (isBlank_ofNat hb)
    rw [h] at hn
    cases hn

end ComparativeLaw.Text

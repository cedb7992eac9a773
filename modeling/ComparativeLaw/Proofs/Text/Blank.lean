import ComparativeLaw.Text.Case
import ComparativeLaw.Text.Point

namespace ComparativeLaw.Text

theorem inRanges_iff {ranges : List (Nat × Nat)} {n : Nat} :
    inRanges ranges n = true ↔ ∃ r ∈ ranges, r.1 ≤ n ∧ n ≤ r.2 := by
  simp [inRanges]

/-- Whether no range of one table meets a range of the other. -/
def apart (ranges others : List (Nat × Nat)) : Bool :=
  ranges.all fun r => others.all fun s => Nat.blt r.2 s.1 || Nat.blt s.2 r.1

/-- Ranges that are apart share no point. -/
theorem inRanges_of_apart {ranges others : List (Nat × Nat)} {n : Nat}
    (ha : apart ranges others = true) (hn : inRanges ranges n = true) :
    inRanges others n = false := by
  obtain ⟨r, hr, hr1, hr2⟩ := inRanges_iff.mp hn
  rw [Bool.eq_false_iff]
  intro ho
  obtain ⟨s, hs, hs1, hs2⟩ := inRanges_iff.mp ho
  -- A range of each table would hold the number, and one of the two ends before the other starts.
  have hrs := List.all_eq_true.mp (List.all_eq_true.mp ha r hr) s hs
  simp only [Bool.or_eq_true, Nat.blt_eq] at hrs
  omega

theorem blank_apart_cased : apart blankRanges casedRanges = true := by decide

theorem blank_apart_ignorable : apart blankRanges caseIgnorableRanges = true := by decide +kernel

/-- The ASCII letters are no blanks. -/
theorem blank_apart_letters : apart blankRanges [(0x41, 0x5A), (0x61, 0x7A)] = true := by decide

theorem not_letter_of_isBlank {c : Char} (h : isBlank c = true) :
    inRanges [(0x41, 0x5A), (0x61, 0x7A)] c.toNat = false :=
  inRanges_of_apart blank_apart_letters h

/-- A blank has no case. -/
theorem isCased_of_isBlank {c : Char} (h : isBlank c = true) : isCased c = false := by
  simp only [isCased]
  split
  · simpa [inRanges, or_comm] using not_letter_of_isBlank h
  · exact inRanges_of_apart blank_apart_cased h

/-- A blank is never passed over in the look for a cased character. -/
theorem isCaseIgnorable_of_isBlank {c : Char} (h : isBlank c = true) :
    isCaseIgnorable c = false :=
  inRanges_of_apart blank_apart_ignorable h

/-- The code points between which a run shifts. -/
def CaseRun.source (r : CaseRun) : Nat × Nat := (r.first, r.last)

/-- The code points between which a run leads. -/
def CaseRun.target (r : CaseRun) : Nat × Nat :=
  (((r.first : Int) + r.offset).toNat, ((r.last : Int) + r.offset).toNat)

theorem CaseRun.covers_iff {r : CaseRun} {n : Nat} :
    r.covers n = true ↔ r.first ≤ n ∧ n ≤ r.last ∧ (n - r.first) % r.step = 0 := by
  simp [covers, and_assoc]

/-- A point stays where it is, or it is moved by a run that covers it. -/
theorem eq_shiftBy (runs : List CaseRun) (n : Nat) :
    shiftBy runs n = n ∨
      ∃ r ∈ runs, r.covers n = true ∧ shiftBy runs n = ((n : Int) + r.offset).toNat := by
  unfold shiftBy
  split
  · next r hr =>
    have hc := List.find?_some hr
    exact .inr ⟨r, List.mem_of_find?_eq_some hr, hc, rfl⟩
  · exact .inl rfl

/-- What is shifted starts from the source of a run and ends in its target. -/
theorem inRanges_of_shiftBy_ne {runs : List CaseRun} {n : Nat} (h : shiftBy runs n ≠ n) :
    inRanges (runs.map CaseRun.source) n = true ∧
      inRanges (runs.map CaseRun.target) (shiftBy runs n) = true := by
  rcases eq_shiftBy runs n with hs | ⟨r, hr, hc, hs⟩
  · exact absurd hs h
  · obtain ⟨hfirst, hlast, -⟩ := CaseRun.covers_iff.mp hc
    have hlow : r.target.1 ≤ shiftBy runs n := by
      simp only [CaseRun.target, hs]
      omega
    have hhigh : shiftBy runs n ≤ r.target.2 := by
      simp only [CaseRun.target, hs]
      omega
    exact ⟨inRanges_iff.mpr ⟨_, List.mem_map_of_mem hr, hfirst, hlast⟩,
      inRanges_iff.mpr ⟨_, List.mem_map_of_mem hr, hlow, hhigh⟩⟩

/-- Shifts from elsewhere leave the code points of some ranges as they are. -/
theorem shiftBy_of_apart {ranges : List (Nat × Nat)} {runs : List CaseRun} {n : Nat}
    (ha : apart ranges (runs.map CaseRun.source) = true) (hn : inRanges ranges n = true) :
    shiftBy runs n = n := by
  by_cases h : shiftBy runs n = n
  · exact h
  · have hsource := (inRanges_of_shiftBy_ne h).1
    rw [inRanges_of_apart ha hn] at hsource
    cases hsource

/-- Shifts to elsewhere lead to no code point of some ranges. -/
theorem inRanges_of_shiftBy {ranges : List (Nat × Nat)} {runs : List CaseRun} {n : Nat}
    (ha : apart ranges (runs.map CaseRun.target) = true)
    (hn : inRanges ranges (shiftBy runs n) = true) : inRanges ranges n = true := by
  by_cases h : shiftBy runs n = n
  · rwa [h] at hn
  · have htarget := (inRanges_of_shiftBy_ne h).2
    rw [inRanges_of_apart ha hn] at htarget
    cases htarget

theorem blank_apart_lowerSources :
    apart blankRanges (lowerRuns.map CaseRun.source) = true := by decide

theorem blank_apart_lowerTargets :
    apart blankRanges (lowerRuns.map CaseRun.target) = true := by decide

/-- The character of a number that is no blank is no blank either. -/
theorem isBlank_ofNat {n : Nat} (h : isBlank (Char.ofNat n) = true) :
    inRanges blankRanges n = true := by
  by_cases hv : n.isValidChar
  · rwa [isBlank, toNat_ofNat hv] at h
  · -- A number of no character stands for the null character.
    have hz : Char.ofNat n = Char.ofNat 0 := by
      rw [Char.ofNat, dif_neg hv]
      rfl
    rw [hz] at h
    exact absurd h (by decide)

theorem lowerOf_of_isBlank {c : Char} (h : isBlank c = true) : lowerOf c = [c] := by
  simp only [lowerOf]
  split
  · have hl := not_letter_of_isBlank h
    simp only [inRanges, List.any_cons, List.any_nil, Bool.or_false, Bool.or_eq_false_iff] at hl
    simp [hl.1]
  · split
    · next h130 =>
      have hn : c.toNat = 0x130 := Nat.eq_of_beq_eq_true h130
      rw [isBlank, hn] at h
      exact absurd h (by decide)
    · rw [shiftBy_of_apart blank_apart_lowerSources h, Char.ofNat_toNat]

theorem ne_sigma_of_isBlank {c : Char} (h : isBlank c = true) : c ≠ 'Σ' := by
  rintro rfl
  exact absurd h (by decide)

/-- A blank stays as it is in lower case, wherever it stands. -/
theorem lowerIn_of_isBlank {c : Char} (h : isBlank c = true) (before : Bool) (after : List Char) :
    lowerIn before c after = [c] := by
  rw [lowerIn, if_neg (ne_sigma_of_isBlank h), lowerOf_of_isBlank h]

/-- After a blank nothing of the text before counts. -/
theorem casedAfter_of_isBlank {c : Char} (h : isBlank c = true) (before : Bool) :
    casedAfter before c = false := by
  simp [casedAfter, isCaseIgnorable_of_isBlank h, isCased_of_isBlank h]

/-- No character vanishes in lower case. -/
theorem lowerOf_ne_nil (c : Char) : lowerOf c ≠ [] := by
  simp only [lowerOf]
  split
  · exact List.cons_ne_nil _ _
  · split <;> exact List.cons_ne_nil _ _

/-- A character that is no blank has none in its lower case. -/
theorem not_blank_of_mem_lowerOf {c d : Char} (h : isBlank c = false) (hd : d ∈ lowerOf c) :
    isBlank d = false := by
  simp only [lowerOf] at hd
  split at hd
  · split at hd
    · next hl =>
      simp only [Bool.and_eq_true, Nat.ble_eq] at hl
      rw [List.mem_singleton.mp hd, Bool.eq_false_iff]
      intro hb
      have hr : inRanges [(0x61, 0x7A)] (c.toNat + 32) = true :=
        inRanges_iff.mpr ⟨(0x61, 0x7A), by simp, by omega, by omega⟩
      have ha : apart [(0x61, 0x7A)] blankRanges = true := by decide
      have hn := isBlank_ofNat hb
      rw [inRanges_of_apart ha hr] at hn
      cases hn
    · rwa [List.mem_singleton.mp hd]
  · split at hd
    · simp only [List.mem_cons, List.not_mem_nil, or_false] at hd
      rcases hd with rfl | rfl <;> decide
    · rw [List.mem_singleton.mp hd, Bool.eq_false_iff]
      intro hb
      have hn : isBlank c = true := inRanges_of_shiftBy blank_apart_lowerTargets (isBlank_ofNat hb)
      rw [h] at hn
      cases hn

theorem lowerIn_ne_nil (before : Bool) (c : Char) (after : List Char) :
    lowerIn before c after ≠ [] := by
  unfold lowerIn
  split
  · exact List.cons_ne_nil _ _
  · exact lowerOf_ne_nil c

/-- A character that is not blank has no blank in its lower case. -/
theorem not_blank_of_mem_lowerIn {c d : Char} {before : Bool} {after : List Char}
    (h : isBlank c = false) (hd : d ∈ lowerIn before c after) : isBlank d = false := by
  unfold lowerIn at hd
  split at hd
  · rw [List.mem_singleton.mp hd]
    split <;> decide
  · exact not_blank_of_mem_lowerOf h hd

end ComparativeLaw.Text

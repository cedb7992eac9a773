import ComparativeLaw.Proofs.Text.Trim
import ComparativeLaw.Topic

namespace ComparativeLaw.Text

/-- Whether a character stands in for a surrogate if the mark is before it. -/
def standsIn (c : Char) : Bool := Nat.ble 0xE000 c.toNat && Nat.ble c.toNat 0xE7FF

/-- Whether characters spell a surrogate; the flag tells that the mark stands before them. -/
def spells (marked : Bool) : List Char → Bool
  | [] => false
  | c :: s => if marked then standsIn c || spells false s else spells (c = mark) s

theorem spells_marked {c : Char} {s : List Char} :
    spells true (c :: s) = false ↔ standsIn c = false ∧ spells false s = false :=
  Bool.or_eq_false_iff

theorem isSurrogate_toNat (c : Char) : isSurrogate c.toNat = false := by
  have hvalid : c.toNat < 0xD800 ∨ 0xDFFF < c.toNat ∧ c.toNat < 0x110000 := c.valid
  rw [Bool.eq_false_iff]
  intro h
  simp only [isSurrogate, Bool.and_eq_true, Nat.ble_eq] at h
  omega

theorem isSurrogate_markedPoint (c : Char) : isSurrogate (markedPoint c) = standsIn c := by
  unfold markedPoint
  split
  · next h =>
    subst h
    decide
  · have hiff : isSurrogate (c.toNat - standInOffset) = true ↔ standsIn c = true := by
      simp only [isSurrogate, standsIn, standInOffset, Bool.and_eq_true, Nat.ble_eq]
      omega
    exact Bool.eq_iff_iff.mpr hiff

/-- Whether a text spells a surrogate can be seen from its points. -/
theorem any_isSurrogate (s : List Char) : (pointsOf s).any isSurrogate = spells false s := by
  -- As the points are read: a mark takes the character after it along.
  induction s using pointsOf.induct with
  | case1 => rfl
  | case2 c => simp [pointsOf, spells, isSurrogate_toNat]
  | case3 d s ih =>
    simp only [pointsOf, if_true, List.any_cons, isSurrogate_markedPoint, ih]
    simp [spells]
  | case4 c d s hc ih =>
    simp only [pointsOf, if_neg hc, List.any_cons, isSurrogate_toNat, Bool.false_or, ih]
    simp [spells, hc]

theorem hasSurrogate_eq (s : String) : hasSurrogate s = spells false s.toList :=
  any_isSurrogate s.toList

/-- Before characters that are no mark, nothing changes. -/
theorem spells_append {xs : List Char} (h : ∀ c ∈ xs, c ≠ mark) (s : List Char) :
    spells false (xs ++ s) = spells false s := by
  induction xs with
  | nil => rfl
  | cons c xs ih =>
    obtain ⟨hc, hxs⟩ := List.forall_mem_cons.mp h
    simp [spells, hc, ih hxs]

/-- A text without the mark has no surrogate. -/
theorem hasSurrogate_of_no_mark {s : String} (h : ∀ c ∈ s.toList, c ≠ mark) :
    hasSurrogate s = false := by
  have happend := spells_append h []
  rw [List.append_nil] at happend
  rw [hasSurrogate_eq, happend]
  rfl

/-- What is at the front of characters that spell no surrogate spells none. -/
theorem spells_of_append {s t : List Char} {marked : Bool} (h : spells marked (s ++ t) = false) :
    spells marked s = false := by
  induction s generalizing marked with
  | nil => rfl
  | cons c s ih =>
    cases marked with
    | false =>
      have hs : spells (c = mark) (s ++ t) = false := h
      exact ih hs
    | true =>
      obtain ⟨hc, hs⟩ := spells_marked.mp h
      exact spells_marked.mpr ⟨hc, ih hs⟩

theorem ne_mark_of_isBlank {c : Char} (h : isBlank c = true) : c ≠ mark := by
  rintro rfl
  exact absurd h (by decide)

theorem spells_trimBy {s : List Char} (h : spells false s = false) :
    spells false (trimBy isBlank s) = false := by
  let rest := s.dropWhile isBlank
  have hrest : spells false rest = false := by
    rw [← List.takeWhile_append_dropWhile (p := isBlank) (l := s)] at h
    rwa [spells_append] at h
    intro c hc
    exact ne_mark_of_isBlank (List.mem_takeWhile_imp hc)
  have hsplit : rest = trimBy isBlank s ++ (rest.reverse.takeWhile isBlank).reverse := by
    rw [trimBy, ← List.reverse_append, List.takeWhile_append_dropWhile, List.reverse_reverse]
  rw [hsplit] at hrest
  exact spells_of_append hrest

/-- Trimming brings no surrogate in. -/
theorem hasSurrogate_strip {s : String} (h : hasSurrogate s = false) :
    hasSurrogate (strip s) = false := by
  rw [hasSurrogate_eq] at h ⊢
  rw [strip, String.toList_ofList]
  exact spells_trimBy h

/-- The mark and the characters that stand in for surrogates. -/
def spellers : List (Nat × Nat) := [(0xE000, 0xE7FF), (lastPoint, lastPoint)]

def isSpeller (c : Char) : Bool := inRanges spellers c.toNat

/-- A surrogate is spelled by the mark and a stand-in. -/
theorem isSpeller_iff {c : Char} : isSpeller c = true ↔ standsIn c = true ∨ c = mark := by
  have hmark : c = mark ↔ c.toNat = lastPoint := by
    rw [← Char.toNat_inj]
    rfl
  simp only [isSpeller, inRanges_iff, spellers, List.mem_cons, List.not_mem_nil, or_false,
    exists_eq_or_imp, exists_eq_left, standsIn, Bool.and_eq_true, Nat.ble_eq, hmark]
  omega

theorem spellers_apart_lowerTargets :
    apart spellers (lowerRuns.map CaseRun.target) = true := by decide

theorem spellers_apart_lowerSources :
    apart spellers (lowerRuns.map CaseRun.source) = true := by decide

theorem spellers_apart_ascii : apart spellers [(0, 0x7F)] = true := by decide

/-- Lower case leads to one of these characters from itself only. -/
theorem eq_of_mem_lowerIn {c d : Char} {before : Bool} {after : List Char}
    (hd : d ∈ lowerIn before c after) (h : isSpeller d = true) : d = c := by
  unfold lowerIn at hd
  split at hd
  · -- A capital sigma becomes one of two letters.
    rw [List.mem_singleton.mp hd] at h
    split at h
    · exact absurd h (by decide)
    · exact absurd h (by decide)
  · simp only [lowerOf] at hd
    split at hd
    · split at hd
      · -- A capital letter of ASCII becomes a small one.
        next hletter =>
        simp only [Bool.and_eq_true, Nat.ble_eq] at hletter
        have hn : (Char.ofNat (c.toNat + 32)).toNat = c.toNat + 32 :=
          toNat_ofNat (.inl (by omega))
        have hlow : inRanges [(0, 0x7F)] (c.toNat + 32) = true :=
          inRanges_iff.mpr ⟨(0, 0x7F), List.mem_singleton_self _, by omega, by omega⟩
        rw [List.mem_singleton.mp hd, isSpeller, hn] at h
        rw [inRanges_of_apart spellers_apart_ascii h] at hlow
        cases hlow
      · exact List.mem_singleton.mp hd
    · split at hd
      · simp only [List.mem_cons, List.not_mem_nil, or_false] at hd
        rcases hd with rfl | rfl
        · exact absurd h (by decide)
        · exact absurd h (by decide)
      · rw [List.mem_singleton.mp hd] at h ⊢
        -- Anything else is moved by the runs, which neither leave nor reach what spells a
        -- surrogate.
        rcases toNat_ofNat_or (shiftBy lowerRuns c.toNat) with hn | h0
        · rw [isSpeller, hn] at h
          have hsource := inRanges_of_shiftBy spellers_apart_lowerTargets h
          rw [shiftBy_of_apart spellers_apart_lowerSources hsource, Char.ofNat_toNat]
        · rw [h0] at h
          exact absurd h (by decide)

theorem lowerIn_mark (before : Bool) (after : List Char) : lowerIn before mark after = [mark] := by
  have hlower : lowerOf mark = [mark] := by decide
  rw [lowerIn, if_neg (by decide), hlower]

/-- The lower case spells a surrogate only where the text does. -/
theorem spells_lowerFrom {s : List Char} {marked : Bool} (before : Bool)
    (h : spells marked s = false) : spells marked (lowerFrom before s) = false := by
  -- On the text, for both states of the reader and both of the casing: each character changes
  -- both.
  induction s generalizing marked before with
  | nil => rfl
  | cons c s ih =>
    rw [lowerFrom]
    by_cases hc : c = mark
    · subst hc
      rw [lowerIn_mark, List.singleton_append]
      cases marked with
      | false =>
        have hs : spells true s = false := h
        exact ih _ hs
      | true =>
        obtain ⟨hmark, hs⟩ := spells_marked.mp h
        exact spells_marked.mpr ⟨hmark, ih _ hs⟩
    · -- The lower case of another character is some characters, none of which is the mark.
      have hno : ∀ d ∈ lowerIn before c s, d ≠ mark := by
        rintro d hd rfl
        exact hc (eq_of_mem_lowerIn hd (isSpeller_iff.mpr (.inr rfl))).symm
      obtain ⟨d, rest, hpart⟩ := List.exists_cons_of_ne_nil (lowerIn_ne_nil before c s)
      cases marked with
      | false =>
        rw [spells_append hno]
        have hs : spells (c = mark) s = false := h
        rw [decide_eq_false hc] at hs
        exact ih _ hs
      | true =>
        obtain ⟨hstands, hs⟩ := spells_marked.mp h
        rw [hpart] at hno ⊢
        obtain ⟨-, hrest⟩ := List.forall_mem_cons.mp hno
        refine spells_marked.mpr ⟨?_, ?_⟩
        · rw [Bool.eq_false_iff]
          intro hd
          have hin : d ∈ lowerIn before c s := hpart ▸ List.mem_cons_self
          rw [eq_of_mem_lowerIn hin (isSpeller_iff.mpr (.inl hd)), hstands] at hd
          cases hd
        · show spells false (rest ++ _) = false
          rw [spells_append hrest]
          exact ih _ hs

end ComparativeLaw.Text

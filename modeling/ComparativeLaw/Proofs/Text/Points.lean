import ComparativeLaw.Proofs.Text.Surrogate

namespace ComparativeLaw.Text

/-- Characters that are written from some code points. -/
def Spelled (s : List Char) : Prop := ∃ ps, (∀ n ∈ ps, n ≤ lastPoint) ∧ s = ofPoints ps

theorem ofPoints_append (ps qs : List Nat) : ofPoints (ps ++ qs) = ofPoints ps ++ ofPoints qs :=
  List.flatMap_append

/-- The points that are written first are read first, whatever follows them. -/
theorem pointsOf_ofPoints_append {ps : List Nat} (h : ∀ n ∈ ps, n ≤ lastPoint) (s : List Char) :
    pointsOf (ofPoints ps ++ s) = ps ++ pointsOf s := by
  induction ps with
  | nil => rfl
  | cons n ps ih =>
    obtain ⟨hn, hps⟩ := List.forall_mem_cons.mp h
    rw [ofPoints, List.flatMap_cons, List.append_assoc, pointsOf_ofPoint hn]
    exact congrArg (n :: ·) (ih hps)

namespace Spelled

variable {s t : List Char}

/-- A spelled text is what its points spell. -/
theorem ofPoints_pointsOf (h : Spelled s) : ofPoints (pointsOf s) = s := by
  obtain ⟨ps, hps, rfl⟩ := h
  rw [Text.pointsOf_ofPoints hps]

/-- After a spelled text reading starts anew. -/
theorem pointsOf_append (h : Spelled s) (t : List Char) :
    pointsOf (s ++ t) = pointsOf s ++ pointsOf t := by
  obtain ⟨ps, hps, rfl⟩ := h
  rw [pointsOf_ofPoints_append hps, Text.pointsOf_ofPoints hps]

theorem nil : Spelled [] := ⟨[], nofun, rfl⟩

theorem append (hs : Spelled s) (ht : Spelled t) : Spelled (s ++ t) := by
  obtain ⟨ps, hps, rfl⟩ := hs
  obtain ⟨qs, hqs, rfl⟩ := ht
  exact ⟨ps ++ qs, List.forall_mem_append.mpr ⟨hps, hqs⟩, (ofPoints_append ps qs).symm⟩

theorem flatMap {α : Type} {xs : List α} {f : α → List Char} (h : ∀ x ∈ xs, Spelled (f x)) :
    Spelled (xs.flatMap f) := by
  induction xs with
  | nil => exact nil
  | cons x xs ih =>
    obtain ⟨hx, hxs⟩ := List.forall_mem_cons.mp h
    exact hx.append (ih hxs)

/-- Spelled pieces are read one by one. -/
theorem pointsOf_flatMap {α : Type} {xs : List α} {f : α → List Char}
    (h : ∀ x ∈ xs, Spelled (f x)) :
    pointsOf (xs.flatMap f) = xs.flatMap fun x => pointsOf (f x) := by
  induction xs with
  | nil => rfl
  | cons x xs ih =>
    obtain ⟨hx, hxs⟩ := List.forall_mem_cons.mp h
    rw [List.flatMap_cons, hx.pointsOf_append, ih hxs, List.flatMap_cons]

end Spelled

theorem ofPoint_toNat {c : Char} (h : c ≠ mark) : ofPoint c.toNat = [c] := by
  have hlast : c.toNat ≠ lastPoint := fun heq => h (Char.toNat_inj.mp heq)
  rw [ofPoint, isSurrogate_toNat, if_neg Bool.false_ne_true, if_neg hlast, Char.ofNat_toNat]

theorem toNat_le_lastPoint (c : Char) : c.toNat ≤ lastPoint := by
  have hvalid : c.toNat < 0xD800 ∨ 0xDFFF < c.toNat ∧ c.toNat < 0x110000 := c.valid
  simp only [lastPoint]
  omega

theorem ofPoints_map_toNat {s : List Char} (h : ∀ c ∈ s, c ≠ mark) :
    ofPoints (s.map Char.toNat) = s := by
  induction s with
  | nil => rfl
  | cons c s ih =>
    obtain ⟨hc, hs⟩ := List.forall_mem_cons.mp h
    rw [ofPoints, List.map_cons, List.flatMap_cons, ofPoint_toNat hc]
    exact congrArg (c :: ·) (ih hs)

theorem map_toNat_le_lastPoint (s : List Char) : ∀ n ∈ s.map Char.toNat, n ≤ lastPoint := by
  intro n hn
  obtain ⟨c, -, rfl⟩ := List.mem_map.mp hn
  exact toNat_le_lastPoint c

/-- A text without the mark spells itself. -/
theorem spelled_of_no_mark {s : List Char} (h : ∀ c ∈ s, c ≠ mark) : Spelled s :=
  ⟨s.map Char.toNat, map_toNat_le_lastPoint s, (ofPoints_map_toNat h).symm⟩

theorem pointsOf_of_no_mark {s : List Char} (h : ∀ c ∈ s, c ≠ mark) :
    pointsOf s = s.map Char.toNat := by
  have hread := pointsOf_ofPoints (map_toNat_le_lastPoint s)
  rwa [ofPoints_map_toNat h] at hread

def isBlankPoint (n : Nat) : Bool := inRanges blankRanges n

theorem ofPoint_ne_nil (n : Nat) : ofPoint n ≠ [] := by
  unfold ofPoint
  split
  · exact List.cons_ne_nil _ _
  · split <;> exact List.cons_ne_nil _ _

/-- The character of a surrogate that stands in for it. -/
theorem isSpeller_ofNat {n : Nat} (h : isSurrogate n = true) :
    isSpeller (Char.ofNat (n + standInOffset)) = true := by
  have hn : 0xD800 ≤ n ∧ n ≤ 0xDFFF := by simpa [isSurrogate] using h
  have hvalid : (n + standInOffset).isValidChar := by
    simp only [standInOffset, Nat.isValidChar]
    omega
  rw [isSpeller, toNat_ofNat hvalid, inRanges_iff]
  refine ⟨(0xE000, 0xE7FF), List.mem_cons_self, ?_⟩
  simp only [standInOffset]
  omega

theorem isSpeller_mark : isSpeller mark = true := by decide

/-- A code point is written by characters that stand in for surrogates and the mark, or it is the
character that is written. -/
theorem ofPoint_cases {n : Nat} (h : n ≤ lastPoint) :
    (isSurrogate n = true ∨ n = lastPoint) ∧ (∀ c ∈ ofPoint n, isSpeller c = true) ∨
      ∃ c, c ≠ mark ∧ c.toNat = n ∧ ofPoint n = [c] := by
  -- A surrogate and the last point are spelled with the mark, any other point is a character.
  by_cases hs : isSurrogate n = true
  · left
    refine ⟨.inl hs, ?_⟩
    rw [ofPoint, if_pos hs]
    intro c hc
    rcases List.mem_cons.mp hc with rfl | hc
    · exact isSpeller_mark
    · rw [List.mem_singleton.mp hc]
      exact isSpeller_ofNat hs
  · by_cases hlast : n = lastPoint
    · left
      refine ⟨.inr hlast, ?_⟩
      rw [ofPoint, if_neg hs, if_pos hlast]
      intro c hc
      have hmark : c = mark := by simpa using hc
      exact hmark ▸ isSpeller_mark
    · right
      have hvalid : n.isValidChar := by
        simp only [isSurrogate, Bool.and_eq_true, Nat.ble_eq] at hs
        simp only [lastPoint] at h hlast
        simp only [Nat.isValidChar]
        omega
      have hn : (Char.ofNat n).toNat = n := toNat_ofNat hvalid
      refine ⟨Char.ofNat n, ?_, hn, ?_⟩
      · intro hmark
        rw [hmark] at hn
        exact hlast hn.symm
      · rw [ofPoint, if_neg hs, if_neg hlast]

theorem blank_apart_spellers : apart spellers blankRanges = true := by decide

theorem blank_apart_surrogates :
    apart [(0xD800, 0xDFFF), (lastPoint, lastPoint)] blankRanges = true := by decide

/-- A code point and the characters that it is written by are blank alike. -/
theorem isBlank_of_mem_ofPoint {n : Nat} (h : n ≤ lastPoint) {c : Char} (hc : c ∈ ofPoint n) :
    isBlank c = isBlankPoint n := by
  rcases ofPoint_cases h with ⟨hpoint, hspell⟩ | ⟨d, -, hd, hwritten⟩
  · have hrange : inRanges [(0xD800, 0xDFFF), (lastPoint, lastPoint)] n = true := by
      rcases hpoint with hs | rfl
      · have hn : 0xD800 ≤ n ∧ n ≤ 0xDFFF := by simpa [isSurrogate] using hs
        exact inRanges_iff.mpr ⟨(0xD800, 0xDFFF), List.mem_cons_self, hn⟩
      · decide
    have hblank : isBlank c = false := inRanges_of_apart blank_apart_spellers (hspell c hc)
    rw [hblank, isBlankPoint, inRanges_of_apart blank_apart_surrogates hrange]
  · rw [hwritten, List.mem_singleton] at hc
    rw [hc, isBlank, hd, isBlankPoint]

theorem all_isBlank_ofPoints {ps : List Nat} (h : ∀ n ∈ ps, n ≤ lastPoint)
    (hb : ∀ n ∈ ps, isBlankPoint n = true) : ∀ c ∈ ofPoints ps, isBlank c = true := by
  intro c hc
  obtain ⟨n, hn, hc⟩ := List.mem_flatMap.mp hc
  rw [isBlank_of_mem_ofPoint (h n hn) hc]
  exact hb n hn

/-- Points without a blank at either end spell a text without one. -/
theorem trimmed_ofPoints {ps : List Nat} (h : ∀ n ∈ ps, n ≤ lastPoint)
    (ht : Trimmed isBlankPoint ps) : Trimmed isBlank (ofPoints ps) := by
  constructor
  case head =>
    intro c hc
    cases ps with
    | nil => cases hc
    | cons n ps =>
      rw [ofPoints, List.flatMap_cons, List.head?_append_of_ne_nil _ (ofPoint_ne_nil n)] at hc
      rw [isBlank_of_mem_ofPoint (h n List.mem_cons_self) (List.mem_of_head? hc)]
      exact ht.head n rfl
  case last =>
    intro c hc
    rcases List.eq_nil_or_concat' ps with rfl | ⟨front, n, rfl⟩
    · cases hc
    · have hsplit : ofPoints (front ++ [n]) = ofPoints front ++ ofPoint n := by
        rw [ofPoints_append]
        exact congrArg _ (List.flatMap_singleton ..)
      rw [hsplit, List.getLast?_append_of_ne_nil _ (ofPoint_ne_nil n)] at hc
      rw [isBlank_of_mem_ofPoint (h n (by simp)) (List.mem_of_getLast? hc)]
      exact ht.last n (by simp)

/-- To trim characters is to trim the points that they are written from. -/
theorem trimBy_ofPoints {ps : List Nat} (h : ∀ n ∈ ps, n ≤ lastPoint) :
    trimBy isBlank (ofPoints ps) = ofPoints (trimBy isBlankPoint ps) := by
  obtain ⟨l, r, hsplit, hl, hr⟩ := eq_append_trimBy isBlankPoint ps
  have ht : Trimmed isBlankPoint (trimBy isBlankPoint ps) := trimmed_trimBy isBlankPoint ps
  generalize trimBy isBlankPoint ps = core at hsplit ht ⊢
  subst hsplit
  obtain ⟨hfront, hlast⟩ := List.forall_mem_append.mp h
  obtain ⟨hfirst, hcore⟩ := List.forall_mem_append.mp hfront
  rw [ofPoints_append, ofPoints_append]
  exact (trimmed_ofPoints hcore ht).trimBy_append (all_isBlank_ofPoints hfirst hl)
    (all_isBlank_ofPoints hlast hr)

/-- Trimming takes whole points away, so a spelled text stays spelled. -/
theorem Spelled.trimBy {s : List Char} (h : Spelled s) : Spelled (trimBy isBlank s) := by
  obtain ⟨ps, hps, rfl⟩ := h
  refine ⟨Text.trimBy isBlankPoint ps, ?_, trimBy_ofPoints hps⟩
  obtain ⟨l, r, hsplit, -, -⟩ := eq_append_trimBy isBlankPoint ps
  intro n hn
  apply hps
  rw [hsplit]
  simp [hn]

theorem spellers_apart_upperTargets :
    apart spellers (upperRuns.map CaseRun.target) = true := by decide

theorem spellers_apart_upperSources :
    apart spellers (upperRuns.map CaseRun.source) = true := by decide

theorem isSpeller_upperParts :
    ∀ n ∈ upperParts, isSpeller (Char.ofNat n) = false := by decide

theorem isSpeller_upperLong : ∀ e ∈ upperLong, inRanges spellers e.1 = false := by decide

/-- Upper case leads to one of these characters from itself only. -/
theorem eq_of_mem_upperOf {c d : Char} (hd : d ∈ upperOf c) (h : isSpeller d = true) : d = c := by
  rcases cases_of_mem_upperOf hd with
    ⟨hletter, rfl⟩ | ⟨-, rfl⟩ | ⟨n, hpart, rfl⟩ | ⟨-, rfl⟩
  · have hn : (Char.ofNat (c.toNat - 32)).toNat = c.toNat - 32 := toNat_ofNat (.inl (by omega))
    have hascii : inRanges [(0, 0x7F)] (c.toNat - 32) = true :=
      inRanges_iff.mpr ⟨(0, 0x7F), List.mem_singleton_self _, by omega, by omega⟩
    rw [isSpeller, hn] at h
    rw [inRanges_of_apart spellers_apart_ascii h] at hascii
    cases hascii
  · rfl
  · rw [isSpeller_upperParts n hpart] at h
    cases h
  · rcases toNat_ofNat_or (shiftBy upperRuns c.toNat) with hn | h0
    · rw [isSpeller, hn] at h
      have hsource := inRanges_of_shiftBy spellers_apart_upperTargets h
      rw [shiftBy_of_apart spellers_apart_upperSources hsource, Char.ofNat_toNat]
    · rw [h0] at h
      exact absurd h (by decide)

/-- What spells a surrogate has no upper case. -/
theorem upperOf_of_isSpeller {c : Char} (h : isSpeller c = true) : upperOf c = [c] := by
  have hascii : Nat.ble c.toNat 0x7F = false := by
    rw [Bool.eq_false_iff]
    intro hle
    have hlow : inRanges [(0, 0x7F)] c.toNat = true :=
      inRanges_iff.mpr ⟨(0, 0x7F), List.mem_singleton_self _, Nat.zero_le _,
        Nat.le_of_ble_eq_true hle⟩
    rw [inRanges_of_apart spellers_apart_ascii h] at hlow
    cases hlow
  have hlong : listed upperLong c.toNat = none := by
    apply listed_eq_none_iff.mpr
    intro e he heq
    have hnot := isSpeller_upperLong e he
    rw [heq] at hnot
    rw [isSpeller, hnot] at h
    cases h
  simp only [upperOf, hascii, hlong, Option.getD_none]
  rw [shiftBy_of_apart spellers_apart_upperSources h, Char.ofNat_toNat]
  rfl

theorem spelled_upperChars_ofPoint {n : Nat} (h : n ≤ lastPoint) :
    Spelled (upperChars (ofPoint n)) := by
  rcases ofPoint_cases h with ⟨-, hspell⟩ | ⟨c, hc, -, hwritten⟩
  · refine ⟨[n], List.forall_mem_singleton.mpr h, ?_⟩
    rw [upperChars_eq_self fun d hd => upperOf_of_isSpeller (hspell d hd)]
    exact (List.flatMap_singleton ..).symm
  · rw [hwritten]
    apply spelled_of_no_mark
    rintro d hd rfl
    -- no other character has the mark in its upper case
    rw [upperChars, List.flatMap_singleton] at hd
    exact hc (eq_of_mem_upperOf hd isSpeller_mark).symm

/-- A spelled text stays spelled in upper case. -/
theorem Spelled.upperChars {s : List Char} (h : Spelled s) : Spelled (upperChars s) := by
  obtain ⟨ps, hps, rfl⟩ := h
  have hsplit : Text.upperChars (ofPoints ps) = ps.flatMap fun n => Text.upperChars (ofPoint n) := by
    rw [Text.upperChars, ofPoints, List.flatMap_assoc]
    rfl
  rw [hsplit]
  exact Spelled.flatMap fun n hn => spelled_upperChars_ofPoint (hps n hn)

end ComparativeLaw.Text

import ComparativeLaw.Proofs.Text.Settled
import Mathlib.Data.List.Basic

/-!
Upper case taken back. The lower case of a text is that of its upper case, too, if the text is made
of characters of which this holds one by one. It does not hold of letters that upper case writes as
several others or merges with another letter; and a sigma has no lower case of its own, since that
depends on its neighbours. They are listed, and all other characters are checked run by run.
-/
namespace ComparativeLaw.Text

/-- A character that has the lower case of its upper case, whatever stands next to it. -/
structure Returns (c : Char) : Prop where
  lower : (upperOf c).flatMap lowerOf = lowerOf c
  plain : 'Σ' ∉ c :: upperOf c

instance (c : Char) : Decidable (Returns c) :=
  decidable_of_iff ((upperOf c).flatMap lowerOf = lowerOf c ∧ 'Σ' ∉ c :: upperOf c)
    ⟨fun h => ⟨h.1, h.2⟩, fun h => ⟨h.lower, h.plain⟩⟩

/-- The code points of the characters that do not return: those with an upper case of several
characters, those that share their upper case with another letter, and the sigmas. -/
def strays : List Nat :=
  upperLong.map (·.1) ++ [0xB5, 0x131, 0x17F, 0x345, 0x3A3, 0x3C2, 0x3C3, 0x3D0, 0x3D1, 0x3D5,
    0x3D6, 0x3F0, 0x3F1, 0x3F5, 0x1C80, 0x1C81, 0x1C82, 0x1C83, 0x1C84, 0x1C85, 0x1C86, 0x1C87,
    0x1C88, 0x1E9B, 0x1FBE]

def CaseRun.codes (r : CaseRun) : List Nat :=
  (List.range ((r.last - r.first) / r.step + 1)).map fun i => r.first + i * r.step

theorem CaseRun.mem_codes {r : CaseRun} {n : Nat} (h : r.covers n = true) : n ∈ r.codes := by
  obtain ⟨hfirst, hlast, hstep⟩ := CaseRun.covers_iff.mp h
  have hdvd : (n - r.first) / r.step * r.step = n - r.first :=
    Nat.div_mul_cancel (Nat.dvd_of_mod_eq_zero hstep)
  have hle : (n - r.first) / r.step ≤ (r.last - r.first) / r.step :=
    Nat.div_le_div_right (Nat.sub_le_sub_right hlast r.first)
  refine List.mem_map.mpr ⟨(n - r.first) / r.step, List.mem_range.mpr (by omega), ?_⟩
  omega

/-- The runs that reach into a range: only they shift what is in it. -/
def reaching (runs : List CaseRun) (range : Nat × Nat) : List CaseRun :=
  runs.filter fun s => Nat.ble s.first range.2 && Nat.ble range.1 s.last

/-- The runs that do not reach a range do not matter to a point in it. -/
theorem shiftBy_reaching {runs : List CaseRun} {range : Nat × Nat} {n : Nat}
    (hlow : range.1 ≤ n) (hhigh : n ≤ range.2) :
    shiftBy (reaching runs range) n = shiftBy runs n := by
  have hfind : (reaching runs range).find? (·.covers n) = runs.find? (·.covers n) := by
    rw [reaching, List.find?_filter]
    congr 1
    funext s
    by_cases hs : s.covers n = true
    · obtain ⟨hfirst, hlast, -⟩ := CaseRun.covers_iff.mp hs
      have hbelow : s.first ≤ range.2 := by omega
      have habove : range.1 ≤ s.last := by omega
      simp [hs, hbelow, habove]
    · simp [hs]
  rw [shiftBy, hfind, shiftBy]

/-- Whether lower case takes a code point and what a run of upper case makes of it to the same, by
the runs of lower case that reach to either. -/
def CaseRun.returns (r : CaseRun) (sources targets : List CaseRun) (n : Nat) : Bool :=
  let m := ((n : Int) + r.offset).toNat
  decide (n ≠ 0x130 ∧ m.isValidChar ∧ 0x7F < m ∧ m ≠ 0x130 ∧ m ≠ 0x3A3) &&
    Nat.beq (shiftBy targets m) (shiftBy sources n)

/-- Each point that an upper run covers comes back in lower case, unless it is a stray. -/
theorem upperRuns_return : (upperRuns.all fun r => r.codes.all fun n =>
    r.returns (reaching lowerRuns r.source) (reaching lowerRuns r.target) n || strays.contains n) =
      true := by
  decide +kernel

/-- What a run of upper case takes a character to, if it is no stray, has the same lower case. -/
theorem CaseRun.returns_of_covers {r : CaseRun} (hr : r ∈ upperRuns) {n : Nat}
    (hc : r.covers n = true) (hstray : n ∉ strays) :
    let m := ((n : Int) + r.offset).toNat
    n ≠ 0x130 ∧ m.isValidChar ∧ 0x7F < m ∧ m ≠ 0x130 ∧ m ≠ 0x3A3 ∧
      shiftBy lowerRuns m = shiftBy lowerRuns n := by
  intro m
  obtain ⟨hfirst, hlast, -⟩ := CaseRun.covers_iff.mp hc
  have hcode := List.all_eq_true.mp (List.all_eq_true.mp upperRuns_return r hr) n (mem_codes hc)
  have hcontains : strays.contains n = false := by simpa using hstray
  rw [hcontains, Bool.or_false] at hcode
  simp only [returns, Bool.and_eq_true, decide_eq_true_iff, Nat.beq_eq] at hcode
  obtain ⟨⟨hn, hvalid, hlt, h130, hsigma⟩, hsame⟩ := hcode
  have hlow : r.target.1 ≤ m := by
    simp only [CaseRun.target, m]
    omega
  have hhigh : m ≤ r.target.2 := by
    simp only [CaseRun.target, m]
    omega
  have hsource : shiftBy (reaching lowerRuns r.source) n = shiftBy lowerRuns n :=
    shiftBy_reaching hfirst hlast
  rw [shiftBy_reaching hlow hhigh, hsource] at hsame
  exact ⟨hn, hvalid, hlt, h130, hsigma, hsame⟩

/-- Beyond the ASCII characters all but one have the lower case that the runs give them. -/
theorem lowerOf_of_shift {c : Char} (h : 0x7F < c.toNat) (h130 : c.toNat ≠ 0x130) :
    lowerOf c = [Char.ofNat (shiftBy lowerRuns c.toNat)] := by
  have hascii : ¬ Nat.ble c.toNat 0x7F = true := by
    rw [Nat.ble_eq]
    omega
  have hdotted : ¬ Nat.beq c.toNat 0x130 = true := by
    rw [Nat.beq_eq]
    exact h130
  simp only [lowerOf, if_neg hascii, if_neg hdotted]

/-- Beyond the ASCII characters all but those with a long upper case have what the runs give them.
-/
theorem upperOf_of_shift {c : Char} (h : 0x7F < c.toNat) (hl : listed upperLong c.toNat = none) :
    upperOf c = [Char.ofNat (shiftBy upperRuns c.toNat)] := by
  have hascii : ¬ Nat.ble c.toNat 0x7F = true := by
    rw [Nat.ble_eq]
    omega
  simp only [upperOf, if_neg hascii, hl, Option.getD_none]

theorem returns_ascii : ∀ n ∈ List.range 128, Returns (Char.ofNat n) := by decide +kernel

theorem ne_sigma_of_not_mem_strays {c : Char} (h : c.toNat ∉ strays) : c ≠ 'Σ' := by
  rintro rfl
  exact h (by decide)

/-- Every character but the strays returns. -/
theorem returns_of_not_mem_strays {c : Char} (h : c.toNat ∉ strays) : Returns c := by
  have hsigma := ne_sigma_of_not_mem_strays h
  by_cases hascii : c.toNat ≤ 0x7F
  · rw [← Char.ofNat_toNat c]
    exact returns_ascii c.toNat (List.mem_range.mpr (by omega))
  · have hlt : 0x7F < c.toNat := by omega
    have hlisted : listed upperLong c.toNat = none := by
      apply listed_eq_none_iff.mpr
      intro e he heq
      exact h (List.mem_append_left _ (heq ▸ List.mem_map_of_mem he))
    have hupper := upperOf_of_shift hlt hlisted
    rcases eq_shiftBy upperRuns c.toNat with hs | ⟨r, hr, hc, hs⟩
    · -- The character is its own upper case.
      rw [hs, Char.ofNat_toNat] at hupper
      constructor
      · rw [hupper, List.flatMap_singleton]
      · rw [hupper]
        simp [Ne.symm hsigma]
    · -- A run shifts the character to its upper case, which the lower runs shift back.
      obtain ⟨hn, hvalid, hlt', h130, hsigma', hsame⟩ := CaseRun.returns_of_covers hr hc h
      let d := Char.ofNat (((c.toNat : Int) + r.offset).toNat)
      have hd : d.toNat = ((c.toNat : Int) + r.offset).toNat := toNat_ofNat hvalid
      have hupper : upperOf c = [d] := by rw [hupper, hs]
      have hlower : lowerOf d = [Char.ofNat (shiftBy lowerRuns c.toNat)] := by
        rw [lowerOf_of_shift (hd ▸ hlt') (hd ▸ h130), hd, hsame]
      have hne : d ≠ 'Σ' := fun heq => hsigma' (hd ▸ congrArg Char.toNat heq)
      constructor
      · rw [hupper, List.flatMap_singleton, hlower, lowerOf_of_shift hlt hn]
      · rw [hupper]
        simp [Ne.symm hsigma, Ne.symm hne]

/-- The strays are strays: none of them returns. -/
theorem returns_iff {c : Char} : Returns c ↔ c.toNat ∉ strays := by
  refine ⟨fun h hstray => ?_, returns_of_not_mem_strays⟩
  have hnone : ∀ n ∈ strays, ¬ Returns (Char.ofNat n) := by decide +kernel
  exact hnone c.toNat hstray ((Char.ofNat_toNat c).symm ▸ h)

/-- Without a sigma, the lower case of a text is taken character by character. -/
theorem lowerFrom_of_plain {s : List Char} (h : 'Σ' ∉ s) (before : Bool) :
    lowerFrom before s = s.flatMap lowerOf := by
  induction s generalizing before with
  | nil => rfl
  | cons c s ih =>
    obtain ⟨hc, hs⟩ := not_or.mp (mt List.mem_cons.mpr h)
    rw [lowerFrom, ih hs, lowerIn, if_neg (Ne.symm hc), List.flatMap_cons]

/-- If all characters return, the lower case does not see a change to upper case. -/
theorem lowerChars_upperChars {s : List Char} (h : ∀ c ∈ s, Returns c) :
    lowerChars (upperChars s) = lowerChars s := by
  have hplain : 'Σ' ∉ s := fun hmem => (h _ hmem).plain List.mem_cons_self
  have hplain' : 'Σ' ∉ upperChars s := by
    intro hmem
    obtain ⟨c, hc, hsigma⟩ := List.mem_flatMap.mp hmem
    exact (h c hc).plain (List.mem_cons_of_mem c hsigma)
  calc lowerChars (upperChars s)
    _ = (s.flatMap upperOf).flatMap lowerOf := lowerFrom_of_plain hplain' false
    _ = s.flatMap fun c => (upperOf c).flatMap lowerOf := List.flatMap_assoc
    _ = s.flatMap lowerOf := List.flatMap_congr fun c hc => (h c hc).lower
    _ = lowerChars s := (lowerFrom_of_plain hplain false).symm

/-- The lower case of a text without strays is that of its upper case. -/
theorem lower_upper {s : String} (h : ∀ c ∈ s.toList, c.toNat ∉ strays) :
    lower (upper s) = lower s := by
  rw [lower, upper, String.toList_ofList,
    lowerChars_upperChars fun c hc => returns_of_not_mem_strays (h c hc), lower]

end ComparativeLaw.Text

import ComparativeLaw.Proofs.Comparison.Relisted
import ComparativeLaw.Proofs.Number.Exact

namespace ComparativeLaw

namespace Similarity

@[simp] theorem value_same : (value same : Rat) = 1 := Scalar.one_rat

@[simp] theorem value_different : (value different : Rat) = 0 := Scalar.zero_rat

@[simp] theorem value_unknown : (value unknown : Rat) = 1 / 2 := by
  show (0.5 : Rat) = 1 / 2
  norm_num

theorem ofRules_symm (a b : Option Rule) : ofRules a b = ofRules b a := by
  cases a with
  | none => cases b <;> rfl
  | some r =>
    cases b with
    | none => rfl
    | some s =>
      have hcomm : (r == s) = (s == r) := BEq.comm
      simp only [ofRules, hcomm]

def tabulate (n : Nat) (f : Nat → Nat → Similarity) : List (List Similarity) :=
  (List.range n).map fun i => (List.range n).map (f i)

/-- A matrix with a value written at a place. -/
def put (m : List (List Similarity)) (i j : Nat) (s : Similarity) : List (List Similarity) :=
  m.modify i fun row => row.set j s

/-- The places above the diagonal, row by row. -/
def above (n : Nat) : List (Nat × Nat) :=
  (List.range n).flatMap fun i => ((List.range n).filter (i < ·)).map fun j => (i, j)

def between (rules : List (Option Rule)) (i j : Nat) : Similarity :=
  ofRules (rules[i]?.getD none) (rules[j]?.getD none)

/-- The matrix that begins with the same everywhere, and to which the similarity of each pair is
written in both orders. -/
def filled (rules : List (Option Rule)) : List (List Similarity) :=
  (above rules.length).foldl
    (fun m p => put (put m p.1 p.2 (between rules p.1 p.2)) p.2 p.1 (between rules p.1 p.2))
    (tabulate rules.length fun _ _ => same)

section Tabulate

variable {n : Nat} {f g : Nat → Nat → Similarity}

theorem tabulate_congr (h : ∀ i < n, ∀ j < n, f i j = g i j) : tabulate n f = tabulate n g := by
  refine List.map_congr_left fun i hi => List.map_congr_left fun j hj => ?_
  exact h i (List.mem_range.mp hi) j (List.mem_range.mp hj)

theorem put_tabulate (i j : Nat) (s : Similarity) :
    put (tabulate n f) i j s = tabulate n fun a b => if a = i ∧ b = j then s else f a b := by
  apply List.ext_getElem
  · simp [put, tabulate]
  · intro a ha ha'
    apply List.ext_getElem
    · by_cases hai : i = a <;> simp [put, tabulate, hai]
    · intro b hb hb'
      by_cases hai : i = a
      · by_cases hbj : j = b <;> simp [put, tabulate, hai, hbj, eq_comm]
      · simp [put, tabulate, hai, Ne.symm hai]

/-- Values that do not change in the mirror are written once for all the places in a list and their
mirror images. -/
theorem foldl_put_tabulate (hg : ∀ i j, g i j = g j i) (places : List (Nat × Nat)) :
    places.foldl (fun m p => put (put m p.1 p.2 (g p.1 p.2)) p.2 p.1 (g p.1 p.2)) (tabulate n f) =
      tabulate n fun a b => if (a, b) ∈ places ∨ (b, a) ∈ places then g a b else f a b := by
  induction places generalizing f with
  | nil => simp
  | cons p places ih =>
    obtain ⟨i, j⟩ := p
    rw [List.foldl_cons, put_tabulate, put_tabulate, ih]
    refine tabulate_congr fun a _ b _ => ?_
    -- A place that is written again later takes the same value then.
    by_cases hlater : (a, b) ∈ places ∨ (b, a) ∈ places
    · rcases hlater with h | h <;> simp [h]
    · obtain ⟨hab, hba⟩ := not_or.mp hlater
      by_cases hmirror : a = j ∧ b = i
      · obtain ⟨rfl, rfl⟩ := hmirror
        simp [hab, hba, hg a b]
      · by_cases hplace : a = i ∧ b = j
        · obtain ⟨rfl, rfl⟩ := hplace
          simp [hab, hba]
        · have hfirst : ¬ ((b, a) = (i, j)) := fun h => hmirror (Prod.mk.inj h).symm
          simp [hab, hba, hmirror, hplace, hfirst]

theorem mem_above {i j : Nat} : (i, j) ∈ above n ↔ i < j ∧ j < n := by
  simp only [above, List.mem_flatMap, List.mem_map, List.mem_filter, List.mem_range,
    decide_eq_true_eq, Prod.mk.injEq]
  constructor
  · rintro ⟨i', hi', j', ⟨hj', hlt⟩, rfl, rfl⟩
    exact ⟨hlt, hj'⟩
  · rintro ⟨hlt, hj⟩
    exact ⟨i, by omega, j, ⟨hj, hlt⟩, rfl, rfl⟩

end Tabulate

theorem matrix_eq_tabulate (rules : List (Option Rule)) : matrix rules =
    tabulate rules.length fun i j => if i = j then same else between rules i j := by
  apply List.ext_getElem
  · simp [matrix, tabulate]
  · intro i hi hi'
    apply List.ext_getElem
    · simp [matrix, tabulate]
    · intro j hj hj'
      have hi : i < rules.length := by simpa [matrix] using hi
      have hj : j < rules.length := by simpa [matrix] using hj
      simp [matrix, tabulate, between, hi, hj]

/-- The similarities of all pairs are those that the loop writes. -/
theorem matrix_eq_filled (rules : List (Option Rule)) : matrix rules = filled rules := by
  have hsymm (i j : Nat) : between rules i j = between rules j i := ofRules_symm _ _
  rw [matrix_eq_tabulate, filled, foldl_put_tabulate hsymm]
  refine tabulate_congr fun i hi j hj => ?_
  simp only [mem_above]
  rcases Nat.lt_trichotomy i j with h | h | h
  · rw [if_neg (by omega), if_pos (by omega)]
  · rw [if_pos h, if_neg (by omega)]
  · rw [if_neg (by omega), if_pos (by omega)]

theorem getElem?_matrix_bind (rules : List (Option Rule)) (i j : Nat) :
    ((matrix rules)[i]?.bind fun row => row[j]?) = rules[i]?.bind fun a => rules[j]?.map fun b =>
      if i = j then same else ofRules a b := by
  cases hi : rules[i]? with
  | none => simp [matrix, hi]
  | some a => simp [matrix, hi]

end Similarity

namespace Comparison

variable {c : Comparison}

/-- The similarity at a place of the matrix, as a number. -/
def cell? (c : Comparison) (i j : Nat) : Option Rat :=
  (c.similarity[i]?.bind fun row => row[j]?).map Similarity.value

def ruleAt? (c : Comparison) (i : Nat) : Option Rule := c.codes[i]?.bind c.rule?

/-- The jurisdictions with a rule and with a one in a row of the matrix. -/
def alike (c : Comparison) (i : Nat) : List Code :=
  (c.codes.zipIdx.filter fun e => (c.rule? e.1).isSome && c.cell? i e.2 = some 1).map (·.1)

/-- What the matrix of a comparison says about its jurisdictions. -/
structure TellsGroups (c : Comparison) : Prop where
  filled : c.similarity = Similarity.filled (c.codes.map c.rule?)
  square : c.similarity.length = c.codes.length ∧
    ∀ row ∈ c.similarity, row.length = c.codes.length
  symm : ∀ i j, c.cell? i j = c.cell? j i
  diagonal : ∀ i < c.codes.length, c.cell? i i = some 1
  values : ∀ i < c.codes.length, ∀ j < c.codes.length,
    c.cell? i j ∈ [some 0, some (1 / 2), some 1]
  half_iff : ∀ i j a b, i ≠ j → c.codes[i]? = some a → c.codes[j]? = some b →
    (c.cell? i j = some (1 / 2) ↔ a ∈ c.unknown ∨ b ∈ c.unknown)
  /-- The ones in the row of a jurisdiction with a rule are those that have the rule, -/
  alike_eq : ∀ i r, c.ruleAt? i = some r → c.alike i = c.adopters r
  /-- as many as are counted for it. -/
  length_alike : ∀ i r, c.ruleAt? i = some r → (c.alike i).length = c.countOf r
  trans : ∀ i j k, (c.ruleAt? i).isSome → (c.ruleAt? j).isSome → (c.ruleAt? k).isSome →
    c.cell? i j = some 1 → c.cell? j k = some 1 → c.cell? i k = some 1

section Cells

variable (hs : c.similarity = Similarity.matrix (c.codes.map c.rule?))
include hs

theorem cell?_eq (i j : Nat) : c.cell? i j = c.codes[i]?.bind fun a => c.codes[j]?.map fun b =>
    (if i = j then Similarity.same else .ofRules (c.rule? a) (c.rule? b)).value := by
  rw [cell?, hs, Similarity.getElem?_matrix_bind, List.getElem?_map, List.getElem?_map]
  cases c.codes[i]? with
  | none => rfl
  | some a => cases c.codes[j]? <;> rfl

theorem cell?_symm (i j : Nat) : c.cell? i j = c.cell? j i := by
  rw [cell?_eq hs, cell?_eq hs]
  cases c.codes[i]? with
  | none => cases c.codes[j]? <;> rfl
  | some a =>
    cases c.codes[j]? with
    | none => rfl
    | some b =>
      simp only [Option.bind_some, Option.map_some, eq_comm (a := i), Similarity.ofRules_symm]

theorem cell?_of_getElem? {i j : Nat} {a b : Code} (hi : c.codes[i]? = some a)
    (hj : c.codes[j]? = some b) : c.cell? i j =
      some (if i = j then Similarity.same else .ofRules (c.rule? a) (c.rule? b)).value := by
  rw [cell?_eq hs, hi, hj, Option.bind_some, Option.map_some]

theorem cell?_self {i : Nat} (hi : i < c.codes.length) : c.cell? i i = some 1 := by
  have hcode : c.codes[i]? = some c.codes[i] := List.getElem?_eq_getElem hi
  rw [cell?_of_getElem? hs hcode hcode, if_pos rfl, Similarity.value_same]

theorem cell?_eq_half_iff {i j : Nat} {a b : Code} (hne : i ≠ j) (hi : c.codes[i]? = some a)
    (hj : c.codes[j]? = some b) :
    c.cell? i j = some (1 / 2) ↔ c.rule? a = none ∨ c.rule? b = none := by
  rw [cell?_of_getElem? hs hi hj, if_neg hne, Option.some_inj]
  cases c.rule? a with
  | none => simp [Similarity.ofRules]
  | some r =>
    cases c.rule? b with
    | none => simp [Similarity.ofRules]
    | some s =>
      -- Neither of the values of two rules is a half.
      by_cases hrs : (r == s) = true <;> simp [Similarity.ofRules, hrs]

theorem cell?_mem {i j : Nat} (hi : i < c.codes.length) (hj : j < c.codes.length) :
    c.cell? i j ∈ [some 0, some (1 / 2), some 1] := by
  rw [cell?_of_getElem? hs (List.getElem?_eq_getElem hi) (List.getElem?_eq_getElem hj)]
  generalize (if i = j then Similarity.same else
    .ofRules (c.rule? c.codes[i]) (c.rule? c.codes[j])) = s
  cases s <;> simp

/-- Between jurisdictions with rules a one stands for equal rules. -/
theorem Computed.cell?_eq_one_iff (h : Computed c) {i j : Nat} {r s : Rule}
    (hi : c.ruleAt? i = some r) (hj : c.ruleAt? j = some s) :
    c.cell? i j = some 1 ↔ (r == s) = true := by
  obtain ⟨a, ha, hr⟩ := Option.bind_eq_some_iff.mp hi
  obtain ⟨b, hb, hs'⟩ := Option.bind_eq_some_iff.mp hj
  rw [cell?_of_getElem? hs ha hb, hr, hs', Option.some_inj]
  by_cases hij : i = j
  · -- The rule of one place is the same as itself, since it has no NaN.
    have hself : (r == r) = true := h.beq_self a (List.mem_of_getElem? ha) r hr
    have hrs : r = s := by
      rw [hij, hj] at hi
      exact (Option.some.inj hi).symm
    simp [hij, ← hrs, hself]
  · by_cases hrs : (r == s) = true <;> simp [hij, Similarity.ofRules, hrs]

theorem Computed.alike_eq (h : Computed c) {i : Nat} {r : Rule} (hi : c.ruleAt? i = some r) :
    c.alike i = c.adopters r := by
  have hpick : ∀ e ∈ c.codes.zipIdx,
      ((c.rule? e.1).isSome && decide (c.cell? i e.2 = some 1)) = (c.rule? e.1 == some r) := by
    intro e he
    have hcode : c.codes[e.2]? = some e.1 := List.mem_zipIdx_iff_getElem?.mp he
    cases hrule : c.rule? e.1 with
    | none => rfl
    | some s =>
      have hj : c.ruleAt? e.2 = some s := by rw [ruleAt?, hcode, Option.bind_some, hrule]
      have hone := h.cell?_eq_one_iff hs hi hj
      rw [BEq.comm] at hone
      exact Bool.eq_iff_iff.mpr (by simpa using hone)
  have hcodes : c.codes.zipIdx.map (·.1) = c.codes := List.zipIdx_map_fst 0 c.codes
  rw [alike, List.filter_congr hpick, adopters]
  conv_rhs => rw [← hcodes, List.filter_map]
  rfl

theorem Computed.tellsGroups (h : Computed c) : c.TellsGroups where
  filled := hs.trans (Similarity.matrix_eq_filled _)
  square := by
    rw [hs, Similarity.matrix_eq_tabulate]
    simp [Similarity.tabulate]
  symm := cell?_symm hs
  diagonal i hi := cell?_self hs hi
  values i hi j hj := cell?_mem hs hi hj
  half_iff i j a b hne hi hj := by
    have ha : a ∈ c.codes := List.mem_of_getElem? hi
    have hb : b ∈ c.codes := List.mem_of_getElem? hj
    rw [cell?_eq_half_iff hs hne hi hj, h.mem_unknown, h.mem_unknown]
    simp only [ha, hb, true_and]
  alike_eq i r hi := h.alike_eq hs hi
  length_alike i r hi := by rw [h.alike_eq hs hi, h.countOf_eq]
  trans i j k hi hj hk hij hjk := by
    obtain ⟨r, hr⟩ := Option.isSome_iff_exists.mp hi
    obtain ⟨s, hs'⟩ := Option.isSome_iff_exists.mp hj
    obtain ⟨t, ht⟩ := Option.isSome_iff_exists.mp hk
    rw [h.cell?_eq_one_iff hs hr hs'] at hij
    rw [h.cell?_eq_one_iff hs hs' ht] at hjk
    exact (h.cell?_eq_one_iff hs hr ht).mpr (BEq.trans hij hjk)

end Cells

theorem exists_run_refsOf (catalog : Catalog) (topic : Topic) {texts : List String} :
    (∃ c, run catalog topic (refsOf texts) = .ok c) ↔
      2 ≤ texts.length ∧ (texts.map canonicalCode).Nodup := by
  constructor
  · rintro ⟨c, hc⟩
    exact of_run_refsOf hc
  · rintro ⟨htwo, hdistinct⟩
    refine ⟨ofCodes catalog topic (codesOf texts), ?_⟩
    rw [run, distinctCodes_refsOf htwo hdistinct]
    rfl

/-- At least two code texts that differ as codes have a comparison, no others have, and its matrix
groups the jurisdictions as its counts do. -/
theorem run_tellsGroups (catalog : Catalog) (topic : Topic) (texts : List String)
    (hrules : ∀ e ∈ catalog.entries, e.rule.hasNaN = false) :
    ((∃ c, run catalog topic (refsOf texts) = .ok c) ↔
      2 ≤ texts.length ∧ (texts.map canonicalCode).Nodup) ∧
    ∀ c, run catalog topic (refsOf texts) = .ok c → c.codes = codesOf texts ∧ c.TellsGroups := by
  refine ⟨exists_run_refsOf catalog topic, fun c hc => ?_⟩
  obtain ⟨htwo, hdistinct⟩ := of_run_refsOf hc
  rw [run, distinctCodes_refsOf htwo hdistinct] at hc
  cases hc
  exact ⟨rfl, (computed_ofCodes hrules topic texts).tellsGroups rfl⟩

theorem run_tellsGroups_evenlySplit : ∃ catalog, Catalog.ofEntries evenlySplit none = .ok catalog ∧
    (∀ e ∈ catalog.entries, e.rule.hasNaN = false) ∧
    ∃ c, run catalog .comparativeNegligence (refsOf splitTexts) = .ok c ∧
      c.codes = codesOf splitTexts ∧ c.TellsGroups := by
  have hbuilt : ((Catalog.ofEntries evenlySplit none).toOption.map fun catalog =>
      catalog.entries.all fun e => !e.rule.hasNaN) = some true := by decide +kernel
  obtain ⟨catalog, hcatalog, hall⟩ := Checked.exists_of_map_toOption hbuilt
  have hrules : ∀ e ∈ catalog.entries, e.rule.hasNaN = false := by simpa using hall
  have hdistinct : (splitTexts.map canonicalCode).Nodup := by decide +kernel
  obtain ⟨hruns, htells⟩ := run_tellsGroups catalog .comparativeNegligence splitTexts hrules
  obtain ⟨c, hc⟩ := hruns.mpr ⟨by decide, hdistinct⟩
  exact ⟨catalog, hcatalog, hrules, c, hc, htells c hc⟩

end Comparison
end ComparativeLaw

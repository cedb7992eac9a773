import ComparativeLaw.Proofs.CaseLaw.Addition
import Mathlib.Algebra.Ring.Nat

namespace ComparativeLaw

namespace Decision

/-- The statutes that a decision cites, as they are compared. -/
def citedKeys (d : Decision) : List String :=
  d.statutes.filterMap fun
    | .text s => some (CaseIndex.statuteKey s)
    | _ => none

/-- How often a decision cites a statute, in whatever spelling. -/
def citations (d : Decision) (statute : String) : Nat :=
  d.citedKeys.count (CaseIndex.statuteKey statute)

def cites (d : Decision) (statute : String) : Bool :=
  d.citedKeys.contains (CaseIndex.statuteKey statute)

/-- A decision cites a statute in any spelling with the same key. -/
theorem cites_iff {d : Decision} {statute : String} : d.cites statute = true ↔
    ∃ s, .text s ∈ d.statutes ∧ CaseIndex.statuteKey s = CaseIndex.statuteKey statute := by
  rw [cites, List.contains_iff_mem, citedKeys, List.mem_filterMap]
  constructor
  · rintro ⟨j, hj, hkey⟩
    cases j with
    | text s => exact ⟨s, hj, Option.some.inj hkey⟩
    | null | bool | int | float | list | object => cases hkey
  · rintro ⟨s, hs, hkey⟩
    exact ⟨.text s, hs, congrArg some hkey⟩

theorem citations_ne_zero {d : Decision} {statute : String} :
    d.citations statute ≠ 0 ↔ d.cites statute = true := by
  rw [citations, cites, List.contains_iff_mem, ← List.count_pos_iff, Nat.pos_iff_ne_zero]

/-- Of statutes that are texts each has its key. -/
theorem citedKeys_of_texts {d : Decision} {cited : List String}
    (h : d.statutes = cited.map .text) : d.citedKeys = cited.map CaseIndex.statuteKey := by
  rw [citedKeys, h, List.filterMap_map]
  exact List.filterMap_eq_map ▸ rfl

theorem Typed.exists_texts {d : Decision} (h : d.Typed) :
    ∃ cited : List String, d.statutes = cited.map .text := by
  rcases CaseIndex.texts_or_first d.statutes with htexts | ⟨cited, j, rest, hcited, hfirst⟩
  · exact htexts
  · obtain ⟨s, hs⟩ := h j (hcited ▸ List.mem_append_right _ List.mem_cons_self)
    exact absurd hs (hfirst s)

end Decision

section

variable {α : Type} (n : α → Nat) (xs : List α)

theorem length_filter_le_sum : (xs.filter fun x => n x ≠ 0).length ≤ (xs.map n).sum := by
  induction xs with
  | nil => exact Nat.le_refl 0
  | cons x xs ih =>
    rw [List.map_cons, List.sum_cons, List.filter_cons]
    split
    · next hx =>
      have hx : n x ≠ 0 := of_decide_eq_true hx
      rw [List.length_cons]
      omega
    · omega

/-- Counts that add up to no more than their number are at most one. -/
theorem le_one_of_sum_le (h : (xs.map n).sum ≤ (xs.filter fun x => n x ≠ 0).length) :
    ∀ x ∈ xs, n x ≤ 1 := by
  induction xs with
  | nil => exact fun _ hx => absurd hx List.not_mem_nil
  | cons x xs ih =>
    -- The rest cannot make up for an item that is repeated.
    have hrest := length_filter_le_sum n xs
    rw [List.map_cons, List.sum_cons, List.filter_cons] at h
    split at h
    · next hx =>
      have hx : n x ≠ 0 := of_decide_eq_true hx
      rw [List.length_cons] at h
      exact List.forall_mem_cons.mpr ⟨by omega, ih (by omega)⟩
    · next hx =>
      have hx : n x = 0 := by simpa using hx
      exact List.forall_mem_cons.mpr ⟨by omega, ih (by omega)⟩

/-- Items that are repeated a number of times each come to the items that occur exactly if none of
them is repeated. -/
theorem flatMap_replicate_eq_filter :
    xs.flatMap (fun x => List.replicate (n x) x) = xs.filter (fun x => n x ≠ 0) ↔
      ∀ x ∈ xs, n x ≤ 1 := by
  constructor
  · intro h
    have hlength := congrArg List.length h
    simp only [List.length_flatMap, List.length_replicate] at hlength
    exact le_one_of_sum_le n xs hlength.le
  · intro h
    induction xs with
    | nil => rfl
    | cons x xs ih =>
      obtain ⟨hx, hxs⟩ := List.forall_mem_cons.mp h
      rw [List.flatMap_cons, List.filter_cons, ih hxs]
      rcases Nat.le_one_iff_eq_zero_or_eq_one.mp hx with h0 | h1
      · simp [h0]
      · simp [h1]

end

namespace CaseIndex

variable {ix : CaseIndex} {d : Decision} {ds : List Decision}

/-- Under each statute stand the stored decisions that cite it, once for each citation. -/
def Cited (ix : CaseIndex) : Prop :=
  ∀ k, ix.statutes.ids k = ix.toList.flatMap fun d => List.replicate (d.citedKeys.count k) d.id

theorem cited_empty : Cited {} := fun _ => rfl

/-- One more decision keeps the index exact. -/
theorem Cited.add (h : ix.Cited) (ht : d.Typed) : (ix.add d).1.Cited := by
  by_cases hid : d.id ∈ ix.decisions.keys
  · rwa [add_of_stored hid]
  · obtain ⟨cited, htexts⟩ := ht.exists_texts
    obtain ⟨-, hadds⟩ := add_of_texts hid htexts
    intro k
    have hlist : (ix.add d).1.toList = ix.toList ++ [d] := by
      rw [toList, hadds.decisions, Table.values, List.map_append]
      rfl
    rw [hadds.statutes, h k, hlist, List.flatMap_append, List.flatMap_singleton,
      Decision.citedKeys_of_texts htexts]

/-- An index of decisions is exact. -/
theorem Cited.addEach (h : ix.Cited) (ht : ∀ d ∈ ds, d.Typed) : (ix.addEach ds).Cited := by
  induction ds generalizing ix with
  | nil => exact h
  | cons d ds ih =>
    obtain ⟨hd, hds⟩ := List.forall_mem_cons.mp ht
    exact ih (h.add hd) hds

theorem Filed.get?_of_mem (h : ix.Filed) (hd : d ∈ ix.toList) :
    ix.decisions.get? d.id = some d := by
  have hkeys : ix.decisions.keys.Nodup := h.keys_decisions ▸ h.nodup
  apply Table.get?_of_mem hkeys
  rw [h.keyed]
  exact List.mem_map_of_mem hd

/-- What a statute leads to is read back from the identifiers under it. -/
theorem citing_eq (h : ix.Filed) (hcited : ix.Cited) (s : String) :
    ix.citing s = ix.toList.flatMap fun d => List.replicate (d.citations s) d := by
  rw [citing, hcited, List.filterMap_flatMap]
  apply List.flatMap_congr
  intro d hd
  exact List.filterMap_replicate_of_some (h.get?_of_mem hd)

/-- However decisions with text statutes are added, a statute leads to exactly the stored ones that
cite it in some spelling, in the order in which they came, and to each as often as it cites it. So
the list is without repetition exactly if none of them cites the statute twice. -/
theorem citing_counts (ht : ∀ d ∈ ds, d.Typed) (s : String) :
    (addEach {} ds).citing s = (Decision.firstOfEach ds).flatMap
      (fun d => List.replicate (d.citations s) d) ∧
    (∀ d, d ∈ (addEach {} ds).citing s ↔ d ∈ Decision.firstOfEach ds ∧
      ∃ s', .text s' ∈ d.statutes ∧ statuteKey s' = statuteKey s) ∧
    ((addEach {} ds).citing s = (Decision.firstOfEach ds).filter (·.cites s) ↔
      ∀ d ∈ Decision.firstOfEach ds, d.citations s ≤ 1) := by
  obtain ⟨hfiled, hlist⟩ := filed_empty.addEach ds
  have hlist : (addEach {} ds).toList = Decision.firstOfEach ds := hlist
  have hciting := citing_eq hfiled (cited_empty.addEach ht) s
  rw [hlist] at hciting
  refine ⟨hciting, fun d => ?_, ?_⟩
  · rw [hciting, ← Decision.cites_iff, ← Decision.citations_ne_zero, List.mem_flatMap]
    simp only [List.mem_replicate]
    constructor
    · rintro ⟨e, he, hcites, rfl⟩
      exact ⟨he, hcites⟩
    · rintro ⟨hd, hcites⟩
      exact ⟨d, hd, hcites, rfl⟩
  · -- The filter would list each of them once, which differs where one cites the statute twice.
    have hfilter : (Decision.firstOfEach ds).filter (·.cites s) =
        (Decision.firstOfEach ds).filter fun d => d.citations s ≠ 0 := by
      apply List.filter_congr
      intro d _
      rw [Bool.eq_iff_iff, decide_eq_true_iff, Decision.citations_ne_zero]
    rw [hciting, hfilter, flatMap_replicate_eq_filter]

def citingAll (id : String) (statutes : List String) : Decision where
  id := id
  caseNumber := "22-1"
  decided := ⟨2018, 2, 5, by decide⟩
  level := .district
  topic := "negligence"
  summary := "Shared fault."
  statutes := statutes.map .text

theorem typed_citingAll (id : String) (statutes : List String) : (citingAll id statutes).Typed := by
  intro j hj
  obtain ⟨s, -, rfl⟩ := List.mem_map.mp hj
  exact ⟨s, rfl⟩

/-- Decisions of which the second one is refused, since the first one has its identifier. -/
def citingDecisions : List Decision :=
  [citingAll "a" ["Cal. Civ. Code 1714", "CACI 405"], citingAll "a" ["CACI 405"],
    citingAll "b" [" cal. civ. code 1714 "]]

/-- Two decisions that cite one statute in two spellings. -/
theorem citing_counts_spelled : (∀ d ∈ citingDecisions, d.Typed) ∧
    (∀ d ∈ Decision.firstOfEach citingDecisions, d.citations "CAL. CIV. CODE 1714" ≤ 1) ∧
    ((addEach {} citingDecisions).citing "CAL. CIV. CODE 1714").map (·.id) = ["a", "b"] := by
  have htyped : ∀ d ∈ citingDecisions, d.Typed := by
    simp [citingDecisions, typed_citingAll]
  obtain ⟨-, -, honce⟩ := citing_counts htyped "CAL. CIV. CODE 1714"
  have hle : ∀ d ∈ Decision.firstOfEach citingDecisions,
      d.citations "CAL. CIV. CODE 1714" ≤ 1 := by decide +kernel
  refine ⟨htyped, hle, ?_⟩
  rw [honce.mpr hle]
  decide +kernel

/-- A decision that cites a statute in two spellings is listed twice. -/
theorem citing_repeats :
    (addEach {} [citingAll "a" ["CACI 405", " caci 405"]]).citing "CACI 405" ≠
      (Decision.firstOfEach [citingAll "a" ["CACI 405", " caci 405"]]).filter
        (·.cites "CACI 405") := by
  have htwice : ((addEach {} [citingAll "a" ["CACI 405", " caci 405"]]).citing
      "CACI 405").length = 2 := by decide +kernel
  have honce : ((Decision.firstOfEach [citingAll "a" ["CACI 405", " caci 405"]]).filter
      (·.cites "CACI 405")).length = 1 := by decide +kernel
  intro h
  rw [h, honce] at htwice
  cases htwice

end CaseIndex
end ComparativeLaw

import ComparativeLaw.Proofs.Jurisdiction.Merging

/-!
Registries as ordered unions. However a registry has come about, each jurisdiction stands in it under
its own code. What is merged into it counts more than what it has, the later more than the earlier;
the codes that it has stay where they are, and new ones follow as they are first seen. So it makes no
difference in how many steps jurisdictions are merged.
-/
namespace ComparativeLaw

namespace Registry

variable {r : Registry} {ref : Reference} {j : Jurisdiction}

/-- The keys of the registered codes, in the order of the table. -/
def order (r : Registry) : List Code.Key := r.toList.map fun j => j.code.key

theorem order_eq (r : Registry) : r.order = r.table.keys := by
  rw [order, ← map_fst_keyed, r.keyed_toList, Table.keys]

/-- What is found for a reference is the jurisdiction under its code. -/
theorem get?_eq_some : r.get? ref = some j ↔ j ∈ r.toList ∧ j.code.key = ref.code.key := by
  constructor
  · intro hget
    exact ⟨Table.mem_values_of_get? hget, r.own _ (Table.mem_of_get? hget)⟩
  · rintro ⟨hj, hkey⟩
    obtain ⟨e, he, rfl⟩ := List.mem_map.mp hj
    have hown : (ref.code.key, e.2) = e := by rw [← hkey, r.own e he]
    exact Table.get?_of_mem r.nodup (hown ▸ he)

theorem get?_eq_none : r.get? ref = none ↔ ∀ j ∈ r.toList, j.code.key ≠ ref.code.key := by
  rw [Option.eq_none_iff_forall_ne_some]
  simp only [ne_eq, get?_eq_some, not_and]

theorem resolve_eq_error {e : Failure} : r.resolve ref = .error e ↔
    r.get? ref = none ∧ e = .unknownJurisdiction ref.code none := by
  unfold resolve
  split
  · next hj => simp [hj]
  · next hj => simp [hj, eq_comm]

/-- A code is a text as soon as it counts as equal to one. -/
theorem code_eq_of_isText {c d : Code} (hc : c.isText = true) (h : d.key = c.key) : d = c := by
  cases c with
  | text s => exact code_eq_of_key h
  | value j => cases hc

/-- A registry in which each jurisdiction is found under its own code and nothing else is. -/
structure Answers (r : Registry) : Prop where
  own : ∀ e ∈ r.table, e.2.code.key = e.1
  found : ∀ j ∈ r.toList, r.get? (.known j) = some j
  resolved : ∀ ref j, r.resolve ref = .ok j ↔ j ∈ r.toList ∧ j.code.key = ref.code.key
  /-- Codes that are texts count as equal only if they are the same text. -/
  code_eq : ∀ ref j, ref.code.isText = true → r.resolve ref = .ok j → j.code = ref.code
  refused : ∀ ref e, r.resolve ref = .error e ↔
    (∀ j ∈ r.toList, j.code.key ≠ ref.code.key) ∧ e = .unknownJurisdiction ref.code none

theorem answers (r : Registry) : r.Answers where
  own := r.own
  found _ hj := get?_eq_some.mpr ⟨hj, rfl⟩
  resolved _ _ := resolve_eq_ok.trans get?_eq_some
  code_eq _ _ htext hj := code_eq_of_isText htext (get?_eq_some.mp (resolve_eq_ok.mp hj)).2
  refused _ _ := resolve_eq_error.trans (and_congr_left' get?_eq_none)

/-- A registry that has what another one has and some jurisdictions besides, which replace those of
the same code. -/
structure Extends (r : Registry) (js : List Jurisdiction) (u : Registry) : Prop where
  /-- The last one of the jurisdictions with a code counts, before what was there. -/
  lookup : ∀ ref, u.get? ref =
    (js.reverse.find? fun j => j.code.key = ref.code.key).or (r.get? ref)
  order : u.order = r.order ++ (js.map fun j => j.code.key).eraseDups.filter (· ∉ r.order)

theorem extends_merged (r : Registry) (js : List Jurisdiction) : r.Extends js (r.merged js) where
  lookup ref := get?_merged r js ref.code.key
  order := by
    rw [order_eq, order_eq, r.table_merged, Table.keys_insertAll, map_fst_keyed]

/-- A chain of mergers comes to one merger of all that is merged. -/
theorem table_foldl_merged (r : Registry) (chain : List (List Jurisdiction)) :
    (chain.foldl merged r).table = (r.merged chain.flatten).table := by
  induction chain generalizing r with
  | nil =>
    rw [List.foldl_nil, List.flatten_nil, r.table_merged]
    rfl
  | cons js chain ih =>
    rw [List.foldl_cons, ih, r.table_merged_merged, List.flatten_cons]

/-- Whatever list a registry is made of and whatever has been merged into it since, it answers for
the codes of its jurisdictions, and merging extends it, all at once or one after the other. -/
theorem foldl_merged_extends (js : List Jurisdiction) (chain : List (List Jurisdiction)) :
    let r := chain.foldl merged (ofList js)
    r.Answers ∧ r.toList = (ofList (js ++ chain.flatten)).toList ∧
      ∀ xs, r.Extends xs (r.merged xs) ∧
        ∀ ys, ((r.merged xs).merged ys).toList = (r.merged (xs ++ ys)).toList := by
  intro r
  -- The list that the chain starts from is merged into nothing.
  have hjoined : r.table = (ofList (js ++ chain.flatten)).table :=
    (ofList []).table_foldl_merged (js :: chain)
  refine ⟨r.answers, congrArg Table.values hjoined, fun xs => ?_⟩
  refine ⟨r.extends_merged xs, fun ys => ?_⟩
  exact congrArg Table.values (r.table_merged_merged xs ys)

/-- A code that is merged again keeps its place and takes the last jurisdiction. -/
example : ((ofList [.ofCode "US", .ofCode "UK"]).merged
    [.ofCode "JP", { code := "US", name := "United States" }]).toList =
      [{ code := "US", name := "United States" }, .ofCode "UK", .ofCode "JP"] := by
  rfl

end Registry
end ComparativeLaw

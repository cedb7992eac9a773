import ComparativeLaw.Table
import Mathlib.Data.List.Induction

namespace ComparativeLaw.Table

variable {κ ν : Type} [DecidableEq κ]

theorem get?_of_mem {t : Table κ ν} (hn : t.keys.Nodup) {k : κ} {v : ν} (h : (k, v) ∈ t) :
    t.get? k = some v := by
  induction t with
  | nil => cases h
  | cons e t ih =>
    obtain ⟨hfresh, hn⟩ := List.nodup_cons.mp hn
    rcases List.mem_cons.mp h with rfl | h
    · simp [get?]
    · have hne : e.1 ≠ k := by
        rintro rfl
        exact hfresh (List.mem_map.mpr ⟨(e.1, v), h, rfl⟩)
      have hrest : get? t k = some v := ih hn h
      simpa [get?, hne] using hrest

theorem mem_of_get? {t : Table κ ν} {k : κ} {v : ν} (h : t.get? k = some v) : (k, v) ∈ t := by
  obtain ⟨e, he, rfl⟩ := Option.map_eq_some_iff.mp h
  have hk := List.find?_some he
  have hkey : e.1 = k := of_decide_eq_true hk
  exact hkey ▸ List.mem_of_find?_eq_some he

/-- Of the values that are inserted under a key, the last one is found. -/
theorem get?_insertAll_last (t : Table κ ν) (pairs : List (κ × ν)) (k : κ) :
    (t.insertAll pairs).get? k =
      ((pairs.reverse.find? fun e => e.1 = k).map (·.2)).or (t.get? k) := by
  induction pairs using List.reverseRecOn with
  | nil => rfl
  | append_singleton pairs e ih =>
    rw [insertAll_append, List.reverse_append, List.reverse_singleton, List.singleton_append,
      List.find?_cons]
    show ((t.insertAll pairs).insert e.1 e.2).get? k = _
    rw [get?_insert]
    by_cases h : e.1 = k
    · simp [h]
    · simp [h, ih]

/-- A table of pairs has the last value of each key. -/
theorem mem_ofList {pairs : List (κ × ν)} {k : κ} {v : ν} :
    (k, v) ∈ ofList pairs ↔ (pairs.reverse.find? fun e => e.1 = k).map (·.2) = some v := by
  have hn : (ofList pairs).keys.Nodup := nodup_keys_insertAll (t := []) List.nodup_nil pairs
  have hget : (ofList pairs).get? k = (pairs.reverse.find? fun e => e.1 = k).map (·.2) :=
    (get?_insertAll_last [] pairs k).trans (Option.or_none ..)
  rw [← hget]
  exact ⟨get?_of_mem hn, mem_of_get?⟩

/-- Where no key repeats, the order of the entries does not show in what is found. -/
theorem get?_perm {t t' : Table κ ν} (hn : t.keys.Nodup) (hp : t.Perm t') (k : κ) :
    t.get? k = t'.get? k := by
  have hn' : t'.keys.Nodup := (hp.map Prod.fst).nodup_iff.mp hn
  ext v
  constructor
  · intro h
    exact get?_of_mem hn' (hp.mem_iff.mp (mem_of_get? h))
  · intro h
    exact get?_of_mem hn (hp.mem_iff.mpr (mem_of_get? h))

/-- Pairs with new keys are put last as they are. -/
theorem insertAll_of_nodup {t : Table κ ν} {pairs : List (κ × ν)}
    (hn : ((t ++ pairs).map (·.1)).Nodup) : t.insertAll pairs = t ++ pairs := by
  induction pairs generalizing t with
  | nil => exact (List.append_nil t).symm
  | cons e pairs ih =>
    have hfresh : e.1 ∉ t.keys := by
      intro hin
      rw [List.map_append, List.nodup_append] at hn
      exact hn.2.2 e.1 hin e.1 List.mem_cons_self rfl
    have hsplit : t ++ e :: pairs = (t ++ [e]) ++ pairs := by simp
    have hstep : t.insertAll (e :: pairs) = (t.insert e.1 e.2).insertAll pairs := rfl
    rw [hsplit] at hn ⊢
    rw [hstep, insert_of_not_mem hfresh, ih hn]

/-- A list in which no key repeats is its own table. -/
theorem ofList_of_nodup {pairs : List (κ × ν)} (hn : (pairs.map (·.1)).Nodup) :
    ofList pairs = pairs :=
  insertAll_of_nodup (t := []) hn

omit [DecidableEq κ] in
theorem keys_append (t u : Table κ ν) : (t ++ u).keys = t.keys ++ u.keys := List.map_append

/-- Of two tables the first one is asked first. -/
theorem get?_append (t u : Table κ ν) (k : κ) : get? (t ++ u) k = (t.get? k).or (u.get? k) := by
  rw [get?, List.find?_append, Option.map_or]
  rfl

theorem isSome_get? {t : Table κ ν} {k : κ} : (t.get? k).isSome = true ↔ k ∈ t.keys := by
  rw [get?, Option.isSome_map, List.find?_isSome, keys, List.mem_map]
  simp only [decide_eq_true_eq]

/-- Inserting adds the keys of the pairs and no others. -/
theorem mem_keys_insertAll {t : Table κ ν} {pairs : List (κ × ν)} {k : κ} :
    k ∈ (t.insertAll pairs).keys ↔ k ∈ t.keys ∨ k ∈ pairs.map (·.1) := by
  induction pairs generalizing t with
  | nil => simp [insertAll]
  | cons e pairs ih =>
    have hstep : t.insertAll (e :: pairs) = (t.insert e.1 e.2).insertAll pairs := rfl
    have hfirst : k ∈ (t.insert e.1 e.2).keys ↔ k ∈ t.keys ∨ k = e.1 := by
      rw [keys_insert]
      split
      · next hin => exact ⟨.inl, fun h => h.elim id fun hk => hk ▸ hin⟩
      · simp
    rw [hstep, ih, hfirst, List.map_cons, List.mem_cons, or_assoc]

/-- Of items in their first-seen order, the last one counts if it is new. -/
theorem eraseDups_snoc (xs : List κ) (x : κ) :
    (xs ++ [x]).eraseDups = if x ∈ xs then xs.eraseDups else xs.eraseDups ++ [x] := by
  rw [List.eraseDups_append, List.removeAll, List.filter_cons, List.filter_nil]
  by_cases h : x ∈ xs <;> simp [h, List.eraseDups_cons]

/-- The keys of a table keep their places, and new ones follow as they are first seen. -/
theorem keys_insertAll (t : Table κ ν) (pairs : List (κ × ν)) :
    (t.insertAll pairs).keys = t.keys ++ (pairs.map (·.1)).eraseDups.filter (· ∉ t.keys) := by
  induction pairs using List.reverseRecOn with
  | nil => exact (List.append_nil _).symm
  | append_singleton pairs e ih =>
    have hstep : t.insertAll (pairs ++ [e]) = (t.insertAll pairs).insert e.1 e.2 :=
      insertAll_append t pairs [e]
    rw [hstep, keys_insert, List.map_append, List.map_singleton, eraseDups_snoc]
    by_cases hold : e.1 ∈ t.keys
    · -- The filter passes over a key that the table had before.
      rw [if_pos (mem_keys_insertAll.mpr (.inl hold)), ih]
      split <;> simp [hold]
    · by_cases hseen : e.1 ∈ pairs.map (·.1)
      · rw [if_pos (mem_keys_insertAll.mpr (.inr hseen)), if_pos hseen, ih]
      · have hfresh : e.1 ∉ (t.insertAll pairs).keys :=
          fun hin => (mem_keys_insertAll.mp hin).elim hold hseen
        rw [if_neg hfresh, if_neg hseen, ih, List.filter_append, List.append_assoc]
        simp [hold]

theorem insert_of_mem {t : Table κ ν} (hn : t.keys.Nodup) {k : κ} {v : ν} (h : (k, v) ∈ t) :
    t.insert k v = t := by
  induction t with
  | nil => cases h
  | cons e t ih =>
    obtain ⟨hfresh, hn⟩ := List.nodup_cons.mp hn
    rw [insert]
    rcases List.mem_cons.mp h with rfl | h
    · exact if_pos rfl
    · have hne : e.1 ≠ k := by
        rintro rfl
        exact hfresh (List.mem_map.mpr ⟨(e.1, v), h, rfl⟩)
      rw [if_neg hne, ih hn h]

/-- Entries that a table has already change nothing. -/
theorem insertAll_of_subset {t : Table κ ν} (hn : t.keys.Nodup) {pairs : List (κ × ν)}
    (h : pairs ⊆ t) : t.insertAll pairs = t := by
  induction pairs with
  | nil => rfl
  | cons e pairs ih =>
    obtain ⟨he, hrest⟩ := List.cons_subset.mp h
    have hstep : t.insertAll (e :: pairs) = (t.insert e.1 e.2).insertAll pairs := rfl
    rw [hstep, insert_of_mem hn he, ih hrest]

end ComparativeLaw.Table

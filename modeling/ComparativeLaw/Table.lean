/-!
Tables that keep their keys in the order of first insertion. A repeated key keeps its place and
takes its last value: `get?_insert` says what an insertion does to look-ups and `keys_insert` what
it does to the order.
-/
namespace ComparativeLaw

abbrev Table (κ ν : Type) := List (κ × ν)

namespace Table

variable {κ ν : Type} [DecidableEq κ]

def insert (k : κ) (v : ν) : Table κ ν → Table κ ν
  | [] => [(k, v)]
  | e :: t => if e.1 = k then (e.1, v) :: t else e :: insert k v t

def get? (t : Table κ ν) (k : κ) : Option ν := (t.find? fun e => e.1 = k).map (·.2)

def contains (t : Table κ ν) (k : κ) : Bool := t.any fun e => e.1 = k

def insertAll (t : Table κ ν) (pairs : List (κ × ν)) : Table κ ν :=
  pairs.foldl (fun t e => t.insert e.1 e.2) t

def ofList (pairs : List (κ × ν)) : Table κ ν := insertAll [] pairs

def keys (t : Table κ ν) : List κ := t.map (·.1)

def values (t : Table κ ν) : List ν := t.map (·.2)

/-- Changes the value under a key, `fresh` standing for a value that is not there yet. -/
def alter (k : κ) (f : ν → ν) (fresh : ν) (t : Table κ ν) : Table κ ν :=
  t.insert k (f ((t.get? k).getD fresh))

/-- Only the key that is inserted changes its value. -/
theorem get?_insert (t : Table κ ν) (k k' : κ) (v : ν) :
    (t.insert k v).get? k' = if k = k' then some v else t.get? k' := by
  induction t with
  | nil => by_cases h : k = k' <;> simp [insert, get?, h]
  | cons e t ih =>
    by_cases hk : e.1 = k
    · subst hk
      by_cases h : e.1 = k' <;> simp [insert, get?, h]
    · by_cases h : e.1 = k'
      · subst h
        simp [insert, get?, hk, Ne.symm hk]
      · simpa [insert, get?, hk, h] using ih

/-- A key that is new goes last, any other one keeps its place. -/
theorem keys_insert (t : Table κ ν) (k : κ) (v : ν) :
    (t.insert k v).keys = if k ∈ t.keys then t.keys else t.keys ++ [k] := by
  induction t with
  | nil => simp [insert, keys]
  | cons e t ih =>
    by_cases hk : e.1 = k
    · simp [insert, keys, hk]
    · have hn : k ≠ e.1 := fun h => hk h.symm
      simp only [keys] at ih
      by_cases h : k ∈ t.map (·.1) <;> simp [insert, keys, hk, hn, ih, h]

/-- A new key goes last. -/
theorem insert_of_not_mem {t : Table κ ν} {k : κ} (h : k ∉ t.keys) (v : ν) :
    t.insert k v = t ++ [(k, v)] := by
  induction t with
  | nil => rfl
  | cons e t ih =>
    simp only [keys, List.map_cons, List.mem_cons, not_or] at h
    rw [insert, if_neg (Ne.symm h.1), ih h.2, List.cons_append]

theorem contains_iff (t : Table κ ν) (k : κ) : t.contains k = true ↔ k ∈ t.keys := by
  simp [contains, keys]

theorem insertAll_append (t : Table κ ν) (xs ys : List (κ × ν)) :
    t.insertAll (xs ++ ys) = (t.insertAll xs).insertAll ys := List.foldl_append

/-- A key takes the value that all insertions under it agree on. -/
theorem get?_insertAll {pairs : List (κ × ν)} {k : κ} {v : ν} (t : Table κ ν)
    (h : ∀ e ∈ pairs, e.1 = k → e.2 = v) :
    (t.insertAll pairs).get? k = if k ∈ pairs.map (·.1) then some v else t.get? k := by
  induction pairs generalizing t with
  | nil => rfl
  | cons e pairs ih =>
    have hrest := ih (t.insert e.1 e.2) fun x hx => h x (List.mem_cons_of_mem e hx)
    have hstep : t.insertAll (e :: pairs) = (t.insert e.1 e.2).insertAll pairs := rfl
    rw [hstep, hrest, get?_insert]
    by_cases hk : e.1 = k
    · have hmem : k ∈ (e :: pairs).map (·.1) := hk ▸ List.mem_map_of_mem List.mem_cons_self
      rw [if_pos hk, h e List.mem_cons_self hk, if_pos hmem]
      split <;> rfl
    · simp only [if_neg hk, List.map_cons, List.mem_cons, Ne.symm hk, false_or]

theorem mem_values_of_get? {t : Table κ ν} {k : κ} {v : ν} (h : t.get? k = some v) :
    v ∈ t.values := by
  obtain ⟨e, he, rfl⟩ := Option.map_eq_some_iff.mp h
  exact List.mem_map_of_mem (List.mem_of_find?_eq_some he)

/-- Insertion never makes a key occur twice. -/
theorem nodup_keys_insert {t : Table κ ν} (h : t.keys.Nodup) (k : κ) (v : ν) :
    (t.insert k v).keys.Nodup := by
  rw [keys_insert]
  split
  · exact h
  · next hk =>
    refine List.nodup_append.mpr ⟨h, by simp, fun a ha b hb => ?_⟩
    rintro rfl
    exact hk (List.mem_singleton.mp hb ▸ ha)

theorem nodup_keys_insertAll {t : Table κ ν} (h : t.keys.Nodup) (pairs : List (κ × ν)) :
    (t.insertAll pairs).keys.Nodup := by
  induction pairs generalizing t with
  | nil => exact h
  | cons e pairs ih => exact ih (nodup_keys_insert h e.1 e.2)

theorem forall_mem_insert {P : κ × ν → Prop} {t : Table κ ν} (h : ∀ e ∈ t, P e) {k : κ} {v : ν}
    (hv : P (k, v)) : ∀ e ∈ t.insert k v, P e := by
  induction t with
  | nil => exact List.forall_mem_singleton.mpr hv
  | cons e t ih =>
    obtain ⟨he, ht⟩ := List.forall_mem_cons.mp h
    rw [insert]
    split
    · next hk =>
      subst hk
      exact List.forall_mem_cons.mpr ⟨hv, ht⟩
    · exact List.forall_mem_cons.mpr ⟨he, ih ht⟩

theorem forall_mem_insertAll {P : κ × ν → Prop} {t : Table κ ν} (h : ∀ e ∈ t, P e)
    {pairs : List (κ × ν)} (hp : ∀ e ∈ pairs, P e) : ∀ e ∈ t.insertAll pairs, P e := by
  induction pairs generalizing t with
  | nil => exact h
  | cons e pairs ih =>
    obtain ⟨he, hrest⟩ := List.forall_mem_cons.mp hp
    exact ih (forall_mem_insert h he) hrest

/-- Of a list, a table keeps what the list holds of every entry. -/
theorem forall_mem_ofList {P : κ × ν → Prop} {pairs : List (κ × ν)} (hp : ∀ e ∈ pairs, P e) :
    ∀ e ∈ ofList pairs, P e :=
  forall_mem_insertAll (fun _ he => absurd he List.not_mem_nil) hp

theorem nodup_keys_ofList (pairs : List (κ × ν)) : (ofList pairs).keys.Nodup :=
  nodup_keys_insertAll (t := []) List.nodup_nil pairs

end Table
end ComparativeLaw

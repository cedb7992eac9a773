import ComparativeLaw.Proofs.Checked
import ComparativeLaw.Schema.Reading
import Mathlib.Data.List.Forall2

namespace ComparativeLaw.Schema

open ComparativeLaw.Checked (ok_of_mapError map_eq_ok bind_eq_ok)

variable {α : Type} {x : α}

theorem problems_eq_nil {c : Checked α} (h : c = .ok x) : c.problems = [] := by
  rw [h]
  rfl

theorem under_eq_ok {step : Step} {c : Checked α} : c.under step = .ok x ↔ c = .ok x :=
  ok_of_mapError

theorem gather_eq_ok {parts : List (List Problem)} {value : Checked α} :
    gather parts value = .ok x ↔ (∀ p ∈ parts, p = []) ∧ value = .ok x := by
  rw [← List.flatten_eq_nil_iff, gather]
  split
  · next hnil => exact ⟨fun h => ⟨hnil, h⟩, fun h => h.2⟩
  · next hcons =>
    constructor
    · nofun
    · rintro ⟨hnil, -⟩
      exact absurd hnil hcons

theorem object_eq_ok {flaw : Flaw} {read : Fields → Checked α} {j : Json} :
    object flaw read j = .ok x ↔ ∃ o : Fields, j = .object o ∧
      (∀ e ∈ o, Text.hasSurrogate e.1 = false) ∧ read o = .ok x := by
  cases j with
  | object o =>
    rw [object, wellNamed]
    split
    · next hbad =>
      obtain ⟨e, he, hs⟩ := List.any_eq_true.mp hbad
      refine iff_of_false nofun ?_
      rintro ⟨_, ⟨⟩, hclean, -⟩
      rw [hclean e he] at hs
      cases hs
    · next hgood =>
      have hclean : ∀ e ∈ o, Text.hasSurrogate e.1 = false := by
        simpa using hgood
      constructor
      · intro h
        exact ⟨o, rfl, hclean, h⟩
      · rintro ⟨_, ⟨⟩, -, h⟩
        exact h
  | _ =>
    refine iff_of_false nofun ?_
    rintro ⟨_, ⟨⟩, -⟩

section Fields

variable {read : Json → Checked α} {o : Fields} {name : String}

theorem required_eq_ok : required read o name = .ok x ↔
    ∃ j, Table.get? o name = some j ∧ read j = .ok x := by
  unfold required
  split
  · next j hj => simp [under_eq_ok, hj]
  · next hnone => simp [hnone]

theorem defaulted_eq_ok {fallback : α} : defaulted read fallback o name = .ok x ↔
    (∃ j, Table.get? o name = some j ∧ read j = .ok x) ∨
      Table.get? o name = none ∧ fallback = x := by
  unfold defaulted
  split
  · next j hj => simp [under_eq_ok, hj]
  · next hnone => simp [hnone]

theorem required_of_get? {j : Json} (hj : Table.get? o name = some j) (h : read j = .ok x) :
    required read o name = .ok x :=
  required_eq_ok.mpr ⟨j, hj, h⟩

theorem defaulted_of_get? {fallback : α} {j : Json} (hj : Table.get? o name = some j)
    (h : read j = .ok x) : defaulted read fallback o name = .ok x :=
  defaulted_eq_ok.mpr (.inl ⟨j, hj, h⟩)

/-- Fields are well named if their names are free of surrogates. -/
theorem clean_of_names (names : List String) (hnames : o.map (·.1) = names)
    (h : ∀ n ∈ names, Text.hasSurrogate n = false) : ∀ e ∈ o, Text.hasSurrogate e.1 = false :=
  fun e he => h e.1 (hnames ▸ List.mem_map_of_mem he)

theorem extras_eq_nil {known : List String} (names : List String) (hnames : o.map (·.1) = names)
    (h : ∀ n ∈ names, n ∈ known) : extras known o = [] := by
  have hnone : (o.filter fun e => !known.contains e.1) = [] := by
    rw [List.filter_eq_nil_iff]
    intro e he
    simpa using h e.1 (hnames ▸ List.mem_map_of_mem he)
  rw [extras, hnone, List.map_nil]

end Fields

section Items

variable {read : Json → Checked α} {xs : List α}

theorem itemsFrom_eq_ok {n : Nat} {js : List Json} :
    itemsFrom read n js = .ok xs ↔ List.Forall₂ (fun j x => read j = .ok x) js xs := by
  induction js generalizing n xs with
  | nil =>
    constructor
    · rintro ⟨⟩
      exact .nil
    · rintro ⟨⟩
      rfl
  | cons j js ih =>
    rw [itemsFrom, gather_eq_ok]
    simp only [bind_eq_ok, under_eq_ok, ih, pure, Except.pure, Except.ok.injEq]
    constructor
    · rintro ⟨-, x, hx, ys, hys, rfl⟩
      exact .cons hx hys
    · rintro (_ | ⟨hx, hys⟩)
      refine ⟨?_, _, hx, _, hys, rfl⟩
      have hhead : ((read j).under (.index n)).problems = [] :=
        problems_eq_nil (under_eq_ok.mpr hx)
      have htail : (itemsFrom read (n + 1) js).problems = [] := problems_eq_nil (ih.mpr hys)
      simpa using ⟨hhead, htail⟩

theorem items_eq_ok {j : Json} : items read j = .ok xs ↔
    ∃ js, j = .list js ∧ List.Forall₂ (fun j x => read j = .ok x) js xs := by
  cases j with
  | list js => simp [items, itemsFrom_eq_ok]
  | _ => exact iff_of_false nofun nofun

theorem exists_of_mem_items {j : Json} (h : items read j = .ok xs) (hx : x ∈ xs) :
    ∃ j, read j = .ok x := by
  obtain ⟨js, -, hall⟩ := items_eq_ok.mp h
  clear h
  induction hall with
  | nil => cases hx
  | @cons j _ _ _ hread _ ih =>
    rcases List.mem_cons.mp hx with rfl | hx
    · exact ⟨j, hread⟩
    · exact ih hx

/-- Items that are written one by one are read back. -/
theorem items_list_map {write : α → Json} (h : ∀ x ∈ xs, read (write x) = .ok x) :
    items read (.list (xs.map write)) = .ok xs := by
  refine items_eq_ok.mpr ⟨_, rfl, ?_⟩
  rw [List.forall₂_map_left_iff, List.forall₂_same]
  exact h

end Items

theorem nonEmptyText_eq_ok {j : Json} {s : String} :
    nonEmptyText j = .ok s ↔ j = .text s ∧ Text.hasSurrogate s = false ∧ s ≠ "" := by
  cases j with
  | text t =>
    simp only [nonEmptyText, wellFormed, Json.text.injEq]
    split
    · next hbad =>
      refine iff_of_false nofun ?_
      rintro ⟨rfl, hs, -⟩
      rw [hbad] at hs
      cases hs
    · next hgood =>
      split
      · next hempty =>
        refine iff_of_false nofun ?_
        rintro ⟨rfl, -, hne⟩
        exact hne (String.isEmpty_iff.mp hempty)
      · next hne =>
        have hne : t ≠ "" := mt String.isEmpty_iff.mpr hne
        constructor
        · rintro ⟨⟩
          exact ⟨rfl, Bool.eq_false_iff.mpr hgood, hne⟩
        · rintro ⟨rfl, -⟩
          rfl
  | _ => exact iff_of_false nofun nofun

theorem nullable_text_ofText? (s : Option String) : nullable text (.ofText? s) = .ok s := by
  cases s <;> rfl

theorem member_code [Vocabulary α] {a : α}
    (h : Vocabulary.ofCode? (Vocabulary.code a) = some a)
    (hs : Text.hasSurrogate (Vocabulary.code a) = false) :
    member α (.text (Vocabulary.code a)) = .ok a := by
  simp [member, wellFormed, hs, h]

end ComparativeLaw.Schema

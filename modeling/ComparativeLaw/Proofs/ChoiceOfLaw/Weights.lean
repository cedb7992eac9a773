import ComparativeLaw.ChoiceOfLaw.Weights
import Mathlib.Data.List.Induction
import Mathlib.Logic.Function.Basic

namespace ComparativeLaw.ContactKind

variable {α : Type} [Scalar α] {overrides overrides' : List (ContactKind × α)} {k : ContactKind}
  {w : α}

/-- One more override updates the table of weights at its kind. -/
theorem weight_append_eq_update (category : Category) (overrides : List (ContactKind × α))
    (k : ContactKind) (w : α) : weight category (overrides ++ [(k, w)]) =
      Function.update (weight category overrides) k w := by
  funext k'
  rw [weight_append, Function.update_apply]

/-- Overrides of other kinds, however many follow, leave the weight of a kind as it is. -/
theorem weight_append_of_ne (category : Category) (before : List (ContactKind × α))
    {after : List (ContactKind × α)} (h : ∀ e ∈ after, e.1 ≠ k) :
    weight category (before ++ after) k = weight category before k := by
  induction after using List.reverseRecOn with
  | nil => rw [List.append_nil]
  | append_singleton after e ih =>
    obtain ⟨hafter, he⟩ := List.forall_mem_append.mp h
    have hne : k ≠ e.1 := Ne.symm (he e (List.mem_singleton_self e))
    rw [← List.append_assoc, weight_append, if_neg hne, ih hafter]

/-- What a kind weighs: what the last override for it says or, if there is none, what its category
gives it. -/
inductive Weighs (category : Category) (overrides : List (ContactKind × α)) (k : ContactKind) :
    α → Prop
  | overridden (before after : List (ContactKind × α)) {w : α}
    (split : overrides = before ++ (k, w) :: after) (last : ∀ e ∈ after, e.1 ≠ k) :
    Weighs category overrides k w
  | given (untouched : ∀ e ∈ overrides, e.1 ≠ k) :
    Weighs category overrides k (baseWeight category k)

variable {category : Category}

/-- The table is the only weight that a kind can have. -/
theorem Weighs.weight_eq (h : Weighs category overrides k w) :
    weight category overrides k = w := by
  cases h with
  | overridden before after split last =>
    rw [split, List.append_cons, weight_append_of_ne category _ last, weight_append, if_pos rfl]
  | given untouched => exact weight_append_of_ne category [] untouched

theorem Weighs.append_of_ne (h : Weighs category overrides k w) {e : ContactKind × α}
    (hne : e.1 ≠ k) : Weighs category (overrides ++ [e]) k w := by
  have hlast : ∀ x ∈ [e], x.1 ≠ k := List.forall_mem_singleton.mpr hne
  cases h with
  | overridden before after split last =>
    refine .overridden before (after ++ [e]) ?_ (List.forall_mem_append.mpr ⟨last, hlast⟩)
    rw [split, List.append_assoc, List.cons_append]
  | given untouched => exact .given (List.forall_mem_append.mpr ⟨untouched, hlast⟩)

/-- The table has a weight for every kind, and it is what the kind weighs. -/
theorem weighs_weight (category : Category) (overrides : List (ContactKind × α))
    (k : ContactKind) : Weighs category overrides k (weight category overrides k) := by
  induction overrides using List.reverseRecOn with
  | nil => exact .given (List.forall_mem_nil _)
  | append_singleton overrides e ih =>
    obtain ⟨kind, w⟩ := e
    rw [weight_append]
    by_cases h : k = kind
    · subst h
      rw [if_pos rfl]
      exact .overridden overrides [] rfl (List.forall_mem_nil _)
    · rw [if_neg h]
      exact ih.append_of_ne (Ne.symm h)

/-- What a kind weighs is what the table says. -/
theorem weighs_iff : Weighs category overrides k w ↔ weight category overrides k = w := by
  constructor
  · exact Weighs.weight_eq
  · rintro rfl
    exact weighs_weight category overrides k

/-- Overrides that are the same on a kind give it the same weight. -/
theorem weight_congr {counts : ContactKind × α → Bool}
    (h : overrides.filter counts = overrides'.filter counts) (hk : ∀ w, counts (k, w) = true)
    (category : Category) : weight category overrides k = weight category overrides' k := by
  have hfind (given : List (ContactKind × α)) : given.reverse.find? (fun e => e.1 = k) =
      (given.filter counts).reverse.find? fun e => e.1 = k := by
    rw [← List.filter_reverse, List.find?_filter]
    congr 1
    funext e
    by_cases he : e.1 = k
    · obtain ⟨kind, w⟩ := e
      cases he
      simp [hk]
    · simp [he]
  rw [weight, hfind, h, ← hfind, weight]

end ComparativeLaw.ContactKind

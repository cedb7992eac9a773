import ComparativeLaw.Service.Limiter
import Mathlib.Data.List.Basic

namespace ComparativeLaw

namespace Text

variable {mark : Char}

theorem pieces_ne_nil (mark : Char) (s : List Char) : pieces mark s ≠ [] := by
  cases s with
  | nil => simp [pieces]
  | cons c s =>
    rw [pieces]
    split
    · simp
    · split <;> simp

theorem pieces_cons_mark (s : List Char) : pieces mark (mark :: s) = [] :: pieces mark s := by
  obtain ⟨p, ps, h⟩ := List.exists_cons_of_ne_nil (pieces_ne_nil mark s)
  rw [pieces, h]
  exact if_pos rfl

theorem pieces_cons_of_ne {c : Char} (hc : c ≠ mark) {s p : List Char} {ps : List (List Char)}
    (h : pieces mark s = p :: ps) : pieces mark (c :: s) = (c :: p) :: ps := by
  rw [pieces, h]
  exact if_neg hc

/-- No piece has the mark. -/
theorem not_mem_of_mem_pieces {s p : List Char} (h : p ∈ pieces mark s) : mark ∉ p := by
  induction s generalizing p with
  | nil =>
    have hp : p = [] := by simpa [pieces] using h
    rw [hp]
    exact List.not_mem_nil
  | cons c s ih =>
    by_cases hc : c = mark
    · subst hc
      rw [pieces_cons_mark] at h
      rcases List.mem_cons.mp h with rfl | h
      · exact List.not_mem_nil
      · exact ih h
    · obtain ⟨q, qs, hq⟩ := List.exists_cons_of_ne_nil (pieces_ne_nil mark s)
      have hin : mark ∉ q := ih (hq ▸ List.mem_cons_self)
      rw [pieces_cons_of_ne hc hq] at h
      rcases List.mem_cons.mp h with rfl | h
      · exact List.not_mem_cons_of_ne_of_not_mem (Ne.symm hc) hin
      · exact ih (hq ▸ List.mem_cons_of_mem q h)

theorem pieces_of_not_mem {s : List Char} (h : mark ∉ s) : pieces mark s = [s] := by
  induction s with
  | nil => rfl
  | cons c s ih =>
    have hc : c ≠ mark := Ne.symm (List.ne_of_not_mem_cons h)
    exact pieces_cons_of_ne hc (ih (List.not_mem_of_not_mem_cons h))

/-- The first piece ends at the first mark. -/
theorem pieces_append_mark {s : List Char} (h : mark ∉ s) (t : List Char) :
    pieces mark (s ++ mark :: t) = s :: pieces mark t := by
  induction s with
  | nil => exact pieces_cons_mark t
  | cons c s ih =>
    have hc : c ≠ mark := Ne.symm (List.ne_of_not_mem_cons h)
    exact pieces_cons_of_ne hc (ih (List.not_mem_of_not_mem_cons h))

def filled (mark : Char) (s : List Char) : List (List Char) :=
  (pieces mark s).filter fun p => !p.isEmpty

/-- Pieces that are put together with marks between them come apart again. -/
theorem filled_intercalate {ps : List (List Char)} (h : ∀ p ∈ ps, mark ∉ p ∧ p ≠ []) :
    filled mark ([mark].intercalate ps) = ps := by
  induction ps with
  | nil => rfl
  | cons p ps ih =>
    obtain ⟨hmark, hne⟩ := h p List.mem_cons_self
    have hfirst : ∀ rest, (p :: rest).filter (fun p => !p.isEmpty) =
        p :: rest.filter fun p => !p.isEmpty :=
      fun rest => List.filter_cons_of_pos (by simpa using hne)
    have htail := ih fun q hq => h q (List.mem_cons_of_mem p hq)
    cases ps with
    | nil =>
      rw [List.intercalate_singleton, filled, pieces_of_not_mem hmark, hfirst, List.filter_nil]
    | cons q qs =>
      -- The first mark ends the first piece, which holds none itself.
      rw [List.intercalate_cons_cons, List.append_assoc, List.singleton_append, filled,
        pieces_append_mark hmark, hfirst]
      exact congrArg (p :: ·) htail

end Text

/-- The first two segments of a path that are not empty. -/
def leadingSegments (path : String) : List (List Char) := (Text.filled '/' path.toList).take 2

theorem toList_resourceOf (path : String) :
    (resourceOf path).toList = '/' :: ['/'].intercalate (leadingSegments path) := by
  have hmap : ((leadingSegments path).map String.ofList).map String.toList =
      leadingSegments path := by
    simp [Function.comp_def]
  rw [resourceOf, String.toList_append, String.toList_intercalate]
  exact congrArg (fun ps => '/' :: ['/'].intercalate ps) hmap

/-- Paths have one resource exactly if they begin with the same two segments. -/
theorem resourceOf_eq_iff {p q : String} :
    resourceOf p = resourceOf q ↔ leadingSegments p = leadingSegments q := by
  -- The segments are read back from the characters after the first slash.
  have hread : ∀ path : String,
      Text.filled '/' (['/'].intercalate (leadingSegments path)) = leadingSegments path := by
    intro path
    apply Text.filled_intercalate
    intro s hs
    have hfilled := List.mem_filter.mp (List.mem_of_mem_take hs)
    exact ⟨Text.not_mem_of_mem_pieces hfilled.1, by simpa using hfilled.2⟩
  constructor
  · intro h
    have hchars := congrArg String.toList h
    rw [toList_resourceOf, toList_resourceOf] at hchars
    rw [← hread p, ← hread q, List.tail_eq_of_cons_eq hchars]
  · intro h
    rw [← String.toList_inj, toList_resourceOf, toList_resourceOf, h]

end ComparativeLaw

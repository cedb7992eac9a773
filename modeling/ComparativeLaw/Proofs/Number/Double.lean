import ComparativeLaw.Number.Scalar
import Mathlib.Data.Prod.Lex
import Mathlib.Order.Compare

/-!
The order of doubles. Every double that is a number, an infinity among them, has a place on a line,
and doubles compare as their places do; the two zeros share one. What is no number compares with
nothing. The score of a search is cut off at zero, so it always is a number.
-/
namespace ComparativeLaw.Double

open Float.Model

/-- Where an unpacked double stands: by its class, then by its exponent, then by its mantissa, both
turned around below zero. -/
def placeOf : UnpackedFloat → Int ×ₗ Int ×ₗ Int
  | .infinity .negative => toLex (-2, toLex (0, 0))
  | .finite .negative mantissa exponent _ => toLex (-1, toLex (-exponent, -mantissa))
  | .zero _ | .notANumber => toLex (0, toLex (0, 0))
  | .finite .positive mantissa exponent _ => toLex (1, toLex (exponent, mantissa))
  | .infinity .positive => toLex (2, toLex (0, 0))

theorem compare_toLex {α β : Type} [LinearOrder α] [LinearOrder β] (a c : α) (b d : β) :
    compare (toLex (a, b)) (toLex (c, d)) = (compare a c).then (compare b d) := by
  rw [Prod.Lex.compare_def]
  rfl

theorem compare_neg (a b : Int) : compare (-a) (-b) = (compare a b).swap := by
  rw [Int.compare_swap]
  simp only [compare, compareOfLessAndEq, Int.neg_lt_neg_iff, Int.neg_inj, eq_comm]

theorem compare_natCast (a b : Nat) : compare (a : Int) (b : Int) = compare a b := by
  simp only [compare, compareOfLessAndEq, Int.ofNat_lt, Int.natCast_inj]

theorem placeOf_positive {m : Nat} (e : Int) (hm : 0 < m) :
    placeOf (.finite .positive m e hm) = toLex (1, toLex (e, (m : Int))) :=
  rfl

theorem placeOf_negative {m : Nat} (e : Int) (hm : 0 < m) :
    placeOf (.finite .negative m e hm) = toLex (-1, toLex (-e, -(m : Int))) :=
  rfl

/-- Two finite numbers of one sign compare as their places do. -/
theorem compare_finite (s : UnpackedFloat.Sign) {m n : Nat} (e f : Int) (hm : 0 < m) (hn : 0 < n) :
    UnpackedFloat.compare (.finite s m e hm) (.finite s n f hn) =
      some (compare (placeOf (.finite s m e hm)) (placeOf (.finite s n f hn))) := by
  cases s with
  | positive =>
    rw [placeOf_positive, placeOf_positive, compare_toLex, compare_toLex, compare_natCast]
    rfl
  | negative =>
    rw [placeOf_negative, placeOf_negative, compare_toLex, compare_toLex, compare_neg e f,
      compare_neg m n, compare_natCast, ← Ordering.swap_then]
    rfl

/-- The places order all unpacked numbers as their comparison does. -/
theorem compare_eq {x y : UnpackedFloat} (hx : x ≠ .notANumber) (hy : y ≠ .notANumber) :
    x.compare y = some (compare (placeOf x) (placeOf y)) := by
  cases x with
  | notANumber => exact absurd rfl hx
  | infinity s =>
    cases y with
    | notANumber => exact absurd rfl hy
    | infinity t => cases s <;> cases t <;> rfl
    | zero t => cases s <;> rfl
    | finite t n f hn => cases s <;> cases t <;> rfl
  | zero s =>
    cases y with
    | notANumber => exact absurd rfl hy
    | infinity t => cases t <;> rfl
    | zero t => rfl
    | finite t n f hn => cases t <;> rfl
  | finite s m e hm =>
    cases y with
    | notANumber => exact absurd rfl hy
    | infinity t => cases s <;> cases t <;> rfl
    | zero t => cases s <;> rfl
    | finite t n f hn =>
      -- Only finite doubles of one sign are told apart by their exponents and mantissas.
      by_cases hsign : s = t
      · subst hsign
        exact compare_finite s e f hm hn
      · cases s <;> cases t <;> first | rfl | exact absurd rfl hsign

/-- A double that is a number or an infinity. -/
def IsNumber (x : Float) : Prop := x.toModel.unpack ≠ .notANumber

def place (x : Float) : Int ×ₗ Int ×ₗ Int := placeOf x.toModel.unpack

variable {x y : Float}

theorem lt_iff_compare : x < y ↔ x.toModel.unpack.compare y.toModel.unpack = some .lt := by
  change decide ((x.toModel.unpack.compare y.toModel.unpack == some .lt) = true) = true ↔ _
  rw [decide_eq_true_iff, beq_iff_eq]

theorem beq_iff_compare :
    (x == y) = true ↔ x.toModel.unpack.compare y.toModel.unpack = some .eq := by
  change (x.toModel.unpack.compare y.toModel.unpack == some .eq) = true ↔ _
  rw [beq_iff_eq]

theorem le_iff_compare :
    x ≤ y ↔ (x.toModel.unpack.compare y.toModel.unpack).any Ordering.isLE = true := by
  change decide ((x.toModel.unpack.compare y.toModel.unpack).any Ordering.isLE = true) = true ↔ _
  rw [decide_eq_true_iff]

/-- Of numbers, the smaller one is the one with the smaller place. -/
theorem lt_iff (hx : IsNumber x) (hy : IsNumber y) : x < y ↔ place x < place y := by
  rw [lt_iff_compare, compare_eq hx hy, Option.some_inj, compare_lt_iff_lt]
  rfl

/-- Numbers are equal if their places are; the two zeros share one. -/
theorem beq_iff (hx : IsNumber x) (hy : IsNumber y) : (x == y) = true ↔ place x = place y := by
  rw [beq_iff_compare, compare_eq hx hy, Option.some_inj, compare_eq_iff_eq]
  rfl

theorem le_iff (hx : IsNumber x) (hy : IsNumber y) : x ≤ y ↔ place x ≤ place y := by
  rw [le_iff_compare, compare_eq hx hy, Option.any_some, Ordering.isLE_iff_ne_gt]
  exact compare_le_iff_le

/-- Nothing is less than what is no number. -/
theorem isNumber_of_lt (h : x < y) : IsNumber y := by
  intro hy
  rw [lt_iff_compare, hy] at h
  cases hx : x.toModel.unpack <;> rw [hx] at h <;> cases h

/-- What is no number is less than nothing. -/
theorem isNumber_of_gt (h : x < y) : IsNumber x := by
  intro hx
  rw [lt_iff_compare, hx] at h
  cases h

theorem le_self (hx : IsNumber x) : x ≤ x := (le_iff hx hx).mpr le_rfl

theorem le_of_lt (h : x < y) : x ≤ y := by
  have hx := isNumber_of_gt h
  have hy := isNumber_of_lt h
  exact (le_iff hx hy).mpr ((lt_iff hx hy).mp h).le

/-- The order of numbers is total. -/
theorem le_of_not_lt (hx : IsNumber x) (hy : IsNumber y) (h : ¬y < x) : x ≤ y := by
  rw [lt_iff hy hx] at h
  exact (le_iff hx hy).mpr (not_lt.mp h)

theorem isNumber_zero : IsNumber 0.0 := by
  have h : -1.0 < (0.0 : Float) := by decide +kernel
  exact isNumber_of_lt h

/-- A clamped value is a number, whatever was clamped. -/
theorem isNumber_clamp (bound x : Float) : IsNumber (Scalar.clamp bound x) := by
  unfold Scalar.clamp Scalar.larger
  split
  · next h => exact isNumber_of_lt h
  · exact isNumber_zero

/-- A double that passes the check of a weight. -/
def CanWeigh (x : Float) : Prop := Scalar.isFinite x = true ∧ ¬x < 0.0

/-- A numeral is read as a finite number or refused. -/
theorem isFinite_of_ofNumeral? {n : Numeral} (h : Scalar.ofNumeral? n = some x) :
    Scalar.isFinite x = true := by
  change (if n.toFloat.isFinite then some n.toFloat else none) = some x at h
  split at h
  · next hfinite =>
    cases h
    exact hfinite
  · cases h

theorem isNumber_of_isFinite (h : Scalar.isFinite x = true) : IsNumber x := by
  intro hx
  have hfinite : x.toModel.unpack.isFinite = true := h
  rw [hx] at hfinite
  cases hfinite

theorem CanWeigh.isNumber (h : CanWeigh x) : IsNumber x := isNumber_of_isFinite h.1

theorem CanWeigh.nonneg (h : CanWeigh x) : 0.0 ≤ x := le_of_not_lt isNumber_zero h.isNumber h.2

/-- What is cut off lies between zero and the bound, even if it was an infinity or no number. -/
theorem clamp_mem {bound : Float} (hb : CanWeigh bound) (x : Float) :
    0.0 ≤ Scalar.clamp bound x ∧ Scalar.clamp bound x ≤ bound := by
  have hsmaller : Scalar.smaller bound x ≤ bound := by
    unfold Scalar.smaller
    split
    · next h => exact le_of_lt h
    · exact le_self hb.isNumber
  unfold Scalar.clamp Scalar.larger
  split
  · next h => exact ⟨le_of_lt h, hsmaller⟩
  · exact ⟨le_self isNumber_zero, hb.nonneg⟩

end ComparativeLaw.Double

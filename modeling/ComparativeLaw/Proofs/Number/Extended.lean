import ComparativeLaw.Proofs.Number.Exact

namespace ComparativeLaw

/-- A rational, an infinity on one side of zero, or what is not a number. -/
inductive Extended where
  | finite (q : Rat)
  | infinite (negative : Bool)
  | nan
deriving DecidableEq

namespace Extended

def add : Extended → Extended → Extended
  | finite p, finite q => finite (p + q)
  | infinite a, infinite b => if a = b then infinite a else nan
  | infinite a, finite _ | finite _, infinite a => infinite a
  | _, _ => nan

def neg : Extended → Extended
  | finite q => finite (-q)
  | infinite negative => infinite (!negative)
  | nan => nan

/-- An infinity taken some times; none of it is not a number. -/
def repeated (negative : Bool) (q : Rat) : Extended :=
  if q = 0 then nan else infinite (negative != decide (q < 0))

def mul : Extended → Extended → Extended
  | finite p, finite q => finite (p * q)
  | infinite a, finite q | finite q, infinite a => repeated a q
  | infinite a, infinite b => infinite (a != b)
  | _, _ => nan

def div : Extended → Extended → Extended
  | finite p, finite q => if q = 0 then repeated false p else finite (p / q)
  | finite _, infinite _ => finite 0
  | infinite a, finite q => infinite (a != decide (q < 0))
  | _, _ => nan

def less : Extended → Extended → Bool
  | finite p, finite q => p < q
  | finite _, infinite negative => !negative
  | infinite negative, finite _ => negative
  | infinite a, infinite b => a && !b
  | _, _ => false

def same : Extended → Extended → Bool
  | finite p, finite q => p = q
  | infinite a, infinite b => a = b
  | _, _ => false

def finite? : Extended → Option Rat
  | finite q => some q
  | _ => none

/-- The rational that a number is, zero for what is none. -/
def toRat (x : Extended) : Rat := x.finite?.getD 0

/-- Changes the finite numbers only. -/
def onFinite (f : Rat → Rat) : Extended → Extended
  | finite q => finite (f q)
  | x => x

def text (f : Rat → String) : Extended → String
  | finite q => f q
  | infinite negative => NumberText.signed negative "inf".toList
  | nan => "nan"

end Extended

instance : Scalar Extended where
  add := Extended.add
  sub x y := x.add y.neg
  mul := Extended.mul
  div := Extended.div
  ofScientific digits scaled places := .finite (OfScientific.ofScientific digits scaled places)
  lt x y := x.less y
  le x y := x.less y || x.same y
  beq := Extended.same
  default := .finite 0
  decidableLT x y := inferInstanceAs (Decidable (x.less y = true))
  decidableLE x y := inferInstanceAs (Decidable ((x.less y || x.same y) = true))
  isFinite x := x.finite?.isSome
  ofNumeral? n := n.toRat?.map .finite
  round places := Extended.onFinite (Scalar.round places)
  shortest := Extended.text Scalar.shortest
  general := Extended.text Scalar.general
  fixed places := Extended.text (Scalar.fixed places)

namespace Extended

@[simp] theorem toRat_finite (q : Rat) : (finite q).toRat = q := rfl

@[simp] theorem zero_eq : (0.0 : Extended) = finite 0 :=
  congrArg finite Scalar.zero_rat

@[simp] theorem add_finite (p q : Rat) : finite p + finite q = finite (p + q) := rfl

@[simp] theorem lt_finite {p q : Rat} : finite p < finite q ↔ p < q := decide_eq_true_iff

@[simp] theorem le_finite {p q : Rat} : finite p ≤ finite q ↔ p ≤ q := by
  show (decide (p < q) || decide (p = q)) = true ↔ p ≤ q
  rw [Bool.or_eq_true, decide_eq_true_iff, decide_eq_true_iff]
  exact le_iff_lt_or_eq.symm

/-- The finite values are the fractions. -/
theorem isFinite_iff {x : Extended} : Scalar.isFinite x = true ↔ ∃ q, x = finite q := by
  cases x with
  | finite q => exact iff_of_true rfl ⟨q, rfl⟩
  | infinite negative => exact iff_of_false Bool.false_ne_true nofun
  | nan => exact iff_of_false Bool.false_ne_true nofun

/-- Finite numbers are added up exactly. -/
theorem sum_finite (qs : List Rat) : Scalar.sum (qs.map finite) = finite qs.sum := by
  -- On the numbers, for any amount that is there before them.
  have hfold (p : Rat) : (qs.map finite).foldl (· + ·) (finite p) = finite (p + qs.sum) := by
    induction qs generalizing p with
    | nil => rw [List.sum_nil, add_zero, List.map_nil, List.foldl_nil]
    | cons q qs ih => rw [List.map_cons, List.foldl_cons, add_finite, ih, List.sum_cons, add_assoc]
  rw [Scalar.sum, zero_eq, hfold, zero_add]

end Extended
end ComparativeLaw

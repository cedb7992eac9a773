import ComparativeLaw.Json.Conversion

namespace ComparativeLaw

structure Factor (α : Type) where
  /-- A text, as a rule; any other value is shown in its place. -/
  name : Json
  weight : α
  indicator : α

/-- A score with the sum of the weights and what each factor contributed. -/
structure Breakdown (α : Type) where
  score : α
  totalWeight : α
  /-- Name, weight, and weight times indicator. -/
  contributions : List (Json × α × α)

namespace Factor

variable {α : Type} [Scalar α]

def contribution (f : Factor α) : α := f.weight * f.indicator

def weightOk (f : Factor α) : Bool := Scalar.isFinite f.weight && !(f.weight < 0.0)

def indicatorOk (f : Factor α) : Bool :=
  Scalar.isFinite f.indicator && 0.0 ≤ f.indicator && f.indicator ≤ 1.0

/-- Refuses a factor by its weight, then by its indicator. -/
def check (f : Factor α) : Except Failure Unit :=
  if !f.weightOk then .error (.weight f.name (Scalar.shortest f.weight))
  else if !f.indicatorOk then .error (.indicator f.name (Scalar.shortest f.indicator))
  else .ok ()

end Factor

namespace Scoring

variable {α : Type} [Scalar α]

/-- The sum of weight times indicator, once every factor has passed. -/
def weightedSum (fs : List (Factor α)) : Except Failure α := do
  fs.forM Factor.check
  return Scalar.sum (fs.map Factor.contribution)

def totalWeight (fs : List (Factor α)) : α := Scalar.sum (fs.map (·.weight))

/-- The mean of the indicators by their weights. Weights are finite and not negative, indicators lie
between zero and one, and the total weight must be positive. -/
def explain (fs : List (Factor α)) : Except Failure (Breakdown α) := do
  let numerator ← weightedSum fs
  let denominator := totalWeight fs
  if denominator ≤ 0.0 then .error (.totalWeight (fs.map (·.name)))
  else return {
    score := Scalar.clamp 1.0 (numerator / denominator)
    totalWeight := denominator
    contributions := fs.map fun f => (f.name, f.weight, f.contribution) }

def score (fs : List (Factor α)) : Except Failure α := (explain fs).map (·.score)

/-- The fault that a failure of scoring is; a message that lists the names of factors is made of
texts only. -/
def faultOf : Failure → Fault
  | .totalWeight names =>
    if names.all fun name => name.toText.isOk then .failure (.totalWeight names) else .wrongKind
  | f => .failure f

end Scoring
end ComparativeLaw

import ComparativeLaw.ChoiceOfLaw.Relationship

/-!
The better-law doctrine: the relationship score of each candidate is weighed together with the
quality that the caller gives its law. Without such a judgement the relationship decides and the
confidence is capped.
-/
namespace ComparativeLaw.BetterLaw

variable {α : Type} [Scalar α]

def qualityOk (q : α) : Bool := 0.0 ≤ q && q ≤ 1.0

/-- Refuses the first quality that lies outside of zero to one. -/
def checkQuality (quality : Scores α) : Except Failure Unit :=
  match quality.find? fun e => !qualityOk e.2 with
  | some (code, q) => .error (.lawQuality code (Scalar.shortest q))
  | none => .ok ()

/-- The relationship decides, with capped confidence. -/
def capped (m : Materials α) (facts : Facts) (forum : Reference) : Except Fault (Resolution α) := do
  let base ← Relationship.resolve m facts forum
  let cap := m.policy.betterLawCap
  let shown := Scalar.fixed 2 cap
  return { base with
    approach := .betterLaw
    confidence := Scalar.smaller base.confidence cap
    reasoning := base.reasoning ++
      " No law-quality assessment was supplied; the relationship analysis decides " ++
      s!"and confidence is capped at {shown}."
    conflict := none }

/-- A candidate's relationship score weighed together with the quality of its law. -/
def combine (weight quality : α) (relationship : α) : Except Failure α :=
  Scoring.score [⟨"relationship", 1.0, relationship⟩, ⟨"better_law", weight, quality⟩]

def qualityOf (quality : Scores α) (code : String) : α := (Table.get? quality code).getD 0.0

def rescored (weight : α) (quality scores : Scores α) : Except Failure (Scores α) :=
  scores.mapM fun e => (combine weight (qualityOf quality e.1) e.2).map fun s => (e.1, s)

def qualityLine (weight : α) (quality : Scores α) (code : String) : TraceLine α :=
  { factor := "better_law", code, weight, contribution := weight * qualityOf quality code,
    note := if Table.contains quality code then "caller-supplied law quality"
      else "no quality supplied" }

/-- Weighs relationship and quality of law. -/
def weighed (m : Materials α) (quality : Scores α) (facts : Facts) (forum : Reference) :
    Except Fault (Resolution α) := do
  (checkQuality quality).mapError Fault.failure
  let scored ← Relationship.score m facts
  let weight := m.policy.betterLawWeight
  let combined ← (rescored weight quality scored.scores).mapError Fault.failure
  let standing ← Standing.of combined forum.code.text?
  let selected := Registry.select m.registry standing.winner
  let top := Scalar.fixed 3 standing.top
  let second := Scalar.fixed 3 standing.second
  return {
    selected
    approach := .betterLaw
    confidence := standing.confidence
    trace := scored.trace ++ scored.scores.map fun e => qualityLine weight quality e.1
    reasoning :=
      s!"{selected.nameText} prevails once the relationship score is combined with the supplied " ++
      s!"law-quality assessment (combined score {top}, runner-up {second})."
    scores := combined.ranked
    unregistered := scored.sorted.unregistered }

def resolve (m : Materials α) (facts : Facts) (forum : Reference) :
    Except Fault (Resolution α) := do
  let quality ← m.lawQuality
  if quality.isEmpty then capped m facts forum else weighed m quality facts forum

end ComparativeLaw.BetterLaw

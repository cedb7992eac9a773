import ComparativeLaw.ChoiceOfLaw.Contacts
import ComparativeLaw.ChoiceOfLaw.Standing
import ComparativeLaw.ChoiceOfLaw.Weights
import ComparativeLaw.Scoring

namespace ComparativeLaw.Relationship

structure Scored (α : Type) where
  sorted : SortedContacts α
  /-- In the order of first occurrence. -/
  scores : Scores α
  trace : List (TraceLine α)

variable {α : Type} [Scalar α]

/-- The factors of a candidate: each usable contact with its weight, one if it points there. -/
def factorsFor (weight : ContactKind → α) (usable : List Contact) (candidate : String) :
    List (Factor α) :=
  usable.map fun c =>
    ⟨c.kind.code, weight c.kind, if c.code = candidate then 1.0 else 0.0⟩

/-- Every jurisdiction that a usable contact names is a candidate; its score is the share of the
weights of all usable contacts that point to it. -/
def scoresOf (weight : ContactKind → α) (sorted : SortedContacts α) : Except Failure (Scores α) :=
  sorted.candidates.mapM fun candidate =>
    (Scoring.score (factorsFor weight sorted.usable candidate)).map fun s => (candidate, s)

def usableLine (weight : ContactKind → α) (total : α) (c : Contact) : TraceLine α :=
  { factor := c.kind.code, code := c.code, weight := weight c.kind,
    contribution := if 0.0 < total then weight c.kind / total else 0.0 }

/-- Whether a kind counts neither with overrides nor without. -/
def irrelevant (weight base : ContactKind → α) (c : Contact) : Bool :=
  weight c.kind ≤ 0.0 && base c.kind ≤ 0.0

def score (m : Materials α) (facts : Facts) : Except Fault (Scored α) := do
  let weight := ContactKind.weight facts.category (← m.weights)
  let sorted := SortedContacts.ofFacts facts m.registry weight
  if sorted.usable.isEmpty then .error (.failure (.noUsableContact facts.topic))
  if sorted.usable.all (irrelevant weight (ContactKind.baseWeight facts.category)) then
    .error (.failure (.noRelevantContact facts.topic))
  let scores ← (scoresOf weight sorted).mapError Fault.failure
  let total := Scalar.sum (sorted.usable.map fun c => weight c.kind)
  return { sorted, scores, trace := sorted.excluded ++ sorted.usable.map (usableLine weight total) }

def others (ranked : Scores α) (winner : String) : List String :=
  (ranked.filter fun e => e.1 ≠ winner).map fun e =>
    let score := Scalar.fixed 3 e.2
    s!"{e.1} {score}"

def reasoning (name : String) (standing : Standing α) (ranked : Scores α) : String :=
  let top := Scalar.fixed 3 standing.top
  let rest := others ranked standing.winner
  let rivals := ", ".intercalate rest
  let against := if rest.isEmpty then "" else s!" against {rivals}"
  let caution :=
    if ranked.length ≤ 1 then ""
    else if standing.confidence == 0.0 then
      " The contest is tied; the tie was broken in favour of the forum or the first contact."
    else if standing.confidence < 0.25 then
      " The margin is narrow and the selection should be treated as uncertain."
    else ""
  s!"{name} has the most significant relationship (weighted contact score {top}){against}.{caution}"

/-- Selects the winner of the scored candidates. -/
def resolve (m : Materials α) (facts : Facts) (forum : Reference) :
    Except Fault (Resolution α) := do
  let scored ← score m facts
  let standing ← Standing.of scored.scores forum.code.text?
  let selected := Registry.select m.registry standing.winner
  let ranked := scored.scores.ranked
  return {
    selected
    approach := .mostSignificantRelationship
    confidence := standing.confidence
    trace := scored.trace
    reasoning := reasoning selected.nameText standing ranked
    scores := ranked
    unregistered := scored.sorted.unregistered }

end ComparativeLaw.Relationship

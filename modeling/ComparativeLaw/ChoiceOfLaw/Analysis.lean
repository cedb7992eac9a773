import ComparativeLaw.ChoiceOfLaw.BetterLaw
import ComparativeLaw.ChoiceOfLaw.CombinedModern
import ComparativeLaw.ChoiceOfLaw.Territorial
import ComparativeLaw.Jurisdiction.Known

namespace ComparativeLaw

namespace Approach

def standard : Approach := .mostSignificantRelationship

/-- The doctrines of the forums that have one on record. -/
def forums : List (String × Approach) :=
  [("US-AL", .territorial), ("US-GA", .territorial), ("US-KS", .territorial),
    ("US-MD", .territorial), ("US-NM", .territorial), ("US-SC", .territorial),
    ("US-VA", .territorial), ("US-WY", .territorial),
    ("US-CA", .interestAnalysis), ("US-DC", .interestAnalysis),
    ("US-MN", .betterLaw), ("US-NH", .betterLaw), ("US-WI", .betterLaw), ("US-AR", .betterLaw),
    ("US-RI", .betterLaw),
    ("US-NY", .combinedModern), ("US-PA", .combinedModern), ("US-NJ", .combinedModern),
    ("US-MA", .combinedModern),
    ("US-TX", .mostSignificantRelationship), ("US-IL", .mostSignificantRelationship),
    ("US-OH", .mostSignificantRelationship), ("US-WA", .mostSignificantRelationship),
    ("US-AZ", .mostSignificantRelationship), ("US-CO", .mostSignificantRelationship),
    ("US-FL", .mostSignificantRelationship),
    ("EU", .territorial), ("DE", .territorial), ("FR", .territorial), ("JP", .territorial),
    ("UK", .territorial)]

/-- The doctrine of a forum. -/
def ofForum (forum : Reference) : Approach :=
  (forum.code.text?.bind (Table.get? forums)).getD standard

/-- The doctrine that the caller names, or that of the forum. -/
def select (forum : Reference) (override : Json) : Except Fault Approach :=
  match override with
  | .null => forum.checkKey.map fun _ => ofForum forum
  | j => j.toMember

variable {α : Type} [Scalar α]

/-- Runs a doctrine. Where interests count, the code of the forum is looked for among others. -/
def resolve (a : Approach) (m : Materials α) (facts : Facts) (forum : Reference) :
    Except Fault (Resolution α) :=
  match a with
  | .territorial => Territorial.resolve m facts
  | .mostSignificantRelationship => Relationship.resolve m facts forum
  | .interestAnalysis => forum.checkKey.map fun _ => InterestAnalysis.resolve m facts forum
  | .betterLaw => BetterLaw.resolve m facts forum
  | .combinedModern => do
    forum.checkKey
    CombinedModern.resolve m facts forum

end Approach

namespace Registry

/-- The given registry, or the known jurisdictions with those of the catalogue. -/
def orKnownWith (registry : Option Registry) (catalog : Option Catalog) : Registry :=
  match registry, catalog with
  | some r, _ => r
  | none, some c => known.merged c.registry.toList
  | none, none => known

end Registry

namespace Resolution

variable {α : Type} [Scalar α]

/-- Adds a report of the forum unless its code is reported already. -/
def reportForum (registry : Option Registry) (forum : Reference) (r : Resolution α) :
    Resolution α :=
  let missing := (Registry.missingForum registry forum).filter fun u =>
    !r.unregistered.any fun v => v.code = u.code
  { r with unregistered := r.unregistered ++ missing }

end Resolution

/-- Resolves which law governs a dispute that is heard in a forum. -/
def analyze {α : Type} [Scalar α] (m : Materials α) (approach : Approach) (facts : Facts)
    (forum : Reference) : Except Fault (Resolution α) :=
  let registry := some (Registry.orKnownWith m.registry m.catalog)
  (approach.resolve { m with registry } facts forum).map (Resolution.reportForum registry forum)

namespace Materials

/-- Law qualities under canonical codes. -/
def quality {α : Type} (pairs : List (String × α)) : Scores α :=
  Table.ofList (pairs.map fun e => (canonicalCode e.1, e.2))

def readQuality (pairs : List (Json × Json)) : Except Fault (Scores Float) := do
  return quality (← pairs.mapM fun e => e.2.toFloat.map fun x => (e.1.plain, x))

/-- Reads weights of kinds of contacts, each weight before its kind. -/
def readWeights (pairs : List (Json × Json)) : Except Fault (List (ContactKind × Float)) :=
  pairs.mapM fun e => do
    let weight ← e.2.toFloat
    return (← e.1.toMember, weight)

end Materials
end ComparativeLaw

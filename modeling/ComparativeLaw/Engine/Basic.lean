import ComparativeLaw.CaseLaw.Search
import ComparativeLaw.ChoiceOfLaw.Analysis
import ComparativeLaw.Comparison

/-!
The engine: one catalogue of rules, one index of decisions and the registry that covers them, under
one policy. A reload or a rebuild makes a whole replacement, so a failed one changes nothing.
-/
namespace ComparativeLaw

structure Engine (α : Type) where
  /-- The policy of the engine. It stands for that of the index and for the standard policy as well:
  the three coincide, since an engine and its index are made under the standard one. -/
  policy : Policy α
  catalog : Catalog
  index : CaseIndex
  /-- The known jurisdictions with those of every catalogue so far. -/
  registry : Registry

/-- A dispute that is heard in a forum, with the caller's adjustments of the doctrines. -/
structure Dispute (α : Type) where
  facts : Facts
  forum : Reference
  /-- The doctrine, if the caller names one. -/
  approach : Option Approach := none
  lawQuality : Except Fault (Scores α) := .ok []
  weights : Except Fault (List (ContactKind × α)) := .ok []

namespace Engine

variable {α : Type} [Scalar α]

/-- An engine over a catalogue, an index and a registry; without a catalogue it has no rules. -/
def of (policy : Policy α) (catalog : Option Catalog) (index : CaseIndex)
    (registry : Option Registry) : Engine α :=
  let catalog := catalog.getD { registry := registry.getD ∅ }
  { policy, catalog, index,
    registry := (Registry.orKnown registry).merged catalog.registry.toList }

def ofData (policy : Policy α) (registry : Registry) (entries : List RuleEntry)
    (decisions : List Decision) : Except Fault (Engine α) := do
  let catalog ← Catalog.build entries (some registry)
  return of policy (some catalog) (← CaseIndex.ofList decisions) (some registry)

/-- Replaces the catalogue. The registry keeps what it has and takes what the new one adds. -/
def reload (e : Engine α) (entries : List RuleEntry) : Except Fault (Engine α) := do
  let catalog ← Catalog.build entries (some e.registry)
  return { e with catalog, registry := e.registry.merged catalog.registry.toList }

def rebuild (e : Engine α) (decisions : List Decision) : Except Fault (Engine α) :=
  (CaseIndex.ofList decisions).map fun index => { e with index }

def add (e : Engine α) (d : Decision) : Engine α × Except Fault Unit :=
  let added := e.index.add d
  ({ e with index := added.1 }, added.2)

/-- Compares a topic across jurisdictions whose rules can be told apart. -/
def compare (e : Engine α) (topic : Topic) (refs : List Reference) : Except Fault Comparison := do
  Comparison.checkKeys refs
  let c ← (Comparison.run e.catalog topic refs).mapError .failure
  c.checkPlain
  return c

/-- The similarity of two jurisdictions, whose codes are looked up if there are topics at all. -/
def similarity (e : Engine α) (a b : Reference) (topics : Option (List Topic)) :
    Except Fault α := do
  if topics ≠ some [] then
    a.checkKey
    b.checkKey
  return e.catalog.similarity a b topics

/-- What the doctrines consult in a dispute. -/
def materials (e : Engine α) (d : Dispute α) : Materials α where
  registry := some e.registry
  catalog := some e.catalog
  policy := e.policy
  lawQuality := d.lawQuality
  weights := d.weights

/-- Resolves a dispute by the named doctrine, or by that of the forum. -/
def resolve (e : Engine α) (d : Dispute α) : Except Fault (Resolution α) := do
  if d.approach.isNone then d.forum.checkKey
  analyze (e.materials d) (d.approach.getD (.ofForum d.forum)) d.facts d.forum

def search (e : Engine α) (q : Query) : Except Failure (List (SearchResult α)) :=
  e.index.search e.policy q

def decision (e : Engine α) (id : String) : Except Failure Decision := e.index.get id

end Engine
end ComparativeLaw

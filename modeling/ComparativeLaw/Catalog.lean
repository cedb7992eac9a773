import ComparativeLaw.Jurisdiction.Registry
import ComparativeLaw.Rule.Entry

/-!
Catalogues of rule entries, at most one for each jurisdiction and topic. A catalogue keeps its
entries by key, by topic and by jurisdiction, always in the order in which they were given.
-/
namespace ComparativeLaw

/-- The entries by key, by topic and by jurisdiction, and the jurisdictions they name. -/
structure EntryViews where
  byKey : Table (Code.Key × Topic) RuleEntry := []
  byTopic : Table Topic (List RuleEntry) := []
  byCode : Table Code.Key (List RuleEntry) := []
  named : Table Code.Key Jurisdiction := []

namespace EntryViews

/-- Files an entry last; its key must be new. -/
def add (v : EntryViews) (e : RuleEntry) : Except Failure EntryViews :=
  if v.byKey.contains e.key then .error (.duplicateRuleEntry e.jurisdiction.code e.topic)
  else .ok {
    byKey := v.byKey.insert e.key e
    byTopic := v.byTopic.alter e.topic (· ++ [e]) []
    byCode := v.byCode.alter e.jurisdiction.code.key (· ++ [e]) []
    named := v.named.alter e.jurisdiction.code.key id e.jurisdiction }

def ofList (entries : List RuleEntry) : Except Failure EntryViews := entries.foldlM add {}

end EntryViews

structure Catalog extends EntryViews where
  registry : Registry := ∅

namespace Catalog

/-- Whether a registry lacks a code; one that is no text is not looked for. -/
def lacks (r : Registry) : Code → Bool
  | .text s => !r.knows s
  | .value _ => true

/-- The registry of a catalogue: the given one with the jurisdictions it lacks, or the jurisdictions
that the entries name. -/
def registryFor (named : Table Code.Key Jurisdiction) : Option Registry → Registry
  | none => .ofList named.values
  | some r =>
    match named.values.filter fun j => lacks r j.code with
    | [] => r
    | missing => r.merged missing

def ofEntries (entries : List RuleEntry) (registry : Option Registry) : Except Failure Catalog := do
  let views ← EntryViews.ofList entries
  return { views with registry := registryFor views.named registry }

/-- The catalogue of entries whose codes can be keys. -/
def build (entries : List RuleEntry) (registry : Option Registry) : Except Fault Catalog := do
  let keyed := entries.takeWhile fun e => e.jurisdiction.code.isKey
  let c ← (ofEntries keyed registry).mapError .failure
  if keyed.length < entries.length then .error .wrongKind else return c

/-- The entries in the order in which they were given. -/
def entries (c : Catalog) : List RuleEntry := c.byKey.values

def size (c : Catalog) : Nat := c.byKey.length

def entry? (c : Catalog) (ref : Reference) (topic : Topic) : Option RuleEntry :=
  c.byKey.get? (ref.code.key, topic)

def rule? (c : Catalog) (ref : Reference) (topic : Topic) : Option Rule :=
  (c.entry? ref topic).map (·.rule)

def ofTopic (c : Catalog) (topic : Topic) : List RuleEntry := (c.byTopic.get? topic).getD []

def ofJurisdiction (c : Catalog) (ref : Reference) : List RuleEntry :=
  (c.byCode.get? ref.code.key).getD []

/-- The codes with an entry, in increasing order. -/
def codes (c : Catalog) : Except Fault (List Code) := Code.sorted (c.named.values.map (·.code))

/-- The topics with an entry, in the order of the vocabulary. -/
def topics (c : Catalog) : List Topic := Topic.all.filter c.byTopic.contains

end Catalog
end ComparativeLaw

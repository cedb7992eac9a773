import ComparativeLaw.Catalog

/-!
Comparing the law on one topic across jurisdictions. A jurisdiction without an entry is unknown: it
counts neither for nor against anyone, and its similarity to every other one is a half.
-/
namespace ComparativeLaw

/-- How two jurisdictions relate on a topic. -/
inductive Similarity where
  | same | different | unknown
deriving DecidableEq, Repr, Inhabited

namespace Similarity

/-- One for the same rule, zero for different rules, a half without data. -/
def value {α : Type} [Scalar α] : Similarity → α
  | same => 1.0
  | different => 0.0
  | unknown => 0.5

/-- The value with two decimal places. -/
def text : Similarity → String
  | same => "1.00"
  | different => "0.00"
  | unknown => "0.50"

def ofRules : Option Rule → Option Rule → Similarity
  | some a, some b => if a == b then same else different
  | _, _ => unknown

/-- The mean of values, a half if there are none. -/
def mean {α : Type} [Scalar α] (ss : List Similarity) : α :=
  if ss.isEmpty then value unknown
  else Scalar.sum (ss.map value) / OfScientific.ofScientific ss.length false 0

/-- The similarities of all pairs; every rule is the same as itself. -/
def matrix (rules : List (Option Rule)) : List (List Similarity) :=
  rules.mapIdx fun i a => rules.mapIdx fun j b => if i = j then same else ofRules a b

end Similarity

/-- Distinct rules, each with what holds it. -/
abbrev Tally (α : Type) := List (Rule × List α)

namespace Tally

variable {α : Type}

/-- Adds a holder of a rule last; a new rule comes last. -/
def join (holder : α) (r : Rule) : Tally α → Tally α
  | [] => [(r, [holder])]
  | e :: t => if e.1 == r then (e.1, e.2 ++ [holder]) :: t else e :: join holder r t

/-- The distinct rules in the order of first occurrence, each with its holders in order. -/
def ofRules (held : List (α × Rule)) : Tally α := held.foldl (fun t e => t.join e.1 e.2) []

/-- The number of holders of a rule, zero if it does not occur. -/
def count (t : Tally α) (r : Rule) : Nat := ((t.find? fun e => e.1 == r).map (·.2.length)).getD 0

/-- The first of the rules with the most holders, and the others in their order. -/
def leading? : Tally α → Option ((Rule × List α) × Tally α)
  | [] => none
  | e :: t =>
    match leading? t with
    | none => some (e, [])
    | some (best, others) =>
      if e.2.length < best.2.length then some (best, e :: others) else some (e, t)

/-- Most common first, equally common ones in their order. -/
def ranked (t : Tally α) : Tally α := t.mergeSort fun a b => b.2.length ≤ a.2.length

def toJson (t : Tally α) : Except Fault Json := do
  let rows ← t.mapM fun e => e.1.toJson.map fun r => Json.list [r, .int e.2.length]
  return .list rows

end Tally

structure Comparison where
  topic : Topic
  /-- The codes in the order of comparison. -/
  codes : List Code
  byCode : Table Code.Key (Option Rule)
  unknown : List Code
  /-- The rules with their adopters, in the order of first occurrence. -/
  counts : Tally Code
  /-- The first of the most common rules, with its adopters. -/
  leader : Option (Rule × List Code)
  /-- The other rules with their adopters, in the order of first occurrence. -/
  minority : Tally Code
  similarity : List (List Similarity)

namespace Comparison

def firstRepeated? : List Code.Key → List Code → Option Code
  | _, [] => none
  | seen, c :: cs => if seen.contains c.key then some c else firstRepeated? (c.key :: seen) cs

/-- The codes of the references: at least two, all different. -/
def distinctCodes (refs : List Reference) : Except Failure (List Code) :=
  let codes := refs.map Reference.code
  match firstRepeated? [] codes with
  | some code => .error (.repeatedJurisdiction code)
  | none => if codes.length < 2 then .error .tooFewJurisdictions else .ok codes

/-- Refuses references to codes that can be no keys, unless one before them is repeated. -/
def checkKeys (refs : List Reference) : Except Fault Unit :=
  let codes := refs.map Reference.code
  let keyed := codes.takeWhile Code.isKey
  match firstRepeated? [] keyed with
  | some code => .error (.failure (.repeatedJurisdiction code))
  | none => if keyed.length < codes.length then .error .wrongKind else .ok ()

/-- Compares the rules that a catalogue holds under the codes, each of which is looked up by its
text. -/
def ofCodes (catalog : Catalog) (topic : Topic) (codes : List Code) : Comparison :=
  let byCode :=
    Table.ofList (codes.map fun code => (code.key, catalog.rule? (.text code.plain) topic))
  let ruleOf (code : Code) : Option Rule := (byCode.get? code.key).getD none
  let counts := Tally.ofRules (codes.filterMap fun code => (ruleOf code).map fun r => (code, r))
  let leading := counts.leading?
  { topic, codes, byCode
    unknown := codes.filter fun code => (ruleOf code).isNone
    counts
    leader := leading.map (·.1)
    minority := (leading.map (·.2)).getD []
    similarity := Similarity.matrix (codes.map ruleOf) }

def run (catalog : Catalog) (topic : Topic) (refs : List Reference) : Except Failure Comparison :=
  (distinctCodes refs).map (ofCodes catalog topic)

def rule? (c : Comparison) (code : Code) : Option Rule := (c.byCode.get? code.key).getD none

/-- The first of the most common rules. -/
def majority (c : Comparison) : Option Rule := c.leader.map (·.1)

def majorityCount (c : Comparison) : Nat := (c.leader.map (·.2.length)).getD 0

def countOf (c : Comparison) (r : Rule) : Nat := c.counts.count r

/-- The jurisdictions with a rule, in the order of comparison. -/
def adopters (c : Comparison) (r : Rule) : List Code :=
  c.codes.filter fun code => c.rule? code == some r

def knownCount (c : Comparison) : Nat := c.codes.length - c.unknown.length

def between (c : Comparison) (a b : Reference) : Except Complaint Similarity :=
  let keys := c.codes.map Code.key
  match keys.idxOf? a.code.key, keys.idxOf? b.code.key with
  | some i, some j => .ok (((c.similarity[i]?).bind fun row => row[j]?).getD .unknown)
  | _, _ => .error .notCompared

def payloadJson (r : Option Rule) : Json := (r.map Rule.toPayload).getD .null

def codesJson (codes : List Code) : Json := .list (codes.map Code.toJson)

/-- A comparison as answers show it; the leading rule must have a label. -/
def toJson (c : Comparison) : Except Fault Json := do
  let label ← c.majority.mapM Rule.label?
  let rules := c.codes.map fun code => (code.plain, payloadJson (c.rule? code))
  return .object [("topic", .text c.topic.code), ("jurisdictions", codesJson c.codes),
    ("majority", payloadJson c.majority), ("majority_label", .ofText? label),
    ("majority_count", .int c.majorityCount),
    ("minority", .list (c.minority.map fun e => e.1.toPayload)),
    ("by_jurisdiction", .object (Table.ofList rules)), ("unknown", codesJson c.unknown),
    ("similarity", .list (c.similarity.map fun row => .list (row.map fun s => .float s.value)))]

/-- Refuses a comparison with a rule that has no label. -/
def checkLabels (c : Comparison) : Except Fault Unit :=
  c.counts.forM fun e => e.1.label?.map fun _ => ()

/-- Refuses a comparison with a rule that cannot be told apart from others. -/
def checkPlain (c : Comparison) : Except Fault Unit :=
  if c.counts.all fun e => e.1.isPlain then .ok () else .error .wrongKind

end Comparison

namespace Catalog

/-- The topics on which at least one of two jurisdictions has an entry. -/
def sharedTopics (c : Catalog) (a b : Reference) : List Topic :=
  let covered := (c.ofJurisdiction a ++ c.ofJurisdiction b).map (·.topic)
  Topic.all.filter covered.contains

/-- How two jurisdictions relate on a topic. A known rule is the same as itself. -/
def relation (c : Catalog) (a b : Reference) (topic : Topic) : Similarity :=
  if a.code.key = b.code.key then if (c.rule? a topic).isSome then .same else .unknown
  else .ofRules (c.rule? a topic) (c.rule? b topic)

/-- The mean similarity of two jurisdictions over the given topics, or over all on which one of them
has an entry. -/
def similarity {α : Type} [Scalar α] (c : Catalog) (a b : Reference)
    (topics : Option (List Topic)) : α :=
  Similarity.mean ((topics.getD (c.sharedTopics a b)).map (c.relation a b))

/-- How common each rule on a topic is across the whole catalogue, with the codes that have it. -/
def distribution (c : Catalog) (topic : Topic) : Tally Code :=
  (Tally.ofRules ((c.ofTopic topic).map fun e => (e.jurisdiction.code, e.rule))).ranked

end Catalog
end ComparativeLaw

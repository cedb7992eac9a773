import ComparativeLaw.Engine.Basic
import ComparativeLaw.Report
import ComparativeLaw.Schema.Number
import ComparativeLaw.Service.Page

namespace ComparativeLaw

open Schema

structure CompareBody where
  topic : Topic
  codes : List String

structure DisputeBody where
  topic : Topic
  forum : String
  contacts : List (ContactKind × String)
  approach : Option Approach
  notes : String
  interests : List (String × String)
  lawQuality : List (String × Float)
  weights : List (ContactKind × Float)

structure SearchBody where
  keywords : List String
  level : Option CourtLevel
  topic : Option String
  limit : Option Nat

def CompareBody.read : Json → Checked CompareBody := object .modelAttributesType fun o =>
  let topic := required Schema.topic o "topic"
  let codes := required (itemsAtLeast 2 text) o "jurisdictions"
  gather [topic.problems, codes.problems, extras ["topic", "jurisdictions"] o] do
    return { topic := ← topic, codes := ← codes }

namespace DisputeBody

def readContact : Json → Checked (ContactKind × String) := object .modelAttributesType fun o =>
  let kind := required (member ContactKind) o "kind"
  let code := required nonEmptyText o "jurisdiction"
  gather [kind.problems, code.problems, extras ["kind", "jurisdiction"] o] do
    return (← kind, ← code)

def fieldNames : List String :=
  ["topic", "forum", "factors", "approach", "policy_notes", "interests", "law_quality", "weights"]

def read : Json → Checked DisputeBody := object .modelAttributesType fun o =>
  let topic := required Schema.topic o "topic"
  let forum := required nonEmptyText o "forum"
  let contacts := defaulted (items readContact) [] o "factors"
  let approach := defaulted (nullable (member Approach)) none o "approach"
  let notes := defaulted text "" o "policy_notes"
  let interests := defaulted (mapping text text) [] o "interests"
  let lawQuality := defaulted (mapping text number) [] o "law_quality"
  let weights := defaulted (mapping (member ContactKind) number) [] o "weights"
  gather [topic.problems, forum.problems, contacts.problems, approach.problems, notes.problems,
      interests.problems, lawQuality.problems, weights.problems, extras fieldNames o] do
    return { topic := ← topic, forum := ← forum, contacts := ← contacts, approach := ← approach,
             notes := ← notes, interests := ← interests, lawQuality := ← lawQuality,
             weights := ← weights }

/-- The dispute that a body describes; every contact must name a jurisdiction. -/
def dispute (b : DisputeBody) : Except Complaint (Dispute Float) := do
  let facts ← Facts.of b.topic (b.contacts.map fun c => (c.1, .text c.2)) b.notes
    (b.interests.map fun i => .of (.text i.1) i.2)
  return { facts, forum := .text b.forum, approach := b.approach,
           lawQuality := .ok (Materials.quality b.lawQuality), weights := .ok b.weights }

end DisputeBody

def SearchBody.read : Json → Checked SearchBody := object .modelAttributesType fun o =>
  let keywords := defaulted (items text) [] o "keywords"
  let level := defaulted (nullable (member CourtLevel)) none o "court_level"
  let topic := defaulted (nullable text) none o "topic"
  let limit := defaulted (nullable natural) none o "limit"
  gather [keywords.problems, level.problems, topic.problems, limit.problems,
      extras ["keywords", "court_level", "topic", "limit"] o] do
    return { keywords := ← keywords, level := ← level, topic := ← topic, limit := ← limit }

inductive Action where
  | page (p : Page)
  | health
  | compare (body : CompareBody)
  | report (body : CompareBody)
  | resolve (body : DisputeBody)
  | search (body : SearchBody)
  | decision (id : String)

namespace Action

def version : String := "0.1.0"

def healthJson (e : Engine Float) : Except Fault Json := do
  let codes ← e.catalog.codes
  return .object [("ok", .bool true), ("version", .text version), ("rules", .int e.catalog.size),
    ("jurisdictions", .int codes.length), ("decisions", .int e.index.size)]

def comparison (e : Engine Float) (b : CompareBody) : Except Fault Comparison :=
  e.compare b.topic (b.codes.map .text)

def searchJson (results : List (SearchResult Float)) : Json :=
  .object [("count", .int results.length), ("results", .list (results.map SearchResult.toJson))]

def perform (e : Engine Float) : Action → Except Fault Content
  | page p => .ok p.content
  | health => (healthJson e).map .json
  | compare b => do return .json (← (← comparison e b).toJson)
  | report b => do return .plain (← (← comparison e b).report)
  | resolve b => do
    let dispute ← b.dispute.mapError .complaint
    return .json (← e.resolve dispute).toJson
  | search b => do
    let query ← (Query.of b.keywords b.level b.topic (b.limit.map Int.ofNat)).mapError .complaint
    return .json (searchJson (← (e.search query).mapError .failure))
  | decision id => ((e.decision id).map fun d => .json d.toJson).mapError .failure

end Action
end ComparativeLaw

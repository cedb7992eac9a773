import ComparativeLaw.CaseLaw.Index
import ComparativeLaw.CaseLaw.Query
import ComparativeLaw.Scoring

/-!
Searching the index. A decision is found if every keyword has all its tokens in the summary or all
in the holdings; it earns points for where they are, for its court and for the topic filter.
-/
namespace ComparativeLaw

structure SearchResult (α : Type) where
  decision : Decision
  score : α
  matched : List String
  rationale : String

namespace SearchResult

variable {α : Type} [Scalar α]

/-- Whether a result may stand before another: by score, then by date, the latest first, then by
identifier. -/
def precedes (a b : SearchResult α) : Bool :=
  if b.score < a.score then true
  else if a.score < b.score then false
  else if b.decision.decided.ordinal < a.decision.decided.ordinal then true
  else if a.decision.decided.ordinal < b.decision.decided.ordinal then false
  else Text.precedes a.decision.id b.decision.id

/-- A result as answers show it, its score to six places. -/
def toJson (r : SearchResult Float) : Json :=
  .object [("id", .text r.decision.id), ("score", .float (Scalar.round 6 r.score)),
    ("matched_keywords", .texts r.matched), ("rationale", .text r.rationale),
    ("decision", r.decision.toJson)]

end SearchResult

/-- A keyword with the decisions whose summary and whose holdings hold all its tokens. -/
structure KeywordHits where
  keyword : String
  inSummary : List String
  inHoldings : List String
deriving Repr

namespace KeywordHits

def of (ix : CaseIndex) (keyword : String) : KeywordHits :=
  let keyword := Text.strip keyword
  { keyword, inSummary := ix.summaries.hits keyword, inHoldings := ix.holdings.hits keyword }

def found (h : KeywordHits) (id : String) : Bool :=
  h.inSummary.contains id || h.inHoldings.contains id

/-- The places where a keyword was found in a decision. -/
def places (h : KeywordHits) (id : String) : List String :=
  (if h.inSummary.contains id then ["summary"] else []) ++
    (if h.inHoldings.contains id then ["holding"] else [])

def note (h : KeywordHits) (id : String) : String :=
  let spots := " and ".intercalate (h.places id)
  s!"{Text.quoted h.keyword} in {spots}"

variable {α : Type} [Scalar α]

def factors (policy : Policy α) (h : KeywordHits) (id : String) : List (Factor α) :=
  [⟨"summary:" ++ h.keyword, policy.summaryPoints, if h.inSummary.contains id then 1.0 else 0.0⟩,
    ⟨"holding:" ++ h.keyword, policy.holdingPoints, if h.inHoldings.contains id then 1.0 else 0.0⟩]

end KeywordHits

namespace Query

variable {α : Type} [Scalar α]

/-- Whether a decision passes the filters. -/
def admits (q : Query) (d : Decision) : Bool :=
  q.level.all (· = d.level) && q.topic.all (· = d.topic)

def factors (q : Query) (policy : Policy α) (hits : List KeywordHits) (d : Decision) :
    List (Factor α) :=
  hits.flatMap (fun h => h.factors policy d.id) ++
    ⟨"court_level", d.level.points policy, 1.0⟩ ::
    (if q.topic.isSome then [⟨"topic", policy.topicPoints, 1.0⟩] else [])

def notes (q : Query) (policy : Policy α) (hits : List KeywordHits) (d : Decision) : List String :=
  let court := Scalar.general (d.level.points policy)
  let bonus := Scalar.general policy.topicPoints
  hits.map (fun h => h.note d.id) ++
    s!"{d.level.label} +{court}" :: (q.topic.map fun t => s!"topic {t} +{bonus}").toList

/-- The points of a decision, cut off above the largest relevance. -/
def result (q : Query) (policy : Policy α) (hits : List KeywordHits) (d : Decision) :
    Except Failure (SearchResult α) :=
  (Scoring.weightedSum (q.factors policy hits d)).map fun points =>
    { decision := d
      score := Scalar.clamp policy.maxRelevance points
      matched := hits.map (·.keyword)
      rationale := "; ".intercalate (q.notes policy hits d) }

/-- The results within the limit; a negative limit counts from the end. -/
def cut (q : Query) (results : List (SearchResult α)) : List (SearchResult α) :=
  match q.limit with
  | none => results
  | some n => results.take (if n < 0 then (results.length + n).toNat else n.toNat)

end Query

def CaseIndex.search {α : Type} [Scalar α] (ix : CaseIndex) (policy : Policy α) (q : Query) :
    Except Failure (List (SearchResult α)) := do
  let hits := q.keywords.map (KeywordHits.of ix)
  let found := ix.toList.filter fun d => hits.all (fun h => h.found d.id) && q.admits d
  let results ← found.mapM (q.result policy hits)
  return q.cut (results.mergeSort SearchResult.precedes)

end ComparativeLaw

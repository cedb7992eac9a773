import ComparativeLaw.CaseLaw.Decision
import ComparativeLaw.Schema.Day

namespace ComparativeLaw.Feed

open Schema

def readHolding : Json → Checked Holding := object .modelType fun o =>
  let issue := required nonEmptyText o "issue"
  let reasoning := defaulted text "" o "reasoning"
  let conclusion := required nonEmptyText o "conclusion"
  gather [issue.problems, reasoning.problems, conclusion.problems,
      extras ["issue", "reasoning", "conclusion"] o] do
    return { issue := ← issue, reasoning := ← reasoning, conclusion := ← conclusion }

/-- Reads the parts of a decision as they are written. -/
def readDecision : Json → Checked Decision := object .modelType fun o =>
  let id := required nonEmptyText o "id"
  let caseNumber := required nonEmptyText o "case_number"
  let decided := required day o "decided"
  let level := required (member CourtLevel) o "court_level"
  let topic := required nonEmptyText o "topic"
  let summary := required nonEmptyText o "summary"
  let outcome := defaulted (member Outcome) .other o "outcome"
  let jurisdiction := defaulted (nullable text) none o "jurisdiction"
  let holdings := defaulted (items readHolding) [] o "holdings"
  let parties := defaulted (items text) [] o "parties"
  let statutes := defaulted (items text) [] o "cited_statutes"
  gather [id.problems, caseNumber.problems, decided.problems, level.problems, topic.problems,
      summary.problems, outcome.problems, jurisdiction.problems, holdings.problems,
      parties.problems, statutes.problems, extras Decision.fieldNames o] do
    return { id := ← id, caseNumber := ← caseNumber, decided := ← decided, level := ← level,
             topic := ← topic, summary := ← summary, outcome := ← outcome,
             jurisdiction := ← jurisdiction, holdings := ← holdings,
             parties := (← parties).map .text, statutes := (← statutes).map .text }

/-- The decision of a record at a position in the feed. -/
def decisionAt (position : Nat) (record : Json) : Except FeedTrouble Decision :=
  match readDecision record with
  | .error problems => .error (.decisionRecord position problems)
  | .ok d => d.build.mapError (.decision position)

def decisionsFrom (position : Nat) : List Json → Except FeedTrouble (List Decision)
  | [] => .ok []
  | r :: rs => do return (← decisionAt position r) :: (← decisionsFrom (position + 1) rs)

def parseDecisions (records : List Json) (source : Option Json) :
    Except Failure (List Decision) :=
  (decisionsFrom 0 records).mapError (.feed source)

end ComparativeLaw.Feed

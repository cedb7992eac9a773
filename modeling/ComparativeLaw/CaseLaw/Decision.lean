import ComparativeLaw.Calendar.Reading
import ComparativeLaw.CaseLaw.Vocabulary
import ComparativeLaw.Json.Conversion

namespace ComparativeLaw

structure Holding where
  issue : String
  reasoning : String
  conclusion : String
deriving DecidableEq, Repr

/-- The text of a holding that is searched. -/
def Holding.text (h : Holding) : String := s!"{h.issue} {h.conclusion}"

def Holding.complete (h : Holding) : Bool :=
  !Text.isBlankText h.issue && !Text.isBlankText h.conclusion

def Holding.toJson (h : Holding) : Json :=
  .object [("issue", .text h.issue), ("reasoning", .text h.reasoning),
    ("conclusion", .text h.conclusion)]

/-- A court decision. Identifier, case number, topic and summary are required and trimmed; parties
and cited statutes are kept as they are given. -/
structure Decision where
  id : String
  caseNumber : String
  decided : Date
  level : CourtLevel
  topic : String
  outcome : Outcome := .other
  jurisdiction : Option String := none
  summary : String
  holdings : List Holding := []
  parties : List Json := []
  statutes : List Json := []

namespace Decision

/-- The names of the required texts that are blank. -/
def blankNames (id caseNumber topic summary : String) : List String :=
  ([("id", id), ("case_number", caseNumber), ("topic", topic), ("summary", summary)].filter
    fun e => Text.isBlankText e.2).map (·.1)

def checkRequired (shownId id caseNumber topic summary : String) : Except Complaint Unit :=
  match blankNames id caseNumber topic summary with
  | [] => .ok ()
  | names => .error (.missingFields shownId names)

/-- Refuses the first holding without an issue or a conclusion. -/
def checkHoldings (shownId : String) (holdings : List Holding) : Except Complaint Unit :=
  match holdings.findIdx? fun h => !h.complete with
  | some position => .error (.holding shownId position)
  | none => .ok ()

/-- The canonical code of a jurisdiction; an empty text is none. -/
def canonicalJurisdiction (code : Option String) : Option String :=
  (code.filter fun s => !s.isEmpty).map canonicalCode

/-- A decision with trimmed texts, a normal topic and a canonical jurisdiction. -/
def normal (d : Decision) : Decision :=
  { d with
    id := Text.strip d.id
    caseNumber := Text.strip d.caseNumber
    topic := Topic.normalise d.topic
    jurisdiction := canonicalJurisdiction d.jurisdiction
    summary := Text.strip d.summary }

/-- Checks the required texts and the holdings of a decision and puts it into normal form. -/
def build (d : Decision) : Except Complaint Decision := do
  let shownId := Text.quoted d.id
  checkRequired shownId d.id d.caseNumber d.topic d.summary
  checkHoldings shownId d.holdings
  return d.normal

def toJson (d : Decision) : Json :=
  .object [("id", .text d.id), ("case_number", .text d.caseNumber),
    ("decided", .text d.decided.text), ("court_level", .text d.level.code),
    ("topic", .text d.topic), ("outcome", .text d.outcome.code),
    ("jurisdiction", .ofText? d.jurisdiction), ("summary", .text d.summary),
    ("holdings", .list (d.holdings.map Holding.toJson)), ("parties", .list d.parties),
    ("cited_statutes", .list d.statutes)]

def fieldNames : List String :=
  ["id", "case_number", "decided", "court_level", "topic", "summary", "outcome", "jurisdiction",
    "holdings", "parties", "cited_statutes"]

def requiredNames : List String := fieldNames.take 6

/-- A text that a void value leaves empty. -/
def looseText (j : Json) : Except Fault String :=
  if j.isVoid then .ok ""
  else match j with
    | .text s => .ok s
    | _ => .error .noPart

def looseDate (shownId : String) : Json → Except Fault Date
  | .text s => (Date.read s).mapError fun _ => .complaint (.decisionDate shownId (Text.quoted s))
  | _ => .error (.complaint (.noDecisionDate shownId))

def looseMember {α : Type} [Vocabulary α] (complaint : String → Complaint) (j : Json) :
    Except Fault α :=
  j.toMember.mapError fun _ => .complaint (complaint j.shown)

/-- Reads holdings one by one and refuses the first that is incomplete. -/
def looseHoldings (shownId : String) (position : Nat) : List Json → Except Fault (List Holding)
  | [] => .ok []
  | j :: rest => do
    let part (key : String) : String := ((j.fieldD key).orElse (.text "")).plain
    match j with
    | .object _ =>
      let h : Holding := ⟨part "issue", part "reasoning", part "conclusion"⟩
      if !h.complete then .error (.complaint (.holding shownId position))
      return h :: (← looseHoldings shownId (position + 1) rest)
    | _ => .error .noPart

def itemsOr (fallback : Json) (j : Option Json) : Except Fault (List Json) :=
  (j.getD fallback).toItems

def looseJurisdiction (j : Json) : Except Fault (Option String) :=
  if j.isVoid then .ok none else (looseText j).map some

/-- Reads a decision from the fields of an object, whatever their values. -/
def ofLoose (j : Json) : Except Fault Decision := do
  let fields := match j with
    | .object fields => fields
    | _ => []
  let _ ← j.toField "id"
  if !(requiredNames.all fun name => Table.contains fields name) then .error .wrongKind
  if !(fields.all fun e => fieldNames.contains e.1) then .error .wrongKind
  let shownId := (j.fieldD "id").shown
  let id ← looseText (j.fieldD "id")
  let caseNumber ← looseText (j.fieldD "case_number")
  let topic ← looseText (j.fieldD "topic")
  let summary ← looseText (j.fieldD "summary")
  (checkRequired shownId id caseNumber topic summary).mapError Fault.complaint
  let decided ← looseDate shownId (j.fieldD "decided")
  let level ← looseMember (.courtLevel shownId) (j.fieldD "court_level")
  let outcome ← looseMember (.outcome shownId)
    ((j.field? "outcome").getD (.text Outcome.other.code))
  let holdings ← looseHoldings shownId 0 (← itemsOr (.list []) (j.field? "holdings"))
  let jurisdiction ← looseJurisdiction (j.fieldD "jurisdiction")
  let parties ← itemsOr (.list []) (j.field? "parties")
  let statutes ← itemsOr (.list []) (j.field? "cited_statutes")
  return normal { id, caseNumber, decided, level, topic, outcome, jurisdiction, summary, holdings,
                  parties, statutes }

end Decision
end ComparativeLaw

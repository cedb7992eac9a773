import ComparativeLaw.Calendar.Reading
import ComparativeLaw.Rule.Payload

namespace ComparativeLaw

structure Statute where
  citation : Json
  title : Json := .null
  year : Json := .null
deriving Repr

/-- The citation, with the title if there is one; the citation alone has to be a text. -/
def Statute.text (s : Statute) : Except Fault String :=
  if s.title.isVoid then s.citation.toText
  else .ok s!"{s.citation.plain} ({s.title.plain})"

/-- A decision that a rule rests on. -/
structure Precedent where
  citation : Json
  shortName : Json
  year : Json
  significance : Json := .null
deriving Repr

def Precedent.text (p : Precedent) : String := s!"{p.shortName.plain} ({p.year.plain})"

/-- A rule that one jurisdiction adopted on one topic. What its sources say, and the notes, are kept
as they were given; they are texts and years, as a rule. -/
structure RuleEntry where
  jurisdiction : Jurisdiction
  topic : Topic
  rule : Rule
  statute : Option Statute := none
  precedents : List Precedent := []
  adopted : Option Date := none
  notes : Json := .text ""

namespace RuleEntry

def key (e : RuleEntry) : Code.Key × Topic := (e.jurisdiction.code.key, e.topic)

/-- The statute if there is one, otherwise the first decision, or null. -/
def citation (e : RuleEntry) : Except Fault Json :=
  match e.statute with
  | some s => s.text.map .text
  | none => .ok ((e.precedents.head?.map (·.citation)).getD .null)

def statuteJson (s : Statute) : Except Fault Json :=
  s.text.map fun text => .object [("citation", s.citation), ("title", s.title), ("year", s.year),
    ("text", .text text)]

def precedentJson (p : Precedent) : Json :=
  .object [("citation", p.citation), ("short_name", p.shortName), ("year", p.year),
    ("significance", p.significance), ("text", .text p.text)]

def toJson (e : RuleEntry) : Except Fault Json := do
  let statute ← match e.statute with
    | some s => statuteJson s
    | none => .ok .null
  return .object [("jurisdiction", e.jurisdiction.toJson), ("topic", .text e.topic.code),
    ("rule", ← e.rule.toJson), ("statute", statute),
    ("cases", .list (e.precedents.map precedentJson)),
    ("adopted", .ofText? (e.adopted.map Date.text)), ("notes", e.notes),
    ("citation", ← e.citation)]

/-- The fields of an object with all the required names and no unknown ones. -/
def exactFields (required known : List String) : Json → Except Fault (List (String × Json))
  | .object fields =>
    if required.all (Table.contains fields) && fields.all fun e => known.contains e.1 then
      .ok fields
    else .error .wrongKind
  | _ => .error .wrongKind

def readStatute (j : Json) : Except Fault (Option Statute) := do
  if j.isVoid then return none
  let _ ← exactFields ["citation"] ["citation", "title", "year"] j
  return some {
    citation := j.fieldD "citation", title := j.fieldD "title", year := j.fieldD "year" }

def readPrecedent (j : Json) : Except Fault Precedent := do
  let _ ← exactFields ["citation", "short_name", "year"]
    ["citation", "short_name", "year", "significance"] j
  return {
    citation := j.fieldD "citation", shortName := j.fieldD "short_name", year := j.fieldD "year"
    significance := j.fieldD "significance" }

def readDate (j : Json) : Except Fault (Option Date) := do
  if j.isVoid then return none
  let s ← j.toText
  return some (← (Date.read s).mapError Fault.complaint)

/-- A part that only an object can give. -/
def readPart {α : Type} (read : Json → Except Fault α) (j : Json) : Except Fault (Option α) :=
  match j with
  | .object _ => (read j).map some
  | _ => .ok none

/-- Reads an entry whose parts are given one by one. -/
def ofJson (j : Json) : Except Fault RuleEntry := do
  let given ← j.toField "jurisdiction"
  let jurisdiction ← readPart Json.toJurisdiction given
  let topic ← (← j.toField "topic").toTopic
  let rule ← Rule.ofPayload (← j.toField "rule")
  let statute ← readStatute (j.fieldD "statute")
  let precedents ← (← ((j.field? "cases").getD (.list [])).toItems).mapM readPrecedent
  let adopted ← readDate (j.fieldD "adopted")
  match jurisdiction with
  | none => .error (.misfit (.entryJurisdiction given.shown))
  | some jurisdiction =>
    return { jurisdiction, topic, rule, statute, precedents, adopted
             notes := (j.field? "notes").getD (.text "") }

/-- Reads an entry that takes its parts as they are: a bare text is no jurisdiction and no topic,
and only an object is a rule. -/
def ofRaw (j : Json) : Except Fault RuleEntry := do
  let bareTopic := !(j.fieldD "raw_topic").isVoid
  let givenJurisdiction ← j.toField "jurisdiction"
  let jurisdiction ← readPart Json.toJurisdiction givenJurisdiction
  let givenTopic ← j.toField "topic"
  let topic ← if bareTopic then .ok none else givenTopic.toTopic.map some
  let givenRule ← j.toField "rule"
  let rule ← readPart Rule.ofPayload givenRule
  match jurisdiction, topic, rule with
  | none, _, _ => .error (.misfit (.entryJurisdiction givenJurisdiction.shown))
  | _, none, _ => .error (.misfit (.entryTopic givenTopic.shown))
  | _, _, none => .error (.misfit (.entryRule givenRule.shown))
  | some jurisdiction, some topic, some rule => return { jurisdiction, topic, rule }

end RuleEntry
end ComparativeLaw

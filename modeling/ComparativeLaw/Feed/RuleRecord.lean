import ComparativeLaw.Jurisdiction.Registry
import ComparativeLaw.Rule.Entry
import ComparativeLaw.Schema.Day

namespace ComparativeLaw.Feed

open Schema

/-- A rule as a feed writes it. -/
inductive Payload where
  | flag (code : String)
  | threshold (code : String) (level : Level)
  | cap (damages : DamagesType) (amount : Nat) (conditions : List String)
  | custom (name description : String) (parameters : List (String × Json))

namespace Payload

def readFlag (o : Fields) : Checked Payload :=
  let code := required nonEmptyText o "code"
  gather [code.problems, extras ["kind", "code"] o] do return .flag (← code)

def readLevel (j : Json) : Checked Level :=
  match j with
  | .text _ => (number j).map Level.ofRead
  | _ => (number j).map Level.number

def readThreshold (o : Fields) : Checked Payload :=
  let code := required nonEmptyText o "code"
  let level := required readLevel o "threshold"
  gather [code.problems, level.problems, extras ["kind", "code", "threshold"] o] do
    return .threshold (← code) (← level)

def readCap (o : Fields) : Checked Payload :=
  let damages := required (member DamagesType) o "damages_type"
  let amount := required natural o "amount"
  let conditions := defaulted (items text) [] o "conditions"
  gather [damages.problems, amount.problems, conditions.problems,
      extras ["kind", "damages_type", "amount", "conditions"] o] do
    return .cap (← damages) (← amount) (← conditions)

def readCustom (o : Fields) : Checked Payload :=
  let name := required nonEmptyText o "name"
  let description := defaulted text "" o "description"
  let parameters := defaulted (mapping text anything) [] o "parameters"
  gather [name.problems, description.problems, parameters.problems,
      extras ["kind", "name", "description", "parameters"] o] do
    return .custom (← name) (← description) (← parameters)

/-- Reads the fields of the kind that the payload names. -/
def ofFields (o : Fields) : Checked Payload :=
  match Table.get? o "kind" with
  | none => refuse .unionTagNotFound
  | some (.text tag) =>
    let read? : Option (Fields → Checked Payload) :=
      match (Vocabulary.ofCode? tag : Option RuleKind) with
      | some .flag => some readFlag
      | some .threshold => some readThreshold
      | some .damagesCap => some readCap
      | some .custom => some readCustom
      | none => none
    match read? with
    | some read => (wellNamed read o).under (.key tag)
    | none => refuse .unionTagInvalid
  | some _ => refuse .unionTagInvalid

/-- Reads a payload by its kind; every field that the kind does not have is a problem. -/
def read : Json → Checked Payload
  | .object o => ofFields o
  | _ => refuse .modelAttributesType

def rule : Payload → Except Complaint Rule
  | flag code => Rule.ofFlag (Rule.normalCode code)
  | threshold code level => Rule.ofThreshold (Rule.normalCode code) level
  | cap damages amount conditions => Rule.ofCap damages amount (conditions.map Json.text)
  | custom name description parameters =>
    Rule.ofCustom (Text.strip name) description
      (Rule.sortedParameters (parameters.map fun e => (e.1, e.2.plain)))

end Payload

def readStatute : Json → Checked Statute := object .modelType fun o =>
  let citation := required nonEmptyText o "citation"
  let title := defaulted (nullable text) none o "title"
  let year := defaulted (nullable integer) none o "year"
  gather [citation.problems, title.problems, year.problems,
      extras ["citation", "title", "year"] o] do
    return { citation := .text (← citation), title := .ofText? (← title), year := .ofInt? (← year) }

def readPrecedent : Json → Checked Precedent := object .modelType fun o =>
  let citation := required nonEmptyText o "citation"
  let shortName := required nonEmptyText o "short_name"
  let year := required integer o "year"
  let significance := defaulted (nullable text) none o "significance"
  gather [citation.problems, shortName.problems, year.problems, significance.problems,
      extras ["citation", "short_name", "year", "significance"] o] do
    return { citation := .text (← citation), shortName := .text (← shortName),
             year := .int (← year), significance := .ofText? (← significance) }

/-- Reads a declared jurisdiction, whose code becomes canonical. -/
def readJurisdiction : Json → Checked Jurisdiction := object .modelType fun o =>
  let code := required nonEmptyText o "code"
  let name := required nonEmptyText o "name"
  let tradition := defaulted (member Tradition) .commonLaw o "tradition"
  gather [code.problems, name.problems, tradition.problems,
      extras ["code", "name", "tradition"] o] do
    return { code := canonicalCode (← code), name := ← name, tradition := ← tradition }

structure RuleRecord where
  /-- The canonical code. -/
  code : String
  topic : Topic
  payload : Payload
  statute : Option Statute := none
  precedents : List Precedent := []
  adopted : Option Date := none
  notes : String := ""

def readRuleRecord : Json → Checked RuleRecord := object .modelType fun o =>
  let code := required nonEmptyText o "jurisdiction"
  let topic := required topic o "topic"
  let payload := required Payload.read o "rule"
  let statute := defaulted (nullable readStatute) none o "statute"
  let precedents := defaulted (items readPrecedent) [] o "cases"
  let adopted := defaulted (nullable day) none o "adopted"
  let notes := defaulted text "" o "notes"
  gather [code.problems, topic.problems, payload.problems, statute.problems, precedents.problems,
      adopted.problems, notes.problems,
      extras ["jurisdiction", "topic", "rule", "statute", "cases", "adopted", "notes"] o] do
    return { code := canonicalCode (← code), topic := ← topic, payload := ← payload,
             statute := ← statute, precedents := ← precedents, adopted := ← adopted,
             notes := ← notes }

/-- A rule feed: jurisdictions that it declares, and rules. -/
structure RuleFeed where
  jurisdictions : List Jurisdiction := []
  rules : List RuleRecord := []

def RuleFeed.read : Json → Checked RuleFeed := object .modelType fun o =>
  let jurisdictions := defaulted (items readJurisdiction) [] o "jurisdictions"
  let rules := defaulted (items readRuleRecord) [] o "rules"
  gather [jurisdictions.problems, rules.problems, extras ["jurisdictions", "rules"] o] do
    return { jurisdictions := ← jurisdictions, rules := ← rules }

end ComparativeLaw.Feed

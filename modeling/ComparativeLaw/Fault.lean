import ComparativeLaw.ChoiceOfLaw.Vocabulary
import ComparativeLaw.Jurisdiction.Code
import ComparativeLaw.Schema.Problem
import ComparativeLaw.Topic

/-!
Why an operation has no answer. Failures of the analysis are told apart by kind and carry what
caused them; complaints are about single values; the remaining faults are values of a shape that
an operation cannot take.
-/
namespace ComparativeLaw

/-- A value of the right shape that is not acceptable. Where a message shows a value, the
constructor holds it as shown. -/
inductive Complaint where
  | unknownTopic (shown : String)
  | notMember (shown title : String)
  | notNumber (shown : String)
  | notInteger (shown : String)
  | longInteger (digits : Nat)
  | nanInteger
  | unknownRuleKind (shown : String)
  | flagCode
  | thresholdCode
  | threshold (shownCode : String)
  | capFields
  | capType
  | capAmount
  | customName
  | emptyContact (kind : ContactKind)
  | missingFields (shownId : String) (names : List String)
  | decisionDate (shownId shown : String)
  | noDecisionDate (shownId : String)
  | courtLevel (shownId shown : String)
  | outcome (shownId shown : String)
  | holding (shownId : String) (position : Nat)
  | negativeLimit (shown : String)
  | notDate (shown : String)
  | dayOfMonth
  | monthOfYear
  | yearRange (year : Nat)
  | weekRange (week : Nat)
  | emptyMaximum
  | notCompared
  | nullByte
  | variableName
  /-- A part of a mapping that is not made of a key and a value. -/
  | pairLength (position length : Nat)
deriving DecidableEq, Repr

def Complaint.message : Complaint → String
  | unknownTopic shown => s!"Unknown legal topic {shown}"
  | notMember shown title => s!"{shown} is not a valid {title}"
  | notNumber shown => s!"could not convert string to float: {shown}"
  | notInteger shown => s!"invalid literal for int() with base 10: {shown}"
  | longInteger digits =>
    s!"Exceeds the limit ({Text.digitLimit} digits) for integer string conversion: value has " ++
      s!"{digits} digits; use sys.set_int_max_str_digits() to increase the limit"
  | nanInteger => "cannot convert float NaN to integer"
  | unknownRuleKind shown => s!"Unknown rule kind {shown}"
  | flagCode => "Flag rule requires a code"
  | thresholdCode => "Threshold rule requires a code"
  | threshold shownCode => s!"Threshold rule {shownCode} requires a numeric threshold"
  | capFields => "Damages cap requires damages_type and amount"
  | capType => "Damages cap requires a damages type"
  | capAmount => "Damages cap requires a non-negative amount"
  | customName => "Custom rule requires a name"
  | emptyContact kind => s!"Contacting factor {kind.code} has no jurisdiction"
  | missingFields shownId names =>
    s!"Decision {shownId} is missing required field(s): " ++ ", ".intercalate names
  | decisionDate shownId shown => s!"Decision {shownId} has an invalid decision date {shown}"
  | noDecisionDate shownId => s!"Decision {shownId} requires a decision date"
  | courtLevel shownId shown => s!"Decision {shownId} has an unknown court level {shown}"
  | outcome shownId shown => s!"Decision {shownId} has an unknown outcome {shown}"
  | holding shownId position =>
    s!"Decision {shownId} holding #{position} requires an issue and a conclusion"
  | negativeLimit shown => s!"Search limit must be non-negative, got {shown}"
  | notDate shown => s!"Invalid isoformat string: {shown}"
  | dayOfMonth => "day is out of range for month"
  | monthOfYear => "month must be in 1..12"
  | yearRange year => s!"year {year} is out of range"
  | weekRange week => s!"Invalid week: {week}"
  | emptyMaximum => "max() arg is an empty sequence"
  | notCompared => "tuple.index(x): x not in tuple"
  | nullByte => "embedded null byte"
  | variableName => "illegal environment variable name"
  | pairLength position length =>
    s!"dictionary update sequence element #{position} has length {length}; 2 is required"

/-- What is wrong with a data feed. -/
inductive FeedTrouble where
  | ruleFeed (problems : List Schema.Problem)
  | undeclared (position : Nat) (code : String)
  | rule (position : Nat) (complaint : Complaint)
  | decisionRecord (position : Nat) (problems : List Schema.Problem)
  | decision (position : Nat) (complaint : Complaint)
  | unreadableRules (path reason : String)
  | unreadableDecisions (path reason : String)
  | line (number : Nat) (path reason : String)
deriving DecidableEq, Repr

namespace FeedTrouble

def headline : FeedTrouble → String
  | ruleFeed _ => "Invalid rule feed"
  | undeclared position code =>
    s!"Rule #{position} names an undeclared jurisdiction {Text.quoted code}"
  | rule position complaint => s!"Rule #{position} is invalid: {complaint.message}"
  | decisionRecord position _ => s!"Decision #{position} is invalid"
  | decision position complaint => s!"Decision #{position} is invalid: {complaint.message}"
  | unreadableRules path reason => s!"Cannot read rule feed {path}: {reason}"
  | unreadableDecisions path reason => s!"Cannot read decision feed {path}: {reason}"
  | line number path reason => s!"Line {number} of {path} is not valid JSON: {reason}"

def problems : FeedTrouble → List Schema.Problem
  | ruleFeed problems | decisionRecord _ problems => problems
  | _ => []

def countText (problems : List Schema.Problem) (record : String) : String :=
  let errors := if problems.length = 1 then "error" else "errors"
  s!": {problems.length} validation {errors} for {record}"

def message (t : FeedTrouble) : String :=
  match t with
  | ruleFeed problems => t.headline ++ countText problems "RuleFeed"
  | decisionRecord _ problems => t.headline ++ countText problems "DecisionRecord"
  | _ => t.headline

/-- The position of the offending rule, decision or line. -/
def record : FeedTrouble → Option Nat
  | undeclared n _ | rule n _ | decisionRecord n _ | decision n _ | line n _ _ => some n
  | _ => none

end FeedTrouble

/-- A failure of the analysis, the comparison or the stores. -/
inductive Failure where
  | weight (factor : Json) (shown : String)
  | indicator (factor : Json) (shown : String)
  | totalWeight (factors : List Json)
  | lawQuality (code shown : String)
  | territorialContact (topic : Topic) (primary : ContactKind) (fallback : Option ContactKind)
  | noUsableContact (topic : Topic)
  | noRelevantContact (topic : Topic)
  | unknownJurisdiction (code : Code) (factor : Option String)
  | caseNotFound (id : Json)
  | duplicateId (id : String)
  | duplicateRuleEntry (code : Code) (topic : Topic)
  | repeatedJurisdiction (code : Code)
  | tooFewJurisdictions
  /-- The source is a path, as a rule. -/
  | feed (source : Option Json) (trouble : FeedTrouble)
deriving Repr

namespace Failure

def kind : Failure → String
  | weight _ _ | indicator _ _ | totalWeight _ | lawQuality _ _ => "invalid_weighting"
  | territorialContact _ _ _ | noUsableContact _ | noRelevantContact _ => "insufficient_facts"
  | unknownJurisdiction _ _ => "unknown_jurisdiction"
  | caseNotFound _ => "case_not_found"
  | duplicateId _ => "duplicate_id"
  | duplicateRuleEntry _ _ => "duplicate_rule_entry"
  | repeatedJurisdiction _ | tooFewJurisdictions => "invalid_comparison"
  | feed _ _ => "feed_error"

def message : Failure → String
  | weight factor shown => s!"Factor {factor.shown} has invalid weight {shown}"
  | indicator factor shown => s!"Factor {factor.shown} indicator {shown} is outside [0, 1]"
  | totalWeight factors =>
    let names := ", ".intercalate (factors.map Json.plain)
    let shown := if names.isEmpty then "<none>" else names
    s!"Total weight must be positive (factors: {shown})"
  | lawQuality code shown => s!"Law quality for {code} must lie in [0, 1], got {shown}"
  | territorialContact topic primary none =>
    s!"Territorial rule for {topic.code} needs {primary.code}"
  | territorialContact topic primary (some fallback) =>
    s!"Territorial rule for {topic.code} needs {primary.code} or {fallback.code}"
  | noUsableContact topic => s!"No usable contacting factor for {topic.code}"
  | noRelevantContact topic => s!"No contacting factor relevant to {topic.code}"
  | unknownJurisdiction code none => s!"Unknown jurisdiction {code.shown}"
  | unknownJurisdiction code (some factor) =>
    s!"Unknown jurisdiction {code.shown} (factor {factor})"
  | caseNotFound id => s!"Decision {id.shown} is not indexed"
  | duplicateId id => s!"Decision {Text.quoted id} is already indexed"
  | duplicateRuleEntry code topic =>
    s!"Duplicate rule entry for jurisdiction {code.shown} and topic {Text.quoted topic.code}"
  | repeatedJurisdiction code => s!"Jurisdiction {code.shown} listed more than once"
  | tooFewJurisdictions => "A comparison needs at least two distinct jurisdictions"
  | feed _ trouble => trouble.message

/-- A cause under its name, unless it is null. -/
def cause (name : String) : Json → List (String × Json)
  | .null => []
  | j => [(name, j)]

/-- What caused the failure, by name; a cause that is not known is left out. -/
def causes : Failure → List (String × Json)
  | weight factor _ | indicator factor _ => cause "factor" factor
  | lawQuality code _ => [("factor", .text code)]
  | territorialContact topic primary _ =>
    [("topic", .text topic.code), ("factor", .text primary.code)]
  | noUsableContact topic | noRelevantContact topic => [("topic", .text topic.code)]
  | unknownJurisdiction code factor =>
    cause "code" code.toJson ++ (factor.map fun f => ("factor", Json.text f)).toList
  | caseNotFound id => cause "case_id" id
  | duplicateId id => [("case_id", .text id)]
  | duplicateRuleEntry code topic =>
    cause "jurisdiction" code.toJson ++ [("topic", .text topic.code)]
  | repeatedJurisdiction code => cause "jurisdiction" code.toJson
  | feed source trouble =>
    (source.map fun s => ("source", s)).toList ++
      (trouble.record.map fun n => ("record", Json.int n)).toList
  | totalWeight _ | tooFewJurisdictions => []

/-- The problems that validation found, if it failed. -/
def problems : Failure → List Schema.Problem
  | feed _ trouble => trouble.problems
  | _ => []

/-- The report of a failure: kind, message, and for an unknown jurisdiction its code and where it
was named. -/
def toJson (f : Failure) : Json :=
  let base := [("kind", Json.text f.kind), ("message", .text f.message)]
  match f with
  | unknownJurisdiction code factor =>
    let place := (factor.map fun f => ("factor", Json.text f)).toList
    .object (base ++ ("jurisdiction", code.toJson) :: place)
  | _ => .object base

end Failure

/-- Parts that a rule or a rule entry is not made of. -/
inductive Misfit where
  | noRuleKind
  | ruleField (name : String)
  | ruleKind (shown : String)
  | entryJurisdiction (shown : String)
  | entryTopic (shown : String)
  | entryRule (shown : String)
deriving DecidableEq, Repr

def Misfit.message : Misfit → String
  | noRuleKind => "RuleVariant.__init__() missing 1 required positional argument: 'kind'"
  | ruleField name =>
    s!"RuleVariant.__init__() got an unexpected keyword argument {Text.quoted name}"
  | ruleKind shown => s!"RuleVariant.kind must be a RuleKind, got {shown}"
  | entryJurisdiction shown => s!"RuleEntry.jurisdiction must be a JurisdictionId, got {shown}"
  | entryTopic shown => s!"RuleEntry.topic must be a LegalTopic, got {shown}"
  | entryRule shown => s!"RuleEntry.rule must be a RuleVariant, got {shown}"

/-- Why an operation has no answer. -/
inductive Fault where
  | failure (f : Failure)
  | complaint (c : Complaint)
  | misfit (m : Misfit)
  /-- A value of a kind that the operation does not take. -/
  | wrongKind
  /-- A value without the part or the operation that was asked of it. -/
  | noPart
  /-- A number beyond the range of what it should become. -/
  | overflow
  /-- Bytes that are not a text. -/
  | undecodable
  /-- A name that is not among the known ones, or a part that is not there under its name. -/
  | noSuchName
  /-- The first of no elements. -/
  | noElement
  /-- A value that is nested too deeply. -/
  | tooDeep
  /-- A text that cannot be written as bytes. -/
  | unwritable
  /-- A text that is not the target of a request. -/
  | noTarget
  /-- A request that leads on too often. -/
  | endlessWay
  /-- A request to a service of another kind. -/
  | otherService
  /-- A response without the data text that it announces. -/
  | withheld
  /-- A variable of the environment without a name. -/
  | noVariable
deriving Repr

end ComparativeLaw

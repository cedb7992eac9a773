import ComparativeLaw.CommandLine.Command
import ComparativeLaw.Engine.Basic
import ComparativeLaw.Json.Printer
import ComparativeLaw.Report

namespace ComparativeLaw.CommandLine

inductive Outcome where
  | printed (text : String)
  | misuse (m : Misuse)
  /-- The feeds of the data root make no engine. -/
  | noEngine (f : Failure)
  | failure (f : Failure)
  /-- A fault that the command does not expect. -/
  | crash (fault : Fault)

namespace Outcome

def exitCode : Outcome → UInt32
  | printed _ => 0
  | misuse _ => 2
  | noEngine _ | failure _ | crash _ => 1

def output : Outcome → String
  | printed text => text ++ "\n"
  | _ => ""

/-- What is printed as an error; a surrogate in it is shown by its number. -/
def errors : Outcome → String
  | printed _ => ""
  | misuse m => s!"Error: {Text.visible m.message}\n"
  | noEngine f => s!"Error: {f.kind}: {Text.visible f.message}\n"
  | failure f => (Json.object [("error", f.toJson)]).indented ++ "\n"
  | crash _ => "Error: the data cannot be read\n"

end Outcome

/-- Key and value of a pair with an equals sign between them, neither of them blank. -/
def readPair (option raw : String) : Except Misuse (String × String) :=
  let s := raw.toList
  let key := Text.trimBy Text.isBlank (s.takeWhile (· ≠ '='))
  let value := Text.trimBy Text.isBlank ((s.dropWhile (· ≠ '=')).drop 1)
  if key.isEmpty || value.isEmpty then
    .error (.badValue option s!"expected KEY=VALUE, got {Text.quoted raw}")
  else .ok (String.ofList key, String.ofList value)

def readPairs (option : String) (raws : List String) : Except Misuse (List (String × String)) :=
  raws.mapM (readPair option)

def readKind (pair : String × String) : Except Misuse (ContactKind × Reference) :=
  match Vocabulary.ofCode? pair.1 with
  | some kind => .ok (kind, .text pair.2)
  | none => .error (.badValue "--factor" s!"unknown factor kind {Text.quoted pair.1}")

def readFactors (raws : List String) : Except Misuse (List (ContactKind × Reference)) := do
  (← readPairs "--factor" raws).mapM readKind

def readNumber (option text : String) : Except Misuse Float :=
  match Numeral.read? text with
  | some n => .ok n.toFloat
  | none => .error (.badValue option (Complaint.notNumber (Text.quoted text)).message)

/-- Reads law qualities; of a repeated jurisdiction the last one counts. -/
def readQualities (raws : List String) : Except Misuse (Scores Float) := do
  let scored ← (← readPairs "--quality" raws).mapM fun p =>
    (readNumber "--quality" p.2).map fun x => (p.1, x)
  return Materials.quality (Table.ofList scored)

def topicHint : String := "TOPIC"

def readTopic (topic : String) : Except Misuse Topic :=
  match Topic.ofText? topic with
  | some t => .ok t
  | none => .error (.badValue topicHint (Complaint.unknownTopic (Text.quoted topic)).message)

def readInterests (raws : List String) : Except Misuse (List Interest) := do
  return (Table.ofList (← readPairs "--interest" raws)).map fun i => .of (.text i.1) i.2

/-- Takes the good case of what may be misused. -/
def orMisuse {α : Type} (r : Except Misuse α) (next : α → Outcome) : Outcome :=
  match r with
  | .ok a => next a
  | .error m => .misuse m

/-- Runs on the engine, or ends without one. -/
def withEngine (engine : Except Fault (Engine Float)) (next : Engine Float → Outcome) : Outcome :=
  match engine with
  | .ok e => next e
  | .error (.failure f) => .noEngine f
  | .error fault => .crash fault

/-- Prints an answer, or reports the failure that stands in its place. -/
def finish (r : Except Fault String) : Outcome :=
  match r with
  | .ok text => if Text.hasSurrogate text then .crash .unwritable else .printed text
  | .error (.failure f) => .failure f
  | .error fault => .crash fault

def runComparison (e : Engine Float) (topic : String) (codes : List String)
    (print : Comparison → Except Fault String) : Outcome :=
  orMisuse (readTopic topic) fun topic => finish do print (← e.compare topic (codes.map .text))

/-- A search result in short. -/
def resultJson (r : SearchResult Float) : Json :=
  .object [("id", .text r.decision.id), ("score", .float r.score),
    ("court_level", .text r.decision.level.code), ("decided", .text r.decision.decided.text),
    ("matched_keywords", .texts r.matched), ("rationale", .text r.rationale)]

def resultsJson (rs : List (SearchResult Float)) : Json :=
  .object [("count", .int rs.length), ("results", .list (rs.map resultJson))]

/-- The facts of a dispute; its topic is checked first. -/
def readFacts (topic : String) (factors : List (ContactKind × Reference)) (interests : List String)
    (notes : String) : Except Misuse Facts := do
  let topic ← readTopic topic
  let interests ← readInterests interests
  (Facts.of topic factors notes interests).mapError fun c => .badValue topicHint c.message

def runSearch (e : Engine Float) (q : Except Complaint Query) : Outcome :=
  match q with
  | .error c => .crash (.complaint c)
  | .ok q =>
    match e.search q with
    | .error f => .crash (.failure f)
    | .ok rs => .printed (resultsJson rs).indented

def helpText : String :=
  "Commands: compare, report, choice-of-law, search"

/-- Runs a command. The engine is asked for once the words that need none are read. -/
def Command.run (engine : Except Fault (Engine Float)) : Command → Outcome
  | help => .printed helpText
  | compare topic codes => withEngine engine fun e =>
    runComparison e topic codes fun c => c.toJson.map Json.indented
  | report topic codes => withEngine engine fun e => runComparison e topic codes Comparison.report
  | resolve topic forum factors approach interests qualities notes =>
    orMisuse (readFactors factors) fun factors =>
    orMisuse (readQualities qualities) fun quality =>
    withEngine engine fun e =>
    orMisuse (readFacts topic factors interests notes) fun facts =>
      let dispute := { facts, forum := .text forum, approach, lawQuality := .ok quality }
      finish ((e.resolve dispute).map fun r => r.toJson.indented)
  | search keywords level topic limit => withEngine engine fun e =>
    runSearch e (Query.of keywords level topic (limit.map Int.ofNat))

/-- Runs a command line on the engines that data roots make. -/
def run (load : Option String → Except Fault (Engine Float)) (words : List String) : Outcome :=
  orMisuse (Invocation.ofWords words) fun invocation =>
    invocation.command.run (load invocation.dataRoot)

end ComparativeLaw.CommandLine

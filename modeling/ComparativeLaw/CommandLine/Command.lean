import ComparativeLaw.CaseLaw.Vocabulary
import ComparativeLaw.ChoiceOfLaw.Vocabulary
import ComparativeLaw.CommandLine.Words

/-!
The commands and what they take. Of several misuses the first is reported: options are checked as
they occur, then the arguments, then the options that are missing.
-/
namespace ComparativeLaw.CommandLine

inductive Command where
  | compare (topic : String) (codes : List String)
  | report (topic : String) (codes : List String)
  | resolve (topic forum : String) (factors : List String) (approach : Option Approach)
      (interests qualities : List String) (notes : String)
  | search (keywords : List String) (level : Option CourtLevel) (topic : Option String)
      (limit : Option Nat)
  | help

/-- The values that an option takes. -/
inductive Values where
  | text
  | choice (codes : List String)
  | count

def Values.check (option value : String) : Values → Except Misuse Unit
  | text => .ok ()
  | choice codes => if codes.contains value then .ok () else .error (.notChoice option value codes)
  | count =>
    match Text.readInt? value with
    | none => .error (.notInteger option value)
    | some n => if n < 0 then .error (.belowZero option n) else .ok ()

/-- What a command takes. -/
structure Shape where
  options : List (String × Values) := []
  requiredOptions : List String := []
  /-- The arguments of one word. -/
  arguments : List String := []
  /-- The arguments of any number of words, the name of those that may not be missing. -/
  rest : Option (Option String) := none

namespace Shape

def optionNames (s : Shape) : List String := s.options.map (·.1)

def checkOptions (s : Shape) (w : Words) : Except Misuse Unit :=
  w.names.forM fun name =>
    match s.options.find? fun o => o.1 = name, w.value? name with
    | some o, some value => o.2.check name value
    | _, _ => .ok ()

def checkArguments (s : Shape) (given : List String) : Except Misuse Unit :=
  match s.arguments.drop given.length, s.rest with
  | name :: _, _ => .error (.missingArgument name)
  | [], some (some name) =>
    if given.length ≤ s.arguments.length then .error (.missingArgument name) else .ok ()
  | [], _ => .ok ()

def checkRequired (s : Shape) (w : Words) : Except Misuse Unit :=
  match s.requiredOptions.find? fun name => !w.names.contains name with
  | some name => .error (.missingOption name)
  | none => .ok ()

def checkSurplus (s : Shape) (given : List String) : Except Misuse Unit :=
  match given.drop s.arguments.length, s.rest with
  | [], _ | _, some _ => .ok ()
  | surplus, none => .error (.unexpected surplus)

/-- The words of a command, checked unless help is asked for. -/
def read (s : Shape) (words : List String) : Except Misuse Words := do
  let w ← Words.scan s.optionNames true words
  if w.help then return w
  s.checkOptions w
  s.checkArguments w.arguments
  s.checkRequired w
  s.checkSurplus w.arguments
  return w

end Shape

namespace Command

def comparisonShape : Shape :=
  { arguments := ["TOPIC"], rest := some (some "JURISDICTIONS...") }

def disputeShape : Shape :=
  { options := [("--forum", .text), ("--factor", .text),
      ("--approach", .choice (Vocabulary.codes Approach)), ("--interest", .text),
      ("--quality", .text), ("--notes", .text)]
    requiredOptions := ["--forum"]
    arguments := ["TOPIC"] }

def searchShape : Shape :=
  { options := [("--court-level", .choice (Vocabulary.codes CourtLevel)), ("--topic", .text),
      ("--limit", .count)]
    rest := some none }

/-- Reads a comparison, whose first argument is the topic. -/
def readComparison (make : String → List String → Command) (words : List String) :
    Except Misuse Command := do
  let w ← comparisonShape.read words
  if w.help then return help
  return make (w.arguments.headD "") w.arguments.tail

def readDispute (words : List String) : Except Misuse Command := do
  let w ← disputeShape.read words
  if w.help then return help
  return resolve (w.arguments.headD "") ((w.value? "--forum").getD "") (w.valuesOf "--factor")
    ((w.value? "--approach").bind Vocabulary.ofCode?) (w.valuesOf "--interest")
    (w.valuesOf "--quality") ((w.value? "--notes").getD "")

def readSearch (words : List String) : Except Misuse Command := do
  let w ← searchShape.read words
  if w.help then return help
  return search w.arguments ((w.value? "--court-level").bind Vocabulary.ofCode?)
    (w.value? "--topic") (((w.value? "--limit").bind Text.readInt?).map Int.toNat)

/-- The commands by name, with what reads their words. -/
def readers : List (String × (List String → Except Misuse Command)) :=
  [("choice-of-law", readDispute), ("compare", readComparison compare),
    ("report", readComparison report), ("search", readSearch)]

def names : List String := readers.map (·.1)

end Command

/-- A command line: a command and the data root it runs on, if one is named. -/
structure Invocation where
  dataRoot : Option String
  command : Command

def rootOption : String := "--data-root"

/-- Reads a command line: first the options that come before the command, then the command. Where no
command has the name, the words are read once more, for the name may be an option. -/
def Invocation.ofWords (words : List String) : Except Misuse Invocation := do
  let w ← Words.scan [rootOption] false words
  let dataRoot := w.value? rootOption
  if w.help then return { dataRoot, command := .help }
  match w.arguments with
  | [] => .error .missingCommand
  | name :: rest =>
    match Command.readers.find? fun r => r.1 = name with
    | some r => return { dataRoot, command := ← r.2 rest }
    | none =>
      let again ← Words.scan [rootOption] false w.arguments
      if again.help then return { dataRoot, command := .help }
      .error (.noSuchCommand name (Text.closeWords name Command.names))

end ComparativeLaw.CommandLine

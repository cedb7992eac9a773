import ComparativeLaw.Text.Digit
import ComparativeLaw.Text.Quoted
import ComparativeLaw.Text.Resemblance

/-!
The words of a command line: options, each with a value, and arguments. An option's value is the
next word, or follows after an equals sign; after two dashes alone every word is an argument.
-/
namespace ComparativeLaw.CommandLine

inductive Misuse where
  | missingCommand
  | noSuchCommand (name : String) (similar : List String)
  | noSuchOption (name : String) (similar : List String)
  | noValue (option : String)
  | needlessValue (option : String)
  | missingArgument (name : String)
  | missingOption (name : String)
  | unexpected (arguments : List String)
  | notChoice (option value : String) (choices : List String)
  | notInteger (option value : String)
  | belowZero (option : String) (n : Int)
  /-- A value that the command itself refuses; the hint tells where it stands. -/
  | badValue (hint message : String)
deriving DecidableEq, Repr

/-- The question whether one of some similar words was meant. -/
def suggestion : List String → String
  | [] => ""
  | [word] => s!" Did you mean {Text.quoted word}?"
  | words =>
    let shown := ", ".intercalate (words.map Text.quoted)
    s!" (Did you mean one of: {shown}?)"

def Misuse.message : Misuse → String
  | missingCommand => "Missing command."
  | noSuchCommand name similar => s!"No such command {Text.quoted name}.{suggestion similar}"
  | noSuchOption name similar => s!"No such option {Text.quoted name}.{suggestion similar}"
  | noValue option => s!"Option {Text.quoted option} requires an argument."
  | needlessValue option => s!"Option {Text.quoted option} does not take a value."
  | missingArgument name => s!"Missing argument '{name}'."
  | missingOption name => s!"Missing option '{name}'."
  | unexpected [argument] => s!"Got unexpected extra argument ({argument})"
  | unexpected arguments =>
    let shown := " ".intercalate arguments
    s!"Got unexpected extra arguments ({shown})"
  | notChoice option value choices =>
    let shown := ", ".intercalate (choices.map Text.quoted)
    s!"Invalid value for '{option}': {Text.quoted value} is not one of {shown}."
  | notInteger option value =>
    s!"Invalid value for '{option}': {Text.quoted value} is not a valid integer range."
  | belowZero option n => s!"Invalid value for '{option}': {n} is not in the range x>=0."
  | badValue hint message => s!"Invalid value for {hint}: {message}"

/-- Options with their values in the order of their occurrence, and arguments. -/
structure Words where
  options : List (String × String) := []
  arguments : List String := []
  /-- Whether help is asked for. -/
  help : Bool := false
deriving DecidableEq, Repr

namespace Words

def value? (w : Words) (name : String) : Option String :=
  (w.options.reverse.find? fun e => e.1 = name).map (·.2)

def valuesOf (w : Words) (name : String) : List String :=
  (w.options.filter fun e => e.1 = name).map (·.2)

/-- The names of the options that occur, in the order of first occurrence. -/
def names (w : Words) : List String := (w.options.map (·.1)).eraseDups

def isOption (word : String) : Bool :=
  match word.toList with
  | '-' :: _ :: _ => true
  | _ => false

/-- The name of an option, and the value that follows an equals sign. -/
def splitOption (word : String) : String × Option String :=
  let s := word.toList
  let name := String.ofList (s.takeWhile (· ≠ '='))
  match s.dropWhile (· ≠ '=') with
  | [] => (name, none)
  | _ :: value => (name, some (String.ofList value))

def helpName : String := "--help"

/-- An unknown option: two dashes introduce a name, which may be mistyped, one dash single
letters. -/
def unknownOption (known : List String) (word : String) : Misuse :=
  match word.toList with
  | '-' :: '-' :: _ =>
    let name := (splitOption word).1
    .noSuchOption name (Text.closeWords name (helpName :: known))
  | _ => .noSuchOption (Text.take 2 word) []

/-- A word that is an option: help, an option with its value attached, or one that waits for its
value. -/
inductive Reading where
  | help
  | complete (name value : String)
  | waiting (name : String)

/-- Reads a word as one of the known options. -/
def readOption (known : List String) (word : String) : Except Misuse Reading :=
  match splitOption word with
  | (name, value) =>
    if name = helpName then
      if value.isSome then .error (.needlessValue name) else .ok .help
    else if known.contains name then
      match value with
      | some v => .ok (.complete name v)
      | none => .ok (.waiting name)
    else .error (unknownOption known word)

/-- Puts an option before the words that follow. -/
def withOption (name value : String) (w : Words) : Words :=
  { w with options := (name, value) :: w.options }

/-- Sorts words into options and arguments, which may be mixed; where they may not, the first
argument ends the options. -/
def scan (known : List String) (mixed : Bool) : List String → Except Misuse Words
  | [] => .ok {}
  | word :: rest =>
    if word = "--" then .ok { arguments := rest }
    else if isOption word then
      match readOption known word, rest with
      | .error misuse, _ => .error misuse
      | .ok .help, rest => (scan known mixed rest).map fun w => { w with help := true }
      | .ok (.complete name value), rest => (scan known mixed rest).map (withOption name value)
      | .ok (.waiting name), [] => .error (.noValue name)
      | .ok (.waiting name), value :: rest => (scan known mixed rest).map (withOption name value)
    else if mixed then
      (scan known mixed rest).map fun w => { w with arguments := word :: w.arguments }
    else .ok { arguments := word :: rest }

end Words
end ComparativeLaw.CommandLine

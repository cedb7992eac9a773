import ComparativeLaw.Schema.Problem
import ComparativeLaw.Topic

/-!
Reading values that a schema describes. All problems of a value are collected: first those of the
fields in the order of the schema, then the fields that it does not know.
-/
namespace ComparativeLaw.Schema

abbrev Checked (α : Type) := Except (List Problem) α

/-- A value with one problem of its own. -/
def refuse {α : Type} (flaw : Flaw) : Checked α := .error [⟨[], flaw⟩]

namespace Checked

variable {α : Type}

def problems : Checked α → List Problem
  | .ok _ => []
  | .error ps => ps

/-- The outcome seen from one step further up. -/
def under (step : Step) (c : Checked α) : Checked α :=
  c.mapError fun ps => ps.map (Problem.under step)

end Checked

/-- The value, unless one of its parts has a problem. -/
def gather {α : Type} (parts : List (List Problem)) (value : Checked α) : Checked α :=
  match parts.flatten with
  | [] => value
  | ps => .error ps

abbrev Fields := List (String × Json)

section Fields

variable {α : Type}

def required (read : Json → Checked α) (o : Fields) (name : String) : Checked α :=
  match Table.get? o name with
  | some j => (read j).under (.key name)
  | none => .error [⟨[.key name], .missing⟩]

def defaulted (read : Json → Checked α) (fallback : α) (o : Fields) (name : String) : Checked α :=
  match Table.get? o name with
  | some j => (read j).under (.key name)
  | none => .ok fallback

def extras (names : List String) (o : Fields) : List Problem :=
  (o.filter fun e => !names.contains e.1).map fun e => ⟨[.key e.1], .extraForbidden⟩

/-- Reads fields whose names are free of surrogates; one that is not is the only problem. -/
def wellNamed (read : Fields → Checked α) (o : Fields) : Checked α :=
  if o.any fun e => Text.hasSurrogate e.1 then refuse .stringUnicode else read o

/-- Reads the fields of an object; any other value has the given flaw. -/
def object (flaw : Flaw) (read : Fields → Checked α) : Json → Checked α
  | .object o => wellNamed read o
  | _ => refuse flaw

def nullable (read : Json → Checked α) : Json → Checked (Option α)
  | .null => .ok none
  | j => (read j).map some

def itemsFrom (read : Json → Checked α) (n : Nat) : List Json → Checked (List α)
  | [] => .ok []
  | j :: js =>
    let head := (read j).under (.index n)
    let tail := itemsFrom read (n + 1) js
    gather [head.problems, tail.problems] do return (← head) :: (← tail)

def items (read : Json → Checked α) : Json → Checked (List α)
  | .list js => itemsFrom read 0 js
  | _ => refuse .listType

/-- A list of at least so many items; their own problems come first. -/
def itemsAtLeast (least : Nat) (read : Json → Checked α) (j : Json) : Checked (List α) := do
  let xs ← items read j
  if xs.length < least then refuse (.tooShort least xs.length)
  return xs

/-- The outcome seen from the mapping that holds it under a key. -/
def underEntry (key : String) (c : Checked α) : Checked α := c.under (.key (Text.lossy key))

/-- A key of a mapping; its problems are marked as problems of the key. -/
def keyOf (read : Json → Checked α) (key : String) : Checked α :=
  underEntry key ((read (.text key)).under (.key "[key]"))

def entries {β : Type} (readKey : Json → Checked α) (read : Json → Checked β) :
    Fields → Checked (List (α × β))
  | [] => .ok []
  | (k, j) :: rest =>
    let key := keyOf readKey k
    let value := underEntry k (read j)
    let tail := entries readKey read rest
    gather [key.problems, value.problems, tail.problems] do return (← key, ← value) :: (← tail)

def mapping {β : Type} (readKey : Json → Checked α) (read : Json → Checked β) :
    Json → Checked (List (α × β))
  | .object o => entries readKey read o
  | _ => refuse .dictType

end Fields

def anything (j : Json) : Checked Json := .ok j

def text : Json → Checked String
  | .text s => .ok s
  | _ => refuse .stringType

/-- Reads a text that is free of surrogates; any other value has the given flaw. -/
def wellFormed {α : Type} (flaw : Flaw) (read : String → Checked α) : Json → Checked α
  | .text s => if Text.hasSurrogate s then refuse .stringUnicode else read s
  | _ => refuse flaw

def nonEmptyText : Json → Checked String :=
  wellFormed .stringType fun s => if s.isEmpty then refuse .stringTooShort else .ok s

/-- The member of a vocabulary, by its code. -/
def member (α : Type) [Vocabulary α] : Json → Checked α :=
  let foreign : Flaw := .enum (Vocabulary.codes α)
  wellFormed foreign fun s =>
    match (Vocabulary.ofCode? s : Option α) with
    | some a => .ok a
    | none => refuse foreign

def topic : Json → Checked Topic
  | .text s =>
    match Topic.ofText? s with
    | some t => .ok t
    | none => refuse (.unknownTopic (Text.quoted s))
  | j => member Topic j

end ComparativeLaw.Schema

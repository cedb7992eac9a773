import ComparativeLaw.Fault
import ComparativeLaw.Jurisdiction.Basic

namespace ComparativeLaw.Json

/-- The double of a whole number, a number text, a truth value or a double. -/
def toFloat : Json → Except Fault Float
  | bool b => .ok (if b then 1.0 else 0.0)
  | int n =>
    let x := (Numeral.ofInt n).toFloat
    if x.isFinite then .ok x else .error .overflow
  | float x => .ok x
  | text s =>
    match Numeral.read? s with
    | some n => .ok n.toFloat
    | none => .error (.complaint (.notNumber (Text.quoted s)))
  | null | list _ | object _ => .error .wrongKind

def truncated (x : Float) : Except Fault Int :=
  match truncate? x with
  | some n => .ok n
  | none => .error (if x.isNaN then .complaint .nanInteger else .overflow)

def belowZero : Json → Except Fault Bool
  | bool _ => .ok false
  | int n => .ok (n < 0)
  | float x => .ok (x < 0.0)
  | null | text _ | list _ | object _ => .error .wrongKind

/-- The first characters of a text, as many as a complaint shows of it. -/
def beginning (s : String) : String := String.ofList (s.toList.take 200)

/-- The whole number of a value; fractions are cut off. -/
def toInt : Json → Except Fault Int
  | bool b => .ok (if b then 1 else 0)
  | int n => .ok n
  | float x => truncated x
  | text s =>
    match Text.readInteger s with
    | .ok n => .ok n
    | .error (.tooLong digits) => .error (.complaint (.longInteger digits))
    | .error .malformed => .error (.complaint (.notInteger (beginning (Text.quoted s))))
  | null | list _ | object _ => .error .wrongKind

def toTopic (j : Json) : Except Fault Topic :=
  match Topic.ofText? j.plain with
  | some t => .ok t
  | none => .error (.complaint (.unknownTopic j.shown))

/-- The member of a vocabulary whose code the value is. -/
def toMember {α : Type} [Vocabulary α] (j : Json) : Except Fault α :=
  let found : Option α := match j with
    | text s => Vocabulary.ofCode? s
    | _ => none
  match found with
  | some a => .ok a
  | none => .error (.complaint (.notMember j.shown (Vocabulary.title α)))

/-- The elements of a value that has some: the characters of a text, the items of a list, the keys
of an object. -/
def toItems : Json → Except Fault (List Json)
  | text s => .ok ((Text.characters s).map text)
  | list items => .ok items
  | object fields => .ok (fields.map fun e => text e.1)
  | _ => .error .wrongKind

def toText : Json → Except Fault String
  | text s => .ok s
  | _ => .error .wrongKind

/-- The text of a value that is asked for a text's parts. -/
def toWords : Json → Except Fault String
  | text s => .ok s
  | _ => .error .noPart

/-- The field of an object under a name that has to be there. -/
def toField (key : String) (j : Json) : Except Fault Json :=
  match j, j.field? key with
  | _, some x => .ok x
  | object _, none => .error .noSuchName
  | _, none => .error .wrongKind

/-- A jurisdiction given by its code; the name defaults to the code, the tradition to the common
law. -/
def toJurisdiction (j : Json) : Except Fault Jurisdiction :=
  match j with
  | object _ => do
    let code ← j.toField "code"
    let tradition ← match j.field? "tradition" with
      | some t => t.toMember
      | none => .ok Tradition.commonLaw
    return { code := .ofJson code, name := (j.field? "name").getD code, tradition }
  | _ => .error .noPart

/-- A reference: a jurisdiction by itself, or the text of any other value. -/
def toReference (j : Json) : Except Fault Reference :=
  match j with
  | object _ => j.toJurisdiction.map Reference.known
  | _ => .ok (.text j.plain)

end ComparativeLaw.Json

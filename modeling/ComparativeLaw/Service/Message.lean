import ComparativeLaw.Fault
import ComparativeLaw.Service.Target
import ComparativeLaw.Text.Case
import ComparativeLaw.Text.Encoding

namespace ComparativeLaw

structure Request where
  method : String
  /-- The path that the target names. -/
  path : List Char
  headers : List (String × String) := []
  body : List UInt8 := []

/-- What a response carries. -/
inductive Content where
  | json (j : Json)
  | plain (s : String)
  /-- A data text that is announced and not sent. -/
  | withheld

structure Response where
  status : Nat
  content : Content
  /-- The identifier of the run, unless the request broke the service. -/
  run : Option String

namespace Request

def header? (r : Request) (name : String) : Option String :=
  (r.headers.find? fun h => Text.lower h.1 = Text.lower name).map (·.2)

def isAscii (s : String) : Bool := s.toList.all fun c => c.toNat < 128

/-- The request for a target. One with a text that has no bytes cannot be sent; headers are written
in ASCII. -/
def of (method target : String) (headers : List (String × String)) (body : String) :
    Except Fault Request := do
  let t ← Target.read target.toList
  if !headers.all fun h => isAscii h.1 && isAscii h.2 then throw .unwritable
  let bytes ← (Text.bytes? body).elim (.error .unwritable) .ok
  t.checkScheme
  return { method, path := t.named, headers, body := bytes.toList }

def verb (r : Request) : String := Text.upper r.method

/-- Whether a content type announces a data text. -/
def announcesData (contentType : String) : Bool :=
  let name := Text.trimBy Text.isBlank (contentType.toList.takeWhile (· ≠ ';'))
  match (Text.pieces '/' (Text.lowerChars name)).map String.ofList with
  | ["application", kind] => kind = "json" || "+json".toList.isSuffixOf kind.toList
  | _ => false

inductive Body where
  | empty
  | data (j : Json)
  /-- A body that does not announce a data text. -/
  | unannounced
  /-- Not the data text that was announced, and the place where it goes wrong. -/
  | malformed (offset : Nat)
  /-- Bytes that are no text, or a data text beyond the bounds of the reader. -/
  | unreadable

def readData (bytes : List UInt8) : Body :=
  match Text.ofBytes? bytes with
  | none => .unreadable
  | some s =>
    match Json.readAll s with
    | .ok j => .data j
    | .error (.wrong _ remaining) => .malformed (Json.position s remaining).2.2
    | .error (.longInteger _) | .error .tooDeep => .unreadable

def readBody (r : Request) : Body :=
  if r.body.isEmpty then .empty
  else if (r.header? "Content-Type").any announcesData then readData r.body
  else .unannounced

end Request

mutual

/-- A value with null for every number that is not finite. -/
def Json.sendable : Json → Json
  | .float x => if x.isFinite then .float x else .null
  | .list items => .list (sendableItems items)
  | .object fields => .object (sendableFields fields)
  | .null => .null
  | .bool b => .bool b
  | .int n => .int n
  | .text s => .text s

def Json.sendableItems : List Json → List Json
  | [] => []
  | j :: js => j.sendable :: sendableItems js

def Json.sendableFields : List (String × Json) → List (String × Json)
  | [] => []
  | (k, j) :: fields => (k, j.sendable) :: sendableFields fields

end

mutual

/-- Whether a value holds a surrogate in any of its texts. -/
def Json.hasSurrogate : Json → Bool
  | .text s => Text.hasSurrogate s
  | .list items => itemsHaveSurrogate items
  | .object fields => fieldsHaveSurrogate fields
  | .null | .bool _ | .int _ | .float _ => false

def Json.itemsHaveSurrogate : List Json → Bool
  | [] => false
  | j :: js => j.hasSurrogate || itemsHaveSurrogate js

def Json.fieldsHaveSurrogate : List (String × Json) → Bool
  | [] => false
  | (k, j) :: fields => Text.hasSurrogate k || j.hasSurrogate || fieldsHaveSurrogate fields

end

/-- The content as it is sent; one that holds a surrogate cannot be. -/
def Content.sent? : Content → Option Content
  | .json j => if j.hasSurrogate then none else some (.json j.sendable)
  | .plain s => if Text.hasSurrogate s then none else some (.plain s)
  | .withheld => some .withheld

/-- What is left of the content for who asks for the head of a response alone. -/
def Content.head : Content → Content
  | .plain _ => .plain ""
  | .json _ | .withheld => .withheld

end ComparativeLaw

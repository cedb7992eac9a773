import ComparativeLaw.Json.Basic

/-!
Codes of jurisdictions. A code is a text, as a rule; any other value is kept as it was given. Codes
that count as equal have one key in common, and only a value that is not made of others is a key.
-/
namespace ComparativeLaw

inductive Code where
  | text (s : String)
  /-- A code that is no text. -/
  | value (j : Json)
deriving Inhabited, Repr

namespace Code

instance : Coe String Code := ⟨text⟩

def ofJson : Json → Code
  | .text s => text s
  | j => value j

def toJson : Code → Json
  | text s => .text s
  | value j => j

/-- The code within other text. -/
def plain : Code → String
  | text s => s
  | value j => j.plain

def shown (c : Code) : String := c.toJson.shown

def text? : Code → Option String
  | text s => some s
  | value _ => none

def is (c : Code) (s : String) : Bool := c.text? = some s

def isText (c : Code) : Bool := c.text?.isSome

/-- What tells codes apart. -/
inductive Key where
  | text (s : String)
  /-- The text that equal values have in common. -/
  | value (shared : String)
deriving DecidableEq, Repr

def key : Code → Key
  | text s => .text s
  | value j => .value j.key

/-- Whether something can be kept under a code. -/
def isKey (c : Code) : Bool := c.toJson.isScalar

/-- The exact size of a number after that of all others: below them, among them or above them. -/
def size? : Json → Option (Int × Rat)
  | .bool b => some (0, if b then 1 else 0)
  | .int n => some (0, n)
  | .float x =>
    match Printed.ofFloat x with
    | .nan => none
    | .infinite negative => some (if negative then -1 else 1, 0)
    | .zero _ => some (0, 0)
    | .positive negative m =>
      let q : Rat := m.toFraction.num / m.toFraction.den
      some (0, if negative then -q else q)
  | _ => none

def isSmaller (a b : Json) : Bool :=
  match size? a, size? b with
  | some x, some y => x.1 < y.1 || x.1 = y.1 && x.2 < y.2
  | _, _ => false

def isNumber (c : Code) : Bool :=
  match c with
  | value (.bool _) | value (.int _) | value (.float _) => true
  | _ => false

/-- Codes in increasing order: texts by their characters, numbers by size. Codes of several kinds
have no order. -/
def sorted? (codes : List Code) : Option (List Code) :=
  if codes.length < 2 then some codes
  else if codes.all isText then
    some (codes.mergeSort fun a b => Text.precedes a.plain b.plain)
  else if codes.all isNumber then
    some (codes.mergeSort fun a b => !isSmaller b.toJson a.toJson)
  else none

end Code
end ComparativeLaw

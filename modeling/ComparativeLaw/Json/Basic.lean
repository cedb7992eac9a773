import ComparativeLaw.Number.Scalar
import ComparativeLaw.Table
import ComparativeLaw.Text.Quoted

/-!
The values of data files and requests. A number is whole or a double as it was written, and the
fields of an object keep their order.
-/
namespace ComparativeLaw

inductive Json where
  | null
  | bool (b : Bool)
  | int (n : Int)
  | float (x : Float)
  | text (s : String)
  | list (items : List Json)
  | object (fields : List (String × Json))
deriving Inhabited, Repr

namespace Json

/-- Where a value is asked for, a text stands for itself. -/
instance : Coe String Json := ⟨text⟩

instance (n : Nat) : OfNat Json n := ⟨int n⟩

def ofText? (s : Option String) : Json := s.elim null text

def ofInt? (n : Option Int) : Json := n.elim null int

def texts (ss : List String) : Json := list (ss.map text)

/-- The field of an object; other values have no fields. -/
def field? (key : String) : Json → Option Json
  | object fields => Table.get? fields key
  | _ => none

/-- The value of a field, null if it is absent. -/
def fieldD (key : String) (j : Json) : Json := (j.field? key).getD null

/-- Whether a value is not made of other values. -/
def isScalar : Json → Bool
  | list _ | object _ => false
  | _ => true

/-- Whether a value counts as absent where a default may replace it: null, false, zero and
everything empty. -/
def isVoid : Json → Bool
  | null => true
  | bool b => !b
  | int n => n = 0
  | float x => x == 0.0
  | text s => s.isEmpty
  | list items => items.isEmpty
  | object fields => fields.isEmpty

/-- The value unless it counts as absent. -/
def orElse (j fallback : Json) : Json := if j.isVoid then fallback else j

mutual

/-- A value as messages show it, with texts in quotation marks. -/
def shown : Json → String
  | null => "None"
  | bool b => if b then "True" else "False"
  | int n => toString n
  | float x => Scalar.shortest x
  | text s => Text.quoted s
  | list items => "[" ++ shownItems items ++ "]"
  | object fields => "\x7b" ++ shownFields fields ++ "\x7d"

def shownItems : List Json → String
  | [] => ""
  | [x] => shown x
  | x :: xs => shown x ++ ", " ++ shownItems xs

def shownFields : List (String × Json) → String
  | [] => ""
  | [(k, x)] => Text.quoted k ++ ": " ++ shown x
  | (k, x) :: xs => Text.quoted k ++ ": " ++ shown x ++ ", " ++ shownFields xs

end

/-- The whole number that a double is, if it is one. -/
def ofDouble (x : Float) : Json :=
  match truncate? x with
  | some n => if x.floor == x then int n else float x
  | none => float x

mutual

/-- The one form of the values that count as equal: truth values and whole doubles are whole
numbers, and the fields of an object stand in the order of their names. -/
def canonical : Json → Json
  | null => null
  | bool b => int (if b then 1 else 0)
  | int n => int n
  | float x => ofDouble x
  | text s => text s
  | list items => list (canonicalItems items)
  | object fields => object ((canonicalFields fields).mergeSort fun a b => !(b.1 < a.1))

def canonicalItems : List Json → List Json
  | [] => []
  | x :: xs => canonical x :: canonicalItems xs

def canonicalFields : List (String × Json) → List (String × Json)
  | [] => []
  | (k, x) :: xs => (k, canonical x) :: canonicalFields xs

end

/-- A text that equal values have in common, and no others. -/
def key (j : Json) : String := j.canonical.shown

/-- The text of a value: a text stands for itself, anything else is shown. -/
def plain : Json → String
  | text s => s
  | j => j.shown

end Json
end ComparativeLaw

import ComparativeLaw.Json.Reader
import ComparativeLaw.Text.Blank
import ComparativeLaw.Text.Utf8

/-!
Paths. Between its slashes a path may hold segments of dots and escaped bytes. Dots are resolved
before the escapes, so an escaped dot is a name like any other.
-/
namespace ComparativeLaw.Path

def segments (path : List Char) : List String := (Text.pieces '/' path).map String.ofList

def ofSegments (segments : List String) : List Char := ("/".intercalate segments).toList

/-- Goes one segment further from a place, given by the segments to it, last first: one dot stays
there, two dots go back. -/
def enter (place : List String) (segment : String) : List String :=
  match segment with
  | "." => place
  | ".." => if place = [""] then place else place.drop 1
  | _ => segment :: place

def withoutDots (path : List Char) : List Char :=
  ofSegments ((segments path).foldl enter []).reverse

/-- The bytes of characters with every escaped one in place of its escape. -/
def bytes : List Char → List UInt8
  | '%' :: a :: b :: s =>
    match Json.hexValue? a, Json.hexValue? b with
    | some m, some n => (16 * m + n).toUInt8 :: bytes s
    | _, _ => '%'.toNat.toUInt8 :: bytes (a :: b :: s)
  | c :: s => (String.singleton c).toUTF8.toList ++ bytes s
  | [] => []

/-- A path without its escapes; what an escape is made of may be escaped itself. -/
def unescaped (path : List Char) : List Char :=
  Text.Utf8.lossy (bytes ((Text.pointsOf path).map Char.ofNat))

def withoutSlashes (path : List Char) : List Char := (path.reverse.dropWhile (· = '/')).reverse

def withoutBreak (path : List Char) : List Char :=
  match path.reverse with
  | '\n' :: s => s.reverse
  | _ => path

/-- Where a path leads. One that is not `known` leads on to itself without the slashes at its end,
if that one is; the dots and escapes there are resolved again. `fuel` bounds how often a path may
lead on. -/
def settled? (known : List Char → Bool) (fuel : Nat) (path : List Char) : Option (List Char) :=
  let shorter := withoutSlashes path
  if known path || !known shorter then some path
  else
    match fuel with
    | 0 => none
    | fuel + 1 => settled? known fuel (unescaped (withoutDots shorter))

end ComparativeLaw.Path

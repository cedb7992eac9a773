import ComparativeLaw.Json.Reader
import ComparativeLaw.Text.Blank
import ComparativeLaw.Text.Case
import ComparativeLaw.Text.Digit

namespace ComparativeLaw.Host

/-- Whether a text is a number of an address with dots: at most 255, and without a zero in front. -/
def isOctet (s : List Char) : Bool :=
  match s with
  | [] => false
  | '0' :: _ :: _ => false
  | _ => s.length ≤ 3 && s.all Text.isDigit && (Text.readDigits? s).any (· ≤ 255)

def isDotted (s : List Char) : Bool :=
  let octets := Text.pieces '.' s
  octets.length = 4 && octets.all isOctet

/-- The states after a character. Four runs of digits with any character between two of them are
read in the states 0 to 7: an even state is before a run, the odd one after it is within. -/
def dottedStep (states : List Nat) (c : Char) : List Nat :=
  (states.flatMap fun n =>
    (if Text.isDigit c then [if n % 2 = 0 then n + 1 else n] else []) ++
      (if n % 2 = 1 && n < 7 then [n + 1] else [])).eraseDups

def looksDotted (s : List Char) : Bool := (s.foldl dottedStep [0]).contains 7

/-- Whether a text is a group of an address with colons. -/
def isGroup (s : List Char) : Bool :=
  !s.isEmpty && s.length ≤ 4 && s.all fun c => (Json.hexValue? c).isSome

/-- Whether parts may stand on one side of the gap in an address: groups, or nothing. -/
def isSide (parts : List (List Char)) : Bool :=
  parts = [[]] || (!parts.isEmpty && parts.all isGroup)

/-- The groups of an address, where an address with dots at the end counts for two. -/
def groups (s : List Char) : List (List Char) :=
  let parts := Text.pieces ':' s
  match parts.getLast? with
  | some last => if isDotted last then parts.dropLast ++ [['0'], ['0']] else parts
  | none => parts

/-- Whether a text is an address with colons: eight groups, or fewer with one gap among them. -/
def isColoned (s : List Char) : Bool :=
  let parts := groups s
  if parts.all isGroup then parts.length = 8
  else
    let before := parts.take 1 ++ (parts.drop 1).takeWhile (!·.isEmpty)
    let after := parts.drop (before.length + 1)
    isSide before && isSide after && ((before ++ after).filter (!·.isEmpty)).length < 8

/-- Whether a text is an address with colons and, after a percent sign, the name of its scope, if
it has one. -/
def isScoped (s : List Char) : Bool :=
  isColoned (s.takeWhile (· ≠ '%')) &&
    match s.dropWhile (· ≠ '%') with
    | [] => true
    | _ :: scope => !scope.isEmpty && !scope.contains '%'

/-- The letters of the common scripts that no other letter is written for. -/
def letterRanges : List (Nat × Nat) :=
  [(0xDF, 0xF6), (0xF8, 0x131), (0x134, 0x13E), (0x141, 0x148), (0x14A, 0x17E), (0x180, 0x1C3),
   (0x1CD, 0x1F0), (0x1F4, 0x2AF), (0x370, 0x373), (0x376, 0x377), (0x37B, 0x37D), (0x3AC, 0x3CE),
   (0x3D7, 0x3EF), (0x430, 0x481), (0x48A, 0x52F), (0x561, 0x586), (0x5D0, 0x5EA), (0x620, 0x63F),
   (0x641, 0x64A), (0x671, 0x674), (0x679, 0x6D3), (0x904, 0x939), (0xE01, 0xE30), (0xE32, 0xE32),
   (0xE40, 0xE46), (0x10D0, 0x10FA), (0x1E00, 0x1E99), (0x1E9F, 0x1EFF), (0x3041, 0x3096),
   (0x30A1, 0x30FA), (0x3400, 0x4DBF), (0x4E00, 0x9FFF), (0xAC00, 0xD7A3)]

/-- The marks of these scripts that are written on a letter. -/
def markRanges : List (Nat × Nat) :=
  [(0x900, 0x903), (0x93A, 0x93B), (0x93E, 0x94D), (0xE31, 0xE31), (0xE34, 0xE3A), (0xE47, 0xE4E)]

def isMark (c : Char) : Bool := Text.inRanges markRanges c.toNat

/-- Whether a letter is written from right to left. -/
def isLeftward (c : Char) : Bool := Text.inRanges [(0x5D0, 0x5EA), (0x620, 0x6D3)] c.toNat

def isLabelChar (c : Char) : Bool :=
  c = '-' || Text.isDigit c || ('a' ≤ c && c ≤ 'z') || isMark c ||
    (Text.inRanges letterRanges c.toNat && Text.lowerOf c = [c])

/-- Whether all letters of a label are written in one direction, and it starts with a letter if that
is from right to left. -/
def isDirected (s : List Char) : Bool :=
  !s.any isLeftward ||
    (s.head?.any isLeftward && s.all fun c => isLeftward c || Text.isDigit c || c = '-')

def isLabel (s : List Char) : Bool :=
  isDirected s && !s.isEmpty && s.length ≤ 63 && s.all isLabelChar &&
    !s.head?.any (fun c => c = '-' || isMark c) && s.getLast? ≠ some '-' &&
    (s.drop 2).take 2 ≠ ['-', '-']

/-- The characters that end a label. -/
def isDot (c : Char) : Bool := ['.', '。', '．', '｡'].contains c

/-- The labels of a name, without the empty one that a dot leaves at the end. -/
def labels (s : List Char) : List (List Char) :=
  let parts := Text.pieces '.' ((Text.lowerChars s).map fun c => if isDot c then '.' else c)
  if parts.length > 1 && parts.getLast? = some [] then parts.dropLast else parts

def isHost (s : List Char) : Bool :=
  if looksDotted s then isDotted s
  else
    match s, s.getLast? with
    | '[' :: address, some ']' => isScoped address.dropLast
    | _, _ => s.all (·.toNat < 128) || (labels s).all isLabel

end ComparativeLaw.Host

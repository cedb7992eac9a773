import ComparativeLaw.Text.Case

namespace ComparativeLaw.Token

/-- The ASCII punctuation and the curly quotation marks. -/
def isPunctuation (c : Char) : Bool :=
  Text.inRanges [(0x21, 0x2F), (0x3A, 0x40), (0x5B, 0x60), (0x7B, 0x7E), (0x2018, 0x2019),
    (0x201C, 0x201D)] c.toNat

/-- A word without the punctuation around it, if anything is left. -/
def ofWord (word : List Char) : List Char :=
  let core := Text.trimBy isPunctuation word
  if core.isEmpty then word else core

def ofChars (s : List Char) : List (List Char) := (Text.words (Text.lowerChars s)).map ofWord

def ofText (s : String) : List String := (ofChars s.toList).map String.ofList

end ComparativeLaw.Token

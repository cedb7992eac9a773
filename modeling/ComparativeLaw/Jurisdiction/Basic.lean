import ComparativeLaw.Jurisdiction.Code
import ComparativeLaw.Vocabulary

namespace ComparativeLaw

inductive Tradition where
  | commonLaw | civilLaw | mixed
deriving DecidableEq, Repr, Inhabited

namespace Tradition

def code : Tradition → String
  | commonLaw => "common_law"
  | civilLaw => "civil_law"
  | mixed => "mixed"

def label : Tradition → String
  | commonLaw => "Common Law"
  | civilLaw => "Civil Law"
  | mixed => "Mixed Legal Tradition"

instance : Vocabulary Tradition := ⟨"LegalTradition", [commonLaw, civilLaw, mixed], code⟩

end Tradition

/-- A legal system with rules of its own. -/
structure Jurisdiction where
  code : Code
  /-- A text, as a rule; any other value is shown in its place. -/
  name : Json
  tradition : Tradition := .commonLaw
deriving Repr, Inhabited

namespace Jurisdiction

def nameText (j : Jurisdiction) : String := j.name.plain

def label (j : Jurisdiction) : String := s!"{j.nameText} ({j.code.plain})"

/-- The bare jurisdiction of an unregistered code, named by the code. -/
def ofCode (code : String) : Jurisdiction := { code := code, name := code }

def toJson (j : Jurisdiction) : Json :=
  .object [("code", j.code.toJson), ("name", j.name), ("tradition", .text j.tradition.code)]

end Jurisdiction

def canonicalCode (s : String) : String := Text.upper (Text.strip s)

/-- A reference to a jurisdiction, by text or by itself. -/
inductive Reference where
  | text (s : String)
  | known (j : Jurisdiction)
deriving Repr

def Reference.code : Reference → Code
  | text s => canonicalCode s
  | known j => j.code

end ComparativeLaw

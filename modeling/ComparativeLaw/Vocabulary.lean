import ComparativeLaw.Text.Case

namespace ComparativeLaw

/-- A finite kind with a code for each member; complaints name the kind by its title. -/
class Vocabulary (α : Type) where
  title : String
  /-- Every member once, in the order of declaration. -/
  all : List α
  code : α → String

namespace Vocabulary

variable {α : Type} [Vocabulary α]

def ofCode? (s : String) : Option α := (all : List α).find? fun a => code a = s

def codes (α : Type) [Vocabulary α] : List String := (all : List α).map code

end Vocabulary
end ComparativeLaw

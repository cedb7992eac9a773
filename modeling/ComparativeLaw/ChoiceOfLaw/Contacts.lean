import ComparativeLaw.ChoiceOfLaw.Resolution

namespace ComparativeLaw

/-- The contacts of a dispute by whether the registry knows their jurisdictions. Those that it does
not know are excluded and reported. -/
structure SortedContacts (α : Type) where
  usable : List Contact
  excluded : List (TraceLine α)
  unregistered : List Unregistered

namespace SortedContacts

variable {α : Type} [Scalar α]

def excludedLine (weight : ContactKind → α) (c : Contact) : TraceLine α :=
  { factor := c.kind.code, code := c.code, weight := weight c.kind, contribution := 0.0,
    note := "excluded: unknown jurisdiction" }

/-- Sorts the contacts of a dispute, each group in the order of the contacts. -/
def ofFacts (facts : Facts) (registry : Option Registry) (weight : ContactKind → α) :
    SortedContacts α :=
  let known (c : Contact) : Bool := Registry.accepts registry c.code
  let unknown := facts.contacts.filter fun c => !known c
  { usable := facts.contacts.filter known
    excluded := unknown.map (excludedLine weight)
    unregistered := unknown.map fun c => ⟨c.code, c.kind.code⟩ }

def candidates (s : SortedContacts α) : List String := firstSeen (s.usable.map (·.code))

/-- The usable contacts by kind. They are put in from the last one to the first, so that of several
contacts of a kind the first one stays. -/
def byKind (s : SortedContacts α) : Table ContactKind Contact :=
  Table.ofList (s.usable.reverse.map fun c => (c.kind, c))

/-- The usable contact that stands for a kind. -/
def first? (s : SortedContacts α) (kind : ContactKind) : Option Contact := s.byKind.get? kind

end SortedContacts
end ComparativeLaw

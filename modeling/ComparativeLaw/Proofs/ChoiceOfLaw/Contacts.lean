import ComparativeLaw.ChoiceOfLaw.Contacts
import ComparativeLaw.Proofs.Table

namespace ComparativeLaw

/-- A registry that knows two states and no other jurisdiction. -/
def Registry.twoStates : Registry := .ofList [.ofCode "US-NY", .ofCode "US-CA"]

namespace Facts

/-- The facts without the contacts of unknown jurisdictions. -/
def recognised (registry : Option Registry) (f : Facts) : Facts :=
  { f with contacts := f.contacts.filter fun c => Registry.accepts registry c.code }

/-- The contacts of unknown jurisdictions. -/
def unknown (registry : Option Registry) (f : Facts) : List Contact :=
  f.contacts.filter fun c => !Registry.accepts registry c.code

variable (registry : Option Registry) (f : Facts)

theorem unknown_recognised : (f.recognised registry).unknown registry = [] := by
  simp [unknown, recognised]

/-- Leaving the unrecognised contacts out once is enough. -/
theorem recognised_recognised :
    (f.recognised registry).recognised registry = f.recognised registry := by
  simp [recognised]

/-- Every contact is in one of the two groups. -/
theorem unknown_append_recognised :
    (f.unknown registry ++ (f.recognised registry).contacts).Perm f.contacts :=
  List.perm_append_comm.trans (List.filter_append_perm _ f.contacts)

end Facts

namespace SortedContacts

variable {α : Type} [Scalar α] (f : Facts) (registry : Option Registry) (weight : ContactKind → α)

omit [Scalar α] in
/-- Of the usable contacts of a kind, the first one stands for it. -/
theorem first?_eq_find? (s : SortedContacts α) (kind : ContactKind) :
    s.first? kind = s.usable.find? fun c => c.kind = kind := by
  rw [first?, byKind, Table.ofList, Table.get?_insertAll_last, ← List.map_reverse,
    List.reverse_reverse, List.find?_map, Option.map_map]
  exact (Option.or_none ..).trans Option.map_id'

/-- Sorting contacts is splitting them at the registry. -/
theorem ofFacts_eq : ofFacts f registry weight =
    { usable := (f.recognised registry).contacts
      excluded := (f.unknown registry).map (excludedLine weight)
      unregistered := (f.unknown registry).map fun c => ⟨c.code, c.kind.code⟩ } :=
  rfl

/-- The contacts of unknown jurisdictions are none of the usable ones. -/
@[simp] theorem usable_recognised : (ofFacts (f.recognised registry) registry weight).usable =
    (ofFacts f registry weight).usable := by
  rw [ofFacts_eq, Facts.recognised_recognised]
  rfl

@[simp] theorem excluded_recognised :
    (ofFacts (f.recognised registry) registry weight).excluded = [] := by
  rw [ofFacts_eq, Facts.unknown_recognised]
  rfl

@[simp] theorem candidates_recognised :
    (ofFacts (f.recognised registry) registry weight).candidates =
      (ofFacts f registry weight).candidates := by
  rw [candidates, usable_recognised, candidates]

end SortedContacts
end ComparativeLaw

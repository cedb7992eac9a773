import ComparativeLaw.ChoiceOfLaw.Contacts

namespace ComparativeLaw.Territorial

/-- The deciding kind and the fallback of a category. -/
def decidingKinds : Category → ContactKind × Option ContactKind
  | .tort | .procedure | .other => (.placeOfInjury, some .placeOfConduct)
  | .criminal => (.placeOfConduct, some .placeOfInjury)
  | .contract => (.placeOfContracting, some .placeOfNegotiation)
  | .property => (.locationOfSubjectMatter, none)

/-- The contact that decides, and whether it is the fallback. -/
def deciding? {α : Type} (s : SortedContacts α) (kinds : ContactKind × Option ContactKind) :
    Option (Contact × Bool) :=
  match s.first? kinds.1 with
  | some c => some (c, false)
  | none => (kinds.2.bind s.first?).map fun c => (c, true)

def reasoning (primary : ContactKind) (chosen : Contact) (fallback : Bool)
    (selected : Jurisdiction) : String :=
  if fallback then
    s!"{primary.code} is not established; the territorial rule falls back to " ++
      s!"{chosen.kind.code}, which points to {selected.nameText}."
  else s!"Under the territorial rule the {chosen.kind.code} ({selected.nameText}) governs."

variable {α : Type} [Scalar α]

def resolve (m : Materials α) (facts : Facts) : Except Fault (Resolution α) :=
  let kinds := decidingKinds facts.category
  let sorted : SortedContacts α := .ofFacts facts m.registry fun _ => 0.0
  match deciding? sorted kinds with
  | none => .error (.failure (.territorialContact facts.topic kinds.1 kinds.2))
  | some (chosen, fallback) =>
    let selected := Registry.select m.registry chosen.code
    .ok {
      selected
      approach := .territorial
      confidence := if fallback then m.policy.fallbackConfidence else m.policy.territorialConfidence
      trace := sorted.excluded ++ [{
        factor := chosen.kind.code, code := chosen.code, weight := 1.0, contribution := 1.0,
        note := if fallback then "fallback contact" else "primary contact" }]
      reasoning := reasoning kinds.1 chosen fallback selected
      scores := [(selected.code.plain, 1.0)]
      unregistered := sorted.unregistered }

end ComparativeLaw.Territorial

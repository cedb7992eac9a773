import ComparativeLaw.ChoiceOfLaw.Contacts

/-!
Interest analysis: which connected jurisdictions have a policy interest in the topic. One interested
jurisdiction, or several with the same rule, make a false conflict and its law applies; otherwise
the law of the forum applies by default.
-/
namespace ComparativeLaw.InterestAnalysis

variable {α : Type} [Scalar α]

/-- Whether the code of an interest is registered or the forum. -/
def admitted (registry : Option Registry) (forum : Code) (i : Interest) : Bool :=
  Registry.accepts registry i.code || forum.is i.code

/-- Whether an interest counts: its code is admitted and has a contact with the dispute or is the
forum. -/
def counts (registry : Option Registry) (connected : List String) (forum : Code) (i : Interest) :
    Bool :=
  admitted registry forum i && (connected.contains i.code || forum.is i.code)

def interestedCodes (registry : Option Registry) (connected : List String) (forum : Code)
    (interests : List Interest) : List String :=
  firstSeen ((interests.filter (counts registry connected forum)).map (·.code))

def ignoredLine (registry : Option Registry) (forum : Code) (i : Interest) : TraceLine α :=
  { factor := "policy_interest", code := i.code, weight := 0.0, contribution := 0.0,
    note := if admitted registry forum i then "ignored: no contact with the dispute"
      else "excluded: unknown jurisdiction" }

/-- Whether the rules of the jurisdictions differ, if the catalogue tells. -/
def diverge? (catalog : Option Catalog) (topic : Topic) (codes : List String) : Option Bool := do
  let c ← catalog
  match ← codes.mapM fun code => c.rule? (.text code) topic with
  | [] => some false
  | r :: rules => some (rules.any fun s => s != r)

structure Verdict where
  conflict : Conflict
  selected : Code
  reasoning : String
deriving Repr

def commaList (codes : List String) : String := ", ".intercalate codes

def unprovidedFor (topic : Topic) (forum : Code) : Verdict where
  conflict := .unprovidedFor
  selected := forum
  reasoning := s!"No connected jurisdiction asserts a policy interest in {topic.code}; " ++
    s!"this is an unprovided-for case and forum law ({forum.plain}) applies by default."

def onlyInterested (topic : Topic) (code : String) : Verdict where
  conflict := .falseConflict
  selected := code
  reasoning := s!"False conflict: only {code} has a legitimate policy interest in {topic.code}, " ++
    "so its law applies."

def agreeing (topic : Topic) (forum : Code) (first : String) (codes : List String) : Verdict :=
  let selected := if codes.any forum.is then forum.plain else first
  { conflict := .falseConflict
    selected
    reasoning := s!"False conflict: {commaList codes} are all interested in {topic.code} " ++
      s!"but their rules do not diverge; the law of {selected} applies." }

def conflicting (topic : Topic) (forum : Code) (basis : String) (codes : List String) :
    Verdict where
  conflict := .trueConflict
  selected := forum
  reasoning :=
    s!"True conflict: {commaList codes} each have legitimate policy interests in " ++
    s!"{topic.code} ({basis}). Forum law ({forum.plain}) is applied as a policy default, " ++
    "not as a finding that the forum's interest is stronger."

def verdict (catalog : Option Catalog) (topic : Topic) (forum : Code) (codes : List String) :
    Verdict :=
  match codes with
  | [] => unprovidedFor topic forum
  | [code] => onlyInterested topic code
  | first :: _ =>
    match diverge? catalog topic codes with
    | some false => agreeing topic forum first codes
    | some true => conflicting topic forum "rules diverge" codes
    | none => conflicting topic forum "divergence assumed, catalog cannot confirm" codes

def confidence (policy : Policy α) : Conflict → α
  | .falseConflict => policy.falseConflictConfidence
  | .trueConflict | .unprovidedFor => policy.trueConflictConfidence

def withNotes (reasoning : String) (notes : Json) : String :=
  if notes.isVoid then reasoning else s!"{reasoning} Policy notes: {notes.plain}"

def chosenValue (chosen : Bool) : α := if chosen then 1.0 else 0.0

/-- The trace line of a jurisdiction whose interest counts, with the policy it stated last. -/
def interestLine (facts : Facts) (selected : Code) (code : String) : TraceLine α :=
  { factor := "policy_interest", code, weight := 1.0,
    contribution := chosenValue (selected.is code),
    note := ((facts.interests.reverse.find? fun i => i.code = code).map (·.policy)).getD "" }

def resolve (m : Materials α) (facts : Facts) (forum : Reference) : Resolution α :=
  let sorted : SortedContacts α := .ofFacts facts m.registry fun _ => 0.0
  let codes := interestedCodes m.registry sorted.candidates forum.code facts.interests
  let ignored := facts.interests.filter fun i =>
    !counts m.registry sorted.candidates forum.code i
  let foreign := facts.interests.filter fun i => !admitted m.registry forum.code i
  let v := verdict m.catalog facts.topic forum.code codes
  let selected := Registry.select m.registry v.selected.plain
  let scores := codes.map fun code => (code, chosenValue (v.selected.is code))
  { selected
    approach := .interestAnalysis
    confidence := confidence m.policy v.conflict
    trace := sorted.excluded ++ ignored.map (ignoredLine m.registry forum.code) ++
      codes.map (interestLine facts v.selected)
    reasoning := withNotes v.reasoning facts.notes
    scores := if scores.isEmpty then [(selected.code.plain, 1.0)] else scores
    unregistered := sorted.unregistered ++ foreign.map (fun i => ⟨i.code, "policy_interest"⟩) ++
      Registry.missingForum m.registry (.text v.selected.plain)
    conflict := some v.conflict }

end ComparativeLaw.InterestAnalysis

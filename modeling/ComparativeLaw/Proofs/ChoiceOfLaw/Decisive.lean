import ComparativeLaw.Proofs.ChoiceOfLaw.Reports
import ComparativeLaw.Proofs.Jurisdiction.Canonical

namespace ComparativeLaw

variable {α : Type} [Scalar α] {m : Materials α} {f : Facts} {forum : Reference}
  {registry : Option Registry} {kind : ContactKind} {c : Contact}

namespace Facts

/-- The first contact of a kind that can be used: those of the kind before it all name jurisdictions
that are unknown. -/
structure FirstUsable (registry : Option Registry) (f : Facts) (kind : ContactKind) (c : Contact) :
    Prop where
  kind_eq : c.kind = kind
  known : Registry.accepts registry c.code = true
  first : ∃ before after, f.contacts = before ++ c :: after ∧
    ∀ b ∈ before, b.kind = kind → Registry.accepts registry b.code = false

def NoneUsable (registry : Option Registry) (f : Facts) (kind : ContactKind) : Prop :=
  ∀ c ∈ f.contacts, c.kind = kind → Registry.accepts registry c.code = false

end Facts

namespace SortedContacts

variable (f registry) (weight : ContactKind → α)

/-- Sorting does not show in what is looked for: the contacts are passed through in their order. -/
theorem first?_ofFacts (kind : ContactKind) : (ofFacts f registry weight).first? kind =
    f.contacts.find? fun c => Registry.accepts registry c.code = true ∧ c.kind = kind := by
  refine (first?_eq_find? ..).trans ((List.find?_filter ..).trans ?_)
  simp only [decide_eq_true_eq]

variable {f registry} {weight}

/-- The first contact of a kind is the first usable one. -/
theorem first?_eq_some :
    (ofFacts f registry weight).first? kind = some c ↔ f.FirstUsable registry kind c := by
  rw [first?_ofFacts, List.find?_eq_some_iff_append, decide_eq_true_iff]
  have hpassed (b : Contact) :
      (!decide (Registry.accepts registry b.code = true ∧ b.kind = kind)) = true ↔
        (b.kind = kind → Registry.accepts registry b.code = false) := by
    by_cases hb : b.kind = kind <;> simp [hb]
  simp only [hpassed]
  constructor
  · rintro ⟨⟨hknown, hkind⟩, hfirst⟩
    exact ⟨hkind, hknown, hfirst⟩
  · rintro ⟨hkind, hknown, hfirst⟩
    exact ⟨⟨hknown, hkind⟩, hfirst⟩

theorem first?_eq_none :
    (ofFacts f registry weight).first? kind = none ↔ f.NoneUsable registry kind := by
  rw [first?_ofFacts, List.find?_eq_none]
  refine forall₂_congr fun b _ => ?_
  by_cases hb : b.kind = kind <;> simp [hb]

end SortedContacts

/-- A resolution for the jurisdiction of one contact, which alone is scored. -/
structure Resolution.RestsOn (registry : Option Registry) (c : Contact) (confidence : α)
    (r : Resolution α) : Prop where
  selected : r.selected = Registry.select registry c.code
  code : r.selected.code = .text (canonicalCode c.code)
  confidence : r.confidence = confidence
  scores : r.scores = [(r.selected.code.plain, 1.0)]

namespace Territorial

/-- The contact that decides, with the confidence in it: the first usable one of the deciding kind
and, only where there is none, the first usable one of the fallback. -/
inductive Decides (m : Materials α) (f : Facts) : Contact → α → Prop
  | primary {c : Contact} (h : f.FirstUsable m.registry (decidingKinds f.category).1 c) :
    Decides m f c m.policy.territorialConfidence
  | fallback {c : Contact} {kind : ContactKind}
    (hnone : f.NoneUsable m.registry (decidingKinds f.category).1)
    (hkind : (decidingKinds f.category).2 = some kind) (h : f.FirstUsable m.registry kind c) :
    Decides m f c m.policy.fallbackConfidence

def Undecided (m : Materials α) (f : Facts) : Prop :=
  f.NoneUsable m.registry (decidingKinds f.category).1 ∧
    ∀ kind ∈ (decidingKinds f.category).2, f.NoneUsable m.registry kind

/-- The contact that the rule finds, and whether it is the fallback. -/
def found? (m : Materials α) (f : Facts) : Option (Contact × Bool) :=
  deciding? (SortedContacts.ofFacts f m.registry fun _ => (0.0 : α)) (decidingKinds f.category)

def confidenceIn (m : Materials α) (fallback : Bool) : α :=
  if fallback then m.policy.fallbackConfidence else m.policy.territorialConfidence

theorem found?_eq_none : found? m f = none ↔ Undecided m f := by
  unfold found? deciding? Undecided
  cases hfirst : (SortedContacts.ofFacts f m.registry fun _ => (0.0 : α)).first?
      (decidingKinds f.category).1 with
  | some c =>
    refine iff_of_false nofun fun h => ?_
    rw [SortedContacts.first?_eq_none.mpr h.1] at hfirst
    cases hfirst
  | none =>
    have hprimary := SortedContacts.first?_eq_none.mp hfirst
    simp only [Option.map_eq_none_iff, Option.bind_eq_none_iff, SortedContacts.first?_eq_none,
      Option.mem_def]
    exact (and_iff_right hprimary).symm

/-- The contact that is found decides. -/
theorem decides_of_found? {fallback : Bool} (h : found? m f = some (c, fallback)) :
    Decides m f c (confidenceIn m fallback) := by
  unfold found? deciding? at h
  split at h
  · next first hfirst =>
    cases h
    exact .primary (SortedContacts.first?_eq_some.mp hfirst)
  · next hfirst =>
    obtain ⟨second, hsecond, heq⟩ := Option.map_eq_some_iff.mp h
    obtain ⟨kind, hkind, hsecond⟩ := Option.bind_eq_some_iff.mp hsecond
    cases heq
    exact .fallback (SortedContacts.first?_eq_none.mp hfirst) hkind
      (SortedContacts.first?_eq_some.mp hsecond)

/-- The contact that decides is found. -/
theorem found?_of_decides {x : α} (h : Decides m f c x) :
    ∃ fallback, found? m f = some (c, fallback) ∧ x = confidenceIn m fallback := by
  unfold found? deciding?
  cases h with
  | primary h =>
    rw [SortedContacts.first?_eq_some.mpr h]
    exact ⟨false, rfl, rfl⟩
  | fallback hnone hkind h =>
    rw [SortedContacts.first?_eq_none.mpr hnone, hkind, Option.bind_some,
      SortedContacts.first?_eq_some.mpr h]
    exact ⟨true, rfl, rfl⟩

theorem resolve_of_found? {fallback : Bool} (h : found? m f = some (c, fallback)) :
    ∃ r, resolve m f = .ok r ∧ r.RestsOn m.registry c (confidenceIn m fallback) := by
  unfold found? at h
  simp only [resolve, h]
  exact ⟨_, rfl, rfl, Registry.code_select m.registry c.code, rfl, rfl⟩

/-- Where neither kind has a usable contact the facts do not suffice. -/
theorem resolve_of_undecided (h : Undecided m f) : resolve m f = .error (.failure
    (.territorialContact f.topic (decidingKinds f.category).1 (decidingKinds f.category).2)) := by
  have hnone := found?_eq_none.mpr h
  unfold found? at hnone
  simp only [resolve, hnone]

/-- How one contact settles a dispute before a forum. -/
structure SettledByOne (m : Materials α) (f : Facts) (forum : Reference) : Prop where
  decided : ∀ c x, Decides m f c x →
    ∃ r, Approach.territorial.resolve m f forum = .ok r ∧ r.RestsOn m.registry c x
  rests : ∀ r, Approach.territorial.resolve m f forum = .ok r →
    ∃ c x, Decides m f c x ∧ r.RestsOn m.registry c x
  /-- Facts are wanting exactly if no contact can decide, and nothing else goes wrong. -/
  wanting : ∀ e, Approach.territorial.resolve m f forum = .error e ↔ Undecided m f ∧
    e = .failure (.territorialContact f.topic (decidingKinds f.category).1
      (decidingKinds f.category).2)
  kind : (Failure.territorialContact f.topic (decidingKinds f.category).1
    (decidingKinds f.category).2).kind = "insufficient_facts"
  /-- Other facts, before another forum, with the same decisive contact. -/
  alike : ∀ f' forum' c x, Decides m f c x → Decides m f' c x →
    ∃ r r', Approach.territorial.resolve m f forum = .ok r ∧
      Approach.territorial.resolve m f' forum' = .ok r' ∧ r'.selected = r.selected ∧
      r'.confidence = r.confidence ∧ r'.scores = r.scores

theorem resolve_of_decides {x : α} (h : Decides m f c x) (forum : Reference) :
    ∃ r, Approach.territorial.resolve m f forum = .ok r ∧ r.RestsOn m.registry c x := by
  obtain ⟨fallback, hfound, rfl⟩ := found?_of_decides h
  exact resolve_of_found? hfound

/-- Whatever the registry, the policy, the forum and the facts, one contact settles a dispute. -/
theorem settledByOne (m : Materials α) (f : Facts) (forum : Reference) :
    SettledByOne m f forum where
  decided c x h := resolve_of_decides h forum
  rests r hr := by
    -- All clauses go by whether a deciding contact is found.
    cases hfound : found? m f with
    | none =>
      have herror := resolve_of_undecided (found?_eq_none.mp hfound)
      cases herror.symm.trans hr
    | some e =>
      obtain ⟨r', hr', hrests⟩ := resolve_of_found? hfound
      cases hr'.symm.trans hr
      exact ⟨e.1, _, decides_of_found? hfound, hrests⟩
  wanting e := by
    constructor
    · intro he
      cases hfound : found? m f with
      | none =>
        have hundecided := found?_eq_none.mp hfound
        cases (resolve_of_undecided hundecided).symm.trans he
        exact ⟨hundecided, rfl⟩
      | some e' =>
        obtain ⟨r, hr, -⟩ := resolve_of_found? hfound
        cases hr.symm.trans he
    · rintro ⟨hundecided, rfl⟩
      exact resolve_of_undecided hundecided
  kind := rfl
  alike f' forum' c x h h' := by
    obtain ⟨r, hr, hrests⟩ := resolve_of_decides h forum
    obtain ⟨r', hr', hrests'⟩ := resolve_of_decides h' forum'
    have hselected : r'.selected = r.selected := hrests'.selected.trans hrests.selected.symm
    refine ⟨r, r', hr, hr', hselected, ?_, ?_⟩
    · rw [hrests'.confidence, hrests.confidence]
    · rw [hrests'.scores, hselected, hrests.scores]

/-- An injury in an unknown place before one in a known place, and a conduct elsewhere. -/
def injuredAbroad : Facts where
  topic := .comparativeNegligence
  contacts := [⟨.placeOfInjury, "ATLANTIS"⟩, ⟨.placeOfConduct, "US-CA"⟩, ⟨.placeOfInjury, "US-NY"⟩]

/-- The known injury comes first, and another one follows it. -/
def injuredTwice : Facts where
  topic := .comparativeNegligence
  contacts := [⟨.placeOfInjury, "US-NY"⟩, ⟨.domicileOfPlaintiff, "US-CA"⟩, ⟨.placeOfInjury, "US-CA"⟩]

/-- One injury decides, also if another one follows and the forum is different. -/
theorem settledByOne_injured :
    Decides twoStatesOnly injuredAbroad ⟨.placeOfInjury, "US-NY"⟩ 1 ∧
    Decides twoStatesOnly injuredTwice ⟨.placeOfInjury, "US-NY"⟩ 1 ∧
    ∃ r r', Approach.territorial.resolve twoStatesOnly injuredAbroad (.text "US-CA") = .ok r ∧
      Approach.territorial.resolve twoStatesOnly injuredTwice (.text "US-TX") = .ok r' ∧
      r'.selected = r.selected ∧ r'.confidence = r.confidence ∧ r'.scores = r.scores := by
  have hfirst : found? twoStatesOnly injuredAbroad = some (⟨.placeOfInjury, "US-NY"⟩, false) := by
    decide +kernel
  have hfirst' : found? twoStatesOnly injuredTwice = some (⟨.placeOfInjury, "US-NY"⟩, false) := by
    decide +kernel
  have hone : confidenceIn twoStatesOnly false = 1 := by decide +kernel
  have h := decides_of_found? hfirst
  have h' := decides_of_found? hfirst'
  rw [hone] at h h'
  exact ⟨h, h', (settledByOne twoStatesOnly injuredAbroad (.text "US-CA")).alike _ _ _ _ h h'⟩

end Territorial
end ComparativeLaw

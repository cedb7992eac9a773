import ComparativeLaw.Proofs.ChoiceOfLaw.Reordered
import ComparativeLaw.Proofs.Comparison.Tally
import Mathlib.Data.Set.List

namespace ComparativeLaw

theorem Code.is_iff_eq_text {c : Code} {s : String} : c.is s = true ↔ c = .text s := by
  cases c with
  | text t => simp [is, text?]
  | value j => simp [is, text?]

/-- What is left of a list without repetitions is what is left of it with them, without them. -/
theorem firstSeen_filter (p : String → Bool) (codes : List String) :
    firstSeen (codes.filter p) = (firstSeen codes).filter p := by
  suffices h : ∀ seen : List String,
      (codes.filter p).foldl addNew (seen.filter p) = (codes.foldl addNew seen).filter p from h []
  -- On the codes: one that is left out changes nothing of what has been kept.
  induction codes with
  | nil => exact fun seen => rfl
  | cons c codes ih =>
    intro seen
    rw [List.foldl_cons, ← ih]
    by_cases hc : p c = true
    · rw [List.filter_cons_of_pos hc, List.foldl_cons]
      congr 1
      by_cases hmem : c ∈ seen
      · simp [addNew, hmem, hc]
      · simp [addNew, hmem, hc]
    · rw [List.filter_cons_of_neg hc]
      congr 1
      by_cases hmem : c ∈ seen
      · simp [addNew, hmem]
      · simp [addNew, hmem, hc]

namespace InterestAnalysis

section Rules

variable {catalog : Option Catalog} {topic : Topic} {codes codes' : List String}

/-- Several jurisdictions, any two of which have the same rule in a catalogue. -/
def Agreeing (catalog : Option Catalog) (topic : Topic) (codes : List String) : Prop :=
  2 ≤ codes.length ∧ ∃ c ∈ catalog, ∀ a ∈ codes, ∀ b ∈ codes, ∃ r s,
    c.rule? (.text a) topic = some r ∧ c.rule? (.text b) topic = some s ∧ (r == s) = true

theorem Agreeing.perm (hp : codes.Perm codes') (h : Agreeing catalog topic codes) :
    Agreeing catalog topic codes' := by
  obtain ⟨htwo, c, hc, hsame⟩ := h
  refine ⟨hp.length_eq ▸ htwo, c, hc, fun a ha b hb => ?_⟩
  exact hsame a (hp.mem_iff.mpr ha) b (hp.mem_iff.mpr hb)

/-- Items are all found if each of them is. -/
theorem mapM_eq_some {β : Type} {find : String → Option β} {found : List β} :
    codes.mapM find = some found ↔ codes.map find = found.map some := by
  induction codes generalizing found with
  | nil => cases found <;> simp
  | cons code codes ih =>
    simp only [List.mapM_cons, Option.bind_eq_bind, Option.bind_eq_some_iff, Option.pure_def,
      Option.some.injEq, ih, List.map_cons]
    constructor
    · rintro ⟨b, hb, bs, hbs, rfl⟩
      rw [hb, hbs, List.map_cons]
    · intro h
      cases found with
      | nil => cases h
      | cons b bs =>
        obtain ⟨hb, hbs⟩ := List.cons.inj h
        exact ⟨b, hb, bs, hbs, rfl⟩

/-- It is enough to compare every rule with the first one, if there is another. -/
theorem same_as_first_iff {r s : Rule} {rest : List Rule} :
    (∀ x ∈ s :: rest, (x == r) = true) ↔
      ∀ x ∈ r :: s :: rest, ∀ y ∈ r :: s :: rest, (x == y) = true := by
  constructor
  · intro h
    have hsecond : (s == r) = true := h s List.mem_cons_self
    have hfirst : ∀ x ∈ r :: s :: rest, (x == r) = true :=
      List.forall_mem_cons.mpr ⟨BEq.trans (BEq.symm hsecond) hsecond, h⟩
    intro x hx y hy
    exact BEq.trans (hfirst x hx) (BEq.symm (hfirst y hy))
  · intro h x hx
    exact h x (List.mem_cons_of_mem r hx) r List.mem_cons_self

theorem all_found_same_iff {find : String → Option Rule} :
    (∃ rules : List Rule, codes.map find = rules.map some ∧
      ∀ x ∈ rules, ∀ y ∈ rules, (x == y) = true) ↔
    ∀ a ∈ codes, ∀ b ∈ codes, ∃ r s, find a = some r ∧ find b = some s ∧ (r == s) = true := by
  constructor
  · rintro ⟨rules, hrules, hsame⟩ a ha b hb
    have hfound : ∀ code ∈ codes, ∃ x ∈ rules, some x = find code := by
      intro code hcode
      apply List.mem_map.mp
      rw [← hrules]
      exact List.mem_map_of_mem hcode
    obtain ⟨x, hx, hxa⟩ := hfound a ha
    obtain ⟨y, hy, hyb⟩ := hfound b hb
    exact ⟨x, y, hxa.symm, hyb.symm, hsame x hx y hy⟩
  · intro h
    -- Every code has a rule, as it is compared with itself too.
    have hall : codes.map find ∈ Set.range (List.map (some : Rule → Option Rule)) := by
      rw [Set.range_list_map]
      intro x hx
      obtain ⟨code, hcode, rfl⟩ := List.mem_map.mp hx
      obtain ⟨r, -, hr, -⟩ := h code hcode code hcode
      exact ⟨r, hr.symm⟩
    obtain ⟨rules, hrules⟩ := hall
    have hheld : ∀ x ∈ rules, ∃ code ∈ codes, find code = some x := by
      intro x hx
      apply List.mem_map.mp
      rw [← hrules]
      exact List.mem_map_of_mem hx
    refine ⟨rules, hrules.symm, fun x hx y hy => ?_⟩
    obtain ⟨a, ha, hax⟩ := hheld x hx
    obtain ⟨b, hb, hby⟩ := hheld y hy
    obtain ⟨r, s, hr, hs, hsame⟩ := h a ha b hb
    rw [hax, Option.some.injEq] at hr
    rw [hby, Option.some.injEq] at hs
    rwa [hr, hs]

/-- The laws do not diverge if each has a rule and all rules are the same. -/
theorem diverge?_eq_some_false (htwo : 2 ≤ codes.length) :
    diverge? catalog topic codes = some false ↔ Agreeing catalog topic codes := by
  simp only [diverge?, Option.bind_eq_bind, Option.bind_eq_some_iff, mapM_eq_some]
  refine Iff.trans (exists_congr fun c => and_congr_right fun _ => ?_)
    (iff_and_self.mpr fun _ => htwo)
  rw [← all_found_same_iff]
  refine exists_congr fun rules => and_congr_right fun hrules => ?_
  have hlength : codes.length = rules.length := by
    simpa using congrArg List.length hrules
  rw [hlength] at htwo
  match rules with
  | [] => exact absurd htwo (by decide)
  | [_] => exact absurd htwo (Nat.not_succ_le_self 1)
  | r :: s :: rest =>
    rw [← same_as_first_iff]
    simp [bne]

end Rules

section Verdicts

variable (catalog : Option Catalog) (topic : Topic) (forum : Code) (codes : List String)

/-- What a verdict on the interested jurisdictions is. -/
structure Trichotomy (v : Verdict) : Prop where
  unprovidedFor : v.conflict = .unprovidedFor ↔ codes = []
  falseConflict : v.conflict = .falseConflict ↔
    (∃ code, codes = [code]) ∨ Agreeing catalog topic codes
  trueConflict : v.conflict = .trueConflict ↔ 2 ≤ codes.length ∧ ¬ Agreeing catalog topic codes
  only : ∀ code, codes = [code] → v.selected = .text code
  byDefault : v.conflict ≠ .falseConflict → v.selected = forum
  home : Agreeing catalog topic codes → (∃ code ∈ codes, forum = .text code) → v.selected = forum
  abroad : Agreeing catalog topic codes → (¬ ∃ code ∈ codes, forum = .text code) →
    ∀ first ∈ codes.head?, v.selected = .text first

variable {catalog topic forum codes}

theorem any_is_iff : codes.any forum.is = true ↔ ∃ code ∈ codes, forum = .text code := by
  simp only [List.any_eq_true, Code.is_iff_eq_text]

/-- Where the laws agree and the forum is among them, its law applies. -/
theorem selected_agreeing_home (h : ∃ code ∈ codes, forum = .text code) (first : String) :
    (agreeing topic forum first codes).selected = forum := by
  show Code.text (if codes.any forum.is then forum.plain else first) = forum
  rw [if_pos (any_is_iff.mpr h)]
  obtain ⟨code, -, rfl⟩ := h
  rfl

/-- Where they agree without the forum, the first one applies. -/
theorem selected_agreeing_abroad (h : ¬ ∃ code ∈ codes, forum = .text code) (first : String) :
    (agreeing topic forum first codes).selected = .text first := by
  show Code.text (if codes.any forum.is then forum.plain else first) = .text first
  rw [if_neg (mt any_is_iff.mp h)]

/-- Several interested jurisdictions are compared. -/
theorem verdict_cons_cons (first second : String) (rest : List String) :
    verdict catalog topic forum (first :: second :: rest) =
      match diverge? catalog topic (first :: second :: rest) with
      | some false => agreeing topic forum first (first :: second :: rest)
      | some true => conflicting topic forum "rules diverge" (first :: second :: rest)
      | none => conflicting topic forum "divergence assumed, catalog cannot confirm"
          (first :: second :: rest) :=
  rfl

/-- Whatever a verdict says of the basis, a conflict is one. -/
theorem verdict_of_not_agreeing {first second : String} {rest : List String}
    (h : ¬ Agreeing catalog topic (first :: second :: rest)) :
    ∃ basis, verdict catalog topic forum (first :: second :: rest) =
      conflicting topic forum basis (first :: second :: rest) := by
  have htwo : 2 ≤ (first :: second :: rest).length := Nat.le_add_left 2 rest.length
  rw [← diverge?_eq_some_false htwo] at h
  rw [verdict_cons_cons]
  split
  · next hdiverge => exact absurd hdiverge h
  · exact ⟨_, rfl⟩
  · exact ⟨_, rfl⟩

/-- Several laws that agree are a false conflict. -/
theorem verdict_of_agreeing {first second : String} {rest : List String}
    (h : Agreeing catalog topic (first :: second :: rest)) :
    verdict catalog topic forum (first :: second :: rest) =
      agreeing topic forum first (first :: second :: rest) := by
  rw [verdict_cons_cons, (diverge?_eq_some_false h.1).mpr h]

theorem not_agreeing_of_length_lt (h : codes.length < 2) : ¬ Agreeing catalog topic codes :=
  fun hagreeing => absurd hagreeing.1 (Nat.not_le.mpr h)

/-- Every list of laws falls into one of the three classes. -/
theorem verdict_trichotomy :
    Trichotomy catalog topic forum codes (verdict catalog topic forum codes) := by
  match codes with
  | [] =>
    have hnot : ¬ Agreeing catalog topic [] := not_agreeing_of_length_lt (by decide)
    constructor <;> simp [verdict, unprovidedFor, hnot]
  | [code] =>
    have hnot : ¬ Agreeing catalog topic [code] := not_agreeing_of_length_lt (Nat.lt_succ_self 1)
    constructor <;> simp [verdict, onlyInterested, hnot]
  | first :: second :: rest =>
    by_cases h : Agreeing catalog topic (first :: second :: rest)
    · rw [verdict_of_agreeing h]
      constructor
      case home => exact fun _ hhome => selected_agreeing_home hhome first
      case abroad =>
        intro _ habroad first' hfirst
        cases hfirst
        exact selected_agreeing_abroad habroad first
      all_goals simp [agreeing, h]
    · have hconflicting : ∃ basis, verdict catalog topic forum (first :: second :: rest) =
          conflicting topic forum basis (first :: second :: rest) := verdict_of_not_agreeing h
      obtain ⟨basis, hverdict⟩ := hconflicting
      rw [hverdict]
      constructor <;> simp [conflicting, h]

section Orders

variable {codes' : List String} {v v' : Verdict} (hp : codes.Perm codes')
  (h : Trichotomy catalog topic forum codes v) (h' : Trichotomy catalog topic forum codes' v')

include hp h h'

/-- The class does not depend on the order of the laws. -/
theorem Trichotomy.conflict_perm : v'.conflict = v.conflict := by
  have hagreeing : Agreeing catalog topic codes ↔ Agreeing catalog topic codes' :=
    ⟨Agreeing.perm hp, Agreeing.perm hp.symm⟩
  cases hv : v.conflict with
  | unprovidedFor =>
    have hnil : codes = [] := h.unprovidedFor.mp hv
    rw [hnil] at hp
    exact h'.unprovidedFor.mpr hp.symm.eq_nil
  | falseConflict =>
    apply h'.falseConflict.mpr
    rcases h.falseConflict.mp hv with ⟨code, hone⟩ | hsame
    · rw [hone] at hp
      exact .inl ⟨code, hp.symm.eq_singleton⟩
    · exact .inr (hagreeing.mp hsame)
  | trueConflict =>
    obtain ⟨htwo, hnot⟩ := h.trueConflict.mp hv
    exact h'.trueConflict.mpr ⟨hp.length_eq ▸ htwo, mt hagreeing.mpr hnot⟩

/-- The order decides only which of several laws applies that are the same. -/
theorem Trichotomy.selected_perm (hne : v'.selected ≠ v.selected) :
    Agreeing catalog topic codes ∧ ¬ ∃ code ∈ codes, forum = .text code := by
  have hconflict := h.conflict_perm hp h'
  by_cases hsame : Agreeing catalog topic codes
  · refine ⟨hsame, fun hhome => hne ?_⟩
    obtain ⟨code, hcode, hforum⟩ := hhome
    rw [h.home hsame ⟨code, hcode, hforum⟩,
      h'.home (hsame.perm hp) ⟨code, hp.mem_iff.mp hcode, hforum⟩]
  · exfalso
    apply hne
    by_cases hfalse : v.conflict = .falseConflict
    · obtain ⟨code, hone⟩ := (h.falseConflict.mp hfalse).resolve_right hsame
      have hone' : codes' = [code] := by
        rw [hone] at hp
        exact hp.symm.eq_singleton
      rw [h.only code hone, h'.only code hone']
    · rw [h.byDefault hfalse, h'.byDefault (hconflict ▸ hfalse)]

end Orders

end Verdicts

section Resolutions

variable {α : Type} [Scalar α]

/-- The jurisdictions whose declared interest counts, in the order of first declaration: those that
are registered or the forum, and that a usable contact names or that are the forum. -/
def interested (m : Materials α) (f : Facts) (forum : Reference) : List String :=
  f.interested.filter fun code =>
    (Registry.accepts m.registry code || forum.code.is code) &&
      ((f.recognised m.registry).contacts.any (fun c => c.code = code) || forum.code.is code)

def classify (m : Materials α) (f : Facts) (forum : Reference) : Verdict :=
  let sorted : SortedContacts α := .ofFacts f m.registry fun _ => 0.0
  verdict m.catalog f.topic forum.code
    (interestedCodes m.registry sorted.candidates forum.code f.interests)

/-- How a dispute is resolved by its interests. -/
structure ResolvedBy (m : Materials α) (f : Facts) (forum : Reference) (v : Verdict)
    (r : Resolution α) : Prop where
  trichotomy : Trichotomy m.catalog f.topic forum.code (interested m f forum) v
  conflict : r.conflict = some v.conflict
  confidence : r.confidence = confidence m.policy v.conflict
  selected : r.selected = Registry.select m.registry v.selected.plain
  scored : interested m f forum ≠ [] → r.scores.map (·.1) = interested m f forum

variable {m : Materials α} {f : Facts} {forum : Reference}

/-- The analysis counts the interests of the candidates and of the forum. -/
theorem interestedCodes_eq : interestedCodes m.registry
    (SortedContacts.ofFacts f m.registry fun _ => (0.0 : α)).candidates forum.code f.interests =
      interested m f forum := by
  let wanted (code : String) : Bool :=
    (Registry.accepts m.registry code || forum.code.is code) &&
      ((f.recognised m.registry).contacts.any (fun c => c.code = code) || forum.code.is code)
  have hcounts : counts m.registry
      (SortedContacts.ofFacts f m.registry fun _ => (0.0 : α)).candidates forum.code =
        wanted ∘ (·.code) := by
    funext i
    have hcandidate : (SortedContacts.ofFacts f m.registry
        fun _ => (0.0 : α)).candidates.contains i.code =
          (f.recognised m.registry).contacts.any fun c => c.code = i.code := by
      rw [Bool.eq_iff_iff, List.contains_iff_mem, SortedContacts.candidates, mem_firstSeen,
        List.mem_map, List.any_eq_true]
      simp only [decide_eq_true_iff]
      rfl
    rw [counts, admitted, hcandidate]
    rfl
  rw [interestedCodes, hcounts, ← List.filter_map, firstSeen_filter]
  rfl

theorem trichotomy_classify :
    Trichotomy m.catalog f.topic forum.code (interested m f forum) (classify m f forum) := by
  rw [classify, interestedCodes_eq]
  exact verdict_trichotomy

omit [Scalar α] in
/-- Listing the interests otherwise lists the interested laws otherwise. -/
theorem interested_perm {interests : List Interest} (hp : interests.Perm f.interests) :
    (interested m f forum).Perm (interested m { f with interests } forum) := by
  have hcodes : f.interested.Perm (firstSeen (interests.map (·.code))) :=
    firstSeen_perm (hp.symm.map _)
  exact hcodes.filter _

/-- The interested laws are scored, in their order. -/
theorem scores_resolve (hne : interested m f forum ≠ []) :
    (resolve m f forum).scores.map (·.1) = interested m f forum := by
  let selected := (classify m f forum).selected
  have hscores : (resolve m f forum).scores = (interested m f forum).map fun code =>
      (code, (chosenValue (selected.is code) : α)) := by
    rw [← interestedCodes_eq] at hne ⊢
    exact if_neg (by simpa using hne)
  rw [hscores, List.map_map]
  exact List.map_id _

/-- Every dispute is classified by the jurisdictions whose interests count, whatever the registry,
the catalogue and the forum. The order in which interests are declared matters to the law that
applies only, and only where several laws agree none of which is that of the forum. -/
theorem resolve_trichotomy (m : Materials α) (f : Facts) (forum : Reference) :
    ResolvedBy m f forum (classify m f forum) (resolve m f forum) ∧
    ∀ interests, interests.Perm f.interests →
      (resolve m { f with interests } forum).conflict = (resolve m f forum).conflict ∧
      (resolve m { f with interests } forum).confidence = (resolve m f forum).confidence ∧
      ((classify m { f with interests } forum).selected ≠ (classify m f forum).selected →
        Agreeing m.catalog f.topic (interested m f forum) ∧
          ¬ ∃ code ∈ interested m f forum, forum.code = .text code) := by
  have htrichotomy : Trichotomy m.catalog f.topic forum.code (interested m f forum)
      (classify m f forum) := trichotomy_classify
  refine ⟨⟨htrichotomy, rfl, rfl, rfl, scores_resolve⟩, fun interests hp => ?_⟩
  have hcodes : (interested m f forum).Perm (interested m { f with interests } forum) :=
    interested_perm hp
  have htrichotomy' : Trichotomy m.catalog f.topic forum.code
      (interested m { f with interests } forum) (classify m { f with interests } forum) :=
    trichotomy_classify (f := { f with interests })
  have hconflict := htrichotomy.conflict_perm hcodes htrichotomy'
  refine ⟨congrArg some hconflict, congrArg (confidence m.policy) hconflict, ?_⟩
  exact htrichotomy.selected_perm hcodes htrichotomy'

def sharedRule : Materials Rat where
  registry := none
  catalog := (Catalog.ofEntries (["US-NY", "US-CA"].map fun code =>
    { jurisdiction := .ofCode code, topic := .comparativeNegligence,
      rule := .pureComparativeNegligence }) none).toOption
  policy := .ofEnvironment []
  lawQuality := .ok []
  weights := .ok []

/-- A dispute in which both of them have an interest. -/
def sharedInterest : Facts where
  topic := .comparativeNegligence
  contacts := [⟨.placeOfInjury, "US-NY"⟩, ⟨.placeOfConduct, "US-CA"⟩]
  interests := [{ code := "US-NY" }, { code := "US-CA" }]

/-- Before a third forum the order of the interests does matter. -/
theorem resolve_trichotomy_swapped :
    let swapped := { sharedInterest with interests := sharedInterest.interests.reverse }
    (resolve sharedRule swapped (.text "US-TX")).conflict =
        (resolve sharedRule sharedInterest (.text "US-TX")).conflict ∧
      (classify sharedRule swapped (.text "US-TX")).selected ≠
        (classify sharedRule sharedInterest (.text "US-TX")).selected ∧
      Agreeing sharedRule.catalog .comparativeNegligence
        (interested sharedRule sharedInterest (.text "US-TX")) := by
  intro swapped
  obtain ⟨-, horder⟩ := resolve_trichotomy sharedRule sharedInterest (.text "US-TX")
  obtain ⟨hconflict, -, hagreeing⟩ := horder _ (List.reverse_perm sharedInterest.interests)
  have hne : (classify sharedRule swapped (.text "US-TX")).selected ≠
      (classify sharedRule sharedInterest (.text "US-TX")).selected := by
    apply mt (congrArg Code.text?)
    decide +kernel
  exact ⟨hconflict, hne, (hagreeing hne).1⟩

end Resolutions
end InterestAnalysis
end ComparativeLaw

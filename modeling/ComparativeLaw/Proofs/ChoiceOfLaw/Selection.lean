import ComparativeLaw.Proofs.ChoiceOfLaw.Contest
import ComparativeLaw.Proofs.Jurisdiction.Canonical

namespace ComparativeLaw

open Checked Scalar

variable {m : Materials Rat} {f : Facts} {forum : Reference} {r : Resolution Rat} {s : String}

namespace Resolution

/-- A resolution that selects a scored candidate, and no candidate has a better score. -/
def SelectsTop (r : Resolution Rat) : Prop :=
  ∃ code top, r.selected.code = .text code ∧ r.scoreFor? code = some top ∧ ∀ e ∈ r.scores, e.2 ≤ top

/-- A resolution that selects the law of a candidate with a top score, which is scored once. -/
structure Favours (r : Resolution Rat) (winner : String) : Prop where
  selected : r.selected.code = .text (canonicalCode winner)
  nodup : (r.scores.map (·.1)).Nodup
  top : ∃ top, (winner, top) ∈ r.scores ∧ ∀ e ∈ r.scores, e.2 ≤ top

/-- A resolution in favour of some candidate, whose code is canonical if those of the facts are. -/
def FavoursOne (f : Facts) (r : Resolution Rat) : Prop :=
  ∃ winner, r.Favours winner ∧ (f.Canonical → canonicalCode winner = winner)

/-- A true conflict among the interests of others: the law of the forum applies by default. -/
def ByDefault (f : Facts) (s : String) (r : Resolution Rat) : Prop :=
  r.conflict = some .trueConflict ∧ canonicalCode s ∉ f.interested

/-- A resolution that selects the law of a forum which is no candidate, and no candidate scores. -/
structure PassesOver (s : String) (r : Resolution Rat) : Prop where
  selected : r.selected.code = .text (canonicalCode s)
  unscored : r.scoreFor? (canonicalCode s) = none
  zero : ∀ e ∈ r.scores, e.2 = 0

/-- A law that is favoured is selected as the top of the scores. -/
theorem Favours.selectsTop {winner : String} (h : r.Favours winner)
    (hw : canonicalCode winner = winner) : r.SelectsTop := by
  obtain ⟨top, hmem, hle⟩ := h.top
  have hscore : r.scoreFor? winner = some top := Table.get?_of_mem h.nodup hmem
  exact ⟨winner, top, by rw [h.selected, hw], hscore, hle⟩

theorem Favours.of_singleton {winner : String} {x : Rat}
    (hselected : r.selected.code = .text (canonicalCode winner)) (hscores : r.scores = [(winner, x)]) :
    r.Favours winner where
  selected := hselected
  nodup := by
    rw [hscores]
    exact List.nodup_singleton _
  top := by
    refine ⟨x, ?_, ?_⟩
    · rw [hscores]
      exact List.mem_singleton_self _
    · intro e he
      rw [hscores] at he
      rw [List.mem_singleton.mp he]

/-- Where the canonical code that is selected is also the only one that is scored. -/
theorem FavoursOne.of_canonical {code : String} {x : Rat}
    (hselected : r.selected.code = .text (canonicalCode code))
    (hscores : r.scores = [(r.selected.code.plain, x)]) : r.FavoursOne f := by
  rw [hselected] at hscores
  refine ⟨canonicalCode code, .of_singleton ?_ hscores, fun _ => canonicalCode_canonicalCode code⟩
  rw [hselected, canonicalCode_canonicalCode]

/-- The winner of a comparison is favoured. -/
theorem WonBy.favoursOne {registry : Option Registry} {scores : Scores Rat}
    {standing : Standing Rat} (h : r.WonBy registry f scores standing) : r.FavoursOne f := by
  have hperm : r.scores.Perm scores := by
    rw [h.ranked]
    exact List.mergeSort_perm scores _
  refine ⟨standing.winner, ⟨?_, ?_, standing.top, ?_, ?_⟩, ?_⟩
  · rw [h.selected]
    exact Registry.code_select registry standing.winner
  · exact (hperm.map (·.1)).nodup_iff.mpr h.sound.nodup
  · exact hperm.mem_iff.mpr h.tops.winner_mem
  · intro e he
    exact h.tops.le_top e (hperm.mem_iff.mp he)
  · intro hf
    obtain ⟨c, hc, hcode⟩ := h.sound.named _ h.tops.winner_mem
    have hcode : c.code = standing.winner := hcode
    rw [← hcode]
    exact hf.contacts c hc

end Resolution

theorem Territorial.favoursOne_of_resolve (h : resolve m f = .ok r) : r.FavoursOne f := by
  simp only [resolve] at h
  split at h
  · cases h
  · next chosen fallback hchosen =>
    cases h
    exact .of_canonical (Registry.code_select m.registry chosen.code) rfl

namespace InterestAnalysis

/-- What a verdict selects: the forum if nobody is interested, an interested jurisdiction in a false
conflict, and the forum again in a true one. -/
theorem verdict_cases (catalog : Option Catalog) (topic : Topic) (home : String)
    (codes : List String) :
    (codes = [] ∧ (verdict catalog topic home codes).selected = .text home ∧
      (verdict catalog topic home codes).conflict = .unprovidedFor) ∨
    (∃ c ∈ codes, (verdict catalog topic home codes).selected = .text c ∧
      (verdict catalog topic home codes).conflict = .falseConflict) ∨
    (codes ≠ [] ∧ (verdict catalog topic home codes).selected = .text home ∧
      (verdict catalog topic home codes).conflict = .trueConflict) := by
  unfold verdict
  split
  · exact .inl ⟨rfl, rfl, rfl⟩
  · next code => exact .inr (.inl ⟨code, List.mem_singleton_self code, rfl, rfl⟩)
  · next first rest _ =>
    split
    · right
      left
      show ∃ c ∈ first :: rest, Code.text (if (first :: rest).any (Code.text home).is then home
        else first) = .text c ∧ Conflict.falseConflict = .falseConflict
      by_cases hhome : (first :: rest).any (Code.text home).is = true
      · obtain ⟨c, hc, his⟩ := List.any_eq_true.mp hhome
        have hcode : home = c := Option.some.inj (of_decide_eq_true his)
        exact ⟨c, hc, by rw [if_pos hhome, hcode], rfl⟩
      · exact ⟨first, List.mem_cons_self, by rw [if_neg hhome], rfl⟩
    · exact .inr (.inr ⟨List.cons_ne_nil _ _, rfl, rfl⟩)
    · exact .inr (.inr ⟨List.cons_ne_nil _ _, rfl, rfl⟩)

/-- The score of the selected code is one, that of every other code zero. -/
theorem chosenValue_text (c code : String) :
    (chosenValue ((Code.text c).is code) : Rat) = if c = code then 1 else 0 := by
  by_cases h : c = code
  · simp [chosenValue, Code.is, Code.text?, h]
  · simp [chosenValue, Code.is, Code.text?, h]

/-- The codes whose interests count in a resolution. -/
def counted (m : Materials Rat) (f : Facts) (forum : Reference) : List String :=
  interestedCodes m.registry (SortedContacts.ofFacts f m.registry fun _ => (0.0 : Rat)).candidates
    forum.code f.interests

theorem exists_interest_of_mem_counted {code : String} (h : code ∈ counted m f forum) :
    ∃ i ∈ f.interests, i.code = code := by
  obtain ⟨i, hi, hcode⟩ := List.mem_map.mp (mem_firstSeen.mp h)
  exact ⟨i, List.mem_of_mem_filter hi, hcode⟩

/-- An interest of the forum itself always counts. -/
theorem mem_counted_forum :
    canonicalCode s ∈ counted m f (.text s) ↔ canonicalCode s ∈ f.interested := by
  constructor
  · intro h
    obtain ⟨i, hi, hcode⟩ := exists_interest_of_mem_counted h
    exact mem_firstSeen.mpr (hcode ▸ List.mem_map_of_mem hi)
  · intro h
    obtain ⟨i, hi, hcode⟩ := List.mem_map.mp (mem_firstSeen.mp h)
    have his : (Reference.text s).code.is i.code = true := decide_eq_true (congrArg some hcode.symm)
    refine mem_firstSeen.mpr (List.mem_map.mpr ⟨i, List.mem_filter.mpr ⟨hi, ?_⟩, hcode⟩)
    simp [counts, admitted, his]

/-- A resolution by interests for a choice of law, with the scores that the choice gives to the codes
that count; without any, the selected law alone is scored. -/
structure Resolves (m : Materials Rat) (f : Facts) (forum : Reference) (choice : String)
    (conflict : Conflict) (r : Resolution Rat) : Prop where
  selected : r.selected = Registry.select m.registry choice
  conflict : r.conflict = some conflict
  scores : r.scores = if (counted m f forum).isEmpty then [(r.selected.code.plain, 1)]
    else (counted m f forum).map fun code => (code, if choice = code then 1 else 0)

/-- Interests resolve to the law of their verdict. -/
theorem resolves_of_verdict {choice : String} {conflict : Conflict}
    (hs : (verdict m.catalog f.topic forum.code (counted m f forum)).selected = .text choice)
    (hc : (verdict m.catalog f.topic forum.code (counted m f forum)).conflict = conflict) :
    Resolves m f forum choice conflict (resolve m f forum) := by
  let v := verdict m.catalog f.topic forum.code (counted m f forum)
  constructor
  case selected =>
    show Registry.select m.registry v.selected.plain = Registry.select m.registry choice
    rw [hs]
    rfl
  case conflict =>
    show some v.conflict = some conflict
    rw [hc]
  case scores =>
    let scores := (counted m f forum).map fun code => (code, (chosenValue (v.selected.is code) : Rat))
    have hscores : scores = (counted m f forum).map fun code =>
        (code, if choice = code then 1 else 0) := by
      apply List.map_congr_left
      intro code _
      rw [hs, chosenValue_text]
    show (if scores.isEmpty then [(_, (1.0 : Rat))] else scores) = _
    rw [one_rat, hscores, List.isEmpty_map]
    rfl

section Choice

variable {choice : String} {conflict : Conflict}

/-- The law that is chosen has one, any other interested one has nothing. -/
theorem Resolves.scores_of_counted (h : Resolves m f forum choice conflict r)
    (hne : counted m f forum ≠ []) : r.scores = (counted m f forum).map fun code =>
      (code, if choice = code then 1 else 0) := by
  rw [h.scores, if_neg]
  exact mt List.isEmpty_iff.mp hne

/-- A code that counts and is chosen has the top score. -/
theorem Resolves.favours (h : Resolves m f forum choice conflict r)
    (hc : choice ∈ counted m f forum) : r.Favours choice := by
  have hscores := h.scores_of_counted (List.ne_nil_of_mem hc)
  constructor
  case selected =>
    rw [h.selected]
    exact Registry.code_select m.registry choice
  case nodup =>
    rw [hscores, List.map_map]
    show ((firstSeen _).map id).Nodup
    rw [List.map_id]
    exact nodup_firstSeen _
  case top =>
    rw [hscores]
    refine ⟨1, List.mem_map.mpr ⟨choice, hc, by rw [if_pos rfl]⟩, ?_⟩
    intro e he
    obtain ⟨code, -, rfl⟩ := List.mem_map.mp he
    show (if choice = code then (1 : Rat) else 0) ≤ 1
    split <;> norm_num

/-- A choice among the interested ones is favoured. -/
theorem Resolves.favoursOne (h : Resolves m f forum choice conflict r)
    (hc : choice ∈ counted m f forum) : r.FavoursOne f := by
  refine ⟨choice, h.favours hc, fun hf => ?_⟩
  obtain ⟨i, hi, rfl⟩ := exists_interest_of_mem_counted hc
  exact hf.interests i hi

/-- If a code is chosen that does not count, it has no score and all that count score nothing. -/
theorem Resolves.unscored (h : Resolves m f forum choice conflict r)
    (hne : counted m f forum ≠ []) (hc : choice ∉ counted m f forum) :
    r.scoreFor? choice = none ∧ ∀ e ∈ r.scores, e.2 = 0 := by
  have hscores := h.scores_of_counted hne
  constructor
  · have hnone : ∀ e ∈ r.scores, ¬ (e.1 = choice) := by
      rw [hscores]
      intro e he heq
      obtain ⟨code, hcode, rfl⟩ := List.mem_map.mp he
      exact hc (heq ▸ hcode)
    rw [Resolution.scoreFor?, List.find?_eq_none.mpr (by simpa using hnone)]
    rfl
  · rw [hscores]
    intro e he
    obtain ⟨code, hcode, rfl⟩ := List.mem_map.mp he
    have hne : choice ≠ code := fun heq => hc (heq ▸ hcode)
    exact if_neg hne

end Choice

/-- In a forum that is named by its code, a candidate is favoured unless there is a true conflict
without an interest of the forum. -/
theorem cases_of_resolve (m : Materials Rat) (f : Facts) (s : String) :
    ((resolve m f (.text s)).ByDefault f s ∧ (resolve m f (.text s)).PassesOver s) ∨
    (¬ (resolve m f (.text s)).ByDefault f s ∧ (resolve m f (.text s)).FavoursOne f) := by
  rcases verdict_cases m.catalog f.topic (canonicalCode s) (counted m f (.text s)) with
    ⟨hnil, hselected, hconflict⟩ | ⟨c, hc, hselected, hconflict⟩ | ⟨hne, hselected, hconflict⟩
  · have h := resolves_of_verdict hselected hconflict
    right
    constructor
    · rintro ⟨htrue, -⟩
      rw [h.conflict] at htrue
      cases htrue
    · have hcode : (resolve m f (.text s)).selected.code =
          .text (canonicalCode (canonicalCode s)) := by
        rw [h.selected]
        exact Registry.code_select m.registry _
      apply Resolution.FavoursOne.of_canonical hcode
      rw [h.scores, hnil]
      rfl
  · have h := resolves_of_verdict hselected hconflict
    right
    constructor
    · rintro ⟨htrue, -⟩
      rw [h.conflict] at htrue
      cases htrue
    · exact h.favoursOne hc
  · have h := resolves_of_verdict hselected hconflict
    -- In a true conflict the forum is favoured only where it has an interest of its own.
    by_cases hforum : canonicalCode s ∈ counted m f (.text s)
    · exact .inr ⟨fun hd => hd.2 (mem_counted_forum.mp hforum), h.favoursOne hforum⟩
    · obtain ⟨hscore, hzero⟩ := h.unscored hne hforum
      refine .inl ⟨⟨h.conflict, mt mem_counted_forum.mpr hforum⟩, ?_, hscore, hzero⟩
      rw [h.selected, Registry.code_select, canonicalCode_canonicalCode]

end InterestAnalysis

/-- Either stage favours one law. -/
theorem CombinedModern.favoursOne_of_resolve (h : resolve m f (.text s) = .ok r) :
    r.FavoursOne f := by
  rcases cases_of_resolve h with ⟨hconflict, rfl⟩ | ⟨second, hsecond, rfl⟩
  · rcases InterestAnalysis.cases_of_resolve m f s with ⟨⟨htrue, -⟩, -⟩ | ⟨-, winner, hwinner, hw⟩
    · rw [hconflict] at htrue
      cases htrue
    · exact ⟨winner, ⟨hwinner.selected, hwinner.nodup, hwinner.top⟩, hw⟩
  · obtain ⟨scores, standing, hwon, -⟩ := Relationship.wonBy_of_resolve hsecond
    obtain ⟨winner, hwinner, hw⟩ := hwon.favoursOne
    exact ⟨winner, ⟨hwinner.selected, hwinner.nodup, hwinner.top⟩, hw⟩

/-- Under every doctrine a candidate is favoured, unless interest analysis leaves the dispute to the
law of the forum by default. -/
theorem Approach.cases_of_resolve {a : Approach} (h : a.resolve m f (.text s) = .ok r) :
    ((a = .interestAnalysis ∧ r.ByDefault f s) ∧ r.PassesOver s) ∨
    (¬ (a = .interestAnalysis ∧ r.ByDefault f s) ∧ r.FavoursOne f) := by
  cases a with
  | territorial =>
    exact .inr ⟨fun hd => (nomatch hd.1), Territorial.favoursOne_of_resolve h⟩
  | mostSignificantRelationship =>
    obtain ⟨scores, standing, hwon, -⟩ := Relationship.wonBy_of_resolve h
    exact .inr ⟨fun hd => (nomatch hd.1), hwon.favoursOne⟩
  | interestAnalysis =>
    -- A text can be a key, so the analysis is run.
    obtain rfl : InterestAnalysis.resolve m f (.text s) = r := Except.ok.inj h
    rcases InterestAnalysis.cases_of_resolve m f s with ⟨hd, hpasses⟩ | ⟨hd, hone⟩
    · exact .inl ⟨⟨rfl, hd⟩, hpasses⟩
    · exact .inr ⟨fun hd' => hd hd'.2, hone⟩
  | betterLaw =>
    obtain ⟨scores, standing, hwon, -⟩ := BetterLaw.wonBy_of_resolve h
    exact .inr ⟨fun hd => (nomatch hd.1), hwon.favoursOne⟩
  | combinedModern =>
    obtain ⟨_, -, h⟩ := bind_eq_ok.mp h
    exact .inr ⟨fun hd => (nomatch hd.1), CombinedModern.favoursOne_of_resolve h⟩

/-- Whichever doctrine runs in a forum that is named by its code, the law of a candidate with a top
score is selected, and canonical facts name it by the code that is selected. The one exception is
interest analysis with a true conflict among the interests of others: there the law of the forum is
selected, which has no score, and all scores are zero. -/
theorem analyze_selects_top {a : Approach} (h : analyze m a f (.text s) = .ok r) :
    (¬ (a = .interestAnalysis ∧ r.ByDefault f s) →
      (∃ winner, r.Favours winner) ∧ (f.Canonical → r.SelectsTop)) ∧
    (a = .interestAnalysis ∧ r.ByDefault f s → r.PassesOver s) := by
  obtain ⟨r', hr', rfl⟩ := map_eq_ok.mp h
  rcases Approach.cases_of_resolve hr' with ⟨hd, hpasses⟩ | ⟨hd, winner, hwinner, hw⟩
  · refine ⟨fun hnot => absurd hd hnot, fun _ => ?_⟩
    exact ⟨hpasses.selected, hpasses.unscored, hpasses.zero⟩
  · refine ⟨fun _ => ?_, fun hd' => absurd hd' hd⟩
    have hfavours : (r'.reportForum (some (Registry.orKnownWith m.registry m.catalog))
        (.text s)).Favours winner := ⟨hwinner.selected, hwinner.nodup, hwinner.top⟩
    exact ⟨⟨winner, hfavours⟩, fun hf => hfavours.selectsTop (hw hf)⟩

/-- The better law in a dispute with adjusted weights. -/
theorem analyze_selects_top_dispute :
    ∃ r, analyze Relationship.reweighted .betterLaw Relationship.dispute (.text " us-ca ") = .ok r ∧
      Relationship.dispute.Canonical ∧ r.SelectsTop := by
  obtain ⟨r, h⟩ := exists_of_isOk
    (x := analyze Relationship.reweighted .betterLaw Relationship.dispute (.text " us-ca "))
    (by decide +kernel)
  have hnot : ¬ (Approach.betterLaw = .interestAnalysis ∧
      r.ByDefault Relationship.dispute " us-ca ") := fun hd => nomatch hd.1
  exact ⟨r, h, Relationship.canonical_dispute,
    ((analyze_selects_top h).1 hnot).2 Relationship.canonical_dispute⟩

/-- Two interested states, neither of which is the forum. -/
def rivalInterests : Facts where
  topic := .comparativeNegligence
  contacts := [⟨.placeOfInjury, "US-NY"⟩, ⟨.placeOfConduct, "US-CA"⟩]
  interests := [⟨"US-NY", ""⟩, ⟨"US-CA", ""⟩]

def threeStates : Materials Rat where
  registry := some (.ofList [.ofCode "US-NY", .ofCode "US-CA", .ofCode "US-TX"])
  catalog := none
  policy := .ofEnvironment []
  lawQuality := .ok []
  weights := .ok []

/-- The law of the third state is selected, which has no score. -/
theorem analyze_selects_unscored :
    ∃ r, analyze threeStates .interestAnalysis rivalInterests (.text "US-TX") = .ok r ∧
      ¬ r.SelectsTop := by
  obtain ⟨r, h⟩ := exists_of_isOk
    (x := analyze threeStates .interestAnalysis rivalInterests (.text "US-TX")) (by decide +kernel)
  have hscore : (analyze threeStates .interestAnalysis rivalInterests
      (.text "US-TX")).toOption.map (fun r => r.scoreFor? r.selected.code.plain) = some none := by
    decide +kernel
  rw [h] at hscore
  have hnone : r.scoreFor? r.selected.code.plain = none := Option.some.inj hscore
  refine ⟨r, h, ?_⟩
  rintro ⟨code, top, hcode, htop, -⟩
  rw [hcode] at hnone
  rw [show (Code.text code).plain = code from rfl, htop] at hnone
  cases hnone

end ComparativeLaw

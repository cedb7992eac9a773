import ComparativeLaw.ChoiceOfLaw.Analysis
import ComparativeLaw.Proofs.ChoiceOfLaw.Contacts
import ComparativeLaw.Proofs.ChoiceOfLaw.Relationship

namespace ComparativeLaw

open Checked

variable {α : Type}

/-- A code that the registry does not know. -/
def Unlisted (registry : Option Registry) (code : String) : Prop :=
  Registry.accepts registry code = false

/-- A forum is missing if the registry lacks it. -/
theorem mem_missingForum {registry : Option Registry} {s code : String} :
    code ∈ (Registry.missingForum registry (.text s)).map (·.code) ↔
      code = canonicalCode s ∧ Unlisted registry code := by
  simp only [Registry.missingForum]
  split
  · next h =>
    constructor
    · intro hcode
      exact absurd hcode List.not_mem_nil
    · rintro ⟨rfl, hunlisted⟩
      exact absurd h (Bool.eq_false_iff.mp hunlisted)
  · next h =>
    rw [List.map_singleton, List.mem_singleton]
    constructor
    · rintro rfl
      exact ⟨rfl, Bool.eq_false_iff.mpr h⟩
    · exact fun hcode => hcode.1

namespace Facts

def contactReports (registry : Option Registry) (f : Facts) : List Unregistered :=
  (f.unknown registry).map fun c => ⟨c.code, c.kind.code⟩

/-- Contacts are reported with the codes that the registry lacks. -/
theorem mem_contactReports {registry : Option Registry} {f : Facts} {code : String} :
    code ∈ (f.contactReports registry).map (·.code) ↔
      code ∈ f.named ∧ Unlisted registry code := by
  rw [contactReports, List.map_map, named, mem_firstSeen, List.mem_map, List.mem_map]
  constructor
  · rintro ⟨c, hc, rfl⟩
    obtain ⟨hmem, hunlisted⟩ := List.mem_filter.mp hc
    exact ⟨⟨c, hmem, rfl⟩, by simpa [Unlisted] using hunlisted⟩
  · rintro ⟨⟨c, hc, rfl⟩, hunlisted⟩
    exact ⟨c, List.mem_filter.mpr ⟨hc, by simpa [Unlisted] using hunlisted⟩, rfl⟩

end Facts

namespace Resolution

def reported (r : Resolution α) : List String := r.unregistered.map (·.code)

/-- A resolution that reports each of some codes that is unknown. -/
def Reports (r : Resolution α) (registry : Option Registry) (codes : List String) : Prop :=
  ∀ code ∈ codes, Unlisted registry code → code ∈ r.reported

/-- Reporting the forum adds its code if that is unknown, and nothing else. -/
theorem mem_reported_reportForum {registry : Option Registry} {forum : Reference}
    {r : Resolution α} {code : String} : code ∈ (r.reportForum registry forum).reported ↔
      code ∈ r.reported ∨ code ∈ (Registry.missingForum registry forum).map (·.code) := by
  simp only [reported, reportForum, List.map_append, List.mem_append]
  constructor
  · rintro (h | h)
    · exact .inl h
    · obtain ⟨u, hu, rfl⟩ := List.mem_map.mp h
      exact .inr (List.mem_map_of_mem (List.mem_filter.mp hu).1)
  · rintro (h | h)
    · exact .inl h
    · obtain ⟨u, hu, rfl⟩ := List.mem_map.mp h
      by_cases hin : u.code ∈ r.unregistered.map (·.code)
      · exact .inl hin
      · refine .inr (List.mem_map_of_mem (List.mem_filter.mpr ⟨hu, ?_⟩))
        simpa using hin

end Resolution

theorem Territorial.unregistered_of_resolve [Scalar α] {m : Materials α} {f : Facts}
    {r : Resolution α} (h : resolve m f = .ok r) :
    r.unregistered = f.contactReports m.registry := by
  simp only [resolve] at h
  split at h
  · cases h
  · cases h
    rfl

variable [Scalar α] {m : Materials α} {f : Facts} {forum : Reference} {r : Resolution α}

theorem Relationship.unregistered_of_score {scored : Scored α} (h : score m f = .ok scored) :
    scored.sorted.unregistered = f.contactReports m.registry := by
  rw [score_eq] at h
  obtain ⟨overrides, -, h⟩ := bind_eq_ok.mp h
  obtain ⟨-, scores, -, rfl⟩ := scoreSorted_eq_ok.mp h
  rfl

theorem Relationship.unregistered_of_resolve (h : resolve m f forum = .ok r) :
    r.unregistered = f.contactReports m.registry := by
  obtain ⟨scored, hscored, h⟩ := bind_eq_ok.mp h
  obtain ⟨standing, -, h⟩ := bind_eq_ok.mp h
  cases h
  exact unregistered_of_score hscored

theorem BetterLaw.unregistered_of_resolve (h : resolve m f forum = .ok r) :
    r.unregistered = f.contactReports m.registry := by
  obtain ⟨quality, -, h⟩ := bind_eq_ok.mp h
  split at h
  · obtain ⟨base, hbase, h⟩ := bind_eq_ok.mp h
    cases h
    show base.unregistered = _
    exact Relationship.unregistered_of_resolve hbase
  · obtain ⟨_, -, h⟩ := bind_eq_ok.mp h
    obtain ⟨scored, hscored, h⟩ := bind_eq_ok.mp h
    obtain ⟨combined, -, h⟩ := bind_eq_ok.mp h
    obtain ⟨standing, -, h⟩ := bind_eq_ok.mp h
    cases h
    exact Relationship.unregistered_of_score hscored

namespace InterestAnalysis

/-- Interests are reported with the codes that the registry lacks, but that of the forum. -/
theorem mem_foreign {registry : Option Registry} {forum : Code} {interests : List Interest}
    {code : String} :
    code ∈ ((interests.filter fun i => !admitted registry forum i).map
      fun i => (⟨i.code, "policy_interest"⟩ : Unregistered)).map (·.code) ↔
      (∃ i ∈ interests, i.code = code) ∧ Unlisted registry code ∧ forum.is code = false := by
  rw [List.map_map, List.mem_map]
  constructor
  · rintro ⟨i, hi, rfl⟩
    obtain ⟨hmem, hadmitted⟩ := List.mem_filter.mp hi
    have hout : admitted registry forum i = false := by simpa using hadmitted
    exact ⟨⟨i, hmem, rfl⟩, Bool.or_eq_false_iff.mp hout⟩
  · rintro ⟨⟨i, hi, rfl⟩, hout⟩
    have hadmitted : admitted registry forum i = false := Bool.or_eq_false_iff.mpr hout
    exact ⟨i, List.mem_filter.mpr ⟨hi, by rw [hadmitted]; rfl⟩, rfl⟩

/-- The analysis reports unknown contacts, unknown interests, and the code it selects if that is
unknown. -/
theorem mem_reported (m : Materials α) (f : Facts) (forum : Reference) : ∃ selected : String,
    ∀ code, code ∈ (resolve m f forum).reported ↔
      (code ∈ f.named ∧ Unlisted m.registry code) ∨
      (code ∈ f.interested ∧ Unlisted m.registry code ∧ forum.code.is code = false) ∨
      (code = canonicalCode selected ∧ Unlisted m.registry code) := by
  have hparts : ∃ selected : String, (resolve m f forum).unregistered =
      f.contactReports m.registry ++
      (f.interests.filter fun i => !admitted m.registry forum.code i).map
        (fun i => ⟨i.code, "policy_interest"⟩) ++
      Registry.missingForum m.registry (.text selected) := ⟨_, rfl⟩
  obtain ⟨selected, hparts⟩ := hparts
  refine ⟨selected, fun code => ?_⟩
  rw [Resolution.reported, hparts, List.map_append, List.map_append, List.mem_append,
    List.mem_append, mem_missingForum, mem_foreign, Facts.mem_contactReports, Facts.interested,
    mem_firstSeen, List.mem_map, or_assoc]

end InterestAnalysis

namespace Approach

/-- A doctrine that has decided on the interests alone. -/
def DecidedByInterests (a : Approach) (conflict : Option Conflict) : Prop :=
  a = .interestAnalysis ∨ a = .combinedModern ∧ conflict = some .falseConflict

/-- A doctrine reports what interest analysis reports if that decided, and otherwise the unknown
contacts only. -/
theorem unregistered_of_resolve {a : Approach} (h : a.resolve m f forum = .ok r) :
    a.DecidedByInterests r.conflict ∧
        r.unregistered = (InterestAnalysis.resolve m f forum).unregistered ∨
      ¬ a.DecidedByInterests r.conflict ∧ r.unregistered = f.contactReports m.registry := by
  cases a with
  | territorial =>
    exact .inr ⟨by simp [DecidedByInterests], Territorial.unregistered_of_resolve h⟩
  | mostSignificantRelationship =>
    exact .inr ⟨by simp [DecidedByInterests], Relationship.unregistered_of_resolve h⟩
  | interestAnalysis =>
    obtain ⟨_, -, rfl⟩ := map_eq_ok.mp h
    exact .inl ⟨.inl rfl, rfl⟩
  | betterLaw => exact .inr ⟨by simp [DecidedByInterests], BetterLaw.unregistered_of_resolve h⟩
  | combinedModern =>
    obtain ⟨_, -, h⟩ := bind_eq_ok.mp h
    simp only [CombinedModern.resolve] at h
    split at h
    · next hconflict =>
      cases h
      exact .inl ⟨.inr ⟨rfl, hconflict⟩, rfl⟩
    · next hconflict =>
      -- The second stage answers with its own reports; those of the first are gone.
      obtain ⟨second, hsecond, rfl⟩ := map_eq_ok.mp h
      have hreports : second.unregistered = f.contactReports m.registry :=
        Relationship.unregistered_of_resolve hsecond
      refine .inr ⟨?_, hreports⟩
      rintro (h | ⟨-, h⟩)
      · cases h
      · exact hconflict h

variable {a : Approach} {code : String}

/-- Past the interests, what is reported is what the contacts name and the registry lacks. -/
theorem mem_reported_of_not_decided (h : a.resolve m f forum = .ok r)
    (hd : ¬ a.DecidedByInterests r.conflict) :
    code ∈ r.reported ↔ code ∈ f.named ∧ Unlisted m.registry code := by
  rcases unregistered_of_resolve h with ⟨hd', -⟩ | ⟨-, hr⟩
  · exact absurd hd' hd
  · rw [Resolution.reported, hr, Facts.mem_contactReports]

/-- Nothing is reported that the registry has. -/
theorem unlisted_of_reported (h : a.resolve m f forum = .ok r) (hcode : code ∈ r.reported) :
    Unlisted m.registry code := by
  rcases unregistered_of_resolve h with ⟨-, hr⟩ | ⟨hd, -⟩
  · obtain ⟨selected, hmem⟩ := InterestAnalysis.mem_reported m f forum
    rw [Resolution.reported, hr] at hcode
    rcases (hmem code).mp hcode with h | h | h
    · exact h.2
    · exact h.2.1
    · exact h.2
  · exact ((mem_reported_of_not_decided h hd).mp hcode).2

theorem reports_named (h : a.resolve m f forum = .ok r) : r.Reports m.registry f.named := by
  intro code hcode hunlisted
  rcases unregistered_of_resolve h with ⟨-, hr⟩ | ⟨hd, -⟩
  · obtain ⟨selected, hmem⟩ := InterestAnalysis.mem_reported m f forum
    rw [Resolution.reported, hr]
    exact (hmem code).mpr (.inl ⟨hcode, hunlisted⟩)
  · exact (mem_reported_of_not_decided h hd).mpr ⟨hcode, hunlisted⟩

/-- The forum's own code is not foreign to interest analysis. -/
theorem mem_reported_of_decided (h : a.resolve m f forum = .ok r)
    (hd : a.DecidedByInterests r.conflict) (hcode : code ∈ f.interested)
    (hunlisted : Unlisted m.registry code) (hforum : forum.code.is code = false) :
    code ∈ r.reported := by
  rcases unregistered_of_resolve h with ⟨-, hr⟩ | ⟨hd', -⟩
  · obtain ⟨selected, hmem⟩ := InterestAnalysis.mem_reported m f forum
    rw [Resolution.reported, hr]
    exact (hmem code).mpr (.inr (.inl ⟨hcode, hunlisted, hforum⟩))
  · exact absurd hd hd'

variable {s : String}

theorem unlisted_of_reported_with_forum (h : a.resolve m f (.text s) = .ok r)
    (hcode : code ∈ (r.reportForum m.registry (.text s)).reported) :
    Unlisted m.registry code := by
  rcases Resolution.mem_reported_reportForum.mp hcode with hcode | hcode
  · exact unlisted_of_reported h hcode
  · exact (mem_missingForum.mp hcode).2

/-- The forum and what the contacts name are reported. -/
theorem reports_forum_and_named (h : a.resolve m f (.text s) = .ok r) :
    (r.reportForum m.registry (.text s)).Reports m.registry (canonicalCode s :: f.named) := by
  intro code hcode hunlisted
  rw [Resolution.mem_reported_reportForum, mem_missingForum]
  rcases List.mem_cons.mp hcode with hforum | hnamed
  · exact .inr ⟨hforum, hunlisted⟩
  · exact .inl (reports_named h code hnamed hunlisted)

/-- Where the interests decide, what they name is reported too. -/
theorem reports_interested (h : a.resolve m f (.text s) = .ok r)
    (hd : a.DecidedByInterests r.conflict) :
    (r.reportForum m.registry (.text s)).Reports m.registry f.interested := by
  intro code hcode hunlisted
  rw [Resolution.mem_reported_reportForum, mem_missingForum]
  by_cases hforum : code = canonicalCode s
  · exact .inr ⟨hforum, hunlisted⟩
  · have his : (Reference.text s).code.is code = false :=
      decide_eq_false fun heq => hforum (Option.some.inj heq).symm
    exact .inl (mem_reported_of_decided h hd hcode hunlisted his)

/-- If the contacts decided, a code that only an interest names is not reported. -/
theorem mem_forum_and_named (h : a.resolve m f (.text s) = .ok r)
    (hd : ¬ a.DecidedByInterests r.conflict)
    (hcode : code ∈ (r.reportForum m.registry (.text s)).reported) :
    code ∈ canonicalCode s :: f.named := by
  rcases Resolution.mem_reported_reportForum.mp hcode with hcode | hcode
  · exact List.mem_cons_of_mem _ ((mem_reported_of_not_decided h hd).mp hcode).1
  · exact List.mem_cons.mpr (.inl (mem_missingForum.mp hcode).1)

end Approach

/-- The reports of an analysis in a forum that is named by its code. Where the combined doctrine
does not find a false conflict, the codes of interests are reported exactly if each unknown one is
the forum or named by a contact as well. -/
theorem analyze_reports {a : Approach} {s : String} (h : analyze m a f (.text s) = .ok r) :
    let registry := some (Registry.orKnownWith m.registry m.catalog)
    (∀ code ∈ r.reported, Unlisted registry code) ∧
    r.Reports registry (canonicalCode s :: f.named) ∧
    (a = .interestAnalysis → r.Reports registry f.interested) ∧
    (a = .combinedModern → (r.Reports registry f.interested ↔
      r.conflict = some .falseConflict ∨
        ∀ code ∈ f.interested, Unlisted registry code → code ∈ canonicalCode s :: f.named)) := by
  intro registry
  obtain ⟨r', hr', rfl⟩ := map_eq_ok.mp h
  have hnamed := Approach.reports_forum_and_named hr'
  refine ⟨fun code => Approach.unlisted_of_reported_with_forum hr', hnamed,
    fun ha => Approach.reports_interested hr' (.inl ha), fun ha => ⟨fun hall => ?_, ?_⟩⟩
  · -- Where the relationship decides, an interested code is reported only if it is also named.
    by_cases hd : a.DecidedByInterests r'.conflict
    · rcases hd with hd | hd
      · exact absurd (ha.symm.trans hd) (by decide)
      · exact .inl hd.2
    · exact .inr fun code hcode hunlisted =>
        Approach.mem_forum_and_named hr' hd (hall code hcode hunlisted)
  · rintro (hconflict | hall)
    · exact Approach.reports_interested hr' (.inr ⟨ha, hconflict⟩)
    · intro code hcode hunlisted
      exact hnamed code (hall code hcode hunlisted) hunlisted

/-- An interest of an unknown jurisdiction that no contact names. -/
def foreignInterest : Facts where
  topic := .comparativeNegligence
  contacts := [⟨.placeOfInjury, "US-NY"⟩]
  interests := [⟨"ATLANTIS", "compensate its residents"⟩]

def twoStatesOnly : Materials Rat where
  registry := some .twoStates
  catalog := none
  policy := .ofEnvironment []
  lawQuality := .ok []
  weights := .ok []

/-- An interest of a law that is not registered, where the interests do not decide. -/
theorem analyze_reports_foreignInterest :
    ∃ r, analyze twoStatesOnly .combinedModern foreignInterest (.text "US-CA") = .ok r ∧
      (∀ code ∈ r.reported, Unlisted (some .twoStates) code) ∧
      r.Reports (some .twoStates) [canonicalCode "US-CA", "US-NY"] ∧
      (r.Reports (some .twoStates) ["ATLANTIS"] ↔ r.conflict = some .falseConflict ∨
        ∀ code ∈ ["ATLANTIS"], Unlisted (some .twoStates) code →
          code ∈ [canonicalCode "US-CA", "US-NY"]) := by
  obtain ⟨r, h⟩ := exists_of_isOk
    (x := analyze twoStatesOnly .combinedModern foreignInterest (.text "US-CA")) (by decide +kernel)
  obtain ⟨hsound, hnamed, -, hcombined⟩ := analyze_reports h
  exact ⟨r, h, hsound, hnamed, hcombined rfl⟩

/-- The code of that interest is unknown, and no report says so. -/
theorem analyze_misses_foreignInterest :
    ∃ r, analyze twoStatesOnly .combinedModern foreignInterest (.text "US-CA") = .ok r ∧
      "ATLANTIS" ∈ foreignInterest.interested ∧ Unlisted (some .twoStates) "ATLANTIS" ∧
      "ATLANTIS" ∉ r.reported := by
  have hreported : (analyze twoStatesOnly .combinedModern foreignInterest
      (.text "US-CA")).toOption.map (·.reported) = some [] := by decide +kernel
  obtain ⟨r, h⟩ := exists_of_isOk
    (x := analyze twoStatesOnly .combinedModern foreignInterest (.text "US-CA")) (by decide +kernel)
  rw [h] at hreported
  have hnone : r.reported = [] := Option.some.inj hreported
  refine ⟨r, h, by decide, by unfold Unlisted; decide +kernel, ?_⟩
  rw [hnone]
  exact List.not_mem_nil

end ComparativeLaw

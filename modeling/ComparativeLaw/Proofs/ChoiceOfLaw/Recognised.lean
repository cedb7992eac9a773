import ComparativeLaw.ChoiceOfLaw.Analysis
import ComparativeLaw.Proofs.ChoiceOfLaw.Contacts
import ComparativeLaw.Proofs.ChoiceOfLaw.Relationship

namespace ComparativeLaw

open Checked

variable {α : Type} [Scalar α] {removed : List Contact}

/-- Lines that name some contacts one by one and have them contribute nothing. -/
def Dismisses (lines : List (TraceLine α)) (removed : List Contact) : Prop :=
  lines.map (fun l => (l.factor, l.code, l.contribution)) =
    removed.map fun c => (c.kind.code, c.code, 0.0)

theorem dismisses_excludedLine (weight : ContactKind → α) (removed : List Contact) :
    Dismisses (removed.map (SortedContacts.excludedLine weight)) removed := by
  rw [Dismisses, List.map_map]
  rfl

/-- Resolutions that are the same but for the trace, where the first has lines ahead that dismiss
the removed contacts. -/
structure Resolution.Agrees (removed : List Contact) (r r' : Resolution α) : Prop where
  selected : r.selected = r'.selected
  approach : r.approach = r'.approach
  confidence : r.confidence = r'.confidence
  reasoning : r.reasoning = r'.reasoning
  scores : r.scores = r'.scores
  conflict : r.conflict = r'.conflict
  trace : ∃ lines, r.trace = lines ++ r'.trace ∧ Dismisses lines removed

/-- Scored candidates that agree but for lines ahead of the trace. -/
structure Relationship.Scored.Agrees (removed : List Contact) (s s' : Scored α) : Prop where
  scores : s.scores = s'.scores
  trace : ∃ lines, s.trace = lines ++ s'.trace ∧ Dismisses lines removed

namespace Territorial

omit [Scalar α] in
theorem deciding?_congr {s s' : SortedContacts α} (h : s.usable = s'.usable)
    (kinds : ContactKind × Option ContactKind) : deciding? s kinds = deciding? s' kinds := by
  have hfirst : s.first? = s'.first? := by
    funext kind
    rw [SortedContacts.first?_eq_find?, h, SortedContacts.first?_eq_find?]
  rw [deciding?, hfirst, deciding?]

theorem resolve_recognised (m : Materials α) (f : Facts) :
    Alike (Resolution.Agrees (f.unknown m.registry)) (resolve m f)
      (resolve m (f.recognised m.registry)) := by
  have hlines := dismisses_excludedLine (fun _ => (0.0 : α)) (f.unknown m.registry)
  have hcategory : (f.recognised m.registry).category = f.category := rfl
  simp only [resolve]
  -- Both runs look for the deciding contact among the same usable ones.
  rw [hcategory, deciding?_congr (SortedContacts.usable_recognised f m.registry _),
    SortedContacts.excluded_recognised]
  cases deciding? (SortedContacts.ofFacts f m.registry fun _ => (0.0 : α))
      (decidingKinds f.category) with
  | none => exact .error _
  | some e => exact .ok ⟨rfl, rfl, rfl, rfl, rfl, rfl, _, rfl, hlines⟩

end Territorial

namespace Relationship

theorem scoreSorted_agrees (topic : Topic) (weight : ContactKind → α) {s s' : SortedContacts α}
    (h : s.usable = s'.usable) (hs : Dismisses s.excluded removed) (hs' : s'.excluded = []) :
    Alike (Scored.Agrees removed) (scoreSorted topic weight s) (scoreSorted topic weight s') := by
  unfold scoreSorted
  rw [scoresOf_congr weight h, h, hs']
  split
  · exact .error _
  · split
    · exact .error _
    · refine Alike.rfl.map fun scores _ hscores => ?_
      subst hscores
      exact ⟨rfl, s.excluded, rfl, hs⟩

theorem score_recognised (m : Materials α) (f : Facts) :
    Alike (Scored.Agrees (f.unknown m.registry)) (score m f)
      (score m (f.recognised m.registry)) := by
  rw [score_eq, score_eq]
  refine Alike.rfl.bind fun overrides _ h => ?_
  subst h
  exact scoreSorted_agrees f.topic _ (SortedContacts.usable_recognised f m.registry _).symm
    (dismisses_excludedLine _ _) (SortedContacts.excluded_recognised f m.registry _)

theorem resolve_recognised (m : Materials α) (f : Facts) (forum : Reference) :
    Alike (Resolution.Agrees (f.unknown m.registry)) (resolve m f forum)
      (resolve m (f.recognised m.registry) forum) := by
  unfold resolve
  refine (score_recognised m f).bind fun s s' h => ?_
  rw [h.scores]
  refine Alike.rfl.bind fun standing _ hs => ?_
  subst hs
  exact .ok ⟨rfl, rfl, rfl, rfl, rfl, rfl, h.trace⟩

end Relationship

namespace InterestAnalysis

/-- Interests are held against the candidates only, which are the same in both runs. -/
theorem resolve_recognised (m : Materials α) (f : Facts) (forum : Reference) :
    (resolve m f forum).Agrees (f.unknown m.registry)
      (resolve m (f.recognised m.registry) forum) := by
  have hlines := dismisses_excludedLine (fun _ => (0.0 : α)) (f.unknown m.registry)
  simp only [resolve, SortedContacts.candidates_recognised, SortedContacts.excluded_recognised]
  -- The ignored interests and the interested jurisdictions follow the excluded contacts.
  refine ⟨rfl, rfl, rfl, rfl, rfl, rfl, _, ?_, hlines⟩
  rw [List.nil_append, List.append_assoc]
  rfl

end InterestAnalysis

namespace CombinedModern

theorem interestOnly_agrees {r r' : Resolution α} (h : r.Agrees removed r') :
    (interestOnly r).Agrees removed (interestOnly r') where
  selected := h.selected
  approach := rfl
  confidence := h.confidence
  reasoning := congrArg (· ++ " No relationship analysis is needed.") h.reasoning
  scores := h.scores
  conflict := h.conflict
  trace := h.trace

theorem bothStages_agrees {first first' second second' : Resolution α}
    (h1 : first.Agrees removed first') (h2 : second.Agrees removed second') :
    (bothStages first second).Agrees removed (bothStages first' second') where
  selected := h2.selected
  approach := rfl
  confidence := by rw [bothStages, h1.confidence, h2.confidence, bothStages]
  reasoning := by
    rw [bothStages, h1.confidence, h2.confidence, h1.reasoning, h2.reasoning, bothStages]
  scores := h2.scores
  conflict := h1.conflict
  trace := h2.trace

theorem resolve_recognised (m : Materials α) (f : Facts) (forum : Reference) :
    Alike (Resolution.Agrees (f.unknown m.registry)) (resolve m f forum)
      (resolve m (f.recognised m.registry) forum) := by
  have hfirst := InterestAnalysis.resolve_recognised m f forum
  simp only [resolve]
  -- Both runs stop after the first stage, or neither does.
  rw [hfirst.conflict]
  split
  · exact .ok (interestOnly_agrees hfirst)
  · exact (Relationship.resolve_recognised m f forum).map fun _ _ h => bothStages_agrees hfirst h

end CombinedModern

namespace BetterLaw

theorem capped_recognised (m : Materials α) (f : Facts) (forum : Reference) :
    Alike (Resolution.Agrees (f.unknown m.registry)) (capped m f forum)
      (capped m (f.recognised m.registry) forum) := by
  unfold capped
  refine (Relationship.resolve_recognised m f forum).bind fun r r' h => ?_
  rw [h.confidence, h.reasoning]
  exact .ok ⟨h.selected, rfl, rfl, rfl, h.scores, rfl, h.trace⟩

theorem weighed_recognised (m : Materials α) (quality : Scores α) (f : Facts)
    (forum : Reference) : Alike (Resolution.Agrees (f.unknown m.registry))
      (weighed m quality f forum) (weighed m quality (f.recognised m.registry) forum) := by
  unfold weighed
  refine Alike.rfl.bind fun _ _ _ => ?_
  refine (Relationship.score_recognised m f).bind fun s s' h => ?_
  obtain ⟨lines, htrace, hlines⟩ := h.trace
  simp only [h.scores, htrace]
  refine Alike.rfl.bind fun combined _ hc => ?_
  subst hc
  refine Alike.rfl.bind fun standing _ hs => ?_
  subst hs
  exact .ok ⟨rfl, rfl, rfl, rfl, rfl, rfl, lines, List.append_assoc .., hlines⟩

theorem resolve_recognised (m : Materials α) (f : Facts) (forum : Reference) :
    Alike (Resolution.Agrees (f.unknown m.registry)) (resolve m f forum)
      (resolve m (f.recognised m.registry) forum) := by
  unfold resolve
  refine Alike.rfl.bind fun quality _ hq => ?_
  subst hq
  split
  · exact capped_recognised m f forum
  · exact weighed_recognised m quality f forum

end BetterLaw

theorem Approach.resolve_recognised (a : Approach) (m : Materials α) (f : Facts)
    (forum : Reference) : Alike (Resolution.Agrees (f.unknown m.registry))
      (a.resolve m f forum) (a.resolve m (f.recognised m.registry) forum) := by
  cases a with
  | territorial => exact Territorial.resolve_recognised m f
  | mostSignificantRelationship => exact Relationship.resolve_recognised m f forum
  | interestAnalysis =>
    exact Alike.rfl.map fun _ _ _ => InterestAnalysis.resolve_recognised m f forum
  | betterLaw => exact BetterLaw.resolve_recognised m f forum
  | combinedModern =>
    exact Alike.rfl.bind fun _ _ _ => CombinedModern.resolve_recognised m f forum

/-- Whichever doctrine runs, leaving out the contacts of unknown jurisdictions changes nothing but
the lines that dismiss them. -/
theorem analyze_recognised (m : Materials α) (a : Approach) (f : Facts) (forum : Reference) :
    Alike (Resolution.Agrees (f.unknown (some (.orKnownWith m.registry m.catalog))))
      (analyze m a f forum)
      (analyze m a (f.recognised (some (.orKnownWith m.registry m.catalog))) forum) := by
  have h := a.resolve_recognised
    { m with registry := some (.orKnownWith m.registry m.catalog) } f forum
  exact h.map fun r r' hr =>
    ⟨hr.selected, hr.approach, hr.confidence, hr.reasoning, hr.scores, hr.conflict, hr.trace⟩

end ComparativeLaw

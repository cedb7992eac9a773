import ComparativeLaw.Proofs.ChoiceOfLaw.Reports
import ComparativeLaw.Proofs.Jurisdiction.Canonical

namespace ComparativeLaw

open Checked

variable {α : Type} [Scalar α] {m : Materials α} {f : Facts} {forum forum' : Reference}

theorem InterestAnalysis.resolve_congr (h : forum.code = forum'.code) :
    resolve m f forum = resolve m f forum' := by
  simp only [resolve, h]

theorem Relationship.resolve_congr (h : forum.code = forum'.code) :
    resolve m f forum = resolve m f forum' := by
  simp only [resolve, h]

theorem BetterLaw.resolve_congr (h : forum.code = forum'.code) :
    resolve m f forum = resolve m f forum' := by
  have hcapped : capped m f forum = capped m f forum' := by
    rw [capped, Relationship.resolve_congr h, capped]
  have hweighed : ∀ quality, weighed m quality f forum = weighed m quality f forum' := by
    intro quality
    simp only [weighed, h]
  simp only [resolve, hcapped, hweighed]

/-- Both stages see the code of the forum only. -/
theorem CombinedModern.resolve_congr (h : forum.code = forum'.code) :
    resolve m f forum = resolve m f forum' := by
  simp only [resolve, InterestAnalysis.resolve_congr h, Relationship.resolve_congr h]

namespace Approach

theorem select_congr (h : forum.code = forum'.code) (override : Json) :
    select forum override = select forum' override := by
  have hkey : forum.checkKey = forum'.checkKey := congrArg Code.checkKey h
  have hown : ofForum forum = ofForum forum' := by
    rw [ofForum, h, ofForum]
  cases override <;> simp only [select, hkey, hown]

/-- Whichever doctrine applies, of the forum only its code is read. -/
theorem resolve_congr (a : Approach) (h : forum.code = forum'.code) :
    a.resolve m f forum = a.resolve m f forum' := by
  have hkey : forum.checkKey = forum'.checkKey := congrArg Code.checkKey h
  cases a with
  | territorial => rfl
  | mostSignificantRelationship => exact Relationship.resolve_congr h
  | interestAnalysis => simp only [resolve, hkey, InterestAnalysis.resolve_congr h]
  | betterLaw => exact BetterLaw.resolve_congr h
  | combinedModern => simp only [resolve, hkey, CombinedModern.resolve_congr h]

end Approach

namespace Resolution

variable {registry : Option Registry} {r : Resolution α} {s : String}

omit [Scalar α]

/-- A jurisdiction that is given as such is not reported. -/
theorem reportForum_known (j : Jurisdiction) : r.reportForum registry (.known j) = r := by
  simp [reportForum, Registry.missingForum]

/-- A text is reported if the registry lacks it and nothing has reported it before. -/
theorem unregistered_reportForum (hs : canonicalCode s = s) :
    (r.reportForum registry (.text s)).unregistered = r.unregistered ++
      if Registry.accepts registry s = true ∨ s ∈ r.reported then [] else [⟨s, "forum"⟩] := by
  simp only [reportForum, Registry.missingForum, hs]
  by_cases hknown : Registry.accepts registry s = true
  · rw [if_pos hknown, if_pos (.inl hknown), List.filter_nil]
  · by_cases hreported : s ∈ r.reported
    · obtain ⟨u, hu, hcode⟩ := List.mem_map.mp hreported
      have hany : (r.unregistered.any fun v => v.code = s) = true :=
        List.any_eq_true.mpr ⟨u, hu, decide_eq_true hcode⟩
      simp [hknown, hreported, hany]
    · have hnone : (r.unregistered.any fun v => v.code = s) = false := by
        refine List.any_eq_false.mpr fun u hu hcode => hreported ?_
        exact List.mem_map.mpr ⟨u, hu, of_decide_eq_true hcode⟩
      simp [hknown, hreported, hnone]

/-- Resolutions of one dispute, in a forum that is given by itself and in the forum of a code. -/
structure InForumOf (registry : Option Registry) (s : String) (r r' : Resolution α) : Prop where
  selected : r'.selected = r.selected
  approach : r'.approach = r.approach
  confidence : r'.confidence = r.confidence
  scores : r'.scores = r.scores
  trace : r'.trace = r.trace
  reasoning : r'.reasoning = r.reasoning
  conflict : r'.conflict = r.conflict
  reports : r'.unregistered = r.unregistered ++
    if Registry.accepts registry s = true ∨ s ∈ r.reported then [] else [⟨s, "forum"⟩]
  same_reports : r'.unregistered = r.unregistered ↔
    Registry.accepts registry s = true ∨ s ∈ r.reported

theorem inForumOf_reportForum (hs : canonicalCode s = s) :
    InForumOf registry s r (r.reportForum registry (.text s)) := by
  have hreports : (r.reportForum registry (.text s)).unregistered = r.unregistered ++
      if Registry.accepts registry s = true ∨ s ∈ r.reported then [] else [⟨s, "forum"⟩] :=
    unregistered_reportForum hs
  refine ⟨rfl, rfl, rfl, rfl, rfl, rfl, rfl, hreports, ?_⟩
  rw [hreports, List.append_right_eq_self]
  split
  · next h => exact iff_of_true rfl h
  · next h => exact iff_of_false (List.cons_ne_nil _ _) h

end Resolution

/-- Resolves a dispute by the doctrine that the caller names, or by that of the forum. -/
def resolveBy (m : Materials α) (override : Json) (f : Facts) (forum : Reference) :
    Except Fault (Resolution α) := do
  analyze m (← Approach.select forum override) f forum

/-- A forum that is given by itself and its code, if canonical, make for the same failure or for
resolutions that differ at most in a report of the forum. The reports are the same exactly if the
forum is known or reported anyway. -/
theorem resolveBy_known_text (m : Materials α) (override : Json) (f : Facts) {j : Jurisdiction}
    {s : String} (hj : j.code = .text s) (hs : canonicalCode s = s) :
    Alike (Resolution.InForumOf (some (Registry.orKnownWith m.registry m.catalog)) s)
      (resolveBy m override f (.known j)) (resolveBy m override f (.text s)) := by
  have hcode : (Reference.known j).code = (Reference.text s).code :=
    hj.trans (congrArg Code.text hs.symm)
  unfold resolveBy
  rw [Approach.select_congr hcode]
  refine Alike.rfl.bind fun a _ ha => ?_
  subst ha
  -- Both runs come to one resolution before the forum is reported.
  simp only [analyze, a.resolve_congr hcode]
  refine Alike.rfl.map fun r _ hr => ?_
  subst hr
  rw [Resolution.reportForum_known]
  exact Resolution.inForumOf_reportForum hs

def atlantis : Jurisdiction := .ofCode "ATLANTIS"

/-- A forum that is not registered, given as a jurisdiction and as a text. -/
theorem resolveBy_known_text_atlantis :
    atlantis.code = .text "ATLANTIS" ∧ canonicalCode "ATLANTIS" = "ATLANTIS" ∧
    ∃ r r', resolveBy twoStatesOnly "interest_analysis" foreignInterest (.known atlantis) = .ok r ∧
      resolveBy twoStatesOnly "interest_analysis" foreignInterest (.text "ATLANTIS") = .ok r' ∧
      Resolution.InForumOf (some .twoStates) "ATLANTIS" r r' ∧
      r'.unregistered = r.unregistered := by
  have hs : canonicalCode "ATLANTIS" = "ATLANTIS" := by decide +kernel
  obtain ⟨r, h⟩ := exists_of_isOk
    (x := resolveBy twoStatesOnly "interest_analysis" foreignInterest (.known atlantis))
    (by decide +kernel)
  obtain ⟨r', h'⟩ := exists_of_isOk
    (x := resolveBy twoStatesOnly "interest_analysis" foreignInterest (.text "ATLANTIS"))
    (by decide +kernel)
  have hreported : (resolveBy twoStatesOnly "interest_analysis" foreignInterest
      (.known atlantis)).toOption.map (·.reported) = some ["ATLANTIS"] := by decide +kernel
  rw [h] at hreported
  have hmem : "ATLANTIS" ∈ r.reported := by
    have honly : r.reported = ["ATLANTIS"] := Option.some.inj hreported
    rw [honly]
    exact List.mem_singleton_self _
  have hboth := resolveBy_known_text twoStatesOnly "interest_analysis" foreignInterest
    (j := atlantis) rfl hs
  rw [h, h'] at hboth
  cases hboth with
  | ok hsame =>
    exact ⟨rfl, hs, r, r', h, h', hsame, hsame.same_reports.mpr (.inr hmem)⟩

/-- By the territorial rule an unknown forum is reported if its code is given and not if it is
given by itself. -/
theorem resolveBy_known_unreported :
    ∃ r r', resolveBy twoStatesOnly "territorial" foreignInterest (.known atlantis) = .ok r ∧
      resolveBy twoStatesOnly "territorial" foreignInterest (.text "ATLANTIS") = .ok r' ∧
      Unlisted twoStatesOnly.registry "ATLANTIS" ∧
      r.unregistered = [] ∧ r'.unregistered = [⟨"ATLANTIS", "forum"⟩] := by
  have hknown : (resolveBy twoStatesOnly "territorial" foreignInterest
      (.known atlantis)).toOption.map (·.unregistered) = some [] := by decide +kernel
  have htext : (resolveBy twoStatesOnly "territorial" foreignInterest
      (.text "ATLANTIS")).toOption.map (·.unregistered) = some [⟨"ATLANTIS", "forum"⟩] := by
    decide +kernel
  obtain ⟨r, h, hnone⟩ := exists_of_map_toOption hknown
  obtain ⟨r', h', hforum⟩ := exists_of_map_toOption htext
  exact ⟨r, r', h, h', by unfold Unlisted; decide +kernel, hnone, hforum⟩

end ComparativeLaw

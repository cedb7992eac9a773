import ComparativeLaw.Proofs.ChoiceOfLaw.Standing
import ComparativeLaw.Proofs.Table

namespace ComparativeLaw.Standing

open Scalar

section Fractions

variable {top second : Rat}

/-- Over a positive score the gap is relative to it. -/
theorem gap_of_pos (ht : 0 < top) : gap top second = clamp 1 ((top - second) / top) := by
  rw [gap, zero_rat, one_rat, if_neg (not_le.mpr ht)]

theorem gap_of_nonpos (ht : top ≤ 0) : gap top second = 0 := by
  rw [gap, zero_rat, if_pos ht]

/-- The gap below a positive top is not cut off. -/
theorem gap_eq_div (ht : 0 < top) (h0 : 0 ≤ second) (hle : second ≤ top) :
    gap top second = (top - second) / top := by
  have hlow : 0 ≤ (top - second) / top := div_nonneg (sub_nonneg.mpr hle) ht.le
  have hhigh : (top - second) / top ≤ 1 := div_le_one_of_le₀ (sub_le_self top h0) ht.le
  rw [gap_of_pos ht, clamp_of_mem hlow hhigh]

/-- There is no gap if the second is level or there is nothing to lead by. -/
theorem gap_eq_zero_iff (h0 : 0 ≤ second) (hle : second ≤ top) :
    gap top second = 0 ↔ top = 0 ∨ second = top := by
  rcases (h0.trans hle).eq_or_lt with htop | ht
  · exact iff_of_true (gap_of_nonpos htop.ge) (.inl htop.symm)
  · rw [gap_eq_div ht h0 hle, div_eq_zero_iff, sub_eq_zero, or_comm, @eq_comm _ top second]

/-- The gap is full if the second has nothing. -/
theorem gap_eq_one_iff (h0 : 0 ≤ second) (hle : second ≤ top) :
    gap top second = 1 ↔ 0 < top ∧ second = 0 := by
  rcases (h0.trans hle).eq_or_lt with htop | ht
  · rw [gap_of_nonpos htop.ge]
    exact iff_of_false zero_ne_one fun h => h.1.ne htop
  · rw [gap_eq_div ht h0 hle, div_eq_one_iff_eq ht.ne', sub_eq_self]
    exact (and_iff_right ht).symm

end Fractions

variable {scores : Scores Rat} {forum : Option String} {s : Standing Rat}

/-- A winner whom the forum does not displace stands before all others with the top score. -/
theorem Tops.exists_split (h : s.Tops scores)
    (hfirst : (tied scores s.top).head? = some s.winner) :
    ∃ front back, scores = front ++ (s.winner, s.top) :: back ∧ ∀ e ∈ front, e.2 < s.top := by
  have hfind : scores.find? (fun e => e.2 == s.top) = some (s.winner, s.top) := by
    rw [tied, List.head?_map, List.head?_filter, Option.map_eq_some_iff] at hfirst
    obtain ⟨⟨code, score⟩, hfind, rfl⟩ := hfirst
    have hscore : score = s.top := by simpa using List.find?_some hfind
    rw [hfind, hscore]
  obtain ⟨-, front, back, hsplit, hfront⟩ := List.find?_eq_some_iff_append.mp hfind
  refine ⟨front, back, hsplit, fun e he => ?_⟩
  have hne : e.2 ≠ s.top := by simpa using hfront e he
  have hle : e.2 ≤ s.top := h.le_top e (hsplit ▸ List.mem_append_left _ he)
  exact hle.lt_of_ne hne

/-- A winner, a top score and a runner-up's score that are those of the candidates, with a
confidence that is the gap between the two scores. -/
structure Leads (scores : Scores Rat) (forum : Option String) (s : Standing Rat) : Prop where
  winner_score : Table.get? scores s.winner = some s.top
  le_top : ∀ e ∈ scores, e.2 ≤ s.top
  /-- A forum with the top score wins. -/
  forum_wins : ∀ code ∈ forum, (code, s.top) ∈ scores → s.winner = code
  /-- Otherwise the first candidate with the top score wins. -/
  first_wins : (∀ code ∈ forum, (code, s.top) ∉ scores) →
    ∃ front back, scores = front ++ (s.winner, s.top) :: back ∧ ∀ e ∈ front, e.2 < s.top
  second_alone : (∀ e ∈ scores, e.1 = s.winner) → s.second = 0
  second_largest : (∃ e ∈ scores, e.1 ≠ s.winner) →
    (∃ e ∈ scores, e.1 ≠ s.winner ∧ e.2 = s.second) ∧
      ∀ e ∈ scores, e.1 ≠ s.winner → e.2 ≤ s.second
  second_nonneg : 0 ≤ s.second
  second_le : s.second ≤ s.top
  confidence_mem : 0 ≤ s.confidence ∧ s.confidence ≤ 1
  /-- Nothing is cut off. -/
  confidence_eq : 0 < s.top → s.confidence = (s.top - s.second) / s.top
  confidence_zero : s.confidence = 0 ↔ s.top = 0 ∨ ∃ e ∈ scores, e.1 ≠ s.winner ∧ e.2 = s.top
  confidence_one : s.confidence = 1 ↔ 0 < s.top ∧ ∀ e ∈ scores, e.1 ≠ s.winner → e.2 = 0

/-- The runner-up shares a positive top score exactly if there is a tie. -/
theorem Tops.secondBest_eq_top_iff (h : s.Tops scores) (ht : 0 < s.top) :
    secondBest scores s.winner = s.top ↔ ∃ e ∈ scores, e.1 ≠ s.winner ∧ e.2 = s.top := by
  constructor
  · intro hsecond
    rcases secondBest_cases scores s.winner with ⟨-, hzero⟩ | ⟨e, he, hne, heq, -⟩
    · exact absurd (hzero.symm.trans hsecond) ht.ne
    · exact ⟨e, he, hne, heq.symm.trans hsecond⟩
  · rintro ⟨e, he, hne, heq⟩
    have hshared : (e.1, s.top) ∈ scores := heq ▸ he
    exact h.secondBest_eq hshared hne

theorem secondBest_eq_zero_iff (h : ∀ e ∈ scores, 0 ≤ e.2) (winner : String) :
    secondBest scores winner = 0 ↔ ∀ e ∈ scores, e.1 ≠ winner → e.2 = 0 := by
  constructor
  · intro hsecond e he hne
    exact le_antisymm (hsecond ▸ le_secondBest he hne) (h e he)
  · intro hzero
    rcases secondBest_cases scores winner with ⟨-, hsecond⟩ | ⟨e, he, hne, hsecond, -⟩
    · exact hsecond
    · rw [hsecond]
      exact hzero e he hne

/-- Among candidates that are scored once each, and not below zero, there is always a winner, with
the top score; and the confidence in it tells a tie and an uncontested case from all others. -/
theorem of_leads (hne : scores ≠ []) (hnodup : (scores.map (·.1)).Nodup)
    (hnonneg : ∀ e ∈ scores, 0 ≤ e.2) (forum : Option String) :
    ∃ s, of scores forum = .ok s ∧ s.Leads scores forum := by
  obtain ⟨s, hs⟩ := exists_of hne (fun e _ => beq_self_eq_true e.2) forum
  obtain ⟨-, hwinner, hsecond⟩ := of_eq_ok.mp hs
  have htops : s.Tops scores := tops_of hs
  have htop : 0 ≤ s.top := hnonneg _ htops.winner_mem
  have hlow : 0 ≤ s.second := hsecond ▸ secondBest_nonneg hnonneg s.winner
  have hhigh : s.second ≤ s.top := hsecond ▸ htops.second_le htop
  refine ⟨s, hs, ?_⟩
  constructor
  case winner_score => exact Table.get?_of_mem hnodup htops.winner_mem
  case le_top => exact htops.le_top
  case forum_wins =>
    intro code hcode hin
    cases hcode
    exact winner_of_forum hs hin
  case first_wins =>
    intro hforum
    have hnone : forum.filter (tied scores s.top).contains = none := by
      rw [Option.filter_eq_none_iff]
      intro code hcode hin
      exact hforum code hcode (mem_tied.mp (List.contains_iff_mem.mp hin))
    rw [hnone, Option.none_or] at hwinner
    exact htops.exists_split hwinner
  case second_alone =>
    intro honly
    rw [hsecond]
    exact (secondBest_eq_zero_iff hnonneg s.winner).mpr fun e he hne => absurd (honly e he) hne
  case second_largest =>
    rintro ⟨e, he, hne⟩
    rw [hsecond]
    rcases secondBest_cases scores s.winner with ⟨honly, -⟩ | ⟨e', he', hne', heq, hgreatest⟩
    · exact absurd (honly e he) hne
    · rw [heq]
      exact ⟨⟨e', he', hne', rfl⟩, hgreatest⟩
  case second_nonneg => exact hlow
  case second_le => exact hhigh
  case confidence_mem => exact s.confidence_mem
  case confidence_eq => exact fun ht => gap_eq_div ht hlow hhigh
  case confidence_zero =>
    rw [confidence, gap_eq_zero_iff hlow hhigh]
    -- Where the top is zero, all scores are, and there is no gap whoever else is scored.
    rcases htop.eq_or_lt with hzero | ht
    · exact iff_of_true (.inl hzero.symm) (.inl hzero.symm)
    · rw [hsecond, htops.secondBest_eq_top_iff ht]
  case confidence_one =>
    rw [confidence, gap_eq_one_iff hlow hhigh, hsecond, secondBest_eq_zero_iff hnonneg]

/-- Two candidates tied at the top and one that does not score. -/
def tiedPair : Scores Rat := [("US-NY", 1 / 2), ("US-CA", 1 / 2), ("US-TX", 0)]

/-- Two candidates that are level, one of them the forum. -/
theorem of_leads_tiedPair : tiedPair ≠ [] ∧ (tiedPair.map (·.1)).Nodup ∧
    (∀ e ∈ tiedPair, 0 ≤ e.2) ∧ ∃ s, of tiedPair (some "US-CA") = .ok s ∧
      s.Leads tiedPair (some "US-CA") ∧ s.winner = "US-CA" ∧ s.confidence = 0 := by
  have hne : tiedPair ≠ [] := by decide
  have hnodup : (tiedPair.map (·.1)).Nodup := by decide
  have hnonneg : ∀ e ∈ tiedPair, 0 ≤ e.2 := by decide +kernel
  obtain ⟨s, hs, hleads⟩ := of_leads hne hnodup hnonneg (some "US-CA")
  have htop : s.top = 1 / 2 := by
    have hlargest : largest? (tiedPair.map (·.2)) = some (1 / 2) := by decide +kernel
    exact Option.some.inj ((of_eq_ok.mp hs).1.symm.trans hlargest)
  have hwinner : s.winner = "US-CA" := by
    apply hleads.forum_wins "US-CA" rfl
    rw [htop, tiedPair]
    simp
  refine ⟨hne, hnodup, hnonneg, s, hs, hleads, hwinner, hleads.confidence_zero.mpr (.inr ?_)⟩
  rw [hwinner, htop]
  decide +kernel

end ComparativeLaw.Standing

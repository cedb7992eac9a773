import ComparativeLaw.ChoiceOfLaw.Standing
import ComparativeLaw.Proofs.Number.Exact

namespace ComparativeLaw.Standing

open Scalar

section Numbers

variable {α : Type} [Scalar α]

theorem largest?_mem {xs : List α} {top : α} (h : largest? xs = some top) : top ∈ xs := by
  cases xs with
  | nil => cases h
  | cons x xs =>
    cases h
    -- On the numbers that follow; the larger of two is one of them.
    induction xs generalizing x with
    | nil => exact List.mem_singleton_self x
    | cons y xs ih =>
      have hlarger : larger x y = x ∨ larger x y = y := by
        unfold larger
        split
        · exact .inr rfl
        · exact .inl rfl
      rw [List.foldl_cons]
      rcases List.mem_cons.mp (ih (larger x y)) with heq | hin
      · rw [heq]
        rcases hlarger with hx | hy
        · simp [hx]
        · simp [hy]
      · exact List.mem_cons_of_mem x (List.mem_cons_of_mem y hin)

/-- What a standing is made of: the winner is the forum if that is tied, otherwise the first of the
tied candidates. -/
theorem of_eq_ok {scores : Scores α} {forum : Option String} {s : Standing α} :
    of scores forum = .ok s ↔ largest? (scores.map (·.2)) = some s.top ∧
      (forum.filter (tied scores s.top).contains).or (tied scores s.top).head? = some s.winner ∧
      s.second = secondBest scores s.winner := by
  unfold of
  constructor
  · intro h
    split at h
    · cases h
    · next top htop =>
      simp only at h
      split at h
      · cases h
      · next winner hwinner =>
        cases h
        exact ⟨htop, hwinner, rfl⟩
  · rintro ⟨htop, hwinner, hsecond⟩
    simp only [htop, hwinner]
    rw [← hsecond]

/-- Among some candidates there is a winner, if their scores are at least equal to themselves. -/
theorem exists_of {scores : Scores α} (hne : scores ≠ [])
    (hrefl : ∀ e ∈ scores, (e.2 == e.2) = true) (forum : Option String) :
    ∃ s, of scores forum = .ok s := by
  obtain ⟨e, rest, rfl⟩ := List.exists_cons_of_ne_nil hne
  let top := (rest.map (·.2)).foldl larger e.2
  have htop : largest? ((e :: rest).map (·.2)) = some top := rfl
  obtain ⟨e', he', heq⟩ := List.mem_map.mp (largest?_mem htop)
  -- The candidate with the top score is tied, so the list of the tied ones has a head.
  have htied : e'.1 ∈ tied (e :: rest) top := by
    refine List.mem_map.mpr ⟨e', List.mem_filter.mpr ⟨he', ?_⟩, rfl⟩
    rw [← heq]
    exact hrefl e' he'
  obtain ⟨first, others, hsplit⟩ := List.exists_cons_of_ne_nil (List.ne_nil_of_mem htied)
  have hwinner : ((forum.filter (tied (e :: rest) top).contains).or
      (tied (e :: rest) top).head?).isSome = true := by
    rw [Option.isSome_or, hsplit]
    exact Bool.or_true _
  obtain ⟨winner, hwinner⟩ := Option.isSome_iff_exists.mp hwinner
  exact ⟨⟨winner, top, secondBest (e :: rest) winner⟩, of_eq_ok.mpr ⟨htop, hwinner, rfl⟩⟩

end Numbers

theorem le_foldl_larger (x : Rat) (xs : List Rat) : ∀ y ∈ x :: xs, y ≤ xs.foldl larger x := by
  have hmax : (larger : Rat → Rat → Rat) = max := by
    funext a b
    exact larger_rat a b
  rw [hmax]
  induction xs generalizing x with
  | nil => simp
  | cons z xs ih =>
    have htop : max x z ≤ xs.foldl max (max x z) := ih _ _ List.mem_cons_self
    rw [List.foldl_cons]
    intro y hy
    simp only [List.mem_cons] at hy
    rcases hy with rfl | rfl | hy
    · exact (le_max_left y z).trans htop
    · exact (le_max_right x y).trans htop
    · exact ih _ y (List.mem_cons_of_mem _ hy)

/-- The largest score is one of them, and none is larger. -/
theorem largest?_greatest {xs : List Rat} {top : Rat} (h : largest? xs = some top) :
    top ∈ xs ∧ ∀ x ∈ xs, x ≤ top := by
  refine ⟨largest?_mem h, ?_⟩
  cases xs with
  | nil => cases h
  | cons x xs =>
    cases h
    exact le_foldl_larger x xs

/-- A standing whose winner has the top score of the candidates. -/
structure Tops (scores : Scores Rat) (s : Standing Rat) : Prop where
  winner_mem : (s.winner, s.top) ∈ scores
  le_top : ∀ e ∈ scores, e.2 ≤ s.top

/-- The tied ones are those with the top score. -/
theorem mem_tied {scores : Scores Rat} {top : Rat} {code : String} :
    code ∈ tied scores top ↔ (code, top) ∈ scores := by
  simp only [tied, List.mem_map, List.mem_filter, beq_iff_eq]
  constructor
  · rintro ⟨e, ⟨he, rfl⟩, rfl⟩
    exact he
  · intro h
    exact ⟨_, ⟨h, rfl⟩, rfl⟩

theorem tops_of {scores : Scores Rat} {forum : Option String} {s : Standing Rat}
    (h : of scores forum = .ok s) : s.Tops scores := by
  obtain ⟨htop, hwinner, -⟩ := of_eq_ok.mp h
  obtain ⟨-, hle⟩ := largest?_greatest htop
  refine ⟨mem_tied.mp ?_, fun e he => hle e.2 (List.mem_map_of_mem he)⟩
  rcases Option.or_eq_some_iff.mp hwinner with hforum | ⟨-, hfirst⟩
  · obtain ⟨-, hin⟩ := Option.filter_eq_some_iff.mp hforum
    exact List.contains_iff_mem.mp hin
  · exact List.mem_of_head? hfirst

/-- A forum that shares the top score wins. -/
theorem winner_of_forum {scores : Scores Rat} {code : String} {s : Standing Rat}
    (h : of scores (some code) = .ok s) (hc : (code, s.top) ∈ scores) : s.winner = code := by
  obtain ⟨-, hwinner, -⟩ := of_eq_ok.mp h
  have htied : (tied scores s.top).contains code = true :=
    List.contains_iff_mem.mpr (mem_tied.mpr hc)
  rw [Option.filter_some, if_pos htied] at hwinner
  exact (Option.some.inj hwinner).symm

/-- The largest score does not depend on the order. -/
theorem largest?_perm {xs ys : List Rat} (hp : xs.Perm ys) : largest? xs = largest? ys := by
  cases hx : largest? xs with
  | none =>
    cases xs with
    | nil => rw [List.nil_perm.mp hp, ← hx]
    | cons x xs => cases hx
  | some top =>
    cases hy : largest? ys with
    | none =>
      cases ys with
      | nil => rw [List.perm_nil.mp hp] at hx; cases hx
      | cons y ys => cases hy
    | some top' =>
      obtain ⟨hmem, hle⟩ := largest?_greatest hx
      obtain ⟨hmem', hle'⟩ := largest?_greatest hy
      have hxy : top ≤ top' := hle' top (hp.mem_iff.mp hmem)
      have hyx : top' ≤ top := hle top' (hp.mem_iff.mpr hmem')
      rw [le_antisymm hxy hyx]

/-- Nor does the second. -/
theorem secondBest_perm {scores scores' : Scores Rat} (hp : scores.Perm scores') (winner : String) :
    secondBest scores winner = secondBest scores' winner := by
  rw [secondBest, largest?_perm ((hp.filter _).map _), secondBest]

/-- The runner-up's score is the greatest of the other candidates, or zero without any. -/
theorem secondBest_cases (scores : Scores Rat) (winner : String) :
    (∀ e ∈ scores, e.1 = winner) ∧ secondBest scores winner = 0 ∨
    ∃ e ∈ scores, e.1 ≠ winner ∧ secondBest scores winner = e.2 ∧
      ∀ e' ∈ scores, e'.1 ≠ winner → e'.2 ≤ e.2 := by
  let rest := scores.filter fun e => e.1 ≠ winner
  have hrest : ∀ e, e ∈ rest ↔ e ∈ scores ∧ e.1 ≠ winner := by
    intro e
    rw [List.mem_filter, decide_eq_true_iff]
  have hsecond : secondBest scores winner = (largest? (rest.map (·.2))).getD 0 := by
    rw [secondBest, zero_rat]
  rw [hsecond]
  cases hlargest : largest? (rest.map (·.2)) with
  | none =>
    -- No largest value means that nobody but the winner has a score.
    have hnil : rest = [] := by
      cases hsplit : rest with
      | nil => rfl
      | cons e es => rw [hsplit] at hlargest; cases hlargest
    refine .inl ⟨fun e he => ?_, rfl⟩
    by_contra hne
    have hmem := (hrest e).mpr ⟨he, hne⟩
    rw [hnil] at hmem
    cases hmem
  | some second =>
    obtain ⟨hmem, hle⟩ := largest?_greatest hlargest
    obtain ⟨e, he, rfl⟩ := List.mem_map.mp hmem
    obtain ⟨he, hne⟩ := (hrest e).mp he
    refine .inr ⟨e, he, hne, rfl, fun e' he' hne' => ?_⟩
    exact hle e'.2 (List.mem_map_of_mem ((hrest e').mpr ⟨he', hne'⟩))

/-- No candidate but the winner has more than the second. -/
theorem le_secondBest {scores : Scores Rat} {winner : String} {e : String × Rat} (he : e ∈ scores)
    (hne : e.1 ≠ winner) : e.2 ≤ secondBest scores winner := by
  rcases secondBest_cases scores winner with ⟨honly, -⟩ | ⟨e', -, -, hsecond, hgreatest⟩
  · exact absurd (honly e he) hne
  · rw [hsecond]
    exact hgreatest e he hne

theorem secondBest_nonneg {scores : Scores Rat} (h : ∀ e ∈ scores, 0 ≤ e.2) (winner : String) :
    0 ≤ secondBest scores winner := by
  rcases secondBest_cases scores winner with ⟨-, hsecond⟩ | ⟨e, he, -, hsecond, -⟩
  · rw [hsecond]
  · rw [hsecond]
    exact h e he

/-- The second is not above the top. -/
theorem Tops.second_le {scores : Scores Rat} {s : Standing Rat} (h : s.Tops scores)
    (hpos : 0 ≤ s.top) : secondBest scores s.winner ≤ s.top := by
  rcases secondBest_cases scores s.winner with ⟨-, hsecond⟩ | ⟨e, he, -, hsecond, -⟩
  · rw [hsecond]
    exact hpos
  · rw [hsecond]
    exact h.le_top e he

/-- Where somebody else has the top score, the runner-up has it. -/
theorem Tops.secondBest_eq {scores : Scores Rat} {s : Standing Rat} (h : s.Tops scores)
    {code : String} (hc : (code, s.top) ∈ scores) (hne : code ≠ s.winner) :
    secondBest scores s.winner = s.top := by
  rcases secondBest_cases scores s.winner with ⟨honly, -⟩ | ⟨e, he, -, hsecond, hgreatest⟩
  · exact absurd (honly _ hc) hne
  · rw [hsecond]
    exact le_antisymm (h.le_top e he) (hgreatest _ hc hne)

/-- A candidate that all others score less than wins, before whatever forum. -/
theorem Tops.winner_of_lt {scores : Scores Rat} {s : Standing Rat} (h : s.Tops scores)
    {code : String} {score : Rat} (hc : (code, score) ∈ scores)
    (hlt : ∀ e ∈ scores, e.1 ≠ code → e.2 < score) : s.winner = code := by
  by_contra hne
  have hless : s.top < score := hlt _ h.winner_mem hne
  exact absurd (h.le_top _ hc) (not_le.mpr hless)

/-- Candidates in another order and another forum: the top score and the runner-up's are the same,
and a different winner shares the top score. -/
theorem of_perm {scores scores' : Scores Rat} (hp : scores.Perm scores')
    {forum forum' : Option String} {s s' : Standing Rat} (h : of scores forum = .ok s)
    (h' : of scores' forum' = .ok s') :
    s.top = s'.top ∧ s.second = s'.second ∧ (s'.winner, s.top) ∈ scores := by
  obtain ⟨hlargest, -, hsecond⟩ := of_eq_ok.mp h
  obtain ⟨hlargest', -, hsecond'⟩ := of_eq_ok.mp h'
  have htops := tops_of h
  have htops' := tops_of h'
  have htop : s.top = s'.top := by
    rw [largest?_perm (hp.map _), hlargest'] at hlargest
    exact (Option.some.inj hlargest).symm
  have hwinner' : (s'.winner, s.top) ∈ scores := by
    rw [htop]
    exact hp.mem_iff.mpr htops'.winner_mem
  have hwinner : (s.winner, s'.top) ∈ scores' := by
    rw [← htop]
    exact hp.mem_iff.mp htops.winner_mem
  refine ⟨htop, ?_, hwinner'⟩
  rw [hsecond, hsecond']
  by_cases hsame : s'.winner = s.winner
  · rw [hsame, secondBest_perm hp]
  · rw [htops.secondBest_eq hwinner' hsame, htops'.secondBest_eq hwinner (Ne.symm hsame), htop]

theorem gap_mem (top second : Rat) : 0 ≤ gap top second ∧ gap top second ≤ 1 := by
  unfold gap
  split
  · simp
  · rw [one_rat]
    exact clamp_mem zero_le_one _

/-- The gap grows where the runner-up's part of the top shrinks. -/
theorem gap_le_gap {top second top' second' : Rat} (ht : 0 < top) (ht' : 0 < top')
    (h : second' * top ≤ second * top') : gap top second ≤ gap top' second' := by
  have hratio : (top - second) / top ≤ (top' - second') / top' := by
    rw [div_le_div_iff₀ ht ht', sub_mul, sub_mul, mul_comm top' top]
    exact sub_le_sub_left h _
  rw [gap, gap, zero_rat, one_rat, if_neg (not_le.mpr ht), if_neg (not_le.mpr ht'), clamp_rat,
    clamp_rat]
  exact max_le_max_left 0 (min_le_min_left 1 hratio)

/-- Confidence is a fraction. -/
theorem confidence_mem (s : Standing Rat) : 0 ≤ s.confidence ∧ s.confidence ≤ 1 :=
  gap_mem s.top s.second

end ComparativeLaw.Standing

import ComparativeLaw.Comparison
import Mathlib.Algebra.Ring.Nat
import Mathlib.Data.List.Induction

namespace ComparativeLaw

namespace Rule

def hasNaN : Rule → Bool
  | threshold _ level => level.value.isNaN
  | _ => false

theorem beq_self {r : Rule} (h : r.hasNaN = false) : (r == r) = true := by
  change same r r = true
  cases r with
  | flag code => simp [same, sameBy]
  | threshold code level =>
    cases level with
    | number x => simp [same, sameBy, Level.same]
    | unordered =>
      have hnan : (Level.value .unordered).isNaN = true := by decide
      exact absurd (hnan.symm.trans h) (by decide)
  | cap damages amount conditions => simp [same, sameBy]
  | custom name description parameters => simp [same, sameBy]

theorem Level.same_symm {x y : Level} (h : Level.same x y = true) : Level.same y x = true := by
  cases x <;> cases y <;> simp_all [Level.same]

theorem Level.same_trans {x y z : Level} (h : Level.same x y = true) (h' : Level.same y z = true) :
    Level.same x z = true := by
  cases x <;> cases y <;> cases z <;> simp_all [Level.same]

theorem same_symm {a b : Rule} (h : same a b = true) : same b a = true := by
  cases a <;> cases b <;> simp_all [same, sameBy, Level.same_symm]

/-- Rules of two shapes are never equal, and within a shape the contents are compared. -/
theorem same_trans {a b c : Rule} (hab : same a b = true) (hbc : same b c = true) :
    same a c = true := by
  have htrans := @Level.same_trans
  cases b <;> cases a <;> simp only [same, sameBy, Bool.false_eq_true] at hab
  all_goals cases c <;> simp only [same, sameBy, Bool.false_eq_true] at hbc
  all_goals simp only [same, sameBy]
  all_goals grind

instance : PartialEquivBEq Rule := ⟨same_symm, same_trans⟩

end Rule

namespace Tally

section

variable {κ : Type}

theorem loop_cons (r : κ → κ → Bool) (x : κ) (xs seen : List κ) :
    List.eraseDupsBy.loop r (x :: xs) seen =
      List.eraseDupsBy.loop r xs (if seen.any (r x) then seen else x :: seen) := by
  rw [List.eraseDupsBy.loop]
  split <;> next h => rw [h]; rfl

variable [BEq κ]

/-- An item counts as new if none before it equals it. -/
theorem eraseDups_append_singleton (xs : List κ) (x : κ) : (xs ++ [x]).eraseDups =
    if xs.eraseDups.any (x == ·) then xs.eraseDups else xs.eraseDups ++ [x] := by
  have hloop : ∀ seen : List κ, List.eraseDupsBy.loop (· == ·) (xs ++ [x]) seen =
      if (List.eraseDupsBy.loop (· == ·) xs seen).any (x == ·) then
        List.eraseDupsBy.loop (· == ·) xs seen
      else List.eraseDupsBy.loop (· == ·) xs seen ++ [x] := by
    induction xs with
    | nil =>
      intro seen
      rw [List.nil_append, loop_cons, List.eraseDupsBy.loop, List.eraseDupsBy.loop,
        List.any_reverse]
      split
      · rfl
      · rw [List.reverse_cons]
    | cons y xs ih =>
      intro seen
      rw [List.cons_append, loop_cons, loop_cons, ih]
  exact hloop []

theorem mem_of_mem_eraseDups {xs : List κ} {x : κ} (h : x ∈ xs.eraseDups) : x ∈ xs := by
  induction xs using List.reverseRecOn with
  | nil => exact absurd h List.not_mem_nil
  | append_singleton xs y ih =>
    rw [eraseDups_append_singleton] at h
    split at h
    · exact List.mem_append_left _ (ih h)
    · rcases List.mem_append.mp h with h | h
      · exact List.mem_append_left _ (ih h)
      · exact List.mem_append_right _ h

variable [PartialEquivBEq κ]

theorem pairwise_eraseDups (xs : List κ) : xs.eraseDups.Pairwise fun a b => (a == b) = false := by
  induction xs using List.reverseRecOn with
  | nil => exact List.Pairwise.nil
  | append_singleton xs x ih =>
    rw [eraseDups_append_singleton]
    split
    · exact ih
    · next h =>
      refine List.pairwise_append.mpr ⟨ih, List.pairwise_singleton _ _, ?_⟩
      intro a ha b hb
      have hnew := List.any_eq_false.mp (Bool.eq_false_iff.mpr h) a ha
      rw [List.mem_singleton.mp hb, BEq.comm]
      exact Bool.eq_false_iff.mpr hnew

/-- Whatever equals itself has an equal among the distinct items. -/
theorem exists_mem_eraseDups {xs : List κ} {x : κ} (hx : x ∈ xs) (hself : (x == x) = true) :
    ∃ d ∈ xs.eraseDups, (d == x) = true := by
  induction xs using List.reverseRecOn with
  | nil => exact absurd hx List.not_mem_nil
  | append_singleton xs y ih =>
    rw [eraseDups_append_singleton]
    rcases List.mem_append.mp hx with hx | hx
    · obtain ⟨d, hd, hdx⟩ := ih hx
      split
      · exact ⟨d, hd, hdx⟩
      · exact ⟨d, List.mem_append_left _ hd, hdx⟩
    · rw [← List.mem_singleton.mp hx]
      split
      · next h =>
        obtain ⟨d, hd, hdx⟩ := List.any_eq_true.mp h
        exact ⟨d, hd, BEq.symm hdx⟩
      · exact ⟨x, List.mem_append_right _ (List.mem_singleton_self x), hself⟩

end

variable {α : Type}

def holders (held : List (α × Rule)) (r : Rule) : List α :=
  (held.filter fun e => e.2 == r).map (·.1)

theorem holders_append_singleton (held : List (α × Rule)) (e : α × Rule) (r : Rule) :
    holders (held ++ [e]) r = holders held r ++ if e.2 == r then [e.1] else [] := by
  rw [holders, List.filter_append, List.map_append, holders]
  by_cases h : (e.2 == r) = true <;> simp [h]

/-- Joining distinct rules makes one of them gain a holder, or adds a new one. -/
theorem join_map (holder : α) (r : Rule) (f : Rule → List α) {rules : List Rule}
    (h : rules.Pairwise fun a b => (a == b) = false) :
    join holder r (rules.map fun d => (d, f d)) =
      (rules.map fun d => (d, f d ++ if r == d then [holder] else [])) ++
        if rules.any (r == ·) then [] else [(r, [holder])] := by
  induction rules with
  | nil => rfl
  | cons d rules ih =>
    obtain ⟨hd, hrules⟩ := List.pairwise_cons.mp h
    rw [List.map_cons, join, List.map_cons, List.any_cons]
    by_cases hr : (d == r) = true
    · -- No later rule equals the new one, since it would equal this one.
      have hrest : ∀ d' ∈ rules, (d', f d') = (d', f d' ++ if r == d' then [holder] else []) := by
        intro d' hd'
        have hne : (r == d') = false := by rw [← BEq.congr_left hr, hd d' hd']
        simp [hne]
      rw [if_pos hr, BEq.symm hr, List.map_congr_left hrest]
      simp
    · have hne : (r == d) = false := by rw [BEq.comm]; exact Bool.eq_false_iff.mpr hr
      rw [if_neg hr, ih hrules, hne]
      simp

/-- A tally lists the distinct rules, each with all its holders. -/
theorem ofRules_eq {held : List (α × Rule)} (h : ∀ e ∈ held, (e.2 == e.2) = true) :
    ofRules held = (held.map (·.2)).eraseDups.map fun r => (r, holders held r) := by
  induction held using List.reverseRecOn with
  | nil => rfl
  | append_singleton held e ih =>
    have hheld : ∀ x ∈ held, (x.2 == x.2) = true := fun x hx => h x (List.mem_append_left _ hx)
    have hself : (e.2 == e.2) = true := h e (List.mem_append_right _ (List.mem_singleton_self e))
    have hjoin : ofRules (held ++ [e]) = join e.1 e.2 (ofRules held) := by
      rw [ofRules, List.foldl_append, ofRules]
      rfl
    rw [hjoin, ih hheld, join_map _ _ _ (pairwise_eraseDups _), List.map_append,
      List.map_singleton, eraseDups_append_singleton]
    simp only [holders_append_singleton]
    split
    · rw [List.append_nil]
    · -- A rule that is new has no holders yet.
      next hnew =>
      have hnone : holders held e.2 = [] := by
        rw [holders, List.map_eq_nil_iff, List.filter_eq_nil_iff]
        intro x hx hxe
        obtain ⟨d, hd, hdx⟩ := exists_mem_eraseDups (List.mem_map_of_mem hx) (hheld x hx)
        exact hnew (List.any_eq_true.mpr ⟨d, hd, BEq.symm (BEq.trans hdx hxe)⟩)
      rw [List.map_append, List.map_singleton, hnone, if_pos hself, List.nil_append]

theorem count_ofRules {held : List (α × Rule)} (h : ∀ e ∈ held, (e.2 == e.2) = true) (r : Rule) :
    (ofRules held).count r = (holders held r).length := by
  rw [count, ofRules_eq h, List.find?_map, Option.map_map]
  cases hfind : (held.map (·.2)).eraseDups.find? ((fun e : Rule × List α => e.1 == r) ∘
      fun r => (r, holders held r)) with
  | none =>
    have hnone : holders held r = [] := by
      rw [holders, List.map_eq_nil_iff, List.filter_eq_nil_iff]
      intro x hx hxr
      obtain ⟨d, hd, hdx⟩ := exists_mem_eraseDups (List.mem_map_of_mem hx) (h x hx)
      exact List.find?_eq_none.mp hfind d hd (BEq.trans hdx hxr)
    rw [hnone]
    rfl
  | some d =>
    have hdr : (d == r) = true := List.find?_some (p := fun d : Rule => d == r) hfind
    have hsame : holders held d = holders held r := by
      rw [holders, holders]
      congr 2
      funext x
      exact BEq.congr_right hdr
    exact congrArg List.length hsame

theorem sum_join (holder : α) (r : Rule) (t : Tally α) :
    ((join holder r t).map (·.2.length)).sum = (t.map (·.2.length)).sum + 1 := by
  induction t with
  | nil => rfl
  | cons e t ih =>
    rw [join]
    split
    · simp
      omega
    · rw [List.map_cons, List.sum_cons, ih, List.map_cons, List.sum_cons, Nat.add_assoc]

theorem sum_ofRules (held : List (α × Rule)) :
    ((ofRules held).map (·.2.length)).sum = held.length := by
  induction held using List.reverseRecOn with
  | nil => rfl
  | append_singleton held e ih =>
    rw [ofRules, List.foldl_append, ← ofRules, List.foldl_cons, List.foldl_nil, sum_join, ih,
      List.length_append, List.length_singleton]

theorem leading?_eq_none {t : Tally α} : t.leading? = none ↔ t = [] := by
  cases t with
  | nil => exact ⟨fun _ => rfl, fun _ => rfl⟩
  | cons e t =>
    rw [leading?]
    constructor
    · intro h
      split at h
      · cases h
      · split at h <;> cases h
    · exact fun h => nomatch h

/-- The leader has more holders than all before it and no fewer than any after it, and the others
are all but it. -/
theorem exists_of_leading?_eq_some {t others : Tally α} {best : Rule × List α}
    (h : t.leading? = some (best, others)) : ∃ before after, t = before ++ best :: after ∧
      others = before ++ after ∧ (∀ e ∈ before, e.2.length < best.2.length) ∧
      ∀ e ∈ after, e.2.length ≤ best.2.length := by
  -- On the tally: its first rule leads unless a later one has strictly more holders.
  induction t generalizing best others with
  | nil => cases h
  | cons e t ih =>
    rw [leading?] at h
    cases hrest : leading? t with
    | none =>
      rw [hrest] at h
      cases h
      rw [leading?_eq_none.mp hrest]
      exact ⟨[], [], rfl, rfl, by simp, by simp⟩
    | some found =>
      obtain ⟨lead, rest⟩ := found
      obtain ⟨before, after, rfl, rfl, hbefore, hafter⟩ := ih hrest
      rw [hrest] at h
      simp only at h
      split at h
      · next hlt =>
        cases h
        refine ⟨e :: before, after, rfl, rfl, ?_, hafter⟩
        intro x hx
        rcases List.mem_cons.mp hx with rfl | hx
        · exact hlt
        · exact hbefore x hx
      · next hge =>
        cases h
        refine ⟨[], before ++ lead :: after, rfl, rfl, by simp, ?_⟩
        intro x hx
        rcases List.mem_append.mp hx with hx | hx
        · have hxlead := hbefore x hx
          omega
        · rcases List.mem_cons.mp hx with rfl | hx
          · omega
          · have hxlead := hafter x hx
            omega

end Tally
end ComparativeLaw

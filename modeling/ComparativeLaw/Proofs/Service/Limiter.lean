import ComparativeLaw.Proofs.Service.Resource
import ComparativeLaw.Service.Refusal
import Mathlib.Algebra.Order.BigOperators.Group.List
import Mathlib.Algebra.Order.Field.Basic
import Mathlib.Data.List.DropRight
import Mathlib.Data.List.SplitBy
import Mathlib.Data.Rat.Floor
import Mathlib.Tactic.Linarith

/-!
Budgets over whole runs of calls. At every point an account has spent the number of its calls since
it last called in another window, cut off at the limit. If the clock never goes back, these are all
its calls in the window; if it does, an account that returns to a window has a whole budget again.
-/
namespace ComparativeLaw

namespace Tick

variable {seconds : Nat}

/-- Whole seconds lead to a later window exactly if they are what is left of this one. -/
theorem window_lt_iff (hs : 0 < seconds) (now : Rat) (r : Int) :
    (ofRat seconds now).window < (ofRat seconds (now + r)).window ↔
      seconds - (ofRat seconds now).elapsed ≤ r := by
  have hpos : (0 : Rat) < seconds := Nat.cast_pos.mpr hs
  have hlater : (ofRat seconds now).window < (ofRat seconds (now + r)).window ↔
      (((ofRat seconds now).window + 1 : Int) : Rat) * seconds ≤ now + r := by
    rw [← Int.add_one_le_iff, ← le_div_iff₀ hpos]
    exact Rat.le_floor_iff
  have hleft : (seconds : Int) - r ≤ (ofRat seconds now).elapsed ↔
      (((seconds : Int) - r : Int) : Rat) ≤ now - seconds * (ofRat seconds now).window :=
    Rat.le_floor_iff
  rw [hlater, sub_le_comm, hleft]
  push_cast
  constructor <;> intro h <;> linarith

theorem elapsed_nonneg (hs : 0 < seconds) (now : Rat) : 0 ≤ (ofRat seconds now).elapsed := by
  have hpos : (0 : Rat) < seconds := Nat.cast_pos.mpr hs
  have hbelow : (seconds : Rat) * (ofRat seconds now).window ≤ now := by
    rw [mul_comm]
    exact (le_div_iff₀ hpos).mp (Rat.floor_le _)
  apply Rat.le_floor_iff.mpr
  rw [Int.cast_zero]
  exact sub_nonneg.mpr hbelow

theorem elapsed_lt (hs : 0 < seconds) (now : Rat) : (ofRat seconds now).elapsed < seconds := by
  -- No seconds at all lead to no later window.
  have h := window_lt_iff hs now 0
  rw [Int.cast_zero, add_zero] at h
  have hnot : ¬ (seconds - (ofRat seconds now).elapsed : Int) ≤ 0 :=
    fun hle => lt_irrefl _ (h.mpr hle)
  omega

end Tick

/-- The lengths of the longest runs of a number in a list. -/
def visitsTo (w : Int) (ws : List Int) : List Nat :=
  ((ws.splitBy (· == ·)).filter (·.contains w)).map List.length

/-- What the runs of a number add up to if each is cut off at a limit. -/
def cutVisits (limit : Nat) (w : Int) (ws : List Int) : Nat :=
  ((visitsTo w ws).map (min limit)).sum

theorem splitBy_append_replicate {ws : List Int} {x : Int} (h : ∀ y ∈ ws.getLast?, y ≠ x)
    (n : Nat) : (ws ++ List.replicate (n + 1) x).splitBy (· == ·) =
      ws.splitBy (· == ·) ++ [List.replicate (n + 1) x] := by
  have hrun : (List.replicate (n + 1) x).splitBy (· == ·) = [List.replicate (n + 1) x] :=
    List.splitBy_of_isChain (List.cons_ne_nil x _)
      (List.isChain_replicate_of_rel _ (beq_iff_eq.mpr rfl))
  rw [List.replicate_succ, List.splitBy_append_cons, ← List.replicate_succ, hrun]
  intro y hy
  exact beq_eq_false_iff_ne.mpr (h y hy)

/-- A visit at the end adds at most its limit to the window. -/
theorem cutVisits_append_replicate (limit : Nat) (w : Int) {ws : List Int} {x : Int}
    (h : ∀ y ∈ ws.getLast?, y ≠ x) (n : Nat) : cutVisits limit w (ws ++ List.replicate n x) =
      cutVisits limit w ws + if x = w then min limit n else 0 := by
  cases n with
  | zero => simp
  | succ n =>
    rw [cutVisits, visitsTo, splitBy_append_replicate h, List.filter_append, List.map_append,
      List.map_append, List.sum_append, ← visitsTo, ← cutVisits]
    congr 1
    by_cases hx : x = w
    · simp [hx]
    · simp [hx, Ne.symm hx]

/-- A list ends in a run of a number, which may be empty, after what does not end in it. -/
theorem exists_last_run (x : Int) (ws : List Int) : ∃ before n, ws = before ++ List.replicate n x ∧
    (∀ y ∈ before.getLast?, y ≠ x) ∧ (ws.rtakeWhile (· == x)).length = n := by
  have hrun : ws.rtakeWhile (· == x) = List.replicate (ws.rtakeWhile (· == x)).length x :=
    List.eq_replicate_iff.mpr
      ⟨rfl, fun y hy => beq_iff_eq.mp (List.mem_rtakeWhile_imp (p := (· == x)) hy)⟩
  refine ⟨ws.rdropWhile (· == x), (ws.rtakeWhile (· == x)).length, ?_, ?_, rfl⟩
  · rw [← hrun, List.rdropWhile_append_rtakeWhile]
  · intro y hy hyx
    obtain ⟨init, hinit⟩ := List.getLast?_eq_some_iff.mp hy
    have hne : ws.rdropWhile (· == x) ≠ [] := by simp [hinit]
    have hlast := List.rdropWhile_last_not (· == x) ws hne
    simp [hinit, hyx] at hlast

/-- One more number makes its last run longer, which counts while that is below the limit. -/
theorem cutVisits_append (limit : Nat) (w x : Int) (ws : List Int) :
    cutVisits limit w (ws ++ [x]) = cutVisits limit w ws +
      if x = w ∧ (ws.rtakeWhile (· == x)).length < limit then 1 else 0 := by
  obtain ⟨before, n, hws, hlast, hn⟩ := exists_last_run x ws
  have hmore : ws ++ [x] = before ++ List.replicate (n + 1) x := by
    rw [hws, List.append_assoc, List.replicate_succ']
  rw [hmore, hn, hws, cutVisits_append_replicate limit w hlast,
    cutVisits_append_replicate limit w hlast, Nat.add_assoc]
  congr 1
  by_cases hx : x = w
  · by_cases hlt : n < limit
    · rw [if_pos hx, if_pos hx, if_pos ⟨hx, hlt⟩]
      omega
    · rw [if_pos hx, if_pos hx, if_neg fun h => hlt h.2]
      omega
  · rw [if_neg hx, if_neg hx, if_neg fun h => hx h.1]

/-- A call of a key on a path at an exact moment. -/
structure Hit where
  now : Rat
  key : String
  path : String

namespace Hit

def window (seconds : Nat) (h : Hit) : Int := (h.now / (seconds : Rat)).floor

def account (h : Hit) : String × String := (h.key, resourceOf h.path)

/-- Whether two calls are of one key, on paths with the same first two segments. -/
def sharesAccount (a b : Hit) : Bool :=
  a.key = b.key && leadingSegments a.path = leadingSegments b.path

/-- Whether two calls share an account and fall in the same window. -/
def sharesBudget (seconds : Nat) (a b : Hit) : Bool :=
  a.sharesAccount b && a.window seconds = b.window seconds

theorem account_eq_iff {a b : Hit} : a.account = b.account ↔ a.sharesAccount b = true := by
  simp [account, sharesAccount, resourceOf_eq_iff]

theorem window_mono {seconds : Nat} {a b : Hit} (h : a.now ≤ b.now) :
    a.window seconds ≤ b.window seconds := by
  have hdiv : a.now / (seconds : Rat) ≤ b.now / seconds :=
    div_le_div_of_nonneg_right h (Nat.cast_nonneg seconds)
  exact Rat.le_floor_iff.mpr ((Rat.floor_le _).trans hdiv)

/-- The windows in which the account of a call is charged for others, in the order of the calls. -/
def windows (seconds : Nat) (h : Hit) (calls : List Hit) : List Int :=
  (calls.filter h.sharesAccount).map (window seconds)

/-- How many calls of its account in the window of a call come last, with no other window since. -/
def streak (seconds : Nat) (h : Hit) (calls : List Hit) : Nat :=
  ((h.windows seconds calls).rtakeWhile (· == h.window seconds)).length

/-- The lengths of the visits of its account to the window of a call: of the longest runs of calls
in that window that no call in another one interrupts. -/
def visits (seconds : Nat) (h : Hit) (calls : List Hit) : List Nat :=
  visitsTo (h.window seconds) (h.windows seconds calls)

variable {seconds : Nat} {b h : Hit} {calls : List Hit}

/-- A call of the same account makes the last window. -/
theorem windows_append_of_shares (hb : h.sharesAccount b = true) :
    h.windows seconds (calls ++ [b]) = h.windows seconds calls ++ [b.window seconds] := by
  simp [windows, hb]

/-- Calls of other accounts make no window. -/
theorem windows_append_of_not_shares (hb : h.sharesAccount b = false) :
    h.windows seconds (calls ++ [b]) = h.windows seconds calls := by
  simp [windows, hb]

theorem windows_eq_of_shares (hb : h.sharesAccount b = true) :
    b.windows seconds calls = h.windows seconds calls := by
  have hsame : b.sharesAccount = h.sharesAccount := by
    funext c
    have hbh := account_eq_iff.mpr hb
    rw [Bool.eq_iff_iff, ← account_eq_iff, ← account_eq_iff, hbh]
  rw [windows, hsame, windows]

/-- A call goes on with the streak of its window or ends it. -/
theorem streak_append (hb : h.sharesAccount b = true) : h.streak seconds (calls ++ [b]) =
    if b.window seconds = h.window seconds then h.streak seconds calls + 1 else 0 := by
  rw [streak, windows_append_of_shares hb, List.rtakeWhile_concat]
  split
  · next hw => rw [if_pos (beq_iff_eq.mp hw), List.length_append, streak, List.length_singleton]
  · next hw => rw [if_neg fun heq => hw (beq_iff_eq.mpr heq), List.length_nil]

/-- In a clock that does not go back, nothing interrupts the calls of a window. -/
theorem streak_of_nondecreasing (hsorted : (calls ++ [h]).Pairwise fun a b => a.now ≤ b.now) :
    h.streak seconds calls = calls.countP (h.sharesBudget seconds) := by
  have hlast : ∀ c ∈ calls, c.now ≤ h.now := fun c hc =>
    (List.pairwise_append.mp hsorted).2.2 c hc h (List.mem_singleton_self h)
  replace hsorted := (List.pairwise_append.mp hsorted).1
  -- On the calls, from the last one back.
  induction calls using List.reverseRecOn with
  | nil => rfl
  | append_singleton calls b ih =>
    obtain ⟨hcalls, -, hb⟩ := List.pairwise_append.mp hsorted
    have hrest := ih (fun c hc => hlast c (List.mem_append_left _ hc)) hcalls
    rw [List.countP_append, List.countP_singleton]
    by_cases hacc : h.sharesAccount b = true
    · rw [streak_append hacc]
      by_cases hw : b.window seconds = h.window seconds
      · have hshares : h.sharesBudget seconds b = true := by simp [sharesBudget, hacc, hw]
        rw [if_pos hw, if_pos hshares, hrest]
      · -- The window of the last call is over, and so are those of all calls before it.
        have hbefore : b.window seconds < h.window seconds :=
          lt_of_le_of_ne (window_mono (hlast b (by simp))) hw
        have hnone : ∀ c ∈ calls, ¬ h.sharesBudget seconds c = true := by
          intro c hc hshares
          have hcb : c.window seconds ≤ b.window seconds :=
            window_mono (hb c hc b (List.mem_singleton_self b))
          have hch : h.window seconds = c.window seconds := by
            simpa using (Bool.and_eq_true_iff.mp hshares).2
          omega
        have hnot : ¬ h.sharesBudget seconds b = true := by
          simp [sharesBudget, Ne.symm hw]
        rw [if_neg hw, if_neg hnot, List.countP_eq_zero.mpr hnone]
    · have hnot : ¬ h.sharesBudget seconds b = true := by simp [sharesBudget, hacc]
      rw [streak, windows_append_of_not_shares (Bool.eq_false_iff.mpr hacc), if_neg hnot, add_zero]
      exact hrest

end Hit

def Verdict.isGranted : Verdict → Bool
  | granted _ => true
  | rejected _ => false

namespace Limiter

def serve (l : Limiter) (h : Hit) : Limiter × Verdict := l.hit h.now h.key h.path

def after (l : Limiter) (calls : List Hit) : Limiter := calls.foldl (fun l h => (l.serve h).1) l

/-- The verdict on a call that comes after some others. -/
def verdict (l : Limiter) (calls : List Hit) (h : Hit) : Verdict := ((l.after calls).serve h).2

def granted (l : Limiter) : List Hit → List Hit
  | [] => []
  | h :: calls =>
    (if (l.serve h).2.isGranted then [h] else []) ++ granted (l.serve h).1 calls

variable {l : Limiter} {b h : Hit} {calls : List Hit}

/-- What an account has spent after a call that is granted. -/
def charged (l : Limiter) (h : Hit) : Spending where
  window := h.window l.seconds
  granted := l.spent h.account (h.window l.seconds) + 1

/-- Within the budget a call is granted and charged. -/
theorem serve_of_lt (hlt : l.spent h.account (h.window l.seconds) < l.limit) : l.serve h =
    ({ l with accounts := l.accounts.insert h.account (l.charged h) },
      .granted (l.limit - (l.charged h).granted)) :=
  if_pos hlt

/-- Beyond it a call is rejected and changes nothing. -/
theorem serve_of_le (hle : l.limit ≤ l.spent h.account (h.window l.seconds)) :
    l.serve h = (l, .rejected (l.seconds - (Tick.ofRat l.seconds h.now).elapsed)) :=
  if_neg (Nat.not_lt.mpr hle)

/-- An account has spent in one window at most. -/
theorem spent_eq_zero {account : String × String} {v w : Int} (hpos : 0 < l.spent account v)
    (hne : v ≠ w) : l.spent account w = 0 := by
  unfold spent at hpos ⊢
  cases hget : l.accounts.get? account with
  | none => rfl
  | some s =>
    rw [hget] at hpos
    have hwindow : s.window = v := by
      by_contra hs
      simp [hs] at hpos
    exact if_neg fun hw => hne (hwindow.symm.trans hw)

/-- Serving a call charges its own account only, and forgets the windows before. -/
theorem spent_serve (hle : l.spent b.account (b.window l.seconds) ≤ l.limit)
    (account : String × String) (w : Int) : (l.serve b).1.spent account w =
      if account = b.account then
        if b.window l.seconds = w then min l.limit (l.spent b.account (b.window l.seconds) + 1)
        else 0
      else l.spent account w := by
  rcases Nat.lt_or_ge (l.spent b.account (b.window l.seconds)) l.limit with hlt | hge
  · rw [serve_of_lt hlt, min_eq_right hlt]
    by_cases ha : account = b.account
    · rw [if_pos ha, ha, spent, Table.get?_insert, if_pos rfl]
      rfl
    · rw [if_neg ha, spent, Table.get?_insert, if_neg (Ne.symm ha), spent]
  · -- A spent budget stays as it is, and no other window of the account has anything spent.
    have hfull := Nat.le_antisymm hle hge
    rw [serve_of_le hge, hfull, min_eq_left (Nat.le_succ _)]
    by_cases ha : account = b.account
    · rw [if_pos ha, ha]
      by_cases hw : b.window l.seconds = w
      · rw [if_pos hw, ← hw, hfull]
      · rw [if_neg hw, spent_eq_zero (hfull ▸ l.limit_pos) hw]
    · rw [if_neg ha]

theorem after_append : l.after (calls ++ [h]) = ((l.after calls).serve h).1 := by
  simp [after, List.foldl_append]

theorem limit_after : (l.after calls).limit = l.limit ∧ (l.after calls).seconds = l.seconds := by
  induction calls using List.reverseRecOn with
  | nil => exact ⟨rfl, rfl⟩
  | append_singleton calls b ih =>
    have hstep := hitAt_limit (l.after calls) (.ofRat (l.after calls).seconds b.now) b.key b.path
    rw [after_append]
    exact ⟨hstep.1.trans ih.1, hstep.2.trans ih.2⟩

/-- After any calls, an account has spent its streak in a window, cut off at the limit. -/
theorem spent_after (l : Limiter) (calls : List Hit) (h : Hit) :
    (l.reset.after calls).spent h.account (h.window l.seconds) =
      min l.limit (h.streak l.seconds calls) := by
  -- On the calls, for all accounts and windows at once: the last call looks at its own.
  induction calls using List.reverseRecOn generalizing h with
  | nil => exact (Nat.min_zero l.limit).symm
  | append_singleton calls b ih =>
    have hlimit : (l.reset.after calls).limit = l.limit := limit_after.1
    have hseconds : (l.reset.after calls).seconds = l.seconds := limit_after.2
    have hle : (l.reset.after calls).spent b.account (b.window (l.reset.after calls).seconds) ≤
        (l.reset.after calls).limit := by
      rw [hlimit, hseconds, ih b]
      exact Nat.min_le_left _ _
    rw [after_append, spent_serve hle, hlimit, hseconds]
    by_cases hb : h.sharesAccount b = true
    · rw [if_pos (Hit.account_eq_iff.mpr hb), Hit.streak_append hb]
      by_cases hw : b.window l.seconds = h.window l.seconds
      · rw [if_pos hw, if_pos hw, hw, ← Hit.account_eq_iff.mpr hb, ih h]
        omega
      · -- A call in another window ends the streak and takes the place of what was spent.
        rw [if_neg hw, if_neg hw, Nat.min_zero]
    · rw [if_neg fun ha => hb (Hit.account_eq_iff.mp ha), ih h, Hit.streak, Hit.streak,
        Hit.windows_append_of_not_shares (Bool.eq_false_iff.mpr hb)]

/-- A call is granted while the streak is short of the limit. -/
theorem verdict_of_lt (hlt : h.streak l.seconds calls < l.limit) :
    l.reset.verdict calls h = .granted (l.limit - (h.streak l.seconds calls + 1)) := by
  have hspent : (l.reset.after calls).spent h.account (h.window (l.reset.after calls).seconds) =
      h.streak l.seconds calls := by
    rw [limit_after.2]
    exact (spent_after l calls h).trans (min_eq_right hlt.le)
  have hlimit : (l.reset.after calls).limit = l.limit := limit_after.1
  have hverdict : l.reset.verdict calls h =
      .granted ((l.reset.after calls).limit - ((l.reset.after calls).charged h).granted) :=
    congrArg Prod.snd (serve_of_lt (by rwa [hspent, hlimit]))
  rw [hverdict, charged, hlimit, hspent]

/-- Then it is rejected until the window ends. -/
theorem serve_after_of_le (hle : l.limit ≤ h.streak l.seconds calls) :
    (l.reset.after calls).serve h =
      (l.reset.after calls, .rejected (l.seconds - (Tick.ofRat l.seconds h.now).elapsed)) := by
  have hspent : (l.reset.after calls).spent h.account (h.window (l.reset.after calls).seconds) =
      l.limit := by
    rw [limit_after.2]
    exact (spent_after l calls h).trans (min_eq_left hle)
  have hlimit : (l.reset.after calls).limit = l.limit := limit_after.1
  have hserve := serve_of_le (l := l.reset.after calls) (h := h) (by rw [hspent, hlimit])
  rw [hserve, limit_after.2]
  rfl

/-- What a rejected caller is told to wait is the least number of seconds that leads to a later
window. -/
theorem retryAfter_least (l : Limiter) (now : Rat) :
    let wait := (l.seconds : Int) - (Tick.ofRat l.seconds now).elapsed
    1 ≤ wait ∧ wait ≤ l.seconds ∧ IsLeast {r : Int | 0 < r ∧
      (now / (l.seconds : Rat)).floor < ((now + r) / (l.seconds : Rat)).floor} wait := by
  intro wait
  have hnonneg := Tick.elapsed_nonneg l.seconds_pos now
  have hlt := Tick.elapsed_lt l.seconds_pos now
  refine ⟨by omega, by omega, ⟨by omega, ?_⟩, ?_⟩
  · exact (Tick.window_lt_iff l.seconds_pos now wait).mpr le_rfl
  · rintro r ⟨-, hr⟩
    exact (Tick.window_lt_iff l.seconds_pos now r).mp hr

/-- With a clock that does not go back, the calls of a key on two leading segments are granted in
each window until the limit is spent. Every later call in the window is rejected, spends nothing and
is told the least wait that leads to another window. -/
theorem verdict_of_nondecreasing (l : Limiter) (calls : List Hit) (h : Hit)
    (hclock : (calls ++ [h]).Pairwise fun a b => a.now ≤ b.now) :
    let k := calls.countP (h.sharesBudget l.seconds) + 1
    (k ≤ l.limit → l.reset.verdict calls h = .granted (l.limit - k)) ∧
    (l.limit < k → ∃ wait : Int, l.reset.verdict calls h = .rejected wait ∧
      (Refusal.rateLimited l.limit l.seconds (resourceOf h.path) wait).status = 429 ∧
      l.reset.after (calls ++ [h]) = l.reset.after calls ∧ 1 ≤ wait ∧ wait ≤ l.seconds ∧
      IsLeast {r : Int | 0 < r ∧
        (h.now / (l.seconds : Rat)).floor < ((h.now + r) / (l.seconds : Rat)).floor} wait) := by
  intro k
  have hstreak : h.streak l.seconds calls + 1 = k :=
    congrArg (· + 1) (Hit.streak_of_nondecreasing hclock)
  constructor
  · intro hk
    rw [verdict_of_lt (by omega), hstreak]
  · intro hk
    have hspent : l.limit ≤ h.streak l.seconds calls := by omega
    have hserve := serve_after_of_le hspent
    obtain ⟨hpos, hmax, hleast⟩ := retryAfter_least l h.now
    refine ⟨_, congrArg Prod.snd hserve, rfl, ?_, hpos, hmax, hleast⟩
    rw [after_append, hserve]

/-- A call right before a boundary, one on another resource, and one at the boundary. -/
def atBoundary : List Hit :=
  [⟨119 / 2, "dev-key", "/v1/cases/search"⟩, ⟨119 / 2, "dev-key", "/v1/compare"⟩,
    ⟨60, "dev-key", "//v1/cases/7/"⟩]

/-- The next call on that resource is rejected in the window that has just begun. -/
theorem verdict_of_nondecreasing_atBoundary :
    let l := Limiter.of 1 60
    let h : Hit := ⟨241 / 4, "dev-key", "/v1/cases"⟩
    (atBoundary ++ [h]).Pairwise (fun a b => a.now ≤ b.now) ∧
    l.limit < atBoundary.countP (h.sharesBudget l.seconds) + 1 ∧
    ∃ wait : Int, l.reset.verdict atBoundary h = .rejected wait ∧
      (Refusal.rateLimited l.limit l.seconds (resourceOf h.path) wait).status = 429 ∧
      l.reset.after (atBoundary ++ [h]) = l.reset.after atBoundary ∧ 1 ≤ wait ∧ wait ≤ l.seconds ∧
      IsLeast {r : Int | 0 < r ∧
        (h.now / (l.seconds : Rat)).floor < ((h.now + r) / (l.seconds : Rat)).floor} wait := by
  intro l h
  have hclock : (atBoundary ++ [h]).Pairwise fun a b => a.now ≤ b.now := by decide +kernel
  have hspent : l.limit < atBoundary.countP (h.sharesBudget l.seconds) + 1 := by decide +kernel
  exact ⟨hclock, hspent, (verdict_of_nondecreasing l atBoundary h hclock).2 hspent⟩

/-- The last call is granted or not, the ones before as they were. -/
theorem granted_append (l : Limiter) (calls : List Hit) (h : Hit) : l.granted (calls ++ [h]) =
    l.granted calls ++ if (l.verdict calls h).isGranted then [h] else [] := by
  induction calls generalizing l with
  | nil => exact List.append_nil _
  | cons b calls ih =>
    rw [List.cons_append, granted, ih, granted, List.append_assoc]
    rfl

theorem isGranted_verdict (l : Limiter) (calls : List Hit) (h : Hit) :
    (l.reset.verdict calls h).isGranted = decide (h.streak l.seconds calls < l.limit) := by
  by_cases hlt : h.streak l.seconds calls < l.limit
  · rw [verdict_of_lt hlt, decide_eq_true hlt]
    rfl
  · rw [verdict, serve_after_of_le (Nat.le_of_not_lt hlt), decide_eq_false hlt]
    rfl

/-- In each window as many calls are granted as its visits have room for. -/
theorem countP_granted (l : Limiter) (calls : List Hit) (h : Hit) :
    (l.reset.granted calls).countP (h.sharesBudget l.seconds) =
      cutVisits l.limit (h.window l.seconds) (h.windows l.seconds calls) := by
  -- On the calls: the last one of the account is granted while its visit is below the limit.
  induction calls using List.reverseRecOn with
  | nil => rfl
  | append_singleton calls b ih =>
    have hlast : (if (l.reset.verdict calls b).isGranted then [b] else []).countP
          (h.sharesBudget l.seconds) =
        if h.sharesBudget l.seconds b ∧ b.streak l.seconds calls < l.limit then 1 else 0 := by
      rw [isGranted_verdict]
      by_cases hlt : b.streak l.seconds calls < l.limit <;> simp [hlt, List.countP_singleton]
    rw [granted_append, List.countP_append, ih, hlast]
    by_cases hacc : h.sharesAccount b = true
    · rw [Hit.windows_append_of_shares hacc, cutVisits_append]
      congr 1
      by_cases hw : b.window l.seconds = h.window l.seconds
      · have hstreak : b.streak l.seconds calls = h.streak l.seconds calls := by
          rw [Hit.streak, Hit.windows_eq_of_shares hacc, hw, Hit.streak]
        rw [hstreak, Hit.streak]
        simp [Hit.sharesBudget, hacc, hw]
      · simp [Hit.sharesBudget, hw, Ne.symm hw]
    · rw [Hit.windows_append_of_not_shares (Bool.eq_false_iff.mpr hacc)]
      simp [Hit.sharesBudget, hacc]

/-- Whatever the clock says, an account is granted the limit in each of its visits to a window, and
all calls of a shorter visit. -/
theorem granted_per_visit (l : Limiter) (calls : List Hit) (h : Hit) :
    (l.reset.granted calls).countP (h.sharesBudget l.seconds) =
        ((h.visits l.seconds calls).map (min l.limit)).sum ∧
      (l.reset.granted calls).countP (h.sharesBudget l.seconds) ≤
        (h.visits l.seconds calls).length * l.limit := by
  have hcount : (l.reset.granted calls).countP (h.sharesBudget l.seconds) =
      ((h.visits l.seconds calls).map (min l.limit)).sum := countP_granted l calls h
  refine ⟨hcount, ?_⟩
  have hle := List.sum_le_card_nsmul ((h.visits l.seconds calls).map (min l.limit)) l.limit (by
    intro n hn
    obtain ⟨m, -, rfl⟩ := List.mem_map.mp hn
    exact Nat.min_le_left _ _)
  rw [hcount, ← List.length_map (min l.limit)]
  exact hle

/-- Calls of one key on one resource, in the first window, in the second, and in the first again. -/
def backAndForth : List Hit :=
  [⟨0, "dev-key", "/v1/search"⟩, ⟨60, "dev-key", "/v1/search"⟩, ⟨0, "dev-key", "/v1/search"⟩]

/-- A clock that goes back gives more than the limit in one window. -/
theorem granted_exceeds_limit : (Limiter.of 1 60).limit <
    ((Limiter.of 1 60).reset.granted backAndForth).countP
      (Hit.sharesBudget (Limiter.of 1 60).seconds ⟨0, "dev-key", "/v1/search"⟩) := by
  decide +kernel

end Limiter
end ComparativeLaw

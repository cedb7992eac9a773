import ComparativeLaw.Fault

namespace ComparativeLaw.Checked

variable {ε ε' α β : Type}

/-- A run of two steps succeeds if both do. -/
theorem bind_eq_ok {x : Except ε α} {f : α → Except ε β} {b : β} :
    (x >>= f) = .ok b ↔ ∃ a, x = .ok a ∧ f a = .ok b := by
  cases x <;> simp [bind, Except.bind]

theorem map_eq_ok {x : Except ε α} {f : α → β} {b : β} :
    x.map f = .ok b ↔ ∃ a, x = .ok a ∧ f a = b := by
  cases x <;> simp [Except.map]

/-- It fails in its first step, or in the second one after the first. -/
theorem bind_eq_error {x : Except ε α} {f : α → Except ε β} {e : ε} :
    (x >>= f) = .error e ↔ x = .error e ∨ ∃ a, x = .ok a ∧ f a = .error e := by
  cases x <;> simp [bind, Except.bind]

theorem map_eq_error {x : Except ε α} {f : α → β} {e : ε} : x.map f = .error e ↔ x = .error e := by
  cases x <;> simp [Except.map]

@[simp]
theorem mapError_ok {a : α} {rename : ε → ε'} :
    (Except.ok a : Except ε α).mapError rename = .ok a := rfl

@[simp]
theorem mapError_error {e : ε} {rename : ε → ε'} :
    (Except.error e : Except ε α).mapError rename = .error (rename e) := rfl

theorem mapError_eq_error {x : Except ε α} {rename : ε → ε'} {e : ε'} :
    x.mapError rename = .error e ↔ ∃ e', x = .error e' ∧ rename e' = e := by
  cases x <;> simp

/-- Naming a failure otherwise lets successes be. -/
theorem ok_of_mapError {r : Except ε α} {rename : ε → ε'} {y : α} :
    r.mapError rename = .ok y ↔ r = .ok y := by
  cases r with
  | error e => constructor <;> intro h <;> cases h
  | ok a => constructor <;> intro h <;> cases h <;> rfl

theorem exists_of_isOk {x : Except ε α} (h : x.isOk = true) : ∃ a, x = .ok a := by
  cases x with
  | error e => exact absurd h Bool.false_ne_true
  | ok a => exact ⟨a, rfl⟩

/-- A view of a result that can be computed shows that there is one. -/
theorem exists_of_map_toOption {x : Except ε α} {view : α → β} {b : β}
    (h : x.toOption.map view = some b) : ∃ a, x = .ok a ∧ view a = b := by
  cases x with
  | error e => cases h
  | ok a => exact ⟨a, rfl, Option.some.inj h⟩

theorem forM_eq_ok {xs : List α} {f : α → Except ε Unit} :
    xs.forM f = .ok () ↔ ∀ x ∈ xs, f x = .ok () := by
  induction xs with
  | nil => simp [pure, Except.pure]
  | cons x xs ih =>
    simp only [List.forM_eq_forM, List.forM_cons, bind_eq_ok, List.forall_mem_cons] at ih ⊢
    constructor
    · rintro ⟨_, hx, hxs⟩
      exact ⟨hx, ih.mp hxs⟩
    · rintro ⟨hx, hxs⟩
      exact ⟨(), hx, ih.mpr hxs⟩

/-- A failure is that of the first item that fails. -/
theorem exists_append_of_forM_eq_error {xs : List α} {f : α → Except ε Unit} {e : ε}
    (h : xs.forM f = .error e) :
    ∃ before x after, xs = before ++ x :: after ∧ (∀ z ∈ before, f z = .ok ()) ∧ f x = .error e := by
  induction xs with
  | nil => cases h
  | cons x xs ih =>
    rcases bind_eq_error.mp h with hx | ⟨_, hx, hxs⟩
    · exact ⟨[], x, xs, rfl, fun z hz => absurd hz List.not_mem_nil, hx⟩
    · obtain ⟨before, z, after, rfl, hbefore, hz⟩ := ih hxs
      exact ⟨x :: before, z, after, rfl, List.forall_mem_cons.mpr ⟨hx, hbefore⟩, hz⟩

theorem exists_of_forM_eq_error {xs : List α} {f : α → Except ε Unit} {e : ε}
    (h : xs.forM f = .error e) : ∃ x ∈ xs, f x = .error e := by
  obtain ⟨before, x, after, rfl, -, hx⟩ := exists_append_of_forM_eq_error h
  exact ⟨x, List.mem_append_right before List.mem_cons_self, hx⟩

/-- A list is read if its first item and the others are. -/
theorem mapM_cons_eq_ok {x : α} {xs : List α} {f : α → Except ε β} {zs : List β} :
    (x :: xs).mapM f = .ok zs ↔ ∃ y ys, f x = .ok y ∧ xs.mapM f = .ok ys ∧ zs = y :: ys := by
  simp only [List.mapM_cons, bind_eq_ok, pure, Except.pure, Except.ok.injEq]
  constructor
  · rintro ⟨y, hy, ys, hys, rfl⟩
    exact ⟨y, ys, hy, hys, rfl⟩
  · rintro ⟨y, ys, hy, hys, rfl⟩
    exact ⟨y, hy, ys, hys, rfl⟩

/-- A list is read if all its items are, and then it shows what its items show. -/
theorem exists_mapM_eq_ok {γ : Type} (f : α → Except ε β) (view : β → γ) (g : α → γ)
    {xs : List α} (h : ∀ x ∈ xs, ∃ y, f x = .ok y ∧ view y = g x) :
    ∃ ys, xs.mapM f = .ok ys ∧ ys.map view = xs.map g := by
  induction xs with
  | nil => exact ⟨[], rfl, rfl⟩
  | cons x xs ih =>
    obtain ⟨y, hy, hg⟩ := h x List.mem_cons_self
    obtain ⟨ys, hys, hgs⟩ := ih fun z hz => h z (List.mem_cons_of_mem x hz)
    exact ⟨y :: ys, mapM_cons_eq_ok.mpr ⟨y, ys, hy, hys, rfl⟩, by
      rw [List.map_cons, List.map_cons, hg, hgs]⟩

/-- Where no item is refused the results are those of a function. -/
theorem mapM_eq_ok_map {f : α → Except ε β} {g : α → β} {xs : List α}
    (h : ∀ x ∈ xs, f x = .ok (g x)) : xs.mapM f = .ok (xs.map g) := by
  obtain ⟨ys, hys, hmap⟩ := exists_mapM_eq_ok f id g fun x hx => ⟨g x, h x hx, rfl⟩
  rw [hys, ← hmap, List.map_id]

/-- Conversely, what a list is read to shows what is known item by item. -/
theorem map_of_mapM_eq_ok {γ : Type} {xs : List α} {f : α → Except ε β} {view : β → γ} {g : α → γ}
    {ys : List β} (hm : xs.mapM f = .ok ys) (h : ∀ x ∈ xs, ∀ y, f x = .ok y → view y = g x) :
    ys.map view = xs.map g := by
  induction xs generalizing ys with
  | nil =>
    cases hm
    rfl
  | cons x xs ih =>
    obtain ⟨y, zs, hy, hzs, rfl⟩ := mapM_cons_eq_ok.mp hm
    rw [List.map_cons, List.map_cons, h x List.mem_cons_self y hy,
      ih hzs fun z hz => h z (List.mem_cons_of_mem x hz)]

theorem eq_map_of_mapM_eq_ok {xs : List α} {f : α → Except ε β} {g : α → β} {ys : List β}
    (hm : xs.mapM f = .ok ys) (h : ∀ x ∈ xs, ∀ y, f x = .ok y → y = g x) : ys = xs.map g := by
  have hmap : ys.map id = xs.map g := map_of_mapM_eq_ok hm h
  rwa [List.map_id] at hmap

theorem exists_of_mem_mapM {xs : List α} {f : α → Except ε β} {ys : List β}
    (hm : xs.mapM f = .ok ys) {y : β} (hy : y ∈ ys) : ∃ x ∈ xs, f x = .ok y := by
  induction xs generalizing ys with
  | nil =>
    cases hm
    cases hy
  | cons x xs ih =>
    obtain ⟨z, zs, hz, hzs, rfl⟩ := mapM_cons_eq_ok.mp hm
    rcases List.mem_cons.mp hy with rfl | hy
    · exact ⟨x, List.mem_cons_self, hz⟩
    · obtain ⟨w, hw, hwy⟩ := ih hzs hy
      exact ⟨w, List.mem_cons_of_mem x hw, hwy⟩

theorem exists_ok_of_mem {xs : List α} {f : α → Except ε β} {ys : List β}
    (hm : xs.mapM f = .ok ys) {x : α} (hx : x ∈ xs) : ∃ y, f x = .ok y := by
  induction xs generalizing ys with
  | nil => exact absurd hx List.not_mem_nil
  | cons z xs ih =>
    obtain ⟨y, zs, hy, hzs, rfl⟩ := mapM_cons_eq_ok.mp hm
    rcases List.mem_cons.mp hx with rfl | hx
    · exact ⟨y, hy⟩
    · exact ih hzs hx

/-- A list is refused for one of its items. -/
theorem exists_of_mapM_eq_error {xs : List α} {f : α → Except ε β} {e : ε}
    (h : xs.mapM f = .error e) : ∃ x ∈ xs, f x = .error e := by
  induction xs with
  | nil => cases h
  | cons x xs ih =>
    rw [List.mapM_cons] at h
    rcases bind_eq_error.mp h with hx | ⟨y, -, h⟩
    · exact ⟨x, List.mem_cons_self, hx⟩
    · rcases bind_eq_error.mp h with hxs | ⟨ys, -, h⟩
      · obtain ⟨z, hz, he⟩ := ih hxs
        exact ⟨z, List.mem_cons_of_mem x hz, he⟩
      · cases h

/-- A list that is read in another order is read to the same items in that order. -/
theorem exists_mapM_perm {xs xs' : List α} (hp : xs.Perm xs') {f : α → Except ε β} {ys : List β}
    (h : xs.mapM f = .ok ys) : ∃ ys', xs'.mapM f = .ok ys' ∧ ys.Perm ys' := by
  induction hp generalizing ys with
  | nil => exact ⟨ys, h, .refl ys⟩
  | cons x _ ih =>
    obtain ⟨y, zs, hy, hzs, rfl⟩ := mapM_cons_eq_ok.mp h
    obtain ⟨zs', hzs', hperm⟩ := ih hzs
    exact ⟨y :: zs', mapM_cons_eq_ok.mpr ⟨y, zs', hy, hzs', rfl⟩, hperm.cons y⟩
  | swap x x' =>
    obtain ⟨y', zs, hy', hzs, rfl⟩ := mapM_cons_eq_ok.mp h
    obtain ⟨y, ws, hy, hws, rfl⟩ := mapM_cons_eq_ok.mp hzs
    have hrest := mapM_cons_eq_ok.mpr ⟨y', ws, hy', hws, rfl⟩
    exact ⟨y :: y' :: ws, mapM_cons_eq_ok.mpr ⟨y, _, hy, hrest, rfl⟩, .swap y y' ws⟩
  | trans _ _ ih ih' =>
    obtain ⟨zs, hzs, hperm⟩ := ih h
    obtain ⟨ws, hws, hperm'⟩ := ih' hzs
    exact ⟨ws, hws, hperm.trans hperm'⟩

/-- A run that ends in no other errors than those with a property. -/
def FailsOnly (P : ε → Prop) (x : Except ε α) : Prop := ∀ e, x = .error e → P e

namespace FailsOnly

variable {P : ε → Prop} {x : Except ε α}

theorem ok {a : α} : FailsOnly P (.ok a : Except ε α) := fun _ h => nomatch h

theorem imp {Q : ε → Prop} (h : FailsOnly P x) (himp : ∀ e, P e → Q e) : FailsOnly Q x :=
  fun e he => himp e (h e he)

/-- Of two steps, each of which fails only for a reason, the run fails only for one. -/
theorem bind (h : FailsOnly P x) {f : α → Except ε β}
    (hf : ∀ a, x = .ok a → FailsOnly P (f a)) : FailsOnly P (x >>= f) := by
  intro e he
  rcases bind_eq_error.mp he with hx | ⟨a, ha, hfa⟩
  · exact h e hx
  · exact hf a ha e hfa

theorem map (h : FailsOnly P x) {f : α → β} : FailsOnly P (x.map f) :=
  fun e he => h e (map_eq_error.mp he)

theorem mapError {Q : ε' → Prop} {x : Except ε' α} (h : FailsOnly Q x) {rename : ε' → ε}
    (hr : ∀ e, Q e → P (rename e)) : FailsOnly P (x.mapError rename) := by
  intro e he
  obtain ⟨e', hx, rfl⟩ := mapError_eq_error.mp he
  exact hr e' (h e' hx)

end FailsOnly

/-- Two runs that fail alike, or that succeed with results in a relation. -/
inductive Alike (R : α → β → Prop) : Except ε α → Except ε β → Prop
  | error (e : ε) : Alike R (.error e) (.error e)
  | ok {a : α} {b : β} (h : R a b) : Alike R (.ok a) (.ok b)

namespace Alike

variable {α' β' : Type} {R : α → β → Prop} {S : α' → β' → Prop} {x : Except ε α} {y : Except ε β}

theorem rfl {x : Except ε α} : Alike Eq x x := by
  cases x with
  | error e => exact error e
  | ok a => exact ok (Eq.refl a)

theorem map (h : Alike R x y) {f : α → α'} {g : β → β'} (hfg : ∀ a b, R a b → S (f a) (g b)) :
    Alike S (x.map f) (y.map g) := by
  cases h with
  | error e => exact error e
  | ok h => exact ok (hfg _ _ h)

/-- Steps that go alike after runs that go alike make runs that go alike. -/
theorem bind (h : Alike R x y) {f : α → Except ε α'} {g : β → Except ε β'}
    (hfg : ∀ a b, R a b → Alike S (f a) (g b)) : Alike S (x >>= f) (y >>= g) := by
  cases h with
  | error e => exact error e
  | ok h => exact hfg _ _ h

/-- Runs that fare like a third one. -/
theorem join (h : Alike R x y) {z : Except ε α'} {S : α' → β → Prop} (h' : Alike S z y) :
    Alike (fun a a' => ∃ b, R a b ∧ S a' b) x z := by
  cases h with
  | error e =>
    cases h'
    exact error e
  | ok h =>
    cases h' with
    | ok h' => exact ok ⟨_, h, h'⟩

end Alike

/-- Two runs that fail in related ways, or that succeed with results in a relation. -/
inductive Matched (E : ε → ε → Prop) (R : α → β → Prop) : Except ε α → Except ε β → Prop
  | error {e e' : ε} (h : E e e') : Matched E R (.error e) (.error e')
  | ok {a : α} {b : β} (h : R a b) : Matched E R (.ok a) (.ok b)

namespace Matched

variable {α' β' : Type} {E : ε → ε → Prop} {R : α → β → Prop} {S : α' → β' → Prop}
  {x : Except ε α} {y : Except ε β}

theorem map (h : Matched E R x y) {f : α → α'} {g : β → β'} (hfg : ∀ a b, R a b → S (f a) (g b)) :
    Matched E S (x.map f) (y.map g) := by
  cases h with
  | error h => exact error h
  | ok h => exact ok (hfg _ _ h)

theorem mapError {E' : ε' → ε' → Prop} (h : Matched E R x y) {rename : ε → ε'}
    (he : ∀ e e', E e e' → E' (rename e) (rename e')) :
    Matched E' R (x.mapError rename) (y.mapError rename) := by
  cases h with
  | error h => exact error (he _ _ h)
  | ok h => exact ok h

/-- Two runs match if their first steps do, and the others after results that match. -/
theorem bind (h : Matched E R x y) {f : α → Except ε α'} {g : β → Except ε β'}
    (hfg : ∀ a b, R a b → Matched E S (f a) (g b)) : Matched E S (x >>= f) (y >>= g) := by
  cases h with
  | error h => exact error h
  | ok h => exact hfg _ _ h

/-- Results of runs that both succeed are in the relation. -/
theorem rel (h : Matched E R x y) {a : α} {b : β} (hx : x = .ok a) (hy : y = .ok b) : R a b := by
  subst hx hy
  cases h with
  | ok h => exact h

theorem imp (h : Matched E R x y) {S : α → β → Prop}
    (hs : ∀ a b, x = .ok a → y = .ok b → R a b → S a b) : Matched E S x y := by
  cases h with
  | error h => exact error h
  | ok h => exact ok (hs _ _ rfl rfl h)

/-- A list and the list in another order, if all failures of the items are related. -/
theorem mapM_perm {xs xs' : List α} (hp : xs.Perm xs') {f : α → Except ε β}
    (he : ∀ x ∈ xs, ∀ x' ∈ xs', ∀ e e', f x = .error e → f x' = .error e' → E e e') :
    Matched E List.Perm (xs.mapM f) (xs'.mapM f) := by
  cases hxs : xs.mapM f with
  | ok ys =>
    obtain ⟨ys', hys', hperm⟩ := exists_mapM_perm hp hxs
    rw [hys']
    exact ok hperm
  | error e =>
    cases hxs' : xs'.mapM f with
    | ok ys' =>
      obtain ⟨ys, hys, -⟩ := exists_mapM_perm hp.symm hxs'
      rw [hxs] at hys
      cases hys
    | error e' =>
      obtain ⟨z, hz, hfz⟩ := exists_of_mapM_eq_error hxs
      obtain ⟨z', hz', hfz'⟩ := exists_of_mapM_eq_error hxs'
      exact error (he z hz z' hz' e e' hfz hfz')

end Matched
end ComparativeLaw.Checked

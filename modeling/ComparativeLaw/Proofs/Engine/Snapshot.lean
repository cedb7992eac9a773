import ComparativeLaw.Engine.Call
import ComparativeLaw.Proofs.Checked
import ComparativeLaw.Proofs.Engine.Building

namespace ComparativeLaw

/-- The registry with the jurisdictions that a catalogue of entries adds to it. -/
def Registry.covering (r : Registry) (entries : List RuleEntry) : Registry :=
  r.merged (Catalog.registryFor (EntryViews.namedBy entries []) (some r)).toList

namespace Call

variable {α : Type}

def isRead : Call α → Bool
  | .add _ | .reload _ | .rebuild _ => false
  | _ => true

/-- A call whose decisions cite texts and whose entries have texts for codes. -/
def Typed : Call α → Prop
  | .add d => d.Typed
  | .reload entries => ∀ e ∈ entries, e.jurisdiction.code.isText
  | .rebuild decisions => ∀ d ∈ decisions, d.Typed
  | _ => True

end Call

/-- What an engine was given and accepted. -/
structure Snapshot (α : Type) where
  policy : Policy α
  initial : Catalog
  /-- The entries of the last successful reload, with the registry that they came to. -/
  loaded : Option (List RuleEntry × Registry) := none
  decisions : List Decision
  registry : Registry

namespace Snapshot

variable {α : Type} [Scalar α]

def of (e : Engine α) : Snapshot α where
  policy := e.policy
  initial := e.catalog
  decisions := e.index.toList
  registry := e.registry

def catalog (s : Snapshot α) : Except Fault Catalog :=
  match s.loaded with
  | some (entries, registry) => Catalog.build entries (some registry)
  | none => .ok s.initial

/-- The engine that is built from scratch. -/
def engine (s : Snapshot α) : Except Fault (Engine α) := do
  return {
    policy := s.policy
    catalog := ← s.catalog
    index := ← CaseIndex.ofList s.decisions
    registry := s.registry }

/-- Answers a call: questions by an engine that is built for them, and changes by the entries and
the decisions alone. -/
def step (s : Snapshot α) : Call α → Snapshot α × Except Fault (Reply α)
  | .add d =>
    if d.id ∈ s.decisions.map (·.id) then (s, .error (.failure (.duplicateId d.id)))
    else ({ s with decisions := s.decisions ++ [d] }, .ok (.size (s.decisions.length + 1)))
  | .reload entries =>
    match firstRepeat? RuleEntry.key [] entries with
    | some e => (s, .error (.failure (.duplicateRuleEntry e.jurisdiction.code e.topic)))
    | none =>
      ({ s with
          loaded := some (entries, s.registry)
          registry := s.registry.covering entries },
        .ok (.size entries.length))
  | .rebuild decisions =>
    match firstRepeat? Decision.id [] decisions with
    | some d => (s, .error (.failure (.duplicateId d.id)))
    | none => ({ s with decisions }, .ok (.size decisions.length))
  | c => (s, s.engine >>= fun e => (e.step c).2)

def run (s : Snapshot α) : List (Call α) → Snapshot α × List (Except Fault (Reply α))
  | [] => (s, [])
  | c :: cs =>
    let first := s.step c
    let rest := first.1.run cs
    (rest.1, first.2 :: rest.2)

variable {s : Snapshot α} {e : Engine α} {c : Call α}

omit [Scalar α] in
/-- A snapshot makes the engine that has its catalogue, its decisions and its registry. -/
theorem engine_eq_ok : s.engine = .ok e ↔ s.catalog = .ok e.catalog ∧
    CaseIndex.ofList s.decisions = .ok e.index ∧ s.policy = e.policy ∧
    s.registry = e.registry := by
  simp only [engine, Checked.bind_eq_ok]
  constructor
  · rintro ⟨catalog, hcatalog, index, hindex, he⟩
    cases he
    exact ⟨hcatalog, hindex, rfl, rfl⟩
  · rintro ⟨hcatalog, hindex, hpolicy, hregistry⟩
    refine ⟨e.catalog, hcatalog, e.index, hindex, ?_⟩
    rw [hpolicy, hregistry]
    rfl

theorem step_of_isRead (s : Snapshot α) (h : c.isRead = true) :
    s.step c = (s, s.engine >>= fun e => (e.step c).2) := by
  cases c with
  | add d => cases h
  | reload entries => cases h
  | rebuild decisions => cases h
  | _ => rfl

end Snapshot

namespace Engine

variable {α : Type} [Scalar α] {s : Snapshot α} {e : Engine α} {c : Call α}

theorem step_of_isRead (e : Engine α) (h : c.isRead = true) : (e.step c).1 = e := by
  cases c with
  | add d => cases h
  | reload entries => cases h
  | rebuild decisions => cases h
  | _ => rfl

/-- A call of an engine and of a snapshot of it: the replies are the same, and the snapshot stays
one of the engine. -/
def Follows (e : Engine α) (s : Snapshot α) (c : Call α) : Prop :=
  (e.step c).2 = (s.step c).2 ∧ (s.step c).1.engine = .ok (e.step c).1

/-- A call that only reads is answered from what the snapshot makes. -/
theorem follows_read (h : s.engine = .ok e) (hread : c.isRead = true) : e.Follows s c := by
  have hs := s.step_of_isRead hread
  rw [h] at hs
  refine ⟨by rw [hs]; rfl, ?_⟩
  rw [hs, e.step_of_isRead hread]
  exact h

/-- An addition is one more decision of the snapshot, or refused on both sides. -/
theorem follows_add (h : s.engine = .ok e) {d : Decision} (ht : d.Typed) :
    e.Follows s (.add d) := by
  obtain ⟨hcatalog, hindex, hpolicy, hregistry⟩ := Snapshot.engine_eq_ok.mp h
  obtain ⟨hfiled, hlist⟩ := CaseIndex.filed_of_ofList hindex
  by_cases hd : d.id ∈ s.decisions.map (·.id)
  · have hs : s.step (.add d) = (s, .error (.failure (.duplicateId d.id))) := if_pos hd
    rw [← hlist] at hd
    rw [Follows, hs, step, add, hfiled.add_of_mem hd]
    exact ⟨rfl, h⟩
  · have hs : s.step (.add d) = ({ s with decisions := s.decisions ++ [d] },
        .ok (.size (s.decisions.length + 1))) := if_neg hd
    rw [← hlist] at hd
    -- An accepted decision comes last, so the longer list builds the index with it.
    have hadd := hfiled.add_of_not_mem ht hd
    have hsize : (e.index.add d).1.size = s.decisions.length + 1 := by
      rw [← CaseIndex.length_toList, hfiled.toList_add_of_not_mem hd, hlist, List.length_append]
      rfl
    rw [Follows, hs, step, add, hadd, ← hsize]
    exact ⟨rfl, Snapshot.engine_eq_ok.mpr
      ⟨hcatalog, CaseIndex.ofList_snoc hindex hadd, hpolicy, hregistry⟩⟩

/-- A rebuild replaces the decisions of the snapshot. -/
theorem follows_rebuild (h : s.engine = .ok e) {ds : List Decision} (ht : ∀ d ∈ ds, d.Typed) :
    e.Follows s (.rebuild ds) := by
  obtain ⟨hcatalog, -, hpolicy, hregistry⟩ := Snapshot.engine_eq_ok.mp h
  have hbuilt := CaseIndex.ofList_eq ht
  rw [Follows, Snapshot.step, step, rebuild]
  cases hrepeat : firstRepeat? Decision.id [] ds with
  | some d =>
    rw [hrepeat] at hbuilt
    rw [hbuilt]
    exact ⟨rfl, h⟩
  | none =>
    rw [hrepeat] at hbuilt
    have hsize : (CaseIndex.addEach {} ds).size = ds.length := by
      rw [← CaseIndex.length_toList, (CaseIndex.filed_of_ofList hbuilt).2]
    rw [hbuilt]
    exact ⟨by rw [← hsize]; rfl,
      Snapshot.engine_eq_ok.mpr ⟨hcatalog, hbuilt, hpolicy, hregistry⟩⟩

/-- A reload replaces the entries of the snapshot and merges what they name. -/
theorem follows_reload (h : s.engine = .ok e) {entries : List RuleEntry}
    (ht : ∀ x ∈ entries, x.jurisdiction.code.isText) : e.Follows s (.reload entries) := by
  obtain ⟨-, hindex, hpolicy, hregistry⟩ := Snapshot.engine_eq_ok.mp h
  have hbuilt := Catalog.build_eq ht (some e.registry)
  rw [Follows, Snapshot.step, step, reload]
  cases hrepeat : firstRepeat? RuleEntry.key [] entries with
  | some x =>
    rw [hrepeat] at hbuilt
    rw [hbuilt]
    exact ⟨rfl, h⟩
  | none =>
    -- The snapshot keeps the registry that the entries came to, so it builds the same catalogue.
    rw [hrepeat] at hbuilt
    rw [hbuilt, hregistry]
    refine ⟨by rw [← Catalog.size_ofDistinct hrepeat (some e.registry)]; rfl, ?_⟩
    exact Snapshot.engine_eq_ok.mpr ⟨hbuilt, hindex, hpolicy, rfl⟩

/-- Engine and snapshot agree after each call. -/
theorem follows_step (h : s.engine = .ok e) (ht : c.Typed) : e.Follows s c := by
  cases c with
  | add d => exact follows_add h ht
  | reload entries => exact follows_reload h ht
  | rebuild ds => exact follows_rebuild h ht
  | _ => exact follows_read h rfl

/-- Engine and snapshot agree along a run of calls. -/
theorem follows_run (h : s.engine = .ok e) {calls : List (Call α)}
    (ht : ∀ c ∈ calls, c.Typed) :
    (e.run calls).2 = (s.run calls).2 ∧ (s.run calls).1.engine = .ok (e.run calls).1 := by
  -- On the calls; what each of them keeps is that the snapshot builds the engine.
  induction calls generalizing e s with
  | nil => exact ⟨rfl, h⟩
  | cons c calls ih =>
    obtain ⟨hreply, hengine⟩ := follows_step h (ht c List.mem_cons_self)
    obtain ⟨hreplies, hlast⟩ := ih hengine fun c hc => ht c (List.mem_cons_of_mem _ hc)
    rw [run, Snapshot.run, hreply, hreplies]
    exact ⟨rfl, hlast⟩

/-- A call that only reads, or that is refused since a key or an identifier is taken. -/
def Spares (e : Engine α) (c : Call α) : Prop :=
  c.isRead = true ∨ (∃ id, (e.step c).2 = .error (.failure (.duplicateId id))) ∨
    ∃ code topic, (e.step c).2 = .error (.failure (.duplicateRuleEntry code topic))

omit [Scalar α] in
theorem replaced_of_error {change : Except Fault (Engine α)} {size : Engine α → Nat} {f : Fault}
    (h : (e.replaced change size).2 = .error f) : (e.replaced change size).1 = e := by
  cases change with
  | error f => rfl
  | ok e' => cases h

/-- A call that fails changes nothing. -/
theorem step_of_failure {f : Failure} (h : (e.step c).2 = .error (.failure f)) :
    (e.step c).1 = e := by
  cases c with
  | add d =>
    have hadd : (e.index.add d).2 = .error (.failure f) := by
      cases hreply : (e.index.add d).2 with
      | ok => simp [step, add, hreply, Except.map] at h
      | error e' => simpa [step, add, hreply, Except.map] using h
    rw [step, add, CaseIndex.add_of_failure hadd]
  | reload entries => exact replaced_of_error h
  | rebuild ds => exact replaced_of_error h
  | _ => rfl

theorem Spares.step_eq (h : e.Spares c) : (e.step c).1 = e := by
  rcases h with hread | ⟨id, hid⟩ | ⟨code, topic, hkey⟩
  · exact e.step_of_isRead hread
  · exact step_of_failure hid
  · exact step_of_failure hkey

theorem run_append (e : Engine α) (xs ys : List (Call α)) :
    (e.run (xs ++ ys)).1 = ((e.run xs).1.run ys).1 := by
  induction xs generalizing e with
  | nil => rfl
  | cons c xs ih => exact ih (e.step c).1

/-- An engine whose index was reached by additions replies to calls as its snapshot does, and stays
the engine that the snapshot builds. Calls that only read or that are refused leave it as it is. -/
theorem run_snapshot {added : List Decision} (hindex : e.index = CaseIndex.addEach {} added)
    (hadded : ∀ d ∈ added, d.Typed) {calls : List (Call α)} (hcalls : ∀ c ∈ calls, c.Typed) :
    (e.run calls).2 = ((Snapshot.of e).run calls).2 ∧
    ((Snapshot.of e).run calls).1.engine = .ok (e.run calls).1 ∧
    ∀ before c after, calls = before ++ c :: after → (e.run before).1.Spares c →
      (e.run (before ++ [c])).1 = (e.run before).1 := by
  have hbuilt : CaseIndex.ofList e.index.toList = .ok e.index :=
    hindex ▸ CaseIndex.ofList_toList_addEach hadded
  have hengine : (Snapshot.of e).engine = .ok e :=
    Snapshot.engine_eq_ok.mpr ⟨rfl, hbuilt, rfl, rfl⟩
  obtain ⟨hreplies, hlast⟩ := follows_run hengine hcalls
  refine ⟨hreplies, hlast, ?_⟩
  intro before c after _ hspares
  rw [run_append]
  exact hspares.step_eq

def citingDecision (id summary : String) : Decision where
  id := id
  caseNumber := "22-1"
  decided := ⟨2022, 3, 1, by decide⟩
  level := .district
  topic := "negligence"
  summary := summary
  statutes := [.text "Cal. Civ. Code 1714"]

theorem typed_citingDecision (id summary : String) : (citingDecision id summary).Typed :=
  fun _ hj => ⟨_, List.mem_singleton.mp hj⟩

def negligenceEntry (code : String) : RuleEntry where
  jurisdiction := .ofCode code
  topic := .comparativeNegligence
  rule := .pureComparativeNegligence

theorem isText_negligenceEntry (code : String) :
    (negligenceEntry code).jurisdiction.code.isText = true :=
  rfl

def repeatedDecisions : List Decision :=
  [citingDecision "a" "fault", citingDecision "a" "shared fault"]

/-- An engine without rules over one decision, since the second one was refused. -/
def oneDecision : Engine Rat :=
  .of (.ofEnvironment []) none (CaseIndex.addEach {} repeatedDecisions) none

/-- Changes and questions in turn. The first, the third and the sixth call are refused, and what the
last one asks for is gone. -/
def mixedCalls : List (Call Rat) :=
  [.add (citingDecision "a" "fault"), .add (citingDecision "b" "shared fault"),
    .reload [negligenceEntry "US-NY", negligenceEntry "US-CA", negligenceEntry "US-NY"],
    .reload [negligenceEntry "US-NY", negligenceEntry "US-CA"],
    .compare .comparativeNegligence [.text "US-NY", .text "US-CA"], .rebuild repeatedDecisions,
    .rebuild [citingDecision "c" "fault"], .decision "b"]

def sizeOf? : Except Fault (Reply Rat) → Option Nat
  | .ok (.size n) => some n
  | _ => none

/-- Calls of which some are refused, with the sizes that they report. -/
theorem run_snapshot_mixedCalls :
    oneDecision.index = CaseIndex.addEach {} repeatedDecisions ∧
    (∀ d ∈ repeatedDecisions, d.Typed) ∧ (∀ c ∈ mixedCalls, c.Typed) ∧
    (oneDecision.run mixedCalls).2.map sizeOf? =
      [none, some 2, none, some 2, none, none, some 1, none] ∧
    ((Snapshot.of oneDecision).run mixedCalls).1.engine = .ok (oneDecision.run mixedCalls).1 ∧
    ∀ before c after, mixedCalls = before ++ c :: after → (oneDecision.run before).1.Spares c →
      (oneDecision.run (before ++ [c])).1 = (oneDecision.run before).1 := by
  have hadded : ∀ d ∈ repeatedDecisions, d.Typed := by
    simp [repeatedDecisions, typed_citingDecision]
  have hcalls : ∀ c ∈ mixedCalls, c.Typed := by
    simpa [mixedCalls, Call.Typed, typed_citingDecision, isText_negligenceEntry] using hadded
  obtain ⟨hreplies, hlast, hspared⟩ := run_snapshot (e := oneDecision) rfl hadded hcalls
  refine ⟨rfl, hadded, hcalls, ?_, hlast, hspared⟩
  rw [hreplies]
  decide +kernel

end Engine
end ComparativeLaw

import ComparativeLaw.Feed.Rules
import ComparativeLaw.Proofs.Jurisdiction.Merging
import ComparativeLaw.Proofs.Schema.Reading

namespace ComparativeLaw

open Checked Schema

namespace Feed

def textField? (field : String) (j : Json) : Option String :=
  match j.field? field with
  | some (.text s) => some s
  | _ => none

/-- The texts under a field of the records in a list of a payload. -/
def writtenTexts (payload : Json) (list field : String) : List String :=
  match payload.field? list with
  | some (.list js) => js.filterMap (textField? field)
  | _ => []

theorem map_of_items {α β : Type} {read : Json → Schema.Checked α} {o : Fields}
    {list field : String} {xs : List α} {view : α → β} {normal : String → β}
    (h : defaulted (items read) [] o list = .ok xs)
    (hfield : ∀ j x, read j = .ok x → ∃ s, textField? field j = some s ∧ view x = normal s) :
    xs.map view = (writtenTexts (.object o) list field).map normal := by
  rcases defaulted_eq_ok.mp h with ⟨j, hj, hread⟩ | ⟨hnone, rfl⟩
  · obtain ⟨js, rfl, hall⟩ := items_eq_ok.mp hread
    simp only [writtenTexts, Json.field?, hj]
    clear h hread hj
    -- Item by item: a list that is read is as long as the list that is written.
    induction hall with
    | nil => rfl
    | @cons j x _ _ hread _ ih =>
      obtain ⟨s, hs, hview⟩ := hfield j x hread
      rw [List.map_cons, List.filterMap_cons_some hs, List.map_cons, ih, hview]
  · simp [writtenTexts, Json.field?, hnone]

theorem textField?_of_required {o : Fields} {field s : String}
    (h : required nonEmptyText o field = .ok s) : textField? field (.object o) = some s := by
  obtain ⟨j, hj, hread⟩ := required_eq_ok.mp h
  obtain ⟨rfl, -⟩ := nonEmptyText_eq_ok.mp hread
  rw [textField?, Json.field?, hj]

theorem exists_code_readJurisdiction (j : Json) (x : Jurisdiction)
    (h : readJurisdiction j = .ok x) :
    ∃ s, textField? "code" j = some s ∧ x.code = .text (canonicalCode s) := by
  obtain ⟨o, rfl, -, h⟩ := object_eq_ok.mp h
  obtain ⟨-, h⟩ := gather_eq_ok.mp h
  simp only [bind_eq_ok, pure, Except.pure, Except.ok.injEq] at h
  obtain ⟨s, hs, _, -, _, -, rfl⟩ := h
  exact ⟨s, textField?_of_required hs, rfl⟩

theorem exists_code_readRuleRecord (j : Json) (r : RuleRecord) (h : readRuleRecord j = .ok r) :
    ∃ s, textField? "jurisdiction" j = some s ∧ r.code = canonicalCode s := by
  obtain ⟨o, rfl, -, h⟩ := object_eq_ok.mp h
  obtain ⟨-, h⟩ := gather_eq_ok.mp h
  simp only [bind_eq_ok, pure, Except.pure, Except.ok.injEq] at h
  obtain ⟨s, hs, _, -, _, -, _, -, _, -, _, -, _, -, rfl⟩ := h
  exact ⟨s, textField?_of_required hs, rfl⟩

/-- The codes of a feed are the canonical forms of the texts that are written for them. -/
theorem codes_of_read {payload : Json} {feed : RuleFeed} (h : RuleFeed.read payload = .ok feed) :
    feed.rules.map (·.code) =
      (writtenTexts payload "rules" "jurisdiction").map canonicalCode ∧
    feed.jurisdictions.map (·.code) =
      (writtenTexts payload "jurisdictions" "code").map fun s => .text (canonicalCode s) := by
  obtain ⟨o, rfl, -, h⟩ := object_eq_ok.mp h
  obtain ⟨-, h⟩ := gather_eq_ok.mp h
  simp only [bind_eq_ok, pure, Except.pure, Except.ok.injEq] at h
  obtain ⟨jurisdictions, hjurisdictions, rules, hrules, rfl⟩ := h
  exact ⟨map_of_items hrules exists_code_readRuleRecord,
    map_of_items hjurisdictions exists_code_readJurisdiction⟩

namespace RuleRecord

variable {r : RuleRecord} {registry : Registry} {position : Nat} {e : RuleEntry}

def under (r : RuleRecord) (jurisdiction : Jurisdiction) (rule : Rule) : RuleEntry where
  jurisdiction := jurisdiction
  topic := r.topic
  rule := rule
  statute := r.statute
  precedents := r.precedents
  adopted := r.adopted
  notes := .text r.notes

theorem entry_eq_ok : r.entry registry position = .ok e ↔ ∃ j rule,
    registry.get? (.text r.code) = some j ∧ r.payload.rule = .ok rule ∧ e = r.under j rule := by
  unfold entry
  split
  · next hnone => simp [hnone]
  · next j hj =>
    split
    · next c hc => simp [hc]
    · next rule hrule => simp [hj, hrule, under, eq_comm]

theorem entry_of_none (h : registry.get? (.text r.code) = none) :
    r.entry registry position = .error (.undeclared position (canonicalCode r.code)) := by
  rw [entry, h]

end RuleRecord

section Entries

variable {registry : Registry} {position : Nat} {rs : List RuleRecord} {es : List RuleEntry}

theorem entriesFrom_cons_eq_ok {r : RuleRecord} :
    entriesFrom registry position (r :: rs) = .ok es ↔ ∃ e rest,
      r.entry registry position = .ok e ∧ entriesFrom registry (position + 1) rs = .ok rest ∧
        es = e :: rest := by
  simp only [entriesFrom, bind_eq_ok, pure, Except.pure, Except.ok.injEq, eq_comm (b := es)]
  constructor
  · rintro ⟨e, he, rest, hrest, h⟩
    exact ⟨e, rest, he, hrest, h⟩
  · rintro ⟨e, rest, he, hrest, h⟩
    exact ⟨e, he, rest, hrest, h⟩

theorem forall₂_of_entriesFrom (h : entriesFrom registry position rs = .ok es) :
    List.Forall₂ (fun r e => ∃ j rule, registry.get? (.text r.code) = some j ∧
      r.payload.rule = .ok rule ∧ e = r.under j rule) rs es := by
  induction rs generalizing position es with
  | nil =>
    cases h
    exact .nil
  | cons r rs ih =>
    obtain ⟨e, rest, he, hrest, rfl⟩ := entriesFrom_cons_eq_ok.mp h
    exact .cons (RuleRecord.entry_eq_ok.mp he) (ih hrest)

theorem exists_entriesFrom (position : Nat)
    (hrules : ∀ r ∈ rs, ∃ rule, r.payload.rule = .ok rule)
    (hnamed : ∀ r ∈ rs, ∃ j, registry.get? (.text r.code) = some j) :
    ∃ es, entriesFrom registry position rs = .ok es := by
  induction rs generalizing position with
  | nil => exact ⟨[], rfl⟩
  | cons r rs ih =>
    obtain ⟨hrule, hrules⟩ := List.forall_mem_cons.mp hrules
    obtain ⟨hname, hnamed⟩ := List.forall_mem_cons.mp hnamed
    obtain ⟨rule, hrule⟩ := hrule
    obtain ⟨j, hj⟩ := hname
    obtain ⟨rest, hrest⟩ := ih (position + 1) hrules hnamed
    exact ⟨_, entriesFrom_cons_eq_ok.mpr
      ⟨_, rest, RuleRecord.entry_eq_ok.mpr ⟨j, rule, hj, hrule, rfl⟩, hrest, rfl⟩⟩

/-- The first record whose code is not registered refuses all of them. -/
theorem entriesFrom_of_first (position : Nat) {n : Nat} {r : RuleRecord}
    (hrules : ∀ r ∈ rs, ∃ rule, r.payload.rule = .ok rule) (hr : rs[n]? = some r)
    (hnone : registry.get? (.text r.code) = none)
    (hnamed : ∀ r' ∈ rs.take n, ∃ j, registry.get? (.text r'.code) = some j) :
    entriesFrom registry position rs =
      .error (.undeclared (position + n) (canonicalCode r.code)) := by
  -- On the records, with the position general: each one that is passed counts it up.
  induction rs generalizing position n with
  | nil => cases hr
  | cons r' rs ih =>
    obtain ⟨hrule, hrules⟩ := List.forall_mem_cons.mp hrules
    cases n with
    | zero =>
      cases hr
      rw [entriesFrom, RuleRecord.entry_of_none hnone]
      rfl
    | succ n =>
      obtain ⟨hname, hnamed⟩ := List.forall_mem_cons.mp hnamed
      obtain ⟨rule, hrule⟩ := hrule
      obtain ⟨j, hj⟩ := hname
      have he : r'.entry registry position = .ok (r'.under j rule) :=
        RuleRecord.entry_eq_ok.mpr ⟨j, rule, hj, hrule, rfl⟩
      have hrest := ih (position + 1) hrules hr hnamed
      rw [entriesFrom, he, hrest, Nat.add_right_comm, Nat.add_assoc]
      rfl

end Entries

namespace RuleFeed

variable {feed : RuleFeed} {base : Registry} {code : String}

/-- A code that the feed declares or the registry has. -/
def Names (feed : RuleFeed) (base : Registry) (code : String) : Prop :=
  (∃ j ∈ feed.jurisdictions, j.code.is code = true) ∨ .text code ∈ base.table.keys

/-- The jurisdiction of a code: the last one that the feed declares, or else the registry's. -/
def named? (feed : RuleFeed) (base : Registry) (code : String) : Option Jurisdiction :=
  (feed.jurisdictions.reverse.find? fun j => j.code.is code).or (base.table.get? (.text code))

/-- What the rules of a feed come to over a registry. -/
structure Resolves (feed : RuleFeed) (base : Registry) (source : Option Json)
    (outcome : Except Failure (List RuleEntry × Registry)) : Prop where
  returns_iff : (∃ entries registry, outcome = .ok (entries, registry)) ↔
    ∀ r ∈ feed.rules, feed.Names base r.code
  entries : ∀ entries registry, outcome = .ok (entries, registry) →
    List.Forall₂ (fun r e => ∃ j rule, feed.named? base r.code = some j ∧
      r.payload.rule = .ok rule ∧ e = r.under j rule) feed.rules entries
  codes : ∀ entries registry, outcome = .ok (entries, registry) → ∀ k,
    k ∈ registry.table.keys ↔ k ∈ base.table.keys ∨ ∃ j ∈ feed.jurisdictions, j.code.key = k
  refused : ∀ position r, feed.rules[position]? = some r → ¬ feed.Names base r.code →
    (∀ r' ∈ feed.rules.take position, feed.Names base r'.code) →
    outcome = .error (.feed source (.undeclared position r.code))

theorem get?_merged_eq_named? (base : Registry) (feed : RuleFeed)
    (hcode : canonicalCode code = code) :
    (base.merged feed.jurisdictions).get? (.text code) = feed.named? base code := by
  have hkey : (Reference.text code).code.key = Code.Key.text code := congrArg Code.Key.text hcode
  have his : (fun j : Jurisdiction => decide (j.code.key = .text code)) = fun j => j.code.is code :=
    funext fun j => Bool.eq_iff_iff.mpr (decide_eq_true_iff.trans Code.is_iff.symm)
  rw [Registry.get?, hkey, Registry.get?_merged, his, named?]

theorem names_iff : feed.Names base code ↔ ∃ j, feed.named? base code = some j := by
  rw [← Option.isSome_iff_exists, named?, Option.isSome_or, Bool.or_eq_true, List.find?_isSome,
    Table.isSome_get?, Names]
  simp only [List.mem_reverse]

end RuleFeed

section Parsing

variable {payload : Json} {feed : RuleFeed} {given : Option Registry} {source : Option Json}
  {entries : List RuleEntry} {registry : Registry}

/-- The registry in which the rules of a feed are resolved. -/
def RuleFeed.extended (feed : RuleFeed) (given : Option Registry) : Registry :=
  (Registry.orKnown given).merged feed.jurisdictions

theorem parseRules_eq_ok (hread : RuleFeed.read payload = .ok feed) :
    parseRules payload given source = .ok (entries, registry) ↔
      entriesFrom (feed.extended given) 0 feed.rules = .ok entries ∧
        feed.extended given = registry := by
  rw [parseRules, hread]
  simp only [ok_of_mapError, RuleFeed.resolve, bind_eq_ok, pure, Except.pure, Except.ok.injEq,
    Prod.mk.injEq]
  constructor
  · rintro ⟨_, h, rfl, hregistry⟩
    exact ⟨h, hregistry⟩
  · rintro ⟨h, hregistry⟩
    exact ⟨entries, h, rfl, hregistry⟩

theorem parseRules_of_trouble (hread : RuleFeed.read payload = .ok feed) {trouble : FeedTrouble}
    (h : entriesFrom (feed.extended given) 0 feed.rules = .error trouble) :
    parseRules payload given source = .error (.feed source trouble) := by
  rw [RuleFeed.extended] at h
  rw [parseRules, hread]
  simp only [RuleFeed.resolve, h]
  rfl

theorem canonicalCode_of_read (hread : RuleFeed.read payload = .ok feed) {r : RuleRecord}
    (hr : r ∈ feed.rules) : canonicalCode r.code = r.code := by
  have hcode : r.code ∈ feed.rules.map (·.code) := List.mem_map_of_mem hr
  rw [(codes_of_read hread).1] at hcode
  obtain ⟨s, -, hs⟩ := List.mem_map.mp hcode
  rw [← hs, canonicalCode_canonicalCode]

-- Codes that are read are canonical, so a registry looks for them as they are.
theorem get?_extended (hread : RuleFeed.read payload = .ok feed) (given : Option Registry) :
    ∀ r ∈ feed.rules,
    (feed.extended given).get? (.text r.code) = feed.named? (Registry.orKnown given) r.code :=
  fun _ hr => RuleFeed.get?_merged_eq_named? _ feed (canonicalCode_of_read hread hr)

theorem forall₂_named (hread : RuleFeed.read payload = .ok feed)
    (h : entriesFrom (feed.extended given) 0 feed.rules = .ok entries) :
    List.Forall₂ (fun r e => ∃ j rule, feed.named? (Registry.orKnown given) r.code = some j ∧
      r.payload.rule = .ok rule ∧ e = r.under j rule) feed.rules entries := by
  have hboth := (List.forall₂_and_left _ _).mpr
    ⟨get?_extended hread given, forall₂_of_entriesFrom h⟩
  refine hboth.imp ?_
  rintro r e ⟨hr, j, rule, hj, hrest⟩
  exact ⟨j, rule, hr ▸ hj, hrest⟩

theorem names_of_entriesFrom (hread : RuleFeed.read payload = .ok feed)
    (h : entriesFrom (feed.extended given) 0 feed.rules = .ok entries) :
    ∀ r ∈ feed.rules, feed.Names (Registry.orKnown given) r.code := by
  have hnamed : List.Forall₂ (fun r _ => feed.Names (Registry.orKnown given) r.code ∧ True)
      feed.rules entries := by
    refine (forall₂_named hread h).imp ?_
    rintro r e ⟨j, _, hj, -⟩
    exact ⟨RuleFeed.names_iff.mpr ⟨j, hj⟩, trivial⟩
  exact ((List.forall₂_and_left _ _).mp hnamed).1

/-- A feed with valid payloads is resolved over the registry that comes to be used. -/
theorem resolves_of_read (hread : RuleFeed.read payload = .ok feed)
    (hrules : ∀ r ∈ feed.rules, ∃ rule, r.payload.rule = .ok rule) :
    feed.Resolves (Registry.orKnown given) source (parseRules payload given source) := by
  have hget : ∀ r ∈ feed.rules, (feed.extended given).get? (.text r.code) =
      feed.named? (Registry.orKnown given) r.code := get?_extended hread given
  refine ⟨⟨?_, fun hnamed => ?_⟩, ?_, ?_, ?_⟩
  · rintro ⟨es, registry, hout⟩
    exact names_of_entriesFrom hread ((parseRules_eq_ok hread).mp hout).1
  · obtain ⟨es, hes⟩ := exists_entriesFrom 0 hrules fun r hr =>
      hget r hr ▸ RuleFeed.names_iff.mp (hnamed r hr)
    exact ⟨es, _, (parseRules_eq_ok hread).mpr ⟨hes, rfl⟩⟩
  · intro es registry hout
    exact forall₂_named hread ((parseRules_eq_ok hread).mp hout).1
  · intro es registry hout k
    obtain ⟨-, rfl⟩ := (parseRules_eq_ok hread).mp hout
    exact Registry.mem_keys_merged
  · intro position r hr hnot hnamed
    have hmem : r ∈ feed.rules := List.mem_of_getElem? hr
    have hnone : (feed.extended given).get? (.text r.code) = none := by
      rw [hget r hmem]
      exact Option.eq_none_iff_forall_ne_some.mpr fun j hj => hnot (RuleFeed.names_iff.mpr ⟨j, hj⟩)
    -- All payloads are valid, so no rule before this one refuses the feed.
    have hfirst := entriesFrom_of_first 0 hrules hr hnone fun r' hr' =>
      hget r' (List.mem_of_mem_take hr') ▸ RuleFeed.names_iff.mp (hnamed r' hr')
    rw [Nat.zero_add, canonicalCode_of_read hread hmem] at hfirst
    exact parseRules_of_trouble hread hfirst

/-- The rules of a feed with valid payloads are resolved over the registry that is given, or over
the known jurisdictions if it is empty. Codes are compared in canonical form, and the feed's own
declarations win. -/
theorem parseRules_resolves {payload : Json} {feed : RuleFeed}
    (hread : RuleFeed.read payload = .ok feed)
    (hrules : ∀ r ∈ feed.rules, ∃ rule, r.payload.rule = .ok rule) (given : Registry)
    (source : Option Json) :
    feed.rules.map (·.code) =
      (writtenTexts payload "rules" "jurisdiction").map canonicalCode ∧
    feed.jurisdictions.map (·.code) =
      (writtenTexts payload "jurisdictions" "code").map (fun s => .text (canonicalCode s)) ∧
    feed.Resolves (if given.isEmpty then .known else given) source
      (parseRules payload (some given) source) := by
  obtain ⟨hcodes, hdeclared⟩ := codes_of_read hread
  exact ⟨hcodes, hdeclared, @resolves_of_read _ _ (some given) source hread hrules⟩

/-- A rule of a feed on shared fault, under a jurisdiction as it is written. -/
def faultRule (code : String) : Json :=
  .object [("jurisdiction", .text code), ("topic", .text "comparative_negligence"),
    ("rule", .object [("kind", .text "flag"), ("code", .text "pure_comparative_negligence")])]

/-- A feed that declares one code twice, after which its rules name it. -/
def redeclaringFeed : Json :=
  .object [("rules", .list [faultRule " us-ca", faultRule "us-ny "]),
    ("jurisdictions", .list [
      .object [("code", .text "us-ca "), ("name", .text "California")],
      .object [("code", .text "US-CA"), ("name", .text "Golden State")]])]

def undeclaringFeed : Json := .object [("rules", .list [faultRule "US-CA"])]

def newYorkers : List Jurisdiction := [{ code := "US-NY", name := "New York" }]

/-- Whether all payloads are valid, with the codes of the rules and those that are declared. -/
def outline (feed : RuleFeed) : Bool × List String × List String :=
  (feed.rules.all fun r => r.payload.rule.isOk, feed.rules.map (·.code),
    feed.jurisdictions.map fun j => j.code.plain)

theorem exists_of_outline (payload : Json) (codes declared : List String)
    (h : (RuleFeed.read payload).toOption.map outline = some (true, codes, declared)) :
    ∃ feed, RuleFeed.read payload = .ok feed ∧
      (∀ r ∈ feed.rules, ∃ rule, r.payload.rule = .ok rule) ∧ feed.rules.map (·.code) = codes ∧
      (feed.jurisdictions.map fun j => j.code.plain) = declared := by
  obtain ⟨feed, hread, hview⟩ := exists_of_map_toOption h
  simp only [outline, Prod.mk.injEq, List.all_eq_true] at hview
  obtain ⟨hvalid, hcodes, hdeclared⟩ := hview
  exact ⟨feed, hread, fun r hr => exists_of_isOk (hvalid r hr), hcodes, hdeclared⟩

theorem parseRules_resolves_redeclaring :
    ∃ feed, RuleFeed.read redeclaringFeed = .ok feed ∧
      (∀ r ∈ feed.rules, ∃ rule, r.payload.rule = .ok rule) ∧
      feed.Resolves (.ofList newYorkers) none
        (parseRules redeclaringFeed (some (.ofList newYorkers)) none) ∧
      (parseRules redeclaringFeed (some (.ofList newYorkers)) none).toOption.map
        (fun x => (x.1.map fun e => e.jurisdiction.nameText, x.2.size)) =
          some (["Golden State", "New York"], 2) := by
  obtain ⟨feed, hread, hrules, -, -⟩ := exists_of_outline redeclaringFeed
    ["US-CA", "US-NY"] ["US-CA", "US-CA"] (by decide +kernel)
  exact ⟨feed, hread, hrules, (parseRules_resolves hread hrules (.ofList newYorkers) none).2.2,
    by decide +kernel⟩

/-- Over a registry that is given and empty, a rule comes under a jurisdiction that nobody
declared. -/
theorem parseRules_ignores_empty :
    ∃ feed, RuleFeed.read undeclaringFeed = .ok feed ∧
      (∀ r ∈ feed.rules, ∃ rule, r.payload.rule = .ok rule) ∧
      ¬ feed.Resolves (.ofList []) none (parseRules undeclaringFeed (some (.ofList [])) none) := by
  obtain ⟨feed, hread, hrules, hcodes, hdeclared⟩ := exists_of_outline undeclaringFeed
    ["US-CA"] [] (by decide +kernel)
  refine ⟨feed, hread, hrules, fun hresolves => ?_⟩
  have hreturned : (parseRules undeclaringFeed (some (.ofList [])) none).isOk = true := by
    decide +kernel
  obtain ⟨⟨entries, registry⟩, hout⟩ := exists_of_isOk hreturned
  have hnamed := hresolves.returns_iff.mp ⟨entries, registry, hout⟩
  obtain ⟨r, hr, -⟩ := List.map_eq_singleton_iff.mp hcodes
  have hnobody : feed.jurisdictions = [] := List.map_eq_nil_iff.mp hdeclared
  rcases hnamed r (hr ▸ List.mem_singleton_self r) with ⟨j, hj, -⟩ | hin
  · rw [hnobody] at hj
    exact List.not_mem_nil hj
  · exact List.not_mem_nil hin

end Parsing

end Feed
end ComparativeLaw

import ComparativeLaw.DataRoot
import ComparativeLaw.Proofs.Feed.Loading
import ComparativeLaw.Proofs.Feed.Rules
import Mathlib

namespace ComparativeLaw

open Checked Schema

namespace Feed

variable {payload : Json} {feed : RuleFeed} {payloads : List Json} {feeds : List RuleFeed}

def listed (list : String) (payload : Json) : List Json :=
  match payload.field? list with
  | some (.list js) => js
  | _ => []

/-- The payload with all jurisdictions of some payloads and all their rules, in order. -/
def joined (payloads : List Json) : Json :=
  .object [("jurisdictions", .list (payloads.flatMap (listed "jurisdictions"))),
    ("rules", .list (payloads.flatMap (listed "rules")))]

namespace RuleFeed

def append (feed more : RuleFeed) : RuleFeed where
  jurisdictions := feed.jurisdictions ++ more.jurisdictions
  rules := feed.rules ++ more.rules

instance : Append RuleFeed := ⟨append⟩

def join (feeds : List RuleFeed) : RuleFeed where
  jurisdictions := feeds.flatMap (·.jurisdictions)
  rules := feeds.flatMap (·.rules)

theorem join_singleton (feed : RuleFeed) : join [feed] = feed := by
  simp [join]

end RuleFeed

theorem forall₂_listed {α : Type} {read : Json → Schema.Checked α} {o : Fields} {list : String}
    {xs : List α} (h : defaulted (items read) [] o list = .ok xs) :
    List.Forall₂ (fun j x => read j = .ok x) (listed list (.object o)) xs := by
  rcases defaulted_eq_ok.mp h with ⟨j, hj, hread⟩ | ⟨hnone, rfl⟩
  · obtain ⟨js, rfl, hall⟩ := items_eq_ok.mp hread
    simpa only [listed, Json.field?, hj] using hall
  · simp only [listed, Json.field?, hnone]
    exact .nil

/-- A payload that is read has its items read one by one. -/
theorem forall₂_of_read (h : RuleFeed.read payload = .ok feed) :
    List.Forall₂ (fun j x => readJurisdiction j = .ok x) (listed "jurisdictions" payload)
      feed.jurisdictions ∧
    List.Forall₂ (fun j x => readRuleRecord j = .ok x) (listed "rules" payload) feed.rules := by
  obtain ⟨o, rfl, -, h⟩ := object_eq_ok.mp h
  obtain ⟨-, h⟩ := gather_eq_ok.mp h
  obtain ⟨jurisdictions, hjurisdictions, h⟩ := bind_eq_ok.mp h
  obtain ⟨rules, hrules, h⟩ := bind_eq_ok.mp h
  cases h
  exact ⟨forall₂_listed hjurisdictions, forall₂_listed hrules⟩

/-- Feeds that are read one by one are read as one feed. -/
theorem read_joined (h : List.Forall₂ (fun p f => RuleFeed.read p = .ok f) payloads feeds) :
    RuleFeed.read (joined payloads) = .ok (.join feeds) := by
  have hjurisdictions : List.Forall₂ (fun j x => readJurisdiction j = .ok x)
      (payloads.flatMap (listed "jurisdictions")) (feeds.flatMap (·.jurisdictions)) :=
    List.rel_flatMap h fun _ _ hread => (forall₂_of_read hread).1
  have hrules : List.Forall₂ (fun j x => readRuleRecord j = .ok x)
      (payloads.flatMap (listed "rules")) (feeds.flatMap (·.rules)) :=
    List.rel_flatMap h fun _ _ hread => (forall₂_of_read hread).2
  let o : Fields := [("jurisdictions", .list (payloads.flatMap (listed "jurisdictions"))),
    ("rules", .list (payloads.flatMap (listed "rules")))]
  have hfirst : defaulted (items readJurisdiction) [] o "jurisdictions" = .ok _ :=
    defaulted_of_get? rfl (items_eq_ok.mpr ⟨_, rfl, hjurisdictions⟩)
  have hsecond : defaulted (items readRuleRecord) [] o "rules" = .ok _ :=
    defaulted_of_get? rfl (items_eq_ok.mpr ⟨_, rfl, hrules⟩)
  have hextras : extras ["jurisdictions", "rules"] o = [] :=
    extras_eq_nil ["jurisdictions", "rules"] rfl fun _ h => h
  refine object_eq_ok.mpr ⟨o, rfl, ?_, gather_eq_ok.mpr ⟨?_, ?_⟩⟩
  · exact clean_of_names ["jurisdictions", "rules"] rfl (by decide +kernel)
  · simp only [List.forall_mem_cons, problems_eq_nil hfirst, problems_eq_nil hsecond, hextras,
      List.not_mem_nil, false_implies, implies_true, and_self]
  · rw [hfirst, hsecond]
    rfl

/-- Payloads of which the second one declares no code that a rule of the first one names. -/
def Apart (payload later : Json) : Prop :=
  ∀ n ∈ writtenTexts payload "rules" "jurisdiction",
    ∀ c ∈ writtenTexts later "jurisdictions" "code", canonicalCode c ≠ canonicalCode n

namespace RuleFeed

/-- A feed that declares codes which are texts, and names canonical ones. -/
structure Canonical (feed : RuleFeed) : Prop where
  declared : ∀ j ∈ feed.jurisdictions, j.code.isText = true
  named : ∀ r ∈ feed.rules, canonicalCode r.code = r.code

/-- A feed none of whose rules names a code that a later feed declares. -/
def Apart (feed later : RuleFeed) : Prop :=
  ∀ r ∈ feed.rules, ∀ j ∈ later.jurisdictions, j.code ≠ .text r.code

/-- Codes are canonical once a feed is read. -/
theorem canonical_of_read (hread : RuleFeed.read payload = .ok feed) : feed.Canonical where
  declared j hj := by
    have hj : j.code ∈ feed.jurisdictions.map (·.code) := List.mem_map_of_mem hj
    rw [(codes_of_read hread).2] at hj
    obtain ⟨c, -, hc⟩ := List.mem_map.mp hj
    rw [← hc]
    rfl
  named _ hr := canonicalCode_of_read hread hr

/-- Payloads that are apart are read as feeds that are apart. -/
theorem apart_of_read {later : Json} {more : RuleFeed} (hread : RuleFeed.read payload = .ok feed)
    (hmore : RuleFeed.read later = .ok more) (h : Feed.Apart payload later) : feed.Apart more := by
  intro r hr j hj hcode
  have hr : r.code ∈ feed.rules.map (·.code) := List.mem_map_of_mem hr
  have hj : j.code ∈ more.jurisdictions.map (·.code) := List.mem_map_of_mem hj
  rw [(codes_of_read hread).1] at hr
  rw [(codes_of_read hmore).2, hcode] at hj
  obtain ⟨n, hn, hnr⟩ := List.mem_map.mp hr
  obtain ⟨c, hc, hcr⟩ := List.mem_map.mp hj
  exact h n hn c hc ((Code.text.inj hcr).trans hnr.symm)

section Lists

variable (h : List.Forall₂ (fun p f => RuleFeed.read p = .ok f) payloads feeds)

include h

theorem exists_payload : ∀ f ∈ feeds, ∃ p ∈ payloads, RuleFeed.read p = .ok f := by
  induction h with
  | nil => exact nofun
  | @cons p f payloads feeds hread _ ih =>
    refine List.forall_mem_cons.mpr ⟨⟨p, List.mem_cons_self, hread⟩, fun g hg => ?_⟩
    obtain ⟨q, hq, hg⟩ := ih g hg
    exact ⟨q, List.mem_cons_of_mem p hq, hg⟩

theorem canonical_of_forall₂ : ∀ f ∈ feeds, f.Canonical := by
  intro f hf
  obtain ⟨p, -, hread⟩ := exists_payload h f hf
  exact canonical_of_read hread

theorem pairwise_apart (hapart : payloads.Pairwise Feed.Apart) : feeds.Pairwise Apart := by
  induction h with
  | nil => exact .nil
  | @cons p f payloads feeds hread hrest ih =>
    obtain ⟨hfirst, hapart⟩ := List.pairwise_cons.mp hapart
    refine List.pairwise_cons.mpr ⟨fun g hg => ?_, ih hapart⟩
    obtain ⟨q, hq, hg⟩ := exists_payload hrest g hg
    exact apart_of_read hread hg (hfirst q hq)

end Lists

theorem exists_forall₂_read (h : ∀ p ∈ payloads, ∃ feed, RuleFeed.read p = .ok feed) :
    ∃ feeds, List.Forall₂ (fun p f => RuleFeed.read p = .ok f) payloads feeds := by
  induction payloads with
  | nil => exact ⟨[], .nil⟩
  | cons p payloads ih =>
    obtain ⟨⟨feed, hfeed⟩, h⟩ := List.forall_mem_cons.mp h
    obtain ⟨feeds, hfeeds⟩ := ih h
    exact ⟨feed :: feeds, .cons hfeed hfeeds⟩

theorem canonical_join (h : ∀ f ∈ feeds, f.Canonical) : (join feeds).Canonical where
  declared j hj := by
    obtain ⟨f, hf, hj⟩ := List.mem_flatMap.mp hj
    exact (h f hf).declared j hj
  named r hr := by
    obtain ⟨f, hf, hr⟩ := List.mem_flatMap.mp hr
    exact (h f hf).named r hr

theorem apart_join (h : ∀ f ∈ feeds, feed.Apart f) : feed.Apart (join feeds) := by
  intro r hr j hj
  obtain ⟨f, hf, hj⟩ := List.mem_flatMap.mp hj
  exact h f hf r hr j hj

end RuleFeed

section Entries

variable {registry registry' : Registry} {rs more : List RuleRecord} {es : List RuleEntry}

/-- Where two registries answer alike for the codes that are named, the entries are the same, and
the position does not matter. -/
theorem entriesFrom_congr (n n' : Nat)
    (h : ∀ r ∈ rs, registry'.get? (.text r.code) = registry.get? (.text r.code)) :
    entriesFrom registry' n' rs = .ok es ↔ entriesFrom registry n rs = .ok es := by
  induction rs generalizing n n' es with
  | nil => rfl
  | cons r rs ih =>
    obtain ⟨hr, hrs⟩ := List.forall_mem_cons.mp h
    simp only [entriesFrom_cons_eq_ok, RuleRecord.entry_eq_ok, hr, ih (n + 1) (n' + 1) hrs]

/-- Rules are resolved in pieces. -/
theorem entriesFrom_append_eq_ok (n n' : Nat) :
    entriesFrom registry n (rs ++ more) = .ok es ↔ ∃ first rest,
      entriesFrom registry n rs = .ok first ∧ entriesFrom registry n' more = .ok rest ∧
        es = first ++ rest := by
  induction rs generalizing n es with
  | nil =>
    rw [List.nil_append, entriesFrom_congr n' n fun _ _ => rfl]
    constructor
    · exact fun h => ⟨[], es, rfl, h, rfl⟩
    · rintro ⟨_, rest, ⟨⟩, h, rfl⟩
      exact h
  | cons r rs ih =>
    simp only [List.cons_append, entriesFrom_cons_eq_ok, ih (n + 1)]
    constructor
    · rintro ⟨e, _, he, ⟨first, rest, hfirst, hrest, rfl⟩, rfl⟩
      exact ⟨e :: first, rest, ⟨e, first, he, hfirst, rfl⟩, hrest, rfl⟩
    · rintro ⟨_, rest, ⟨e, first, he, hfirst, rfl⟩, hrest, rfl⟩
      exact ⟨e, first ++ rest, he, ⟨first, rest, hfirst, hrest, rfl⟩, rfl⟩

end Entries

namespace RuleFeed

variable {registry registry' : Registry} {entries : List RuleEntry} {more : RuleFeed}

/-- What a feed comes to over a registry, if its rules come to entries. -/
def Yields (feed : RuleFeed) (registry : Registry) (entries : List RuleEntry)
    (registry' : Registry) : Prop :=
  entriesFrom (registry.merged feed.jurisdictions) 0 feed.rules = .ok entries ∧
    registry.merged feed.jurisdictions = registry'

/-- Two feeds one after the other. What the second one declares does not show in the entries of the
first one, and its declarations are merged after those of the first one either way. -/
theorem yields_append (hfeed : feed.Canonical) (hmore : more.Canonical)
    (hapart : feed.Apart more) :
    (feed ++ more).Yields registry entries registry' ↔ ∃ first between rest,
      feed.Yields registry first between ∧ more.Yields between rest registry' ∧
        entries = first ++ rest := by
  let between := registry.merged feed.jurisdictions
  have hmerged : registry.merged (feed ++ more).jurisdictions =
      between.merged more.jurisdictions :=
    (Registry.merged_merged registry hfeed.declared hmore.declared).symm
  -- No rule of the first feed names what the second one declares: it is looked up as before.
  have hlookup : ∀ r ∈ feed.rules, (between.merged more.jurisdictions).get? (.text r.code) =
      between.get? (.text r.code) := by
    intro r hr
    have hkey : (Reference.text r.code).code.key = .text r.code :=
      congrArg Code.Key.text (hfeed.named r hr)
    apply Registry.get?_merged_of_ne
    intro j hj hsame
    rw [hkey] at hsame
    exact hapart r hr j hj (Registry.code_eq_of_key hsame)
  have hfirst (first : List RuleEntry) :
      entriesFrom (between.merged more.jurisdictions) 0 feed.rules = .ok first ↔
        entriesFrom between 0 feed.rules = .ok first := entriesFrom_congr 0 0 hlookup
  have hrules : (feed ++ more).rules = feed.rules ++ more.rules := rfl
  rw [Yields, hmerged, hrules, entriesFrom_append_eq_ok 0 0]
  simp only [hfirst]
  constructor
  · rintro ⟨⟨first, rest, hes, hrest, rfl⟩, hregistry⟩
    exact ⟨first, between, rest, ⟨hes, rfl⟩, ⟨hrest, hregistry⟩, rfl⟩
  · rintro ⟨first, _, rest, ⟨hes, rfl⟩, ⟨hrest, hregistry⟩, rfl⟩
    exact ⟨⟨first, rest, hes, hrest, rfl⟩, hregistry⟩

/-- A feed of nothing leaves a plain registry as it is. -/
theorem yields_nil (h : registry.Plain) :
    (join []).Yields registry entries registry' ↔ entries = [] ∧ registry = registry' := by
  have hmerged : registry.merged (join []).jurisdictions = registry := h.merged_nil
  have hrules : entriesFrom registry 0 (join []).rules = .ok [] := rfl
  rw [Yields, hmerged, hrules, Except.ok.injEq, eq_comm (a := [])]

/-- A payload is resolved as the feed that it is read as. -/
theorem parseRules_eq_ok_iff {given : Option Registry} {source : Option Json} :
    parseRules payload given source = .ok (entries, registry') ↔ ∃ feed,
      RuleFeed.read payload = .ok feed ∧
        feed.Yields (Registry.orKnown given) entries registry' := by
  constructor
  · intro h
    cases hread : RuleFeed.read payload with
    | error problems =>
      rw [parseRules, hread] at h
      cases h
    | ok feed => exact ⟨feed, rfl, (parseRules_eq_ok hread).mp h⟩
  · rintro ⟨feed, hread, h⟩
    exact (parseRules_eq_ok hread).mpr h

end RuleFeed

/-- A file that holds a data text with some value. -/
def Node.Holds (node : Node) (payload : Json) : Prop :=
  ∃ bytes s, node = .file bytes ∧ characters bytes = .ok s ∧ Json.readAll s = .ok payload

theorem Node.holds_of_readAll {s : String} (hs : withLineFeeds (Text.written s.toList) = s.toList)
    (h : Json.readAll s.toList = .ok payload) : (Node.file s.toUTF8).Holds payload := by
  have hbytes : String.fromUTF8? s.toUTF8 = some s := by
    rw [String.fromUTF8?, String.toUTF8_eq_toByteArray, dif_pos s.isValidUTF8]
    rfl
  refine ⟨_, s.toList, rfl, ?_, h⟩
  rw [characters, hbytes]
  exact congrArg Except.ok hs

/-- A file comes to what its feed comes to over the registry that is given. -/
theorem loadRules_eq_ok {node : Node} (h : node.Holds payload)
    (hread : RuleFeed.read payload = .ok feed) {path : String} {registry registry' : Registry}
    (hne : registry.isEmpty = false) {entries : List RuleEntry} :
    loadRules path node (some registry) = .ok (entries, registry') ↔
      feed.Yields registry entries registry' := by
  obtain ⟨bytes, s, rfl, hs, hpayload⟩ := h
  have hload : loadRules path (.file bytes) (some registry) =
      (parseRules payload (some registry) (some (.text path))).mapError .failure := by
    have htext : readText path (fun c n => .unreadableRules path (Json.located s c n)) s =
        .ok payload := readText_eq_ok.mpr hpayload
    rw [loadRules, contents_eq_ok.mpr rfl]
    simp only [bind, Except.bind, hs, htext]
  rw [hload, ok_of_mapError, parseRules_eq_ok hread, RuleFeed.extended,
    Registry.orKnown_of_not_isEmpty hne]
  rfl

end Feed

namespace DataRoot

open Feed

/-- The second file is read with the registry that the first one leaves. -/
theorem readRules_cons_eq_ok {registry registry' : Registry} {file : String × Node}
    {files : List (String × Node)} {entries : List RuleEntry} :
    readRules registry (file :: files) = .ok (entries, registry') ↔ ∃ first between rest,
      loadRules file.1 file.2 (some registry) = .ok (first, between) ∧
        readRules between files = .ok (rest, registry') ∧ entries = first ++ rest := by
  simp only [readRules, bind_eq_ok, Prod.exists, pure, Except.pure, Except.ok.injEq, Prod.mk.injEq]
  constructor
  · rintro ⟨first, between, hload, rest, _, hread, rfl, rfl⟩
    exact ⟨first, between, rest, hload, hread, rfl⟩
  · rintro ⟨first, between, rest, hload, hread, rfl⟩
    exact ⟨first, between, hload, rest, _, hread, rfl, rfl⟩

/-- Files that are read one after the other come to what their feeds come to as one feed. -/
theorem readRules_eq_ok {files : List (String × Node)} {payloads : List Json}
    {feeds : List RuleFeed} {registry registry' : Registry} {entries : List RuleEntry}
    (hfiles : List.Forall₂ (fun f p => f.2.Holds p) files payloads)
    (hread : List.Forall₂ (fun p f => RuleFeed.read p = .ok f) payloads feeds)
    (hapart : feeds.Pairwise RuleFeed.Apart) (hregistry : registry.Plain)
    (hne : registry.isEmpty = false) :
    readRules registry files = .ok (entries, registry') ↔
      (RuleFeed.join feeds).Yields registry entries registry' := by
  -- On the files: each one leaves a registry that is again plain and not empty.
  induction hfiles generalizing feeds registry entries with
  | nil =>
    cases hread
    rw [RuleFeed.yields_nil hregistry, readRules, Except.ok.injEq, Prod.mk.injEq,
      eq_comm (a := [])]
  | @cons f p files payloads hfile hfiles ih =>
    cases hread with
    | @cons _ feed _ feeds hfeed hfeeds =>
      obtain ⟨hfirst, hapart⟩ := List.pairwise_cons.mp hapart
      have hcanonical := RuleFeed.canonical_of_read hfeed
      have hrest := RuleFeed.canonical_join (RuleFeed.canonical_of_forall₂ hfeeds)
      have hnext (first rest : List RuleEntry) (between : Registry)
          (h : feed.Yields registry first between) :
          readRules between files = .ok (rest, registry') ↔
            (RuleFeed.join feeds).Yields between rest registry' := by
        obtain ⟨-, rfl⟩ := h
        exact ih hfeeds hapart (Registry.plain_merged registry hcanonical.declared)
          (Registry.isEmpty_merged hne _)
      have hsplit : RuleFeed.join (feed :: feeds) = feed ++ RuleFeed.join feeds := rfl
      rw [readRules_cons_eq_ok, hsplit, RuleFeed.yields_append hcanonical hrest
        (RuleFeed.apart_join hfirst)]
      simp only [loadRules_eq_ok hfile hfeed hne]
      exact exists_congr fun first => exists_congr fun between => exists_congr fun rest =>
        and_congr_right fun h => and_congr_left fun _ => hnext first rest between h

/-- The root with one file in place of its rule feeds. -/
def withRules (root : DataRoot) (name : String) (node : Node) : DataRoot :=
  { root with rules := [(name, node)] }

/-- The only feed of a root with one file is that file. -/
theorem feeds_withRules (root : DataRoot) {name : String} (node : Node)
    (hname : ".json".toList.isSuffixOf name.toList = true) :
    (root.withRules name node).feeds "rules" ".json" (root.withRules name node).rules =
      [(root.path ++ "/" ++ "rules" ++ "/" ++ name, node)] := by
  have hkeep : ∀ e ∈ [(name, node)], ".json".toList.isSuffixOf e.1.toList = true :=
    List.forall_mem_singleton.mpr hname
  rw [withRules, feeds, List.filter_eq_self.mpr hkeep, List.mergeSort_singleton]
  rfl

/-- The engine of a root depends on its rule feeds by what they come to. -/
theorem engine_congr {α : Type} [Scalar α] (root root' : DataRoot) (hpath : root'.path = root.path)
    (hcases : root'.cases = root.cases)
    (h : ∀ entries registry,
      readRules .known (root'.feeds "rules" ".json" root'.rules) = .ok (entries, registry) ↔
        readRules .known (root.feeds "rules" ".json" root.rules) = .ok (entries, registry))
    (policy : Policy α) (e : Engine α) :
    root'.engine policy = .ok e ↔ root.engine policy = .ok e := by
  have hdecisions : root'.feeds "cases" ".jsonl" root'.cases =
      root.feeds "cases" ".jsonl" root.cases := by
    rw [hcases]
    simp only [feeds, hpath]
  simp only [engine, bind_eq_ok, Prod.exists, h, hdecisions]

/-- Two feeds, the second one read over the registry that the first one leaves, come to the entries
and the registry of the joined feed, if the second one declares no code that a rule of the first one
names. So it is with all rule feeds of a root: the engine is that of one file that joins them. -/
theorem engine_joined {α : Type} [Scalar α] :
    (∀ (given : Option Registry) (a b : Json) (sourceA sourceB source : Option Json)
      (entriesA entriesB : List RuleEntry) (registryA registryB : Registry),
      parseRules a given sourceA = .ok (entriesA, registryA) →
      parseRules b (some registryA) sourceB = .ok (entriesB, registryB) → Apart a b →
      parseRules (joined [a, b]) given source = .ok (entriesA ++ entriesB, registryB)) ∧
    ∀ (root : DataRoot) (payloads : List Json) (name : String) (node : Node),
      List.Forall₂ (fun f p => f.2.Holds p) (root.feeds "rules" ".json" root.rules) payloads →
      (∀ p ∈ payloads, ∃ feed, RuleFeed.read p = .ok feed) → payloads.Pairwise Apart →
      ".json".toList.isSuffixOf name.toList = true → node.Holds (joined payloads) →
      ∀ (policy : Policy α) (e : Engine α),
        (root.withRules name node).engine policy = .ok e ↔ root.engine policy = .ok e := by
  constructor
  · intro given a b sourceA sourceB source entriesA entriesB registryA registryB hA hB hapart
    obtain ⟨feedA, hreadA, hyieldsA⟩ := RuleFeed.parseRules_eq_ok_iff.mp hA
    obtain ⟨feedB, hreadB, hyieldsB⟩ := RuleFeed.parseRules_eq_ok_iff.mp hB
    -- The second feed is read over the registry that the first one leaves, which is never empty.
    have hne : registryA.isEmpty = false :=
      hyieldsA.2 ▸ Registry.isEmpty_merged (Registry.isEmpty_orKnown _) _
    rw [Registry.orKnown_of_not_isEmpty hne] at hyieldsB
    have hread : RuleFeed.read (joined [a, b]) = .ok (feedA ++ feedB) := by
      rw [read_joined (.cons hreadA (.cons hreadB .nil))]
      show Except.ok (feedA ++ RuleFeed.join [feedB]) = _
      rw [RuleFeed.join_singleton]
    refine RuleFeed.parseRules_eq_ok_iff.mpr ⟨_, hread, ?_⟩
    have hcanonicalA : feedA.Canonical := RuleFeed.canonical_of_read hreadA
    have hcanonicalB : feedB.Canonical := RuleFeed.canonical_of_read hreadB
    refine (RuleFeed.yields_append hcanonicalA hcanonicalB
      (RuleFeed.apart_of_read hreadA hreadB hapart)).mpr ?_
    exact ⟨entriesA, registryA, entriesB, hyieldsA, hyieldsB, rfl⟩
  · intro root payloads name node hfiles hreads hapart hname hnode policy e
    obtain ⟨feeds, hfeeds⟩ := RuleFeed.exists_forall₂_read hreads
    have hknown : Registry.known.isEmpty = false := Registry.isEmpty_orKnown none
    have hone : List.Forall₂ (fun f p => f.2.Holds p)
        ((root.withRules name node).feeds "rules" ".json" (root.withRules name node).rules)
        [joined payloads] := by
      rw [feeds_withRules root node hname]
      exact .cons hnode .nil
    -- Both roots have the same decisions; their rule feeds come to the same entries and registry.
    apply engine_congr root (root.withRules name node) rfl rfl
    intro entries registry
    rw [readRules_eq_ok hfiles hfeeds (RuleFeed.pairwise_apart hfeeds hapart) Registry.plain_known
        hknown,
      readRules_eq_ok hone (.cons (read_joined hfeeds) .nil) (List.pairwise_singleton _ _)
        Registry.plain_known hknown, RuleFeed.join_singleton]

/-- A feed that declares one jurisdiction and has one rule. -/
def smallFeed (code name ruled : String) : Json :=
  .object [("jurisdictions", .list [.object [("code", .text code), ("name", .text name)]]),
    ("rules", .list [.object [("jurisdiction", .text ruled), ("topic", .text "damages_caps"),
      ("rule", .object [("kind", .text "flag"), ("code", .text "no_cap")])]])]

/-- A feed that names a known kingdom anew. -/
def kingdomFeed : Json := smallFeed "uk" "Kingdom" "us"

/-- A feed that names it once more, in another spelling of its code, and has a rule of it. -/
def britainFeed : Json := smallFeed " UK" "Britain" "uk"

/-- The name that a registry has for the kingdom. -/
def kingdomIn (registry : Registry) : Option String :=
  (registry.get? (.text "UK")).map (·.name.plain)

def kingdomText : String :=
  "\x7b\"jurisdictions\":[\x7b\"code\":\"uk\",\"name\":\"Kingdom\"\x7d]," ++
    "\"rules\":[\x7b\"jurisdiction\":\"us\",\"topic\":\"damages_caps\"," ++
    "\"rule\":\x7b\"kind\":\"flag\",\"code\":\"no_cap\"\x7d\x7d]\x7d"

def britainText : String :=
  "\x7b\"jurisdictions\":[\x7b\"code\":\" UK\",\"name\":\"Britain\"\x7d]," ++
    "\"rules\":[\x7b\"jurisdiction\":\"uk\",\"topic\":\"damages_caps\"," ++
    "\"rule\":\x7b\"kind\":\"flag\",\"code\":\"no_cap\"\x7d\x7d]\x7d"

def bothText : String :=
  "\x7b\"jurisdictions\":[\x7b\"code\":\"uk\",\"name\":\"Kingdom\"\x7d," ++
    "\x7b\"code\":\" UK\",\"name\":\"Britain\"\x7d]," ++
    "\"rules\":[\x7b\"jurisdiction\":\"us\",\"topic\":\"damages_caps\"," ++
    "\"rule\":\x7b\"kind\":\"flag\",\"code\":\"no_cap\"\x7d\x7d," ++
    "\x7b\"jurisdiction\":\"uk\",\"topic\":\"damages_caps\"," ++
    "\"rule\":\x7b\"kind\":\"flag\",\"code\":\"no_cap\"\x7d\x7d]\x7d"

def fileOf (s : String) : Node := .file s.toUTF8

theorem holds_kingdomText : (fileOf kingdomText).Holds kingdomFeed := by
  apply Node.holds_of_readAll
  · cbv
  · cbv

theorem holds_britainText : (fileOf britainText).Holds britainFeed := by
  apply Node.holds_of_readAll
  · cbv
  · cbv

set_option maxRecDepth 1000 in
theorem holds_bothText : (fileOf bothText).Holds (joined [kingdomFeed, britainFeed]) := by
  apply Node.holds_of_readAll
  · cbv
  · cbv

def twoFiles : DataRoot where
  path := "data"
  rules := [("a.json", fileOf kingdomText), ("b.json", fileOf britainText)]

theorem feeds_twoFiles : twoFiles.feeds "rules" ".json" twoFiles.rules =
    [("data/rules/a.json", fileOf kingdomText), ("data/rules/b.json", fileOf britainText)] := by
  have hkeep : ∀ e ∈ twoFiles.rules, ".json".toList.isSuffixOf e.1.toList = true := by
    simp only [twoFiles, List.forall_mem_cons]
    decide +kernel
  have hsorted : twoFiles.rules.Pairwise fun a b => Text.precedes a.1 b.1 = true := by
    simp only [twoFiles, List.pairwise_cons, List.forall_mem_cons]
    decide +kernel
  rw [feeds, List.filter_eq_self.mpr hkeep, List.mergeSort_of_pairwise hsorted]
  rfl

/-- Both feeds declare the kingdom; the later name stands, also for the rule of the second feed. -/
theorem engine_joined_twoFiles :
    (∃ entriesA registryA entriesB registryB,
      parseRules kingdomFeed none none = .ok (entriesA, registryA) ∧
      parseRules britainFeed (some registryA) none = .ok (entriesB, registryB) ∧
      parseRules (joined [kingdomFeed, britainFeed]) none none =
        .ok (entriesA ++ entriesB, registryB) ∧
      kingdomIn registryA = some "Kingdom" ∧ kingdomIn registryB = some "Britain" ∧
      (entriesA ++ entriesB).map (·.jurisdiction.name.plain) =
        ["United States (Federal)", "Britain"]) ∧
    ∃ e : Engine Rat, twoFiles.engine (.ofEnvironment []) = .ok e ∧
      (twoFiles.withRules "all.json" (fileOf bothText)).engine (.ofEnvironment []) = .ok e := by
  have hapart : Apart kingdomFeed britainFeed := by
    unfold Apart
    decide +kernel
  constructor
  · -- Both runs at once, with what the names and the rules' jurisdictions come to.
    have hboth : ((parseRules kingdomFeed none none >>= fun a =>
          (parseRules britainFeed (some a.2) none).map (Prod.mk a)).toOption.map fun x =>
        (kingdomIn x.1.2, kingdomIn x.2.2, (x.1.1 ++ x.2.1).map (·.jurisdiction.name.plain))) =
        some (some "Kingdom", some "Britain", ["United States (Federal)", "Britain"]) := by
      decide +kernel
    obtain ⟨⟨a, b⟩, hboth, hnames⟩ := exists_of_map_toOption hboth
    obtain ⟨_, hA, hboth⟩ := bind_eq_ok.mp hboth
    obtain ⟨_, hB, hpair⟩ := map_eq_ok.mp hboth
    cases hpair
    simp only [Prod.mk.injEq] at hnames
    exact ⟨a.1, a.2, b.1, b.2, hA, hB,
      (@engine_joined Rat _).1 none _ _ _ _ none _ _ _ _ hA hB hapart, hnames⟩
  · have hfiles : List.Forall₂ (fun f p => f.2.Holds p)
        (twoFiles.feeds "rules" ".json" twoFiles.rules) [kingdomFeed, britainFeed] := by
      rw [feeds_twoFiles]
      exact .cons holds_kingdomText (.cons holds_britainText .nil)
    have hreads : ∀ p ∈ [kingdomFeed, britainFeed], ∃ feed, RuleFeed.read p = .ok feed := by
      simp only [List.forall_mem_cons]
      exact ⟨exists_of_isOk (by decide +kernel), exists_of_isOk (by decide +kernel), nofun⟩
    have hcases : twoFiles.feeds "cases" ".jsonl" twoFiles.cases = [] := feeds_nil _ _ _
    have hengine : (twoFiles.engine (.ofEnvironment [] : Policy Rat)).isOk = true := by
      rw [engine, feeds_twoFiles, hcases]
      decide +kernel
    obtain ⟨e, he⟩ := exists_of_isOk hengine
    exact ⟨e, he, (engine_joined.2 twoFiles _ _ _ hfiles hreads (List.pairwise_pair.mpr hapart)
      (by decide +kernel) holds_bothText _ e).mpr he⟩

end DataRoot
end ComparativeLaw

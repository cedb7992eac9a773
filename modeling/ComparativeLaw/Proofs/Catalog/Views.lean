import ComparativeLaw.Proofs.Jurisdiction.Merging
import ComparativeLaw.Proofs.Order

namespace ComparativeLaw

theorem Code.eq_text_plain {c : Code} (h : c.isText = true) : c = .text c.plain := by
  cases c with
  | text s => rfl
  | value j => cases h

/-- Codes that are texts are sorted as these. -/
theorem Code.sorted_of_texts {codes : List Code} (h : ∀ c ∈ codes, c.isText = true) :
    Code.sorted codes = .ok (codes.mergeSort fun a b => Text.precedes a.plain b.plain) := by
  have hall : codes.all Code.isText = true := List.all_eq_true.mpr h
  rw [Code.sorted, Code.sorted?, hall]
  split
  · next hshort =>
    have hsorted : codes.Pairwise fun a b => Text.precedes a.plain b.plain = true := by
      match codes, hshort with
      | [], _ => exact List.Pairwise.nil
      | [c], _ => exact List.pairwise_singleton _ c
    rw [List.mergeSort_of_pairwise hsorted]
    rfl
  · rfl

/-- Distinct texts are sorted to the same texts in increasing order. -/
theorem Code.exists_sorted {codes : List Code} (htexts : ∀ c ∈ codes, c.isText = true)
    (hnodup : codes.Nodup) : ∃ texts : List String, Code.sorted codes = .ok (texts.map .text) ∧
      texts.Nodup ∧ texts.Pairwise (fun s t => Text.precedes s t = true) ∧
      ∀ s, s ∈ texts ↔ Code.text s ∈ codes := by
  obtain ⟨given, rfl⟩ : ∃ given : List String, codes = given.map .text := by
    refine ⟨codes.map Code.plain, ?_⟩
    rw [List.map_map]
    exact (List.map_id codes).symm.trans
      (List.map_congr_left fun c hc => Code.eq_text_plain (htexts c hc))
  have hperm : (given.mergeSort Text.precedes).Perm given := List.mergeSort_perm given _
  have htrans (s t u : String) (hst : Text.precedes s t = true) (htu : Text.precedes t u = true) :
      Text.precedes s u = true :=
    Text.precedes_trans hst htu
  refine ⟨given.mergeSort Text.precedes, ?_, hperm.nodup_iff.mpr (hnodup.of_map _),
    List.pairwise_mergeSort htrans Text.precedes_total given, fun s => ?_⟩
  · have hmap : (given.mergeSort Text.precedes).map Code.text = (given.map Code.text).mergeSort
        fun a b => Text.precedes a.plain b.plain :=
      List.map_mergeSort fun _ _ _ _ => rfl
    rw [Code.sorted_of_texts htexts, hmap]
  · rw [hperm.mem_iff, List.mem_map_of_injective fun _ _ h => Code.text.inj h]

namespace EntryViews

variable {entries : List RuleEntry}

/-- The jurisdictions that entries name have the codes of the entries, each of them once. -/
theorem nodup_codes_namedBy (entries : List RuleEntry) :
    ((namedBy entries []).values.map (·.code)).Nodup := by
  have hkeys : ((namedBy entries []).values.map (·.code)).map Code.key =
      (namedBy entries []).keys := by
    rw [Table.values, Table.keys, List.map_map, List.map_map]
    exact List.map_congr_left fun e he => (of_mem_namedBy he).1
  apply List.Nodup.of_map Code.key
  rw [hkeys]
  exact nodup_keys_namedBy entries

theorem mem_codes_namedBy (htexts : ∀ e ∈ entries, e.jurisdiction.code.isText) {code : Code} :
    code ∈ (namedBy entries []).values.map (·.code) ↔
      ∃ e ∈ entries, e.jurisdiction.code = code := by
  rw [Table.values, List.map_map, List.mem_map]
  constructor
  · rintro ⟨e, he, rfl⟩
    obtain ⟨-, x, hx, hj⟩ := of_mem_namedBy he
    exact ⟨x, hx, congrArg Jurisdiction.code hj⟩
  · rintro ⟨e, he, rfl⟩
    have hmem : e.jurisdiction.code.key ∈ (namedBy entries []).keys := by
      rw [keys_namedBy, List.mem_eraseDups]
      exact List.mem_map_of_mem he
    obtain ⟨x, hx, hkey⟩ := List.mem_map.mp hmem
    refine ⟨x, hx, ?_⟩
    -- Under the key of a text stands that text and no other code.
    have htext := Code.eq_text_plain (htexts e he)
    rw [htext] at hkey ⊢
    exact Registry.code_eq_of_key ((of_mem_namedBy hx).1.trans hkey)

end EntryViews

namespace Catalog

/-- The first entry of a list whose key an earlier one has. -/
def FirstRepeat (entries : List RuleEntry) (e : RuleEntry) : Prop :=
  ∃ before after, entries = before ++ e :: after ∧ (before.map RuleEntry.key).Nodup ∧
    e.key ∈ before.map RuleEntry.key

/-- A catalogue all of whose views show one list of entries. -/
structure Shows (c : Catalog) (entries : List RuleEntry) : Prop where
  entries_eq : c.entries = entries
  size_eq : c.size = entries.length
  ofTopic_eq : ∀ topic, c.ofTopic topic = entries.filter (·.topic = topic)
  ofJurisdiction_eq : ∀ j, c.ofJurisdiction (.known j) =
    entries.filter (·.jurisdiction.code.key = j.code.key)
  entry?_own : ∀ e ∈ entries, c.entry? (.known e.jurisdiction) e.topic = some e
  entry?_other : ∀ j topic, (∀ e ∈ entries, e.key ≠ (j.code.key, topic)) →
    c.entry? (.known j) topic = none
  /-- The codes of the entries, each once and in increasing order. -/
  codes_eq : ∃ texts : List String, c.codes = .ok (texts.map .text) ∧ texts.Nodup ∧
    texts.Pairwise (fun s t => Text.precedes s t = true) ∧
    ∀ s, s ∈ texts ↔ ∃ e ∈ entries, e.jurisdiction.code = .text s
  topics_eq : c.topics = Topic.all.filter fun topic => entries.any (·.topic = topic)

variable {entries : List RuleEntry}

/-- The search for a repeat finds the first entry whose key stands before it. -/
theorem firstRepeat?_eq_some_iff {e : RuleEntry} :
    firstRepeat? RuleEntry.key [] entries = some e ↔ FirstRepeat entries e := by
  rw [firstRepeat?_eq_some]
  constructor
  · rintro ⟨before, after, hsplit, hnone, hkey⟩
    exact ⟨before, after, hsplit, (nodup_of_firstRepeat? hnone).1, hkey⟩
  · rintro ⟨before, after, hsplit, hnodup, hkey⟩
    exact ⟨before, after, hsplit, firstRepeat?_of_nodup hnodup, hkey⟩

theorem exists_firstRepeat_iff :
    (∃ e, FirstRepeat entries e) ↔ ¬ (entries.map RuleEntry.key).Nodup := by
  simp only [← firstRepeat?_eq_some_iff]
  constructor
  · rintro ⟨e, he⟩ hnodup
    rw [firstRepeat?_of_nodup hnodup] at he
    cases he
  · intro hrepeats
    cases hfirst : firstRepeat? RuleEntry.key [] entries with
    | none => exact absurd (nodup_of_firstRepeat? hfirst).1 hrepeats
    | some e => exact ⟨e, rfl⟩

section Distinct

variable (hnodup : (entries.map RuleEntry.key).Nodup) (registry : Option Registry)

include hnodup in
theorem byKey_ofDistinct :
    (ofDistinct entries registry).byKey = entries.map fun e => (e.key, e) :=
  EntryViews.byKey_foldl_file (firstRepeat?_of_nodup hnodup)

include hnodup in
/-- A catalogue finds the entry of a code and a topic, and only that one. -/
theorem entry?_ofDistinct {ref : Reference} {topic : Topic} {e : RuleEntry} :
    Catalog.entry? (ofDistinct entries registry) ref topic = some e ↔
      e ∈ entries ∧ e.key = (ref.code.key, topic) := by
  have hkeys : Table.keys (entries.map fun e => (e.key, e)) |>.Nodup := by
    rw [Table.keys, List.map_map]
    exact hnodup
  unfold entry?
  rw [byKey_ofDistinct hnodup]
  constructor
  · intro hget
    obtain ⟨x, hx, heq⟩ := List.mem_map.mp (Table.mem_of_get? hget)
    obtain ⟨hkey, rfl⟩ := Prod.mk.inj heq
    exact ⟨hx, hkey⟩
  · rintro ⟨he, hkey⟩
    rw [← hkey]
    exact Table.get?_of_mem hkeys (List.mem_map_of_mem (f := fun e => (e.key, e)) he)

/-- The entries of a topic in the order of the list. -/
theorem ofTopic_ofDistinct (topic : Topic) :
    (ofDistinct entries registry).ofTopic topic = entries.filter (·.topic = topic) :=
  EntryViews.byTopic_foldl_file (v := {}) topic

/-- The entries of a jurisdiction in the order of the list. -/
theorem ofJurisdiction_ofDistinct (ref : Reference) :
    (ofDistinct entries registry).ofJurisdiction ref =
      entries.filter (·.jurisdiction.code.key = ref.code.key) :=
  EntryViews.byCode_foldl_file (v := {}) ref.code.key

/-- The topics of a catalogue in the order of the vocabulary. -/
theorem topics_ofDistinct : (ofDistinct entries registry).topics =
    Topic.all.filter fun topic => entries.any (·.topic = topic) := by
  have hkeys (topic : Topic) : topic ∈ (ofDistinct entries registry).byTopic.keys ↔
      topic ∈ Table.keys ([] : Table Topic (List RuleEntry)) ∨ ∃ e ∈ entries, e.topic = topic :=
    EntryViews.mem_keys_view_foldl_file (v := {}) EntryViews.byTopic fun _ _ => rfl
  refine List.filter_congr fun topic _ => Bool.eq_iff_iff.mpr ?_
  rw [Table.contains_iff, hkeys, List.any_eq_true]
  simp [Table.keys]

/-- The codes of a catalogue are sorted, each once. -/
theorem codes_ofDistinct (htexts : ∀ e ∈ entries, e.jurisdiction.code.isText) :
    ∃ texts : List String, (ofDistinct entries registry).codes = .ok (texts.map .text) ∧
      texts.Nodup ∧ texts.Pairwise (fun s t => Text.precedes s t = true) ∧
      ∀ s, s ∈ texts ↔ ∃ e ∈ entries, e.jurisdiction.code = .text s := by
  have hnamed : (ofDistinct entries registry).named = EntryViews.namedBy entries [] :=
    EntryViews.named_foldl_file (v := {})
  have hall : ∀ code ∈ (EntryViews.namedBy entries []).values.map (·.code), code.isText = true := by
    intro code hcode
    obtain ⟨e, he, rfl⟩ := (EntryViews.mem_codes_namedBy htexts).mp hcode
    exact htexts e he
  obtain ⟨texts, hsorted, hnodup, hordered, hmem⟩ :=
    Code.exists_sorted hall (EntryViews.nodup_codes_namedBy entries)
  refine ⟨texts, ?_, hnodup, hordered, fun s => ?_⟩
  · rw [codes, hnamed]
    exact hsorted
  · rw [hmem]
    exact EntryViews.mem_codes_namedBy htexts

include hnodup in
theorem shows_ofDistinct (htexts : ∀ e ∈ entries, e.jurisdiction.code.isText) :
    (ofDistinct entries registry).Shows entries where
  entries_eq := entries_ofDistinct (firstRepeat?_of_nodup hnodup) registry
  size_eq := size_ofDistinct (firstRepeat?_of_nodup hnodup) registry
  ofTopic_eq := ofTopic_ofDistinct registry
  ofJurisdiction_eq j := ofJurisdiction_ofDistinct registry (.known j)
  entry?_own e he := (entry?_ofDistinct hnodup registry).mpr ⟨he, rfl⟩
  entry?_other j topic hnone := by
    rw [Option.eq_none_iff_forall_ne_some]
    intro e he
    obtain ⟨hmem, hkey⟩ := (entry?_ofDistinct hnodup registry).mp he
    exact hnone e hmem hkey
  codes_eq := codes_ofDistinct registry htexts
  topics_eq := topics_ofDistinct registry

end Distinct

/-- Building fails exactly if two entries have one key, and names the first entry that repeats an
earlier key. Otherwise all views of the catalogue show the list. -/
theorem build_views (htexts : ∀ e ∈ entries, e.jurisdiction.code.isText)
    (registry : Option Registry) :
    ((∃ fault, build entries registry = .error fault) ↔ ¬ (entries.map RuleEntry.key).Nodup) ∧
    (∀ fault, build entries registry = .error fault ↔ ∃ e, FirstRepeat entries e ∧
      fault = .failure (.duplicateRuleEntry e.jurisdiction.code e.topic)) ∧
    ((entries.map RuleEntry.key).Nodup →
      ∃ c, build entries registry = .ok c ∧ c.Shows entries) := by
  have hfault (fault : Fault) : build entries registry = .error fault ↔
      ∃ e, FirstRepeat entries e ∧
        fault = .failure (.duplicateRuleEntry e.jurisdiction.code e.topic) := by
    rw [build_eq htexts]
    simp only [← firstRepeat?_eq_some_iff]
    cases hfirst : firstRepeat? RuleEntry.key [] entries with
    | none => simp
    | some e => simp [eq_comm]
  refine ⟨?_, hfault, fun hnodup => ?_⟩
  · rw [← exists_firstRepeat_iff]
    constructor
    · rintro ⟨fault, h⟩
      obtain ⟨e, he, -⟩ := (hfault fault).mp h
      exact ⟨e, he⟩
    · rintro ⟨e, he⟩
      exact ⟨_, (hfault _).mpr ⟨e, he, rfl⟩⟩
  · refine ⟨ofDistinct entries registry, ?_, shows_ofDistinct hnodup registry htexts⟩
    rw [build_eq htexts, firstRepeat?_of_nodup hnodup]

/-- A code that is written in two ways, and two topics under one of them. -/
def spelledTwice : List RuleEntry :=
  [("US-CA", Topic.comparativeNegligence, Rule.pureComparativeNegligence),
    ("us-ca", .comparativeNegligence, .contributoryNegligence),
    ("US-CA", .damagesCaps, .noDamagesCap)].map fun e =>
      { jurisdiction := .ofCode e.1, topic := e.2.1, rule := e.2.2 }

/-- A rule for the first code and topic once more. -/
def renewed : RuleEntry :=
  { jurisdiction := .ofCode "US-CA", topic := .comparativeNegligence,
    rule := .modifiedComparative50 }

/-- A code in two spellings is one code, so that the second entry on a topic is refused. -/
theorem build_views_spelledTwice :
    (∀ e ∈ spelledTwice ++ [renewed], e.jurisdiction.code.isText) ∧
    (spelledTwice.map RuleEntry.key).Nodup ∧
    (∃ c, build spelledTwice none = .ok c ∧ c.Shows spelledTwice) ∧
    build (spelledTwice ++ [renewed]) none =
      .error (.failure (.duplicateRuleEntry (.text "US-CA") .comparativeNegligence)) := by
  have htexts : ∀ e ∈ spelledTwice ++ [renewed], e.jurisdiction.code.isText := by decide
  have hnodup : (spelledTwice.map RuleEntry.key).Nodup := by decide
  have hfirst : FirstRepeat (spelledTwice ++ [renewed]) renewed :=
    ⟨spelledTwice, [], rfl, hnodup, by decide⟩
  have hshows := (build_views (fun e he => htexts e (List.mem_append_left _ he)) none).2.2 hnodup
  exact ⟨htexts, hnodup, hshows, ((build_views htexts none).2.1 _).mpr ⟨renewed, hfirst, rfl⟩⟩

end Catalog
end ComparativeLaw

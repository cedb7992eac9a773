import ComparativeLaw.Proofs.Feed.Rules
import ComparativeLaw.Proofs.Jurisdiction.Spelling

namespace ComparativeLaw

open Checked Schema

/-- A canonical code that is not empty. -/
def Code.Proper (c : Code) : Prop := c.Canonical ∧ c ≠ .text ""

theorem Code.key_eq_text {c : Code} {s : String} : c.key = .text s ↔ c = .text s :=
  ⟨Registry.code_eq_of_key, fun h => h ▸ rfl⟩

theorem Code.Canonical.isText {c : Code} (h : c.Canonical) : c.isText = true := by
  obtain ⟨s, rfl, -⟩ := h
  rfl

/-- A code that is its own canonical form, and not empty, is proper. -/
theorem Code.proper_of_is {c : Code} (hc : c.is (canonicalCode c.plain) = true)
    (hne : c.plain ≠ "") : c.Proper := by
  have htext : c = .text (canonicalCode c.plain) := key_eq_text.mp (is_iff.mp hc)
  constructor
  · rw [htext]
    exact canonical_canonicalCode _
  · intro hempty
    exact hne (congrArg plain hempty)

namespace Registry

variable {js : List Jurisdiction} {j : Jurisdiction}

theorem mem_of_mem_ofList (h : j ∈ (ofList js).toList) : j ∈ js := by
  have hvalues : ∀ e ∈ (ofList js).table, e.2 ∈ js := by
    apply Table.forall_mem_ofList
    intro e he
    obtain ⟨j, hj, rfl⟩ := List.mem_map.mp he
    exact hj
  obtain ⟨e, he, rfl⟩ := List.mem_map.mp h
  exact hvalues e he

/-- The texts that are codes of a list are those that are codes of its registry. -/
theorem exists_code_ofList {s : String} :
    (∃ j ∈ (ofList js).toList, j.code = .text s) ↔ ∃ j ∈ js, j.code = .text s := by
  constructor
  · rintro ⟨j, hj, hcode⟩
    exact ⟨j, mem_of_mem_ofList hj, hcode⟩
  · rintro ⟨j, hj, hcode⟩
    have hkey : Code.Key.text s ∈ (ofList js).table.keys := by
      apply Table.mem_keys_insertAll.mpr
      rw [map_fst_keyed]
      exact .inr (List.mem_map.mpr ⟨j, hj, Code.key_eq_text.mpr hcode⟩)
    obtain ⟨e, he, hes⟩ := List.mem_map.mp hkey
    -- The jurisdiction that is kept may be a later one, which has the same code.
    refine ⟨e.2, List.mem_map_of_mem he, Code.key_eq_text.mp ?_⟩
    rw [(ofList js).own e he, hes]

/-- The known codes are proper. -/
theorem proper_known : ∀ j ∈ known.toList, j.code.Proper := by
  have hcodes : ∀ j ∈ Jurisdiction.states.map (fun s => .ofState s.1 s.2) ++ Jurisdiction.national,
      j.code.is (canonicalCode j.code.plain) = true ∧ j.code.plain ≠ "" := by
    decide +kernel
  intro j hj
  have hj := hcodes j (mem_of_mem_ofList hj)
  exact Code.proper_of_is hj.1 hj.2

/-- So are those of the registry that a reading consults. -/
theorem proper_orKnown {given : Option Registry}
    (h : ∀ r ∈ given, ∀ j ∈ r.toList, j.code.Proper) :
    ∀ j ∈ (orKnown given).toList, j.code.Proper := by
  cases given with
  | none => exact proper_known
  | some r =>
    rw [orKnown]
    split
    · exact proper_known
    · exact h r rfl

theorem mem_of_get? {r : Registry} {ref : Reference} (h : r.get? ref = some j) : j ∈ r.toList :=
  Table.mem_values_of_get? h

end Registry

namespace Feed

variable {payload : Json} {feed : RuleFeed} {given : Option Registry} {source : Option Json}
  {entries : List RuleEntry} {registry : Registry}

/-- A feed declares the canonical forms of the codes that it writes. -/
theorem declared_iff (hread : RuleFeed.read payload = .ok feed) {c : Code} :
    (∃ j ∈ feed.jurisdictions, j.code = c) ↔
      ∃ s ∈ writtenTexts payload "jurisdictions" "code", .text (canonicalCode s) = c := by
  rw [← List.mem_map, (codes_of_read hread).2, List.mem_map]

section Extended

variable (hread : RuleFeed.read payload = .ok feed)
  (hgiven : ∀ r ∈ given, ∀ j ∈ r.toList, j.code.Proper)

include hread hgiven

theorem canonical_sources :
    ∀ j ∈ (Registry.orKnown given).toList ++ feed.jurisdictions, j.code.Canonical := by
  refine List.forall_mem_append.mpr ⟨?_, ?_⟩
  · exact fun j hj => (Registry.proper_orKnown hgiven j hj).1
  · intro j hj
    obtain ⟨s, -, hs⟩ := (declared_iff hread).mp ⟨j, hj, rfl⟩
    rw [← hs]
    exact Code.canonical_canonicalCode s

theorem plain_extended : (feed.extended given).Plain :=
  Registry.plain_ofList fun j hj => (canonical_sources hread hgiven j hj).isText

/-- All codes of an extended registry are canonical. -/
theorem canonical_extended : ∀ j ∈ (feed.extended given).toList, j.code.Canonical :=
  fun j hj => canonical_sources hread hgiven j (Registry.mem_of_mem_ofList hj)

/-- The registry has the empty code exactly if the feed declares one that is blank. -/
theorem exists_empty_extended : (∃ j ∈ (feed.extended given).toList, j.code = .text "") ↔
    ∃ s ∈ writtenTexts payload "jurisdictions" "code", Text.isBlankText s = true := by
  have hdeclared : (∃ j ∈ feed.jurisdictions, j.code = .text "") ↔
      ∃ s ∈ writtenTexts payload "jurisdictions" "code", Text.isBlankText s = true := by
    rw [declared_iff hread]
    simp only [Code.text.injEq, canonicalCode_eq_empty]
  rw [← hdeclared]
  refine Registry.exists_code_ofList.trans ⟨?_, ?_⟩
  · rintro ⟨j, hj, hempty⟩
    -- The registry that the feed extends has no empty code of its own.
    rcases List.mem_append.mp hj with hbase | hfeed
    · exact absurd hempty (Registry.proper_orKnown hgiven j hbase).2
    · exact ⟨j, hfeed, hempty⟩
  · rintro ⟨j, hj, hempty⟩
    exact ⟨j, List.mem_append_right _ hj, hempty⟩

end Extended

/-- Every entry has a jurisdiction of the registry, under the code that its rule names. -/
theorem jurisdictions_of_entriesFrom {rs : List RuleRecord} {position : Nat}
    (hnamed : ∀ r ∈ rs, canonicalCode r.code = r.code)
    (h : entriesFrom registry position rs = .ok entries) :
    (∀ e ∈ entries, e.jurisdiction ∈ registry.toList) ∧
      entries.map (·.jurisdiction.code) = (rs.map (·.code)).map .text := by
  have hentries := forall₂_of_entriesFrom h
  clear h
  induction hentries with
  | nil => exact ⟨fun _ he => absurd he List.not_mem_nil, rfl⟩
  | @cons r e rs entries hentry _ ih =>
    obtain ⟨j, rule, hj, -, rfl⟩ := hentry
    obtain ⟨hr, hrs⟩ := List.forall_mem_cons.mp hnamed
    obtain ⟨hmem, hcodes⟩ := ih hrs
    have hcode : j.code = .text r.code := by
      apply Code.key_eq_text.mp
      rw [registry.own _ (Table.mem_of_get? hj)]
      exact congrArg Code.Key.text hr
    refine ⟨List.forall_mem_cons.mpr ⟨Registry.mem_of_get? hj, hmem⟩, ?_⟩
    rw [List.map_cons, List.map_cons, List.map_cons, hcodes]
    exact congrArg (· :: _) hcode

/-- Over a registry of proper codes, a feed leads to canonical codes, each written as it stands, and
its entries have the canonical forms of the codes that its rules name. They are all proper exactly
if no declared code is blank. Entries with distinct keys come to a catalogue, and it has each of
them under every spelling of its code. -/
theorem parseRules_codes (hgiven : ∀ r ∈ given, ∀ j ∈ r.toList, j.code.Proper)
    (h : parseRules payload given source = .ok (entries, registry)) :
    (registry.Plain ∧ ∀ j ∈ registry.toList, j.code.Canonical) ∧
    (∀ e ∈ entries, e.jurisdiction ∈ registry.toList) ∧
    entries.map (·.jurisdiction.code) =
      (writtenTexts payload "rules" "jurisdiction").map (fun s => .text (canonicalCode s)) ∧
    ((∀ j ∈ registry.toList, j.code.Proper) ↔
      ∀ s ∈ writtenTexts payload "jurisdictions" "code", Text.isBlankText s = false) ∧
    ∀ known : Option Registry,
      ((entries.map RuleEntry.key).Nodup → ∃ c, Catalog.build entries known = .ok c) ∧
      ∀ c, Catalog.build entries known = .ok c → ∀ e ∈ entries, ∀ code,
        e.jurisdiction.code = .text code → ∀ x : Spelling code,
          c.entry? (.text x.text) e.topic = some e := by
  cases hread : RuleFeed.read payload with
  | error problems =>
    rw [parseRules, hread] at h
    cases h
  | ok feed =>
    obtain ⟨hentries, rfl⟩ := (parseRules_eq_ok hread).mp h
    have hplain := plain_extended hread hgiven
    have hcanonical := canonical_extended hread hgiven
    obtain ⟨hmem, hcodes⟩ := jurisdictions_of_entriesFrom
      (fun r hr => canonicalCode_of_read hread hr) hentries
    -- A rule stands under a jurisdiction of the registry, whose codes are texts in canonical
    -- form.
    have htexts : ∀ e ∈ entries, e.jurisdiction.code.isText :=
      fun e he => (hcanonical _ (hmem e he)).isText
    refine ⟨⟨hplain, hcanonical⟩, hmem, ?_, ?_, fun known =>
      ⟨fun hn => Catalog.exists_build htexts hn known, fun c hc e he code hcode x => ?_⟩⟩
    · rw [hcodes, (codes_of_read hread).1, List.map_map]
      rfl
    · have hempty := not_congr (exists_empty_extended hread hgiven)
      push Not at hempty
      simp only [ne_eq, Bool.not_eq_true] at hempty
      rw [← hempty]
      exact forall₂_congr fun j hj => and_iff_right (hcanonical j hj)
    · obtain ⟨s, hs, hfixed⟩ := hcanonical _ (hmem e he)
      cases hcode.symm.trans hs
      apply Catalog.entry?_of_build htexts hc he
      rw [hcode, x.canonicalCode_text hfixed]

theorem proper_newYorkers : ∀ r ∈ some (Registry.ofList newYorkers), ∀ j ∈ r.toList,
    j.code.Proper := by
  have hcodes : ∀ j ∈ newYorkers,
      j.code.is (canonicalCode j.code.plain) = true ∧ j.code.plain ≠ "" := by
    decide +kernel
  rintro _ ⟨⟩ j hj
  have hj := hcodes j (Registry.mem_of_mem_ofList hj)
  exact Code.proper_of_is hj.1 hj.2

/-- A spelling with a blank on either side and one small letter. -/
def smallSpelling : Spelling "US-CA" where
  front := ['\t']
  body := "Us-CA".toList
  back := [' ']
  front_blank := List.forall_mem_singleton.mpr (by decide)
  back_blank := List.forall_mem_singleton.mpr (by decide)
  letters := by decide

/-- A feed whose codes are spelled in several ways, over a registry of New York. -/
theorem parseRules_codes_redeclaring :
    (∀ r ∈ some (Registry.ofList newYorkers), ∀ j ∈ r.toList, j.code.Proper) ∧
    ∃ entries registry, parseRules redeclaringFeed (some (.ofList newYorkers)) none =
        .ok (entries, registry) ∧
      (∀ j ∈ registry.toList, j.code.Proper) ∧
      entries.map (·.jurisdiction.code) = [.text "US-CA", .text "US-NY"] ∧
      ∃ c e, Catalog.build entries (some registry) = .ok c ∧ e ∈ entries ∧
        c.entry? (.text "\tUs-CA ") e.topic = some e := by
  have hview : (parseRules redeclaringFeed (some (.ofList newYorkers)) none).toOption.map
      (fun x => x.1.map RuleEntry.key) =
        some [(.text "US-CA", .comparativeNegligence), (.text "US-NY", .comparativeNegligence)] := by
    decide +kernel
  obtain ⟨⟨entries, registry⟩, hout, hkeys⟩ := exists_of_map_toOption hview
  obtain ⟨-, -, hcodes, hproper, hcatalog⟩ := parseRules_codes proper_newYorkers hout
  have hcodes : entries.map (·.jurisdiction.code) = [.text "US-CA", .text "US-NY"] := by
    have hforms : (writtenTexts redeclaringFeed "rules" "jurisdiction").map canonicalCode =
        ["US-CA", "US-NY"] := by
      decide +kernel
    rw [hcodes]
    exact (List.map_map (g := Code.text)).symm.trans (congrArg (List.map Code.text) hforms)
  have hwritten : ∀ s ∈ writtenTexts redeclaringFeed "jurisdictions" "code",
      Text.isBlankText s = false := by
    decide +kernel
  obtain ⟨hbuild, hfound⟩ := hcatalog (some registry)
  obtain ⟨c, hc⟩ := hbuild (hkeys ▸ by decide)
  obtain ⟨e, he, hcode⟩ := List.mem_map.mp (hcodes ▸ List.mem_cons_self)
  exact ⟨proper_newYorkers, entries, registry, hout, hproper.mpr hwritten, hcodes, c, e, hc, he,
    hfound c hc e he "US-CA" hcode smallSpelling⟩

/-- A feed that declares a jurisdiction by a blank, after which a rule names it. -/
def blankFeed : Json :=
  .object [("jurisdictions", .list [.object [("code", .text " "), ("name", .text "Nowhere")]]),
    ("rules", .list [faultRule " "])]

/-- A code of a blank alone passes the schema and comes to the empty code. -/
theorem parseRules_empties_blank :
    (∀ r ∈ some (Registry.ofList newYorkers), ∀ j ∈ r.toList, j.code.Proper) ∧
    ∃ entries registry, parseRules blankFeed (some (.ofList newYorkers)) none =
        .ok (entries, registry) ∧
      (∃ j ∈ registry.toList, j.code = .text "") ∧ ∃ e ∈ entries, e.jurisdiction.code = .text "" := by
  have hview : (parseRules blankFeed (some (.ofList newYorkers)) none).toOption.map
      (fun x => (x.1.map fun e => e.jurisdiction.code.key, x.2.toList.map fun j => j.code.key)) =
        some ([.text ""], [.text "US-NY", .text ""]) := by
    decide +kernel
  obtain ⟨⟨entries, registry⟩, hout, hview⟩ := exists_of_map_toOption hview
  obtain ⟨hentries, hregistry⟩ := Prod.mk.inj hview
  obtain ⟨e, he, hcode⟩ := List.mem_map.mp (hentries ▸ List.mem_singleton_self (Code.Key.text ""))
  obtain ⟨j, hj, hempty⟩ := List.mem_map.mp
    (hregistry ▸ List.mem_cons_of_mem _ (List.mem_singleton_self (Code.Key.text "")))
  exact ⟨proper_newYorkers, entries, registry, hout, ⟨j, hj, Code.key_eq_text.mp hempty⟩,
    ⟨e, he, Code.key_eq_text.mp hcode⟩⟩

end Feed
end ComparativeLaw

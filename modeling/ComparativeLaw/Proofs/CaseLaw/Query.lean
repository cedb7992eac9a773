import ComparativeLaw.Proofs.CaseLaw.Phrase
import ComparativeLaw.Proofs.Feed.Decisions

namespace ComparativeLaw

open Checked

theorem Topic.normalise_eq_empty {s : String} : normalise s = "" ↔ Text.isBlankText s = true := by
  constructor
  · intro h
    by_contra hs
    have hblank := isBlankText_normalise (Bool.eq_false_iff.mpr hs)
    exact Text.ne_empty_of_isBlankText hblank h
  · intro h
    have htrim : Text.trimBy Text.isBlank s.toList = [] := Text.trimBy_eq_nil.mpr h
    apply String.toList_inj.mp
    rw [toList_normalise, htrim]
    rfl

/-- A decision that is built has a topic. -/
theorem Decision.topic_ne_empty {raw d : Decision} (h : raw.build = .ok d) : d.topic ≠ "" := by
  obtain ⟨hcomplete, rfl⟩ := build_eq_ok.mp h
  intro hempty
  have hblank : Text.isBlankText raw.topic = true := Topic.normalise_eq_empty.mp hempty
  rw [hcomplete.topic] at hblank
  cases hblank

namespace Query

theorem looseTopic_eq_some {j : Json} {s : String} :
    looseTopic j = .ok (some s) ↔ j = .text s ∧ s ≠ "" := by
  unfold looseTopic
  constructor
  · intro h
    split at h
    · cases h
    · next hvoid =>
      split at h
      · cases h
        refine ⟨rfl, ?_⟩
        rintro rfl
        exact hvoid rfl
      · cases h
  · rintro ⟨rfl, hs⟩
    have hvoid : (Json.text s).isVoid = false := String.isEmpty_eq_false_iff.mpr hs
    rw [hvoid]
    rfl

/-- The filter by topic that a text stands for. -/
def topicKey (topic : Option String) : Option String :=
  (topic.filter fun t => !t.isEmpty).map Topic.normalise

/-- A loose query is read part by part, and its limit is only checked. -/
theorem ofLoose_eq_ok {j : Json} {d : Draft} : ofLoose j = .ok d ↔
    checkLimit (j.fieldD "limit") = .ok () ∧ ∃ keywords level topic,
      looseKeywords ((j.field? "keywords").getD (.list [])) = .ok keywords ∧
      looseLevel (j.fieldD "court_level") = .ok level ∧
      looseTopic (j.fieldD "topic") = .ok topic ∧
      d = { query := { keywords := keywords.filter fun k => !Text.isBlankText k, level,
                       topic := topicKey topic }
            limit := j.fieldD "limit" } := by
  simp only [ofLoose, bind_eq_ok, ok_of_mapError]
  constructor
  · rintro ⟨_, hlimit, keywords, hk, level, hl, topic, ht, query, hq, hd⟩
    cases hq
    cases hd
    exact ⟨hlimit, keywords, level, topic, hk, hl, ht, rfl⟩
  · rintro ⟨hlimit, keywords, level, topic, hk, hl, ht, rfl⟩
    exact ⟨(), hlimit, keywords, hk, level, hl, topic, ht, _, rfl, rfl⟩

/-- A query in the form that reading gives it. -/
structure Normal (q : Query) : Prop where
  keywords : ∀ k ∈ q.keywords, Text.isBlankText k = false
  topic : ∀ t ∈ q.topic, Topic.normalise t = t
  limit : q.limit = none

/-- What is read is in its normal form. -/
theorem normal_of_ofLoose {j : Json} {d : Draft} (h : ofLoose j = .ok d) : d.query.Normal := by
  obtain ⟨-, keywords, level, topic, -, -, -, rfl⟩ := ofLoose_eq_ok.mp h
  constructor
  · intro k hk
    simpa using (List.mem_filter.mp hk).2
  · intro t ht
    obtain ⟨s, -, rfl⟩ := Option.map_eq_some_iff.mp ht
    exact Topic.normalise_normalise s
  · rfl

theorem checkLimit_of_ofLoose {j : Json} {d : Draft} (h : ofLoose j = .ok d) :
    checkLimit d.limit = .ok () := by
  obtain ⟨hlimit, keywords, level, topic, -, -, -, rfl⟩ := ofLoose_eq_ok.mp h
  exact hlimit

/-- A topic that is not empty, and made of blanks. -/
def BlankTopic (j : Json) : Prop :=
  ∃ s, j.fieldD "topic" = .text s ∧ s ≠ "" ∧ Text.isBlankText s = true

/-- Blanks are not nothing when the topic is read, and nothing is left of them afterwards. -/
theorem topic_eq_empty_iff {j : Json} {d : Draft} (h : ofLoose j = .ok d) :
    d.query.topic = some "" ↔ BlankTopic j := by
  obtain ⟨-, keywords, level, topic, -, -, ht, rfl⟩ := ofLoose_eq_ok.mp h
  show topicKey topic = some "" ↔ _
  constructor
  · intro hkey
    obtain ⟨s, hs, hnormal⟩ := Option.map_eq_some_iff.mp hkey
    obtain ⟨rfl, -⟩ := Option.filter_eq_some_iff.mp hs
    obtain ⟨htext, hne⟩ := looseTopic_eq_some.mp ht
    exact ⟨s, htext, hne, Topic.normalise_eq_empty.mp hnormal⟩
  · rintro ⟨s, htext, hne, hblank⟩
    have hsome : topic = some s := by
      have hread := looseTopic_eq_some.mpr ⟨htext, hne⟩
      rw [ht] at hread
      exact Except.ok.inj hread
    have hempty : s.isEmpty = false := String.isEmpty_eq_false_iff.mpr hne
    rw [hsome, topicKey, Option.filter_some, hempty]
    exact congrArg some (Topic.normalise_eq_empty.mpr hblank)

/-- The draft without a topic that is empty. -/
def Draft.again (d : Draft) : Draft :=
  { d with query := { d.query with topic := d.query.topic.filter fun t => !t.isEmpty } }

theorem looseKeywords_texts {keywords : List String}
    (h : ∀ k ∈ keywords, Text.isBlankText k = false) :
    looseKeywords (.texts keywords) = .ok keywords := by
  have hvoid : (keywords.map Json.text).filter (fun k => !k.isVoid) = keywords.map Json.text := by
    apply List.filter_eq_self.mpr
    intro k hk
    obtain ⟨s, hs, rfl⟩ := List.mem_map.mp hk
    have hne : s ≠ "" := Text.ne_empty_of_isBlankText (h s hs)
    simpa [Json.isVoid] using hne
  show (List.mapM _ ((keywords.map Json.text).filter fun k => !k.isVoid) : Except Fault _) = _
  rw [hvoid]
  clear h hvoid
  induction keywords with
  | nil => rfl
  | cons k keywords ih => exact mapM_cons_eq_ok.mpr ⟨k, keywords, rfl, ih, rfl⟩

theorem looseLevel_code (level : Option CourtLevel) :
    looseLevel (.ofText? (level.map CourtLevel.code)) = .ok level := by
  cases level with
  | none => rfl
  | some level => cases level <;> rfl

theorem looseTopic_ofText? (topic : Option String) :
    looseTopic (.ofText? topic) = .ok (topic.filter fun t => !t.isEmpty) := by
  cases topic with
  | none => rfl
  | some t =>
    have hread : looseTopic (.ofText? (some t)) = if t.isEmpty then .ok none else .ok (some t) := rfl
    rw [hread, Option.filter_some]
    cases t.isEmpty <;> rfl

/-- A normal topic is filtered by as it is. -/
theorem topicKey_of_normal {topic : Option String} (h : ∀ t ∈ topic, Topic.normalise t = t) :
    topicKey (topic.filter fun t => !t.isEmpty) = topic.filter fun t => !t.isEmpty := by
  cases topic with
  | none => rfl
  | some t =>
    rw [Option.filter_some]
    cases he : t.isEmpty with
    | true => rfl
    | false =>
      show ((some t).filter fun t => !t.isEmpty).map Topic.normalise = some t
      rw [Option.filter_some, he]
      exact congrArg some (h t rfl)

/-- A normal query that is written is read as what another reading makes of it. -/
theorem ofLoose_toJson_of_normal {d : Draft} (h : d.query.Normal)
    (hlimit : checkLimit d.limit = .ok ()) : ofLoose d.toJson = .ok d.again := by
  have hkeywords : (d.toJson.field? "keywords").getD (.list []) = .texts d.query.keywords := rfl
  have hlevel : d.toJson.fieldD "court_level" = .ofText? (d.query.level.map CourtLevel.code) := rfl
  have htopic : d.toJson.fieldD "topic" = .ofText? d.query.topic := rfl
  have hfield : d.toJson.fieldD "limit" = d.limit := rfl
  have hkept : (d.query.keywords.filter fun k => !Text.isBlankText k) = d.query.keywords := by
    apply List.filter_eq_self.mpr
    intro k hk
    rw [h.keywords k hk]
    rfl
  apply ofLoose_eq_ok.mpr
  rw [hkeywords, hlevel, htopic, hfield]
  refine ⟨hlimit, _, _, _, looseKeywords_texts h.keywords, looseLevel_code _,
    looseTopic_ofText? _, ?_⟩
  rw [hkept, topicKey_of_normal h.topic, ← h.limit]
  rfl

/-- Another reading changes the query with an empty topic only. -/
theorem again_eq_self_iff {d : Draft} : d.again = d ↔ d.query.topic ≠ some "" := by
  obtain ⟨⟨keywords, level, topic, limit⟩, given⟩ := d
  simp only [Draft.again, Draft.mk.injEq, Query.mk.injEq, and_true, true_and]
  cases topic with
  | none => simp
  | some t =>
    rw [Option.filter_some]
    cases he : t.isEmpty with
    | true => simp [String.isEmpty_iff.mp he]
    | false =>
      have hne : t ≠ "" := String.isEmpty_eq_false_iff.mp he
      simp [hne]

/-- A query with a topic of blanks, read without it. -/
theorem ofLoose_without_topic {fields : List (String × Json)} {d : Draft}
    (h : ofLoose (.object fields) = .ok d) (hempty : d.query.topic = some "") :
    ofLoose (.object (Table.insert "topic" .null fields)) = .ok d.again := by
  have hother (key : String) (hkey : key ≠ "topic") :
      (Json.object (Table.insert "topic" .null fields)).field? key =
        (Json.object fields).field? key := by
    show Table.get? (Table.insert "topic" .null fields) key = Table.get? fields key
    rw [Table.get?_insert, if_neg hkey.symm]
  have htopic : (Json.object (Table.insert "topic" .null fields)).fieldD "topic" = .null := by
    show (Table.get? (Table.insert "topic" .null fields) "topic").getD .null = .null
    rw [Table.get?_insert, if_pos rfl]
    rfl
  obtain ⟨hlimit, keywords, level, topic, hk, hl, -, rfl⟩ := ofLoose_eq_ok.mp h
  have hkey : topicKey topic = some "" := hempty
  apply ofLoose_eq_ok.mpr
  rw [Json.fieldD, hother "limit" (by decide), hother "keywords" (by decide), Json.fieldD,
    hother "court_level" (by decide), htopic]
  refine ⟨hlimit, keywords, level, none, hk, hl, rfl, ?_⟩
  simp only [Draft.again, hkey]
  rfl

section Search

variable {α : Type} [Scalar α] {q : Query} {ix : CaseIndex}

/-- No decision has an empty topic, so a query with one finds nothing. -/
theorem found_eq_nil (hempty : q.topic = some "") (h : ∀ d ∈ ix.toList, d.topic ≠ "") :
    q.found ix = [] := by
  apply List.filter_eq_nil_iff.mpr
  intro d hd hfound
  obtain ⟨-, hadmits⟩ := Bool.and_eq_true_iff.mp hfound
  obtain ⟨-, htopic⟩ := Bool.and_eq_true_iff.mp hadmits
  rw [hempty] at htopic
  have heq : "" = d.topic := of_decide_eq_true htopic
  exact h d hd heq.symm

theorem search_eq_nil (hempty : q.topic = some "") (h : ∀ d ∈ ix.toList, d.topic ≠ "")
    (p : Policy α) : ix.search p q = .ok [] := by
  have hsearch : ix.search p q = (q.found ix).mapM (q.result p (q.hits ix)) >>= fun results =>
      pure (q.cut (results.mergeSort SearchResult.precedes)) := rfl
  have hcut : q.cut ([] : List (SearchResult α)) = [] := by
    cases hlimit : q.limit with
    | none => simp only [cut, hlimit]
    | some n => simp only [cut, hlimit, List.take_nil]
  rw [hsearch, found_eq_nil hempty h, List.mapM_nil]
  show Except.ok (q.cut ([].mergeSort SearchResult.precedes)) = .ok []
  rw [List.mergeSort_nil, hcut]

end Search

theorem topic_of_bounded {d : Draft} {q : Query} (h : d.bounded = .ok q) :
    q.topic = d.query.topic := by
  obtain ⟨limit, -, hq⟩ := bind_eq_ok.mp h
  cases hq
  rfl

/-- Reading a query again changes nothing, unless its topic is made of blanks. Such a query finds no
decision that was built, whatever its other parts; read again it is the query without a topic. -/
theorem ofLoose_toJson {j : Json} {d : Draft} (h : ofLoose j = .ok d) :
    ofLoose d.toJson = .ok d.again ∧ (ofLoose d.toJson = .ok d ↔ ¬ BlankTopic j) ∧
    (BlankTopic j →
      (∀ fields, j = .object fields →
        ofLoose (.object (Table.insert "topic" .null fields)) = .ok d.again) ∧
      ∀ {α : Type} [Scalar α] (p : Policy α) (ix : CaseIndex) (q : Query), d.bounded = .ok q →
        (∀ x ∈ ix.toList, ∃ raw, Decision.build raw = .ok x) → ix.search p q = .ok []) := by
  have hagain := ofLoose_toJson_of_normal (normal_of_ofLoose h) (checkLimit_of_ofLoose h)
  refine ⟨hagain, ?_, ?_⟩
  · rw [hagain, Except.ok.injEq, again_eq_self_iff, ne_eq, topic_eq_empty_iff h]
  · intro hblank
    have hempty : d.query.topic = some "" := (topic_eq_empty_iff h).mpr hblank
    constructor
    · rintro fields rfl
      exact ofLoose_without_topic h hempty
    · intro α _ p ix q hq hbuilt
      apply search_eq_nil ((topic_of_bounded hq).trans hempty)
      intro x hx
      obtain ⟨raw, hraw⟩ := hbuilt x hx
      exact Decision.topic_ne_empty hraw

/-- The fields of a query with padded keywords and a topic in no normal form. -/
def paddedQuery : Json :=
  .object [("keywords", .texts [" Fraud ", " "]), ("topic", "Self-Defense "), ("limit", 3)]

/-- A topic with blanks, capitals and a dash. -/
theorem ofLoose_toJson_paddedQuery : ∃ d, ofLoose paddedQuery = .ok d ∧
    d.query.topic = some "self_defense" ∧ ofLoose d.toJson = .ok d := by
  obtain ⟨d, h⟩ := exists_of_isOk (x := ofLoose paddedQuery) (by decide +kernel)
  have htopic : (ofLoose paddedQuery).toOption.map (·.query.topic) = some (some "self_defense") := by
    decide +kernel
  rw [h] at htopic
  obtain ⟨-, hsame, -⟩ := ofLoose_toJson h
  refine ⟨d, h, Option.some.inj htopic, hsame.mpr ?_⟩
  rintro ⟨s, htext, -, hblank⟩
  have hs : s = "Self-Defense " := (Json.text.inj htext).symm
  rw [hs] at hblank
  exact absurd hblank (by decide +kernel)

/-- The fields of a query for a blank topic. -/
def blankQuery : Json := .object [("keywords", .list []), ("topic", " ")]

/-- The query for a blank topic finds nothing; it is read again as the query for all decisions. -/
theorem search_blank_again : ∃ d d' rs, ofLoose blankQuery = .ok d ∧ ofLoose d.toJson = .ok d' ∧
    (CaseIndex.addEach {} CaseIndex.tiedDecisions).search
      (Policy.ofEnvironment [] : Policy Float) d.query = .ok [] ∧
    (CaseIndex.addEach {} CaseIndex.tiedDecisions).search
      (Policy.ofEnvironment [] : Policy Float) d'.query = .ok rs ∧ rs.length = 3 := by
  have hp := Policy.pointsWeigh_ofEnvironment []
  have hall := search_eq hp {} (CaseIndex.addEach {} CaseIndex.tiedDecisions)
  refine ⟨⟨{ topic := some "" }, .null⟩, ⟨{}, .null⟩, _, ?_, rfl, ?_, hall, ?_⟩
  · apply ofLoose_eq_ok.mpr
    have hblank : Topic.normalise " " = "" := Topic.normalise_eq_empty.mpr (by decide +kernel)
    refine ⟨rfl, [], none, some " ", rfl, rfl, rfl, ?_⟩
    show _ = (⟨{ topic := some (Topic.normalise " ") }, .null⟩ : Draft)
    rw [hblank]
  · exact search_eq_nil rfl (by decide +kernel) _
  · show (List.mergeSort _ _).length = 3
    rw [List.length_mergeSort, answers, List.length_map]
    decide +kernel

end Query
end ComparativeLaw

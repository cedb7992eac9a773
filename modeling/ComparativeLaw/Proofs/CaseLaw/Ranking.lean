import ComparativeLaw.Proofs.Engine.Building
import ComparativeLaw.Proofs.CaseLaw.Scan
import ComparativeLaw.Proofs.Number.Double
import ComparativeLaw.Proofs.Order

namespace ComparativeLaw

namespace SearchResult

variable {a b : SearchResult Float} {rs rs' : List (SearchResult Float)}

/-- Whether a result stands before another one: it scores more, or as much and it is later, or as
late and its identifier comes first. -/
def Above (a b : SearchResult Float) : Prop :=
  b.score < a.score ∨ (a.score == b.score) = true ∧
    (b.decision.decided.ordinal < a.decision.decided.ordinal ∨
      a.decision.decided.ordinal = b.decision.decided.ordinal ∧
        Text.points a.decision.id < Text.points b.decision.id)

/-- A result whose score is a number. -/
def Scored (r : SearchResult Float) : Prop := Double.IsNumber r.score

/-- The place of a score, the day of a decision and the points of its identifier. The higher scores
and the later days come first. -/
def Rank : Type := (Int ×ₗ Int ×ₗ Int)ᵒᵈ ×ₗ Natᵒᵈ ×ₗ List Nat

instance : LinearOrder Rank :=
  inferInstanceAs (LinearOrder ((Int ×ₗ Int ×ₗ Int)ᵒᵈ ×ₗ Natᵒᵈ ×ₗ List Nat))

def rank (r : SearchResult Float) : Rank :=
  toLex (.toDual (Double.place r.score),
    toLex (.toDual r.decision.decided.ordinal, Text.points r.decision.id))

/-- Results are ranked by score, then by date, then by identifier. -/
theorem rank_lt_iff : a.rank < b.rank ↔
    Double.place b.score < Double.place a.score ∨ Double.place a.score = Double.place b.score ∧
      (b.decision.decided.ordinal < a.decision.decided.ordinal ∨
        a.decision.decided.ordinal = b.decision.decided.ordinal ∧
          Text.points a.decision.id < Text.points b.decision.id) := by
  have hlater : toLex (OrderDual.toDual a.decision.decided.ordinal, Text.points a.decision.id) <
      toLex (OrderDual.toDual b.decision.decided.ordinal, Text.points b.decision.id) ↔ _ :=
    Prod.Lex.toLex_lt_toLex
  have hhigher : a.rank < b.rank ↔ _ := Prod.Lex.toLex_lt_toLex
  rw [hhigher]
  simp only [hlater, OrderDual.toDual_lt_toDual, OrderDual.toDual_inj]

theorem points_of_rank_eq (h : a.rank = b.rank) :
    Text.points a.decision.id = Text.points b.decision.id :=
  congrArg (fun r : Rank => (ofLex (ofLex r).2).2) h

/-- A result stands above another one if its rank is smaller. -/
theorem above_iff (ha : a.Scored) (hb : b.Scored) : a.Above b ↔ a.rank < b.rank := by
  rw [Above, rank_lt_iff, Double.lt_iff hb ha, Double.beq_iff ha hb]

theorem precedes_iff (ha : a.Scored) (hb : b.Scored) :
    a.precedes b = true ↔ a.rank ≤ b.rank := by
  have hpoints : Text.precedes a.decision.id b.decision.id = true ↔
      ¬Text.points b.decision.id < Text.points a.decision.id := by
    rw [Text.precedes_iff, not_lt]
  rw [← not_lt, rank_lt_iff, precedes]
  simp only [Double.lt_iff ha hb, Double.lt_iff hb ha]
  -- The tests are made one after another, and the next one counts if the values are equal.
  split
  · next h => simp [h.not_gt, h.ne]
  · next hgt =>
    split
    · next h => simp [h]
    · next hlt =>
      have hplace : Double.place b.score = Double.place a.score :=
        le_antisymm (not_lt.mp hlt) (not_lt.mp hgt)
      rw [hplace]
      split
      · next h => simp [h.not_gt, h.ne]
      · next hlater =>
        split
        · next h => simp [h]
        · next hearlier =>
          have hday : b.decision.decided.ordinal = a.decision.decided.ordinal := by omega
          simp [hday, hpoints]

/-- Results whose scores are numbers and whose identifiers differ. -/
structure Distinct (rs : List (SearchResult Float)) : Prop where
  scored : ∀ r ∈ rs, r.Scored
  ids : (rs.map fun r => Text.points r.decision.id).Nodup

/-- Distinct results have different ranks. -/
theorem Distinct.rank_injective (h : Distinct rs) (ha : a ∈ rs) (hb : b ∈ rs)
    (hrank : a.rank = b.rank) : a = b :=
  List.inj_on_of_nodup_map h.ids ha hb (points_of_rank_eq hrank)

/-- Whether a result ranks as high as another one or higher. -/
def ranked (a b : SearchResult Float) : Bool := a.rank ≤ b.rank

theorem ranked_trans (a b c : SearchResult Float) (hab : ranked a b = true)
    (hbc : ranked b c = true) : ranked a c = true := by
  have h : a.rank ≤ c.rank := (of_decide_eq_true hab).trans (of_decide_eq_true hbc)
  exact decide_eq_true h

theorem ranked_total (a b : SearchResult Float) : (ranked a b || ranked b a) = true := by
  rw [Bool.or_eq_true, ranked, ranked, decide_eq_true_iff, decide_eq_true_iff]
  exact le_total a.rank b.rank

/-- Of distinct results no two are level, so both orders sort them alike. -/
theorem mergeSort_precedes (h : Distinct rs) : rs.mergeSort precedes = rs.mergeSort ranked := by
  apply mergeSort_congr
  intro a ha b hb
  rw [Bool.eq_iff_iff, precedes_iff (h.scored a ha) (h.scored b hb), ranked, decide_eq_true_iff]

theorem Distinct.of_perm (h : Distinct rs) (hperm : rs.Perm rs') : Distinct rs' where
  scored r hr := h.scored r (hperm.mem_iff.mpr hr)
  ids := (hperm.map _).nodup_iff.mp h.ids

/-- Sorted results do not tell in which order they were found. -/
theorem mergeSort_of_perm (h : Distinct rs) (hperm : rs.Perm rs') :
    rs.mergeSort precedes = rs'.mergeSort precedes := by
  have hsame : rs.mergeSort ranked = rs'.mergeSort ranked := by
    apply mergeSort_eq_of_perm ranked_trans ranked_total _ hperm
    intro a ha b hb hab hba
    have hrank : a.rank = b.rank := le_antisymm (of_decide_eq_true hab) (of_decide_eq_true hba)
    exact h.rank_injective ha hb hrank
  rw [mergeSort_precedes h, mergeSort_precedes (h.of_perm hperm), hsame]

/-- Of two sorted results, the first one is above the other. -/
theorem pairwise_above (h : Distinct rs) : (rs.mergeSort precedes).Pairwise Above := by
  have hperm := List.mergeSort_perm rs ranked
  have hsorted := h.of_perm hperm.symm
  have hle : (rs.mergeSort ranked).Pairwise fun a b => ranked a b = true :=
    List.pairwise_mergeSort ranked_trans ranked_total rs
  have hne : (rs.mergeSort ranked).Pairwise fun a b =>
      Text.points a.decision.id ≠ Text.points b.decision.id :=
    List.pairwise_map.mp hsorted.ids
  -- Sorting gives the weak order, and the identifiers make it strict.
  rw [mergeSort_precedes h]
  apply (hle.and hne).imp_of_mem
  intro a b ha hb hab
  rw [above_iff (hsorted.scored a ha) (hsorted.scored b hb)]
  apply lt_of_le_of_ne (of_decide_eq_true hab.1)
  exact fun hrank => hab.2 (points_of_rank_eq hrank)

end SearchResult

/-- A factor whose number can weigh passes, whatever it is named. -/
theorem Factor.check_of_canWeigh {f : Factor Float} (hw : Double.CanWeigh f.weight)
    (hi : f.indicatorOk = true) : f.check = .ok () := by
  have hweight : f.weightOk = true := by
    rw [weightOk, hw.1, decide_eq_false hw.2]
    rfl
  rw [check, hweight, hi]
  rfl

/-- The check passes whether a keyword is found or not. -/
theorem Factor.check_ite {w : Float} (hw : Double.CanWeigh w) (name : Json) (b : Bool) :
    (Factor.mk name w (if b then 1.0 else 0.0)).check = .ok () := by
  have hi : ∀ b : Bool, (Factor.mk .null (0.0 : Float) (if b then 1.0 else 0.0)).indicatorOk := by
    decide +kernel
  exact check_of_canWeigh hw (hi b)

namespace Query

variable {p : Policy Float} {ix : CaseIndex}

theorem check_factors (hp : p.PointsWeigh) (q : Query) (hits : List KeywordHits) (d : Decision) :
    ∀ f ∈ q.factors p hits d, f.check = .ok () := by
  apply forall_mem_factors
  · exact Factor.check_ite hp.summary
  · exact Factor.check_ite hp.holding
  · exact fun level => Factor.check_ite (hp.court level) "court_level" true
  · exact Factor.check_ite hp.topic "topic" true

/-- The result of a decision, without the check of its factors. -/
def answer (q : Query) (p : Policy Float) (hits : List KeywordHits) (d : Decision) :
    SearchResult Float where
  decision := d
  score := Scalar.clamp p.maxRelevance (Scalar.sum ((q.factors p hits d).map Factor.contribution))
  matched := hits.map (·.keyword)
  rationale := "; ".intercalate (q.notes p hits d)

/-- Where all points can weigh no result is refused. -/
theorem result_eq_answer (hp : p.PointsWeigh) (q : Query) (hits : List KeywordHits) (d : Decision) :
    q.result p hits d = .ok (q.answer p hits d) := by
  have hchecks := Checked.forM_eq_ok.mpr (check_factors hp q hits d)
  rw [result, Scoring.weightedSum, hchecks]
  rfl

def hits (q : Query) (ix : CaseIndex) : List KeywordHits := q.keywords.map (KeywordHits.of ix)

/-- The decisions that are found, in the order in which they were added. -/
def found (q : Query) (ix : CaseIndex) : List Decision :=
  ix.toList.filter fun d => (q.hits ix).all (fun h => h.found d.id) && q.admits d

def answers (q : Query) (p : Policy Float) (ix : CaseIndex) : List (SearchResult Float) :=
  (q.found ix).map (q.answer p (q.hits ix))

/-- No search fails, since the factors of every decision pass. -/
theorem search_eq (hp : p.PointsWeigh) (q : Query) (ix : CaseIndex) :
    ix.search p q = .ok (q.cut ((q.answers p ix).mergeSort SearchResult.precedes)) := by
  have hresults : (q.found ix).mapM (q.result p (q.hits ix)) = .ok (q.answers p ix) :=
    Checked.mapM_eq_ok_map fun d _ => result_eq_answer hp q _ d
  have hsearch : ix.search p q = (q.found ix).mapM (q.result p (q.hits ix)) >>= fun results =>
      pure (q.cut (results.mergeSort SearchResult.precedes)) := rfl
  rw [hsearch, hresults]
  rfl

/-- Identifiers that are written differently make results distinct. -/
theorem distinct_answers (q : Query) (p : Policy Float)
    (hids : (ix.toList.map fun d => Text.points d.id).Nodup) :
    SearchResult.Distinct (q.answers p ix) where
  scored r hr := by
    obtain ⟨d, -, rfl⟩ := List.mem_map.mp hr
    exact Double.isNumber_clamp _ _
  ids := by
    have hmap : (q.answers p ix).map (fun r => Text.points r.decision.id) =
        (q.found ix).map fun d => Text.points d.id := by
      rw [answers, List.map_map]
      rfl
    rw [hmap]
    exact hids.sublist (List.filter_sublist.map _)

/-- A limit leaves the results up to it. -/
theorem cut_limit (q : Query) (n : Nat) (rs : List (SearchResult Float)) :
    ({ q with limit := some (n : Int) } : Query).cut rs = rs.take n := by
  have hn : ¬(n : Int) < 0 := by omega
  simp only [cut, if_neg hn, Int.toNat_natCast]

end Query

/-- Postings of the same decisions find a phrase in the same ones, in whatever order they were
filed. -/
theorem CaseIndex.Indexes.contains_hits {p p' : Postings} {tokens : Decision → List String}
    {ds ds' : List Decision} (h : Indexes p tokens ds) (h' : Indexes p' tokens ds')
    (hperm : ds.Perm ds') (phrase id : String) :
    (p.hits phrase).contains id = (p'.hits phrase).contains id := by
  have hids : ∀ t, id ∈ p.ids t ↔ id ∈ p'.ids t := by
    intro t
    rw [h t id, h' t id]
    simp only [hperm.mem_iff]
  rw [Bool.eq_iff_iff, List.contains_iff_mem, List.contains_iff_mem, Postings.mem_hits,
    Postings.mem_hits]
  simp only [hids]

section Permuted

variable {ix ix' : CaseIndex} (h : ix.Filed) (h' : ix'.Filed) (hperm : ix.toList.Perm ix'.toList)

include h h' hperm

theorem KeywordHits.inSummary_of_perm (k id : String) :
    (of ix k).inSummary.contains id = (of ix' k).inSummary.contains id := by
  simp only [of]
  exact h.summaries.contains_hits h'.summaries hperm _ id

theorem KeywordHits.inHoldings_of_perm (k id : String) :
    (of ix k).inHoldings.contains id = (of ix' k).inHoldings.contains id := by
  simp only [of]
  exact h.holdings.contains_hits h'.holdings hperm _ id

theorem KeywordHits.found_of_perm (k id : String) : (of ix k).found id = (of ix' k).found id := by
  rw [found, found, inSummary_of_perm h h' hperm, inHoldings_of_perm h h' hperm]

theorem KeywordHits.note_of_perm (k id : String) : (of ix k).note id = (of ix' k).note id := by
  have hkeyword : (of ix k).keyword = (of ix' k).keyword := rfl
  rw [note, note, places, places, inSummary_of_perm h h' hperm, inHoldings_of_perm h h' hperm,
    hkeyword]

theorem KeywordHits.factors_of_perm (p : Policy Float) (k id : String) :
    (of ix k).factors p id = (of ix' k).factors p id := by
  have hkeyword : (of ix k).keyword = (of ix' k).keyword := rfl
  rw [factors, factors, inSummary_of_perm h h' hperm, inHoldings_of_perm h h' hperm, hkeyword]

/-- What a query finds does not depend on the order of the decisions. -/
theorem Query.found_of_perm (q : Query) : (q.found ix).Perm (q.found ix') := by
  have hfound : ∀ d : Decision, (q.hits ix).all (fun h => h.found d.id) =
      (q.hits ix').all fun h => h.found d.id := by
    intro d
    rw [hits, hits, List.all_map, List.all_map]
    simp only [Function.comp_def, KeywordHits.found_of_perm h h' hperm]
  have hsame : q.found ix' =
      ix'.toList.filter fun d => (q.hits ix).all (fun h => h.found d.id) && q.admits d := by
    rw [found]
    simp only [hfound]
  rw [hsame]
  exact hperm.filter _

/-- Neither does what it says about one decision. -/
theorem Query.answer_of_perm (q : Query) (p : Policy Float) (d : Decision) :
    q.answer p (q.hits ix) d = q.answer p (q.hits ix') d := by
  have hfactors : q.factors p (q.hits ix) d = q.factors p (q.hits ix') d := by
    simp only [factors, hits, List.flatMap_map, KeywordHits.factors_of_perm h h' hperm]
  have hnotes : q.notes p (q.hits ix) d = q.notes p (q.hits ix') d := by
    simp only [notes, hits, List.map_map, Function.comp_def, KeywordHits.note_of_perm h h' hperm]
  have hkeywords : (q.hits ix).map (·.keyword) = (q.hits ix').map (·.keyword) := by
    simp only [hits, List.map_map, Function.comp_def, KeywordHits.of]
  rw [answer, answer, hfactors, hnotes, hkeywords]

/-- So its answers are the same in another order. -/
theorem Query.answers_of_perm (q : Query) (p : Policy Float) :
    (q.answers p ix).Perm (q.answers p ix') := by
  have hsame : q.answers p ix' = (q.found ix').map (q.answer p (q.hits ix)) := by
    rw [answers]
    apply List.map_congr_left
    intro d _
    exact (Query.answer_of_perm h h' hperm q p d).symm
  rw [hsame]
  exact (Query.found_of_perm h h' hperm q).map _

end Permuted

namespace CaseIndex

/-- The search answers alike whatever order the decisions were added in, its results are the answers
for the decisions it finds in strict order, and a limit leaves the first ones. -/
theorem search_of_perm (env : Environment) {ds ds' : List Decision} (hperm : ds.Perm ds')
    (hids : (ds.map fun d => Text.points d.id).Nodup) (ht : ∀ d ∈ ds, d.Typed) :
    ∃ ix ix', ofList ds = .ok ix ∧ ofList ds' = .ok ix' ∧ ∀ q : Query,
      ix'.search (Policy.ofEnvironment env : Policy Float) q =
        ix.search (Policy.ofEnvironment env) q ∧
      ∃ results, ix.search (Policy.ofEnvironment env : Policy Float) { q with limit := none } =
          .ok results ∧
        results.Perm (q.answers (Policy.ofEnvironment env) ix) ∧
        results.Pairwise SearchResult.Above ∧
        ∀ n : Nat, ix.search (Policy.ofEnvironment env : Policy Float)
          { q with limit := some (n : Int) } = .ok (results.take n) := by
  have hn : (ds.map (·.id)).Nodup := by
    apply List.Nodup.of_map Text.points
    rwa [List.map_map]
  obtain ⟨ix, hix⟩ := ofList_of_nodup ht hn
  obtain ⟨ix', hix'⟩ := ofList_of_nodup (fun d hd => ht d (hperm.mem_iff.mpr hd))
    ((hperm.map _).nodup_iff.mp hn)
  -- Both indexes are in order and hold what they were built from.
  obtain ⟨hfiled, rfl⟩ := filed_of_ofList hix
  obtain ⟨hfiled', rfl⟩ := filed_of_ofList hix'
  have hp := Policy.pointsWeigh_ofEnvironment env
  refine ⟨ix, ix', hix, hix', ?_⟩
  intro q
  have hdistinct := q.distinct_answers (Policy.ofEnvironment env) hids
  have hanswers := q.answers_of_perm hfiled hfiled' hperm (Policy.ofEnvironment env)
  constructor
  · rw [Query.search_eq hp, Query.search_eq hp, SearchResult.mergeSort_of_perm hdistinct hanswers]
  · refine ⟨_, Query.search_eq hp _ ix, List.mergeSort_perm _ _,
      SearchResult.pairwise_above hdistinct, ?_⟩
    intro n
    rw [Query.search_eq hp, Query.cut_limit]
    rfl

/-- A decision on shared fault by a district court. -/
def faultDecision (id : String) (decided : Date) : Decision where
  id := id
  caseNumber := "22-1"
  decided := decided
  level := .district
  topic := "negligence"
  summary := "Shared fault."

/-- Three decisions with the same score, two of them of one day. -/
def tiedDecisions : List Decision :=
  [faultDecision "c" ⟨2021, 11, 30, by decide⟩, faultDecision "a" ⟨2019, 6, 17, by decide⟩,
    faultDecision "b" ⟨2019, 6, 17, by decide⟩]

def faultQuery : Query := { keywords := ["fault"] }

def raisedPoints : Environment := [("LEXC_SUMMARY_POINTS", "42.5")]

/-- Whichever of the three comes first, the latest is found first and the other two by their
identifiers. -/
theorem search_of_perm_tied :
    tiedDecisions.Perm tiedDecisions.reverse ∧
    (tiedDecisions.map fun d => Text.points d.id).Nodup ∧ (∀ d ∈ tiedDecisions, d.Typed) ∧
    ∃ ix ix' results, ofList tiedDecisions = .ok ix ∧ ofList tiedDecisions.reverse = .ok ix' ∧
      ix'.search (Policy.ofEnvironment raisedPoints : Policy Float) faultQuery = .ok results ∧
      results.map (·.decision.id) = ["c", "a", "b"] ∧ results.Pairwise SearchResult.Above ∧
      ∀ n : Nat, ix.search (Policy.ofEnvironment raisedPoints : Policy Float)
        { faultQuery with limit := some (n : Int) } = .ok (results.take n) := by
  have hperm : tiedDecisions.Perm tiedDecisions.reverse := (List.reverse_perm _).symm
  have hids : (tiedDecisions.map fun d => Text.points d.id).Nodup := by decide
  have htyped : ∀ d ∈ tiedDecisions, d.Typed := by
    simp [tiedDecisions, faultDecision, Decision.Typed]
  obtain ⟨ix, ix', hix, hix', hsearch⟩ := search_of_perm raisedPoints hperm hids htyped
  obtain ⟨hsame, results, hresults, -, habove, hlimit⟩ := hsearch faultQuery
  refine ⟨hperm, hids, htyped, ix, ix', results, hix, hix', hsame.trans hresults, ?_, habove, hlimit⟩
  -- They were added as they are ranked, so that sorting leaves the answers as they are.
  have hbuilt : ofList tiedDecisions = .ok (addEach {} tiedDecisions) := rfl
  cases hix.symm.trans hbuilt
  have hranked : (faultQuery.answers (Policy.ofEnvironment raisedPoints)
      (addEach {} tiedDecisions)).Pairwise fun a b => a.precedes b = true := by
    decide +kernel
  have hp := Policy.pointsWeigh_ofEnvironment raisedPoints
  have hanswers := Query.search_eq hp faultQuery (addEach {} tiedDecisions)
  rw [List.mergeSort_of_pairwise hranked] at hanswers
  cases hresults.symm.trans hanswers
  decide +kernel

end CaseIndex
end ComparativeLaw

import ComparativeLaw.Proofs.ChoiceOfLaw.Selection

namespace ComparativeLaw

open Checked Scalar

variable {m : Materials Rat} {f : Facts} {cs : List Contact}

/-- Faults that are the same or failures of one kind. -/
def Fault.Akin (e e' : Fault) : Prop :=
  e = e' ∨ ∃ g g', e = .failure g ∧ e' = .failure g' ∧ g.kind = g'.kind

theorem Fault.akin_failure {g g' : Failure} (h : g.kind = g'.kind) :
    Akin (.failure g) (.failure g') :=
  .inr ⟨g, g', rfl, rfl, h⟩

theorem firstSeen_perm {codes codes' : List String} (hp : codes.Perm codes') :
    (firstSeen codes).Perm (firstSeen codes') := by
  refine (List.perm_ext_iff_of_nodup (nodup_firstSeen codes) (nodup_firstSeen codes')).mpr ?_
  intro code
  rw [mem_firstSeen, mem_firstSeen, hp.mem_iff]

/-- Scores of some candidates, each once, and the same scores in another order. -/
structure Scores.Reordered (scores scores' : Scores Rat) : Prop where
  perm : scores.Perm scores'
  nodup : (scores.map (·.1)).Nodup
  ne_nil : scores ≠ []

theorem Scores.Reordered.exists_standings {scores scores' : Scores Rat}
    (h : scores.Reordered scores') (forum forum' : Option String) :
    ∃ standing standing', Standing.of scores forum = .ok standing ∧
      Standing.of scores' forum' = .ok standing' := by
  have hne' : scores' ≠ [] := fun hnil => h.ne_nil (hnil ▸ h.perm).eq_nil
  obtain ⟨standing, hof⟩ := Standing.exists_of h.ne_nil (fun _ _ => beq_self_eq_true _) forum
  obtain ⟨standing', hof'⟩ := Standing.exists_of hne' (fun _ _ => beq_self_eq_true _) forum'
  exact ⟨standing, standing', hof, hof'⟩

namespace Relationship

section Weights

variable {weight : ContactKind → Rat}

theorem load_perm {cs cs' : List Contact} (hp : cs.Perm cs') : load weight cs = load weight cs' :=
  (hp.map fun c : Contact => weight c.kind).sum_eq

theorem share_perm {cs cs' : List Contact} (hp : cs.Perm cs') (code : String) :
    share weight cs code = share weight cs' code := by
  have hnaming : (naming code cs).Perm (naming code cs') := hp.filter _
  rw [share, load_perm hnaming, load_perm hp, share]

variable {sorted sorted' : SortedContacts Rat}

theorem exists_scoresOf_perm (hne : sorted.usable ≠ []) (hp : sorted.usable.Perm sorted'.usable)
    {scores : Scores Rat} (h : scoresOf weight sorted = .ok scores) :
    ∃ scores', scoresOf weight sorted' = .ok scores' ∧ scores.Reordered scores' := by
  obtain ⟨hnonneg, hpos, rfl⟩ := (scoresOf_eq_ok hne).mp h
  have hne' : sorted'.usable ≠ [] := fun hnil => hne (hnil ▸ hp).eq_nil
  refine ⟨_, (scoresOf_eq_ok hne').mpr ⟨?_, ?_, rfl⟩, ?_⟩
  · intro c hc
    exact hnonneg c (hp.mem_iff.mpr hc)
  · rwa [← load_perm hp]
  · -- The candidates stay the same, and each has the same share of the same contacts.
    have hcandidates : sorted.candidates.Perm sorted'.candidates := firstSeen_perm (hp.map _)
    have hshare : (fun code => (code, share weight sorted'.usable code)) =
        fun code => (code, share weight sorted.usable code) := by
      funext code
      rw [share_perm hp]
    constructor
    case perm =>
      rw [hshare]
      exact hcandidates.map _
    case nodup =>
      rw [List.map_map]
      show (sorted.candidates.map id).Nodup
      rw [List.map_id]
      exact nodup_firstSeen _
    case ne_nil =>
      obtain ⟨c, hc⟩ := List.exists_mem_of_ne_nil _ hne
      have hcand : c.code ∈ sorted.candidates := mem_firstSeen.mpr (List.mem_map_of_mem hc)
      exact List.ne_nil_of_mem (List.mem_map_of_mem hcand)

theorem matched_scoresOf (hne : sorted.usable ≠ []) (hp : sorted.usable.Perm sorted'.usable) :
    Matched (fun g g' => g.kind = g'.kind) Scores.Reordered
      (scoresOf weight sorted) (scoresOf weight sorted') := by
  cases h : scoresOf weight sorted with
  | ok scores =>
    obtain ⟨scores', hscores', hre⟩ := exists_scoresOf_perm hne hp h
    rw [hscores']
    exact .ok hre
  | error g =>
    cases h' : scoresOf weight sorted' with
    | ok scores' =>
      -- What has scores in one order has them in the other, too.
      have hne' : sorted'.usable ≠ [] := fun hnil => hne (hnil ▸ hp).eq_nil
      obtain ⟨scores, hscores, -⟩ := exists_scoresOf_perm hne' hp.symm h'
      rw [h] at hscores
      cases hscores
    | error g' => exact .error ((kind_of_scoresOf h).trans (kind_of_scoresOf h').symm)

theorem matched_scoreSorted (topic : Topic) (hp : sorted.usable.Perm sorted'.usable) :
    Matched Fault.Akin (fun s s' => s.scores.Reordered s'.scores)
      (scoreSorted topic weight sorted) (scoreSorted topic weight sorted') := by
  unfold scoreSorted
  rw [← hp.isEmpty_eq, ← hp.all_eq]
  split
  · exact .error (.inl rfl)
  · next hne =>
    split
    · exact .error (.inl rfl)
    · have hscores : Matched (fun g g' => g.kind = g'.kind) Scores.Reordered
          (scoresOf weight sorted) (scoresOf weight sorted') :=
        matched_scoresOf (by simpa using hne) hp
      exact (hscores.mapError fun _ _ => Fault.akin_failure).map fun _ _ hre => hre

end Weights

theorem matched_score (hp : cs.Perm f.contacts) :
    Matched Fault.Akin (fun s s' => s.scores.Reordered s'.scores)
      (score m f) (score m { f with contacts := cs }) := by
  rw [score_eq, score_eq]
  cases m.weights with
  | error e => exact .error (.inl rfl)
  | ok overrides => exact matched_scoreSorted f.topic (hp.symm.filter _)

end Relationship

namespace Resolution

variable {r r' : Resolution Rat}

def Leads (r : Resolution Rat) (code : String) : Prop :=
  ∃ top, (code, top) ∈ r.scores ∧ ∀ e ∈ r.scores, e.2 ≤ top

def Tied (r : Resolution Rat) : Prop := ∃ a b, a ≠ b ∧ r.Leads a ∧ r.Leads b

/-- Resolutions with one score for every candidate and one confidence, which select the same law
unless the top score is shared. -/
structure AgreesUpToTies (r r' : Resolution Rat) : Prop where
  perm : r.scores.Perm r'.scores
  scoreFor : ∀ code, r.scoreFor? code = r'.scoreFor? code
  confidence : r.confidence = r'.confidence
  selected : ¬ r.Tied → r.selected = r'.selected

/-- A resolution for the leader among scored candidates before a forum. -/
structure LedBy (registry : Option Registry) (forum : Reference) (scores : Scores Rat)
    (standing : Standing Rat) (r : Resolution Rat) : Prop where
  stands : Standing.of scores forum.code.text? = .ok standing
  selected : r.selected = Registry.select registry standing.winner
  ranked : r.scores = scores.ranked

variable {registry : Option Registry} {forum forum' : Reference} {scores scores' : Scores Rat}
  {standing standing' : Standing Rat}

theorem LedBy.leads (h : r.LedBy registry forum scores standing) {code : String}
    (hc : (code, standing.top) ∈ scores) : r.Leads code := by
  have htops := Standing.tops_of h.stands
  refine ⟨standing.top, ?_, ?_⟩
  · rw [h.ranked]
    exact Scores.mem_ranked.mpr hc
  · rw [h.ranked]
    intro e he
    exact htops.le_top e (Scores.mem_ranked.mp he)

theorem LedBy.mem_of_leads (h : r.LedBy registry forum scores standing) {code : String}
    (hc : r.Leads code) : (code, standing.top) ∈ scores := by
  have htops := Standing.tops_of h.stands
  obtain ⟨top, hmem, hle⟩ := hc
  rw [h.ranked] at hmem hle
  have hmem : (code, top) ∈ scores := Scores.mem_ranked.mp hmem
  -- The top of the scores and the top of the standing bound each other.
  have hup : top ≤ standing.top := htops.le_top _ hmem
  have hdown : standing.top ≤ top := hle _ (Scores.mem_ranked.mpr htops.winner_mem)
  rwa [le_antisymm hup hdown] at hmem

theorem LedBy.agrees (hs : scores.Reordered scores') (h : r.LedBy registry forum scores standing)
    (h' : r'.LedBy registry forum' scores' standing')
    (hconfidence : standing.confidence = standing'.confidence → r.confidence = r'.confidence) :
    r.AgreesUpToTies r' := by
  obtain ⟨htop, hsecond, hwinner'⟩ := Standing.of_perm hs.perm h.stands h'.stands
  have hperm : r.scores.Perm r'.scores := by
    rw [h.ranked, h'.ranked]
    exact (List.mergeSort_perm _ _).trans (hs.perm.trans (List.mergeSort_perm _ _).symm)
  have hnodup : (r.scores.map (·.1)).Nodup := by
    rw [h.ranked]
    exact ((List.mergeSort_perm scores _).map _).nodup_iff.mpr hs.nodup
  constructor
  case perm => exact hperm
  case scoreFor => exact fun code => Table.get?_perm hnodup hperm code
  case confidence =>
    apply hconfidence
    rw [Standing.confidence, htop, hsecond, Standing.confidence]
  case selected =>
    intro hnot
    have hwinner := (Standing.tops_of h.stands).winner_mem
    -- Two winners would share the top score.
    have hsame : standing.winner = standing'.winner := by
      by_contra hne
      exact hnot ⟨_, _, hne, h.leads hwinner, h.leads hwinner'⟩
    rw [h.selected, h'.selected, hsame]

theorem LedBy.selects_forum (h : r.LedBy registry forum scores standing) {code : String}
    (hf : forum.code = .text (canonicalCode code)) (hc : r.Leads (canonicalCode code)) :
    r.selected.code = forum.code := by
  have hstanding := h.stands
  rw [hf] at hstanding
  have hwinner := Standing.winner_of_forum hstanding (h.mem_of_leads hc)
  rw [h.selected, Registry.code_select, hwinner, hf, canonicalCode_canonicalCode]

end Resolution

open Resolution

variable {forum forum' : Reference} {r : Resolution Rat}

theorem Relationship.matched_resolve (hp : cs.Perm f.contacts) :
    Matched Fault.Akin AgreesUpToTies (resolve m f forum)
      (resolve m { f with contacts := cs } forum') := by
  unfold resolve
  refine (matched_score hp).bind fun scored scored' hs => ?_
  obtain ⟨standing, standing', hstanding, hstanding'⟩ :=
    hs.exists_standings forum.code.text? forum'.code.text?
  simp only [hstanding, hstanding']
  exact .ok (LedBy.agrees hs ⟨hstanding, rfl, rfl⟩ ⟨hstanding', rfl, rfl⟩ id)

theorem Relationship.ledBy_of_resolve (h : resolve m f forum = .ok r) :
    ∃ scored standing, score m f = .ok scored ∧
      r.LedBy m.registry forum scored.scores standing := by
  obtain ⟨scored, hscored, h⟩ := bind_eq_ok.mp h
  obtain ⟨standing, hstanding, h⟩ := bind_eq_ok.mp h
  cases h
  exact ⟨scored, standing, hscored, hstanding, rfl, rfl⟩

namespace BetterLaw

theorem matched_capped (hp : cs.Perm f.contacts) :
    Matched Fault.Akin AgreesUpToTies (capped m f forum)
      (capped m { f with contacts := cs } forum') := by
  unfold capped
  refine (Relationship.matched_resolve hp).bind fun base base' h => .ok ?_
  refine ⟨h.perm, h.scoreFor, ?_, h.selected⟩
  show smaller base.confidence _ = smaller base'.confidence _
  rw [h.confidence]

theorem matched_rescored {weight : Rat} {quality scores scores' : Scores Rat}
    (hs : scores.Reordered scores') :
    Matched (fun g g' => g.kind = g'.kind) Scores.Reordered
      (rescored weight quality scores) (rescored weight quality scores') := by
  have hperm : Matched (fun g g' => g.kind = g'.kind) List.Perm
      (rescored weight quality scores) (rescored weight quality scores') := by
    apply Matched.mapM_perm hs.perm
    -- Whichever candidate fails first, the failure is of one kind.
    intro e _ e' _ g g' hg hg'
    have hkind := Scoring.kind_of_score (map_eq_error.mp hg)
    have hkind' := Scoring.kind_of_score (map_eq_error.mp hg')
    rw [hkind, hkind']
  refine hperm.imp fun combined combined' h _ hp => ?_
  have hcodes := codes_of_rescored h
  refine ⟨hp, hcodes ▸ hs.nodup, ?_⟩
  rintro rfl
  exact hs.ne_nil (List.map_eq_nil_iff.mp hcodes.symm)

theorem matched_weighed {quality : Scores Rat} (hp : cs.Perm f.contacts) :
    Matched Fault.Akin AgreesUpToTies (weighed m quality f forum)
      (weighed m quality { f with contacts := cs } forum') := by
  unfold weighed
  cases (checkQuality quality).mapError Fault.failure with
  | error e => exact .error (.inl rfl)
  | ok _ =>
    refine (Relationship.matched_score hp).bind fun scored scored' hs => ?_
    refine ((matched_rescored hs).mapError fun _ _ => Fault.akin_failure).bind
      fun combined combined' hc => ?_
    obtain ⟨standing, standing', hstanding, hstanding'⟩ :=
      hc.exists_standings forum.code.text? forum'.code.text?
    simp only [hstanding, hstanding']
    exact .ok (LedBy.agrees hc ⟨hstanding, rfl, rfl⟩ ⟨hstanding', rfl, rfl⟩ id)

theorem matched_resolve (hp : cs.Perm f.contacts) :
    Matched Fault.Akin AgreesUpToTies (resolve m f forum)
      (resolve m { f with contacts := cs } forum') := by
  unfold resolve
  cases m.lawQuality with
  | error e => exact .error (.inl rfl)
  | ok quality =>
    simp only [bind, Except.bind]
    split
    · exact matched_capped hp
    · exact matched_weighed hp

theorem ledBy_of_resolve (h : resolve m f forum = .ok r) :
    ∃ scores standing, r.LedBy m.registry forum scores standing := by
  obtain ⟨quality, -, h⟩ := bind_eq_ok.mp h
  split at h
  · obtain ⟨base, hbase, h⟩ := bind_eq_ok.mp h
    cases h
    obtain ⟨scored, standing, -, hled⟩ := Relationship.ledBy_of_resolve hbase
    exact ⟨scored.scores, standing, hled.stands, hled.selected, hled.ranked⟩
  · obtain ⟨_, -, h⟩ := bind_eq_ok.mp h
    obtain ⟨scored, -, h⟩ := bind_eq_ok.mp h
    obtain ⟨combined, -, h⟩ := bind_eq_ok.mp h
    obtain ⟨standing, hstanding, h⟩ := bind_eq_ok.mp h
    cases h
    exact ⟨combined, standing, hstanding, rfl, rfl⟩

end BetterLaw

/-- Where contacts are weighed, another order of the contacts and another forum leave the scores and
the confidence as they are, or the kind of the failure. The selected law may change only if several
candidates share the top score, and a forum that is among them is selected in every order. -/
theorem resolve_reordered {a : Approach}
    (ha : a = .mostSignificantRelationship ∨ a = .betterLaw) (hp : cs.Perm f.contacts)
    (forum forum' : Reference) :
    Matched Fault.Akin AgreesUpToTies (a.resolve m f forum)
      (a.resolve m { f with contacts := cs } forum') ∧
    ∀ r, a.resolve m f forum = .ok r → ∀ code, forum.code = .text (canonicalCode code) →
      r.Leads (canonicalCode code) → r.selected.code = forum.code := by
  rcases ha with rfl | rfl
  · refine ⟨Relationship.matched_resolve hp, fun r hr code hcode hleads => ?_⟩
    obtain ⟨scored, standing, -, hled⟩ := Relationship.ledBy_of_resolve hr
    exact hled.selects_forum hcode hleads
  · refine ⟨BetterLaw.matched_resolve hp, fun r hr code hcode hleads => ?_⟩
    obtain ⟨scores, standing, hled⟩ := BetterLaw.ledBy_of_resolve hr
    exact hled.selects_forum hcode hleads

def twoDomiciles : Facts where
  topic := .comparativeNegligence
  contacts := [⟨.domicileOfPlaintiff, "US-CA"⟩, ⟨.domicileOfDefendant, "US-NY"⟩]

theorem Relationship.leads_twoDomiciles
    (h : resolve threeStates twoDomiciles (.text "us-ny") = .ok r) :
    r.Leads "US-CA" ∧ r.Leads "US-NY" := by
  obtain ⟨scored, standing, hscored, hled⟩ := ledBy_of_resolve h
  have hscores : (score threeStates twoDomiciles).toOption.map (·.scores) =
      some [("US-CA", 1 / 2), ("US-NY", 1 / 2)] := by decide +kernel
  rw [hscored] at hscores
  have hscores : scored.scores = [("US-CA", 1 / 2), ("US-NY", 1 / 2)] := Option.some.inj hscores
  have hmem : ∀ e, e ∈ r.scores ↔ e = ("US-CA", 1 / 2) ∨ e = ("US-NY", 1 / 2) := by
    intro e
    rw [hled.ranked, Scores.mem_ranked, hscores, List.mem_pair]
  have hhalf : ∀ e ∈ r.scores, e.2 ≤ 1 / 2 := by
    intro e he
    rcases (hmem e).mp he with rfl | rfl
    · exact le_refl _
    · exact le_refl _
  exact ⟨⟨1 / 2, (hmem _).mpr (.inl rfl), hhalf⟩, ⟨1 / 2, (hmem _).mpr (.inr rfl), hhalf⟩⟩

theorem resolve_reordered_twoDomiciles :
    ∃ r r', Relationship.resolve threeStates twoDomiciles (.text "us-ny") = .ok r ∧
      Relationship.resolve threeStates
        { twoDomiciles with contacts := twoDomiciles.contacts.reverse } (.text "US-TX") = .ok r' ∧
      r.AgreesUpToTies r' ∧ r.Tied ∧ r.selected.code = .text "US-NY" := by
  have hp : twoDomiciles.contacts.reverse.Perm twoDomiciles.contacts := List.reverse_perm _
  obtain ⟨hmatched, hforum⟩ := resolve_reordered (m := threeStates)
    (a := .mostSignificantRelationship) (.inl rfl) hp (.text "us-ny") (.text "US-TX")
  obtain ⟨r, h⟩ := exists_of_isOk
    (x := Relationship.resolve threeStates twoDomiciles (.text "us-ny")) (by decide +kernel)
  obtain ⟨r', h'⟩ := exists_of_isOk (x := Relationship.resolve threeStates
    { twoDomiciles with contacts := twoDomiciles.contacts.reverse } (.text "US-TX"))
    (by decide +kernel)
  have hleads : r.Leads "US-CA" ∧ r.Leads "US-NY" := Relationship.leads_twoDomiciles h
  have hcode : canonicalCode "us-ny" = "US-NY" := by decide +kernel
  have hselected : r.selected.code = .text (canonicalCode "us-ny") :=
    hforum r h "us-ny" rfl (hcode ▸ hleads.2)
  have hagrees : r.AgreesUpToTies r' := hmatched.rel h h'
  exact ⟨r, r', h, h', hagrees, ⟨"US-CA", "US-NY", by decide, hleads⟩, hcode ▸ hselected⟩

end ComparativeLaw

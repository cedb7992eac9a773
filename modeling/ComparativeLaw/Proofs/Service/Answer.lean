import ComparativeLaw.Proofs.ChoiceOfLaw.Failing
import ComparativeLaw.Proofs.Comparison.Answer
import ComparativeLaw.Proofs.Engine.Worded
import ComparativeLaw.Proofs.Jurisdiction.Canonical
import ComparativeLaw.Service.Basic
import ComparativeLaw.Service.Key

/-!
What becomes of a request that passed its checks: its key is allowed, its budget is not spent, and
its body fits the schema. The engine then answers, or the failure that it reports is passed on. Two
things break the service all the same. A code of blanks fits the schema of a contact and makes no
contact; and an answer that holds a surrogate cannot be sent.
-/
namespace ComparativeLaw

open Checked Comparison Scalar

/-- A fault that the service reports as a mistake of the caller. -/
def Fault.Reported (e : Fault) : Prop := ∃ f, e = .failure f ∧ Refusal.failureStatus f = 422

theorem Fault.Documented.reported {e : Fault} (h : e.Documented) : e.Reported := by
  obtain ⟨f, rfl, hkind | hkind⟩ := h
  · exact ⟨f, rfl, by simp [Refusal.failureStatus, hkind]⟩
  · exact ⟨f, rfl, by simp [Refusal.failureStatus, hkind]⟩

theorem Comparison.Misnamed.reported {e : Fault} (h : Misnamed e) : e.Reported := by
  obtain ⟨f, rfl, hkind⟩ := h
  exact ⟨f, rfl, by simp [Refusal.failureStatus, hkind]⟩

/-- A contact is made of every text that is not blank. -/
theorem Contact.of_text (kind : ContactKind) (s : String) : Contact.of kind (.text s) =
    if Text.isBlankText s then .error (.emptyContact kind)
    else .ok { kind, code := canonicalCode s } := by
  have hempty : (canonicalCode s).isEmpty = Text.isBlankText s :=
    Bool.eq_iff_iff.mpr (String.isEmpty_iff.trans canonicalCode_eq_empty)
  simp only [Contact.of, Reference.code, Code.plain, canonicalCode_canonicalCode, hempty]

namespace DisputeBody

/-- Whether one of the contacts has a code of blanks alone. -/
def NamesBlank (b : DisputeBody) : Prop := ∃ c ∈ b.contacts, Text.isBlankText c.2 = true

variable {b : DisputeBody}

/-- A blank code breaks the making of a dispute. -/
theorem exists_complaint (h : b.NamesBlank) : ∃ c, b.dispute = .error c := by
  obtain ⟨c, hc, hblank⟩ := h
  cases hdispute : b.dispute with
  | error complaint => exact ⟨complaint, rfl⟩
  | ok d =>
    obtain ⟨facts, hfacts, -⟩ := bind_eq_ok.mp hdispute
    obtain ⟨contacts, hcontacts, -⟩ := bind_eq_ok.mp hfacts
    -- Facts would hold this contact, and its code would be empty.
    obtain ⟨contact, hcontact⟩ := exists_ok_of_mem hcontacts (List.mem_map_of_mem hc)
    rw [Contact.of_text, if_pos hblank] at hcontact
    cases hcontact

/-- Any other body is made into a dispute. -/
theorem exists_dispute (h : ¬ b.NamesBlank) : ∃ d, b.dispute = .ok d ∧ d.forum = .text b.forum ∧
    d.lawQuality = .ok (Materials.quality b.lawQuality) ∧ d.weights = .ok b.weights := by
  let refs : List (ContactKind × Reference) := b.contacts.map fun c => (c.1, .text c.2)
  have hone : ∀ e ∈ refs, ∃ contact, Contact.of e.1 e.2 = .ok contact ∧ contact.kind = e.1 := by
    intro e he
    obtain ⟨c, hc, rfl⟩ := List.mem_map.mp he
    exact ⟨_, (Contact.of_text c.1 c.2).trans (if_neg fun hblank => h ⟨c, hc, hblank⟩), rfl⟩
  obtain ⟨contacts, hcontacts, -⟩ := exists_mapM_eq_ok _ _ _ hone
  have hfacts (interests : List Interest) : Facts.of b.topic refs b.notes interests =
      .ok { topic := b.topic, contacts, notes := b.notes, interests } :=
    bind_eq_ok.mpr ⟨contacts, hcontacts, rfl⟩
  exact ⟨_, bind_eq_ok.mpr ⟨_, hfacts _, rfl⟩, rfl, rfl, rfl⟩

end DisputeBody

namespace Engine

variable {α : Type} [Scalar α]

/-- A dispute with a forum that is a text fails for documented reasons only. -/
theorem failsOnly_resolve (hα : Regular α) (e : Engine α) {d : Dispute α} {s : String}
    {quality : Scores α} {overrides : List (ContactKind × α)} (hforum : d.forum = .text s)
    (hq : d.lawQuality = .ok quality) (hw : d.weights = .ok overrides) :
    FailsOnly Fault.Documented (e.resolve d) := by
  have hkey : d.forum.checkKey = .ok () := by
    rw [hforum]
    rfl
  -- Neither the look for a doctrine nor that for the forum can fail for a text.
  have hanalyze : e.resolve d =
      analyze (e.materials d) (d.approach.getD (.ofForum d.forum)) d.facts d.forum := by
    rw [resolve, hkey]
    split <;> rfl
  rw [hanalyze]
  exact FailsOnly.map fun fault => Approach.documented_of_resolve hα hq hw hkey

/-- A search fails for its weights only. -/
theorem failsOnly_search (e : Engine α) (q : Query) :
    FailsOnly (fun f => f.kind = "invalid_weighting") (e.search q) := by
  intro f hf
  rcases bind_eq_error.mp hf with hresults | ⟨_, -, hf⟩
  · obtain ⟨d, -, hd⟩ := exists_of_mapM_eq_error hresults
    exact Scoring.kind_of_weightedSum (map_eq_error.mp hd)
  · cases hf

end Engine

/-- Every query with a natural limit can be made. -/
theorem Query.exists_of (keywords : List String) (level : Option CourtLevel)
    (topic : Option String) (limit : Option Nat) :
    ∃ q, Query.of keywords level topic (limit.map Int.ofNat) = .ok q := by
  have hnatural : (limit.map Int.ofNat).filter (· < 0) = none := by
    cases limit with
    | none => rfl
    | some n => rfl
  rw [Query.of, hnatural]
  exact ⟨_, rfl⟩

namespace Action

/-- Whether the action is about a dispute with a contact of a blank code. -/
def NamesBlank : Action → Prop
  | resolve b => b.NamesBlank
  | _ => False

instance (a : Action) : Decidable a.NamesBlank :=
  match a with
  | resolve b => inferInstanceAs (Decidable (∃ c ∈ b.contacts, Text.isBlankText c.2 = true))
  | page _ | health | compare _ | report _ | search _ | decision _ => isFalse id

/-- The actions that are read from bodies. -/
inductive FromBody : Action → Prop where
  | compare (b : CompareBody) : FromBody (.compare b)
  | report (b : CompareBody) : FromBody (.report b)
  | resolve (b : DisputeBody) : FromBody (.resolve b)
  | search (b : SearchBody) : FromBody (.search b)

variable {a : Action} {e : Engine Float}

/-- An action fails only for what is reported as a mistake of the caller. -/
theorem FromBody.failsOnly_perform (h : a.FromBody) (hrules : e.catalog.Worded)
    (hnamed : ¬ a.NamesBlank) : FailsOnly Fault.Reported (a.perform e) := by
  cases h with
  | compare b =>
    have hcompare := Engine.failsOnly_compare hrules b.topic b.codes
    refine (hcompare.imp fun _ => Comparison.Misnamed.reported).bind fun c hc => ?_
    obtain ⟨j, hj⟩ := (Engine.worded_of_compare hrules hc).exists_toJson
    rw [hj]
    exact .ok
  | report b =>
    have hcompare := Engine.failsOnly_compare hrules b.topic b.codes
    refine (hcompare.imp fun _ => Comparison.Misnamed.reported).bind fun c hc => ?_
    obtain ⟨s, hs⟩ := (Engine.worded_of_compare hrules hc).exists_report
    rw [hs]
    exact .ok
  | resolve b =>
    obtain ⟨d, hdispute, hforum, hquality, hweights⟩ := DisputeBody.exists_dispute hnamed
    rw [perform, hdispute]
    have hresolve := e.failsOnly_resolve regular_float hforum hquality hweights
    exact (hresolve.imp fun _ => Fault.Documented.reported).bind fun _ _ => .ok
  | search b =>
    obtain ⟨q, hq⟩ := Query.exists_of b.keywords b.level b.topic b.limit
    rw [perform, hq]
    have hsearch : FailsOnly Fault.Documented ((e.search q).mapError .failure) :=
      (e.failsOnly_search q).mapError fun f hf => ⟨f, rfl, .inr hf⟩
    exact (hsearch.imp fun _ => Fault.Documented.reported).bind fun _ _ => .ok

/-- An action about a blank code ends in a complaint. -/
theorem exists_complaint (h : a.NamesBlank) (e : Engine Float) :
    ∃ c, a.perform e = .error (.complaint c) := by
  cases a with
  | resolve b =>
    obtain ⟨c, hc⟩ := DisputeBody.exists_complaint h
    exact ⟨c, by rw [perform, hc]; rfl⟩
  | _ => cases h

end Action

namespace Route

variable {route : Route} {body : Request.Body} {a : Action}

theorem isGuarded_of_hasBody (h : route.hasBody = true) : route.isGuarded = true := by
  cases route <;> first | rfl | cases h

theorem exists_of_readWith {α : Type} {read : Json → Schema.Checked α} {make : α → Action}
    (h : readWith read make body = .ok a) : ∃ j b, body = .data j ∧ a = make b := by
  cases body with
  | data j =>
    obtain ⟨b, -, rfl⟩ := map_eq_ok.mp h
    exact ⟨j, b, rfl, rfl⟩
  | _ => cases h

/-- A route that reads a body makes one of the four actions of it. -/
theorem fromBody_of_action (hbody : route.hasBody = true) (h : route.action body = .ok a) :
    a.FromBody ∧ ∃ j, body = .data j := by
  cases route with
  | compare =>
    obtain ⟨j, b, rfl, rfl⟩ := exists_of_readWith h
    exact ⟨.compare b, j, rfl⟩
  | report =>
    obtain ⟨j, b, rfl, rfl⟩ := exists_of_readWith h
    exact ⟨.report b, j, rfl⟩
  | resolve =>
    obtain ⟨j, b, rfl, rfl⟩ := exists_of_readWith h
    exact ⟨.resolve b, j, rfl⟩
  | search =>
    obtain ⟨j, b, rfl, rfl⟩ := exists_of_readWith h
    exact ⟨.search b, j, rfl⟩
  | _ => cases hbody

end Route

namespace Service

/-- A request that passed the checks of a route that reads its body. -/
structure Admitted (s : Service) (now : Float) (r : Request) (route : Route) (a : Action) :
    Prop where
  found : ∃ routes, Route.candidates r = .ok routes ∧ Route.choose r.verb routes = .ok route
  hasBody : route.hasBody = true
  /-- The key is allowed and the budget of the route is not spent. -/
  allowed : (s.checkKey now r route).2 = .ok ()
  valid : route.action r.readBody = .ok a

variable {s : Service} {now : Float} {r : Request} {route : Route} {a : Action} {e : Engine Float}

/-- The content of a response, if it can be sent. -/
def carried : Except Refusal Content → Content
  | .ok content => content
  | .error refusal => refusal.content

def statusOf (outcome : Except Refusal Content) : Nat :=
  match (carried outcome).sent?, outcome with
  | none, _ => 500
  | some _, .ok _ => 200
  | some _, .error refusal => refusal.status

/-- How a request is answered whose action an engine performs. -/
structure Answers (e : Engine Float) (a : Action) (outcome : Except Refusal Content)
    (status : Nat) : Prop where
  /-- The result of the engine is passed on, and so is its failure; -/
  answered : ¬ a.NamesBlank → (∃ content, a.perform e = .ok content ∧ outcome = .ok content) ∨
    ∃ f, a.perform e = .error (.failure f) ∧ outcome = .error (.failure f)
  /-- only a contact with a blank code breaks the route. -/
  broken_iff : outcome = .error .broken ↔ a.NamesBlank
  status_of_ok : ∀ content, outcome = .ok content → content.sent?.isSome → status = 200
  status_of_failure : ∀ f, outcome = .error (.failure f) →
    (Refusal.failure f).content.sent?.isSome → status = 422
  status_broken_iff : status = 500 ↔ a.NamesBlank ∨ (carried outcome).sent? = none

/-- Checking a key changes nothing but the limiter. -/
theorem exists_checkKey (s : Service) (now : Float) (r : Request) (route : Route) :
    ∃ limiter, (s.checkKey now r route).1 = { s with limiter } := by
  unfold checkKey
  split
  · exact ⟨s.limiter, rfl⟩
  · split
    · exact ⟨s.limiter, rfl⟩
    · split
      · exact ⟨s.limiter, rfl⟩
      · dsimp only
        split <;> exact ⟨_, rfl⟩

/-- The engine does not depend on the limiter. -/
theorem ready_limiter (s : Service) (limiter : Limiter) :
    ({ s with limiter } : Service).ready.2 = s.ready.2 := by
  unfold ready
  dsimp only
  split <;> rfl

theorem serve_of_ready (ha : a.FromBody) (he : s.ready.2 = .ok e) :
    (s.serve a).2 = (a.perform e).mapError refusalOf := by
  cases hready : s.ready with
  | mk s' made =>
    rw [hready] at he
    subst he
    cases ha <;> simp only [serve, hready]

/-- An admitted request is answered as the engine performs its action. -/
theorem follow_of_admitted (h : s.Admitted now r route a) (he : s.ready.2 = .ok e) :
    (s.follow now r route).2 = (a.perform e).mapError refusalOf := by
  obtain ⟨ha, j, hj⟩ := Route.fromBody_of_action h.hasBody h.valid
  obtain ⟨limiter, hlimiter⟩ := exists_checkKey s now r route
  have hready : (s.checkKey now r route).1.ready.2 = .ok e := by
    rw [hlimiter, ready_limiter, he]
  have hvalid : route.action (.data j) = .ok a := hj ▸ h.valid
  have hallowed := h.allowed
  -- The body is a data text, so the key is checked next, then the body against its schema.
  unfold follow
  rw [h.hasBody, hj, Route.isGuarded_of_hasBody h.hasBody]
  cases hcheck : s.checkKey now r route with
  | mk s' verdict =>
    rw [hcheck] at hready hallowed
    subst hallowed
    simp only [hvalid]
    exact serve_of_ready ha hready

/-- The status of a response is that of the outcome, unless its content cannot be sent. -/
theorem status_response (run : String) (outcome : Except Refusal Content) :
    (response run outcome).status = statusOf outcome := by
  unfold response
  dsimp only
  split
  · next content => cases hsent : content.sent? <;> simp [statusOf, carried, hsent, Refusal.status]
  · rfl
  · next refusal hbroken =>
    cases hsent : refusal.content.sent? <;> simp [statusOf, carried, hsent, Refusal.status]

/-- Whatever is left of a response, it goes out with the status of the outcome of its route. -/
theorem exists_handle (h : s.Admitted now r route a) (fresh : String) : ∃ s' response,
    s.handle now fresh r = .ok (s', response) ∧
      response.status = statusOf (s.follow now r route).2 := by
  obtain ⟨routes, hroutes, hroute⟩ := h.found
  refine ⟨_, _, bind_eq_ok.mpr ⟨routes, hroutes, rfl⟩, ?_⟩
  rw [hroute]
  split <;> exact status_response _ _

/-- A blank code is answered with status 500. -/
theorem answers_broken (hnamed : a.NamesBlank) (e : Engine Float) :
    Answers e a (.error .broken) (statusOf (.error .broken)) where
  answered := fun hnot => absurd hnamed hnot
  broken_iff := iff_of_true rfl hnamed
  status_of_ok := fun _ h => nomatch h
  status_of_failure := fun _ h => nomatch h
  status_broken_iff := iff_of_true rfl (.inl hnamed)

/-- A result is passed on. -/
theorem answers_ok {content : Content} (hnamed : ¬ a.NamesBlank)
    (h : a.perform e = .ok content) : Answers e a (.ok content) (statusOf (.ok content)) where
  answered := fun _ => .inl ⟨content, h, rfl⟩
  broken_iff := iff_of_false (fun h => nomatch h) hnamed
  status_of_ok := by
    rintro _ ⟨⟩ hsent
    obtain ⟨sent, hsent⟩ := Option.isSome_iff_exists.mp hsent
    simp [statusOf, carried, hsent]
  status_of_failure := fun _ h => nomatch h
  status_broken_iff := by
    cases hsent : content.sent? <;> simp [statusOf, carried, hsent, hnamed]

/-- A failure of the engine is passed on with status 422. -/
theorem answers_failure {f : Failure} (hnamed : ¬ a.NamesBlank)
    (h : a.perform e = .error (.failure f)) (hf : Refusal.failureStatus f = 422) :
    Answers e a (.error (.failure f)) (statusOf (.error (.failure f))) where
  answered := fun _ => .inr ⟨f, h, rfl⟩
  broken_iff := iff_of_false (fun h => nomatch h) hnamed
  status_of_ok := fun _ h => nomatch h
  status_of_failure := by
    rintro _ ⟨⟩ hsent
    obtain ⟨sent, hsent⟩ := Option.isSome_iff_exists.mp hsent
    simp [statusOf, carried, hsent, Refusal.status, hf]
  status_broken_iff := by
    cases hsent : (Refusal.failure f).content.sent? <;>
      simp [statusOf, carried, hsent, hnamed, Refusal.status, hf]

/-- A request that passed the checks is answered by the engine, or with the failure that the engine
reports, whatever the engine holds, as long as its rules are in words. -/
theorem handle_answers (h : s.Admitted now r route a) (hengine : s.ready.2 = .ok e)
    (hrules : e.catalog.Worded) (fresh : String) : ∃ s' response,
      s.handle now fresh r = .ok (s', response) ∧
        Answers e a (s.follow now r route).2 response.status := by
  have ha : a.FromBody := (Route.fromBody_of_action h.hasBody h.valid).1
  obtain ⟨s', response, hhandle, hstatus⟩ := exists_handle h fresh
  refine ⟨s', response, hhandle, ?_⟩
  rw [hstatus, follow_of_admitted h hengine]
  -- Only the reading of a dispute can end in a complaint, which is no failure of the engine.
  by_cases hnamed : a.NamesBlank
  · obtain ⟨c, hc⟩ := a.exists_complaint hnamed e
    rw [hc]
    exact answers_broken hnamed e
  · cases hperform : a.perform e with
    | ok content => exact answers_ok hnamed hperform
    | error fault =>
      obtain ⟨f, rfl, hf⟩ := ha.failsOnly_perform hrules hnamed fault hperform
      exact answers_failure hnamed hperform hf

/-- A service whose engine is not made yet. It will be that of a root without feeds, with four rules
on comparative negligence that are loaded afterwards. -/
def office : Service where
  source := (DataRoot.engine { path := "data" } (.ofEnvironment [])).map fun e =>
    (e.run [.reload evenlySplit]).1
  limiter := .of 60 60
  keys := [Key.development]

/-- A dispute about an injury in a place, heard in Texas. -/
def injuryText (place : String) : String :=
  "\x7b\"topic\": \"comparative_negligence\", \"forum\": \"US-TX\", \"factors\": " ++
    "[\x7b\"kind\": \"place_of_injury\", \"jurisdiction\": \"" ++ place ++ "\"\x7d]\x7d"

def injuryIn (place : String) : Request where
  method := "POST"
  path := Route.resolve.path.toList
  headers := [("X-API-Key", Key.development), ("Content-Type", "application/json")]
  body := (injuryText place).toUTF8.toList

theorem exists_admitted_injuryIn {place : String} {blank : Bool}
    (h : (Route.resolve.action (injuryIn place).readBody).toOption.map
      (fun a => decide a.NamesBlank) = some blank) :
    ∃ a, office.Admitted 0.0 (injuryIn place) .resolve a ∧ decide a.NamesBlank = blank := by
  obtain ⟨a, ha, hblank⟩ := exists_of_map_toOption h
  refine ⟨a, ?_, hblank⟩
  constructor
  case found =>
    -- Neither the path nor the key depends on the place.
    have hroutes : Route.candidates (injuryIn "") = .ok [("POST", .resolve)] := by rfl
    have hroute : Route.choose (injuryIn "").verb [("POST", .resolve)] = .ok .resolve := by rfl
    exact ⟨_, hroutes, hroute⟩
  case hasBody => rfl
  case allowed =>
    have hallowed : (office.checkKey 0.0 (injuryIn "") .resolve).2 = .ok () := by rfl
    exact hallowed
  case valid => exact ha

/-- The engine of the office is made, and its rules are in words: those of its root and of the
reload. -/
theorem exists_ready_office : ∃ e, office.ready.2 = .ok e ∧ e.catalog.Worded := by
  have hcalls : ∀ c ∈ [Call.reload (α := Float) evenlySplit], c.Worded := by
    simp [Call.Worded, evenlySplit, Rule.Worded, Rule.modifiedComparative50,
      Rule.pureComparativeNegligence]
  have hmade :
      (DataRoot.engine { path := "data" } (.ofEnvironment [] : Policy Float)).isOk = true := by
    rw [DataRoot.engine, DataRoot.feeds_nil, DataRoot.feeds_nil]
    rfl
  obtain ⟨e, he⟩ := exists_of_isOk hmade
  refine ⟨(e.run [.reload evenlySplit]).1, ?_, ?_⟩
  · rw [ready, office, he]
    rfl
  · exact Engine.worded_run (DataRoot.worded_of_engine he) hcalls

/-- An injury in a place with blanks around its code is answered. -/
theorem handle_answers_injury : ∃ a e, office.Admitted 0.0 (injuryIn " us-ny ") .resolve a ∧
    ¬ a.NamesBlank ∧ office.ready.2 = .ok e ∧ e.catalog.Worded ∧ ∃ s' response,
      office.handle 0.0 "run" (injuryIn " us-ny ") = .ok (s', response) ∧
        Answers e a (office.follow 0.0 (injuryIn " us-ny ") .resolve).2 response.status := by
  have hvalid : (Route.resolve.action (injuryIn " us-ny ").readBody).toOption.map
      (fun a => decide a.NamesBlank) = some false := by decide +kernel
  obtain ⟨a, ha, hnamed⟩ := exists_admitted_injuryIn hvalid
  obtain ⟨e, he, hworded⟩ := exists_ready_office
  exact ⟨a, e, ha, of_decide_eq_false hnamed, he, hworded, handle_answers ha he hworded "run"⟩

/-- An injury in a place of blanks fits the schema and breaks the service. -/
theorem handle_breaks_on_blank : ∃ a e, office.Admitted 0.0 (injuryIn " ") .resolve a ∧
    office.ready.2 = .ok e ∧ e.catalog.Worded ∧
    ∃ s' response, office.handle 0.0 "run" (injuryIn " ") = .ok (s', response) ∧
      response.status = 500 := by
  have hvalid : (Route.resolve.action (injuryIn " ").readBody).toOption.map
      (fun a => decide a.NamesBlank) = some true := by decide +kernel
  obtain ⟨a, ha, hnamed⟩ := exists_admitted_injuryIn hvalid
  obtain ⟨s', response, hhandle, hstatus⟩ := exists_handle ha "run"
  obtain ⟨e, he, hworded⟩ := exists_ready_office
  refine ⟨a, e, ha, he, hworded, s', response, hhandle, ?_⟩
  obtain ⟨c, hc⟩ := a.exists_complaint (of_decide_eq_true hnamed) e
  rw [hstatus, follow_of_admitted ha he, hc]
  rfl

end Service
end ComparativeLaw

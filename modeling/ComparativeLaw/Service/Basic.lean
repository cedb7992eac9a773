import ComparativeLaw.Event
import ComparativeLaw.Service.Action
import ComparativeLaw.Service.Key
import ComparativeLaw.Service.Page
import ComparativeLaw.Service.Refusal

/-!
The service: requests are routed by method and path, guarded by keys and budgets, and answered by an
engine that is made when it is first needed.
-/
namespace ComparativeLaw

structure Service where
  /-- The engine, once there is one. -/
  engine : Option (Engine Float) := none
  /-- What making an engine comes to. -/
  source : Except Fault (Engine Float)
  limiter : Limiter
  /-- The allowed keys. -/
  keys : List String

inductive Route where
  | page (p : Page)
  | health
  | compare
  | report
  | resolve
  | search
  | decision (id : String)

namespace Route

/-- The routes at a path with their methods, the first one first. One line break at the end of a
path does not matter, unless it belongs to the identifier of a decision. -/
def atPath (path : List Char) : List (String × Route) :=
  let pages := match Page.atPath? (Path.withoutBreak path) with
    | some p => Page.methods.map fun method => (method, page p)
    | none => []
  let fixed := match Path.segments (Path.withoutBreak path) with
    | ["", "health"] => [("GET", health)]
    | ["", "v1", "compare"] => [("POST", compare)]
    | ["", "v1", "compare", "report"] => [("POST", report)]
    | ["", "v1", "choice-of-law"] => [("POST", resolve)]
    | ["", "v1", "cases", "search"] => [("POST", search)]
    | _ => []
  let named := match Path.segments path with
    | ["", "v1", "cases", id] => if id.isEmpty then [] else [("GET", decision id)]
    | _ => []
  pages ++ fixed ++ named

def path : Route → String
  | page p => p.path
  | health => "/health"
  | compare => "/v1/compare"
  | report => "/v1/compare/report"
  | resolve => "/v1/choice-of-law"
  | search => "/v1/cases/search"
  | decision id => "/v1/cases/" ++ id

/-- How often a path may lead on. -/
def mostTurns : Nat := 20

/-- The routes of a request; a path that leads nowhere is tried without the slashes at its end. -/
def candidates (r : Request) : Except Fault (List (String × Route)) :=
  match Path.settled? (fun path => !(atPath path).isEmpty) mostTurns r.path with
  | some path => .ok (atPath path)
  | none => .error .endlessWay

/-- The route of a method among those at a path. -/
def choose (verb : String) : List (String × Route) → Except Refusal Route
  | [] => .error .notFound
  | routes =>
    match routes.find? fun e => e.1 = verb with
    | some e => .ok e.2
    | none => .error .methodNotAllowed

def isGuarded : Route → Bool
  | page _ | health => false
  | _ => true

def hasBody : Route → Bool
  | page _ | health | decision _ => false
  | _ => true

def readWith {α : Type} (read : Json → Schema.Checked α) (make : α → Action) :
    Request.Body → Schema.Checked Action
  | .data j => (read j).map make
  | .unannounced | .malformed _ | .unreadable => Schema.refuse .modelAttributesType
  | .empty => Schema.refuse .missing

def action (body : Request.Body) : Route → Schema.Checked Action
  | page p => .ok (.page p)
  | health => .ok .health
  | compare => readWith CompareBody.read .compare body
  | report => readWith CompareBody.read .report body
  | resolve => readWith DisputeBody.read .resolve body
  | search => readWith SearchBody.read .search body
  | decision id => .ok (.decision id)

end Route

namespace Service

/-- Lets a request with an allowed key pass while the budget of its route lasts. -/
def checkKey (s : Service) (now : Float) (r : Request) (route : Route) :
    Service × Except Refusal Unit :=
  match (r.header? "X-API-Key").filter fun key => !key.isEmpty with
  | none => (s, .error .missingKey)
  | some key =>
    if !s.keys.contains key then (s, .error .invalidKey)
    else
      match Tick.ofFloat s.limiter.seconds now with
      | .error _ => (s, .error .broken)
      | .ok tick =>
        let (limiter, verdict) := s.limiter.hitAt tick key route.path
        let s := { s with limiter }
        match verdict with
        | .granted _ => (s, .ok ())
        | .rejected retryAfter =>
          let resource := resourceOf route.path
          (s, .error (.rateLimited limiter.limit limiter.seconds resource retryAfter))

def refusalOf : Fault → Refusal
  | .failure f => .failure f
  | _ => .broken

/-- The engine, made if there is none yet. -/
def ready (s : Service) : Service × Except Refusal (Engine Float) :=
  match s.engine, s.source with
  | some e, _ => (s, .ok e)
  | none, .ok e => ({ s with engine := some e }, .ok e)
  | none, .error (.failure f) => (s, .error (.unavailable f))
  | none, .error _ => (s, .error .broken)

/-- Performs an action. A page is there without an engine. -/
def serve (s : Service) (a : Action) : Service × Except Refusal Content :=
  match a with
  | .page p => (s, .ok p.content)
  | a =>
    match s.ready with
    | (s, .error refusal) => (s, .error refusal)
    | (s, .ok e) => (s, (a.perform e).mapError refusalOf)

/-- Answers a request that has found its route. A body that is no data text is refused first, then
the key and the budget are checked, then the body against its schema. -/
def follow (s : Service) (now : Float) (r : Request) (route : Route) :
    Service × Except Refusal Content :=
  match route.hasBody, r.readBody with
  | true, .malformed offset => (s, .error (.malformed offset))
  | true, .unreadable => (s, .error .unreadable)
  | _, body =>
    match if route.isGuarded then s.checkKey now r route else (s, .ok ()) with
    | (s, .error refusal) => (s, .error refusal)
    | (s, .ok ()) =>
      match route.action body with
      | .error problems => (s, .error (.invalid problems))
      | .ok a => s.serve a

/-- Answers a request among the routes at its path. -/
def answer (s : Service) (now : Float) (r : Request) (routes : List (String × Route)) :
    Service × Except Refusal Content :=
  match Route.choose r.verb routes with
  | .error refusal => (s, .error refusal)
  | .ok route => s.follow now r route

/-- The response to a request in the run of an identifier. -/
def response (run : String) (outcome : Except Refusal Content) : Response :=
  let broken : Response :=
    { status := Refusal.broken.status, content := Refusal.broken.content, run := none }
  let sent (status : Nat) (content : Content) : Response :=
    match content.sent? with
    | some content => { status, content, run := some run }
    | none => broken
  match outcome with
  | .ok content => sent 200 content
  | .error .broken => broken
  | .error refusal => sent refusal.status refusal.content

/-- Handles a request; `fresh` identifies its run unless the caller does. Who asks for the head of a
response alone gets no content; a path that leads on too often leads nowhere. -/
def handle (s : Service) (now : Float) (fresh : String) (r : Request) :
    Except Fault (Service × Response) := do
  let run := (Run.idOr fresh (.ofText? (r.header? "X-Run-ID"))).plain
  let (s, outcome) := s.answer now r (← Route.candidates r)
  let response := response run outcome
  return (s, if r.verb = "HEAD" then { response with content := response.content.head }
    else response)

/-- The service after it was started: there is an engine, unless none can be made. -/
def started (s : Service) : Except Fault Service :=
  match s.engine with
  | some _ => .ok s
  | none => s.source.map fun e => { s with engine := some e }

def stopped (s : Service) : Service := { s with engine := none }

end Service
end ComparativeLaw

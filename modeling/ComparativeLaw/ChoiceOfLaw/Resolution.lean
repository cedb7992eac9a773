import ComparativeLaw.Catalog
import ComparativeLaw.ChoiceOfLaw.Facts
import ComparativeLaw.Policy

namespace ComparativeLaw

/-- A code that is not registered, and where it was named. -/
structure Unregistered where
  code : String
  place : String
deriving DecidableEq, Repr

def Unregistered.toJson (u : Unregistered) : Json :=
  (Failure.unknownJurisdiction (.text u.code) (some u.place)).toJson

structure TraceLine (α : Type) where
  factor : String
  code : String
  weight : α
  contribution : α
  note : String := ""

def TraceLine.toJson (t : TraceLine Float) : Json :=
  .object [("factor", .text t.factor), ("jurisdiction", .text t.code), ("weight", .float t.weight),
    ("contribution", .float t.contribution), ("note", .text t.note)]

abbrev Scores (α : Type) := List (String × α)

namespace Scores

variable {α : Type} [Scalar α]

/-- Best first, equal scores in their order. -/
def ranked (s : Scores α) : Scores α := s.mergeSort fun a b => b.2 ≤ a.2

end Scores

/-- The law that a doctrine selects, with its confidence, the trace of what counted and the scores
of the candidates. A code that the registry does not know is reported and not an error. -/
structure Resolution (α : Type) where
  selected : Jurisdiction
  approach : Approach
  confidence : α
  trace : List (TraceLine α)
  reasoning : String
  scores : Scores α
  unregistered : List Unregistered
  conflict : Option Conflict := none

namespace Resolution

def scoreFor? {α : Type} (r : Resolution α) (code : String) : Option α :=
  (r.scores.find? fun e => e.1 = code).map (·.2)

def scoreJson (e : String × Float) : Json :=
  .object [("jurisdiction", .text e.1), ("score", .float (Scalar.round 6 e.2))]

/-- A resolution as answers show it, confidence and scores to six places. -/
def toJson (r : Resolution Float) : Json :=
  .object [("selected", r.selected.toJson), ("approach", .text r.approach.code),
    ("confidence", .float (Scalar.round 6 r.confidence)),
    ("trace", .list (r.trace.map TraceLine.toJson)), ("reasoning", .text r.reasoning),
    ("scores", .list (r.scores.map scoreJson)), ("stage", .text "resolved"),
    ("soft_errors", .list (r.unregistered.map Unregistered.toJson)),
    ("conflict", .ofText? (r.conflict.map Conflict.code))]

end Resolution

/-- What the doctrines consult besides the facts. Adjustments that could not be read are a fault of
the doctrine that first needs them. -/
structure Materials (α : Type) where
  /-- The known jurisdictions; without a registry every code is taken. -/
  registry : Option Registry
  catalog : Option Catalog
  policy : Policy α
  lawQuality : Except Fault (Scores α)
  weights : Except Fault (List (ContactKind × α))

namespace Registry

/-- Whether a code may be used: every code may where there is no registry. -/
def accepts (registry : Option Registry) (code : String) : Bool :=
  registry.all fun r => r.knows code

/-- The registered jurisdiction of a code text, or the bare one of the canonical code. -/
def select (registry : Option Registry) (code : String) : Jurisdiction :=
  (registry.bind fun r => r.get? (.text code)).getD (.ofCode (canonicalCode code))

/-- The report of a forum whose code is not registered. -/
def missingForum (registry : Option Registry) : Reference → List Unregistered
  | .known _ => []
  | .text s =>
    let code := canonicalCode s
    if accepts registry code then [] else [⟨code, "forum"⟩]

end Registry
end ComparativeLaw

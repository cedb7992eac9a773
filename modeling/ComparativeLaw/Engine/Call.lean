import ComparativeLaw.Engine.Basic
import ComparativeLaw.Event

namespace ComparativeLaw

/-- What an engine is asked to do. -/
inductive Call (α : Type) where
  | compare (topic : Topic) (refs : List Reference)
  | similarity (a b : Reference) (topics : Option (List Topic))
  | resolve (dispute : Dispute α)
  | search (query : Query)
  | decision (id : String)
  | add (decision : Decision)
  | reload (entries : List RuleEntry)
  | rebuild (decisions : List Decision)

inductive Reply (α : Type) where
  | comparison (c : Comparison)
  | similarity (x : α)
  | resolution (r : Resolution α)
  | results (rs : List (SearchResult α))
  | decision (d : Decision)
  /-- The size of what was changed. -/
  | size (n : Nat)

namespace Engine

variable {α : Type} [Scalar α]

/-- The engine after a replacement, and the size of what was replaced; a fault changes nothing. -/
def replaced (e : Engine α) (change : Except Fault (Engine α)) (size : Engine α → Nat) :
    Engine α × Except Fault (Reply α) :=
  match change with
  | .ok e' => (e', .ok (.size (size e')))
  | .error fault => (e, .error fault)

def step (e : Engine α) : Call α → Engine α × Except Fault (Reply α)
  | .compare topic refs => (e, (e.compare topic refs).map .comparison)
  | .similarity a b topics => (e, (e.similarity a b topics).map .similarity)
  | .resolve d => (e, (e.resolve d).map .resolution)
  | .search q => (e, ((e.search q).map .results).mapError .failure)
  | .decision id => (e, ((e.decision id).map .decision).mapError .failure)
  | .add d =>
    let added := e.add d
    (added.1, added.2.map fun _ => .size added.1.index.size)
  | .reload entries => e.replaced (e.reload entries) fun e => e.catalog.size
  | .rebuild decisions => e.replaced (e.rebuild decisions) fun e => e.index.size

def run (e : Engine α) : List (Call α) → Engine α × List (Except Fault (Reply α))
  | [] => (e, [])
  | c :: cs =>
    let first := e.step c
    let rest := first.1.run cs
    (rest.1, first.2 :: rest.2)

end Engine

namespace Event

def compared (c : Comparison) : Event :=
  { name := "compare.completed"
    fields := [("topic", .text c.topic.code), ("jurisdictions", .int c.codes.length),
      ("unknown", .int c.unknown.length), ("majority_count", .int c.majorityCount)] }

def resolved (d : Dispute Float) (r : Resolution Float) : Event :=
  { name := "choice_of_law.resolved"
    fields := [("approach", .text r.approach.code), ("forum", d.forum.code.toJson),
      ("selected", r.selected.code.toJson), ("confidence", .float (Scalar.round 4 r.confidence)),
      ("soft_errors", .int r.unregistered.length)] }

def searched (rs : List (SearchResult Float)) : Event :=
  { name := "search.completed", fields := [("results", .int rs.length)] }

/-- The event of a call that has its reply. -/
def ofReply : Call Float → Reply Float → Option Event
  | _, .comparison c => some (compared c)
  | .resolve d, .resolution r => some (resolved d r)
  | _, .results rs => some (searched rs)
  | .reload _, .size n => some { name := "catalog.reloaded", fields := [("entries", .int n)] }
  | .rebuild _, .size n => some { name := "index.rebuilt", fields := [("decisions", .int n)] }
  | _, _ => none

end Event
end ComparativeLaw

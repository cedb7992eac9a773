import ComparativeLaw.Fault

namespace ComparativeLaw

/-- Something that happened, with what is known about it. -/
structure Event where
  name : String
  fields : List (String × Json) := []

namespace Event

/-- The event as it is logged within a run; a field of its own may stand in for the identifier, but
no field may be named like the event. -/
def within (run : Json) (e : Event) : Except Fault Event :=
  if Table.contains e.fields "event" then .error .wrongKind
  else .ok { e with fields := Table.ofList (("run_id", run) :: e.fields) }

end Event

namespace Run

/-- The identifier of a run: the given one, unless it counts as absent, or a fresh one. -/
def idOr (fresh : String) (given : Json) : Json := given.orElse fresh

def freshLength : Nat := 32

end Run

/-- A secret as it is logged: its first four parts, which are characters as a rule, and none of a
shorter one. -/
def redacted (secret : Json) : Except Fault String :=
  if secret.isVoid then .ok "<missing>"
  else match secret with
    | .text s => .ok (if Text.size s ≤ 4 then "***" else Text.take 4 s ++ "***")
    | .list items =>
      .ok (if items.length ≤ 4 then "***" else (Json.list (items.take 4)).shown ++ "***")
    | .object fields => if fields.length ≤ 4 then .ok "***" else .error .wrongKind
    | _ => .error .wrongKind

end ComparativeLaw

import ComparativeLaw.Policy
import ComparativeLaw.Service.Clock

namespace ComparativeLaw

/-- The resource of a path: its first two segments that are not empty. -/
def resourceOf (path : String) : String :=
  let segments := (Text.pieces '/' path.toList).filter fun s => !s.isEmpty
  "/" ++ "/".intercalate ((segments.take 2).map String.ofList)

/-- The calls that were granted in one window. -/
structure Spending where
  window : Int
  granted : Nat
deriving DecidableEq, Repr

/-- Every key has a budget for each resource, which is spent call by call and starts anew with the
next window. -/
structure Limiter where
  /-- The calls of a window that are granted. -/
  limit : Nat
  /-- The length of a window in seconds. -/
  seconds : Nat
  limit_pos : 0 < limit := by omega
  seconds_pos : 0 < seconds := by omega
  /-- What each key last spent on each resource. -/
  accounts : Table (String × String) Spending := []

inductive Verdict where
  | granted (remaining : Nat)
  | rejected (retryAfter : Int)
deriving DecidableEq, Repr

namespace Limiter

/-- A limiter with at least one call a window and one second a window. -/
def of (limit seconds : Int) : Limiter where
  limit := (max 1 limit).toNat
  seconds := (max 1 seconds).toNat

def spent (l : Limiter) (account : String × String) (window : Int) : Nat :=
  match l.accounts.get? account with
  | some s => if s.window = window then s.granted else 0
  | none => 0

/-- Counts a call of a key on a path at a tick, unless the budget of the window is spent. -/
def hitAt (l : Limiter) (tick : Tick) (key path : String) : Limiter × Verdict :=
  let account := (key, resourceOf path)
  let spent := l.spent account tick.window
  if spent < l.limit then
    let accounts := l.accounts.insert account { window := tick.window, granted := spent + 1 }
    ({ l with accounts }, .granted (l.limit - (spent + 1)))
  else (l, .rejected (l.seconds - tick.elapsed))

def hit (l : Limiter) (now : Rat) (key path : String) : Limiter × Verdict :=
  l.hitAt (.ofRat l.seconds now) key path

/-- A call changes neither the limit nor the length of windows. -/
theorem hitAt_limit (l : Limiter) (tick : Tick) (key path : String) :
    (l.hitAt tick key path).1.limit = l.limit ∧ (l.hitAt tick key path).1.seconds = l.seconds := by
  simp only [hitAt]
  split <;> exact ⟨rfl, rfl⟩

def reset (l : Limiter) : Limiter := { l with accounts := [] }

def standardLimit : Int := 60

def standardSeconds : Int := 60

def secondsName : String := "LEXC_RATE_WINDOW_SEC"

/-- The length of a window under an environment, with a warning about a text that is no integer. -/
def secondsUnder (env : Environment) : Int × List String :=
  match (env.get? secondsName).filter fun text => !text.isEmpty with
  | none => (standardSeconds, [])
  | some text =>
    match Text.readInt? text with
    | some n => (n, [])
    | none => (standardSeconds,
      [s!"Ignoring non-integer {secondsName}={Text.quoted text}, using {standardSeconds}"])

/-- A limiter with windows of a given length, or of that which the environment sets. -/
def under (env : Environment) (limit : Int) (seconds : Option Int) : Limiter × List String :=
  match seconds with
  | some n => (of limit n, [])
  | none =>
    let (n, warnings) := secondsUnder env
    (of limit n, warnings)

/-- Reads the length of windows; a void value gives none. -/
def readSeconds (j : Json) : Except Fault (Option Int) :=
  if j.isVoid then .ok none else j.toInt.map some

end Limiter
end ComparativeLaw

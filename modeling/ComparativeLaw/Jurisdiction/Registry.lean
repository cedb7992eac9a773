import ComparativeLaw.Fault
import ComparativeLaw.Jurisdiction.Basic

namespace ComparativeLaw

namespace Code

/-- Refuses a code under which nothing can be kept. -/
def checkKey (c : Code) : Except Fault Unit := if c.isKey then .ok () else .error .wrongKind

def sorted (codes : List Code) : Except Fault (List Code) :=
  (sorted? codes).elim (.error .wrongKind) .ok

end Code

/-- Refuses a reference to a code under which nothing can be kept. -/
def Reference.checkKey (ref : Reference) : Except Fault Unit := ref.code.checkKey

/-- Known jurisdictions in the order in which their codes came. -/
structure Registry where
  table : Table Code.Key Jurisdiction
  /-- The codes as they are written first; equal ones may be written in several ways. -/
  written : Table Code.Key Code
  /-- Each jurisdiction stands under its own code. -/
  own : ∀ e ∈ table, e.2.code.key = e.1
  /-- No code stands twice. -/
  nodup : table.keys.Nodup
deriving Repr

namespace Registry

instance : EmptyCollection Registry where
  emptyCollection := { table := [], written := [], own := nofun, nodup := List.nodup_nil }

instance : Inhabited Registry := ⟨∅⟩

def keyed (js : List Jurisdiction) : List (Code.Key × Jurisdiction) :=
  js.map fun j => (j.code.key, j)

/-- The first of the codes that count as equal, under their key. -/
def firstWritten (codes : List Code) : Table Code.Key Code :=
  codes.foldl (fun t c => t.alter c.key id c) []

theorem own_keyed (js : List Jurisdiction) : ∀ e ∈ keyed js, e.2.code.key = e.1 := by
  intro e he
  obtain ⟨j, -, rfl⟩ := List.mem_map.mp he
  rfl

/-- The registry of a list; of jurisdictions with one code it has the last one. -/
def ofList (js : List Jurisdiction) : Registry where
  table := Table.ofList (keyed js)
  written := firstWritten (js.map (·.code))
  own := Table.forall_mem_ofList (own_keyed js)
  nodup := Table.nodup_keys_ofList (keyed js)

/-- The registry of jurisdictions whose codes can be keys. -/
def build (js : List Jurisdiction) : Except Fault Registry := do
  js.forM fun j => j.code.checkKey
  return ofList js

def toList (r : Registry) : List Jurisdiction := r.table.values

def get? (r : Registry) (ref : Reference) : Option Jurisdiction := r.table.get? ref.code.key

def contains (r : Registry) (ref : Reference) : Bool := r.table.contains ref.code.key

/-- Whether a code text, in any case and with blanks around it, is registered. -/
def knows (r : Registry) (code : String) : Bool := r.contains (.text code)

def resolve (r : Registry) (ref : Reference) : Except Failure Jurisdiction :=
  match r.get? ref with
  | some j => .ok j
  | none => .error (.unknownJurisdiction ref.code none)

/-- The registry with more jurisdictions, which replace those of the same code. -/
def merged (r : Registry) (extra : List Jurisdiction) : Registry := ofList (r.toList ++ extra)

def size (r : Registry) : Nat := r.table.length

def isEmpty (r : Registry) : Bool := r.table.isEmpty

def codes (r : Registry) : Except Fault (List Code) := Code.sorted r.written.values

end Registry
end ComparativeLaw

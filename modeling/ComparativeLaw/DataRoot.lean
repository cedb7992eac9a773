import ComparativeLaw.Engine.Basic
import ComparativeLaw.Feed.File

/-!
Data roots. The rule feeds of a root stand in its directory `rules` and end in `.json`, the decision
feeds in `cases` and end in `.jsonl`; they are read in the order of their names, and what a rule
feed declares is known to the feeds after it.
-/
namespace ComparativeLaw

open Feed

structure DataRoot where
  /-- The path to the root, as messages show it. -/
  path : String
  /-- What stands in the directory of the rule feeds, by name. -/
  rules : Table String Node := []
  /-- What stands in the directory of the decision feeds, by name. -/
  cases : Table String Node := []

namespace DataRoot

/-- A place under a root, by the names that lead to it, last first. -/
abbrev Place := List String

/-- Goes one name further from a place: two dots go back, one dot and no name stay. There is no
place outside of the root. -/
def enter? (place : Place) : String → Option Place
  | "" | "." => some place
  | ".." => place.tail?
  | name => some (name :: place)

/-- The places on the way along a relative path, the last one first. -/
def placesTo? (path : String) : Option (List Place) :=
  match (Text.pieces '/' path.toList).map String.ofList with
  | "" :: _ => none
  | names =>
    names.foldlM (fun places name => (enter? (places.headD []) name).map (· :: places)) [[]]

/-- What files under the root, by their relative paths, make of each place: the directories on the
way to a file, and the file. -/
def nodesAlong (file : String × ByteArray) : List (Place × Node) :=
  match placesTo? file.1 with
  | some (place :: before) =>
    (before.reverse.map fun p => (p, Node.directory)) ++ [(place, .file file.2)]
  | _ => []

/-- What stands in a directory of the root, by name. -/
def nodesIn (directory : String) (files : List (String × ByteArray)) : Table String Node :=
  Table.ofList ((files.flatMap nodesAlong).filterMap fun e =>
    match e.1 with
    | [name, top] => if top = directory then some (name, e.2) else none
    | _ => none)

/-- The root of files that are given by their relative paths. -/
def ofFiles (path : String) (files : List (String × ByteArray)) : DataRoot :=
  { path, rules := nodesIn "rules" files, cases := nodesIn "cases" files }

/-- The nodes of a directory with a given ending, by path and in the order of their names. -/
def feeds (root : DataRoot) (directory ending : String) (nodes : Table String Node) :
    List (String × Node) :=
  let named := nodes.filter fun e => ending.toList.isSuffixOf e.1.toList
  let sorted := named.mergeSort fun a b => Text.precedes a.1 b.1
  sorted.map fun e => (s!"{root.path}/{directory}/{e.1}", e.2)

@[simp]
theorem feeds_nil (root : DataRoot) (directory ending : String) :
    root.feeds directory ending [] = [] := by
  rw [feeds, List.filter_nil, List.mergeSort_nil, List.map_nil]

/-- Reads rule feeds one after the other, each with the registry that the ones before it leave. -/
def readRules (registry : Registry) :
    List (String × Node) → Except Fault (List RuleEntry × Registry)
  | [] => .ok ([], registry)
  | f :: fs => do
    let (entries, registry) ← loadRules f.1 f.2 (some registry)
    let (more, registry) ← readRules registry fs
    return (entries ++ more, registry)

def readDecisions (files : List (String × Node)) : Except Fault (List Decision) := do
  return (← files.mapM fun f => loadDecisions f.1 f.2).flatten

/-- The engine over all feeds of a root. -/
def engine {α : Type} [Scalar α] (root : DataRoot) (policy : Policy α) :
    Except Fault (Engine α) := do
  let (entries, registry) ← readRules .known (root.feeds "rules" ".json" root.rules)
  let decisions ← readDecisions (root.feeds "cases" ".jsonl" root.cases)
  Engine.ofData policy registry entries decisions

end DataRoot
end ComparativeLaw

import ComparativeLaw.Bundled.Engine
import ComparativeLaw.CommandLine.Outcome
import ComparativeLaw.DataRoot

namespace ComparativeLaw.CommandLine

def readEnvironment : IO Environment := do
  let found ← (Policy.settings : List (Setting Float)).mapM fun s => do
    return (← IO.getEnv s.name).map fun text => (s.name, String.ofList (Text.written text.toList))
  return found.filterMap id

/-- What a path leads to; a path that cannot be read as a file counts as a directory. -/
def readNode (path : String) : IO Feed.Node := do
  match ← (IO.FS.readBinFile path).toBaseIO with
  | .ok bytes => return .file bytes
  | .error _ => return .directory

/-- What stands in a directory, by name; nothing stands in one that is missing. -/
def readNodes (path : String) : IO (Table String Feed.Node) := do
  match ← (System.mkFilePath [path]).readDir.toBaseIO with
  | .error _ => return []
  | .ok entries =>
    entries.toList.mapM fun e => do return (e.fileName, ← readNode s!"{path}/{e.fileName}")

def readRoot (path : String) : IO DataRoot := do
  return { path, rules := ← readNodes s!"{path}/rules", cases := ← readNodes s!"{path}/cases" }

/-- The name under which the environment may give a data root. -/
def rootName : String := "LEXC_DATA_ROOT"

/-- The data root that the words or the environment give. -/
def givenRoot (words : List String) : IO (Option DataRoot) := do
  let path ← match Invocation.ofWords words with
    | .ok { dataRoot := some path, .. } => pure (some path)
    | _ => IO.getEnv rootName
  match path with
  | some path => return some (← readRoot path)
  | none => return none

/-- Prints a text; its surrogates are replaced. -/
def print (stream : IO.FS.Stream) (text : String) : IO Unit :=
  stream.write ((Text.bytes? (Text.lossy text)).getD .empty)

/-- Runs the words and reports how they end. -/
def serve (given : List String) : IO UInt32 := do
  let words := given.map fun w => String.ofList (Text.written w.toList)
  let policy : Policy Float := .ofEnvironment (← readEnvironment)
  let root ← givenRoot words
  let engine := (root.map fun r => r.engine policy).getD (Bundled.engine policy)
  let outcome := run (fun _ => engine) words
  print (← IO.getStdout) outcome.output
  print (← IO.getStderr) outcome.errors
  return outcome.exitCode

end ComparativeLaw.CommandLine

def main (words : List String) : IO UInt32 := ComparativeLaw.CommandLine.serve words

import ComparativeLaw.Feed.Decisions
import ComparativeLaw.Feed.Rules
import ComparativeLaw.Json.Reader
import ComparativeLaw.Text.Utf8

namespace ComparativeLaw.Feed

inductive Node where
  | file (bytes : ByteArray)
  | directory
  | absent

namespace Node

/-- Why a path cannot be read as a file. -/
def reason? (path : String) : Node → Option String
  | file _ => none
  | directory => some s!"[Errno 21] Is a directory: {Text.quoted path}"
  | absent => some s!"[Errno 2] No such file or directory: {Text.quoted path}"

end Node

/-- The characters of a text with each kind of line end as a line feed. -/
def withLineFeeds : List Char → List Char
  | '\r' :: '\n' :: s => '\n' :: withLineFeeds s
  | '\r' :: s => '\n' :: withLineFeeds s
  | c :: s => c :: withLineFeeds s
  | [] => []

def characters (bytes : ByteArray) : Except Fault (List Char) :=
  match String.fromUTF8? bytes with
  | some s => .ok (withLineFeeds (Text.written s.toList))
  | none => .error .undecodable

/-- The bytes under a path, or the trouble with it. -/
def contents (path : String) (trouble : String → FeedTrouble) (node : Node) :
    Except Fault ByteArray :=
  match node, node.reason? path with
  | .file bytes, _ => .ok bytes
  | _, reason => .error (.failure (.feed (some (.text path)) (trouble (reason.getD ""))))

/-- Reads a data text; a complaint about it becomes trouble with the feed under the path. -/
def readText (path : String) (trouble : Json.Complaint → Nat → FeedTrouble) (s : List Char) :
    Except Fault Json :=
  match Json.readAll s with
  | .ok j => .ok j
  | .error (.wrong complaint remaining) =>
    .error (.failure (.feed (some (.text path)) (trouble complaint remaining)))
  | .error (.longInteger digits) => .error (.complaint (.longInteger digits))
  | .error .tooDeep => .error .tooDeep

def loadRules (path : String) (node : Node) (registry : Option Registry) :
    Except Fault (List RuleEntry × Registry) := do
  let s ← characters (← contents path (.unreadableRules path) node)
  let payload ← readText path (fun c n => .unreadableRules path (Json.located s c n)) s
  (parseRules payload registry (some (.text path))).mapError .failure

/-- Reads the records of the lines from a number on. -/
def recordsFrom (path : String) (number : Nat) : List (List Char) → Except Fault (List Json)
  | [] => .ok []
  | line :: lines =>
    match Text.trimBy Text.isBlank line with
    | [] => recordsFrom path (number + 1) lines
    | body => do
      let record ← readText path (fun c _ => .line number path c.message) body
      return record :: (← recordsFrom path (number + 1) lines)

/-- The number of bytes of a file that are read at once. -/
def blockSize : Nat := 8192

/-- The bytes that are read before a place shows to break the text: the blocks before it, or all of
them if the text breaks at its end. -/
def bytesBefore (place : Nat) (bytes : List UInt8) : List UInt8 :=
  if place < bytes.length then bytes.take (place / blockSize * blockSize) else bytes

/-- The lines that are known to be complete; a carriage return at the end may be half of a line
end. -/
def completeLines (s : List Char) : List (List Char) :=
  let s := if s.getLast? = some '\r' then s.dropLast else s
  (Text.pieces '\n' (withLineFeeds s)).dropLast

/-- Reads the records of a decision feed line by line. Bytes that are no text are noticed only once
the lines before their block are read. -/
def readRecords (path : String) (bytes : ByteArray) : Except Fault (List Json) :=
  let list := bytes.toList
  match Text.Utf8.broken? list with
  | none => recordsFrom path 1 (Text.pieces '\n' (withLineFeeds (Text.Utf8.sound list)))
  | some place => do
    let _ ← recordsFrom path 1 (completeLines (Text.Utf8.sound (bytesBefore place list)))
    .error .undecodable

def loadDecisions (path : String) (node : Node) : Except Fault (List Decision) := do
  let records ← readRecords path (← contents path (.unreadableDecisions path) node)
  (parseDecisions records (some (.text path))).mapError .failure

end ComparativeLaw.Feed

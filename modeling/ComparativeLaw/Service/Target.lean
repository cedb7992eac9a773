import ComparativeLaw.Fault
import ComparativeLaw.Service.Host
import ComparativeLaw.Service.Path

/-!
Targets of requests. A target has a scheme, an authority with a user, a host and a port, a path, a
query and a fragment, all but the path only if they are marked. Of a target with a scheme and a host
the path is meant as it is; any other one is a path below the root of the service.
-/
namespace ComparativeLaw

structure Target where
  scheme : List Char := []
  user : List Char := []
  host : List Char := []
  /-- What stands where the number of the port belongs. -/
  port : List Char := []
  path : List Char
  /-- The query and the fragment with their marks. -/
  rest : List Char := []

namespace Target

/-- The most characters of a target, or of a part of it. -/
def longest : Nat := 65536

/-- Whether a text may be a target: it is not too long and has no control characters. -/
def isTarget (s : List Char) : Bool :=
  (Text.pointsOf s).length ≤ longest && s.all fun c => 0x20 ≤ c.toNat && c.toNat ≠ 0x7F

/-- Splits a scheme off, which may be empty, if a colon follows. -/
def splitScheme (s : List Char) : List Char × List Char :=
  let isSchemeChar (c : Char) : Bool := c.isAlphanum || ['+', '.', '-'].contains c
  let scheme := s.takeWhile isSchemeChar
  match s.dropWhile isSchemeChar with
  | ':' :: rest => if scheme.head?.all Char.isAlpha then (scheme, rest) else ([], s)
  | _ => ([], s)

/-- Splits an authority into the user, which ends at the last at sign, the host, which may stand in
brackets, and the port. -/
def splitAuthority (s : List Char) : List Char × List Char × List Char :=
  let last := s.reverse.takeWhile (· ≠ '@')
  let place := last.reverse
  let user := s.take (s.length - place.length - 1)
  let closed := place.length - (last.takeWhile (· ≠ ']')).length
  let (host, port) :=
    if place.head? = some '[' && closed ≠ 0 then place.splitAt closed
    else place.span (· ≠ ':')
  (user, host, if port.head? = some ':' then port.drop 1 else port)

def isQueryMark (c : Char) : Bool := c = '?' || c = '#'

def split (s : List Char) : Target :=
  let (scheme, s) := splitScheme s
  match s with
  | '/' :: '/' :: s =>
    let isEnd (c : Char) : Bool := c = '/' || isQueryMark c
    let (user, host, port) := splitAuthority (s.takeWhile (!isEnd ·))
    let (path, rest) := (s.dropWhile (!isEnd ·)).span (!isQueryMark ·)
    { scheme, user, host, port, path, rest }
  | _ =>
    let (path, rest) := s.span (!isQueryMark ·)
    { scheme, path, rest }

/-- The ports that need no mention. -/
def standardPorts : List (String × Int) :=
  [("ftp", 21), ("http", 80), ("https", 443), ("ws", 80), ("wss", 443)]

def hasPort (t : Target) : Bool :=
  t.port.isEmpty || (Text.readInt? (String.ofList t.port)).isSome

/-- Whether there is a port, and not the one that the scheme implies. -/
def namesPort (t : Target) : Bool :=
  (Text.readInt? (String.ofList t.port)).any fun n =>
    !standardPorts.contains (String.ofList t.scheme, n)

/-- Whether there is an authority that says something. -/
def hasAuthority (t : Target) : Bool := !t.user.isEmpty || !t.host.isEmpty || t.namesPort

/-- Whether the path is meant as it is. -/
def isAbsolute (t : Target) : Bool := !t.scheme.isEmpty && !t.host.isEmpty

/-- Whether the path can stand where it stands: without anything before it, it would be taken for
an authority if it began with two slashes, and for what follows a scheme with a colon. -/
def isPlaced (t : Target) : Bool :=
  !t.scheme.isEmpty || t.hasAuthority ||
    !("//".toList.isPrefixOf t.path || ":".toList.isPrefixOf t.path)

def hasSurrogate (s : List Char) : Bool := Text.hasSurrogate (String.ofList s)

/-- The number of characters of a text with escapes for what is not `plain`, three for a byte. -/
def escapedSize (plain : Char → Bool) (s : List Char) : Nat :=
  (((Text.pointsOf s).map Char.ofNat).map fun c =>
    if ' ' < c && c < '\x7F' && plain c then 1
    else 3 * (String.singleton c).utf8ByteSize).foldr (· + ·) 0

/-- Whether the path and the query are not too long once they are escaped. -/
def isShort (t : Target) : Bool :=
  let query := (t.rest.takeWhile (· ≠ '#')).drop 1
  let quotes := ['"', '#', '<', '>']
  escapedSize (fun c => !(quotes ++ ['?', '\x60', '\x7b', '\x7d']).contains c) t.path ≤ longest &&
    escapedSize (!quotes.contains ·) query ≤ longest

/-- The target as a path below the root. -/
def rooted (t : Target) : Target :=
  { t with path := Path.withoutDots ('/' :: t.path.dropWhile (· = '/')) }

def read (s : List Char) : Except Fault Target := do
  if !isTarget s then throw .noTarget
  let t := split s
  if hasSurrogate t.user then throw .unwritable
  if !(Host.isHost t.host && t.hasPort && t.isPlaced) then throw .noTarget
  let t := if t.scheme.isEmpty && !t.hasAuthority then t
    else { t with path := Path.withoutDots t.path }
  if hasSurrogate (t.path ++ t.rest) then throw .unwritable
  if t.isAbsolute then
    if !t.host.all (·.toNat < 128) && t.host.head? = some '[' then throw .unwritable
    return t
  let t := t.rooted
  if !t.isShort then throw .noTarget
  return t

/-- The path that a target names. Its escapes are resolved twice. -/
def named (t : Target) : List Char :=
  Path.unescaped (Path.unescaped (if t.path.isEmpty then ['/'] else t.path))

def checkScheme (t : Target) : Except Fault Unit :=
  if !t.isAbsolute then .ok ()
  else
    match String.ofList (Text.lowerChars t.scheme) with
    | "http" | "https" => .ok ()
    | "ws" | "wss" => .error .otherService
    | _ => .error .noSuchName

end Target
end ComparativeLaw

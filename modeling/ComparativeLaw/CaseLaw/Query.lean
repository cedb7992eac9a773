import ComparativeLaw.CaseLaw.Vocabulary
import ComparativeLaw.Json.Conversion

namespace ComparativeLaw

/-- Keywords that must all be found, and filters by court level and topic. -/
structure Query where
  keywords : List String := []
  level : Option CourtLevel := none
  topic : Option String := none
  /-- The largest number of results, unbounded if there is none. -/
  limit : Option Int := none
deriving DecidableEq, Repr

namespace Query

/-- The query of texts that may be blank; an empty topic is none. -/
def of (keywords : List String) (level : Option CourtLevel) (topic : Option String)
    (limit : Option Int) : Except Complaint Query :=
  match limit.filter (· < 0) with
  | some n => .error (.negativeLimit (toString n))
  | none => .ok {
      keywords := keywords.filter fun k => !Text.isBlankText k
      level
      topic := (topic.filter fun t => !t.isEmpty).map Topic.normalise
      limit }

/-- The limit that a value sets; fractions set none. -/
def readLimit : Json → Except Fault (Option Int)
  | .null => .ok none
  | .int n => .ok (some n)
  | .bool b => .ok (some (if b then 1 else 0))
  | _ => .error .wrongKind

/-- The keywords of a value: a text is one keyword, and void items are dropped. -/
def looseKeywords (j : Json) : Except Fault (List String) := do
  let items ← match j with
    | .text s => .ok [.text s]
    | j => j.toItems
  (items.filter fun k => !k.isVoid).mapM fun k =>
    match k with
    | .text s => .ok s
    | _ => .error .noPart

def looseLevel : Json → Except Fault (Option CourtLevel)
  | .null => .ok none
  | j => j.toMember.map some

def looseTopic (j : Json) : Except Fault (Option String) :=
  if j.isVoid then .ok none
  else match j with
    | .text s => .ok (some s)
    | _ => .error .noPart

/-- A query whose limit is kept as it was given. -/
structure Draft where
  query : Query
  limit : Json

def checkLimit (limit : Json) : Except Fault Unit :=
  match limit with
  | .null => .ok ()
  | n => do if ← n.belowZero then .error (.complaint (.negativeLimit n.shown))

/-- Reads a query from the fields of an object: the limit is checked first, then the keywords. -/
def ofLoose (j : Json) : Except Fault Draft := do
  let limit := j.fieldD "limit"
  checkLimit limit
  let keywords ← looseKeywords ((j.field? "keywords").getD (.list []))
  let level ← looseLevel (j.fieldD "court_level")
  let topic ← looseTopic (j.fieldD "topic")
  let query ← (of keywords level topic none).mapError Fault.complaint
  return { query, limit }

/-- The query of a draft; its limit has to be a whole number. -/
def Draft.bounded (d : Draft) : Except Fault Query := do
  return { d.query with limit := ← readLimit d.limit }

/-- A topic that is taken as it is written; what is no text is the topic of no decision. -/
def exactTopic : Json → Option String
  | .null => none
  | .text s => some s
  | _ => some ""

/-- Reads a query that is taken as it is written; a void court level is none. -/
def ofExact (j : Json) : Except Fault Query := do
  let items ← ((j.field? "keywords").getD (.list [])).toItems
  let level := j.fieldD "court_level"
  let level ← if level.isVoid then .ok none else looseLevel level
  let keywords ← items.mapM Json.toWords
  return { keywords, level, topic := exactTopic (j.fieldD "topic")
           limit := ← readLimit (j.fieldD "limit") }

def Draft.toJson (d : Draft) : Json :=
  .object [("keywords", .texts d.query.keywords),
    ("court_level", .ofText? (d.query.level.map CourtLevel.code)),
    ("topic", .ofText? d.query.topic), ("limit", d.limit)]

end Query
end ComparativeLaw

import ComparativeLaw.CaseLaw.Decision
import ComparativeLaw.CaseLaw.Token

namespace ComparativeLaw

/-- Texts with the identifiers of the decisions they occur in. -/
abbrev Postings := Table String (List String)

namespace Postings

def ids (p : Postings) (text : String) : List String := (Table.get? p text).getD []

/-- Files an identifier last under a text. -/
def file (p : Postings) (text id : String) : Postings := Table.alter text (· ++ [id]) [] p

def fileAll (p : Postings) (texts : List String) (id : String) : Postings :=
  texts.eraseDups.foldl (fun p t => p.file t id) p

/-- The identifiers under every token of a phrase, none for a phrase without tokens. -/
def hits (p : Postings) (phrase : String) : List String :=
  match Token.ofText phrase with
  | [] => []
  | t :: ts => ts.foldl (fun found t => found.filter (p.ids t).contains) (p.ids t)

end Postings

/-- The decisions in the order in which they came, and for each token and each cited statute the
decisions in which it occurs. -/
structure CaseIndex where
  decisions : Table String Decision := []
  summaries : Postings := []
  holdings : Postings := []
  statutes : Postings := []

namespace CaseIndex

/-- The holdings of a decision as one text. -/
def holdingText (d : Decision) : String := " ".intercalate (d.holdings.map Holding.text)

/-- The form in which statutes are compared. -/
def statuteKey (s : String) : String := Text.lower (Text.strip s)

/-- Files statutes one by one; the first that is not a text ends the filing. -/
def fileStatutes (id : String) : List Json → Postings → Postings × Except Fault Unit
  | [], p => (p, .ok ())
  | .text s :: rest, p => fileStatutes id rest (p.file (statuteKey s) id)
  | _ :: _, p => (p, .error .noPart)

/-- The index with a new decision filed by its tokens and not yet by its statutes. -/
def fileTokens (ix : CaseIndex) (d : Decision) : CaseIndex :=
  { ix with
    decisions := ix.decisions.insert d.id d
    summaries := ix.summaries.fileAll (Token.ofText d.summary) d.id
    holdings := ix.holdings.fileAll (Token.ofText (holdingText d)) d.id }

/-- Adds a decision with a new identifier. What was filed before a fault stays filed. -/
def add (ix : CaseIndex) (d : Decision) : CaseIndex × Except Fault Unit :=
  if ix.decisions.contains d.id then (ix, .error (.failure (.duplicateId d.id)))
  else
    let filed := fileStatutes d.id d.statutes ix.statutes
    ({ ix.fileTokens d with statutes := filed.1 }, filed.2)

/-- Adds decisions in order to an index, up to the first fault. -/
def addAll (ix : CaseIndex) : List Decision → Except Fault CaseIndex
  | [] => .ok ix
  | d :: ds =>
    match ix.add d with
    | (ix, .ok ()) => addAll ix ds
    | (_, .error e) => .error e

def ofList (ds : List Decision) : Except Fault CaseIndex := addAll {} ds

/-- The decisions in the order in which they were added. -/
def toList (ix : CaseIndex) : List Decision := ix.decisions.values

def size (ix : CaseIndex) : Nat := ix.decisions.length

def get (ix : CaseIndex) (id : String) : Except Failure Decision :=
  match ix.decisions.get? id with
  | some d => .ok d
  | none => .error (.caseNotFound (.text id))

def contains (ix : CaseIndex) (id : String) : Bool := Table.contains ix.decisions id

/-- The identifier that a value is, if it is one; lists and objects cannot be looked for. -/
def readId : Json → Except Fault (Option String)
  | .text s => .ok (some s)
  | .list _ | .object _ => .error .wrongKind
  | _ => .ok none

/-- The identifier that a value is; anything else identifies no decision. -/
def toId (j : Json) : Except Fault String := do
  match ← readId j with
  | some id => return id
  | none => .error (.failure (.caseNotFound j))

/-- The decisions that cite a statute, one for each citation. -/
def citing (ix : CaseIndex) (statute : String) : List Decision :=
  (ix.statutes.ids (statuteKey statute)).filterMap ix.decisions.get?

end CaseIndex
end ComparativeLaw

import ComparativeLaw.Fault
import ComparativeLaw.Service.Limiter
import ComparativeLaw.Service.Message

namespace ComparativeLaw

inductive Refusal where
  | notFound
  | methodNotAllowed
  | missingKey
  | invalidKey
  | rateLimited (limit seconds : Nat) (resource : String) (retryAfter : Int)
  /-- The body is not a data text. -/
  | malformed (offset : Nat)
  /-- The body cannot be read at all. -/
  | unreadable
  /-- The body does not pass its schema. -/
  | invalid (problems : List Schema.Problem)
  /-- There is no engine, and none can be made. -/
  | unavailable (f : Failure)
  | failure (f : Failure)
  /-- A fault that no caller should meet. -/
  | broken

namespace Refusal

def failureStatus (f : Failure) : Nat :=
  match f.kind with
  | "case_not_found" => 404
  | "duplicate_id" | "duplicate_rule_entry" => 409
  | _ => 422

def status : Refusal → Nat
  | notFound => 404
  | methodNotAllowed => 405
  | missingKey | invalidKey => 401
  | rateLimited _ _ _ _ => 429
  | malformed _ | invalid _ => 422
  | unreadable => 400
  | unavailable _ => 503
  | failure f => failureStatus f
  | broken => 500

/-- Names of the parts of a request, which do not show in the path to a problem. -/
def partNames : List String := ["body", "query", "path"]

/-- The path to a part of the body, in text. -/
def pathText (steps : List String) : String :=
  ".".intercalate ("request" :: steps.filter fun s => !partNames.contains s)

def problemJson (steps : List String) (message : String) : Json :=
  .object [("path", .text (pathText steps)), ("message", .text message)]

def validationJson (fields : List Json) : Json :=
  .object [("error", .object [("kind", .text "validation_error"), ("fields", .list fields)])]

def detailJson (detail : Json) : Json := .object [("detail", detail)]

def reasonJson (kind message : String) : Json :=
  detailJson (.object [("kind", .text kind), ("message", .text message)])

def content : Refusal → Content
  | notFound => .json (detailJson (.text "Not Found"))
  | methodNotAllowed => .json (detailJson (.text "Method Not Allowed"))
  | missingKey => .json (reasonJson "unauthorized" "Missing API key")
  | invalidKey => .json (reasonJson "unauthorized" "Invalid API key")
  | rateLimited limit seconds resource retryAfter => .json (detailJson (.object [
      ("kind", .text "rate_limited"),
      ("message", .text s!"Rate limit of {limit} requests per {seconds}s exceeded"),
      ("resource", .text resource), ("retry_after", .int retryAfter)]))
  | malformed offset =>
    .json (validationJson [problemJson [toString offset] "JSON decode error"])
  | unreadable => .json (detailJson (.text "There was an error parsing the body"))
  | invalid problems => .json (validationJson (problems.map fun p =>
      problemJson (p.path.map Schema.Step.text) p.flaw.message))
  | unavailable f => .json (reasonJson f.kind f.message)
  | failure f => .json (.object [("error", f.toJson)])
  | broken => .plain "Internal Server Error"

end Refusal
end ComparativeLaw

import ComparativeLaw.CaseLaw.Vocabulary
import ComparativeLaw.ChoiceOfLaw.Vocabulary
import ComparativeLaw.Json.Basic
import ComparativeLaw.Topic

namespace ComparativeLaw.Description

def title : String := "lexcompare API"

def titled (title : String) (fields : List (String × Json)) : Json :=
  .object (("title", .text title) :: fields)

def ofType (name : String) : List (String × Json) := [("type", .text name)]

def text : List (String × Json) := ofType "string"

def listOf (item : Json) : List (String × Json) := ("items", item) :: ofType "array"

def mappingTo (value : Json) : List (String × Json) :=
  ("additionalProperties", value) :: ofType "object"

def oneOf (schemas : List (List (String × Json))) : List (String × Json) :=
  [("anyOf", .list (schemas.map .object))]

def nullable (schema : List (String × Json)) : List (String × Json) :=
  oneOf [schema, ofType "null"]

/-- The schema of a name. -/
def reference (name : String) : List (String × Json) :=
  [("$ref", .text s!"#/components/schemas/{name}")]

def record (title : String) (required : List String) (properties : List (String × Json)) : Json :=
  let required := if required.isEmpty then [] else [("required", Json.texts required)]
  titled title (ofType "object" ++ required ++ [("properties", .object properties)])

/-- A record without other fields than its own. -/
def closed (title : String) (required : List String) (properties : List (String × Json)) :
    String × Json :=
  match record title required properties with
  | .object fields => (title, .object (fields ++ [("additionalProperties", .bool false)]))
  | j => (title, j)

def codes (α : Type) [Vocabulary α] (more : List (String × Json)) : String × Json :=
  (Vocabulary.title α,
    titled (Vocabulary.title α) (text ++ ("enum", .texts (Vocabulary.codes α)) :: more))

def nameOf (α : Type) [Vocabulary α] : List (String × Json) := reference (Vocabulary.title α)

def filledText (title : String) : Json := titled title (("minLength", 1) :: text)

def schemas : List (String × Json) := [
  codes Approach [],
  closed "ChoiceOfLawRequest" ["topic", "forum"] [
    ("topic", .object (nameOf Topic)),
    ("forum", filledText "Forum"),
    ("factors", titled "Factors" (listOf (.object (reference "FactorInput")))),
    ("approach", .object (nullable (nameOf Approach))),
    ("policy_notes", titled "Policy Notes" (("default", "") :: text)),
    ("interests", titled "Interests" (mappingTo (.object text))),
    ("law_quality", titled "Law Quality" (mappingTo (.object (ofType "number")))),
    ("weights", titled "Weights"
      (("propertyNames", .object (nameOf ContactKind)) ::
        mappingTo (.object (ofType "number"))))],
  closed "CompareRequest" ["topic", "jurisdictions"] [
    ("topic", .object (nameOf Topic)),
    ("jurisdictions", titled "Jurisdictions" (("minItems", 2) :: listOf (.object text)))],
  codes ContactKind [],
  codes CourtLevel [("description", "Court hierarchy, highest first.")],
  closed "FactorInput" ["kind", "jurisdiction"] [
    ("kind", .object (nameOf ContactKind)),
    ("jurisdiction", filledText "Jurisdiction")],
  ("HTTPValidationError", record "HTTPValidationError" [] [
    ("detail", titled "Detail" (listOf (.object (reference "ValidationError"))))]),
  codes Topic [],
  closed "SearchRequest" [] [
    ("keywords", titled "Keywords" (listOf (.object text))),
    ("court_level", .object (nullable (nameOf CourtLevel))),
    ("topic", titled "Topic" (nullable text)),
    ("limit", titled "Limit" (nullable (("minimum", .float 0.0) :: ofType "integer")))],
  ("ValidationError", record "ValidationError" ["loc", "msg", "type"] [
    ("loc", titled "Location" (listOf (.object (oneOf [text, ofType "integer"])))),
    ("msg", titled "Message" text),
    ("type", titled "Error Type" text),
    ("input", titled "Input" []),
    ("ctx", titled "Context" (ofType "object"))])]

structure Operation where
  name : String
  /-- The method in small letters. -/
  method : String
  path : String
  /-- The parameter in the path, if there is one. -/
  inPath? : Option String := none
  /-- The schema of the body, if there is one. -/
  body? : Option String := none
  isGuarded : Bool := true
  isReport : Bool := false

namespace Operation

/-- The name that no other operation has. -/
def id (o : Operation) : String :=
  let isPlain (c : Char) : Bool := c.isAlphanum || c = '_'
  String.ofList ((o.name ++ o.path).toList.map fun c => if isPlain c then c else '_') ++ "_" ++
    o.method

def words (name : String) : String :=
  Text.title (String.ofList (name.toList.map fun c => if c = '_' then ' ' else c))

def parameter (name place : String) (isRequired : Bool) (schema : Json) : Json :=
  .object [("name", .text name), ("in", .text place), ("required", .bool isRequired),
    ("schema", schema)]

def parameters (o : Operation) : List Json :=
  let named := o.inPath?.toList.map fun name =>
    parameter name "path" true (titled (words name) text)
  let key := parameter "x-api-key" "header" false (titled "X-Api-Key" (nullable text))
  named ++ if o.isGuarded then [key] else []

def content (kind : String) (schema : Json) : String × Json :=
  ("content", .object [(kind, .object [("schema", schema)])])

def response (o : Operation) : Json :=
  let content :=
    if o.isReport then content "text/plain" (.object text)
    else content "application/json"
      (titled (words ("Response_" ++ o.id)) (mappingTo (.bool true)))
  .object [("description", "Successful Response"), content]

def refusal : Json :=
  .object [("description", "Validation Error"),
    content "application/json" (.object (reference "HTTPValidationError"))]

def toJson (o : Operation) : Json :=
  let body := o.body?.toList.map fun name => ("requestBody", Json.object [
    content "application/json" (.object (reference name)), ("required", .bool true)])
  let parameters := match o.parameters with
    | [] => []
    | parameters => [("parameters", Json.list parameters)]
  let refusals := if o.isGuarded then [("422", refusal)] else []
  .object ([("summary", Json.text (words o.name)), ("operationId", .text o.id)] ++ parameters ++
    body ++ [("responses", .object (("200", o.response) :: refusals))])

end Operation

def operations : List Operation := [
  { name := "health", method := "get", path := "/health", isGuarded := false },
  { name := "compare_rules", method := "post", path := "/v1/compare",
    body? := some "CompareRequest" },
  { name := "compare_report", method := "post", path := "/v1/compare/report",
    body? := some "CompareRequest", isReport := true },
  { name := "choice_of_law", method := "post", path := "/v1/choice-of-law",
    body? := some "ChoiceOfLawRequest" },
  { name := "search_cases", method := "post", path := "/v1/cases/search",
    body? := some "SearchRequest" },
  { name := "get_case", method := "get", path := "/v1/cases/\x7bcase_id\x7d",
    inPath? := some "case_id" }]

def toJson : Json :=
  .object [("openapi", "3.1.0"),
    ("info", .object [("title", .text title), ("version", "v1")]),
    ("paths", .object (operations.map fun o => (o.path, .object [(o.method, o.toJson)]))),
    ("components", .object [("schemas", .object schemas)])]

end ComparativeLaw.Description

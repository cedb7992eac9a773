import ComparativeLaw.Json.Basic

namespace ComparativeLaw.Schema

inductive Step where
  | key (name : String)
  | index (n : Nat)
deriving DecidableEq, Repr

def Step.toJson : Step → Json
  | key name => .text name
  | index n => .int n

def Step.text : Step → String
  | key name => name
  | index n => toString n

inductive Flaw where
  | missing
  | extraForbidden
  | stringType
  | stringTooShort
  | stringUnicode
  | intType
  | intParsing
  | intParsingSize
  | intFromFloat
  | finiteNumber
  | floatType
  | floatParsing
  | greaterThanEqual
  | enum (codes : List String)
  | listType
  | dictType
  | tooShort (least actual : Nat)
  | modelType
  | modelAttributesType
  | unionTagNotFound
  | unionTagInvalid
  | unknownTopic (shown : String)
  | dateType
  | dateParsing
  | dateFromDatetimeParsing
  | dateFromDatetimeInexact
deriving DecidableEq, Repr

namespace Flaw

def code : Flaw → String
  | missing => "missing"
  | extraForbidden => "extra_forbidden"
  | stringType => "string_type"
  | stringTooShort => "string_too_short"
  | stringUnicode => "string_unicode"
  | intType => "int_type"
  | intParsing => "int_parsing"
  | intParsingSize => "int_parsing_size"
  | intFromFloat => "int_from_float"
  | finiteNumber => "finite_number"
  | floatType => "float_type"
  | floatParsing => "float_parsing"
  | greaterThanEqual => "greater_than_equal"
  | enum _ => "enum"
  | listType => "list_type"
  | dictType => "dict_type"
  | tooShort _ _ => "too_short"
  | modelType => "model_type"
  | modelAttributesType => "model_attributes_type"
  | unionTagNotFound => "union_tag_not_found"
  | unionTagInvalid => "union_tag_invalid"
  | unknownTopic _ => "value_error"
  | dateType => "date_type"
  | dateParsing => "date_parsing"
  | dateFromDatetimeParsing => "date_from_datetime_parsing"
  | dateFromDatetimeInexact => "date_from_datetime_inexact"

/-- The alternatives in quotation marks, with "or" before the last. -/
def alternatives : List String → String
  | [] => ""
  | [a] => s!"'{a}'"
  | [a, b] => s!"'{a}' or '{b}'"
  | a :: rest => s!"'{a}', {alternatives rest}"

def message : Flaw → String
  | missing => "Field required"
  | extraForbidden => "Extra inputs are not permitted"
  | stringType => "Input should be a valid string"
  | stringTooShort => "String should have at least 1 character"
  | stringUnicode =>
    "Input should be a valid string, unable to parse raw data as a unicode string"
  | intType => "Input should be a valid integer"
  | intParsing => "Input should be a valid integer, unable to parse string as an integer"
  | intParsingSize => "Unable to parse input string as an integer, exceeded maximum size"
  | intFromFloat => "Input should be a valid integer, got a number with a fractional part"
  | finiteNumber => "Input should be a finite number"
  | floatType => "Input should be a valid number"
  | floatParsing => "Input should be a valid number, unable to parse string as a number"
  | greaterThanEqual => "Input should be greater than or equal to 0"
  | enum codes => s!"Input should be {alternatives codes}"
  | listType => "Input should be a valid list"
  | dictType => "Input should be a valid dictionary"
  | tooShort least actual =>
    let items := if least = 1 then "item" else "items"
    s!"List should have at least {least} {items} after validation, not {actual}"
  | modelType => "Input should be a valid dictionary or object to extract fields from"
  | modelAttributesType => "Input should be a valid dictionary or object to extract fields from"
  | unionTagNotFound => "Unable to extract tag using discriminator 'kind'"
  | unionTagInvalid => "Input tag does not match any of the expected tags"
  | unknownTopic shown => s!"Value error, Unknown legal topic {shown}"
  | dateType => "Input should be a valid date"
  | dateParsing => "Input should be a valid date in the format YYYY-MM-DD"
  | dateFromDatetimeParsing => "Input should be a valid date or datetime"
  | dateFromDatetimeInexact => "Datetimes provided to dates should have zero time"

end Flaw

/-- What validation finds in a value, with the path to the offending part. -/
structure Problem where
  path : List Step
  flaw : Flaw
deriving DecidableEq, Repr

/-- The problem seen from one step further up. -/
def Problem.under (step : Step) (p : Problem) : Problem := { p with path := step :: p.path }

/-- The problem as details show it; only a rejected text carries a message. -/
def Problem.toJson (p : Problem) : Json :=
  let base := [("loc", Json.list (p.path.map Step.toJson)), ("type", .text p.flaw.code)]
  match p.flaw with
  | .unknownTopic _ => .object (base ++ [("msg", .text p.flaw.message)])
  | _ => .object base

end ComparativeLaw.Schema

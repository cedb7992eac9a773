import ComparativeLaw.Rule.Payload

/-!
Drafts of rules: fields of any kind beside the shape, of which only those of the shape count. Codes
and amounts are taken as they are written; what they lack shows when they are checked, and what
they cannot do shows when they are written out.
-/
namespace ComparativeLaw.Rule

structure Draft where
  kind : RuleKind
  code : Json := .text ""
  threshold : Json := .null
  damages : Option DamagesType := none
  amount : Json := .null
  conditions : List Json := []
  description : Json := .text ""
  parameters : List Json := []

namespace Draft

def fieldNames : List String :=
  ["kind", "code", "threshold", "damages_type", "amount", "conditions", "description", "parameters"]

def optional {α : Type} (read : Json → Except Fault α) : Json → Except Fault (Option α)
  | .null => .ok none
  | j => (read j).map some

/-- The shape that is named, unless it is taken as it is written. -/
def readKind (bareKind : Bool) (fields : List (String × Json)) :
    Except Fault (Option RuleKind) :=
  match Table.get? fields "kind" with
  | some kind => if bareKind then .ok none else kind.toMember.map some
  | none => .ok none

/-- Reads the fields; a bare kind is no shape at all. -/
def ofFields (fields : List (String × Json)) (bareKind : Bool) : Except Fault Draft := do
  let given (name : String) (fallback : Json) : Json := (Table.get? fields name).getD fallback
  let kind ← readKind bareKind fields
  let damages ← optional Json.toMember (given "damages_type" .null)
  let conditions ← (given "conditions" (.list [])).toItems
  let parameters ← (given "parameters" (.list [])).toItems
  let parameters ← parameters.mapM fun p => p.toItems.map Json.list
  if let some (name, _) := fields.find? fun e => !fieldNames.contains e.1 then
    .error (.misfit (.ruleField name))
  match kind, Table.get? fields "kind" with
  | _, none => .error (.misfit .noRuleKind)
  | none, some bare => .error (.misfit (.ruleKind bare.shown))
  | some kind, some _ =>
    return {
      kind, damages, conditions, parameters
      code := given "code" (.text "")
      threshold := given "threshold" .null
      amount := given "amount" .null
      description := given "description" (.text "") }

/-- Refuses a draft that lacks what its shape needs. -/
def check (d : Draft) : Except Fault Unit :=
  match d.kind with
  | .flag => if d.code.isVoid then refuse .flagCode else .ok ()
  | .threshold =>
    if d.code.isVoid then refuse .thresholdCode
    else match d.threshold with
      | .null => refuse (.threshold d.code.shown)
      | _ => .ok ()
  | .damagesCap =>
    match d.damages, d.amount with
    | none, _ => refuse .capType
    | some _, .null => refuse .capAmount
    | some _, amount => do if ← amount.belowZero then refuse .capAmount
  | .custom => if d.code.isVoid then refuse .customName else .ok ()

/-- Reads parts from a position on as entries of a mapping: each is a key and a value. Lists and
objects are no keys. -/
def entriesFrom (position : Nat) : List Json → Except Fault (List (Json × Json))
  | [] => .ok []
  | part :: rest => do
    match ← part.toItems with
    | [key, value] =>
      if key.isScalar then return (key, value) :: (← entriesFrom (position + 1) rest)
      else .error .wrongKind
    | items => refuse (.pairLength position items.length)

/-- The mapping of entries. Of keys that count as equal the first one stays, with the last value; so
it is again with the texts of the keys. -/
def mappingOf (entries : List (Json × Json)) : List (String × Json) :=
  let distinct := entries.foldl (fun t e => Table.alter e.1.key (fun f => (f.1, e.2)) e t) []
  Table.ofList (distinct.map fun d => (d.2.1.plain, d.2.2))

/-- The draft as data, with the fields of its shape. -/
def payload (d : Draft) : Except Fault Json :=
  let kind := ("kind", Json.text d.kind.code)
  match d.kind with
  | .flag => .ok (.object [kind, ("code", d.code)])
  | .threshold => .ok (.object [kind, ("code", d.code), ("threshold", d.threshold)])
  | .damagesCap =>
    .ok (.object [kind, ("damages_type", .ofText? (d.damages.map DamagesType.code)),
      ("amount", d.amount), ("conditions", .list d.conditions)])
  | .custom => do
    let parameters := mappingOf (← entriesFrom 0 d.parameters)
    return .object [kind, ("name", d.code), ("description", d.description),
      ("parameters", .object parameters)]

/-- The label of a percentage, whose code is looked up before it is put into words. -/
def levelLabel (code : Json) (level : Float) : Except Fault String :=
  match code with
  | .text code => .ok (thresholdLabel code (cutoff level))
  | .list _ | .object _ => .error .wrongKind
  | _ => .error .noPart

def capLabel (d : Draft) : Except Fault String := do
  let conditions ← d.conditions.mapM Json.toText
  let damages := ((d.damages.map DamagesType.label).getD "Damages")
  let text := s!"{damages} Cap: ${d.amount.plain}"
  let terms := "; ".intercalate conditions
  return if conditions.isEmpty then text else s!"{text} [{terms}]"

def label (d : Draft) : Except Fault String :=
  match d.kind with
  | .flag => d.code.toWords.map flagLabel
  | .threshold => do levelLabel d.code (← (d.threshold.orElse (.float 0.0)).toFloat)
  | .damagesCap => d.capLabel
  | .custom => d.code.toText

/-- A checked draft as answers show it: its data and its label. -/
def shown (d : Draft) : Except Fault (Json × String) := do
  d.check
  return (← d.payload, ← d.label)

end Draft
end ComparativeLaw.Rule

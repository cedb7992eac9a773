import ComparativeLaw.Rule.Basic

namespace ComparativeLaw

inductive RuleKind where
  | flag | threshold | damagesCap | custom
deriving DecidableEq, Repr, Inhabited

namespace RuleKind

def code : RuleKind → String
  | flag => "flag"
  | threshold => "threshold"
  | damagesCap => "damages_cap"
  | custom => "custom"

instance : Vocabulary RuleKind := ⟨"RuleKind", [flag, threshold, damagesCap, custom], code⟩

end RuleKind

namespace Rule

def kind : Rule → RuleKind
  | flag _ => .flag
  | threshold _ _ => .threshold
  | cap _ _ _ => .damagesCap
  | custom _ _ _ => .custom

/-- A rule as an object, whose kind tells which of the other fields count. -/
def toPayload (r : Rule) : Json :=
  let kind := ("kind", Json.text r.kind.code)
  match r with
  | flag code => .object [kind, ("code", .text code)]
  | threshold code level => .object [kind, ("code", .text code), ("threshold", .float level.value)]
  | cap damages amount conditions =>
    .object [kind, ("damages_type", .text damages.code), ("amount", .int amount),
      ("conditions", .list conditions)]
  | custom name description parameters =>
    .object [kind, ("name", .text name), ("description", .text description),
      ("parameters", .object (Table.ofList (parameters.map fun p => (p.1, .text p.2))))]

/-- The text of a field, empty if the field counts as absent. -/
def textField (p : Json) (key : String) : String := ((p.fieldD key).orElse (.text "")).plain

def refuse {α : Type} (c : Complaint) : Except Fault α := .error (.complaint c)

def checked (r : Except Complaint Rule) : Except Fault Rule := r.mapError .complaint

def payloadKind (p : Json) : Except Fault RuleKind :=
  match p with
  | .object _ =>
    match (p.fieldD "kind").toMember with
    | .ok kind => .ok kind
    | .error _ => refuse (.unknownRuleKind (p.fieldD "kind").shown)
  | _ => .error .noPart

def readFlag (p : Json) : Except Fault Rule := checked (ofFlag (normalCode (textField p "code")))

def readThreshold (p : Json) : Except Fault Rule :=
  match p.fieldD "threshold" with
  | .null => refuse (.threshold (p.fieldD "code").shown)
  | level => do
    let level ← Level.ofJson level
    checked (ofThreshold (normalCode (textField p "code")) level)

def readCap (p : Json) : Except Fault Rule :=
  match p.fieldD "damages_type", p.fieldD "amount" with
  | .null, _ | _, .null => refuse .capFields
  | damages, amount => do
    let amount ← amount.toInt
    let damages ← damages.toMember
    let conditions ← ((p.fieldD "conditions").orElse (.list [])).toItems
    checked (ofCap damages amount conditions)

def readCustom (p : Json) : Except Fault Rule := do
  match (p.fieldD "parameters").orElse (.object []) with
  | .object parameters =>
    let name := ((p.fieldD "name").orElse ((p.fieldD "code").orElse (.text ""))).plain
    let parameters := sortedParameters (parameters.map fun e => (e.1, e.2.plain))
    checked (ofCustom (Text.strip name) (textField p "description") parameters)
  | _ => .error .noPart

/-- Reads a rule from such an object. Codes are trimmed and put in lower case, parameters are
sorted, and whatever stands for a number or a text is accepted. -/
def ofPayload (p : Json) : Except Fault Rule := do
  match ← payloadKind p with
  | .flag => readFlag p
  | .threshold => readThreshold p
  | .damagesCap => readCap p
  | .custom => readCustom p

def toJson (r : Rule) : Except Fault Json :=
  r.label?.map fun label => .object [("payload", r.toPayload), ("label", .text label)]

end Rule
end ComparativeLaw

import ComparativeLaw.Fault
import ComparativeLaw.Text.Utf8

/-!
The policy: the points of the search and the confidences of the doctrines. Each value has a default
that the environment may replace by a number in range; other texts are ignored with a warning.
-/
namespace ComparativeLaw

/-- Names with their texts; of a repeated name the last text counts. -/
abbrev Environment := List (String × String)

def Environment.get? (env : Environment) (name : String) : Option String :=
  (env.reverse.find? fun e => e.1 = name).map (·.2)

/-- A text as it reads once it is kept in bytes: a byte that is part of no character is a surrogate,
and such surrogates may make up a character. -/
def Environment.kept (s : String) : Except Fault String :=
  match Text.Utf8.unescaped? s with
  | some bytes => .ok (String.ofList (Text.Utf8.escaped bytes))
  | none => .error .unwritable

/-- A name and a text as an environment keeps them. Neither holds a null byte, at which it would
end, and a name ends where its text begins, at the first equals sign. -/
def Environment.keep (entry : String × String) : Except Fault (String × String) := do
  let name ← kept entry.1
  let text ← kept entry.2
  if name.toList.contains '\x00' || text.toList.contains '\x00' then
    .error (.complaint .nullByte)
  else if name.toList.contains '=' then .error (.complaint .variableName)
  else if name.isEmpty then .error .noVariable
  else .ok (name, text)

def Environment.ofList (entries : List (String × String)) : Except Fault Environment :=
  entries.mapM keep

/-- A number that the environment may replace. -/
structure Setting (α : Type) where
  name : String
  standard : α
  /-- The largest number that is taken, if there is one; the smallest is zero. -/
  ceiling : Option α := none

/-- What the environment says about a setting. -/
inductive Override (α : Type) where
  | absent
  | notNumeric (text : String)
  | outOfRange (text : String)
  | taken (x : α)

namespace Setting

variable {α : Type} [Scalar α]

/-- Whether a number is neither below zero nor above the ceiling. -/
def admits (s : Setting α) (x : α) : Bool :=
  !(x < 0.0) && s.ceiling.all fun top => !(top < x)

def override (s : Setting α) (env : Environment) : Override α :=
  match env.get? s.name with
  | none => .absent
  | some text =>
    if Text.isBlankText text then .absent
    else match Numeral.read? text with
      | none => .notNumeric text
      | some n =>
        match (Scalar.ofNumeral? n : Option α) with
        | none => .outOfRange text
        | some x => if s.admits x then .taken x else .outOfRange text

def value (s : Setting α) (env : Environment) : α :=
  match s.override env with
  | .taken x => x
  | _ => s.standard

def warning? (s : Setting α) (env : Environment) : Option String :=
  let warn (what text : String) : String :=
    s!"Ignoring {what} {s.name}={Text.quoted text}, using {Scalar.shortest s.standard}"
  match s.override env with
  | .notNumeric text => some (warn "non-numeric" text)
  | .outOfRange text => some (warn "out-of-range" text)
  | _ => none

end Setting

structure Policy (α : Type) where
  summaryPoints : α
  holdingPoints : α
  topicPoints : α
  supremePoints : α
  appellatePoints : α
  regionalPoints : α
  districtPoints : α
  maxRelevance : α
  territorialConfidence : α
  fallbackConfidence : α
  falseConflictConfidence : α
  trueConflictConfidence : α
  betterLawCap : α
  betterLawWeight : α

namespace Policy

variable {α : Type} [Scalar α]

def summaryPointsSetting : Setting α := ⟨"LEXC_SUMMARY_POINTS", 30.0, none⟩

def holdingPointsSetting : Setting α := ⟨"LEXC_HOLDING_POINTS", 20.0, none⟩

def topicPointsSetting : Setting α := ⟨"LEXC_TOPIC_POINTS", 20.0, none⟩

def supremePointsSetting : Setting α := ⟨"LEXC_SUPREME_POINTS", 30.0, none⟩

def appellatePointsSetting : Setting α := ⟨"LEXC_APPELLATE_POINTS", 20.0, none⟩

def regionalPointsSetting : Setting α := ⟨"LEXC_REGIONAL_POINTS", 15.0, none⟩

def districtPointsSetting : Setting α := ⟨"LEXC_DISTRICT_POINTS", 10.0, none⟩

def fallbackConfidenceSetting : Setting α :=
  ⟨"LEXC_TERRITORIAL_FALLBACK_CONFIDENCE", 0.6, some 1.0⟩

def falseConflictSetting : Setting α := ⟨"LEXC_FALSE_CONFLICT_CONFIDENCE", 0.9, some 1.0⟩

def trueConflictSetting : Setting α := ⟨"LEXC_TRUE_CONFLICT_CONFIDENCE", 0.5, some 1.0⟩

def betterLawCapSetting : Setting α := ⟨"LEXC_BETTER_LAW_CAP", 0.7, some 1.0⟩

def betterLawWeightSetting : Setting α := ⟨"LEXC_BETTER_LAW_WEIGHT", 1.0, none⟩

/-- The settings in the order in which they are read. -/
def settings : List (Setting α) :=
  [summaryPointsSetting, holdingPointsSetting, topicPointsSetting, supremePointsSetting,
    appellatePointsSetting, regionalPointsSetting, districtPointsSetting,
    fallbackConfidenceSetting, falseConflictSetting, trueConflictSetting, betterLawCapSetting,
    betterLawWeightSetting]

def ofEnvironment (env : Environment) : Policy α where
  summaryPoints := summaryPointsSetting.value env
  holdingPoints := holdingPointsSetting.value env
  topicPoints := topicPointsSetting.value env
  supremePoints := supremePointsSetting.value env
  appellatePoints := appellatePointsSetting.value env
  regionalPoints := regionalPointsSetting.value env
  districtPoints := districtPointsSetting.value env
  maxRelevance := 100.0
  territorialConfidence := 1.0
  fallbackConfidence := fallbackConfidenceSetting.value env
  falseConflictConfidence := falseConflictSetting.value env
  trueConflictConfidence := trueConflictSetting.value env
  betterLawCap := betterLawCapSetting.value env
  betterLawWeight := betterLawWeightSetting.value env

def warnings (env : Environment) : List String :=
  (settings : List (Setting Float)).filterMap fun s => s.warning? env

def toJson (p : Policy Float) : Json :=
  .object [("summary_keyword_points", .float p.summaryPoints),
    ("holding_keyword_points", .float p.holdingPoints),
    ("topic_match_points", .float p.topicPoints),
    ("supreme_court_points", .float p.supremePoints),
    ("appellate_court_points", .float p.appellatePoints),
    ("regional_court_points", .float p.regionalPoints),
    ("district_court_points", .float p.districtPoints),
    ("max_relevance", .float p.maxRelevance),
    ("territorial_primary_confidence", .float p.territorialConfidence),
    ("territorial_fallback_confidence", .float p.fallbackConfidence),
    ("false_conflict_confidence", .float p.falseConflictConfidence),
    ("true_conflict_confidence", .float p.trueConflictConfidence),
    ("better_law_confidence_cap", .float p.betterLawCap),
    ("better_law_weight", .float p.betterLawWeight)]

end Policy
end ComparativeLaw

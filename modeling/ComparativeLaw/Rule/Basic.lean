import ComparativeLaw.Json.Conversion

namespace ComparativeLaw

inductive DamagesType where
  | economic | nonEconomic | punitive | total
deriving DecidableEq, Repr, Inhabited

namespace DamagesType

def code : DamagesType → String
  | economic => "economic"
  | nonEconomic => "non_economic"
  | punitive => "punitive"
  | total => "total"

def label : DamagesType → String
  | economic => "Economic Damages"
  | nonEconomic => "Non-Economic Damages"
  | punitive => "Punitive Damages"
  | total => "Total Damages"

instance : Vocabulary DamagesType := ⟨"DamagesType", [economic, nonEconomic, punitive, total], code⟩

end DamagesType

/-- The percentage of a rule. -/
inductive Level where
  | number (x : Float)
  /-- What a text reads that names no number: it is the same as no other level. -/
  | unordered
deriving Inhabited

namespace Level

def value : Level → Float
  | number x => x
  | unordered => 0.0 / 0.0

/-- The bits that stand for a number: those of zero for both zeros, and the same for every
not-a-number. -/
def numberBits (x : Float) : UInt64 :=
  if x == 0.0 then 0 else if x.isNaN then 0x7FF8000000000000 else x.toBits

/-- Whether two levels have the same value. -/
def agrees (a b : Level) : Bool := numberBits a.value = numberBits b.value

def same : Level → Level → Bool
  | number x, number y => numberBits x = numberBits y
  | _, _ => false

/-- The level that a text for a number sets. -/
def ofRead (x : Float) : Level := if x.isNaN then unordered else number x

def ofJson (j : Json) : Except Fault Level :=
  match j with
  | .text _ => j.toFloat.map ofRead
  | _ => j.toFloat.map number

end Level

/-- A rule: a plain code, a code with a percentage, a cap on damages, or a rule in words. The
conditions of a cap are texts, as a rule. -/
inductive Rule where
  | flag (code : String)
  | threshold (code : String) (level : Level)
  | cap (damages : DamagesType) (amount : Nat) (conditions : List Json)
  | custom (name description : String) (parameters : List (String × String))
deriving Inhabited

namespace Rule

/-- Whether two rules have the same shape and content, their levels compared as given. -/
def sameBy (levels : Level → Level → Bool) : Rule → Rule → Bool
  | flag a, flag b => a = b
  | threshold a x, threshold b y => a = b && levels x y
  | cap d n cs, cap d' n' cs' => d = d' && n = n' && cs.map Json.key = cs'.map Json.key
  | custom a t ps, custom b t' ps' => a = b && t = t' && ps = ps'
  | _, _ => false

def same : Rule → Rule → Bool := sameBy Level.same

/-- Whether two rules have the same content, levels that are no numbers included. -/
def agrees : Rule → Rule → Bool := sameBy Level.agrees

instance : BEq Rule := ⟨same⟩

def ofFlag (code : String) : Except Complaint Rule :=
  if code.isEmpty then .error .flagCode else .ok (flag code)

def ofThreshold (code : String) (level : Level) : Except Complaint Rule :=
  if code.isEmpty then .error .thresholdCode else .ok (threshold code level)

/-- A cap on damages; an amount below zero is refused. -/
def ofCap (damages : DamagesType) (amount : Int) (conditions : List Json) :
    Except Complaint Rule :=
  match amount with
  | .ofNat n => .ok (cap damages n conditions)
  | .negSucc _ => .error .capAmount

def ofCustom (name description : String) (parameters : List (String × String)) :
    Except Complaint Rule :=
  if name.isEmpty then .error .customName else .ok (custom name description parameters)

/-- The written form of a code: trimmed and in lower case. -/
def normalCode (code : String) : String := Text.lower (Text.strip code)

/-- The order of parameters: by name, then by text. -/
def parameterLE (a b : String × String) : Bool :=
  if a.1 = b.1 then Text.precedes a.2 b.2 else Text.precedes a.1 b.1

def sortedParameters (parameters : List (String × String)) : List (String × String) :=
  parameters.mergeSort parameterLE

/-- A percentage rule on joint and several liability. -/
def jointAndSeveral (percent : Float) : Except Complaint Rule :=
  ofThreshold "modified_joint_and_several" (.number percent)

def wordsOfCode (code : String) : String :=
  Text.title (Text.strip (String.ofList (code.toList.map fun c => if c = '_' then ' ' else c)))

/-- The labels of the codes that have one of their own. -/
def flagLabel : String → String
  | "pure_comparative_negligence" => "Pure Comparative Negligence"
  | "contributory_negligence" => "Contributory Negligence"
  | "no_damages_cap" => "No Damages Cap"
  | "joint_and_several_liability" => "Joint and Several Liability"
  | "several_liability_only" => "Several Liability Only"
  | code => wordsOfCode code

def thresholdLabel (code cutoff : String) : String :=
  match code with
  | "modified_comparative_negligence" => s!"Modified Comparative ({cutoff}% bar)"
  | "modified_joint_and_several" => s!"Modified Joint and Several ({cutoff}% threshold)"
  | code => s!"{wordsOfCode code} ({cutoff})"

/-- The number of a percentage rule in its label; zero is written without its sign. -/
def cutoff (level : Float) : String := Scalar.general (if level == 0.0 then 0.0 else level)

/-- A rule in words for a reader. -/
def label : Rule → String
  | flag code => flagLabel code
  | threshold code level => thresholdLabel code (cutoff level.value)
  | cap damages amount conditions =>
    let text := s!"{damages.label} Cap: ${amount}"
    let terms := "; ".intercalate (conditions.map Json.plain)
    if conditions.isEmpty then text else s!"{text} [{terms}]"
  | custom name _ _ => name

/-- The label, which the conditions of a cap have only if they are texts. -/
def label? (r : Rule) : Except Fault String :=
  match r with
  | cap _ _ conditions => do
    let _ ← conditions.mapM Json.toText
    return r.label
  | _ => .ok r.label

/-- Whether a rule is made of plain values. The conditions of a cap may be anything, but those that
are made of parts cannot be looked up. -/
def isPlain : Rule → Bool
  | cap _ _ conditions => conditions.all Json.isScalar
  | _ => true

/-- Comparative negligence with recovery however large the claimant's share. -/
def pureComparativeNegligence : Rule := flag "pure_comparative_negligence"

/-- Comparative negligence with recovery up to half of the fault. -/
def modifiedComparative50 : Rule := threshold "modified_comparative_negligence" (.number 50.0)

/-- Comparative negligence with recovery below a share of 51 percent. -/
def modifiedComparative51 : Rule := threshold "modified_comparative_negligence" (.number 51.0)

def contributoryNegligence : Rule := flag "contributory_negligence"

def noDamagesCap : Rule := flag "no_damages_cap"

def jointAndSeveralLiability : Rule := flag "joint_and_several_liability"

def severalLiabilityOnly : Rule := flag "several_liability_only"

end Rule
end ComparativeLaw

import ComparativeLaw.Proofs.Checked
import ComparativeLaw.Proofs.Order
import ComparativeLaw.Proofs.Table
import ComparativeLaw.Proofs.Text.Trim
import ComparativeLaw.Rule.Payload
import Mathlib.Data.List.Nodup

namespace ComparativeLaw.Rule

open Checked

theorem normalCode_normalCode (code : String) : normalCode (normalCode code) = normalCode code := by
  show Text.lower (Text.strip (Text.lower (Text.strip code))) = Text.lower (Text.strip code)
  rw [Text.strip_lower_strip, Text.lower_lower]

section Parameters

variable {α : Type} {ps ps' : List (String × String)}

/-- Values under names that all differ. -/
def DistinctNames (ps : List (String × α)) : Prop := (ps.map fun p => Text.points p.1).Nodup

/-- The order of parameters by their names alone. -/
def nameLE (a b : String × String) : Bool := Text.precedes a.1 b.1

theorem nameLE_trans (a b c : String × String) (hab : nameLE a b = true) (hbc : nameLE b c = true) :
    nameLE a c = true :=
  Text.precedes_trans hab hbc

theorem nameLE_total (a b : String × String) : (nameLE a b || nameLE b a) = true :=
  Text.precedes_total a.1 b.1

/-- No two of the names are written with the same points. -/
theorem DistinctNames.eq_of_points (hn : DistinctNames ps) {a b : String × String} (ha : a ∈ ps)
    (hb : b ∈ ps) (h : Text.points a.1 = Text.points b.1) : a = b :=
  List.inj_on_of_nodup_map hn ha hb h

theorem DistinctNames.keys_nodup {ps : List (String × α)} (hn : DistinctNames ps) :
    (ps.map (·.1)).Nodup := by
  have hcomp : ps.map (fun p => Text.points p.1) = (ps.map (·.1)).map Text.points := by
    rw [List.map_map]
    rfl
  rw [DistinctNames, hcomp] at hn
  exact hn.of_map

theorem DistinctNames.perm {ps ps' : List (String × α)} (hn : DistinctNames ps)
    (hp : ps.Perm ps') : DistinctNames ps' :=
  (hp.map _).nodup_iff.mp hn

/-- Where names differ, the texts of the parameters do not matter for their order. -/
theorem sortedParameters_eq (hn : DistinctNames ps) : sortedParameters ps = ps.mergeSort nameLE := by
  apply mergeSort_congr
  intro a ha b hb
  by_cases h : a.1 = b.1
  · have hab : a = b := hn.eq_of_points ha hb (congrArg Text.points h)
    rw [hab, parameterLE, if_pos rfl, nameLE, Text.precedes_refl, Text.precedes_refl]
  · rw [parameterLE, if_neg h, nameLE]

theorem sortedParameters_perm (ps : List (String × String)) : (sortedParameters ps).Perm ps :=
  List.mergeSort_perm ps parameterLE

theorem sortedParameters_sortedParameters (hn : DistinctNames ps) :
    sortedParameters (sortedParameters ps) = sortedParameters ps := by
  have hsorted : DistinctNames (sortedParameters ps) := hn.perm (sortedParameters_perm ps).symm
  rw [sortedParameters_eq hsorted, sortedParameters_eq hn]
  exact mergeSort_mergeSort nameLE_trans nameLE_total ps

/-- Parameters with different names come in one order, however they are listed. -/
theorem sortedParameters_of_perm (hn : DistinctNames ps) (hp : ps.Perm ps') :
    sortedParameters ps = sortedParameters ps' := by
  rw [sortedParameters_eq hn, sortedParameters_eq (hn.perm hp)]
  apply mergeSort_eq_of_perm nameLE_trans nameLE_total
  · intro a ha b hb hab hba
    exact hn.eq_of_points ha hb (Text.precedes_antisymm hab hba)
  · exact hp

end Parameters

/-- A rule in the form that reading gives it, with a level that is no text for not-a-number. -/
def Settled : Rule → Prop
  | flag code => code.isEmpty = false ∧ normalCode code = code
  | threshold code level =>
    code.isEmpty = false ∧ normalCode code = code ∧ ∃ x, level = .number x
  | cap _ _ _ => True
  | custom name _ parameters =>
    name.isEmpty = false ∧ Text.strip name = name ∧ DistinctNames parameters ∧
      sortedParameters parameters = parameters

/-- Reading as a rule of one kind. -/
def readAs (p : Json) : RuleKind → Except Fault Rule
  | .flag => readFlag p
  | .threshold => readThreshold p
  | .damagesCap => readCap p
  | .custom => readCustom p

/-- A payload is read by its kind. -/
theorem ofPayload_eq (p : Json) : ofPayload p = payloadKind p >>= readAs p := by
  unfold ofPayload
  refine congrArg (payloadKind p >>= ·) (funext fun kind => ?_)
  cases kind <;> rfl

/-- The payload of a rule tells its kind. -/
theorem payloadKind_toPayload (r : Rule) : payloadKind r.toPayload = .ok r.kind := by
  cases r <;> rfl

theorem ofPayload_toPayload_eq (r : Rule) : ofPayload r.toPayload = readAs r.toPayload r.kind := by
  rw [ofPayload_eq, payloadKind_toPayload]
  rfl

theorem orElse_text (s : String) : (Json.text s).orElse (.text "") = .text s := by
  unfold Json.orElse
  split
  · next h => rw [String.isEmpty_iff.mp h]
  · rfl

theorem orElse_list (items : List Json) : (Json.list items).orElse (.list []) = .list items := by
  unfold Json.orElse
  split
  · next h => rw [List.isEmpty_iff.mp h]
  · rfl

theorem orElse_object (fields : List (String × Json)) :
    (Json.object fields).orElse (.object []) = .object fields := by
  unfold Json.orElse
  split
  · next h => rw [List.isEmpty_iff.mp h]
  · rfl

theorem textField_of_text {p : Json} {key s : String} (h : p.fieldD key = .text s) :
    textField p key = s := by
  rw [textField, h, orElse_text]
  rfl

/-- The payload of a flag is read as the flag. -/
theorem ofPayload_toPayload_flag {code : String} (h : (flag code).Settled) :
    ofPayload (flag code).toPayload = .ok (flag code) := by
  obtain ⟨hne, hnormal⟩ := h
  have hcode : textField (flag code).toPayload "code" = code := textField_of_text rfl
  rw [ofPayload_toPayload_eq, kind, readAs, readFlag, hcode, hnormal, ofFlag, hne]
  rfl

/-- The payload of a threshold is read as the threshold. -/
theorem ofPayload_toPayload_threshold {code : String} {level : Level}
    (h : (threshold code level).Settled) :
    ofPayload (threshold code level).toPayload = .ok (threshold code level) := by
  obtain ⟨hne, hnormal, x, rfl⟩ := h
  have hcode : textField (threshold code (.number x)).toPayload "code" = code :=
    textField_of_text rfl
  have hlevel : (threshold code (.number x)).toPayload.fieldD "threshold" = .float x := rfl
  rw [ofPayload_toPayload_eq, kind, readAs, readThreshold, hlevel, hcode, hnormal]
  show checked (ofThreshold code (.number x)) = .ok (threshold code (.number x))
  rw [ofThreshold, hne]
  rfl

theorem toMember_code (damages : DamagesType) : (Json.text damages.code).toMember = .ok damages := by
  cases damages <;> rfl

/-- The payload of a cap is read as the cap. -/
theorem ofPayload_toPayload_cap (damages : DamagesType) (amount : Nat) (conditions : List Json) :
    ofPayload (cap damages amount conditions).toPayload = .ok (cap damages amount conditions) := by
  have hdamages : (cap damages amount conditions).toPayload.fieldD "damages_type" =
      .text damages.code := rfl
  have hamount : (cap damages amount conditions).toPayload.fieldD "amount" = .int amount := rfl
  have hconditions : (cap damages amount conditions).toPayload.fieldD "conditions" =
      .list conditions := rfl
  rw [ofPayload_toPayload_eq, kind, readAs, readCap, hdamages, hamount, hconditions, orElse_list]
  simp only [toMember_code]
  rfl

theorem plain_parameters (ps : List (String × String)) :
    (ps.map fun p => (p.1, Json.text p.2)).map (fun e => (e.1, e.2.plain)) = ps := by
  rw [List.map_map]
  exact List.map_id ps

/-- The payload of a custom rule is read as the rule, its parameters in order. -/
theorem ofPayload_toPayload_custom {name description : String} {ps : List (String × String)}
    (h : (custom name description ps).Settled) :
    ofPayload (custom name description ps).toPayload = .ok (custom name description ps) := by
  obtain ⟨hne, hstrip, hnames, hsorted⟩ := h
  have hname : (custom name description ps).toPayload.fieldD "name" = .text name := rfl
  have hdescription : textField (custom name description ps).toPayload "description" =
      description := textField_of_text rfl
  have hparameters : (custom name description ps).toPayload.fieldD "parameters" =
      .object (ps.map fun p => (p.1, .text p.2)) := by
    have hkeys : ((ps.map fun p => (p.1, Json.text p.2)).map (·.1)).Nodup := by
      rw [List.map_map]
      exact hnames.keys_nodup
    show Json.object (Table.ofList (ps.map fun p => (p.1, .text p.2))) = _
    rw [Table.ofList_of_nodup hkeys]
  -- The name is not empty, so that the code is not looked for.
  have hfirst (fallback : Json) : (Json.text name).orElse fallback = .text name := by
    rw [Json.orElse, Json.isVoid, hne]
    rfl
  rw [ofPayload_toPayload_eq, kind, readAs, readCustom, hparameters, orElse_object, hname, hfirst,
    hdescription]
  show checked (ofCustom (Text.strip name) description (sortedParameters
    ((ps.map fun p => (p.1, Json.text p.2)).map fun e => (e.1, e.2.plain)))) = _
  rw [plain_parameters, hsorted, hstrip, ofCustom, hne]
  rfl

/-- The data of a settled rule reads as the rule. -/
theorem ofPayload_toPayload {r : Rule} (h : r.Settled) : ofPayload r.toPayload = .ok r := by
  cases r with
  | flag code => exact ofPayload_toPayload_flag h
  | threshold code level => exact ofPayload_toPayload_threshold h
  | cap damages amount conditions => exact ofPayload_toPayload_cap damages amount conditions
  | custom name description parameters => exact ofPayload_toPayload_custom h

theorem checked_eq_ok {x : Except Complaint Rule} {r : Rule} : checked x = .ok r ↔ x = .ok r :=
  ok_of_mapError

theorem settled_of_readFlag {p : Json} {r : Rule} (h : readFlag p = .ok r) : r.Settled := by
  have h := checked_eq_ok.mp h
  unfold ofFlag at h
  split at h
  · cases h
  · next hne =>
    cases h
    exact ⟨Bool.eq_false_iff.mpr hne, normalCode_normalCode _⟩

/-- A threshold that is read is settled, unless its level cannot be ordered. -/
theorem settled_of_readThreshold {p : Json} {r : Rule} (h : readThreshold p = .ok r)
    (hlevel : ∀ code, r ≠ threshold code .unordered) : r.Settled := by
  unfold readThreshold at h
  split at h
  · cases h
  · obtain ⟨level, -, h⟩ := bind_eq_ok.mp h
    have h := checked_eq_ok.mp h
    unfold ofThreshold at h
    split at h
    · cases h
    · next hne =>
      cases h
      refine ⟨Bool.eq_false_iff.mpr hne, normalCode_normalCode _, ?_⟩
      cases level with
      | number x => exact ⟨x, rfl⟩
      | unordered => exact absurd rfl (hlevel _)

theorem settled_of_readCap {p : Json} {r : Rule} (h : readCap p = .ok r) : r.Settled := by
  unfold readCap at h
  split at h
  · cases h
  · cases h
  · obtain ⟨amount, -, h⟩ := bind_eq_ok.mp h
    obtain ⟨damages, -, h⟩ := bind_eq_ok.mp h
    obtain ⟨conditions, -, h⟩ := bind_eq_ok.mp h
    have h := checked_eq_ok.mp h
    unfold ofCap at h
    split at h
    · cases h
      trivial
    · cases h

theorem DistinctNames.plain {ps : List (String × Json)} (hn : DistinctNames ps) :
    DistinctNames (ps.map fun e => (e.1, e.2.plain)) := by
  rw [DistinctNames, List.map_map]
  exact hn

/-- The name of a rule in words, for which a code may stand. -/
def givenName (p : Json) : String :=
  ((p.fieldD "name").orElse ((p.fieldD "code").orElse (.text ""))).plain

/-- A custom rule is read with its parameters sorted by name. -/
theorem readCustom_eq {p : Json} {ps : List (String × Json)}
    (h : (p.fieldD "parameters").orElse (.object []) = .object ps) :
    readCustom p = checked (ofCustom (Text.strip (givenName p)) (textField p "description")
      (sortedParameters (ps.map fun e => (e.1, e.2.plain)))) := by
  rw [readCustom, h]
  rfl

theorem exists_parameters_of_readCustom {p : Json} {r : Rule} (h : readCustom p = .ok r) :
    ∃ ps, (p.fieldD "parameters").orElse (.object []) = .object ps := by
  unfold readCustom at h
  split at h
  · next ps hps => exact ⟨ps, hps⟩
  · cases h

/-- An object in place of parameters is given as such, or nothing is given. -/
theorem parameters_given_or_nil {j : Json} {ps : List (String × Json)}
    (h : j.orElse (.object []) = .object ps) : j = .object ps ∨ ps = [] := by
  unfold Json.orElse at h
  split at h
  · cases h
    exact .inr rfl
  · exact .inl h

/-- A custom rule that is read is settled if its parameters have different names. -/
theorem settled_of_readCustom {p : Json} {r : Rule} (h : readCustom p = .ok r)
    (hnames : ∀ ps, p.fieldD "parameters" = .object ps → DistinctNames ps) : r.Settled := by
  obtain ⟨ps, hps⟩ := exists_parameters_of_readCustom h
  have hdistinct : DistinctNames ps := by
    rcases parameters_given_or_nil hps with hgiven | rfl
    · exact hnames ps hgiven
    · exact List.nodup_nil
  rw [readCustom_eq hps] at h
  have h := checked_eq_ok.mp h
  unfold ofCustom at h
  split at h
  · cases h
  · next hne =>
    cases h
    refine ⟨Bool.eq_false_iff.mpr hne, Text.strip_strip _, ?_, ?_⟩
    · exact hdistinct.plain.perm (sortedParameters_perm _).symm
    · exact sortedParameters_sortedParameters hdistinct.plain

/-- What is read from a payload is settled. -/
theorem settled_of_ofPayload {p : Json} {r : Rule} (h : ofPayload p = .ok r)
    (hlevel : ∀ code, r ≠ threshold code .unordered)
    (hnames : ∀ ps, p.fieldD "parameters" = .object ps → DistinctNames ps) : r.Settled := by
  rw [ofPayload_eq] at h
  obtain ⟨kind, -, h⟩ := bind_eq_ok.mp h
  cases kind with
  | flag => exact settled_of_readFlag h
  | threshold => exact settled_of_readThreshold h hlevel
  | damagesCap => exact settled_of_readCap h
  | custom => exact settled_of_readCustom h hnames

/-- Data that differ in the order of the parameters alone, whose names differ. -/
structure Reordered (p p' : Json) : Prop where
  other : ∀ key, key ≠ "parameters" → p'.fieldD key = p.fieldD key
  parameters : ∃ ps ps', p.fieldD "parameters" = .object ps ∧ p'.fieldD "parameters" = .object ps' ∧
    ps.Perm ps' ∧ DistinctNames ps

theorem Reordered.textField_eq {p p' : Json} (h : Reordered p p') {key : String}
    (hkey : key ≠ "parameters") : textField p' key = textField p key := by
  rw [textField, h.other key hkey, textField]

theorem Reordered.readCustom_eq {p p' : Json} (h : Reordered p p') :
    readCustom p' = readCustom p := by
  obtain ⟨ps, ps', hps, hps', hperm, hn⟩ := h.parameters
  have hsorted : sortedParameters (ps.map fun e => (e.1, e.2.plain)) =
      sortedParameters (ps'.map fun e => (e.1, e.2.plain)) :=
    sortedParameters_of_perm hn.plain (hperm.map _)
  have hname : givenName p' = givenName p := by
    rw [givenName, h.other "name" (by decide), h.other "code" (by decide), givenName]
  have hread := Rule.readCustom_eq (p := p) (by rw [hps, orElse_object])
  have hread' := Rule.readCustom_eq (p := p') (by rw [hps', orElse_object])
  rw [hread, hread', hname, h.textField_eq (by decide), hsorted]

/-- No reader sees the order of the parameters. -/
theorem Reordered.readAs_eq {p p' : Json} (h : Reordered p p') (kind : RuleKind) :
    readAs p' kind = readAs p kind := by
  cases kind with
  | flag =>
    show readFlag p' = readFlag p
    rw [readFlag, h.textField_eq (by decide), readFlag]
  | threshold =>
    show readThreshold p' = readThreshold p
    rw [readThreshold, h.other "threshold" (by decide), h.other "code" (by decide),
      h.textField_eq (by decide), readThreshold]
  | damagesCap =>
    show readCap p' = readCap p
    rw [readCap, h.other "damages_type" (by decide), h.other "amount" (by decide),
      h.other "conditions" (by decide), readCap]
  | custom => exact h.readCustom_eq

theorem reordered_insert {fields ps ps' : List (String × Json)}
    (h : Table.get? fields "parameters" = some (.object ps)) (hp : ps.Perm ps')
    (hn : DistinctNames ps) :
    Reordered (.object fields) (.object (Table.insert "parameters" (.object ps') fields)) where
  other key hkey := by
    show (Table.get? (Table.insert "parameters" (.object ps') fields) key).getD .null =
      (Table.get? fields key).getD .null
    rw [Table.get?_insert, if_neg (Ne.symm hkey)]
  parameters := by
    refine ⟨ps, ps', ?_, ?_, hp, hn⟩
    · show (Table.get? fields "parameters").getD .null = _
      rw [h]
      rfl
    · show (Table.get? (Table.insert "parameters" (.object ps') fields) "parameters").getD .null = _
      rw [Table.get?_insert, if_pos rfl]
      rfl

/-- A rule that is read from an object, unless its level is a text for not-a-number, reads as the same
rule and has the same data once it is written, and the parameters may be given in any order. -/
theorem ofPayload_roundTrip {fields : List (String × Json)} {r : Rule}
    (h : ofPayload (.object fields) = .ok r) (hlevel : ∀ code, r ≠ threshold code .unordered)
    (hnames : ∀ ps, Table.get? fields "parameters" = some (.object ps) → DistinctNames ps) :
    ofPayload r.toPayload = .ok r ∧
    (ofPayload r.toPayload).map toPayload = .ok r.toPayload ∧
    ∀ ps ps', Table.get? fields "parameters" = some (.object ps) → ps.Perm ps' →
      ofPayload (.object (Table.insert "parameters" (.object ps') fields)) = .ok r := by
  have hsettled : r.Settled := by
    apply settled_of_ofPayload h hlevel
    intro ps hps
    apply hnames
    cases hget : Table.get? fields "parameters" with
    | none => simp [Json.fieldD, Json.field?, hget] at hps
    | some j => simpa [Json.fieldD, Json.field?, hget] using hps
  have hread := ofPayload_toPayload hsettled
  refine ⟨hread, by rw [hread]; rfl, ?_⟩
  intro ps ps' hps hp
  have hre := reordered_insert hps hp (hnames ps hps)
  have hkind : payloadKind (.object (Table.insert "parameters" (.object ps') fields)) =
      payloadKind (.object fields) := by
    simp only [payloadKind, hre.other "kind" (by decide)]
  rw [ofPayload_eq, hkind, funext hre.readAs_eq, ← ofPayload_eq, h]

/-- A rule in words with a padded name and parameters out of order. -/
def writtenNotice : List (String × Json) :=
  [("kind", "custom"), ("name", " Notice of claim "),
    ("parameters", .object [("within_days", 30), ("form", "written")])]

/-- A custom rule whose parameters are listed in either order. -/
theorem ofPayload_roundTrip_writtenNotice : ∃ r, ofPayload (.object writtenNotice) = .ok r ∧
    ofPayload r.toPayload = .ok r ∧
    ofPayload (.object (Table.insert "parameters"
      (.object [("form", "written"), ("within_days", 30)]) writtenNotice)) = .ok r := by
  obtain ⟨r, h⟩ := exists_of_isOk (x := ofPayload (.object writtenNotice)) (by decide +kernel)
  have hkind : (ofPayload (.object writtenNotice)).toOption.map kind = some .custom := by
    decide +kernel
  rw [h] at hkind
  have hlevel : ∀ code, r ≠ threshold code .unordered := by
    rintro code rfl
    cases hkind
  have hparameters : Table.get? writtenNotice "parameters" =
      some (.object [("within_days", 30), ("form", "written")]) := rfl
  have hnames : ∀ ps, Table.get? writtenNotice "parameters" = some (.object ps) →
      DistinctNames ps := by
    intro ps hps
    rw [hparameters] at hps
    cases hps
    unfold DistinctNames
    decide +kernel
  obtain ⟨hread, -, hreorder⟩ := ofPayload_roundTrip h hlevel hnames
  exact ⟨r, h, hread, hreorder _ _ hparameters (List.Perm.swap _ _ _)⟩

end ComparativeLaw.Rule

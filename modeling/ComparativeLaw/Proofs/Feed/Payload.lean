import ComparativeLaw.Feed.RuleRecord
import ComparativeLaw.Proofs.Number.Reading
import ComparativeLaw.Proofs.Rule.Payload
import ComparativeLaw.Proofs.Schema.Reading

namespace ComparativeLaw

open Checked

namespace Schema

variable {j : Json} {o : Fields}

theorem items_text_eq_ok {ss : List String} (h : items text j = .ok ss) :
    j = .list (ss.map Json.text) := by
  obtain ⟨js, rfl, hall⟩ := items_eq_ok.mp h
  clear h
  induction hall with
  | nil => rfl
  | @cons j s _ _ hj _ ih =>
    have hj : j = .text s := by
      cases j with
      | text t => cases hj; rfl
      | _ => cases hj
    rw [hj, List.map_cons, Json.list.injEq, List.cons_inj_right]
    exact Json.list.inj ih

theorem entries_text_anything_eq_ok {ps : List (String × Json)}
    (h : entries text anything o = .ok ps) : ps = o := by
  induction o generalizing ps with
  | nil =>
    cases h
    rfl
  | cons e o ih =>
    rw [entries] at h
    obtain ⟨-, h⟩ := gather_eq_ok.mp h
    obtain ⟨key, hkey, h⟩ := bind_eq_ok.mp h
    obtain ⟨value, hvalue, h⟩ := bind_eq_ok.mp h
    obtain ⟨rest, hrest, h⟩ := bind_eq_ok.mp h
    cases hkey
    cases hvalue
    cases h
    rw [ih hrest]

theorem mapping_text_anything_eq_ok {ps : List (String × Json)}
    (h : mapping text anything j = .ok ps) : j = .object ps := by
  cases j with
  | object o => rw [entries_text_anything_eq_ok h]
  | _ => cases h

theorem member_eq_ok {α : Type} [Vocabulary α] {a : α} (h : member α j = .ok a) :
    ∃ s, j = .text s ∧ Vocabulary.ofCode? s = some a := by
  cases j with
  | text s =>
    refine ⟨s, rfl, ?_⟩
    simp only [member, wellFormed] at h
    split at h
    · cases h
    · split at h
      · next ha =>
        cases h
        exact ha
      · cases h
  | _ => cases h

/-- Fields that the schema does not know are none. -/
theorem get?_of_extras {known : List String} {name : String} (h : extras known o = [])
    (hname : name ∉ known) : Table.get? o name = none := by
  cases hget : Table.get? o name with
  | none => rfl
  | some j =>
    have hmem : (name, j) ∈ o := Table.mem_of_get? hget
    have hfilter : (o.filter fun e => !known.contains e.1) = [] := List.map_eq_nil_iff.mp h
    have hextra : (!known.contains name) = true := by simpa using hname
    exact absurd hextra (List.filter_eq_nil_iff.mp hfilter _ hmem)

theorem natural_eq_ok {n : Nat} (h : natural j = .ok n) : integer j = .ok n := by
  obtain ⟨i, hi, h⟩ := bind_eq_ok.mp h
  cases i with
  | ofNat n =>
    cases h
    exact hi
  | negSucc n => cases h

theorem truncated_of_integerOfFloat {x : Float} {n : Int} (h : integerOfFloat x = .ok n) :
    Json.truncated x = .ok n := by
  have hwhole : truncate? x = some n := by
    unfold integerOfFloat at h
    unfold truncate?
    generalize Printed.ofFloat x = p at h ⊢
    cases p with
    | nan => cases h
    | infinite negative => cases h
    | zero negative =>
      cases h
      rfl
    | positive negative m =>
      simp only at h
      split at h
      · cases h
      · split at h
        · cases h
        · cases h
          rfl
  rw [Json.truncated, hwhole]

theorem wellFormed_text_eq_ok {α : Type} (flaw : Flaw) {read : String → Checked α} {s : String}
    {a : α} (h : wellFormed flaw read (.text s) = .ok a) : read s = .ok a := by
  unfold wellFormed at h
  simp only at h
  split at h
  · cases h
  · exact h

/-- Whether a value is a text that no whole number is read from. -/
def NoInteger (j : Json) : Prop := ∃ s, j = .text s ∧ ∀ n, Text.readInteger s ≠ .ok n

/-- Whether a value is a text that no number is read from. -/
def NoNumber (j : Json) : Prop := ∃ s, j = .text s ∧ Numeral.read? s = none

/-- What the schema takes for an integer is converted to it, unless it is a text that is misread. -/
theorem toInt_of_integer {n : Int} (h : integer j = .ok n) (hj : ¬ NoInteger j) :
    j.toInt = .ok n := by
  cases j with
  | bool b =>
    cases h
    rfl
  | int m =>
    cases h
    rfl
  | float x => exact truncated_of_integerOfFloat h
  | text s =>
    have h : integerOfText s = .ok n := wellFormed_text_eq_ok .intType h
    cases hread : Text.readInteger s with
    | ok m => rw [Json.toInt, hread, readInteger_eq h hread]
    | error trouble =>
      refine absurd ⟨s, rfl, fun m hm => ?_⟩ hj
      rw [hread] at hm
      cases hm
  | _ => cases h

/-- A text that is no integer is complained about. -/
theorem toInt_of_noInteger (hj : NoInteger j) : ∃ c, j.toInt = .error (.complaint c) := by
  obtain ⟨s, rfl, hread⟩ := hj
  rw [Json.toInt]
  split
  · next n hn => exact absurd hn (hread n)
  · exact ⟨_, rfl⟩
  · exact ⟨_, rfl⟩

/-- What the schema takes for a number is converted to it, unless it is a text that is misread. -/
theorem toFloat_of_number {x : Float} (h : number j = .ok x) (hj : ¬ NoNumber j) :
    j.toFloat = .ok x := by
  cases j with
  | bool b =>
    cases h
    rfl
  | int n =>
    rw [Json.toFloat]
    unfold number at h
    simp only at h ⊢
    split at h
    · next hfinite =>
      rw [if_pos hfinite]
      cases h
      rfl
    · cases h
  | float y =>
    cases h
    rfl
  -- Only a text is read in two ways, and both readings agree where both succeed.
  | text s =>
    have h : numberOfText s = .ok x := wellFormed_text_eq_ok .floatType h
    unfold numberOfText at h
    split at h
    · next n hn =>
      cases hread : Numeral.read? s with
      | some m =>
        cases h
        rw [Json.toFloat, hread, Numeral.read?_eq hn hread]
      | none => exact absurd ⟨s, rfl, hread⟩ hj
    · cases h
  | _ => cases h

theorem toFloat_of_noNumber (hj : NoNumber j) : ∃ c, j.toFloat = .error (.complaint c) := by
  obtain ⟨s, rfl, hread⟩ := hj
  rw [Json.toFloat, hread]
  exact ⟨_, rfl⟩

end Schema

namespace Feed.Payload

open Schema

variable {o : Fields} {p : Payload}

/-- Whether the fields give a number by a text that no number is read from. -/
def Misread (o : Fields) : Prop :=
  (∃ j, Table.get? o "threshold" = some j ∧ NoNumber j) ∨
    ∃ j, Table.get? o "amount" = some j ∧ NoInteger j

/-- Fields of which a rule's data make the rule that the payload stands for, or its complaint; if a
number is misread, they make a complaint in any case. -/
structure Converts (kind : RuleKind) (o : Fields) (p : Payload) : Prop where
  agrees : ¬ Misread o → Rule.readAs (.object o) kind = Rule.checked p.rule
  misread : Misread o → ∃ c, Rule.readAs (.object o) kind = .error (.complaint c)

/-- A payload is converted if the value that may be misread is. -/
theorem Converts.of_bind {α : Type} {kind : RuleKind} {x : Except Fault α} {a : α}
    {f : α → Except Fault Rule} (hread : Rule.readAs (.object o) kind = x >>= f)
    (hclear : ¬ Misread o → x = .ok a) (hbad : Misread o → ∃ c, x = .error (.complaint c))
    (ha : f a = Rule.checked p.rule) : Converts kind o p where
  agrees h := by
    rw [hread, hclear h, ← ha]
    rfl
  misread h := by
    obtain ⟨c, hc⟩ := hbad h
    exact ⟨c, by rw [hread, hc]; rfl⟩

/-- Where no number is given, none is misread. -/
theorem Converts.of_extras {kind : RuleKind} {known : List String} (h : extras known o = [])
    (hthreshold : "threshold" ∉ known) (hamount : "amount" ∉ known)
    (hread : Rule.readAs (.object o) kind = Rule.checked p.rule) : Converts kind o p where
  agrees _ := hread
  misread := by
    rintro (⟨j, hj, -⟩ | ⟨j, hj, -⟩)
    · rw [get?_of_extras h hthreshold] at hj
      cases hj
    · rw [get?_of_extras h hamount] at hj
      cases hj

theorem misread_threshold {j : Json} (hj : Table.get? o "threshold" = some j)
    (hnone : Table.get? o "amount" = none) : Misread o ↔ NoNumber j := by
  simp [Misread, hj, hnone]

theorem misread_amount {j : Json} (hj : Table.get? o "amount" = some j)
    (hnone : Table.get? o "threshold" = none) : Misread o ↔ NoInteger j := by
  simp [Misread, hj, hnone]

theorem fieldD_object {name : String} {j : Json} (h : Table.get? o name = some j) :
    (Json.object o).fieldD name = j := by
  rw [Json.fieldD, Json.field?, h, Option.getD_some]

theorem textField_of_required {name s : String} (h : required nonEmptyText o name = .ok s) :
    Rule.textField (.object o) name = s := by
  obtain ⟨j, hj, hs⟩ := required_eq_ok.mp h
  obtain ⟨rfl, -, -⟩ := nonEmptyText_eq_ok.mp hs
  exact Rule.textField_of_text (fieldD_object hj)

/-- A flag has nothing that can be misread. -/
theorem converts_flag (h : readFlag o = .ok p) : Converts .flag o p := by
  obtain ⟨hparts, h⟩ := gather_eq_ok.mp h
  obtain ⟨code, hcode, h⟩ := bind_eq_ok.mp h
  cases h
  have hextras : extras ["kind", "code"] o = [] := hparts _ (by simp)
  apply Converts.of_extras hextras (by decide) (by decide)
  rw [Rule.readAs, Rule.readFlag, textField_of_required hcode, rule]

/-- A threshold is read as the level that the schema reads. -/
theorem ofJson_of_readLevel {j : Json} {level : Level} (h : readLevel j = .ok level)
    (hj : ¬ NoNumber j) : Level.ofJson j = .ok level := by
  unfold readLevel at h
  unfold Level.ofJson
  split at h
  · obtain ⟨x, hx, rfl⟩ := map_eq_ok.mp h
    simp only [toFloat_of_number hx hj]
    rfl
  · obtain ⟨x, hx, rfl⟩ := map_eq_ok.mp h
    simp only [toFloat_of_number hx hj]
    rfl

theorem ofJson_of_noNumber {j : Json} (hj : NoNumber j) :
    ∃ c, Level.ofJson j = .error (.complaint c) := by
  obtain ⟨c, hc⟩ := toFloat_of_noNumber hj
  obtain ⟨s, rfl, -⟩ := hj
  refine ⟨c, ?_⟩
  simp only [Level.ofJson, hc]
  rfl

/-- A threshold is converted unless its level is misread. -/
theorem converts_threshold (h : readThreshold o = .ok p) : Converts .threshold o p := by
  obtain ⟨hparts, h⟩ := gather_eq_ok.mp h
  obtain ⟨code, hcode, h⟩ := bind_eq_ok.mp h
  obtain ⟨level, hlevel, h⟩ := bind_eq_ok.mp h
  cases h
  obtain ⟨j, hj, hread⟩ := required_eq_ok.mp hlevel
  have hextras : extras ["kind", "code", "threshold"] o = [] := hparts _ (by simp)
  have hnone : Table.get? o "amount" = none := get?_of_extras hextras (by decide)
  have hnull : j ≠ .null := by
    rintro rfl
    cases hread
  have hrun : Rule.readAs (.object o) .threshold = (Level.ofJson j >>= fun level =>
      Rule.checked (Rule.ofThreshold (Rule.normalCode code) level)) := by
    rw [Rule.readAs, Rule.readThreshold, fieldD_object hj, textField_of_required hcode]
    split
    · exact absurd rfl hnull
    · rfl
  have hmisread := misread_threshold hj hnone
  apply Converts.of_bind hrun
  · exact fun hclear => ofJson_of_readLevel hread (mt hmisread.mpr hclear)
  · exact fun hbad => ofJson_of_noNumber (hmisread.mp hbad)
  · rfl

/-- A cap is converted unless its amount is misread. -/
theorem converts_cap (h : readCap o = .ok p) : Converts .damagesCap o p := by
  obtain ⟨hparts, h⟩ := gather_eq_ok.mp h
  obtain ⟨damages, hdamages, h⟩ := bind_eq_ok.mp h
  obtain ⟨amount, hamount, h⟩ := bind_eq_ok.mp h
  obtain ⟨conditions, hconditions, h⟩ := bind_eq_ok.mp h
  cases h
  obtain ⟨_, hd, hread⟩ := required_eq_ok.mp hdamages
  obtain ⟨s, rfl, hcode⟩ := member_eq_ok hread
  obtain ⟨j, hj, hnatural⟩ := required_eq_ok.mp hamount
  have hextras : extras ["kind", "damages_type", "amount", "conditions"] o = [] :=
    hparts _ (by simp)
  have hnone : Table.get? o "threshold" = none := get?_of_extras hextras (by decide)
  -- What the schema accepts as a natural number is no null, which the plain reader would default.
  have hinteger : integer j = .ok amount := natural_eq_ok hnatural
  have hnull : j ≠ .null := by
    rintro rfl
    cases hinteger
  have hmember : (Json.text s).toMember = .ok damages := by
    rw [Json.toMember, hcode]
  have hitems : ((Json.object o).fieldD "conditions").orElse (.list []) =
      .list (conditions.map Json.text) := by
    rcases defaulted_eq_ok.mp hconditions with ⟨l, hl, hitems⟩ | ⟨habsent, rfl⟩
    · rw [fieldD_object hl, items_text_eq_ok hitems, Rule.orElse_list]
    · rw [Json.fieldD, Json.field?, habsent]
      rfl
  have hrun : Rule.readAs (.object o) .damagesCap = (j.toInt >>= fun amount =>
      Rule.checked (Rule.ofCap damages amount (conditions.map Json.text))) := by
    rw [Rule.readAs, Rule.readCap, fieldD_object hd, fieldD_object hj, hitems]
    split
    · next hbad => cases hbad
    · next hbad => exact absurd rfl hnull
    · simp only [hmember]
      rfl
  have hmisread := misread_amount hj hnone
  apply Converts.of_bind hrun
  · exact fun hclear => toInt_of_integer hinteger (mt hmisread.mpr hclear)
  · exact fun hbad => toInt_of_noInteger (hmisread.mp hbad)
  · rfl

/-- A custom rule has nothing that can be misread. -/
theorem converts_custom (h : readCustom o = .ok p) : Converts .custom o p := by
  obtain ⟨hparts, h⟩ := gather_eq_ok.mp h
  obtain ⟨name, hname, h⟩ := bind_eq_ok.mp h
  obtain ⟨description, hdescription, h⟩ := bind_eq_ok.mp h
  obtain ⟨parameters, hparameters, h⟩ := bind_eq_ok.mp h
  cases h
  have hextras : extras ["kind", "name", "description", "parameters"] o = [] :=
    hparts _ (by simp)
  have hgiven : Rule.givenName (.object o) = name := by
    obtain ⟨_, hj, hread⟩ := required_eq_ok.mp hname
    obtain ⟨rfl, -, hne⟩ := nonEmptyText_eq_ok.mp hread
    -- The name is not empty, so that the code is not looked for.
    have hfirst (fallback : Json) : (Json.text name).orElse fallback = .text name := by
      rw [Json.orElse, Json.isVoid, if_neg (mt String.isEmpty_iff.mp hne)]
    rw [Rule.givenName, fieldD_object hj, hfirst]
    rfl
  have htext : Rule.textField (.object o) "description" = description := by
    rcases defaulted_eq_ok.mp hdescription with ⟨j, hj, hread⟩ | ⟨habsent, rfl⟩
    · cases j with
      | text s =>
        cases hread
        exact Rule.textField_of_text (fieldD_object hj)
      | _ => cases hread
    · rw [Rule.textField, Json.fieldD, Json.field?, habsent]
      rfl
  have hobject : ((Json.object o).fieldD "parameters").orElse (.object []) =
      .object parameters := by
    rcases defaulted_eq_ok.mp hparameters with ⟨j, hj, hread⟩ | ⟨habsent, rfl⟩
    · rw [fieldD_object hj, mapping_text_anything_eq_ok hread, Rule.orElse_object]
    · rw [Json.fieldD, Json.field?, habsent]
      rfl
  apply Converts.of_extras hextras (by decide) (by decide)
  rw [Rule.readAs, Rule.readCustom_eq hobject, hgiven, htext, rule]

/-- Reading the fields of one kind. -/
def readAs : RuleKind → Fields → Checked Payload
  | .flag => readFlag
  | .threshold => readThreshold
  | .damagesCap => readCap
  | .custom => readCustom

/-- A payload of the schema is read by the model of its tag. -/
theorem ofFields_eq_ok (h : ofFields o = .ok p) : ∃ tag kind,
    Table.get? o "kind" = some (.text tag) ∧ Vocabulary.ofCode? tag = some kind ∧
      readAs kind o = .ok p := by
  unfold ofFields at h
  split at h
  · cases h
  · next tag htag =>
    simp only at h
    split at h
    · next read hread =>
      have hobject : object .modelType read (.object o) = .ok p := under_eq_ok.mp h
      obtain ⟨_, ⟨⟩, -, hp⟩ := object_eq_ok.mp hobject
      split at hread
      · next hkind =>
        cases hread
        exact ⟨tag, .flag, htag, hkind, hp⟩
      · next hkind =>
        cases hread
        exact ⟨tag, .threshold, htag, hkind, hp⟩
      · next hkind =>
        cases hread
        exact ⟨tag, .damagesCap, htag, hkind, hp⟩
      · next hkind =>
        cases hread
        exact ⟨tag, .custom, htag, hkind, hp⟩
      · cases hread
    · cases h
  · cases h

/-- A payload that the schema accepts is read from its data as the same rule, or fails for the same
reason, unless a number is given by a text that only the schema reads: then the data fail. -/
theorem ofPayload_of_ofFields (h : ofFields o = .ok p) :
    (¬ Misread o → Rule.ofPayload (.object o) = Rule.checked p.rule) ∧
      (Misread o → ∃ c, Rule.ofPayload (.object o) = .error (.complaint c)) := by
  obtain ⟨tag, kind, htag, hkind, hread⟩ := ofFields_eq_ok h
  have hnamed : Rule.payloadKind (.object o) = .ok kind := by
    rw [Rule.payloadKind, fieldD_object htag, Json.toMember, hkind]
  have hrun : Rule.ofPayload (.object o) = Rule.readAs (.object o) kind := by
    rw [Rule.ofPayload_eq, hnamed]
    rfl
  have hconverts : Converts kind o p := by
    cases kind with
    | flag => exact converts_flag hread
    | threshold => exact converts_threshold hread
    | damagesCap => exact converts_cap hread
    | custom => exact converts_custom hread
  rw [hrun]
  exact ⟨hconverts.agrees, hconverts.misread⟩

/-- A cap with a text for its amount. -/
def capOf (amount : String) : Fields :=
  [("kind", "damages_cap"), ("damages_type", "punitive"), ("amount", .text amount)]

/-- An amount with blanks, a sign, a zero and an underscore is read by both sides. -/
theorem ofPayload_of_ofFields_padded : ∃ p, ofFields (capOf " +0_12 ") = .ok p ∧
    Rule.ofPayload (.object (capOf " +0_12 ")) = Rule.checked p.rule ∧
    Rule.checked p.rule = .ok (.cap .punitive 12 []) := by
  have hread : ofFields (capOf " +0_12 ") = .ok (.cap .punitive 12 []) := by rfl
  have hinteger : Text.readInteger " +0_12 " = .ok 12 := by rfl
  have hclear : ¬ Misread (capOf " +0_12 ") := by
    rw [misread_amount rfl rfl]
    rintro ⟨_, ⟨⟩, hnone⟩
    exact hnone 12 hinteger
  exact ⟨_, hread, (ofPayload_of_ofFields hread).1 hclear, rfl⟩

/-- Of an amount with a point a schema reads twelve and a conversion nothing. -/
theorem ofPayload_refuses_pointed : ofFields (capOf "12.0") = .ok (.cap .punitive 12 []) ∧
    rule (.cap .punitive 12 []) = .ok (.cap .punitive 12 []) ∧
    ∃ c, Rule.ofPayload (.object (capOf "12.0")) = .error (.complaint c) := by
  have hread : ofFields (capOf "12.0") = .ok (.cap .punitive 12 []) := by rfl
  exact ⟨hread, rfl, _, rfl⟩

end Feed.Payload
end ComparativeLaw

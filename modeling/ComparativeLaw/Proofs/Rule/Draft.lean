import ComparativeLaw.Proofs.Rule.Payload
import ComparativeLaw.Rule.Draft

/-!
Drafts and their data. A draft is checked as it is written, while its data are trimmed when they are
read again. So a draft that passes the check always has data, and these are refused as the draft
with its code trimmed would be: a code made of blanks is enough for the one and not for the other.
-/
namespace ComparativeLaw

open Checked

theorem Text.strip_eq_empty {s : String} : strip s = "" ↔ isBlankText s = true := by
  rw [strip, String.ofList_eq_empty_iff, trimBy_eq_nil, isBlankText]

theorem Text.lower_eq_empty {s : String} : lower s = "" ↔ s = "" := by
  rw [lower, String.ofList_eq_empty_iff, lowerChars]
  constructor
  · intro h
    cases hs : s.toList with
    | nil => exact String.toList_eq_nil_iff.mp hs
    | cons c cs =>
      rw [hs, lowerFrom] at h
      exact absurd (List.append_eq_nil_iff.mp h).1 (lowerIn_ne_nil false c cs)
  · rintro rfl
    rfl

namespace Rule

/-- A code is empty in its normal form if it is blank. -/
theorem normalCode_eq_empty {code : String} :
    normalCode code = "" ↔ Text.isBlankText code = true := by
  rw [normalCode, Text.lower_eq_empty, Text.strip_eq_empty]

theorem isEmpty_normalCode (code : String) :
    (normalCode code).isEmpty = Text.isBlankText code := by
  rw [Bool.eq_iff_iff, String.isEmpty_iff, normalCode_eq_empty]

theorem isEmpty_strip (s : String) : (Text.strip s).isEmpty = Text.isBlankText s := by
  rw [Bool.eq_iff_iff, String.isEmpty_iff, Text.strip_eq_empty]

namespace Draft

/-- The code and the parameters are texts, and an amount is a whole number, if there is one. -/
structure TextFields (d : Draft) : Prop where
  code : ∃ s, d.code = .text s
  parameters : ∃ ps : List (String × String),
    d.parameters = ps.map fun p => .list [.text p.1, .text p.2]
  amount : d.amount = .null ∨ (∃ n, d.amount = .int n) ∨ ∃ b, d.amount = .bool b

/-- The draft with blanks dropped from both ends of its code. -/
def trimmed (d : Draft) : Draft := { d with code := .text (Text.strip d.code.plain) }

/-- What the data of a draft go through when they are read: a level becomes a double, and then the
code is looked at without its blanks. -/
def recheck (d : Draft) : Except Fault Unit := do
  if d.kind = .threshold then let _ ← d.threshold.toFloat
  d.trimmed.check

/-- Whether the data of a draft that passes the check can be read again. -/
def Readable (d : Draft) : Prop :=
  match d.kind with
  | .flag | .custom => Text.isBlankText d.code.plain = false
  | .threshold => Text.isBlankText d.code.plain = false ∧ ∃ x, d.threshold.toFloat = .ok x
  | .damagesCap => True

/-- Trimming voids a code of blanks. -/
theorem isVoid_trimmed (d : Draft) : d.trimmed.code.isVoid = Text.isBlankText d.code.plain :=
  isEmpty_strip d.code.plain

/-- Data that are read as a rule of a kind if a check passes, and else are refused like it. -/
structure ReadLike (p : Json) (kind : RuleKind) (check : Except Fault Unit) : Prop where
  outcome : (ofPayload p).map (fun _ => ()) = check
  kind_eq : ∀ r, ofPayload p = .ok r → r.kind = kind

section Kinds

variable {p : Json} {kind : RuleKind}

theorem ReadLike.of_error {e : Fault} (h : ofPayload p = .error e) :
    ReadLike p kind (.error e) where
  outcome := by
    rw [h]
    rfl
  kind_eq r hr := by
    rw [h] at hr
    cases hr

/-- The shapes but for the cap are refused for one reason only. -/
theorem ReadLike.of_checked {lacks : Bool} {c : Complaint} {r : Rule}
    (h : ofPayload p = checked (if lacks then .error c else .ok r)) (hkind : r.kind = kind) :
    ReadLike p kind (if lacks then refuse c else .ok ()) := by
  cases lacks with
  | true => exact .of_error h
  | false =>
    constructor
    · rw [h]
      rfl
    · intro r' hr'
      rw [h] at hr'
      cases hr'
      exact hkind

/-- A payload is read by the reader of its kind. -/
theorem ofPayload_of_kind (h : payloadKind p = .ok kind) : ofPayload p = readAs p kind := by
  rw [ofPayload_eq, h]
  rfl

/-- A flag is refused for a blank code and for nothing else. -/
theorem readLike_flag {code : String} (hkind : payloadKind p = .ok .flag)
    (hcode : p.fieldD "code" = .text code) :
    ReadLike p .flag (if Text.isBlankText code then refuse .flagCode else .ok ()) := by
  apply ReadLike.of_checked (r := .flag (normalCode code))
  · rw [ofPayload_of_kind hkind, readAs, readFlag, textField_of_text hcode, ofFlag,
      isEmpty_normalCode]
  · rfl

/-- What stands for a double stands for a level. -/
theorem exists_ofJson_eq (j : Json) : ∃ f, Level.ofJson j = j.toFloat.map f := by
  cases j with
  | text s => exact ⟨Level.ofRead, rfl⟩
  | _ => exact ⟨Level.number, rfl⟩

theorem readThreshold_eq {level : Json} (hlevel : p.fieldD "threshold" = level)
    (hne : level ≠ .null) : readThreshold p =
      Level.ofJson level >>= fun l => checked (ofThreshold (normalCode (textField p "code")) l) := by
  subst hlevel
  unfold readThreshold
  split
  · next h => exact absurd h hne
  · rfl

/-- A threshold is refused for what is no number, then for a blank code. -/
theorem readLike_threshold {code : String} {level : Json}
    (hkind : payloadKind p = .ok .threshold) (hcode : p.fieldD "code" = .text code)
    (hlevel : p.fieldD "threshold" = level) (hne : level ≠ .null) :
    ReadLike p .threshold (level.toFloat >>= fun _ =>
      if Text.isBlankText code then refuse .thresholdCode else .ok ()) := by
  have hread : ofPayload p = Level.ofJson level >>= fun l =>
      checked (ofThreshold (normalCode code) l) := by
    rw [ofPayload_of_kind hkind, readAs, readThreshold_eq hlevel hne, textField_of_text hcode]
  obtain ⟨f, hf⟩ := exists_ofJson_eq level
  rw [hf] at hread
  cases hx : level.toFloat with
  | error e =>
    apply ReadLike.of_error
    rw [hread, hx]
    rfl
  | ok x =>
    have hlevel : ofPayload p = checked (ofThreshold (normalCode code) (f x)) := by
      simp only [hread, hx, Except.map, bind, Except.bind]
    show ReadLike p .threshold (if Text.isBlankText code then refuse .thresholdCode else .ok ())
    apply ReadLike.of_checked (r := .threshold (normalCode code) (f x))
    · rw [hlevel, ofThreshold, isEmpty_normalCode]
    · rfl

/-- A cap with a natural amount is not refused. -/
theorem readLike_cap {damages : DamagesType} {amount : Json} {n : Nat} {conditions : List Json}
    (hkind : payloadKind p = .ok .damagesCap)
    (hdamages : p.fieldD "damages_type" = .text damages.code)
    (hamount : p.fieldD "amount" = amount) (hn : amount.toInt = .ok (n : Int))
    (hconditions : p.fieldD "conditions" = .list conditions) :
    ReadLike p .damagesCap (.ok ()) := by
  have hread : ofPayload p = .ok (.cap damages n conditions) := by
    have hnull : amount ≠ .null := by
      rintro rfl
      cases hn
    rw [ofPayload_of_kind hkind, readAs, readCap, hdamages, hamount, hconditions, orElse_list]
    simp only [hn, toMember_code]
    rfl
  constructor
  · rw [hread]
    rfl
  · intro r hr
    rw [hread] at hr
    cases hr
    rfl

/-- A custom rule is refused for a blank name. -/
theorem readLike_custom {name : String} {ps : List (String × Json)}
    (hkind : payloadKind p = .ok .custom) (hname : p.fieldD "name" = .text name)
    (hne : name.isEmpty = false) (hparameters : p.fieldD "parameters" = .object ps) :
    ReadLike p .custom (if Text.isBlankText name then refuse .customName else .ok ()) := by
  have hgiven : givenName p = name := by
    rw [givenName, hname, Json.orElse, Json.isVoid, hne]
    rfl
  apply ReadLike.of_checked (r := .custom (Text.strip name) (textField p "description")
    (sortedParameters (ps.map fun e => (e.1, e.2.plain))))
  · rw [ofPayload_of_kind hkind, readAs, readCustom_eq (by rw [hparameters, orElse_object]), hgiven,
      ofCustom, isEmpty_strip]
  · rfl

end Kinds

variable {d : Draft}

theorem entriesFrom_texts (position : Nat) (ps : List (String × String)) :
    entriesFrom position (ps.map fun p => .list [.text p.1, .text p.2]) =
      .ok (ps.map fun p => (.text p.1, .text p.2)) := by
  induction ps generalizing position with
  | nil => rfl
  | cons p ps ih =>
    rw [List.map_cons, entriesFrom, ih]
    rfl

/-- An amount that is not below zero is a natural number. -/
theorem exists_toInt_eq {amount : Json} (hne : amount ≠ .null)
    (ha : amount = .null ∨ (∃ n, amount = .int n) ∨ ∃ b, amount = .bool b)
    (hb : amount.belowZero = .ok false) : ∃ n : Nat, amount.toInt = .ok (n : Int) := by
  rcases ha with h | ⟨n, rfl⟩ | ⟨b, rfl⟩
  · exact absurd h hne
  · have hn : 0 ≤ n := by
      have hlt : decide (n < 0) = false := Except.ok.inj hb
      simpa using hlt
    exact ⟨n.toNat, congrArg Except.ok (Int.toNat_of_nonneg hn).symm⟩
  · cases b with
    | true => exact ⟨1, rfl⟩
    | false => exact ⟨0, rfl⟩

theorem exists_damages_of_check (hk : d.kind = .damagesCap) (hc : d.check = .ok ()) :
    ∃ damages, d.damages = some damages := by
  cases hdamages : d.damages with
  | none =>
    simp only [check, hk, hdamages] at hc
    cases hc
  | some damages => exact ⟨damages, rfl⟩

/-- The amount of a checked cap is a natural number. -/
theorem exists_amount_of_check (hk : d.kind = .damagesCap) (ht : d.TextFields)
    (hc : d.check = .ok ()) : ∃ n : Nat, d.amount.toInt = .ok (n : Int) := by
  obtain ⟨damages, hdamages⟩ := exists_damages_of_check hk hc
  simp only [check, hk, hdamages] at hc
  split at hc
  · next h => cases h
  · cases hc
  · next hne =>
    obtain ⟨below, hbelow, hc⟩ := bind_eq_ok.mp hc
    cases below with
    | true => cases hc
    | false => exact exists_toInt_eq (by simpa using hne) ht.amount hbelow

theorem threshold_ne_null_of_check (hk : d.kind = .threshold) (hc : d.check = .ok ()) :
    d.threshold ≠ .null := by
  intro hnull
  simp only [check, hk, hnull] at hc
  split at hc <;> cases hc

theorem code_not_void_of_check (hk : d.kind = .custom) (hc : d.check = .ok ()) :
    d.code.isVoid = false := by
  simp only [check, hk] at hc
  split at hc
  · cases hc
  · next h => exact Bool.eq_false_iff.mpr h

theorem recheck_of_ne_threshold (h : d.kind ≠ .threshold) : d.recheck = d.trimmed.check := by
  rw [recheck, if_neg h]

theorem recheck_of_flag (hk : d.kind = .flag) :
    d.recheck = if Text.isBlankText d.code.plain then refuse .flagCode else .ok () := by
  have hkind : d.trimmed.kind = .flag := hk
  rw [recheck_of_ne_threshold (by simp [hk])]
  simp only [check, hkind, isVoid_trimmed]

theorem recheck_of_threshold (hk : d.kind = .threshold) (hc : d.check = .ok ()) :
    d.recheck = d.threshold.toFloat >>= fun _ =>
      if Text.isBlankText d.code.plain then refuse .thresholdCode else .ok () := by
  have hcheck : d.trimmed.check =
      if Text.isBlankText d.code.plain then refuse .thresholdCode else .ok () := by
    have hkind : d.trimmed.kind = .threshold := hk
    -- trimming the code leaves the level as the first check has seen it
    have hlevel : d.threshold ≠ .null := threshold_ne_null_of_check hk hc
    have hne : d.trimmed.threshold ≠ .null := hlevel
    simp only [check, hkind, isVoid_trimmed]
  rw [recheck, if_pos hk, hcheck]

/-- The second check finds nothing wrong with a cap that passed the first one. -/
theorem recheck_of_cap (hk : d.kind = .damagesCap) (hc : d.check = .ok ()) :
    d.recheck = .ok () := by
  rw [recheck_of_ne_threshold (by simp [hk]), ← hc]
  simp only [check, trimmed, hk]

theorem recheck_of_custom (hk : d.kind = .custom) :
    d.recheck = if Text.isBlankText d.code.plain then refuse .customName else .ok () := by
  have hkind : d.trimmed.kind = .custom := hk
  rw [recheck_of_ne_threshold (by simp [hk])]
  simp only [check, hkind, isVoid_trimmed]

theorem ite_refuse_eq_ok {lacks : Bool} {c : Complaint} :
    (if lacks then refuse c else .ok () : Except Fault Unit) = .ok () ↔ lacks = false := by
  cases lacks with
  | true => exact ⟨nofun, nofun⟩
  | false => exact ⟨fun _ => rfl, fun _ => rfl⟩

/-- The second check passes exactly the drafts that can be read. -/
theorem recheck_eq_ok (hc : d.check = .ok ()) : d.recheck = .ok () ↔ d.Readable := by
  cases hk : d.kind with
  | flag => rw [recheck_of_flag hk, ite_refuse_eq_ok, Readable, hk]
  | threshold =>
    rw [recheck_of_threshold hk hc, bind_eq_ok, Readable, hk]
    simp only [ite_refuse_eq_ok]
    exact ⟨fun ⟨x, hx, hcode⟩ => ⟨hcode, x, hx⟩, fun ⟨hcode, x, hx⟩ => ⟨x, hx, hcode⟩⟩
  | damagesCap => exact iff_of_true (recheck_of_cap hk hc) (by rw [Readable, hk]; trivial)
  | custom => rw [recheck_of_custom hk, ite_refuse_eq_ok, Readable, hk]

/-- The data of a draft that passes the check are read as the second check goes. -/
theorem readLike_payload (ht : d.TextFields) (hc : d.check = .ok ()) :
    ∃ p, d.payload = .ok p ∧ ReadLike p d.kind d.recheck := by
  obtain ⟨code, hcode⟩ := ht.code
  have hplain : d.code.plain = code := congrArg Json.plain hcode
  -- Each kind writes the fields of its own, and its reader reads them.
  cases hk : d.kind with
  | flag =>
    refine ⟨.object [("kind", "flag"), ("code", d.code)], by simp only [payload, hk]; rfl, ?_⟩
    rw [recheck_of_flag hk, hplain]
    exact readLike_flag rfl hcode
  | threshold =>
    refine ⟨.object [("kind", "threshold"), ("code", d.code), ("threshold", d.threshold)],
      by simp only [payload, hk]; rfl, ?_⟩
    rw [recheck_of_threshold hk hc, hplain]
    exact readLike_threshold rfl hcode rfl (threshold_ne_null_of_check hk hc)
  | damagesCap =>
    obtain ⟨damages, hdamages⟩ := exists_damages_of_check hk hc
    obtain ⟨n, hn⟩ := exists_amount_of_check hk ht hc
    refine ⟨.object [("kind", "damages_cap"), ("damages_type", .text damages.code),
      ("amount", d.amount), ("conditions", .list d.conditions)],
      by simp only [payload, hk, hdamages]; rfl, ?_⟩
    rw [recheck_of_cap hk hc]
    exact readLike_cap rfl rfl rfl hn rfl
  | custom =>
    obtain ⟨ps, hps⟩ := ht.parameters
    have hne : code.isEmpty = false := by
      have hvoid := code_not_void_of_check hk hc
      rwa [hcode] at hvoid
    refine ⟨.object [("kind", "custom"), ("name", d.code), ("description", d.description),
      ("parameters", .object (mappingOf (ps.map fun p => (.text p.1, .text p.2))))],
      by simp only [payload, hk, hps, entriesFrom_texts]; rfl, ?_⟩
    rw [recheck_of_custom hk, hplain]
    exact readLike_custom rfl hcode hne rfl

/-- A draft of texts that passes the check has data. They are read as a rule of its kind exactly if
the code that the kind asks for is not blank and a double can hold the percentage; otherwise they
are refused as the draft without the blanks around its code would be. -/
theorem ofPayload_payload (ht : d.TextFields) (hc : d.check = .ok ()) :
    ∃ p, d.payload = .ok p ∧ ((∃ r, ofPayload p = .ok r) ↔ d.Readable) ∧
      (∀ r, ofPayload p = .ok r → r.kind = d.kind) ∧
      ∀ e, ofPayload p = .error e ↔ d.recheck = .error e := by
  obtain ⟨p, hp, houtcome, hkind⟩ := readLike_payload ht hc
  refine ⟨p, hp, ?_, hkind, ?_⟩
  · rw [← recheck_eq_ok hc, ← houtcome, map_eq_ok]
    constructor
    · rintro ⟨r, hr⟩
      exact ⟨r, hr, rfl⟩
    · rintro ⟨r, hr, -⟩
      exact ⟨r, hr⟩
  · intro e
    rw [← houtcome, map_eq_error]

/-- A percentage under a padded code. -/
def paddedBar : Draft :=
  { kind := .threshold, code := " Modified_Comparative_Negligence ", threshold := .float 51.0 }

/-- A code with blanks around it is trimmed and read. -/
theorem ofPayload_payload_paddedBar : paddedBar.TextFields ∧ paddedBar.check = .ok () ∧
    ∃ p r, paddedBar.payload = .ok p ∧ ofPayload p = .ok r ∧ r.kind = .threshold := by
  have ht : paddedBar.TextFields := ⟨⟨_, rfl⟩, ⟨[], rfl⟩, .inl rfl⟩
  have hc : paddedBar.check = .ok () := rfl
  obtain ⟨p, hp, hread, hkind, -⟩ := ofPayload_payload ht hc
  have hreadable : paddedBar.Readable := ⟨by decide +kernel, _, rfl⟩
  obtain ⟨r, hr⟩ := hread.mpr hreadable
  exact ⟨ht, hc, p, r, hp, hr, hkind r hr⟩

/-- A code made of a blank passes the check, and its data are refused for having no code. -/
theorem payload_of_blank_refused : Draft.check { kind := .flag, code := " " } = .ok () ∧
    ∃ p, Draft.payload { kind := .flag, code := " " } = .ok p ∧
      ofPayload p = .error (.complaint .flagCode) :=
  ⟨rfl, _, rfl, rfl⟩

end Draft
end Rule
end ComparativeLaw

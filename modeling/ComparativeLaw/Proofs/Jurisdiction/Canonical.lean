import ComparativeLaw.ChoiceOfLaw.Analysis
import ComparativeLaw.Proofs.Checked
import ComparativeLaw.Proofs.Table
import ComparativeLaw.Proofs.Text.Trim

namespace ComparativeLaw

open Checked

/-- A canonical code is its own canonical form. -/
theorem canonicalCode_canonicalCode (code : String) :
    canonicalCode (canonicalCode code) = canonicalCode code := by
  show Text.upper (Text.strip (Text.upper (Text.strip code))) = Text.upper (Text.strip code)
  rw [Text.strip_upper_strip, Text.upper_upper]

/-- The canonical form is empty only for a code of blanks alone. -/
theorem canonicalCode_eq_empty {s : String} : canonicalCode s = "" ↔ Text.isBlankText s = true := by
  have hupper : Text.upperChars (Text.trimBy Text.isBlank s.toList) = [] ↔
      Text.trimBy Text.isBlank s.toList = [] := by
    refine List.flatMap_eq_nil_iff.trans ⟨fun h => ?_, fun h => by simp [h]⟩
    exact List.eq_nil_iff_forall_not_mem.mpr fun c hc => Text.upperOf_ne_nil c (h c hc)
  rw [Text.isBlankText, ← Text.trimBy_eq_nil, ← hupper, canonicalCode, Text.upper, Text.strip,
    String.toList_ofList, String.ofList_eq_empty_iff]

namespace Registry

theorem code_eq_of_key {c : Code} {s : String} (h : c.key = .text s) : c = .text s := by
  cases c with
  | text t => exact congrArg Code.text (Code.Key.text.inj h)
  | value j => cases h

/-- Whatever a code names, the jurisdiction that is selected has its canonical form. -/
theorem code_select (registry : Option Registry) (code : String) :
    (select registry code).code = .text (canonicalCode code) := by
  unfold select
  cases hj : registry.bind fun r => r.get? (.text code) with
  | none => rfl
  | some j =>
    obtain ⟨r, -, hget⟩ := Option.bind_eq_some_iff.mp hj
    exact code_eq_of_key (r.own _ (Table.mem_of_get? hget))

end Registry

namespace Facts

/-- Facts whose codes all are canonical. -/
structure Canonical (f : Facts) : Prop where
  contacts : ∀ c ∈ f.contacts, canonicalCode c.code = c.code
  interests : ∀ i ∈ f.interests, canonicalCode i.code = i.code

/-- The code of a contact is canonical. -/
theorem code_of_contact {kind : ContactKind} {ref : Reference} {c : Contact}
    (h : Contact.of kind ref = .ok c) : canonicalCode c.code = c.code := by
  simp only [Contact.of] at h
  split at h
  · cases h
  · cases h
    exact canonicalCode_canonicalCode _

/-- Facts that are built of references, whatever texts these are, are canonical. -/
theorem canonical_of_build {topic notes : Json} {contacts : List (Json × Reference)}
    {interests : List (Reference × String)} {f : Facts}
    (h : build topic contacts notes (interests.map fun i => .of i.1 i.2) = .ok f) :
    f.Canonical := by
  obtain ⟨built, hbuilt, h⟩ := bind_eq_ok.mp h
  obtain ⟨t, -, h⟩ := bind_eq_ok.mp h
  cases h
  refine ⟨fun c hc => ?_, fun i hi => ?_⟩
  · obtain ⟨e, -, he⟩ := exists_of_mem_mapM hbuilt hc
    obtain ⟨kind, -, hkind⟩ := bind_eq_ok.mp he
    exact code_of_contact (ok_of_mapError.mp hkind)
  · obtain ⟨e, -, rfl⟩ := List.mem_map.mp hi
    exact canonicalCode_canonicalCode _

end Facts
end ComparativeLaw

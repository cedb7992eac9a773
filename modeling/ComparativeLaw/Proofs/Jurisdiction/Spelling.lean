import ComparativeLaw.Proofs.Catalog.Views

namespace ComparativeLaw

namespace Text

/-- What is the same for a small letter of ASCII and its capital takes no notice of capitals. -/
theorem apply_toUpper {α : Type} (f : Char → α)
    (h : ∀ n ∈ List.range' 97 26, f (Char.ofNat n).toUpper = f (Char.ofNat n)) (c : Char) :
    f c.toUpper = f c := by
  by_cases hc : 'a'.val ≤ c.val ∧ c.val ≤ 'z'.val
  · have hlow : 97 ≤ c.toNat := hc.1
    have hhigh : c.toNat ≤ 122 := hc.2
    have hsmall := h c.toNat (List.mem_range'_1.mpr (by omega))
    rwa [Char.ofNat_toNat] at hsmall
  · have hsame : c.toUpper = c := dif_neg hc
    rw [hsame]

theorem upperOf_toUpper (c : Char) : upperOf c.toUpper = upperOf c :=
  apply_toUpper upperOf (by decide) c

theorem isBlank_toUpper (c : Char) : isBlank c.toUpper = isBlank c :=
  apply_toUpper isBlank (by decide) c

/-- Capitals for some small letters do not matter to the upper case. -/
theorem upperChars_map_toUpper (s : List Char) : upperChars (s.map Char.toUpper) = upperChars s := by
  rw [upperChars, List.flatMap_map, upperChars]
  exact List.flatMap_congr fun c _ => upperOf_toUpper c

/-- What is trimmed stays trimmed if no element changes in what is trimmed off. -/
theorem trimmed_map_iff {α β : Type} {p : α → Bool} {q : β → Bool} {f : α → β}
    (h : ∀ a, q (f a) = p a) {s : List α} : Trimmed q (s.map f) ↔ Trimmed p s := by
  constructor
  · intro hs
    constructor
    case head =>
      intro a ha
      rw [← h]
      exact hs.head (f a) (List.head?_map ▸ Option.mem_map_of_mem f ha)
    case last =>
      intro a ha
      rw [← h]
      exact hs.last (f a) (List.getLast?_map ▸ Option.mem_map_of_mem f ha)
  · intro hs
    constructor
    case head =>
      intro b hb
      rw [List.head?_map] at hb
      obtain ⟨a, ha, rfl⟩ := Option.map_eq_some_iff.mp hb
      exact (h a).trans (hs.head a ha)
    case last =>
      intro b hb
      rw [List.getLast?_map] at hb
      obtain ⟨a, ha, rfl⟩ := Option.map_eq_some_iff.mp hb
      exact (h a).trans (hs.last a ha)

theorem trimmed_of_strip {s : String} (h : strip s = s) : Trimmed isBlank s.toList := by
  have hs := congrArg String.toList h
  rw [strip, String.toList_ofList] at hs
  exact hs ▸ trimmed_trimBy isBlank s.toList

end Text

open Text

/-- A way to write a code: its letters in any case, with blanks around them. -/
structure Spelling (code : String) where
  front : List Char
  body : List Char
  back : List Char
  front_blank : ∀ c ∈ front, isBlank c = true
  back_blank : ∀ c ∈ back, isBlank c = true
  letters : body.map Char.toUpper = code.toList.map Char.toUpper

namespace Spelling

variable {code : String}

def text (x : Spelling code) : String := String.ofList (x.front ++ x.body ++ x.back)

/-- Every spelling of a canonical code has it for its canonical form. -/
theorem canonicalCode_text (h : canonicalCode code = code) (x : Spelling code) :
    canonicalCode x.text = code := by
  have hstrip : strip code = code := by
    rw [← h]
    exact strip_upper_strip code
  -- Blanks are blanks in either case, so the letters as they are written are trimmed too.
  have hbody : Trimmed isBlank x.body := by
    rw [← trimmed_map_iff isBlank_toUpper, x.letters, trimmed_map_iff isBlank_toUpper]
    exact trimmed_of_strip hstrip
  have hupper : upperChars x.body = upperChars code.toList := by
    rw [← upperChars_map_toUpper, x.letters, upperChars_map_toUpper]
  calc canonicalCode x.text
    _ = String.ofList (upperChars (trimBy isBlank (x.front ++ x.body ++ x.back))) := by
      simp only [canonicalCode, upper, strip, text, String.toList_ofList]
    _ = String.ofList (upperChars code.toList) := by
      rw [hbody.trimBy_append x.front_blank x.back_blank, hupper]
    _ = canonicalCode code := by rw [canonicalCode, hstrip, upper]
    _ = code := h

end Spelling

namespace Catalog

variable {entries : List RuleEntry} {registry : Option Registry} {c : Catalog}
  (htexts : ∀ e ∈ entries, e.jurisdiction.code.isText)

include htexts

theorem build_eq_ok : build entries registry = .ok c ↔
    firstRepeat? RuleEntry.key [] entries = none ∧ ofDistinct entries registry = c := by
  rw [build_eq htexts]
  split
  · next hsome => simp [hsome]
  · next hnone => simp [hnone]

/-- Entries with different keys make a catalogue. -/
theorem exists_build (hn : (entries.map RuleEntry.key).Nodup) (registry : Option Registry) :
    ∃ c, build entries registry = .ok c :=
  ⟨_, (build_eq_ok htexts).mpr ⟨firstRepeat?_of_nodup hn, rfl⟩⟩

/-- A catalogue has each of its entries under every text that comes to the code. -/
theorem entry?_of_build (h : build entries registry = .ok c) {e : RuleEntry} (he : e ∈ entries)
    {s : String} (hs : e.jurisdiction.code = .text (canonicalCode s)) :
    c.entry? (.text s) e.topic = some e := by
  obtain ⟨hnone, rfl⟩ := (build_eq_ok htexts).mp h
  have hkey : e.key = ((Reference.text s).code.key, e.topic) := by
    rw [RuleEntry.key, hs]
    rfl
  exact (entry?_ofDistinct (nodup_of_firstRepeat? hnone).1 registry).mpr ⟨he, hkey⟩

end Catalog
end ComparativeLaw

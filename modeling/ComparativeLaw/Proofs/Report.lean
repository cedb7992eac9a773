import ComparativeLaw.Proofs.Comparison.Matrix
import ComparativeLaw.Proofs.Jurisdiction.Canonical
import ComparativeLaw.Proofs.Text.Points
import ComparativeLaw.Report

/-!
The table of similarities as it is printed. Its columns are wide enough for every code and every
cell, so that the lines cut at the multiples of the width give the texts that they were made of, and
these the similarities.
-/
namespace ComparativeLaw

open Text

theorem spelled_canonicalCode {s : String} (h : Spelled s.toList) :
    Spelled (canonicalCode s).toList := by
  rw [canonicalCode, upper, strip, String.toList_ofList, String.toList_ofList]
  exact h.trimBy.upperChars

theorem trimmed_canonicalCode (s : String) : Trimmed isBlank (canonicalCode s).toList := by
  rw [canonicalCode, upper, strip, String.toList_ofList, String.toList_ofList]
  exact trimmed_upperChars (trimmed_trimBy isBlank s.toList)

namespace Report

theorem columnWidth_le_iff {codes : List String} {width : Nat} :
    columnWidth codes ≤ width ↔ 6 ≤ width ∧ ∀ c ∈ codes, Text.size c + 1 ≤ width := by
  suffices h : ∀ w, codes.foldl (fun w c => max w (Text.size c + 1)) w ≤ width ↔
      w ≤ width ∧ ∀ c ∈ codes, Text.size c + 1 ≤ width from h 6
  induction codes with
  | nil => simp
  | cons c codes ih =>
    intro w
    rw [List.foldl_cons, ih, max_le_iff, List.forall_mem_cons, and_assoc]

theorem six_le_columnWidth (codes : List String) : 6 ≤ columnWidth codes :=
  (columnWidth_le_iff.mp (le_refl _)).1

theorem columnWidth_eq {codes : List String} {longest : Nat}
    (h : (codes.map Text.size).max? = some longest) :
    columnWidth codes = max 6 (longest + 1) := by
  obtain ⟨hmem, hle⟩ := List.max?_eq_some_iff.mp h
  apply le_antisymm
  · apply columnWidth_le_iff.mpr
    refine ⟨le_max_left _ _, ?_⟩
    intro c hc
    exact (Nat.succ_le_succ (hle _ (List.mem_map_of_mem hc))).trans (le_max_right _ _)
  · obtain ⟨hsix, hcodes⟩ := columnWidth_le_iff.mp (le_refl (columnWidth codes))
    obtain ⟨c, hc, rfl⟩ := List.mem_map.mp hmem
    exact max_le hsix (hcodes c hc)

/-- The text of some points without the blanks around it. -/
def trimPoints (ps : List Nat) : String := Text.strip (String.ofList (ofPoints ps))

/-- The columns of a line: it is cut at the multiples of a width, and the stretches are trimmed. -/
def columns (width : Nat) (line : List Char) : List String :=
  (List.range ((pointsOf line).length / width)).map fun k =>
    trimPoints (((pointsOf line).drop (k * width)).take width)

section Pieces

variable {α : Type} {width : Nat} {pieces : List (List α)}

theorem length_flatten_of_length (h : ∀ p ∈ pieces, p.length = width) :
    pieces.flatten.length = pieces.length * width := by
  induction pieces with
  | nil => simp
  | cons p pieces ih =>
    obtain ⟨hp, hpieces⟩ := List.forall_mem_cons.mp h
    rw [List.flatten_cons, List.length_append, hp, ih hpieces, List.length_cons, Nat.succ_mul,
      Nat.add_comm]

/-- A piece stands where as many pieces end as are before it. -/
theorem take_drop_flatten (h : ∀ p ∈ pieces, p.length = width) {k : Nat} (hk : k < pieces.length) :
    (pieces.flatten.drop (k * width)).take width = pieces[k] := by
  induction pieces generalizing k with
  | nil => cases hk
  | cons p pieces ih =>
    obtain ⟨hp, hpieces⟩ := List.forall_mem_cons.mp h
    cases k with
    | zero =>
      rw [Nat.zero_mul, List.drop_zero, List.flatten_cons, List.getElem_cons_zero]
      exact List.take_left' hp
    | succ k =>
      have hskip : (k + 1) * width = p.length + k * width := by rw [hp, Nat.succ_mul, Nat.add_comm]
      rw [hskip, List.flatten_cons, ← List.drop_drop, List.drop_left, List.getElem_cons_succ]
      exact ih hpieces (Nat.lt_of_succ_lt_succ hk)

theorem map_take_drop_flatten (h : ∀ p ∈ pieces, p.length = width) :
    ((List.range pieces.length).map fun k => (pieces.flatten.drop (k * width)).take width) =
      pieces := by
  apply List.ext_getElem
  · rw [List.length_map, List.length_range]
  · intro k hk hk'
    rw [List.getElem_map, List.getElem_range, take_drop_flatten h hk']

end Pieces

/-- Characters that take up a column. -/
structure IsColumn (width : Nat) (s : List Char) : Prop where
  spelled : Spelled s
  length_eq : (pointsOf s).length = width

theorem pointsOf_flatten {width : Nat} {blocks : List (List Char)}
    (h : ∀ b ∈ blocks, IsColumn width b) :
    pointsOf blocks.flatten = (blocks.map pointsOf).flatten := by
  have hpoints := Spelled.pointsOf_flatMap (f := id) fun b hb => (h b hb).spelled
  rwa [List.flatMap_id] at hpoints

theorem length_of_mem_map_pointsOf {width : Nat} {blocks : List (List Char)}
    (h : ∀ b ∈ blocks, IsColumn width b) : ∀ p ∈ blocks.map pointsOf, p.length = width := by
  intro p hp
  obtain ⟨b, hb, rfl⟩ := List.mem_map.mp hp
  exact (h b hb).length_eq

theorem length_pointsOf_flatten {width : Nat} {blocks : List (List Char)}
    (h : ∀ b ∈ blocks, IsColumn width b) :
    (pointsOf blocks.flatten).length = blocks.length * width := by
  rw [pointsOf_flatten h, length_flatten_of_length (length_of_mem_map_pointsOf h),
    List.length_map]

theorem columns_flatten {width : Nat} (hw : 0 < width) {blocks : List (List Char)}
    (h : ∀ b ∈ blocks, IsColumn width b) :
    columns width blocks.flatten = blocks.map fun b => trimPoints (pointsOf b) := by
  have hcut := map_take_drop_flatten (length_of_mem_map_pointsOf h)
  rw [List.length_map] at hcut
  rw [columns, length_pointsOf_flatten h, Nat.mul_div_cancel _ hw, pointsOf_flatten h]
  calc (List.range blocks.length).map (fun k =>
          trimPoints (((blocks.map pointsOf).flatten.drop (k * width)).take width))
      = ((List.range blocks.length).map fun k =>
          ((blocks.map pointsOf).flatten.drop (k * width)).take width).map trimPoints := by
        rw [List.map_map]
        rfl
    _ = (blocks.map pointsOf).map trimPoints := by rw [hcut]
    _ = blocks.map fun b => trimPoints (pointsOf b) := List.map_map

/-- A text that fits in a column and can be told from the blanks around it. -/
structure Fits (width : Nat) (s : String) : Prop where
  spelled : Spelled s.toList
  trimmed : Trimmed isBlank s.toList
  size_le : Text.size s ≤ width

theorem space_ne_mark {n : Nat} : ∀ c ∈ List.replicate n ' ', c ≠ mark := by
  intro c hc
  rw [List.eq_of_mem_replicate hc]
  decide

theorem isBlank_space {n : Nat} : ∀ c ∈ List.replicate n ' ', isBlank c = true := by
  intro c hc
  rw [List.eq_of_mem_replicate hc]
  decide

theorem length_pointsOf_spaces (n : Nat) : (pointsOf (List.replicate n ' ')).length = n := by
  rw [pointsOf_of_no_mark space_ne_mark, List.length_map, List.length_replicate]

theorem trimPoints_pointsOf {s : List Char} (h : Spelled s) :
    trimPoints (pointsOf s) = String.ofList (trimBy isBlank s) := by
  rw [trimPoints, h.ofPoints_pointsOf, strip, String.toList_ofList]

namespace Fits

variable {width : Nat} {s : String} (h : Fits width s)
include h

theorem isColumn_padRight : IsColumn width (padRight width s) where
  spelled := h.spelled.append (spelled_of_no_mark space_ne_mark)
  length_eq := by
    have hsize : Text.size s ≤ width := h.size_le
    have hpoints : (pointsOf s.toList).length = Text.size s := rfl
    rw [padRight, h.spelled.pointsOf_append, List.length_append, length_pointsOf_spaces, hpoints]
    omega

theorem isColumn_padLeft : IsColumn width (padLeft width s) where
  spelled := (spelled_of_no_mark space_ne_mark).append h.spelled
  length_eq := by
    have hsize : Text.size s ≤ width := h.size_le
    have hpoints : (pointsOf s.toList).length = Text.size s := rfl
    rw [padLeft, (spelled_of_no_mark space_ne_mark).pointsOf_append, List.length_append,
      length_pointsOf_spaces, hpoints]
    omega

theorem trimPoints_padRight : trimPoints (pointsOf (padRight width s)) = s := by
  have htrim := h.trimmed.trimBy_append (l := []) (fun _ hc => absurd hc List.not_mem_nil)
    (isBlank_space (n := width - Text.size s))
  rw [trimPoints_pointsOf h.isColumn_padRight.spelled, padRight]
  rw [List.nil_append] at htrim
  rw [htrim, String.ofList_toList]

theorem trimPoints_padLeft : trimPoints (pointsOf (padLeft width s)) = s := by
  have htrim := h.trimmed.trimBy_append (r := []) (isBlank_space (n := width - Text.size s))
    (fun _ hc => absurd hc List.not_mem_nil)
  rw [trimPoints_pointsOf h.isColumn_padLeft.spelled, padLeft]
  rw [List.append_nil] at htrim
  rw [htrim, String.ofList_toList]

end Fits

theorem row_eq_flatten (width : Nat) (heading : String) (cells : List String) :
    row width heading cells = (padRight width heading :: cells.map (padLeft width)).flatten := by
  rw [row, List.flatMap_def, List.flatten_cons]

section Rows

variable {width : Nat} {heading : String} {cells : List String}
  (hheading : Fits width heading) (hcells : ∀ s ∈ cells, Fits width s)
include hheading hcells

theorem isColumn_of_mem_row :
    ∀ b ∈ padRight width heading :: cells.map (padLeft width), IsColumn width b := by
  intro b hb
  rcases List.mem_cons.mp hb with rfl | hb
  · exact hheading.isColumn_padRight
  · obtain ⟨s, hs, rfl⟩ := List.mem_map.mp hb
    exact (hcells s hs).isColumn_padLeft

theorem length_pointsOf_row :
    (pointsOf (row width heading cells)).length = width * (cells.length + 1) := by
  rw [row_eq_flatten, length_pointsOf_flatten (isColumn_of_mem_row hheading hcells),
    List.length_cons, List.length_map, Nat.mul_comm]

theorem columns_row (hw : 0 < width) : columns width (row width heading cells) =
    heading :: cells := by
  have htexts : (cells.map (padLeft width)).map (fun b => trimPoints (pointsOf b)) = cells := by
    rw [List.map_map]
    calc cells.map ((fun b => trimPoints (pointsOf b)) ∘ padLeft width)
        = cells.map id := List.map_congr_left fun s hs => (hcells s hs).trimPoints_padLeft
      _ = cells := List.map_id cells
  rw [row_eq_flatten, columns_flatten hw (isColumn_of_mem_row hheading hcells), List.map_cons,
    hheading.trimPoints_padRight, htexts]

end Rows

/-- The number that a text names, if it names a finite one. -/
def readNumber (s : String) : Option Float := (Numeral.read? s).bind Scalar.ofNumeral?

/-- The numbers in the cells of a table, without its header and the codes before the rows. -/
def readTable (width : Nat) (lines : List (List Char)) : List (List (Option Float)) :=
  (lines.map (columns width)).tail.map fun cells => cells.tail.map readNumber

theorem fixed_value (s : Similarity) : Scalar.fixed 2 (s.value : Float) = s.text := by
  cases s <;> decide +kernel

theorem readNumber_text (s : Similarity) : readNumber s.text = some s.value := by
  cases s <;> decide +kernel

theorem fits_empty (width : Nat) : Fits width "" where
  spelled := .nil
  trimmed := ⟨nofun, nofun⟩
  size_le := Nat.zero_le width

theorem fits_text {width : Nat} (h : 6 ≤ width) (s : Similarity) : Fits width s.text where
  spelled := by
    have hmark : mark ∉ s.text.toList := by cases s <;> decide
    exact spelled_of_no_mark (List.forall_mem_ne'.mpr hmark)
  trimmed := by
    have htrim : trimBy isBlank s.text.toList = s.text.toList := by cases s <;> decide
    rw [← htrim]
    exact trimmed_trimBy isBlank s.text.toList
  size_le := by
    have hsize : Text.size s.text = 4 := by cases s <;> decide
    omega

theorem fits_of_mem_texts {width : Nat} (h : 6 ≤ width) (row : List Similarity) :
    ∀ s ∈ row.map Similarity.text, Fits width s := by
  intro s hs
  obtain ⟨sim, -, rfl⟩ := List.mem_map.mp hs
  exact fits_text h sim

/-- What a printed table promises for a comparison of some codes. -/
structure Tabulates (c : Comparison) (codes : List String) (width : Nat) : Prop where
  /-- There is a similarity for each pair of codes. -/
  square : c.similarity.length = codes.length ∧ ∀ row ∈ c.similarity, row.length = codes.length
  length_eq : (table c).length = codes.length + 1
  aligned : ∀ line ∈ table c, (pointsOf line).length = width * (codes.length + 1)
  /-- The lines, cut at the multiples of the width. -/
  columns_eq : (table c).map (columns width) =
    ("" :: codes) :: (codes.zip c.similarity).map fun e =>
      e.1 :: e.2.map fun s => Scalar.fixed 2 (s.value : Float)
  recovered : readTable width (table c) = c.similarity.map fun row => row.map fun s => some s.value

section Table

variable {c : Comparison} {codes : List String} (hcodes : c.codes.map Code.plain = codes)
  (hfits : ∀ code ∈ codes, Fits (columnWidth codes) code)
include hcodes hfits

theorem columns_table : (table c).map (columns (columnWidth codes)) =
    ("" :: codes) :: (codes.zip c.similarity).map fun e => e.1 :: e.2.map Similarity.text := by
  have hsix := six_le_columnWidth codes
  have hw : 0 < columnWidth codes := by omega
  rw [table, hcodes, List.map_cons, columns_row (fits_empty _) hfits hw, List.map_map]
  congr 1
  apply List.map_congr_left
  intro e he
  exact columns_row (hfits e.1 (List.of_mem_zip he).1) (fits_of_mem_texts hsix e.2) hw

variable
  (hsquare : c.similarity.length = codes.length ∧ ∀ row ∈ c.similarity, row.length = codes.length)
include hsquare

theorem aligned_table : ∀ line ∈ table c,
    (pointsOf line).length = columnWidth codes * (codes.length + 1) := by
  intro line hline
  rw [table, hcodes] at hline
  rcases List.mem_cons.mp hline with rfl | hline
  · exact length_pointsOf_row (fits_empty _) hfits
  · obtain ⟨e, he, rfl⟩ := List.mem_map.mp hline
    obtain ⟨hcode, hrow⟩ := List.of_mem_zip he
    rw [length_pointsOf_row (hfits e.1 hcode) (fits_of_mem_texts (six_le_columnWidth codes) e.2),
      List.length_map, hsquare.2 e.2 hrow]

theorem tabulates_of_fits : Tabulates c codes (columnWidth codes) := by
  have hcolumns := columns_table hcodes hfits
  have hrows : (codes.zip c.similarity).map Prod.snd = c.similarity :=
    List.map_snd_zip hsquare.1.le
  refine ⟨hsquare, ?_, aligned_table hcodes hfits hsquare, ?_, ?_⟩
  · rw [table, hcodes, List.length_cons, List.length_map, List.length_zip, hsquare.1, min_self]
  · simp only [hcolumns, fixed_value]
  · rw [readTable, hcolumns, List.tail_cons, List.map_map]
    calc (codes.zip c.similarity).map ((fun cells => cells.tail.map readNumber) ∘
            fun e => e.1 :: e.2.map Similarity.text)
        = (codes.zip c.similarity).map ((fun row => row.map fun s => some s.value) ∘ Prod.snd) := by
          apply List.map_congr_left
          intro e _
          rw [Function.comp_apply, List.tail_cons, List.map_map]
          exact List.map_congr_left fun s _ => readNumber_text s
      _ = c.similarity.map fun row => row.map fun s => some s.value := by
          rw [← List.map_map, hrows]

end Table

end Report

theorem Comparison.square_ofCodes (catalog : Catalog) (topic : Topic) (codes : List Code) :
    (ofCodes catalog topic codes).similarity.length = codes.length ∧
      ∀ row ∈ (ofCodes catalog topic codes).similarity, row.length = codes.length := by
  rw [ofCodes, Similarity.matrix_eq_tabulate, List.length_map]
  simp [Similarity.tabulate]

/-- The printed table of a comparison of code texts is aligned and can be read back. Each of its
lines has as many columns as there are codes, and one more, of a width that is one more than the
longest code and at least six; cut into columns and trimmed they are the codes and the similarities
with two places, from which the matrix is read as it is. -/
theorem Comparison.run_tabulates {catalog : Catalog} {topic : Topic} {texts : List String}
    {c : Comparison} (ht : ∀ t ∈ texts, Text.Spelled t.toList)
    (h : run catalog topic (refsOf texts) = .ok c) :
    c.codes = codesOf texts ∧ ∃ longest,
      ((texts.map canonicalCode).map Text.size).max? = some longest ∧
      Report.Tabulates c (texts.map canonicalCode) (max 6 (longest + 1)) := by
  obtain ⟨htwo, hdistinct⟩ := of_run_refsOf h
  rw [run, distinctCodes_refsOf htwo hdistinct] at h
  cases h
  refine ⟨rfl, ?_⟩
  -- At least two codes are compared, so one of them is the longest.
  obtain ⟨longest, hlongest⟩ : ∃ longest,
      ((texts.map canonicalCode).map Text.size).max? = some longest := by
    apply Option.isSome_iff_exists.mp
    rw [List.isSome_max?_iff]
    intro hnil
    rw [List.map_map, List.map_eq_nil_iff] at hnil
    rw [hnil] at htwo
    cases htwo
  refine ⟨longest, hlongest, ?_⟩
  rw [← Report.columnWidth_eq hlongest]
  apply Report.tabulates_of_fits
  · rw [ofCodes, codesOf, List.map_map]
    rfl
  · intro code hcode
    obtain ⟨s, hs, rfl⟩ := List.mem_map.mp hcode
    have hwidth := (Report.columnWidth_le_iff.mp (le_refl _)).2 _ hcode
    exact ⟨spelled_canonicalCode (ht s hs), trimmed_canonicalCode s, Nat.le_of_succ_le hwidth⟩
  · have hlength : (codesOf texts).length = (texts.map canonicalCode).length := by
      rw [codesOf, List.length_map, List.length_map]
    rw [← hlength]
    exact square_ofCodes catalog topic (codesOf texts)

/-- A padded code, a long one, and one with half of a pair. -/
def wideTexts : List String :=
  [" us-wi", "Principality of Sealand", String.ofList (Text.ofPoints [0x55, 0xD800])]

theorem Comparison.run_tabulates_wideTexts : ∃ c,
    (∀ t ∈ wideTexts, Text.Spelled t.toList) ∧ run {} .damagesCaps (refsOf wideTexts) = .ok c ∧
    Report.Tabulates c (wideTexts.map canonicalCode) 24 := by
  have hspelled : ∀ t ∈ wideTexts, Text.Spelled t.toList := by
    intro t ht
    simp only [wideTexts, List.mem_cons, List.not_mem_nil, or_false] at ht
    rcases ht with rfl | rfl | rfl
    · exact Text.spelled_of_no_mark (List.forall_mem_ne'.mpr (by decide))
    · exact Text.spelled_of_no_mark (List.forall_mem_ne'.mpr (by decide))
    · exact ⟨[0x55, 0xD800], by decide, String.toList_ofList⟩
  have hdistinct : (wideTexts.map canonicalCode).Nodup := by decide +kernel
  obtain ⟨c, hc⟩ := (exists_run_refsOf {} .damagesCaps).mpr ⟨by decide, hdistinct⟩
  obtain ⟨-, longest, hlongest, htable⟩ := run_tabulates hspelled hc
  have hsize : ((wideTexts.map canonicalCode).map Text.size).max? = some 23 := by decide +kernel
  rw [hsize] at hlongest
  cases hlongest
  exact ⟨c, hspelled, hc, htable⟩

end ComparativeLaw

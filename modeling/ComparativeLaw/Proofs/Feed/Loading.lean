import ComparativeLaw.Feed.File
import ComparativeLaw.Proofs.Checked

namespace ComparativeLaw.Feed

open Checked

variable {α β : Type} {path : String}

/-- A fault that is reported for the feed under a path. -/
def Reported (path : String) (f : Fault) : Prop :=
  ∃ trouble, f = .failure (.feed (some (.text path)) trouble)

/-- A run that ends in a fault which is not reported for the feed. -/
def Escapes (path : String) (x : Except Fault α) : Prop := ∃ f, x = .error f ∧ ¬ Reported path f

/-- A data text that is given up for a number of too many digits or for its depth. -/
def Overtaxes (s : List Char) : Prop :=
  (∃ digits, Json.readAll s = .error (.longInteger digits)) ∨ Json.readAll s = .error .tooDeep

/-- A line that is blank or holds one value. -/
def Readable (line : List Char) : Prop :=
  Text.trimBy Text.isBlank line = [] ∨ ∃ j, Json.readAll (Text.trimBy Text.isBlank line) = .ok j

theorem not_escapes_ok {a : α} : ¬ Escapes path (.ok a) := by
  rintro ⟨f, hf, -⟩
  cases hf

/-- A run escapes in its first step or after it. -/
theorem escapes_bind {x : Except Fault α} {f : α → Except Fault β} :
    Escapes path (x >>= f) ↔ Escapes path x ∨ ∃ a, x = .ok a ∧ Escapes path (f a) := by
  constructor
  · rintro ⟨e, he, hreport⟩
    rcases bind_eq_error.mp he with hx | ⟨a, ha, hfa⟩
    · exact .inl ⟨e, hx, hreport⟩
    · exact .inr ⟨a, ha, e, hfa, hreport⟩
  · rintro (⟨e, hx, hreport⟩ | ⟨a, ha, e, hfa, hreport⟩)
    · exact ⟨e, bind_eq_error.mpr (.inl hx), hreport⟩
    · exact ⟨e, bind_eq_error.mpr (.inr ⟨a, ha, hfa⟩), hreport⟩

theorem contents_eq_ok {trouble : String → FeedTrouble} {node : Node} {bytes : ByteArray} :
    contents path trouble node = .ok bytes ↔ node = .file bytes := by
  cases node with
  | file b =>
    constructor
    · rintro ⟨⟩
      rfl
    · rintro ⟨⟩
      rfl
  | directory => exact iff_of_false nofun nofun
  | absent => exact iff_of_false nofun nofun

theorem not_escapes_contents {trouble : String → FeedTrouble} {node : Node} :
    ¬ Escapes path (contents path trouble node) := by
  rintro ⟨f, hf, hreport⟩
  cases node with
  | file bytes => cases hf
  | directory =>
    cases hf
    exact hreport ⟨_, rfl⟩
  | absent =>
    cases hf
    exact hreport ⟨_, rfl⟩

/-- Nothing about the bytes of a file is reported: they are a text, or the run ends there. -/
theorem escapes_after_contents {trouble : String → FeedTrouble} {node : Node}
    {f : ByteArray → Except Fault α} :
    Escapes path (contents path trouble node >>= f) ↔
      ∃ bytes, node = .file bytes ∧ Escapes path (f bytes) := by
  simp only [escapes_bind, not_escapes_contents, false_or, contents_eq_ok]

/-- Bytes escape if they are no text. -/
theorem escapes_characters {bytes : ByteArray} :
    Escapes path (characters bytes) ↔ String.fromUTF8? bytes = none := by
  unfold characters
  cases String.fromUTF8? bytes with
  | none =>
    refine iff_of_true ⟨_, rfl, ?_⟩ rfl
    rintro ⟨trouble, htrouble⟩
    cases htrouble
  | some s => exact iff_of_false not_escapes_ok nofun

section Reading

variable {trouble : Json.Complaint → Nat → FeedTrouble} {s : List Char}

theorem readText_eq_ok {j : Json} : readText path trouble s = .ok j ↔ Json.readAll s = .ok j := by
  unfold readText
  split
  · next h => rw [h, Except.ok.injEq, Except.ok.injEq]
  · next h => rw [h]; exact iff_of_false nofun nofun
  · next h => rw [h]; exact iff_of_false nofun nofun
  · next h => rw [h]; exact iff_of_false nofun nofun

/-- A complaint about the text is reported, what overtaxes the reader is not. -/
theorem escapes_readText : Escapes path (readText path trouble s) ↔ Overtaxes s := by
  unfold readText Overtaxes
  split
  · next h =>
    rw [h]
    exact iff_of_false not_escapes_ok (by rintro (⟨_, h⟩ | h) <;> cases h)
  · next h =>
    rw [h]
    refine iff_of_false ?_ (by rintro (⟨_, h⟩ | h) <;> cases h)
    rintro ⟨f, ⟨⟩, hreport⟩
    exact hreport ⟨_, rfl⟩
  · next digits h =>
    refine iff_of_true ⟨_, rfl, ?_⟩ (.inl ⟨digits, h⟩)
    rintro ⟨trouble, htrouble⟩
    cases htrouble
  · next h =>
    refine iff_of_true ⟨_, rfl, ?_⟩ (.inr h)
    rintro ⟨trouble, htrouble⟩
    cases htrouble

end Reading

theorem not_escapes_parseRules {payload : Json} {registry : Option Registry} :
    ¬ Escapes path ((parseRules payload registry (some (.text path))).mapError .failure) := by
  rintro ⟨f, hf, hreport⟩
  obtain ⟨failure, hfailure, rfl⟩ := mapError_eq_error.mp hf
  apply hreport
  unfold parseRules at hfailure
  split at hfailure
  · cases hfailure
    exact ⟨_, rfl⟩
  · obtain ⟨trouble, -, rfl⟩ := mapError_eq_error.mp hfailure
    exact ⟨trouble, rfl⟩

theorem not_escapes_parseDecisions {records : List Json} :
    ¬ Escapes path ((parseDecisions records (some (.text path))).mapError .failure) := by
  rintro ⟨f, hf, hreport⟩
  obtain ⟨failure, hfailure, rfl⟩ := mapError_eq_error.mp hf
  obtain ⟨trouble, -, rfl⟩ := mapError_eq_error.mp hfailure
  exact hreport ⟨trouble, rfl⟩

theorem recordsFrom_cons {number : Nat} {line : List Char} {lines : List (List Char)}
    (hblank : Text.trimBy Text.isBlank line ≠ []) :
    recordsFrom path number (line :: lines) =
      (readText path (fun c _ => .line number path c.message) (Text.trimBy Text.isBlank line) >>=
        fun record => recordsFrom path (number + 1) lines >>= fun rest =>
          .ok (record :: rest)) := by
  rw [recordsFrom]
  split
  · next h => exact absurd h hblank
  · rfl

/-- The lines of a feed are read if each is blank or holds a value. -/
theorem exists_recordsFrom {number : Nat} {lines : List (List Char)} :
    (∃ records, recordsFrom path number lines = .ok records) ↔ ∀ line ∈ lines, Readable line := by
  induction lines generalizing number with
  | nil => exact iff_of_true ⟨[], rfl⟩ nofun
  | cons line lines ih =>
    have hrest := @ih (number + 1)
    rw [List.forall_mem_cons, ← hrest]
    by_cases hblank : Text.trimBy Text.isBlank line = []
    · rw [recordsFrom, hblank]
      exact ⟨fun h => ⟨.inl hblank, h⟩, fun h => h.2⟩
    · rw [recordsFrom_cons hblank]
      simp only [bind_eq_ok, readText_eq_ok]
      constructor
      · rintro ⟨_, j, hj, rest, hrest, -⟩
        exact ⟨.inr ⟨j, hj⟩, rest, hrest⟩
      · rintro ⟨hline, rest, hrest⟩
        obtain ⟨j, hj⟩ := hline.resolve_left hblank
        exact ⟨_, j, hj, rest, hrest, rfl⟩

/-- Lines of which the first one that cannot be read overtaxes the reader. -/
def StopsAt (lines : List (List Char)) : Prop :=
  ∃ before line after, lines = before ++ line :: after ∧ (∀ l ∈ before, Readable l) ∧
    Overtaxes (Text.trimBy Text.isBlank line)

theorem not_overtaxes_of_readable {line : List Char} (h : Readable line) :
    ¬ Overtaxes (Text.trimBy Text.isBlank line) := by
  intro hover
  rcases h with hblank | ⟨j, hj⟩
  · rw [hblank] at hover
    rcases hover with ⟨digits, h⟩ | h <;> cases h
  · rcases hover with ⟨digits, h⟩ | h <;> rw [hj] at h <;> cases h

/-- Reading stops at the first line unless that line is readable. -/
theorem stopsAt_cons {line : List Char} {lines : List (List Char)} :
    StopsAt (line :: lines) ↔
      Overtaxes (Text.trimBy Text.isBlank line) ∨ Readable line ∧ StopsAt lines := by
  constructor
  · rintro ⟨before, l, after, hlines, hbefore, hover⟩
    cases before with
    | nil =>
      obtain ⟨rfl, -⟩ := List.cons.inj hlines
      exact .inl hover
    | cons b before =>
      obtain ⟨rfl, rfl⟩ := List.cons.inj hlines
      obtain ⟨hline, hbefore⟩ := List.forall_mem_cons.mp hbefore
      exact .inr ⟨hline, before, l, after, rfl, hbefore, hover⟩
  · rintro (hover | ⟨hline, before, l, after, rfl, hbefore, hover⟩)
    · exact ⟨[], line, lines, rfl, nofun, hover⟩
    · exact ⟨line :: before, l, after, rfl, List.forall_mem_cons.mpr ⟨hline, hbefore⟩, hover⟩

/-- Among lines, reading escapes where it stops at one that is given up. -/
theorem escapes_recordsFrom {number : Nat} {lines : List (List Char)} :
    Escapes path (recordsFrom path number lines) ↔ StopsAt lines := by
  -- On the lines, with their numbers general: a blank line is passed, any other is read first.
  induction lines generalizing number with
  | nil =>
    refine iff_of_false not_escapes_ok ?_
    rintro ⟨before, line, after, hlines, -⟩
    exact List.append_ne_nil_of_right_ne_nil before (List.cons_ne_nil line after) hlines.symm
  | cons line lines ih =>
    rw [stopsAt_cons]
    by_cases hblank : Text.trimBy Text.isBlank line = []
    · have hline : Readable line := .inl hblank
      have hstep : recordsFrom path number (line :: lines) =
          recordsFrom path (number + 1) lines := by
        rw [recordsFrom, hblank]
      rw [hstep, ih]
      have hreadable := not_overtaxes_of_readable hline
      exact ⟨fun h => .inr ⟨hline, h⟩, fun h => (h.resolve_left hreadable).2⟩
    · have hline : Readable line ↔ ∃ j, Json.readAll (Text.trimBy Text.isBlank line) = .ok j :=
        or_iff_right hblank
      rw [recordsFrom_cons hblank, escapes_bind, escapes_readText, hline]
      simp only [escapes_bind, ih, not_escapes_ok, and_false, exists_false, or_false,
        readText_eq_ok, exists_and_right]

/-- The lines that are read before a text breaks, or all of them. -/
def linesRead (bytes : List UInt8) : List (List Char) :=
  match Text.Utf8.broken? bytes with
  | none => Text.pieces '\n' (withLineFeeds (Text.Utf8.sound bytes))
  | some place => completeLines (Text.Utf8.sound (bytesBefore place bytes))

/-- Broken bytes are noticed only if the lines before them can be read. -/
theorem escapes_readRecords {bytes : ByteArray} :
    Escapes path (readRecords path bytes) ↔ StopsAt (linesRead bytes.toList) ∨
      Text.Utf8.broken? bytes.toList ≠ none ∧ ∀ line ∈ linesRead bytes.toList, Readable line := by
  unfold readRecords linesRead
  simp only
  cases hbroken : Text.Utf8.broken? bytes.toList with
  | none => simp only [escapes_recordsFrom, ne_eq, not_true_eq_false, false_and, or_false]
  | some place =>
    have hend : Escapes path (.error .undecodable : Except Fault (List Json)) := by
      refine ⟨_, rfl, ?_⟩
      rintro ⟨trouble, htrouble⟩
      cases htrouble
    simp only [escapes_bind, escapes_recordsFrom, hend, and_true, exists_recordsFrom, ne_eq,
      reduceCtorEq, not_false_eq_true, true_and]

/-- Whatever is under the path of a feed, the feed is loaded or refused with a report, with these
exceptions: a rule feed whose bytes are no text or whose text overtaxes the reader, and a decision
feed with a line that does so after lines that are read, or whose bytes are no text after lines that
all are read. -/
theorem load_escapes (path : String) (node : Node) :
    (∀ registry, Escapes path (loadRules path node registry) ↔ ∃ bytes, node = .file bytes ∧
      (String.fromUTF8? bytes = none ∨ ∃ s, characters bytes = .ok s ∧ Overtaxes s)) ∧
    (Escapes path (loadDecisions path node) ↔ ∃ bytes, node = .file bytes ∧
      (StopsAt (linesRead bytes.toList) ∨ Text.Utf8.broken? bytes.toList ≠ none ∧
        ∀ line ∈ linesRead bytes.toList, Readable line)) := by
  constructor
  · intro registry
    rw [loadRules, escapes_after_contents]
    simp only [escapes_bind, escapes_characters, escapes_readText, not_escapes_parseRules,
      and_false, exists_false, or_false]
  · rw [loadDecisions, escapes_after_contents]
    simp only [escapes_bind, escapes_readRecords, not_escapes_parseDecisions, and_false,
      exists_false, or_false]

/-- A file of one byte that starts no character is refused without a report, as either feed. -/
theorem load_unreported_byte : Escapes "feed" (loadRules "feed" (.file ⟨#[0xFF]⟩) none) ∧
    Escapes "feed" (loadDecisions "feed" (.file ⟨#[0xFF]⟩)) := by
  have htext : String.fromUTF8? ⟨#[0xFF]⟩ = none := by decide +kernel
  have hbroken : Text.Utf8.broken? (ByteArray.toList ⟨#[0xFF]⟩) ≠ none := by decide +kernel
  have hlines : linesRead (ByteArray.toList ⟨#[0xFF]⟩) = [] := by decide +kernel
  constructor
  · rw [loadRules, escapes_after_contents]
    exact ⟨_, rfl, escapes_bind.mpr (.inl (escapes_characters.mpr htext))⟩
  · rw [loadDecisions, escapes_after_contents]
    have hrecords : Escapes "feed" (readRecords "feed" ⟨#[0xFF]⟩) :=
      escapes_readRecords.mpr (.inr ⟨hbroken, hlines ▸ nofun⟩)
    exact ⟨_, rfl, escapes_bind.mpr (.inl hrecords)⟩

end ComparativeLaw.Feed

import ComparativeLaw.Proofs.Text.Surrogate
import ComparativeLaw.Schema.Day
import Mathlib.Algebra.Ring.Nat

namespace ComparativeLaw

namespace Text

theorem isDigit_iff {c : Char} : isDigit c = true ↔ c.isDigit = true := by
  simp [isDigit, Char.isDigit, Char.le_def]

/-- Digits alone are read as the number that they are the digits of. -/
theorem readDigits?_eq {s : List Char} (hne : s ≠ []) (h : ∀ c ∈ s, c.isDigit = true) :
    readDigits? s = some (Nat.ofDigitChars 10 s 0) := by
  have hfold (n : Nat) : s.foldl (fun acc c => acc.bind fun v => (digitValue? c).map (10 * v + ·))
      (some n) = some (Nat.ofDigitChars 10 s n) := by
    -- On the digits, with what was read before them as the start.
    clear hne
    induction s generalizing n with
    | nil => rfl
    | cons c s ih =>
      obtain ⟨hc, hs⟩ := List.forall_mem_cons.mp h
      have hvalue : digitValue? c = some (c.toNat - '0'.toNat) := by
        have hdigit : ('0' ≤ c && c ≤ '9') = true := isDigit_iff.mpr hc
        rw [digitValue?, if_pos hdigit]
        rfl
      rw [List.foldl_cons, Nat.ofDigitChars_cons, ← ih hs]
      simp [hvalue]
  rw [readDigits?, if_neg (by simpa using hne), hfold]

end Text

namespace Date

theorem isDigit_of_mem_padded {width n : Nat} : ∀ c ∈ padded width n, c.isDigit = true := by
  intro c hc
  rcases List.mem_append.mp hc with hzero | hdigit
  · rw [List.eq_of_mem_replicate hzero]
    decide
  · exact Nat.isDigit_of_mem_toDigits (by decide) (by decide) hdigit

theorem length_padded {width n : Nat} (hw : 0 < width) (hn : n < 10 ^ width) :
    (padded width n).length = width := by
  have hle := (Nat.length_toDigits_le_iff (b := 10) (by decide) hw).mpr hn
  rw [padded, List.length_append, List.length_replicate]
  omega

theorem ofDigitChars_padded (width n : Nat) : Nat.ofDigitChars 10 (padded width n) 0 = n := by
  rw [padded, Nat.ofDigitChars_append, Nat.ofDigitChars_replicate_zero, Nat.mul_zero,
    Nat.ofDigitChars_ten_toDigits]

theorem digitsAt?_padded {width n : Nat} (hw : 0 < width) (hn : n < 10 ^ width) (s : List Char) :
    Schema.digitsAt? width (padded width n ++ s) = some (n, s) := by
  have hlength := length_padded hw hn
  have hne : padded width n ≠ [] := by
    intro hnil
    rw [hnil] at hlength
    exact hw.ne hlength
  have hread := Text.readDigits?_eq hne isDigit_of_mem_padded
  rw [ofDigitChars_padded] at hread
  have hlong : ¬ (padded width n ++ s).length < width := by
    rw [List.length_append]
    omega
  rw [Schema.digitsAt?, if_neg hlong, List.take_left' hlength, List.drop_left' hlength, hread]
  rfl

theorem bounds (d : Date) :
    (1 ≤ d.year ∧ d.year ≤ 9999) ∧ (1 ≤ d.month ∧ d.month ≤ 12) ∧ 1 ≤ d.day ∧ d.day ≤ 31 := by
  have hvalid := d.valid
  simp only [isDay, Bool.and_eq_true, decide_eq_true_eq] at hvalid
  obtain ⟨⟨⟨⟨⟨hyear, hyear'⟩, hmonth⟩, hmonth'⟩, hday⟩, hday'⟩ := hvalid
  have hdays : daysInMonth d.year d.month ≤ 31 := by
    unfold daysInMonth
    split
    · split <;> decide
    · decide
    · decide
    · decide
    · decide
    · decide
  exact ⟨⟨hyear, hyear'⟩, ⟨hmonth, hmonth'⟩, hday, hday'.trans hdays⟩

theorem toList_text (d : Date) :
    d.text.toList = padded 4 d.year ++ '-' :: (padded 2 d.month ++ '-' :: padded 2 d.day) := by
  simp [text]

theorem dayAt?_text (d : Date) :
    Schema.dayAt? d.text.toList = some ((d.year, d.month, d.day), []) := by
  obtain ⟨⟨-, hyear⟩, ⟨-, hmonth⟩, -, hday⟩ := d.bounds
  have hyearAt (s : List Char) : Schema.digitsAt? 4 (padded 4 d.year ++ s) = some (d.year, s) :=
    digitsAt?_padded (by decide) (by omega) s
  have hmonthAt (s : List Char) : Schema.digitsAt? 2 (padded 2 d.month ++ s) = some (d.month, s) :=
    digitsAt?_padded (by decide) (by omega) s
  have hdayAt : Schema.digitsAt? 2 (padded 2 d.day ++ []) = some (d.day, []) :=
    digitsAt?_padded (by decide) (by omega) []
  rw [List.append_nil] at hdayAt
  simp [toList_text, Schema.dayAt?, Schema.expect?, hyearAt, hmonthAt, hdayAt]

theorem momentOfText?_text (d : Date) :
    Schema.momentOfText? d.text.toList = some { date := some d, time := 0 } := by
  obtain ⟨⟨hyear, -⟩, -⟩ := d.bounds
  have hne : d.year ≠ 0 := by omega
  have hdate : of? d.year d.month d.day = some d := dif_pos d.valid
  simp [Schema.momentOfText?, dayAt?_text, Schema.timeAfter?, hne, hdate]

theorem hasSurrogate_text (d : Date) : Text.hasSurrogate d.text = false := by
  have hdigits (width n : Nat) : ∀ c ∈ padded width n, c ≠ Text.mark := by
    rintro c hc rfl
    exact absurd (isDigit_of_mem_padded _ hc) (by decide)
  apply Text.hasSurrogate_of_no_mark
  rw [toList_text]
  simp only [List.forall_mem_append, List.forall_mem_cons]
  exact ⟨hdigits 4 _, by decide, hdigits 2 _, by decide, hdigits 2 _⟩

/-- The text of a date is read as that date. -/
theorem day_text (d : Date) : Schema.day (.text d.text) = .ok d := by
  unfold Schema.day
  simp only [Schema.wellFormed, hasSurrogate_text, Schema.momentOfChars?, momentOfText?_text]
  rfl

end Date
end ComparativeLaw

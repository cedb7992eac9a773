import ComparativeLaw.Proofs.Text.Surrogate
import ComparativeLaw.Topic

namespace ComparativeLaw.Topic

open Text

/-- A character within a normal topic. -/
def joined (c : Char) : Char := if c = '-' || c = ' ' then '_' else c

/-- A topic is trimmed, put in lower case and joined where it has spaces or dashes. -/
theorem toList_normalise (s : String) :
    (normalise s).toList = (lowerChars (trimBy isBlank s.toList)).map joined := by
  rw [normalise, String.toList_ofList, lower, String.toList_ofList, strip, String.toList_ofList]
  rfl

theorem joined_cases (c : Char) : joined c = '_' ∨ joined c = c := by
  unfold joined
  split
  · exact .inl rfl
  · exact .inr rfl

theorem joined_joined (c : Char) : joined (joined c) = joined c := by
  rcases joined_cases c with hline | hsame
  · rw [hline]
    rfl
  · rw [hsame, hsame]

theorem trimmed_map_joined {s : List Char} (h : Trimmed isBlank s) :
    Trimmed isBlank (s.map joined) := by
  have hbecomes (c : Char) : Becomes c [joined c] := by
    refine ⟨List.cons_ne_nil _ _, fun hc d hd => ?_⟩
    rw [List.mem_singleton.mp hd]
    rcases joined_cases c with hline | hsame
    · rw [hline]
      decide
    · rw [hsame]
      exact hc
  apply h.of_becomes
  case hnil =>
    rintro rfl
    rfl
  case hfirst =>
    intro c hc
    obtain ⟨s', rfl⟩ := List.head?_eq_some_iff.mp hc
    exact ⟨[joined c], s'.map joined, rfl, hbecomes c⟩
  case hlast =>
    intro c hc
    obtain ⟨front, rfl⟩ := List.getLast?_eq_some_iff.mp hc
    exact ⟨front.map joined, [joined c], List.map_append, hbecomes c⟩

theorem trimmed_normalise (s : String) : Trimmed isBlank (normalise s).toList := by
  rw [toList_normalise]
  exact trimmed_map_joined (trimmed_lowerChars (trimmed_trimBy isBlank s.toList))

/-- A normal topic is its own normal form. -/
theorem normalise_normalise (s : String) : normalise (normalise s) = normalise s := by
  apply String.toList_inj.mp
  rw [toList_normalise (normalise s), (trimmed_normalise s).trimBy_eq]
  -- Every character is in lower case wherever it stands, and joined already.
  have hlower : lowerChars (normalise s).toList = (normalise s).toList := by
    apply lowerFrom_eq_self
    intro d hd b after
    rw [toList_normalise] at hd
    obtain ⟨c, hc, rfl⟩ := List.mem_map.mp hd
    rcases joined_cases c with hline | hsame
    · rw [hline]
      rfl
    · obtain ⟨c', -, b', after', hc'⟩ := exists_of_mem_lowerFrom hc
      rw [hsame]
      exact lowerIn_of_mem_lowerIn hc' b after
  rw [hlower, toList_normalise, List.map_map]
  exact List.map_congr_left fun c _ => joined_joined c

/-- Normal forms are blank for blank texts only. -/
theorem isBlankText_normalise {s : String} (h : isBlankText s = false) :
    isBlankText (normalise s) = false := by
  apply (trimmed_normalise s).all_eq_false
  rw [toList_normalise]
  intro hnil
  have htrim : trimBy isBlank s.toList ≠ [] := by
    intro hempty
    rw [isBlankText, trimBy_eq_nil.mp hempty] at h
    cases h
  obtain ⟨c, t, hsplit⟩ := List.exists_cons_of_ne_nil htrim
  rw [List.map_eq_nil_iff, hsplit] at hnil
  exact lowerIn_ne_nil false c t (List.append_eq_nil_iff.mp hnil).1

theorem spells_map_joined {s : List Char} {marked : Bool} (h : spells marked s = false) :
    spells marked (s.map joined) = false := by
  induction s generalizing marked with
  | nil => rfl
  | cons c s ih =>
    rw [List.map_cons]
    rcases joined_cases c with hline | hsame
    · -- What becomes a low line is no mark.
      have hc : c ≠ mark := by
        rintro rfl
        exact absurd hline (by decide)
      rw [hline]
      cases marked with
      | false =>
        have hs : spells (c = mark) s = false := h
        rw [decide_eq_false hc] at hs
        exact ih hs
      | true =>
        obtain ⟨-, hs⟩ := spells_marked.mp h
        exact spells_marked.mpr ⟨by decide, ih hs⟩
    · rw [hsame]
      cases marked with
      | false =>
        have hs : spells (c = mark) s = false := h
        exact ih hs
      | true =>
        obtain ⟨hc, hs⟩ := spells_marked.mp h
        exact spells_marked.mpr ⟨hc, ih hs⟩

/-- A normal form spells no surrogate that the topic does not. -/
theorem hasSurrogate_normalise {s : String} (h : hasSurrogate s = false) :
    hasSurrogate (normalise s) = false := by
  rw [hasSurrogate_eq] at h ⊢
  rw [toList_normalise]
  exact spells_map_joined (spells_lowerFrom false (spells_trimBy h))

end ComparativeLaw.Topic

import ComparativeLaw.Proofs.CaseLaw.Phrase
import ComparativeLaw.Proofs.Text.Sigma
import ComparativeLaw.Proofs.Text.Trim

namespace ComparativeLaw.Token

open Text

/-- A token for a word: what is left of it without the punctuation around it, or a word of
punctuation only as it is. -/
structure IsCore (word core : List Char) : Prop where
  ne_nil : core ≠ []
  around : ∃ l r, word = l ++ core ++ r ∧ (∀ c ∈ l, isPunctuation c = true) ∧
    ∀ c ∈ r, isPunctuation c = true
  bare : Trimmed isPunctuation core ∨ core = word ∧ ∀ c ∈ word, isPunctuation c = true

/-- The token of a word is its core. -/
theorem isCore_ofWord {word : List Char} (h : word ≠ []) : IsCore word (ofWord word) := by
  rw [ofWord]
  by_cases hcore : trimBy isPunctuation word = []
  · have hall : ∀ c ∈ word, isPunctuation c = true := List.all_eq_true.mp (trimBy_eq_nil.mp hcore)
    rw [hcore]
    exact ⟨h, ⟨[], [], by simp, nofun, nofun⟩, .inr ⟨rfl, hall⟩⟩
  · rw [if_neg (by simpa using hcore)]
    exact ⟨hcore, eq_append_trimBy isPunctuation word, .inl (trimmed_trimBy isPunctuation word)⟩

/-- No word has two such tokens. -/
theorem IsCore.eq_ofWord {word core : List Char} (h : IsCore word core) : core = ofWord word := by
  obtain ⟨l, r, hword, hl, hr⟩ := h.around
  rw [ofWord]
  rcases h.bare with htrimmed | ⟨hall, hpunctuation⟩
  · have htrim : trimBy isPunctuation word = core := hword ▸ htrimmed.trimBy_append hl hr
    rw [htrim, if_neg (by simpa using h.ne_nil)]
  · rw [trimBy_eq_nil.mpr (List.all_eq_true.mpr hpunctuation)]
    exact hall

/-- A token is its own token. -/
theorem IsCore.isCore_self {word core : List Char} (h : IsCore word core) : IsCore core core where
  ne_nil := h.ne_nil
  around := ⟨[], [], by simp, nofun, nofun⟩
  bare := h.bare.imp_right fun ⟨hall, hpunctuation⟩ => ⟨rfl, hall ▸ hpunctuation⟩

/-- The core of a word has no character that the word does not have. -/
theorem IsCore.subset {word core : List Char} (h : IsCore word core) : core ⊆ word := by
  obtain ⟨l, r, hword, -, -⟩ := h.around
  intro c hc
  rw [hword]
  exact List.mem_append_left _ (List.mem_append_right _ hc)

/-- The token of a word is that of its lower case. -/
theorem ofChars_of_isWord {w : List Char} (h : IsWord w) : ofChars w = [ofWord (lowerChars w)] := by
  rw [ofChars, h.lowerChars.words_eq, List.map_singleton]

/-- A token is a word, and its only token is itself. -/
theorem isWord_of_mem_ofChars {s t : List Char} (ht : t ∈ ofChars s) :
    IsWord t ∧ ofChars t = [t] := by
  obtain ⟨w, hw, rfl⟩ := List.mem_map.mp ht
  obtain ⟨hword, hsub⟩ := isWord_of_mem_words hw
  have hcore : IsCore w (ofWord w) := isCore_ofWord hword.ne_nil
  have htoken : IsWord (ofWord w) := ⟨hcore.ne_nil, fun c hc => hword.not_blank c (hcore.subset hc)⟩
  -- All characters of the token are in lower case already.
  have hlower : lowerChars (ofWord w) = ofWord w :=
    lowerFrom_eq_self false fun d hd => lowerIn_of_mem_lowerChars (hsub (hcore.subset hd))
  refine ⟨htoken, ?_⟩
  rw [ofChars_of_isWord htoken, hlower, ← hcore.isCore_self.eq_ofWord]

/-- Tokens that are put together with blanks have the same tokens again. -/
theorem ofText_intercalate_ofText (t : String) : ofText (" ".intercalate (ofText t)) = ofText t := by
  have hself : ∀ w ∈ ofText t, ofText w = [w] := by
    intro w hw
    obtain ⟨c, hc, rfl⟩ := List.mem_map.mp hw
    rw [ofText, String.toList_ofList, (isWord_of_mem_ofChars hc).2]
    rfl
  rw [ofText_intercalate, List.flatMap_congr hself]
  exact List.flatMap_singleton' _

theorem isWord_of_mem_ofText {t w : String} (hw : w ∈ ofText t) : IsWord w.toList := by
  obtain ⟨c, hc, rfl⟩ := List.mem_map.mp hw
  rw [String.toList_ofList]
  exact (isWord_of_mem_ofChars hc).1

/-- The tokens of a text are those of its parts on either side of any blank, and the tokens of the
holdings those of their issues and conclusions. They are words and stay the same when they are put
together; only a blank text has none, and a word has one, which is made of its characters in lower
case where they stand. -/
theorem ofText_local :
    (∀ (s t : String) (b : Char), isBlank b = true →
      ofText (s.push b ++ t) = ofText s ++ ofText t) ∧
    (∀ d : Decision, ofText (CaseIndex.holdingText d) =
      d.holdings.flatMap fun h => ofText h.issue ++ ofText h.conclusion) ∧
    (∀ t : String, (∀ w ∈ ofText t, w ≠ "" ∧ ∀ c ∈ w.toList, isBlank c = false) ∧
      ofText (" ".intercalate (ofText t)) = ofText t ∧
      (ofText t = [] ↔ isBlankText t = true)) ∧
    ∀ w : String, w ≠ "" → (∀ c ∈ w.toList, isBlank c = false) → ∃ core,
      ofText w = [String.ofList core] ∧
        IsCore (w.toList.zipIdx.flatMap fun e => lowerAt w.toList e.2 e.1) core := by
  refine ⟨fun s t b hb => ofText_push_append hb s t, CaseIndex.holdingTokens_eq,
    fun t => ⟨fun w hw => ?_, ofText_intercalate_ofText t, ofText_eq_nil_iff⟩,
    fun w hne hblank => ?_⟩
  · have hword := isWord_of_mem_ofText hw
    exact ⟨fun hempty => hword.ne_nil (by simp [hempty]), hword.not_blank⟩
  · have hword : IsWord w.toList := ⟨by simpa using hne, hblank⟩
    refine ⟨ofWord (lowerChars w.toList), ?_, ?_⟩
    · rw [ofText, ofChars_of_isWord hword, List.map_singleton]
    · rw [← lowerChars_eq]
      exact isCore_ofWord hword.lowerChars.ne_nil

/-- A sigma before a full stop and a tab is final, whatever comes after them. -/
theorem ofText_local_greek : isBlank '\t' = true ∧
    ofText ("ΟΔΟΣ.".push '\t' ++ "ΟΔΟΣ") = ofText "ΟΔΟΣ." ++ ofText "ΟΔΟΣ" ∧
    "ΟΔΟΣ." ≠ "" ∧ (∀ c ∈ "ΟΔΟΣ.".toList, isBlank c = false) ∧
    ∃ core, ofText "ΟΔΟΣ." = [String.ofList core] ∧ IsCore ['ο', 'δ', 'ο', 'ς', '.'] core := by
  have hchars : "ΟΔΟΣ.".toList = ['Ο', 'Δ', 'Ο', 'Σ', '.'] := String.toList_ofList
  have hblank : isBlank '\t' = true := by decide
  have hne : "ΟΔΟΣ." ≠ "" := by decide
  have hword : ∀ c ∈ "ΟΔΟΣ.".toList, isBlank c = false := by
    have hall : (['Ο', 'Δ', 'Ο', 'Σ', '.'].all fun c => !isBlank c) = true := rfl
    intro c hc
    rw [hchars] at hc
    simpa using List.all_eq_true.mp hall c hc
  have hlower : ("ΟΔΟΣ.".toList.zipIdx.flatMap fun e => lowerAt "ΟΔΟΣ.".toList e.2 e.1) =
      ['ο', 'δ', 'ο', 'ς', '.'] := by
    rw [hchars]
    decide +kernel
  obtain ⟨hlocal, -, -, hone⟩ := ofText_local
  exact ⟨hblank, hlocal "ΟΔΟΣ." "ΟΔΟΣ" '\t' hblank, hne, hword, hlower ▸ hone "ΟΔΟΣ." hne hword⟩

end ComparativeLaw.Token

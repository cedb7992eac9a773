import ComparativeLaw.Proofs.Engine.Building
import ComparativeLaw.Proofs.Table

namespace ComparativeLaw

namespace Postings

theorem count_eraseDups (texts : List String) (t : String) :
    texts.eraseDups.count t = if t ∈ texts then 1 else 0 := by
  induction texts using List.reverseRecOn with
  | nil => rfl
  | append_singleton texts s ih =>
    rw [Table.eraseDups_snoc]
    by_cases hs : s ∈ texts
    · have hmem : t ∈ texts ++ [s] ↔ t ∈ texts := by
        rw [List.mem_append, List.mem_singleton]
        exact or_iff_left_of_imp fun h => h ▸ hs
      simp only [if_pos hs, ih, hmem]
    · rw [if_neg hs, List.count_append, ih]
      by_cases ht : t = s
      · simp [ht, hs]
      · simp [ht, Ne.symm ht]

/-- Among the distinct texts each one is filed once. -/
theorem ids_fileAll (p : Postings) (texts : List String) (id t : String) :
    (p.fileAll texts id).ids t = p.ids t ++ if t ∈ texts then [id] else [] := by
  rw [fileAll, ids_foldl_file, count_eraseDups]
  split <;> rfl

end Postings

namespace CaseIndex

variable {ix : CaseIndex} {d : Decision} {cited : List String}

/-- Citations are texts, or some texts stand before a first one that is none. -/
theorem texts_or_first (js : List Json) : (∃ cited : List String, js = cited.map .text) ∨
    ∃ (cited : List String) (j : Json) (rest : List Json),
      js = cited.map .text ++ j :: rest ∧ ∀ s, j ≠ .text s := by
  induction js with
  | nil => exact .inl ⟨[], rfl⟩
  | cons j js ih =>
    by_cases hj : ∃ s, j = .text s
    · obtain ⟨s, rfl⟩ := hj
      rcases ih with ⟨cited, rfl⟩ | ⟨cited, j, rest, rfl, hfirst⟩
      · exact .inl ⟨s :: cited, rfl⟩
      · exact .inr ⟨s :: cited, j, rest, rfl, hfirst⟩
    · exact .inr ⟨[], j, js, rfl, not_exists.mp hj⟩

/-- Statutes that are texts are all filed before what follows them. -/
theorem fileStatutes_append (id : String) (cited : List String) (js : List Json) (p : Postings) :
    fileStatutes id (cited.map Json.text ++ js) p =
      fileStatutes id js ((cited.map statuteKey).foldl (fun p k => p.file k id) p) := by
  induction cited generalizing p with
  | nil => rfl
  | cons s cited ih => exact ih _

/-- Statutes that are texts are all filed. -/
theorem fileStatutes_texts (id : String) (cited : List String) (p : Postings) :
    fileStatutes id (cited.map Json.text) p =
      ((cited.map statuteKey).foldl (fun p k => p.file k id) p, .ok ()) := by
  have happend := fileStatutes_append id cited [] p
  rwa [List.append_nil] at happend

/-- Filing ends at the first statute that is no text; the ones before it stay filed. -/
theorem fileStatutes_first (id : String) (cited : List String) {j : Json} (hj : ∀ s, j ≠ .text s)
    (rest : List Json) (p : Postings) :
    fileStatutes id (cited.map Json.text ++ j :: rest) p =
      ((cited.map statuteKey).foldl (fun p k => p.file k id) p, .error .noPart) := by
  rw [fileStatutes_append]
  cases j with
  | text s => exact absurd rfl (hj s)
  | null | bool | int | float | list | object => rfl

/-- The index `ix'` is the index `ix` with a decision stored last, filed once under each token of
its summary and of its holdings, and once for each of the given citations. -/
structure Adds (ix : CaseIndex) (d : Decision) (cited : List String) (ix' : CaseIndex) : Prop where
  decisions : ix'.decisions = ix.decisions ++ [(d.id, d)]
  summaries : ∀ t, ix'.summaries.ids t =
    ix.summaries.ids t ++ if t ∈ Token.ofText d.summary then [d.id] else []
  holdings : ∀ t, ix'.holdings.ids t =
    ix.holdings.ids t ++ if t ∈ Token.ofText (holdingText d) then [d.id] else []
  statutes : ∀ k, ix'.statutes.ids k =
    ix.statutes.ids k ++ List.replicate ((cited.map statuteKey).count k) d.id

/-- A new decision is filed with its tokens and the statutes up to some place. -/
theorem adds_of_filed (hnew : d.id ∉ ix.decisions.keys) (cited : List String) :
    Adds ix d cited { ix.fileTokens d with
      statutes := (cited.map statuteKey).foldl (fun p k => p.file k d.id) ix.statutes } where
  decisions := Table.insert_of_not_mem hnew d
  summaries := Postings.ids_fileAll _ _ _
  holdings := Postings.ids_fileAll _ _ _
  statutes := Postings.ids_foldl_file _ _ _

/-- A new decision with text citations is stored and filed whole. -/
theorem add_of_texts (hnew : d.id ∉ ix.decisions.keys) (hcited : d.statutes = cited.map .text) :
    (ix.add d).2 = .ok () ∧ Adds ix d cited (ix.add d).1 := by
  rw [add_of_new hnew, hcited, fileStatutes_texts]
  exact ⟨rfl, adds_of_filed hnew cited⟩

/-- The first citation that is no text ends the addition of a new decision, which stays filed under
the citations before it. -/
theorem add_of_first (hnew : d.id ∉ ix.decisions.keys) {j : Json} {rest : List Json}
    (hcited : d.statutes = cited.map .text ++ j :: rest) (hj : ∀ s, j ≠ .text s) :
    (ix.add d).2 = .error .noPart ∧ Adds ix d cited (ix.add d).1 := by
  rw [add_of_new hnew, hcited, fileStatutes_first _ _ hj]
  exact ⟨rfl, adds_of_filed hnew cited⟩

/-- Whatever the index holds, an addition stores and files the whole decision, or it is refused for
a repeated identifier and changes nothing. Only a citation that is no text ends it in between: then
the decision stays stored, and filed under its tokens and the citations before that one. -/
theorem add_whole_or_refused (ix : CaseIndex) (d : Decision) :
    (d.id ∈ ix.decisions.keys ∧ ix.add d = (ix, .error (.failure (.duplicateId d.id)))) ∨
    (d.id ∉ ix.decisions.keys ∧ ∃ cited : List String, d.statutes = cited.map .text ∧
      (ix.add d).2 = .ok () ∧ Adds ix d cited (ix.add d).1) ∨
    d.id ∉ ix.decisions.keys ∧ ∃ (cited : List String) (j : Json) (rest : List Json),
      d.statutes = cited.map .text ++ j :: rest ∧ (∀ s, j ≠ .text s) ∧
        (ix.add d).2 = .error .noPart ∧ Adds ix d cited (ix.add d).1 := by
  by_cases hid : d.id ∈ ix.decisions.keys
  · exact .inl ⟨hid, add_of_stored hid⟩
  · rcases texts_or_first d.statutes with ⟨cited, hcited⟩ | ⟨cited, j, rest, hcited, hfirst⟩
    · exact .inr (.inl ⟨hid, cited, hcited, add_of_texts hid hcited⟩)
    · exact .inr (.inr ⟨hid, cited, j, rest, hcited, hfirst, add_of_first hid hcited hfirst⟩)

/-- A record that cites a statute by its name and then another one by its number. -/
def numberedRecord : Json :=
  .object [("id", .text "a"), ("case_number", .text "1"), ("decided", .text "2020-01-01"),
    ("court_level", .text "supreme"), ("topic", .text "fraud"), ("summary", .text "fraud"),
    ("cited_statutes", .list [.text "Civ. Code 1714", .int 1714])]

/-- An addition that fails can leave the decision stored, so that adding it again is refused. -/
theorem add_leaves_part : ∃ d, Decision.ofLoose numberedRecord = .ok d ∧
    (({} : CaseIndex).add d).2 = .error .noPart ∧ (({} : CaseIndex).add d).1 ≠ {} ∧
    ((({} : CaseIndex).add d).1.add d).2 = .error (.failure (.duplicateId d.id)) := by
  refine ⟨_, rfl, rfl, fun h => ?_, rfl⟩
  have hsize : 1 = ({} : CaseIndex).size := congrArg size h
  exact absurd hsize (by decide)

end CaseIndex
end ComparativeLaw

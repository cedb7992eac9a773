import ComparativeLaw.CaseLaw.Index
import Mathlib.Data.List.Nodup

namespace ComparativeLaw

namespace Postings

theorem ids_file (p : Postings) (text id t : String) :
    (p.file text id).ids t = if text = t then p.ids text ++ [id] else p.ids t := by
  rw [ids, file, Table.alter, Table.get?_insert]
  split <;> rfl

/-- An identifier is filed once for each occurrence of a text. -/
theorem ids_foldl_file (p : Postings) (texts : List String) (id t : String) :
    (texts.foldl (fun p s => p.file s id) p).ids t =
      p.ids t ++ List.replicate (texts.count t) id := by
  -- On the texts: filing under one of them leaves the postings of all others alone.
  induction texts generalizing p with
  | nil => simp
  | cons s texts ih =>
    rw [List.foldl_cons, ih, ids_file, List.count_cons]
    by_cases hs : s = t
    · simp [hs, List.replicate_succ]
    · simp [hs]

/-- Filing adds an identifier under the texts that are filed and nowhere else. -/
theorem mem_ids_fileAll {p : Postings} {texts : List String} {id t x : String} :
    x ∈ (p.fileAll texts id).ids t ↔ x ∈ p.ids t ∨ x = id ∧ t ∈ texts := by
  rw [fileAll, ids_foldl_file, List.mem_append, List.mem_replicate, and_comm,
    ← Nat.pos_iff_ne_zero, List.count_pos_iff, List.mem_eraseDups]

theorem mem_foldl_filter {α β : Type} {f : β → α → Bool} {xs : List α} {bs : List β} {x : α} :
    x ∈ bs.foldl (fun found b => found.filter (f b)) xs ↔ x ∈ xs ∧ ∀ b ∈ bs, f b x = true := by
  induction bs generalizing xs with
  | nil => simp
  | cons b bs ih =>
    rw [List.foldl_cons, ih, List.mem_filter, List.forall_mem_cons, and_assoc]

/-- A phrase is found where it has a token and all its tokens are. -/
theorem mem_hits {p : Postings} {phrase id : String} :
    id ∈ p.hits phrase ↔
      Token.ofText phrase ≠ [] ∧ ∀ t ∈ Token.ofText phrase, id ∈ p.ids t := by
  unfold hits
  split
  · next h => simp [h]
  · next t ts h =>
    rw [mem_foldl_filter (f := fun t => (p.ids t).contains), h]
    simp

end Postings

namespace Decision

/-- Keeps a decision unless one with its identifier is kept already. -/
def keepNew (kept : List Decision) (d : Decision) : List Decision :=
  if d.id ∈ kept.map (·.id) then kept else kept ++ [d]

/-- The first decision of each identifier, in order. -/
def firstOfEach (ds : List Decision) : List Decision := ds.foldl keepNew []

end Decision

namespace CaseIndex

/-- The index that adding decisions one by one leads to, refused ones included. -/
def addEach (ix : CaseIndex) (ds : List Decision) : CaseIndex :=
  ds.foldl (fun ix d => (ix.add d).1) ix

/-- Postings that hold an identifier under exactly the tokens of the decision with it. -/
def Indexes (p : Postings) (tokens : Decision → List String) (ds : List Decision) : Prop :=
  ∀ t id, id ∈ p.ids t ↔ ∃ d ∈ ds, d.id = id ∧ t ∈ tokens d

def summaryTokens (d : Decision) : List String := Token.ofText d.summary

def holdingTokens (d : Decision) : List String := Token.ofText (holdingText d)

/-- Each decision stands under its own identifier, no identifier twice, and the postings hold the
tokens of the decisions and no others. -/
structure Filed (ix : CaseIndex) : Prop where
  keyed : ix.decisions = ix.toList.map fun d => (d.id, d)
  nodup : (ix.toList.map (·.id)).Nodup
  summaries : Indexes ix.summaries summaryTokens ix.toList
  holdings : Indexes ix.holdings holdingTokens ix.toList

theorem filed_empty : Filed {} where
  keyed := rfl
  nodup := List.nodup_nil
  summaries t id := by simp [Postings.ids, Table.get?, toList, Table.values]
  holdings t id := by simp [Postings.ids, Table.get?, toList, Table.values]

/-- Filing the tokens of one more decision keeps the postings those of all. -/
theorem Indexes.fileAll {p : Postings} {tokens : Decision → List String} {ds : List Decision}
    (h : Indexes p tokens ds) (d : Decision) :
    Indexes (p.fileAll (tokens d) d.id) tokens (ds ++ [d]) := by
  intro t id
  rw [Postings.mem_ids_fileAll, h t id]
  constructor
  · rintro (⟨e, he, hid, ht⟩ | ⟨rfl, ht⟩)
    · exact ⟨e, List.mem_append_left _ he, hid, ht⟩
    · exact ⟨d, List.mem_append_right _ (List.mem_singleton_self d), rfl, ht⟩
  · rintro ⟨e, he, hid, ht⟩
    rcases List.mem_append.mp he with he | he
    · exact Or.inl ⟨e, he, hid, ht⟩
    · cases List.mem_singleton.mp he
      exact Or.inr ⟨hid.symm, ht⟩

/-- With one decision for each identifier, postings tell the tokens of a decision. -/
theorem Indexes.mem_iff {p : Postings} {tokens : Decision → List String} {ds : List Decision}
    (h : Indexes p tokens ds) (hn : (ds.map (·.id)).Nodup) {d : Decision} (hd : d ∈ ds)
    (t : String) : d.id ∈ p.ids t ↔ t ∈ tokens d := by
  rw [h t d.id]
  constructor
  · rintro ⟨e, he, hid, ht⟩
    rwa [← List.inj_on_of_nodup_map hn he hd hid]
  · exact fun ht => ⟨d, hd, rfl, ht⟩

variable {ix : CaseIndex}

theorem add_of_stored {d : Decision} (hold : d.id ∈ ix.decisions.keys) :
    ix.add d = (ix, .error (.failure (.duplicateId d.id))) :=
  if_pos ((Table.contains_iff _ _).mpr hold)

/-- A new decision is filed with its tokens and statutes, also if the statutes break off. -/
theorem add_of_new {d : Decision} (hnew : d.id ∉ ix.decisions.keys) :
    ix.add d = ({ ix.fileTokens d with
      statutes := (fileStatutes d.id d.statutes ix.statutes).1 },
      (fileStatutes d.id d.statutes ix.statutes).2) :=
  if_neg fun hc => hnew ((Table.contains_iff _ _).mp hc)

theorem Filed.keys_decisions (h : Filed ix) : ix.decisions.keys = ix.toList.map (·.id) := by
  rw [h.keyed, Table.keys, List.map_map]
  rfl

/-- Adding keeps the first decision of each identifier. -/
theorem Filed.toList_add (h : Filed ix) (d : Decision) :
    (ix.add d).1.toList = Decision.keepNew ix.toList d := by
  rw [Decision.keepNew, ← h.keys_decisions]
  by_cases hd : d.id ∈ ix.decisions.keys
  · rw [add_of_stored hd, if_pos hd]
  · rw [add_of_new hd, if_neg hd]
    simp only [toList, fileTokens, Table.insert_of_not_mem hd, Table.values, List.map_append,
      List.map_cons, List.map_nil]

/-- An addition keeps the index in order, also one that is refused or that a statute ends. -/
theorem Filed.add (h : Filed ix) (d : Decision) : Filed (ix.add d).1 := by
  have hl := h.toList_add d
  rw [Decision.keepNew, ← h.keys_decisions] at hl
  by_cases hd : d.id ∈ ix.decisions.keys
  · -- A repeated identifier is refused and the index stays as it is.
    rwa [add_of_stored hd]
  · -- A new decision comes last, and its tokens are filed before its statutes are.
    rw [if_neg hd, add_of_new hd] at hl
    rw [add_of_new hd]
    refine ⟨?_, ?_, ?_, ?_⟩
    · rw [hl, List.map_append, ← h.keyed]
      exact Table.insert_of_not_mem hd d
    · rw [hl, List.map_append, ← h.keys_decisions]
      have hnodup : ix.decisions.keys.Nodup := h.keys_decisions ▸ h.nodup
      exact List.nodup_append'.mpr
        ⟨hnodup, List.nodup_singleton _, List.disjoint_singleton.mpr hd⟩
    · rw [hl]
      exact h.summaries.fileAll d
    · rw [hl]
      exact h.holdings.fileAll d

/-- Every index that is reached by additions is in order and keeps what came first. -/
theorem Filed.addEach (h : Filed ix) (ds : List Decision) :
    Filed (ix.addEach ds) ∧ (ix.addEach ds).toList = ds.foldl Decision.keepNew ix.toList := by
  -- On the additions; what each of them keeps is that the index is in order.
  induction ds generalizing ix with
  | nil => exact ⟨h, rfl⟩
  | cons d ds ih =>
    have hd := ih (h.add d)
    rw [h.toList_add d] at hd
    exact hd

end CaseIndex
end ComparativeLaw

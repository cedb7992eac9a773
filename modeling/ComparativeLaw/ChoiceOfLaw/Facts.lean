import ComparativeLaw.Json.Conversion

namespace ComparativeLaw

structure Contact where
  kind : ContactKind
  code : String
deriving DecidableEq, Repr

structure Interest where
  code : String
  policy : String := ""
deriving DecidableEq, Repr

/-- The topic of a dispute, the contacts that tie it to jurisdictions, and the policy interests that
jurisdictions assert. -/
structure Facts where
  topic : Topic
  contacts : List Contact := []
  /-- Notes on the policies at stake: a text, as a rule. -/
  notes : Json := .text ""
  interests : List Interest := []
deriving Repr

/-- Adds a text last unless it is there already. -/
def addNew (seen : List String) (c : String) : List String :=
  if seen.contains c then seen else seen ++ [c]

/-- The distinct texts of a list in the order of first occurrence. -/
def firstSeen (codes : List String) : List String :=
  codes.foldl addNew []

theorem mem_addNew {seen : List String} {c x : String} : x ∈ addNew seen c ↔ x ∈ seen ∨ x = c := by
  by_cases h : c ∈ seen <;> simp [addNew, h]
  rintro rfl
  exact h

theorem nodup_addNew {seen : List String} (h : seen.Nodup) (c : String) :
    (addNew seen c).Nodup := by
  by_cases hc : c ∈ seen
  · simpa [addNew, hc] using h
  · simp only [addNew, List.contains_eq_mem, hc, decide_false, Bool.false_eq_true, if_false]
    refine List.nodup_append.mpr ⟨h, by simp, fun a ha b hb => ?_⟩
    rintro rfl
    exact hc (List.mem_singleton.mp hb ▸ ha)

theorem mem_foldl_addNew {codes seen : List String} {x : String} :
    x ∈ codes.foldl addNew seen ↔ x ∈ seen ∨ x ∈ codes := by
  induction codes generalizing seen with
  | nil => simp
  | cons c codes ih => rw [List.foldl_cons, ih, mem_addNew, List.mem_cons, or_assoc]

theorem mem_firstSeen {codes : List String} {x : String} : x ∈ firstSeen codes ↔ x ∈ codes := by
  simp [firstSeen, mem_foldl_addNew]

/-- No text occurs twice. -/
theorem nodup_firstSeen (codes : List String) : (firstSeen codes).Nodup := by
  suffices h : ∀ seen : List String, seen.Nodup → (codes.foldl addNew seen).Nodup from
    h [] List.nodup_nil
  induction codes with
  | nil => exact fun seen h => h
  | cons c codes ih => exact fun seen h => ih _ (nodup_addNew h c)

namespace Contact

/-- A contact with a referenced jurisdiction; it must have a code. -/
def of (kind : ContactKind) (ref : Reference) : Except Complaint Contact :=
  let code := canonicalCode ref.code.plain
  if code.isEmpty then .error (.emptyContact kind) else .ok { kind, code }

def toJson (c : Contact) : Json :=
  .object [("kind", .text c.kind.code), ("jurisdiction", .text c.code)]

end Contact

namespace Interest

def of (ref : Reference) (policy : String) : Interest :=
  { code := canonicalCode ref.code.plain, policy }

def toJson (i : Interest) : Json :=
  .object [("jurisdiction", .text i.code), ("policy", .text i.policy)]

end Interest

namespace Facts

def category (f : Facts) : Category := f.topic.category

def first? (f : Facts) (kind : ContactKind) : Option Contact :=
  f.contacts.find? fun c => c.kind = kind

def named (f : Facts) : List String := firstSeen (f.contacts.map (·.code))

def interested (f : Facts) : List String := firstSeen (f.interests.map (·.code))

def toJson (f : Facts) : Json :=
  .object [("topic", .text f.topic.code), ("factors", .list (f.contacts.map Contact.toJson)),
    ("policy_notes", f.notes), ("interests", .list (f.interests.map Interest.toJson))]

def of (topic : Topic) (contacts : List (ContactKind × Reference)) (notes : Json)
    (interests : List Interest) : Except Complaint Facts := do
  return { topic, contacts := ← contacts.mapM fun e => Contact.of e.1 e.2, notes, interests }

/-- Builds a fact pattern; the contacts are checked before the topic. -/
def build (topic : Json) (contacts : List (Json × Reference)) (notes : Json)
    (interests : List Interest) : Except Fault Facts := do
  let contacts ← contacts.mapM fun e => do
    (Contact.of (← e.1.toMember) e.2).mapError .complaint
  return { topic := ← topic.toTopic, contacts, notes, interests }

end Facts
end ComparativeLaw

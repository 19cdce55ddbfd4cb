import ActivityLedger.Proofs.Exchange.Formats

/-!
# Events, keys and trackers are read back

Each record and each choice is read as what it was written from, whatever its fields are.
Nothing relates the fields of one record to each other.
-/

namespace ActivityLedger

open Json

/-! ## Kinds -/

instance : LawfulFormat TrackerKind where
  whole_of kind := .text kind.name
  read?_of kind := readName?_writeName (by cases kind <;> decide) (by decide)

instance : LawfulFormat ContentKind where
  whole_of kind := .text kind.name
  read?_of kind := readName?_writeName (by cases kind <;> decide) (by decide)

instance : LawfulFormat Operation where
  whole_of operation := .text operation.name
  read?_of operation := readName?_writeName (by cases operation <;> decide) (by decide)

instance : LawfulFormat Vote where
  whole_of vote := .text vote.name
  read?_of vote := readName?_writeName (by cases vote <;> decide) (by decide)

instance : LawfulFormat Quadrant where
  whole_of quadrant := .text quadrant.name
  read?_of quadrant := readName?_writeName (by cases quadrant <;> decide) (by decide)

instance : LawfulFormat (Option String) := lawfulFormat_option fun _ => nofun

instance : LawfulFormat (Option Vote) := lawfulFormat_option fun _ => nofun

/-! ## Events -/

instance : LawfulFormat Actor where
  whole_of
    | .user id => .object (by simp [Value.Whole.text])
    | .anonymous => .object (by simp [Value.Whole.text])
  read?_of
    | .user id => by
        have named : readName? [Actor.Case.user, .anonymous] Actor.Case.name (.text "user") =
            some .user := by decide
        change (choice? "type" "id" memberRoom
          (.object [("type", .text "user"), ("id", .of id)])).bind _ = _
        simp [choice?_object, named]
    | .anonymous => rfl

instance : LawfulFormat Event where
  whole_of event := .object (by simp)
  read?_of event := by
    change Format.read? (Format.write event) = some event
    simp [Format.read?, Format.write, fields?_object]

instance : LawfulFormat Attribution where
  whole_of attribution := .object (by simp)
  read?_of attribution := by
    change Format.read? (Format.write attribution) = some attribution
    simp [Format.read?, Format.write, fields?_object]

/-! ## Targets, templates and updates -/

instance : LawfulFormat Target where
  whole_of target := .object (by simp)
  read?_of target := by
    change (choice? "kind" "id" memberRoom
      (.object [("kind", .of target.kind), ("id", .of target.entityId)])).bind _ = _
    rw [choice?_object (by decide)]
    simp only [Option.bind_some, requiredField_of, read?_of]
    cases target <;> rfl

instance : LawfulFormat Counter where
  whole_of counter := .object (by simp [Value.Whole.text])
  read?_of counter := by
    change (choice? "kind" "name" memberRoom
      (.object [("kind", .of counter.kind), ("name", .text counter.columnName)])).bind _ = _
    rw [choice?_object (by decide)]
    simp only [Option.bind_some, read?_of]
    cases counter <;> simp [Counter.kind, Counter.columnName, readColumn?_column]

instance : LawfulFormat Update where
  whole_of update := .object (by simp)
  read?_of update := by
    change Format.read? (Format.write update) = some update
    simp [Format.read?, Format.write, fields?_object]

instance : LawfulFormat Template where
  whole_of
    | .user userId => .object (by simp [Value.Whole.text])
    | .post postId authorId => .object (by simp [Value.Whole.text])
    | .comment commentId authorId => .object (by simp [Value.Whole.text])
  read?_of template := by
    have readable (s : String) : isReadable memberRoom (Value.of s) = true := rfl
    change Format.read? (Format.write template) = some template
    cases template <;>
      simp [Format.read?, Format.write, merged?_object, areMembersReadable, readable,
        fields?_object]

/-! ## Trackers -/

/-- The counters of a content item are read back with whatever room for late kinds, because
their kind comes first. -/
theorem ContentCounters.ofValue?_of (room : Nat) (counters : ContentCounters) :
    ContentCounters.ofValue? room (.of counters) = some counters := by
  cases counters with
  | post counters =>
      have written : Value.of (ContentCounters.post counters) =
          .object [("kind", .of ContentKind.post), ("counters", .of counters)] := rfl
      simp [ofValue?, written, choice?_object]
  | comment counters =>
      have written : Value.of (ContentCounters.comment counters) =
          .object [("kind", .of ContentKind.comment), ("counters", .of counters)] := rfl
      simp [ofValue?, written, choice?_object]

instance : LawfulFormat ContentCounters where
  whole_of
    | .post counters => .object (by simp)
    | .comment counters => .object (by simp)
  read?_of := ContentCounters.ofValue?_of memberRoom

instance : LawfulFormat ContentTracker where
  whole_of tracker := .object (by simp)
  read?_of tracker := by
    change Format.read? (Format.write tracker) = some tracker
    simp [Format.read?, Format.write, fields?_object, ContentCounters.ofValue?_of]

instance : LawfulFormat UserTracker where
  whole_of tracker := .object (by simp)
  read?_of tracker := by
    change Format.read? (Format.write tracker) = some tracker
    simp [Format.read?, Format.write, fields?_object]

instance : LawfulFormat Key where
  whole_of key := .object (by simp)
  read?_of key := by
    change Format.read? (Format.write key) = some key
    simp [Format.read?, Format.write, fields?_object]

/-! ## Texts -/

/-- Everything of the type is read back from its text, in either layout. -/
def ReadsBack (α : Type) [Format α] : Prop :=
  ∀ a : α, (Value.read? (Value.of a).compact).bind read? = some a ∧
    (Value.read? (Value.of a).pretty).bind read? = some a

theorem readsBack {α : Type} [Format α] [LawfulFormat α] : ReadsBack α := fun a =>
  ⟨by rw [(whole_of a).read?_compact, Option.bind_some, read?_of],
    by rw [(whole_of a).read?_pretty, Option.bind_some, read?_of]⟩

/-- Reading undoes writing for every type that is stored or exchanged, with no consistency
assumed between the fields of a record. -/
theorem exchanged_readsBack :
    ReadsBack Event ∧ ReadsBack Actor ∧ ReadsBack Target ∧ ReadsBack Counter ∧
      ReadsBack Update ∧ ReadsBack Template ∧ ReadsBack ContentCounters ∧
      ReadsBack ContentTracker ∧ ReadsBack UserTracker ∧ ReadsBack Key ∧ ReadsBack Attribution :=
  ⟨readsBack, readsBack, readsBack, readsBack, readsBack, readsBack, readsBack, readsBack,
    readsBack, readsBack, readsBack⟩

end ActivityLedger

import ActivityLedger.Exchange.Trackers
import ActivityLedger.Proofs.Json.Layouts
import ActivityLedger.Proofs.StoredDates
import Mathlib.Data.List.Nodup

/-!
# Formats that read back what they write

Numbers, texts, dates, lists, named cases and tables of columns are read back, and so are
the parts that records and choices are written with.
-/

namespace ActivityLedger.Json

/-- What is written has no broken part and is read back. -/
class LawfulFormat (α : Type) [Format α] : Prop where
  whole_of (a : α) : (Value.of a).Whole
  read?_of (a : α) : read? (Value.of a) = some a

export LawfulFormat (whole_of read?_of)

attribute [simp] read?_of whole_of

/-! ## Records -/

/-- The value of a member is found where no two members have one name. -/
theorem only?_of_mem {name : String} {value : Value} {members : List (String × Value)}
    (distinct : (members.map Prod.fst).Nodup) (member : (name, value) ∈ members) :
    only? name members = some (some value) := by
  suffices found : (members.filter fun member => member.1 == name) = [(name, value)] by
    rw [only?, found]
  induction members with
  | nil => exact absurd member List.not_mem_nil
  | cons first rest ih =>
      obtain ⟨fresh, distinct⟩ := List.nodup_cons.mp distinct
      rcases List.mem_cons.mp member with rfl | later
      · have others : (rest.filter fun member => member.1 == name) = [] := by
          rw [List.filter_eq_nil_iff]
          intro other isOther same
          exact fresh (List.mem_map.mpr ⟨other, isOther, by simpa using same⟩)
        rw [List.filter_cons_of_pos (by simp), others]
      · have other : first.1 ≠ name := by
          rintro rfl
          exact fresh (List.mem_map.mpr ⟨_, later, rfl⟩)
        rw [List.filter_cons_of_neg (by simpa using other), ih distinct later]

theorem mapM_eq_some {α β : Type} {f : α → Option β} {g : α → β} {xs : List α}
    (each : ∀ x ∈ xs, f x = some (g x)) : xs.mapM f = some (xs.map g) := by
  induction xs with
  | nil => rfl
  | cons x xs ih =>
      have rest := ih fun other member => each other (List.mem_cons_of_mem x member)
      simp [List.mapM_cons, each x List.mem_cons_self, rest]

theorem fields?_object {names : List String} {members : List (String × Value)}
    (named : members.map Prod.fst = names) (distinct : names.Nodup) :
    fields? names (.object members) = some (members.map fun member => some member.2) := by
  subst named
  have each : ∀ member ∈ members, only? member.1 members = some (some member.2) :=
    fun member isMember => only?_of_mem distinct isMember
  rw [fields?, List.mapM_map]
  exact mapM_eq_some each

@[simp] theorem requiredField_of {α : Type} [Format α] [LawfulFormat α] (a : α) :
    requiredField (some (Value.of a)) = some a :=
  read?_of a

@[simp] theorem optionalField_of {α : Type} [Format α] [LawfulFormat (Option α)] (a : Option α) :
    optionalField (some (Value.of a)) = some a :=
  read?_of a

/-! ## Choices -/

theorem readName?_writeName {α : Type} {cases : List α} {name : α → String} {case : α}
    (member : case ∈ cases) (distinct : (cases.map name).Nodup) :
    readName? cases name (writeName name case) = some case := by
  simp only [writeName, readName?]
  cases found : cases.find? fun other => name other == name case with
  | none => exact absurd (List.find?_eq_none.mp found case member) (by simp)
  | some other =>
      have same : name other = name case := by simpa using List.find?_some found
      have inCases := List.mem_of_find?_eq_some found
      rw [List.inj_on_of_nodup_map distinct inCases member same]

/-- A choice that is written with its name first is read, whatever the room. -/
theorem choice?_object {nameKey contentKey : String} (different : nameKey ≠ contentKey) (room : Nat)
    (name content : Value) :
    choice? nameKey contentKey room (.object [(nameKey, name), (contentKey, content)]) =
      some (name, some content) := by
  simp [choice?, only?, different, different.symm]

theorem merged?_object {nameKey name : String} {others : List (String × Value)}
    (fresh : nameKey ∉ others.map Prod.fst)
    (readable : areMembersReadable memberRoom others = true) :
    merged? nameKey (.object ((nameKey, .text name) :: others)) = some (name, .object others) := by
  have elsewhere : ∀ other ∈ others, other.1 ≠ nameKey := by
    rintro other isOther rfl
    exact fresh (List.mem_map.mpr ⟨other, isOther, rfl⟩)
  have named : (others.filter fun other => other.1 == nameKey) = [] :=
    List.filter_eq_nil_iff.mpr fun other isOther => by simpa using elsewhere other isOther
  have unnamed : (others.filter fun other => other.1 != nameKey) = others :=
    List.filter_eq_self.mpr fun other isOther => by simpa using elsewhere other isOther
  simp [merged?, only?, named, unnamed, Value.text?, readable]

/-! ## Simple types -/

instance : LawfulFormat String where
  whole_of := .text
  read?_of _ := rfl

instance : LawfulFormat Bool where
  whole_of := .bool
  read?_of _ := rfl

instance {lo hi : Int} : LawfulFormat (Bounded lo hi) where
  whole_of n := .number (.integer n.val)
  read?_of := Bounded.ofInt?_val

instance {α : Type} [Format α] [LawfulFormat α] : LawfulFormat (List α) where
  whole_of items := .list (List.forall_mem_map.mpr fun item _ => whole_of item)
  read?_of items := by
    have each := mapM_eq_some (f := read? ∘ Value.of) (g := id) fun item (_ : item ∈ items) =>
      read?_of item
    rw [← List.mapM_map, List.map_id] at each
    exact each

/-- What may be missing is read back where nothing is written as null. -/
theorem lawfulFormat_option {α : Type} [Format α] [LawfulFormat α]
    (present : ∀ a : α, Value.of a ≠ .null) : LawfulFormat (Option α) where
  whole_of
    | none => .null
    | some a => whole_of a
  read?_of
    | none => rfl
    | some a => by
        have written : Value.of (some a) = Value.of a := rfl
        have read := read?_of a
        rw [written]
        have here := present a
        generalize Value.of a = value at here read ⊢
        cases value with
        | null => exact absurd rfl here
        | _ => exact congrArg (Option.map some) read

end ActivityLedger.Json

namespace ActivityLedger

open Json

/-! ## Dates and tables of columns -/

instance : LawfulFormat Date where
  whole_of date := .text date.text
  -- A bare `Date.ofText?_text` would have Lean run the reader to see that the sides agree.
  read?_of date := by
    simp only [Value.of, Format.write, read?, Value.text?, Option.bind_some, Date.ofText?_text]

class DistinctColumns (κ : Type) [Vocabulary κ] : Prop where
  nodup : ((Vocabulary.all κ).map column).Nodup

instance : DistinctColumns UserCounter := ⟨by decide +kernel⟩

instance : DistinctColumns PostCounter := ⟨by decide⟩

instance : DistinctColumns CommentCounter := ⟨by decide⟩

section

variable {κ : Type} [Vocabulary κ] [DistinctColumns κ]

theorem readColumn?_column (counter : κ) :
    readColumn? κ (some (.text (column counter))) = some counter :=
  readName?_writeName (Vocabulary.mem_all counter) DistinctColumns.nodup

instance {α : Type} [Format α] [LawfulFormat α] : LawfulFormat (Columns κ α) where
  whole_of table := .object (List.forall_mem_map.mpr fun entry _ => whole_of entry.2)
  read?_of table := by
    have named : (table.toList.map fun entry => (column entry.1, Value.of entry.2)).map Prod.fst =
        (Vocabulary.all κ).map column := by
      simp [Columns.toList]
    have found := fields?_object named DistinctColumns.nodup
    have values : (table.toList.map fun entry => some (Value.of entry.2)).mapM requiredField =
        some (table.toList.map Prod.snd) := by
      rw [List.mapM_map]
      exact mapM_eq_some fun entry _ => requiredField_of entry.2
    have written : Value.of table =
        .object (table.toList.map fun entry => (column entry.1, .of entry.2)) := rfl
    have complete : (table.toList.map Prod.snd).length = Vocabulary.size κ := by
      simp [Columns.toList, Vocabulary.all]
    rw [List.map_map] at found
    rw [written]
    simp only [read?, found, Option.bind_eq_bind, Option.bind_some, Function.comp_def, values,
      dif_pos complete]
    refine congrArg some (Columns.ext fun counter => ?_)
    simp [Columns.get, Columns.toList, Vocabulary.all, Vocabulary.member_position]

end

end ActivityLedger

/-!
# Vocabularies and columns

A vocabulary is a closed list of counters in a fixed order, each with a column
name.  A table of columns holds one value for every counter of a vocabulary, so
no counter can be missing and none can be added.
-/

namespace ActivityLedger

/-- A closed, ordered list of counters with a name for each. -/
class Vocabulary (κ : Type) where
  size : Nat
  position : κ → Fin size
  member : Fin size → κ
  member_position : ∀ counter, member (position counter) = counter
  position_member : ∀ index, position (member index) = index
  column : κ → String

export Vocabulary (column)

namespace Vocabulary

variable {κ : Type} [Vocabulary κ]

def all (κ : Type) [Vocabulary κ] : List κ := (List.finRange (size κ)).map member

def ofColumn? (κ : Type) [Vocabulary κ] (name : String) : Option κ :=
  (all κ).find? fun counter => column counter == name

theorem mem_all (counter : κ) : counter ∈ all κ :=
  List.mem_map.mpr ⟨position counter, List.mem_finRange _, member_position counter⟩

theorem position_injective {a b : κ} (same : position a = position b) : a = b := by
  rw [← member_position a, same, member_position]

/-- A column name with its words run together, each with a capital. -/
def title (counter : κ) : String :=
  String.ofList (capitalised true (column counter).toList)
where
  capitalised : Bool → List Char → List Char
    | _, [] => []
    | atStart, c :: rest =>
        if c = '_' then capitalised true rest
        else (if atStart then c.toUpper else c) :: capitalised false rest

end Vocabulary

/-- One value for every counter of a vocabulary. -/
structure Columns (κ : Type) [Vocabulary κ] (α : Type) where
  values : Vector α (Vocabulary.size κ)
deriving DecidableEq

namespace Columns

variable {κ : Type} [Vocabulary κ] {α β : Type}

def get (table : Columns κ α) (counter : κ) : α := table.values[Vocabulary.position counter]

def set (table : Columns κ α) (counter : κ) (value : α) : Columns κ α :=
  ⟨table.values.set (Vocabulary.position counter) value⟩

/-- The table that gives every counter its value under a function. -/
def tabulate (values : κ → α) : Columns κ α :=
  ⟨Vector.ofFn fun index => values (Vocabulary.member index)⟩

def toList (table : Columns κ α) : List (κ × α) :=
  (Vocabulary.all κ).map fun counter => (counter, table.get counter)

theorem ext {a b : Columns κ α} (same : ∀ counter, a.get counter = b.get counter) : a = b := by
  cases a with
  | mk left =>
      cases b with
      | mk right =>
          congr 1
          apply Vector.ext
          intro index inRange
          have here := same (Vocabulary.member ⟨index, inRange⟩)
          simpa [get, Vocabulary.position_member] using here

@[simp] theorem get_tabulate (values : κ → α) (counter : κ) :
    (tabulate values).get counter = values counter := by
  simp [tabulate, get, Vocabulary.member_position]

theorem get_set (table : Columns κ α) (counter other : κ) (value : α) :
    (table.set counter value).get other =
      if Vocabulary.position counter = Vocabulary.position other then value
      else table.get other := by
  simp only [set, get, Fin.getElem_fin, Vector.getElem_set, Fin.ext_iff]

@[simp] theorem get_set_self (table : Columns κ α) (counter : κ) (value : α) :
    (table.set counter value).get counter = value := by
  simp [get_set]

theorem get_set_of_ne {table : Columns κ α} {counter other : κ} {value : α}
    (different : counter ≠ other) : (table.set counter value).get other = table.get other := by
  rw [get_set, if_neg fun same => different (Vocabulary.position_injective same)]

end Columns

end ActivityLedger

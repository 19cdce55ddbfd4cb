import ActivityLedger.Json.Printer
import ActivityLedger.Proofs.Json.Spellings

/-!
# Layouts of JSON values

Either layout spells every value that has no broken part, so reading undoes writing.
-/

namespace ActivityLedger.Json

inductive Value.Whole : Value → Prop where
  | null : Whole .null
  | bool (b : Bool) : Whole (.bool b)
  | number (n : Number) : Whole (.number n)
  | text (s : String) : Whole (.text s)
  | list {items : List Value} (each : ∀ item ∈ items, Whole item) : Whole (.list items)
  | object {members : List (String × Value)} (each : ∀ member ∈ members, Whole member.2) :
      Whole (.object members)

section

variable {text : Value → List Char} {indent close : List Char}

/-- The items of a list, each after the same blanks. -/
theorem spells_items (tail : List Value → List Char) (indented : Blank indent)
    (closed : Blank close) (last : tail [] = close ++ [']'])
    (next : ∀ item rest, tail (item :: rest) = ',' :: (indent ++ (text item ++ tail rest)))
    {item : Value} {items : List Value} {cs : List Char} (first : Spells (.value item) cs)
    (each : ∀ other ∈ items, Spells (.value other) (text other)) :
    Spells (.items (item :: items)) (cs ++ tail items) := by
  induction items generalizing item cs with
  | nil =>
      rw [last]
      exact .lastItem first closed
  | cons second items ih =>
      have others := ih (each second List.mem_cons_self) fun other member =>
        each other (List.mem_cons_of_mem second member)
      rw [next]
      exact .nextItem first blank_nil (.gap indented others)

theorem spells_members (tail : List (String × Value) → List Char) {space : List Char}
    (indented : Blank indent) (spaced : Blank space) (closed : Blank close)
    (last : tail [] = close ++ ['\x7d'])
    (next : ∀ member rest, tail (member :: rest) =
      ',' :: (indent ++ (writeText member.1 ++ ':' :: (space ++ (text member.2 ++ tail rest)))))
    {member : String × Value} {members : List (String × Value)}
    (each : ∀ other ∈ member :: members, Spells (.value other.2) (text other.2)) :
    Spells (.members (member :: members))
      (writeText member.1 ++ ':' :: (space ++ (text member.2 ++ tail members))) := by
  induction members generalizing member with
  | nil =>
      have only : Spells (.value member.2) (space ++ text member.2) :=
        .gap spaced (each member List.mem_cons_self)
      have spelled := Spells.lastMember member.1 blank_nil only closed
      rwa [List.nil_append, List.append_assoc, ← last] at spelled
  | cons second members ih =>
      have first : Spells (.value member.2) (space ++ text member.2) :=
        .gap spaced (each member List.mem_cons_self)
      have others := ih fun other isOther => each other (List.mem_cons_of_mem member isOther)
      have spelled := Spells.nextMember member.1 blank_nil first blank_nil (.gap indented others)
      rwa [List.nil_append, List.append_assoc, List.nil_append, ← next] at spelled

end

/-- The text without blanks spells the value. -/
theorem spells_write {value : Value} (whole : value.Whole) :
    Spells (.value value) (write value) := by
  induction whole with
  | null => exact .null
  | bool b =>
      cases b with
      | false => exact .no
      | true => exact .yes
  | number n => exact .number n
  | text s => exact .text s
  | @list items each ih =>
      cases items with
      | nil => exact .emptyList blank_nil
      | cons first rest =>
          refine .list (spells_items writeItems blank_nil blank_nil rfl (fun _ _ => rfl)
            (ih first List.mem_cons_self) fun other member => ?_)
          exact ih other (List.mem_cons_of_mem first member)
  | @object members each ih =>
      cases members with
      | nil => exact .emptyObject blank_nil
      | cons first rest =>
          have spelled := Spells.object (spells_members writeMembers blank_nil blank_nil
            blank_nil rfl (fun _ _ => by simp [writeMembers]) ih)
          simpa [write] using spelled

theorem spells_lay {value : Value} (whole : value.Whole) (level : Nat) :
    Spells (.value value) (lay level value) := by
  have space : Blank [' '] := by simp [Blank]
  induction whole generalizing level with
  | null => exact .null
  | bool b =>
      cases b with
      | false => exact .no
      | true => exact .yes
  | number n => exact .number n
  | text s => exact .text s
  | @list items each ih =>
      cases items with
      | nil => exact .emptyList blank_nil
      | cons first rest =>
          -- The line that follows the bracket is a gap in front of the items.
          have inside := spells_items (layItems level) (blank_newLine (level + 1))
            (blank_newLine level) rfl (fun _ _ => by simp [layItems])
            (ih first List.mem_cons_self (level + 1))
            fun other member => ih other (List.mem_cons_of_mem first member) (level + 1)
          simpa [lay] using Spells.list (.gap (blank_newLine (level + 1)) inside)
  | @object members each ih =>
      cases members with
      | nil => exact .emptyObject blank_nil
      | cons first rest =>
          have inside := spells_members (layMembers level) (blank_newLine (level + 1))
            space (blank_newLine level) rfl (fun _ _ => by simp [layMembers])
            fun other member => ih other member (level + 1)
          simpa [lay] using Spells.object (.gap (blank_newLine (level + 1)) inside)

/-- A value is read back from its text without blanks. -/
theorem Value.Whole.read?_compact {value : Value} (whole : value.Whole) :
    Value.read? value.compact = some value :=
  (spells_write whole).read?_eq

theorem Value.Whole.read?_pretty {value : Value} (whole : value.Whole) :
    Value.read? value.pretty = some value :=
  (spells_lay whole 0).read?_eq

end ActivityLedger.Json

import ActivityLedger.Json.Number

/-!
# Exchange formats

How a type is written as a value and read from one.  A record is an object with
one member for each field, in any order and among others, or the list of its
fields.  A choice between named cases is the name alone, or an object from the
name to nothing.  A choice with a content has the name under one key and the
content under another; a content that comes before its name is kept until the
name is known, and for that it must be readable as a whole.
-/

namespace ActivityLedger.Json

/-- How a type is exchanged. -/
class Format (α : Type) where
  write : α → Value
  read? : Value → Option α

export Format (read?)

def Value.of {α : Type} [Format α] (a : α) : Value := Format.write a

instance : Format String where
  write := .text
  read? := Value.text?

instance : Format Bool where
  write := .bool
  read? := Value.bool?

instance {lo hi : Int} : Format (Bounded lo hi) where
  write n := .number (.integer n.val)
  read? value := value.int?.bind Bounded.ofInt?

instance {α : Type} [Format α] : Format (List α) where
  write items := .list (items.map Value.of)
  read? value := value.list?.bind fun items => items.mapM read?

instance {α : Type} [Format α] : Format (Option α) where
  write
    | none => .null
    | some a => .of a
  read?
    | .null => some none
    | value => (read? value).map some

/-- The value of the only member with a given name, or nothing where there is no such member. -/
def only? (name : String) (members : List (String × Value)) : Option (Option Value) :=
  match members.filter fun member => member.1 == name with
  | [] => some none
  | [member] => some (some member.2)
  | _ :: _ :: _ => none

/-- The values of a record's fields, in the order of their names. -/
def fields? (names : List String) : Value → Option (List (Option Value))
  | .object members => names.mapM fun name => only? name members
  | .list items => if items.length = names.length then some (items.map some) else none
  | _ => none

def requiredField {α : Type} [Format α] (field : Option Value) : Option α := field.bind read?

def optionalField {α : Type} [Format α] : Option Value → Option (Option α)
  | none => some none
  | some value => read? value

def writeName {α : Type} (name : α → String) (case : α) : Value := .text (name case)

def readName? {α : Type} (cases : List α) (name : α → String) : Value → Option α
  | .text given => cases.find? fun case => name case == given
  | .object [(given, .null)] => cases.find? fun case => name case == given
  | _ => none

mutual

/-- A value can be kept: no part of it is broken or too large, and it is not nested too deep. -/
def isReadable (room : Nat) : Value → Bool
  | .null | .bool _ | .text _ => true
  | .number n => n.isFinite
  | .list items => 1 < room && areItemsReadable (room - 1) items
  | .object members => 1 < room && areMembersReadable (room - 1) members
  | .broken => false

def areItemsReadable (room : Nat) : List Value → Bool
  | [] => true
  | item :: rest => isReadable room item && areItemsReadable room rest

def areMembersReadable (room : Nat) : List (String × Value) → Bool
  | [] => true
  | (_, value) :: rest => isReadable room value && areMembersReadable room rest

end

/-- How deep the value of a member may be nested to be kept. -/
def memberRoom : Nat := 127

/-- A content as it is kept: a case that stands for itself may be written with an empty object. -/
def keptContent : Value → Value
  | .object [(name, .object [])] => .object [(name, .null)]
  | value => value

/-- The name and the content of a choice, which are members of an object among others or the two
items of a list, with the room for a content that comes before its name.  In a list the name is a
plain text. -/
def choice? (nameKey contentKey : String) (room : Nat) :
    Value → Option (Value × Option Value)
  | .list [.text name, content] => some (.text name, some content)
  | .object members => do
      let name ← (← only? nameKey members)
      let content ← only? contentKey members
      match members.find? fun member => member.1 == nameKey || member.1 == contentKey with
      | some (first, value) =>
          if first != contentKey then return (name, content)
          else if isReadable room value then return (name, content.map keptContent)
          else none
      | none => none
  | _ => none

/-- The name of a choice whose content stands beside the name, and the value of the content. -/
def merged? (nameKey : String) : Value → Option (String × Value)
  | .list (name :: items) => do
      let name ← name.text?
      if areItemsReadable memberRoom items then return (name, .list items) else none
  | .object members => do
      let name ← (← only? nameKey members).bind Value.text?
      let others := members.filter fun member => member.1 != nameKey
      if areMembersReadable memberRoom others then return (name, .object others) else none
  | _ => none

end ActivityLedger.Json

import ActivityLedger.Json.Value
import ActivityLedger.Text.Decimal

/-!
# Writing JSON

Two layouts: one without any blanks, and one with a line for each item, indented
by two blanks for each level.
-/

namespace ActivityLedger.Json

def hexDigit (n : Nat) : Char := Nat.digitChar n

def escape : Char → List Char
  | '"' => ['\\', '"']
  | '\\' => ['\\', '\\']
  | '\x08' => ['\\', 'b']
  | '\x0c' => ['\\', 'f']
  | '\n' => ['\\', 'n']
  | '\r' => ['\\', 'r']
  | '\t' => ['\\', 't']
  | c =>
      if c.toNat < 32 then
        ['\\', 'u', '0', '0', hexDigit (c.toNat / 16), hexDigit (c.toNat % 16)]
      else [c]

def writeText (s : String) : List Char := ['"'] ++ s.toList.flatMap escape ++ ['"']

def writeNumber : Number → List Char
  | .integer n => Text.integer n
  | .decimal negative digits exponent =>
      (if negative then ['-'] else []) ++ Text.digits digits ++ ['e'] ++ Text.integer exponent

mutual

def write : Value → List Char
  | .null | .broken => ['n', 'u', 'l', 'l']
  | .bool true => ['t', 'r', 'u', 'e']
  | .bool false => ['f', 'a', 'l', 's', 'e']
  | .number n => writeNumber n
  | .text s => writeText s
  | .list [] => ['[', ']']
  | .list (item :: rest) => ['['] ++ write item ++ writeItems rest
  | .object [] => ['\x7b', '\x7d']
  | .object ((name, value) :: rest) =>
      ['\x7b'] ++ writeText name ++ [':'] ++ write value ++ writeMembers rest

/-- The items of a list after the first, and its end. -/
def writeItems : List Value → List Char
  | [] => [']']
  | item :: rest => [','] ++ write item ++ writeItems rest

def writeMembers : List (String × Value) → List Char
  | [] => ['\x7d']
  | (name, value) :: rest => [','] ++ writeText name ++ [':'] ++ write value ++ writeMembers rest

end

def newLine (level : Nat) : List Char := '\n' :: List.replicate (2 * level) ' '

mutual

/-- A value with a line for each item, at a level. -/
def lay (level : Nat) : Value → List Char
  | .null | .broken => ['n', 'u', 'l', 'l']
  | .bool true => ['t', 'r', 'u', 'e']
  | .bool false => ['f', 'a', 'l', 's', 'e']
  | .number n => writeNumber n
  | .text s => writeText s
  | .list [] => ['[', ']']
  | .list (item :: rest) =>
      ['['] ++ newLine (level + 1) ++ lay (level + 1) item ++ layItems level rest
  | .object [] => ['\x7b', '\x7d']
  | .object ((name, value) :: rest) =>
      ['\x7b'] ++ newLine (level + 1) ++ writeText name ++ [':', ' '] ++ lay (level + 1) value ++
        layMembers level rest

def layItems (level : Nat) : List Value → List Char
  | [] => newLine level ++ [']']
  | item :: rest => [','] ++ newLine (level + 1) ++ lay (level + 1) item ++ layItems level rest

def layMembers (level : Nat) : List (String × Value) → List Char
  | [] => newLine level ++ ['\x7d']
  | (name, value) :: rest =>
      [','] ++ newLine (level + 1) ++ writeText name ++ [':', ' '] ++ lay (level + 1) value ++
        layMembers level rest

end

namespace Value

def compact (value : Value) : String := String.ofList (write value)

def pretty (value : Value) : String := String.ofList (lay 0 value)

end Value

end ActivityLedger.Json

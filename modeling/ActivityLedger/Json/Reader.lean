import ActivityLedger.Json.Value
import ActivityLedger.Text.Decimal

/-!
# Reading JSON

The grammar admits nothing beyond the standard.  A text that escapes half of a
character is let through as a broken value, because a reader that passes over a
value does not look into it.
-/

namespace ActivityLedger.Json

def skipBlanks (cs : List Char) : List Char :=
  cs.dropWhile fun c => c = ' ' || c = '\n' || c = '\t' || c = '\r'

def hexValue? (c : Char) : Option Nat :=
  if c.isDigit then some (c.toNat - 48)
  else if 'a' ≤ c ∧ c ≤ 'f' then some (c.toNat - 87)
  else if 'A' ≤ c ∧ c ≤ 'F' then some (c.toNat - 55)
  else none

def hexUnit? (a b c d : Char) : Option Nat := do
  return ((← hexValue? a) * 16 + (← hexValue? b)) * 256 + (← hexValue? c) * 16 + (← hexValue? d)

/-- The character that a letter after a backslash stands for. -/
def unescape? : Char → Option Char
  | '"' => some '"'
  | '\\' => some '\\'
  | '/' => some '/'
  | 'b' => some '\x08'
  | 'f' => some '\x0c'
  | 'n' => some '\n'
  | 'r' => some '\r'
  | 't' => some '\t'
  | _ => none

/-- The code units of a text up to its closing quote, and what follows the quote. -/
def readUnits : List Char → Option (List Nat × List Char)
  | [] => none
  | '"' :: rest => some ([], rest)
  | '\\' :: 'u' :: a :: b :: c :: d :: rest => do
      let unit ← hexUnit? a b c d
      let (units, rest) ← readUnits rest
      return (unit :: units, rest)
  | '\\' :: c :: rest => do
      let c ← unescape? c
      let (units, rest) ← readUnits rest
      return (c.toNat :: units, rest)
  | c :: rest =>
      if c.toNat < 32 then none
      else do
        let (units, rest) ← readUnits rest
        return (c.toNat :: units, rest)

/-- The first half of a character beyond the basic plane. -/
def isLeading (unit : Nat) : Bool := 0xD800 ≤ unit && unit < 0xDC00

def isTrailing (unit : Nat) : Bool := 0xDC00 ≤ unit && unit < 0xE000

/-- The characters that code units stand for, if no half stands alone. -/
def joinUnits? : List Nat → Option (List Char)
  | [] => some []
  | [unit] =>
      if isLeading unit || isTrailing unit then none else some [Char.ofNat unit]
  | unit :: next :: rest =>
      if isLeading unit then
        if isTrailing next then
          (joinUnits? rest).map
            (Char.ofNat (0x10000 + (unit - 0xD800) * 0x400 + (next - 0xDC00)) :: ·)
        else none
      else if isTrailing unit then none
      else (joinUnits? (next :: rest)).map (Char.ofNat unit :: ·)

/-- A text after its opening quote, none standing for a broken one. -/
def readText (cs : List Char) : Option (Option String × List Char) := do
  let (units, rest) ← readUnits cs
  return ((joinUnits? units).map String.ofList, rest)

def splitDigits (cs : List Char) : List Char × List Char :=
  (cs.takeWhile Char.isDigit, cs.dropWhile Char.isDigit)

def readFraction : List Char → Option (List Char × List Char)
  | '.' :: rest =>
      let (run, rest) := splitDigits rest
      if run.isEmpty then none else some (run, rest)
  | rest => some ([], rest)

def readSign : List Char → Bool × List Char
  | '-' :: rest => (true, rest)
  | '+' :: rest => (false, rest)
  | rest => (false, rest)

def readExponent (cs : List Char) : Option (Option Int × List Char) :=
  match cs with
  | c :: rest =>
      if c = 'e' ∨ c = 'E' then
        let (negative, rest) := readSign rest
        let (run, rest) := splitDigits rest
        if run.isEmpty then none
        else
          let size : Int := Text.value run
          some (some (if negative then -size else size), rest)
      else some (none, cs)
  | [] => some (none, [])

/-- A number, whose integer part has no leading zeros. -/
def readNumber (cs : List Char) : Option (Number × List Char) := do
  let (negative, cs) :=
    match cs with
    | '-' :: rest => (true, rest)
    | _ => (false, cs)
  let (whole, cs) := splitDigits cs
  if whole.isEmpty || (1 < whole.length && whole.head? == some '0') then none
  else do
    let (fraction, cs) ← readFraction cs
    let (exponent, cs) ← readExponent cs
    let size := Text.value whole
    if fraction.isEmpty && exponent.isNone && !(negative && size == 0) then
      return (.integer (if negative then -(size : Int) else size), cs)
    else
      return (.decimal negative (Text.value (whole ++ fraction))
        (exponent.getD 0 - fraction.length), cs)

/-- An object, which is broken where one of its names is. -/
def object (members : List (Option String × Value)) : Value :=
  match members.mapM fun member => member.1.map fun name => (name, member.2) with
  | some members => .object members
  | none => .broken

mutual

/-- A value, with a bound on the steps. -/
def readValue : Nat → List Char → Option (Value × List Char)
  | 0, _ => none
  | steps + 1, cs =>
      match skipBlanks cs with
      | 'n' :: 'u' :: 'l' :: 'l' :: rest => some (.null, rest)
      | 't' :: 'r' :: 'u' :: 'e' :: rest => some (.bool true, rest)
      | 'f' :: 'a' :: 'l' :: 's' :: 'e' :: rest => some (.bool false, rest)
      | '"' :: rest => do
          let (text, rest) ← readText rest
          return ((text.map Value.text).getD .broken, rest)
      | '[' :: rest =>
          match skipBlanks rest with
          | ']' :: rest => some (.list [], rest)
          | rest => do
              let (items, rest) ← readItems steps rest
              return (.list items, rest)
      | '\x7b' :: rest =>
          match skipBlanks rest with
          | '\x7d' :: rest => some (.object [], rest)
          | rest => do
              let (members, rest) ← readMembers steps rest
              return (object members, rest)
      | rest => do
          let (number, rest) ← readNumber rest
          return (.number number, rest)

def readItems : Nat → List Char → Option (List Value × List Char)
  | 0, _ => none
  | steps + 1, cs => do
      let (item, rest) ← readValue steps cs
      match skipBlanks rest with
      | ',' :: rest => do
          let (items, rest) ← readItems steps rest
          return (item :: items, rest)
      | ']' :: rest => return ([item], rest)
      | _ => none

def readMembers : Nat → List Char → Option (List (Option String × Value) × List Char)
  | 0, _ => none
  | steps + 1, cs =>
      match skipBlanks cs with
      | '"' :: rest => do
          let (name, rest) ← readText rest
          match skipBlanks rest with
          | ':' :: rest => do
              let (value, rest) ← readValue steps rest
              match skipBlanks rest with
              | ',' :: rest => do
                  let (members, rest) ← readMembers steps rest
                  return ((name, value) :: members, rest)
              | '\x7d' :: rest => return ([(name, value)], rest)
              | _ => none
          | _ => none
      | _ => none

end

/-- The value that a whole text is.  Each step but one in two takes a character. -/
def Value.read? (text : String) : Option Value :=
  let cs := text.toList
  match readValue (2 * cs.length + 2) cs with
  | some (value, rest) => if (skipBlanks rest).isEmpty then some value else none
  | none => none

end ActivityLedger.Json

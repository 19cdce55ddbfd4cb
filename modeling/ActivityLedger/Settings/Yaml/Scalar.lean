import ActivityLedger.Settings.Numeral
import ActivityLedger.Settings.Yaml.Cursor

/-!
# Scalars

The texts of a document: plain, in single or double quotes, or as a block of lines.
A single line break within a plain or quoted text is a space, and further ones are
kept.
-/

namespace ActivityLedger.Yaml

def isFlowMark (c : Char) : Bool := c = ',' || c = '[' || c = ']' || c = '\x7b' || c = '\x7d'

def gapText (spaces : List Char) : Nat → List Char
  | 0 => spaces
  | 1 => [' ']
  | breaks + 2 => List.replicate (breaks + 1) '\n'

/-- A gap between two parts of a text: its spaces, the number of its line breaks, and the place
behind it.  A tab may be refused in the indentation, and there is a bound on the steps. -/
def readGap? (refusesTab : Cursor → Bool) :
    Nat → Cursor → List Char → Nat → Option (List Char × Nat × Cursor)
  | 0, cursor, spaces, breaks => some (spaces, breaks, cursor)
  | steps + 1, cursor, spaces, breaks =>
      let c := cursor.head
      if isSpace c then
        if breaks = 0 then readGap? refusesTab steps cursor.next (spaces ++ [c]) 0
        else if c = '\t' && refusesTab cursor then none
        else readGap? refusesTab steps cursor.next spaces breaks
      else if isBreak c then readGap? refusesTab steps cursor.skipBreak [] (breaks + 1)
      else some (spaces, breaks, cursor)

/-! ## Plain texts -/

def endsPlain (inFlow : Bool) (cursor : Cursor) : Bool :=
  let c := cursor.head
  isGap c || (c = ':' && (isGap (cursor.ahead 1) || inFlow && isFlowMark (cursor.ahead 1))) ||
    (inFlow && isFlowMark c)

def readPlainPart (inFlow : Bool) : Nat → Cursor → List Char × Cursor
  | 0, cursor => ([], cursor)
  | steps + 1, cursor =>
      if endsPlain inFlow cursor then ([], cursor)
      else
        let (part, after) := readPlainPart inFlow steps cursor.next
        (cursor.head :: part, after)

/-- A plain text after what was read of it, whether it ends behind a line break, and the place
behind it.  Outside of brackets it must be indented, and there is a bound on the steps. -/
def readPlain? (inFlow : Bool) (indent : Int) :
    Nat → Cursor → List Char → List Char → Bool → Option (List Char × Bool × Cursor)
  | 0, _, _, _, _ => none
  | steps + 1, cursor, text, gap, isBroken =>
      if cursor.isAtDocumentMark || cursor.head = '#' then some (text, isBroken, cursor)
      else
        let (part, after) := readPlainPart inFlow cursor.rest.length cursor
        let (text, isBroken) :=
          if part.isEmpty then (text, isBroken) else (text ++ gap ++ part, false)
        if isSpace after.head || isBreak after.head then do
          let refusesTab (cursor : Cursor) : Bool := cursor.column < indent
          let (spaces, breaks, after) ← readGap? refusesTab after.rest.length after [] 0
          if !inFlow && after.column < indent then return (text, 0 < breaks, after)
          else readPlain? inFlow indent steps after text (gapText spaces breaks) (0 < breaks)
        else some (text, isBroken, after)

/-! ## Texts in quotes -/

def unescape? : Char → Option Char
  | '0' => some '\x00'
  | 'a' => some '\x07'
  | 'b' => some '\x08'
  | 't' | '\t' => some '\t'
  | 'n' => some '\n'
  | 'v' => some '\x0b'
  | 'f' => some '\x0c'
  | 'r' => some '\r'
  | 'e' => some '\x1b'
  | ' ' => some ' '
  | '"' => some '"'
  | '/' => some '/'
  | '\\' => some '\\'
  | 'N' => some '\u0085'
  | '_' => some '\u00A0'
  | 'L' => some '\u2028'
  | 'P' => some '\u2029'
  | _ => none

/-- How many digits a letter after a backslash asks for. -/
def codeLength? : Char → Option Nat
  | 'x' => some 2
  | 'u' => some 4
  | 'U' => some 8
  | _ => none

def readEscape? (cursor : Cursor) : Option (Char × Cursor) :=
  match codeLength? (cursor.ahead 1) with
  | some count => do
      let run := (cursor.rest.drop 2).take count
      guard (run.length = count)
      let code ← Setting.sizeOf? 16 run
      if code.isValidChar then some (Char.ofNat code, cursor.skip (2 + count)) else none
  | none => (unescape? (cursor.ahead 1)).map fun c => (c, cursor.skip 2)

/-- The part of a quoted text up to a gap, to its closing quote, or to a line break that a
backslash takes away, whether it ends at such a break, and the place behind it, with a bound on the
steps. -/
def readQuotedPart? (isSingle : Bool) : Nat → Cursor → Option (List Char × Bool × Cursor)
  | 0, cursor => some ([], false, cursor)
  | steps + 1, cursor =>
      let c := cursor.head
      let go (c : Char) (after : Cursor) : Option (List Char × Bool × Cursor) :=
        (readQuotedPart? isSingle steps after).map fun (part, isJoined, after) =>
          (c :: part, isJoined, after)
      if isGap c then some ([], false, cursor)
      else if isSingle then
        if c ≠ '\'' then go c cursor.next
        else if cursor.ahead 1 = '\'' then go '\'' (cursor.skip 2)
        else some ([], false, cursor)
      else if c = '"' then some ([], false, cursor)
      else if c ≠ '\\' then go c cursor.next
      else if isBreak (cursor.ahead 1) then some ([], true, cursor.next.skipBreak)
      else (readEscape? cursor).bind fun (c, after) => go c after

def readQuoted? (isSingle : Bool) : Nat → Cursor → List Char → Option (List Char × Cursor)
  | 0, _, _ => none
  | steps + 1, cursor, text => do
      guard (!cursor.isAtDocumentMark && cursor.head ≠ ending)
      let (part, isJoined, after) ← readQuotedPart? isSingle cursor.rest.length cursor
      let text := text ++ part
      if after.head = (if isSingle then '\'' else '"') then return (text, after.next)
      else
        -- A break that was taken away counts as the first one of the gap.
        let (spaces, breaks, after) ←
          readGap? (fun _ => false) after.rest.length after [] (if isJoined then 1 else 0)
        let gap :=
          if isJoined then List.replicate (breaks - 1) '\n' else gapText spaces breaks
        readQuoted? isSingle steps after (text ++ gap)

/-! ## Blocks of lines -/

/-- What happens to the line breaks at the end of a block. -/
inductive Chomping where
  | strip
  | clip
  | keep
deriving DecidableEq

/-- The header of a block: what happens at its end, how far it is indented if that is given, and
the place behind its line. -/
def readBlockHeader? (cursor : Cursor) : Option (Chomping × Nat × Cursor) := do
  let chomping? (c : Char) : Option Chomping :=
    if c = '+' then some .keep else if c = '-' then some .strip else none
  let increment? (c : Char) : Option Nat := if c.isDigit then some (c.toNat - 48) else none
  let (chomping, increment, cursor) :=
    match chomping? cursor.head, increment? cursor.head with
    | some chomping, _ =>
        match increment? (cursor.ahead 1) with
        | some increment => (chomping, some increment, cursor.skip 2)
        | none => (chomping, none, cursor.next)
    | none, some increment =>
        match chomping? (cursor.ahead 1) with
        | some chomping => (chomping, some increment, cursor.skip 2)
        | none => (.clip, some increment, cursor.next)
    | none, none => (.clip, none, cursor)
  guard (increment ≠ some 0)
  return (chomping, increment.getD 0, ← cursor.skipComment?)

/-- The empty lines before a line of a block: how far it is indented at most, the number of empty
lines, and the place behind the indentation.  There is a bound on the steps. -/
def readEmptyLines? (indent : Nat) : Nat → Cursor → Nat → Nat → Option (Nat × Nat × Cursor)
  | 0, cursor, widest, breaks => some (widest, breaks, cursor)
  | steps + 1, cursor, widest, breaks =>
      let spaces := (cursor.rest.takeWhile (· = ' ')).length
      let cursor := cursor.skip (if indent = 0 then spaces else min spaces (indent - cursor.column))
      let widest := max widest cursor.column
      if (indent = 0 || cursor.column < indent) && cursor.head = '\t' then none
      else if isBreak cursor.head then
        readEmptyLines? indent steps cursor.skipBreak widest (breaks + 1)
      else some (widest, breaks, cursor)

/-- The lines of a block after what was read of it: the text, whether its last line has a break,
the number of empty lines after it, and the place behind them.  There is a bound on the steps. -/
def readLines? (isLiteral : Bool) (indent : Nat) :
    Nat → Cursor → List Char → Bool → Bool → Nat → Option (List Char × Bool × Nat × Cursor)
  | 0, _, _, _, _, _ => none
  | steps + 1, cursor, text, hasBreak, wasIndented, breaks =>
      if cursor.column = indent && cursor.head ≠ ending then do
        let isIndented := isSpace cursor.head
        let joint :=
          if !isLiteral && hasBreak && !wasIndented && !isIndented then
            if breaks = 0 then [' '] else []
          else if hasBreak then ['\n']
          else []
        let line := cursor.rest.takeWhile fun c => !endsLine c
        let text := text ++ joint ++ List.replicate breaks '\n' ++ line
        let after := cursor.skip line.length
        if after.head = ending then return (text, false, 0, after)
        else
          let (_, breaks, after) ← readEmptyLines? indent after.rest.length after.skipBreak 0 0
          readLines? isLiteral indent steps after text true isIndented breaks
      else some (text, hasBreak, breaks, cursor)

def readBlock? (isLiteral : Bool) (indent : Int) (cursor : Cursor) :
    Option (List Char × Cursor) := do
  let (chomping, increment, cursor) ← readBlockHeader? cursor
  let given := if increment = 0 then 0 else (max indent 0).toNat + increment
  let (widest, breaks, cursor) ← readEmptyLines? given cursor.rest.length cursor 0 0
  let width := if given = 0 then max (max widest (indent + 1).toNat) 1 else given
  let (text, hasBreak, breaks, after) ←
    readLines? isLiteral width (cursor.rest.length + 1) cursor [] false false breaks
  let last := if hasBreak && chomping ≠ .strip then ['\n'] else []
  let empty := if chomping = .keep then List.replicate breaks '\n' else []
  return (text ++ last ++ empty, after)

/-! ## Values -/

/-- The words for numbers that have no value here. -/
def numberWords : List String := [
  ".inf", ".Inf", ".INF", "+.inf", "+.Inf", "+.INF", "-.inf", "-.Inf", "-.INF", ".nan", ".NAN"]

def markedInteger? (cs : List Char) : Option Setting :=
  match cs with
  | '0' :: 'x' :: rest => Setting.integer? 16 rest
  | '0' :: 'o' :: rest => Setting.integer? 8 rest
  | '+' :: rest => Setting.integer? 10 rest
  | _ => none

def plainValue? (text : String) : Option Setting :=
  match markedInteger? text.toList, text with
  | some setting, _ => some setting
  | none, "~" | none, "null" => some .missing
  | none, "true" => some (.bool true)
  | none, "false" => some (.bool false)
  | none, text =>
      match Setting.integer? 10 text.toList, Setting.fraction? text.toList with
      | some setting, _ | none, some setting => some setting
      | none, none => if text ∈ numberWords then none else some (.text text)

def taggedValue? (name text : String) : Option Setting :=
  match name with
  | "bool" =>
      some (if text = "true" then .bool true else if text = "false" then .bool false else .missing)
  | "int" => some ((Setting.integer? 10 text.toList).getD .missing)
  | "float" =>
      if text ∈ numberWords then none else some ((Setting.fraction? text.toList).getD .missing)
  | "null" => some .missing
  | _ => some (.text text)

end ActivityLedger.Yaml

import ActivityLedger.Json.Reader
import ActivityLedger.Settings.Numeral

/-!
# Reading object notation

A notation for records with named fields, tuples, maps and lists.  A record or a
tuple may have a name, which has no effect, and a name alone stands for nothing, as
does the value in an option that is empty.
-/

namespace ActivityLedger.Ron

def startsName (c : Char) : Bool := c.isAlpha || c = '_'

def isNameChar (c : Char) : Bool := startsName c || c.isDigit

/-- A character of a name that is marked as one. -/
def isMarkedNameChar (c : Char) : Bool := isNameChar c || c = '.' || c = '+' || c = '-'

/-- Where a run of blanks and comments is, and how many comments are open around it. -/
inductive Gap where
  | blank
  | line
  | block (depth : Nat)

/-- What follows blanks and comments, unless a comment is not closed. -/
def skip? : Gap → List Char → Option (List Char)
  | .blank, '/' :: '/' :: rest => skip? .line rest
  | .blank, '/' :: '*' :: rest => skip? (.block 0) rest
  | .blank, c :: rest =>
      if c = ' ' || c = '\n' || c = '\t' || c = '\r' then skip? .blank rest
      else if c = '/' then none
      else some (c :: rest)
  | .line, c :: rest => skip? (if c = '\n' then .blank else .line) rest
  | .block 0, '*' :: '/' :: rest => skip? .blank rest
  | .block (depth + 1), '*' :: '/' :: rest => skip? (.block depth) rest
  | .block depth, '/' :: '*' :: rest => skip? (.block (depth + 1)) rest
  | .block depth, _ :: rest => skip? (.block depth) rest
  | .block _, [] => none
  | .blank, [] | .line, [] => some []

/-- A name, which only a mark lets hold points and signs. -/
def readName? (cs : List Char) : Option (String × List Char) :=
  match cs with
  | 'r' :: '#' :: rest =>
      let name := rest.takeWhile isMarkedNameChar
      if name.isEmpty then none else some (.ofList name, rest.drop name.length)
  | 'r' :: '"' :: _ => none
  | c :: _ =>
      let name := cs.takeWhile isNameChar
      if startsName c && (cs.takeWhile isMarkedNameChar).length = name.length then
        some (.ofList name, cs.drop name.length)
      else none
  | [] => none

/-- What follows a word, unless it is a part of a longer name. -/
def afterWord? (word : String) (cs : List Char) : Option (List Char) :=
  let rest := cs.drop word.length
  if word.toList.isPrefixOf cs && !((rest.head?.map isNameChar).getD false) then some rest
  else none

/-! ## Texts -/

def readCodePoint? (cs : List Char) : Option (Char × List Char) := do
  let run := cs.takeWhile fun c => (Json.hexValue? c).isSome
  guard (run.length ≤ 6)
  let code ← Setting.sizeOf? 16 run
  match cs.drop run.length with
  | '\x7d' :: rest => if code.isValidChar then some (Char.ofNat code, rest) else none
  | _ => none

def readEscape? : List Char → Option (Char × List Char)
  | '\'' :: rest => some ('\'', rest)
  | '"' :: rest => some ('"', rest)
  | '\\' :: rest => some ('\\', rest)
  | 'n' :: rest => some ('\n', rest)
  | 'r' :: rest => some ('\r', rest)
  | 't' :: rest => some ('\t', rest)
  | 'x' :: a :: b :: rest => (Json.hexUnit? '0' '0' a b).map fun code => (Char.ofNat code, rest)
  | 'u' :: '\x7b' :: rest => readCodePoint? rest
  | _ => none

def readText? : Nat → List Char → Option (List Char × List Char)
  | 0, _ | _, [] => none
  | steps + 1, c :: rest =>
      if c = '"' then some ([], rest)
      else do
        let (c, rest) ← if c = '\\' then readEscape? rest else some (c, rest)
        let (text, rest) ← readText? steps rest
        return (c :: text, rest)

/-- A text without escapes up to a closing mark, and what follows the mark. -/
def readRawText? (close : List Char) : List Char → Option (List Char × List Char)
  | [] => none
  | c :: rest =>
      if close.isPrefixOf (c :: rest) then some ([], (c :: rest).drop close.length)
      else (readRawText? close rest).map fun (text, left) => (c :: text, left)

/-- A text after the letter that says that it has no escapes. -/
def readRaw? (cs : List Char) : Option (Setting × List Char) :=
  let marks := cs.takeWhile (· = '#')
  match cs.drop marks.length with
  | '"' :: rest =>
      (readRawText? ('"' :: marks) rest).map fun (text, left) => (.text (.ofList text), left)
  | _ => none

def readChar? (cs : List Char) : Option (Setting × List Char) := do
  let (c, rest) ←
    match cs with
    | '\\' :: rest => readEscape? rest
    | c :: rest => some (c, rest)
    | [] => none
  match rest with
  | '\'' :: rest => return (.text (.ofList [c]), rest)
  | _ => none

/-! ## Numbers -/

/-- The integer that digits in a base stand for, between which there may be underscores.  Beyond
64 bits with a sign the fraction nearest to it is taken, unless it has a sign. -/
def integerOf? (sign : Option Char) (base : Nat) (run : List Char) : Option Setting := do
  guard (run.head? ≠ some '_')
  let size ← Setting.sizeOf? base (run.filter (· ≠ '_'))
  let signed : Int := if sign = some '-' then -size else size
  match (Bounded.ofInt? signed : Option Amount) with
  | some number => return .integer number.val
  | none =>
      if sign.isNone && size ≤ Json.greatestWord then return .real (.ofInt size) else none

def isFractionChar (c : Char) : Bool :=
  c.isDigit || c = 'e' || c = 'E' || c = '.' || c = '+' || c = '-'

def isIntegerChar (c : Char) : Bool := (Json.hexValue? c).isSome || c = '_'

def readFraction? (cs : List Char) : Option (Setting × List Char) :=
  let run := cs.takeWhile isFractionChar
  let rest := cs.drop run.length
  if rest.head? = some '_' then none else (Setting.decimal? run).map fun number => (number, rest)

def readInteger? (cs : List Char) : Option (Setting × List Char) :=
  let (sign, rest) :=
    match cs with
    | '+' :: rest => (some '+', rest)
    | '-' :: rest => (some '-', rest)
    | _ => (none, cs)
  let (base, rest) :=
    match rest with
    | '0' :: 'x' :: rest => (16, rest)
    | '0' :: 'b' :: rest => (2, rest)
    | '0' :: 'o' :: rest => (8, rest)
    | _ => (10, rest)
  let run := rest.takeWhile isIntegerChar
  (integerOf? sign base run).map fun number => (number, rest.drop run.length)

/-- A number, which is an integer if it can be read as one. -/
def readNumber? (cs : List Char) : Option (Setting × List Char) :=
  let unsigned := (Text.Numeral.readSign cs).2
  if (unsigned.takeWhile isIntegerChar).length < (unsigned.takeWhile isFractionChar).length then
    readFraction? cs
  else (readInteger? cs).orElse fun _ => readFraction? cs

/-! ## Values -/

def words : List (String × Setting) := [
  ("true", .bool true), ("false", .bool false), ("None", .missing),
  ("inf", .real (.infinite false)), ("-inf", .real (.infinite true)), ("NaN", .notNumber)]

def readWord? (cs : List Char) : Option (Setting × List Char) :=
  words.findSome? fun entry => (afterWord? entry.1 cs).map fun rest => (entry.2, rest)

def skipComma? (cs : List Char) : Option (Bool × List Char) := do
  match ← skip? .blank cs with
  | ',' :: rest => return (true, ← skip? .blank rest)
  | rest => return (false, rest)

/-- What stands between brackets starts with the name of a field. -/
def startsField (cs : List Char) : Bool :=
  match readName? cs with
  | some (_, rest) => (skip? .blank rest).bind List.head? = some ':'
  | none => false

mutual

def readValue? : Nat → List Char → Option (Setting × List Char)
  | 0, _ => none
  | steps + 1, cs =>
      match readWord? cs, afterWord? "Some" cs, cs with
      | some result, _, _ => some result
      | none, some rest, _ => do
          match ← skip? .blank rest with
          | '(' :: rest =>
              let (value, rest) ← readValue? steps (← skip? .blank rest)
              match (← skipComma? rest).2 with
              | ')' :: rest => return (value, rest)
              | _ => none
          | _ => none
      | none, none, '(' :: ')' :: rest => some (.missing, rest)
      | none, none, cs =>
          match readName? cs with
          | some (_, rest) => do
              match ← skip? .blank rest with
              | '(' :: rest => readBody? steps rest
              | rest => return (.missing, rest)
          | none =>
              match cs with
              | '(' :: rest => readBody? steps rest
              | '[' :: rest => (readItems? steps ']' rest).map fun (items, rest) =>
                  (.list items, rest)
              | '\x7b' :: rest => (readEntries? steps rest).map fun (entries, rest) =>
                  (.tableOf entries, rest)
              | '"' :: rest => (readText? (rest.length + 1) rest).map fun (text, rest) =>
                  (.text (.ofList text), rest)
              | 'r' :: rest => readRaw? rest
              | '\'' :: rest => readChar? rest
              | '.' :: _ => readFraction? cs
              | c :: _ => if c.isDigit || c = '+' || c = '-' then readNumber? cs else none
              | [] => none

def readBody? : Nat → List Char → Option (Setting × List Char)
  | 0, _ => none
  | steps + 1, cs => do
      let cs ← skip? .blank cs
      if startsField cs then
        let (fields, rest) ← readFields? steps cs
        return (.tableOf fields, rest)
      else
        let (items, rest) ← readItems? steps ')' cs
        return (.list items, rest)

def readFields? : Nat → List Char → Option (List (String × Setting) × List Char)
  | 0, _ => none
  | steps + 1, cs => do
      match ← skip? .blank cs with
      | ')' :: rest => return ([], rest)
      | rest =>
          let (name, rest) ← readName? rest
          let (field, isFollowed, rest) ← readMember? steps name rest
          if isFollowed then
            let (fields, rest) ← readFields? steps rest
            return (field :: fields, rest)
          else
            match rest with
            | ')' :: rest => return ([field], rest)
            | _ => none

/-- The value of a named member after its colon, whether a comma follows, and the rest, with a
bound on the steps. -/
def readMember? : Nat → String → List Char → Option ((String × Setting) × Bool × List Char)
  | 0, _, _ => none
  | steps + 1, name, cs => do
      match ← skip? .blank cs with
      | ':' :: rest =>
          let (value, rest) ← readValue? steps (← skip? .blank rest)
          let (isFollowed, rest) ← skipComma? rest
          return ((name, value), isFollowed, rest)
      | _ => none

/-- The entries of a map, whose names are texts, and its end, with a bound on the steps. -/
def readEntries? : Nat → List Char → Option (List (String × Setting) × List Char)
  | 0, _ => none
  | steps + 1, cs => do
      match ← skip? .blank cs with
      | '\x7d' :: rest => return ([], rest)
      | rest =>
          let (key, rest) ← readValue? steps rest
          let name ←
            match key with
            | .text name => some name
            | _ => none
          let (entry, isFollowed, rest) ← readMember? steps name rest
          if isFollowed then
            let (entries, rest) ← readEntries? steps rest
            return (entry :: entries, rest)
          else
            match rest with
            | '\x7d' :: rest => return ([entry], rest)
            | _ => none

def readItems? : Nat → Char → List Char → Option (List Setting × List Char)
  | 0, _, _ => none
  | steps + 1, close, cs => do
      match ← skip? .blank cs with
      | [] => none
      | c :: rest =>
          if c = close then return ([], rest)
          else
            let (item, rest) ← readValue? steps (c :: rest)
            let (isFollowed, rest) ← skipComma? rest
            if isFollowed then
              let (items, rest) ← readItems? steps close rest
              return (item :: items, rest)
            else if rest.head? = some close then return ([item], rest.drop 1)
            else none

end

/-- The setting that a text is.  Each step but three in four takes a character. -/
def setting? (text : String) : Option Setting := do
  let cs ← skip? .blank text.toList
  let (setting, rest) ← readValue? (4 * text.length + 4) cs
  guard (← skip? .blank rest).isEmpty
  return setting

end ActivityLedger.Ron

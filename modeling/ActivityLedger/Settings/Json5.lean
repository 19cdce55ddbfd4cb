import ActivityLedger.Json.Reader
import ActivityLedger.Settings.Numeral
import ActivityLedger.Text.Blank
import ActivityLedger.Text.Quoted

/-!
# Reading JSON for people

The grammar of JSON with what makes it easy to write by hand: comments, names
without quotes, texts in single quotes and over several lines, a comma after the
last item, and more ways to write a number.
-/

namespace ActivityLedger.Json5

def endsLine (c : Char) : Bool := c = '\n' || c = '\r' || c = '\u2028' || c = '\u2029'

def isBlank (c : Char) : Bool := Text.isBlank c && c ≠ '\u0085' || c = '\uFEFF'

/-- Where a run of blanks and comments is. -/
inductive Gap where
  | blank
  | line
  | block

/-- What follows blanks and comments, unless a comment is not closed. -/
def skip? : Gap → List Char → Option (List Char)
  | .blank, '/' :: '/' :: rest => skip? .line rest
  | .blank, '/' :: '*' :: rest => skip? .block rest
  | .blank, c :: rest => if isBlank c then skip? .blank rest else some (c :: rest)
  | .line, c :: rest => skip? (if endsLine c then .blank else .line) rest
  | .block, '*' :: '/' :: rest => skip? .blank rest
  | .block, _ :: rest => skip? .block rest
  | .block, [] => none
  | .blank, [] | .line, [] => some []

def unescape : Char → Nat
  | 'b' => 8
  | 'f' => 12
  | 'n' => 10
  | 'r' => 13
  | 't' => 9
  | 'v' => 11
  | '0' => 0
  | c => c.toNat

/-- A character has no meaning of its own after a backslash. -/
def mayEscape (c : Char) : Bool := !(c.isDigit && c ≠ '0') && c ≠ 'x' && c ≠ 'u'

def readUnits? (quote : Char) : List Char → Option (List Nat × List Char)
  | [] => none
  | '\\' :: 'x' :: a :: b :: rest => do
      let unit ← Json.hexUnit? '0' '0' a b
      let (units, rest) ← readUnits? quote rest
      return (unit :: units, rest)
  | '\\' :: 'u' :: a :: b :: c :: d :: rest => do
      let unit ← Json.hexUnit? a b c d
      let (units, rest) ← readUnits? quote rest
      return (unit :: units, rest)
  | '\\' :: '\r' :: '\n' :: rest => readUnits? quote rest
  | '\\' :: c :: rest => do
      if endsLine c then readUnits? quote rest
      else if mayEscape c then
        let (units, rest) ← readUnits? quote rest
        return (unescape c :: units, rest)
      else none
  | c :: rest =>
      if c = quote then some ([], rest)
      else if c = '\\' || endsLine c then none
      else do
        let (units, rest) ← readUnits? quote rest
        return (c.toNat :: units, rest)

/-- A text after its opening quote, whose escapes form whole characters. -/
def readText? (quote : Char) (cs : List Char) : Option (String × List Char) := do
  let (units, rest) ← readUnits? quote cs
  return (.ofList (← Json.joinUnits? units), rest)

def startsName (c : Char) : Bool :=
  c.isAlpha || c = '$' || c = '_' ||
    (128 ≤ c.toNat && Text.isVisible c && !isBlank c && !endsLine c)

def isNameChar (c : Char) : Bool :=
  startsName c || c.isDigit || c = '\u200C' || c = '\u200D'

def readWord? : List Char → Option (String × List Char)
  | [] => none
  | c :: rest =>
      if startsName c then
        some (.ofList (c :: rest.takeWhile isNameChar), rest.dropWhile isNameChar)
      else none

def readName? : List Char → Option (String × List Char)
  | '"' :: rest => readText? '"' rest
  | '\'' :: rest => readText? '\'' rest
  | rest => readWord? rest

/-- The number in base sixteen after its mark, of 32 bits at most. -/
def hexadecimal? (run : List Char) : Option Setting :=
  match Setting.ofDigits? false 16 run with
  | some (.integer n) => if n ≤ 4294967295 then some (.integer n) else none
  | _ => none

/-- The characters of a decimal number: digits, a fraction and an exponent. -/
def splitDecimal (cs : List Char) : List Char × List Char :=
  let (whole, rest) := Json.splitDigits cs
  let (fraction, rest) :=
    match rest with
    | '.' :: rest =>
        let (run, rest) := Json.splitDigits rest
        ('.' :: run, rest)
    | _ => ([], rest)
  let (exponent, rest) :=
    match Json.readExponent rest with
    | some (some _, left) => (rest.take (rest.length - left.length), left)
    | _ => ([], rest)
  (whole ++ fraction ++ exponent, rest)

/-- The number that an unsigned text is, which has no leading zeros. -/
def unsigned? (negative : Bool) (run : List Char) : Option Setting :=
  let isLong := run.head? = some '0' && ((run.drop 1).head?.map Char.isDigit).getD false
  if isLong then none
  else if run.all Char.isDigit then Setting.ofDigits? negative 10 run
  else
    match Setting.decimal? (if negative then '-' :: run else run) with
    | some (.real number) => if number.isInfinite then none else some (.real number)
    | other => other

/-- A number.  The words and the numbers in base sixteen do not go with every sign. -/
def readNumber? (cs : List Char) : Option (Setting × List Char) :=
  let word (text : String) (rest : List Char) : Option (List Char) :=
    if text.toList.isPrefixOf rest then some (rest.drop text.length) else none
  let (sign, rest) :=
    match cs with
    | '+' :: rest => (some '+', rest)
    | '-' :: rest => (some '-', rest)
    | _ => (none, cs)
  match rest with
  | '0' :: 'x' :: run | '0' :: 'X' :: run =>
      let digits := run.takeWhile fun c => (Json.hexValue? c).isSome
      if sign.isSome then none
      else (hexadecimal? digits).map fun number => (number, run.drop digits.length)
  | _ =>
      match word "Infinity" rest, word "NaN" rest with
      | some left, _ =>
          if sign = some '+' then none else some (.real (.infinite sign.isSome), left)
      | _, some left => if sign = some '+' then none else some (.notNumber, left)
      | none, none =>
          let (run, left) := splitDecimal rest
          (unsigned? (sign = some '-') run).map fun number => (number, left)

mutual

def readValue? : Nat → List Char → Option (Setting × List Char)
  | 0, _ => none
  | steps + 1, cs => do
      match ← skip? .blank cs with
      | 'n' :: 'u' :: 'l' :: 'l' :: rest => return (.missing, rest)
      | 't' :: 'r' :: 'u' :: 'e' :: rest => return (.bool true, rest)
      | 'f' :: 'a' :: 'l' :: 's' :: 'e' :: rest => return (.bool false, rest)
      | '"' :: rest =>
          let (text, rest) ← readText? '"' rest
          return (.text text, rest)
      | '\'' :: rest =>
          let (text, rest) ← readText? '\'' rest
          return (.text text, rest)
      | '[' :: rest =>
          let (items, rest) ← readItems? steps rest
          return (.list items, rest)
      | '\x7b' :: rest =>
          let (members, rest) ← readMembers? steps rest
          return (.tableOf members, rest)
      | rest => readNumber? rest

def readItems? : Nat → List Char → Option (List Setting × List Char)
  | 0, _ => none
  | steps + 1, cs => do
      match ← skip? .blank cs with
      | ']' :: rest => return ([], rest)
      | rest =>
          let (item, rest) ← readValue? steps rest
          match ← skip? .blank rest with
          | ',' :: rest =>
              let (items, rest) ← readItems? steps rest
              return (item :: items, rest)
          | ']' :: rest => return ([item], rest)
          | _ => none

def readMembers? : Nat → List Char → Option (List (String × Setting) × List Char)
  | 0, _ => none
  | steps + 1, cs => do
      match ← skip? .blank cs with
      | '\x7d' :: rest => return ([], rest)
      | rest =>
          let (name, rest) ← readName? rest
          match ← skip? .blank rest with
          | ':' :: rest =>
              let (value, rest) ← readValue? steps rest
              match ← skip? .blank rest with
              | ',' :: rest =>
                  let (members, rest) ← readMembers? steps rest
                  return ((name, value) :: members, rest)
              | '\x7d' :: rest => return ([(name, value)], rest)
              | _ => none
          | _ => none

end

/-- The setting that a text is.  Each step but one in two takes a character. -/
def setting? (text : String) : Option Setting := do
  let (setting, rest) ← readValue? (2 * text.length + 2) text.toList
  guard (← skip? .blank rest).isEmpty
  return setting

end ActivityLedger.Json5

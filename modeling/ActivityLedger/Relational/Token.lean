import ActivityLedger.Json.Reader
import ActivityLedger.Text.Numeral

/-!
# Tokens of statements

A statement is a run of words, names in quotes, numbers and marks, between which
there may be blanks and comments.  A quote that is not closed takes the whole rest
of the statement.
-/

namespace ActivityLedger.Relational

inductive Token where
  /-- A word without quotes. -/
  | word (text : String)
  /-- A name in quotes, and how it is written. -/
  | quoted (name written : String)
  /-- A number, a parameter or a mark. -/
  | mark (text : String)
  /-- A text that is no piece of any statement. -/
  | illegal (text : String)
deriving DecidableEq

namespace Token

def written : Token → String
  | word text | quoted _ text | mark text | illegal text => text

def slantedQuote : Char := Char.ofNat 96

def isWordChar (c : Char) : Bool := c.isAlphanum || c = '_' || c = '$' || 128 ≤ c.toNat

/-- What stands before a closing quote, a doubled one standing for itself, and what follows it. -/
def readQuoted? (quote : Char) : List Char → Option (List Char × List Char)
  | [] => none
  | c :: rest =>
      if c ≠ quote then (readQuoted? quote rest).map fun (name, left) => (c :: name, left)
      else
        match rest with
        | next :: rest =>
            if next = quote then
              (readQuoted? quote rest).map fun (name, left) => (quote :: name, left)
            else some ([], next :: rest)
        | [] => some ([], [])

/-- The text that was read, given what is left of it. -/
def taken (cs rest : List Char) : String := String.ofList (cs.take (cs.length - rest.length))

def skipExponent (cs : List Char) : List Char :=
  match cs with
  | c :: rest =>
      let (_, digits) := Text.Numeral.readSign rest
      if (c = 'e' || c = 'E') && (digits.head?.map Char.isDigit) = some true then
        digits.dropWhile Char.isDigit
      else cs
  | [] => []

/-- A number, which no character of a word may follow. -/
def readNumber (cs : List Char) : Token × List Char :=
  let hexadecimal (c : Char) := (Json.hexValue? c).isSome
  match cs with
  | '0' :: 'x' :: c :: rest | '0' :: 'X' :: c :: rest =>
      if hexadecimal c then
        let left := rest.dropWhile hexadecimal
        (.mark (taken cs left), left)
      else
        let left := (c :: rest).dropWhile isWordChar
        (.illegal (taken cs left), left)
  | _ =>
      let left := skipExponent (Text.Numeral.readFraction (cs.dropWhile Char.isDigit)).2
      if (left.head?.map isWordChar) = some true then
        let left := left.dropWhile isWordChar
        (.illegal (taken cs left), left)
      else (.mark (taken cs left), left)

/-- A run of bytes between single quotes, as pairs of hexadecimal digits. -/
def readBytes (cs : List Char) : Token × List Char :=
  let body := (cs.drop 2).takeWhile (· ≠ '\'')
  let left := ((cs.drop 2).dropWhile (· ≠ '\'')).drop 1
  let isClosed := body.length + 2 < cs.length
  if isClosed && body.length % 2 = 0 && body.all fun c => (Json.hexValue? c).isSome then
    (.mark (taken cs left), left)
  else (.illegal (taken cs left), left)

/-- The marks of more than one character, longer ones first. -/
def longMarks : List (List Char) :=
  ["->>", "->", "<=", "<>", "<<", ">=", ">>", "==", "!=", "||"].map String.toList

def shortMarks : List Char := "-();+*/%=<>|,&~.".toList

/-- The first token of a text that starts with neither a blank nor a comment. -/
def read (cs : List Char) : Token × List Char :=
  match cs with
  | [] => (.illegal "", [])
  | c :: rest =>
      if c = '"' || c = '\'' || c = slantedQuote then
        match readQuoted? c rest with
        | some (name, left) => (.quoted (String.ofList name) (taken cs left), left)
        | none => (.illegal (String.ofList cs), [])
      else if c = '[' then
        let name := rest.takeWhile (· ≠ ']')
        match rest.drop name.length with
        | _ :: left => (.quoted (String.ofList name) (taken cs left), left)
        | [] => (.illegal (String.ofList cs), [])
      else if (c = 'x' || c = 'X') && rest.head? = some '\'' then readBytes cs
      else if c.isDigit || c = '.' && (rest.head?.map Char.isDigit) = some true then readNumber cs
      else if c = '?' then
        let left := rest.dropWhile Char.isDigit
        (.mark (taken cs left), left)
      else if c = '@' || c = '#' || c = ':' || c = '$' then
        let left := rest.dropWhile isWordChar
        if left.length = rest.length then (.illegal (taken cs left), left)
        else (.mark (taken cs left), left)
      else if isWordChar c then
        let left := rest.dropWhile isWordChar
        (.word (taken cs left), left)
      else
        match longMarks.find? fun long => long.isPrefixOf cs with
        | some long => (.mark (String.ofList long), cs.drop long.length)
        | none =>
            if c ∈ shortMarks then (.mark (String.ofList [c]), rest)
            else (.illegal (String.ofList [c]), rest)

/-- A character that starts a run of blanks, in which the vertical tab may stand too. -/
def isBlank (c : Char) : Bool := Text.isBasicBlank c && c ≠ '\x0b'

def afterComment : List Char → List Char
  | '*' :: '/' :: rest => rest
  | _ :: rest => afterComment rest
  | [] => []

def scan : Nat → List Char → List Token
  | 0, _ => []
  | steps + 1, cs =>
      match cs with
      | [] => []
      | '-' :: '-' :: rest => scan steps (rest.dropWhile (· ≠ '\n'))
      | '/' :: '*' :: c :: rest => scan steps (afterComment (c :: rest))
      | c :: rest =>
          if isBlank c then scan steps (rest.dropWhile Text.isBasicBlank)
          else if c = '\uFEFF' then scan steps rest
          else
            let (token, left) := read cs
            token :: scan steps left

/-- The tokens of a text.  Each step takes a character at least. -/
def ofText (text : String) : List Token := scan (text.length + 1) text.toList

end Token

end ActivityLedger.Relational

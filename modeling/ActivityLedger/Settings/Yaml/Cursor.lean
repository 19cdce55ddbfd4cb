/-!
# Places in an indented text

A reader of indented text has to know where it is: how many characters it has read,
in which line it is, and how far from the start of that line.  The text ends at its
first character of code zero, if it has one.
-/

namespace ActivityLedger.Yaml

/-- The character that stands for the end of a text. -/
def ending : Char := '\x00'

def isBreak (c : Char) : Bool := c = '\n' || c = '\r'

def isSpace (c : Char) : Bool := c = ' ' || c = '\t'

def isGap (c : Char) : Bool := isSpace c || isBreak c || c = ending

def endsLine (c : Char) : Bool := isBreak c || c = ending

structure Cursor where
  rest : List Char
  index : Nat
  line : Nat
  column : Nat

namespace Cursor

def start (text : String) : Cursor := ⟨text.toList.takeWhile (· ≠ ending), 0, 0, 0⟩

def ahead (cursor : Cursor) (count : Nat) : Char := cursor.rest.getD count ending

def head (cursor : Cursor) : Char := cursor.ahead 0

def next (cursor : Cursor) : Cursor :=
  match cursor.rest with
  | [] => cursor
  | c :: rest =>
      if c = '\n' then ⟨rest, cursor.index + 1, cursor.line + 1, 0⟩
      else ⟨rest, cursor.index + 1, cursor.line, cursor.column + 1⟩

def skip : Nat → Cursor → Cursor
  | 0, cursor => cursor
  | count + 1, cursor => skip count cursor.next

def skipWhile (kind : Char → Bool) (cursor : Cursor) : Cursor :=
  cursor.skip (cursor.rest.takeWhile kind).length

def skipBreak (cursor : Cursor) : Cursor :=
  if cursor.head = '\r' && cursor.ahead 1 = '\n' then cursor.skip 2
  else if isBreak cursor.head then cursor.next
  else cursor

/-- The place behind spaces and a comment up to the end of the line, if there is nothing else. -/
def skipComment? (cursor : Cursor) : Option Cursor :=
  let cursor := cursor.skipWhile isSpace
  let cursor := if cursor.head = '#' then cursor.skipWhile fun c => !endsLine c else cursor
  if endsLine cursor.head then some cursor.skipBreak else none

/-- A mark of three characters stands alone at the start of the line. -/
def isAtMark (cursor : Cursor) (c : Char) : Bool :=
  cursor.column = 0 && cursor.rest.take 3 = [c, c, c] && isGap (cursor.ahead 3)

def isAtDocumentMark (cursor : Cursor) : Bool := cursor.isAtMark '-' || cursor.isAtMark '.'

end Cursor

end ActivityLedger.Yaml

import ActivityLedger.Numeric.Stored
import ActivityLedger.Text.Quoted

/-!
# Cells

What one column of a row holds.  A column has a leaning: in a column that leans
to integers a text that is a number becomes the number, and a number without a
fraction becomes an integer; in one that leans to texts every number becomes a
text.  The sum of integers that leaves the range of amounts is kept as a binary
fraction, so that the loss is visible.
-/

namespace ActivityLedger.Relational

/-- What one column of a row holds. -/
inductive Cell where
  | integer (n : Amount)
  | real (x : Binary64)
  | text (s : String)
deriving DecidableEq

namespace Cell

def zero : Cell := .integer Amount.zero

def ofSmall (n : Small) : Cell := .integer (Amount.wrap n.val)

/-- A fraction in a column that leans to integers, both ends of the range being left out. -/
def ofReal (x : Binary64) : Cell :=
  match x.int? with
  | some n =>
      if h : -9223372036854775808 < n ∧ n < 9223372036854775807 then
        .integer ⟨n, by omega, by omega⟩
      else .real x
  | none => .real x

/-- The number of a numeral with digits: an integer if it is written as one and in range. -/
def ofNumeral (numeral : Text.Numeral) : Cell :=
  let size : Int := Text.value numeral.digits
  if numeral.isBroad then .real (Stored.ofNumeral numeral)
  else
    match (Bounded.ofInt? (if numeral.negative then -size else size) : Option Amount) with
    | some n => .integer n
    | none => .real (Stored.ofNumeral numeral)

def narrow : Cell → Cell
  | .real x => ofReal x
  | cell => cell

/-- A cell as a column that leans to integers keeps it. -/
def leaningToInteger : Cell → Cell
  | .text s =>
      let numeral := Text.Numeral.read s.toList
      if numeral.isComplete && !numeral.digits.isEmpty then narrow (ofNumeral numeral)
      else .text s
  | cell => narrow cell

def leaningToText : Cell → String
  | .integer n => String.ofList (Text.integer n.val)
  | .real x => Stored.text x
  | .text s => s

def amount? : Cell → Option Amount
  | .integer n => some n
  | .real _ => none
  | .text _ => none

/-- The cell as a number, a text standing for the number it starts with. -/
def number : Cell → Cell
  | .text s =>
      let numeral := Text.Numeral.read s.toList
      if numeral.digits.isEmpty then zero else ofNumeral numeral
  | cell => cell

/-- The sum of a cell and an amount, as a column that leans to integers keeps it. -/
def add (cell : Cell) (delta : Amount) : Cell :=
  match cell.number with
  | .integer n =>
      match n.add? delta with
      | some sum => .integer sum
      | none => ofReal ((Binary64.ofInt n.val).add (Binary64.ofInt delta.val))
  | .real x => ofReal (x.add (Binary64.ofInt delta.val))
  | .text s => .text s

/-- The cell is at most a number, any text being more than every number. -/
def atMost : Cell → Int → Bool
  | .integer n, bound => n.val ≤ bound
  | .real x, bound => x.atMost bound
  | .text _, _ => false

def atLeast : Cell → Int → Bool
  | .integer n, bound => bound ≤ n.val
  | .real x, bound => x.atLeast bound
  | .text _, _ => true

def isLess : Cell → Cell → Bool
  | .integer n, .integer m => n.val < m.val
  | .integer n, .real y => !y.atMost n.val
  | .real x, .integer m => !x.atLeast m.val
  | .real x, .real y => x.isLess y
  | .text _, _ | _, .text _ => false

def greatest : Int := 9223372036854775807

/-- An amount may be added: it is not positive, or the cell leaves room for it. -/
def leavesRoom (cell : Cell) (delta : Amount) : Bool :=
  delta.val ≤ 0 || cell.atMost (greatest - delta.val)

/-- A text as a row is read: up to its first character of code zero. -/
def readText (s : String) : String := String.ofList (s.toList.takeWhile (· ≠ '\x00'))

def shown : Cell → String
  | .integer n => s!"Integer({n.val})"
  | .real x => "Real(" ++ x.exactText ++ ")"
  | .text s => "Text(" ++ Text.quoted (readText s) ++ ")"

theorem amount?_eq_some_iff {cell : Cell} {n : Amount} :
    cell.amount? = some n ↔ cell = .integer n := by
  cases cell <;> simp [amount?]

theorem add_integer_of_add? {n delta sum : Amount} (fits : n.add? delta = some sum) :
    (Cell.integer n).add delta = .integer sum := by
  simp [add, number, fits]

end Cell

end ActivityLedger.Relational

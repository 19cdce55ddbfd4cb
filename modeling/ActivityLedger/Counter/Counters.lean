import ActivityLedger.Counter.Names
import ActivityLedger.Error

/-!
# Counters with their amounts

A table of amounts over a vocabulary.  An addition that would leave the range of
amounts is refused and changes nothing.
-/

namespace ActivityLedger

/-- One amount for every counter of a vocabulary. -/
abbrev Counters (κ : Type) [Vocabulary κ] := Columns κ Amount

namespace Counters

variable {κ : Type} [Vocabulary κ]

def zero : Counters κ := Columns.tabulate fun _ => Amount.zero

/-- Adds an amount to one counter, unless the sum is no amount. -/
def add (table : Counters κ) (counter : κ) (delta : Amount) : Except Error (Counters κ) :=
  match (table.get counter).add? delta with
  | some sum => .ok (table.set counter sum)
  | none => .error (.invariant (.counterOverflow (column counter) (table.get counter) delta))

/-- Adds a list of amounts, each to its counter, stopping at the first that is refused. -/
def addAll (table : Counters κ) : List (κ × Amount) → Except Error (Counters κ)
  | [] => .ok table
  | (counter, delta) :: rest =>
      match table.add counter delta with
      | .ok next => addAll next rest
      | .error error => .error error

def isZero (table : Counters κ) : Bool :=
  (Vocabulary.all κ).all fun counter => table.get counter = Amount.zero

@[simp] theorem get_zero (counter : κ) : (zero : Counters κ).get counter = Amount.zero := by
  simp [zero]

end Counters

end ActivityLedger

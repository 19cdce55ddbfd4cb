import ActivityLedger.Text.Decimal

/-!
# Moments

A date, a time of day, or both with the distance from universal time, as they may
stand in a file with settings.  They have no use there but as texts.
-/

namespace ActivityLedger.Moment

/-- A text that was read, and what follows it. -/
abbrev Read := Option (List Char × List Char)

def twoDigits : List Char → Read
  | a :: b :: rest => if a.isDigit && b.isDigit then some ([a, b], rest) else none
  | _ => none

def only (c : Char) : List Char → Read
  | first :: rest => if first = c then some ([c], rest) else none
  | [] => none

def checked (low high : Nat) (digits : List Char) : Option Unit :=
  guard (low ≤ Text.value digits ∧ Text.value digits ≤ high)

def readDate (cs : List Char) : Read := do
  let (century, cs) ← twoDigits cs
  let (year, cs) ← twoDigits cs
  let (_, cs) ← only '-' cs
  let (month, cs) ← twoDigits cs
  checked 1 12 month
  let (_, cs) ← only '-' cs
  let (day, cs) ← twoDigits cs
  checked 1 31 day
  return (century ++ year ++ ['-'] ++ month ++ ['-'] ++ day, cs)

/-- The first nine digits of a fraction, without zeros at their end. -/
def fraction (run : List Char) : List Char :=
  let kept := ((run.take 9).reverse.dropWhile fun c => c = '0').reverse
  if kept.isEmpty then [] else '.' :: kept

def readTime (cs : List Char) : Read := do
  let (hour, cs) ← twoDigits cs
  checked 0 24 hour
  let (_, cs) ← only ':' cs
  let (minute, cs) ← twoDigits cs
  checked 0 59 minute
  let (_, cs) ← only ':' cs
  let (second, cs) ← twoDigits cs
  checked 0 59 second
  let time := hour ++ [':'] ++ minute ++ [':'] ++ second
  match cs with
  | '.' :: cs =>
      let run := cs.takeWhile Char.isDigit
      if run.isEmpty then none else some (time ++ fraction run, cs.dropWhile Char.isDigit)
  | cs => some (time, cs)

def readOffset : List Char → Read
  | 'Z' :: cs | 'z' :: cs => some (['Z'], cs)
  | '+' :: cs => distance '+' cs
  | '-' :: cs => distance '-' cs
  | cs => some ([], cs)
where
  /-- A number of hours and minutes. -/
  distance (sign : Char) (cs : List Char) : Read := do
    let (hours, cs) ← twoDigits cs
    let (_, cs) ← only ':' cs
    let (minutes, cs) ← twoDigits cs
    let sign := if hours = ['0', '0'] then '+' else sign
    return ([sign] ++ hours ++ [':'] ++ minutes, cs)

/-- A time of day with its distance from universal time, after a date. -/
def readRest (date cs : List Char) : Read := do
  let (time, cs) ← readTime cs
  let (offset, cs) ← readOffset cs
  return (date ++ ['T'] ++ time ++ offset, cs)

def read (cs : List Char) : Read :=
  match readDate cs with
  | none => readTime cs
  | some (date, 'T' :: cs) | some (date, 't' :: cs) => readRest date cs
  | some (date, ' ' :: c :: cs) =>
      if c.isDigit then readRest date (c :: cs) else some (date, ' ' :: c :: cs)
  | some (date, cs) => some (date, cs)

end ActivityLedger.Moment

import ActivityLedger.Json.Format
import ActivityLedger.Json.Reader
import ActivityLedger.Numeric.Scientific
import ActivityLedger.Text.LowerCase

/-!
# Settings in layers

A setting is a value of any sort, or a table of settings by name.  Layers are laid
over each other: a table is merged with the one below, anything else replaces what
is below.  A setting that is asked for as a number or as a text is converted where
that makes sense.
-/

namespace ActivityLedger

inductive Setting where
  | missing
  | bool (b : Bool)
  | integer (n : Int)
  | real (x : Binary64)
  /-- A zero that is written as a fraction with a minus. -/
  | negativeZero
  /-- What is no number at all, though written as one. -/
  | notNumber
  | text (s : String)
  | list (items : List Setting)
  | table (entries : List (String × Setting))

namespace Setting

/-- Entries with one that is replaced or added at the end. -/
def replace (name : String) (setting : Setting) :
    List (String × Setting) → List (String × Setting)
  | [] => [(name, setting)]
  | (other, old) :: rest =>
      if other = name then (name, setting) :: rest else (other, old) :: replace name setting rest

/-- The entries of a table, and none for anything else. -/
def entries : Setting → List (String × Setting)
  | .table entries => entries
  | _ => []

def find? (name : String) (setting : Setting) : Option Setting := setting.entries.lookup name

/-- The settings under names, or the items of a list in the order of the names. -/
def fields? (names : List String) : Setting → Option (List (Option Setting))
  | .table entries => some (names.map fun name => entries.lookup name)
  | .list items => some (names.zipIdx.map fun entry => items[entry.2]?)
  | _ => none

/-- A list of entries as a table, in which the last one of a name counts. -/
def tableOf (entries : List (String × Setting)) : Setting :=
  .table (entries.foldl (fun table entry => replace entry.1 entry.2 table) [])

def ofFraction (negative : Bool) (number : Binary64) : Setting :=
  if negative && number = .finite 0 0 then .negativeZero else .real number

mutual

/-- A setting laid over what is there, if anything is.  A table without entries leaves it. -/
def laidOver (upper : Setting) (lower : Option Setting) : Setting :=
  match upper with
  | .table entries => overEntries entries (lower.getD (.table []))
  | other => other

def overEntries (upper : List (String × Setting)) (lower : Setting) : Setting :=
  match upper with
  | [] => lower
  | (name, setting) :: rest =>
      overEntries rest
        (.table (replace name (laidOver setting (lower.find? name)) lower.entries))

end

def countOf (s : String) : Option Count :=
  let run :=
    match s.toList with
    | '+' :: rest => rest
    | cs => cs
  if !run.isEmpty && run.all Char.isDigit then Bounded.ofInt? (Text.value run) else none

/-- The count nearest to a number, a half going up and the ends of the range being kept. -/
def nearestCount (x : Binary64) : Count :=
  match x with
  | .infinite false => Count.greatest
  | .infinite true => Count.zero
  | .finite m e =>
      let (n, d) := Binary64.quotient m e
      let rounded := (2 * n + d) / (2 * d)
      match (Bounded.ofInt? rounded : Option Count) with
      | some count => count
      | none => if rounded < 0 then Count.zero else Count.greatest

def count? : Setting → Option Count
  | .bool b => some (if b then Count.one else Count.zero)
  | .integer n => Bounded.ofInt? n
  | .real x => some (nearestCount x)
  | .negativeZero | .notNumber => some Count.zero
  | .text s =>
      match String.ofList (Text.lowerCase s.toList) with
      | "true" | "on" | "yes" => some Count.one
      | "false" | "off" | "no" => some Count.zero
      | _ => countOf s
  | .missing | .list _ | .table _ => none

def text? : Setting → Option String
  | .bool b => some (if b then "true" else "false")
  | .integer n => some (String.ofList (Text.integer n))
  | .real x => some x.plainText
  | .negativeZero => some "-0"
  | .notNumber => some "NaN"
  | .text s => some s
  | .missing | .list _ | .table _ => none

end Setting

namespace Json

mutual

def Value.setting : Value → Setting
  | .null | .broken => .missing
  | .bool b => .bool b
  | .number (.integer n) =>
      if -9223372036854775808 ≤ n ∧ n ≤ 9223372036854775807 then .integer n
      else .real (Number.integer n).fraction
  | .number (.decimal negative digits exponent) =>
      .ofFraction negative (readDecimal negative digits exponent)
  | .text s => .text s
  | .list items => .list (settingsOf items)
  | .object members => .tableOf (entriesOf members)

def settingsOf : List Value → List Setting
  | [] => []
  | value :: rest => value.setting :: settingsOf rest

def entriesOf : List (String × Value) → List (String × Setting)
  | [] => []
  | (name, value) :: rest => (name, value.setting) :: entriesOf rest

end

/-- How deep a value that is kept as a whole may be nested. -/
def documentRoom : Nat := memberRoom + 1

/-- The setting that a text stands for, if all of it can be kept. -/
def setting? (text : String) : Option Setting :=
  (Value.read? text).bind fun value =>
    if isReadable documentRoom value then some value.setting else none

end Json

end ActivityLedger

import ActivityLedger.Settings.Setting

/-!
# Places of settings

The name of a setting at the top of a layer is read as a place: a word, and then
words after dots and positions in brackets.  A name that is no such place stands
for itself.  What is on the way to a place is built where it is missing.
-/

namespace ActivityLedger.Setting

inductive Step where
  | name (name : String)
  /-- A position in a list, counted from its end if it is negative. -/
  | position (index : Int)
deriving DecidableEq

/-- The steps to a setting, the last one apart. -/
structure Place where
  path : List Step
  last : Step
deriving DecidableEq

/-! ## Reading places -/

def isWordPart (c : Char) : Bool := c.isAlphanum || c = ' ' || c = '_' || c = '-'

def isPositionBlank (c : Char) : Bool := c = ' ' || c = '\t' || c = '\r' || c = '\n'

/-- A position before its closing bracket, and what follows the bracket. -/
def readPosition (cs : List Char) : Option (Int × List Char) :=
  let (negative, cs) :=
    match cs.dropWhile isPositionBlank with
    | '-' :: rest => (true, rest)
    | rest => (false, rest)
  let run := cs.takeWhile Char.isDigit
  let index : Int := if negative then -(Text.value run : Int) else Text.value run
  match (cs.dropWhile Char.isDigit).dropWhile isPositionBlank with
  | ']' :: rest =>
      if run.isEmpty || index < -9223372036854775808 || 9223372036854775807 < index then none
      else some (index, rest)
  | _ => none

def readSteps : Nat → List Char → Option (List Step)
  | _, [] => some []
  | 0, _ => none
  | bound + 1, '.' :: rest =>
      let word := rest.takeWhile isWordPart
      if word.isEmpty then none
      else (readSteps bound (rest.dropWhile isWordPart)).map (.name (.ofList word) :: ·)
  | bound + 1, '[' :: rest => do
      let (index, rest) ← readPosition rest
      return .position index :: (← readSteps bound rest)
  | _, _ => none

/-- The steps that a text stands for, if it is a place. -/
def readPlace? (text : String) : Option (List Step) :=
  match text.toList.takeWhile isWordPart with
  | [] => none
  | word =>
      (readSteps text.length (text.toList.dropWhile isWordPart)).map (.name (.ofList word) :: ·)

def Place.ofName (name : String) : Place :=
  let steps := (readPlace? name).getD [.name name]
  ⟨steps.dropLast, steps.getLast?.getD (.name name)⟩

/-! ## Changing what is at a place -/

/-- The items of a list, and none for anything else. -/
def items : Setting → List Setting
  | .list items => items
  | _ => []

def indexIn (length : Nat) (position : Int) : Nat :=
  if 0 ≤ position then position.toNat else length - position.natAbs

/-- A list with the item at a position changed, which is there before if it was missing. -/
def changeItem (change : Setting → Setting) (position : Int) (items : List Setting) :
    List Setting :=
  let index := indexIn items.length position
  (items ++ List.replicate (index + 1 - items.length) Setting.missing).modify index change

def changeAt (change : Setting → Setting) : List Step → Setting → Setting
  | [], setting => change setting
  | .name name :: path, setting =>
      let inner := changeAt change path ((setting.find? name).getD .missing)
      .table (replace name inner setting.entries)
  | .position index :: path, setting =>
      .list (changeItem (changeAt change path) index setting.items)

/-- A setting with another one laid over its entry, or in the place of its item. -/
def assign (upper : Setting) : Step → Setting → Setting
  | .name name, setting =>
      .table (replace name (laidOver upper (setting.find? name)) setting.entries)
  | .position index, setting => .list (changeItem (fun _ => upper) index setting.items)

def place (upper : Setting) (place : Place) (lower : Setting) : Setting :=
  changeAt (assign upper place.last) place.path lower

/-- A table with a layer of entries over it, whose names are places. -/
def layer (entries : List (String × Setting)) (lower : Setting) : Setting :=
  entries.foldl (fun below entry => place entry.2 (.ofName entry.1) below) lower

end ActivityLedger.Setting

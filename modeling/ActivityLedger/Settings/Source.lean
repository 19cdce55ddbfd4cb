import ActivityLedger.Files.Opening
import ActivityLedger.Settings.Settings

/-!
# Files with settings

A file with settings is named by its path.  The ending of the path tells the format,
and may be left out where no file has just that path.
-/

namespace ActivityLedger.Settings

/-- The formats under the endings of their files, in the order in which they are tried. -/
def endings : List (String × FileFormat) := [
  ("toml", .toml), ("json", .json), ("yaml", .yaml), ("yml", .yaml), ("ini", .ini), ("ron", .ron),
  ("json5", .json5)]

/-- What follows the last dot in the last part of a path, unless nothing precedes the dot. -/
def endingOf (path : String) : String :=
  let name := path.toList.reverse.takeWhile fun c => c != '/'
  match name.dropWhile fun c => c != '.' with
  | _ :: _ :: _ => .ofList (name.takeWhile fun c => c != '.').reverse
  | _ => ""

def textAt? (files : Files) (path : String) : Option String :=
  match files.find path with
  | .ok (.file (.bytes bytes)) => String.fromUTF8? ⟨bytes.toArray⟩
  | _ => none

/-- The paths with an ending that a path may stand for, with their formats. -/
def longer (path : String) : List (String × FileFormat) :=
  let stem := String.ofList (Path.trimEnd path.toList)
  endings.map fun entry => (stem ++ "." ++ entry.1, entry.2)

def findFile? (files : Files) (path : String) : Option (FileFormat × String) :=
  if files.isFile path then do
    let format ← endings.lookup (endingOf path)
    return (format, ← textAt? files path)
  else do
    let (path, format) ← (longer path).find? fun entry => files.isFile entry.1
    return (format, ← textAt? files path)

def loadFrom (environment : Environment) (files : Files) : Option String → Except Error Settings
  | none => load environment none
  | some path =>
      match findFile? files path with
      | some file => load environment (some file)
      | none => .error .configuration

end ActivityLedger.Settings

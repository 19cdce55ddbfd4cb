/-!
# Trees of files

Directories and files below a current directory, and the paths that lead to them.
A path is a list of parts; a single dot stays where it is, two dots go back, and
every part but the last has to be a directory.
-/

namespace ActivityLedger

inductive FileNode (α : Type) where
  | file (content : α)
  | directory (entries : List (String × FileNode α))

/-- The files below a current directory.  The root is an entry among them. -/
structure FileTree (α : Type) where
  entries : List (String × FileNode α)

inductive PathFault where
  | absent
  | notDirectory
  | isDirectory
  | present
  | tooLong
deriving DecidableEq

def PathFault.message : PathFault → String
  | .absent => "No such file or directory (os error 2)"
  | .notDirectory => "Not a directory (os error 20)"
  | .isDirectory => "Is a directory (os error 21)"
  | .present => "File exists (os error 17)"
  | .tooLong => "File name too long (os error 36)"

namespace Path

def root : String := "/"

def back : String := ".."

/-- The parts of a path.  A slash at the end asks for a directory. -/
def parts (path : String) : List String :=
  let words := (path.splitOn "/").filter (· ≠ "")
  (if path.startsWith "/" then [root] else []) ++
    (if path.endsWith "/" ∧ words ≠ [] then words ++ ["."] else words)

/-- A path without slashes and single dots at its end, unless it has nothing else. -/
def trimEnd (cs : List Char) : List Char := (go cs.reverse).reverse
where
  /-- The same on the reversed path. -/
  go : List Char → List Char
    | ['/'] => ['/']
    | '/' :: rest => go rest
    | '.' :: '/' :: rest => if rest.isEmpty then ['/'] else go ('/' :: rest)
    | cs => cs

def parent? (path : String) : Option String :=
  let trimmed := trimEnd path.toList
  if trimmed.isEmpty || trimmed == ['/'] then none
  else
    let front := (trimmed.reverse.dropWhile fun c => c != '/').reverse
    some (.ofList (trimEnd front))

def up (place : List String) : List String :=
  match place.getLast? with
  | none => [back]
  | some last =>
      if last = back then place ++ [back] else if last = root then place else place.dropLast

/-- A place that is there without being made: the current directory, one before it, or the
root. -/
def isStanding (place : List String) : Bool := place == [root] || place.all (· == back)

def partLimit : Nat := 255

def lengthLimit : Nat := 4096

end Path

namespace FileTree

variable {α : Type}

def empty : FileTree α := ⟨[]⟩

def nodeIn : List String → List (String × FileNode α) → Option (FileNode α)
  | [], entries => some (.directory entries)
  | part :: way, entries =>
      match entries.lookup part with
      | some (.directory inner) => nodeIn way inner
      | some (.file content) => if way.isEmpty then some (.file content) else none
      | none => none

def node? (tree : FileTree α) (place : List String) : Option (FileNode α) :=
  (nodeIn place tree.entries).or (if Path.isStanding place then some (.directory []) else none)

def replace (part : String) (node : FileNode α) :
    List (String × FileNode α) → List (String × FileNode α)
  | [] => [(part, node)]
  | (other, old) :: rest =>
      if other = part then (part, node) :: rest else (other, old) :: replace part node rest

/-- Entries with something else at the end of a way, and directories on the way. -/
def putIn (node : FileNode α) :
    List String → List (String × FileNode α) → List (String × FileNode α)
  | [], entries => entries
  | [part], entries => replace part node entries
  | part :: way, entries =>
      match entries.lookup part with
      | some (.directory inner) => replace part (.directory (putIn node way inner)) entries
      | _ => replace part (.directory (putIn node way [])) entries

def put (tree : FileTree α) (place : List String) (node : FileNode α) : FileTree α :=
  ⟨putIn node place tree.entries⟩

def follow (tree : FileTree α) : List String → List String → Except PathFault (List String)
  | place, [] => .ok place
  | place, part :: rest =>
      match tree.node? place with
      | none => .error .absent
      | some (.file _) => .error .notDirectory
      | some (.directory _) =>
          if part = "." then tree.follow place rest
          else if part = Path.back then tree.follow (Path.up place) rest
          else if Path.partLimit < part.utf8ByteSize then .error .tooLong
          else tree.follow (place ++ [part]) rest

def place (tree : FileTree α) (path : String) : Except PathFault (List String) :=
  if path = "" then .error .absent
  else if Path.lengthLimit ≤ path.utf8ByteSize then .error .tooLong
  else tree.follow [] (Path.parts path)

def find (tree : FileTree α) (path : String) : Except PathFault (FileNode α) := do
  match tree.node? (← tree.place path) with
  | some node => return node
  | none => throw .absent

def isFile (tree : FileTree α) (path : String) : Bool :=
  match tree.find path with
  | .ok (.file _) => true
  | _ => false

def hasDirectory (tree : FileTree α) (place : List String) : Bool :=
  match tree.node? place with
  | some (.directory _) => true
  | _ => false

/-- The tree with the directories that parts lead through from a place.  A file on the way is in
place of a directory, but if directories before it had to be made, it is found only when its
own turn comes. -/
def makeWay (tree : FileTree α) (made : Bool) (place : List String) :
    List String → Except PathFault (FileTree α)
  | [] => .ok tree
  | part :: rest =>
      if part = "." then tree.makeWay made place rest
      else if part = Path.back then tree.makeWay made (Path.up place) rest
      else if Path.partLimit < part.utf8ByteSize then .error .tooLong
      else
        match tree.node? (place ++ [part]) with
        | some (.directory _) => tree.makeWay made (place ++ [part]) rest
        | some (.file _) => .error (if made || rest.isEmpty then .present else .notDirectory)
        | none => (tree.put (place ++ [part]) (.directory [])).makeWay true (place ++ [part]) rest

/-- The tree with a directory and those it is in, as far as they are missing. -/
def makeDirectories (tree : FileTree α) (path : String) : Except PathFault (FileTree α) :=
  if Path.lengthLimit ≤ path.utf8ByteSize then .error .tooLong
  else tree.makeWay false [] (Path.parts (.ofList (Path.trimEnd path.toList)))

/-- The tree with a file at the end of a path, unless there is no such directory or the path
leads to a directory. -/
def write (tree : FileTree α) (path : String) (content : α) : FileTree α :=
  match tree.place path with
  | .ok place => if tree.hasDirectory place then tree else tree.put place (.file content)
  | .error _ => tree

end FileTree

end ActivityLedger

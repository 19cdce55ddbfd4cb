import ActivityLedger.Files.Address
import ActivityLedger.Files.Heading
import ActivityLedger.Files.Tree
import ActivityLedger.Relational.Store

/-!
# Opening a database

A database is in memory or in a file.  The path is checked before it is opened: there
has to be a file, unless it may be created, and it has to be empty or start like a
database.  An address is checked as if it were the name of a file, and only then
taken for what it stands for.
-/

namespace ActivityLedger

open Relational (Database)

inductive FileContent where
  | bytes (bytes : List UInt8)
  | database (database : Database)

abbrev Files := FileTree FileContent

namespace Files

def notFound (path : String) : Error :=
  .database ("Database file not found at '" ++ path ++
    "'. Please run 'tracking init' first or check the configured database path.")

def notDatabase (path : String) : Error :=
  .database ("Database file at '" ++ path ++
    "' is corrupted or not a valid SQLite database. " ++
    "Please delete it and run 'tracking init' to reinitialize.")

def notReadable (path : String) (fault : PathFault) : Error :=
  .database ("Cannot read database file at '" ++ path ++ "': " ++ fault.message ++
    ". The file may be corrupted or inaccessible.")

def noDirectory (path : String) (fault : PathFault) : Error :=
  .database ("Failed to create database directory " ++ path ++ ": " ++ fault.message)

def noConnection (reason : String) : Error :=
  .database ("Failed to get connection: Failed to connect to database: `" ++ reason ++ "`")

def notOpened (path : String) (fault : OpenFault) : Error :=
  noConnection ("Unable to open connection to local database " ++ path ++ s!": {fault.code}")

def notHealthy (fault : HealthFault) : Error :=
  let doing :=
    if fault = .readOnly then "Database is read-only or lacks write permissions"
    else "Database write test failed"
  .database (doing ++ ": SQLite failure: `" ++ fault.message ++ "`")

/-- The check of a file before it is opened, and the tree with the directories that it needs. -/
def check (files : Files) (path : String) (create : Bool) : Except Error Files :=
  match files.find path with
  | .ok (.directory _) => .error (notReadable path .isDirectory)
  | .ok (.file (.database _)) => .ok files
  | .ok (.file (.bytes bytes)) =>
      if bytes = [] ∨ bytes.take Heading.start.length = Heading.start then .ok files
      else .error (notDatabase path)
  | .error _ =>
      if create then
        match Path.parent? path with
        | none => .ok files
        | some parent =>
            match files.makeDirectories parent with
            | .ok next => .ok next
            | .error fault => .error (noDirectory parent fault)
      else .error (notFound path)

/-- The beginnings of the address of another machine in place of a path. -/
def isRemote (path : String) : Bool :=
  path.startsWith "libsql:" || path.startsWith "http:" || path.startsWith "https:"

/-- How many bytes the path of the current directory is taken to have. -/
def workingLength : Nat := 15

def wholeLimit : Nat := 504

def wholeLength (place : List String) : Nat :=
  match place with
  | first :: rest =>
      if first = Path.root then lengthOf rest else workingLength + lengthOf place
  | [] => workingLength
where
  /-- The number of bytes in parts with a slash before each. -/
  lengthOf (parts : List String) : Nat :=
    parts.foldl (fun sum part => sum + 1 + part.utf8ByteSize) 0

/-- The place that parts lead to from a place, dots being worked out without looking at what is
missing. -/
def resolveFrom (files : Files) : List String → List String → Option (List String)
  | place, [] => if wholeLength place ≤ wholeLimit then some place else none
  | place, part :: rest =>
      if part = "." then files.resolveFrom place rest
      else if part = Path.back then files.resolveFrom (Path.up place) rest
      else if Path.partLimit < part.utf8ByteSize then none
      else
        match files.node? place with
        | some (.file _) => none
        | _ => files.resolveFrom (place ++ [part]) rest

def resolve (files : Files) (name : String) : Option (List String) :=
  files.resolveFrom [] (Path.parts name)

/-- The place of a file beside another one, with a longer name. -/
def beside (place : List String) (ending : String) : List String :=
  place.dropLast ++ [place.getLast?.getD "" ++ ending]

def journalEnding : String := "-journal"

def logEnding : String := "-wal"

def sharedEnding : String := "-shm"

/-- What is in the place of the files beside a database does not keep it from being used.  A file
without content is taken for a new one. -/
def checkBeside (files : Files) (place : List String) (access : Access) (isNew : Bool) :
    Except HealthFault Unit :=
  let journal := files.hasDirectory (beside place journalEnding)
  let log := files.hasDirectory (beside place logEnding)
  if isNew then
    if log then .error .noAccess
    else if journal && access != .readOnly then .error .cannotOpen
    else .ok ()
  else if journal then .error .noAccess
  else if log then .error .cannotOpen
  else .ok ()

/-- A file can be changed: it is not opened for reading alone, and the files beside it can be
made. -/
def checkChange (files : Files) (place : List String) (access : Access) (isFixed usesLog : Bool) :
    Except HealthFault Unit :=
  if isFixed || access == .readOnly then .error .readOnly
  else if usesLog && files.hasDirectory (beside place sharedEnding) then .error .readOnly
  else if Path.partLimit < (place.getLast?.getD "" ++ journalEnding).utf8ByteSize then
    .error .cannotOpen
  else .ok ()

def databaseIn (files : Files) (place : List String) (access : Access) (isFixed : Bool)
    (content : FileContent) : Except HealthFault Database := do
  let isNew :=
    match content with
    | .bytes bytes => Heading.isEmpty bytes
    | .database _ => false
  unless isFixed do files.checkBeside place access isNew
  match content with
  | .database database =>
      files.checkChange place access isFixed false
      return database
  | .bytes bytes =>
      let heading := bytes.toArray
      let logged := Heading.usesLog heading || (files.node? (beside place logEnding)).isSome
      unless isNew do Heading.checkReadable heading
      files.checkChange place access isFixed (logged && !isNew)
      unless isNew do Heading.checkWritable heading
      return Database.blank

/-- The database of a connection, and the tree in which its file exists. -/
def connectTo (files : Files) (path name : String) (access : Access) (isFixed : Bool) :
    Except Error Database × Files :=
  match files.resolve name with
  | none => (.error (notOpened path .cannotOpen), files)
  | some place =>
      let opened (files : Files) (content : FileContent) : Except Error Database × Files :=
        ((files.databaseIn place access isFixed content).mapError notHealthy, files)
      match files.node? place with
      | some (.file content) => opened files content
      | some (.directory _) =>
          let fault := if access = .readOnly then OpenFault.unreadable else .cannotOpen
          (.error (notOpened path fault), files)
      | none =>
          if access = .create ∧ files.hasDirectory place.dropLast then
            opened (files.put place (.file (.bytes []))) (.bytes [])
          else (.error (notOpened path .cannotOpen), files)

def connect (files : Files) (path : String) : Except Error Database × Files :=
  if isRemote path then
    (.error (noConnection ("Unable to open local database " ++ path ++ " with Database::open()")),
      files)
  else
    match Connection.ofPath path with
    | .error fault => (.error (notOpened path fault), files)
    | .ok (.transient access) =>
        if access = .readOnly then (.error (notHealthy .readOnly), files)
        else (.ok Database.blank, files)
    | .ok (.file name access isFixed) => files.connectTo path name access isFixed

def fileName? (path : String) : Option String :=
  match Connection.ofPath path with
  | .ok (.file name _ _) => if isRemote path then none else some name
  | _ => none

def save (files : Files) (path : String) (database : Database) : Files :=
  match (fileName? path).bind files.resolve with
  | some place => files.put place (.file (.database database))
  | none => files

/-- The files with a database at its location, which keeps it only where that is a file. -/
def saveAt (files : Files) (location : Location) (database : Database) : Files :=
  match location with
  | .file path => files.save path database
  | .memory | .remote .. => files

/-- Opens the database in a file and brings its tables up to date. -/
def openFile (files : Files) (path : String) (create : Bool) : Except Error Database × Files :=
  match files.check path create with
  | .error error => (.error error, files)
  | .ok files =>
      match files.connect path with
      | (.error error, files) => (.error error, files)
      | (.ok database, files) =>
          let (result, next) := database.migrate
          (result.map fun _ => next, files.save path next)

def openLocation (files : Files) (location : Location) (create : Bool) :
    Except Error Database × Files :=
  match location with
  | .memory => (.ok Database.fresh, files)
  | .file path => files.openFile path create
  | .remote address _ => (.error (noConnection ("no network for " ++ address)), files)

end Files

end ActivityLedger

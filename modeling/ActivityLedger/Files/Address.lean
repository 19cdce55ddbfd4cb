import ActivityLedger.Settings.Location
import ActivityLedger.Text.Order

/-!
# Addresses of database files

The path of a database is the name of its file, or an address that starts with a
fixed word: a name in which bytes may be written by their digits, and after a
question mark options for the access to the file.
-/

namespace ActivityLedger

inductive Access where
  | readOnly
  | readWrite
  | create
deriving DecidableEq

/-- What a path of a database stands for. -/
inductive Connection where
  /-- A database in no file, to which nothing can be written if it is opened for reading. -/
  | transient (access : Access)
  /-- A database in a file, which may be taken as one that nobody changes. -/
  | file (name : String) (access : Access) (isFixed : Bool)
deriving DecidableEq

inductive OpenFault where
  | malformed
  | notAllowed
  | unreadable
  | cannotOpen
deriving DecidableEq

def OpenFault.code : OpenFault → Nat
  | .malformed => 1
  | .notAllowed => 3
  | .unreadable => 10
  | .cannotOpen => 14

namespace Address

def digit? (byte : UInt8) : Option UInt8 :=
  if 48 ≤ byte ∧ byte ≤ 57 then some (byte - 48)
  else if 97 ≤ byte ∧ byte ≤ 102 then some (byte - 87)
  else if 65 ≤ byte ∧ byte ≤ 70 then some (byte - 55)
  else none

def byte? (high low : UInt8) : Option UInt8 := do
  return (← digit? high) * 16 + (← digit? low)

/-- Bytes with those that are written by their digits, up to a zero among these. -/
def decode : List UInt8 → List UInt8
  | 37 :: high :: low :: rest =>
      match byte? high low with
      | some 0 => []
      | some byte => byte :: decode rest
      | none => 37 :: decode (high :: low :: rest)
  | byte :: rest => byte :: decode rest
  | [] => []

/-- The text of bytes, each of which stands for itself where they are no text. -/
def textOf (bytes : List UInt8) : String :=
  match String.fromUTF8? ⟨bytes.toArray⟩ with
  | some text => text
  | none => .ofList (bytes.map fun byte => Char.ofNat byte.toNat)

/-- What precedes a byte, and what follows it if it is there. -/
def cut (mark : UInt8) (bytes : List UInt8) : List UInt8 × Option (List UInt8) :=
  (bytes.takeWhile (· != mark), (bytes.dropWhile (· != mark)).tail?)

def option? (bytes : List UInt8) : Option (String × String) :=
  let (name, value) := cut 61 bytes
  let name := textOf (decode name)
  if name = "" then none else some (name, textOf (decode (value.getD [])))

def options : Nat → List UInt8 → List (String × String)
  | 0, _ => []
  | steps + 1, bytes =>
      let (first, rest) := cut 38 bytes
      (option? first).toList ++
        match rest with
        | some rest => options steps rest
        | none => []

/-- What an address asks for: the access to a file, none standing for memory, whether nobody
changes the file, and the driver. -/
structure Request where
  access : Option Access
  isFixed : Option Bool
  driver : String

def Request.plain : Request where
  access := some .create
  isFixed := none
  driver := "unix"

/-- One way of access goes no further than another. -/
def Access.within : Access → Access → Bool
  | .readOnly, _ => true
  | .readWrite, limit => limit != .readOnly
  | .create, limit => limit == .create

def Request.narrow (request : Request) (access : Access) : Except OpenFault Request :=
  match request.access with
  | none => .ok { request with access := some access }
  | some limit =>
      if Access.within access limit then .ok { request with access := some access }
      else .error .notAllowed

def saysYes (value : String) : Bool :=
  match value.toList.takeWhile Char.isDigit with
  | [] =>
      let word := value.map Char.toLower
      word == "on" || word == "yes" || word == "true"
  | run => (run.foldl (fun sum c => sum * 10 + (c.toNat - 48)) 0) % 256 != 0

def Request.with (request : Request) (name value : String) : Except OpenFault Request :=
  match name with
  | "mode" =>
      match value with
      | "ro" => request.narrow .readOnly
      | "rw" => request.narrow .readWrite
      | "rwc" => request.narrow .create
      | "memory" => .ok { request with access := none }
      | _ => .error .malformed
  | "cache" => if value = "shared" ∨ value = "private" then .ok request else .error .malformed
  | "vfs" => .ok { request with driver := value }
  | "immutable" => .ok { request with isFixed := request.isFixed.or (some (saysYes value)) }
  | _ => .ok request

def fileDrivers : List String := ["unix", "unix-none", "unix-dotfile", "unix-excl"]

def memoryDriver : String := "memdb"

def start : String := "file:"

/-- What follows the name of a machine, which can only be this one. -/
def afterMachine : List UInt8 → Except OpenFault (List UInt8)
  | 47 :: 47 :: rest =>
      let machine := rest.takeWhile (· != 47)
      if machine = [] ∨ machine = Text.bytes "localhost" then .ok (rest.dropWhile (· != 47))
      else .error .malformed
  | bytes => .ok bytes

/-- The connection to a file with a name, which may stand for none. -/
def connection (name : String) (access : Access) (isFixed : Bool) : Connection :=
  if name = "" ∨ name = Location.memoryWord then .transient access
  else .file name access isFixed

/-- The connection that an address asks for, after the word that it starts with. -/
def readAddress (bytes : List UInt8) : Except OpenFault Connection := do
  let (address, _) := cut 35 (← afterMachine bytes)
  let (name, query) := cut 63 address
  let request ← (options address.length (query.getD [])).foldlM
    (fun request option => request.with option.1 option.2) Request.plain
  match request.access with
  | none =>
      if request.driver ∈ memoryDriver :: fileDrivers then return .transient .create
      else throw .malformed
  | some access =>
      let connection := connection (textOf (decode name)) access (request.isFixed.getD false)
      if request.driver ∈ fileDrivers then return connection
      else if request.driver ≠ memoryDriver then throw .malformed
      else
        match connection with
        | .file _ access isFixed => return .transient (if isFixed then .readOnly else access)
        | connection => return connection

end Address

def Connection.ofPath (path : String) : Except OpenFault Connection :=
  if path.startsWith Address.start then
    Address.readAddress ((Text.bytes path).drop Address.start.utf8ByteSize)
  else .ok (Address.connection path .create false)

end ActivityLedger

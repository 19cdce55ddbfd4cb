import ActivityLedger.Text.Order

/-!
# Headings of database files

A file that holds no tables yet is empty, or one page of a fixed form: a heading of
a hundred bytes that states sizes and limits, and a list of tables without entries.
Files of other programs with tables of their own count as damaged.
-/

namespace ActivityLedger

/-- Why a database cannot be used after its file was opened. -/
inductive HealthFault where
  | notDatabase
  | damaged
  | unsupported
  | readOnly
  | noAccess
  | cannotOpen
deriving DecidableEq

def HealthFault.message : HealthFault → String
  | .notDatabase => "file is not a database"
  | .damaged => "database disk image is malformed"
  | .unsupported => "unsupported file format"
  | .readOnly => "attempt to write a readonly database"
  | .noAccess => "disk I/O error"
  | .cannotOpen => "unable to open database file"

namespace Heading

def start : List UInt8 := (Text.bytes "SQLite format 3") ++ [0]

def isEmpty (content : List UInt8) : Bool := content.length ≤ 1

/-- The number in a byte, which is zero behind the end. -/
def byteAt (content : Array UInt8) (index : Nat) : Nat := (content[index]?.getD 0).toNat

def pairAt (content : Array UInt8) (index : Nat) : Nat :=
  byteAt content index * 256 + byteAt content (index + 1)

def wordAt (content : Array UInt8) (index : Nat) : Nat :=
  pairAt content index * 65536 + pairAt content (index + 2)

def pageSizes : List Nat := [512, 1024, 2048, 4096, 8192, 16384, 32768, 65536]

def pageSize (content : Array UInt8) : Nat :=
  byteAt content 16 * 256 + byteAt content 17 * 65536

/-- How many bytes of a page are in use. -/
def usableSize (content : Array UInt8) : Nat := pageSize content - byteAt content 20

def filePages (content : Array UInt8) : Nat :=
  (content.size + pageSize content - 1) / pageSize content

/-- How many pages there are by the heading, if it is up to date, and else in the file. -/
def pageCount (content : Array UInt8) : Nat :=
  if wordAt content 28 = 0 ∨ wordAt content 24 ≠ wordAt content 92 then filePages content
  else wordAt content 28

/-- The file is written by way of a log. -/
def usesLog (content : Array UInt8) : Bool := byteAt content 19 == 2

/-- The fixed limits for entries are as they have to be. -/
def hasLimits (content : Array UInt8) : Bool :=
  byteAt content 21 == 64 && byteAt content 22 == 32 && byteAt content 23 == 32

/-- How many bytes are free on the first page, by its own account. -/
def freeBytes (content : Array UInt8) : Nat :=
  byteAt content 107 + if pairAt content 105 = 0 then 65536 else pairAt content 105

def hasEmptyList (content : Array UInt8) : Bool :=
  byteAt content 100 == 13 && pairAt content 103 == 0

/-- The first page has room for entries, and no pages are kept for later use. -/
def hasRoom (content : Array UInt8) : Bool :=
  pairAt content 101 == 0 && 108 ≤ freeBytes content && freeBytes content ≤ usableSize content &&
    wordAt content 36 == 0 && wordAt content 52 ≤ pageCount content

def checkReadable (content : Array UInt8) : Except HealthFault Unit :=
  if content.toList.take start.length ≠ start then .error .notDatabase
  else if 2 < byteAt content 19 then .error .notDatabase
  else if !hasLimits content then .error .notDatabase
  else if pageSize content ∉ pageSizes then .error .notDatabase
  else if filePages content < pageCount content then .error .damaged
  else if usableSize content < 480 then .error .notDatabase
  else if 4 < byteAt content 47 then .error .unsupported
  else if !hasEmptyList content then .error .damaged
  else .ok ()

def checkWritable (content : Array UInt8) : Except HealthFault Unit :=
  if 2 < byteAt content 18 then .error .readOnly
  else if !hasRoom content then .error .damaged
  else .ok ()

end Heading

end ActivityLedger

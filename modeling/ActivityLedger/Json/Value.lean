/-!
# JSON values

A value as it is written.  Numbers keep the way they are written, because an
integer with a fraction or an exponent does not count as one.  Members of an
object stay in order, and a name may occur twice.
-/

namespace ActivityLedger.Json

inductive Number where
  | integer (n : Int)
  /-- Digits times a power of ten; also a zero with a minus. -/
  | decimal (negative : Bool) (digits : Nat) (exponent : Int)
deriving DecidableEq

inductive Value where
  | null
  | bool (b : Bool)
  | number (n : Number)
  | text (s : String)
  | list (items : List Value)
  | object (members : List (String × Value))
  /-- A text, or an object with a name, that escapes half a character. -/
  | broken

namespace Value

def int? : Value → Option Int
  | .number (.integer n) => some n
  | _ => none

def text? : Value → Option String
  | .text s => some s
  | _ => none

def bool? : Value → Option Bool
  | .bool b => some b
  | _ => none

def list? : Value → Option (List Value)
  | .list items => some items
  | _ => none

/-- The first member of an object that has a given name. -/
def member? (name : String) : Value → Option Value
  | .object members => members.lookup name
  | _ => none

end Value

end ActivityLedger.Json

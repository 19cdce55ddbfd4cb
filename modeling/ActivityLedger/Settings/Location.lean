import ActivityLedger.Error
import ActivityLedger.Settings.Environment

/-!
# Where a database is

A location is written as a text: a fixed word for a database in memory, an address
for one on another machine, and anything else for a file.
-/

namespace ActivityLedger

inductive Location where
  | memory
  | file (path : String)
  | remote (address token : String)
deriving DecidableEq

namespace Location

def memoryWord : String := ":memory:"

/-- The location that a text stands for.  The token for another machine is in a variable. -/
def ofText (environment : Environment) (text tokenVariable : String) : Except Error Location :=
  if text = memoryWord then .ok .memory
  else if text.startsWith "libsql://" then
    match environment.get? tokenVariable with
    | some token => .ok (.remote text token)
    | none => .error (.other (tokenVariable ++ " not found"))
  else .ok (.file text)

end Location

end ActivityLedger

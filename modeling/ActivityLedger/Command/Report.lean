import ActivityLedger.Error
import ActivityLedger.Text.Quoted

/-!
# Reports

What a run of the program leaves for the one who started it: a code, what is
printed, and the error that ended it.
-/

namespace ActivityLedger

namespace Error

def title : Error → String
  | .request _ => "InvalidRequest"
  | .argument _ => "InvalidArgument"
  | .lookup _ => "Lookup"
  | .invariant _ => "InvariantViolation"
  | .storage .. => "Storage"
  | .database _ => "Database"
  | .migration _ => "Migration"
  | .configuration => "Config"
  | .system _ => "Io"
  | .serialization => "Serialization"
  | .other _ => "Other"

def reported (error : Error) (text : String) : String :=
  error.title ++ "(" ++ Text.quoted text ++ ")"

/-- The error as a report shows it, where that is fixed. -/
def report? (error : Error) : Option String :=
  match error with
  | .request fault => some (error.reported fault.message)
  | .argument fault => some (error.reported fault.message)
  | .lookup fault => some (error.reported fault.message)
  | .invariant fault => some (error.reported fault.message)
  | .storage key reason applied =>
      some (error.title ++ " \x7b key: " ++ Text.quoted key ++ ", message: " ++
        Text.quoted reason ++ ", applied: [" ++
        ", ".intercalate (applied.map Text.quoted) ++ "] \x7d")
  | .database reason | .migration reason | .other reason => some (error.reported reason)
  | .configuration | .system _ | .serialization => none

end Error

namespace Command

structure Report where
  code : Nat
  output : String
  error : Option Error
deriving DecidableEq

namespace Report

def done (output : String) : Report := ⟨0, output, none⟩

def failed (error : Error) : Report := ⟨1, "", some error⟩

def refused : Report := ⟨2, "", none⟩

def ofResult : Except Error String → Report
  | .ok output => done output
  | .error error => failed error

end Report

end Command

end ActivityLedger

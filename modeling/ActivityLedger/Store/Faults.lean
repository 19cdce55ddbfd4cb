import ActivityLedger.Directory
import ActivityLedger.Store.Store

/-!
# Injected faults

A store or a directory with faults answers some calls with a given error before
they reach it.  The first fault that fits a call decides.
-/

namespace ActivityLedger

inductive Call where
  | ensure
  | increment
  | get
  | range
  | postAuthor
  | commentAuthor
deriving DecidableEq

/-- The calls for an entity, or for every entity, that fail with an error. -/
structure Fault where
  call : Call
  /-- The id of the entity, or an asterisk for every entity. -/
  entityId : String
  error : Error
deriving DecidableEq

def Fault.fits (fault : Fault) (call : Call) (entityId : String) : Bool :=
  fault.call = call && (fault.entityId = entityId || fault.entityId = "*")

/-- The answer of a call, unless a fault fits it. -/
def Fault.guard {α : Type} (faults : List Fault) (call : Call) (entityId : String)
    (answer : Except Error α) : Except Error α :=
  match faults.find? fun fault => fault.fits call entityId with
  | some fault => .error fault.error
  | none => answer

def Fault.guardState {σ α : Type} (faults : List Fault) (call : Call) (entityId : String)
    (state : σ) (answer : Except Error α × σ) : Except Error α × σ :=
  match faults.find? fun fault => fault.fits call entityId with
  | some fault => (.error fault.error, state)
  | none => answer

def Store.withFaults {σ : Type} (store : Store σ) (faults : List Fault) : Store σ where
  ensure key template state :=
    Fault.guardState faults .ensure key.entityId state (store.ensure key template state)
  increment key updates state :=
    Fault.guardState faults .increment key.entityId state (store.increment key updates state)
  content? key state := Fault.guard faults .get key.entityId (store.content? key state)
  user? key state := Fault.guard faults .get key.entityId (store.user? key state)
  contentRange kind contentId first last state :=
    Fault.guard faults .range contentId (store.contentRange kind contentId first last state)
  userRange userId first last state :=
    Fault.guard faults .range userId (store.userRange userId first last state)

def Directory.withFaults (directory : Directory) (faults : List Fault) : Directory where
  postAuthor post := Fault.guard faults .postAuthor post (directory.postAuthor post)
  commentAuthor comment :=
    Fault.guard faults .commentAuthor comment (directory.commentAuthor comment)

end ActivityLedger

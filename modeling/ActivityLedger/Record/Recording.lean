import ActivityLedger.Attribution.Classification
import ActivityLedger.Directory
import ActivityLedger.Record.Outcome
import ActivityLedger.Store.Store

/-!
# Recording

An event is recorded in two phases.  The first needs no store: the event is
checked, its authors are looked up, it is classified, and the key of every tracker
is built.  The second sets up all trackers that are missing and then applies the
updates tracker by tracker.  An error of the store names the tracker it arose at
and the trackers whose updates were committed before.
-/

namespace ActivityLedger

/-- The share of one tracker in an event. -/
structure Share where
  key : Key
  template : Template
  updates : List Update
deriving DecidableEq

/-- An event that passed every check. -/
inductive Prepared where
  /-- It is of a sort that is not counted. -/
  | uncounted (attributions : List Attribution)
  | counted (plan : Plan) (shares : List Share)
deriving DecidableEq

namespace Record

def parentOwner (directory : Directory) (event : Event) : Except Error (Option String) :=
  match event.operation, event.parentContentId with
  | .createComment, some post | .updateComment, some post => do
      match ← directory.postAuthor post with
      | some author => return some author
      | none => throw (.lookup (.postAuthorNotFound post))
  | _, _ => return none

def contentOwner (directory : Directory) (event : Event) : Except Error String :=
  match event.operation with
  | .createContent | .createComment => return event.actor.userId?.getD ""
  | .updateContent =>
      if event.contentOwnerId = "" then throw (.lookup (.postOwnerNotGiven event.contentId))
      else return event.contentOwnerId
  | .updateComment => do
      match ← directory.commentAuthor event.contentId with
      | some author => return author
      | none => throw (.lookup (.commentAuthorNotFound event.contentId))

def authorship (directory : Directory) (event : Event) : Except Error Authorship := do
  let parentOwner ← parentOwner directory event
  let contentOwner ← contentOwner directory event
  return { contentOwner := contentOwner, parentOwner := parentOwner }

def share (plan : Plan) (date : Date) (template : Template) : Except Error Share := do
  let key ← Key.build template.kind template.entityId date
  return { key := key, template := template, updates := plan.updatesFor template.target }

/-- All that can be done with an event before the store is asked. -/
def prepare (directory : Directory) (event : Event) (date : Date) : Except Error Prepared := do
  event.validate
  let authors ← authorship directory event
  let plan ← Plan.ofEvent event authors
  if plan.isUnsupported then return .uncounted plan.attributions
  let shares ← plan.trackers.mapM (share plan date)
  return .counted plan shares

/-- An error of a store with the tracker it arose at and the trackers committed before. -/
def located (key : Key) (applied : List String) : Error → Error
  | .storage _ reason _ => .storage key.id reason applied
  | .database reason => .storage key.id reason applied
  | error => error

variable {σ : Type}

/-- Sets up the trackers that are missing, one after the other. -/
def ensureAll (store : Store σ) : List Share → σ → Except Error Unit × σ
  | [], state => (.ok (), state)
  | share :: rest, state =>
      match store.ensure share.key share.template state with
      | (.ok _, next) => ensureAll store rest next
      | (.error error, next) => (.error (located share.key [] error), next)

/-- Applies the updates of one tracker after the other, leaving out those without any, and
gives the ids of the trackers committed in all. -/
def incrementAll (store : Store σ) (applied : List String) :
    List Share → σ → Except Error (List String) × σ
  | [], state => (.ok applied, state)
  | share :: rest, state =>
      if share.updates.isEmpty then incrementAll store applied rest state
      else
        match store.increment share.key share.updates state with
        | (.ok (), next) => incrementAll store (applied ++ [share.key.id]) rest next
        | (.error error, next) => (.error (located share.key applied error), next)

/-- The second phase, in which the store is asked. -/
def commit (store : Store σ) (plan : Plan) (shares : List Share) (state : σ) :
    Except Error Outcome × σ :=
  match ensureAll store shares state with
  | (.error error, next) => (.error error, next)
  | (.ok (), next) =>
      match incrementAll store [] shares next with
      | (.error error, last) => (.error error, last)
      | (.ok applied, last) =>
          (.ok {
            keys := shares.map fun share => share.key.id
            applied := applied
            updates := plan.updates
            attributions := plan.attributions
            rejected := false }, last)

end Record

def record {σ : Type} (store : Store σ) (directory : Directory) (event : Event) (date : Date)
    (state : σ) : Except Error Outcome × σ :=
  match Record.prepare directory event date with
  | .error error => (.error error, state)
  | .ok (.uncounted attributions) => (.ok (.uncounted attributions), state)
  | .ok (.counted plan shares) => Record.commit store plan shares state

end ActivityLedger

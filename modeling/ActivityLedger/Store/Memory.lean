import ActivityLedger.Store.Shelf
import ActivityLedger.Store.Store

/-!
# The store in memory

Three shelves of trackers, one for each kind.  The amounts of a batch are added to
a copy of the tracker, which takes its place when all of them fit.
-/

namespace ActivityLedger

structure Memory where
  users : Shelf UserTracker
  posts : Shelf ContentTracker
  comments : Shelf ContentTracker

namespace Memory

def empty : Memory := ⟨.empty, .empty, .empty⟩

def isEmpty (memory : Memory) : Bool :=
  memory.users.size = 0 && memory.posts.size = 0 && memory.comments.size = 0

def contents (memory : Memory) : ContentKind → Shelf ContentTracker
  | .post => memory.posts
  | .comment => memory.comments

def withContents (memory : Memory) (kind : ContentKind) (shelf : Shelf ContentTracker) : Memory :=
  match kind with
  | .post => { memory with posts := shelf }
  | .comment => { memory with comments := shelf }

def ensureUser (memory : Memory) (key : Key) (userId : String) : Bool × Memory :=
  match memory.users.find? key.id with
  | some _ => (false, memory)
  | none =>
      (true, { memory with
        users := memory.users.insert key.id
          (UserTracker.zero key.id userId key.periodStart key.daysInMonth) })

def ensureContent (memory : Memory) (key : Key) (kind : ContentKind) (authorId : String) :
    Bool × Memory :=
  match (memory.contents kind).find? key.id with
  | some _ => (false, memory)
  | none =>
      (true, memory.withContents kind ((memory.contents kind).insert key.id {
        id := key.id
        kind := kind
        contentId := key.entityId
        ownerId := authorId
        day := key.periodStart
        counters := ContentCounters.zero kind }))

def ensure (key : Key) (template : Template) (memory : Memory) : Except Error Bool × Memory :=
  match key.checkTemplate template with
  | .error error => (.error error, memory)
  | .ok () =>
      match template with
      | .user userId =>
          let (created, memory) := memory.ensureUser key userId
          (.ok created, memory)
      | .post _ authorId =>
          let (created, memory) := memory.ensureContent key .post authorId
          (.ok created, memory)
      | .comment _ authorId =>
          let (created, memory) := memory.ensureContent key .comment authorId
          (.ok created, memory)

/-- Adds every amount to a day and to its month, counter by counter. -/
def addToBoth (day month : Counters UserCounter) :
    List (UserCounter × Amount) → Except Error (Counters UserCounter × Counters UserCounter)
  | [] => .ok (day, month)
  | (counter, delta) :: rest =>
      match day.add counter delta with
      | .error error => .error error
      | .ok day =>
          match month.add counter delta with
          | .error error => .error error
          | .ok month => addToBoth day month rest

def slotOf (day : Small) : Option Nat := if day.toNat = 0 then none else some (day.toNat - 1)

def incrementUser (memory : Memory) (key : Key) (deltas : Deltas UserCounter) :
    Except Error Memory :=
  match memory.users.find? key.id with
  | none => .error ((StoreFault.notPreallocated .user).error key)
  | some tracker =>
      match (slotOf key.dayOfMonth).bind fun slot => tracker.days[slot]?.map fun day => (slot, day)
      with
      | none => .error ((StoreFault.noSlot key.dayOfMonth).error key)
      | some (slot, day) =>
          match addToBoth day tracker.monthly deltas.toList with
          | .error cause => .error ((StoreFault.overflow cause).error key)
          | .ok (day, month) =>
              .ok { memory with
                users := memory.users.insert key.id
                  { tracker with monthly := month, days := tracker.days.set slot day } }

/-- Adds amounts to the tracker of a post or a comment.  Counters of another kind are left as they
are. -/
def incrementContent (memory : Memory) (key : Key) (kind : ContentKind)
    (deltas : Deltas kind.tracker.Counted) : Except Error Memory :=
  match (memory.contents kind).find? key.id with
  | none => .error ((StoreFault.notPreallocated kind.tracker).error key)
  | some tracker =>
      match tracker.counters.table? kind with
      | none => .ok memory
      | some counters =>
          match counters.addAll deltas.toList with
          | .error cause => .error ((StoreFault.overflow cause).error key)
          | .ok counters =>
              .ok (memory.withContents kind ((memory.contents kind).insert key.id
                { tracker with counters := .of kind counters }))

def applyBatch (memory : Memory) (key : Key) : Batch → Except Error Memory
  | .user deltas => memory.incrementUser key deltas
  | .post deltas => memory.incrementContent key .post deltas
  | .comment deltas => memory.incrementContent key .comment deltas

/-- Applies all updates to the tracker at a key, or none. -/
def increment (key : Key) (updates : List Update) (memory : Memory) : Except Error Unit × Memory :=
  match (Batch.ofUpdates key updates).bind (memory.applyBatch key) with
  | .ok next => (.ok (), next)
  | .error error => (.error error, memory)

def content? (key : Key) (memory : Memory) : Except Error (Option ContentTracker) :=
  key.contentKind.map fun kind => (memory.contents kind).find? key.id

def user? (key : Key) (memory : Memory) : Except Error (Option UserTracker) :=
  key.checkUser.map fun _ => memory.users.find? key.id

def contentRange (kind : ContentKind) (contentId : String) (first last : Key) (memory : Memory) :
    Except Error (List ContentTracker) :=
  (Key.checkRange kind.tracker contentId first last).map fun _ =>
    if reversed : Text.precedes last.id first.id then []
    else ((memory.contents kind).slice first.id last.id reversed).filter fun tracker =>
      tracker.contentId = contentId

def userRange (userId : String) (first last : Key) (memory : Memory) :
    Except Error (List UserTracker) :=
  (Key.checkRange .user userId first last).map fun _ =>
    if reversed : Text.precedes last.id first.id then []
    else (memory.users.slice first.id last.id reversed).filter fun tracker =>
      tracker.userId = userId

def store : Store Memory where
  ensure := ensure
  increment := increment
  content? := content?
  user? := user?
  contentRange := contentRange
  userRange := userRange

end Memory

end ActivityLedger

import ActivityLedger.Calendar.Reading
import ActivityLedger.Relational.Migration
import ActivityLedger.Store.Store

/-!
# The store in tables

A tracker of a post or a comment is one row; a tracker of a user is a row for the
month and a row for each day.  An increment adds all amounts to the row of the
month, if every cell leaves room, and then to the row of the day; where either is
refused nothing is changed.  An increment without amounts asks for nothing.
-/

namespace ActivityLedger.Relational

variable {κ : Type} [Vocabulary κ]

/-- The error of a statement that fails on the way to a tracker. -/
def SqlFault.atKey (fault : SqlFault) (key : Key) : Error := .storage key.id fault.shown []

def SqlFault.inReading (fault : SqlFault) : Error := .database fault.shown

def tableOf : ContentKind → TableName
  | .post => .posts
  | .comment => .comments

def contentColumn : ContentKind → String
  | .post => "post_id"
  | .comment => "comment_id"

/-! ## Setting up -/

/-- The rows with an empty one for a key, and whether there was none. -/
def insertContent (key : Key) (authorId : String) (shelf : Shelf (ContentRow κ)) :
    Bool × Shelf (ContentRow κ) :=
  match shelf.find? key.id with
  | some _ => (false, shelf)
  | none =>
      let number := nextNumber (shelf.entries.map fun entry => entry.2.number)
      (true, shelf.insert key.id ⟨number, key.entityId, authorId, key.periodStart.text, zeroCells⟩)

def nextDayNumber (days : Shelf (List DayRow)) : Amount :=
  nextNumber (days.entries.flatMap fun entry => entry.2.map DayRow.number)

/-- The empty rows of the first days of a month, numbered on from a given number. -/
def zeroDays (first : Amount) (count : Nat) : List DayRow :=
  (List.range count).map fun (index : Nat) =>
    ⟨Amount.wrap (first.val + index), .integer (Amount.wrap (index + 1)), zeroCells⟩

namespace Database

def ensureContent (database : Database) (key : Key) (kind : ContentKind) (authorId : String) :
    Except Error (Bool × Database) :=
  let table := tableOf kind
  match (database.contents kind).open? table (.noColumnNamed table (contentColumn kind)) with
  | .error fault => .error (fault.atKey key)
  | .ok shelf =>
      let (created, shelf) := insertContent key authorId shelf
      .ok (created, database.withContents kind (.rows shelf))

/-- Sets up a missing row of a user's month, with the rows of its days. -/
def ensureUser (database : Database) (key : Key) (userId : String) :
    Except Error (Bool × Database) :=
  match database.users.open? .users (.noColumnNamed .users "user_id") with
  | .error fault => .error (fault.atKey key)
  | .ok shelf =>
      match shelf.find? key.id with
      | some _ => .ok (false, database)
      | none =>
          match database.days.open? .days (.noColumnNamed .days "day") with
          | .error fault => .error (fault.atKey key)
          | .ok days =>
              let number := nextNumber (shelf.entries.map fun entry => entry.2.number)
              .ok (true, { database with
                users := .rows (shelf.insert key.id
                  ⟨number, userId, key.periodStart.text, Cell.ofSmall key.daysInMonth, zeroCells⟩)
                days := .rows (days.insert key.id
                  (zeroDays (nextDayNumber days) key.daysInMonth.toNat)) })

def ensureRows (database : Database) (key : Key) : Template → Except Error (Bool × Database)
  | .user userId => database.ensureUser key userId
  | .post _ authorId => database.ensureContent key .post authorId
  | .comment _ authorId => database.ensureContent key .comment authorId

def ensure (key : Key) (template : Template) (database : Database) :
    Except Error Bool × Database :=
  match (key.checkTemplate template).bind fun _ => database.ensureRows key template with
  | .ok (created, next) => (.ok created, next)
  | .error error => (.error error, database)

end Database

/-! ## Incrementing -/

/-- The column that an increment names first. -/
def firstColumn (deltas : List (κ × Amount)) : String :=
  (deltas.head?.map fun entry => column entry.1).getD ""

def addToContent (kind : ContentKind) (key : Key) (deltas : List (κ × Amount))
    (table : Table (ContentRow κ)) : Except Error (Table (ContentRow κ)) :=
  match table.open? (tableOf kind) (.noColumn (firstColumn deltas)) with
  | .error fault => .error (fault.atKey key)
  | .ok shelf =>
      match shelf.find? key.id with
      | none => .error ((StoreFault.notPreallocated kind.tracker).error key)
      | some row =>
          if haveRoom row.counters deltas then
            .ok (.rows (shelf.insert key.id { row with counters := addCells row.counters deltas }))
          else .error (StoreFault.overflowSomewhere.error key)

/-- The rows of a month's days with the amounts added to one of them, if it has room. -/
def addToDay? (day : Small) (deltas : List (UserCounter × Amount)) (rows : List DayRow) :
    Option (List DayRow) :=
  let day := Cell.ofSmall day
  match rows.find? fun row => row.day = day with
  | some row =>
      if haveRoom row.counters deltas then
        some (rows.map fun other =>
          if other.day = day then { other with counters := addCells other.counters deltas }
          else other)
      else none
  | none => none

namespace Database

/-- Adds amounts to the rows of a user's month and of one of its days. -/
def incrementUser (database : Database) (key : Key) (deltas : List (UserCounter × Amount)) :
    Except Error Database :=
  match database.users.open? .users (.noColumn (firstColumn deltas)) with
  | .error fault => .error (fault.atKey key)
  | .ok shelf =>
      match shelf.find? key.id with
      | none => .error ((StoreFault.notPreallocated .user).error key)
      | some row =>
          if haveRoom row.counters deltas then
            match database.days.open? .days (.noColumn (firstColumn deltas)) with
            | .error fault => .error (fault.atKey key)
            | .ok days =>
                match addToDay? key.dayOfMonth deltas ((days.find? key.id).getD []) with
                | none => .error ((StoreFault.noSlotOrOverflow key.dayOfMonth).error key)
                | some rows =>
                    .ok { database with
                      users := .rows (shelf.insert key.id
                        { row with counters := addCells row.counters deltas })
                      days := .rows (days.insert key.id rows) }
          else .error (StoreFault.overflowSomewhere.error key)

def incrementContent (database : Database) (key : Key) (kind : ContentKind)
    (deltas : List (kind.tracker.Counted × Amount)) : Except Error Database :=
  (addToContent kind key deltas (database.contents kind)).map (database.withContents kind)

def applyBatch (database : Database) (key : Key) (batch : Batch) : Except Error Database :=
  if batch.isEmpty then .ok database
  else
    match batch with
    | .user deltas => database.incrementUser key deltas.toList
    | .post deltas => database.incrementContent key .post deltas.toList
    | .comment deltas => database.incrementContent key .comment deltas.toList

/-- Applies all updates to the tracker at a key, or none. -/
def increment (key : Key) (updates : List Update) (database : Database) :
    Except Error Unit × Database :=
  match (Batch.ofUpdates key updates).bind (database.applyBatch key) with
  | .ok next => (.ok (), next)
  | .error error => (.error error, database)

end Database

/-! ## Reading -/

/-- The amounts of a row's cells, the first column having a given number in the row. -/
def readCells (first : Nat) (cells : Columns κ Cell) : Except Error (Counters κ) :=
  match (Vocabulary.all κ).find? fun counter => (cells.get counter).amount?.isNone with
  | some counter =>
      let number := first + (Vocabulary.position counter).val
      .error (.database
        (s!"Counter column {number} holds " ++ (cells.get counter).shown ++
          " instead of an integer"))
  | none => .ok (Columns.tabulate fun counter => (cells.get counter).amount?.getD Amount.zero)

def readDay (text : String) : Except Error Date :=
  let text := Cell.readText text
  match Date.ofStored text with
  | .ok date => .ok date
  | .error fault => .error (.database s!"Invalid stored date '{text}': {fault.message}")

def readContent (kind : ContentKind) (id : String) (row : ContentRow kind.tracker.Counted) :
    Except Error ContentTracker := do
  let amounts ← readCells 4 row.counters
  let day ← readDay row.day
  return {
    id := Cell.readText id
    kind := kind
    contentId := Cell.readText row.contentId
    ownerId := Cell.readText row.authorId
    day := day
    counters := .of kind amounts }

def findContent (kind : ContentKind) (id : String)
    (table : Table (ContentRow kind.tracker.Counted)) : Except Error (Option ContentTracker) :=
  match table.open? (tableOf kind) (.noColumn (contentColumn kind)) with
  | .error fault => .error fault.inReading
  | .ok shelf =>
      match shelf.find? id with
      | none => .ok none
      | some row => (readContent kind id row).map some

/-- The trackers of the rows of one post or comment, with ids from the first to the last. -/
def scanContent (kind : ContentKind) (contentId first last : String)
    (table : Table (ContentRow kind.tracker.Counted)) : Except Error (List ContentTracker) :=
  match table.open? (tableOf kind) (.noColumn (contentColumn kind)) with
  | .error fault => .error fault.inReading
  | .ok shelf =>
      ((shelf.between first last).filter fun entry => entry.2.contentId = contentId).mapM
        fun entry => readContent kind entry.1 entry.2

def readSmall (cell : Cell) : Except Error Small :=
  match cell.amount? with
  | some n => .ok (Small.lowBits n.val)
  | none => .error (.database ("A day is numbered " ++ cell.shown))

/-- The slots of a month with those of its rows filled in. -/
def fillSlots (id : String) (daysInMonth : Small) (slots : List (Counters UserCounter)) :
    List DayRow → Except Error (List (Counters UserCounter))
  | [] => .ok slots
  | row :: rest => do
      let day ← readSmall row.day
      let amounts ← readCells 1 row.counters
      if day.val ≤ slots.length then
        fillSlots id daysInMonth (slots.set (day.toNat - 1) amounts) rest
      else
        throw (.database
          s!"Tracker {id} has day slot {day.val} beyond its {daysInMonth.val} days")

/-- The tracker of a row of a user's month, with empty slots. -/
def readMonth (id : String) (row : UserRow) : Except Error UserTracker := do
  let month ← readDay row.month
  let daysInMonth ← readSmall row.daysInMonth
  let amounts ← readCells 4 row.counters
  return {
    UserTracker.zero (Cell.readText id) (Cell.readText row.userId) month daysInMonth with
    monthly := amounts }

namespace Database

def readSlots (database : Database) (tracker : UserTracker) : Except Error UserTracker := do
  match database.days.open? .days (.noColumn "day") with
  | .error fault => throw fault.inReading
  | .ok days =>
      let slots ← fillSlots tracker.id tracker.daysInMonth tracker.days
        ((days.find? tracker.id).getD [])
      return { tracker with days := slots }

def content? (key : Key) (database : Database) : Except Error (Option ContentTracker) := do
  let kind ← key.contentKind
  findContent kind key.id (database.contents kind)

def user? (key : Key) (database : Database) : Except Error (Option UserTracker) := do
  key.checkUser
  match database.users.open? .users (.noColumn "user_id") with
  | .error fault => throw fault.inReading
  | .ok shelf =>
      match shelf.find? key.id with
      | none => return none
      | some row =>
          let tracker ← readMonth key.id row
          return some (← database.readSlots tracker)

def contentRange (kind : ContentKind) (contentId : String) (first last : Key)
    (database : Database) : Except Error (List ContentTracker) := do
  Key.checkRange kind.tracker contentId first last
  scanContent kind contentId first.id last.id (database.contents kind)

def userRange (userId : String) (first last : Key) (database : Database) :
    Except Error (List UserTracker) := do
  Key.checkRange .user userId first last
  match database.users.open? .users (.noColumn "user_id") with
  | .error fault => throw fault.inReading
  | .ok shelf =>
      let rows := (shelf.between first.id last.id).filter fun entry => entry.2.userId = userId
      let trackers ← rows.mapM fun entry => readMonth entry.1 entry.2
      trackers.mapM database.readSlots

def store : Store Database where
  ensure := ensure
  increment := increment
  content? := content?
  user? := user?
  contentRange := contentRange
  userRange := userRange

end Database

end ActivityLedger.Relational

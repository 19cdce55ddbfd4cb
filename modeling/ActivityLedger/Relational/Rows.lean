import ActivityLedger.Relational.Statement
import ActivityLedger.Relational.Store

/-!
# Changing one column of a row

Each table has its columns, which are found by their names without regard to case,
and every table has the number of the row under three more names.  What a column
takes is bound by constraints: nothing is empty, keys and numbers of rows are
unique, a day belongs to a month that exists, and the numbers of days lie in their
ranges.
-/

namespace ActivityLedger.Relational

variable {κ : Type} [Vocabulary κ]

def numberNames : List String := ["rowid", "oid", "_rowid_"]

inductive ContentColumn (κ : Type) where
  | number
  | id
  | content
  | author
  | day
  | counter (counter : κ)
  /-- The time at which a row was written, which nothing reads. -/
  | time

inductive UserColumn where
  | number
  | id
  | user
  | month
  | daysInMonth
  | counter (counter : UserCounter)
  | time

inductive DayColumn where
  | number
  | tracker
  | day
  | counter (counter : UserCounter)

/-- The column with a given name, among columns with names, counters, and the number of a row. -/
def columnNamed {γ : Type} (named : List (String × γ)) (counter : κ → γ)
    (number : γ) (name : String) : Except SqlFault γ :=
  let small := Text.small name
  match named.lookup small, Vocabulary.ofColumn? κ small with
  | some column, _ => .ok column
  | none, some found => .ok (counter found)
  | none, none => if small ∈ numberNames then .ok number else .error (.noColumn name)

def ContentColumn.ofName (kind : ContentKind) : String → Except SqlFault (ContentColumn κ) :=
  columnNamed
    [("id", .id), (contentColumn kind, .content), ("author_id", .author), ("day", .day),
      ("created_at", .time)]
    .counter .number

def UserColumn.ofName : String → Except SqlFault UserColumn :=
  columnNamed
    [("id", .id), ("user_id", .user), ("month", .month), ("days_in_month", .daysInMonth),
      ("created_at", .time)]
    .counter .number

def DayColumn.ofName : String → Except SqlFault DayColumn :=
  columnNamed [("tracker_id", .tracker), ("day", .day)] .counter .number

def present (table : TableName) (column : String) (value : Option Cell) : Except SqlFault Cell :=
  match value with
  | some cell => .ok cell
  | none => .error (.notNull table column)

def presentText (table : TableName) (column : String) (value : Option Cell) :
    Except SqlFault String :=
  (present table column value).map Cell.leaningToText

def presentCounter (table : TableName) (counter : κ) (value : Option Cell) :
    Except SqlFault Cell :=
  (present table (column counter) value).map Cell.leaningToInteger

/-- A number within bounds, in a column that leans to integers. -/
def within (low high : Int) (condition : String) (cell : Cell) : Except SqlFault Cell :=
  let cell := cell.leaningToInteger
  if cell.atLeast low && cell.atMost high then .ok cell else .error (.check condition)

def checkedMonthDays (cell : Cell) : Except SqlFault Cell :=
  within 28 31 "days_in_month BETWEEN 28 AND 31" cell

def checkedDay (cell : Cell) : Except SqlFault Cell :=
  within 1 31 "day BETWEEN 1 AND 31" cell

/-- Another number for a row: an integer that no other row has. -/
def freeNumber (table : TableName) (others : List Amount) (value : Option Cell) :
    Except SqlFault Amount :=
  match value.bind fun cell => cell.leaningToInteger.amount? with
  | none => .error .mismatch
  | some number =>
      if number ∈ others then .error (.unique [table.name ++ ".rowid"]) else .ok number

/-- The shelf with a row under another id, which must be free. -/
def moveRow {ρ : Type} (table : TableName) (shelf : Shelf ρ) (id next : String) (row : ρ) :
    Except SqlFault (Shelf ρ) :=
  if id = next then .ok shelf
  else if (shelf.find? next).isSome then .error (.unique [table.name ++ ".id"])
  else .ok ((shelf.erase id).insert next row)

def setContent (kind : ContentKind) (column : ContentColumn κ) (id : String) (value : Option Cell)
    (shelf : Shelf (ContentRow κ)) : Except SqlFault (Nat × Shelf (ContentRow κ)) := do
  let table := tableOf kind
  let text (name : String) := presentText table name value
  match shelf.find? id with
  | none => return (0, shelf)
  | some row =>
      match column with
      | .id => return (1, ← moveRow table shelf id (← text "id") row)
      | .number =>
          let others := (shelf.erase id).entries.map fun entry => entry.2.number
          return (1, shelf.insert id { row with number := ← freeNumber table others value })
      | .content =>
          return (1, shelf.insert id { row with contentId := ← text (contentColumn kind) })
      | .author => return (1, shelf.insert id { row with authorId := ← text "author_id" })
      | .day => return (1, shelf.insert id { row with day := ← text "day" })
      | .counter counter =>
          let cell ← presentCounter table counter value
          return (1, shelf.insert id { row with counters := row.counters.set counter cell })
      | .time =>
          let _ ← present table "created_at" value
          return (1, shelf)

def daysOf (days : Table (List DayRow)) (id : String) : List DayRow :=
  match days with
  | .rows shelf => (shelf.find? id).getD []
  | .missing | .foreign => []

/-- Rows of months with another value in one column of the row with an id, which days refer to. -/
def setUser (days : Table (List DayRow)) (column : UserColumn) (id : String)
    (value : Option Cell) (shelf : Shelf UserRow) : Except SqlFault (Nat × Shelf UserRow) := do
  let text (name : String) := presentText .users name value
  match shelf.find? id with
  | none => return (0, shelf)
  | some row =>
      match column with
      | .id =>
          let next ← text "id"
          let moved ← moveRow .users shelf id next row
          if id ≠ next ∧ daysOf days id ≠ [] then throw .foreignKey
          return (1, moved)
      | .number =>
          let others := (shelf.erase id).entries.map fun entry => entry.2.number
          return (1, shelf.insert id { row with number := ← freeNumber .users others value })
      | .user => return (1, shelf.insert id { row with userId := ← text "user_id" })
      | .month => return (1, shelf.insert id { row with month := ← text "month" })
      | .daysInMonth =>
          let count ← checkedMonthDays (← present .users "days_in_month" value)
          return (1, shelf.insert id { row with daysInMonth := count })
      | .counter counter =>
          let cell ← presentCounter .users counter value
          return (1, shelf.insert id { row with counters := row.counters.set counter cell })
      | .time =>
          let _ ← present .users "created_at" value
          return (1, shelf)

/-- Rows of days with one more, in their order. -/
def placeDay (row : DayRow) : List DayRow → List DayRow
  | [] => [row]
  | other :: rest =>
      if row.day.isLess other.day then row :: other :: rest else other :: placeDay row rest

def checkMonth (users : Table UserRow) (id : String) : Except SqlFault Unit :=
  match users with
  | .missing | .foreign => .error (.noTable ("main." ++ TableName.users.name))
  | .rows shelf => if (shelf.find? id).isSome then .ok () else .error .foreignKey

/-- The table of months exists, to which the rows of days refer. -/
def checkMonths (users : Table UserRow) : Except SqlFault Unit :=
  if users.exists? then .ok () else .error (.noTable ("main." ++ TableName.users.name))

def repeatedDay : SqlFault := .unique ["user_tracker_days.tracker_id", "user_tracker_days.day"]

/-- The rows of days with one moved to another month or number, which must be free. -/
def moveDay (shelf : Shelf (List DayRow)) (id next : String) (row moved : DayRow) :
    Except SqlFault (Shelf (List DayRow)) :=
  let left := ((shelf.find? id).getD []).filter fun other => other.day ≠ row.day
  let shelf := shelf.insert id left
  let target := (shelf.find? next).getD []
  if target.any fun other => other.day = moved.day then .error repeatedDay
  else .ok (shelf.insert next (placeDay moved target))

/-- The rows of days with another one in place of one of the same day. -/
def replaceDay (shelf : Shelf (List DayRow)) (id : String) (changed : DayRow) :
    Shelf (List DayRow) :=
  shelf.insert id (((shelf.find? id).getD []).map fun other =>
    if other.day = changed.day then changed else other)

def setDayRow (users : Table UserRow) (column : DayColumn) (id : String) (row : DayRow)
    (value : Option Cell) (shelf : Shelf (List DayRow)) :
    Except SqlFault (Shelf (List DayRow)) := do
  match column with
  | .tracker =>
      let next ← presentText .days "tracker_id" value
      let moved ← moveDay shelf id next row row
      checkMonth users next
      return moved
  | .number =>
      let rows := shelf.entries.flatMap Prod.snd
      let others := (rows.map DayRow.number).filter fun number => number ≠ row.number
      return replaceDay shelf id { row with number := ← freeNumber .days others value }
  | .day =>
      let day ← checkedDay (← present .days "day" value)
      moveDay shelf id id row { row with day := day }
  | .counter counter =>
      let cell ← presentCounter .days counter value
      return replaceDay shelf id { row with counters := row.counters.set counter cell }

end ActivityLedger.Relational

import ActivityLedger.Relational.Rows

/-!
# Changes past the store

Statements that change the tables without asking the store.  A statement is refused
for the first of these reasons: it cannot be read, it names a table or a column
that does not exist, or a constraint of the tables forbids the change.
-/

namespace ActivityLedger.Relational

/-- A change of the tables.  A value is nothing where a column is to be emptied. -/
inductive Change where
  | set (table column id : String) (value : Option Cell)
  | setDay (column id : String) (day : Int) (value : Option Cell)
  | addDay (id : String) (day : Int)
  | deleteDay (id : String) (day : Int)
  | delete (table id : String)
  | drop (table : String)
  /-- The table of posts is replaced by one with ids only, and no migration counts as applied. -/
  | foreignSchema

/-- The number of changed rows and the changed tables. -/
abbrev Changed := Except SqlFault (Nat × Database)

def idColumn : String := "id"

def migrationColumns : List String := ["migration_name", "applied_at"] ++ numberNames

namespace Database

/-- Every table exists that a statement names. -/
def checkTable (database : Database) (ref : TableRef) (table : TableName) : Except SqlFault Unit :=
  let isThere :=
    match table with
    | .posts => database.posts.exists?
    | .comments => database.comments.exists?
    | .users => database.users.exists?
    | .days => database.days.exists?
    | .migrations => database.migrations.isSome
  if isThere then .ok () else .error (.noTable ref.text)

def tableAt (database : Database) (ref : TableRef) (refusal : String → SqlFault) :
    Except SqlFault TableName := do
  let table ← ref.resolve refusal
  database.checkTable ref table
  return table

def set (database : Database) (table column id : String) (value : Option Cell) : Changed := do
  let (ref, column) ← readUpdate table column [idColumn, "=", "?"]
  match ← database.tableAt ref .notModifiable with
  | .posts =>
      match database.posts with
      | .rows shelf =>
          let (count, shelf) ← setContent .post (← ContentColumn.ofName .post column) id value shelf
          return (count, { database with posts := .rows shelf })
      | .foreign | .missing =>
          if Text.small column ∈ idColumn :: numberNames then return (0, database)
          else throw (.noColumn column)
  | .comments =>
      let column ← ContentColumn.ofName .comment column
      let shelf ← database.comments.open? .comments (.noColumn idColumn)
      let (count, shelf) ← setContent .comment column id value shelf
      return (count, { database with comments := .rows shelf })
  | .users =>
      let column ← UserColumn.ofName column
      let shelf ← database.users.open? .users (.noColumn idColumn)
      let (count, shelf) ← setUser database.days column id value shelf
      return (count, { database with users := .rows shelf })
  | .days =>
      let _ ← DayColumn.ofName column
      throw (.noColumn idColumn)
  | .migrations =>
      if Text.small column ∈ migrationColumns then throw (.noColumn idColumn)
      else throw (.noColumn column)

def setDay (database : Database) (column id : String) (day : Int) (value : Option Cell) :
    Changed := do
  let condition := ["tracker_id", "=", "?", "AND", "day", "=", "?"]
  let (_, column) ← readUpdate TableName.days.name column condition
  let shelf ← database.days.open? .days (.noColumn column)
  let column ← DayColumn.ofName column
  match column with
  | .tracker => checkMonths database.users
  | .number | .day | .counter _ => pure ()
  let rows := (shelf.find? id).getD []
  match rows.find? fun row => row.day = .integer (Amount.wrap day) with
  | none => return (0, database)
  | some row =>
      let changed ← setDayRow database.users column id row value shelf
      return (1, { database with days := .rows changed })

def addDay (database : Database) (id : String) (day : Int) : Changed := do
  let shelf ← database.days.open? .days (.noColumn "day")
  checkMonths database.users
  let day ← checkedDay (.integer (Amount.wrap day))
  let rows := (shelf.find? id).getD []
  if rows.any fun row => row.day = day then throw repeatedDay
  checkMonth database.users id
  let rows := placeDay ⟨nextDayNumber shelf, day, zeroCells⟩ rows
  return (1, { database with days := .rows (shelf.insert id rows) })

def deleteDay (database : Database) (id : String) (day : Int) : Changed := do
  let shelf ← database.days.open? .days (.noColumn "day")
  checkMonths database.users
  let rows := (shelf.find? id).getD []
  let left := rows.filter fun row => row.day ≠ .integer (Amount.wrap day)
  return (rows.length - left.length, { database with days := .rows (shelf.insert id left) })

/-- The rows of a table without the one with an id, or without any. -/
def deleteRows {ρ : Type} (shelf : Shelf ρ) (id : String) (all : Bool) : Nat × Table ρ :=
  let left := if all then .empty else shelf.erase id
  (shelf.size - left.size, .rows left)

def delete (database : Database) (table id : String) : Changed := do
  let (ref, all) ← readDelete table
  match ← database.tableAt ref .notModifiable with
  | .posts =>
      match database.posts with
      | .rows shelf =>
          let (count, posts) := deleteRows shelf id all
          return (count, { database with posts := posts })
      | .foreign | .missing => return (0, database)
  | .comments =>
      let shelf ← database.comments.open? .comments (.noColumn idColumn)
      let (count, comments) := deleteRows shelf id all
      return (count, { database with comments := comments })
  | .users =>
      let shelf ← database.users.open? .users (.noColumn idColumn)
      let isInUse := shelf.entries.any fun entry =>
        (all || entry.1 = id) && !(daysOf database.days entry.1).isEmpty
      if isInUse then throw .foreignKey
      let (count, users) := deleteRows shelf id all
      return (count, { database with users := users })
  | .days =>
      if all then
        let shelf ← database.days.open? .days (.noColumn idColumn)
        checkMonths database.users
        let count := (shelf.entries.flatMap Prod.snd).length
        return (count, { database with days := .rows .empty })
      else throw (.noColumn idColumn)
  | .migrations =>
      if all then
        return ((database.migrations.getD []).length, { database with migrations := some [] })
      else throw (.noColumn idColumn)

/-- The database without the table of months, and how many rows went with it.  They count as
deleted if the table of days exists, which refers to them. -/
def dropUsers (database : Database) : Changed := do
  let shelf ← database.users.open? .users (.noTable TableName.users.name)
  if shelf.entries.any fun entry => !(daysOf database.days entry.1).isEmpty then throw .foreignKey
  let count := if database.days.exists? then shelf.size else 0
  return (count, { database with users := .missing })

def drop (database : Database) (table : String) : Changed := do
  let (ref, mayMiss) ← readDrop table
  match database.tableAt ref .notDroppable with
  | .ok .posts => return (0, { database with posts := .missing })
  | .ok .comments => return (0, { database with comments := .missing })
  | .ok .users => database.dropUsers
  | .ok .days => return (0, { database with days := .missing })
  | .ok .migrations => return (0, { database with migrations := none })
  | .error (.noTable name) => if mayMiss then return (0, database) else throw (.noTable name)
  | .error fault => throw fault

/-- A database with a foreign table of posts, and without migrations that were applied.  The
posts are gone even if no migrations are listed. -/
def withForeignSchema (database : Database) : Except SqlFault Nat × Database :=
  if database.posts.exists? then
    let replaced := { database with posts := .foreign }
    match database.migrations with
    | some applied => (.ok applied.length, { replaced with migrations := some [] })
    | none => (.error (.noTable TableName.migrations.name), replaced)
  else (.error (.noTable TableName.posts.name), database)

/-- The result of a change that is made as a whole or not at all. -/
def whole (database : Database) : Changed → Except SqlFault Nat × Database
  | .ok (count, next) => (.ok count, next)
  | .error fault => (.error fault, database)

def change (database : Database) : Change → Except SqlFault Nat × Database
  | .set table column id value => database.whole (database.set table column id value)
  | .setDay column id day value => database.whole (database.setDay column id day value)
  | .addDay id day => database.whole (database.addDay id day)
  | .deleteDay id day => database.whole (database.deleteDay id day)
  | .delete table id => database.whole (database.delete table id)
  | .drop table => database.whole (database.drop table)
  | .foreignSchema => database.withForeignSchema

end Database

end ActivityLedger.Relational

import ActivityLedger.Counter.Counters
import ActivityLedger.Relational.Cell
import ActivityLedger.Store.Shelf

/-!
# The tables of a database

Five tables: the days of posts and of comments, the months of users, the days of
those months, and the list of the migrations that were applied.  Each may be
missing, and the table of posts may be a foreign one that has ids only.  Every row
has a number of its own within its table.
-/

namespace ActivityLedger.Relational

inductive TableName where
  | posts
  | comments
  | users
  | days
  | migrations
deriving DecidableEq

namespace TableName

def all : List TableName := [.posts, .comments, .users, .days, .migrations]

def name : TableName → String
  | .posts => "post_trackers"
  | .comments => "comment_trackers"
  | .users => "user_trackers"
  | .days => "user_tracker_days"
  | .migrations => "_migrations_applied"

end TableName

inductive SqlFault where
  /-- A token is out of place. -/
  | unexpected (token : String)
  /-- A text is no token. -/
  | unrecognized (text : String)
  /-- The statement ends too early. -/
  | incomplete
  | notModifiable (catalog : String)
  | notDroppable (catalog : String)
  /-- The number of a row is no integer. -/
  | mismatch
  | noTable (name : String)
  | noColumn (column : String)
  | noColumnNamed (table : TableName) (column : String)
  | check (condition : String)
  | foreignKey
  | unique (columns : List String)
  | notNull (table : TableName) (column : String)
deriving DecidableEq

def SqlFault.message : SqlFault → String
  | .unexpected token => "near \"" ++ token ++ "\": syntax error"
  | .unrecognized text => "unrecognized token: \"" ++ text ++ "\""
  | .incomplete => "incomplete input"
  | .notModifiable catalog => s!"table {catalog} may not be modified"
  | .notDroppable catalog => s!"table {catalog} may not be dropped"
  | .mismatch => "datatype mismatch"
  | .noTable name => s!"no such table: {name}"
  | .noColumn column => s!"no such column: {column}"
  | .noColumnNamed table column => s!"table {table.name} has no column named {column}"
  | .check condition => s!"CHECK constraint failed: {condition}"
  | .foreignKey => "FOREIGN KEY constraint failed"
  | .unique columns => "UNIQUE constraint failed: " ++ ", ".intercalate columns
  | .notNull table column => s!"NOT NULL constraint failed: {table.name}.{column}"

/-- The fault as a report of the database shows it. -/
def SqlFault.shown (fault : SqlFault) : String := "SQLite failure: `" ++ fault.message ++ "`"

/-- A table that may be missing, or have ids only. -/
inductive Table (ρ : Type) where
  | missing
  | foreign
  | rows (shelf : Shelf ρ)

structure ContentRow (κ : Type) [Vocabulary κ] where
  /-- The number of the row, which nothing but a statement sees. -/
  number : Amount
  contentId : String
  authorId : String
  day : String
  counters : Columns κ Cell

structure UserRow where
  number : Amount
  userId : String
  month : String
  /-- A number from 28 to 31, which a change may leave without being an integer. -/
  daysInMonth : Cell
  counters : Columns UserCounter Cell

structure DayRow where
  number : Amount
  /-- A number from 1 to 31, which a change may leave without being an integer. -/
  day : Cell
  counters : Columns UserCounter Cell

structure Database where
  posts : Table (ContentRow PostCounter)
  comments : Table (ContentRow CommentCounter)
  users : Table UserRow
  /-- The days of each month, in their order. -/
  days : Table (List DayRow)
  /-- The migrations that were applied. -/
  migrations : Option (List String)

namespace Database

def contents (database : Database) :
    (kind : ContentKind) → Table (ContentRow kind.tracker.Counted)
  | .post => database.posts
  | .comment => database.comments

def withContents (database : Database) :
    (kind : ContentKind) → Table (ContentRow kind.tracker.Counted) → Database
  | .post, table => { database with posts := table }
  | .comment, table => { database with comments := table }

@[simp] theorem contents_withContents_self (database : Database) (kind : ContentKind)
    (table : Table (ContentRow kind.tracker.Counted)) :
    (database.withContents kind table).contents kind = table := by
  cases kind <;> rfl

theorem contents_withContents_of_ne (database : Database) {kind other : ContentKind}
    (different : other ≠ kind) (table : Table (ContentRow kind.tracker.Counted)) :
    (database.withContents kind table).contents other = database.contents other := by
  cases kind <;> cases other <;> first | rfl | exact absurd rfl different

@[simp] theorem withContents_contents (database : Database) (kind : ContentKind) :
    database.withContents kind (database.contents kind) = database := by
  cases kind <;> rfl

@[simp] theorem users_withContents (database : Database) (kind : ContentKind)
    (table : Table (ContentRow kind.tracker.Counted)) :
    (database.withContents kind table).users = database.users := by
  cases kind <;> rfl

@[simp] theorem days_withContents (database : Database) (kind : ContentKind)
    (table : Table (ContentRow kind.tracker.Counted)) :
    (database.withContents kind table).days = database.days := by
  cases kind <;> rfl

end Database

namespace Table

variable {ρ : Type}

/-- The rows of a table, if it has all columns that a statement names. -/
def open? (table : Table ρ) (name : TableName) (absent : SqlFault) : Except SqlFault (Shelf ρ) :=
  match table with
  | .missing => .error (.noTable name.name)
  | .foreign => .error absent
  | .rows shelf => .ok shelf

def exists? : Table ρ → Bool
  | .missing => false
  | .foreign | .rows _ => true

end Table

/-- The number of a new row: the one after the greatest of a table. -/
def nextNumber (numbers : List Amount) : Amount :=
  match (numbers.map Bounded.val).max? with
  | some greatest => Amount.wrap (greatest + 1)
  | none => Amount.one

def zeroCells {κ : Type} [Vocabulary κ] : Columns κ Cell := Columns.tabulate fun _ => Cell.zero

/-- Every counter whose cell has to take an amount leaves room for it. -/
def haveRoom {κ : Type} [Vocabulary κ] (cells : Columns κ Cell) (deltas : List (κ × Amount)) :
    Bool :=
  deltas.all fun entry => (cells.get entry.1).leavesRoom entry.2

/-- The cells with amounts added to those that are named, each at most once. -/
def addCells {κ : Type} [Vocabulary κ] (cells : Columns κ Cell) (deltas : List (κ × Amount)) :
    Columns κ Cell :=
  deltas.foldl (fun table entry => table.set entry.1 ((cells.get entry.1).add entry.2)) cells

end ActivityLedger.Relational

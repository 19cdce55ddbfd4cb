import ActivityLedger.Proofs.Shelf
import ActivityLedger.Proofs.Relational.Cells

/-!
# What an increment does to rows

An increment for a post or a comment is for one row, and one for a user is for two: the row of the
month and the row of the day.  It is accepted exactly where these rows exist and every
cell leaves room for its amount, and then it adds to these rows and to no other.  Room
is only asked for upwards: a sum above the greatest amount is refused, and one
below the least amount is not.
-/

namespace ActivityLedger

namespace Relational

/-- A row with counters: that of a tracker, or that of a day of a user's month. -/
inductive RowName where
  | tracker (kind : TrackerKind) (id : String)
  | day (id : String) (day : Small)
deriving DecidableEq

namespace RowName

def kind : RowName → TrackerKind
  | .tracker kind _ => kind
  | .day _ _ => .user

def id : RowName → String
  | .tracker _ id | .day id _ => id

def IsOf (name : RowName) (kind : TrackerKind) (id : String) : Prop :=
  name.kind = kind ∧ name.id = id

theorem kind_eq_content_iff {name : RowName} {content : ContentKind} :
    name.kind = content.tracker ↔ ∃ id, name = .tracker content.tracker id := by
  constructor
  · intro isKind
    rcases name with ⟨kind, id⟩ | ⟨id, day⟩
    · exact ⟨id, congrArg (tracker · id) isKind⟩
    · cases content <;> cases isKind
  · rintro ⟨id, rfl⟩
    rfl

end RowName

/-- The counters of a row, of the vocabulary that its kind of tracker has. -/
inductive RowCounters where
  | user (cells : Columns UserCounter Cell)
  | post (cells : Columns PostCounter Cell)
  | comment (cells : Columns CommentCounter Cell)

namespace RowCounters

def kind : RowCounters → TrackerKind
  | .user _ => .user
  | .post _ => .post
  | .comment _ => .comment

/-- The cell of a counter, if it is one of the vocabulary. -/
def cell? : RowCounters → Counter → Option Cell
  | .user cells, .user counter => some (cells.get counter)
  | .post cells, .post counter => some (cells.get counter)
  | .comment cells, .comment counter => some (cells.get counter)
  | _, _ => none

def haveRoom : RowCounters → Batch → Bool
  | .user cells, .user deltas => Relational.haveRoom cells deltas.toList
  | .post cells, .post deltas => Relational.haveRoom cells deltas.toList
  | .comment cells, .comment deltas => Relational.haveRoom cells deltas.toList
  | _, _ => false

def add : RowCounters → Batch → RowCounters
  | .user cells, .user deltas => .user (addCells cells deltas.toList)
  | .post cells, .post deltas => .post (addCells cells deltas.toList)
  | .comment cells, .comment deltas => .comment (addCells cells deltas.toList)
  | counters, _ => counters

/-- What the counters named by a batch come to with its amounts, in the integers. -/
def sums : RowCounters → Batch → List Int
  | .user cells, .user deltas => cellSums cells deltas.toList
  | .post cells, .post deltas => cellSums cells deltas.toList
  | .comment cells, .comment deltas => cellSums cells deltas.toList
  | _, _ => []

def AreIntegers (counters : RowCounters) : Prop :=
  ∀ counter cell, counters.cell? counter = some cell → ∃ n, cell = .integer n

def of : (kind : TrackerKind) → Columns kind.Counted Cell → RowCounters
  | .user, cells => .user cells
  | .post, cells => .post cells
  | .comment, cells => .comment cells

theorem exists_of (counters : RowCounters) : ∃ kind cells, of kind cells = counters := by
  cases counters with
  | user cells => exact ⟨.user, cells, rfl⟩
  | post cells => exact ⟨.post, cells, rfl⟩
  | comment cells => exact ⟨.comment, cells, rfl⟩

section

variable (kind : TrackerKind) (cells : Columns kind.Counted Cell) (deltas : Deltas kind.Counted)

@[simp] theorem kind_of : (of kind cells).kind = kind := by
  cases kind <;> rfl

theorem cell?_of (counter : kind.Counted) :
    (of kind cells).cell? (.of kind counter) = some (cells.get counter) := by
  cases kind <;> rfl

theorem haveRoom_of :
    (of kind cells).haveRoom (.of kind deltas) = Relational.haveRoom cells deltas.toList := by
  cases kind <;> rfl

theorem add_of :
    (of kind cells).add (.of kind deltas) = of kind (addCells cells deltas.toList) := by
  cases kind <;> rfl

theorem sums_of : (of kind cells).sums (.of kind deltas) = cellSums cells deltas.toList := by
  cases kind <;> rfl

end

theorem cell?_of_ne {counters : RowCounters} {counter : Counter}
    (foreign : counter.kind ≠ counters.kind) : counters.cell? counter = none := by
  cases counters <;> cases counter <;> first | rfl | exact absurd rfl foreign

theorem add_of_ne {counters : RowCounters} {batch : Batch} (foreign : batch.kind ≠ counters.kind) :
    counters.add batch = counters := by
  cases counters <;> cases batch <;> first | rfl | exact absurd rfl foreign

theorem cell?_of_eq_some_iff {kind : TrackerKind} {cells : Columns kind.Counted Cell}
    {counter : Counter} {cell : Cell} :
    (of kind cells).cell? counter = some cell ↔
      ∃ named, .of kind named = counter ∧ cells.get named = cell := by
  constructor
  · intro held
    have own : counter.kind = kind := by
      by_contra foreign
      rw [cell?_of_ne (by rwa [kind_of])] at held
      cases held
    obtain ⟨named, rfl⟩ := Counter.kind_eq_iff.mp own
    rw [cell?_of] at held
    exact ⟨named, rfl, Option.some.inj held⟩
  · rintro ⟨named, rfl, rfl⟩
    exact cell?_of kind cells named

theorem areIntegers_of (kind : TrackerKind) {cells : Columns kind.Counted Cell}
    {table : Counters kind.Counted} (hold : HoldTable cells table) :
    (of kind cells).AreIntegers := by
  intro counter cell held
  obtain ⟨named, rfl, rfl⟩ := cell?_of_eq_some_iff.mp held
  exact ⟨table.get named, hold named⟩

theorem exists_holdTable (kind : TrackerKind) {cells : Columns kind.Counted Cell}
    (integers : (of kind cells).AreIntegers) : ∃ table, HoldTable cells table := by
  have every (counter : kind.Counted) : ∃ n, cells.get counter = .integer n :=
    integers _ _ (cell?_of kind cells counter)
  choose table held using every
  refine ⟨Columns.tabulate table, fun counter => ?_⟩
  rw [held, Columns.get_tabulate]

theorem exists_integer {counters : RowCounters} (integers : counters.AreIntegers)
    {counter : Counter} (isKind : counter.kind = counters.kind) :
    ∃ n, counters.cell? counter = some (.integer n) := by
  obtain ⟨kind, cells, rfl⟩ := counters.exists_of
  rw [kind_of] at isKind
  obtain ⟨named, rfl⟩ := Counter.kind_eq_iff.mp isKind
  obtain ⟨n, held⟩ := integers _ _ (cell?_of kind cells named)
  exact ⟨n, by rw [cell?_of, held]⟩

/-! ### With a batch of the same kind -/

variable {counters : RowCounters} {batch : Batch}

theorem exists_of_kind_eq (isKind : counters.kind = batch.kind) :
    ∃ kind cells deltas, of kind cells = counters ∧ .of kind deltas = batch := by
  obtain ⟨kind, cells, rfl⟩ := counters.exists_of
  obtain ⟨other, deltas, rfl⟩ := batch.exists_of
  rw [kind_of, Batch.kind_of] at isKind
  subst isKind
  exact ⟨kind, cells, deltas, rfl, rfl⟩

/-- Integers have room for a batch exactly where no sum is above the greatest amount. -/
theorem haveRoom_iff (integers : counters.AreIntegers) (isKind : counters.kind = batch.kind) :
    counters.haveRoom batch = true ↔ ∀ sum ∈ counters.sums batch, sum ≤ 9223372036854775807 := by
  obtain ⟨kind, cells, deltas, rfl, rfl⟩ := exists_of_kind_eq isKind
  rw [haveRoom_of, sums_of]
  exact haveRoom_iff_sums fun named => integers _ _ (cell?_of kind cells named)

theorem exists_of_mem_sums (isKind : counters.kind = batch.kind) {sum : Int}
    (counted : sum ∈ counters.sums batch) :
    ∃ counter n, counters.cell? counter = some (.integer n) ∧ counter.kind = counters.kind ∧
      n.val + batch.amount counter = sum := by
  obtain ⟨kind, cells, deltas, rfl, rfl⟩ := exists_of_kind_eq isKind
  rw [sums_of] at counted
  obtain ⟨named, n, held, total⟩ := exists_of_mem_cellSums counted
  refine ⟨.of kind named, n, ?_, ?_, ?_⟩
  · rw [cell?_of, held]
  · rw [kind_of]
    exact Counter.kind_eq_iff.mpr ⟨named, rfl⟩
  · rw [Batch.amount_of, total]

/-- The sum of a counter that is moved counts. -/
theorem mem_sums_of_ne_zero (isKind : counters.kind = batch.kind) {counter : Counter} {n : Amount}
    (held : counters.cell? counter = some (.integer n)) (moved : batch.amount counter ≠ 0) :
    n.val + batch.amount counter ∈ counters.sums batch := by
  obtain ⟨kind, cells, deltas, rfl, rfl⟩ := exists_of_kind_eq isKind
  obtain ⟨named, rfl, cell⟩ := cell?_of_eq_some_iff.mp held
  rw [Batch.amount_of] at moved ⊢
  rw [sums_of]
  exact mem_cellSums_of_ne_zero cell moved

theorem cell?_add (isKind : counters.kind = batch.kind) {counter : Counter} {n : Amount}
    (held : counters.cell? counter = some (.integer n)) :
    ∃ cell, (counters.add batch).cell? counter = some cell ∧
      ∀ sum, cell = .integer sum ↔ sum.val = n.val + batch.amount counter := by
  obtain ⟨kind, cells, deltas, rfl, rfl⟩ := exists_of_kind_eq isKind
  obtain ⟨named, rfl, cell⟩ := cell?_of_eq_some_iff.mp held
  rw [add_of, cell?_of, Batch.amount_of]
  exact ⟨_, rfl, fun sum => get_addCells_eq_integer_iff cell⟩

theorem exists_sum (integers : counters.AreIntegers) (isKind : counters.kind = batch.kind)
    (upper : ∀ sum ∈ counters.sums batch, sum ≤ 9223372036854775807)
    (lower : ∀ sum ∈ counters.sums batch, -9223372036854775808 ≤ sum) {counter : Counter}
    (named : counter.kind = counters.kind) :
    ∃ n sum, counters.cell? counter = some (.integer n) ∧
      (counters.add batch).cell? counter = some (.integer sum) ∧
      sum.val = n.val + batch.amount counter := by
  obtain ⟨n, held⟩ := exists_integer integers named
  obtain ⟨cell, changed, exactly⟩ := cell?_add isKind held
  have bounds : -9223372036854775808 ≤ n.val + batch.amount counter ∧
      n.val + batch.amount counter ≤ 9223372036854775807 := by
    by_cases still : batch.amount counter = 0
    · rw [still, Int.add_zero]
      exact ⟨n.lo_le, n.le_hi⟩
    · have counted := mem_sums_of_ne_zero isKind held still
      exact ⟨lower _ counted, upper _ counted⟩
  obtain ⟨sum, rfl⟩ : ∃ sum, cell = .integer sum :=
    ⟨⟨_, bounds.1, bounds.2⟩, (exactly _).mpr rfl⟩
  exact ⟨n, sum, held, changed, (exactly sum).mp rfl⟩

/-- Integers stay integers where every sum is an amount. -/
theorem areIntegers_add (integers : counters.AreIntegers) (isKind : counters.kind = batch.kind)
    (upper : ∀ sum ∈ counters.sums batch, sum ≤ 9223372036854775807)
    (lower : ∀ sum ∈ counters.sums batch, -9223372036854775808 ≤ sum) :
    (counters.add batch).AreIntegers := by
  intro counter cell held
  by_cases own : counter.kind = counters.kind
  · obtain ⟨_, sum, _, changed, _⟩ := exists_sum integers isKind upper lower own
    rw [changed] at held
    exact ⟨sum, (Option.some.inj held).symm⟩
  · obtain ⟨kind, cells, deltas, rfl, rfl⟩ := exists_of_kind_eq isKind
    rw [add_of, cell?_of_ne (by rwa [kind_of] at own ⊢)] at held
    cases held

/-- A sum below the least amount is not held as an integer. -/
theorem not_areIntegers_add (isKind : counters.kind = batch.kind) {sum : Int}
    (counted : sum ∈ counters.sums batch) (below : sum < -9223372036854775808) :
    ¬ (counters.add batch).AreIntegers := by
  obtain ⟨counter, n, held, _, total⟩ := exists_of_mem_sums isKind counted
  obtain ⟨cell, changed, exactly⟩ := cell?_add isKind held
  intro integers
  obtain ⟨other, rfl⟩ := integers counter cell changed
  have same := (exactly other).mp rfl
  have least := other.lo_le
  omega

theorem add_of_isEmpty (counters : RowCounters) (nothing : batch.isEmpty = true) :
    counters.add batch = counters := by
  by_cases isKind : counters.kind = batch.kind
  · obtain ⟨kind, cells, deltas, rfl, rfl⟩ := exists_of_kind_eq isKind
    rw [Batch.isEmpty_of, List.isEmpty_iff] at nothing
    rw [add_of, nothing]
    rfl
  · exact add_of_ne fun same => isKind same.symm

theorem sums_of_isEmpty (isKind : counters.kind = batch.kind) (nothing : batch.isEmpty = true) :
    counters.sums batch = [] := by
  obtain ⟨kind, cells, deltas, rfl, rfl⟩ := exists_of_kind_eq isKind
  rw [Batch.isEmpty_of, List.isEmpty_iff] at nothing
  rw [sums_of, nothing]
  rfl

end RowCounters

def Table.find? {ρ : Type} (table : Table ρ) (id : String) : Option ρ :=
  match table with
  | .rows shelf => shelf.find? id
  | .missing | .foreign => none

def dayRow? (day : Small) (rows : List DayRow) : Option DayRow :=
  rows.find? fun row => row.day = Cell.ofSmall day

/-- The counters of a row, if there is the row. -/
def Database.row? (database : Database) : RowName → Option RowCounters
  | .tracker .user id => (database.users.find? id).map fun row => .user row.counters
  | .tracker .post id => (database.posts.find? id).map fun row => .post row.counters
  | .tracker .comment id => (database.comments.find? id).map fun row => .comment row.counters
  | .day id day =>
      (dayRow? day ((database.days.find? id).getD [])).map fun row => .user row.counters

end Relational

/-- The rows that an increment at a key is for. -/
def Key.rows (key : Key) : List Relational.RowName :=
  match key.kind with
  | .user => [.tracker .user key.id, .day key.id key.dayOfMonth]
  | .post => [.tracker .post key.id]
  | .comment => [.tracker .comment key.id]

theorem Key.kind_of_mem_rows {key : Key} {name : Relational.RowName} (member : name ∈ key.rows) :
    name.kind = key.kind := by
  unfold rows at member
  split at member <;> rename_i isKind
  · rcases List.mem_pair.mp member with rfl | rfl <;> exact isKind.symm
  · cases List.mem_singleton.mp member
    exact isKind.symm
  · cases List.mem_singleton.mp member
    exact isKind.symm

theorem Key.isOf_of_mem_rows {key : Key} {name : Relational.RowName} (member : name ∈ key.rows) :
    name.IsOf key.kind key.id := by
  refine ⟨kind_of_mem_rows member, ?_⟩
  unfold rows at member
  split at member
  · rcases List.mem_pair.mp member with rfl | rfl <;> rfl
  · cases List.mem_singleton.mp member
    rfl
  · cases List.mem_singleton.mp member
    rfl

theorem Key.mem_rows_user_iff {key : Key} (isUser : key.kind = .user) {name : Relational.RowName} :
    name ∈ key.rows ↔ name = .tracker .user key.id ∨ name = .day key.id key.dayOfMonth := by
  rw [rows, isUser]
  simp

theorem Key.mem_rows_content_iff {key : Key} (kind : ContentKind) (isKind : key.kind = kind.tracker)
    {name : Relational.RowName} : name ∈ key.rows ↔ name = .tracker kind.tracker key.id := by
  rw [rows, isKind]
  cases kind <;> exact List.mem_singleton

namespace Relational

namespace Database

/-- What the counters of the rows for a key come to with the amounts of a batch. -/
def sums (database : Database) (key : Key) (batch : Batch) : List Int :=
  key.rows.flatMap fun name => (database.row? name).toList.flatMap fun counters =>
    counters.sums batch

/-- Some counter comes to more than the greatest amount. -/
def Overflows (database : Database) (key : Key) (batch : Batch) : Prop :=
  ∃ sum ∈ database.sums key batch, 9223372036854775807 < sum

/-- Some counter comes to less than the least amount. -/
def Underflows (database : Database) (key : Key) (batch : Batch) : Prop :=
  ∃ sum ∈ database.sums key batch, sum < -9223372036854775808

theorem kind_of_row? {database : Database} {name : RowName} {counters : RowCounters}
    (here : database.row? name = some counters) : counters.kind = name.kind := by
  rcases name with ⟨kind, id⟩ | ⟨id, day⟩
  · cases kind <;> obtain ⟨row, _, rfl⟩ := Option.map_eq_some_iff.mp here <;> rfl
  · obtain ⟨row, _, rfl⟩ := Option.map_eq_some_iff.mp here
    rfl

theorem kind_of_mem_rows {database : Database} {key : Key} {name : RowName}
    (member : name ∈ key.rows) {counters : RowCounters}
    (here : database.row? name = some counters) : counters.kind = key.kind :=
  (kind_of_row? here).trans (Key.kind_of_mem_rows member)

theorem row?_content (database : Database) (kind : ContentKind) (id : String) :
    database.row? (.tracker kind.tracker id) =
      ((database.contents kind).find? id).map fun row => .of kind.tracker row.counters := by
  cases kind <;> rfl

theorem row?_withContents_of_ne (database : Database) {kind : ContentKind}
    (table : Table (ContentRow kind.tracker.Counted)) {name : RowName}
    (other : name.kind ≠ kind.tracker) :
    (database.withContents kind table).row? name = database.row? name := by
  rcases name with ⟨kind, id⟩ | ⟨id, day⟩
  · rename_i content
    cases kind <;> cases content <;> first | rfl | exact absurd rfl other
  · cases kind <;> rfl

theorem mem_sums {database : Database} {key : Key} {batch : Batch} {name : RowName}
    {counters : RowCounters} (member : name ∈ key.rows)
    (here : database.row? name = some counters) {sum : Int} (counted : sum ∈ counters.sums batch) :
    sum ∈ database.sums key batch :=
  List.mem_flatMap.mpr ⟨name, member, List.mem_flatMap.mpr ⟨counters, by simp [here], counted⟩⟩

theorem exists_of_mem_sums {database : Database} {key : Key} {batch : Batch} {sum : Int}
    (counted : sum ∈ database.sums key batch) :
    ∃ name ∈ key.rows, ∃ counters, database.row? name = some counters ∧
      sum ∈ counters.sums batch := by
  obtain ⟨name, member, here⟩ := List.mem_flatMap.mp counted
  obtain ⟨counters, found, inRow⟩ := List.mem_flatMap.mp here
  exact ⟨name, member, counters, Option.mem_toList.mp found, inRow⟩

/-- Updates without a negative amount do not underflow. -/
theorem not_underflows_of_natural {database : Database} {key : Key} {updates : List Update}
    {batch : Batch} (made : Batch.ofUpdates key updates = .ok batch)
    (natural : ∀ update ∈ updates, 0 ≤ update.delta.val) : ¬ database.Underflows key batch := by
  rintro ⟨sum, counted, below⟩
  obtain ⟨name, member, counters, here, inRow⟩ := exists_of_mem_sums counted
  have isKind := kind_of_mem_rows member here
  obtain ⟨counter, n, _, named, rfl⟩ := RowCounters.exists_of_mem_sums
    (isKind.trans (Batch.kind_of_ofUpdates made).symm) inRow
  have least := n.lo_le
  have amount := Batch.nonneg_of_ofUpdates made natural counter (named.trans isKind)
  omega

/-- Where nothing underflows, no sum in a row is below the least amount. -/
theorem le_of_not_underflows {database : Database} {key : Key} {batch : Batch}
    (kept : ¬ database.Underflows key batch) {name : RowName} {counters : RowCounters}
    (member : name ∈ key.rows) (here : database.row? name = some counters) :
    ∀ sum ∈ counters.sums batch, -9223372036854775808 ≤ sum :=
  fun sum counted => Int.not_lt.mp fun below => kept ⟨sum, mem_sums member here counted, below⟩

end Database

/-! ## Rows of content -/

section

variable {κ : Type} [Vocabulary κ] {kind : ContentKind} {key : Key} {deltas : List (κ × Amount)}
  {table next : Table (ContentRow κ)}

theorem addToContent_eq_ok_iff :
    addToContent kind key deltas table = .ok next ↔
      ∃ shelf row, table = .rows shelf ∧ shelf.find? key.id = some row ∧
        haveRoom row.counters deltas = true ∧
        next = .rows
          (shelf.insert key.id { row with counters := addCells row.counters deltas }) := by
  constructor
  · intro added
    cases table with
    | missing => cases added
    | «foreign» => cases added
    | rows shelf =>
        simp only [addToContent, Table.open?] at added
        split at added
        · cases added
        · rename_i row found
          split at added
          · rename_i room
            cases added
            exact ⟨shelf, row, rfl, found, room, rfl⟩
          · cases added
  · rintro ⟨shelf, row, rfl, found, room, rfl⟩
    simp only [addToContent, Table.open?, found, if_pos room]

theorem exists_addToContent (kind : ContentKind) {row : ContentRow κ}
    (found : table.find? key.id = some row) (room : haveRoom row.counters deltas = true) :
    ∃ next, addToContent kind key deltas table = .ok next := by
  cases table with
  | missing => cases found
  | «foreign» => cases found
  | rows shelf => exact ⟨_, addToContent_eq_ok_iff.mpr ⟨shelf, row, rfl, found, room, rfl⟩⟩

theorem find?_of_addToContent (added : addToContent kind key deltas table = .ok next) :
    (∃ row, table.find? key.id = some row ∧ haveRoom row.counters deltas = true ∧
      next.find? key.id = some { row with counters := addCells row.counters deltas }) ∧
    ∀ id, id ≠ key.id → next.find? id = table.find? id := by
  obtain ⟨shelf, row, rfl, found, room, rfl⟩ := addToContent_eq_ok_iff.mp added
  exact ⟨⟨row, found, room, Shelf.find?_insert_self ..⟩,
    fun id different => Shelf.find?_insert_of_ne _ _ different⟩

theorem error_of_addToContent {error : Error}
    (refused : addToContent kind key deltas table = .error error) :
    ∃ reason, error = .storage key.id reason [] := by
  unfold addToContent at refused
  repeat' split at refused
  all_goals cases refused
  all_goals exact ⟨_, rfl⟩

end

/-! ## Rows of days -/

section

variable {day : Small} {deltas : List (UserCounter × Amount)} {rows changed : List DayRow}

/-- The row with the amounts, if it is the one of a day. -/
def DayRow.addAt (day : Small) (deltas : List (UserCounter × Amount)) (row : DayRow) : DayRow :=
  if row.day = Cell.ofSmall day then { row with counters := addCells row.counters deltas } else row

theorem addToDay?_eq_some_iff :
    addToDay? day deltas rows = some changed ↔
      ∃ row, dayRow? day rows = some row ∧ haveRoom row.counters deltas = true ∧
        changed = rows.map (DayRow.addAt day deltas) := by
  unfold addToDay? dayRow?
  constructor
  · intro added
    dsimp only at added
    split at added
    · rename_i row found
      split at added
      · rename_i room
        cases added
        exact ⟨row, found, room, rfl⟩
      · cases added
    · cases added
  · rintro ⟨row, found, room, rfl⟩
    dsimp only
    rw [found]
    exact if_pos room

theorem DayRow.day_addAt (row : DayRow) : (row.addAt day deltas).day = row.day := by
  unfold addAt
  split <;> rfl

theorem dayRow?_map_addAt (other : Small) :
    dayRow? other (rows.map (DayRow.addAt day deltas)) =
      if other = day then
        (dayRow? other rows).map fun row => { row with counters := addCells row.counters deltas }
      else dayRow? other rows := by
  have sameDays : ((fun row : DayRow => decide (row.day = Cell.ofSmall other)) ∘
      DayRow.addAt day deltas) = fun row => decide (row.day = Cell.ofSmall other) := by
    funext row
    simp [DayRow.day_addAt]
  unfold dayRow?
  rw [List.find?_map, sameDays]
  cases found : rows.find? fun row => decide (row.day = Cell.ofSmall other) with
  | none => simp
  | some row =>
      have numbered : row.day = Cell.ofSmall other := by simpa using List.find?_some found
      by_cases same : other = day
      · subst same
        simp [DayRow.addAt, numbered]
      · have different : row.day ≠ Cell.ofSmall day := fun equal =>
          same (Cell.ofSmall_injective (numbered.symm.trans equal))
        simp [DayRow.addAt, different, same]

end

/-! ## Rows of users -/

namespace Database

variable {database next : Database} {key : Key}

/-- Amounts are added to the rows of a month and a day that both have room for them. -/
theorem incrementUser_eq_ok_iff {deltas : List (UserCounter × Amount)} :
    database.incrementUser key deltas = .ok next ↔
      ∃ months row days rows, database.users = .rows months ∧ months.find? key.id = some row ∧
        haveRoom row.counters deltas = true ∧ database.days = .rows days ∧
        addToDay? key.dayOfMonth deltas ((days.find? key.id).getD []) = some rows ∧
        next = { database with
          users := .rows
            (months.insert key.id { row with counters := addCells row.counters deltas })
          days := .rows (days.insert key.id rows) } := by
  constructor
  · intro added
    unfold incrementUser at added
    cases users : database.users with
    | missing => simp [users, Table.open?] at added
    | «foreign» => simp [users, Table.open?] at added
    | rows months =>
        simp only [users, Table.open?] at added
        split at added
        · cases added
        · rename_i row found
          split at added
          · rename_i room
            cases opened : database.days with
            | missing => simp [opened] at added
            | «foreign» => simp [opened] at added
            | rows days =>
                simp only [opened] at added
                split at added
                · cases added
                · rename_i rows inDays
                  cases added
                  exact ⟨months, row, days, rows, rfl, found, room, rfl, inDays, rfl⟩
          · cases added
  · rintro ⟨months, row, days, rows, users, found, room, opened, inDays, rfl⟩
    simp only [incrementUser, users, Table.open?, found, if_pos room, opened, inDays]

theorem error_of_incrementUser {deltas : List (UserCounter × Amount)} {error : Error}
    (refused : database.incrementUser key deltas = .error error) :
    ∃ reason, error = .storage key.id reason [] := by
  unfold incrementUser at refused
  repeat' split at refused
  all_goals cases refused
  all_goals exact ⟨_, rfl⟩

/-! ## Batches -/

/-- Amounts are added to the rows for a key, which had room if there are any, and to no other
row. -/
structure Adds (database : Database) (key : Key) (batch : Batch) (next : Database) : Prop where
  rooms : batch.isEmpty = false → ∀ name ∈ key.rows, ∃ counters,
    database.row? name = some counters ∧ counters.haveRoom batch = true
  rows : ∀ name ∈ key.rows,
    next.row? name = (database.row? name).map fun counters => counters.add batch
  others : ∀ name ∉ key.rows, next.row? name = database.row? name

theorem row?_month (database : Database) (id : String) {months : Shelf UserRow}
    (users : database.users = .rows months) :
    database.row? (.tracker .user id) = (months.find? id).map fun row => .user row.counters := by
  rw [row?, users]
  rfl

theorem row?_day (database : Database) (id : String) (day : Small) {days : Shelf (List DayRow)}
    (opened : database.days = .rows days) :
    database.row? (.day id day) =
      (dayRow? day ((days.find? id).getD [])).map fun row => .user row.counters := by
  rw [row?, opened]
  rfl

theorem adds_of_incrementUser {deltas : Deltas UserCounter} (isUser : key.kind = .user)
    (added : database.incrementUser key deltas.toList = .ok next) :
    Adds database key (.user deltas) next := by
  obtain ⟨months, row, days, rows, users, found, room, opened, inDays, rfl⟩ :=
    incrementUser_eq_ok_iff.mp added
  obtain ⟨dayRow, dayFound, dayRoom, rfl⟩ := addToDay?_eq_some_iff.mp inDays
  refine ⟨fun _ name member => ?_, fun name member => ?_, fun name other => ?_⟩
  · rcases (Key.mem_rows_user_iff isUser).mp member with rfl | rfl
    · exact ⟨.user row.counters, by rw [row?_month _ _ users, found]; rfl, room⟩
    · exact ⟨.user dayRow.counters, by rw [row?_day _ _ _ opened, dayFound]; rfl, dayRoom⟩
  · rcases (Key.mem_rows_user_iff isUser).mp member with rfl | rfl
    · rw [row?_month _ _ users, row?_month _ _ rfl, Shelf.find?_insert_self, found]
      rfl
    · rw [row?_day _ _ _ opened, row?_day _ _ _ rfl, Shelf.find?_insert_self, Option.getD_some,
        dayRow?_map_addAt, if_pos rfl, dayFound]
      rfl
  · rw [Key.mem_rows_user_iff isUser, not_or] at other
    obtain ⟨otherMonth, otherDay⟩ := other
    cases name with
    | tracker kind id =>
        cases kind with
        | user =>
            have different : id ≠ key.id := fun same => otherMonth (by rw [same])
            rw [row?_month _ _ users, row?_month _ _ rfl, Shelf.find?_insert_of_ne _ _ different]
        | post => rfl
        | comment => rfl
    | day id day =>
        rw [row?_day _ _ _ opened, row?_day _ _ _ rfl]
        by_cases same : id = key.id
        · have different : day ≠ key.dayOfMonth := fun equal => otherDay (by rw [same, equal])
          rw [same, Shelf.find?_insert_self, Option.getD_some, dayRow?_map_addAt,
            if_neg different]
        · rw [Shelf.find?_insert_of_ne _ _ same]

theorem exists_incrementUser {deltas : Deltas UserCounter} (isUser : key.kind = .user)
    (rooms : ∀ name ∈ key.rows, ∃ counters, database.row? name = some counters ∧
      counters.haveRoom (.user deltas) = true) :
    ∃ next, database.incrementUser key deltas.toList = .ok next := by
  obtain ⟨monthCounters, month, room⟩ :=
    rooms _ ((Key.mem_rows_user_iff isUser).mpr (Or.inl rfl))
  obtain ⟨dayCounters, day, dayRoom⟩ := rooms _ ((Key.mem_rows_user_iff isUser).mpr (Or.inr rfl))
  obtain ⟨row, found, rfl⟩ := Option.map_eq_some_iff.mp month
  obtain ⟨dayRow, dayFound, rfl⟩ := Option.map_eq_some_iff.mp day
  cases users : database.users with
  | missing =>
      rw [users] at found
      cases found
  | «foreign» =>
      rw [users] at found
      cases found
  | rows months =>
      cases opened : database.days with
      | missing =>
          rw [opened] at dayFound
          cases dayFound
      | «foreign» =>
          rw [opened] at dayFound
          cases dayFound
      | rows days =>
          rw [users] at found
          rw [opened] at dayFound
          exact ⟨_, incrementUser_eq_ok_iff.mpr ⟨months, row, days, _, users, found, room, opened,
            addToDay?_eq_some_iff.mpr ⟨dayRow, dayFound, dayRoom, rfl⟩, rfl⟩⟩

theorem adds_of_incrementContent {kind : ContentKind} (isKind : key.kind = kind.tracker)
    {deltas : Deltas kind.tracker.Counted}
    (added : database.incrementContent key kind deltas.toList = .ok next) :
    Adds database key (.of kind.tracker deltas) next := by
  obtain ⟨table, inTable, rfl⟩ := Answer.map_eq_ok_iff.mp added
  obtain ⟨⟨row, found, room, changed⟩, kept⟩ := find?_of_addToContent inTable
  have here (name : RowName) : name ∈ key.rows ↔ name = .tracker kind.tracker key.id :=
    Key.mem_rows_content_iff kind isKind
  refine ⟨fun _ name member => ?_, fun name member => ?_, fun name other => ?_⟩
  · rw [(here name).mp member, row?_content, found]
    exact ⟨_, rfl, (RowCounters.haveRoom_of ..).trans room⟩
  · rw [(here name).mp member, row?_content, row?_content, contents_withContents_self, found,
      changed]
    exact congrArg some (RowCounters.add_of ..).symm
  · by_cases own : name.kind = kind.tracker
    · obtain ⟨id, rfl⟩ := RowName.kind_eq_content_iff.mp own
      have different : id ≠ key.id := fun same => other ((here _).mpr (by rw [same]))
      rw [row?_content, row?_content, contents_withContents_self, kept id different]
    · exact database.row?_withContents_of_ne table own

variable {batch : Batch}

/-- A batch that names no counter asks for nothing. -/
theorem applyBatch_of_isEmpty (database : Database) (key : Key) (nothing : batch.isEmpty = true) :
    database.applyBatch key batch = .ok database := by
  unfold applyBatch
  exact if_pos nothing

theorem applyBatch_user (database : Database) (key : Key) {deltas : Deltas UserCounter}
    (named : (Batch.user deltas).isEmpty = false) :
    database.applyBatch key (.user deltas) = database.incrementUser key deltas.toList := by
  unfold applyBatch
  exact if_neg (by simp [named])

theorem applyBatch_content (database : Database) (key : Key) (kind : ContentKind)
    {deltas : Deltas kind.tracker.Counted}
    (named : (Batch.of kind.tracker deltas).isEmpty = false) :
    database.applyBatch key (.of kind.tracker deltas) =
      database.incrementContent key kind deltas.toList := by
  unfold applyBatch
  rw [if_neg (by simp [named])]
  cases kind <;> rfl

/-- A batch that is accepted is added to the rows for its key. -/
theorem adds_of_applyBatch (isKind : batch.kind = key.kind)
    (applied : database.applyBatch key batch = .ok next) : Adds database key batch next := by
  cases named : batch.isEmpty with
  | true =>
      cases (database.applyBatch_of_isEmpty key named).symm.trans applied
      refine ⟨fun some => ?_, fun name _ => ?_, fun _ _ => rfl⟩
      · rw [named] at some
        cases some
      · simp [RowCounters.add_of_isEmpty _ named]
  | false =>
      rcases batch.eq_user_or_content with ⟨deltas, rfl⟩ | ⟨kind, deltas, rfl⟩
      · rw [applyBatch_user _ _ named] at applied
        exact adds_of_incrementUser isKind.symm applied
      · rw [applyBatch_content _ _ _ named] at applied
        rw [Batch.kind_of] at isKind
        exact adds_of_incrementContent isKind.symm applied

theorem exists_applyBatch (isKind : batch.kind = key.kind)
    (rooms : ∀ name ∈ key.rows, ∃ counters, database.row? name = some counters ∧
      counters.haveRoom batch = true) : ∃ next, database.applyBatch key batch = .ok next := by
  cases named : batch.isEmpty with
  | true => exact ⟨database, database.applyBatch_of_isEmpty key named⟩
  | false =>
      rcases batch.eq_user_or_content with ⟨deltas, rfl⟩ | ⟨kind, deltas, rfl⟩
      · rw [applyBatch_user _ _ named]
        exact exists_incrementUser isKind.symm rooms
      · rw [applyBatch_content _ _ _ named]
        rw [Batch.kind_of] at isKind
        obtain ⟨counters, here, room⟩ :=
          rooms _ ((Key.mem_rows_content_iff kind isKind.symm).mpr rfl)
        rw [row?_content] at here
        obtain ⟨row, found, rfl⟩ := Option.map_eq_some_iff.mp here
        rw [RowCounters.haveRoom_of] at room
        obtain ⟨table, added⟩ := exists_addToContent kind found room
        exact ⟨_, Answer.map_eq_ok_iff.mpr ⟨table, added, rfl⟩⟩

/-- A batch is refused by the store only, on its own tracker. -/
theorem error_of_applyBatch {error : Error}
    (refused : database.applyBatch key batch = .error error) :
    ∃ reason, error = .storage key.id reason [] := by
  cases named : batch.isEmpty with
  | true =>
      rw [database.applyBatch_of_isEmpty key named] at refused
      cases refused
  | false =>
      rcases batch.eq_user_or_content with ⟨deltas, rfl⟩ | ⟨kind, deltas, rfl⟩
      · rw [applyBatch_user _ _ named] at refused
        exact error_of_incrementUser refused
      · rw [applyBatch_content _ _ _ named] at refused
        exact error_of_addToContent (Answer.map_eq_error_iff.mp refused)

/-! ## Increments -/

variable {updates : List Update}

theorem increment_of_unmerged (database : Database) {error : Error}
    (unmerged : Batch.ofUpdates key updates = .error error) :
    increment key updates database = (.error error, database) := by
  rw [increment, unmerged]
  rfl

theorem increment_of_refused {error : Error} (made : Batch.ofUpdates key updates = .ok batch)
    (refused : database.applyBatch key batch = .error error) :
    increment key updates database = (.error error, database) := by
  rw [increment, made]
  simp only [Except.bind, refused]

theorem increment_of_applied (made : Batch.ofUpdates key updates = .ok batch)
    (applied : database.applyBatch key batch = .ok next) :
    increment key updates database = (.ok (), next) := by
  rw [increment, made]
  simp only [Except.bind, applied]

/-- An increment applies the batch of its updates, or is refused and changes nothing. -/
theorem increment_cases (key : Key) (updates : List Update) (database : Database) :
    (∃ batch next, Batch.ofUpdates key updates = .ok batch ∧
        database.applyBatch key batch = .ok next ∧
        increment key updates database = (.ok (), next)) ∨
      ∃ error, increment key updates database = (.error error, database) := by
  cases made : Batch.ofUpdates key updates with
  | error error => exact Or.inr ⟨error, database.increment_of_unmerged made⟩
  | ok batch =>
      cases applied : database.applyBatch key batch with
      | error error => exact Or.inr ⟨error, increment_of_refused made applied⟩
      | ok next => exact Or.inl ⟨batch, next, rfl, applied, increment_of_applied made applied⟩

end Database

end Relational

end ActivityLedger

import ActivityLedger.Proofs.Relational.Identities
import ActivityLedger.Proofs.Relational.Readings

/-!
# Trackers are looked up as they are written

After any calls on a new database a lookup gives a tracker as it is written in rows, exactly where
its texts are whole and its counters are integers.  Texts that are not whole are cut, except that
the days of a month are looked for under its id as it is read.
-/

namespace ActivityLedger

open Relational

/-- The tracker at a key as a lookup gives it, in the form in which trackers are written. -/
def Store.written? {σ : Type} (store : Store σ) (key : Key) (state : σ) :
    Except Error (Option Sheet) :=
  match key.kind with
  | .user => (store.user? key state).map (Option.map UserTracker.sheet)
  | .post | .comment => (store.content? key state).map (Option.map ContentTracker.sheet)

theorem Store.written?_user {σ : Type} (store : Store σ) {key : Key} (isUser : key.kind = .user)
    (state : σ) :
    store.written? key state = (store.user? key state).map (Option.map UserTracker.sheet) := by
  rw [written?, isUser]

theorem Store.written?_content {σ : Type} (store : Store σ) {key : Key} {kind : ContentKind}
    (isKind : key.kind = kind.tracker) (state : σ) :
    store.written? key state =
      (store.content? key state).map (Option.map ContentTracker.sheet) := by
  rw [written?, isKind]
  cases kind <;> rfl

theorem Memory.written?_eq (key : Key) (memory : Memory) :
    store.written? key memory = .ok (memory.sheet? key.kind key.id) := by
  rcases key.kind.eq_user_or_content with isUser | ⟨kind, isKind⟩
  · rw [store.written?_user isUser, isUser]
    show (user? key memory).map _ = _
    rw [user?, Key.checkUser, if_pos isUser]
    rfl
  · rw [store.written?_content isKind, isKind, sheet?_content]
    show (content? key memory).map _ = _
    rw [content?, Key.contentKind_eq_ok_iff.mpr isKind]
    rfl

namespace Sheet

structure IsWhole (sheet : Sheet) : Prop where
  id : Text.IsWhole sheet.identity.id
  entityId : Text.IsWhole sheet.identity.entityId
  ownerId : ∀ ownerId ∈ sheet.identity.ownerId?, Text.IsWhole ownerId

/-- Every counter is an integer, of the period and of each day. -/
structure AreIntegers (sheet : Sheet) : Prop where
  counters : sheet.counters.AreIntegers
  slots : ∀ slot ∈ sheet.slots, (RowCounters.user slot).AreIntegers

/-- The tracker with its texts as they are read. -/
def cut (sheet : Sheet) : Sheet :=
  { sheet with
    identity := { sheet.identity with
      id := Cell.readText sheet.identity.id
      entityId := Cell.readText sheet.identity.entityId
      ownerId? := sheet.identity.ownerId?.map Cell.readText } }

theorem cut_of_isWhole {sheet : Sheet} (whole : sheet.IsWhole) : sheet.cut = sheet := by
  have owner : sheet.identity.ownerId?.map Cell.readText = sheet.identity.ownerId? := by
    refine (Option.map_congr fun ownerId owns => ?_).trans Option.map_id'
    exact (Cell.readText_eq_iff ownerId).mpr (whole.ownerId ownerId owns)
  rw [cut, owner, (Cell.readText_eq_iff _).mpr whole.id, (Cell.readText_eq_iff _).mpr whole.entityId]

end Sheet

/-! ## Trackers that are read -/

theorem Counters.holdTable_cells {κ : Type} [Vocabulary κ] (table : Counters κ) :
    HoldTable table.cells table := by
  intro counter
  rw [cells, Columns.get_tabulate]

theorem Relational.HoldTable.eq_cells {κ : Type} [Vocabulary κ] {cells : Columns κ Cell}
    {table : Counters κ} (hold : HoldTable cells table) : cells = table.cells := by
  refine Columns.ext fun counter => ?_
  rw [hold counter, table.holdTable_cells counter]

theorem ContentCounters.cells_of (kind : ContentKind) (table : Counters kind.tracker.Counted) :
    (of kind table).cells = .of kind.tracker table.cells := by
  cases kind <;> rfl

namespace ContentTracker

theorem areIntegers_sheet (tracker : ContentTracker) : tracker.sheet.AreIntegers where
  counters := by
    obtain ⟨kind, table, same⟩ := tracker.counters.exists_of
    show tracker.counters.cells.AreIntegers
    rw [← same, ContentCounters.cells_of]
    exact RowCounters.areIntegers_of kind.tracker table.holdTable_cells
  slots _ member := by cases member

theorem isWhole_sheet {tracker : ContentTracker} (whole : tracker.IsWhole) :
    tracker.sheet.IsWhole where
  id := whole.1
  entityId := whole.2.1
  ownerId := by
    rintro _ ⟨⟩
    exact whole.2.2

end ContentTracker

namespace UserTracker

theorem areIntegers_sheet (tracker : UserTracker) : tracker.sheet.AreIntegers where
  counters := RowCounters.areIntegers_of .user tracker.monthly.holdTable_cells
  slots slot member := by
    obtain ⟨day, _, rfl⟩ := List.mem_map.mp member
    exact RowCounters.areIntegers_of .user day.holdTable_cells

theorem isWhole_sheet {tracker : UserTracker} (whole : tracker.IsWhole) :
    tracker.sheet.IsWhole where
  id := whole.1
  entityId := whole.2
  ownerId _ owns := by cases owns

end UserTracker

namespace Relational

/-! ## Rows that stand for trackers -/

theorem ContentRow.Mirrors.sheet {kind : ContentKind} {id : String} {tracker : ContentTracker}
    {row : ContentRow kind.tracker.Counted} (mirrors : row.Mirrors kind id tracker) :
    tracker.sheet = row.sheet kind id := by
  obtain ⟨table, counters, hold⟩ := mirrors.counters
  simp [ContentTracker.sheet, ContentRow.sheet, mirrors.id, mirrors.isKind, mirrors.contentId,
    mirrors.authorId, mirrors.day, counters, ContentCounters.cells_of, hold.eq_cells]

/-- A row with a date and with integers stands for a tracker. -/
theorem ContentRow.exists_mirrors (kind : ContentKind) (id : String)
    {row : ContentRow kind.tracker.Counted} {date : Date} (dated : row.day = date.text)
    (integers : (row.sheet kind id).AreIntegers) : ∃ tracker, row.Mirrors kind id tracker := by
  obtain ⟨table, hold⟩ := RowCounters.exists_holdTable kind.tracker integers.counters
  exact ⟨⟨id, kind, row.contentId, row.authorId, date, .of kind table⟩, rfl, rfl, rfl, rfl, dated,
    table, rfl, hold⟩

/-- The numbers of days that come after a number of others. -/
def dayNumbersAfter (before count : Nat) : List Cell :=
  (List.range count).map fun (index : Nat) => .integer (Amount.wrap ((before + index : Nat) + 1))

theorem dayNumbersAfter_zero (count : Nat) : dayNumbersAfter 0 count = dayNumbers count := by
  simp [dayNumbersAfter, dayNumbers]

theorem dayNumbersAfter_succ (before count : Nat) :
    dayNumbersAfter before (count + 1) =
      .integer (Amount.wrap (before + 1)) :: dayNumbersAfter (before + 1) count := by
  rw [dayNumbersAfter, List.range_succ_eq_map, List.map_cons, List.map_map]
  refine congrArg₂ List.cons rfl (List.map_congr_left fun index _ => ?_)
  show Cell.integer (Amount.wrap ((before + (index + 1) : Nat) + 1)) = _
  rw [Nat.add_right_comm before 1 index]
  rfl

namespace MirrorDays

theorem exists_of_numbered {before count : Nat} (few : before + count ≤ 31) {rows : List DayRow}
    (numbered : rows.map DayRow.day = dayNumbersAfter before count)
    (integers : ∀ row ∈ rows, (RowCounters.user row.counters).AreIntegers) :
    ∃ days, MirrorDays before days rows := by
  induction rows generalizing count before with
  | nil => exact ⟨[], .nil before⟩
  | cons row rest ih =>
      obtain ⟨first, others⟩ := List.forall_mem_cons.mp integers
      cases count with
      | zero => cases numbered
      | succ count =>
          rw [List.map_cons, dayNumbersAfter_succ] at numbered
          obtain ⟨number, later⟩ := List.cons.inj numbered
          obtain ⟨table, hold⟩ := RowCounters.exists_holdTable .user first
          obtain ⟨days, mirror⟩ := ih (by omega) later others
          exact ⟨table :: days, .cons _ number (val_wrap (by omega) (by omega)) hold mirror⟩

variable {before : Nat} {days : List (Counters UserCounter)} {rows : List DayRow}

theorem map_counters (mirror : MirrorDays before days rows) :
    rows.map DayRow.counters = days.map Counters.cells := by
  induction mirror with
  | nil => rfl
  | cons number numbered position hold later ih =>
      rw [List.map_cons, List.map_cons, ih, hold.eq_cells]

theorem length_eq (mirror : MirrorDays before days rows) : rows.length = days.length := by
  rw [← List.length_map DayRow.counters, mirror.map_counters, List.length_map]

theorem map_day (mirror : MirrorDays before days rows) (few : before + days.length ≤ 31) :
    rows.map DayRow.day = dayNumbersAfter before days.length := by
  induction mirror with
  | nil => rfl
  | @cons before day days row rows number numbered position hold later ih =>
      rw [List.length_cons] at few
      have first : number = Amount.wrap (before + 1) :=
        Bounded.ext (position.trans (val_wrap (by omega) (by omega)).symm)
      rw [List.map_cons, ih (by omega), numbered, first, List.length_cons, dayNumbersAfter_succ]

end MirrorDays

theorem UserRow.Mirrors.sheet {id : String} {tracker : UserTracker} {row : UserRow}
    {rows : List DayRow} (mirrors : row.Mirrors id tracker)
    (mirrorDays : MirrorDays 0 tracker.days rows) : tracker.sheet = row.sheet id rows := by
  have few := mirrors.few
  have days : rows.map DayRow.day = dayNumbers tracker.days.length := by
    rw [mirrorDays.map_day (by omega), dayNumbersAfter_zero]
  simp [UserTracker.sheet, UserRow.sheet, mirrors.id, mirrors.userId, mirrors.month,
    mirrors.daysInMonth, days, mirrors.counters.eq_cells, mirrorDays.map_counters]

theorem UserRow.exists_mirrors (id : String) {row : UserRow} {rows : List DayRow} {date : Date}
    {count : Small} (few : count.toNat ≤ 31) (dated : row.month = date.text)
    (counted : row.daysInMonth = Cell.ofSmall count)
    (numbered : rows.map DayRow.day = dayNumbers count.toNat)
    (integers : (row.sheet id rows).AreIntegers) :
    ∃ tracker, row.Mirrors id tracker ∧ MirrorDays 0 tracker.days rows := by
  obtain ⟨table, hold⟩ := RowCounters.exists_holdTable .user integers.counters
  have inOrder := numbered.trans (dayNumbersAfter_zero count.toNat).symm
  obtain ⟨days, mirror⟩ := MirrorDays.exists_of_numbered (by omega) inOrder fun day member =>
    integers.slots _ (List.mem_map_of_mem member)
  have length : days.length = count.toNat := by
    rw [← mirror.length_eq, ← List.length_map DayRow.day, numbered, length_dayNumbers]
  exact ⟨⟨id, row.userId, date, count, table, days⟩,
    ⟨rfl, rfl, dated, counted, hold, length, length ▸ few⟩, mirror⟩

/-! ## Lookups -/

namespace Database

variable {database : Database} {key : Key}

/-- The row of a month has the date and the days that it was set up with. -/
theorem exists_setUp_of_month (identified : Identified sheet? database) {id : String}
    {row : UserRow} {rows : List DayRow}
    (written : database.sheet? .user id = some (row.sheet id rows)) :
    ∃ (date : Date) (count : Small), count.toNat ≤ 31 ∧ row.month = date.text ∧
      row.daysInMonth = Cell.ofSmall count ∧ rows.map DayRow.day = dayNumbers count.toNat := by
  obtain ⟨key, template, _, isUser, _, identity⟩ := identified _ _ _ written
  have monthly : key.kind.isMonthly = true := by
    rw [isUser]
    rfl
  have counted := congrArg Identity.daysInMonth? identity
  have numbered := congrArg Identity.days identity
  simp only [UserRow.sheet, Identity.of, monthly, if_true] at counted numbered
  exact ⟨key.periodStart, key.daysInMonth, key.toNat_daysInMonth_le,
    congrArg Identity.period identity, Option.some.inj counted, numbered⟩

theorem written?_eq_cut_of_content (opened : database.IsOpen)
    (identified : Identified sheet? database) {kind : ContentKind}
    (isKind : key.kind = kind.tracker)
    (integers : ∀ sheet ∈ database.sheet? kind.tracker key.id, sheet.AreIntegers) :
    store.written? key database = .ok ((database.sheet? kind.tracker key.id).map Sheet.cut) := by
  obtain ⟨rows, table⟩ := opened.contents kind
  have checked := Key.contentKind_eq_ok_iff.mpr isKind
  rw [store.written?_content isKind]
  show (database.content? key).map _ = _
  cases found : rows.find? key.id with
  | none =>
      rw [content?_of_none checked table found, sheet?_content, table, Table.find?, found]
      rfl
  | some row =>
      have written : database.sheet? kind.tracker key.id = some (row.sheet kind key.id) := by
        rw [sheet?_content, table, Table.find?, found]
        rfl
      obtain ⟨setUp, template, _, _, _, identity⟩ := identified _ _ _ written
      obtain ⟨tracker, mirrors⟩ := row.exists_mirrors kind key.id
        (congrArg Identity.period identity) (integers _ written)
      rw [content?_of_some checked table found, readContent_eq_cut mirrors, written,
        Option.map_some, ← mirrors.sheet]
      rfl

theorem written?_eq_cut_of_user (opened : database.IsOpen)
    (identified : Identified sheet? database) (isUser : key.kind = .user)
    (whole : ∀ sheet ∈ database.sheet? .user key.id, Text.IsWhole sheet.identity.id)
    (integers : ∀ sheet ∈ database.sheet? .user key.id, sheet.AreIntegers) :
    store.written? key database = .ok ((database.sheet? .user key.id).map Sheet.cut) := by
  obtain ⟨months, users⟩ := opened.users
  obtain ⟨days, slots⟩ := opened.days
  have checked : key.checkUser = .ok () := if_pos isUser
  rw [store.written?_user isUser]
  show (database.user? key).map _ = _
  cases found : months.find? key.id with
  | none =>
      rw [user?_of_none checked users found, sheet?, users, Table.find?, found]
      rfl
  | some row =>
      have written : database.sheet? .user key.id =
          some (row.sheet key.id ((days.find? key.id).getD [])) := by
        rw [sheet?, users, slots, Table.find?, Table.find?, found]
        rfl
      obtain ⟨date, count, few, dated, counted, numbered⟩ := exists_setUp_of_month identified written
      obtain ⟨tracker, mirrors, mirrorDays⟩ :=
        row.exists_mirrors key.id few dated counted numbered (integers _ written)
      rw [user?_of_some checked users found,
        readUser_eq_cut slots mirrors rfl mirrorDays (whole _ written), written, Option.map_some,
        ← mirrors.sheet mirrorDays]
      rfl

/-- Where its counters are integers, a tracker is looked up with its texts cut, unless it is of a
user and has an id that is not whole. -/
theorem written?_eq_cut (opened : database.IsOpen) (identified : Identified sheet? database)
    (integers : ∀ sheet ∈ database.sheet? key.kind key.id, sheet.AreIntegers)
    (whole : key.kind = .user →
      ∀ sheet ∈ database.sheet? key.kind key.id, Text.IsWhole sheet.identity.id) :
    store.written? key database = .ok ((database.sheet? key.kind key.id).map Sheet.cut) := by
  rcases key.kind.eq_user_or_content with isUser | ⟨kind, isKind⟩
  · have wholeId := whole isUser
    rw [isUser] at integers wholeId ⊢
    exact written?_eq_cut_of_user opened identified isUser wholeId integers
  · rw [isKind] at integers ⊢
    exact written?_eq_cut_of_content opened identified isKind integers

theorem isWhole_of_content? (opened : database.IsOpen) {tracker : ContentTracker}
    (read : database.content? key = .ok (some tracker)) : tracker.IsWhole := by
  obtain ⟨kind, checked, _⟩ := Answer.bind_eq_ok_iff.mp read
  obtain ⟨rows, table⟩ := opened.contents kind
  cases found : rows.find? key.id with
  | none =>
      rw [content?_of_none checked table found] at read
      cases read
  | some row =>
      rw [content?_of_some checked table found] at read
      obtain ⟨_, inRow, ⟨⟩⟩ := Answer.map_eq_ok_iff.mp read
      exact isWhole_of_readContent inRow

theorem isWhole_of_user? (opened : database.IsOpen) (isUser : key.kind = .user)
    {tracker : UserTracker} (read : database.user? key = .ok (some tracker)) :
    tracker.IsWhole := by
  obtain ⟨months, users⟩ := opened.users
  have checked : key.checkUser = .ok () := if_pos isUser
  cases found : months.find? key.id with
  | none =>
      rw [user?_of_none checked users found] at read
      cases read
  | some row =>
      rw [user?_of_some checked users found] at read
      obtain ⟨_, inRow, ⟨⟩⟩ := Answer.map_eq_ok_iff.mp read
      exact isWhole_of_readUser inRow

theorem of_written? (opened : database.IsOpen) {sheet : Sheet}
    (read : store.written? key database = .ok (some sheet)) :
    sheet.IsWhole ∧ sheet.AreIntegers := by
  rcases key.kind.eq_user_or_content with isUser | ⟨kind, isKind⟩
  · rw [store.written?_user isUser] at read
    obtain ⟨result, lookup, shown⟩ := Answer.map_eq_ok_iff.mp read
    obtain ⟨tracker, rfl, rfl⟩ := Option.map_eq_some_iff.mp shown
    exact ⟨tracker.isWhole_sheet (isWhole_of_user? opened isUser lookup), tracker.areIntegers_sheet⟩
  · rw [store.written?_content isKind] at read
    obtain ⟨result, lookup, shown⟩ := Answer.map_eq_ok_iff.mp read
    obtain ⟨tracker, rfl, rfl⟩ := Option.map_eq_some_iff.mp shown
    exact ⟨tracker.isWhole_sheet (isWhole_of_content? opened lookup), tracker.areIntegers_sheet⟩

/-- A lookup gives a tracker as it is written exactly where its texts are whole and its counters
are integers, and it gives none where none is written. -/
theorem written?_eq_iff (opened : database.IsOpen) (identified : Identified sheet? database)
    (key : Key) :
    store.written? key database = .ok (database.sheet? key.kind key.id) ↔
      ∀ sheet ∈ database.sheet? key.kind key.id, sheet.IsWhole ∧ sheet.AreIntegers := by
  constructor
  · intro read sheet found
    rw [Option.mem_def.mp found] at read
    exact of_written? opened read
  · intro fits
    refine (written?_eq_cut opened identified (fun sheet found => (fits sheet found).2)
      fun _ sheet found => (fits sheet found).1.id).trans (congrArg Except.ok ?_)
    exact (Option.map_congr fun sheet found => Sheet.cut_of_isWhole (fits sheet found).1).trans
      Option.map_id'

theorem identified_after (calls : List StoreCall) :
    Identified sheet? (store.after calls fresh) := by
  have step (call : StoreCall) (database : Database)
      (before : database.IsOpen ∧ Identified sheet? database) :
      (store.perform call database).2.IsOpen ∧
        Identified sheet? (store.perform call database).2 := by
    obtain ⟨opened, identified⟩ := before
    refine ⟨opened.perform call, ?_⟩
    cases call with
    | ensure key template => exact identified.ensure (ensuresOnce opened key template)
    | increment key updates =>
        exact identified.keepsIdentity (recounted_increment key updates database).keepsIdentity
    | content | user | contentRange | userRange => exact identified
  have start : Identified sheet? fresh := by
    intro kind id sheet found
    cases kind <;> cases found
  exact (store.after_induction step calls ⟨isOpen_fresh, start⟩).2

/-- After any calls on a new database a lookup gives a tracker as it is written exactly where its
texts are whole and its counters are integers. -/
theorem written?_after_eq_iff (calls : List StoreCall) (key : Key) :
    store.written? key (store.after calls fresh) =
        .ok ((store.after calls fresh).sheet? key.kind key.id) ↔
      ∀ sheet ∈ (store.after calls fresh).sheet? key.kind key.id,
        sheet.IsWhole ∧ sheet.AreIntegers :=
  written?_eq_iff (isOpen_after calls) (identified_after calls) key

end Database

end Relational

end ActivityLedger

import ActivityLedger.Proofs.Keys
import ActivityLedger.Proofs.MemorySteps
import ActivityLedger.Proofs.Relational.Increments
import ActivityLedger.Proofs.Relational.Rows

/-!
# Tables that stand for a memory

A database mirrors a memory when its rows stand for the trackers, under the same ids.
A new database mirrors an empty memory, and setting up a tracker or adding a batch
keeps it so: the database refuses a batch exactly where the memory does.
-/

namespace ActivityLedger

namespace Relational

def MirrorContents (kind : ContentKind) (trackers : Shelf ContentTracker)
    (rows : Shelf (ContentRow kind.tracker.Counted)) : Prop :=
  Shelf.Related (fun id tracker row => ContentRow.Mirrors kind id tracker row) trackers rows

/-- Rows of months and of their days stand for the trackers of users. -/
structure MirrorUsers (trackers : Shelf UserTracker) (months : Shelf UserRow)
    (days : Shelf (List DayRow)) : Prop where
  months : Shelf.Related (fun id tracker row => UserRow.Mirrors id tracker row) trackers months
  known : ∀ id rows, days.find? id = some rows → ∃ tracker, trackers.find? id = some tracker
  days : ∀ id tracker, trackers.find? id = some tracker →
    ∃ rows, days.find? id = some rows ∧ MirrorDays 0 tracker.days rows

/-- The tables stand for the trackers in memory. -/
structure Mirrors (memory : Memory) (database : Database) : Prop where
  contents : ∀ kind, ∃ rows, database.contents kind = .rows rows ∧
    MirrorContents kind (memory.contents kind) rows
  users : ∃ months days, database.users = .rows months ∧ database.days = .rows days ∧
    MirrorUsers memory.users months days

theorem mirrors_fresh : Mirrors Memory.empty Database.fresh where
  contents kind := by cases kind <;> exact ⟨.empty, rfl, .empty⟩
  users := ⟨.empty, .empty, rfl, rfl, .empty, (fun _ _ found => by cases found),
    (fun _ _ found => by cases found)⟩

/-! ## Rows of content -/

namespace MirrorContents

variable {kind : ContentKind} {trackers : Shelf ContentTracker}
  {rows : Shelf (ContentRow kind.tracker.Counted)}

theorem insertContent (mirror : MirrorContents kind trackers rows) (key : Key)
    (authorId : String) :
    (∃ tracker, trackers.find? key.id = some tracker ∧
      insertContent key authorId rows = (false, rows)) ∨
    (trackers.find? key.id = none ∧ ∃ next, insertContent key authorId rows = (true, next) ∧
      MirrorContents kind (trackers.insert key.id (Memory.newContent key kind authorId)) next) := by
  unfold Relational.insertContent
  rcases mirror.find? key.id with ⟨absent, noRow⟩ | ⟨tracker, row, found, here, _⟩
  · rw [noRow]
    refine Or.inr ⟨absent, _, rfl, Shelf.Related.insert mirror ?_⟩
    exact ⟨rfl, rfl, rfl, rfl, rfl, Counters.zero, ContentCounters.zero_eq_of kind, holdTable_zero⟩
  · rw [here]
    exact Or.inl ⟨tracker, found, rfl⟩

/-- Amounts are added to a row exactly where they can be added to the tracker. -/
theorem addToContent (mirror : MirrorContents kind trackers rows) {key : Key}
    {deltas : List (kind.tracker.Counted × Amount)} (distinct : (deltas.map Prod.fst).Nodup)
    (above : ∀ row, rows.find? key.id = some row → StayAbove row.counters deltas)
    {tracker : ContentTracker} (found : trackers.find? key.id = some tracker) :
    ∃ table, tracker.counters = .of kind table ∧
      ((∃ sums next, table.addAll deltas = .ok sums ∧
        addToContent kind key deltas (.rows rows) = .ok (.rows next) ∧
        MirrorContents kind
          (trackers.insert key.id { tracker with counters := .of kind sums }) next) ∨
      ((∀ sums, table.addAll deltas ≠ .ok sums) ∧ ∃ reason,
        addToContent kind key deltas (.rows rows) = .error (.storage key.id reason []))) := by
  rcases mirror.find? key.id with ⟨absent, _⟩ | ⟨tracker, row, same, here, mirrors⟩
  · rw [absent] at found
    cases found
  · cases found.symm.trans same
    obtain ⟨table, sameTable, hold⟩ := mirrors.counters
    have room := haveRoom_iff hold distinct (above row here)
    refine ⟨table, sameTable, ?_⟩
    simp only [Relational.addToContent, Table.open?, here]
    by_cases fits : haveRoom row.counters deltas = true
    · obtain ⟨sums, added⟩ := room.mp fits
      rw [if_pos fits]
      refine Or.inl ⟨sums, _, added, rfl, Shelf.Related.insert mirror ?_⟩
      exact { mirrors with counters := ⟨sums, rfl, holdTable_addCells hold distinct added⟩ }
    · rw [if_neg fits]
      exact Or.inr ⟨fun sums added => fits (room.mpr ⟨sums, added⟩), _, rfl⟩

theorem addToContent_of_none (mirror : MirrorContents kind trackers rows) {key : Key}
    (deltas : List (kind.tracker.Counted × Amount)) (absent : trackers.find? key.id = none) :
    ∃ reason, Relational.addToContent kind key deltas (.rows rows) =
      .error (.storage key.id reason []) := by
  rcases mirror.find? key.id with ⟨_, noRow⟩ | ⟨tracker, row, found, _⟩
  · simp only [Relational.addToContent, Table.open?, noRow]
    exact ⟨_, rfl⟩
  · rw [absent] at found
    cases found

end MirrorContents

/-! ## Rows of users -/

theorem mirrorDays_zeroDays (first : Amount) {count : Nat} (few : count ≤ 31) :
    MirrorDays 0 (List.replicate count Counters.zero) (zeroDays first count) := by
  refine MirrorDays.zero (by omega) (fun index => ?_) fun index => rfl
  rw [Nat.zero_add]

/-- Amounts are added to the row of a day where it has a slot that takes them. -/
theorem MirrorDays.addAt {days : List (Counters UserCounter)} {rows : List DayRow}
    (mirror : MirrorDays 0 days rows) {deltas : List (UserCounter × Amount)}
    (distinct : (deltas.map Prod.fst).Nodup) (day : Small)
    (above : ∀ row, (rows.find? fun row => row.day = Cell.ofSmall day) = some row →
      StayAbove row.counters deltas) :
    (∃ slot old next changed, Memory.slotOf day = some slot ∧ days[slot]? = some old ∧
      old.addAll deltas = .ok next ∧ addToDay? day deltas rows = some changed ∧
      MirrorDays 0 (days.set slot next) changed) ∨
    ((∀ slot old next, Memory.slotOf day = some slot → days[slot]? = some old →
      old.addAll deltas ≠ .ok next) ∧ addToDay? day deltas rows = none) := by
  cases position : Memory.slotOf day with
  | none =>
      have natural := day.lo_le
      have early : day.val ≤ 0 := by
        by_contra late
        have slot := Memory.slotOf_eq_some_iff.mpr
          (show day.val = ((day.val - 1).toNat : Int) + 1 by omega)
        rw [position] at slot
        cases slot
      exact Or.inr ⟨nofun, mirror.addToDay?_of_zero early⟩
  | some slot =>
      have number := Memory.slotOf_eq_some_iff.mp position
      obtain ⟨fitting, unfitting⟩ :=
        mirror.add distinct above (show day.val = ((0 : Nat) : Int) + slot + 1 by omega)
      by_cases fits : ∃ old next, days[slot]? = some old ∧ old.addAll deltas = .ok next
      · obtain ⟨old, next, here, added⟩ := fits
        obtain ⟨changed, inRows, mirrored⟩ := fitting old next here added
        exact Or.inl ⟨slot, old, next, changed, rfl, here, added, inRows, mirrored⟩
      · refine Or.inr ⟨?_, unfitting fun old next here added => fits ⟨old, next, here, added⟩⟩
        rintro _ old next ⟨⟩ here added
        exact fits ⟨old, next, here, added⟩

theorem UserRow.Mirrors.add {id : String} {tracker : UserTracker} {row : UserRow}
    (mirrors : row.Mirrors id tracker) {deltas : List (UserCounter × Amount)}
    (distinct : (deltas.map Prod.fst).Nodup) {sums : Counters UserCounter}
    (added : tracker.monthly.addAll deltas = .ok sums) (slot : Nat) (day : Counters UserCounter) :
    UserRow.Mirrors id { tracker with monthly := sums, days := tracker.days.set slot day }
      { row with counters := addCells row.counters deltas } :=
  { mirrors with
    counters := holdTable_addCells mirrors.counters distinct added
    length := List.length_set.trans mirrors.length
    few := (Nat.le_of_eq List.length_set).trans mirrors.few }

namespace MirrorUsers

variable {trackers : Shelf UserTracker} {months : Shelf UserRow} {days : Shelf (List DayRow)}

theorem insert (mirror : MirrorUsers trackers months days) {id : String} {tracker : UserTracker}
    {row : UserRow} (mirrors : row.Mirrors id tracker) {rows : List DayRow}
    (mirrorDays : MirrorDays 0 tracker.days rows) :
    MirrorUsers (trackers.insert id tracker) (months.insert id row) (days.insert id rows) where
  months := Shelf.Related.insert mirror.months mirrors
  days other changed found := by
    rcases Shelf.of_find?_insert found with ⟨rfl, rfl⟩ | ⟨different, before⟩
    · exact ⟨rows, Shelf.find?_insert_self .., mirrorDays⟩
    · rw [Shelf.find?_insert_of_ne _ _ different]
      exact mirror.days other changed before
  known other changed found := by
    rcases Shelf.of_find?_insert found with ⟨rfl, rfl⟩ | ⟨_, before⟩
    · exact ⟨tracker, Shelf.find?_insert_self ..⟩
    · exact Shelf.exists_find?_insert (mirror.known other changed before) id tracker

/-- Lookups find a tracker with its rows, or nothing. -/
theorem find? (mirror : MirrorUsers trackers months days) (id : String) :
    (trackers.find? id = none ∧ months.find? id = none) ∨
      ∃ tracker row rows, trackers.find? id = some tracker ∧ months.find? id = some row ∧
        days.find? id = some rows ∧ row.Mirrors id tracker ∧ MirrorDays 0 tracker.days rows := by
  rcases mirror.months.find? id with absent | ⟨tracker, row, found, here, mirrors⟩
  · exact Or.inl absent
  · obtain ⟨rows, daysFound, mirrorDays⟩ := mirror.days id tracker found
    exact Or.inr ⟨tracker, row, rows, found, here, daysFound, mirrors, mirrorDays⟩

theorem insertNew (mirror : MirrorUsers trackers months days) (key : Key) (userId : String)
    (number first : Amount) :
    MirrorUsers
      (trackers.insert key.id
        (UserTracker.zero key.id userId key.periodStart key.daysInMonth))
      (months.insert key.id
        ⟨number, userId, key.periodStart.text, Cell.ofSmall key.daysInMonth, zeroCells⟩)
      (days.insert key.id (zeroDays first key.daysInMonth.toNat)) := by
  have few := key.toNat_daysInMonth_le
  generalize key.daysInMonth = length at few ⊢
  have count : (List.replicate length.toNat (Counters.zero : Counters UserCounter)).length =
      length.toNat := List.length_replicate
  have mirrors : UserRow.Mirrors key.id (UserTracker.zero key.id userId key.periodStart length)
      ⟨number, userId, key.periodStart.text, Cell.ofSmall length, zeroCells⟩ :=
    ⟨rfl, rfl, rfl, rfl, holdTable_zero, count, count ▸ few⟩
  exact mirror.insert mirrors (mirrorDays_zeroDays first few)

end MirrorUsers

/-! ## Batches -/

/-- The database takes a batch where the memory does, and refuses it on its own tracker where the
memory refuses it. -/
def TakesAlike (memory : Memory) (database : Database) (key : Key) (batch : Batch) : Prop :=
  (∃ next changed, memory.applyBatch key batch = .ok next ∧
    database.applyBatch key batch = .ok changed ∧ Mirrors next changed) ∨
  ((∀ next, memory.applyBatch key batch ≠ .ok next) ∧
    ∃ reason, database.applyBatch key batch = .error (.storage key.id reason []))

namespace Mirrors

variable {memory : Memory} {database : Database}

theorem takes_user (mirrors : Mirrors memory database) {key : Key} (isUser : key.kind = .user)
    {deltas : Deltas UserCounter} (kept : ¬ database.Underflows key (.user deltas))
    (named : (Batch.user deltas).isEmpty = false) :
    TakesAlike memory database key (.user deltas) := by
  have distinct := deltas.nodup_toList
  obtain ⟨months, days, users, opened, mirror⟩ := mirrors.users
  unfold TakesAlike Database.applyBatch Memory.applyBatch
  rw [if_neg (by simp [named])]
  simp only [Database.incrementUser, users, Table.open?]
  rcases mirror.find? key.id with
    ⟨absent, noRow⟩ | ⟨tracker, row, rows, found, here, listed, rowMirrors, mirrorDays⟩
  · refine Or.inr ⟨fun next applied => ?_, ?_⟩
    · obtain ⟨tracker, _, _, _, _, found, _⟩ := Memory.incrementUser_eq_ok_iff.mp applied
      rw [absent] at found
      cases found
    · rw [noRow]
      exact ⟨_, rfl⟩
  · have monthRow : database.row? (.tracker .user key.id) = some (.user row.counters) := by
      rw [Database.row?_month _ _ users, here]
      rfl
    have aboveMonth : StayAbove row.counters deltas.toList :=
      Database.le_of_not_underflows kept ((Key.mem_rows_user_iff isUser).mpr (Or.inl rfl)) monthRow
    have aboveDay (day : DayRow) (found : dayRow? key.dayOfMonth rows = some day) :
        StayAbove day.counters deltas.toList := by
      have dayRow : database.row? (.day key.id key.dayOfMonth) = some (.user day.counters) := by
        rw [Database.row?_day _ _ _ opened, listed, Option.getD_some, found]
        rfl
      exact Database.le_of_not_underflows kept ((Key.mem_rows_user_iff isUser).mpr (Or.inr rfl))
        dayRow
    have room := haveRoom_iff rowMirrors.counters distinct aboveMonth
    simp only [here, opened, listed, Option.getD_some]
    by_cases fits : haveRoom row.counters deltas.toList = true
    · obtain ⟨nextMonth, monthSum⟩ := room.mp fits
      rw [if_pos fits]
      rcases mirrorDays.addAt distinct key.dayOfMonth aboveDay with
        ⟨slot, day, nextDay, changed, position, inSlots, daySum, inRows, nextDays⟩ |
          ⟨unfit, refused⟩
      · rw [inRows]
        refine Or.inl ⟨_, _, Memory.incrementUser_eq_ok_iff.mpr
          ⟨tracker, slot, day, nextDay, nextMonth, found, position, inSlots, daySum, monthSum, rfl⟩,
          rfl, ?_⟩
        exact { mirrors with
          users := ⟨_, _, rfl, rfl,
            mirror.insert (rowMirrors.add distinct monthSum slot nextDay) nextDays⟩ }
      · rw [refused]
        refine Or.inr ⟨fun next applied => ?_, _, rfl⟩
        obtain ⟨other, slot, day, nextDay, _, same, position, inSlots, daySum, _⟩ :=
          Memory.incrementUser_eq_ok_iff.mp applied
        cases found.symm.trans same
        exact unfit slot day nextDay position inSlots daySum
    · rw [if_neg fits]
      refine Or.inr ⟨fun next applied => ?_, _, rfl⟩
      obtain ⟨other, _, _, _, nextMonth, same, _, _, _, monthSum, _⟩ :=
        Memory.incrementUser_eq_ok_iff.mp applied
      cases found.symm.trans same
      exact fits (room.mpr ⟨nextMonth, monthSum⟩)

theorem withContents (mirrors : Mirrors memory database) {kind : ContentKind}
    {trackers : Shelf ContentTracker} {rows : Shelf (ContentRow kind.tracker.Counted)}
    (mirror : MirrorContents kind trackers rows) :
    Mirrors (memory.withContents kind trackers) (database.withContents kind (.rows rows)) where
  contents other := by
    rw [Memory.contents_withContents]
    by_cases same : other = kind
    · subst same
      exact ⟨rows, database.contents_withContents_self .., by rwa [if_pos rfl]⟩
    · rw [if_neg same, database.contents_withContents_of_ne same]
      exact mirrors.contents other
  users := by
    rw [Memory.users_withContents, database.users_withContents, database.days_withContents]
    exact mirrors.users

/-- A batch for content is taken alike. -/
theorem takes_content (mirrors : Mirrors memory database) {key : Key} {kind : ContentKind}
    (isKind : key.kind = kind.tracker) {deltas : Deltas kind.tracker.Counted}
    (kept : ¬ database.Underflows key (.of kind.tracker deltas))
    (named : (Batch.of kind.tracker deltas).isEmpty = false) :
    TakesAlike memory database key (.of kind.tracker deltas) := by
  obtain ⟨rows, opened, mirror⟩ := mirrors.contents kind
  have sameKind : (Batch.of kind.tracker deltas).kind = kind.tracker := Batch.kind_of ..
  have above (row : ContentRow kind.tracker.Counted) (found : rows.find? key.id = some row) :
      StayAbove row.counters deltas.toList := by
    have here : database.row? (.tracker kind.tracker key.id) =
        some (.of kind.tracker row.counters) := by
      rw [Database.row?_content, opened, Table.find?, found]
      rfl
    have least := Database.le_of_not_underflows kept
      ((Key.mem_rows_content_iff kind isKind).mpr rfl) here
    rwa [RowCounters.sums_of] at least
  unfold TakesAlike
  rw [Database.applyBatch_content _ _ _ named, Database.incrementContent, opened]
  cases found : (memory.contents kind).find? key.id with
  | none =>
      obtain ⟨reason, refused⟩ := mirror.addToContent_of_none deltas.toList found
      refine Or.inr ⟨fun next applied => ?_, reason, by rw [refused]; rfl⟩
      obtain ⟨tracker, present, _⟩ := Memory.exists_of_applyBatch_content sameKind applied
      rw [found] at present
      cases present
  | some tracker =>
      obtain ⟨table, same, added⟩ := mirror.addToContent deltas.nodup_toList above found
      have applied (next : Memory) :
          memory.applyBatch key (.of kind.tracker deltas) = .ok next ↔
            ∃ counters, (table.addAll deltas.toList).map (.of kind) = .ok counters ∧
              next = memory.withContents kind
                ((memory.contents kind).insert key.id { tracker with counters := counters }) := by
        rw [← ContentCounters.take_of, ← same]
        exact Memory.applyBatch_content_eq_ok_iff sameKind found
          (by rw [same, ContentCounters.kind_of])
      rcases added with ⟨sums, next, sum, inRows, changed⟩ | ⟨unfit, reason, refused⟩
      · exact Or.inl ⟨_, _, (applied _).mpr ⟨.of kind sums, by rw [sum]; rfl, rfl⟩,
          by rw [inRows]; rfl, mirrors.withContents changed⟩
      · refine Or.inr ⟨fun next taken => ?_, reason, by rw [refused]; rfl⟩
        obtain ⟨counters, sum, _⟩ := (applied next).mp taken
        obtain ⟨sums, fits, _⟩ := Answer.map_eq_ok_iff.mp sum
        exact unfit sums fits

/-- A batch that does not underflow is taken alike. -/
theorem takes (mirrors : Mirrors memory database) {key : Key} {batch : Batch}
    (isKind : batch.kind = key.kind) (kept : ¬ database.Underflows key batch)
    (named : batch.isEmpty = false) : TakesAlike memory database key batch := by
  rcases batch.eq_user_or_content with ⟨deltas, rfl⟩ | ⟨kind, deltas, rfl⟩
  · exact mirrors.takes_user isKind.symm kept named
  · rw [Batch.kind_of] at isKind
    exact mirrors.takes_content isKind.symm kept named

end Mirrors

end Relational

end ActivityLedger

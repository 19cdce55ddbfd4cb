import ActivityLedger.Proofs.DryRuns
import ActivityLedger.Proofs.Relational.Agreement

/-!
# Recordings in tables

The calls of a recording are admitted in tables.  So a database that mirrors a memory
is called alike, is answered alike but for the wording of refusals, and mirrors the
memory afterwards; and what an entry comes to in it is foretold by an empty memory as
well as what the entry comes to in memory.
-/

namespace ActivityLedger

/-! ## Admitted recordings -/

theorem Entry.admitted_of_mem_calls {entry : Entry} {call : StoreCall}
    (member : call ∈ entry.calls) : call.Admitted := by
  obtain ⟨plan, _, sound, template, _, rfl | ⟨updated, rfl⟩⟩ := exists_share_of_mem_calls member
  · trivial
  · have positive : ∀ update ∈ plan.updatesFor template.target, 0 < update.delta.val :=
      fun update listed => sound.positive update (List.mem_of_mem_filter listed)
    have natural : ∀ update ∈ plan.updatesFor template.target, 0 ≤ update.delta.val :=
      fun update listed => Int.le_of_lt (positive update listed)
    refine ⟨natural, fun batch given => ?_⟩
    have made : Batch.ofUpdates (Record.shareOf plan entry.date template).key
        (plan.updatesFor template.target) = .ok batch := Answer.mem_toOption_iff.mp given
    obtain ⟨update, listed⟩ := List.exists_mem_of_ne_nil _ updated
    obtain ⟨planned, here⟩ := List.mem_filter.mp listed
    have isKind : update.counter.kind = template.kind := by
      rw [sound.kinds update planned, of_decide_eq_true here]
      rfl
    exact Batch.isEmpty_of_ofUpdates made natural listed (positive update listed) isKind

/-! ## Answers alike -/

/-- The reports of two refusals are the same, apart from the wording, where the refusals are. -/
theorem Record.unworded_located {own other : Error} (same : own.unworded = other.unworded)
    (key : Key) (applied : List String) :
    (located key applied own).unworded = (located key applied other).unworded := by
  cases own <;> cases other <;> cases same <;> rfl

namespace StoreAnswer

theorem agree_error_iff {error : Error} {other : StoreAnswer} :
    Agree (.error error) other ↔
      ∃ cause, other = .error cause ∧ error.unworded = cause.unworded := by
  cases other with
  | error cause => simp [Agree, Except.mapError]
  | ok value => simp [Agree, Except.mapError]

end StoreAnswer

namespace Relational

open StoreAnswer (Agree)

namespace Mirrors

variable {memory : Memory} {database : Database}

theorem perform_of_changes (mirrors : Mirrors memory database) {call : StoreCall}
    (admitted : call.Admitted) (changes : call.Changes) :
    Agree (Memory.store.perform call memory).1 (Database.store.perform call database).1 ∧
      Mirrors (Memory.store.perform call memory).2 (Database.store.perform call database).2 := by
  obtain ⟨agree, changed⟩ := mirrors.perform admitted
  refine ⟨agree.mpr ?_, changed⟩
  cases call with
  | ensure => exact StoreAnswer.isWhole_created _
  | increment => exact StoreAnswer.isWhole_done _
  | content | user | contentRange | userRange => exact changes.elim

theorem after (mirrors : Mirrors memory database) {calls : List StoreCall}
    (admitted : ∀ call ∈ calls, call.Admitted) (changes : ∀ call ∈ calls, call.Changes) :
    (Memory.store.Accepts calls memory → Database.store.Accepts calls database) ∧
      Mirrors (Memory.store.after calls memory) (Database.store.after calls database) := by
  induction calls generalizing memory database with
  | nil => exact ⟨fun _ => Store.accepts_nil _ _, mirrors⟩
  | cons call rest ih =>
      obtain ⟨admittedFirst, admittedRest⟩ := List.forall_mem_cons.mp admitted
      obtain ⟨changesFirst, changesRest⟩ := List.forall_mem_cons.mp changes
      obtain ⟨agree, changed⟩ := mirrors.perform_of_changes admittedFirst changesFirst
      obtain ⟨accepts, mirrored⟩ := ih changed admittedRest changesRest
      refine ⟨fun accepted => ?_, mirrored⟩
      obtain ⟨⟨value, answered⟩, later⟩ := Store.accepts_cons_iff.mp accepted
      rw [answered] at agree
      exact Store.accepts_cons_iff.mpr
        ⟨⟨value, StoreAnswer.agree_ok_iff.mp agree⟩, accepts later⟩

/-- A commit takes the same course in the database as in memory. -/
theorem course (mirrors : Mirrors memory database) {shares : List Share}
    (admitted : ∀ call ∈ Record.openings shares ++ Record.postings shares, call.Admitted)
    {answer : Except Error (List String)} {made : List StoreCall}
    (course : Record.Course Memory.store shares memory answer made) :
    ∃ other, Record.Course Database.store shares database other made ∧
      answer.mapError Error.unworded = other.mapError Error.unworded := by
  cases course with
  | finished accepted =>
      obtain ⟨accepts, _⟩ := mirrors.after admitted fun _ => Record.changes_of_mem
      exact ⟨_, .finished (accepts accepted), rfl⟩
  | @stopped share applied done call cause stop accepted refused =>
      obtain ⟨changes, last⟩ := stop.changes
      obtain ⟨later, split⟩ := stop.exists_later
      rw [split] at admitted
      obtain ⟨admittedDone, admittedRest⟩ := List.forall_mem_append.mp admitted
      obtain ⟨accepts, mirrored⟩ := mirrors.after admittedDone changes
      obtain ⟨agree, _⟩ :=
        mirrored.perform_of_changes (List.forall_mem_cons.mp admittedRest).1 last
      rw [show (Memory.store.perform call _).1 = .error cause from refused] at agree
      obtain ⟨other, refusedAlike, same⟩ := StoreAnswer.agree_error_iff.mp agree
      refine ⟨_, .stopped stop (accepts accepted) refusedAlike, ?_⟩
      exact congrArg Except.error (Record.unworded_located same share.key applied)

/-- An entry is answered alike in the database and in memory, apart from the wording of refusals,
and the database mirrors the memory afterwards. -/
theorem recordIn (mirrors : Mirrors memory database) (entry : Entry) :
    (entry.recordIn Memory.store memory).1.mapError Error.unworded =
        (entry.recordIn Database.store database).1.mapError Error.unworded ∧
      Mirrors (entry.recordIn Memory.store memory).2
        (entry.recordIn Database.store database).2 := by
  rcases entry.settled_or_counted with ⟨_, answer, same⟩ | ⟨plan, prepared⟩
  · rw [same, same]
    exact ⟨rfl, mirrors⟩
  · have admitted : ∀ call ∈ entry.calls, call.Admitted :=
      fun call member => Entry.admitted_of_mem_calls member
    rw [Entry.calls, prepared] at admitted
    obtain ⟨answer, course, recorded⟩ := Record.record_of_counted prepared Memory.store memory
    obtain ⟨other, courseAlike, alike⟩ := mirrors.course admitted course
    obtain ⟨_, recordedAlike⟩ := courseAlike.record_eq prepared
    obtain ⟨_, mirrored⟩ := mirrors.after (fun call made => admitted call (course.mem made))
      (fun call made => Record.changes_of_mem (course.mem made))
    unfold Entry.recordIn
    rw [recorded, recordedAlike]
    refine ⟨?_, mirrored⟩
    rw [Answer.mapError_map, alike, Answer.mapError_map]

theorem afterEntries (mirrors : Mirrors memory database) (entries : List Entry) :
    Mirrors (Memory.store.afterEntries entries memory)
      (Database.store.afterEntries entries database) := by
  induction entries generalizing memory database with
  | nil => exact mirrors
  | cons entry rest ih => exact ih (mirrors.recordIn entry).2

end Mirrors

/-! ## Counters in rows -/

theorem MirrorDays.exists_dayRow {before : Nat} {days : List (Counters UserCounter)}
    {rows : List DayRow} (mirror : MirrorDays before days rows) {slot : Nat} {day : Small}
    (position : day.val = before + slot + 1) {table : Counters UserCounter}
    (here : days[slot]? = some table) :
    ∃ row, dayRow? day rows = some row ∧ HoldTable row.counters table := by
  induction mirror generalizing slot with
  | nil => cases here
  | @cons before first days row rows number numbered rowPosition hold later ih =>
      cases slot with
      | zero =>
          have same : row.day = Cell.ofSmall day := by
            rw [numbered, Cell.integer_eq_ofSmall_iff]
            omega
          cases here
          exact ⟨row, List.find?_cons_of_pos (by simpa using same), hold⟩
      | succ slot =>
          have different : row.day ≠ Cell.ofSmall day := by
            rw [numbered, Ne, Cell.integer_eq_ofSmall_iff]
            omega
          have skipped : dayRow? day (row :: rows) = dayRow? day rows :=
            List.find?_cons_of_neg (by simpa using different)
          rw [skipped]
          exact ih (by omega) here

namespace Mirrors

variable {memory : Memory} {database : Database}

theorem exists_row_of_contentAmount (mirrors : Mirrors memory database) (kind : ContentKind)
    {id : String} (counter : kind.tracker.Counted)
    (held : memory.contentAmount kind id (.of kind.tracker counter) ≠ 0) :
    ∃ counters n, database.row? (.tracker kind.tracker id) = some counters ∧
      counters.cell? (.of kind.tracker counter) = some (.integer n) ∧
      n.val = memory.contentAmount kind id (.of kind.tracker counter) := by
  obtain ⟨rows, opened, mirror⟩ := mirrors.contents kind
  unfold Memory.contentAmount at held ⊢
  rcases mirror.find? id with ⟨absent, _⟩ | ⟨tracker, row, found, here, rowMirrors⟩
  · rw [absent] at held
    exact absurd rfl held
  · obtain ⟨table, same, hold⟩ := rowMirrors.counters
    rw [found, Database.row?_content, opened, Table.find?, here]
    refine ⟨_, table.get counter, rfl, ?_, ?_⟩
    · rw [RowCounters.cell?_of, hold counter]
    · show (table.get counter).val = tracker.counters.value _
      rw [same, ContentCounters.value_of]

theorem exists_row_of_amountAt (mirrors : Mirrors memory database) {id : String} {counter : Counter}
    (held : memory.amountAt id counter ≠ 0) :
    ∃ counters n, database.row? (.tracker counter.kind id) = some counters ∧
      counters.cell? counter = some (.integer n) ∧ n.val = memory.amountAt id counter := by
  cases counter with
  | user counter =>
      obtain ⟨months, days, users, _, mirror⟩ := mirrors.users
      unfold Memory.amountAt at held ⊢
      rcases mirror.find? id with ⟨absent, _⟩ | ⟨tracker, row, rows, found, here, _, rowMirrors, _⟩
      · rw [absent] at held
        exact absurd rfl held
      · rw [found, Counter.kind, Database.row?_month _ _ users, here]
        exact ⟨.user row.counters, tracker.monthly.get counter, rfl,
          congrArg some (rowMirrors.counters counter), rfl⟩
  | post counter => exact mirrors.exists_row_of_contentAmount .post counter held
  | comment counter => exact mirrors.exists_row_of_contentAmount .comment counter held

theorem exists_row_of_amountOn (mirrors : Mirrors memory database) {id : String} {slot : Nat}
    {day : Small} (position : day.val = slot + 1) {counter : UserCounter}
    (held : memory.amountOn id slot counter ≠ 0) :
    ∃ counters n, database.row? (.day id day) = some counters ∧
      counters.cell? (.user counter) = some (.integer n) ∧
      n.val = memory.amountOn id slot counter := by
  obtain ⟨months, days, _, opened, mirror⟩ := mirrors.users
  unfold Memory.amountOn at held ⊢
  rcases mirror.find? id with ⟨absent, _⟩ | ⟨tracker, row, rows, found, _, listed, _, mirrorDays⟩
  · rw [absent] at held
    exact absurd rfl held
  · rw [found, Option.bind_some] at held ⊢
    cases here : tracker.days[slot]? with
    | none =>
        rw [here] at held
        exact absurd rfl held
    | some table =>
        obtain ⟨dayRow, inRows, hold⟩ := mirrorDays.exists_dayRow
          (show day.val = ((0 : Nat) : Int) + slot + 1 by omega) here
        rw [Database.row?_day _ _ _ opened, listed, Option.getD_some, inRows]
        exact ⟨.user dayRow.counters, table.get counter, rfl, congrArg some (hold counter), rfl⟩

end Mirrors

/-! ## Dry runs -/

/-- An update on a date would take its counter past the greatest amount in one of the rows that it
is for. -/
def Database.Exceeds (database : Database) (date : Date) (update : Update) : Prop :=
  ∃ name ∈ (Key.of update.target.kind update.target.entityId date).rows, ∃ counters n,
    database.row? name = some counters ∧ counters.cell? update.counter = some (.integer n) ∧
      Amount.greatest.val < n.val + update.delta.val

theorem tracker_mem_rows (key : Key) : .tracker key.kind key.id ∈ key.rows := by
  unfold Key.rows
  cases key.kind <;> simp

/-- An update that takes a counter of the memory too far does so in a row. -/
theorem Mirrors.exceeds {memory : Memory} {database : Database} (mirrors : Mirrors memory database)
    {date : Date} {update : Update} (isKind : update.counter.kind = update.target.kind)
    (exceeds : memory.Exceeds date update) : database.Exceeds date update := by
  have most : update.delta.val ≤ Amount.greatest.val := update.delta.le_hi
  unfold Database.Exceeds
  rcases exceeds with whole | day
  · have held : memory.amountAt (Key.idText update.target.kind update.target.entityId date)
        update.counter ≠ 0 := by omega
    obtain ⟨counters, n, row, cell, same⟩ := mirrors.exists_row_of_amountAt held
    rw [isKind] at row
    exact ⟨_, tracker_mem_rows _, counters, n, row, cell, by omega⟩
  · cases counter : update.counter with
    | post | comment => simp [counter] at day
    | user own =>
        rw [counter] at day isKind
        dsimp only at day
        have first := date.one_le_day
        have position : date.dayNumber.val = ((date.day - 1 : Nat) : Int) + 1 := by
          show (date.day : Int) = _
          omega
        have held : memory.amountOn (Key.idText update.target.kind update.target.entityId date)
            (date.day - 1) own ≠ 0 := by omega
        obtain ⟨counters, n, row, cell, same⟩ := mirrors.exists_row_of_amountOn position held
        refine ⟨_, (Key.mem_rows_user_iff isKind.symm).mpr (Or.inr rfl), counters, n, row, cell, ?_⟩
        omega

/-- Every entry is foretold for a database that mirrors a reachable memory. -/
theorem Mirrors.foretold {memory : Memory} {database : Database} (mirrors : Mirrors memory database)
    (reachable : memory.Reachable) (entry : Entry) :
    Foretold Database.store Database.Exceeds entry database := by
  apply Foretold.of_counted
  intro plan shares error prepared refused
  obtain ⟨alike, _⟩ := mirrors.recordIn entry
  rw [refused] at alike
  obtain ⟨_, sound, _⟩ := Record.prepare_eq_counted prepared
  cases answered : (entry.recordIn Memory.store memory).1 with
  | ok outcome =>
      rw [answered] at alike
      cases alike
  | error cause =>
      rw [answered] at alike
      obtain ⟨storage, update, listed, exceeds⟩ := reachable.exceeds_of_refused prepared answered
      refine ⟨?_, update, listed, mirrors.exceeds (sound.kinds update listed) exceeds⟩
      cases cause <;> cases storage
      cases error <;> first | rfl | cases alike

/-- Whatever was recorded before, in memory or in tables: an entry that succeeds there succeeds
with the same outcome when it is tried on an empty memory, one that fails when it is tried fails
there with the same error, and the answers differ only where the store refuses to take one of its
counters past the greatest amount. -/
theorem foretold_afterEntries (history : List Entry) (entry : Entry) :
    Foretold Memory.store Memory.Exceeds entry
        (Memory.store.afterEntries history Memory.empty) ∧
      Foretold Database.store Database.Exceeds entry
        (Database.store.afterEntries history Database.fresh) := by
  have reachable := Memory.Reachable.empty.afterEntries history
  constructor
  · apply Foretold.of_counted
    intro plan shares error prepared refused
    exact reachable.exceeds_of_refused prepared refused
  · exact (mirrors_fresh.afterEntries history).foretold reachable entry

end Relational

end ActivityLedger

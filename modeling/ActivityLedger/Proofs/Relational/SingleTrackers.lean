import ActivityLedger.Proofs.Relational.Integrity
import ActivityLedger.Proofs.Relational.Lookups

/-!
# Trackers on their own

What an increment loses is lost to the tracker at its key.  So the counters of each tracker stay
integers as long as no accepted increment takes one of its own below the least amount, whatever is
added to others.
-/

namespace ActivityLedger.Relational

namespace Database

/-- The counters of a tracker are integers, of its period and of each day. -/
def HoldsIntegers (database : Database) (kind : TrackerKind) (id : String) : Prop :=
  ∀ name, name.IsOf kind id → ∀ counters, database.row? name = some counters →
    counters.AreIntegers

/-- A call does not take a counter of a tracker below the least amount unless it is refused. -/
def SparesTracker (kind : TrackerKind) (id : String) (database : Database) : StoreCall → Prop
  | .increment key updates =>
      key.kind = kind → key.id = id → database.Spares (.increment key updates)
  | _ => True

instance (kind : TrackerKind) (id : String) (database : Database) (call : StoreCall) :
    Decidable (SparesTracker kind id database call) :=
  match call with
  | .increment _ _ => inferInstanceAs (Decidable (_ → _ → _))
  | .ensure .. | .content _ | .user _ | .contentRange .. | .userRange .. => .isTrue trivial

def SparedTracker (kind : TrackerKind) (id : String) : List StoreCall → Database → Prop
  | [], _ => True
  | call :: rest, database =>
      SparesTracker kind id database call ∧
        SparedTracker kind id rest (store.perform call database).2

instance decidableSparedTracker (kind : TrackerKind) (id : String) :
    (calls : List StoreCall) → (database : Database) →
      Decidable (SparedTracker kind id calls database)
  | [], _ => .isTrue trivial
  | call :: rest, database =>
      have := decidableSparedTracker kind id rest (store.perform call database).2
      inferInstanceAs (Decidable (_ ∧ _))

variable {database next : Database} {kind : TrackerKind} {id : String}

theorem spares_iff {call : StoreCall} :
    database.Spares call ↔ ∀ kind id, SparesTracker kind id database call := by
  cases call with
  | increment key updates =>
      exact ⟨fun spared _ _ _ _ => spared, fun each => each key.kind key.id rfl rfl⟩
  | ensure | content | user | contentRange | userRange =>
      exact ⟨fun _ _ _ => trivial, fun _ => trivial⟩

/-- Calls spare all counters where they spare those of each tracker. -/
theorem sparedBy_iff {calls : List StoreCall} :
    SparedBy calls database ↔ ∀ kind id, SparedTracker kind id calls database := by
  induction calls generalizing database with
  | nil => exact ⟨fun _ _ _ => trivial, fun _ => trivial⟩
  | cons call rest ih =>
      rw [SparedBy, spares_iff, ih]
      simp only [SparedTracker, forall_and]

namespace HoldsIntegers

theorem opens (integers : database.HoldsIntegers kind id) {other : TrackerKind} {otherId : String}
    (opened : database.Opens other otherId next) : next.HoldsIntegers kind id := by
  cases opened with
  | nothing => exact integers
  | rows absent zero others =>
      intro name own counters here
      by_cases new : name.IsOf other otherId
      · exact (zero name new counters here).areIntegers
      · rw [others name new] at here
        exact integers name own counters here

/-- A batch that is accepted leaves integers in the rows for its key, if it does not underflow. -/
theorem applyBatch {key : Key} {batch : Batch} (integers : database.HoldsIntegers kind id)
    (isKind : batch.kind = key.kind) (applied : database.applyBatch key batch = .ok next)
    (kept : key.kind = kind → key.id = id → ¬ database.Underflows key batch) :
    next.HoldsIntegers kind id := by
  cases named : batch.isEmpty with
  | true =>
      cases (database.applyBatch_of_isEmpty key named).symm.trans applied
      exact integers
  | false =>
      have adds := adds_of_applyBatch isKind applied
      intro name own counters here
      by_cases member : name ∈ key.rows
      · obtain ⟨sameKind, sameId⟩ := Key.isOf_of_mem_rows member
        obtain ⟨before, found, room⟩ := adds.rooms named name member
        have rowKind : before.kind = batch.kind := (kind_of_mem_rows member found).trans isKind.symm
        have whole := integers name own before found
        rw [adds.rows name member, found] at here
        cases here
        exact RowCounters.areIntegers_add whole rowKind
          ((RowCounters.haveRoom_iff whole rowKind).mp room)
          (le_of_not_underflows (kept (sameKind.symm.trans own.1) (sameId.symm.trans own.2))
            member found)
      · rw [adds.others name member] at here
        exact integers name own counters here

theorem perform {call : StoreCall} (integers : database.HoldsIntegers kind id)
    (spared : SparesTracker kind id database call) :
    (store.perform call database).2.HoldsIntegers kind id := by
  cases call with
  | ensure key template => exact integers.opens (opens_ensure key template database)
  | increment key updates =>
      show (Database.increment key updates database).2.HoldsIntegers kind id
      rcases increment_cases key updates database with
        ⟨batch, next, made, applied, accepted⟩ | ⟨error, refused⟩
      · rw [accepted]
        exact integers.applyBatch (Batch.kind_of_ofUpdates made) applied fun sameKind sameId =>
          not_underflows_of_spares (spared sameKind sameId) made accepted
      · rw [refused]
        exact integers
  | content | user | contentRange | userRange => exact integers

theorem after {calls : List StoreCall} (integers : database.HoldsIntegers kind id)
    (spared : SparedTracker kind id calls database) :
    (store.after calls database).HoldsIntegers kind id := by
  induction calls generalizing database with
  | nil => exact integers
  | cons call rest ih => exact ih (integers.perform spared.1) spared.2

theorem fresh : Database.fresh.HoldsIntegers kind id := by
  rintro (⟨kind, id⟩ | ⟨id, day⟩) _ counters here
  · cases kind <;> cases here
  · cases here

end HoldsIntegers

/-! ## Counters as they are written -/

theorem row?_of_sheet? {sheet : Sheet} (found : database.sheet? kind id = some sheet) :
    database.row? (.tracker kind id) = some sheet.counters := by
  rcases kind.eq_user_or_content with rfl | ⟨content, rfl⟩
  · obtain ⟨row, here, rfl⟩ := Option.map_eq_some_iff.mp found
    rw [row?, here]
    rfl
  · rw [sheet?_content] at found
    obtain ⟨row, here, rfl⟩ := Option.map_eq_some_iff.mp found
    rw [row?_content, here]
    rfl

theorem id_of_sheet? {sheet : Sheet} (found : database.sheet? kind id = some sheet) :
    sheet.identity.id = id := by
  cases kind <;> obtain ⟨row, _, rfl⟩ := Option.map_eq_some_iff.mp found <;> rfl

theorem exists_dayRow? {rows : List DayRow} {count : Nat} (few : count ≤ 31)
    (numbered : rows.map DayRow.day = dayNumbers count) {row : DayRow} (member : row ∈ rows) :
    ∃ day, dayRow? day rows = some row := by
  have length : rows.length = count := by
    rw [← List.length_map DayRow.day, numbered, length_dayNumbers]
  have number (index : Nat) (early : index < rows.length) :
      rows[index].day = Cell.ofSmall (Small.ofNat (index + 1) (by omega)) := by
    have here : (rows.map DayRow.day)[index]? = (dayNumbers count)[index]? := by rw [numbered]
    simp only [List.getElem?_map, dayNumbers, List.getElem?_eq_getElem early,
      List.getElem?_range (length ▸ early), Option.map_some] at here
    exact Option.some.inj here
  obtain ⟨index, early, rfl⟩ := List.getElem_of_mem member
  refine ⟨Small.ofNat (index + 1) (by omega), List.find?_eq_some_iff_getElem.mpr
    ⟨decide_eq_true (number index early), index, early, rfl, fun other before => ?_⟩⟩
  have inRows : other < rows.length := Nat.lt_trans before early
  have different : rows[other].day ≠ Cell.ofSmall (Small.ofNat (index + 1) (by omega)) := by
    rw [number other inRows]
    intro same
    have numbers := congrArg Bounded.val (Cell.ofSmall_injective same)
    simp only [Small.ofNat] at numbers
    omega
  simpa using different

/-- The counters of a tracker are integers as it is written where they are in its rows. -/
theorem HoldsIntegers.areIntegers (integers : database.HoldsIntegers kind id)
    (identified : Identified sheet? database) {sheet : Sheet}
    (found : database.sheet? kind id = some sheet) : sheet.AreIntegers where
  counters := integers _ ⟨rfl, rfl⟩ sheet.counters (row?_of_sheet? found)
  slots := by
    cases kind with
    | post | comment =>
        obtain ⟨row, _, rfl⟩ := Option.map_eq_some_iff.mp found
        exact List.forall_mem_nil _
    | user =>
        obtain ⟨row, _, rfl⟩ := Option.map_eq_some_iff.mp found
        obtain ⟨_, count, few, _, _, numbered⟩ := exists_setUp_of_month identified found
        intro slot member
        obtain ⟨dayRow, listed, rfl⟩ := List.mem_map.mp member
        obtain ⟨day, here⟩ := exists_dayRow? few numbered listed
        refine integers (.day id day) ⟨rfl, rfl⟩ _ ?_
        rw [row?, here]
        rfl

end Database

/-- As long as no accepted increment takes a counter of one tracker below the least amount, all its
counters are integers, increments at its key add exactly or change nothing, and it is looked up as
it is written but for its texts, which are cut, unless it is of a user and has an id that is not
whole.  What is added to other trackers does not matter. -/
theorem countsAt_of_sparedTracker (calls : List StoreCall) (key : Key)
    (spared : Database.SparedTracker key.kind key.id calls Database.fresh) :
    (Database.store.after calls Database.fresh).HoldsIntegers key.kind key.id ∧
      (Database.store.after calls Database.fresh).CountsAt key ∧
        ((key.kind = .user → Text.IsWhole key.id) →
          Database.store.written? key (Database.store.after calls Database.fresh) =
            .ok (((Database.store.after calls Database.fresh).sheet? key.kind key.id).map
              Sheet.cut)) := by
  have integers := Database.HoldsIntegers.fresh.after spared
  have identified := Database.identified_after calls
  refine ⟨integers, Database.countsAt_of_integers fun name member =>
    integers name (Key.isOf_of_mem_rows member), fun whole => ?_⟩
  refine Database.written?_eq_cut (Database.isOpen_after calls) identified
    (fun sheet found => integers.areIntegers identified found) fun isUser sheet found => ?_
  rw [Database.id_of_sheet? found]
  exact whole isUser

/-- The loss of a post's tracker leaves a comment on the same day as it is. -/
example :
    let comment : Key := .of .comment "c1" midFebruary
    let calls := leastViewsCalls ++ [.increment postKey oneViewLess, .ensure comment
      (.comment "c1" "bo"), .increment comment [.comment "c1" .views .greatest]]
    ¬ Database.SparedBy calls Database.fresh ∧
      Database.SparedTracker comment.kind comment.id calls Database.fresh := by
  decide +kernel

end ActivityLedger.Relational

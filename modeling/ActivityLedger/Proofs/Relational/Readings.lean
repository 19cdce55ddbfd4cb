import ActivityLedger.Proofs.Relational.Mirrors

/-!
# What is read from tables

A database that mirrors a memory gives the trackers of the memory, by key or by an
interval of keys, exactly where all texts of these trackers are whole.  Trackers of
content can always be read.  Days are looked up under the id of their month as it is
read, and so a month can be read exactly where it is not shorter than the one that
has this id.
-/

namespace ActivityLedger

namespace Relational

/-! ## Content -/

namespace MirrorContents

variable {kind : ContentKind} {trackers : Shelf ContentTracker}
  {rows : Shelf (ContentRow kind.tracker.Counted)}

/-- A lookup reads the tracker exactly where it is whole. -/
theorem findContent_eq_ok_iff (mirror : MirrorContents kind trackers rows) (id : String) :
    findContent kind id (.rows rows) = .ok (trackers.find? id) ↔
      ∀ tracker ∈ trackers.find? id, tracker.IsWhole := by
  unfold findContent
  rw [Table.open?]
  rcases mirror.find? id with ⟨absent, noRow⟩ | ⟨tracker, row, found, here, mirrors⟩
  · simp [absent, noRow]
  · simp only [found, here, Answer.map_eq_ok_iff, Option.some.injEq, exists_eq_right,
      Option.mem_def, forall_eq']
    exact readContent_eq_ok_iff mirrors

theorem scanContent_eq_ok_iff (mirror : MirrorContents kind trackers rows)
    (contentId first last : String) :
    scanContent kind contentId first last (.rows rows) =
        .ok ((trackers.range first last).filter fun tracker => tracker.contentId = contentId) ↔
      ∀ tracker ∈ (trackers.range first last).filter fun tracker => tracker.contentId = contentId,
        tracker.IsWhole := by
  have selected := Shelf.Related.range mirror first last
    (fun tracker => tracker.contentId = contentId)
    (fun row => row.contentId = contentId) fun id tracker row mirrors => by
      rw [mirrors.contentId]
  exact Answer.mapM_eq_ok_iff_forall selected fun tracker entry mirrors =>
    readContent_eq_ok_iff mirrors

theorem exists_findContent (mirror : MirrorContents kind trackers rows) (id : String) :
    ∃ tracker, findContent kind id (.rows rows) = .ok tracker := by
  simp only [findContent, Table.open?]
  cases here : rows.find? id with
  | none => exact ⟨none, rfl⟩
  | some row =>
      obtain ⟨tracker, _, mirrors⟩ := Shelf.Related.exists_of_find? mirror here
      exact ⟨some tracker.cut, Answer.map_eq_ok_iff.mpr ⟨_, readContent_eq_cut mirrors, rfl⟩⟩

theorem exists_scanContent (mirror : MirrorContents kind trackers rows)
    (contentId first last : String) :
    ∃ found, scanContent kind contentId first last (.rows rows) = .ok found := by
  refine Answer.exists_mapM_eq_ok_iff.mpr ?_
  rintro ⟨id, row⟩ member
  have selected := List.mem_of_mem_filter member
  obtain ⟨here, _⟩ := (Shelf.mem_between_iff rows first last id row).mp selected
  obtain ⟨tracker, _, mirrors⟩ := Shelf.Related.exists_of_find? mirror here
  exact ⟨tracker.cut, readContent_eq_cut mirrors⟩

end MirrorContents

/-! ## Users -/

/-- The month whose id is a given one as it is read is not longer than the month with that id. -/
def Database.LongEnough (database : Database) (id : String) : Prop :=
  ∀ row ∈ database.users.find? id, ∀ other ∈ database.users.find? (Cell.readText id),
    ∀ days more, row.daysInMonth = .integer days → other.daysInMonth = .integer more →
      more.val ≤ days.val

/-- The month with a whole id is long enough, being the one that has the id as it is read. -/
theorem Database.longEnough_of_isWhole (database : Database) {id : String}
    (whole : Text.IsWhole id) : database.LongEnough id := by
  intro row here other there days more ofRow ofOther
  rw [(Cell.readText_eq_iff id).mpr whole] at there
  cases (Option.mem_def.mp here).symm.trans there
  cases ofRow.symm.trans ofOther
  exact le_rfl

namespace MirrorUsers

variable {trackers : Shelf UserTracker} {months : Shelf UserRow} {days : Shelf (List DayRow)}
  {database : Database}

theorem both (mirror : MirrorUsers trackers months days) :
    Shelf.Related (fun id tracker row => UserRow.Mirrors id tracker row ∧
      ∃ rows, days.find? id = some rows ∧ MirrorDays 0 tracker.days rows) trackers months := by
  have known : ∀ entry ∈ trackers.entries,
      ∃ rows, days.find? entry.1 = some rows ∧ MirrorDays 0 entry.2.days rows :=
    fun entry member => mirror.days entry.1 entry.2
      ((Shelf.find?_eq_some_iff_mem trackers entry.1 entry.2).mpr member)
  refine ((List.forall₂_and_left _ _).mpr ⟨known, mirror.months⟩).imp ?_
  rintro entry other ⟨listed, same, mirrors⟩
  exact ⟨same, mirrors, listed⟩

theorem user?_eq_ok_iff (mirror : MirrorUsers trackers months days)
    (users : database.users = .rows months) (opened : database.days = .rows days) {key : Key}
    (isUser : key.checkUser = .ok ()) :
    database.user? key = .ok (trackers.find? key.id) ↔
      ∀ tracker ∈ trackers.find? key.id, tracker.IsWhole := by
  rcases mirror.find? key.id with
    ⟨absent, noRow⟩ | ⟨tracker, row, rows, found, here, listed, mirrors, mirrorDays⟩
  · rw [absent, Database.user?_of_none isUser users noRow]
    exact iff_of_true rfl fun _ there => by cases there
  · rw [found, Database.user?_of_some isUser users here, Answer.map_eq_ok_iff]
    simp only [Option.some.injEq, exists_eq_right, Option.mem_def, forall_eq']
    exact readUser_eq_ok_iff opened mirrors (by rw [listed]; rfl) mirrorDays

theorem userRange_eq_ok_iff (mirror : MirrorUsers trackers months days)
    (users : database.users = .rows months) (opened : database.days = .rows days)
    {userId : String} {first last : Key}
    (checked : Key.checkRange .user userId first last = .ok ()) :
    database.userRange userId first last =
        .ok ((trackers.range first.id last.id).filter fun tracker => tracker.userId = userId) ↔
      ∀ tracker ∈ (trackers.range first.id last.id).filter fun tracker =>
        tracker.userId = userId, tracker.IsWhole := by
  unfold Database.userRange
  rw [checked, users]
  have selected := Shelf.Related.range mirror.both first.id last.id
    (fun tracker => tracker.userId = userId)
    (fun row => row.userId = userId) fun id tracker row mirrors => by
      rw [mirrors.1.userId]
  refine Answer.mapM_mapM_eq_ok_iff.trans (Answer.mapM_eq_ok_iff_forall selected ?_)
  rintro tracker entry ⟨mirrors, rows, listed, mirrorDays⟩
  exact readUser_eq_ok_iff opened mirrors (by rw [listed]; rfl) mirrorDays

theorem daysInMonth_eq_integer_iff {id : String} {tracker : UserTracker} {row : UserRow}
    (mirrors : row.Mirrors id tracker) {days : Amount} :
    row.daysInMonth = .integer days ↔ days.val = tracker.days.length := by
  have natural := tracker.daysInMonth.lo_le
  rw [mirrors.daysInMonth, eq_comm, Cell.integer_eq_ofSmall_iff, mirrors.length, Small.toNat]
  omega

/-- A month is long enough exactly where its tracker has as many days as the one with its id as
it is read. -/
theorem longEnough_iff (mirror : MirrorUsers trackers months days)
    (users : database.users = .rows months) {id : String} {tracker : UserTracker} {row : UserRow}
    (here : months.find? id = some row) (mirrors : row.Mirrors id tracker) :
    database.LongEnough id ↔
      ∀ other ∈ trackers.find? (Cell.readText id), other.days.length ≤ tracker.days.length := by
  have inTable (id : String) : database.users.find? id = months.find? id := by
    rw [users]
    rfl
  simp only [Database.LongEnough, inTable, here, Option.mem_def, Option.some.injEq, forall_eq']
  rcases mirror.find? (Cell.readText id) with
    ⟨absent, noRow⟩ | ⟨other, otherRow, _, found, there, _, otherMirrors, _⟩
  · simp [absent, noRow]
  · simp only [found, there, Option.some.injEq, forall_eq',
      daysInMonth_eq_integer_iff mirrors, daysInMonth_eq_integer_iff otherMirrors]
    have few := mirrors.few
    have otherFew := otherMirrors.few
    constructor
    · intro enough
      have shorter := enough ⟨tracker.days.length, by omega, by omega⟩
        ⟨other.days.length, by omega, by omega⟩ rfl rfl
      exact Int.ofNat_le.mp shorter
    · intro shorter days more ofRow ofOther
      omega

/-- The tracker in a row can be read exactly where its month is long enough. -/
theorem exists_readUser_iff (mirror : MirrorUsers trackers months days)
    (users : database.users = .rows months) (opened : database.days = .rows days) {id : String}
    {row : UserRow} (here : months.find? id = some row) :
    (∃ read, readUser database id row = .ok read) ↔ database.LongEnough id := by
  obtain ⟨tracker, _, mirrors⟩ := mirror.months.exists_of_find? here
  rw [mirror.longEnough_iff users here mirrors, readUser, readMonth_eq_ok mirrors]
  simp only [Except.bind, Database.readSlots, opened, Table.open?, UserTracker.cut, mirrors.id]
  refine Answer.exists_bind_ok_eq_ok_iff.trans ?_
  rcases mirror.find? (Cell.readText id) with
    ⟨absent, _⟩ | ⟨other, _, rows, found, _, listed, otherMirrors, mirrorDays⟩
  · have noDays : days.find? (Cell.readText id) = none := by
      cases listed : days.find? (Cell.readText id) with
      | none => rfl
      | some rows =>
          obtain ⟨other, found⟩ := mirror.known _ rows listed
          cases absent.symm.trans found
    rw [noDays, absent]
    exact iff_of_true ⟨_, rfl⟩ fun _ there => by cases there
  · have few : 0 + other.days.length ≤ 31 := by
      rw [Nat.zero_add]
      exact otherMirrors.few
    rw [listed, found, Option.getD_some, mirrorDays.exists_fillSlots_iff _ _ _ few,
      List.length_replicate]
    simp only [Option.mem_def, Option.some.injEq, forall_eq', Nat.zero_add]
    constructor
    · exact fun slots => Nat.not_lt.mp fun longer => Nat.lt_irrefl _ (slots _ longer)
    · exact fun shorter index early => Nat.lt_of_lt_of_le early shorter

/-- A lookup gives an answer exactly where the month at the key, if any, is long enough. -/
theorem exists_user?_iff (mirror : MirrorUsers trackers months days)
    (users : database.users = .rows months) (opened : database.days = .rows days) {key : Key}
    (isUser : key.checkUser = .ok ()) :
    (∃ read, database.user? key = .ok read) ↔ database.LongEnough key.id := by
  cases here : months.find? key.id with
  | none =>
      rw [Database.user?_of_none isUser users here]
      refine iff_of_true ⟨none, rfl⟩ fun row there => ?_
      rw [users] at there
      cases here.symm.trans there
  | some row =>
      rw [← mirror.exists_readUser_iff users opened here, Database.user?_of_some isUser users here]
      cases readUser database key.id row <;> simp [Except.map]

theorem exists_userRange_iff (mirror : MirrorUsers trackers months days)
    (users : database.users = .rows months) (opened : database.days = .rows days)
    {userId : String} {first last : Key}
    (checked : Key.checkRange .user userId first last = .ok ()) :
    (∃ read, database.userRange userId first last = .ok read) ↔
      ∀ id row, database.users.find? id = some row → row.userId = userId →
        ¬ Text.precedes id first.id → ¬ Text.precedes last.id id → database.LongEnough id := by
  unfold Database.userRange
  rw [checked, users]
  refine (exists_congr fun _ => Answer.mapM_mapM_eq_ok_iff).trans ?_
  refine Answer.exists_mapM_eq_ok_iff.trans ?_
  constructor
  · intro each id row here owned lower upper
    have selected : (id, row) ∈ (months.between first.id last.id).filter fun entry =>
        entry.2.userId = userId :=
      List.mem_filter.mpr ⟨(Shelf.mem_between_iff ..).mpr ⟨here, lower, upper⟩,
        decide_eq_true owned⟩
    exact (mirror.exists_readUser_iff users opened here).mp (each (id, row) selected)
  · rintro enough ⟨id, row⟩ selected
    obtain ⟨between, owned⟩ := List.mem_filter.mp selected
    obtain ⟨here, lower, upper⟩ := (Shelf.mem_between_iff ..).mp between
    exact (mirror.exists_readUser_iff users opened here).mpr
      (enough id row here (of_decide_eq_true owned) lower upper)

end MirrorUsers

end Relational

end ActivityLedger

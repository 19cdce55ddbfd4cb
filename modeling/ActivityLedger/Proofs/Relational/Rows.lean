import ActivityLedger.Proofs.Relational.Cells
import ActivityLedger.Proofs.StoredDates
import Mathlib.Data.List.TakeWhile

/-!
# Rows of trackers

The rows that stand for a tracker, and what is read from them.  A text is read up to
its first character of code zero, so a tracker is read back as it is exactly where its
texts have no such character.
-/

namespace ActivityLedger

/-- A text without a character of code zero. -/
def Text.IsWhole (text : String) : Prop := '\x00' ∉ text.toList

instance (text : String) : Decidable (Text.IsWhole text) := inferInstanceAs (Decidable (_ ∉ _))

namespace Relational

theorem Cell.readText_eq_iff (text : String) : readText text = text ↔ Text.IsWhole text := by
  have cut : readText text = text ↔ text.toList.takeWhile (· ≠ '\x00') = text.toList := by
    rw [← String.toList_inj, readText, String.toList_ofList]
  rw [cut, List.takeWhile_eq_self_iff, Text.IsWhole]
  constructor
  · intro every member
    simpa using every _ member
  · intro whole c member
    simpa using fun same : c = '\x00' => whole (same ▸ member)

theorem Cell.isWhole_readText (text : String) : Text.IsWhole (readText text) := by
  rw [Text.IsWhole, readText, String.toList_ofList]
  intro member
  simpa using List.mem_takeWhile_imp member

theorem readDay_text (date : Date) : readDay date.text = .ok date := by
  have whole : Cell.readText date.text = date.text :=
    (Cell.readText_eq_iff _).mpr date.zero_notMem_text
  rw [readDay, whole, Date.ofStored_text]

theorem readSmall_ofSmall (n : Small) : readSmall (Cell.ofSmall n) = .ok n := by
  have lower := n.lo_le
  have upper := n.le_hi
  have same := val_wrap (n := n.val) (by omega) (by omega)
  refine congrArg Except.ok (Bounded.ext ?_)
  show (Amount.wrap n.val).val % 4294967296 = n.val
  omega

end Relational

/-! ## Trackers of content -/

namespace ContentTracker

def IsWhole (tracker : ContentTracker) : Prop :=
  Text.IsWhole tracker.id ∧ Text.IsWhole tracker.contentId ∧ Text.IsWhole tracker.ownerId

def cut (tracker : ContentTracker) : ContentTracker :=
  { tracker with
    id := Relational.Cell.readText tracker.id
    contentId := Relational.Cell.readText tracker.contentId
    ownerId := Relational.Cell.readText tracker.ownerId }

theorem cut_eq_iff (tracker : ContentTracker) : tracker.cut = tracker ↔ tracker.IsWhole := by
  cases tracker
  simp [cut, IsWhole, Relational.Cell.readText_eq_iff]

end ContentTracker

namespace Relational

/-- A row stands for a tracker of content. -/
structure ContentRow.Mirrors (kind : ContentKind) (id : String) (tracker : ContentTracker)
    (row : ContentRow kind.tracker.Counted) : Prop where
  id : tracker.id = id
  isKind : tracker.kind = kind
  contentId : row.contentId = tracker.contentId
  authorId : row.authorId = tracker.ownerId
  day : row.day = tracker.day.text
  counters : ∃ table, tracker.counters = .of kind table ∧ HoldTable row.counters table

section

variable {kind : ContentKind} {id : String} {tracker : ContentTracker}
  {row : ContentRow kind.tracker.Counted}

theorem readContent_eq_cut (mirrors : row.Mirrors kind id tracker) :
    readContent kind id row = .ok tracker.cut := by
  obtain ⟨table, sameTable, hold⟩ := mirrors.counters
  rw [readContent, readCells_eq_ok hold, mirrors.day, readDay_text, mirrors.contentId,
    mirrors.authorId, ← mirrors.id]
  simp only [bind, Except.bind, ← sameTable]
  rw [ContentTracker.cut, mirrors.isKind]
  rfl

theorem isWhole_of_readContent (read : readContent kind id row = .ok tracker) :
    tracker.IsWhole := by
  obtain ⟨amounts, _, afterCells⟩ := Answer.bind_eq_ok_iff.mp read
  obtain ⟨day, _, built⟩ := Answer.bind_eq_ok_iff.mp afterCells
  cases built
  exact ⟨Cell.isWhole_readText _, Cell.isWhole_readText _, Cell.isWhole_readText _⟩

theorem readContent_eq_ok_iff (mirrors : row.Mirrors kind id tracker) :
    readContent kind id row = .ok tracker ↔ tracker.IsWhole := by
  rw [readContent_eq_cut mirrors, Except.ok.injEq, tracker.cut_eq_iff]

end

theorem Database.content?_of_some {database : Database} {key : Key} {kind : ContentKind}
    {rows : Shelf (ContentRow kind.tracker.Counted)} (isKind : key.contentKind = .ok kind)
    (opened : database.contents kind = .rows rows) {row : ContentRow kind.tracker.Counted}
    (here : rows.find? key.id = some row) :
    database.content? key = (readContent kind key.id row).map some := by
  simp only [content?, isKind, bind, Except.bind, findContent, opened, Table.open?, here]

theorem Database.content?_of_none {database : Database} {key : Key} {kind : ContentKind}
    {rows : Shelf (ContentRow kind.tracker.Counted)} (isKind : key.contentKind = .ok kind)
    (opened : database.contents kind = .rows rows) (absent : rows.find? key.id = none) :
    database.content? key = .ok none := by
  simp only [content?, isKind, bind, Except.bind, findContent, opened, Table.open?, absent]

/-! ## Days of a month -/

/-- Rows stand for the days of a month from one on that has a number of days before it. -/
inductive MirrorDays : Nat → List (Counters UserCounter) → List DayRow → Prop where
  | nil (before : Nat) : MirrorDays before [] []
  | cons {before : Nat} {day : Counters UserCounter} {days : List (Counters UserCounter)}
      {row : DayRow} {rows : List DayRow} (number : Amount) (numbered : row.day = .integer number)
      (position : number.val = before + 1) (hold : HoldTable row.counters day)
      (later : MirrorDays (before + 1) days rows) :
      MirrorDays before (day :: days) (row :: rows)

namespace MirrorDays

theorem zero {count before : Nat} (few : before + count ≤ 31) {row : Nat → DayRow}
    (numbered : ∀ index,
      (row index).day = .integer (Amount.wrap ((before + index : Nat) + 1)))
    (blank : ∀ index, (row index).counters = zeroCells) :
    MirrorDays before (List.replicate count Counters.zero) ((List.range count).map row) := by
  induction count generalizing before row with
  | zero => exact .nil before
  | succ count ih =>
      rw [List.replicate_succ, List.range_succ_eq_map, List.map_cons, List.map_map]
      refine .cons _ (numbered 0) ?_ ?_ (ih (by omega) ?_ fun index => blank (index + 1))
      · rw [val_wrap (by omega) (by omega)]
        simp
      · rw [blank]
        exact holdTable_zero
      · intro index
        have shift : before + 1 + index = before + (index + 1) := by omega
        rw [shift]
        exact numbered (index + 1)

variable {before : Nat} {days : List (Counters UserCounter)} {rows : List DayRow}
  {deltas : List (UserCounter × Amount)}

theorem day_ne (mirror : MirrorDays before days rows) {day : Small} (early : day.val ≤ before) :
    ∀ row ∈ rows, row.day ≠ Cell.ofSmall day := by
  induction mirror with
  | nil => simp
  | cons number numbered position hold later ih =>
      refine List.forall_mem_cons.mpr ⟨?_, ih (by omega)⟩
      rw [numbered, Ne, Cell.integer_eq_ofSmall_iff]
      omega

theorem addToDay?_of_ne {row : DayRow} {day : Small} (different : row.day ≠ Cell.ofSmall day) :
    addToDay? day deltas (row :: rows) = (addToDay? day deltas rows).map (row :: ·) := by
  have skipped : ((row :: rows).find? fun other => other.day = Cell.ofSmall day) =
      rows.find? fun other => other.day = Cell.ofSmall day :=
    List.find?_cons_of_neg (by simpa using different)
  simp only [addToDay?, skipped]
  cases rows.find? fun other => other.day = Cell.ofSmall day with
  | none => rfl
  | some found =>
      by_cases room : haveRoom found.counters deltas = true <;> simp [room, different]

theorem addToDay?_self {row : DayRow} {day : Small} (same : row.day = Cell.ofSmall day)
    (others : ∀ other ∈ rows, other.day ≠ Cell.ofSmall day) :
    addToDay? day deltas (row :: rows) =
      if haveRoom row.counters deltas then
        some ({ row with counters := addCells row.counters deltas } :: rows)
      else none := by
  have unchanged : (rows.map fun other =>
      if other.day = Cell.ofSmall day then
        { other with counters := addCells other.counters deltas }
      else other) = rows := by
    rw [List.map_congr_left fun other member => if_neg (others other member), List.map_id']
  have found : ((row :: rows).find? fun other => other.day = Cell.ofSmall day) = some row :=
    List.find?_cons_of_pos (by simpa using same)
  simp only [addToDay?, found, List.map_cons, unchanged, if_pos same]

/-- Amounts are added to the row of a day exactly where they can be added to the day. -/
theorem add (mirror : MirrorDays before days rows) (distinct : (deltas.map Prod.fst).Nodup)
    {day : Small} (above : ∀ row, (rows.find? fun row => row.day = Cell.ofSmall day) = some row →
      StayAbove row.counters deltas) {slot : Nat} (position : day.val = before + slot + 1) :
    (∀ old next, days[slot]? = some old → old.addAll deltas = .ok next →
      ∃ changed, addToDay? day deltas rows = some changed ∧
        MirrorDays before (days.set slot next) changed) ∧
    ((∀ old next, days[slot]? = some old → old.addAll deltas ≠ .ok next) →
      addToDay? day deltas rows = none) := by
  induction mirror generalizing slot with
  | nil => exact ⟨nofun, fun _ => rfl⟩
  | @cons before first days row rows number numbered rowPosition hold later ih =>
      cases slot with
      | zero =>
          have same : row.day = Cell.ofSmall day := by
            rw [numbered, Cell.integer_eq_ofSmall_iff]
            omega
          have room := haveRoom_iff hold distinct
            (above row (List.find?_cons_of_pos (by simpa using same)))
          rw [addToDay?_self same (later.day_ne (by omega))]
          constructor
          · rintro old next ⟨⟩ added
            rw [if_pos (room.mpr ⟨next, added⟩)]
            exact ⟨_, rfl, .cons number numbered rowPosition
              (holdTable_addCells hold distinct added) later⟩
          · intro unfit
            refine if_neg fun fits => ?_
            obtain ⟨next, added⟩ := room.mp fits
            exact unfit first next rfl added
      | succ slot =>
          have different : row.day ≠ Cell.ofSmall day := by
            rw [numbered, Ne, Cell.integer_eq_ofSmall_iff]
            omega
          have aboveRest : ∀ row, (rows.find? fun row => row.day = Cell.ofSmall day) = some row →
              StayAbove row.counters deltas := fun other found =>
            above other ((List.find?_cons_of_neg (by simpa using different)).trans found)
          obtain ⟨fitting, unfitting⟩ := @ih aboveRest slot (by omega)
          rw [addToDay?_of_ne different]
          constructor
          · intro old next here added
            obtain ⟨changed, inRest, mirrored⟩ := fitting old next here added
            exact ⟨row :: changed, by rw [inRest]; rfl,
              .cons number numbered rowPosition hold mirrored⟩
          · intro unfit
            rw [unfitting unfit]
            rfl

theorem addToDay?_of_zero (mirror : MirrorDays before days rows) {day : Small}
    (early : day.val ≤ before) : addToDay? day deltas rows = none := by
  have absent : (rows.find? fun row => row.day = Cell.ofSmall day) = none :=
    List.find?_eq_none.mpr fun row member => by simpa using mirror.day_ne early row member
  simp only [addToDay?, absent]

theorem fillSlots_cons {row : DayRow} {number : Amount} {first : Counters UserCounter}
    (numbered : row.day = .integer number) (position : number.val = before + 1)
    (few : before + 1 ≤ 31) (hold : HoldTable row.counters first) (id : String)
    (daysInMonth : Small) (slots : List (Counters UserCounter)) (rows : List DayRow) :
    fillSlots id daysInMonth slots (row :: rows) =
      if before < slots.length then fillSlots id daysInMonth (slots.set before first) rows
      else .error (.database
        s!"Tracker {id} has day slot {number.val} beyond its {daysInMonth.val} days") := by
  have day : readSmall row.day = .ok (Small.ofNat (before + 1) (by omega)) := by
    rw [numbered]
    refine congrArg Except.ok (Bounded.ext ?_)
    show number.val % 4294967296 = ((before + 1 : Nat) : Int)
    omega
  have same : (Small.ofNat (before + 1) (by omega)).val = number.val := by
    rw [position]
    rfl
  have within : number.val ≤ slots.length ↔ before < slots.length := by omega
  rw [fillSlots, day, readCells_eq_ok hold]
  simp only [bind, Except.bind, same, within]
  rfl

theorem fillSlots_eq_ok (mirror : MirrorDays before days rows) (id : String) (daysInMonth : Small)
    {filled blank : List (Counters UserCounter)} (length : filled.length = before)
    (same : blank.length = days.length) (few : before + days.length ≤ 31) :
    fillSlots id daysInMonth (filled ++ blank) rows = .ok (filled ++ days) := by
  induction mirror generalizing filled blank with
  | nil =>
      have nothing : blank = [] := List.eq_nil_of_length_eq_zero same
      rw [nothing]
      rfl
  | @cons before first days row rows number numbered position hold later ih =>
      cases blank with
      | nil => cases same
      | cons slot rest =>
          rw [List.length_cons] at few
          have within : before < (filled ++ slot :: rest).length := by
            simp only [List.length_append, List.length_cons]
            omega
          have filledNext : (filled ++ slot :: rest).set before first =
              (filled ++ [first]) ++ rest := by
            rw [← length]
            simp
          have others := @ih (filled ++ [first]) rest (by simp [length]) (by simpa using same)
            (by omega)
          rw [fillSlots_cons numbered position (by omega) hold, if_pos within, filledNext, others]
          simp

/-- Rows can be filled into slots exactly where there is one for each of their days. -/
theorem exists_fillSlots_iff (mirror : MirrorDays before days rows) (id : String)
    (daysInMonth : Small) (slots : List (Counters UserCounter)) (few : before + days.length ≤ 31) :
    (∃ filled, fillSlots id daysInMonth slots rows = .ok filled) ↔
      ∀ index < days.length, before + index < slots.length := by
  induction mirror generalizing slots with
  | nil => exact ⟨fun _ index early => absurd early (Nat.not_lt_zero index), fun _ => ⟨slots, rfl⟩⟩
  | @cons before first days row rows number numbered position hold later ih =>
      rw [List.length_cons] at few
      rw [fillSlots_cons numbered position (by omega) hold]
      by_cases within : before < slots.length
      · rw [if_pos within, ih _ (by omega), List.length_set]
        constructor
        · intro later index early
          cases index with
          | zero => exact within
          | succ index =>
              have next := later index (Nat.lt_of_succ_lt_succ early)
              omega
        · intro all index early
          have next := all (index + 1) (Nat.succ_lt_succ early)
          omega
      · rw [if_neg within]
        refine iff_of_false (fun ⟨_, filled⟩ => by cases filled) fun all => within ?_
        exact all 0 (Nat.succ_pos _)

end MirrorDays

/-! ## Trackers of users -/

/-- A row stands for the month of a user, apart from its days. -/
structure UserRow.Mirrors (id : String) (tracker : UserTracker) (row : UserRow) : Prop where
  id : tracker.id = id
  userId : row.userId = tracker.userId
  month : row.month = tracker.month.text
  daysInMonth : row.daysInMonth = Cell.ofSmall tracker.daysInMonth
  counters : HoldTable row.counters tracker.monthly
  length : tracker.days.length = tracker.daysInMonth.toNat
  few : tracker.days.length ≤ 31

end Relational

namespace UserTracker

def IsWhole (tracker : UserTracker) : Prop :=
  Text.IsWhole tracker.id ∧ Text.IsWhole tracker.userId

def cut (tracker : UserTracker) : UserTracker :=
  { tracker with
    id := Relational.Cell.readText tracker.id
    userId := Relational.Cell.readText tracker.userId }

theorem cut_eq_iff (tracker : UserTracker) : tracker.cut = tracker ↔ tracker.IsWhole := by
  cases tracker
  simp [cut, IsWhole, Relational.Cell.readText_eq_iff]

end UserTracker

namespace Relational

theorem readMonth_eq_ok {id : String} {tracker : UserTracker} {row : UserRow}
    (mirrors : row.Mirrors id tracker) :
    readMonth id row =
      .ok { tracker.cut with days := List.replicate tracker.days.length Counters.zero } := by
  rw [readMonth, mirrors.month, readDay_text, mirrors.daysInMonth, readSmall_ofSmall,
    readCells_eq_ok mirrors.counters, mirrors.userId, ← mirrors.id]
  simp only [bind, Except.bind, mirrors.length]
  rfl

/-- What is read from the row of a month has its amounts, and its texts up to the first character
of code zero. -/
theorem of_readMonth {id : String} {row : UserRow} {tracker : UserTracker}
    (read : readMonth id row = .ok tracker) :
    tracker.id = Cell.readText id ∧ tracker.userId = Cell.readText row.userId ∧
      HoldTable row.counters tracker.monthly := by
  obtain ⟨month, _, afterMonth⟩ := Answer.bind_eq_ok_iff.mp read
  obtain ⟨count, _, afterCount⟩ := Answer.bind_eq_ok_iff.mp afterMonth
  obtain ⟨amounts, cells, built⟩ := Answer.bind_eq_ok_iff.mp afterCount
  cases built
  exact ⟨rfl, rfl, (readCells_eq_ok_iff 4).mp cells⟩

/-- The tracker that is read from a row of a month, with its slots filled in. -/
def readUser (database : Database) (id : String) (row : UserRow) : Except Error UserTracker :=
  (readMonth id row).bind database.readSlots

section

variable {database : Database} {days : Shelf (List DayRow)} {id : String} {tracker : UserTracker}
  {row : UserRow} {rows : List DayRow}

/-- A month and its days are read with the texts of the month cut, if it has the id under which
its days are looked up. -/
theorem readUser_eq_cut (opened : database.days = .rows days) (mirrors : row.Mirrors id tracker)
    (listed : (days.find? id).getD [] = rows) (mirrorDays : MirrorDays 0 tracker.days rows)
    (whole : Text.IsWhole id) : readUser database id row = .ok tracker.cut := by
  have sameId : Cell.readText tracker.id = id := by
    rw [mirrors.id, Cell.readText_eq_iff]
    exact whole
  have few := mirrors.few
  have filled : fillSlots id tracker.daysInMonth
      ([] ++ List.replicate tracker.days.length Counters.zero) rows = .ok ([] ++ tracker.days) :=
    mirrorDays.fillSlots_eq_ok _ _ rfl List.length_replicate (by omega)
  rw [List.nil_append, List.nil_append] at filled
  rw [readUser, readMonth_eq_ok mirrors]
  simp only [Except.bind, Database.readSlots, opened, Table.open?, UserTracker.cut, sameId, listed]
  rw [filled]
  rfl

theorem isWhole_of_readUser (read : readUser database id row = .ok tracker) :
    tracker.IsWhole := by
  obtain ⟨month, inRow, filled⟩ := Answer.bind_eq_ok_iff.mp read
  obtain ⟨sameId, sameUser, _⟩ := of_readMonth inRow
  have whole : month.IsWhole := by
    rw [UserTracker.IsWhole, sameId, sameUser]
    exact ⟨Cell.isWhole_readText id, Cell.isWhole_readText row.userId⟩
  unfold Database.readSlots at filled
  split at filled
  · cases filled
  · obtain ⟨slots, _, shown⟩ := Answer.bind_eq_ok_iff.mp filled
    cases shown
    exact whole

theorem readUser_eq_ok_iff (opened : database.days = .rows days) (mirrors : row.Mirrors id tracker)
    (listed : (days.find? id).getD [] = rows) (mirrorDays : MirrorDays 0 tracker.days rows) :
    readUser database id row = .ok tracker ↔ tracker.IsWhole := by
  refine ⟨isWhole_of_readUser, fun whole => ?_⟩
  rw [readUser_eq_cut opened mirrors listed mirrorDays (mirrors.id ▸ whole.1),
    tracker.cut_eq_iff.mpr whole]

end

theorem Database.user?_of_some {database : Database} {months : Shelf UserRow} {key : Key}
    (isUser : key.checkUser = .ok ()) (users : database.users = .rows months) {row : UserRow}
    (here : months.find? key.id = some row) :
    database.user? key = (readUser database key.id row).map some := by
  rw [user?, isUser, users]
  simp only [bind, Except.bind, Table.open?, here, readUser]
  cases readMonth key.id row with
  | error error => rfl
  | ok month => cases slots : database.readSlots month <;> simp [slots, Except.map, pure, Except.pure]

theorem Database.user?_of_none {database : Database} {months : Shelf UserRow} {key : Key}
    (isUser : key.checkUser = .ok ()) (users : database.users = .rows months)
    (absent : months.find? key.id = none) : database.user? key = .ok none := by
  rw [user?, isUser, users]
  simp only [bind, Except.bind, Table.open?, absent]
  rfl

end Relational

end ActivityLedger

import ActivityLedger.Proofs.Relational.Agreement

/-!
# Counters that stay integers

Calls on a new database keep every counter an integer as long as no accepted increment takes a
counter below the least amount.  Then an increment that would take one above the greatest
amount is refused and changes nothing, every other one adds exactly, and the trackers
can be read.  An increment below the least amount is accepted: it leaves a cell
that is no integer, and its tracker can no longer be read.
-/

namespace ActivityLedger

theorem Key.kind_of_contentKind {key : Key} {kind : ContentKind}
    (isKind : key.contentKind = .ok kind) : key.kind = kind.tracker := by
  unfold contentKind at isKind
  split at isKind
  · rename_i isPost
    cases isKind
    exact isPost
  · rename_i isComment
    cases isKind
    exact isComment
  · cases isKind

theorem Key.checkUser_eq_ok_iff {key : Key} : key.checkUser = .ok () ↔ key.kind = .user := by
  simp [checkUser]

namespace Relational

/-! ## What is read is made of integers -/

theorem holdTable_of_findContent {kind : ContentKind} {id : String}
    {table : Table (ContentRow kind.tracker.Counted)} {result : Option ContentTracker}
    (read : findContent kind id table = .ok result) {row : ContentRow kind.tracker.Counted}
    (found : table.find? id = some row) : ∃ amounts, HoldTable row.counters amounts := by
  cases table with
  | missing => cases found
  | «foreign» => cases found
  | rows shelf =>
      have here : shelf.find? id = some row := found
      simp only [findContent, Table.open?, here] at read
      obtain ⟨tracker, inRow, _⟩ := Answer.map_eq_ok_iff.mp read
      obtain ⟨amounts, cells, _⟩ := Answer.bind_eq_ok_iff.mp inRow
      exact ⟨amounts, (readCells_eq_ok_iff 4).mp cells⟩

theorem holdTable_of_fillSlots {id : String} {daysInMonth : Small}
    {slots filled : List (Counters UserCounter)} {rows : List DayRow}
    (read : fillSlots id daysInMonth slots rows = .ok filled) :
    ∀ row ∈ rows, ∃ table, HoldTable row.counters table := by
  induction rows generalizing slots with
  | nil => exact List.forall_mem_nil _
  | cons row rest ih =>
      rw [fillSlots] at read
      obtain ⟨day, _, afterDay⟩ := Answer.bind_eq_ok_iff.mp read
      obtain ⟨amounts, cells, later⟩ := Answer.bind_eq_ok_iff.mp afterDay
      split at later
      · exact List.forall_mem_cons.mpr ⟨⟨amounts, (readCells_eq_ok_iff 1).mp cells⟩, ih later⟩
      · cases later

namespace Database

variable {database : Database} {key : Key}

theorem holdTable_of_readSlots {tracker filled : UserTracker}
    (read : database.readSlots tracker = .ok filled) :
    ∀ row ∈ (database.days.find? tracker.id).getD [], ∃ table, HoldTable row.counters table := by
  unfold readSlots at read
  cases opened : database.days with
  | missing => exact List.forall_mem_nil _
  | «foreign» => exact List.forall_mem_nil _
  | rows days =>
      rw [opened] at read
      obtain ⟨slots, inRows, _⟩ := Answer.bind_eq_ok_iff.mp read
      exact holdTable_of_fillSlots inRows

/-- A tracker of content that is read has integers in its row. -/
theorem areIntegers_of_content {kind : ContentKind} (isKind : key.contentKind = .ok kind)
    {result : Option ContentTracker} (read : database.content? key = .ok result)
    {counters : RowCounters} (here : database.row? (.tracker kind.tracker key.id) = some counters) :
    counters.AreIntegers := by
  unfold content? at read
  rw [isKind] at read
  rw [row?_content] at here
  obtain ⟨row, found, rfl⟩ := Option.map_eq_some_iff.mp here
  obtain ⟨amounts, hold⟩ := holdTable_of_findContent read found
  exact RowCounters.areIntegers_of kind.tracker hold

/-- A tracker of a user that is read under a whole id has integers in the rows of its month and of
its days. -/
theorem areIntegers_of_user (isUser : key.kind = .user) (whole : Text.IsWhole key.id)
    {result : Option UserTracker} (read : database.user? key = .ok result)
    (present : (database.row? (.tracker .user key.id)).isSome) {name : RowName}
    (member : name ∈ key.rows) {counters : RowCounters}
    (here : database.row? name = some counters) : counters.AreIntegers := by
  obtain ⟨month, found⟩ := Option.isSome_iff_exists.mp present
  obtain ⟨row, inTable, rfl⟩ := Option.map_eq_some_iff.mp found
  cases users : database.users with
  | missing | «foreign» =>
      rw [users] at inTable
      cases inTable
  | rows months =>
      rw [users] at inTable
      rw [user?_of_some (Key.checkUser_eq_ok_iff.mpr isUser) users inTable] at read
      obtain ⟨filled, readRows, _⟩ := Answer.map_eq_ok_iff.mp read
      obtain ⟨tracker, monthRead, daysRead⟩ := Answer.bind_eq_ok_iff.mp readRows
      obtain ⟨sameId, _, hold⟩ := of_readMonth monthRead
      rcases (Key.mem_rows_user_iff isUser).mp member with rfl | rfl
      · cases found.symm.trans here
        exact RowCounters.areIntegers_of .user hold
      · obtain ⟨day, inDays, rfl⟩ := Option.map_eq_some_iff.mp here
        rw [← (Cell.readText_eq_iff key.id).mpr whole, ← sameId] at inDays
        obtain ⟨amounts, held⟩ :=
          holdTable_of_readSlots daysRead day (List.mem_of_find?_eq_some inDays)
        exact RowCounters.areIntegers_of .user held

end Database

/-! ## Mirrors of a memory -/

theorem MirrorDays.exists_holdTable {before : Nat} {days : List (Counters UserCounter)}
    {rows : List DayRow} (mirror : MirrorDays before days rows) :
    ∀ row ∈ rows, ∃ table, HoldTable row.counters table := by
  induction mirror with
  | nil => exact List.forall_mem_nil _
  | cons number numbered position hold later ih =>
      exact List.forall_mem_cons.mpr ⟨⟨_, hold⟩, ih⟩

theorem MirrorContents.exists_holdTable {kind : ContentKind} {trackers : Shelf ContentTracker}
    {rows : Shelf (ContentRow kind.tracker.Counted)} (mirror : MirrorContents kind trackers rows)
    {id : String} {row : ContentRow kind.tracker.Counted} (found : rows.find? id = some row) :
    ∃ table, HoldTable row.counters table := by
  obtain ⟨_, _, mirrors⟩ := Shelf.Related.exists_of_find? mirror found
  obtain ⟨table, _, hold⟩ := mirrors.counters
  exact ⟨table, hold⟩

namespace Mirrors

variable {memory : Memory} {database : Database}

theorem areIntegers (mirrors : Mirrors memory database) {name : RowName} {counters : RowCounters}
    (here : database.row? name = some counters) : counters.AreIntegers := by
  obtain ⟨months, days, users, opened, mirrorUsers⟩ := mirrors.users
  cases name with
  | day id day =>
      rw [Database.row?_day _ _ _ opened] at here
      obtain ⟨row, found, rfl⟩ := Option.map_eq_some_iff.mp here
      cases listed : days.find? id with
      | none =>
          rw [listed] at found
          cases found
      | some rows =>
          obtain ⟨tracker, known⟩ := mirrorUsers.known id rows listed
          obtain ⟨same, sameListed, mirrorDays⟩ := mirrorUsers.days id tracker known
          cases listed.symm.trans sameListed
          rw [listed, Option.getD_some] at found
          obtain ⟨table, hold⟩ := mirrorDays.exists_holdTable row (List.mem_of_find?_eq_some found)
          exact RowCounters.areIntegers_of .user hold
  | tracker kind id =>
      rcases kind.eq_user_or_content with rfl | ⟨content, rfl⟩
      · rw [Database.row?_month _ _ users] at here
        obtain ⟨row, found, rfl⟩ := Option.map_eq_some_iff.mp here
        obtain ⟨_, _, rowMirrors⟩ := mirrorUsers.months.exists_of_find? found
        exact RowCounters.areIntegers_of .user rowMirrors.counters
      · obtain ⟨rows, isRows, mirror⟩ := mirrors.contents content
        rw [Database.row?_content, isRows] at here
        obtain ⟨row, found, rfl⟩ := Option.map_eq_some_iff.mp here
        obtain ⟨table, hold⟩ := mirror.exists_holdTable found
        exact RowCounters.areIntegers_of content.tracker hold

/-- Every tracker of content can be looked up. -/
theorem exists_content (mirrors : Mirrors memory database) {key : Key} {kind : ContentKind}
    (isKind : key.contentKind = .ok kind) : ∃ tracker, database.content? key = .ok tracker := by
  unfold Database.content?
  obtain ⟨rows, isRows, mirror⟩ := mirrors.contents kind
  rw [isKind]
  simp only [bind, Except.bind, isRows]
  exact mirror.exists_findContent key.id

theorem exists_contentRange (mirrors : Mirrors memory database) {kind : ContentKind}
    {contentId : String} {first last : Key}
    (checked : Key.checkRange kind.tracker contentId first last = .ok ()) :
    ∃ trackers, database.contentRange kind contentId first last = .ok trackers := by
  unfold Database.contentRange
  obtain ⟨rows, isRows, mirror⟩ := mirrors.contents kind
  rw [checked]
  simp only [bind, Except.bind, isRows]
  exact mirror.exists_scanContent contentId first.id last.id

end Mirrors

/-! ## Runs -/

namespace Database

instance (database : Database) (key : Key) (batch : Batch) :
    Decidable (database.Underflows key batch) :=
  inferInstanceAs (Decidable (∃ sum ∈ _, _))

/-- A call does not take a counter below the least amount unless it is refused. -/
def Spares (database : Database) : StoreCall → Prop
  | .increment key updates =>
      ∀ batch ∈ (Batch.ofUpdates key updates).toOption, database.Underflows key batch →
        (increment key updates database).1.isOk = false
  | _ => True

instance (database : Database) (call : StoreCall) : Decidable (database.Spares call) :=
  match call with
  | .increment _ _ => inferInstanceAs (Decidable (∀ batch ∈ _, _))
  | .ensure .. | .content _ | .user _ | .contentRange .. | .userRange .. => .isTrue trivial

theorem not_underflows_of_spares {database next : Database} {key : Key} {updates : List Update}
    {batch : Batch} (spared : database.Spares (.increment key updates))
    (made : Batch.ofUpdates key updates = .ok batch)
    (accepted : increment key updates database = (.ok (), next)) :
    ¬ database.Underflows key batch := by
  intro below
  have refused := spared batch (by rw [made]; rfl) below
  rw [accepted] at refused
  cases refused

/-- None of the calls takes a counter below the least amount unless it is refused. -/
def SparedBy : List StoreCall → Database → Prop
  | [], _ => True
  | call :: rest, database => database.Spares call ∧ SparedBy rest (store.perform call database).2

instance decidableSparedBy : (calls : List StoreCall) → (database : Database) →
    Decidable (SparedBy calls database)
  | [], _ => .isTrue trivial
  | call :: rest, database =>
      have := decidableSparedBy rest (store.perform call database).2
      inferInstanceAs (Decidable (_ ∧ _))

end Database

namespace Mirrors

variable {memory : Memory} {database : Database}

/-- A call that spares the counters leaves tables that stand for a memory. -/
theorem perform_of_spares (mirrors : Mirrors memory database) {call : StoreCall}
    (spared : database.Spares call) :
    ∃ next, Mirrors next (Database.store.perform call database).2 := by
  cases call with
  | ensure key template => exact ⟨_, (mirrors.ensure key template).2⟩
  | increment key updates =>
      show ∃ next, Mirrors next (Database.increment key updates database).2
      rcases Database.increment_cases key updates database with
        ⟨batch, changed, made, applied, accepted⟩ | ⟨error, refused⟩
      · rw [accepted]
        cases named : batch.isEmpty with
        | true =>
            cases (database.applyBatch_of_isEmpty key named).symm.trans applied
            exact ⟨memory, mirrors⟩
        | false =>
            rcases mirrors.takes (Batch.kind_of_ofUpdates made)
                (Database.not_underflows_of_spares spared made accepted) named with
              ⟨next, other, _, given, mirrored⟩ | ⟨_, reason, refused⟩
            · cases given.symm.trans applied
              exact ⟨next, mirrored⟩
            · cases refused.symm.trans applied
      · rw [refused]
        exact ⟨memory, mirrors⟩
  | content | user | contentRange | userRange => exact ⟨memory, mirrors⟩

/-- Calls that spare the counters leave tables that stand for a memory. -/
theorem after_of_spared (mirrors : Mirrors memory database) {calls : List StoreCall}
    (spared : Database.SparedBy calls database) :
    ∃ next, Mirrors next (Database.store.after calls database) := by
  induction calls generalizing memory database with
  | nil => exact ⟨memory, mirrors⟩
  | cons call rest ih =>
      obtain ⟨first, others⟩ := spared
      obtain ⟨_, mirrored⟩ := mirrors.perform_of_spares first
      exact ih mirrored others

end Mirrors

/-! ## Increments on integers -/

namespace Database

/-- Each counter in the rows for a key is an integer, and comes to the integer that it is with the
amount of a batch; the other rows are as they were. -/
structure AddsExactly (database : Database) (key : Key) (batch : Batch) (next : Database) :
    Prop where
  sums : ∀ name ∈ key.rows, ∃ counters changed, database.row? name = some counters ∧
    next.row? name = some changed ∧
      ∀ counter, counter.kind = key.kind → ∃ n sum, counters.cell? counter = some (.integer n) ∧
        changed.cell? counter = some (.integer sum) ∧ sum.val = n.val + batch.amount counter
  others : ∀ name ∉ key.rows, next.row? name = database.row? name

/-- The tracker at a key has a cell that is no integer, and cannot be looked up. -/
structure IsLost (database : Database) (key : Key) : Prop where
  cell : ∃ name ∈ key.rows, ∃ counters, database.row? name = some counters ∧
    ¬ counters.AreIntegers
  content : ∀ kind, key.contentKind = .ok kind → ∃ error, database.content? key = .error error
  user : key.checkUser = .ok () → Text.IsWhole key.id → ∃ error, database.user? key = .error error

/-- What increments at a key do to integers. -/
structure CountsAt (database : Database) (key : Key) : Prop where
  unmerged : ∀ updates error, Batch.ofUpdates key updates = .error error →
    increment key updates database = (.error error, database)
  idle : ∀ updates batch, Batch.ofUpdates key updates = .ok batch → batch.isEmpty = true →
    increment key updates database = (.ok (), database)
  missing : ∀ updates batch, Batch.ofUpdates key updates = .ok batch →
    batch.isEmpty = false → (∃ name ∈ key.rows, database.row? name = none) →
      ∃ reason, increment key updates database = (.error (.storage key.id reason []), database)
  overflowing : ∀ updates batch, Batch.ofUpdates key updates = .ok batch →
    database.Overflows key batch →
      ∃ reason, increment key updates database = (.error (.storage key.id reason []), database)
  fitting : ∀ updates batch, Batch.ofUpdates key updates = .ok batch →
    (∀ name ∈ key.rows, (database.row? name).isSome = true) →
    ¬ database.Overflows key batch → ¬ database.Underflows key batch →
      ∃ next, increment key updates database = (.ok (), next) ∧ AddsExactly database key batch next
  underflowing : ∀ updates batch, Batch.ofUpdates key updates = .ok batch →
    (∀ name ∈ key.rows, (database.row? name).isSome = true) →
    ¬ database.Overflows key batch → database.Underflows key batch →
      ∃ next, increment key updates database = (.ok (), next) ∧ IsLost next key

/-- All counters are integers, and so every increment counts exactly. -/
structure CountsExactly (database : Database) : Prop where
  integers : ∀ name counters, database.row? name = some counters → counters.AreIntegers
  counts : ∀ key, database.CountsAt key

/-- Every tracker of content can be read, by key and by an interval of keys. -/
structure ReadsContents (database : Database) : Prop where
  lookup : ∀ key kind, key.contentKind = .ok kind →
    ∃ tracker, database.content? key = .ok tracker
  scan : ∀ kind contentId first last,
    Key.checkRange (ContentKind.tracker kind) contentId first last = .ok () →
      ∃ trackers, database.contentRange kind contentId first last = .ok trackers

/-- Trackers of users can be read, by key and by an interval of keys, exactly where their months are
long enough, as all are that have whole ids. -/
structure ReadsUsers (database : Database) : Prop where
  whole : ∀ id, Text.IsWhole id → database.LongEnough id
  lookup : ∀ key, key.checkUser = .ok () →
    ((∃ tracker, database.user? key = .ok tracker) ↔ database.LongEnough key.id)
  scan : ∀ userId first last, Key.checkRange .user userId first last = .ok () →
    ((∃ trackers, database.userRange userId first last = .ok trackers) ↔
      ∀ id row, database.users.find? id = some row → row.userId = userId →
        ¬ Text.precedes id first.id → ¬ Text.precedes last.id id → database.LongEnough id)

/-- A batch that names a counter is refused where a row for its key is missing. -/
theorem refused_of_missing {database : Database} {key : Key} {batch : Batch}
    (isKind : batch.kind = key.kind) (named : batch.isEmpty = false)
    (absent : ∃ name ∈ key.rows, database.row? name = none) :
    ∃ reason, database.applyBatch key batch = .error (.storage key.id reason []) := by
  obtain ⟨name, member, nothing⟩ := absent
  cases applied : database.applyBatch key batch with
  | error error =>
      obtain ⟨reason, rfl⟩ := error_of_applyBatch applied
      exact ⟨reason, rfl⟩
  | ok next =>
      obtain ⟨counters, here, _⟩ := (adds_of_applyBatch isKind applied).rooms named name member
      cases nothing.symm.trans here

section

variable {database next : Database} {key : Key} {batch : Batch}
  (integers : ∀ name ∈ key.rows, ∀ counters, database.row? name = some counters →
    counters.AreIntegers)
  (isKind : batch.kind = key.kind)

include integers isKind

theorem refused_of_overflows (above : database.Overflows key batch) :
    ∃ reason, database.applyBatch key batch = .error (.storage key.id reason []) := by
  obtain ⟨sum, counted, beyond⟩ := above
  obtain ⟨name, member, counters, here, inRow⟩ := exists_of_mem_sums counted
  have sameKind : counters.kind = batch.kind := (kind_of_mem_rows member here).trans isKind.symm
  cases applied : database.applyBatch key batch with
  | error error =>
      obtain ⟨reason, rfl⟩ := error_of_applyBatch applied
      exact ⟨reason, rfl⟩
  | ok next =>
      cases named : batch.isEmpty with
      | true =>
          rw [RowCounters.sums_of_isEmpty sameKind named] at inRow
          cases inRow
      | false =>
          obtain ⟨other, same, room⟩ := (adds_of_applyBatch isKind applied).rooms named name member
          cases here.symm.trans same
          have most := (RowCounters.haveRoom_iff (integers name member _ here) sameKind).mp room sum inRow
          omega

theorem rooms_of_not_overflows (present : ∀ name ∈ key.rows, (database.row? name).isSome = true)
    (fits : ¬ database.Overflows key batch) :
    ∀ name ∈ key.rows, ∃ counters, database.row? name = some counters ∧
      counters.haveRoom batch = true := by
  intro name member
  obtain ⟨counters, here⟩ := Option.isSome_iff_exists.mp (present name member)
  have sameKind := (kind_of_mem_rows member here).trans isKind.symm
  refine ⟨counters, here, (RowCounters.haveRoom_iff (integers name member _ here) sameKind).mpr ?_⟩
  exact fun sum counted => Int.not_lt.mp fun above =>
    fits ⟨sum, mem_sums member here counted, above⟩

theorem addsExactly_of_applyBatch (present : ∀ name ∈ key.rows, (database.row? name).isSome = true)
    (upper : ¬ database.Overflows key batch) (lower : ¬ database.Underflows key batch)
    (applied : database.applyBatch key batch = .ok next) : AddsExactly database key batch next := by
  have adds := adds_of_applyBatch isKind applied
  refine ⟨fun name member => ?_, adds.others⟩
  obtain ⟨counters, here⟩ := Option.isSome_iff_exists.mp (present name member)
  refine ⟨counters, counters.add batch, here, by rw [adds.rows name member, here]; rfl, ?_⟩
  intro counter own
  have sameKind := kind_of_mem_rows member here
  refine RowCounters.exists_sum (integers name member _ here) (sameKind.trans isKind.symm)
    (fun sum counted => ?_) (le_of_not_underflows lower member here) (own.trans sameKind.symm)
  exact Int.not_lt.mp fun above => upper ⟨sum, mem_sums member here counted, above⟩

end

/-- A batch that is accepted and takes a counter below the least amount loses the tracker. -/
theorem isLost_of_underflows {database next : Database} {key : Key} {batch : Batch}
    (isKind : batch.kind = key.kind)
    (present : ∀ name ∈ key.rows, (database.row? name).isSome = true)
    (below : database.Underflows key batch) (applied : database.applyBatch key batch = .ok next) :
    IsLost next key := by
  have adds := adds_of_applyBatch isKind applied
  obtain ⟨sum, counted, less⟩ := below
  obtain ⟨name, member, counters, here, inRow⟩ := exists_of_mem_sums counted
  have changed : next.row? name = some (counters.add batch) := by
    rw [adds.rows name member, here]
    rfl
  have lost := RowCounters.not_areIntegers_add
    ((kind_of_mem_rows member here).trans isKind.symm) inRow less
  refine ⟨⟨name, member, _, changed, lost⟩, fun kind isContent => ?_, fun isUser whole => ?_⟩
  · cases read : next.content? key with
    | error error => exact ⟨error, rfl⟩
    | ok tracker =>
        have named := (Key.mem_rows_content_iff kind (Key.kind_of_contentKind isContent)).mp member
        rw [named] at changed
        exact absurd (areIntegers_of_content isContent read changed) lost
  · cases read : next.user? key with
    | error error => exact ⟨error, rfl⟩
    | ok tracker =>
        have month : RowName.tracker .user key.id ∈ key.rows :=
          (Key.mem_rows_user_iff (Key.checkUser_eq_ok_iff.mp isUser)).mpr (Or.inl rfl)
        have still : (next.row? (.tracker .user key.id)).isSome = true := by
          rw [adds.rows _ month, Option.isSome_map]
          exact present _ month
        exact absurd (areIntegers_of_user (Key.checkUser_eq_ok_iff.mp isUser) whole read still
          member changed) lost

/-- Increments at a key count exactly where the rows for it have integers. -/
theorem countsAt_of_integers {database : Database} {key : Key}
    (integers : ∀ name ∈ key.rows, ∀ counters, database.row? name = some counters →
      counters.AreIntegers) : database.CountsAt key := by
  refine {
    unmerged := fun _ _ unmerged => database.increment_of_unmerged unmerged
    idle := fun _ _ made nothing =>
      increment_of_applied made (database.applyBatch_of_isEmpty key nothing)
    missing := ?_
    overflowing := ?_
    fitting := ?_
    underflowing := ?_ }
  · intro updates batch made named absent
    obtain ⟨reason, refused⟩ := refused_of_missing (Batch.kind_of_ofUpdates made) named absent
    exact ⟨reason, increment_of_refused made refused⟩
  · intro updates batch made above
    obtain ⟨reason, refused⟩ := refused_of_overflows integers (Batch.kind_of_ofUpdates made) above
    exact ⟨reason, increment_of_refused made refused⟩
  · intro updates batch made present upper lower
    have isKind := Batch.kind_of_ofUpdates made
    obtain ⟨next, applied⟩ :=
      exists_applyBatch isKind (rooms_of_not_overflows integers isKind present upper)
    exact ⟨next, increment_of_applied made applied,
      addsExactly_of_applyBatch integers isKind present upper lower applied⟩
  · intro updates batch made present upper below
    have isKind := Batch.kind_of_ofUpdates made
    obtain ⟨next, applied⟩ :=
      exists_applyBatch isKind (rooms_of_not_overflows integers isKind present upper)
    exact ⟨next, increment_of_applied made applied,
      isLost_of_underflows isKind present below applied⟩

end Database

namespace Mirrors

variable {memory : Memory} {database : Database}

theorem countsExactly (mirrors : Mirrors memory database) : database.CountsExactly where
  integers _ _ here := mirrors.areIntegers here
  counts _ := Database.countsAt_of_integers fun _ _ _ here => mirrors.areIntegers here

theorem readsContents (mirrors : Mirrors memory database) : database.ReadsContents where
  lookup _ _ isKind := mirrors.exists_content isKind
  scan _ _ _ _ checked := mirrors.exists_contentRange checked

theorem readsUsers (mirrors : Mirrors memory database) : database.ReadsUsers := by
  obtain ⟨months, days, users, opened, mirror⟩ := mirrors.users
  exact {
    whole := fun _ whole => database.longEnough_of_isWhole whole
    lookup := fun _ isUser => mirror.exists_user?_iff users opened isUser
    scan := fun _ _ _ checked => mirror.exists_userRange_iff users opened checked }

end Mirrors

/-- As long as no accepted increment takes a counter below the least amount, calls on a new
database leave integers only, every increment adds exactly or changes nothing, and
every tracker can be read, unless it is of a user and has an id that is read as
the id of a longer month. -/
theorem countsExactly_of_spared (calls : List StoreCall)
    (spared : Database.SparedBy calls Database.fresh) :
    (Database.store.after calls Database.fresh).CountsExactly ∧
      (Database.store.after calls Database.fresh).ReadsContents ∧
        (Database.store.after calls Database.fresh).ReadsUsers := by
  obtain ⟨memory, mirrors⟩ := mirrors_fresh.after_of_spared spared
  exact ⟨mirrors.countsExactly, mirrors.readsContents, mirrors.readsUsers⟩

/-- Taking a user's counter to the greatest amount and to the least one, and once too far up. -/
def extremeCalls : List StoreCall :=
  let key := Key.of .user "u" midFebruary
  [ .ensure key (.user "u"),
    .increment key [.user "u" .commentsCreated Amount.greatest],
    .increment key [.user "u" .commentsCreated .one],
    .increment key [.user "u" .commentsCreated Amount.least,
      .user "u" .viewsOfOwned Amount.least] ]

theorem countsExactly_of_spared_extremes :
    (Database.store.after extremeCalls Database.fresh).CountsExactly ∧
      (Database.store.after extremeCalls Database.fresh).ReadsContents ∧
        (Database.store.after extremeCalls Database.fresh).ReadsUsers :=
  countsExactly_of_spared extremeCalls (by decide +kernel)

/-- The id of a February is read as that of a January, which has more days. -/
example :
    let short : Key := .of .user "u2401\x00x" midFebruary
    let calls : List StoreCall :=
      [.ensure (.of .user "u" january) (.user "u"), .ensure short (.user "u2401\x00x")]
    Database.SparedBy calls Database.fresh ∧
      ((Database.store.after calls Database.fresh).user? short).isOk = false := by
  decide +kernel

def postKey : Key := Key.of .post "p1" midFebruary

def leastViewsCalls : List StoreCall :=
  [ .ensure postKey (.post "p1" "ana"),
    .increment postKey [.post "p1" .views Amount.least] ]

def oneViewLess : List Update := [.post "p1" .views ⟨-1, by decide, by decide⟩]

/-- An increment that takes a counter below the least amount is not always refused, and not every
tracker can be read. -/
theorem not_refused_nor_read :
    (¬ ∀ (calls : List StoreCall) (key : Key) (updates : List Update) (batch : Batch),
      Batch.ofUpdates key updates = .ok batch →
        (Database.store.after calls Database.fresh).Underflows key batch →
          ∃ reason, Database.increment key updates (Database.store.after calls Database.fresh) =
            (.error (.storage key.id reason []), Database.store.after calls Database.fresh)) ∧
      ¬ ∀ (calls : List StoreCall) (key : Key) (kind : ContentKind),
        key.contentKind = .ok kind →
          ∃ tracker, (Database.store.after calls Database.fresh).content? key = .ok tracker := by
  constructor
  · intro refuses
    have below : ∀ batch ∈ (Batch.ofUpdates postKey oneViewLess).toOption,
        (Database.store.after leastViewsCalls Database.fresh).Underflows postKey batch := by
      decide +kernel
    have accepted : (Database.increment postKey oneViewLess
        (Database.store.after leastViewsCalls Database.fresh)).1.isOk = true := by
      decide +kernel
    cases made : Batch.ofUpdates postKey oneViewLess with
    | error error =>
        rw [Database.increment_of_unmerged _ made] at accepted
        cases accepted
    | ok batch =>
        obtain ⟨reason, refused⟩ := refuses leastViewsCalls postKey oneViewLess batch made
          (below batch (by rw [made]; rfl))
        rw [refused] at accepted
        cases accepted
  · intro reads
    obtain ⟨tracker, read⟩ := reads (leastViewsCalls ++ [.increment postKey oneViewLess])
      postKey .post (by decide +kernel)
    have unread : ((Database.store.after
        (leastViewsCalls ++ [.increment postKey oneViewLess])
        Database.fresh).content? postKey).isOk = false := by
      decide +kernel
    rw [read] at unread
    cases unread

end Relational

end ActivityLedger

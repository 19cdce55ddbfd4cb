import ActivityLedger.Proofs.Relational.Increments

/-!
# What setting up does to rows

The rows of a tracker are inserted where it has none, with nothing counted.  All other rows stay,
and so do those of the tracker where it has them.
-/

namespace ActivityLedger.Relational

namespace RowCounters

def AreZero (counters : RowCounters) : Prop :=
  ∀ counter cell, counters.cell? counter = some cell → cell = Cell.zero

theorem areZero_of (kind : TrackerKind) : (of kind zeroCells).AreZero := by
  intro counter cell held
  obtain ⟨named, _, rfl⟩ := cell?_of_eq_some_iff.mp held
  simp [zeroCells]

theorem AreZero.areIntegers {counters : RowCounters} (zero : counters.AreZero) :
    counters.AreIntegers :=
  fun counter cell held => ⟨Amount.zero, zero counter cell held⟩

end RowCounters

namespace Database

variable {database next : Database} {key : Key} {created : Bool}

/-- Rows of zeros are put where a tracker had none, or nothing changes. -/
inductive Opens (database : Database) (kind : TrackerKind) (id : String) : Database → Prop where
  | nothing : Opens database kind id database
  | rows {next : Database} (absent : database.row? (.tracker kind id) = none)
      (zero : ∀ name, name.IsOf kind id → ∀ counters, next.row? name = some counters →
        counters.AreZero)
      (others : ∀ name, ¬ name.IsOf kind id → next.row? name = database.row? name) :
      Opens database kind id next

/-! ## Content -/

section

variable {kind : ContentKind} {authorId : String} {rows : Shelf (ContentRow kind.tracker.Counted)}

theorem ensureContent_of_none (opened : database.contents kind = .rows rows)
    (absent : rows.find? key.id = none) (authorId : String) :
    ∃ number, database.ensureContent key kind authorId =
      .ok (true, database.withContents kind (.rows (rows.insert key.id
        ⟨number, key.entityId, authorId, key.periodStart.text, zeroCells⟩))) := by
  simp only [ensureContent, opened, Table.open?, insertContent, absent]
  exact ⟨_, rfl⟩

theorem ensureContent_of_some (opened : database.contents kind = .rows rows)
    {row : ContentRow kind.tracker.Counted} (found : rows.find? key.id = some row)
    (authorId : String) : database.ensureContent key kind authorId = .ok (false, database) := by
  simp only [ensureContent, opened, Table.open?, insertContent, found]
  rw [← opened, withContents_contents]

theorem eq_or_exists_of_ensureContent
    (ensured : database.ensureContent key kind authorId = .ok (created, next)) :
    next = database ∨ ∃ rows number, database.contents kind = .rows rows ∧
      rows.find? key.id = none ∧
      next = database.withContents kind (.rows (rows.insert key.id
        ⟨number, key.entityId, authorId, key.periodStart.text, zeroCells⟩)) := by
  cases opened : database.contents kind with
  | missing | «foreign» =>
      simp only [ensureContent, opened, Table.open?] at ensured
      cases ensured
  | rows rows =>
      cases found : rows.find? key.id with
      | some row =>
          rw [ensureContent_of_some opened found] at ensured
          cases ensured
          exact Or.inl rfl
      | none =>
          obtain ⟨number, inserted⟩ := ensureContent_of_none opened found authorId
          rw [inserted] at ensured
          cases ensured
          exact Or.inr ⟨rows, number, rfl, found, rfl⟩

theorem opens_ensureContent
    (ensured : database.ensureContent key kind authorId = .ok (created, next)) :
    database.Opens kind.tracker key.id next := by
  rcases eq_or_exists_of_ensureContent ensured with rfl | ⟨rows, number, opened, absent, rfl⟩
  · exact .nothing
  refine .rows ?_ (fun name own counters here => ?_) fun name other => ?_
  · rw [row?_content, opened, Table.find?, absent]
    rfl
  · obtain ⟨id, rfl⟩ := RowName.kind_eq_content_iff.mp own.1
    have same : id = key.id := own.2
    rw [row?_content, contents_withContents_self, same, Table.find?, Shelf.find?_insert_self]
      at here
    cases here
    exact RowCounters.areZero_of kind.tracker
  · by_cases own : name.kind = kind.tracker
    · obtain ⟨id, rfl⟩ := RowName.kind_eq_content_iff.mp own
      have different : id ≠ key.id := fun same => other ⟨rfl, same⟩
      rw [row?_content, row?_content, contents_withContents_self, opened]
      exact congrArg _ (Shelf.find?_insert_of_ne _ _ different)
    · exact database.row?_withContents_of_ne _ own

end

/-! ## Users -/

theorem ensureUser_of_none {months : Shelf UserRow} {days : Shelf (List DayRow)}
    (users : database.users = .rows months) (slots : database.days = .rows days)
    (absent : months.find? key.id = none) (userId : String) :
    ∃ number first, database.ensureUser key userId = .ok (true, { database with
      users := .rows (months.insert key.id
        ⟨number, userId, key.periodStart.text, Cell.ofSmall key.daysInMonth, zeroCells⟩)
      days := .rows (days.insert key.id (zeroDays first key.daysInMonth.toNat)) }) := by
  simp only [ensureUser, users, slots, Table.open?, absent]
  exact ⟨_, _, rfl⟩

theorem ensureUser_of_some {months : Shelf UserRow} (users : database.users = .rows months)
    {row : UserRow} (found : months.find? key.id = some row) (userId : String) :
    database.ensureUser key userId = .ok (false, database) := by
  simp only [ensureUser, users, Table.open?, found]

theorem eq_or_exists_of_ensureUser {userId : String}
    (ensured : database.ensureUser key userId = .ok (created, next)) :
    next = database ∨ ∃ months days number first, database.users = .rows months ∧
      months.find? key.id = none ∧ database.days = .rows days ∧
      next = { database with
        users := .rows (months.insert key.id
          ⟨number, userId, key.periodStart.text, Cell.ofSmall key.daysInMonth, zeroCells⟩)
        days := .rows (days.insert key.id (zeroDays first key.daysInMonth.toNat)) } := by
  cases users : database.users with
  | missing | «foreign» =>
      simp only [ensureUser, users, Table.open?] at ensured
      cases ensured
  | rows months =>
      cases found : months.find? key.id with
      | some row =>
          rw [ensureUser_of_some users found] at ensured
          cases ensured
          exact Or.inl rfl
      | none =>
          cases slots : database.days with
          | missing | «foreign» =>
              simp only [ensureUser, users, slots, Table.open?, found] at ensured
              cases ensured
          | rows days =>
              obtain ⟨number, first, inserted⟩ := ensureUser_of_none users slots found userId
              rw [inserted] at ensured
              cases ensured
              exact Or.inr ⟨months, days, number, first, rfl, found, rfl, rfl⟩

theorem areZero_of_zeroDays {first : Amount} {count : Nat} {day : Small} {row : DayRow}
    (found : dayRow? day (zeroDays first count) = some row) :
    (RowCounters.user row.counters).AreZero := by
  obtain ⟨index, _, rfl⟩ := List.mem_map.mp (List.mem_of_find?_eq_some found)
  exact RowCounters.areZero_of .user

theorem opens_ensureUser {userId : String}
    (ensured : database.ensureUser key userId = .ok (created, next)) :
    database.Opens .user key.id next := by
  rcases eq_or_exists_of_ensureUser ensured with
    rfl | ⟨months, days, number, first, users, absent, slots, rfl⟩
  · exact .nothing
  refine .rows ?_ (fun name own counters here => ?_) fun name other => ?_
  · rw [row?_month _ _ users, absent]
    rfl
  · obtain ⟨isUser, same⟩ := own
    rcases name with ⟨kind, id⟩ | ⟨id, day⟩ <;> cases same
    · cases (isUser : kind = .user)
      rw [row?_month _ _ rfl, Shelf.find?_insert_self] at here
      cases here
      exact RowCounters.areZero_of .user
    · rw [row?_day _ _ _ rfl, Shelf.find?_insert_self, Option.getD_some] at here
      obtain ⟨row, found, rfl⟩ := Option.map_eq_some_iff.mp here
      exact areZero_of_zeroDays found
  · rcases name with ⟨kind, id⟩ | ⟨id, day⟩
    · cases kind with
      | post | comment => rfl
      | user =>
          have different : id ≠ key.id := fun same => other ⟨rfl, same⟩
          rw [row?_month _ _ users, row?_month _ _ rfl, Shelf.find?_insert_of_ne _ _ different]
    · have different : id ≠ key.id := fun same => other ⟨rfl, same⟩
      rw [row?_day _ _ _ slots, row?_day _ _ _ rfl, Shelf.find?_insert_of_ne _ _ different]

/-! ## Any tracker -/

/-- Setting up inserts rows, unless they are there, or is refused and changes nothing. -/
theorem ensure_cases (key : Key) (template : Template) (database : Database) :
    (∃ created next, database.ensureRows key template = .ok (created, next) ∧
        ensure key template database = (.ok created, next)) ∨
      ∃ error, ensure key template database = (.error error, database) := by
  unfold ensure
  split
  · rename_i created next chained
    obtain ⟨_, _, ensured⟩ := Answer.bind_eq_ok_iff.mp chained
    exact Or.inl ⟨created, next, ensured, rfl⟩
  · rename_i error _
    exact Or.inr ⟨error, rfl⟩

theorem opens_ensure (key : Key) (template : Template) (database : Database) :
    database.Opens template.kind key.id (ensure key template database).2 := by
  rcases ensure_cases key template database with ⟨_, _, ensured, accepted⟩ | ⟨_, refused⟩
  · rw [accepted]
    cases template with
    | user userId => exact opens_ensureUser ensured
    | post postId authorId => exact opens_ensureContent ensured
    | comment commentId authorId => exact opens_ensureContent ensured
  · rw [refused]
    exact .nothing

end Database

end ActivityLedger.Relational

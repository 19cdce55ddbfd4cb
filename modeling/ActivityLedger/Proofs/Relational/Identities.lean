import ActivityLedger.Proofs.Identities
import ActivityLedger.Proofs.Relational.Rows
import ActivityLedger.Proofs.Relational.SettingUp

/-!
# Rows keep what they are for

In every state that calls on a new database lead to, all tables are there.  Setting up inserts
the row of a tracker with those of its days or nothing, and an increment changes nothing but
cells of counters, even where a sum is no integer any more.
-/

namespace ActivityLedger

namespace Relational

/-! ## Rows as trackers -/

def ContentRow.sheet (kind : ContentKind) (id : String)
    (row : ContentRow kind.tracker.Counted) : Sheet where
  identity := {
    kind := kind.tracker
    id := id
    entityId := row.contentId
    ownerId? := some row.authorId
    period := row.day
    daysInMonth? := none
    days := [] }
  counters := .of kind.tracker row.counters
  slots := []

def UserRow.sheet (id : String) (days : List DayRow) (row : UserRow) : Sheet where
  identity := {
    kind := .user
    id := id
    entityId := row.userId
    ownerId? := none
    period := row.month
    daysInMonth? := some row.daysInMonth
    days := days.map DayRow.day }
  counters := .user row.counters
  slots := days.map DayRow.counters

namespace Database

/-- The tracker of a kind under an id as it is written. -/
def sheet? (database : Database) : TrackerKind → String → Option Sheet
  | .user, id => (database.users.find? id).map
      (UserRow.sheet id ((database.days.find? id).getD []))
  | .post, id => (database.posts.find? id).map (ContentRow.sheet .post id)
  | .comment, id => (database.comments.find? id).map (ContentRow.sheet .comment id)

theorem sheet?_content (database : Database) (kind : ContentKind) (id : String) :
    database.sheet? kind.tracker id =
      ((database.contents kind).find? id).map (ContentRow.sheet kind id) := by
  cases kind <;> rfl

structure IsOpen (database : Database) : Prop where
  contents : ∀ kind, ∃ rows, database.contents kind = .rows rows
  users : ∃ rows, database.users = .rows rows
  days : ∃ rows, database.days = .rows rows

theorem isOpen_fresh : fresh.IsOpen :=
  ⟨fun kind => by cases kind <;> exact ⟨_, rfl⟩, ⟨_, rfl⟩, ⟨_, rfl⟩⟩

theorem IsOpen.withContents {database : Database} (opened : database.IsOpen) (kind : ContentKind)
    (rows : Shelf (ContentRow kind.tracker.Counted)) :
    (database.withContents kind (.rows rows)).IsOpen where
  contents other := by
    by_cases same : other = kind
    · subst same
      exact ⟨rows, database.contents_withContents_self ..⟩
    · rw [database.contents_withContents_of_ne same]
      exact opened.contents other
  users := by
    rw [database.users_withContents]
    exact opened.users
  days := by
    rw [database.days_withContents]
    exact opened.days

/-! ## Rows in their places -/

variable {database : Database}

theorem places_user {months : Shelf UserRow} {days : Shelf (List DayRow)}
    (users : database.users = .rows months) (opened : database.days = .rows days) (id : String)
    (row : UserRow) (rows : List DayRow) :
    Places sheet? database
      { database with users := .rows (months.insert id row), days := .rows (days.insert id rows) }
      .user id (row.sheet id rows) := by
  intro kind other
  cases kind with
  | user =>
      simp only [sheet?, users, opened, Table.find?]
      by_cases same : other = id
      · subst same
        simp
      · rw [Shelf.find?_insert_of_ne _ _ same, Shelf.find?_insert_of_ne _ _ same,
          if_neg fun here => same here.2]
  | post | comment => rfl

theorem places_content {content : ContentKind}
    {rows : Shelf (ContentRow content.tracker.Counted)}
    (opened : database.contents content = .rows rows) (id : String)
    (row : ContentRow content.tracker.Counted) :
    Places sheet? database (database.withContents content (.rows (rows.insert id row)))
      content.tracker id (row.sheet content id) := by
  intro kind other
  rcases kind.eq_user_or_content with rfl | ⟨kind, rfl⟩
  · rw [if_neg (by cases content <;> simp [ContentKind.tracker]), sheet?, sheet?,
      users_withContents, days_withContents]
  · rw [sheet?_content, sheet?_content]
    by_cases same : kind = content
    · subst same
      rw [contents_withContents_self, opened, Table.find?, Table.find?]
      by_cases here : other = id
      · subst here
        rw [Shelf.find?_insert_self, if_pos ⟨rfl, rfl⟩, Option.map_some]
      · rw [Shelf.find?_insert_of_ne _ _ here, if_neg fun both => here both.2]
    · rw [contents_withContents_of_ne _ same,
        if_neg fun both => same (ContentKind.tracker_inj.mp both.1)]

/-! ## Setting up -/

section

variable {key : Key} {template : Template} {authorId : String}

theorem sheet_newRow (kind : ContentKind) (isKind : key.kind = kind.tracker)
    (names : template.authorId? = some authorId) (number : Amount) :
    ContentRow.sheet kind key.id
      ⟨number, key.entityId, authorId, key.periodStart.text, zeroCells⟩ = .blank key template := by
  have daily : kind.tracker.isMonthly = false := by cases kind <;> rfl
  have zero : RowCounters.of kind.tracker zeroCells = .zero kind.tracker := rfl
  simp [ContentRow.sheet, Sheet.blank, Identity.of, daily, isKind, names, zero]

theorem sheet_newMonth {userId : String} (describes : (Template.user userId).Describes key)
    (number first : Amount) :
    UserRow.sheet key.id (zeroDays first key.daysInMonth.toNat)
      ⟨number, userId, key.periodStart.text, Cell.ofSmall key.daysInMonth, zeroCells⟩ =
        .blank key (.user userId) := by
  have isUser : key.kind = .user := describes.1.symm
  have same : key.entityId = userId := describes.2.symm
  have days : (zeroDays first key.daysInMonth.toNat).map DayRow.day =
      dayNumbers key.daysInMonth.toNat := by
    rw [zeroDays, List.map_map, dayNumbers]
    rfl
  have slots : (zeroDays first key.daysInMonth.toNat).map DayRow.counters =
      List.replicate key.daysInMonth.toNat zeroCells := by
    rw [zeroDays, List.map_map]
    simp [Function.comp_def]
  simp [UserRow.sheet, Sheet.blank, Identity.of, isUser, same, days, slots,
    TrackerKind.isMonthly, Template.authorId?, RowCounters.zero_user]

theorem ensure_of_foreign (database : Database) (foreign : ¬ template.Describes key) :
    ∃ fault, store.ensure key template database = (.error (.invariant fault), database) := by
  obtain ⟨fault, refused⟩ := Key.checkTemplate_of_foreign foreign
  refine ⟨fault, ?_⟩
  show ensure key template database = _
  rw [ensure, refused]
  rfl

theorem ensure_of_rows {created : Bool} {next : Database} (describes : template.Describes key)
    (opened : database.ensureRows key template = .ok (created, next)) :
    store.ensure key template database = (.ok created, next) := by
  show ensure key template database = _
  rw [ensure, Key.checkTemplate_of_describes describes]
  simp only [Except.bind, opened]

end

theorem ensuresOnce_content (opened : database.IsOpen) {key : Key} {template : Template}
    (kind : ContentKind) {authorId : String} (isKind : template.kind = kind.tracker)
    (names : template.authorId? = some authorId)
    (rowed : database.ensureRows key template = database.ensureContent key kind authorId) :
    store.EnsuresOnce sheet? database key template := by
  obtain ⟨rows, table⟩ := opened.contents kind
  refine .of_lookup (rows.find? key.id) (ContentRow.sheet kind key.id)
    database.ensure_of_foreign (fun describes => ?_)
    (fun describes row found => ensure_of_rows describes
      (rowed.trans (ensureContent_of_some table found _)))
    fun describes missing => ?_
  · rw [← describes.1, isKind, sheet?_content, table]
    rfl
  · have keyKind : key.kind = kind.tracker := describes.1.symm.trans isKind
    obtain ⟨number, inserted⟩ := ensureContent_of_none table missing authorId
    refine ⟨_, ensure_of_rows describes (rowed.trans inserted), ?_⟩
    rw [keyKind, ← sheet_newRow kind keyKind names number]
    exact places_content table key.id _

theorem ensuresOnce_user (opened : database.IsOpen) (key : Key) (userId : String) :
    store.EnsuresOnce sheet? database key (.user userId) := by
  obtain ⟨months, users⟩ := opened.users
  obtain ⟨days, slots⟩ := opened.days
  refine .of_lookup (months.find? key.id) (UserRow.sheet key.id ((days.find? key.id).getD []))
    database.ensure_of_foreign (fun describes => ?_)
    (fun describes row found => ensure_of_rows describes (ensureUser_of_some users found userId))
    fun describes missing => ?_
  · rw [← describes.1]
    show (database.users.find? key.id).map (UserRow.sheet key.id _) = _
    rw [users, slots]
    rfl
  · have isUser : key.kind = .user := describes.1.symm
    obtain ⟨number, first, inserted⟩ := ensureUser_of_none users slots missing userId
    refine ⟨_, ensure_of_rows describes inserted, ?_⟩
    rw [isUser, ← sheet_newMonth describes number first]
    exact places_user users slots key.id _ _

/-- Open tables take the rows of each tracker once. -/
theorem ensuresOnce (opened : database.IsOpen) (key : Key) (template : Template) :
    store.EnsuresOnce sheet? database key template := by
  cases template with
  | user userId => exact ensuresOnce_user opened key userId
  | post postId authorId => exact ensuresOnce_content opened .post rfl rfl rfl
  | comment commentId authorId => exact ensuresOnce_content opened .comment rfl rfl rfl

/-! ## Adding -/

/-- What an increment leaves of the rows: all as they are, or those of one tracker with other
cells for its counters. -/
inductive Recounted (database : Database) (id : String) : Database → Prop where
  | nothing : Recounted database id database
  | user {months : Shelf UserRow} {days : Shelf (List DayRow)} {row : UserRow}
      (users : database.users = .rows months) (slots : database.days = .rows days)
      (found : months.find? id = some row) (cells : Columns UserCounter Cell)
      (rows : List DayRow)
      (same : rows.map DayRow.day = ((days.find? id).getD []).map DayRow.day) :
      Recounted database id { database with
        users := .rows (months.insert id { row with counters := cells })
        days := .rows (days.insert id rows) }
  | content {kind : ContentKind} {rows : Shelf (ContentRow kind.tracker.Counted)}
      {row : ContentRow kind.tracker.Counted} (opened : database.contents kind = .rows rows)
      (found : rows.find? id = some row) (cells : Columns kind.tracker.Counted Cell) :
      Recounted database id
        (database.withContents kind (.rows (rows.insert id { row with counters := cells })))

variable {next : Database} {id : String}

theorem recounted_applyBatch {key : Key} {batch : Batch}
    (applied : database.applyBatch key batch = .ok next) : Recounted database key.id next := by
  cases named : batch.isEmpty with
  | true =>
      cases (database.applyBatch_of_isEmpty key named).symm.trans applied
      exact .nothing
  | false =>
      rcases batch.eq_user_or_content with ⟨deltas, rfl⟩ | ⟨kind, deltas, rfl⟩
      · rw [applyBatch_user _ _ named] at applied
        obtain ⟨months, row, days, rows, users, found, _, slots, inDays, rfl⟩ :=
          incrementUser_eq_ok_iff.mp applied
        obtain ⟨_, _, _, rfl⟩ := addToDay?_eq_some_iff.mp inDays
        refine .user users slots found _ _ ?_
        rw [List.map_map]
        exact List.map_congr_left fun day _ => day.day_addAt
      · rw [applyBatch_content _ _ _ named] at applied
        obtain ⟨table, added, rfl⟩ := Answer.map_eq_ok_iff.mp applied
        obtain ⟨rows, row, opened, found, _, rfl⟩ := addToContent_eq_ok_iff.mp added
        exact .content opened found _

/-- Whatever an increment answers, it leaves everything but cells of counters. -/
theorem recounted_increment (key : Key) (updates : List Update) (database : Database) :
    Recounted database key.id (increment key updates database).2 := by
  rcases increment_cases key updates database with ⟨_, _, _, applied, accepted⟩ | ⟨_, refused⟩
  · rw [accepted]
    exact recounted_applyBatch applied
  · rw [refused]
    exact .nothing

theorem Recounted.keepsIdentity (recounted : Recounted database id next) :
    KeepsIdentity sheet? database next := by
  cases recounted with
  | nothing => exact .refl
  | user users slots found cells rows same =>
      refine (places_user users slots id _ _).keepsIdentity ?_
      simp [sheet?, users, slots, Table.find?, found, UserRow.sheet, same]
  | content opened found cells =>
      refine (places_content opened id _).keepsIdentity ?_
      rw [sheet?_content, opened, Table.find?, found]
      rfl

/-! ## Tables that stay -/

theorem IsOpen.recounted (opened : database.IsOpen) (recounted : Recounted database id next) :
    next.IsOpen := by
  cases recounted with
  | nothing => exact opened
  | user => exact { opened with users := ⟨_, rfl⟩, days := ⟨_, rfl⟩ }
  | content => exact opened.withContents _ _

theorem IsOpen.ensureContent (opened : database.IsOpen) {key : Key} {kind : ContentKind}
    {authorId : String} {created : Bool}
    (ensured : database.ensureContent key kind authorId = .ok (created, next)) : next.IsOpen := by
  rcases eq_or_exists_of_ensureContent ensured with rfl | ⟨rows, number, _, _, rfl⟩
  · exact opened
  · exact opened.withContents _ _

theorem IsOpen.ensureUser (opened : database.IsOpen) {key : Key} {userId : String} {created : Bool}
    (ensured : database.ensureUser key userId = .ok (created, next)) : next.IsOpen := by
  rcases eq_or_exists_of_ensureUser ensured with rfl | ⟨months, slots, number, first, _, _, _, rfl⟩
  · exact opened
  · exact { opened with users := ⟨_, rfl⟩, days := ⟨_, rfl⟩ }

theorem IsOpen.ensure (opened : database.IsOpen) (key : Key) (template : Template) :
    (Database.ensure key template database).2.IsOpen := by
  rcases ensure_cases key template database with ⟨_, _, ensured, accepted⟩ | ⟨_, refused⟩
  · rw [accepted]
    cases template with
    | user userId => exact opened.ensureUser ensured
    | post postId authorId => exact opened.ensureContent ensured
    | comment commentId authorId => exact opened.ensureContent ensured
  · rw [refused]
    exact opened

/-- No call drops a table. -/
theorem IsOpen.perform (opened : database.IsOpen) (call : StoreCall) :
    (store.perform call database).2.IsOpen := by
  cases call with
  | ensure key template => exact opened.ensure key template
  | increment key updates => exact opened.recounted (recounted_increment key updates database)
  | content | user | contentRange | userRange => exact opened

theorem isOpen_after (calls : List StoreCall) : (store.after calls fresh).IsOpen :=
  store.after_induction (fun call _ opened => opened.perform call) calls isOpen_fresh

/-! ## Lookups -/

theorem length_slots {kind : TrackerKind} {id : String} {sheet : Sheet}
    (found : database.sheet? kind id = some sheet) :
    sheet.slots.length = sheet.identity.days.length := by
  cases kind with
  | user =>
      obtain ⟨row, _, rfl⟩ := Option.map_eq_some_iff.mp found
      simp [UserRow.sheet]
  | post | comment =>
      obtain ⟨row, _, rfl⟩ := Option.map_eq_some_iff.mp found
      rfl

/-- A lookup among rows misses a tracker exactly where it has no row, readable or not. -/
theorem findContent_eq_none_iff (kind : ContentKind) (id : String)
    (rows : Shelf (ContentRow kind.tracker.Counted)) :
    findContent kind id (.rows rows) = .ok none ↔ rows.find? id = none := by
  simp only [findContent, Table.open?]
  cases rows.find? id with
  | none => simp
  | some row => simp [Answer.map_eq_ok_iff]

theorem content?_eq_none_iff (opened : database.IsOpen) (key : Key) :
    database.content? key = .ok none ↔ ∃ kind : ContentKind, key.kind = kind.tracker ∧
      database.sheet? kind.tracker key.id = none := by
  refine Answer.bind_eq_ok_iff.trans ?_
  refine exists_congr fun kind => and_congr Key.contentKind_eq_ok_iff ?_
  obtain ⟨rows, table⟩ := opened.contents kind
  rw [sheet?_content, Option.map_eq_none_iff, table]
  exact findContent_eq_none_iff kind key.id rows

theorem user?_eq_none_iff (opened : database.IsOpen) (key : Key) :
    database.user? key = .ok none ↔ key.kind = .user ∧ database.sheet? .user key.id = none := by
  obtain ⟨months, users⟩ := opened.users
  rw [sheet?, Option.map_eq_none_iff, users, Table.find?]
  by_cases isUser : key.kind = .user
  · have checked : key.checkUser = .ok () := if_pos isUser
    rw [and_iff_right isUser]
    cases found : months.find? key.id with
    | none => simp [user?_of_none checked users found]
    | some row => simp [user?_of_some checked users found, Answer.map_eq_ok_iff]
  · rw [user?, Key.checkUser, if_neg isUser]
    refine iff_of_false (fun read => ?_) fun here => isUser here.1
    cases read

/-- Open tables keep what trackers are. -/
theorem IsOpen.keepsIdentities (opened : database.IsOpen) :
    store.KeepsIdentities sheet? database where
  ensures := ensuresOnce opened
  increments key updates := (recounted_increment key updates database).keepsIdentity
  lasting calls _ _ _ found :=
    store.identity_after IsOpen (fun call _ opened => opened.perform call)
      (fun _ opened => ensuresOnce opened)
      (fun database _ key updates => (recounted_increment key updates database).keepsIdentity)
      opened calls found
  slotted _ _ _ := length_slots
  missed key := user?_eq_none_iff opened key
  missedContent key := content?_eq_none_iff opened key

end Database

end Relational

/-- Every memory, and every database that calls on a new one lead to, sets up each tracker once
and keeps what it is. -/
theorem identities_kept :
    (∀ memory, Memory.store.KeepsIdentities Memory.sheet? memory) ∧
      ∀ calls, Relational.Database.store.KeepsIdentities Relational.Database.sheet?
        (Relational.Database.store.after calls Relational.Database.fresh) :=
  ⟨Memory.keepsIdentities, fun calls =>
    (Relational.Database.isOpen_after calls).keepsIdentities⟩

end ActivityLedger

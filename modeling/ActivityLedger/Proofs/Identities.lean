import ActivityLedger.Proofs.MemorySteps
import ActivityLedger.Proofs.Relational.Increments

/-!
# Trackers keep what they are

A tracker is set up where a template describes the key and there is none of its kind under the
key's id, with nothing counted and, for a user, with a slot for every day of the month.  Where
there is one, or the template describes something else, nothing changes.  From then on it
stays, whatever calls follow, and so do its id, its entity, its owner, its period and its
slots.  Stores are compared by the way in which trackers are written in rows.
-/

namespace ActivityLedger

open Relational

/-! ## Trackers as they are written -/

/-- Everything in a tracker that is no count. -/
structure Identity where
  kind : TrackerKind
  id : String
  entityId : String
  /-- The author of the content that it counts for. -/
  ownerId? : Option String
  /-- The first day of the period. -/
  period : String
  /-- How many days a period has that is a month. -/
  daysInMonth? : Option Cell
  /-- The numbers of the days that have slots. -/
  days : List Cell

/-- A tracker in the form in which it is written in rows. -/
structure Sheet where
  identity : Identity
  counters : RowCounters
  /-- The counters of the days that have slots. -/
  slots : List (Columns UserCounter Cell)

def dayNumbers (count : Nat) : List Cell :=
  (List.range count).map fun (index : Nat) => .integer (Amount.wrap (index + 1))

theorem length_dayNumbers (count : Nat) : (dayNumbers count).length = count := by
  rw [dayNumbers, List.length_map, List.length_range]

def Relational.RowCounters.zero (kind : TrackerKind) : RowCounters := .of kind zeroCells

theorem Relational.RowCounters.zero_user : zero .user = .user zeroCells := rfl

/-- The template is for the entity that the key points at. -/
def Template.Describes (template : Template) (key : Key) : Prop :=
  template.kind = key.kind ∧ template.entityId = key.entityId

def Identity.of (key : Key) (template : Template) : Identity where
  kind := key.kind
  id := key.id
  entityId := key.entityId
  ownerId? := template.authorId?
  period := key.periodStart.text
  daysInMonth? := if key.kind.isMonthly then some (Cell.ofSmall key.daysInMonth) else none
  days := if key.kind.isMonthly then dayNumbers key.daysInMonth.toNat else []

def Sheet.blank (key : Key) (template : Template) : Sheet where
  identity := .of key template
  counters := .zero key.kind
  slots := if key.kind.isMonthly then List.replicate key.daysInMonth.toNat zeroCells else []

theorem Key.checkTemplate_of_describes {key : Key} {template : Template}
    (describes : template.Describes key) : key.checkTemplate template = .ok () :=
  if_pos describes

theorem Key.checkTemplate_of_foreign {key : Key} {template : Template}
    (foreign : ¬ template.Describes key) :
    ∃ fault, key.checkTemplate template = .error (.invariant fault) :=
  ⟨_, if_neg foreign⟩

theorem Key.contentKind_eq_ok_iff {key : Key} {kind : ContentKind} :
    key.contentKind = .ok kind ↔ key.kind = kind.tracker := by
  unfold contentKind
  cases key.kind <;> cases kind <;> simp [ContentKind.tracker]

/-! ## Stores that set up once -/

section

variable {σ : Type} (store : Store σ) (sheet? : σ → TrackerKind → String → Option Sheet)

/-- Of all trackers one is put in its place, and the others stay. -/
def Places (state next : σ) (kind : TrackerKind) (id : String) (sheet : Sheet) : Prop :=
  ∀ other otherId, sheet? next other otherId =
    if other = kind ∧ otherId = id then some sheet else sheet? state other otherId

/-- All trackers stay, but for what they count. -/
def KeepsIdentity (state next : σ) : Prop :=
  ∀ kind id, (sheet? next kind id).map Sheet.identity = (sheet? state kind id).map Sheet.identity

/-- A template for something else is refused, a tracker that is there is left as it is, and one
that is missing is put in its place, without counts. -/
structure Store.EnsuresOnce (state : σ) (key : Key) (template : Template) : Prop where
  foreign : ¬ template.Describes key →
    ∃ fault, store.ensure key template state = (.error (.invariant fault), state)
  present : template.Describes key → sheet? state key.kind key.id ≠ none →
    store.ensure key template state = (.ok false, state)
  absent : template.Describes key → sheet? state key.kind key.id = none →
    ∃ next, store.ensure key template state = (.ok true, next) ∧
      Places sheet? state next key.kind key.id (.blank key template)

/-- Trackers are set up once, increments change nothing but counts, and no calls take a tracker
away or make it another.  Each of its days has its counters, and lookups miss the trackers that
are not there and no others. -/
structure Store.KeepsIdentities (state : σ) : Prop where
  ensures : ∀ key template, store.EnsuresOnce sheet? state key template
  increments : ∀ key updates, KeepsIdentity sheet? state (store.increment key updates state).2
  lasting : ∀ calls kind id identity,
    (sheet? state kind id).map Sheet.identity = some identity →
      (sheet? (store.after calls state) kind id).map Sheet.identity = some identity
  slotted : ∀ kind id sheet, sheet? state kind id = some sheet →
    sheet.slots.length = sheet.identity.days.length
  missed : ∀ key, store.user? key state = .ok none ↔
    key.kind = .user ∧ sheet? state .user key.id = none
  missedContent : ∀ key, store.content? key state = .ok none ↔
    ∃ kind : ContentKind, key.kind = kind.tracker ∧ sheet? state kind.tracker key.id = none

variable {store : Store σ} {sheet? : σ → TrackerKind → String → Option Sheet} {state next : σ}

theorem KeepsIdentity.refl : KeepsIdentity sheet? state state := fun _ _ => rfl

/-- A tracker that gives its place to one with other counts only is kept. -/
theorem Places.keepsIdentity {kind : TrackerKind} {id : String} {sheet : Sheet}
    (places : Places sheet? state next kind id sheet)
    (found : (sheet? state kind id).map Sheet.identity = some sheet.identity) :
    KeepsIdentity sheet? state next := by
  intro other otherId
  rw [places]
  split
  · rename_i here
    rw [here.1, here.2, found, Option.map_some]
  · rfl

/-- A store sets up once if it goes by a lookup. -/
theorem Store.EnsuresOnce.of_lookup {key : Key} {template : Template} {α : Type}
    (lookup : Option α) (sheet : α → Sheet)
    (foreign : ¬ template.Describes key →
      ∃ fault, store.ensure key template state = (.error (.invariant fault), state))
    (place : template.Describes key → sheet? state key.kind key.id = lookup.map sheet)
    (present : template.Describes key → ∀ found, lookup = some found →
      store.ensure key template state = (.ok false, state))
    (absent : template.Describes key → lookup = none →
      ∃ next, store.ensure key template state = (.ok true, next) ∧
        Places sheet? state next key.kind key.id (.blank key template)) :
    store.EnsuresOnce sheet? state key template where
  foreign := foreign
  present describes there := by
    rw [place describes, ne_eq, Option.map_eq_none_iff] at there
    obtain ⟨found, here⟩ := Option.ne_none_iff_exists'.mp there
    exact present describes found here
  absent describes missing := by
    rw [place describes, Option.map_eq_none_iff] at missing
    exact absent describes missing

/-- Setting up keeps the trackers that are there. -/
theorem Store.EnsuresOnce.lasting {key : Key} {template : Template}
    (once : store.EnsuresOnce sheet? state key template) {kind : TrackerKind} {id : String}
    {sheet : Sheet} (found : sheet? state kind id = some sheet) :
    sheet? (store.ensure key template state).2 kind id = some sheet := by
  by_cases describes : template.Describes key
  · cases place : sheet? state key.kind key.id with
    | some other =>
        rw [once.present describes (by simp [place])]
        exact found
    | none =>
        obtain ⟨next, answer, places⟩ := once.absent describes place
        rw [answer, places, if_neg]
        · exact found
        · rintro ⟨rfl, rfl⟩
          rw [place] at found
          cases found
  · obtain ⟨fault, answer⟩ := once.foreign describes
    rw [answer]
    exact found

/-- Where setting up and increments keep what trackers are, all calls do. -/
theorem Store.identity_after (invariant : σ → Prop)
    (kept : ∀ call state, invariant state → invariant (store.perform call state).2)
    (ensures : ∀ state, invariant state →
      ∀ key template, store.EnsuresOnce sheet? state key template)
    (increments : ∀ state, invariant state →
      ∀ key updates, KeepsIdentity sheet? state (store.increment key updates state).2)
    (start : invariant state) (calls : List StoreCall) {kind : TrackerKind} {id : String}
    {identity : Identity} (found : (sheet? state kind id).map Sheet.identity = some identity) :
    (sheet? (store.after calls state) kind id).map Sheet.identity = some identity := by
  have step (call : StoreCall) (state : σ)
      (before : invariant state ∧ (sheet? state kind id).map Sheet.identity = some identity) :
      invariant (store.perform call state).2 ∧
        (sheet? (store.perform call state).2 kind id).map Sheet.identity = some identity := by
    obtain ⟨holds, found⟩ := before
    refine ⟨kept call state holds, ?_⟩
    cases call with
    | ensure key template =>
        obtain ⟨sheet, here, same⟩ := Option.map_eq_some_iff.mp found
        show (sheet? (store.ensure key template state).2 kind id).map _ = _
        rw [(ensures state holds key template).lasting here, Option.map_some, same]
    | increment key updates => exact (increments state holds key updates kind id).trans found
    | content key => exact found
    | user key => exact found
    | contentRange kind contentId first last => exact found
    | userRange userId first last => exact found
  exact (store.after_induction step calls ⟨start, found⟩).2

/-! ## What trackers were set up for -/

/-- Every tracker was set up for a key and a template. -/
def Identified (sheet? : σ → TrackerKind → String → Option Sheet) (state : σ) : Prop :=
  ∀ kind id sheet, sheet? state kind id = some sheet →
    ∃ key template, template.Describes key ∧ key.kind = kind ∧ key.id = id ∧
      sheet.identity = .of key template

theorem Identified.keepsIdentity (identified : Identified sheet? state)
    (keeps : KeepsIdentity sheet? state next) : Identified sheet? next := by
  intro kind id sheet found
  have same := keeps kind id
  rw [found, Option.map_some, eq_comm, Option.map_eq_some_iff] at same
  obtain ⟨before, here, same⟩ := same
  rw [← same]
  exact identified kind id before here

theorem Identified.ensure (identified : Identified sheet? state) {key : Key} {template : Template}
    (once : store.EnsuresOnce sheet? state key template) :
    Identified sheet? (store.ensure key template state).2 := by
  by_cases describes : template.Describes key
  · cases place : sheet? state key.kind key.id with
    | some other =>
        rw [once.present describes (by simp [place])]
        exact identified
    | none =>
        obtain ⟨next, answer, places⟩ := once.absent describes place
        rw [answer]
        intro kind id sheet found
        rw [places] at found
        split at found
        · rename_i own
          cases found
          exact ⟨key, template, describes, own.1.symm, own.2.symm, rfl⟩
        · exact identified kind id sheet found
  · obtain ⟨fault, answer⟩ := once.foreign describes
    rw [answer]
    exact identified

end

/-! ## Trackers in memory -/

def Counters.cells {κ : Type} [Vocabulary κ] (table : Counters κ) : Columns κ Cell :=
  Columns.tabulate fun counter => .integer (table.get counter)

theorem Counters.cells_zero {κ : Type} [Vocabulary κ] :
    (Counters.zero : Counters κ).cells = zeroCells := by
  refine Columns.ext fun counter => ?_
  simp [cells, zeroCells, Cell.zero]

def ContentCounters.cells : ContentCounters → RowCounters
  | .post counters => .post counters.cells
  | .comment counters => .comment counters.cells

theorem ContentCounters.cells_zero (kind : ContentKind) :
    (ContentCounters.zero kind).cells = .zero kind.tracker := by
  cases kind with
  | post => exact congrArg RowCounters.post Counters.cells_zero
  | comment => exact congrArg RowCounters.comment Counters.cells_zero

def ContentTracker.sheet (tracker : ContentTracker) : Sheet where
  identity := {
    kind := tracker.kind.tracker
    id := tracker.id
    entityId := tracker.contentId
    ownerId? := some tracker.ownerId
    period := tracker.day.text
    daysInMonth? := none
    days := [] }
  counters := tracker.counters.cells
  slots := []

def UserTracker.sheet (tracker : UserTracker) : Sheet where
  identity := {
    kind := .user
    id := tracker.id
    entityId := tracker.userId
    ownerId? := none
    period := tracker.month.text
    daysInMonth? := some (Cell.ofSmall tracker.daysInMonth)
    days := dayNumbers tracker.days.length }
  counters := .user tracker.monthly.cells
  slots := tracker.days.map Counters.cells

theorem Shelf.map_find?_insert {α β : Type} (shelf : Shelf α) (f : α → β) (id other : String)
    (value : α) : ((shelf.insert id value).find? other).map f =
      if other = id then some (f value) else (shelf.find? other).map f := by
  rw [find?_insert]
  split <;> rfl

namespace Memory

/-- The tracker of a kind under an id as it is written. -/
def sheet? (memory : Memory) : TrackerKind → String → Option Sheet
  | .user, id => (memory.users.find? id).map UserTracker.sheet
  | .post, id => (memory.posts.find? id).map ContentTracker.sheet
  | .comment, id => (memory.comments.find? id).map ContentTracker.sheet

theorem sheet?_content (memory : Memory) (kind : ContentKind) (id : String) :
    memory.sheet? kind.tracker id = ((memory.contents kind).find? id).map ContentTracker.sheet := by
  cases kind <;> rfl

theorem places_user (memory : Memory) (id : String) (tracker : UserTracker) :
    Places sheet? memory { memory with users := memory.users.insert id tracker } .user id
      tracker.sheet := by
  intro kind other
  cases kind with
  | user =>
      show ((memory.users.insert id tracker).find? other).map UserTracker.sheet = _
      rw [Shelf.map_find?_insert]
      exact if_congr (and_iff_right rfl).symm rfl rfl
  | post | comment => rfl

theorem places_content (memory : Memory) (kind : ContentKind) (id : String)
    (tracker : ContentTracker) :
    Places sheet? memory (memory.withContents kind ((memory.contents kind).insert id tracker))
      kind.tracker id tracker.sheet := by
  intro other otherId
  rcases other.eq_user_or_content with rfl | ⟨content, rfl⟩
  · rw [if_neg (by cases kind <;> simp [ContentKind.tracker])]
    show (Shelf.find? (withContents _ _ _).users otherId).map _ = _
    rw [users_withContents]
    rfl
  · rw [sheet?_content, sheet?_content, contents_withContents]
    by_cases same : content = kind
    · subst same
      rw [if_pos rfl, Shelf.map_find?_insert]
      exact if_congr (and_iff_right rfl).symm rfl rfl
    · rw [if_neg same, if_neg fun here => same (ContentKind.tracker_inj.mp here.1)]

theorem ensure_of_foreign (memory : Memory) {key : Key} {template : Template}
    (foreign : ¬ template.Describes key) :
    ∃ fault, store.ensure key template memory = (.error (.invariant fault), memory) := by
  obtain ⟨fault, refused⟩ := Key.checkTemplate_of_foreign foreign
  refine ⟨fault, ?_⟩
  show ensure key template memory = _
  unfold ensure
  rw [refused]

theorem sheet_zero {key : Key} {userId : String}
    (describes : (Template.user userId).Describes key) :
    (UserTracker.zero key.id userId key.periodStart key.daysInMonth).sheet =
      .blank key (.user userId) := by
  have isUser : key.kind = .user := describes.1.symm
  have same : key.entityId = userId := describes.2.symm
  simp [UserTracker.sheet, UserTracker.zero, Sheet.blank, Identity.of, isUser, same,
    TrackerKind.isMonthly, Template.authorId?, RowCounters.zero_user, Counters.cells_zero]

theorem sheet_newContent {key : Key} {template : Template} (kind : ContentKind)
    {authorId : String} (isKind : key.kind = kind.tracker)
    (names : template.authorId? = some authorId) :
    (newContent key kind authorId).sheet = .blank key template := by
  have daily : kind.tracker.isMonthly = false := by cases kind <;> rfl
  simp [ContentTracker.sheet, newContent, Sheet.blank, Identity.of, daily, isKind, names,
    ContentCounters.cells_zero]

theorem ensuresOnce_content (memory : Memory) {key : Key} {template : Template} (kind : ContentKind)
    {authorId : String} (isKind : template.kind = kind.tracker)
    (names : template.authorId? = some authorId)
    (answer : template.Describes key → ensure key template memory =
      (.ok (memory.ensureContent key kind authorId).1,
        (memory.ensureContent key kind authorId).2)) :
    store.EnsuresOnce sheet? memory key template := by
  refine .of_lookup ((memory.contents kind).find? key.id) ContentTracker.sheet
    (ensure_of_foreign memory) (fun describes => ?_) (fun describes tracker found => ?_)
    fun describes missing => ?_
  · rw [← describes.1, isKind]
    exact memory.sheet?_content kind key.id
  · show ensure key template memory = _
    rw [answer describes, ensureContent, found]
  · have keyKind : key.kind = kind.tracker := describes.1.symm.trans isKind
    refine ⟨memory.withContents kind
      ((memory.contents kind).insert key.id (newContent key kind authorId)), ?_, ?_⟩
    · show ensure key template memory = _
      rw [answer describes, ensureContent, missing]
      rfl
    · rw [keyKind, ← sheet_newContent kind keyKind names]
      exact places_content memory kind key.id _

/-- A memory sets up each tracker once. -/
theorem ensuresOnce (memory : Memory) (key : Key) (template : Template) :
    store.EnsuresOnce sheet? memory key template := by
  cases template with
  | post postId authorId =>
      refine ensuresOnce_content memory .post rfl rfl fun describes => ?_
      unfold ensure
      rw [Key.checkTemplate_of_describes describes]
  | comment commentId authorId =>
      refine ensuresOnce_content memory .comment rfl rfl fun describes => ?_
      unfold ensure
      rw [Key.checkTemplate_of_describes describes]
  | user userId =>
      have answer (describes : (Template.user userId).Describes key) :
          ensure key (.user userId) memory =
            (.ok (memory.ensureUser key userId).1, (memory.ensureUser key userId).2) := by
        unfold ensure
        rw [Key.checkTemplate_of_describes describes]
      refine .of_lookup (memory.users.find? key.id) UserTracker.sheet
        (ensure_of_foreign memory) (fun describes => ?_) (fun describes tracker found => ?_)
        fun describes missing => ?_
      · rw [← describes.1]
        rfl
      · show ensure key _ memory = _
        rw [answer describes, ensureUser, found]
      · have isUser : key.kind = .user := describes.1.symm
        refine ⟨{ memory with
          users := memory.users.insert key.id
            (UserTracker.zero key.id userId key.periodStart key.daysInMonth) }, ?_, ?_⟩
        · show ensure key _ memory = _
          rw [answer describes, ensureUser, missing]
        · rw [isUser, ← sheet_zero describes]
          exact places_user memory key.id _

/-- Adding to a tracker in memory changes nothing but what is counted. -/
theorem keepsIdentity_increment (key : Key) (updates : List Update) (memory : Memory) :
    KeepsIdentity sheet? memory (increment key updates memory).2 := by
  have step := step_perform memory (.increment key updates)
  change Step memory _ _ (increment key updates memory).2 at step
  generalize (increment key updates memory).2 = next at step
  generalize (store.perform (.increment key updates) memory).1 = answer at step
  cases step with
  | refused => exact .refl
  | ignored => exact .refl
  | addedToUser _ _ deltas tracker slot day nextDay nextMonth merged found =>
      refine (places_user memory key.id _).keepsIdentity ?_
      simp [sheet?, found, UserTracker.sheet]
  | addedToContent _ _ kind batch tracker counters merged isKind found =>
      refine (places_content memory kind key.id _).keepsIdentity ?_
      rw [sheet?_content, found]
      rfl

theorem length_slots {memory : Memory} {kind : TrackerKind} {id : String} {sheet : Sheet}
    (found : memory.sheet? kind id = some sheet) :
    sheet.slots.length = sheet.identity.days.length := by
  cases kind with
  | user =>
      obtain ⟨tracker, _, rfl⟩ := Option.map_eq_some_iff.mp found
      simp [UserTracker.sheet, dayNumbers]
  | post | comment =>
      obtain ⟨tracker, _, rfl⟩ := Option.map_eq_some_iff.mp found
      rfl

theorem user?_eq_none_iff (key : Key) (memory : Memory) :
    user? key memory = .ok none ↔ key.kind = .user ∧ memory.sheet? .user key.id = none := by
  rw [user?, Key.checkUser, sheet?, Option.map_eq_none_iff]
  split
  · rename_i isUser
    simp [isUser, Except.map]
  · rename_i other
    simp [other, Except.map]

theorem content?_eq_none_iff (key : Key) (memory : Memory) :
    content? key memory = .ok none ↔ ∃ kind : ContentKind, key.kind = kind.tracker ∧
      memory.sheet? kind.tracker key.id = none := by
  rw [content?, Answer.map_eq_ok_iff]
  refine exists_congr fun kind => and_congr Key.contentKind_eq_ok_iff ?_
  rw [sheet?_content, Option.map_eq_none_iff]

/-- Every memory keeps what its trackers are. -/
theorem keepsIdentities (memory : Memory) : store.KeepsIdentities sheet? memory where
  ensures := memory.ensuresOnce
  increments key updates := keepsIdentity_increment key updates memory
  lasting calls _ _ _ found :=
    store.identity_after (fun _ => True) (fun _ _ _ => trivial)
      (fun memory _ => memory.ensuresOnce)
      (fun memory _ key updates => keepsIdentity_increment key updates memory) trivial calls found
  slotted _ _ _ := length_slots
  missed key := user?_eq_none_iff key memory
  missedContent key := content?_eq_none_iff key memory

end Memory

end ActivityLedger

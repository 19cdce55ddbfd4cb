import ActivityLedger.Proofs.Relational.Readings

/-!
# The answers of two stores

The store in tables and the store in memory, called alike from the start, give the same
answers wherever the texts of the trackers in the answer are whole, and nowhere else.
A tracker whose texts hold a character of code zero comes back from the tables with its
texts cut, and the days of a user's month are then looked up under the cut id.
-/

namespace ActivityLedger

/-- The error without the wording that a store gives to a failure of its own. -/
def Error.unworded : Error → Error
  | .storage key _ applied => .storage key "" applied
  | error => error

namespace StoreAnswer

/-- The answers are the same, apart from the wording of a failure of a store. -/
def Agree (own other : StoreAnswer) : Prop :=
  own.mapError Error.unworded = other.mapError Error.unworded

instance (own other : StoreAnswer) : Decidable (Agree own other) :=
  inferInstanceAs (Decidable (_ = _))

def IsWhole : StoreAnswer → Prop
  | .ok (.content tracker) => ∀ found ∈ tracker, found.IsWhole
  | .ok (.user tracker) => ∀ found ∈ tracker, found.IsWhole
  | .ok (.contents trackers) => ∀ tracker ∈ trackers, tracker.IsWhole
  | .ok (.users trackers) => ∀ tracker ∈ trackers, tracker.IsWhole
  | .ok (.created _) | .ok .done | .error _ => True

theorem agree_ok_iff {value : StoreValue} {other : StoreAnswer} :
    Agree (.ok value) other ↔ other = .ok value := by
  cases other with
  | error error => simp [Agree, Except.mapError]
  | ok given => simp [Agree, Except.mapError, eq_comm]

/-- A value is agreed on where it is the other answer, too. -/
theorem agree_map_iff {α : Type} {value : α → StoreValue}
    (injective : ∀ a b, value a = value b → a = b) (own : α) (other : Except Error α) :
    Agree (.ok (value own)) (other.map value) ↔ other = .ok own := by
  rw [agree_ok_iff, Answer.map_eq_ok_iff]
  constructor
  · rintro ⟨given, rfl, same⟩
    rw [injective given own same]
  · rintro rfl
    exact ⟨own, rfl, rfl⟩

theorem isWhole_created (answer : Except Error Bool) : IsWhole (answer.map .created) := by
  cases answer <;> trivial

theorem isWhole_done (answer : Except Error Unit) : IsWhole (answer.map fun _ => .done) := by
  cases answer <;> trivial

theorem agree_storage (key reason other : String) (applied : List String) :
    Agree (.error (.storage key reason applied)) (.error (.storage key other applied)) := rfl

end StoreAnswer

namespace StoreCall

/-- The call adds no negative amount, and a batch that names a counter unless it is refused. -/
def Admitted : StoreCall → Prop
  | .increment key updates =>
      (∀ update ∈ updates, 0 ≤ update.delta.val) ∧
        ∀ batch ∈ (Batch.ofUpdates key updates).toOption, batch.isEmpty = false
  | _ => True

instance (call : StoreCall) : Decidable call.Admitted :=
  match call with
  | .increment _ _ => inferInstanceAs (Decidable (_ ∧ _))
  | .ensure .. | .content _ | .user _ | .contentRange .. | .userRange .. => .isTrue trivial

/-- A tracker that the call sets up has whole texts only. -/
def SetsUpWhole : StoreCall → Prop
  | .ensure key template =>
      Text.IsWhole key.id ∧ Text.IsWhole key.entityId ∧
        ∀ authorId ∈ template.authorId?, Text.IsWhole authorId
  | _ => True

instance (call : StoreCall) : Decidable call.SetsUpWhole :=
  match call with
  | .ensure _ _ => inferInstanceAs (Decidable (_ ∧ _ ∧ _))
  | .increment .. | .content _ | .user _ | .contentRange .. | .userRange .. => .isTrue trivial

end StoreCall

namespace Relational

namespace Mirrors

open StoreAnswer (Agree)

variable {memory : Memory} {database : Database}

/-! ## Setting up -/

theorem ensureUser (mirrors : Mirrors memory database) (key : Key) (userId : String) :
    ∃ next, database.ensureUser key userId = .ok ((memory.ensureUser key userId).1, next) ∧
      Mirrors (memory.ensureUser key userId).2 next := by
  obtain ⟨months, days, users, opened, mirror⟩ := mirrors.users
  unfold Memory.ensureUser Database.ensureUser
  rw [users, opened]
  rcases mirror.find? key.id with ⟨absent, noRow⟩ | ⟨tracker, row, rows, found, here, _⟩
  · simp only [Table.open?, absent, noRow]
    refine ⟨_, rfl, { mirrors with users := ⟨_, _, rfl, rfl, ?_⟩ }⟩
    exact mirror.insertNew key userId _ _
  · simp only [Table.open?, found, here]
    exact ⟨database, rfl, mirrors⟩

theorem ensureContent (mirrors : Mirrors memory database) (key : Key) (kind : ContentKind)
    (authorId : String) :
    ∃ next, database.ensureContent key kind authorId =
        .ok ((memory.ensureContent key kind authorId).1, next) ∧
      Mirrors (memory.ensureContent key kind authorId).2 next := by
  obtain ⟨rows, opened, mirror⟩ := mirrors.contents kind
  unfold Memory.ensureContent Database.ensureContent
  rw [opened]
  rcases mirror.insertContent key authorId with
    ⟨tracker, found, kept⟩ | ⟨absent, next, inserted, changed⟩
  · simp only [Table.open?, found, kept]
    rw [← opened, database.withContents_contents]
    exact ⟨database, rfl, mirrors⟩
  · simp only [Table.open?, absent, inserted]
    exact ⟨_, rfl, mirrors.withContents changed⟩

theorem ensure (mirrors : Mirrors memory database) (key : Key) (template : Template) :
    (Memory.ensure key template memory).1 = (Database.ensure key template database).1 ∧
      Mirrors (Memory.ensure key template memory).2 (Database.ensure key template database).2 := by
  unfold Memory.ensure Database.ensure
  cases key.checkTemplate template with
  | error error => exact ⟨rfl, mirrors⟩
  | ok =>
      cases template with
      | user userId =>
          obtain ⟨next, done, changed⟩ := mirrors.ensureUser key userId
          simp only [Except.bind, Database.ensureRows, done]
          exact ⟨trivial, changed⟩
      | post _ authorId =>
          obtain ⟨next, done, changed⟩ := mirrors.ensureContent key .post authorId
          simp only [Except.bind, Database.ensureRows, done]
          exact ⟨trivial, changed⟩
      | comment _ authorId =>
          obtain ⟨next, done, changed⟩ := mirrors.ensureContent key .comment authorId
          simp only [Except.bind, Database.ensureRows, done]
          exact ⟨trivial, changed⟩

/-! ## Adding -/

theorem increment (mirrors : Mirrors memory database) {key : Key} {updates : List Update}
    (admitted : (StoreCall.increment key updates).Admitted) :
    Agree ((Memory.increment key updates memory).1.map fun _ => .done)
        ((Database.increment key updates database).1.map fun _ => .done) ∧
      Mirrors (Memory.increment key updates memory).2
        (Database.increment key updates database).2 := by
  obtain ⟨natural, named⟩ := admitted
  unfold Memory.increment Database.increment
  cases made : Batch.ofUpdates key updates with
  | error error => exact ⟨rfl, mirrors⟩
  | ok batch =>
      have kept : ¬ database.Underflows key batch :=
        Database.not_underflows_of_natural made natural
      simp only [Except.bind]
      rcases mirrors.takes (Batch.kind_of_ofUpdates made) kept
          (named batch (by rw [made]; rfl)) with
        ⟨next, changed, applied, given, mirrored⟩ | ⟨unfit, reason, refused⟩
      · rw [applied, given]
        exact ⟨rfl, mirrored⟩
      · cases own : memory.applyBatch key batch with
        | ok next => exact absurd own (unfit next)
        | error error =>
            obtain ⟨cause, rfl⟩ := Memory.error_of_applyBatch own
            rw [refused]
            exact ⟨StoreAnswer.agree_storage key.id cause reason [], mirrors⟩

/-! ## Reading -/

theorem content (mirrors : Mirrors memory database) (key : Key) :
    Agree ((Memory.content? key memory).map .content)
        ((Database.content? key database).map .content) ↔
      StoreAnswer.IsWhole ((Memory.content? key memory).map .content) := by
  unfold Memory.content? Database.content?
  cases key.contentKind with
  | error error => exact iff_of_true rfl trivial
  | ok kind =>
      refine (StoreAnswer.agree_map_iff (fun _ _ => StoreValue.content.inj) _ _).trans ?_
      obtain ⟨rows, opened, mirror⟩ := mirrors.contents kind
      simp only [bind, Except.bind, opened]
      exact mirror.findContent_eq_ok_iff key.id

theorem user (mirrors : Mirrors memory database) (key : Key) :
    Agree ((Memory.user? key memory).map .user) ((Database.user? key database).map .user) ↔
      StoreAnswer.IsWhole ((Memory.user? key memory).map .user) := by
  obtain ⟨months, days, users, opened, mirror⟩ := mirrors.users
  unfold Memory.user?
  cases checked : key.checkUser with
  | error error =>
      simp only [Database.user?, checked, bind, Except.bind]
      exact iff_of_true rfl trivial
  | ok =>
      refine (StoreAnswer.agree_map_iff (fun _ _ => StoreValue.user.inj) _ _).trans ?_
      exact mirror.user?_eq_ok_iff users opened checked

theorem contentRange (mirrors : Mirrors memory database) (kind : ContentKind) (contentId : String)
    (first last : Key) :
    Agree ((Memory.contentRange kind contentId first last memory).map .contents)
        ((Database.contentRange kind contentId first last database).map .contents) ↔
      StoreAnswer.IsWhole
        ((Memory.contentRange kind contentId first last memory).map .contents) := by
  rw [Memory.contentRange_eq]
  unfold Database.contentRange
  cases Key.checkRange kind.tracker contentId first last with
  | error error => exact iff_of_true rfl trivial
  | ok =>
      refine (StoreAnswer.agree_map_iff (fun _ _ => StoreValue.contents.inj) _ _).trans ?_
      obtain ⟨rows, opened, mirror⟩ := mirrors.contents kind
      simp only [bind, Except.bind, opened]
      exact mirror.scanContent_eq_ok_iff contentId first.id last.id

theorem userRange (mirrors : Mirrors memory database) (userId : String) (first last : Key) :
    Agree ((Memory.userRange userId first last memory).map .users)
        ((Database.userRange userId first last database).map .users) ↔
      StoreAnswer.IsWhole ((Memory.userRange userId first last memory).map .users) := by
  obtain ⟨months, days, users, opened, mirror⟩ := mirrors.users
  rw [Memory.userRange_eq]
  cases checked : Key.checkRange .user userId first last with
  | error error =>
      simp only [Database.userRange, checked, bind, Except.bind]
      exact iff_of_true rfl trivial
  | ok =>
      refine (StoreAnswer.agree_map_iff (fun _ _ => StoreValue.users.inj) _ _).trans ?_
      exact mirror.userRange_eq_ok_iff users opened checked

/-! ## Calls -/

/-- One admitted call is answered alike exactly where the answer is whole. -/
theorem perform (mirrors : Mirrors memory database) {call : StoreCall} (admitted : call.Admitted) :
    (Agree (Memory.store.perform call memory).1 (Database.store.perform call database).1 ↔
        StoreAnswer.IsWhole (Memory.store.perform call memory).1) ∧
      Mirrors (Memory.store.perform call memory).2 (Database.store.perform call database).2 := by
  cases call with
  | ensure key template =>
      obtain ⟨same, changed⟩ := mirrors.ensure key template
      refine ⟨?_, changed⟩
      simp only [Store.perform, Memory.store, Database.store, ← same]
      exact iff_of_true rfl (StoreAnswer.isWhole_created _)
  | increment key updates =>
      obtain ⟨agree, changed⟩ := mirrors.increment admitted
      exact ⟨iff_of_true agree (StoreAnswer.isWhole_done _), changed⟩
  | content key => exact ⟨mirrors.content key, mirrors⟩
  | user key => exact ⟨mirrors.user key, mirrors⟩
  | contentRange kind contentId first last =>
      exact ⟨mirrors.contentRange kind contentId first last, mirrors⟩
  | userRange userId first last => exact ⟨mirrors.userRange userId first last, mirrors⟩

/-- Admitted calls one after the other are answered alike exactly where the answers are whole. -/
theorem answers (mirrors : Mirrors memory database) {calls : List StoreCall}
    (admitted : ∀ call ∈ calls, call.Admitted) :
    List.Forall₂ (fun own other => Agree own other ↔ StoreAnswer.IsWhole own)
      (Memory.store.answers calls memory) (Database.store.answers calls database) := by
  induction calls generalizing memory database with
  | nil => exact .nil
  | cons call rest ih =>
      obtain ⟨first, others⟩ := List.forall_mem_cons.mp admitted
      obtain ⟨agree, changed⟩ := mirrors.perform first
      exact .cons agree (ih changed others)

end Mirrors

end Relational

/-! ## Whole texts -/

namespace Memory

structure IsWhole (memory : Memory) : Prop where
  users : ∀ id tracker, memory.users.find? id = some tracker → tracker.IsWhole
  contents : ∀ kind id tracker, (memory.contents kind).find? id = some tracker → tracker.IsWhole

theorem isWhole_empty : empty.IsWhole where
  users _ _ found := by cases found
  contents kind _ _ found := by cases kind <;> cases found

namespace IsWhole

variable {memory : Memory}

theorem insertUser (whole : memory.IsWhole) (id : String) {tracker : UserTracker}
    (new : tracker.IsWhole) :
    { memory with users := memory.users.insert id tracker }.IsWhole where
  users other found here := by
    rcases Shelf.of_find?_insert here with ⟨_, rfl⟩ | ⟨_, before⟩
    · exact new
    · exact whole.users other found before
  contents kind other found here := by
    cases kind
    · exact whole.contents .post other found here
    · exact whole.contents .comment other found here

theorem insertContent (whole : memory.IsWhole) (kind : ContentKind) (id : String)
    {tracker : ContentTracker} (new : tracker.IsWhole) :
    (memory.withContents kind ((memory.contents kind).insert id tracker)).IsWhole where
  users other found here := by
    rw [users_withContents] at here
    exact whole.users other found here
  contents otherKind other found here := by
    rw [contents_withContents] at here
    split at here
    · rcases Shelf.of_find?_insert here with ⟨_, rfl⟩ | ⟨_, before⟩
      · exact new
      · exact whole.contents kind other found before
    · exact whole.contents otherKind other found here

/-- A step that sets up whole texts leaves whole texts. -/
theorem step (whole : memory.IsWhole) {call : StoreCall} {answer : StoreAnswer} {next : Memory}
    (step : Step memory call answer next) (setsUp : call.SetsUpWhole) : next.IsWhole := by
  cases step with
  | openedUser key =>
      exact whole.insertUser key.id ⟨setsUp.1, setsUp.2.1⟩
  | openedContent key template kind authorId describes isKind names =>
      exact whole.insertContent kind key.id ⟨setsUp.1, setsUp.2.1, setsUp.2.2 authorId names⟩
  | addedToUser key updates deltas tracker slot day nextDay nextMonth merged found =>
      exact whole.insertUser key.id (whole.users key.id tracker found)
  | addedToContent key updates kind batch tracker counters merged isKind found =>
      exact whole.insertContent kind key.id (whole.contents kind key.id tracker found)
  | _ => exact whole

/-- The answers of a memory with whole texts are whole. -/
theorem answer (whole : memory.IsWhole) {call : StoreCall} {answer : StoreAnswer} {next : Memory}
    (step : Step memory call answer next) : StoreAnswer.IsWhole answer := by
  cases step with
  | gotContent key tracker read =>
      obtain ⟨kind, _, rfl⟩ := Answer.map_eq_ok_iff.mp read
      exact fun tracker found => whole.contents kind key.id tracker found
  | gotUser key tracker read =>
      obtain ⟨_, _, rfl⟩ := Answer.map_eq_ok_iff.mp read
      exact fun tracker found => whole.users key.id tracker found
  | scannedContents kind contentId first last trackers read =>
      rw [contentRange_eq] at read
      obtain ⟨_, _, rfl⟩ := Answer.map_eq_ok_iff.mp read
      intro tracker member
      obtain ⟨id, found⟩ := Shelf.exists_of_mem_range (List.mem_of_mem_filter member)
      exact whole.contents kind id tracker found
  | scannedUsers userId first last trackers read =>
      rw [userRange_eq] at read
      obtain ⟨_, _, rfl⟩ := Answer.map_eq_ok_iff.mp read
      intro tracker member
      obtain ⟨id, found⟩ := Shelf.exists_of_mem_range (List.mem_of_mem_filter member)
      exact whole.users id tracker found
  | _ => trivial

theorem answers (whole : memory.IsWhole) {calls : List StoreCall}
    (setsUp : ∀ call ∈ calls, call.SetsUpWhole) :
    ∀ answer ∈ store.answers calls memory, StoreAnswer.IsWhole answer := by
  induction calls generalizing memory with
  | nil => exact List.forall_mem_nil _
  | cons call rest ih =>
      obtain ⟨first, others⟩ := List.forall_mem_cons.mp setsUp
      have here := step_perform memory call
      exact List.forall_mem_cons.mpr ⟨whole.answer here, ih (whole.step here first) others⟩

end IsWhole

end Memory

namespace Relational

/-- Admitted calls on a new database are answered as on an empty memory exactly where all texts
of the trackers in the answer are whole; this is everywhere if all trackers are set up so. -/
theorem agree_iff_isWhole (calls : List StoreCall) (admitted : ∀ call ∈ calls, call.Admitted) :
    List.Forall₂ (fun own other => StoreAnswer.Agree own other ↔ StoreAnswer.IsWhole own)
        (Memory.store.answers calls Memory.empty)
        (Database.store.answers calls Database.fresh) ∧
      ((∀ call ∈ calls, call.SetsUpWhole) →
        List.Forall₂ StoreAnswer.Agree (Memory.store.answers calls Memory.empty)
          (Database.store.answers calls Database.fresh)) := by
  have exactly := mirrors_fresh.answers admitted
  refine ⟨exactly, fun setsUp => ?_⟩
  have whole := Memory.isWhole_empty.answers setsUp
  exact ((List.forall₂_and_left _ _).mpr ⟨whole, exactly⟩).imp fun own other both =>
    both.2.mpr both.1

/-- Setting up the February of a user, adding to one of its days, and reading it back. -/
def februaryCalls (userId : String) : List StoreCall :=
  let key := Key.of .user userId midFebruary
  [ .ensure key (.user userId),
    .increment key [.user userId .commentsCreated .one],
    .user key ]

theorem agree_iff_isWhole_february :
    List.Forall₂ StoreAnswer.Agree (Memory.store.answers (februaryCalls "u") Memory.empty)
      (Database.store.answers (februaryCalls "u") Database.fresh) :=
  (agree_iff_isWhole (februaryCalls "u") (by decide +kernel)).2 (by decide +kernel)

/-- An id with a character of code zero is read back cut, and the days of its month are lost. -/
theorem not_agree_february :
    ¬ ∀ calls : List StoreCall, (∀ call ∈ calls, call.Admitted) →
      List.Forall₂ StoreAnswer.Agree (Memory.store.answers calls Memory.empty)
        (Database.store.answers calls Database.fresh) := by
  intro agree
  have answered := agree (februaryCalls "u\x00v") (by decide +kernel)
  revert answered
  decide +kernel

end Relational

end ActivityLedger

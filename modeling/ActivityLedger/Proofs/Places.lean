import ActivityLedger.Proofs.Accounts
import ActivityLedger.Proofs.Scans

/-!
# The places of a memory

A memory is known from the trackers at its places, one for each kind and id.  An
increment looks at its own place and changes no other, so that increments at different
places may be made in either order: they are answered alike and leave the same memory.
-/

namespace ActivityLedger

/-! ## Calls in either order -/

/-- Two calls may be made in either order. -/
structure Store.Commute {σ : Type} (store : Store σ) (first second : StoreCall) : Prop where
  firstAnswer : ∀ state,
    (store.perform first (store.perform second state).2).1 = (store.perform first state).1
  secondAnswer : ∀ state,
    (store.perform second (store.perform first state).2).1 = (store.perform second state).1
  states : ∀ state, (store.perform second (store.perform first state).2).2 =
    (store.perform first (store.perform second state).2).2

namespace Store

variable {σ : Type} {store : Store σ} {calls others : List StoreCall} {call : StoreCall}

/-- A call may be made before or after calls that it commutes with. -/
theorem perform_after_of_commute (commute : ∀ other ∈ calls, store.Commute other call) (state : σ) :
    (store.perform call (store.after calls state)).1 = (store.perform call state).1 ∧
      store.answers calls (store.perform call state).2 = store.answers calls state ∧
        store.after calls (store.perform call state).2 =
          (store.perform call (store.after calls state)).2 := by
  induction calls generalizing state with
  | nil => exact ⟨rfl, rfl, rfl⟩
  | cons first rest ih =>
      obtain ⟨here, later⟩ := List.forall_mem_cons.mp commute
      obtain ⟨answer, answered, left⟩ := ih later (store.perform first state).2
      rw [here.states] at answered left
      refine ⟨answer.trans (here.secondAnswer state), ?_, left⟩
      rw [answers, answers, here.firstAnswer, answered]

theorem after_after_of_commute
    (commute : ∀ first ∈ calls, ∀ second ∈ others, store.Commute first second) (state : σ) :
    store.answers others (store.after calls state) = store.answers others state ∧
      store.answers calls (store.after others state) = store.answers calls state ∧
        store.after others (store.after calls state) =
          store.after calls (store.after others state) := by
  induction others generalizing state with
  | nil => exact ⟨rfl, rfl, rfl⟩
  | cons call rest ih =>
      have here : ∀ other ∈ calls, store.Commute other call := fun other member =>
        commute other member call List.mem_cons_self
      obtain ⟨answer, answered, left⟩ := perform_after_of_commute here state
      have others : ∀ first ∈ calls, ∀ second ∈ rest, store.Commute first second :=
        fun first member second listed =>
          commute first member second (List.mem_cons_of_mem _ listed)
      obtain ⟨later, earlier, last⟩ := ih others (store.perform call state).2
      rw [left] at later last
      refine ⟨?_, earlier.trans answered, last⟩
      rw [answers, answers, answer, later]

end Store

/-! ## Trackers at places -/

theorem Shelf.ext_find? {α : Type} {left right : Shelf α}
    (same : ∀ id, left.find? id = right.find? id) : left = right := by
  apply Shelf.ext
  apply eq_of_mem_iff left.ascending right.ascending
  intro id value
  rw [← left.find?_eq_some_iff_mem, ← right.find?_eq_some_iff_mem, same]

inductive Tracker where
  | user (tracker : UserTracker)
  | content (tracker : ContentTracker)

namespace Memory

def tracker? (memory : Memory) : TrackerKind → String → Option Tracker
  | .user, id => (memory.users.find? id).map .user
  | .post, id => (memory.posts.find? id).map .content
  | .comment, id => (memory.comments.find? id).map .content

variable {memory other next : Memory} {key : Key} {updates : List Update}

theorem tracker?_user_eq_iff {id : String} :
    memory.tracker? .user id = other.tracker? .user id ↔
      memory.users.find? id = other.users.find? id :=
  (Option.map_injective fun _ _ => Tracker.user.inj).eq_iff

theorem tracker?_content_eq_iff (kind : ContentKind) {id : String} :
    memory.tracker? kind.tracker id = other.tracker? kind.tracker id ↔
      (memory.contents kind).find? id = (other.contents kind).find? id := by
  cases kind <;> exact (Option.map_injective fun _ _ => Tracker.content.inj).eq_iff

/-- Memories with the same trackers at all places are the same. -/
theorem ext_tracker? (same : ∀ kind id, memory.tracker? kind id = other.tracker? kind id) :
    memory = other := by
  have users : memory.users = other.users :=
    Shelf.ext_find? fun id => tracker?_user_eq_iff.mp (same .user id)
  have contents (kind : ContentKind) : memory.contents kind = other.contents kind :=
    Shelf.ext_find? fun id => (tracker?_content_eq_iff kind).mp (same kind.tracker id)
  have posts : memory.posts = other.posts := contents .post
  have comments : memory.comments = other.comments := contents .comment
  cases memory
  cases other
  simp_all only

theorem tracker?_insertUser_of_elsewhere (isUser : key.kind = .user) (tracker : UserTracker)
    {kind : TrackerKind} {id : String} (elsewhere : key.isAt kind id = false) :
    { memory with users := memory.users.insert key.id tracker }.tracker? kind id =
      memory.tracker? kind id := by
  rcases kind.eq_user_or_content with rfl | ⟨content, rfl⟩
  · have different : id ≠ key.id := fun same => by simp [Key.isAt, isUser, same] at elsewhere
    exact tracker?_user_eq_iff.mpr (Shelf.find?_insert_of_ne _ _ different)
  · refine (tracker?_content_eq_iff content).mpr ?_
    cases content <;> rfl

theorem tracker?_insertContent_of_elsewhere {own : ContentKind} (isKind : key.kind = own.tracker)
    (tracker : ContentTracker) {kind : TrackerKind} {id : String}
    (elsewhere : key.isAt kind id = false) :
    (memory.withContents own ((memory.contents own).insert key.id tracker)).tracker? kind id =
      memory.tracker? kind id := by
  rcases kind.eq_user_or_content with rfl | ⟨content, rfl⟩
  · rw [tracker?_user_eq_iff, users_withContents]
  · rw [tracker?_content_eq_iff, contents_withContents]
    split
    · rename_i same
      subst same
      have different : id ≠ key.id := fun same => by simp [Key.isAt, isKind, same] at elsewhere
      exact Shelf.find?_insert_of_ne _ _ different
    · rfl

/-- A memory is known from the tracker of a user at one place, and from all other places. -/
theorem eq_insertUser_iff (isUser : key.kind = .user) {tracker : UserTracker} :
    next = { memory with users := memory.users.insert key.id tracker } ↔
      (∀ kind id, key.isAt kind id = false → next.tracker? kind id = memory.tracker? kind id) ∧
        next.users.find? key.id = some tracker := by
  constructor
  · rintro rfl
    exact ⟨fun _ _ => tracker?_insertUser_of_elsewhere isUser tracker, Shelf.find?_insert_self ..⟩
  · rintro ⟨others, here⟩
    apply ext_tracker?
    intro kind id
    by_cases atKey : key.isAt kind id = true
    · obtain ⟨rfl, rfl⟩ := Key.isAt_iff.mp atKey
      rw [isUser, tracker?_user_eq_iff, here, Shelf.find?_insert_self]
    · have elsewhere := Bool.eq_false_iff.mpr atKey
      rw [others kind id elsewhere, tracker?_insertUser_of_elsewhere isUser tracker elsewhere]

theorem eq_insertContent_iff {own : ContentKind} (isKind : key.kind = own.tracker)
    {tracker : ContentTracker} :
    next = memory.withContents own ((memory.contents own).insert key.id tracker) ↔
      (∀ kind id, key.isAt kind id = false → next.tracker? kind id = memory.tracker? kind id) ∧
        (next.contents own).find? key.id = some tracker := by
  have held : ((memory.withContents own ((memory.contents own).insert key.id tracker)).contents
      own).find? key.id = some tracker := by
    rw [contents_withContents, if_pos rfl, Shelf.find?_insert_self]
  constructor
  · rintro rfl
    exact ⟨fun _ _ => tracker?_insertContent_of_elsewhere isKind tracker, held⟩
  · rintro ⟨others, here⟩
    apply ext_tracker?
    intro kind id
    by_cases atKey : key.isAt kind id = true
    · obtain ⟨rfl, rfl⟩ := Key.isAt_iff.mp atKey
      rw [isKind, tracker?_content_eq_iff, here, held]
    · have elsewhere := Bool.eq_false_iff.mpr atKey
      rw [others kind id elsewhere, tracker?_insertContent_of_elsewhere isKind tracker elsewhere]

/-! ## Increments at places -/

/-- An increment leaves every other place as it is. -/
theorem Step.tracker?_of_elsewhere {answer : StoreAnswer}
    (step : Step memory (.increment key updates) answer next) {kind : TrackerKind} {id : String}
    (elsewhere : key.isAt kind id = false) : next.tracker? kind id = memory.tracker? kind id := by
  cases step with
  | refused | ignored => rfl
  | addedToUser _ _ deltas tracker slot day nextDay nextMonth merged =>
      have isUser : key.kind = .user := (Batch.kind_of_ofUpdates merged).symm
      exact tracker?_insertUser_of_elsewhere isUser _ elsewhere
  | addedToContent _ _ own batch tracker counters merged isKind =>
      exact tracker?_insertContent_of_elsewhere isKind _ elsewhere

/-- Where the same tracker is at its key, a batch is refused alike or leaves the same tracker. -/
theorem applyBatch_congr {batch : Batch} (addressed : batch.kind = key.kind)
    (same : memory.tracker? key.kind key.id = other.tracker? key.kind key.id) :
    (∃ error, memory.applyBatch key batch = .error error ∧
      other.applyBatch key batch = .error error) ∨
    ∃ left right, memory.applyBatch key batch = .ok left ∧ other.applyBatch key batch = .ok right ∧
      left.tracker? key.kind key.id = right.tracker? key.kind key.id := by
  rw [← addressed] at same ⊢
  rcases batch.eq_user_or_content with ⟨deltas, rfl⟩ | ⟨kind, deltas, rfl⟩
  · have found := tracker?_user_eq_iff.mp same
    simp only [applyBatch, incrementUser, found]
    cases other.users.find? key.id with
    | none => exact Or.inl ⟨_, rfl, rfl⟩
    | some tracker =>
        dsimp only
        split
        · exact Or.inl ⟨_, rfl, rfl⟩
        · split
          · exact Or.inl ⟨_, rfl, rfl⟩
          · exact Or.inr ⟨_, _, rfl, rfl, tracker?_user_eq_iff.mpr (by simp)⟩
  · rw [Batch.kind_of, tracker?_content_eq_iff] at same
    simp only [applyBatch_content, incrementContent, same, Batch.kind_of]
    cases found : (other.contents kind).find? key.id with
    | none => exact Or.inl ⟨_, rfl, rfl⟩
    | some tracker =>
        dsimp only
        split
        · exact Or.inr ⟨_, _, rfl, rfl, (tracker?_content_eq_iff kind).mpr same⟩
        · split
          · exact Or.inl ⟨_, rfl, rfl⟩
          · refine Or.inr ⟨_, _, rfl, rfl, (tracker?_content_eq_iff kind).mpr ?_⟩
            rw [contents_withContents, contents_withContents, if_pos rfl, if_pos rfl,
              Shelf.find?_insert_self, Shelf.find?_insert_self]

theorem increment_congr (same : memory.tracker? key.kind key.id = other.tracker? key.kind key.id) :
    (increment key updates memory).1 = (increment key updates other).1 ∧
      (increment key updates memory).2.tracker? key.kind key.id =
        (increment key updates other).2.tracker? key.kind key.id := by
  unfold increment
  cases merged : Batch.ofUpdates key updates with
  | error error => exact ⟨rfl, same⟩
  | ok batch =>
      simp only [Except.bind]
      rcases applyBatch_congr (Batch.kind_of_ofUpdates merged) same with
        ⟨error, refused, refusedOther⟩ | ⟨left, right, added, addedOther, alike⟩
      · rw [refused, refusedOther]
        exact ⟨rfl, same⟩
      · rw [added, addedOther]
        exact ⟨rfl, alike⟩

/-- An increment leaves every place other than that of its key as it is. -/
theorem tracker?_increment {kind : TrackerKind} {id : String}
    (elsewhere : key.isAt kind id = false) (memory : Memory) :
    (increment key updates memory).2.tracker? kind id = memory.tracker? kind id :=
  (step_perform memory (.increment key updates)).tracker?_of_elsewhere elsewhere

/-- An increment is answered the same, and leaves the same at its place, before and after one at
another place. -/
theorem increment_after_increment {own : Key} {added : List Update}
    (apart : own.isAt key.kind key.id = false) (memory : Memory) :
    (increment key updates (increment own added memory).2).1 = (increment key updates memory).1 ∧
      (increment key updates (increment own added memory).2).2.tracker? key.kind key.id =
        (increment key updates memory).2.tracker? key.kind key.id :=
  increment_congr (tracker?_increment apart memory)

/-- Increments at different places may be made in either order. -/
theorem commute_increment {first second : Key} {updates others : List Update}
    (apart : first.isAt second.kind second.id = false) :
    store.Commute (.increment first updates) (.increment second others) := by
  have apartBack : second.isAt first.kind first.id = false := by
    rw [Bool.eq_false_iff, ne_eq, Key.isAt_iff] at apart ⊢
    exact fun ⟨sameKind, sameId⟩ => apart ⟨sameKind.symm, sameId.symm⟩
  constructor
  case firstAnswer =>
    intro memory
    obtain ⟨same, _⟩ := increment_after_increment apartBack memory
    exact congrArg (Except.map fun _ => StoreValue.done) same
  case secondAnswer =>
    intro memory
    obtain ⟨same, _⟩ := increment_after_increment apart memory
    exact congrArg (Except.map fun _ => StoreValue.done) same
  case states =>
    intro memory
    show (increment second others (increment first updates memory).2).2 =
      (increment first updates (increment second others memory).2).2
    apply ext_tracker?
    intro kind id
    by_cases atFirst : first.isAt kind id = true
    · obtain ⟨rfl, rfl⟩ := Key.isAt_iff.mp atFirst
      rw [tracker?_increment apartBack, (increment_after_increment apartBack memory).2]
    · have notFirst := Bool.eq_false_iff.mpr atFirst
      rw [tracker?_increment notFirst]
      by_cases atSecond : second.isAt kind id = true
      · obtain ⟨rfl, rfl⟩ := Key.isAt_iff.mp atSecond
        exact (increment_after_increment apart memory).2
      · have notSecond := Bool.eq_false_iff.mpr atSecond
        rw [tracker?_increment notSecond, tracker?_increment notSecond, tracker?_increment notFirst]

end Memory

end ActivityLedger

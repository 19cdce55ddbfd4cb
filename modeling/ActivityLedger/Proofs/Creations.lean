import ActivityLedger.Proofs.Accounts

/-!
# Trackers are set up once

A call that finds no tracker at its place sets one up, and says so.  Among whatever
calls on a memory, accepted or not, exactly one sets up a tracker that was missing and
is there in the end, and none sets up a tracker that was there.
-/

namespace ActivityLedger

/-- By its answer a call set up the tracker at the place of a key. -/
def StoreCall.creates (key : Key) : StoreCall → StoreAnswer → Bool
  | .ensure own _, .ok (.created created) => created && own.isAt key.kind key.id
  | _, _ => false

theorem StoreCall.creates_ensure {key own : Key} {template : Template} :
    (ensure own template).creates key (.ok (.created true)) = true ↔
      own.kind = key.kind ∧ own.id = key.id := by
  simp [creates]

/-- How many calls, made one after the other, set up the tracker at the place of a key. -/
def Store.creations {σ : Type} (store : Store σ) (key : Key) : List StoreCall → σ → Nat
  | [], _ => 0
  | call :: rest, state =>
      (if call.creates key (store.perform call state).1 then 1 else 0) +
        creations store key rest (store.perform call state).2

namespace Memory

theorem holds_insertUser_iff {memory : Memory} {id : String} {tracker : UserTracker} {key : Key} :
    { memory with users := memory.users.insert id tracker }.Holds key ↔
      memory.Holds key ∨ (key.kind = .user ∧ key.id = id) := by
  constructor
  · intro held
    rcases key.kind.eq_user_or_content with isUser | ⟨kind, isKind⟩
    · obtain ⟨found, lookup⟩ := (holds_user_iff isUser).mp held
      rcases Shelf.of_find?_insert lookup with ⟨same, _⟩ | ⟨_, before⟩
      · exact Or.inr ⟨isUser, same⟩
      · exact Or.inl ((holds_user_iff isUser).mpr ⟨found, before⟩)
    · left
      have present := (holds_content_iff isKind).mp held
      refine (holds_content_iff isKind).mpr ?_
      cases kind <;> exact present
  · rintro (held | ⟨isUser, rfl⟩)
    · exact held.insertUser id tracker
    · exact (holds_user_iff isUser).mpr ⟨tracker, Shelf.find?_insert_self ..⟩

theorem holds_insertContent_iff {memory : Memory} {kind : ContentKind} {id : String}
    {tracker : ContentTracker} {key : Key} :
    (memory.withContents kind ((memory.contents kind).insert id tracker)).Holds key ↔
      memory.Holds key ∨ (key.kind = kind.tracker ∧ key.id = id) := by
  constructor
  · intro held
    rcases key.kind.eq_user_or_content with isUser | ⟨other, isKind⟩
    · left
      rw [holds_user_iff isUser, users_withContents] at held
      exact (holds_user_iff isUser).mpr held
    · obtain ⟨found, lookup⟩ := (holds_content_iff isKind).mp held
      rw [contents_withContents] at lookup
      by_cases sameKind : other = kind
      · subst sameKind
        rw [if_pos rfl] at lookup
        rcases Shelf.of_find?_insert lookup with ⟨same, _⟩ | ⟨_, before⟩
        · exact Or.inr ⟨isKind, same⟩
        · exact Or.inl ((holds_content_iff isKind).mpr ⟨found, before⟩)
      · rw [if_neg sameKind] at lookup
        exact Or.inl ((holds_content_iff isKind).mpr ⟨found, lookup⟩)
  · rintro (held | ⟨isKind, rfl⟩)
    · exact held.insertContent kind id tracker
    · exact (holds_content_iff isKind).mpr
        ⟨tracker, by rw [contents_withContents, if_pos rfl, Shelf.find?_insert_self]⟩

variable {memory next : Memory} {call : StoreCall} {answer : StoreAnswer}

/-- A place has a tracker after a step if it had one, or if the call set it up. -/
theorem Step.holds_iff (step : Step memory call answer next) (key : Key) :
    next.Holds key ↔ memory.Holds key ∨ call.creates key answer = true := by
  cases step with
  | refused call => cases call <;> simp [StoreCall.creates]
  | gotContent | gotUser | scannedContents | scannedUsers | present | ignored =>
      simp [StoreCall.creates]
  | openedUser own isUser =>
      refine holds_insertUser_iff.trans (or_congr Iff.rfl ?_)
      rw [StoreCall.creates_ensure, ← isUser]
      exact and_congr eq_comm eq_comm
  | openedContent own template kind authorId describes isKind =>
      refine holds_insertContent_iff.trans (or_congr Iff.rfl ?_)
      rw [StoreCall.creates_ensure, ← isKind]
      exact and_congr eq_comm eq_comm
  | addedToUser own updates deltas tracker slot day nextDay nextMonth merged found =>
      have there : own.id = key.id → key.kind = .user → memory.Holds key := fun same isUser =>
        (holds_user_iff isUser).mpr ⟨tracker, same ▸ found⟩
      rw [holds_insertUser_iff]
      constructor
      · rintro (held | ⟨isUser, same⟩)
        · exact Or.inl held
        · exact Or.inl (there same.symm isUser)
      · rintro (held | ⟨⟨⟩⟩)
        exact Or.inl held
  | addedToContent own updates kind batch tracker counters merged isKind found =>
      have there : own.id = key.id → key.kind = kind.tracker → memory.Holds key :=
        fun same isKind => (holds_content_iff isKind).mpr ⟨tracker, same ▸ found⟩
      rw [holds_insertContent_iff]
      constructor
      · rintro (held | ⟨isKind, same⟩)
        · exact Or.inl held
        · exact Or.inl (there same.symm isKind)
      · rintro (held | ⟨⟨⟩⟩)
        exact Or.inl held

/-- A tracker is set up only where there was none. -/
theorem Step.absent_of_creates (step : Step memory call answer next) {key : Key}
    (creates : call.creates key answer = true) : ¬ memory.Holds key := by
  cases step with
  | refused call => cases call <;> cases creates
  | gotContent | gotUser | scannedContents | scannedUsers | present | ignored | addedToUser
  | addedToContent => simp [StoreCall.creates] at creates
  | openedUser own isUser absent =>
      obtain ⟨sameKind, sameId⟩ := StoreCall.creates_ensure.mp creates
      rw [holds_user_iff (sameKind.symm.trans isUser), ← sameId, absent]
      simp
  | openedContent own template kind authorId describes isKind names absent =>
      obtain ⟨sameKind, sameId⟩ := StoreCall.creates_ensure.mp creates
      rw [holds_content_iff (sameKind.symm.trans isKind), ← sameId, absent]
      simp

/-- A tracker that is there is never set up again, by whatever calls. -/
theorem creations_of_holds (calls : List StoreCall) {memory : Memory} {key : Key}
    (held : memory.Holds key) : store.creations key calls memory = 0 := by
  induction calls generalizing memory with
  | nil => rfl
  | cons call rest ih =>
      have step := step_perform memory call
      have nothing : ¬ call.creates key (store.perform call memory).1 = true :=
        fun creates => step.absent_of_creates creates held
      rw [Store.creations, if_neg nothing, ih ((step.holds_iff key).mpr (Or.inl held))]

/-- A tracker that was missing, and is there after calls, was set up by exactly one of them. -/
theorem creations_of_absent (calls : List StoreCall) {memory : Memory} {key : Key}
    (absent : ¬ memory.Holds key) (held : (store.after calls memory).Holds key) :
    store.creations key calls memory = 1 := by
  induction calls generalizing memory with
  | nil => exact absurd held absent
  | cons call rest ih =>
      have step := step_perform memory call
      rw [Store.creations]
      by_cases creates : call.creates key (store.perform call memory).1 = true
      · have present := (step.holds_iff key).mpr (Or.inr creates)
        rw [if_pos creates, creations_of_holds rest present]
      · have stillAbsent : ¬ (store.perform call memory).2.Holds key := by
          rw [step.holds_iff key]
          exact not_or.mpr ⟨absent, creates⟩
        rw [if_neg creates, ih stillAbsent held]

end Memory

end ActivityLedger

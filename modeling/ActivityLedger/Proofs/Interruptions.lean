import ActivityLedger.Proofs.Checks
import ActivityLedger.Proofs.Ledger
import ActivityLedger.Store.Faults

/-!
# Recordings that a store cuts short

On a memory any of whose calls may fail before they reach it, the error of a recording
is an exact account: it names the tracker of the first call that failed and the trackers
whose updates were added before, and the memory has these additions and no other.  On
any store, an increment that fails after others were committed is reported with them
exactly if its error is one that a caller may recover from.
-/

namespace ActivityLedger

/-! ## Interrupted stores -/

namespace Store

variable {σ : Type}

/-- The store on which calls that may change it can fail before they reach it, by how many of
them were made before. -/
def interrupted (store : Store σ) (faults : Nat → Option Error) : Store (σ × Nat) where
  ensure key template state :=
    match faults state.2 with
    | some error => (.error error, state.1, state.2 + 1)
    | none =>
        let (answer, next) := store.ensure key template state.1
        (answer, next, state.2 + 1)
  increment key updates state :=
    match faults state.2 with
    | some error => (.error error, state.1, state.2 + 1)
    | none =>
        let (answer, next) := store.increment key updates state.1
        (answer, next, state.2 + 1)
  content? key state := store.content? key state.1
  user? key state := store.user? key state.1
  contentRange kind contentId first last state :=
    store.contentRange kind contentId first last state.1
  userRange userId first last state := store.userRange userId first last state.1

variable {store : Store σ} {faults : Nat → Option Error} {call : StoreCall} {state : σ} {made : Nat}

/-- A call fails before it reaches the store, or it reaches it. -/
theorem perform_interrupted (changes : call.Changes) :
    (store.interrupted faults).perform call (state, made) =
      match faults made with
      | some error => (.error error, state, made + 1)
      | none => ((store.perform call state).1, (store.perform call state).2, made + 1) := by
  cases call with
  | ensure key template =>
      simp only [perform, interrupted]
      cases faults made <;> rfl
  | increment key updates =>
      simp only [perform, interrupted]
      cases faults made <;> rfl
  | content | user | contentRange | userRange => exact changes.elim

theorem perform_of_accepted (changes : call.Changes) {value : StoreValue}
    (accepted : ((store.interrupted faults).perform call (state, made)).1 = .ok value) :
    (store.perform call state).1 = .ok value ∧
      ((store.interrupted faults).perform call (state, made)).2 =
        ((store.perform call state).2, made + 1) := by
  rw [perform_interrupted changes] at accepted ⊢
  cases fault : faults made with
  | some error =>
      rw [fault] at accepted
      cases accepted
  | none =>
      rw [fault] at accepted
      exact ⟨accepted, rfl⟩

theorem after_of_accepts {calls : List StoreCall} (changes : ∀ call ∈ calls, call.Changes)
    (accepted : (store.interrupted faults).Accepts calls (state, made)) :
    store.Accepts calls state ∧
      (store.interrupted faults).after calls (state, made) =
        (store.after calls state, made + calls.length) := by
  induction calls generalizing state made with
  | nil => exact ⟨store.accepts_nil state, rfl⟩
  | cons call rest ih =>
      obtain ⟨first, others⟩ := List.forall_mem_cons.mp changes
      obtain ⟨⟨value, answered⟩, later⟩ := accepts_cons_iff.mp accepted
      obtain ⟨reached, next⟩ := perform_of_accepted first answered
      rw [next] at later
      obtain ⟨acceptedRest, left⟩ := ih others later
      constructor
      · exact accepts_cons_iff.mpr ⟨⟨value, reached⟩, acceptedRest⟩
      · rw [after, next, left, List.length_cons, Nat.add_right_comm, Nat.add_assoc]
        rfl

/-- A call that is refused before it reaches the store, or by the store itself, leaves the state
as it is, if the store does. -/
theorem perform_of_refused (changes : call.Changes)
    (keeps : ∀ error, store.Refuses call state error → (store.perform call state).2 = state)
    {cause : Error} (refused : (store.interrupted faults).Refuses call (state, made) cause) :
    ((store.interrupted faults).perform call (state, made)).2.1 = state := by
  unfold Refuses at refused
  rw [perform_interrupted changes] at refused ⊢
  cases fault : faults made with
  | some error => rfl
  | none =>
      rw [fault] at refused
      exact keeps cause refused

end Store

namespace Memory

/-- A memory that refuses a call is left as it is. -/
theorem perform_of_refuses {memory : Memory} {call : StoreCall} {error : Error}
    (refused : store.Refuses call memory error) : (store.perform call memory).2 = memory := by
  have step := step_perform memory call
  rw [refused] at step
  generalize (store.perform call memory).2 = next at step
  cases step
  rfl

end Memory

namespace Record

/-! ## The account of a failed recording -/

/-- An error that is given for a tracker names it, and what was committed before. -/
theorem of_located_eq_storage {key : Key} {applied committed : List String} {cause : Error}
    {id reason : String} (same : located key applied cause = .storage id reason committed) :
    id = key.id ∧ committed = applied := by
  cases cause with
  | storage | database =>
      cases same
      exact ⟨rfl, rfl⟩
  | request | argument | lookup | invariant | migration | configuration | system | serialization
  | other => cases same

/-- The recording of an event on a memory that is interrupted stopped at the tracker of a share,
when the updates of some trackers were committed: after some calls, at a call. -/
structure Account (faults : Nat → Option Error) (directory : Directory) (event : Event)
    (date : Date) (memory : Memory) (plan : Plan) (share : Share) (applied : List String)
    (done : List StoreCall) (call : StoreCall) : Prop where
  planned : planOf directory event = .ok plan
  stop : Stop (plan.trackers.map (shareOf plan date)) share applied done call
  made : calls (Memory.store.interrupted faults) directory event date (memory, 0) = done ++ [call]
  accepted : (Memory.store.interrupted faults).Accepts done (memory, 0)
  refused : ∃ cause, (Memory.store.interrupted faults).Refuses call
    ((Memory.store.interrupted faults).after done (memory, 0)) cause
  /-- The calls before were made on the memory itself, which refused none of them. -/
  reached : Memory.store.Accepts done memory
  /-- Nothing else was done to the memory. -/
  left : (record (Memory.store.interrupted faults) directory event date (memory, 0)).2.1 =
    Memory.store.after done memory

/-- If a recording on a memory that is interrupted is refused with the error of a tracker, this is
the tracker of the first call that failed, and the trackers named beside it are those whose
updates were committed.  The memory has what the calls before did, and nothing else. -/
theorem account_of_storage (faults : Nat → Option Error) (directory : Directory)
    (answers : directory.Answers) (event : Event) (date : Date) (memory : Memory)
    (id reason : String) (applied : List String)
    (failed : (record (Memory.store.interrupted faults) directory event date (memory, 0)).1 =
      .error (.storage id reason applied)) :
    ∃ plan share done call, id = share.key.id ∧
      Account faults directory event date memory plan share applied done call := by
  cases prepared : prepare directory event date with
  | error error =>
      simp only [record, prepared, Except.error.injEq] at failed
      have apart := apart_prepare answers event date error prepared
      rw [failed] at apart
      cases apart
  | ok checked =>
      cases checked with
      | uncounted attributions => simp [record, prepared] at failed
      | counted plan shares =>
          obtain ⟨planned, _, _, rfl⟩ := prepare_eq_counted prepared
          obtain ⟨answer, course, recorded⟩ :=
            record_of_counted prepared (Memory.store.interrupted faults) (memory, 0)
          rw [recorded] at failed
          have refused := Answer.map_eq_error_iff.mp failed
          generalize made : calls _ directory event date (memory, 0) = all at course recorded
          cases course with
          | finished => cases refused
          | @stopped share committed done call cause stop accepted refusing =>
              obtain ⟨rfl, rfl⟩ := of_located_eq_storage (Except.error.inj refused)
              obtain ⟨changes, last⟩ := stop.changes
              obtain ⟨reached, left⟩ := Store.after_of_accepts changes accepted
              refine ⟨plan, share, done, call, rfl,
                planned, stop, made, accepted, ⟨cause, refusing⟩, reached, ?_⟩
              rw [left] at refusing
              rw [recorded, Store.after_append, left]
              exact Store.perform_of_refused last
                (fun _ refuses => Memory.perform_of_refuses refuses) refusing

/-- A vote on the post of somebody else. -/
def smallVote : Event := (Event.updatePost (.user "bo") "ana" "p1").withVote .up

theorem account_of_storage_vote :
    ∃ plan share done call, "ana2402" = share.key.id ∧
      Account (fun made => if made = 4 then some (.database "disk full") else none)
        Memory.smallDirectory smallVote lateFebruary Memory.empty plan share ["bo2402"] done call := by
  have answers : Memory.smallDirectory.Answers := ⟨fun _ _ => nofun, fun _ _ => nofun⟩
  exact account_of_storage _ _ answers _ _ _ "ana2402" "disk full" ["bo2402"] (by rfl)

/-! ## The report of a partial commit -/

def addedIds (calls : List StoreCall) : List String :=
  calls.filterMap fun call =>
    match call with
    | .increment key _ => some key.id
    | _ => none

variable {σ : Type} {store : Store σ} {directory : Directory} {event : Event} {date : Date}
  {state : σ} {done : List StoreCall} {key : Key} {updates : List Update} {cause : Error}

/-- The recording of an event failed at an increment, after others were committed. -/
structure PartialCommit (store : Store σ) (directory : Directory) (event : Event) (date : Date)
    (state : σ) (done : List StoreCall) (key : Key) (updates : List Update) (cause : Error) :
    Prop where
  made : calls store directory event date state = done ++ [.increment key updates]
  accepted : store.Accepts done state
  refused : store.Refuses (.increment key updates) (store.after done state) cause
  committed : addedIds done ≠ []

theorem addedIds_done (shares before : List Share) :
    addedIds (openings shares ++ postings before) = postedIds before := by
  have nothing : addedIds (openings shares) = [] :=
    List.filterMap_eq_nil_iff.mpr (List.forall_mem_map.mpr fun _ _ => rfl)
  have added : addedIds (postings before) = postedIds before := by
    simp [addedIds, postings, postedIds, Share.posting, Function.comp_def]
  have split : addedIds (openings shares ++ postings before) =
      addedIds (openings shares) ++ addedIds (postings before) := List.filterMap_append
  rw [split, nothing, added, List.nil_append]

/-- Only an event that passed every check makes calls. -/
theorem prepare_of_calls (made : calls store directory event date state ≠ []) :
    ∃ plan shares, prepare directory event date = .ok (.counted plan shares) := by
  cases prepared : prepare directory event date with
  | error error => simp [calls, record, prepared] at made
  | ok checked =>
      cases checked with
      | uncounted attributions => simp [calls, record, prepared] at made
      | counted plan shares => exact ⟨plan, shares, rfl⟩

/-- After a partial commit the error of the store is given for the tracker that failed. -/
theorem PartialCommit.record_eq
    (part : PartialCommit store directory event date state done key updates cause) :
    (record store directory event date state).1 = .error (located key (addedIds done) cause) := by
  obtain ⟨plan, shares, prepared⟩ := prepare_of_calls (by rw [part.made]; simp)
  obtain ⟨answer, course, recorded⟩ := record_of_counted prepared store state
  generalize made : calls store directory event date state = all at course recorded
  rw [part.made] at made
  have refused := part.refused
  rw [recorded]
  cases course with
  | finished accepted =>
      rw [← made] at accepted
      obtain ⟨⟨value, answered⟩, _⟩ :=
        Store.accepts_cons_iff.mp (Store.accepts_append_iff.mp accepted).2
      cases refused.symm.trans answered
  | @stopped share committed before call stopCause stop accepted refusing =>
      obtain ⟨rfl, last⟩ := List.append_inj' made rfl
      obtain rfl := List.singleton_inj.mp last
      cases stop with
      | posting earlier share later split updated =>
          cases Except.error.inj (refusing.symm.trans refused)
          rw [addedIds_done]
          rfl

/-- What is answered after a partial commit: an error that a caller may recover from is reported
with the tracker that failed and those that were committed before.  Any other error is passed on
as it is, and neither is named. -/
theorem PartialCommit.reported_iff_isRecoverable
    (part : PartialCommit store directory event date state done key updates cause) :
    ((∃ reason, (record store directory event date state).1 =
        .error (.storage key.id reason (addedIds done))) ↔ cause.isRecoverable = true) ∧
      (cause.isRecoverable = false → (record store directory event date state).1 = .error cause) := by
  rw [part.record_eq]
  cases cause with
  | storage | database => simp [located, Error.isRecoverable]
  | request | argument | lookup | invariant | migration | configuration | system | serialization
  | other => simp [located, Error.isRecoverable]

/-- A vote that is committed for the actor only: the store fails at the owner. -/
theorem partialCommit_smallVote (error : Error) :
    PartialCommit (Memory.store.withFaults [⟨.increment, "ana", error⟩]) Memory.smallDirectory
      smallVote lateFebruary Memory.empty
      [.ensure (Key.of .user "bo" lateFebruary) (.user "bo"),
        .ensure (Key.of .user "ana" lateFebruary) (.user "ana"),
        .ensure (Key.of .post "p1" lateFebruary) (.post "p1" "ana"),
        .increment (Key.of .user "bo" lateFebruary)
          [.user "bo" .votesForOthers Amount.one, .user "bo" .upVotesForOthers Amount.one]]
      (Key.of .user "ana" lateFebruary)
      [.user "ana" .votesForOwned Amount.one, .user "ana" .upVotesForOwned Amount.one] error where
  made := by rfl
  accepted := by
    show ∀ answer ∈ ([.ok (.created true), .ok (.created true), .ok (.created true), .ok .done] :
      List StoreAnswer), answer.isOk = true
    decide
  refused := by rfl
  committed := by decide +kernel

theorem reported_iff_isRecoverable_vote :
    (record (Memory.store.withFaults [⟨.increment, "ana", .other "boom"⟩]) Memory.smallDirectory
      smallVote lateFebruary Memory.empty).1 = .error (.other "boom") :=
  (partialCommit_smallVote (.other "boom")).reported_iff_isRecoverable.2 rfl

/-- A partial commit is not reported where the store fails with another error. -/
theorem not_always_reported :
    ¬ ∀ {σ : Type} (store : Store σ) (directory : Directory) (event : Event) (date : Date)
      (state : σ) (done : List StoreCall) (key : Key) (updates : List Update) (cause : Error),
      PartialCommit store directory event date state done key updates cause →
        ∃ reason, (record store directory event date state).1 =
          .error (.storage key.id reason (addedIds done)) := by
  intro always
  obtain ⟨reason, reported⟩ := always _ _ _ _ _ _ _ _ _ (partialCommit_smallVote (.other "boom"))
  cases reported

end Record

end ActivityLedger

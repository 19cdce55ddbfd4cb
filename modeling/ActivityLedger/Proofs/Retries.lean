import ActivityLedger.Proofs.Fronts
import ActivityLedger.Proofs.Places

/-!
# Recordings made once more

A recording that failed with the error of a store may be made once more.  Setting up
trackers that are there changes nothing, and the updates of different trackers may be
added in either order.  So the two recordings together leave the memory as a single one
does, but that the additions which the first one made before it failed are made twice.
-/

namespace ActivityLedger

/-! ## Trackers set up again -/

namespace Memory

variable {memory next : Memory} {key : Key} {template : Template}

theorem Step.holds_of_ensure {value : StoreValue}
    (step : Step memory (.ensure key template) (.ok value) next) : next.Holds key := by
  cases step with
  | present _ _ describes held => exact held
  | openedUser _ isUser absent => exact holds_insertUser_iff.mpr (Or.inr ⟨isUser, rfl⟩)
  | openedContent _ _ kind authorId describes isKind names absent =>
      exact holds_insertContent_iff.mpr (Or.inr ⟨isKind, rfl⟩)

/-- Setting up a tracker that is there changes nothing. -/
theorem Step.eq_of_holds {value : StoreValue}
    (step : Step memory (.ensure key template) (.ok value) next) (held : memory.Holds key) :
    next = memory := by
  cases step with
  | present => rfl
  | openedUser _ isUser absent =>
      obtain ⟨tracker, found⟩ := (holds_user_iff isUser).mp held
      cases absent.symm.trans found
  | openedContent _ _ kind authorId describes isKind names absent =>
      obtain ⟨tracker, found⟩ := (holds_content_iff isKind).mp held
      cases absent.symm.trans found

/-- A tracker stays, whatever is called. -/
theorem Holds.after (held : memory.Holds key) (calls : List StoreCall) :
    (store.after calls memory).Holds key :=
  store.after_induction
    (fun call state held => ((step_perform state call).holds_iff key).mpr (Or.inl held)) calls held

end Memory

namespace Record

open Memory (store)

variable {memory : Memory} {shares : List Share}

theorem exists_opening {share : Share} (sound : share.Sound) (memory : Memory) :
    ∃ value, (store.perform share.opening memory).1 = .ok value ∧
      Memory.Step memory share.opening (.ok value) (store.perform share.opening memory).2 := by
  obtain ⟨value, answered⟩ := memory.exists_ensure sound.describes
  have same : (store.perform share.opening memory).1 = .ok value := answered
  have step := Memory.step_perform memory share.opening
  rw [same] at step
  exact ⟨value, same, step⟩

theorem accepts_openings (sound : ∀ share ∈ shares, share.Sound) (memory : Memory) :
    store.Accepts (openings shares) memory ∧
      ∀ share ∈ shares, (store.after (openings shares) memory).Holds share.key := by
  induction shares generalizing memory with
  | nil => exact ⟨store.accepts_nil memory, List.forall_mem_nil _⟩
  | cons share rest ih =>
      obtain ⟨first, others⟩ := List.forall_mem_cons.mp sound
      obtain ⟨value, answered, step⟩ := exists_opening first memory
      obtain ⟨accepted, held⟩ := ih others (store.perform share.opening memory).2
      constructor
      · exact Store.accepts_cons_iff.mpr ⟨⟨value, answered⟩, accepted⟩
      · exact List.forall_mem_cons.mpr ⟨step.holds_of_ensure.after _, held⟩

theorem after_openings_of_holds (sound : ∀ share ∈ shares, share.Sound)
    (held : ∀ share ∈ shares, memory.Holds share.key) :
    store.after (openings shares) memory = memory := by
  induction shares with
  | nil => rfl
  | cons share rest ih =>
      obtain ⟨first, others⟩ := List.forall_mem_cons.mp sound
      obtain ⟨here, heldRest⟩ := List.forall_mem_cons.mp held
      obtain ⟨value, _, step⟩ := exists_opening first memory
      show store.after (openings rest) (store.perform share.opening memory).2 = memory
      rw [step.eq_of_holds here]
      exact ih others heldRest

/-- Shares of which the first were set up before are set up as if none were. -/
theorem after_openings_again {before later : List Share}
    (sound : ∀ share ∈ before ++ later, share.Sound) :
    store.after (openings (before ++ later)) (store.after (openings before) memory) =
      store.after (openings (before ++ later)) memory := by
  have soundBefore := (List.forall_mem_append.mp sound).1
  have settled := after_openings_of_holds soundBefore (accepts_openings soundBefore memory).2
  have split : openings (before ++ later) = openings before ++ openings later := List.map_append
  rw [split, Store.after_append, Store.after_append, settled]

/-! ## Additions made again -/

theorem apart_shares {plan : Plan} {date : Date} (sound : plan.Sound)
    (addressable : Addressable plan date) :
    (plan.trackers.map (shareOf plan date)).Pairwise fun first second =>
      first.key.isAt second.key.kind second.key.id = false := by
  have booking : (Booking.mk plan date).Sound := ⟨sound, addressable⟩
  refine List.pairwise_map.mpr ((List.pairwise_map.mp sound.distinct).imp_of_mem ?_)
  intro first second listed other different
  have place := Booking.isAt_shareOf booking listed second.target (addressable second other).2
  rw [decide_eq_false different, Bool.false_and] at place
  exact place

/-- Additions of shares at places of their own may be made in either order. -/
theorem commute_postings {before later : List Share}
    (apart : (before ++ later).Pairwise fun first second =>
      first.key.isAt second.key.kind second.key.id = false) :
    ∀ first ∈ postings before, ∀ second ∈ postings later, store.Commute first second := by
  intro first earlier second following
  obtain ⟨share, updated, rfl⟩ := List.mem_map.mp earlier
  obtain ⟨other, otherUpdated, rfl⟩ := List.mem_map.mp following
  apply Memory.commute_increment
  exact (List.pairwise_append.mp apart).2.2 share (List.mem_of_mem_filter updated) other
    (List.mem_of_mem_filter otherUpdated)

def additions (calls : List StoreCall) : List StoreCall :=
  calls.filter fun call =>
    match call with
    | .increment .. => true
    | _ => false

theorem additions_openings (shares : List Share) : additions (openings shares) = [] :=
  List.filter_eq_nil_iff.mpr (List.forall_mem_map.mpr fun _ _ => nofun)

theorem additions_done (shares before : List Share) :
    additions (openings shares ++ postings before) = postings before := by
  have all : additions (postings before) = postings before :=
    List.filter_eq_self.mpr (List.forall_mem_map.mpr fun _ _ => rfl)
  have split : additions (openings shares ++ postings before) =
      additions (openings shares) ++ additions (postings before) := List.filter_append ..
  rw [split, additions_openings, all, List.nil_append]

theorem additions_eq_nil {calls : List StoreCall} (none : addedIds calls = []) :
    additions calls = [] := by
  refine List.filter_eq_nil_iff.mpr fun call member => ?_
  have unnamed := List.filterMap_eq_nil_iff.mp none call member
  cases call with
  | increment => cases unnamed
  | ensure | content | user | contentRange | userRange => exact nofun

/-- Where a commit stops it added to the trackers that it names. -/
theorem Stop.addedIds_eq {share : Share} {applied : List String} {done : List StoreCall}
    {call : StoreCall} (stop : Stop shares share applied done call) : addedIds done = applied := by
  cases stop with
  | opening before share later split =>
      have none := addedIds_done before []
      rwa [show postings [] = [] from rfl, List.append_nil] at none
  | posting before share later split updated => exact addedIds_done shares before

/-- After calls on a memory, all calls for shares come to what they come to without these, and to
the additions among these once more. -/
structure Repeats (shares : List Share) (memory : Memory) (done : List StoreCall) : Prop where
  single : store.Accepts (openings shares ++ postings shares) memory
  room : store.Accepts (additions done) (store.after (openings shares ++ postings shares) memory)
  final : store.after (openings shares ++ postings shares) (store.after done memory) =
    store.after (additions done) (store.after (openings shares ++ postings shares) memory)

theorem repeats_of_openings {before later : List Share}
    (sound : ∀ share ∈ before ++ later, share.Sound)
    (accepted : store.Accepts (openings (before ++ later) ++ postings (before ++ later))
      (store.after (openings before) memory)) :
    Repeats (before ++ later) memory (openings before) := by
  obtain ⟨opened, _⟩ := accepts_openings sound memory
  rw [Store.accepts_append_iff, after_openings_again sound] at accepted
  constructor
  case single => exact Store.accepts_append_iff.mpr ⟨opened, accepted.2⟩
  case room =>
    rw [additions_openings]
    exact store.accepts_nil _
  case final =>
    rw [additions_openings, Store.after_append, Store.after_append, after_openings_again sound]
    rfl

/-- Shares that were all set up, and of which the first were added. -/
theorem repeats_of_postings {before later : List Share}
    (sound : ∀ share ∈ before ++ later, share.Sound)
    (apart : (before ++ later).Pairwise fun first second =>
      first.key.isAt second.key.kind second.key.id = false)
    (reached : store.Accepts (openings (before ++ later) ++ postings before) memory)
    (accepted : store.Accepts (openings (before ++ later) ++ postings (before ++ later))
      (store.after (openings (before ++ later) ++ postings before) memory)) :
    Repeats (before ++ later) memory (openings (before ++ later) ++ postings before) := by
  have both : postings (before ++ later) = postings before ++ postings later := by
    rw [postings, active_append, List.map_append]
    rfl
  have whole : openings (before ++ later) ++ postings (before ++ later) =
      (openings (before ++ later) ++ postings before) ++ postings later := by
    rw [both, List.append_assoc]
  have held := (accepts_openings sound memory).2
  -- All trackers are there by then, so that the calls only add.
  have settled : store.after (openings (before ++ later))
      (store.after (openings (before ++ later) ++ postings before) memory) =
        store.after (openings (before ++ later) ++ postings before) memory := by
    apply after_openings_of_holds sound
    intro share listed
    rw [Store.after_append]
    exact (held share listed).after _
  rw [Store.accepts_append_iff, settled, both, Store.accepts_append_iff] at accepted
  obtain ⟨_, again, rest⟩ := accepted
  obtain ⟨answered, answeredFirst, same⟩ := Store.after_after_of_commute (commute_postings apart)
    (store.after (openings (before ++ later) ++ postings before) memory)
  constructor
  case single =>
    rw [Store.Accepts, answered] at rest
    rw [whole]
    exact Store.accepts_append_iff.mpr ⟨reached, rest⟩
  case room =>
    rw [additions_done, whole, Store.after_append, Store.Accepts, answeredFirst]
    exact again
  case final =>
    calc store.after (openings (before ++ later) ++ postings (before ++ later))
          (store.after (openings (before ++ later) ++ postings before) memory)
        = store.after (postings later) (store.after (postings before)
            (store.after (openings (before ++ later) ++ postings before) memory)) := by
          rw [Store.after_append store _ (postings (before ++ later)), settled, both,
            Store.after_append]
      _ = store.after (postings before) (store.after (postings later)
            (store.after (openings (before ++ later) ++ postings before) memory)) := same
      _ = store.after (additions (openings (before ++ later) ++ postings before))
            (store.after (openings (before ++ later) ++ postings (before ++ later)) memory) := by
          rw [additions_done, whole, Store.after_append store _ (postings later)]

/-- A commit that stopped and is then made in full repeats what it did before it stopped. -/
theorem Stop.repeats {share : Share} {applied : List String} {done : List StoreCall}
    {call : StoreCall} (stop : Stop shares share applied done call)
    (sound : ∀ share ∈ shares, share.Sound)
    (apart : shares.Pairwise fun first second =>
      first.key.isAt second.key.kind second.key.id = false)
    (reached : store.Accepts done memory)
    (accepted : store.Accepts (openings shares ++ postings shares) (store.after done memory)) :
    Repeats shares memory done := by
  cases stop with
  | opening before share later split =>
      subst split
      exact repeats_of_openings sound accepted
  | posting before share later split updated =>
      subst split
      exact repeats_of_postings sound apart reached accepted

/-! ## The recording that failed and the one that succeeds -/

/-- A recording in front of a memory that fails with the error of a store, though no directory
does, stopped at some call; the memory has what the calls before did. -/
theorem stopped_of_storage {τ : Type} {front : Store τ} {behind : τ → Memory}
    (fronts : front.Fronts behind) {directory : Directory} (answers : directory.Answers)
    {event : Event} {date : Date} {state : τ} {id reason : String} {applied : List String}
    (failed : (record front directory event date state).1 = .error (.storage id reason applied)) :
    ∃ plan share done call,
      prepare directory event date =
        .ok (.counted plan (plan.trackers.map (shareOf plan date))) ∧
      Stop (plan.trackers.map (shareOf plan date)) share applied done call ∧
      calls front directory event date state = done ++ [call] ∧ front.Accepts done state ∧
      (∃ cause, front.Refuses call (front.after done state) cause) ∧
      store.Accepts done (behind state) ∧
      behind (record front directory event date state).2 = store.after done (behind state) := by
  cases prepared : prepare directory event date with
  | error error =>
      simp only [record, prepared, Except.error.injEq] at failed
      have apart := apart_prepare answers event date error prepared
      rw [failed] at apart
      cases apart
  | ok checked =>
      cases checked with
      | uncounted attributions => simp [record, prepared] at failed
      | counted plan shares =>
          obtain ⟨_, _, _, rfl⟩ := prepare_eq_counted prepared
          obtain ⟨answer, course, recorded⟩ := record_of_counted prepared front state
          rw [recorded] at failed ⊢
          have refused := Answer.map_eq_error_iff.mp failed
          generalize calls front directory event date state = made at course
          cases course with
          | finished => cases refused
          | @stopped share committed done call cause stop accepted refusing =>
              obtain ⟨rfl, rfl⟩ := of_located_eq_storage (Except.error.inj refused)
              obtain ⟨changes, last⟩ := stop.changes
              obtain ⟨reached, left⟩ := fronts.after_of_accepts changes accepted
              refine ⟨plan, share, done, call, rfl, stop, rfl, accepted, ⟨cause, refusing⟩,
                reached, ?_⟩
              rw [Store.after_append, ← left]
              exact fronts.kept last refusing

/-- A recording on an interrupted memory failed at a call, after calls that added to the trackers
it named, and succeeded with an outcome when it was made once more. -/
structure Repeated (faults : Nat → Option Error) (directory : Directory) (event : Event)
    (date : Date) (memory : Memory) (applied : List String) (outcome : Outcome)
    (done : List StoreCall) (call : StoreCall) : Prop where
  made : calls (store.interrupted faults) directory event date (memory, 0) = done ++ [call]
  accepted : (store.interrupted faults).Accepts done (memory, 0)
  refused : ∃ cause, (store.interrupted faults).Refuses call
    ((store.interrupted faults).after done (memory, 0)) cause
  /-- The error named the trackers that the calls before added to. -/
  named : addedIds done = applied
  /-- A single recording on the memory itself comes to the same. -/
  single : (record store directory event date memory).1 = .ok outcome
  /-- What was added before the failure can be added to what the single recording leaves. -/
  room : store.Accepts (additions done) (record store directory event date memory).2
  /-- In the end this was added once more, and nothing else happened. -/
  final :
    let interrupted := store.interrupted faults
    (record interrupted directory event date
        (record interrupted directory event date (memory, 0)).2).2.1 =
      store.after (additions done) (record store directory event date memory).2
  once : applied = [] →
    let interrupted := store.interrupted faults
    (record interrupted directory event date
        (record interrupted directory event date (memory, 0)).2).2.1 =
      (record store directory event date memory).2

/-- A recording that failed with the error of a store and succeeds when it is repeated leaves the
memory as a single one would, with the additions that it made before it failed made once more.
If it named no tracker, its effect is that of a single recording. -/
theorem repeated_of_storage (faults : Nat → Option Error) (directory : Directory)
    (answers : directory.Answers) (event : Event) (date : Date) (memory : Memory)
    (id reason : String) (applied : List String) (outcome : Outcome)
    (failed : (record (store.interrupted faults) directory event date (memory, 0)).1 =
      .error (.storage id reason applied))
    (succeeded : (record (store.interrupted faults) directory event date
      (record (store.interrupted faults) directory event date (memory, 0)).2).1 = .ok outcome) :
    ∃ done call, Repeated faults directory event date memory applied outcome done call := by
  have fronts := Memory.fronts_interrupted faults
  obtain ⟨plan, share, done, call, prepared, stop, made, accepted, refused, reached, left⟩ :=
    stopped_of_storage fronts answers failed
  obtain ⟨_, sound, addressable, _⟩ := prepare_eq_counted prepared
  obtain ⟨rfl, acceptedAgain, finished⟩ := accepts_of_record prepared succeeded
  obtain ⟨again, last⟩ := fronts.after_of_accepts (fun _ => changes_of_mem) acceptedAgain
  rw [← finished] at last
  rw [left] at again last
  have soundShares : ∀ share ∈ plan.trackers.map (shareOf plan date), share.Sound :=
    List.forall_mem_map.mpr fun template _ => sound.share date template
  have repeats := stop.repeats soundShares (apart_shares sound addressable) reached again
  obtain ⟨_, once⟩ := (Course.finished repeats.single).record_eq prepared
  have final := last.trans repeats.final
  refine ⟨done, call, made, accepted, refused, stop.addedIds_eq, ?_, ?_, ?_, ?_⟩
  · rw [once]
    rfl
  · rw [once]
    exact repeats.room
  · rw [once]
    exact final
  · rintro rfl
    rw [once]
    rw [additions_eq_nil stop.addedIds_eq] at final
    exact final

/-- A vote that is added for the voter only, and then once more, for the voter and the owner. -/
theorem repeated_of_storage_vote :
    ∃ outcome done call,
      Repeated (fun made => if made = 4 then some (.database "disk full") else none)
        Memory.smallDirectory smallVote lateFebruary Memory.empty ["bo2402"] outcome done call := by
  have answers : Memory.smallDirectory.Answers := ⟨fun _ _ => nofun, fun _ _ => nofun⟩
  exact ⟨_, repeated_of_storage _ _ answers _ _ _ "ana2402" "disk full" ["bo2402"] _ (by rfl)
    (by rfl)⟩

end Record

end ActivityLedger

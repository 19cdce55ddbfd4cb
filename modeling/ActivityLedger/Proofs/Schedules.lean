import ActivityLedger.Proofs.Capacity
import ActivityLedger.Proofs.Courses
import ActivityLedger.Proofs.Creations
import ActivityLedger.Proofs.Interleavings
import ActivityLedger.Proofs.Selections

/-!
# Recordings that take turns

The recordings of several entries are seen as their calls, each of which is made as a
whole.  If a reachable memory has room for all that they add, every interleaving of
their calls is accepted, sets up each missing tracker once, and leaves the trackers
that the entries leave when they are recorded one after the other, but for the owners.
-/

namespace ActivityLedger

/-! ## Orderly calls -/

/-- A call at a built key that sets up the key's own tracker or adds a batch to it. -/
def StoreCall.Sound : StoreCall → Prop
  | .ensure key template =>
      key.IsBuilt ∧ template.kind = key.kind ∧ template.entityId = key.entityId
  | .increment key updates =>
      key.IsBuilt ∧ (∃ batch, Batch.ofUpdates key updates = .ok batch) ∧
        ∀ update ∈ updates, 0 ≤ update.delta.val
  | _ => False

/-- The calls are sound, and none adds to a tracker before one sets it up. -/
structure Orderly (calls : List StoreCall) : Prop where
  sound : ∀ call ∈ calls, call.Sound
  preceded : ∀ before key updates after, calls = before ++ .increment key updates :: after →
    ∃ template, .ensure key template ∈ before

/-- Orderly lists of calls may take turns. -/
theorem Orderly.interleave {lists : List (List StoreCall)} {run : List StoreCall}
    (orderly : ∀ calls ∈ lists, Orderly calls) (interleaving : Interleaving lists run) :
    Orderly run where
  sound call member := by
    obtain ⟨calls, listed, here⟩ :=
      List.mem_flatten.mp (interleaving.perm.mem_iff.mp member)
    exact (orderly calls listed).sound call here
  preceded before key updates after split := by
    obtain ⟨calls, listed, earlier, later, same, among⟩ := interleaving.exists_split split
    obtain ⟨template, opened⟩ := (orderly calls listed).preceded earlier key updates later same
    exact ⟨template, among _ opened⟩

/-- The calls for shares at built keys are orderly: all trackers are set up before any update is
added. -/
theorem Orderly.of_shares {shares : List Share} (built : ∀ share ∈ shares, share.key.IsBuilt)
    (sound : ∀ share ∈ shares, share.Sound)
    (natural : ∀ share ∈ shares, ∀ update ∈ share.updates, 0 ≤ update.delta.val) :
    Orderly (Record.openings shares ++ Record.postings shares) where
  sound := by
    refine List.forall_mem_append.mpr ⟨?_, ?_⟩
    · exact List.forall_mem_map.mpr fun share listed =>
        ⟨built share listed, (sound share listed).describes⟩
    · refine List.forall_mem_map.mpr fun share updated => ?_
      have listed := List.mem_of_mem_filter updated
      exact ⟨built share listed, (sound share listed).batch, natural share listed⟩
  preceded := by
    intro before key updates after split
    have ofPosting (early : List StoreCall)
        (posted : Record.postings shares = early ++ .increment key updates :: after) :
        ∃ template, .ensure key template ∈ Record.openings shares := by
      have member : .increment key updates ∈ Record.postings shares := by simp [posted]
      obtain ⟨share, updated, same⟩ := List.mem_map.mp member
      cases same
      exact ⟨share.template, List.mem_map.mpr ⟨share, List.mem_of_mem_filter updated, rfl⟩⟩
    rcases List.append_eq_append_iff.mp split with ⟨early, rfl, posted⟩ | ⟨late, opened, rest⟩
    · obtain ⟨template, member⟩ := ofPosting early posted
      exact ⟨template, List.mem_append_left _ member⟩
    · cases late with
      | nil =>
          obtain ⟨template, member⟩ := ofPosting [] rest.symm
          rw [opened, List.append_nil] at member
          exact ⟨template, member⟩
      | cons call late =>
          obtain ⟨rfl, _⟩ := List.cons.inj rest
          have member : .increment key updates ∈ Record.openings shares := by simp [opened]
          obtain ⟨share, _, same⟩ := List.mem_map.mp member
          cases same

namespace Log

theorem natural_ofCalls {calls : List StoreCall} (sound : ∀ call ∈ calls, call.Sound) :
    (ofCalls calls).Natural := by
  intro entry member
  obtain ⟨call, listed, posts⟩ := List.mem_filterMap.mp member
  cases call with
  | increment key updates =>
      cases posts
      exact (sound _ listed).2.2
  | ensure | content | user | contentRange | userRange => cases posts

theorem isBuilt_ofCalls {calls : List StoreCall} (sound : ∀ call ∈ calls, call.Sound) :
    ∀ key ∈ (ofCalls calls).keys, key.IsBuilt := by
  intro key member
  rcases List.mem_append.mp member with opens | posts
  · obtain ⟨entry, listed, rfl⟩ := List.mem_map.mp opens
    obtain ⟨call, made, here⟩ := List.mem_filterMap.mp listed
    cases call with
    | ensure own template =>
        cases here
        exact (sound _ made).1
    | increment | content | user | contentRange | userRange => cases here
  · obtain ⟨entry, listed, rfl⟩ := List.mem_map.mp posts
    obtain ⟨call, made, here⟩ := List.mem_filterMap.mp listed
    cases call with
    | increment own updates =>
        cases here
        exact (sound _ made).1
    | ensure | content | user | contentRange | userRange => cases here

theorem isBuilt_append {log later : Log} (built : ∀ key ∈ log.keys, key.IsBuilt)
    (laterBuilt : ∀ key ∈ later.keys, key.IsBuilt) :
    ∀ key ∈ (log.append later).keys, key.IsBuilt := by
  intro key member
  simp only [append, keys, List.map_append, List.mem_append] at member built laterBuilt
  rcases member with (before | after) | before | after
  · exact built key (Or.inl before)
  · exact laterBuilt key (Or.inl after)
  · exact built key (Or.inr before)
  · exact laterBuilt key (Or.inr after)

end Log

namespace Memory

variable {memory : Memory} {log : Log} {run : List StoreCall}

/-- Orderly calls are accepted exactly where there is room for them. -/
theorem Reflects.accepts_iff_hasRoom (reflects : memory.Reflects log)
    (built : ∀ key ∈ log.keys, key.IsBuilt) (orderly : Orderly run) :
    store.Accepts run memory ↔ memory.HasRoom run := by
  have runBuilt := Log.isBuilt_append built (Log.isBuilt_ofCalls orderly.sound)
  rw [reflects.hasRoom_iff built]
  constructor
  · intro accepted
    exact (reflects.after accepted).fits runBuilt
  · intro fits
    rcases store.accepts_or_refuses run memory with
      accepted | ⟨done, call, later, error, rfl, accepted, refused⟩
    · exact accepted
    · exfalso
      have reached := reflects.after accepted
      obtain ⟨soundDone, soundRest⟩ := List.forall_mem_append.mp orderly.sound
      obtain ⟨soundCall, soundLater⟩ := List.forall_mem_cons.mp soundRest
      cases call with
      | ensure key template =>
          obtain ⟨value, answered⟩ := (store.after done memory).exists_ensure soundCall.2
          cases refused.symm.trans answered
      | increment key updates =>
          have soundMade : ∀ call ∈ done ++ [.increment key updates], call.Sound :=
            List.forall_mem_append.mpr ⟨soundDone, List.forall_mem_singleton.mpr soundCall⟩
          obtain ⟨keyBuilt, merged, _⟩ := soundCall
          obtain ⟨template, opened⟩ := orderly.preceded done key updates later rfl
          have held := reached.held key (Log.mem_keys_of_ensure opened log)
          have last : ((log.append (Log.ofCalls (done ++ [.increment key updates]))).append
              (Log.ofCalls later)).Fits := by
            rwa [Log.append_assoc, ← Log.ofCalls_append, List.append_assoc]
          have room := (reflects.fits built).between last (Log.natural_ofCalls soundMade)
            (Log.natural_ofCalls soundLater)
          rw [Log.ofCalls_append, ← Log.append_assoc, ← Log.enter_eq_append _ _ .done] at room
          obtain ⟨value, answered⟩ := reached.exists_increment
            (Log.isBuilt_append built (Log.isBuilt_ofCalls soundDone)) keyBuilt held merged room
          cases refused.symm.trans answered
      | content | user | contentRange | userRange => exact soundCall

end Memory

/-! ## Entries as calls -/

namespace Entry

/-- The calls of an entry on a store that refuses none: all trackers of its plan are set up, and
then all updates are added. -/
def calls (entry : Entry) : List StoreCall :=
  match Record.prepare entry.directory entry.event entry.date with
  | .ok (.counted _ shares) => Record.openings shares ++ Record.postings shares
  | _ => []

def Passes (entry : Entry) : Prop :=
  ∃ prepared, Record.prepare entry.directory entry.event entry.date = .ok prepared

theorem orderly_calls (entry : Entry) : Orderly entry.calls := by
  unfold calls
  cases prepared : Record.prepare entry.directory entry.event entry.date with
  | error error => exact ⟨by simp, by simp⟩
  | ok checked =>
      cases checked with
      | uncounted attributions => exact ⟨by simp, by simp⟩
      | counted plan shares =>
          obtain ⟨_, sound, addressable, rfl⟩ := Record.prepare_eq_counted prepared
          refine Orderly.of_shares (List.forall_mem_map.mpr fun template listed => ?_)
            (List.forall_mem_map.mpr fun template _ => sound.share entry.date template)
            (List.forall_mem_map.mpr fun template _ update member => ?_)
          · exact ⟨_, _, entry.date, Key.build_eq_ok_iff.mpr ⟨addressable template listed, rfl⟩⟩
          · exact Int.le_of_lt (sound.positive update (List.mem_of_mem_filter member))

variable {σ : Type} {store : Store σ} {state : σ}

/-- On a store that accepts the calls of an entry that passes, its recording makes these calls,
and succeeds. -/
theorem recordIn_of_accepts {entry : Entry} (passes : entry.Passes)
    (accepted : store.Accepts entry.calls state) :
    (entry.recordIn store state).1.isOk = true ∧
      (entry.recordIn store state).2 = store.after entry.calls state ∧
      Record.calls store entry.directory entry.event entry.date state = entry.calls := by
  obtain ⟨checked, prepared⟩ := passes
  unfold calls at accepted ⊢
  unfold recordIn
  cases checked with
  | uncounted attributions =>
      simp [prepared, record, Record.calls, Store.after, Except.isOk, Except.toBool]
  | counted plan shares =>
      rw [prepared] at accepted ⊢
      obtain ⟨made, recorded⟩ := (Record.Course.finished accepted).record_eq prepared
      rw [recorded]
      exact ⟨rfl, rfl, made⟩

end Entry

/-- Entries whose calls are all accepted one after the other are recorded. -/
theorem Store.afterEntries_of_accepts {σ : Type} {store : Store σ} {entries : List Entry}
    (passes : ∀ entry ∈ entries, entry.Passes) {state : σ}
    (accepted : store.Accepts (entries.flatMap Entry.calls) state) :
    (∀ answer ∈ store.outcomes entries state, answer.isOk = true) ∧
      store.afterEntries entries state = store.after (entries.flatMap Entry.calls) state := by
  induction entries generalizing state with
  | nil => exact ⟨List.forall_mem_nil _, rfl⟩
  | cons entry rest ih =>
      obtain ⟨first, others⟩ := List.forall_mem_cons.mp passes
      rw [List.flatMap_cons] at accepted ⊢
      obtain ⟨acceptedFirst, acceptedRest⟩ := Store.accepts_append_iff.mp accepted
      obtain ⟨answered, left, _⟩ := Entry.recordIn_of_accepts first acceptedFirst
      rw [← left] at acceptedRest
      obtain ⟨answers, state⟩ := ih others acceptedRest
      constructor
      · exact List.forall_mem_cons.mpr ⟨answered, answers⟩
      · rw [afterEntries, state, after_append, left]

/-! ## Schedules -/

namespace Memory

variable {memory : Memory}

theorem HasRoom.perm {calls others : List StoreCall} (room : memory.HasRoom calls)
    (perm : calls.Perm others) : memory.HasRoom others where
  whole id counter := by
    have same := (Log.Reorders.ofCalls perm).postedAt counter.kind id
    rw [← Log.total_perm same]
    exact room.whole id counter
  day id slot counter := by
    have same : ((Log.ofCalls calls).postedOn id slot).Perm ((Log.ofCalls others).postedOn id slot) :=
      ((Log.Reorders.ofCalls perm).postedAt .user id).filter _
    rw [← Log.total_perm same]
    exact room.day id slot counter

theorem Reachable.rollsUp (reachable : memory.Reachable) : memory.RollsUp := by
  induction reachable with
  | empty => exact rollsUp_empty
  | recorded _ directory event date ih =>
      exact Record.record_induction (fun call state _ rolls => rolls.step (step_perform state call))
        directory event date ih
  | called _ call _ ih => exact ih.step (step_perform _ call)

/-- What calls come to on a memory that has room for them. -/
structure Settles (memory : Memory) (run : List StoreCall) : Prop where
  accepted : store.Accepts run memory
  /-- There is a tracker wherever a call set one up, or found it. -/
  opened : ∀ key template, .ensure key template ∈ run → (store.after run memory).Holds key
  /-- A tracker that was missing was set up by exactly one call. -/
  once : ∀ key, ¬ memory.Holds key → (store.after run memory).Holds key →
    store.creations key run memory = 1
  /-- A tracker that was there was not set up again. -/
  kept : ∀ key, memory.Holds key → store.creations key run memory = 0
  /-- To every counter all that the calls have for it was added. -/
  whole : ∀ id counter, (store.after run memory).amountAt id counter =
    memory.amountAt id counter + Log.total ((Log.ofCalls run).postedAt counter.kind id) counter
  day : ∀ id slot counter, (store.after run memory).amountOn id slot counter =
    memory.amountOn id slot counter +
      Log.total ((Log.ofCalls run).postedOn id slot) (.user counter)

theorem Reflects.settles {log : Log} (reflects : memory.Reflects log)
    (built : ∀ key ∈ log.keys, key.IsBuilt) {run : List StoreCall} (orderly : Orderly run)
    (room : memory.HasRoom run) : memory.Settles run := by
  have accepted := (reflects.accepts_iff_hasRoom built orderly).mpr room
  have reached := reflects.after accepted
  have runBuilt := Log.isBuilt_append built (Log.isBuilt_ofCalls orderly.sound)
  constructor
  case accepted => exact accepted
  case opened =>
    intro key template member
    exact reached.held key (Log.mem_keys_of_ensure member log)
  case once => exact fun key absent held => creations_of_absent run absent held
  case kept => exact fun key held => creations_of_holds run held
  case whole =>
    intro id counter
    rw [reached.amountAt_eq, reflects.amountAt_eq, Log.postedAt_append, Log.total_append]
  case day =>
    intro id slot counter
    rw [reached.amountOn_eq runBuilt, reflects.amountOn_eq built, Log.postedOn_append,
      Log.total_append]

/-- If a reachable memory has room for entries that pass, then their calls settle however they
take turns, and leave the memory as recording the entries one after the other does, in any order,
but for the owners. -/
theorem interleaving_eq_sequential (reachable : memory.Reachable) (entries : List Entry)
    (passes : ∀ entry ∈ entries, entry.Passes)
    (room : memory.HasRoom (entries.flatMap Entry.calls)) (run : List StoreCall)
    (interleaving : Interleaving (entries.map Entry.calls) run) :
    memory.Settles run ∧
      ∀ order : List Entry, order.Perm entries →
        (∀ answer ∈ store.outcomes order memory, answer.isOk = true) ∧
          (store.after run memory).SameButOwners (store.afterEntries order memory) := by
  obtain ⟨log, reflects, built⟩ := reachable.tellsBuilt
  have orderlyCalls (listed : List Entry) : ∀ calls ∈ listed.map Entry.calls, Orderly calls :=
    List.forall_mem_map.mpr fun entry _ => entry.orderly_calls
  have orderly := Orderly.interleave (orderlyCalls entries) interleaving
  have perm : run.Perm (entries.flatMap Entry.calls) := interleaving.perm
  have settles := reflects.settles built orderly (room.perm perm.symm)
  refine ⟨settles, ?_⟩
  intro order reordered
  have sequential : (order.flatMap Entry.calls).Perm (entries.flatMap Entry.calls) :=
    reordered.flatMap_right _
  have orderlyOrder : Orderly (order.flatMap Entry.calls) :=
    Orderly.interleave (orderlyCalls order) (Interleaving.flatten _)
  have accepted := (reflects.settles built orderlyOrder (room.perm sequential.symm)).accepted
  obtain ⟨answers, left⟩ := Store.afterEntries_of_accepts
    (fun entry member => passes entry (reordered.mem_iff.mp member)) accepted
  refine ⟨answers, ?_⟩
  rw [left]
  exact (reflects.after settles.accepted).sameButOwners (reflects.after accepted)
    ((Log.Reorders.ofCalls (perm.trans sequential.symm)).append log)
    (Log.isBuilt_append built (Log.isBuilt_ofCalls orderly.sound))
    (reachable.rollsUp.after run) (reachable.rollsUp.after _)

def newPost : Memory :=
  (record store smallDirectory (.createPost "ana" "p1") march empty).2

/-- A comment on the post, and a vote that names another owner. -/
def rivals : List Entry := [
  ⟨smallDirectory, .createComment "bo" "c1" "p1", march⟩,
  ⟨smallDirectory, (Event.updatePost (.user "bo") "cy" "p1").withVote .up, march⟩]

/-- The first call for the vote, the calls for the comment, and the others for the vote. -/
def rivalRun : List StoreCall :=
  match rivals.map Entry.calls with
  | [comment, first :: rest] => first :: (comment ++ rest)
  | _ => []

theorem interleaving_eq_sequential_rivals :
    newPost.HasRoom (rivals.flatMap Entry.calls) ∧
      Interleaving (rivals.map Entry.calls) rivalRun ∧ newPost.Settles rivalRun ∧
        (store.after rivalRun newPost).SameButOwners (store.afterEntries rivals newPost) := by
  have reachable : newPost.Reachable := Reachable.empty.recorded _ _ _
  have passes : ∀ entry ∈ rivals, entry.Passes := by
    simp only [rivals, List.forall_mem_cons]
    exact ⟨⟨_, by rfl⟩, ⟨_, by rfl⟩, by simp⟩
  have interleaving : Interleaving (rivals.map Entry.calls) rivalRun := by
    obtain ⟨comment, first, rest, same⟩ :
        ∃ comment first rest, rivals.map Entry.calls = [comment, first :: rest] :=
      ⟨_, _, _, by rfl⟩
    rw [rivalRun, same]
    exact .next [comment] first rest [] (by simpa using Interleaving.flatten [comment, rest])
  have orderly : Orderly (rivals.flatMap Entry.calls) :=
    Orderly.interleave (List.forall_mem_map.mpr fun entry _ => entry.orderly_calls)
      (Interleaving.flatten _)
  have accepted : store.Accepts (rivals.flatMap Entry.calls) newPost := by decide +kernel
  have room : newPost.HasRoom (rivals.flatMap Entry.calls) := by
    obtain ⟨log, reflects, built⟩ := reachable.tellsBuilt
    exact (reflects.accepts_iff_hasRoom built orderly).mp accepted
  obtain ⟨settles, sequential⟩ :=
    interleaving_eq_sequential reachable rivals passes room rivalRun interleaving
  exact ⟨room, interleaving, settles, (sequential rivals (.refl _)).2⟩

end Memory

end ActivityLedger

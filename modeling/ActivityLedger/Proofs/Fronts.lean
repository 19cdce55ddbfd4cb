import ActivityLedger.Proofs.Interruptions
import ActivityLedger.Proofs.Schedules

/-!
# Stores in front of a memory

An entry is settled before any store is asked, or its calls are those of the shares of
its plan.  A store in front of a memory hands its calls on to it, or refuses them by
itself.  However often it does, each recording leaves the memory with the first of its
calls made, up to some point, and with no other.
-/

namespace ActivityLedger

/-! ## The calls of entries -/

/-- What comes of an entry is settled before the store is asked, with one answer for all, or the
entry passed the checks. -/
theorem Entry.settled_or_counted (entry : Entry) :
    (entry.calls = [] ∧ ∃ answer, ∀ {σ : Type} (store : Store σ) (state : σ),
      entry.recordIn store state = (answer, state)) ∨
    ∃ plan, Record.prepare entry.directory entry.event entry.date =
      .ok (.counted plan (plan.trackers.map (Record.shareOf plan entry.date))) := by
  unfold calls recordIn
  cases prepared : Record.prepare entry.directory entry.event entry.date with
  | error error => exact Or.inl ⟨rfl, .error error, by simp [record, prepared]⟩
  | ok checked =>
      cases checked with
      | uncounted attributions =>
          exact Or.inl ⟨rfl, .ok (.uncounted attributions), by simp [record, prepared]⟩
      | counted plan shares =>
          obtain ⟨_, _, _, rfl⟩ := Record.prepare_eq_counted prepared
          exact Or.inr ⟨plan, rfl⟩

/-- The calls of an entry are for the shares of its plan. -/
theorem Entry.exists_share_of_mem_calls {entry : Entry} {call : StoreCall}
    (member : call ∈ entry.calls) :
    ∃ plan, Record.planOf entry.directory entry.event = .ok plan ∧ plan.Sound ∧
      ∃ template ∈ plan.trackers, call = (Record.shareOf plan entry.date template).opening ∨
        (plan.updatesFor template.target ≠ [] ∧
          call = (Record.shareOf plan entry.date template).posting) := by
  rcases entry.settled_or_counted with ⟨none, _⟩ | ⟨plan, prepared⟩
  · rw [none] at member
    cases member
  · obtain ⟨planned, sound, _⟩ := Record.prepare_eq_counted prepared
    rw [calls, prepared] at member
    refine ⟨plan, planned, sound, ?_⟩
    rcases List.mem_append.mp member with opened | posted
    · obtain ⟨share, listed, rfl⟩ := List.mem_map.mp opened
      obtain ⟨template, tracked, rfl⟩ := List.mem_map.mp listed
      exact ⟨template, tracked, Or.inl rfl⟩
    · obtain ⟨share, active, rfl⟩ := List.mem_map.mp posted
      obtain ⟨listed, updated⟩ := List.mem_filter.mp active
      obtain ⟨template, tracked, rfl⟩ := List.mem_map.mp listed
      exact ⟨template, tracked, Or.inr ⟨by simpa [Record.shareOf] using updated, rfl⟩⟩

/-! ## Stores in front -/

/-- What the store accepts is done to the memory behind it, and what it refuses is not. -/
structure Store.Fronts {τ : Type} (front : Store τ) (behind : τ → Memory) : Prop where
  reached : ∀ {call : StoreCall} {state : τ} {value : StoreValue}, call.Changes →
    (front.perform call state).1 = .ok value →
      (Memory.store.perform call (behind state)).1 = .ok value ∧
        behind (front.perform call state).2 = (Memory.store.perform call (behind state)).2
  kept : ∀ {call : StoreCall} {state : τ} {error : Error}, call.Changes →
    front.Refuses call state error → behind (front.perform call state).2 = behind state

theorem Memory.fronts_store : store.Fronts id where
  reached _ answered := ⟨answered, rfl⟩
  kept _ refused := perform_of_refuses refused

theorem Memory.fronts_interrupted (faults : Nat → Option Error) :
    (store.interrupted faults).Fronts Prod.fst where
  reached changes answered := by
    obtain ⟨same, next⟩ := Store.perform_of_accepted changes answered
    exact ⟨same, congrArg Prod.fst next⟩
  kept changes refused := Store.perform_of_refused changes (fun _ => perform_of_refuses) refused

namespace Store.Fronts

variable {τ : Type} {front : Store τ} {behind : τ → Memory}

theorem after_of_accepts (fronts : front.Fronts behind) {calls : List StoreCall}
    (changes : ∀ call ∈ calls, call.Changes) {state : τ} (accepted : front.Accepts calls state) :
    Memory.store.Accepts calls (behind state) ∧
      behind (front.after calls state) = Memory.store.after calls (behind state) := by
  induction calls generalizing state with
  | nil => exact ⟨accepts_nil _ _, rfl⟩
  | cons call rest ih =>
      obtain ⟨first, others⟩ := List.forall_mem_cons.mp changes
      obtain ⟨⟨value, answered⟩, later⟩ := accepts_cons_iff.mp accepted
      obtain ⟨reached, next⟩ := fronts.reached first answered
      obtain ⟨acceptedRest, left⟩ := ih others later
      rw [next] at acceptedRest left
      exact ⟨accepts_cons_iff.mpr ⟨⟨value, reached⟩, acceptedRest⟩, left⟩

/-- A recording leaves the memory with the first of the entry's calls made, up to some point. -/
theorem recordIn (fronts : front.Fronts behind) (entry : Entry) (state : τ) :
    ∃ done, done <+: entry.calls ∧ Memory.store.Accepts done (behind state) ∧
      behind (entry.recordIn front state).2 = Memory.store.after done (behind state) := by
  rcases entry.settled_or_counted with ⟨none, answer, same⟩ | ⟨plan, prepared⟩
  · refine ⟨[], List.nil_prefix, accepts_nil _ _, ?_⟩
    rw [same]
    rfl
  · unfold Entry.recordIn
    rw [Entry.calls, prepared]
    obtain ⟨answer, course, recorded⟩ := Record.record_of_counted prepared front state
    rw [recorded]
    generalize Record.calls front _ _ _ state = made at course
    cases course with
    | finished accepted =>
        obtain ⟨reached, left⟩ := fronts.after_of_accepts (fun _ => Record.changes_of_mem) accepted
        exact ⟨_, List.prefix_refl _, reached, left⟩
    | @stopped share applied done call cause stop accepted refused =>
        obtain ⟨changes, last⟩ := stop.changes
        obtain ⟨later, split⟩ := stop.exists_later
        obtain ⟨reached, left⟩ := fronts.after_of_accepts changes accepted
        refine ⟨done, ⟨call :: later, split.symm⟩, reached, ?_⟩
        rw [after_append, ← left]
        exact fronts.kept last refused

/-- Recordings one after the other leave the memory with the first calls of each entry made, up
to a point of its own. -/
theorem afterEntries (fronts : front.Fronts behind) (entries : List Entry) (state : τ) :
    ∃ parts, List.Forall₂ (fun part (entry : Entry) => part <+: entry.calls) parts entries ∧
      Memory.store.Accepts parts.flatten (behind state) ∧
        behind (front.afterEntries entries state) =
          Memory.store.after parts.flatten (behind state) := by
  induction entries generalizing state with
  | nil => exact ⟨[], .nil, accepts_nil _ _, rfl⟩
  | cons entry rest ih =>
      obtain ⟨done, isPrefix, accepted, left⟩ := fronts.recordIn entry state
      obtain ⟨parts, prefixes, acceptedRest, leftRest⟩ := ih (entry.recordIn front state).2
      rw [left] at acceptedRest leftRest
      refine ⟨done :: parts, .cons isPrefix prefixes, ?_, ?_⟩
      · exact accepts_append_iff.mpr ⟨accepted, acceptedRest⟩
      · rw [List.flatten_cons, after_append]
        exact leftRest

/-- Recordings on an empty memory leave it with a log of the first calls of each entry. -/
theorem reflects_afterEntries (fronts : front.Fronts behind) (entries : List Entry) {state : τ}
    (starts : behind state = Memory.empty) :
    ∃ parts, List.Forall₂ (fun part (entry : Entry) => part <+: entry.calls) parts entries ∧
      (behind (front.afterEntries entries state)).Reflects (Log.ofCalls parts.flatten) := by
  obtain ⟨parts, prefixes, accepted, left⟩ := fronts.afterEntries entries state
  rw [starts] at accepted left
  rw [left]
  exact ⟨parts, prefixes, Memory.Reflects.empty.after accepted⟩

end Store.Fronts

theorem Entry.exists_of_mem_flatten {parts : List (List StoreCall)} {entries : List Entry}
    (prefixes : List.Forall₂ (fun part (entry : Entry) => part <+: entry.calls) parts entries)
    {call : StoreCall} (member : call ∈ parts.flatten) : ∃ entry ∈ entries, call ∈ entry.calls := by
  induction prefixes with
  | nil => cases member
  | @cons part entry others rest first _ ih =>
      rcases List.mem_append.mp member with here | later
      · exact ⟨entry, List.mem_cons_self, first.mem here⟩
      · obtain ⟨found, listed, there⟩ := ih later
        exact ⟨found, List.mem_cons_of_mem _ listed, there⟩

theorem Entry.sound_of_mem_flatten {parts : List (List StoreCall)} {entries : List Entry}
    (prefixes : List.Forall₂ (fun part (entry : Entry) => part <+: entry.calls) parts entries) :
    ∀ call ∈ parts.flatten, call.Sound := by
  intro call member
  obtain ⟨entry, _, here⟩ := exists_of_mem_flatten prefixes member
  exact entry.orderly_calls.sound call here

/-! ## Counters of a whole memory -/

theorem ContentCounters.value_of_kind_ne {counters : ContentCounters} {counter : Counter}
    (other : counter.kind ≠ counters.kind.tracker) : counters.value counter = 0 := by
  cases counters <;> cases counter <;> first | rfl | exact absurd rfl other

namespace Memory

/-- What holds of the amounts of each month and each day, and of each post and comment. -/
structure Throughout (memory : Memory) (ofUsers : (UserCounter → Int) → Prop)
    (ofContents : (Counter → Int) → Prop) : Prop where
  months : ∀ id tracker, memory.users.find? id = some tracker →
    ofUsers fun counter => (tracker.monthly.get counter).val
  days : ∀ id tracker, memory.users.find? id = some tracker → ∀ day ∈ tracker.days,
    ofUsers fun counter => (day.get counter).val
  contents : ∀ kind id tracker, (memory.contents kind).find? id = some tracker →
    ofContents tracker.counters.value

/-- A memory is known throughout from the sums of what was added. -/
theorem Reflects.throughout {memory : Memory} {log : Log} (reflects : memory.Reflects log)
    {ofUsers : (UserCounter → Int) → Prop} {ofContents : (Counter → Int) → Prop}
    (months : ∀ id, ofUsers fun counter => Log.total (log.postedAt .user id) (.user counter))
    (days : ∀ id slot, ofUsers fun counter => Log.total (log.postedOn id slot) (.user counter))
    (contents : ∀ (kind : ContentKind) id, ofContents fun counter =>
      if counter.kind = kind.tracker then Log.total (log.postedAt kind.tracker id) counter else 0) :
    memory.Throughout ofUsers ofContents := by
  constructor
  case months =>
    intro id tracker found
    obtain ⟨opener, _, tells⟩ := reflects.users id tracker found
    have amounts : (fun counter => (tracker.monthly.get counter).val) =
        fun counter => Log.total (log.postedAt .user id) (.user counter) := funext tells.monthly
    rw [amounts]
    exact months id
  case days =>
    intro id tracker found day member
    obtain ⟨opener, _, tells⟩ := reflects.users id tracker found
    obtain ⟨slot, here⟩ := List.mem_iff_getElem?.mp member
    have amounts : (fun counter => (day.get counter).val) =
        fun counter => Log.total (log.postedOn id slot) (.user counter) :=
      funext (tells.days slot day here)
    rw [amounts]
    exact days id slot
  case contents =>
    intro kind id tracker found
    obtain ⟨opener, _, tells⟩ := reflects.contents kind id tracker found
    have values : tracker.counters.value = fun counter =>
        if counter.kind = kind.tracker then Log.total (log.postedAt kind.tracker id) counter
        else 0 := by
      funext counter
      split
      · rename_i named
        exact tells.counters counter named
      · rename_i other
        exact ContentCounters.value_of_kind_ne (tells.countersKind ▸ other)
    rw [values]
    exact contents kind id

end Memory

end ActivityLedger

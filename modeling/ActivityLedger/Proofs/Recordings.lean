import ActivityLedger.Proofs.Accounts
import ActivityLedger.Proofs.Keys
import ActivityLedger.Proofs.Plans
import ActivityLedger.Record.Recording

/-!
# Recordings on a memory

What the checks before the store hand over, and what the two phases of a commit do to
a memory.  The shares of a plan are set up and added in full, or an increment is
refused by the store.
-/

namespace ActivityLedger

def Error.isStorage : Error → Bool
  | .storage .. => true
  | _ => false

namespace Record

/-! ## Shares -/

/-- The share of one tracker of a plan, at the key that is built for it. -/
def shareOf (plan : Plan) (date : Date) (template : Template) : Share where
  key := Key.of template.kind template.entityId date
  template := template
  updates := plan.updatesFor template.target

/-- A plan may be put to account on a date: its entities have names, and the date lies in
the century. -/
def Addressable (plan : Plan) (date : Date) : Prop :=
  ∀ template ∈ plan.trackers, template.entityId ≠ "" ∧ date.HasCompact

theorem share_eq_ok_iff {plan : Plan} {date : Date} {template : Template} {result : Share} :
    share plan date template = .ok result ↔
      (template.entityId ≠ "" ∧ date.HasCompact) ∧ result = shareOf plan date template := by
  unfold share
  constructor
  · intro given
    obtain ⟨key, built, same⟩ := Answer.bind_eq_ok_iff.mp given
    obtain ⟨valid, rfl⟩ := Key.build_eq_ok_iff.mp built
    cases same
    exact ⟨valid, rfl⟩
  · rintro ⟨valid, rfl⟩
    rw [Key.build_eq_ok_iff.mpr ⟨valid, rfl⟩]
    rfl

theorem shares_of_mapM {plan : Plan} {date : Date} {shares : List Share}
    (given : plan.trackers.mapM (share plan date) = .ok shares) :
    Addressable plan date ∧ shares = plan.trackers.map (shareOf plan date) := by
  have each := Answer.mapM_eq_ok_iff.mp given
  clear given
  unfold Addressable
  generalize plan.trackers = trackers at each
  induction each with
  | nil => simp
  | cons first others ih =>
      obtain ⟨valid, same⟩ := share_eq_ok_iff.mp first
      obtain ⟨validOthers, sameOthers⟩ := ih
      exact ⟨List.forall_mem_cons.mpr ⟨valid, validOthers⟩, by rw [same, sameOthers]; rfl⟩

def planOf (directory : Directory) (event : Event) : Except Error Plan :=
  (authorship directory event).bind (Plan.ofEvent event)

/-- An event is handed over to be committed when it passed every check. -/
theorem prepare_eq_counted_iff {directory : Directory} {event : Event} {date : Date} {plan : Plan}
    {shares : List Share} :
    prepare directory event date = .ok (.counted plan shares) ↔
      event.validate = .ok () ∧ planOf directory event = .ok plan ∧
        plan.isUnsupported = false ∧ plan.trackers.mapM (share plan date) = .ok shares := by
  constructor
  · intro prepared
    obtain ⟨_, valid, rest⟩ := Answer.bind_eq_ok_iff.mp prepared
    obtain ⟨authors, named, rest⟩ := Answer.bind_eq_ok_iff.mp rest
    obtain ⟨made, classified, rest⟩ := Answer.bind_eq_ok_iff.mp rest
    split at rest
    · cases rest
    · rename_i supported
      obtain ⟨listed, given, same⟩ := Answer.bind_eq_ok_iff.mp rest
      cases same
      exact ⟨valid, Answer.bind_eq_ok_iff.mpr ⟨authors, named, classified⟩,
        Bool.eq_false_iff.mpr supported, given⟩
  · rintro ⟨valid, planned, supported, given⟩
    obtain ⟨authors, named, classified⟩ := Answer.bind_eq_ok_iff.mp planned
    refine Answer.bind_eq_ok_iff.mpr ⟨(), valid, ?_⟩
    refine Answer.bind_eq_ok_iff.mpr ⟨authors, named, ?_⟩
    refine Answer.bind_eq_ok_iff.mpr ⟨plan, classified, ?_⟩
    rw [if_neg (Bool.eq_false_iff.mp supported)]
    exact Answer.bind_eq_ok_iff.mpr ⟨shares, given, rfl⟩

/-- What is handed over to be committed is the plan of the event with all its shares. -/
theorem prepare_eq_counted {directory : Directory} {event : Event} {date : Date} {plan : Plan}
    {shares : List Share} (prepared : prepare directory event date = .ok (.counted plan shares)) :
    planOf directory event = .ok plan ∧ plan.Sound ∧ Addressable plan date ∧
      shares = plan.trackers.map (shareOf plan date) := by
  obtain ⟨_, planned, _, given⟩ := prepare_eq_counted_iff.mp prepared
  obtain ⟨authors, _, classified⟩ := Answer.bind_eq_ok_iff.mp planned
  obtain ⟨addressable, same⟩ := shares_of_mapM given
  exact ⟨planned, Plan.sound_ofEvent classified, addressable, same⟩

end Record

/-! ## Setting up and adding -/

/-- A share is at a key that its own template describes, and its updates make a batch. -/
structure Share.Sound (share : Share) : Prop where
  describes : share.template.kind = share.key.kind ∧ share.template.entityId = share.key.entityId
  batch : ∃ batch, Batch.ofUpdates share.key share.updates = .ok batch

theorem Plan.Sound.share {plan : Plan} (sound : plan.Sound) (date : Date) (template : Template) :
    (Record.shareOf plan date template).Sound where
  describes := ⟨rfl, rfl⟩
  batch := by
    refine Batch.exists_ofUpdates ?_ ?_
    · intro update member
      have here : update.target = template.target := by
        simpa using (List.mem_filter.mp member).2
      rw [here]
      exact ⟨rfl, rfl⟩
    · refine (sound.single.filter _).imp_of_mem ?_
      intro left right fromLeft fromRight different
      have leftHere : left.target = template.target := by
        simpa using (List.mem_filter.mp fromLeft).2
      have rightHere : right.target = template.target := by
        simpa using (List.mem_filter.mp fromRight).2
      exact different (leftHere.trans rightHere.symm)

namespace Log

def ensured (log : Log) (shares : List Share) : Log :=
  { log with opened := log.opened ++ shares.map fun share => (share.key, share.template) }

/-- The log with the updates of all shares that have some. -/
def incremented (log : Log) (shares : List Share) : Log :=
  { log with
    posted := log.posted ++
      (shares.filter fun share => !share.updates.isEmpty).map fun share =>
        (share.key, share.updates) }

end Log

namespace Memory

theorem ensure_of_describes {key : Key} {template : Template} (memory : Memory)
    (describes : template.kind = key.kind ∧ template.entityId = key.entityId) :
    ∃ created next, ensure key template memory = (.ok created, next) := by
  unfold ensure Key.checkTemplate
  rw [if_pos describes]
  cases template <;> exact ⟨_, _, rfl⟩

end Memory

namespace Record

open Memory (store)

variable {memory : Memory} {log : Log}

/-- All shares are set up. -/
theorem ensureAll_memory (reflects : memory.Reflects log) {shares : List Share}
    (sound : ∀ share ∈ shares, share.Sound) :
    ∃ next, ensureAll store shares memory = (.ok (), next) ∧
      next.Reflects (log.ensured shares) := by
  induction shares generalizing memory log with
  | nil => exact ⟨memory, rfl, by simpa [Log.ensured] using reflects⟩
  | cons share rest ih =>
      obtain ⟨created, middle, opened⟩ :=
        memory.ensure_of_describes (sound share List.mem_cons_self).describes
      have entered := reflects.perform (.ensure share.key share.template)
      have answer : store.perform (.ensure share.key share.template) memory =
          (.ok (.created created), middle) := by
        simp [Store.perform, store, opened, Except.map]
      rw [answer] at entered
      obtain ⟨next, done, told⟩ := ih entered fun other member =>
        sound other (List.mem_cons_of_mem _ member)
      refine ⟨next, ?_, ?_⟩
      · simpa [ensureAll, store, opened] using done
      · simpa [Log.ensured, Log.enter] using told

/-- All shares are added, or the store refuses one of them. -/
theorem incrementAll_memory (reflects : memory.Reflects log) {shares : List Share}
    (sound : ∀ share ∈ shares, share.Sound) (applied : List String) :
    (∃ done next, incrementAll store applied shares memory = (.ok done, next) ∧
      next.Reflects (log.incremented shares)) ∨
    ∃ error next, incrementAll store applied shares memory = (.error error, next) ∧
      error.isStorage = true := by
  induction shares generalizing memory log applied with
  | nil => exact Or.inl ⟨applied, memory, rfl, by simpa [Log.incremented] using reflects⟩
  | cons share rest ih =>
      have soundRest : ∀ other ∈ rest, other.Sound := fun other member =>
        sound other (List.mem_cons_of_mem _ member)
      rw [incrementAll]
      by_cases idle : share.updates.isEmpty = true
      · rw [if_pos idle]
        simpa [Log.incremented, idle] using ih reflects soundRest applied
      · rw [if_neg idle]
        obtain ⟨batch, merged⟩ := (sound share List.mem_cons_self).batch
        cases outcome : memory.applyBatch share.key batch with
        | error error =>
            have refused : store.increment share.key share.updates memory =
                (.error error, memory) := by
              simp [store, Memory.increment, merged, Except.bind, outcome]
            rw [refused]
            refine Or.inr ⟨_, memory, rfl, ?_⟩
            obtain ⟨reason, rfl⟩ := Memory.error_of_applyBatch outcome
            rfl
        | ok middle =>
            have added : store.increment share.key share.updates memory = (.ok (), middle) := by
              simp [store, Memory.increment, merged, Except.bind, outcome]
            have entered := reflects.perform (.increment share.key share.updates)
            have answer : store.perform (.increment share.key share.updates) memory =
                (.ok .done, middle) := by
              simp [Store.perform, added, Except.map]
            rw [answer] at entered
            rw [added]
            simpa [Log.incremented, Log.enter, idle] using
              ih entered soundRest (applied ++ [share.key.id])

end Record

/-! ## Built keys -/

def Key.IsBuilt (key : Key) : Prop := ∃ kind entityId date, build kind entityId date = .ok key

theorem Key.isBuilt_iff {key : Key} :
    key.IsBuilt ↔ ∃ date : Date, date.HasCompact ∧ key.entityId ≠ "" ∧
      key = Key.of key.kind key.entityId date := by
  constructor
  · rintro ⟨kind, entityId, date, built⟩
    obtain ⟨⟨named, compact⟩, rfl⟩ := build_eq_ok_iff.mp built
    exact ⟨date, compact, named, rfl⟩
  · rintro ⟨date, compact, named, same⟩
    exact ⟨key.kind, key.entityId, date, build_eq_ok_iff.mpr ⟨⟨named, compact⟩, same⟩⟩

/-- A call that changes a store only at a key that was built. -/
def StoreCall.IsBuilt : StoreCall → Prop
  | .ensure key _ | .increment key _ => key.IsBuilt
  | _ => True

end ActivityLedger

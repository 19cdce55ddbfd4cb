import ActivityLedger.Proofs.Recordings
import ActivityLedger.Proofs.RollUp

/-!
# What the order of calls cannot change

The log of a memory grows by the calls that are made on it.  Two memories whose logs
have the same entries, in whatever order, have the same trackers, but for the authors
that are named as owners: the first call for a tracker decides about these.
-/

namespace ActivityLedger

/-! ## Logs of calls -/

namespace StoreCall

def opening? : StoreCall → Option (Key × Template)
  | .ensure key template => some (key, template)
  | _ => none

def posting? : StoreCall → Option (Key × List Update)
  | .increment key updates => some (key, updates)
  | _ => none

end StoreCall

namespace Log

/-- The log of calls none of which is refused. -/
def ofCalls (calls : List StoreCall) : Log where
  opened := calls.filterMap StoreCall.opening?
  posted := calls.filterMap StoreCall.posting?

def append (log later : Log) : Log where
  opened := log.opened ++ later.opened
  posted := log.posted ++ later.posted

theorem append_assoc (log middle later : Log) :
    (log.append middle).append later = log.append (middle.append later) := by
  simp [append]

theorem ofCalls_append (calls later : List StoreCall) :
    ofCalls (calls ++ later) = (ofCalls calls).append (ofCalls later) := by
  simp [ofCalls, append]

theorem enter_eq_append (log : Log) (call : StoreCall) (value : StoreValue) :
    log.enter call (.ok value) = log.append (ofCalls [call]) := by
  cases call <;>
    simp [enter, append, ofCalls, StoreCall.opening?, StoreCall.posting?, List.filterMap_cons]

theorem mem_keys_of_ensure {key : Key} {template : Template} {calls : List StoreCall}
    (member : .ensure key template ∈ calls) (log : Log) :
    key ∈ (log.append (ofCalls calls)).keys := by
  refine List.mem_append_left _ (List.mem_map.mpr ⟨(key, template), ?_, rfl⟩)
  exact List.mem_append_right _ (List.mem_filterMap.mpr ⟨_, member, rfl⟩)

theorem postedAt_append (log later : Log) (kind : TrackerKind) (id : String) :
    (log.append later).postedAt kind id = log.postedAt kind id ++ later.postedAt kind id :=
  List.filter_append ..

/-- The logs have the same entries, whatever their order. -/
structure Reorders (log other : Log) : Prop where
  opened : log.opened.Perm other.opened
  posted : log.posted.Perm other.posted

namespace Reorders

variable {log other : Log}

theorem symm (reorders : log.Reorders other) : other.Reorders log :=
  ⟨reorders.opened.symm, reorders.posted.symm⟩

theorem ofCalls {calls others : List StoreCall} (perm : calls.Perm others) :
    (Log.ofCalls calls).Reorders (Log.ofCalls others) :=
  ⟨perm.filterMap _, perm.filterMap _⟩

theorem append (reorders : log.Reorders other) (before : Log) :
    (before.append log).Reorders (before.append other) :=
  ⟨reorders.opened.append_left _, reorders.posted.append_left _⟩

theorem mem_keys_iff (reorders : log.Reorders other) (key : Key) :
    key ∈ log.keys ↔ key ∈ other.keys := by
  unfold keys
  rw [List.mem_append, List.mem_append, (reorders.opened.map Prod.fst).mem_iff,
    (reorders.posted.map Prod.fst).mem_iff]

theorem postedAt (reorders : log.Reorders other) (kind : TrackerKind) (id : String) :
    (log.postedAt kind id).Perm (other.postedAt kind id) :=
  reorders.posted.filter _

theorem exists_opener? (reorders : log.Reorders other) {kind : TrackerKind} {id : String}
    {opener : Key × Template} (first : log.opener? kind id = some opener) :
    ∃ otherOpener, other.opener? kind id = some otherOpener := by
  obtain ⟨listed, sameKind, sameId⟩ := of_opener? first
  refine Option.isSome_iff_exists.mp (List.find?_isSome.mpr ?_)
  exact ⟨opener, reorders.opened.mem_iff.mp listed, Key.isAt_iff.mpr ⟨sameKind, sameId⟩⟩

end Reorders

theorem total_perm {posted others : List (Key × List Update)} (perm : posted.Perm others)
    (counter : Counter) : total posted counter = total others counter := by
  induction perm with
  | nil => rfl
  | cons entry _ ih => rw [total_cons, total_cons, ih]
  | swap first second rest => simp only [total_cons, Int.add_left_comm]
  | trans _ _ first second => exact first.trans second

end Log

/-- The keys are for one entity and one period, though perhaps for different days. -/
structure Key.Alike (key other : Key) : Prop where
  ids : key.id = other.id
  entities : key.entityId = other.entityId
  periods : key.periodStart = other.periodStart

theorem Key.IsBuilt.alike {key other : Key} (built : key.IsBuilt) (otherBuilt : other.IsBuilt)
    (sameKind : key.kind = other.kind) (sameId : key.id = other.id) : key.Alike other := by
  obtain ⟨date, compact, _, same⟩ := isBuilt_iff.mp built
  obtain ⟨otherDate, otherCompact, _, otherSame⟩ := isBuilt_iff.mp otherBuilt
  have texts := sameId
  rw [same, otherSame, sameKind] at texts
  obtain ⟨entities, period⟩ := (idText_eq_iff _ _ _ compact otherCompact).mp texts
  refine ⟨sameId, entities, ?_⟩
  rw [same, otherSame, sameKind]
  exact (periodOf_eq_iff _ _ _).mpr period

/-- The first call for a place is at a key like every built key of that place. -/
theorem Log.alike_of_opener? {log : Log} (built : ∀ key ∈ log.keys, key.IsBuilt)
    {kind : TrackerKind} {id : String} {opener : Key × Template}
    (first : log.opener? kind id = some opener) {key : Key} (keyBuilt : key.IsBuilt)
    (here : key.isAt kind id = true) : opener.1.Alike key := by
  obtain ⟨listed, openerKind, openerId⟩ := of_opener? first
  obtain ⟨sameKind, sameId⟩ := Key.isAt_iff.mp here
  exact (built _ (List.mem_append_left _ (List.mem_map_of_mem listed))).alike keyBuilt
    (openerKind.trans sameKind.symm) (openerId.trans sameId.symm)

/-- First calls for one place with built keys are at keys alike. -/
theorem Log.Reorders.alike {log other : Log} (reorders : log.Reorders other)
    (built : ∀ key ∈ log.keys, key.IsBuilt) {kind : TrackerKind} {id : String}
    {opener otherOpener : Key × Template} (first : log.opener? kind id = some opener)
    (otherFirst : other.opener? kind id = some otherOpener) : opener.1.Alike otherOpener.1 := by
  obtain ⟨otherListed, sameKind, sameId⟩ := of_opener? otherFirst
  have otherBuilt := built _ ((reorders.mem_keys_iff _).mpr
    (List.mem_append_left _ (List.mem_map_of_mem otherListed)))
  exact alike_of_opener? built first otherBuilt (Key.isAt_iff.mpr ⟨sameKind, sameId⟩)

/-! ## Trackers -/

section

variable {opener otherOpener : Key × Template} {posted otherPosted : List (Key × List Update)}

/-- A tracker of a user that has a slot for each day is known from the calls for it. -/
theorem UserTracker.Tells.eq {tracker other : UserTracker} (tells : tracker.Tells opener posted)
    (otherTells : other.Tells otherOpener otherPosted) (rolls : tracker.RollsUp)
    (otherRolls : other.RollsUp) (alike : opener.1.Alike otherOpener.1)
    (perm : posted.Perm otherPosted) : tracker = other := by
  have ids : tracker.id = other.id := by rw [tells.id, otherTells.id, alike.ids]
  have users : tracker.userId = other.userId := by
    rw [tells.userId, otherTells.userId, alike.entities]
  have months : tracker.month = other.month := by rw [tells.month, otherTells.month, alike.periods]
  have lengths : tracker.days.length = other.days.length := by
    rw [tells.slots, otherTells.slots, Key.daysInMonth, Key.daysInMonth, alike.periods]
  have numbers : tracker.daysInMonth = other.daysInMonth := by
    have natural := tracker.daysInMonth.lo_le
    have otherNatural := other.daysInMonth.lo_le
    have slots := rolls.slots
    have otherSlots := otherRolls.slots
    unfold Small.toNat at slots otherSlots
    exact Bounded.ext (by omega)
  have sums : tracker.monthly = other.monthly := by
    refine Columns.ext fun counter => Bounded.ext ?_
    rw [tells.monthly, otherTells.monthly, Log.total_perm perm]
  have days : tracker.days = other.days := by
    refine List.ext_getElem lengths fun slot here there => ?_
    refine Columns.ext fun counter => Bounded.ext ?_
    rw [tells.days slot _ (List.getElem?_eq_getElem here),
      otherTells.days slot _ (List.getElem?_eq_getElem there), Log.total_perm (perm.filter _)]
  cases tracker
  cases other
  simp only at ids users months numbers sums days
  rw [ids, users, months, numbers, sums, days]

theorem ContentCounters.eq_of_value {counters other : ContentCounters}
    (sameKind : counters.kind = other.kind)
    (values : ∀ counter, counter.kind = counters.kind.tracker →
      counters.value counter = other.value counter) : counters = other := by
  obtain ⟨kind, table, rfl⟩ := counters.exists_of
  rw [kind_of] at sameKind values
  obtain ⟨others, rfl⟩ := exists_of_kind sameKind.symm
  refine congrArg (of _) (Columns.ext fun counter => Bounded.ext ?_)
  have same := values (.of kind.tracker counter) (Counter.kind_eq_iff.mpr ⟨counter, rfl⟩)
  rwa [value_of, value_of] at same

def ContentTracker.disowned (tracker : ContentTracker) : ContentTracker :=
  { tracker with ownerId := "" }

/-- A tracker of content is known from the calls for it, but for its owner. -/
theorem ContentTracker.Tells.disowned_eq {tracker other : ContentTracker} {kind : ContentKind}
    (tells : tracker.Tells kind opener posted)
    (otherTells : other.Tells kind otherOpener otherPosted)
    (alike : opener.1.Alike otherOpener.1)
    (perm : posted.Perm otherPosted) : tracker.disowned = other.disowned := by
  have counters : tracker.counters = other.counters := by
    refine ContentCounters.eq_of_value (tells.countersKind.trans otherTells.countersKind.symm) ?_
    intro counter named
    rw [tells.countersKind] at named
    rw [tells.counters counter named, otherTells.counters counter named, Log.total_perm perm]
  rw [disowned, disowned, tells.id, otherTells.id, tells.isKind, otherTells.isKind,
    tells.contentId, otherTells.contentId, tells.day, otherTells.day, alike.ids, alike.entities,
    alike.periods, counters]

end

/-! ## Memories -/

namespace Memory

/-- The memories have the same trackers, but for the owners of posts and comments. -/
structure SameButOwners (memory other : Memory) : Prop where
  users : ∀ id, memory.users.find? id = other.users.find? id
  contents : ∀ kind id, ((memory.contents kind).find? id).map ContentTracker.disowned =
    ((other.contents kind).find? id).map ContentTracker.disowned

variable {memory other : Memory} {log otherLog : Log}

/-- After calls that are all accepted the log has them, too. -/
theorem Reflects.after (reflects : memory.Reflects log) {calls : List StoreCall}
    (accepted : store.Accepts calls memory) :
    (store.after calls memory).Reflects (log.append (Log.ofCalls calls)) := by
  induction calls generalizing memory log with
  | nil => simpa [Store.after, Log.append, Log.ofCalls] using reflects
  | cons call rest ih =>
      obtain ⟨⟨value, answered⟩, acceptedRest⟩ := Store.accepts_cons_iff.mp accepted
      have entered := reflects.perform call
      rw [answered] at entered
      rw [Log.enter_eq_append] at entered
      have later := ih entered acceptedRest
      rwa [Log.append_assoc, ← Log.ofCalls_append] at later

/-- A user who has a tracker has the same one where the log is another order of the calls. -/
theorem Reflects.find?_user (reflects : memory.Reflects log)
    (otherReflects : other.Reflects otherLog) (reorders : log.Reorders otherLog)
    (built : ∀ key ∈ log.keys, key.IsBuilt) (rolls : memory.RollsUp) (otherRolls : other.RollsUp)
    {id : String} {tracker : UserTracker} (found : memory.users.find? id = some tracker) :
    other.users.find? id = some tracker := by
  obtain ⟨opener, first, tells⟩ := reflects.users id tracker found
  obtain ⟨otherOpener, otherFirst⟩ := reorders.exists_opener? first
  obtain ⟨_, isUser, here⟩ := Log.of_opener? first
  have held : other.Holds opener.1 :=
    (otherReflects.holds_iff _).mpr ⟨otherOpener, by rw [isUser, here, otherFirst]⟩
  obtain ⟨otherTracker, otherFound⟩ := (holds_user_iff isUser).mp held
  rw [here] at otherFound
  obtain ⟨again, againFirst, otherTells⟩ := otherReflects.users id otherTracker otherFound
  have same := tells.eq otherTells (rolls id tracker found) (otherRolls id otherTracker otherFound)
    (reorders.alike built first againFirst) (reorders.postedAt .user id)
  rw [otherFound, same]

theorem Reflects.find?_content (reflects : memory.Reflects log)
    (otherReflects : other.Reflects otherLog) (reorders : log.Reorders otherLog)
    (built : ∀ key ∈ log.keys, key.IsBuilt) {kind : ContentKind} {id : String}
    {tracker : ContentTracker} (found : (memory.contents kind).find? id = some tracker) :
    ∃ otherTracker, (other.contents kind).find? id = some otherTracker ∧
      tracker.disowned = otherTracker.disowned := by
  obtain ⟨opener, first, tells⟩ := reflects.contents kind id tracker found
  obtain ⟨otherOpener, otherFirst⟩ := reorders.exists_opener? first
  obtain ⟨_, isKind, here⟩ := Log.of_opener? first
  have held : other.Holds opener.1 :=
    (otherReflects.holds_iff _).mpr ⟨otherOpener, by rw [isKind, here, otherFirst]⟩
  obtain ⟨otherTracker, otherFound⟩ := (holds_content_iff isKind).mp held
  rw [here] at otherFound
  obtain ⟨again, againFirst, otherTells⟩ :=
    otherReflects.contents kind id otherTracker otherFound
  exact ⟨otherTracker, otherFound, tells.disowned_eq otherTells
    (reorders.alike built first againFirst) (reorders.postedAt kind.tracker id)⟩

/-- Memories whose logs have the same entries, at built keys, are the same but for the owners. -/
theorem Reflects.sameButOwners (reflects : memory.Reflects log)
    (otherReflects : other.Reflects otherLog) (reorders : log.Reorders otherLog)
    (built : ∀ key ∈ log.keys, key.IsBuilt) (rolls : memory.RollsUp) (otherRolls : other.RollsUp) :
    memory.SameButOwners other := by
  have otherBuilt : ∀ key ∈ otherLog.keys, key.IsBuilt := fun key member =>
    built key ((reorders.mem_keys_iff key).mpr member)
  constructor
  · intro id
    refine Option.ext fun tracker => ⟨?_, ?_⟩
    · exact reflects.find?_user otherReflects reorders built rolls otherRolls
    · exact otherReflects.find?_user reflects reorders.symm otherBuilt otherRolls rolls
  · intro kind id
    cases found : (memory.contents kind).find? id with
    | some tracker =>
        obtain ⟨otherTracker, otherFound, same⟩ :=
          reflects.find?_content otherReflects reorders built found
        rw [otherFound, Option.map_some, Option.map_some, same]
    | none =>
        cases otherFound : (other.contents kind).find? id with
        | none => rfl
        | some otherTracker =>
            obtain ⟨tracker, held, _⟩ :=
              otherReflects.find?_content reflects reorders.symm otherBuilt otherFound
            cases found.symm.trans held

end Memory

end ActivityLedger

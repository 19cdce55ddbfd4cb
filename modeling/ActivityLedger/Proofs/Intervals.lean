import ActivityLedger.Proofs.Accounts

/-!
# Scans of any interval of keys

A shelf is shared by all entities, and the keys of an interval may be any keys.  What a
scan gives rests on every tracker being at the id that it carries, which holds after any
calls, and on the entity that a tracker was set up for.  A scan is refused for a bound
that is of another kind or entity.  Otherwise it gives the trackers of its entity with
ids from bound to bound, ascending, and none where the bounds are reversed.
-/

namespace ActivityLedger

namespace Key

def IsOf (kind : TrackerKind) (entityId : String) (key : Key) : Prop :=
  key.kind = kind ∧ key.entityId = entityId

instance (kind : TrackerKind) (entityId : String) (key : Key) :
    Decidable (key.IsOf kind entityId) :=
  inferInstanceAs (Decidable (_ ∧ _))

variable {kind : TrackerKind} {entityId : String} {first last : Key}

theorem checkBound_of_isOf (own : first.IsOf kind entityId) :
    checkBound kind entityId first = .ok () :=
  if_pos own

theorem checkBound_of_not_isOf (foreign : ¬ first.IsOf kind entityId) :
    checkBound kind entityId first = .error (.invariant (.foreignBound first.id kind entityId)) :=
  if_neg foreign

theorem checkRange_of_isOf (own : first.IsOf kind entityId) (ownLast : last.IsOf kind entityId) :
    checkRange kind entityId first last = .ok () := by
  rw [checkRange, checkBound_of_isOf own]
  exact checkBound_of_isOf ownLast

/-- A range is refused for its first bound that is foreign. -/
theorem checkRange_eq_error_iff {error : Error} :
    checkRange kind entityId first last = .error error ↔
      (¬ first.IsOf kind entityId ∧ error = .invariant (.foreignBound first.id kind entityId)) ∨
        (first.IsOf kind entityId ∧ ¬ last.IsOf kind entityId ∧
          error = .invariant (.foreignBound last.id kind entityId)) := by
  by_cases own : first.IsOf kind entityId
  · rw [checkRange, checkBound_of_isOf own]
    show checkBound kind entityId last = _ ↔ _
    by_cases ownLast : last.IsOf kind entityId
    · simp [checkBound_of_isOf ownLast, own, ownLast]
    · simp [checkBound_of_not_isOf ownLast, own, ownLast, eq_comm]
  · have refused : checkRange kind entityId first last =
        .error (.invariant (.foreignBound first.id kind entityId)) := by
      rw [checkRange, checkBound_of_not_isOf own]
      rfl
    simp [refused, own, eq_comm]

end Key

namespace Shelf

variable {α : Type} {shelf : Shelf α} {label : α → String}

/-- Every value carries the id that it is found under. -/
def Labelled (shelf : Shelf α) (label : α → String) : Prop :=
  ∀ id value, shelf.find? id = some value → label value = id

/-- A value that is found at all is found under the id that it carries. -/
theorem Labelled.exists_find?_iff (labelled : shelf.Labelled label) {value : α} :
    (∃ id, shelf.find? id = some value) ↔ shelf.find? (label value) = some value := by
  constructor
  · rintro ⟨id, found⟩
    rw [labelled id value found]
    exact found
  · intro found
    exact ⟨label value, found⟩

/-- A scan selects the values that carry an id between the ends. -/
theorem Labelled.mem_range_iff (labelled : shelf.Labelled label) {first last : String} {value : α} :
    value ∈ shelf.range first last ↔ (∃ id, shelf.find? id = some value) ∧
      ¬ Text.precedes (label value) first ∧ ¬ Text.precedes last (label value) := by
  constructor
  · intro member
    obtain ⟨⟨id, _⟩, selected, rfl⟩ := List.mem_map.mp member
    obtain ⟨found, inside⟩ := (mem_between_iff shelf first last id _).mp selected
    rw [labelled id _ found]
    exact ⟨⟨id, found⟩, inside⟩
  · rintro ⟨stored, inside⟩
    have found := labelled.exists_find?_iff.mp stored
    exact List.mem_map.mpr ⟨(label value, value),
      (mem_between_iff shelf first last _ value).mpr ⟨found, inside⟩, rfl⟩

theorem Labelled.ascending_range (labelled : shelf.Labelled label) (first last : String) :
    (shelf.range first last).Pairwise fun a b => Text.precedes (label a) (label b) := by
  refine List.pairwise_map.mpr ((shelf.ascending_between first last).imp_of_mem ?_)
  rintro ⟨id, value⟩ ⟨otherId, other⟩ selected selectedOther before
  have found := ((mem_between_iff shelf first last id value).mp selected).1
  have foundOther := ((mem_between_iff shelf first last otherId other).mp selectedOther).1
  rw [labelled id value found, labelled otherId other foundOther]
  exact before

end Shelf

/-! ## Families of trackers -/

/-- The trackers of one kind in a memory: what they carry, where they are kept, and the calls that
look one up and scan an interval of them. -/
structure Family (α : Type) where
  kind : TrackerKind
  label : α → String
  entity : α → String
  shelf : Memory → Shelf α
  lookup : Key → Memory → Except Error (Option α)
  scan : String → Key → Key → Memory → Except Error (List α)

namespace Family

def user : Family UserTracker where
  kind := .user
  label := UserTracker.id
  entity := UserTracker.userId
  shelf := Memory.users
  lookup := Memory.store.user?
  scan := Memory.store.userRange

def content (kind : ContentKind) : Family ContentTracker where
  kind := kind.tracker
  label := ContentTracker.id
  entity := ContentTracker.contentId
  shelf memory := memory.contents kind
  lookup := Memory.store.content?
  scan := Memory.store.contentRange kind

variable {α : Type} (family : Family α)

def Keeps (memory : Memory) (tracker : α) : Prop :=
  ∃ id, (family.shelf memory).find? id = some tracker

/-- What a scan of a memory gives for an entity and two keys. -/
structure ScansExactly (memory : Memory) (entityId : String) (first last : Key) : Prop where
  refused : ∀ error, family.scan entityId first last memory = .error error ↔
    (¬ first.IsOf family.kind entityId ∧
        error = .invariant (.foreignBound first.id family.kind entityId)) ∨
      (first.IsOf family.kind entityId ∧ ¬ last.IsOf family.kind entityId ∧
        error = .invariant (.foreignBound last.id family.kind entityId))
  given : first.IsOf family.kind entityId → last.IsOf family.kind entityId →
    ∃ trackers, family.scan entityId first last memory = .ok trackers
  members : ∀ trackers, family.scan entityId first last memory = .ok trackers → ∀ tracker,
    tracker ∈ trackers ↔ family.Keeps memory tracker ∧ family.entity tracker = entityId ∧
      ¬ Text.precedes (family.label tracker) first.id ∧
      ¬ Text.precedes last.id (family.label tracker)
  ascending : ∀ trackers, family.scan entityId first last memory = .ok trackers →
    trackers.Pairwise fun a b => Text.precedes (family.label a) (family.label b)
  reversed : Text.precedes last.id first.id → ∀ trackers,
    family.scan entityId first last memory = .ok trackers → trackers = []
  lookups : ∀ trackers, family.scan entityId first last memory = .ok trackers →
    ∀ tracker ∈ trackers, ∀ key : Key, key.kind = family.kind → key.id = family.label tracker →
      family.lookup key memory = .ok (some tracker)

structure ReadsShelf : Prop where
  lookup : ∀ key memory, key.kind = family.kind →
    family.lookup key memory = .ok ((family.shelf memory).find? key.id)
  scan : ∀ entityId first last memory, family.scan entityId first last memory =
    (Key.checkRange family.kind entityId first last).map fun _ =>
      ((family.shelf memory).range first.id last.id).filter fun tracker =>
        family.entity tracker = entityId

theorem readsShelf_user : user.ReadsShelf where
  lookup key memory isUser := by
    have checked : key.checkUser = .ok () := if_pos isUser
    show key.checkUser.map _ = _
    rw [checked]
    rfl
  scan := Memory.userRange_eq

theorem readsShelf_content (kind : ContentKind) : (content kind).ReadsShelf where
  lookup key memory isKind := by
    show key.contentKind.map _ = _
    rw [Key.contentKind, show key.kind = kind.tracker from isKind]
    cases kind <;> rfl
  scan := Memory.contentRange_eq kind

variable {family}

theorem scansExactly_of_labelled (reads : family.ReadsShelf) {memory : Memory}
    (labelled : (family.shelf memory).Labelled family.label) (entityId : String)
    (first last : Key) : family.ScansExactly memory entityId first last := by
  have given : ∀ trackers, family.scan entityId first last memory = .ok trackers →
      trackers = ((family.shelf memory).range first.id last.id).filter fun tracker =>
        family.entity tracker = entityId := by
    intro trackers scanned
    rw [reads.scan] at scanned
    obtain ⟨_, _, same⟩ := Answer.map_eq_ok_iff.mp scanned
    exact same.symm
  constructor
  case refused =>
    intro error
    rw [reads.scan, Answer.map_eq_error_iff, Key.checkRange_eq_error_iff]
  case given =>
    intro own ownLast
    exact ⟨_, by rw [reads.scan, Key.checkRange_of_isOf own ownLast]; rfl⟩
  case members =>
    intro trackers scanned tracker
    rw [given trackers scanned, List.mem_filter, labelled.mem_range_iff, decide_eq_true_iff]
    unfold Keeps
    tauto
  case ascending =>
    intro trackers scanned
    rw [given trackers scanned]
    exact (labelled.ascending_range first.id last.id).filter _
  case reversed =>
    intro reversed trackers scanned
    rw [given trackers scanned, Shelf.range_of_precedes _ reversed, List.filter_nil]
  case lookups =>
    intro trackers scanned tracker member key isKind sameId
    rw [given trackers scanned] at member
    have kept := (labelled.mem_range_iff.mp (List.mem_of_mem_filter member)).1
    rw [reads.lookup key memory isKind, sameId, labelled.exists_find?_iff.mp kept]

end Family

namespace Memory

/-! ## After any calls -/

theorem Reflects.labelled_users {memory : Memory} {log : Log} (reflects : memory.Reflects log) :
    memory.users.Labelled UserTracker.id := by
  intro id tracker found
  obtain ⟨opener, first, tells⟩ := reflects.users id tracker found
  exact tells.id.trans (Log.of_opener? first).2.2

theorem Reflects.labelled_contents {memory : Memory} {log : Log} (reflects : memory.Reflects log)
    (kind : ContentKind) : (memory.contents kind).Labelled ContentTracker.id := by
  intro id tracker found
  obtain ⟨opener, first, tells⟩ := reflects.contents kind id tracker found
  exact tells.id.trans (Log.of_opener? first).2.2

/-- Scans of a memory are exact after any calls, with any keys, for any entity and bounds. -/
theorem scansExactly_after (calls : List StoreCall) (entityId : String) (first last : Key) :
    Family.user.ScansExactly (store.after calls empty) entityId first last ∧
      ∀ kind, (Family.content kind).ScansExactly (store.after calls empty) entityId first last := by
  obtain ⟨log, reflects⟩ := exists_reflects calls
  constructor
  · exact Family.scansExactly_of_labelled Family.readsShelf_user reflects.labelled_users
      entityId first last
  · intro kind
    exact Family.scansExactly_of_labelled (Family.readsShelf_content kind)
      (reflects.labelled_contents kind) entityId first last

end Memory

end ActivityLedger

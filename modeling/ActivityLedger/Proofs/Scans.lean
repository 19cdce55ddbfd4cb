import ActivityLedger.Proofs.Periods
import ActivityLedger.Proofs.Shelf
import Mathlib.Data.List.Sort

/-!
# Scans as loops of lookups

On a shelf where every entry is at the id of its own entity and period, a scan between
two ids of one entity finds what single lookups find for the periods in between, in the
same order.  Entries of other entities may lie in the scanned interval; they are the
ones that are filtered out.
-/

namespace ActivityLedger

namespace Shelf

variable {α : Type}

/-- Every entry is at the id of its own entity and period. -/
def Filed (shelf : Shelf α) (kind : TrackerKind) (entity : α → String) (period : α → Date) : Prop :=
  ∀ id value, shelf.find? id = some value → ∃ date : Date, date.HasCompact ∧
    id = Key.idText kind (entity value) date ∧ period value = Key.periodOf kind date

variable {shelf : Shelf α} {kind : TrackerKind} {entity : α → String} {period : α → Date}

theorem Filed.of_find? (filed : shelf.Filed kind entity period) {entityId : String} {date : Date}
    (compact : date.HasCompact) {value : α}
    (found : shelf.find? (Key.idText kind entityId date) = some value) :
    entity value = entityId ∧ period value = Key.periodOf kind date := by
  obtain ⟨own, ownCompact, same, covers⟩ := filed _ value found
  obtain ⟨sameEntity, samePeriod⟩ := (Key.idText_eq_iff kind _ _ compact ownCompact).mp same
  exact ⟨sameEntity.symm, covers.trans ((Key.periodOf_eq_iff kind _ _).mpr samePeriod).symm⟩

/-- The entries that single lookups find for an entity in periods one after the other. -/
def found (shelf : Shelf α) (kind : TrackerKind) (entityId : String) (dates : List Date) :
    List (String × α) :=
  dates.filterMap fun date =>
    (shelf.find? (Key.idText kind entityId date)).map fun value =>
      (Key.idText kind entityId date, value)

theorem mem_found_iff {entityId : String} {dates : List Date} {id : String} {value : α} :
    (id, value) ∈ shelf.found kind entityId dates ↔
      ∃ date ∈ dates, id = Key.idText kind entityId date ∧ shelf.find? id = some value := by
  unfold found
  rw [List.mem_filterMap]
  constructor
  · rintro ⟨date, member, here⟩
    obtain ⟨held, lookup, same⟩ := Option.map_eq_some_iff.mp here
    cases same
    exact ⟨date, member, rfl, lookup⟩
  · rintro ⟨date, member, rfl, lookup⟩
    exact ⟨date, member, by rw [lookup]; rfl⟩

theorem ascending_found (entityId : String) {dates : List Date}
    (compact : ∀ date ∈ dates, date.HasCompact) (ascending : dates.Pairwise (PeriodBefore kind)) :
    (shelf.found kind entityId dates).Pairwise fun a b => Text.precedes a.1 b.1 := by
  refine List.pairwise_filterMap.mpr (ascending.imp_of_mem ?_)
  intro date later member memberLater before entry here other there
  obtain ⟨_, _, rfl⟩ := Option.map_eq_some_iff.mp here
  obtain ⟨_, _, rfl⟩ := Option.map_eq_some_iff.mp there
  exact (Key.precedes_idText_iff kind entityId (compact date member)
    (compact later memberLater)).mpr before

theorem eq_of_mem_iff {left right : List (String × α)}
    (leftAscending : left.Pairwise fun a b => Text.precedes a.1 b.1)
    (rightAscending : right.Pairwise fun a b => Text.precedes a.1 b.1)
    (same : ∀ id value, (id, value) ∈ left ↔ (id, value) ∈ right) : left = right := by
  have antisymmetric : Std.Antisymm fun a b : String × α => Text.precedes a.1 b.1 :=
    ⟨fun a b before after => absurd (Text.precedes_trans before after) (Text.not_precedes_self a.1)⟩
  have irreflexive : Std.Irrefl fun a b : String × α => Text.precedes a.1 b.1 :=
    ⟨fun a => Text.not_precedes_self a.1⟩
  exact leftAscending.eq_of_mem_iff rightAscending fun entry => same entry.1 entry.2

/-- The part of a scan that counts for an entity is what single lookups find. -/
theorem between_filter_eq_found (filed : shelf.Filed kind entity period) (entityId : String)
    {first last : Date} (compact : first.HasCompact) (lastCompact : last.HasCompact)
    (order : first.periodNumber kind ≤ last.periodNumber kind + 1) :
    ((shelf.between (Key.idText kind entityId first) (Key.idText kind entityId last)).filter
        fun entry => entity entry.2 = entityId) =
      shelf.found kind entityId (Date.periods kind first last) := by
  have compactBetween : ∀ date ∈ Date.periods kind first last, date.HasCompact :=
    fun _ member => Date.compact_of_mem_periods compact lastCompact order member
  refine eq_of_mem_iff ((shelf.ascending_between _ _).filter _)
    (ascending_found entityId compactBetween (Date.ascending_periods kind first last order)) ?_
  intro id value
  rw [List.mem_filter, mem_between_iff, mem_found_iff]
  constructor
  · rintro ⟨⟨lookup, notBefore, notAfter⟩, own⟩
    obtain ⟨date, dateCompact, rfl, _⟩ := filed id value lookup
    have own : entity value = entityId := by simpa using own
    rw [own] at lookup notBefore notAfter ⊢
    rw [Key.precedes_idText_iff kind entityId dateCompact compact,
      Date.periodBefore_iff] at notBefore
    rw [Key.precedes_idText_iff kind entityId lastCompact dateCompact,
      Date.periodBefore_iff] at notAfter
    obtain ⟨met, member, same⟩ := Date.exists_mem_periods (Int.not_lt.mp notBefore)
      (Int.not_lt.mp notAfter)
    have sameId := (Key.idText_eq_iff kind entityId entityId (compactBetween met member)
      dateCompact).mpr ⟨rfl, same⟩
    exact ⟨met, member, sameId.symm, lookup⟩
  · rintro ⟨date, member, rfl, lookup⟩
    have dateCompact := compactBetween date member
    obtain ⟨notBefore, notAfter⟩ := Date.periodNumber_of_mem order member
    refine ⟨⟨lookup, ?_, ?_⟩, by simpa using (filed.of_find? dateCompact lookup).1⟩
    · rw [Key.precedes_idText_iff kind entityId dateCompact compact, Date.periodBefore_iff]
      omega
    · rw [Key.precedes_idText_iff kind entityId lastCompact dateCompact, Date.periodBefore_iff]
      omega

/-! ## Selected values -/

def lookups (shelf : Shelf α) (kind : TrackerKind) (entityId : String) (dates : List Date) :
    List α :=
  dates.filterMap fun date => shelf.find? (Key.idText kind entityId date)

theorem map_found (entityId : String) (dates : List Date) :
    (shelf.found kind entityId dates).map Prod.snd = shelf.lookups kind entityId dates := by
  unfold found lookups
  rw [List.map_filterMap]
  refine List.filterMap_congr fun date _ => ?_
  cases shelf.find? (Key.idText kind entityId date) <;> rfl

theorem range_filter_eq_lookups (filed : shelf.Filed kind entity period) (entityId : String)
    {first last : Date} (compact : first.HasCompact) (lastCompact : last.HasCompact)
    (order : first.periodNumber kind ≤ last.periodNumber kind + 1) :
    ((shelf.range (Key.idText kind entityId first) (Key.idText kind entityId last)).filter
        fun value => entity value = entityId) =
      shelf.lookups kind entityId (Date.periods kind first last) := by
  rw [← map_found, ← between_filter_eq_found filed entityId compact lastCompact order, range,
    List.filter_map]
  rfl

/-- Between two dates in one period a single lookup is enough. -/
theorem toList_find?_eq_lookups (entityId : String) {first last : Date}
    (compact : first.HasCompact) (same : SamePeriod kind first last) :
    (shelf.find? (Key.idText kind entityId first)).toList =
      shelf.lookups kind entityId (Date.periods kind first last) := by
  obtain ⟨met, only, sameMet⟩ := Date.periods_of_samePeriod same
  have metCompact : met.HasCompact := by
    rw [Date.HasCompact, Date.year_eq_of_samePeriod sameMet]
    exact compact
  have sameId := (Key.idText_eq_iff kind entityId entityId metCompact compact).mpr ⟨rfl, sameMet⟩
  rw [lookups, only, List.filterMap_cons, sameId]
  cases shelf.find? (Key.idText kind entityId first) <;> rfl

theorem entity_of_mem_lookups (filed : shelf.Filed kind entity period) {entityId : String}
    {dates : List Date} (compact : ∀ date ∈ dates, date.HasCompact) {value : α}
    (member : value ∈ shelf.lookups kind entityId dates) : entity value = entityId := by
  obtain ⟨date, listed, lookup⟩ := List.mem_filterMap.mp member
  exact (filed.of_find? (compact date listed) lookup).1

theorem nodup_lookups (filed : shelf.Filed kind entity period) (entityId : String)
    {dates : List Date} (compact : ∀ date ∈ dates, date.HasCompact)
    (ascending : dates.Pairwise (PeriodBefore kind)) :
    ((shelf.lookups kind entityId dates).map period).Nodup := by
  refine List.pairwise_map.mpr (List.pairwise_filterMap.mpr (ascending.imp_of_mem ?_))
  intro date later member memberLater before value here other there same
  rw [(filed.of_find? (compact date member) here).2,
    (filed.of_find? (compact later memberLater) there).2, Key.periodOf_eq_iff,
    Date.samePeriod_iff] at same
  rw [Date.periodBefore_iff] at before
  omega

theorem length_lookups_le (shelf : Shelf α) (kind : TrackerKind) (entityId : String)
    (dates : List Date) : (shelf.lookups kind entityId dates).length ≤ dates.length :=
  List.length_filterMap_le _ _

end Shelf

end ActivityLedger

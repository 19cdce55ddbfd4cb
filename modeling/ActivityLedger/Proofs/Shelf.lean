import ActivityLedger.Store.Shelf
import Mathlib.Algebra.Order.Ring.Int
import Mathlib.Data.List.Forall2

/-!
# Lookup, replacement and scans of shelves

What an insertion does to every lookup, which entries a shelf has, and what a scan of
an interval selects.  Two shelves that carry related values under the same ids stay
related under insertion, lookup and scans.
-/

namespace ActivityLedger

namespace Shelf

variable {α β : Type}

/-! ## Lookup -/

theorem lookup_cons (entry : String × α) (rest : List (String × α)) (id : String) :
    (entry :: rest).lookup id = if id = entry.1 then some entry.2 else rest.lookup id := by
  obtain ⟨key, value⟩ := entry
  by_cases same : id = key
  · simp [same]
  · have test : (id == key) = false := beq_eq_false_iff_ne.mpr same
    simp [List.lookup_cons, test, same]

theorem lookup_place (id other : String) (value : α) (entries : List (String × α))
    (ascending : entries.Pairwise fun a b => Text.precedes a.1 b.1) :
    (place id value entries).lookup other =
      if other = id then some value else entries.lookup other := by
  induction entries with
  | nil => simp [place, lookup_cons]
  | cons first rest ih =>
      obtain ⟨key, old⟩ := first
      have ascendingRest := (List.pairwise_cons.mp ascending).2
      unfold place
      split
      · rw [lookup_cons]
      · split
        · rename_i after
          have different : key ≠ id := fun same => Text.not_precedes_self id (same ▸ after)
          rw [lookup_cons, lookup_cons, ih ascendingRest]
          by_cases atKey : other = key
          · simp [atKey, different]
          · simp [atKey]
        · rename_i notBefore notAfter
          have same : id = key := Text.eq_of_not_precedes notBefore notAfter
          subst same
          by_cases atKey : other = id <;> simp [lookup_cons, atKey]

theorem find?_insert (shelf : Shelf α) (id other : String) (value : α) :
    (shelf.insert id value).find? other = if other = id then some value else shelf.find? other :=
  lookup_place id other value shelf.entries shelf.ascending

@[simp] theorem find?_insert_self (shelf : Shelf α) (id : String) (value : α) :
    (shelf.insert id value).find? id = some value := by
  simp [find?_insert]

theorem find?_insert_of_ne (shelf : Shelf α) {id other : String} (value : α)
    (different : other ≠ id) : (shelf.insert id value).find? other = shelf.find? other := by
  simp [find?_insert, different]

/-- What is found after an insertion is the new value, or was found before. -/
theorem of_find?_insert {shelf : Shelf α} {id other : String} {value found : α}
    (lookup : (shelf.insert id value).find? other = some found) :
    (other = id ∧ found = value) ∨ (other ≠ id ∧ shelf.find? other = some found) := by
  rw [find?_insert] at lookup
  split at lookup
  · rename_i same
    exact Or.inl ⟨same, (Option.some.inj lookup).symm⟩
  · rename_i different
    exact Or.inr ⟨different, lookup⟩

theorem exists_find?_insert {shelf : Shelf α} {other : String}
    (present : ∃ value, shelf.find? other = some value) (id : String) (value : α) :
    ∃ found, (shelf.insert id value).find? other = some found := by
  obtain ⟨old, found⟩ := present
  by_cases same : other = id
  · exact ⟨value, by rw [same, find?_insert_self]⟩
  · exact ⟨old, by rw [find?_insert_of_ne _ _ same, found]⟩

/-! ## Entries -/

theorem lookup_eq_some_iff_mem {entries : List (String × α)}
    (ascending : entries.Pairwise fun a b => Text.precedes a.1 b.1) (id : String) (value : α) :
    entries.lookup id = some value ↔ (id, value) ∈ entries := by
  induction entries with
  | nil => simp
  | cons first rest ih =>
      obtain ⟨key, old⟩ := first
      obtain ⟨least, ascendingRest⟩ := List.pairwise_cons.mp ascending
      rw [lookup_cons, List.mem_cons]
      by_cases same : id = key
      · subst same
        have absent : (id, value) ∉ rest :=
          fun member => Text.not_precedes_self id (least (id, value) member)
        simp [absent, eq_comm]
      · simp [same, ih ascendingRest]

theorem find?_eq_some_iff_mem (shelf : Shelf α) (id : String) (value : α) :
    shelf.find? id = some value ↔ (id, value) ∈ shelf.entries :=
  lookup_eq_some_iff_mem shelf.ascending id value

/-- A scan selects exactly the entries whose ids lie between the ends. -/
theorem mem_between_iff (shelf : Shelf α) (first last id : String) (value : α) :
    (id, value) ∈ shelf.between first last ↔
      shelf.find? id = some value ∧ ¬ Text.precedes id first ∧ ¬ Text.precedes last id := by
  simp [between, find?_eq_some_iff_mem]

theorem exists_of_mem_range {shelf : Shelf α} {first last : String} {value : α}
    (member : value ∈ shelf.range first last) : ∃ id, shelf.find? id = some value := by
  obtain ⟨entry, selected, rfl⟩ := List.mem_map.mp member
  exact ⟨entry.1, ((mem_between_iff shelf first last entry.1 entry.2).mp selected).1⟩

theorem ascending_between (shelf : Shelf α) (first last : String) :
    (shelf.between first last).Pairwise fun a b => Text.precedes a.1 b.1 :=
  shelf.ascending.filter _

/-- No id is both at or after the one end and at or before an end that comes before it. -/
theorem range_of_precedes (shelf : Shelf α) {first last : String}
    (reversed : Text.precedes last first) : shelf.range first last = [] := by
  refine List.eq_nil_iff_forall_not_mem.mpr fun value member => ?_
  obtain ⟨⟨id, _⟩, selected, rfl⟩ := List.mem_map.mp member
  obtain ⟨_, notBefore, notAfter⟩ := (mem_between_iff shelf first last id _).mp selected
  by_cases after : Text.precedes first id
  · exact notAfter (Text.precedes_trans reversed after)
  · rw [Text.eq_of_not_precedes notBefore after] at notAfter
    exact notAfter reversed

/-- An interval that is only asked for where its ends are in order is the scan of its ids. -/
theorem guarded_slice (shelf : Shelf α) (first last : String) (test : α → Bool) :
    (if reversed : Text.precedes last first then []
      else (shelf.slice first last reversed).filter test) = (shelf.range first last).filter test := by
  split
  · rename_i reversed
    rw [shelf.range_of_precedes reversed, List.filter_nil]
  · rfl

/-! ## Related shelves -/

/-- The shelves have the same ids, and related values under each of them. -/
def Related (relation : String → α → β → Prop) (left : Shelf α) (right : Shelf β) : Prop :=
  List.Forall₂ (fun a b => a.1 = b.1 ∧ relation a.1 a.2 b.2) left.entries right.entries

namespace Related

variable {relation : String → α → β → Prop} {left : Shelf α} {right : Shelf β}

theorem empty : Related relation (Shelf.empty : Shelf α) (Shelf.empty : Shelf β) := .nil

theorem insert (related : Related relation left right) {id : String} {value : α} {other : β}
    (new : relation id value other) :
    Related relation (left.insert id value) (right.insert id other) := by
  show List.Forall₂ _ (place id value left.entries) (place id other right.entries)
  unfold Related at related
  generalize left.entries = entries at related ⊢
  generalize right.entries = others at related ⊢
  induction related with
  | nil => exact .cons ⟨rfl, new⟩ .nil
  | @cons first second entries others both rest ih =>
      obtain ⟨key, old⟩ := first
      obtain ⟨otherKey, otherOld⟩ := second
      obtain ⟨rfl, values⟩ := both
      unfold place
      split
      · exact .cons ⟨rfl, new⟩ (.cons ⟨rfl, values⟩ rest)
      · split
        · exact .cons ⟨rfl, values⟩ ih
        · exact .cons ⟨rfl, new⟩ rest

theorem find? (related : Related relation left right) (id : String) :
    (left.find? id = none ∧ right.find? id = none) ∨
      ∃ a b, left.find? id = some a ∧ right.find? id = some b ∧ relation id a b := by
  show (left.entries.lookup id = none ∧ right.entries.lookup id = none) ∨
    ∃ a b, left.entries.lookup id = some a ∧ right.entries.lookup id = some b ∧ relation id a b
  unfold Related at related
  generalize left.entries = entries at related ⊢
  generalize right.entries = others at related ⊢
  induction related with
  | nil => exact Or.inl ⟨rfl, rfl⟩
  | @cons first second entries others both rest ih =>
      obtain ⟨sameKey, values⟩ := both
      rw [lookup_cons, lookup_cons, ← sameKey]
      by_cases here : id = first.1
      · rw [if_pos here, if_pos here, here]
        exact Or.inr ⟨first.2, second.2, rfl, rfl, values⟩
      · rw [if_neg here, if_neg here]
        exact ih

theorem exists_of_find? (related : Related relation left right) {id : String} {b : β}
    (found : right.find? id = some b) : ∃ a, left.find? id = some a ∧ relation id a b := by
  rcases related.find? id with ⟨_, absent⟩ | ⟨a, other, here, same, both⟩
  · cases absent.symm.trans found
  · cases same.symm.trans found
    exact ⟨a, here, both⟩

theorem between (related : Related relation left right) (first last : String) :
    List.Forall₂ (fun a b => a.1 = b.1 ∧ relation a.1 a.2 b.2)
      (left.between first last) (right.between first last) := by
  unfold Related at related
  unfold Shelf.between
  generalize left.entries = entries at related ⊢
  generalize right.entries = others at related ⊢
  induction related with
  | nil => exact .nil
  | @cons head other entries others both rest ih =>
      rw [List.filter_cons, List.filter_cons, ← both.1]
      split
      · exact .cons both ih
      · exact ih

/-- The values of a scan that pass a test are related to the entries of the other one that pass
a test that asks for the same. -/
theorem range (related : Related relation left right) (first last : String) (test : α → Bool)
    (other : β → Bool) (same : ∀ id a b, relation id a b → test a = other b) :
    List.Forall₂ (fun value entry => relation entry.1 value entry.2)
      ((left.range first last).filter test)
      ((right.between first last).filter fun entry => other entry.2) := by
  have values : List.Forall₂ (fun value entry => relation entry.1 value entry.2)
      (left.range first last) (right.between first last) := by
    refine List.forall₂_map_left_iff.mpr ((related.between first last).imp ?_)
    rintro entry other ⟨same, values⟩
    exact same ▸ values
  refine List.rel_filter (fun value entry both => ?_) values
  show test value = true ↔ other entry.2 = true
  rw [same entry.1 value entry.2 both]

end Related

end Shelf

end ActivityLedger

import ActivityLedger.Text.Order

/-!
# Shelves

A finite map from ids to values, kept in the order of the ids.  The order is part
of the type, so that a lookup, a replacement and a scan of an interval of ids are
each a single pass, and no id occurs twice.
-/

namespace ActivityLedger

/-- A finite map from ids to values, in the order of the ids. -/
structure Shelf (α : Type) where
  entries : List (String × α)
  ascending : entries.Pairwise fun a b => Text.precedes a.1 b.1

namespace Shelf

variable {α : Type}

@[ext] theorem ext {a b : Shelf α} (same : a.entries = b.entries) : a = b := by
  cases a; cases b; simp_all

def empty : Shelf α := ⟨[], .nil⟩

/-- Ascending entries with one more, which takes the place of one with the same id. -/
def place (id : String) (value : α) : List (String × α) → List (String × α)
  | [] => [(id, value)]
  | (other, old) :: rest =>
      if Text.precedes id other then (id, value) :: (other, old) :: rest
      else if Text.precedes other id then (other, old) :: place id value rest
      else (id, value) :: rest

theorem eq_or_mem_of_mem_place {id : String} {value : α} {entries : List (String × α)}
    {entry : String × α} (member : entry ∈ place id value entries) :
    entry = (id, value) ∨ entry ∈ entries := by
  induction entries with
  | nil =>
      left
      simpa [place] using member
  | cons first rest ih =>
      obtain ⟨other, old⟩ := first
      unfold place at member
      split at member
      · simpa using member
      · split at member
        · rcases List.mem_cons.mp member with same | later
          · right
            simp [same]
          · rcases ih later with same | found
            · exact Or.inl same
            · exact Or.inr (List.mem_cons_of_mem _ found)
        · rcases List.mem_cons.mp member with same | later
          · exact Or.inl same
          · exact Or.inr (List.mem_cons_of_mem _ later)

theorem ascending_place {id : String} {value : α} {entries : List (String × α)}
    (ascending : entries.Pairwise fun a b => Text.precedes a.1 b.1) :
    (place id value entries).Pairwise fun a b => Text.precedes a.1 b.1 := by
  induction entries with
  | nil => simp [place]
  | cons first rest ih =>
      obtain ⟨other, old⟩ := first
      obtain ⟨least, ascendingRest⟩ := List.pairwise_cons.mp ascending
      unfold place
      split
      · rename_i before
        refine List.pairwise_cons.mpr ⟨?_, ascending⟩
        intro entry member
        rcases List.mem_cons.mp member with same | later
        · simpa [same] using before
        · exact Text.precedes_trans before (least entry later)
      · split
        · rename_i after
          refine List.pairwise_cons.mpr ⟨?_, ih ascendingRest⟩
          intro entry member
          rcases eq_or_mem_of_mem_place member with same | found
          · simpa [same] using after
          · exact least entry found
        · rename_i notBefore notAfter
          have same : id = other := Text.eq_of_not_precedes notBefore notAfter
          exact List.pairwise_cons.mpr ⟨same ▸ least, ascendingRest⟩

def insert (shelf : Shelf α) (id : String) (value : α) : Shelf α :=
  ⟨place id value shelf.entries, ascending_place shelf.ascending⟩

def find? (shelf : Shelf α) (id : String) : Option α := shelf.entries.lookup id

def size (shelf : Shelf α) : Nat := shelf.entries.length

/-- The entries with the ids from the first to the last, in their order. -/
def between (shelf : Shelf α) (first last : String) : List (String × α) :=
  shelf.entries.filter fun entry =>
    !Text.precedes entry.1 first && !Text.precedes last entry.1

/-- The values under the ids from the first to the last, in the order of the ids. -/
def range (shelf : Shelf α) (first last : String) : List α :=
  (shelf.between first last).map Prod.snd

/-- The values under the ids of an interval.  An ordered map has no interval that ends before it
begins, so that the ends must be known to be in order. -/
def slice (shelf : Shelf α) (first last : String) (_ordered : ¬ Text.precedes last first) : List α :=
  shelf.range first last

def erase (shelf : Shelf α) (id : String) : Shelf α :=
  ⟨shelf.entries.filter fun entry => entry.1 ≠ id, shelf.ascending.filter _⟩

end Shelf

end ActivityLedger

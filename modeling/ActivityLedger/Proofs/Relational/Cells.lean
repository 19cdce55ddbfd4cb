import ActivityLedger.Proofs.Batches
import ActivityLedger.Proofs.Rounding
import ActivityLedger.Relational.Store

/-!
# Cells of counters

Cells are read as a table of counters where they hold its amounts.  As long as no sum is
below the least amount, there is room in them for a list of amounts exactly where the
list can be added to the table, and then they hold the sums.
-/

namespace ActivityLedger.Relational

variable {κ : Type} [Vocabulary κ]

/-- Every cell is the integer that the table has for its counter. -/
def HoldTable (cells : Columns κ Cell) (table : Counters κ) : Prop :=
  ∀ counter, cells.get counter = .integer (table.get counter)

theorem val_wrap {n : Int} (lower : -9223372036854775808 ≤ n) (upper : n ≤ 9223372036854775807) :
    (Amount.wrap n).val = n := by
  show Int.bmod n 18446744073709551616 = n
  rw [Int.bmod_eq_iff (by decide)]
  omega

theorem Cell.integer_eq_ofSmall_iff {number : Amount} (small : Small) :
    Cell.integer number = Cell.ofSmall small ↔ number.val = small.val := by
  have lower := small.lo_le
  have upper := small.le_hi
  have same := val_wrap (n := small.val) (by omega) (by omega)
  rw [Cell.ofSmall, Cell.integer.injEq, Bounded.ext_iff, same]

theorem Cell.ofSmall_injective {a b : Small} (same : Cell.ofSmall a = Cell.ofSmall b) : a = b := by
  have lower := a.lo_le
  have upper := a.le_hi
  have number := (Cell.integer_eq_ofSmall_iff b).mp same
  rw [val_wrap (by omega) (by omega)] at number
  exact Bounded.ext number

theorem holdTable_zero : HoldTable (zeroCells : Columns κ Cell) Counters.zero := by
  intro counter
  simp [zeroCells, Cell.zero]

/-- A cell leaves room for an amount exactly where the sum is not above the greatest amount. -/
theorem leavesRoom_integer_iff {n delta : Amount} :
    (Cell.integer n).leavesRoom delta = true ↔ n.val + delta.val ≤ 9223372036854775807 := by
  have upper := n.le_hi
  have bound : (Cell.integer n).leavesRoom delta = true ↔
      delta.val ≤ 0 ∨ n.val ≤ 9223372036854775807 - delta.val := by
    rw [Cell.leavesRoom, Bool.or_eq_true]
    exact or_congr decide_eq_true_iff decide_eq_true_iff
  rw [bound]
  omega

def cellSums (cells : Columns κ Cell) (deltas : List (κ × Amount)) : List Int :=
  deltas.filterMap fun entry => (cells.get entry.1).amount?.map fun n => n.val + entry.2.val

theorem mem_cellSums_iff {cells : Columns κ Cell} {deltas : List (κ × Amount)} {sum : Int} :
    sum ∈ cellSums cells deltas ↔
      ∃ entry ∈ deltas, ∃ n, cells.get entry.1 = .integer n ∧ n.val + entry.2.val = sum := by
  simp only [cellSums, List.mem_filterMap, Option.map_eq_some_iff, Cell.amount?_eq_some_iff]

/-- Integers have room for amounts exactly where no sum is above the greatest amount. -/
theorem haveRoom_iff_sums {cells : Columns κ Cell} {deltas : List (κ × Amount)}
    (integers : ∀ counter, ∃ n, cells.get counter = .integer n) :
    haveRoom cells deltas = true ↔ ∀ sum ∈ cellSums cells deltas, sum ≤ 9223372036854775807 := by
  rw [haveRoom, List.all_eq_true]
  constructor
  · intro room sum member
    obtain ⟨entry, here, n, held, rfl⟩ := mem_cellSums_iff.mp member
    have fits := room entry here
    rwa [held, leavesRoom_integer_iff] at fits
  · intro upper entry here
    obtain ⟨n, held⟩ := integers entry.1
    rw [held, leavesRoom_integer_iff]
    exact upper _ (mem_cellSums_iff.mpr ⟨entry, here, n, held, rfl⟩)

/-- No named counter comes to less than the least amount. -/
def StayAbove (cells : Columns κ Cell) (deltas : List (κ × Amount)) : Prop :=
  ∀ sum ∈ cellSums cells deltas, -9223372036854775808 ≤ sum

/-- There is room for amounts exactly where they can be added, if none of the sums is below the
least amount. -/
theorem haveRoom_iff [DecidableEq κ] {cells : Columns κ Cell} {table : Counters κ}
    (hold : HoldTable cells table) {deltas : List (κ × Amount)}
    (distinct : (deltas.map Prod.fst).Nodup) (above : StayAbove cells deltas) :
    haveRoom cells deltas = true ↔ ∃ next, table.addAll deltas = .ok next := by
  rw [Counters.addAll_isOk_iff distinct, haveRoom, List.all_eq_true]
  refine forall₂_congr fun entry member => ?_
  have lower := above _ (mem_cellSums_iff.mpr ⟨entry, member, _, hold entry.1, rfl⟩)
  rw [hold entry.1, leavesRoom_integer_iff]
  constructor
  · intro upper
    exact ⟨⟨_, lower, upper⟩, Bounded.add?_eq_some_iff.mpr rfl⟩
  · rintro ⟨sum, fits⟩
    rw [← Bounded.add?_eq_some_iff.mp fits]
    exact sum.le_hi

section

variable {cells : Columns κ Cell} {deltas : List (κ × Amount)} {counter : κ}

theorem get_foldl_set_of_ne (values : κ × Amount → Cell)
    (unnamed : ∀ entry ∈ deltas, entry.1 ≠ counter) :
    (deltas.foldl (fun table entry => table.set entry.1 (values entry)) cells).get counter =
      cells.get counter := by
  induction deltas generalizing cells with
  | nil => rfl
  | cons entry rest ih =>
      obtain ⟨first, others⟩ := List.forall_mem_cons.mp unnamed
      rw [List.foldl_cons, ih others, Columns.get_set_of_ne first]

theorem get_foldl_set_of_mem (values : κ × Amount → Cell)
    (distinct : (deltas.map Prod.fst).Nodup) {delta : Amount}
    (member : (counter, delta) ∈ deltas) :
    (deltas.foldl (fun table entry => table.set entry.1 (values entry)) cells).get counter =
      values (counter, delta) := by
  induction deltas generalizing cells with
  | nil => cases member
  | cons entry rest ih =>
      obtain ⟨fresh, distinctRest⟩ := List.nodup_cons.mp distinct
      rw [List.foldl_cons]
      rcases List.mem_cons.mp member with rfl | later
      · rw [get_foldl_set_of_ne values fun other here same =>
          fresh (List.mem_map.mpr ⟨other, here, same⟩), Columns.get_set_self]
      · exact ih distinctRest later

theorem get_addCells_of_ne (unnamed : ∀ entry ∈ deltas, entry.1 ≠ counter) :
    (addCells cells deltas).get counter = cells.get counter :=
  get_foldl_set_of_ne _ unnamed

theorem get_addCells_of_mem (distinct : (deltas.map Prod.fst).Nodup) {delta : Amount}
    (member : (counter, delta) ∈ deltas) :
    (addCells cells deltas).get counter = (cells.get counter).add delta :=
  get_foldl_set_of_mem (fun entry => (cells.get entry.1).add entry.2) distinct member

end

/-- A cell with the amount that is added to it is an integer exactly where the sum is an amount. -/
theorem get_addCells_eq_integer_iff {cells : Columns κ Cell} {deltas : Deltas κ} {counter : κ}
    {n sum : Amount} (held : cells.get counter = .integer n) :
    (addCells cells deltas.toList).get counter = .integer sum ↔
      sum.val = n.val + amountOr (deltas.get counter) := by
  cases named : deltas.get counter with
  | some delta =>
      rw [get_addCells_of_mem deltas.nodup_toList ((deltas.mem_toList_iff _ _).mpr named), held]
      exact Cell.add_integer_eq_integer_iff
  | none =>
      have unnamed : ∀ entry ∈ deltas.toList, entry.1 ≠ counter := by
        rintro ⟨other, delta⟩ member rfl
        rw [(deltas.mem_toList_iff other delta).mp member] at named
        cases named
      rw [get_addCells_of_ne unnamed, held, Cell.integer.injEq, Bounded.ext_iff, amountOr_none,
        Int.add_zero, eq_comm]

theorem exists_of_mem_cellSums {cells : Columns κ Cell} {deltas : Deltas κ} {sum : Int}
    (counted : sum ∈ cellSums cells deltas.toList) :
    ∃ counter n, cells.get counter = .integer n ∧
      n.val + amountOr (deltas.get counter) = sum := by
  obtain ⟨⟨counter, delta⟩, member, n, held, rfl⟩ := mem_cellSums_iff.mp counted
  exact ⟨counter, n, held, by rw [(deltas.mem_toList_iff counter delta).mp member]; rfl⟩

/-- The sum of a counter that is moved counts. -/
theorem mem_cellSums_of_ne_zero {cells : Columns κ Cell} {deltas : Deltas κ} {counter : κ}
    {n : Amount} (held : cells.get counter = .integer n)
    (moved : amountOr (deltas.get counter) ≠ 0) :
    n.val + amountOr (deltas.get counter) ∈ cellSums cells deltas.toList := by
  cases named : deltas.get counter with
  | none =>
      rw [named] at moved
      exact absurd rfl moved
  | some delta =>
      exact mem_cellSums_iff.mpr
        ⟨(counter, delta), (deltas.mem_toList_iff counter delta).mpr named, n, held, rfl⟩

/-- Where amounts can be added to a table, the cells that hold it hold the sums afterwards. -/
theorem holdTable_addCells [DecidableEq κ] {cells : Columns κ Cell} {table next : Counters κ}
    (hold : HoldTable cells table) {deltas : List (κ × Amount)}
    (distinct : (deltas.map Prod.fst).Nodup) (added : table.addAll deltas = .ok next) :
    HoldTable (addCells cells deltas) next := by
  intro counter
  have total := Counters.val_get_of_addAll added counter
  by_cases named : ∃ delta, (counter, delta) ∈ deltas
  · obtain ⟨delta, member⟩ := named
    rw [amountIn_of_mem distinct member] at total
    rw [get_addCells_of_mem distinct member, hold counter]
    exact Cell.add_integer_of_add? (Bounded.add?_eq_some_iff.mpr total)
  · have unnamed : ∀ entry ∈ deltas, entry.1 ≠ counter := by
      rintro ⟨other, delta⟩ member rfl
      exact named ⟨delta, member⟩
    rw [amountIn_eq_zero unnamed, Int.add_zero] at total
    rw [get_addCells_of_ne unnamed, hold counter, Bounded.ext total]

theorem readCells_eq_ok_iff {cells : Columns κ Cell} {table : Counters κ} (first : Nat) :
    readCells first cells = .ok table ↔ HoldTable cells table := by
  unfold readCells
  constructor
  · intro read counter
    split at read
    · cases read
    · rename_i integers
      cases read
      have here := List.find?_eq_none.mp integers counter (Vocabulary.mem_all counter)
      rw [Columns.get_tabulate]
      cases cell : cells.get counter with
      | integer n => rfl
      | real x => simp [cell, Cell.amount?] at here
      | text s => simp [cell, Cell.amount?] at here
  · intro hold
    have integers : (Vocabulary.all κ).find? (fun counter =>
        (cells.get counter).amount?.isNone) = none := by
      refine List.find?_eq_none.mpr fun counter _ => ?_
      simp [hold counter, Cell.amount?]
    rw [integers]
    refine congrArg Except.ok (Columns.ext fun counter => ?_)
    simp [hold counter, Cell.amount?]

theorem readCells_eq_ok {cells : Columns κ Cell} {table : Counters κ}
    (hold : HoldTable cells table) (first : Nat) : readCells first cells = .ok table :=
  (readCells_eq_ok_iff first).mpr hold

end ActivityLedger.Relational

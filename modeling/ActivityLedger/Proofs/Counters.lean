import ActivityLedger.Proofs.Answers
import ActivityLedger.Store.Memory
import Mathlib.Algebra.BigOperators.Group.List.Basic
import Mathlib.Data.List.Nodup
import Mathlib.Data.List.FinRange

/-!
# What additions do to counters

A list of amounts moves each counter by the sum of the amounts that name it, in the
integers, or it is refused.  Adding to a day and to its month is adding to each.  Sums
over a list may be taken group by group.
-/

namespace ActivityLedger

/-! ## Sums over groups -/

/-- Items that are grouped by keys, each under a key that is listed once, have the same sum as
the groups. -/
theorem sum_groups {ι κ : Type} [DecidableEq κ] {keys : List κ} (distinct : keys.Nodup)
    (key : ι → κ) (amount : ι → Int) {items : List ι} (listed : ∀ item ∈ items, key item ∈ keys) :
    (keys.map fun own => ((items.filter fun item => key item = own).map amount).sum).sum =
      (items.map amount).sum := by
  induction items with
  | nil => simp
  | cons item rest ih =>
      obtain ⟨first, others⟩ := List.forall_mem_cons.mp listed
      have split (own : κ) :
          (((item :: rest).filter fun item => key item = own).map amount).sum =
            (if own = key item then amount item else 0) +
              ((rest.filter fun item => key item = own).map amount).sum := by
        rw [List.filter_cons]
        by_cases here : key item = own
        · simp [here]
        · simp [here, Ne.symm here]
      have once : keys.count (key item) = 1 := List.count_eq_one_of_mem distinct first
      simp only [split, List.sum_map_add, ih others, List.sum_map_ite_eq, once]
      simp

/-- The items that pass a test sum to what all items sum to, if the others count for nothing. -/
theorem sum_map_filter {ι : Type} (test : ι → Bool) (amount : ι → Int) (items : List ι) :
    ((items.filter test).map amount).sum =
      (items.map fun item => if test item then amount item else 0).sum := by
  rw [List.sum_map_ite (fun item => test item = true) amount (fun _ => 0)]
  simp

/-! ## Amounts for counters -/

namespace Amount

def least : Amount := .wrap (-9223372036854775808)

def greatest : Amount := .wrap 9223372036854775807

/-- The integer is an amount. -/
def Fits (n : Int) : Prop := ∃ amount : Amount, amount.val = n

theorem fits_iff {n : Int} : Fits n ↔ -9223372036854775808 ≤ n ∧ n ≤ 9223372036854775807 := by
  constructor
  · rintro ⟨amount, rfl⟩
    exact ⟨amount.lo_le, amount.le_hi⟩
  · rintro ⟨low, high⟩
    exact ⟨⟨n, low, high⟩, rfl⟩

instance (n : Int) : Decidable (Fits n) := decidable_of_iff _ fits_iff.symm

theorem Fits.between {low high n : Int} (lowFits : Fits low) (highFits : Fits high)
    (above : low ≤ n) (below : n ≤ high) : Fits n := by
  rw [fits_iff] at lowFits highFits ⊢
  omega

end Amount

section

variable {κ : Type} [DecidableEq κ]

/-- The sum of the amounts in a list that name one counter. -/
def amountIn (entries : List (κ × Amount)) (counter : κ) : Int :=
  ((entries.filter fun entry => entry.1 = counter).map fun entry => entry.2.val).sum

@[simp] theorem amountIn_nil (counter : κ) : amountIn [] counter = 0 := rfl

theorem amountIn_cons (entry : κ × Amount) (rest : List (κ × Amount)) (counter : κ) :
    amountIn (entry :: rest) counter =
      (if entry.1 = counter then entry.2.val else 0) + amountIn rest counter := by
  by_cases named : entry.1 = counter <;> simp [amountIn, named]

theorem amountIn_eq_zero {entries : List (κ × Amount)} {counter : κ}
    (unnamed : ∀ entry ∈ entries, entry.1 ≠ counter) : amountIn entries counter = 0 := by
  have none : (entries.filter fun entry => entry.1 = counter) = [] :=
    List.filter_eq_nil_iff.mpr fun entry member => by simpa using unnamed entry member
  simp [amountIn, none]

theorem amountIn_of_mem {entries : List (κ × Amount)} (distinct : (entries.map Prod.fst).Nodup)
    {counter : κ} {delta : Amount} (member : (counter, delta) ∈ entries) :
    amountIn entries counter = delta.val := by
  induction entries with
  | nil => cases member
  | cons entry rest ih =>
      obtain ⟨fresh, distinctRest⟩ := List.nodup_cons.mp distinct
      rw [amountIn_cons]
      rcases List.mem_cons.mp member with rfl | later
      · have others : amountIn rest counter = 0 := amountIn_eq_zero fun other here same =>
          fresh (List.mem_map.mpr ⟨other, here, same⟩)
        rw [if_pos rfl, others, Int.add_zero]
      · have elsewhere : entry.1 ≠ counter := fun same =>
          fresh (List.mem_map.mpr ⟨_, later, same.symm⟩)
        rw [if_neg elsewhere, ih distinctRest later, Int.zero_add]

end

namespace Counters

variable {κ : Type} [Vocabulary κ]

theorem val_get_of_add [DecidableEq κ] {table next : Counters κ} {counter : κ} {delta : Amount}
    (added : table.add counter delta = .ok next) (other : κ) :
    (next.get other).val =
      (table.get other).val + if counter = other then delta.val else 0 := by
  unfold add at added
  split at added
  · rename_i sum fits
    cases added
    by_cases same : counter = other
    · subst same
      simpa using Bounded.add?_eq_some_iff.mp fits
    · simp [Columns.get_set_of_ne same, same]
  · cases added

theorem add_eq_ok_iff {table next : Counters κ} {counter : κ} {delta : Amount} :
    table.add counter delta = .ok next ↔
      ∃ sum, (table.get counter).add? delta = some sum ∧ next = table.set counter sum := by
  unfold add
  split
  · rename_i sum fits
    simp [fits, eq_comm]
  · rename_i unfit
    simp [unfit]

theorem addAll_cons (table : Counters κ) (counter : κ) (delta : Amount)
    (rest : List (κ × Amount)) :
    table.addAll ((counter, delta) :: rest) =
      (table.add counter delta).bind fun next => next.addAll rest := by
  rw [addAll]
  cases table.add counter delta <;> rfl

/-- A list of amounts moves every counter by the sum of the amounts that name it. -/
theorem val_get_of_addAll [DecidableEq κ] {table next : Counters κ}
    {entries : List (κ × Amount)} (added : table.addAll entries = .ok next) (counter : κ) :
    (next.get counter).val = (table.get counter).val + amountIn entries counter := by
  induction entries generalizing table with
  | nil =>
      cases added
      simp
  | cons entry rest ih =>
      obtain ⟨named, delta⟩ := entry
      rw [addAll_cons] at added
      cases step : table.add named delta with
      | error cause =>
          rw [step] at added
          cases added
      | ok middle =>
          rw [step] at added
          rw [ih added, val_get_of_add step, amountIn_cons, Int.add_assoc]

/-- Amounts for different counters are all added exactly when each of them fits. -/
theorem addAll_isOk_iff [DecidableEq κ] {table : Counters κ} {entries : List (κ × Amount)}
    (distinct : (entries.map Prod.fst).Nodup) :
    (∃ next, table.addAll entries = .ok next) ↔
      ∀ entry ∈ entries, ∃ sum, (table.get entry.1).add? entry.2 = some sum := by
  induction entries generalizing table with
  | nil => simp [addAll]
  | cons entry rest ih =>
      obtain ⟨fresh, distinctRest⟩ := List.nodup_cons.mp distinct
      obtain ⟨counter, delta⟩ := entry
      have elsewhere (other : κ × Amount) (member : other ∈ rest) : counter ≠ other.1 :=
        fun same => fresh (List.mem_map.mpr ⟨other, member, same.symm⟩)
      rw [addAll_cons, List.forall_mem_cons]
      constructor
      · rintro ⟨next, added⟩
        obtain ⟨middle, first, later⟩ := Answer.bind_eq_ok_iff.mp added
        obtain ⟨sum, fits, rfl⟩ := add_eq_ok_iff.mp first
        refine ⟨⟨sum, fits⟩, fun other member => ?_⟩
        have here := (ih distinctRest).mp ⟨next, later⟩ other member
        rwa [Columns.get_set_of_ne (elsewhere other member)] at here
      · rintro ⟨⟨sum, fits⟩, others⟩
        rw [add_eq_ok_iff.mpr ⟨sum, fits, rfl⟩]
        refine (ih distinctRest).mpr fun other member => ?_
        rw [Columns.get_set_of_ne (elsewhere other member)]
        exact others other member

end Counters

/-! ## A day and its month -/

namespace Memory

theorem slotOf_eq_some_iff {day : Small} {slot : Nat} :
    slotOf day = some slot ↔ day.val = slot + 1 := by
  have natural := day.lo_le
  have number : (day.toNat : Int) = day.val := Int.toNat_of_nonneg (by omega)
  unfold slotOf
  split
  · simp only [reduceCtorEq, false_iff]
    omega
  · rw [Option.some.injEq]
    omega

theorem addToBoth_eq_ok_iff (day month nextDay nextMonth : Counters UserCounter)
    (entries : List (UserCounter × Amount)) :
    addToBoth day month entries = .ok (nextDay, nextMonth) ↔
      day.addAll entries = .ok nextDay ∧ month.addAll entries = .ok nextMonth := by
  induction entries generalizing day month with
  | nil => simp [addToBoth, Counters.addAll]
  | cons entry rest ih =>
      obtain ⟨counter, delta⟩ := entry
      rw [addToBoth, Counters.addAll_cons, Counters.addAll_cons]
      cases day.add counter delta with
      | error cause => simp [Except.bind]
      | ok middleDay =>
          cases month.add counter delta with
          | error cause => simp [Except.bind]
          | ok middleMonth => simpa [Except.bind] using ih middleDay middleMonth

end Memory

end ActivityLedger

import Mathlib.Algebra.Order.Ring.Int
import Mathlib.Data.List.Forall2

/-!
# Answers in steps

What an answer that was mapped, or made in two steps, says about the answers it was
made from.
-/

namespace ActivityLedger

namespace Answer

variable {ε α β γ : Type}

theorem map_eq_ok_iff {answer : Except ε α} {f : α → β} {b : β} :
    answer.map f = .ok b ↔ ∃ a, answer = .ok a ∧ f a = b := by
  cases answer <;> simp [Except.map]

theorem map_eq_error_iff {answer : Except ε α} {f : α → β} {error : ε} :
    answer.map f = .error error ↔ answer = .error error := by
  cases answer <;> simp [Except.map]

theorem mem_toOption_iff {answer : Except ε α} {a : α} :
    a ∈ answer.toOption ↔ answer = .ok a := by
  cases answer <;> simp [Except.toOption]

/-- An answer may be mapped before or after the error of a refusal is. -/
theorem mapError_map {ι : Type} (f : α → β) (g : ε → ι) (answer : Except ε α) :
    (answer.map f).mapError g = (answer.mapError g).map f := by
  cases answer <;> rfl

/-- An answer in two steps is given exactly where both steps give one. -/
theorem bind_eq_ok_iff {answer : Except ε α} {f : α → Except ε β} {b : β} :
    answer.bind f = .ok b ↔ ∃ a, answer = .ok a ∧ f a = .ok b := by
  cases answer <;> simp [Except.bind]

theorem exists_bind_ok_eq_ok_iff {answer : Except ε α} {f : α → β} :
    (∃ b, (answer.bind fun a => .ok (f a)) = .ok b) ↔ ∃ a, answer = .ok a := by
  cases answer <;> simp [Except.bind]

theorem check_bind_eq_ok_iff {first second : Except ε Unit} :
    (first.bind fun _ => second) = .ok () ↔ first = .ok () ∧ second = .ok () := by
  cases first <;> simp [Except.bind]

theorem mapM_eq_ok_iff {f : α → Except ε β} {xs : List α} {ys : List β} :
    xs.mapM f = .ok ys ↔ List.Forall₂ (fun x y => f x = .ok y) xs ys := by
  induction xs generalizing ys with
  | nil => cases ys <;> simp [pure, Except.pure]
  | cons x rest ih =>
      rw [List.mapM_cons]
      constructor
      · intro given
        obtain ⟨y, first, later⟩ := bind_eq_ok_iff.mp given
        obtain ⟨others, givenOthers, same⟩ := bind_eq_ok_iff.mp later
        cases same
        exact .cons first (ih.mp givenOthers)
      · intro given
        cases given with
        | cons first others =>
            exact bind_eq_ok_iff.mpr ⟨_, first, bind_eq_ok_iff.mpr ⟨_, ih.mpr others, rfl⟩⟩

theorem bind_eq_error_iff {answer : Except ε α} {f : α → Except ε β} {error : ε} :
    answer.bind f = .error error ↔
      answer = .error error ∨ ∃ a, answer = .ok a ∧ f a = .error error := by
  cases answer <;> simp [Except.bind]

theorem exists_of_mapM_eq_error {f : α → Except ε β} {xs : List α} {error : ε}
    (refused : xs.mapM f = .error error) : ∃ x ∈ xs, f x = .error error := by
  induction xs with
  | nil => cases refused
  | cons x rest ih =>
      rw [List.mapM_cons] at refused
      rcases bind_eq_error_iff.mp refused with first | ⟨y, _, later⟩
      · exact ⟨x, List.mem_cons_self, first⟩
      · rcases bind_eq_error_iff.mp later with others | ⟨ys, _, given⟩
        · obtain ⟨other, member, failed⟩ := ih others
          exact ⟨other, List.mem_cons_of_mem _ member, failed⟩
        · cases given

theorem exists_mapM_eq_ok_iff {f : α → Except ε β} {xs : List α} :
    (∃ ys, xs.mapM f = .ok ys) ↔ ∀ x ∈ xs, ∃ y, f x = .ok y := by
  constructor
  · rintro ⟨ys, given⟩
    have each := mapM_eq_ok_iff.mp given
    clear given
    induction each with
    | nil => exact List.forall_mem_nil _
    | cons first _ ih => exact List.forall_mem_cons.mpr ⟨⟨_, first⟩, ih⟩
  · intro each
    cases answers : xs.mapM f with
    | ok ys => exact ⟨ys, rfl⟩
    | error error =>
        obtain ⟨x, member, failed⟩ := exists_of_mapM_eq_error answers
        obtain ⟨y, given⟩ := each x member
        rw [failed] at given
        cases given

/-- Answers for related elements are the elements themselves exactly where each can be had. -/
theorem mapM_eq_ok_iff_forall {f : α → Except ε β} {relation : β → α → Prop} {condition : β → Prop}
    {xs : List α} {ys : List β} (related : List.Forall₂ relation ys xs)
    (each : ∀ y x, relation y x → (f x = .ok y ↔ condition y)) :
    xs.mapM f = .ok ys ↔ ∀ y ∈ ys, condition y := by
  rw [mapM_eq_ok_iff]
  induction related with
  | nil => simp
  | cons first others ih =>
      rw [List.forall₂_cons, List.forall_mem_cons, ih, each _ _ first]

/-- Two passes over a list give what one pass in two steps gives. -/
theorem mapM_mapM_eq_ok_iff {f : α → Except ε β} {g : β → Except ε γ} {xs : List α}
    {zs : List γ} :
    ((xs.mapM f).bind fun ys => ys.mapM g) = .ok zs ↔
      (xs.mapM fun x => (f x).bind g) = .ok zs := by
  simp only [bind_eq_ok_iff, mapM_eq_ok_iff]
  constructor
  · rintro ⟨ys, first, second⟩
    induction first generalizing zs with
    | nil =>
        cases second
        exact .nil
    | cons here others ih =>
        cases second with
        | cons there later => exact .cons ⟨_, here, there⟩ (ih later)
  · intro both
    induction both with
    | nil => exact ⟨[], .nil, .nil⟩
    | cons here others ih =>
        obtain ⟨y, first, second⟩ := here
        obtain ⟨ys, firsts, seconds⟩ := ih
        exact ⟨y :: ys, .cons first firsts, .cons second seconds⟩

/-- An answer is given, or refused for a reason of a sort. -/
def RefusedOnly (sort : ε → Prop) (answer : Except ε α) : Prop :=
  ∀ error, answer = .error error → sort error

section

variable {sort : ε → Prop}

theorem refusedOnly_ok (a : α) : RefusedOnly sort (.ok a) := by
  intro error refused
  cases refused

theorem refusedOnly_error {error : ε} (here : sort error) :
    RefusedOnly sort (.error error : Except ε α) := by
  rintro _ ⟨⟩
  exact here

theorem RefusedOnly.bind {answer : Except ε α} {f : α → Except ε β}
    (first : RefusedOnly sort answer) (later : ∀ a, RefusedOnly sort (f a)) :
    RefusedOnly sort (answer.bind f) := by
  intro error refused
  rcases bind_eq_error_iff.mp refused with here | ⟨a, _, there⟩
  · exact first error here
  · exact later a error there

theorem RefusedOnly.mono {other : ε → Prop} {answer : Except ε α} (refused : RefusedOnly sort answer)
    (wider : ∀ error, sort error → other error) : RefusedOnly other answer :=
  fun error failed => wider error (refused error failed)

theorem RefusedOnly.mapM {f : α → Except ε β} {xs : List α} (each : ∀ x, RefusedOnly sort (f x)) :
    RefusedOnly sort (xs.mapM f) := by
  intro error refused
  obtain ⟨x, _, failed⟩ := exists_of_mapM_eq_error refused
  exact each x error failed

end

end Answer

end ActivityLedger

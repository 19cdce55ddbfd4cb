/-!
# Interleavings

The runs in which the elements of several lists take turns, each list in its own order.
A run has the elements of all lists together, and whatever comes before an element in
its list comes before it in the run.
-/

namespace ActivityLedger

/-- A run takes one element after the other from the front of some list, until none is left. -/
inductive Interleaving {α : Type} : List (List α) → List α → Prop where
  | done {lists : List (List α)} (spent : ∀ list ∈ lists, list = []) : Interleaving lists []
  | next (before : List (List α)) (x : α) (rest : List α) (after : List (List α)) {run : List α}
      (later : Interleaving (before ++ rest :: after) run) :
      Interleaving (before ++ (x :: rest) :: after) (x :: run)

namespace Interleaving

variable {α : Type} {lists : List (List α)} {run : List α}

theorem perm (interleaving : Interleaving lists run) : run.Perm lists.flatten := by
  induction interleaving with
  | done spent =>
      have nothing := List.flatten_eq_nil_iff.mpr spent
      rw [nothing]
  | next before x rest after later ih =>
      simp only [List.flatten_append, List.flatten_cons, List.cons_append] at ih ⊢
      exact (ih.cons x).trans List.perm_middle.symm

/-- A list may be left out when it is spent. -/
theorem cons_nil (interleaving : Interleaving lists run) : Interleaving ([] :: lists) run := by
  induction interleaving with
  | done spent => exact .done (List.forall_mem_cons.mpr ⟨rfl, spent⟩)
  | next before x rest after later ih => exact .next ([] :: before) x rest after ih

theorem flatten (lists : List (List α)) : Interleaving lists lists.flatten := by
  induction lists with
  | nil => exact .done (List.forall_mem_nil _)
  | cons list others ih =>
      induction list with
      | nil => exact ih.cons_nil
      | cons x rest later => exact .next [] x rest others later

/-- Every element of a run stands in one of the lists, and what comes before it there comes
before it in the run. -/
theorem exists_split (interleaving : Interleaving lists run) {before after : List α} {x : α}
    (split : run = before ++ x :: after) :
    ∃ list ∈ lists, ∃ earlier later, list = earlier ++ x :: later ∧ ∀ y ∈ earlier, y ∈ before := by
  induction interleaving generalizing before with
  | done spent => simp at split
  | next front first rest back following ih =>
      cases before with
      | nil =>
          obtain ⟨rfl, _⟩ := List.cons.inj split
          exact ⟨first :: rest, by simp, [], rest, rfl, List.forall_mem_nil _⟩
      | cons head before =>
          obtain ⟨rfl, tail⟩ := List.cons.inj split
          obtain ⟨list, listed, earlier, later, same, among⟩ := ih tail
          have kept : ∀ y ∈ earlier, y ∈ first :: before := fun y member =>
            List.mem_cons_of_mem _ (among y member)
          rcases List.mem_append.mp listed with inFront | others
          · exact ⟨list, List.mem_append_left _ inFront, earlier, later, same, kept⟩
          · rcases List.mem_cons.mp others with rfl | inBack
            · refine ⟨first :: list, by simp, first :: earlier, later, by rw [same]; rfl, ?_⟩
              exact List.forall_mem_cons.mpr ⟨List.mem_cons_self, kept⟩
            · exact ⟨list, by simp [inBack], earlier, later, same, kept⟩

end Interleaving

end ActivityLedger

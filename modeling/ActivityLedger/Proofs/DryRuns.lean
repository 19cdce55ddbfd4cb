import ActivityLedger.Proofs.Limits

/-!
# Dry runs

An entry may be tried on an empty memory, which never refuses what passes the checks.
What comes of it there is what comes of it in any store, unless that store refuses to
take one of its own counters past the greatest amount.
-/

namespace ActivityLedger

namespace Entry

def tried (entry : Entry) : Except Error Outcome := (entry.recordIn Memory.store Memory.empty).1

variable {σ : Type} {store : Store σ} {state : σ} {entry : Entry}

/-- An entry that passes the checks succeeds when it is tried. -/
theorem tried_of_counted {plan : Plan} {shares : List Share}
    (prepared : Record.prepare entry.directory entry.event entry.date =
      .ok (.counted plan shares)) :
    entry.tried = .ok (plan.outcome shares (Record.postedIds shares)) := by
  have within : Memory.empty.Within (([] : List Entry).length * Event.countLimit) :=
    Memory.within_afterEntries []
  obtain ⟨outcome, succeeded⟩ :=
    within.exists_outcome (by decide) (by decide) .empty prepared
  obtain ⟨rfl, _⟩ := Record.accepts_of_record prepared succeeded
  exact succeeded

/-- An entry that succeeds in some store succeeds alike when it is tried. -/
theorem tried_of_recordIn {outcome : Outcome}
    (succeeded : (entry.recordIn store state).1 = .ok outcome) : entry.tried = .ok outcome := by
  rcases entry.settled_or_counted with ⟨_, answer, same⟩ | ⟨plan, prepared⟩
  · rw [same] at succeeded
    rw [tried, same]
    exact succeeded
  · obtain ⟨rfl, _⟩ := Record.accepts_of_record prepared succeeded
    exact tried_of_counted prepared

/-- An entry that fails when it is tried fails with the same error in every store. -/
theorem recordIn_of_tried {error : Error} (failed : entry.tried = .error error) (store : Store σ)
    (state : σ) : (entry.recordIn store state).1 = .error error := by
  rcases entry.settled_or_counted with ⟨_, answer, same⟩ | ⟨plan, prepared⟩
  · rw [tried, same] at failed
    rw [same]
    exact failed
  · cases failed.symm.trans (tried_of_counted prepared)

end Entry

/-- What is known of an entry in a store from the answer to it on an empty memory, where some
updates would take a counter of the store past the greatest amount. -/
structure Foretold {σ : Type} (store : Store σ) (exceeds : σ → Date → Update → Prop)
    (entry : Entry) (state : σ) : Prop where
  succeeds : ∀ outcome, (entry.recordIn store state).1 = .ok outcome → entry.tried = .ok outcome
  fails : ∀ error, entry.tried = .error error → (entry.recordIn store state).1 = .error error
  /-- The answers differ only where the store refuses to take a counter of its own too far. -/
  differs : (entry.recordIn store state).1 ≠ entry.tried →
    ∃ error plan, (entry.recordIn store state).1 = .error error ∧ error.isStorage = true ∧
      Record.planOf entry.directory entry.event = .ok plan ∧
      ∃ update ∈ plan.updates, exceeds state entry.date update

/-- An entry is foretold for a store that, where the entry passes the checks, refuses it only if an
update would take a counter too far. -/
theorem Foretold.of_counted {σ : Type} {store : Store σ} {exceeds : σ → Date → Update → Prop}
    {entry : Entry} {state : σ}
    (overflows : ∀ plan shares error,
      Record.prepare entry.directory entry.event entry.date = .ok (.counted plan shares) →
        (entry.recordIn store state).1 = .error error →
          error.isStorage = true ∧ ∃ update ∈ plan.updates, exceeds state entry.date update) :
    Foretold store exceeds entry state where
  succeeds _ succeeded := Entry.tried_of_recordIn succeeded
  fails _ failed := Entry.recordIn_of_tried failed store state
  differs different := by
    cases answered : (entry.recordIn store state).1 with
    | ok outcome => exact absurd (answered.trans (Entry.tried_of_recordIn answered).symm) different
    | error error =>
        rcases entry.settled_or_counted with ⟨_, answer, same⟩ | ⟨plan, prepared⟩
        · refine absurd ?_ different
          rw [Entry.tried, same, same]
        · obtain ⟨planned, _⟩ := Record.prepare_eq_counted prepared
          obtain ⟨storage, exceeds⟩ := overflows plan _ error prepared answered
          exact ⟨error, plan, rfl, storage, planned, exceeds⟩

/-- On a reachable memory an entry that passes the checks is refused only where an update would
take a counter past the greatest amount. -/
theorem Memory.Reachable.exceeds_of_refused {memory : Memory} (reachable : memory.Reachable)
    {entry : Entry} {plan : Plan} {shares : List Share}
    (prepared : Record.prepare entry.directory entry.event entry.date =
      .ok (.counted plan shares)) {error : Error}
    (refused : (entry.recordIn store memory).1 = .error error) :
    error.isStorage = true ∧ ∃ update ∈ plan.updates, memory.Exceeds entry.date update := by
  obtain ⟨_, _, _, rfl⟩ := Record.prepare_eq_counted prepared
  have verdict := reachable.record_counted prepared
  unfold Entry.recordIn at refused
  rw [refused] at verdict
  split at verdict
  · rename_i exceeds
    refine ⟨?_, exceeds⟩
    cases error <;> first | rfl | cases verdict
  · cases error <;> cases verdict

end ActivityLedger

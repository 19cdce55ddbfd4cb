import ActivityLedger.Store.Store

/-!
# Histories of a store

A call on a store as a value, what a store answers to it, and the answers and the
state after a list of calls.  A call that only reads leaves the state as it is.  Of a
list of calls either all are accepted or there is a first that is refused.
-/

namespace ActivityLedger

inductive StoreCall where
  | ensure (key : Key) (template : Template)
  | increment (key : Key) (updates : List Update)
  | content (key : Key)
  | user (key : Key)
  | contentRange (kind : ContentKind) (contentId : String) (first last : Key)
  | userRange (userId : String) (first last : Key)
deriving DecidableEq

inductive StoreValue where
  | created (created : Bool)
  | done
  | content (tracker : Option ContentTracker)
  | user (tracker : Option UserTracker)
  | contents (trackers : List ContentTracker)
  | users (trackers : List UserTracker)
deriving DecidableEq

abbrev StoreAnswer := Except Error StoreValue

namespace Store

variable {σ : Type}

def perform (store : Store σ) : StoreCall → σ → StoreAnswer × σ
  | .ensure key template, state =>
      ((store.ensure key template state).1.map .created, (store.ensure key template state).2)
  | .increment key updates, state =>
      ((store.increment key updates state).1.map fun _ => .done,
        (store.increment key updates state).2)
  | .content key, state => ((store.content? key state).map .content, state)
  | .user key, state => ((store.user? key state).map .user, state)
  | .contentRange kind contentId first last, state =>
      ((store.contentRange kind contentId first last state).map .contents, state)
  | .userRange userId first last, state =>
      ((store.userRange userId first last state).map .users, state)

def answers (store : Store σ) : List StoreCall → σ → List StoreAnswer
  | [], _ => []
  | call :: rest, state =>
      (store.perform call state).1 :: answers store rest (store.perform call state).2

def after (store : Store σ) : List StoreCall → σ → σ
  | [], state => state
  | call :: rest, state => after store rest (store.perform call state).2

theorem after_append (store : Store σ) (first second : List StoreCall) (state : σ) :
    store.after (first ++ second) state = store.after second (store.after first state) := by
  induction first generalizing state with
  | nil => rfl
  | cons call rest ih => exact ih (store.perform call state).2

theorem answers_append (store : Store σ) (first second : List StoreCall) (state : σ) :
    store.answers (first ++ second) state =
      store.answers first state ++ store.answers second (store.after first state) := by
  induction first generalizing state with
  | nil => rfl
  | cons call rest ih =>
      rw [List.cons_append, answers, answers, List.cons_append, ih, after]

/-- None of the calls is refused when they are made one after the other. -/
def Accepts (store : Store σ) (calls : List StoreCall) (state : σ) : Prop :=
  ∀ answer ∈ store.answers calls state, answer.isOk = true

instance (store : Store σ) (calls : List StoreCall) (state : σ) :
    Decidable (store.Accepts calls state) :=
  inferInstanceAs (Decidable (∀ answer ∈ _, _))

def Refuses (store : Store σ) (call : StoreCall) (state : σ) (error : Error) : Prop :=
  (store.perform call state).1 = .error error

@[simp] theorem accepts_nil (store : Store σ) (state : σ) : store.Accepts [] state :=
  List.forall_mem_nil _

theorem accepts_cons_iff {store : Store σ} {call : StoreCall} {rest : List StoreCall}
    {state : σ} : store.Accepts (call :: rest) state ↔
      (∃ value, (store.perform call state).1 = .ok value) ∧
        store.Accepts rest (store.perform call state).2 := by
  unfold Accepts
  rw [answers, List.forall_mem_cons]
  cases (store.perform call state).1 <;> simp [Except.isOk, Except.toBool]

theorem accepts_append_iff {store : Store σ} {first second : List StoreCall} {state : σ} :
    store.Accepts (first ++ second) state ↔
      store.Accepts first state ∧ store.Accepts second (store.after first state) := by
  unfold Accepts
  rw [answers_append, List.forall_mem_append]

/-- Calls are all accepted, or there is a first that is refused. -/
theorem accepts_or_refuses (store : Store σ) (calls : List StoreCall) (state : σ) :
    store.Accepts calls state ∨ ∃ done call later error, calls = done ++ call :: later ∧
      store.Accepts done state ∧ store.Refuses call (store.after done state) error := by
  induction calls generalizing state with
  | nil => exact Or.inl (store.accepts_nil state)
  | cons call rest ih =>
      cases answer : (store.perform call state).1 with
      | error error => exact Or.inr ⟨[], call, rest, error, rfl, store.accepts_nil state, answer⟩
      | ok value =>
          rcases ih (store.perform call state).2 with
            accepted | ⟨done, refused, later, error, rfl, accepted, answered⟩
          · exact Or.inl (accepts_cons_iff.mpr ⟨⟨value, answer⟩, accepted⟩)
          · exact Or.inr ⟨call :: done, refused, later, error, rfl,
              accepts_cons_iff.mpr ⟨⟨value, answer⟩, accepted⟩, answered⟩

/-- What each of some calls keeps, they keep when they are made one after the other. -/
theorem after_induction_mem (store : Store σ) {invariant : σ → Prop} {calls : List StoreCall}
    (kept : ∀ call ∈ calls, ∀ state, invariant state → invariant (store.perform call state).2)
    {state : σ} (start : invariant state) : invariant (store.after calls state) := by
  induction calls generalizing state with
  | nil => exact start
  | cons call rest ih =>
      obtain ⟨first, others⟩ := List.forall_mem_cons.mp kept
      exact ih others (first state start)

/-- What every call keeps, every list of calls keeps. -/
theorem after_induction (store : Store σ) {invariant : σ → Prop}
    (kept : ∀ call state, invariant state → invariant (store.perform call state).2)
    (calls : List StoreCall) {state : σ} (start : invariant state) :
    invariant (store.after calls state) :=
  store.after_induction_mem (fun call _ => kept call) start

end Store

end ActivityLedger

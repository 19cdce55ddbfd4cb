import ActivityLedger.Proofs.Calls
import ActivityLedger.Proofs.Recordings

/-!
# The course of a commit

What a commit does on any store, call by call.  All trackers are set up and all updates
are added, or the commit stops at the first call that the store refuses; the trackers
whose updates were committed by then are known from the calls before.  A store that
keeps the calls made on it shows that these are the calls, and that they are all.
-/

namespace ActivityLedger

/-- The calls that may change a store. -/
def StoreCall.Changes : StoreCall → Prop
  | .ensure .. | .increment .. => True
  | _ => False

namespace Store

variable {σ : Type}

/-- The store that keeps the calls which may change it beside its state. -/
def traced (store : Store σ) : Store (σ × List StoreCall) where
  ensure key template state :=
    let (answer, next) := store.ensure key template state.1
    (answer, next, state.2 ++ [.ensure key template])
  increment key updates state :=
    let (answer, next) := store.increment key updates state.1
    (answer, next, state.2 ++ [.increment key updates])
  content? key state := store.content? key state.1
  user? key state := store.user? key state.1
  contentRange kind contentId first last state :=
    store.contentRange kind contentId first last state.1
  userRange userId first last state := store.userRange userId first last state.1

theorem perform_traced (store : Store σ) {call : StoreCall} (changes : call.Changes) (state : σ)
    (kept : List StoreCall) :
    store.traced.perform call (state, kept) =
      ((store.perform call state).1, (store.perform call state).2, kept ++ [call]) := by
  cases call with
  | ensure | increment => rfl
  | content | user | contentRange | userRange => exact changes.elim

theorem run_traced (store : Store σ) {calls : List StoreCall}
    (changes : ∀ call ∈ calls, call.Changes) (state : σ) (kept : List StoreCall) :
    store.traced.answers calls (state, kept) = store.answers calls state ∧
      store.traced.after calls (state, kept) = (store.after calls state, kept ++ calls) := by
  induction calls generalizing state kept with
  | nil => simp [answers, after]
  | cons call rest ih =>
      obtain ⟨first, others⟩ := List.forall_mem_cons.mp changes
      obtain ⟨answered, left⟩ := ih others (store.perform call state).2 (kept ++ [call])
      rw [answers, answers, after, after, store.perform_traced first]
      exact ⟨congrArg _ answered, by simpa using left⟩

end Store

namespace Share

def opening (share : Share) : StoreCall := .ensure share.key share.template

def posting (share : Share) : StoreCall := .increment share.key share.updates

end Share

namespace Record

/-! ## The calls of a commit -/

def active (shares : List Share) : List Share := shares.filter fun share => !share.updates.isEmpty

def openings (shares : List Share) : List StoreCall := shares.map Share.opening

def postings (shares : List Share) : List StoreCall := (active shares).map Share.posting

def postedIds (shares : List Share) : List String := (active shares).map fun share => share.key.id

theorem active_append (first second : List Share) :
    active (first ++ second) = active first ++ active second :=
  List.filter_append first second

/-- A share without updates adds nothing. -/
theorem of_idle {share : Share} (idle : share.updates = []) (rest : List Share) :
    postings (share :: rest) = postings rest ∧ postedIds (share :: rest) = postedIds rest := by
  simp [postings, postedIds, active, idle]

theorem of_updated {share : Share} (updated : share.updates ≠ []) (rest : List Share) :
    postings (share :: rest) = share.posting :: postings rest ∧
      postedIds (share :: rest) = share.key.id :: postedIds rest := by
  simp [postings, postedIds, active, updated]

/-- A share with updates and those before it, among shares. -/
theorem split_of_active {shares done later : List Share} {share : Share}
    (split : active shares = done ++ share :: later) :
    share.updates ≠ [] ∧ ∃ before after, shares = before ++ share :: after ∧ active before = done := by
  obtain ⟨before, rest, rfl, first, others⟩ := List.filter_eq_append_iff.mp split
  obtain ⟨idle, after, rfl, skipped, taken, _⟩ := List.filter_eq_cons_iff.mp others
  refine ⟨by simpa using taken, before ++ idle, after, by simp, ?_⟩
  have nothing : active idle = [] := List.filter_eq_nil_iff.mpr skipped
  rw [active_append, nothing, List.append_nil]
  exact first

/-- Where a commit of shares can stop: at the tracker of a share, when the updates of some
trackers are committed, after some calls, at a call. -/
inductive Stop (shares : List Share) : Share → List String → List StoreCall → StoreCall → Prop where
  | opening (before : List Share) (share : Share) (later : List Share)
      (split : shares = before ++ share :: later) :
      Stop shares share [] (openings before) share.opening
  | posting (before : List Share) (share : Share) (later : List Share)
      (split : shares = before ++ share :: later) (updated : share.updates ≠ []) :
      Stop shares share (postedIds before) (openings shares ++ postings before) share.posting

/-- What a commit of shares on a store comes to, and the calls it makes. -/
inductive Course {σ : Type} (store : Store σ) (shares : List Share) (state : σ) :
    Except Error (List String) → List StoreCall → Prop where
  | finished (accepted : store.Accepts (openings shares ++ postings shares) state) :
      Course store shares state (.ok (postedIds shares)) (openings shares ++ postings shares)
  | stopped {share : Share} {applied : List String} {done : List StoreCall} {call : StoreCall}
      {cause : Error} (stop : Stop shares share applied done call)
      (accepted : store.Accepts done state)
      (refused : store.Refuses call (store.after done state) cause) :
      Course store shares state (.error (located share.key applied cause)) (done ++ [call])

variable {σ : Type} {store : Store σ} {state : σ} {shares : List Share}

theorem exists_course (store : Store σ) (shares : List Share) (state : σ) :
    ∃ answer calls, Course store shares state answer calls := by
  rcases store.accepts_or_refuses (openings shares) state with
    opened | ⟨done, call, later, cause, split, accepted, refused⟩
  · rcases store.accepts_or_refuses (postings shares) (store.after (openings shares) state) with
      posted | ⟨done, call, later, cause, split, accepted, refused⟩
    · exact ⟨_, _, .finished (Store.accepts_append_iff.mpr ⟨opened, posted⟩)⟩
    · obtain ⟨doneShares, rest, listed, rfl, callShares⟩ := List.map_eq_append_iff.mp split
      obtain ⟨share, others, rfl, rfl, _⟩ := List.map_eq_cons_iff.mp callShares
      obtain ⟨updated, before, after, atShare, rfl⟩ := split_of_active listed
      rw [← Store.after_append] at refused
      exact ⟨_, _, .stopped (.posting before share after atShare updated)
        (Store.accepts_append_iff.mpr ⟨opened, accepted⟩) refused⟩
  · obtain ⟨before, rest, rfl, rfl, callShares⟩ := List.map_eq_append_iff.mp split
    obtain ⟨share, others, rfl, rfl, _⟩ := List.map_eq_cons_iff.mp callShares
    exact ⟨_, _, .stopped (.opening before share others rfl) accepted refused⟩

/-! ## The commit takes its course -/

section

variable {share : Share} {rest : List Share} {applied : List String} {cause : Error}

theorem ensureAll_of_ok {value : StoreValue}
    (answered : (store.perform share.opening state).1 = .ok value) :
    ensureAll store (share :: rest) state =
      ensureAll store rest (store.perform share.opening state).2 := by
  obtain ⟨created, opened, _⟩ := Answer.map_eq_ok_iff.mp answered
  show ensureAll store (share :: rest) state =
    ensureAll store rest (store.ensure share.key share.template state).2
  rw [ensureAll]
  split
  · rename_i same
    rw [same]
  · rename_i same
    rw [same] at opened
    cases opened

theorem ensureAll_of_refuses (refused : store.Refuses share.opening state cause) :
    ensureAll store (share :: rest) state =
      (.error (located share.key [] cause), (store.perform share.opening state).2) := by
  have failed := Answer.map_eq_error_iff.mp refused
  show ensureAll store (share :: rest) state =
    (.error (located share.key [] cause), (store.ensure share.key share.template state).2)
  rw [ensureAll]
  split
  · rename_i same
    rw [same] at failed
    cases failed
  · rename_i same
    rw [same] at failed
    cases failed
    rw [same]

theorem incrementAll_of_idle (idle : share.updates = []) :
    incrementAll store applied (share :: rest) state = incrementAll store applied rest state := by
  simp [incrementAll, idle]

theorem incrementAll_of_ok (updated : share.updates ≠ []) {value : StoreValue}
    (answered : (store.perform share.posting state).1 = .ok value) :
    incrementAll store applied (share :: rest) state =
      incrementAll store (applied ++ [share.key.id]) rest
        (store.perform share.posting state).2 := by
  obtain ⟨_, added, _⟩ := Answer.map_eq_ok_iff.mp answered
  show incrementAll store applied (share :: rest) state =
    incrementAll store (applied ++ [share.key.id]) rest
      (store.increment share.key share.updates state).2
  rw [incrementAll, if_neg (by simpa using updated)]
  split
  · rename_i same
    rw [same]
  · rename_i same
    rw [same] at added
    cases added

theorem incrementAll_of_refuses (updated : share.updates ≠ [])
    (refused : store.Refuses share.posting state cause) :
    incrementAll store applied (share :: rest) state =
      (.error (located share.key applied cause), (store.perform share.posting state).2) := by
  have failed := Answer.map_eq_error_iff.mp refused
  show incrementAll store applied (share :: rest) state =
    (.error (located share.key applied cause), (store.increment share.key share.updates state).2)
  rw [incrementAll, if_neg (by simpa using updated)]
  split
  · rename_i same
    rw [same] at failed
    cases failed
  · rename_i same
    rw [same] at failed
    cases failed
    rw [same]

end

theorem ensureAll_append {before : List Share} (rest : List Share) {state : σ}
    (accepted : store.Accepts (openings before) state) :
    ensureAll store (before ++ rest) state =
      ensureAll store rest (store.after (openings before) state) := by
  induction before generalizing state with
  | nil => rfl
  | cons share later ih =>
      obtain ⟨⟨value, answered⟩, acceptedLater⟩ := Store.accepts_cons_iff.mp accepted
      rw [List.cons_append, ensureAll_of_ok answered]
      exact ih acceptedLater

theorem incrementAll_append {before : List Share} (rest : List Share) (applied : List String)
    {state : σ} (accepted : store.Accepts (postings before) state) :
    incrementAll store applied (before ++ rest) state =
      incrementAll store (applied ++ postedIds before) rest
        (store.after (postings before) state) := by
  induction before generalizing state applied with
  | nil => simp [postedIds, postings, active, Store.after]
  | cons share later ih =>
      by_cases idle : share.updates = []
      · obtain ⟨calls, ids⟩ := of_idle idle later
        rw [calls] at accepted
        rw [List.cons_append, incrementAll_of_idle idle, calls, ids]
        exact ih applied accepted
      · obtain ⟨calls, ids⟩ := of_updated idle later
        rw [calls] at accepted
        obtain ⟨⟨value, answered⟩, acceptedLater⟩ := Store.accepts_cons_iff.mp accepted
        rw [List.cons_append, incrementAll_of_ok idle answered, ih _ acceptedLater, calls, ids,
          List.append_assoc]
        rfl

end Record

def Plan.outcome (plan : Plan) (shares : List Share) (applied : List String) : Outcome where
  keys := shares.map fun share => share.key.id
  applied := applied
  updates := plan.updates
  attributions := plan.attributions
  rejected := false

namespace Record

variable {σ : Type} {store : Store σ} {state : σ} {shares : List Share}

/-- A commit comes to what its course says, and leaves the state after its calls. -/
theorem Course.commit_eq {answer : Except Error (List String)} {calls : List StoreCall}
    (course : Course store shares state answer calls) (plan : Plan) :
    commit store plan shares state = (answer.map (plan.outcome shares), store.after calls state) := by
  have ensured (accepted : store.Accepts (openings shares) state) :
      ensureAll store shares state = (.ok (), store.after (openings shares) state) := by
    have passed := ensureAll_append [] accepted
    rwa [List.append_nil] at passed
  cases course with
  | finished accepted =>
      obtain ⟨opened, posted⟩ := Store.accepts_append_iff.mp accepted
      have passed := incrementAll_append [] [] posted
      rw [List.append_nil] at passed
      simp only [commit, ensured opened, passed, Store.after_append]
      rfl
  | @stopped share applied done call cause stop accepted refused =>
      cases stop with
      | opening before _ later split =>
          subst split
          simp only [commit, ensureAll_append _ accepted, ensureAll_of_refuses refused,
            Store.after_append]
          rfl
      | posting before _ later split updated =>
          obtain ⟨opened, posted⟩ := Store.accepts_append_iff.mp accepted
          rw [Store.after_append] at refused
          have passed := incrementAll_append (share :: later) [] posted
          rw [← split, List.nil_append, incrementAll_of_refuses updated refused] at passed
          simp only [commit, ensured opened, passed, Store.after_append]
          rfl

/-! ## The calls that a recording makes -/

/-- The calls that the recording of an event makes on a store, as far as they may change it. -/
def calls (store : Store σ) (directory : Directory) (event : Event) (date : Date) (state : σ) :
    List StoreCall :=
  (record store.traced directory event date (state, [])).2.2

/-- Where a commit stops, it has made the first of the calls that it would make. -/
theorem Stop.exists_later {share : Share} {applied : List String} {done : List StoreCall}
    {call : StoreCall} (stop : Stop shares share applied done call) :
    ∃ later, openings shares ++ postings shares = done ++ call :: later := by
  cases stop with
  | opening before share later split =>
      refine ⟨openings later ++ postings shares, ?_⟩
      rw [split, openings, List.map_append, List.map_cons, List.append_assoc]
      rfl
  | posting before share later split updated =>
      refine ⟨postings later, ?_⟩
      have posted : postings shares = postings before ++ share.posting :: postings later := by
        rw [split, postings, active_append, List.map_append, ← (of_updated updated later).1]
        rfl
      rw [posted, List.append_assoc]

/-- A commit makes only the calls that set up trackers of its shares, or add to them. -/
theorem Course.mem {answer : Except Error (List String)} {calls : List StoreCall}
    (course : Course store shares state answer calls) {call : StoreCall} (member : call ∈ calls) :
    call ∈ openings shares ++ postings shares := by
  cases course with
  | finished => exact member
  | stopped stop =>
      obtain ⟨later, split⟩ := stop.exists_later
      rw [split]
      rcases List.mem_append.mp member with before | last
      · exact List.mem_append_left _ before
      · rw [List.mem_singleton.mp last]
        exact List.mem_append_right _ List.mem_cons_self

/-- The calls of a commit are those of its shares. -/
theorem exists_share_of_mem {call : StoreCall}
    (member : call ∈ openings shares ++ postings shares) :
    ∃ share ∈ shares, call = share.opening ∨ call = share.posting := by
  rcases List.mem_append.mp member with opened | posted
  · obtain ⟨share, listed, same⟩ := List.mem_map.mp opened
    exact ⟨share, listed, Or.inl same.symm⟩
  · obtain ⟨share, updated, same⟩ := List.mem_map.mp posted
    exact ⟨share, List.mem_of_mem_filter updated, Or.inr same.symm⟩

theorem changes_of_mem {call : StoreCall} (member : call ∈ openings shares ++ postings shares) :
    call.Changes := by
  obtain ⟨share, _, rfl | rfl⟩ := exists_share_of_mem member <;> trivial

theorem Stop.changes {share : Share} {applied : List String} {done : List StoreCall}
    {call : StoreCall} (stop : Stop shares share applied done call) :
    (∀ made ∈ done, made.Changes) ∧ call.Changes := by
  obtain ⟨later, split⟩ := stop.exists_later
  have changes {made : StoreCall} (member : made ∈ done ++ call :: later) : made.Changes :=
    changes_of_mem (split ▸ member)
  exact ⟨fun made member => changes (List.mem_append_left _ member),
    changes (List.mem_append_right _ List.mem_cons_self)⟩

/-- On a store that keeps its calls a commit takes the same course, and leaves its calls. -/
theorem Course.traced {answer : Except Error (List String)} {calls : List StoreCall}
    (course : Course store shares state answer calls) :
    Course store.traced shares (state, []) answer calls ∧
      (store.traced.after calls (state, [])).2 = calls := by
  cases course with
  | finished accepted =>
      obtain ⟨answers, left⟩ := store.run_traced (fun _ => changes_of_mem) state []
      refine ⟨.finished ?_, by rw [left]; rfl⟩
      rwa [Store.Accepts, answers]
  | @stopped share applied done call cause stop accepted refused =>
      obtain ⟨changes, last⟩ := stop.changes
      obtain ⟨answers, left⟩ := store.run_traced changes state []
      refine ⟨.stopped stop ?_ ?_, ?_⟩
      · rwa [Store.Accepts, answers]
      · rw [left, Store.Refuses, store.perform_traced last]
        exact refused
      · rw [Store.after_append, left, Store.after, store.perform_traced last]
        rfl

/-- The recording of an event that passed every check makes the calls of the course that its
commit takes, and comes to what this says. -/
theorem Course.record_eq {answer : Except Error (List String)} {made : List StoreCall}
    (course : Course store shares state answer made) {directory : Directory} {event : Event}
    {date : Date} {plan : Plan}
    (prepared : prepare directory event date = .ok (.counted plan shares)) :
    calls store directory event date state = made ∧
      record store directory event date state =
        (answer.map (plan.outcome shares), store.after made state) := by
  obtain ⟨courseTraced, kept⟩ := course.traced
  constructor
  · simp only [calls, record, prepared, courseTraced.commit_eq plan, kept]
  · simp only [record, prepared, course.commit_eq plan]

theorem record_of_counted {directory : Directory} {event : Event} {date : Date} {plan : Plan}
    (prepared : prepare directory event date = .ok (.counted plan shares)) (store : Store σ)
    (state : σ) :
    ∃ answer, Course store shares state answer (calls store directory event date state) ∧
      record store directory event date state =
        (answer.map (plan.outcome shares),
          store.after (calls store directory event date state) state) := by
  obtain ⟨answer, made, course⟩ := exists_course store shares state
  obtain ⟨same, recorded⟩ := course.record_eq prepared
  rw [same]
  exact ⟨answer, course, recorded⟩

/-- A recording that succeeds made all calls of its commit, and none was refused. -/
theorem accepts_of_record {directory : Directory} {event : Event} {date : Date} {plan : Plan}
    (prepared : prepare directory event date = .ok (.counted plan shares)) {outcome : Outcome}
    (succeeded : (record store directory event date state).1 = .ok outcome) :
    outcome = plan.outcome shares (postedIds shares) ∧
      store.Accepts (openings shares ++ postings shares) state ∧
      (record store directory event date state).2 =
        store.after (openings shares ++ postings shares) state := by
  obtain ⟨answer, course, recorded⟩ := record_of_counted prepared store state
  rw [recorded] at succeeded ⊢
  generalize calls store directory event date state = made at course
  cases course with
  | stopped => cases succeeded
  | finished accepted => exact ⟨(Except.ok.inj succeeded).symm, accepted, rfl⟩

/-- Shares at built keys make calls at built keys. -/
theorem isBuilt_of_mem (built : ∀ share ∈ shares, share.key.IsBuilt) {call : StoreCall}
    (member : call ∈ openings shares ++ postings shares) : call.IsBuilt := by
  obtain ⟨share, listed, rfl | rfl⟩ := exists_share_of_mem member
  · exact built share listed
  · exact built share listed

/-- What calls with built keys keep, every recording keeps, whether or not it succeeds. -/
theorem record_induction {invariant : σ → Prop}
    (kept : ∀ call state, call.IsBuilt → invariant state → invariant (store.perform call state).2)
    (directory : Directory) (event : Event) (date : Date) {state : σ} (start : invariant state) :
    invariant (record store directory event date state).2 := by
  cases prepared : prepare directory event date with
  | error error => simpa only [record, prepared] using start
  | ok checked =>
      cases checked with
      | uncounted attributions => simpa only [record, prepared] using start
      | counted plan shares =>
          obtain ⟨_, _, addressable, rfl⟩ := prepare_eq_counted prepared
          have built : ∀ share ∈ plan.trackers.map (shareOf plan date), share.key.IsBuilt :=
            List.forall_mem_map.mpr fun template member =>
              ⟨_, _, date, Key.build_eq_ok_iff.mpr ⟨addressable template member, rfl⟩⟩
          obtain ⟨answer, course, recorded⟩ := record_of_counted prepared store state
          rw [recorded]
          exact store.after_induction_mem (fun call member state =>
            kept call state (isBuilt_of_mem built (course.mem member))) start

end Record

end ActivityLedger

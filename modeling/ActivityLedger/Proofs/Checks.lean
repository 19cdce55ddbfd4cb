import ActivityLedger.Proofs.Courses
import ActivityLedger.Proofs.Validity

/-!
# Checks before the store

An event is withheld from the store if it breaks a rule, if an author of it is not
named, if it has no plan or a plan that leaves it uncounted, or if the key of one of the
trackers in its plan cannot be built.  These are exactly the events for which no call is
made on any store, and what becomes of them is known without one.  No check refuses an
event for a reason of a store, unless the directory does.
-/

namespace ActivityLedger

namespace Record

/-- Some check before the store fails, or the classification leaves the event uncounted. -/
inductive Withheld (directory : Directory) (event : Event) (date : Date) : Prop where
  | invalid (error : Error) (refused : event.validate = .error error)
  | unattributed (error : Error) (unnamed : authorship directory event = .error error)
  | unplanned (authors : Authorship) (error : Error)
      (named : authorship directory event = .ok authors)
      (refused : Plan.ofEvent event authors = .error error)
  | uncounted (plan : Plan) (planned : planOf directory event = .ok plan)
      (unsupported : plan.isUnsupported = true)
  | unaddressable (plan : Plan) (template : Template) (error : Error)
      (planned : planOf directory event = .ok plan) (listed : template ∈ plan.trackers)
      (refused : Key.build template.kind template.entityId date = .error error)

variable {directory : Directory} {event : Event} {date : Date} {plan : Plan}

/-- A valid event whose plan leaves it uncounted is not counted, whatever the date. -/
theorem prepare_of_unsupported (date : Date) (valid : event.validate = .ok ())
    (planned : planOf directory event = .ok plan) (unsupported : plan.isUnsupported = true) :
    prepare directory event date = .ok (.uncounted plan.attributions) := by
  obtain ⟨authors, named, classified⟩ := Answer.bind_eq_ok_iff.mp planned
  refine Answer.bind_eq_ok_iff.mpr ⟨(), valid, ?_⟩
  refine Answer.bind_eq_ok_iff.mpr ⟨authors, named, ?_⟩
  refine Answer.bind_eq_ok_iff.mpr ⟨plan, classified, ?_⟩
  rw [if_pos unsupported]
  rfl

/-- The events that are withheld are those that are not handed over to be committed. -/
theorem withheld_iff : Withheld directory event date ↔
    ∀ plan shares, prepare directory event date ≠ .ok (.counted plan shares) := by
  constructor
  · intro withheld plan shares prepared
    obtain ⟨valid, planned, supported, given⟩ := prepare_eq_counted_iff.mp prepared
    obtain ⟨authors, named, classified⟩ := Answer.bind_eq_ok_iff.mp planned
    cases withheld with
    | invalid error refused => cases refused.symm.trans valid
    | unattributed error unnamed => cases unnamed.symm.trans named
    | unplanned others error otherNamed refused =>
        cases otherNamed.symm.trans named
        cases refused.symm.trans classified
    | uncounted other otherPlanned unsupported =>
        cases otherPlanned.symm.trans planned
        cases unsupported.symm.trans supported
    | unaddressable other template error otherPlanned listed refused =>
        cases otherPlanned.symm.trans planned
        have valid := (shares_of_mapM given).1 template listed
        cases refused.symm.trans (Key.build_eq_ok_iff.mpr ⟨valid, rfl⟩)
  · intro never
    cases valid : event.validate with
    | error error => exact .invalid error valid
    | ok _ =>
        cases named : authorship directory event with
        | error error => exact .unattributed error named
        | ok authors =>
            cases classified : Plan.ofEvent event authors with
            | error error => exact .unplanned authors error named classified
            | ok plan =>
                have planned : planOf directory event = .ok plan :=
                  Answer.bind_eq_ok_iff.mpr ⟨authors, named, classified⟩
                cases supported : plan.isUnsupported with
                | true => exact .uncounted plan planned supported
                | false =>
                    cases given : plan.trackers.mapM (share plan date) with
                    | ok shares =>
                        have prepared := prepare_eq_counted_iff.mpr
                          ⟨valid, planned, supported, given⟩
                        exact absurd prepared (never plan shares)
                    | error error =>
                        obtain ⟨template, listed, failed⟩ := Answer.exists_of_mapM_eq_error given
                        rcases Answer.bind_eq_error_iff.mp failed with refused | ⟨key, _, shared⟩
                        · exact .unaddressable plan template error planned listed refused
                        · cases shared

theorem calls_ne_nil {shares : List Share}
    (prepared : prepare directory event date = .ok (.counted plan shares)) {σ : Type}
    (store : Store σ) (state : σ) : calls store directory event date state ≠ [] := by
  obtain ⟨_, planned, supported, given⟩ := prepare_eq_counted_iff.mp prepared
  obtain ⟨authors, _, classified⟩ := Answer.bind_eq_ok_iff.mp planned
  obtain ⟨_, rfl⟩ := shares_of_mapM given
  obtain ⟨answer, course, _⟩ := record_of_counted prepared store state
  intro none
  generalize calls store directory event date state = made at none course
  cases course with
  | finished =>
      have opened : openings (plan.trackers.map (shareOf plan date)) = [] :=
        (List.append_eq_nil_iff.mp none).1
      exact Plan.trackers_ne_nil classified supported (by simpa [openings] using opened)
  | stopped => simp at none

/-- An event is withheld exactly where its recording makes no call and leaves the state as it
is, on every store, with one answer that no store can change.  A valid event whose plan leaves
it uncounted is answered by an outcome that says so, whatever the date. -/
theorem withheld_iff_no_calls (directory : Directory) (event : Event) (date : Date) :
    (Withheld directory event date ↔ ∃ answer, ∀ {σ : Type} (store : Store σ) (state : σ),
      calls store directory event date state = [] ∧
        record store directory event date state = (answer, state)) ∧
    ∀ plan, event.validate = .ok () → planOf directory event = .ok plan →
      plan.isUnsupported = true → ∀ {σ : Type} (store : Store σ) (state : σ),
        record store directory event date state = (.ok {
          keys := []
          applied := []
          updates := []
          attributions := plan.attributions
          rejected := true }, state) := by
  constructor
  · rw [withheld_iff]
    constructor
    · intro never
      cases prepared : prepare directory event date with
      | error error =>
          refine ⟨.error error, fun store state => ?_⟩
          simp [calls, record, prepared]
      | ok checked =>
          cases checked with
          | uncounted attributions =>
              refine ⟨.ok (.uncounted attributions), fun store state => ?_⟩
              simp [calls, record, prepared]
          | counted plan shares => exact absurd prepared (never plan shares)
    · rintro ⟨answer, untouched⟩ plan shares prepared
      exact calls_ne_nil prepared Memory.store Memory.empty (untouched Memory.store Memory.empty).1
  · intro plan valid planned unsupported σ store state
    simp only [record, prepare_of_unsupported date valid planned unsupported]
    rfl

/-- A directory that names the author of a post, but of its comment only an empty id. -/
def namelessDirectory : Directory :=
  ((Registry.empty.withPost "p1" "ana").withComment "c1" "").directory

/-- The key of the voter is built before that of the comment's author is refused.  The author of
the post votes on the same comment in vain. -/
theorem withheld_iff_no_calls_nameless :
    (∃ answer, ∀ {σ : Type} (store : Store σ) (state : σ),
      let vote := (Event.updateComment "cy" "" "c1" "p1").withVote .up
      calls store namelessDirectory vote march state = [] ∧
        record store namelessDirectory vote march state = (answer, state)) ∧
    ∀ {σ : Type} (store : Store σ) (state : σ),
      let vote := (Event.updateComment "ana" "" "c1" "p1").withVote .up
      record store namelessDirectory vote march state = (.ok {
        keys := []
        applied := []
        updates := []
        attributions := [⟨"ana", .unsupported⟩]
        rejected := true }, state) := by
  constructor
  · refine (withheld_iff_no_calls _ _ _).1.mp ?_
    exact .unaddressable (Plan.commentUpdated "cy" "" "c1" "ana" ⟨some .up, .zero, .zero⟩)
      (.user "") (.argument (.emptyEntityId .user)) (by rfl) (by decide) (by rfl)
  · intro σ store state
    exact (withheld_iff_no_calls _ _ _).2 (Plan.commentUpdated "ana" "" "c1" "ana"
      ⟨some .up, .zero, .zero⟩) (by rfl) (by rfl) (by rfl) store state

end Record

/-! ## The refusals of the checks -/

structure Directory.Answers (directory : Directory) : Prop where
  posts : ∀ post error, directory.postAuthor post ≠ .error error
  comments : ∀ comment error, directory.commentAuthor comment ≠ .error error

def Directory.FailsWith (directory : Directory) (error : Error) : Prop :=
  ∃ id, directory.postAuthor id = .error error ∨ directory.commentAuthor id = .error error

theorem Directory.Answers.not_failsWith {directory : Directory} (answers : directory.Answers)
    (error : Error) : ¬ directory.FailsWith error := by
  rintro ⟨id, failed | failed⟩
  · exact answers.posts id error failed
  · exact answers.comments id error failed

open Answer

/-- The answer is given, or refused for a reason that lies outside the stores. -/
abbrev Apart {α : Type} (answer : Except Error α) : Prop :=
  RefusedOnly (fun error => error.isStorage = false) answer

theorem Event.apart_validate (event : Event) : Apart event.validate := by
  refine event.refused_validate.mono fun error broken => ?_
  cases error <;> first | rfl | cases broken

theorem Activity.apart_ofEvent (event : Event) : Apart (Activity.ofEvent event) := by
  have amount (field : String) (count : Count) : Apart (amountOf field count) := by
    unfold amountOf
    split
    · exact refusedOnly_ok _
    · exact refusedOnly_error rfl
  exact (amount _ _).bind fun _ => (amount _ _).bind fun _ => refusedOnly_ok _

theorem Plan.apart_ofEvent (event : Event) (authors : Authorship) :
    Apart (Plan.ofEvent event authors) := by
  have actor : Apart (actorOf event) := by
    unfold actorOf
    split
    · exact refusedOnly_ok _
    · exact refusedOnly_error rfl
  have parent : Apart (parentOf event) := by
    unfold parentOf
    split
    · exact refusedOnly_ok _
    · exact refusedOnly_error rfl
  have parentOwner : Apart (parentOwnerOf authors) := by
    unfold parentOwnerOf
    split
    · exact refusedOnly_ok _
    · exact refusedOnly_error rfl
  refine (Activity.apart_ofEvent event).bind fun activity => ?_
  cases event.operation with
  | createContent => exact actor.bind fun _ => refusedOnly_ok _
  | updateContent =>
      dsimp only
      split
      · exact refusedOnly_error rfl
      · exact refusedOnly_ok _
  | createComment =>
      exact actor.bind fun _ => parent.bind fun _ => parentOwner.bind fun _ => refusedOnly_ok _
  | updateComment => exact actor.bind fun _ => parentOwner.bind fun _ => refusedOnly_ok _

namespace Record

/-- Authors are left unnamed where a directory does not know them, or fails. -/
theorem unnamed_authorship (directory : Directory) (event : Event) :
    RefusedOnly (fun error => error.isLookup = true ∨ directory.FailsWith error)
      (authorship directory event) := by
  have parent : RefusedOnly (fun error => error.isLookup = true ∨ directory.FailsWith error)
      (parentOwner directory event) := by
    unfold parentOwner
    split
    · refine RefusedOnly.bind (fun error failed => Or.inr ⟨_, Or.inl failed⟩) ?_
      intro found
      split
      · exact refusedOnly_ok _
      · exact refusedOnly_error (Or.inl rfl)
    · refine RefusedOnly.bind (fun error failed => Or.inr ⟨_, Or.inl failed⟩) ?_
      intro found
      split
      · exact refusedOnly_ok _
      · exact refusedOnly_error (Or.inl rfl)
    · exact refusedOnly_ok _
  have owner : RefusedOnly (fun error => error.isLookup = true ∨ directory.FailsWith error)
      (contentOwner directory event) := by
    unfold contentOwner
    split
    · exact refusedOnly_ok _
    · exact refusedOnly_ok _
    · split
      · exact refusedOnly_error (Or.inl rfl)
      · exact refusedOnly_ok _
    · refine RefusedOnly.bind (fun error failed => Or.inr ⟨_, Or.inr failed⟩) ?_
      intro found
      split
      · exact refusedOnly_ok _
      · exact refusedOnly_error (Or.inl rfl)
  exact parent.bind fun _ => owner.bind fun _ => refusedOnly_ok _

/-- A directory that never fails leaves authors unnamed only by not knowing them. -/
theorem refused_authorship {directory : Directory} (answers : directory.Answers) (event : Event) :
    RefusedOnly (fun error => error.isLookup = true) (authorship directory event) :=
  (unnamed_authorship directory event).mono fun error unnamed =>
    unnamed.resolve_right (answers.not_failsWith error)

theorem refused_share (plan : Plan) (date : Date) (template : Template) :
    RefusedOnly (fun error => error.isArgument = true) (share plan date template) := by
  refine RefusedOnly.bind ?_ fun _ => refusedOnly_ok _
  unfold Key.build
  split
  · exact refusedOnly_error rfl
  · split
    · exact refusedOnly_ok _
    · exact refusedOnly_error rfl

theorem apart_share (plan : Plan) (date : Date) (template : Template) :
    Apart (share plan date template) := by
  refine (refused_share plan date template).mono fun error unfit => ?_
  cases error <;> first | rfl | cases unfit

/-- The checks of an event never refuse it for a reason of a store, unless the directory does. -/
theorem refused_prepare (directory : Directory) (event : Event) (date : Date) :
    RefusedOnly (fun error => error.isStorage = false ∨ directory.FailsWith error)
      (prepare directory event date) := by
  have authors : RefusedOnly (fun error => error.isStorage = false ∨ directory.FailsWith error)
      (authorship directory event) := by
    refine (unnamed_authorship directory event).mono fun error unnamed => ?_
    refine unnamed.imp_left fun unknown => ?_
    cases error <;> first | rfl | cases unknown
  refine (event.apart_validate.mono fun _ => Or.inl).bind fun _ => authors.bind fun authors =>
    ((Plan.apart_ofEvent event authors).mono fun _ => Or.inl).bind fun plan => ?_
  split
  · exact refusedOnly_ok _
  · exact ((RefusedOnly.mapM (apart_share plan date)).mono fun _ => Or.inl).bind fun _ => refusedOnly_ok _

/-- The checks of an event whose authors can be asked for never refuse it for a reason of a
store. -/
theorem apart_prepare {directory : Directory} (answers : directory.Answers) (event : Event)
    (date : Date) : Apart (prepare directory event date) :=
  (refused_prepare directory event date).mono fun error refused =>
    refused.resolve_right (answers.not_failsWith error)

end Record

end ActivityLedger

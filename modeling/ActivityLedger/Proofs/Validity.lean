import ActivityLedger.Proofs.Plans
import ActivityLedger.Record.Recording

/-!
# Valid events and their authors

What an event must be to pass its own check, and what is known of an event that passed:
a registry that has its authors names them, and the classification makes a plan for them.
Each check refuses for reasons of one sort only.
-/

namespace ActivityLedger

open Answer

def Error.isInvariant : Error → Bool
  | .invariant _ => true
  | _ => false

def Error.isLookup : Error → Bool
  | .lookup _ => true
  | _ => false

def Error.isArgument : Error → Bool
  | .argument _ => true
  | _ => false

/-! ## Validity -/

namespace Event

/-- The event keeps the rules of events. -/
structure Valid (event : Event) : Prop where
  named : event.contentId ≠ ""
  kind : event.operation.content = event.contentKind
  newness : event.operation.creates = event.isNewContent
  parent : match event.contentKind with
    | .comment => ∃ post, event.parentContentId = some post ∧ post ≠ ""
    | .post => event.parentContentId = none
  actor : match event.actor with
    | .user id => id ≠ ""
    | .anonymous => event.operation = .updateContent
  views : event.viewCount.val ≤ countLimit
  opens : event.openCount.val ≤ countLimit

variable {event : Event}

theorem checkOperation_eq_ok_iff : event.checkOperation = .ok () ↔
    event.operation.content = event.contentKind ∧ event.operation.creates = event.isNewContent := by
  unfold checkOperation
  by_cases kind : event.operation.content = event.contentKind
  · by_cases newness : event.operation.creates = event.isNewContent <;> simp [kind, newness]
  · simp [kind]

theorem checkParent_eq_ok_iff : event.checkParent = .ok () ↔
    match event.contentKind with
    | .comment => ∃ post, event.parentContentId = some post ∧ post ≠ ""
    | .post => event.parentContentId = none := by
  unfold checkParent
  cases event.contentKind with
  | post => cases event.parentContentId <;> simp
  | comment =>
      cases event.parentContentId with
      | none => simp
      | some post => by_cases empty : post = "" <;> simp [empty]

theorem checkActor_eq_ok_iff : event.checkActor = .ok () ↔
    match event.actor with
    | .user id => id ≠ ""
    | .anonymous => event.operation = .updateContent := by
  unfold checkActor
  cases event.actor with
  | user id => by_cases empty : id = "" <;> simp [empty]
  | anonymous => by_cases anybody : event.operation = .updateContent <;> simp [anybody]

theorem checkCount_eq_ok_iff {field : String} {count : Count} :
    event.checkCount field count = .ok () ↔ count.val ≤ countLimit := by
  unfold checkCount
  split <;> simp <;> omega

theorem validate_eq_ok_iff : event.validate = .ok () ↔ event.Valid := by
  have rest : (event.checkOperation.bind fun _ => event.checkParent.bind fun _ =>
      event.checkActor.bind fun _ => (event.checkCount "view_count" event.viewCount).bind fun _ =>
        event.checkCount "open_count" event.openCount) = .ok () ↔ _ :=
    (check_bind_eq_ok_iff.trans (and_congr checkOperation_eq_ok_iff
      (check_bind_eq_ok_iff.trans (and_congr checkParent_eq_ok_iff
        (check_bind_eq_ok_iff.trans (and_congr checkActor_eq_ok_iff
          (check_bind_eq_ok_iff.trans (and_congr checkCount_eq_ok_iff checkCount_eq_ok_iff))))))))
  unfold validate
  split
  · rename_i unnamed
    exact iff_of_false (fun passed => nomatch passed) fun valid => valid.named unnamed
  · rename_i named
    refine rest.trans ⟨?_, ?_⟩
    · rintro ⟨⟨kind, newness⟩, parent, actor, views, opens⟩
      exact ⟨named, kind, newness, parent, actor, views, opens⟩
    · intro valid
      exact ⟨⟨valid.kind, valid.newness⟩, valid.parent, valid.actor, valid.views, valid.opens⟩

theorem refused_validate (event : Event) :
    RefusedOnly (fun error => error.isInvariant = true) event.validate := by
  have operation : RefusedOnly (fun error => error.isInvariant = true) event.checkOperation := by
    unfold checkOperation
    split
    · exact refusedOnly_error rfl
    · split
      · exact refusedOnly_error rfl
      · exact refusedOnly_ok ()
  have parent : RefusedOnly (fun error => error.isInvariant = true) event.checkParent := by
    unfold checkParent
    split
    · exact refusedOnly_error rfl
    · split
      · exact refusedOnly_error rfl
      · exact refusedOnly_ok ()
    · exact refusedOnly_error rfl
    · exact refusedOnly_ok ()
  have actor : RefusedOnly (fun error => error.isInvariant = true) event.checkActor := by
    unfold checkActor
    split
    · split
      · exact refusedOnly_ok ()
      · exact refusedOnly_error rfl
    · split
      · exact refusedOnly_error rfl
      · exact refusedOnly_ok ()
  have counts (field : String) (count : Count) :
      RefusedOnly (fun error => error.isInvariant = true) (event.checkCount field count) := by
    unfold checkCount
    split
    · exact refusedOnly_error rfl
    · exact refusedOnly_ok ()
  have rest : RefusedOnly (fun error => error.isInvariant = true)
      (event.checkOperation.bind fun _ => event.checkParent.bind fun _ =>
        event.checkActor.bind fun _ => (event.checkCount "view_count" event.viewCount).bind
          fun _ => event.checkCount "open_count" event.openCount) :=
    operation.bind fun _ => parent.bind fun _ => actor.bind fun _ =>
      (counts _ _).bind fun _ => counts _ _
  unfold validate
  split
  · exact refusedOnly_error rfl
  · exact rest

end Event

/-! ## Authors of a registry -/

namespace Registry

def parentAuthor? (registry : Registry) (event : Event) : Option String :=
  event.parentContentId.bind fun post => registry.posts.lookup post

def commentAuthor? (registry : Registry) (event : Event) : Option String :=
  registry.comments.lookup event.contentId

/-- An author that the event involves is not known: that of a comment's post, that of a comment
that is acted on, or that of a post, which the event itself should give. -/
def Unattributed (registry : Registry) (event : Event) : Prop :=
  match event.operation with
  | .createContent => False
  | .updateContent => event.contentOwnerId = ""
  | .createComment => registry.parentAuthor? event = none
  | .updateComment => registry.parentAuthor? event = none ∨ registry.commentAuthor? event = none

instance (registry : Registry) (event : Event) : Decidable (registry.Unattributed event) := by
  unfold Unattributed
  split <;> infer_instance

def authors (registry : Registry) (event : Event) : Authorship :=
  match event.operation with
  | .createContent => ⟨event.actor.userId?.getD "", none⟩
  | .updateContent => ⟨event.contentOwnerId, none⟩
  | .createComment => ⟨event.actor.userId?.getD "", registry.parentAuthor? event⟩
  | .updateComment =>
      ⟨(registry.commentAuthor? event).getD "", registry.parentAuthor? event⟩

variable {registry : Registry} {event : Event}

/-- The authors of a valid event are named exactly if all of them are known. -/
theorem authorship_eq_ok_iff (valid : event.Valid) {named : Authorship} :
    Record.authorship registry.directory event = .ok named ↔
      ¬ registry.Unattributed event ∧ named = registry.authors event := by
  have parent := valid.parent
  rw [← valid.kind] at parent
  unfold Record.authorship Record.parentOwner Record.contentOwner Unattributed authors
    parentAuthor? commentAuthor?
  cases operation : event.operation with
  | createContent => simp [bind, Except.bind, pure, Except.pure, eq_comm]
  | updateContent =>
      by_cases unowned : event.contentOwnerId = "" <;>
        simp [bind, Except.bind, pure, Except.pure, unowned, eq_comm]
  | createComment =>
      rw [operation] at parent
      obtain ⟨post, given, _⟩ := parent
      cases known : registry.posts.lookup post <;>
        simp [bind, Except.bind, pure, Except.pure, given, directory, known, eq_comm]
  | updateComment =>
      rw [operation] at parent
      obtain ⟨post, given, _⟩ := parent
      cases known : registry.posts.lookup post with
      | none => simp [bind, Except.bind, pure, Except.pure, given, directory, known]
      | some author =>
          cases wrote : registry.comments.lookup event.contentId <;>
            simp [bind, Except.bind, pure, Except.pure, given, directory, known, wrote, eq_comm]

/-- The event is a vote, a view or an open of the author of the comment or of its post. -/
def Uncounted (registry : Registry) (event : Event) : Prop :=
  match event.operation with
  | .updateComment => event.actor.userId? = registry.commentAuthor? event ∨
      event.actor.userId? = registry.parentAuthor? event
  | _ => False

instance (registry : Registry) (event : Event) : Decidable (registry.Uncounted event) := by
  unfold Uncounted
  split <;> infer_instance

/-- A user for whom the event counts has an empty id. -/
def Nameless (registry : Registry) (event : Event) : Prop :=
  match event.operation with
  | .createComment => registry.parentAuthor? event = some ""
  | .updateComment => registry.commentAuthor? event = some ""
  | _ => False

instance (registry : Registry) (event : Event) : Decidable (registry.Nameless event) := by
  unfold Nameless
  split <;> infer_instance

end Registry

/-! ## Plans of valid events -/

theorem Activity.exists_ofEvent {event : Event} (valid : event.Valid) :
    ∃ activity, ofEvent event = .ok activity := by
  have fits (field : String) {count : Count} (small : count.val ≤ Event.countLimit) :
      ∃ amount, amountOf field count = .ok amount := by
    have natural := count.lo_le
    have room : Event.countLimit ≤ 9223372036854775807 := by decide
    refine ⟨⟨count.val, by omega, by omega⟩, ?_⟩
    have read : Amount.ofCount? count = some ⟨count.val, by omega, by omega⟩ :=
      Bounded.ofInt?_eq_some_iff.mpr rfl
    rw [amountOf, read]
  obtain ⟨views, readViews⟩ := fits "view_count" valid.views
  obtain ⟨opens, readOpens⟩ := fits "open_count" valid.opens
  exact ⟨_, bind_eq_ok_iff.mpr ⟨views, readViews, bind_eq_ok_iff.mpr ⟨opens, readOpens, rfl⟩⟩⟩

namespace Plan

variable {plan : Plan}

@[simp] theorem isUnsupported_empty : empty.isUnsupported = false := rfl

@[simp] theorem isUnsupported_assign (plan : Plan) (userId : String) (quadrant : Quadrant) :
    (plan.assign userId quadrant).isUnsupported =
      (plan.isUnsupported || quadrant = .unsupported) := by
  simp [isUnsupported, assign]

@[simp] theorem isUnsupported_track (plan : Plan) (template : Template) :
    (plan.track template).isUnsupported = plan.isUnsupported := by
  unfold track
  split <;> rfl

@[simp] theorem isUnsupported_user (plan : Plan) (userId : String) (quadrant : Quadrant)
    (counters : List (UserCounter × Amount)) :
    (plan.user userId quadrant counters).isUnsupported =
      (plan.isUnsupported || quadrant = .unsupported) := by
  show ((plan.assign userId quadrant).track (.user userId)).isUnsupported = _
  simp

@[simp] theorem isUnsupported_post (plan : Plan) (postId authorId : String)
    (counters : List (PostCounter × Amount)) :
    (plan.post postId authorId counters).isUnsupported = plan.isUnsupported :=
  isUnsupported_track plan (.post postId authorId)

@[simp] theorem isUnsupported_comment (plan : Plan) (commentId authorId : String)
    (counters : List (CommentCounter × Amount)) :
    (plan.comment commentId authorId counters).isUnsupported = plan.isUnsupported :=
  isUnsupported_track plan (.comment commentId authorId)

def Named (plan : Plan) : Prop := ∀ target ∈ plan.targets, target.entityId ≠ ""

theorem named_empty : empty.Named := List.forall_mem_nil _

@[simp] theorem named_user (plan : Plan) (userId : String) (quadrant : Quadrant)
    (counters : List (UserCounter × Amount)) :
    (plan.user userId quadrant counters).Named ↔ plan.Named ∧ userId ≠ "" := by
  simp only [Named, mem_targets_user, or_imp, forall_and, forall_eq]
  rfl

@[simp] theorem named_post (plan : Plan) (postId authorId : String)
    (counters : List (PostCounter × Amount)) :
    (plan.post postId authorId counters).Named ↔ plan.Named ∧ postId ≠ "" := by
  simp only [Named, mem_targets_post, or_imp, forall_and, forall_eq]
  rfl

@[simp] theorem named_comment (plan : Plan) (commentId authorId : String)
    (counters : List (CommentCounter × Amount)) :
    (plan.comment commentId authorId counters).Named ↔ plan.Named ∧ commentId ≠ "" := by
  simp only [Named, mem_targets_comment, or_imp, forall_and, forall_eq]
  rfl

end Plan

namespace Registry

variable {registry : Registry} {event : Event} {activity : Activity} {plan : Plan}

theorem exists_userId (valid : event.Valid) (needed : event.operation ≠ .updateContent) :
    ∃ actor, event.actor = .user actor ∧ actor ≠ "" := by
  have acts := valid.actor
  cases actor : event.actor with
  | user id =>
      rw [actor] at acts
      exact ⟨id, rfl, acts⟩
  | anonymous =>
      rw [actor] at acts
      exact absurd acts needed

/-- The classification makes a plan for a valid event whose authors are known. -/
theorem exists_plan (valid : event.Valid) (attributed : ¬ registry.Unattributed event) :
    ∃ activity plan, Activity.ofEvent event = .ok activity ∧
      Plan.Classified event (registry.authors event) activity plan := by
  obtain ⟨activity, read⟩ := Activity.exists_ofEvent valid
  have parent := valid.parent
  rw [← valid.kind] at parent
  refine ⟨activity, ?_⟩
  unfold Unattributed at attributed
  cases operation : event.operation with
  | createContent =>
      obtain ⟨actor, acts, _⟩ := exists_userId valid (by simp [operation])
      exact ⟨_, read, .postCreated actor operation (by rw [acts]; rfl)⟩
  | updateContent =>
      simp only [operation] at attributed
      exact ⟨_, read, .postUpdated operation (by simpa [authors, operation] using attributed)⟩
  | createComment =>
      simp only [operation] at attributed parent
      obtain ⟨actor, acts, _⟩ := exists_userId valid (by simp [operation])
      obtain ⟨post, given, _⟩ := parent
      obtain ⟨owner, known⟩ := Option.ne_none_iff_exists'.mp attributed
      exact ⟨_, read, .commentCreated actor post owner operation (by rw [acts]; rfl) given
        (by simp [authors, operation, known])⟩
  | updateComment =>
      simp only [operation, not_or] at attributed
      obtain ⟨actor, acts, _⟩ := exists_userId valid (by simp [operation])
      obtain ⟨owner, known⟩ := Option.ne_none_iff_exists'.mp attributed.1
      exact ⟨_, read, .commentUpdated actor owner operation (by rw [acts]; rfl)
        (by simp [authors, operation, known])⟩

/-- A plan leaves its event uncounted exactly if the author of the comment or of its post acts. -/
theorem isUnsupported_iff (attributed : ¬ registry.Unattributed event)
    (classified : Plan.Classified event (registry.authors event) activity plan) :
    plan.isUnsupported = true ↔ registry.Uncounted event := by
  unfold Unattributed at attributed
  unfold Uncounted
  cases classified with
  | postCreated actor operation => simp [operation, Plan.postCreated]
  | postUpdated operation =>
      simp only [operation, iff_false]
      cases event.actor with
      | anonymous => simp [Plan.postUpdated]
      | user actor =>
          by_cases own : actor = (registry.authors event).contentOwner <;>
            simp [Plan.postUpdated, own]
  | commentCreated actor post postOwner operation =>
      simp only [operation, iff_false]
      by_cases own : actor = postOwner <;> simp [Plan.commentCreated, own]
  | commentUpdated actor postOwner operation named owner =>
      simp only [operation, not_or] at attributed ⊢
      obtain ⟨author, wrote⟩ := Option.ne_none_iff_exists'.mp attributed.2
      simp only [authors, operation] at owner
      have names : (registry.authors event).contentOwner = author := by
        simp [authors, operation, wrote]
      rw [named, owner, wrote, names, Option.some.injEq, Option.some.injEq]
      by_cases own : actor = author ∨ actor = postOwner <;> simp [Plan.commentUpdated, own]

theorem named_iff (valid : event.Valid) (attributed : ¬ registry.Unattributed event)
    (classified : Plan.Classified event (registry.authors event) activity plan)
    (counted : plan.isUnsupported = false) : plan.Named ↔ ¬ registry.Nameless event := by
  have content := valid.named
  have parent := valid.parent
  rw [← valid.kind] at parent
  unfold Unattributed at attributed
  unfold Nameless
  cases classified with
  | postCreated actor operation named =>
      obtain ⟨id, acts, identified⟩ := exists_userId valid (by simp [operation])
      rw [acts] at named
      cases named
      simp [operation, Plan.postCreated, Plan.named_empty, content, identified]
  | postUpdated operation owned =>
      have acts := valid.actor
      simp only [operation, not_false_eq_true, iff_true]
      cases actor : event.actor with
      | anonymous => simp [Plan.postUpdated, Plan.named_empty, content, owned]
      | user id =>
          rw [actor] at acts
          by_cases own : id = (registry.authors event).contentOwner <;>
            simp [Plan.postUpdated, Plan.named_empty, content, owned, own, acts]
  | commentCreated actor post postOwner operation named given owner =>
      obtain ⟨id, acts, identified⟩ := exists_userId valid (by simp [operation])
      rw [acts] at named
      cases named
      simp only [operation] at parent ⊢
      obtain ⟨own, ownGiven, ownNamed⟩ := parent
      rw [given] at ownGiven
      cases ownGiven
      simp only [authors, operation] at owner
      rw [owner, Option.some.injEq]
      by_cases own : actor = postOwner
      · subst own
        simp [Plan.commentCreated, Plan.named_empty, content, identified, ownNamed]
      · simp [Plan.commentCreated, Plan.named_empty, content, identified, ownNamed, own]
  | commentUpdated actor postOwner operation named owner =>
      obtain ⟨id, acts, identified⟩ := exists_userId valid (by simp [operation])
      rw [acts] at named
      cases named
      simp only [operation, not_or] at attributed ⊢
      obtain ⟨author, wrote⟩ := Option.ne_none_iff_exists'.mp attributed.2
      have names : (registry.authors event).contentOwner = author := by
        simp [authors, operation, wrote]
      rw [wrote, Option.some.injEq]
      rw [names] at counted ⊢
      by_cases own : actor = author ∨ actor = postOwner
      · simp [Plan.commentUpdated, own] at counted
      · simp [Plan.commentUpdated, own, Plan.named_empty, content, identified]

end Registry

end ActivityLedger

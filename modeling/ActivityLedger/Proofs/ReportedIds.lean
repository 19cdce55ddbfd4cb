import ActivityLedger.Proofs.Interruptions
import ActivityLedger.Proofs.Limits
import ActivityLedger.Proofs.Quadrants

/-!
# The ids that a recording reports

A recording names the trackers that its event touches by their ids alone.  Trackers of one
kind have ids of their own, but trackers of different kinds may have one id: a comment and a
post whose ids are the same, and a user whose id is that of a post or a comment and two digits
more, on a date of which year, month and day are these two digits.  Where neither is so, every
id that is reported is that of one tracker.
-/

namespace ActivityLedger

namespace Date

/-- Year, month and day are written with the same two digits. -/
def Threefold (date : Date) : Prop := date.year % 100 = date.month ∧ date.month = date.day

instance (date : Date) : Decidable date.Threefold := inferInstanceAs (Decidable (_ ∧ _))

def dayText (date : Date) : String := String.ofList (Text.padded 2 date.day)

end Date

namespace Key

/-! ## Ids of different kinds -/

theorem idText_inj (kind : TrackerKind) (entityId otherId : String) (date : Date) :
    idText kind entityId date = idText kind otherId date ↔ entityId = otherId := by
  rw [idText, idText, String.ofList_inj, List.append_left_inj, String.toList_inj]

/-- A period that is written with four digits may be taken for the end of one with six. -/
theorem idText_user_eq_iff {kind : TrackerKind} (daily : kind.isMonthly = false)
    (userId contentId : String) (date : Date) :
    idText .user userId date = idText kind contentId date ↔
      date.Threefold ∧ userId = contentId ++ date.dayText := by
  have month : periodText .user date =
      Text.padded 2 (date.year % 100).toNat ++ Text.padded 2 date.month := rfl
  have day : periodText kind date =
      Text.padded 2 (date.year % 100).toNat ++ (Text.padded 2 date.month ++
        Text.padded 2 date.day) := by
    rw [periodText, daily, ← List.append_assoc]
    rfl
  have yearLength : (Text.padded 2 (date.year % 100).toNat).length = 2 :=
    Text.length_padded (by decide) date.yearDigits_lt
  have monthLength : (Text.padded 2 date.month).length = 2 :=
    Text.length_padded (by decide) date.month_lt
  have dayLength : (Text.padded 2 date.day).length = 2 :=
    Text.length_padded (by decide) date.day_lt
  rw [idText, idText, String.ofList_inj, month, day]
  constructor
  · intro same
    rw [← List.append_assoc contentId.toList] at same
    -- Both texts end with four digits, which are year and month here, month and day there.
    obtain ⟨front, back⟩ := List.append_inj' same (by simp [yearLength, monthLength, dayLength])
    obtain ⟨years, months⟩ := List.append_inj back (by rw [yearLength, monthLength])
    have sameYear := congrArg Text.value years
    have sameMonth := congrArg Text.value months
    rw [Text.value_padded, Text.value_padded] at sameYear sameMonth
    refine ⟨⟨by omega, sameMonth⟩, String.toList_inj.mp ?_⟩
    rw [front, years, months, String.toList_append, Date.dayText, String.toList_ofList]
  · rintro ⟨⟨sameYear, sameMonth⟩, rfl⟩
    have digits : (date.year % 100).toNat = date.day := by omega
    rw [String.toList_append, Date.dayText, String.toList_ofList, digits, sameMonth,
      List.append_assoc]

end Key

namespace Target

def idOn (target : Target) (date : Date) : String := Key.idText target.kind target.entityId date

/-- Entities of different kinds have trackers with one id on a date. -/
inductive Alike (date : Date) : Target → Target → Prop where
  | contents (id : String) : Alike date (.post id) (.comment id)
  | user (content : Target) (daily : content.kind.isMonthly = false) (threefold : date.Threefold) :
      Alike date (.user (content.entityId ++ date.dayText)) content

theorem Alike.idOn_eq {date : Date} {first second : Target} (alike : Alike date first second) :
    first.idOn date = second.idOn date := by
  cases alike with
  | contents id => rfl
  | user _ daily threefold => exact (Key.idText_user_eq_iff daily _ _ _).mpr ⟨threefold, rfl⟩

theorem Alike.kind_ne {date : Date} {first second : Target} (alike : Alike date first second) :
    first.kind ≠ second.kind := by
  cases alike with
  | contents id => exact nofun
  | user _ daily threefold =>
      intro same
      rw [← same] at daily
      cases daily

theorem idOn_eq_iff (first second : Target) (date : Date) :
    first.idOn date = second.idOn date ↔
      first = second ∨ Alike date first second ∨ Alike date second first := by
  constructor
  · intro same
    -- A user and content, in this order.
    have continued {userId : String} {content : Target} (daily : content.kind.isMonthly = false)
        (same : (Target.user userId).idOn date = content.idOn date) :
        Alike date (.user userId) content := by
      obtain ⟨threefold, rfl⟩ := (Key.idText_user_eq_iff daily _ _ _).mp same
      exact .user content daily threefold
    cases first with
    | user id =>
        cases second with
        | user other => exact Or.inl (congrArg _ ((Key.idText_inj .user _ _ _).mp same))
        | post other | comment other => exact Or.inr (Or.inl (continued rfl same))
    | post id =>
        cases second with
        | user other => exact Or.inr (Or.inr (continued rfl same.symm))
        | post other => exact Or.inl (congrArg _ ((Key.idText_inj .post _ _ _).mp same))
        | comment other =>
            obtain rfl := (Key.idText_inj .post id other date).mp same
            exact Or.inr (Or.inl (.contents id))
    | comment id =>
        cases second with
        | user other => exact Or.inr (Or.inr (continued rfl same.symm))
        | post other =>
            obtain rfl := (Key.idText_inj .post id other date).mp same
            exact Or.inr (Or.inr (.contents id))
        | comment other => exact Or.inl (congrArg _ ((Key.idText_inj .comment _ _ _).mp same))
  · rintro (rfl | alike | alike)
    · rfl
    · exact alike.idOn_eq
    · exact alike.idOn_eq.symm

/-- A kind and an id are those of one tracker on a date. -/
theorem kind_idOn_injective (date : Date) :
    Function.Injective fun target : Target => (target.kind, target.idOn date) := by
  intro first second same
  obtain ⟨sameKind, sameId⟩ := Prod.mk.inj same
  rcases (idOn_eq_iff first second date).mp sameId with equal | alike | alike
  · exact equal
  · exact absurd sameKind alike.kind_ne
  · exact absurd sameKind.symm alike.kind_ne

end Target

namespace Event

/-! ## The trackers of an event -/

def contents (event : Event) : List Target :=
  match event.operation with
  | .createContent | .updateContent => [.post event.contentId]
  | .createComment =>
      (event.parentContentId.map Target.post).toList ++ [.comment event.contentId]
  | .updateComment => [.comment event.contentId]

/-- Two trackers that an event touches on a date have one id, where its users have roles: a new
comment has the id of its post, or a user has that of content followed by the digits of the
date. -/
inductive Confuses (event : Event) (roles : List Attribution) (date : Date) : Prop where
  | comment (operation : event.operation = .createComment)
      (parent : event.parentContentId = some event.contentId)
  | user (threefold : date.Threefold) (role : Attribution) (listed : role ∈ roles)
      (content : Target) (touched : content ∈ event.contents)
      (continues : role.userId = content.entityId ++ date.dayText)

theorem daily_of_mem_contents {event : Event} {content : Target}
    (touched : content ∈ event.contents) : content.kind.isMonthly = false := by
  cases content with
  | post | comment => rfl
  | user id => cases operation : event.operation <;> simp [contents, operation] at touched

/-- Only a new comment touches a post beside the comment. -/
theorem contents_both_iff {event : Event} {id : String} :
    (Target.post id ∈ event.contents ∧ Target.comment id ∈ event.contents) ↔
      event.operation = .createComment ∧ event.parentContentId = some id ∧
        event.contentId = id := by
  cases operation : event.operation <;> simp [contents, operation, eq_comm]

end Event

namespace Plan

variable {event : Event} {authors : Authorship} {activity : Activity} {plan : Plan} {date : Date}

/-- A plan that counts touches the trackers of its users, and after them those of the content. -/
theorem Classified.targets_eq (classified : Classified event authors activity plan)
    (supported : plan.isUnsupported = false) :
    plan.targets =
      (plan.attributions.map fun role => .user role.userId) ++ event.contents := by
  cases classified with
  | postCreated actor operation =>
      simp [Plan.postCreated, Event.contents, operation, targets_user, targets_post]
  | postUpdated operation =>
      cases event.actor with
      | anonymous =>
          simp [Plan.postUpdated, Event.contents, operation, targets_user, targets_post]
      | user actor =>
          by_cases own : actor = authors.contentOwner
          · simp [Plan.postUpdated, own, Event.contents, operation, targets_user, targets_post]
          · simp [Plan.postUpdated, own, Ne.symm own, Event.contents, operation, targets_user,
              targets_post]
  | commentCreated actor postId postOwner operation named parent owner =>
      rw [Plan.commentCreated]
      by_cases own : actor = postOwner
      · simp [own, Event.contents, operation, parent, targets_user, targets_post, targets_comment]
      · simp [own, Ne.symm own, Event.contents, operation, parent, targets_user, targets_post,
          targets_comment]
  | commentUpdated actor postOwner operation =>
      rw [Plan.commentUpdated] at supported ⊢
      split at supported
      · cases supported
      · rename_i foreign
        have other : authors.contentOwner ≠ actor := fun same => foreign (Or.inl same.symm)
        simp [foreign, other, Event.contents, operation, targets_user, targets_comment]

theorem Classified.mem_targets_iff (classified : Classified event authors activity plan)
    (supported : plan.isUnsupported = false) (target : Target) :
    target ∈ plan.targets ↔
      (∃ role ∈ plan.attributions, target = .user role.userId) ∨ target ∈ event.contents := by
  simp [classified.targets_eq supported, eq_comm]

theorem Classified.exists_alike_iff (classified : Classified event authors activity plan)
    (supported : plan.isUnsupported = false) :
    (∃ first ∈ plan.targets, ∃ second ∈ plan.targets, Target.Alike date first second) ↔
      event.Confuses plan.attributions date := by
  have touches := classified.mem_targets_iff supported
  constructor
  · rintro ⟨first, listed, second, listedToo, alike⟩
    cases alike with
    | contents id =>
        have post := ((touches _).mp listed).resolve_left (by simp)
        have comment := ((touches _).mp listedToo).resolve_left (by simp)
        obtain ⟨operation, parent, rfl⟩ := Event.contents_both_iff.mp ⟨post, comment⟩
        exact .comment operation parent
    | user _ daily threefold =>
        obtain ⟨role, played, same⟩ := ((touches _).mp listed).resolve_right
          fun touched => by cases Event.daily_of_mem_contents touched
        refine .user threefold role played second (((touches _).mp listedToo).resolve_left ?_)
          (Target.user.inj same).symm
        rintro ⟨other, _, rfl⟩
        cases daily
  · intro confuses
    cases confuses with
    | comment operation parent =>
        obtain ⟨post, comment⟩ := Event.contents_both_iff.mpr ⟨operation, parent, rfl⟩
        exact ⟨_, (touches _).mpr (Or.inr post), _, (touches _).mpr (Or.inr comment), .contents _⟩
    | user threefold role listed content touched continues =>
        have ofUser := (touches _).mpr (Or.inl ⟨role, listed, rfl⟩)
        have ofContent := (touches _).mpr (Or.inr touched)
        refine ⟨_, ofUser, _, ofContent, ?_⟩
        rw [continues]
        exact .user content (Event.daily_of_mem_contents touched) threefold

def idsOn (plan : Plan) (date : Date) : List String :=
  plan.targets.map fun target => target.idOn date

/-- Trackers of a plan have one id exactly if the event confuses them. -/
theorem Classified.nodup_idsOn_iff (classified : Classified event authors activity plan)
    (distinct : plan.targets.Nodup) (supported : plan.isUnsupported = false) :
    (plan.idsOn date).Nodup ↔ ¬ event.Confuses plan.attributions date := by
  rw [idsOn, List.nodup_map_iff_inj_on distinct, ← classified.exists_alike_iff supported]
  constructor
  · rintro apart ⟨first, listed, second, listedToo, alike⟩
    exact alike.kind_ne (congrArg _ (apart first listed second listedToo alike.idOn_eq))
  · intro never first listed second listedToo same
    rcases (Target.idOn_eq_iff first second date).mp same with equal | alike | alike
    · exact equal
    · exact absurd ⟨first, listed, second, listedToo, alike⟩ never
    · exact absurd ⟨second, listedToo, first, listed, alike⟩ never

/-- What the ids say that are reported of the trackers of a plan. -/
structure Reported (plan : Plan) (event : Event) (date : Date) (ids : List String) : Prop where
  /-- They are ids of the plan's trackers, in the order of the commits. -/
  listed : ids.Sublist (plan.idsOn date)
  /-- A kind and an id are those of one tracker. -/
  kinds : (plan.targets.map fun target => (target.kind, target.idOn date)).Nodup
  /-- All trackers have ids of their own unless the event confuses two of them. -/
  nodup_iff : (plan.idsOn date).Nodup ↔ ¬ event.Confuses plan.attributions date
  /-- Then every id is that of one tracker. -/
  unique : ¬ event.Confuses plan.attributions date →
    ∀ id ∈ ids, ∃! target, target ∈ plan.targets ∧ target.idOn date = id

theorem Classified.reported (classified : Classified event authors activity plan)
    (distinct : plan.targets.Nodup) (supported : plan.isUnsupported = false) {ids : List String}
    (listed : ids.Sublist (plan.idsOn date)) : plan.Reported event date ids := by
  have nodup : (plan.idsOn date).Nodup ↔ ¬ event.Confuses plan.attributions date :=
    classified.nodup_idsOn_iff distinct supported
  refine ⟨listed, distinct.map (Target.kind_idOn_injective date), nodup, ?_⟩
  intro apart id member
  obtain ⟨target, touched, rfl⟩ := List.mem_map.mp (listed.subset member)
  refine ⟨target, ⟨touched, rfl⟩, ?_⟩
  rintro other ⟨otherTouched, same⟩
  exact List.inj_on_of_nodup_map (nodup.mpr apart) otherTouched touched same

end Plan

namespace Record

/-! ## The reports of a recording -/

variable {directory : Directory} {event : Event} {date : Date} {plan : Plan} {error : Error}
  {shares : List Share}

theorem ids_shareOf (plan : Plan) (date : Date) :
    ((plan.trackers.map (shareOf plan date)).map fun share => share.key.id) = plan.idsOn date := by
  simp only [Plan.idsOn, Plan.targets, List.map_map]
  rfl

/-- The checks of an event refuse it for a reason of a store only where the directory does. -/
theorem authorship_of_prepare (refused : prepare directory event date = .error error)
    (storage : error.isStorage = true) : authorship directory event = .error error := by
  have notApart {α : Type} {answer : Except Error α} (apart : Apart answer) :
      answer ≠ .error error :=
    fun failed => by cases storage.symm.trans (apart error failed)
  rcases Answer.bind_eq_error_iff.mp refused with invalid | ⟨_, _, refused⟩
  · exact absurd invalid (notApart event.apart_validate)
  rcases Answer.bind_eq_error_iff.mp refused with unnamed | ⟨authors, _, refused⟩
  · exact unnamed
  rcases Answer.bind_eq_error_iff.mp refused with unplanned | ⟨plan, _, refused⟩
  · exact absurd unplanned (notApart (Plan.apart_ofEvent event authors))
  split at refused
  · cases refused
  · rcases Answer.bind_eq_error_iff.mp refused with unshared | ⟨_, _, made⟩
    · obtain ⟨template, _, unfit⟩ := Answer.exists_of_mapM_eq_error unshared
      exact absurd unfit (notApart (apart_share plan date template))
    · cases made

theorem postedIds_sublist (shares : List Share) :
    (postedIds shares).Sublist (shares.map fun share => share.key.id) :=
  List.filter_sublist.map _

/-- The tracker at which a commit stops is one of the shares, and comes after those that were
committed. -/
theorem Stop.listed {share : Share} {applied : List String} {done : List StoreCall}
    {call : StoreCall} (stop : Stop shares share applied done call) :
    (applied ++ [share.key.id]).Sublist (shares.map fun share => share.key.id) := by
  cases stop with
  | opening before share later split =>
      rw [split, List.nil_append, List.singleton_sublist]
      exact List.mem_map_of_mem (by simp)
  | posting before share later split =>
      rw [split, List.map_append, List.map_cons]
      exact (postedIds_sublist before).append (List.cons_sublist_cons.mpr (List.nil_sublist _))

/-- An event that is handed over to be committed has ids to report. -/
theorem reported_of_counted (prepared : prepare directory event date = .ok (.counted plan shares))
    {ids : List String} (listed : ids.Sublist (shares.map fun share => share.key.id)) :
    planOf directory event = .ok plan ∧ plan.Reported event date ids := by
  obtain ⟨_, planned, supported, _⟩ := prepare_eq_counted_iff.mp prepared
  obtain ⟨_, sound, _, rfl⟩ := prepare_eq_counted prepared
  obtain ⟨_, _, made⟩ := Answer.bind_eq_ok_iff.mp planned
  obtain ⟨_, _, classified⟩ := Plan.ofEvent_eq_ok_iff.mp made
  rw [ids_shareOf] at listed
  exact ⟨planned, classified.reported sound.distinct supported listed⟩

/-- What the ids of a recording say, where it succeeds and where it fails at a tracker.  An error
that names a tracker may also be that of a directory, which is passed on as it is. -/
theorem reported_record {σ : Type} (store : Store σ) (directory : Directory) (event : Event)
    (date : Date) (state : σ) :
    (∀ outcome, (record store directory event date state).1 = .ok outcome →
      outcome.rejected = false →
        ∃ plan, planOf directory event = .ok plan ∧ outcome.attributions = plan.attributions ∧
          outcome.keys = plan.idsOn date ∧ plan.Reported event date outcome.applied) ∧
    ∀ id reason applied, (record store directory event date state).1 =
      .error (.storage id reason applied) →
        authorship directory event = .error (.storage id reason applied) ∨
        ∃ plan, planOf directory event = .ok plan ∧
          plan.Reported event date (applied ++ [id]) := by
  cases prepared : prepare directory event date with
  | error error =>
      constructor
      · intro outcome recorded
        simp [record, prepared] at recorded
      · intro id reason applied recorded
        simp only [record, prepared, Except.error.injEq] at recorded
        rw [recorded] at prepared
        exact Or.inl (authorship_of_prepare prepared rfl)
  | ok checked =>
      cases checked with
      | uncounted attributions =>
          constructor
          · intro outcome recorded counted
            simp only [record, prepared, Except.ok.injEq] at recorded
            rw [← recorded] at counted
            cases counted
          · intro id reason applied recorded
            simp [record, prepared] at recorded
      | counted plan shares =>
          obtain ⟨answer, course, recorded⟩ := record_of_counted prepared store state
          rw [recorded]
          constructor
          · intro outcome succeeded _
            generalize calls store directory event date state = made at course
            cases course with
            | stopped => cases succeeded
            | finished =>
                cases succeeded
                obtain ⟨planned, reported⟩ :=
                  reported_of_counted prepared (postedIds_sublist shares)
                obtain ⟨_, _, _, rfl⟩ := prepare_eq_counted prepared
                exact ⟨plan, planned, rfl, ids_shareOf plan date, reported⟩
          · intro id reason applied failed
            generalize calls store directory event date state = made at course
            cases course with
            | finished => cases failed
            | stopped stop =>
                obtain ⟨rfl, rfl⟩ := of_located_eq_storage (Except.error.inj failed)
                obtain ⟨planned, reported⟩ := reported_of_counted prepared stop.listed
                exact Or.inr ⟨plan, planned, reported⟩

theorem not_confuses_smallVote (roles : List Attribution) :
    ¬ smallVote.Confuses roles lateFebruary := by
  intro confuses
  cases confuses with
  | comment operation => cases operation
  | user threefold => exact absurd threefold (by decide)

theorem reported_record_smallVote :
    (∃ plan, planOf Memory.smallDirectory smallVote = .ok plan ∧
      ∀ id ∈ ["bo2402", "ana2402", "p1240228"],
        ∃! target, target ∈ plan.targets ∧ target.idOn lateFebruary = id) ∧
    ∃ plan, planOf Memory.smallDirectory smallVote = .ok plan ∧
      ∀ id ∈ ["bo2402", "ana2402"],
        ∃! target, target ∈ plan.targets ∧ target.idOn lateFebruary = id := by
  constructor
  · obtain ⟨plan, planned, _, _, reported⟩ :=
      (reported_record Memory.store Memory.smallDirectory smallVote lateFebruary
        Memory.empty).1 _ rfl rfl
    exact ⟨plan, planned, reported.unique (not_confuses_smallVote _)⟩
  · have failed := (reported_record
      (Memory.store.withFaults [⟨.increment, "ana", .database "disk full"⟩])
      Memory.smallDirectory smallVote lateFebruary Memory.empty).2 "ana2402" "disk full"
        ["bo2402"] rfl
    obtain ⟨plan, planned, reported⟩ := failed.resolve_left nofun
    exact ⟨plan, planned, reported.unique (not_confuses_smallVote _)⟩

/-- A date of which year, month and day are written with the same digits. -/
def tenthOfOctober : Date :=
  ⟨2010, 10, 10, by decide, by decide, by decide, by decide, by decide, by decide⟩

/-- An id is reported twice for a comment with the id of its post, and for a user and a post on
such a date.  The error of a directory is given for an event that has no plan yet. -/
theorem ids_repeat :
    (∃ outcome, (record Memory.store Memory.smallDirectory (.createComment "bo" "p1" "p1")
        lateFebruary Memory.empty).1 = .ok outcome ∧ outcome.rejected = false ∧
          outcome.keys = ["bo2402", "ana2402", "p1240228", "p1240228"] ∧ ¬ outcome.keys.Nodup) ∧
    (∃ outcome, (record Memory.store Memory.smallDirectory (.updatePost (.user "p10") "ana" "p")
        tenthOfOctober Memory.empty).1 = .ok outcome ∧ outcome.rejected = false ∧
          outcome.keys = ["p101010", "ana1010", "p101010"] ∧ ¬ outcome.keys.Nodup) ∧
    ((record Memory.store Memory.brokenDirectory (.createComment "bo" "c1" "p1")
        lateFebruary Memory.empty).1 = .error (.storage "authors" "directory down" []) ∧
      ∀ plan, planOf Memory.brokenDirectory (.createComment "bo" "c1" "p1") ≠ .ok plan) :=
  ⟨⟨_, rfl, rfl, rfl, by decide⟩, ⟨_, rfl, rfl, rfl, by decide⟩, rfl, fun _ => nofun⟩

end Record

end ActivityLedger

import ActivityLedger.Proofs.Keys
import ActivityLedger.Proofs.Quadrants

/-!
# The groups of a plan

The updates of a plan fall into one group for each of its trackers, in the order of the
trackers.  No update is left out, none is in two groups, and each group makes a batch with
one column for each update.
-/

namespace ActivityLedger

namespace Plan

/-- The updates of a plan are those for its first tracker, then those for its second, and so on. -/
structure Grouped (plan : Plan) : Prop where
  covered : ∀ update ∈ plan.updates, update.target ∈ plan.targets
  inOrder : (plan.trackers.flatMap fun template => plan.updatesFor template.target) = plan.updates

namespace Grouped

variable {plan : Plan}

theorem empty : Plan.empty.Grouped where
  covered := by simp [Plan.empty]
  inOrder := rfl

theorem assign (grouped : plan.Grouped) (userId : String) (quadrant : Quadrant) :
    (plan.assign userId quadrant).Grouped where
  covered := grouped.covered
  inOrder := grouped.inOrder

/-- A new tracker may be added to a plan with updates for it. -/
theorem extend (grouped : plan.Grouped) (template : Template)
    (fresh : template.target ∉ plan.targets) {updates : List Update}
    (addressed : ∀ update ∈ updates, update.target = template.target) :
    ((plan.track template).apply updates).Grouped := by
  have trackers : ((plan.track template).apply updates).trackers = plan.trackers ++ [template] :=
    Sound.trackers_track fresh
  obtain ⟨new, added, forNew⟩ : ∃ new, ((plan.track template).apply updates).updates =
      plan.updates ++ new ∧ ∀ update ∈ new, update.target = template.target := by
    refine ⟨updates.filter fun update => update.delta ≠ Amount.zero, by simp [apply], ?_⟩
    intro update member
    exact addressed update (List.mem_of_mem_filter member)
  constructor
  case covered =>
    intro update member
    rw [added] at member
    rw [targets, trackers, List.map_append]
    rcases List.mem_append.mp member with before | later
    · exact List.mem_append_left _ (grouped.covered update before)
    · exact List.mem_append_right _ (by simp [forNew update later])
  case inOrder =>
    have earlier : ∀ other ∈ plan.trackers,
        (plan.updates ++ new).filter (fun update => update.target = other.target) =
          plan.updatesFor other.target := by
      intro other member
      have none : new.filter (fun update => update.target = other.target) = [] := by
        rw [List.filter_eq_nil_iff]
        intro update later same
        have target : template.target = other.target := by simpa [forNew update later] using same
        exact fresh (List.mem_map.mpr ⟨other, member, target.symm⟩)
      rw [List.filter_append, none, List.append_nil, updatesFor]
    have last : (plan.updates ++ new).filter (fun update => update.target = template.target) =
        new := by
      have none : plan.updates.filter (fun update => update.target = template.target) = [] := by
        rw [List.filter_eq_nil_iff]
        intro update before same
        have target : update.target = template.target := by simpa using same
        exact fresh (target ▸ grouped.covered update before)
      have all : new.filter (fun update => update.target = template.target) = new :=
        List.filter_eq_self.mpr fun update later => by simp [forNew update later]
      rw [List.filter_append, none, all, List.nil_append]
    simp only [updatesFor, trackers, added, List.flatMap_append, List.flatMap_singleton, last]
    rw [List.flatMap_congr earlier, grouped.inOrder]

/-- Plans of new trackers have their updates in groups. -/
theorem of_staged (staged : plan.Staged) : plan.Grouped := by
  induction staged with
  | empty => exact .empty
  | uncounted userId => exact Grouped.empty.assign userId .unsupported
  | @user plan before userId quadrant counters fresh counted counts grouped =>
      exact (grouped.assign userId quadrant).extend (.user userId) fresh
        (List.forall_mem_map.mpr fun _ _ => rfl)
  | @post plan before postId authorId counters fresh grouped =>
      exact grouped.extend (.post postId authorId) fresh (List.forall_mem_map.mpr fun _ _ => rfl)
  | @comment plan before commentId authorId counters fresh grouped =>
      exact grouped.extend (.comment commentId authorId) fresh
        (List.forall_mem_map.mpr fun _ _ => rfl)

end Grouped

/-! ## Batches of the groups -/

/-- The updates of a plan are above zero, different, and fall into a group for each tracker.  A
tracker has a key on each day of the century, unless its entity has no name, and its group makes
a batch for the key that has a column for each update. -/
structure Partitioned (plan : Plan) : Prop where
  positive : ∀ update ∈ plan.updates, 0 < update.delta.val
  single : plan.updates.Pairwise fun left right =>
    ¬ (left.target = right.target ∧ left.counter = right.counter)
  distinct : (plan.trackers.map Template.target).Nodup
  covered : ∀ update ∈ plan.updates, ∃ template ∈ plan.trackers, template.target = update.target
  inOrder : (plan.trackers.flatMap fun template => plan.updatesFor template.target) = plan.updates
  keyed : ∀ template ∈ plan.trackers, ∀ date : Date, date.HasCompact →
    ((∃ key, Key.build template.kind template.entityId date = .ok key) ↔ template.entityId ≠ "")
  batched : ∀ template ∈ plan.trackers, ∀ date key,
    Key.build template.kind template.entityId date = .ok key →
      ∃ batch, Batch.ofUpdates key (plan.updatesFor template.target) = .ok batch ∧
        batch.columns.length = (plan.updatesFor template.target).length

/-- The updates for an entity make a batch for its key, with a column for each of them. -/
theorem Sound.exists_batch {plan : Plan} (sound : plan.Sound) {target : Target} {key : Key}
    (kind : key.kind = target.kind) (entity : key.entityId = target.entityId) :
    ∃ batch, Batch.ofUpdates key (plan.updatesFor target) = .ok batch ∧
      batch.columns.length = (plan.updatesFor target).length := by
  have listed {update : Update} (member : update ∈ plan.updatesFor target) :
      update ∈ plan.updates ∧ update.target = target := by
    simpa [updatesFor] using member
  have addressed : ∀ update ∈ plan.updatesFor target,
      update.target.kind = key.kind ∧ update.target.entityId = key.entityId := by
    intro update member
    rw [(listed member).2]
    exact ⟨kind.symm, entity.symm⟩
  have kinds : ∀ update ∈ plan.updatesFor target, update.counter.kind = key.kind := by
    intro update member
    rw [sound.kinds update (listed member).1, (addressed update member).1]
  have single : (plan.updatesFor target).Pairwise fun left right =>
      left.counter ≠ right.counter := by
    refine List.Pairwise.imp_of_mem ?_ (sound.single.filter _)
    intro left right isLeft isRight different
    exact different ((listed isLeft).2.trans (listed isRight).2.symm)
  obtain ⟨batch, made⟩ := Batch.exists_ofUpdates addressed single
  exact ⟨batch, made, Batch.length_columns_of_ofUpdates made kinds (List.pairwise_map.mpr single)⟩

/-- The groups of every plan of the classification are a partition of its updates. -/
theorem partitioned_ofEvent {event : Event} {authors : Authorship} {plan : Plan}
    (made : ofEvent event authors = .ok plan) : plan.Partitioned := by
  have sound := sound_ofEvent made
  obtain ⟨activity, _, classified⟩ := ofEvent_eq_ok_iff.mp made
  have grouped := Grouped.of_staged classified.staged
  constructor
  case positive => exact sound.positive
  case single =>
    refine sound.single.imp ?_
    rintro left right different ⟨sameTarget, sameCounter⟩
    exact different sameTarget sameCounter
  case distinct => exact sound.distinct
  case covered =>
    intro update listed
    exact List.mem_map.mp (sound.covered update listed)
  case inOrder => exact grouped.inOrder
  case keyed =>
    intro template _ date compact
    simp [Key.build_eq_ok_iff, compact]
  case batched =>
    intro template _ date key built
    obtain ⟨_, rfl⟩ := Key.build_eq_ok_iff.mp built
    exact sound.exists_batch rfl rfl

theorem partitioned_ofEvent_commentWithVote :
    ∃ plan, ofEvent commentWithVote ⟨"bo", some "ana"⟩ = .ok plan ∧ plan.Partitioned := by
  obtain ⟨plan, made⟩ : ∃ plan, ofEvent commentWithVote ⟨"bo", some "ana"⟩ = .ok plan := ⟨_, rfl⟩
  exact ⟨plan, made, partitioned_ofEvent made⟩

end Plan

end ActivityLedger

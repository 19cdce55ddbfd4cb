import ActivityLedger.Proofs.Answers
import ActivityLedger.Proofs.Counters

/-!
# What a batch holds

The amount of a batch for a counter is the sum of the updates that name it, in the
integers, and the counters that it lists are those that are named.  Updates that are
addressed to the key and name no counter twice always make a batch.
-/

namespace ActivityLedger

/-- The sum of the updates in a list that name one counter. -/
def updatesTotal (updates : List Update) (counter : Counter) : Int :=
  ((updates.filter fun update => update.counter = counter).map fun update =>
    update.delta.val).sum

@[simp] theorem updatesTotal_nil (counter : Counter) : updatesTotal [] counter = 0 := rfl

theorem updatesTotal_cons (update : Update) (rest : List Update) (counter : Counter) :
    updatesTotal (update :: rest) counter =
      (if update.counter = counter then update.delta.val else 0) + updatesTotal rest counter := by
  by_cases named : update.counter = counter <;> simp [updatesTotal, named]

theorem updatesTotal_eq_zero {updates : List Update} {counter : Counter}
    (unnamed : ∀ update ∈ updates, update.counter ≠ counter) : updatesTotal updates counter = 0 := by
  have none : (updates.filter fun update => update.counter = counter) = [] :=
    List.filter_eq_nil_iff.mpr fun update member => by simpa using unnamed update member
  simp [updatesTotal, none]

theorem updatesTotal_nonneg {updates : List Update}
    (natural : ∀ update ∈ updates, 0 ≤ update.delta.val) (counter : Counter) :
    0 ≤ updatesTotal updates counter := by
  induction updates with
  | nil => simp
  | cons update rest ih =>
      obtain ⟨first, others⟩ := List.forall_mem_cons.mp natural
      have later := ih others
      rw [updatesTotal_cons]
      split <;> omega

theorem updatesTotal_append (first second : List Update) (counter : Counter) :
    updatesTotal (first ++ second) counter =
      updatesTotal first counter + updatesTotal second counter := by
  simp [updatesTotal]

/-- An update above zero makes the sum for its counter one. -/
theorem updatesTotal_pos {updates : List Update} (natural : ∀ update ∈ updates, 0 ≤ update.delta.val)
    {update : Update} (listed : update ∈ updates) (positive : 0 < update.delta.val) :
    0 < updatesTotal updates update.counter := by
  obtain ⟨before, after, rfl⟩ := List.append_of_mem listed
  obtain ⟨naturalBefore, naturalRest⟩ := List.forall_mem_append.mp natural
  have first := updatesTotal_nonneg naturalBefore update.counter
  have last := updatesTotal_nonneg (List.forall_mem_cons.mp naturalRest).2 update.counter
  rw [updatesTotal_append, updatesTotal_cons, if_pos rfl]
  omega

/-- The integer that an amount stands for, where a missing one stands for nothing. -/
def amountOr : Option Amount → Int
  | some amount => amount.val
  | none => 0

@[simp] theorem amountOr_none : amountOr none = 0 := rfl

@[simp] theorem amountOr_some (amount : Amount) : amountOr (some amount) = amount.val := rfl

theorem Amount.fits_amountOr (amount : Option Amount) : Fits (amountOr amount) := by
  cases amount with
  | none => exact ⟨.zero, rfl⟩
  | some amount => exact ⟨amount, rfl⟩

namespace Deltas

variable {κ : Type} [Vocabulary κ]

theorem mem_toList_iff (deltas : Deltas κ) (counter : κ) (amount : Amount) :
    (counter, amount) ∈ deltas.toList ↔ deltas.get counter = some amount := by
  simp only [toList, Columns.toList, List.mem_filterMap, List.mem_map]
  constructor
  · rintro ⟨entry, ⟨named, _, rfl⟩, found⟩
    obtain ⟨sum, here, same⟩ := Option.map_eq_some_iff.mp found
    cases same
    exact here
  · intro named
    exact ⟨(counter, some amount), ⟨counter, Vocabulary.mem_all counter, by rw [named]⟩, rfl⟩

theorem nodup_toList (deltas : Deltas κ) : (deltas.toList.map Prod.fst).Nodup := by
  have every : (Vocabulary.all κ).Nodup := by
    refine List.Nodup.map ?_ (List.nodup_finRange _)
    intro left right same
    rw [← Vocabulary.position_member left, same, Vocabulary.position_member]
  have listed : (deltas.toList.map Prod.fst).Sublist (Vocabulary.all κ) := by
    simp only [toList, Columns.toList, List.map_filterMap, List.filterMap_map]
    induction Vocabulary.all κ with
    | nil => exact .slnil
    | cons counter rest ih =>
        cases named : deltas.get counter with
        | none => simpa [named] using ih.cons counter
        | some amount => simpa [named] using ih.cons_cons counter
  exact every.sublist listed

theorem amountIn_toList [DecidableEq κ] (deltas : Deltas κ) (counter : κ) :
    amountIn deltas.toList counter = amountOr (deltas.get counter) := by
  cases named : deltas.get counter with
  | none =>
      refine amountIn_eq_zero ?_
      rintro ⟨other, amount⟩ member rfl
      rw [(deltas.mem_toList_iff other amount).mp member] at named
      cases named
  | some amount =>
      exact amountIn_of_mem deltas.nodup_toList ((deltas.mem_toList_iff counter amount).mpr named)

/-- A merge names its counter and adds to the amount it had. -/
theorem amountOr_get_of_merge [DecidableEq κ] {deltas next : Deltas κ} {counter : κ}
    {delta : Amount} (merged : deltas.merge counter delta = .ok next) (other : κ) :
    amountOr (next.get other) =
      amountOr (deltas.get other) + if counter = other then delta.val else 0 := by
  unfold merge at merged
  split at merged
  · rename_i sum fits
    cases merged
    by_cases same : counter = other
    · subst same
      have total := Bounded.add?_eq_some_iff.mp fits
      cases named : deltas.get counter <;> simp_all
    · simp [Columns.get_set_of_ne same, same]
  · cases merged

theorem merge_of_get_eq_none {deltas : Deltas κ} {counter : κ} (delta : Amount)
    (unnamed : deltas.get counter = none) :
    deltas.merge counter delta = .ok (deltas.set counter (some delta)) := by
  have fits : Amount.zero.add? delta = some delta :=
    Bounded.add?_eq_some_iff.mpr (by simp)
  simp [merge, unnamed, fits]

end Deltas

namespace Merge

def amount? (merge : Merge) : Counter → Option Amount
  | .user counter => merge.user.get counter
  | .post counter => merge.post.get counter
  | .comment counter => merge.comment.get counter

@[simp] theorem amount?_empty (counter : Counter) : empty.amount? counter = none := by
  cases counter <;> simp [amount?, empty]

theorem amountOr_of_add {merge next : Merge} {counter : Counter} {delta : Amount}
    (added : merge.add counter delta = .ok next) (other : Counter) :
    amountOr (next.amount? other) =
      amountOr (merge.amount? other) + if counter = other then delta.val else 0 := by
  cases counter with
  | user counter =>
      obtain ⟨deltas, merged, rfl⟩ := Answer.map_eq_ok_iff.mp added
      cases other <;> simp [amount?, Deltas.amountOr_get_of_merge merged]
  | post counter =>
      obtain ⟨deltas, merged, rfl⟩ := Answer.map_eq_ok_iff.mp added
      cases other <;> simp [amount?, Deltas.amountOr_get_of_merge merged]
  | comment counter =>
      obtain ⟨deltas, merged, rfl⟩ := Answer.map_eq_ok_iff.mp added
      cases other <;> simp [amount?, Deltas.amountOr_get_of_merge merged]

/-- The first amount for a counter is always added, and no other counter becomes named. -/
theorem exists_add_of_amount?_eq_none {merge : Merge} {counter : Counter} (delta : Amount)
    (unnamed : merge.amount? counter = none) :
    ∃ next, merge.add counter delta = .ok next ∧
      ∀ other, other ≠ counter → next.amount? other = merge.amount? other := by
  cases counter with
  | user counter =>
      refine ⟨_, by rw [add, Deltas.merge_of_get_eq_none delta unnamed]; rfl, ?_⟩
      intro other different
      cases other with
      | user other => exact Columns.get_set_of_ne fun same => different (by rw [same])
      | post other => rfl
      | comment other => rfl
  | post counter =>
      refine ⟨_, by rw [add, Deltas.merge_of_get_eq_none delta unnamed]; rfl, ?_⟩
      intro other different
      cases other with
      | user other => rfl
      | post other => exact Columns.get_set_of_ne fun same => different (by rw [same])
      | comment other => rfl
  | comment counter =>
      refine ⟨_, by rw [add, Deltas.merge_of_get_eq_none delta unnamed]; rfl, ?_⟩
      intro other different
      cases other with
      | user other => rfl
      | post other => rfl
      | comment other => exact Columns.get_set_of_ne fun same => different (by rw [same])

theorem take_eq_ok_iff {key : Key} {merge next : Merge} {update : Update} :
    merge.take key update = .ok next ↔
      (update.target.kind = key.kind ∧ update.target.entityId = key.entityId) ∧
        merge.add update.counter update.delta = .ok next := by
  unfold take
  split
  · rename_i addressed
    simp [addressed]
  · rename_i foreign
    simp [foreign]

/-- Updates that are all taken move every amount by their sum. -/
theorem amountOr_of_takeAll {key : Key} {merge next : Merge} {updates : List Update}
    (taken : merge.takeAll key updates = .ok next) (counter : Counter) :
    amountOr (next.amount? counter) =
      amountOr (merge.amount? counter) + updatesTotal updates counter := by
  induction updates generalizing merge with
  | nil =>
      cases taken
      simp
  | cons update rest ih =>
      rw [takeAll] at taken
      cases step : merge.take key update with
      | error cause =>
          rw [step] at taken
          cases taken
      | ok middle =>
          rw [step] at taken
          rw [ih taken, amountOr_of_add (take_eq_ok_iff.mp step).2, updatesTotal_cons,
            Int.add_assoc]

/-- Updates for the key that name no counter twice are all taken. -/
theorem exists_takeAll {key : Key} {updates : List Update}
    (addressed : ∀ update ∈ updates,
      update.target.kind = key.kind ∧ update.target.entityId = key.entityId)
    (single : updates.Pairwise fun left right => left.counter ≠ right.counter)
    (merge : Merge) (unnamed : ∀ update ∈ updates, merge.amount? update.counter = none) :
    ∃ next, merge.takeAll key updates = .ok next := by
  induction updates generalizing merge with
  | nil => exact ⟨merge, rfl⟩
  | cons update rest ih =>
      obtain ⟨distinct, singleRest⟩ := List.pairwise_cons.mp single
      obtain ⟨middle, added, kept⟩ := exists_add_of_amount?_eq_none update.delta
        (unnamed update List.mem_cons_self)
      have taken : merge.take key update = .ok middle :=
        take_eq_ok_iff.mpr ⟨addressed update List.mem_cons_self, added⟩
      have later : ∀ other ∈ rest, middle.amount? other.counter = none := by
        intro other member
        rw [kept other.counter (distinct other member).symm]
        exact unnamed other (List.mem_cons_of_mem _ member)
      obtain ⟨next, takenRest⟩ := ih
        (fun other member => addressed other (List.mem_cons_of_mem _ member)) singleRest middle
        later
      exact ⟨next, by rw [takeAll, taken]; exact takenRest⟩

end Merge

/-! ## Batches by their kind -/

namespace Counter

def of : (kind : TrackerKind) → kind.Counted → Counter
  | .user, counter => .user counter
  | .post, counter => .post counter
  | .comment, counter => .comment counter

theorem of_injective (kind : TrackerKind) : Function.Injective (of kind) := by
  intro left right same
  cases kind <;> cases same <;> rfl

theorem kind_eq_iff {counter : Counter} {kind : TrackerKind} :
    counter.kind = kind ↔ ∃ named, of kind named = counter := by
  constructor
  · rintro rfl
    cases counter <;> exact ⟨_, rfl⟩
  · rintro ⟨named, rfl⟩
    cases kind <;> rfl

end Counter

namespace Batch

def of : (kind : TrackerKind) → Deltas kind.Counted → Batch
  | .user, deltas => .user deltas
  | .post, deltas => .post deltas
  | .comment, deltas => .comment deltas

theorem exists_of (batch : Batch) : ∃ kind deltas, of kind deltas = batch := by
  cases batch with
  | user deltas => exact ⟨.user, deltas, rfl⟩
  | post deltas => exact ⟨.post, deltas, rfl⟩
  | comment deltas => exact ⟨.comment, deltas, rfl⟩

@[simp] theorem kind_of (kind : TrackerKind) (deltas : Deltas kind.Counted) :
    (of kind deltas).kind = kind := by
  cases kind <;> rfl

theorem kind_eq_iff {batch : Batch} {kind : TrackerKind} :
    batch.kind = kind ↔ ∃ deltas, of kind deltas = batch := by
  constructor
  · rintro rfl
    cases batch <;> exact ⟨_, rfl⟩
  · rintro ⟨deltas, rfl⟩
    exact kind_of kind deltas

theorem eq_user_or_content (batch : Batch) :
    (∃ deltas, batch = .user deltas) ∨
      ∃ (kind : ContentKind) (deltas : _), batch = of kind.tracker deltas := by
  cases batch with
  | user deltas => exact Or.inl ⟨deltas, rfl⟩
  | post deltas => exact Or.inr ⟨.post, deltas, rfl⟩
  | comment deltas => exact Or.inr ⟨.comment, deltas, rfl⟩

theorem counters_of (kind : TrackerKind) (deltas : Deltas kind.Counted) :
    (of kind deltas).counters = deltas.toList.map fun entry => (.of kind entry.1, entry.2) := by
  cases kind <;> rfl

theorem isEmpty_of (kind : TrackerKind) (deltas : Deltas kind.Counted) :
    (of kind deltas).isEmpty = deltas.toList.isEmpty := by
  simp [isEmpty, columns, counters_of]

/-- The amount of a batch for a counter, which is nothing where the counter is not named. -/
def amount : Batch → Counter → Int
  | .user deltas, .user counter => amountOr (deltas.get counter)
  | .post deltas, .post counter => amountOr (deltas.get counter)
  | .comment deltas, .comment counter => amountOr (deltas.get counter)
  | _, _ => 0

theorem amount_of (kind : TrackerKind) (deltas : Deltas kind.Counted) (counter : kind.Counted) :
    (of kind deltas).amount (.of kind counter) = amountOr (deltas.get counter) := by
  cases kind <;> rfl

theorem amount_of_ne {batch : Batch} {counter : Counter} (foreign : counter.kind ≠ batch.kind) :
    batch.amount counter = 0 := by
  cases batch <;> cases counter <;> first | rfl | exact absurd rfl foreign

theorem kind_of_ofUpdates {key : Key} {updates : List Update} {batch : Batch}
    (made : ofUpdates key updates = .ok batch) : batch.kind = key.kind := by
  obtain ⟨merge, _, rfl⟩ := Answer.map_eq_ok_iff.mp made
  cases key.kind <;> rfl

/-- The amount of a batch for a counter of its key's kind is the sum of the updates. -/
theorem amount_of_ofUpdates {key : Key} {updates : List Update} {batch : Batch}
    (made : ofUpdates key updates = .ok batch) {counter : Counter}
    (isKind : counter.kind = key.kind) : batch.amount counter = updatesTotal updates counter := by
  obtain ⟨merge, taken, rfl⟩ := Answer.map_eq_ok_iff.mp made
  have total := Merge.amountOr_of_takeAll taken counter
  rw [Merge.amount?_empty, amountOr_none, Int.zero_add] at total
  rw [← total, ← isKind]
  cases counter <;> rfl

theorem nonneg_of_ofUpdates {key : Key} {updates : List Update} {batch : Batch}
    (made : ofUpdates key updates = .ok batch) (natural : ∀ update ∈ updates, 0 ≤ update.delta.val)
    (counter : Counter) (isKind : counter.kind = key.kind) : 0 ≤ batch.amount counter := by
  rw [amount_of_ofUpdates made isKind]
  exact updatesTotal_nonneg natural counter

theorem addressed_of_ofUpdates {key : Key} {updates : List Update} {batch : Batch}
    (made : ofUpdates key updates = .ok batch) :
    ∀ update ∈ updates, update.target.kind = key.kind ∧ update.target.entityId = key.entityId := by
  obtain ⟨merge, taken, _⟩ := Answer.map_eq_ok_iff.mp made
  clear made
  generalize Merge.empty = start at taken
  induction updates generalizing start with
  | nil => simp
  | cons update rest ih =>
      rw [Merge.takeAll] at taken
      cases step : start.take key update with
      | error cause =>
          rw [step] at taken
          cases taken
      | ok middle =>
          rw [step] at taken
          intro other member
          rcases List.mem_cons.mp member with same | later
          · exact same ▸ (Merge.take_eq_ok_iff.mp step).1
          · exact ih middle taken other later

/-- Updates for the key that name no counter twice make a batch. -/
theorem exists_ofUpdates {key : Key} {updates : List Update}
    (addressed : ∀ update ∈ updates,
      update.target.kind = key.kind ∧ update.target.entityId = key.entityId)
    (single : updates.Pairwise fun left right => left.counter ≠ right.counter) :
    ∃ batch, ofUpdates key updates = .ok batch := by
  obtain ⟨merge, taken⟩ := Merge.exists_takeAll addressed single Merge.empty
    fun update _ => Merge.amount?_empty update.counter
  exact ⟨merge.batch key.kind, by rw [ofUpdates, taken]; rfl⟩

theorem amount_of_isEmpty {batch : Batch} (nothing : batch.isEmpty = true) (counter : Counter) :
    batch.amount counter = 0 := by
  obtain ⟨kind, deltas, rfl⟩ := batch.exists_of
  rw [isEmpty_of, List.isEmpty_iff] at nothing
  by_cases own : counter.kind = kind
  · obtain ⟨named, rfl⟩ := Counter.kind_eq_iff.mp own
    rw [amount_of, ← Deltas.amountIn_toList, nothing, amountIn_nil]
  · rw [← kind_of kind deltas] at own
    exact amount_of_ne own

/-- Updates above zero make a batch that names a counter. -/
theorem isEmpty_of_ofUpdates {key : Key} {updates : List Update} {batch : Batch}
    (made : ofUpdates key updates = .ok batch)
    (natural : ∀ update ∈ updates, 0 ≤ update.delta.val) {update : Update}
    (listed : update ∈ updates) (positive : 0 < update.delta.val)
    (isKind : update.counter.kind = key.kind) : batch.isEmpty = false := by
  refine Bool.eq_false_iff.mpr fun nothing => ?_
  have sum := amount_of_ofUpdates made isKind
  rw [amount_of_isEmpty nothing] at sum
  exact absurd (updatesTotal_pos natural listed positive) (Int.not_lt.mpr (Int.le_of_eq sum.symm))

end Batch

/-! ## The counters that a batch names -/

theorem Deltas.isSome_get_of_merge {κ : Type} [Vocabulary κ] {deltas next : Deltas κ}
    {counter : κ} {delta : Amount} (merged : deltas.merge counter delta = .ok next) (other : κ) :
    (next.get other).isSome = true ↔ (deltas.get other).isSome = true ∨ counter = other := by
  unfold merge at merged
  split at merged
  · cases merged
    by_cases same : counter = other
    · subst same
      simp
    · simp [Columns.get_set_of_ne same, same]
  · cases merged

namespace Merge

theorem isSome_amount?_of_add {merge next : Merge} {counter : Counter} {delta : Amount}
    (added : merge.add counter delta = .ok next) (other : Counter) :
    (next.amount? other).isSome = true ↔
      (merge.amount? other).isSome = true ∨ counter = other := by
  cases counter with
  | user counter =>
      obtain ⟨deltas, merged, rfl⟩ := Answer.map_eq_ok_iff.mp added
      cases other <;> simp [amount?, Deltas.isSome_get_of_merge merged]
  | post counter =>
      obtain ⟨deltas, merged, rfl⟩ := Answer.map_eq_ok_iff.mp added
      cases other <;> simp [amount?, Deltas.isSome_get_of_merge merged]
  | comment counter =>
      obtain ⟨deltas, merged, rfl⟩ := Answer.map_eq_ok_iff.mp added
      cases other <;> simp [amount?, Deltas.isSome_get_of_merge merged]

theorem isSome_amount?_of_takeAll {key : Key} {merge next : Merge} {updates : List Update}
    (taken : merge.takeAll key updates = .ok next) (counter : Counter) :
    (next.amount? counter).isSome = true ↔
      (merge.amount? counter).isSome = true ∨ counter ∈ updates.map Update.counter := by
  induction updates generalizing merge with
  | nil =>
      cases taken
      simp
  | cons update rest ih =>
      rw [takeAll] at taken
      cases step : merge.take key update with
      | error cause =>
          rw [step] at taken
          cases taken
      | ok middle =>
          rw [step] at taken
          rw [ih taken, isSome_amount?_of_add (take_eq_ok_iff.mp step).2, List.map_cons,
            List.mem_cons, or_assoc, @eq_comm _ counter]

end Merge

namespace Batch

theorem nodup_counters (batch : Batch) : (batch.counters.map Prod.fst).Nodup := by
  obtain ⟨kind, deltas, rfl⟩ := batch.exists_of
  have distinct := deltas.nodup_toList.map (Counter.of_injective kind)
  simpa [counters_of, Function.comp_def] using distinct

theorem mem_counters_iff (merge : Merge) (kind : TrackerKind) (counter : Counter) :
    counter ∈ (merge.batch kind).counters.map Prod.fst ↔
      counter.kind = kind ∧ (merge.amount? counter).isSome = true := by
  cases kind <;> cases counter <;>
    simp [Merge.batch, counters, Counter.kind, Merge.amount?, Deltas.mem_toList_iff,
      Option.isSome_iff_exists]

/-- Updates with counters of the key's kind, no two of them the same, have a column each. -/
theorem length_columns_of_ofUpdates {key : Key} {updates : List Update} {batch : Batch}
    (made : ofUpdates key updates = .ok batch)
    (kinds : ∀ update ∈ updates, update.counter.kind = key.kind)
    (single : (updates.map Update.counter).Nodup) : batch.columns.length = updates.length := by
  obtain ⟨merge, taken, rfl⟩ := Answer.map_eq_ok_iff.mp made
  have perm : ((merge.batch key.kind).counters.map Prod.fst).Perm (updates.map Update.counter) := by
    rw [List.perm_ext_iff_of_nodup (nodup_counters _) single]
    intro counter
    rw [mem_counters_iff, Merge.isSome_amount?_of_takeAll taken]
    simp only [Merge.amount?_empty, Option.isSome_none, Bool.false_eq_true, false_or]
    refine and_iff_right_of_imp fun member => ?_
    obtain ⟨update, listed, rfl⟩ := List.mem_map.mp member
    exact kinds update listed
  simpa [columns] using perm.length_eq

end Batch

end ActivityLedger

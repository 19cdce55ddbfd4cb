import ActivityLedger.Proofs.Batches
import ActivityLedger.Proofs.Days

/-!
# The meaning of merged updates

Updates are merged in the order of their list.  The first that is addressed elsewhere, or
with which the sum for its counter is no amount, decides the error.  Where all are merged,
the batch lists the counters of the key's kind that were named, each with the sum of its
amounts.  An amount for a counter of another kind is merged as well, and left out.
-/

namespace ActivityLedger

def deltasTotal (updates : List Update) : Int := (updates.map fun update => update.delta.val).sum

theorem updatesTotal_perm {updates others : List Update} (perm : updates.Perm others)
    (counter : Counter) : updatesTotal updates counter = updatesTotal others counter :=
  ((perm.filter _).map _).sum_eq

/-- Without negative amounts the sum for a counter only grows along the list. -/
theorem updatesTotal_le_of_prefix {updates before : List Update}
    (natural : ∀ update ∈ updates, 0 ≤ update.delta.val) (first : before <+: updates)
    (counter : Counter) : updatesTotal before counter ≤ updatesTotal updates counter := by
  obtain ⟨after, rfl⟩ := first
  have later := updatesTotal_nonneg (List.forall_mem_append.mp natural).2 counter
  rw [updatesTotal_append]
  omega

/-! ## The first fault -/

namespace Update

def IsFor (update : Update) (key : Key) : Prop :=
  update.target.kind = key.kind ∧ update.target.entityId = key.entityId

instance (update : Update) (key : Key) : Decidable (update.IsFor key) :=
  inferInstanceAs (Decidable (_ ∧ _))

/-- Why an update is refused after others: it is addressed elsewhere, or with it the sum for its
counter is no amount. -/
def fault? (key : Key) (before : List Update) (update : Update) : Option Error :=
  if update.IsFor key then
    if Amount.Fits (updatesTotal (before ++ [update]) update.counter) then none
    else some (.invariant (.mergeOverflow update.counter.columnName))
  else some (.invariant (.foreignUpdate update.target.text key.id key.kind key.entityId))

/-- The error is that of the earliest update of a list that is refused after those before it. -/
def FirstFault (key : Key) (updates : List Update) (error : Error) : Prop :=
  ∃ before update after, updates = before ++ update :: after ∧
    update.fault? key before = some error ∧
    ∀ earlier other later, before = earlier ++ other :: later → other.fault? key earlier = none

def FirstFaultAfter (key : Key) (before updates : List Update) (error : Error) : Prop :=
  ∃ passed update after, updates = passed ++ update :: after ∧
    update.fault? key (before ++ passed) = some error ∧
    ∀ earlier other later, passed = earlier ++ other :: later →
      other.fault? key (before ++ earlier) = none

section FirstFaultAfter

variable {key : Key} {before rest : List Update} {first : Update} {error : Error}

theorem not_firstFaultAfter_nil : ¬ FirstFaultAfter key before [] error := by
  rintro ⟨passed, update, after, split, _⟩
  simp at split

theorem firstFaultAfter_cons_iff :
    FirstFaultAfter key before (first :: rest) error ↔
      first.fault? key before = some error ∨
        first.fault? key before = none ∧
          FirstFaultAfter key (before ++ [first]) rest error := by
  constructor
  · rintro ⟨passed, update, after, split, fault, clean⟩
    cases passed with
    | nil =>
        cases split
        exact Or.inl (by simpa using fault)
    | cons other passed =>
        cases split
        have sound := clean [] _ _ rfl
        refine Or.inr ⟨by simpa using sound, passed, update, after, rfl, by simpa using fault, ?_⟩
        rintro earlier last later rfl
        simpa using clean (first :: earlier) last later rfl
  · rintro (fault | ⟨sound, passed, update, after, rfl, fault, clean⟩)
    · exact ⟨[], first, rest, rfl, by simpa using fault, by simp⟩
    · refine ⟨first :: passed, update, after, rfl, by simpa using fault, ?_⟩
      rintro (_ | ⟨other, earlier⟩) last later split
      · cases split
        simpa using sound
      · cases split
        simpa using clean earlier last later rfl

end FirstFaultAfter

end Update

theorem Deltas.merge_eq_error_iff {κ : Type} [Vocabulary κ] {deltas : Deltas κ} {counter : κ}
    {delta : Amount} {error : Error} :
    deltas.merge counter delta = .error error ↔
      ¬ Amount.Fits (amountOr (deltas.get counter) + delta.val) ∧
        error = .invariant (.mergeOverflow (column counter)) := by
  have present : ((deltas.get counter).getD Amount.zero).val = amountOr (deltas.get counter) := by
    cases deltas.get counter <;> rfl
  rw [← present]
  unfold merge
  split
  · rename_i sum fits
    have exact := Bounded.add?_eq_some_iff.mp fits
    simp [show Amount.Fits _ from ⟨sum, exact⟩]
  · rename_i unfit
    have outside : ¬ Amount.Fits
        (((deltas.get counter).getD Amount.zero).val + delta.val) := by
      rintro ⟨sum, value⟩
      rw [Bounded.add?_eq_some_iff.mpr value] at unfit
      cases unfit
    simp [outside, eq_comm]

namespace Merge

/-- The merged amounts are the sums of the updates in a list. -/
def Tells (merge : Merge) (updates : List Update) : Prop :=
  ∀ counter, amountOr (merge.amount? counter) = updatesTotal updates counter

theorem tells_empty : empty.Tells [] := by
  intro counter
  simp

theorem add_eq_error_iff {merge : Merge} {counter : Counter} {delta : Amount} {error : Error} :
    merge.add counter delta = .error error ↔
      ¬ Amount.Fits (amountOr (merge.amount? counter) + delta.val) ∧
        error = .invariant (.mergeOverflow counter.columnName) := by
  cases counter <;> exact Answer.map_eq_error_iff.trans Deltas.merge_eq_error_iff

variable {key : Key} {merge : Merge} {updates before : List Update}

theorem Tells.take {next : Merge} {update : Update} (tells : merge.Tells before)
    (taken : merge.take key update = .ok next) : next.Tells (before ++ [update]) := by
  intro counter
  rw [amountOr_of_add (take_eq_ok_iff.mp taken).2, tells counter, updatesTotal_append,
    updatesTotal_cons, updatesTotal_nil, Int.add_zero]

/-- An update is refused for its fault after those that were merged. -/
theorem Tells.take_eq_error_iff {update : Update} {error : Error} (tells : merge.Tells before) :
    merge.take key update = .error error ↔ update.fault? key before = some error := by
  have sum : amountOr (merge.amount? update.counter) + update.delta.val =
      updatesTotal (before ++ [update]) update.counter := by
    simp [tells update.counter, updatesTotal_append, updatesTotal_cons]
  by_cases own : update.IsFor key
  · have added : merge.take key update = merge.add update.counter update.delta := if_pos own
    rw [added, add_eq_error_iff, sum, Update.fault?, if_pos own]
    split <;> simp_all [eq_comm]
  · have refused : merge.take key update = .error (.invariant
        (.foreignUpdate update.target.text key.id key.kind key.entityId)) := if_neg own
    rw [refused, Update.fault?, if_neg own, Except.error.injEq, Option.some.injEq]

theorem Tells.exists_take_iff {update : Update} (tells : merge.Tells before) :
    (∃ next, merge.take key update = .ok next) ↔ update.fault? key before = none := by
  cases answer : merge.take key update with
  | ok next =>
      cases fault : update.fault? key before with
      | none => simp
      | some error =>
          have refused := tells.take_eq_error_iff.mpr fault
          cases answer.symm.trans refused
  | error error => simp [tells.take_eq_error_iff.mp answer]

theorem takeAll_cons (key : Key) (merge : Merge) (first : Update) (rest : List Update) :
    merge.takeAll key (first :: rest) =
      (merge.take key first).bind fun next => next.takeAll key rest := by
  rw [takeAll]
  cases merge.take key first <;> rfl

theorem Tells.takeAll_eq_error_iff {error : Error} (tells : merge.Tells before) :
    merge.takeAll key updates = .error error ↔
      Update.FirstFaultAfter key before updates error := by
  induction updates generalizing merge before with
  | nil => simp [takeAll, Update.not_firstFaultAfter_nil]
  | cons first rest ih =>
      rw [takeAll_cons, Answer.bind_eq_error_iff, Update.firstFaultAfter_cons_iff]
      refine or_congr tells.take_eq_error_iff ?_
      constructor
      · rintro ⟨middle, taken, refused⟩
        exact ⟨tells.exists_take_iff.mp ⟨middle, taken⟩, (ih (tells.take taken)).mp refused⟩
      · rintro ⟨sound, refused⟩
        obtain ⟨middle, taken⟩ := tells.exists_take_iff.mpr sound
        exact ⟨middle, taken, (ih (tells.take taken)).mpr refused⟩

/-- The first updates of a list that is taken are taken. -/
theorem exists_of_takeAll_append {next : Merge} {after : List Update}
    (taken : merge.takeAll key (before ++ after) = .ok next) :
    ∃ middle, merge.takeAll key before = .ok middle := by
  induction before generalizing merge with
  | nil => exact ⟨merge, rfl⟩
  | cons first rest ih =>
      rw [List.cons_append, takeAll_cons] at taken
      obtain ⟨step, stepped, others⟩ := Answer.bind_eq_ok_iff.mp taken
      obtain ⟨middle, reached⟩ := ih others
      exact ⟨middle, (takeAll_cons ..).trans (Answer.bind_eq_ok_iff.mpr ⟨step, stepped, reached⟩)⟩

theorem ext_amount? {other : Merge} (same : ∀ counter, merge.amount? counter = other.amount? counter) :
    merge = other := by
  have users : merge.user = other.user := Columns.ext fun counter => same (.user counter)
  have posts : merge.post = other.post := Columns.ext fun counter => same (.post counter)
  have comments : merge.comment = other.comment :=
    Columns.ext fun counter => same (.comment counter)
  cases merge
  cases other
  simp_all only

end Merge

/-! ## The counters of a kind -/

namespace TrackerKind

def counters : TrackerKind → List Counter
  | .user => UserCounter.inOrder.map .user
  | .post => PostCounter.inOrder.map .post
  | .comment => CommentCounter.inOrder.map .comment

theorem mem_counters (kind : TrackerKind) (counter : Counter) :
    counter ∈ kind.counters ↔ counter.kind = kind := by
  cases kind <;> cases counter <;> rename_i named <;> cases named <;> decide

theorem nodup_counters (kind : TrackerKind) : kind.counters.Nodup := by
  cases kind <;> decide

end TrackerKind

/-- For a counter of a kind only the updates with counters of the kind matter. -/
theorem updatesTotal_filter_kind (updates : List Update) {counter : Counter} {kind : TrackerKind}
    (isKind : counter.kind = kind) :
    updatesTotal (updates.filter fun update => update.counter.kind = kind) counter =
      updatesTotal updates counter := by
  rw [updatesTotal, updatesTotal, List.filter_filter]
  congr 2
  refine List.filter_congr fun update _ => ?_
  by_cases here : update.counter = counter <;> simp [here, isKind]

theorem deltasTotal_filter_kind (updates : List Update) (kind : TrackerKind) :
    deltasTotal (updates.filter fun update => update.counter.kind = kind) =
      (kind.counters.map (updatesTotal updates)).sum := by
  have listed : ∀ update ∈ updates.filter fun update => update.counter.kind = kind,
      update.counter ∈ kind.counters := by
    intro update member
    simpa [TrackerKind.mem_counters] using (List.mem_filter.mp member).2
  have own : ∀ counter ∈ kind.counters,
      updatesTotal (updates.filter fun update => update.counter.kind = kind) counter =
        updatesTotal updates counter := by
    intro counter member
    exact updatesTotal_filter_kind updates ((kind.mem_counters counter).mp member)
  rw [← List.map_congr_left own]
  exact (sum_groups kind.nodup_counters Update.counter (fun update => update.delta.val) listed).symm

/-- The amounts that were named are listed in the order of their columns. -/
theorem Deltas.map_toList {κ : Type} [Vocabulary κ] (deltas : Deltas κ) (name : κ → Counter)
    {inOrder : List κ} (all : Vocabulary.all κ = inOrder) :
    (deltas.toList.map fun entry => (name entry.1, entry.2)) =
      inOrder.filterMap fun counter =>
        (deltas.get counter).map fun amount => (name counter, amount) := by
  rw [toList, Columns.toList, all, List.map_filterMap, List.filterMap_map]
  refine List.filterMap_congr fun counter _ => ?_
  cases named : deltas.get counter <;> simp [named]

namespace Batch

theorem counters_batch (merge : Merge) (kind : TrackerKind) :
    (merge.batch kind).counters = kind.counters.filterMap fun counter =>
      (merge.amount? counter).map fun amount => (counter, amount) := by
  cases kind with
  | user =>
      rw [TrackerKind.counters, List.filterMap_map]
      exact merge.user.map_toList .user rfl
  | post =>
      rw [TrackerKind.counters, List.filterMap_map]
      exact merge.post.map_toList .post rfl
  | comment =>
      rw [TrackerKind.counters, List.filterMap_map]
      exact merge.comment.map_toList .comment rfl

def total (batch : Batch) : Int := (batch.counters.map fun entry => entry.2.val).sum

variable {key : Key} {updates : List Update} {batch : Batch}

theorem ofUpdates_eq_error_iff {error : Error} :
    ofUpdates key updates = .error error ↔ Update.FirstFault key updates error :=
  Answer.map_eq_error_iff.trans Merge.tells_empty.takeAll_eq_error_iff

/-- Updates are refused exactly where one is addressed elsewhere, or the sum for some counter is no
amount after some of them. -/
theorem exists_error_iff :
    (∃ error, ofUpdates key updates = .error error) ↔
      (∃ update ∈ updates, ¬ update.IsFor key) ∨
        ∃ before counter, before <+: updates ∧ ¬ Amount.Fits (updatesTotal before counter) := by
  constructor
  · rintro ⟨error, refused⟩
    obtain ⟨before, update, after, rfl, fault, _⟩ := ofUpdates_eq_error_iff.mp refused
    unfold Update.fault? at fault
    split at fault
    · split at fault
      · cases fault
      · rename_i unfit
        exact Or.inr ⟨before ++ [update], update.counter, ⟨after, by simp⟩, unfit⟩
    · rename_i elsewhere
      exact Or.inl ⟨update, by simp, elsewhere⟩
  · intro faulty
    cases made : ofUpdates key updates with
    | error error => exact ⟨error, rfl⟩
    | ok batch =>
        exfalso
        rcases faulty with ⟨update, listed, elsewhere⟩ | ⟨before, counter, ⟨after, rfl⟩, unfit⟩
        · exact elsewhere (addressed_of_ofUpdates made update listed)
        · obtain ⟨merge, taken, _⟩ := Answer.map_eq_ok_iff.mp made
          obtain ⟨middle, first⟩ := Merge.exists_of_takeAll_append taken
          have sum := Merge.amountOr_of_takeAll first counter
          rw [Merge.amount?_empty, amountOr_none, Int.zero_add] at sum
          exact unfit (sum ▸ Amount.fits_amountOr _)

/-- What a counter was merged to, told by whether it was named and the sum of its updates. -/
theorem amount?_of_takeAll {merge : Merge} (taken : Merge.empty.takeAll key updates = .ok merge)
    (counter : Counter) :
    (merge.amount? counter).map Bounded.val =
      if counter ∈ updates.map Update.counter then some (updatesTotal updates counter) else none := by
  have named := Merge.isSome_amount?_of_takeAll taken counter
  have sum := Merge.amountOr_of_takeAll taken counter
  rw [Merge.amount?_empty] at named sum
  cases held : merge.amount? counter with
  | none => simp_all
  | some amount => simp_all

/-- The counters of a batch are those of the key's kind that were named, with their sums. -/
theorem counters_of_ofUpdates (made : ofUpdates key updates = .ok batch) :
    (batch.counters.map fun entry => (entry.1, entry.2.val)) =
      (key.kind.counters.filter fun counter => counter ∈ updates.map Update.counter).map
        fun counter => (counter, updatesTotal updates counter) := by
  obtain ⟨merge, taken, rfl⟩ := Answer.map_eq_ok_iff.mp made
  rw [counters_batch, List.map_filterMap, ← List.filterMap_eq_map, List.filterMap_filter]
  refine List.filterMap_congr fun counter _ => ?_
  have held := amount?_of_takeAll taken counter
  split at held
  · rename_i named
    obtain ⟨amount, present, value⟩ := Option.map_eq_some_iff.mp held
    simp [present, value, named]
  · rename_i unnamed
    rw [Option.map_eq_none_iff] at held
    simp [held, unnamed]

theorem exists_update_of_mem_counters (made : ofUpdates key updates = .ok batch)
    {entry : Counter × Amount} (member : entry ∈ batch.counters) :
    ∃ update ∈ updates, update.counter = entry.1 := by
  have listed := List.mem_map_of_mem (f := fun entry => (entry.1, entry.2.val)) member
  rw [counters_of_ofUpdates made] at listed
  obtain ⟨counter, chosen, same⟩ := List.mem_map.mp listed
  have named : counter ∈ updates.map Update.counter := by
    simpa using (List.mem_filter.mp chosen).2
  rw [← congrArg Prod.fst same]
  exact List.mem_map.mp named

/-- The columns of a batch are those of the counters that were named, in order, with their sums. -/
theorem columns_of_ofUpdates (made : ofUpdates key updates = .ok batch) :
    (batch.columns.map fun entry => (entry.1, entry.2.val)) =
      (key.kind.counters.filter fun counter => counter ∈ updates.map Update.counter).map
        fun counter => (counter.columnName, updatesTotal updates counter) := by
  have listed := congrArg (List.map fun entry => (entry.1.columnName, entry.2))
    (counters_of_ofUpdates made)
  simpa [columns, Function.comp_def] using listed

/-- The amounts of a batch come to the sum of the updates with counters of the key's kind. -/
theorem total_of_ofUpdates (made : ofUpdates key updates = .ok batch) :
    batch.total = deltasTotal (updates.filter fun update => update.counter.kind = key.kind) := by
  have listed := congrArg (List.map Prod.snd) (counters_of_ofUpdates made)
  rw [List.map_map, List.map_map] at listed
  have unnamed (counter : Counter) :
      (if counter ∈ updates.map Update.counter then updatesTotal updates counter else 0) =
        updatesTotal updates counter := by
    split
    · rfl
    · rename_i absent
      refine (updatesTotal_eq_zero fun update member same => absent ?_).symm
      exact List.mem_map.mpr ⟨update, member, same⟩
  calc batch.total
    _ = ((key.kind.counters.filter fun counter => counter ∈ updates.map Update.counter).map
          (updatesTotal updates)).sum := congrArg List.sum listed
    _ = (key.kind.counters.map (updatesTotal updates)).sum := by
        rw [sum_map_filter]
        simp only [decide_eq_true_iff, unnamed]
    _ = _ := (deltasTotal_filter_kind updates key.kind).symm

/-- Without negative amounts the order of the updates does not matter. -/
theorem ofUpdates_of_perm {others : List Update}
    (natural : ∀ update ∈ updates, 0 ≤ update.delta.val) (perm : updates.Perm others)
    (made : ofUpdates key updates = .ok batch) : ofUpdates key others = .ok batch := by
  obtain ⟨merge, taken, rfl⟩ := Answer.map_eq_ok_iff.mp made
  cases answer : Merge.empty.takeAll key others with
  | error error =>
      exfalso
      have refused : ∃ error, ofUpdates key others = .error error :=
        ⟨error, Answer.map_eq_error_iff.mpr answer⟩
      rcases exists_error_iff.mp refused with ⟨update, listed, elsewhere⟩ | ⟨before, counter, first, unfit⟩
      · exact elsewhere (addressed_of_ofUpdates made update (perm.mem_iff.mpr listed))
      · -- What came before is between nothing and the sum of the whole list, and both fit.
        have naturalOthers : ∀ update ∈ others, 0 ≤ update.delta.val := fun update listed =>
          natural update (perm.mem_iff.mpr listed)
        have fits := (Merge.amountOr_of_takeAll taken counter) ▸ Amount.fits_amountOr _
        rw [Merge.amount?_empty, amountOr_none, Int.zero_add, updatesTotal_perm perm] at fits
        refine unfit (Amount.Fits.between ⟨.zero, rfl⟩ fits ?_ ?_)
        · exact updatesTotal_nonneg (fun update listed =>
            naturalOthers update (first.subset listed)) counter
        · exact updatesTotal_le_of_prefix naturalOthers first counter
  | ok other =>
      have same : merge = other := by
        refine Merge.ext_amount? fun counter => ?_
        apply Option.map_injective (f := Bounded.val) (fun _ _ => Bounded.ext)
        show Option.map _ _ = Option.map _ _
        rw [amount?_of_takeAll taken, amount?_of_takeAll answer, updatesTotal_perm perm]
        simp only [(perm.map Update.counter).mem_iff]
      rw [ofUpdates, answer, same]
      rfl

/-! ## What is accounted for -/

/-- What becomes of any updates at a key.  They are refused for an address or a sum, whatever their
counters are of.  If they are merged, the batch has the sums of the counters of the key's kind and
no others, so that the amounts for other counters are lost. -/
structure Accounts (key : Key) (updates : List Update) : Prop where
  refused : (∃ error, ofUpdates key updates = .error error) ↔
    (∃ update ∈ updates, ¬ update.IsFor key) ∨
      ∃ before counter, before <+: updates ∧ ¬ Amount.Fits (updatesTotal before counter)
  amounts : ∀ batch, ofUpdates key updates = .ok batch → ∀ counter, batch.amount counter =
    if counter.kind = key.kind then updatesTotal updates counter else 0
  total : ∀ batch, ofUpdates key updates = .ok batch →
    batch.total = deltasTotal (updates.filter fun update => update.counter.kind = key.kind)
  complete : ∀ batch, ofUpdates key updates = .ok batch → (batch.total = deltasTotal updates ↔
    deltasTotal (updates.filter fun update => ¬ update.counter.kind = key.kind) = 0)

theorem amount_of_kind_ne {counter : Counter} (different : counter.kind ≠ batch.kind) :
    batch.amount counter = 0 := by
  cases batch <;> cases counter <;> first | rfl | exact absurd rfl different

theorem accounts_ofUpdates (key : Key) (updates : List Update) : Accounts key updates := by
  constructor
  case refused => exact exists_error_iff
  case amounts =>
    intro batch made counter
    split
    · rename_i isKind
      exact amount_of_ofUpdates made isKind
    · rename_i different
      exact amount_of_kind_ne (by rwa [kind_of_ofUpdates made])
  case total => exact fun batch => total_of_ofUpdates
  case complete =>
    intro batch made
    have split := List.sum_map_filter_add_sum_map_filter_not
      (fun update : Update => update.counter.kind = key.kind) (fun update => update.delta.val) updates
    rw [total_of_ofUpdates made]
    unfold deltasTotal
    omega

def postKey : Key where
  kind := .post
  entityId := "p1"
  periodStart := february
  dayOfMonth := february.dayNumber
  id := "p1240201"

def mixedViews : List Update := [
  .post "p1" .views ⟨3, by decide, by decide⟩,
  ⟨.post "p1", .user .viewsOfOwned, ⟨5, by decide, by decide⟩⟩,
  .post "p1" .views ⟨-2, by decide, by decide⟩]

/-- An amount for a counter of another kind is neither refused nor in the batch. -/
theorem drops_foreignCounter :
    ∃ batch, ofUpdates postKey mixedViews = .ok batch ∧
      (∃ update ∈ mixedViews, update.counter.kind ≠ postKey.kind) ∧
      batch.total = 1 ∧ deltasTotal mixedViews = 6 :=
  ⟨_, rfl, by decide, by decide, by decide⟩

end Batch

/-! ## Updates made by the constructors -/

/-- The update was made by the constructor for users, posts or comments. -/
inductive Update.Constructed : Update → Prop where
  | user (userId : String) (counter : UserCounter) (delta : Amount) :
      Constructed (.user userId counter delta)
  | post (postId : String) (counter : PostCounter) (delta : Amount) :
      Constructed (.post postId counter delta)
  | comment (commentId : String) (counter : CommentCounter) (delta : Amount) :
      Constructed (.comment commentId counter delta)

theorem Update.Constructed.kind_eq {update : Update} (constructed : update.Constructed) :
    update.counter.kind = update.target.kind := by
  cases constructed <;> rfl

/-- A batch knows its columns by their names. -/
theorem TrackerKind.nodup_columnNames (kind : TrackerKind) :
    (kind.counters.map Counter.columnName).Nodup := by
  cases kind <;> decide

namespace Batch

/-- What the updates of a list come to at a key.  They are refused for an address, or where the
running sum of some counter is no amount, with the error of the first fault.  The columns of a
batch are those of the named counters in order, each with the sum of its updates. -/
structure Exact (key : Key) (updates : List Update) : Prop where
  refused : (∃ error, ofUpdates key updates = .error error) ↔
    (∃ update ∈ updates, ¬ update.IsFor key) ∨
      ∃ before counter, before <+: updates ∧ ¬ Amount.Fits (updatesTotal before counter)
  reason : ∀ error, ofUpdates key updates = .error error ↔ Update.FirstFault key updates error
  columns : ∀ batch, ofUpdates key updates = .ok batch →
    (batch.columns.map fun entry => (entry.1, entry.2.val)) =
      (key.kind.counters.filter fun counter => counter ∈ updates.map Update.counter).map
        fun counter => (counter.columnName, updatesTotal updates counter)
  named : ∀ batch, ofUpdates key updates = .ok batch →
    ∀ update ∈ updates, update.counter ∈ key.kind.counters
  once : ∀ batch, ofUpdates key updates = .ok batch → (batch.columns.map Prod.fst).Nodup
  anyOrder : (∀ update ∈ updates, 0 ≤ update.delta.val) → ∀ others, updates.Perm others →
    ∀ batch, ofUpdates key updates = .ok batch ↔ ofUpdates key others = .ok batch

theorem nodup_columns {key : Key} {updates : List Update} {batch : Batch}
    (made : ofUpdates key updates = .ok batch) : (batch.columns.map Prod.fst).Nodup := by
  have names := congrArg (List.map Prod.fst) (columns_of_ofUpdates made)
  rw [List.map_map, List.map_map] at names
  have listed : batch.columns.map Prod.fst =
      (key.kind.counters.filter fun counter => counter ∈ updates.map Update.counter).map
        Counter.columnName := names
  rw [listed]
  exact (List.filter_sublist.map _).nodup key.kind.nodup_columnNames

theorem exact_ofUpdates (key : Key) (updates : List Update)
    (constructed : ∀ update ∈ updates, update.Constructed) : Exact key updates := by
  constructor
  case refused => exact exists_error_iff
  case reason => exact fun error => ofUpdates_eq_error_iff
  case columns => exact fun batch => columns_of_ofUpdates
  case named =>
    intro batch made update listed
    rw [TrackerKind.mem_counters, (constructed update listed).kind_eq]
    exact (addressed_of_ofUpdates made update listed).1
  case once => exact fun batch => nodup_columns
  case anyOrder =>
    intro natural others perm batch
    constructor
    · exact ofUpdates_of_perm natural perm
    · exact ofUpdates_of_perm
        (fun update listed => natural update (perm.mem_iff.mpr listed)) perm.symm

/-- Views that pass the range of amounts on the way to a sum in it, and opens that cancel. -/
def overAndBack : List Update := [
  .post "p1" .opens ⟨4, by decide, by decide⟩,
  .post "p1" .views .greatest,
  .post "p1" .opens ⟨-4, by decide, by decide⟩,
  .post "p1" .views .one,
  .post "p1" .views ⟨-7, by decide, by decide⟩]

theorem exact_ofUpdates_overAndBack :
    Update.FirstFault postKey overAndBack (.invariant (.mergeOverflow "views")) ∧
      (∃ batch, ofUpdates postKey overAndBack.reverse = .ok batch ∧
        (batch.columns.map fun entry => (entry.1, entry.2.val)) =
          [("views", Amount.greatest.val - 6), ("opens", 0)]) := by
  have constructed : ∀ update ∈ overAndBack, update.Constructed := by
    simp only [overAndBack, List.forall_mem_cons]
    exact ⟨.post .., .post .., .post .., .post .., .post .., by simp⟩
  constructor
  · exact ((exact_ofUpdates postKey overAndBack constructed).reason _).mp (by decide +kernel)
  · have exact := exact_ofUpdates postKey overAndBack.reverse fun update listed =>
      constructed update (List.mem_reverse.mp listed)
    exact ⟨_, rfl, (exact.columns _ rfl).trans (by decide +kernel)⟩

end Batch

end ActivityLedger

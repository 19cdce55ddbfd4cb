import ActivityLedger.Proofs.Intervals
import ActivityLedger.Proofs.Periods
import ActivityLedger.Query.Query
import Mathlib.Data.Set.Card

/-!
# Requests that are refused

A request is malformed if it names no entity, gives an end without a start, ends before it
starts, or spans more days than the limit without lying in a single period.  One that is
not malformed is refused only for a date outside the century, and every other one is
answered, whatever is in memory.  Both dates together leave no part to the current date,
and what holds for a window holds for every window inside it.
-/

namespace ActivityLedger

namespace Date

variable {first last date : Date}

def Within (first last date : Date) : Prop := ¬ date.Before first ∧ ¬ last.Before date

/-- How many dates lie between two dates, which count themselves. -/
noncomputable def span (first last : Date) : Nat := {date | Within first last date}.ncard

theorem number_le_iff : first.number ≤ last.number ↔ ¬ last.Before first := by
  rw [← Int.not_lt, number_lt_iff]

theorem mem_days_iff (order : ¬ last.Before first) :
    date ∈ days first last ↔ Within first last date := by
  have numbers := number_le_iff.mpr order
  have reached : first.periodNumber .post ≤ last.periodNumber .post + 1 :=
    Int.le_add_one numbers
  rw [Within, ← number_le_iff, ← number_le_iff]
  constructor
  · intro member
    exact periodNumber_of_mem reached member
  · rintro ⟨notBefore, notAfter⟩
    have found : ∃ met ∈ periods .post first last, SamePeriod .post met date :=
      exists_mem_periods notBefore notAfter
    obtain ⟨met, member, same⟩ := found
    cases (show met = date from same)
    exact member

theorem span_eq (order : ¬ last.Before first) :
    (span first last : Int) = Window.days first last := by
  have numbers := number_le_iff.mpr order
  have reached : first.periodNumber .post ≤ last.periodNumber .post + 1 :=
    Int.le_add_one numbers
  have once : (days first last).Nodup :=
    (ascending_periods .post first last reached).imp fun before same =>
      absurd (number_lt_iff.mpr before) (by simp [same])
  have listed : {date | Within first last date} = ((days first last).toFinset : Set Date) := by
    ext date
    simp [mem_days_iff order]
  have length : (days first last).length = (last.number - first.number + 1).toNat :=
    length_periods .post first last reached
  rw [span, listed, Set.ncard_coe_finset, List.toFinset_card_of_nodup once, length, Window.days,
    daysUntil]
  omega

end Date

/-! ## Windows -/

namespace Window

variable {kind : TrackerKind} {limit : Small} {first last : Date}

/-- Between two dates there is no window that may be read. -/
inductive Unreadable (kind : TrackerKind) (limit : Small) (first last : Date) : Prop where
  | reversed (order : last.Before first)
  | tooLong (apart : ¬ SamePeriod kind first last) (long : limit.toNat < Date.span first last)

theorem between_of_unreadable (unreadable : Unreadable kind limit first last) :
    ∃ fault, between kind limit first last = .error (.request fault) := by
  unfold between
  by_cases order : last.Before first
  · rw [if_pos order]
    exact ⟨_, rfl⟩
  · cases unreadable with
    | reversed before => exact absurd before order
    | tooLong apart long =>
        have days := Date.span_eq order
        have natural : (limit.toNat : Int) = limit.val := Int.toNat_of_nonneg limit.lo_le
        rw [if_neg order, if_neg apart, if_pos (by omega)]
        exact ⟨_, rfl⟩

/-- A window that may be read is one period, or an interval of dates. -/
theorem between_of_readable (readable : ¬ Unreadable kind limit first last) :
    (SamePeriod kind first last ∧ between kind limit first last = .ok (.point first)) ∨
      between kind limit first last = .ok (.range first last) := by
  have order : ¬ last.Before first := fun before => readable (.reversed before)
  unfold between
  rw [if_neg order]
  by_cases same : SamePeriod kind first last
  · rw [if_pos same]
    exact Or.inl ⟨same, rfl⟩
  · have short : ¬ limit.toNat < Date.span first last := fun long => readable (.tooLong same long)
    have days := Date.span_eq order
    have natural : (limit.toNat : Int) = limit.val := Int.toNat_of_nonneg limit.lo_le
    rw [if_neg same, if_neg (by omega)]
    exact Or.inr rfl

/-- A window inside one that may be read may be read. -/
theorem not_unreadable_of_within (readable : ¬ Unreadable kind limit first last)
    {inner innerLast : Date} (notBefore : ¬ inner.Before first)
    (order : ¬ innerLast.Before inner) (notAfter : ¬ last.Before innerLast) :
    ¬ Unreadable kind limit inner innerLast := by
  have wide : ¬ last.Before first := fun before => readable (.reversed before)
  have start := Date.periodNumber_sub_le kind notBefore
  have middle := Date.periodNumber_sub_le kind order
  have stop := Date.periodNumber_sub_le kind notAfter
  rintro (before | ⟨apart, long⟩)
  · exact order before
  · refine readable (.tooLong ?_ ?_)
    · rw [Date.samePeriod_iff] at apart ⊢
      omega
    · have days := Date.span_eq wide
      have innerDays := Date.span_eq order
      rw [← Date.number_le_iff] at notBefore notAfter
      simp only [Window.days, Date.daysUntil] at days innerDays
      omega

end Window

/-! ## Requests -/

namespace Request

variable {kind : TrackerKind} {limit : Small} {today other : Date} {request narrower : Request}

def start (today : Date) (request : Request) : Date := request.first.getD today

def stop (today : Date) (request : Request) : Date := request.last.getD today

/-- A request names no entity, or has no window that may be read. -/
inductive Malformed (kind : TrackerKind) (limit : Small) (today : Date) (request : Request) : Prop
  where
  | nameless (empty : request.entityId = "")
  | endOnly (unstarted : request.first = none) (ended : request.last ≠ none)
  | unreadable (window : Window.Unreadable kind limit (request.start today) (request.stop today))

def OutsideCentury (today : Date) (request : Request) : Prop :=
  ¬ (request.start today).HasCompact ∨ ¬ (request.stop today).HasCompact

/-- A request is for the entity of another, and for a window inside that of the other. -/
structure Narrows (narrower : Request) (other : Date) (wider : Request) (today : Date) : Prop where
  entity : narrower.entityId = wider.entityId
  started : narrower.first = none → narrower.last = none
  notBefore : ¬ (narrower.start other).Before (wider.start today)
  ordered : ¬ (narrower.stop other).Before (narrower.start other)
  notAfter : ¬ (wider.stop today).Before (narrower.stop other)

/-- The window of a request is the one between the dates that it means. -/
theorem resolve_eq (started : request.first = none → request.last = none) :
    Window.resolve kind limit today request.first request.last =
      Window.between kind limit (request.start today) (request.stop today) := by
  obtain ⟨entityId, first, last⟩ := request
  cases first with
  | none =>
      cases started rfl
      have order : ¬ today.Before today := by simp [Date.Before]
      have same : SamePeriod kind today today := (Date.samePeriod_iff kind today today).mpr rfl
      show Window.resolve kind limit today none none = Window.between kind limit today today
      rw [Window.between, if_neg order, if_pos same]
      rfl
  | some first => cases last <;> rfl

theorem Narrows.admitted (narrows : narrower.Narrows other request today)
    (formed : ¬ request.Malformed kind limit today) (inside : ¬ request.OutsideCentury today) :
    ¬ narrower.Malformed kind limit other ∧ ¬ narrower.OutsideCentury other := by
  have readable := fun window => formed (.unreadable window)
  obtain ⟨entity, started, notBefore, ordered, notAfter⟩ := narrows
  constructor
  · rintro (empty | ⟨unstarted, ended⟩ | window)
    · exact formed (.nameless (entity.symm.trans empty))
    · exact ended (started unstarted)
    · exact Window.not_unreadable_of_within readable notBefore ordered notAfter window
  · simp only [OutsideCentury, not_or, not_not, Date.HasCompact] at inside ⊢
    unfold Date.Before at notBefore ordered notAfter
    omega

end Request

/-! ## Answers -/

theorem Key.build_of_outside {kind : TrackerKind} {entityId : String} {date : Date}
    (named : entityId ≠ "") (outside : ¬ date.HasCompact) :
    Key.build kind entityId date = .error (.argument (.outsideCentury date)) := by
  rw [Key.build, if_neg named, if_neg outside]

namespace Family

variable {α : Type} (family : Family α) (nameless : RequestFault) (limit : Small) (today : Date)
  (request : Request) (memory : Memory)

def select : Except Error (Selection α) := do
  if request.entityId = "" then throw (.request nameless)
  match ← Window.resolve family.kind limit today request.first request.last with
  | .point date =>
      let key ← Key.build family.kind request.entityId date
      return .point (← family.lookup key memory)
  | .range first last =>
      let first ← Key.build family.kind request.entityId first
      let last ← Key.build family.kind request.entityId last
      return .range (← family.scan request.entityId first last memory)

theorem selectContent_eq (kind : ContentKind) :
    selectContent Memory.store limit today kind request memory =
      (content kind).select .missingContentId limit today request memory := rfl

theorem selectUser_eq :
    selectUser Memory.store limit today request memory =
      user.select .missingUserId limit today request memory := rfl

/-- Which requests are refused, and how, by calls that select trackers of a kind. -/
structure RefusesExactly (kind : TrackerKind) (limit : Small)
    (select : Date → Request → Memory → Except Error (Selection α)) : Prop where
  malformed : ∀ today request memory,
    (∃ fault, select today request memory = .error (.request fault)) ↔
      request.Malformed kind limit today
  outside : ∀ today request memory,
    (∃ fault, select today request memory = .error (.argument fault)) ↔
      ¬ request.Malformed kind limit today ∧ request.OutsideCentury today
  refused : ∀ today request memory,
    (∃ error, select today request memory = .error error) ↔
      request.Malformed kind limit today ∨ request.OutsideCentury today
  dated : ∀ today other entityId first last memory,
    select today ⟨entityId, some first, some last⟩ memory =
      select other ⟨entityId, some first, some last⟩ memory
  narrowed : ∀ today request memory other narrower elsewhere,
    narrower.Narrows other request today →
      (∃ selection, select today request memory = .ok selection) →
        ∃ selection, select other narrower elsewhere = .ok selection

variable {family nameless limit today request memory}

theorem select_of_malformed (malformed : request.Malformed family.kind limit today) :
    ∃ fault, family.select nameless limit today request memory = .error (.request fault) := by
  unfold select
  by_cases empty : request.entityId = ""
  · rw [if_pos empty]
    exact ⟨nameless, rfl⟩
  · rw [if_neg empty]
    have refused : ∃ fault, Window.resolve family.kind limit today request.first request.last =
        .error (.request fault) := by
      by_cases started : request.first = none → request.last = none
      · rw [Request.resolve_eq started]
        cases malformed with
        | nameless same => exact absurd same empty
        | endOnly unstarted ended => exact absurd (started unstarted) ended
        | unreadable window => exact Window.between_of_unreadable window
      · obtain ⟨unstarted, ended⟩ := Classical.not_imp.mp started
        obtain ⟨last, given⟩ := Option.ne_none_iff_exists'.mp ended
        rw [unstarted, given]
        exact ⟨_, rfl⟩
    obtain ⟨fault, failed⟩ := refused
    rw [failed]
    exact ⟨fault, rfl⟩

section

variable (formed : ¬ request.Malformed family.kind limit today)

include formed

theorem resolve_of_formed :
    (SamePeriod family.kind (request.start today) (request.stop today) ∧
      Window.resolve family.kind limit today request.first request.last =
        .ok (.point (request.start today))) ∨
    Window.resolve family.kind limit today request.first request.last =
      .ok (.range (request.start today) (request.stop today)) := by
  have started : request.first = none → request.last = none := fun unstarted => by
    by_contra ended
    exact formed (.endOnly unstarted ended)
  rw [Request.resolve_eq started]
  exact Window.between_of_readable fun window => formed (.unreadable window)

theorem select_of_outside (outside : request.OutsideCentury today) :
    ∃ fault, family.select nameless limit today request memory = .error (.argument fault) := by
  have named : request.entityId ≠ "" := fun empty => formed (.nameless empty)
  unfold select
  rw [if_neg named]
  rcases resolve_of_formed formed with ⟨same, resolved⟩ | resolved
  · have start : ¬ (request.start today).HasCompact := by
      rcases outside with start | stop
      · exact start
      · rwa [Date.HasCompact, Date.year_eq_of_samePeriod same]
    rw [resolved]
    simp only [bind, Except.bind, Key.build_of_outside named start]
    exact ⟨_, rfl⟩
  · rw [resolved]
    by_cases start : (request.start today).HasCompact
    · have stop := outside.resolve_left (not_not_intro start)
      simp only [bind, Except.bind, Key.build_eq_ok_iff.mpr ⟨⟨named, start⟩, rfl⟩,
        Key.build_of_outside named stop]
      exact ⟨_, rfl⟩
    · simp only [bind, Except.bind, Key.build_of_outside named start]
      exact ⟨_, rfl⟩

theorem select_of_inside (reads : family.ReadsShelf) (inside : ¬ request.OutsideCentury today) :
    ∃ selection, family.select nameless limit today request memory = .ok selection := by
  have named : request.entityId ≠ "" := fun empty => formed (.nameless empty)
  obtain ⟨start, stop⟩ := not_or.mp inside
  have start := Key.build_eq_ok_iff.mpr
    ⟨⟨named, not_not.mp start⟩, (rfl : Key.of family.kind request.entityId _ = _)⟩
  have stop := Key.build_eq_ok_iff.mpr
    ⟨⟨named, not_not.mp stop⟩, (rfl : Key.of family.kind request.entityId _ = _)⟩
  unfold select
  rw [if_neg named]
  rcases resolve_of_formed formed with ⟨_, resolved⟩ | resolved
  · rw [resolved]
    have lookup := reads.lookup (Key.of family.kind request.entityId (request.start today)) memory
      rfl
    simp only [bind, Except.bind, start, lookup]
    exact ⟨_, rfl⟩
  · rw [resolved]
    have scan := reads.scan request.entityId
      (Key.of family.kind request.entityId (request.start today))
      (Key.of family.kind request.entityId (request.stop today)) memory
    have own (date : Date) :
        (Key.of family.kind request.entityId date).IsOf family.kind request.entityId :=
      ⟨rfl, rfl⟩
    rw [Key.checkRange_of_isOf (own _) (own _)] at scan
    simp only [bind, Except.bind, start, stop, scan]
    exact ⟨_, rfl⟩

end

/-- A request is refused as malformed, or for its dates, or it is answered. -/
theorem select_cases (reads : family.ReadsShelf) (nameless : RequestFault) (limit : Small)
    (today : Date) (request : Request) (memory : Memory) :
    (request.Malformed family.kind limit today ∧
      ∃ fault, family.select nameless limit today request memory = .error (.request fault)) ∨
    ((¬ request.Malformed family.kind limit today ∧ request.OutsideCentury today) ∧
      ∃ fault, family.select nameless limit today request memory = .error (.argument fault)) ∨
    ((¬ request.Malformed family.kind limit today ∧ ¬ request.OutsideCentury today) ∧
      ∃ selection, family.select nameless limit today request memory = .ok selection) := by
  by_cases formed : request.Malformed family.kind limit today
  · exact Or.inl ⟨formed, select_of_malformed formed⟩
  · by_cases outside : request.OutsideCentury today
    · exact Or.inr (Or.inl ⟨⟨formed, outside⟩, select_of_outside formed outside⟩)
    · exact Or.inr (Or.inr ⟨⟨formed, outside⟩, select_of_inside formed reads outside⟩)

theorem refusesExactly_select (reads : family.ReadsShelf) (nameless : RequestFault)
    (limit : Small) : RefusesExactly family.kind limit (family.select nameless limit) := by
  have verdicts := select_cases reads nameless limit
  constructor
  case malformed =>
    intro today request memory
    rcases verdicts today request memory with
      ⟨malformed, fault, given⟩ | ⟨⟨formed, _⟩, fault, given⟩ | ⟨⟨formed, _⟩, selection, given⟩
    · simp [given, malformed]
    · simp [given, formed]
    · simp [given, formed]
  case outside =>
    intro today request memory
    rcases verdicts today request memory with
      ⟨malformed, fault, given⟩ | ⟨⟨formed, outside⟩, fault, given⟩ |
        ⟨⟨formed, inside⟩, selection, given⟩
    · simp [given, malformed]
    · simp [given, formed, outside]
    · simp [given, inside]
  case refused =>
    intro today request memory
    rcases verdicts today request memory with
      ⟨malformed, fault, given⟩ | ⟨⟨formed, outside⟩, fault, given⟩ |
        ⟨⟨formed, inside⟩, selection, given⟩
    · simp [given, malformed]
    · simp [given, outside]
    · simp [given, formed, inside]
  case dated => exact fun today other entityId first last memory => rfl
  case narrowed =>
    rintro today request memory other narrower elsewhere narrows ⟨selection, answered⟩
    rcases verdicts today request memory with
      ⟨_, fault, given⟩ | ⟨_, fault, given⟩ | ⟨⟨formed, inside⟩, _⟩
    · cases given.symm.trans answered
    · cases given.symm.trans answered
    · obtain ⟨formed, inside⟩ := narrows.admitted formed inside
      exact select_of_inside formed reads inside

end Family

/-- Requests to a memory are refused exactly as they should be, for posts and comments as for
users. -/
theorem Memory.refusesExactly (limit : Small) :
    (∀ kind : ContentKind, Family.RefusesExactly kind.tracker limit
      fun today request memory => selectContent store limit today kind request memory) ∧
    Family.RefusesExactly .user limit
      fun today request memory => selectUser store limit today request memory := by
  constructor
  · intro kind
    simp only [Family.selectContent_eq]
    exact Family.refusesExactly_select (Family.readsShelf_content kind) .missingContentId limit
  · simp only [Family.selectUser_eq]
    exact Family.refusesExactly_select Family.readsShelf_user .missingUserId limit

/-- Two days of one month are more than a limit of one for a post, and not for a user. -/
example :
    let request : Request := ⟨"x", some midFebruary, some lateFebruary⟩
    (selectContent Memory.store (Small.ofNat 1 (by decide)) march .post request
        Memory.empty).isOk = false ∧
      (selectUser Memory.store (Small.ofNat 1 (by decide)) march request Memory.empty).isOk =
        true := by
  decide +kernel

end ActivityLedger

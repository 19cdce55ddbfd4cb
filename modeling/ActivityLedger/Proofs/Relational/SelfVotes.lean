import ActivityLedger.Proofs.Days
import ActivityLedger.Proofs.Relational.SettingUp
import ActivityLedger.Proofs.SelfVotes

/-!
# Votes on one's own content in tables

A call that adds no vote leaves every cell of a vote as it is, in whatever tables, and the
rows that it opens hold none.
-/

namespace ActivityLedger

namespace Relational

theorem get_addCells_of_unlisted {κ : Type} [Vocabulary κ] (name : κ → Counter)
    (cells : Columns κ Cell) {deltas : Deltas κ} {counter : κ}
    (unlisted : ∀ entry ∈ deltas.toList.map fun entry => (name entry.1, entry.2),
      entry.1 ≠ name counter) :
    (addCells cells deltas.toList).get counter = cells.get counter := by
  refine get_addCells_of_ne fun entry member same => ?_
  exact unlisted _ (List.mem_map_of_mem member) (congrArg name same)

namespace RowCounters

/-- A counter that a batch does not name keeps its cell. -/
theorem cell?_add_of_unnamed (counters : RowCounters) {batch : Batch} {counter : Counter}
    (unnamed : ∀ entry ∈ batch.counters, entry.1 ≠ counter) :
    (counters.add batch).cell? counter = counters.cell? counter := by
  by_cases isKind : counters.kind = batch.kind
  · obtain ⟨kind, cells, deltas, rfl, rfl⟩ := exists_of_kind_eq isKind
    rw [add_of]
    by_cases own : counter.kind = kind
    · obtain ⟨named, rfl⟩ := Counter.kind_eq_iff.mp own
      rw [Batch.counters_of] at unnamed
      rw [cell?_of, cell?_of, get_addCells_of_unlisted (.of kind) cells unnamed]
    · rw [cell?_of_ne (by rwa [kind_of]), cell?_of_ne (by rwa [kind_of])]
  · rw [add_of_ne fun same => isKind same.symm]

end RowCounters

/-! ## Rows with the same votes -/

/-- A row, if there was one, has the same cells for votes, and a new row has nothing in them. -/
inductive SameVotes : Option RowCounters → Option RowCounters → Prop where
  | absent : SameVotes none none
  | opened {counters : RowCounters}
      (blank : ∀ counter cell, counter.IsVote → counters.cell? counter = some cell →
        cell = Cell.zero) : SameVotes none (some counters)
  | kept {before after : RowCounters}
      (same : ∀ counter, counter.IsVote → after.cell? counter = before.cell? counter) :
      SameVotes (some before) (some after)

namespace SameVotes

theorem refl (row : Option RowCounters) : SameVotes row row := by
  cases row with
  | none => exact .absent
  | some counters => exact .kept fun _ _ => rfl

theorem trans {before middle after : Option RowCounters} (first : SameVotes before middle)
    (second : SameVotes middle after) : SameVotes before after := by
  cases first with
  | absent => exact second
  | opened blank =>
      cases second with
      | kept same =>
          refine .opened fun counter cell vote held => blank counter cell vote ?_
          rw [← same counter vote, held]
  | kept same =>
      cases second with
      | kept next => exact .kept fun counter vote => (next counter vote).trans (same counter vote)

theorem of_zero {row : Option RowCounters}
    (zero : ∀ counters, row = some counters → counters.AreZero) : SameVotes none row := by
  cases row with
  | none => exact .absent
  | some counters => exact .opened fun counter cell _ held => zero counters rfl counter cell held

end SameVotes

namespace Database

/-- The counters of a row of a tracker, where the rows of days are those of a month that there is. -/
def held? (database : Database) : RowName → Option RowCounters
  | .tracker kind id => database.row? (.tracker kind id)
  | .day id day => (database.row? (.tracker .user id)).bind fun _ => database.row? (.day id day)

theorem held?_tracker (database : Database) (kind : TrackerKind) (id : String) :
    database.held? (.tracker kind id) = database.row? (.tracker kind id) := rfl

theorem held?_day (database : Database) (id : String) (day : Small) :
    database.held? (.day id day) =
      (database.row? (.tracker .user id)).bind fun _ => database.row? (.day id day) := rfl

/-- Every row stays, and so do its cells for votes. -/
def KeepsVotes (database next : Database) : Prop :=
  ∀ name, SameVotes (database.held? name) (next.held? name)

namespace KeepsVotes

variable {database middle next : Database} {key : Key}

theorem refl (database : Database) : database.KeepsVotes database :=
  fun name => SameVotes.refl (database.held? name)

theorem trans (first : database.KeepsVotes middle) (second : middle.KeepsVotes next) :
    database.KeepsVotes next :=
  fun name => (first name).trans (second name)

/-- Votes are kept where each row keeps its votes and no month is opened. -/
theorem of_rows (rows : ∀ name, SameVotes (database.row? name) (next.row? name))
    (months : ∀ id, database.row? (.tracker .user id) = none →
      next.row? (.tracker .user id) = none) : database.KeepsVotes next := by
  intro name
  cases name with
  | tracker kind id => exact rows (.tracker kind id)
  | day id day =>
      rw [held?_day, held?_day]
      cases before : database.row? (.tracker .user id) with
      | none =>
          rw [months id before]
          exact .absent
      | some counters =>
          have month := rows (.tracker .user id)
          rw [before] at month
          cases after : next.row? (.tracker .user id) with
          | none =>
              rw [after] at month
              cases month
          | some others => exact rows (.day id day)

theorem increment {updates : List Update} (none : WithoutVotes updates) (key : Key)
    (database : Database) : database.KeepsVotes (Database.increment key updates database).2 := by
  rcases increment_cases key updates database with
    ⟨batch, next, made, applied, accepted⟩ | ⟨error, refused⟩
  · rw [accepted]
    have adds := adds_of_applyBatch (Batch.kind_of_ofUpdates made) applied
    have added (counters : RowCounters) :
        SameVotes (some counters) (some (counters.add batch)) := by
      refine .kept fun counter vote => counters.cell?_add_of_unnamed fun entry member same => ?_
      obtain ⟨update, listed, named⟩ := Batch.exists_update_of_mem_counters made member
      exact none update listed (by rwa [named, same])
    apply of_rows
    case rows =>
      intro name
      by_cases own : name ∈ key.rows
      · rw [adds.rows name own]
        cases database.row? name with
        | none => exact .absent
        | some counters => exact added counters
      · rw [adds.others name own]
        exact .refl _
    case months =>
      intro id absent
      by_cases own : RowName.tracker .user id ∈ key.rows
      · rw [adds.rows _ own, absent]
        rfl
      · rw [adds.others _ own, absent]
  · rw [refused]
    exact refl database

theorem opens {kind : TrackerKind} {id : String} (opened : database.Opens kind id next) :
    database.KeepsVotes next := by
  cases opened with
  | nothing => exact refl database
  | rows absent zero others =>
      rintro (⟨other, otherId⟩ | ⟨otherId, day⟩)
      · rw [held?_tracker, held?_tracker]
        by_cases own : (RowName.tracker other otherId).IsOf kind id
        · obtain ⟨rfl, rfl⟩ := own
          rw [show database.row? (.tracker other otherId) = none from absent]
          exact .of_zero (zero _ ⟨rfl, rfl⟩)
        · rw [others _ own]
          exact .refl _
      · rw [held?_day, held?_day]
        by_cases own : (RowName.day otherId day).IsOf kind id
        · obtain ⟨rfl, rfl⟩ := own
          rw [show database.row? (.tracker .user otherId) = none from absent]
          refine .of_zero fun counters here => ?_
          obtain ⟨_, _, dayRow⟩ := Option.bind_eq_some_iff.mp here
          exact zero _ ⟨rfl, rfl⟩ counters dayRow
        · rw [others _ own, others (.tracker .user otherId) own]
          exact .refl _

/-! ## Calls -/

/-- A call that adds no vote keeps all votes. -/
theorem perform {call : StoreCall} (leaves : call.LeavesVotes) (database : Database) :
    database.KeepsVotes (store.perform call database).2 := by
  cases call with
  | ensure key template => exact opens (opens_ensure key template database)
  | increment key updates => exact increment leaves key database
  | content | user | contentRange | userRange => exact refl database

theorem after {calls : List StoreCall} (leaves : ∀ call ∈ calls, call.LeavesVotes)
    (database : Database) : database.KeepsVotes (store.after calls database) :=
  store.after_induction_mem
    (fun call member _ kept => kept.trans (perform (leaves call member) _)) (refl database)

end KeepsVotes

end Database

end Relational

namespace Record

open Relational (Database)

/-- Nobody votes for themselves, and nobody is who an event says that they are, unless it updates
a post.  An event on a post of the actor's own adds no vote on any store, and keeps all votes in
memory and in tables; one on a comment of the actor's own leaves every store as it is.  The owner
that an event names changes neither answer nor state, where the directory knows the owner. -/
structure Impartial (directory : Directory) (event : Event) (date : Date) : Prop where
  ownPost : event.OnOwnPost directory →
    (∀ {σ : Type} (store : Store σ) (state : σ),
      ∀ call ∈ calls store directory event date state, call.LeavesVotes) ∧
    (∀ memory, Memory.KeepsVotes memory (record Memory.store directory event date memory).2) ∧
    ∀ database, Database.KeepsVotes database
      (record Database.store directory event date database).2
  ownComment : event.OnOwnComment directory → ∀ {σ : Type} (store : Store σ) (state : σ),
    (record store directory event date state).2 = state
  named : event.operation ≠ .updateContent → ∀ (owner : String) {σ : Type} (store : Store σ)
    (state : σ), record store directory (event.withOwner owner) date state =
      record store directory event date state

theorem impartial_record (directory : Directory) (event : Event) (date : Date) :
    Impartial directory event date := by
  constructor
  case ownPost =>
    intro own
    refine ⟨fun store state call => leavesVotes_of_mem_calls own, fun memory => ?_,
      fun database => ?_⟩
    · rw [(record_eq_after Memory.store directory event date memory).1]
      exact Memory.KeepsVotes.after (fun call => leavesVotes_of_mem_calls own) memory
    · rw [(record_eq_after Database.store directory event date database).1]
      exact Database.KeepsVotes.after (fun call => leavesVotes_of_mem_calls own) database
  case ownComment => exact fun own σ => record_of_onOwnComment own
  case named => exact fun other owner σ store => record_withOwner store directory other owner date

/-- A post of one user, and a comment of another on it. -/
def twoAuthors : Directory :=
  ((Registry.empty.withPost "p1" "ana").withComment "c1" "bo").directory

def votedOnce : Memory :=
  (record Memory.store twoAuthors ((Event.updatePost (.user "bo") "ana" "p1").withVote .up) february
    Memory.empty).2

theorem impartial_record_votedOnce :
    votedOnce.contentAmount .post "p1240201" (.post .upVotes) = 1 ∧
      (record Memory.store twoAuthors ((Event.createComment "ana" "c2" "p1").withVote .up) february
        votedOnce).2.contentAmount .post "p1240201" (.post .upVotes) = 1 ∧
      (record Memory.store twoAuthors ((Event.updateComment "ana" "cy" "c1" "p1").withVote .down)
        february votedOnce).2 = votedOnce ∧
      record Memory.store twoAuthors ((Event.updateComment "bo" "bo" "c1" "p1").withOwner "cy")
          february votedOnce =
        record Memory.store twoAuthors (Event.updateComment "bo" "bo" "c1" "p1") february
          votedOnce := by
  have once : votedOnce.contentAmount .post "p1240201" (.post .upVotes) = 1 := by decide +kernel
  refine ⟨once, ?_, ?_, ?_⟩
  · obtain ⟨_, keeps, _⟩ := (impartial_record twoAuthors
      ((Event.createComment "ana" "c2" "p1").withVote .up) february).ownPost
        (.commented rfl rfl rfl rfl)
    exact ((keeps votedOnce).contents .post "p1240201" (.post .upVotes) (by decide +kernel)).trans
      once
  · exact (impartial_record twoAuthors
      ((Event.updateComment "ana" "cy" "c1" "p1").withVote .down) february).ownComment
        (.post rfl rfl rfl rfl) Memory.store votedOnce
  · exact (impartial_record twoAuthors (Event.updateComment "bo" "bo" "c1" "p1") february).named
      (by decide) "cy" Memory.store votedOnce

end Record

end ActivityLedger

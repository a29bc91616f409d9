import Payments.Concurrency.Histories
import Payments.Infrastructure.Uow

namespace Payments
namespace Properties

open Concurrency Infrastructure SqlAlchemyPaymentsUnitOfWork

/-!
# Commit and rollback in one block

The contract of a unit of work is stated by a reference semantics with no
flags.  The class agrees with it as long as no commit comes after a second
rollback that had something to discard: the flag of the first rollback turns
the second one into nothing.
-/

variable {Write Event : Type} {outbox_row : Event -> Write} {call : Call Write Event}
  {earlier history : List (Call Write Event)}

/-! ## The reference semantics -/

def writes_of (outbox_row : Event -> Write) : Call Write Event -> List Write
  | .write written => [written]
  | .collect_events events => events.map outbox_row
  | _ => []

/-- The writes that are still open, and those that a block has made durable. -/
def reference (outbox_row : Event -> Write) : List (Call Write Event) -> List Write × List Write
  | [] => ([], [])
  | .commit :: earlier => ([], (reference outbox_row earlier).2 ++ (reference outbox_row earlier).1)
  | .rollback :: earlier => ([], (reference outbox_row earlier).2)
  | call :: earlier =>
      ((reference outbox_row earlier).1 ++ writes_of outbox_row call, (reference outbox_row earlier).2)

/-- A write with no commit after it was followed by a rollback, and there had
been a rollback before the write as well. -/
def Doomed (outbox_row : Event -> Write) (earlier : List (Call Write Event)) : Prop :=
  Exists fun newer => Exists fun call => Exists fun older => earlier = newer ++ call :: older ∧
    writes_of outbox_row call ≠ [] ∧ .commit ∉ newer ∧ .rollback ∈ newer ∧ .rollback ∈ older

/-- A write has been neither committed nor rolled back. -/
def Unsettled (outbox_row : Event -> Write) (earlier : List (Call Write Event)) : Prop :=
  Exists fun newer => Exists fun call => Exists fun older => earlier = newer ++ call :: older ∧
    writes_of outbox_row call ≠ [] ∧ .commit ∉ newer ∧ .rollback ∉ newer

/-! ## Histories that grow by one call -/

theorem Doomed.not_commit : ¬ Doomed outbox_row (.commit :: earlier) := by
  rintro ⟨newer, call, older, split, _, unconfirmed, discarded, _⟩
  cases newer with
  | nil => cases discarded
  | cons newest rest =>
      cases (List.cons.inj split).1
      exact unconfirmed List.mem_cons_self

theorem unsettled_nil : ¬ Unsettled outbox_row [] := by
  rintro ⟨newer, call, older, split, _⟩
  cases newer <;> cases split

/-- A commit or a rollback leaves nothing open. -/
theorem unsettled_end (ends : call = .commit ∨ call = .rollback) : ¬ Unsettled outbox_row (call :: earlier) := by
  rintro ⟨newer, written, older, split, writes, uncommitted, kept⟩
  cases newer with
  | nil =>
      rcases List.cons.inj split with ⟨rfl, rfl⟩
      rcases ends with rfl | rfl <;> exact writes rfl
  | cons newest rest =>
      rcases List.cons.inj split with ⟨rfl, rfl⟩
      rcases ends with rfl | rfl
      · exact uncommitted List.mem_cons_self
      · exact kept List.mem_cons_self

/-- Another call adds its own writes to the open ones. -/
theorem unsettled_cons (not_commit : call ≠ .commit) (not_rollback : call ≠ .rollback) :
    Unsettled outbox_row (call :: earlier) <-> writes_of outbox_row call ≠ [] ∨ Unsettled outbox_row earlier := by
  constructor
  · rintro ⟨newer, written, older, split, writes, uncommitted, kept⟩
    cases newer with
    | nil =>
        rcases List.cons.inj split with ⟨rfl, rfl⟩
        exact .inl writes
    | cons newest rest =>
        rcases List.cons.inj split with ⟨rfl, rfl⟩
        exact .inr ⟨rest, written, older, rfl, writes, fun listed => uncommitted (List.mem_cons_of_mem _ listed),
          fun listed => kept (List.mem_cons_of_mem _ listed)⟩
  · rintro (writes | ⟨newer, written, older, rfl, writes, uncommitted, kept⟩)
    · exact ⟨[], call, earlier, rfl, writes, List.not_mem_nil, List.not_mem_nil⟩
    · refine ⟨call :: newer, written, older, rfl, writes, ?_, ?_⟩
      · exact List.not_mem_cons_of_ne_of_not_mem not_commit.symm uncommitted
      · exact List.not_mem_cons_of_ne_of_not_mem not_rollback.symm kept

theorem doomed_cons (not_commit : call ≠ .commit) (not_rollback : call ≠ .rollback) :
    Doomed outbox_row (call :: earlier) <-> Doomed outbox_row earlier := by
  constructor
  · rintro ⟨newer, written, older, split, writes, uncommitted, discarded, before⟩
    cases newer with
    | nil => cases discarded
    | cons newest rest =>
        rcases List.cons.inj split with ⟨rfl, rfl⟩
        have discarded' := (List.mem_cons.mp discarded).resolve_left not_rollback.symm
        exact ⟨rest, written, older, rfl, writes, fun listed => uncommitted (List.mem_cons_of_mem _ listed),
          discarded', before⟩
  · rintro ⟨newer, written, older, rfl, writes, uncommitted, discarded, before⟩
    refine ⟨call :: newer, written, older, rfl, writes, ?_, List.mem_cons_of_mem _ discarded, before⟩
    exact List.not_mem_cons_of_ne_of_not_mem not_commit.symm uncommitted

/-- A later rollback dooms the open writes that have a rollback before them. -/
theorem doomed_rollback : Doomed outbox_row (.rollback :: earlier) <->
    .rollback ∈ earlier ∧ (Doomed outbox_row earlier ∨ Unsettled outbox_row earlier) := by
  constructor
  · rintro ⟨newer, written, older, split, writes, uncommitted, discarded, before⟩
    cases newer with
    | nil => cases discarded
    | cons newest rest =>
        rcases List.cons.inj split with ⟨rfl, rfl⟩
        have uncommitted' := fun listed => uncommitted (List.mem_cons_of_mem _ listed)
        refine ⟨List.mem_append_right _ (List.mem_cons_of_mem _ before), ?_⟩
        by_cases again : .rollback ∈ rest
        · exact .inl ⟨rest, written, older, rfl, writes, uncommitted', again, before⟩
        · exact .inr ⟨rest, written, older, rfl, writes, uncommitted', again⟩
  · have not_commit {newer : List (Call Write Event)} (uncommitted : .commit ∉ newer) :
        .commit ∉ Call.rollback :: newer :=
      List.not_mem_cons_of_ne_of_not_mem (fun impossible => nomatch impossible) uncommitted
    rintro ⟨before, ⟨newer, written, older, rfl, writes, uncommitted, _, preceded⟩ |
      ⟨newer, written, older, rfl, writes, uncommitted, kept⟩⟩
    · exact ⟨.rollback :: newer, written, older, rfl, writes, not_commit uncommitted, List.mem_cons_self, preceded⟩
    · refine ⟨.rollback :: newer, written, older, rfl, writes, not_commit uncommitted, List.mem_cons_self, ?_⟩
      rcases List.mem_append.mp before with listed | listed
      · exact absurd listed kept
      · rcases List.mem_cons.mp listed with rfl | preceded
        · exact absurd rfl writes
        · exact preceded

/-- The reference keeps a write open exactly while it is unsettled. -/
theorem reference_open_iff (history : List (Call Write Event)) :
    (reference outbox_row history).1 ≠ [] <-> Unsettled outbox_row history := by
  induction history with
  | nil => exact iff_of_false (fun nonempty => nonempty rfl) unsettled_nil
  | cons call earlier inductionHypothesis =>
      have grows (added : List Write) : (reference outbox_row earlier).1 ++ added ≠ [] <->
          added ≠ [] ∨ Unsettled outbox_row earlier := by
        rw [← inductionHypothesis, ne_eq, List.append_eq_nil_iff, not_and_or, or_comm]
      cases call with
      | write written => exact (grows [written]).trans (@unsettled_cons _ _ _ (.write written) _ nofun nofun).symm
      | collect_events events =>
          have cons := @unsettled_cons _ _ outbox_row (.collect_events events) earlier nofun nofun
          exact (grows (events.map outbox_row)).trans cons.symm
      | commit => exact iff_of_false (fun nonempty => nonempty rfl) (unsettled_end (.inl rfl))
      | rollback => exact iff_of_false (fun nonempty => nonempty rfl) (unsettled_end (.inr rfl))

/-! ## The class and the reference, call by call -/

/-- A commit may be called when no open write of the session is a doomed one. -/
def Harmless (outbox_row : Event -> Write) (call : Call Write Event) (earlier : List (Call Write Event)) : Prop :=
  call = .commit -> ¬ Doomed outbox_row earlier

/-- The session holds the doomed writes before the open ones. -/
structure Tracks (outbox_row : Event -> Write) (start : List Write) (history : List (Call Write Event))
    (uow : SqlAlchemyPaymentsUnitOfWork Write Event) : Prop where
  session : Exists fun doomed => uow.session = some (doomed ++ (reference outbox_row history).1) ∧
    (doomed ≠ [] <-> Doomed outbox_row history)
  flag : uow.rolled_back = true <-> .rollback ∈ history
  agrees : Along (Harmless outbox_row) history -> uow.durable = start ++ (reference outbox_row history).2
  exceeds : ¬ Along (Harmless outbox_row) history ->
    (start ++ (reference outbox_row history).2).length < uow.durable.length

variable {start : List Write} {uow : SqlAlchemyPaymentsUnitOfWork Write Event}

theorem tracks_aenter : Tracks outbox_row uow.durable [] uow.aenter := by
  refine ⟨⟨[], rfl, iff_of_false (fun nonempty => nonempty rfl) ?_⟩, ?_, fun _ => ?_, fun refuted => ?_⟩
  · rintro ⟨newer, call, older, split, _⟩
    cases newer <;> cases split
  · exact iff_of_false Bool.false_ne_true List.not_mem_nil
  · exact (List.append_nil _).symm
  · exact absurd trivial refuted

/-- Only a commit can be harmful. -/
theorem along_cons_iff (not_commit : call ≠ .commit) :
    Along (Harmless outbox_row) (call :: earlier) <-> Along (Harmless outbox_row) earlier :=
  and_iff_right (fun same => absurd same not_commit)

/-- A call that writes keeps the order of the session. -/
theorem Tracks.writes {next : SqlAlchemyPaymentsUnitOfWork Write Event} (tracks : Tracks outbox_row start earlier uow)
    (not_commit : call ≠ .commit) (not_rollback : call ≠ .rollback)
    (grown : forall writes, uow.session = some writes -> next.session = some (writes ++ writes_of outbox_row call))
    (flag : next.rolled_back = uow.rolled_back) (durable : next.durable = uow.durable)
    (reference_eq : reference outbox_row (call :: earlier) =
      ((reference outbox_row earlier).1 ++ writes_of outbox_row call, (reference outbox_row earlier).2)) :
    Tracks outbox_row start (call :: earlier) next := by
  rcases tracks.session with ⟨doomed, opened, doomed_iff⟩
  refine ⟨⟨doomed, ?_, ?_⟩, ?_, ?_, ?_⟩
  · rw [grown _ opened, reference_eq, List.append_assoc]
  · rw [doomed_cons not_commit not_rollback]
    exact doomed_iff
  · rw [flag, tracks.flag, List.mem_cons, or_iff_right not_rollback.symm]
  · rw [along_cons_iff not_commit, reference_eq, durable]
    exact tracks.agrees
  · rw [along_cons_iff not_commit, reference_eq, durable]
    exact tracks.exceeds

theorem Tracks.commit (tracks : Tracks outbox_row start earlier uow) :
    Exists fun next => uow.commit = .ok next ∧ Tracks outbox_row start (.commit :: earlier) next := by
  rcases tracks.session with ⟨doomed, opened, doomed_iff⟩
  refine ⟨_, by rw [SqlAlchemyPaymentsUnitOfWork.commit, opened], ⟨[], rfl, ?_⟩, ?_, ?_, ?_⟩
  · exact iff_of_false (fun nonempty => nonempty rfl) Doomed.not_commit
  · rw [List.mem_cons, or_iff_right nofun]
    exact tracks.flag
  · rintro ⟨harmless, before⟩
    have nothing : doomed = [] := by
      by_contra nonempty
      exact harmless rfl (doomed_iff.mp nonempty)
    change uow.durable ++ (doomed ++ _) = start ++ ((reference outbox_row earlier).2 ++ _)
    rw [tracks.agrees before, nothing, List.append_assoc]
    rfl
  · intro refuted
    change (start ++ ((reference outbox_row earlier).2 ++ (reference outbox_row earlier).1)).length <
      (uow.durable ++ (doomed ++ (reference outbox_row earlier).1)).length
    by_cases before : Along (Harmless outbox_row) earlier
    · have harmful : Doomed outbox_row earlier := by
        by_contra harmless
        exact refuted ⟨fun _ => harmless, before⟩
      have some_doomed := List.length_pos_iff.mpr (doomed_iff.mpr harmful)
      rw [tracks.agrees before]
      simp only [List.length_append]
      omega
    · have longer := tracks.exceeds before
      simp only [List.length_append] at longer ⊢
      omega

theorem Tracks.rollback (tracks : Tracks outbox_row start earlier uow) :
    Tracks outbox_row start (.rollback :: earlier) uow.rollback := by
  rcases tracks.session with ⟨doomed, opened, doomed_iff⟩
  have along : Along (Harmless outbox_row) (.rollback :: earlier) <-> Along (Harmless outbox_row) earlier :=
    along_cons_iff nofun
  cases again : uow.rolled_back with
  | true =>
      -- The second rollback does nothing: what was open is doomed from now on.
      have same : uow.rollback = uow := by rw [SqlAlchemyPaymentsUnitOfWork.rollback, again, Bool.or_true, if_pos rfl]
      have before : .rollback ∈ earlier := tracks.flag.mp again
      rw [same]
      refine ⟨⟨doomed ++ (reference outbox_row earlier).1, ?_, ?_⟩, ?_, ?_, ?_⟩
      · rw [opened]
        exact congrArg some (List.append_nil _).symm
      · rw [doomed_rollback, and_iff_right before, ← reference_open_iff, ← doomed_iff, ne_eq,
          List.append_eq_nil_iff, not_and_or]
      · exact iff_of_true again List.mem_cons_self
      · rw [along]
        exact tracks.agrees
      · rw [along]
        exact tracks.exceeds
  | false =>
      have first : .rollback ∉ earlier := by
        rw [← tracks.flag, again]
        exact Bool.false_ne_true
      have fresh : uow.rollback = { uow with session := some [], rolled_back := true } := by
        rw [SqlAlchemyPaymentsUnitOfWork.rollback, again, opened]
        rfl
      rw [fresh]
      refine ⟨⟨[], rfl, ?_⟩, iff_of_true rfl List.mem_cons_self, ?_, ?_⟩
      · refine iff_of_false (fun nonempty => nonempty rfl) ?_
        rw [doomed_rollback]
        exact fun both => first both.1
      · rw [along]
        exact tracks.agrees
      · rw [along]
        exact tracks.exceeds

theorem Tracks.perform (tracks : Tracks outbox_row start earlier uow) (call : Call Write Event) :
    Exists fun next => SqlAlchemyPaymentsUnitOfWork.perform outbox_row call uow = .ok next ∧
      Tracks outbox_row start (call :: earlier) next := by
  rcases tracks.session with ⟨doomed, opened, _⟩
  cases call with
  | write written =>
      refine ⟨_, by rw [SqlAlchemyPaymentsUnitOfWork.perform, SqlAlchemyPaymentsUnitOfWork.write, opened], ?_⟩
      refine tracks.writes nofun nofun (fun writes found => ?_) rfl rfl rfl
      cases opened.symm.trans found
      rfl
  | collect_events events =>
      refine ⟨_, by rw [SqlAlchemyPaymentsUnitOfWork.perform, SqlAlchemyPaymentsUnitOfWork.collect_events, opened], ?_⟩
      refine tracks.writes nofun nofun (fun writes found => ?_) rfl rfl rfl
      cases opened.symm.trans found
      rfl
  | commit => exact tracks.commit
  | rollback => exact ⟨_, rfl, tracks.rollback⟩

/-- No call inside the block fails, and the state after it follows the reference. -/
theorem tracks_after (outbox_row : Event -> Write) (uow : SqlAlchemyPaymentsUnitOfWork Write Event)
    (history : List (Call Write Event)) :
    Exists fun reached => after outbox_row uow history = .ok reached ∧
      Tracks outbox_row uow.durable history reached := by
  induction history with
  | nil => exact ⟨uow.aenter, rfl, tracks_aenter⟩
  | cons call earlier inductionHypothesis =>
      rcases inductionHypothesis with ⟨reached, ran, tracks⟩
      rcases tracks.perform call with ⟨next, performed, tracked⟩
      refine ⟨next, ?_, tracked⟩
      rw [after, ran]
      exact performed

theorem aexit_durable (raised : Bool) (uow : SqlAlchemyPaymentsUnitOfWork Write Event) :
    (uow.aexit raised).durable = uow.durable := by
  rw [aexit]
  dsimp only
  split
  · rw [SqlAlchemyPaymentsUnitOfWork.rollback]
    split <;> rfl
  · rfl

/-- A block in which the caller never rolls back follows the reference, as
`transactional` and the worker use it. -/
theorem without_rollback (outbox_row : Event -> Write) {history : List (Call Write Event)}
    (never : .rollback ∉ history) : Along (Harmless outbox_row) history := by
  induction history with
  | nil => trivial
  | cons call earlier inductionHypothesis =>
      refine ⟨fun _ doomed => ?_, inductionHypothesis (fun listed => never (List.mem_cons_of_mem _ listed))⟩
      rcases doomed with ⟨newer, written, older, rfl, _, _, discarded, _⟩
      exact never (List.mem_cons_of_mem _ (List.mem_append_left _ discarded))

/-- However a block is left, its session is closed, and the database has kept
what the reference says exactly when no commit found a doomed write, as in every
block whose caller never rolls back. -/
theorem block_durable_iff (outbox_row : Event -> Write) (raised : Bool) (history : List (Call Write Event))
    (uow : SqlAlchemyPaymentsUnitOfWork Write Event) :
    Exists fun left => block outbox_row raised history uow = .ok left ∧ left.session = none ∧
      (left.durable = uow.durable ++ (reference outbox_row history).2 <->
        Along (Harmless outbox_row) history) ∧
      (.rollback ∉ history -> left.durable = uow.durable ++ (reference outbox_row history).2) := by
  rcases tracks_after outbox_row uow history with ⟨reached, ran, tracks⟩
  refine ⟨reached.aexit raised, ?_, rfl, ?_, fun never => ?_⟩
  · rw [block, ran]
    rfl
  · rw [aexit_durable]
    constructor
    · intro same
      by_contra refuted
      exact absurd (congrArg List.length same) (tracks.exceeds refuted).ne'
    · exact tracks.agrees
  · rw [aexit_durable]
    exact tracks.agrees (without_rollback outbox_row never)

/-- A unit of work before its block. -/
def unused : SqlAlchemyPaymentsUnitOfWork Nat Nat where
  session := none
  committed := false
  rolled_back := false
  collected_events := []
  durable := []

/-- A rollback, a write, a second rollback and a commit, the last one first. -/
def second_rollback : List (Call Nat Nat) := [.commit, .rollback, .write 7, .rollback]

/-- The commit makes the write durable that the second rollback had to discard. -/
theorem second_rollback_kept : Exists fun left => block id false second_rollback unused = .ok left ∧
    left.durable = [7] ∧ unused.durable ++ (reference id second_rollback).2 = [] :=
  ⟨_, rfl, rfl, rfl⟩

end Properties
end Payments

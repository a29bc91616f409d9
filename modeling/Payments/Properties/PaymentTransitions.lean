import Payments.Infrastructure.Sessions
import Payments.Properties.PaymentFinality

namespace Payments
namespace Properties

open Concurrency Domain Infrastructure Application Prog UnitOfWork Payments.System

/-!
# The statements refine the state machine of the aggregate

The transition table stands in the aggregate, and three statements with a
hard-coded target change the stored row.  They agree because each statement is
given the status and version that the aggregate had before its own mark, and
because the row that a run has written is the row it will be asked about next.
-/

variable {deployment : Deployment} {world after : World} {run : RunId} {op : Op} {key : UUID}

/-! ## What a run has written -/

/-- The versions of a payment that were written, newest first. -/
def writes (key : UUID) (own : List Event) : List PaymentModel :=
  own.flatMap (fun event => match event with
    | .updated .payments _ rows => rows.filter (fun row : PaymentModel => decide (row.id = key))
    | _ => [])

/-- One write after the status and version before it. -/
def Follows (row : PaymentModel) (status : PaymentStatus) (version : Nat) : Prop :=
  row.status ∈ Payment.VALID_TRANSITIONS status ∧ row.version = version + 1

/-- The writes of a payment go along the transition table, from the payment as it was created. -/
def WritePath : List PaymentModel -> Prop
  | [] => True
  | [row] => Follows row .PENDING 0
  | row :: older :: rest => Follows row older.status older.version ∧ WritePath (older :: rest)

theorem writes_cons_updated (statement : Update .payments) (rows : List PaymentModel) (own : List Event) :
    writes key (.updated .payments statement rows :: own) =
      rows.filter (fun row => decide (row.id = key)) ++ writes key own :=
  rfl

/-- Other events write no payment. -/
def silent : Event -> Bool
  | .updated .payments _ _ => false
  | _ => true

theorem writes_cons_silent {event : Event} (quiet : silent event = true) (own : List Event) :
    writes key (event :: own) = writes key own := by
  unfold writes
  rw [List.flatMap_cons]
  cases event with
  | updated name statement rows =>
      cases name with
      | payments => cases quiet
      | _ => rfl
  | _ => rfl

theorem writes_of_unwritten {own : List Event} (unwritten : Unwritten own) : writes key own = [] := by
  refine List.flatMap_eq_nil_iff.mpr (fun event listed => ?_)
  cases event with
  | updated name statement rows =>
      cases name with
      | payments =>
          cases rows with
          | nil => rfl
          | cons row rest => exact absurd listed (unwritten statement row rest)
      | _ => rfl
  | _ => rfl

/-- The writes of the run follow the table, and what it holds in work it has written last. -/
structure WritesOf (run : RunId) (world : World) : Prop where
  path : forall key, WritePath (writes key (world.own run))
  current : forall key row, (world.cell .payments key).lock = some (run, some row) ->
    row.status = .PROCESSING -> (writes key (world.own run)).head? = some row

theorem WritesOf.untouched (known : WritesOf run world) (untouched : World.Untouched run world after) :
    WritesOf run after := by
  refine ⟨fun key => ?_, fun key row locked processing => ?_⟩
  · rw [untouched.own]
    exact known.path key
  · rw [untouched.own]
    exact known.current key row ((lock_iff untouched).mp locked) processing

/-- A step of the run that writes no payment. -/
theorem WritesOf.quiet (known : WritesOf run world)
    (own : after.own run = world.own run ∨
      Exists fun event => silent event = true ∧ after.own run = event :: world.own run)
    (locks : forall key row, (after.cell .payments key).lock = some (run, some row) -> row.status = .PROCESSING ->
      (world.cell .payments key).lock = some (run, some row)) : WritesOf run after := by
  have same : forall key, writes key (after.own run) = writes key (world.own run) := by
    intro key
    rcases own with same | ⟨event, quiet, grown⟩
    · rw [same]
    · rw [grown, writes_cons_silent quiet]
  refine ⟨fun key => ?_, fun key row locked processing => ?_⟩
  · rw [same]
    exact known.path key
  · rw [same]
    exact known.current key row (locks key row locked processing) processing

theorem mem_transitions_of_terminal {target : PaymentStatus} (terminal : target.terminal = true) :
    target ∈ Payment.VALID_TRANSITIONS .PROCESSING := by
  cases target with
  | SUCCEEDED => exact List.mem_cons_self
  | FAILED => exact List.mem_cons_of_mem _ List.mem_cons_self
  | PENDING => cases terminal
  | PROCESSING => cases terminal

/-- A payment in work is seen by the run that has taken it only. -/
theorem PaymentsKept.held_of_processing (kept : PaymentsKept world) {row : PaymentModel}
    (seen : (world.cell .payments key).visible run = some row) (processing : row.status = .PROCESSING) :
    (world.cell .payments key).lock = some (run, some row) := by
  by_cases mine : (world.cell .payments key).HeldBy run
  · rcases mine with ⟨draft, locked⟩
    rw [Cell.visible_of_lock locked] at seen
    rw [locked, seen]
  · rw [Cell.visible_of_not_heldBy mine] at seen
    rcases kept.fresh_or_final seen with fresh | final
    · rw [fresh.status] at processing
      cases processing
    · have terminal := final.terminal
      rw [processing] at terminal
      cases terminal

/-- The new write follows the last one of the run, or the payment as it was created. -/
theorem WritesOf.follows (known : WritesOf run world) (kept : PaymentsKept world) {id : UUID} {version : Nat}
    {status target : PaymentStatus} {time : Option Datetime}
    (permits : PaymentPermits run (.update .payments (.payment_transition id version status target time)) world)
    {row : PaymentModel} {instant : Datetime} (seen : (world.cell .payments id).visible run = some row)
    (selected : (Update.payment_transition id version status target time).condition row = true) :
    WritePath ((Update.payment_transition id version status target time).values instant row ::
      writes id (world.own run)) := by
  rcases transition_condition.mp selected with ⟨named, sameStatus, sameVersion⟩
  rcases permits.moving id version status target time rfl with
    ⟨rfl, rfl, rfl, rfl, _, unwritten⟩ | ⟨rfl, rfl, terminal, _⟩
  · rw [writes_of_unwritten unwritten]
    exact ⟨List.mem_singleton_self _, congrArg (· + 1) sameVersion⟩
  · have last := known.current id row (kept.held_of_processing seen sameStatus) sameStatus
    rcases List.head?_eq_some_iff.mp last with ⟨rest, split⟩
    have path := known.path id
    rw [split] at path ⊢
    refine ⟨⟨?_, rfl⟩, path⟩
    rw [sameStatus]
    exact mem_transitions_of_terminal terminal

/-- A statement on payments of a run appends to the path of one payment. -/
theorem WritesOf.transition (known : WritesOf run world) (kept : PaymentsKept world) {id : UUID} {version : Nat}
    {status target : PaymentStatus} {time : Option Datetime}
    (permits : PaymentPermits run (.update .payments (.payment_transition id version status target time)) world)
    {rows : List PaymentModel}
    (executed : World.Executed run world (.update .payments (.payment_transition id version status target time)) after
      (.ok rows)) : WritesOf run after := by
  have own := World.own_updated executed
  cases executed.updated_at kept.keyed transition_named with
  | missed unmatched empty same =>
      subst empty
      refine ⟨fun key => ?_, fun key row locked processing => ?_⟩
      · rw [own]
        exact known.path key
      · rw [own]
        rw [same] at locked
        exact known.current key row locked processing
  | matched row instant seen selected free single written others =>
      rcases transition_condition.mp selected with ⟨named, sameStatus, sameVersion⟩
      have written_id : PaymentModel.id ((Update.payment_transition id version status target time).values instant row) = id :=
        named
      have elsewhere : forall key, key ≠ id -> writes key (after.own run) = writes key (world.own run) := by
        intro key different
        rw [own, writes_cons_updated, single, List.filter_cons_of_neg, List.filter_nil, List.nil_append]
        rw [decide_eq_true_eq, written_id]
        exact fun same => different same.symm
      have here : writes id (after.own run) =
          (Update.payment_transition id version status target time).values instant row :: writes id (world.own run) := by
        rw [own, writes_cons_updated, single]
        simp only [List.filter_cons, List.filter_nil, written_id, decide_true, if_true]
        rfl
      refine ⟨fun key => ?_, fun key found locked processing => ?_⟩
      · by_cases same : key = id
        · subst same
          rw [here]
          exact known.follows kept permits seen selected
        · rw [elsewhere key same]
          exact known.path key
      · by_cases same : key = id
        · subst same
          rw [here]
          rw [written] at locked
          cases locked
          rfl
        · rw [elsewhere key same]
          rw [others .payments key (fun _ => same)] at locked
          exact known.current key found locked processing

theorem WritesOf.executed (known : WritesOf run world) (kept : PaymentsKept world)
    (permits : PaymentPermits run op world) {answer : Except Error op.Answer}
    (executed : World.Executed run world op after answer) : WritesOf run after := by
  by_cases update : Exists fun statement => op = .update .payments statement
  · rcases update with ⟨statement, rfl⟩
    cases statement with
    | payment_transition id version status target time =>
        cases answer with
        | ok rows => exact known.transition kept permits executed
        | error raised =>
            cases executed with
            | raised => exact known
  · refine known.quiet ?_ (fun key row locked processing => ?_)
    · rcases executed.own with same | ⟨event, records, grown⟩
      · exact .inl same
      · refine .inr ⟨event, ?_, grown⟩
        cases records with
        | updated name statement rows =>
            cases name with
            | payments => exact absurd ⟨statement, rfl⟩ update
            | _ => rfl
        | _ => rfl
    · cases executed.cell .payments key with
      | kept same => exact same ▸ locked
      | locked query limit row operation => exact absurd operation (permits.unlocked _ _)
      | updated statement time row operation => exact absurd ⟨statement, operation⟩ update
      | claimed query limit statement time row operation => exact absurd operation (permits.unclaimed _ _ _)
      | deleted cutoff row operation table => cases table
      | added row operation => exact absurd operation (permits.unadded row)
      | inserted row operation table own vacant same =>
          rw [same] at locked
          cases locked
          rw [(permits.inserting _ operation).status] at processing
          cases processing
      | committed operation same => exact absurd ⟨_, same ▸ locked⟩ Cell.not_heldBy_commit
      | released operation same => exact absurd ⟨_, same ▸ locked⟩ Cell.not_heldBy_rollback

/-- The repository calls that move a payment. -/
inductive Transition where
  | begin_processing (payment_id : UUID) (expected_version : Nat) (expected_status : PaymentStatus)
  | mark_succeeded (payment_id : UUID) (expected_version : Nat) (expected_status : PaymentStatus)
      (processed_at : Datetime)
  | mark_failed (payment_id : UUID) (expected_version : Nat) (expected_status : PaymentStatus)
      (processed_at : Datetime)

namespace Transition

def program : Transition -> Program Bool
  | .begin_processing payment_id expected_version expected_status =>
      SqlAlchemyPaymentRepository.begin_processing payment_id expected_version expected_status
  | .mark_succeeded payment_id expected_version expected_status processed_at =>
      SqlAlchemyPaymentRepository.mark_succeeded payment_id expected_version expected_status processed_at
  | .mark_failed payment_id expected_version expected_status processed_at =>
      SqlAlchemyPaymentRepository.mark_failed payment_id expected_version expected_status processed_at

def payment_id : Transition -> UUID
  | .begin_processing payment_id _ _ | .mark_succeeded payment_id _ _ _ | .mark_failed payment_id _ _ _ => payment_id

def expected_version : Transition -> Nat
  | .begin_processing _ version _ | .mark_succeeded _ version _ _ | .mark_failed _ version _ _ => version

def expected_status : Transition -> PaymentStatus
  | .begin_processing _ _ status | .mark_succeeded _ _ status _ | .mark_failed _ _ status _ => status

/-- The status that the `mark_*` method before the call has set. -/
def target : Transition -> PaymentStatus
  | .begin_processing _ _ _ => .PROCESSING
  | .mark_succeeded _ _ _ _ => .SUCCEEDED
  | .mark_failed _ _ _ _ => .FAILED

def processed_at : Transition -> Option Datetime
  | .begin_processing _ _ _ => none
  | .mark_succeeded _ _ _ processed_at | .mark_failed _ _ _ processed_at => some processed_at

def statement (call : Transition) : Update .payments :=
  .payment_transition call.payment_id call.expected_version call.expected_status call.target call.processed_at

end Transition

/-- A statement of a handler on the payments is that of one of the calls. -/
theorem PaymentPermits.transition {statement : Update .payments}
    (permits : PaymentPermits run (.update .payments statement) world) :
    Exists fun call : Transition => statement = call.statement := by
  cases statement with
  | payment_transition id version status target time =>
      rcases permits.moving id version status target time rfl with ⟨_, _, rfl, rfl, _⟩ | ⟨_, _, terminal, timed⟩
      · exact ⟨.begin_processing id version status, rfl⟩
      · rcases Option.isSome_iff_exists.mp timed with ⟨instant, rfl⟩
        cases target with
        | SUCCEEDED => exact ⟨.mark_succeeded id version status instant, rfl⟩
        | FAILED => exact ⟨.mark_failed id version status instant, rfl⟩
        | PENDING => cases terminal
        | PROCESSING => cases terminal

end Properties
end Payments

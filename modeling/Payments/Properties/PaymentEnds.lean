import Payments.Properties.PaymentTransitions
import Payments.Properties.ProcessingArguments

namespace Payments
namespace Properties

open Concurrency Domain Infrastructure Application Prog UnitOfWork Payments.System

/-!
# The time at which a payment has ended

A run that ends a payment has read its clock and has written this reading as
the time of the transition.  The commit that follows is the only one on record
that installs an ended version of the payment, so the time that anybody reads
later is the time of this transition.
-/

variable {deployment : Deployment} {world after : World} {run : RunId} {op : Op} {key : UUID} {row : PaymentModel}
  {time : Datetime}

/-- The run has read this time, and has ended the payment with it. -/
structure EndedBy (run : RunId) (key : UUID) (row : PaymentModel) (time : Datetime) (trace : List Entry) : Prop where
  shown : (.run run, .clock_read time) ∈ trace
  written : (.run run, .updated .payments (.payment_transition key 1 .PROCESSING row.status (some time)) [row]) ∈ trace

theorem EndedBy.mono {trace later : List Entry} (ended : EndedBy run key row time trace) (grown : trace <:+ later) :
    EndedBy run key row time later :=
  ⟨grown.mem ended.shown, grown.mem ended.written⟩

/-- Where a run holds a payment that has ended, it has ended it. -/
def Dated (run : RunId) (world : World) : Prop :=
  forall key row time, (world.cell .payments key).lock = some (run, some row) -> row.processed_at = some time ->
    EndedBy run key row time world.trace

/-- A step that gives the run no further end of a payment. -/
theorem Dated.kept (known : Dated run world) (grown : world.trace <:+ after.trace)
    (locks : forall key row time, (after.cell .payments key).lock = some (run, some row) ->
      row.processed_at = some time -> (world.cell .payments key).lock = some (run, some row)) : Dated run after :=
  fun key row time locked processed =>
    (known key row time (locks key row time locked processed) processed).mono grown

/-- A statement on payments writes an end with a time that was read. -/
theorem Dated.transition (known : Dated run world) (kept : PaymentsKept world) {id : UUID} {version : Nat}
    {status target : PaymentStatus} {instant : Option Datetime} {concerns : UUID -> Option String -> Prop}
    (permits : PaymentPermits run (.update .payments (.payment_transition id version status target instant)) world)
    (arguments : Arguments concerns run (.update .payments (.payment_transition id version status target instant)) world)
    {rows : List PaymentModel}
    (executed : World.Executed run world (.update .payments (.payment_transition id version status target instant))
      after (.ok rows)) : Dated run after := by
  have grown := World.trace_executed executed
  cases executed.updated_at kept.keyed transition_named with
  | missed unmatched empty same =>
      refine known.kept grown (fun key row time locked _ => ?_)
      rw [same] at locked
      exact locked
  | matched row now seen selected free single written others =>
      rcases transition_condition.mp selected with ⟨_, sameStatus, _⟩
      intro key found time locked processed
      by_cases here : key = id
      · subst here
        rw [written] at locked
        cases locked
        rcases permits.moving key version status target instant rfl with
          ⟨rfl, rfl, rfl, rfl, away, _⟩ | ⟨rfl, rfl, terminal, ended⟩
        · -- the beginning of the work leaves the time as it was, and nobody has ended the payment
          rw [Cell.visible_of_not_heldBy away] at seen
          have unprocessed : row.processed_at = some time := processed
          rcases kept.fresh_or_final seen with fresh | final
          · rw [fresh.processed_at] at unprocessed
            cases unprocessed
          · have terminal := final.terminal
            rw [sameStatus] at terminal
            cases terminal
        · rcases Option.isSome_iff_exists.mp ended with ⟨reading, rfl⟩
          have same : some reading = some time := processed
          cases same
          have shown := arguments.timed key 1 .PROCESSING target _ rfl
          refine ⟨grown.mem (own_mem.mp shown), own_mem.mp ?_⟩
          rw [World.own_updated executed, single]
          exact List.mem_cons_self
      · rw [others .payments key (fun _ => here)] at locked
        exact (known key found time locked processed).mono grown

theorem Dated.executed (known : Dated run world) (kept : PaymentsKept world) (permits : PaymentPermits run op world)
    {concerns : UUID -> Option String -> Prop} (arguments : Arguments concerns run op world)
    {answer : Except Error op.Answer} (executed : World.Executed run world op after answer) : Dated run after := by
  by_cases update : Exists fun statement => op = .update .payments statement
  · rcases update with ⟨statement, rfl⟩
    cases statement with
    | payment_transition id version status target instant =>
        cases answer with
        | ok rows => exact known.transition kept permits arguments executed
        | error raised =>
            cases executed with
            | raised => exact known
  · refine known.kept (World.trace_executed executed) (fun key row time locked processed => ?_)
    cases executed.cell .payments key with
    | kept same => exact same ▸ locked
    | locked query limit row operation => exact absurd operation (permits.unlocked _ _)
    | updated statement time row operation => exact absurd ⟨statement, operation⟩ update
    | claimed query limit statement time row operation => exact absurd operation (permits.unclaimed _ _ _)
    | deleted cutoff row operation table => cases table
    | added row operation => exact absurd operation (permits.unadded row)
    | inserted row operation table own vacant same =>
        rw [same] at locked
        cases locked
        rw [(permits.inserting _ operation).processed_at] at processed
        cases processed
    | committed operation same => exact absurd ⟨_, same ▸ locked⟩ Cell.not_heldBy_commit
    | released operation same => exact absurd ⟨_, same ▸ locked⟩ Cell.not_heldBy_rollback

theorem dated_kept {state : (service deployment).State}
    (reached : Machine.Reachable (fun _ _ => True) World.initial state) (run : RunId) : Dated run state.shared := by
  induction reached with
  | refl => exact fun key row time locked => by cases locked
  | @step state next action earlier taken admitted inductionHypothesis =>
      have kept := (payment_verified deployment).invariant earlier
      rcases Machine.step_cases taken with
        ⟨other, job, shared, absent, started, rfl⟩ | ⟨other, job, op, rest, choice, outcome, running, ran, rfl⟩ |
        ⟨other, job, op, rest, running, rfl⟩ | ⟨event, shared, happened, rfl⟩
      · rcases start_cases started with same | ⟨settings, message, _, _, same⟩
        · exact same ▸ inductionHypothesis
        · rw [same]
          exact inductionHypothesis.kept (List.suffix_cons _ _) (fun _ _ _ locked _ => locked)
      · by_cases mine : run = other
        · subst mine
          exact inductionHypothesis.executed kept ((payment_verified deployment).permitted earlier running)
            (arguments_asked earlier running) (service_executed ran)
        · have untouched := (service_executed ran).untouched mine
          exact inductionHypothesis.kept (World.trace_executed (service_executed ran))
            (fun _ _ _ locked _ => (lock_iff untouched).mp locked)
      · refine inductionHypothesis.kept World.trace_crash (fun key row time locked _ => ?_)
        by_cases mine : run = other
        · subst mine
          have locked : ((World.crash run state.shared).cell .payments key).lock = some (run, some row) := locked
          rw [World.crash_cell] at locked
          exact absurd ⟨_, locked⟩ Cell.not_heldBy_rollback
        · exact (lock_iff (World.crash_untouched mine)).mp locked
      · have occurred := World.happen_occurred happened
        exact inductionHypothesis.kept (World.trace_occurred occurred)
          (fun _ _ _ locked _ => (lock_iff (occurred.untouched run)).mp locked)

/-! ## The transition on record -/

/-- An ended version is installed by the run that has ended the payment. -/
def TimeAllowed (entry : Entry) (earlier : List Entry) : Prop :=
  forall run record key row time, entry = (.run run, .committed record) -> (key, some row) ∈ record .payments ->
    row.processed_at = some time -> EndedBy run key row time earlier

theorem times_allowed {state : (service deployment).State}
    (reached : Machine.Reachable (fun _ _ => True) World.initial state) : Along TimeAllowed state.shared.trace := by
  refine reachable_along ?_ ?_ ?_ ?_ reached
  · rintro run message earlier other record key row time same
    cases same
  · rintro run earlier other record key row time same
    cases same
  · rintro state event after reached' occurred recorded other record key row time same
    cases same
  · intro state run op event reached' pending records other record key row time same listed processed
    cases same
    cases records with
    | committed => exact dated_kept reached' run key row time (World.mem_record.mp listed) processed

/-- The commit of the transition that has ended the payment: the clock of its
run has shown the time, and no other commit has ended the payment. -/
structure TerminalTransition (trace : List Entry) (key : UUID) (row : PaymentModel) (time : Datetime) (run : RunId)
    (record : Record) (earlier : List Entry) : Prop where
  committed : Exists fun recent => trace = recent ++ (.run run, .committed record) :: earlier
  installed : (key, some row) ∈ record .payments
  processed_at : row.processed_at = some time
  ended : EndedBy run key row time earlier
  only : forall other record' row', (.run other, .committed record') ∈ trace -> (key, some row') ∈ record' .payments ->
    Final row' -> row' = row ∧ other = run

theorem terminal_transition {state : (service deployment).State}
    (reached : Machine.Reachable (fun _ _ => True) World.initial state)
    (found : (state.shared.cell .payments key).committed = some row) (final : Final row) :
    Exists fun time => Exists fun run => Exists fun record => Exists fun earlier =>
      TerminalTransition state.shared.trace key row time run record earlier := by
  have kept := (payment_verified deployment).invariant reached
  rcases Option.isSome_iff_exists.mp final.processed_at with ⟨time, processed⟩
  rcases kept.recorded key row found with ⟨run, record, recorded, installed⟩
  rcases List.append_of_mem recorded with ⟨recent, earlier, split⟩
  refine ⟨time, run, record, earlier, ⟨recent, split⟩, installed, processed, ?_, ?_⟩
  · exact (times_allowed reached).at_split split run record key row time rfl installed processed
  · intro other record' row' recorded' installed' final'
    refine ⟨?_, kept.ended_by recorded' installed' final' recorded installed final⟩
    rcases kept.installed other record' key row' recorded' installed' with ⟨later, found', grows⟩
    have same := grows.of_final final'
    rw [found] at found'
    cases found'
    exact same.symm

end Properties
end Payments

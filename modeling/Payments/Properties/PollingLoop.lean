import Payments.Infrastructure.Polling

namespace Payments
namespace Properties

open Concurrency Domain Infrastructure Application Prog

/-!
# The polling loop goes on

Neither a failed batch nor a failed retention step ends the loop of the outbox
worker.  What can end it lies outside of its two `try` blocks: the remainder of
the cycle count and the sleep.
-/

/-- What the two guarded calls come to in each cycle, and whether a sleep is
cancelled. -/
abbrev CallResults : Type := List PollingCall -> PollingCall -> Except Error Unit

/-- The answers to the calls of the loop.  A sleep that is not cancelled ends as its
delay says. -/
def loop_answers (results : CallResults) : Oracle polling
  | called, .sleep delay =>
      match results called (.sleep delay) with
      | .error .cancelled => some (.error .cancelled)
      | _ => asyncio_sleep delay
  | called, op => some (results called op)

/-- Nobody cancels the worker. -/
def Uncancelled (results : CallResults) : Prop :=
  forall called op, results called op ≠ .error .cancelled

/-- The retention step, in the cycles whose number is a multiple of the interval. -/
def retention (settings : Settings) (number : Nat) : List PollingCall :=
  if settings.OUTBOX_PURGE_INTERVAL ∣ (number : Int) then [.purge_processed] else []

/-- What a cycle awaits. -/
def cycle_calls (settings : Settings) (number : Nat) : List PollingCall :=
  [.publish_batch] ++ retention settings number ++ [.sleep settings.OUTBOX_POLL_INTERVAL]

/-- The first cycles of the loop under these results. -/
def polled (settings : Settings) (results : CallResults) (cycles : Nat) :
    List PollingCall × Option (Except Error Unit) :=
  (OutboxWorker.loop settings 0 cycles).follow (loop_answers results) []

structure Survives (settings : Settings) : Prop where
  goes_on : forall results, Uncancelled results -> forall cycles,
    polled settings results cycles = ((List.range' 1 cycles).flatMap (cycle_calls settings), some (.ok ()))
  cancelled : forall results cycles error,
    (polled settings results cycles).2 = some (.error error) -> error = .cancelled

variable {settings : Settings} {results : CallResults} {called : List PollingCall}

/-- The program makes these calls and goes on with the next one, or it has been
cancelled in one of them. -/
def Reaches (results : CallResults) (called : List PollingCall) (program : Prog polling Unit) (calls : List PollingCall)
    (next : Prog polling Unit) : Prop :=
  program.follow (loop_answers results) called = next.follow (loop_answers results) (called ++ calls) ∨
    (program.follow (loop_answers results) called).2 = some (.error .cancelled) ∧ ¬ Uncancelled results

theorem Reaches.trans {program middle next : Prog polling Unit} {first second : List PollingCall}
    (reaches : Reaches results called program first middle)
    (later : Reaches results (called ++ first) middle second next) :
    Reaches results called program (first ++ second) next := by
  rcases reaches with same | ended
  · rcases later with again | ⟨cancelled, told⟩
    · left
      rw [same, again, List.append_assoc]
    · right
      rw [same]
      exact ⟨cancelled, told⟩
  · exact .inr ended

theorem guarded_reaches {op : PollingCall} (awake : forall delay, op ≠ .sleep delay)
    (rest : Unit -> Prog polling Unit) :
    Reaches results called (OutboxWorker.guarded op >>= rest) [op] (rest ()) := by
  have answered : loop_answers results called op = some (results called op) := by
    cases op with
    | sleep delay => exact absurd rfl (awake delay)
    | _ => rfl
  rw [Reaches, follow_bind, OutboxWorker.guarded, follow_tryCatch, follow_perform, answered]
  cases ended : results called op with
  | ok value => exact .inl rfl
  | error error =>
      cases error with
      | cancelled => exact .inr ⟨rfl, fun uncancelled => uncancelled called op ended⟩
      | _ => exact .inl rfl

theorem sleep_reaches {delay : Seconds} (returns : asyncio_sleep delay = some (.ok ()))
    (rest : Unit -> Prog polling Unit) :
    Reaches results called (@perform polling (.sleep delay) >>= rest) [.sleep delay] (rest ()) := by
  rw [Reaches, follow_bind, follow_perform, loop_answers, returns]
  cases ended : results called (.sleep delay) with
  | ok value => exact .inl rfl
  | error error =>
      cases error with
      | cancelled => exact .inr ⟨rfl, fun uncancelled => uncancelled called _ ended⟩
      | _ => exact .inl rfl

/-- The guarded part of a cycle. -/
theorem cycle_guarded (interval : settings.OUTBOX_PURGE_INTERVAL ≠ 0) (done cycles : Nat) :
    Reaches results called (OutboxWorker.loop settings done (cycles + 1))
      ([.publish_batch] ++ retention settings (done + 1))
      (@perform polling (.sleep settings.OUTBOX_POLL_INTERVAL) >>= fun _ =>
        OutboxWorker.loop settings (done + 1) cycles) := by
  rw [OutboxWorker.loop, if_neg interval]
  refine (guarded_reaches (by simp) _).trans ?_
  rw [retention]
  by_cases multiple : settings.OUTBOX_PURGE_INTERVAL ∣ ((done + 1 : Nat) : Int)
  · rw [if_pos multiple, if_pos (Int.emod_eq_zero_of_dvd multiple)]
    exact guarded_reaches (by simp) _
  · rw [if_neg multiple, if_neg (fun zero => multiple (Int.dvd_of_emod_eq_zero zero))]
    exact .inl (by rw [List.append_nil])

/-- One cycle, whatever its calls come to. -/
theorem cycle_reaches (interval : settings.OUTBOX_PURGE_INTERVAL ≠ 0)
    (returns : asyncio_sleep settings.OUTBOX_POLL_INTERVAL = some (.ok ())) (done cycles : Nat) :
    Reaches results called (OutboxWorker.loop settings done (cycles + 1)) (cycle_calls settings (done + 1))
      (OutboxWorker.loop settings (done + 1) cycles) :=
  (cycle_guarded interval done cycles).trans (sleep_reaches returns _)

/-- Any number of cycles. -/
theorem loop_reaches (interval : settings.OUTBOX_PURGE_INTERVAL ≠ 0)
    (returns : asyncio_sleep settings.OUTBOX_POLL_INTERVAL = some (.ok ())) (done cycles : Nat) :
    Reaches results called (OutboxWorker.loop settings done cycles)
      ((List.range' (done + 1) cycles).flatMap (cycle_calls settings)) (.ret ()) := by
  induction cycles generalizing done called with
  | zero => exact .inl (by rw [List.range'_zero, List.flatMap_nil, List.append_nil]; rfl)
  | succ cycles inductionHypothesis =>
      rw [List.range'_succ, List.flatMap_cons]
      exact (cycle_reaches interval returns done cycles).trans (inductionHypothesis (done + 1))

theorem survives_of (interval : settings.OUTBOX_PURGE_INTERVAL ≠ 0)
    (returns : asyncio_sleep settings.OUTBOX_POLL_INTERVAL = some (.ok ())) : Survives settings where
  goes_on := by
    intro results uncancelled cycles
    rcases loop_reaches interval returns 0 cycles with same | ⟨_, told⟩
    · exact same
    · exact absurd uncancelled told
  cancelled := by
    intro results cycles error raised
    have reaches : Reaches results [] (OutboxWorker.loop settings 0 cycles) _ (.ret ()) :=
      loop_reaches interval returns 0 cycles
    rcases reaches with same | ⟨ended, _⟩
    · rw [polled, same] at raised
      cases raised
    · rw [polled, ended] at raised
      cases raised
      rfl

/-- Calls that all return. -/
def quiet_results : CallResults := fun _ _ => .ok ()

theorem quiet_uncancelled : Uncancelled quiet_results := fun _ _ => nofun

/-- What the first cycle of a loop that survives tells. -/
theorem Survives.first_cycle (survives : Survives settings) : (polled settings quiet_results 1).2 = some (.ok ()) :=
  congrArg Prod.snd (survives.goes_on quiet_results quiet_uncancelled 1)

theorem Survives.interval (survives : Survives settings) : settings.OUTBOX_PURGE_INTERVAL ≠ 0 := by
  intro zero
  have first := survives.first_cycle
  rw [polled, OutboxWorker.loop, if_pos zero] at first
  have impossible : some (Except.error Error.zeroDivision : Except Error Unit) = some (.ok ()) := first
  cases impossible

theorem Survives.returns (survives : Survives settings) :
    asyncio_sleep settings.OUTBOX_POLL_INTERVAL = some (.ok ()) := by
  have first := survives.first_cycle
  have reaches : Reaches quiet_results [] (OutboxWorker.loop settings 0 1) _ _ := cycle_guarded survives.interval 0 0
  rcases reaches with same | ⟨_, told⟩
  · have slept : forall called, loop_answers quiet_results called (.sleep settings.OUTBOX_POLL_INTERVAL) =
        asyncio_sleep settings.OUTBOX_POLL_INTERVAL := fun _ => rfl
    rw [polled, same, follow_bind, follow_perform, slept] at first
    cases ended : asyncio_sleep settings.OUTBOX_POLL_INTERVAL with
    | none =>
        rw [ended] at first
        cases first
    | some answer =>
        rw [ended] at first
        cases answer with
        | ok value => rfl
        | error error => cases first
  · exact absurd quiet_uncancelled told

theorem sleep_returns_iff (delay : Seconds) : asyncio_sleep delay = some (.ok ()) <-> delay ≠ .infinity false := by
  cases delay with
  | finite value => simp [asyncio_sleep]
  | infinity negative => cases negative <;> simp [asyncio_sleep]
  | nan => simp [asyncio_sleep]

/-- The loop goes on whatever its calls come to, for the settings whose
interval is not zero and whose delay is not infinite, and it is the one that
the worker runs. -/
theorem loop_survives_iff (settings : Settings) :
    (Survives settings <-> settings.OUTBOX_PURGE_INTERVAL ≠ 0 ∧ settings.OUTBOX_POLL_INTERVAL ≠ .infinity false) ∧
      forall worker_id cycles, (OutboxWorker.loop settings 0 cycles).translate (OutboxWorker.awaited settings worker_id) =
        OutboxWorker.run settings worker_id 0 cycles := by
  rw [← sleep_returns_iff]
  exact ⟨⟨fun survives => ⟨survives.interval, survives.returns⟩, fun known => survives_of known.1 known.2⟩,
    fun worker_id cycles => OutboxWorker.loop_translated settings worker_id 0 cycles⟩

/-- A retention step in every cycle, `OUTBOX_PURGE_INTERVAL = 0`. -/
def purging_always : Settings := { OUTBOX_PURGE_INTERVAL := 0 }

/-- The first cycle ends the loop with an exception although its batch has
been published. -/
theorem loop_ended_by_division :
    polled purging_always quiet_results 1 = ([.publish_batch], some (.error .zeroDivision)) ∧
      ¬ Survives purging_always := by
  have ended : polled purging_always quiet_results 1 = ([.publish_batch], some (.error .zeroDivision)) := rfl
  refine ⟨ended, fun survives => ?_⟩
  have error := survives.cancelled quiet_results 1 .zeroDivision (congrArg Prod.snd ended)
  cases error

end Properties
end Payments

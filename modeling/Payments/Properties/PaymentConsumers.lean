import Payments.Properties.PaymentRuns

namespace Payments
namespace Properties

open Concurrency Domain Infrastructure Application Prog UnitOfWork Payments.System

/-!
# Consumers, and the payment discipline of the whole service

A consumer answers its message when it knows what has become of the payment.
With this last program the discipline is verified for every job, so its
invariant holds in every reachable state of the service.
-/

variable {deployment : Deployment} {world after : World} {run : RunId} {op : Op} {message : Message}
  {earlier : List Entry}

/-- The consumer holds its message, or the broker has taken it back. -/
structure Handed (run : RunId) (message : Message) (earlier : List Entry) (world : World) : Prop where
  unacked : world.broker.unacked run = some message ∨ world.broker.unacked run = none
  trace : (.run run, .delivered message) :: earlier <:+ world.trace

theorem Handed.stable (handed : Handed run message earlier world) (untouched : World.Untouched run world after)
    (evolves : PaymentsEvolve world after) : Handed run message earlier after := by
  refine ⟨?_, handed.trace.trans evolves.trace⟩
  rcases untouched.unacked with same | gone
  · rw [same]
    exact handed.unacked
  · exact .inr gone

def handed_run (run : RunId) (message : Message) (earlier : List Entry) :
    (payment_discipline deployment).Assertion run :=
  knowing run (Handed run message earlier) (fun _ _ untouched evolves known => known.stable untouched evolves)

theorem Handed.executed (handed : Handed run message earlier world) {answer : Except Error op.Answer}
    (executed : World.Executed run world op after answer) (apart : World.handles_broker op = false) :
    Handed run message earlier after := by
  refine ⟨?_, handed.trace.trans (World.trace_executed executed)⟩
  rw [executed.broker apart]
  exact handed.unacked

theorem process_apart (calls : ProcessCalls op) : World.handles_broker op = false := by
  cases calls with
  | scope ends => cases ends <;> rfl
  | _ => rfl

/-- Why the consumer may answer its message stays a reason. -/
theorem Answerable.stable (answerable : Answerable run message world) (untouched : World.Untouched run world after)
    (evolves : PaymentsEvolve world after) : Answerable run message after := by
  cases answerable with
  | dead_lettered copied =>
      rw [← untouched.own] at copied
      exact .dead_lettered copied
  | foreign event_type aggregate_id correlation_id body different =>
      exact .foreign event_type aggregate_id correlation_id body different
  | ended key correlation_id row body found final =>
      rcases evolves.grows key row found with ⟨later, found', grows⟩
      have same := grows.of_final final
      subst same
      exact .ended key correlation_id later body found' final
  | missing key correlation_id later earlier body delivered unmentioned =>
      rcases evolves.trace with ⟨new, grown⟩
      refine .missing key correlation_id (new ++ later) earlier body ?_ unmentioned
      rw [← grown, delivered, List.append_assoc]

def answerable_run (run : RunId) (message : Message) : (payment_discipline deployment).Assertion run :=
  knowing run (fun world => Clear run world ∧ Answerable run message world)
    (fun _ _ untouched evolves known => ⟨known.1.stable untouched, known.2.stable untouched evolves⟩)

/-- The reason that the end of the handler gives. -/
theorem Concluded.answerable {key : UUID} {outcome : PaymentProcessingOutcome} {correlation_id : Option String}
    (concluded : Concluded run key earlier world outcome) (handed : Handed run message earlier world)
    (body : message.body = .object (some PaymentConsumerHandler.PAYMENT_CREATED) (.uuid key) correlation_id) :
    Answerable run message world := by
  cases concluded with
  | settled row result found final => exact .ended key correlation_id row body found final
  | lost outcome row named found final => exact .ended key correlation_id row body found final
  | missing unmentioned =>
      rcases handed.trace with ⟨later, grown⟩
      exact .missing key correlation_id later earlier body grown.symm unmentioned

section

/-- A run that has just been handed its message. -/
def receiving (run : RunId) (message : Message) (earlier : List Entry) :
    (payment_discipline deployment).Assertion run :=
  (starting run earlier).both (handed_run run message earlier)

def resting_consumer (run : RunId) (message : Message) (earlier : List Entry) :
    (payment_discipline deployment).Assertion run :=
  (clear run).both (handed_run run message earlier)

theorem dlq_triple : (payment_discipline deployment).Triple (receiving run message earlier)
    (PaymentConsumerHandler.send_to_dlq message)
    (fun _ => (answerable_run run message).both (handed_run run message earlier))
    (fun _ => resting_consumer run message earlier) := by
  have handed_after : forall world after answer, Handed run message earlier world ->
      World.Executed run world (.publish_dlq (PaymentConsumerHandler.dlq_copy message)) after answer ->
      Handed run message earlier after := by
    intro world after answer handed executed
    refine ⟨?_, handed.trace.trans (World.trace_executed executed)⟩
    cases executed <;> exact handed.unacked
  have clear_after : forall world after answer, Clear run world ->
      World.Executed run world (.publish_dlq (PaymentConsumerHandler.dlq_copy message)) after answer ->
      Clear run after := by
    intro world after answer clear executed name id held
    cases executed <;> exact clear name id held
  refine Discipline.Triple.perform (fun world _ _ => ?_) (fun world _ after _ _ known ran _ _ => ?_)
    (fun world _ after _ _ known ran _ _ => ?_)
  · exact (plain_of_ne (by simp) (by simp) (by simp) (by simp) (by simp) (by simp) (by simp) (by simp)).plain.permits
      (by simp) (by simp)
  · have executed := service_executed ran
    refine ⟨⟨clear_after world after _ known.1.1.clear executed, ?_⟩,
      handed_after world after _ known.2 executed⟩
    cases executed with
    | dead_lettered copied answer known' => exact .dead_lettered (own_mem.mpr List.mem_cons_self)
  · have executed := service_executed ran
    exact ⟨clear_after world after _ known.1.1.clear executed, handed_after world after _ known.2 executed⟩

theorem delegate_triple {aggregate_id : AggregateId} {correlation_id : Option String}
    (body : message.body = .object (some PaymentConsumerHandler.PAYMENT_CREATED) aggregate_id correlation_id) :
    (payment_discipline deployment).Triple (receiving run message earlier)
      (PaymentConsumerHandler.process aggregate_id correlation_id)
      (fun _ => (answerable_run run message).both (handed_run run message earlier))
      (fun _ => resting_consumer run message earlier) := by
  cases aggregate_id with
  | missing => exact Discipline.Triple.raise (fun world _ known => ⟨known.1.1.clear, known.2⟩)
  | malformed => exact Discipline.Triple.raise (fun world _ known => ⟨known.1.1.clear, known.2⟩)
  | uuid key =>
      have handled : (payment_discipline deployment).Triple (receiving run message earlier)
          (ProcessPaymentHandler.handle ⟨key, correlation_id⟩)
          (fun value => (concluded run key earlier value.outcome).both (handed_run run message earlier))
          (fun raised => (failing run raised).both (handed_run run message earlier)) :=
        Discipline.Triple.frame (handed_run run message earlier)
          (fun _ calls _ _ _ _ _ known ran _ => Handed.executed known (service_executed ran) (process_apart calls))
          (process_calls ⟨key, correlation_id⟩) (process_triple ⟨key, correlation_id⟩)
      have weakened : (payment_discipline deployment).Triple (receiving run message earlier)
          (ProcessPaymentHandler.handle ⟨key, correlation_id⟩)
          (fun value => (concluded run key earlier value.outcome).both (handed_run run message earlier))
          (fun _ => resting_consumer run message earlier) :=
        Discipline.Triple.weaken handled (fun _ _ known => known) (fun _ _ _ known => known)
          (fun _ _ _ known => ⟨known.1.1, known.2⟩)
      refine Discipline.Triple.bind weakened (fun value => Discipline.Triple.ret (fun world _ known => ?_))
      exact ⟨⟨known.1.clear, known.1.answerable known.2 body⟩, known.2⟩

theorem route_triple (settings : Settings) :
    (payment_discipline deployment).Triple (receiving run message earlier)
      (PaymentConsumerHandler.route settings message)
      (fun _ => (answerable_run run message).both (handed_run run message earlier))
      (fun _ => resting_consumer run message earlier) := by
  rw [PaymentConsumerHandler.route]
  split
  · exact dlq_triple
  · exact dlq_triple
  · next event_type aggregate_id correlation_id body =>
      split
      · next different =>
          refine Discipline.Triple.ret (fun world _ known => ⟨⟨known.1.1.clear, ?_⟩, known.2⟩)
          exact .foreign event_type aggregate_id correlation_id body different
      · next same =>
          have same : event_type = some PaymentConsumerHandler.PAYMENT_CREATED := not_not.mp same
          subst same
          split
          · exact dlq_triple
          · exact delegate_triple body

/-- How the routing of the message has ended. -/
def routed (run : RunId) (message : Message) (earlier : List Entry) :
    Bool -> (payment_discipline deployment).Assertion run
  | true => (answerable_run run message).both (handed_run run message earlier)
  | false => resting_consumer run message earlier

/-- The consumer acknowledges its message for one of the known reasons only. -/
theorem consume_triple (settings : Settings) :
    (payment_discipline deployment).Triple (receiving run message earlier)
      (PaymentConsumerHandler.handle settings message) (fun _ => clear run) (fun _ => clear run) := by
  have returned : (payment_discipline deployment).Triple (receiving run message earlier)
      (do PaymentConsumerHandler.route settings message; return true : Program Bool)
      (fun ended => routed run message earlier ended) (fun _ => resting_consumer run message earlier) :=
    Discipline.Triple.bind (route_triple settings) (fun _ => Discipline.Triple.ret (fun _ _ known => known))
  refine Discipline.Triple.bind (Discipline.Triple.tryCatch returned (fun raised => ?_)) (fun ended => ?_)
  · cases raised with
    | cancelled => exact Discipline.Triple.raise (fun _ _ known => known.1)
    | _ => exact Discipline.Triple.ret (fun _ _ known => known)
  cases ended with
  | true =>
      have executed_clear : forall world after answer, Clear run world ->
          World.Executed run world .ack after answer -> Clear run after := by
        intro world after answer clear executed name id held
        cases executed <;> exact clear name id held
      refine Discipline.Triple.perform (fun world _ known => ?_)
        (fun world _ after _ _ known ran _ _ => executed_clear world after _ known.1.1 (service_executed ran))
        (fun world _ after _ _ known ran _ _ => executed_clear world after _ known.1.1 (service_executed ran))
      refine ⟨by simp, by simp, by simp, by simp, by simp, by simp, by simp, by simp, by simp, by simp, ?_⟩
      intro _ found unacked
      rcases known.2.unacked with same | gone
      · rw [same] at unacked
        cases unacked
        exact known.1.2
      · rw [gone] at unacked
        cases unacked
  | false =>
      have executed_clear : forall world after answer, Clear run world ->
          World.Executed run world .nack after answer -> Clear run after := by
        intro world after answer clear executed name id held
        cases executed <;> exact clear name id held
      refine Discipline.Triple.perform (fun world _ _ => ?_)
        (fun world _ after _ _ known ran _ _ => executed_clear world after _ known.1 (service_executed ran))
        (fun world _ after _ _ known ran _ _ => executed_clear world after _ known.1 (service_executed ran))
      exact (plain_of_ne (by simp) (by simp) (by simp) (by simp) (by simp) (by simp) (by simp)
        (by simp)).plain.permits (by simp) (by simp)

end

/-! ## Every job -/

/-- A run that has not been started. -/
def unstarted (run : RunId) : (payment_discipline deployment).Assertion run :=
  knowing run (fun world => Clear run world ∧ world.own run = [])
    (fun _ _ untouched _ known => ⟨known.1.stable untouched, untouched.own.trans known.2⟩)

theorem spotless_of_unstarted (clear : Clear run world) (silent : world.own run = []) : Spotless run world := by
  have nothing : forall event, event ∉ world.own run := by
    intro event listed
    rw [silent] at listed
    cases listed
  exact ⟨clear, ⟨⟨fun _ _ _ => nothing _, fun _ _ => nothing _, nothing _⟩, fun _ listed => absurd listed (nothing _)⟩,
    fun _ _ _ => nothing _⟩

/-- What is known when a job has returned. -/
def payment_post (run : RunId) : (job : Job) -> job.Result -> (payment_discipline deployment).Assertion run
  | .process command, value =>
      knowing run (fun world => Exists fun earlier => Concluded run command.payment_id earlier world value.outcome)
        (by
          rintro before after untouched evolves ⟨earlier, known⟩
          exact ⟨earlier, known.stable untouched evolves⟩)
  | _, _ => .fact True

/-- What is known when a job has raised. -/
def payment_error (run : RunId) (job : Job) (raised : Error) : (payment_discipline deployment).Assertion run :=
  match job with
  | .process _ => failing run raised
  | _ => .fact True

def payment_verified (deployment : Deployment) : (payment_discipline deployment).Verified World.initial where
  upheld := payment_upheld deployment
  idle := unstarted
  post := payment_post
  error := payment_error
  initial_idle := by
    intro run
    refine ⟨?_, rfl⟩
    rintro name key ⟨draft, locked⟩
    cases locked
  programs := by
    intro run job state after kept silent started kept' _
    have clear : Clear run state := silent.1
    have spotless := spotless_of_unstarted clear silent.2
    have apart_safe : forall {X : Type} {program : Program X} {world : World}, PaymentsKept world ->
        Clear run world -> program.OnlyCalls ApartOp ->
        (payment_discipline deployment).Safe run (fun _ => .fact True) (fun _ => .fact True) program world := by
      intro X program world inv clear calls
      exact (apart_triple calls world inv clear.apart).mono (fun _ _ _ _ => trivial) (fun _ _ _ _ => trivial) inv
    cases job with
    | create command =>
        cases started
        exact (create_triple command state kept clear).mono (fun _ _ _ _ => trivial) (fun _ _ _ _ => trivial) kept
    | process command =>
        cases started
        have begins : @starting deployment run state.trace state := ⟨spotless, List.suffix_refl _⟩
        have safe := process_triple command state kept begins
        exact safe.mono (fun value world _ known => (⟨state.trace, known⟩ : Exists fun earlier =>
          Concluded run command.payment_id earlier world value.outcome)) (fun _ _ _ known => known) kept
    | get query =>
        cases started
        exact apart_safe kept clear ((get_calls query).mono (fun _ => apart_get))
    | deliver batch_size concurrency =>
        cases started
        exact apart_safe kept clear ((deliver_calls _ _ _).mono (fun _ => apart_deliver))
    | outbox settings cycles =>
        have same : after = state := by
          have started : start deployment (.outbox settings cycles) run state = some after := started
          rcases start_cases started with same | ⟨_, _, impossible, _⟩
          · exact same
          · cases impossible
        subst same
        exact apart_safe kept clear ((outbox_calls settings run 0 cycles).mono (fun _ => apart_outbox))
    | consume settings message =>
        have delivered : after = deliver run message state := by
          change (if message ∈ state.broker.main then some (deliver run message state) else none) = some after
            at started
          split at started
          · cases started
            rfl
          · cases started
        subst delivered
        have handed : Handed run message state.trace (deliver run message state) :=
          ⟨.inl (Function.update_self _ _ _), List.suffix_refl _⟩
        have spotless' : Spotless run (deliver run message state) := by
          have own : (deliver run message state).own run = .delivered message :: state.own run :=
            World.own_note_self _
          refine ⟨clear, ?_, ?_⟩
          · rw [own]
            exact lasts_unused _ _ rfl spotless.unused
          · rw [own]
            exact unwritten_cons (fun _ _ _ impossible => by cases impossible) spotless.unwritten
        have receives : @receiving deployment run message state.trace (deliver run message state) :=
          ⟨⟨spotless', List.suffix_cons _ _⟩, handed⟩
        have safe := @consume_triple deployment run message state.trace settings (deliver run message state) kept'
          receives
        exact safe.mono (fun _ _ _ _ => trivial) (fun _ _ _ _ => trivial) kept'

end Properties
end Payments

import Mathlib.Data.Fintype.EquivFin
import Payments.Concurrency.RelyGuarantee
import Payments.Infrastructure.Broker

namespace Payments
namespace Properties

open Concurrency Domain Infrastructure Application

/-!
# The retry and dead-letter life cycle of one message

The number of rejections in the `x-death` header counts the deliveries that
have ended with a nack, so it bounds the calls of the process handler.  While a
delivery holds the message no other step can change anything, hence each stage
of the consumer is a fact about the whole life of the message.
-/

variable {settings : Settings} {message : Message} {life after : Life} {run : RunId}

/-! ## The header -/

abbrev rejections (message : Message) : Nat := PaymentConsumerHandler.rejected_count message.x_death

/-- One entry for each queue and reason. -/
def SingleEntries (message : Message) : Prop :=
  message.x_death.Pairwise (fun entry other => ¬ (entry.queue = other.queue ∧ entry.reason = other.reason))

theorem SingleEntries.dead_letter (single : SingleEntries message) (queue : QueueName) (reason : String) :
    SingleEntries (message.dead_letter queue reason) := by
  refine List.pairwise_cons.mpr ⟨?_, List.Pairwise.filter _ single⟩
  intro entry listed same
  have other := (List.mem_filter.mp listed).2
  simp only [Bool.not_eq_true', decide_eq_false_iff_not] at other
  exact other ⟨same.1.symm, same.2.symm⟩

theorem rejected_count_cons (entry : DeathEntry) (entries : List DeathEntry) :
    PaymentConsumerHandler.rejected_count (entry :: entries) =
      (if entry.reason = "rejected" then entry.count else 0) + PaymentConsumerHandler.rejected_count entries := by
  unfold PaymentConsumerHandler.rejected_count
  by_cases rejected : entry.reason = "rejected" <;> simp [rejected]

/-- The entry of one queue and reason apart from all others. -/
theorem rejected_count_split {entries : List DeathEntry} {queue : QueueName} {reason : String}
    (single : entries.Pairwise (fun entry other => ¬ (entry.queue = other.queue ∧ entry.reason = other.reason))) :
    PaymentConsumerHandler.rejected_count entries =
      (if reason = "rejected" then
        ((entries.find? (fun entry => decide (entry.queue = queue ∧ entry.reason = reason))).map
          DeathEntry.count).getD 0
      else 0) + PaymentConsumerHandler.rejected_count
        (entries.filter (fun entry => !decide (entry.queue = queue ∧ entry.reason = reason))) := by
  induction entries with
  | nil => simp
  | cons entry rest inductionHypothesis =>
      rcases List.pairwise_cons.mp single with ⟨apart, single⟩
      by_cases same : entry.queue = queue ∧ entry.reason = reason
      · have others : rest.filter (fun entry => !decide (entry.queue = queue ∧ entry.reason = reason)) = rest := by
          refine List.filter_eq_self.mpr (fun other listed => ?_)
          simp only [Bool.not_eq_true', decide_eq_false_iff_not]
          exact fun also => apart other listed ⟨same.1.trans also.1.symm, same.2.trans also.2.symm⟩
        rw [rejected_count_cons, List.find?_cons_of_pos (by simpa using same),
          List.filter_cons_of_neg (by simpa using same), others, same.2]
        rfl
      · have passed : ¬ decide (entry.queue = queue ∧ entry.reason = reason) = true := by
          rw [decide_eq_true_eq]
          exact same
        have found : (entry :: rest).find? (fun entry => decide (entry.queue = queue ∧ entry.reason = reason)) =
            rest.find? (fun entry => decide (entry.queue = queue ∧ entry.reason = reason)) :=
          List.find?_cons_of_neg passed
        have kept : (entry :: rest).filter (fun entry => !decide (entry.queue = queue ∧ entry.reason = reason)) =
            entry :: rest.filter (fun entry => !decide (entry.queue = queue ∧ entry.reason = reason)) :=
          List.filter_cons_of_pos (by rw [eq_false_of_ne_true passed]; rfl)
        rw [found, kept, rejected_count_cons, rejected_count_cons, inductionHypothesis single]
        omega

/-- Only a rejection is counted. -/
theorem SingleEntries.rejections (single : SingleEntries message) (queue : QueueName) (reason : String) :
    Properties.rejections (message.dead_letter queue reason) =
      Properties.rejections message + if reason = "rejected" then 1 else 0 := by
  have split := @rejected_count_split message.x_death queue reason single
  rw [Properties.rejections, Properties.rejections, Message.dead_letter, rejected_count_cons, split]
  by_cases rejected : reason = "rejected"
  · simp only [if_pos rejected]
    omega
  · simp only [if_neg rejected]
    omega

/-! ## Where the message is -/

/-- The message is there and nowhere else. -/
structure Located (life : Life) (main retry : List Message) (holder : Option (RunId × Message))
    (acked : List Message) : Prop where
  main : life.main = main
  retry : life.retry = retry
  unacked : forall run, life.unacked run = match holder with
    | some held => if run = held.1 then some held.2 else none
    | none => none
  acked : life.acked = acked

/-- What is counted while the message waits for a delivery. -/
structure Awaiting (settings : Settings) (message : Message) (life : Life) : Prop where
  entries : SingleEntries message
  deliveries : life.deliveries = rejections message
  invocations : life.invocations ≤ rejections message
  within : (life.invocations : Int) ≤ settings.RABBITMQ_MAX_RETRIES
  exhausting : life.exhausting = true ->
    life.dlq = [] ∧ (rejections message : Int) ≤ settings.RABBITMQ_MAX_RETRIES

/-- A delivery before the process handler is called. -/
structure Begun (settings : Settings) (message : Message) (life : Life) : Prop where
  entries : SingleEntries message
  deliveries : life.deliveries = rejections message + 1
  invocations : life.invocations ≤ rejections message
  within : (life.invocations : Int) ≤ settings.RABBITMQ_MAX_RETRIES
  exhausting : life.exhausting = true ->
    life.dlq = [] ∧ (rejections message : Int) ≤ settings.RABBITMQ_MAX_RETRIES

/-- A delivery whose `_route` has raised. -/
structure Failed (settings : Settings) (message : Message) (life : Life) : Prop where
  entries : SingleEntries message
  deliveries : life.deliveries = rejections message + 1
  invocations : life.invocations ≤ rejections message + 1
  within : (life.invocations : Int) ≤ settings.RABBITMQ_MAX_RETRIES
  exhausting : life.exhausting = true ->
    life.dlq = [] ∧ (rejections message : Int) < settings.RABBITMQ_MAX_RETRIES

/-- The body is not an object, or the retries are exhausted. -/
inductive Hopeless (settings : Settings) (message : Message) (life : Life) : Prop where
  | undecodable (error : Error) (decoded : life.decoded = some (.error error))
      (expected : ConsumerCall.decode_error error = true)
  | non_object (decoded : life.decoded = some (.ok .non_object))
  | exhausted (aggregate_id : AggregateId) (correlation_id : Option String)
      (decoded : life.decoded = some (.ok (.object (some PaymentConsumerHandler.PAYMENT_CREATED) aggregate_id
        correlation_id)))
      (exceeded : settings.RABBITMQ_MAX_RETRIES ≤ rejections message)

/-- Why `_route` has returned. -/
inductive Reason (settings : Settings) (message : Message) (life : Life) : Prop where
  | foreign (event_type : Option String) (aggregate_id : AggregateId) (correlation_id : Option String)
      (decoded : life.decoded = some (.ok (.object event_type aggregate_id correlation_id)))
      (other : event_type ≠ some PaymentConsumerHandler.PAYMENT_CREATED)
  | processed (aggregate_id : AggregateId) (correlation_id : Option String) (result : PaymentProcessingResult)
      (decoded : life.decoded = some (.ok (.object (some PaymentConsumerHandler.PAYMENT_CREATED) aggregate_id
        correlation_id)))
      (admitted : (rejections message : Int) < settings.RABBITMQ_MAX_RETRIES)
      (returned : life.processed = some (.ok result))
  | dead (hopeless : Hopeless settings message life)
      (copied : PaymentConsumerHandler.dlq_copy message ∈ life.dlq)

/-- A delivery whose `_route` has returned. -/
structure Settled (settings : Settings) (message : Message) (life : Life) : Prop where
  deliveries : life.deliveries = rejections message + 1
  within : (life.invocations : Int) ≤ settings.RABBITMQ_MAX_RETRIES
  reason : Reason settings message life
  exhausting : life.exhausting = true ->
    life.dlq = [PaymentConsumerHandler.dlq_copy message] ∧
      (rejections message : Int) = settings.RABBITMQ_MAX_RETRIES

/-- Before the copy is published. -/
def giving_up (settings : Settings) (message : Message) (life : Life) : Prop :=
  Begun settings message life ∧ Hopeless settings message life ∧
    (life.exhausting = true -> settings.RABBITMQ_MAX_RETRIES ≤ rejections message)

/-- What holds at any point of a delivery. -/
structure Delivered (settings : Settings) (message : Message) (life : Life) : Prop where
  deliveries : life.deliveries = rejections message + 1
  within : (life.invocations : Int) ≤ settings.RABBITMQ_MAX_RETRIES
  exhausting : life.exhausting = true -> (rejections message : Int) ≤ settings.RABBITMQ_MAX_RETRIES ∧
    (life.dlq = [] ∨ life.dlq = [PaymentConsumerHandler.dlq_copy message] ∧
      (rejections message : Int) = settings.RABBITMQ_MAX_RETRIES)

/-- The message is in exactly one place. -/
inductive Placed (settings : Settings) (life : Life) : Prop where
  | main (message : Message) (located : Located life [message] [] none []) (waiting : Awaiting settings message life)
  | retry (message : Message) (located : Located life [] [message] none []) (waiting : Awaiting settings message life)
  | in_delivery (run : RunId) (message : Message) (located : Located life [] [] (some (run, message)) [])
      (delivered : Delivered settings message life)
  | acked (message : Message) (located : Located life [] [] none [message]) (settled : Settled settings message life)

/-! ## The discipline of the life cycle -/

/-- When a delivery may make a call. -/
def Permitted (settings : Settings) (run : RunId) (call : ConsumerCall) (life : Life) : Prop :=
  Exists fun message => Located life [] [] (some (run, message)) [] ∧
    match call with
    | .decode => Begun settings message life
    | .process _ => Begun settings message life ∧ (rejections message : Int) < settings.RABBITMQ_MAX_RETRIES
    | .publish_dlq copy => copy = PaymentConsumerHandler.dlq_copy message ∧ giving_up settings message life
    | .ack => Settled settings message life
    | .nack => Failed settings message life

/-- Nothing changes while a delivery holds the message, and its answers are its own. -/
def Undisturbed (run : RunId) (before after : Life) : Prop :=
  (before.unacked run ≠ none -> after = before) ∧ after.answers run = before.answers run ∧
    after.unacked run = before.unacked run

def life_discipline (settings : Settings) : Discipline (life_cycle settings) where
  inv := Placed settings
  evolves := fun _ _ => True
  frame := Undisturbed
  permits := Permitted settings
  allowed := fun _ after => after.crashed = false
  evolves_refl := fun _ => trivial
  evolves_trans := fun _ _ => trivial
  frame_refl := fun _ _ => ⟨fun _ => rfl, rfl, rfl⟩
  frame_trans := by
    intro run first second third before after
    refine ⟨fun held => ?_, after.2.1.trans before.2.1, after.2.2.trans before.2.2⟩
    have same := before.1 held
    exact (after.1 (same ▸ held)).trans same

/-! ## What each step keeps -/

theorem Located.held {main retry acked : List Message} (located : Located life main retry (some (run, message)) acked) :
    life.unacked run = some message := by
  rw [located.unacked]
  exact if_pos rfl

theorem Located.free {main retry acked : List Message} {other : RunId}
    (located : Located life main retry (some (run, message)) acked) (different : other ≠ run) :
    life.unacked other = none := by
  rw [located.unacked]
  exact if_neg different

/-- After its answer the delivery holds nothing. -/
theorem Located.answered {main retry acked : List Message} {run' : RunId}
    (located : Located life main retry (some (run, message)) acked) :
    Function.update life.unacked run none run' = none := by
  by_cases same : run' = run
  · rw [same, Function.update_self]
  · rw [Function.update_of_ne same, located.free same]

theorem undisturbed_other {other : RunId} (located : Located life [] [] (some (run, message)) [])
    (different : other ≠ run) (answers : after.answers other = life.answers other)
    (unacked : after.unacked other = life.unacked other) : Undisturbed other life after :=
  ⟨fun held => absurd (located.free different) held, answers, unacked⟩

theorem answers_other {other : RunId} {reply : Reply} (different : other ≠ run) :
    Function.update life.answers run (reply :: life.answers run) other = life.answers other :=
  Function.update_of_ne different _ _

theorem nack_placed (distinct : settings.RABBITMQ_RETRY_QUEUE ≠ settings.RABBITMQ_ROUTING_KEY)
    (located : Located life [] [] (some (run, message)) []) (failed : Failed settings message life) :
    Placed settings ((life.answer run .nack).dead_letter settings .main "rejected" message) := by
  have counted := failed.entries.rejections .main "rejected"
  rw [if_pos rfl] at counted
  rw [Life.dead_letter, main_dead_letter_route distinct]
  refine .retry (message.dead_letter .main "rejected")
    ⟨located.main, congrArg _ located.retry, fun _ => located.answered, located.acked⟩ ?_
  refine ⟨failed.entries.dead_letter .main "rejected", failed.deliveries.trans counted.symm, ?_, failed.within, ?_⟩
  · exact counted ▸ failed.invocations
  · intro exhausting
    have known := failed.exhausting exhausting
    refine ⟨known.1, ?_⟩
    rw [counted]
    push_cast
    exact known.2

theorem expire_placed (distinct : settings.RABBITMQ_RETRY_QUEUE ≠ settings.RABBITMQ_ROUTING_KEY)
    (located : Located life [] [message] none []) (waiting : Awaiting settings message life) :
    Placed settings (Life.dead_letter settings .retry "expired" message { life with retry := [] }) := by
  have counted := waiting.entries.rejections .retry "expired"
  rw [if_neg (by decide), Nat.add_zero] at counted
  rw [Life.dead_letter, retry_dead_letter_route distinct]
  refine .main (message.dead_letter .retry "expired")
    ⟨congrArg _ located.main, rfl, located.unacked, located.acked⟩ ?_
  refine ⟨waiting.entries.dead_letter .retry "expired", waiting.deliveries.trans counted.symm, ?_, waiting.within, ?_⟩
  · exact counted ▸ waiting.invocations
  · intro exhausting
    have known := waiting.exhausting exhausting
    exact ⟨known.1, counted ▸ known.2⟩

theorem Hopeless.acked (hopeless : Hopeless settings message life) :
    Hopeless settings message { life.answer run .ack with acked := message :: life.acked } := by
  cases hopeless with
  | undecodable error decoded expected => exact .undecodable error decoded expected
  | non_object decoded => exact .non_object decoded
  | exhausted aggregate_id correlation_id decoded exceeded =>
      exact .exhausted aggregate_id correlation_id decoded exceeded

theorem Settled.acked (settled : Settled settings message life) :
    Settled settings message { life.answer run .ack with acked := message :: life.acked } where
  deliveries := settled.deliveries
  within := settled.within
  reason := by
    cases settled.reason with
    | foreign event_type aggregate_id correlation_id decoded other =>
        exact .foreign event_type aggregate_id correlation_id decoded other
    | processed aggregate_id correlation_id result decoded admitted returned =>
        exact .processed aggregate_id correlation_id result decoded admitted returned
    | dead hopeless copied => exact .dead hopeless.acked copied
  exhausting := settled.exhausting

/-- A permitted call keeps the message in one place and leaves the others alone. -/
theorem call_guaranteed (distinct : settings.RABBITMQ_RETRY_QUEUE ≠ settings.RABBITMQ_ROUTING_KEY)
    {call : ConsumerCall} {results : Results} {answer : Except Error call.Answer}
    (permitted : Permitted settings run call life)
    (executed : Life.exec settings run call results life = some (after, answer)) :
    (life_discipline settings).Guarantee run life after := by
  rcases permitted with ⟨message, located, stage⟩
  have held := located.held
  cases call with
  | decode =>
      cases executed
      refine ⟨.in_delivery run message ⟨located.main, located.retry, located.unacked, located.acked⟩
        ⟨stage.deliveries, stage.within, fun exhausting => ?_⟩, trivial, fun other different =>
        undisturbed_other located different rfl rfl⟩
      have known := stage.exhausting (Bool.and_eq_true_iff.mp exhausting).1
      exact ⟨known.2, .inl known.1⟩
  | process command =>
      cases executed
      have invocations := stage.1.invocations
      refine ⟨.in_delivery run message ⟨located.main, located.retry, located.unacked, located.acked⟩
        ⟨stage.1.deliveries, ?_, fun exhausting => ?_⟩, trivial, fun other different =>
        undisturbed_other located different rfl rfl⟩
      · have admitted := stage.2
        push_cast
        omega
      · have known := stage.1.exhausting (Bool.and_eq_true_iff.mp exhausting).1
        exact ⟨known.2, .inl known.1⟩
  | publish_dlq copy =>
      rcases stage with ⟨rfl, begun, _, exceeded⟩
      cases executed
      refine ⟨.in_delivery run message ⟨located.main, located.retry, located.unacked, located.acked⟩
        ⟨begun.deliveries, begun.within, fun exhausting => ?_⟩, trivial, fun other different =>
        undisturbed_other located different rfl rfl⟩
      rcases Bool.and_eq_true_iff.mp exhausting with ⟨exhausted, arrived⟩
      have known := begun.exhausting exhausted
      have copied : (if Life.returned results.published || results.takes_effect then
          PaymentConsumerHandler.dlq_copy message :: life.dlq else life.dlq) =
          [PaymentConsumerHandler.dlq_copy message] := by
        rw [arrived, Bool.true_or, if_pos rfl, known.1]
      exact ⟨known.2, .inr ⟨copied, le_antisymm known.2 (exceeded exhausted)⟩⟩
  | ack =>
      simp only [Life.exec, held] at executed
      cases executed
      refine ⟨.acked message ⟨located.main, located.retry, fun _ => located.answered, congrArg _ located.acked⟩ ?_,
        trivial, fun other different => undisturbed_other located different (answers_other different)
          (Function.update_of_ne different _ _)⟩
      exact stage.acked
  | nack =>
      simp only [Life.exec, held] at executed
      cases executed
      refine ⟨nack_placed distinct located stage, trivial, fun other different =>
        undisturbed_other located different ?_ ?_⟩
      · rw [Life.dead_letter, main_dead_letter_route distinct]
        exact answers_other different
      · rw [Life.dead_letter, main_dead_letter_route distinct]
        exact Function.update_of_ne different _ _

theorem Placed.of_main (placed : Placed settings life) (listed : message ∈ life.main) :
    Located life [message] [] none [] ∧ Awaiting settings message life := by
  cases placed with
  | main found located waiting =>
      rw [located.main, List.mem_singleton] at listed
      subst listed
      exact ⟨located, waiting⟩
  | retry found located => exact absurd (located.main ▸ listed) List.not_mem_nil
  | in_delivery run found located => exact absurd (located.main ▸ listed) List.not_mem_nil
  | acked found located => exact absurd (located.main ▸ listed) List.not_mem_nil

theorem Placed.of_retry (placed : Placed settings life) {index : Nat} (listed : life.retry[index]? = some message) :
    index = 0 ∧ Located life [] [message] none [] ∧ Awaiting settings message life := by
  cases placed with
  | retry found located waiting =>
      rw [located.retry] at listed
      cases index with
      | zero =>
          cases listed
          exact ⟨rfl, located, waiting⟩
      | succ index => cases listed
  | main found located => rw [located.retry] at listed; cases listed
  | in_delivery run found located => rw [located.retry] at listed; cases listed
  | acked found located => rw [located.retry] at listed; cases listed

/-- The beginning of a delivery. -/
theorem deliver_begun (placed : Placed settings life) (delivered : Life.deliver message run life = some after) :
    Located after [] [] (some (run, message)) [] ∧ Begun settings message after ∧ after.answers = life.answers ∧
      forall other, life.unacked other = none := by
  simp only [Life.deliver] at delivered
  split at delivered
  · next listed =>
      rcases placed.of_main listed with ⟨located, waiting⟩
      have empty : forall other, life.unacked other = none := located.unacked
      cases delivered
      refine ⟨⟨?_, located.retry, fun other => ?_, located.acked⟩, ⟨waiting.entries, ?_, waiting.invocations,
        waiting.within, waiting.exhausting⟩, rfl, empty⟩
      · rw [located.main]
        exact List.erase_cons_head message []
      · by_cases same : other = run
        · simp [same]
        · simp [same, empty other]
      · rw [waiting.deliveries]
  · cases delivered

theorem life_upheld (distinct : settings.RABBITMQ_RETRY_QUEUE ≠ settings.RABBITMQ_ROUTING_KEY)
    (bound : 0 ≤ settings.RABBITMQ_MAX_RETRIES) (fresh : message.x_death = []) :
    (life_discipline settings).Upheld (Life.published message) where
  initially := by
    have none_rejected : rejections message = 0 := by
      rw [rejections, fresh]
      rfl
    refine .main message ⟨rfl, rfl, fun _ => rfl, rfl⟩ ⟨?_, none_rejected.symm, Nat.zero_le _, bound, ?_⟩
    · rw [SingleEntries, fresh]
      exact List.Pairwise.nil
    · intro _
      rw [none_rejected]
      exact ⟨rfl, bound⟩
  starts := by
    intro run message life after placed delivered _
    rcases deliver_begun placed delivered with ⟨located, begun, answers, empty⟩
    refine ⟨.in_delivery run message located ⟨begun.deliveries, begun.within, fun exhausting =>
      ⟨(begun.exhausting exhausting).2, .inl (begun.exhausting exhausting).1⟩⟩, trivial, fun other different =>
      ⟨fun held => absurd (empty other) held, ?_, (located.free different).trans (empty other).symm⟩⟩
    rw [answers]
  operations := fun run call results life after answer _ permitted executed _ =>
    call_guaranteed distinct permitted executed
  crashes := by
    intro run life _ allowed
    cases allowed
  environment := by
    intro index life after placed expired _
    rcases Option.map_eq_some_iff.mp expired with ⟨found, listed, same⟩
    rcases placed.of_retry listed with ⟨rfl, located, waiting⟩
    have emptied : life.retry.eraseIdx 0 = [] := by rw [located.retry]; rfl
    rw [emptied] at same
    subst same
    refine ⟨expire_placed distinct located waiting, trivial, fun other => ⟨fun held => ?_, ?_, ?_⟩⟩
    · exact absurd (located.unacked other) held
    · rw [Life.dead_letter, retry_dead_letter_route distinct]
      rfl
    · rw [Life.dead_letter, retry_dead_letter_route distinct]
      rfl

/-! ## The stages of a delivery -/

/-- What a delivery knows while it holds the message and has not answered. -/
def stage (settings : Settings) (run : RunId) (message : Message) (holds : Life -> Prop) :
    (life_discipline settings).Assertion run :=
  .own (fun life => Located life [] [] (some (run, message)) [] ∧ life.answers run = [] ∧ holds life)
    (fun before after frame known => by
      have held : before.unacked run ≠ none := by
        rw [known.1.held]
        exact Option.some_ne_none message
      rw [frame.1 held]
      exact known)

/-- An exception of `_route` that leads to a nack. -/
def route_raises (settings : Settings) (run : RunId) (message : Message) (error : Error) :
    (life_discipline settings).Assertion run :=
  stage settings run message (fun life => Failed settings message life ∧ error ≠ .cancelled)

theorem send_to_dlq_triple (settings : Settings) (run : RunId) (message : Message) :
    (life_discipline settings).Triple (stage settings run message (giving_up settings message))
      (ConsumerCall.send_to_dlq message) (fun _ => stage settings run message (Settled settings message))
      (route_raises settings run message) := by
  refine Discipline.Triple.perform ?_ ?_ ?_
  · rintro life _ ⟨located, _, given_up⟩
    exact ⟨message, located, rfl, given_up⟩
  · rintro life results after _ _ ⟨located, answers, begun, hopeless, exceeded⟩ executed _ _
    simp only [Life.exec, Option.some.injEq, Prod.mk.injEq] at executed
    rcases executed with ⟨rfl, published⟩
    simp only [published, Life.returned, Bool.true_or, if_true, Bool.and_true]
    refine ⟨⟨located.main, located.retry, located.unacked, located.acked⟩, answers, begun.deliveries, begun.within,
      .dead ?_ List.mem_cons_self, fun exhausting => ?_⟩
    · cases hopeless with
      | undecodable error decoded expected => exact .undecodable error decoded expected
      | non_object decoded => exact .non_object decoded
      | exhausted aggregate_id correlation_id decoded exceeded =>
          exact .exhausted aggregate_id correlation_id decoded exceeded
    · have known := begun.exhausting exhausting
      exact ⟨congrArg _ known.1, le_antisymm known.2 (exceeded exhausting)⟩
  · rintro life results after error _ ⟨located, answers, begun, _, _⟩ executed _ _
    simp only [Life.exec, Option.some.injEq, Prod.mk.injEq] at executed
    rcases executed with ⟨rfl, published⟩
    have named : error ≠ .cancelled := fun same => results.publish_not_cancelled (same ▸ published)
    simp only [published, Life.returned, Bool.and_false]
    exact ⟨⟨located.main, located.retry, located.unacked, located.acked⟩, answers,
      ⟨begun.entries, begun.deliveries, Nat.le_succ_of_le begun.invocations, begun.within, fun impossible => by
        cases impossible⟩, named⟩

/-- Before the body is given to the process handler. -/
def admitted (settings : Settings) (message : Message) (life : Life) : Prop :=
  Begun settings message life ∧ (rejections message : Int) < settings.RABBITMQ_MAX_RETRIES ∧
    exists aggregate_id correlation_id, life.decoded = some (.ok (.object
      (some PaymentConsumerHandler.PAYMENT_CREATED) aggregate_id correlation_id))

theorem Begun.failed (begun : Begun settings message life)
    (admitted : (rejections message : Int) < settings.RABBITMQ_MAX_RETRIES) : Failed settings message life where
  entries := begun.entries
  deliveries := begun.deliveries
  invocations := Nat.le_succ_of_le begun.invocations
  within := begun.within
  exhausting := fun exhausting => ⟨(begun.exhausting exhausting).1, admitted⟩

theorem process_body_triple (settings : Settings) (run : RunId) (message : Message) (aggregate_id : AggregateId)
    (correlation_id : Option String) :
    (life_discipline settings).Triple (stage settings run message (admitted settings message))
      (ConsumerCall.process_body aggregate_id correlation_id)
      (fun _ => stage settings run message (Settled settings message)) (route_raises settings run message) := by
  cases aggregate_id with
  | missing =>
      refine Discipline.Triple.raise ?_
      rintro life _ ⟨located, answers, begun, within, _⟩
      exact ⟨located, answers, begun.failed within, by simp⟩
  | malformed =>
      refine Discipline.Triple.raise ?_
      rintro life _ ⟨located, answers, begun, within, _⟩
      exact ⟨located, answers, begun.failed within, by simp⟩
  | uuid payment_id =>
      have called : (life_discipline settings).Triple (stage settings run message (admitted settings message))
          (calling (.process ⟨payment_id, correlation_id⟩))
          (fun _ => stage settings run message (Settled settings message)) (route_raises settings run message) := by
        refine Discipline.Triple.perform ?_ ?_ ?_
        · rintro life _ ⟨located, _, begun, within, _⟩
          exact ⟨message, located, begun, within⟩
        · rintro life results after result _ ⟨located, answers, begun, within, _, _, decoded⟩ executed _ _
          simp only [Life.exec, Option.some.injEq, Prod.mk.injEq] at executed
          rcases executed with ⟨rfl, processed⟩
          simp only [processed, Life.returned, Bool.not_true, Bool.and_false]
          have invocations := begun.invocations
          refine ⟨⟨located.main, located.retry, located.unacked, located.acked⟩, answers, begun.deliveries, ?_,
            .processed _ _ result decoded within rfl, fun impossible => by cases impossible⟩
          push_cast
          omega
        · rintro life results after error _ ⟨located, answers, begun, within, _, _, decoded⟩ executed _ _
          simp only [Life.exec, Option.some.injEq, Prod.mk.injEq] at executed
          rcases executed with ⟨rfl, processed⟩
          have named : error ≠ .cancelled := fun same => results.process_not_cancelled (same ▸ processed)
          simp only [processed, Life.returned, Bool.not_false, Bool.and_true]
          have invocations := begun.invocations
          refine ⟨⟨located.main, located.retry, located.unacked, located.acked⟩, answers,
            ⟨begun.entries, begun.deliveries, Nat.succ_le_succ begun.invocations, ?_, fun exhausting =>
              ⟨(begun.exhausting exhausting).1, within⟩⟩, named⟩
          push_cast
          omega
      exact Discipline.Triple.bind called (fun _ => Discipline.Triple.ret (fun _ _ known => known))

/-- What the consumer knows of the body. -/
def body_known (settings : Settings) (message : Message) : Option Decoded -> Life -> Prop
  | none, life => Begun settings message life ∧ life.exhausting = false ∧
      Exists fun error => life.decoded = some (.error error) ∧ ConsumerCall.decode_error error = true
  | some body, life => Begun settings message life ∧ life.decoded = some (.ok body) ∧
      (life.exhausting = true -> Life.is_created (.ok body) = true)

/-- The exception of `msg.decode()`. -/
def decode_failed (settings : Settings) (message : Message) (error : Error) (life : Life) : Prop :=
  Begun settings message life ∧ life.exhausting = false ∧ life.decoded = some (.error error) ∧ error ≠ .cancelled

theorem decoded_body_triple (settings : Settings) (run : RunId) (message : Message) :
    (life_discipline settings).Triple (stage settings run message (Begun settings message)) ConsumerCall.decoded_body
      (fun body => stage settings run message (body_known settings message body))
      (route_raises settings run message) := by
  have decoding : (life_discipline settings).Triple (stage settings run message (Begun settings message))
      (calling .decode) (fun body => stage settings run message (body_known settings message (some body)))
      (fun error => stage settings run message (decode_failed settings message error)) := by
    refine Discipline.Triple.perform ?_ ?_ ?_
    · rintro life _ ⟨located, _, begun⟩
      exact ⟨message, located, begun⟩
    · rintro life results after body _ ⟨located, answers, begun⟩ executed _ _
      simp only [Life.exec, Option.some.injEq, Prod.mk.injEq] at executed
      rcases executed with ⟨rfl, decoded⟩
      refine ⟨⟨located.main, located.retry, located.unacked, located.acked⟩, answers,
        ⟨begun.entries, begun.deliveries, begun.invocations, begun.within, fun exhausting =>
          begun.exhausting (Bool.and_eq_true_iff.mp exhausting).1⟩, congrArg some decoded, fun exhausting => ?_⟩
      exact decoded ▸ (Bool.and_eq_true_iff.mp exhausting).2
    · rintro life results after error _ ⟨located, answers, begun⟩ executed _ _
      simp only [Life.exec, Option.some.injEq, Prod.mk.injEq] at executed
      rcases executed with ⟨rfl, decoded⟩
      have named : error ≠ .cancelled := fun same => results.decode_not_cancelled (same ▸ decoded)
      simp only [decoded, Life.is_created, Bool.and_false]
      exact ⟨⟨located.main, located.retry, located.unacked, located.acked⟩, answers,
        ⟨begun.entries, begun.deliveries, begun.invocations, begun.within, fun impossible => by cases impossible⟩,
        rfl, rfl, named⟩
  refine Discipline.Triple.tryCatch (Discipline.Triple.bind decoding (fun _ => Discipline.Triple.ret
    (fun _ _ known => known))) (fun error => ?_)
  split
  · next expected =>
      refine Discipline.Triple.ret ?_
      rintro life _ ⟨located, answers, begun, exhausting, decoded, _⟩
      exact ⟨located, answers, begun, exhausting, error, decoded, expected⟩
  · refine Discipline.Triple.raise ?_
    rintro life _ ⟨located, answers, begun, exhausting, _, named⟩
    refine ⟨located, answers, ⟨begun.entries, begun.deliveries, Nat.le_succ_of_le begun.invocations, begun.within,
      fun impossible => ?_⟩, named⟩
    rw [exhausting] at impossible
    cases impossible

theorem route_body_triple (settings : Settings) (run : RunId) (message : Message) (body : Option Decoded) :
    (life_discipline settings).Triple (stage settings run message (body_known settings message body))
      (ConsumerCall.route_body settings message body)
      (fun _ => stage settings run message (Settled settings message)) (route_raises settings run message) := by
  cases body with
  | none =>
      refine (send_to_dlq_triple settings run message).strengthen ?_
      rintro life _ ⟨located, answers, begun, exhausting, error, decoded, expected⟩
      refine ⟨located, answers, begun, .undecodable error decoded expected, fun impossible => ?_⟩
      rw [exhausting] at impossible
      cases impossible
  | some body =>
      cases body with
      | non_object =>
          refine (send_to_dlq_triple settings run message).strengthen ?_
          rintro life _ ⟨located, answers, begun, decoded, created⟩
          exact ⟨located, answers, begun, .non_object decoded, fun exhausting => by cases created exhausting⟩
      | object event_type aggregate_id correlation_id =>
          simp only [ConsumerCall.route_body]
          split
          · next other =>
              refine Discipline.Triple.ret ?_
              rintro life _ ⟨located, answers, begun, decoded, created⟩
              refine ⟨located, answers, begun.deliveries, begun.within, .foreign _ _ _ decoded other,
                fun exhausting => ?_⟩
              exact absurd (of_decide_eq_true (created exhausting)) other
          · next created =>
              have named : event_type = some PaymentConsumerHandler.PAYMENT_CREATED := not_not.mp created
              split
              · next exceeded =>
                  refine (send_to_dlq_triple settings run message).strengthen ?_
                  rintro life _ ⟨located, answers, begun, decoded, _⟩
                  exact ⟨located, answers, begun, .exhausted _ _ (named ▸ decoded) exceeded, fun _ => exceeded⟩
              · next within =>
                  refine (process_body_triple settings run message aggregate_id correlation_id).strengthen ?_
                  rintro life _ ⟨located, answers, begun, decoded, _⟩
                  exact ⟨located, answers, begun, not_le.mp within, _, _, named ▸ decoded⟩

/-- What the consumer knows before it answers. -/
def route_ended (settings : Settings) (message : Message) : Bool -> Life -> Prop
  | true, life => Settled settings message life
  | false, life => Failed settings message life

/-- The delivery has given one answer and holds nothing. -/
def answered_once (settings : Settings) (run : RunId) : (life_discipline settings).Assertion run :=
  .own (fun life => (Exists fun reply => life.answers run = [reply]) ∧ life.unacked run = none)
    (fun _ _ frame known => by
      rcases known with ⟨⟨reply, answers⟩, free⟩
      exact ⟨⟨reply, frame.2.1.trans answers⟩, frame.2.2.trans free⟩)

theorem ack_triple (settings : Settings) (run : RunId) (message : Message) :
    (life_discipline settings).Triple (stage settings run message (Settled settings message)) (calling .ack)
      (fun _ => answered_once settings run) (fun _ => .fact False) := by
  refine Discipline.Triple.perform ?_ ?_ ?_
  · rintro life _ ⟨located, _, settled⟩
    exact ⟨message, located, settled⟩
  · rintro life results after _ _ ⟨located, answers, _⟩ executed _ _
    simp only [Life.exec, located.held] at executed
    cases executed
    exact ⟨⟨.ack, by simp [Life.answer, answers]⟩, located.answered⟩
  · rintro life results after error _ ⟨located, _, _⟩ executed _ _
    simp only [Life.exec, located.held] at executed
    cases executed

theorem nack_triple (distinct : settings.RABBITMQ_RETRY_QUEUE ≠ settings.RABBITMQ_ROUTING_KEY) (run : RunId)
    (message : Message) :
    (life_discipline settings).Triple (stage settings run message (Failed settings message)) (calling .nack)
      (fun _ => answered_once settings run) (fun _ => .fact False) := by
  refine Discipline.Triple.perform ?_ ?_ ?_
  · rintro life _ ⟨located, _, failed⟩
    exact ⟨message, located, failed⟩
  · rintro life results after _ _ ⟨located, answers, _⟩ executed _ _
    simp only [Life.exec, located.held] at executed
    cases executed
    rw [Life.dead_letter, main_dead_letter_route distinct]
    exact ⟨⟨.nack, by simp [Life.answer, Life.push, answers]⟩, located.answered⟩
  · rintro life results after error _ ⟨located, _, _⟩ executed _ _
    simp only [Life.exec, located.held] at executed
    cases executed

/-- A delivery ends with one answer and does not raise. -/
theorem handle_triple (distinct : settings.RABBITMQ_RETRY_QUEUE ≠ settings.RABBITMQ_ROUTING_KEY) (run : RunId)
    (message : Message) :
    (life_discipline settings).Triple (stage settings run message (Begun settings message))
      (ConsumerCall.handle settings message) (fun _ => answered_once settings run) (fun _ => .fact False) := by
  have routed : (life_discipline settings).Triple (stage settings run message (Begun settings message))
      (ConsumerCall.route settings message) (fun _ => stage settings run message (Settled settings message))
      (route_raises settings run message) :=
    Discipline.Triple.bind (decoded_body_triple settings run message) (route_body_triple settings run message)
  have succeeded : (life_discipline settings).Triple (stage settings run message (Begun settings message))
      (do ConsumerCall.route settings message; return true)
      (fun ended => stage settings run message (route_ended settings message ended))
      (route_raises settings run message) :=
    Discipline.Triple.bind routed (fun _ => Discipline.Triple.ret (fun _ _ known => known))
  refine Discipline.Triple.bind (Discipline.Triple.tryCatch succeeded (fun error => ?_)) (fun ended => ?_)
  · split
    · refine Discipline.Triple.raise ?_
      rintro life _ ⟨_, _, _, named⟩
      exact named rfl
    · refine Discipline.Triple.ret ?_
      rintro life _ ⟨located, answers, failed, _⟩
      exact ⟨located, answers, failed⟩
  · cases ended with
    | true => exact ack_triple settings run message
    | false => exact nack_triple distinct run message

/-! ## Whole lives -/

/-- A delivery that has not begun has given no answer and holds nothing. -/
def unanswered (settings : Settings) (run : RunId) : (life_discipline settings).Assertion run :=
  .own (fun life => life.answers run = [] ∧ life.unacked run = none)
    (fun _ _ frame known => ⟨frame.2.1.trans known.1, frame.2.2.trans known.2⟩)

def life_verified (distinct : settings.RABBITMQ_RETRY_QUEUE ≠ settings.RABBITMQ_ROUTING_KEY)
    (bound : 0 ≤ settings.RABBITMQ_MAX_RETRIES) (fresh : message.x_death = []) :
    (life_discipline settings).Verified (Life.published message) where
  upheld := life_upheld distinct bound fresh
  idle := unanswered settings
  post := fun run _ _ => answered_once settings run
  error := fun _ _ _ => .fact False
  initial_idle := fun _ => ⟨rfl, rfl⟩
  programs := by
    intro run delivered life after placed unanswered started inv _
    rcases deliver_begun placed started with ⟨located, begun, answers, _⟩
    refine handle_triple distinct run delivered after inv ⟨located, ?_, begun⟩
    rw [answers]
    exact unanswered.1

/-! ## What the consumer's text says -/

def answers_nothing (call : ConsumerCall) : Prop :=
  call ≠ .ack ∧ call ≠ .nack

/-- `_route` answers nothing itself. -/
theorem route_calls (settings : Settings) (message : Message) :
    (ConsumerCall.route settings message).OnlyCalls answers_nothing := by
  have copied : (ConsumerCall.send_to_dlq message).OnlyCalls answers_nothing :=
    Prog.OnlyCalls.perform ⟨by simp, by simp⟩
  refine Prog.OnlyCalls.bind (Prog.OnlyCalls.tryCatch (Prog.OnlyCalls.bind (Prog.OnlyCalls.perform ⟨by simp, by simp⟩)
    (fun _ => Prog.OnlyCalls.ret _)) (fun error => ?_)) (fun body => ?_)
  · split
    · exact Prog.OnlyCalls.ret _
    · exact Prog.OnlyCalls.raise _
  · cases body with
    | none => exact copied
    | some body =>
        cases body with
        | non_object => exact copied
        | object event_type aggregate_id correlation_id =>
            simp only [ConsumerCall.route_body]
            split
            · exact Prog.OnlyCalls.ret _
            · split
              · exact copied
              · cases aggregate_id with
                | missing => exact Prog.OnlyCalls.raise _
                | malformed => exact Prog.OnlyCalls.raise _
                | uuid payment_id =>
                    exact Prog.OnlyCalls.bind (Prog.OnlyCalls.perform ⟨by simp, by simp⟩) (fun _ => Prog.OnlyCalls.ret _)

/-- The answer to what `_route` has ended with. -/
def reply_to : Except Error Unit -> Prog consumer Unit
  | .ok _ => calling .ack
  | .error .cancelled => .raise .cancelled
  | .error _ => calling .nack

theorem handle_replies (settings : Settings) (message : Message) :
    ConsumerCall.handle settings message = (ConsumerCall.route settings message).settle reply_to := by
  rw [ConsumerCall.handle, Prog.guarded_eq_settle]
  congr 1
  funext outcome
  cases outcome with
  | ok value => rfl
  | error error => cases error <;> rfl

/-! ## Progress -/

/-- No call has to wait, and none is a crash. -/
theorem call_executes (distinct : settings.RABBITMQ_RETRY_QUEUE ≠ settings.RABBITMQ_ROUTING_KEY) (run : RunId)
    (call : ConsumerCall) (results : Results) (life : Life) :
    exists after answer, Life.exec settings run call results life = some (after, answer) ∧
      after.crashed = life.crashed := by
  cases call with
  | decode => exact ⟨_, _, rfl, rfl⟩
  | process command => exact ⟨_, _, rfl, rfl⟩
  | publish_dlq copy => exact ⟨_, _, rfl, rfl⟩
  | ack =>
      cases held : life.unacked run with
      | none => exact ⟨life, .error .infrastructure, by simp only [Life.exec, held], rfl⟩
      | some message =>
          exact ⟨{ life.answer run .ack with acked := message :: life.acked }, .ok (), by
            simp only [Life.exec, held], rfl⟩
  | nack =>
      cases held : life.unacked run with
      | none => exact ⟨life, .error .infrastructure, by simp only [Life.exec, held], rfl⟩
      | some message =>
          refine ⟨(life.answer run .nack).dead_letter settings .main "rejected" message, .ok (), by
            simp only [Life.exec, held], ?_⟩
          rw [Life.dead_letter, main_dead_letter_route distinct]
          rfl

variable {state : (life_cycle settings).State}

abbrev LifeReached (settings : Settings) (message : Message) (state : (life_cycle settings).State) : Prop :=
  Machine.Reachable (fun _ after : Life => after.crashed = false) (Life.published message) state

theorem not_crashed (reached : LifeReached settings message state) :
    state.shared.crashed = false ∧ forall run, state.phase run ≠ .crashed := by
  induction reached with
  | refl => exact ⟨rfl, fun _ => nofun⟩
  | @step before next action _ taken allowed inductionHypothesis =>
      refine ⟨allowed, fun run => ?_⟩
      have kept : forall (other : RunId) (phase : (life_cycle settings).Phase), phase ≠ .crashed ->
          before.setPhase other phase run ≠ .crashed := by
        intro other phase alive
        by_cases same : run = other
        · subst same
          exact fun dead => alive ((before.setPhase_self run phase).symm.trans dead)
        · exact fun dead => inductionHypothesis.2 run ((before.setPhase_of_ne phase same).symm.trans dead)
      rcases Machine.step_cases taken with
        ⟨other, job, shared, _, started, rfl⟩ | ⟨other, job, op, rest, choice, outcome, _, executed, rfl⟩ |
        ⟨other, job, op, rest, _, rfl⟩ | ⟨event, shared, happened, rfl⟩
      · exact kept other _ nofun
      · exact kept other _ nofun
      · cases allowed
      · exact inductionHypothesis.2 run

/-- A message that is not acknowledged does not rest. -/
theorem life_continues (distinct : settings.RABBITMQ_RETRY_QUEUE ≠ settings.RABBITMQ_ROUTING_KEY)
    (bound : 0 ≤ settings.RABBITMQ_MAX_RETRIES) (fresh : message.x_death = [])
    (reached : LifeReached settings message state) (open_life : state.shared.acked = []) :
    exists action next, Machine.step state action = some next ∧ next.shared.crashed = false := by
  have holds := (life_verified distinct bound fresh).sound reached
  rcases not_crashed reached with ⟨alive, phases⟩
  cases holds.inv with
  | main found located waiting =>
      rcases reached.started_listed with ⟨runs, absent⟩
      rcases Infinite.exists_notMem_finset runs.toFinset with ⟨run, unlisted⟩
      have listed : found ∈ state.shared.main := by
        rw [located.main]
        exact List.mem_singleton_self found
      have idle := absent run (fun member => unlisted (List.mem_toFinset.mpr member))
      have delivered : Exists fun after => Life.deliver found run state.shared = some after ∧ after.crashed = false :=
        ⟨_, if_pos listed, alive⟩
      rcases delivered with ⟨after, delivered, alive⟩
      exact ⟨.start run found, ⟨after, state.setPhase run (.running found (ConsumerCall.handle settings found))⟩,
        by simp only [Machine.step, idle, delivered, Option.map_some], alive⟩
  | retry found located waiting =>
      have listed : state.shared.retry[0]? = some found := by
        rw [located.retry]
        rfl
      have expired : Exists fun after => Life.expire settings 0 state.shared = some after ∧ after.crashed = false := by
        refine ⟨_, Option.map_eq_some_iff.mpr ⟨found, listed, rfl⟩, ?_⟩
        rw [Life.dead_letter, retry_dead_letter_route distinct]
        exact alive
      rcases expired with ⟨after, expired, alive⟩
      exact ⟨.env 0, ⟨after, state.phase⟩, by simp only [Machine.step, expired, Option.map_some], alive⟩
  | in_delivery run found located delivered =>
      cases phase : state.phase run with
      | absent =>
          have free := (holds.absent run phase).2
          rw [located.held] at free
          cases free
      | crashed => exact absurd phase (phases run)
      | running job rest =>
          have safe := holds.running run job rest phase
          cases rest with
          | ret value =>
              have free : state.shared.unacked run = none := safe.2
              rw [located.held] at free
              cases free
          | raise error => cases safe
          | call call rest =>
              let results : Results := ⟨.ok .non_object, .error .infrastructure, .ok (), false, by simp, by simp,
                by simp⟩
              rcases call_executes distinct run call results state.shared with ⟨after, answer, executed, same⟩
              refine ⟨.perform run results, ⟨after, state.setPhase run (.running job (rest answer))⟩, ?_,
                same.trans alive⟩
              simp only [Machine.step, phase, executed, Option.map_some]
  | acked found located settled =>
      rw [located.acked] at open_life
      cases open_life

/-! ## The life cycle -/

/-- What is true at any time of the life of a message. -/
structure LifeCycle (settings : Settings) (state : (life_cycle settings).State) : Prop where
  placed : Placed settings state.shared
  invoked : (state.shared.invocations : Int) ≤ settings.RABBITMQ_MAX_RETRIES
  answered : forall run message, state.phase run = .running message (.ret ()) ->
    Exists fun reply => state.shared.answers run = [reply]
  returns : forall run message error, state.phase run ≠ .running message (.raise error)
  routed : forall message, message ∈ state.shared.acked -> Reason settings message state.shared
  copied : forall message, message ∈ state.shared.acked -> Hopeless settings message state.shared ->
    PaymentConsumerHandler.dlq_copy message ∈ state.shared.dlq
  /-- While every processing raises, the copy is published at the delivery
  after the last retry, and the message is not acknowledged before. -/
  exhausted : state.shared.exhausting = true ->
    (state.shared.deliveries : Int) ≤ settings.RABBITMQ_MAX_RETRIES + 1 ∧
      (state.shared.dlq = [] ∧ state.shared.acked = [] ∨
        (state.shared.deliveries : Int) = settings.RABBITMQ_MAX_RETRIES + 1 ∧
          Exists fun message => state.shared.dlq = [PaymentConsumerHandler.dlq_copy message])
  continues : state.shared.acked = [] ->
    exists action next, Machine.step state action = some next ∧ next.shared.crashed = false

theorem Placed.within (placed : Placed settings life) :
    (life.invocations : Int) ≤ settings.RABBITMQ_MAX_RETRIES := by
  cases placed with
  | main found located waiting => exact waiting.within
  | retry found located waiting => exact waiting.within
  | in_delivery run found located delivered => exact delivered.within
  | acked found located settled => exact settled.within

theorem Placed.settled (placed : Placed settings life) (listed : message ∈ life.acked) :
    Settled settings message life := by
  cases placed with
  | main found located => rw [located.acked] at listed; cases listed
  | retry found located => rw [located.acked] at listed; cases listed
  | in_delivery run found located => rw [located.acked] at listed; cases listed
  | acked found located settled =>
      rw [located.acked, List.mem_singleton] at listed
      exact listed ▸ settled

/-- What is acknowledged without hope has a copy in the dead letter queue. -/
theorem Settled.copied (settled : Settled settings message life) (hopeless : Hopeless settings message life) :
    PaymentConsumerHandler.dlq_copy message ∈ life.dlq := by
  cases settled.reason with
  | dead _ copied => exact copied
  | foreign event_type aggregate_id correlation_id decoded other =>
      cases hopeless with
      | undecodable error failed => cases decoded.symm.trans failed
      | non_object found => cases decoded.symm.trans found
      | exhausted aggregate_id' correlation_id' found =>
          cases decoded.symm.trans found
          exact absurd rfl other
  | processed aggregate_id correlation_id result decoded admitted =>
      cases hopeless with
      | undecodable error failed => cases decoded.symm.trans failed
      | non_object found => cases decoded.symm.trans found
      | exhausted aggregate_id' correlation_id' found exceeded => exact absurd admitted (not_lt.mpr exceeded)

theorem Placed.exhausted (placed : Placed settings life) (exhausting : life.exhausting = true) :
    (life.deliveries : Int) ≤ settings.RABBITMQ_MAX_RETRIES + 1 ∧
      (life.dlq = [] ∧ life.acked = [] ∨ (life.deliveries : Int) = settings.RABBITMQ_MAX_RETRIES + 1 ∧
        Exists fun message => life.dlq = [PaymentConsumerHandler.dlq_copy message]) := by
  cases placed with
  | main found located waiting =>
      have known := waiting.exhausting exhausting
      exact ⟨by rw [waiting.deliveries]; omega, .inl ⟨known.1, located.acked⟩⟩
  | retry found located waiting =>
      have known := waiting.exhausting exhausting
      exact ⟨by rw [waiting.deliveries]; omega, .inl ⟨known.1, located.acked⟩⟩
  | in_delivery run found located delivered =>
      have known := delivered.exhausting exhausting
      refine ⟨by rw [delivered.deliveries]; push_cast; omega, ?_⟩
      rcases known.2 with empty | ⟨copied, last⟩
      · exact .inl ⟨empty, located.acked⟩
      · exact .inr ⟨by rw [delivered.deliveries]; push_cast; omega, found, copied⟩
  | acked found located settled =>
      have known := settled.exhausting exhausting
      have last : (life.deliveries : Int) = settings.RABBITMQ_MAX_RETRIES + 1 := by
        rw [settled.deliveries]
        push_cast
        omega
      exact ⟨last.le, .inr ⟨last, found, known.1⟩⟩

/-- The life cycle of one message, and the consumer of the service is the one
that it is about. -/
theorem message_life_cycle (distinct : settings.RABBITMQ_RETRY_QUEUE ≠ settings.RABBITMQ_ROUTING_KEY)
    (bound : 0 ≤ settings.RABBITMQ_MAX_RETRIES) (fresh : message.x_death = [])
    (reached : LifeReached settings message state) :
    LifeCycle settings state ∧ forall delivered : Message,
      ConsumerCall.handle settings delivered = (ConsumerCall.route settings delivered).settle reply_to ∧
      (ConsumerCall.route settings delivered).OnlyCalls answers_nothing ∧
      (ConsumerCall.handle settings delivered).translate (ConsumerCall.in_service delivered) =
        PaymentConsumerHandler.handle settings delivered := by
  have holds := (life_verified distinct bound fresh).sound reached
  refine ⟨⟨holds.inv, holds.inv.within, fun run delivered ended => (holds.running run delivered _ ended).1,
    fun run delivered error raised => holds.running run delivered _ raised,
    fun delivered listed => (holds.inv.settled listed).reason,
    fun delivered listed hopeless => (holds.inv.settled listed).copied hopeless, holds.inv.exhausted,
    life_continues distinct bound fresh reached⟩, fun delivered => ?_⟩
  exact ⟨handle_replies settings delivered, route_calls settings delivered,
    ConsumerCall.handle_in_service settings delivered⟩

def one_retry : Settings := { RABBITMQ_MAX_RETRIES := 1 }

def new_payment : Message := ⟨some 1, .object (some "PaymentCreated") (.uuid 7) none, none, []⟩

/-- The gateway is down. -/
def outage : Results :=
  ⟨.ok (.object (some "PaymentCreated") (.uuid 7) none), .error .infrastructure, .ok (), false, nofun, nofun, nofun⟩

/-- The message as it comes back from the retry queue. -/
def returned_message : Message := (new_payment.dead_letter .main "rejected").dead_letter .retry "expired"

/-- Two deliveries: the first one fails, the second one gives up. -/
def exhausted_life : List (life_cycle one_retry).Action :=
  [.start 0 new_payment, .perform 0 outage, .perform 0 outage, .perform 0 outage, .env 0,
    .start 1 returned_message, .perform 1 outage, .perform 1 outage, .perform 1 outage]

theorem exhausted_life_reached : Exists fun state : (life_cycle one_retry).State =>
    LifeReached one_retry new_payment state ∧ state.shared.exhausting = true ∧ state.shared.deliveries = 2 ∧
      state.shared.acked = [returned_message] := by
  have ran : (Machine.runChecked (fun _ after : Life => !after.crashed) (Machine.fresh (Life.published new_payment))
      exhausted_life).map (fun state => (state.shared.exhausting, state.shared.deliveries, state.shared.acked)) =
      some (true, 2, [returned_message]) := by
    decide +kernel
  rcases Option.map_eq_some_iff.mp ran with ⟨state, ran, found⟩
  simp only [Prod.mk.injEq] at found
  exact ⟨state, Machine.Path.of_runChecked (fun _ _ alive => by simpa using alive) exhausted_life ran, found⟩

theorem dead_lettered_once : Exists fun state : (life_cycle one_retry).State =>
    LifeCycle one_retry state ∧ state.shared.acked = [returned_message] ∧
      Exists fun message => state.shared.dlq = [PaymentConsumerHandler.dlq_copy message] := by
  rcases exhausted_life_reached with ⟨state, reached, exhausting, deliveries, acked⟩
  have cycle := (message_life_cycle (by decide) (by decide) rfl reached).1
  refine ⟨state, cycle, acked, ?_⟩
  rcases (cycle.exhausted exhausting).2 with ⟨_, open_life⟩ | ⟨_, copied⟩
  · rw [acked] at open_life
    cases open_life
  · exact copied

end Properties
end Payments

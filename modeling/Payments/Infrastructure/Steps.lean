import Payments.Infrastructure.World

namespace Payments
namespace Infrastructure

open Concurrency Domain

/-!
# What one step can do

`Executed` lists everything an operation may come to, with the conditions under
which it does, and `Occurred` does the same for the environment.  All
invariants are proved from these two lists and not from the definitions of the
operations.
-/

/-- The exceptions that operations raise; the program raises others itself. -/
def external : Error -> Bool
  | .databaseRefused => true
  | .infrastructure => true
  | .cancelled => true
  | .valueError _ => true
  | .httpClient _ => true
  | _ => false

/-- An exception of this answer, if it has one, comes from outside. -/
def Known {X : Type} (answer : Except Error X) : Prop :=
  forall error, answer = .error error -> external error = true

namespace World

variable {run other : RunId} {world after : World}

inductive Executed (run : RunId) (world : World) :
    (op : Op) -> World -> Except Error op.Answer -> Prop where
  | raised (op : Op) (error : Error) (known : external error = true) :
      Executed run world op world (.error error)
  | now (reading : Datetime) :
      Executed run world .now (world.note (.run run) (.clock_read reading)) (.ok reading)
  | uuid7 (id : UUID) (fresh : id ∉ world.issued) :
      Executed run world .uuid7 { world with issued := id :: world.issued } (.ok id)
  | uniform (low high number : Rat) (above : min low high ≤ number) (below : number ≤ max low high) :
      Executed run world (.uniform low high) world (.ok number)
  | selected (name : TableName) (query : Query name) (accepting : world.refusing run = false) :
      Executed run world (.select name query) world
        (.ok (((world.tables name).select run query.condition).insertionSort
          (fun left right => query.before left right)))
  | locked (name : TableName) (query : Query name) (limit : Int) (accepting : world.refusing run = false) :
      Executed run world (.select_for_update name query limit)
        (world.set_table name
          ((world.tables name).selectForUpdate run query.condition query.before limit.toNat).1)
        (.ok ((world.tables name).selectForUpdate run query.condition query.before limit.toNat).2)
  | updated (name : TableName) (statement : Update name) (time : Datetime)
      (table : Table UUID (Row name) RunId) (rows : List (Row name))
      (changed : (world.tables name).update run statement.condition (statement.values time) =
        some (table, rows))
      (accepting : world.refusing run = false) (storable : rows.all Row.storable = true) :
      Executed run world (.update name statement)
        (note (.run run) (.updated name statement rows) (world.set_table name table)) (.ok rows)
  | claimed (name : TableName) (query : Query name) (limit : Int) (statement : Update name)
      (time : Datetime) (table : Table UUID (Row name) RunId) (rows : List (Row name))
      (changed : (world.tables name).updateClaimable run query.condition query.before limit.toNat
        (statement.values time) = (table, rows))
      (accepting : world.refusing run = false) :
      Executed run world (.update_claimable name query limit statement)
        (note (.run run) (.updated_claimable name query statement rows) (world.set_table name table))
        (.ok rows)
  | deleted (cutoff : Datetime) (table : Table UUID OutboxMessageModel RunId)
      (changed : (world.tables .outbox_messages).delete run (purgeable cutoff) = some table)
      (accepting : world.refusing run = false) :
      Executed run world (.delete_finished cutoff)
        (note (.run run)
          (.purged cutoff ((world.tables .outbox_messages).select run (purgeable cutoff)))
          (world.set_table .outbox_messages table)) (.ok ())
  | added (name : TableName) (row : Row name) (storable : row.storable = true)
      (unlisted : row.id ∉ (world.tables name).keys) :
      Executed run world (.add name row)
        (world.set_table name ((world.tables name).put run row.id row)) (.ok ())
  | add_refused (name : TableName) (row : Row name) :
      Executed run world (.add name row)
        { world with refusing := Function.update world.refusing run true } (.ok ())
  | conflicting (row : PaymentModel) (found : world.conflicts run row.idempotency_key = true) :
      Executed run world (.insert_on_conflict_do_nothing (some row)) world (.ok 0)
  | inserted (row : PaymentModel) (storable : row.storable = true)
      (unseen : world.conflicts run row.idempotency_key = false)
      (uncontended : world.contended run row.idempotency_key = false)
      (unlisted : row.id ∉ (world.tables .payments).keys) :
      Executed run world (.insert_on_conflict_do_nothing (some row))
        (world.set_table .payments ((world.tables .payments).put run row.id row)) (.ok 1)
  | committed (answer : Except Error Unit) (known : Known answer) (accepting : world.refusing run = false) :
      Executed run world .commit (world.commit run) answer
  | rolled_back (answer : Except Error Unit) (known : Known answer) :
      Executed run world .rollback (world.rollback run) answer
  | closed (answer : Except Error Unit) (known : Known answer) :
      Executed run world .close (world.release run) answer
  | charge_called (payment_id : UUID) (amount : Money) (idempotency_key : String) :
      Executed run world (.charge_call payment_id amount idempotency_key)
        (world.note (.run run) (.charge_called payment_id amount idempotency_key)) (.ok ())
  | charge_returned (payment_id : UUID) (result : GatewayResult) :
      Executed run world (.charge_return payment_id)
        (world.note (.run run) (.charge_returned payment_id result)) (.ok result)
  | charge_raised (payment_id : UUID) (error : Error) (known : external error = true) :
      Executed run world (.charge_return payment_id)
        (world.note (.run run) (.charge_raised payment_id)) (.error error)
  | publishes_started (messages : List OutboxMessage) (concurrency : Int) :
      Executed run world (.publish_all messages concurrency)
        (world.set_publishing run
          ⟨concurrency, messages.map (fun message => ⟨message, false, .waiting⟩)⟩) (.ok ())
  | publishes_abandoned :
      Executed run world .published_all (world.abandon_publishing run) (.error .cancelled)
  | published (results : List (OutboxMessage × Bool))
      (ended : (world.publishing run).tasks.mapM publish_result = some results) :
      Executed run world .published_all (world.set_publishing run Gather.none) (.ok results)
  | sends_started (requests : List (WebhookDelivery × Option WebhookRequest)) (concurrency : Int) :
      Executed run world (.send_all requests concurrency)
        (world.set_sending run ⟨concurrency, requests.map (fun request =>
          ⟨request.1, request.2, if request.2.isSome then .waiting else .finished none⟩)⟩) (.ok ())
  | sends_abandoned :
      Executed run world .sent_all (world.set_sending run Gather.none) (.error .cancelled)
  | send_raised (error : Error) (raised : (world.sending run).tasks.findSome? send_error = some error) :
      Executed run world .sent_all world (.error error)
  | sent (results : List (WebhookDelivery × Option WebhookSendResult))
      (quiet : (world.sending run).tasks.findSome? send_error = none)
      (ended : (world.sending run).tasks.mapM send_result = some results) :
      Executed run world .sent_all (note (.run run) (.gathered results) (world.set_sending run Gather.none))
        (.ok results)
  | dead_lettered (message : Message) (answer : Except Error Unit) (known : Known answer) :
      Executed run world (.publish_dlq message) (world.dead_letter run message) answer
  | acked (message : Message) (delivered : world.broker.unacked run = some message)
      (answer : Except Error Unit) (known : Known answer) :
      Executed run world .ack (acknowledge run message world) answer
  | nacked (message : Message) (delivered : world.broker.unacked run = some message)
      (answer : Except Error Unit) (known : Known answer) :
      Executed run world .nack (reject run message world) answer

theorem external_interruption (interruption : Interruption) : external interruption.error = true := by
  cases interruption <;> rfl

theorem known_ok {X : Type} (value : X) : Known (.ok value : Except Error X) := by
  intro error failed
  cases failed

theorem known_interruption {X : Type} (interruption : Interruption) :
    Known (.error interruption.error : Except Error X) := by
  intro error failed
  cases failed
  exact external_interruption interruption

theorem known_of_interruption (interruption : Option Interruption) :
    Known (match interruption with
      | some interruption => .error interruption.error
      | none => .ok () : Except Error Unit) := by
  cases interruption with
  | none => exact known_ok ()
  | some interruption => exact known_interruption interruption

theorem external_send_error {task : SendTask} {error : Error} (raised : send_error task = some error) :
    external error = true := by
  unfold send_error at raised
  split at raised
  · cases raised
    rfl
  · cases raised

/-- A statement either raises and changes nothing, or executes. -/
theorem statement_executed {op : Op} {choice : Choice} {answer : Except Error op.Answer}
    {execute : Option (World × Except Error op.Answer)}
    (executed : statement run choice world execute = some (after, answer))
    (otherwise : world.refusing run = false -> execute = some (after, answer) ->
      Executed run world op after answer) :
    Executed run world op after answer := by
  unfold statement at executed
  split at executed
  · cases executed
    exact .raised op _ rfl
  · next accepting =>
      split at executed
      · cases executed
        exact .raised op _ (external_interruption _)
      · exact otherwise (by simpa using accepting) executed

theorem limited_executed {op : Op} {limit : Int} {answer : Except Error op.Answer}
    {execute : Nat -> Option (World × Except Error op.Answer)}
    (executed : limited limit world execute = some (after, answer))
    (otherwise : execute limit.toNat = some (after, answer) -> Executed run world op after answer) :
    Executed run world op after answer := by
  unfold limited at executed
  split at executed
  · cases executed
    exact .raised op _ rfl
  · exact otherwise executed

theorem exec_insert_executed {row : PaymentModel} {choice : Choice} {answer : Except Error Nat}
    (executed : exec_insert run row choice world = some (after, answer)) :
    Executed run world (.insert_on_conflict_do_nothing (some row)) after answer := by
  refine @statement_executed run world after (.insert_on_conflict_do_nothing (some row)) choice answer _
    executed (fun _ ran => ?_)
  split at ran
  · cases ran
    exact .raised (.insert_on_conflict_do_nothing (some row)) _ rfl
  · next storable =>
      split at ran
      · next found =>
          cases ran
          exact .conflicting row found
      · next unseen =>
          split at ran
          · cases ran
          · next uncontended =>
              split at ran
              · cases ran
                exact .raised (.insert_on_conflict_do_nothing (some row)) _ rfl
              · next unlisted =>
                  cases ran
                  exact .inserted row (by simpa using storable) (by simpa using unseen)
                    (by simpa using uncontended) unlisted

/-- Every operation that executes is one of the cases listed. -/
theorem exec_executed {op : Op} {choice : Choice} {answer : Except Error op.Answer}
    (executed : exec run op choice world = some (after, answer)) :
    Executed run world op after answer := by
  cases op with
  | now =>
      cases executed
      exact .now _
  | uuid7 =>
      simp only [exec] at executed
      split at executed
      · cases executed
      · cases executed
        exact .uuid7 _ ‹_›
  | uniform low high =>
      simp only [exec] at executed
      split at executed
      · next bounds =>
          cases executed
          exact .uniform low high _ bounds.1 bounds.2
      · cases executed
  | select name query =>
      refine statement_executed executed (fun accepting ran => ?_)
      cases ran
      exact .selected name query accepting
  | select_for_update name query limit =>
      refine statement_executed executed (fun accepting ran => ?_)
      refine limited_executed ran (fun ran => ?_)
      cases ran
      exact .locked name query limit accepting
  | update name statement =>
      refine statement_executed executed (fun accepting ran => ?_)
      rcases Option.map_eq_some_iff.mp ran with ⟨⟨table, rows⟩, changed, same⟩
      dsimp only at same
      split at same
      · next storable =>
          cases same
          exact .updated name statement choice.time table rows changed accepting storable
      · cases same
        exact .raised (.update name statement) _ rfl
  | update_claimable name query limit statement =>
      refine statement_executed executed (fun accepting ran => ?_)
      refine limited_executed ran (fun ran => ?_)
      dsimp only at ran
      split at ran
      · cases ran
        exact .claimed name query limit statement choice.time _ _ rfl accepting
      · cases ran
        exact .raised (.update_claimable name query limit statement) _ rfl
  | delete_finished cutoff =>
      refine statement_executed executed (fun accepting ran => ?_)
      rcases Option.map_eq_some_iff.mp ran with ⟨table, changed, same⟩
      cases same
      exact .deleted cutoff table changed accepting
  | add name row =>
      simp only [exec, exec_add] at executed
      split at executed
      · next accepted =>
          rw [Bool.and_eq_true, decide_eq_true_eq] at accepted
          cases executed
          exact .added name row accepted.1 accepted.2
      · cases executed
        exact .add_refused name row
  | insert_on_conflict_do_nothing row =>
      cases row with
      | none =>
          refine statement_executed executed (fun _ ran => ?_)
          cases ran
          exact .raised (.insert_on_conflict_do_nothing none) _ rfl
      | some row => exact exec_insert_executed executed
  | commit =>
      simp only [exec, exec_commit] at executed
      split at executed
      · cases executed
        exact .raised .commit _ rfl
      · next accepting =>
          have accepting : world.refusing run = false := by simpa using accepting
          split at executed
          · split at executed
            · cases executed
              exact .committed _ (known_interruption _) accepting
            · cases executed
              exact .raised .commit _ (external_interruption _)
          · cases executed
            exact .committed _ (known_ok ()) accepting
  | rollback =>
      cases executed
      exact .rolled_back _ (known_of_interruption choice.interruption)
  | close =>
      cases executed
      exact .closed _ (known_of_interruption choice.interruption)
  | charge_call payment_id amount idempotency_key =>
      cases executed
      exact .charge_called payment_id amount idempotency_key
  | charge_return payment_id =>
      simp only [exec, exec_charge_return] at executed
      split at executed
      · cases executed
        exact .charge_raised payment_id _ (external_interruption _)
      · cases executed
        exact .charge_returned payment_id _
  | publish_all messages concurrency =>
      simp only [exec, exec_publish_all] at executed
      split at executed
      · cases executed
        exact .raised (.publish_all messages concurrency) _ rfl
      · cases executed
        exact .publishes_started messages concurrency
  | published_all =>
      simp only [exec, exec_published_all] at executed
      split at executed
      · cases executed
        exact .publishes_abandoned
      · rcases Option.map_eq_some_iff.mp executed with ⟨results, ended, same⟩
        cases same
        exact .published results ended
  | send_all requests concurrency =>
      simp only [exec, exec_send_all] at executed
      split at executed
      · cases executed
        exact .raised (.send_all requests concurrency) _ rfl
      · cases executed
        exact .sends_started requests concurrency
  | sent_all =>
      simp only [exec, exec_sent_all] at executed
      split at executed
      · cases executed
        exact .sends_abandoned
      · split at executed
        · next error raised =>
            cases executed
            exact .send_raised error raised
        · next quiet =>
            rcases Option.map_eq_some_iff.mp executed with ⟨results, ended, same⟩
            cases same
            exact .sent results quiet ended
  | publish_dlq message =>
      simp only [exec, exec_publish_dlq] at executed
      split at executed
      · split at executed
        · cases executed
          exact .dead_lettered message _ (known_interruption _)
        · cases executed
          exact .raised (.publish_dlq message) _ (external_interruption _)
      · cases executed
        exact .dead_lettered message _ (known_ok ())
  | ack =>
      simp only [exec, exec_answer] at executed
      split at executed
      · cases executed
        exact .raised .ack _ rfl
      · next message delivered =>
          split at executed
          · split at executed
            · cases executed
              exact .acked message delivered _ (known_interruption _)
            · cases executed
              exact .raised .ack _ (external_interruption _)
          · cases executed
            exact .acked message delivered _ (known_ok ())
  | nack =>
      simp only [exec, exec_answer] at executed
      split at executed
      · cases executed
        exact .raised .nack _ rfl
      · next message delivered =>
          split at executed
          · split at executed
            · cases executed
              exact .nacked message delivered _ (known_interruption _)
            · cases executed
              exact .raised .nack _ (external_interruption _)
          · cases executed
            exact .nacked message delivered _ (known_ok ())

/-- Every exception of an operation comes from outside of the program. -/
theorem Executed.external {op : Op} {error : Error}
    (executed : Executed run world op after (.error error)) : external error = true := by
  generalize failed : (Except.error error : Except Error op.Answer) = answer at executed
  cases executed with
  | raised op error known =>
      cases failed
      exact known
  | committed answer known => exact known error failed.symm
  | rolled_back answer known => exact known error failed.symm
  | closed answer known => exact known error failed.symm
  | charge_raised payment_id error known =>
      cases failed
      exact known
  | publishes_abandoned =>
      cases failed
      rfl
  | sends_abandoned =>
      cases failed
      rfl
  | send_raised error raised =>
      cases failed
      rcases List.exists_of_findSome?_eq_some raised with ⟨task, _, found⟩
      exact external_send_error found
  | dead_lettered message answer known => exact known error failed.symm
  | acked message delivered answer known => exact known error failed.symm
  | nacked message delivered answer known => exact known error failed.symm
  | _ => cases failed

/-- A rollback ends the transaction even when the call raises. -/
theorem exec_rollback_eq {choice : Choice} {answer : Except Error Unit}
    (executed : exec run .rollback choice world = some (after, answer)) : after = world.rollback run := by
  cases executed
  rfl

theorem exec_close_eq {choice : Choice} {answer : Except Error Unit}
    (executed : exec run .close choice world = some (after, answer)) : after = world.release run := by
  cases executed
  rfl

/-- A wait for publishes that raises has cancelled them. -/
theorem exec_published_all_raised {choice : Choice} {error : Error}
    (executed : exec run .published_all choice world = some (after, .error error)) :
    after = world.abandon_publishing run := by
  simp only [exec, exec_published_all] at executed
  split at executed
  · cases executed
    rfl
  · rcases Option.map_eq_some_iff.mp executed with ⟨results, _, same⟩
    cases same

/-! ## The environment -/

inductive Occurred (world : World) : World -> Prop where
  | idle : Occurred world world
  | ticked (time : Datetime) : Occurred world { world with clock := time }
  | expired (index : Nat) (message : Message) (found : world.broker.retry[index]? = some message) :
      Occurred world (world.set_broker { world.broker with
        retry := world.broker.retry.eraseIdx index
        main := message.dead_letter .retry "expired" :: world.broker.main })
  | requeued (owner : RunId) (message : Message) (found : world.broker.unacked owner = some message) :
      Occurred world (world.set_broker { world.broker with
        unacked := Function.update world.broker.unacked owner none
        main := message :: world.broker.main })
  | landed (index : Nat) (message : Message) (found : world.broker.wire[index]? = some message) :
      Occurred world (world.set_broker { world.broker with
        wire := world.broker.wire.eraseIdx index
        main := message :: world.broker.main })
  | publish_started (owner : RunId) (index : Nat) (message : OutboxMessage) (landed : Bool)
      (found : (world.publishing owner).tasks[index]? = some ⟨message, landed, .waiting⟩) :
      Occurred world (note .environment (.publish_called owner message)
        (world.set_publish_task owner index ⟨message, landed, .running⟩))
  | publish_landed (owner : RunId) (index : Nat) (message : OutboxMessage)
      (found : (world.publishing owner).tasks[index]? = some ⟨message, false, .running⟩) :
      Occurred world ((world.set_publish_task owner index ⟨message, true, .running⟩).set_broker
        { world.broker with main := Message.of_outbox message :: world.broker.main })
  | publish_confirmed (owner : RunId) (index : Nat) (message : OutboxMessage)
      (found : (world.publishing owner).tasks[index]? = some ⟨message, true, .running⟩) :
      Occurred world (note .environment (.publish_confirmed owner message)
        (world.set_publish_task owner index ⟨message, true, .finished true⟩))
  | publish_failed (owner : RunId) (index : Nat) (message : OutboxMessage) (landed : Bool)
      (found : (world.publishing owner).tasks[index]? = some ⟨message, landed, .running⟩) :
      Occurred world (note .environment (.publish_failed owner message)
        ((world.set_publish_task owner index ⟨message, landed, .finished false⟩).set_broker
          { world.broker with
            wire := if landed then world.broker.wire
              else Message.of_outbox message :: world.broker.wire }))
  | send_started (owner : RunId) (index : Nat) (delivery : WebhookDelivery) (request : WebhookRequest)
      (found : (world.sending owner).tasks[index]? = some ⟨delivery, some request, .waiting⟩) :
      Occurred world (note .environment (.send_called owner request)
        (world.set_send_task owner index ⟨delivery, some request, .running⟩))
  | send_finished (owner : RunId) (index : Nat) (delivery : WebhookDelivery)
      (request : Option WebhookRequest) (outcome : ClientOutcome)
      (found : (world.sending owner).tasks[index]? = some ⟨delivery, request, .running⟩) :
      Occurred world (note .environment (.send_finished owner delivery.id outcome)
        (world.set_send_task owner index ⟨delivery, request, .finished (some outcome)⟩))

theorem happen_occurred {event : Occurrence} (happened : happen event world = some after) :
    Occurred world after := by
  cases event with
  | tick time =>
      cases happened
      exact .ticked time
  | expire index =>
      rcases Option.map_eq_some_iff.mp happened with ⟨message, found, rfl⟩
      exact .expired index message found
  | requeue owner =>
      cases happened
      unfold requeue
      split
      · exact .idle
      · next message found => exact .requeued owner message found
  | land index =>
      rcases Option.map_eq_some_iff.mp happened with ⟨message, found, rfl⟩
      exact .landed index message found
  | start_publish owner index =>
      simp only [happen, start_publish] at happened
      split at happened
      · next message landed found =>
          split at happened
          · cases happened
            exact .publish_started owner index message landed found
          · cases happened
      · cases happened
  | land_publish owner index =>
      simp only [happen, land_publish] at happened
      split at happened
      · next message found =>
          cases happened
          exact .publish_landed owner index message found
      · cases happened
  | finish_publish owner index confirmed =>
      simp only [happen, finish_publish] at happened
      split at happened
      · next message landed found =>
          cases confirmed with
          | true =>
              cases landed with
              | true =>
                  cases happened
                  exact .publish_confirmed owner index message found
              | false => cases happened
          | false =>
              cases happened
              cases landed with
              | true => exact .publish_failed owner index message true found
              | false => exact .publish_failed owner index message false found
      · cases happened
  | start_send owner index =>
      simp only [happen, start_send] at happened
      split at happened
      · next delivery request found =>
          split at happened
          · cases happened
            exact .send_started owner index delivery request found
          · cases happened
      · cases happened
  | finish_send owner index outcome =>
      simp only [happen, finish_send] at happened
      split at happened
      · next delivery request found =>
          cases happened
          exact .send_finished owner index delivery request outcome found
      · cases happened

end World
end Infrastructure
end Payments

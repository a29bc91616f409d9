import Payments.Properties.PaymentProcessing

namespace Payments
namespace Properties

open Concurrency Domain Infrastructure Application Prog UnitOfWork Payments.System

/-!
# The runs of the payment handler

The handler is followed from its end to its beginning: the end of a charge, the
charge, the claim, the first look at the payment, and the transaction around
all of it.  What the handler returns says which of these it has passed.
-/

variable {deployment : Deployment} {world after : World} {run : RunId} {op : Op} {key : UUID}
  {row draft : PaymentModel} {stored : PaymentAttemptModel} {delivery : Option WebhookDeliveryModel}
  {said : List Event -> Prop}

/-! ## The end of a charge -/

theorem Charging.handled_succeeding {payment ended : Payment} {attempt saved : PaymentAttempt}
    {result : GatewayResult} {time : Datetime} (charging : Charging row payment attempt) (own : row.id = key)
    (attempted : payment.succeed_attempt time result = .ok (ended, saved)) : HandledFrom key ended := by
  rcases charging.begun with ⟨loaded, processing, attempt_id, correlation_id, started_at, load, mark, begin⟩
  exact ⟨row, loaded, own, load, .succeeding processing payment ended attempt saved attempt_id correlation_id started_at
    time result mark begin attempted⟩

theorem Charging.handled_failing {payment ended : Payment} {attempt saved : PaymentAttempt} {error : Option String}
    {time : Datetime} (charging : Charging row payment attempt) (own : row.id = key)
    (attempted : payment.fail_attempt time error = .ok (ended, saved)) : HandledFrom key ended := by
  rcases charging.begun with ⟨loaded, processing, attempt_id, correlation_id, started_at, load, mark, begin⟩
  exact ⟨row, loaded, own, load, .failing processing payment ended attempt saved attempt_id correlation_id started_at
    time error mark begin attempted⟩

theorem settle_triple (lasts : Lasts said) {stored : Option PaymentAttemptModel} {payment : Payment}
    {attempt : PaymentAttempt} (charging : Charging row payment attempt) (own : row.id = key)
    (result : GatewayResult) (time : Datetime) :
    (payment_discipline deployment).Triple (working_run run key row (working row) stored delivery said)
      (ProcessPaymentHandler.settle payment result time)
      (fun settled => (working_run run key row (finished row (verdict result) time) stored delivery said).both
        (.fact (settled.2 = true ∧ Settles row attempt settled.1 result time))) (raising run) := by
  have charged := charging.charged
  have named : payment.id = key := charged.id.trans own
  rw [ProcessPaymentHandler.settle]
  split
  · next success =>
      refine Discipline.Triple.ofExcept_bind (fun _ _ failed _ _ => tame_succeed_attempt failed)
        (fun ended attempted => ?_)
      refine Discipline.Triple.ofExcept_bind (fun _ _ failed _ _ => tame_mark_succeeded failed)
        (fun marked done => ?_)
      have settles : Settles row attempt ended.2 result time :=
        settles_succeeded charging success attempted done
      have ends := ended_succeeded charged.last attempted
      have same : marked.id = key := (marked_succeeded done).id.trans (ends.id.trans named)
      have target : verdict result = .SUCCEEDED := by simp [verdict, success]
      have finish := @finish_triple deployment run key row stored delivery said lasts .SUCCEEDED time ended.1 marked
        rfl (.succeeded time marked done) (charging.handled_succeeding own attempted)
        ⟨ends.id.trans named, ends.version.trans charged.version, ends.status.trans charged.status,
          ends.processed_at.trans charged.processed_at⟩
      rw [same, charged.version, charged.status, target]
      refine Discipline.Triple.bind finish (fun claimed => Discipline.Triple.of_fact (fun yes =>
        Discipline.Triple.ret (fun _ _ known => ?_)))
      exact ⟨known, yes, settles⟩
  · next declined =>
      have declined : result.success = false := Bool.eq_false_iff.mpr declined
      refine Discipline.Triple.ofExcept_bind (fun _ _ failed _ _ => tame_fail_attempt failed)
        (fun ended attempted => ?_)
      refine Discipline.Triple.ofExcept_bind (fun _ _ failed _ _ => tame_mark_failed failed)
        (fun marked done => ?_)
      have settles : Settles row attempt ended.2 result time :=
        settles_failed charging declined attempted done
      have ends := ended_failed charged.last attempted
      have same : marked.id = key := (marked_failed done).id.trans (ends.id.trans named)
      have target : verdict result = .FAILED := by simp [verdict, declined]
      have finish := @finish_triple deployment run key row stored delivery said lasts .FAILED time ended.1 marked
        rfl (.failed time result.error marked done) (charging.handled_failing own attempted)
        ⟨ends.id.trans named, ends.version.trans charged.version, ends.status.trans charged.status,
          ends.processed_at.trans charged.processed_at⟩
      rw [same, charged.version, charged.status, target]
      refine Discipline.Triple.bind finish (fun claimed => Discipline.Triple.of_fact (fun yes =>
        Discipline.Triple.ret (fun _ _ known => ?_)))
      exact ⟨known, yes, settles⟩

/-- The rows of the attempt and the delivery belong to the end of the payment. -/
structure Ends (key : UUID) (row : PaymentModel) (result : GatewayResult) (time : Datetime)
    (attempt : PaymentAttemptModel) (delivery : WebhookDeliveryModel) : Prop where
  attempted : attempt.payment_id = key ∧ attempt.attempt_number = 1 ∧
    attempt.status.value = (verdict result).value
  delivered : delivery.payment_id = key ∧ delivery.event_type = "payment." ++ (verdict result).value
  aggregated : Aggregated row (finished row (verdict result) time) result time

/-- The outcome that reports the answer of the gateway. -/
def reported (result : GatewayResult) : PaymentProcessingOutcome :=
  if result.success then .SUCCEEDED else .FAILED

/-- Where the body of the handler has ended. -/
inductive Prepared (run : RunId) (key : UUID) (earlier : List Entry) (world : World) :
    PaymentProcessingOutcome -> Prop where
  | settled (row : PaymentModel) (result : GatewayResult) (time : Datetime) (attempt : PaymentAttemptModel)
      (delivery : WebhookDeliveryModel) (ends : Ends key row result time attempt delivery)
      (working : Working run key row (finished row (verdict result) time) (some attempt) (some delivery) world)
      (answered : Answered key result (world.own run)) : Prepared run key earlier world (reported result)
  | lost (outcome : PaymentProcessingOutcome) (row : PaymentModel)
      (named : outcome = .ALREADY_TERMINAL ∨ outcome = .CLAIM_CONFLICT)
      (found : (world.cell .payments key).committed = some row) (final : Final row)
      (clear : Clear run world) (unused : Unused (world.own run)) : Prepared run key earlier world outcome
  | missing (unmentioned : Unmentioned key earlier) (clear : Clear run world)
      (unused : Unused (world.own run)) : Prepared run key earlier world .NOT_FOUND

theorem Prepared.stable {earlier : List Entry} {outcome : PaymentProcessingOutcome}
    (prepared : Prepared run key earlier world outcome) (untouched : World.Untouched run world after)
    (evolves : PaymentsEvolve world after) : Prepared run key earlier after outcome := by
  cases prepared with
  | settled row result time attempt delivery ends working answered =>
      exact .settled row result time attempt delivery ends (working.stable untouched) (untouched.own ▸ answered)
  | lost outcome row named found final clear unused =>
      rcases evolves.grows key row found with ⟨later, found', grows⟩
      have same := grows.of_final final
      subst same
      exact .lost outcome later named found' final (clear.stable untouched) (untouched.own ▸ unused)
  | missing unmentioned clear unused =>
      exact .missing unmentioned (clear.stable untouched) (untouched.own ▸ unused)

def prepared (run : RunId) (key : UUID) (earlier : List Entry) (outcome : PaymentProcessingOutcome) :
    (payment_discipline deployment).Assertion run :=
  knowing run (fun world => Prepared run key earlier world outcome)
    (fun _ _ untouched evolves known => known.stable untouched evolves)

/-- The statements on attempts and the additions of a working run are permitted at any time. -/
theorem attempt_permits (statement : Update .payment_attempts) :
    PaymentPermits run (.update .payment_attempts statement) world where
  inserting := by simp
  unadded := by simp
  unlocked := by simp
  unclaimed := by simp
  moving := by simp
  marking := by simp
  committing := by simp
  closing := by simp
  charging := by simp
  awaiting := by simp
  answering := by simp

theorem add_permits {name : TableName} (new : Row name) (different : name ≠ .payments) :
    PaymentPermits run (.add name new) world where
  inserting := by simp
  unadded := by
    intro found same
    cases same
    exact different rfl
  unlocked := by simp
  unclaimed := by simp
  moving := by simp
  marking := by simp
  committing := by simp
  closing := by simp
  charging := by simp
  awaiting := by simp
  answering := by simp

theorem own_added {name : TableName} {new : Row name}
    (executed : World.Executed run world (.add name new) after (.ok ())) : after.own run = world.own run := by
  cases executed with
  | added => rfl
  | add_refused => rfl

/-- The end of the attempt is saved. -/
theorem progress_triple (lasts : Lasts said) {old : PaymentAttemptModel} {saved : PaymentAttempt}
    (same : old.id = saved.id) :
    (payment_discipline deployment).Triple (working_run run key row draft (some old) none said)
      (SqlAlchemyAttemptRepository.update saved)
      (fun _ => working_run run key row draft (some (progressed old saved)) none said) (raising run) := by
  have updated : (payment_discipline deployment).Triple (working_run run key row draft (some old) none said)
      (await (.update .payment_attempts (.attempt_progress saved)))
      (fun _ => working_run run key row draft (some (progressed old saved)) none said) (raising run) := by
    refine operation_triple (fun world _ _ => attempt_permits _) (fun world after rows kept known executed => ?_)
    refine ⟨(known.1.progressed kept.keyed same executed).1, ?_⟩
    rw [World.own_updated executed]
    exact lasts _ _ rfl known.2
  exact Discipline.Triple.bind updated (fun _ => Discipline.Triple.ret (fun _ _ known => known))

/-- Adding the delivery completes what the transaction has to install. -/
theorem delivery_triple {stored : PaymentAttemptModel} {new : WebhookDelivery} :
    (payment_discipline deployment).Triple (working_run run key row draft (some stored) none said)
      (SqlAlchemyWebhookDeliveryRepository.add new)
      (fun _ => working_run run key row draft (some stored) (some (WebhookDeliveryModel.to_model new)) said)
      (raising run) := by
  refine operation_triple (fun world _ _ => add_permits _ (by simp)) (fun world after _ _ known executed => ?_)
  refine ⟨known.1.added_delivery executed, ?_⟩
  rw [own_added executed]
  exact known.2

/-- From the answer of the gateway to the end of the body. -/
theorem finalize_triple {earlier : List Entry} (command : ProcessPaymentCommand) {payment : Payment}
    {attempt : PaymentAttempt} (charging : Charging row payment attempt) (own : row.id = key)
    (result : GatewayResult) :
    (payment_discipline deployment).Triple
      (working_run run key row (working row) (some (PaymentAttemptModel.of_attempt attempt)) none
        (Answered key result))
      (ProcessPaymentHandler.finalize command payment result)
      (fun value => prepared run key earlier value.outcome) (raising run) := by
  have charged := charging.charged
  refine Discipline.Triple.bind (now_triple (lasts_answered key result)) (fun finished_at => ?_)
  refine Discipline.Triple.bind (settle_triple (lasts_answered key result) charging own result finished_at)
    (fun settled => Discipline.Triple.of_fact (fun known => ?_))
  rcases settled with ⟨saved, claimed⟩
  rcases known with ⟨yes, settles⟩
  have yes : claimed = true := yes
  subst yes
  refine Discipline.Triple.bind (progress_triple (lasts_answered key result) settles.id.symm) (fun _ => ?_)
  refine Discipline.Triple.bind uuid7_triple (fun delivery_id => ?_)
  refine Discipline.Triple.bind delivery_triple (fun _ => Discipline.Triple.ret (fun world _ known => ?_))
  refine Prepared.settled row result finished_at _ _ ⟨?_, ?_, settles.aggregated⟩ known.1 known.2
  · exact ⟨charged.payment_id.trans own, charged.number, settles.status⟩
  · refine ⟨charged.id.trans own, ?_⟩
    cases success : result.success with
    | true => simp [WebhookDelivery.create, WebhookDeliveryModel.to_model, verdict, success, PaymentStatus.value]
    | false => simp [WebhookDelivery.create, WebhookDeliveryModel.to_model, verdict, success, PaymentStatus.value]

/-! ## The charge -/

theorem charge_permits {amount : Money} {text : String}
    (working : Working run key row draft (some stored) none world) (orders : Orders row amount text)
    (uncharged : Uncharged (world.own run)) : PaymentPermits run (.charge_call key amount text) world where
  inserting := by simp
  unadded := by simp
  unlocked := by simp
  unclaimed := by simp
  moving := by simp
  marking := by simp
  committing := by simp
  closing := by simp
  charging := by
    intro id amount' text' same
    cases same
    exact ⟨⟨row, working.payments.held, working.found, working.fresh, orders⟩, uncharged⟩
  awaiting := by simp
  answering := by simp

theorem await_permits (held : (world.cell .payments key).HeldBy run) (waiting : Waiting key (world.own run)) :
    PaymentPermits run (.charge_return key) world where
  inserting := by simp
  unadded := by simp
  unlocked := by simp
  unclaimed := by simp
  moving := by simp
  marking := by simp
  committing := by simp
  closing := by simp
  charging := by simp
  awaiting := by
    intro id same
    cases same
    exact ⟨held, waiting⟩
  answering := by simp

theorem call_triple {amount : Money} {text : String} (orders : Orders row amount text) :
    (payment_discipline deployment).Triple (working_run run key row draft (some stored) none Uncharged)
      (await (.charge_call key amount text))
      (fun _ => working_run run key row draft (some stored) none (Waiting key)) (raising run) := by
  refine operation_triple (fun world _ known => charge_permits known.1 orders known.2)
    (fun world after _ _ known executed => ?_)
  cases executed with
  | charge_called =>
      refine ⟨known.1.of_same rfl rfl, ?_⟩
      rw [World.own_note_self]
      refine ⟨⟨amount, text, List.mem_cons_self⟩, fun id result listed => ?_, fun listed => ?_⟩
      · rcases List.mem_cons.mp listed with impossible | before
        · cases impossible
        · exact known.2.unanswered id result before
      · rcases List.mem_cons.mp listed with impossible | before
        · cases impossible
        · exact known.2.unfinished before

theorem answer_triple :
    (payment_discipline deployment).Triple (working_run run key row draft (some stored) none (Waiting key))
      (await (.charge_return key))
      (fun (result : GatewayResult) => working_run run key row draft (some stored) none (Answered key result))
      (raising run) := by
  refine operation_triple (fun world _ known => await_permits known.1.payments.held known.2)
    (fun world after result _ known executed => ?_)
  cases executed with
  | charge_returned id result =>
      refine ⟨known.1.of_same rfl rfl, ?_⟩
      rw [World.own_note_self]
      rcases known.2.called with ⟨amount, text, called⟩
      exact ⟨⟨amount, text, List.mem_cons_of_mem _ called⟩, List.mem_cons_self⟩

/-- The attempt of the charge is added to the transaction. -/
theorem attempt_triple {new : PaymentAttempt} :
    (payment_discipline deployment).Triple (working_run run key row draft none none said)
      (SqlAlchemyAttemptRepository.add new)
      (fun _ => working_run run key row draft (some (PaymentAttemptModel.of_attempt new)) none said)
      (raising run) := by
  refine operation_triple (fun world _ _ => add_permits _ (by simp)) (fun world after _ _ known executed => ?_)
  refine ⟨known.1.added_attempt executed, ?_⟩
  rw [own_added executed]
  exact known.2

theorem charge_triple {earlier : List Entry} (command : ProcessPaymentCommand) {loaded processing : Payment}
    {started_at : Datetime} (fresh : Fresh row) (load : row.to_domain = .ok loaded)
    (mark : loaded.mark_processing started_at = .ok processing) (own : row.id = key) :
    (payment_discipline deployment).Triple (working_run run key row (working row) none none Uncharged)
      (ProcessPaymentHandler.charge command processing started_at)
      (fun value => prepared run key earlier value.outcome) (raising run) := by
  have named : processing.id = key := (marked_processing mark).id.trans ((loaded_from load).id.trans own)
  rw [ProcessPaymentHandler.charge, named]
  refine Discipline.Triple.bind attempts_triple (fun existing => Discipline.Triple.of_fact (fun none_yet => ?_))
  have none_yet : existing = [] := none_yet
  subst none_yet
  refine Discipline.Triple.bind uuid7_triple (fun attempt_id => ?_)
  refine Discipline.Triple.ofExcept_bind (fun _ _ failed _ _ => tame_begin_attempt failed) (fun begun begin => ?_)
  rcases begun with ⟨payment, attempt⟩
  have charging : Charging row payment attempt :=
    ⟨fresh, loaded, processing, attempt_id, command.correlation_id, started_at, load, mark, begin⟩
  have charged := charging.charged
  have same : payment.id = key := charged.id.trans own
  refine Discipline.Triple.bind attempt_triple (fun _ => ?_)
  subst same
  refine Discipline.Triple.bind (call_triple charged.orders) (fun _ => ?_)
  exact Discipline.Triple.bind answer_triple (fun result => finalize_triple command charging own result)

/-! ## The claim -/

/-- The run holds nothing and has neither charged nor changed anything. -/
structure Spotless (run : RunId) (world : World) : Prop where
  clear : Clear run world
  unused : Unused (world.own run)
  unwritten : Unwritten (world.own run)

theorem Spotless.stable (spotless : Spotless run world) (untouched : World.Untouched run world after) : Spotless run after :=
  ⟨spotless.clear.stable untouched, untouched.own ▸ spotless.unused, untouched.own ▸ spotless.unwritten⟩

/-- What the first look at the payment has shown, and what it is now. -/
structure Loaded (run : RunId) (key : UUID) (row : PaymentModel) (world : World) : Prop where
  spotless : Spotless run world
  found : Exists fun later => (world.cell .payments key).committed = some later ∧ Grows row later

theorem Loaded.stable (loaded : Loaded run key row world) (untouched : World.Untouched run world after)
    (evolves : PaymentsEvolve world after) : Loaded run key row after := by
  rcases loaded.found with ⟨later, found, grows⟩
  rcases evolves.grows key later found with ⟨last, found', grows'⟩
  exact ⟨loaded.spotless.stable untouched, last, found', grows.trans grows'⟩

def loaded_run (run : RunId) (key : UUID) (row : PaymentModel) :
    (payment_discipline deployment).Assertion run :=
  knowing run (Loaded run key row) (fun _ _ untouched evolves known => known.stable untouched evolves)

/-- Where the claim has ended: the run has the payment, or another one has ended it. -/
inductive Claimed (run : RunId) (key : UUID) (row : PaymentModel) (world : World) : Bool -> Prop where
  | won (working : Working run key row (Properties.working row) none none world)
      (uncharged : Uncharged (world.own run)) : Claimed run key row world true
  | lost (spotless : Spotless run world) (later : PaymentModel)
      (found : (world.cell .payments key).committed = some later) (final : Final later) :
      Claimed run key row world false

def claimed_run (run : RunId) (key : UUID) (row : PaymentModel) (claimed : Bool) :
    (payment_discipline deployment).Assertion run :=
  knowing run (fun world => Claimed run key row world claimed) (by
    intro before after untouched evolves known
    cases known with
    | won working uncharged => exact .won (working.stable untouched) (untouched.own ▸ uncharged)
    | lost spotless later found final =>
        rcases evolves.grows key later found with ⟨last, found', grows⟩
        have same := grows.of_final final
        subst same
        exact .lost (spotless.stable untouched) last found' final)

/-- The claim takes the pending payment, or finds that it has ended meanwhile. -/
theorem Loaded.begin (loaded : Loaded run key row world) (kept : PaymentsKept world) (fresh : Fresh row)
    (own : row.id = key) {rows : List PaymentModel}
    (executed : World.Executed run world
      (.update .payments (.payment_transition key 0 .PENDING .PROCESSING none)) after (.ok rows)) :
    Claimed run key row after (rows.length == 1) := by
  rcases loaded.found with ⟨later, found, grows⟩
  have unheld : forall id, ¬ (world.cell .payments id).HeldBy run := loaded.spotless.clear .payments
  have seen : (world.cell .payments key).visible run = some later := by
    rw [Cell.visible_of_not_heldBy (unheld key)]
    exact found
  have quiet := World.own_updated executed
  have accepting := accepting_updated executed
  cases executed.updated_at kept.keyed transition_named with
  | missed unmatched empty same =>
      subst empty
      have final : Final later := by
        cases grows with
        | same unchanged =>
            subst unchanged
            have impossible := unmatched _ seen
            rw [transition_condition.mpr ⟨own, fresh.status, fresh.version⟩] at impossible
            cases impossible
        | ended _ final _ => exact final
      refine .lost ⟨fun name id held => ?_, ?_, ?_⟩ later ?_ final
      · exact loaded.spotless.clear name id (same name id ▸ held)
      · rw [quiet]
        exact lasts_unused _ _ rfl loaded.spotless.unused
      · rw [quiet]
        exact unwritten_cons (fun _ _ _ impossible => by cases impossible) loaded.spotless.unwritten
      · rw [same]
        exact found
  | matched found_row time seen' selected free single written others =>
      have both : some later = some found_row := seen.symm.trans seen'
      cases both
      have unchanged : later = row := by
        cases grows with
        | same unchanged => exact unchanged
        | ended _ final _ =>
            have status := (transition_condition.mp selected).2.1
            have terminal := final.terminal
            rw [status] at terminal
            cases terminal
      subst unchanged
      rw [begun fresh] at written
      subst single
      refine .won ⟨?_, ?_, fresh, ?_, ?_⟩ ?_
      · exact holds_written (fun id _ => unheld id) written (fun id different => others _ id (fun _ => different))
      · rw [written]
        exact found
      · exact fun id held => loaded.spotless.clear _ id (others .payment_attempts id (by simp) ▸ held)
      · exact fun id held => loaded.spotless.clear _ id (others .webhook_deliveries id (by simp) ▸ held)
      · rw [quiet]
        exact lasts_uncharged _ _ rfl loaded.spotless.unused.uncharged

theorem claim_payment_triple {earlier : List Entry} (command : ProcessPaymentCommand) {loaded : Payment}
    (fresh : Fresh row) (load : row.to_domain = .ok loaded) (own : row.id = key) :
    (payment_discipline deployment).Triple (loaded_run run key row) (ProcessPaymentHandler.claim command loaded)
      (fun value => prepared run key earlier value.outcome) (raising run) := by
  have loads := loaded_from load
  have named : loaded.id = key := loads.id.trans own
  have pending : loaded.version = 0 ∧ loaded.status = .PENDING ∧ loaded.processed_at = none :=
    ⟨loads.version.trans fresh.version, loads.status.trans fresh.status, loads.processed_at.trans fresh.processed_at⟩
  have now : (payment_discipline deployment).Triple (loaded_run run key row) (await .now)
      (fun _ => loaded_run run key row) (raising run) := by
    refine operation_triple (fun world _ _ => ?_) (fun world after value _ known executed => ?_)
    · exact (plain_of_ne (by simp) (by simp) (by simp) (by simp) (by simp) (by simp) (by simp)
        (by simp)).plain.permits (by simp) (by simp)
    · cases executed with
      | now reading =>
          refine ⟨⟨known.spotless.clear, ?_, ?_⟩, known.found⟩
          · rw [World.own_note_self]
            exact lasts_unused _ _ rfl known.spotless.unused
          · rw [World.own_note_self]
            exact unwritten_cons (fun _ _ _ impossible => by cases impossible) known.spotless.unwritten
  refine Discipline.Triple.bind now (fun started_at => ?_)
  refine Discipline.Triple.ofExcept_bind (fun _ _ failed _ _ => tame_mark_processing failed)
    (fun processing mark => ?_)
  have marked := marked_processing mark
  have begun : (payment_discipline deployment).Triple (loaded_run run key row)
      (SqlAlchemyPaymentRepository.begin_processing key 0 .PENDING)
      (fun claimed => claimed_run run key row claimed) (raising run) := by
    have updated : (payment_discipline deployment).Triple (loaded_run run key row)
        (await (.update .payments (.payment_transition key 0 .PENDING .PROCESSING none)))
        (fun (rows : List PaymentModel) => claimed_run run key row (rows.length == 1)) (raising run) := by
      refine operation_triple (fun world _ known => ?_) (fun world after rows kept known executed => ?_)
      · exact transition_permits (.inl ⟨rfl, rfl, rfl, rfl, known.spotless.clear _ key, known.spotless.unwritten⟩)
          (.processing started_at processing mark) ⟨row, loaded, own, load, .loaded⟩ ⟨named, pending⟩
      · exact known.begin kept fresh own executed
    exact Discipline.Triple.bind updated (fun rows => Discipline.Triple.ret (fun _ _ known => known))
  rw [marked.id, named, pending.1, pending.2.1]
  refine Discipline.Triple.bind begun (fun claimed => ?_)
  cases claimed with
  | false =>
      refine Discipline.Triple.ret (fun world _ known => ?_)
      cases known with
      | lost spotless later found final => exact .lost _ later (.inr rfl) found final spotless.clear spotless.unused
  | true =>
      refine Discipline.Triple.strengthen (charge_triple command fresh load mark own) (fun world _ known => ?_)
      cases known with
      | won working uncharged => exact ⟨working, uncharged⟩

/-! ## The first look at the payment -/

/-- A run that has just been started on the history `earlier`. -/
def starting (run : RunId) (earlier : List Entry) : (payment_discipline deployment).Assertion run :=
  knowing run (fun world => Spotless run world ∧ earlier <:+ world.trace)
    (fun _ _ untouched evolves known => ⟨known.1.stable untouched, known.2.trans evolves.trace⟩)

/-- What the first statement of the run has selected. -/
inductive Seen (run : RunId) (key : UUID) (earlier : List Entry) (world : World) : Option PaymentModel -> Prop where
  | missing (unmentioned : Unmentioned key earlier) (spotless : Spotless run world) : Seen run key earlier world none
  | found (row : PaymentModel) (own : row.id = key) (shape : Fresh row ∨ Final row)
      (loaded : Loaded run key row world) : Seen run key earlier world (some row)

def seen_run (run : RunId) (key : UUID) (earlier : List Entry) (row : Option PaymentModel) :
    (payment_discipline deployment).Assertion run :=
  knowing run (fun world => Seen run key earlier world row) (by
    intro before after untouched evolves known
    cases known with
    | missing unmentioned spotless => exact .missing unmentioned (spotless.stable untouched)
    | found row own shape loaded => exact .found row own shape (loaded.stable untouched evolves))

/-- The aggregate that is made of the selected row. -/
inductive Loads : Option PaymentModel -> Option Payment -> Prop where
  | none : Loads none none
  | some (row : PaymentModel) (payment : Payment) (load : row.to_domain = .ok payment) :
      Loads (some row) (some payment)

def loading_run (run : RunId) (key : UUID) (earlier : List Entry) (payment : Option Payment) :
    (payment_discipline deployment).Assertion run :=
  knowing run (fun world => Exists fun row => Seen run key earlier world row ∧ Loads row payment) (by
    rintro before after untouched evolves ⟨row, seen, loads⟩
    cases seen with
    | missing unmentioned spotless => exact ⟨none, .missing unmentioned (spotless.stable untouched), loads⟩
    | found row own shape loaded => exact ⟨some row, .found row own shape (loaded.stable untouched evolves), loads⟩)

/-- A payment that is not there has never been committed. -/
theorem PaymentsKept.unmentioned (kept : PaymentsKept world) {earlier : List Entry}
    (absent : (world.cell .payments key).committed = none) (grown : earlier <:+ world.trace) :
    Unmentioned key earlier := by
  intro other record row recorded listed
  rcases kept.installed other record key row (grown.subset recorded) listed with ⟨later, found, _⟩
  rw [absent] at found
  cases found

theorem PaymentsKept.fresh_or_final (kept : PaymentsKept world)
    (found : (world.cell .payments key).committed = some row) : Fresh row ∨ Final row := by
  cases kept.shaped key row found with
  | pending fresh untried => exact .inl fresh
  | ended final tried => exact .inr final

/-- The row a run without any payment selects is the committed one. -/
theorem selected_payment {name : TableName} {query : Query name} {found : Row name} {id : UUID}
    (keyed : World.Keyed world) (away : Away name run world)
    (named : forall row, query.condition row = true -> row.id = id) :
    found ∈ ((world.tables name).select run query.condition).insertionSort
        (fun left right => query.before left right) <->
      (world.cell name id).committed = some found ∧ query.condition found = true := by
  rw [List.mem_insertionSort, Table.mem_select]
  constructor
  · rintro ⟨other, visible, selected⟩
    have committed : (world.cell name other).committed = some found :=
      (Cell.visible_of_not_heldBy (away other)).symm.trans visible
    have same : found.id = other := keyed name other found (.committed committed)
    rw [named found selected] at same
    subst same
    exact ⟨committed, selected⟩
  · rintro ⟨committed, selected⟩
    exact ⟨id, (Cell.visible_of_not_heldBy (away id)).trans committed, selected⟩

theorem get_triple {earlier : List Entry} :
    (payment_discipline deployment).Triple (starting run earlier) (SqlAlchemyPaymentRepository.get key)
      (fun payment => loading_run run key earlier payment) (raising run) := by
  have selected : (payment_discipline deployment).Triple (starting run earlier)
      (await (.select .payments (.payment_by_id key)))
      (fun (rows : List PaymentModel) => seen_run run key earlier rows.head?) (raising run) := by
    refine operation_triple (fun world _ _ => ?_) (fun world after rows kept known executed => ?_)
    · exact (plain_of_ne (by simp) (by simp) (by simp) (by simp) (by simp) (by simp) (by simp)
        (by simp)).plain.permits (by simp) (by simp)
    · cases executed with
      | selected name query accepting =>
          have named : forall row : PaymentModel, (Query.payment_by_id key).condition row = true ->
              @Row.id .payments row = key := fun row matched => of_decide_eq_true matched
          have listed := fun found => @selected_payment world run .payments (.payment_by_id key) found key
            kept.keyed (known.1.clear _) named
          cases rows : ((world.tables .payments).select run (Query.payment_by_id key).condition).insertionSort
              (fun left right => (Query.payment_by_id key).before left right) with
          | nil =>
              refine .missing (kept.unmentioned ?_ known.2) known.1
              cases found : (world.cell .payments key).committed with
              | none => rfl
              | some row =>
                  have own : row.id = key := kept.keyed .payments key row (.committed found)
                  have member := (listed row).mpr ⟨found, decide_eq_true own⟩
                  rw [rows] at member
                  cases member
          | cons row rest =>
              have member : row ∈ ((world.tables .payments).select run
                  (Query.payment_by_id key).condition).insertionSort
                  (fun left right => (Query.payment_by_id key).before left right) := by
                rw [rows]
                exact List.mem_cons_self
              rcases (listed row).mp member with ⟨found, matched⟩
              exact .found row (named row matched) (kept.fresh_or_final found) ⟨known.1, row, found, .same rfl⟩
  refine Discipline.Triple.bind selected (fun rows => ?_)
  cases first : rows.head? with
  | none => exact Discipline.Triple.ret (fun world _ known => ⟨none, known, .none⟩)
  | some row =>
      refine Discipline.Triple.ofExcept_bind (fun _ _ failed _ _ => tame_of_values (values_load failed)) (fun payment load => ?_)
      exact Discipline.Triple.ret (fun world _ known => ⟨some row, known, .some row payment load⟩)

theorem body_triple {earlier : List Entry} (command : ProcessPaymentCommand) :
    (payment_discipline deployment).Triple (starting run earlier) (ProcessPaymentHandler.body command)
      (fun value => prepared run command.payment_id earlier value.outcome) (raising run) := by
  refine Discipline.Triple.bind get_triple (fun payment state kept known => ?_)
  rcases known with ⟨row, seen, loads⟩
  cases loads with
  | none =>
      cases seen with
      | missing unmentioned spotless => exact .missing unmentioned spotless.clear spotless.unused
  | some row payment load =>
      cases seen with
      | found row own shape loaded =>
          have status : payment.status = row.status := (loaded_from load).status
          rcases shape with fresh | final
          · have pending : payment.status = .PENDING := status.trans fresh.status
            simp only [pending, PaymentStatus.terminal, Bool.false_eq_true, if_false, ne_eq, not_true]
            exact claim_payment_triple command fresh load own state kept loaded
          · have terminal : payment.status.terminal = true := by
              rw [status]
              exact final.terminal
            simp only [terminal, if_true]
            rcases loaded.found with ⟨later, found, grows⟩
            have same := grows.of_final final
            subst same
            exact .lost _ later (.inl rfl) found final loaded.spotless.clear loaded.spotless.unused

/-! ## The transaction of the handler -/

/-- What has become of the payment when the handler returns. -/
inductive Concluded (run : RunId) (key : UUID) (earlier : List Entry) (world : World) :
    PaymentProcessingOutcome -> Prop where
  | settled (row : PaymentModel) (result : GatewayResult)
      (found : (world.cell .payments key).committed = some row) (final : Final row)
      (status : row.status = verdict result) (clear : Clear run world)
      (answered : Answered key result (world.own run))
      (record : Record) (recorded : .committed record ∈ world.own run) (installed : (key, some row) ∈ record .payments) :
      Concluded run key earlier world (reported result)
  | lost (outcome : PaymentProcessingOutcome) (row : PaymentModel)
      (named : outcome = .ALREADY_TERMINAL ∨ outcome = .CLAIM_CONFLICT)
      (found : (world.cell .payments key).committed = some row) (final : Final row)
      (clear : Clear run world) (unused : Unused (world.own run)) : Concluded run key earlier world outcome
  | missing (unmentioned : Unmentioned key earlier) (clear : Clear run world)
      (unused : Unused (world.own run)) : Concluded run key earlier world .NOT_FOUND

theorem Concluded.clear {earlier : List Entry} {outcome : PaymentProcessingOutcome}
    (concluded : Concluded run key earlier world outcome) : Clear run world := by
  cases concluded with
  | settled row result found final status clear => exact clear
  | lost outcome row named found final clear => exact clear
  | missing unmentioned clear => exact clear

theorem Concluded.stable {earlier : List Entry} {outcome : PaymentProcessingOutcome}
    (concluded : Concluded run key earlier world outcome) (untouched : World.Untouched run world after)
    (evolves : PaymentsEvolve world after) : Concluded run key earlier after outcome := by
  cases concluded with
  | settled row result found final status clear answered record recorded installed =>
      rcases evolves.grows key row found with ⟨later, found', grows⟩
      have same := grows.of_final final
      subst same
      exact .settled later result found' final status (clear.stable untouched) (untouched.own ▸ answered) record
        (untouched.own ▸ recorded) installed
  | lost outcome row named found final clear unused =>
      rcases evolves.grows key row found with ⟨later, found', grows⟩
      have same := grows.of_final final
      subst same
      exact .lost outcome later named found' final (clear.stable untouched) (untouched.own ▸ unused)
  | missing unmentioned clear unused =>
      exact .missing unmentioned (clear.stable untouched) (untouched.own ▸ unused)

def concluded (run : RunId) (key : UUID) (earlier : List Entry) (outcome : PaymentProcessingOutcome) :
    (payment_discipline deployment).Assertion run :=
  knowing run (fun world => Concluded run key earlier world outcome)
    (fun _ _ untouched evolves known => known.stable untouched evolves)

theorem Prepared.installs {earlier : List Entry} {outcome : PaymentProcessingOutcome}
    (prepared : Prepared run key earlier world outcome) : world.refusing run = true ∨ Installs run world := by
  cases prepared with
  | settled row result time attempt delivery ends working answered =>
      rcases working.attempts with refusing | ⟨attempts, untried⟩
      · exact .inl refusing
      · rcases working.deliveries with refusing | ⟨deliveries, undelivered⟩
        · exact .inl refusing
        · rcases answered.1 with ⟨amount, text, called⟩
          exact .inr (.settling key row time attempt delivery amount text result working.payments working.found
            working.fresh untried undelivered attempts ends.attempted deliveries ends.delivered called answered.2
            ends.aggregated)
  | lost outcome row named found final clear =>
      exact .inr (.plain clear.apart.plain.attempts clear.apart.plain.payments clear.apart.plain.deliveries)
  | missing unmentioned clear =>
      exact .inr (.plain clear.apart.plain.attempts clear.apart.plain.payments clear.apart.plain.deliveries)

/-- The commit of a run that holds nothing installs nothing. -/
theorem unused_commit (clear : Clear run world) (unused : Unused (world.own run)) :
    Unused ((world.commit run).own run) := by
  have own : (world.commit run).own run = .committed (world.record run) :: world.own run := World.own_note_self _
  rw [own]
  refine ⟨⟨fun id amount text listed => ?_, fun id result listed => ?_, fun listed => ?_⟩, fun record listed name => ?_⟩
  · rcases List.mem_cons.mp listed with impossible | before
    · cases impossible
    · exact unused.uncharged.uncalled id amount text before
  · rcases List.mem_cons.mp listed with impossible | before
    · cases impossible
    · exact unused.uncharged.unanswered id result before
  · rcases List.mem_cons.mp listed with impossible | before
    · cases impossible
    · exact unused.uncharged.unfinished before
  · rcases List.mem_cons.mp listed with same | before
    · cases same
      refine List.eq_nil_iff_forall_not_mem.mpr (fun entry member => ?_)
      rcases entry with ⟨id, draft⟩
      exact clear name id ⟨draft, World.mem_record.mp member⟩
    · exact unused.unchanged record before name

theorem Prepared.commit {earlier : List Entry} {outcome : PaymentProcessingOutcome}
    (prepared : Prepared run key earlier world outcome) : Concluded run key earlier (world.commit run) outcome := by
  have kept_of : forall row, Clear run world -> (world.cell .payments key).committed = some row ->
      ((world.commit run).cell .payments key).committed = some row := by
    intro row clear found
    rw [World.cell_commit, Cell.commit_of_not_heldBy (clear _ key)]
    exact found
  cases prepared with
  | settled row result time attempt delivery ends working answered =>
      have locked := (working.payments key (some (finished row (verdict result) time))).mpr ⟨rfl, rfl⟩
      have own : (world.commit run).own run = .committed (world.record run) :: world.own run := World.own_note_self _
      refine .settled (finished row (verdict result) time) result ?_ (final_finished (verdict_terminal result) time)
        rfl (clear_commit run world) ?_ (world.record run) ?_ (World.mem_record.mpr locked)
      · rw [World.cell_commit, Cell.commit_of_lock locked]
      · rw [own]
        rcases answered with ⟨⟨amount, text, called⟩, answer⟩
        exact ⟨⟨amount, text, List.mem_cons_of_mem _ called⟩, List.mem_cons_of_mem _ answer⟩
      · rw [own]
        exact List.mem_cons_self
  | lost outcome row named found final clear unused =>
      exact .lost outcome row named (kept_of row clear found) final (clear_commit run world) (unused_commit clear unused)
  | missing unmentioned clear unused =>
      exact .missing unmentioned (clear_commit run world) (unused_commit clear unused)

theorem Concluded.released {earlier : List Entry} {outcome : PaymentProcessingOutcome}
    (concluded : Concluded run key earlier world outcome) :
    Concluded run key earlier (world.release run) outcome := by
  have kept_of : forall row, (world.cell .payments key).committed = some row ->
      ((world.release run).cell .payments key).committed = some row := by
    intro row found
    rw [World.cell_release, Cell.rollback_committed]
    exact found
  cases concluded with
  | settled row result found final status clear answered record recorded installed =>
      exact .settled row result (kept_of row found) final status (clear_release run world) answered record recorded
        installed
  | lost outcome row named found final clear unused =>
      exact .lost outcome row named (kept_of row found) final (clear_release run world) unused
  | missing unmentioned clear unused => exact .missing unmentioned (clear_release run world) unused

/-- The handler has raised, and its transaction was rolled back. -/
def failing (run : RunId) (raised : Error) : (payment_discipline deployment).Assertion run :=
  (clear run).both (raising run raised)

theorem process_triple {earlier : List Entry} (command : ProcessPaymentCommand) :
    (payment_discipline deployment).Triple (starting run earlier) (ProcessPaymentHandler.handle command)
      (fun value => concluded run command.payment_id earlier value.outcome) (failing run) := by
  have commit : forall value : PaymentProcessingResult, (payment_discipline deployment).Triple
      (prepared run command.payment_id earlier value.outcome) (await .commit)
      (fun _ => concluded run command.payment_id earlier value.outcome) (raising run) := by
    intro value
    refine operation_triple (fun world _ known => ?_) (fun world after _ _ known executed => ?_)
    · refine ⟨by simp, by simp, by simp, by simp, by simp, by simp, fun _ => known.installs, by simp, by simp,
        by simp, by simp⟩
    · cases executed with
      | committed answer known' accepting => exact Prepared.commit known
  have rollback : forall raised, (payment_discipline deployment).Triple (raising run raised) (await .rollback)
      (fun _ => failing run raised) (failing run) := by
    intro raised
    exact rollback_triple (fun world _ known => ⟨clear_rollback run world, known⟩)
      (fun raised' world known holds => ⟨holds.1, tame_external known⟩)
  have close : forall raised, (payment_discipline deployment).Triple (failing run raised) (await .close)
      (fun _ => failing run raised) (failing run) := by
    intro raised
    exact end_triple (fun world known => known.1 .payments)
      (fun world _ known => ⟨clear_release run world, known.2⟩)
      (fun raised' world known holds => ⟨holds.1, tame_external known⟩)
  have finish : forall value : PaymentProcessingResult, (payment_discipline deployment).Triple
      (concluded run command.payment_id earlier value.outcome) (await .close)
      (fun _ => concluded run command.payment_id earlier value.outcome) (failing run) := by
    intro value
    exact end_triple (fun world known => known.clear .payments) (fun world _ known => known.released)
      (fun raised' world known holds => ⟨holds.clear, tame_external known⟩)
  exact transactional_triple (body_triple command) commit rollback close finish

end Properties
end Payments

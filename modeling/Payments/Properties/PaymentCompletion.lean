import Payments.Properties.ApiAnswers
import Payments.Properties.LoneProcessing
import Payments.Properties.PaymentCorrelations

namespace Payments
namespace Properties

open Concurrency Domain Infrastructure Application Prog UnitOfWork Payments.System

/-!
# Messages that wait lead their payments to an end

A message in the main queue names a payment.  If the payment is pending, the
run that holds its row, if there is one, can let go of it, and a consumer that
is then handed the message ends the payment with the answer of the gateway and
acknowledges the message.
-/

variable {deployment : Deployment} {world after : World} {run : RunId} {key : UUID} {row : PaymentModel}
  {message : Message} {X : Type}

/-- A consumer that has got a message of a pending payment whose row nobody holds. -/
structure Poised (run : RunId) (key : UUID) (row : PaymentModel) (message : Message) (world : World) : Prop where
  keyed : World.Keyed world
  accepting : world.refusing run = false
  unacked : world.broker.unacked run = some message
  clear : Clear run world
  found : (world.cell .payments key).committed = some row
  free : (world.cell .payments key).lock = none
  fresh : Fresh row
  untried : Untried key world

theorem Poised.own (poised : Poised run key row message world) : row.id = key :=
  poised.keyed .payments key row (.committed poised.found)

theorem Poised.visible (poised : Poised run key row message world) :
    (world.cell .payments key).visible run = some row :=
  (Cell.visible_of_not_heldBy (poised.clear .payments key)).trans poised.found

theorem Poised.now (poised : Poised run key row message world) :
    Led deployment run (fun _ => Poised run key row message) (await .now) world := by
  have executed : World.exec run .now (.calm 0 0) world = some (world.note (.run run) (.clock_read 0), .ok 0) := rfl
  exact led_perform executed rfl ⟨poised.keyed, poised.accepting, poised.unacked, poised.clear, poised.found,
    poised.free, poised.fresh, poised.untried.attempts, poised.untried.deliveries⟩

/-- The statement of the claim finds the pending row. -/
theorem Poised.begins (poised : Poised run key row message world) {rows : List PaymentModel}
    (executed : World.Executed run world
      (.update .payments (.payment_transition key 0 .PENDING .PROCESSING none)) after (.ok rows)) :
    (rows.length == 1) = true ∧ Lone run key row (working row) none none message after ∧ Untried key after := by
  have selected : (Update.payment_transition key 0 .PENDING .PROCESSING none).condition row = true :=
    transition_condition.mpr ⟨poised.own, poised.fresh.status, poised.fresh.version⟩
  have accepting := accepting_updated executed
  cases executed.updated_at poised.keyed transition_named with
  | missed unmatched =>
      have impossible := unmatched _ poised.visible
      rw [selected] at impossible
      cases impossible
  | matched found time seen selected' free single written others =>
      cases poised.visible.symm.trans seen
      rw [begun poised.fresh] at written
      have elsewhere : forall name id, name ≠ .payments -> after.cell name id = world.cell name id :=
        fun name id different => others name id (fun same => absurd same different)
      refine ⟨by rw [single]; rfl, ⟨⟨?_, ?_, poised.fresh, ?_, ?_⟩, poised.keyed.executed executed, accepting.2, ?_⟩,
        ?_, ?_⟩
      · exact holds_written (fun id _ => poised.clear .payments id) written
          (fun id different => others _ id (fun _ => different))
      · rw [written]
        exact poised.found
      · exact fun id held => poised.clear _ id (elsewhere .payment_attempts id (by simp) ▸ held)
      · exact fun id held => poised.clear _ id (elsewhere .webhook_deliveries id (by simp) ▸ held)
      · exact (executed.broker rfl).symm ▸ poised.unacked
      · intro id attempt found
        rw [elsewhere _ id (by simp)] at found
        exact poised.untried.attempts id attempt found
      · intro id delivery found
        rw [elsewhere _ id (by simp)] at found
        exact poised.untried.deliveries id delivery found

theorem Poised.begin_processing (poised : Poised run key row message world) (storable : row.storable = true) :
    Led deployment run (fun claimed after => claimed = true ∧ Lone run key row (working row) none none message after ∧
        Untried key after) (SqlAlchemyPaymentRepository.begin_processing key 0 .PENDING) world := by
  have free : (world.cell .payments key).heldByOther run = false := by
    rw [Cell.heldByOther, poised.free]
  have stored : Row.storable ((Update.payment_transition key 0 .PENDING .PROCESSING none).values 0 row) = true := storable
  rcases single_performs poised.keyed poised.accepting transition_named poised.visible free stored with
    ⟨after, rows, executed⟩
  have updated : Led deployment run (fun (rows : List PaymentModel) after => (rows.length == 1) = true ∧
      Lone run key row (working row) none none message after ∧ Untried key after)
      (await (.update .payments (.payment_transition key 0 .PENDING .PROCESSING none))) world :=
    led_perform executed rfl (poised.begins (World.exec_executed executed))
  exact Machine.Alone.bind updated (fun _ _ known => Machine.Alone.ret known)

/-! ## From the first look to the acknowledgement -/

/-- What a consumer of the message has achieved. -/
def Achieved (run : RunId) (key : UUID) (row : PaymentModel) (result : GatewayResult) (unacked : Option Message)
    (world : World) : Prop :=
  (Exists fun time => (world.cell .payments key).committed = some (finished row (verdict result) time)) ∧
    world.broker.unacked run = unacked

section

variable {loaded : Payment} {result : GatewayResult} {command : ProcessPaymentCommand}

theorem Poised.get (poised : Poised run key row message world) (load : row.to_domain = .ok loaded) :
    Led deployment run (fun found after => found = some loaded ∧ Poised run key row message after)
      (SqlAlchemyPaymentRepository.get key) world := by
  have named : forall row : PaymentModel, (Query.payment_by_id key).condition row = true -> @Row.id .payments row = key :=
    fun row matched => of_decide_eq_true matched
  have listed := fun found => @selected_payment world run .payments (.payment_by_id key) found key poised.keyed
    (poised.clear _) named
  have member := (listed row).mpr ⟨poised.found, decide_eq_true poised.own⟩
  have selected : Led deployment run (fun (rows : List PaymentModel) after => rows.head? = some row ∧
      Poised run key row message after) (await (.select .payments (.payment_by_id key))) world := by
    refine led_perform (select_performs _ poised.accepting) rfl ⟨?_, poised⟩
    cases rows : ((world.tables .payments).select run (Query.payment_by_id key).condition).insertionSort
        (fun left right => (Query.payment_by_id key).before left right) with
    | nil =>
        rw [rows] at member
        cases member
    | cons first rest =>
        have head := (listed first).mp (rows ▸ List.mem_cons_self)
        cases poised.found.symm.trans head.1
        rfl
  refine Machine.Alone.bind selected (fun rows after known => ?_)
  rw [known.1]
  exact Machine.Alone.ofExcept load (Machine.Alone.ret ⟨rfl, known.2⟩)

/-- The run claims the payment, charges it, and has its end as a draft. -/
theorem Poised.claim (poised : Poised run key row message world) (load : row.to_domain = .ok loaded)
    (storable : row.storable = true) (answerable : answer_storable result = true)
    (correlated : optional_varchar_storable 64 command.correlation_id = true) :
    Led deployment run (fun _ after => Exists fun time => Exists fun attempt => Exists fun delivery =>
        Lone run key row (finished row (verdict result) time) attempt delivery message after)
      (ProcessPaymentHandler.claim command loaded) world := by
  have loads := loaded_from load
  refine Machine.Alone.bind poised.now (fun started_at middle poised => ?_)
  have status : loaded.status = .PENDING := loads.status.trans poised.fresh.status
  have marks : Exists fun processing => loaded.mark_processing started_at = .ok processing :=
    ⟨_, mark_processing_ok status⟩
  rcases marks with ⟨processing, mark⟩
  refine Machine.Alone.ofExcept mark ?_
  have marked := marked_processing mark
  rw [marked.id, loads.id, poised.own, loads.version, poised.fresh.version, status]
  refine Machine.Alone.bind (poised.begin_processing storable) ?_
  rintro claimed begun ⟨rfl, lone, untried⟩
  rw [if_neg (by decide)]
  exact lone.charges untried poised.own storable load mark answerable correlated

theorem Poised.body (poised : Poised run command.payment_id row message world) (load : row.to_domain = .ok loaded)
    (storable : row.storable = true) (answerable : answer_storable result = true)
    (correlated : optional_varchar_storable 64 command.correlation_id = true) :
    Led deployment run (fun _ after => Exists fun time => Exists fun attempt => Exists fun delivery =>
        Lone run command.payment_id row (finished row (verdict result) time) attempt delivery message after)
      (ProcessPaymentHandler.body command) world := by
  refine Machine.Alone.bind (poised.get load) ?_
  rintro found after ⟨rfl, poised⟩
  have pending : loaded.status = .PENDING := (loaded_from load).status.trans poised.fresh.status
  simp only [pending, PaymentStatus.terminal, Bool.false_eq_true, if_false, ne_eq, not_true]
  exact poised.claim load storable answerable correlated

/-- Closing a session leaves what is committed. -/
theorem Achieved.close {unacked : Option Message} (achieved : Achieved run key row result unacked world) :
    Led deployment run (fun _ => Achieved run key row result unacked) (await .close) world := by
  have executed : World.exec run .close (.calm 0 0) world = some (world.release run, .ok ()) := rfl
  rcases achieved with ⟨⟨time, found⟩, unanswered⟩
  refine led_perform executed rfl ⟨⟨time, ?_⟩, unanswered⟩
  rw [World.cell_release, Cell.rollback_committed, found]

theorem Poised.handle (poised : Poised run command.payment_id row message world) (load : row.to_domain = .ok loaded)
    (storable : row.storable = true) (answerable : answer_storable result = true)
    (correlated : optional_varchar_storable 64 command.correlation_id = true) :
    Led deployment run (fun _ => Achieved run command.payment_id row result (some message))
      (ProcessPaymentHandler.handle command) world := by
  have committed : Led deployment run (fun _ => Achieved run command.payment_id row result (some message)) (do
      let outcome ← ProcessPaymentHandler.body command
      if true then
        await .commit
      return outcome) world := by
    refine Machine.Alone.bind (poised.body load storable answerable correlated) ?_
    rintro outcome drafted ⟨time, attempt, delivery, lone⟩
    refine Machine.Alone.bind lone.commit (fun _ ended known => Machine.Alone.ret ?_)
    exact ⟨⟨time, known.1⟩, known.2⟩
  exact Machine.Alone.tryFinally (Machine.Alone.tryCatch committed) (fun _ _ achieved => Achieved.close achieved)

/-- The consumer ends the payment of its message and acknowledges it. -/
theorem Poised.consume {settings : Settings} {correlation_id : Option String}
    (poised : Poised run key row message world) (load : row.to_domain = .ok loaded)
    (storable : row.storable = true) (answerable : answer_storable result = true)
    (correlated : optional_varchar_storable 64 correlation_id = true)
    (names : message.body = .object (some PaymentConsumerHandler.PAYMENT_CREATED) (.uuid key) correlation_id)
    (left : PaymentConsumerHandler.rejected_count message.x_death < settings.RABBITMQ_MAX_RETRIES) :
    Led deployment run (fun _ => Achieved run key row result none) (PaymentConsumerHandler.handle settings message)
      world := by
  have processed : Led deployment run (fun _ => Achieved run key row result (some message))
      (PaymentConsumerHandler.route settings message) world := by
    unfold PaymentConsumerHandler.route
    rw [names]
    simp only [ne_eq, not_true, if_false, not_le.mpr left]
    have poised : Poised run (ProcessPaymentCommand.mk key correlation_id).payment_id row message world := poised
    exact Machine.Alone.bind (poised.handle load storable answerable correlated)
      (fun _ _ achieved => Machine.Alone.ret achieved)
  have routed : Led deployment run (fun ended after => ended = true ∧ Achieved run key row result (some message) after)
      (do PaymentConsumerHandler.route settings message; return true : Program Bool) world :=
    Machine.Alone.bind processed (fun _ _ achieved => Machine.Alone.ret ⟨rfl, achieved⟩)
  refine Machine.Alone.bind (Machine.Alone.tryCatch routed) ?_
  rintro ended answered ⟨rfl, ⟨time, found⟩, unacked⟩
  have executed : World.exec run .ack (.calm 0 0) answered = some (World.acknowledge run message answered, .ok ()) := by
    simp only [World.exec, World.exec_answer, unacked]
    rfl
  exact led_perform executed rfl ⟨⟨time, found⟩, Function.update_self _ _ _⟩

end

/-! ## Letting go of the payment -/

/-- Only the environment puts messages into the main queue, and only a start takes them out. -/
theorem main_executed {op : Op} {answer : Except Error op.Answer} (executed : World.Executed run world op after answer) :
    after.broker.main = world.broker.main := by
  cases executed <;> rfl

theorem driven_main {runs : RunId -> Prop} {calm : Choice -> Prop} {state last : (service deployment).State}
    (driven : Machine.Driven runs calm state last) : last.shared.broker.main = state.shared.broker.main :=
  @Machine.Driven.kept _ (service deployment) _ runs calm state last
    (fun world => world.broker.main = state.shared.broker.main) driven
    (fun _ _ _ _ _ _ _ ran same => (main_executed (service_executed ran)).trans same) rfl

/-- The other runs hold nothing new. -/
theorem driven_held {name : TableName} {other : RunId} {calm : Choice -> Prop} {state last : (service deployment).State}
    (driven : Machine.Driven (fun moved => moved = run) calm state last) (different : other ≠ run)
    (held : (last.shared.cell name key).HeldBy other) : (state.shared.cell name key).HeldBy other := by
  refine @Machine.Driven.kept _ (service deployment) _ (fun moved => moved = run) calm state last
    (fun world => (world.cell name key).HeldBy other -> (state.shared.cell name key).HeldBy other) driven
    (fun moved op choice before after answer same ran earlier held => ?_) (fun same => same) held
  subst same
  rcases held with ⟨draft, locked⟩
  exact earlier ⟨draft, (lock_iff ((service_executed ran).untouched different)).mp locked⟩

/-- The run that holds a payment can let go of it, and then nobody holds it. -/
theorem payment_released {state : (service deployment).State}
    (reached : Machine.Reachable (fun _ _ => True) World.initial state) (key : UUID) :
    Exists fun last => Machine.Driven (fun run => (state.shared.cell .payments key).HeldBy run)
        (fun choice : Choice => choice.interruption = none) state last ∧
      (last.shared.cell .payments key).lock = none := by
  cases locked : (state.shared.cell .payments key).lock with
  | none => exact ⟨state, .refl, locked⟩
  | some lock =>
      rcases lock with ⟨holder, draft⟩
      have held : (state.shared.cell .payments key).HeldBy holder := ⟨draft, locked⟩
      rcases payment_holder reached held with ⟨job, rest, running, concerns⟩
      rcases (requests_orderly deployment).releases reached running concerns with ⟨last, driven, free, _⟩
      refine ⟨last, driven.mono (fun run same => same ▸ held), ?_⟩
      cases locked' : (last.shared.cell .payments key).lock with
      | none => rfl
      | some lock =>
          exfalso
          rcases lock with ⟨other, draft'⟩
          have held' : (last.shared.cell .payments key).HeldBy other := ⟨draft', locked'⟩
          by_cases same : other = holder
          · subst same
            exact free (fun clear => clear .payments key held')
          · rcases driven_held driven same held' with ⟨draft'', locked''⟩
            cases locked.symm.trans locked''
            exact same rfl

/-! ## A message that waits -/

/-- Everything that the completion uses of a payment on record. -/
theorem committed_payment {state : (service deployment).State}
    (reached : Machine.Reachable (fun _ _ => True) World.initial state)
    (found : (state.shared.cell .payments key).committed = some row) :
    row.storable = true ∧ Exists fun loaded => row.to_domain = .ok loaded := by
  rcases Machine.Path.runFrom reached with ⟨actions, executed⟩
  rcases created_by executed found with ⟨_, command, _, requested⟩
  refine ⟨?_, requested.loads⟩
  rcases requested with ⟨_, _, _, first, _, _, storable, same⟩
  rcases row with ⟨_, _, _, _, _, _, _, _, _, _, _, _⟩
  rcases first with ⟨_, _, _, _, _, _, _, _, _, _, _, _⟩
  cases same
  exact storable

theorem correlation_storable (storable : row.storable = true) :
    optional_varchar_storable 64 row.correlation_id = true := by
  unfold PaymentModel.storable at storable
  exact (Bool.and_eq_true_iff.mp storable).2

/-- A message of the main queue names a committed payment with its correlation. -/
theorem queued_payment {state : (service deployment).State}
    (reached : Machine.Reachable (fun _ _ => True) World.initial state) (queued : message ∈ state.shared.broker.main) :
    exists key row, (state.shared.cell .payments key).committed = some row ∧
      message.body = .object (some PaymentConsumerHandler.PAYMENT_CREATED) (.uuid key) row.correlation_id := by
  have published := (progress_along reached).messages.held message (.flying (.main queued))
  have kept := (creation_verified deployment).invariant (creation_reachable reached)
  rcases published with ⟨sent, posted, copy⟩
  rcases kept.concerned posted copy with ⟨correlation_id, body⟩
  rcases kept.correlated ⟨sent, posted, copy⟩ body with ⟨row, found, told⟩
  exact ⟨_, row, found, told ▸ body⟩

/-- A new consumer that is handed the message ends the payment as the gateway
answers, by operations of its own, and acknowledges the message. -/
def Completes (settings : Settings) (message : Message) (result : GatewayResult) (key : UUID) (row : PaymentModel)
    (state : (service deployment).State) : Prop :=
  exists consumer started last time, Machine.step state (.start consumer (.consume settings message)) = some started ∧
    Machine.Driven (fun run => run = consumer) (fun choice : Choice => choice.interruption = none) started last ∧
    last.phase consumer = .running (.consume settings message) (.ret ()) ∧
    (last.shared.cell .payments key).committed = some (finished row (verdict result) time) ∧
    last.shared.broker.unacked consumer = none

theorem handed_consumer {state : (service deployment).State} {settings : Settings} {result : GatewayResult}
    (reached : Machine.Reachable (fun _ _ => True) World.initial state) (queued : message ∈ state.shared.broker.main)
    (found : (state.shared.cell .payments key).committed = some row) (pending : row.status = .PENDING)
    (free : (state.shared.cell .payments key).lock = none)
    (names : message.body = .object (some PaymentConsumerHandler.PAYMENT_CREATED) (.uuid key) row.correlation_id)
    (left : PaymentConsumerHandler.rejected_count message.x_death < settings.RABBITMQ_MAX_RETRIES)
    (answerable : answer_storable result = true) : Completes settings message result key row state := by
  rcases @Machine.exists_absent _ (service deployment) _ (inferInstanceAs (Infinite Nat)) _ _ reached with
    ⟨consumer, absent⟩
  have kept := (payment_verified deployment).invariant reached
  have silent := ((payment_verified deployment).sound reached).absent consumer absent
  rcases committed_payment reached found with ⟨storable, loaded, load⟩
  have taken : Machine.step state (.start consumer (.consume settings message)) =
      some ⟨deliver consumer message state.shared, state.setPhase consumer (.running (.consume settings message)
        (PaymentConsumerHandler.handle settings message))⟩ := by
    simp only [Machine.step, absent, start, if_pos queued]
    rfl
  have poised : Poised consumer key row message (deliver consumer message state.shared) := by
    cases kept.shaped key row found with
    | pending fresh untried =>
        exact ⟨kept.keyed, absent_accepting reached absent, Function.update_self _ _ _, silent.1, found, free, fresh,
          untried.attempts, untried.deliveries⟩
    | ended final =>
        have terminal := final.terminal
        rw [pending] at terminal
        cases terminal
  have alone : Led deployment consumer (fun _ => Achieved consumer key row result none)
      (PaymentConsumerHandler.handle settings message) (deliver consumer message state.shared) :=
    poised.consume load storable answerable (correlation_storable storable) names left
  have started : (Machine.State.mk (deliver consumer message state.shared) (state.setPhase consumer
      (.running (.consume settings message) (PaymentConsumerHandler.handle settings message)))).phase consumer =
        .running (Job.consume settings message) (PaymentConsumerHandler.handle settings message) :=
    Machine.State.setPhase_self state consumer _
  rcases Machine.Alone.drives started alone with
    ⟨last, value, driven, ended, ⟨time, known⟩, unacked⟩
  exact ⟨consumer, _, last, time, taken, driven, ended, known, unacked⟩

/-- A waiting message is that of a committed payment.  While it is pending, the
run that holds its row can let go of it, and either this run has ended the
payment, or a consumer that is handed the message completes it. -/
theorem queued_payments_end {state : (service deployment).State}
    (reached : Machine.Reachable (fun _ _ => True) World.initial state) (queued : message ∈ state.shared.broker.main) :
    exists key row, (state.shared.cell .payments key).committed = some row ∧
      message.body = .object (some PaymentConsumerHandler.PAYMENT_CREATED) (.uuid key) row.correlation_id ∧
      (row.status.terminal = true ∨ forall (settings : Settings) (result : GatewayResult),
        PaymentConsumerHandler.rejected_count message.x_death < settings.RABBITMQ_MAX_RETRIES ->
        answer_storable result = true ->
        exists waiting later, Machine.Driven (fun run => (state.shared.cell .payments key).HeldBy run)
            (fun choice : Choice => choice.interruption = none) state waiting ∧
          (waiting.shared.cell .payments key).committed = some later ∧
          (later.status.terminal = true ∨ Completes settings message result key row waiting)) := by
  rcases queued_payment reached queued with ⟨key, row, found, names⟩
  refine ⟨key, row, found, names, ?_⟩
  by_cases terminal : row.status.terminal = true
  · exact .inl terminal
  refine .inr (fun settings result left answerable => ?_)
  rcases payment_released reached key with ⟨waiting, driven, free⟩
  have reached' := reached.trans driven.path
  rcases ((payment_verified deployment).evolves reached driven.path).grows key row found with ⟨later, found', grows⟩
  refine ⟨waiting, later, driven, found', ?_⟩
  cases grows with
  | ended _ final _ => exact .inl final.terminal
  | same unchanged =>
      subst unchanged
      have pending : later.status = .PENDING := by
        rcases ((payment_verified deployment).invariant reached).fresh_or_final found with fresh | final
        · exact fresh.status
        · exact absurd final.terminal terminal
      have queued' : message ∈ waiting.shared.broker.main := (driven_main driven).symm ▸ queued
      exact .inr (handed_consumer reached' queued' found' pending free names left answerable)

/-- The message of payment 1 waits while run 2 charges the payment. -/
def charging_while_waiting : List (service sample_deployment).Action :=
  creating ++ [.start 1 (.outbox {} 1), .perform 1 (.calm 10 0), .perform 1 (.calm 10 0), .perform 1 (.calm 10 0),
    .perform 1 (.calm 10 0), .perform 1 (.calm 10 0), .perform 1 (.calm 10 0), .perform 1 (.calm 10 0),
    .env (.start_publish 1 0), .env (.land_publish 1 0)] ++ charging 2 3

theorem charged_payment_ends : Exists fun state : (service sample_deployment).State =>
    (state.shared.cell .payments 1).HeldBy 2 ∧
      exists row waiting later, (state.shared.cell .payments 1).committed = some row ∧ row.status = .PENDING ∧
        Machine.Driven (fun run => (state.shared.cell .payments 1).HeldBy run)
          (fun choice : Choice => choice.interruption = none) state waiting ∧
        (waiting.shared.cell .payments 1).committed = some later ∧
        (later.status.terminal = true ∨ Completes {} first_message ⟨true, some "ch-1", none, none⟩ 1 row waiting) := by
  have shown : (Machine.runFrom (Machine.fresh World.initial) charging_while_waiting).map (fun state =>
      ((state.shared.cell .payments 1).lock.map Prod.fst, state.shared.broker.main,
        (state.shared.cell .payments 1).committed.map PaymentModel.status)) =
        some (some 2, [first_message], some .PENDING) := by decide +kernel
  rcases Option.map_eq_some_iff.mp shown with ⟨state, ran, known⟩
  rcases Prod.mk.inj known with ⟨locked, known⟩
  rcases Prod.mk.inj known with ⟨main, status⟩
  rcases Option.map_eq_some_iff.mp locked with ⟨⟨holder, draft⟩, locked, same⟩
  have same : holder = 2 := same
  have queued : first_message ∈ state.shared.broker.main := main ▸ List.mem_singleton_self _
  rcases queued_payments_end (Machine.Path.of_runFrom _ ran) queued with ⟨key, row, found, names, ends⟩
  have one : 1 = key := AggregateId.uuid.inj (Body.object.inj names).2.1
  subst one
  rw [found] at status
  have pending : row.status = .PENDING := Option.some.inj status
  have unended : row.status.terminal ≠ true := by
    rw [pending]
    decide
  rcases ends.resolve_left unended {} ⟨true, some "ch-1", none, none⟩ (by decide) (by decide) with
    ⟨waiting, later, driven, found', ended⟩
  exact ⟨state, ⟨draft, same ▸ locked⟩, row, waiting, later, found, pending, driven, found', ended⟩

end Properties
end Payments

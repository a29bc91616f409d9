import Payments.Properties.ProcessingArguments

namespace Payments
namespace Properties

open Concurrency Domain Infrastructure Application Prog UnitOfWork Payments.System

/-!
# What the processing of a payment writes about its attempt

The attempt is added as it begins, with the time the clock of the run has
shown, and it is saved with what the gateway has answered to this run.
-/

variable {deployment : Deployment} {world after : World} {run : RunId} {op : Op} {X : Type}

/-- The values that the answer of the gateway gives to an attempt.  A declined
charge leaves nothing of the response but the error. -/
structure ReflectsAnswer (result : GatewayResult) (status : PaymentAttemptStatus) (error : Option String)
    (gateway_response : Option Json) : Prop where
  status : status = if result.success then .SUCCEEDED else .FAILED
  error : error = if result.success then none else result.error
  gateway_response : gateway_response = if result.success then result.raw else none

/-- An attempt that has just begun. -/
structure AttemptBegun (run : RunId) (row : PaymentAttemptModel) (world : World) : Prop where
  status : row.status = .PROCESSING
  gateway_response : row.gateway_response = none
  shown : .clock_read row.created_at ∈ world.own run

/-- What the statements about attempts are given. -/
structure AttemptArguments (run : RunId) (op : Op) (world : World) : Prop where
  begins : forall row, op = .add .payment_attempts row -> AttemptBegun run row world
  reflects : forall saved, op = .update .payment_attempts (.attempt_progress saved) -> Exists fun key =>
    Exists fun result => .charge_returned key result ∈ world.own run ∧
      ReflectsAnswer result saved.status saved.error saved.gateway_response
  unlocked : forall query limit, op ≠ .select_for_update .payment_attempts query limit
  unclaimed : forall query limit statement, op ≠ .update_claimable .payment_attempts query limit statement

/-- Operations that write or lock attempts. -/
def touches_attempts : Op -> Bool
  | .add .payment_attempts _ => true
  | .update .payment_attempts _ => true
  | .select_for_update .payment_attempts _ _ => true
  | .update_claimable .payment_attempts _ _ _ => true
  | _ => false

def AttemptFree (op : Op) : Prop := touches_attempts op = false

theorem AttemptFree.arguments (free : AttemptFree op) (world : World) : AttemptArguments run op world := by
  refine ⟨?_, ?_, ?_, ?_⟩
  · rintro row rfl
    cases free
  · rintro saved rfl
    cases free
  · rintro query limit rfl
    cases free
  · rintro query limit statement rfl
    cases free

/-- Assertions of the payment discipline about attempts. -/
abbrev Questioned (deployment : Deployment) (run : RunId) :=
  ((payment_discipline deployment).asking AttemptArguments).Assertion run

/-- The run has this event on record. -/
def noted (event : Event) : Questioned deployment run :=
  (knowing run (fun world => event ∈ world.own run)
    (fun _ _ untouched _ known => untouched.own ▸ known) : (payment_discipline deployment).Assertion run).asking

/-- Nothing is known. -/
def unsaid : Questioned deployment run := .fact True

theorem attempt_free_triple {program : Program X} (calls : program.OnlyCalls AttemptFree) :
    ((payment_discipline deployment).asking AttemptArguments).Triple unsaid program (fun _ => unsaid)
      (fun _ => (unsaid : Questioned deployment run)) :=
  Discipline.Triple.unconcerned (fun _ free state => free.arguments state) calls

theorem own_kept {event : Event} {answer : Except Error op.Answer} (executed : World.Executed run world op after answer)
    (listed : event ∈ world.own run) : event ∈ after.own run :=
  own_mem.mpr ((World.trace_executed executed).mem (own_mem.mp listed))

/-- An event on record stays there. -/
theorem noted_triple {event : Event} {program : Program X} (calls : program.OnlyCalls AttemptFree) :
    ((payment_discipline deployment).asking AttemptArguments).Triple (noted event) program (fun _ => noted event)
      (fun _ => (unsaid : Questioned deployment run)) :=
  Discipline.Triple.of_onlyCalls (noted event) (fun _ free state _ _ => free.arguments state)
    (fun _ _ _ _ _ _ _ known ran _ => own_kept (service_executed ran) known)
    (fun _ _ _ known => known) (fun _ _ _ _ => trivial) calls

/-! ## The handler -/

theorem attempt_free_scope (ends : ScopeCalls op) : AttemptFree op := by
  cases ends <;> rfl

theorem attempt_free_perform (free : AttemptFree op) {event : Event} :
    ((payment_discipline deployment).asking AttemptArguments).Triple (noted event) (await op) (fun _ => noted event)
      (fun _ => (unsaid : Questioned deployment run)) :=
  noted_triple (OnlyCalls.perform free)

/-- The clock of the run has shown the time. -/
theorem clock_triple : ((payment_discipline deployment).asking AttemptArguments).Triple unsaid (await .now)
    (fun time => noted (.clock_read time)) (fun _ => (unsaid : Questioned deployment run)) := by
  refine Discipline.Triple.perform (fun world _ _ => AttemptFree.arguments (by rfl) world)
    (fun state _ _ time _ _ ran _ _ => ?_) (fun _ _ _ _ _ _ _ _ _ => trivial)
  cases service_executed ran with
  | now reading =>
      have own : (World.note (.run run) (.clock_read time) state).own run = .clock_read time :: state.own run :=
        World.own_note_self (.clock_read time)
      change .clock_read time ∈ (World.note (.run run) (.clock_read time) state).own run
      rw [own]
      exact List.mem_cons_self

/-- The gateway has answered the run. -/
theorem answered_triple {key : UUID} :
    ((payment_discipline deployment).asking AttemptArguments).Triple unsaid (await (.charge_return key))
      (fun result => noted (.charge_returned key result)) (fun _ => (unsaid : Questioned deployment run)) := by
  refine Discipline.Triple.perform (fun world _ _ => AttemptFree.arguments (by rfl) world)
    (fun state _ _ result _ _ ran _ _ => ?_) (fun _ _ _ _ _ _ _ _ _ => trivial)
  cases service_executed ran with
  | charge_returned id result =>
      have own : (World.note (.run run) (.charge_returned key result) state).own run =
          .charge_returned key result :: state.own run := World.own_note_self _
      change .charge_returned key result ∈ (World.note (.run run) (.charge_returned key result) state).own run
      rw [own]
      exact List.mem_cons_self

/-- What the aggregate makes of the answer. -/
theorem succeed_reflects {payment ended : Payment} {attempt saved : PaymentAttempt} {result : GatewayResult}
    {time : Datetime} (success : result.success = true) (last : payment.attempts.getLast? = some attempt)
    (done : payment.succeed_attempt time result = .ok (ended, saved)) :
    ReflectsAnswer result saved.status saved.error saved.gateway_response := by
  rcases bind_ok done with ⟨_, _, found⟩
  rcases bind_ok found with ⟨current, present, ending⟩
  rcases bind_ok ending with ⟨result', succeeded, same⟩
  rcases bind_ok succeeded with ⟨moved, transition, same'⟩
  rw [of_attempt_transition transition, current_of_last last present] at same'
  cases same'
  cases same
  exact ⟨by rw [success]; rfl, by rw [success]; rfl, by rw [success]; rfl⟩

theorem fail_reflects {payment ended : Payment} {attempt saved : PaymentAttempt} {result : GatewayResult}
    {time : Datetime} (declined : result.success = false) (last : payment.attempts.getLast? = some attempt)
    (empty : attempt.gateway_response = none)
    (done : payment.fail_attempt time result.error = .ok (ended, saved)) :
    ReflectsAnswer result saved.status saved.error saved.gateway_response := by
  rcases bind_ok done with ⟨_, _, found⟩
  rcases bind_ok found with ⟨current, present, ending⟩
  rcases bind_ok ending with ⟨result', failed, same⟩
  rcases bind_ok failed with ⟨moved, transition, same'⟩
  rw [of_attempt_transition transition, current_of_last last present] at same'
  cases same'
  cases same
  exact ⟨by rw [declined]; rfl, by rw [declined]; rfl, by rw [declined]; exact empty⟩

theorem settle_reflects {payment : Payment} {attempt : PaymentAttempt} {result : GatewayResult} {event : Event}
    (last : payment.attempts.getLast? = some attempt) (empty : attempt.gateway_response = none) (finished_at : Datetime) :
    ((payment_discipline deployment).asking AttemptArguments).Triple (noted event)
      (ProcessPaymentHandler.settle payment result finished_at)
      (fun settled => (noted event).both
        (.fact (ReflectsAnswer result settled.1.status settled.1.error settled.1.gateway_response)))
      (fun _ => (unsaid : Questioned deployment run)) := by
  have claimed : forall (saved : PaymentAttempt) {id : UUID} {version : Nat} {status target : PaymentStatus},
      ReflectsAnswer result saved.status saved.error saved.gateway_response ->
      ((payment_discipline deployment).asking AttemptArguments).Triple (noted event)
        (do
          let claimed ← (do
            let rows : List PaymentModel ←
              await (.update .payments (.payment_transition id version status target (some finished_at)))
            return rows.length == 1 : Program Bool)
          return (saved, claimed) : Program (PaymentAttempt × Bool))
        (fun settled => (noted event).both
          (.fact (ReflectsAnswer result settled.1.status settled.1.error settled.1.gateway_response)))
        (fun _ => (unsaid : Questioned deployment run)) := by
    intro saved id version status target reflects
    refine Discipline.Triple.bind (noted_triple (OnlyCalls.bind (OnlyCalls.perform rfl)
      (fun _ => OnlyCalls.ret _))) (fun claimed => ?_)
    exact Discipline.Triple.ret (fun _ _ known => ⟨known, reflects⟩)
  rw [ProcessPaymentHandler.settle]
  split
  · next success =>
      refine Discipline.Triple.ofExcept_bind (fun _ _ _ _ _ => trivial) (fun ended done => ?_)
      refine Discipline.Triple.ofExcept_bind (fun _ _ _ _ _ => trivial) (fun marked _ => ?_)
      exact claimed ended.2 (succeed_reflects success last done)
  · next declined =>
      refine Discipline.Triple.ofExcept_bind (fun _ _ _ _ _ => trivial) (fun ended done => ?_)
      refine Discipline.Triple.ofExcept_bind (fun _ _ _ _ _ => trivial) (fun marked _ => ?_)
      exact claimed ended.2 (fail_reflects (Bool.eq_false_iff.mpr declined) last empty done)

/-- The attempt is saved with the answer. -/
theorem saving_triple {key : UUID} {result : GatewayResult} {saved : PaymentAttempt}
    (reflects : ReflectsAnswer result saved.status saved.error saved.gateway_response) :
    ((payment_discipline deployment).asking AttemptArguments).Triple (noted (.charge_returned key result))
      (SqlAlchemyAttemptRepository.update saved) (fun _ => unsaid) (fun _ => (unsaid : Questioned deployment run)) := by
  have updated : ((payment_discipline deployment).asking AttemptArguments).Triple (noted (.charge_returned key result))
      (await (.update .payment_attempts (.attempt_progress saved))) (fun _ => unsaid)
      (fun _ => (unsaid : Questioned deployment run)) := by
    refine Discipline.Triple.perform (fun world _ known => ⟨by simp, ?_, by simp, by simp⟩)
      (fun _ _ _ _ _ _ _ _ _ => trivial) (fun _ _ _ _ _ _ _ _ _ => trivial)
    intro given same
    cases same
    exact ⟨key, result, known, reflects⟩
  exact Discipline.Triple.bind updated (fun _ => Discipline.Triple.ret (fun _ _ known => known))

theorem finalize_reflects {command : ProcessPaymentCommand} {payment : Payment} {attempt : PaymentAttempt}
    {result : GatewayResult} {key : UUID} (last : payment.attempts.getLast? = some attempt)
    (empty : attempt.gateway_response = none) :
    ((payment_discipline deployment).asking AttemptArguments).Triple (noted (.charge_returned key result))
      (ProcessPaymentHandler.finalize command payment result) (fun _ => unsaid)
      (fun _ => (unsaid : Questioned deployment run)) := by
  refine Discipline.Triple.bind (attempt_free_perform (by rfl)) (fun finished_at => ?_)
  refine Discipline.Triple.bind (settle_reflects last empty finished_at)
    (fun settled => Discipline.Triple.of_fact (fun reflects => ?_))
  dsimp only
  split
  · exact Discipline.Triple.raise (fun _ _ _ => trivial)
  · refine Discipline.Triple.bind (saving_triple reflects) (fun _ => ?_)
    exact attempt_free_triple (OnlyCalls.bind (OnlyCalls.perform rfl)
      (fun _ => OnlyCalls.bind (OnlyCalls.perform rfl) (fun _ => OnlyCalls.ret _)))

/-- The attempt that begins is the last one of the aggregate. -/
theorem attempt_begun {payment next : Payment} {attempt : PaymentAttempt} {attempt_id : UUID}
    {correlation_id : Option String} {now : Datetime}
    (done : payment.begin_attempt attempt_id correlation_id now = .ok (next, attempt)) :
    attempt.status = .PROCESSING ∧ attempt.gateway_response = none ∧ attempt.created_at = now := by
  rcases bind_ok done with ⟨_, _, started⟩
  rcases bind_ok started with ⟨begun, start, same⟩
  rcases bind_ok start with ⟨moved, transition, same'⟩
  rw [of_attempt_transition transition] at same'
  cases same'
  cases same
  exact ⟨rfl, rfl, rfl⟩

/-- The attempt is added as it has begun. -/
theorem adding_triple {attempt : PaymentAttempt} (begun : attempt.status = .PROCESSING ∧ attempt.gateway_response = none) :
    ((payment_discipline deployment).asking AttemptArguments).Triple (noted (.clock_read attempt.created_at))
      (SqlAlchemyAttemptRepository.add attempt) (fun _ => unsaid) (fun _ => (unsaid : Questioned deployment run)) := by
  refine Discipline.Triple.perform (fun world _ known => ⟨?_, by simp, by simp, by simp⟩)
    (fun _ _ _ _ _ _ _ _ _ => trivial) (fun _ _ _ _ _ _ _ _ _ => trivial)
  intro row same
  cases same
  exact ⟨begun.1, begun.2, known⟩

theorem charge_reflects {command : ProcessPaymentCommand} {payment : Payment} (started_at : Datetime) :
    ((payment_discipline deployment).asking AttemptArguments).Triple (noted (.clock_read started_at))
      (ProcessPaymentHandler.charge command payment started_at) (fun _ => unsaid)
      (fun _ => (unsaid : Questioned deployment run)) := by
  refine Discipline.Triple.bind (noted_triple (OnlyCalls.bind (OnlyCalls.perform rfl)
    (fun _ => OnlyCalls.ret _))) (fun attempts => ?_)
  refine Discipline.Triple.bind (attempt_free_perform (by rfl)) (fun attempt_id => ?_)
  refine Discipline.Triple.ofExcept_bind (fun _ _ _ _ _ => trivial) (fun begun begins => ?_)
  rcases attempt_begun begins with ⟨status, empty, same⟩
  subst same
  refine Discipline.Triple.bind (adding_triple ⟨status, empty⟩) (fun _ => ?_)
  refine Discipline.Triple.bind (attempt_free_triple (OnlyCalls.perform rfl)) (fun _ => ?_)
  exact Discipline.Triple.bind answered_triple (fun result => finalize_reflects (begun_with begins).last empty)

theorem claim_reflects {command : ProcessPaymentCommand} {payment : Payment} :
    ((payment_discipline deployment).asking AttemptArguments).Triple unsaid (ProcessPaymentHandler.claim command payment)
      (fun _ => unsaid) (fun _ => (unsaid : Questioned deployment run)) := by
  refine Discipline.Triple.bind clock_triple (fun started_at => ?_)
  refine Discipline.Triple.ofExcept_bind (fun _ _ _ _ _ => trivial) (fun begun _ => ?_)
  refine Discipline.Triple.bind (noted_triple (OnlyCalls.bind (OnlyCalls.perform rfl)
    (fun _ => OnlyCalls.ret _))) (fun claimed => ?_)
  split
  · exact Discipline.Triple.ret (fun _ _ _ => trivial)
  · exact charge_reflects started_at

theorem process_reflects (command : ProcessPaymentCommand) :
    ((payment_discipline deployment).asking AttemptArguments).Triple unsaid (ProcessPaymentHandler.handle command)
      (fun _ => unsaid) (fun _ => (unsaid : Questioned deployment run)) := by
  have ending : forall {op : Op}, ScopeCalls op -> ((payment_discipline deployment).asking AttemptArguments).Triple
      unsaid (await op) (fun _ => unsaid) (fun _ => (unsaid : Questioned deployment run)) :=
    fun ends => attempt_free_triple (OnlyCalls.perform (attempt_free_scope ends))
  have loading : (SqlAlchemyPaymentRepository.get command.payment_id).OnlyCalls AttemptFree := by
    refine OnlyCalls.bind (OnlyCalls.perform rfl) (fun rows => ?_)
    split
    · exact OnlyCalls.bind (OnlyCalls.ofExcept _) (fun _ => OnlyCalls.ret _)
    · exact OnlyCalls.ret _
  refine transactional_triple ?_ (fun _ => ending .commit) (fun _ => ending .rollback) (fun _ => ending .close)
    (fun _ => ending .close)
  refine Discipline.Triple.bind (attempt_free_triple loading) (fun found => ?_)
  cases found with
  | none => exact Discipline.Triple.ret (fun _ _ _ => trivial)
  | some payment =>
      dsimp only
      split
      · exact Discipline.Triple.ret (fun _ _ _ => trivial)
      · split
        · exact Discipline.Triple.ret (fun _ _ _ => trivial)
        · exact claim_reflects

/-! ## Every job -/

theorem consume_reflects (settings : Settings) (message : Message) :
    ((payment_discipline deployment).asking AttemptArguments).Triple unsaid
      (PaymentConsumerHandler.handle settings message) (fun _ => unsaid)
      (fun _ => (unsaid : Questioned deployment run)) := by
  have dlq : ((payment_discipline deployment).asking AttemptArguments).Triple unsaid
      (PaymentConsumerHandler.send_to_dlq message) (fun _ => unsaid) (fun _ => (unsaid : Questioned deployment run)) :=
    attempt_free_triple (OnlyCalls.perform rfl)
  have routed : ((payment_discipline deployment).asking AttemptArguments).Triple unsaid
      (PaymentConsumerHandler.route settings message) (fun _ => unsaid)
      (fun _ => (unsaid : Questioned deployment run)) := by
    rw [PaymentConsumerHandler.route]
    split
    · exact dlq
    · exact dlq
    · next event_type aggregate_id correlation_id body =>
        split
        · exact Discipline.Triple.ret (fun _ _ _ => trivial)
        · split
          · exact dlq
          · cases aggregate_id with
            | missing => exact Discipline.Triple.raise (fun _ _ _ => trivial)
            | malformed => exact Discipline.Triple.raise (fun _ _ _ => trivial)
            | uuid key =>
                exact Discipline.Triple.bind (process_reflects ⟨key, correlation_id⟩)
                  (fun _ => Discipline.Triple.ret (fun _ _ known => known))
  have returned : ((payment_discipline deployment).asking AttemptArguments).Triple unsaid
      (do PaymentConsumerHandler.route settings message; return true : Program Bool) (fun _ => unsaid)
      (fun _ => (unsaid : Questioned deployment run)) :=
    Discipline.Triple.bind routed (fun _ => Discipline.Triple.ret (fun _ _ known => known))
  refine Discipline.Triple.bind (Discipline.Triple.tryCatch returned (fun raised => ?_)) (fun ended => ?_)
  · cases raised with
    | cancelled => exact Discipline.Triple.raise (fun _ _ known => known)
    | _ => exact Discipline.Triple.ret (fun _ _ known => known)
  · split
    · exact attempt_free_triple (OnlyCalls.perform rfl)
    · exact attempt_free_triple (OnlyCalls.perform rfl)

theorem attempt_free_create (calls : CreateCalls op) : AttemptFree op := by
  cases calls with
  | scope ends => exact attempt_free_scope ends
  | _ => rfl

theorem attempt_free_get (calls : GetCalls op) : AttemptFree op := by
  cases calls with
  | scope ends => exact attempt_free_scope ends
  | _ => rfl

theorem attempt_free_deliver (calls : DeliverCalls op) : AttemptFree op := by
  cases calls with
  | scope ends => exact attempt_free_scope ends
  | _ => rfl

theorem attempt_free_outbox (calls : OutboxCalls op) : AttemptFree op := by
  cases calls with
  | scope ends => exact attempt_free_scope ends
  | _ => rfl

theorem job_reflects (job : Job) :
    ((payment_discipline deployment).asking AttemptArguments).Triple unsaid (program deployment run job)
      (fun _ => unsaid) (fun _ => (unsaid : Questioned deployment run)) := by
  cases job with
  | create command => exact attempt_free_triple ((create_calls command).mono (fun _ => attempt_free_create))
  | process command => exact process_reflects command
  | get query => exact attempt_free_triple ((get_calls query).mono (fun _ => attempt_free_get))
  | deliver batch_size concurrency =>
      exact attempt_free_triple ((deliver_calls _ _ _).mono (fun _ => attempt_free_deliver))
  | outbox settings cycles =>
      exact attempt_free_triple ((outbox_calls _ _ _ _).mono (fun _ => attempt_free_outbox))
  | consume settings message => exact consume_reflects settings message

/-- What a run is about to write about an attempt is what has happened to it. -/
theorem attempt_arguments {state : (service deployment).State} {job : Job}
    {next : Except Error op.Answer -> Program job.Result}
    (reached : Machine.Reachable (fun _ _ => True) World.initial state)
    (running : state.phase run = .running job (.call op next)) : AttemptArguments run op state.shared := by
  exact @Discipline.Verified.asked _ (service deployment) _ AttemptArguments run _ _ (payment_verified deployment) job
    (fun _ => unsaid) (fun _ => unsaid)
    (fun _ after _ _ _ kept' _ => job_reflects job after kept' trivial) state reached op next running

end Properties
end Payments

import Payments.Concurrency.Raising
import Payments.Properties.ApiResponses
import Payments.Properties.RepeatedReads

namespace Payments
namespace Properties

open Concurrency Domain Infrastructure Application Presentation Prog UnitOfWork Payments.System

/-!
# What the answer of a request promises

A response is read off the end of the handler's run, so it promises what is
known at that end, whatever other requests, consumers and workers were doing.
-/

variable {deployment : Deployment} {world after : World} {run other : RunId} {key : UUID}
  {op : Op} {command : CreatePaymentCommand} {row : PaymentModel}

/-! ## The exceptions of a creation -/

/-- The operations of a program fail from outside only. -/
abbrev Externally (_ : Op) (error : Error) : Prop := external error = true

/-- The operations that end a unit of work. -/
def EndsUnit : Op -> Prop
  | .commit | .rollback | .close => True
  | _ => False

theorem transactional_raises {X : Type} {commit : Bool} {body : Program X} {answers : Op -> Error -> Prop}
    {raised : Error -> Prop} (known : forall op error, EndsUnit op -> answers op error -> raised error)
    (raises : body.Raises answers raised) : (transactional commit body).Raises answers raised := by
  have awaited : forall {op : Op}, EndsUnit op -> (await op).Raises answers raised :=
    fun ending => Prog.Raises.perform (fun error => known _ error ending)
  have committed : (do
      let result ← body
      if commit then
        await .commit
      return result : Program X).Raises answers raised := by
    refine Prog.Raises.bind raises (fun result => ?_)
    cases commit with
    | false => exact Prog.Raises.ret result
    | true => exact Prog.Raises.bind (awaited trivial) (fun _ => Prog.Raises.ret result)
  exact Prog.Raises.tryFinally
    (Prog.Raises.tryCatch committed (fun error caught => Prog.Raises.bind (awaited trivial) (fun _ => caught)))
    (awaited trivial)

/-- How a creation can fail. -/
inductive CreationFailure (command : CreatePaymentCommand) : Error -> Prop where
  | refused (error : Error) (invalid : CreatePaymentHandler.validated command = .error error) :
      CreationFailure command error
  | conflict (text : String) : CreationFailure command (.idempotencyConflict text)
  | unreported (error : Error) (uncoded : code error = none) : CreationFailure command error

theorem uncoded_external {error : Error} (known : external error = true) : code error = none := by
  cases error with
  | invalidPaymentData message => cases known
  | idempotencyConflict text => cases known
  | paymentNotFound id => cases known
  | invalidStateTransition current target => cases known
  | _ => rfl

theorem uncoded_values {error : Error} (known : of_values error = true) : code error = none := by
  cases error with
  | invalidPaymentData message => cases known
  | idempotencyConflict text => cases known
  | paymentNotFound id => cases known
  | invalidStateTransition current target => cases known
  | _ => rfl

theorem creation_raises (command : CreatePaymentCommand) :
    (CreatePaymentHandler.handle command).Raises Externally (CreationFailure command) := by
  have outside : forall error, external error = true -> CreationFailure command error :=
    fun error known => .unreported error (uncoded_external known)
  have awaited : forall {op : Op}, (await op).Raises Externally (CreationFailure command) := Prog.Raises.perform outside
  have reloaded : (SqlAlchemyPaymentRepository.get_by_idempotency_key command.idempotency_key).Raises Externally
      (CreationFailure command) := by
    refine Prog.Raises.bind awaited (fun (rows : List PaymentModel) => ?_)
    rcases rows with _ | ⟨row, _ | ⟨second, rest⟩⟩
    · exact Prog.Raises.ret _
    · refine Prog.Raises.ofExcept_bind (fun error failed => ?_) (fun payment _ => Prog.Raises.ret _)
      exact .unreported error (uncoded_values (values_load failed))
    · exact .unreported _ rfl
  refine transactional_raises (fun _ error _ => outside error) (Prog.Raises.bind awaited (fun now => ?_))
  refine Prog.Raises.ofExcept_bind (fun error failed => .refused error failed) (fun values _ => ?_)
  refine Prog.Raises.bind awaited (fun id => ?_)
  refine Prog.Raises.bind (Prog.Raises.bind awaited (fun _ => Prog.Raises.ret _)) (fun inserted => ?_)
  cases inserted with
  | none =>
      refine Prog.Raises.bind reloaded (fun existing => ?_)
      cases existing with
      | none => exact .conflict _
      | some existing => exact Prog.Raises.ret _
  | some payment =>
      have queued : (collect_events payment.pull_events.1).Raises Externally (CreationFailure command) :=
        Prog.Raises.forEach (fun _ => Prog.Raises.bind awaited (fun (_ : UUID) => awaited)) _
      exact Prog.Raises.bind queued (fun _ => Prog.Raises.ret _)

/-- A value object refuses what the client has sent. -/
theorem validated_error {error : Error} (invalid : CreatePaymentHandler.validated command = .error error) :
    (Exists fun message => error = .invalidPaymentData message) ∨ error = .invalidOperation := by
  unfold CreatePaymentHandler.validated at invalid
  dsimp only at invalid
  split at invalid
  · cases invalid
    exact .inl ⟨_, rfl⟩
  · next other =>
      have values : of_values error = true := by
        rcases bind_error invalid with key | ⟨key, _, invalid⟩
        · exact values_key key
        · rcases bind_error invalid with money | ⟨money, _, invalid⟩
          · exact values_money money
          · cases invalid
      cases error with
      | valueError message => exact (other message invalid).elim
      | invalidOperation => exact .inr rfl
      | _ => cases values

/-! ## A creation that is refused -/

/-- The operations of a handler that is left before its first statement. -/
def Leaving (op : Op) : Prop := op = .now ∨ op = .rollback ∨ op = .close

theorem refused_calls {error : Error} (invalid : CreatePaymentHandler.validated command = .error error) :
    (CreatePaymentHandler.handle command).OnlyCalls Leaving := by
  have body : (CreatePaymentHandler.body command).OnlyCalls Leaving := by
    refine OnlyCalls.bind (OnlyCalls.perform (.inl rfl)) (fun now => ?_)
    rw [invalid]
    trivial
  have returns : (CreatePaymentHandler.body command).Returns (fun _ => False) := by
    refine Returns.bind (fun now => ?_)
    rw [invalid]
    trivial
  have committed : (do
      let result ← CreatePaymentHandler.body command
      if true then
        await .commit
      return result : Program PaymentDTO).OnlyCalls Leaving :=
    OnlyCalls.bind_returns body returns (fun _ impossible => impossible.elim)
  refine OnlyCalls.tryFinally (OnlyCalls.tryCatch committed (fun raised => ?_)) (OnlyCalls.perform (.inr (.inr rfl)))
  exact OnlyCalls.bind (OnlyCalls.perform (.inr (.inl rfl))) (fun _ => OnlyCalls.raise raised)

/-- The run has committed nothing. -/
def Uncommitted (run : RunId) (world : World) : Prop :=
  forall record, .committed record ∉ world.own run

theorem leaving_apart (leaving : Leaving op) : ApartOp op := by
  rcases leaving with rfl | rfl | rfl
  · exact plain_of_ne (by simp) (by simp) (by simp) (by simp) (by simp) (by simp) (by simp) (by simp)
  · exact apart_scope .rollback
  · exact apart_scope .close

theorem Uncommitted.executed (uncommitted : Uncommitted run world) (leaving : Leaving op)
    {answer : Except Error op.Answer} (executed : World.Executed run world op after answer) : Uncommitted run after := by
  intro record listed
  rcases executed.own with same | ⟨event, records, same⟩
  · exact uncommitted record (same ▸ listed)
  · rw [same] at listed
    rcases List.mem_cons.mp listed with rfl | before
    · cases records
      rcases leaving with impossible | impossible | impossible <;> cases impossible
    · exact uncommitted record before

/-- The run holds nothing and has committed nothing. -/
def leaving_run (run : RunId) : (payment_discipline deployment).Assertion run :=
  knowing run (fun world => Apart run world ∧ Uncommitted run world) (fun _ _ untouched _ known =>
    ⟨⟨known.1.plain.stable untouched, known.1.payments.stable untouched⟩,
      fun record => untouched.own ▸ known.2 record⟩)

theorem refused_triple {error : Error} (invalid : CreatePaymentHandler.validated command = .error error) :
    (payment_discipline deployment).Triple (leaving_run run) (CreatePaymentHandler.handle command)
      (fun _ => leaving_run run) (fun _ => leaving_run run) :=
  Discipline.Triple.of_onlyCalls (leaving_run run)
    (fun _ leaving _ _ known => (leaving_apart leaving).plain.permits (fun _ => known.1.plain) (fun _ => known.1.payments))
    (fun _ leaving _ _ _ _ _ known ran _ =>
      ⟨known.1.executed (leaving_apart leaving).plain (leaving_apart leaving).not_insert (service_executed ran),
        known.2.executed leaving (service_executed ran)⟩)
    (fun _ _ _ known => known) (fun _ _ _ known => known) (refused_calls invalid)

/-- The run of a handler has ended. -/
def Ended (state : (service deployment).State) (run : RunId) (job : Job) (outcome : Except Error job.Result) : Prop :=
  state.phase run = .running job (Prog.ofExcept outcome)

/-- What the payment discipline shows of the program of a request holds at the end of its run. -/
theorem ended_holds {first last : (service deployment).State} {job : Job} {outcome : Except Error job.Result}
    (reached : Machine.Reachable (fun _ _ => True) World.initial first)
    (path : Machine.Path (fun _ _ => True) first last) (absent : first.phase run = .absent)
    (ended : Ended last run job outcome) {known : (payment_discipline deployment).Assertion run}
    {post : job.Result -> (payment_discipline deployment).Assertion run}
    {error : Error -> (payment_discipline deployment).Assertion run}
    (quiet : forall world, start deployment job run world = some world)
    (begins : forall before : (service deployment).State, Machine.Path (fun _ _ => True) first before ->
      before.phase run = .absent -> known before.shared)
    (triple : (payment_discipline deployment).Triple known (program deployment run job) post error) :
    (forall value, outcome = .ok value -> post value last.shared) ∧
      forall raised, outcome = .error raised -> error raised last.shared := by
  rcases path.started absent ended with ⟨before, after, starts⟩
  have begun : Machine.Reachable (fun _ _ => True) World.initial after :=
    reached.trans (starts.earlier.step _ starts.taken trivial)
  have holds := (payment_verified deployment).sound begun
  have same : after.shared = before.shared := (Option.some.inj ((quiet before.shared).symm.trans starts.started)).symm
  have safe := triple after.shared holds.inv (same ▸ begins before starts.earlier starts.absent)
  rcases holds.follows starts.later starts.running safe with crashed | ⟨rest, running, safe⟩
  · cases ended.symm.trans crashed
  · cases ended.symm.trans running
    refine ⟨fun value same => ?_, fun raised same => ?_⟩
    · subst same
      exact safe
    · subst same
      exact safe

/-- A refused creation has written nothing. -/
theorem refused_uncommitted {state : (service deployment).State} {outcome : Except Error PaymentDTO} {error : Error}
    (reached : Machine.Reachable (fun _ _ => True) World.initial state)
    (ended : Ended state run (.create command) outcome)
    (invalid : CreatePaymentHandler.validated command = .error error) : Uncommitted run state.shared := by
  have begins : forall before : (service deployment).State,
      Machine.Path (fun _ _ => True) (Machine.fresh World.initial) before -> before.phase run = .absent ->
      (leaving_run run : (payment_discipline deployment).Assertion run) before.shared := by
    intro before earlier absent
    have idle := ((payment_verified deployment).sound earlier).absent run absent
    refine ⟨Clear.apart idle.1, fun record listed => ?_⟩
    have silent : before.shared.own run = [] := idle.2
    rw [silent] at listed
    cases listed
  have known := ended_holds .refl reached rfl ended (fun _ => rfl) begins (refused_triple invalid)
  cases outcome with
  | ok value => exact (known.1 value rfl).2
  | error raised => exact (known.2 raised rfl).2

/-- The values of a creation that has returned were accepted. -/
theorem valid_of_returned {state : (service deployment).State} {dto : PaymentDTO}
    (reached : Machine.Reachable (fun _ _ => True) World.initial state)
    (returned : state.phase run = .running (.create command) (.ret dto)) :
    Exists fun values => CreatePaymentHandler.validated command = .ok values := by
  rcases reached.started rfl returned with ⟨before, after, starts⟩
  have begun : Machine.Reachable (fun _ _ => True) World.initial after := starts.earlier.step _ starts.taken trivial
  have holds := (payment_verified deployment).sound begun
  rcases holds.evaluates starts.later starts.running returned with ⟨ended, evaluates, _⟩
  rcases evaluated_body evaluates with ⟨_, body, _⟩
  rcases body.of_bind_ok with ⟨now, read, _, rest⟩
  rcases Evaluates.of_bind_ok rest with ⟨values, middle, validating, _⟩
  exact ⟨values, validating.of_ofExcept.1.symm⟩

/-! ## A payment that is there is found -/

/-- Between the two states an operation of the run was interrupted and has raised this. -/
def Disturbed (first last : (service deployment).State) (run : RunId) (error : Error) : Prop :=
  exists op, exists choice : Choice, exists interruption, choice.interruption = some interruption ∧
    error = interruption.error ∧ Machine.Raised (fun _ _ => True) first last run op choice error

/-- A run that has not been started has no session that refuses a row. -/
theorem absent_accepting {state : (service deployment).State}
    (reached : Machine.Reachable (fun _ _ => True) World.initial state) (absent : state.phase run = .absent) :
    state.shared.refusing run = false := by
  induction reached with
  | refl => rfl
  | @step state next action _ taken _ inductionHypothesis =>
      have before := inductionHypothesis (Machine.absent_before taken absent).1
      rcases Machine.step_cases taken with
        ⟨other, job, shared, _, started, rfl⟩ | ⟨other, job, op, rest, choice, outcome, _, ran, rfl⟩ |
        ⟨other, job, op, rest, _, rfl⟩ | ⟨event, shared, happened, rfl⟩
      · rcases start_cases started with rfl | ⟨_, _, _, _, rfl⟩ <;> exact before
      · have different : run ≠ other := by
          rintro rfl
          cases (Machine.State.setPhase_self state run _).symm.trans absent
        exact ((service_executed ran).untouched different).refusing.trans before
      · have different : run ≠ other := by
          rintro rfl
          cases (Machine.State.setPhase_self state run _).symm.trans absent
        exact (World.crash_untouched different).refusing.trans before
      · exact ((World.happen_occurred happened).untouched run).refusing.trans before

/-- The run reads only, and the payment is committed. -/
structure Present (run : RunId) (key : UUID) (row : PaymentModel) (world : World) : Prop where
  clear : Clear run world
  accepting : world.refusing run = false
  found : Exists fun later => (world.cell .payments key).committed = some later ∧ Grows row later

def present_run (run : RunId) (key : UUID) (row : PaymentModel) : (payment_discipline deployment).Assertion run :=
  knowing run (Present run key row) (by
    rintro before after untouched evolves ⟨clear, accepting, later, found, grows⟩
    rcases evolves.grows key later found with ⟨last, found', grows'⟩
    exact ⟨clear.stable untouched, untouched.refusing.trans accepting, last, found', grows.trans grows'⟩)

/-- The read has been interrupted. -/
def interrupted_run (run : RunId) (key : UUID) (row : PaymentModel) (raised : Error) :
    (payment_discipline deployment).Assertion run :=
  (present_run run key row).both (.fact (Exists fun interruption : Interruption => raised = interruption.error))

theorem Present.released (present : Present run key row world) : Present run key row (world.release run) where
  clear := clear_release run world
  accepting := by
    change Function.update world.refusing run false run = false
    exact Function.update_self run false world.refusing
  found := by
    rcases present.found with ⟨later, found, grows⟩
    refine ⟨later, ?_, grows⟩
    rw [World.cell_release, Cell.rollback_committed]
    exact found

theorem Present.rolled_back (present : Present run key row world) : Present run key row (world.rollback run) :=
  ⟨clear_rollback run world, present.released.accepting, present.released.found⟩

/-- What a row can be loaded into, each of its versions can. -/
theorem loads_version {later : PaymentModel} {payment : Payment} (load : row.to_domain = .ok payment)
    (same : origin later = origin row) : Exists fun loaded => later.to_domain = .ok loaded := by
  rcases row with ⟨_, _, _, _, _, _, _, _, _, _, _, _⟩
  rcases later with ⟨_, _, _, _, _, _, _, _, _, _, _, _⟩
  cases same
  unfold PaymentModel.to_domain at load ⊢
  rcases bind_ok load with ⟨idempotency_key, keyed, load⟩
  rcases bind_ok load with ⟨money, priced, _⟩
  have keyed : IdempotencyKey.new _ = .ok idempotency_key := keyed
  have priced : Money.new _ _ = .ok money := priced
  simp only [keyed, priced]
  exact ⟨_, rfl⟩

/-- The value objects accept what a creation has stored. -/
theorem Requested.loads (requested : Requested command row) : Exists fun loaded => row.to_domain = .ok loaded := by
  rcases requested with ⟨values, id, now, first, valid, stored, storable, same⟩
  rcases reconstructed stored storable with ⟨loaded, load, _⟩
  exact loads_version load same

section

variable {payment : Payment} (load : row.to_domain = .ok payment)

/-- A statement of a read fails only when it is interrupted. -/
theorem reading_triple {name : TableName} {query : Query name}
    {post : List (Row name) -> (payment_discipline deployment).Assertion run}
    (returns : forall world, PaymentsKept world -> Present run key row world ->
      post (((world.tables name).select run query.condition).insertionSort (fun left right => query.before left right))
        world) :
    (payment_discipline deployment).Triple (present_run run key row) (await (.select name query)) post
      (interrupted_run run key row) := by
  refine Discipline.Triple.perform (fun world _ _ => ?_) (fun world _ _ rows kept known ran _ _ => ?_)
    (fun world choice after raised _ known ran _ _ => ?_)
  · exact (plain_of_ne (by simp) (by simp) (by simp) (by simp) (by simp) (by simp) (by simp)
      (by simp)).plain.permits (by simp) (by simp)
  · rcases selected_world ran with ⟨rfl, rfl⟩
    exact returns _ kept known
  · rcases statement_accepted known.accepting ran with ⟨interruption, _, rfl, same⟩ | executed
    · cases same
      exact ⟨known, interruption, rfl⟩
    · cases executed

/-- The end of a unit of work keeps what the read knows. -/
theorem rolling_back_triple (raised : Error) :
    (payment_discipline deployment).Triple (interrupted_run run key row raised) (await .rollback)
      (fun _ => interrupted_run run key row raised) (interrupted_run run key row) := by
  refine Discipline.Triple.perform (fun world _ _ => ?_) (fun world _ after _ _ known ran _ _ => ?_)
    (fun world choice after error _ known ran _ _ => ?_)
  · exact (apart_scope .rollback).plain.permits (by simp) (by simp)
  · rw [World.exec_rollback_eq ran]
    exact ⟨known.1.rolled_back, known.2⟩
  · have same := World.exec_rollback_eq ran
    simp only [World.exec, World.exec_rollback, Option.some.injEq, Prod.mk.injEq] at ran
    rcases ran with ⟨_, failed⟩
    split at failed
    · next interruption _ =>
        cases failed
        rw [same]
        exact ⟨known.1.rolled_back, interruption, rfl⟩
    · cases failed

theorem closing_triple {pre : (payment_discipline deployment).Assertion run}
    (known : forall world, pre world -> Present run key row world)
    (kept : forall world, pre world -> pre (world.release run)) :
    (payment_discipline deployment).Triple pre (await .close) (fun _ => pre) (interrupted_run run key row) := by
  refine Discipline.Triple.perform (fun world _ holds => ?_) (fun world _ after _ _ holds ran _ _ => ?_)
    (fun world choice after error _ holds ran _ _ => ?_)
  · exact (apart_scope .close).plain.permits (by simp) (fun _ => (known world holds).clear _)
  · rw [World.exec_close_eq ran]
    exact kept world holds
  · have same := World.exec_close_eq ran
    simp only [World.exec, World.exec_close, Option.some.injEq, Prod.mk.injEq] at ran
    rcases ran with ⟨_, failed⟩
    split at failed
    · next interruption _ =>
        cases failed
        rw [same]
        exact ⟨(known world holds).released, interruption, rfl⟩
    · cases failed

include load in
/-- The read of a committed payment returns unless it is interrupted. -/
theorem found_triple : (payment_discipline deployment).Triple (present_run run key row) (GetPaymentHandler.handle ⟨key⟩)
    (fun _ => present_run run key row) (interrupted_run run key row) := by
  have selected : (payment_discipline deployment).Triple (present_run run key row)
      (await (.select .payments (.payment_by_id key)))
      (fun (rows : List PaymentModel) => (present_run run key row).both
        (.fact (exists first loaded, rows.head? = some first ∧ first.to_domain = .ok loaded)))
      (interrupted_run run key row) := by
    refine reading_triple (fun world kept known => ⟨known, ?_⟩)
    rcases known.found with ⟨later, found, grows⟩
    have named : forall row : PaymentModel, (Query.payment_by_id key).condition row = true ->
        @Row.id .payments row = key := fun row matched => of_decide_eq_true matched
    have listed := fun found => @selected_payment world run .payments (.payment_by_id key) found key
      kept.keyed (known.clear _) named
    have own : later.id = key := kept.keyed .payments key later (.committed found)
    have member := (listed later).mpr ⟨found, decide_eq_true own⟩
    cases rows : ((world.tables .payments).select run (Query.payment_by_id key).condition).insertionSort
        (fun left right => (Query.payment_by_id key).before left right) with
    | nil =>
        rw [rows] at member
        cases member
    | cons first rest =>
        have head := (listed first).mp (rows ▸ List.mem_cons_self)
        cases found.symm.trans head.1
        rcases loads_version load grows.origin with ⟨loaded, load'⟩
        exact ⟨later, loaded, rfl, load'⟩
  have loaded : (payment_discipline deployment).Triple (present_run run key row) (SqlAlchemyPaymentRepository.get key)
      (fun payment => (present_run run key row).both (.fact (payment ≠ none))) (interrupted_run run key row) := by
    refine Discipline.Triple.bind selected (fun rows => Discipline.Triple.of_fact (fun shown => ?_))
    rcases shown with ⟨first, loaded, head, load'⟩
    simp only [head, load']
    exact Discipline.Triple.ret (fun _ _ known => ⟨known, by simp⟩)
  have listed : (payment_discipline deployment).Triple (present_run run key row)
      (await (.select .payment_attempts (.attempts_by_payment_id key)))
      (fun (_ : List PaymentAttemptModel) => present_run run key row) (interrupted_run run key row) :=
    reading_triple (fun _ _ known => known)
  have attempted : (payment_discipline deployment).Triple (present_run run key row)
      (SqlAlchemyAttemptRepository.get_by_payment_id key) (fun _ => present_run run key row)
      (interrupted_run run key row) :=
    Discipline.Triple.bind listed (fun _ => Discipline.Triple.ret (fun _ _ known => known))
  have body : (payment_discipline deployment).Triple (present_run run key row) (GetPaymentHandler.body ⟨key⟩)
      (fun _ => present_run run key row) (interrupted_run run key row) := by
    refine Discipline.Triple.bind loaded (fun payment => Discipline.Triple.of_fact (fun shown => ?_))
    cases payment with
    | none => exact absurd rfl shown
    | some payment =>
        exact Discipline.Triple.bind attempted (fun _ => Discipline.Triple.ret (fun _ _ known => known))
  have returned : (payment_discipline deployment).Triple (present_run run key row) (await .close)
      (fun _ => present_run run key row) (interrupted_run run key row) :=
    closing_triple (fun _ known => known) (fun _ known => known.released)
  have failed : forall raised, (payment_discipline deployment).Triple (interrupted_run run key row raised) (await .close)
      (fun _ => interrupted_run run key row raised) (interrupted_run run key row) :=
    fun raised => closing_triple (fun _ known => known.1) (fun _ known => ⟨known.1.released, known.2⟩)
  exact scope_triple (Discipline.Triple.bind body (fun _ => Discipline.Triple.ret (fun _ _ known => known)))
    rolling_back_triple failed (fun _ => returned)

end

/-! ## The answer to a creation -/

/-- What the response to a creation means in the state in which it is given. -/
structure CreationAnswered (state : (service deployment).State) (run : RunId) (command : CreatePaymentCommand)
    (incoming : Incoming) (response : Response) : Prop where
  status : response.status_code = 202 ∨ response.status_code = 422 ∨ response.status_code = 500
  /-- The payment is committed, under the key of the request. -/
  accepted : response.status_code = 202 -> Exists fun dto => Told command.idempotency_key dto state.shared ∧
    response.content = .created ⟨dto.payment_id, dto.status, dto.created_at⟩
  refused : response.status_code = 422 -> Exists fun message => Exists fun text =>
    CreatePaymentHandler.validated command = .error (.invalidPaymentData message) ∧
      response.content = .domain_error "VALIDATION_ERROR" text [("message", message)]
  /-- Values that are refused are not stored, in whichever way the request ends. -/
  unstored : forall error, CreatePaymentHandler.validated command = .error error ->
    response.status_code ≠ 202 ∧ Uncommitted run state.shared
  failed : response.status_code = 500 -> response = handle_unhandled "none"
  /-- The client is told the correlation under which its payment would be stored. -/
  identified : response.status_code ≠ 500 -> Exists fun correlation_id => command.correlation_id = some correlation_id ∧
    response.headers =
      [("X-Request-ID", incoming.headers.request_id incoming.generated), ("X-Correlation-ID", correlation_id)]

theorem CreationAnswered.of_accepted {state : (service deployment).State} {incoming : Incoming} {dto : PaymentDTO}
    {values : IdempotencyKey × Money} (valid : CreatePaymentHandler.validated command = .ok values)
    (correlated : command.correlation_id = some (incoming.headers.correlation_id incoming.generated))
    (told : Told command.idempotency_key dto state.shared) : CreationAnswered state run command incoming
      ⟨202, .created ⟨dto.payment_id, dto.status, dto.created_at⟩, identities incoming⟩ where
  status := .inl rfl
  accepted := fun _ => ⟨dto, told, rfl⟩
  refused := fun impossible => by simp at impossible
  unstored := by
    intro error invalid
    rw [valid] at invalid
    cases invalid
  failed := fun impossible => by simp at impossible
  identified := fun _ => ⟨_, correlated, rfl⟩

theorem CreationAnswered.of_refused {state : (service deployment).State} {incoming : Incoming} {message : String}
    (text : String) (invalid : CreatePaymentHandler.validated command = .error (.invalidPaymentData message))
    (correlated : command.correlation_id = some (incoming.headers.correlation_id incoming.generated))
    (uncommitted : Uncommitted run state.shared) : CreationAnswered state run command incoming
      ⟨422, .domain_error "VALIDATION_ERROR" text [("message", message)], identities incoming⟩ where
  status := .inr (.inl rfl)
  accepted := fun impossible => by simp at impossible
  refused := fun _ => ⟨message, text, invalid, rfl⟩
  unstored := fun _ _ => ⟨by simp, uncommitted⟩
  failed := fun impossible => by simp at impossible
  identified := fun _ => ⟨_, correlated, rfl⟩

theorem CreationAnswered.of_failed {state : (service deployment).State} {incoming : Incoming}
    (uncommitted : forall error, CreatePaymentHandler.validated command = .error error -> Uncommitted run state.shared) :
    CreationAnswered state run command incoming (handle_unhandled "none") where
  status := .inr (.inr rfl)
  accepted := fun impossible => by simp [handle_unhandled] at impossible
  refused := fun impossible => by simp [handle_unhandled] at impossible
  unstored := fun error invalid => ⟨by simp [handle_unhandled], uncommitted error invalid⟩
  failed := fun _ => rfl
  identified := fun different => absurd rfl different

/-- A creation is answered by 202 with a committed payment, by 422 for values
that are refused, or by 500; a conflict is never reported to the client. -/
theorem creations_answered {state : (service deployment).State} {settings : ApiSettings} {request : PostPayments}
    {outcome : Except Error PaymentDTO} {response : Response}
    (reached : Machine.Reachable (fun _ _ => True) World.initial state)
    (received : request.command settings = .ok command) (ended : Ended state run (.create command) outcome)
    (answered : respond settings request.incoming (PostPayments.result outcome) = some response) :
    CreationAnswered state run command request.incoming response := by
  have uncommitted := fun error => @refused_uncommitted deployment run command state outcome error reached ended
  have correlated := correlated_of_received received
  cases outcome with
  | ok dto =>
      cases answered
      rcases valid_of_returned reached ended with ⟨values, valid⟩
      exact .of_accepted valid correlated ((creation_verified deployment).returned (creation_reachable reached) ended)
  | error error =>
      have failure : CreationFailure command error :=
        Machine.Path.raises (fun _ _ _ _ _ _ ran => (service_executed ran).external) reached (creation_raises command)
          ended
      have unreported : code error = none -> CreationAnswered state run command request.incoming response := by
        intro uncoded
        rcases respond_unhandled uncoded answered with ⟨rfl, _⟩
        exact .of_failed uncommitted
      cases failure with
      | refused _ invalid =>
          rcases validated_error invalid with ⟨message, rfl⟩ | rfl
          · have coded : code (.invalidPaymentData message) = some "VALIDATION_ERROR" := rfl
            rcases @respond_domain settings request.incoming _ _ coded with ⟨text, told⟩
            cases told.symm.trans answered
            exact .of_refused text invalid correlated (uncommitted _ invalid)
          · exact unreported rfl
      | conflict text =>
          exact absurd rfl ((creation_verified deployment).raised (creation_reachable reached) ended text)
      | unreported _ uncoded => exact unreported uncoded

def sample_api : ApiSettings := ⟨["dev-key"], "en", ["ru", "en"]⟩

/-- One euro, with the defaults of the schema. -/
def one_euro : PostPayments :=
  ⟨⟨⟨none, some "trace-7"⟩, "9f0c", some "ru-RU,ru;q=0.9", some "dev-key"⟩, some "order-7",
    ⟨some (.finite false 100 (-2)), "EUR", none, none, none⟩⟩

/-- The command for the handler, if there is one. -/
def handled : Option CreatePaymentCommand := (one_euro.command sample_api).toOption

theorem of_handled {command : CreatePaymentCommand} (known : handled = some command) :
    one_euro.command sample_api = .ok command := by
  unfold handled at known
  cases received : one_euro.command sample_api with
  | ok own =>
      rw [received] at known
      cases known
      rfl
  | error raised =>
      rw [received] at known
      cases known

/-- Run 0 creates payment 1 for a command. -/
def creating_for (command : CreatePaymentCommand) : List (service sample_deployment).Action :=
  .start 0 (.create command) :: creating.tail

/-- The schedule creates a payment for the command of the request. -/
theorem created_for {state : (service sample_deployment).State}
    (ran : Machine.runFrom (Machine.fresh World.initial) (creating_for command) = some state)
    {pair : CreatePaymentCommand × PaymentDTO} (known : created_dto 0 state = some pair) :
    Ended state 0 (.create command) (.ok pair.2) := by
  have ended := of_created_dto known
  have listed := Machine.started_of_running ran ended
  have same : pair.1 = command := by simpa [creating_for, creating] using listed
  exact same ▸ ended

theorem order_accepted : Exists fun state : (service sample_deployment).State => Exists fun command =>
    Exists fun response => one_euro.command sample_api = .ok command ∧ response.status_code = 202 ∧
      CreationAnswered state 0 command one_euro.incoming response := by
  have accepted : (handled.bind (fun command =>
      (Machine.runFrom (Machine.fresh World.initial) (creating_for command)).bind
        (fun state => (created_dto 0 state).map (fun _ => ())))) = some () := by decide +kernel
  rcases Option.bind_eq_some_iff.mp accepted with ⟨command, received, accepted⟩
  rcases Option.bind_eq_some_iff.mp accepted with ⟨state, ran, accepted⟩
  rcases Option.map_eq_some_iff.mp accepted with ⟨pair, known, _⟩
  exact ⟨state, command, _, of_handled received, rfl,
    creations_answered (Machine.Path.of_runFrom _ ran) (of_handled received) (created_for ran known) rfl⟩

/-! ## The answer to a read -/

/-- How a read can fail. -/
inductive ReadFailure (key : UUID) : Error -> Prop where
  | missing : ReadFailure key (.paymentNotFound key)
  | unreported (error : Error) (uncoded : code error = none) : ReadFailure key error

/-- The operations of a read. -/
def Querying : Op -> Prop
  | .select _ _ => True
  | op => EndsUnit op

theorem read_raises {answers : Op -> Error -> Prop} {raised : Error -> Prop} (query : GetPaymentQuery)
    (known : forall op error, Querying op -> answers op error -> raised error)
    (unmapped : forall error, of_values error = true -> raised error)
    (missing : raised (.paymentNotFound query.payment_id)) :
    (GetPaymentHandler.handle query).Raises answers raised := by
  have selected : forall {name : TableName} {statement : Query name}, (await (.select name statement)).Raises answers raised :=
    Prog.Raises.perform (fun error => known _ error trivial)
  have loaded : (SqlAlchemyPaymentRepository.get query.payment_id).Raises answers raised := by
    refine Prog.Raises.bind selected (fun (rows : List PaymentModel) => ?_)
    split
    · refine Prog.Raises.ofExcept_bind (fun error failed => ?_) (fun payment _ => Prog.Raises.ret _)
      exact unmapped error (values_load failed)
    · exact Prog.Raises.ret _
  have ends : forall op, EndsUnit op -> Querying op := by
    intro op ending
    cases op <;> first | exact ending | trivial
  refine transactional_raises (fun op error ending => known op error (ends op ending))
    (Prog.Raises.bind loaded (fun payment => ?_))
  cases payment with
  | none => exact missing
  | some payment =>
      have listed : (SqlAlchemyAttemptRepository.get_by_payment_id query.payment_id).Raises answers raised :=
        Prog.Raises.bind selected (fun (rows : List PaymentAttemptModel) => Prog.Raises.ret _)
      exact Prog.Raises.bind listed (fun _ => Prog.Raises.ret _)

theorem read_failure (query : GetPaymentQuery) :
    (GetPaymentHandler.handle query).Raises Externally (ReadFailure query.payment_id) :=
  read_raises query (fun _ error _ known => .unreported error (uncoded_external known))
    (fun error known => .unreported error (uncoded_values known)) .missing

/-- An operation of a read fails in a session that refuses it, or when it is interrupted. -/
theorem reads_interrupted {op : Op} {choice : Choice} {raised : Error} (reads : Querying op)
    (ran : World.exec run op choice world = some (after, .error raised)) : raised = .databaseRefused ∨
      Exists fun interruption => choice.interruption = some interruption ∧ raised = interruption.error := by
  cases op with
  | select name query =>
      simp only [World.exec, World.exec_select, World.statement] at ran
      split at ran
      · cases ran
        exact .inl rfl
      · split at ran
        · next interruption interrupted =>
            cases ran
            exact .inr ⟨interruption, interrupted, rfl⟩
        · cases ran
  | commit =>
      simp only [World.exec, World.exec_commit] at ran
      split at ran
      · cases ran
        exact .inl rfl
      · split at ran
        · next interruption interrupted =>
            cases ran
            exact .inr ⟨interruption, interrupted, rfl⟩
        · cases ran
  | rollback =>
      simp only [World.exec, World.exec_rollback] at ran
      split at ran
      · next interruption interrupted =>
          cases ran
          exact .inr ⟨interruption, interrupted, rfl⟩
      · cases ran
  | close =>
      simp only [World.exec, World.exec_close] at ran
      split at ran
      · next interruption interrupted =>
          cases ran
          exact .inr ⟨interruption, interrupted, rfl⟩
      · cases ran
  | _ => cases reads

/-- What a read raises either comes from an interruption on the way, or it looks like none. -/
theorem read_disturbed (first last : (service deployment).State) (run : RunId) (query : GetPaymentQuery) :
    (GetPaymentHandler.handle query).Raises
      (fun op error => exists choice, Machine.Raised (fun _ _ => True) first last run op choice error)
      (fun error => Disturbed first last run error ∨ forall interruption : Interruption, error ≠ interruption.error) := by
  have unlike : forall {error : Error}, error ≠ .infrastructure -> error ≠ .cancelled ->
      forall interruption : Interruption, error ≠ interruption.error := by
    intro error failed cancelled interruption
    cases interruption with
    | failed => exact failed
    | cancelled => exact cancelled
  refine read_raises query (fun op error reads known => ?_) (fun error known => .inr (unlike ?_ ?_))
    (.inr (unlike (by simp) (by simp)))
  · rcases known with ⟨choice, before, after, earlier, pending, taken, executed, later⟩
    rcases reads_interrupted reads executed with rfl | ⟨interruption, interrupted, same⟩
    · exact .inr (unlike (by simp) (by simp))
    · exact .inl ⟨op, choice, interruption, interrupted, same, before, after, earlier, pending, taken, executed, later⟩
  · rintro rfl
    cases known
  · rintro rfl
    cases known

/-- A read that was started when its payment was committed returns, or it is interrupted. -/
theorem found_returns {actions : List (service deployment).Action} {first last : (service deployment).State}
    {outcome : Except Error PaymentDTO} {raised : Error}
    (executed : Machine.runFrom (Machine.fresh World.initial) actions = some first)
    (path : Machine.Path (fun _ _ => True) first last) (absent : first.phase run = .absent)
    (ended : Ended last run (.get ⟨key⟩) outcome) (found : (first.shared.cell .payments key).committed = some row)
    (failed : outcome = .error raised) : Disturbed first last run raised := by
  have reached := Machine.Path.of_runFrom actions executed
  rcases created_by executed found with ⟨creator, command, _, requested⟩
  rcases requested.loads with ⟨payment, load⟩
  have begins : forall before : (service deployment).State, Machine.Path (fun _ _ => True) first before ->
      before.phase run = .absent ->
      (present_run run key row : (payment_discipline deployment).Assertion run) before.shared := by
    intro before earlier unstarted
    have reached' := reached.trans earlier
    rcases ((payment_verified deployment).evolves reached earlier).grows key row found with ⟨later, found', grows⟩
    exact ⟨(((payment_verified deployment).sound reached').absent run unstarted).1,
      absent_accepting reached' unstarted, later, found', grows⟩
  rcases ((ended_holds reached path absent ended (fun _ => rfl) begins (found_triple load)).2 raised failed).2 with
    ⟨interruption, interrupted⟩
  subst failed
  rcases path.raises_between absent (fun _ choice _ known => ⟨choice, known⟩) (read_disturbed first last run ⟨key⟩)
    ended with disturbed | unlike
  · exact disturbed
  · exact absurd interrupted (unlike interruption)

/-- The body of a response shows what was ordered. -/
structure DisplaysOrder (body : PaymentResponse) (row : PaymentModel) : Prop where
  payment_id : body.payment_id = row.id
  amount : body.amount = row.amount
  currency : body.currency = row.currency
  description : body.description = row.description
  metadata : body.metadata = row.metadata
  idempotency_key : body.idempotency_key = row.idempotency_key
  webhook_url : body.webhook_url = row.webhook_url
  created_at : body.created_at = row.created_at

theorem displays_order {dto : PaymentDTO} {body : PaymentResponse} (mapped : to_payment_response dto = some body)
    (shows : ShowsOrder dto row) : DisplaysOrder body row := by
  unfold to_payment_response at mapped
  rcases Option.bind_eq_some_iff.mp mapped with ⟨attempts, _, built⟩
  split at built
  · cases built
    exact ⟨shows.payment_id, shows.amount, shows.currency, shows.description, shows.metadata, shows.idempotency_key,
      shows.webhook_url, shows.created_at⟩
  · cases built

/-- What the response to a read that was started after the first state means in the last one. -/
structure ReadAnswered (first last : (service deployment).State) (run : RunId) (key : UUID) (outcome : Except Error PaymentDTO)
    (response : Response) : Prop where
  status : response.status_code = 200 ∨ response.status_code = 404 ∨ response.status_code = 500
  shown : response.status_code = 200 -> Exists fun body => Exists fun row => response.content = .payment body ∧
    (last.shared.cell .payments key).committed = some row ∧ DisplaysOrder body row
  /-- A payment that was there is not reported as missing. -/
  missing : response.status_code = 404 -> (first.shared.cell .payments key).committed = none ∧
    Exists fun text => response.content = .domain_error "NOT_FOUND" text [("payment_id", uuid_text key)]
  failed : response.status_code = 500 -> response = handle_unhandled "none"
  /-- For a payment that was there only an interruption, or a value that is not an object, stands in the way. -/
  found : forall row, (first.shared.cell .payments key).committed = some row -> response.status_code = 200 ∨
    (Exists fun error => outcome = .error error ∧ Disturbed first last run error) ∨
    Exists fun dto => outcome = .ok dto ∧ to_payment_response dto = none

/-- What is promised to whoever reads a payment after it has been acknowledged. -/
def ReadsOwn (first : (service deployment).State) (key : UUID) (response : Response) : Prop :=
  forall creator command created, Ended first creator (.create command) (.ok created) -> created.payment_id = key ->
    response.status_code ≠ 404 ∧ forall body, response.content = .payment body ->
      body.idempotency_key = command.idempotency_key ∧ body.created_at = created.created_at ∧
        body.currency = created.currency ∧ body.amount.value = created.amount.value

/-- An acknowledged payment is committed, as the client was told. -/
theorem acknowledged {state : (service deployment).State} {creator : RunId} {created : PaymentDTO}
    (reached : Machine.Reachable (fun _ _ => True) World.initial state)
    (ended : Ended state creator (.create command) (.ok created)) : Exists fun row =>
      (state.shared.cell .payments created.payment_id).committed = some row ∧
        row.idempotency_key = command.idempotency_key ∧ Tells created row := by
  have kept := (payment_verified deployment).invariant reached
  have told : Told command.idempotency_key created state.shared :=
    (creation_verified deployment).returned (creation_reachable reached) ended
  rcases told with ⟨key, row, found, named, tells⟩
  have own : row.id = key := kept.keyed .payments key row (.committed found)
  rw [tells.payment_id, own]
  exact ⟨row, found, named, tells⟩

section

variable {actions : List (service deployment).Action} {first last : (service deployment).State}
  {incoming : Incoming} {outcome : Except Error PaymentDTO} {response : Response}

theorem ReadAnswered.of_failed (stands : forall row, (first.shared.cell .payments key).committed = some row ->
      (Exists fun error => outcome = .error error ∧ Disturbed first last run error) ∨
        Exists fun dto => outcome = .ok dto ∧ to_payment_response dto = none) :
    ReadAnswered first last run key outcome (handle_unhandled "none") ∧ ReadsOwn first key (handle_unhandled "none") where
  left :=
    { status := .inr (.inr rfl)
      shown := fun impossible => by simp [handle_unhandled] at impossible
      missing := fun impossible => by simp [handle_unhandled] at impossible
      failed := fun _ => rfl
      found := fun row found => .inr (stands row found) }
  right := fun _ _ _ _ _ => ⟨by simp [handle_unhandled], fun _ impossible => by simp [handle_unhandled] at impossible⟩

theorem ReadAnswered.of_missing (reached : Machine.Reachable (fun _ _ => True) World.initial first)
    (vacant : (first.shared.cell .payments key).committed = none)
    (same : Exists fun text => response =
      ⟨404, .domain_error "NOT_FOUND" text [("payment_id", uuid_text key)], identities incoming⟩) :
    ReadAnswered first last run key outcome response ∧ ReadsOwn first key response := by
  rcases same with ⟨text, rfl⟩
  refine ⟨⟨.inr (.inl rfl), fun impossible => by simp at impossible, fun _ => ⟨vacant, text, rfl⟩,
    fun impossible => by simp at impossible, fun row found => ?_⟩, fun creator command created acknowledgement same => ?_⟩
  · rw [vacant] at found
    cases found
  · rcases acknowledged reached acknowledgement with ⟨row, present, _⟩
    rw [same, vacant] at present
    cases present

theorem ReadAnswered.of_shown {body : PaymentResponse}
    (reached : Machine.Reachable (fun _ _ => True) World.initial first) (path : Machine.Path (fun _ _ => True) first last)
    (found : (last.shared.cell .payments key).committed = some row) (displays : DisplaysOrder body row) :
    ReadAnswered first last run key outcome ⟨200, .payment body, identities incoming⟩ ∧
      ReadsOwn first key ⟨200, .payment body, identities incoming⟩ := by
  refine ⟨⟨.inl rfl, fun _ => ⟨body, row, rfl, found, displays⟩, fun impossible => by simp at impossible,
    fun impossible => by simp at impossible, fun _ _ => .inl rfl⟩,
    fun creator command created acknowledgement same => ⟨by simp, fun shown content => ?_⟩⟩
  cases content
  rcases acknowledged reached acknowledgement with ⟨before, present, named, tells⟩
  rw [same] at present
  rcases ((payment_verified deployment).evolves reached path).grows key before present with ⟨later, found', grows⟩
  cases found.symm.trans found'
  have told := tells.of_origin grows.origin
  exact ⟨displays.idempotency_key.trans ((idempotency_key_of_origin grows.origin).trans named),
    displays.created_at.trans told.created_at.symm, displays.currency.trans told.currency.symm,
    (congrArg Decimal.value displays.amount).trans told.amount.symm⟩

/-- A read is answered by 200 with the order that is committed, by 404 or by
500, and a payment that has been acknowledged before can be read. -/
theorem reads_answered {settings : ApiSettings}
    (executed : Machine.runFrom (Machine.fresh World.initial) actions = some first)
    (path : Machine.Path (fun _ _ => True) first last) (absent : first.phase run = .absent)
    (ended : Ended last run (.get ⟨key⟩) outcome)
    (answered : respond settings incoming (GetPayment.result outcome) = some response) :
    ReadAnswered first last run key outcome response ∧ ReadsOwn first key response := by
  have reached := Machine.Path.of_runFrom actions executed
  have returns := fun row raised => @found_returns deployment run key row actions first last outcome raised executed path
    absent ended
  cases outcome with
  | ok dto =>
      rw [GetPayment.result] at answered
      cases mapped : to_payment_response dto with
      | none =>
          rw [mapped] at answered
          cases answered
          exact ReadAnswered.of_failed (fun _ _ => .inr ⟨dto, rfl, mapped⟩)
      | some body =>
          rw [mapped] at answered
          cases answered
          rcases reads_since reached path absent ended with ⟨one, two, row, _, reads⟩
          rcases reads.shows with ⟨payment, load, rfl⟩
          rcases ((payment_verified deployment).evolves reads.reached (reads.between.trans reads.later)).grows key row
            reads.found with ⟨later, found, grows⟩
          exact ReadAnswered.of_shown reached path found
            (displays_order mapped ((shows_order load _).of_origin grows.origin))
  | error error =>
      have failure : ReadFailure key error :=
        Machine.Path.raises (fun _ _ _ _ _ _ ran => (service_executed ran).external) (reached.trans path)
          (read_failure ⟨key⟩) ended
      cases failure with
      | missing =>
          have vacant : (first.shared.cell .payments key).committed = none := by
            cases found : (first.shared.cell .payments key).committed with
            | none => rfl
            | some row =>
                rcases returns row _ found rfl with ⟨_, _, interruption, _, same, _⟩
                cases interruption <;> cases same
          have coded : code (.paymentNotFound key) = some "NOT_FOUND" := rfl
          rcases @respond_domain settings incoming _ _ coded with ⟨text, told⟩
          cases told.symm.trans answered
          exact ReadAnswered.of_missing reached vacant ⟨text, rfl⟩
      | unreported _ uncoded =>
          rcases respond_unhandled uncoded answered with ⟨rfl, _⟩
          exact ReadAnswered.of_failed (fun row found => .inl ⟨error, rfl, returns row error found rfl⟩)

end

/-- Run 1 reads the payment that run 0 has been told to have created. -/
theorem own_order_read : Exists fun first : (service sample_deployment).State =>
    Exists fun last : (service sample_deployment).State => Exists fun outcome => Exists fun response =>
      response.status_code = 200 ∧ ReadAnswered first last 1 1 outcome response ∧ ReadsOwn first 1 response := by
  have shown : (handled.bind (fun command =>
      (Machine.runFrom (Machine.fresh World.initial) (creating_for command)).bind
        (fun first => (Machine.runFrom first (reading_once 1)).bind
          (fun last => (read_dto 1 last).map (fun dto => (to_payment_response dto).isSome))))) = some true := by
    decide +kernel
  rcases Option.bind_eq_some_iff.mp shown with ⟨command, received, shown⟩
  rcases Option.bind_eq_some_iff.mp shown with ⟨first, ran, shown⟩
  rcases Option.bind_eq_some_iff.mp shown with ⟨last, ran', shown⟩
  rcases Option.map_eq_some_iff.mp shown with ⟨dto, known, mapped⟩
  rcases Option.isSome_iff_exists.mp mapped with ⟨body, mapped⟩
  have absent : first.phase 1 = .absent := by
    rcases Option.bind_eq_some_iff.mp ran' with ⟨started, taken, _⟩
    exact Machine.absent_of_start taken
  have answered : respond sample_api one_euro.incoming (GetPayment.result (.ok dto)) =
      some (one_euro.incoming.identified ⟨200, .payment body, []⟩) := by
    rw [GetPayment.result, mapped]
    rfl
  exact ⟨first, last, .ok dto, _, rfl,
    reads_answered ran (Machine.Path.of_runFrom _ ran') absent (of_read_dto known) answered⟩

end Properties
end Payments

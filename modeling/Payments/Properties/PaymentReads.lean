import Payments.Properties.PaymentFinality

namespace Payments
namespace Properties

open Concurrency Domain Infrastructure Application Prog UnitOfWork Payments.System

/-!
# What a read of a payment returns

The payment and its attempts are read by two statements, and at READ COMMITTED
each of them sees what is committed when it is executed.  So a read is traced
back to two states, and it shows one state of the database if and only if the
payment has not been ended between them.
-/

variable {deployment : Deployment} {world : World} {run : RunId} {key : UUID} {dto : PaymentDTO}

/-! ## Attempts of committed payments -/

/-- The committed attempts of a payment, in the order of the query. -/
def committed_attempts (key : UUID) (world : World) : List PaymentAttempt :=
  (((world.tables .payment_attempts).committedRows (Query.attempts_by_payment_id key).condition).insertionSort
    (fun left right => (Query.attempts_by_payment_id key).before left right)).map PaymentAttemptModel.to_domain

/-- Without attempts of the payment the query finds none. -/
theorem Untried.committed_attempts (untried : Untried key world) : Properties.committed_attempts key world = [] := by
  have none_selected : (world.tables .payment_attempts).committedRows
      (Query.attempts_by_payment_id key).condition = [] := by
    refine List.filter_eq_nil_iff.mpr (fun found listed matched => ?_)
    rcases List.mem_filterMap.mp listed with ⟨id, _, committed⟩
    exact untried.attempts id found committed (of_decide_eq_true matched)
  rw [Properties.committed_attempts, none_selected]
  rfl

/-- The only attempt of the payment is what the query finds. -/
theorem Tried.committed_attempts {status : PaymentStatus} (tried : Tried key status world) :
    Exists fun attempt => Properties.committed_attempts key world = [attempt] ∧ attempt.status.value = status.value := by
  rcases tried.attempt with ⟨attempt, ⟨id, found, selected, only⟩, _, named⟩
  have alone : forall other row, ((world.tables .payment_attempts).cell other).committed = some row ->
      (Query.attempts_by_payment_id key).condition row = true -> other = id :=
    fun other row committed matched => only other row committed (of_decide_eq_true matched)
  have committed : ((world.tables .payment_attempts).cell id).committed = some attempt := found
  have single : (world.tables .payment_attempts).committedRows (Query.attempts_by_payment_id key).condition =
      [attempt] := by
    rw [Table.committedRows_at alone, committed]
    exact if_pos (decide_eq_true selected)
  refine ⟨attempt.to_domain, ?_, named⟩
  rw [Properties.committed_attempts, single]
  rfl

/-! ## Consistent projections -/

/-- The payment with its attempts in one committed state of the database. -/
def Projects (world : World) (key : UUID) (dto : PaymentDTO) : Prop :=
  Exists fun row => Exists fun payment => (world.cell .payments key).committed = some row ∧
    row.to_domain = .ok payment ∧ dto = PaymentDTO.from_payment payment (some (committed_attempts key world))

/-- The status, the time of the end and the attempts say the same. -/
structure Consistent (dto : PaymentDTO) : Prop where
  pending : dto.status = "pending" <-> dto.processed_at = none ∧ dto.attempts = some []
  ended : dto.status = "succeeded" ∨ dto.status = "failed" ->
    Exists fun attempt => dto.attempts = some [attempt] ∧ attempt.status = dto.status

theorem value_ne_pending {status : PaymentStatus} (terminal : status.terminal = true) : status.value ≠ "pending" := by
  cases status <;> simp_all [PaymentStatus.terminal, PaymentStatus.value]

/-- What is read of one shaped payment is consistent. -/
theorem Shaped.consistent {row : PaymentModel} {payment : Payment} (shaped : Shaped key row world)
    (load : row.to_domain = .ok payment) :
    Consistent (PaymentDTO.from_payment payment (some (committed_attempts key world))) := by
  have loaded := loaded_from load
  cases shaped with
  | pending fresh untried =>
      have status : payment.status = .PENDING := loaded.status.trans fresh.status
      have time : payment.processed_at = none := loaded.processed_at.trans fresh.processed_at
      have attempts := untried.committed_attempts
      constructor
      · simp [PaymentDTO.from_payment, status, time, attempts, PaymentStatus.value]
      · simp [PaymentDTO.from_payment, status, PaymentStatus.value]
  | ended final tried =>
      have status : payment.status = row.status := loaded.status
      have time : payment.processed_at = row.processed_at := loaded.processed_at
      rcases tried.committed_attempts with ⟨attempt, attempts, named⟩
      constructor
      · constructor
        · intro pending
          exact absurd ((congrArg PaymentStatus.value status).symm.trans pending) (value_ne_pending final.terminal)
        · rintro ⟨_, none⟩
          simp [PaymentDTO.from_payment, attempts] at none
      · intro _
        exact ⟨_, by rw [PaymentDTO.from_payment, attempts]; rfl, by rw [AttemptDTO.from_attempt, named, ← status]; rfl⟩

/-! ## The two statements of a read -/

theorem selected_world {name : TableName} {query : Query name} {choice : Choice} {before after : World}
    {rows : List (Row name)}
    (ran : (service deployment).exec run (.select name query) choice before = some (after, .ok rows)) :
    after = before ∧ rows = ((before.tables name).select run query.condition).insertionSort
      (fun left right => query.before left right) := by
  cases service_executed ran with
  | selected => exact ⟨rfl, rfl⟩

/-- The statement of a query of the run, executed at one state of a path. -/
structure Queried (run : RunId) (name : TableName) (query : Query name) (first at_query last : (service deployment).State) :
    Prop where
  earlier : Machine.Path (fun _ _ => True) first at_query
  pending : at_query.pending run = some (.select name query)
  clear : Clear run at_query.shared
  same : last.shared = at_query.shared
  later : Machine.Path (fun _ _ => True) at_query last

/-- A run without locks has been answered with what was committed. -/
theorem queried {name : TableName} {query : Query name} {first last : (service deployment).State}
    {rows : List (Row name)} (clear : Clear run first.shared)
    (evaluates : Evaluates ((payment_discipline deployment).Waits run) ((payment_discipline deployment).Performed run)
      (await (.select name query)) first (.ok rows) last) :
    Exists fun at_query => Queried run name query first at_query last ∧
      rows = ((at_query.shared.tables name).select run query.condition).insertionSort
        (fun left right => query.before left right) := by
  rcases evaluates.of_perform with ⟨before, waits, taken, pending, choice, ran⟩
  rcases selected_world ran with ⟨same, listed⟩
  exact ⟨before, ⟨waits.1, pending, clear.stable waits.2.1, same, taken⟩, listed⟩

/-- A loaded payment is the committed one. -/
theorem queried_payment {first last : (service deployment).State} {payment : Payment}
    (reached : Machine.Reachable (fun _ _ => True) World.initial first) (clear : Clear run first.shared)
    (evaluates : Evaluates ((payment_discipline deployment).Waits run) ((payment_discipline deployment).Performed run)
      (SqlAlchemyPaymentRepository.get key) first (.ok (some payment)) last) :
    Exists fun at_query => Exists fun row => Queried run .payments (.payment_by_id key) first at_query last ∧
      (at_query.shared.cell .payments key).committed = some row ∧ row.to_domain = .ok payment := by
  rcases evaluates.of_bind_ok with ⟨rows, selected, selecting, mapping⟩
  rcases queried clear selecting with ⟨at_query, statement, listed⟩
  have kept := (payment_verified deployment).invariant (reached.trans statement.earlier)
  have named : forall row, (Query.payment_by_id key).condition row = true -> Row.id row = key :=
    fun row matched => of_decide_eq_true matched
  cases rows with
  | nil => cases mapping
  | cons row rest =>
      have found := (selected_payment kept.keyed (statement.clear _) named).mp (listed ▸ List.mem_cons_self)
      rcases Evaluates.of_bind_ok mapping with ⟨loaded, middle, mapped, returned⟩
      rcases mapped.of_ofExcept with ⟨load, rfl⟩
      cases returned
      exact ⟨at_query, row, statement, found.1, load.symm⟩

theorem queried_attempts {first last : (service deployment).State} {attempts : List PaymentAttempt}
    (clear : Clear run first.shared)
    (evaluates : Evaluates ((payment_discipline deployment).Waits run) ((payment_discipline deployment).Performed run)
      (SqlAlchemyAttemptRepository.get_by_payment_id key) first (.ok attempts) last) :
    Exists fun at_query => Queried run .payment_attempts (.attempts_by_payment_id key) first at_query last ∧
      attempts = committed_attempts key at_query.shared := by
  rcases evaluates.of_bind_ok with ⟨rows, selected, selecting, mapping⟩
  rcases queried clear selecting with ⟨at_query, statement, listed⟩
  cases mapping
  refine ⟨at_query, statement, ?_⟩
  rw [listed, committed_attempts, Table.select_of_unlocked (statement.clear .payment_attempts)]

/-- A read has seen the payment in the first state and the attempts in the second one. -/
structure Reads (run : RunId) (key : UUID) (first second last : (service deployment).State) (row : PaymentModel)
    (dto : PaymentDTO) : Prop where
  reached : Machine.Reachable (fun _ _ => True) World.initial first
  between : Machine.Path (fun _ _ => True) first second
  later : Machine.Path (fun _ _ => True) second last
  selecting_payment : first.pending run = some (.select .payments (.payment_by_id key))
  selecting_attempts : second.pending run = some (.select .payment_attempts (.attempts_by_payment_id key))
  found : (first.shared.cell .payments key).committed = some row
  shows : Exists fun payment => row.to_domain = .ok payment ∧
    dto = PaymentDTO.from_payment payment (some (committed_attempts key second.shared))

/-- A read that was started after some state has executed its two statements after it. -/
theorem reads_since {earlier state : (service deployment).State}
    (reached : Machine.Reachable (fun _ _ => True) World.initial earlier)
    (path : Machine.Path (fun _ _ => True) earlier state) (absent : earlier.phase run = .absent) {query : GetPaymentQuery}
    (returned : state.phase run = .running (.get query) (.ret dto)) :
    exists first second row, Machine.Path (fun _ _ => True) earlier first ∧
      Reads run query.payment_id first second state row dto := by
  rcases path.started absent returned with ⟨before, after, starts⟩
  have started : Machine.Path (fun _ _ => True) earlier after := starts.earlier.step _ starts.taken trivial
  have begun : Machine.Reachable (fun _ _ => True) World.initial after := reached.trans started
  have holds := (payment_verified deployment).sound begun
  have clear : Clear run after.shared := by
    have silent := ((payment_verified deployment).sound (reached.trans starts.earlier)).absent run starts.absent
    have same : after.shared = before.shared := (Option.some.inj starts.started).symm
    rw [same]
    exact silent.1
  rcases holds.evaluates starts.later starts.running returned with ⟨ended, evaluates, later⟩
  rcases evaluated_body evaluates with ⟨finished, body, closed⟩
  rcases body.of_bind_ok with ⟨found, loaded, getting, rest⟩
  cases found with
  | none => cases rest
  | some payment =>
      rcases queried_payment begun clear getting with ⟨first, row, statement, committed, load⟩
      have clear' : Clear run loaded.shared := statement.same ▸ statement.clear
      rcases Evaluates.of_bind_ok rest with ⟨attempts, listed, listing, returning⟩
      rcases queried_attempts clear' listing with ⟨second, statement', attempted⟩
      cases returning
      refine ⟨first, second, row, started.trans statement.earlier, begun.trans statement.earlier,
        statement.later.trans statement'.earlier, statement'.later.trans (closed.trans later), statement.pending,
        statement'.pending, committed, payment, load, ?_⟩
      rw [attempted]

/-- A read that has returned has executed its two statements. -/
theorem reads_of_returned {state : (service deployment).State}
    (reached : Machine.Reachable (fun _ _ => True) World.initial state) {query : GetPaymentQuery}
    (returned : state.phase run = .running (.get query) (.ret dto)) :
    exists first second row, Reads run query.payment_id first second state row dto := by
  rcases reads_since .refl reached rfl returned with ⟨first, second, row, _, reads⟩
  exact ⟨first, second, row, reads⟩

/-- The projection of any committed state is consistent. -/
theorem Projects.consistent {state : (service deployment).State} (projects : Projects state.shared key dto)
    (reached : Machine.Reachable (fun _ _ => True) World.initial state) : Consistent dto := by
  rcases projects with ⟨row, payment, found, load, rfl⟩
  exact (((payment_verified deployment).invariant reached).shaped key row found).consistent load

/-- A payment that was pending and has been ended before its attempts were read. -/
theorem Tried.torn {row later : PaymentModel} {payment : Payment} (tried : Tried key later.status world)
    (fresh : Fresh row) (load : row.to_domain = .ok payment)
    (shows : dto = PaymentDTO.from_payment payment (some (Properties.committed_attempts key world))) :
    dto.status = "pending" ∧ dto.processed_at = none ∧
      Exists fun attempt => dto.attempts = some [attempt] ∧ attempt.status = later.status.value := by
  have loaded := loaded_from load
  have status : payment.status = .PENDING := loaded.status.trans fresh.status
  rcases tried.committed_attempts with ⟨attempt, attempts, named⟩
  subst shows
  refine ⟨congrArg PaymentStatus.value status, loaded.processed_at.trans fresh.processed_at,
    AttemptDTO.from_attempt attempt, ?_, named⟩
  rw [PaymentDTO.from_payment, attempts]
  rfl

/-- A read shows the payment of its first statement with the attempts of its
second one: one committed state, unless the payment has been ended between
them, and then a pending payment with the attempt of its end. -/
theorem reads_consistent_iff {state : (service deployment).State}
    (reached : Machine.Reachable (fun _ _ => True) World.initial state) {query : GetPaymentQuery}
    (returned : state.phase run = .running (.get query) (.ret dto)) :
    exists first second row later, Reads run query.payment_id first second state row dto ∧
      (second.shared.cell .payments query.payment_id).committed = some later ∧
      (Consistent dto <-> later = row) ∧
      ((Exists fun other : (service deployment).State => Machine.Reachable (fun _ _ => True) World.initial other ∧
        Projects other.shared query.payment_id dto) <-> later = row) ∧
      (later = row -> Projects second.shared query.payment_id dto) ∧
      (later ≠ row -> Final later ∧ dto.status = "pending" ∧ dto.processed_at = none ∧
        Exists fun attempt => dto.attempts = some [attempt] ∧ attempt.status = later.status.value) := by
  rcases reads_of_returned reached returned with ⟨first, second, row, reads⟩
  have reached' : Machine.Reachable (fun _ _ => True) World.initial second := reads.reached.trans reads.between
  have kept := (payment_verified deployment).invariant reached'
  rcases ((payment_verified deployment).evolves reads.reached reads.between).grows query.payment_id row reads.found with
    ⟨later, found, grows⟩
  rcases reads.shows with ⟨payment, load, shows⟩
  have whole : later = row -> Projects second.shared query.payment_id dto :=
    fun same => ⟨row, payment, same ▸ found, load, shows⟩
  have torn : later ≠ row -> Final later ∧ dto.status = "pending" ∧ dto.processed_at = none ∧
      Exists fun attempt => dto.attempts = some [attempt] ∧ attempt.status = later.status.value := by
    intro different
    cases grows with
    | same unchanged => exact absurd unchanged different
    | ended fresh final origins =>
        cases kept.shaped query.payment_id later found with
        | pending fresh' => exact absurd final fresh'.not_final
        | ended _ tried => exact ⟨final, tried.torn fresh load shows⟩
  have untorn : Consistent dto -> later = row := by
    intro consistent
    by_contra different
    rcases torn different with ⟨_, status, _, attempt, attempts, _⟩
    have none := (consistent.pending.mp status).2
    rw [attempts] at none
    cases none
  refine ⟨first, second, row, later, reads, found, ⟨untorn, fun same => (whole same).consistent reached'⟩, ⟨?_, ?_⟩, whole,
    torn⟩
  · rintro ⟨other, reached'', projects⟩
    exact untorn (projects.consistent reached'')
  · exact fun same => ⟨second, reached', whole same⟩

/-! ## A read that the end of the payment overtakes -/

/-- Run 2 has read the payment while run 1 was charging it, and reads the
attempts after run 1 has committed. -/
def overtaken : List (service sample_deployment).Action :=
  creating ++ charging 1 3 ++ [.start 2 (.get ⟨1⟩), .perform 2 (.calm 20 0)] ++ settling 1 4 ++
    [.perform 2 (.calm 40 0), .perform 2 (.calm 40 0)]

/-- What run 2 has returned of payment 1. -/
def returned_dto (state : (service sample_deployment).State) : Option PaymentDTO :=
  match state.phase 2 with
  | .running (.get ⟨1⟩) (.ret dto) => some dto
  | _ => none

theorem returned_of_dto {state : (service sample_deployment).State} (known : returned_dto state = some dto) :
    state.phase 2 = .running (.get ⟨1⟩) (.ret dto) := by
  unfold returned_dto at known
  split at known
  · cases known
    assumption
  · cases known

theorem overtaken_reached : Exists fun state : (service sample_deployment).State => Exists fun dto =>
    Machine.Reachable (fun _ _ => True) World.initial state ∧ state.phase 2 = .running (.get ⟨1⟩) (.ret dto) ∧
      dto.status = "pending" ∧ ¬ Consistent dto := by
  have read : (Machine.runFrom (Machine.fresh World.initial) overtaken).map
      (fun state => (returned_dto state).map (fun dto => (dto.status, dto.attempts.map List.length))) =
      some (some ("pending", some 1)) := by decide +kernel
  rcases Option.map_eq_some_iff.mp read with ⟨state, ran, found⟩
  rcases Option.map_eq_some_iff.mp found with ⟨dto, known, shown⟩
  rcases Prod.mk.inj shown with ⟨status, attempts⟩
  refine ⟨state, dto, Machine.Path.of_runFrom _ ran, returned_of_dto known, status, fun consistent => ?_⟩
  rw [(consistent.pending.mp status).2] at attempts
  cases attempts

/-- Not every read returns the projection of a committed state. -/
theorem read_torn : Exists fun state : (service sample_deployment).State => Exists fun dto =>
    Machine.Reachable (fun _ _ => True) World.initial state ∧ state.phase 2 = .running (.get ⟨1⟩) (.ret dto) ∧
      ¬ Consistent dto ∧ forall other : (service sample_deployment).State,
        Machine.Reachable (fun _ _ => True) World.initial other -> ¬ Projects other.shared 1 dto := by
  rcases overtaken_reached with ⟨state, dto, reached, returned, _, inconsistent⟩
  exact ⟨state, dto, reached, returned, inconsistent,
    fun other reached' projects => inconsistent (projects.consistent reached')⟩

theorem overtaken_read : Exists fun state : (service sample_deployment).State => Exists fun dto =>
    exists first second row later, Reads 2 1 first second state row dto ∧
      (second.shared.cell .payments 1).committed = some later ∧ Final later ∧ dto.status = "pending" := by
  rcases overtaken_reached with ⟨state, dto, reached, returned, status, inconsistent⟩
  rcases reads_consistent_iff reached returned with ⟨first, second, row, later, reads, found, consistent, _, _, torn⟩
  have different : later ≠ row := fun same => inconsistent (consistent.mpr same)
  exact ⟨state, dto, first, second, row, later, reads, found, (torn different).1, status⟩

end Properties
end Payments

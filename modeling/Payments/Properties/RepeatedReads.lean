import Payments.Properties.PaymentLedger

namespace Payments
namespace Properties

open Concurrency Domain Infrastructure Application Prog UnitOfWork Payments.System

/-!
# Reading a payment again

Whoever polls a payment sees what was ordered without change, and sees its end
once and for all: after one read has shown that the payment has ended, every
read that is started later returns exactly the same.
-/

variable {deployment : Deployment} {run other : RunId} {key : UUID} {dto dto' : PaymentDTO}
  {row row' : PaymentModel} {payment : Payment}

/-! ## The order in a read -/

/-- What a read shows of the order is what the row says. -/
structure ShowsOrder (dto : PaymentDTO) (row : PaymentModel) : Prop where
  payment_id : dto.payment_id = row.id
  amount : dto.amount = row.amount
  currency : dto.currency = row.currency
  description : dto.description = row.description
  metadata : dto.metadata = row.metadata
  idempotency_key : dto.idempotency_key = row.idempotency_key
  webhook_url : dto.webhook_url = row.webhook_url
  created_at : dto.created_at = row.created_at

theorem ShowsOrder.of_origin (shows : ShowsOrder dto row) (same : origin row' = origin row) : ShowsOrder dto row' := by
  rcases row with ⟨_, _, _, _, _, _, _, _, _, _, _, _⟩
  rcases row' with ⟨_, _, _, _, _, _, _, _, _, _, _, _⟩
  cases same
  exact ⟨shows.payment_id, shows.amount, shows.currency, shows.description, shows.metadata, shows.idempotency_key,
    shows.webhook_url, shows.created_at⟩

theorem shows_order (load : row.to_domain = .ok payment) (attempts : Option (List PaymentAttempt)) :
    ShowsOrder (PaymentDTO.from_payment payment attempts) row := by
  have orders := (loaded_from load).orders
  unfold PaymentModel.to_domain at load
  rcases bind_ok load with ⟨idempotency_key, _, load⟩
  rcases bind_ok load with ⟨money, _, load⟩
  cases load
  exact ⟨rfl, orders.amount, orders.currency, rfl, rfl, orders.idempotency_key, rfl, rfl⟩

/-! ## The end in a read -/

theorem terminal_of_value {status : PaymentStatus} (shown : status.value ≠ "pending") (pending : status ≠ .PROCESSING) :
    status.terminal = true := by
  cases status with
  | PENDING => exact absurd rfl shown
  | PROCESSING => exact absurd rfl pending
  | SUCCEEDED => rfl
  | FAILED => rfl

/-- Two states between which a payment that has ended shows the same attempts. -/
theorem attempts_settled {first last : (service deployment).State}
    (reached : Machine.Reachable (fun _ _ => True) World.initial first)
    (path : Machine.Path (fun _ _ => True) first last) (found : (first.shared.cell .payments key).committed = some row)
    (final : Final row) : committed_attempts key last.shared = committed_attempts key first.shared := by
  rcases ((payment_verified deployment).evolves reached path).grows key row found with ⟨later, found', grows⟩
  cases grows.of_final final
  rcases (service_refines deployment).run reached path with ⟨journal, books⟩
  rcases bookkeeping_grows books key _ (ledger_found found) with ⟨account, known, stays⟩
  have same := stays.of_settled (settlement_ended final.terminal)
  rw [ledger_found found'] at known
  have settlements : settlement key row last.shared = settlement key row first.shared :=
    congrArg Account.outcome (Option.some.inj known |>.trans same)
  rw [settlement_ended final.terminal, settlement_ended final.terminal] at settlements
  exact congrArg Settlement.attempts (Option.some.inj settlements)

/-- A read of a payment that has ended before its two statements. -/
theorem Reads.settled {earlier first second last : (service deployment).State}
    (reads : Reads run key first second last row' dto')
    (reached : Machine.Reachable (fun _ _ => True) World.initial earlier)
    (path : Machine.Path (fun _ _ => True) earlier first)
    (found : (earlier.shared.cell .payments key).committed = some row) (final : Final row)
    (load : row.to_domain = .ok payment) :
    dto' = PaymentDTO.from_payment payment (some (committed_attempts key earlier.shared)) := by
  rcases ((payment_verified deployment).evolves reached path).grows key row found with ⟨later, found', grows⟩
  cases grows.of_final final
  cases reads.found.symm.trans found'
  rcases reads.shows with ⟨payment', load', shows⟩
  cases load.symm.trans load'
  rw [shows, attempts_settled reached (path.trans reads.between) found final]

/-! ## Two reads -/

/-- Two reads of one payment show one order.  If the second one was started
when the first one had returned, and the first one has shown that the payment
has ended, the second one returns the same. -/
theorem reads_repeat {first last : (service deployment).State}
    (reached : Machine.Reachable (fun _ _ => True) World.initial first) {query query' : GetPaymentQuery}
    (returned : first.phase run = .running (.get query) (.ret dto))
    (path : Machine.Path (fun _ _ => True) first last)
    (again : last.phase other = .running (.get query') (.ret dto')) (same : query'.payment_id = query.payment_id) :
    (Exists fun row => ShowsOrder dto row ∧ ShowsOrder dto' row) ∧
      (first.phase other = .absent -> dto.status ≠ "pending" -> dto' = dto) := by
  rcases query with ⟨key⟩
  rcases query' with ⟨key'⟩
  cases same
  rcases reads_of_returned reached returned with ⟨one, two, row, reads⟩
  rcases reads.shows with ⟨payment, load, shows⟩
  have until_last : Machine.Path (fun _ _ => True) one last := (reads.between.trans reads.later).trans path
  refine ⟨?_, fun absent shown => ?_⟩
  · rcases reads_of_returned (reached.trans path) again with ⟨one', two', row', reads'⟩
    rcases reads'.shows with ⟨payment', load', shows'⟩
    rcases ((payment_verified deployment).evolves reads.reached until_last).grows key row reads.found with
      ⟨later, found, grows⟩
    rcases ((payment_verified deployment).evolves reads'.reached (reads'.between.trans reads'.later)).grows key row'
      reads'.found with ⟨later', found', grows'⟩
    cases found.symm.trans found'
    rw [shows, shows']
    exact ⟨later, (shows_order load _).of_origin grows.origin, (shows_order load' _).of_origin grows'.origin⟩
  · rcases reads_since reached path absent again with ⟨one', two', row', since, reads'⟩
    have joint := payment_tables_joint reads.reached reads.found
    have status : dto.status = row.status.value := by
      rw [shows]
      exact congrArg PaymentStatus.value (loaded_from load).status
    have terminal : row.status.terminal = true := terminal_of_value (status ▸ shown) joint.2.2.1
    have final : Final row := by
      rcases joint.2.1 with ⟨⟨fresh, _⟩, _⟩ | ⟨⟨final, _⟩, _⟩
      · cases fresh.unsettled.symm.trans terminal
      · exact final
    have until_first : Machine.Path (fun _ _ => True) one one' := (reads.between.trans reads.later).trans since
    rw [reads'.settled reads.reached until_first reads.found final load, shows,
      attempts_settled reads.reached reads.between reads.found final]

/-- A run reads payment 1 without being overtaken. -/
def reading_once (run : RunId) : List (service sample_deployment).Action :=
  [.start run (.get ⟨1⟩), .perform run (.calm 40 0), .perform run (.calm 40 0), .perform run (.calm 40 0)]

/-- What a run has returned of payment 1. -/
def read_dto (run : RunId) (state : (service sample_deployment).State) : Option PaymentDTO :=
  match state.phase run with
  | .running (.get ⟨1⟩) (.ret dto) => some dto
  | _ => none

theorem of_read_dto {state : (service sample_deployment).State} (known : read_dto run state = some dto) :
    state.phase run = .running (.get ⟨1⟩) (.ret dto) := by
  unfold read_dto at known
  split at known
  · cases known
    assumption
  · cases known

theorem succeeded_payment_read_again : exists (first last : (service sample_deployment).State) (dto : PaymentDTO),
    Machine.Path (fun _ _ => True) first last ∧ first.phase 2 = .running (.get ⟨1⟩) (.ret dto) ∧
      last.phase 3 = .running (.get ⟨1⟩) (.ret dto) ∧ dto.status = "succeeded" := by
  have read : (Machine.runFrom (Machine.fresh World.initial)
      (creating ++ charging 1 3 ++ settling 1 4 ++ reading_once 2)).bind
        (fun first => (Machine.runFrom first (reading_once 3)).map (fun last => ((read_dto 2 first).map PaymentDTO.status,
          (read_dto 3 last).isSome))) = some (some "succeeded", true) := by decide +kernel
  rcases Option.bind_eq_some_iff.mp read with ⟨first, ran, read⟩
  rcases Option.map_eq_some_iff.mp read with ⟨last, ran', shown⟩
  rcases Option.map_eq_some_iff.mp (congrArg Prod.fst shown) with ⟨dto, known, status⟩
  rcases Option.isSome_iff_exists.mp (congrArg Prod.snd shown) with ⟨dto', known'⟩
  have absent : first.phase 3 = .absent := by
    rcases Option.bind_eq_some_iff.mp ran' with ⟨started, taken, _⟩
    exact Machine.absent_of_start taken
  have path : Machine.Path (fun _ _ => True) first last := .of_runFrom _ ran'
  have repeated := reads_repeat (Machine.Path.of_runFrom _ ran) (of_read_dto known) path (of_read_dto known') rfl
  have same : dto' = dto := repeated.2 absent (by rw [status]; decide)
  exact ⟨first, last, dto, path, of_read_dto known, same ▸ of_read_dto known', status⟩

end Properties
end Payments

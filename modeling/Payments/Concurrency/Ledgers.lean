import Mathlib.Logic.Function.Basic
import Payments.Concurrency.Refinement

namespace Payments
namespace Concurrency

/-!
# Ledgers

A ledger holds accounts.  An account is opened once, with an order whose key no
other account has, and it is settled once.  Nothing else ever happens to it, so
the journal of a ledger that was empty at first and the ledger itself say the
same.
-/

/-- What has been ordered, and what has come of it. -/
structure Account (Order Outcome : Type) where
  order : Order
  outcome : Option Outcome

abbrev AccountBook (Id Order Outcome : Type) := Id -> Option (Account Order Outcome)

inductive Booking (Id Order Outcome : Type) where
  | opened (id : Id) (order : Order)
  | settled (id : Id) (outcome : Outcome)

variable {Id Key Order Outcome : Type}

def Booking.id : Booking Id Order Outcome -> Id
  | .opened id _ => id
  | .settled id _ => id

def AccountBook.empty : AccountBook Id Order Outcome := fun _ => none

section

variable [DecidableEq Id] (key : Order -> Key)

/-- The atomic steps of a ledger. -/
inductive Books (ledger : AccountBook Id Order Outcome) :
    Booking Id Order Outcome -> AccountBook Id Order Outcome -> Prop where
  | opened (id : Id) (order : Order) (vacant : ledger id = none)
      (fresh : forall other account, ledger other = some account -> key account.order ≠ key order) :
      Books ledger (.opened id order) (Function.update ledger id (some ⟨order, none⟩))
  | settled (id : Id) (order : Order) (outcome : Outcome) (pending : ledger id = some ⟨order, none⟩) :
      Books ledger (.settled id outcome) (Function.update ledger id (some ⟨order, some outcome⟩))

def bookkeeping : Specification (AccountBook Id Order Outcome) (Booking Id Order Outcome) := ⟨Books key⟩

end

/-! ## Accounts stay -/

/-- A later state of an account. -/
structure Account.Grows (before after : Account Order Outcome) : Prop where
  order : after.order = before.order
  outcome : forall outcome, before.outcome = some outcome -> after.outcome = some outcome

/-- No account disappears, changes its order, or is settled in another way. -/
def AccountBook.Grows (before after : AccountBook Id Order Outcome) : Prop :=
  forall id account, before id = some account -> Exists fun later => after id = some later ∧ account.Grows later

theorem Account.Grows.refl (account : Account Order Outcome) : account.Grows account :=
  ⟨rfl, fun _ settled => settled⟩

theorem Account.Grows.trans {first second third : Account Order Outcome} (before : first.Grows second)
    (after : second.Grows third) : first.Grows third :=
  ⟨after.order.trans before.order, fun outcome settled => after.outcome outcome (before.outcome outcome settled)⟩

/-- A settled account does not change any more. -/
theorem Account.Grows.of_settled {before after : Account Order Outcome} (grows : before.Grows after) {outcome : Outcome}
    (settled : before.outcome = some outcome) : after = before := by
  rcases before with ⟨order, _⟩
  rcases after with ⟨order', _⟩
  cases settled
  cases grows.order
  cases grows.outcome outcome rfl
  rfl

theorem AccountBook.Grows.refl (ledger : AccountBook Id Order Outcome) : ledger.Grows ledger :=
  fun _ account found => ⟨account, found, .refl account⟩

theorem AccountBook.Grows.trans {first second third : AccountBook Id Order Outcome} (before : first.Grows second)
    (after : second.Grows third) : first.Grows third := by
  intro id account found
  rcases before id account found with ⟨middle, found', grows⟩
  rcases after id middle found' with ⟨last, found'', grows'⟩
  exact ⟨last, found'', grows.trans grows'⟩

variable [DecidableEq Id] {key : Order -> Key} {ledger first last : AccountBook Id Order Outcome}
  {booking : Booking Id Order Outcome} {journal : List (Booking Id Order Outcome)}

theorem Books.grows (books : Books key ledger booking last) : ledger.Grows last := by
  intro id account found
  cases books with
  | opened target order vacant fresh =>
      have different : id ≠ target := by
        rintro rfl
        cases vacant.symm.trans found
      exact ⟨account, (Function.update_of_ne different _ _).trans found, .refl account⟩
  | settled target order outcome pending =>
      by_cases here : id = target
      · subst here
        cases pending.symm.trans found
        exact ⟨_, Function.update_self _ _ _, rfl, fun _ impossible => by cases impossible⟩
      · exact ⟨account, (Function.update_of_ne here _ _).trans found, .refl account⟩

theorem bookkeeping_grows (run : (bookkeeping key).Run first journal last) : first.Grows last :=
  run.relates AccountBook.Grows.refl (fun _ _ _ => AccountBook.Grows.trans) (fun _ _ _ books => Books.grows books)

/-! ## One account for a key -/

/-- No two accounts have one key. -/
def AccountBook.Keyed (key : Order -> Key) (ledger : AccountBook Id Order Outcome) : Prop :=
  forall id other account account', ledger id = some account -> ledger other = some account' ->
    key account.order = key account'.order -> id = other

omit [DecidableEq Id] in
theorem AccountBook.keyed_empty : AccountBook.Keyed key (AccountBook.empty : AccountBook Id Order Outcome) :=
  fun _ _ _ _ found => by cases found

/-- The orders of two accounts, before and after a booking. -/
theorem Books.keyed (books : Books key ledger booking last) (keyed : AccountBook.Keyed key ledger) :
    AccountBook.Keyed key last := by
  intro id other account account' found found' same
  cases books with
  | opened target order vacant fresh =>
      by_cases here : id = target
      · by_cases there : other = target
        · exact here.trans there.symm
        · subst here
          cases (Function.update_self _ _ _).symm.trans found
          rw [Function.update_of_ne there] at found'
          exact absurd same.symm (fresh other account' found')
      · rw [Function.update_of_ne here] at found
        by_cases there : other = target
        · subst there
          cases (Function.update_self _ _ _).symm.trans found'
          exact absurd same (fresh id account found)
        · rw [Function.update_of_ne there] at found'
          exact keyed id other account account' found found' same
  | settled target order outcome pending =>
      have before : forall id account, Function.update ledger target (some ⟨order, some outcome⟩) id = some account ->
          Exists fun earlier => ledger id = some earlier ∧ earlier.order = account.order := by
        intro id account found
        by_cases here : id = target
        · subst here
          cases (Function.update_self _ _ _).symm.trans found
          exact ⟨_, pending, rfl⟩
        · rw [Function.update_of_ne here] at found
          exact ⟨account, found, rfl⟩
      rcases before id account found with ⟨earlier, known, order⟩
      rcases before other account' found' with ⟨earlier', known', order'⟩
      exact keyed id other earlier earlier' known known' (by rw [order, order', same])

theorem bookkeeping_keyed (run : (bookkeeping key).Run first journal last) (keyed : AccountBook.Keyed key first) :
    AccountBook.Keyed key last :=
  run.keeps (fun _ _ _ books => Books.keyed books) keyed

/-! ## The journal and the ledger -/

/-- The bookings that have led to an account, newest first. -/
def bookings (id : Id) : Option (Account Order Outcome) -> List (Booking Id Order Outcome)
  | none => []
  | some ⟨order, none⟩ => [.opened id order]
  | some ⟨order, some outcome⟩ => [.settled id outcome, .opened id order]

/-- The bookings of one account in a journal. -/
def about (id : Id) (journal : List (Booking Id Order Outcome)) : List (Booking Id Order Outcome) :=
  journal.filter (fun booking => decide (booking.id = id))

theorem about_cons (id : Id) (booking : Booking Id Order Outcome) (journal : List (Booking Id Order Outcome)) :
    about id (booking :: journal) = if booking.id = id then booking :: about id journal else about id journal := by
  by_cases here : booking.id = id
  · rw [if_pos here]
    exact List.filter_cons_of_pos (decide_eq_true here)
  · rw [if_neg here]
    exact List.filter_cons_of_neg (by rw [decide_eq_true_eq]; exact here)

/-- The journal tells of every account what the ledger holds of it. -/
def Balances (journal : List (Booking Id Order Outcome)) (ledger : AccountBook Id Order Outcome) : Prop :=
  forall id, about id journal = bookings id (ledger id)

theorem Books.balances (books : Books key ledger booking last) (balances : Balances journal ledger) :
    Balances (booking :: journal) last := by
  intro id
  rw [about_cons, balances id]
  cases books with
  | opened target order vacant fresh =>
      by_cases here : target = id
      · subst here
        rw [vacant, Function.update_self]
        exact if_pos rfl
      · rw [Function.update_of_ne (Ne.symm here)]
        exact if_neg here
  | settled target order outcome pending =>
      by_cases here : target = id
      · subst here
        rw [pending, Function.update_self]
        exact if_pos rfl
      · rw [Function.update_of_ne (Ne.symm here)]
        exact if_neg here

theorem bookkeeping_balances (run : (bookkeeping key).Run AccountBook.empty journal last) : Balances journal last := by
  induction run with
  | refl => exact fun _ => rfl
  | step _ books inductionHypothesis => exact Books.balances books inductionHypothesis

omit [DecidableEq Id] in
theorem opened_of_bookings {id : Id} {order : Order} {account : Option (Account Order Outcome)}
    (listed : .opened id order ∈ bookings id account) : Exists fun found => account = some found ∧ found.order = order := by
  rcases account with _ | ⟨ordered, _ | outcome⟩
  · cases listed
  · cases List.mem_singleton.mp listed
    exact ⟨_, rfl, rfl⟩
  · rcases List.mem_cons.mp listed with impossible | listed
    · cases impossible
    · cases List.mem_singleton.mp listed
      exact ⟨_, rfl, rfl⟩

omit [DecidableEq Id] in
theorem settled_of_bookings {id : Id} {outcome : Outcome} {account : Option (Account Order Outcome)}
    (listed : .settled id outcome ∈ bookings id account) :
    Exists fun found => account = some found ∧ found.outcome = some outcome := by
  rcases account with _ | ⟨ordered, _ | settled⟩
  · cases listed
  · cases List.mem_singleton.mp listed
  · rcases List.mem_cons.mp listed with same | listed
    · cases same
      exact ⟨_, rfl, rfl⟩
    · cases List.mem_singleton.mp listed

/-- What the journal says of an account is in the bookings of the account. -/
theorem Balances.listed (balances : Balances journal ledger) (listed : booking ∈ journal) :
    booking ∈ bookings booking.id (ledger booking.id) := by
  rw [← balances booking.id]
  exact List.mem_filter.mpr ⟨listed, decide_eq_true rfl⟩

end Concurrency
end Payments

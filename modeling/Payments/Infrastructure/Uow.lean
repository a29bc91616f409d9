import Payments.Domain.ValueObjects

namespace Payments
namespace Infrastructure

open Domain

/-!
# The unit of work as an object

A handler uses a unit of work in one fixed way, and `UnitOfWork.scope` models
that use.  Here the class itself is modelled, with its two flags, for callers
that write, commit and roll back in any order.

A session is given by the writes of its transaction, and the database by the
writes that it keeps.
-/

variable {Write Event : Type}

structure SqlAlchemyPaymentsUnitOfWork (Write Event : Type) where
  /-- `None` when no session is open. -/
  session : Option (List Write)
  committed : Bool
  rolled_back : Bool
  collected_events : List Event
  /-- What the database keeps. -/
  durable : List Write

namespace SqlAlchemyPaymentsUnitOfWork

def not_started : Error := .runtimeError "UnitOfWork session is not started"

/-- `__aenter__`. -/
def aenter (uow : SqlAlchemyPaymentsUnitOfWork Write Event) : SqlAlchemyPaymentsUnitOfWork Write Event :=
  { uow with session := some [], committed := false, rolled_back := false, collected_events := [] }

def commit (uow : SqlAlchemyPaymentsUnitOfWork Write Event) :
    Except Error (SqlAlchemyPaymentsUnitOfWork Write Event) :=
  match uow.session with
  | none => .error not_started
  | some writes => .ok { uow with session := some [], durable := uow.durable ++ writes, committed := true }

def rollback (uow : SqlAlchemyPaymentsUnitOfWork Write Event) : SqlAlchemyPaymentsUnitOfWork Write Event :=
  if uow.session.isNone || uow.rolled_back then uow
  else { uow with session := some [], rolled_back := true }

/-- `__aexit__`: roll back after an exception, then close the session. -/
def aexit (raised : Bool) (uow : SqlAlchemyPaymentsUnitOfWork Write Event) :
    SqlAlchemyPaymentsUnitOfWork Write Event :=
  let uow := if raised && !uow.committed && !uow.rolled_back then uow.rollback else uow
  { uow with session := none }

/-- A write of a repository, which asks `_session_provider` for the session. -/
def write (written : Write) (uow : SqlAlchemyPaymentsUnitOfWork Write Event) :
    Except Error (SqlAlchemyPaymentsUnitOfWork Write Event) :=
  match uow.session with
  | none => .error not_started
  | some writes => .ok { uow with session := some (writes ++ [written]) }

/-- Put an outbox row for each event into the session. -/
def collect_events (outbox_row : Event -> Write) (events : List Event)
    (uow : SqlAlchemyPaymentsUnitOfWork Write Event) : Except Error (SqlAlchemyPaymentsUnitOfWork Write Event) :=
  match uow.session with
  | none => .error not_started
  | some writes =>
      .ok { uow with
        session := some (writes ++ events.map outbox_row)
        collected_events := uow.collected_events ++ events }

/-- What can be called inside the block. -/
inductive Call (Write Event : Type) where
  | write (written : Write)
  | collect_events (events : List Event)
  | commit
  | rollback

def perform (outbox_row : Event -> Write) (call : Call Write Event)
    (uow : SqlAlchemyPaymentsUnitOfWork Write Event) : Except Error (SqlAlchemyPaymentsUnitOfWork Write Event) :=
  match call with
  | .write written => uow.write written
  | .collect_events events => uow.collect_events outbox_row events
  | .commit => uow.commit
  | .rollback => .ok uow.rollback

/-- The state after entering the block and making some calls, the last one first. -/
def after (outbox_row : Event -> Write) (uow : SqlAlchemyPaymentsUnitOfWork Write Event) :
    List (Call Write Event) -> Except Error (SqlAlchemyPaymentsUnitOfWork Write Event)
  | [] => .ok uow.aenter
  | call :: earlier => (after outbox_row uow earlier).bind (perform outbox_row call)

/-- `async with uow: ...`, left normally or by an exception after the calls. -/
def block (outbox_row : Event -> Write) (raised : Bool) (calls : List (Call Write Event))
    (uow : SqlAlchemyPaymentsUnitOfWork Write Event) : Except Error (SqlAlchemyPaymentsUnitOfWork Write Event) :=
  (after outbox_row uow calls).map (aexit raised)

end SqlAlchemyPaymentsUnitOfWork
end Infrastructure
end Payments

import Mathlib.Algebra.Order.Ring.Rat
import Mathlib.Logic.Function.Basic

namespace Payments
namespace Runtime

/-!
# The rate limiter with a sliding window

`InMemoryRateLimiter` keeps, for each key, the times of the calls it has
allowed, and every call first removes those that have left its own window.
-/

/-- The arguments of one call of `allow`, and what `time.time()` shows there. -/
structure Call where
  key : String
  limit : Int
  window_sec : Rat
  now : Rat

namespace InMemoryRateLimiter

/-- `_store`, a `defaultdict(list)`. -/
abbrev Store := String -> List Rat

def allow (call : Call) (store : Store) : Store × Bool :=
  let calls := store call.key
  let store := Function.update store call.key (calls.filter (fun t => decide (call.now - t < call.window_sec)))
  if call.limit ≤ ((store call.key).length : Int) then (store, false)
  else (Function.update store call.key (store call.key ++ [call.now]), true)

/-- A call with its answer. -/
abbrev Answered := Call × Bool

/-- The store and the answers after a sequence of calls; both lists are newest first. -/
def after : List Call -> Store × List Answered
  | [] => (fun _ => [], [])
  | call :: earlier =>
      let answered := allow call (after earlier).1
      (answered.1, (call, answered.2) :: (after earlier).2)

end InMemoryRateLimiter
end Runtime
end Payments

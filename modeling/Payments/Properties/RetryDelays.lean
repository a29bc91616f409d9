import Mathlib.Order.Bounds.Basic
import Payments.Concurrency.Evaluations
import Payments.Infrastructure.Steps
import Payments.Infrastructure.Workers

namespace Payments
namespace Properties

open Concurrency Domain Infrastructure Application Prog

/-!
# The bounds of the retry delay

The exponential delay is capped first and multiplied by the random factor
afterwards.  It is therefore never below the capped exponential delay, and the
configured maximum bounds it for those attempts only whose delay still has
room for the largest factor.
-/

variable {settings : Settings} {attempts : Nat} {now : Datetime} {delay : Rat}

/-! ## The delays -/

/-- Any answer of an operation, given by some choice of its environment. -/
def performed_anyhow (op : Op) (before : World) (answer : Except Error op.Answer) (after : World) : Prop :=
  exists run choice, World.exec run op choice before = some (after, answer)

/-- The differences between the retry time and `now`, for every value of the
random factor. -/
def delays (settings : Settings) (attempts : Nat) (now : Datetime) : Set Rat :=
  {delay | exists before after, Evaluates Eq performed_anyhow (OutboxWorker.next_retry_at settings attempts now) before
    (.ok (some (now + delay))) after}

/-- `OUTBOX_RETRY_BASE_DELAY * 2 ** (attempts - 1)`, without the cap. -/
def uncapped (settings : Settings) (attempts : Nat) : Rat :=
  settings.OUTBOX_RETRY_BASE_DELAY * 2 ^ (attempts - 1)

theorem retry_delay_eq (first : 1 ≤ attempts) :
    OutboxWorker.retry_delay settings attempts =
      min (uncapped settings attempts) settings.OUTBOX_RETRY_MAX_DELAY := by
  rw [OutboxWorker.retry_delay, OutboxWorker.backoff_factor, if_neg (Nat.ne_of_gt first), uncapped]
  push_cast
  rfl

/-- The draw of the factor. -/
theorem uniform_performed {low high : Rat} {before after : World} {answer : Except Error Rat}
    (drawn : performed_anyhow (.uniform low high) before answer after) :
    Exists fun number => answer = .ok number ∧ min low high ≤ number ∧ number ≤ max low high := by
  rcases drawn with ⟨run, choice, executed⟩
  rw [World.exec] at executed
  split at executed
  · next bounds =>
      cases executed
      exact ⟨choice.number, rfl, bounds⟩
  · cases executed

/-- The factor may have every value of its range. -/
theorem performed_uniform (low high number : Rat) (above : min low high ≤ number)
    (below : number ≤ max low high) (world : World) : performed_anyhow (.uniform low high) world (.ok number) world := by
  refine ⟨0, { Choice.calm 0 0 with number := number }, ?_⟩
  rw [World.exec, if_pos ⟨above, below⟩]

/-- The delays are the capped exponential delay times the factors that can be drawn. -/
theorem mem_delays (tried : (attempts : Int) < settings.OUTBOX_MAX_ATTEMPTS)
    (jitter : 0 ≤ settings.OUTBOX_RETRY_JITTER) :
    delay ∈ delays settings attempts now <-> Exists fun factor : Rat => 1 ≤ factor ∧
      factor ≤ 1 + settings.OUTBOX_RETRY_JITTER ∧ delay = OutboxWorker.retry_delay settings attempts * factor := by
  have ordered : (1 : Rat) ≤ 1 + settings.OUTBOX_RETRY_JITTER := le_add_of_nonneg_right jitter
  change (exists before after, Evaluates Eq performed_anyhow (OutboxWorker.next_retry_at settings attempts now) before
    (.ok (some (now + delay))) after) <-> _
  rw [OutboxWorker.next_retry_at, if_neg (not_le.mpr tried)]
  constructor
  · rintro ⟨before, after, evaluates⟩
    split at evaluates
    · next constant =>
        have same := Option.some.inj (Except.ok.inj evaluates.of_pure.1)
        refine ⟨1, le_refl 1, ordered, ?_⟩
        rw [mul_one]
        exact add_left_cancel same
    · rcases evaluates.of_bind_ok with ⟨factor, middle, drawn, returned⟩
      rcases drawn.of_perform with ⟨later, _, ran⟩
      rcases uniform_performed ran with ⟨number, same, above, below⟩
      cases same
      rw [min_eq_left ordered] at above
      rw [max_eq_right ordered] at below
      exact ⟨factor, above, below, add_left_cancel (Option.some.inj (Except.ok.inj returned.of_pure.1))⟩
  · rintro ⟨factor, above, below, rfl⟩
    refine ⟨World.initial, World.initial, ?_⟩
    split
    · next constant =>
        -- Without jitter there is one factor only.
        have one : factor = 1 := le_antisymm (by rwa [constant, add_zero] at below) above
        rw [one, mul_one]
        exact .ret _ _
    · have drawn := performed_uniform 1 (1 + settings.OUTBOX_RETRY_JITTER) factor
        (by rwa [min_eq_left ordered]) (by rwa [max_eq_right ordered]) World.initial
      exact .call rfl drawn (.ret _ _)

/-- The last attempt is not followed by a delay. -/
theorem tried_of_delays (possible : delay ∈ delays settings attempts now) :
    (attempts : Int) < settings.OUTBOX_MAX_ATTEMPTS := by
  rcases possible with ⟨before, after, evaluates⟩
  by_contra exhausted
  rw [OutboxWorker.next_retry_at, if_pos (not_lt.mp exhausted)] at evaluates
  cases evaluates.of_pure.1

/-! ## The bounds -/

/-- What the names of the settings promise about an attempt that may still be
retried. -/
structure Bounded (settings : Settings) (attempts : Nat) : Prop where
  least : forall now, IsLeast (delays settings attempts now)
    (min (uncapped settings attempts) settings.OUTBOX_RETRY_MAX_DELAY)
  capped : forall now delay, delay ∈ delays settings attempts now -> delay ≤ settings.OUTBOX_RETRY_MAX_DELAY
  grows : forall now shortest next, IsLeast (delays settings attempts now) shortest ->
    IsLeast (delays settings (attempts + 1) now) next -> shortest ≤ next

/-- The inputs for which the largest factor keeps the delay below the cap. -/
def Roomy (settings : Settings) (attempts : Nat) : Prop :=
  settings.OUTBOX_RETRY_JITTER = 0 ∨ settings.OUTBOX_RETRY_MAX_DELAY = 0 ∨
    uncapped settings attempts * (1 + settings.OUTBOX_RETRY_JITTER) ≤ settings.OUTBOX_RETRY_MAX_DELAY

section

variable (base : 0 ≤ settings.OUTBOX_RETRY_BASE_DELAY) (cap : 0 ≤ settings.OUTBOX_RETRY_MAX_DELAY)
  (jitter : 0 ≤ settings.OUTBOX_RETRY_JITTER) (first : 1 ≤ attempts)

include base in
theorem uncapped_nonneg : 0 ≤ uncapped settings attempts :=
  mul_nonneg base (pow_nonneg zero_le_two _)

include base in
theorem uncapped_mono : uncapped settings attempts ≤ uncapped settings (attempts + 1) := by
  refine mul_le_mul_of_nonneg_left (pow_le_pow_right₀ one_le_two ?_) base
  omega

include base cap jitter first in
theorem least_delay (tried : (attempts : Int) < settings.OUTBOX_MAX_ATTEMPTS) :
    IsLeast (delays settings attempts now) (min (uncapped settings attempts) settings.OUTBOX_RETRY_MAX_DELAY) := by
  have nonneg : 0 ≤ min (uncapped settings attempts) settings.OUTBOX_RETRY_MAX_DELAY := le_min (uncapped_nonneg base) cap
  rw [← retry_delay_eq first] at nonneg ⊢
  constructor
  · exact (mem_delays tried jitter).mpr ⟨1, le_refl 1, le_add_of_nonneg_right jitter, (mul_one _).symm⟩
  · intro delay possible
    rcases (mem_delays tried jitter).mp possible with ⟨factor, above, _, rfl⟩
    exact le_mul_of_one_le_right nonneg above

include base cap jitter first in
/-- The largest factor gives the largest delay. -/
theorem capped_iff (tried : (attempts : Int) < settings.OUTBOX_MAX_ATTEMPTS) :
    (forall delay, delay ∈ delays settings attempts now -> delay ≤ settings.OUTBOX_RETRY_MAX_DELAY) <->
      min (uncapped settings attempts) settings.OUTBOX_RETRY_MAX_DELAY * (1 + settings.OUTBOX_RETRY_JITTER) ≤
        settings.OUTBOX_RETRY_MAX_DELAY := by
  have nonneg : 0 ≤ min (uncapped settings attempts) settings.OUTBOX_RETRY_MAX_DELAY := le_min (uncapped_nonneg base) cap
  rw [← retry_delay_eq first] at nonneg ⊢
  constructor
  · intro bounded
    exact bounded _ ((mem_delays tried jitter).mpr ⟨_, le_add_of_nonneg_right jitter, le_refl _, rfl⟩)
  · intro bounded delay possible
    rcases (mem_delays tried jitter).mp possible with ⟨factor, _, below, rfl⟩
    exact (mul_le_mul_of_nonneg_left below nonneg).trans bounded

include base cap jitter in
theorem roomy_iff :
    min (uncapped settings attempts) settings.OUTBOX_RETRY_MAX_DELAY * (1 + settings.OUTBOX_RETRY_JITTER) ≤
      settings.OUTBOX_RETRY_MAX_DELAY <-> Roomy settings attempts := by
  rcases le_total (uncapped settings attempts) settings.OUTBOX_RETRY_MAX_DELAY with below | above
  · rw [min_eq_left below]
    constructor
    · intro room
      exact .inr (.inr room)
    · rintro (constant | none_at_all | room)
      · rwa [constant, add_zero, mul_one]
      · have zero : uncapped settings attempts = 0 :=
          le_antisymm (none_at_all ▸ below) (uncapped_nonneg base)
        rwa [zero, zero_mul]
      · exact room
  · rw [min_eq_right above]
    constructor
    · intro room
      rw [mul_add, mul_one] at room
      have product := (add_le_iff_nonpos_right settings.OUTBOX_RETRY_MAX_DELAY).mp room
      rcases mul_eq_zero.mp (le_antisymm product (mul_nonneg cap jitter)) with none_at_all | constant
      · exact .inr (.inl none_at_all)
      · exact .inl constant
    · rintro (constant | none_at_all | room)
      · rw [constant, add_zero, mul_one]
      · rw [none_at_all, zero_mul]
      · exact (mul_le_mul_of_nonneg_right above (add_nonneg zero_le_one jitter)).trans room

include base cap jitter first in
/-- The delay keeps the bounds that its settings name for exactly those inputs
whose largest factor leaves it below the cap. -/
theorem retry_delay_bounded_iff (tried : (attempts : Int) < settings.OUTBOX_MAX_ATTEMPTS) :
    Bounded settings attempts <-> Roomy settings attempts := by
  rw [← roomy_iff base cap jitter]
  constructor
  · intro bounded
    exact (capped_iff base cap jitter first tried).mp (bounded.capped 0)
  · intro room
    refine ⟨fun now => least_delay base cap jitter first tried,
      fun now => (capped_iff base cap jitter first tried).mpr room, ?_⟩
    intro now shortest next least later
    have again := tried_of_delays later.1
    rw [least.unique (least_delay base cap jitter first tried),
      later.unique (least_delay base cap jitter (Nat.le_add_right_of_le first) again)]
    exact min_le_min_right _ (uncapped_mono base)

end

/-- Jitter of up to the delay itself, with the other values as they are by default. -/
def doubling : Settings := { OUTBOX_MAX_ATTEMPTS := 8, OUTBOX_RETRY_JITTER := 1 }

/-- The third attempt is far from the cap. -/
theorem third_delay_bounded : Bounded doubling 3 := by
  have room : Roomy doubling 3 := .inr (.inr (by decide +kernel))
  exact (retry_delay_bounded_iff (by decide +kernel) (by decide +kernel) (by decide +kernel) (by decide)
    (by decide +kernel)).mpr room

/-- The seventh attempt may be delayed by two minutes although the maximum is one. -/
theorem maximum_exceeded : (120 : Rat) ∈ delays doubling 7 0 ∧ doubling.OUTBOX_RETRY_MAX_DELAY = 60 ∧
    ¬ Bounded doubling 7 := by
  have possible : (120 : Rat) ∈ delays doubling 7 0 :=
    (mem_delays (by decide +kernel) (by decide +kernel)).mpr
      ⟨2, by decide +kernel, by decide +kernel, by decide +kernel⟩
  refine ⟨possible, rfl, fun bounded => ?_⟩
  exact absurd (bounded.capped 0 120 possible) (by decide +kernel)

end Properties
end Payments

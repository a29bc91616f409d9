import Mathlib.Order.Basic

namespace Payments
namespace Schemas

/-!
# Walks over a chain of revisions

Revisions are numbered from zero.  A chain can go up from each revision to the
next one and down again, and going down undoes what going up has done.  A walk
may turn as often as it likes.  What it leaves behind depends only on where it
began, on its lowest revision and on where it ends: below its lowest revision
nothing has been touched, and above it everything is as if climbed once.
-/

inductive Move where
  | up
  | down
  deriving DecidableEq, Repr

/-- Partial steps between revisions, and what is known of the states of each. -/
structure Chain (State : Type) where
  height : Nat
  /-- From a revision to the next one. -/
  upgrade : Nat -> State -> Option State
  /-- Back to the revision from the next one. -/
  downgrade : Nat -> State -> Option State
  valid : Nat -> State -> Prop
  upgrades : forall {revision state}, revision < height -> valid revision state ->
    Exists fun next => upgrade revision state = some next ∧ valid (revision + 1) next
  downgrades : forall {revision state}, revision < height -> valid (revision + 1) state ->
    Exists fun next => downgrade revision state = some next ∧ valid revision next
  undone : forall {revision state next}, revision < height -> valid revision state ->
    upgrade revision state = some next -> downgrade revision next = some state

namespace Chain

variable {State : Type} (chain : Chain State)

def step : Move -> Nat × State -> Option (Nat × State)
  | .up, (revision, state) =>
      if revision < chain.height then (chain.upgrade revision state).map (fun next => (revision + 1, next)) else none
  | .down, (0, _) => none
  | .down, (revision + 1, state) => (chain.downgrade revision state).map (fun next => (revision, next))

def walk (position : Nat × State) : List Move -> Option (Nat × State)
  | [] => some position
  | move :: rest => (chain.step move position).bind (fun next => walk next rest)

/-- Up from a revision by a number of steps. -/
def climb (revision : Nat) (state : State) : Nat -> Option State
  | 0 => some state
  | steps + 1 => (climb revision state steps).bind (chain.upgrade (revision + steps))

/-- Down from the revision that is this number of steps above. -/
def descend (revision : Nat) : Nat -> State -> Option State
  | 0, state => some state
  | steps + 1, state => (chain.downgrade (revision + steps) state).bind (descend revision steps)

/-- The last revision of a walk. -/
def arrives (revision : Nat) : List Move -> Nat
  | [] => revision
  | .up :: rest => arrives (revision + 1) rest
  | .down :: rest => arrives (revision - 1) rest

/-- The lowest revision of a walk. -/
def lowest (revision : Nat) : List Move -> Nat
  | [] => revision
  | .up :: rest => min revision (lowest (revision + 1) rest)
  | .down :: rest => min revision (lowest (revision - 1) rest)

/-- The moves lead to a revision of the chain each time. -/
def stays (height revision : Nat) : List Move -> Bool
  | [] => true
  | .up :: rest => decide (revision < height) && stays height (revision + 1) rest
  | .down :: rest => decide (0 < revision) && stays height (revision - 1) rest

variable {chain} {revision steps bottom : Nat} {state next base : State}

theorem valid_climb (known : chain.valid revision state) (below : revision + steps ≤ chain.height) :
    Exists fun next => chain.climb revision state steps = some next ∧ chain.valid (revision + steps) next := by
  induction steps with
  | zero => exact ⟨state, rfl, known⟩
  | succ steps inductionHypothesis =>
      rcases inductionHypothesis (by omega) with ⟨middle, climbed, valid⟩
      rcases chain.upgrades (by omega) valid with ⟨next, upgraded, valid'⟩
      exact ⟨next, by rw [climb, climbed, Option.bind_some, upgraded], valid'⟩

/-! ## Every walk inside the chain succeeds -/

theorem walk_succeeds {moves : List Move} (known : chain.valid revision state) (inside : revision ≤ chain.height)
    (stays : stays chain.height revision moves = true) :
    Exists fun final => chain.walk (revision, state) moves = some (arrives revision moves, final) ∧
      arrives revision moves ≤ chain.height ∧ chain.valid (arrives revision moves) final := by
  induction moves generalizing revision state with
  | nil => exact ⟨state, rfl, inside, known⟩
  | cons move rest inductionHypothesis =>
      cases move with
      | up =>
          rcases Bool.and_eq_true_iff.mp stays with ⟨below, rest_stays⟩
          have below := of_decide_eq_true below
          rcases chain.upgrades below known with ⟨next, upgraded, valid⟩
          rcases inductionHypothesis valid below rest_stays with ⟨final, walked, inside', valid'⟩
          refine ⟨final, ?_, inside', valid'⟩
          simp only [walk, step, if_pos below, upgraded, Option.map_some, Option.bind_some, walked, arrives]
      | down =>
          rcases Bool.and_eq_true_iff.mp stays with ⟨above, rest_stays⟩
          have above := of_decide_eq_true above
          cases revision with
          | zero => exact absurd above (Nat.lt_irrefl 0)
          | succ revision =>
              rcases chain.downgrades inside known with ⟨next, downgraded, valid⟩
              rcases inductionHypothesis valid (by omega) rest_stays with ⟨final, walked, inside', valid'⟩
              refine ⟨final, ?_, inside', valid'⟩
              simp only [walk, step, downgraded, Option.map_some, Option.bind_some, walked, arrives, Nat.add_sub_cancel]

/-! ## What a walk leaves behind -/

theorem lowest_le (revision : Nat) (moves : List Move) : lowest revision moves ≤ revision := by
  cases moves with
  | nil => exact Nat.le_refl _
  | cons move rest => cases move <;> exact Nat.min_le_left _ _

/-- The state of a walk is that of a climb from the lowest revision so far. -/
theorem walk_climbs {moves : List Move} {last : Nat} {final : State} (known : chain.valid bottom base)
    (climbed : chain.climb bottom base steps = some state) (inside : bottom + steps ≤ chain.height)
    (walked : chain.walk (bottom + steps, state) moves = some (last, final)) :
    Exists fun foot => chain.descend (min bottom (lowest (bottom + steps) moves))
        (bottom - min bottom (lowest (bottom + steps) moves)) base = some foot ∧
      min bottom (lowest (bottom + steps) moves) ≤ last ∧
      chain.climb (min bottom (lowest (bottom + steps) moves)) foot
        (last - min bottom (lowest (bottom + steps) moves)) = some final := by
  induction moves generalizing bottom steps base state with
  | nil =>
      cases walked
      have least : min bottom (lowest (bottom + steps) []) = bottom := Nat.min_eq_left (Nat.le_add_right _ _)
      rw [least, Nat.sub_self, Nat.add_sub_cancel_left]
      exact ⟨base, rfl, Nat.le_add_right _ _, climbed⟩
  | cons move rest inductionHypothesis =>
      rcases Option.bind_eq_some_iff.mp walked with ⟨position, taken, walked⟩
      cases move with
      | up =>
          have taken : (if bottom + steps < chain.height then
              (chain.upgrade (bottom + steps) state).map (fun next => (bottom + steps + 1, next)) else none) =
                some position := taken
          split at taken
          · next below =>
              rcases Option.map_eq_some_iff.mp taken with ⟨next, upgraded, rfl⟩
              have higher : chain.climb bottom base (steps + 1) = some next := by
                rw [climb, climbed, Option.bind_some, upgraded]
              have least : min bottom (lowest (bottom + steps) (.up :: rest)) =
                  min bottom (lowest (bottom + (steps + 1)) rest) := by
                change min bottom (min (bottom + steps) (lowest (bottom + steps + 1) rest)) = _
                rw [← Nat.min_assoc, Nat.min_eq_left (Nat.le_add_right bottom steps)]
                rfl
              rw [least]
              exact inductionHypothesis known higher below walked
          · cases taken
      | down =>
          cases steps with
          | succ steps =>
              rcases Option.bind_eq_some_iff.mp climbed with ⟨middle, climbed, upgraded⟩
              rcases valid_climb known (show bottom + steps ≤ chain.height by omega) with ⟨_, climbed', valid⟩
              cases climbed.symm.trans climbed'
              have returned : chain.step .down (bottom + (steps + 1), state) = some (bottom + steps, middle) := by
                change (chain.downgrade (bottom + steps) state).map (fun next => (bottom + steps, next)) = _
                rw [chain.undone (by omega) valid upgraded]
                rfl
              cases returned.symm.trans taken
              have least : min bottom (lowest (bottom + (steps + 1)) (.down :: rest)) =
                  min bottom (lowest (bottom + steps) rest) := by
                change min bottom (min (bottom + (steps + 1)) (lowest (bottom + (steps + 1) - 1) rest)) = _
                rw [← Nat.min_assoc, Nat.min_eq_left (Nat.le_add_right bottom (steps + 1))]
                rfl
              rw [least]
              exact inductionHypothesis known climbed (by omega) walked
          | zero =>
              cases climbed
              cases bottom with
              | zero => cases taken
              | succ lower =>
                  -- The walk goes below its lowest revision so far.
                  rcases chain.downgrades inside known with ⟨next, downgraded, valid⟩
                  have returned : chain.step .down (lower + 1, state) = some (lower, next) := by
                    change (chain.downgrade lower state).map (fun next => (lower, next)) = _
                    rw [downgraded]
                    rfl
                  cases returned.symm.trans taken
                  rcases @inductionHypothesis 0 lower next next valid rfl (by omega) walked with
                    ⟨foot, descended, below, final_climb⟩
                  have low := lowest_le lower rest
                  have least : min (lower + 1) (lowest (lower + 1 + 0) (.down :: rest)) = lowest lower rest := by
                    change min (lower + 1) (min (lower + 1) (lowest lower rest)) = _
                    omega
                  have least' : min lower (lowest (lower + 0) rest) = lowest lower rest := Nat.min_eq_right low
                  rw [least'] at descended below final_climb
                  rw [least]
                  refine ⟨foot, ?_, below, final_climb⟩
                  have distance : lower + 1 - lowest lower rest = lower - lowest lower rest + 1 := by omega
                  have top : lowest lower rest + (lower - lowest lower rest) = lower := by omega
                  rw [distance, descend, top, downgraded]
                  exact descended

/-- A walk leaves what going down to its lowest revision and climbing from there
to its last one leaves. -/
theorem walk_normal {moves : List Move} {last : Nat} {final : State} (known : chain.valid revision state)
    (inside : revision ≤ chain.height) (walked : chain.walk (revision, state) moves = some (last, final)) :
    Exists fun foot => chain.descend (lowest revision moves) (revision - lowest revision moves) state = some foot ∧
      lowest revision moves ≤ last ∧
      chain.climb (lowest revision moves) foot (last - lowest revision moves) = some final := by
  have standing : chain.climb revision state 0 = some state := rfl
  have climbs := walk_climbs known standing inside walked
  have least : min revision (lowest (revision + 0) moves) = lowest revision moves :=
    Nat.min_eq_right (lowest_le revision moves)
  rwa [least] at climbs

/-- A walk that returns and was never below its start has changed nothing. -/
theorem walk_returns {moves : List Move} {final : State} (known : chain.valid revision state)
    (inside : revision ≤ chain.height) (walked : chain.walk (revision, state) moves = some (revision, final))
    (above : lowest revision moves = revision) : final = state := by
  rcases walk_normal known inside walked with ⟨foot, descended, _, climbed⟩
  rw [above, Nat.sub_self] at descended climbed
  cases descended
  cases climbed
  rfl

end Chain
end Schemas
end Payments

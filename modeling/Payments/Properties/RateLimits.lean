import Mathlib.Tactic.Linarith
import Payments.Concurrency.Histories
import Payments.Runtime.RateLimiter

namespace Payments
namespace Properties

open Concurrency Payments.Runtime InMemoryRateLimiter

/-!
# What the rate limiter counts

The limiter should count the allowed calls that lie in the window of the
present call.  It counts those of them that every call in between has left in
the store, so the two numbers differ when a call with a shorter window has been
made for the same key.
-/

variable {call : Call} {earlier : List Answered} {key : String}

/-! ## Calls inside a window -/

/-- An allowed call of the same key, inside the window of the present one. -/
def within (call : Call) (entry : Answered) : Bool :=
  entry.2 && decide (entry.1.key = call.key) && decide (call.now - entry.1.now < call.window_sec)

/-- The earlier calls that the present one has to count. -/
def allowed_within (call : Call) (earlier : List Answered) : List Answered :=
  earlier.filter (within call)

/-- The allowed calls of a key that lie in the window of every later call of it. -/
def never_expired (key : String) : List Answered -> List Answered
  | [] => []
  | (call, answer) :: earlier =>
      if call.key = key then
        (if answer then [(call, answer)] else []) ++
          (never_expired key earlier).filter (fun entry => decide (call.now - entry.1.now < call.window_sec))
      else never_expired key earlier

/-- The answer that the documentation of `allow` gives. -/
def Right (entry : Answered) (earlier : List Answered) : Prop :=
  entry.2 = true <-> ((allowed_within entry.1 earlier).length : Int) < entry.1.limit

/-- The calls inside the window reach the limit, but too many of them have left
the shorter window of some later call. -/
def Forgotten (call : Call) (earlier : List Answered) : Prop :=
  (((never_expired call.key earlier).filter (within call)).length : Int) < call.limit ∧
    call.limit ≤ ((allowed_within call earlier).length : Int)

/-! ## The store -/

theorem never_expired_sublist (key : String) (history : List Answered) :
    (never_expired key history).Sublist (history.filter (fun entry => entry.2 && decide (entry.1.key = key))) := by
  induction history with
  | nil => exact List.Sublist.refl _
  | cons entry earlier inductionHypothesis =>
      rcases entry with ⟨call, answer⟩
      by_cases same : call.key = key
      · have rest : ((never_expired key earlier).filter (fun entry =>
            decide (call.now - entry.1.now < call.window_sec))).Sublist _ :=
          List.filter_sublist.trans inductionHypothesis
        cases answer with
        | true =>
            rw [never_expired, if_pos same, if_pos rfl, List.filter_cons_of_pos (by simp [same])]
            exact List.Sublist.cons_cons _ rest
        | false =>
            rw [never_expired, if_pos same, if_neg (by simp), List.filter_cons_of_neg (by simp), List.nil_append]
            exact rest
      · rw [never_expired, if_neg same, List.filter_cons_of_neg (by simp [same])]
        exact inductionHypothesis

/-- What has not expired is an allowed call of the key. -/
theorem mem_never_expired {entry : Answered} {history : List Answered}
    (listed : entry ∈ never_expired key history) : entry ∈ history ∧ entry.2 = true ∧ entry.1.key = key := by
  have found := List.mem_filter.mp ((never_expired_sublist key history).subset listed)
  have both := Bool.and_eq_true_iff.mp found.2
  exact ⟨found.1, both.1, of_decide_eq_true both.2⟩

/-- The store keeps the times of the calls that have never expired. -/
theorem store_eq (calls : List Call) (key : String) :
    (after calls).1 key = ((never_expired key (after calls).2).map (fun entry => entry.1.now)).reverse := by
  induction calls with
  | nil => rfl
  | cons call calls inductionHypothesis =>
      by_cases same : call.key = key
      · subst same
        simp only [after, allow, Function.update_self]
        split
        · simp only [never_expired, Function.update_self, inductionHypothesis, List.filter_reverse, List.filter_map,
            Function.comp_def, if_true]
          rfl
        · simp only [never_expired, Function.update_self, inductionHypothesis, List.filter_reverse, List.filter_map,
            Function.comp_def, if_true, List.map_append, List.reverse_append]
          rfl
      · have other : key ≠ call.key := fun equal => same equal.symm
        simp only [after, allow, never_expired, if_neg same]
        split <;> simp only [Function.update_of_ne other, inductionHypothesis]

theorem answer_eq (call : Call) (calls : List Call) :
    (allow call (after calls).1).2 =
      decide ((((never_expired call.key (after calls).2).filter (within call)).length : Int) < call.limit) := by
  have counted : ((after calls).1 call.key).filter (fun t => decide (call.now - t < call.window_sec)) =
      (((never_expired call.key (after calls).2).filter (within call)).map (fun entry => entry.1.now)).reverse := by
    rw [store_eq, List.filter_reverse, List.filter_map]
    congr 2
    refine List.filter_congr (fun entry listed => ?_)
    rcases mem_never_expired listed with ⟨_, allowed, same⟩
    simp [within, allowed, same]
  simp only [allow, Function.update_self, counted, List.length_reverse, List.length_map]
  split
  · next full => exact (decide_eq_false (not_lt.mpr full)).symm
  · next free => exact (decide_eq_true (not_le.mp free)).symm

/-- What is counted is among what has to be counted. -/
theorem counted_sublist (call : Call) (earlier : List Answered) :
    ((never_expired call.key earlier).filter (within call)).Sublist (allowed_within call earlier) := by
  have kept := ((never_expired_sublist call.key earlier).trans List.filter_sublist).filter (within call)
  exact kept

theorem right_iff {calls : List Call} :
    Right (call, (allow call (after calls).1).2) (after calls).2 <-> ¬ Forgotten call (after calls).2 := by
  have fewer := (counted_sublist call (after calls).2).length_le
  rw [Right, Forgotten, answer_eq, decide_eq_true_iff]
  dsimp only
  constructor
  · rintro agree ⟨below, reached⟩
    exact absurd (agree.mp below) (not_lt.mpr reached)
  · intro remembered
    constructor
    · intro below
      by_contra reached
      exact remembered ⟨below, not_lt.mp reached⟩
    · intro below
      omega

/-! ## Other keys -/

/-- A call reads and writes the times of its own key only. -/
theorem allow_congr {store other : Store} (same : store call.key = other call.key) :
    (allow call store).2 = (allow call other).2 ∧
      (allow call store).1 call.key = (allow call other).1 call.key := by
  simp only [allow, Function.update_self, same]
  split
  · exact ⟨rfl, by simp only [Function.update_self]⟩
  · exact ⟨rfl, by simp only [Function.update_self]⟩

theorem allow_of_ne {store : Store} (different : key ≠ call.key) : (allow call store).1 key = store key := by
  simp only [allow]
  split <;> simp only [Function.update_of_ne different]

/-- The calls of one key get the answers they would get alone. -/
theorem key_alone (calls : List Call) (key : String) :
    (after calls).1 key = (after (calls.filter (fun call => decide (call.key = key)))).1 key ∧
      (after calls).2.filter (fun entry => decide (entry.1.key = key)) =
        (after (calls.filter (fun call => decide (call.key = key)))).2 := by
  induction calls with
  | nil => exact ⟨rfl, rfl⟩
  | cons call calls inductionHypothesis =>
      rcases inductionHypothesis with ⟨stored, answered⟩
      by_cases same : call.key = key
      · subst same
        have congruent := @allow_congr call _ _ stored
        rw [List.filter_cons_of_pos (by simp)]
        simp only [after]
        refine ⟨congruent.2, ?_⟩
        rw [List.filter_cons_of_pos (by simp), answered, congruent.1]
      · rw [List.filter_cons_of_neg (by simp [same])]
        simp only [after]
        rw [List.filter_cons_of_neg (by simp [same])]
        exact ⟨(allow_of_ne (fun equal => same equal.symm)).trans stored, answered⟩

/-! ## One window for each key -/

/-- While no shorter window has been used, every call inside the window is counted. -/
theorem remembered {history : List Answered} {window now : Rat}
    (covered : forall entry, entry ∈ history -> entry.1.key = key ->
      window ≤ entry.1.window_sec ∧ entry.1.now ≤ now) :
    (never_expired key history).filter (fun entry => decide (now - entry.1.now < window)) =
      history.filter (fun entry => entry.2 && decide (entry.1.key = key) &&
        decide (now - entry.1.now < window)) := by
  induction history with
  | nil => rfl
  | cons entry earlier inductionHypothesis =>
      have rest := inductionHypothesis (fun found listed => covered found (List.mem_cons_of_mem _ listed))
      rcases entry with ⟨call, answer⟩
      by_cases same : call.key = key
      · rcases covered (call, answer) List.mem_cons_self same with ⟨shorter, before⟩
        have pruned : ((never_expired key earlier).filter (fun entry =>
            decide (call.now - entry.1.now < call.window_sec))).filter
              (fun entry => decide (now - entry.1.now < window)) =
            (never_expired key earlier).filter (fun entry => decide (now - entry.1.now < window)) := by
          rw [List.filter_filter]
          refine List.filter_congr (fun found _ => ?_)
          by_cases inside : now - found.1.now < window
          · have inside' : call.now - found.1.now < call.window_sec := by
              dsimp only at shorter before
              linarith
            simp [inside, inside']
          · simp [inside]
        rw [never_expired, if_pos same, List.filter_append, pruned, rest, List.filter_cons]
        cases answer with
        | true => by_cases inside : now - call.now < window <;> simp [same, inside]
        | false => simp
      · rw [never_expired, if_neg same, rest, List.filter_cons_of_neg (by simp [same])]

/-- The allowed calls of a key between two instants. -/
def allowed_between (key : String) (start stop : Rat) (history : List Answered) : List Answered :=
  history.filter (fun entry =>
    entry.2 && decide (entry.1.key = key) && decide (start ≤ entry.1.now ∧ entry.1.now < stop))

/-- With one limit and one window for the key, no interval of the length of the
window contains more allowed calls than the limit. -/
theorem at_most_limit {calls : List Call} (ordered : calls.Pairwise (fun later earlier => earlier.now ≤ later.now))
    {limit : Int} {window : Rat}
    (fixed : forall call, call ∈ calls -> call.key = key -> call.limit = limit ∧ call.window_sec = window)
    (start : Rat) : ((allowed_between key start (start + window) (after calls).2).length : Int) ≤ max limit 0 := by
  have called : forall calls' : List Call, forall entry, entry ∈ (after calls').2 -> entry.1 ∈ calls' := by
    intro calls'
    induction calls' with
    | nil =>
        intro entry listed
        cases listed
    | cons call rest inductionHypothesis =>
        intro entry listed
        rcases List.mem_cons.mp listed with rfl | earlier
        · exact List.mem_cons_self
        · exact List.mem_cons_of_mem _ (inductionHypothesis entry earlier)
  induction calls with
  | nil => exact le_max_right limit 0
  | cons call calls inductionHypothesis =>
      have before := inductionHypothesis (List.pairwise_cons.mp ordered).2
        (fun found listed => fixed found (List.mem_cons_of_mem _ listed))
      rw [allowed_between, after, List.filter_cons]
      split
      · next counts =>
          simp only [Bool.and_eq_true, decide_eq_true_eq] at counts
          rcases counts with ⟨⟨allowed, same⟩, from_start, before_stop⟩
          rcases fixed call List.mem_cons_self same with ⟨rfl, rfl⟩
          have below := of_decide_eq_true ((answer_eq call calls).symm.trans allowed)
          have counted : (never_expired call.key (after calls).2).filter (within call) =
              (after calls).2.filter (within call) := by
            have all := @remembered call.key (after calls).2 call.window_sec call.now (fun entry listed equal =>
              ⟨(fixed entry.1 (List.mem_cons_of_mem _ (called calls entry listed)) (equal.trans same)).2.ge,
                (List.pairwise_cons.mp ordered).1 entry.1 (called calls entry listed)⟩)
            refine Eq.trans (List.filter_congr (fun entry listed => ?_)) all
            rcases mem_never_expired listed with ⟨_, answered, equal⟩
            simp [within, answered, equal]
          have inside : (allowed_between key start (start + call.window_sec) (after calls).2).Sublist
              ((after calls).2.filter (within call)) := by
            refine List.monotone_filter_right _ (fun entry chosen => ?_)
            simp only [Bool.and_eq_true, decide_eq_true_eq] at chosen
            rcases chosen with ⟨⟨answered, equal⟩, from_start', _⟩
            have near : call.now - entry.1.now < call.window_sec := by linarith
            simp [within, answered, equal, same, near]
          have fewer := inside.length_le
          rw [← counted] at fewer
          rw [List.length_cons]
          have bound := le_max_left call.limit 0
          change ((allowed_between key start (start + call.window_sec) (after calls).2).length + 1 : Int) ≤ _
          omega
      · exact before

/-- Every answer is the documented one exactly when no call has been forgotten
that a later, longer window would have to count.  The keys do not affect each
other, and with one limit and window for a key the limit is kept. -/
theorem sliding_window_iff (calls : List Call)
    (ordered : calls.Pairwise (fun later earlier => earlier.now ≤ later.now)) :
    (Along Right (after calls).2 <->
      Along (fun entry earlier => ¬ Forgotten entry.1 earlier) (after calls).2) ∧
    (forall key, (after calls).2.filter (fun entry => decide (entry.1.key = key)) =
      (after (calls.filter (fun call => decide (call.key = key)))).2) ∧
    (forall key limit window, (forall call, call ∈ calls -> call.key = key ->
      call.limit = limit ∧ call.window_sec = window) ->
      forall start, ((allowed_between key start (start + window) (after calls).2).length : Int) ≤ max limit 0) := by
  refine ⟨?_, fun key => (key_alone calls key).2, fun key limit window fixed start =>
    at_most_limit ordered fixed start⟩
  clear ordered
  induction calls with
  | nil => exact Iff.rfl
  | cons call calls inductionHypothesis => exact and_congr right_iff inductionHypothesis

instance (call : Call) (earlier : List Answered) : Decidable (Forgotten call earlier) :=
  inferInstanceAs (Decidable (_ ∧ _))

/-- Newest first: a call with a window of five seconds comes between two calls
with a window of a minute. -/
def mixed_windows : List Call :=
  [⟨"client", 2, 60, 11⟩, ⟨"client", 1, 5, 10⟩, ⟨"client", 1, 60, 0⟩]

theorem mixed_windows_ordered : mixed_windows.Pairwise (fun later earlier => earlier.now ≤ later.now) := by
  decide +kernel

/-- The third call of the minute is allowed although the limit is two. -/
theorem mixed_windows_wrong :
    mixed_windows.Pairwise (fun later earlier => earlier.now ≤ later.now) ∧
      ¬ Along Right (after mixed_windows).2 := by
  refine ⟨mixed_windows_ordered, fun right => ?_⟩
  have forgotten : Forgotten ⟨"client", 2, 60, 11⟩ (after [⟨"client", 1, 5, 10⟩, ⟨"client", 1, 60, 0⟩]).2 := by
    decide +kernel
  exact right_iff.mp right.1 forgotten

/-- Two calls of one key within its window, and a third one after it. -/
def steady_calls : List Call :=
  [⟨"client", 2, 60, 70⟩, ⟨"client", 2, 60, 10⟩, ⟨"client", 2, 60, 0⟩]

theorem steady_calls_right : Along Right (after steady_calls).2 := by
  have ordered : steady_calls.Pairwise (fun later earlier => earlier.now ≤ later.now) := by decide +kernel
  refine (sliding_window_iff steady_calls ordered).1.mpr ⟨?_, ?_, ?_, trivial⟩
  · decide +kernel
  · decide +kernel
  · decide +kernel

end Properties
end Payments

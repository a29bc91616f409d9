import Payments.Properties.OutboxRows

namespace Payments
namespace Properties

open Concurrency Domain Infrastructure

/-!
# Claims and publishes on record

A claim of a message is identified by its worker, the message and the value of
`attempts` it has produced.  The trace tells which claims have been committed
and which publishes have been called and ended under each of them.  This module
counts them, and follows the counts over one step of the system.
-/

structure ClaimKey where
  worker : RunId
  id : UUID
  attempts : Nat
  deriving DecidableEq

def claim_of (worker : RunId) (message : OutboxMessage) : ClaimKey :=
  ⟨worker, message.id, message.attempts⟩

/-- The transaction has claimed the message, with the given attempts. -/
def claims (id : UUID) (accepts : Nat -> Bool) : Event -> Bool
  | .committed record =>
      (record .outbox_messages).any (fun change =>
        decide (change.1 = id) &&
          change.2.any (fun row => decide (OutboxMessageModel.status row = .PROCESSING) && accepts row.attempts))
  | _ => false

def called : Event -> Option ClaimKey
  | .publish_called worker message => some (claim_of worker message)
  | _ => none

/-- The publish has ended, with or without a confirmation. -/
def ended : Event -> Option ClaimKey
  | .publish_confirmed worker message => some (claim_of worker message)
  | .publish_failed worker message => some (claim_of worker message)
  | _ => none

abbrev Trace := List (Actor × Event)

/-- The number of committed claims of a message. -/
def committed_claims (id : UUID) (trace : Trace) : Nat :=
  trace.countP (fun entry => claims id (fun _ => true) entry.2)

def claims_at (id : UUID) (attempts : Nat) (trace : Trace) : Nat :=
  trace.countP (fun entry => claims id (fun found => decide (found = attempts)) entry.2)

def taken (claim : ClaimKey) (trace : Trace) : Nat :=
  trace.countP (fun entry => decide (entry.1 = .run claim.worker) &&
    claims claim.id (fun found => decide (found = claim.attempts)) entry.2)

def calls (claim : ClaimKey) (trace : Trace) : Nat :=
  trace.countP (fun entry => decide (called entry.2 = some claim))

def ends (claim : ClaimKey) (trace : Trace) : Nat :=
  trace.countP (fun entry => decide (ended entry.2 = some claim))

/-- The number of times a publish of the message has been called. -/
def publishes (id : UUID) (trace : Trace) : Nat :=
  trace.countP (fun entry => (called entry.2).any (fun claim => decide (claim.id = id)))

/-- The tasks of a claim that are in a given state. -/
def tasks_in (claim : ClaimKey) (state : TaskState Bool) (world : World) : Nat :=
  (world.publishing claim.worker).tasks.countP (fun task =>
    decide (task.state = state) && decide (claim_of claim.worker task.message = claim))

/-- Publishes called or still to be called under a claim. -/
def load (claim : ClaimKey) (world : World) : Nat :=
  calls claim world.trace + tasks_in claim .waiting world

theorem taken_le_claims_at (claim : ClaimKey) (trace : Trace) :
    taken claim trace ≤ claims_at claim.id claim.attempts trace := by
  refine List.countP_mono_left (fun entry _ counted => ?_)
  rw [Bool.and_eq_true] at counted
  exact counted.2

/-- Claims of one message with the same attempts by two workers count twice. -/
theorem taken_add_le {claim other : ClaimKey} (message : other.id = claim.id)
    (attempts : other.attempts = claim.attempts) (different : other.worker ≠ claim.worker) (trace : Trace) :
    taken claim trace + taken other trace ≤ claims_at claim.id claim.attempts trace := by
  induction trace with
  | nil => exact Nat.le_refl 0
  | cons entry rest inductionHypothesis =>
      simp only [taken, claims_at, List.countP_cons, message, attempts] at inductionHypothesis ⊢
      cases found : claims claim.id (fun found => decide (found = claim.attempts)) entry.2 with
      | false =>
          simp only [Bool.and_false, Bool.false_eq_true, if_false, Nat.add_zero]
          exact inductionHypothesis
      | true =>
          simp only [Bool.and_true, decide_eq_true_eq, if_true]
          by_cases first : entry.1 = .run claim.worker
          · have second : entry.1 ≠ .run other.worker := by
              intro same
              rw [first] at same
              exact different (Actor.run.inj same).symm
            rw [if_pos first, if_neg second]
            omega
          · rw [if_neg first]
            split <;> omega

/-! ## Events that count for nothing -/

/-- The event is neither a commit nor about a publish. -/
structure Quiet (event : Event) : Prop where
  uncommitted : forall record, event ≠ .committed record
  uncalled : called event = none
  unended : ended event = none

theorem Quiet.claims_eq {event : Event} (quiet : Quiet event) (id : UUID) (accepts : Nat -> Bool) :
    claims id accepts event = false := by
  cases event with
  | committed record => exact absurd rfl (quiet.uncommitted record)
  | _ => rfl

/-- The counts are the same in both traces. -/
structure SameCounts (before after : Trace) : Prop where
  claims : forall id, committed_claims id after = committed_claims id before
  claims_at : forall id attempts, claims_at id attempts after = claims_at id attempts before
  taken : forall claim, taken claim after = taken claim before
  calls : forall claim, calls claim after = calls claim before
  ends : forall claim, ends claim after = ends claim before

theorem SameCounts.refl (trace : Trace) : SameCounts trace trace :=
  ⟨fun _ => rfl, fun _ _ => rfl, fun _ => rfl, fun _ => rfl, fun _ => rfl⟩

theorem Quiet.same_counts {event : Event} (quiet : Quiet event) (actor : Actor) (trace : Trace) :
    SameCounts trace ((actor, event) :: trace) where
  claims := by
    intro id
    simp only [committed_claims, List.countP_cons, quiet.claims_eq, Bool.false_eq_true, if_false,
      Nat.add_zero]
  claims_at := by
    intro id attempts
    simp only [Properties.claims_at, List.countP_cons, quiet.claims_eq, Bool.false_eq_true, if_false,
      Nat.add_zero]
  taken := by
    intro claim
    simp only [Properties.taken, List.countP_cons, quiet.claims_eq, Bool.and_false, Bool.false_eq_true,
      if_false, Nat.add_zero]
  calls := by
    intro claim
    simp [Properties.calls, quiet.uncalled]
  ends := by
    intro claim
    simp [Properties.ends, quiet.unended]

variable {world after : World} {run : RunId} {op : Op}

theorem quiet_of_records {event : Event} (recorded : World.Records run world op event)
    (not_commit : op ≠ .commit) : Quiet event := by
  cases recorded with
  | committed => exact absurd rfl not_commit
  | _ => exact ⟨fun record same => (by cases same), rfl, rfl⟩

theorem same_counts_executed {answer : Except Error op.Answer}
    (executed : World.Executed run world op after answer) (not_commit : op ≠ .commit) :
    SameCounts world.trace after.trace := by
  rcases executed.trace with same | ⟨event, recorded, same⟩
  · rw [same]
    exact SameCounts.refl _
  · rw [same]
    exact (quiet_of_records recorded not_commit).same_counts _ _

theorem same_counts_crash : SameCounts world.trace (world.crash run).trace := by
  rw [World.crash_trace]
  exact Quiet.same_counts ⟨fun record same => (by cases same), rfl, rfl⟩ _ _

/-! ## Records of transactions -/

theorem claims_record {id : UUID} {accepts : Nat -> Bool} :
    claims id accepts (.committed (world.record run)) = true <->
      Exists fun row => (world.cell .outbox_messages id).lock = some (run, some row) ∧
        row.status = .PROCESSING ∧ accepts row.attempts = true := by
  simp only [claims, List.any_eq_true, Bool.and_eq_true, decide_eq_true_eq]
  constructor
  · rintro ⟨⟨key, draft⟩, listed, rfl, found⟩
    rw [Option.any_eq_true] at found
    rcases found with ⟨row, rfl, accepted⟩
    rw [Bool.and_eq_true, decide_eq_true_eq] at accepted
    exact ⟨row, World.mem_record.mp listed, accepted⟩
  · rintro ⟨row, locked, status, accepted⟩
    refine ⟨(id, some row), World.mem_record.mpr locked, rfl, ?_⟩
    simp [status, accepted]

/-! ## Counting over one step -/

theorem committed_claims_commit (id : UUID) :
    committed_claims id (world.commit run).trace = committed_claims id world.trace +
      if claims id (fun _ => true) (.committed (world.record run)) then 1 else 0 := by
  change committed_claims id ((.run run, .committed (world.record run)) :: world.trace) = _
  simp only [committed_claims, List.countP_cons]

theorem claims_at_commit (id : UUID) (attempts : Nat) :
    claims_at id attempts (world.commit run).trace = claims_at id attempts world.trace +
      if claims id (fun found => decide (found = attempts)) (.committed (world.record run)) then 1 else 0 := by
  change claims_at id attempts ((.run run, .committed (world.record run)) :: world.trace) = _
  simp only [claims_at, List.countP_cons]

/-- What the environment records is no claim. -/
theorem claims_observed {event : Event} (observed : World.Observed event) (id : UUID)
    (accepts : Nat -> Bool) : claims id accepts event = false := by
  cases observed <;> rfl

theorem committed_claims_occurred (occurred : World.Occurred world after) (id : UUID) :
    committed_claims id after.trace = committed_claims id world.trace := by
  rcases occurred.trace with same | ⟨event, observed, same⟩
  · rw [same]
  · simp only [same, committed_claims, List.countP_cons, claims_observed observed, Bool.false_eq_true,
      if_false, Nat.add_zero]

theorem claims_at_occurred (occurred : World.Occurred world after) (id : UUID) (attempts : Nat) :
    claims_at id attempts after.trace = claims_at id attempts world.trace := by
  rcases occurred.trace with same | ⟨event, observed, same⟩
  · rw [same]
  · simp only [same, claims_at, List.countP_cons, claims_observed observed, Bool.false_eq_true,
      if_false, Nat.add_zero]

/-- Claims on record stay on record. -/
theorem taken_mono (claim : ClaimKey) {before later : Trace} (grown : before <:+ later) :
    taken claim before ≤ taken claim later :=
  grown.sublist.countP_le

/-- The claims of a worker are on its own record. -/
theorem taken_own (claim : ClaimKey) :
    taken claim world.trace = (world.own claim.worker).countP
      (claims claim.id (fun found => decide (found = claim.attempts))) := by
  rw [World.own, List.countP_map, List.countP_filter, taken]
  refine List.countP_congr (fun entry _ => ?_)
  simp only [Function.comp_apply, Bool.and_comm]

/-! ## Publishes of a claim over one step -/

theorem tasks_in_of_publishing {claim : ClaimKey} (state : TaskState Bool)
    (same : after.publishing claim.worker = world.publishing claim.worker) :
    tasks_in claim state after = tasks_in claim state world := by
  rw [tasks_in, same, tasks_in]

theorem tasks_in_none {claim : ClaimKey} (state : TaskState Bool)
    (none : after.publishing claim.worker = Gather.none) : tasks_in claim state after = 0 := by
  rw [tasks_in, none]
  rfl

theorem calls_executed {answer : Except Error op.Answer}
    (executed : World.Executed run world op after answer) (claim : ClaimKey) :
    calls claim after.trace = calls claim world.trace := by
  rcases executed.trace with same | ⟨event, recorded, same⟩
  · rw [same]
  · have uncalled : called event = none := by cases recorded <;> rfl
    simp [same, calls, uncalled]

theorem ends_executed {answer : Except Error op.Answer}
    (executed : World.Executed run world op after answer) (claim : ClaimKey) :
    ends claim after.trace = ends claim world.trace := by
  rcases executed.trace with same | ⟨event, recorded, same⟩
  · rw [same]
  · have unended : ended event = none := by cases recorded <;> rfl
    simp [same, ends, unended]

/-- An operation leaves the publishes of other workers alone. -/
theorem publishing_executed {answer : Except Error op.Answer}
    (executed : World.Executed run world op after answer) {other : RunId} (different : other ≠ run) :
    after.publishing other = world.publishing other := by
  cases executed with
  | publishes_started messages concurrency => exact Function.update_of_ne different _ _
  | publishes_abandoned => exact Function.update_of_ne different _ _
  | published results finished => exact Function.update_of_ne different _ _
  | _ => rfl

/-- A worker's publishes are kept, dropped, or started anew. -/
theorem own_publishing_executed {answer : Except Error op.Answer}
    (executed : World.Executed run world op after answer) :
    after.publishing run = world.publishing run ∨ after.publishing run = Gather.none ∨
      Exists fun messages => Exists fun concurrency => op = .publish_all messages concurrency ∧
        after.publishing run =
          ⟨concurrency, messages.map (fun message => ⟨message, false, .waiting⟩)⟩ := by
  cases executed with
  | publishes_started messages concurrency =>
      exact .inr (.inr ⟨messages, concurrency, rfl, Function.update_self _ _ _⟩)
  | publishes_abandoned => exact .inr (.inl (Function.update_self _ _ _))
  | published results finished => exact .inr (.inl (Function.update_self _ _ _))
  | _ => exact .inl rfl

theorem crash_publishing : (world.crash run).publishing run = Gather.none := by
  unfold World.crash
  exact Function.update_self _ _ _

theorem crash_publishing_of_ne {other : RunId} (different : other ≠ run) :
    (world.crash run).publishing other = world.publishing other := by
  unfold World.crash World.requeue
  split <;> exact Function.update_of_ne different _ _

/-- Replacing one element changes a count by what the two elements count. -/
theorem countP_replace {A : Type} (accepts : A -> Bool) {elements : List A} {index : Nat} {old : A}
    (found : elements[index]? = some old) (new : A) :
    (elements.set index new).countP accepts + (if accepts old then 1 else 0) =
      elements.countP accepts + (if accepts new then 1 else 0) := by
  induction elements generalizing index with
  | nil => cases found
  | cons head tail inductionHypothesis =>
      cases index with
      | zero =>
          cases found
          simp only [List.set_cons_zero, List.countP_cons]
          omega
      | succ index =>
          have rest := inductionHypothesis found
          simp only [List.set_cons_succ, List.countP_cons]
          omega

/-- A task that moves is counted in its new state and no longer in its old one. -/
theorem tasks_in_move {owner : RunId} {index : Nat} {message : OutboxMessage} {landed landed' : Bool}
    {old new : TaskState Bool}
    (found : (world.publishing owner).tasks[index]? = some ⟨message, landed, old⟩)
    (claim : ClaimKey) (state : TaskState Bool) :
    tasks_in claim state (world.set_publish_task owner index ⟨message, landed', new⟩) +
        (if old = state ∧ claim_of owner message = claim then 1 else 0) =
      tasks_in claim state world + (if new = state ∧ claim_of owner message = claim then 1 else 0) := by
  by_cases mine : claim.worker = owner
  · subst mine
    have moved : (world.set_publish_task claim.worker index ⟨message, landed', new⟩).publishing claim.worker =
        { world.publishing claim.worker with
          tasks := (world.publishing claim.worker).tasks.set index ⟨message, landed', new⟩ } :=
      Function.update_self _ _ _
    have counted := countP_replace (fun task => decide (task.state = state) &&
      decide (claim_of claim.worker task.message = claim)) found ⟨message, landed', new⟩
    simp only [Bool.and_eq_true, decide_eq_true_eq] at counted
    rw [tasks_in, tasks_in, moved]
    exact counted
  · have other : claim_of owner message ≠ claim := fun same => mine (same ▸ rfl)
    have kept : (world.set_publish_task owner index ⟨message, landed', new⟩).publishing claim.worker =
        world.publishing claim.worker :=
      Function.update_of_ne mine _ _
    rw [tasks_in_of_publishing state kept, if_neg (fun both => other both.2),
      if_neg (fun both => other both.2)]

theorem calls_note (actor : Actor) (event : Event) (claim : ClaimKey) :
    calls claim (world.note actor event).trace =
      calls claim world.trace + if called event = some claim then 1 else 0 := by
  simp only [calls, World.note, List.countP_cons, decide_eq_true_eq]

theorem ends_note (actor : Actor) (event : Event) (claim : ClaimKey) :
    ends claim (world.note actor event).trace =
      ends claim world.trace + if ended event = some claim then 1 else 0 := by
  simp only [ends, World.note, List.countP_cons, decide_eq_true_eq]

/-- An event of the environment calls `started` publishes of a claim, which
were waiting, and ends `finished` of them, which were running. -/
structure ClaimMoves (claim : ClaimKey) (before after : World) (started finished : Nat) : Prop where
  calls : calls claim after.trace = calls claim before.trace + started
  ends : ends claim after.trace = ends claim before.trace + finished
  waiting : tasks_in claim .waiting after + started = tasks_in claim .waiting before
  running : tasks_in claim .running after + finished = tasks_in claim .running before + started

/-- One move of one task, with the event it records. -/
theorem claim_moves_note {owner : RunId} {index : Nat} {message : OutboxMessage} {landed landed' : Bool}
    {old new : TaskState Bool}
    (found : (world.publishing owner).tasks[index]? = some ⟨message, landed, old⟩) (event : Event)
    (claim : ClaimKey) {started finished : Nat}
    (calling : (if called event = some claim then 1 else 0) = started)
    (ending : (if ended event = some claim then 1 else 0) = finished)
    (waits : (if old = .waiting ∧ claim_of owner message = claim then 1 else 0) =
      (if new = .waiting ∧ claim_of owner message = claim then 1 else 0) + started)
    (runs : (if old = .running ∧ claim_of owner message = claim then 1 else 0) + started =
      (if new = .running ∧ claim_of owner message = claim then 1 else 0) + finished) :
    ClaimMoves claim world
      (World.note .environment event (world.set_publish_task owner index ⟨message, landed', new⟩))
      started finished where
  calls := (calls_note .environment event claim).trans (congrArg (calls claim world.trace + ·) calling)
  ends := (ends_note .environment event claim).trans (congrArg (ends claim world.trace + ·) ending)
  waiting := by
    have moved := @tasks_in_move world owner index message landed landed' old new found claim .waiting
    change tasks_in claim .waiting (world.set_publish_task owner index ⟨message, landed', new⟩) + _ = _
    omega
  running := by
    have moved := @tasks_in_move world owner index message landed landed' old new found claim .running
    change tasks_in claim .running (world.set_publish_task owner index ⟨message, landed', new⟩) + _ = _
    omega

theorem claim_moves_quiet (claim : ClaimKey) {event : Event} (uncalled : called event = none)
    (unended : ended event = none) (same : after.publishing = world.publishing)
    (noted : after.trace = (.environment, event) :: world.trace) : ClaimMoves claim world after 0 0 where
  calls := by simp [calls, noted, uncalled]
  ends := by simp [ends, noted, unended]
  waiting := tasks_in_of_publishing .waiting (by rw [same])
  running := tasks_in_of_publishing .running (by rw [same])

theorem claim_moves_of_eq (claim : ClaimKey) (publishing : after.publishing = world.publishing)
    (trace : after.trace = world.trace) : ClaimMoves claim world after 0 0 where
  calls := by rw [trace, Nat.add_zero]
  ends := by rw [trace, Nat.add_zero]
  waiting := tasks_in_of_publishing .waiting (by rw [publishing])
  running := tasks_in_of_publishing .running (by rw [publishing])

/-- Every event of the environment moves the publishes of a claim in this way. -/
theorem claim_moves_occurred (occurred : World.Occurred world after) (claim : ClaimKey) :
    Exists fun started => Exists fun finished => ClaimMoves claim world after started finished := by
  cases occurred with
  | publish_started owner index message landed found =>
      exact ⟨if claim_of owner message = claim then 1 else 0, 0,
        claim_moves_note found _ claim (by simp [called]) (by simp [ended]) (by simp) (by simp)⟩
  | publish_landed owner index message found =>
      have waits := @tasks_in_move world owner index message false true .running .running found claim .waiting
      have runs := @tasks_in_move world owner index message false true .running .running found claim .running
      exact ⟨0, 0, rfl, rfl, Nat.add_right_cancel waits, Nat.add_right_cancel runs⟩
  | publish_confirmed owner index message found =>
      exact ⟨0, if claim_of owner message = claim then 1 else 0,
        claim_moves_note found _ claim (by simp [called]) (by simp [ended]) (by simp) (by simp)⟩
  | publish_failed owner index message landed found =>
      have moved : ClaimMoves claim world (World.note .environment (.publish_failed owner message)
          (world.set_publish_task owner index ⟨message, landed, .finished false⟩)) 0
          (if claim_of owner message = claim then 1 else 0) :=
        claim_moves_note found _ claim (by simp [called]) (by simp [ended]) (by simp) (by simp)
      exact ⟨0, _, moved.calls, moved.ends, moved.waiting, moved.running⟩
  | send_started owner index delivery request found =>
      exact ⟨0, 0, claim_moves_quiet claim rfl rfl rfl rfl⟩
  | send_finished owner index delivery request outcome found =>
      exact ⟨0, 0, claim_moves_quiet claim rfl rfl rfl rfl⟩
  | _ => exact ⟨0, 0, claim_moves_of_eq claim rfl rfl⟩

theorem load_occurred (occurred : World.Occurred world after) (claim : ClaimKey) :
    load claim after = load claim world := by
  rcases claim_moves_occurred occurred claim with ⟨started, finished, moves⟩
  have calls := moves.calls
  have waiting := moves.waiting
  rw [load, load]
  omega

/-- What a task that has ended leaves on record. -/
def outcome_event (worker : RunId) (message : OutboxMessage) : Bool -> Event
  | true => .publish_confirmed worker message
  | false => .publish_failed worker message

/-- The publishes under way and ended are among those called, and every task
that has ended is on record with its outcome. -/
structure PublishesKept (world : World) : Prop where
  counted : forall claim, ends claim world.trace + tasks_in claim .running world ≤ calls claim world.trace
  recorded : forall worker task, task ∈ (world.publishing worker).tasks -> forall confirmed,
    task.state = .finished confirmed ->
    (.environment, outcome_event worker task.message confirmed) ∈ world.trace

theorem publishes_kept_initially : PublishesKept World.initial where
  counted := fun _ => Nat.le_refl 0
  recorded := by
    intro worker task listed
    cases listed

theorem running_new_tasks (claim : ClaimKey) (messages : List OutboxMessage) (concurrency : Int)
    (started : after.publishing claim.worker =
      ⟨concurrency, messages.map (fun message => ⟨message, false, .waiting⟩)⟩) :
    tasks_in claim .running after = 0 := by
  rw [tasks_in, started, List.countP_map]
  refine List.countP_eq_zero.mpr (fun message _ => ?_)
  simp

theorem PublishesKept.executed {answer : Except Error op.Answer} (kept : PublishesKept world)
    (executed : World.Executed run world op after answer) : PublishesKept after where
  counted := by
    intro claim
    have before := kept.counted claim
    rw [calls_executed executed, ends_executed executed]
    have fewer : tasks_in claim .running after ≤ tasks_in claim .running world := by
      by_cases mine : claim.worker = run
      · subst mine
        rcases own_publishing_executed executed with same | none | ⟨messages, concurrency, _, started⟩
        · exact Nat.le_of_eq (tasks_in_of_publishing .running same)
        · exact (tasks_in_none .running none).trans_le (Nat.zero_le _)
        · exact (running_new_tasks claim messages concurrency started).trans_le (Nat.zero_le _)
      · exact Nat.le_of_eq (tasks_in_of_publishing .running (publishing_executed executed mine))
    omega
  recorded := by
    intro worker task listed confirmed finished
    have earlier : task ∈ (world.publishing worker).tasks ->
        (.environment, outcome_event worker task.message confirmed) ∈ after.trace :=
      fun before => (World.trace_executed executed).subset (kept.recorded worker task before confirmed finished)
    by_cases mine : worker = run
    · subst mine
      rcases own_publishing_executed executed with same | none | ⟨messages, concurrency, _, started⟩
      · exact earlier (same ▸ listed)
      · rw [none] at listed
        cases listed
      · rw [started] at listed
        rcases List.mem_map.mp listed with ⟨message, _, rfl⟩
        cases finished
    · exact earlier (publishing_executed executed mine ▸ listed)

theorem PublishesKept.crash (kept : PublishesKept world) : PublishesKept (world.crash run) where
  counted := by
    intro claim
    have before := kept.counted claim
    rw [same_counts_crash.calls, same_counts_crash.ends]
    have fewer : tasks_in claim .running (world.crash run) ≤ tasks_in claim .running world := by
      by_cases mine : claim.worker = run
      · subst mine
        exact (tasks_in_none .running crash_publishing).trans_le (Nat.zero_le _)
      · exact Nat.le_of_eq (tasks_in_of_publishing .running (crash_publishing_of_ne mine))
    omega
  recorded := by
    intro worker task listed confirmed finished
    by_cases mine : worker = run
    · subst mine
      rw [crash_publishing] at listed
      cases listed
    · rw [crash_publishing_of_ne mine] at listed
      exact World.trace_crash.subset (kept.recorded worker task listed confirmed finished)

/-- A task after an event of the environment is the same, or has moved and left
a record when it has ended. -/
theorem recorded_occurred (kept : PublishesKept world) (occurred : World.Occurred world after)
    {worker : RunId} {task : PublishTask} (listed : task ∈ (after.publishing worker).tasks)
    {confirmed : Bool} (finished : task.state = .finished confirmed) :
    (.environment, outcome_event worker task.message confirmed) ∈ after.trace := by
  have earlier : task ∈ (world.publishing worker).tasks ->
      (.environment, outcome_event worker task.message confirmed) ∈ after.trace :=
    fun before => (World.trace_occurred occurred).subset (kept.recorded worker task before confirmed finished)
  have moved : forall {owner : RunId} {index : Nat} {new : PublishTask},
      task ∈ ((world.set_publish_task owner index new).publishing worker).tasks ->
      task ∈ (world.publishing worker).tasks ∨ (worker = owner ∧ task = new) := by
    intro owner index new listed
    by_cases mine : worker = owner
    · subst mine
      have same : (world.set_publish_task worker index new).publishing worker =
          { world.publishing worker with tasks := (world.publishing worker).tasks.set index new } :=
        Function.update_self _ _ _
      rw [same] at listed
      rcases List.mem_or_eq_of_mem_set listed with before | same
      · exact .inl before
      · exact .inr ⟨rfl, same⟩
    · have same : (world.set_publish_task owner index new).publishing worker = world.publishing worker :=
        Function.update_of_ne mine _ _
      exact .inl (same ▸ listed)
  cases occurred with
  | publish_started owner index message landed found =>
      rcases moved listed with before | ⟨rfl, rfl⟩
      · exact earlier before
      · cases finished
  | publish_landed owner index message found =>
      rcases moved listed with before | ⟨rfl, rfl⟩
      · exact earlier before
      · cases finished
  | publish_confirmed owner index message found =>
      rcases moved listed with before | ⟨rfl, rfl⟩
      · exact earlier before
      · cases finished
        exact List.mem_cons_self
  | publish_failed owner index message landed found =>
      rcases moved listed with before | ⟨rfl, rfl⟩
      · exact earlier before
      · cases finished
        exact List.mem_cons_self
  | _ => exact earlier listed

theorem PublishesKept.occurred (kept : PublishesKept world) (occurred : World.Occurred world after) :
    PublishesKept after where
  counted := by
    intro claim
    rcases claim_moves_occurred occurred claim with ⟨started, finished, moves⟩
    have before := kept.counted claim
    have calls := moves.calls
    have ends := moves.ends
    have running := moves.running
    omega
  recorded := fun _ _ listed _ finished => recorded_occurred kept occurred listed finished

/-! ## The load of a claim over one step -/

theorem load_executed_of_ne {answer : Except Error op.Answer}
    (executed : World.Executed run world op after answer) {claim : ClaimKey} (different : claim.worker ≠ run) :
    load claim after = load claim world := by
  rw [load, load, calls_executed executed,
    tasks_in_of_publishing .waiting (publishing_executed executed different)]

/-- Only the start of a batch adds to the load of a claim. -/
theorem load_executed_le {answer : Except Error op.Answer}
    (executed : World.Executed run world op after answer)
    (not_publish : forall messages concurrency, op ≠ .publish_all messages concurrency) (claim : ClaimKey) :
    load claim after ≤ load claim world := by
  by_cases mine : claim.worker = run
  · subst mine
    rw [load, load, calls_executed executed]
    refine Nat.add_le_add_left ?_ _
    rcases own_publishing_executed executed with same | none | ⟨messages, concurrency, operation, _⟩
    · exact Nat.le_of_eq (tasks_in_of_publishing .waiting same)
    · exact (tasks_in_none .waiting none).trans_le (Nat.zero_le _)
    · exact absurd operation (not_publish messages concurrency)
  · exact Nat.le_of_eq (load_executed_of_ne executed mine)

/-- A batch loads each claim with the publishes of its own messages. -/
theorem load_publish_all {messages : List OutboxMessage} {concurrency : Int} {answer : Except Error Unit}
    (executed : World.Executed run world (.publish_all messages concurrency) after answer)
    {claim : ClaimKey} (mine : claim.worker = run) :
    load claim after ≤ load claim world ∨
      load claim after = calls claim world.trace +
        messages.countP (fun message => decide (claim_of run message = claim)) := by
  cases executed with
  | raised => exact .inl (Nat.le_refl _)
  | publishes_started messages concurrency =>
      refine .inr (congrArg (calls claim world.trace + ·) ?_)
      subst mine
      have started : (world.set_publishing claim.worker ⟨concurrency, messages.map (fun message =>
          (⟨message, false, .waiting⟩ : PublishTask))⟩).publishing claim.worker =
          ⟨concurrency, messages.map (fun message => ⟨message, false, .waiting⟩)⟩ :=
        Function.update_self _ _ _
      rw [tasks_in, started, List.countP_map]
      refine List.countP_congr (fun message _ => ?_)
      simp

theorem load_crash_le (claim : ClaimKey) : load claim (world.crash run) ≤ load claim world := by
  rw [load, load, same_counts_crash.calls]
  refine Nat.add_le_add_left ?_ _
  by_cases mine : claim.worker = run
  · subst mine
    exact (tasks_in_none .waiting crash_publishing).trans_le (Nat.zero_le _)
  · exact Nat.le_of_eq (tasks_in_of_publishing .waiting (crash_publishing_of_ne mine))

theorem load_crash_of_ne {claim : ClaimKey} (different : claim.worker ≠ run) :
    load claim (world.crash run) = load claim world := by
  rw [load, load, same_counts_crash.calls,
    tasks_in_of_publishing .waiting (crash_publishing_of_ne different)]

end Properties
end Payments

import Mathlib.Tactic.Linarith
import Payments.Properties.OutboxFencing

namespace Payments
namespace Properties

open Concurrency Domain Infrastructure Application Payments.System

/-!
# Exclusive leases under a timing assumption

The lease of a message lasts for `OUTBOX_CLAIM_TIMEOUT` from the time that its
cycle has captured, and other workers compare it with a time of their own.  As
long as the clock does not go backwards and no cycle outlives its lease, nobody
takes a message away from a cycle that has not recorded its marks: the lease is
a lock that is kept outside of any transaction.
-/

variable {deployment : Deployment} {world after : World} {run other : RunId} {op : Op}
  {timeout : Int} {key : UUID} {row : OutboxMessageModel} {recent : List Event}

/-! ## Cycles on record -/

/-- What has become of a cycle since its claims were committed. -/
inductive CycleState where
  | running
  | marked
  | abandoned
  deriving DecidableEq

/-- The events of a run since a commit, newest first.  The next commit records
the marks of the cycle, unless a reading of the clock has begun another one. -/
def cycle : List Event -> CycleState
  | [] => .running
  | event :: older =>
      match cycle older with
      | .running =>
          match event with
          | .committed _ => .marked
          | .clock_read _ => .abandoned
          | _ => .running
      | ended => ended

/-- A commit of the run has claimed the row, and the cycle of this commit has
not recorded its marks.  The events after the commit are `recent`. -/
structure Unmarked (run : RunId) (key : UUID) (row : OutboxMessageModel) (recent : List Event)
    (world : World) : Prop where
  recorded : Exists fun record => Exists fun earlier =>
    world.own run = recent ++ .committed record :: earlier ∧ (key, some row) ∈ record .outbox_messages
  unmarked : cycle recent ≠ .marked
  id : row.id = key
  status : row.status = .PROCESSING
  claimed_by : row.claimed_by = some run

/-- Whatever is not marked yet is still within its lease. -/
def Timely (timeout : Int) (world : World) : Prop :=
  forall run key row recent claimed_at, Unmarked run key row recent world ->
    row.claimed_at = some claimed_at -> world.clock < claimed_at + timeout

/-- The assumption on time: one clock that does not go backwards, readings that
are not ahead of it, and cycles that commit their marks within the lease. -/
structure Timed (timeout : Int) (before after : World) : Prop where
  forward : before.clock ≤ after.clock
  reading : forall run time, after.trace = (.run run, .clock_read time) :: before.trace -> time ≤ after.clock
  timely : Timely timeout after

theorem cycle_eq_running_iff : cycle recent = .running <-> forall event, event ∈ recent -> continues event = true := by
  induction recent with
  | nil => simp [cycle]
  | cons event older inductionHypothesis =>
      rw [List.forall_mem_cons, ← inductionHypothesis]
      cases ended : cycle older with
      | running => cases event <;> simp [cycle, ended, continues]
      | marked => simp [cycle, ended]
      | abandoned => simp [cycle, ended]

theorem cycle_cons_marked {event : Event} (marked : cycle recent = .marked) :
    cycle (event :: recent) = .marked := by
  simp [cycle, marked]

theorem cycle_cons_of_continues {event : Event} (quiet : continues event = true) :
    cycle (event :: recent) = cycle recent := by
  cases ended : cycle recent with
  | running => cases event <;> simp_all [cycle, continues]
  | marked => simp [cycle, ended]
  | abandoned => simp [cycle, ended]

/-- Only a commit completes a cycle. -/
theorem cycle_cons_unmarked {event : Event} (uncommitted : forall record, event ≠ .committed record)
    (unmarked : cycle recent ≠ .marked) : cycle (event :: recent) ≠ .marked := by
  cases ended : cycle recent with
  | running =>
      cases event with
      | committed record => exact absurd rfl (uncommitted record)
      | _ => simp [cycle, ended]
  | marked => exact absurd ended unmarked
  | abandoned => simp [cycle, ended]

/-- A claim is current while its cycle is running. -/
theorem current_iff_running :
    Current run key row world <-> Exists fun recent => Unmarked run key row recent world ∧ cycle recent = .running := by
  constructor
  · intro current
    rcases current.recorded with ⟨recent, record, earlier, own, quiet, found⟩
    have running : cycle recent = .running := cycle_eq_running_iff.mpr quiet
    refine ⟨recent, ⟨⟨record, earlier, own, found⟩, ?_, current.id, current.status, current.claimed_by⟩, running⟩
    rw [running]
    exact fun impossible => by cases impossible
  · rintro ⟨recent, unmarked, running⟩
    rcases unmarked.recorded with ⟨record, earlier, own, found⟩
    exact ⟨⟨recent, record, earlier, own, cycle_eq_running_iff.mp running, found⟩, unmarked.id,
      unmarked.status, unmarked.claimed_by⟩

/-- An element that is counted at most once stands at one place. -/
theorem split_unique {A : Type} {accepts : A -> Bool} {first first' last last' : List A} {element element' : A}
    (same : first ++ element :: last = first' ++ element' :: last')
    (once : (first ++ element :: last).countP accepts ≤ 1) (accepted : accepts element = true)
    (accepted' : accepts element' = true) : first = first' := by
  induction first generalizing first' with
  | nil =>
      cases first' with
      | nil => rfl
      | cons head tail =>
          have parts := List.cons.inj same
          have counted : 0 < last.countP accepts := by
            apply List.countP_pos_iff.mpr
            refine ⟨element', ?_, accepted'⟩
            rw [parts.2]
            exact List.mem_append_right _ List.mem_cons_self
          rw [List.nil_append, List.countP_cons, if_pos accepted] at once
          omega
  | cons head tail inductionHypothesis =>
      cases first' with
      | nil =>
          have parts := List.cons.inj same
          have counted : 0 < (tail ++ element :: last).countP accepts := by
            apply List.countP_pos_iff.mpr
            exact ⟨element, List.mem_append_right _ List.mem_cons_self, accepted⟩
          rw [List.cons_append, List.countP_cons, parts.1, if_pos accepted'] at once
          omega
      | cons head' tail' =>
          have parts := List.cons.inj same
          have fewer : (tail ++ element :: last).countP accepts ≤ 1 := by
            rw [List.cons_append, List.countP_cons] at once
            omega
          rw [parts.1, inductionHypothesis parts.2 fewer]

/-- A message is claimed with the same attempts only once. -/
theorem Unmarked.unique (kept : LeasesKept deployment world) {recent' : List Event}
    (unmarked : Unmarked run key row recent world) (unmarked' : Unmarked run key row recent' world) :
    recent = recent' := by
  rcases unmarked.recorded with ⟨record, earlier, own, found⟩
  rcases unmarked'.recorded with ⟨record', earlier', own', found'⟩
  have claimed : forall record : Record, (key, some row) ∈ record .outbox_messages ->
      claims key (fun attempts => decide (attempts = row.attempts)) (.committed record) = true := by
    intro record found
    apply List.any_eq_true.mpr
    exact ⟨(key, some row), found, by simp [unmarked.status]⟩
  have once : (world.own run).countP (claims key (fun attempts => decide (attempts = row.attempts))) ≤ 1 := by
    calc (world.own run).countP (claims key (fun attempts => decide (attempts = row.attempts)))
        = taken ⟨run, key, row.attempts⟩ world.trace := (taken_own ⟨run, key, row.attempts⟩).symm
      _ ≤ claims_at key row.attempts world.trace := taken_le_claims_at _ _
      _ ≤ 1 := kept.once key row.attempts
  rw [own] at once
  exact split_unique (own.symm.trans own') once (claimed record found) (claimed record' found')

theorem Unmarked.of_own (same : after.own run = world.own run) (unmarked : Unmarked run key row recent after) :
    Unmarked run key row recent world :=
  { unmarked with recorded := same ▸ unmarked.recorded }

/-- What is unmarked after an event was unmarked before, or the event is the
commit of the claim. -/
theorem Unmarked.of_note {event : Event} (noted : after.own run = event :: world.own run)
    (unmarked : Unmarked run key row recent after) :
    (recent = [] ∧ Exists fun record => event = .committed record ∧ (key, some row) ∈ record .outbox_messages) ∨
      Exists fun older => recent = event :: older ∧ Unmarked run key row older world := by
  rcases unmarked.recorded with ⟨record, earlier, own, found⟩
  rw [noted] at own
  cases recent with
  | nil => exact .inl ⟨rfl, record, (List.cons.inj own).1, found⟩
  | cons head tail =>
      have parts := List.cons.inj own
      refine .inr ⟨tail, by rw [parts.1], { unmarked with recorded := ⟨record, earlier, parts.2, found⟩, unmarked := ?_ }⟩
      exact fun marked => unmarked.unmarked (cycle_cons_marked marked)

theorem Unmarked.note {event : Event} (noted : after.own run = event :: world.own run)
    (unmarked : Unmarked run key row recent world) (still : cycle (event :: recent) ≠ .marked) :
    Unmarked run key row (event :: recent) after := by
  rcases unmarked.recorded with ⟨record, earlier, own, found⟩
  refine { unmarked with recorded := ⟨record, earlier, ?_, found⟩, unmarked := still }
  rw [noted, own]
  rfl

/-! ## What a lease protects -/

/-- Every version of the row is processed, and the row is never added again. -/
structure Retired (key : UUID) (world : World) : Prop where
  listed : key ∈ (world.tables .outbox_messages).keys
  processed : forall row, (world.cell .outbox_messages key).Carries row -> row.status = .PROCESSED

/-- A row that is not marked is committed as its cycle has claimed it, and only
this cycle changes it: to processed, unless its publish has failed. -/
structure Protected (run : RunId) (key : UUID) (row : OutboxMessageModel) (recent : List Event)
    (world : World) : Prop where
  committed : (world.cell .outbox_messages key).committed = some row
  locked : forall holder draft, (world.cell .outbox_messages key).lock = some (holder, draft) ->
    holder = run ∧ cycle recent = .running ∧ (forall marked, draft = some marked -> marked.status ≠ .PROCESSING) ∧
      ((.environment, .publish_failed run row.to_domain) ∈ world.trace ∨
        forall marked, draft = some marked -> marked.status = .PROCESSED)

/-- No publish of a message is called after one has been confirmed. -/
def Silent (trace : Trace) : Prop :=
  forall later earlier caller run message message',
    trace = later ++ (.environment, .publish_called caller message) :: earlier ->
      (.environment, .publish_confirmed run message') ∈ earlier -> message'.id ≠ message.id

theorem Silent.cons {entry : Actor × Event} {trace : Trace} (silent : Silent trace)
    (admitted : forall caller message, entry = (.environment, .publish_called caller message) ->
      forall run message', (.environment, .publish_confirmed run message') ∈ trace -> message'.id ≠ message.id) :
    Silent (entry :: trace) := by
  intro later earlier caller run message message' split confirmed
  cases later with
  | nil =>
      have parts := List.cons.inj split
      rw [← parts.2] at confirmed
      exact admitted caller message parts.1 run message' confirmed
  | cons head tail => exact silent tail earlier caller run message message' (List.cons.inj split).2 confirmed

structure LeasesTimed (deployment : Deployment) (timeout : Int) (world : World) : Prop where
  kept : LeasesKept deployment world
  timely : Timely timeout world
  readings : forall run time, (.run run, .clock_read time) ∈ world.trace -> time ≤ world.clock
  guarded : forall run key row recent, Unmarked run key row recent world -> Protected run key row recent world
  tasks : forall run message, message ∈ (world.publishing run).tasks.map PublishTask.message ->
    Exists fun row => Exists fun recent => Unmarked run row.id row recent world ∧ row.to_domain = message
  confirmed : forall run message, (.environment, .publish_confirmed run message) ∈ world.trace ->
    Retired message.id world ∨ Exists fun row => Exists fun recent =>
      Unmarked run row.id row recent world ∧ row.to_domain = message
  silent : Silent world.trace

theorem unmarked_initially : ¬ Unmarked run key row recent World.initial := by
  intro unmarked
  rcases unmarked.recorded with ⟨record, earlier, own, _⟩
  cases recent <;> cases own

theorem leases_timed_initially : LeasesTimed deployment timeout World.initial where
  kept := leases_kept_initially
  timely := fun _ _ _ _ _ unmarked => absurd unmarked unmarked_initially
  readings := by
    intro run time listed
    cases listed
  guarded := fun _ _ _ _ unmarked => absurd unmarked unmarked_initially
  tasks := by
    intro run message listed
    cases listed
  confirmed := by
    intro run message listed
    cases listed
  silent := by
    intro later earlier caller run message message' trace
    cases later <;> cases trace

/-- Two cycles that have not marked a row are the same cycle. -/
theorem LeasesTimed.exclusive (timed : LeasesTimed deployment timeout world) {row' : OutboxMessageModel}
    {recent' : List Event} (unmarked : Unmarked run key row recent world)
    (unmarked' : Unmarked other key row' recent' world) : other = run ∧ row' = row ∧ recent' = recent := by
  have committed := (timed.guarded run key row recent unmarked).committed
  rw [(timed.guarded other key row' recent' unmarked').committed] at committed
  cases committed
  have claimed_by := unmarked'.claimed_by
  rw [unmarked.claimed_by] at claimed_by
  cases claimed_by
  exact ⟨rfl, rfl, unmarked'.unique timed.kept unmarked⟩

/-- What a run sees of a row that is protected. -/
theorem Protected.visible (guarded : Protected run key row recent world) {seen : OutboxMessageModel}
    (visible : (world.cell .outbox_messages key).visible other = some seen) :
    seen = row ∧ ¬ (world.cell .outbox_messages key).HeldBy other ∨
      other = run ∧ cycle recent = .running ∧
        ((.environment, .publish_failed run row.to_domain) ∈ world.trace ∨ seen.status = .PROCESSED) := by
  by_cases held : (world.cell .outbox_messages key).HeldBy other
  · rcases held with ⟨draft, locked⟩
    rw [Cell.visible_of_lock locked] at visible
    subst visible
    rcases guarded.locked other (some seen) locked with ⟨mine, running, _, marked⟩
    exact .inr ⟨mine, running, marked.imp_right (fun marked => marked seen rfl)⟩
  · rw [Cell.visible_of_not_heldBy held, guarded.committed] at visible
    exact .inl ⟨(Option.some.inj visible).symm, held⟩

/-- The new lock of a protected row belongs to its cycle. -/
theorem Protected.written (guarded : Protected run key row recent world) {draft : Option OutboxMessageModel}
    (mine : other = run) (running : cycle recent = .running)
    (unclaimed : forall marked, draft = some marked -> marked.status ≠ .PROCESSING)
    (marked : (.environment, .publish_failed run row.to_domain) ∈ after.trace ∨
      forall marked, draft = some marked -> marked.status = .PROCESSED)
    (same : after.cell .outbox_messages key = (world.cell .outbox_messages key).write other draft) :
    Protected run key row recent after where
  committed := by
    rw [same]
    exact guarded.committed
  locked := by
    intro holder draft' locked
    rw [same] at locked
    cases locked
    exact ⟨mine, running, unclaimed, marked⟩

theorem Protected.mono (guarded : Protected run key row recent world)
    (same : after.cell .outbox_messages key = world.cell .outbox_messages key)
    (grown : world.trace <:+ after.trace) : Protected run key row recent after where
  committed := by
    rw [same]
    exact guarded.committed
  locked := by
    intro holder draft locked
    rw [same] at locked
    rcases guarded.locked holder draft locked with ⟨mine, running, unclaimed, marked⟩
    exact ⟨mine, running, unclaimed, marked.imp_left (fun failed => grown.subset failed)⟩

section Operations

variable (timed : LeasesTimed deployment timeout world)
  (fixed : forall settings, deployment.outbox_settings settings = true -> settings.OUTBOX_CLAIM_TIMEOUT = timeout)
  (permits : LeasePermits deployment run op world)
include timed fixed permits

/-- A cycle within its lease is not released. -/
theorem LeasesTimed.unexpired {cutoff : Datetime} {limit : Int} {recent : List Event}
    (unmarked : Unmarked other key row recent world)
    (releases : op = .update .outbox_messages (.release_to_dead cutoff limit) ∨
      op = .update .outbox_messages (.release_to_pending cutoff limit)) : Update.expired row cutoff = false := by
  rcases permits.releasing cutoff limit releases with ⟨settings, now, allowed, rfl, read⟩
  have below : now ≤ world.clock := by
    simp only [World.own, List.mem_map, List.mem_filter, decide_eq_true_eq] at read
    rcases read with ⟨⟨actor, event⟩, ⟨listed, rfl⟩, rfl⟩
    exact timed.readings run now listed
  cases claimed_at : row.claimed_at with
  | none => simp [Update.expired, claimed_at]
  | some time =>
      have lease := timed.timely other key row recent time unmarked claimed_at
      have early : ¬ time < now - (settings.OUTBOX_CLAIM_TIMEOUT : Rat) := by
        rw [fixed settings allowed]
        linarith
      simp [Update.expired, claimed_at, early]

/-- An update of a protected row is a mark of its cycle. -/
theorem LeasesTimed.protected_update {statement : Update .outbox_messages} {time : Datetime}
    {seen : OutboxMessageModel} (operation : op = .update .outbox_messages statement)
    (unmarked : Unmarked other key row recent world)
    (visible : (world.cell .outbox_messages key).visible run = some seen)
    (selected : statement.condition seen = true) :
    run = other ∧ cycle recent = .running ∧
      ((.environment, .publish_failed other row.to_domain) ∈ world.trace ∨
        (statement.values time seen).status = .PROCESSED) := by
  subst operation
  have not_claim : forall now worker_id, statement ≠ .claim now worker_id := by
    rintro now worker_id rfl
    exact permits.proper.updated now worker_id rfl
  rcases (timed.guarded other key row recent unmarked).visible visible with ⟨rfl, free⟩ | ⟨mine, running, marked⟩
  · have owned : forall message_id worker_id, Update.owned seen message_id worker_id = true ->
        worker_id = run -> run = other ∧ Owns run message_id seen world := by
      intro message_id worker_id selected same
      simp only [Update.owned, Bool.and_eq_true, decide_eq_true_eq, unmarked.claimed_by, Option.some.injEq] at selected
      subst same
      rcases selected with ⟨⟨named, processing⟩, claimed⟩
      have named : key = message_id := unmarked.id.symm.trans named
      subst named
      exact ⟨claimed.symm, visible, processing, by rw [unmarked.claimed_by, claimed]⟩
    have running : forall message_id, run = other -> Current run message_id seen world -> cycle recent = .running := by
      rintro message_id rfl current
      rcases current_iff_running.mp current with ⟨recent', unmarked', running⟩
      have named : key = message_id := unmarked.id.symm.trans current.id
      subst named
      rwa [unmarked.unique timed.kept unmarked']
    cases statement with
    | claim now worker_id => exact absurd rfl (not_claim now worker_id)
    | release_to_dead cutoff limit =>
        have unexpired := timed.unexpired fixed permits unmarked (.inl rfl)
        simp [Update.condition, unexpired] at selected
    | release_to_pending cutoff limit =>
        have unexpired := timed.unexpired fixed permits unmarked (.inr rfl)
        simp [Update.condition, unexpired] at selected
    | mark_processed message_id worker_id =>
        rcases permits.marking message_id worker_id rfl with ⟨same, fenced⟩
        rcases owned message_id worker_id selected same with ⟨mine, owns⟩
        exact ⟨mine, running message_id mine (fenced seen owns).1, .inr rfl⟩
    | mark_publish_failure message_id worker_id limit next_retry_at =>
        rcases permits.failing message_id worker_id limit next_retry_at rfl with ⟨same, fenced⟩
        rcases owned message_id worker_id selected same with ⟨mine, owns⟩
        rcases fenced seen owns with ⟨current, failed, _⟩
        exact ⟨mine, running message_id mine current, .inl (mine ▸ failed)⟩
    | reap_exhausted limit => simp [Update.condition, unmarked.status] at selected
  · refine ⟨mine, running, marked.imp_right (fun processed => ?_)⟩
    exact absurd (.inl processed) (unsettled_of_condition selected not_claim)

/-- Every operation but a commit keeps a row protected. -/
theorem LeasesTimed.protected_executed {answer : Except Error op.Answer}
    (executed : World.Executed run world op after answer) (not_commit : op ≠ .commit)
    (unmarked : Unmarked other key row recent world) : Protected other key row recent after := by
  have guarded := timed.guarded other key row recent unmarked
  have grown := World.trace_executed executed
  cases executed.cell .outbox_messages key with
  | kept same => exact guarded.mono same grown
  | locked query limit seen operation => exact absurd operation (permits.unlocked query limit)
  | updated statement time seen operation visible selected free same =>
      rcases timed.protected_update fixed permits operation unmarked visible selected with ⟨mine, running, marked⟩
      have not_claim : forall now worker_id, statement ≠ .claim now worker_id := by
        rintro now worker_id rfl
        exact permits.proper.updated now worker_id operation
      refine guarded.written mine running ?_ (marked.imp (fun failed => grown.subset failed) ?_) same
      · rintro draft ⟨⟩
        exact status_updated not_claim time
      · rintro processed draft ⟨⟩
        exact processed
  | claimed query limit statement time seen operation visible selected free same =>
      have pending := unsettled_of_claimable selected
      rcases guarded.visible visible with ⟨rfl, _⟩ | ⟨rfl, running, _⟩
      · rw [unmarked.status] at pending
        cases pending
      · rcases permits.proper.claimed query limit statement operation with ⟨now, worker_id, rfl⟩
        have unclaimed := (permits.claiming query limit now worker_id operation).2.2.1 key row
        exact absurd (current_iff_running.mpr ⟨recent, unmarked, running⟩) unclaimed
  | deleted cutoff seen operation table visible selected free same =>
      rcases guarded.visible visible with ⟨rfl, _⟩ | ⟨mine, running, _⟩
      · simp [purgeable, unmarked.status] at selected
      · refine guarded.written mine running ?_ (.inr ?_) same
        · rintro marked ⟨⟩
        · rintro marked ⟨⟩
  | added found operation own vacant same =>
      have committed := guarded.committed
      rw [vacant] at committed
      cases committed
  | inserted found operation table => cases table
  | committed operation => exact absurd operation not_commit
  | released operation same =>
      refine ⟨?_, fun holder draft locked => ?_⟩
      · rw [same, Cell.rollback_committed, guarded.committed]
      · rw [same] at locked
        rcases guarded.locked holder draft (Cell.lock_of_rollback locked).1 with ⟨mine, running, unclaimed, marked⟩
        exact ⟨mine, running, unclaimed, marked.imp_left (fun failed => grown.subset failed)⟩

end Operations

/-- A commit records the marks of the running cycle of its own run, and it
leaves all other leases alone. -/
theorem LeasesTimed.protected_commit (timed : LeasesTimed deployment timeout world)
    (unmarked : Unmarked other key row recent (world.commit run)) :
    Protected other key row recent (world.commit run) := by
  have grown : world.trace <:+ (world.commit run).trace := List.suffix_cons _ _
  by_cases mine : other = run
  · subst mine
    rcases unmarked.of_note World.own_commit with ⟨_, record, same, found⟩ | ⟨older, rfl, before⟩
    · cases same
      have locked : (world.cell .outbox_messages key).lock = some (other, some row) := World.mem_record.mp found
      have installed : (world.commit other).cell .outbox_messages key = ⟨some row, none⟩ := by
        rw [World.cell_commit, Cell.commit_of_lock locked]
      refine ⟨by rw [installed], fun holder draft locked => ?_⟩
      rw [installed] at locked
      cases locked
    · have ended : cycle older ≠ .running := by
        intro running
        apply unmarked.unmarked
        simp [cycle, running]
      have guarded := timed.guarded other key row older before
      have unlocked : forall holder draft, (world.cell .outbox_messages key).lock ≠ some (holder, draft) :=
        fun holder draft locked => ended (guarded.locked holder draft locked).2.1
      have same : (world.commit other).cell .outbox_messages key = world.cell .outbox_messages key := by
        rw [World.cell_commit, Cell.commit_of_not_heldBy (fun ⟨draft, locked⟩ => unlocked other draft locked)]
      refine ⟨by rw [same, guarded.committed], fun holder draft locked => ?_⟩
      rw [same] at locked
      exact absurd locked (unlocked holder draft)
  · have before := unmarked.of_own (World.untouched_commit mine).own
    have guarded := timed.guarded other key row recent before
    have free : ¬ (world.cell .outbox_messages key).HeldBy run := by
      rintro ⟨draft, locked⟩
      exact mine (guarded.locked run draft locked).1.symm
    refine guarded.mono ?_ grown
    rw [World.cell_commit, Cell.commit_of_not_heldBy free]

/-! ## One step -/

/-- What is unmarked after an operation other than a commit was so before. -/
theorem unmarked_before {answer : Except Error op.Answer} (executed : World.Executed run world op after answer)
    (not_commit : op ≠ .commit) (unmarked : Unmarked other key row recent after) :
    Exists fun older => Unmarked other key row older world ∧
      (op = .now ∧ other = run ∨ cycle recent = cycle older) := by
  by_cases mine : other = run
  · subst mine
    rcases executed.trace with same | ⟨event, recorded, same⟩
    · exact ⟨recent, unmarked.of_own (own_of_same same), .inr rfl⟩
    · rcases unmarked.of_note (own_of_trace same) with ⟨_, record, committed, _⟩ | ⟨older, rfl, before⟩
      · subst committed
        cases recorded
        exact absurd rfl not_commit
      · refine ⟨older, before, ?_⟩
        cases recorded with
        | clock_read reading => exact .inl ⟨rfl, rfl⟩
        | committed => exact absurd rfl not_commit
        | _ => exact .inr (cycle_cons_of_continues rfl)
  · exact ⟨recent, unmarked.of_own (executed.untouched mine).own, .inr rfl⟩

/-- A lease ends only with a commit of its own running cycle. -/
theorem Unmarked.executed {answer : Except Error op.Answer} (unmarked : Unmarked other key row recent world)
    (executed : World.Executed run world op after answer)
    (unending : op = .commit -> other = run -> cycle recent = .abandoned) :
    Exists fun recent' => Unmarked other key row recent' after := by
  by_cases mine : other = run
  · subst mine
    rcases executed.trace with same | ⟨event, recorded, same⟩
    · exact ⟨recent, unmarked.of_own (own_of_same same).symm⟩
    · refine ⟨event :: recent, unmarked.note (own_of_trace same) ?_⟩
      by_cases commit : Exists fun record => event = .committed record
      · rcases commit with ⟨record, rfl⟩
        cases recorded
        simp [cycle, unending rfl rfl]
      · exact cycle_cons_unmarked (fun record same => commit ⟨record, same⟩) unmarked.unmarked
  · exact ⟨recent, unmarked.of_own (executed.untouched mine).own.symm⟩

theorem Retired.executed {answer : Except Error op.Answer} (retired : Retired key world) (proper : Proper op)
    (executed : World.Executed run world op after answer) : Retired key after where
  listed := executed.listed retired.listed
  processed := by
    intro row carried
    rcases (executed.cell .outbox_messages key).carries carried with before | written
    · exact retired.processed row before
    · cases written with
      | updated statement time old operation found selected same =>
          have processed := retired.processed old (Cell.carries_of_visible found)
          have not_claim : forall now worker_id, statement ≠ .claim now worker_id := by
            rintro now worker_id rfl
            exact proper.updated now worker_id operation
          exact absurd (.inl processed) (unsettled_of_condition selected not_claim)
      | claimed query limit statement time old operation found selected same =>
          have pending := unsettled_of_claimable selected
          rw [retired.processed old (Cell.carries_of_visible found)] at pending
          cases pending
      | added operation own =>
          subst operation
          rcases executed.add_cases with same | unlisted
          · refine retired.processed row ?_
            rw [World.cell, ← same]
            exact carried
          · exact absurd (own ▸ retired.listed) unlisted
      | inserted new table => cases table

/-- A commit of the running cycle of a confirmed message retires it. -/
theorem LeasesTimed.retired_commit (timed : LeasesTimed deployment timeout world)
    (permits : LeasePermits deployment run .commit world) (unmarked : Unmarked run key row recent world)
    (running : cycle recent = .running)
    (confirmed : (.environment, .publish_confirmed run row.to_domain) ∈ world.trace) :
    Retired key (world.commit run) := by
  have guarded := timed.guarded run key row recent unmarked
  have unowned := permits.committing rfl |>.2 key row (current_iff_running.mpr ⟨recent, unmarked, running⟩) confirmed
  have held : (world.cell .outbox_messages key).HeldBy run := by
    by_contra free
    apply unowned
    refine ⟨?_, unmarked.status, unmarked.claimed_by⟩
    rw [Cell.visible_of_not_heldBy free, guarded.committed]
  rcases held with ⟨draft, locked⟩
  have listed : key ∈ (world.tables .outbox_messages).keys := by
    by_contra absent
    rw [World.cell_of_unlisted absent] at locked
    cases locked
  refine ⟨listed, fun marked carried => ?_⟩
  rw [World.cell_commit, Cell.commit_of_lock locked] at carried
  rcases (guarded.locked run draft locked).2.2.2 with failed | processed
  · exact absurd failed (timed.kept.not_both confirmed)
  · cases carried with
    | committed same => exact processed marked same
    | draft same => cases same

section Executed

variable (timed : LeasesTimed deployment timeout world) (permits : LeasePermits deployment run op world)
  {answer : Except Error op.Answer} (effect : World.Executed run world op after answer)
include timed permits effect

theorem LeasesTimed.guarded_executed
    (fixed : forall settings, deployment.outbox_settings settings = true ->
      settings.OUTBOX_CLAIM_TIMEOUT = timeout)
    (unmarked : Unmarked other key row recent after) :
    Protected other key row recent after := by
  by_cases commit : op = .commit
  · subst commit
    rcases effect.commit_cases with rfl | rfl
    · exact timed.guarded other key row recent unmarked
    · exact timed.protected_commit unmarked
  · rcases unmarked_before effect commit unmarked with ⟨older, before, ⟨rfl, rfl⟩ | same⟩
    · have guarded := timed.guarded other key row older before
      have cell : after.cell .outbox_messages key = world.cell .outbox_messages key := by
        cases effect <;> rfl
      refine ⟨by rw [cell, guarded.committed], fun holder draft locked => ?_⟩
      rw [cell] at locked
      rcases guarded.locked holder draft locked with ⟨rfl, _⟩
      exact absurd before.status (permits.reading rfl key draft row locked guarded.committed)
    · have guarded := timed.protected_executed fixed permits effect commit before
      refine ⟨guarded.committed, fun holder draft locked => ?_⟩
      rw [same]
      exact guarded.locked holder draft locked

theorem LeasesTimed.tasks_executed {message : OutboxMessage}
    (listed : message ∈ (after.publishing other).tasks.map PublishTask.message) :
    Exists fun row => Exists fun recent => Unmarked other row.id row recent after ∧ row.to_domain = message := by
  have before : message ∈ (world.publishing other).tasks.map PublishTask.message ->
      Exists fun row => Exists fun recent => Unmarked other row.id row recent after ∧ row.to_domain = message := by
    intro listed
    rcases timed.tasks other message listed with ⟨row, recent, unmarked, same⟩
    have unending : op = .commit -> other = run -> cycle recent = .abandoned := by
      rintro commit rfl
      rw [(permits.committing commit).1] at listed
      cases listed
    rcases unmarked.executed effect unending with ⟨recent', still⟩
    exact ⟨row, recent', still, same⟩
  by_cases mine : other = run
  · subst mine
    rcases own_publishing_executed effect with same | none | ⟨messages, concurrency, operation, started⟩
    · exact before (same ▸ listed)
    · rw [none] at listed
      cases listed
    · rw [started, List.map_map] at listed
      rcases List.mem_map.mp listed with ⟨message, member, rfl⟩
      rcases ((permits.publishing messages concurrency operation).2 message member).2 with ⟨row, current, same⟩
      rcases current_iff_running.mp current with ⟨recent, unmarked, running⟩
      have unending : op = .commit -> other = other -> cycle recent = .abandoned := by
        intro commit
        rw [operation] at commit
        cases commit
      rcases unmarked.executed effect unending with ⟨recent', still⟩
      exact ⟨row, recent', still, same⟩
  · exact before (publishing_executed effect mine ▸ listed)

theorem LeasesTimed.confirmed_executed {message : OutboxMessage}
    (listed : (.environment, .publish_confirmed other message) ∈ after.trace) :
    Retired message.id after ∨ Exists fun row => Exists fun recent =>
      Unmarked other row.id row recent after ∧ row.to_domain = message := by
  have before : (Actor.environment, Event.publish_confirmed other message) ∈ world.trace := by
    rcases effect.trace with same | ⟨event, recorded, same⟩
    · rwa [same] at listed
    · rw [same] at listed
      rcases List.mem_cons.mp listed with impossible | earlier
      · cases impossible
      · exact earlier
  rcases timed.confirmed other message before with retired | ⟨row, recent, unmarked, rfl⟩
  · exact .inl (retired.executed permits.proper effect)
  · by_cases ending : (op = .commit ∧ other = run) ∧ cycle recent ≠ .abandoned
    · rcases ending with ⟨⟨rfl, rfl⟩, ended⟩
      have running : cycle recent = .running := by
        cases state : cycle recent with
        | running => rfl
        | marked => exact absurd state unmarked.unmarked
        | abandoned => exact absurd state ended
      rcases effect.commit_cases with rfl | rfl
      · exact .inr ⟨row, recent, unmarked, rfl⟩
      · exact .inl (timed.retired_commit permits unmarked running before)
    · have unending : op = .commit -> other = run -> cycle recent = .abandoned := by
        intro commit mine
        by_contra ended
        exact ending ⟨⟨commit, mine⟩, ended⟩
      rcases unmarked.executed effect unending with ⟨recent', still⟩
      exact .inr ⟨row, recent', still, rfl⟩

theorem LeasesTimed.executed
    (fixed : forall settings, deployment.outbox_settings settings = true ->
      settings.OUTBOX_CLAIM_TIMEOUT = timeout)
    (step : Timed timeout world after) : LeasesTimed deployment timeout after where
  kept := timed.kept.executed permits effect
  timely := step.timely
  readings := by
    intro reader time listed
    have before : (Actor.run reader, Event.clock_read time) ∈ world.trace -> time ≤ after.clock :=
      fun earlier => (timed.readings reader time earlier).trans step.forward
    rcases effect.trace with same | ⟨event, recorded, same⟩
    · exact before (same ▸ listed)
    · rw [same] at listed
      rcases List.mem_cons.mp listed with new | earlier
      · rw [← new] at same
        exact step.reading reader time same
      · exact before earlier
  guarded := fun _ _ _ _ unmarked => timed.guarded_executed permits effect fixed unmarked
  tasks := fun _ _ listed => timed.tasks_executed permits effect listed
  confirmed := fun _ _ listed => timed.confirmed_executed permits effect listed
  silent := by
    rcases effect.trace with same | ⟨event, recorded, same⟩
    · rw [same]
      exact timed.silent
    · rw [same]
      refine timed.silent.cons (fun caller message called => ?_)
      cases called

end Executed

/-- A step that installs nothing and begins no cycle. -/
theorem LeasesTimed.of_quiet (timed : LeasesTimed deployment timeout world) (kept : LeasesKept deployment after)
    (step : Timed timeout world after) (grown : world.trace <:+ after.trace)
    (own : forall run, after.own run = world.own run ∨
      Exists fun event => continues event = true ∧ after.own run = event :: world.own run)
    (listed : forall key, key ∈ (world.tables .outbox_messages).keys -> key ∈ (after.tables .outbox_messages).keys)
    (cells : forall key, after.cell .outbox_messages key = world.cell .outbox_messages key ∨
      Exists fun run => after.cell .outbox_messages key = (world.cell .outbox_messages key).rollback run)
    (readings : forall run time, (.run run, .clock_read time) ∈ after.trace ->
      (.run run, .clock_read time) ∈ world.trace)
    (tasks : forall run, (after.publishing run).tasks.map PublishTask.message ⊆
      (world.publishing run).tasks.map PublishTask.message)
    (confirmed : forall run message, (.environment, .publish_confirmed run message) ∈ after.trace ->
      (.environment, .publish_confirmed run message) ∈ world.trace ∨
        message ∈ (world.publishing run).tasks.map PublishTask.message)
    (silent : Silent after.trace) : LeasesTimed deployment timeout after := by
  have forth : forall {run key row recent}, Unmarked run key row recent world ->
      Exists fun recent' => Unmarked run key row recent' after := by
    intro run key row recent unmarked
    rcases own run with same | ⟨event, quiet, noted⟩
    · exact ⟨recent, unmarked.of_own same.symm⟩
    · refine ⟨event :: recent, unmarked.note noted ?_⟩
      rw [cycle_cons_of_continues quiet]
      exact unmarked.unmarked
  have back : forall {run key row recent}, Unmarked run key row recent after ->
      Exists fun older => Unmarked run key row older world ∧ cycle recent = cycle older := by
    intro run key row recent unmarked
    rcases own run with same | ⟨event, quiet, noted⟩
    · exact ⟨recent, unmarked.of_own same, rfl⟩
    · rcases unmarked.of_note noted with ⟨_, record, rfl, _⟩ | ⟨older, rfl, before⟩
      · cases quiet
      · exact ⟨older, before, cycle_cons_of_continues quiet⟩
  have carried : forall {key row}, (after.cell .outbox_messages key).Carries row ->
      (world.cell .outbox_messages key).Carries row := by
    intro key row carried
    rcases cells key with same | ⟨run, same⟩
    · exact same ▸ carried
    · rw [same] at carried
      exact Cell.carries_of_rollback carried
  have published : forall {run message}, message ∈ (world.publishing run).tasks.map PublishTask.message ->
      Exists fun row => Exists fun recent => Unmarked run row.id row recent after ∧ row.to_domain = message := by
    intro run message listed
    rcases timed.tasks run message listed with ⟨row, recent, unmarked, same⟩
    rcases forth unmarked with ⟨recent', still⟩
    exact ⟨row, recent', still, same⟩
  refine ⟨kept, step.timely, ?_, ?_, fun run message listed => published (tasks run listed), ?_, silent⟩
  · exact fun run time read => (timed.readings run time (readings run time read)).trans step.forward
  · intro run key row recent unmarked
    rcases back unmarked with ⟨older, before, same⟩
    have guarded := timed.guarded run key row older before
    rcases cells key with unchanged | ⟨ender, unchanged⟩
    · refine ⟨by rw [unchanged, guarded.committed], fun holder draft locked => ?_⟩
      rw [unchanged] at locked
      rcases guarded.locked holder draft locked with ⟨mine, running, unclaimed, marked⟩
      exact ⟨mine, same.trans running, unclaimed, marked.imp_left (fun failed => grown.subset failed)⟩
    · refine ⟨by rw [unchanged, Cell.rollback_committed, guarded.committed], fun holder draft locked => ?_⟩
      rw [unchanged] at locked
      rcases guarded.locked holder draft (Cell.lock_of_rollback locked).1 with ⟨mine, running, unclaimed, marked⟩
      exact ⟨mine, same.trans running, unclaimed, marked.imp_left (fun failed => grown.subset failed)⟩
  · intro run message ended
    rcases confirmed run message ended with before | listed
    · rcases timed.confirmed run message before with retired | ⟨row, recent, unmarked, same⟩
      · exact .inl ⟨listed _ retired.listed, fun row found => retired.processed row (carried found)⟩
      · rcases forth unmarked with ⟨recent', still⟩
        exact .inr ⟨row, recent', still, same⟩
    · exact .inr (published listed)

theorem LeasesTimed.crash (timed : LeasesTimed deployment timeout world)
    (step : Timed timeout world (world.crash run)) : LeasesTimed deployment timeout (world.crash run) := by
  have trace : (world.crash run).trace = (.run run, .rolled_back) :: world.trace := World.crash_trace
  have old : forall {entry : Actor × Event}, entry ∈ (world.crash run).trace -> entry.2 ≠ .rolled_back ->
      entry ∈ world.trace := by
    intro entry listed other
    rw [trace] at listed
    rcases List.mem_cons.mp listed with rfl | before
    · exact absurd rfl other
    · exact before
  refine timed.of_quiet timed.kept.crash step World.trace_crash (fun other => ?_) (fun _ => World.crash_listed)
    (fun key => .inr ⟨run, World.crash_cell .outbox_messages key⟩) ?_ (fun other => ?_) ?_ ?_
  · by_cases mine : other = run
    · subst mine
      exact .inr ⟨.rolled_back, rfl, World.own_crash⟩
    · exact .inl (World.crash_untouched mine).own
  · exact fun _ _ listed => old listed (fun impossible => by cases impossible)
  · by_cases mine : other = run
    · subst mine
      rw [crash_publishing]
      exact fun _ listed => by cases listed
    · rw [crash_publishing_of_ne mine]
      exact fun _ listed => listed
  · exact fun _ _ listed => .inl (old listed (fun impossible => by cases impossible))
  · rw [trace]
    refine timed.silent.cons (fun caller message called => ?_)
    cases called

theorem LeasesTimed.delivered (timed : LeasesTimed deployment timeout world) {message : Message}
    (step : Timed timeout world (deliver run message world)) :
    LeasesTimed deployment timeout (deliver run message world) := by
  have trace : (deliver run message world).trace = (.run run, .delivered message) :: world.trace := rfl
  have old : forall {entry : Actor × Event}, entry ∈ (deliver run message world).trace ->
      entry.2 ≠ .delivered message -> entry ∈ world.trace := by
    intro entry listed other
    rw [trace] at listed
    rcases List.mem_cons.mp listed with rfl | before
    · exact absurd rfl other
    · exact before
  refine timed.of_quiet (timed.kept.delivered message _) step (List.suffix_cons _ _) (fun other => ?_)
    (fun _ listed => listed) (fun _ => .inl rfl) ?_ (fun _ _ listed => listed) ?_ ?_
  · by_cases mine : other = run
    · subst mine
      exact .inr ⟨.delivered message, rfl, own_deliver⟩
    · exact .inl (untouched_deliver mine).own
  · exact fun _ _ listed => old listed (fun impossible => by cases impossible)
  · exact fun _ _ listed => .inl (old listed (fun impossible => by cases impossible))
  · rw [trace]
    refine timed.silent.cons (fun caller message called => ?_)
    cases called

/-- A publish is not called when one of the message has been confirmed. -/
theorem LeasesTimed.unconfirmed (timed : LeasesTimed deployment timeout world) {index : Nat}
    {message message' : OutboxMessage} {landed : Bool}
    (found : (world.publishing run).tasks[index]? = some ⟨message, landed, .waiting⟩)
    (confirmed : (.environment, .publish_confirmed other message') ∈ world.trace) :
    message'.id ≠ message.id := by
  intro same
  have listed := List.mem_of_getElem? found
  rcases timed.tasks run message (List.mem_map.mpr ⟨_, listed, rfl⟩) with ⟨row, recent, unmarked, rfl⟩
  have committed := (timed.guarded run row.id row recent unmarked).committed
  rcases timed.confirmed other message' confirmed with retired | ⟨row', recent', unmarked', rfl⟩
  · have processed := retired.processed row (same ▸ .committed committed)
    rw [unmarked.status] at processed
    cases processed
  · have named : row'.id = row.id := same
    rcases timed.exclusive unmarked (named ▸ unmarked') with ⟨rfl, rfl, _⟩
    have ending : 1 ≤ ends (claim_of other row'.to_domain) world.trace :=
      List.countP_pos_iff.mpr ⟨_, confirmed, by simp [ended]⟩
    have waiting : 1 ≤ tasks_in (claim_of other row'.to_domain) .waiting world :=
      List.countP_pos_iff.mpr ⟨_, listed, by simp [claim_of]⟩
    have called := timed.kept.publishes.counted (claim_of other row'.to_domain)
    have loaded : load (claim_of other row'.to_domain) world ≤ 1 := by
      calc load (claim_of other row'.to_domain) world
          ≤ taken (claim_of other row'.to_domain) world.trace := timed.kept.loads _
        _ ≤ claims_at row'.to_domain.id row'.to_domain.attempts world.trace := taken_le_claims_at _ _
        _ ≤ 1 := timed.kept.once _ _
    rw [load] at loaded
    omega

theorem LeasesTimed.occurred (timed : LeasesTimed deployment timeout world)
    (occurred : World.Occurred world after) (step : Timed timeout world after) :
    LeasesTimed deployment timeout after := by
  refine timed.of_quiet (timed.kept.occurred occurred) step (World.trace_occurred occurred)
    (fun run => .inl (occurred.untouched run).own) (fun key listed => occurred.tables ▸ listed)
    (fun key => .inl (occurred.cell .outbox_messages key)) ?_ (fun run => ?_) ?_ ?_
  · intro run time listed
    rcases occurred.trace with same | ⟨event, _, same⟩
    · exact same ▸ listed
    · rw [same] at listed
      rcases List.mem_cons.mp listed with impossible | before
      · cases impossible
      · exact before
  · rw [messages_of_advances (occurred.untouched run).publishing]
    exact fun _ listed => listed
  · intro run message listed
    cases occurred with
    | publish_confirmed owner index message' found =>
        rcases List.mem_cons.mp listed with new | before
        · cases new
          exact .inr (List.mem_map.mpr ⟨_, List.mem_of_getElem? found, rfl⟩)
        · exact .inl before
    | publish_started owner index message' landed found =>
        exact .inl ((List.mem_cons.mp listed).resolve_left (fun impossible => by cases impossible))
    | publish_failed owner index message' landed found =>
        exact .inl ((List.mem_cons.mp listed).resolve_left (fun impossible => by cases impossible))
    | send_started owner index delivery request found =>
        exact .inl ((List.mem_cons.mp listed).resolve_left (fun impossible => by cases impossible))
    | send_finished owner index delivery request outcome found =>
        exact .inl ((List.mem_cons.mp listed).resolve_left (fun impossible => by cases impossible))
    | _ => exact .inl listed
  · cases occurred with
    | publish_started owner index message landed found =>
        refine timed.silent.cons (fun caller message' called run message'' confirmed => ?_)
        cases called
        exact timed.unconfirmed found confirmed
    | publish_confirmed owner index message found =>
        exact timed.silent.cons (fun _ _ called => by cases called)
    | publish_failed owner index message landed found =>
        exact timed.silent.cons (fun _ _ called => by cases called)
    | send_started owner index delivery request found =>
        exact timed.silent.cons (fun _ _ called => by cases called)
    | send_finished owner index delivery request outcome found =>
        exact timed.silent.cons (fun _ _ called => by cases called)
    | _ => exact timed.silent

/-! ## Whole runs -/

def lease_timing (deployment : Deployment) (timeout : Int) : Discipline (service deployment) where
  inv := LeasesTimed deployment timeout
  evolves := fun _ _ => True
  frame := fun _ _ _ => True
  permits := LeasePermits deployment
  allowed := Timed timeout
  evolves_refl := fun _ => trivial
  evolves_trans := fun _ _ => trivial
  frame_refl := fun _ _ => trivial
  frame_trans := fun _ _ => trivial

theorem lease_timing_upheld
    (fixed : forall settings, deployment.outbox_settings settings = true ->
      settings.OUTBOX_CLAIM_TIMEOUT = timeout) : (lease_timing deployment timeout).Upheld World.initial where
  initially := leases_timed_initially
  starts := by
    intro run job world after timed begun step
    refine ⟨?_, trivial, fun _ _ => trivial⟩
    rcases start_cases begun with rfl | ⟨settings, message, _, _, rfl⟩
    · exact timed
    · exact timed.delivered step
  operations := by
    intro run op choice world after answer timed permits ran step
    exact ⟨timed.executed permits (service_executed ran) fixed step, trivial, fun _ _ => trivial⟩
  crashes := fun run world timed step => ⟨timed.crash step, trivial, fun _ _ => trivial⟩
  environment := by
    intro event world after timed happened step
    exact ⟨timed.occurred (World.happen_occurred happened) step, trivial, fun _ => trivial⟩

theorem leases_timed
    (fixed : forall settings, deployment.outbox_settings settings = true ->
      settings.OUTBOX_CLAIM_TIMEOUT = timeout) {state : (service deployment).State}
    (reached : Machine.Reachable (Timed timeout) World.initial state) :
    LeasesTimed deployment timeout state.shared :=
  (lease_timing_upheld fixed).reachable (fun _ earlier _ _ _ _ running _ =>
    (outbox_verified deployment).permitted (earlier.mono (fun _ _ _ => trivial)) running) reached

/-- The message belongs to a batch of the worker that is not marked yet: its
claim is in the worker's open transaction, or committed in a cycle that has not
recorded its marks. -/
inductive InHand (worker : RunId) (key : UUID) (world : World) : Prop where
  | claiming (draft : OutboxMessageModel)
      (locked : (world.cell .outbox_messages key).lock = some (worker, some draft))
      (status : draft.status = .PROCESSING)
  | claimed (row : OutboxMessageModel) (recent : List Event) (unmarked : Unmarked worker key row recent world)

/-- As long as every cycle marks its messages within its lease, no two workers
publish one message at the same time, no message is in the batches of two
workers or in two batches of one worker, and a message whose publish has been
confirmed is never published again. -/
theorem leases_exclusive
    (fixed : forall settings, deployment.outbox_settings settings = true ->
      settings.OUTBOX_CLAIM_TIMEOUT = timeout) {state : (service deployment).State}
    (reached : Machine.Reachable (Timed timeout) World.initial state) :
    (forall first second task task', task ∈ (state.shared.publishing first).tasks ->
      task' ∈ (state.shared.publishing second).tasks -> task.state = .running -> task'.state = .running ->
      task.message.id = task'.message.id -> first = second) ∧
    (forall first second key, InHand first key state.shared -> InHand second key state.shared -> first = second) ∧
    (forall worker key row recent, Unmarked worker key row recent state.shared ->
      (forall row' recent', Unmarked worker key row' recent' state.shared -> recent = recent') ∧
      forall draft, (state.shared.cell .outbox_messages key).lock = some (worker, some draft) ->
        draft.status ≠ .PROCESSING) ∧
    (forall later earlier caller worker message message',
      state.shared.trace = later ++ (.environment, .publish_called caller message) :: earlier ->
      (.environment, .publish_confirmed worker message') ∈ earlier -> message'.id ≠ message.id) := by
  have timed := leases_timed fixed reached
  have locked_by : forall {first second key row recent draft}, Unmarked first key row recent state.shared ->
      (state.shared.cell .outbox_messages key).lock = some (second, draft) -> first = second :=
    fun unmarked locked => ((timed.guarded _ _ _ _ unmarked).locked _ _ locked).1.symm
  refine ⟨?_, ?_, ?_, timed.silent⟩
  · intro first second task task' listed listed' _ _ same
    rcases timed.tasks first task.message (List.mem_map.mpr ⟨task, listed, rfl⟩) with ⟨row, recent, unmarked, own⟩
    rcases timed.tasks second task'.message (List.mem_map.mpr ⟨task', listed', rfl⟩) with
      ⟨row', recent', unmarked', own'⟩
    have named : row'.id = row.id := by
      rw [← own, ← own'] at same
      exact same.symm
    exact (timed.exclusive unmarked (named ▸ unmarked')).1.symm
  · intro first second key inHand inHand'
    cases inHand with
    | claiming draft locked _ =>
        cases inHand' with
        | claiming draft' locked' _ =>
            rw [locked] at locked'
            cases locked'
            rfl
        | claimed row recent unmarked => exact (locked_by unmarked locked).symm
    | claimed row recent unmarked =>
        cases inHand' with
        | claiming draft locked _ => exact locked_by unmarked locked
        | claimed row' recent' unmarked' => exact (timed.exclusive unmarked unmarked').1.symm
  · intro worker key row recent unmarked
    refine ⟨fun row' recent' unmarked' => (timed.exclusive unmarked unmarked').2.2.symm, fun draft locked => ?_⟩
    exact ((timed.guarded worker key row recent unmarked).locked worker _ locked).2.2.1 draft rfl

/-- Every claim on record is still within its lease, and every reading of the
clock is past. -/
def prompt (timeout : Int) (before after : World) : Bool :=
  decide (before.clock ≤ after.clock) && after.trace.all (fun entry =>
    match entry.2 with
    | .clock_read time => decide (time ≤ after.clock)
    | .committed record =>
        (record .outbox_messages).all (fun change => change.2.all (fun (row : OutboxMessageModel) =>
          row.claimed_at.all (fun claimed_at => decide (after.clock < claimed_at + timeout))))
    | _ => true)

theorem timed_of_prompt {before : World} (checked : prompt timeout before after = true) :
    Timed timeout before after := by
  simp only [prompt, Bool.and_eq_true, decide_eq_true_eq, List.all_eq_true] at checked
  rcases checked with ⟨forward, entries⟩
  refine ⟨forward, fun run time trace => ?_, fun run key row recent claimed_at unmarked claimed => ?_⟩
  · have read := entries (.run run, .clock_read time) (trace ▸ List.mem_cons_self)
    simpa using read
  · rcases unmarked.recorded with ⟨record, earlier, own, found⟩
    have listed : Event.committed record ∈ after.own run := by
      rw [own]
      exact List.mem_append_right _ List.mem_cons_self
    simp only [World.own, List.mem_map, List.mem_filter] at listed
    rcases listed with ⟨⟨actor, event⟩, ⟨listed, _⟩, rfl⟩
    have rows := entries (actor, .committed record) listed
    simp only [List.all_eq_true] at rows
    have lease := rows (key, some row) found
    simpa [claimed] using lease

def five_minutes : Deployment where
  outbox_settings := fun settings => decide (settings.OUTBOX_CLAIM_TIMEOUT = 300)
  retry_policy := .of_defaults

/-- Run 0 creates a payment with the outbox message 2, worker 1 claims and
publishes this message, and worker 3 begins a cycle before the marks. -/
def two_workers : List (service five_minutes).Action :=
  [.env (.tick 10), .start 0 (.create ten_dollars), .perform 0 (.calm 0 0), .perform 0 (.calm 0 1),
    .perform 0 (.calm 0 0), .perform 0 (.calm 0 2), .perform 0 (.calm 0 0), .perform 0 (.calm 0 0),
    .perform 0 (.calm 0 0), .start 1 (.outbox {} 1), .perform 1 (.calm 10 0), .perform 1 (.calm 10 0),
    .perform 1 (.calm 10 0), .perform 1 (.calm 10 0), .perform 1 (.calm 10 0), .perform 1 (.calm 10 0),
    .perform 1 (.calm 10 0), .env (.start_publish 1 0), .env (.land_publish 1 0),
    .env (.finish_publish 1 0 true), .start 3 (.outbox {} 1), .perform 3 (.calm 10 0), .perform 3 (.calm 10 0),
    .perform 3 (.calm 10 0), .perform 3 (.calm 10 0)]

theorem second_worker_excluded :
    Exists fun state : (service five_minutes).State =>
      ((state.shared.publishing 1).tasks.map (fun task => task.message.id) = [2]) ∧
        forall later earlier caller message, state.shared.trace =
          later ++ (.environment, .publish_called caller message) :: earlier ->
          (.environment, .publish_confirmed 1 message) ∉ earlier := by
  have published : (Machine.runChecked (prompt 300) (Machine.fresh World.initial) two_workers).map (fun state =>
      (state.shared.publishing 1).tasks.map (fun task => task.message.id)) = some [2] := by
    decide +kernel
  rcases Option.map_eq_some_iff.mp published with ⟨state, ran, found⟩
  have fixed : forall settings, five_minutes.outbox_settings settings = true ->
      settings.OUTBOX_CLAIM_TIMEOUT = 300 := fun settings allowed => of_decide_eq_true allowed
  have reached : Machine.Reachable (Timed 300) World.initial state :=
    Machine.Path.of_runChecked (fun _ _ => timed_of_prompt) two_workers ran
  refine ⟨state, found, fun later earlier caller message trace confirmed => ?_⟩
  exact (leases_exclusive fixed reached).2.2.2 later earlier caller 1 message message trace confirmed rfl

end Properties
end Payments

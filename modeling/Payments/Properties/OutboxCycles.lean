import Payments.Properties.OutboxDiscipline

namespace Payments
namespace Properties

open Concurrency Domain Infrastructure Application Prog UnitOfWork Payments.System

/-!
# The cycle of an outbox worker

A worker claims a batch in one transaction, publishes it outside of any
transaction, and records the results in a second one.  Between the two other
workers may release and claim its messages again.  What the worker can rely on
is that nobody else claims a message in its name: a message that it still sees
as its own is therefore in the state in which this very cycle has claimed it.
-/

variable {deployment : Deployment} {world after : World} {run : RunId} {op : Op}
  {settings : Settings}

/-- An assertion of the outbox discipline. -/
def knows (run : RunId) (holds : World -> Prop)
    (stable : forall before after, LeaseFrame run before after -> LeasesEvolve before after ->
      holds before -> holds after) : (outbox_discipline deployment).Assertion run where
  holds := holds
  stable := fun before rely _ => stable _ _ rely.1 rely.2 before

/-! ## What a worker knows in each part of a cycle -/

/-- Between two transactions. -/
structure Resting (run : RunId) (world : World) : Prop where
  free : Free run world
  idle : Idle run world

/-- A cycle has begun with a reading of the clock. -/
structure Opened (run : RunId) (now : Datetime) (world : World) : Prop where
  unleased : Unleased run world
  idle : Idle run world
  unclaimed : Unclaimed run world
  read : .clock_read now ∈ world.own run

/-- The rows are what the transaction has claimed. -/
structure Drafted (run : RunId) (rows : List OutboxMessageModel) (world : World) : Prop where
  idle : Idle run world
  unclaimed : Unclaimed run world
  drafts : forall key row, (world.cell .outbox_messages key).lock = some (run, some row) ∧
    row.status = .PROCESSING <-> row ∈ rows ∧ row.id = key
  nodup : (rows.map OutboxMessageModel.id).Nodup

/-- The rows are what the current cycle has claimed, and what the worker still
sees as its own is as it was claimed. -/
structure Batch (run : RunId) (rows : List OutboxMessageModel) (world : World) : Prop where
  current : forall key row, Current run key row world <-> row ∈ rows ∧ row.id = key
  fenced : forall key row held, Owns run key row world -> Current run key held world -> row = held
  nodup : (rows.map OutboxMessageModel.id).Nodup

/-- The claims of the batch have been committed and nothing is published yet. -/
structure Ready (run : RunId) (rows : List OutboxMessageModel) (world : World) : Prop where
  resting : Resting run world
  batch : Batch run rows world
  unloaded : forall row, row ∈ rows -> load (claim_of run row.to_domain) world = 0

structure Publishing (run : RunId) (rows : List OutboxMessageModel) (world : World) : Prop where
  free : Free run world
  batch : Batch run rows world
  tasks : (world.publishing run).tasks.map PublishTask.message = rows.map OutboxMessageModel.to_domain

/-- Every publish of the batch has ended, and its result is on record. -/
structure Results (run : RunId) (rows : List OutboxMessageModel)
    (results : List (OutboxMessage × Bool)) (world : World) : Prop where
  idle : Idle run world
  batch : Batch run rows world
  messages : results.map Prod.fst = rows.map OutboxMessageModel.to_domain
  recorded : forall result, result ∈ results ->
    (.environment, outcome_event run result.1 result.2) ∈ world.trace

/-- The messages that are published and not `remaining` are marked. -/
structure Marking (run : RunId) (rows : List OutboxMessageModel)
    (results : List (OutboxMessage × Bool)) (published remaining : List UUID) (world : World) : Prop where
  unleased : Unleased run world
  results : Results run rows results world
  subset : remaining ⊆ published
  marked : forall id, id ∈ published -> id ∈ remaining ∨ forall row, ¬ Owns run id row world

theorem Resting.stable (resting : Resting run world) (frame : LeaseFrame run world after) :
    Resting run after :=
  ⟨resting.free.stable frame, resting.idle.stable frame⟩

theorem Opened.stable {now : Datetime} (opened : Opened run now world)
    (frame : LeaseFrame run world after) : Opened run now after :=
  ⟨opened.unleased.stable frame, opened.idle.stable frame, opened.unclaimed.stable frame,
    frame.untouched.own ▸ opened.read⟩

theorem lock_stable {key : UUID} {draft : Option OutboxMessageModel} (frame : LeaseFrame run world after) :
    (after.cell .outbox_messages key).lock = some (run, draft) <->
      (world.cell .outbox_messages key).lock = some (run, draft) := by
  have cells := frame.untouched.tables .outbox_messages key
  constructor
  · intro locked
    have same : after.cell .outbox_messages key = world.cell .outbox_messages key := cells (.inr ⟨draft, locked⟩)
    exact same ▸ locked
  · intro locked
    have same : after.cell .outbox_messages key = world.cell .outbox_messages key := cells (.inl ⟨draft, locked⟩)
    exact same.symm ▸ locked

theorem Drafted.stable {rows : List OutboxMessageModel} (drafted : Drafted run rows world)
    (frame : LeaseFrame run world after) : Drafted run rows after where
  idle := drafted.idle.stable frame
  unclaimed := drafted.unclaimed.stable frame
  drafts := by
    intro key row
    rw [lock_stable frame]
    exact drafted.drafts key row
  nodup := drafted.nodup

theorem current_of_own {key : UUID} {row : OutboxMessageModel} (same : after.own run = world.own run) :
    Current run key row after <-> Current run key row world :=
  ⟨fun current => current.of_own same, fun current => current.of_own same.symm⟩

theorem Batch.mono {rows : List OutboxMessageModel} (batch : Batch run rows world)
    (current : forall key row, Current run key row after <-> Current run key row world)
    (leases : forall key row, Owns run key row after -> Owns run key row world) : Batch run rows after where
  current := fun key row => (current key row).trans (batch.current key row)
  fenced := fun key row held owns now => batch.fenced key row held (leases key row owns) ((current key held).mp now)
  nodup := batch.nodup

theorem Batch.stable {rows : List OutboxMessageModel} (batch : Batch run rows world)
    (frame : LeaseFrame run world after) : Batch run rows after :=
  batch.mono (fun _ _ => current_of_own frame.untouched.own) frame.leases

theorem Ready.stable {rows : List OutboxMessageModel} (ready : Ready run rows world)
    (frame : LeaseFrame run world after) : Ready run rows after where
  resting := ready.resting.stable frame
  batch := ready.batch.stable frame
  unloaded := fun row listed => (frame.loads _ rfl).trans (ready.unloaded row listed)

theorem messages_of_advances {before later : Gather PublishTask}
    (advances : before.Advances PublishTask.Advances later) :
    later.tasks.map PublishTask.message = before.tasks.map PublishTask.message := by
  have general : forall {first second : List PublishTask}, List.Forall₂ PublishTask.Advances first second ->
      second.map PublishTask.message = first.map PublishTask.message := by
    intro first second tasks
    induction tasks with
    | nil => rfl
    | cons head tail inductionHypothesis =>
        rw [List.map_cons, List.map_cons, head.message, inductionHypothesis]
  exact general advances.tasks

theorem Publishing.stable {rows : List OutboxMessageModel} (publishing : Publishing run rows world)
    (frame : LeaseFrame run world after) : Publishing run rows after where
  free := publishing.free.stable frame
  batch := publishing.batch.stable frame
  tasks := (messages_of_advances frame.untouched.publishing).trans publishing.tasks

theorem Results.stable {rows : List OutboxMessageModel} {results : List (OutboxMessage × Bool)}
    (known : Results run rows results world) (frame : LeaseFrame run world after)
    (evolves : LeasesEvolve world after) : Results run rows results after where
  idle := known.idle.stable frame
  batch := known.batch.stable frame
  messages := known.messages
  recorded := fun result listed => evolves.trace.subset (known.recorded result listed)

theorem Marking.stable {rows : List OutboxMessageModel} {results : List (OutboxMessage × Bool)}
    {published remaining : List UUID} (marking : Marking run rows results published remaining world)
    (frame : LeaseFrame run world after) (evolves : LeasesEvolve world after) :
    Marking run rows results published remaining after where
  unleased := marking.unleased.stable frame
  results := marking.results.stable frame evolves
  subset := marking.subset
  marked := by
    intro id listed
    rcases marking.marked id listed with remaining | unowned
    · exact .inl remaining
    · exact .inr (fun row owns => unowned row (frame.leases id row owns))

def resting (run : RunId) : (outbox_discipline deployment).Assertion run :=
  knows run (Resting run) (fun _ _ frame _ known => known.stable frame)

def idle (run : RunId) : (outbox_discipline deployment).Assertion run :=
  knows run (Idle run) (fun _ _ frame _ known => known.stable frame)

def opened (run : RunId) (now : Datetime) : (outbox_discipline deployment).Assertion run :=
  knows run (Opened run now) (fun _ _ frame _ known => known.stable frame)

/-- The messages are the claimed rows. -/
def drafted (run : RunId) (messages : List OutboxMessage) : (outbox_discipline deployment).Assertion run :=
  knows run (fun world => Exists fun rows => messages = rows.map OutboxMessageModel.to_domain ∧
      Drafted run rows world)
    (fun _ _ frame _ known => by
      rcases known with ⟨rows, same, drafted⟩
      exact ⟨rows, same, drafted.stable frame⟩)

def ready (run : RunId) (messages : List OutboxMessage) : (outbox_discipline deployment).Assertion run :=
  knows run (fun world => Exists fun rows => messages = rows.map OutboxMessageModel.to_domain ∧
      Ready run rows world)
    (fun _ _ frame _ known => by
      rcases known with ⟨rows, same, ready⟩
      exact ⟨rows, same, ready.stable frame⟩)

def publishing (run : RunId) (messages : List OutboxMessage) :
    (outbox_discipline deployment).Assertion run :=
  knows run (fun world => Exists fun rows => messages = rows.map OutboxMessageModel.to_domain ∧
      Publishing run rows world)
    (fun _ _ frame _ known => by
      rcases known with ⟨rows, same, publishing⟩
      exact ⟨rows, same, publishing.stable frame⟩)

/-! ## Transactions of a worker -/

theorem idle_rollback {answer : Except Error Unit} {choice : Choice} (known : Idle run world)
    (ran : World.exec run .rollback choice world = some (after, answer)) : Idle run after := by
  rw [World.exec_rollback_eq ran]
  exact known

theorem resting_close {answer : Except Error Unit} {choice : Choice} (known : Idle run world)
    (ran : World.exec run .close choice world = some (after, answer)) : Resting run after := by
  rw [World.exec_close_eq ran]
  exact ⟨fun _ => Cell.not_heldBy_rollback, known⟩

theorem idle_rollback_triple : (outbox_discipline deployment).Triple (idle run) (await .rollback)
    (fun _ => idle run) (fun _ => idle run) := by
  refine Discipline.Triple.perform (fun world _ _ => ?_) (fun _ _ _ _ _ known ran _ _ => ?_)
    (fun _ _ _ _ _ known ran _ _ => ?_)
  · exact (no_lease_scope .rollback).permits_of_ne (by simp) (by simp)
  · exact idle_rollback known ran
  · exact idle_rollback known ran

theorem close_triple : (outbox_discipline deployment).Triple (idle run) (await .close)
    (fun _ => resting run) (fun _ => resting run) := by
  refine Discipline.Triple.perform (fun world _ _ => ?_) (fun _ _ _ _ _ known ran _ _ => ?_)
    (fun _ _ _ _ _ known ran _ _ => ?_)
  · exact (no_lease_scope .close).permits_of_ne (by simp) (by simp)
  · exact resting_close known ran
  · exact resting_close known ran

/-- However the body of a transaction ends, the worker rests afterwards; after
a normal end it also keeps what the end of its session keeps. -/
theorem worker_scope {X : Type} {pre : (outbox_discipline deployment).Assertion run} {body : Program X}
    {middle : X -> (outbox_discipline deployment).Assertion run}
    (first : (outbox_discipline deployment).Triple pre body middle (fun _ => idle run))
    (isIdle : forall value world, middle value world -> Idle run world)
    (closed : forall value world, middle value world -> middle value (world.release run)) :
    (outbox_discipline deployment).Triple pre (scope body)
      (fun value => middle value) (fun _ => resting run) := by
  refine scope_triple first (fun _ => idle_rollback_triple) (fun _ => close_triple) (fun value => ?_)
  refine Discipline.Triple.perform (fun world _ _ => ?_) (fun state _ _ _ _ known ran _ _ => ?_)
    (fun state _ _ _ _ known ran _ _ => ?_)
  · exact (no_lease_scope .close).permits_of_ne (by simp) (by simp)
  · rw [World.exec_close_eq ran]
    exact closed value state known
  · exact resting_close (isIdle value state known) ran

/-! ## The claim of a batch -/

theorem own_executed {answer : Except Error op.Answer} (executed : World.Executed run world op after answer)
    {event : Event} (known : event ∈ world.own run) : event ∈ after.own run := by
  rcases executed.trace with same | ⟨added, _, same⟩
  · rwa [own_of_same same]
  · rw [own_of_trace same]
    exact List.mem_cons_of_mem _ known

theorem read_clock : (outbox_discipline deployment).Triple (resting run) (await .now)
    (fun now => opened run now) (fun _ => resting run) := by
  refine Discipline.Triple.perform (fun world _ known => ?_) (fun state _ _ now _ known ran _ _ => ?_)
    (fun state _ _ _ _ known ran _ _ => ?_)
  · exact (no_lease_of_ne (by simp) (by simp) (by simp) (by simp) (by simp)).permitted
      (fun _ => known.free.unmarking) (by simp)
  · cases service_executed ran with
    | now reading =>
        have own : (World.note (.run run) (.clock_read now) state).own run = .clock_read now :: state.own run :=
          World.own_note_self (.clock_read now)
        refine ⟨known.free.unleased, known.idle, unclaimed_of_clock_read own, ?_⟩
        rw [own]
        exact List.mem_cons_self
  · cases service_executed ran with
    | raised => exact known

theorem Opened.updated {now : Datetime} {statement : Update .outbox_messages}
    {answer : Except Error (List OutboxMessageModel)} (known : Opened run now world)
    (proper : Proper (.update .outbox_messages statement))
    (executed : World.Executed run world (.update .outbox_messages statement) after answer) :
    Opened run now after where
  unleased := unleased_executed known.unleased proper (by simp) (by simp) executed
  idle := idle_executed known.idle (by simp) executed
  unclaimed := unclaimed_executed known.unclaimed known.unleased executed
  read := own_executed executed known.read

theorem opened_update {now : Datetime} {statement : Update .outbox_messages}
    (permitted : forall world, Opened run now world ->
      LeasePermits deployment run (.update .outbox_messages statement) world) :
    (outbox_discipline deployment).Triple (opened run now) (await (.update .outbox_messages statement))
      (fun _ => opened run now) (fun _ => idle run) := by
  refine Discipline.Triple.perform (fun world _ known => permitted world known)
    (fun state _ _ _ _ known ran _ _ => ?_) (fun state _ _ _ _ known ran _ _ => ?_)
  · exact Opened.updated known (permitted state known).proper (World.exec_executed ran)
  · exact (Opened.updated known (permitted state known).proper (World.exec_executed ran)).idle

theorem permits_update {statement : Update .outbox_messages}
    (not_claim : forall now worker_id, statement ≠ .claim now worker_id) (unleased : Unleased run world)
    (limited : forall limit, update_limit statement = some limit -> Admitted deployment limit)
    (releasing : forall cutoff limit, statement = .release_to_dead cutoff limit ∨
        statement = .release_to_pending cutoff limit ->
      Exists fun settings => Exists fun now => deployment.outbox_settings settings = true ∧
        cutoff = now - settings.OUTBOX_CLAIM_TIMEOUT ∧ .clock_read now ∈ world.own run)
    (marking : forall message_id worker_id, statement = .mark_processed message_id worker_id ->
      worker_id = run ∧ forall row, Owns run message_id row world -> Current run message_id row world ∧
        (.environment, .publish_confirmed run row.to_domain) ∈ world.trace)
    (failing : forall message_id worker_id limit next_retry_at,
      statement = .mark_publish_failure message_id worker_id limit next_retry_at ->
      worker_id = run ∧ forall row, Owns run message_id row world -> Current run message_id row world ∧
        (.environment, .publish_failed run row.to_domain) ∈ world.trace ∧
        (next_retry_at = none <-> limit ≤ row.to_domain.attempts)) :
    LeasePermits deployment run (.update .outbox_messages statement) world where
  proper := proper_update not_claim
  unlocked := by simp
  reading := by simp
  unleased := fun _ _ => unleased
  limited := by
    intro other limit same named
    cases same
    exact limited limit named
  releasing := by
    intro cutoff limit same
    refine releasing cutoff limit (same.imp ?_ ?_)
    · exact fun same => by cases same; rfl
    · exact fun same => by cases same; rfl
  marking := by
    intro message_id worker_id same
    cases same
    exact marking message_id worker_id rfl
  failing := by
    intro message_id worker_id limit next_retry_at same
    cases same
    exact failing message_id worker_id limit next_retry_at rfl
  claiming := by simp
  publishing := by simp
  committing := by simp

theorem release_permitted (allowed : deployment.outbox_settings settings = true) {now : Datetime}
    {statement : Update .outbox_messages}
    (releases : statement = .release_to_dead (now - settings.OUTBOX_CLAIM_TIMEOUT) settings.OUTBOX_MAX_ATTEMPTS ∨
      statement = .release_to_pending (now - settings.OUTBOX_CLAIM_TIMEOUT) settings.OUTBOX_MAX_ATTEMPTS)
    (known : Opened run now world) :
    LeasePermits deployment run (.update .outbox_messages statement) world := by
  have admitted : Admitted deployment settings.OUTBOX_MAX_ATTEMPTS := ⟨settings, allowed, rfl⟩
  rcases releases with rfl | rfl
  · refine permits_update (by simp) known.unleased ?_ ?_ (by simp) (by simp)
    · intro limit named
      cases named
      exact admitted
    · rintro cutoff limit (same | same)
      · cases same
        exact ⟨settings, now, allowed, rfl, known.read⟩
      · cases same
  · refine permits_update (by simp) known.unleased (by simp [update_limit]) ?_ (by simp) (by simp)
    rintro cutoff limit (same | same)
    · cases same
    · cases same
      exact ⟨settings, now, allowed, rfl, known.read⟩

theorem release_triple (allowed : deployment.outbox_settings settings = true) (now : Datetime) :
    (outbox_discipline deployment).Triple (opened run now)
      (SqlAlchemyOutboxRepository.release_expired_claims now settings.OUTBOX_CLAIM_TIMEOUT
        settings.OUTBOX_MAX_ATTEMPTS) (fun _ => opened run now) (fun _ => idle run) := by
  refine Discipline.Triple.bind (opened_update (fun world known => ?_)) (fun dead => ?_)
  · exact release_permitted allowed (.inl rfl) known
  · refine Discipline.Triple.bind (opened_update (fun world known => ?_)) (fun pending => ?_)
    · exact release_permitted allowed (.inr rfl) known
    · exact Discipline.Triple.ret (fun _ _ known => known)

theorem claim_permitted (allowed : deployment.outbox_settings settings = true) {now : Datetime}
    (known : Opened run now world) :
    LeasePermits deployment run (.update_claimable .outbox_messages
      (.claimable_messages now settings.OUTBOX_MAX_ATTEMPTS) settings.OUTBOX_BATCH_SIZE (.claim now run)) world where
  proper := proper_claim _ _ now run
  unlocked := by simp
  reading := by simp
  unleased := by simp
  limited := by simp
  releasing := by simp
  marking := by simp
  failing := by simp
  claiming := by
    intro query limit now' worker_id same
    cases same
    refine ⟨rfl, known.read, known.unclaimed, fun due max_attempts same => ?_⟩
    cases same
    exact ⟨settings, allowed, rfl⟩
  publishing := by simp
  committing := by simp

/-- What a claim returns is what it has written. -/
theorem drafted_of_claim {now time : Datetime} {query : Query .outbox_messages} {limit : Nat}
    {table : Table UUID OutboxMessageModel RunId} {rows : List OutboxMessageModel}
    (keyed : World.Keyed world) (unleased : Unleased run world)
    (changed : (world.tables .outbox_messages).updateClaimable run query.condition query.before limit
      ((Update.claim now run).values time) = (table, rows)) :
    (forall key row, (table.cell key).lock = some (run, some row) ∧ row.status = .PROCESSING <->
      row ∈ rows ∧ row.id = key) ∧ (rows.map OutboxMessageModel.id).Nodup := by
  have tableSame : ((world.tables .outbox_messages).updateClaimable run query.condition query.before limit
      ((Update.claim now run).values time)).1 = table := congrArg Prod.fst changed
  have rowsSame : ((world.tables .outbox_messages).updateClaimable run query.condition query.before limit
      ((Update.claim now run).values time)).2 = rows := congrArg Prod.snd changed
  have keys : forall {key : UUID} {old : OutboxMessageModel},
      (key, old) ∈ (world.tables .outbox_messages).claimable run query.condition query.before limit ->
      old.id = key := by
    intro key old listed
    exact keyed .outbox_messages key old (Cell.carries_of_visible (Table.mem_claimable listed).1)
  constructor
  · intro key row
    rcases Table.updateClaimable_cell run query.condition query.before limit
      ((Update.claim now run).values time) (world.tables .outbox_messages) key with
      ⟨same, unclaimed⟩ | ⟨old, listed, same⟩
    · rw [tableSame] at same
      constructor
      · rintro ⟨locked, processing⟩
        rw [same] at locked
        exact absurd processing (unleased key row locked)
      · rintro ⟨listed, rfl⟩
        rw [← rowsSame] at listed
        rcases Table.mem_updateClaimable_rows.mp listed with ⟨found, old, claimed, rfl⟩
        have own : old.id = found := keys claimed
        exact absurd claimed (own ▸ unclaimed old)
    · rw [tableSame] at same
      constructor
      · rintro ⟨locked, processing⟩
        rw [same] at locked
        cases locked
        have own : old.id = key := keys listed
        refine ⟨?_, own⟩
        rw [← rowsSame]
        exact Table.mem_updateClaimable_rows.mpr ⟨key, old, listed, rfl⟩
      · rintro ⟨member, own⟩
        rw [← rowsSame] at member
        rcases Table.mem_updateClaimable_rows.mp member with ⟨found, other, claimed, rfl⟩
        have own' : found = key := (keys claimed).symm.trans own
        subst own'
        have visible := (Table.mem_claimable claimed).1
        rw [(Table.mem_claimable listed).1] at visible
        cases visible
        exact ⟨by rw [same]; rfl, rfl⟩
  · have ids : rows.map OutboxMessageModel.id =
        ((world.tables .outbox_messages).claimable run query.condition query.before limit).map Prod.fst := by
      rw [← rowsSame, Table.updateClaimable, List.map_map]
      refine List.map_congr_left (fun entry listed => ?_)
      have own : entry.2.id = entry.1 := keys listed
      exact own
    rw [ids]
    exact Table.claimable_nodup run query.condition query.before limit (world.tables .outbox_messages)

theorem claim_batch_triple (allowed : deployment.outbox_settings settings = true) (now : Datetime) :
    (outbox_discipline deployment).Triple (opened run now)
      (SqlAlchemyOutboxRepository.claim_batch settings.OUTBOX_BATCH_SIZE now run settings.OUTBOX_MAX_ATTEMPTS)
      (fun messages => drafted run messages) (fun _ => idle run) := by
  have claimed : (outbox_discipline deployment).Triple (opened run now)
      (await (.update_claimable .outbox_messages (.claimable_messages now settings.OUTBOX_MAX_ATTEMPTS)
        settings.OUTBOX_BATCH_SIZE (.claim now run)))
      (fun rows => drafted run (rows.map OutboxMessageModel.to_domain)) (fun _ => idle run) := by
    refine Discipline.Triple.perform (fun world _ known => claim_permitted allowed known)
      (fun state _ next rows kept known ran _ _ => ?_) (fun state _ _ _ _ known ran _ _ => ?_)
    · have executed := service_executed ran
      have idle := idle_executed known.idle (by simp) executed
      have unclaimed := unclaimed_executed known.unclaimed known.unleased executed
      cases executed with
      | claimed name query limit statement time table rows changed accepting =>
          rcases drafted_of_claim kept.keyed known.unleased changed with ⟨drafts, nodup⟩
          refine ⟨rows, rfl, idle, unclaimed, fun key row => ?_, nodup⟩
          rw [World.cell_note, World.cell_set_table_self]
          exact drafts key row
    · exact idle_executed known.idle (by simp) (service_executed ran)
  exact Discipline.Triple.bind claimed (fun rows => Discipline.Triple.ret (fun _ _ known => known))

theorem Drafted.committed {rows : List OutboxMessageModel} (kept : LeasesKept deployment world)
    (known : Drafted run rows world) : Ready run rows (world.commit run) where
  resting := ⟨fun _ => Cell.not_heldBy_commit, known.idle⟩
  batch := {
    current := by
      intro key row
      rw [current_commit_iff]
      constructor
      · rintro ⟨locked, id, processing, _⟩
        exact (known.drafts key row).mp ⟨locked, processing⟩
      · intro listed
        rcases (known.drafts key row).mpr listed with ⟨locked, processing⟩
        exact ⟨locked, listed.2, processing, kept.leased key run row locked processing⟩
    fenced := by
      intro key row held owns current
      rcases current_commit_iff.mp current with ⟨locked, _⟩
      have seen := owns.seen
      rw [World.cell_commit, Cell.commit_of_lock locked] at seen
      exact (Option.some.inj seen).symm
    nodup := known.nodup }
  unloaded := by
    intro row listed
    rcases (known.drafts row.id row).mpr ⟨listed, rfl⟩ with ⟨locked, processing⟩
    have attempts := kept.drafted row.id run row locked
    rw [if_pos processing] at attempts
    have loaded : load (claim_of run row.to_domain) (world.commit run) =
        load (claim_of run row.to_domain) world := rfl
    have unused : claims_at row.id row.attempts world.trace = 0 :=
      kept.beyond row.id row.attempts (.inr (by omega))
    have bound : load (claim_of run row.to_domain) world ≤ claims_at row.id row.attempts world.trace :=
      (kept.loads _).trans (taken_le_claims_at _ _)
    omega

theorem Ready.released {rows : List OutboxMessageModel} (known : Ready run rows world) :
    Ready run rows (world.release run) where
  resting := ⟨fun _ => Cell.not_heldBy_rollback, known.resting.idle⟩
  batch := by
    refine known.batch.mono (fun key row => current_of_own rfl) (fun key row owns => ?_)
    have same : (world.release run).cell .outbox_messages key = world.cell .outbox_messages key :=
      Cell.rollback_of_not_heldBy (known.resting.free key)
    exact owns_of_cell same owns
  unloaded := known.unloaded

theorem claim_triple (allowed : deployment.outbox_settings settings = true) (now : Datetime) :
    (outbox_discipline deployment).Triple (opened run now) (OutboxWorker.claim settings run now)
      (fun messages => ready run messages) (fun _ => resting run) := by
  have commit : forall messages, (outbox_discipline deployment).Triple (drafted run messages) (await .commit)
      (fun _ => ready run messages) (fun _ => idle run) := by
    intro messages
    refine Discipline.Triple.perform (fun world _ known => ?_) (fun state _ _ _ kept known ran _ _ => ?_)
      (fun state _ _ _ _ known ran _ _ => ?_)
    · rcases known with ⟨rows, _, drafted⟩
      exact (no_lease_scope .commit).permitted (by simp) (fun _ =>
        ⟨drafted.idle, fun key row current => absurd current (drafted.unclaimed key row)⟩)
    · rcases known with ⟨rows, same, drafted⟩
      cases service_executed ran with
      | committed answer external accepting => exact ⟨rows, same, drafted.committed kept⟩
    · rcases known with ⟨rows, same, drafted⟩
      exact idle_executed drafted.idle (by simp) (service_executed ran)
  refine worker_scope ?_ ?_ ?_
  · refine Discipline.Triple.bind (release_triple allowed now) (fun released => ?_)
    refine Discipline.Triple.bind (claim_batch_triple allowed now) (fun messages => ?_)
    exact Discipline.Triple.bind (commit messages) (fun _ => Discipline.Triple.ret (fun _ _ known => known))
  · rintro messages world ⟨rows, _, known⟩
    exact known.resting.idle
  · rintro messages world ⟨rows, same, known⟩
    exact ⟨rows, same, known.released⟩

/-! ## The publishes of a batch -/

theorem publish_permitted {rows : List OutboxMessageModel} {concurrency : Int} (known : Ready run rows world) :
    LeasePermits deployment run (.publish_all (rows.map OutboxMessageModel.to_domain) concurrency) world where
  proper := proper_of_ne (by simp) (by simp) (by simp)
  unlocked := by simp
  reading := by simp
  unleased := by simp
  limited := by simp
  releasing := by simp
  marking := by simp
  failing := by simp
  claiming := by simp
  publishing := by
    intro messages concurrency same
    cases same
    constructor
    · rw [List.map_map]
      exact known.batch.nodup
    · intro message listed
      rcases List.mem_map.mp listed with ⟨row, member, rfl⟩
      exact ⟨known.unloaded row member, row, (known.batch.current row.id row).mpr ⟨member, rfl⟩, rfl⟩
  committing := by simp

theorem publish_all_triple (messages : List OutboxMessage) (concurrency : Int) :
    (outbox_discipline deployment).Triple (ready run messages) (await (.publish_all messages concurrency))
      (fun _ => publishing run messages) (fun _ => resting run) := by
  refine Discipline.Triple.perform (fun world _ known => ?_) (fun state _ _ _ _ known ran _ _ => ?_)
    (fun state _ _ _ _ known ran _ _ => ?_)
  · rcases known with ⟨rows, rfl, ready⟩
    exact publish_permitted ready
  · rcases known with ⟨rows, same, ready⟩
    cases service_executed ran with
    | publishes_started messages concurrency =>
        refine ⟨rows, same, ready.resting.free, ready.batch.mono (fun _ _ => current_of_own rfl)
          (fun _ _ owns => ⟨owns.seen, owns.status, owns.claimed_by⟩), ?_⟩
        have started : (state.set_publishing run ⟨concurrency, messages.map (fun message =>
            (⟨message, false, .waiting⟩ : PublishTask))⟩).publishing run =
            ⟨concurrency, messages.map (fun message => ⟨message, false, .waiting⟩)⟩ :=
          Function.update_self _ _ _
        rw [started, List.map_map, ← same]
        exact List.map_id messages
  · rcases known with ⟨rows, _, ready⟩
    cases service_executed ran with
    | raised => exact ready.resting

/-- The results of a batch that has ended are those of its tasks, in order. -/
theorem publish_results {tasks : List PublishTask} {results : List (OutboxMessage × Bool)}
    (ended : tasks.mapM World.publish_result = some results) :
    results.map Prod.fst = tasks.map PublishTask.message ∧ forall result, result ∈ results ->
      Exists fun task => task ∈ tasks ∧ task.message = result.1 ∧ task.state = .finished result.2 := by
  induction tasks generalizing results with
  | nil =>
      cases ended
      exact ⟨rfl, fun result listed => by cases listed⟩
  | cons task tasks inductionHypothesis =>
      rw [List.mapM_cons] at ended
      rcases Option.bind_eq_some_iff.mp ended with ⟨result, first, ended⟩
      rcases Option.bind_eq_some_iff.mp ended with ⟨rest, others, same⟩
      cases same
      rcases Option.map_eq_some_iff.mp first with ⟨confirmed, outcome, rfl⟩
      rcases inductionHypothesis others with ⟨messages, members⟩
      constructor
      · rw [List.map_cons, List.map_cons, messages]
      · intro result listed
        rcases List.mem_cons.mp listed with rfl | listed
        · refine ⟨task, List.mem_cons_self, rfl, ?_⟩
          rcases task with ⟨message, landed, state⟩
          cases state with
          | finished outcome' =>
              cases outcome
              rfl
          | waiting => cases outcome
          | running => cases outcome
        · rcases members result listed with ⟨found, member, result⟩
          exact ⟨found, List.mem_cons_of_mem _ member, result⟩

def published (run : RunId) (messages : List OutboxMessage) (results : List (OutboxMessage × Bool)) :
    (outbox_discipline deployment).Assertion run :=
  knows run (fun world => Exists fun rows => messages = rows.map OutboxMessageModel.to_domain ∧
      Free run world ∧ Results run rows results world)
    (fun _ _ frame evolves known => by
      rcases known with ⟨rows, same, free, results⟩
      exact ⟨rows, same, free.stable frame, results.stable frame evolves⟩)

theorem idle_of_none (none : world.publishing run = Gather.none) : Idle run world := by
  rw [Idle, none]
  rfl

theorem published_all_triple (messages : List OutboxMessage) :
    (outbox_discipline deployment).Triple (publishing run messages) (await .published_all)
      (fun results => published run messages results) (fun _ => resting run) := by
  refine Discipline.Triple.perform (fun world _ known => ?_) (fun state _ _ results kept known ran _ _ => ?_)
    (fun state _ _ _ _ known ran _ _ => ?_)
  · exact (no_lease_of_ne (by simp) (by simp) (by simp) (by simp) (by simp)).permits_of_ne (by simp) (by simp)
  · rcases known with ⟨rows, same, publishing⟩
    cases service_executed ran with
    | published results ended =>
        rcases publish_results ended with ⟨order, members⟩
        refine ⟨rows, same, publishing.free, idle_of_none (Function.update_self _ _ _),
          publishing.batch.mono (fun _ _ => current_of_own rfl)
            (fun _ _ owns => ⟨owns.seen, owns.status, owns.claimed_by⟩),
          order.trans publishing.tasks, ?_⟩
        intro result listed
        rcases members result listed with ⟨task, member, message, finished⟩
        rw [← message]
        exact kept.publishes.recorded run task member result.2 finished
  · rcases known with ⟨rows, _, publishing⟩
    rw [World.exec_published_all_raised ran]
    exact ⟨publishing.free, idle_of_none (Function.update_self _ _ _)⟩

/-! ## The marks of a batch -/

theorem mem_results {rows : List OutboxMessageModel} {results : List (OutboxMessage × Bool)}
    (messages : results.map Prod.fst = rows.map OutboxMessageModel.to_domain) {row : OutboxMessageModel}
    (listed : row ∈ rows) : Exists fun confirmed => (row.to_domain, confirmed) ∈ results := by
  have member : row.to_domain ∈ results.map Prod.fst := messages ▸ List.mem_map_of_mem listed
  rcases List.mem_map.mp member with ⟨⟨message, confirmed⟩, found, same⟩
  cases same
  exact ⟨confirmed, found⟩

theorem row_of_result {rows : List OutboxMessageModel} {results : List (OutboxMessage × Bool)}
    (messages : results.map Prod.fst = rows.map OutboxMessageModel.to_domain)
    {result : OutboxMessage × Bool} (listed : result ∈ results) :
    Exists fun row => row ∈ rows ∧ row.to_domain = result.1 := by
  have member : result.1 ∈ rows.map OutboxMessageModel.to_domain := messages ▸ List.mem_map_of_mem listed
  exact List.mem_map.mp member

theorem mem_failed_messages {results : List (OutboxMessage × Bool)} {message : OutboxMessage} :
    message ∈ OutboxWorker.failed_messages results <-> (message, false) ∈ results := by
  simp only [OutboxWorker.failed_messages, List.mem_map, List.mem_filter, Bool.not_eq_eq_eq_not,
    Bool.not_true]
  constructor
  · rintro ⟨⟨found, confirmed⟩, ⟨listed, failed⟩, rfl⟩
    cases failed
    exact listed
  · exact fun listed => ⟨(message, false), ⟨listed, rfl⟩, rfl⟩

/-- A message that is taken for published has a confirmed publish. -/
theorem row_of_published {rows : List OutboxMessageModel} {results : List (OutboxMessage × Bool)}
    (messages : results.map Prod.fst = rows.map OutboxMessageModel.to_domain) {id : UUID}
    (listed : id ∈ OutboxWorker.published_ids (rows.map OutboxMessageModel.to_domain) results) :
    Exists fun row => row ∈ rows ∧ row.id = id ∧ (row.to_domain, true) ∈ results := by
  simp only [OutboxWorker.published_ids, List.mem_filter, List.mem_map, decide_eq_true_eq] at listed
  rcases listed with ⟨⟨message, ⟨row, member, rfl⟩, rfl⟩, unfailed⟩
  rcases mem_results messages member with ⟨confirmed, found⟩
  cases confirmed with
  | true => exact ⟨row, member, rfl, found⟩
  | false => exact absurd ⟨row.to_domain, mem_failed_messages.mpr found, rfl⟩ unfailed

theorem Marking.mark_permitted {rows : List OutboxMessageModel} {results : List (OutboxMessage × Bool)}
    {remaining : List UUID} {id : UUID}
    (known : Marking run rows results
      (OutboxWorker.published_ids (rows.map OutboxMessageModel.to_domain) results) (id :: remaining) world) :
    LeasePermits deployment run (.update .outbox_messages (.mark_processed id run)) world := by
  refine permits_update (by simp) known.unleased (by simp [update_limit]) (by simp) ?_ (by simp)
  intro message_id worker_id same
  cases same
  refine ⟨rfl, fun row owns => ?_⟩
  rcases row_of_published known.results.messages (known.subset List.mem_cons_self) with ⟨held, member, own, confirmed⟩
  have current : Current run id held world := (known.results.batch.current id held).mpr ⟨member, own⟩
  have same := known.results.batch.fenced id row held owns current
  subst same
  exact ⟨current, known.results.recorded _ confirmed⟩

/-- An update takes leases away and gives none. -/
theorem owns_updated {statement : Update .outbox_messages}
    {answer : Except Error (List OutboxMessageModel)} {key : UUID} {row : OutboxMessageModel}
    (not_claim : forall now worker_id, statement ≠ .claim now worker_id)
    (executed : World.Executed run world (.update .outbox_messages statement) after answer)
    (owns : Owns run key row after) : Owns run key row world := by
  cases executed with
  | raised => exact owns
  | updated name statement time table rows changed accepting storable =>
      have seen := owns.seen
      rw [World.cell_note, World.cell_set_table_self] at seen
      cases Table.update_touched changed key with
      | kept unselected same => exact ⟨by rwa [same] at seen, owns.status, owns.claimed_by⟩
      | written old visible selected free same =>
          rw [same, Cell.visible_of_lock rfl] at seen
          cases seen
          exact absurd owns.status (status_updated not_claim time)

/-- A row that an update selects is not owned afterwards. -/
theorem not_owns_updated {statement : Update .outbox_messages} {rows : List OutboxMessageModel} {key : UUID}
    {row : OutboxMessageModel} (not_claim : forall now worker_id, statement ≠ .claim now worker_id)
    (selects : forall row, Owns run key row world -> statement.condition row = true)
    (executed : World.Executed run world (.update .outbox_messages statement) after (.ok rows)) :
    ¬ Owns run key row after := by
  intro owns
  cases executed with
  | updated name statement time table rows changed accepting storable =>
      have seen := owns.seen
      rw [World.cell_note, World.cell_set_table_self] at seen
      cases Table.update_touched changed key with
      | kept unselected same =>
          rw [same] at seen
          have selected := selects row ⟨seen, owns.status, owns.claimed_by⟩
          rw [unselected row seen] at selected
          cases selected
      | written old visible selected free same =>
          rw [same, Cell.visible_of_lock rfl] at seen
          cases seen
          exact absurd owns.status (status_updated not_claim time)

theorem Results.executed {rows : List OutboxMessageModel} {results : List (OutboxMessage × Bool)}
    {statement : Update .outbox_messages} {answer : Except Error (List OutboxMessageModel)}
    (known : Results run rows results world)
    (not_claim : forall now worker_id, statement ≠ .claim now worker_id)
    (executed : World.Executed run world (.update .outbox_messages statement) after answer) :
    Results run rows results after where
  idle := idle_executed known.idle (by simp) executed
  batch := by
    refine known.batch.mono (fun key row => ?_) (fun key row owns => owns_updated not_claim executed owns)
    rcases executed.trace with same | ⟨event, recorded, same⟩
    · exact current_of_own (own_of_same same)
    · cases recorded
      exact ⟨fun current => current.of_note (own_of_trace same) (fun _ impossible => by cases impossible),
        fun current => current.note (own_of_trace same) rfl⟩
  messages := known.messages
  recorded := fun result listed => (World.trace_executed executed).subset (known.recorded result listed)

theorem Marking.marked_processed {rows : List OutboxMessageModel} {results : List (OutboxMessage × Bool)}
    {changed : List OutboxMessageModel} {published remaining : List UUID} {id : UUID}
    (kept : LeasesKept deployment world)
    (known : Marking run rows results published (id :: remaining) world)
    (executed : World.Executed run world (.update .outbox_messages (.mark_processed id run)) after
      (.ok changed)) : Marking run rows results published remaining after where
  unleased := unleased_executed known.unleased (proper_update (by simp)) (by simp) (by simp) executed
  results := known.results.executed (by simp) executed
  subset := fun _ listed => known.subset (List.mem_cons_of_mem _ listed)
  marked := by
    have selects : forall row, Owns run id row world -> (Update.mark_processed id run).condition row = true := by
      intro row owns
      have own : row.id = id := kept.keyed .outbox_messages id row (Cell.carries_of_visible owns.seen)
      simp [Update.condition, Update.owned, own, owns.status, owns.claimed_by]
    intro other listed
    rcases known.marked other listed with remaining | unowned
    · rcases List.mem_cons.mp remaining with rfl | remaining
      · exact .inr (fun row => not_owns_updated (by simp) selects executed)
      · exact .inl remaining
    · exact .inr (fun row owns => unowned row (owns_updated (by simp) executed owns))

def marking (run : RunId) (messages : List OutboxMessage) (results : List (OutboxMessage × Bool))
    (remaining : List UUID) : (outbox_discipline deployment).Assertion run :=
  knows run (fun world => Exists fun rows => messages = rows.map OutboxMessageModel.to_domain ∧
      Marking run rows results (OutboxWorker.published_ids messages results) remaining world)
    (fun _ _ frame evolves known => by
      rcases known with ⟨rows, same, marking⟩
      exact ⟨rows, same, marking.stable frame evolves⟩)

theorem mark_processed_triple (messages : List OutboxMessage) (results : List (OutboxMessage × Bool))
    (id : UUID) (remaining : List UUID) :
    (outbox_discipline deployment).Triple (marking run messages results (id :: remaining))
      (SqlAlchemyOutboxRepository.mark_processed id run)
      (fun _ => marking run messages results remaining) (fun _ => idle run) := by
  have marked : (outbox_discipline deployment).Triple (marking run messages results (id :: remaining))
      (await (.update .outbox_messages (.mark_processed id run)))
      (fun _ => marking run messages results remaining) (fun _ => idle run) := by
    refine Discipline.Triple.perform (fun world _ known => ?_) (fun state _ _ _ kept known ran _ _ => ?_)
      (fun state _ _ _ _ known ran _ _ => ?_)
    · rcases known with ⟨rows, rfl, marking⟩
      exact marking.mark_permitted
    · rcases known with ⟨rows, same, marking⟩
      exact ⟨rows, same, marking.marked_processed kept (service_executed ran)⟩
    · rcases known with ⟨rows, same, marking⟩
      exact idle_executed marking.results.idle (by simp) (service_executed ran)
  exact Discipline.Triple.bind marked (fun _ => Discipline.Triple.ret (fun _ _ known => known))

theorem Marking.executed {rows : List OutboxMessageModel} {results : List (OutboxMessage × Bool)}
    {published remaining : List UUID} {statement : Update .outbox_messages}
    {answer : Except Error (List OutboxMessageModel)}
    (known : Marking run rows results published remaining world)
    (not_claim : forall now worker_id, statement ≠ .claim now worker_id)
    (executed : World.Executed run world (.update .outbox_messages statement) after answer) :
    Marking run rows results published remaining after where
  unleased := unleased_executed known.unleased (proper_update not_claim) (by simp) (by simp) executed
  results := known.results.executed not_claim executed
  subset := known.subset
  marked := by
    intro id listed
    rcases known.marked id listed with remaining | unowned
    · exact .inl remaining
    · exact .inr (fun row owns => unowned row (owns_updated not_claim executed owns))

theorem Marking.fail_permitted (allowed : deployment.outbox_settings settings = true)
    {rows : List OutboxMessageModel} {results : List (OutboxMessage × Bool)}
    {published remaining : List UUID} {message : OutboxMessage} {retry_at : Option Datetime}
    (known : Marking run rows results published remaining world) (failed : (message, false) ∈ results)
    (decided : retry_at = none <-> settings.OUTBOX_MAX_ATTEMPTS ≤ message.attempts) :
    LeasePermits deployment run (.update .outbox_messages
      (.mark_publish_failure message.id run settings.OUTBOX_MAX_ATTEMPTS retry_at)) world := by
  refine permits_update (by simp) known.unleased ?_ (by simp) (by simp) ?_
  · intro limit named
    cases named
    exact ⟨settings, allowed, rfl⟩
  · intro message_id worker_id limit next_retry_at same
    cases same
    refine ⟨rfl, fun row owns => ?_⟩
    rcases row_of_result known.results.messages failed with ⟨held, member, own⟩
    change held.to_domain = message at own
    subst own
    have current : Current run held.id held world := (known.results.batch.current held.id held).mpr ⟨member, rfl⟩
    have same := known.results.batch.fenced held.id row held owns current
    subst same
    exact ⟨current, known.results.recorded _ failed, decided⟩

/-- The worker's own decision about a failed message. -/
theorem next_retry_triple (settings : Settings) (now : Datetime) (message : OutboxMessage)
    (messages : List OutboxMessage) (results : List (OutboxMessage × Bool)) (remaining : List UUID) :
    (outbox_discipline deployment).Triple (marking run messages results remaining)
      (OutboxWorker.next_retry_at settings message.attempts now)
      (fun retry_at => (marking run messages results remaining).both
        (.fact (retry_at = none <-> settings.OUTBOX_MAX_ATTEMPTS ≤ message.attempts))) (fun _ => idle run) := by
  rw [OutboxWorker.next_retry_at]
  split
  · next reached => exact Discipline.Triple.ret (fun _ _ known => ⟨known, by simpa using reached⟩)
  · next below =>
      have retried : forall time : Datetime, some time = none <->
          settings.OUTBOX_MAX_ATTEMPTS ≤ message.attempts := by
        intro time
        simpa using below
      split
      · exact Discipline.Triple.ret (fun _ _ known => ⟨known, retried _⟩)
      · have drawn : (outbox_discipline deployment).Triple (marking run messages results remaining)
            (await (.uniform 1 (1 + settings.OUTBOX_RETRY_JITTER)))
            (fun _ => marking run messages results remaining) (fun _ => idle run) := by
          refine Discipline.Triple.perform (fun world _ known => ?_) (fun state _ _ _ _ known ran _ _ => ?_)
            (fun state _ _ _ _ known ran _ _ => ?_)
          · exact (no_lease_of_ne (by simp) (by simp) (by simp) (by simp) (by simp)).permits_of_ne (by simp) (by simp)
          · cases service_executed ran with
            | uniform => exact known
          · rcases known with ⟨rows, _, marking⟩
            exact idle_executed marking.results.idle (by simp) (service_executed ran)
        exact Discipline.Triple.bind drawn (fun factor =>
          Discipline.Triple.ret (fun _ _ known => ⟨known, retried _⟩))

theorem mark_failure_triple (allowed : deployment.outbox_settings settings = true) (now : Datetime)
    {message : OutboxMessage} (messages : List OutboxMessage) {results : List (OutboxMessage × Bool)}
    (remaining : List UUID) (failed : (message, false) ∈ results) :
    (outbox_discipline deployment).Triple (marking run messages results remaining)
      (OutboxWorker.mark_failure settings run now message)
      (fun _ => marking run messages results remaining) (fun _ => idle run) := by
  refine Discipline.Triple.bind (next_retry_triple settings now message messages results remaining)
    (fun retry_at => ?_)
  have marked : (outbox_discipline deployment).Triple
      ((marking run messages results remaining).both
        (.fact (retry_at = none <-> settings.OUTBOX_MAX_ATTEMPTS ≤ message.attempts)))
      (await (.update .outbox_messages
        (.mark_publish_failure message.id run settings.OUTBOX_MAX_ATTEMPTS retry_at)))
      (fun _ => marking run messages results remaining) (fun _ => idle run) := by
    refine Discipline.Triple.perform (fun world _ known => ?_) (fun state _ _ _ _ known ran _ _ => ?_)
      (fun state _ _ _ _ known ran _ _ => ?_)
    · rcases known with ⟨⟨rows, _, marking⟩, decided⟩
      exact marking.fail_permitted allowed failed decided
    · rcases known with ⟨⟨rows, same, marking⟩, _⟩
      exact ⟨rows, same, marking.executed (by simp) (service_executed ran)⟩
    · rcases known with ⟨⟨rows, same, marking⟩, _⟩
      exact idle_executed marking.results.idle (by simp) (service_executed ran)
  exact Discipline.Triple.bind marked (fun _ => Discipline.Triple.ret (fun _ _ known => known))

/-- Two different ends of publishes under one claim would be two calls. -/
theorem two_le_countP {A : Type} {accepts : A -> Bool} {elements : List A} {first second : A}
    (listed : first ∈ elements) (listed' : second ∈ elements) (different : first ≠ second)
    (accepted : accepts first = true) (accepted' : accepts second = true) :
    2 ≤ elements.countP accepts := by
  induction elements with
  | nil => cases listed
  | cons head tail inductionHypothesis =>
      rw [List.countP_cons]
      rcases List.mem_cons.mp listed with rfl | earlier
      · have rest : second ∈ tail := (List.mem_cons.mp listed').resolve_left (Ne.symm different)
        have counted : 0 < tail.countP accepts := List.countP_pos_iff.mpr ⟨second, rest, accepted'⟩
        rw [if_pos accepted]
        omega
      · rcases List.mem_cons.mp listed' with rfl | earlier'
        · have counted : 0 < tail.countP accepts := List.countP_pos_iff.mpr ⟨first, earlier, accepted⟩
          rw [if_pos accepted']
          omega
        · exact (inductionHypothesis earlier earlier').trans (Nat.le_add_right _ _)

theorem LeasesKept.one_end (kept : LeasesKept deployment world) (claim : ClaimKey) :
    ends claim world.trace ≤ 1 := by
  calc ends claim world.trace ≤ calls claim world.trace :=
        (Nat.le_add_right _ _).trans (kept.publishes.counted claim)
    _ ≤ load claim world := Nat.le_add_right _ _
    _ ≤ taken claim world.trace := kept.loads claim
    _ ≤ claims_at claim.id claim.attempts world.trace := taken_le_claims_at _ _
    _ ≤ 1 := kept.once _ _

/-- A publish is not both confirmed and failed. -/
theorem LeasesKept.not_both (kept : LeasesKept deployment world) {worker : RunId} {message : OutboxMessage}
    (confirmed : (.environment, .publish_confirmed worker message) ∈ world.trace) :
    (.environment, .publish_failed worker message) ∉ world.trace := by
  intro failed
  have twice : 2 ≤ ends (claim_of worker message) world.trace :=
    two_le_countP confirmed failed (by simp) (by simp [ended]) (by simp [ended])
  exact absurd (twice.trans (kept.one_end _)) (by decide)

/-- When the marks are complete, no confirmed message is owned any more. -/
theorem Marking.commit_permitted (kept : LeasesKept deployment world) {rows : List OutboxMessageModel}
    {results : List (OutboxMessage × Bool)}
    (known : Marking run rows results
      (OutboxWorker.published_ids (rows.map OutboxMessageModel.to_domain) results) [] world) :
    LeasePermits deployment run .commit world := by
  refine (no_lease_scope .commit).permitted (by simp) (fun _ => ⟨known.results.idle, fun key row current confirmed => ?_⟩)
  rcases (known.results.batch.current key row).mp current with ⟨member, own⟩
  have unfailed : forall other, (other, false) ∈ results -> other.id ≠ row.id := by
    intro other failed same
    rcases row_of_result known.results.messages failed with ⟨held, member', own'⟩
    change held.to_domain = other at own'
    subst own'
    have equal : held = row := List.inj_on_of_nodup_map known.results.batch.nodup member' member same
    subst equal
    exact kept.not_both confirmed (known.results.recorded _ failed)
  have listed : key ∈ OutboxWorker.published_ids (rows.map OutboxMessageModel.to_domain) results := by
    simp only [OutboxWorker.published_ids, List.mem_filter, List.mem_map, decide_eq_true_eq]
    refine ⟨⟨row.to_domain, ⟨row, member, rfl⟩, own⟩, ?_⟩
    rintro ⟨other, failed, same⟩
    exact unfailed other (mem_failed_messages.mp failed) (same.trans own.symm)
  exact ((known.marked key listed).resolve_left (by simp)) row

theorem mark_failures_triple (allowed : deployment.outbox_settings settings = true) (now : Datetime)
    (messages : List OutboxMessage) {results : List (OutboxMessage × Bool)} {failed : List OutboxMessage}
    (members : forall message, message ∈ failed -> (message, false) ∈ results) :
    (outbox_discipline deployment).Triple (marking run messages results [])
      (forEach (OutboxWorker.mark_failure settings run now) failed)
      (fun _ => marking run messages results []) (fun _ => idle run) := by
  induction failed with
  | nil => exact Discipline.Triple.ret (fun _ _ known => known)
  | cons head tail inductionHypothesis =>
      refine Discipline.Triple.bind (mark_failure_triple allowed now messages [] (members head List.mem_cons_self))
        (fun _ => inductionHypothesis (fun message listed => members message (List.mem_cons_of_mem _ listed)))

theorem mark_all_triple (messages : List OutboxMessage) (results : List (OutboxMessage × Bool)) :
    (outbox_discipline deployment).Triple (published run messages results)
      (forEach (fun message_id => SqlAlchemyOutboxRepository.mark_processed message_id run)
        (OutboxWorker.published_ids messages results))
      (fun _ => marking run messages results []) (fun _ => idle run) := by
  refine Discipline.Triple.strengthen (Discipline.Triple.forEach (marking run messages results)
    (fun id remaining => mark_processed_triple messages results id remaining)
    (OutboxWorker.published_ids messages results)) (fun world _ known => ?_)
  rcases known with ⟨rows, same, free, results⟩
  exact ⟨rows, same, free.unleased, results, fun _ listed => listed, fun _ listed => .inl listed⟩

theorem commit_marks_triple (messages : List OutboxMessage) (results : List (OutboxMessage × Bool)) :
    (outbox_discipline deployment).Triple (marking run messages results []) (await .commit)
      (fun _ => idle run) (fun _ => idle run) := by
  refine Discipline.Triple.perform (fun world kept known => ?_) (fun state _ _ _ _ known ran _ _ => ?_)
    (fun state _ _ _ _ known ran _ _ => ?_)
  · rcases known with ⟨rows, rfl, marking⟩
    exact marking.commit_permitted kept
  · rcases known with ⟨rows, _, marking⟩
    exact idle_executed marking.results.idle (by simp) (service_executed ran)
  · rcases known with ⟨rows, _, marking⟩
    exact idle_executed marking.results.idle (by simp) (service_executed ran)

theorem mark_triple (allowed : deployment.outbox_settings settings = true) (now : Datetime)
    (messages : List OutboxMessage) (results : List (OutboxMessage × Bool)) :
    (outbox_discipline deployment).Triple (published run messages results)
      (OutboxWorker.mark settings run now (OutboxWorker.published_ids messages results)
        (OutboxWorker.failed_messages results)) (fun _ => resting run) (fun _ => resting run) := by
  have body : (outbox_discipline deployment).Triple (published run messages results) (do
      forEach (fun message_id => SqlAlchemyOutboxRepository.mark_processed message_id run)
        (OutboxWorker.published_ids messages results)
      forEach (OutboxWorker.mark_failure settings run now) (OutboxWorker.failed_messages results)
      await .commit) (fun _ => idle run) (fun _ => idle run) := by
    refine Discipline.Triple.bind (mark_all_triple messages results) (fun _ => Discipline.Triple.bind ?_
      (fun _ => commit_marks_triple messages results))
    exact mark_failures_triple allowed now messages (fun _ => mem_failed_messages.mp)
  have rollback : forall raised : Error, (outbox_discipline deployment).Triple (idle run) (await .rollback)
      (fun _ => idle run) (fun _ => idle run) := fun _ => idle_rollback_triple
  exact scope_triple body rollback (fun _ => close_triple) (fun _ => close_triple)

theorem publish_triple (allowed : deployment.outbox_settings settings = true) (now : Datetime)
    (messages : List OutboxMessage) :
    (outbox_discipline deployment).Triple (ready run messages)
      (OutboxWorker.publish settings run now messages) (fun _ => resting run) (fun _ => resting run) := by
  rw [OutboxWorker.publish]
  split
  · refine Discipline.Triple.raise (fun _ _ known => ?_)
    rcases known with ⟨rows, _, ready⟩
    exact ready.resting
  · refine Discipline.Triple.bind (publish_all_triple messages _) (fun _ => ?_)
    refine Discipline.Triple.bind (published_all_triple messages) (fun results => ?_)
    dsimp only
    split
    · refine Discipline.Triple.ret (fun _ _ known => ?_)
      rcases known with ⟨rows, _, free, results⟩
      exact ⟨free, results.idle⟩
    · exact mark_triple allowed now messages results

theorem publish_batch_triple (allowed : deployment.outbox_settings settings = true) :
    (outbox_discipline deployment).Triple (resting run) (OutboxWorker.publish_batch settings run)
      (fun _ => resting run) (fun _ => resting run) := by
  refine Discipline.Triple.bind read_clock (fun now => ?_)
  refine Discipline.Triple.bind (claim_triple allowed now) (fun messages => ?_)
  split
  · refine Discipline.Triple.ret (fun _ _ known => ?_)
    rcases known with ⟨rows, _, ready⟩
    exact ready.resting
  · exact publish_triple allowed now messages

theorem purge_triple (allowed : deployment.outbox_settings settings = true) :
    (outbox_discipline deployment).Triple (resting run) (OutboxWorker.purge_processed settings)
      (fun _ => resting run) (fun _ => resting run) := by
  have reap : forall now, (outbox_discipline deployment).Triple (opened run now)
      (SqlAlchemyOutboxRepository.reap_exhausted settings.OUTBOX_MAX_ATTEMPTS)
      (fun _ => opened run now) (fun _ => idle run) := by
    intro now
    refine Discipline.Triple.bind (opened_update (fun world known => ?_))
      (fun _ => Discipline.Triple.ret (fun _ _ known => known))
    refine permits_update (by simp) known.unleased ?_ (by simp) (by simp) (by simp)
    intro limit named
    cases named
    exact ⟨settings, allowed, rfl⟩
  have purge : forall (now cutoff : Datetime), (outbox_discipline deployment).Triple (opened run now)
      (SqlAlchemyOutboxRepository.purge_processed cutoff) (fun _ => opened run now) (fun _ => idle run) := by
    intro now cutoff
    have neutral : NoLease (.delete_finished cutoff) :=
      no_lease_of_ne (by simp) (by simp) (by simp) (by simp) (by simp)
    refine Discipline.Triple.perform (fun world _ _ => neutral.permits_of_ne (by simp) (by simp))
      (fun state _ _ _ _ known ran _ _ => ?_) (fun state _ _ _ _ known ran _ _ => ?_)
    · have executed := service_executed ran
      exact ⟨unleased_executed known.unleased neutral.proper neutral.lock neutral.claim executed,
        idle_executed known.idle neutral.publish executed,
        unclaimed_executed known.unclaimed known.unleased executed, own_executed executed known.read⟩
    · exact idle_executed known.idle neutral.publish (service_executed ran)
  have commit : forall now, (outbox_discipline deployment).Triple (opened run now) (await .commit)
      (fun _ => idle run) (fun _ => idle run) := by
    intro now
    refine Discipline.Triple.perform (fun world _ known => ?_) (fun state _ _ _ _ known ran _ _ => ?_)
      (fun state _ _ _ _ known ran _ _ => ?_)
    · exact (no_lease_scope .commit).permitted (by simp) (fun _ =>
        ⟨known.idle, fun key row current => absurd current (known.unclaimed key row)⟩)
    · exact idle_executed known.idle (by simp) (service_executed ran)
    · exact idle_executed known.idle (by simp) (service_executed ran)
  refine Discipline.Triple.bind read_clock (fun now => ?_)
  refine scope_triple (Discipline.Triple.bind (reap now) (fun _ => Discipline.Triple.bind (purge now _)
    (fun _ => commit now))) ?_ (fun _ => close_triple) (fun _ => close_triple)
  exact fun _ => idle_rollback_triple

theorem logged_triple {program : Program Unit}
    (triple : (outbox_discipline deployment).Triple (resting run) program (fun _ => resting run)
      (fun _ => resting run)) :
    (outbox_discipline deployment).Triple (resting run) (OutboxWorker.logged program)
      (fun _ => resting run) (fun _ => resting run) := by
  refine Discipline.Triple.tryCatch triple (fun error => ?_)
  cases error with
  | cancelled => exact Discipline.Triple.raise (fun _ _ known => known)
  | _ => exact Discipline.Triple.ret (fun _ _ known => known)

/-- A worker asks for permitted operations only, in any number of cycles. -/
theorem worker_triple (allowed : deployment.outbox_settings settings = true) (done cycles : Nat) :
    (outbox_discipline deployment).Triple (resting run) (OutboxWorker.run settings run done cycles)
      (fun _ => resting run) (fun _ => resting run) := by
  induction cycles generalizing done with
  | zero => exact Discipline.Triple.ret (fun _ _ known => known)
  | succ cycles inductionHypothesis =>
      rw [OutboxWorker.run]
      refine Discipline.Triple.bind (logged_triple (publish_batch_triple allowed)) (fun _ => ?_)
      split
      · exact Discipline.Triple.raise (fun _ _ known => known)
      · dsimp only
        split
        · exact Discipline.Triple.bind (logged_triple (purge_triple allowed))
            (fun _ => inductionHypothesis (done + 1))
        · exact inductionHypothesis (done + 1)

/-! ## The whole service -/

/-- What a run that has not been started knows. -/
structure Unstarted (run : RunId) (world : World) : Prop where
  free : Free run world
  idle : Idle run world
  unclaimed : Unclaimed run world

theorem Unstarted.stable (known : Unstarted run world) (frame : LeaseFrame run world after) :
    Unstarted run after :=
  ⟨known.free.stable frame, known.idle.stable frame, known.unclaimed.stable frame⟩

theorem Unstarted.started (known : Unstarted run world) {job : Job}
    (begun : start deployment job run world = some after) : Unstarted run after := by
  rcases start_cases begun with rfl | ⟨settings, message, _, _, rfl⟩
  · exact known
  · have own : (deliver run message world).own run = .delivered message :: world.own run :=
      World.own_note_self (.delivered message)
    refine ⟨known.free, known.idle, fun key row current => known.unclaimed key row ?_⟩
    exact current.of_note own (fun _ impossible => by cases impossible)

theorem unstarted_initially : Unstarted run World.initial where
  free := by
    rintro key ⟨draft, locked⟩
    cases locked
  idle := rfl
  unclaimed := by
    intro key row current
    rcases current.recorded with ⟨recent, record, earlier, own, _⟩
    cases recent <;> cases own

def outbox_verified (deployment : Deployment) :
    (outbox_discipline deployment).Verified World.initial where
  upheld := outbox_upheld deployment
  idle := fun run => knows run (Unstarted run) (fun _ _ frame _ known => known.stable frame)
  post := fun _ _ _ => .fact True
  error := fun _ _ _ => .fact True
  initial_idle := fun _ => unstarted_initially
  programs := by
    intro run job world after kept known begun kept' _
    have unstarted : Unstarted run after := Unstarted.started known begun
    have neutral : Bystander run after := ⟨unstarted.free.unleased, unstarted.free.unmarking,
      unstarted.idle, unstarted.unclaimed⟩
    have quiet : forall {X : Type} {program : Program X}, program.OnlyCalls NoLease ->
        (outbox_discipline deployment).Safe run (fun _ => .fact True) (fun _ => .fact True) program after := by
      intro X program calls
      exact (bystander_triple calls after kept' neutral).mono (fun _ _ _ _ => trivial)
        (fun _ _ _ _ => trivial) kept'
    cases job with
    | create command => exact quiet ((create_calls command).mono (fun _ => no_lease_create))
    | process command => exact quiet ((process_calls command).mono (fun _ => no_lease_process))
    | get query => exact quiet ((get_calls query).mono (fun _ => no_lease_get))
    | deliver batch_size concurrency => exact quiet ((deliver_calls _ _ _).mono (fun _ => no_lease_deliver))
    | consume settings message => exact quiet ((consume_calls settings message).mono (fun _ => no_lease_consume))
    | outbox settings cycles =>
        have allowed : deployment.outbox_settings settings = true := by
          simp only [start] at begun
          split at begun
          · assumption
          · cases begun
        exact (worker_triple allowed 0 cycles after kept' ⟨unstarted.free, unstarted.idle⟩).mono
          (fun _ _ _ _ => trivial) (fun _ _ _ _ => trivial) kept'

end Properties
end Payments

import Payments.Concurrency.Machine

namespace Payments
namespace Concurrency

/-!
# Rely-guarantee reasoning for interleaved programs

A discipline says what every step of every run keeps true of the shared state
(`inv`), how the state may change at all (`evolves`), which part of it a run
has to itself (`frame`), and when a run may execute an operation (`permits`).

The work is divided at `permits`.  `Upheld` says that every permitted operation
keeps the discipline; it is about single operations and never about a program.
`Safe` says that a program asks for permitted operations only; it is the
weakest precondition of the program, and it quantifies over every state the
other runs may produce before each operation, so it is stable by construction.
The rules for `Triple` follow the shape of programs, and `Verified.sound` puts
both together for every reachable state of the whole system.
-/

variable {sig : Signature}

structure Discipline (M : Machine sig) where
  inv : M.Shared -> Prop
  evolves : M.Shared -> M.Shared -> Prop
  frame : M.Run -> M.Shared -> M.Shared -> Prop
  /-- What has to hold when a run is about to execute an operation. -/
  permits : M.Run -> sig.Op -> M.Shared -> Prop
  /-- Assumptions on the steps of the runs that are considered. -/
  allowed : M.Shared -> M.Shared -> Prop
  evolves_refl : forall state, evolves state state
  evolves_trans : forall {first second third},
    evolves first second -> evolves second third -> evolves first third
  frame_refl : forall run state, frame run state state
  frame_trans : forall {run first second third},
    frame run first second -> frame run second third -> frame run first third

namespace Discipline

variable {M : Machine sig} (D : Discipline M)

/-- What the other runs may do between two operations of this run. -/
def Rely (run : M.Run) (before after : M.Shared) : Prop :=
  D.frame run before after ∧ D.evolves before after

/-- What one step of this run owes to all other runs. -/
def Guarantee (run : M.Run) (before after : M.Shared) : Prop :=
  D.inv after ∧ D.evolves before after ∧ forall other, other ≠ run -> D.frame other before after

/-- Every step that is permitted keeps the discipline. -/
structure Upheld (initial : M.Shared) : Prop where
  initially : D.inv initial
  starts : forall run job state after, D.inv state -> M.start job run state = some after ->
    D.allowed state after -> D.Guarantee run state after
  operations : forall run op choice state after answer, D.inv state -> D.permits run op state ->
    M.exec run op choice state = some (after, answer) -> D.allowed state after ->
    D.Guarantee run state after
  crashes : forall run state, D.inv state -> D.allowed state (M.crash run state) ->
    D.Guarantee run state (M.crash run state)
  environment : forall event state after, D.inv state -> M.env event state = some after ->
    D.allowed state after ->
    D.inv after ∧ D.evolves state after ∧ forall run, D.frame run state after

theorem Rely.refl (run : M.Run) (state : M.Shared) : D.Rely run state state :=
  ⟨D.frame_refl run state, D.evolves_refl state⟩

variable {D}

theorem Rely.trans {run : M.Run} {first second third : M.Shared}
    (before : D.Rely run first second) (after : D.Rely run second third) : D.Rely run first third :=
  ⟨D.frame_trans before.1 after.1, D.evolves_trans before.2 after.2⟩

theorem Guarantee.rely {run other : M.Run} {before after : M.Shared}
    (kept : D.Guarantee run before after) (different : other ≠ run) : D.Rely other before after :=
  ⟨kept.2.2 other different, kept.2.1⟩

/-! ## Assertions -/

variable (D)

/-- A fact about the shared state that no step of another run can destroy. -/
structure Assertion (run : M.Run) where
  holds : M.Shared -> Prop
  stable : forall {before after}, holds before -> D.Rely run before after -> D.inv after -> holds after

variable {D}

instance {run : M.Run} : CoeFun (Assertion D run) (fun _ => M.Shared -> Prop) := ⟨Assertion.holds⟩

namespace Assertion

variable {run : M.Run}

/-- What depends on the run's own part of the state only. -/
def own (holds : M.Shared -> Prop)
    (framed : forall before after, D.frame run before after -> holds before -> holds after) :
    D.Assertion run where
  holds := holds
  stable := fun before rely _ => framed _ _ rely.1 before

/-- A fact that does not mention the state. -/
def fact (holds : Prop) : D.Assertion run where
  holds := fun _ => holds
  stable := fun before _ _ => before

def both (left right : D.Assertion run) : D.Assertion run where
  holds := fun state => left state ∧ right state
  stable := fun before rely inv => ⟨left.stable before.1 rely inv, right.stable before.2 rely inv⟩

@[simp] theorem both_holds (left right : D.Assertion run) (state : M.Shared) :
    left.both right state = (left state ∧ right state) :=
  rfl

@[simp] theorem fact_holds (holds : Prop) (state : M.Shared) :
    (fact holds : D.Assertion run) state = holds :=
  rfl

end Assertion

/-! ## Safety of a program -/

variable (D) {X Y : Type}

/-- From this state the program executes permitted operations only, and its
end satisfies the assertions, whatever the other runs do meanwhile. -/
def Safe (run : M.Run) (post : X -> D.Assertion run) (error : sig.Error -> D.Assertion run) :
    Prog sig X -> M.Shared -> Prop
  | .ret value, state => post value state
  | .raise raised, state => error raised state
  | .call op next, state => forall later, D.Rely run state later -> D.inv later ->
      D.permits run op later ∧
        forall choice after answer, M.exec run op choice later = some (after, answer) ->
          D.inv after -> D.evolves later after -> Safe run post error (next answer) after

variable {D} {run : M.Run} {post : X -> D.Assertion run} {error : sig.Error -> D.Assertion run}

theorem Safe.stable {program : Prog sig X} {before after : M.Shared}
    (safe : D.Safe run post error program before) (others : D.Rely run before after)
    (kept : D.inv after) : D.Safe run post error program after := by
  cases program with
  | ret value => exact (post value).stable safe others kept
  | raise raised => exact (error raised).stable safe others kept
  | call op next =>
      intro later rely inv
      exact safe later (others.trans rely) inv

theorem Safe.mono {post' : X -> D.Assertion run} {error' : sig.Error -> D.Assertion run}
    (weaker : forall value state, D.inv state -> post value state -> post' value state)
    (weakerError : forall raised state, D.inv state -> error raised state -> error' raised state)
    {program : Prog sig X} {state : M.Shared} (inv : D.inv state)
    (safe : D.Safe run post error program state) : D.Safe run post' error' program state := by
  induction program generalizing state with
  | ret value => exact weaker value state inv safe
  | raise raised => exact weakerError raised state inv safe
  | call op next inductionHypothesis =>
      intro later rely kept
      refine ⟨(safe later rely kept).1, fun choice after answer executed inv' evolves => ?_⟩
      exact inductionHypothesis answer inv' ((safe later rely kept).2 choice after answer executed inv' evolves)

theorem Safe.bind {middle : X -> D.Assertion run} {final : Y -> D.Assertion run}
    {program : Prog sig X} {rest : X -> Prog sig Y} {state : M.Shared} (inv : D.inv state)
    (first : D.Safe run middle error program state)
    (second : forall value state, D.inv state -> middle value state ->
      D.Safe run final error (rest value) state) :
    D.Safe run final error (program.bind rest) state := by
  induction program generalizing state with
  | ret value => exact second value state inv first
  | raise raised => exact first
  | call op next inductionHypothesis =>
      intro later rely kept
      refine ⟨(first later rely kept).1, fun choice after answer executed inv' evolves => ?_⟩
      exact inductionHypothesis answer inv' ((first later rely kept).2 choice after answer executed inv' evolves)

theorem Safe.tryCatch {raises : sig.Error -> D.Assertion run} {program : Prog sig X}
    {handler : sig.Error -> Prog sig X} {state : M.Shared} (inv : D.inv state)
    (first : D.Safe run post raises program state)
    (second : forall raised state, D.inv state -> raises raised state ->
      D.Safe run post error (handler raised) state) :
    D.Safe run post error (program.tryCatch handler) state := by
  induction program generalizing state with
  | ret value => exact first
  | raise raised => exact second raised state inv first
  | call op next inductionHypothesis =>
      intro later rely kept
      refine ⟨(first later rely kept).1, fun choice after answer executed inv' evolves => ?_⟩
      exact inductionHypothesis answer inv' ((first later rely kept).2 choice after answer executed inv' evolves)

end Discipline

/-! ## Triples -/

namespace Discipline

variable {M : Machine sig} (D : Discipline M) {X Y : Type} {run : M.Run}

/-- Started where `pre` holds, the program executes permitted operations only
and ends in `post`, or raises in `error`. -/
def Triple (pre : D.Assertion run) (program : Prog sig X) (post : X -> D.Assertion run)
    (error : sig.Error -> D.Assertion run) : Prop :=
  forall state, D.inv state -> pre state -> D.Safe run post error program state

variable {D} {pre : D.Assertion run} {post : X -> D.Assertion run}
  {error : sig.Error -> D.Assertion run}

theorem Triple.ret {value : X} (ends : forall state, D.inv state -> pre state -> post value state) :
    D.Triple pre (pure value) post error :=
  ends

theorem Triple.raise {raised : sig.Error}
    (ends : forall state, D.inv state -> pre state -> error raised state) :
    D.Triple pre (.raise raised : Prog sig X) post error :=
  ends

/-- The rule for one operation: `pre` is stable, so it still holds when the
operation executes, and only that one step has to be looked at. -/
theorem Triple.perform {op : sig.Op} {post : sig.Answer op -> D.Assertion run}
    (permitted : forall state, D.inv state -> pre state -> D.permits run op state)
    (returns : forall state choice after value, D.inv state -> pre state ->
      M.exec run op choice state = some (after, .ok value) -> D.inv after -> D.evolves state after ->
      post value after)
    (raises : forall state choice after raised, D.inv state -> pre state ->
      M.exec run op choice state = some (after, .error raised) -> D.inv after ->
      D.evolves state after -> error raised after) :
    D.Triple pre (Prog.perform op) post error := by
  intro state inv holds later rely kept
  have stillHolds := pre.stable holds rely kept
  refine ⟨permitted later kept stillHolds, fun choice after answer executed inv' evolves => ?_⟩
  cases answer with
  | ok value => exact returns later choice after value kept stillHolds executed inv' evolves
  | error raised => exact raises later choice after raised kept stillHolds executed inv' evolves

theorem Triple.bind {program : Prog sig X} {rest : X -> Prog sig Y} {final : Y -> D.Assertion run}
    (first : D.Triple pre program post error)
    (second : forall value, D.Triple (post value) (rest value) final error) :
    D.Triple pre (program >>= rest) final error :=
  fun state inv holds => Safe.bind inv (first state inv holds) second

theorem Triple.tryCatch {program : Prog sig X} {handler : sig.Error -> Prog sig X}
    {raises : sig.Error -> D.Assertion run} (first : D.Triple pre program post raises)
    (second : forall raised, D.Triple (raises raised) (handler raised) post error) :
    D.Triple pre (program.tryCatch handler) post error :=
  fun state inv holds => Safe.tryCatch inv (first state inv holds) second

/-- `try: program finally: last`, where `last` takes each outcome of the body
to the same outcome with a possibly different assertion. -/
theorem Triple.tryFinally {program : Prog sig X} {last : Prog sig Unit}
    {middle : X -> D.Assertion run} {raises : sig.Error -> D.Assertion run}
    (first : D.Triple pre program middle raises)
    (afterRaise : forall raised, D.Triple (raises raised) last (fun _ => error raised) error)
    (afterReturn : forall value, D.Triple (middle value) last (fun _ => post value) error) :
    D.Triple pre (program.tryFinally last) post error := by
  have body : D.Triple pre (program.tryCatch (fun raised => last.bind (fun _ => .raise raised)))
      middle error :=
    Triple.tryCatch first (fun raised =>
      Triple.bind (afterRaise raised) (fun _ => Triple.raise (fun _ _ holds => holds)))
  exact Triple.bind body (fun value =>
    Triple.bind (afterReturn value) (fun _ => Triple.ret (fun _ _ holds => holds)))

theorem Triple.weaken {program : Prog sig X} {pre' : D.Assertion run}
    {post' : X -> D.Assertion run} {error' : sig.Error -> D.Assertion run}
    (triple : D.Triple pre program post error)
    (stronger : forall state, D.inv state -> pre' state -> pre state)
    (weaker : forall value state, D.inv state -> post value state -> post' value state)
    (weakerError : forall raised state, D.inv state -> error raised state -> error' raised state) :
    D.Triple pre' program post' error' :=
  fun state inv holds => (triple state inv (stronger state inv holds)).mono weaker weakerError inv

theorem Triple.strengthen {program : Prog sig X} {pre' : D.Assertion run}
    (triple : D.Triple pre program post error)
    (stronger : forall state, D.inv state -> pre' state -> pre state) :
    D.Triple pre' program post error :=
  fun state inv holds => triple state inv (stronger state inv holds)

/-- A fact about the value a program was built from needs no state. -/
theorem Triple.ofExcept {outcome : Except sig.Error X}
    (returns : forall value state, outcome = .ok value -> D.inv state -> pre state -> post value state)
    (raises : forall raised state, outcome = .error raised -> D.inv state -> pre state ->
      error raised state) :
    D.Triple pre (Prog.ofExcept outcome) post error := by
  intro state inv holds
  cases outcome with
  | ok value => exact returns value state rfl inv holds
  | error raised => exact raises raised state rfl inv holds

/-- A pure computation in front of a program: where it does not raise, the
program runs with its value. -/
theorem Triple.ofExcept_bind {outcome : Except sig.Error X} {rest : X -> Prog sig Y}
    {final : Y -> D.Assertion run}
    (raises : forall raised state, outcome = .error raised -> D.inv state -> pre state -> error raised state)
    (second : forall value, outcome = .ok value -> D.Triple pre (rest value) final error) :
    D.Triple pre (Prog.ofExcept outcome >>= rest) final error := by
  intro state inv holds
  cases outcome with
  | ok value => exact second value rfl state inv holds
  | error raised => exact raises raised state rfl inv holds

/-- A known fact may be used to prove a program. -/
theorem Triple.of_fact {holds : Prop} {program : Prog sig X} (known : holds -> D.Triple pre program post error) :
    D.Triple (pre.both (.fact holds)) program post error :=
  fun state inv both => known both.2 state inv both.1

/-- The loop rule: an assertion indexed by the elements still to come. -/
theorem Triple.forEach {A : Type} {body : A -> Prog sig Unit} (loop : List A -> D.Assertion run)
    (steps : forall head tail, D.Triple (loop (head :: tail)) (body head) (fun _ => loop tail) error)
    (elements : List A) :
    D.Triple (loop elements) (Prog.forEach body elements) (fun _ => loop []) error := by
  induction elements with
  | nil => exact Triple.ret (fun _ _ holds => holds)
  | cons head tail inductionHypothesis =>
      exact Triple.bind (steps head tail) (fun _ => inductionHypothesis)

/-- A program all of whose operations are permitted where an assertion holds,
and keep it, is safe.  This is how a run that has nothing to do with a
discipline is shown to respect it. -/
theorem Triple.of_onlyCalls {neutral : sig.Op -> Prop} {post : X -> D.Assertion run}
    (known : D.Assertion run)
    (permitted : forall op, neutral op -> forall state, D.inv state -> known state ->
      D.permits run op state)
    (kept : forall op, neutral op -> forall state choice after answer, D.inv state -> known state ->
      M.exec run op choice state = some (after, answer) -> D.inv after -> known after)
    (returns : forall value state, D.inv state -> known state -> post value state)
    (raises : forall raised state, D.inv state -> known state -> error raised state)
    {program : Prog sig X} (calls : program.OnlyCalls neutral) :
    D.Triple known program post error := by
  induction program with
  | ret value => exact fun state inv holds => returns value state inv holds
  | raise raised => exact fun state inv holds => raises raised state inv holds
  | call op next inductionHypothesis =>
      intro state inv holds later rely inv'
      have still := known.stable holds rely inv'
      refine ⟨permitted op calls.1 later inv' still, fun choice after answer executed inv'' _ => ?_⟩
      exact inductionHypothesis answer (calls.2 answer) after inv''
        (kept op calls.1 later choice after answer inv' still executed inv'')

/-- The frame rule: what every operation of the program keeps holds at its end as well. -/
theorem Triple.frame {allowed : sig.Op -> Prop} {program : Prog sig X} (known : D.Assertion run)
    (kept : forall op, allowed op -> forall state choice after answer, D.inv state -> known state ->
      M.exec run op choice state = some (after, answer) -> D.inv after -> known after)
    (calls : program.OnlyCalls allowed) (triple : D.Triple pre program post error) :
    D.Triple (pre.both known) program (fun value => (post value).both known)
      (fun raised => (error raised).both known) := by
  have framed : forall (rest : Prog sig X) state, D.inv state -> rest.OnlyCalls allowed ->
      D.Safe run post error rest state -> known state ->
      D.Safe run (fun value => (post value).both known) (fun raised => (error raised).both known) rest state := by
    intro rest
    induction rest with
    | ret value => exact fun state _ _ safe holds => ⟨safe, holds⟩
    | raise raised => exact fun state _ _ safe holds => ⟨safe, holds⟩
    | call op next inductionHypothesis =>
        intro state inv calls safe holds later rely inv'
        have still := known.stable holds rely inv'
        refine ⟨(safe later rely inv').1, fun choice after answer executed inv'' evolves => ?_⟩
        exact inductionHypothesis answer after inv'' (calls.2 answer)
          ((safe later rely inv').2 choice after answer executed inv'' evolves)
          (kept op calls.1 later choice after answer inv' still executed inv'')
  exact fun state inv holds => framed program state inv calls (triple state inv holds.1) holds.2

/-! ## Soundness for the whole system -/

variable (D)

/-- A discipline together with the proof that every job respects it. -/
structure Verified (initial : M.Shared) where
  upheld : D.Upheld initial
  /-- What a run that has not been started may assume of the state. -/
  idle : (run : M.Run) -> D.Assertion run
  post : (run : M.Run) -> (job : M.Job) -> M.Result job -> D.Assertion run
  error : (run : M.Run) -> (job : M.Job) -> sig.Error -> D.Assertion run
  initial_idle : forall run, idle run initial
  programs : forall run job state after, D.inv state -> idle run state ->
    M.start job run state = some after -> D.inv after -> D.evolves state after ->
    D.Safe run (post run job) (error run job) (M.program run job) after

variable {D}

namespace Verified

variable [DecidableEq M.Run] {initial : M.Shared} (verified : D.Verified initial)

/-- What the discipline says about one state of the whole system. -/
structure Holds (state : M.State) : Prop where
  inv : D.inv state.shared
  absent : forall run, state.phase run = .absent -> verified.idle run state.shared
  running : forall run job rest, state.phase run = .running job rest ->
    D.Safe run (verified.post run job) (verified.error run job) rest state.shared

variable {verified}

/-- A step of one run that keeps its guarantee leaves everything known about
all other runs intact. -/
theorem Holds.guaranteed {state : M.State} (holds : verified.Holds state) {run : M.Run}
    {after : M.Shared} (kept : D.Guarantee run state.shared after) {phase : M.Phase}
    (phase_ne : phase ≠ .absent)
    (safe : forall job rest, phase = .running job rest ->
      D.Safe run (verified.post run job) (verified.error run job) rest after) :
    verified.Holds ⟨after, state.setPhase run phase⟩ where
  inv := kept.1
  absent := by
    intro other absent
    by_cases same : other = run
    · subst same
      exact absurd (Machine.State.setPhase_self state other phase ▸ absent) phase_ne
    · have before : state.phase other = .absent :=
        (Machine.State.setPhase_of_ne state phase same).symm.trans absent
      exact (verified.idle other).stable (holds.absent other before) (kept.rely same) kept.1
  running := by
    intro other job rest running
    by_cases same : other = run
    · subst same
      exact safe job rest ((Machine.State.setPhase_self state other phase).symm.trans running)
    · have before : state.phase other = .running job rest :=
        (Machine.State.setPhase_of_ne state phase same).symm.trans running
      exact (holds.running other job rest before).stable (kept.rely same) kept.1

omit [DecidableEq M.Run] in
/-- A run about to execute an operation is permitted to. -/
theorem Holds.permitted {state : M.State} (holds : verified.Holds state) {run : M.Run} {job : M.Job}
    {op : sig.Op} {next : Except sig.Error (sig.Answer op) -> Prog sig (M.Result job)}
    (running : state.phase run = .running job (.call op next)) : D.permits run op state.shared :=
  (holds.running run job _ running state.shared (Rely.refl D run state.shared) holds.inv).1

theorem Holds.step {state next : M.State} {action : M.Action} (holds : verified.Holds state)
    (taken : Machine.step state action = some next) (admitted : D.allowed state.shared next.shared) :
    verified.Holds next ∧ D.evolves state.shared next.shared := by
  rcases Machine.step_cases taken with
    ⟨run, job, shared, absent, started, rfl⟩ |
    ⟨run, job, op, rest, choice, outcome, running, executed, rfl⟩ |
    ⟨run, job, op, rest, running, rfl⟩ | ⟨event, shared, happened, rfl⟩
  · have kept := verified.upheld.starts run job state.shared shared holds.inv started admitted
    have safe := verified.programs run job state.shared shared holds.inv (holds.absent run absent)
      started kept.1 kept.2.1
    refine ⟨holds.guaranteed kept (by intro impossible; cases impossible) ?_, kept.2.1⟩
    intro job' rest' same
    cases same
    exact safe
  · have kept := verified.upheld.operations run op choice state.shared outcome.1 outcome.2 holds.inv
      (holds.permitted running) executed admitted
    have safe := (holds.running run job _ running state.shared (Rely.refl D run state.shared)
      holds.inv).2 choice outcome.1 outcome.2 executed kept.1 kept.2.1
    refine ⟨holds.guaranteed kept (by intro impossible; cases impossible) ?_, kept.2.1⟩
    intro job' rest' same
    cases same
    exact safe
  · have kept := verified.upheld.crashes run state.shared holds.inv admitted
    refine ⟨holds.guaranteed kept (by intro impossible; cases impossible) ?_, kept.2.1⟩
    intro job' rest' same
    cases same
  · have kept := verified.upheld.environment event state.shared shared holds.inv happened admitted
    have rely : forall run, D.Rely run state.shared shared := fun run => ⟨kept.2.2 run, kept.2.1⟩
    exact ⟨⟨kept.1,
      fun run absent => (verified.idle run).stable (holds.absent run absent) (rely run) kept.1,
      fun run job rest running => (holds.running run job rest running).stable (rely run) kept.1⟩,
      kept.2.1⟩

theorem Holds.path {first last : M.State} (holds : verified.Holds first)
    (path : Machine.Path D.allowed first last) :
    verified.Holds last ∧ D.evolves first.shared last.shared := by
  induction path with
  | refl => exact ⟨holds, D.evolves_refl first.shared⟩
  | step action _ taken admitted inductionHypothesis =>
      rcases inductionHypothesis with ⟨before, evolved⟩
      rcases before.step taken admitted with ⟨after, evolves⟩
      exact ⟨after, D.evolves_trans evolved evolves⟩

/-- One step of the system takes a program that is safe towards any ends to a
rest that is safe towards them, unless its run crashes. -/
theorem Holds.follow {state next : M.State} {action : M.Action} (holds : verified.Holds state)
    (taken : Machine.step state action = some next) (admitted : D.allowed state.shared next.shared)
    {run : M.Run} {job : M.Job} {rest : Prog sig (M.Result job)} (running : state.phase run = .running job rest)
    {post : M.Result job -> D.Assertion run} {error : sig.Error -> D.Assertion run}
    (safe : D.Safe run post error rest state.shared) :
    next.phase run = .crashed ∨
      Exists fun rest' => next.phase run = .running job rest' ∧ D.Safe run post error rest' next.shared := by
  rcases Machine.step_cases taken with
    ⟨other, job', shared, absent, started, rfl⟩ |
    ⟨other, job', op, next, choice, outcome, calling, executed, rfl⟩ |
    ⟨other, job', op, next, calling, rfl⟩ | ⟨event, shared, happened, rfl⟩
  · have different : run ≠ other := by
      rintro rfl
      rw [running] at absent
      cases absent
    have kept := verified.upheld.starts other job' state.shared shared holds.inv started admitted
    exact .inr ⟨rest, (Machine.State.setPhase_of_ne state _ different).trans running,
      safe.stable (kept.rely different) kept.1⟩
  · have kept := verified.upheld.operations other op choice state.shared outcome.1 outcome.2 holds.inv
      (holds.permitted calling) executed admitted
    by_cases same : run = other
    · subst same
      rw [running] at calling
      cases calling
      have after := (safe state.shared (Rely.refl D run state.shared) holds.inv).2 choice outcome.1 outcome.2
        executed kept.1 kept.2.1
      exact .inr ⟨next outcome.2, Machine.State.setPhase_self state run _, after⟩
    · exact .inr ⟨rest, (Machine.State.setPhase_of_ne state _ same).trans running,
        safe.stable (kept.rely same) kept.1⟩
  · by_cases same : run = other
    · subst same
      exact .inl (Machine.State.setPhase_self state run _)
    · have kept := verified.upheld.crashes other state.shared holds.inv admitted
      exact .inr ⟨rest, (Machine.State.setPhase_of_ne state _ same).trans running,
        safe.stable (kept.rely same) kept.1⟩
  · have kept := verified.upheld.environment event state.shared shared holds.inv happened admitted
    exact .inr ⟨rest, running, safe.stable ⟨kept.2.2 run, kept.2.1⟩ kept.1⟩

/-- What a triple says about a program from some state on holds wherever the
run of this program is later. -/
theorem Holds.follows {state last : M.State} (holds : verified.Holds state)
    (path : Machine.Path D.allowed state last)
    {run : M.Run} {job : M.Job} {rest : Prog sig (M.Result job)} (running : state.phase run = .running job rest)
    {post : M.Result job -> D.Assertion run} {error : sig.Error -> D.Assertion run}
    (safe : D.Safe run post error rest state.shared) :
    last.phase run = .crashed ∨
      Exists fun rest' => last.phase run = .running job rest' ∧ D.Safe run post error rest' last.shared := by
  induction path with
  | refl => exact .inr ⟨rest, running, safe⟩
  | step action earlier taken admitted inductionHypothesis =>
      rcases inductionHypothesis with crashed | ⟨rest', running', safe'⟩
      · exact .inl (Machine.crashed_step taken crashed)
      · exact (holds.path earlier).1.follow taken admitted running' safe'

/-- A run that is about to execute an operation waits while the others go on,
crashes, or performs the operation and continues with its answer. -/
theorem Holds.performs {state last : M.State} (holds : verified.Holds state)
    (path : Machine.Path D.allowed state last) {run : M.Run} {job : M.Job} {op : sig.Op}
    {next : Except sig.Error (sig.Answer op) -> Prog sig (M.Result job)}
    (running : state.phase run = .running job (.call op next)) :
    (last.phase run = .running job (.call op next) ∧ D.Rely run state.shared last.shared) ∨
      last.phase run = .crashed ∨
      exists before after answer, Machine.Performs D.allowed state last run job op next before after answer ∧
        D.Rely run state.shared before.shared := by
  induction path with
  | refl => exact .inl ⟨running, Rely.refl D run state.shared⟩
  | @step middle last action earlier taken admitted inductionHypothesis =>
      rcases inductionHypothesis with ⟨waiting, rely⟩ | crashed | ⟨before, after, answer, performs, rely⟩
      · have holds' := (holds.path earlier).1
        have idle : forall {other} {after : M.Shared} {phase}, D.Guarantee other middle.shared after ->
            run ≠ other -> middle.setPhase other phase run = .running job (.call op next) ∧
              D.Rely run state.shared after :=
          fun kept different => ⟨(Machine.State.setPhase_of_ne middle _ different).trans waiting,
            rely.trans (kept.rely different)⟩
        rcases Machine.step_cases taken with
          ⟨other, job', shared, absent, started, rfl⟩ |
          ⟨other, job', op', next', choice, outcome, calling, executed, rfl⟩ |
          ⟨other, job', op', next', calling, rfl⟩ | ⟨event, shared, happened, rfl⟩
        · have different : run ≠ other := by
            rintro rfl
            rw [waiting] at absent
            cases absent
          exact .inl (idle (verified.upheld.starts other job' middle.shared shared holds'.inv started admitted)
            different)
        · by_cases same : run = other
          · subst same
            rw [waiting] at calling
            cases calling
            exact .inr (.inr ⟨middle, _, outcome.2, ⟨earlier, waiting, ⟨choice, executed⟩,
              .step action .refl taken admitted, Machine.State.setPhase_self middle run _, .refl⟩, rely⟩)
          · exact .inl (idle (verified.upheld.operations other op' choice middle.shared outcome.1 outcome.2 holds'.inv
              (holds'.permitted calling) executed admitted) same)
        · by_cases same : run = other
          · subst same
            exact .inr (.inl (Machine.State.setPhase_self middle run _))
          · exact .inl (idle (verified.upheld.crashes other middle.shared holds'.inv admitted) same)
        · have kept := verified.upheld.environment event middle.shared shared holds'.inv happened admitted
          exact .inl ⟨waiting, rely.trans ⟨kept.2.2 run, kept.2.1⟩⟩
      · exact .inr (.inl (Machine.crashed_step taken crashed))
      · exact .inr (.inr ⟨before, after, answer,
          { performs with later := performs.later.step action taken admitted }, rely⟩)

variable (verified)

/-- Every reachable state of the whole system satisfies the invariant, and
every running program is safe in it. -/
theorem sound {state : M.State} (reached : Machine.Reachable D.allowed initial state) :
    verified.Holds state := by
  have started : verified.Holds (Machine.fresh initial) :=
    ⟨verified.upheld.initially, fun run _ => verified.initial_idle run,
      fun run job rest running => by cases running⟩
  exact (started.path reached).1

theorem invariant (verified : D.Verified initial) {state : M.State}
    (reached : Machine.Reachable D.allowed initial state) :
    D.inv state.shared :=
  (verified.sound reached).inv

/-- Between any two states of one run the shared state has evolved. -/
theorem evolves (verified : D.Verified initial) {state later : M.State}
    (reached : Machine.Reachable D.allowed initial state)
    (path : Machine.Path D.allowed state later) : D.evolves state.shared later.shared :=
  ((verified.sound reached).path path).2

theorem permitted (verified : D.Verified initial) {state : M.State}
    (reached : Machine.Reachable D.allowed initial state)
    {run : M.Run} {job : M.Job} {op : sig.Op}
    {next : Except sig.Error (sig.Answer op) -> Prog sig (M.Result job)}
    (running : state.phase run = .running job (.call op next)) : D.permits run op state.shared :=
  (verified.sound reached).permitted running

/-- Every step of the system keeps what has been verified.  Another discipline
of the same system may therefore take it for granted of the steps it considers. -/
theorem kept_along (verified : D.Verified initial) {state : M.State}
    (reached : Machine.Reachable D.allowed initial state) :
    Machine.Reachable (fun before after => D.inv after ∧ D.evolves before after) initial state := by
  induction reached with
  | refl => exact .refl
  | step action earlier taken admitted inductionHypothesis =>
      rcases (verified.sound earlier).step taken admitted with ⟨after, evolves⟩
      exact inductionHypothesis.step action taken ⟨after.inv, evolves⟩

/-- A run that has returned satisfies the postcondition of its job. -/
theorem returned {state : M.State} (reached : Machine.Reachable D.allowed initial state)
    {run : M.Run} {job : M.Job} {value : M.Result job}
    (running : state.phase run = .running job (.ret value)) :
    verified.post run job value state.shared :=
  (verified.sound reached).running run job _ running

theorem raised {state : M.State} (reached : Machine.Reachable D.allowed initial state)
    {run : M.Run} {job : M.Job} {error : sig.Error}
    (running : state.phase run = .running job (.raise error)) :
    verified.error run job error state.shared :=
  (verified.sound reached).running run job _ running

end Verified

/-- A discipline whose permissions are known by other means, for example from
other disciplines of the same system, holds without looking at any program. -/
theorem Upheld.reachable [DecidableEq M.Run] {initial : M.Shared} (upheld : D.Upheld initial)
    (permitted : forall state, Machine.Reachable D.allowed initial state ->
      forall run job op next, state.phase run = .running job (.call op next) ->
      D.inv state.shared -> D.permits run op state.shared)
    {state : M.State} (reached : Machine.Reachable D.allowed initial state) :
    D.inv state.shared := by
  induction reached with
  | refl => exact upheld.initially
  | step action earlier taken admitted inductionHypothesis =>
      rcases Machine.step_cases taken with
        ⟨run, job, shared, absent, started, rfl⟩ |
        ⟨run, job, op, rest, choice, outcome, running, executed, rfl⟩ |
        ⟨run, job, op, rest, running, rfl⟩ | ⟨event, shared, happened, rfl⟩
      · exact (upheld.starts run job _ shared inductionHypothesis started admitted).1
      · exact (upheld.operations run op choice _ outcome.1 outcome.2 inductionHypothesis
          (permitted _ earlier run job op rest running inductionHypothesis) executed admitted).1
      · exact (upheld.crashes run _ inductionHypothesis admitted).1
      · exact (upheld.environment event _ shared inductionHypothesis happened admitted).1

end Discipline
end Concurrency
end Payments

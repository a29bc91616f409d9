import Payments.Concurrency.Machine

namespace Payments
namespace Concurrency
namespace Machine

/-!
# Runs that can always be brought to their end

A run may have to wait until another one lets go of something.  If a run that
waits holds nothing itself, what it waits for can be released by letting the
holder alone go on, and the waiting run can then continue.  So each run of
such a system can be brought to its end from every reachable state, by steps
of these runs only, and there is no deadlock among them.

What a run holds, what it waits for and which choices count as undisturbed is
left to the system.
-/

variable {sig : Signature} {M : Machine sig} [DecidableEq M.Run]

/-- Some runs perform operations with choices of one kind, and nothing else happens. -/
inductive Driven (runs : M.Run -> Prop) (calm : M.Choice -> Prop) (first : M.State) : M.State -> Prop where
  | refl : Driven runs calm first first
  | step {state next : M.State} (run : M.Run) (choice : M.Choice) (earlier : Driven runs calm first state)
      (driving : runs run) (undisturbed : calm choice) (taken : step state (.perform run choice) = some next) :
      Driven runs calm first next

/-- The program of the run has returned or raised. -/
def State.Ended (state : M.State) (run : M.Run) : Prop :=
  Exists fun job => (Exists fun value => state.phase run = .running job (.ret value)) ∨
    Exists fun raised => state.phase run = .running job (.raise raised)

/-- The run has a job of the given kind and has not crashed. -/
def State.Engaged (state : M.State) (kind : M.Job -> Prop) (run : M.Run) : Prop :=
  Exists fun job => Exists fun rest => state.phase run = .running job rest ∧ kind job

namespace Driven

variable {runs more : M.Run -> Prop} {calm : M.Choice -> Prop} {first middle last : M.State}

theorem trans (before : Driven runs calm first middle) (after : Driven runs calm middle last) :
    Driven runs calm first last := by
  induction after with
  | refl => exact before
  | step run choice _ driving undisturbed taken inductionHypothesis =>
      exact inductionHypothesis.step run choice driving undisturbed taken

theorem mono (driven : Driven runs calm first last) (weaker : forall run, runs run -> more run) :
    Driven more calm first last := by
  induction driven with
  | refl => exact .refl
  | step run choice _ driving undisturbed taken inductionHypothesis =>
      exact inductionHypothesis.step run choice (weaker run driving) undisturbed taken

theorem path (driven : Driven runs calm first last) : Path (fun _ _ => True) first last := by
  induction driven with
  | refl => exact .refl
  | step run choice _ _ _ taken inductionHypothesis => exact inductionHypothesis.step _ taken trivial

/-- The other runs stay where they are. -/
theorem phase_of_ne (driven : Driven runs calm first last) {run : M.Run} (apart : ¬ runs run) :
    last.phase run = first.phase run := by
  induction driven with
  | refl => rfl
  | @step state next other choice _ driving _ taken inductionHypothesis =>
      have different : run ≠ other := fun same => apart (same ▸ driving)
      simp only [Machine.step] at taken
      split at taken
      · rcases Option.map_eq_some_iff.mp taken with ⟨outcome, _, rfl⟩
        exact (State.setPhase_of_ne state _ different).trans inductionHypothesis
      · cases taken

/-- What every operation of these runs keeps is kept. -/
theorem kept {holds : M.Shared -> Prop} (driven : Driven runs calm first last)
    (steps : forall run op choice before after answer, runs run -> M.exec run op choice before = some (after, answer) ->
      holds before -> holds after) (initially : holds first.shared) : holds last.shared := by
  induction driven with
  | refl => exact initially
  | step run choice _ driving _ taken inductionHypothesis =>
      simp only [Machine.step] at taken
      split at taken
      · rcases Option.map_eq_some_iff.mp taken with ⟨outcome, executed, rfl⟩
        exact steps run _ choice _ outcome.1 outcome.2 driving executed inductionHypothesis
      · cases taken

/-- No run gets or loses a job. -/
theorem engaged (driven : Driven runs calm first last) {kind : M.Job -> Prop} :
    last.Engaged kind = first.Engaged kind := by
  induction driven with
  | refl => rfl
  | @step state next other choice _ _ _ taken inductionHypothesis =>
      refine Eq.trans (funext fun run => propext ?_) inductionHypothesis
      simp only [Machine.step] at taken
      split at taken
      · next job op rest running =>
          rcases Option.map_eq_some_iff.mp taken with ⟨outcome, _, rfl⟩
          by_cases same : run = other
          · subst same
            constructor
            · rintro ⟨job', rest', phase, member⟩
              cases (State.setPhase_self state run _).symm.trans phase
              exact ⟨job, _, running, member⟩
            · rintro ⟨job', rest', phase, member⟩
              cases running.symm.trans phase
              exact ⟨job, _, State.setPhase_self state run _, member⟩
          · simp only [State.Engaged, State.setPhase_of_ne state _ same]
      · cases taken

end Driven

/-! ## Waiting for what another run holds -/

/-- How the runs with jobs of one kind wait for each other. -/
structure Orderly (M : Machine sig) [DecidableEq M.Run] (initial : M.Shared) where
  kind : M.Job -> Prop
  calm : M.Choice -> Prop
  holds : M.Run -> M.Shared -> Prop
  /-- The first run holds what the operation of the second one needs. -/
  obstructs : M.Run -> M.Run -> sig.Op -> M.Shared -> Prop
  /-- A run goes on unless another one obstructs it. -/
  proceeds : forall {state : M.State} {run job op next}, Reachable (fun _ _ => True) initial state ->
    state.phase run = .running job (.call op next) -> kind job ->
    (Exists fun choice => calm choice ∧ (M.exec run op choice state.shared).isSome = true) ∨
      Exists fun other => obstructs other run op state.shared
  /-- What obstructs a run is a run of the same kind that holds something. -/
  holder : forall {state : M.State} {run job op next other}, Reachable (fun _ _ => True) initial state ->
    state.phase run = .running job (.call op next) -> kind job -> obstructs other run op state.shared ->
    holds other state.shared ∧ state.Engaged kind other
  /-- A run that has ended holds nothing. -/
  released : forall {state : M.State} {run}, Reachable (fun _ _ => True) initial state -> state.Ended run ->
    ¬ holds run state.shared
  /-- A run that holds something is not obstructed. -/
  patient : forall {state : M.State} {run job op next other}, Reachable (fun _ _ => True) initial state ->
    state.phase run = .running job (.call op next) -> kind job -> holds run state.shared ->
    ¬ obstructs other run op state.shared
  unique : forall {state : M.State} {run job op next first second}, Reachable (fun _ _ => True) initial state ->
    state.phase run = .running job (.call op next) -> kind job -> obstructs first run op state.shared ->
    obstructs second run op state.shared -> first = second
  /-- An operation makes nobody but its own run obstruct another one. -/
  settled : forall {run other third op op' choice before after answer},
    M.exec other op' choice before = some (after, answer) -> third ≠ other -> obstructs third run op after -> obstructs third run op before

namespace Orderly

variable {initial : M.Shared} (orderly : Orderly M initial)

/-- The run can be left alone until it holds nothing. -/
theorem releases {state : M.State} (reached : Reachable (fun _ _ => True) initial state) {run : M.Run} {job : M.Job}
    {rest : Prog sig (M.Result job)} (running : state.phase run = .running job rest) (member : orderly.kind job) :
    Exists fun last => Driven (fun other => other = run) orderly.calm state last ∧ ¬ orderly.holds run last.shared ∧
      forall waiting op third, third ≠ run -> orderly.obstructs third waiting op last.shared ->
        orderly.obstructs third waiting op state.shared := by
  induction rest generalizing state with
  | ret value =>
      exact ⟨state, .refl, orderly.released reached ⟨job, .inl ⟨value, running⟩⟩, fun _ _ _ _ same => same⟩
  | raise raised =>
      exact ⟨state, .refl, orderly.released reached ⟨job, .inr ⟨raised, running⟩⟩, fun _ _ _ _ same => same⟩
  | call op next inductionHypothesis =>
      by_cases holding : orderly.holds run state.shared
      · rcases orderly.proceeds reached running member with ⟨choice, calm, executes⟩ | ⟨other, obstructed⟩
        · rcases Option.isSome_iff_exists.mp executes with ⟨⟨after, answer⟩, executed⟩
          have taken := step_of_exec running executed
          rcases inductionHypothesis answer (reached.step _ taken trivial) (State.setPhase_self state run _) with
            ⟨last, driven, free, settled⟩
          have once : Driven (fun other => other = run) orderly.calm state _ := Driven.refl.step run choice rfl calm taken
          refine ⟨last, once.trans driven, free, ?_⟩
          exact fun waiting op' third different obstructed =>
            orderly.settled executed different (settled waiting op' third different obstructed)
        · exact absurd obstructed (orderly.patient reached running member holding)
      · exact ⟨state, .refl, holding, fun _ _ _ _ same => same⟩

/-- The operation a run is about to execute can be made possible. -/
theorem admits {state : M.State} (reached : Reachable (fun _ _ => True) initial state) {run : M.Run} {job : M.Job}
    {op : sig.Op} {next : Except sig.Error (sig.Answer op) -> Prog sig (M.Result job)}
    (running : state.phase run = .running job (.call op next)) (member : orderly.kind job) :
    Exists fun last => Driven (state.Engaged orderly.kind) orderly.calm state last ∧
      last.phase run = .running job (.call op next) ∧
      Exists fun choice => orderly.calm choice ∧ (M.exec run op choice last.shared).isSome = true := by
  rcases orderly.proceeds reached running member with executes | ⟨other, obstructed⟩
  · exact ⟨state, .refl, running, executes⟩
  · rcases orderly.holder reached running member obstructed with ⟨holding, job', rest, busy, member'⟩
    have different : run ≠ other := by
      rintro rfl
      exact orderly.patient reached running member holding obstructed
    rcases orderly.releases reached busy member' with ⟨last, driven, free, settled⟩
    have waiting : last.phase run = .running job (.call op next) := (driven.phase_of_ne different).trans running
    have reached' := reached.trans driven.path
    refine ⟨last, driven.mono (fun _ same => same ▸ ⟨job', rest, busy, member'⟩), waiting, ?_⟩
    rcases orderly.proceeds reached' waiting member with executes | ⟨third, obstructed'⟩
    · exact executes
    · exfalso
      have apart : third ≠ other := by
        rintro rfl
        exact free (orderly.holder reached' waiting member obstructed').1
      exact apart (orderly.unique reached running member (settled run op third apart obstructed') obstructed)

/-- Every run of the kind can be brought to its end by undisturbed steps of such runs. -/
theorem finishes {state : M.State} (reached : Reachable (fun _ _ => True) initial state) {run : M.Run} {job : M.Job}
    {rest : Prog sig (M.Result job)} (running : state.phase run = .running job rest) (member : orderly.kind job) :
    Exists fun last => Driven (state.Engaged orderly.kind) orderly.calm state last ∧ last.Ended run := by
  induction rest generalizing state with
  | ret value => exact ⟨state, .refl, job, .inl ⟨value, running⟩⟩
  | raise raised => exact ⟨state, .refl, job, .inr ⟨raised, running⟩⟩
  | call op next inductionHypothesis =>
      rcases orderly.admits reached running member with ⟨ready, driven, waiting, choice, calm, executes⟩
      rcases Option.isSome_iff_exists.mp executes with ⟨⟨after, answer⟩, executed⟩
      have taken := step_of_exec waiting executed
      have driven' : Driven (state.Engaged orderly.kind) orderly.calm state _ :=
        driven.step run choice ⟨job, _, running, member⟩ calm taken
      rcases inductionHypothesis answer (reached.trans driven'.path) (State.setPhase_self ready run _) with
        ⟨last, rest_driven, ended⟩
      rw [driven'.engaged] at rest_driven
      exact ⟨last, driven'.trans rest_driven, ended⟩

end Orderly
end Machine
end Concurrency
end Payments

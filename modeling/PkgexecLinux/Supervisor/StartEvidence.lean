import PkgexecLinux.Supervisor.StartGate

/-!
# Truth of start evidence

The invariants of the start gate, and what they say about the results of
`execute_backend`: a result without start evidence means that the program never
ran, and a result with start evidence means that it did unless the child was
ended without a trace between the release of the gate and its `execveat`.
-/

namespace PkgexecLinux.Supervisor

open Foundation Kernel Process

/-! ## Invariants of every run -/

/-- The order in which the gate is passed. -/
structure Gate.Ordered (gate : Gate) : Prop where
  unborn : gate.region = .admission → gate.phase = .unborn
  born : gate.region = .opening ∨ gate.region = .running ∨ gate.region = .gating ∨
    gate.region = .releasing → gate.phase ≠ .unborn
  early : gate.region = .admission ∨ gate.region = .opening ∨
    gate.region = .abandoning → gate.startReleased = false
  gating : gate.region = .gating ∨ gate.region = .releasing →
    gate.readySeen = true ∧ gate.startReleased = false
  releasing : gate.region = .releasing → gate.observed = false
  before : gate.observed = true → gate.beforeStart = true → gate.startReleased = false
  verifying : gate.region = .verifying →
    gate.childReaped = true ∧ gate.controlOpen = false

/-- What the phase of the child implies for the pipes and the flags. -/
structure Gate.Carried (gate : Gate) : Prop where
  unready : gate.phase.unready = true →
    gate.ready = [] ∧ gate.readySeen = false ∧ gate.startReleased = false
  withheld : gate.startReleased = false →
    gate.start = [] ∧ gate.phase.passedStart = false ∧ gate.committed = false
  awaiting : gate.phase = .awaitingStart → gate.startReleased = true → gate.start = [1]
  preCommit : gate.phase.preCommit = true →
    gate.committed = false ∧ gate.control.writers ≠ 0
  program : gate.phase = .program → gate.committed = true
  exited : gate.childExited = true → gate.phase.dead = true
  reaped : gate.childReaped = true → gate.childExited = true

section Steps

variable {place : Place} {move : Move} {gate next : Gate}

theorem Gate.Ordered.step (ordered : gate.Ordered)
    (stepped : GateStep place move gate next) : next.Ordered where
  unborn := by
    have := ordered.unborn
    cases stepped <;> grind -ring -linarith
  born := by
    have := ordered.born
    cases stepped <;> grind -ring -linarith
  early := by
    have := ordered.early
    cases stepped <;> grind -ring -linarith
  gating := by
    have := ordered.gating
    cases stepped <;> grind -ring -linarith
  releasing := by
    have := ordered.releasing
    cases stepped <;> grind -ring -linarith
  before := by
    have := ordered.before
    have := ordered.gating
    have := ordered.releasing
    cases stepped <;> grind -ring -linarith
  verifying := by
    have := ordered.verifying
    cases stepped <;> grind -ring -linarith

theorem Gate.Carried.step (ordered : gate.Ordered) (carried : gate.Carried)
    (stepped : GateStep place move gate next) : next.Carried where
  unready := by
    have := carried.unready
    have := ordered.unborn
    have := ordered.early
    have := ordered.gating
    cases stepped <;> grind -ring -linarith [List.append_eq_nil_iff]
  withheld := by
    have := carried.withheld
    cases stepped <;> grind -ring -linarith
  awaiting := by
    have := carried.awaiting
    have := carried.unready
    have := carried.withheld
    have := ordered.gating
    cases stepped <;> grind -ring -linarith
  preCommit := by
    have := carried.preCommit
    cases stepped <;> grind -ring -linarith
  program := by
    have := carried.program
    cases stepped <;> grind -ring -linarith
  exited := by
    have := carried.exited
    have := ordered.unborn
    cases stepped <;> grind -ring -linarith
  reaped := by
    have := carried.reaped
    cases stepped <;> grind -ring -linarith

/-! ## Evidence that the program did not run -/

/-- Everything the child has to say about its start is heard: as long as it has
not failed the control pipe is open and empty, and a commit is either confirmed
or about to be. -/
structure Gate.Heard (gate : Gate) : Prop where
  silent : gate.phase.silent = true → gate.controlOpen = true ∧ gate.recorded = []
  committed : gate.committed = true →
    gate.recorded = [] ∧ (gate.controlOpen = true ∨ gate.execConfirmed = true)
  concluded : ∀ outcome, gate.region = .finished outcome → outcome.started = false →
    gate.committed = false ∧ gate.phase.stopped = true

/-- A read of the control pipe is not answered with an unexpected error. -/
def ControlReadable (place : Place) (move : Move) : Prop :=
  ∀ errno, place = .readControl → move ≠ .supervisor (.refused errno)

theorem Gate.Heard.step (ordered : gate.Ordered) (carried : gate.Carried)
    (heard : gate.Heard) (readable : ControlReadable place move)
    (stepped : GateStep place move gate next) : next.Heard where
  silent := by
    intro silent
    have nothing := heard.silent
    have writer := carried.preCommit
    cases stepped with
    | controlData bytes rest _ _ nonempty _ cut =>
        rcases List.append_eq_nil_iff.mp (nothing silent).2 with ⟨_, empty⟩
        rw [cut] at empty
        exact absurd (List.append_eq_nil_iff.mp empty).1 nonempty
    | controlEnd running _ ended =>
        rcases List.append_eq_nil_iff.mp (nothing silent).2 with ⟨empty, _⟩
        have born := ordered.born (.inr (.inl running))
        rcases ended with full | ⟨_, noWriter⟩
        · simp [empty, ChildError.size] at full
        · have writing : gate.phase.preCommit = true := by
            cases phase : gate.phase <;> simp_all [ChildPhase.silent, ChildPhase.preCommit]
          exact absurd noWriter (writer writing).2
    | controlFailed errno _ here failed => exact absurd failed (readable errno here)
    | fork _ _ admission =>
        have unborn : gate.phase.silent = true := by
          simp [ordered.unborn admission, ChildPhase.silent]
        rcases List.append_eq_nil_iff.mp (nothing unborn).2 with ⟨empty, _⟩
        exact ⟨(nothing unborn).1, by simp [Gate.recorded, empty]⟩
    | _ => grind -ring -linarith
  committed := by
    have noted := heard.committed
    have silent := heard.silent
    have withheld := carried.withheld
    have writing := carried.preCommit
    cases stepped with
    | controlFailed errno _ here failed => exact absurd failed (readable errno here)
    | controlData bytes rest _ _ nonempty _ cut =>
        intro committed
        rcases List.append_eq_nil_iff.mp (noted committed).1 with ⟨_, empty⟩
        rw [cut] at empty
        exact absurd (List.append_eq_nil_iff.mp empty).1 nonempty
    | controlEnd =>
        intro committed
        rcases List.append_eq_nil_iff.mp (noted committed).1 with ⟨empty, _⟩
        have released : gate.startReleased = true := by
          by_contra withholding
          simp [withheld (eq_false_of_ne_true withholding)] at committed
        exact ⟨(noted committed).1, .inr (by simp [empty, released])⟩
    | written sent rest status phase =>
        intro committed
        have := writing (by simp [phase, ChildPhase.preCommit])
        simp_all
    | _ => grind -ring -linarith
  concluded := by
    have concluded := heard.concluded
    intro outcome
    cases stepped with
    | conclude _ verifying _ causes =>
        intro same notStarted
        cases same
        rcases ordered.verifying verifying with ⟨reaped, shut⟩
        have dead := carried.exited (carried.reaped reaped)
        refine ⟨?_, by cases phase : gate.phase <;> simp_all [ChildPhase.dead, ChildPhase.stopped]⟩
        by_contra committed
        have committed : gate.committed = true := by simpa using committed
        rcases causes notStarted with record | ⟨observed, before⟩ | unconfirmed
        · exact record (List.append_eq_nil_iff.mp (heard.committed committed).1).1
        · have withheld := carried.withheld (ordered.before observed before)
          simp [withheld] at committed
        · rcases (heard.committed committed).2 with opened | confirmed
          · simp [shut] at opened
          · simp [unconfirmed] at confirmed
    | refuse _ admission =>
        intro _ _
        have withheld := carried.withheld (ordered.early (.inl admission))
        exact ⟨withheld.2.2, by simp [ordered.unborn admission, ChildPhase.stopped]⟩
    | abandoned _ abandoning =>
        intro _ _
        have withheld := carried.withheld (ordered.early (.inr (.inr abandoning)))
        exact ⟨withheld.2.2, rfl⟩
    | _ => grind -ring -linarith

/-! ## Evidence that the program ran -/

/-- The child may still run the program, and nothing tells its end from a
commit. -/
@[grind] def Gate.exposed (gate : Gate) : Bool :=
  gate.startReleased && !gate.committed && !gate.phase.stopped && gate.recorded.isEmpty

/-- An exposed child is not ended by a signal, and none of the pipe calls on
which its report depends fails. -/
structure TraceKept (gate : Gate) (move : Move) : Prop where
  unkilled : gate.exposed = true → ∀ signal, move ≠ .kill signal
  unfailed : gate.exposed = true → gate.phase.passedStart = false →
    ∀ value detail, move ≠ .child (.fail value detail)

/-- Every end of the child after the release of the gate leaves a trace. -/
structure Gate.Accounted (gate : Gate) : Prop where
  reporting : ∀ record status, gate.phase = .reporting record status →
    gate.recorded ≠ [] ∨ record.length = ChildError.size
  vanished : gate.phase.dead = true → gate.startReleased = true →
    gate.committed = false → gate.recorded ≠ [] ∨ gate.controlOpen = false
  confirmed : gate.execConfirmed = true → gate.committed = true
  concluded : ∀ outcome, gate.region = .finished outcome → outcome.started = true →
    gate.committed = true

theorem recorded_of_unexposed (gate : Gate) (released : gate.startReleased = true)
    (uncommitted : gate.committed = false) (running : gate.phase.stopped = false)
    (hidden : ¬gate.exposed = true) : gate.recorded ≠ [] := by
  intro empty
  simp [Gate.exposed, released, uncommitted, running, empty] at hidden

/-- An end of file on the control pipe, with nothing read before it, comes from
a commit. -/
theorem Gate.Accounted.committed_of_end (ordered : gate.Ordered) (carried : gate.Carried)
    (accounted : gate.Accounted) (running : gate.region = .running)
    (opened : gate.controlOpen = true)
    (ended : ChildError.size - gate.controlBytes.length = 0 ∨
      (gate.control.buffer = [] ∧ gate.control.writers = 0))
    (unread : gate.controlBytes = []) (released : gate.startReleased = true) :
    gate.committed = true := by
  rcases ended with full | ⟨empty, noWriter⟩
  · simp [unread, ChildError.size] at full
  have nothing : gate.recorded = [] := by simp [Gate.recorded, unread, empty]
  by_contra uncommitted
  have uncommitted := eq_false_of_ne_true uncommitted
  by_cases dead : gate.phase.dead = true
  · rcases accounted.vanished dead released uncommitted with record | shut
    · exact record nothing
    · simp [opened] at shut
  · have born := ordered.born (.inr (.inl running))
    have notProgram : gate.phase ≠ .program := by
      intro program
      simp [carried.program program] at uncommitted
    have writing : gate.phase.preCommit = true := by
      cases phase : gate.phase <;> simp_all [ChildPhase.dead, ChildPhase.preCommit]
    exact (carried.preCommit writing).2 noWriter

theorem Gate.Accounted.step (ordered : gate.Ordered) (carried : gate.Carried)
    (accounted : gate.Accounted) (kept : TraceKept gate move)
    (stepped : GateStep place move gate next) : next.Accounted where
  reporting := by
    have reporting := accounted.reporting
    intro record status
    cases stepped with
    | controlData bytes rest _ _ nonempty _ cut =>
        intro phase
        left
        simp [Gate.recorded, nonempty]
    | written sent rest other phase nonempty =>
        intro _
        left
        simp [Gate.recorded, nonempty]
    | _ => grind -ring -linarith
  vanished := by
    have vanished := accounted.vanished
    cases stepped with
    | killed signal killing running =>
        intro _ released uncommitted
        left
        apply recorded_of_unexposed gate released uncommitted running
        exact fun exposed => kept.unkilled exposed signal killing
    | unready phase =>
        intro _ released _
        have := (carried.unready (by simp [phase, ChildPhase.unready])).2.2
        simp_all [Gate.ended]
    | unstarted start phase cause =>
        intro _ released uncommitted
        have waiting := carried.awaiting phase released
        rcases cause with ⟨⟨value, detail, failing⟩, _⟩ | ⟨byte, first, other⟩ | ⟨empty, _⟩
        · left
          refine recorded_of_unexposed gate released uncommitted
            (by simp [phase, ChildPhase.stopped]) ?_
          exact fun exposed => kept.unfailed exposed
            (by simp [phase, ChildPhase.passedStart]) value detail failing
        · rw [waiting] at first
          cases first
          exact absurd rfl other
        · simp [waiting] at empty
    | reported record status phase cause =>
        intro _ released uncommitted
        rcases cause with ⟨value, detail, failing⟩ | empty | shut
        · left
          refine recorded_of_unexposed gate released uncommitted
            (by simp [phase, ChildPhase.stopped]) ?_
          exact fun exposed => kept.unfailed exposed
            (by simp [phase, ChildPhase.passedStart]) value detail failing
        · rcases accounted.reporting record status phase with recorded | full
          · exact .inl recorded
          · simp [empty, ChildError.size] at full
        · exact .inr shut
    | exited status phase =>
        intro _ _ uncommitted
        have := carried.program phase
        simp_all [Gate.ended]
    | controlData bytes rest _ _ nonempty _ cut =>
        intro _ _ _
        left
        simp [Gate.recorded, nonempty]
    | abandoned _ abandoning =>
        intro _ released _
        have := ordered.early (.inr (.inr abandoning))
        simp_all
    | release _ reader =>
        intro dead
        have alive : gate.phase.dead = false := by
          cases phase : gate.phase <;> simp_all [ChildPhase.readsStart, ChildPhase.dead]
        simp [alive] at dead
    | _ => grind -ring -linarith
  confirmed := by
    have confirmed := accounted.confirmed
    cases stepped with
    | controlEnd running opened ended =>
        intro now
        simp only [Bool.or_eq_true, Bool.and_eq_true, List.isEmpty_iff] at now
        rcases now with already | ⟨unread, released⟩
        · exact confirmed already
        · show gate.committed = true
          exact accounted.committed_of_end ordered carried running opened ended unread
            released
    | fork _ _ admission =>
        intro already
        have withheld := carried.withheld (ordered.early (.inl admission))
        have := confirmed already
        simp_all
    | _ => grind -ring -linarith
  concluded := by
    have concluded := accounted.concluded
    intro outcome
    cases stepped with
    | conclude _ _ evidence _ =>
        intro same started
        cases same
        exact accounted.confirmed (evidence started).2
    | _ => grind -ring -linarith

end Steps

section Runs

variable {config : Config} {token : Bool} {clock : Nat} {system later : System}

/-- The invariants that hold in every run. -/
def System.GateSound (system : System) : Prop :=
  system.gate.Ordered ∧ system.gate.Carried

theorem gateSound_initial (config : Config) (token : Bool) (clock : Nat) :
    (config.initial token clock).GateSound := by
  constructor <;> constructor <;>
    simp [System.gate, Config.initial, Place.region, Locals.initial, ChildPhase.unready,
      ChildPhase.passedStart, ChildPhase.preCommit]

theorem gateSound_step {move : Move} {next : System} (sound : system.GateSound)
    (taken : step config move system = some next) : next.GateSound :=
  ⟨sound.1.step (gate_step taken), sound.2.step sound.1 (gate_step taken)⟩

/-- A read on a pipe yields only data, an end of file, `EAGAIN` or `EINTR`. -/
def pipesReliable (system : System) : Move → Bool
  | .supervisor (.refused _) =>
      match system.place with
      | .drainOutput | .drainError | .readControl | .readReady => false
      | _ => true
  | .child (.fail _ _) => system.child.phase != .awaitingStart
  | _ => true

theorem gate_heard
    (run : Reaches (step config) pipesReliable (config.initial token clock) system) :
    system.gate.Heard := by
  refine run.preserves_with System.GateSound (fun system => system.gate.Heard)
    (fun _ _ _ sound _ taken => gateSound_step sound taken) ?_
    (gateSound_initial config token clock) ?_
  · intro system move next sound heard admitted taken
    refine heard.step sound.1 sound.2 ?_ (gate_step taken)
    intro errno here failed
    simp [pipesReliable, failed, here] at admitted
  · constructor <;>
      simp [System.gate, Config.initial, Place.region, Locals.initial, Gate.recorded]

theorem region_of_outcome {outcome : Outcome} (returned : system.outcome? = some outcome) :
    system.gate.region = .finished outcome := by
  simp [System.gate, System.place_of_outcome returned, Place.region]

/-- A child that has stopped without a commit stays so when the supervisor has
returned. -/
theorem uncommitted_forever {outcome : Outcome}
    (finished : system.gate.region = .finished outcome)
    (stopped : system.child.phase.stopped = true)
    (uncommitted : system.child.committed = false)
    (after : Reaches (step config) unrestricted system later) :
    later.child.committed = false := by
  have kept : later.gate.region = .finished outcome ∧
      later.gate.phase.stopped = true ∧ later.gate.committed = false := by
    refine after.preserves (fun system => system.gate.region = .finished outcome ∧
      system.gate.phase.stopped = true ∧ system.gate.committed = false) ?_
      ⟨finished, stopped, uncommitted⟩
    intro system move next holds _ taken
    have stepped := gate_step taken
    generalize next.gate = after at stepped ⊢
    cases stepped <;> grind -ring -linarith
  exact kept.2.2

/-- If `execute_backend` returns a result without start evidence, the child's
`execveat` has not committed and never will. -/
theorem not_started_never_commits {outcome : Outcome}
    (run : Reaches (step config) pipesReliable (config.initial token clock) system)
    (returned : system.outcome? = some outcome) (notStarted : outcome.started = false)
    (after : Reaches (step config) unrestricted system later) :
    system.child.committed = false ∧ later.child.committed = false := by
  have finished := region_of_outcome returned
  rcases (gate_heard run).concluded outcome finished notStarted with
    ⟨uncommitted, stopped⟩
  exact ⟨uncommitted, uncommitted_forever finished stopped uncommitted after⟩

/-- No step ends an exposed child without a trace. -/
def endsWithTrace (system : System) : Move → Bool
  | .kill _ => !system.gate.exposed
  | .child (.fail _ _) => !system.gate.exposed || system.child.phase.passedStart
  | _ => true

theorem traceKept_of_endsWithTrace {move : Move}
    (admitted : endsWithTrace system move = true) : TraceKept system.gate move where
  unkilled := by
    intro exposed signal killing
    simp [endsWithTrace, killing, exposed] at admitted
  unfailed := by
    intro exposed before value detail failing
    have before : system.child.phase.passedStart = false := before
    simp [endsWithTrace, failing, exposed, before] at admitted

theorem gate_accounted
    (run : Reaches (step config) endsWithTrace (config.initial token clock) system) :
    system.gate.Accounted := by
  refine run.preserves_with System.GateSound (fun system => system.gate.Accounted)
    (fun _ _ _ sound _ taken => gateSound_step sound taken) ?_
    (gateSound_initial config token clock) ?_
  · intro system move next sound accounted admitted taken
    exact accounted.step sound.1 sound.2 (traceKept_of_endsWithTrace admitted)
      (gate_step taken)
  · constructor <;>
      simp [System.gate, Config.initial, Place.region, Locals.initial, ChildPhase.dead]

/-- In every run in which each end of the child between the release of the gate
and its commit leaves a trace, a result with start evidence means that the
`execveat` has committed. -/
theorem started_only_if_committed {outcome : Outcome}
    (run : Reaches (step config) endsWithTrace (config.initial token clock) system)
    (returned : system.outcome? = some outcome) (started : outcome.started = true) :
    system.child.committed = true :=
  (gate_accounted run).concluded outcome (region_of_outcome returned) started

end Runs

/-- Cancellation is requested while the child waits at the gate. -/
def cancelledAtGate : List Move :=
  supervised 10 ++ advanced 6 ++ [.request] ++ supervised 12 ++ [.kill 15] ++ supervised 33

theorem cancelledAtGate_never_commits :
    ∃ system outcome,
      Reaches (step (Config.plain true 1000)) pipesReliable
        ((Config.plain true 1000).initial false 0) system ∧
      system.outcome? = some outcome ∧ outcome.started = false ∧
      ∀ later, Reaches (step (Config.plain true 1000)) unrestricted system later →
        system.child.committed = false ∧ later.child.committed = false := by
  have played : (replay (step (Config.plain true 1000)) pipesReliable cancelledAtGate
      ((Config.plain true 1000).initial false 0)).any
      (fun system => system.outcome?.any fun outcome => !outcome.started) = true := by
    decide
  rcases exists_reached played with ⟨system, run, test⟩
  rcases (Option.any_eq_true _ _).mp test with ⟨outcome, returned, notStarted⟩
  have notStarted : outcome.started = false := by simpa using notStarted
  exact ⟨system, outcome, run, returned, notStarted, fun later after =>
    not_started_never_commits run returned notStarted after⟩

/-- The program is started, exits and its streams are closed. -/
def completed : List Move :=
  supervised 9 ++ advanced 6 ++ supervised 24 ++ advanced 3 ++
    [.child (.exit 0), .output .close, .error .close] ++ supervised 29

theorem completed_started_only_if_committed :
    ∃ system outcome,
      Reaches (step (Config.plain false 0)) endsWithTrace
        ((Config.plain false 0).initial false 0) system ∧
      system.outcome? = some outcome ∧ outcome.started = true ∧
      system.child.committed = true := by
  have played : (replay (step (Config.plain false 0)) endsWithTrace completed
      ((Config.plain false 0).initial false 0)).any
      (fun system => system.outcome?.any fun outcome => outcome.started) = true := by
    decide
  rcases exists_reached played with ⟨system, run, test⟩
  rcases (Option.any_eq_true _ _).mp test with ⟨outcome, returned, started⟩
  exact ⟨system, outcome, run, returned, started,
    started_only_if_committed run returned started⟩

/-- The child is killed between the start byte and its `execveat`. -/
def killedBeforeExec : List Move :=
  supervised 9 ++ advanced 6 ++ supervised 24 ++ [.child .succeed, .kill 9] ++ supervised 29

/-- The end of file left by the killed child passes for a commit. -/
theorem killedBeforeExec_started_uncommitted :
    ∃ system outcome,
      Reaches (step (Config.plain false 0)) unrestricted
        ((Config.plain false 0).initial false 0) system ∧
      system.outcome? = some outcome ∧ outcome.started = true ∧
      system.child.committed = false := by
  have played : (replay (step (Config.plain false 0)) unrestricted killedBeforeExec
      ((Config.plain false 0).initial false 0)).any
      (fun system => !system.child.committed &&
        system.outcome?.any fun outcome => outcome.started) = true := by
    decide
  rcases exists_reached played with ⟨system, run, test⟩
  simp only [Bool.and_eq_true, Bool.not_eq_true'] at test
  rcases (Option.any_eq_true _ _).mp test.2 with ⟨outcome, returned, started⟩
  exact ⟨system, outcome, run, returned, started, test.1⟩

end PkgexecLinux.Supervisor

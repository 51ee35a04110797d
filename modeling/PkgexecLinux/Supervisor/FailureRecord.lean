import PkgexecLinux.Foundation.Words
import PkgexecLinux.Supervisor.StartEvidence

/-!
# The failure record

`report_child_error` writes its record in as many pieces as the kernel likes, and
the supervisor reads it in other pieces over many turns of its loop.  The two
share nothing but the pipe: the bytes that have left the child are those that the
supervisor has received or will receive, and its descriptor stays open until
nothing more can come.
-/

namespace PkgexecLinux.Supervisor

open Foundation Kernel Process

/-! ## The layout of the record -/

theorem wordOfBytes_wordBytes (word : UInt32) :
    wordOfBytes (UInt8.ofNat word.toNat) (UInt8.ofNat (word.toNat / 256))
      (UInt8.ofNat (word.toNat / 65536)) (UInt8.ofNat (word.toNat / 16777216)) = word :=
  decode32_encode32 word

theorem ChildError.ofBytes_bytes (failure : ChildError) :
    ChildError.ofBytes failure.bytes = some failure := by
  rcases failure with ⟨stage, value, detail⟩
  simp only [ChildError.bytes, wordBytes, List.cons_append, List.nil_append, ChildError.ofBytes,
    wordOfBytes_wordBytes]

theorem ChildError.ofBytes_of_length {bytes : List UInt8} (short : bytes.length < ChildError.size) :
    ChildError.ofBytes bytes = none := by
  unfold ChildError.ofBytes
  split
  · simp [ChildError.size] at short
  · rfl

/-! ## What the child has written -/

/-- What `report_child_error` has written between two moments: `offset` has moved over
these bytes. -/
@[grind] def ChildPhase.sent : ChildPhase → ChildPhase → List UInt8
  | .reporting record _, .reporting rest _ => record.take (record.length - rest.length)
  | _, _ => []

@[simp, grind =] theorem ChildPhase.sent_self (phase : ChildPhase) : phase.sent phase = [] := by
  cases phase <;> simp [ChildPhase.sent]

theorem ChildPhase.sent_append (sent rest : List UInt8) (status after : UInt32) :
    (ChildPhase.reporting (sent ++ rest) status).sent (.reporting rest after) = sent := by
  simp [ChildPhase.sent]

/-- The bytes that one move makes the child write. -/
def reportedBy (config : Config) (entry : System × Move) : List UInt8 :=
  match step config entry.2 entry.1 with
  | some next => entry.1.child.phase.sent next.child.phase
  | none => []

/-- The bytes that the child writes in the course of a schedule. -/
def reported (config : Config) (moves : List Move) (first : System) : List UInt8 :=
  (transcript (step config) moves first).flatMap (reportedBy config)

/-- The pipe carries no more than one record, and the buffer has room for all of it. -/
structure Gate.Conveyed (gate : Gate) : Prop where
  silent : gate.phase.silent = true → gate.recorded = []
  reporting : ∀ record status, gate.phase = .reporting record status →
    gate.recorded.length + record.length = ChildError.size
  bounded : gate.recorded.length ≤ ChildError.size
  opened : gate.controlOpen = true → gate.controlBytes.length < ChildError.size

/-- The descriptor is closed only when the pipe is empty and stays so. -/
structure Gate.Sealed (gate : Gate) : Prop where
  empty : gate.controlOpen = false → gate.control.buffer = []
  complete : gate.controlOpen = false →
    gate.recorded.length = ChildError.size ∨ gate.phase.preCommit = false ∧ gate.phase ≠ .unborn

section Steps

variable {place : Place} {move : Move} {gate next : Gate}

/-- A step adds to the pipe what it makes the child write. -/
theorem recorded_step (ordered : gate.Ordered) (conveyed : gate.Conveyed)
    (stepped : GateStep place move gate next) :
    next.recorded = gate.recorded ++ gate.phase.sent next.phase := by
  cases stepped with
  | controlData bytes rest _ _ _ _ cut => simp [Gate.recorded, cut]
  | written sent rest status phase =>
      rw [phase, ChildPhase.sent_append]
      simp [Gate.recorded]
  | fork region pending admission =>
      have unborn := ordered.unborn admission
      have nothing := conveyed.silent (by rw [unborn]; rfl)
      rw [Gate.recorded, List.append_eq_nil_iff] at nothing
      simp [Gate.recorded, nothing, unborn, ChildPhase.sent]
  | _ => grind -ring -linarith

theorem Gate.Conveyed.step (ordered : gate.Ordered) (conveyed : gate.Conveyed)
    (stepped : GateStep place move gate next) : next.Conveyed := by
  have carries := recorded_step ordered conveyed stepped
  have silent := conveyed.silent
  have reporting := conveyed.reporting
  have bounded := conveyed.bounded
  have opened := conveyed.opened
  refine ⟨?_, ?_, ?_, ?_⟩
  · rw [carries]
    have unborn := ordered.unborn
    cases stepped <;> grind -ring -linarith
  · rw [carries]
    intro record status
    cases stepped with
    | report began after running full =>
        rintro ⟨⟩
        -- A report begins in a phase in which nothing has been written.
        have fresh : gate.phase.silent = true ∧
            gate.phase.sent (.reporting record status) = [] := by
          rcases running with ⟨pending, phase⟩ | phase
          · rw [phase]
            exact ⟨rfl, rfl⟩
          · rw [phase]
            exact ⟨rfl, rfl⟩
        simp [silent fresh.1, fresh.2, full]
    | _ => grind -ring -linarith
  · rw [carries]
    cases stepped <;> grind -ring -linarith
  · cases stepped <;> grind -ring -linarith

/-- As long as the reads do not fail, the supervisor closes its end when all has come. -/
theorem Gate.Sealed.step (ordered : gate.Ordered) (carried : gate.Carried)
    (conveyed : gate.Conveyed) (sealed : gate.Sealed) (readable : ControlReadable place move)
    (stepped : GateStep place move gate next) : next.Sealed := by
  have empty := sealed.empty
  have complete := sealed.complete
  have silent := conveyed.silent
  have reporting := conveyed.reporting
  have bounded := conveyed.bounded
  cases stepped with
  | controlFailed errno _ here failed => exact absurd failed (readable errno here)
  | controlData bytes rest _ _ _ fits cut =>
      have room : gate.controlBytes.length + (bytes.length + rest.length) ≤ ChildError.size := by
        simpa [Gate.recorded, cut] using bounded
      have filled : (decide ((gate.controlBytes ++ bytes).length ≠ ChildError.size)) = false →
          (gate.controlBytes ++ bytes).length = ChildError.size := by
        simp
      constructor
      · intro shut
        have full := filled shut
        rw [List.length_append] at full
        have drained : rest.length = 0 := by omega
        exact List.length_eq_zero_iff.mp drained
      · intro shut
        have full := filled shut
        rw [List.length_append] at full
        left
        simp only [Gate.recorded, List.length_append]
        omega
  | controlEnd running opened ended =>
      have room := conveyed.opened opened
      rcases ended with full | ⟨drained, noWriter⟩
      · omega
      · have idle : gate.phase.preCommit = false := by
          by_contra writing
          exact (carried.preCommit (eq_true_of_ne_false writing)).2 noWriter
        exact ⟨fun _ => drained, fun _ => .inr ⟨idle, ordered.born (.inr (.inl running))⟩⟩
  | written sent rest status phase nonempty =>
      have opened : gate.controlOpen ≠ false := by
        intro shut
        have left := reporting _ _ phase
        rw [List.length_append] at left
        have positive := List.length_pos_iff.mpr nonempty
        rcases complete shut with full | ⟨idle, _⟩
        · omega
        · simp [phase, ChildPhase.preCommit] at idle
      exact ⟨fun shut => absurd shut opened, fun shut => absurd shut opened⟩
  | fork region pending admission =>
      have unborn := ordered.unborn admission
      have opened : gate.controlOpen ≠ false := by
        intro shut
        have nothing := silent (by rw [unborn]; rfl)
        rcases complete shut with full | ⟨_, born⟩
        · simp [nothing, ChildError.size] at full
        · exact born unborn
      exact ⟨fun shut => absurd shut opened, fun shut => absurd shut opened⟩
  | _ => exact ⟨by grind -ring -linarith, by grind -ring -linarith⟩

/-- What a child that reports `failure` has written is the beginning of the record, and what
is left is the rest of it until the child ends. -/
structure Gate.Dictates (failure : ChildError) (written : List UInt8) (gate : Gate) : Prop where
  spoken : gate.phase.silent = false
  rest : ∀ record status, gate.phase = .reporting record status → written ++ record = failure.bytes
  start : written <+: failure.bytes

theorem Gate.Dictates.step {failure : ChildError} {written : List UInt8}
    (ordered : gate.Ordered) (dictates : gate.Dictates failure written)
    (stepped : GateStep place move gate next) :
    next.Dictates failure (written ++ gate.phase.sent next.phase) := by
  have spoken := dictates.spoken
  have rest := dictates.rest
  have start := dictates.start
  have unborn := ordered.unborn
  cases stepped with
  | written sent remaining status phase =>
      have whole := rest _ _ phase
      rw [← List.append_assoc] at whole
      rw [phase, ChildPhase.sent_append]
      refine ⟨rfl, ?_, ⟨remaining, whole⟩⟩
      rintro record after ⟨⟩
      exact whole
  | _ => exact ⟨by grind -ring -linarith, by grind -ring -linarith, by grind -ring -linarith⟩

end Steps

section Runs

variable {config : Config} {token : Bool} {clock : Nat}

/-- A read of the control pipe yields only data, an end of file, `EAGAIN` or `EINTR`. -/
def controlReadable (system : System) : Move → Bool
  | .supervisor (.refused _) => system.place != .readControl
  | _ => true

theorem controlReadable_spec {system : System} {move : Move}
    (admitted : controlReadable system move = true) : ControlReadable system.place move := by
  rintro errno here rfl
  simp [controlReadable, here] at admitted

/-- The invariants of the control pipe that hold in every run. -/
structure System.Conveying (system : System) : Prop where
  sound : system.GateSound
  conveyed : system.gate.Conveyed

theorem conveying_initial (config : Config) (token : Bool) (clock : Nat) :
    (config.initial token clock).Conveying := by
  refine ⟨gateSound_initial config token clock, ?_⟩
  constructor <;>
    simp [System.gate, Config.initial, Locals.initial, Gate.recorded, ChildError.size]

theorem conveying_step {system next : System} {move : Move} (conveying : system.Conveying)
    (taken : step config move system = some next) : next.Conveying :=
  ⟨gateSound_step conveying.sound taken,
    conveying.conveyed.step conveying.sound.1 (gate_step taken)⟩

theorem conveying_run {allowed : System → Move → Bool} {system : System}
    (run : Reaches (step config) allowed (config.initial token clock) system) :
    system.Conveying :=
  run.preserves System.Conveying (fun _ _ _ conveying _ taken => conveying_step conveying taken)
    (conveying_initial config token clock)

theorem sealed_run {system : System}
    (run : Reaches (step config) controlReadable (config.initial token clock) system) :
    system.gate.Sealed := by
  refine run.preserves_with System.Conveying (fun system => system.gate.Sealed)
    (fun _ _ _ conveying _ taken => conveying_step conveying taken) ?_
    (conveying_initial config token clock) ?_
  · intro system move next conveying sealed admitted taken
    exact sealed.step conveying.sound.1 conveying.sound.2 conveying.conveyed
      (controlReadable_spec admitted) (gate_step taken)
  · constructor <;> simp [System.gate, Config.initial, Locals.initial]

/-- Whatever the child has written of its record is in the pipe or in the buffer. -/
theorem reported_run {allowed : System → Move → Bool} {begun system : System}
    {failure : ChildError} {status : UInt32} {moves : List Move} (conveying : begun.Conveying)
    (reporting : begun.child.phase = .reporting failure.bytes status)
    (played : replay (step config) allowed moves begun = some system) :
    system.gate.recorded = reported config moves begun ∧
      system.gate.Dictates failure (reported config moves begun) := by
  have unwritten : begun.gate.recorded = [] := by
    have left := conveying.conveyed.reporting _ _ reporting
    rw [ChildError.length_bytes] at left
    exact List.length_eq_zero_iff.mp (by omega)
  have kept := replay_transcript
    (fun history state => state.Conveying ∧
      state.gate.recorded = history.flatMap (reportedBy config) ∧
      state.gate.Dictates failure (history.flatMap (reportedBy config))) ?_ played ?_
  · exact kept.2
  · rintro history state move next ⟨conveying, recorded, dictates⟩ _ taken
    have written : (history ++ [(state, move)]).flatMap (reportedBy config) =
        history.flatMap (reportedBy config) ++ state.gate.phase.sent next.gate.phase := by
      simp only [List.flatMap_append, List.flatMap_singleton, reportedBy, taken]
      rfl
    have stepped := gate_step taken
    rw [written]
    refine ⟨conveying_step conveying taken, ?_, dictates.step conveying.sound.1 stepped⟩
    rw [recorded_step conveying.sound.1 conveying.conveyed stepped, recorded]
  · refine ⟨conveying, unwritten, ⟨?_, ?_, List.nil_prefix⟩⟩
    · simp [System.gate, reporting, ChildPhase.silent]
    · intro record after phase
      rw [show begun.gate.phase = begun.child.phase from rfl, reporting] at phase
      cases phase
      rfl

/-- What has been written stays written. -/
theorem reported_append {begun system : System} {moves : List Move} (later : List Move)
    (played : replay (step config) controlReadable moves begun = some system) :
    reported config moves begun <+: reported config (moves ++ later) begun := by
  rw [reported, reported, transcript_append later played, List.flatMap_append]
  exact List.prefix_append _ _

/-! ## What the supervisor makes of it -/

/-- What the supervisor makes of the bytes that the child has written of its record: it
decodes the whole record as it was, and reports one that was only begun as truncated. -/
structure Received (config : Config) (failure : ChildError) (written : List UInt8)
    (locals : Locals) : Prop where
  whole : written = failure.bytes →
    ChildError.ofBytes locals.controlBytes = some failure ∧
    ∀ mountCleaned, classify config locals mountCleaned =
      .failedBeforeStart (childFailureKind failure)
        (if mountCleaned then childFailureDiagnostic config.strerror failure
          else childFailureDiagnostic config.strerror failure ++
            "; parent isolation scratch cleanup failed")
  part : written ≠ [] → written ≠ failure.bytes →
    ChildError.ofBytes locals.controlBytes = none ∧
    ∀ mountCleaned, classify config locals mountCleaned =
      .failedBeforeStart .processStartFailed "truncated child setup failure record"

theorem received_of_bytes {failure : ChildError} {locals : Locals}
    (start : locals.controlBytes <+: failure.bytes) :
    Received config failure locals.controlBytes locals where
  whole := by
    intro whole
    have decoded : ChildError.ofBytes locals.controlBytes = some failure := by
      rw [whole, ChildError.ofBytes_bytes]
    have present : locals.controlBytes ≠ [] := by
      rw [whole]
      exact List.ne_nil_of_length_pos (by simp [ChildError.size])
    refine ⟨decoded, ?_⟩
    intro mountCleaned
    simp only [classify, present, ne_eq, not_false_eq_true, if_true, recordOutcome, decoded]
  part := by
    intro begunReport incomplete
    have short : locals.controlBytes.length < ChildError.size := by
      rw [← ChildError.length_bytes failure]
      exact Nat.lt_of_le_of_ne start.length_le
        fun same => incomplete (start.eq_of_length same)
    have undecoded := ChildError.ofBytes_of_length short
    refine ⟨undecoded, ?_⟩
    intro mountCleaned
    simp only [classify, begunReport, ne_eq, not_false_eq_true, if_true, recordOutcome,
      undecoded]

/-- What a pass over the control pipe leaves in the buffer is all that has been written. -/
theorem controlBytes_of_drained {begun system : System} {failure : ChildError}
    {status : UInt32} {moves : List Move} (conveying : begun.Conveying)
    (reporting : begun.child.phase = .reporting failure.bytes status)
    (played : replay (step config) controlReadable moves begun = some system)
    (drained : system.control.buffer = []) :
    system.locals.controlBytes = reported config moves begun := by
  have recorded := (reported_run conveying reporting played).1
  rwa [Gate.recorded, show system.gate.control.buffer = [] from drained, List.append_nil]
    at recorded

/-- The read loop is left only when the pipe is empty. -/
theorem drained_of_readControl {answer : Answer} {system next : System}
    (conveyed : system.gate.Conveyed) (sealed : system.gate.Sealed)
    (here : system.place = .readControl)
    (readable : controlReadable system (.supervisor answer) = true)
    (taken : step config (.supervisor answer) system = some next)
    (left : next.place ≠ .readControl) :
    system.control.buffer = [] ∧ next.locals.controlBytes = system.locals.controlBytes := by
  simp only [step, supervisorStep, here, Option.some.injEq] at taken
  subst taken
  unfold System.readControl at left ⊢
  split
  next opened =>
    rw [if_pos opened] at left
    have spec := system.control.read_spec
      (ChildError.size - system.locals.controlBytes.length) answer
    generalize system.control.read
      (ChildError.size - system.locals.controlBytes.length) answer = result at spec left ⊢
    rcases result with ⟨result, pipe⟩
    cases spec with
    | interrupted => exact absurd here left
    | data => exact absurd here left
    | failed errno refused =>
        rw [refused] at readable
        simp [controlReadable, here] at readable
    | again empty _ => exact ⟨empty, rfl⟩
    | endOfFile ended =>
        refine ⟨?_, rfl⟩
        rcases ended with full | ⟨empty, _⟩
        · have room : system.locals.controlBytes.length < ChildError.size := conveyed.opened opened
          omega
        · exact empty
  next shut => exact ⟨sealed.empty (eq_false_of_ne_true shut), rfl⟩

end Runs

/-! ## The start gate behind a failure -/

/-- The start byte has been written, or the supervisor never hears of a ready child. -/
def Gate.Ungated (gate : Gate) : Prop :=
  gate.startReleased = true ∨
    gate.ready = [] ∧ gate.readySeen = false ∧ gate.phase.unready = false

section Ungated

variable {place : Place} {move : Move} {gate next : Gate}

theorem Gate.Ungated.step (ordered : gate.Ordered) (ungated : gate.Ungated)
    (stepped : GateStep place move gate next) : next.Ungated := by
  have unborn := ordered.unborn
  have early := ordered.early
  unfold Gate.Ungated at ungated ⊢
  cases stepped with
  | readyData bytes rest _ cut nonempty =>
      rcases ungated with released | ⟨empty, _, _⟩
      · exact .inl released
      · rw [cut] at empty
        exact absurd (List.append_eq_nil_iff.mp empty).1 nonempty
  | _ => grind -ring -linarith

/-- A child fails before it has announced itself, or after it has been started. -/
theorem ungated_of_report (ordered : gate.Ordered) (carried : gate.Carried)
    (ungated : ∀ record status, gate.phase = .reporting record status → gate.Ungated)
    (stepped : GateStep place move gate next) :
    ∀ record status, next.phase = .reporting record status → next.Ungated := by
  intro record status reporting
  have same : ∀ record status, gate.phase = .reporting record status → next.Ungated :=
    fun record status phase => (ungated record status phase).step ordered stepped
  cases stepped with
  | report began after running full =>
      rcases running with ⟨pending, phase⟩ | phase
      · have unready := carried.unready (by rw [phase]; rfl)
        exact .inr ⟨unready.1, unready.2.1, rfl⟩
      · left
        by_contra withheld
        have passed := (carried.withheld (eq_false_of_ne_true withheld)).2.1
        rw [phase] at passed
        cases passed
  | written sent rest after phase => exact same _ _ phase
  | reap phase _ _ either =>
      rcases either with kept | ⟨_, gone⟩
      · exact same _ _ (kept.symm.trans reporting)
      · rw [show phase = .reporting record status from reporting] at gone
        cases gone
  | _ => first | exact same _ _ reporting | cases reporting

end Ungated

end PkgexecLinux.Supervisor

import PkgexecLinux.Supervisor.Life

/-!
# What the results say about the child

A record that the supervisor decodes names the call of `child_main` that has failed,
and what it says about the end of the program is what `waitid` has answered.  Both
hold over every interleaving, kills and other waiters included.
-/

namespace PkgexecLinux.Supervisor

open Foundation Kernel Process

/-! ## The script of the setup -/

/-- The setup calls follow the script: the stages in their order, each once, and at most one
failure, which is the last call. -/
inductive Scripted (stages : List ChildStage) : List SetupCall → Prop where
  | partly (done : List ChildStage) : done <+: stages →
      Scripted stages (done.map .made)
  | failed (done : List ChildStage) (stage : ChildStage) (failure : ChildError) :
      done ++ [stage] <+: stages ++ [.execute] → failure.stage = stage.code →
      Scripted stages (done.map .made ++ [.failed stage failure])

/-- All stages have been made, and nothing has failed. -/
def allMade (config : Config) : List SetupCall := (childStages config.isolated).map .made

/-- The phases between the last stage and the program's end. -/
@[grind] def ChildPhase.through : ChildPhase → Bool
  | .awaitingStart | .closingDescriptors | .executing | .program => true
  | .unborn | .setup _ | .reporting _ _ | .zombie _ | .reaped => false

/-- The setup calls that a child which has come so far has made, and the bytes that it has
reported. -/
structure Told (config : Config) (calls : List SetupCall) (phase : ChildPhase)
    (committed : Bool) (recorded : List UInt8) : Prop where
  unborn : phase = .unborn → calls = []
  setup : ∀ pending, phase = .setup pending →
    ∃ done, calls = done.map .made ∧ done ++ pending = childStages config.isolated
  through : phase.through = true → calls = allMade config
  committed : committed = true → calls = allMade config
  reporting : ∀ record status, phase = .reporting record status →
    ∃ stage failure, .failed stage failure ∈ calls ∧ recorded ++ record = failure.bytes
  recorded : recorded ≠ [] →
    ∃ stage failure, .failed stage failure ∈ calls ∧ recorded <+: failure.bytes
  scripted : Scripted (childStages config.isolated) calls

section Steps

variable {config : Config} {calls : List SetupCall} {call : Option SetupCall}
variable {life next : Life} {recorded : List UInt8}

/-- A child that has ended makes no more calls. -/
theorem Told.over {committed : Bool} {phase after : ChildPhase}
    (told : Told config calls phase committed recorded)
    (dead : after.dead = true) : Told config calls after committed recorded where
  unborn := by
    rintro rfl
    cases dead
  setup := by
    rintro pending rfl
    cases dead
  through := by
    intro through
    cases after with
    | zombie _ | reaped => cases through
    | unborn | setup _ | reporting _ _ | awaitingStart | closingDescriptors | executing
    | program => cases dead
  committed := told.committed
  reporting := by
    rintro record status rfl
    cases dead
  recorded := told.recorded
  scripted := told.scripted

/-- A report begins after the call that has failed. -/
theorem told_of_failure {committed : Bool} {done : List ChildStage}
    {stage : ChildStage} {value detail status : UInt32}
    (script : done ++ [stage] <+: childStages config.isolated ++ [.execute])
    (uncommitted : committed = false) (nothing : recorded = []) :
    Told config (done.map .made ++ [.failed stage (childError stage value detail)])
      (.reporting (childError stage value detail).bytes status) committed recorded where
  unborn := nofun
  setup := nofun
  through := nofun
  committed := by
    rw [uncommitted]
    nofun
  reporting := by
    rintro record _ ⟨⟩
    refine ⟨stage, childError stage value detail, by simp, ?_⟩
    rw [nothing, List.nil_append]
  recorded := fun something => absurd nothing something
  scripted := .failed done stage _ script rfl

theorem Told.step {later : List UInt8}
    (told : Told config calls life.phase life.committed recorded)
    (stepped : LifeStep config life call next)
    (carries : later = recorded ++ life.phase.sent next.phase)
    (silent : life.phase.silent = true → recorded = [])
    (preCommit : life.phase.preCommit = true → life.committed = false) :
    Told config (calls ++ call.toList) next.phase next.committed later := by
  cases stepped with
  | stutter | refuse | exitSeen | conclude => simpa [carries] using told
  | fork unborn =>
      have nothing := silent (by rw [unborn]; rfl)
      have none := told.unborn unborn
      have unsent : life.phase.sent (.setup (childStages config.isolated)) = [] := by
        rw [unborn]
        rfl
      rw [carries, unsent, nothing, none]
      exact ⟨nofun, fun pending same => ⟨[], rfl, by cases same; rfl⟩, nofun, nofun, nofun,
        fun something => absurd rfl something, .partly [] List.nil_prefix⟩
  | made stage pending phase =>
      have nothing := silent (by rw [phase]; rfl)
      have uncommitted := preCommit (by rw [phase]; rfl)
      have unsent : life.phase.sent (.setup pending) = [] := by
        rw [phase]
        rfl
      rcases told.setup _ phase with ⟨done, rfl, script⟩
      have grown : done.map SetupCall.made ++ (some (SetupCall.made stage)).toList =
          (done ++ [stage]).map .made := by simp
      have whole : done ++ [stage] ++ pending = childStages config.isolated := by
        rw [← script, List.append_assoc]
        rfl
      rw [carries, unsent, nothing, grown]
      refine ⟨nofun, fun stages same => ⟨done ++ [stage], rfl, ?_⟩, nofun, ?_, nofun,
        fun something => absurd rfl something, .partly _ ⟨pending, whole⟩⟩
      · cases same
        exact whole
      · rw [uncommitted]
        nofun
  | failedSetup stage pending value detail phase =>
      have nothing := silent (by rw [phase]; rfl)
      have uncommitted := preCommit (by rw [phase]; rfl)
      have unsent : life.phase.sent (.reporting (childError stage value detail).bytes 125) =
          [] := by
        rw [phase]
        rfl
      rcases told.setup _ phase with ⟨done, rfl, script⟩
      rw [carries, unsent, List.append_nil]
      refine told_of_failure ?_ uncommitted nothing
      refine ⟨pending ++ [.execute], ?_⟩
      rw [← script]
      simp
  | failedExecute value detail phase =>
      have nothing := silent (by rw [phase]; rfl)
      have uncommitted := preCommit (by rw [phase]; rfl)
      have unsent : life.phase.sent (.reporting (childError .execute value detail).bytes 127) =
          [] := by
        rw [phase]
        rfl
      have made := told.through (by rw [phase]; rfl)
      rw [made, allMade, carries, unsent, List.append_nil]
      exact told_of_failure (List.prefix_refl _) uncommitted nothing
  | onward phase follows =>
      rw [Option.toList_none, List.append_nil]
      generalize life.phase = before at told carries silent preCommit follows
      cases follows with
      | readied =>
          have nothing := silent rfl
          rcases told.setup [] rfl with ⟨done, made, script⟩
          rw [List.append_nil] at script
          have all : calls = allMade config := by rw [made, script, allMade]
          rw [carries, nothing]
          exact ⟨nofun, nofun, fun _ => all, fun _ => all, nofun,
            fun something => absurd rfl something, told.scripted⟩
      | started | closed =>
          have nothing := silent rfl
          have all := told.through rfl
          rw [carries, nothing]
          exact ⟨nofun, nofun, fun _ => all, fun _ => all, nofun,
            fun something => absurd rfl something, told.scripted⟩
      | written sent rest status =>
          rw [ChildPhase.sent_append] at carries
          rcases told.reporting _ _ rfl with ⟨stage, failure, called, whole⟩
          rw [← List.append_assoc, ← carries] at whole
          refine ⟨nofun, nofun, nofun, told.committed, ?_, fun _ => ?_, told.scripted⟩
          · rintro record _ ⟨⟩
            exact ⟨stage, failure, called, whole⟩
          · exact ⟨stage, failure, called, rest, whole⟩
  | commit phase =>
      have nothing := silent (by rw [phase]; rfl)
      have unsent : life.phase.sent .program = [] := by
        rw [phase]
        rfl
      have all := told.through (by rw [phase]; rfl)
      rw [Option.toList_none, List.append_nil, carries, unsent, nothing]
      exact ⟨nofun, nofun, fun _ => all, fun _ => all, nofun,
        fun something => absurd rfl something, told.scripted⟩
  | ended information known running =>
      have unsent : life.phase.sent (.zombie information) = [] := by
        cases life.phase <;> rfl
      rw [Option.toList_none, List.append_nil, carries, unsent, List.append_nil]
      exact told.over rfl
  | reap _ _ | abandoned _ _ _ =>
      have unsent : life.phase.sent .reaped = [] := by
        cases life.phase <;> rfl
      rw [Option.toList_none, List.append_nil, carries, unsent, List.append_nil]
      exact told.over rfl

/-- The ready byte, or the start byte that follows it, is under way. -/
@[grind] def Gate.forward (gate : Gate) : Bool :=
  !gate.ready.isEmpty || gate.readySeen || gate.startReleased

/-- Only a child whose setup is over is let forward. -/
theorem forward_step {place : Place} {move : Move} {gate next : Gate} (ordered : gate.Ordered)
    (stepped : GateStep place move gate next) (forward : next.forward = true) :
    gate.forward = true ∨ gate.phase = .setup [] := by
  have gating := ordered.gating
  cases stepped with
  | readyData bytes rest running cut something =>
      left
      simp [Gate.forward, cut, something]
  | _ => grind -ring -linarith

/-- A confirmed start has been released, and a started result rests on a confirmed start. -/
structure Gate.Confirmed (gate : Gate) : Prop where
  released : gate.execConfirmed = true → gate.startReleased = true
  started : ∀ outcome, gate.region = .finished outcome → outcome.started = true →
    gate.execConfirmed = true

theorem Gate.Confirmed.step {place : Place} {move : Move} {gate next : Gate}
    (confirmed : gate.Confirmed) (stepped : GateStep place move gate next) :
    next.Confirmed := by
  have released := confirmed.released
  have started := confirmed.started
  cases stepped <;> exact ⟨by grind -ring -linarith, by grind -ring -linarith⟩

end Steps

/-! ## The setup over whole runs -/

section Runs

variable {config : Config} {token : Bool} {clock : Nat}

/-- What holds of the setup calls made so far. -/
structure System.Testified (config : Config) (calls : List SetupCall) (system : System) :
    Prop where
  conveying : system.Conveying
  told : Told config calls system.child.phase system.child.committed system.gate.recorded
  forward : system.gate.forward = true → allMade config <+: calls
  confirmed : system.gate.Confirmed

theorem testified_initial (config : Config) (token : Bool) (clock : Nat) :
    (config.initial token clock).Testified config [] where
  conveying := conveying_initial config token clock
  told := ⟨fun _ => rfl, nofun, nofun, nofun, nofun, fun something => absurd rfl something,
    .partly [] List.nil_prefix⟩
  forward := nofun
  confirmed := ⟨nofun, nofun⟩

theorem System.Testified.step {calls : List SetupCall} {system next : System} {move : Move}
    (testified : system.Testified config calls) (taken : step config move system = some next) :
    next.Testified config (calls ++ (setupCall move system.child.phase).toList) := by
  have conveying := testified.conveying
  have ordered := conveying.sound.1
  have stepped := gate_step taken
  refine ⟨conveying_step conveying taken, ?_, ?_, testified.confirmed.step stepped⟩
  · exact testified.told.step (life_step conveying.sound taken)
      (recorded_step ordered conveying.conveyed stepped) conveying.conveyed.silent
      fun before => (conveying.sound.2.preCommit before).1
  · intro forward
    rcases forward_step ordered stepped forward with before | phase
    · exact (testified.forward before).trans (List.prefix_append _ _)
    · rcases testified.told.setup [] phase with ⟨done, made, script⟩
      rw [List.append_nil] at script
      rw [made, script]
      exact List.prefix_append _ _

theorem testified_run {allowed : System → Move → Bool} {moves : List Move} {last : System}
    (played : replay (step config) allowed moves (config.initial token clock) = some last) :
    last.Testified config (setupCalls config moves (config.initial token clock)) := by
  refine replay_transcript (fun history state => state.Testified config
    (history.filterMap fun entry => setupCall entry.2 entry.1.child.phase)) ?_ played
    (testified_initial config token clock)
  intro history state move next testified _ taken
  have grown := testified.step taken
  rw [List.filterMap_append]
  cases call : setupCall move state.child.phase with
  | none => simpa [call] using grown
  | some made => simpa [call] using grown

/-- What the supervisor has read is the beginning of the record of a call that failed. -/
theorem System.Testified.heard {calls : List SetupCall} {system : System}
    (testified : system.Testified config calls) (something : system.locals.controlBytes ≠ []) :
    ∃ stage failure, .failed stage failure ∈ calls ∧
      system.locals.controlBytes <+: failure.bytes := by
  have read : system.locals.controlBytes <+: system.gate.recorded := List.prefix_append _ _
  rcases testified.told.recorded (read.ne_nil something) with ⟨stage, failure, called, start⟩
  exact ⟨stage, failure, called, read.trans start⟩

/-- A complete record is that of a call that failed. -/
theorem System.Testified.decoded {calls : List SetupCall} {system : System}
    {failure : ChildError} (testified : system.Testified config calls)
    (decoded : ChildError.ofBytes system.locals.controlBytes = some failure) :
    ∃ stage, .failed stage failure ∈ calls := by
  have something : system.locals.controlBytes ≠ [] := by
    intro empty
    rw [empty] at decoded
    cases decoded
  rcases testified.heard something with ⟨stage, sent, called, start⟩
  have long : ¬ system.locals.controlBytes.length < ChildError.size := by
    intro short
    rw [ChildError.ofBytes_of_length short] at decoded
    cases decoded
  have whole := start.eq_of_length_le (Nat.not_lt.mp long)
  rw [whole, ChildError.ofBytes_bytes] at decoded
  cases decoded
  exact ⟨stage, called⟩

/-- A released start, and with it a started result, comes after all stages. -/
theorem System.Testified.released {calls : List SetupCall} {system : System}
    (testified : system.Testified config calls)
    (evidence : system.locals.startReleased = true ∨
      ∃ outcome, system.outcome? = some outcome ∧ outcome.started = true) :
    allMade config <+: calls := by
  have released : system.gate.startReleased = true := by
    rcases evidence with released | ⟨outcome, returned, started⟩
    · exact released
    · exact testified.confirmed.released
        (testified.confirmed.started outcome (region_of_outcome returned) started)
  exact testified.forward (by simp [Gate.forward, released])

/-- The setup of the child over every run.  Its calls follow the script; a child that has
committed its `execveat` has made every stage and nothing has failed; a start that was
released, and with it every started result, comes after all stages; and whatever the
supervisor has read from the control pipe is the beginning of the record of the one call that
has failed, a complete record being that record itself. -/
theorem setup_accounted {moves : List Move} {last : System}
    (played : replay (step config) unrestricted moves (config.initial token clock) = some last) :
    Scripted (childStages config.isolated)
        (setupCalls config moves (config.initial token clock)) ∧
      (last.child.committed = true →
        setupCalls config moves (config.initial token clock) = allMade config) ∧
      (last.locals.startReleased = true ∨
          (∃ outcome, last.outcome? = some outcome ∧ outcome.started = true) →
        allMade config <+: setupCalls config moves (config.initial token clock)) ∧
      (last.locals.controlBytes ≠ [] → ∃ stage failure,
        .failed stage failure ∈ setupCalls config moves (config.initial token clock) ∧
          last.locals.controlBytes <+: failure.bytes) ∧
      ∀ failure, ChildError.ofBytes last.locals.controlBytes = some failure →
        ∃ stage, .failed stage failure ∈ setupCalls config moves (config.initial token clock) := by
  have testified := testified_run played
  exact ⟨testified.told.scripted, testified.told.committed, testified.released,
    testified.heard, fun _ => testified.decoded⟩

end Runs

/-- The child cannot enter its working directory. -/
def missingDirectory : List Move :=
  supervised 9 ++ advanced 2 ++ [.child (.fail 2 0), .child .succeed, .child .succeed] ++
    supervised 18

theorem setup_accounted_missingDirectory :
    ∃ last, ChildError.ofBytes last.locals.controlBytes = some ⟨4, 2, 0⟩ ∧
      replay (step (Config.plain false 0)) unrestricted missingDirectory
        ((Config.plain false 0).initial false 0) = some last ∧
      ∃ stage, .failed stage ⟨4, 2, 0⟩ ∈ setupCalls (Config.plain false 0) missingDirectory
        ((Config.plain false 0).initial false 0) := by
  have played : (replay (step (Config.plain false 0)) unrestricted missingDirectory
      ((Config.plain false 0).initial false 0)).any (fun last =>
        ChildError.ofBytes last.locals.controlBytes == some ⟨4, 2, 0⟩) = true := by
    decide
  rcases (Option.any_eq_true _ _).mp played with ⟨last, reached, test⟩
  have decoded := eq_of_beq test
  exact ⟨last, decoded, reached, (setup_accounted reached).2.2.2.2 _ decoded⟩

/-! ## The end of the program -/

/-- What the supervisor knows of the end of the child. -/
structure Life.Witnessed (life : Life) : Prop where
  seen : life.exited = true → ∀ information, life.phase = .zombie information →
    life.information = information
  known : life.exited = true → life.information ≠ .unset
  endings : ∀ information, life.phase = .zombie information → information ≠ .unset
  concluded : ∀ outcome, life.verdict = some outcome → outcome.started = true →
    life.exited = true ∧ outcome.Reports life.information

theorem Life.Witnessed.step {config : Config} {life next : Life} {call : Option SetupCall}
    (witnessed : life.Witnessed) (exited : life.exited = true → life.phase.dead = true)
    (stepped : LifeStep config life call next) : next.Witnessed := by
  cases stepped with
  | stutter => exact witnessed
  | refuse outcome unstarted | abandoned outcome unstarted _ =>
      refine ⟨?_, witnessed.known, ?_, ?_⟩
      · first | exact witnessed.seen | exact nofun
      · first | exact witnessed.endings | exact nofun
      · rintro _ ⟨⟩ started
        rw [unstarted] at started
        cases started
  | fork | made | failedSetup | failedExecute | commit | reap =>
      exact ⟨nofun, witnessed.known, nofun, witnessed.concluded⟩
  | onward phase follows =>
      have alive : ∀ information, phase ≠ .zombie information := by
        rintro information rfl
        generalize life.phase = before at follows
        cases follows
      exact ⟨fun _ information same => absurd same (alive information), witnessed.known,
        fun information same => absurd same (alive information), witnessed.concluded⟩
  | ended information known running =>
      refine ⟨fun seen => ?_, witnessed.known, ?_, witnessed.concluded⟩
      · have dead := exited seen
        cases phase : life.phase <;>
          simp [phase, ChildPhase.stopped, ChildPhase.dead] at running dead
      · rintro _ ⟨⟩
        exact known
  | exitSeen information unreturned phase =>
      refine ⟨fun _ other same => ?_, fun _ => witnessed.endings information phase,
        witnessed.endings, fun outcome given => ?_⟩
      · rw [phase] at same
        cases same
        rfl
      · rw [unreturned] at given
        cases given
  | conclude outcome reports =>
      refine ⟨witnessed.seen, witnessed.known, witnessed.endings, ?_⟩
      rintro _ ⟨⟩ started
      rcases reports started with ⟨seen, told⟩
      exact ⟨seen, told (witnessed.known seen)⟩

/-- From its end on, the child has ended in this way and in no other. -/
structure Life.After (information : ExitInformation) (life : Life) : Prop where
  ended : life.phase = .zombie information ∨ life.phase = .reaped
  seen : life.exited = true → life.information = information

theorem Life.After.step {config : Config} {life next : Life} {call : Option SetupCall}
    {information : ExitInformation} (after : life.After information)
    (stepped : LifeStep config life call next) : next.After information := by
  have ended := after.ended
  have seen := after.seen
  cases stepped with
  | stutter | refuse | conclude => exact ⟨ended, seen⟩
  | reap | abandoned => exact ⟨.inr rfl, seen⟩
  | exitSeen other unreturned phase =>
      refine ⟨ended, fun _ => ?_⟩
      rcases ended with here | gone
      · rw [phase] at here
        cases here
        rfl
      · rw [phase] at gone
        cases gone
  | fork phase | made _ _ phase | failedSetup _ _ _ _ phase | failedExecute _ _ phase
  | commit phase =>
      rw [phase] at ended
      rcases ended with here | gone
      · cases here
      · cases gone
  | onward phase follows =>
      rcases ended with here | gone
      · rw [here] at follows
        cases follows
      · rw [gone] at follows
        cases follows
  | ended other known running =>
      rcases ended with here | gone
      · rw [here] at running
        cases running
      · rw [gone] at running
        cases running

section Runs

variable {config : Config} {token : Bool} {clock : Nat}

theorem witnessed_run {system : System}
    (run : Reaches (step config) unrestricted (config.initial token clock) system) :
    system.GateSound ∧ system.life.Witnessed := by
  refine run.preserves (fun state => state.GateSound ∧ state.life.Witnessed) ?_
    ⟨gateSound_initial config token clock, nofun, nofun, nofun, nofun⟩
  rintro state move next ⟨sound, witnessed⟩ _ taken
  exact ⟨gateSound_step sound taken, witnessed.step sound.2.exited (life_step sound taken)⟩

theorem after_run {ended system : System} {information : ExitInformation}
    (sound : ended.GateSound) (after : ended.life.After information)
    (run : Reaches (step config) unrestricted ended system) :
    system.life.After information := by
  refine run.preserves_with System.GateSound (fun state => state.life.After information)
    (fun _ _ _ sound _ taken => gateSound_step sound taken) ?_ sound after
  intro state move next sound after _ taken
  exact after.step (life_step sound taken)

/-- What is known of the end has been an end of the child. -/
theorem passes_end {system : System} {information : ExitInformation}
    (run : Reaches (step config) unrestricted (config.initial token clock) system)
    (seen : system.locals.childExited = true)
    (same : system.locals.childInformation = information) :
    Passes (step config) unrestricted (fun state => state.child.phase == .zombie information)
      (config.initial token clock) system := by
  refine run.passes System.GateSound
    (fun state => state.life.exited && state.life.information == information) _
    (fun _ _ _ sound _ taken => gateSound_step sound taken) ?_
    (gateSound_initial config token clock) rfl ?_
  · intro state move next sound taken owes
    have stepped := life_step sound taken
    generalize next.life = later at stepped owes
    generalize setupCall move state.child.phase = call at stepped
    cases stepped with
    | exitSeen other _ phase =>
        simp only [Bool.true_and, beq_iff_eq] at owes
        subst owes
        exact .inr (.inl (beq_iff_eq.mpr phase))
    | _ => exact .inl owes
  · simp [System.life, seen, same]

/-- The child of a started result has ended in the run, kills and other waiters included, in one
way only, and what the result says of it is true: success means exit status zero, a failure
carries this end and the kind that belongs to it.  `cancelled_after_start` carries none. -/
theorem termination_truthful {system : System} {outcome : Outcome}
    (run : Reaches (step config) unrestricted (config.initial token clock) system)
    (returned : system.outcome? = some outcome) (started : outcome.started = true) :
    ∃ information,
      Passes (step config) unrestricted (fun state => state.child.phase == .zombie information)
        (config.initial token clock) system ∧
      (∀ ended other, Reaches (step config) unrestricted (config.initial token clock) ended →
        ended.child.phase = .zombie other → Reaches (step config) unrestricted ended system →
        other = information) ∧
      outcome.Reports information := by
  rcases (witnessed_run run).2.concluded outcome returned started with ⟨seen, reports⟩
  refine ⟨system.life.information, passes_end run seen rfl, ?_, reports⟩
  intro ended other early phase onward
  rcases witnessed_run early with ⟨sound, witnessed⟩
  have after := after_run sound ⟨.inl phase, fun seen => witnessed.seen seen other phase⟩ onward
  exact (after.seen seen).symm

end Runs

/-- The program is killed after its `execveat`. -/
def killedProgram : List Move :=
  supervised 9 ++ advanced 6 ++ supervised 24 ++ advanced 3 ++
    [.kill 9, .output .close, .error .close] ++ supervised 29

theorem termination_truthful_killed :
    ∃ system outcome, system.outcome? = some outcome ∧ outcome.started = true ∧
      ∃ information, outcome.Reports information ∧
        Passes (step (Config.plain false 0)) unrestricted
          (fun state => state.child.phase == .zombie information)
          ((Config.plain false 0).initial false 0) system := by
  have played : (replay (step (Config.plain false 0)) unrestricted killedProgram
      ((Config.plain false 0).initial false 0)).any
      (fun system => system.outcome?.any fun outcome => outcome.started) = true := by
    decide
  rcases exists_reached played with ⟨system, run, test⟩
  rcases (Option.any_eq_true _ _).mp test with ⟨outcome, returned, started⟩
  rcases termination_truthful run returned started with ⟨information, passes, _, reports⟩
  exact ⟨system, outcome, returned, started, information, reports, passes⟩

end PkgexecLinux.Supervisor

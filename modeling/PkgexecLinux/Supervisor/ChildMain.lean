import PkgexecLinux.Supervisor.State

/-!
# The child

`child_main` from the first setup step to `execveat`, one system call per step.
The program that runs after the commit is arbitrary: it ends when it pleases,
and forks, writes and closes its streams through moves of its own.
-/

namespace PkgexecLinux.Supervisor

open Kernel

/-- How a system call of the child ends. -/
inductive ChildAnswer where
  | succeed
  /-- The call fails; `detail` is the sub-stage of a composite setup step. -/
  | fail (value detail : UInt32)
  | interrupted
  /-- A write that takes at most this many bytes. -/
  | count (bytes : Nat)
  /-- The program ends with this status. -/
  | exit (status : UInt32)
  deriving DecidableEq, Repr

/-- The record passed by `report_child_error`. -/
def childError (stage : ChildStage) (value detail : UInt32) : ChildError :=
  ⟨stage.code, value, if stage.hasDetail then detail else 0⟩

namespace System

def setPhase (system : System) (phase : ChildPhase) : System :=
  { system with child := { system.child with phase } }

/-- The child stops running; the kernel closes what it still holds. -/
def endChild (system : System) (information : ExitInformation) : System :=
  { system with
    child := { system.child with
      phase := .zombie information, outputHeld := false, errorHeld := false }
    control := { system.control with writers := 0 }
    ready := { system.ready with writers := 0 }
    output := system.output.release system.child.outputHeld.toNat
    error := system.error.release system.child.errorHeld.toNat }

/-- `report_child_error` and the `_exit` after it, up to the first write. -/
def beginReport (system : System) (failure : ChildError) (status : UInt32) : System :=
  system.setPhase (.reporting failure.bytes status)

/-- One iteration of the loop in `report_child_error`.  A closed read end and
every error other than `EINTR` end the loop. -/
def childReport (system : System) (record : List UInt8) (status : UInt32) :
    ChildAnswer → Option System
  | .interrupted => some system
  | .exit _ => none
  | .fail _ _ => some (system.endChild (.exited status))
  | .succeed =>
      if record = [] ∨ system.locals.controlOpen = false then
        some (system.endChild (.exited status))
      else
        some { system.setPhase (.reporting [] status) with
          control := system.control.accept record }
  | .count bytes =>
      if record = [] ∨ system.locals.controlOpen = false then
        some (system.endChild (.exited status))
      else
        let size := max 1 bytes
        some { system.setPhase (.reporting (record.drop size) status) with
          control := system.control.accept (record.take size) }

/-- The write of the ready byte and the closing of the ready pipe. -/
def childReady (system : System) : ChildAnswer → Option System
  | .interrupted => some system
  | .exit _ => none
  | .fail _ _ => some (system.endChild (.exited 125))
  | _ =>
      if system.locals.readyOpen then
        some { system.setPhase .awaitingStart with
          ready := { (system.ready.accept [1]) with writers := 0 } }
      else
        some (system.endChild (.exited 125))

/-- The blocking read of the start byte. -/
def childAwaitStart (system : System) : ChildAnswer → Option System
  | .interrupted => some system
  | .exit _ => none
  | .fail _ _ => some (system.endChild (.exited 125))
  | _ =>
      match system.start with
      | byte :: rest =>
          if byte = 1 then
            some { system.setPhase .closingDescriptors with start := rest }
          else
            some ({ system with start := rest }.endChild (.exited 125))
      | [] =>
          if system.locals.startOpen then none
          else some (system.endChild (.exited 125))

/-- `close_fds_except`: an uncaptured stream's pipe end goes, a captured one is
kept as the standard stream. -/
def childCloseDescriptors (config : Config) (system : System) : System :=
  { system with
    child := { system.child with
      phase := .executing
      outputHeld := system.child.outputHeld && config.captureOutput
      errorHeld := system.child.errorHeld && config.captureError }
    output := system.output.release
      (system.child.outputHeld && !config.captureOutput).toNat
    error := system.error.release
      (system.child.errorHeld && !config.captureError).toNat }

/-- The commit of `execveat`: close-on-exec descriptors, the control pipe among
them, are closed, and the standard streams pass to the program. -/
def childCommit (system : System) : System :=
  { system with
    child := ⟨.program, true, false, false⟩
    control := { system.control with writers := 0 }
    ready := { system.ready with writers := 0 } }

end System

/-- One step of the child. -/
def childStep (config : Config) (answer : ChildAnswer) (system : System) :
    Option System :=
  match system.child.phase with
  | .setup [] => system.childReady answer
  | .setup (stage :: pending) =>
      match answer with
      | .succeed => some (system.setPhase (.setup pending))
      | .fail value detail => some (system.beginReport (childError stage value detail) 125)
      | _ => none
  | .reporting record status => system.childReport record status answer
  | .awaitingStart => system.childAwaitStart answer
  | .closingDescriptors => some (system.childCloseDescriptors config)
  | .executing =>
      match answer with
      | .succeed => some system.childCommit
      | .fail value detail =>
          some (system.beginReport (childError .execute value detail) 127)
      | _ => none
  | .program =>
      match answer with
      | .exit status => some (system.endChild (.exited status))
      | _ => none
  | .unborn | .zombie _ | .reaped => none

/-! ## What a step of the child can do -/

/-- Exists and has not been waited for. -/
def ChildPhase.waitable : ChildPhase → Bool
  | .unborn | .reaped => false
  | .setup _ | .reporting _ _ | .awaitingStart | .closingDescriptors | .executing
  | .program | .zombie _ => true

/-- What a step of the child can do: it moves on in its own state and in the pipes to the
supervisor, and may let go of its stream ends. -/
inductive ChildEffect (system : System) : System → Prop where
  | proceed (child : Child) (control ready : Pipe) (start : List UInt8) :
      child.phase.waitable = true →
      ChildEffect system { system with child, control, ready, start }
  | release (child : Child) (control ready : Pipe) (start : List UInt8)
      (outputs errors : Nat) : child.phase.waitable = true →
      ChildEffect system { system with
        child, control, ready, start
        output := system.output.release outputs
        error := system.error.release errors }

theorem childReport_effect {answer : ChildAnswer} {system next : System} {record : List UInt8}
    {status : UInt32} (phase : system.child.phase = .reporting record status)
    (taken : system.childReport record status answer = some next) : ChildEffect system next := by
  cases answer with
  | interrupted =>
      cases taken
      exact .proceed system.child _ _ _ (by rw [phase]; rfl)
  | exit status => simp [System.childReport] at taken
  | fail value detail =>
      cases taken
      exact .release _ _ _ _ _ _ rfl
  | succeed | count bytes =>
      simp only [System.childReport] at taken
      split at taken
      · cases taken
        exact .release _ _ _ _ _ _ rfl
      · cases taken
        exact .proceed _ _ _ _ rfl

theorem childReady_effect {answer : ChildAnswer} {system next : System}
    (phase : system.child.phase = .setup [])
    (taken : system.childReady answer = some next) : ChildEffect system next := by
  cases answer with
  | interrupted =>
      cases taken
      exact .proceed system.child _ _ _ (by rw [phase]; rfl)
  | exit status => simp [System.childReady] at taken
  | fail value detail =>
      cases taken
      exact .release _ _ _ _ _ _ rfl
  | succeed | count bytes =>
      simp only [System.childReady] at taken
      split at taken
      · cases taken
        exact .proceed _ _ _ _ rfl
      · cases taken
        exact .release _ _ _ _ _ _ rfl

theorem childAwaitStart_effect {answer : ChildAnswer} {system next : System}
    (phase : system.child.phase = .awaitingStart)
    (taken : system.childAwaitStart answer = some next) : ChildEffect system next := by
  cases answer with
  | interrupted =>
      cases taken
      exact .proceed system.child _ _ _ (by rw [phase]; rfl)
  | exit status => simp [System.childAwaitStart] at taken
  | fail value detail =>
      cases taken
      exact .release _ _ _ _ _ _ rfl
  | succeed | count bytes =>
      simp only [System.childAwaitStart] at taken
      split at taken
      · split at taken
        · cases taken
          exact .proceed _ _ _ _ rfl
        · cases taken
          exact .release _ _ _ _ _ _ rfl
      · split at taken
        · cases taken
        · cases taken
          exact .release _ _ _ _ _ _ rfl

theorem childStep_effect {config : Config} {answer : ChildAnswer} {system next : System}
    (taken : childStep config answer system = some next) :
    system.child.phase.waitable = true ∧ ChildEffect system next := by
  unfold childStep at taken
  split at taken
  next phase => exact ⟨by rw [phase]; rfl, childReady_effect phase taken⟩
  next stage pending phase =>
    refine ⟨by rw [phase]; rfl, ?_⟩
    split at taken <;> cases taken <;> exact .proceed _ _ _ _ rfl
  next record status phase => exact ⟨by rw [phase]; rfl, childReport_effect phase taken⟩
  next phase => exact ⟨by rw [phase]; rfl, childAwaitStart_effect phase taken⟩
  next phase =>
    cases taken
    exact ⟨by rw [phase]; rfl, .release _ _ _ _ _ _ rfl⟩
  next phase =>
    refine ⟨by rw [phase]; rfl, ?_⟩
    split at taken <;> cases taken <;> exact .proceed _ _ _ _ rfl
  next phase =>
    refine ⟨by rw [phase]; rfl, ?_⟩
    split at taken <;> cases taken
    exact .release _ _ _ _ _ _ rfl
  all_goals cases taken

/-- Frame: the child touches neither the supervisor nor the rest of the host. -/
theorem childStep_frame {config : Config} {answer : ChildAnswer} {system next : System}
    (taken : childStep config answer system = some next) :
    ∃ child control ready output error start,
      next = { system with child, control, ready, output, error, start } := by
  cases (childStep_effect taken).2 with
  | proceed | release => exact ⟨_, _, _, _, _, _, rfl⟩

end PkgexecLinux.Supervisor

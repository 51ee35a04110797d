import PkgexecLinux.Foundation.Ownership
import PkgexecLinux.Supervisor.Streams

/-!
# The descriptors of a call

`execute_backend` keeps its descriptors in objects of `unique_fd`.  This module lists what
each way through the function does to them, from the first `open` to the end of the scope,
and what is left of them in the descriptor table of the calling process.
-/

namespace PkgexecLinux.Supervisor

open Foundation Foundation.Ownership

/-- The objects of `unique_fd` in `execute_backend`.  `madeRead` and `madeWrite` are those of
the pair that `make_pipe` returns. -/
inductive OwnedFd where
  | interpreter
  | read (pipe : PipeName)
  | write (pipe : PipeName)
  | madeRead
  | madeWrite
  | pidfd
  deriving DecidableEq, Repr

/-- The ends that the loop closes. -/
inductive LoopEnd where
  | output
  | error
  | control
  | ready
  | start
  deriving DecidableEq, Repr

def LoopEnd.handle : LoopEnd → OwnedFd
  | .output => .read .output
  | .error => .read .error
  | .control => .read .control
  | .ready => .read .ready
  | .start => .write .start

/-- What the calls return that decide about the way through the function; the numbers are
those of the descriptors. -/
structure HandleScript where
  /-- `open` of the interpreter. -/
  interpreter : Option Nat
  /-- The descriptor is admitted, and no cancellation is seen before the pipes. -/
  admitted : Bool
  /-- `pipe2`, for each pipe. -/
  pipe : PipeName → Option (Nat × Nat)
  /-- All of `set_nonblocking` succeed. -/
  nonblocking : Bool
  /-- `fork` succeeds. -/
  forked : Bool
  /-- `open_pidfd`, if there is a token. -/
  pidfd : Option (Option Nat)
  /-- The ends that the loop closes, in its order, before it ends or throws. -/
  closings : List LoopEnd

/-- `fd.reset()`. -/
def resetEnd (handle : OwnedFd) : Operation OwnedFd := .reset handle none

/-- The pairs, as they are declared. -/
def pipeNames : List PipeName := [.output, .error, .control, .ready, .start]

def declarePipes : List (Operation OwnedFd) :=
  pipeNames.flatMap fun name => [.adopt (.read name) none, .adopt (.write name) none]

/-- `pair = make_pipe()`, and the end of the temporary pair. -/
def assignPipe (name : PipeName) (values : Nat × Nat) : List (Operation OwnedFd) :=
  [.adopt .madeRead (some values.1), .adopt .madeWrite (some values.2),
    .moveAssign .madeRead (.read name), .moveAssign .madeWrite (.write name),
    .destroy .madeWrite, .destroy .madeRead]

/-- The pipes up to the first that cannot be made, and whether there was none. -/
def assignPipes (script : HandleScript) : List PipeName → List (Operation OwnedFd) × Bool
  | [] => ([], true)
  | name :: rest =>
      match script.pipe name with
      | none => ([], false)
      | some values =>
          let later := assignPipes script rest
          (assignPipe name values ++ later.1, later.2)

/-- The members and the pairs end in the reverse order. -/
def destroyPipes : List (Operation OwnedFd) :=
  pipeNames.reverse.flatMap fun name => [.destroy (.write name), .destroy (.read name)]

/-- The parent after a `fork`: the ends of the child, the interpreter, the pidfd, and the
loop. -/
def afterFork (script : HandleScript) : List (Operation OwnedFd) :=
  [resetEnd (.write .output), resetEnd (.write .error), resetEnd (.write .control),
    resetEnd (.write .ready), resetEnd (.read .start), resetEnd .interpreter,
    .adopt .pidfd none] ++
    (match script.pidfd with
    | none => script.closings.map fun closed => resetEnd closed.handle
    | some none => [.reset .pidfd none, resetEnd (.write .start)]
    | some (some fd) =>
        .reset .pidfd (some fd) :: script.closings.map fun closed => resetEnd closed.handle) ++
    [.destroy .pidfd]

/-- The descriptors of `execute_backend` on one way through it. -/
def executeBackendHandles (script : HandleScript) : List (Operation OwnedFd) :=
  .adopt .interpreter script.interpreter ::
    (if script.interpreter.isSome && script.admitted then
      declarePipes ++ (assignPipes script pipeNames).1 ++
        (if (assignPipes script pipeNames).2 && script.nonblocking && script.forked then
          afterFork script
        else []) ++
        destroyPipes
    else []) ++
    [.destroy .interpreter]

/-! ## Every object in its scope -/

/-- The objects that are alive while the pipes are made. -/
def declared : List OwnedFd :=
  pipeNames.reverse.flatMap (fun name => [.write name, .read name]) ++ [.interpreter]

theorem scopes_declarePipes : scopes declarePipes [.interpreter] = some declared := by
  decide

theorem scopes_destroyPipes : scopes destroyPipes declared = some [.interpreter] := by
  decide

theorem scopes_assignPipe (name : PipeName) (values : Nat × Nat) :
    scopes (assignPipe name values) declared = some declared := by
  cases name <;> rfl

theorem scopes_assignPipes (script : HandleScript) (names : List PipeName) :
    scopes (assignPipes script names).1 declared = some declared := by
  induction names with
  | nil => rfl
  | cons name rest ih =>
      simp only [assignPipes]
      split
      · rfl
      next values _ => rw [scopes_append (scopes_assignPipe name values), ih]

/-- The loop only resets. -/
theorem scopes_closings (closings : List LoopEnd) :
    scopes (closings.map fun closed => resetEnd closed.handle) (.pidfd :: declared) =
      some (.pidfd :: declared) := by
  induction closings with
  | nil => rfl
  | cons closed rest ih =>
      have first : scopes [resetEnd closed.handle] (.pidfd :: declared) =
          some (.pidfd :: declared) := by
        cases closed <;> rfl
      rw [List.map_cons, ← List.singleton_append, scopes_append first, ih]

theorem scopes_afterFork (script : HandleScript) :
    scopes (afterFork script) declared = some declared := by
  have begins : scopes [resetEnd (.write .output), resetEnd (.write .error),
      resetEnd (.write .control), resetEnd (.write .ready), resetEnd (.read .start),
      resetEnd .interpreter, .adopt .pidfd none] declared = some (.pidfd :: declared) := by
    decide
  have ends : scopes [.destroy .pidfd] (.pidfd :: declared) = some declared := by
    decide
  rw [afterFork, List.append_assoc, scopes_append begins]
  split
  · rw [scopes_append (scopes_closings script.closings), ends]
  · rfl
  next fd _ =>
    have opened : scopes [.reset .pidfd (some fd)] (.pidfd :: declared) =
        some (.pidfd :: declared) := rfl
    rw [List.cons_append, ← List.singleton_append, scopes_append opened,
      scopes_append (scopes_closings script.closings), ends]

theorem scopes_executeBackend (script : HandleScript) :
    scopes (executeBackendHandles script) [] = some [] := by
  have opened : scopes [.adopt OwnedFd.interpreter script.interpreter] [] =
      some [.interpreter] := rfl
  have ended : scopes [.destroy OwnedFd.interpreter] [.interpreter] = some [] := by
    decide
  rw [executeBackendHandles, ← List.singleton_append, List.append_assoc, scopes_append opened]
  split
  · have forked : scopes (if (assignPipes script pipeNames).2 && script.nonblocking &&
        script.forked then afterFork script else []) declared = some declared := by
      split
      · exact scopes_afterFork script
      · rfl
    rw [List.append_assoc, List.append_assoc, List.append_assoc, scopes_append scopes_declarePipes,
      scopes_append (scopes_assignPipes script pipeNames), scopes_append forked,
      scopes_append scopes_destroyPipes, ended]
  · exact ended

/-- The system never gives a number that is in use, in the course of this program. -/
def GivesFresh (program : List (Operation OwnedFd)) (base : Nat → Bool) : Prop :=
  ∀ early operation late middle fd, program = early ++ operation :: late →
    replay Ownership.step unrestricted early (Holdings.initial base) = some middle →
    operation.obtains = some fd → middle.used fd = false

/-- The objects of `unique_fd` on every way through `execute_backend`: whichever call fails,
whatever the loop closes and in which order, and whether it ends or throws.  At every moment
each descriptor that they have opened has one owner and nothing has been closed that was not
open; in the end the table is as it was.  What an admission holds is not among them. -/
theorem executeBackend_balanced (script : HandleScript) (base : Nat → Bool)
    (fresh : GivesFresh (executeBackendHandles script) base) :
    (∀ early late, executeBackendHandles script = early ++ late →
      ∃ middle, replay Ownership.step unrestricted early (Holdings.initial base) = some middle ∧
        Owned base [] middle) ∧
    ∃ last, replay Ownership.step unrestricted (executeBackendHandles script)
        (Holdings.initial base) = some last ∧ last.used = base ∧ last.strays = 0 := by
  have living : (Holdings.initial base : Holdings OwnedFd).Living [] := by
    intro handle
    exact ⟨nofun, nofun⟩
  have whole : ∃ last, replay Ownership.step unrestricted (executeBackendHandles script)
      (Holdings.initial base) = some last ∧ last.used = base ∧ last.strays = 0 := by
    rcases balanced (Owned.initial base) living (scopes_executeBackend script) with
      done | ⟨early, operation, late, middle, fd, cut, played, _, given, used⟩
    · exact done
    · have free := fresh early operation late middle fd cut played given
      rw [used] at free
      cases free
  refine ⟨?_, whole⟩
  rintro early late cut
  rcases whole with ⟨last, played, _⟩
  rw [cut, replay_append] at played
  rcases Option.bind_eq_some_iff.mp played with ⟨middle, here, _⟩
  refine ⟨middle, here, ?_⟩
  exact (reaches_of_replay here).preserves (Owned base []) (fun _ _ _ owned _ taken =>
    owned.step taken) (Owned.initial base)

/-- A program that has been carried out was given fresh numbers. -/
theorem givesFresh_of_played {program : List (Operation OwnedFd)} {base : Nat → Bool}
    (played : (replay Ownership.step unrestricted program (Holdings.initial base)).isSome = true) :
    GivesFresh program base := by
  rintro early operation late middle fd rfl here given
  rw [replay_append, here, Option.bind_some] at played
  simp only [replay, unrestricted, if_true] at played
  split at played
  next later taken => exact obtained_of_step taken given
  next => cases played

/-- The third pipe cannot be made. -/
def thirdPipeFails : HandleScript where
  interpreter := some 3
  admitted := true
  pipe := fun name =>
    match name with
    | .output => some (4, 5)
    | .error => some (6, 7)
    | _ => none
  nonblocking := true
  forked := true
  pidfd := none
  closings := []

/-- The standard streams are in use. -/
def standardOnly : Nat → Bool := fun fd => fd < 3

theorem executeBackend_balanced_thirdPipe :
    GivesFresh (executeBackendHandles thirdPipeFails) standardOnly ∧
      ∃ last, replay Ownership.step unrestricted (executeBackendHandles thirdPipeFails)
        (Holdings.initial standardOnly) = some last ∧ last.used = standardOnly := by
  have played : (replay Ownership.step unrestricted (executeBackendHandles thirdPipeFails)
      (Holdings.initial standardOnly)).isSome = true := by
    decide
  have fresh := givesFresh_of_played played
  rcases (executeBackend_balanced thirdPipeFails standardOnly fresh).2 with
    ⟨last, played, same, _⟩
  exact ⟨fresh, last, played, same⟩

end PkgexecLinux.Supervisor

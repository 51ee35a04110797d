import PkgexecLinux.Supervisor.Course

/-!
# Writing to a child that is gone

The start gate looks at the ready byte, the start byte and the cancellation, but
not at the exit of the child.  This module says from which situations the start
byte is written to a child whose exit the supervisor has already seen, and that
no other situation leads there.
-/

namespace PkgexecLinux.Supervisor

open Foundation Kernel Process

/-- The supervisor neither finds the exit of a child at an armed gate, nor begins another
iteration with the exit found and the gate armed. -/
def gateDisarmed (system : System) (move : Move) : Bool :=
  !(system.course.armed &&
    (system.findsExit move || system.iterates move && system.locals.childExited))

/-- Between the observation of the exit and the gate, a gate behind which the child has
gone is not armed. -/
structure Course.Guarded (course : Course) : Prop where
  checked : course.leg = .exitCheck ∨ course.leg = .cancelCheck ∨ course.leg = .gate →
    course.exited = true → course.armed = false
  writing : course.leg = .gateCheck ∨ course.leg = .writing → course.exited = false

theorem Course.Guarded.step {system : System} {move : Move} {next : Course}
    (guarded : system.course.Guarded) (admitted : gateDisarmed system move = true)
    (stepped : CourseStep system move system.course next) : next.Guarded where
  checked := by
    have checked := guarded.checked
    cases stepped with
    | iterate leg iterates =>
        -- The iteration begins with the exit found, so the gate is not armed.
        intro _ exited
        have exited : system.locals.childExited = true := exited
        show system.course.armed = false
        simpa [gateDisarmed, iterates, exited] using admitted
    | exitFound leg finds =>
        intro _ _
        show system.course.armed = false
        simpa [gateDisarmed, finds] using admitted
    | observe leg places alive =>
        intro _ exited
        have exited : system.course.exited = true := exited
        simp [alive] at exited
    | _ => grind -ring -linarith
  writing := by
    have writing := guarded.writing
    cases stepped with
    | approach leg armed =>
        intro _
        by_contra exited
        have disarmed := guarded.checked (.inr (.inr leg)) (by simpa using exited)
        simp [armed] at disarmed
    | _ => grind -ring -linarith

section Runs

variable {config : Config} {token : Bool} {clock : Nat} {system : System}

/-- In every run in which the supervisor does not come upon the child's exit at an armed
gate, it writes no start byte after it has seen the exit. -/
theorem no_start_write_after_exit
    (run : Reaches (step config) gateDisarmed (config.initial token clock) system)
    (writing : system.place = .writeStart) : system.locals.childExited = false := by
  have guarded : system.course.Guarded := by
    refine run.preserves_with System.GateSound (fun system => system.course.Guarded)
      (fun _ _ _ sound _ taken => gateSound_step sound taken) ?_
      (gateSound_initial config token clock) ?_
    · intro system move next sound guarded admitted taken
      exact guarded.step admitted (course_step sound taken)
    · constructor <;> simp [System.course, Config.initial, Place.leg]
  exact guarded.writing (.inr (by simp [System.course, writing, Place.leg]))

end Runs

/-- The start byte of an ordinary execution is written to a running child. -/
theorem no_start_write_after_exit_released :
    ∃ system, Reaches (step (Config.plain false 0)) gateDisarmed
        ((Config.plain false 0).initial false 0) system ∧
      system.place = .writeStart ∧ system.locals.childExited = false := by
  have played : (replay (step (Config.plain false 0)) gateDisarmed
      (supervised 9 ++ advanced 6 ++ supervised 22)
      ((Config.plain false 0).initial false 0)).any
      (fun system => system.place == .writeStart) = true := by
    decide
  rcases exists_reached played with ⟨system, run, test⟩
  have writing : system.place = .writeStart := by simpa using test
  exact ⟨system, run, writing, no_start_write_after_exit run writing⟩

/-- The ready byte is read, a third party kills the child, and the next iteration finds
the exit and writes the start byte all the same; `SIGPIPE` ends the embedding process. -/
theorem start_write_after_exit :
    ∃ system next, Reaches (step (Config.plain false 0)) unrestricted
        ((Config.plain false 0).initial false 0) system ∧
      system.place = .writeStart ∧ system.locals.childExited = true ∧
      system.locals.startOpen = true ∧
      supervisorStep (Config.plain false 0) .done system = some next ∧
      next.place = .terminated := by
  have played : (replay (step (Config.plain false 0)) unrestricted
      (supervised 9 ++ advanced 6 ++ supervised 17 ++ [.kill 9] ++ supervised 5)
      ((Config.plain false 0).initial false 0)).any
      (fun system => system.place == .writeStart && system.locals.childExited &&
        system.locals.startOpen &&
        (supervisorStep (Config.plain false 0) .done system).any
          fun next => next.place == .terminated) = true := by
    decide
  rcases exists_reached played with ⟨system, run, test⟩
  simp only [Bool.and_eq_true, beq_iff_eq, Option.any_eq_true] at test
  rcases test with ⟨⟨⟨writing, exited⟩, opened⟩, next, taken, ended⟩
  exact ⟨system, next, run, writing, exited, opened, taken, ended⟩

end PkgexecLinux.Supervisor

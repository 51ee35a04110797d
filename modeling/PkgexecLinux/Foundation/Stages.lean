import Mathlib.Data.List.Basic

/-!
# Stages in sequence

A setup that goes through named stages, each of which changes a state, and ends with the
first that fails.
-/

namespace PkgexecLinux.Foundation

/-- A named stage of a setup. -/
structure NamedStage (Name State Error : Type) where
  name : Name
  act : State → Except Error State

/-- Where a setup has ended and why, with the state that the stages before have left. -/
structure Halt (Name State Error : Type) where
  name : Name
  error : Error
  state : State

namespace NamedStage

variable {Name State Error : Type} {stage : NamedStage Name State Error}
variable {stages early late : List (NamedStage Name State Error)} {state last : State}

/-- The stages one after the other, up to the first that fails. -/
def runAll : List (NamedStage Name State Error) → State → Except (Halt Name State Error) State
  | [], state => .ok state
  | stage :: rest, state =>
      match stage.act state with
      | .ok next => runAll rest next
      | .error error => .error ⟨stage.name, error, state⟩

@[simp] theorem runAll_nil : runAll ([] : List (NamedStage Name State Error)) state = .ok last ↔
    state = last := by
  constructor
  · rintro ⟨⟩
    rfl
  · rintro rfl
    rfl

@[simp] theorem runAll_cons : runAll (stage :: stages) state = .ok last ↔
    ∃ next, stage.act state = .ok next ∧ runAll stages next = .ok last := by
  rw [runAll]
  cases stage.act state with
  | error error => simp
  | ok next => simp

/-- A setup fails in one way: some stage fails on what the stages before it have left. -/
theorem runAll_eq_error {halt : Halt Name State Error} :
    runAll stages state = .error halt ↔
      ∃ early stage late, stages = early ++ stage :: late ∧ stage.name = halt.name ∧
        runAll early state = .ok halt.state ∧ stage.act halt.state = .error halt.error := by
  induction stages generalizing state with
  | nil => simp [runAll]
  | cons first rest ih =>
      constructor
      · intro failed
        rw [runAll] at failed
        cases acted : first.act state with
        | error error =>
            rw [acted] at failed
            cases failed
            exact ⟨[], first, rest, rfl, rfl, rfl, acted⟩
        | ok next =>
            rw [acted] at failed
            rcases ih.mp failed with ⟨early, stage, late, rfl, name, done, fails⟩
            exact ⟨first :: early, stage, late, rfl, name,
              runAll_cons.mpr ⟨next, acted, done⟩, fails⟩
      · rintro ⟨early, stage, late, whole, name, done, fails⟩
        cases early with
        | nil =>
            cases whole
            cases runAll_nil.mp done
            rw [runAll, fails, name]
        | cons _ early =>
            cases whole
            rcases runAll_cons.mp done with ⟨next, acted, onward⟩
            rw [runAll, acted]
            exact ih.mpr ⟨early, stage, late, rfl, name, onward, fails⟩

/-- The stages that a setup enters, with what ends it. -/
def trace : List (NamedStage Name State Error) → State → List (Name × Option Error)
  | [], _ => []
  | stage :: rest, state =>
      match stage.act state with
      | .ok next => (stage.name, none) :: trace rest next
      | .error error => [(stage.name, some error)]

theorem trace_append (done : runAll early state = .ok last) :
    trace (early ++ late) state = early.map (fun stage => (stage.name, none)) ++
      trace late last := by
  induction early generalizing state with
  | nil =>
      cases runAll_nil.mp done
      rfl
  | cons stage early ih =>
      rcases runAll_cons.mp done with ⟨next, acted, rest⟩
      rw [List.cons_append, trace, acted]
      exact congrArg (List.cons _) (ih rest)

theorem trace_of_ok (done : runAll stages state = .ok last) :
    trace stages state = stages.map fun stage => (stage.name, none) := by
  have whole : trace (stages ++ []) state = stages.map (fun stage => (stage.name, none)) ++ [] :=
    trace_append done
  rwa [List.append_nil, List.append_nil] at whole

theorem trace_of_error {error : Error} (done : runAll early state = .ok last)
    (fails : stage.act last = .error error) :
    trace (early ++ stage :: late) state = early.map (fun stage => (stage.name, none)) ++
      [(stage.name, some error)] := by
  rw [trace_append done, trace, fails]

end NamedStage

end PkgexecLinux.Foundation

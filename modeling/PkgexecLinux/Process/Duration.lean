import PkgexecLinux.Process.Group

/-!
# How long a scan may take

A pass, a wait and a cleanup make one system call per step.  When no process id
exceeds a limit, as the kernel's `pid_max` guarantees, the number of calls left is
bounded by the local state alone, whatever the other processes do meanwhile.
-/

namespace PkgexecLinux.Process

open Kernel

/-- One `readdir` advances the position, or ends the listing. -/
theorem Listing.step_cases {table : ProcessTable} {state : LeaderState} {limit : Nat}
    (bounded : ∀ pid ∈ table.listed state, pid ≤ limit) (listing : Listing)
    (answer : Answer) :
    (∃ pid, listing.cursor < pid ∧ pid ≤ limit ∧
        listing.step table state answer = .more ⟨pid, listing.result ++ [pid]⟩) ∨
      listing.step table state answer = .finished listing.result ∨
      listing.step table state answer = .failed := by
  unfold Listing.step
  split
  next => exact .inr (.inr rfl)
  next => exact .inr (.inr rfl)
  next =>
    split
    next pid given =>
      have member := List.min?_mem given
      rw [List.mem_filter] at member
      exact .inl ⟨pid, of_decide_eq_true member.2, bounded pid member.1, rfl⟩
    next => exact .inr (.inl rfl)

/-- Calls that a pass may still make, when no process id exceeds `limit`. -/
def SignalPass.effort (limit : Nat) (pass : SignalPass) : Nat :=
  match pass.phase with
  | .listing listing => 4 * listing.result.length + 5 * (limit - listing.cursor) + 3
  | .inspecting ids => 4 * ids.length + 2
  | .opening _ rest => 4 * rest.length + 5
  | .confirming _ _ rest => 4 * rest.length + 4
  | .sending _ rest => 4 * rest.length + 3
  | .leader => 1

/-- Every call of a pass brings its end nearer. -/
theorem SignalPass.effort_step {table : ProcessTable} {state : LeaderState} {limit : Nat}
    {pass next : SignalPass} {answer : Answer} {delivered : Option Nat}
    (bounded : ∀ pid ∈ table.listed state, pid ≤ limit)
    (stepped : pass.step table state answer = .running next delivered) :
    next.effort limit < pass.effort limit := by
  rcases pass with ⟨signal, complete, phase⟩
  cases phase with
  | listing position =>
      rcases Listing.step_cases bounded position answer with
        ⟨pid, ahead, below, more⟩ | finished | failed
      · simp only [step, more] at stepped
        cases stepped
        simp only [effort, List.length_append, List.length_singleton]
        omega
      · simp only [step, finished] at stepped
        cases stepped
        simp only [effort]
        omega
      · simp only [step, failed] at stepped
        cases stepped
        simp only [effort]
        omega
  | inspecting ids =>
      cases ids with
      | nil =>
          cases stepped
          simp [effort]
      | cons process rest =>
          simp only [step] at stepped
          split_ifs at stepped <;> cases stepped <;>
            simp only [effort, List.length_cons] <;> omega
  | opening process rest =>
      simp only [step] at stepped
      split at stepped <;> cases stepped <;> simp only [effort] <;> omega
  | confirming process birth rest =>
      simp only [step] at stepped
      split_ifs at stepped <;> cases stepped <;> simp only [effort] <;> omega
  | sending birth rest =>
      simp only [step] at stepped
      split at stepped <;> cases stepped <;> simp only [effort] <;> omega
  | leader =>
      simp only [step] at stepped
      split at stepped <;> cases stepped

/-- Calls that a wait may still make before it returns. -/
def GroupWait.effort (limit : Nat) (wait : GroupWait) : Nat :=
  match wait.phase with
  | .listing listing => listing.result.length + 2 * (limit - listing.cursor) + 3
  | .inspecting ids => ids.length + 2
  | .found => 1

/-- Every call of a wait whose time is over brings its end nearer. -/
theorem GroupWait.effort_step {table : ProcessTable} {state : LeaderState} {limit clock : Nat}
    {wait next : GroupWait} {answer : Answer}
    (bounded : ∀ pid ∈ table.listed state, pid ≤ limit) (elapsed : wait.deadline ≤ clock)
    (stepped : wait.step table state clock answer = .running next) :
    next.effort limit < wait.effort limit := by
  rcases wait with ⟨deadline, phase⟩
  cases phase with
  | listing position =>
      rcases Listing.step_cases bounded position answer with
        ⟨pid, ahead, below, more⟩ | finished | failed
      · simp only [step, more] at stepped
        cases stepped
        simp only [effort, List.length_append, List.length_singleton]
        omega
      · simp only [step, finished] at stepped
        cases stepped
        simp only [effort]
        omega
      · simp only [step, failed] at stepped
        cases stepped
  | inspecting ids =>
      cases ids with
      | nil => cases stepped
      | cons process rest =>
          simp only [step] at stepped
          repeat' split at stepped
          all_goals
            cases stepped
            simp only [effort, List.length_cons]
            omega
  | found =>
      have late : deadline ≤ clock := elapsed
      simp [step, late] at stepped

/-- A running wait keeps its deadline. -/
theorem GroupWait.deadline_step {table : ProcessTable} {state : LeaderState} {clock : Nat}
    {wait next : GroupWait} {answer : Answer}
    (stepped : wait.step table state clock answer = .running next) :
    next.deadline = wait.deadline := by
  unfold step at stepped
  repeat' split at stepped
  all_goals
    cases stepped
    try rfl

/-- Calls that `cleanup_group` may still make. -/
def CleanupPhase.effort : CleanupPhase → Nat
  | .probe => 124
  | .terminate => 123
  | .afterTerminate attempt => 102 + (20 - attempt)
  | .kill => 101
  | .afterKill attempt => 100 - attempt

theorem CleanupPhase.effort_step {table : ProcessTable} {state : LeaderState}
    {phase next : CleanupPhase} {sent : Option (Signal × List Nat)}
    (stepped : cleanupGroupStep table state phase = .running next sent) :
    next.effort < phase.effort := by
  cases phase with
  | probe | afterTerminate attempt | afterKill attempt =>
      simp only [cleanupGroupStep] at stepped
      split_ifs at stepped <;> cases stepped <;> simp only [effort] <;> omega
  | terminate | kill =>
      cases stepped
      simp [effort]

end PkgexecLinux.Process

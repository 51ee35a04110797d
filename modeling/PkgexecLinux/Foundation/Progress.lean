import PkgexecLinux.Foundation.Runs
import Mathlib.Order.WellFounded

/-!
# Progress along infinite executions

What a system reaches sooner or later cannot be read off its finite runs.  An
execution is an infinite chain of enabled moves, and the variant rule turns a rank
that never grows and falls infinitely often into a state that is reached.
-/

namespace PkgexecLinux.Foundation

universe u v w

variable {State : Type u} {Move : Type v} {step : Move → State → Option State}

/-- An infinite chain of enabled moves. -/
structure Execution (step : Move → State → Option State) where
  state : Nat → State
  move : Nat → Move
  taken : ∀ moment, step (move moment) (state moment) = some (state (moment + 1))

namespace Execution

variable (execution : Execution step)

/-- Execution rule: what every step from some moment on preserves goes on holding. -/
theorem lasts {start : Nat} (property : State → Prop)
    (kept : ∀ moment, start ≤ moment → property (execution.state moment) →
      property (execution.state (moment + 1)))
    (holds : property (execution.state start)) :
    ∀ moment, start ≤ moment → property (execution.state moment) := by
  intro moment later
  induction moment, later using Nat.le_induction with
  | base => exact holds
  | succ moment later ih => exact kept moment later ih

/-- The states of an execution are joined by runs. -/
theorem reaches (moment : Nat) :
    Reaches step unrestricted (execution.state 0) (execution.state moment) := by
  induction moment with
  | zero => exact .refl _
  | succ moment ih => exact .tail ih rfl (execution.taken moment)

/-- The first moves of an execution are a schedule that can be replayed, if they are
admitted. -/
theorem replays {allowed : State → Move → Bool}
    (admitted : ∀ moment, allowed (execution.state moment) (execution.move moment) = true)
    (moment : Nat) :
    replay step allowed ((List.range moment).map execution.move) (execution.state 0) =
      some (execution.state moment) := by
  induction moment with
  | zero => rfl
  | succ moment ih =>
      rw [List.range_succ, List.map_append, replay_append, ih]
      simp [replay, admitted, execution.taken]

/-- The execution from a moment on. -/
def drop (start : Nat) : Execution step where
  state moment := execution.state (start + moment)
  move moment := execution.move (start + moment)
  taken moment := execution.taken (start + moment)

/-- The first step that leads out of a set of states. -/
theorem exists_leaving (inside : State → Bool) (start : inside (execution.state 0) = true)
    (leaves : ∃ moment, inside (execution.state moment) = false) :
    ∃ moment, inside (execution.state moment) = true ∧
      inside (execution.state (moment + 1)) = false := by
  by_contra never
  have stays : ∀ moment, inside (execution.state moment) = true := by
    intro moment
    refine execution.lasts (fun state => inside state = true) ?_ start moment (Nat.zero_le moment)
    intro moment _ here
    by_contra there
    exact never ⟨moment, here, eq_false_of_ne_true there⟩
  obtain ⟨moment, outside⟩ := leaves
  rw [stays] at outside
  cases outside

variable {Rank : Type w} [PartialOrder Rank]

/-- Until the goal is reached, the rank does not grow. -/
theorem reached_or_kept {start : Nat} (keep goal : State → Prop) (rank : State → Rank)
    (stays : ∀ moment, start ≤ moment → keep (execution.state moment) →
      goal (execution.state (moment + 1)) ∨ keep (execution.state (moment + 1)) ∧
        rank (execution.state (moment + 1)) ≤ rank (execution.state moment))
    (holds : keep (execution.state start)) :
    ∀ moment, start ≤ moment →
      (∃ reached, start ≤ reached ∧ goal (execution.state reached)) ∨
        keep (execution.state moment) ∧
          rank (execution.state moment) ≤ rank (execution.state start) := by
  intro moment later
  induction moment, later using Nat.le_induction with
  | base => exact .inr ⟨holds, le_refl _⟩
  | succ moment later ih =>
      rcases ih with reached | ⟨kept, below⟩
      · exact .inl reached
      · rcases stays moment later kept with reached | ⟨kept, lower⟩
        · exact .inl ⟨moment + 1, Nat.le_succ_of_le later, reached⟩
        · exact .inr ⟨kept, le_trans lower below⟩

/-- Variant rule: a rank that no step raises and that infinitely many steps lower leads to
the goal. -/
theorem eventually [WellFoundedLT Rank] {start : Nat} (keep goal : State → Prop)
    (rank : State → Rank) (helpful : Nat → Prop)
    (often : ∀ moment, ∃ later, moment ≤ later ∧ helpful later)
    (stays : ∀ moment, start ≤ moment → keep (execution.state moment) →
      goal (execution.state (moment + 1)) ∨ keep (execution.state (moment + 1)) ∧
        rank (execution.state (moment + 1)) ≤ rank (execution.state moment))
    (descends : ∀ moment, start ≤ moment → keep (execution.state moment) → helpful moment →
      goal (execution.state (moment + 1)) ∨
        rank (execution.state (moment + 1)) < rank (execution.state moment))
    (holds : keep (execution.state start)) :
    ∃ reached, start ≤ reached ∧ goal (execution.state reached) := by
  induction equal : rank (execution.state start) using WellFoundedLT.induction
    generalizing start with
  | ind bound ih =>
      subst equal
      obtain ⟨moment, later, helps⟩ := often start
      rcases execution.reached_or_kept keep goal rank stays holds moment later with
        reached | ⟨kept, below⟩
      · exact reached
      · rcases descends moment later kept helps with reached | lower
        · exact ⟨moment + 1, Nat.le_succ_of_le later, reached⟩
        · rcases stays moment later kept with reached | ⟨keptNext, _⟩
          · exact ⟨moment + 1, Nat.le_succ_of_le later, reached⟩
          · have onward : ∀ after, moment + 1 ≤ after → start ≤ after := by
              intro after beyond
              omega
            obtain ⟨reached, beyond, arrived⟩ := ih _ (lt_of_lt_of_le lower below)
              (fun after beyond => stays after (onward after beyond))
              (fun after beyond => descends after (onward after beyond)) keptNext rfl
            exact ⟨reached, onward reached beyond, arrived⟩

end Execution

/-- The states a schedule leads through. -/
def follow (step : Move → State → Option State) (choose : Nat → State → Move) (first : State) :
    Nat → State
  | 0 => first
  | moment + 1 =>
      let state := follow step choose first moment
      (step (choose moment state) state).getD state

/-- A schedule whose moves stay enabled is an execution. -/
def Execution.ofSchedule (choose : Nat → State → Move) (first : State) (keep : State → Prop)
    (start : keep first)
    (enabled : ∀ moment state, keep state →
      ∃ next, step (choose moment state) state = some next ∧ keep next) :
    Execution step where
  state := follow step choose first
  move moment := choose moment (follow step choose first moment)
  taken := by
    have kept : ∀ moment, keep (follow step choose first moment) := by
      intro moment
      induction moment with
      | zero => exact start
      | succ moment ih =>
          obtain ⟨next, taken, keeps⟩ := enabled moment _ ih
          simpa [follow, taken] using keeps
    intro moment
    obtain ⟨next, taken, _⟩ := enabled moment _ (kept moment)
    simp [follow, taken]

end PkgexecLinux.Foundation

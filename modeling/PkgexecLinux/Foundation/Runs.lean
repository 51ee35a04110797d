import Mathlib.Logic.Basic

/-!
# Runs of an executable transition system

A system is given by a computable step `step move state`, which returns `none`
when the move is not enabled.  A run is a chain of enabled moves, each of them
also admitted by an assumption on the moment at which it is made.  Interleavings
of several parties are runs whose moves name the party that acts.

Concrete schedules are evaluated by `replay`; every replayed schedule is a run.
-/

namespace PkgexecLinux.Foundation

universe u v

variable {State : Type u} {Move : Type v}

/-- `Reaches step allowed first last`: some chain of enabled moves leads from
`first` to `last`, and `allowed` admits every move in the state before it. -/
inductive Reaches (step : Move → State → Option State)
    (allowed : State → Move → Bool) : State → State → Prop where
  | refl (state : State) : Reaches step allowed state state
  | tail {first middle last : State} {move : Move} :
      Reaches step allowed first middle →
      allowed middle move = true →
      step move middle = some last →
      Reaches step allowed first last

/-- The assumption that admits every move. -/
def unrestricted : State → Move → Bool := fun _ _ => true

namespace Reaches

variable {step : Move → State → Option State} {allowed : State → Move → Bool}
variable {first middle last : State}

theorem trans (early : Reaches step allowed first middle)
    (late : Reaches step allowed middle last) :
    Reaches step allowed first last := by
  induction late with
  | refl => exact early
  | tail _ admitted taken ih => exact .tail ih admitted taken

theorem head {move : Move} (admitted : allowed first move = true)
    (taken : step move first = some middle)
    (late : Reaches step allowed middle last) :
    Reaches step allowed first last :=
  trans (.tail (.refl first) admitted taken) late

/-- Run rule: a property that every admitted step preserves is preserved by
every run. -/
theorem preserves (property : State → Prop)
    (kept : ∀ state move next, property state → allowed state move = true →
      step move state = some next → property next)
    (run : Reaches step allowed first last) (start : property first) :
    property last := by
  induction run with
  | refl => exact start
  | tail _ admitted taken ih => exact kept _ _ _ ih admitted taken

/-- Run rule for two systems: where every admitted step of the first is an admitted
step of the second, every run of the first is a run of the second. -/
theorem transfer {other : Move → State → Option State} {admits : State → Move → Bool}
    (matched : ∀ state move next, allowed state move = true →
      step move state = some next →
      admits state move = true ∧ other move state = some next)
    (run : Reaches step allowed first last) : Reaches other admits first last := by
  induction run with
  | refl => exact .refl _
  | tail _ admitted taken ih =>
      have same := matched _ _ _ admitted taken
      exact .tail ih same.1 same.2

/-- Run rule with a supporting invariant: the step lemma may use an invariant
that has been established for every state of the run. -/
theorem preserves_with (support property : State → Prop)
    (supported : ∀ state move next, support state → allowed state move = true →
      step move state = some next → support next)
    (kept : ∀ state move next, support state → property state →
      allowed state move = true → step move state = some next → property next)
    (run : Reaches step allowed first last)
    (base : support first) (start : property first) : property last := by
  have both : support last ∧ property last := by
    refine run.preserves (fun state => support state ∧ property state) ?_ ⟨base, start⟩
    intro state move next holds admitted taken
    exact ⟨supported state move next holds.1 admitted taken,
      kept state move next holds.1 holds.2 admitted taken⟩
  exact both.2

end Reaches

/-- Some state of a run from `first` to `last` passes the test. -/
def Passes (step : Move → State → Option State) (allowed : State → Move → Bool)
    (test : State → Bool) (first last : State) : Prop :=
  ∃ middle, Reaches step allowed first middle ∧ test middle = true ∧
    Reaches step allowed middle last

/-- Run rule for the past: if only states that pass the test bring a run into debt, a
run in debt has passed the test. -/
theorem Reaches.passes {step : Move → State → Option State} {allowed : State → Move → Bool}
    {first last : State} (support : State → Prop) (owes test : State → Bool)
    (supported : ∀ state move next, support state → allowed state move = true →
      step move state = some next → support next)
    (incurred : ∀ state move next, support state → step move state = some next →
      owes next = true → owes state = true ∨ test state = true ∨ test next = true)
    (run : Reaches step allowed first last) (base : support first)
    (start : owes first = false) (owed : owes last = true) :
    Passes step allowed test first last := by
  induction run with
  | refl => simp [start] at owed
  | @tail middle last move early admitted taken ih =>
      have supports := early.preserves support supported base
      rcases incurred middle move last supports taken owed with before | here | there
      · rcases ih before with ⟨state, toState, passed, onward⟩
        exact ⟨state, toState, passed, .tail onward admitted taken⟩
      · exact ⟨middle, early, here, .tail (.refl middle) admitted taken⟩
      · exact ⟨last, .tail early admitted taken, there, .refl last⟩

/-- Execute a schedule, refusing moves that are not enabled or not allowed. -/
def replay (step : Move → State → Option State) (allowed : State → Move → Bool) :
    List Move → State → Option State
  | [], state => some state
  | move :: moves, state =>
      if allowed state move then
        match step move state with
        | some next => replay step allowed moves next
        | none => none
      else
        none

/-- Every replayed schedule is a run. -/
theorem reaches_of_replay {step : Move → State → Option State}
    {allowed : State → Move → Bool} {moves : List Move} {first last : State}
    (played : replay step allowed moves first = some last) :
    Reaches step allowed first last := by
  induction moves generalizing first with
  | nil =>
      simp only [replay, Option.some.injEq] at played
      subst played
      exact .refl first
  | cons move moves ih =>
      simp only [replay] at played
      split at played
      next admitted =>
        split at played
        next next taken => exact .head admitted taken (ih played)
        next => simp at played
      next => simp at played

theorem replay_append (step : Move → State → Option State) (allowed : State → Move → Bool)
    (early late : List Move) (first : State) :
    replay step allowed (early ++ late) first =
      (replay step allowed early first).bind (replay step allowed late) := by
  induction early generalizing first with
  | nil => rfl
  | cons move early ih =>
      simp only [List.cons_append, replay]
      split
      · split
        · exact ih _
        · rfl
      · rfl

/-- Schedule rule: a property of the moves made so far and the state they have led to
holds of the whole schedule if every step extends it. -/
theorem replay_history {step : Move → State → Option State} {allowed : State → Move → Bool}
    {moves : List Move} {first last : State} (property : List Move → State → Prop)
    (kept : ∀ history state move next, property history state → allowed state move = true →
      step move state = some next → property (history ++ [move]) next)
    (played : replay step allowed moves first = some last) (start : property [] first) :
    property moves last := by
  -- The moves already made stand in front of those still to be replayed.
  suffices extended : ∀ history, property history first → property (history ++ moves) last by
    simpa using extended [] start
  clear start
  induction moves generalizing first with
  | nil =>
      intro history holds
      cases played
      simpa using holds
  | cons move moves ih =>
      intro history holds
      simp only [replay] at played
      split at played
      next admitted =>
        split at played
        next next taken =>
          have after := ih played (history ++ [move]) (kept history first move next holds
            admitted taken)
          simpa using after
        next => cases played
      next => cases played

/-- The moves of a schedule, each with the state in which it is made. -/
def transcript (step : Move → State → Option State) : List Move → State → List (State × Move)
  | [], _ => []
  | move :: moves, state =>
      (state, move) ::
        match step move state with
        | some next => transcript step moves next
        | none => []

theorem transcript_append {step : Move → State → Option State} {allowed : State → Move → Bool}
    {early : List Move} {first middle : State} (late : List Move)
    (played : replay step allowed early first = some middle) :
    transcript step (early ++ late) first =
      transcript step early first ++ transcript step late middle := by
  induction early generalizing first with
  | nil =>
      cases played
      rfl
  | cons move early ih =>
      simp only [replay] at played
      split at played
      next =>
        split at played
        next next taken => simp only [List.cons_append, transcript, taken, ih played]
        next => cases played
      next => cases played

/-- Schedule rule for transcripts. -/
theorem replay_transcript {step : Move → State → Option State}
    {allowed : State → Move → Bool} {moves : List Move} {first last : State}
    (property : List (State × Move) → State → Prop)
    (kept : ∀ history state move next, property history state → allowed state move = true →
      step move state = some next → property (history ++ [(state, move)]) next)
    (played : replay step allowed moves first = some last) (start : property [] first) :
    property (transcript step moves first) last := by
  suffices extended : ∀ history, property history first →
      property (history ++ transcript step moves first) last by
    simpa using extended [] start
  clear start
  induction moves generalizing first with
  | nil =>
      intro history holds
      cases played
      simpa [transcript] using holds
  | cons move moves ih =>
      intro history holds
      simp only [replay] at played
      split at played
      next admitted =>
        split at played
        next next taken =>
          have after := ih played (history ++ [(first, move)]) (kept history first move next
            holds admitted taken)
          simpa [transcript, taken] using after
        next => cases played
      next => cases played

/-- A replayed schedule whose last state passes a test reaches such a state. -/
theorem exists_reached {step : Move → State → Option State}
    {allowed : State → Move → Bool} {moves : List Move} {first : State}
    {test : State → Bool}
    (played : (replay step allowed moves first).any test = true) :
    ∃ last, Reaches step allowed first last ∧ test last = true := by
  cases result : replay step allowed moves first with
  | none => simp [result] at played
  | some last =>
      rw [result] at played
      exact ⟨last, reaches_of_replay result, played⟩

end PkgexecLinux.Foundation

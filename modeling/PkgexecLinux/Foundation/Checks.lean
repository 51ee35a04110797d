import Mathlib.Logic.Basic

/-!
# Computations that may fail

Inversion of sequenced checks: a successful sequence is taken apart into its
successful parts.
-/

namespace PkgexecLinux.Foundation

variable {Error Value Result : Type}

/-- A sequence succeeds exactly when both parts do. -/
theorem bind_eq_ok {first : Except Error Value} {second : Value → Except Error Result}
    {result : Result} :
    (first >>= second) = .ok result ↔ ∃ value, first = .ok value ∧ second value = .ok result := by
  cases first with
  | error error =>
      constructor
      · intro done
        cases done
      · rintro ⟨value, absurd, _⟩
        cases absurd
  | ok value =>
      constructor
      · intro done
        exact ⟨value, rfl, done⟩
      · rintro ⟨other, same, done⟩
        cases same
        exact done

/-! ## Loops -/

section Loop

variable {State Item : Type} {step : State → Item → Except Error State}

/-- What every iteration preserves holds after the loop. -/
theorem foldlM_preserves {Invariant : State → Prop} (items : List Item)
    (keeps : ∀ {state next item}, item ∈ items → Invariant state →
      step state item = .ok next → Invariant next)
    {state last : State} (start : Invariant state)
    (done : items.foldlM step state = .ok last) : Invariant last := by
  induction items generalizing state with
  | nil =>
      cases done
      exact start
  | cons item items ih =>
      rw [List.foldlM_cons, bind_eq_ok] at done
      rcases done with ⟨next, stepped, rest⟩
      apply ih _ (keeps List.mem_cons_self start stepped) rest
      intro state next other member
      exact keeps (List.mem_cons_of_mem _ member)

/-- A loop whose iterations all succeed succeeds; `Invariant` says what has been
achieved for the items done so far. -/
theorem foldlM_reaches (Invariant : List Item → State → Prop) (finished items : List Item)
    (advances : ∀ {before state item after}, finished ++ items = before ++ item :: after →
      Invariant before state →
      ∃ next, step state item = .ok next ∧ Invariant (before ++ [item]) next)
    {state : State} (start : Invariant finished state) :
    ∃ last, items.foldlM step state = .ok last ∧ Invariant (finished ++ items) last := by
  induction items generalizing finished state with
  | nil =>
      rw [List.append_nil]
      exact ⟨state, rfl, start⟩
  | cons item items ih =>
      rcases advances rfl start with ⟨next, stepped, achieved⟩
      have remaining : finished ++ [item] ++ items = finished ++ item :: items := by
        rw [List.append_assoc, List.singleton_append]
      have later := ih (finished ++ [item]) (by rwa [remaining]) achieved
      rcases later with ⟨last, done, invariant⟩
      refine ⟨last, ?_, ?_⟩
      · rw [List.foldlM_cons, bind_eq_ok]
        exact ⟨next, stepped, done⟩
      · rwa [remaining] at invariant

end Loop

/-! ## Computations with fewer failures -/

/-- Whatever the first computes, the second computes too. -/
def Within (first second : Except Error Value) : Prop :=
  ∀ value, first = .ok value → second = .ok value

namespace Within

theorem refl (computed : Except Error Value) : Within computed computed := fun _ done => done

theorem bind {first other : Except Error Value} {second later : Value → Except Error Result}
    (head : Within first other) (tail : ∀ value, Within (second value) (later value)) :
    Within (first >>= second) (other >>= later) := by
  intro result done
  rcases bind_eq_ok.mp done with ⟨value, computed, rest⟩
  exact bind_eq_ok.mpr ⟨value, head value computed, tail value result rest⟩

theorem foldlM {State Item : Type} {step other : State → Item → Except Error State}
    (each : ∀ state item, Within (step state item) (other state item)) (items : List Item)
    (state : State) : Within (items.foldlM step state) (items.foldlM other state) := by
  induction items generalizing state with
  | nil => exact refl _
  | cons item items ih =>
      rw [List.foldlM_cons, List.foldlM_cons]
      exact (each state item).bind ih

end Within

end PkgexecLinux.Foundation

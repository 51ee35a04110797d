import Mathlib.Data.List.Sort

/-!
# Sorting and searching

The ordering algorithms of the C++ library.  `std::sort` is any function that
permutes a list into the order of a comparison, which has to be a strict weak
order; `std::unique` drops repetitions among neighbours; `std::lower_bound` halves the
range in which its answer lies.
-/

namespace PkgexecLinux.Foundation

/-- A comparison that the ordering algorithms accept: a strict weak order. -/
structure Comparison (Value : Type) where
  less : Value → Value → Bool
  asymm : ∀ {left right}, less left right = true → less right left = false
  trans : ∀ {first second third}, less first second = false → less second third = false →
    less first third = false

namespace Comparison

variable {Value First Second : Type}

/-- The comparison of a linear order. -/
def linear (Value : Type) [LinearOrder Value] : Comparison Value where
  less left right := decide (left < right)
  asymm := by
    intro left right below
    rw [decide_eq_true_eq] at below
    rw [decide_eq_false_iff_not]
    exact below.asymm
  trans := by
    intro first second third notFirst notSecond
    rw [decide_eq_false_iff_not, not_lt] at *
    exact notSecond.trans notFirst

/-- The comparison of tuples: the second parts decide where the first ones are
equivalent. -/
def tie (first : Comparison First) (second : Comparison Second) :
    Comparison (First × Second) where
  less left right :=
    first.less left.1 right.1 ||
      (!first.less right.1 left.1 && second.less left.2 right.2)
  asymm := by
    intro left right below
    rw [Bool.or_eq_true, Bool.and_eq_true] at below
    rcases below with below | ⟨level, below⟩
    · simp [below, first.asymm below]
    · simp only [Bool.not_eq_true'] at level
      simp [level, second.asymm below]
  trans := by
    intro low middle high notLow notMiddle
    rw [Bool.or_eq_false_iff, Bool.and_eq_false_imp, Bool.not_eq_true'] at *
    refine ⟨first.trans notLow.1 notMiddle.1, ?_⟩
    intro level
    -- Both neighbours are level too: a strict step between them would be one between the ends.
    have levelLow : first.less middle.1 low.1 = false := first.trans notMiddle.1 level
    have levelMiddle : first.less high.1 middle.1 = false := first.trans level notLow.1
    exact second.trans (notLow.2 levelLow) (notMiddle.2 levelMiddle)

/-- Values compared through a part of them. -/
def on (order : Comparison Value) (part : First → Value) : Comparison First where
  less left right := order.less (part left) (part right)
  asymm := order.asymm
  trans := order.trans

/-- `left` may stand before `right`. -/
def MayPrecede (order : Comparison Value) (left right : Value) : Prop :=
  order.less right left = false

instance (order : Comparison Value) : DecidableRel order.MayPrecede :=
  fun left right => inferInstanceAs (Decidable (order.less right left = false))

instance (order : Comparison Value) : Std.Total order.MayPrecede where
  total left right := by
    cases below : order.less right left with
    | false => exact Or.inl below
    | true => exact Or.inr (order.asymm below)

instance (order : Comparison Value) : IsTrans Value order.MayPrecede where
  trans _ _ _ first second := order.trans second first

end Comparison

/-! ## Sorting -/

/-- `std::sort`.  The order of equivalent values is not specified. -/
structure StdSort {Value : Type} (order : Comparison Value) where
  sort : List Value → List Value
  perm : ∀ values, (sort values).Perm values
  ordered : ∀ values, (sort values).Pairwise order.MayPrecede

/-- One such function. -/
def StdSort.insertion {Value : Type} (order : Comparison Value) : StdSort order where
  sort := List.insertionSort order.MayPrecede
  perm := List.perm_insertionSort order.MayPrecede
  ordered := List.pairwise_insertionSort order.MayPrecede

/-! ## Repetitions -/

section Repetitions

variable {Value : Type} [LinearOrder Value] {values left right : List Value}

end Repetitions

/-! ## Searching -/

section Search

variable {Value : Type} {below : Value → Bool}

/-- The loop of `std::lower_bound` on the `length` values from `first` on. -/
def lowerBoundFrom (below : Value → Bool) (values : List Value) (first length : Nat) : Nat :=
  if length = 0 then first
  else
    let half := length / 2
    if (values[first + half]?).any below then
      lowerBoundFrom below values (first + half + 1) (length - half - 1)
    else lowerBoundFrom below values first half
  termination_by length

/-- `std::lower_bound`. -/
def lowerBound (below : Value → Bool) (values : List Value) : Nat :=
  lowerBoundFrom below values 0 values.length

/-- What stands before a value that is below is below. -/
def Partitioned (below : Value → Bool) (values : List Value) : Prop :=
  values.Pairwise fun left right => below right = true → below left = true

theorem Partitioned.below_of_le {values : List Value} (partitioned : Partitioned below values)
    {low high : Nat} (bound : high < values.length) (le : low ≤ high)
    (hit : below values[high] = true) : below values[low] = true := by
  rcases Nat.eq_or_lt_of_le le with rfl | lt
  · exact hit
  · exact List.pairwise_iff_getElem.mp partitioned low high _ bound lt hit

/-- The answer separates the values that are below from the others. -/
theorem lowerBoundFrom_spec {values : List Value} (partitioned : Partitioned below values)
    {first length : Nat} (bound : first + length ≤ values.length)
    (before : ∀ i (_ : i < values.length), i < first → below values[i] = true)
    (after : ∀ i (_ : i < values.length), first + length ≤ i → below values[i] = false) :
    ∀ i (_ : i < values.length),
      below values[i] = decide (i < lowerBoundFrom below values first length) := by
  fun_induction lowerBoundFrom below values first length with
  | case1 first =>
      intro i inside
      by_cases low : i < first
      · simp [low, before i inside low]
      · simp [low, after i inside (by omega)]
  | case2 first length positive half hit ih =>
      have inside : first + half < values.length := by omega
      rw [List.getElem?_eq_getElem inside, Option.any_some] at hit
      apply ih (by omega)
      · intro i _ low
        exact partitioned.below_of_le inside (by omega) hit
      · intro i inside high
        exact after i inside (by omega)
  | case3 first length positive half miss ih =>
      have inside : first + half < values.length := by omega
      rw [List.getElem?_eq_getElem inside, Option.any_some] at miss
      apply ih (by omega) before
      intro i inside high
      rw [Bool.eq_false_iff]
      intro hit
      exact miss (partitioned.below_of_le inside high hit)

/-- A position that separates the values is where a scan from the left stops. -/
theorem drop_eq_dropWhile {values : List Value} {position : Nat}
    (separates : ∀ i (_ : i < values.length), below values[i] = decide (i < position)) :
    values.drop position = values.dropWhile below := by
  induction values generalizing position with
  | nil => simp
  | cons value values ih =>
      have head : below value = decide (0 < position) := separates 0 (by simp)
      cases position with
      | zero =>
          rw [List.dropWhile_cons, head]
          simp
      | succ position =>
          rw [List.dropWhile_cons, head, List.drop_succ_cons]
          simp only [Nat.zero_lt_succ, decide_true, if_true]
          apply ih
          intro i inside
          have next := separates (i + 1) (Nat.succ_lt_succ inside)
          rwa [List.getElem_cons_succ, decide_eq_decide.mpr Nat.succ_lt_succ_iff] at next

theorem drop_lowerBound {values : List Value} (partitioned : Partitioned below values) :
    values.drop (lowerBound below values) = values.dropWhile below := by
  apply drop_eq_dropWhile
  apply lowerBoundFrom_spec partitioned (by omega)
  · intro i _ low
    omega
  · intro i inside high
    omega

end Search

end PkgexecLinux.Foundation

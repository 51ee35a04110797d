import PkgexecLinux.Foundation.Descriptors

/-!
# Closing the inherited descriptors

`close_fds_except` closes everything but the standard descriptors and two more.
It asks the kernel to close up to three ranges around the two; when a call
fails, or when `close_range` is not known at compile time, it falls back to
closing one number after the other below the descriptor limit.
-/

namespace PkgexecLinux.Process

open Foundation

variable {Object : Type}

/-- `UINT_MAX`. -/
def uintMax : Nat := 4294967295

/-- `INT_MAX`. -/
def intMax : Int := 2147483647

/-- How a `close_range` call ends.  A call that fails may have closed a part of
the range; one that is not supported closes nothing. -/
inductive RangeOutcome where
  | closed
  | failed (part : Nat → Bool)

namespace RangeOutcome

def succeeded : RangeOutcome → Bool
  | .closed => true
  | .failed _ => false

def covers : RangeOutcome → Nat → Bool
  | .closed, _ => true
  | .failed part, fd => part fd

/-- The numbers that a call on the range from `first` to `last` closes. -/
def closes (outcome : RangeOutcome) (first last fd : Nat) : Bool :=
  decide (first ≤ fd) && decide (fd ≤ last) && outcome.covers fd

end RangeOutcome

/-- The system call `close_range`: whether it returned zero, and the table it leaves. -/
def closeRange (first last : Nat) (outcome : RangeOutcome) (table : DescriptorTable Object) :
    Bool × DescriptorTable Object :=
  (outcome.succeeded, table.closeWhere (outcome.closes first last))

/-- How the calls below, between and above the kept numbers end, if they are made. -/
structure RangeCalls where
  below : RangeOutcome
  between : RangeOutcome
  above : RangeOutcome

/-- The calls on a system without `close_range`. -/
def RangeCalls.unsupported : RangeCalls :=
  ⟨.failed fun _ => false, .failed fun _ => false, .failed fun _ => false⟩

/-! ## The function -/

/-- The calls around `first` and `second`, each made only while all before it succeeded. -/
def closeRanges (calls : RangeCalls) (first second : Nat) (table : DescriptorTable Object) :
    Bool × DescriptorTable Object :=
  let lower :=
    if 3 < first then closeRange 3 (first - 1) calls.below table else (true, table)
  let middle :=
    if lower.1 && decide (first + 1 < second) then
      closeRange (first + 1) (second - 1) calls.between lower.2
    else lower
  if middle.1 then closeRange (second + 1) uintMax calls.above middle.2 else middle

/-- The end of the fallback loop, from what `sysconf(_SC_OPEN_MAX)` returned. -/
def fallbackUpper (maximum : Int) : Nat :=
  if 0 < maximum ∧ maximum < intMax then maximum.toNat else 65536

/-- The fallback loop. -/
def closeEach (maximum : Int) (first second : Nat) (table : DescriptorTable Object) :
    DescriptorTable Object :=
  (List.range' 3 (fallbackUpper maximum - 3)).foldl
    (fun table fd => if fd != first && fd != second then table.close fd else table) table

/-- `close_fds_except` once the kept numbers are in order. -/
def closeOrdered (calls : RangeCalls) (maximum : Int) (first second : Nat)
    (table : DescriptorTable Object) : DescriptorTable Object :=
  let ranges := closeRanges calls first second table
  if ranges.1 then ranges.2 else closeEach maximum first second ranges.2

/-- `close_fds_except`. -/
def closeFdsExcept (calls : RangeCalls) (maximum : Int) (first second : Nat)
    (table : DescriptorTable Object) : DescriptorTable Object :=
  if second < first then closeOrdered calls maximum second first table
  else closeOrdered calls maximum first second table

/-! ## What the calls close -/

namespace RangeCalls

/-- The call below the kept numbers was not needed, or succeeded. -/
def belowDone (calls : RangeCalls) (first : Nat) : Bool :=
  !decide (3 < first) || calls.below.succeeded

/-- So far no call has failed before the last one. -/
def betweenDone (calls : RangeCalls) (first second : Nat) : Bool :=
  calls.belowDone first && (!decide (first + 1 < second) || calls.between.succeeded)

/-- No call has failed. -/
def allDone (calls : RangeCalls) (first second : Nat) : Bool :=
  calls.betweenDone first second && calls.above.succeeded

/-- The numbers that the calls close around `first` and `second`. -/
def swept (calls : RangeCalls) (first second fd : Nat) : Bool :=
  decide (3 < first) && calls.below.closes 3 (first - 1) fd ||
    (calls.belowDone first && decide (first + 1 < second) &&
      calls.between.closes (first + 1) (second - 1) fd) ||
    (calls.betweenDone first second && calls.above.closes (second + 1) uintMax fd)

end RangeCalls

/-- A call that is made on a condition. -/
theorem closeRange_if (made : Bool) (first last : Nat) (outcome : RangeOutcome) (done : Bool)
    (table : DescriptorTable Object) :
    (if made then closeRange first last outcome table else (done, table)) =
      (if made then outcome.succeeded else done,
        table.closeWhere fun fd => made && outcome.closes first last fd) := by
  cases made with
  | true => simp [closeRange]
  | false =>
      apply Prod.ext
      · rfl
      · apply DescriptorTable.ext
        intro fd
        simp

theorem closeRanges_eq (calls : RangeCalls) (first second : Nat)
    (table : DescriptorTable Object) :
    closeRanges calls first second table =
      (calls.allDone first second, table.closeWhere (calls.swept first second)) := by
  have lower :
      (if 3 < first then closeRange 3 (first - 1) calls.below table else (true, table)) =
        (calls.belowDone first, table.closeWhere fun fd =>
          decide (3 < first) && calls.below.closes 3 (first - 1) fd) := by
    have shape := closeRange_if (decide (3 < first)) 3 (first - 1) calls.below true table
    simp only [decide_eq_true_eq] at shape
    rw [shape]
    by_cases above : 3 < first <;> simp [RangeCalls.belowDone, above]
  have middle : (if (calls.belowDone first && decide (first + 1 < second)) = true then
      calls.between.succeeded else calls.belowDone first) = calls.betweenDone first second := by
    unfold RangeCalls.betweenDone
    cases calls.belowDone first <;> by_cases apart : first + 1 < second <;> simp [apart]
  simp only [closeRanges, lower, closeRange_if, DescriptorTable.closeWhere_closeWhere, middle]
  apply Prod.ext
  · unfold RangeCalls.allDone
    cases calls.betweenDone first second <;> rfl
  · rfl

theorem closeEach_eq (maximum : Int) (first second : Nat) (table : DescriptorTable Object) :
    closeEach maximum first second table =
      table.closeWhere fun fd => (fd != first && fd != second) &&
        decide (3 ≤ fd ∧ fd < fallbackUpper maximum) := by
  unfold closeEach
  rw [DescriptorTable.foldl_close]
  apply DescriptorTable.ext
  intro fd
  have range : fd ∈ List.range' 3 (fallbackUpper maximum - 3) ↔
      3 ≤ fd ∧ fd < fallbackUpper maximum := by
    rw [List.mem_range'_1]
    omega
  simp only [DescriptorTable.entry_closeWhere, range]

section Sweep

variable {calls : RangeCalls} {first second fd : Nat}

/-- The calls leave the kept numbers alone. -/
theorem kept_of_swept (ordered : first ≤ second) (closed : calls.swept first second fd = true) :
    fd ≠ first ∧ fd ≠ second := by
  simp only [RangeCalls.swept, RangeOutcome.closes, Bool.or_eq_true, Bool.and_eq_true,
    decide_eq_true_eq] at closed
  omega

/-- Calls that all succeed close every other number from three on. -/
theorem swept_of_allDone (done : calls.allDone first second = true) (above : 3 ≤ fd)
    (inside : fd < numberBound) (notFirst : fd ≠ first) (notSecond : fd ≠ second) :
    calls.swept first second fd = true := by
  have covered : ∀ outcome : RangeOutcome, outcome.succeeded = true →
      outcome.covers fd = true := by
    intro outcome succeeded
    cases outcome with
    | closed => rfl
    | failed part => exact absurd succeeded Bool.false_ne_true
  have small : fd ≤ uintMax := by
    unfold numberBound at inside
    unfold uintMax
    omega
  rw [RangeCalls.allDone, Bool.and_eq_true] at done
  have early := done.1
  rw [RangeCalls.betweenDone, Bool.and_eq_true] at early
  simp only [RangeCalls.swept, RangeOutcome.closes, Bool.or_eq_true, Bool.and_eq_true,
    decide_eq_true_eq]
  by_cases low : fd < first
  · have needed : 3 < first := by omega
    have succeeded : calls.below.succeeded = true := by
      simpa [RangeCalls.belowDone, needed] using early.1
    exact .inl (.inl ⟨needed, ⟨above, by omega⟩, covered _ succeeded⟩)
  · by_cases middle : fd < second
    · have needed : first + 1 < second := by omega
      have succeeded : calls.between.succeeded = true := by
        simpa [needed] using early.2
      exact .inl (.inr ⟨⟨early.1, needed⟩, ⟨by omega, by omega⟩, covered _ succeeded⟩)
    · exact .inr ⟨done.1, ⟨by omega, small⟩, covered _ done.2⟩

end Sweep

/-! ## What is left open -/

/-- The numbers `close_fds_except` is to leave open. -/
def Kept (first second fd : Nat) : Prop :=
  fd = 0 ∨ fd = 1 ∨ fd = 2 ∨ fd = first ∨ fd = second

/-- Exactly the kept ones of the open descriptors are open afterwards. -/
def ClosedExcept (first second : Nat) (before after : DescriptorTable Object) : Prop :=
  ∀ fd, after.isOpen fd = true ↔ before.isOpen fd = true ∧ Kept first second fd

/-- The calls close no standard descriptor that is open and not kept anyway. -/
def StandardSpared (calls : RangeCalls) (first second : Nat) (table : DescriptorTable Object) :
    Prop :=
  ∀ fd, fd < 3 → table.isOpen fd = true → fd ≠ first → fd ≠ second →
    calls.swept (min first second) (max first second) fd = false

/-- If a call fails, then all else that is open above the fallback loop is closed already. -/
def FallbackSuffices (calls : RangeCalls) (maximum : Int) (first second : Nat)
    (table : DescriptorTable Object) : Prop :=
  calls.allDone (min first second) (max first second) = false →
    ∀ fd, 3 ≤ fd → fallbackUpper maximum ≤ fd → table.isOpen fd = true →
      fd ≠ first → fd ≠ second →
      calls.swept (min first second) (max first second) fd = true

theorem ClosedExcept.comm {first second : Nat} {before after : DescriptorTable Object} :
    ClosedExcept second first before after ↔ ClosedExcept first second before after := by
  unfold ClosedExcept Kept
  simp only [or_comm (a := _ = second)]

theorem StandardSpared.comm {calls : RangeCalls} {first second : Nat}
    {table : DescriptorTable Object} :
    StandardSpared calls second first table ↔ StandardSpared calls first second table := by
  unfold StandardSpared
  rw [Nat.min_comm, Nat.max_comm]
  constructor <;> exact fun spared fd small used left right => spared fd small used right left

theorem FallbackSuffices.comm {calls : RangeCalls} {maximum : Int} {first second : Nat}
    {table : DescriptorTable Object} :
    FallbackSuffices calls maximum second first table ↔
      FallbackSuffices calls maximum first second table := by
  unfold FallbackSuffices
  rw [Nat.min_comm, Nat.max_comm]
  constructor <;> exact fun reaches failed fd above beyond used left right =>
    reaches failed fd above beyond used right left

theorem closeOrdered_eq (calls : RangeCalls) (maximum : Int) (first second : Nat)
    (table : DescriptorTable Object) :
    closeOrdered calls maximum first second table =
      table.closeWhere fun fd => calls.swept first second fd ||
        !calls.allDone first second && ((fd != first && fd != second) &&
          decide (3 ≤ fd ∧ fd < fallbackUpper maximum)) := by
  unfold closeOrdered
  rw [closeRanges_eq]
  cases calls.allDone first second with
  | true => simp
  | false => simp [closeEach_eq, DescriptorTable.closeWhere_closeWhere]

theorem isOpen_closeOrdered (calls : RangeCalls) (maximum : Int) (first second : Nat)
    (table : DescriptorTable Object) (fd : Nat) :
    (closeOrdered calls maximum first second table).isOpen fd = true ↔
      table.isOpen fd = true ∧ calls.swept first second fd = false ∧
        (calls.allDone first second = true ∨ fd = first ∨ fd = second ∨ fd < 3 ∨
          fallbackUpper maximum ≤ fd) := by
  rw [closeOrdered_eq, DescriptorTable.isOpen_closeWhere]
  simp only [Bool.and_eq_true, Bool.not_eq_true', Bool.or_eq_false_iff, Bool.and_eq_false_iff,
    Bool.not_eq_false', bne_eq_false_iff_eq, decide_eq_false_iff_not]
  constructor
  · rintro ⟨⟨unswept, outside⟩, used⟩
    exact ⟨used, unswept, outside.imp id (by omega)⟩
  · rintro ⟨used, unswept, outside⟩
    exact ⟨⟨unswept, outside.imp id (by omega)⟩, used⟩

/-- What is not closed still refers to the same thing. -/
theorem entry_closeOrdered {calls : RangeCalls} {maximum : Int} {first second : Nat}
    {table : DescriptorTable Object} {fd : Nat}
    (left : (closeOrdered calls maximum first second table).isOpen fd = true) :
    (closeOrdered calls maximum first second table).entry fd = table.entry fd := by
  rw [closeOrdered_eq] at left ⊢
  exact table.entry_closeWhere_of_isOpen left

/-- With the kept numbers in order, the condition is the one to be met. -/
theorem closeOrdered_exact_iff (calls : RangeCalls) (maximum : Int) {first second : Nat}
    (ordered : first ≤ second) (table : DescriptorTable Object) :
    ClosedExcept first second table (closeOrdered calls maximum first second table) ↔
      StandardSpared calls first second table ∧
        FallbackSuffices calls maximum first second table := by
  unfold ClosedExcept StandardSpared FallbackSuffices Kept
  rw [Nat.min_eq_left ordered, Nat.max_eq_right ordered]
  simp only [isOpen_closeOrdered]
  constructor
  · intro exact
    constructor
    · intro fd small used notFirst notSecond
      have kept : fd = 0 ∨ fd = 1 ∨ fd = 2 ∨ fd = first ∨ fd = second := by omega
      exact ((exact fd).mpr ⟨used, kept⟩).2.1
    · intro failed fd above beyond used notFirst notSecond
      by_contra unswept
      have left : table.isOpen fd = true ∧ _ :=
        (exact fd).mp ⟨used, by simpa using unswept, by omega⟩
      omega
  · rintro ⟨spared, suffices'⟩ fd
    constructor
    · rintro ⟨used, unswept, reason⟩
      refine ⟨used, ?_⟩
      by_contra unkept
      simp only [not_or] at unkept
      have closed : calls.swept first second fd = true := by
        cases done : calls.allDone first second with
        | true =>
            exact swept_of_allDone done (by omega) (table.lt_numberBound used) (by omega)
              (by omega)
        | false =>
            rw [done] at reason
            simp only [Bool.false_eq_true, false_or] at reason
            exact suffices' done fd (by omega) (by omega) used (by omega) (by omega)
      rw [unswept] at closed
      exact Bool.false_ne_true closed
    · rintro ⟨used, kept⟩
      refine ⟨used, ?_, by omega⟩
      by_contra closed
      have swept : calls.swept first second fd = true := by simpa using closed
      have unkept := kept_of_swept ordered swept
      rw [spared fd (by omega) used unkept.1 unkept.2] at swept
      exact Bool.false_ne_true swept

/-- `close_fds_except` leaves open what it should exactly if its range calls close no
standard descriptor and, should one fail, the loop reaches everything still open. -/
theorem closeFdsExcept_exact_iff (calls : RangeCalls) (maximum : Int) (first second : Nat)
    (table : DescriptorTable Object) :
    ClosedExcept first second table (closeFdsExcept calls maximum first second table) ↔
      StandardSpared calls first second table ∧
        FallbackSuffices calls maximum first second table := by
  unfold closeFdsExcept
  by_cases swapped : second < first
  · rw [if_pos swapped]
    rw [← ClosedExcept.comm, ← StandardSpared.comm, ← FallbackSuffices.comm]
    exact closeOrdered_exact_iff calls maximum (Nat.le_of_lt swapped) table
  · rw [if_neg swapped]
    exact closeOrdered_exact_iff calls maximum (Nat.le_of_not_lt swapped) table

/-- `close_fds_except` only closes. -/
theorem entry_closeFdsExcept_or (calls : RangeCalls) (maximum : Int) (first second fd : Nat)
    (table : DescriptorTable Object) :
    (closeFdsExcept calls maximum first second table).entry fd = none ∨
      (closeFdsExcept calls maximum first second table).entry fd = table.entry fd := by
  unfold closeFdsExcept
  split <;> rw [closeOrdered_eq, DescriptorTable.entry_closeWhere] <;> split <;> simp

/-- Kept numbers from three on leave the standard descriptors alone too. -/
theorem entry_closeFdsExcept (calls : RangeCalls) (maximum : Int) {first second fd : Nat}
    (firstAbove : 3 ≤ first) (secondAbove : 3 ≤ second) (kept : Kept first second fd)
    (table : DescriptorTable Object) :
    (closeFdsExcept calls maximum first second table).entry fd = table.entry fd := by
  have ordered : ∀ low high, 3 ≤ low → low ≤ high → Kept low high fd →
      (closeOrdered calls maximum low high table).entry fd = table.entry fd := by
    intro low high lowAbove inOrder either
    cases used : table.isOpen fd with
    | true =>
        apply entry_closeOrdered
        apply (isOpen_closeOrdered ..).mpr
        refine ⟨used, ?_, by unfold Kept at either; omega⟩
        by_contra closed
        have swept : calls.swept low high fd = true := by simpa using closed
        have above : 3 ≤ fd := by
          simp only [RangeCalls.swept, RangeOutcome.closes, Bool.or_eq_true, Bool.and_eq_true,
            decide_eq_true_eq] at swept
          omega
        have unkept := kept_of_swept inOrder swept
        unfold Kept at either
        omega
    | false =>
        have unused : (closeOrdered calls maximum low high table).isOpen fd ≠ true := by
          intro left
          rw [((isOpen_closeOrdered ..).mp left).1] at used
          exact Bool.noConfusion used
        have before : table.entry fd = none := by simpa [DescriptorTable.isOpen] using used
        have after : (closeOrdered calls maximum low high table).entry fd = none := by
          simpa [DescriptorTable.isOpen] using unused
        rw [before, after]
  unfold closeFdsExcept
  by_cases swapped : second < first
  · rw [if_pos swapped]
    exact ordered second first secondAbove (Nat.le_of_lt swapped)
      (by unfold Kept at kept ⊢; omega)
  · rw [if_neg swapped]
    exact ordered first second firstAbove (Nat.le_of_not_lt swapped) kept

/-- A table in which the given numbers are in use, none of them close-on-exec. -/
def tableOf (fds : List Nat) : DescriptorTable Unit where
  entry fd := if fd < numberBound ∧ fd ∈ fds then some ⟨(), false⟩ else none
  bounded _ above := if_neg fun both => absurd both.1 (Nat.not_lt.mpr above)

/-- Without `close_range` and with the descriptor limit lowered to ten, an inherited
descriptor above the limit stays open; with it, keeping 1 closes 2. -/
theorem closeFdsExcept_inexact :
    ¬ ClosedExcept 4 5 (tableOf [0, 1, 2, 4, 5, 20])
        (closeFdsExcept .unsupported 10 4 5 (tableOf [0, 1, 2, 4, 5, 20])) ∧
      ¬ ClosedExcept 1 5 (tableOf [0, 1, 2, 5])
        (closeFdsExcept ⟨.closed, .closed, .closed⟩ 1024 1 5 (tableOf [0, 1, 2, 5])) := by
  constructor
  · intro exact
    have leaked : (closeFdsExcept .unsupported 10 4 5 (tableOf [0, 1, 2, 4, 5, 20])).isOpen 20 =
        true := by decide
    have kept := ((exact 20).mp leaked).2
    revert kept
    unfold Kept
    decide
  · intro exact
    have used : (tableOf [0, 1, 2, 5]).isOpen 2 = true := by decide
    have left := (exact 2).mpr ⟨used, .inr (.inr (.inl rfl))⟩
    revert left
    decide

end PkgexecLinux.Process

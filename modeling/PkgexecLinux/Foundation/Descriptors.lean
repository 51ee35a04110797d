import Mathlib.Data.List.Basic
import Mathlib.Logic.Function.Basic

/-!
# Descriptor tables

The descriptor table of one process: numbers are non-negative C integers, every
new descriptor takes the lowest free one, duplication onto the same number
changes nothing, and descriptors marked close-on-exec do not survive `exec`.
-/

namespace PkgexecLinux.Foundation

/-- Numbers from here on are not C integers. -/
def numberBound : Nat := 2147483648

/-- What one number refers to. -/
structure Entry (Object : Type) where
  object : Object
  closeOnExec : Bool
  deriving DecidableEq, Repr

/-- A descriptor table. -/
structure DescriptorTable (Object : Type) where
  entry : Nat → Option (Entry Object)
  bounded : ∀ fd, numberBound ≤ fd → entry fd = none

namespace DescriptorTable

variable {Object : Type} (table : DescriptorTable Object)

@[ext] theorem ext {left right : DescriptorTable Object}
    (same : ∀ fd, left.entry fd = right.entry fd) : left = right := by
  cases left
  cases right
  congr
  funext fd
  exact same fd

/-- The number is in use. -/
def isOpen (fd : Nat) : Bool := (table.entry fd).isSome

/-- What the number refers to. -/
def object (fd : Nat) : Option Object := (table.entry fd).map (·.object)

theorem lt_numberBound {fd : Nat} (used : table.isOpen fd = true) : fd < numberBound := by
  by_contra above
  rw [isOpen, table.bounded fd (Nat.le_of_not_lt above)] at used
  exact Bool.false_ne_true used

/-- The table without the numbers that `closed` names. -/
def closeWhere (closed : Nat → Bool) : DescriptorTable Object where
  entry fd := if closed fd then none else table.entry fd
  bounded fd above := by
    rw [table.bounded fd above, ite_self]

@[simp] theorem entry_closeWhere (closed : Nat → Bool) (fd : Nat) :
    (table.closeWhere closed).entry fd = if closed fd then none else table.entry fd := rfl

@[simp] theorem isOpen_closeWhere (closed : Nat → Bool) (fd : Nat) :
    (table.closeWhere closed).isOpen fd = (!closed fd && table.isOpen fd) := by
  unfold isOpen
  cases closes : closed fd <;> simp [closes]

/-- A number that stays in use refers to the same thing. -/
theorem entry_closeWhere_of_isOpen {closed : Nat → Bool} {fd : Nat}
    (used : (table.closeWhere closed).isOpen fd = true) :
    (table.closeWhere closed).entry fd = table.entry fd := by
  rw [isOpen_closeWhere, Bool.and_eq_true, Bool.not_eq_true'] at used
  rw [entry_closeWhere, used.1]
  exact if_neg Bool.false_ne_true

theorem closeWhere_closeWhere (early late : Nat → Bool) :
    (table.closeWhere early).closeWhere late =
      table.closeWhere fun fd => early fd || late fd := by
  apply DescriptorTable.ext
  intro fd
  simp only [entry_closeWhere]
  cases early fd <;> cases late fd <;> rfl

/-- `close`.  A number that is not in use stays so. -/
def close (fd : Nat) : DescriptorTable Object := table.closeWhere fun other => other == fd

@[simp] theorem entry_close (closed fd : Nat) :
    (table.close closed).entry fd = if fd = closed then none else table.entry fd := by
  simp [close]

/-- A loop that closes some of the numbers it passes. -/
theorem foldl_close (chosen : Nat → Bool) (fds : List Nat) :
    fds.foldl (fun table fd => if chosen fd then table.close fd else table) table =
      table.closeWhere fun fd => chosen fd && decide (fd ∈ fds) := by
  induction fds generalizing table with
  | nil =>
      apply DescriptorTable.ext
      intro fd
      simp
  | cons head fds ih =>
      rw [List.foldl_cons, ih]
      apply DescriptorTable.ext
      intro fd
      by_cases same : fd = head
      · subst same
        cases choice : chosen fd <;> simp [choice]
      · cases choice : chosen head <;> simp [same]

/-- The table with `fd` referring to `value`. -/
def install (fd : Nat) (value : Entry Object) (inside : fd < numberBound) :
    DescriptorTable Object where
  entry := Function.update table.entry fd (some value)
  bounded other above := by
    have distinct : other ≠ fd := by omega
    rw [Function.update_of_ne distinct, table.bounded other above]

@[simp] theorem entry_install (fd : Nat) (value : Entry Object) (inside : fd < numberBound)
    (other : Nat) :
    (table.install fd value inside).entry other =
      if other = fd then some value else table.entry other := by
  by_cases same : other = fd
  · subst same
    simp [install]
  · simp [install, same]

/-- The lowest free number below the descriptor limit. -/
def lowestFree (limit : Nat) : Option Nat :=
  (List.range (min limit numberBound)).find? fun fd => !table.isOpen fd

theorem lowestFree_spec {limit fd : Nat} (found : table.lowestFree limit = some fd) :
    fd < numberBound ∧ table.entry fd = none ∧
      ∀ lower, lower < fd → table.isOpen lower = true := by
  rw [lowestFree, List.find?_range_eq_some] at found
  rcases found with ⟨free, inRange, below⟩
  rw [List.mem_range] at inRange
  have vacant : table.isOpen fd = false := by simpa using free
  refine ⟨by omega, ?_, ?_⟩
  · simpa [isOpen] using vacant
  · intro lower less
    simpa using below lower less

/-- A new descriptor on the lowest free number; `none` is `EMFILE`. -/
def allocate (limit : Nat) (value : Entry Object) : Option (Nat × DescriptorTable Object) :=
  match table.lowestFree limit with
  | none => none
  | some fd =>
      if inside : fd < numberBound then some (fd, table.install fd value inside) else none

/-- A new descriptor changes nothing else. -/
theorem allocate_spec {limit fd : Nat} {value : Entry Object} {next : DescriptorTable Object}
    (allocated : table.allocate limit value = some (fd, next)) :
    table.entry fd = none ∧ (∀ lower, lower < fd → table.isOpen lower = true) ∧
      ∀ other, next.entry other = if other = fd then some value else table.entry other := by
  unfold allocate at allocated
  cases found : table.lowestFree limit with
  | none => simp [found] at allocated
  | some lowest =>
      rcases table.lowestFree_spec found with ⟨inside, free, below⟩
      simp only [found, inside, dif_pos, Option.some.injEq, Prod.mk.injEq] at allocated
      rcases allocated with ⟨rfl, rfl⟩
      exact ⟨free, below, table.entry_install lowest value inside⟩

/-- New descriptors one after the other. -/
def allocateAll (limit : Nat) : List (Entry Object) → DescriptorTable Object →
    Option (List Nat × DescriptorTable Object)
  | [], table => some ([], table)
  | value :: values, table =>
      match table.allocate limit value with
      | none => none
      | some (fd, middle) =>
          match allocateAll limit values middle with
          | none => none
          | some (fds, next) => some (fd :: fds, next)

/-- Descriptors allocated in one go are distinct, were free, and keep their values. -/
structure Allocated (table : DescriptorTable Object) (fds : List Nat)
    (values : List (Entry Object)) (next : DescriptorTable Object) : Prop where
  nodup : fds.Nodup
  free : ∀ fd ∈ fds, table.entry fd = none
  entries : List.Forall₂ (fun fd value => next.entry fd = some value) fds values
  others : ∀ fd, fd ∉ fds → next.entry fd = table.entry fd
  lowest : ∀ fd, fds.head? = some fd → ∀ lower, lower < fd → table.isOpen lower = true

theorem allocateAll_spec {limit : Nat} {values : List (Entry Object)} {fds : List Nat}
    {table next : DescriptorTable Object}
    (allocated : allocateAll limit values table = some (fds, next)) :
    Allocated table fds values next := by
  induction values generalizing table fds next with
  | nil =>
      simp only [allocateAll, Option.some.injEq, Prod.mk.injEq] at allocated
      rcases allocated with ⟨rfl, rfl⟩
      exact ⟨by simp, by simp, .nil, by simp, by simp⟩
  | cons value values ih =>
      simp only [allocateAll] at allocated
      cases first : table.allocate limit value with
      | none => simp [first] at allocated
      | some taken =>
          rcases taken with ⟨fd, middle⟩
          simp only [first] at allocated
          cases rest : allocateAll limit values middle with
          | none => simp [rest] at allocated
          | some others =>
              rcases others with ⟨later, last⟩
              simp only [rest, Option.some.injEq, Prod.mk.injEq] at allocated
              rcases allocated with ⟨rfl, rfl⟩
              rcases table.allocate_spec first with ⟨vacant, below, entries⟩
              have tail := ih rest
              have fresh : fd ∉ later := by
                intro member
                have again := tail.free fd member
                rw [entries, if_pos rfl] at again
                exact Option.some_ne_none _ again
              refine ⟨List.nodup_cons.mpr ⟨fresh, tail.nodup⟩, ?_, ?_, ?_, ?_⟩
              · intro other member
                rcases List.mem_cons.mp member with rfl | member
                · exact vacant
                · have unused := tail.free other member
                  have distinct : other ≠ fd := fun same => fresh (same ▸ member)
                  rwa [entries, if_neg distinct] at unused
              · refine .cons ?_ tail.entries
                rw [tail.others fd fresh, entries, if_pos rfl]
              · intro other outside
                rw [List.mem_cons, not_or] at outside
                rw [tail.others other outside.2, entries, if_neg outside.1]
              · intro head same
                rw [List.head?_cons, Option.some.injEq] at same
                rw [← same]
                exact below

/-- `dup2`.  The copy survives `exec`; a copy onto itself changes nothing. -/
def duplicate (source target : Nat) : Option (DescriptorTable Object) :=
  match table.entry source with
  | none => none
  | some value =>
      if source = target then some table
      else if inside : target < numberBound then
        some (table.install target { value with closeOnExec := false } inside)
      else none

/-- A duplicate onto another number changes that number only. -/
theorem duplicate_spec {source target : Nat} {next : DescriptorTable Object}
    (duplicated : table.duplicate source target = some next) :
    ∃ value, table.entry source = some value ∧
      (source = target → next = table) ∧
      (source ≠ target → ∀ other, next.entry other =
        if other = target then some { value with closeOnExec := false }
        else table.entry other) := by
  unfold duplicate at duplicated
  cases present : table.entry source with
  | none => simp [present] at duplicated
  | some value =>
      refine ⟨value, rfl, ?_, ?_⟩
      · intro same
        simp only [present, if_pos same, Option.some.injEq] at duplicated
        exact duplicated.symm
      · intro distinct other
        simp only [present, if_neg distinct] at duplicated
        split at duplicated
        · simp only [Option.some.injEq] at duplicated
          rw [← duplicated, entry_install]
        · simp at duplicated

/-- What is left of the table after `exec`. -/
def exec : DescriptorTable Object :=
  table.closeWhere fun fd => (table.entry fd).any (·.closeOnExec)

theorem object_exec {fd : Nat} {object : Object}
    (inherited : table.entry fd = some ⟨object, false⟩) : table.exec.object fd = some object := by
  simp [DescriptorTable.object, exec, inherited]

end DescriptorTable

end PkgexecLinux.Foundation

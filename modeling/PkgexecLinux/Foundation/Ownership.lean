import Mathlib.Data.List.Basic
import Mathlib.Logic.Function.Basic
import PkgexecLinux.Foundation.Runs

/-!
# Handles with one owner

Objects that own at most one handle of a table each: they are constructed, moved,
reset and destroyed, and whoever gives up a handle without passing it on closes it.
A program whose objects all end in their scope leaves the table as it was.
-/

namespace PkgexecLinux.Foundation.Ownership

/-- The objects that are alive, with what each owns, and the numbers in use.  `strays` counts
the closings of a number that was not in use. -/
structure Holdings (Object : Type) where
  value : Object → Option (Option Nat)
  used : Nat → Bool
  strays : Nat

inductive Operation (Object : Type) where
  /-- Construction from what a system call has returned, none for a failure. -/
  | adopt (object : Object) (given : Option Nat)
  | reset (object : Object) (given : Option Nat)
  | moveConstruct (source target : Object)
  | moveAssign (source target : Object)
  | destroy (object : Object)
  deriving Repr

namespace Holdings

variable {Object : Type} {holdings later : Holdings Object}

/-- No objects, and the numbers that others use. -/
def initial (base : Nat → Bool) : Holdings Object := ⟨fun _ => none, base, 0⟩

def set [DecidableEq Object] (holdings : Holdings Object) (object : Object)
    (value : Option (Option Nat)) : Holdings Object :=
  { holdings with value := Function.update holdings.value object value }

/-- The system gives a number that is not in use. -/
def obtain? (holdings : Holdings Object) : Option Nat → Option (Holdings Object)
  | none => some holdings
  | some fd =>
      if holdings.used fd then none
      else some { holdings with used := Function.update holdings.used fd true }

def close (holdings : Holdings Object) : Option Nat → Holdings Object
  | none => holdings
  | some fd =>
      if holdings.used fd then { holdings with used := Function.update holdings.used fd false }
      else { holdings with strays := holdings.strays + 1 }

@[simp] theorem value_close (holdings : Holdings Object) (handle : Option Nat) :
    (holdings.close handle).value = holdings.value := by
  cases handle with
  | none => rfl
  | some fd =>
      rw [close]
      split <;> rfl

theorem value_obtain {given : Option Nat} (obtained : holdings.obtain? given = some later) :
    later.value = holdings.value := by
  cases given with
  | none =>
      cases obtained
      rfl
  | some fd =>
      simp only [obtain?] at obtained
      split at obtained <;> cases obtained
      rfl

theorem obtain_eq_none {given : Option Nat} (refused : holdings.obtain? given = none) :
    ∃ fd, given = some fd ∧ holdings.used fd = true := by
  cases given with
  | none => cases refused
  | some fd =>
      simp only [obtain?] at refused
      split at refused
      next used => exact ⟨fd, rfl, used⟩
      next => cases refused

/-- The objects that are alive. -/
def Living (holdings : Holdings Object) (alive : List Object) : Prop :=
  ∀ object, (holdings.value object).isSome = true ↔ object ∈ alive

theorem living_congr {alive : List Object} (living : holdings.Living alive)
    (same : later.value = holdings.value) : later.Living alive := by
  intro object
  rw [same]
  exact living object

end Holdings

section Operations

variable {Object : Type} [DecidableEq Object]

/-- One operation; none if the objects are not there, or the system gives what is in use. -/
def step : Operation Object → Holdings Object → Option (Holdings Object)
  | .adopt object given, holdings =>
      match holdings.value object with
      | some _ => none
      | none => (holdings.obtain? given).map fun later => later.set object (some given)
  | .reset object given, holdings =>
      match holdings.value object with
      | none => none
      | some old =>
          (holdings.obtain? given).map fun later => (later.close old).set object (some given)
  | .moveConstruct source target, holdings =>
      match holdings.value source, holdings.value target with
      | some held, none => some ((holdings.set source (some none)).set target (some held))
      | _, _ => none
  | .moveAssign source target, holdings =>
      match holdings.value source, holdings.value target with
      | some held, some old =>
          if source = target then some holdings
          else some (((holdings.set source (some none)).close old).set target (some held))
      | _, _ => none
  | .destroy object, holdings =>
      (holdings.value object).map fun held => (holdings.close held).set object none

end Operations

/-! ## One owner for every handle -/

/-- Every number in use beyond the base has one owner or is in hand, once, and nothing has
strayed. -/
structure Owned {Object : Type} (base : Nat → Bool) (loose : List Nat)
    (holdings : Holdings Object) : Prop where
  single : ∀ object other fd, holdings.value object = some (some fd) →
    holdings.value other = some (some fd) → object = other
  apart : ∀ object fd, holdings.value object = some (some fd) → fd ∉ loose
  distinct : loose.Nodup
  inUse : ∀ fd, fd ∈ loose ∨ (∃ object, holdings.value object = some (some fd)) →
    holdings.used fd = true ∧ base fd = false
  kept : ∀ fd, base fd = true → holdings.used fd = true
  covered : ∀ fd, holdings.used fd = true →
    base fd = true ∨ fd ∈ loose ∨ ∃ object, holdings.value object = some (some fd)
  clean : holdings.strays = 0

namespace Owned

section Objects

variable {Object : Type} {base : Nat → Bool} {loose : List Nat} {holdings later : Holdings Object}
variable {handle : Option Nat}

theorem initial (base : Nat → Bool) : Owned base [] (Holdings.initial base : Holdings Object) where
  single := nofun
  apart := nofun
  distinct := List.nodup_nil
  inUse := by
    rintro fd (inHand | ⟨object, held⟩)
    · cases inHand
    · cases held
  kept := fun _ used => used
  covered := fun _ used => .inl used
  clean := rfl

/-- A system call returns a number. -/
theorem obtain (owned : Owned base loose holdings)
    (given : holdings.obtain? handle = some later) : Owned base (handle.toList ++ loose) later := by
  cases handle with
  | none =>
      cases given
      exact owned
  | some fd =>
      simp only [Holdings.obtain?] at given
      split at given <;> cases given
      next unused =>
        have fresh : fd ∉ loose := fun inHand => unused (owned.inUse fd (.inl inHand)).1
        have unheld : ∀ object, holdings.value object ≠ some (some fd) :=
          fun object held => unused (owned.inUse fd (.inr ⟨object, held⟩)).1
        refine ⟨owned.single, ?_, List.nodup_cons.mpr ⟨fresh, owned.distinct⟩, ?_, ?_, ?_,
          owned.clean⟩
        · intro object other held inHand
          rcases List.mem_cons.mp inHand with rfl | before
          · exact unheld object held
          · exact owned.apart object other held before
        · intro other inUse
          by_cases same : other = fd
          · subst same
            refine ⟨Function.update_self _ _ _, ?_⟩
            by_contra based
            exact unused (owned.kept other (eq_true_of_ne_false based))
          · have before := owned.inUse other (inUse.imp_left fun inHand =>
              (List.mem_cons.mp inHand).resolve_left same)
            simpa [Function.update_of_ne same] using before
        · intro other based
          by_cases same : other = fd
          · rw [same]
            exact Function.update_self _ _ _
          · simpa [Function.update_of_ne same] using owned.kept other based
        · intro other used
          by_cases same : other = fd
          · exact .inr (.inl (List.mem_cons.mpr (.inl same)))
          · simp only [Function.update_of_ne same] at used
            exact (owned.covered other used).imp_right (Or.imp_left (List.mem_cons_of_mem fd))

/-- What is in hand is closed. -/
theorem close (owned : Owned base (handle.toList ++ loose) holdings) :
    Owned base loose (holdings.close handle) := by
  cases handle with
  | none => exact owned
  | some fd =>
      have used := (owned.inUse fd (.inl (List.mem_cons_self ..))).1
      have fresh := (List.nodup_cons.mp owned.distinct).1
      rw [Holdings.close, if_pos used]
      refine ⟨owned.single, ?_, (List.nodup_cons.mp owned.distinct).2, ?_, ?_, ?_, owned.clean⟩
      · intro object other held inHand
        exact owned.apart object other held (List.mem_cons_of_mem fd inHand)
      · intro other inUse
        have different : other ≠ fd := by
          rintro rfl
          rcases inUse with inHand | ⟨object, held⟩
          · exact fresh inHand
          · exact owned.apart object other held (List.mem_cons_self ..)
        have before := owned.inUse other (inUse.imp_left (List.mem_cons_of_mem fd))
        simpa [Function.update_of_ne different] using before
      · intro other based
        have different : other ≠ fd := by
          rintro rfl
          have free := (owned.inUse other (.inl (List.mem_cons_self ..))).2
          rw [based] at free
          cases free
        simpa [Function.update_of_ne different] using owned.kept other based
      · intro other stays
        by_cases same : other = fd
        · subst same
          simp at stays
        · simp only [Function.update_of_ne same] at stays
          rcases owned.covered other stays with based | inHand | held
          · exact .inl based
          · exact .inr (.inl ((List.mem_cons.mp inHand).resolve_left same))
          · exact .inr (.inr held)

variable [DecidableEq Object] {object : Object}

/-- What an object owns is taken out of its hands. -/
theorem take (left : Option (Option Nat)) (owned : Owned base loose holdings)
    (held : holdings.value object = some handle) (empty : ∀ fd, left ≠ some (some fd)) :
    Owned base (handle.toList ++ loose) (holdings.set object left) := by
  have others : ∀ other fd, (holdings.set object left).value other = some (some fd) →
      other ≠ object ∧ holdings.value other = some (some fd) := by
    intro other fd owns
    by_cases same : other = object
    · subst same
      simp only [Holdings.set, Function.update_self] at owns
      exact absurd owns (empty fd)
    · exact ⟨same, by simpa [Holdings.set, Function.update_of_ne same] using owns⟩
  have mine : ∀ fd, fd ∈ handle.toList ↔ holdings.value object = some (some fd) := by
    intro fd
    rw [held]
    cases handle <;> simp [eq_comm]
  refine ⟨?_, ?_, ?_, ?_, owned.kept, ?_, owned.clean⟩
  · intro first second fd left right
    exact owned.single first second fd (others first fd left).2 (others second fd right).2
  · intro other fd owns inHand
    rcases others other fd owns with ⟨different, before⟩
    rcases List.mem_append.mp inHand with own | loosely
    · exact different (owned.single other object fd before ((mine fd).mp own))
    · exact owned.apart other fd before loosely
  · cases handle with
    | none => exact owned.distinct
    | some fd => exact List.nodup_cons.mpr ⟨owned.apart object fd held, owned.distinct⟩
  · rintro fd (inHand | ⟨other, owns⟩)
    · rcases List.mem_append.mp inHand with own | loosely
      · exact owned.inUse fd (.inr ⟨object, (mine fd).mp own⟩)
      · exact owned.inUse fd (.inl loosely)
    · exact owned.inUse fd (.inr ⟨other, (others other fd owns).2⟩)
  · intro fd used
    rcases owned.covered fd used with based | loosely | ⟨other, owns⟩
    · exact .inl based
    · exact .inr (.inl (List.mem_append_right _ loosely))
    · by_cases same : other = object
      · subst same
        exact .inr (.inl (List.mem_append_left _ ((mine fd).mpr owns)))
      · exact .inr (.inr ⟨other, by simpa [Holdings.set, Function.update_of_ne same] using owns⟩)

/-- What is in hand is put into an object that owns nothing. -/
theorem put (object : Object) (owned : Owned base (handle.toList ++ loose) holdings)
    (empty : ∀ fd, holdings.value object ≠ some (some fd)) :
    Owned base loose (holdings.set object (some handle)) := by
  have owns : ∀ other fd, (holdings.set object (some handle)).value other = some (some fd) ↔
      (other = object ∧ fd ∈ handle.toList) ∨ holdings.value other = some (some fd) := by
    intro other fd
    by_cases same : other = object
    · subst same
      have nothing := empty fd
      cases handle <;> simp [Holdings.set, nothing, eq_comm]
    · simp [Holdings.set, same]
  refine ⟨?_, ?_, (List.nodup_append.mp owned.distinct).2.1, ?_, owned.kept, ?_, owned.clean⟩
  · intro first second fd left right
    rcases (owns first fd).mp left with ⟨rfl, mine⟩ | left
    · rcases (owns second fd).mp right with ⟨rfl, _⟩ | right
      · rfl
      · exact absurd (List.mem_append_left _ mine) (owned.apart second fd right)
    · rcases (owns second fd).mp right with ⟨_, mine⟩ | right
      · exact absurd (List.mem_append_left _ mine) (owned.apart first fd left)
      · exact owned.single first second fd left right
  · intro other fd held loosely
    rcases (owns other fd).mp held with ⟨_, mine⟩ | held
    · cases handle with
      | none => cases mine
      | some own =>
          cases List.mem_singleton.mp mine
          exact (List.nodup_cons.mp owned.distinct).1 loosely
    · exact owned.apart other fd held (List.mem_append_right _ loosely)
  · rintro fd (loosely | ⟨other, held⟩)
    · exact owned.inUse fd (.inl (List.mem_append_right _ loosely))
    · rcases (owns other fd).mp held with ⟨_, mine⟩ | held
      · exact owned.inUse fd (.inl (List.mem_append_left _ mine))
      · exact owned.inUse fd (.inr ⟨other, held⟩)
  · intro fd used
    rcases owned.covered fd used with based | inHand | ⟨other, held⟩
    · exact .inl based
    · rcases List.mem_append.mp inHand with mine | loosely
      · exact .inr (.inr ⟨object, (owns object fd).mpr (.inl ⟨rfl, mine⟩)⟩)
      · exact .inr (.inl loosely)
    · exact .inr (.inr ⟨other, (owns other fd).mpr (.inr held)⟩)

end Objects

end Owned

section Runs

variable {Object : Type} [DecidableEq Object] {base : Nat → Bool}
variable {holdings later : Holdings Object}

@[simp] theorem Holdings.value_set (holdings : Holdings Object) (object : Object)
    (value : Option (Option Nat)) : (holdings.set object value).value object = value :=
  Function.update_self _ _ _

theorem Holdings.close_set (holdings : Holdings Object) (object : Object)
    (value : Option (Option Nat)) (handle : Option Nat) :
    (holdings.set object value).close handle = (holdings.close handle).set object value := by
  cases handle with
  | none => rfl
  | some fd =>
      by_cases used : holdings.used fd = true
      · simp [Holdings.close, Holdings.set, used]
      · simp [Holdings.close, Holdings.set, used]

theorem Holdings.set_set (holdings : Holdings Object) (object : Object)
    (first second : Option (Option Nat)) :
    (holdings.set object first).set object second = holdings.set object second := by
  simp only [Holdings.set, Function.update_idem]

/-- Every operation keeps one owner for every handle. -/
theorem Owned.step {operation : Operation Object} (owned : Owned base [] holdings)
    (taken : Ownership.step operation holdings = some later) : Owned base [] later := by
  cases operation with
  | adopt object given =>
      simp only [Ownership.step] at taken
      split at taken
      next => cases taken
      next absent =>
        rcases Option.map_eq_some_iff.mp taken with ⟨middle, obtained, rfl⟩
        have inHand := owned.obtain obtained
        apply inHand.put
        intro fd
        rw [Holdings.value_obtain obtained, absent]
        nofun
  | reset object given =>
      simp only [Ownership.step] at taken
      split at taken
      next => cases taken
      next old held =>
        rcases Option.map_eq_some_iff.mp taken with ⟨middle, obtained, rfl⟩
        have inHand := owned.obtain obtained
        -- The new value is in hand while the old one is closed.
        have before : middle.value object = some old := by
          rw [Holdings.value_obtain obtained, held]
        have emptied := (inHand.take (some none) before nofun).close
        rw [Holdings.close_set] at emptied
        have filled := emptied.put object (by simp)
        rwa [Holdings.set_set] at filled
  | moveConstruct source target =>
      simp only [Ownership.step] at taken
      split at taken
      next held given absent =>
        cases taken
        have inHand := owned.take (some none) given nofun
        apply inHand.put
        intro fd
        have different : target ≠ source := by
          rintro rfl
          rw [absent] at given
          cases given
        simp [Holdings.set, Function.update_of_ne different, absent]
      next => cases taken
  | moveAssign source target =>
      simp only [Ownership.step] at taken
      split at taken
      next held old given before =>
        split at taken
        next =>
          cases taken
          exact owned
        next different =>
          cases taken
          have inHand := owned.take (some none) given nofun
          have there : (holdings.set source (some none)).value target = some old := by
            rw [← before]
            exact Function.update_of_ne (Ne.symm different) _ _
          have emptied := (inHand.take (some none) there nofun).close
          rw [Holdings.close_set] at emptied
          have filled := emptied.put target (by simp)
          rwa [Holdings.set_set] at filled
      next => cases taken
  | destroy object =>
      rcases Option.map_eq_some_iff.mp taken with ⟨held, given, rfl⟩
      have gone := (owned.take none given nofun).close
      rwa [Holdings.close_set] at gone

/-! ## Programs -/

/-- The objects that are alive after an operation, if those that it names were there. -/
def scope : Operation Object → List Object → Option (List Object)
  | .adopt object _, alive => if object ∈ alive then none else some (object :: alive)
  | .reset object _, alive => if object ∈ alive then some alive else none
  | .moveConstruct source target, alive =>
      if source ∈ alive ∧ target ∉ alive then some (target :: alive) else none
  | .moveAssign source target, alive =>
      if source ∈ alive ∧ target ∈ alive then some alive else none
  | .destroy object, alive => if object ∈ alive then some (alive.filter (· ≠ object)) else none

/-- The objects that are alive after a program that uses none outside its life. -/
def scopes (program : List (Operation Object)) (alive : List Object) : Option (List Object) :=
  replay scope unrestricted program alive

/-- The number that the system gives in an operation. -/
def Operation.obtains : Operation Object → Option Nat
  | .adopt _ given | .reset _ given => given
  | _ => none

/-- An object that has a value is alive, whether it was before or not. -/
theorem Holdings.living_set {alive after : List Object} {object : Object} {held : Option Nat}
    (living : holdings.Living alive)
    (grown : ∀ other, other ∈ after ↔ other = object ∨ other ∈ alive) :
    (holdings.set object (some held)).Living after := by
  intro other
  rw [grown]
  by_cases same : other = object
  · simp [Holdings.set, same]
  · simpa [Holdings.set, Function.update_of_ne same, same] using living other

theorem Holdings.living_unset {alive : List Object} {object : Object}
    (living : holdings.Living alive) :
    (holdings.set object none).Living (alive.filter (· ≠ object)) := by
  intro other
  by_cases same : other = object
  · simp [Holdings.set, same]
  · simpa [Holdings.set, Function.update_of_ne same, same] using living other

/-- An operation on objects that are alive is refused only for a number in use. -/
theorem step_of_scope {operation : Operation Object} {alive after : List Object}
    (living : holdings.Living alive) (within : scope operation alive = some after) :
    (∃ later, step operation holdings = some later ∧ later.Living after) ∨
      ∃ fd, operation.obtains = some fd ∧ holdings.used fd = true := by
  have here : ∀ object, object ∈ alive → ∃ held, holdings.value object = some held :=
    fun object member => Option.isSome_iff_exists.mp ((living object).mpr member)
  have away : ∀ object, object ∉ alive → holdings.value object = none := by
    intro object absent
    rw [← Option.not_isSome_iff_eq_none, living]
    exact absent
  have twice : ∀ object, object ∈ alive → ∀ other, other ∈ alive ↔ other = object ∨ other ∈ alive :=
    fun object member other => ⟨.inr, fun either => either.elim (· ▸ member) id⟩
  cases operation with
  | adopt object given =>
      simp only [scope] at within
      split at within <;> cases within
      next absent =>
        cases obtained : holdings.obtain? given with
        | none => exact .inr (Holdings.obtain_eq_none obtained)
        | some middle =>
            left
            have still := Holdings.living_congr living (Holdings.value_obtain obtained)
            refine ⟨middle.set object (some given), ?_, ?_⟩
            · simp only [step, away object absent, obtained, Option.map_some]
            · exact Holdings.living_set still fun other => List.mem_cons
  | reset object given =>
      simp only [scope] at within
      split at within <;> cases within
      next member =>
        rcases here object member with ⟨old, held⟩
        cases obtained : holdings.obtain? given with
        | none => exact .inr (Holdings.obtain_eq_none obtained)
        | some middle =>
            left
            have still := Holdings.living_congr living (Holdings.value_obtain obtained)
            have closed := Holdings.living_congr still (Holdings.value_close middle old)
            refine ⟨(middle.close old).set object (some given), ?_, ?_⟩
            · simp only [step, held, obtained, Option.map_some]
            · exact Holdings.living_set closed (twice object member)
  | moveConstruct source target =>
      simp only [scope] at within
      split at within <;> cases within
      next members =>
        rcases here source members.1 with ⟨held, given⟩
        left
        refine ⟨(holdings.set source (some none)).set target (some held), ?_, ?_⟩
        · simp only [step, given, away target members.2]
        · exact Holdings.living_set (Holdings.living_set living (twice source members.1))
            fun other => List.mem_cons
  | moveAssign source target =>
      simp only [scope] at within
      split at within <;> cases within
      next members =>
        rcases here source members.1 with ⟨held, given⟩
        rcases here target members.2 with ⟨old, before⟩
        left
        by_cases same : source = target
        · exact ⟨holdings, by simp only [step, given, before, if_pos same], living⟩
        · have emptied := @Holdings.living_set _ _ holdings alive alive source none living
            (twice source members.1)
          refine ⟨((holdings.set source (some none)).close old).set target (some held), ?_, ?_⟩
          · simp only [step, given, before, if_neg same]
          · exact Holdings.living_set (Holdings.living_congr emptied (Holdings.value_close _ old))
              (twice target members.2)
  | destroy object =>
      simp only [scope] at within
      split at within <;> cases within
      next member =>
        rcases here object member with ⟨held, given⟩
        left
        refine ⟨(holdings.close held).set object none, ?_, ?_⟩
        · simp only [step, given, Option.map_some]
        · exact Holdings.living_unset
            (Holdings.living_congr living (Holdings.value_close _ held))

/-- An operation that has been carried out was given a number that was not in use. -/
theorem obtained_of_step {operation : Operation Object} {fd : Nat}
    (taken : step operation holdings = some later) (given : operation.obtains = some fd) :
    holdings.used fd = false := by
  have fresh : ∀ middle, holdings.obtain? (some fd) = some middle → holdings.used fd = false := by
    intro middle obtained
    simp only [Holdings.obtain?] at obtained
    split at obtained
    next => cases obtained
    next unused => exact eq_false_of_ne_true unused
  cases operation with
  | adopt object number | reset object number =>
      cases given
      simp only [step] at taken
      split at taken
      · cases taken
      · rcases Option.map_eq_some_iff.mp taken with ⟨middle, obtained, _⟩
        exact fresh middle obtained
  | moveConstruct | moveAssign | destroy => cases given

/-- The lives of two programs in a row. -/
theorem scopes_append {early late : List (Operation Object)} {alive after : List Object}
    (first : scopes early alive = some after) :
    scopes (early ++ late) alive = scopes late after := by
  simp only [scopes] at first ⊢
  rw [replay_append, first]
  rfl

/-- A program whose objects all end leaves the table as it was.  Along the way nothing is
closed that is not in use, and the only thing that can stop it is a system that gives a number
in use. -/
theorem balanced {program : List (Operation Object)} {alive : List Object}
    (owned : Owned base [] holdings) (living : holdings.Living alive)
    (within : scopes program alive = some []) :
    (∃ last, replay step unrestricted program holdings = some last ∧ last.used = base ∧
      last.strays = 0) ∨
    ∃ early operation late middle fd, program = early ++ operation :: late ∧
      replay step unrestricted early holdings = some middle ∧ middle.strays = 0 ∧
      operation.obtains = some fd ∧ middle.used fd = true := by
  induction program generalizing holdings alive with
  | nil =>
      cases within
      refine .inl ⟨holdings, rfl, ?_, owned.clean⟩
      funext fd
      cases based : base fd with
      | true => exact owned.kept fd based
      | false =>
          by_contra used
          rcases owned.covered fd (eq_true_of_ne_false used) with inBase | inHand | ⟨object, held⟩
          · rw [based] at inBase
            cases inBase
          · cases inHand
          · have member := (living object).mp (by rw [held]; rfl)
            cases member
  | cons operation program ih =>
      simp only [scopes, replay, unrestricted, if_true] at within
      split at within
      next after here =>
        rcases step_of_scope living here with ⟨later, taken, living⟩ | ⟨fd, given, used⟩
        · rcases ih (owned.step taken) living within with ⟨last, played, same, clean⟩ |
            ⟨early, other, late, middle, fd, rfl, played, clean, given, used⟩
          · exact .inl ⟨last, by simpa [replay, unrestricted, taken] using played, same, clean⟩
          · exact .inr ⟨operation :: early, other, late, middle, fd, rfl,
              by simpa [replay, unrestricted, taken] using played, clean, given, used⟩
        · exact .inr ⟨[], operation, program, holdings, fd, rfl, rfl, owned.clean, given, used⟩
      next => cases within

end Runs

end PkgexecLinux.Foundation.Ownership

import Mathlib.Logic.Function.Basic
import Mathlib.Data.List.Basic

/-!
# Removal of directories

A forest of directories is given by the children of each, and its state by those
that exist.  A removal fails on a directory that is not there or not empty, and for
any reason of the kernel's own.  A sequence of removals goes on after a failure and
remembers the first one that left something behind.
-/

namespace PkgexecLinux.Foundation

/-- `ENOENT`. -/
def noEntry : Nat := 2

/-- `ENOTEMPTY`. -/
def notEmpty : Nat := 39

/-- An error number with which the kernel refuses to remove a directory that exists. -/
structure Refusal where
  errno : Nat
  present : errno ≠ noEntry
  deriving DecidableEq

namespace Directories

variable {Dir : Type} [DecidableEq Dir]

/-- `rmdir(2)`. -/
def rmdir (children : Dir → List Dir) (refuses : Dir → Option Refusal) (dir : Dir)
    (dirs : Dir → Bool) : Except Nat (Dir → Bool) :=
  if dirs dir = false then .error noEntry
  else if (children dir).any dirs then .error notEmpty
  else
    match refuses dir with
    | some refusal => .error refusal.errno
    | none => .ok (Function.update dirs dir false)

/-- Remove one directory after another, whatever happens; the first that could not be
removed, with the error number, and what is left. -/
def removeAll (children : Dir → List Dir) (refuses : Dir → Option Refusal) :
    List Dir → (Dir → Bool) → Option (Dir × Nat) × (Dir → Bool)
  | [], dirs => (none, dirs)
  | dir :: rest, dirs =>
      match rmdir children refuses dir dirs with
      | .ok after => removeAll children refuses rest after
      | .error errno =>
          if errno = noEntry then removeAll children refuses rest dirs
          else (some (dir, errno), (removeAll children refuses rest dirs).2)

variable {children : Dir → List Dir} {refuses : Dir → Option Refusal}

/-- Everything a removal can do. -/
inductive RmdirSpec (children : Dir → List Dir) (refuses : Dir → Option Refusal) (dir : Dir)
    (dirs : Dir → Bool) : Except Nat (Dir → Bool) → Prop where
  | absent : dirs dir = false → RmdirSpec children refuses dir dirs (.error noEntry)
  | filled (child : Dir) : dirs dir = true → child ∈ children dir → dirs child = true →
      RmdirSpec children refuses dir dirs (.error notEmpty)
  | refused (refusal : Refusal) : dirs dir = true → refuses dir = some refusal →
      RmdirSpec children refuses dir dirs (.error refusal.errno)
  | removed : dirs dir = true → (∀ child ∈ children dir, dirs child = false) →
      refuses dir = none →
      RmdirSpec children refuses dir dirs (.ok (Function.update dirs dir false))

theorem rmdir_spec (children : Dir → List Dir) (refuses : Dir → Option Refusal) (dir : Dir)
    (dirs : Dir → Bool) :
    RmdirSpec children refuses dir dirs (rmdir children refuses dir dirs) := by
  rw [rmdir]
  split
  next absent => exact .absent absent
  next present =>
    have exists' : dirs dir = true := eq_true_of_ne_false present
    split
    next filled =>
      rcases List.any_eq_true.mp filled with ⟨child, member, there⟩
      exact .filled child exists' member there
    next empty =>
      have gone : ∀ child ∈ children dir, dirs child = false := by
        intro child member
        exact eq_false_of_ne_true fun there => empty (List.any_eq_true.mpr ⟨child, member, there⟩)
      split
      next refusal refused => exact .refused refusal exists' refused
      next free => exact .removed exists' gone free

theorem notEmpty_ne_noEntry : notEmpty ≠ noEntry := by decide

/-- Removals create nothing. -/
theorem present_of_removeAll {order : List Dir} {dirs : Dir → Bool} {dir : Dir}
    (left : (removeAll children refuses order dirs).2 dir = true) : dirs dir = true := by
  induction order generalizing dirs with
  | nil => exact left
  | cons first rest ih =>
      have spec := rmdir_spec children refuses first dirs
      rw [removeAll] at left
      cases outcome : rmdir children refuses first dirs with
      | error errno =>
          simp only [outcome] at left
          split at left
          · exact ih left
          · exact ih left
      | ok after =>
          simp only [outcome] at left spec
          have before := ih left
          cases spec with
          | removed present gone free =>
              by_cases same : dir = first
              · rw [same]
                exact present
              · rwa [Function.update_of_ne same] at before

/-- Directories that are not to be removed stay. -/
theorem removeAll_of_notMem {order : List Dir} {dirs : Dir → Bool} {dir : Dir}
    (other : dir ∉ order) : (removeAll children refuses order dirs).2 dir = dirs dir := by
  induction order generalizing dirs with
  | nil => rfl
  | cons first rest ih =>
      have apart : dir ≠ first := fun same => other (same ▸ List.mem_cons_self)
      have later : dir ∉ rest := fun member => other (List.mem_cons_of_mem _ member)
      have spec := rmdir_spec children refuses first dirs
      rw [removeAll]
      cases outcome : rmdir children refuses first dirs with
      | error errno =>
          dsimp only
          split
          · exact ih later
          · exact ih later
      | ok after =>
          simp only [outcome] at spec ⊢
          rw [ih later]
          cases spec with
          | removed => exact Function.update_of_ne apart _ _

/-- A sequence of removals without a failure is one that leaves nothing behind. -/
theorem removeAll_eq_none_iff {order : List Dir} {dirs : Dir → Bool} (distinct : order.Nodup) :
    (removeAll children refuses order dirs).1 = none ↔
      ∀ dir ∈ order, (removeAll children refuses order dirs).2 dir = false := by
  induction order generalizing dirs with
  | nil => simp [removeAll]
  | cons first rest ih =>
      rcases List.nodup_cons.mp distinct with ⟨fresh, distinct⟩
      have spec := rmdir_spec children refuses first dirs
      have stays := @removeAll_of_notMem _ _ children refuses rest
      rw [removeAll, List.forall_mem_cons]
      cases outcome : rmdir children refuses first dirs with
      | ok after =>
          simp only [outcome] at spec ⊢
          rw [ih distinct, stays fresh]
          cases spec with
          | removed => simp
      | error errno =>
          simp only [outcome] at spec ⊢
          generalize unfound : Except.error errno = failed at spec
          cases spec with
          | absent gone =>
              cases unfound
              rw [if_pos rfl, ih distinct, stays fresh, gone]
              simp
          | filled child present =>
              cases unfound
              rw [if_neg notEmpty_ne_noEntry]
              simp only [stays fresh, present]
              simp
          | refused refusal present =>
              cases unfound
              rw [if_neg refusal.present]
              simp only [stays fresh, present]
              simp
          | removed => cases unfound

/-- The directory that is remembered is one that stays behind. -/
theorem left_of_removeAll {order : List Dir} {dirs : Dir → Bool} {dir : Dir} {errno : Nat}
    (distinct : order.Nodup)
    (failed : (removeAll children refuses order dirs).1 = some (dir, errno)) :
    (removeAll children refuses order dirs).2 dir = true := by
  induction order generalizing dirs with
  | nil => cases failed
  | cons first rest ih =>
      rcases List.nodup_cons.mp distinct with ⟨fresh, distinct⟩
      have spec := rmdir_spec children refuses first dirs
      rw [removeAll] at failed ⊢
      cases outcome : rmdir children refuses first dirs with
      | ok after =>
          simp only [outcome] at failed ⊢
          exact ih distinct failed
      | error number =>
          simp only [outcome] at failed spec ⊢
          split at failed
          next missing =>
            rw [if_pos missing]
            exact ih distinct failed
          next present =>
            cases failed
            rw [if_neg present]
            simp only [removeAll_of_notMem fresh]
            generalize unfound : Except.error errno = failed at spec
            cases spec with
            | absent =>
                cases unfound
                exact absurd rfl present
            | filled child there => exact there
            | refused refusal there => exact there
            | removed => cases unfound

/-- A sequence in which children come before their parents removes everything, if the
kernel refuses nothing. -/
theorem removeAll_clears {order : List Dir} {dirs : Dir → Bool}
    (ordered : ∀ early dir late, order = early ++ dir :: late →
      ∀ child ∈ children dir, child ∈ early ∨ dirs child = false)
    (free : ∀ dir ∈ order, refuses dir = none) :
    ∀ dir ∈ order, (removeAll children refuses order dirs).2 dir = false := by
  induction order generalizing dirs with
  | nil => nofun
  | cons first rest ih =>
      have bare : ∀ child ∈ children first, dirs child = false := by
        intro child member
        exact (ordered [] first rest rfl child member).resolve_left nofun
      have spec := rmdir_spec children refuses first dirs
      -- Whether the first is removed or was absent, it is absent from then on.
      have onward : ∀ after : Dir → Bool, after first = false →
          (∀ dir, after dir = true → dirs dir = true) →
          ∀ dir ∈ first :: rest, (removeAll children refuses rest after).2 dir = false := by
        intro after gone fewer dir member
        have absent : ∀ dir, after dir = false →
            (removeAll children refuses rest after).2 dir = false := by
          intro dir gone
          apply eq_false_of_ne_true
          intro left
          rw [present_of_removeAll left] at gone
          cases gone
        rcases List.mem_cons.mp member with rfl | later
        · exact absent dir gone
        · refine ih ?_ (fun dir member => free dir (List.mem_cons_of_mem _ member)) dir later
          intro early dir late split child member
          rcases ordered (first :: early) dir late (by rw [split]; rfl) child member with
            before | missing
          · rcases List.mem_cons.mp before with rfl | before
            · exact .inr gone
            · exact .inl before
          · right
            apply eq_false_of_ne_true
            intro there
            rw [fewer child there] at missing
            cases missing
      rw [removeAll]
      cases outcome : rmdir children refuses first dirs with
      | ok after =>
          simp only [outcome] at spec ⊢
          cases spec with
          | removed =>
              apply onward
              · exact Function.update_self _ _ _
              · intro dir there
                by_cases same : dir = first
                · rw [same, Function.update_self] at there
                  cases there
                · rwa [Function.update_of_ne same] at there
      | error errno =>
          simp only [outcome] at spec ⊢
          generalize unfound : Except.error errno = failed at spec
          cases spec with
          | absent gone =>
              cases unfound
              rw [if_pos rfl]
              exact onward dirs gone fun _ there => there
          | filled child present member there =>
              rw [bare child member] at there
              cases there
          | refused refusal present refused =>
              rw [free first List.mem_cons_self] at refused
              cases refused
          | removed => cases unfound

end Directories

end PkgexecLinux.Foundation

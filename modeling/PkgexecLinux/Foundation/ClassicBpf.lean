import Mathlib.Data.List.Basic

/-!
# Classic BPF

The fragment of the classic Berkeley packet filter that seccomp programs use:
absolute word loads, forward conditional jumps and returns.  Jumps only go
forward, so execution is a single pass over the instructions with a count of
those still to be skipped.
-/

namespace PkgexecLinux.Foundation.Bpf

abbrev Word := BitVec 32

/-- One instruction; jump offsets are relative to the next instruction. -/
inductive Instruction where
  /-- `BPF_LD | BPF_W | BPF_ABS`. -/
  | load (offset : Nat)
  /-- `BPF_JMP | BPF_JEQ | BPF_K`. -/
  | jumpEqual (value : Word) (whenTrue whenFalse : Nat)
  /-- `BPF_JMP | BPF_JSET | BPF_K`. -/
  | jumpSet (value : Word) (whenTrue whenFalse : Nat)
  /-- `BPF_RET | BPF_K`. -/
  | ret (value : Word)
  deriving DecidableEq, Repr

/-- Run a program on `data` with `skip` instructions to be passed over.  `none`
is a load outside the data or an execution that leaves the program. -/
def exec (data : Nat → Option Word) : List Instruction → Nat → Word → Option Word
  | [], _, _ => none
  | _ :: program, skip + 1, accumulator => exec data program skip accumulator
  | .load offset :: program, 0, _ =>
      match data offset with
      | some word => exec data program 0 word
      | none => none
  | .jumpEqual value whenTrue whenFalse :: program, 0, accumulator =>
      exec data program (if accumulator = value then whenTrue else whenFalse) accumulator
  | .jumpSet value whenTrue whenFalse :: program, 0, accumulator =>
      exec data program (if accumulator &&& value ≠ 0 then whenTrue else whenFalse)
        accumulator
  | .ret value :: _, 0, _ => some value

/-- Run a program from its first instruction, with a zero accumulator. -/
def run (program : List Instruction) (data : Nat → Option Word) : Option Word :=
  exec data program 0 0

variable {data : Nat → Option Word} {program : List Instruction} {accumulator : Word}

@[simp] theorem exec_skip (instruction : Instruction) (skip : Nat) :
    exec data (instruction :: program) (skip + 1) accumulator =
      exec data program skip accumulator := by
  cases instruction <;> rfl

@[simp] theorem exec_ret (value : Word) :
    exec data (.ret value :: program) 0 accumulator = some value := rfl

theorem exec_load {offset : Nat} {word : Word} (loaded : data offset = some word) :
    exec data (.load offset :: program) 0 accumulator = exec data program 0 word := by
  simp only [exec, loaded]

theorem exec_jumpEqual (value : Word) (whenTrue whenFalse : Nat) :
    exec data (.jumpEqual value whenTrue whenFalse :: program) 0 accumulator =
      exec data program (if accumulator = value then whenTrue else whenFalse)
        accumulator := rfl

theorem exec_jumpSet (value : Word) (whenTrue whenFalse : Nat) :
    exec data (.jumpSet value whenTrue whenFalse :: program) 0 accumulator =
      exec data program (if accumulator &&& value ≠ 0 then whenTrue else whenFalse)
        accumulator := rfl

/-- Return `verdict` if the accumulator holds `value`. -/
def guarded (value verdict : Word) : List Instruction :=
  [.jumpEqual value 0 1, .ret verdict]

theorem exec_guarded (value verdict : Word) :
    exec data (guarded value verdict ++ program) 0 accumulator =
      if accumulator = value then some verdict else exec data program 0 accumulator := by
  simp only [guarded, List.cons_append, List.nil_append, exec_jumpEqual]
  by_cases equal : accumulator = value
  · rw [if_pos equal, if_pos equal, exec_ret]
  · rw [if_neg equal, if_neg equal, exec_skip]

/-- The first entry whose value the accumulator holds. -/
def firstMatch (entries : List (Word × Word)) (accumulator : Word) : Option Word :=
  (entries.find? fun entry => accumulator == entry.1).map (·.2)

/-- A sequence of guarded returns is a table lookup. -/
theorem exec_table (entries : List (Word × Word)) :
    exec data ((entries.flatMap fun entry => guarded entry.1 entry.2) ++ program) 0
        accumulator =
      match firstMatch entries accumulator with
      | some verdict => some verdict
      | none => exec data program 0 accumulator := by
  induction entries with
  | nil => rfl
  | cons entry entries ih =>
      rw [List.flatMap_cons, List.append_assoc, exec_guarded]
      by_cases equal : accumulator = entry.1
      · rw [if_pos equal]
        simp [firstMatch, equal]
      · rw [if_neg equal, ih]
        simp [firstMatch, equal]

end PkgexecLinux.Foundation.Bpf

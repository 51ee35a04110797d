import Mathlib.Data.List.Basic

/-!
# System-call answers and pipes

The nondeterminism of the kernel is carried by an `Answer`, which a schedule
supplies with every system call.  What an answer means is computed from the
state of the kernel object, so that a schedule cannot invent bytes, an end of
file or a missing writer.
-/

namespace PkgexecLinux.Kernel

/-- How the kernel completes one system call. -/
inductive Answer where
  /-- The call does its work, for a transfer on as many bytes as it can. -/
  | done
  /-- A transfer that moves at most this many bytes. -/
  | count (bytes : Nat)
  /-- `EINTR`. -/
  | interrupted
  /-- Any other error number. -/
  | refused (errno : Nat)
  /-- The call succeeds, but storing its result throws. -/
  | exhausted
  deriving DecidableEq, Repr

/-- Number of bytes moved when at most `limit` can be. -/
def Answer.transfer (limit : Nat) : Answer → Nat
  | .count bytes => max 1 (min bytes limit)
  | _ => limit

/-- Outcome of `read(2)` on a nonblocking descriptor. -/
inductive ReadResult where
  | data (bytes : List UInt8)
  | endOfFile
  | again
  | interrupted
  | failed (errno : Nat)
  deriving DecidableEq, Repr

/-- Bytes accepted and not yet read, and the number of open write ends outside
the reading process. -/
structure Pipe where
  buffer : List UInt8
  writers : Nat
  deriving DecidableEq, Repr

namespace Pipe

/-- A read that is neither interrupted nor refused.  A read of length zero
returns zero, which a caller cannot tell from an end of file. -/
def readReady (pipe : Pipe) (capacity : Nat) (answer : Answer) : ReadResult × Pipe :=
  if capacity = 0 then
    (.endOfFile, pipe)
  else if pipe.buffer = [] then
    if pipe.writers = 0 then (.endOfFile, pipe) else (.again, pipe)
  else
    let size := answer.transfer (min capacity pipe.buffer.length)
    (.data (pipe.buffer.take size), { pipe with buffer := pipe.buffer.drop size })

/-- `read(2)` into `capacity` bytes. -/
def read (pipe : Pipe) (capacity : Nat) : Answer → ReadResult × Pipe
  | .interrupted => (.interrupted, pipe)
  | .refused errno => (.failed errno, pipe)
  | answer => pipe.readReady capacity answer

/-- Append bytes written by a holder of a write end. -/
def accept (pipe : Pipe) (bytes : List UInt8) : Pipe :=
  { pipe with buffer := pipe.buffer ++ bytes }

/-- Drop `count` write ends. -/
def release (pipe : Pipe) (count : Nat) : Pipe :=
  { pipe with writers := pipe.writers - count }

/-- Everything a read can do.  Data is a nonempty prefix of the buffer; an end
of file needs an empty buffer without writers, or a read of length zero. -/
inductive ReadSpec (pipe : Pipe) (capacity : Nat) (answer : Answer) :
    ReadResult → Pipe → Prop where
  | interrupted : answer = .interrupted →
      ReadSpec pipe capacity answer .interrupted pipe
  | failed (errno : Nat) : answer = .refused errno →
      ReadSpec pipe capacity answer (.failed errno) pipe
  | endOfFile : capacity = 0 ∨ (pipe.buffer = [] ∧ pipe.writers = 0) →
      ReadSpec pipe capacity answer .endOfFile pipe
  | again : pipe.buffer = [] → pipe.writers ≠ 0 →
      ReadSpec pipe capacity answer .again pipe
  | data (bytes rest : List UInt8) : bytes ≠ [] → bytes.length ≤ capacity →
      pipe.buffer = bytes ++ rest →
      ReadSpec pipe capacity answer (.data bytes) { pipe with buffer := rest }

theorem transfer_pos {limit : Nat} (answer : Answer) (positive : 0 < limit) :
    0 < answer.transfer limit := by
  cases answer <;> simp only [Answer.transfer] <;> omega

theorem transfer_le {limit : Nat} (answer : Answer) (positive : 0 < limit) :
    answer.transfer limit ≤ limit := by
  cases answer <;> simp only [Answer.transfer] <;> omega

private theorem readReady_spec (pipe : Pipe) (capacity : Nat) (answer : Answer) :
    ReadSpec pipe capacity answer (pipe.readReady capacity answer).1
      (pipe.readReady capacity answer).2 := by
  unfold readReady
  split
  next zero => exact .endOfFile (.inl zero)
  next nonzero =>
    split
    next empty =>
      split
      next closed => exact .endOfFile (.inr ⟨empty, closed⟩)
      next opened => exact .again empty opened
    next filled =>
      have positive : 0 < min capacity pipe.buffer.length := by
        have := List.length_pos_iff.mpr filled
        omega
      have lower := transfer_pos answer positive
      have upper := transfer_le answer positive
      refine .data _ _ ?_ ?_ (List.take_append_drop _ _).symm
      · intro empty
        have := congrArg List.length empty
        simp only [List.length_take, List.length_nil] at this
        omega
      · simp only [List.length_take]
        omega

/-- Specification of `read`. -/
theorem read_spec (pipe : Pipe) (capacity : Nat) (answer : Answer) :
    ReadSpec pipe capacity answer (pipe.read capacity answer).1
      (pipe.read capacity answer).2 := by
  cases answer with
  | interrupted => exact .interrupted rfl
  | refused errno => exact .failed errno rfl
  | done => exact readReady_spec pipe capacity .done
  | count bytes => exact readReady_spec pipe capacity (.count bytes)
  | exhausted => exact readReady_spec pipe capacity .exhausted

end Pipe

end PkgexecLinux.Kernel

import PkgexecLinux.Supervisor.Loop

/-!
# Draining a stream

`drain_fd` serves both captured streams.  This module names the stream that a
step of it works on and says once what one of its reads can do.
-/

namespace PkgexecLinux.Supervisor

open Kernel Process

/-- A stream that the supervisor drains. -/
inductive CaptureStream where
  | output
  | error
  deriving DecidableEq, Repr

namespace Locals

def opened (locals : Locals) : CaptureStream → Bool
  | .output => locals.outputOpen
  | .error => locals.errorOpen

def material (locals : Locals) : CaptureStream → List UInt8
  | .output => locals.outputMaterial
  | .error => locals.errorMaterial

def close (locals : Locals) : CaptureStream → Locals
  | .output => { locals with outputOpen := false }
  | .error => { locals with errorOpen := false }

def append (locals : Locals) (bytes : List UInt8) : CaptureStream → Locals
  | .output => { locals with outputMaterial := locals.outputMaterial ++ bytes }
  | .error => { locals with errorMaterial := locals.errorMaterial ++ bytes }

end Locals

namespace CaptureStream

/-- The place at which a stream is drained. -/
def place : CaptureStream → Place
  | .output => .drainOutput
  | .error => .drainError

/-- The place after the draining of a stream. -/
def next : CaptureStream → Place
  | .output => .drainError
  | .error => .readControl

end CaptureStream

namespace System

def pipe (system : System) : CaptureStream → Pipe
  | .output => system.output
  | .error => system.error

def setPipe (system : System) (pipe : Pipe) : CaptureStream → System
  | .output => { system with output := pipe }
  | .error => { system with error := pipe }

/-- One read of `drain_fd`, for either stream. -/
def drainFd (system : System) (answer : Answer) (stream : CaptureStream) : System :=
  if system.locals.opened stream then
    match (system.pipe stream).read drainSize answer with
    | (.data bytes, pipe) =>
        if answer = .exhausted then system.goto .threw
        else (system.setPipe pipe stream).set (system.locals.append bytes stream)
    | (.endOfFile, _) => (system.set (system.locals.close stream)).goto stream.next
    | (.again, _) => system.goto stream.next
    | (.interrupted, _) => system
    | (.failed _, _) =>
        (system.set { system.locals.close stream with captureFailed := true }).goto stream.next
  else
    system.goto stream.next

theorem drainOutput_eq (system : System) (answer : Answer) :
    system.drainOutput answer = system.drainFd answer .output := rfl

theorem drainError_eq (system : System) (answer : Answer) :
    system.drainError answer = system.drainFd answer .error := rfl

end System

/-- Everything one read of `drain_fd` can do. -/
inductive DrainStep (system : System) (answer : Answer) (stream : CaptureStream) :
    System → Prop where
  | retry : DrainStep system answer stream system
  /-- The stream is closed, or there is nothing to read. -/
  | pass : DrainStep system answer stream (system.goto stream.next)
  | throw : answer = .exhausted → system.locals.opened stream = true →
      (system.pipe stream).buffer ≠ [] →
      DrainStep system answer stream (system.goto .threw)
  | take (bytes rest : List UInt8) : (system.pipe stream).buffer = bytes ++ rest →
      DrainStep system answer stream
        ((system.setPipe { system.pipe stream with buffer := rest } stream).set
          (system.locals.append bytes stream))
  | ended : (system.pipe stream).buffer = [] → (system.pipe stream).writers = 0 →
      DrainStep system answer stream
        ((system.set (system.locals.close stream)).goto stream.next)
  | failed : DrainStep system answer stream
      ((system.set { system.locals.close stream with captureFailed := true }).goto stream.next)

/-- Specification of `drain_fd`. -/
theorem drainFd_spec (system : System) (answer : Answer) (stream : CaptureStream) :
    DrainStep system answer stream (system.drainFd answer stream) := by
  have spec := (system.pipe stream).read_spec System.drainSize answer
  unfold System.drainFd
  split
  next opened =>
    split
    next bytes pipe result =>
      rw [result] at spec
      cases spec with
      | data _ rest nonempty fits cut =>
          split
          next full => exact .throw full opened (by simp [cut, nonempty])
          next => exact .take bytes rest cut
    next result =>
      rw [result] at spec
      cases spec with
      | endOfFile ended =>
          rcases ended with zero | ⟨empty, closed⟩
          · simp [System.drainSize] at zero
          · exact .ended empty closed
    next => exact .pass
    next => exact .retry
    next => exact .failed
  next => exact .pass

end PkgexecLinux.Supervisor

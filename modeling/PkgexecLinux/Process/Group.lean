import PkgexecLinux.Kernel.Pipe
import PkgexecLinux.Kernel.Process

/-!
# Scanning and signalling the execution's process group

Models of `process_ids`, `process_group_of`, `signal_process_group_members`,
`wait_process_group_members_gone` and `cleanup_group`.  Each function is a small
machine that makes one system call per step, so that other processes may fork,
exit and be reaped between any two of its calls.  The numeric group and the
leader's id coincide in every call of the backend, and are the table's `leader`.
-/

namespace PkgexecLinux.Process

open Kernel

inductive Signal where
  | sigterm
  | sigkill
  deriving DecidableEq, Repr

/-- `ESRCH`. -/
def noSuchProcess : Nat := 3

/-- Local state of `process_ids`: the position in the process directory and the
ids pushed so far. -/
structure Listing where
  cursor : Nat
  result : List Nat
  deriving DecidableEq, Repr

inductive ListingStep where
  | more (listing : Listing)
  | finished (ids : List Nat)
  | failed
  deriving DecidableEq, Repr

def Listing.start : Listing := ⟨0, []⟩

/-- One `readdir` of `process_ids`.  A failing directory stream and a throwing
`push_back` both make the function return false. -/
def Listing.step (table : ProcessTable) (state : LeaderState) (listing : Listing) :
    Answer → ListingStep
  | .refused _ => .failed
  | .exhausted => .failed
  | _ =>
      match table.next state listing.cursor with
      | some pid => .more ⟨pid, listing.result ++ [pid]⟩
      | none => .finished listing.result

/-- `process_group_of`: opening or reading the `stat` file may fail. -/
def processGroupOf (table : ProcessTable) (pid : Nat) : Answer → Option Nat
  | .refused _ => none
  | .exhausted => none
  | _ => table.groupOf pid

/-! ## `wait_process_group_members_gone` -/

inductive WaitPhase where
  | listing (listing : Listing)
  | inspecting (ids : List Nat)
  | found
  deriving DecidableEq, Repr

structure GroupWait where
  deadline : Nat
  phase : WaitPhase
  deriving DecidableEq, Repr

inductive WaitStep where
  | running (wait : GroupWait)
  | returned (gone : Bool)
  deriving DecidableEq, Repr

namespace GroupWait

def start (clock timeout : Nat) : GroupWait :=
  ⟨clock + timeout, .listing Listing.start⟩

/-- One system call of `wait_process_group_members_gone`. -/
def step (table : ProcessTable) (state : LeaderState) (clock : Nat)
    (wait : GroupWait) (answer : Answer) : WaitStep :=
  match wait.phase with
  | .listing listing =>
      match listing.step table state answer with
      | .more listing => .running { wait with phase := .listing listing }
      | .finished ids => .running { wait with phase := .inspecting ids }
      | .failed => .returned false
  | .inspecting [] => .returned true
  | .inspecting (process :: rest) =>
      if process = table.leader then
        .running { wait with phase := .inspecting rest }
      else
        match processGroupOf table process answer with
        | some group =>
            if group = table.leader then .running { wait with phase := .found }
            else .running { wait with phase := .inspecting rest }
        | none => .running { wait with phase := .inspecting rest }
  | .found =>
      if wait.deadline ≤ clock then .returned false
      else .running { wait with phase := .listing Listing.start }

end GroupWait

/-! ## `signal_process_group_members` -/

inductive PassPhase where
  | listing (listing : Listing)
  | inspecting (ids : List Nat)
  | opening (process : Nat) (rest : List Nat)
  | confirming (process birth : Nat) (rest : List Nat)
  | sending (birth : Nat) (rest : List Nat)
  | leader
  deriving DecidableEq, Repr

/-- Local state of `signal_process_group_members`. -/
structure SignalPass where
  signal : Signal
  complete : Bool
  phase : PassPhase
  deriving DecidableEq, Repr

/-- `process_group_signal_result`. -/
structure SignalResult where
  complete : Bool
  leaderSignaled : Bool
  deriving DecidableEq, Repr

inductive PassStep where
  /-- `delivered` is the process, if any, to which this call delivered the
  signal. -/
  | running (pass : SignalPass) (delivered : Option Nat)
  | returned (result : SignalResult)
  deriving DecidableEq, Repr

namespace SignalPass

def start (signal : Signal) : SignalPass :=
  ⟨signal, true, .listing Listing.start⟩

/-- `complete` after a pidfd call failed: only `ESRCH` is tolerated. -/
def tolerate (pass : SignalPass) (errno : Nat) : Bool :=
  pass.complete && errno == noSuchProcess

/-- `pidfd_open`; a pidfd is the identity of the process it was opened for. -/
def openPidfd (table : ProcessTable) (process : Nat) : Answer → Except Nat Nat
  | .refused errno => .error errno
  | _ =>
      match table.find process with
      | some found => .ok found.birth
      | none => .error noSuchProcess

/-- `pidfd_send_signal` to a process other than the leader. -/
def sendPidfdSignal (table : ProcessTable) (birth : Nat) : Answer → Except Nat Unit
  | .refused errno => .error errno
  | _ =>
      if table.entries.any fun process => process.birth == birth then .ok ()
      else .error noSuchProcess

/-- `pidfd_send_signal` to the leader, which may succeed until it is reaped. -/
def sendLeaderSignal (state : LeaderState) : Answer → Except Nat Unit
  | .refused errno => .error errno
  | _ => if state = .gone then .error noSuchProcess else .ok ()

/-- One system call of `signal_process_group_members`. -/
def step (table : ProcessTable) (state : LeaderState) (pass : SignalPass)
    (answer : Answer) : PassStep :=
  match pass.phase with
  | .listing listing =>
      match listing.step table state answer with
      | .more listing => .running { pass with phase := .listing listing } none
      | .finished ids => .running { pass with phase := .inspecting ids } none
      | .failed => .running { pass with complete := false, phase := .leader } none
  | .inspecting [] => .running { pass with phase := .leader } none
  | .inspecting (process :: rest) =>
      if process = table.leader then
        .running { pass with phase := .inspecting rest } none
      else if processGroupOf table process answer = some table.leader then
        .running { pass with phase := .opening process rest } none
      else
        .running { pass with phase := .inspecting rest } none
  | .opening process rest =>
      match openPidfd table process answer with
      | .ok birth => .running { pass with phase := .confirming process birth rest } none
      | .error errno =>
          .running { pass with
            complete := pass.tolerate errno, phase := .inspecting rest } none
  | .confirming process birth rest =>
      if processGroupOf table process answer = some table.leader then
        .running { pass with phase := .sending birth rest } none
      else
        .running { pass with phase := .inspecting rest } none
  | .sending birth rest =>
      match sendPidfdSignal table birth answer with
      | .ok _ => .running { pass with phase := .inspecting rest } (some birth)
      | .error errno =>
          .running { pass with
            complete := pass.tolerate errno, phase := .inspecting rest } none
  | .leader =>
      match sendLeaderSignal state answer with
      | .ok _ => .returned ⟨pass.complete, true⟩
      | .error errno => .returned ⟨pass.tolerate errno, false⟩

end SignalPass

/-! ## `cleanup_group` -/

inductive CleanupPhase where
  | probe
  | terminate
  | afterTerminate (attempt : Nat)
  | kill
  | afterKill (attempt : Nat)
  deriving DecidableEq, Repr

inductive CleanupStep where
  /-- `sent` holds the signal of a `kill(-group, ...)`, with its recipients. -/
  | running (phase : CleanupPhase) (sent : Option (Signal × List Nat))
  | returned (gone : Bool)
  deriving DecidableEq, Repr

/-- Processes reached by a signal to the numeric group. -/
def groupRecipients (table : ProcessTable) : List Nat :=
  (table.entries.filter fun process => process.group == table.leader).map (·.birth)

/-- One system call of `cleanup_group`, which runs after the leader has been
reaped and addresses the group by its number. -/
def cleanupGroupStep (table : ProcessTable) (state : LeaderState) :
    CleanupPhase → CleanupStep
  | .probe =>
      if table.vacant state then .returned true else .running .terminate none
  | .terminate =>
      .running (.afterTerminate 0) (some (.sigterm, groupRecipients table))
  | .afterTerminate attempt =>
      if attempt < 20 then
        if table.vacant state then .returned true
        else .running (.afterTerminate (attempt + 1)) none
      else
        .running .kill none
  | .kill => .running (.afterKill 0) (some (.sigkill, groupRecipients table))
  | .afterKill attempt =>
      if attempt < 100 then
        if table.vacant state then .returned true
        else .running (.afterKill (attempt + 1)) none
      else
        .returned false

end PkgexecLinux.Process

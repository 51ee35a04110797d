import PkgexecLinux.Capability.NetworkProbe
import PkgexecLinux.Capability.RealizationProbe
import PkgexecLinux.Filesystem.HostShape
import PkgexecLinux.Filesystem.Undisturbed
import PkgexecLinux.Foundation.Stages
import PkgexecLinux.Network.Policy
import PkgexecLinux.Supervisor.Outcome
import PkgexecLinux.Supervisor.Streams

/-!
# What the setup makes of the child

`child_main` as one sequence of stages on all that the kernel keeps for the child: its
session and limits, its descriptors, its view of the filesystem, its network, its
capabilities and its filter.  Each stage is the model of the function that it calls.
-/

namespace PkgexecLinux.Supervisor

open Foundation
open Containment (Task ResourceLimits SetrlimitRule Headers Rlimit LimitTable rlimInfinity
  rlimitNofile)
open Filesystem (IsolatedAdmission Tree LogicalPath PrivateRoot Location HostTree MountKernel
  ResourceBinding HostRequest Credentials)
open Network (NetworkPolicy NamespaceScript)
open Process (RangeCalls)

/-! ## The configuration and the child -/

/-- Where the program is to run: on the host, in the directory of its working resource, or
in an admitted view, at the mount point of its working resource. -/
inductive Surroundings where
  | host (workingDirectory : List Char)
  | isolated (admission : IsolatedAdmission Tree) (workingDirectory : LogicalPath)

def Surroundings.isIsolated : Surroundings → Bool
  | .host _ => false
  | .isolated _ _ => true

/-- `child_configuration`, without the interpreter and what it is given. -/
structure ChildConfiguration where
  streams : StreamPolicies
  fileCreationMask : UInt32
  surroundings : Surroundings
  network : NetworkPolicy
  limits : ResourceLimits

/-- What the kernel answers to the calls of the setup, an error number if a call fails. -/
structure ChildKernel where
  setsid : Option UInt32
  nullPath : Nat → Inode
  /-- What `errno` holds when a stream cannot be set up. -/
  streamErrno : UInt32
  host : HostTree
  mount : MountKernel
  namespaces : NamespaceScript
  /-- A reason of its own for `chdir` to fail. -/
  chdir : Option Nat
  capset : Option Nat
  ambient : Option Nat
  refuses : SetrlimitRule
  headers : Headers
  noNewPrivileges : Option UInt32
  filter : Option UInt32
  ranges : RangeCalls

/-- The directory that a process is in. -/
inductive Directory where
  | host (location : List Filesystem.Name)
  | view (location : Location)

/-- What the kernel keeps for the child.  `view` and `namespaces` are none while they are
those of the host, `directory` while it is the caller's. -/
structure ChildState where
  task : Task
  descriptors : Descriptors
  view : Option PrivateRoot
  namespaces : Option NamespaceScript
  creationMask : UInt32
  directory : Option Directory
  capabilities : Bool
  noNewPrivileges : Bool
  filter : Option (List Bpf.Instruction)

/-- How a stage ends the setup: with a report, or in a call that never returns. -/
inductive SetupEnd where
  | failed (value detail : UInt32)
  | blocked
  deriving DecidableEq, Repr

/-! ## The stages -/

/-- `sysconf(_SC_OPEN_MAX)`: the soft limit, or that there is none. -/
def openMaximum (limit : Rlimit) : Int :=
  if limit.soft = rlimInfinity then -1 else limit.soft.toNat

/-- Descriptors as the child with these limits meets them. -/
def ChildKernel.world (kernel : ChildKernel) (limits : LimitTable) : ChildWorld where
  limit := (limits rlimitNofile).soft.toNat
  nullPath := kernel.nullPath
  calls := kernel.ranges
  maximum := openMaximum (limits rlimitNofile)

/-- `limits->empty()`. -/
def isEmpty (limits : ResourceLimits) : Bool :=
  limits.addressSpaceBytes.isNone && limits.fileSizeBytes.isNone && limits.openFiles.isNone

/-- The number of a stage of `setup_resource_limits`. -/
def limitStageCode : Containment.SetupStage → UInt32
  | .addressSpace => 0
  | .fileSize => 1
  | .openFiles => 2

/-- `chdir` in a view: the path is looked up from its root. -/
def changeIn (view : PrivateRoot) (logical : LogicalPath) : Except Nat Location :=
  match view.table.walk logical.names view.root with
  | .error errno => .error errno
  | .ok location =>
      match view.table.treeAt location with
      | some tree => if tree.isDirectory then .ok location else .error tree.notDirectory
      | none => .error Tree.enoent

namespace ChildKernel

variable (kernel : ChildKernel)

def startSession (state : ChildState) : Except SetupEnd ChildState :=
  match kernel.setsid with
  | some errno => .error (.failed errno 0)
  | none => .ok { state with task := state.task.setsid }

def setUpStreams (policies : StreamPolicies) (numbers : Numbers) (state : ChildState) :
    Except SetupEnd ChildState :=
  match setStreams (kernel.world state.task.limits) policies numbers state.descriptors with
  | none => .error (.failed kernel.streamErrno 0)
  | some descriptors => .ok { state with descriptors }

def realizeView (admission : IsolatedAdmission Tree) (state : ChildState) :
    Except SetupEnd ChildState :=
  match Filesystem.createPrivateRoot kernel.mount id admission with
  | .error failure =>
      .error (.failed (UInt32.ofNat failure.error) (Capability.mountStageCode failure.stage))
  | .ok view => .ok { state with view := some view }

def isolateNetwork (policy : NetworkPolicy) (state : ChildState) : Except SetupEnd ChildState :=
  match Network.setupNetworkPolicy policy kernel.namespaces with
  | .returned (some failure) =>
      .error (.failed (Capability.errorBits failure.error) (Capability.stageCode failure.stage))
  | .returned none =>
      .ok { state with namespaces := if policy = .allowed then none else some kernel.namespaces }
  | .blocked | .fault | .unfinished => .error .blocked

/-- `chdir` to the working directory. -/
def changeDirectory (surroundings : Surroundings) (view : Option PrivateRoot) :
    Except Nat Directory :=
  match kernel.chdir, surroundings, view with
  | some errno, _, _ => .error errno
  | none, .host text, _ => (kernel.host.chdir text).map .host
  | none, .isolated _ logical, some view => (changeIn view logical).map .view
  | none, .isolated _ _, none => .error Tree.enoent

/-- `umask` and `chdir`. -/
def enterDirectory (configuration : ChildConfiguration) (state : ChildState) :
    Except SetupEnd ChildState :=
  match kernel.changeDirectory configuration.surroundings state.view with
  | .error errno => .error (.failed (UInt32.ofNat errno) 0)
  | .ok directory =>
      .ok { state with
        creationMask := configuration.fileCreationMask &&& 0o777
        directory := some directory }

def dropCapabilities (state : ChildState) : Except SetupEnd ChildState :=
  if Capability.dropProcessCapabilities kernel.capset kernel.ambient then
    .ok { state with capabilities := false }
  else
    .error (.failed (UInt32.ofNat ((kernel.capset.or kernel.ambient).getD 0)) 0)

def limitResources (limits : ResourceLimits) (state : ChildState) :
    Except SetupEnd ChildState :=
  match Containment.setupResourceLimits kernel.refuses limits state.task.limits with
  | .error failure =>
      .error (.failed (UInt32.ofNat failure.error) (limitStageCode failure.stage))
  | .ok table => .ok { state with task := { state.task with limits := table } }

def contain (limits : ResourceLimits) (state : ChildState) : Except SetupEnd ChildState :=
  match Containment.installProcessGroupContainment kernel.headers kernel.noNewPrivileges.isNone
      kernel.filter.isNone (!isEmpty limits) with
  | none => .error (.failed ((kernel.noNewPrivileges.or kernel.filter).getD 0) 0)
  | some filter => .ok { state with noNewPrivileges := true, filter := some filter }

/-- The stages of the isolated backend alone, before and after `chdir`. -/
def isolationStages (configuration : ChildConfiguration) :
    List (NamedStage ChildStage ChildState SetupEnd) :=
  match configuration.surroundings with
  | .host _ => []
  | .isolated admission _ =>
      [⟨.mountIsolation, kernel.realizeView admission⟩,
        ⟨.networkIsolation, kernel.isolateNetwork configuration.network⟩]

def capabilityStages (configuration : ChildConfiguration) :
    List (NamedStage ChildStage ChildState SetupEnd) :=
  match configuration.surroundings with
  | .host _ => []
  | .isolated _ _ => [⟨.capabilityDrop, kernel.dropCapabilities⟩]

/-- The setup of `child_main`. -/
def stages (configuration : ChildConfiguration) (numbers : Numbers) :
    List (NamedStage ChildStage ChildState SetupEnd) :=
  [⟨.processGroup, kernel.startSession⟩,
    ⟨.standardStreams, kernel.setUpStreams configuration.streams numbers⟩] ++
    (kernel.isolationStages configuration ++
      (⟨.workingDirectory, kernel.enterDirectory configuration⟩ ::
        (kernel.capabilityStages configuration ++
          [⟨.resourceLimits, kernel.limitResources configuration.limits⟩,
            ⟨.containment, kernel.contain configuration.limits⟩])))

/-- The child from its fork to the end of its setup. -/
def setUp (configuration : ChildConfiguration) (numbers : Numbers) (forked : ChildState) :
    Except (Halt ChildStage ChildState SetupEnd) ChildState :=
  NamedStage.runAll (kernel.stages configuration numbers)
    { forked with descriptors := closeUnused numbers forked.descriptors }

/-- The descriptors that the child calls `execveat` with. -/
def executedDescriptors (numbers : Numbers) (state : ChildState) : Descriptors :=
  Process.closeFdsExcept kernel.ranges (openMaximum (state.task.limits rlimitNofile))
    numbers.controlWrite numbers.interpreter
    ((state.descriptors.close numbers.readyWrite).close numbers.startRead)

/-- Those of the program: without the ones that close on `exec`. -/
def programDescriptors (numbers : Numbers) (state : ChildState) : Descriptors :=
  (kernel.executedDescriptors numbers state).exec

end ChildKernel

end PkgexecLinux.Supervisor

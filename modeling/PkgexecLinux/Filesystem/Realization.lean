import PkgexecLinux.Filesystem.Mount

/-!
# Realization of an admission

`create_private_root`: the mounts it creates, attaches and seals, and the checks
it makes on the way.  Each system call may fail with any errno.
-/

namespace PkgexecLinux.Filesystem

open Foundation

/-! ## Stages and system calls -/

/-- `mount_setup_stage`, as far as `create_private_root` reports it. -/
inductive MountStage where
  | mountNamespace
  | privatePropagation
  | scratchMount
  | rootTree
  | resourceTree
  | inputNamespace
  | deviceFilesystem
  | rootEntry
  deriving DecidableEq, Repr

/-- `mount_setup_failure`. -/
structure MountFailure where
  stage : MountStage
  error : Nat
  deriving DecidableEq, Repr

/-- The system calls, with the mount that they are made for. -/
inductive MountCall where
  | cloneTree (id : MountId)
  | sealTree (id : MountId)
  | unshare
  | makePrivate
  | mountTmpfs (id : MountId)
  | mkdir (id : MountId) (name : Name)
  | openTarget
  | attachTree (id : MountId)
  | openAttachedRoot
  | lstatDevice
  | mknodNull
  | chmodNull
  | openDestination (id : MountId)
  | statDestination (id : MountId)
  | openVisible (id : MountId)
  | statVisible (id : MountId)
  | openNamespace (id : MountId)
  | sealNamespace (id : MountId)
  | fchdir
  | chroot
  | chdir
  deriving DecidableEq, Repr

/-- What the kernel decides: which calls fail for a reason of their own, such as missing
privileges, exhausted memory or the limits on the length of a name and of a path, and the
inodes that it gives to what is created. -/
structure MountKernel where
  fault : MountCall → Option Nat
  tmpfsRoot : MountId → Inode
  created : MountId → Name → Inode
  /-- What `errno` holds when `lstat` succeeds. -/
  staleErrno : Nat

def einval : Nat := 22
def estale : Nat := 116

def rootName : Name := ['r', 'o', 'o', 't']
def deviceName : Name := ['d', 'e', 'v']
def nullName : Name := ['n', 'u', 'l', 'l']

/-- A call that fails only for a reason of its own. -/
def attempt (kernel : MountKernel) (stage : MountStage) (call : MountCall) :
    Except MountFailure Unit :=
  match kernel.fault call with
  | none => .ok ()
  | some errno => .error ⟨stage, errno⟩

/-- The result of a call, reported at a stage. -/
def staged {Value : Type} (stage : MountStage) : Except Nat Value → Except MountFailure Value
  | .ok value => .ok value
  | .error errno => .error ⟨stage, errno⟩

/-- A check with `same_inode`, which does not tell a failed `fstat` from another
inode. -/
def expectInode (kernel : MountKernel) (stage : MountStage) (call : MountCall)
    (table : Table) (location : Location) (expected : Inode) : Except MountFailure Unit :=
  if (kernel.fault call).isNone && table.sameInode location expected then .ok ()
  else .error ⟨stage, estale⟩

/-! ## Detached trees -/

/-- `seal_tree` on a clone: it sets or clears each of these attributes. -/
def sealTree (tree : Tree) (access : Access) : Mount where
  tree := tree
  readOnly := access == .readOnly
  noSuid := true
  noDev := true
  noExec := false

/-- `clone_tree` and `seal_tree`. -/
def realizeTree (kernel : MountKernel) (stage : MountStage) (id : MountId) (tree : Tree)
    (access : Access) (table : Table) : Except MountFailure Table := do
  attempt kernel stage (.cloneTree id)
  attempt kernel stage (.sealTree id)
  return table.set id (sealTree tree access)

/-- `attach_tree`. -/
def attachTree (kernel : MountKernel) (stage : MountStage) (id : MountId)
    (location : Location) (table : Table) : Except MountFailure Table := do
  attempt kernel stage (.attachTree id)
  return table.attach id location

/-! ## Paths below the scratch directory -/

/-- An empty tmpfs. -/
def tmpfs (kernel : MountKernel) (id : MountId) : Tree :=
  .directory (kernel.tmpfsRoot id) []

/-- `mount` of a tmpfs on a path below the scratch directory. -/
def mountTmpfs (kernel : MountKernel) (stage : MountStage) (id : MountId) (mount : Mount)
    (path : List Name) (table : Table) : Except MountFailure Table := do
  attempt kernel stage (.mountTmpfs id)
  let location ← staged stage (table.openBeneath MountId.scratch.top path)
  return (table.set id mount).attach id location

/-- `mkdir` or `mknod` of a name in a directory below the scratch directory. -/
def makeEntry (kernel : MountKernel) (stage : MountStage) (call : MountCall)
    (path : List Name) (name : Name) (entry : Tree) (table : Table) :
    Except MountFailure Table := do
  attempt kernel stage call
  let location ← staged stage (table.openBeneath MountId.scratch.top path)
  staged stage (table.create location name entry)

/-! ## The root -/

/-- The scratch tmpfs; where the scratch directory is on the host is left out. -/
def mountScratch (kernel : MountKernel) (table : Table) : Except MountFailure Table := do
  attempt kernel .scratchMount (.mountTmpfs .scratch)
  return table.set .scratch
    { tree := tmpfs kernel .scratch, readOnly := false, noSuid := true, noDev := true,
      noExec := false }

/-- The directory of the root, which may exist. -/
def makeRootDirectory (kernel : MountKernel) (table : Table) : Except MountFailure Table :=
  match makeEntry kernel .scratchMount (.mkdir .scratch rootName) [] rootName
      (.directory (kernel.created .scratch rootName) []) table with
  | .ok made => .ok made
  | .error failure => if failure.error = Tree.eexist then .ok table else .error failure

def attachRoot (kernel : MountKernel) (table : Table) : Except MountFailure Table := do
  attempt kernel .rootTree .openTarget
  let target ← staged .rootTree (table.openBeneath MountId.scratch.top [rootName])
  attachTree kernel .rootTree .root target table

def openAttachedRoot (kernel : MountKernel) (table : Table) :
    Except MountFailure Location := do
  attempt kernel .rootTree .openAttachedRoot
  staged .rootTree (table.openBeneath MountId.scratch.top [rootName])

/-! ## Devices -/

/-- The `lstat` of `/dev`; when it succeeds on something else than a directory,
`errno` is what an earlier call has left. -/
def checkDevice (kernel : MountKernel) (table : Table) : Except MountFailure Unit := do
  attempt kernel .deviceFilesystem .lstatDevice
  let location ← staged .deviceFilesystem
    (table.walk [rootName, deviceName] MountId.scratch.top)
  match table.treeAt location with
  | some (.directory ..) => .ok ()
  | _ =>
      .error ⟨.deviceFilesystem,
        if kernel.staleErrno = 0 then Tree.enotdir else kernel.staleErrno⟩

/-- The private `/dev` with its `null`. -/
def mountDevices (kernel : MountKernel) (table : Table) : Except MountFailure Table := do
  checkDevice kernel table
  let table ← mountTmpfs kernel .deviceFilesystem .devices
    { tree := tmpfs kernel .devices, readOnly := false, noSuid := true, noDev := false,
      noExec := true }
    [rootName, deviceName] table
  let table ← makeEntry kernel .deviceFilesystem .mknodNull [rootName, deviceName] nullName
    (.other (kernel.created .devices nullName)) table
  attempt kernel .deviceFilesystem .chmodNull
  return table

/-! ## Input namespaces -/

def IsolatedNamespace.id (value : IsolatedNamespace) : MountId :=
  .inputNamespace value.logicalPath.names

/-- The mount of an input namespace. -/
def namespaceMount (kernel : MountKernel) (value : IsolatedNamespace) : Mount where
  tree := tmpfs kernel value.id
  readOnly := false
  noSuid := true
  noDev := true
  noExec := true

/-- The `mkdir` of a child of a namespace. -/
def makeChild (kernel : MountKernel) (value : IsolatedNamespace) (table : Table)
    (child : Name) : Except MountFailure Table :=
  makeEntry kernel .inputNamespace (.mkdir value.id child) (rootName :: value.logicalPath.names)
    child (.directory (kernel.created value.id child) []) table

/-- One iteration of the loop that mounts the namespaces. -/
def mountNamespace (kernel : MountKernel) (root : Location) (table : Table)
    (value : IsolatedNamespace) : Except MountFailure Table := do
  attempt kernel .inputNamespace (.openDestination value.id)
  let destination ← staged .inputNamespace (table.openBeneath root value.logicalPath.names)
  expectInode kernel .inputNamespace (.statDestination value.id) table destination
    value.targetIdentity
  let table ← mountTmpfs kernel .inputNamespace value.id (namespaceMount kernel value)
    (rootName :: value.logicalPath.names) table
  value.children.foldlM (makeChild kernel value) table

/-- `seal_namespace_mount`: the descriptor must be at the root of its mount. -/
def Table.sealNamespaceMount (table : Table) (location : Location) : Except Nat Table :=
  match location.path, table.mounts location.mount with
  | [], some mount =>
      .ok (table.set location.mount
        { mount with readOnly := true, noSuid := true, noDev := true, noExec := true })
  | _, _ => .error einval

/-- One iteration of the loop that seals the namespaces. -/
def sealNamespace (kernel : MountKernel) (root : Location) (table : Table)
    (value : IsolatedNamespace) : Except MountFailure Table := do
  attempt kernel .inputNamespace (.openNamespace value.id)
  let location ← staged .inputNamespace (table.openBeneath root value.logicalPath.names)
  attempt kernel .inputNamespace (.sealNamespace value.id)
  staged .inputNamespace (table.sealNamespaceMount location)

/-! ## Resources -/

section Bindings

variable {Dir : Type}

def IsolatedBinding.id (binding : IsolatedBinding Dir) : MountId :=
  .resource binding.logicalPath.names

/-- The detached tree of a binding. -/
def realizeBinding (kernel : MountKernel) (view : Dir → Tree) (table : Table)
    (binding : IsolatedBinding Dir) : Except MountFailure Table :=
  realizeTree kernel .resourceTree binding.id (view binding.source) binding.access table

/-- The destination of an input resource has been created by the realization. -/
def checkDestination (kernel : MountKernel) (table : Table) (destination : Location)
    (binding : IsolatedBinding Dir) : Except MountFailure Unit :=
  if binding.syntheticDestination then .ok ()
  else
    expectInode kernel .resourceTree (.statDestination binding.id) table destination
      binding.targetIdentity

/-- One iteration of the loop that attaches the resources. -/
def attachBinding (kernel : MountKernel) (root : Location) (table : Table)
    (binding : IsolatedBinding Dir) : Except MountFailure Table := do
  attempt kernel .resourceTree (.openDestination binding.id)
  let destination ← staged .resourceTree (table.openBeneath root binding.logicalPath.names)
  checkDestination kernel table destination binding
  let table ← attachTree kernel .resourceTree binding.id destination table
  attempt kernel .resourceTree (.openVisible binding.id)
  let visible ← staged .resourceTree (table.openBeneath root binding.logicalPath.names)
  expectInode kernel .resourceTree (.statVisible binding.id) table visible
    binding.sourceIdentity
  return table

/-! ## The whole realization -/

/-- The mounts and the root directory that the child is left with. -/
structure PrivateRoot where
  table : Table
  root : Location

/-- The mounts before any destination of the request is touched. -/
def prepareRoot (kernel : MountKernel) (view : Dir → Tree)
    (admission : IsolatedAdmission Dir) : Except MountFailure Table := do
  let table ← realizeTree kernel .rootTree .root (view admission.rootSource) .readOnly .empty
  let table ← admission.bindings.foldlM (realizeBinding kernel view) table
  attempt kernel .mountNamespace .unshare
  attempt kernel .privatePropagation .makePrivate
  let table ← mountScratch kernel table
  let table ← makeRootDirectory kernel table
  attachRoot kernel table

/-- `fchdir`, `chroot` and `chdir`: the directory that has been entered becomes the root. -/
def enterRoot (kernel : MountKernel) (attached : Location) : Except MountFailure Location := do
  attempt kernel .rootEntry .fchdir
  let working := attached
  attempt kernel .rootEntry .chroot
  let root := working
  attempt kernel .rootEntry .chdir
  return root

/-- `create_private_root`; `view` is the tree of each admitted directory. -/
def createPrivateRoot (kernel : MountKernel) (view : Dir → Tree)
    (admission : IsolatedAdmission Dir) : Except MountFailure PrivateRoot := do
  let table ← prepareRoot kernel view admission
  let attachedRoot ← openAttachedRoot kernel table
  let table ← mountDevices kernel table
  let table ← admission.namespaces.foldlM (mountNamespace kernel attachedRoot) table
  let table ← admission.bindings.foldlM (attachBinding kernel attachedRoot) table
  let table ← admission.namespaces.foldlM (sealNamespace kernel attachedRoot) table
  let root ← enterRoot kernel attachedRoot
  return ⟨table, root⟩

end Bindings

/-- The mount points before those of the request. -/
def basePoints : List (Location × MountId) :=
  [(⟨.scratch, [rootName]⟩, .root), (⟨.root, [deviceName]⟩, .devices)]

theorem staged_eq_ok {Value : Type} {stage : MountStage} {result : Except Nat Value}
    {value : Value} : staged stage result = .ok value ↔ result = .ok value := by
  cases result with
  | ok other => simp [staged]
  | error errno => simp [staged]

end PkgexecLinux.Filesystem

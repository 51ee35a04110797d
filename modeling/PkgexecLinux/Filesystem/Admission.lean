import Mathlib.Data.List.Dedup
import Mathlib.Data.List.Lex
import Mathlib.Data.List.Sort
import Mathlib.Data.Char
import PkgexecLinux.Foundation.Checks
import PkgexecLinux.Filesystem.Path

/-!
# Admission of isolated resources

`admit_isolated_resources` over the directory calls of the kernel.  Handles of
opened directories are opaque, and the calls made for one binding may be answered
differently from those made for another, so that the host may change meanwhile.
-/

namespace PkgexecLinux.Filesystem

open Foundation

/-- `inode_identity`. -/
structure Inode where
  device : Nat
  inode : Nat
  deriving DecidableEq, Repr

/-- `pkgexec::resource_role`. -/
inductive Role where
  | sourceTree
  | buildInputTree
  | checkInputTree
  | packageTree
  | buildWorkspace
  | packageOutputRoot
  | privateTemporaryRoot
  | managedTargetRoot
  deriving DecidableEq, Repr

/-- `pkgexec::resource_access`. -/
inductive Access where
  | readOnly
  | writable
  deriving DecidableEq, Repr

/-- A mount point of the request: absolute and canonical. -/
structure LogicalPath where
  names : List Name
  canonical : ∀ name ∈ names, name ≠ [] ∧ Path.Plain name
  deriving DecidableEq

def LogicalPath.path (logical : LogicalPath) : Path := .ofNames logical.names

/-- A resource binding of the request, with the host path that its resource was
materialized at. -/
structure ResourceBinding where
  role : Role
  access : Access
  mountPoint : LogicalPath
  hostPath : Path
  deriving DecidableEq

/-- What `admit_isolated_resources` throws: a text, or an operation with its
errno. -/
inductive AdmissionError where
  | invalid (text : String)
  | system (operation : String) (errno : Nat)
  deriving DecidableEq, Repr

/-- The directory calls of the kernel. -/
structure DirectoryCalls (Dir : Type) where
  openExactPath : Path → Except Nat Dir
  openBeneath : Dir → Path → Except Nat Dir
  identityOf : Dir → Except AdmissionError Inode
  writableByCurrentCredentials : Dir → Bool
  directoryIsEmpty : Dir → Except AdmissionError Bool
  makeScratch : Except AdmissionError Path

structure IsolatedBinding (Dir : Type) where
  source : Dir
  sourceIdentity : Inode
  targetIdentity : Inode
  access : Access
  logicalPath : Path
  syntheticDestination : Bool

structure IsolatedNamespace where
  logicalPath : Path
  targetIdentity : Inode
  children : List Name
  deriving DecidableEq, Repr

structure IsolatedAdmission (Dir : Type) where
  rootSource : Dir
  bindings : List (IsolatedBinding Dir)
  namespaces : List IsolatedNamespace
  scratch : Path

/-- The local vectors of `admit_isolated_resources`. -/
structure AdmissionState (Dir : Type) where
  logicalPaths : List Path
  hostPaths : List Path
  sourceIdentities : List Inode
  admitted : List (IsolatedBinding Dir)
  namespaces : List IsolatedNamespace

def AdmissionState.initial (Dir : Type) : AdmissionState Dir := ⟨[], [], [], [], []⟩

/-! ## The checks -/

/-- Throw unless the condition holds. -/
def require (condition : Bool) (text : String) : Except AdmissionError Unit :=
  if condition then .ok () else .error (.invalid text)

/-- The result of a call that sets errno. -/
def checked {Value : Type} (operation : String) : Except Nat Value → Except AdmissionError Value
  | .ok value => .ok value
  | .error errno => .error (.system operation errno)

/-- Roles that must be read-only. -/
def Role.isInputOrSource : Role → Bool
  | .sourceTree | .buildInputTree | .checkInputTree | .packageTree => true
  | .buildWorkspace | .packageOutputRoot | .privateTemporaryRoot | .managedTargetRoot => false

/-- Roles that must be writable. -/
def Role.isOutput : Role → Bool
  | .buildWorkspace | .packageOutputRoot | .privateTemporaryRoot | .managedTargetRoot => true
  | .sourceTree | .buildInputTree | .checkInputTree | .packageTree => false

/-- `is_input_role`. -/
def Role.isInput : Role → Bool
  | .buildInputTree | .checkInputTree => true
  | .sourceTree | .packageTree | .buildWorkspace | .packageOutputRoot
  | .privateTemporaryRoot | .managedTargetRoot => false

/-- `validate_role_access`. -/
def validateRoleAccess (binding : ResourceBinding) : Except AdmissionError Unit := do
  require (!(binding.role.isInputOrSource && binding.access != .readOnly))
    "source, package, and package-input resources must be read-only"
  require (!(binding.role.isOutput && binding.access != .writable))
    "workspace, output, temporary, and target resources must be writable"

/-- `/dev`. -/
def devicePath : Path := .ofNames [['d', 'e', 'v']]

/-- Neither path contains the other. -/
def apart (left right : Path) : Bool := !(pathContains left right || pathContains right left)

/-- The namespace of an input resource's parent, with the child added. -/
def addChild (namespaces : List IsolatedNamespace) (parent : Path) (identity : Inode)
    (child : Name) : Except AdmissionError (List IsolatedNamespace) :=
  match namespaces.find? fun value => value.logicalPath = parent with
  | none => .ok (namespaces ++ [⟨parent, identity, [child]⟩])
  | some found =>
      if found.targetIdentity = identity then
        .ok (namespaces.map fun value =>
          if value.logicalPath = parent then
            { value with children := value.children ++ [child] }
          else value)
      else
        .error (.invalid "root input namespace changed during admission")

section Loop

variable {Dir : Type}

/-- The destination of an input resource is a child of a private namespace. -/
def admitInput (calls : DirectoryCalls Dir) (root : Dir)
    (namespaces : List IsolatedNamespace) (logical : Path) :
    Except AdmissionError (List IsolatedNamespace) := do
  let parent := logical.parentPath
  let child := logical.filename
  require (!(parent == .root || child.isEmpty))
    "input resource mount point requires a dedicated parent namespace"
  let targetParent ← checked "open root input namespace" (calls.openBeneath root parent)
  let empty ← calls.directoryIsEmpty targetParent
  require empty "root input namespace must be empty"
  let identity ← calls.identityOf targetParent
  addChild namespaces parent identity child

/-- The destination of any other resource exists in the root view. -/
def admitTarget (calls : DirectoryCalls Dir) (root : Dir) (logical : Path) :
    Except AdmissionError Inode := do
  let target ← checked "open root resource destination" (calls.openBeneath root logical)
  calls.identityOf target

/-- The part of one iteration that checks the paths. -/
def checkPaths (rootPath : Path) (state : AdmissionState Dir) (binding : ResourceBinding) :
    Except AdmissionError Unit := do
  validateRoleAccess binding
  let logical := binding.mountPoint.path
  require (logical != .root) "execution resources cannot replace the root view"
  require (!pathContains devicePath logical)
    "execution resources cannot occupy backend-owned /dev"
  require (state.logicalPaths.all fun existing => apart existing logical)
    "resource logical mount points cannot overlap"
  let host := binding.hostPath.lexicallyNormal
  require (apart rootPath host) "execution resource host paths cannot overlap the root view"
  require (state.hostPaths.all fun existing => apart existing host)
    "resource host paths cannot overlap"

/-- The source directory of a binding and its identity. -/
def admitSource (calls : DirectoryCalls Dir) (state : AdmissionState Dir)
    (binding : ResourceBinding) : Except AdmissionError (Dir × Inode) := do
  let source ← checked "open exact execution resource"
    (calls.openExactPath binding.hostPath.lexicallyNormal)
  let identity ← calls.identityOf source
  require (!state.sourceIdentities.contains identity)
    "multiple resources resolve to the same directory"
  require (!(binding.access == .writable && !calls.writableByCurrentCredentials source))
    "writable execution resource is not writable by current credentials"
  return (source, identity)

/-- The input namespaces after a binding. -/
def admitNamespaces (calls : DirectoryCalls Dir) (root : Dir) (state : AdmissionState Dir)
    (binding : ResourceBinding) : Except AdmissionError (List IsolatedNamespace) :=
  if binding.role.isInput then admitInput calls root state.namespaces binding.mountPoint.path
  else .ok state.namespaces

/-- The identity of a binding's destination; an input resource has none. -/
def admitTargetIdentity (calls : DirectoryCalls Dir) (root : Dir)
    (binding : ResourceBinding) : Except AdmissionError Inode :=
  if binding.role.isInput then .ok ⟨0, 0⟩
  else admitTarget calls root binding.mountPoint.path

/-- One iteration of `admit_isolated_resources`. -/
def admitBinding (calls : DirectoryCalls Dir) (root : Dir) (rootPath : Path)
    (state : AdmissionState Dir) (binding : ResourceBinding) :
    Except AdmissionError (AdmissionState Dir) := do
  checkPaths rootPath state binding
  let (source, sourceIdentity) ← admitSource calls state binding
  let namespaces ← admitNamespaces calls root state binding
  let targetIdentity ← admitTargetIdentity calls root binding
  return {
    logicalPaths := state.logicalPaths ++ [binding.mountPoint.path]
    hostPaths := state.hostPaths ++ [binding.hostPath.lexicallyNormal]
    sourceIdentities := state.sourceIdentities ++ [sourceIdentity]
    admitted := state.admitted ++ [⟨source, sourceIdentity, targetIdentity,
      binding.access, binding.mountPoint.path, binding.role.isInput⟩]
    namespaces := namespaces }

/-- The loop; `index` counts the bindings. -/
def admitBindings (views : Nat → DirectoryCalls Dir) (root : Dir) (rootPath : Path) :
    Nat → AdmissionState Dir → List ResourceBinding →
      Except AdmissionError (AdmissionState Dir)
  | _, state, [] => .ok state
  | index, state, binding :: bindings => do
      let next ← admitBinding (views index) root rootPath state binding
      admitBindings views root rootPath (index + 1) next bindings

/-- Sorting, and the removal of equal neighbours. -/
def sortedChildren (children : List Name) : List Name :=
  (children.insertionSort (· ≤ ·)).dedup

/-- `admit_isolated_resources`. -/
def admitIsolatedResources (views : Nat → DirectoryCalls Dir) (rootView : Path)
    (bindings : List ResourceBinding) : Except AdmissionError (IsolatedAdmission Dir) := do
  let rootPath := rootView.lexicallyNormal
  require (rootPath != .root)
    "isolated execution requires a dedicated root-view directory"
  let root ← checked "open exact root view" ((views 0).openExactPath rootPath)
  let _ ← (views 0).identityOf root
  let state ← admitBindings views root rootPath 1 (.initial Dir) bindings
  let scratch ← (views (bindings.length + 1)).makeScratch
  return ⟨root, state.admitted,
    state.namespaces.map fun value =>
      { value with children := sortedChildren value.children },
    scratch⟩

end Loop

/-! ## What an admission has checked -/

theorem require_eq_ok {condition : Bool} {text : String} {nothing : Unit} :
    require condition text = .ok nothing ↔ condition = true := by
  unfold require
  split
  next holds => simp [holds]
  next fails => simp [fails]

theorem checked_eq_ok {Value : Type} {operation : String} {result : Except Nat Value}
    {value : Value} : checked operation result = .ok value ↔ result = .ok value := by
  cases result with
  | ok other => simp [checked]
  | error errno => simp [checked]

section Inversion

variable {Dir : Type} {calls : DirectoryCalls Dir} {root : Dir} {rootPath : Path}
variable {state next : AdmissionState Dir} {binding : ResourceBinding}

/-- The paths of a binding are apart from those of the root and of the bindings
before it. -/
structure PathsChecked (rootPath : Path) (state : AdmissionState Dir)
    (binding : ResourceBinding) : Prop where
  notRoot : binding.mountPoint.path ≠ .root
  notDevice : pathContains devicePath binding.mountPoint.path = false
  logicalApart : ∀ existing ∈ state.logicalPaths,
    apart existing binding.mountPoint.path = true
  rootApart : apart rootPath binding.hostPath.lexicallyNormal = true
  hostApart : ∀ existing ∈ state.hostPaths,
    apart existing binding.hostPath.lexicallyNormal = true

theorem checkPaths_ok {nothing : Unit} (done : checkPaths rootPath state binding = .ok nothing) :
    PathsChecked rootPath state binding := by
  simp only [checkPaths, bind_eq_ok, require_eq_ok, bne_iff_ne, Bool.not_eq_true',
    List.all_eq_true] at done
  rcases done with ⟨_, _, _, notRoot, _, notDevice, _, logicalApart, _, rootApart, hostApart⟩
  exact ⟨notRoot, notDevice, logicalApart, rootApart, hostApart⟩

/-- Everything an iteration of the loop has established. -/
structure AdmitsBinding (calls : DirectoryCalls Dir) (root : Dir) (rootPath : Path)
    (state : AdmissionState Dir) (binding : ResourceBinding) (source : Dir)
    (sourceIdentity targetIdentity : Inode) (namespaces : List IsolatedNamespace) :
    Prop where
  paths : PathsChecked rootPath state binding
  opened : calls.openExactPath binding.hostPath.lexicallyNormal = .ok source
  identified : calls.identityOf source = .ok sourceIdentity
  input : binding.role.isInput = true →
    admitInput calls root state.namespaces binding.mountPoint.path = .ok namespaces
  other : binding.role.isInput = false → namespaces = state.namespaces ∧
    admitTarget calls root binding.mountPoint.path = .ok targetIdentity

/-- The state after an iteration. -/
def AdmissionState.add (state : AdmissionState Dir) (binding : ResourceBinding)
    (source : Dir) (sourceIdentity targetIdentity : Inode)
    (namespaces : List IsolatedNamespace) : AdmissionState Dir where
  logicalPaths := state.logicalPaths ++ [binding.mountPoint.path]
  hostPaths := state.hostPaths ++ [binding.hostPath.lexicallyNormal]
  sourceIdentities := state.sourceIdentities ++ [sourceIdentity]
  admitted := state.admitted ++ [⟨source, sourceIdentity, targetIdentity,
    binding.access, binding.mountPoint.path, binding.role.isInput⟩]
  namespaces := namespaces

theorem admitBinding_ok (done : admitBinding calls root rootPath state binding = .ok next) :
    ∃ source sourceIdentity targetIdentity namespaces,
      AdmitsBinding calls root rootPath state binding source sourceIdentity
        targetIdentity namespaces ∧
      next = state.add binding source sourceIdentity targetIdentity namespaces := by
  simp only [admitBinding, bind_eq_ok] at done
  rcases done with ⟨_, paths, ⟨source, sourceIdentity⟩, sourced, namespaces, spaced,
    targetIdentity, targeted, same⟩
  simp only [admitSource, bind_eq_ok, checked_eq_ok] at sourced
  rcases sourced with ⟨opened, found, identity, identified, _, _, _, _, pair⟩
  cases pair
  refine ⟨source, sourceIdentity, targetIdentity, namespaces, ?_, ?_⟩
  · refine ⟨checkPaths_ok paths, found, identified, ?_, ?_⟩
    · intro input
      rw [admitNamespaces, if_pos input] at spaced
      exact spaced
    · intro other
      rw [admitNamespaces, other] at spaced
      rw [admitTargetIdentity, other] at targeted
      exact ⟨(Except.ok.inj spaced).symm, targeted⟩
  · exact (Except.ok.inj same).symm

end Inversion

section Run

variable {Dir : Type} {views : Nat → DirectoryCalls Dir} {root : Dir} {rootPath : Path}

/-- What every iteration preserves holds after the loop; `finished` are the bindings
before. -/
theorem admitBindings_run {Invariant : List ResourceBinding → AdmissionState Dir → Prop}
    (keeps : ∀ {finished index state binding source sourceIdentity targetIdentity namespaces},
      Invariant finished state →
      AdmitsBinding (views index) root rootPath state binding source sourceIdentity
        targetIdentity namespaces →
      Invariant (finished ++ [binding])
        (state.add binding source sourceIdentity targetIdentity namespaces))
    {finished bindings : List ResourceBinding} {index : Nat} {state last : AdmissionState Dir}
    (start : Invariant finished state)
    (done : admitBindings views root rootPath index state bindings = .ok last) :
    Invariant (finished ++ bindings) last := by
  induction bindings generalizing finished index state with
  | nil =>
      cases done
      rwa [List.append_nil]
  | cons binding bindings ih =>
      simp only [admitBindings, bind_eq_ok] at done
      rcases done with ⟨next, admitted, rest⟩
      rcases admitBinding_ok admitted with ⟨source, sourceIdentity, targetIdentity,
        namespaces, facts, rfl⟩
      have later := ih (keeps start facts) rest
      rwa [List.append_assoc, List.singleton_append] at later

end Run

end PkgexecLinux.Filesystem

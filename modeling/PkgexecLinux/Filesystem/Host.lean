import PkgexecLinux.Filesystem.Plan
import PkgexecLinux.Filesystem.Realization

/-!
# A host whose trees do not change

The directory calls of admission over trees, so that what was admitted is what the
realization clones, and what admission has seen of the trees.
-/

namespace PkgexecLinux.Filesystem

open Foundation

/-- The directory trees of a host, by their normal absolute paths. -/
structure Host where
  openExactPath : Path → Except Nat Tree
  writable : Tree → Bool
  makeScratch : Except AdmissionError Path

/-- `identity_of`, on a descriptor that can be examined. -/
def Tree.identityOf (tree : Tree) : Except AdmissionError Inode :=
  if tree.isDirectory then .ok tree.identity
  else .error (.invalid "root views and execution resources must be directories")

/-- The directory calls on such a host. -/
def Host.calls (host : Host) : DirectoryCalls Tree where
  openExactPath := host.openExactPath
  openBeneath := fun root path => root.openDirectory path.names
  identityOf := Tree.identityOf
  writableByCurrentCredentials := host.writable
  directoryIsEmpty := fun tree => .ok tree.entries.isEmpty
  makeScratch := host.makeScratch

theorem Tree.identityOf_eq_ok {tree : Tree} {identity : Inode} :
    tree.identityOf = .ok identity ↔ tree.isDirectory = true ∧ tree.identity = identity := by
  unfold Tree.identityOf
  split
  next directory => simp [directory]
  next other => simp [other]

/-- What admission has seen of the trees of a host. -/
structure Grounded (host : Host) (root : Tree) (request : List ResourceBinding)
    (bindings : List (IsolatedBinding Tree)) (namespaces : List IsolatedNamespace) : Prop where
  opened : ∀ binding ∈ request, ∃ admitted ∈ bindings, Admits binding admitted ∧
    host.openExactPath binding.hostPath.lexicallyNormal = .ok admitted.source
  sources : ∀ admitted ∈ bindings,
    admitted.source.isDirectory = true ∧ admitted.source.identity = admitted.sourceIdentity
  targets : ∀ admitted ∈ bindings, admitted.syntheticDestination = false →
    ∃ target, root.walk admitted.logicalPath.names = .ok target ∧
      target.isDirectory = true ∧ target.identity = admitted.targetIdentity
  parents : ∀ value ∈ namespaces, ∃ target, root.walk value.logicalPath.names = .ok target ∧
    target.isDirectory = true ∧ target.identity = value.targetIdentity ∧ target.entries = []

section Loop

variable {host : Host} {root : Tree} {rootPath : Path}

/-- The state of the loop after some bindings of the request. -/
def AdmissionState.Grounded (host : Host) (root : Tree) (finished : List ResourceBinding)
    (state : AdmissionState Tree) : Prop :=
  Filesystem.Grounded host root finished state.admitted state.namespaces

theorem grounded_initial : (AdmissionState.initial Tree).Grounded host root [] where
  opened := by simp
  sources := by simp [AdmissionState.initial]
  targets := by simp [AdmissionState.initial]
  parents := by simp [AdmissionState.initial]

theorem grounded_target {binding : ResourceBinding} {targetIdentity : Inode}
    (done : admitTarget host.calls root binding.mountPoint.path = .ok targetIdentity) :
    ∃ target, root.walk binding.mountPoint.path.names = .ok target ∧
      target.isDirectory = true ∧ target.identity = targetIdentity := by
  simp only [admitTarget, bind_eq_ok, checked_eq_ok] at done
  rcases done with ⟨target, opened, identified⟩
  have walked := Tree.openDirectory_eq_ok.mp opened
  have same := Tree.identityOf_eq_ok.mp identified
  exact ⟨target, walked.1, walked.2, same.2⟩

theorem grounded_parents {namespaces after : List IsolatedNamespace} {logical : Path}
    {target : Tree} {identity : Inode}
    (old : ∀ value ∈ namespaces, ∃ target, root.walk value.logicalPath.names = .ok target ∧
      target.isDirectory = true ∧ target.identity = value.targetIdentity ∧ target.entries = [])
    (input : AdmitsInput host.calls root namespaces logical target identity after) :
    ∀ value ∈ after, ∃ target, root.walk value.logicalPath.names = .ok target ∧
      target.isDirectory = true ∧ target.identity = value.targetIdentity ∧
      target.entries = [] := by
  intro value member
  rcases input.added.origin value member with ⟨earlier, inside, path, same, _⟩ | new
  · rw [path, same]
    exact old earlier inside
  · rw [new]
    have walked := Tree.openDirectory_eq_ok.mp input.opened
    have same := Tree.identityOf_eq_ok.mp input.identified
    have empty : target.entries.isEmpty = true := Except.ok.inj input.empty
    exact ⟨target, walked.1, walked.2, same.2, List.isEmpty_iff.mp empty⟩

theorem grounded_add {finished : List ResourceBinding} {state : AdmissionState Tree}
    {binding : ResourceBinding} {source : Tree} {sourceIdentity targetIdentity : Inode}
    {namespaces : List IsolatedNamespace} (grounded : state.Grounded host root finished)
    (admits : AdmitsBinding host.calls root rootPath state binding source sourceIdentity
      targetIdentity namespaces) :
    (state.add binding source sourceIdentity targetIdentity namespaces).Grounded host root
      (finished ++ [binding]) where
  opened := by
    intro candidate member
    rcases List.mem_append.mp member with old | new
    · rcases grounded.opened candidate old with ⟨admitted, inside, facts⟩
      exact ⟨admitted, List.mem_append_left _ inside, facts⟩
    · rw [List.mem_singleton.mp new]
      exact ⟨_, List.mem_append_right _ (List.mem_singleton_self _), ⟨rfl, rfl, rfl⟩,
        admits.opened⟩
  sources := by
    intro admitted member
    rcases List.mem_append.mp member with old | new
    · exact grounded.sources admitted old
    · rw [List.mem_singleton.mp new]
      exact Tree.identityOf_eq_ok.mp admits.identified
  targets := by
    intro admitted member other
    rcases List.mem_append.mp member with old | new
    · exact grounded.targets admitted old other
    · rw [List.mem_singleton.mp new] at other ⊢
      exact grounded_target (admits.other other).2
  parents := by
    cases input : binding.role.isInput with
    | false =>
        rw [AdmissionState.add, (admits.other input).1]
        exact grounded.parents
    | true =>
        rcases admitInput_ok (admits.input input) with ⟨target, identity, found⟩
        exact grounded_parents grounded.parents found

/-- What an admission has seen, and of which tree. -/
theorem admitIsolatedResources_grounded {rootView : Path} {request : List ResourceBinding}
    {admission : IsolatedAdmission Tree}
    (done : admitIsolatedResources (fun _ => host.calls) rootView request = .ok admission) :
    host.openExactPath rootView.lexicallyNormal = .ok admission.rootSource ∧
      Grounded host admission.rootSource request admission.bindings admission.namespaces := by
  simp only [admitIsolatedResources, bind_eq_ok, checked_eq_ok] at done
  rcases done with ⟨_, _, root, opened, _, _, state, admitted, _, _, same⟩
  cases same
  refine ⟨opened, ?_⟩
  have grounded := admitBindings_run grounded_add grounded_initial admitted
  rw [List.nil_append] at grounded
  refine ⟨grounded.opened, grounded.sources, grounded.targets, ?_⟩
  intro value member
  rcases List.mem_map.mp member with ⟨old, inside, rfl⟩
  exact grounded.parents old inside

end Loop

/-! ## A request with a resource of each kind -/

namespace Sample

def source : Name := ['s', 'r', 'c']
def inputs : Name := ['i', 'n']
def library : Name := ['l', 'i', 'b']
def work : Name := ['w', 'o', 'r', 'k']

/-- `/dev`, `/src`, an empty `/in` and `/work`. -/
def root : Tree :=
  .directory ⟨1, 1⟩ [
    (deviceName, .directory ⟨1, 2⟩ []),
    (source, .directory ⟨1, 3⟩ []),
    (inputs, .directory ⟨1, 4⟩ []),
    (work, .directory ⟨1, 5⟩ [])]

/-- The host keeps the resources beside the root view. -/
def host : Host where
  openExactPath := fun path =>
    if path = .ofNames [rootName] then .ok root
    else if path = .ofNames [source] then .ok (.directory ⟨2, 1⟩ [(library, .other ⟨2, 2⟩)])
    else if path = .ofNames [library] then .ok (.directory ⟨3, 1⟩ [])
    else if path = .ofNames [work] then .ok (.directory ⟨4, 1⟩ [])
    else .error Tree.enoent
  writable := fun _ => true
  makeScratch := .ok (.ofNames [['t', 'm', 'p']])

def request : List ResourceBinding := [
  ⟨.sourceTree, .readOnly, ⟨[source], by decide⟩, .ofNames [source]⟩,
  ⟨.buildInputTree, .readOnly, ⟨[inputs, library], by decide⟩, .ofNames [library]⟩,
  ⟨.buildWorkspace, .writable, ⟨[work], by decide⟩, .ofNames [work]⟩]

/-- The mount point of the workspace. -/
def workPath : LogicalPath := ⟨[work], by decide⟩

def admission : IsolatedAdmission Tree where
  rootSource := root
  bindings := [
    ⟨.directory ⟨2, 1⟩ [(library, .other ⟨2, 2⟩)], ⟨2, 1⟩, ⟨1, 3⟩, .readOnly,
      .ofNames [source], false⟩,
    ⟨.directory ⟨3, 1⟩ [], ⟨3, 1⟩, ⟨0, 0⟩, .readOnly, .ofNames [inputs, library], true⟩,
    ⟨.directory ⟨4, 1⟩ [], ⟨4, 1⟩, ⟨1, 5⟩, .writable, .ofNames [work], false⟩]
  namespaces := [⟨.ofNames [inputs], ⟨1, 4⟩, [library]⟩]
  scratch := .ofNames [['t', 'm', 'p']]

theorem admitted : admitIsolatedResources (fun _ => host.calls) (.ofNames [rootName]) request =
    .ok admission := by
  rfl

/-- A kernel on which no call fails. -/
def kernel : MountKernel where
  fault := fun _ => none
  tmpfsRoot := fun _ => ⟨5, 1⟩
  created := fun _ _ => ⟨5, 2⟩
  staleErrno := 0

end Sample

end PkgexecLinux.Filesystem

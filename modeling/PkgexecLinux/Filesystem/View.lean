import PkgexecLinux.Filesystem.Assembly
import PkgexecLinux.Filesystem.Resolution

/-!
# The realized view

What a program sees through the mounts of an undisturbed realization: exactly the
plan that was admitted, as far as the links of the root do not lead into it.
-/

namespace PkgexecLinux.Filesystem

open Foundation Foundation.PathWalk

/-- The object that a path leads to without links. -/
def Table.resolve (table : Table) (path : List Name) (location : Location) :
    Except Nat Tree :=
  match table.walk path location with
  | .ok found =>
      match table.treeAt found with
      | some tree => .ok tree
      | none => .error Tree.enoent
  | .error errno => .error errno

/-- The parent of an input resource's mount point. -/
def LogicalPath.parent (logical : LogicalPath) : List Name := logical.names.dropLast

/-! ## Links -/

def Tree.isSymlink : Tree → Bool
  | .symlink .. => true
  | .directory .. | .other _ => false

theorem Tree.unlinked_of_directory (tree : Tree) (directory : tree.isDirectory = true) :
    tree.isSymlink = false := by
  cases tree with
  | directory | other => rfl
  | symlink => cases directory

def Tree.sight : Tree → Sight Name
  | .directory .. => .directory true
  | .symlink _ target => .link (linkTarget target)
  | .other _ => .other

/-- What stands at each place of a root; the program may search its directories. -/
def Tree.shown (root : Tree) : View Name Nat := fun place => (root.walk place).map Tree.sight

/-- The kernel's resolution of the components of an absolute path in a root. -/
def Tree.passage (root : Tree) (follow : Bool) (components : List (Component Name)) :
    Passage Name Nat :=
  PathWalk.walk faults root.shown follow linkLimit [] components

/-- The object that the kernel resolves an absolute path to in a root. -/
def Tree.reach (root : Tree) (follow : Bool) (components : List (Component Name)) :
    Except Nat Tree :=
  match (root.passage follow components).result with
  | .ok found => root.walk found.location
  | .error errno => .error errno

/-- What stands at each place of a view, through its mounts. -/
def PrivateRoot.shown (view : PrivateRoot) : View Name Nat := fun place =>
  (view.table.resolve place view.root).map Tree.sight

/-- The kernel's resolution of the components of an absolute path in a view. -/
def PrivateRoot.passage (view : PrivateRoot) (follow : Bool)
    (components : List (Component Name)) : Passage Name Nat :=
  PathWalk.walk faults view.shown follow linkLimit [] components

/-- The object that the kernel resolves an absolute path to in a view. -/
def PrivateRoot.reach (view : PrivateRoot) (follow : Bool) (components : List (Component Name)) :
    Except Nat Tree :=
  match (view.passage follow components).result with
  | .ok found => view.table.resolve found.location view.root
  | .error errno => .error errno

/-- A place that is not at or below a binding, the parent of an input or `/dev`. -/
structure Outside (request : List ResourceBinding) (place : List Name) : Prop where
  device : ¬[deviceName] <+: place
  resources : ∀ binding ∈ request, ¬binding.mountPoint.names <+: place
  inputs : ∀ binding ∈ request, binding.role.isInput = true →
    ¬binding.mountPoint.parent <+: place

/-- The view that a request describes, on a host and over a root. -/
structure Realizes (host : Host) (root : Tree) (request : List ResourceBinding)
    (view : PrivateRoot) : Prop where
  /-- Each mount point leads to the root of a mount of the resource's own tree, with
  its access. -/
  resources : ∀ binding ∈ request, ∃ id mount,
    view.table.walk binding.mountPoint.names view.root = .ok id.top ∧
    view.table.mounts id = some mount ∧
    host.openExactPath binding.hostPath.lexicallyNormal = .ok mount.tree ∧
    mount.tree.isDirectory = true ∧ mount.readOnly = (binding.access == .readOnly)
  /-- What a path leads to without links, the kernel resolves it to. -/
  direct : ∀ path tree, view.table.resolve path view.root = .ok tree → tree.isSymlink = false →
    ∀ follow, (view.passage follow (path.map .entry)).result = .ok ⟨path, 0⟩ ∧
      view.reach follow (path.map .entry) = .ok tree
  /-- The parent of input resources has exactly their names. -/
  inputs : ∀ binding ∈ request, binding.role.isInput = true → ∃ tree,
    view.table.resolve binding.mountPoint.parent view.root = .ok tree ∧
    tree.isDirectory = true ∧
    ∀ name, (∃ entry, tree.child name = some entry) ↔
      ∃ other ∈ request, other.role.isInput = true ∧
        other.mountPoint.names = binding.mountPoint.parent ++ [name]
  /-- `/dev` is the private tmpfs, with only `null` in it. -/
  devices : view.table.walk [deviceName] view.root = .ok MountId.devices.top ∧
    ∃ identity null, view.table.resolve [deviceName] view.root =
      .ok (.directory identity [(nullName, .other null)])
  distinct : (view.table.attachments.map (·.1)).Nodup
  /-- Any other path that is walked without links is that of the root. -/
  unchanged : ∀ path, ¬[deviceName] <+: path →
    (∀ binding ∈ request, ¬binding.mountPoint.names <+: path) →
    (∀ binding ∈ request, binding.role.isInput = true →
      ¬binding.mountPoint.parent <+: path) →
    view.table.resolve path view.root = root.walk path
  /-- Links followed, any path that in the root leads over other places only is resolved as
  in the root. -/
  followed : ∀ follow components,
    (∀ place ∈ (root.passage follow components).seen, Outside request place) →
    view.passage follow components = root.passage follow components ∧
      view.reach follow components = root.reach follow components

/-! ## Resolution through the view -/

section Links

variable {view : PrivateRoot} {root : Tree}

theorem Table.resolve_eq_ok {table : Table} {path : List Name} {location : Location}
    {tree : Tree} : table.resolve path location = .ok tree ↔
      ∃ found, table.walk path location = .ok found ∧ table.treeAt found = some tree := by
  rw [resolve]
  cases table.walk path location with
  | error errno => simp
  | ok found =>
      cases shown : table.treeAt found with
      | none => simp [shown]
      | some tree => simp [shown]

/-- A walk to a longer path goes through a directory. -/
theorem Table.resolve_concat {table : Table} {path : List Name} {name : Name}
    {location : Location} {tree : Tree}
    (resolved : table.resolve (path ++ [name]) location = .ok tree) :
    ∃ parent, table.resolve path location = .ok parent ∧ parent.isDirectory = true := by
  rcases resolve_eq_ok.mp resolved with ⟨found, walked, _⟩
  rw [walk_append, bind_eq_ok] at walked
  rcases walked with ⟨middle, early, late⟩
  rcases walk_cons_ok late with ⟨next, entered, _⟩
  rcases (enter_ok entered).1 with ⟨parent, child, shown, inside⟩
  exact ⟨parent, resolve_eq_ok.mpr ⟨middle, early, shown⟩, (Tree.enter_eq_ok.mp inside).1⟩

/-- What is reached without links is reached by a direct way. -/
theorem PrivateRoot.direct_of_resolve {path : List Name} {tree : Tree}
    (resolved : view.table.resolve path view.root = .ok tree) (unlinked : tree.isSymlink = false) :
    Direct faults view.shown [] (path.map .entry) path := by
  induction path using List.reverseRecOn generalizing tree with
  | nil => exact .nil []
  | append_singleton path name ih =>
      rcases Table.resolve_concat resolved with ⟨parent, above, directory⟩
      have onward : Step faults view.shown path (.entry name) (path ++ [name]) := by
        have here : view.shown path = .ok (.directory true) := by
          cases parent with
          | directory => simp only [shown, above, Except.map, Tree.sight]
          | symlink | other => cases directory
        have there : view.shown (path ++ [name]) = .ok tree.sight := by
          simp only [shown, resolved, Except.map]
        cases tree with
        | symlink => cases unlinked
        | directory | other => simp [Step, advance, here, there, Tree.sight]
      have early := ih above (parent.unlinked_of_directory directory)
      rw [List.map_append]
      exact early.concat onward

theorem PrivateRoot.reach_of_resolve {path : List Name} {tree : Tree}
    (resolved : view.table.resolve path view.root = .ok tree) (unlinked : tree.isSymlink = false)
    (follow : Bool) :
    (view.passage follow (path.map .entry)).result = .ok ⟨path, 0⟩ ∧
      view.reach follow (path.map .entry) = .ok tree := by
  have led : (view.passage follow (path.map .entry)).result = .ok ⟨path, 0⟩ :=
    (view.direct_of_resolve resolved unlinked).walk linkLimit
  refine ⟨led, ?_⟩
  rw [reach, led]
  exact resolved

/-- Where view and root show the same, they resolve alike. -/
theorem PrivateRoot.passage_unchanged {follow : Bool} {components : List (Component Name)}
    (same : ∀ place ∈ (root.passage follow components).seen,
      view.table.resolve place view.root = root.walk place) :
    view.passage follow components = root.passage follow components ∧
      view.reach follow components = root.reach follow components := by
  have agree : view.passage follow components = root.passage follow components := by
    refine walk_agree linkLimit components [] ?_
    intro place member
    rw [shown, same place member, Tree.shown]
  refine ⟨agree, ?_⟩
  rw [reach, agree, Tree.reach]
  cases ended : (root.passage follow components).result with
  | error errno => rfl
  | ok found => exact same _ (walk_reached linkLimit components [] ended)

end Links

section Plan

variable {host : Host} {kernel : MountKernel} {root : Tree} {request : List ResourceBinding}
variable {bindings : List (IsolatedBinding Tree)} {namespaces : List IsolatedNamespace}
variable {table : Table}

theorem Table.resolve_top {path : List Name} {location : Location} {id : MountId}
    {mount : Mount} (walked : table.walk path location = .ok id.top)
    (mounted : table.mounts id = some mount) :
    table.resolve path location = .ok mount.tree := by
  rw [resolve, walked]
  simp only [treeAt_top mounted]

theorem namespaceTree_has {value : IsolatedNamespace} {children : List Name} {name : Name} :
    (∃ entry, (namespaceTree kernel value children).child name = some entry) ↔
      name ∈ children := by
  constructor
  · rintro ⟨entry, found⟩
    rw [Tree.child, Option.map_eq_some_iff] at found
    rcases found with ⟨pair, searched, _⟩
    have same : pair.1 = name := by simpa using List.find?_some searched
    have member := List.mem_of_find?_eq_some searched
    rcases List.mem_map.mp member with ⟨child, among, rfl⟩
    rwa [← same]
  · intro among
    exact ⟨_, namespaceTree_child among⟩

theorem Planned.resources (plan : Planned host kernel root request bindings namespaces)
    (stage : Stage kernel root bindings namespaces table)
    (attachments : table.attachments = mountPoints namespaces bindings)
    {binding : ResourceBinding} (member : binding ∈ request) :
    ∃ id mount, table.walk binding.mountPoint.names MountId.root.top = .ok id.top ∧
      table.mounts id = some mount ∧
      host.openExactPath binding.hostPath.lexicallyNormal = .ok mount.tree ∧
      mount.tree.isDirectory = true ∧ mount.readOnly = (binding.access == .readOnly) := by
  rcases plan.grounded.opened binding member with ⟨admitted, inside, admits, opened⟩
  have begun := begun_of_complete attachments
  have attached : (admitted.destination, admitted.id) ∈ table.attachments := by
    rw [attachments, mountPoints]
    exact List.mem_append_right _ (List.mem_map_of_mem (f := bindingPoint) inside)
  have walked := plan.walk_destination stage begun
    (fun _ among => namespacePoint_mem attachments among) inside
  rw [(plan.unstacked begun).cross_attached attached, admits.logicalPath] at walked
  refine ⟨admitted.id, _, walked, stage.resources admitted inside, opened,
    (plan.grounded.sources admitted inside).1, ?_⟩
  rw [sealTree, admits.access]

theorem Planned.inputs (plan : Planned host kernel root request bindings namespaces)
    (stage : Stage kernel root bindings namespaces table)
    (attachments : table.attachments = mountPoints namespaces bindings)
    {binding : ResourceBinding} (member : binding ∈ request)
    (input : binding.role.isInput = true) :
    ∃ tree, table.resolve binding.mountPoint.parent MountId.root.top = .ok tree ∧
      tree.isDirectory = true ∧
      ∀ name, (∃ entry, tree.child name = some entry) ↔
        ∃ other ∈ request, other.role.isInput = true ∧
          other.mountPoint.names = binding.mountPoint.parent ++ [name] := by
  -- The namespace of a request's input, and the child that it is.
  have located : ∀ {other : ResourceBinding}, other ∈ request → other.role.isInput = true →
      ∃ value ∈ namespaces, ∃ child ∈ value.children,
        other.mountPoint.names = value.logicalPath.names ++ [child] := by
    intro other inside isInput
    rcases plan.grounded.opened other inside with ⟨admitted, among, admits, _⟩
    have found := plan.shape.inputs admitted among (admits.synthetic.trans isInput)
    rw [admits.logicalPath] at found
    exact found
  rcases located member input with ⟨value, inside, child, _, names⟩
  have parent : binding.mountPoint.parent = value.logicalPath.names := by
    rw [LogicalPath.parent, names, List.dropLast_concat]
  have walked := plan.walk_namespace stage.rootMount (begun_of_complete attachments) inside
    (namespacePoint_mem attachments inside)
  rcases stage.namespaces value inside with ⟨mount, mounted, tree⟩
  refine ⟨mount.tree, ?_, by rw [tree]; rfl, ?_⟩
  · rw [parent]
    exact Table.resolve_top walked mounted
  · intro name
    rw [tree, namespaceTree_has, parent]
    constructor
    · intro among
      rcases plan.shape.children value inside name among with
        ⟨admitted, present, synthetic, path⟩
      rcases plan.shape.origin admitted present with ⟨other, requested, admits⟩
      refine ⟨other, requested, admits.synthetic.symm.trans synthetic, ?_⟩
      rw [admits.logicalPath] at path
      exact path
    · rintro ⟨other, requested, isInput, path⟩
      rcases located requested isInput with ⟨found, present, last, among, same⟩
      rw [path] at same
      rcases List.append_inj' same rfl with ⟨above, below⟩
      have this := plan.shape.namespace_eq inside present above
      cases below
      rw [this]
      exact among

theorem Planned.unchanged (plan : Planned host kernel root request bindings namespaces)
    (stage : Stage kernel root bindings namespaces table)
    (attachments : table.attachments = mountPoints namespaces bindings) {path : List Name}
    (offDevice : ¬[deviceName] <+: path)
    (offResources : ∀ binding ∈ request, ¬binding.mountPoint.names <+: path)
    (offInputs : ∀ binding ∈ request, binding.role.isInput = true →
      ¬binding.mountPoint.parent <+: path) :
    table.resolve path MountId.root.top = root.walk path := by
  have avoids : ∀ {point : List Name}, RootPoint namespaces bindings point →
      ¬point <+: path := by
    intro point mounted
    cases mounted with
    | devices => exact offDevice
    | @inputNamespace value inside =>
        rcases List.exists_mem_of_ne_nil _ (plan.shape.inhabited value inside) with
          ⟨child, among⟩
        rcases plan.shape.children value inside child among with
          ⟨admitted, present, synthetic, names⟩
        rcases plan.shape.origin admitted present with ⟨binding, requested, admits⟩
        have above := offInputs binding requested (admits.synthetic.symm.trans synthetic)
        rw [admits.logicalPath] at names
        have names : binding.mountPoint.names = value.logicalPath.names ++ [child] := names
        rwa [LogicalPath.parent, names, List.dropLast_concat] at above
    | @resource admitted present other =>
        rcases plan.shape.origin admitted present with ⟨binding, requested, admits⟩
        rw [admits.logicalPath]
        exact offResources binding requested
  have walked : table.walk path MountId.root.top =
      (root.walk path).map fun _ => ⟨.root, path⟩ := by
    have atTop : (sealTree root .readOnly).tree.lookup [] = some root := rfl
    apply Table.walk_uncovered stage.rootMount atTop path
    intro initial below nonempty attachment member same
    rw [attachments] at member
    have inRoot : attachment.1.mount = .root := by rw [same]
    have point := rootPoint_of_mem member inRoot
    rw [same] at point
    exact avoids point below
  rw [Table.resolve, walked]
  cases found : root.walk path with
  | error errno => rfl
  | ok tree =>
      have shown : table.treeAt ⟨.root, path⟩ = some tree := by
        rw [Table.treeAt, stage.rootMount]
        exact Tree.lookup_of_walk found
      simp only [Except.map, shown]

theorem Planned.realizes (plan : Planned host kernel root request bindings namespaces)
    (stage : Stage kernel root bindings namespaces table)
    (attachments : table.attachments = mountPoints namespaces bindings) :
    Realizes host root request ⟨table, MountId.root.top⟩ where
  resources := fun _ member => plan.resources stage attachments member
  inputs := fun _ member input => plan.inputs stage attachments member input
  devices := by
    have begun := begun_of_complete attachments
    have attached : (⟨.root, [deviceName]⟩, .devices) ∈ table.attachments := by
      rw [attachments, mountPoints]
      exact List.mem_append_left _ (List.mem_append_left _ (by simp [basePoints]))
    have walked := plan.walk_point stage.rootMount begun .devices
    rw [(plan.unstacked begun).cross_attached attached] at walked
    exact ⟨walked, _, _, Table.resolve_top walked stage.devices⟩
  distinct := by
    rw [attachments]
    exact plan.shape.nodup_mountPoints
  direct := fun _ _ resolved unlinked follow =>
    PrivateRoot.reach_of_resolve resolved unlinked follow
  unchanged := fun _ offDevice offResources offInputs =>
    plan.unchanged stage attachments offDevice offResources offInputs
  followed := fun _ _ outside => PrivateRoot.passage_unchanged fun place member =>
    plan.unchanged stage attachments (outside place member).device (outside place member).resources
      (outside place member).inputs

end Plan

/-- A plan that was admitted on a host with a `/dev` directory in the root, and that
nothing from outside disturbs, is realized exactly. -/
theorem admitted_plan_realized (host : Host) (kernel : MountKernel) (quiet : Quiet kernel)
    {rootView : Path} {request : List ResourceBinding} {admission : IsolatedAdmission Tree}
    {root device : Tree} (opened : host.openExactPath rootView.lexicallyNormal = .ok root)
    (present : root.enter deviceName = .ok device) (directory : device.isDirectory = true)
    (admitted : admitIsolatedResources (fun _ => host.calls) rootView request =
      .ok admission) :
    ∃ view, createPrivateRoot kernel id admission = .ok view ∧
      Realizes host root request view := by
  rcases admitIsolatedResources_grounded admitted with ⟨same, grounded⟩
  rw [opened] at same
  cases same
  have walked : admission.rootSource.walk [deviceName] = .ok device := by
    rw [Tree.walk, present]
    rfl
  have plan : Planned host kernel admission.rootSource request admission.bindings
      admission.namespaces :=
    ⟨admitIsolatedResources_shape admitted, grounded,
      fun _ member => admitIsolatedResources_children admitted member,
      ⟨device, walked, directory⟩, quiet⟩
  rcases plan.createPrivateRoot (Tree.enter_eq_ok.mp present).1 with
    ⟨table, created, stage, attachments⟩
  exact ⟨_, created, plan.realizes stage attachments⟩

theorem sample_plan_realized :
    ∃ view, createPrivateRoot Sample.kernel id Sample.admission = .ok view ∧
      Realizes Sample.host Sample.root Sample.request view :=
  admitted_plan_realized Sample.host Sample.kernel (fun _ => rfl) rfl rfl rfl Sample.admitted

/-! ## A link into a binding -/

namespace Linked

def link : Name := ['l', 'n', 'k']

def old : Name := ['o', 'l', 'd']

/-- `/dev`, `/work` with something in it, and a link `/lnk` to `work`. -/
def root : Tree :=
  .directory ⟨1, 1⟩ [
    (deviceName, .directory ⟨1, 2⟩ []),
    (Sample.work, .directory ⟨1, 5⟩ [(old, .other ⟨1, 6⟩)]),
    (link, .symlink ⟨1, 7⟩ Sample.work)]

def host : Host where
  openExactPath := fun path =>
    if path = .ofNames [rootName] then .ok root
    else if path = .ofNames [Sample.work] then .ok (.directory ⟨4, 1⟩ [])
    else .error Tree.enoent
  writable := fun _ => true
  makeScratch := .ok (.ofNames [['t', 'm', 'p']])

def request : List ResourceBinding := [
  ⟨.buildWorkspace, .writable, Sample.workPath, .ofNames [Sample.work]⟩]

def admission : IsolatedAdmission Tree where
  rootSource := root
  bindings := [
    ⟨.directory ⟨4, 1⟩ [], ⟨4, 1⟩, ⟨1, 5⟩, .writable, .ofNames [Sample.work], false⟩]
  namespaces := []
  scratch := .ofNames [['t', 'm', 'p']]

end Linked

/-- The path `/lnk/old` is at or below no mount point, and yet the link leads it into the
binding: it is an object of the root, and missing in the view. -/
theorem admitted_plan_behind_link :
    Quiet Sample.kernel ∧
      admitIsolatedResources (fun _ => Linked.host.calls) (.ofNames [rootName]) Linked.request =
        .ok Linked.admission ∧
      Linked.root.walk [deviceName] = .ok (.directory ⟨1, 2⟩ []) ∧
      Outside Linked.request [Linked.link, Linked.old] ∧
      Linked.root.reach true [.entry Linked.link, .entry Linked.old] = .ok (.other ⟨1, 6⟩) ∧
      ∃ view, createPrivateRoot Sample.kernel id Linked.admission = .ok view ∧
        view.reach true [.entry Linked.link, .entry Linked.old] = .error Tree.enoent := by
  refine ⟨fun _ => rfl, rfl, rfl, ⟨by decide, ?_, ?_⟩, rfl, _, rfl, rfl⟩
  · intro binding member
    rw [List.mem_singleton.mp member]
    decide
  · intro binding member input
    rw [List.mem_singleton.mp member] at input
    cases input

end PkgexecLinux.Filesystem

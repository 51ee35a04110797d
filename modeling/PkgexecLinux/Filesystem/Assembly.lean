import PkgexecLinux.Filesystem.Points

/-!
# Assembly of the view

On a host whose trees do not change, and when no call fails for a reason of its own,
every step of the realization of an admission passes its checks: the mounts are made
one after the other at the mount points of the admission, and none of them is in the
way of a later one.
-/

namespace PkgexecLinux.Filesystem

open Foundation

/-! ## Calls that do not fail -/

section Quiet

variable {kernel : MountKernel} {table : Table}

/-- No call fails for a reason of its own; missing privileges, exhausted memory and the limits
on the length of names and paths are such reasons. -/
def Quiet (kernel : MountKernel) : Prop := ∀ call, kernel.fault call = none

theorem attempt_quiet (quiet : Quiet kernel) (stage : MountStage) (call : MountCall) :
    attempt kernel stage call = .ok () := by
  rw [attempt, quiet call]

theorem expectInode_quiet (quiet : Quiet kernel) {stage : MountStage} {call : MountCall}
    {location : Location} {expected : Inode} {tree : Tree}
    (shown : table.treeAt location = some tree) (directory : tree.isDirectory = true)
    (same : tree.identity = expected) :
    expectInode kernel stage call table location expected = .ok () := by
  rw [expectInode, quiet call, Table.sameInode, shown]
  simp [directory, same]

theorem realizeTree_quiet (quiet : Quiet kernel) (stage : MountStage) (id : MountId)
    (tree : Tree) (access : Access) :
    realizeTree kernel stage id tree access table = .ok (table.set id (sealTree tree access)) := by
  simp only [realizeTree, bind_eq_ok]
  exact ⟨(), attempt_quiet quiet _ _, (), attempt_quiet quiet _ _, rfl⟩

theorem mountTmpfs_quiet (quiet : Quiet kernel) {stage : MountStage} {id : MountId}
    {mount : Mount} {path : List Name} {location : Location}
    (opened : table.openBeneath MountId.scratch.top path = .ok location) :
    mountTmpfs kernel stage id mount path table =
      .ok ((table.set id mount).attach id location) := by
  simp only [mountTmpfs, bind_eq_ok, staged_eq_ok]
  exact ⟨(), attempt_quiet quiet _ _, location, opened, rfl⟩

/-- A new name in the root directory of a mount. -/
theorem makeEntry_quiet (quiet : Quiet kernel) {stage : MountStage} {call : MountCall}
    {path : List Name} {id : MountId} {mount : Mount} {identity : Inode}
    {entries : List (Name × Tree)} (walked : table.walk path MountId.scratch.top = .ok id.top)
    (mounted : table.mounts id = some mount) (directory : mount.tree = .directory identity entries)
    (writable : mount.readOnly = false) {name : Name} (fresh : name ∉ entries.map (·.1))
    (entry : Tree) :
    makeEntry kernel stage call path name entry table = .ok (table.set id
      { mount with tree := .directory identity (entries ++ [(name, entry)]) }) := by
  have opened : table.openBeneath MountId.scratch.top path = .ok id.top := by
    rw [Table.openBeneath_eq_ok]
    refine ⟨walked, mount.tree, Table.treeAt_top mounted, ?_⟩
    rw [directory]
    rfl
  simp only [makeEntry, bind_eq_ok, staged_eq_ok]
  exact ⟨(), attempt_quiet quiet _ _, id.top, opened,
    Table.create_top mounted directory writable fresh entry⟩

end Quiet

/-! ## The mounts on the way -/

/-- The private `/dev` when it is complete. -/
def deviceTree (kernel : MountKernel) : Tree :=
  .directory (kernel.tmpfsRoot .devices) [(nullName, .other (kernel.created .devices nullName))]

def deviceMount (tree : Tree) : Mount where
  tree := tree
  readOnly := false
  noSuid := true
  noDev := false
  noExec := true

/-- An input namespace with some of its children. -/
def namespaceTree (kernel : MountKernel) (value : IsolatedNamespace) (children : List Name) :
    Tree :=
  .directory (kernel.tmpfsRoot value.id)
    (children.map fun child => (child, .directory (kernel.created value.id child) []))

/-- The mounts, with the namespaces mounted so far. -/
structure Stage (kernel : MountKernel) (root : Tree) (bindings : List (IsolatedBinding Tree))
    (mounted : List IsolatedNamespace) (table : Table) : Prop where
  rootMount : table.mounts .root = some (sealTree root .readOnly)
  scratch : ∃ mount entry, table.mounts .scratch = some mount ∧
    mount.tree.walk [rootName] = .ok entry
  devices : table.mounts .devices = some (deviceMount (deviceTree kernel))
  resources : ∀ binding ∈ bindings,
    table.mounts binding.id = some (sealTree binding.source binding.access)
  namespaces : ∀ value ∈ mounted, ∃ mount, table.mounts value.id = some mount ∧
    mount.tree = namespaceTree kernel value value.children

/-- An admission whose realization nothing from outside disturbs. -/
structure Planned (host : Host) (kernel : MountKernel) (root : Tree)
    (request : List ResourceBinding) (bindings : List (IsolatedBinding Tree))
    (namespaces : List IsolatedNamespace) : Prop where
  shape : Shape request bindings namespaces
  grounded : Grounded host root request bindings namespaces
  children : ∀ value ∈ namespaces, value.children.Nodup
  device : ∃ entry, root.walk [deviceName] = .ok entry ∧ entry.isDirectory = true
  quiet : Quiet kernel

section Plan

variable {host : Host} {kernel : MountKernel} {root : Tree} {request : List ResourceBinding}
variable {bindings : List (IsolatedBinding Tree)} {namespaces : List IsolatedNamespace}
variable {table : Table}

theorem Planned.unstacked (plan : Planned host kernel root request bindings namespaces)
    (begun : table.attachments <+: mountPoints namespaces bindings) :
    Unstacked table.attachments := by
  rcases begun with ⟨rest, points⟩
  have unstacked := plan.shape.unstacked
  rw [← points] at unstacked
  exact unstacked.of_append

/-- Every mount point of the root is a directory there. -/
theorem Planned.present (plan : Planned host kernel root request bindings namespaces)
    {path : List Name} (point : RootPoint namespaces bindings path) :
    path ≠ [] ∧ ∃ target, root.walk path = .ok target ∧ target.isDirectory = true := by
  cases point with
  | devices => exact ⟨by simp, plan.device⟩
  | @inputNamespace value member =>
      rcases plan.grounded.parents value member with ⟨target, walked, directory, _⟩
      exact ⟨(plan.shape.inside value member).2, target, walked, directory⟩
  | @resource binding member other =>
      rcases plan.grounded.targets binding member other with ⟨target, walked, directory, _⟩
      exact ⟨(plan.shape.offDevice binding member).inside, target, walked, directory⟩

/-- A mount point of the root resolves to what is attached there, at any time. -/
theorem Planned.walk_point (plan : Planned host kernel root request bindings namespaces)
    (rootMount : table.mounts .root = some (sealTree root .readOnly))
    (begun : table.attachments <+: mountPoints namespaces bindings) {path : List Name}
    (point : RootPoint namespaces bindings path) :
    table.walk path MountId.root.top = .ok (cross table.attachments ⟨.root, path⟩) := by
  rcases plan.present point with ⟨nonempty, target, present, _⟩
  apply Table.walk_cross rootMount nonempty present
  intro initial leads notEmpty notAll attachment member same
  have inRoot : attachment.1.mount = .root := by rw [same]
  have above := rootPoint_of_mem (begun.subset member) inRoot
  rw [same] at above
  exact notAll (eq_of_rootPoint_above plan.shape plan.grounded above point leads)

/-- An input namespace that is attached is found at its path. -/
theorem Planned.walk_namespace (plan : Planned host kernel root request bindings namespaces)
    (rootMount : table.mounts .root = some (sealTree root .readOnly))
    (begun : table.attachments <+: mountPoints namespaces bindings)
    {value : IsolatedNamespace} (member : value ∈ namespaces)
    (attached : namespacePoint value ∈ table.attachments) :
    table.walk value.logicalPath.names MountId.root.top = .ok value.id.top := by
  rw [plan.walk_point rootMount begun (.inputNamespace member),
    (plan.unstacked begun).cross_attached attached]

/-- The root is found below the scratch directory. -/
theorem Planned.walk_scratch (plan : Planned host kernel root request bindings namespaces)
    (scratch : ∃ mount entry, table.mounts .scratch = some mount ∧
      mount.tree.walk [rootName] = .ok entry)
    (begun : table.attachments <+: mountPoints namespaces bindings)
    (attached : (⟨.scratch, [rootName]⟩, .root) ∈ table.attachments) (path : List Name) :
    table.walk (rootName :: path) MountId.scratch.top = table.walk path MountId.root.top := by
  rcases scratch with ⟨mount, entry, mounted, present⟩
  have first : table.walk [rootName] MountId.scratch.top = .ok MountId.root.top := by
    rw [Table.walk_cross mounted (by simp) present]
    · rw [(plan.unstacked begun).cross_attached attached]
    · intro initial leads nonempty notAll
      exact absurd (eq_of_prefix_singleton nonempty leads) notAll
  rw [← List.singleton_append, Table.walk_append, first]
  rfl

/-- The directory of a mount point that nothing covers yet. -/
theorem Planned.open_point (plan : Planned host kernel root request bindings namespaces)
    (rootMount : table.mounts .root = some (sealTree root .readOnly))
    (begun : table.attachments <+: mountPoints namespaces bindings) {path : List Name}
    (point : RootPoint namespaces bindings path)
    (free : Uncovered table.attachments ⟨.root, path⟩) {target : Tree}
    (present : root.walk path = .ok target) :
    table.walk path MountId.root.top = .ok ⟨.root, path⟩ ∧
      table.treeAt ⟨.root, path⟩ = some target := by
  constructor
  · rw [plan.walk_point rootMount begun point, cross_uncovered free]
  · rw [Table.treeAt, rootMount]
    exact Tree.lookup_of_walk present

/-! ## Input namespaces -/

/-- What the creation of children leaves as it was. -/
structure ChildrenMade (kernel : MountKernel) (value : IsolatedNamespace) (before : Table)
    (children : List Name) (table : Table) : Prop where
  attachments : table.attachments = before.attachments
  others : ∀ id, id ≠ value.id → table.mounts id = before.mounts id
  made : table.mounts value.id =
    some { namespaceMount kernel value with tree := namespaceTree kernel value children }

theorem Planned.makeChildren (plan : Planned host kernel root request bindings namespaces)
    {value : IsolatedNamespace} (member : value ∈ namespaces)
    (rootMount : table.mounts .root = some (sealTree root .readOnly))
    (scratch : ∃ mount entry, table.mounts .scratch = some mount ∧
      mount.tree.walk [rootName] = .ok entry)
    (begun : table.attachments <+: mountPoints namespaces bindings)
    (based : (⟨.scratch, [rootName]⟩, .root) ∈ table.attachments)
    (attached : namespacePoint value ∈ table.attachments)
    (empty : table.mounts value.id = some (namespaceMount kernel value)) :
    ∃ after, value.children.foldlM (makeChild kernel value) table = .ok after ∧
      ChildrenMade kernel value table value.children after := by
  have start : ChildrenMade kernel value table [] table := ⟨rfl, fun _ _ => rfl, empty⟩
  refine foldlM_reaches (ChildrenMade kernel value table) [] value.children ?_ start
  intro before state child after split made
  -- The namespace resolves to its tmpfs, and the child is not there yet.
  have rootStill : state.mounts .root = some (sealTree root .readOnly) := by
    rw [made.others .root (by simp [IsolatedNamespace.id])]
    exact rootMount
  have scratchStill : ∃ mount entry, state.mounts .scratch = some mount ∧
      mount.tree.walk [rootName] = .ok entry := by
    rw [made.others .scratch (by simp [IsolatedNamespace.id])]
    exact scratch
  rw [← made.attachments] at begun based attached
  have walked : state.walk (rootName :: value.logicalPath.names) MountId.scratch.top =
      .ok value.id.top := by
    rw [plan.walk_scratch scratchStill begun based]
    exact plan.walk_namespace rootStill begun member attached
  have distinct := plan.children value member
  rw [show value.children = before ++ child :: after from split] at distinct
  have fresh : child ∉ (before.map fun name =>
      (name, Tree.directory (kernel.created value.id name) [])).map (·.1) := by
    rw [List.map_map]
    have names : ((·.1) ∘ fun name => (name, Tree.directory (kernel.created value.id name) [])) =
        (id : Name → Name) := rfl
    rw [names, List.map_id]
    intro earlier
    exact (List.nodup_append.mp distinct).2.2 child earlier child List.mem_cons_self rfl
  refine ⟨_, makeEntry_quiet plan.quiet walked made.made rfl rfl fresh _, ?_⟩
  constructor
  · exact made.attachments
  · intro id different
    rw [Table.set_mounts_ne _ different]
    exact made.others id different
  · rw [Table.set_mounts_self]
    simp [namespaceTree]

/-- One more namespace, while every other mount stays. -/
theorem Stage.addNamespace {before : List IsolatedNamespace} {value : IsolatedNamespace}
    {next : Table} (stage : Stage kernel root bindings before table)
    (kept : ∀ id, id ≠ value.id → next.mounts id = table.mounts id)
    (made : ∃ mount, next.mounts value.id = some mount ∧
      mount.tree = namespaceTree kernel value value.children)
    (distinct : ∀ other ∈ before, other.id = value.id → other = value) :
    Stage kernel root bindings (before ++ [value]) next where
  rootMount := by
    rw [kept .root (by simp [IsolatedNamespace.id])]
    exact stage.rootMount
  scratch := by
    rw [kept .scratch (by simp [IsolatedNamespace.id])]
    exact stage.scratch
  devices := by
    rw [kept .devices (by simp [IsolatedNamespace.id])]
    exact stage.devices
  resources := by
    intro binding inside
    rw [kept binding.id (by simp [IsolatedNamespace.id, IsolatedBinding.id])]
    exact stage.resources binding inside
  namespaces := by
    intro other inside
    by_cases same : other = value
    · rw [same]
      exact made
    · have earlier : other ∈ before := by
        rcases List.mem_append.mp inside with old | new
        · exact old
        · exact absurd (List.mem_singleton.mp new) same
      rw [kept other.id fun sameId => same (distinct other earlier sameId)]
      exact stage.namespaces other earlier

/-- The namespaces are mounted one after the other. -/
theorem Planned.mountNamespace (plan : Planned host kernel root request bindings namespaces)
    {before after : List IsolatedNamespace} {value : IsolatedNamespace}
    (split : namespaces = before ++ value :: after)
    (stage : Stage kernel root bindings before table)
    (attachments : table.attachments = basePoints ++ before.map namespacePoint) :
    ∃ next, mountNamespace kernel MountId.root.top table value = .ok next ∧
      Stage kernel root bindings (before ++ [value]) next ∧
      next.attachments = basePoints ++ (before ++ [value]).map namespacePoint := by
  have member : value ∈ namespaces := by simp [split]
  have points : mountPoints namespaces bindings = table.attachments ++ namespacePoint value ::
      (after.map namespacePoint ++ bindings.map bindingPoint) := by
    simp [mountPoints, split, attachments]
  have begun : table.attachments <+: mountPoints namespaces bindings := by
    rw [points]
    exact List.prefix_append _ _
  have free : Uncovered table.attachments ⟨.root, value.logicalPath.names⟩ := by
    have unstacked := plan.shape.unstacked
    rw [points] at unstacked
    exact unstacked.uncovered_later
  have based : (⟨.scratch, [rootName]⟩, .root) ∈ table.attachments := by
    simp [attachments, basePoints]
  rcases plan.grounded.parents value member with ⟨target, present, directory, identity, _⟩
  rcases plan.open_point stage.rootMount begun (.inputNamespace member) free present with
    ⟨walked, shown⟩
  have opened := Table.openBeneath_eq_ok.mpr ⟨walked, target, shown, directory⟩
  have openedPath : table.openBeneath MountId.scratch.top
      (rootName :: value.logicalPath.names) = .ok ⟨.root, value.logicalPath.names⟩ := by
    rw [Table.openBeneath_eq_ok, plan.walk_scratch stage.scratch begun based]
    exact ⟨walked, target, shown, directory⟩
  -- The tmpfs is attached at the directory of the root.
  let mounted := (table.set value.id (namespaceMount kernel value)).attach value.id
    ⟨.root, value.logicalPath.names⟩
  have others : ∀ id, id ≠ value.id → mounted.mounts id = table.mounts id := by
    intro id different
    exact Table.set_mounts_ne _ different
  have mountedPoints : mounted.attachments = table.attachments ++ [namespacePoint value] := by
    rw [Table.attach_attachments, Table.set_attachments, cross_uncovered free]
    rfl
  have mountedBegun : mounted.attachments <+: mountPoints namespaces bindings := by
    rw [mountedPoints, points, List.prefix_append_right_inj]
    exact ⟨_, rfl⟩
  have rootStill : mounted.mounts .root = some (sealTree root .readOnly) := by
    rw [others .root (by simp [IsolatedNamespace.id])]
    exact stage.rootMount
  have scratchStill : ∃ mount entry, mounted.mounts .scratch = some mount ∧
      mount.tree.walk [rootName] = .ok entry := by
    rw [others .scratch (by simp [IsolatedNamespace.id])]
    exact stage.scratch
  rcases plan.makeChildren member rootStill scratchStill mountedBegun
    (by simp [mountedPoints, based]) (by simp [mountedPoints])
    (Table.set_mounts_self _ _) with ⟨next, made, result⟩
  have kept : ∀ id, id ≠ value.id → next.mounts id = table.mounts id := by
    intro id different
    rw [result.others id different, others id different]
  refine ⟨next, ?_, ?_, ?_⟩
  · simp only [Filesystem.mountNamespace, bind_eq_ok, staged_eq_ok]
    exact ⟨(), attempt_quiet plan.quiet _ _, _, opened, (),
      expectInode_quiet plan.quiet shown directory identity, mounted,
      mountTmpfs_quiet plan.quiet openedPath, made⟩
  · apply stage.addNamespace kept ⟨_, result.made, rfl⟩
    intro other earlier sameId
    apply plan.shape.namespace_eq (by simp [split, earlier]) member
    exact MountId.inputNamespace.inj sameId
  · rw [result.attachments, mountedPoints, attachments]
    simp

/-! ## Resources -/

theorem namespaceTree_child {value : IsolatedNamespace} {children : List Name} {name : Name}
    (among : name ∈ children) :
    (namespaceTree kernel value children).child name =
      some (.directory (kernel.created value.id name) []) := by
  have found : (children.map fun child =>
      (child, Tree.directory (kernel.created value.id child) [])).find?
        (fun entry => entry.1 = name) =
      some (name, .directory (kernel.created value.id name) []) := by
    induction children with
    | nil => cases among
    | cons child children ih =>
        by_cases same : child = name
        · simp [same]
        · have later : name ∈ children := by
            rcases List.mem_cons.mp among with here | later
            · exact absurd here.symm same
            · exact later
          rw [List.map_cons, List.find?_cons_of_neg (by simpa using same)]
          exact ih later
  rw [Tree.child, namespaceTree, Tree.entries, found]
  rfl

/-- The directory that a resource is attached at, in its namespace or in the root. -/
theorem Planned.destination_shown (plan : Planned host kernel root request bindings namespaces)
    (stage : Stage kernel root bindings namespaces table)
    {binding : IsolatedBinding Tree} (member : binding ∈ bindings) :
    ∃ tree, table.treeAt binding.destination = some tree ∧ tree.isDirectory = true ∧
      (binding.syntheticDestination = false → tree.identity = binding.targetIdentity) := by
  cases kind : binding.syntheticDestination with
  | false =>
      rcases plan.grounded.targets binding member kind with ⟨target, present, directory, same⟩
      refine ⟨target, ?_, directory, fun _ => same⟩
      rw [destination_other kind, Table.treeAt, stage.rootMount]
      exact Tree.lookup_of_walk present
  | true =>
      rcases plan.shape.inputs binding member kind with ⟨value, inside, child, among, names⟩
      rcases stage.namespaces value inside with ⟨mount, mounted, tree⟩
      refine ⟨.directory (kernel.created value.id child) [], ?_, rfl, by simp⟩
      rw [destination_input kind names, Table.treeAt, show
        table.mounts (.inputNamespace value.logicalPath.names) = some mount from mounted]
      simp only [Option.bind_some, tree, Tree.lookup, namespaceTree_child among]

/-- When the namespaces are mounted, the path of a resource leads to its place. -/
theorem Planned.walk_destination (plan : Planned host kernel root request bindings namespaces)
    (stage : Stage kernel root bindings namespaces table)
    (begun : table.attachments <+: mountPoints namespaces bindings)
    (spaces : ∀ value ∈ namespaces, namespacePoint value ∈ table.attachments)
    {binding : IsolatedBinding Tree} (member : binding ∈ bindings) :
    table.walk binding.logicalPath.names MountId.root.top =
      .ok (cross table.attachments binding.destination) := by
  cases kind : binding.syntheticDestination with
  | false =>
      rw [destination_other kind]
      exact plan.walk_point stage.rootMount begun (.resource member kind)
  | true =>
      rcases plan.shape.inputs binding member kind with ⟨value, inside, child, among, names⟩
      rcases stage.namespaces value inside with ⟨mount, mounted, tree⟩
      have toNamespace := plan.walk_namespace stage.rootMount begun inside (spaces value inside)
      have entered : mount.tree.enter child =
          .ok (.directory (kernel.created value.id child) []) := by
        rw [Tree.enter_eq_ok, tree]
        exact ⟨rfl, namespaceTree_child among⟩
      rw [names, Table.walk_append, toNamespace, destination_input kind names]
      show table.walk [child] value.id.top = _
      rw [Table.walk, Table.enter_of_tree child (Table.treeAt_top mounted), entered]
      rfl

/-- Attaching a mount does not change the mounts. -/
theorem Stage.attach {mounted : List IsolatedNamespace} (id : MountId) (location : Location)
    (stage : Stage kernel root bindings mounted table) :
    Stage kernel root bindings mounted (table.attach id location) where
  rootMount := stage.rootMount
  scratch := stage.scratch
  devices := stage.devices
  resources := stage.resources
  namespaces := stage.namespaces

/-- The resources are attached one after the other, and each is seen at its path. -/
theorem Planned.attachBinding (plan : Planned host kernel root request bindings namespaces)
    {before after : List (IsolatedBinding Tree)} {binding : IsolatedBinding Tree}
    (split : bindings = before ++ binding :: after)
    (stage : Stage kernel root bindings namespaces table)
    (attachments : table.attachments =
      basePoints ++ namespaces.map namespacePoint ++ before.map bindingPoint) :
    ∃ next, attachBinding kernel MountId.root.top table binding = .ok next ∧
      Stage kernel root bindings namespaces next ∧
      next.attachments = basePoints ++ namespaces.map namespacePoint ++
        (before ++ [binding]).map bindingPoint := by
  have member : binding ∈ bindings := by simp [split]
  have points : mountPoints namespaces bindings =
      table.attachments ++ bindingPoint binding :: after.map bindingPoint := by
    simp [mountPoints, split, attachments]
  have begun : table.attachments <+: mountPoints namespaces bindings := by
    rw [points]
    exact List.prefix_append _ _
  have spaces : ∀ value ∈ namespaces, namespacePoint value ∈ table.attachments := by
    intro value inside
    rw [attachments]
    exact List.mem_append_left _ (List.mem_append_right _ (List.mem_map_of_mem inside))
  have free : Uncovered table.attachments binding.destination := by
    have unstacked := plan.shape.unstacked
    rw [points] at unstacked
    exact unstacked.uncovered_later
  rcases plan.destination_shown stage member with ⟨tree, shown, directory, identity⟩
  have walked := plan.walk_destination stage begun spaces member
  rw [cross_uncovered free] at walked
  have opened := Table.openBeneath_eq_ok.mpr ⟨walked, tree, shown, directory⟩
  have checked : checkDestination kernel table binding.destination binding = .ok () := by
    rw [checkDestination]
    split
    next => rfl
    next other =>
      exact expectInode_quiet plan.quiet shown directory (identity (by simpa using other))
  -- The resource is what its path now leads to.
  have attachedPoints : (table.attach binding.id binding.destination).attachments =
      table.attachments ++ [bindingPoint binding] := by
    rw [Table.attach_attachments, cross_uncovered free]
    rfl
  have attachedBegun : (table.attach binding.id binding.destination).attachments <+:
      mountPoints namespaces bindings := by
    rw [attachedPoints, points, List.prefix_append_right_inj]
    exact ⟨_, rfl⟩
  have attachedStage := stage.attach binding.id binding.destination
  have visible := plan.walk_destination attachedStage attachedBegun
    (fun value inside => by
      rw [attachedPoints]
      exact List.mem_append_left _ (spaces value inside)) member
  have here : (binding.destination, binding.id) ∈
      (table.attach binding.id binding.destination).attachments := by
    rw [attachedPoints]
    exact List.mem_append_right _ (List.mem_singleton_self _)
  rw [(plan.unstacked attachedBegun).cross_attached here] at visible
  have source := plan.grounded.sources binding member
  have shownSource := Table.treeAt_top (attachedStage.resources binding member)
  refine ⟨table.attach binding.id binding.destination, ?_, attachedStage, ?_⟩
  · simp only [Filesystem.attachBinding, attachTree, bind_eq_ok, staged_eq_ok]
    exact ⟨(), attempt_quiet plan.quiet _ _, _, opened, (), checked, _,
      ⟨(), attempt_quiet plan.quiet _ _, rfl⟩, (), attempt_quiet plan.quiet _ _, _,
      Table.openBeneath_eq_ok.mpr ⟨visible, _, shownSource, source.1⟩, (),
      expectInode_quiet plan.quiet shownSource source.1 source.2, rfl⟩
  · rw [attachedPoints, attachments]
    simp

/-! ## Sealing -/

theorem begun_of_complete (complete : table.attachments = mountPoints namespaces bindings) :
    table.attachments <+: mountPoints namespaces bindings := by
  rewrite [complete]
  exact List.prefix_rfl

theorem namespacePoint_mem (complete : table.attachments = mountPoints namespaces bindings)
    {value : IsolatedNamespace} (member : value ∈ namespaces) :
    namespacePoint value ∈ table.attachments := by
  rw [complete, mountPoints]
  exact List.mem_append_left _ (List.mem_append_right _ (List.mem_map_of_mem member))

/-- The namespaces are found at their paths again; sealing leaves what they show. -/
theorem Planned.sealNamespace (plan : Planned host kernel root request bindings namespaces)
    {value : IsolatedNamespace} (member : value ∈ namespaces)
    (stage : Stage kernel root bindings namespaces table)
    (attachments : table.attachments = mountPoints namespaces bindings) :
    ∃ next, sealNamespace kernel MountId.root.top table value = .ok next ∧
      Stage kernel root bindings namespaces next ∧ next.attachments = table.attachments := by
  have walked := plan.walk_namespace stage.rootMount (begun_of_complete attachments) member
    (namespacePoint_mem attachments member)
  rcases stage.namespaces value member with ⟨mount, mounted, tree⟩
  have directory : mount.tree.isDirectory = true := by
    rw [tree]
    rfl
  have opened := Table.openBeneath_eq_ok.mpr
    ⟨walked, mount.tree, Table.treeAt_top mounted, directory⟩
  let sealed : Mount :=
    { mount with readOnly := true, noSuid := true, noDev := true, noExec := true }
  have sealing : table.sealNamespaceMount value.id.top = .ok (table.set value.id sealed) := by
    simp only [Table.sealNamespaceMount, MountId.top, mounted, sealed]
  have kept : ∀ id, id ≠ value.id → (table.set value.id sealed).mounts id = table.mounts id :=
    fun id different => Table.set_mounts_ne _ different
  refine ⟨table.set value.id sealed, ?_, ?_, rfl⟩
  · simp only [Filesystem.sealNamespace, bind_eq_ok, staged_eq_ok]
    exact ⟨(), attempt_quiet plan.quiet _ _, _, opened, (), attempt_quiet plan.quiet _ _, sealing⟩
  · have wider := stage.addNamespace kept ⟨sealed, Table.set_mounts_self _ _, tree⟩
      (fun other inside same =>
        plan.shape.namespace_eq inside member (MountId.inputNamespace.inj same))
    exact { wider with
      namespaces := fun other inside => wider.namespaces other (List.mem_append_left _ inside) }

/-! ## The mounts before the request's -/

/-- The detached trees. -/
structure Detached (root : Tree) (bindings : List (IsolatedBinding Tree)) (table : Table) :
    Prop where
  attachments : table.attachments = []
  rootMount : table.mounts .root = some (sealTree root .readOnly)
  resources : ∀ binding ∈ bindings,
    table.mounts binding.id = some (sealTree binding.source binding.access)

theorem Planned.realizeBindings (plan : Planned host kernel root request bindings namespaces)
    (start : Detached root [] table) :
    ∃ after, bindings.foldlM (realizeBinding kernel id) table = .ok after ∧
      Detached root bindings after := by
  refine foldlM_reaches (Detached root) [] bindings ?_ start
  intro before state binding after split detached
  have split : bindings = before ++ binding :: after := split
  refine ⟨_, realizeTree_quiet plan.quiet _ _ _ _, ?_⟩
  constructor
  · exact detached.attachments
  · rw [Table.set_mounts_ne _ (by simp [IsolatedBinding.id])]
    exact detached.rootMount
  · intro other inside
    rcases List.mem_append.mp inside with old | new
    · have separate := plan.shape.separate
      rw [split, List.pairwise_append] at separate
      have different : other.id ≠ binding.id := by
        intro same
        have names := MountId.resource.inj same
        apply (separate.2.2 other old binding List.mem_cons_self).1
        rewrite [names]
        exact List.prefix_rfl
      rw [Table.set_mounts_ne _ different]
      exact detached.resources other old
    · rw [List.mem_singleton.mp new]
      exact Table.set_mounts_self _ _

/-- The scratch filesystem. -/
def scratchMount (tree : Tree) : Mount where
  tree := tree
  readOnly := false
  noSuid := true
  noDev := true
  noExec := false

/-- What it shows when the directory of the root has been made. -/
def scratchTree (kernel : MountKernel) : Tree :=
  .directory (kernel.tmpfsRoot .scratch)
    [(rootName, .directory (kernel.created .scratch rootName) [])]

theorem mountScratch_quiet (quiet : Quiet kernel) :
    mountScratch kernel table =
      .ok (table.set .scratch (scratchMount (tmpfs kernel .scratch))) := by
  simp only [mountScratch, bind_eq_ok]
  exact ⟨(), attempt_quiet quiet _ _, rfl⟩

theorem makeRootDirectory_quiet (quiet : Quiet kernel)
    (mounted : table.mounts .scratch = some (scratchMount (tmpfs kernel .scratch))) :
    makeRootDirectory kernel table =
      .ok (table.set .scratch (scratchMount (scratchTree kernel))) := by
  have entry : makeEntry kernel .scratchMount (.mkdir .scratch rootName) [] rootName
      (.directory (kernel.created .scratch rootName) []) table =
      .ok (table.set .scratch (scratchMount (scratchTree kernel))) :=
    makeEntry_quiet quiet rfl mounted rfl rfl (by simp) _
  rw [makeRootDirectory, entry]

theorem attachRoot_quiet (quiet : Quiet kernel) (detached : table.attachments = [])
    (mounted : table.mounts .scratch = some (scratchMount (scratchTree kernel))) :
    attachRoot kernel table = .ok (table.attach .root ⟨.scratch, [rootName]⟩) := by
  have present : (scratchMount (scratchTree kernel)).tree.walk [rootName] =
      .ok (.directory (kernel.created .scratch rootName) []) := rfl
  have walked : table.walk [rootName] MountId.scratch.top = .ok ⟨.scratch, [rootName]⟩ := by
    rw [Table.walk_cross mounted (by simp) present, detached]
    · rfl
    · intro initial leads nonempty notAll
      exact absurd (eq_of_prefix_singleton nonempty leads) notAll
  have shown : table.treeAt ⟨.scratch, [rootName]⟩ =
      some (.directory (kernel.created .scratch rootName) []) := by
    rw [Table.treeAt, mounted]
    exact Tree.lookup_of_walk present
  simp only [attachRoot, attachTree, bind_eq_ok, staged_eq_ok]
  exact ⟨(), attempt_quiet quiet _ _, _,
    Table.openBeneath_eq_ok.mpr ⟨walked, _, shown, rfl⟩, (), attempt_quiet quiet _ _, rfl⟩

/-- The root is attached in the scratch filesystem, over the detached trees. -/
structure Attached (kernel : MountKernel) (root : Tree) (bindings : List (IsolatedBinding Tree))
    (table : Table) : Prop where
  attachments : table.attachments = [(⟨.scratch, [rootName]⟩, .root)]
  rootMount : table.mounts .root = some (sealTree root .readOnly)
  scratch : table.mounts .scratch = some (scratchMount (scratchTree kernel))
  resources : ∀ binding ∈ bindings,
    table.mounts binding.id = some (sealTree binding.source binding.access)

theorem Planned.prepareRoot {admission : IsolatedAdmission Tree}
    (plan : Planned host kernel admission.rootSource request admission.bindings
      admission.namespaces) :
    ∃ table, prepareRoot kernel id admission = .ok table ∧
      Attached kernel admission.rootSource admission.bindings table := by
  have start : Detached admission.rootSource []
      (Table.empty.set .root (sealTree admission.rootSource .readOnly)) :=
    ⟨rfl, Table.set_mounts_self _ _, by simp⟩
  rcases plan.realizeBindings start with ⟨realized, done, detached⟩
  let scratched := realized.set .scratch (scratchMount (tmpfs kernel .scratch))
  let made := scratched.set .scratch (scratchMount (scratchTree kernel))
  have making : makeRootDirectory kernel scratched = .ok made :=
    makeRootDirectory_quiet plan.quiet (Table.set_mounts_self _ _)
  have attaching : attachRoot kernel made =
      .ok (made.attach .root ⟨.scratch, [rootName]⟩) :=
    attachRoot_quiet plan.quiet detached.attachments (Table.set_mounts_self _ _)
  refine ⟨made.attach .root ⟨.scratch, [rootName]⟩, ?_, ?_⟩
  · simp only [Filesystem.prepareRoot, bind_eq_ok]
    exact ⟨_, realizeTree_quiet plan.quiet _ _ _ _, realized, done, (),
      attempt_quiet plan.quiet _ _, (), attempt_quiet plan.quiet _ _, _,
      mountScratch_quiet plan.quiet, made, making, attaching⟩
  · constructor
    · rw [Table.attach_attachments, Table.set_attachments, Table.set_attachments,
        detached.attachments]
      rfl
    · rw [Table.attach_mounts, Table.set_mounts_ne _ (by simp), Table.set_mounts_ne _ (by simp)]
      exact detached.rootMount
    · rw [Table.attach_mounts, Table.set_mounts_self]
    · intro binding member
      rw [Table.attach_mounts, Table.set_mounts_ne _ (by simp [IsolatedBinding.id]),
        Table.set_mounts_ne _ (by simp [IsolatedBinding.id])]
      exact detached.resources binding member

theorem basePoints_first :
    basePoints <+: mountPoints namespaces bindings := by
  rw [mountPoints, List.append_assoc]
  exact List.prefix_append _ _

theorem Attached.begun (attached : Attached kernel root bindings table) :
    table.attachments <+: mountPoints namespaces bindings := by
  have first : table.attachments <+: basePoints := by
    rw [attached.attachments]
    exact ⟨_, rfl⟩
  exact first.trans basePoints_first

theorem Attached.scratch_shows (attached : Attached kernel root bindings table) :
    ∃ mount entry, table.mounts .scratch = some mount ∧
      mount.tree.walk [rootName] = .ok entry :=
  ⟨_, _, attached.scratch, rfl⟩

theorem Planned.openAttachedRoot (plan : Planned host kernel root request bindings namespaces)
    (directory : root.isDirectory = true) (attached : Attached kernel root bindings table) :
    openAttachedRoot kernel table = .ok MountId.root.top := by
  have walked := plan.walk_scratch attached.scratch_shows attached.begun
    (by simp [attached.attachments]) []
  simp only [Filesystem.openAttachedRoot, bind_eq_ok, staged_eq_ok]
  exact ⟨(), attempt_quiet plan.quiet _ _,
    Table.openBeneath_eq_ok.mpr ⟨walked, root, Table.treeAt_top attached.rootMount, directory⟩⟩

/-- `/dev` gets its tmpfs with `null` in it. -/
theorem Planned.mountDevices (plan : Planned host kernel root request bindings namespaces)
    (attached : Attached kernel root bindings table) :
    ∃ next, mountDevices kernel table = .ok next ∧ Stage kernel root bindings [] next ∧
      next.attachments = basePoints := by
  have free : Uncovered table.attachments ⟨.root, [deviceName]⟩ := by
    rw [attached.attachments]
    intro attachment member
    rw [List.mem_singleton.mp member]
    simp
  rcases plan.device with ⟨entry, present, directory⟩
  rcases plan.open_point attached.rootMount attached.begun .devices free present with
    ⟨walked, shown⟩
  have walkedPath : table.walk [rootName, deviceName] MountId.scratch.top =
      .ok ⟨.root, [deviceName]⟩ := by
    rw [plan.walk_scratch attached.scratch_shows attached.begun
      (by simp [attached.attachments])]
    exact walked
  have checking : checkDevice kernel table = .ok () := by
    simp only [checkDevice, bind_eq_ok, staged_eq_ok]
    refine ⟨(), attempt_quiet plan.quiet _ _, _, walkedPath, ?_⟩
    cases entry with
    | directory identity entries => rw [shown]
    | symlink => cases directory
    | other identity => cases directory
  -- The tmpfs is empty when it is attached.
  let empty := deviceMount (tmpfs kernel .devices)
  let mounted := (table.set .devices empty).attach .devices ⟨.root, [deviceName]⟩
  have mounting : mountTmpfs kernel .deviceFilesystem .devices empty [rootName, deviceName]
      table = .ok mounted :=
    mountTmpfs_quiet plan.quiet
      (Table.openBeneath_eq_ok.mpr ⟨walkedPath, entry, shown, directory⟩)
  have points : mounted.attachments = basePoints := by
    rw [Table.attach_attachments, Table.set_attachments, cross_uncovered free,
      attached.attachments]
    rfl
  have others : ∀ id, id ≠ .devices → mounted.mounts id = table.mounts id :=
    fun id different => Table.set_mounts_ne _ different
  have begun : mounted.attachments <+: mountPoints namespaces bindings := by
    rw [points]
    exact basePoints_first
  have rootMount : mounted.mounts .root = some (sealTree root .readOnly) := by
    rw [others .root (by simp)]
    exact attached.rootMount
  have toDevices : mounted.walk [rootName, deviceName] MountId.scratch.top =
      .ok MountId.devices.top := by
    have scratch : ∃ mount entry, mounted.mounts .scratch = some mount ∧
        mount.tree.walk [rootName] = .ok entry := by
      rw [others .scratch (by simp)]
      exact attached.scratch_shows
    rw [plan.walk_scratch scratch begun (by simp [points, basePoints]),
      plan.walk_point rootMount begun .devices, points]
    rfl
  have isEmpty : mounted.mounts .devices = some empty := by
    simp [mounted]
  have making : makeEntry kernel .deviceFilesystem .mknodNull [rootName, deviceName] nullName
      (.other (kernel.created .devices nullName)) mounted =
      .ok (mounted.set .devices (deviceMount (deviceTree kernel))) :=
    makeEntry_quiet plan.quiet toDevices isEmpty rfl rfl (by simp) _
  refine ⟨mounted.set .devices (deviceMount (deviceTree kernel)), ?_, ?_, points⟩
  · simp only [Filesystem.mountDevices, bind_eq_ok]
    exact ⟨(), checking, mounted, mounting, _, making, (), attempt_quiet plan.quiet _ _, rfl⟩
  · have kept : ∀ id, id ≠ .devices →
        (mounted.set .devices (deviceMount (deviceTree kernel))).mounts id =
          table.mounts id := by
      intro id different
      rw [Table.set_mounts_ne _ different, others id different]
    constructor
    · rw [kept .root (by simp)]
      exact attached.rootMount
    · rw [kept .scratch (by simp)]
      exact attached.scratch_shows
    · exact Table.set_mounts_self _ _
    · intro binding member
      rw [kept binding.id (by simp [IsolatedBinding.id])]
      exact attached.resources binding member
    · intro value member
      cases member

/-! ## The whole realization -/

theorem Planned.mountNamespaces (plan : Planned host kernel root request bindings namespaces)
    (stage : Stage kernel root bindings [] table) (attachments : table.attachments = basePoints) :
    ∃ next, namespaces.foldlM (Filesystem.mountNamespace kernel MountId.root.top) table =
        .ok next ∧
      Stage kernel root bindings namespaces next ∧
      next.attachments = basePoints ++ namespaces.map namespacePoint := by
  have start : Stage kernel root bindings [] table ∧
      table.attachments = basePoints ++ ([] : List IsolatedNamespace).map namespacePoint := by
    rw [List.map_nil, List.append_nil]
    exact ⟨stage, attachments⟩
  refine foldlM_reaches
    (fun mounted table => Stage kernel root bindings mounted table ∧
      table.attachments = basePoints ++ mounted.map namespacePoint) [] namespaces ?_ start
  intro before state value after split reached
  exact plan.mountNamespace split reached.1 reached.2

theorem Planned.attachBindings (plan : Planned host kernel root request bindings namespaces)
    (stage : Stage kernel root bindings namespaces table)
    (attachments : table.attachments = basePoints ++ namespaces.map namespacePoint) :
    ∃ next, bindings.foldlM (Filesystem.attachBinding kernel MountId.root.top) table =
        .ok next ∧
      Stage kernel root bindings namespaces next ∧
      next.attachments = mountPoints namespaces bindings := by
  have start : Stage kernel root bindings namespaces table ∧
      table.attachments = basePoints ++ namespaces.map namespacePoint ++
        ([] : List (IsolatedBinding Tree)).map bindingPoint := by
    rw [List.map_nil, List.append_nil]
    exact ⟨stage, attachments⟩
  refine foldlM_reaches
    (fun finished table => Stage kernel root bindings namespaces table ∧
      table.attachments = basePoints ++ namespaces.map namespacePoint ++
        finished.map bindingPoint) [] bindings ?_ start
  intro before state binding after split reached
  exact plan.attachBinding split reached.1 reached.2

theorem Planned.sealNamespaces (plan : Planned host kernel root request bindings namespaces)
    (stage : Stage kernel root bindings namespaces table)
    (attachments : table.attachments = mountPoints namespaces bindings) :
    ∃ next, namespaces.foldlM (Filesystem.sealNamespace kernel MountId.root.top) table =
        .ok next ∧
      Stage kernel root bindings namespaces next ∧
      next.attachments = mountPoints namespaces bindings := by
  refine foldlM_reaches
    (fun _ table => Stage kernel root bindings namespaces table ∧
      table.attachments = mountPoints namespaces bindings) [] namespaces ?_ ⟨stage, attachments⟩
  intro before state value after split reached
  have member : value ∈ namespaces := by
    rw [show namespaces = before ++ value :: after from split]
    simp
  rcases plan.sealNamespace member reached.1 reached.2 with ⟨next, done, kept, points⟩
  exact ⟨next, done, kept, points.trans reached.2⟩

/-- Every check of the realization passes. -/
theorem Planned.createPrivateRoot {admission : IsolatedAdmission Tree}
    (plan : Planned host kernel admission.rootSource request admission.bindings
      admission.namespaces) (directory : admission.rootSource.isDirectory = true) :
    ∃ table, createPrivateRoot kernel id admission = .ok ⟨table, MountId.root.top⟩ ∧
      Stage kernel admission.rootSource admission.bindings admission.namespaces table ∧
      table.attachments = mountPoints admission.namespaces admission.bindings := by
  rcases plan.prepareRoot with ⟨prepared, preparing, attached⟩
  rcases plan.mountDevices attached with ⟨devices, mountingDevices, first, base⟩
  rcases plan.mountNamespaces first base with ⟨spaced, spacing, second, spaces⟩
  rcases plan.attachBindings second spaces with ⟨bound, binding, third, points⟩
  rcases plan.sealNamespaces third points with ⟨sealed, sealing, last, final⟩
  have entering : enterRoot kernel MountId.root.top = .ok MountId.root.top := by
    simp only [enterRoot, bind_eq_ok]
    exact ⟨(), attempt_quiet plan.quiet _ _, (), attempt_quiet plan.quiet _ _, (),
      attempt_quiet plan.quiet _ _, rfl⟩
  refine ⟨sealed, ?_, last, final⟩
  simp only [Filesystem.createPrivateRoot, bind_eq_ok]
  exact ⟨prepared, preparing, _, plan.openAttachedRoot directory attached, devices,
    mountingDevices, spaced, spacing, bound, binding, sealed, sealing, _, entering, rfl⟩

end Plan

end PkgexecLinux.Filesystem

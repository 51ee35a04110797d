import PkgexecLinux.Filesystem.Host

/-!
# The private `/dev`

Every mount of a realization is sealed at its own place, the input namespaces last.
The tmpfs at `/dev` is mounted writable and nothing seals it: no destination of an
admission is at or below `/dev`, so that it is neither covered nor reached again.
-/

namespace PkgexecLinux.Filesystem

open Foundation

/-- Every mount that is reachable below the root is read-only, except exactly those
of bindings with writable access. -/
def WritableOnlyThroughResources {Dir : Type} (admission : IsolatedAdmission Dir)
    (result : PrivateRoot) : Prop :=
  ∀ path location mount, result.table.walk path result.root = .ok location →
    result.table.mounts location.mount = some mount →
    (mount.readOnly = false ↔
      ∃ binding ∈ admission.bindings, binding.access = .writable ∧
        location.mount = binding.id)

/-! ## Successful calls -/

theorem makeEntry_ok {kernel : MountKernel} {stage : MountStage} {call : MountCall}
    {path : List Name} {name : Name} {entry : Tree} {table after : Table}
    (done : makeEntry kernel stage call path name entry table = .ok after) :
    ∃ location mount, table.openBeneath MountId.scratch.top path = .ok location ∧
      table.mounts location.mount = some mount ∧ mount.readOnly = false ∧
      after = table.set location.mount
        { mount with tree := Tree.insertAt name entry location.path mount.tree } := by
  simp only [makeEntry, bind_eq_ok, staged_eq_ok] at done
  rcases done with ⟨_, _, location, opened, created⟩
  rcases Table.create_ok created with ⟨mount, mounted, writable, same⟩
  exact ⟨location, mount, opened, mounted, writable, same⟩

theorem mountTmpfs_ok {kernel : MountKernel} {stage : MountStage} {id : MountId}
    {mount : Mount} {path : List Name} {table after : Table}
    (done : mountTmpfs kernel stage id mount path table = .ok after) :
    ∃ location, table.openBeneath MountId.scratch.top path = .ok location ∧
      after = (table.set id mount).attach id location := by
  simp only [mountTmpfs, bind_eq_ok, staged_eq_ok] at done
  rcases done with ⟨_, _, location, opened, same⟩
  exact ⟨location, opened, (Except.ok.inj same).symm⟩

/-! ## Where mounts are -/

/-- Where a mount is attached, seen from the root. -/
def MountId.point : MountId → List Name
  | .root | .scratch => []
  | .devices => [deviceName]
  | .resource path | .inputNamespace path => path

/-- The path of a location, seen from the root. -/
def Location.point (location : Location) : List Name := location.mount.point ++ location.path

@[simp] theorem MountId.point_top (id : MountId) : id.top.point = id.point :=
  List.append_nil _

/-- Below the scratch filesystem every mount is where it belongs. -/
structure Placed (attachments : List (Location × MountId)) : Prop where
  point : ∀ attachment ∈ attachments, attachment.1.mount ≠ .scratch →
    attachment.2.point = attachment.1.point
  below : ∀ attachment ∈ attachments, attachment.2 ≠ .scratch

theorem Placed.add {attachments : List (Location × MountId)} {location : Location}
    {id : MountId} (placed : Placed attachments) (point : id.point = location.point)
    (below : id ≠ .scratch) : Placed (attachments ++ [(location, id)]) where
  point := by
    intro attachment member inside
    rcases List.mem_append.mp member with old | new
    · exact placed.point attachment old inside
    · rw [List.mem_singleton.mp new]
      exact point
  below := by
    intro attachment member
    rcases List.mem_append.mp member with old | new
    · exact placed.below attachment old
    · rw [List.mem_singleton.mp new]
      exact below

/-- Crossing a mount does not change the path. -/
theorem cross_point {attachments : List (Location × MountId)} (placed : Placed attachments)
    (location : Location) (inside : location.mount ≠ .scratch) :
    (cross attachments location).point = location.point ∧
      (cross attachments location).mount ≠ .scratch := by
  induction attachments generalizing location with
  | nil => exact ⟨rfl, inside⟩
  | cons attachment attachments ih =>
      have rest : Placed attachments := by
        constructor
        · intro later member
          exact placed.point later (List.mem_cons_of_mem _ member)
        · intro later member
          exact placed.below later (List.mem_cons_of_mem _ member)
      rw [cross, List.foldl_cons]
      split
      next same =>
        have point := placed.point attachment List.mem_cons_self (by rwa [same])
        have below := placed.below attachment List.mem_cons_self
        rcases ih rest attachment.2.top below with ⟨kept, still⟩
        refine ⟨?_, still⟩
        rw [← same, ← point]
        exact kept.trans (MountId.point_top _)
      next => exact ih rest location inside

section Table

variable {table : Table}

theorem walk_point (placed : Placed table.attachments) {path : List Name}
    {location found : Location} (inside : location.mount ≠ .scratch)
    (walked : table.walk path location = .ok found) :
    found.point = location.point ++ path ∧ found.mount ≠ .scratch := by
  induction path generalizing location with
  | nil =>
      cases walked
      exact ⟨(List.append_nil _).symm, inside⟩
  | cons name path ih =>
      rcases Table.walk_cons_ok walked with ⟨next, entered, rest⟩
      have reached := (Table.enter_ok entered).2
      have crossed := cross_point placed ⟨location.mount, location.path ++ [name]⟩ inside
      rw [← reached] at crossed
      rcases ih crossed.2 rest with ⟨point, still⟩
      refine ⟨?_, still⟩
      rw [point, crossed.1]
      simp [Location.point]

/-! ## The invariant -/

/-- The tmpfs at `/dev` is there and writable. -/
structure DevicesWritable (tree : Tree) (table : Table) : Prop where
  placed : Placed table.attachments
  rootMount : table.mounts .root = some (sealTree tree .readOnly)
  deviceMount : ∃ mount, table.mounts .devices = some mount ∧ mount.readOnly = false
  lands : cross table.attachments ⟨.scratch, [rootName]⟩ = MountId.root.top
  covered : cross table.attachments ⟨.root, [deviceName]⟩ = MountId.devices.top

variable {tree : Tree}

theorem DevicesWritable.set {id : MountId} {mount : Mount}
    (writable : DevicesWritable tree table) (notRoot : id ≠ .root)
    (notDevices : id ≠ .devices) : DevicesWritable tree (table.set id mount) where
  placed := writable.placed
  rootMount := by
    rw [Table.set_mounts_ne mount notRoot.symm]
    exact writable.rootMount
  deviceMount := by
    rw [Table.set_mounts_ne mount notDevices.symm]
    exact writable.deviceMount
  lands := writable.lands
  covered := writable.covered

/-- A mount at another path does not cover `/dev`. -/
theorem DevicesWritable.attach {id : MountId} {location : Location} {path : Path}
    (writable : DevicesWritable tree table) (off : OffDevice path)
    (inside : location.mount ≠ .scratch) (point : location.point = path.names)
    (below : id ≠ .scratch) (idPoint : id.point = path.names) :
    DevicesWritable tree (table.attach id location) := by
  rcases cross_point writable.placed location inside with ⟨kept, still⟩
  have here : (cross table.attachments location).point = path.names := kept.trans point
  have elsewhere : ∀ {other : Location}, other.point ≠ path.names →
      cross [(cross table.attachments location, id)] other = other := by
    intro other different
    apply cross_uncovered
    intro attachment member same
    rw [List.mem_singleton.mp member] at same
    apply different
    rw [← same]
    exact here
  constructor
  · exact writable.placed.add (idPoint.trans here.symm) below
  · exact writable.rootMount
  · exact writable.deviceMount
  · rw [Table.attach_attachments, cross_append, writable.lands]
    apply elsewhere
    intro same
    exact off.inside same.symm
  · rw [Table.attach_attachments, cross_append, writable.covered]
    apply elsewhere
    intro same
    apply off.off
    rewrite [← same]
    exact List.prefix_rfl

/-- New entries do not change what is mounted. -/
theorem DevicesWritable.makeEntry {kernel : MountKernel} {stage : MountStage}
    {call : MountCall} {path : List Name} {name : Name} {entry : Tree} {after : Table}
    (writable : DevicesWritable tree table)
    (done : makeEntry kernel stage call path name entry table = .ok after) :
    DevicesWritable tree after := by
  rcases makeEntry_ok done with ⟨location, mount, _, mounted, unsealed, rfl⟩
  have notRoot : location.mount ≠ .root := by
    intro isRoot
    rw [isRoot, writable.rootMount] at mounted
    cases mounted
    cases unsealed
  by_cases isDevices : location.mount = .devices
  · refine ⟨writable.placed, ?_, ?_, writable.lands, writable.covered⟩
    · rw [Table.set_mounts_ne _ notRoot.symm]
      exact writable.rootMount
    · rw [isDevices]
      exact ⟨_, Table.set_mounts_self _ _, unsealed⟩
  · exact writable.set notRoot isDevices

/-- Resolution below the scratch directory goes through the root. -/
theorem DevicesWritable.walk_scratch (writable : DevicesWritable tree table)
    {path : List Name} {found : Location}
    (walked : table.walk (rootName :: path) MountId.scratch.top = .ok found) :
    table.walk path MountId.root.top = .ok found := by
  rcases Table.walk_cons_ok walked with ⟨next, entered, rest⟩
  have reached := (Table.enter_ok entered).2
  have crossed : next = MountId.root.top := reached.trans writable.lands
  rwa [crossed] at rest

theorem DevicesWritable.walk_root (writable : DevicesWritable tree table)
    {path : List Name} {found : Location}
    (walked : table.walk path MountId.root.top = .ok found) :
    found.point = path ∧ found.mount ≠ .scratch :=
  walk_point writable.placed (by simp [MountId.top]) walked

/-! ## The loops -/

variable {kernel : MountKernel}

theorem DevicesWritable.mountNamespace {value : IsolatedNamespace} {after : Table}
    (off : OffDevice value.logicalPath) (writable : DevicesWritable tree table)
    (done : mountNamespace kernel MountId.root.top table value = .ok after) :
    DevicesWritable tree after := by
  simp only [Filesystem.mountNamespace, bind_eq_ok] at done
  rcases done with ⟨_, _, _, _, _, _, mounted, mounts, children⟩
  rcases mountTmpfs_ok mounts with ⟨location, opened, rfl⟩
  have walked := writable.walk_scratch (Table.openBeneath_eq_ok.mp opened).1
  rcases writable.walk_root walked with ⟨point, inside⟩
  have notRoot : value.id ≠ .root := by simp [IsolatedNamespace.id]
  have notDevices : value.id ≠ .devices := by simp [IsolatedNamespace.id]
  have placed : DevicesWritable tree
      ((table.set value.id (namespaceMount kernel value)).attach value.id location) :=
    (writable.set notRoot notDevices).attach off inside point (by simp [IsolatedNamespace.id]) rfl
  apply foldlM_preserves value.children _ placed children
  intro state next child _ kept made
  exact kept.makeEntry made

section Bindings

variable {Dir : Type}

theorem DevicesWritable.attachBinding {binding : IsolatedBinding Dir} {after : Table}
    (off : OffDevice binding.logicalPath) (writable : DevicesWritable tree table)
    (done : attachBinding kernel MountId.root.top table binding = .ok after) :
    DevicesWritable tree after := by
  simp only [Filesystem.attachBinding, attachTree, bind_eq_ok, staged_eq_ok] at done
  rcases done with ⟨_, _, destination, opened, _, _, attached, ⟨_, _, same⟩, _, _, _, _, _, _,
    last⟩
  cases same
  cases last
  have walked := (Table.openBeneath_eq_ok.mp opened).1
  rcases writable.walk_root walked with ⟨point, inside⟩
  exact writable.attach off inside point (by simp [IsolatedBinding.id]) rfl

/-- Only the mount that a namespace resolves to is sealed. -/
theorem DevicesWritable.sealNamespace {value : IsolatedNamespace} {after : Table}
    (off : OffDevice value.logicalPath) (writable : DevicesWritable tree table)
    (done : sealNamespace kernel MountId.root.top table value = .ok after) :
    DevicesWritable tree after := by
  simp only [Filesystem.sealNamespace, bind_eq_ok, staged_eq_ok] at done
  rcases done with ⟨_, _, location, opened, _, _, sealing⟩
  have walked := (Table.openBeneath_eq_ok.mp opened).1
  have point := (writable.walk_root walked).1
  unfold Table.sealNamespaceMount at sealing
  split at sealing
  next mount atTop mounted =>
    cases sealing
    have here : location.mount.point = value.logicalPath.names := by
      rw [← point, Location.point, atTop, List.append_nil]
    apply writable.set
    · intro isRoot
      rw [isRoot] at here
      exact off.inside here.symm
    · intro isDevices
      rw [isDevices] at here
      apply off.off
      rewrite [← here]
      exact List.prefix_rfl
  next => cases sealing

/-! ## The mounts before the request's -/

/-- The root is sealed and nothing is attached yet. -/
def RootDetached (tree : Tree) (table : Table) : Prop :=
  table.attachments = [] ∧ table.mounts .root = some (sealTree tree .readOnly)

theorem RootDetached.set {id : MountId} {mount : Mount} (detached : RootDetached tree table)
    (notRoot : id ≠ .root) : RootDetached tree (table.set id mount) := by
  refine ⟨detached.1, ?_⟩
  rw [Table.set_mounts_ne mount notRoot.symm]
  exact detached.2

theorem realizeTree_ok {stage : MountStage} {id : MountId} {access : Access} {after : Table}
    (done : realizeTree kernel stage id tree access table = .ok after) :
    after = table.set id (sealTree tree access) := by
  simp only [realizeTree, bind_eq_ok] at done
  rcases done with ⟨_, _, _, _, same⟩
  exact (Except.ok.inj same).symm

theorem makeRootDirectory_detached {after : Table} (detached : RootDetached tree table)
    (done : makeRootDirectory kernel table = .ok after) : RootDetached tree after := by
  unfold makeRootDirectory at done
  split at done
  next made entry =>
    cases done
    rcases makeEntry_ok entry with ⟨location, mount, opened, _, _, rfl⟩
    have here := (Table.openBeneath_eq_ok.mp opened).1
    cases here
    exact detached.set (by simp [MountId.top])
  next =>
    split at done
    next =>
      cases done
      exact detached
    next => cases done

/-- The mount points so far: the root in the scratch filesystem. -/
theorem prepareRoot_ok {view : Dir → Tree} {admission : IsolatedAdmission Dir} {after : Table}
    (done : prepareRoot kernel view admission = .ok after) :
    after.attachments = [(⟨.scratch, [rootName]⟩, .root)] ∧
      after.mounts .root = some (sealTree (view admission.rootSource) .readOnly) := by
  simp only [prepareRoot, mountScratch, attachRoot, attachTree, bind_eq_ok, staged_eq_ok]
    at done
  rcases done with ⟨first, rootTree, second, realized, _, _, _, _, third, ⟨_, _, scratch⟩,
    fourth, made, _, _, target, opened, _, _, last⟩
  have start : RootDetached (view admission.rootSource) first := by
    rw [realizeTree_ok rootTree]
    exact ⟨rfl, Table.set_mounts_self _ _⟩
  have bindings : RootDetached (view admission.rootSource) second := by
    apply foldlM_preserves admission.bindings _ start realized
    intro state next binding _ detached step
    rw [realizeTree_ok step]
    exact detached.set (by simp [IsolatedBinding.id])
  cases scratch
  have detached := makeRootDirectory_detached (bindings.set (by simp)) made
  rcases Table.walk_cons_ok (Table.openBeneath_eq_ok.mp opened).1 with ⟨next, entered, rest⟩
  cases rest
  have reached := (Table.enter_ok entered).2
  rw [detached.1] at reached
  cases last
  refine ⟨?_, detached.2⟩
  rw [Table.attach_attachments, detached.1, reached]
  rfl

theorem placed_basePoints : Placed basePoints where
  point := by decide
  below := by decide

theorem walk_device {found : Location}
    (attached : table.attachments = [(⟨.scratch, [rootName]⟩, .root)])
    (mounted : table.mounts .root = some (sealTree tree .readOnly))
    (walked : table.walk [rootName, deviceName] MountId.scratch.top = .ok found) :
    found = ⟨.root, [deviceName]⟩ ∧ ∃ entry, tree.enter deviceName = .ok entry := by
  rcases Table.walk_cons_ok walked with ⟨first, enteredRoot, rest⟩
  have atRoot := (Table.enter_ok enteredRoot).2
  rw [attached] at atRoot
  subst atRoot
  rcases Table.walk_cons_ok rest with ⟨second, enteredDevice, last⟩
  cases last
  rcases Table.enter_ok enteredDevice with ⟨⟨shown, entry, present, inside⟩, reached⟩
  rw [attached] at reached
  have same : table.treeAt MountId.root.top = some tree := by
    rw [Table.treeAt, MountId.top, mounted]
    rfl
  have same : some tree = some shown := same.symm.trans present
  cases same
  exact ⟨reached, entry, inside⟩

theorem mountDevices_ok {after : Table}
    (attached : table.attachments = [(⟨.scratch, [rootName]⟩, .root)])
    (mounted : table.mounts .root = some (sealTree tree .readOnly))
    (done : mountDevices kernel table = .ok after) :
    DevicesWritable tree after ∧ ∃ entry, tree.enter deviceName = .ok entry := by
  simp only [mountDevices, bind_eq_ok] at done
  rcases done with ⟨_, _, tmpfsTable, mounts, nullTable, made, _, _, same⟩
  cases same
  rcases mountTmpfs_ok mounts with ⟨location, opened, rfl⟩
  rcases walk_device attached mounted (Table.openBeneath_eq_ok.mp opened).1 with ⟨rfl, present⟩
  refine ⟨DevicesWritable.makeEntry ?_ made, present⟩
  have points : (table.attach .devices ⟨.root, [deviceName]⟩).attachments = basePoints := by
    rw [Table.attach_attachments, attached]
    rfl
  constructor
  · exact points ▸ placed_basePoints
  · rw [Table.attach_mounts, Table.set_mounts_ne _ (by simp)]
    exact mounted
  · simp
  · exact points ▸ (by decide)
  · exact points ▸ (by decide)

/-! ## The whole realization -/

theorem createPrivateRoot_devices {view : Dir → Tree} {admission : IsolatedAdmission Dir}
    {result : PrivateRoot} (off : admission.OffDevice)
    (done : createPrivateRoot kernel view admission = .ok result) :
    result.root = MountId.root.top ∧
      DevicesWritable (view admission.rootSource) result.table ∧
      ∃ entry, (view admission.rootSource).enter deviceName = .ok entry := by
  simp only [createPrivateRoot, openAttachedRoot, bind_eq_ok, staged_eq_ok] at done
  rcases done with ⟨prepared, preparation, root, ⟨_, _, opened⟩, devices, deviceStep,
    spaced, spaces, attached, attaching, sealed, sealing, entered, entering, same⟩
  cases same
  simp only [enterRoot, bind_eq_ok] at entering
  rcases entering with ⟨_, _, _, _, _, _, entering⟩
  cases entering
  rcases prepareRoot_ok preparation with ⟨attachments, mounted⟩
  rcases Table.walk_cons_ok (Table.openBeneath_eq_ok.mp opened).1 with ⟨next, entered, rest⟩
  cases rest
  have atRoot : root = MountId.root.top := by
    rw [(Table.enter_ok entered).2, attachments]
    rfl
  subst atRoot
  rcases mountDevices_ok attachments mounted deviceStep with ⟨start, present⟩
  have afterSpaces := foldlM_preserves admission.namespaces
    (fun member kept step => kept.mountNamespace (off.namespaces _ member) step) start spaces
  have afterBindings := foldlM_preserves admission.bindings
    (fun member kept step => kept.attachBinding (off.bindings _ member) step)
    afterSpaces attaching
  have afterSealing := foldlM_preserves admission.namespaces
    (fun member kept step => kept.sealNamespace (off.namespaces _ member) step)
    afterBindings sealing
  exact ⟨rfl, afterSealing, present⟩

theorem DevicesWritable.walk_device {entry : Tree} (writable : DevicesWritable tree table)
    (present : tree.enter deviceName = .ok entry) :
    table.walk [deviceName] MountId.root.top = .ok MountId.devices.top := by
  have shown : table.treeAt MountId.root.top = some tree := by
    rw [Table.treeAt, MountId.top, writable.rootMount]
    rfl
  rw [Table.walk, Table.enter_of_tree deviceName shown, present]
  exact congrArg Except.ok writable.covered

/-- Whatever was admitted and wherever it comes from, when `create_private_root`
succeeds there is a writable mount that no writable binding accounts for. -/
theorem private_root_never_sealed (kernel : MountKernel) (view : Dir → Tree)
    {admission : IsolatedAdmission Dir} (constructed : Constructed admission)
    {result : PrivateRoot} (done : createPrivateRoot kernel view admission = .ok result) :
    ¬WritableOnlyThroughResources admission result := by
  intro sealedElsewhere
  rcases createPrivateRoot_devices constructed.offDevice done with
    ⟨atRoot, writable, entry, present⟩
  rcases writable.deviceMount with ⟨mount, mounted, unsealed⟩
  have walked := writable.walk_device present
  rw [← atRoot] at walked
  rcases (sealedElsewhere _ _ mount walked mounted).mp unsealed with ⟨binding, _, _, same⟩
  cases same

end Bindings

end Table

theorem sample_never_sealed :
    ∃ result, createPrivateRoot Sample.kernel id Sample.admission = .ok result ∧
      ¬WritableOnlyThroughResources Sample.admission result :=
  ⟨_, rfl, private_root_never_sealed Sample.kernel id (.ofRequest _ _ _ Sample.admitted) rfl⟩

/-- In a realization without any failure, `/dev` is a mount that can be written to. -/
theorem sample_devices_writable :
    ∃ result mount, Constructed Sample.admission ∧
      createPrivateRoot Sample.kernel id Sample.admission = .ok result ∧
      result.table.walk [deviceName] result.root = .ok MountId.devices.top ∧
      result.table.mounts .devices = some mount ∧ mount.readOnly = false ∧
      ¬WritableOnlyThroughResources Sample.admission result := by
  refine ⟨_, _, .ofRequest _ _ _ Sample.admitted, rfl, rfl, rfl, rfl, ?_⟩
  intro sealedElsewhere
  rcases (sealedElsewhere [deviceName] MountId.devices.top _ rfl rfl).mp rfl with
    ⟨binding, _, _, same⟩
  cases same

end PkgexecLinux.Filesystem

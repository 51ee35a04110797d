import PkgexecLinux.Filesystem.View

/-!
# Realizations that succeed

`create_private_root` checks every call, so that a realization which succeeds has gone as
one that nothing disturbs.  The one failure that it forgives, an existing root directory,
shows up later if the directory is not there.
-/

namespace PkgexecLinux.Filesystem

open Foundation

/-- The kernel without the failures that have reasons of their own. -/
def MountKernel.quieted (kernel : MountKernel) : MountKernel :=
  { kernel with fault := fun _ => none }

theorem quiet_quieted (kernel : MountKernel) : Quiet kernel.quieted := fun _ => rfl

section Calls

variable (kernel : MountKernel)

theorem attempt_within (stage : MountStage) (call : MountCall) :
    Within (attempt kernel stage call) (attempt kernel.quieted stage call) :=
  fun _ _ => rfl

theorem expectInode_within (stage : MountStage) (call : MountCall) (table : Table)
    (location : Location) (expected : Inode) :
    Within (expectInode kernel stage call table location expected)
      (expectInode kernel.quieted stage call table location expected) := by
  intro _ done
  rw [expectInode] at done
  split at done
  next passed =>
    have same := (Bool.and_eq_true_iff.mp passed).2
    rw [expectInode, if_pos (by rw [same]; rfl)]
  next => cases done

theorem realizeTree_within (stage : MountStage) (id : MountId) (tree : Tree) (access : Access)
    (table : Table) :
    Within (realizeTree kernel stage id tree access table)
      (realizeTree kernel.quieted stage id tree access table) :=
  (attempt_within kernel _ _).bind fun _ =>
    (attempt_within kernel _ _).bind fun _ => .refl _

theorem attachTree_within (stage : MountStage) (id : MountId) (location : Location)
    (table : Table) :
    Within (attachTree kernel stage id location table)
      (attachTree kernel.quieted stage id location table) :=
  (attempt_within kernel _ _).bind fun _ => .refl _

theorem mountTmpfs_within (stage : MountStage) (id : MountId) (mount : Mount)
    (path : List Name) (table : Table) :
    Within (mountTmpfs kernel stage id mount path table)
      (mountTmpfs kernel.quieted stage id mount path table) :=
  (attempt_within kernel _ _).bind fun _ => .refl _

theorem makeEntry_within (stage : MountStage) (call : MountCall) (path : List Name)
    (name : Name) (entry : Tree) (table : Table) :
    Within (makeEntry kernel stage call path name entry table)
      (makeEntry kernel.quieted stage call path name entry table) :=
  (attempt_within kernel _ _).bind fun _ => .refl _

theorem openAttachedRoot_within (table : Table) :
    Within (openAttachedRoot kernel table) (openAttachedRoot kernel.quieted table) :=
  (attempt_within kernel _ _).bind fun _ => .refl _

theorem attachRoot_within (table : Table) :
    Within (attachRoot kernel table) (attachRoot kernel.quieted table) :=
  (attempt_within kernel _ _).bind fun _ =>
    (Within.refl _).bind fun _ => attachTree_within kernel _ _ _ _

theorem mountDevices_within (table : Table) :
    Within (mountDevices kernel table) (mountDevices kernel.quieted table) := by
  have checked : Within (checkDevice kernel table) (checkDevice kernel.quieted table) :=
    (attempt_within kernel _ _).bind fun _ => .refl _
  exact checked.bind fun _ => (mountTmpfs_within kernel _ _ _ _ _).bind fun _ =>
    (makeEntry_within kernel _ _ _ _ _ _).bind fun _ =>
      (attempt_within kernel _ _).bind fun _ => .refl _

theorem mountNamespace_within (root : Location) (table : Table) (value : IsolatedNamespace) :
    Within (mountNamespace kernel root table value)
      (mountNamespace kernel.quieted root table value) :=
  (attempt_within kernel _ _).bind fun _ => (Within.refl _).bind fun _ =>
    (expectInode_within kernel _ _ _ _ _).bind fun _ =>
      (mountTmpfs_within kernel _ _ _ _ _).bind fun _ =>
        Within.foldlM (fun _ _ => makeEntry_within kernel _ _ _ _ _ _) _ _

theorem sealNamespace_within (root : Location) (table : Table) (value : IsolatedNamespace) :
    Within (sealNamespace kernel root table value)
      (sealNamespace kernel.quieted root table value) :=
  (attempt_within kernel _ _).bind fun _ => (Within.refl _).bind fun _ =>
    (attempt_within kernel _ _).bind fun _ => .refl _

theorem attachBinding_within {Dir : Type} (root : Location) (table : Table)
    (binding : IsolatedBinding Dir) :
    Within (attachBinding kernel root table binding)
      (attachBinding kernel.quieted root table binding) := by
  have checked : ∀ destination, Within (checkDestination kernel table destination binding)
      (checkDestination kernel.quieted table destination binding) := by
    intro destination
    rw [checkDestination, checkDestination]
    split
    · exact .refl _
    · exact expectInode_within kernel _ _ _ _ _
  exact (attempt_within kernel _ _).bind fun _ => (Within.refl _).bind fun _ =>
    (checked _).bind fun _ => (attachTree_within kernel _ _ _ _).bind fun _ =>
      (attempt_within kernel _ _).bind fun _ => (Within.refl _).bind fun _ =>
        (expectInode_within kernel _ _ _ _ _).bind fun _ => .refl _

theorem enterRoot_within (attached : Location) :
    Within (enterRoot kernel attached) (enterRoot kernel.quieted attached) :=
  (attempt_within kernel _ _).bind fun _ => (attempt_within kernel _ _).bind fun _ =>
    (attempt_within kernel _ _).bind fun _ => .refl _

/-! ## The scratch directory -/

/-- Nothing can be opened below an empty scratch filesystem. -/
theorem attachRoot_empty {table after : Table}
    (mounted : table.mounts .scratch = some (scratchMount (tmpfs kernel .scratch))) :
    attachRoot kernel table ≠ .ok after := by
  intro done
  simp only [attachRoot, bind_eq_ok, staged_eq_ok] at done
  rcases done with ⟨_, _, target, opened, _⟩
  have shown : table.treeAt MountId.scratch.top = some (tmpfs kernel .scratch) := by
    rw [Table.treeAt, MountId.top, mounted]
    rfl
  have missing : (tmpfs kernel .scratch).enter rootName = .error Tree.enoent := rfl
  simp only [Table.openBeneath, Table.walk, Table.enter, shown, missing] at opened
  cases opened

/-- An existing root directory is forgiven, and then missed. -/
theorem scratch_within (table : Table) :
    Within
      (mountScratch kernel table >>= fun table =>
        makeRootDirectory kernel table >>= attachRoot kernel)
      (mountScratch kernel.quieted table >>= fun table =>
        makeRootDirectory kernel.quieted table >>= attachRoot kernel.quieted) := by
  intro result done
  rcases bind_eq_ok.mp done with ⟨scratched, mounting, rest⟩
  rcases bind_eq_ok.mp rest with ⟨made, making, attaching⟩
  have mounted : scratched.mounts .scratch = some (scratchMount (tmpfs kernel .scratch)) := by
    rcases bind_eq_ok.mp mounting with ⟨_, _, set⟩
    cases set
    exact Table.set_mounts_self _ _
  have quietly : mountScratch kernel.quieted table = .ok scratched := by
    rcases bind_eq_ok.mp mounting with ⟨_, _, set⟩
    cases set
    rfl
  have created : makeRootDirectory kernel.quieted scratched = .ok made := by
    rw [makeRootDirectory] at making
    split at making
    next entry created =>
      cases making
      rw [makeRootDirectory]
      have quietly := makeEntry_within kernel _ _ _ _ _ _ _ created
      simp only [MountKernel.quieted] at quietly ⊢
      rw [quietly]
    next failure _ =>
      split at making
      next =>
        cases making
        exact absurd attaching (attachRoot_empty kernel mounted)
      next => cases making
  exact bind_eq_ok.mpr ⟨scratched, quietly,
    bind_eq_ok.mpr ⟨made, created, attachRoot_within kernel _ _ attaching⟩⟩

theorem prepareRoot_within {Dir : Type} (view : Dir → Tree) (admission : IsolatedAdmission Dir) :
    Within (prepareRoot kernel view admission) (prepareRoot kernel.quieted view admission) :=
  (realizeTree_within kernel _ _ _ _ _).bind fun _ =>
    (Within.foldlM (fun _ _ => realizeTree_within kernel _ _ _ _ _) _ _).bind fun _ =>
      (attempt_within kernel _ _).bind fun _ => (attempt_within kernel _ _).bind fun _ =>
        scratch_within kernel _

/-- What succeeds on any kernel is what an undisturbed kernel does. -/
theorem createPrivateRoot_within {Dir : Type} (view : Dir → Tree)
    (admission : IsolatedAdmission Dir) :
    Within (createPrivateRoot kernel view admission)
      (createPrivateRoot kernel.quieted view admission) :=
  (prepareRoot_within kernel view admission).bind fun _ =>
    (openAttachedRoot_within kernel _).bind fun _ =>
      (mountDevices_within kernel _).bind fun _ =>
        (Within.foldlM (mountNamespace_within kernel _) _ _).bind fun _ =>
          (Within.foldlM (attachBinding_within kernel _) _ _).bind fun _ =>
            (Within.foldlM (sealNamespace_within kernel _) _ _).bind fun _ =>
              (enterRoot_within kernel _).bind fun _ => .refl _

end Calls

/-! ## What has been realized -/

/-- The admission of a request on a host, over a root that has a `/dev`. -/
structure AdmittedOn (host : Host) (root : Tree) (request : List ResourceBinding)
    (admission : IsolatedAdmission Tree) : Prop where
  admitted : ∃ rootView, host.openExactPath rootView.lexicallyNormal = .ok root ∧
    admitIsolatedResources (fun _ => host.calls) rootView request = .ok admission
  devices : ∃ device, root.enter deviceName = .ok device ∧ device.isDirectory = true

/-- A realization that succeeds is the plan that was admitted, whatever else the kernel may
refuse. -/
theorem realizes_of_created {host : Host} {kernel : MountKernel} {root : Tree}
    {request : List ResourceBinding} {admission : IsolatedAdmission Tree} {view : PrivateRoot}
    (admitted : AdmittedOn host root request admission)
    (created : createPrivateRoot kernel id admission = .ok view) :
    Realizes host root request view := by
  rcases admitted.admitted with ⟨rootView, opened, accepted⟩
  rcases admitted.devices with ⟨device, present, directory⟩
  rcases admitIsolatedResources_grounded accepted with ⟨same, grounded⟩
  rw [opened] at same
  cases same
  have walked : admission.rootSource.walk [deviceName] = .ok device := by
    rw [Tree.walk, present]
    rfl
  have plan : Planned host kernel.quieted admission.rootSource request admission.bindings
      admission.namespaces :=
    ⟨admitIsolatedResources_shape accepted, grounded,
      fun _ member => admitIsolatedResources_children accepted member,
      ⟨device, walked, directory⟩, quiet_quieted kernel⟩
  rcases plan.createPrivateRoot (Tree.enter_eq_ok.mp present).1 with
    ⟨table, quietly, stage, attachments⟩
  rw [createPrivateRoot_within kernel id admission view created] at quietly
  cases quietly
  exact plan.realizes stage attachments

end PkgexecLinux.Filesystem

import Mathlib.Data.List.Pairwise
import PkgexecLinux.Filesystem.Host

/-!
# The mount points of an admission

The places that a realization attaches its mounts at, in their order.  What was
checked at admission keeps them apart: no mount point of the root is above another,
and none is used twice.
-/

namespace PkgexecLinux.Filesystem

open Foundation

section Points

variable {Dir : Type}

/-- The place of an input namespace. -/
def namespacePoint (value : IsolatedNamespace) : Location × MountId :=
  (⟨.root, value.logicalPath.names⟩, value.id)

/-- The place of a resource, in its namespace or in the root. -/
def IsolatedBinding.destination (binding : IsolatedBinding Dir) : Location :=
  if binding.syntheticDestination then
    ⟨.inputNamespace binding.logicalPath.names.dropLast,
      [binding.logicalPath.names.getLast?.getD []]⟩
  else ⟨.root, binding.logicalPath.names⟩

def bindingPoint (binding : IsolatedBinding Dir) : Location × MountId :=
  (binding.destination, binding.id)

/-- All mount points, in the order in which they are used. -/
def mountPoints (namespaces : List IsolatedNamespace) (bindings : List (IsolatedBinding Dir)) :
    List (Location × MountId) :=
  basePoints ++ namespaces.map namespacePoint ++ bindings.map bindingPoint

theorem destination_input {binding : IsolatedBinding Dir} {parent : List Name} {child : Name}
    (synthetic : binding.syntheticDestination = true)
    (names : binding.logicalPath.names = parent ++ [child]) :
    binding.destination = ⟨.inputNamespace parent, [child]⟩ := by
  rw [IsolatedBinding.destination, if_pos synthetic, names]
  simp

theorem destination_other {binding : IsolatedBinding Dir}
    (other : binding.syntheticDestination = false) :
    binding.destination = ⟨.root, binding.logicalPath.names⟩ := by
  rw [IsolatedBinding.destination, other]
  rfl

/-- A path of the root that something is mounted at. -/
inductive RootPoint (namespaces : List IsolatedNamespace)
    (bindings : List (IsolatedBinding Dir)) : List Name → Prop where
  | devices : RootPoint namespaces bindings [deviceName]
  | inputNamespace {value : IsolatedNamespace} (member : value ∈ namespaces) :
      RootPoint namespaces bindings value.logicalPath.names
  | resource {binding : IsolatedBinding Dir} (member : binding ∈ bindings)
      (other : binding.syntheticDestination = false) :
      RootPoint namespaces bindings binding.logicalPath.names

theorem rootPoint_of_mem {namespaces : List IsolatedNamespace}
    {bindings : List (IsolatedBinding Dir)} {point : Location × MountId}
    (member : point ∈ mountPoints namespaces bindings) (inRoot : point.1.mount = .root) :
    RootPoint namespaces bindings point.1.path := by
  rw [mountPoints, List.mem_append, List.mem_append] at member
  rcases member with (base | space) | resource
  · rw [basePoints, List.mem_cons, List.mem_singleton] at base
    rcases base with rfl | rfl
    · cases inRoot
    · exact .devices
  · rcases List.mem_map.mp space with ⟨value, inside, rfl⟩
    exact .inputNamespace inside
  · rcases List.mem_map.mp resource with ⟨binding, inside, rfl⟩
    cases synthetic : binding.syntheticDestination with
    | true =>
        rw [bindingPoint, IsolatedBinding.destination, if_pos synthetic] at inRoot
        cases inRoot
    | false =>
        rw [bindingPoint, destination_other synthetic]
        exact .resource inside synthetic

end Points

/-! ## Mount points are apart -/

section Apart

variable {Dir : Type} {request : List ResourceBinding}
variable {bindings : List (IsolatedBinding Dir)} {namespaces : List IsolatedNamespace}

theorem Incomparable.symm {left right : List Name} (apart : Incomparable left right) :
    Incomparable right left :=
  ⟨apart.2, apart.1⟩

/-- Of two bindings neither is above the other, unless they are one. -/
theorem Shape.eq_or_incomparable (shape : Shape request bindings namespaces)
    {left right : IsolatedBinding Dir} (leftMember : left ∈ bindings)
    (rightMember : right ∈ bindings) :
    left = right ∨ Incomparable left.logicalPath.names right.logicalPath.names := by
  by_cases same : left = right
  · exact .inl same
  · right
    have : Std.Symm fun left right : IsolatedBinding Dir =>
        Incomparable left.logicalPath.names right.logicalPath.names :=
      ⟨fun _ _ apart => apart.symm⟩
    exact shape.separate.forall leftMember rightMember same

/-- A namespace is neither at nor below a resource that is mounted in the root. -/
theorem Shape.resource_not_above (shape : Shape request bindings namespaces)
    {binding : IsolatedBinding Dir} (member : binding ∈ bindings)
    (other : binding.syntheticDestination = false) {value : IsolatedNamespace}
    (inside : value ∈ namespaces) :
    ¬binding.logicalPath.names <+: value.logicalPath.names := by
  intro above
  rcases List.exists_mem_of_ne_nil _ (shape.inhabited value inside) with ⟨child, among⟩
  rcases shape.children value inside child among with ⟨input, inputMember, synthetic, names⟩
  rcases shape.eq_or_incomparable member inputMember with same | apart
  · rw [same, synthetic] at other
    cases other
  · apply apart.1
    rw [names]
    exact above.trans (List.prefix_append _ _)

theorem Shape.namespace_eq (shape : Shape request bindings namespaces)
    {left right : IsolatedNamespace} (leftMember : left ∈ namespaces)
    (rightMember : right ∈ namespaces)
    (names : left.logicalPath.names = right.logicalPath.names) : left = right := by
  have paths : left.logicalPath = right.logicalPath := by
    rcases leftPath : left.logicalPath with ⟨leftNames, leftTrailing⟩
    rcases rightPath : right.logicalPath with ⟨rightNames, rightTrailing⟩
    have leftFlat := (shape.inside left leftMember).1
    have rightFlat := (shape.inside right rightMember).1
    simp_all
  exact List.inj_on_of_nodup_map shape.distinct leftMember rightMember paths

theorem eq_of_prefix_singleton {path : List Name} {name : Name} (nonempty : path ≠ [])
    (leads : path <+: [name]) : path = [name] := by
  apply leads.eq_of_length_le
  exact List.length_pos_of_ne_nil nonempty

/-- No mount point of the root is above another. -/
theorem eq_of_rootPoint_above {host : Host} {root : Tree} {bindings : List (IsolatedBinding Tree)}
    (shape : Shape request bindings namespaces)
    (grounded : Grounded host root request bindings namespaces) {above below : List Name}
    (first : RootPoint namespaces bindings above) (second : RootPoint namespaces bindings below)
    (leads : above <+: below) : above = below := by
  cases first with
  | devices =>
      cases second with
      | devices => rfl
      | inputNamespace member => exact absurd leads (shape.namespace_offDevice member).off
      | resource member other => exact absurd leads (shape.offDevice _ member).off
  | @inputNamespace value member =>
      rcases grounded.parents value member with ⟨target, reached, _, _, empty⟩
      cases second with
      | devices =>
          exact eq_of_prefix_singleton (shape.inside value member).2 leads
      | @inputNamespace other inside =>
          rcases grounded.parents other inside with ⟨found, walked, _⟩
          exact Tree.walk_below_empty reached empty leads walked
      | @resource binding inside other =>
          rcases grounded.targets binding inside other with ⟨found, walked, _⟩
          exact Tree.walk_below_empty reached empty leads walked
  | @resource binding member other =>
      cases second with
      | devices =>
          exact eq_of_prefix_singleton (shape.offDevice binding member).inside leads
      | inputNamespace inside => exact absurd leads (shape.resource_not_above member other inside)
      | resource inside _ =>
          rcases shape.eq_or_incomparable member inside with same | apart
          · rw [same]
          · exact absurd leads apart.1

/-! ## No mount point is used twice -/

theorem destination_ne {left right : IsolatedBinding Dir}
    (leftInside : left.logicalPath.names ≠ []) (rightInside : right.logicalPath.names ≠ [])
    (apart : Incomparable left.logicalPath.names right.logicalPath.names) :
    left.destination ≠ right.destination := by
  intro same
  have names : left.logicalPath.names = right.logicalPath.names := by
    rcases List.eq_nil_or_concat' left.logicalPath.names with empty | ⟨parent, child, leftNames⟩
    · exact absurd empty leftInside
    rcases List.eq_nil_or_concat' right.logicalPath.names with empty | ⟨other, name, rightNames⟩
    · exact absurd empty rightInside
    cases leftKind : left.syntheticDestination with
    | true =>
        rw [destination_input leftKind leftNames] at same
        cases rightKind : right.syntheticDestination with
        | true =>
            rw [destination_input rightKind rightNames] at same
            cases same
            rw [leftNames, rightNames]
        | false =>
            rw [destination_other rightKind] at same
            cases same
    | false =>
        rw [destination_other leftKind] at same
        cases rightKind : right.syntheticDestination with
        | true =>
            rw [destination_input rightKind rightNames] at same
            cases same
        | false =>
            rw [destination_other rightKind] at same
            exact congrArg Location.path same
  apply apart.1
  rewrite [names]
  exact List.prefix_rfl

theorem Shape.nodup_namespacePoints (shape : Shape request bindings namespaces) :
    ((namespaces.map namespacePoint).map (·.1)).Nodup := by
  rw [List.map_map]
  have distinct := shape.distinct.of_map
  rw [List.nodup_map_iff_inj_on distinct]
  intro left leftMember right rightMember same
  exact shape.namespace_eq leftMember rightMember (congrArg Location.path same)

theorem Shape.nodup_bindingPoints (shape : Shape request bindings namespaces) :
    ((bindings.map bindingPoint).map (·.1)).Nodup := by
  rw [List.map_map, List.nodup_iff_pairwise_ne, List.pairwise_map]
  apply shape.separate.imp_of_mem
  intro left right leftMember rightMember apart
  exact destination_ne (shape.offDevice left leftMember).inside
    (shape.offDevice right rightMember).inside apart

theorem Shape.nodup_mountPoints (shape : Shape request bindings namespaces) :
    ((mountPoints namespaces bindings).map (·.1)).Nodup := by
  rw [mountPoints, List.map_append, List.map_append, List.nodup_append, List.nodup_append]
  refine ⟨⟨by decide, shape.nodup_namespacePoints, ?_⟩, shape.nodup_bindingPoints, ?_⟩
  · intro base baseMember location member same
    subst same
    rcases List.mem_map.mp member with ⟨point, inside, rfl⟩
    rcases List.mem_map.mp inside with ⟨value, among, rfl⟩
    have off := (shape.namespace_offDevice among).off
    simp only [basePoints, List.map_cons, List.map_nil, List.mem_cons, List.not_mem_nil,
      or_false, namespacePoint, Location.mk.injEq, reduceCtorEq, false_and, false_or,
      true_and] at baseMember
    apply off
    rewrite [baseMember]
    exact List.prefix_rfl
  · intro earlier earlierMember location member same
    subst same
    rcases List.mem_map.mp member with ⟨point, inside, rfl⟩
    rcases List.mem_map.mp inside with ⟨binding, among, rfl⟩
    cases synthetic : binding.syntheticDestination with
    | true =>
        rw [bindingPoint, IsolatedBinding.destination, if_pos synthetic] at earlierMember
        simp [basePoints, namespacePoint] at earlierMember
    | false =>
        rw [bindingPoint, destination_other synthetic] at earlierMember
        rcases List.mem_append.mp earlierMember with base | space
        · simp only [basePoints, List.map_cons, List.map_nil, List.mem_cons, List.not_mem_nil,
            or_false, Location.mk.injEq, reduceCtorEq, false_and, false_or, true_and] at base
          apply (shape.offDevice binding among).off
          rewrite [base]
          exact List.prefix_rfl
        · rcases List.mem_map.mp space with ⟨point, pointMember, same⟩
          rcases List.mem_map.mp pointMember with ⟨value, valueMember, rfl⟩
          apply shape.resource_not_above among synthetic valueMember
          have names : value.logicalPath.names = binding.logicalPath.names :=
            congrArg Location.path same
          rewrite [names]
          exact List.prefix_rfl

/-- The mount points of an admission do not stack. -/
theorem Shape.unstacked (shape : Shape request bindings namespaces) :
    Unstacked (mountPoints namespaces bindings) where
  nodup := shape.nodup_mountPoints
  inside := by
    intro point member
    rw [mountPoints, List.mem_append, List.mem_append] at member
    rcases member with (base | space) | resource
    · rw [basePoints, List.mem_cons, List.mem_singleton] at base
      rcases base with rfl | rfl
      · simp
      · simp
    · rcases List.mem_map.mp space with ⟨value, inside, rfl⟩
      exact (shape.inside value inside).2
    · rcases List.mem_map.mp resource with ⟨binding, inside, rfl⟩
      cases synthetic : binding.syntheticDestination with
      | true =>
          rw [bindingPoint, IsolatedBinding.destination, if_pos synthetic]
          simp
      | false =>
          rw [bindingPoint, destination_other synthetic]
          exact (shape.offDevice binding inside).inside

end Apart

end PkgexecLinux.Filesystem

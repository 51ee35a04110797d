import PkgexecLinux.Filesystem.Overlap

/-!
# The shape of an admission

What the loop of `admit_isolated_resources` has established about the destinations
of a request, whatever the directory calls have answered: which paths they are,
that no destination is above another, and that each input resource is a child of
its namespace and each child of a namespace an input resource.
-/

namespace PkgexecLinux.Filesystem

open Foundation

/-! ## Paths of destinations -/

/-- Neither is above the other. -/
def Incomparable (left right : List Name) : Prop := ¬left <+: right ∧ ¬right <+: left

/-- A path that is neither the root nor at or below `/dev`. -/
structure OffDevice (path : Path) : Prop where
  plain : path.trailing = false
  inside : path.names ≠ []
  off : ¬devicePath.names <+: path.names

theorem LogicalPath.components_normal (logical : LogicalPath) :
    logical.path.lexicallyNormal.components = logical.names := by
  have normal : logical.path.lexicallyNormal = logical.path := by
    apply Path.lexicallyNormal_plain
    · intro name member
      exact (logical.canonical name member).2
    · intro _
      rfl
  rw [normal]
  simp [LogicalPath.path, Path.ofNames, Path.components]

theorem apart_logical {left right : LogicalPath} (separate : apart left.path right.path = true) :
    Incomparable left.names right.names := by
  rw [apart_iff, LogicalPath.components_normal, LogicalPath.components_normal] at separate
  exact separate

theorem PathsChecked.offDevice {Dir : Type} {rootPath : Path} {state : AdmissionState Dir}
    {binding : ResourceBinding} (checks : PathsChecked rootPath state binding) :
    OffDevice binding.mountPoint.path where
  plain := rfl
  inside := by
    intro empty
    apply checks.notRoot
    have empty : binding.mountPoint.names = [] := empty
    simp [LogicalPath.path, Path.ofNames, Path.root, empty]
  off := by
    intro below
    have contains : pathContains devicePath binding.mountPoint.path = true := by
      rw [pathContains_iff, LogicalPath.components_normal]
      exact below
    rw [checks.notDevice] at contains
    cases contains

/-! ## Namespaces -/

/-- How `add_child` changes the namespaces. -/
structure ChildAdded (namespaces : List IsolatedNamespace) (parent : Path) (identity : Inode)
    (child : Name) (after : List IsolatedNamespace) : Prop where
  origin : ∀ value ∈ after,
    (∃ old ∈ namespaces, value.logicalPath = old.logicalPath ∧
      value.targetIdentity = old.targetIdentity ∧
      old.children <+: value.children ∧
      ∀ name ∈ value.children, name ∈ old.children ∨ value.logicalPath = parent ∧ name = child) ∨
    value = ⟨parent, identity, [child]⟩
  kept : ∀ old ∈ namespaces, ∃ value ∈ after, value.logicalPath = old.logicalPath ∧
    old.children <+: value.children
  present : ∃ value ∈ after, value.logicalPath = parent ∧ child ∈ value.children
  distinct : (namespaces.map (·.logicalPath)).Nodup → (after.map (·.logicalPath)).Nodup

theorem childAdded_new {namespaces : List IsolatedNamespace} {parent : Path} {identity : Inode}
    {child : Name} (fresh : ∀ value ∈ namespaces, value.logicalPath ≠ parent) :
    ChildAdded namespaces parent identity child (namespaces ++ [⟨parent, identity, [child]⟩]) where
  origin := by
    intro value member
    rcases List.mem_append.mp member with old | new
    · exact .inl ⟨value, old, rfl, rfl, List.prefix_rfl, fun name inside => .inl inside⟩
    · exact .inr (List.mem_singleton.mp new)
  kept := by
    intro old member
    exact ⟨old, List.mem_append_left _ member, rfl, List.prefix_rfl⟩
  present := ⟨⟨parent, identity, [child]⟩, by simp, rfl, by simp⟩
  distinct := by
    intro nodup
    rw [List.map_append, List.nodup_append]
    refine ⟨nodup, by simp, ?_⟩
    intro path member other single same
    rcases List.mem_map.mp member with ⟨value, inside, rfl⟩
    have parentPath : other = parent := by simpa using single
    exact fresh value inside (same.trans parentPath)

/-- The namespace of the parent gets the child, the others stay. -/
def withChild (parent : Path) (child : Name) (value : IsolatedNamespace) : IsolatedNamespace :=
  if value.logicalPath = parent then { value with children := value.children ++ [child] }
  else value

@[simp] theorem withChild_logicalPath (parent : Path) (child : Name)
    (value : IsolatedNamespace) :
    (withChild parent child value).logicalPath = value.logicalPath := by
  unfold withChild
  split
  next => rfl
  next => rfl

@[simp] theorem withChild_targetIdentity (parent : Path) (child : Name)
    (value : IsolatedNamespace) :
    (withChild parent child value).targetIdentity = value.targetIdentity := by
  unfold withChild
  split
  next => rfl
  next => rfl

theorem children_withChild (parent : Path) (child : Name) (value : IsolatedNamespace) :
    value.children <+: (withChild parent child value).children := by
  unfold withChild
  split
  next => exact List.prefix_append _ _
  next => exact List.prefix_rfl

theorem mem_children_withChild {parent : Path} {child name : Name} {value : IsolatedNamespace}
    (member : name ∈ (withChild parent child value).children) :
    name ∈ value.children ∨ value.logicalPath = parent ∧ name = child := by
  unfold withChild at member
  split at member
  next same =>
    rcases List.mem_append.mp member with old | new
    · exact .inl old
    · exact .inr ⟨same, List.mem_singleton.mp new⟩
  next => exact .inl member

theorem childAdded_old {namespaces : List IsolatedNamespace} {parent : Path} {identity : Inode}
    {child : Name} {found : IsolatedNamespace} (member : found ∈ namespaces)
    (same : found.logicalPath = parent) :
    ChildAdded namespaces parent identity child (namespaces.map (withChild parent child)) where
  origin := by
    intro value changed
    rcases List.mem_map.mp changed with ⟨old, inside, rfl⟩
    refine .inl ⟨old, inside, by simp, by simp, children_withChild parent child old, ?_⟩
    intro name among
    rw [withChild_logicalPath]
    exact mem_children_withChild among
  kept := by
    intro old inside
    exact ⟨withChild parent child old, List.mem_map_of_mem inside, by simp,
      children_withChild parent child old⟩
  present := by
    refine ⟨withChild parent child found, List.mem_map_of_mem member, by simpa using same, ?_⟩
    simp [withChild, same]
  distinct := by
    intro nodup
    have paths : (namespaces.map (withChild parent child)).map (·.logicalPath) =
        namespaces.map (·.logicalPath) := by
      simp
    rwa [paths]

theorem addChild_ok {namespaces after : List IsolatedNamespace} {parent : Path}
    {identity : Inode} {child : Name}
    (done : addChild namespaces parent identity child = .ok after) :
    ChildAdded namespaces parent identity child after := by
  unfold addChild at done
  split at done
  next missing =>
    cases done
    apply childAdded_new
    intro value member same
    have absent := List.find?_eq_none.mp missing value member
    simp [same] at absent
  next found searched =>
    have member := List.mem_of_find?_eq_some searched
    have same : found.logicalPath = parent := by
      simpa using List.find?_some searched
    split at done
    next =>
      cases done
      exact childAdded_old member same
    next => cases done

/-! ## The invariant of the loop -/

section Shape

variable {Dir : Type}

/-- An admitted binding is that of the request. -/
structure Admits (binding : ResourceBinding) (admitted : IsolatedBinding Dir) : Prop where
  logicalPath : admitted.logicalPath = binding.mountPoint.path
  access : admitted.access = binding.access
  synthetic : admitted.syntheticDestination = binding.role.isInput

/-- What the admitted bindings of a request look like. -/
structure Destinations (request : List ResourceBinding)
    (bindings : List (IsolatedBinding Dir)) : Prop where
  origin : ∀ admitted ∈ bindings, ∃ binding ∈ request, Admits binding admitted
  offDevice : ∀ admitted ∈ bindings, OffDevice admitted.logicalPath
  separate : bindings.Pairwise fun left right =>
    Incomparable left.logicalPath.names right.logicalPath.names

/-- What its bindings and its namespaces look like. -/
structure Shape (request : List ResourceBinding) (bindings : List (IsolatedBinding Dir))
    (namespaces : List IsolatedNamespace) : Prop extends Destinations request bindings where
  distinct : (namespaces.map (·.logicalPath)).Nodup
  inside : ∀ value ∈ namespaces,
    value.logicalPath.trailing = false ∧ value.logicalPath.names ≠ []
  inhabited : ∀ value ∈ namespaces, value.children ≠ []
  children : ∀ value ∈ namespaces, ∀ child ∈ value.children, ∃ admitted ∈ bindings,
    admitted.syntheticDestination = true ∧
      admitted.logicalPath.names = value.logicalPath.names ++ [child]
  inputs : ∀ admitted ∈ bindings, admitted.syntheticDestination = true →
    ∃ value ∈ namespaces, ∃ child ∈ value.children,
      admitted.logicalPath.names = value.logicalPath.names ++ [child]

theorem shape_nil : Shape [] ([] : List (IsolatedBinding Dir)) [] where
  origin := by simp
  offDevice := by simp
  separate := List.Pairwise.nil
  distinct := List.nodup_nil
  inside := by simp
  inhabited := by simp
  children := by simp
  inputs := by simp

variable {request : List ResourceBinding} {bindings : List (IsolatedBinding Dir)}
variable {namespaces after : List IsolatedNamespace}

theorem Destinations.add (destinations : Destinations request bindings)
    {binding : ResourceBinding} {admitted : IsolatedBinding Dir}
    (admits : Admits binding admitted) (off : OffDevice admitted.logicalPath)
    (separate : ∀ other ∈ bindings,
      Incomparable other.logicalPath.names admitted.logicalPath.names) :
    Destinations (request ++ [binding]) (bindings ++ [admitted]) where
  origin := by
    intro candidate member
    rcases List.mem_append.mp member with old | new
    · rcases destinations.origin candidate old with ⟨found, inside, same⟩
      exact ⟨found, List.mem_append_left _ inside, same⟩
    · rw [List.mem_singleton.mp new]
      exact ⟨binding, by simp, admits⟩
  offDevice := by
    intro candidate member
    rcases List.mem_append.mp member with old | new
    · exact destinations.offDevice candidate old
    · rw [List.mem_singleton.mp new]
      exact off
  separate := by
    rw [List.pairwise_append]
    refine ⟨destinations.separate, List.pairwise_singleton _ _, ?_⟩
    intro left member right single
    rw [List.mem_singleton.mp single]
    exact separate left member

/-- A binding that is not an input leaves the namespaces alone. -/
theorem Shape.addOther (shape : Shape request bindings namespaces) {binding : ResourceBinding}
    {admitted : IsolatedBinding Dir}
    (destinations : Destinations (request ++ [binding]) (bindings ++ [admitted]))
    (other : admitted.syntheticDestination = false) :
    Shape (request ++ [binding]) (bindings ++ [admitted]) namespaces where
  toDestinations := destinations
  distinct := shape.distinct
  inside := shape.inside
  inhabited := shape.inhabited
  children := by
    intro value member child among
    rcases shape.children value member child among with ⟨found, inside, facts⟩
    exact ⟨found, List.mem_append_left _ inside, facts⟩
  inputs := by
    intro candidate member synthetic
    rcases List.mem_append.mp member with old | new
    · exact shape.inputs candidate old synthetic
    · rw [List.mem_singleton.mp new, other] at synthetic
      cases synthetic

/-- An input binding becomes a child of the namespace of its parent. -/
theorem Shape.addInput (shape : Shape request bindings namespaces) {binding : ResourceBinding}
    {admitted : IsolatedBinding Dir}
    (destinations : Destinations (request ++ [binding]) (bindings ++ [admitted]))
    (input : admitted.syntheticDestination = true) {parent : Path} {identity : Inode}
    {child : Name} (flat : parent.trailing = false) (notRoot : parent.names ≠ [])
    (names : admitted.logicalPath.names = parent.names ++ [child])
    (added : ChildAdded namespaces parent identity child after) :
    Shape (request ++ [binding]) (bindings ++ [admitted]) after where
  toDestinations := destinations
  distinct := added.distinct shape.distinct
  inside := by
    intro value member
    rcases added.origin value member with ⟨old, inside, path, _⟩ | new
    · rw [path]
      exact shape.inside old inside
    · rw [new]
      exact ⟨flat, notRoot⟩
  inhabited := by
    intro value member empty
    rcases added.origin value member with ⟨old, inside, _, _, grown, _⟩ | new
    · rw [empty, List.prefix_nil] at grown
      exact shape.inhabited old inside grown
    · rw [new] at empty
      cases empty
  children := by
    intro value member name among
    rcases added.origin value member with ⟨old, inside, path, _, _, named⟩ | new
    · rcases named name among with earlier | ⟨isParent, isChild⟩
      · rcases shape.children old inside name earlier with ⟨found, present, facts⟩
        rw [path]
        exact ⟨found, List.mem_append_left _ present, facts⟩
      · rw [isParent, isChild]
        exact ⟨admitted, by simp, input, names⟩
    · rw [new] at among ⊢
      rw [List.mem_singleton.mp among]
      exact ⟨admitted, by simp, input, names⟩
  inputs := by
    intro candidate member synthetic
    rcases List.mem_append.mp member with old | new
    · rcases shape.inputs candidate old synthetic with ⟨value, inside, name, among, same⟩
      rcases added.kept value inside with ⟨kept, present, path, grown⟩
      rw [← path] at same
      exact ⟨kept, present, name, grown.subset among, same⟩
    · rw [List.mem_singleton.mp new]
      rcases added.present with ⟨value, present, path, among⟩
      rw [← path] at names
      exact ⟨value, present, child, among, names⟩

/-- The order and the repetition of children do not matter. -/
theorem mem_sortedChildren {name : Name} {children : List Name} :
    name ∈ sortedChildren children ↔ name ∈ children := by
  rw [sortedChildren, List.mem_dedup, List.mem_insertionSort]

/-- The namespaces as they are handed over. -/
def sorted (namespaces : List IsolatedNamespace) : List IsolatedNamespace :=
  namespaces.map fun value => { value with children := sortedChildren value.children }

theorem Shape.sorted (shape : Shape request bindings namespaces) :
    Shape request bindings (sorted namespaces) where
  toDestinations := shape.toDestinations
  distinct := by
    have paths : (Filesystem.sorted namespaces).map (·.logicalPath) =
        namespaces.map (·.logicalPath) := by
      simp [Filesystem.sorted]
    rw [paths]
    exact shape.distinct
  inside := by
    intro value member
    rcases List.mem_map.mp member with ⟨old, inside, rfl⟩
    exact shape.inside old inside
  inhabited := by
    intro value member empty
    rcases List.mem_map.mp member with ⟨old, inside, rfl⟩
    rcases List.exists_mem_of_ne_nil _ (shape.inhabited old inside) with ⟨name, among⟩
    have still : name ∈ sortedChildren old.children := mem_sortedChildren.mpr among
    have empty : sortedChildren old.children = [] := empty
    rw [empty] at still
    cases still
  children := by
    intro value member name among
    rcases List.mem_map.mp member with ⟨old, inside, rfl⟩
    exact shape.children old inside name (mem_sortedChildren.mp among)
  inputs := by
    intro admitted member synthetic
    rcases shape.inputs admitted member synthetic with ⟨value, inside, name, among, same⟩
    exact ⟨_, List.mem_map_of_mem inside, name, mem_sortedChildren.mpr among, same⟩

/-- The namespaces of an admission are not at or below `/dev` either. -/
theorem Shape.namespace_offDevice (shape : Shape request bindings namespaces)
    {value : IsolatedNamespace} (member : value ∈ namespaces) :
    OffDevice value.logicalPath where
  plain := (shape.inside value member).1
  inside := (shape.inside value member).2
  off := by
    intro below
    rcases List.exists_mem_of_ne_nil _ (shape.inhabited value member) with ⟨child, among⟩
    rcases shape.children value member child among with ⟨admitted, inside, _, names⟩
    apply (shape.offDevice admitted inside).off
    rw [names]
    exact below.trans (List.prefix_append _ _)

end Shape

/-! ## What the loop has established -/

section Loop

variable {Dir : Type} {views : Nat → DirectoryCalls Dir} {calls : DirectoryCalls Dir}
variable {root : Dir} {rootPath : Path}

/-- The directory of an input resource's namespace, as it was found. -/
structure AdmitsInput (calls : DirectoryCalls Dir) (root : Dir)
    (namespaces : List IsolatedNamespace) (logical : Path) (target : Dir) (identity : Inode)
    (after : List IsolatedNamespace) : Prop where
  notRoot : logical.parentPath ≠ .root
  opened : calls.openBeneath root logical.parentPath = .ok target
  empty : calls.directoryIsEmpty target = .ok true
  identified : calls.identityOf target = .ok identity
  added : ChildAdded namespaces logical.parentPath identity logical.filename after

theorem admitInput_ok {namespaces after : List IsolatedNamespace} {logical : Path}
    (done : admitInput calls root namespaces logical = .ok after) :
    ∃ target identity, AdmitsInput calls root namespaces logical target identity after := by
  simp only [admitInput, bind_eq_ok, require_eq_ok, checked_eq_ok, Bool.not_eq_true',
    Bool.or_eq_false_iff] at done
  rcases done with ⟨_, ⟨notRoot, _⟩, target, opened, _, empty, _, rfl, identity, identified,
    added⟩
  exact ⟨target, identity, by simpa using notRoot, opened, empty, identified,
    addChild_ok added⟩

/-- A mount point is the child of its parent. -/
theorem LogicalPath.names_eq (logical : LogicalPath) (inside : logical.names ≠ []) :
    logical.path.names = logical.path.parentPath.names ++ [logical.path.filename] := by
  have last := List.dropLast_append_getLast? _ (List.getLast?_eq_some_getLast inside)
  simpa [LogicalPath.path, Path.ofNames, Path.parentPath, Path.filename, Path.components,
    List.getLast?_eq_some_getLast inside] using last.symm

/-- The state of the loop after some bindings of the request. -/
structure AdmissionState.Shaped (finished : List ResourceBinding)
    (state : AdmissionState Dir) : Prop where
  logical : state.logicalPaths = state.admitted.map (·.logicalPath)
  shape : Shape finished state.admitted state.namespaces

theorem shaped_initial : (AdmissionState.initial Dir).Shaped [] :=
  ⟨rfl, shape_nil⟩

theorem shaped_add {finished : List ResourceBinding} {index : Nat}
    {state : AdmissionState Dir} {binding : ResourceBinding} {source : Dir}
    {sourceIdentity targetIdentity : Inode} {namespaces : List IsolatedNamespace}
    (shaped : state.Shaped finished)
    (admits : AdmitsBinding (views index) root rootPath state binding source sourceIdentity
      targetIdentity namespaces) :
    (state.add binding source sourceIdentity targetIdentity namespaces).Shaped
      (finished ++ [binding]) := by
  have off := admits.paths.offDevice
  have separate : ∀ other ∈ state.admitted,
      Incomparable other.logicalPath.names binding.mountPoint.path.names := by
    intro other member
    rcases shaped.shape.origin other member with ⟨earlier, _, same⟩
    have compared : apart other.logicalPath binding.mountPoint.path = true := by
      apply admits.paths.logicalApart
      rw [shaped.logical]
      exact List.mem_map_of_mem member
    rw [same.logicalPath] at compared ⊢
    exact apart_logical compared
  have destinations : Destinations (finished ++ [binding])
      (state.admitted ++ [⟨source, sourceIdentity, targetIdentity, binding.access,
        binding.mountPoint.path, binding.role.isInput⟩]) :=
    shaped.shape.toDestinations.add ⟨rfl, rfl, rfl⟩ off separate
  constructor
  · simp [AdmissionState.add, shaped.logical]
  · cases input : binding.role.isInput with
    | false =>
        have kept := (admits.other input).1
        rw [kept]
        exact shaped.shape.addOther destinations input
    | true =>
        rcases admitInput_ok (admits.input input) with ⟨target, identity, found⟩
        have names := LogicalPath.names_eq binding.mountPoint off.inside
        refine shaped.shape.addInput destinations input rfl ?_ names found.added
        intro empty
        apply found.notRoot
        simpa [Path.root, Path.parentPath, LogicalPath.path, Path.ofNames] using empty

/-- The shape of an admission. -/
theorem admitIsolatedResources_shape {rootView : Path} {request : List ResourceBinding}
    {admission : IsolatedAdmission Dir}
    (done : admitIsolatedResources views rootView request = .ok admission) :
    Shape request admission.bindings admission.namespaces := by
  simp only [admitIsolatedResources, bind_eq_ok] at done
  rcases done with ⟨_, _, opened, _, _, _, state, admitted, _, _, same⟩
  cases same
  have shaped := admitBindings_run shaped_add shaped_initial admitted
  rw [List.nil_append] at shaped
  exact shaped.shape.sorted

/-- The children of a namespace are distinct. -/
theorem admitIsolatedResources_children {rootView : Path} {request : List ResourceBinding}
    {admission : IsolatedAdmission Dir}
    (done : admitIsolatedResources views rootView request = .ok admission)
    {value : IsolatedNamespace} (member : value ∈ admission.namespaces) :
    value.children.Nodup := by
  simp only [admitIsolatedResources, bind_eq_ok] at done
  rcases done with ⟨_, _, opened, _, _, _, state, admitted, _, _, same⟩
  cases same
  rcases List.mem_map.mp member with ⟨old, _, rfl⟩
  exact List.nodup_dedup _

/-! ## Every admission that is constructed -/

/-- `/resource`. -/
def resourcePath : Path := .ofNames [['r', 'e', 's', 'o', 'u', 'r', 'c', 'e']]

/-- The admission that `probe_isolated_filesystem` makes for its fixture. -/
def probeAdmission (calls : DirectoryCalls Dir) (view material : Path) :
    Option (IsolatedAdmission Dir) := do
  let root ← (calls.openExactPath view).toOption
  let source ← (calls.openExactPath material).toOption
  let target ← (calls.openBeneath root resourcePath).toOption
  let sourceIdentity ← (calls.identityOf source).toOption
  let targetIdentity ← (calls.identityOf target).toOption
  let scratch ← calls.makeScratch.toOption
  return ⟨root, [⟨source, sourceIdentity, targetIdentity, .readOnly, resourcePath, false⟩], [],
    scratch⟩

/-- The constructor of `isolated_admission` is private to these two functions. -/
inductive Constructed (admission : IsolatedAdmission Dir) : Prop where
  | ofRequest (views : Nat → DirectoryCalls Dir) (rootView : Path)
      (request : List ResourceBinding)
      (done : admitIsolatedResources views rootView request = .ok admission)
  | ofProbe (calls : DirectoryCalls Dir) (view material : Path)
      (done : probeAdmission calls view material = some admission)

/-- No destination is the root, or at or below `/dev`. -/
structure IsolatedAdmission.OffDevice (admission : IsolatedAdmission Dir) : Prop where
  bindings : ∀ binding ∈ admission.bindings, Filesystem.OffDevice binding.logicalPath
  namespaces : ∀ value ∈ admission.namespaces, Filesystem.OffDevice value.logicalPath

theorem Constructed.offDevice {admission : IsolatedAdmission Dir}
    (constructed : Constructed admission) : admission.OffDevice := by
  cases constructed with
  | ofRequest views rootView request done =>
      have shape := admitIsolatedResources_shape done
      exact ⟨shape.offDevice, fun value member => shape.namespace_offDevice member⟩
  | ofProbe calls view material done =>
      simp only [probeAdmission, Option.bind_eq_bind, Option.bind_eq_some_iff] at done
      rcases done with ⟨root, _, source, _, target, _, _, _, _, _, scratch, _, same⟩
      cases same
      have off : Filesystem.OffDevice resourcePath := ⟨rfl, by decide, by decide⟩
      constructor
      · intro binding member
        rw [List.mem_singleton.mp member]
        exact off
      · intro value member
        cases member

end Loop

end PkgexecLinux.Filesystem

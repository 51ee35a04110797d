import PkgexecLinux.Filesystem.Admission

/-!
# Overlap of admitted host paths

`path_contains` compares components, and the normal form of a directory written
with a trailing separator has an empty last one.  This module proves exactly for
which paths that lets an overlap through.
-/

namespace PkgexecLinux.Filesystem

open Foundation

/-- The normal forms, trailing separators aside, are equal or one is an ancestor
of the other. -/
def Overlap (left right : Path) : Prop :=
  left.lexicallyNormal.names <+: right.lexicallyNormal.names ∨
    right.lexicallyNormal.names <+: left.lexicallyNormal.names

/-- The normal form of `upper` ends in a separator, and is that of a strict
ancestor of `lower`. -/
def HidesAncestor (upper lower : Path) : Prop :=
  upper.lexicallyNormal.trailing = true ∧
    upper.lexicallyNormal.names <+: lower.lexicallyNormal.names ∧
    upper.lexicallyNormal.names ≠ lower.lexicallyNormal.names

theorem HidesAncestor.overlap {upper lower : Path} (hides : HidesAncestor upper lower) :
    Overlap upper lower :=
  .inl hides.2.1

theorem apart_iff (left right : Path) :
    apart left right = true ↔
      ¬left.lexicallyNormal.components <+: right.lexicallyNormal.components ∧
      ¬right.lexicallyNormal.components <+: left.lexicallyNormal.components := by
  unfold apart
  rw [Bool.not_eq_true', Bool.or_eq_false_iff, ← Bool.not_eq_true, ← Bool.not_eq_true,
    pathContains_iff, pathContains_iff]

theorem apart_comm {left right : Path} (separate : apart left right = true) :
    apart right left = true := by
  rw [apart_iff] at separate ⊢
  exact ⟨separate.2, separate.1⟩

@[simp] theorem apart_lexicallyNormal (left right : Path) :
    apart left.lexicallyNormal right.lexicallyNormal = apart left right := by
  simp [apart, pathContains]

/-- An ancestor without a trailing separator is seen. -/
theorem components_below {upper lower : Path} (flat : upper.trailing = false)
    (above : upper.names <+: lower.names) : upper.components <+: lower.components := by
  have same : upper.components = upper.names := by simp [Path.components, flat]
  rw [same]
  exact above.trans (List.prefix_append _ _)

/-- An ancestor that the comparison does not see ends in a separator. -/
theorem hides_of_above {upper lower : Path} (separate : apart upper lower = true)
    (above : upper.lexicallyNormal.names <+: lower.lexicallyNormal.names) :
    HidesAncestor upper lower := by
  rw [apart_iff] at separate
  rcases separate with ⟨notAbove, notBelow⟩
  have trailing : upper.lexicallyNormal.trailing = true := by
    by_contra flat
    exact notAbove (components_below (eq_false_of_ne_true flat) above)
  refine ⟨trailing, above, ?_⟩
  intro same
  cases lowerTrailing : lower.lexicallyNormal.trailing with
  | true =>
      apply notAbove
      simp [Path.components, trailing, lowerTrailing, same]
  | false =>
      have below : lower.lexicallyNormal.names <+: upper.lexicallyNormal.names := by
        rewrite [same]
        exact List.prefix_rfl
      exact notBelow (components_below lowerTrailing below)

/-- Paths that passed the comparison overlap only in this way. -/
theorem hides_of_overlap {left right : Path} (separate : apart left right = true)
    (overlap : Overlap left right) : HidesAncestor left right ∨ HidesAncestor right left := by
  rcases overlap with above | below
  · exact .inl (hides_of_above separate above)
  · exact .inr (hides_of_above (apart_comm separate) below)

/-! ## What the loop has compared -/

section Loop

variable {Dir : Type} {views : Nat → DirectoryCalls Dir} {root : Dir} {rootPath : Path}

/-- All compared paths so far are apart. -/
def AdmissionState.HostsApart (rootPath : Path) (state : AdmissionState Dir) : Prop :=
  (rootPath :: state.hostPaths).Pairwise fun left right => apart left right = true

theorem hostsApart_add {state : AdmissionState Dir} {binding : ResourceBinding}
    (separate : state.HostsApart rootPath) (paths : PathsChecked rootPath state binding) :
    (rootPath :: (state.hostPaths ++ [binding.hostPath.lexicallyNormal])).Pairwise
      fun left right => apart left right = true := by
  rw [← List.cons_append, List.pairwise_append]
  refine ⟨separate, List.pairwise_singleton _ _, ?_⟩
  intro left leftMember right rightMember
  rw [List.mem_singleton.mp rightMember]
  rcases List.mem_cons.mp leftMember with isRoot | existing
  · rw [isRoot]
    exact paths.rootApart
  · exact paths.hostApart left existing

/-- What the loop has compared after some bindings of the request. -/
structure AdmissionState.Compared (rootPath : Path) (finished : List ResourceBinding)
    (state : AdmissionState Dir) : Prop where
  separate : state.HostsApart rootPath
  hosts : state.hostPaths = finished.map fun binding => binding.hostPath.lexicallyNormal

theorem compared_add {finished : List ResourceBinding} {index : Nat}
    {state : AdmissionState Dir} {binding : ResourceBinding} {source : Dir}
    {sourceIdentity targetIdentity : Inode} {namespaces : List IsolatedNamespace}
    (compared : state.Compared rootPath finished)
    (admits : AdmitsBinding (views index) root rootPath state binding source sourceIdentity
      targetIdentity namespaces) :
    (state.add binding source sourceIdentity targetIdentity namespaces).Compared rootPath
      (finished ++ [binding]) where
  separate := hostsApart_add compared.separate admits.paths
  hosts := by
    rw [AdmissionState.add, compared.hosts, List.map_append]
    rfl

theorem admitIsolatedResources_paths {rootView : Path} {bindings : List ResourceBinding}
    {admission : IsolatedAdmission Dir}
    (done : admitIsolatedResources views rootView bindings = .ok admission) :
    rootView.lexicallyNormal ≠ .root ∧
      (rootView :: bindings.map (·.hostPath)).Pairwise
        fun left right => apart left right = true := by
  simp only [admitIsolatedResources, bind_eq_ok, require_eq_ok, bne_iff_ne] at done
  rcases done with ⟨_, notRoot, opened, _, _, _, state, admitted, _⟩
  refine ⟨notRoot, ?_⟩
  have start : (AdmissionState.initial Dir).Compared rootView.lexicallyNormal [] :=
    ⟨List.pairwise_singleton _ _, rfl⟩
  have compared := admitBindings_run compared_add start admitted
  rw [List.nil_append] at compared
  have separate := compared.separate
  rw [AdmissionState.HostsApart, compared.hosts] at separate
  have normal : rootView.lexicallyNormal ::
      bindings.map (fun binding => binding.hostPath.lexicallyNormal) =
      (rootView :: bindings.map (·.hostPath)).map Path.lexicallyNormal := by
    simp
  rw [normal, List.pairwise_map] at separate
  simpa using separate

end Loop

/-! ## A host on which only the paths matter -/

/-- Every path is a directory of its own; identities are positions in `hosts`. -/
def openHost (hosts : List Path) : DirectoryCalls Path where
  openExactPath := fun path => .ok path
  openBeneath := fun _ path => .ok path
  identityOf := fun path => .ok ⟨0, hosts.idxOf path⟩
  writableByCurrentCredentials := fun _ => true
  directoryIsEmpty := fun _ => .ok true
  makeScratch := .ok .root

/-- The name of `count` letters. -/
def letters (count : Nat) : Name := List.replicate count 'a'

theorem plain_letters (count : Nat) : Path.Plain (letters count) := by
  constructor
  · intro same
    have first := congrArg List.head? same
    cases count with
    | zero => simp [letters, Path.dot] at same
    | succ count => simp [letters, Path.dot, List.replicate_succ] at first
  · intro same
    have first := congrArg List.head? same
    cases count with
    | zero => simp [letters, Path.dotDot] at same
    | succ count => simp [letters, Path.dotDot, List.replicate_succ] at first

/-- The mount point named by `count + 1` letters. -/
def letterPath (count : Nat) : LogicalPath where
  names := [letters (count + 1)]
  canonical := by
    intro name member
    rw [List.mem_singleton.mp member]
    exact ⟨by simp [letters], plain_letters (count + 1)⟩

/-- The binding made for a host path. -/
def plainBinding (count : Nat) (host : Path) : ResourceBinding :=
  ⟨.sourceTree, .readOnly, letterPath count, host⟩

/-- Read-only bindings at distinct names, one for each host path. -/
def plainBindings : Nat → List Path → List ResourceBinding
  | _, [] => []
  | count, host :: hosts =>
      plainBinding count host :: plainBindings (count + 1) hosts

theorem hostPath_plainBindings (count : Nat) (hosts : List Path) :
    (plainBindings count hosts).map (·.hostPath) = hosts := by
  induction hosts generalizing count with
  | nil => rfl
  | cons host hosts ih => simp [plainBindings, plainBinding, ih]

theorem letters_ne {left right : Nat} (different : left ≠ right) :
    letters left ≠ letters right := by
  intro same
  apply different
  have := congrArg List.length same
  simpa [letters] using this

theorem lexicallyNormal_letters (count : Nat) :
    (Path.ofNames [letters count]).lexicallyNormal = .ofNames [letters count] := by
  apply Path.lexicallyNormal_plain
  · intro name member
    rw [List.mem_singleton.mp member]
    exact plain_letters count
  · simp [Path.ofNames]

theorem apart_self (path : Path) : apart path path = false := by
  simp [apart, pathContains]

theorem apart_letters {left right : Nat} (different : left ≠ right) :
    apart (.ofNames [letters left]) (.ofNames [letters right]) = true := by
  have names := letters_ne different
  rw [apart_iff, lexicallyNormal_letters, lexicallyNormal_letters]
  simp [Path.components, Path.ofNames, names, names.symm]

/-- What the loop knows on such a host after `count` bindings. -/
structure PlainState (hosts : List Path) (count : Nat) (state : AdmissionState Path) :
    Prop where
  logical : ∀ path ∈ state.logicalPaths, ∃ size, size ≤ count ∧
    path = .ofNames [letters size]
  identities : state.sourceIdentities =
    state.hostPaths.map fun path => ⟨0, hosts.idxOf path⟩

theorem checkPaths_plain {hosts : List Path} {count : Nat} {state : AdmissionState Path}
    {rootPath host : Path} (plain : PlainState hosts count state)
    (rootApart : apart rootPath host.lexicallyNormal = true)
    (hostApart : ∀ existing ∈ state.hostPaths, apart existing host.lexicallyNormal = true) :
    checkPaths rootPath state (plainBinding count host) = .ok () := by
  have notRoot : Path.ofNames [letters (count + 1)] ≠ .root := by
    simp [Path.ofNames, Path.root]
  have notDevice : pathContains devicePath (.ofNames [letters (count + 1)]) = false := by
    rw [← Bool.not_eq_true, pathContains_iff, lexicallyNormal_letters]
    intro below
    have first : ['d', 'e', 'v'] = letters (count + 1) := by
      have device : devicePath.lexicallyNormal.components = [['d', 'e', 'v']] := by decide
      rw [device] at below
      simpa [Path.components, Path.ofNames] using below
    have head := congrArg List.head? first
    simp [letters, List.replicate_succ] at head
  have logicalApart : ∀ existing ∈ state.logicalPaths,
      apart existing (.ofNames [letters (count + 1)]) = true := by
    intro existing member
    rcases plain.logical existing member with ⟨size, bound, rfl⟩
    exact apart_letters (by omega)
  simp only [checkPaths, bind_eq_ok, require_eq_ok, bne_iff_ne, Bool.not_eq_true',
    List.all_eq_true, plainBinding, letterPath, LogicalPath.path]
  exact ⟨(), rfl, (), notRoot, (), notDevice, (), logicalApart, (), rootApart, hostApart⟩

theorem admitSource_plain {hosts : List Path} {count : Nat} {state : AdmissionState Path}
    {host : Path} (plain : PlainState hosts count state)
    (known : ∀ path ∈ state.hostPaths, path ∈ hosts)
    (hostApart : ∀ existing ∈ state.hostPaths, apart existing host.lexicallyNormal = true) :
    admitSource (openHost hosts) state (plainBinding count host) =
      .ok (host.lexicallyNormal, ⟨0, hosts.idxOf host.lexicallyNormal⟩) := by
  have fresh : state.sourceIdentities.contains
      (⟨0, hosts.idxOf host.lexicallyNormal⟩ : Inode) = false := by
    rw [plain.identities, ← Bool.not_eq_true]
    intro seen
    rw [List.contains_iff_mem, List.mem_map] at seen
    rcases seen with ⟨existing, member, same⟩
    have position : hosts.idxOf existing = hosts.idxOf host.lexicallyNormal := by
      simpa using same
    have equal := (List.idxOf_inj (known existing member)).mp position
    have separate := hostApart existing member
    rw [equal, apart_self] at separate
    cases separate
  simp only [admitSource, bind_eq_ok, checked_eq_ok, require_eq_ok, openHost, plainBinding]
  exact ⟨_, rfl, _, rfl, (), by rw [fresh]; rfl, (), rfl, rfl⟩

theorem admitBinding_plain {hosts : List Path} {count : Nat} {state : AdmissionState Path}
    (root : Path) {rootPath host : Path} (plain : PlainState hosts count state)
    (known : ∀ path ∈ state.hostPaths, path ∈ hosts)
    (rootApart : apart rootPath host.lexicallyNormal = true)
    (hostApart : ∀ existing ∈ state.hostPaths, apart existing host.lexicallyNormal = true) :
    ∃ next, admitBinding (openHost hosts) root rootPath state (plainBinding count host) =
        .ok next ∧ next.hostPaths = state.hostPaths ++ [host.lexicallyNormal] ∧
      PlainState hosts (count + 1) next := by
  have identity : admitTargetIdentity (openHost hosts) root (plainBinding count host) =
      .ok ⟨0, hosts.idxOf (.ofNames [letters (count + 1)])⟩ := rfl
  refine ⟨state.add (plainBinding count host) host.lexicallyNormal
    ⟨0, hosts.idxOf host.lexicallyNormal⟩ ⟨0, hosts.idxOf (.ofNames [letters (count + 1)])⟩
    state.namespaces, ?_, rfl, ?_⟩
  · simp only [admitBinding, bind_eq_ok]
    exact ⟨(), checkPaths_plain plain rootApart hostApart, _,
      admitSource_plain plain known hostApart, _, rfl, _, identity, rfl⟩
  · constructor
    · intro path member
      rcases List.mem_append.mp member with old | new
      · rcases plain.logical path old with ⟨size, bound, same⟩
        exact ⟨size, by omega, same⟩
      · exact ⟨count + 1, le_rfl, List.mem_singleton.mp new⟩
    · simp [AdmissionState.add, plainBinding, plain.identities]

/-- On such a host paths that are apart are admitted. -/
theorem admitBindings_plain {hosts : List Path} (root : Path) {rootPath : Path}
    (rest : List Path) (index : Nat) {count : Nat} {state : AdmissionState Path}
    (plain : PlainState hosts count state)
    (known : ∀ path ∈ state.hostPaths ++ rest.map Path.lexicallyNormal, path ∈ hosts)
    (separate : (rootPath :: (state.hostPaths ++ rest.map Path.lexicallyNormal)).Pairwise
      fun left right => apart left right = true) :
    ∃ last, admitBindings (fun _ => openHost hosts) root rootPath index state
      (plainBindings count rest) = .ok last := by
  induction rest generalizing count index state with
  | nil => exact ⟨state, rfl⟩
  | cons host rest ih =>
      rw [List.map_cons, List.append_cons] at known separate
      have knownNow : ∀ path ∈ state.hostPaths, path ∈ hosts := by
        intro path member
        exact known path (List.mem_append_left _ (List.mem_append_left _ member))
      rcases List.pairwise_cons.mp separate with ⟨fromRoot, between⟩
      have rootApart : apart rootPath host.lexicallyNormal = true := by
        apply fromRoot
        simp
      have hostApart : ∀ existing ∈ state.hostPaths,
          apart existing host.lexicallyNormal = true := by
        intro existing member
        have early := (List.pairwise_append.mp between).1
        exact (List.pairwise_append.mp early).2.2 existing member _ (by simp)
      rcases admitBinding_plain root plain knownNow rootApart hostApart with
        ⟨next, admitted, hostPaths, plainNext⟩
      rw [← hostPaths] at known separate
      rcases ih (index + 1) plainNext known separate with ⟨last, done⟩
      refine ⟨last, ?_⟩
      simp only [plainBindings, admitBindings, bind_eq_ok]
      exact ⟨next, admitted, done⟩

theorem admitIsolatedResources_plain {rootView : Path} {hosts : List Path}
    (notRoot : rootView.lexicallyNormal ≠ .root)
    (separate : (rootView :: hosts).Pairwise fun left right => apart left right = true) :
    ∃ admission, admitIsolatedResources
      (fun _ => openHost (hosts.map Path.lexicallyNormal)) rootView (plainBindings 0 hosts) =
        .ok admission := by
  have start : PlainState (hosts.map Path.lexicallyNormal) 0 (.initial Path) := by
    constructor
    · simp [AdmissionState.initial]
    · rfl
  have normal : (rootView.lexicallyNormal :: ((AdmissionState.initial Path).hostPaths ++
      hosts.map Path.lexicallyNormal)).Pairwise fun left right => apart left right = true := by
    have mapped : ((rootView :: hosts).map Path.lexicallyNormal).Pairwise
        fun left right => apart left right = true := by
      rw [List.pairwise_map]
      simpa using separate
    exact mapped
  have known : ∀ path ∈ (AdmissionState.initial Path).hostPaths ++
      hosts.map Path.lexicallyNormal, path ∈ hosts.map Path.lexicallyNormal := by
    intro path member
    exact member
  rcases admitBindings_plain rootView.lexicallyNormal hosts 1 start known normal with
    ⟨last, done⟩
  simp only [admitIsolatedResources, bind_eq_ok, require_eq_ok, bne_iff_ne]
  exact ⟨_, (), notRoot, _, rfl, _, rfl, last, done, _, rfl, rfl⟩

/-- Admitted paths never overlap, whatever the host and the rest of the request
are, exactly when the root view is refused, or two of the paths are refused by
`path_contains`, or no path that ends in a separator is an ancestor of another. -/
theorem admitted_paths_apart_iff (rootView : Path) (hosts : List Path) :
    (∀ (Dir : Type) (views : Nat → DirectoryCalls Dir) (bindings : List ResourceBinding)
      (admission : IsolatedAdmission Dir), bindings.map (·.hostPath) = hosts →
      admitIsolatedResources views rootView bindings = .ok admission →
      (rootView :: hosts).Pairwise fun left right => ¬Overlap left right) ↔
    rootView.lexicallyNormal = .root ∨
      ¬((rootView :: hosts).Pairwise fun left right => apart left right = true) ∨
      (rootView :: hosts).Pairwise fun left right =>
        ¬HidesAncestor left right ∧ ¬HidesAncestor right left := by
  constructor
  · intro disjoint
    by_contra fails
    push Not at fails
    rcases fails with ⟨notRoot, separate, hidden⟩
    rcases admitIsolatedResources_plain notRoot separate with ⟨admission, done⟩
    have apartNames := disjoint Path _ _ admission (hostPath_plainBindings 0 hosts) done
    apply hidden
    refine apartNames.imp fun noOverlap => ⟨?_, ?_⟩
    · intro hides
      exact noOverlap hides.overlap
    · intro hides
      exact noOverlap hides.overlap.symm
  · intro condition Dir views bindings admission given done
    subst given
    rcases admitIsolatedResources_paths done with ⟨notRoot, separate⟩
    rcases condition with isRoot | seen | visible
    · exact absurd isRoot notRoot
    · exact absurd separate seen
    · apply (separate.and visible).imp
      rintro left right ⟨isApart, notAbove, notBelow⟩ overlap
      rcases hides_of_overlap isApart overlap with above | below
      · exact notAbove above
      · exact notBelow below

/-- `/srv/root/`. -/
def separatedRoot : Path :=
  .parse ['/', 's', 'r', 'v', '/', 'r', 'o', 'o', 't', '/']

/-- `/srv/root/data`. -/
def nestedData : Path :=
  .parse ['/', 's', 'r', 'v', '/', 'r', 'o', 'o', 't', '/', 'd', 'a', 't', 'a']

/-- A resource below the root view is admitted when the root view is written with
a trailing separator. -/
theorem nestedData_admitted :
    ∃ admission, admitIsolatedResources (fun _ => openHost [nestedData]) separatedRoot
        [plainBinding 0 nestedData] = .ok admission ∧
      Overlap separatedRoot nestedData := by
  have separate : ([separatedRoot, nestedData]).Pairwise
      fun left right => apart left right = true := by
    decide
  rcases admitIsolatedResources_plain (by decide) separate with ⟨admission, done⟩
  refine ⟨admission, done, .inl ?_⟩
  decide

end PkgexecLinux.Filesystem

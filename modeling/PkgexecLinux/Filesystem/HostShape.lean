import PkgexecLinux.Filesystem.Admission
import PkgexecLinux.Filesystem.Resolution
import PkgexecLinux.Network.Links

/-!
# Requests of the host supervisor

`validate_host_request_shape` compares paths by their normal texts, but looks for
links, checks permissions and changes the directory by the host path as it was
given.  What holds the two together is that every prefix of the host path has been
shown not to be a link.
-/

namespace PkgexecLinux.Filesystem

open Foundation.PathWalk

/-- A host filesystem as the supervisor sees it, and the kernel's limit on the length of
a path. -/
structure HostTree where
  root : Node
  pathMax : Nat

namespace HostTree

/-- The kernel's resolution of an absolute path: a text that is too long is not looked
at. -/
def resolve (host : HostTree) (follow : Bool) (text : List Char) :
    Except Nat (Resolution Name) :=
  if host.pathMax ≤ text.length then .error Errno.enametoolong
  else Filesystem.resolve host.root follow text

/-- The object that a call is made on. -/
def object (host : HostTree) (follow : Bool) (text : List Char) : Except Nat Node :=
  match host.resolve follow text with
  | .error errno => .error errno
  | .ok found =>
      match host.root.at? found.location with
      | some node => .ok node
      | none => .error Errno.enoent

def lstat (host : HostTree) (text : List Char) : Except Nat Node := host.object false text

def stat (host : HostTree) (text : List Char) : Except Nat Node := host.object true text

/-- `access` with `X_OK`, and with `W_OK` if `write`, succeeds. -/
def access (host : HostTree) (text : List Char) (write : Bool) : Bool :=
  match host.object true text with
  | .ok (.directory searchable writable _) => searchable && (writable || !write)
  | .ok (.file executable writable) => executable && (writable || !write)
  | .ok (.symlink _) | .error _ => false

/-- `chdir`, with the location that becomes the working directory. -/
def chdir (host : HostTree) (text : List Char) : Except Nat (List Name) :=
  match host.resolve true text with
  | .error errno => .error errno
  | .ok found =>
      match host.root.at? found.location with
      | some (.directory true _ _) => .ok found.location
      | some (.directory false _ _) => .error Errno.eacces
      | _ => .error Errno.enotdir

/-- The loop of `path_has_symlink_component`. -/
def symlinkBeyond (host : HostTree) (current : List Char) : List Name → Bool
  | [] => false
  | component :: rest =>
      match host.lstat (Path.append current component) with
      | .error _ => true
      | .ok node =>
          if node.isSymlink then true
          else host.symlinkBeyond (Path.append current component) rest

/-- `path_has_symlink_component`. -/
def pathHasSymlinkComponent (host : HostTree) (text : List Char) : Bool :=
  if !isAbsolute text then true
  else host.symlinkBeyond ['/'] (Path.parse text).components

end HostTree

/-- A mount point of the request: absolute, and without dot segments. -/
structure MountPoint where
  text : List Char
  absolute : isAbsolute text = true
  canonical : (Path.parse text).lexicallyNormal = Path.parse text

/-- A binding of the request with the host path of its materialization. -/
structure HostBinding where
  access : Access
  mountPoint : MountPoint
  hostPath : List Char

structure Credentials where
  userId : Nat
  groupId : Nat
  supplementaryGroups : List Nat
  deriving DecidableEq

/-- What `validate_host_request_shape` reads of a request and its resources. -/
structure HostRequest where
  rootView : List Char
  network : Network.NetworkPolicy
  noNewPrivileges : Bool
  credentials : Credentials
  bindings : List HostBinding
  working : HostBinding
  workingBound : working ∈ bindings

namespace HostBinding

/-- The body of the loop over the bindings. -/
def rejection (host : HostTree) (binding : HostBinding) : Option String :=
  if binding.access ≠ .writable then
    some "host supervisor does not realize read-only resources"
  else if !isAbsolute binding.hostPath ||
      (Path.parse binding.hostPath).lexicallyNormal ≠
        (Path.parse binding.mountPoint.text).lexicallyNormal then
    some "resource is not already present at its logical path"
  else if host.pathHasSymlinkComponent binding.hostPath then
    some "resource path contains a symlink component"
  else if !(host.stat binding.hostPath).toOption.any Node.isDirectory then
    some "resource path is not an existing directory"
  else if !host.access binding.hostPath true then
    some "resource path is not writable by the requested credentials"
  else
    none

end HostBinding

/-- `validate_host_request_shape`; `none` is the empty diagnostic. -/
def validateHostRequestShape (host : HostTree) (current : Credentials)
    (request : HostRequest) : Option String :=
  if !(isAbsolute request.rootView && Path.parse request.rootView == Path.root) then
    some "host supervisor admits only the current / root view"
  else if request.network ≠ .allowed then
    some "host supervisor does not isolate networking"
  else if !request.noNewPrivileges then
    some "host supervisor requires no-new-privileges containment"
  else if request.credentials ≠ current then
    some "host supervisor admits only its current credentials"
  else
    match request.bindings.findSome? (HostBinding.rejection host) with
    | some diagnostic => some diagnostic
    | none =>
        if !host.access request.working.hostPath false then
          some "working directory is not searchable"
        else
          none

/-- The directory that the child of a host supervisor changes to. -/
def HostRequest.workingDirectory (request : HostRequest) : List Char := request.working.hostPath

/-! ## Paths without links -/

section Unlinked

variable {host : HostTree}

namespace HostTree

theorem resolve_short {text : List Char} (short : text.length < host.pathMax) (follow : Bool) :
    host.resolve follow text = Filesystem.resolve host.root follow text := by
  rw [resolve, if_neg (Nat.not_le_of_lt short)]

theorem resolve_long {text : List Char} (long : host.pathMax ≤ text.length) (follow : Bool) :
    host.resolve follow text = .error Errno.enametoolong := by
  rw [resolve, if_pos long]

/-- A resolution that succeeds is of a short text. -/
theorem resolve_ok {text : List Char} {follow : Bool} {found : Resolution Name}
    (resolved : host.resolve follow text = .ok found) :
    text.length < host.pathMax ∧ Filesystem.resolve host.root follow text = .ok found := by
  rcases Nat.lt_or_ge text.length host.pathMax with short | long
  · rw [resolve_short short] at resolved
    exact ⟨short, resolved⟩
  · rw [resolve_long long] at resolved
    cases resolved

/-- A call finds the object that the resolution has led to. -/
theorem object_ok {text : List Char} {follow : Bool} {node : Node}
    (made : host.object follow text = .ok node) :
    ∃ found, host.resolve follow text = .ok found ∧ host.root.at? found.location = some node := by
  rw [object] at made
  split at made
  next => cases made
  next found resolved =>
    split at made
    next present =>
      cases made
      exact ⟨found, resolved, present⟩
    next => cases made

end HostTree

/-- A component that `lstat` finds to be no link makes a step. -/
theorem step_of_lstat {finished : List (Component Name)} {middle : List Name}
    {text : List Char} {component : Component Name} {node : Node}
    (direct : Direct faults host.root.view [] finished middle)
    (spelled : componentsOf text = finished ++ [component])
    (found : host.lstat text = .ok node) (unlinked : node.isSymlink = false) :
    ∃ last, Step faults host.root.view middle component last := by
  obtain ⟨reached, resolved, present⟩ := HostTree.object_ok found
  have walked := (HostTree.resolve_ok resolved).2
  rw [resolve, spelled, linkLimit, walk, direct.walkWith_append] at walked
  exact ⟨_, step_of_result walked (Node.unlinked_of_at present unlinked)⟩

/-- One iteration of `path_has_symlink_component`. -/
theorem step_of_clear {finished rest : List Name} {middle : List Name} {name : Name}
    (direct : Direct faults host.root.view [] (finished.map component) middle)
    (spelled : (Path.parse (Path.join (finished ++ [name]))).components = finished ++ [name])
    (clear : host.symlinkBeyond (Path.join finished) (name :: rest) = false) :
    (∃ last, Step faults host.root.view middle (component name) last) ∧
      host.symlinkBeyond (Path.join (finished ++ [name])) rest = false := by
  rw [HostTree.symlinkBeyond, ← Path.join_concat] at clear
  split at clear
  next => cases clear
  next node found =>
    split at clear
    next => cases clear
    next unlinked =>
      have parts : componentsOf (Path.join (finished ++ [name])) =
          finished.map component ++ [component name] := by
        rw [componentsOf, spelled, List.map_append]
        rfl
      exact ⟨step_of_lstat direct parts found (eq_false_of_ne_true unlinked), clear⟩

/-- The loop of `path_has_symlink_component` over names. -/
theorem direct_of_clear {finished names rest middle : List Name}
    (early : ∀ name ∈ finished, Path.Named name) (named : ∀ name ∈ names, Path.Named name)
    (direct : Direct faults host.root.view [] (finished.map component) middle)
    (clear : host.symlinkBeyond (Path.join finished) (names ++ rest) = false) :
    (∃ last, Direct faults host.root.view [] ((finished ++ names).map component) last) ∧
      host.symlinkBeyond (Path.join (finished ++ names)) rest = false := by
  induction names generalizing finished middle with
  | nil => exact ⟨⟨middle, by simpa using direct⟩, by simpa using clear⟩
  | cons name names ih =>
      have further : ∀ other ∈ finished ++ [name], Path.Named other := by
        intro other member
        rcases List.mem_append.mp member with old | new
        · exact early other old
        · rw [List.mem_singleton.mp new]
          exact named name List.mem_cons_self
      have spelled : (Path.parse (Path.join (finished ++ [name]))).components =
          finished ++ [name] := by
        rw [Path.parse_join further]
        simp [Path.components]
      obtain ⟨⟨last, step⟩, onward⟩ := step_of_clear direct spelled clear
      have longer : Direct faults host.root.view [] ((finished ++ [name]).map component) last := by
        rw [List.map_append]
        exact direct.concat step
      have result := ih further (fun other member => named other (List.mem_cons_of_mem _ member))
        longer onward
      simpa using result

/-- Where a path without links leads. -/
structure Leads (root : Node) (path : Path) (location : List Name) : Prop where
  names : Direct faults root.view [] (path.names.map component) location
  trailing : path.trailing = true → ∃ searchable, root.view location = .ok (.directory searchable)

theorem leads_of_clear {text : List Char} (clear : host.pathHasSymlinkComponent text = false) :
    ∃ location, Leads host.root (Path.parse text) location := by
  unfold HostTree.pathHasSymlinkComponent at clear
  split at clear
  next => cases clear
  next =>
    have named := Path.named_parse text
    obtain ⟨⟨location, direct⟩, onward⟩ := @direct_of_clear host [] _ _ [] (by simp)
      named (.nil []) clear
    rw [List.nil_append] at direct onward
    refine ⟨location, direct, ?_⟩
    intro trailing
    rw [trailing] at onward
    have inside : (Path.parse text).names ≠ [] := by
      intro empty
      have flat : (Path.parse text).trailing = false := by
        simp only [Path.parse] at empty ⊢
        simp [empty]
      rw [flat] at trailing
      cases trailing
    have spelled : (Path.parse (Path.join ((Path.parse text).names ++ [[]]))).components =
        (Path.parse text).names ++ [[]] := by
      rw [Path.parse_join_trailing named inside]
      rfl
    obtain ⟨⟨last, step⟩, _⟩ := step_of_clear direct spelled onward
    obtain ⟨_, searchable, here, _⟩ := step.cases
    exact ⟨searchable, here⟩

/-- A path leads to its end by all of its components. -/
theorem Leads.direct {root : Node} {path : Path} {location : List Name}
    (leads : Leads root path location) :
    Direct faults root.view [] (path.components.map component) location := by
  rw [Path.components, List.map_append]
  split
  next trailing =>
    obtain ⟨searchable, directory⟩ := leads.trailing trailing
    have step : Step faults root.view location .separator location := by
      simp only [Step, advance, directory]
    exact leads.names.concat step
  next =>
    rw [List.map_nil, List.append_nil]
    exact leads.names

theorem mem_foldl_push {names stack : List Name} {name : Name}
    (member : name ∈ names.foldl Path.push stack) : name ∈ stack ∨ name ∈ names := by
  induction names generalizing stack with
  | nil => exact .inl member
  | cons first names ih =>
      rw [List.foldl_cons] at member
      rcases ih member with pushed | later
      · unfold Path.push at pushed
        split_ifs at pushed
        · exact .inl pushed
        · exact .inl (List.dropLast_subset _ pushed)
        · rcases List.mem_append.mp pushed with old | new
          · exact .inl old
          · rw [List.mem_singleton.mp new]
            exact .inr List.mem_cons_self
      · exact .inr (List.mem_cons_of_mem _ later)

/-- The normal form leads to the same location, by the location's own names. -/
theorem Leads.normal {root : Node} {path : Path} {location : List Name}
    (named : ∀ name ∈ path.names, Path.Named name) (leads : Leads root path location) :
    path.lexicallyNormal.names = location ∧ Leads root path.lexicallyNormal location := by
  have nonempty : ∀ name ∈ path.names, name ≠ [] := fun name member => (named name member).1
  have same : path.lexicallyNormal.names = location := by
    rw [leads.names.location, foldl_push_components nonempty, Path.lexicallyNormal]
  have plain := Path.plain_lexicallyNormal path
  have rooted := Rooted.top.walk leads.names
  refine ⟨same, ?_, ?_⟩
  · have proper : ∀ name ∈ path.lexicallyNormal.names, name ≠ [] := by
      intro name member
      rcases mem_foldl_push member with absurd | given
      · cases absurd
      · exact nonempty name given
    rw [map_component_plain proper plain, same]
    exact rooted
  · intro trailing
    simp only [Path.lexicallyNormal, Bool.and_eq_true, Bool.or_eq_true] at trailing
    rcases trailing.2 with kept | dots
    · exact leads.trailing kept
    · -- The last name is `.` or `..`, and both lead to a directory.
      rcases List.eq_nil_or_concat path.names with empty | ⟨front, last, split⟩
      · simp [Path.endsInDots, empty] at dots
      · rw [List.concat_eq_append] at split
        have names := leads.names
        rw [split, List.map_append] at names
        obtain ⟨middle, early, late⟩ := direct_append.mp names
        rcases late with _ | ⟨step, rest⟩
        rcases rest with _ | _
        obtain ⟨reached, searchable, here, _⟩ := step.cases
        rw [split] at dots nonempty
        rw [push_component (nonempty last (by simp)), Path.push] at reached
        simp only [Path.endsInDots, List.getLast?_append, List.getLast?_singleton,
          Option.some_or, Bool.or_eq_true, beq_iff_eq, Option.some.injEq] at dots
        split_ifs at reached with isDot isDotDot
        · rw [reached]
          exact ⟨searchable, here⟩
        · rw [reached]
          exact (Rooted.top.walk early).parent_directory here
        · rcases dots with absurdly | absurdly
          · exact absurd absurdly isDot
          · exact absurd absurdly isDotDot

/-- The text of a normal form is read back as the normal form. -/
theorem parse_text_lexicallyNormal {path : Path}
    (named : ∀ name ∈ path.names, Path.Named name) :
    Path.parse path.lexicallyNormal.text = path.lexicallyNormal := by
  have normalNamed : ∀ name ∈ path.lexicallyNormal.names, Path.Named name := by
    intro name member
    rcases mem_foldl_push member with absurd | given
    · cases absurd
    · exact named name given
  rcases normal : path.lexicallyNormal with ⟨names, trailing⟩
  rw [normal] at normalNamed
  rw [Path.text, Path.components]
  cases trailing with
  | false =>
      simp only [Bool.false_eq_true, if_false, List.append_nil]
      exact Path.parse_join normalNamed
  | true =>
      have inside : names ≠ [] := by
        intro empty
        have := congrArg Path.trailing normal
        have none := congrArg Path.names normal
        simp only [Path.lexicallyNormal] at this none
        rw [none, empty] at this
        simp at this
      exact Path.parse_join_trailing normalNamed inside

/-- A path without link components and its normal form lead to the same location, and no
link is followed. -/
theorem resolve_of_clear {text : List Char} (clear : host.pathHasSymlinkComponent text = false) :
    ∃ location node, host.root.at? location = some node ∧
      (∀ follow, resolve host.root follow text = .ok ⟨location, 0⟩) ∧
      ∀ follow, resolve host.root follow (Path.parse text).lexicallyNormal.text =
        .ok ⟨location, 0⟩ := by
  obtain ⟨location, leads⟩ := leads_of_clear clear
  have named := Path.named_parse text
  obtain ⟨_, normal⟩ := leads.normal named
  obtain ⟨node, found⟩ : ∃ node, host.root.at? location = some node := by
    by_cases inside : location = []
    · rw [inside]
      exact ⟨host.root, rfl⟩
    · obtain ⟨sight, stands⟩ := (Rooted.top.walk leads.names).exists_sight inside
      obtain ⟨node, found, _⟩ := Node.view_eq_ok.mp stands
      exact ⟨node, found⟩
  refine ⟨location, node, found, ?_, ?_⟩
  · intro follow
    exact leads.direct.walk linkLimit
  · intro follow
    rw [resolve, componentsOf, parse_text_lexicallyNormal named]
    exact normal.direct.walk linkLimit

/-- Only an absolute text is clear, and its normal form is no longer. -/
theorem length_normal_of_clear {text : List Char}
    (clear : host.pathHasSymlinkComponent text = false) :
    (Path.parse text).lexicallyNormal.text.length ≤ text.length := by
  rw [HostTree.pathHasSymlinkComponent] at clear
  split at clear
  next => cases clear
  next rooted =>
    cases text with
    | nil => exact absurd rfl rooted
    | cons first rest =>
        obtain rfl : first = '/' := by simpa [isAbsolute] using rooted
        exact Path.length_lexicallyNormal_text_le rest

/-- What an accepted binding has been found to be. -/
structure Admitted (host : HostTree) (binding : HostBinding) (location : List Name) : Prop where
  directory : ∃ entries, host.root.at? location = some (.directory true true entries)
  physical : host.resolve true binding.hostPath = .ok ⟨location, 0⟩
  /-- The components of the mount point lead there, in a text of any length. -/
  leads : resolve host.root true binding.mountPoint.text = .ok ⟨location, 0⟩
  /-- The kernel resolves the mount point as it is written with single separators. -/
  logical : host.resolve true (Path.parse binding.mountPoint.text).text = .ok ⟨location, 0⟩
  /-- It resolves the mount point as it was given unless that is too long. -/
  spelled : binding.mountPoint.text.length < host.pathMax →
    host.resolve true binding.mountPoint.text = .ok ⟨location, 0⟩

theorem admitted_of_rejection {binding : HostBinding}
    (accepted : binding.rejection host = none) : ∃ location, Admitted host binding location := by
  unfold HostBinding.rejection at accepted
  split_ifs at accepted with readOnly elsewhere linked missing closed
  simp only [Bool.not_eq_true] at linked
  simp only [ne_eq, Bool.or_eq_true, Bool.not_eq_true', decide_eq_true_eq, not_or,
    Decidable.not_not] at elsewhere
  obtain ⟨location, _, _, direct, normal⟩ := resolve_of_clear linked
  have same : (Path.parse binding.hostPath).lexicallyNormal =
      Path.parse binding.mountPoint.text := elsewhere.2.trans binding.mountPoint.canonical
  have shorter := length_normal_of_clear linked
  rw [same] at normal shorter
  simp only [Bool.not_eq_true', Bool.not_eq_false] at missing closed
  cases made : host.stat binding.hostPath with
  | error errno => simp [made, Except.toOption] at missing
  | ok node =>
      obtain ⟨found, physical, present⟩ := HostTree.object_ok made
      obtain ⟨short, walked⟩ := HostTree.resolve_ok physical
      obtain rfl : found = ⟨location, 0⟩ := by
        rw [direct] at walked
        cases walked
        rfl
      rw [made] at missing
      have made : host.object true binding.hostPath = .ok node := made
      rw [HostTree.access, made] at closed
      cases node with
      | directory searchable writable entries =>
          simp only [Bool.not_true, Bool.or_false, Bool.and_eq_true] at closed
          obtain ⟨rfl, rfl⟩ := closed
          have leads : resolve host.root true binding.mountPoint.text = .ok ⟨location, 0⟩ := by
            have again := normal true
            rwa [resolve, componentsOf, ← same, parse_text_lexicallyNormal (Path.named_parse _),
              same] at again
          refine ⟨location, ⟨entries, present⟩, physical, leads, ?_, ?_⟩
          · rw [HostTree.resolve_short (by omega)]
            exact normal true
          · intro readable
            rw [HostTree.resolve_short readable]
            exact leads
      | file | symlink => cases missing

/-- The parts of an accepted request. -/
theorem accepted_bindings {current : Credentials} {request : HostRequest}
    (accepted : validateHostRequestShape host current request = none) :
    ∀ binding ∈ request.bindings, ∃ location, Admitted host binding location := by
  have clear : request.bindings.findSome? (HostBinding.rejection host) = none := by
    cases found : request.bindings.findSome? (HostBinding.rejection host) with
    | none => rfl
    | some diagnostic =>
        rw [validateHostRequestShape, found] at accepted
        split_ifs at accepted
  intro binding member
  exact admitted_of_rejection (List.findSome?_eq_none_iff.mp clear binding member)

end Unlinked

/-- A host resource that is accepted is the directory at its logical path.  The normal
form is no longer than the text, and the kernel resolves what is short enough. -/
theorem hostResource_at_logicalPath (host : HostTree) :
    (∀ text, host.pathHasSymlinkComponent text = false →
      ∃ location node, host.root.at? location = some node ∧
        (text.length < host.pathMax →
          ∀ follow, host.resolve follow text = .ok ⟨location, 0⟩) ∧
        ((Path.parse text).lexicallyNormal.text.length < host.pathMax → ∀ follow,
          host.resolve follow (Path.parse text).lexicallyNormal.text = .ok ⟨location, 0⟩) ∧
        (Path.parse text).lexicallyNormal.text.length ≤ text.length) ∧
    ∀ current request, validateHostRequestShape host current request = none →
      (∀ binding ∈ request.bindings, ∃ location, Admitted host binding location) ∧
      ∃ location, Admitted host request.working location ∧
        host.chdir request.workingDirectory = .ok location := by
  constructor
  · intro text clear
    obtain ⟨location, node, found, direct, normal⟩ := resolve_of_clear clear
    refine ⟨location, node, found, ?_, ?_, length_normal_of_clear clear⟩
    · intro short follow
      rw [HostTree.resolve_short short, direct]
    · intro short follow
      rw [HostTree.resolve_short short, normal]
  · intro current request accepted
    have admitted := accepted_bindings accepted
    refine ⟨admitted, ?_⟩
    obtain ⟨location, working⟩ := admitted request.working request.workingBound
    obtain ⟨entries, present⟩ := working.directory
    refine ⟨location, working, ?_⟩
    rw [HostTree.chdir, HostRequest.workingDirectory, working.physical]
    simp [present]

namespace HostSample

def workName : Name := ['w', 'o', 'r', 'k']

/-- `/work` and a link `/link` to it. -/
def host : HostTree where
  root := .directory true true [
    (workName, .directory true true []),
    (['l', 'i', 'n', 'k'], .symlink ('/' :: workName))]
  pathMax := 4096

def binding : HostBinding where
  access := .writable
  mountPoint := ⟨'/' :: workName, by decide, by decide⟩
  hostPath := ['/'] ++ '/' :: workName ++ ['/', '.', '/', '.', '.'] ++ '/' :: workName

def request : HostRequest where
  rootView := ['/']
  network := .allowed
  noNewPrivileges := true
  credentials := ⟨1000, 1000, []⟩
  bindings := [binding]
  working := binding
  workingBound := List.mem_singleton_self _

end HostSample

/-- A host path with dot segments is accepted for its plain mount point. -/
theorem hostResource_at_logicalPath_dotted :
    HostSample.host.pathHasSymlinkComponent HostSample.binding.hostPath = false ∧
      (∃ location, ∀ follow,
        HostSample.host.resolve follow HostSample.binding.hostPath = .ok ⟨location, 0⟩) ∧
      validateHostRequestShape HostSample.host ⟨1000, 1000, []⟩ HostSample.request = none ∧
      ∃ location, Admitted HostSample.host HostSample.binding location ∧
        HostSample.host.chdir HostSample.request.workingDirectory = .ok location := by
  have clear : HostSample.host.pathHasSymlinkComponent HostSample.binding.hostPath = false := by
    decide
  have accepted : validateHostRequestShape HostSample.host ⟨1000, 1000, []⟩
      HostSample.request = none := by
    decide
  have result := hostResource_at_logicalPath HostSample.host
  obtain ⟨location, _, _, resolved, _⟩ := result.1 _ clear
  exact ⟨clear, ⟨location, resolved (by decide)⟩, accepted, (result.2 _ _ accepted).2⟩

/-- Separators make a path as long as one likes: no component of `//…//work` is a link, and
the kernel does not resolve it. -/
theorem hostResource_path_too_long :
    ∃ text, isAbsolute text = true ∧
      HostSample.host.pathHasSymlinkComponent text = false ∧
      ∀ follow, HostSample.host.resolve follow text = .error Errno.enametoolong := by
  have parsed := Path.parse_separators 5000 HostSample.workName
  refine ⟨List.replicate 5000 '/' ++ '/' :: HostSample.workName, ?_, ?_, ?_⟩
  · rw [isAbsolute, List.head?_append, List.head?_replicate]
    rfl
  · rw [HostTree.pathHasSymlinkComponent, isAbsolute, List.head?_append, List.head?_replicate,
      parsed]
    decide
  · intro follow
    apply HostTree.resolve_long
    rw [List.length_append, List.length_replicate]
    exact Nat.le_trans (by decide) (Nat.le_add_right 5000 _)

end PkgexecLinux.Filesystem

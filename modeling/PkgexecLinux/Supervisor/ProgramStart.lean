import PkgexecLinux.Supervisor.Setup

/-!
# What the program starts with

A setup that succeeds has realized the whole configuration: no stage undoes what an
earlier one has made.  The descriptors depend on the limits as well, since
`close_fds_except` asks for a maximum that the setup itself has lowered.
-/

namespace PkgexecLinux.Supervisor

open Foundation
open Containment (ResourceLimits rlimitNofile)
open Filesystem (Tree LogicalPath PrivateRoot Location ResourceBinding HostRequest Credentials)
open Process (RangeCalls fallbackUpper)

/-! ## One stage at a time -/

section Stages

variable {kernel : ChildKernel} {configuration : ChildConfiguration} {numbers : Numbers}
variable {state next : ChildState}

theorem startSession_ok (done : kernel.startSession state = .ok next) :
    next = { state with task := state.task.setsid } := by
  rw [ChildKernel.startSession] at done
  split at done <;> cases done
  rfl

theorem setUpStreams_ok {policies : StreamPolicies}
    (done : kernel.setUpStreams policies numbers state = .ok next) :
    ∃ descriptors, setStreams (kernel.world state.task.limits) policies numbers
        state.descriptors = some descriptors ∧ next = { state with descriptors } := by
  rw [ChildKernel.setUpStreams] at done
  split at done
  next => cases done
  next descriptors streams =>
    cases done
    exact ⟨descriptors, streams, rfl⟩

theorem realizeView_ok {admission : Filesystem.IsolatedAdmission Tree}
    (done : kernel.realizeView admission state = .ok next) :
    ∃ view, Filesystem.createPrivateRoot kernel.mount id admission = .ok view ∧
      next = { state with view := some view } := by
  rw [ChildKernel.realizeView] at done
  split at done
  next => cases done
  next view created =>
    cases done
    exact ⟨view, created, rfl⟩

theorem isolateNetwork_ok {policy : Network.NetworkPolicy}
    (done : kernel.isolateNetwork policy state = .ok next) :
    Network.setupNetworkPolicy policy kernel.namespaces = .returned none ∧
      next = { state with
        namespaces := if policy = .allowed then none else some kernel.namespaces } := by
  rw [ChildKernel.isolateNetwork] at done
  split at done
  next => cases done
  next established =>
    cases done
    exact ⟨established, rfl⟩
  all_goals cases done

/-- The directory that `chdir` leads to. -/
def Enters (kernel : ChildKernel) (view : Option PrivateRoot) :
    Surroundings → Directory → Prop
  | .host text, directory => ∃ location, kernel.host.chdir text = .ok location ∧
      directory = .host location
  | .isolated _ logical, directory => ∃ root location, view = some root ∧
      changeIn root logical = .ok location ∧ directory = .view location

theorem changeDirectory_ok {surroundings : Surroundings} {view : Option PrivateRoot}
    {directory : Directory} (done : kernel.changeDirectory surroundings view = .ok directory) :
    Enters kernel view surroundings directory := by
  rw [ChildKernel.changeDirectory.eq_def] at done
  split at done
  next => cases done
  next text _ =>
    cases changed : kernel.host.chdir text with
    | error errno =>
        rw [changed] at done
        cases done
    | ok location =>
        rw [changed] at done
        cases done
        exact ⟨location, changed, rfl⟩
  next admission logical root _ =>
    cases changed : changeIn root logical with
    | error errno =>
        rw [changed] at done
        cases done
    | ok location =>
        rw [changed] at done
        cases done
        exact ⟨root, location, rfl, changed, rfl⟩
  next => cases done

theorem enterDirectory_ok (done : kernel.enterDirectory configuration state = .ok next) :
    ∃ directory, Enters kernel state.view configuration.surroundings directory ∧
      next = { state with
        creationMask := configuration.fileCreationMask &&& 0o777
        directory := some directory } := by
  rw [ChildKernel.enterDirectory] at done
  split at done
  next => cases done
  next directory entered =>
    cases done
    exact ⟨directory, changeDirectory_ok entered, rfl⟩

theorem dropCapabilities_ok (done : kernel.dropCapabilities state = .ok next) :
    Capability.dropProcessCapabilities kernel.capset kernel.ambient = true ∧
      next = { state with capabilities := false } := by
  rw [ChildKernel.dropCapabilities] at done
  split at done
  next dropped =>
    cases done
    exact ⟨dropped, rfl⟩
  next => cases done

theorem limitResources_ok {limits : ResourceLimits}
    (done : kernel.limitResources limits state = .ok next) :
    ∃ table, Containment.setupResourceLimits kernel.refuses limits state.task.limits =
        .ok table ∧ next = { state with task := { state.task with limits := table } } := by
  rw [ChildKernel.limitResources] at done
  split at done
  next => cases done
  next table realized =>
    cases done
    exact ⟨table, realized, rfl⟩

theorem contain_ok {limits : ResourceLimits} (done : kernel.contain limits state = .ok next) :
    next = { state with
      noNewPrivileges := true
      filter := some (Containment.containmentFilter kernel.headers.compiled
        (!isEmpty limits)) } := by
  rw [ChildKernel.contain] at done
  split at done
  next => cases done
  next filter installed =>
    cases done
    rw [Containment.installProcessGroupContainment] at installed
    split_ifs at installed
    rw [Option.some.inj installed]

end Stages

/-! ## The whole setup -/

/-- What the isolation stages leave. -/
def Isolated (kernel : ChildKernel) (configuration : ChildConfiguration)
    (forked last : ChildState) : Prop :=
  match configuration.surroundings with
  | .host _ => last.view = forked.view ∧ last.namespaces = forked.namespaces ∧
      last.capabilities = forked.capabilities
  | .isolated admission _ => last.capabilities = false ∧
      (∃ view, last.view = some view ∧
        Filesystem.createPrivateRoot kernel.mount id admission = .ok view) ∧
      Network.setupNetworkPolicy configuration.network kernel.namespaces = .returned none ∧
      (configuration.network ≠ .allowed → last.namespaces = some kernel.namespaces)

/-- Everything that the stages have made is there in the end. -/
structure SetUp (kernel : ChildKernel) (configuration : ChildConfiguration) (numbers : Numbers)
    (forked last : ChildState) : Prop where
  pid : last.task.pid = forked.task.pid
  session : last.task.session = forked.task.pid
  group : last.task.group = forked.task.pid
  limits : ∀ resource, last.task.limits resource =
    Containment.realized (configuration.limits.requested resource) (forked.task.limits resource)
  streams : setStreams (kernel.world forked.task.limits) configuration.streams numbers
    (closeUnused numbers forked.descriptors) = some last.descriptors
  creationMask : last.creationMask = configuration.fileCreationMask &&& 0o777
  directory : ∃ directory, last.directory = some directory ∧
    Enters kernel last.view configuration.surroundings directory
  isolated : Isolated kernel configuration forked last
  noNewPrivileges : last.noNewPrivileges = true
  filter : last.filter = some (Containment.containmentFilter kernel.headers.compiled
    (!isEmpty configuration.limits))

theorem setUp_ok {kernel : ChildKernel} {configuration : ChildConfiguration}
    {numbers : Numbers} {forked last : ChildState}
    (done : kernel.setUp configuration numbers forked = .ok last) :
    SetUp kernel configuration numbers forked last := by
  rcases configuration with ⟨policies, mask, surroundings, network, limits⟩
  cases surroundings with
  | host text =>
      simp only [ChildKernel.setUp, ChildKernel.stages, ChildKernel.isolationStages,
        ChildKernel.capabilityStages, List.nil_append, List.cons_append,
        NamedStage.runAll_cons, NamedStage.runAll_nil] at done
      rcases done with ⟨_, started, _, streamed, _, entered, _, limited, _, contained, rfl⟩
      cases startSession_ok started
      rcases setUpStreams_ok streamed with ⟨descriptors, streams, rfl⟩
      rcases enterDirectory_ok entered with ⟨directory, enters, rfl⟩
      rcases limitResources_ok limited with ⟨table, realized, rfl⟩
      cases contain_ok contained
      exact {
        pid := rfl
        session := rfl
        group := rfl
        limits := Containment.setupResourceLimits_ok realized
        streams := streams
        creationMask := rfl
        directory := ⟨directory, rfl, enters⟩
        isolated := ⟨rfl, rfl, rfl⟩
        noNewPrivileges := rfl
        filter := rfl }
  | isolated admission logical =>
      simp only [ChildKernel.setUp, ChildKernel.stages, ChildKernel.isolationStages,
        ChildKernel.capabilityStages, List.nil_append, List.cons_append,
        NamedStage.runAll_cons, NamedStage.runAll_nil] at done
      rcases done with ⟨_, started, _, streamed, _, viewed, _, networked, _, entered, _,
        dropped, _, limited, _, contained, rfl⟩
      cases startSession_ok started
      rcases setUpStreams_ok streamed with ⟨descriptors, streams, rfl⟩
      rcases realizeView_ok viewed with ⟨view, created, rfl⟩
      rcases isolateNetwork_ok networked with ⟨established, rfl⟩
      rcases enterDirectory_ok entered with ⟨directory, enters, rfl⟩
      rcases dropCapabilities_ok dropped with ⟨_, rfl⟩
      rcases limitResources_ok limited with ⟨table, realized, rfl⟩
      cases contain_ok contained
      exact {
        pid := rfl
        session := rfl
        group := rfl
        limits := Containment.setupResourceLimits_ok realized
        streams := streams
        creationMask := rfl
        directory := ⟨directory, rfl, enters⟩
        isolated := ⟨rfl, ⟨view, rfl, created⟩, established, fun restricted => if_neg restricted⟩
        noNewPrivileges := rfl
        filter := rfl }

/-! ## The descriptors of the program -/

/-- A descriptor that the caller would hand on, that no range call has closed, and that
lies beyond the loop which makes up for a failed one. -/
structure Leaks (ranges : RangeCalls) (maximum : Int) (numbers : Numbers) (table : Descriptors)
    (fd : Nat) : Prop where
  failed : ranges.allDone numbers.interpreter numbers.controlWrite = false
  unswept : ranges.swept numbers.interpreter numbers.controlWrite fd = false
  beyond : fallbackUpper maximum ≤ fd
  inheritable : ∃ handle, table.entry fd = some ⟨handle, false⟩

section Descriptors

variable {kernel : ChildKernel} {policies : StreamPolicies} {numbers : Numbers}
variable {interpreter : Inode} {table opened streams : Descriptors} {world : ChildWorld}
variable {entry : Entry Handle} {fd : Nat}

theorem entry_exec_eq_some {entry : Entry Handle} {fd : Nat} :
    table.exec.entry fd = some entry ↔
      table.entry fd = some entry ∧ entry.closeOnExec = false := by
  rw [DescriptorTable.exec, DescriptorTable.entry_closeWhere]
  cases present : table.entry fd with
  | none => simp
  | some other =>
      rcases other with ⟨object, _ | _⟩
      · simp only [Option.any_some, Bool.false_eq_true, if_false, Option.some.injEq]
        constructor
        · rintro rfl
          exact ⟨rfl, rfl⟩
        · exact fun both => both.1
      · simp only [Option.any_some, if_true, Option.some.injEq]
        constructor
        · intro absent
          cases absent
        · rintro ⟨rfl, inherited⟩
          cases inherited

/-- The ends that the child closes are closed. -/
theorem closed_of_mem (member : fd ∈ numbers.closedEnds) (above : 3 ≤ fd)
    (set : setStreams world policies numbers (closeUnused numbers opened) = some streams) :
    ((streams.close numbers.readyWrite).close numbers.startRead).entry fd = none := by
  simp only [DescriptorTable.entry_close]
  split
  · rfl
  split
  · rfl
  rw [setStreams_frame set above]
  simp only [Numbers.closedEnds, List.mem_cons, List.not_mem_nil, or_false] at member
  simp only [closeUnused, DescriptorTable.entry_close]
  grind -ring -linarith

/-- The descriptors that the call has opened do not survive `exec`. -/
theorem closeOnExec_of_opened (spec : Opened interpreter numbers table opened)
    (member : fd ∈ numbers.interpreter :: numbers.pipeEnds) (kept : fd ∉ numbers.closedEnds)
    (present : opened.entry fd = some entry) : entry.closeOnExec = true := by
  have used : fd = numbers.interpreter ∨ fd = numbers.outputWrite ∨
      fd = numbers.errorWrite ∨ fd = numbers.controlWrite := by
    simp only [Numbers.closedEnds, List.mem_cons, List.not_mem_nil, or_false] at kept
    simp only [Numbers.pipeEnds, List.mem_cons, List.not_mem_nil, or_false] at member
    tauto
  rcases used with rfl | rfl | rfl | rfl
  · rw [spec.interpreterEntry] at present
    cases present
    rfl
  · rw [spec.outputEntry] at present
    cases present
    rfl
  · rw [spec.errorEntry] at present
    cases present
    rfl
  · rw [spec.controlEntry] at present
    cases present
    rfl

/-- Above the streams the child still has what the caller had, and what the call has
opened. -/
theorem entry_before_closing (spec : Opened interpreter numbers table opened)
    (set : setStreams world policies numbers (closeUnused numbers opened) = some streams)
    (above : 3 ≤ fd) (inherited : entry.closeOnExec = false) :
    ((streams.close numbers.readyWrite).close numbers.startRead).entry fd = some entry ↔
      table.entry fd = some entry := by
  by_cases own : fd ∈ numbers.interpreter :: numbers.pipeEnds
  · have vacant : table.entry fd = none := by
      rcases List.mem_cons.mp own with rfl | member
      · exact spec.vacant
      · exact spec.free fd member
    constructor
    · intro present
      by_cases closed : fd ∈ numbers.closedEnds
      · rw [closed_of_mem closed above set] at present
        cases present
      · rw [closeHandshake_entry closed, setStreams_frame set above,
          closeUnused_entry closed] at present
        rw [closeOnExec_of_opened spec own closed present] at inherited
        cases inherited
    · intro present
      rw [vacant] at present
      cases present
  · have kept : fd ∉ numbers.closedEnds := by
      intro member
      apply own
      simp only [Numbers.closedEnds, List.mem_cons, List.not_mem_nil, or_false] at member
      simp only [Numbers.pipeEnds, List.mem_cons, List.not_mem_nil, or_false]
      tauto
    rw [closeHandshake_entry kept, setStreams_frame set above, closeUnused_entry kept,
      spec.others fd own]

/-- Above the streams the program has exactly what leaks. -/
theorem entry_program_above (spec : Opened interpreter numbers table opened)
    (standard : ∀ fd, fd < 3 → table.isOpen fd = true) {last : ChildState}
    (set : setStreams world policies numbers (closeUnused numbers opened) =
      some last.descriptors) (above : 3 ≤ fd) :
    (kernel.programDescriptors numbers last).entry fd = some entry ↔
      Leaks kernel.ranges (openMaximum (last.task.limits rlimitNofile)) numbers table fd ∧
        table.entry fd = some entry := by
  have interpreterAbove := interpreter_above spec standard
  have ordered : numbers.interpreter < numbers.controlWrite :=
    spec.above _ (by simp [Numbers.pipeEnds])
  rw [ChildKernel.programDescriptors, ChildKernel.executedDescriptors, entry_exec_eq_some,
    Process.closeFdsExcept, if_pos ordered]
  generalize openMaximum (last.task.limits rlimitNofile) = maximum
  constructor
  · rintro ⟨present, inherited⟩
    have used : (Process.closeOrdered kernel.ranges maximum numbers.interpreter
        numbers.controlWrite ((last.descriptors.close numbers.readyWrite).close
          numbers.startRead)).isOpen fd = true := by
      rw [DescriptorTable.isOpen, present]
      rfl
    rw [Process.entry_closeOrdered used] at present
    have before := (entry_before_closing spec set above inherited).mp present
    rcases (Process.isOpen_closeOrdered ..).mp used with ⟨_, unswept, either⟩
    have owned : fd ∉ numbers.interpreter :: numbers.pipeEnds := by
      intro member
      rcases List.mem_cons.mp member with rfl | member
      · rw [spec.vacant] at before
        cases before
      · rw [spec.free fd member] at before
        cases before
    have notInterpreter : fd ≠ numbers.interpreter := by
      rintro rfl
      exact owned List.mem_cons_self
    have notControl : fd ≠ numbers.controlWrite := by
      rintro rfl
      exact owned (by simp [Numbers.pipeEnds])
    have inside : fd < numberBound := by
      apply table.lt_numberBound
      rw [DescriptorTable.isOpen, before]
      rfl
    have failed : kernel.ranges.allDone numbers.interpreter numbers.controlWrite = false := by
      cases done : kernel.ranges.allDone numbers.interpreter numbers.controlWrite with
      | false => rfl
      | true =>
          rw [Process.swept_of_allDone done above inside notInterpreter notControl] at unswept
          cases unswept
    have beyond : fallbackUpper maximum ≤ fd := by
      rcases either with done | same | same | small | beyond
      · rw [failed] at done
        cases done
      · exact absurd same notInterpreter
      · exact absurd same notControl
      · omega
      · exact beyond
    refine ⟨⟨failed, unswept, beyond, entry.object, ?_⟩, before⟩
    rw [before, ← inherited]
  · rintro ⟨leaks, present⟩
    rcases leaks.inheritable with ⟨handle, found⟩
    have same : entry = ⟨handle, false⟩ := Option.some.inj (present.symm.trans found)
    subst same
    have before := (entry_before_closing spec set above rfl).mpr present
    have used : (Process.closeOrdered kernel.ranges maximum numbers.interpreter
        numbers.controlWrite ((last.descriptors.close numbers.readyWrite).close
          numbers.startRead)).isOpen fd = true := by
      apply (Process.isOpen_closeOrdered ..).mpr
      refine ⟨?_, leaks.unswept, .inr (.inr (.inr (.inr leaks.beyond)))⟩
      rw [DescriptorTable.isOpen, before]
      rfl
    refine ⟨?_, rfl⟩
    rw [Process.entry_closeOrdered used, before]

/-- The standard streams of the program are the declared ones. -/
theorem entry_program_streams (spec : Opened interpreter numbers table opened)
    (standard : ∀ fd, fd < 3 → table.isOpen fd = true) {last : ChildState}
    (set : setStreams world policies numbers (closeUnused numbers opened) =
      some last.descriptors) (small : fd < 3) :
    (kernel.programDescriptors numbers last).entry fd = declaredEntry world policies fd := by
  have interpreterAbove := interpreter_above spec standard
  have ordered : numbers.interpreter < numbers.controlWrite :=
    spec.above _ (by simp [Numbers.pipeEnds])
  have outside : fd ∉ numbers.interpreter :: numbers.pipeEnds := by
    intro member
    rcases List.mem_cons.mp member with rfl | member
    · omega
    · have := spec.above fd member
      omega
  have used : opened.isOpen fd = true := by
    rw [DescriptorTable.isOpen, spec.others fd outside]
    exact standard fd small
  have kept : Process.Kept numbers.controlWrite numbers.interpreter fd := by
    unfold Process.Kept
    omega
  have before := streams_of_opened spec set small (by omega) used
  apply Option.ext
  intro entry
  rw [ChildKernel.programDescriptors, ChildKernel.executedDescriptors, entry_exec_eq_some,
    Process.entry_closeFdsExcept _ _ (by omega) interpreterAbove kept, before]
  constructor
  · exact fun both => both.1
  · intro declared
    refine ⟨declared, ?_⟩
    rcases Option.map_eq_some_iff.mp declared with ⟨handle, _, rfl⟩
    rfl

/-- The number that is handed to `execveat` is still the interpreter's. -/
theorem object_interpreter (spec : Opened interpreter numbers table opened)
    (standard : ∀ fd, fd < 3 → table.isOpen fd = true) {last : ChildState}
    (set : setStreams world policies numbers (closeUnused numbers opened) =
      some last.descriptors) :
    (kernel.executedDescriptors numbers last).object numbers.interpreter =
      some (.file interpreter) := by
  have interpreterAbove := interpreter_above spec standard
  have ordered : numbers.interpreter < numbers.controlWrite :=
    spec.above _ (by simp [Numbers.pipeEnds])
  have kept := spec.disjoint numbers.interpreter (by simp [Numbers.usedEnds])
  rw [DescriptorTable.object, ChildKernel.executedDescriptors,
    Process.entry_closeFdsExcept _ _ (by omega) interpreterAbove (by simp [Process.Kept]),
    closeHandshake_entry kept, setStreams_frame set interpreterAbove, closeUnused_entry kept,
    spec.interpreterEntry]
  rfl

end Descriptors

/-- The descriptors of the program.  With the standard descriptors in use when the
interpreter is opened, the program starts with the declared streams, under the number handed
to `execveat` is the interpreter, and any other descriptor is one that the caller hands on,
that the range calls leave, and that lies beyond the open-files limit which the request
itself has set. -/
theorem programDescriptors_exact {kernel : ChildKernel} {configuration : ChildConfiguration}
    {limit : Nat} {interpreter : Inode} {numbers : Numbers} {table : Descriptors}
    {forked last : ChildState}
    (opening : openDescriptors limit interpreter table = some (numbers, forked.descriptors))
    (standard : ∀ fd, fd < 3 → table.isOpen fd = true)
    (done : kernel.setUp configuration numbers forked = .ok last) :
    (∀ fd, fd < 3 → (kernel.programDescriptors numbers last).entry fd =
      declaredEntry (kernel.world forked.task.limits) configuration.streams fd) ∧
    (∀ fd entry, 3 ≤ fd → ((kernel.programDescriptors numbers last).entry fd = some entry ↔
      Leaks kernel.ranges (openMaximum (Containment.realized configuration.limits.openFiles
          (forked.task.limits rlimitNofile))) numbers table fd ∧
        table.entry fd = some entry)) ∧
    (kernel.executedDescriptors numbers last).object numbers.interpreter =
      some (.file interpreter) := by
  have spec := openDescriptors_spec opening
  have made := setUp_ok done
  have limits : last.task.limits rlimitNofile =
      Containment.realized configuration.limits.openFiles (forked.task.limits rlimitNofile) := by
    rw [made.limits rlimitNofile]
    rfl
  refine ⟨fun fd small => entry_program_streams spec standard made.streams small, ?_, ?_⟩
  · intro fd entry above
    rw [← limits]
    exact entry_program_above spec standard made.streams above
  · exact object_interpreter spec standard made.streams

/-- A kernel without `close_range`. -/
def oldKernel : ChildKernel where
  setsid := none
  nullPath := fun _ => ⟨3, .nullDevice, []⟩
  streamErrno := 0
  host := Filesystem.HostSample.host
  mount := Filesystem.Sample.kernel
  namespaces := Network.freshNamespace 0
  chdir := none
  capset := none
  ambient := none
  refuses := Containment.lowersOnly
  headers := Containment.Headers.full
  noNewPrivileges := none
  filter := none
  ranges := .unsupported

/-- A request for 16 open files on the host. -/
def fewFiles : ChildConfiguration where
  streams := capturePolicies
  fileCreationMask := 0o22
  surroundings := .host ('/' :: Filesystem.HostSample.workName)
  network := .allowed
  limits := ⟨none, none, some 16⟩

/-- The child of a caller that has number 20 open as well. -/
def forkedChild (descriptors : Descriptors) : ChildState where
  task := ⟨100, 7, 7, fun _ => ⟨32, 32⟩⟩
  descriptors := descriptors
  view := none
  namespaces := none
  creationMask := 0
  directory := none
  capabilities := true
  noNewPrivileges := false
  filter := none

/-- The number that is open above the new limit stays open. -/
theorem programDescriptors_exact_leak :
    ∃ numbers opened last,
      openDescriptors 32 shellInode (callerTable [0, 1, 2, 20]) = some (numbers, opened) ∧
      oldKernel.setUp fewFiles numbers (forkedChild opened) = .ok last ∧
      (oldKernel.programDescriptors numbers last).entry 20 = some ⟨.inherited 20, false⟩ := by
  have opens : ((openDescriptors 32 shellInode (callerTable [0, 1, 2, 20])).any fun handed =>
      (oldKernel.setUp fewFiles handed.1 (forkedChild handed.2)).toOption.isSome &&
        !oldKernel.ranges.allDone handed.1.interpreter handed.1.controlWrite &&
        !oldKernel.ranges.swept handed.1.interpreter handed.1.controlWrite 20) = true := by
    decide
  rcases (Option.any_eq_true _ _).mp opens with ⟨⟨numbers, opened⟩, opening, passed⟩
  simp only [Bool.and_eq_true, Bool.not_eq_true'] at passed
  rcases passed with ⟨⟨finished, failed⟩, unswept⟩
  rcases Option.isSome_iff_exists.mp finished with ⟨last, ends⟩
  have done : oldKernel.setUp fewFiles numbers (forkedChild opened) = .ok last := by
    cases setup : oldKernel.setUp fewFiles numbers (forkedChild opened) with
    | error halt =>
        rw [setup] at ends
        cases ends
    | ok other =>
        rw [setup] at ends
        cases ends
        rfl
  have standard : ∀ fd, fd < 3 → (callerTable [0, 1, 2, 20]).isOpen fd = true := by
    decide
  have opening' : openDescriptors 32 shellInode (callerTable [0, 1, 2, 20]) =
      some (numbers, (forkedChild opened).descriptors) := opening
  have exact := programDescriptors_exact opening' standard done
  have beyond : fallbackUpper (openMaximum ⟨16, 16⟩) ≤ 20 := by decide
  refine ⟨numbers, opened, last, opening, done, (exact.2.1 20 _ (by decide)).mpr ⟨?_, rfl⟩⟩
  exact ⟨failed, unswept, beyond, _, rfl⟩

end PkgexecLinux.Supervisor

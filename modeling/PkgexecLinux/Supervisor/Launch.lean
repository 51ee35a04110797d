import PkgexecLinux.Supervisor.ProgramStart
import PkgexecLinux.Supervisor.Testimony

/-!
# From the request to the program

The child under its supervisor makes the calls of its setup, and the setup makes the
program's surroundings.  Put together: whatever the interleaving, a program that has been
committed runs in what was requested, and a record that the supervisor reads names the
first stage that could not be realized.
-/

namespace PkgexecLinux.Supervisor

open Foundation Kernel
open Containment (SeccompData auditArchX8664)
open Filesystem (IsolatedAdmission Tree LogicalPath PrivateRoot Location ResourceBinding
  HostRequest Credentials AdmittedOn Realizes)

/-! ## What the filter lets through -/

/-- `read`, `write`, `close`, `close_range`, `execveat` and `exit_group`. -/
def laterNumbers : List Bpf.Word := [0, 1, 3, 436, 322, 231]

/-- The calls that `child_main` still makes under its filter; `sysconf` asks for a limit with
`prlimit64`. -/
def LaterCall (data : SeccompData) : Prop :=
  data.arch = auditArchX8664 ∧
    (data.nr ∈ laterNumbers ∨
      data.nr = Containment.Block.prlimit64.number ∧ data.thirdArgument = 0)

/-- The child can finish under its own filter. -/
theorem allowed_of_laterCall {compiled : Containment.Block → Bool} {sealResourceLimits : Bool}
    {data : SeccompData} (later : LaterCall data) :
    Bpf.run (Containment.containmentFilter compiled sealResourceLimits) data.word =
      some Containment.allow := by
  rcases later with ⟨native, either⟩
  rw [Containment.run_containmentFilter]
  rcases either with listed | ⟨number, asks⟩
  · rw [Containment.policy_of_unconcerned native]
    rintro block ⟨_, number⟩
    rw [number] at listed
    cases block <;> revert listed <;> decide
  · rw [Containment.policy_eq_ruling]
    congr 1
    apply Containment.ruling_allow native number
    rw [Containment.blockRuling, if_neg (not_not.mpr asks)]

/-! ## What was requested -/

/-- The program runs in what was requested. -/
structure Declared (kernel : ChildKernel) (configuration : ChildConfiguration)
    (forked program : ChildState) : Prop where
  /-- It leads a session and a group of its own. -/
  leads : program.task.pid = forked.task.pid ∧ program.task.session = forked.task.pid ∧
    program.task.group = forked.task.pid
  /-- Each requested limit is exact, the others are as they were. -/
  limits : ∀ resource, program.task.limits resource =
    Containment.realized (configuration.limits.requested resource) (forked.task.limits resource)
  creationMask : program.creationMask = configuration.fileCreationMask &&& 0o777
  /-- It has the filter, sealed if there are limits, that lets the child finish. -/
  contained : program.noNewPrivileges = true ∧ ∃ filter, program.filter = some filter ∧
    filter = Containment.containmentFilter kernel.headers.compiled
      (!isEmpty configuration.limits) ∧
    ∀ data, LaterCall data → Bpf.run filter data.word = some Containment.allow
  /-- On the host it is in the directory at the logical path of its working resource. -/
  hosted : ∀ text, configuration.surroundings = .host text → ∀ current request,
    Filesystem.validateHostRequestShape kernel.host current request = none →
    request.workingDirectory = text → ∃ location,
      program.directory = some (.host location) ∧
      Filesystem.Admitted kernel.host request.working location
  /-- An isolated program sees the admitted view, and is at the root of the mount of its
  working resource. -/
  viewed : ∀ admission logical, configuration.surroundings = .isolated admission logical →
    ∀ host root request, AdmittedOn host root request admission → ∃ view,
      program.view = some view ∧ Realizes host root request view ∧
      ∀ binding ∈ request, binding.mountPoint = logical → ∃ mounted mount,
        program.directory = some (.view mounted.top) ∧
        view.table.mounts mounted = some mount ∧
        host.openExactPath binding.hostPath.lexicallyNormal = .ok mount.tree ∧
        mount.readOnly = (binding.access == .readOnly)
  /-- It has no capabilities, and a network that has been found to match its policy. -/
  confined : configuration.surroundings.isIsolated = true → program.capabilities = false ∧
    (configuration.network ≠ .allowed → program.namespaces = some kernel.namespaces ∧
      ∃ socket established, Network.Configured configuration.network kernel.namespaces socket ∧
        (Network.inspectLinks socket).verdict = some (some established) ∧
        Network.snapshotMatches established configuration.network = true)

/-- The directory of an isolated program. -/
theorem changeIn_mounted {view : PrivateRoot} {logical : LogicalPath}
    {location other : Location} (walked : view.table.walk logical.names view.root = .ok other)
    (entered : changeIn view logical = .ok location) : location = other := by
  simp only [changeIn, walked] at entered
  split at entered
  next =>
    split at entered
    next =>
      cases entered
      rfl
    next => cases entered
  next => cases entered

theorem SetUp.declared {kernel : ChildKernel} {configuration : ChildConfiguration}
    {numbers : Numbers} {forked program : ChildState}
    (made : SetUp kernel configuration numbers forked program) :
    Declared kernel configuration forked program where
  leads := ⟨made.pid, made.session, made.group⟩
  limits := made.limits
  creationMask := made.creationMask
  contained := ⟨made.noNewPrivileges, _, made.filter, rfl, fun _ later =>
    allowed_of_laterCall later⟩
  hosted := by
    rintro text surroundings current request accepted rfl
    rcases made.directory with ⟨directory, present, enters⟩
    rw [surroundings] at enters
    rcases enters with ⟨location, changed, rfl⟩
    refine ⟨location, present, ?_⟩
    rcases Filesystem.accepted_bindings accepted request.working request.workingBound with
      ⟨admitted, working⟩
    rcases working.directory with ⟨entries, found⟩
    rw [Filesystem.HostTree.chdir, HostRequest.workingDirectory, working.physical] at changed
    simp only [found, Except.ok.injEq] at changed
    rw [← changed]
    exact working
  viewed := by
    intro admission logical surroundings host root request admitted
    have isolated := made.isolated
    rw [Isolated, surroundings] at isolated
    rcases isolated with ⟨_, ⟨view, present, created⟩, _⟩
    have realizes := Filesystem.realizes_of_created admitted created
    refine ⟨view, present, realizes, ?_⟩
    rintro binding member rfl
    rcases realizes.resources binding member with ⟨mounted, mount, walked, shown, opened, _, access⟩
    refine ⟨mounted, mount, ?_, shown, opened, access⟩
    rcases made.directory with ⟨directory, located, enters⟩
    rw [surroundings] at enters
    rcases enters with ⟨same, location, viewed, entered, rfl⟩
    cases present.symm.trans viewed
    rw [located, changeIn_mounted walked entered]
  confined := by
    intro isolated
    have stages := made.isolated
    rw [Isolated] at stages
    cases surroundings : configuration.surroundings with
    | host text =>
        rw [surroundings] at isolated
        cases isolated
    | isolated admission logical =>
        simp only [surroundings] at stages
        rcases stages with ⟨dropped, _, established, namespaces⟩
        refine ⟨dropped, fun restricted => ⟨namespaces restricted, ?_⟩⟩
        rcases Network.configured_of_accepted restricted established with ⟨socket, configured⟩
        rw [Network.setup_of_configured restricted configured] at established
        rcases Network.establishPolicy_accepted.mp established with ⟨links, verdict, policy⟩
        exact ⟨socket, links, configured, verdict, policy⟩

/-! ## The setup under the supervisor -/

/-- What a stage is as a call of the child; a call that never returns is none. -/
def stageCall : ChildStage × Option SetupEnd → Option SetupCall
  | (stage, none) => some (.made stage)
  | (stage, some (.failed value detail)) => some (.failed stage (childError stage value detail))
  | (_, some .blocked) => none

/-- The calls that the child makes in its setup. -/
def ChildKernel.setupCalls (kernel : ChildKernel) (configuration : ChildConfiguration)
    (numbers : Numbers) (forked : ChildState) : List SetupCall :=
  (NamedStage.trace (kernel.stages configuration numbers)
    { forked with descriptors := closeUnused numbers forked.descriptors }).filterMap stageCall

/-- The calls of a run are those of this setup, as far as it has come, and a failed
`execveat` comes after all of them. -/
inductive Answers (kernel : ChildKernel) (configuration : ChildConfiguration)
    (numbers : Numbers) (forked : ChildState) : List SetupCall → Prop where
  | partly (calls : List SetupCall) :
      calls <+: kernel.setupCalls configuration numbers forked →
      Answers kernel configuration numbers forked calls
  | refused (program : ChildState) (value detail : UInt32) :
      kernel.setUp configuration numbers forked = .ok program →
      Answers kernel configuration numbers forked
        (kernel.setupCalls configuration numbers forked ++
          [.failed .execute (childError .execute value detail)])

def SetupCall.isMade : SetupCall → Bool
  | .made _ => true
  | .failed _ _ => false

section Setup

variable {kernel : ChildKernel} {configuration : ChildConfiguration} {numbers : Numbers}
variable {forked : ChildState} {calls : List SetupCall}

theorem names_stages (kernel : ChildKernel) (configuration : ChildConfiguration)
    (numbers : Numbers) : (kernel.stages configuration numbers).map (·.name) =
    childStages configuration.surroundings.isIsolated := by
  rcases configuration with ⟨_, _, surroundings, _, _⟩
  cases surroundings <;> rfl

theorem filterMap_made (stages : List (NamedStage ChildStage ChildState SetupEnd)) :
    (stages.map fun stage => (stage.name, (none : Option SetupEnd))).filterMap stageCall =
      stages.map fun stage => .made stage.name := by
  rw [List.filterMap_map]
  exact congrFun (List.filterMap_eq_map (f := fun stage => SetupCall.made stage.name)) stages

/-- A setup that stops makes one call at most after those that have succeeded. -/
theorem setupCalls_of_error {halt : Halt ChildStage ChildState SetupEnd}
    (stopped : kernel.setUp configuration numbers forked = .error halt) :
    ∃ early stage late, kernel.stages configuration numbers = early ++ stage :: late ∧
      kernel.setupCalls configuration numbers forked =
        (early.map fun stage => .made stage.name) ++
          (stageCall (halt.name, some halt.error)).toList := by
  rcases NamedStage.runAll_eq_error.mp stopped with
    ⟨early, stage, late, whole, name, done, fails⟩
  refine ⟨early, stage, late, whole, ?_⟩
  rw [ChildKernel.setupCalls, whole, NamedStage.trace_of_error done fails,
    List.filterMap_append, filterMap_made, name]
  cases called : stageCall (halt.name, some halt.error) <;> simp [called]

theorem setupCalls_of_ok {program : ChildState}
    (done : kernel.setUp configuration numbers forked = .ok program) :
    kernel.setupCalls configuration numbers forked =
      (childStages configuration.surroundings.isIsolated).map .made := by
  rw [ChildKernel.setupCalls, NamedStage.trace_of_ok done, filterMap_made,
    ← names_stages kernel configuration numbers, List.map_map]
  rfl

/-- The setup has come to its end if the child has made all stages. -/
theorem setUp_of_allMade (answers : Answers kernel configuration numbers forked calls)
    (made : (childStages configuration.surroundings.isIsolated).map .made <+: calls) :
    ∃ program, kernel.setUp configuration numbers forked = .ok program := by
  cases stopped : kernel.setUp configuration numbers forked with
  | ok program => exact ⟨program, rfl⟩
  | error halt =>
      exfalso
      rcases setupCalls_of_error stopped with ⟨early, stage, late, whole, setup⟩
      have few : (calls.filter SetupCall.isMade).length ≤ early.length := by
        have counted : ((kernel.setupCalls configuration numbers forked).filter
            SetupCall.isMade).length = early.length := by
          rw [setup, List.filter_append, List.length_append, List.filter_eq_self.mpr]
          · cases halt.error <;> simp [stageCall, SetupCall.isMade]
          · intro call member
            rcases List.mem_map.mp member with ⟨_, _, rfl⟩
            rfl
        cases answers with
        | partly _ leads =>
            rw [← counted]
            exact (leads.sublist.filter _).length_le
        | refused program _ _ done =>
            rw [stopped] at done
            cases done
      have many := (made.sublist.filter SetupCall.isMade).length_le
      rw [List.filter_eq_self.mpr, List.length_map, ← names_stages kernel
        configuration numbers, List.length_map, whole, List.length_append, List.length_cons]
        at many
      · omega
      · intro call member
        rcases List.mem_map.mp member with ⟨_, _, rfl⟩
        rfl

/-- A call that has failed is that of the stage which ended the setup, or `execveat`. -/
theorem stopped_of_failed {stage : ChildStage} {failure : ChildError}
    (answers : Answers kernel configuration numbers forked calls)
    (failed : .failed stage failure ∈ calls) :
    (∃ program value detail, kernel.setUp configuration numbers forked = .ok program ∧
      failure = childError .execute value detail) ∨
    ∃ halt value detail, kernel.setUp configuration numbers forked = .error halt ∧
      halt.error = .failed value detail ∧ failure = childError halt.name value detail := by
  have unmade : ∀ {names : List ChildStage},
      SetupCall.failed stage failure ∉ names.map SetupCall.made := by
    intro names member
    rcases List.mem_map.mp member with ⟨_, _, same⟩
    cases same
  cases answers with
  | partly _ leads =>
      have member := leads.subset failed
      cases setup : kernel.setUp configuration numbers forked with
      | ok program =>
          rw [setupCalls_of_ok setup] at member
          exact absurd member unmade
      | error halt =>
          right
          rcases setupCalls_of_error setup with ⟨early, _, _, _, made⟩
          rw [made, List.mem_append, Option.mem_toList] at member
          rcases member with member | called
          · rcases List.mem_map.mp member with ⟨_, _, same⟩
            cases same
          · cases reason : halt.error with
            | blocked =>
                rw [reason] at called
                cases called
            | failed value detail =>
                rw [reason] at called
                cases called
                exact ⟨halt, value, detail, rfl, reason, rfl⟩
  | refused program value detail done =>
      rw [setupCalls_of_ok done, List.mem_append, List.mem_singleton] at failed
      rcases failed with member | same
      · exact absurd member unmade
      · cases same
        exact .inl ⟨program, value, detail, done, rfl⟩

end Setup

/-- The launch of the program over every interleaving of the supervisor and its child, where
the child's calls end as the kernel makes them end.  Once the `execveat` is committed, or the
start released, or a started result returned, the setup has succeeded and the program runs in
what was requested.  A record that the supervisor has read is that of the stage which the
setup could not get past, with its error and detail, or of `execveat` after a whole setup. -/
theorem launch_declared {config : Config} {token : Bool} {clock : Nat} {kernel : ChildKernel}
    {configuration : ChildConfiguration} {numbers : Numbers} {forked : ChildState}
    {moves : List Move} {last : System}
    (same : config.isolated = configuration.surroundings.isIsolated)
    (played : replay (step config) unrestricted moves (config.initial token clock) = some last)
    (answers : Answers kernel configuration numbers forked
      (setupCalls config moves (config.initial token clock))) :
    (last.child.committed = true ∨ last.locals.startReleased = true ∨
        (∃ outcome, last.outcome? = some outcome ∧ outcome.started = true) →
      ∃ program, kernel.setUp configuration numbers forked = .ok program ∧
        Declared kernel configuration forked program) ∧
    ∀ failure, ChildError.ofBytes last.locals.controlBytes = some failure →
      (∃ program value detail, kernel.setUp configuration numbers forked = .ok program ∧
        failure = childError .execute value detail) ∨
      ∃ halt value detail, kernel.setUp configuration numbers forked = .error halt ∧
        halt.error = .failed value detail ∧ failure = childError halt.name value detail := by
  have testified := testified_run played
  constructor
  · intro evidence
    have made : allMade config <+:
        setupCalls config moves (config.initial token clock) := by
      rcases evidence with committed | released
      · rw [testified.told.committed committed]
      · exact testified.released released
    rw [allMade, same] at made
    rcases setUp_of_allMade answers made with ⟨program, done⟩
    exact ⟨program, done, (setUp_ok done).declared⟩
  · intro failure decoded
    rcases testified.decoded decoded with ⟨stage, failed⟩
    exact stopped_of_failed answers failed

/-- The same limit for a program in the sample view, without a network. -/
def isolatedFiles : ChildConfiguration :=
  { fewFiles with
    surroundings := .isolated Filesystem.Sample.admission Filesystem.Sample.workPath
    network := .denied }

/-- A supervisor of the isolated backend. -/
def isolatedConfig : Config := { Config.plain false 0 with isolated := true }

/-- The `execveat` after a setup with the stages of the isolated backend. -/
def isolatedProgram : List Move := supervised 9 ++ advanced 9 ++ supervised 24 ++ advanced 3

/-- The setup on the host goes through, and the program is killed later.  The setup of the
isolated backend goes through as well, and its program sees the sample view. -/
theorem launch_declared_killed :
    (∃ numbers opened program,
      openDescriptors 32 shellInode (callerTable [0, 1, 2]) = some (numbers, opened) ∧
      oldKernel.setUp fewFiles numbers (forkedChild opened) = .ok program ∧
      Declared oldKernel fewFiles (forkedChild opened) program) ∧
    ∃ numbers opened program view,
      openDescriptors 32 shellInode (callerTable [0, 1, 2]) = some (numbers, opened) ∧
      oldKernel.setUp isolatedFiles numbers (forkedChild opened) = .ok program ∧
      Declared oldKernel isolatedFiles (forkedChild opened) program ∧
      program.view = some view ∧
      Realizes Filesystem.Sample.host Filesystem.Sample.root Filesystem.Sample.request view := by
  have launched (config : Config) (configuration : ChildConfiguration) (moves : List Move)
      (same : config.isolated = configuration.surroundings.isIsolated)
      (opens : ((openDescriptors 32 shellInode (callerTable [0, 1, 2])).any fun handed =>
        oldKernel.setupCalls configuration handed.1 (forkedChild handed.2) ==
          setupCalls config moves (config.initial false 0)) = true)
      (plays : (replay (step config) unrestricted moves (config.initial false 0)).any
        (fun last => last.child.committed) = true) :
      ∃ numbers opened program,
        openDescriptors 32 shellInode (callerTable [0, 1, 2]) = some (numbers, opened) ∧
        oldKernel.setUp configuration numbers (forkedChild opened) = .ok program ∧
        Declared oldKernel configuration (forkedChild opened) program := by
    rcases (Option.any_eq_true _ _).mp opens with ⟨⟨numbers, opened⟩, opening, test⟩
    rcases (Option.any_eq_true _ _).mp plays with ⟨last, played, committed⟩
    have answers : Answers oldKernel configuration numbers (forkedChild opened)
        (setupCalls config moves (config.initial false 0)) := by
      apply Answers.partly
      rw [eq_of_beq test]
    rcases (launch_declared same played answers).1 (.inl committed) with
      ⟨program, done, declared⟩
    exact ⟨numbers, opened, program, opening, done, declared⟩
  refine ⟨launched (Config.plain false 0) fewFiles killedProgram rfl (by decide) (by decide), ?_⟩
  rcases launched isolatedConfig isolatedFiles isolatedProgram rfl (by decide +kernel)
    (by decide) with ⟨numbers, opened, program, opening, done, declared⟩
  rcases declared.viewed _ _ rfl Filesystem.Sample.host Filesystem.Sample.root
    Filesystem.Sample.request ⟨⟨_, rfl, Filesystem.Sample.admitted⟩, _, rfl, rfl⟩ with
    ⟨view, present, realizes, _⟩
  exact ⟨numbers, opened, program, view, opening, done, declared, present, realizes⟩

end PkgexecLinux.Supervisor

import PkgexecLinux.Capability.Report
import PkgexecLinux.Capability.ResourceProbe
import PkgexecLinux.Capability.NetworkProbe
import PkgexecLinux.Capability.FixtureProbe
import PkgexecLinux.Capability.CancellationProbe

/-!
# What a profile rests on

The isolated report with its probes.  Each answer comes from some interleaving of the
probe and its child, in which the child may be killed and transfers may be cut short;
only the status of the child is not lost to another waiter.  A guarantee in the profile
that rests on a probe then means that the probe has seen done what it stands for.  Four
guarantees are sealed without a probe.
-/

namespace PkgexecLinux.Capability

open Foundation Kernel Kernel.Delegation Containment Network Filesystem Process Supervisor

variable {Dir : Type}

def enosys : Nat := 38

/-- `probe_descriptor_execution`, from the errno of an `execveat` on no descriptor; there is
none where the headers do not name the call. -/
def probeDescriptorExecution (errno : Option Nat) : Bool := errno.any fun errno => errno != enosys

/-- The answers of the kernel to the children of `capability_report::probe_isolated`, and
what they set up. -/
structure ProbeKernel (Dir : Type) where
  headers : Headers
  execveat : Option Nat
  /-- The processes and the clock that the probe of cancellation begins with. -/
  session : ProcessTable
  valid : session.Valid
  clock : Nat
  /-- The two `prctl` calls of the containment probe. -/
  noNewPrivileges : Bool
  installed : Bool
  capset : Option Nat
  ambient : Option Nat
  /-- The same two calls in the probe of each limit. -/
  limitNoNewPrivileges : SetupStage → Bool
  limitInstalled : SetupStage → Bool
  refuses : SetrlimitRule
  calls : LimitCalls
  table : LimitTable
  denied : NamespaceScript
  loopback : NamespaceScript
  roundtrip : RoundtripScript
  fixture : FixtureScript
  firstMounts : MountKernel
  secondMounts : MountKernel
  view : Dir → Tree
  admission : IsolatedAdmission Dir
  firstRoot : RootScript
  secondRoot : RootScript
  ignoresBrokenPipe : Bool

/-- The observed availability of a limit. -/
def LimitCapabilities.of (limits : LimitCapabilities) : SetupStage → Bool
  | .addressSpace => limits.addressSpace
  | .fileSize => limits.fileSize
  | .openFiles => limits.openFiles

/-- The answer comes from an interleaving in which the status of the child is not lost. -/
def Observed {Result : Type} (manner : Manner) (errand : Option Errand)
    (probe : State → Option Result) (result : Result) : Prop :=
  ∃ last, Reaches (step manner errand) unrestricted .initial last ∧ last.reaped = false ∧
    probe last = some result

namespace ProbeKernel

/-- The script of the fixture, with the answers of the two attempts. -/
def script (kernel : ProbeKernel Dir) (first second : Option SetupReport) : FixtureScript :=
  { kernel.fixture with first := first, second := second }

/-- The two findings of the realization probe. -/
def firstFinding (kernel : ProbeKernel Dir) : Option SetupReport :=
  realizationFinding (createPrivateRoot kernel.firstMounts kernel.view kernel.admission)
    kernel.firstRoot

def secondFinding (kernel : ProbeKernel Dir) : Option SetupReport :=
  realizationFinding (createPrivateRoot kernel.secondMounts kernel.view kernel.admission)
    kernel.secondRoot

/-- The answers that `capability_report::probe_isolated` gets from the probes behind its
profile.  Cancellation is probed where groups are contained, while the `stat` files of live
processes can be read. -/
structure Answers (kernel : ProbeKernel Dir) (answers : IsolatedAnswers) : Prop where
  descriptorExecution :
    answers.common.descriptorExecution = probeDescriptorExecution kernel.execveat
  cancellation : answers.common.containment = true → ∃ trial,
    Reaches Trial.step Trial.readable (Trial.initial kernel.session kernel.clock) trial ∧
    trial.place = .returned answers.common.pidfdCancellation
  containment : Observed waitsOnly
    (containmentErrand kernel.headers kernel.noNewPrivileges kernel.installed)
    (probeProcessGroupContainment true) answers.common.containment
  capabilityDrop : Observed waitsOnly (capabilityDropErrand kernel.capset kernel.ambient)
    (probeCapabilityDrop true) answers.common.capabilityDrop
  limits : ∀ kind, Observed waitsOnly
    (probeOneErrand kernel.refuses kernel.headers kernel.calls (kernel.limitNoNewPrivileges kind)
      (kernel.limitInstalled kind) kind kernel.table)
    (probeOne true) (answers.common.limits.of kind)
  denied : Observed (networkManner kernel.ignoresBrokenPipe)
    (networkErrand (networkFinding .denied kernel.denied kernel.roundtrip))
    (probeNetworkPolicy .denied ⟨none, none⟩) answers.denied
  loopback : Observed (networkManner kernel.ignoresBrokenPipe)
    (networkErrand (networkFinding .loopbackOnly kernel.loopback kernel.roundtrip))
    (probeNetworkPolicy .loopbackOnly ⟨none, none⟩) answers.loopback
  filesystem : ∃ first second,
    Observed (realizationManner kernel.ignoresBrokenPipe)
      (realizationErrand kernel.firstFinding) probeIsolatedRealization first ∧
    Observed (realizationManner kernel.ignoresBrokenPipe)
      (realizationErrand kernel.secondFinding) probeIsolatedRealization second ∧
    answers.filesystem = (probeIsolatedFilesystem (kernel.script first second)).failure

/-- A child has installed the containment filter. -/
def Contains (kernel : ProbeKernel Dir) : Prop :=
  kernel.noNewPrivileges = true ∧ kernel.installed = true

/-- A child has dropped its capabilities. -/
def Drops (kernel : ProbeKernel Dir) : Prop :=
  dropProcessCapabilities kernel.capset kernel.ambient = true

/-- Two children have realized the same admission, one after the other. -/
def Mounts (kernel : ProbeKernel Dir) : Prop :=
  (∃ root, createPrivateRoot kernel.firstMounts kernel.view kernel.admission = .ok root) ∧
    ∃ root, createPrivateRoot kernel.secondMounts kernel.view kernel.admission = .ok root

/-- Everything that the fixture and its admission had made has been removed. -/
def Cleans (kernel : ProbeKernel Dir) : Prop :=
  (kernel.script none none).Prepared ∧
    (∀ dir, (probeIsolatedFilesystem (kernel.script none none)).fixture dir = false) ∧
    ∀ dir, (probeIsolatedFilesystem (kernel.script none none)).scratch dir = false

/-- A child has lowered the limit, sealed it, and found the seal to hold. -/
def Seals (kernel : ProbeKernel Dir) (kind : SetupStage) : Prop :=
  kernel.limitNoNewPrivileges kind = true ∧ kernel.limitInstalled kind = true ∧
    2 < (kernel.table kind.resource).hard

/-- The kernel knows `execveat`. -/
def Executes (kernel : ProbeKernel Dir) : Prop :=
  ∃ errno, kernel.execveat = some errno ∧ errno ≠ enosys

/-- A session has been ended by `SIGTERM`, and its group has died out. -/
def Cancels (kernel : ProbeKernel Dir) : Prop :=
  ∃ trial, Trial.Cancelled kernel.session kernel.clock trial

/-- What a guarantee of the profile stands for, as far as a probe can show it. -/
def Realizes (kernel : ProbeKernel Dir) : Guarantee → Prop
  | .exactInterpreter => kernel.Executes
  | .rootView | .readOnlyResources | .writableResources => kernel.Mounts ∧ kernel.Drops
  | .cleanupVerified => kernel.Contains ∧ kernel.Mounts ∧ kernel.Cleans
  | .cancellation => kernel.Contains ∧ kernel.Cancels
  | .networkDenied => kernel.Contains ∧ kernel.Drops ∧
      setupNetworkPolicy .denied kernel.denied = .returned none
  | .loopbackIsolated => kernel.Contains ∧ kernel.Drops ∧
      setupNetworkPolicy .loopbackOnly kernel.loopback = .returned none ∧
      loopbackRoundtrip kernel.roundtrip = .ok ()
  | .resourceLimits => ∃ kind, kernel.Seals kind
  | .addressSpaceLimit => kernel.Seals .addressSpace
  | .fileSizeLimit => kernel.Seals .fileSize
  | .openFilesLimit => kernel.Seals .openFiles
  -- Nothing probes these.
  | .cpuTimeLimit | .processCountLimit | .closedEnvironment | .fixedCredentials
  | .completeStdoutCapture | .completeStderrCapture => False

end ProbeKernel

/-- The guarantees that are sealed without a probe. -/
def unprobed : List Guarantee :=
  [.closedEnvironment, .fixedCredentials, .completeStdoutCapture, .completeStderrCapture]

/-! ## One probe at a time -/

/-- A child that reports by its exit code has succeeded if the probe says so. -/
theorem success_of_observed {success : Bool} {forkedTrue : Bool}
    (observed : Observed waitsOnly (exitErrand (if success then 0 else 1))
      (forkedProbe true false exitedWithZero) forkedTrue) (answer : forkedTrue = true) :
    success = true := by
  rcases observed with ⟨last, run, kept, answered⟩
  rcases forkedProbe_learned run answered with ⟨waited, same, status⟩
  rw [answer, exitedWithZero_learned status, kept, Bool.false_or] at same
  exact (Bool.and_eq_true _ _ ▸ same.symm).2

/-- A realization that the probe says has succeeded. -/
theorem realized_of_observed {Root : Type} {setup : Except MountFailure Root}
    {script : RootScript} {ignoresBrokenPipe : Bool}
    (observed : Observed (realizationManner ignoresBrokenPipe)
      (realizationErrand (realizationFinding setup script)) probeIsolatedRealization none) :
    (∃ root, setup = .ok root) ∧
      dropProcessCapabilities script.capset script.ambient = true := by
  rcases observed with ⟨last, run, kept, answered⟩
  have state := state_of_answer run answered
  rw [kept] at state
  cases killed : wasKilled last with
  | true =>
      rw [killed] at state
      cases state
  | false =>
      rw [killed] at state
      have fine := stateOfFailure_eq_available state.symm
      exact realized_of_finding (Option.map_eq_none_iff.mp fine)

/-- A policy that the probe says is realized. -/
theorem established_of_observed {policy : NetworkPolicy} (restricted : policy ≠ .allowed)
    {namespaces : NamespaceScript} {roundtrip : RoundtripScript} {ignoresBrokenPipe : Bool}
    (observed : Observed (networkManner ignoresBrokenPipe)
      (networkErrand (networkFinding policy namespaces roundtrip))
      (probeNetworkPolicy policy ⟨none, none⟩) none) :
    setupNetworkPolicy policy namespaces = .returned none ∧
      (policy = .loopbackOnly → loopbackRoundtrip roundtrip = .ok ()) := by
  rcases observed with ⟨last, run, _, answered⟩
  exact established_of_finding (finding_of_true restricted run answered).1

/-! ## The report -/

namespace ProbeKernel.Answers

variable {kernel : ProbeKernel Dir} {answers : IsolatedAnswers}

theorem contains (answered : kernel.Answers answers)
    (available : answers.common.containment = true) : kernel.Contains := by
  have success := success_of_observed answered.containment available
  rw [installProcessGroupContainment] at success
  split at success
  next first =>
    split at success
    next second => exact ⟨first, second⟩
    next => cases success
  next => cases success

theorem drops (answered : kernel.Answers answers)
    (available : answers.common.capabilityDrop = true) : kernel.Drops :=
  success_of_observed answered.capabilityDrop available

theorem seals (answered : kernel.Answers answers) (accepts : AcceptsLowering kernel.refuses)
    (standard : kernel.calls.Standard) {kind : SetupStage}
    (available : answers.common.limits.of kind = true) : kernel.Seals kind := by
  have observed := answered.limits kind
  rw [probeOneErrand, probeOneCode_eq accepts standard] at observed
  have success := success_of_observed observed available
  simp only [Bool.and_eq_true, decide_eq_true_eq] at success
  exact ⟨success.1.1, success.1.2, success.2⟩

theorem executes (answered : kernel.Answers answers)
    (available : answers.common.descriptorExecution = true) : kernel.Executes := by
  rw [answered.descriptorExecution, probeDescriptorExecution, Option.any_eq_true] at available
  rcases available with ⟨errno, called, known⟩
  exact ⟨errno, called, bne_iff_ne.mp known⟩

theorem cancels (answered : kernel.Answers answers)
    (available : answers.common.cancellation = true) : kernel.Contains ∧ kernel.Cancels := by
  rw [CommonAnswers.cancellation, Bool.and_eq_true] at available
  rcases answered.cancellation available.1 with ⟨trial, run, returned⟩
  rw [available.2] at returned
  exact ⟨answered.contains available.1, trial,
    Trial.cancelled_of_true kernel.valid run returned⟩

theorem mounts (answered : kernel.Answers answers) (available : answers.filesystem = none) :
    kernel.Mounts ∧ kernel.Cleans := by
  rcases answered.filesystem with ⟨first, second, firstSeen, secondSeen, same⟩
  rcases clean_of_true (same.symm.trans available) with ⟨prepared, rfl, rfl, fixture, scratch⟩
  exact ⟨⟨(realized_of_observed firstSeen).1, (realized_of_observed secondSeen).1⟩,
    prepared, fixture, scratch⟩

end ProbeKernel.Answers

/-- Every probe fails. -/
def fruitless : IsolatedAnswers where
  common := ⟨false, false, false, ⟨false, false, false⟩, false, false, false, false,
    .unavailable, .unavailable, .unavailable, .unavailable⟩
  filesystem := some (preparationFailure eperm)
  denied := some ⟨0, 1⟩
  loopback := some ⟨0, 1⟩

/-- Nothing but these guarantees is sealed whatever the probes answer. -/
theorem unprobed_iff (strerror : UInt32 → String) (guarantee : Guarantee) :
    guarantee ∈ unprobed ↔
      ∀ answers, guarantee ∈ (isolatedReport strerror answers).guarantees := by
  constructor
  · intro member answers
    rw [mem_isolatedReport]
    simp only [unprobed, List.mem_cons, List.not_mem_nil, or_false] at member
    rcases member with rfl | rfl | rfl | rfl <;> exact True.intro
  · intro always
    have sealedAnyway := (mem_isolatedReport strerror fruitless guarantee).mp (always fruitless)
    cases guarantee <;> simp_all [fruitless, unprobed, CommonAnswers.cancellation]

/-- Every guarantee of the isolated profile that rests on a probe has been realized, over
every interleaving of every probe with its child, kills and lost records included, as long as
the statuses of the children are not taken by someone else.  The others are sealed whatever
the probes answer. -/
theorem isolatedReport_sound {kernel : ProbeKernel Dir} {answers : IsolatedAnswers}
    (accepts : AcceptsLowering kernel.refuses) (standard : kernel.calls.Standard)
    (answered : kernel.Answers answers) (strerror : UInt32 → String) :
    (∀ guarantee ∈ (isolatedReport strerror answers).guarantees, guarantee ∉ unprobed →
      kernel.Realizes guarantee) ∧
    ∀ guarantee, guarantee ∈ unprobed ↔
      ∀ answers, guarantee ∈ (isolatedReport strerror answers).guarantees := by
  refine ⟨?_, unprobed_iff strerror⟩
  intro guarantee member probed
  rw [mem_isolatedReport] at member
  cases guarantee with
  | closedEnvironment | fixedCredentials | completeStdoutCapture | completeStderrCapture =>
      exact absurd (by decide) probed
  | exactInterpreter => exact answered.executes member
  | rootView | readOnlyResources | writableResources =>
      exact ⟨(answered.mounts member.1).1, answered.drops member.2⟩
  | cleanupVerified => exact ⟨answered.contains member.1, answered.mounts member.2⟩
  | cancellation => exact answered.cancels member
  | networkDenied =>
      rcases member with ⟨contained, dropped, realized⟩
      have observed := answered.denied
      rw [realized] at observed
      exact ⟨answered.contains contained, answered.drops dropped,
        (established_of_observed (by decide) observed).1⟩
  | loopbackIsolated =>
      rcases member with ⟨contained, dropped, realized⟩
      have observed := answered.loopback
      rw [realized] at observed
      have established := established_of_observed (by decide) observed
      exact ⟨answered.contains contained, answered.drops dropped, established.1,
        established.2 rfl⟩
  | resourceLimits =>
      rcases member with available | available | available
      · exact ⟨.addressSpace, answered.seals accepts standard available⟩
      · exact ⟨.fileSize, answered.seals accepts standard available⟩
      · exact ⟨.openFiles, answered.seals accepts standard available⟩
  | addressSpaceLimit => exact answered.seals accepts standard member
  | fileSizeLimit => exact answered.seals accepts standard member
  | openFilesLimit => exact answered.seals accepts standard member
  | cpuTimeLimit | processCountLimit => exact member

/-! ## A kernel without mounts -/

/-- An interleaving that has been played. -/
theorem observed_of_play {Result : Type} [DecidableEq Result] {manner : Manner}
    {errand : Option Errand} {probe : State → Option Result} {result : Result}
    (moves : List Move)
    (played : ((replay (step manner errand) unrestricted moves .initial).any fun last =>
      !last.reaped && probe last == some result) = true) :
    Observed manner errand probe result := by
  rcases exists_reached played with ⟨last, run, test⟩
  simp only [Bool.and_eq_true, Bool.not_eq_true', beq_iff_eq] at test
  exact ⟨last, run, test.1, test.2⟩

/-- A kernel that contains groups, drops capabilities and seals limits, but gives away
neither namespaces nor mounts. -/
def mountless : ProbeKernel Unit where
  headers := Headers.full
  execveat := some 9
  session := ⟨100, [], 0⟩
  valid := ProcessTable.valid_nil 100 0
  clock := 0
  noNewPrivileges := true
  installed := true
  capset := none
  ambient := none
  limitNoNewPrivileges := fun _ => true
  limitInstalled := fun _ => true
  refuses := lowersOnly
  calls := modernCalls
  table := fun _ => ⟨16, 32⟩
  denied := deniedNamespace
  loopback := deniedNamespace
  roundtrip := plainRoundtrip
  fixture := ⟨some eperm, none, fun _ => none, none, none, none, none, fun _ => none,
    fun _ => none, none, none⟩
  firstMounts := forbidding
  secondMounts := forbidding
  view := fun _ => .directory ⟨1, 1⟩ []
  admission := bareAdmission
  firstRoot := ⟨none, none, none, none, none⟩
  secondRoot := ⟨none, none, none, none, none⟩
  ignoresBrokenPipe := false

/-- What its probes answer. -/
def mountlessAnswers : IsolatedAnswers where
  common := ⟨true, true, true, ⟨true, true, true⟩, true, true, true, true, .available,
    .available, .unavailable, .unavailable⟩
  filesystem := some (preparationFailure eperm)
  denied := some ⟨0, 1⟩
  loopback := some ⟨0, 1⟩

/-- The child exits before its parent looks. -/
def exitFirst : List Move := [.child .done, .child .done, .parent .done, .parent .done]

/-- A record that goes over at once, to a parent that reads once, or until it has it all. -/
def recordOnce : List Move :=
  [.child .done, .child .done, .parent .done, .child .done, .parent .done]

def recordWhole : List Move :=
  [.child .done, .child .done, .parent .done, .child .done, .parent .done, .parent .done]

theorem mountless_answers : mountless.Answers mountlessAnswers where
  descriptorExecution := rfl
  cancellation := by
    intro _
    have played : ((replay Trial.step Trial.readable terminatedSession
        (Trial.initial ⟨100, [], 0⟩ 0)).any fun trial =>
          trial.place == .returned true) = true := by
      decide
    rcases exists_reached played with ⟨trial, run, test⟩
    exact ⟨trial, run, eq_of_beq test⟩
  containment := observed_of_play exitFirst (by decide)
  capabilityDrop := observed_of_play exitFirst (by decide)
  limits := by
    intro kind
    have standard : modernCalls.Standard :=
      ⟨rfl, .inr ⟨rfl, by decide⟩, rfl, .inr ⟨rfl, rfl⟩⟩
    have accepts : AcceptsLowering lowersOnly := by
      intro inherited limit ordered lower
      simp [lowersOnly, ordered, lower]
    have code : probeOneErrand lowersOnly Headers.full modernCalls true true kind
        (fun _ => ⟨16, 32⟩) = exitErrand 0 := by
      rw [probeOneErrand, probeOneCode_eq accepts standard]
      rfl
    have observed : Observed waitsOnly (exitErrand 0) (probeOne true) true :=
      observed_of_play exitFirst (by decide)
    rw [← code] at observed
    cases kind <;> exact observed
  denied := observed_of_play recordWhole (by decide)
  loopback := observed_of_play recordWhole (by decide)
  filesystem := by
    have finding : realizationFinding (createPrivateRoot forbidding
        (fun _ => .directory ⟨1, 1⟩ []) bareAdmission) ⟨none, none, none, none, none⟩ =
        some ⟨mountStageCode .rootTree, 1⟩ := rfl
    have observed : Observed (realizationManner false)
        (realizationErrand (some ⟨mountStageCode .rootTree, 1⟩)) probeIsolatedRealization
        (some ⟨mountStageCode .rootTree, 1⟩) :=
      observed_of_play recordOnce (by decide)
    rw [← finding] at observed
    exact ⟨_, _, observed, observed, rfl⟩

theorem isolatedReport_sound_mountless :
    mountless.Answers mountlessAnswers ∧ mountless.Realizes .exactInterpreter ∧
      mountless.Realizes .cancellation ∧ mountless.Realizes .openFilesLimit := by
  have standard : mountless.calls.Standard :=
    ⟨rfl, .inr ⟨rfl, by decide⟩, rfl, .inr ⟨rfl, rfl⟩⟩
  have accepts : AcceptsLowering mountless.refuses := by
    intro inherited limit ordered lower
    simp [mountless, lowersOnly, ordered, lower]
  have sound := (isolatedReport_sound accepts standard mountless_answers fun _ => "").1
  exact ⟨mountless_answers, sound .exactInterpreter (by decide) (by decide),
    sound .cancellation (by decide) (by decide), sound .openFilesLimit (by decide) (by decide)⟩

end PkgexecLinux.Capability

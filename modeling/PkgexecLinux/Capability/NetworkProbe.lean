import PkgexecLinux.Capability.ForkedProbe
import PkgexecLinux.Network.Links

/-!
# The probe of a network policy

`probe_network_policy` establishes the policy in a child and reads the child's
failure from a pipe.  Of all the probes it is the only one that looks at what
`waitpid` returns, and that does not take the child's exit code alone for an answer.
-/

namespace PkgexecLinux.Capability

open Foundation Kernel Kernel.Delegation Network

/-! ## The child -/

/-- What the kernel answers to the calls of `loopback_roundtrip`: an error number for a call
that fails, whether the byte was sent, and the byte that was received. -/
structure RoundtripScript where
  listener : Option Int
  bind : Option Int
  listen : Option Int
  getsockname : Option Int
  client : Option Int
  connect : Option Int
  accept : Option Int
  sent : Bool
  received : Option UInt8
  deriving DecidableEq, Repr

/-- The byte that goes around. -/
def roundtripByte : UInt8 := 110

/-- A call that fails with an error number. -/
def tryCall (answer : Option Int) : Except Int Unit :=
  match answer with
  | some errno => .error errno
  | none => .ok ()

/-- `loopback_roundtrip`, with the error number that it leaves. -/
def loopbackRoundtrip (script : RoundtripScript) : Except Int Unit := do
  tryCall script.listener
  tryCall script.bind
  tryCall script.listen
  tryCall script.getsockname
  tryCall script.client
  tryCall script.connect
  tryCall script.accept
  if script.sent && script.received == some roundtripByte then .ok () else .error eioErrno

/-- The number of a stage. -/
def stageCode : NetworkSetupStage → UInt32
  | .networkNamespace => 0
  | .linkInspection => 1
  | .linkConfiguration => 2
  | .policyValidation => 3

/-- `network_setup_stage::loopback_roundtrip`. -/
def roundtripStage : UInt32 := 4

/-- The bit pattern of a signed error number. -/
def errorBits (error : Int) : UInt32 := UInt32.ofNat (error % 4294967296).toNat

def networkReport (failure : NetworkSetupFailure) : SetupReport :=
  ⟨stageCode failure.stage, errorBits failure.error⟩

/-- The failure of the round trip; an error number of zero becomes `EIO`. -/
def roundtripReport (errno : Int) : SetupReport :=
  ⟨roundtripStage, errorBits (if errno = 0 then eioErrno else errno)⟩

/-- The child's own finding, none if the policy is established and works. -/
def networkFinding (policy : NetworkPolicy) (namespaces : NamespaceScript)
    (roundtrip : RoundtripScript) : Option (Option SetupReport) :=
  match setupNetworkPolicy policy namespaces with
  | .returned (some failure) => some (some (networkReport failure))
  | .returned none =>
      if policy = .loopbackOnly then
        match loopbackRoundtrip roundtrip with
        | .error errno => some (some (roundtripReport errno))
        | .ok _ => some none
      else
        some none
  | .blocked | .fault | .unfinished => none

/-- A child without a failure has established the policy, and the loopback works if it is
allowed. -/
theorem established_of_finding {policy : NetworkPolicy} {namespaces : NamespaceScript}
    {roundtrip : RoundtripScript} (found : networkFinding policy namespaces roundtrip = some none) :
    setupNetworkPolicy policy namespaces = .returned none ∧
      (policy = .loopbackOnly → loopbackRoundtrip roundtrip = .ok ()) := by
  rw [networkFinding] at found
  split at found
  next => cases found
  next established =>
    refine ⟨established, ?_⟩
    intro loopback
    rw [if_pos loopback] at found
    split at found
    next => cases found
    next done => exact done
  next => cases found
  next => cases found
  next => cases found

/-- What the child writes and its exit code, by its finding. -/
def networkErrand (finding : Option (Option SetupReport)) : Option Errand :=
  finding.map fun
    | some report => ⟨report.bytes, 1⟩
    | none => ⟨[], 0⟩

/-- `write_failure` and the reading loop both go on until the record is complete. -/
def networkManner (ignoresBrokenPipe : Bool) : Manner :=
  ⟨true, true, SetupReport.size, ignoresBrokenPipe⟩

/-! ## The parent -/

/-- The answers to `pipe2` and `fork`. -/
structure Launch where
  pipe : Option Nat
  fork : Option Nat
  deriving DecidableEq, Repr

/-- The report of a record that has not come. -/
def truncatedReport : SetupReport := ⟨stageCode .policyValidation, UInt32.ofNat eio⟩

/-- The report of a status that has gone to someone else. -/
def lostReport : SetupReport := ⟨stageCode .policyValidation, UInt32.ofNat echild⟩

/-- What `probe_network_policy` makes of the bytes and the status. -/
def networkVerdict (received : List UInt8) : Option Ending → Option SetupReport
  | none => some lostReport
  | some ending =>
      if ending = .exited 0 ∧ received.length = 0 then none
      else some ((SetupReport.ofBytes received).getD truncatedReport)

/-- `probe_network_policy` for a restricting policy: the failure that it reports, or none if
it returns true. -/
def probeNetworkPolicy (policy : NetworkPolicy) (launch : Launch) (last : State) :
    Option (Option SetupReport) :=
  if policy = .allowed then some none
  else
    match launch.pipe with
    | some errno => some (some ⟨stageCode .networkNamespace, UInt32.ofNat errno⟩)
    | none =>
        match launch.fork with
        | some errno => some (some ⟨stageCode .networkNamespace, UInt32.ofNat errno⟩)
        | none =>
            match last.parent with
            | .returned received waited => some (networkVerdict received waited)
            | _ => none

/-! ## Every interleaving -/

section Interleavings

variable {policy : NetworkPolicy} {finding : Option (Option SetupReport)}
  {ignoresBrokenPipe : Bool} {last : State} {result : Option SetupReport}

theorem networkErrand_fits (ignoresBrokenPipe : Bool) (finding : Option (Option SetupReport)) :
    (networkManner ignoresBrokenPipe).Fits (networkErrand finding) where
  room := by
    rcases finding with _ | _ | report
    · exact Nat.zero_le _
    · exact Nat.zero_le _
    · exact Nat.le_refl _
  once := nofun

/-- Only a child without a failure exits with zero. -/
theorem finding_of_exit {outcome : Errand} (work : networkErrand finding = some outcome)
    (code : outcome.exitCode = 0) : finding = some none := by
  rcases finding with _ | _ | report
  · cases work
  · rfl
  · cases work
    cases code

theorem returned_of_probe (restricted : policy ≠ .allowed)
    (answered : probeNetworkPolicy policy ⟨none, none⟩ last = some result) :
    ∃ received waited, last.parent = .returned received waited ∧
      result = networkVerdict received waited := by
  simp only [probeNetworkPolicy, if_neg restricted] at answered
  split at answered
  next received waited returned =>
    cases answered
    exact ⟨received, waited, returned, rfl⟩
  next => cases answered

/-- The bytes that have come are decoded as the child's own report, or not at all. -/
theorem ofBytes_received {received : List UInt8}
    (start : received <+: recordOf (networkErrand finding)) :
    SetupReport.ofBytes received = none ∨
      ∃ report, finding = some (some report) ∧ SetupReport.ofBytes received = some report := by
  rcases finding with _ | _ | report
  · rw [List.prefix_nil.mp start]
    exact .inl rfl
  · rw [List.prefix_nil.mp start]
    exact .inl rfl
  · rcases SetupReport.ofBytes_of_prefix start with ⟨_, decoded⟩ | ⟨_, undecoded⟩
    · exact .inr ⟨report, rfl, decoded⟩
    · exact .inl undecoded

/-- An answer of true, over any run. -/
theorem finding_of_true (restricted : policy ≠ .allowed)
    (run : Reaches (step (networkManner ignoresBrokenPipe) (networkErrand finding)) unrestricted
      .initial last)
    (answered : probeNetworkPolicy policy ⟨none, none⟩ last = some none) :
    finding = some none ∧ last.reaped = false ∧ wasKilled last = false := by
  rcases returned_of_probe restricted answered with ⟨received, waited, returned, verdict⟩
  have sound := sound_run run
  rcases sound.returned received waited returned with ⟨ending, ended, answer⟩
  cases lost : last.reaped with
  | true =>
      simp only [lost, if_true] at answer
      simp [answer, networkVerdict] at verdict
  | false =>
      simp only [lost, Bool.false_eq_true, if_false] at answer
      rw [answer, networkVerdict] at verdict
      split at verdict
      next success =>
        rw [success.1] at ended
        rcases sound.exited 0 ended with ⟨outcome, work, code⟩
        exact ⟨finding_of_exit work code.symm, rfl, by simp [wasKilled, ended]⟩
      next => cases verdict

/-- An answer of false, over any run. -/
theorem report_of_false (restricted : policy ≠ .allowed)
    (run : Reaches (step (networkManner ignoresBrokenPipe) (networkErrand finding)) unrestricted
      .initial last) {report : SetupReport}
    (answered : probeNetworkPolicy policy ⟨none, none⟩ last = some (some report)) :
    if last.reaped then report = lostReport
    else finding = some (some report) ∨ report = truncatedReport := by
  rcases returned_of_probe restricted answered with ⟨received, waited, returned, verdict⟩
  rcases returned_run run returned with ⟨start, taken, _⟩
  cases lost : last.reaped with
  | true =>
      rw [taken.mpr lost, networkVerdict] at verdict
      exact Option.some.inj verdict
  | false =>
      cases waited with
      | none => simp [taken.mp rfl] at lost
      | some ending =>
          rw [networkVerdict] at verdict
          split at verdict
          next => cases verdict
          next =>
            simp only [Bool.false_eq_true, if_false]
            rcases ofBytes_received start with undecoded | ⟨own, found, decoded⟩
            · rw [undecoded] at verdict
              exact .inr (Option.some.inj verdict)
            · rw [decoded] at verdict
              rw [Option.some.inj verdict]
              exact .inl found

/-- The answer of an undisturbed run. -/
theorem finding_of_undisturbed (restricted : policy ≠ .allowed)
    (run : Reaches (step (networkManner ignoresBrokenPipe) (networkErrand finding))
      (undisturbed (networkManner ignoresBrokenPipe)) .initial last)
    (answered : probeNetworkPolicy policy ⟨none, none⟩ last = some result) :
    finding = some result := by
  rcases returned_of_probe restricted answered with ⟨received, waited, returned, rfl⟩
  rcases settled_run (networkErrand_fits ignoresBrokenPipe finding) run returned with
    ⟨outcome, work, rfl, rfl⟩
  rcases finding with _ | _ | report
  · cases work
  · cases work
    rfl
  · cases work
    simp [networkVerdict]

end Interleavings

/-- The probe of a restricting policy over every interleaving of parent and child, with
partial transfers, interruptions and kills.  True is answered only for a child that has
established the policy itself; a failure is the child's own, or says that the record or the
status has been lost; without a disturbance the answer is the child's finding.  Retries
aside, the two take at most 22 steps, and wherever they are the parent can still return. -/
theorem probeNetworkPolicy_exact {policy : NetworkPolicy} (restricted : policy ≠ .allowed)
    (namespaces : NamespaceScript) (roundtrip : RoundtripScript) (ignoresBrokenPipe : Bool) :
    (∀ last, Reaches (step (networkManner ignoresBrokenPipe)
        (networkErrand (networkFinding policy namespaces roundtrip))) unrestricted .initial last →
      (probeNetworkPolicy policy ⟨none, none⟩ last = some none →
        setupNetworkPolicy policy namespaces = .returned none ∧
        (policy = .loopbackOnly → loopbackRoundtrip roundtrip = .ok ()) ∧
        last.reaped = false ∧ wasKilled last = false) ∧
      (∀ report, probeNetworkPolicy policy ⟨none, none⟩ last = some (some report) →
        if last.reaped then report = lostReport
        else networkFinding policy namespaces roundtrip = some (some report) ∨
          report = truncatedReport)) ∧
    (∀ last result, Reaches (step (networkManner ignoresBrokenPipe)
        (networkErrand (networkFinding policy namespaces roundtrip)))
        (undisturbed (networkManner ignoresBrokenPipe)) .initial last →
      probeNetworkPolicy policy ⟨none, none⟩ last = some result →
      networkFinding policy namespaces roundtrip = some result) ∧
    (∀ own, networkFinding policy namespaces roundtrip = some own →
      ∀ moves reached, replay (step (networkManner ignoresBrokenPipe) (networkErrand (some own)))
          unrestricted moves .initial = some reached →
        ((∀ move ∈ moves, move.retry = false) → moves.length ≤ 22) ∧
        ∃ last result, Reaches (step (networkManner ignoresBrokenPipe) (networkErrand (some own)))
            (undisturbed (networkManner ignoresBrokenPipe)) reached last ∧
          probeNetworkPolicy policy ⟨none, none⟩ last = some result) := by
  refine ⟨?_, ?_, ?_⟩
  · intro last run
    refine ⟨?_, fun report answered => report_of_false restricted run answered⟩
    intro answered
    rcases finding_of_true restricted run answered with ⟨found, kept, alive⟩
    rcases established_of_finding found with ⟨established, works⟩
    exact ⟨established, works, kept, alive⟩
  · intro last result run answered
    exact finding_of_undisturbed restricted run answered
  · intro own found moves reached played
    constructor
    · intro carried
      have bounded := length_le_rank (sound_initial (networkErrand (some own))) carried played
      have start : State.initial.rank (networkManner ignoresBrokenPipe)
          (networkErrand (some own)) ≤ 22 := by
        cases own with
        | none => simp [State.rank, State.initial, Child.rank, Parent.rank, recordOf,
            networkErrand, networkManner, SetupReport.size]
        | some report => simp [State.rank, State.initial, Child.rank, Parent.rank, recordOf,
            networkErrand, networkManner, SetupReport.size]
      omega
    · rcases exists_returned (reaches_of_replay played) with
        ⟨last, received, waited, onward, returned⟩
      refine ⟨last, networkVerdict received waited, onward, ?_⟩
      simp only [probeNetworkPolicy, if_neg restricted, returned]

/-- A kernel that does not give the child a namespace. -/
def deniedNamespace : NamespaceScript := ⟨some 1, none, ⟨[], [], []⟩⟩

/-- A round trip that succeeds. -/
def plainRoundtrip : RoundtripScript :=
  ⟨none, none, none, none, none, none, none, true, some roundtripByte⟩

/-- The record goes out in two pieces and comes in three, with interruptions on both sides. -/
def brokenRecord : List Move :=
  [.child .done, .child (.count 3), .parent (.count 2), .parent .interrupted,
    .child .interrupted, .child .done, .parent (.count 1), .parent .done, .child .done,
    .parent .done, .parent .interrupted, .parent .done]

theorem probeNetworkPolicy_exact_denied :
    ∃ last, probeNetworkPolicy .loopbackOnly ⟨none, none⟩ last = some (some ⟨0, 1⟩) ∧
      setupNetworkPolicy .loopbackOnly deniedNamespace =
        .returned (some ⟨.networkNamespace, 1⟩) := by
  have finding : networkFinding .loopbackOnly deniedNamespace plainRoundtrip =
      some (some ⟨0, 1⟩) := rfl
  have played : ((replay (step (networkManner false) (networkErrand (some (some ⟨0, 1⟩))))
      (undisturbed (networkManner false)) brokenRecord .initial).any fun last =>
        (probeNetworkPolicy .loopbackOnly ⟨none, none⟩ last).isSome) = true := by
    decide
  rcases exists_reached played with ⟨last, run, test⟩
  rcases Option.isSome_iff_exists.mp test with ⟨result, answered⟩
  rw [← finding] at run
  have exact := (probeNetworkPolicy_exact (by decide) deniedNamespace plainRoundtrip false).2.1
    last result run answered
  rw [finding] at exact
  exact ⟨last, answered.trans (congrArg some (Option.some.inj exact).symm), rfl⟩

end PkgexecLinux.Capability

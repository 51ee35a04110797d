import PkgexecLinux.Foundation.Words
import PkgexecLinux.Kernel.Delegation
import PkgexecLinux.Containment.Session

/-!
# Probes in a forked child

Most capabilities are observed in a child that tries the operation and exits.  The
parents wait in a loop that ends when `waitpid` fails for another reason than a
signal, and then look at a status that nobody has written.
-/

namespace PkgexecLinux.Capability

open Foundation Kernel Kernel.Delegation Containment

/-- `capability_state`. -/
inductive CapabilityState where
  | available
  | unavailable
  | policyRestricted
  deriving DecidableEq, Repr

def eperm : Nat := 1
def eio : Nat := 5
def echild : Nat := 10
def eacces : Nat := 13

/-- The state of a capability from the Boolean that its probe returns. -/
def CapabilityState.ofBool (available : Bool) : CapabilityState :=
  if available then .available else .unavailable

/-! ## Records in memory -/

/-- `network_setup_failure` and `mount_setup_failure`: the number of the stage, and the bit
pattern of the signed error number. -/
structure SetupReport where
  stage : UInt32
  error : UInt32
  deriving DecidableEq, Repr

namespace SetupReport

/-- `sizeof` the structure. -/
def size : Nat := 8

def bytes (report : SetupReport) : List UInt8 := encode32 report.stage ++ encode32 report.error

/-- The `memcpy` of a complete record. -/
def ofBytes : List UInt8 → Option SetupReport
  | [a₀, a₁, a₂, a₃, b₀, b₁, b₂, b₃] => some ⟨decode32 a₀ a₁ a₂ a₃, decode32 b₀ b₁ b₂ b₃⟩
  | _ => none

@[simp] theorem length_bytes (report : SetupReport) : report.bytes.length = size := rfl

@[simp] theorem ofBytes_bytes (report : SetupReport) : ofBytes report.bytes = some report := by
  rcases report with ⟨stage, error⟩
  simp only [bytes, encode32, List.cons_append, List.nil_append, ofBytes, decode32_encode32]

theorem ofBytes_of_length {bytes : List UInt8} (partly : bytes.length ≠ size) :
    ofBytes bytes = none := by
  rw [ofBytes.eq_def]
  split
  · simp [size] at partly
  · rfl

/-- The beginning of a record is the record, or is not decoded. -/
theorem ofBytes_of_prefix {bytes : List UInt8} {report : SetupReport}
    (start : bytes <+: report.bytes) :
    bytes = report.bytes ∧ ofBytes bytes = some report ∨
      bytes ≠ report.bytes ∧ ofBytes bytes = none := by
  by_cases whole : bytes = report.bytes
  · exact .inl ⟨whole, by rw [whole, ofBytes_bytes]⟩
  · right
    refine ⟨whole, ofBytes_of_length ?_⟩
    intro full
    exact whole (start.eq_of_length (by rw [full, length_bytes]))

end SetupReport

/-! ## Waiting for the child -/

/-- `status` after the `waitpid` loop.  It is initialized with zero, the status of a child
that has exited with code zero, and a failed `waitpid` does not write it. -/
def statusOf : Option Ending → Ending
  | some ending => ending
  | none => .exited 0

/-- `WIFEXITED(status) && WEXITSTATUS(status) == 0`. -/
def exitedWithZero (waited : Option Ending) : Bool := statusOf waited == .exited 0

/-- A process that reads nothing and waits for its child. -/
def waitsOnly : Manner := ⟨false, false, 0, false⟩

/-- A child that reports by its exit code. -/
def exitErrand (code : Nat) : Option Errand := some ⟨[], code⟩

/-- The result of a probe that forks a child with the given exit code, from the answer to
`fork` and the state of the two processes; none as long as it has not returned. -/
def forkedProbe {Result : Type} (forked : Bool) (unforked : Result)
    (verdict : Option Ending → Result) (last : State) : Option Result :=
  if forked then
    match last.parent with
    | .returned _ waited => some (verdict waited)
    | _ => none
  else
    some unforked

/-- `probe_process_group_containment`. -/
def probeProcessGroupContainment (forked : Bool) : State → Option Bool :=
  forkedProbe forked false exitedWithZero

/-- The child of `probe_process_group_containment`. -/
def containmentErrand (headers : Headers) (noNewPrivileges installed : Bool) : Option Errand :=
  exitErrand
    (if (installProcessGroupContainment headers noNewPrivileges installed false).isSome then 0
      else 1)

/-- `drop_process_capabilities`, from the errors of its two calls. -/
def dropProcessCapabilities (capset ambient : Option Nat) : Bool :=
  match capset with
  | some _ => false
  | none =>
      match ambient with
      | some errno => errno == 22
      | none => true

/-- `probe_capability_drop`. -/
def probeCapabilityDrop (forked : Bool) : State → Option Bool :=
  forkedProbe forked false exitedWithZero

/-- The child of `probe_capability_drop`. -/
def capabilityDropErrand (capset ambient : Option Nat) : Option Errand :=
  exitErrand (if dropProcessCapabilities capset ambient then 0 else 1)

/-- The exit codes of `namespace_state`'s child, by the answer to `unshare`. -/
def unshareCode : Option Nat → Nat
  | none => 0
  | some errno => if errno = eperm then 2 else 1

/-- What `namespace_state` makes of the child's status. -/
def namespaceVerdict (waited : Option Ending) : CapabilityState :=
  match statusOf waited with
  | .killed _ => .unavailable
  | .exited code =>
      if code = 0 then .available
      else if code = 2 then .policyRestricted
      else .unavailable

/-- `namespace_state`. -/
def namespaceState (forked : Bool) : State → Option CapabilityState :=
  forkedProbe forked .unavailable namespaceVerdict

/-! ## What the answers mean -/

/-- The child has been killed. -/
def wasKilled (last : State) : Bool :=
  match last.child with
  | .ended (.killed _) => true
  | _ => false

/-- What a process that waits for a child with this exit code learns of it. -/
inductive Learned (code : Nat) (last : State) : Ending → Prop where
  | lost : last.reaped = true → Learned code last (.exited 0)
  | killed (signal : Nat) : last.reaped = false → wasKilled last = true →
      Learned code last (.killed signal)
  | found : last.reaped = false → wasKilled last = false → Learned code last (.exited code)

/-- Whatever the order of the steps, the status is the child's exit code, unless the child
has been killed or its status has gone to someone else. -/
theorem statusOf_learned {code : Nat} {last : State} {received : List UInt8}
    {waited : Option Ending}
    (run : Reaches (step waitsOnly (exitErrand code)) unrestricted .initial last)
    (returned : last.parent = .returned received waited) :
    Learned code last (statusOf waited) := by
  have sound := sound_run run
  rcases sound.returned received waited returned with ⟨ending, ended, answer⟩
  cases lost : last.reaped with
  | true =>
      rw [answer, lost]
      exact .lost lost
  | false =>
      rw [answer, lost]
      cases ending with
      | killed signal => exact .killed signal lost (by simp [wasKilled, ended])
      | exited found =>
          rcases sound.exited found ended with ⟨outcome, work, same⟩
          cases work
          cases same
          exact .found lost (by simp [wasKilled, ended])

/-- The result of a forked probe in terms of what has happened to the child. -/
theorem forkedProbe_learned {Result : Type} {unforked result : Result}
    {verdict : Option Ending → Result} {code : Nat} {last : State}
    (run : Reaches (step waitsOnly (exitErrand code)) unrestricted .initial last)
    (answered : forkedProbe true unforked verdict last = some result) :
    ∃ waited, result = verdict waited ∧ Learned code last (statusOf waited) := by
  simp only [forkedProbe, if_true] at answered
  split at answered
  next received waited returned =>
    cases answered
    exact ⟨waited, rfl, statusOf_learned run returned⟩
  next => cases answered

theorem exitedWithZero_learned {waited : Option Ending} {success : Bool} {last : State}
    (status : Learned (if success then 0 else 1) last (statusOf waited)) :
    exitedWithZero waited = (last.reaped || !wasKilled last && success) := by
  rw [exitedWithZero]
  generalize statusOf waited = ending at status
  cases status with
  | lost taken => simp [taken]
  | killed signal kept gone => simp [kept, gone]
  | found kept alive => cases success <;> simp [kept, alive]

/-- The forked probes over every order of the two processes' steps.  Each answers what its
child has found, unavailable for a child that was killed; but a status that has gone to
another waiter counts as success whatever the child has found. -/
theorem forkedProbes_exact (headers : Headers) (noNewPrivileges installed : Bool)
    (capset ambient unshare : Option Nat) :
    (∀ last result,
      Reaches (step waitsOnly (containmentErrand headers noNewPrivileges installed))
        unrestricted .initial last →
      probeProcessGroupContainment true last = some result →
      result = (last.reaped || !wasKilled last &&
        (installProcessGroupContainment headers noNewPrivileges installed false).isSome)) ∧
    (∀ last result,
      Reaches (step waitsOnly (capabilityDropErrand capset ambient)) unrestricted .initial last →
      probeCapabilityDrop true last = some result →
      result = (last.reaped || !wasKilled last && dropProcessCapabilities capset ambient)) ∧
    ∀ last result,
      Reaches (step waitsOnly (exitErrand (unshareCode unshare))) unrestricted .initial last →
      namespaceState true last = some result →
      result = if last.reaped then .available
        else if wasKilled last then .unavailable
        else match unshare with
          | none => .available
          | some errno => if errno = eperm then .policyRestricted else .unavailable := by
  refine ⟨?_, ?_, ?_⟩
  · intro last result run answered
    rcases forkedProbe_learned run answered with ⟨waited, rfl, status⟩
    exact exitedWithZero_learned status
  · intro last result run answered
    rcases forkedProbe_learned run answered with ⟨waited, rfl, status⟩
    exact exitedWithZero_learned status
  · intro last result run answered
    rcases forkedProbe_learned run answered with ⟨waited, rfl, status⟩
    rw [namespaceVerdict]
    generalize statusOf waited = ending at status
    cases status with
    | lost taken => simp [taken]
    | killed signal kept gone => simp [kept, gone]
    | found kept alive =>
        cases unshare with
        | none => simp [kept, alive, unshareCode]
        | some errno =>
            by_cases denied : errno = eperm
            · simp [kept, alive, unshareCode, denied]
            · simp [kept, alive, unshareCode, denied]

/-- The child may not unshare, and exits; its status is lost, or not. -/
def deniedChild (lost : Bool) : List Move :=
  [.child .done, .parent .done, .child .done] ++ (if lost then [.reap] else []) ++
    [.parent .interrupted, .parent .done]

theorem forkedProbes_exact_denied :
    ∃ lost kept, lost.reaped = true ∧ kept.reaped = false ∧
      namespaceState true lost = some .available ∧
      namespaceState true kept = some .policyRestricted := by
  have play : ∀ taken, ((replay (step waitsOnly (exitErrand (unshareCode (some eperm))))
      unrestricted (deniedChild taken) .initial).any fun last =>
        last.reaped == taken && !wasKilled last && (namespaceState true last).isSome) = true := by
    decide
  have exact := (forkedProbes_exact Headers.full true true none none (some eperm)).2.2
  rcases exists_reached (play true) with ⟨lost, lostRun, lostTest⟩
  rcases exists_reached (play false) with ⟨kept, keptRun, keptTest⟩
  simp only [Bool.and_eq_true, beq_iff_eq, Bool.not_eq_true'] at lostTest keptTest
  rcases Option.isSome_iff_exists.mp lostTest.2 with ⟨first, lostAnswer⟩
  rcases Option.isSome_iff_exists.mp keptTest.2 with ⟨second, keptAnswer⟩
  have lostState : first = .available := by
    rw [exact lost first lostRun lostAnswer, lostTest.1.1]
    rfl
  have keptState : second = .policyRestricted := by
    rw [exact kept second keptRun keptAnswer, keptTest.1.1, keptTest.1.2]
    rfl
  subst lostState keptState
  exact ⟨lost, kept, lostTest.1.1, keptTest.1.1, lostAnswer, keptAnswer⟩

end PkgexecLinux.Capability

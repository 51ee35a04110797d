import PkgexecLinux.Capability.ForkedProbe

/-!
# The probes of the resource limits

`probe_one` lowers a limit in a child, installs the sealing filter and tries to raise
the limit again.  The value it tries is one that the setup of a request would accept,
and one more is a raise that the kernel could only allow to a privileged process.
-/

namespace PkgexecLinux.Capability

open Foundation Foundation.Bpf Kernel Kernel.Delegation Containment

/-! ## The value -/

/-- `probe_value`; `getrlimit` of a valid resource does not fail. -/
def probeValue (inherited : Rlimit) (preferred : BitVec 64) : Option (BitVec 64) :=
  if preferred = rlimInfinity then none
  else if inherited.hard ≠ rlimInfinity ∧ inherited.hard ≤ preferred then
    if inherited.hard ≤ 2 then none
    else if inherited.hard - 1 = 0 ∨ inherited.hard - 1 = rlimInfinity then none
    else some (inherited.hard - 1)
  else if preferred = 0 ∨ preferred = rlimInfinity then none
  else some preferred

/-- The preferred value of each probe: 64 MiB, 1 MiB and 64 files. -/
def preferred : SetupStage → BitVec 64
  | .addressSpace => 67108864
  | .fileSize => 1048576
  | .openFiles => 64

/-- The request that `probe_one` makes of `resource_limits::make`. -/
def onlyLimit (kind : SetupStage) (value : BitVec 64) : ResourceLimits where
  addressSpaceBytes := if kind = .addressSpace then some value else none
  fileSizeBytes := if kind = .fileSize then some value else none
  openFiles := if kind = .openFiles then some value else none

/-! ## The child -/

/-- The system calls that the C library makes for `setrlimit` and `getrlimit`. -/
structure LimitCalls where
  set : SeccompData
  get : SeccompData

/-- The number of `getrlimit`. -/
def getrlimitNumber : Word := 97

/-- A C library of the platform: the calls of the same names, or `prlimit64` with a pointer
to the new limit for the one and without for the other. -/
structure LimitCalls.Standard (calls : LimitCalls) : Prop where
  setNative : calls.set.arch = auditArchX8664
  setNumber : calls.set.nr = Block.setrlimit.number ∨
    calls.set.nr = Block.prlimit64.number ∧ calls.set.args 2 ≠ 0
  getNative : calls.get.arch = auditArchX8664
  getNumber : calls.get.nr = getrlimitNumber ∨
    calls.get.nr = Block.prlimit64.number ∧ calls.get.args 2 = 0

/-- What the filter makes of a call: the error number that it returns, or no error; none if
it kills the process. -/
def judged (filter : List Instruction) (data : SeccompData) : Option (Option Nat) :=
  match run filter data.word with
  | some verdict =>
      if verdict = allow then some none
      else if verdict = killProcess then none
      else some (some (verdict &&& 0xffff).toNat)
  | none => none

/-- The last part of the child: the raise is refused with `EPERM`, and the limit is
unchanged. -/
def checkSealed (refuses : SetrlimitRule) (calls : LimitCalls) (filter : List Instruction)
    (resource : Nat) (value : BitVec 64) (table : LimitTable) : Option Nat := do
  let refused ← judged filter calls.set
  let attempted : Except Nat LimitTable :=
    match refused with
    | some errno => .error errno
    | none => setrlimit refuses table resource ⟨value + 1, value + 1⟩
  match attempted with
  | .ok _ => some 1
  | .error errno =>
      if errno ≠ eperm then some 1
      else
        let unread ← judged filter calls.get
        match unread with
        | some _ => some 1
        | none => some (if table resource = ⟨value, value⟩ then 0 else 1)

/-- The exit code of `probe_one`'s child. -/
def probeOneCode (refuses : SetrlimitRule) (headers : Headers) (calls : LimitCalls)
    (noNewPrivileges installed : Bool) (kind : SetupStage) (table : LimitTable) : Option Nat :=
  match probeValue (table kind.resource) (preferred kind) with
  | none => some 1
  | some value =>
      match setupResourceLimits refuses (onlyLimit kind value) table with
      | .error _ => some 1
      | .ok limited =>
          match installProcessGroupContainment headers noNewPrivileges installed true with
          | none => some 1
          | some filter => checkSealed refuses calls filter kind.resource value limited

/-- The work of the child. -/
def probeOneErrand (refuses : SetrlimitRule) (headers : Headers) (calls : LimitCalls)
    (noNewPrivileges installed : Bool) (kind : SetupStage) (table : LimitTable) :
    Option Errand :=
  (probeOneCode refuses headers calls noNewPrivileges installed kind table).bind exitErrand

/-- `probe_one`, from the answer to `fork` and the state of the two processes. -/
def probeOne (forked : Bool) : State → Option Bool := forkedProbe forked false exitedWithZero

/-! ## The value is in range -/

theorem probeValue_spec {inherited : Rlimit} {preferred value : BitVec 64}
    (found : probeValue inherited preferred = some value) :
    0 < value.toNat ∧ value ≤ preferred ∧ value ≠ rlimInfinity ∧ value ≤ inherited.hard ∧
      (inherited.hard ≠ rlimInfinity → value < inherited.hard) ∧
      (value + 1).toNat = value.toNat + 1 := by
  have one : (1 : BitVec 64).toNat = 1 := rfl
  have unbounded : rlimInfinity.toNat = 18446744073709551615 := by decide
  have differs : ∀ other : BitVec 64, other ≠ rlimInfinity →
      other.toNat ≠ 18446744073709551615 := by
    intro other finite same
    exact finite (BitVec.eq_of_toNat_eq (same.trans unbounded.symm))
  have hardBound := inherited.hard.isLt
  have preferredBound := preferred.isLt
  rw [probeValue] at found
  split at found
  next => cases found
  next finite =>
    have preferredFinite := differs preferred finite
    split at found
    next limited =>
      have hardFinite := differs inherited.hard limited.1
      split at found
      next => cases found
      next above =>
        split at found
        next => cases found
        next =>
          cases found
          have below := BitVec.le_def.mp limited.2
          have positive : 2 < inherited.hard.toNat := by
            have := BitVec.not_le.mp above
            simpa [BitVec.lt_def] using this
          have minus : (inherited.hard - 1).toNat = inherited.hard.toNat - 1 := by
            rw [BitVec.toNat_sub, one]
            omega
          refine ⟨by omega, BitVec.le_def.mpr (by omega), ?_, BitVec.le_def.mpr (by omega),
            fun _ => BitVec.lt_def.mpr (by omega), ?_⟩
          · intro same
            have := congrArg BitVec.toNat same
            omega
          · rw [BitVec.toNat_add, minus, one]
            omega
    next free =>
      split at found
      next => cases found
      next nonzero =>
        cases found
        have positive : preferred.toNat ≠ 0 := by
          intro zero
          exact nonzero (.inl (BitVec.eq_of_toNat_eq (by simpa using zero)))
        have below : inherited.hard ≠ rlimInfinity → preferred.toNat < inherited.hard.toNat := by
          intro hardFinite
          by_contra above
          exact free ⟨hardFinite, BitVec.le_def.mpr (by omega)⟩
        refine ⟨by omega, BitVec.le_refl _, finite, ?_,
          fun hardFinite => BitVec.lt_def.mpr (below hardFinite), ?_⟩
        · apply BitVec.le_def.mpr
          by_cases hardFinite : inherited.hard = rlimInfinity
          · rw [hardFinite, unbounded]
            omega
          · have := below hardFinite
            omega
        · rw [BitVec.toNat_add, one]
          omega

/-- There is a value to try if the inherited limit leaves room for one. -/
theorem probeValue_eq_some {inherited : Rlimit} {preferred : BitVec 64}
    (finite : preferred ≠ rlimInfinity) (large : 2 < preferred) :
    (∃ value, probeValue inherited preferred = some value) ↔ 2 < inherited.hard := by
  have one : (1 : BitVec 64).toNat = 1 := rfl
  have two : (2 : BitVec 64).toNat = 2 := rfl
  have unbounded : rlimInfinity.toNat = 18446744073709551615 := by decide
  have hardBound := inherited.hard.isLt
  have largeNat := BitVec.lt_def.mp large
  have nonzero : preferred ≠ 0 := by
    rintro rfl
    simp at large
  rw [probeValue, if_neg finite]
  split
  next limited =>
    by_cases small : inherited.hard ≤ 2
    · rw [if_pos small]
      constructor
      · rintro ⟨value, none⟩
        cases none
      · intro above
        exact absurd small (BitVec.not_le.mpr above)
    · have above := BitVec.not_le.mp small
      have aboveNat := BitVec.lt_def.mp above
      have minus : (inherited.hard - 1).toNat = inherited.hard.toNat - 1 := by
        rw [BitVec.toNat_sub, one]
        omega
      have usable : ¬ (inherited.hard - 1 = 0 ∨ inherited.hard - 1 = rlimInfinity) := by
        rintro (zero | infinite)
        · have same := congrArg BitVec.toNat zero
          rw [minus, show (0 : BitVec 64).toNat = 0 from rfl] at same
          omega
        · have := congrArg BitVec.toNat infinite
          omega
      rw [if_neg small, if_neg usable]
      exact ⟨fun _ => above, fun _ => ⟨_, rfl⟩⟩
  next free =>
    rw [if_neg (not_or.mpr ⟨nonzero, finite⟩)]
    refine ⟨fun _ => ?_, fun _ => ⟨_, rfl⟩⟩
    by_cases hardFinite : inherited.hard = rlimInfinity
    · rw [hardFinite]
      decide
    · apply BitVec.lt_def.mpr
      have : ¬ inherited.hard ≤ preferred := fun below => free ⟨hardFinite, below⟩
      have := BitVec.lt_def.mp (BitVec.not_le.mp this)
      omega

theorem preferred_usable (kind : SetupStage) :
    preferred kind ≠ rlimInfinity ∧ 2 < preferred kind := by
  cases kind <;> decide

/-! ## The setup and the seal -/

section Seal

variable {refuses : SetrlimitRule} {kind : SetupStage} {value : BitVec 64} {table : LimitTable}

theorem onlyLimit_requested (kind : SetupStage) (value : BitVec 64) :
    (onlyLimit kind value).requested kind.resource = some value := by
  cases kind <;> rfl

theorem onlyLimit_sound (finite : value ≠ rlimInfinity)
    (below : value ≤ (table kind.resource).hard) (stage : SetupStage) :
    (onlyLimit kind value).offendsAt table stage = false := by
  have unlimited : ∀ hard, offends (none : Option (BitVec 64)) hard = false := fun _ => rfl
  have own : offends (some value) (table kind.resource).hard = false := by
    simp [offends, finite, below]
  cases kind <;> cases stage
  case addressSpace.addressSpace | fileSize.fileSize | openFiles.openFiles => exact own
  all_goals exact unlimited _

/-- The setup of the value that is tried succeeds. -/
theorem setup_onlyLimit (accepts : AcceptsLowering refuses) (finite : value ≠ rlimInfinity)
    (below : value ≤ (table kind.resource).hard) :
    ∃ limited, setupResourceLimits refuses (onlyLimit kind value) table = .ok limited ∧
      limited kind.resource = ⟨value, value⟩ := by
  have sound := onlyLimit_sound finite below
  have spec := setupResourceLimitsLeaving_spec accepts (onlyLimit kind value) table
  rw [setupResourceLimits]
  generalize setupResourceLimitsLeaving refuses (onlyLimit kind value) table = outcome at spec
  cases spec with
  | addressSpace errno offending =>
      rw [sound] at offending
      cases offending
  | fileSize errno _ offending =>
      rw [sound] at offending
      cases offending
  | openFiles errno _ _ offending =>
      rw [sound] at offending
      cases offending
  | done =>
      refine ⟨_, rfl, ?_⟩
      rw [third_apply, onlyLimit_requested]
      rfl

variable {headers : Headers} {calls : LimitCalls}

/-- The filter answers the raise with `EPERM`. -/
theorem judged_set (standard : calls.Standard) :
    judged (containmentFilter headers.compiled true) calls.set = some (some eperm) := by
  have refused : policy headers.compiled true calls.set = Containment.eperm := by
    rcases standard.setNumber with number | ⟨number, given⟩
    · exact policy_refusal standard.setNative (by simp [refusals, limitVerdict])
        headers.limits.1 number
    · exact policy_prlimit64 standard.setNative headers.limits.2 number given
  rw [judged, run_containmentFilter, refused]
  rfl

/-- The filter lets the child look at its limits. -/
theorem judged_get (standard : calls.Standard) :
    judged (containmentFilter headers.compiled true) calls.get = some none := by
  have allowed : policy headers.compiled true calls.get = allow := by
    rcases standard.getNumber with number | ⟨number, null⟩
    · apply policy_of_unconcerned standard.getNative
      intro block concerns
      have unguarded : getrlimitNumber ≠ block.number := by
        cases block <;> decide
      exact unguarded (number.symm.trans concerns.2)
    · rw [policy_eq_ruling]
      exact ruling_allow standard.getNative number (if_neg (not_not.mpr null))
  rw [judged, run_containmentFilter, allowed]
  rfl

theorem checkSealed_eq (standard : calls.Standard) (set : table kind.resource = ⟨value, value⟩) :
    checkSealed refuses calls (containmentFilter headers.compiled true) kind.resource value
      table = some 0 := by
  simp only [checkSealed, judged_set standard, judged_get standard, Option.bind_eq_bind,
    Option.bind_some, ne_eq, not_true_eq_false, if_false, set, if_true]

/-- What the child finds. -/
theorem probeOneCode_eq (accepts : AcceptsLowering refuses) (standard : calls.Standard)
    (noNewPrivileges installed : Bool) :
    probeOneCode refuses headers calls noNewPrivileges installed kind table =
      some (if noNewPrivileges && installed && decide (2 < (table kind.resource).hard)
        then 0 else 1) := by
  have usable := preferred_usable kind
  have exist := @probeValue_eq_some (table kind.resource) _ usable.1 usable.2
  rw [probeOneCode]
  cases found : probeValue (table kind.resource) (preferred kind) with
  | none =>
      have small : ¬ 2 < (table kind.resource).hard := by
        intro above
        rcases exist.mpr above with ⟨value, some⟩
        rw [found] at some
        cases some
      rw [decide_eq_false small, Bool.and_false]
      rfl
  | some value =>
      rcases probeValue_spec found with ⟨_, _, finite, below, _, _⟩
      rcases setup_onlyLimit accepts finite below with ⟨limited, done, set⟩
      have above := exist.mp ⟨value, found⟩
      simp only [done, above, decide_true, Bool.and_true, installProcessGroupContainment]
      cases noNewPrivileges with
      | false => rfl
      | true =>
          cases installed with
          | false => rfl
          | true => exact checkSealed_eq standard set

end Seal

/-- The probe of a limit, on any kernel that lets a process lower its limits, over every
order of the two processes' steps.  The value that it tries is positive, accepted by the
setup of a request, and one less than a value that the arithmetic still represents; the
answer is true exactly if the filter can be installed and the inherited hard limit is above
two, unless the child is killed or its status lost. -/
theorem probeOne_exact {refuses : SetrlimitRule} (accepts : AcceptsLowering refuses)
    (headers : Headers) {calls : LimitCalls} (standard : calls.Standard)
    (noNewPrivileges installed : Bool) (kind : SetupStage) (table : LimitTable) :
    (∀ value, probeValue (table kind.resource) (preferred kind) = some value →
      0 < value.toNat ∧ value ≤ preferred kind ∧
      (value + 1).toNat = value.toNat + 1 ∧
      ((table kind.resource).hard ≠ rlimInfinity → value < (table kind.resource).hard) ∧
      ∃ limited, setupResourceLimits refuses (onlyLimit kind value) table = .ok limited ∧
        limited kind.resource = ⟨value, value⟩) ∧
    ∀ last result,
      Reaches (step waitsOnly (probeOneErrand refuses headers calls noNewPrivileges installed
        kind table)) unrestricted .initial last →
      probeOne true last = some result →
      result = (last.reaped || !wasKilled last &&
        (noNewPrivileges && installed && decide (2 < (table kind.resource).hard))) := by
  constructor
  · intro value found
    rcases probeValue_spec found with ⟨positive, most, finite, below, strictly, next⟩
    exact ⟨positive, most, next, strictly, setup_onlyLimit accepts finite below⟩
  · intro last result run answered
    rw [probeOneErrand, probeOneCode_eq accepts standard] at run
    rcases forkedProbe_learned run answered with ⟨waited, rfl, status⟩
    exact exitedWithZero_learned status

/-- The calls of a C library that uses `prlimit64` for both. -/
def modernCalls : LimitCalls where
  set := { nr := 302, arch := auditArchX8664, instructionPointer := 0, args := fun _ => 4096 }
  get := limitQuery

/-- A child with a hard limit of 32 files, below the preferred value. -/
theorem probeOne_exact_fewFiles :
    AcceptsLowering lowersOnly ∧ modernCalls.Standard ∧
      ∃ last, probeOne true last = some true ∧ last.reaped = false := by
  have accepts : AcceptsLowering lowersOnly := by
    intro inherited limit ordered lower
    simp [lowersOnly, ordered, lower]
  have standard : modernCalls.Standard :=
    ⟨rfl, .inr ⟨rfl, by decide⟩, rfl, .inr ⟨rfl, rfl⟩⟩
  refine ⟨accepts, standard, ?_⟩
  have code := @probeOneCode_eq lowersOnly .openFiles (fun _ => ⟨16, 32⟩) Headers.full
    modernCalls accepts standard true true
  have played : ((replay (step waitsOnly (exitErrand 0)) unrestricted
      [.child .done, .child .done, .parent .done, .parent .done] .initial).any fun last =>
        !last.reaped && !wasKilled last && (probeOne true last).isSome) = true := by
    decide
  rcases exists_reached played with ⟨last, run, test⟩
  simp only [Bool.and_eq_true, Bool.not_eq_true'] at test
  rcases Option.isSome_iff_exists.mp test.2 with ⟨result, answered⟩
  have same : probeOneErrand lowersOnly Headers.full modernCalls true true .openFiles
      (fun _ => ⟨16, 32⟩) = exitErrand 0 := by
    rw [probeOneErrand, code]
    rfl
  rw [← same] at run
  have exact := (probeOne_exact accepts Headers.full standard true true .openFiles
    (fun _ => ⟨16, 32⟩)).2 last result run answered
  rw [test.1.1, test.1.2] at exact
  subst exact
  exact ⟨last, answered, test.1.1⟩

end PkgexecLinux.Capability

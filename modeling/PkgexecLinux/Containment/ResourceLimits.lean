import Mathlib.Logic.Function.Basic
import Mathlib.Data.BitVec

/-!
# Resource limits

`setup_resource_limits` on a platform whose `rlim_t` has 64 bits.  The kernel is
given by what its `setrlimit` refuses; a call that is not refused changes exactly
the addressed entry of the calling process's table.
-/

namespace PkgexecLinux.Containment

/-- `rlimit`. -/
structure Rlimit where
  soft : BitVec 64
  hard : BitVec 64
  deriving DecidableEq, Repr

/-- `RLIM_INFINITY`. -/
def rlimInfinity : BitVec 64 := BitVec.allOnes 64

/-- The limits of one process, by resource number. -/
abbrev LimitTable := Nat → Rlimit

/-- `RLIMIT_FSIZE`. -/
def rlimitFsize : Nat := 1

/-- `RLIMIT_NOFILE`. -/
def rlimitNofile : Nat := 7

/-- `RLIMIT_AS`. -/
def rlimitAs : Nat := 9

/-- The errno of a refused `setrlimit`, from the limit in force and the requested
one. -/
abbrev SetrlimitRule := Rlimit → Rlimit → Option Nat

/-- `setrlimit` of the calling process. -/
def setrlimit (refuses : SetrlimitRule) (table : LimitTable) (resource : Nat)
    (limit : Rlimit) : Except Nat LimitTable :=
  match refuses (table resource) limit with
  | some errno => .error errno
  | none => .ok (Function.update table resource limit)

/-- `pkgexec::resource_limits`, as far as `setup_resource_limits` reads it. -/
structure ResourceLimits where
  addressSpaceBytes : Option (BitVec 64)
  fileSizeBytes : Option (BitVec 64)
  openFiles : Option (BitVec 64)
  deriving DecidableEq, Repr

/-- The requested value of a resource. -/
def ResourceLimits.requested (limits : ResourceLimits) (resource : Nat) :
    Option (BitVec 64) :=
  if resource = rlimitAs then limits.addressSpaceBytes
  else if resource = rlimitFsize then limits.fileSizeBytes
  else if resource = rlimitNofile then limits.openFiles
  else none

/-- `resource_limit_setup_stage`. -/
inductive SetupStage where
  | addressSpace
  | fileSize
  | openFiles
  deriving DecidableEq, Repr

/-- `resource_limit_setup_failure`. -/
structure SetupFailure where
  stage : SetupStage
  error : Nat
  deriving DecidableEq, Repr

def epermErrno : Nat := 1
def eioErrno : Nat := 5
def eoverflowErrno : Nat := 75

/-- A kernel that lowers limits and never raises them. -/
def lowersOnly : SetrlimitRule := fun inherited limit =>
  if limit.soft ≤ limit.hard ∧ limit.hard ≤ inherited.hard then none else some epermErrno

/-- `exact_value`, where `rlim_t` is as wide as the request. -/
def exactValue (value : BitVec 64) : Except Nat (BitVec 64) :=
  if value = rlimInfinity then .error eoverflowErrno else .ok value

/-- `setup_one`: the failure that it reports, and the limits in force when it returns. -/
def setupOneLeaving (refuses : SetrlimitRule) (resource : Nat) (value : BitVec 64)
    (stage : SetupStage) (table : LimitTable) : Option SetupFailure × LimitTable :=
  match exactValue value with
  | .error errno => (some ⟨stage, errno⟩, table)
  | .ok exact =>
      let inherited := table resource
      if inherited.hard ≠ rlimInfinity ∧ inherited.hard < exact then
        (some ⟨stage, epermErrno⟩, table)
      else
        match setrlimit refuses table resource ⟨exact, exact⟩ with
        | .error errno => (some ⟨stage, errno⟩, table)
        | .ok changed =>
            let observed := changed resource
            if observed.soft ≠ exact ∨ observed.hard ≠ exact then
              (some ⟨stage, eioErrno⟩, changed)
            else
              (none, changed)

/-- One optional member of the request. -/
def setupRequestedLeaving (refuses : SetrlimitRule) (resource : Nat)
    (value : Option (BitVec 64)) (stage : SetupStage) (table : LimitTable) :
    Option SetupFailure × LimitTable :=
  match value with
  | some value => setupOneLeaving refuses resource value stage table
  | none => (none, table)

/-- `setup_resource_limits`, with the limits in force when it returns. -/
def setupResourceLimitsLeaving (refuses : SetrlimitRule) (limits : ResourceLimits)
    (table : LimitTable) : Option SetupFailure × LimitTable :=
  match setupRequestedLeaving refuses rlimitAs limits.addressSpaceBytes .addressSpace table with
  | (some failure, table) => (some failure, table)
  | (none, table) =>
      match setupRequestedLeaving refuses rlimitFsize limits.fileSizeBytes .fileSize table with
      | (some failure, table) => (some failure, table)
      | (none, table) =>
          setupRequestedLeaving refuses rlimitNofile limits.openFiles .openFiles table

/-- The result without what a failed setup leaves behind. -/
def settle (outcome : Option SetupFailure × LimitTable) : Except SetupFailure LimitTable :=
  match outcome with
  | (some failure, _) => .error failure
  | (none, table) => .ok table

/-- `setup_resource_limits`, for a process that ends if it fails. -/
def setupResourceLimits (refuses : SetrlimitRule) (limits : ResourceLimits)
    (table : LimitTable) : Except SetupFailure LimitTable :=
  settle (setupResourceLimitsLeaving refuses limits table)

theorem settle_eq_ok {outcome : Option SetupFailure × LimitTable} {table : LimitTable} :
    settle outcome = .ok table ↔ outcome = (none, table) := by
  rcases outcome with ⟨_ | _, _⟩ <;> simp [settle]

/-- The entry of a resource after its request has been realized. -/
def realized (value : Option (BitVec 64)) (limit : Rlimit) : Rlimit :=
  match value with
  | some value => ⟨value, value⟩
  | none => limit

/-- A request that is realized changes one entry, to the exact value. -/
theorem setupRequestedLeaving_ok {refuses : SetrlimitRule} {resource : Nat}
    {value : Option (BitVec 64)} {stage : SetupStage} {table after : LimitTable}
    (done : setupRequestedLeaving refuses resource value stage table = (none, after)) :
    after = Function.update table resource (realized value (table resource)) := by
  cases value with
  | none =>
      cases done
      exact (Function.update_eq_self resource table).symm
  | some value =>
      simp only [setupRequestedLeaving, setupOneLeaving, exactValue] at done
      by_cases infinite : value = rlimInfinity
      · simp [infinite] at done
      · simp only [infinite, if_false, setrlimit] at done
        split at done
        next => cases done
        next =>
          split at done
          next => cases done
          next changed accepted =>
            split at done
            next => cases done
            next =>
              cases done
              split at accepted
              next => cases accepted
              next =>
                cases accepted
                rfl

/-- The table with the first of the three requests realized, and so on. -/
def ResourceLimits.first (limits : ResourceLimits) (table : LimitTable) : LimitTable :=
  Function.update table rlimitAs (realized limits.addressSpaceBytes (table rlimitAs))

def ResourceLimits.second (limits : ResourceLimits) (table : LimitTable) : LimitTable :=
  Function.update (limits.first table) rlimitFsize
    (realized limits.fileSizeBytes (table rlimitFsize))

def ResourceLimits.third (limits : ResourceLimits) (table : LimitTable) : LimitTable :=
  Function.update (limits.second table) rlimitNofile
    (realized limits.openFiles (table rlimitNofile))

theorem first_fsize (limits : ResourceLimits) (table : LimitTable) :
    limits.first table rlimitFsize = table rlimitFsize :=
  Function.update_of_ne (by decide) _ _

theorem second_nofile (limits : ResourceLimits) (table : LimitTable) :
    limits.second table rlimitNofile = table rlimitNofile := by
  rw [ResourceLimits.second, ResourceLimits.first]
  rw [Function.update_of_ne (by decide), Function.update_of_ne (by decide)]

/-- The entries of the table after all three requests. -/
theorem third_apply (limits : ResourceLimits) (table : LimitTable) (resource : Nat) :
    limits.third table resource = realized (limits.requested resource) (table resource) := by
  rw [ResourceLimits.third, ResourceLimits.second, ResourceLimits.first]
  by_cases isNofile : resource = rlimitNofile
  · subst isNofile
    simp [ResourceLimits.requested, rlimitAs, rlimitFsize, rlimitNofile]
  · by_cases isFsize : resource = rlimitFsize
    · subst isFsize
      simp [ResourceLimits.requested, rlimitAs, rlimitFsize, rlimitNofile]
    · by_cases isAs : resource = rlimitAs
      · subst isAs
        simp [ResourceLimits.requested, rlimitAs, rlimitFsize, rlimitNofile]
      · simp [ResourceLimits.requested, isNofile, isFsize, isAs, realized]

/-- On success every requested resource has its exact value as soft and hard
limit, and every other entry is as before. -/
theorem setupResourceLimits_ok {refuses : SetrlimitRule} {limits : ResourceLimits}
    {table after : LimitTable}
    (done : setupResourceLimits refuses limits table = .ok after) (resource : Nat) :
    after resource = realized (limits.requested resource) (table resource) := by
  rw [setupResourceLimits, settle_eq_ok, setupResourceLimitsLeaving] at done
  split at done
  next => cases done
  next first firstDone =>
    split at done
    next => cases done
    next second secondDone =>
      have firstTable : first = limits.first table := setupRequestedLeaving_ok firstDone
      have secondTable : second = limits.second table := by
        rw [setupRequestedLeaving_ok secondDone, firstTable, first_fsize]
        rfl
      rw [setupRequestedLeaving_ok done, secondTable, second_nofile]
      exact third_apply limits table resource

/-! ## Exact or refused -/

/-- The kernel accepts every pair that raises no hard limit. -/
def AcceptsLowering (refuses : SetrlimitRule) : Prop :=
  ∀ inherited limit : Rlimit, limit.soft ≤ limit.hard → limit.hard ≤ inherited.hard →
    refuses inherited limit = none

/-- The resource of a stage. -/
def SetupStage.resource : SetupStage → Nat
  | .addressSpace => rlimitAs
  | .fileSize => rlimitFsize
  | .openFiles => rlimitNofile

/-- The stages in the order of `setup_resource_limits`. -/
def SetupStage.all : List SetupStage := [.addressSpace, .fileSize, .openFiles]

/-- A requested value is `RLIM_INFINITY`, or above the inherited hard limit. -/
def offends (value : Option (BitVec 64)) (hard : BitVec 64) : Bool :=
  value.any fun value => value == rlimInfinity || decide (hard < value)

/-- The request for the resource of a stage cannot be realized. -/
def ResourceLimits.offendsAt (limits : ResourceLimits) (table : LimitTable)
    (stage : SetupStage) : Bool :=
  offends (limits.requested stage.resource) (table stage.resource).hard

/-- What one member of the request does. -/
theorem setupRequestedLeaving_spec {refuses : SetrlimitRule} (accepts : AcceptsLowering refuses)
    (resource : Nat) (value : Option (BitVec 64)) (stage : SetupStage) (table : LimitTable) :
    (offends value (table resource).hard = true ∧
      ∃ errno, setupRequestedLeaving refuses resource value stage table =
        (some ⟨stage, errno⟩, table)) ∨
    (offends value (table resource).hard = false ∧
      setupRequestedLeaving refuses resource value stage table =
        (none, Function.update table resource (realized value (table resource)))) := by
  cases value with
  | none => exact .inr ⟨rfl, congrArg (Prod.mk none) (Function.update_eq_self _ _).symm⟩
  | some value =>
      by_cases infinite : value = rlimInfinity
      · left
        refine ⟨by simp [offends, infinite], eoverflowErrno, ?_⟩
        simp [setupRequestedLeaving, setupOneLeaving, exactValue, infinite]
      · by_cases above : (table resource).hard < value
        · -- No value is above `RLIM_INFINITY`, so that the test for it never matters.
          have finite : (table resource).hard ≠ rlimInfinity := by
            intro unlimited
            rw [unlimited, rlimInfinity, BitVec.lt_def, BitVec.toNat_allOnes] at above
            have := value.isLt
            omega
          left
          refine ⟨by simp [offends, above], epermErrno, ?_⟩
          simp [setupRequestedLeaving, setupOneLeaving, exactValue, infinite, above, finite]
        · have below : value ≤ (table resource).hard := BitVec.not_lt.mp above
          have accepted : refuses (table resource) ⟨value, value⟩ = none :=
            accepts _ _ (BitVec.le_refl value) below
          right
          refine ⟨by simp [offends, infinite, above], ?_⟩
          simp [setupRequestedLeaving, setupOneLeaving, exactValue, infinite, above, setrlimit,
            accepted, realized]

/-- A request that does not offend raises no hard limit. -/
theorem realized_hard_le {value : Option (BitVec 64)} {limit : Rlimit}
    (sound : offends value limit.hard = false) : (realized value limit).hard ≤ limit.hard := by
  cases value with
  | none => exact BitVec.le_refl _
  | some value =>
      simp only [offends, Option.any_some, Bool.or_eq_false_iff, decide_eq_false_iff_not] at sound
      exact BitVec.not_lt.mp sound.2

/-- Everything `setup_resource_limits` can do. -/
inductive SetupSpec (limits : ResourceLimits) (table : LimitTable) :
    Option SetupFailure × LimitTable → Prop where
  | addressSpace (errno : Nat) : limits.offendsAt table .addressSpace = true →
      SetupSpec limits table (some ⟨.addressSpace, errno⟩, table)
  | fileSize (errno : Nat) : limits.offendsAt table .addressSpace = false →
      limits.offendsAt table .fileSize = true →
      SetupSpec limits table (some ⟨.fileSize, errno⟩, limits.first table)
  | openFiles (errno : Nat) : limits.offendsAt table .addressSpace = false →
      limits.offendsAt table .fileSize = false → limits.offendsAt table .openFiles = true →
      SetupSpec limits table (some ⟨.openFiles, errno⟩, limits.second table)
  | done : limits.offendsAt table .addressSpace = false →
      limits.offendsAt table .fileSize = false → limits.offendsAt table .openFiles = false →
      SetupSpec limits table (none, limits.third table)

theorem setupResourceLimitsLeaving_spec {refuses : SetrlimitRule}
    (accepts : AcceptsLowering refuses) (limits : ResourceLimits) (table : LimitTable) :
    SetupSpec limits table (setupResourceLimitsLeaving refuses limits table) := by
  rw [setupResourceLimitsLeaving]
  rcases setupRequestedLeaving_spec accepts rlimitAs limits.addressSpaceBytes .addressSpace table
    with ⟨offending, errno, failed⟩ | ⟨first, done⟩
  · rw [failed]
    exact .addressSpace errno offending
  · rw [done]
    rw [show Function.update table rlimitAs _ = limits.first table from rfl]
    dsimp only
    rcases setupRequestedLeaving_spec accepts rlimitFsize limits.fileSizeBytes .fileSize
      (limits.first table) with ⟨offending, errno, failed⟩ | ⟨second, done⟩
    · rw [first_fsize] at offending
      rw [failed]
      exact .fileSize errno first offending
    · rw [first_fsize] at second done
      rw [done]
      change SetupSpec limits table (setupRequestedLeaving refuses rlimitNofile
        limits.openFiles .openFiles (limits.second table))
      rcases setupRequestedLeaving_spec accepts rlimitNofile limits.openFiles .openFiles
        (limits.second table) with ⟨offending, errno, failed⟩ | ⟨third, done⟩
      · rw [second_nofile] at offending
        rw [failed]
        exact .openFiles errno first second offending
      · rw [second_nofile] at third done
        rw [done]
        exact .done first second third

/-- Realizing a request that does not offend keeps a table below the inherited one. -/
theorem update_hard_le {table changed : LimitTable} {resource : Nat}
    {value : Option (BitVec 64)} (below : ∀ other, (changed other).hard ≤ (table other).hard)
    (sound : offends value (table resource).hard = false) (other : Nat) :
    (Function.update changed resource (realized value (table resource)) other).hard ≤
      (table other).hard := by
  by_cases same : other = resource
  · subst same
    rw [Function.update_self]
    exact realized_hard_le sound
  · rw [Function.update_of_ne same]
    exact below other

/-- No stage offends, in terms of the resources. -/
theorem sound_iff (limits : ResourceLimits) (table : LimitTable) :
    (∀ stage, limits.offendsAt table stage = false) ↔
      ∀ resource value, limits.requested resource = some value →
        value ≠ rlimInfinity ∧ value ≤ (table resource).hard := by
  have sound : ∀ stage, limits.offendsAt table stage = false ↔
      ∀ value, limits.requested stage.resource = some value →
        value ≠ rlimInfinity ∧ value ≤ (table stage.resource).hard := by
    intro stage
    rw [ResourceLimits.offendsAt, offends]
    cases limits.requested stage.resource with
    | none => simp
    | some value => simp [BitVec.not_lt]
  constructor
  · intro all resource value requested
    by_cases isAs : resource = rlimitAs
    · subst isAs
      exact (sound .addressSpace).mp (all _) value requested
    · by_cases isFsize : resource = rlimitFsize
      · subst isFsize
        exact (sound .fileSize).mp (all _) value requested
      · by_cases isNofile : resource = rlimitNofile
        · subst isNofile
          exact (sound .openFiles).mp (all _) value requested
        · simp [ResourceLimits.requested, isAs, isFsize, isNofile] at requested
  · intro all stage
    exact (sound stage).mpr (all stage.resource)

/-- Limits are realized exactly or refused: success means that no stage offends; the
reported stage is the first that does; and no hard limit is ever raised. -/
theorem setupResourceLimits_exact {refuses : SetrlimitRule} (accepts : AcceptsLowering refuses)
    (limits : ResourceLimits) (table : LimitTable) :
    ((setupResourceLimitsLeaving refuses limits table).1 = none ↔
      ∀ resource value, limits.requested resource = some value →
        value ≠ rlimInfinity ∧ value ≤ (table resource).hard) ∧
    ((setupResourceLimitsLeaving refuses limits table).1 = none → ∀ resource,
      (setupResourceLimitsLeaving refuses limits table).2 resource =
        realized (limits.requested resource) (table resource)) ∧
    (setupResourceLimitsLeaving refuses limits table).1.map (·.stage) =
      SetupStage.all.find? (limits.offendsAt table) ∧
    ∀ resource, ((setupResourceLimitsLeaving refuses limits table).2 resource).hard ≤
      (table resource).hard := by
  have same : ∀ resource, (table resource).hard ≤ (table resource).hard := by
    intro resource
    exact BitVec.le_refl _
  have spec := setupResourceLimitsLeaving_spec accepts limits table
  generalize setupResourceLimitsLeaving refuses limits table = outcome at spec ⊢
  rw [← sound_iff]
  cases spec with
  | addressSpace errno offending =>
      refine ⟨⟨nofun, ?_⟩, nofun, ?_, same⟩
      · intro all
        rw [all .addressSpace] at offending
        cases offending
      · simp [SetupStage.all, offending]
  | fileSize errno first offending =>
      refine ⟨⟨nofun, ?_⟩, nofun, ?_, update_hard_le same first⟩
      · intro all
        rw [all .fileSize] at offending
        cases offending
      · simp [SetupStage.all, first, offending]
  | openFiles errno first second offending =>
      refine ⟨⟨nofun, ?_⟩, nofun, ?_, update_hard_le (update_hard_le same first) second⟩
      · intro all
        rw [all .openFiles] at offending
        cases offending
      · simp [SetupStage.all, first, second, offending]
  | done first second third =>
      refine ⟨⟨?_, fun _ => rfl⟩, fun _ => third_apply limits table, ?_,
        update_hard_le (update_hard_le (update_hard_le same first) second) third⟩
      · intro _ stage
        cases stage with
        | addressSpace => exact first
        | fileSize => exact second
        | openFiles => exact third
      · simp [SetupStage.all, first, second, third]

/-- A kernel that only lowers limits, a table with one finite hard limit, and a request
that exceeds it in the second place. -/
theorem setupResourceLimits_exact_fileSize :
    AcceptsLowering lowersOnly ∧
      (setupResourceLimitsLeaving lowersOnly ⟨some 4096, some 2049, none⟩
        (fun resource => if resource = rlimitFsize then ⟨1024, 2048⟩
          else ⟨rlimInfinity, rlimInfinity⟩)).1.map (·.stage) = some .fileSize := by
  have accepts : AcceptsLowering lowersOnly := by
    intro inherited limit ordered lower
    simp [lowersOnly, ordered, lower]
  refine ⟨accepts, ?_⟩
  rw [(setupResourceLimits_exact accepts _ _).2.2.1]
  decide

end PkgexecLinux.Containment

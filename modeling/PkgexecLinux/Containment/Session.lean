import PkgexecLinux.Foundation.Runs
import PkgexecLinux.Containment.Filter
import PkgexecLinux.Containment.ResourceLimits

/-!
# Containment of a program and its descendants

The program and everything it forks, as processes that make system calls in any
order.  Each call is judged by the installed filter before the kernel dispatches
it.  A kernel with x32 support dispatches a number with the x32 bit to the same
operation as the number without it, and reports the same architecture for both.
-/

namespace PkgexecLinux.Containment

open Foundation Foundation.Bpf

/-- What containment is about in one process. -/
structure Task where
  pid : Nat
  session : Nat
  group : Nat
  limits : LimitTable

/-- `setsid`. -/
def Task.setsid (task : Task) : Task :=
  { task with session := task.pid, group := task.pid }

/-! ## What the child does before the program -/

/-- The numbers that the kernel headers of the build define.  Those of the calls
that change a session, a group or a limit are in every x86-64 table. -/
structure Headers where
  compiled : Block → Bool
  sessions : compiled .setsid = true ∧ compiled .setpgid = true
  limits : compiled .setrlimit = true ∧ compiled .prlimit64 = true

/-- `install_process_group_containment` on x86-64, from the answers of its two
`prctl` calls. -/
def installProcessGroupContainment (headers : Headers) (noNewPrivileges installed : Bool)
    (sealResourceLimits : Bool) : Option (List Instruction) :=
  if noNewPrivileges then
    if installed then some (containmentFilter headers.compiled sealResourceLimits)
    else none
  else
    none

/-- `setsid` and `setup_resource_limits` of `child_main`. -/
def setupChild (refuses : SetrlimitRule) (limits : ResourceLimits) (task : Task) :
    Except SetupFailure Task :=
  match setupResourceLimits refuses limits task.setsid.limits with
  | .error failure => .error failure
  | .ok table => .ok { task.setsid with limits := table }

/-! ## System calls -/

/-- One system call of a contained process.  `child` is the id of a created
process, `limit` the value behind a new-limit pointer, and `refused` says that
the kernel refuses an operation that the filter has let through. -/
structure Call where
  caller : Nat
  data : SeccompData
  child : Nat
  limit : Rlimit
  refused : Bool

/-- The operations that matter to containment. -/
inductive Operation where
  | spawn
  | setsid
  | setpgid
  | setrlimit
  | prlimit64
  | exit
  | other
  deriving DecidableEq, Repr

/-- The x86-64 system call table. -/
def operation (number : Word) : Operation :=
  if number = 56 ∨ number = 57 ∨ number = 58 ∨ number = 435 then .spawn
  else if number = 112 then .setsid
  else if number = 109 then .setpgid
  else if number = 160 then .setrlimit
  else if number = 302 then .prlimit64
  else if number = 60 ∨ number = 231 then .exit
  else .other

/-- `__X32_SYSCALL_BIT`. -/
def x32Bit : Word := 0x40000000

/-- The number under which the kernel looks a call up. -/
def dispatched (x32 : Bool) (nr : Word) : Option Word :=
  if nr.toNat < x32Bit.toNat then some nr
  else if x32 then some (nr - x32Bit)
  else none

/-- Processes of one execution. -/
abbrev Family := List Task

namespace Family

/-- Change one process. -/
def change (family : Family) (pid : Nat) (effect : Task → Task) : Family :=
  family.map fun task => if task.pid = pid then effect task else task

/-- A process id argument; zero is the caller. -/
def target (caller : Nat) (argument : BitVec 64) : Nat :=
  if argument = 0 then caller else (low argument).toNat

/-- Effect of an operation that the kernel carries out. -/
def perform (family : Family) (call : Call) : Operation → Family
  | .spawn =>
      family ++ (family.filter fun task => task.pid = call.caller).map fun task =>
        { task with pid := call.child }
  | .setsid => family.change call.caller Task.setsid
  | .setpgid =>
      let process := target call.caller (call.data.firstArgument)
      family.change process fun task =>
        { task with group := target process (call.data.secondArgument) }
  | .setrlimit =>
      family.change call.caller fun task =>
        { task with limits :=
            Function.update task.limits (low (call.data.firstArgument)).toNat call.limit }
  | .prlimit64 =>
      if call.data.thirdArgument = 0 then family
      else
        family.change (target call.caller (call.data.firstArgument)) fun task =>
          { task with limits :=
              Function.update task.limits (low (call.data.secondArgument)).toNat call.limit }
  | .exit => family.filter fun task => task.pid ≠ call.caller
  | .other => family

/-- A call that the filter has let through. -/
def dispatch (x32 : Bool) (family : Family) (call : Call) : Family :=
  if call.refused then family
  else
    match dispatched x32 call.data.nr with
    | some number => family.perform call (operation number)
    | none => family

/-- One system call of a process of the family. -/
def step (x32 : Bool) (filter : List Instruction) (call : Call) (family : Family) :
    Option Family :=
  if family.any fun task => task.pid = call.caller then
    match run filter call.data.word with
    | some verdict =>
        if verdict = allow then some (family.dispatch x32 call)
        else if verdict = killProcess then
          some (family.filter fun task => task.pid ≠ call.caller)
        else some family
    | none => some family
  else
    none

end Family

/-! ## The invariant -/

/-- The number of a call that changes a session or a group, or of one that
changes a sealed limit, with the x32 bit. -/
def isAlias (sealResourceLimits : Bool) (data : SeccompData) : Bool :=
  decide (data.arch = auditArchX8664) &&
    (decide (data.nr = Block.setsid.number + x32Bit) ||
      decide (data.nr = Block.setpgid.number + x32Bit) ||
      sealResourceLimits && (decide (data.nr = Block.setrlimit.number + x32Bit) ||
        decide (data.nr = Block.prlimit64.number + x32Bit) && decide (data.thirdArgument ≠ 0)))

/-- On a kernel with x32 support, no process uses an alias. -/
def noAlias (x32 sealResourceLimits : Bool) (_ : Family) (call : Call) : Bool :=
  !(x32 && isAlias sealResourceLimits call.data)

/-- The process is in the leader's session and group, and has the limits that
were set if these are sealed. -/
structure Contained (leader : Nat) (limits : ResourceLimits) (sealResourceLimits : Bool)
    (task : Task) : Prop where
  session : task.session = leader
  group : task.group = leader
  limited : sealResourceLimits = true → ∀ resource value,
    limits.requested resource = some value → task.limits resource = ⟨value, value⟩

/-- The operation changes neither a session nor a group, nor a sealed limit. -/
structure Harmless (sealResourceLimits : Bool) (data : SeccompData)
    (operation : Operation) : Prop where
  setsid : operation ≠ .setsid
  setpgid : operation ≠ .setpgid
  setrlimit : sealResourceLimits = true → operation ≠ .setrlimit
  prlimit64 : sealResourceLimits = true → operation = .prlimit64 → data.args 2 = 0

/-- The guarded operations have the numbers that the filter guards. -/
theorem operation_number (number : Word) :
    (operation number = .setsid → number = Block.setsid.number) ∧
    (operation number = .setpgid → number = Block.setpgid.number) ∧
    (operation number = .setrlimit → number = Block.setrlimit.number) ∧
    (operation number = .prlimit64 → number = Block.prlimit64.number) := by
  unfold operation Block.number
  refine ⟨?_, ?_, ?_, ?_⟩
  all_goals
    intro equal
    split_ifs at equal
    assumption

/-- A number that the filter lets through is none of the guarded ones. -/
theorem allowed_number {headers : Headers} {sealResourceLimits : Bool} {data : SeccompData}
    (allowed : policy headers.compiled sealResourceLimits data = allow) :
    data.arch = auditArchX8664 ∧ data.nr ≠ Block.setsid.number ∧
      data.nr ≠ Block.setpgid.number ∧
      (sealResourceLimits = true → data.nr ≠ Block.setrlimit.number) ∧
      (sealResourceLimits = true → data.nr = Block.prlimit64.number →
        data.args 2 = 0) := by
  have native : data.arch = auditArchX8664 := by
    by_contra foreign
    rw [policy, if_pos foreign] at allowed
    exact absurd allowed (by decide)
  refine ⟨native, ?_, ?_, ?_, ?_⟩
  · intro number
    have listed : (Block.setsid, eperm) ∈ refusals sealResourceLimits := by simp [refusals]
    rw [policy_refusal native listed headers.sessions.1 number] at allowed
    exact absurd allowed (by decide)
  · intro number
    have listed : (Block.setpgid, eperm) ∈ refusals sealResourceLimits := by simp [refusals]
    rw [policy_refusal native listed headers.sessions.2 number] at allowed
    exact absurd allowed (by decide)
  · intro sealed number
    subst sealed
    have listed : (Block.setrlimit, eperm) ∈ refusals true := by
      simp [refusals, limitVerdict]
    rw [policy_refusal native listed headers.limits.1 number] at allowed
    exact absurd allowed (by decide)
  · intro sealed number
    subst sealed
    by_contra given
    rw [policy_prlimit64 native headers.limits.2 number given] at allowed
    exact absurd allowed (by decide)

/-- A dispatched call is harmless, unless it is an alias. -/
theorem harmless_of_allowed {headers : Headers} {x32 sealResourceLimits : Bool}
    {data : SeccompData} {number : Word}
    (allowed : policy headers.compiled sealResourceLimits data = allow)
    (unaliased : (x32 && isAlias sealResourceLimits data) = false)
    (looked : dispatched x32 data.nr = some number) :
    Harmless sealResourceLimits data (operation number) := by
  rcases allowed_number allowed with ⟨native, notSetsid, notSetpgid, notSetrlimit, nullLimit⟩
  rcases operation_number number with ⟨setsid, setpgid, setrlimit, prlimit64⟩
  unfold dispatched at looked
  split at looked
  next =>
    cases looked
    refine ⟨?_, ?_, ?_, ?_⟩
    · intro equal
      exact notSetsid (setsid equal)
    · intro equal
      exact notSetpgid (setpgid equal)
    · intro sealed equal
      exact notSetrlimit sealed (setrlimit equal)
    · intro sealed equal
      exact nullLimit sealed (prlimit64 equal)
  next =>
    split at looked
    next enabled =>
      cases looked
      have restored : ∀ value, data.nr - x32Bit = value → data.nr = value + x32Bit := by
        intro value equal
        rw [← equal, BitVec.sub_add_cancel]
      rw [enabled, Bool.true_and, isAlias, decide_eq_true native, Bool.true_and,
        Bool.or_eq_false_iff, Bool.or_eq_false_iff] at unaliased
      rcases unaliased with ⟨⟨noSetsid, noSetpgid⟩, noLimit⟩
      refine ⟨?_, ?_, ?_, ?_⟩
      · intro equal
        exact of_decide_eq_false noSetsid (restored _ (setsid equal))
      · intro equal
        exact of_decide_eq_false noSetpgid (restored _ (setpgid equal))
      · intro sealed equal
        have number := restored _ (setrlimit equal)
        simp [sealed, number] at noLimit
      · intro sealed equal
        have number := restored _ (prlimit64 equal)
        simpa [sealed, number, Block.number, x32Bit] using noLimit
    next => cases looked

section Invariant

variable {leader : Nat} {limits : ResourceLimits} {sealResourceLimits : Bool}

theorem Contained.change {family : Family}
    (contained : ∀ task ∈ family, Contained leader limits sealResourceLimits task)
    (pid : Nat) (effect : Task → Task)
    (kept : ∀ task ∈ family, Contained leader limits sealResourceLimits (effect task)) :
    ∀ task ∈ family.change pid effect, Contained leader limits sealResourceLimits task := by
  intro task member
  rw [Family.change, List.mem_map] at member
  rcases member with ⟨old, oldMember, rfl⟩
  split
  next => exact kept old oldMember
  next => exact contained old oldMember

/-- A change of unsealed limits keeps the containment. -/
theorem Contained.limits_of_unsealed {task : Task}
    (contained : Contained leader limits sealResourceLimits task)
    (unsealed : sealResourceLimits = false) (table : LimitTable) :
    Contained leader limits sealResourceLimits { task with limits := table } := by
  refine ⟨contained.session, contained.group, ?_⟩
  intro sealed
  rw [unsealed] at sealed
  cases sealed

theorem Contained.perform {family : Family} {call : Call} {operation : Operation}
    (contained : ∀ task ∈ family, Contained leader limits sealResourceLimits task)
    (harmless : Harmless sealResourceLimits call.data operation) :
    ∀ task ∈ family.perform call operation,
      Contained leader limits sealResourceLimits task := by
  cases operation with
  | spawn =>
      intro task member
      rcases List.mem_append.mp member with old | new
      · exact contained task old
      · rw [List.mem_map] at new
        rcases new with ⟨parent, parentMember, rfl⟩
        have inherited := contained parent (List.mem_of_mem_filter parentMember)
        exact ⟨inherited.session, inherited.group, inherited.limited⟩
  | setsid => exact absurd rfl harmless.setsid
  | setpgid => exact absurd rfl harmless.setpgid
  | setrlimit =>
      have unsealed : sealResourceLimits = false := by
        by_contra sealed
        exact harmless.setrlimit (by simpa using sealed) rfl
      apply Contained.change contained
      intro task member
      exact (contained task member).limits_of_unsealed unsealed _
  | prlimit64 =>
      simp only [Family.perform]
      split
      next => exact contained
      next given =>
        have unsealed : sealResourceLimits = false := by
          by_contra sealed
          exact given (harmless.prlimit64 (by simpa using sealed) rfl)
        apply Contained.change contained
        intro task member
        exact (contained task member).limits_of_unsealed unsealed _
  | exit =>
      intro task member
      exact contained task (List.mem_of_mem_filter member)
  | other => exact contained

/-- One system call keeps every process contained. -/
theorem Contained.step {headers : Headers} {x32 : Bool} {call : Call}
    {family next : Family}
    (contained : ∀ task ∈ family, Contained leader limits sealResourceLimits task)
    (unaliased : noAlias x32 sealResourceLimits family call = true)
    (taken : Family.step x32 (containmentFilter headers.compiled sealResourceLimits) call
      family = some next) :
    ∀ task ∈ next, Contained leader limits sealResourceLimits task := by
  unfold Family.step at taken
  rw [run_containmentFilter] at taken
  dsimp only at taken
  split at taken
  next =>
    split at taken
    next allowed =>
      cases taken
      unfold Family.dispatch
      split
      next => exact contained
      next =>
        split
        next number looked =>
          apply Contained.perform contained
          apply harmless_of_allowed allowed ?_ looked
          exact (Bool.not_eq_true' _).mp unaliased
        next => exact contained
    next =>
      split at taken
      next =>
        cases taken
        intro task member
        exact contained task (List.mem_of_mem_filter member)
      next =>
        cases taken
        exact contained
  next => cases taken

/-- The child enters the program contained. -/
theorem Contained.setupChild {refuses : SetrlimitRule} {task started : Task}
    (setup : setupChild refuses limits task = .ok started) :
    Contained started.pid limits sealResourceLimits started := by
  unfold Containment.setupChild at setup
  split at setup
  next => cases setup
  next table done =>
    cases setup
    refine ⟨rfl, rfl, ?_⟩
    intro _ resource value requested
    show table resource = ⟨value, value⟩
    rw [setupResourceLimits_ok done resource, requested]
    rfl

end Invariant

/-- Every descendant of the program stays in its session and group, and keeps
every sealed limit, in every run in which no alias is used on a kernel with x32
support. -/
theorem descendants_contained {headers : Headers} {x32 sealResourceLimits : Bool}
    {noNewPrivileges installed : Bool} {filter : List Instruction}
    {refuses : SetrlimitRule} {limits : ResourceLimits} {child leader : Task}
    {family : Family}
    (setup : setupChild refuses limits child = .ok leader)
    (installs : installProcessGroupContainment headers noNewPrivileges installed
      sealResourceLimits = some filter)
    (run : Reaches (Family.step x32 filter) (noAlias x32 sealResourceLimits)
      [leader] family) :
    ∀ task ∈ family, task.session = leader.session ∧ task.group = leader.group ∧
      (sealResourceLimits = true → ∀ resource value,
        limits.requested resource = some value →
          task.limits resource = ⟨value, value⟩) := by
  have isFilter : filter = containmentFilter headers.compiled sealResourceLimits := by
    unfold installProcessGroupContainment at installs
    split_ifs at installs
    exact (Option.some.inj installs).symm
  subst isFilter
  have start : Contained leader.pid limits sealResourceLimits leader :=
    Contained.setupChild setup
  have kept : ∀ task ∈ family, Contained leader.pid limits sealResourceLimits task := by
    refine run.preserves
      (fun family => ∀ task ∈ family, Contained leader.pid limits sealResourceLimits task)
      ?_ ?_
    · intro state call next contained unaliased taken
      exact Contained.step contained unaliased taken
    · intro task member
      rw [List.mem_singleton.mp member]
      exact start
  intro task member
  have contained := kept task member
  exact ⟨contained.session.trans start.session.symm,
    contained.group.trans start.group.symm, contained.limited⟩

/-! ## Runs -/

/-- Headers that define every number. -/
def Headers.full : Headers := ⟨fun _ => true, ⟨rfl, rfl⟩, ⟨rfl, rfl⟩⟩

/-- A child that inherits unlimited resources. -/
def plainChild : Task := ⟨100, 7, 7, fun _ => ⟨rlimInfinity, rlimInfinity⟩⟩

/-- A request for 64 open files. -/
def openFilesLimit : ResourceLimits := ⟨none, none, some 64⟩

/-- The child after its setup. -/
def limitedLeader : Task :=
  ⟨100, 100, 100, Function.update (fun _ => ⟨rlimInfinity, rlimInfinity⟩) rlimitNofile
    ⟨64, 64⟩⟩

/-- A native x86-64 call with all arguments zero. -/
def nativeCall (caller : Nat) (nr : Word) (child : Nat) : Call :=
  ⟨caller, ⟨nr, auditArchX8664, 0, fun _ => 0⟩, child, ⟨0, 0⟩, false⟩

theorem setupChild_plain : setupChild lowersOnly openFilesLimit plainChild =
    .ok limitedLeader := by
  rfl

/-- The leader forks, and the child tries `setsid` by its native number. -/
theorem refused_setsid_contained :
    ∃ family task,
      Reaches (Family.step true (containmentFilter Headers.full.compiled true))
        (noAlias true true) [limitedLeader] family ∧
      task ∈ family ∧ task.pid = 101 ∧ task.session = limitedLeader.session ∧
      task.group = limitedLeader.group ∧ task.limits rlimitNofile = ⟨64, 64⟩ := by
  have played : (replay (Family.step true (containmentFilter Headers.full.compiled true))
      (noAlias true true) [nativeCall 100 57 101, nativeCall 101 112 0]
      [limitedLeader]).any
      (fun family => family.any fun task => task.pid = 101) = true := by
    decide
  rcases exists_reached played with ⟨family, run, test⟩
  rcases List.any_eq_true.mp test with ⟨task, member, pid⟩
  have installs : installProcessGroupContainment Headers.full true true true =
      some (containmentFilter Headers.full.compiled true) := rfl
  rcases descendants_contained setupChild_plain installs run task member with
    ⟨session, group, limited⟩
  exact ⟨family, task, run, member, of_decide_eq_true pid, session, group,
    limited rfl rlimitNofile 64 rfl⟩

/-- With the x32 number the same call passes the filter. -/
theorem aliased_setsid_escapes :
    ∃ family task,
      setupChild lowersOnly openFilesLimit plainChild = .ok limitedLeader ∧
      Reaches (Family.step true (containmentFilter Headers.full.compiled true))
        unrestricted [limitedLeader] family ∧
      task ∈ family ∧ task.pid = 101 ∧ task.session ≠ limitedLeader.session ∧
      task.group ≠ limitedLeader.group := by
  have played : (replay (Family.step true (containmentFilter Headers.full.compiled true))
      unrestricted [nativeCall 100 57 101, nativeCall 101 (112 + x32Bit) 0]
      [limitedLeader]).any
      (fun family => family.any fun task => decide (task.pid = 101 ∧
        task.session ≠ limitedLeader.session ∧ task.group ≠ limitedLeader.group)) =
        true := by
    decide
  rcases exists_reached played with ⟨family, run, test⟩
  rcases List.any_eq_true.mp test with ⟨task, member, escaped⟩
  rcases of_decide_eq_true escaped with ⟨pid, session, group⟩
  exact ⟨family, task, setupChild_plain, run, member, pid, session, group⟩

end PkgexecLinux.Containment

import Mathlib.Data.List.Nodup
import PkgexecLinux.Foundation.ClassicBpf

/-!
# The containment filter

The seccomp program of `install_process_group_containment`, instruction by
instruction, and its meaning as a policy.  Blocks that the source compiles in
only when the kernel headers define their system call are optional here too.
-/

namespace PkgexecLinux.Containment

open Foundation.Bpf

/-- `seccomp_data`. -/
structure SeccompData where
  nr : Word
  arch : Word
  instructionPointer : BitVec 64
  args : Fin 6 → BitVec 64

namespace SeccompData

abbrev firstArgument (data : SeccompData) : BitVec 64 := data.args 0

abbrev secondArgument (data : SeccompData) : BitVec 64 := data.args 1

abbrev thirdArgument (data : SeccompData) : BitVec 64 := data.args 2

end SeccompData

/-- Low half of a 64-bit value. -/
def low (value : BitVec 64) : Word := value.setWidth 32

/-- High half of a 64-bit value. -/
def high (value : BitVec 64) : Word := (value >>> 32).setWidth 32

/-- The words of `seccomp_data` on a little-endian machine, by offset. -/
def SeccompData.word (data : SeccompData) : Nat → Option Word
  | 0 => some data.nr
  | 4 => some data.arch
  | 8 => some (low data.instructionPointer)
  | 12 => some (high data.instructionPointer)
  | 16 => some (low (data.args 0))
  | 20 => some (high (data.args 0))
  | 24 => some (low (data.args 1))
  | 28 => some (high (data.args 1))
  | 32 => some (low (data.args 2))
  | 36 => some (high (data.args 2))
  | 40 => some (low (data.args 3))
  | 44 => some (high (data.args 3))
  | 48 => some (low (data.args 4))
  | 52 => some (high (data.args 4))
  | 56 => some (low (data.args 5))
  | 60 => some (high (data.args 5))
  | _ => none

/-! ## Constants of the kernel headers -/

/-- `AUDIT_ARCH_X86_64`. -/
def auditArchX8664 : Word := 0xC000003E

/-- `SECCOMP_RET_KILL_PROCESS`. -/
def killProcess : Word := 0x80000000

/-- `SECCOMP_RET_ALLOW`. -/
def allow : Word := 0x7fff0000

/-- `SECCOMP_RET_ERRNO | EPERM`. -/
def eperm : Word := 0x00050001

/-- `SECCOMP_RET_ERRNO | ENOSYS`. -/
def enosys : Word := 0x00050026

/-- The namespace flags of `clone` that the filter tests. -/
def namespaceFlags : Word :=
  0x02000000 ||| 0x08000000 ||| 0x40000000 ||| 0x00020000 |||
    0x20000000 ||| 0x00000080 ||| 0x10000000 ||| 0x04000000

/-- The system calls with a block of their own. -/
inductive Block where
  | clone
  | setsid
  | setpgid
  | unshare
  | setns
  | clone3
  | mount
  | umount2
  | pivotRoot
  | chroot
  | openTree
  | moveMount
  | mountSetattr
  | setrlimit
  | prlimit64
  deriving DecidableEq, Repr

/-- Numbers of the x86-64 system call table. -/
def Block.number : Block → Word
  | .clone => 56
  | .setsid => 112
  | .setpgid => 109
  | .unshare => 272
  | .setns => 308
  | .clone3 => 435
  | .mount => 165
  | .umount2 => 166
  | .pivotRoot => 155
  | .chroot => 161
  | .openTree => 428
  | .moveMount => 429
  | .mountSetattr => 442
  | .setrlimit => 160
  | .prlimit64 => 302

/-! ## The program -/

/-- Verdict of the calls that change resource limits. -/
def limitVerdict (sealResourceLimits : Bool) : Word := if sealResourceLimits then eperm else allow

/-- The blocks that compare the number and return, in source order. -/
def refusals (sealResourceLimits : Bool) : List (Block × Word) :=
  [(.setsid, eperm), (.setpgid, eperm), (.unshare, eperm), (.setns, eperm),
    (.clone3, enosys), (.mount, eperm), (.umount2, eperm), (.pivotRoot, eperm),
    (.chroot, eperm), (.openTree, eperm), (.moveMount, eperm), (.mountSetattr, eperm),
    (.setrlimit, limitVerdict sealResourceLimits)]

/-- The compiled blocks, as number and verdict. -/
def refusalTable (compiled : Block → Bool) (sealResourceLimits : Bool) : List (Word × Word) :=
  ((refusals sealResourceLimits).filter fun entry => compiled entry.1).map fun entry =>
    (entry.1.number, entry.2)

def architectureCheck : List Instruction :=
  [.load 4, .jumpEqual auditArchX8664 1 0, .ret killProcess, .load 0]

def cloneBlock : List Instruction :=
  [.jumpEqual Block.clone.number 0 3, .load 16, .jumpSet namespaceFlags 0 1,
    .ret eperm, .load 0]

def prlimitBlock (sealResourceLimits : Bool) : List Instruction :=
  [.jumpEqual Block.prlimit64.number 0 5, .load 32, .jumpEqual 0 0 2, .load 36,
    .jumpEqual 0 1 0, .ret (limitVerdict sealResourceLimits)]

/-- A block that is present only when its system call is known. -/
def optional (present : Bool) (block : List Instruction) : List Instruction :=
  if present then block else []

/-- The filter of `install_process_group_containment`. -/
def containmentFilter (compiled : Block → Bool) (sealResourceLimits : Bool) : List Instruction :=
  architectureCheck ++ (optional (compiled .clone) cloneBlock ++
    (((refusalTable compiled sealResourceLimits).flatMap fun entry => guarded entry.1 entry.2) ++
      (optional (compiled .prlimit64) (prlimitBlock sealResourceLimits) ++ [.ret allow])))

/-! ## Its meaning -/

/-- What the filter decides. -/
def policy (compiled : Block → Bool) (sealResourceLimits : Bool) (data : SeccompData) : Word :=
  if data.arch ≠ auditArchX8664 then killProcess
  else if compiled .clone = true ∧ data.nr = Block.clone.number ∧
      low (data.args 0) &&& namespaceFlags ≠ 0 then eperm
  else
    match firstMatch (refusalTable compiled sealResourceLimits) data.nr with
    | some verdict => verdict
    | none =>
        if compiled .prlimit64 = true ∧ data.nr = Block.prlimit64.number ∧
            data.args 2 ≠ 0 then limitVerdict sealResourceLimits
        else allow

/-- A 64-bit value is zero if both halves are. -/
theorem eq_zero_of_halves {value : BitVec 64} (lowZero : low value = 0)
    (highZero : high value = 0) : value = 0 := by
  apply BitVec.eq_of_getLsbD_eq
  intro position bound
  have lowBit := congrArg (fun word => word.getLsbD position) lowZero
  have highBit := congrArg (fun word => word.getLsbD (position - 32)) highZero
  simp only [low, high, BitVec.getLsbD_setWidth, BitVec.getLsbD_ushiftRight] at lowBit highBit
  by_cases small : position < 32
  · simpa [small] using lowBit
  · have shifted : 32 + (position - 32) = position := by omega
    have inside : position - 32 < 32 := by omega
    simpa [shifted, inside] using highBit

section Meaning

variable {data : SeccompData} {program : List Instruction} {accumulator : Word}

theorem exec_architectureCheck :
    exec data.word (architectureCheck ++ program) 0 accumulator =
      if data.arch = auditArchX8664 then exec data.word program 0 data.nr
      else some killProcess := by
  have arch : data.word 4 = some data.arch := rfl
  have number : data.word 0 = some data.nr := rfl
  simp only [architectureCheck, List.cons_append, List.nil_append]
  rw [exec_load arch, exec_jumpEqual]
  by_cases native : data.arch = auditArchX8664
  · rw [if_pos native, if_pos native, exec_skip, exec_load number]
  · rw [if_neg native, if_neg native, exec_ret]

theorem exec_cloneBlock :
    exec data.word (cloneBlock ++ program) 0 data.nr =
      if data.nr = Block.clone.number ∧ low (data.args 0) &&& namespaceFlags ≠ 0 then
        some eperm
      else
        exec data.word program 0 data.nr := by
  have flags : data.word 16 = some (low (data.args 0)) := rfl
  have number : data.word 0 = some data.nr := rfl
  simp only [cloneBlock, List.cons_append, List.nil_append]
  rw [exec_jumpEqual]
  by_cases clone : data.nr = Block.clone.number
  · rw [if_pos clone, exec_load flags, exec_jumpSet]
    by_cases fresh : low (data.args 0) &&& namespaceFlags ≠ 0
    · rw [if_pos fresh, exec_ret, if_pos ⟨clone, fresh⟩]
    · rw [if_neg fresh, exec_skip, exec_load number, if_neg fun both => fresh both.2]
  · rw [if_neg clone, exec_skip, exec_skip, exec_skip, exec_load number,
      if_neg fun both => clone both.1]

/-- The last block falls through to the final return. -/
theorem exec_prlimitBlock (sealResourceLimits : Bool) :
    exec data.word (prlimitBlock sealResourceLimits ++ [.ret allow]) 0 data.nr =
      some (if data.nr = Block.prlimit64.number ∧ data.args 2 ≠ 0 then
        limitVerdict sealResourceLimits else allow) := by
  have lower : data.word 32 = some (low (data.args 2)) := rfl
  have upper : data.word 36 = some (high (data.args 2)) := rfl
  simp only [prlimitBlock, List.cons_append, List.nil_append]
  rw [exec_jumpEqual]
  by_cases prlimit : data.nr = Block.prlimit64.number
  · rw [if_pos prlimit, exec_load lower, exec_jumpEqual]
    by_cases lowZero : low (data.args 2) = 0
    · rw [if_pos lowZero, exec_load upper, exec_jumpEqual]
      by_cases highZero : high (data.args 2) = 0
      · have null := eq_zero_of_halves lowZero highZero
        rw [if_pos highZero, exec_skip, exec_ret, if_neg fun both => both.2 null]
      · have set : data.args 2 ≠ 0 := by
          intro null
          apply highZero
          rw [null]
          rfl
        rw [if_neg highZero, exec_ret, if_pos ⟨prlimit, set⟩]
    · have set : data.args 2 ≠ 0 := by
        intro null
        apply lowZero
        rw [null]
        rfl
      rw [if_neg lowZero, exec_skip, exec_skip, exec_ret, if_pos ⟨prlimit, set⟩]
  · rw [if_neg prlimit, exec_skip, exec_skip, exec_skip, exec_skip, exec_skip, exec_ret,
      if_neg fun both => prlimit both.1]

/-- The filter always returns, and what it returns is its policy. -/
theorem run_containmentFilter (compiled : Block → Bool) (sealResourceLimits : Bool)
    (data : SeccompData) :
    run (containmentFilter compiled sealResourceLimits) data.word =
      some (policy compiled sealResourceLimits data) := by
  unfold run containmentFilter policy
  rw [exec_architectureCheck]
  by_cases native : data.arch = auditArchX8664
  · rw [if_pos native, if_neg (not_not.mpr native)]
    have clone : ∀ rest,
        exec data.word (optional (compiled .clone) cloneBlock ++ rest) 0 data.nr =
          if compiled .clone = true ∧ data.nr = Block.clone.number ∧
              low (data.args 0) &&& namespaceFlags ≠ 0 then some eperm
          else exec data.word rest 0 data.nr := by
      intro rest
      cases present : compiled .clone with
      | true => simp [optional, exec_cloneBlock]
      | false => simp [optional]
    have prlimit : exec data.word
        (optional (compiled .prlimit64) (prlimitBlock sealResourceLimits) ++ [.ret allow]) 0
          data.nr =
          some (if compiled .prlimit64 = true ∧ data.nr = Block.prlimit64.number ∧
            data.args 2 ≠ 0 then limitVerdict sealResourceLimits else allow) := by
      cases present : compiled .prlimit64 with
      | true => simp [optional, exec_prlimitBlock]
      | false => simp [optional]
    rw [clone, exec_table, prlimit]
    split
    next => rfl
    next =>
      cases firstMatch (refusalTable compiled sealResourceLimits) data.nr with
      | some verdict => rfl
      | none => rfl
  · rw [if_neg native, if_pos native]

end Meaning

/-! ## Reading the policy -/

theorem Block.number_injective : Function.Injective Block.number := by
  intro left right
  cases left <;> cases right <;> decide

theorem refusals_nodup (sealResourceLimits : Bool) :
    ((refusals sealResourceLimits).map (·.1)).Nodup := by
  cases sealResourceLimits <;> decide

/-- A compiled block decides about its own number. -/
theorem firstMatch_refusalTable {compiled : Block → Bool} {sealResourceLimits : Bool}
    {block : Block} {verdict : Word}
    (listed : (block, verdict) ∈ refusals sealResourceLimits)
    (present : compiled block = true) :
    firstMatch (refusalTable compiled sealResourceLimits) block.number = some verdict := by
  have inTable : (block.number, verdict) ∈ refusalTable compiled sealResourceLimits := by
    apply List.mem_map.mpr
    exact ⟨(block, verdict), List.mem_filter.mpr ⟨listed, present⟩, rfl⟩
  have only : ∀ entry ∈ refusalTable compiled sealResourceLimits,
      block.number = entry.1 → entry.2 = verdict := by
    intro entry member same
    rw [refusalTable, List.mem_map] at member
    rcases member with ⟨source, sourceMember, rfl⟩
    have sourceListed := List.mem_of_mem_filter sourceMember
    have equal := List.inj_on_of_nodup_map (refusals_nodup sealResourceLimits)
      sourceListed listed (Block.number_injective same.symm)
    rw [equal]
  unfold firstMatch
  cases found : (refusalTable compiled sealResourceLimits).find?
      fun entry => block.number == entry.1 with
  | none =>
      have missing := List.find?_eq_none.mp found _ inTable
      simp at missing
  | some entry =>
      have member := List.mem_of_find?_eq_some found
      have same : block.number = entry.1 := by simpa using List.find?_some found
      simp [only entry member same]

/-- The table decides exactly about the numbers of its compiled blocks. -/
theorem firstMatch_eq_some_iff {compiled : Block → Bool} {sealResourceLimits : Bool}
    {number verdict : Word} :
    firstMatch (refusalTable compiled sealResourceLimits) number = some verdict ↔
      ∃ block, (block, verdict) ∈ refusals sealResourceLimits ∧ compiled block = true ∧
        number = block.number := by
  constructor
  · intro found
    simp only [firstMatch, Option.map_eq_some_iff] at found
    rcases found with ⟨entry, found, rfl⟩
    have member := List.mem_of_find?_eq_some found
    have same : number = entry.1 := by simpa using List.find?_some found
    rw [refusalTable, List.mem_map] at member
    rcases member with ⟨source, sourceMember, rfl⟩
    rcases List.mem_filter.mp sourceMember with ⟨listed, present⟩
    exact ⟨source.1, listed, present, same⟩
  · rintro ⟨block, listed, present, rfl⟩
    exact firstMatch_refusalTable listed present

/-- The table does not decide about a block that it does not list. -/
theorem firstMatch_unlisted (compiled : Block → Bool) {sealResourceLimits : Bool}
    {block : Block} {number : Word}
    (unlisted : ∀ verdict, (block, verdict) ∉ refusals sealResourceLimits)
    (own : number = block.number) :
    firstMatch (refusalTable compiled sealResourceLimits) number = none := by
  apply Option.eq_none_iff_forall_ne_some.mpr
  intro verdict found
  rcases firstMatch_eq_some_iff.mp found with ⟨other, listed, -, same⟩
  rw [Block.number_injective (same.symm.trans own)] at listed
  exact unlisted verdict listed

/-- The verdict on a compiled block's own number. -/
theorem policy_refusal {compiled : Block → Bool} {sealResourceLimits : Bool}
    {data : SeccompData} {block : Block} {verdict : Word}
    (native : data.arch = auditArchX8664)
    (listed : (block, verdict) ∈ refusals sealResourceLimits)
    (present : compiled block = true) (number : data.nr = block.number) :
    policy compiled sealResourceLimits data = verdict := by
  have notClone : block ≠ .clone := by
    intro clone
    subst clone
    simp [refusals] at listed
  have elsewhere : data.nr ≠ Block.clone.number := by
    intro same
    exact notClone (Block.number_injective (number.symm.trans same))
  unfold policy
  rw [if_neg (not_not.mpr native), if_neg fun both => elsewhere both.2.1, number,
    firstMatch_refusalTable listed present]

/-- The verdict on `prlimit64` with a new limit. -/
theorem policy_prlimit64 {compiled : Block → Bool} {sealResourceLimits : Bool}
    {data : SeccompData} (native : data.arch = auditArchX8664)
    (present : compiled .prlimit64 = true) (number : data.nr = Block.prlimit64.number)
    (given : data.args 2 ≠ 0) :
    policy compiled sealResourceLimits data = limitVerdict sealResourceLimits := by
  have unlisted : firstMatch (refusalTable compiled sealResourceLimits) data.nr = none :=
    firstMatch_unlisted compiled (by simp [refusals]) number
  have notClone : data.nr ≠ Block.clone.number := by
    rw [number]
    decide
  unfold policy
  rw [if_neg (not_not.mpr native), if_neg fun both => notClone both.2.1, unlisted]
  exact if_pos ⟨present, number, given⟩

/-! ## The rules, one by one -/

/-- The namespace flags of `clone`, one for each kind of namespace. -/
def namespaceKinds : List Word :=
  [0x02000000, 0x08000000, 0x40000000, 0x00020000, 0x20000000, 0x00000080, 0x10000000,
    0x04000000]

/-- The session, group, namespace and mount calls that are always denied. -/
def deniedBlocks : List Block :=
  [.setsid, .setpgid, .unshare, .setns, .mount, .umount2, .pivotRoot, .chroot, .openTree,
    .moveMount, .mountSetattr]

/-- The call is `block`'s, and the block is part of the program. -/
def Concerns (compiled : Block → Bool) (data : SeccompData) (block : Block) : Prop :=
  compiled block = true ∧ data.nr = block.number

instance (compiled : Block → Bool) (data : SeccompData) (block : Block) :
    Decidable (Concerns compiled data block) :=
  inferInstanceAs (Decidable (_ ∧ _))

/-- The calls that are denied with `EPERM`. -/
def Denied (compiled : Block → Bool) (sealResourceLimits : Bool) (data : SeccompData) : Prop :=
  (Concerns compiled data .clone ∧
      ∃ flag ∈ namespaceKinds, low (data.args 0) &&& flag ≠ 0) ∨
    (∃ block ∈ deniedBlocks, Concerns compiled data block) ∨
    (sealResourceLimits = true ∧ Concerns compiled data .setrlimit) ∨
    (sealResourceLimits = true ∧ Concerns compiled data .prlimit64 ∧ data.args 2 ≠ 0)

instance (compiled : Block → Bool) (sealResourceLimits : Bool) (data : SeccompData) :
    Decidable (Denied compiled sealResourceLimits data) :=
  inferInstanceAs (Decidable (_ ∨ _ ∨ _ ∨ _))

/-- The verdict the rules give, without reference to the order of the blocks. -/
def ruling (compiled : Block → Bool) (sealResourceLimits : Bool) (data : SeccompData) : Word :=
  if data.arch ≠ auditArchX8664 then killProcess
  else if Denied compiled sealResourceLimits data then eperm
  else if Concerns compiled data .clone3 then enosys
  else allow

/-- The mask of the filter tests for each flag. -/
theorem and_namespaceFlags_ne_zero (word : Word) :
    word &&& namespaceFlags ≠ 0 ↔ ∃ flag ∈ namespaceKinds, word &&& flag ≠ 0 := by
  have union : namespaceFlags = namespaceKinds.foldr (· ||| ·) 0 := by decide
  have split : ∀ kinds : List Word,
      word &&& kinds.foldr (· ||| ·) 0 ≠ 0 ↔ ∃ flag ∈ kinds, word &&& flag ≠ 0 := by
    intro kinds
    induction kinds with
    | nil => simp
    | cons flag kinds ih =>
        rw [List.foldr_cons, BitVec.and_or_distrib_left, List.exists_mem_cons_iff, ← ih]
        simp only [ne_eq, BitVec.ofNat_eq_ofNat, BitVec.or_eq_zero_iff, not_and_or]
  rw [union]
  exact split namespaceKinds

section Rules

variable {compiled : Block → Bool} {sealResourceLimits : Bool} {data : SeccompData}
  {block : Block}

/-- A call concerns at most one block. -/
theorem Concerns.unique {other : Block} (concerns : Concerns compiled data block)
    (also : Concerns compiled data other) : other = block :=
  Block.number_injective (also.2.symm.trans concerns.2)

/-- The verdict on the calls of one block. -/
def blockRuling (sealResourceLimits : Bool) (data : SeccompData) : Block → Word
  | .clone => if low (data.args 0) &&& namespaceFlags ≠ 0 then eperm else allow
  | .clone3 => enosys
  | .setrlimit => limitVerdict sealResourceLimits
  | .prlimit64 => if data.args 2 ≠ 0 then limitVerdict sealResourceLimits else allow
  | _ => eperm

/-- Only `clone` and `prlimit64` are decided by more than their number. -/
theorem listed_or_inspected (sealResourceLimits : Bool) (data : SeccompData) (block : Block) :
    (block, blockRuling sealResourceLimits data block) ∈ refusals sealResourceLimits ∨
      block = .clone ∨ block = .prlimit64 := by
  cases block <;> simp [refusals, blockRuling]

theorem policy_of_concerns (native : data.arch = auditArchX8664)
    (concerns : Concerns compiled data block) :
    policy compiled sealResourceLimits data = blockRuling sealResourceLimits data block := by
  rcases listed_or_inspected sealResourceLimits data block with listed | rfl | rfl
  · exact policy_refusal native listed concerns.1 concerns.2
  · have unlisted : firstMatch (refusalTable compiled sealResourceLimits) data.nr = none :=
      firstMatch_unlisted compiled (by simp [refusals]) concerns.2
    have notPrlimit : data.nr ≠ Block.prlimit64.number := by
      rw [concerns.2]
      decide
    unfold policy
    rw [if_neg (not_not.mpr native), unlisted]
    simp only [concerns.1, concerns.2, true_and, blockRuling]
    split
    · rfl
    · exact if_neg fun both => notPrlimit (concerns.2.trans both.2.1)
  · by_cases given : data.args 2 = 0
    · have unlisted : firstMatch (refusalTable compiled sealResourceLimits) data.nr = none :=
        firstMatch_unlisted compiled (by simp [refusals]) concerns.2
      have notClone : data.nr ≠ Block.clone.number := by
        rw [concerns.2]
        decide
      unfold policy
      rw [if_neg (not_not.mpr native), if_neg fun both => notClone both.2.1, unlisted]
      simp [blockRuling, given]
    · rw [policy_prlimit64 native concerns.1 concerns.2 given]
      exact (if_pos given).symm

theorem ruling_of_concerns (native : data.arch = auditArchX8664)
    (concerns : Concerns compiled data block) :
    ruling compiled sealResourceLimits data = blockRuling sealResourceLimits data block := by
  have only : ∀ other, Concerns compiled data other ↔ other = block := by
    intro other
    constructor
    · exact concerns.unique
    · rintro rfl
      exact concerns
  unfold ruling Denied
  rw [if_neg (not_not.mpr native)]
  simp only [only, ← and_namespaceFlags_ne_zero]
  cases block <;> cases sealResourceLimits <;>
    simp [deniedBlocks, blockRuling, limitVerdict, eperm, allow, enosys]

theorem policy_of_unconcerned (native : data.arch = auditArchX8664)
    (unconcerned : ∀ block, ¬ Concerns compiled data block) :
    policy compiled sealResourceLimits data = allow := by
  have unlisted : firstMatch (refusalTable compiled sealResourceLimits) data.nr = none := by
    apply Option.eq_none_iff_forall_ne_some.mpr
    intro verdict found
    rcases firstMatch_eq_some_iff.mp found with ⟨block, -, concerns⟩
    exact unconcerned block concerns
  unfold policy
  rw [if_neg (not_not.mpr native),
    if_neg fun both => unconcerned .clone ⟨both.1, both.2.1⟩, unlisted]
  exact if_neg fun both => unconcerned .prlimit64 ⟨both.1, both.2.1⟩

theorem ruling_of_unconcerned (native : data.arch = auditArchX8664)
    (unconcerned : ∀ block, ¬ Concerns compiled data block) :
    ruling compiled sealResourceLimits data = allow := by
  simp [ruling, Denied, native, unconcerned]

/-- The order of the blocks plays no part in what the filter decides. -/
theorem policy_eq_ruling (compiled : Block → Bool) (sealResourceLimits : Bool)
    (data : SeccompData) :
    policy compiled sealResourceLimits data = ruling compiled sealResourceLimits data := by
  by_cases native : data.arch = auditArchX8664
  · by_cases concerned : ∃ block, Concerns compiled data block
    · rcases concerned with ⟨block, concerns⟩
      rw [policy_of_concerns native concerns, ruling_of_concerns native concerns]
    · have unconcerned : ∀ block, ¬ Concerns compiled data block := not_exists.mp concerned
      rw [policy_of_unconcerned native unconcerned, ruling_of_unconcerned native unconcerned]
  · simp [policy, ruling, native]

/-- A call the block would let through is allowed, also when the block is missing. -/
theorem ruling_allow (native : data.arch = auditArchX8664) (number : data.nr = block.number)
    (passes : blockRuling sealResourceLimits data block = allow) :
    ruling compiled sealResourceLimits data = allow := by
  cases present : compiled block with
  | true => rw [ruling_of_concerns native ⟨present, number⟩, passes]
  | false =>
      apply ruling_of_unconcerned native
      intro other concerns
      have same : other = block := Block.number_injective (concerns.2.symm.trans number)
      rw [Concerns, same, present] at concerns
      exact Bool.false_ne_true concerns.1

end Rules

/-- On every system call the program returns, and returns what the rules say: it lets
`prlimit64` read the limits and `clone` start ordinary children. -/
theorem containmentFilter_exact (compiled : Block → Bool) (sealResourceLimits : Bool)
    (data : SeccompData) :
    run (containmentFilter compiled sealResourceLimits) data.word =
        some (ruling compiled sealResourceLimits data) ∧
      (data.arch = auditArchX8664 → data.nr = Block.prlimit64.number → data.args 2 = 0 →
        run (containmentFilter compiled sealResourceLimits) data.word = some allow) ∧
      (data.arch = auditArchX8664 → data.nr = Block.clone.number →
        (∀ flag ∈ namespaceKinds, low (data.args 0) &&& flag = 0) →
        run (containmentFilter compiled sealResourceLimits) data.word = some allow) := by
  have meaning := run_containmentFilter compiled sealResourceLimits data
  rw [policy_eq_ruling] at meaning
  rw [meaning]
  refine ⟨rfl, ?_, ?_⟩
  · intro native number null
    rw [ruling_allow native number (if_neg (not_not.mpr null))]
  · intro native number plain
    have unset : low (data.args 0) &&& namespaceFlags = 0 := by
      by_contra set
      rcases (and_namespaceFlags_ne_zero _).mp set with ⟨flag, kind, hit⟩
      exact hit (plain flag kind)
    rw [ruling_allow native number (if_neg (not_not.mpr unset))]

/-- A `prlimit64` call that reads the limits of the caller. -/
def limitQuery : SeccompData :=
  { nr := 302, arch := auditArchX8664, instructionPointer := 0, args := fun _ => 0 }

theorem limitQuery_allowed :
    run (containmentFilter (fun _ => true) true) limitQuery.word = some allow :=
  (containmentFilter_exact (fun _ => true) true limitQuery).2.1 rfl rfl rfl

end PkgexecLinux.Containment

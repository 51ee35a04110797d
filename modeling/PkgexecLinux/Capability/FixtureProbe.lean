import PkgexecLinux.Capability.RealizationProbe
import PkgexecLinux.Filesystem.Scratch

/-!
# The probe of the isolated filesystem

`probe_isolated_filesystem` makes a small fixture under `/tmp`, admits it, realizes
the admission twice and removes everything again.  A directory that stays behind is
an answer of its own, which comes before that of the realization.
-/

namespace PkgexecLinux.Capability

open Foundation Foundation.Directories Filesystem Filesystem.AdmissionScratch

/-! ## The fixture -/

/-- The directories of the fixture, below the one that `mkdtemp` makes. -/
inductive FixtureDir where
  | base
  | view
  | resource
  | device
  | material
  deriving DecidableEq, Repr

namespace FixtureDir

def children : FixtureDir → List FixtureDir
  | .base => [.view, .material]
  | .view => [.resource, .device]
  | .resource | .device | .material => []

/-- The directories in the order in which they are made, after the first. -/
def creation : List FixtureDir := [.view, .resource, .device, .material]

/-- The order in which they are removed, by `cleanup_fixture` and at the end. -/
def removal : List FixtureDir := [.material, .resource, .device, .view, .base]

/-- The number of the stage at which a directory could not be removed. -/
def cleanupStage : FixtureDir → UInt32
  | .material => 12
  | .resource => 13
  | .device => 14
  | .view => 15
  | .base => 16

theorem mem_removal (dir : FixtureDir) : dir ∈ removal := by
  cases dir <;> decide

theorem removal_nodup : removal.Nodup := by decide

end FixtureDir

/-- Make directories until one cannot be made. -/
def mkdirAll (faults : FixtureDir → Option Nat) :
    List FixtureDir → (FixtureDir → Bool) → Option Nat × (FixtureDir → Bool)
  | [], dirs => (none, dirs)
  | dir :: rest, dirs =>
      match faults dir with
      | some errno => (some errno, dirs)
      | none => mkdirAll faults rest (Function.update dirs dir true)

/-! ## The probe -/

/-- What the kernel answers to the calls of the probe: the error numbers of those that fail,
the removals that it refuses, and what `probe_isolated_realization` reports each time. -/
structure FixtureScript where
  openat2 : Option Nat
  mkdtemp : Option Nat
  mkdir : FixtureDir → Option Nat
  /-- `open_exact_path` and `open_beneath` of the fixture. -/
  opened : Option Nat
  /-- What `errno` holds when `identity_of` throws. -/
  identified : Option Nat
  scratchMkdtemp : Option Nat
  /-- `chmod` and `mkdir` of `make_scratch`. -/
  scratchPrepared : Option Nat
  rmdir : FixtureDir → Option Refusal
  rmdirScratch : Refusals
  first : Option SetupReport
  second : Option SetupReport

/-- The answer of the probe, none for true, and the directories that exist afterwards. -/
structure FixtureOutcome where
  failure : Option SetupReport
  fixture : FixtureDir → Bool
  scratch : ScratchDir → Bool

def ebusy : Nat := 16

/-- `mount_setup_stage::parent_cleanup`. -/
def parentCleanupStage : UInt32 := 10

/-- No scratch directory. -/
def noScratch : ScratchDir → Bool := fun _ => false

/-- `{probe_preparation, errno}`. -/
def preparationFailure (errno : Nat) : SetupReport := ⟨preparationStage, UInt32.ofNat errno⟩

/-- The fixture after `cleanup_fixture`. -/
def cleanupFixture (script : FixtureScript) (dirs : FixtureDir → Bool) : FixtureDir → Bool :=
  (removeAll FixtureDir.children script.rmdir FixtureDir.removal dirs).2

/-- The admission of the fixture: the error number that is reported if it cannot be made,
and the scratch directories. -/
def admitFixture (script : FixtureScript) : Option Nat × (ScratchDir → Bool) :=
  match script.opened, script.identified, script.scratchMkdtemp with
  | some errno, _, _ => (some errno, noScratch)
  | none, some errno, _ => (some (orElse errno eio), noScratch)
  | none, none, some errno => (some (orElse errno eio), noScratch)
  | none, none, none =>
      let made := ScratchStore.makeScratch script.rmdirScratch 0 script.scratchPrepared.isNone
        noScratch
      (script.scratchPrepared.map fun errno => orElse errno eio, made.2)

/-- Two attempts, of which the second is made if the first succeeds. -/
def attempts (script : FixtureScript) : Option SetupReport := script.first.or script.second

/-- The end of the probe: what has been made is removed, and the answer is chosen. -/
def concludeProbe (script : FixtureScript) (dirs : FixtureDir → Bool)
    (scratch : ScratchDir → Bool) : FixtureOutcome :=
  let verified := verifyParentCleanup script.rmdirScratch ⟨some 0, false⟩ scratch
  let removed := removeAll FixtureDir.children script.rmdir FixtureDir.removal dirs
  let failure :=
    if verified.1 = false then some ⟨parentCleanupStage, UInt32.ofNat ebusy⟩
    else
      match removed.1 with
      | some (dir, errno) => some ⟨dir.cleanupStage, UInt32.ofNat errno⟩
      | none => attempts script
  ⟨failure, removed.2, verified.2.2⟩

/-- The fixture when only its first directory has been made. -/
def bareFixture : FixtureDir → Bool := fun dir => dir == .base

/-- `probe_isolated_filesystem`. -/
def probeIsolatedFilesystem (script : FixtureScript) : FixtureOutcome :=
  match script.openat2, script.mkdtemp with
  | some errno, _ => ⟨some (preparationFailure errno), fun _ => false, noScratch⟩
  | none, some errno => ⟨some (preparationFailure errno), fun _ => false, noScratch⟩
  | none, none =>
      match mkdirAll script.mkdir FixtureDir.creation bareFixture with
      | (some errno, dirs) =>
          ⟨some (preparationFailure errno), cleanupFixture script dirs, noScratch⟩
      | (none, dirs) =>
          match admitFixture script with
          | (some errno, scratch) =>
              ⟨some (preparationFailure errno), cleanupFixture script dirs, scratch⟩
          | (none, scratch) => concludeProbe script dirs scratch

/-- Everything up to the first attempt succeeds. -/
def FixtureScript.Prepared (script : FixtureScript) : Prop :=
  script.openat2 = none ∧ script.mkdtemp = none ∧
    (∀ dir ∈ FixtureDir.creation, script.mkdir dir = none) ∧ script.opened = none ∧
    script.identified = none ∧ script.scratchMkdtemp = none ∧ script.scratchPrepared = none

/-! ## What is left -/

/-- Children come before their parents, whatever exists. -/
theorem cleanupFixture_clears {script : FixtureScript} (free : ∀ dir, script.rmdir dir = none)
    (dirs : FixtureDir → Bool) (dir : FixtureDir) : cleanupFixture script dirs dir = false := by
  apply removeAll_clears ?_ (fun dir _ => free dir) dir (FixtureDir.mem_removal dir)
  intro early parent late split child member
  left
  match early with
  | [] | [_] | [_, _] =>
      cases split
      cases member
  | [_, _, _] =>
      cases split
      simp only [FixtureDir.children, List.mem_cons, List.not_mem_nil, or_false] at member
      rcases member with rfl | rfl <;> decide
  | [_, _, _, _] =>
      cases split
      simp only [FixtureDir.children, List.mem_cons, List.not_mem_nil, or_false] at member
      rcases member with rfl | rfl <;> decide
  | _ :: _ :: _ :: _ :: _ :: early => simp [FixtureDir.removal] at split

theorem mkdirAll_eq_none {faults : FixtureDir → Option Nat} {order : List FixtureDir}
    {dirs : FixtureDir → Bool} :
    (mkdirAll faults order dirs).1 = none ↔ ∀ dir ∈ order, faults dir = none := by
  induction order generalizing dirs with
  | nil => simp [mkdirAll]
  | cons dir rest ih =>
      rw [mkdirAll, List.forall_mem_cons]
      cases faults dir with
      | some errno => simp
      | none => simp [ih]

/-- The admission of the fixture succeeds with a scratch area, or leaves at most what could
not be removed. -/
theorem admitFixture_spec (script : FixtureScript) :
    (admitFixture script).1 = none ∧ (admitFixture script).2 = ScratchStore.addArea noScratch 0 ∧
        script.opened = none ∧ script.identified = none ∧ script.scratchMkdtemp = none ∧
        script.scratchPrepared = none ∨
      (∃ errno, (admitFixture script).1 = some errno) ∧
        ¬ (script.opened = none ∧ script.identified = none ∧ script.scratchMkdtemp = none ∧
          script.scratchPrepared = none) ∧
        ((∀ dir, script.rmdirScratch dir = none) → ∀ dir, (admitFixture script).2 dir = false) := by
  rw [admitFixture.eq_def]
  split
  next errno failed =>
    exact .inr ⟨⟨_, rfl⟩, by simp [failed], fun _ _ => rfl⟩
  next errno _ failed =>
    exact .inr ⟨⟨_, rfl⟩, by simp [failed], fun _ _ => rfl⟩
  next errno _ _ failed =>
    exact .inr ⟨⟨_, rfl⟩, by simp [failed], fun _ _ => rfl⟩
  next opened identified made =>
    cases prepared : script.scratchPrepared with
    | none =>
        left
        simp [ScratchStore.makeScratch, opened, identified, made]
    | some errno =>
        right
        refine ⟨⟨_, rfl⟩, by simp, ?_⟩
        intro free dir
        by_cases mine : dir.scratch = 0
        · exact removeAll_order free 0 _ dir mine
        · simp only [ScratchStore.makeScratch, Option.isNone_some, Bool.false_eq_true, if_false]
          rw [removeAll_of_notMem fun member => mine (ScratchDir.mem_order.mp member),
            ScratchStore.addTop_of_ne mine]
          rfl

/-- The scratch area after the verification. -/
theorem scratch_of_conclude (script : FixtureScript) :
    ((verifyParentCleanup script.rmdirScratch ⟨some 0, false⟩
        (ScratchStore.addArea noScratch 0)).1 = true ↔
      ∀ dir, (verifyParentCleanup script.rmdirScratch ⟨some 0, false⟩
        (ScratchStore.addArea noScratch 0)).2.2 dir = false) ∧
    ((∀ dir, script.rmdirScratch dir = none) →
      ∀ dir, (verifyParentCleanup script.rmdirScratch ⟨some 0, false⟩
        (ScratchStore.addArea noScratch 0)).2.2 dir = false) := by
  have cleaned := verifyParentCleanup_spec script.rmdirScratch ⟨some 0, false⟩
    (ScratchStore.addArea noScratch 0)
  have other : ∀ dir : ScratchDir, dir.scratch ≠ 0 →
      (verifyParentCleanup script.rmdirScratch ⟨some 0, false⟩
        (ScratchStore.addArea noScratch 0)).2.2 dir = false := by
    intro dir apart
    rw [cleaned.other (by simp [pending, apart.symm]), ScratchStore.addArea_of_ne apart]
    rfl
  generalize verifyParentCleanup script.rmdirScratch ⟨some 0, false⟩
    (ScratchStore.addArea noScratch 0) = outcome at cleaned other ⊢
  rcases outcome with ⟨answer, after, left⟩
  cases cleaned with
  | idle nothing => cases nothing
  | removed area _ held same gone =>
      cases held
      have none' : ∀ dir, left dir = false := by
        intro dir
        by_cases mine : dir.scratch = 0
        · exact gone dir mine
        · exact other dir mine
      exact ⟨⟨fun _ => none', fun _ => rfl⟩, fun _ => none'⟩
  | refused area _ dir held same part there =>
      cases held
      refine ⟨⟨fun verified => ?_, fun gone => ?_⟩, fun free => ?_⟩
      · cases verified
      · exact absurd (gone dir) (ne_false_of_eq_true there)
      · -- Without a refusal the removal would have been complete.
        have gone := removeAll_order free 0 (ScratchStore.addArea noScratch 0) dir part
        rw [← same] at gone
        exact absurd gone (ne_false_of_eq_true there)

/-- The two ways in which the probe ends. -/
theorem probeIsolatedFilesystem_cases (script : FixtureScript) :
    script.Prepared ∧ (∃ dirs, probeIsolatedFilesystem script =
        concludeProbe script dirs (ScratchStore.addArea noScratch 0)) ∨
      ¬ script.Prepared ∧ (∃ report, (probeIsolatedFilesystem script).failure = some report) ∧
        ((∀ dir, script.rmdir dir = none) → (∀ dir, script.rmdirScratch dir = none) →
          (∀ dir, (probeIsolatedFilesystem script).fixture dir = false) ∧
          ∀ dir, (probeIsolatedFilesystem script).scratch dir = false) := by
  rw [probeIsolatedFilesystem.eq_def]
  split
  next errno failed =>
    exact .inr ⟨by simp [FixtureScript.Prepared, failed], ⟨_, rfl⟩,
      fun _ _ => ⟨fun _ => rfl, fun _ => rfl⟩⟩
  next errno _ failed =>
    exact .inr ⟨by simp [FixtureScript.Prepared, failed], ⟨_, rfl⟩,
      fun _ _ => ⟨fun _ => rfl, fun _ => rfl⟩⟩
  next usable based =>
    have created := @mkdirAll_eq_none script.mkdir FixtureDir.creation bareFixture
    split
    next errno dirs failed =>
      right
      refine ⟨?_, ⟨_, rfl⟩, fun free _ => ⟨cleanupFixture_clears free dirs, fun _ => rfl⟩⟩
      intro prepared
      rw [failed] at created
      cases created.mpr prepared.2.2.1
    next dirs made =>
      rw [made] at created
      have directories := created.mp rfl
      rcases admitFixture_spec script with
        ⟨admitted, scratch, opened, identified, drawn, prepared⟩ | ⟨⟨errno, failed⟩, unmade, gone⟩
      · left
        refine ⟨⟨usable, based, directories, opened, identified, drawn, prepared⟩, dirs, ?_⟩
        rw [show admitFixture script = (none, ScratchStore.addArea noScratch 0) from
          Prod.ext admitted scratch]
      · right
        refine ⟨fun prepared => unmade prepared.2.2.2, ?_⟩
        rw [show admitFixture script = (some errno, (admitFixture script).2) from
          Prod.ext failed rfl]
        exact ⟨⟨_, rfl⟩, fun free freeScratch =>
          ⟨cleanupFixture_clears free dirs, gone freeScratch⟩⟩

/-- The conclusion names what is left, and only then answers for the attempts. -/
theorem concludeProbe_spec (script : FixtureScript) (dirs : FixtureDir → Bool) :
    ((∃ dir, (concludeProbe script dirs (ScratchStore.addArea noScratch 0)).scratch dir = true) →
      (concludeProbe script dirs (ScratchStore.addArea noScratch 0)).failure =
        some ⟨parentCleanupStage, UInt32.ofNat ebusy⟩) ∧
    ((∀ dir, (concludeProbe script dirs (ScratchStore.addArea noScratch 0)).scratch dir = false) →
      ((∀ dir, (concludeProbe script dirs (ScratchStore.addArea noScratch 0)).fixture dir =
          false) →
        (concludeProbe script dirs (ScratchStore.addArea noScratch 0)).failure =
          attempts script) ∧
      ((∃ dir, (concludeProbe script dirs (ScratchStore.addArea noScratch 0)).fixture dir =
          true) →
        ∃ dir errno,
          (concludeProbe script dirs (ScratchStore.addArea noScratch 0)).fixture dir = true ∧
          (concludeProbe script dirs (ScratchStore.addArea noScratch 0)).failure =
            some ⟨dir.cleanupStage, UInt32.ofNat errno⟩)) := by
  have verified := (scratch_of_conclude script).1
  have truthful := @removeAll_eq_none_iff _ _ FixtureDir.children script.rmdir
    FixtureDir.removal dirs FixtureDir.removal_nodup
  have named := @left_of_removeAll _ _ FixtureDir.children script.rmdir FixtureDir.removal dirs
  simp only [concludeProbe]
  generalize verifyParentCleanup script.rmdirScratch ⟨some 0, false⟩
    (ScratchStore.addArea noScratch 0) = cleaned at verified
  generalize removeAll FixtureDir.children script.rmdir FixtureDir.removal dirs = removed
    at truthful named
  rcases cleaned with ⟨answer, after, scratch⟩
  rcases removed with ⟨failed, left⟩
  constructor
  · rintro ⟨dir, there⟩
    apply if_pos
    apply eq_false_of_ne_true
    intro clean
    exact absurd (verified.mp clean dir) (ne_false_of_eq_true there)
  · intro clean
    rw [if_neg (ne_false_of_eq_true (verified.mpr clean))]
    constructor
    · intro gone
      cases failed with
      | none => rfl
      | some failure => cases truthful.mpr fun dir _ => gone dir
    · rintro ⟨dir, there⟩
      cases failed with
      | none =>
          have gone := truthful.mp rfl dir (FixtureDir.mem_removal dir)
          exact absurd gone (ne_false_of_eq_true there)
      | some failure =>
          rcases failure with ⟨dir, errno⟩
          exact ⟨dir, errno, named FixtureDir.removal_nodup rfl, rfl⟩

/-- An answer of true. -/
theorem clean_of_true {script : FixtureScript}
    (succeeded : (probeIsolatedFilesystem script).failure = none) :
    script.Prepared ∧ script.first = none ∧ script.second = none ∧
      (∀ dir, (probeIsolatedFilesystem script).fixture dir = false) ∧
      ∀ dir, (probeIsolatedFilesystem script).scratch dir = false := by
  rcases probeIsolatedFilesystem_cases script with ⟨prepared, dirs, same⟩ | ⟨_, ⟨report, failed⟩, _⟩
  · have conclusion := concludeProbe_spec script dirs
    rw [← same] at conclusion
    have clean : ∀ dir, (probeIsolatedFilesystem script).scratch dir = false := by
      intro dir
      apply eq_false_of_ne_true
      intro there
      rw [conclusion.1 ⟨dir, there⟩] at succeeded
      cases succeeded
    have gone : ∀ dir, (probeIsolatedFilesystem script).fixture dir = false := by
      intro dir
      apply eq_false_of_ne_true
      intro there
      rcases (conclusion.2 clean).2 ⟨dir, there⟩ with ⟨_, _, _, failed⟩
      rw [failed] at succeeded
      cases succeeded
    rw [(conclusion.2 clean).1 gone, attempts, Option.or_eq_none_iff] at succeeded
    exact ⟨prepared, succeeded.1, succeeded.2, gone, clean⟩
  · rw [failed] at succeeded
    cases succeeded

/-- The probe of the isolated filesystem, for every failure of its calls and every answer of
its two attempts.  True is answered exactly if everything could be made, both attempts have
succeeded and nothing is left; a directory that is left after the attempts is what the failure
names, the scratch area before the fixture; and on every path, the early returns included,
nothing is left if the kernel refuses no removal. -/
theorem probeIsolatedFilesystem_exact (script : FixtureScript) :
    ((probeIsolatedFilesystem script).failure = none ↔
      script.Prepared ∧ script.first = none ∧ script.second = none ∧
        (∀ dir, (probeIsolatedFilesystem script).fixture dir = false) ∧
        ∀ dir, (probeIsolatedFilesystem script).scratch dir = false) ∧
    (script.Prepared →
      ((∃ dir, (probeIsolatedFilesystem script).scratch dir = true) →
        (probeIsolatedFilesystem script).failure =
          some ⟨parentCleanupStage, UInt32.ofNat ebusy⟩) ∧
      ((∀ dir, (probeIsolatedFilesystem script).scratch dir = false) →
        (∃ dir, (probeIsolatedFilesystem script).fixture dir = true) →
        ∃ dir errno, (probeIsolatedFilesystem script).fixture dir = true ∧
          (probeIsolatedFilesystem script).failure =
            some ⟨dir.cleanupStage, UInt32.ofNat errno⟩) ∧
      ((∀ dir, (probeIsolatedFilesystem script).scratch dir = false) →
        (∀ dir, (probeIsolatedFilesystem script).fixture dir = false) →
        (probeIsolatedFilesystem script).failure = script.first.or script.second)) ∧
    ((∀ dir, script.rmdir dir = none) → (∀ dir, script.rmdirScratch dir = none) →
      (∀ dir, (probeIsolatedFilesystem script).fixture dir = false) ∧
      ∀ dir, (probeIsolatedFilesystem script).scratch dir = false) := by
  rcases probeIsolatedFilesystem_cases script with
    ⟨prepared, dirs, same⟩ | ⟨unprepared, ⟨report, failed⟩, clears⟩
  · have conclusion := concludeProbe_spec script dirs
    rw [← same] at conclusion
    refine ⟨⟨?_, ?_⟩, fun _ => ⟨conclusion.1, ?_, ?_⟩, ?_⟩
    · intro succeeded
      exact clean_of_true succeeded
    · rintro ⟨_, first, second, gone, clean⟩
      rw [(conclusion.2 clean).1 gone, attempts, first, second]
      rfl
    · intro clean left
      exact (conclusion.2 clean).2 left
    · intro clean gone
      exact (conclusion.2 clean).1 gone
    · intro free freeScratch
      rw [same]
      exact ⟨cleanupFixture_clears free dirs, (scratch_of_conclude script).2 freeScratch⟩
  · refine ⟨⟨?_, ?_⟩, fun prepared => absurd prepared unprepared, clears⟩
    · intro succeeded
      rw [failed] at succeeded
      cases succeeded
    · rintro ⟨prepared, _⟩
      exact absurd prepared unprepared

/-- A kernel on which everything succeeds, but for a resource target that stays busy. -/
def busyTarget : FixtureScript where
  openat2 := none
  mkdtemp := none
  mkdir := fun _ => none
  opened := none
  identified := none
  scratchMkdtemp := none
  scratchPrepared := none
  rmdir := fun dir => if dir = .resource then some ⟨ebusy, by decide⟩ else none
  rmdirScratch := fun _ => none
  first := none
  second := none

theorem probeIsolatedFilesystem_exact_busy :
    busyTarget.Prepared ∧ (probeIsolatedFilesystem busyTarget).fixture .view = true ∧
      ∃ dir errno, (probeIsolatedFilesystem busyTarget).fixture dir = true ∧
        (probeIsolatedFilesystem busyTarget).failure =
          some ⟨dir.cleanupStage, UInt32.ofNat errno⟩ := by
  have prepared : busyTarget.Prepared := ⟨rfl, rfl, fun _ _ => rfl, rfl, rfl, rfl, rfl⟩
  have left : (probeIsolatedFilesystem busyTarget).fixture .view = true := by decide
  refine ⟨prepared, left, ?_⟩
  apply ((probeIsolatedFilesystem_exact busyTarget).2.1 prepared).2.1 ?_ ⟨.view, left⟩
  rw [show probeIsolatedFilesystem busyTarget = concludeProbe busyTarget
    (mkdirAll busyTarget.mkdir FixtureDir.creation bareFixture).2
    (ScratchStore.addArea noScratch 0) from rfl]
  exact (scratch_of_conclude busyTarget).2 fun _ => rfl

end PkgexecLinux.Capability

import Mathlib.Logic.Function.Basic
import PkgexecLinux.Foundation.Runs
import PkgexecLinux.Process.Scan
import PkgexecLinux.Process.Stat

/-!
# One signal pass among other processes

A call of `signal_process_group_members`, interleaved with everything other
processes can do: fork, exit, be reaped, take over free ids and change their
names.  The membership test goes through the id and the name-bearing `stat`
file, the signal through a pidfd.
-/

namespace PkgexecLinux.Process

open Foundation Kernel

inductive PassState where
  | running (pass : SignalPass)
  | returned (result : SignalResult)
  deriving DecidableEq, Repr

/-- The pass, the processes around it and what it has done. -/
structure PassRun where
  table : ProcessTable
  leader : LeaderState
  /-- The other `stat` fields of each process, by the process's identity. -/
  stats : Nat → StatFields
  state : PassState
  /-- The processes that were sent the signal through a pidfd of their own. -/
  recipients : List Process

inductive PassMove where
  | call (answer : Answer)
  | process (move : ProcessMove)
  | leaderExit
  | leaderReap
  | rename (birth : Nat) (fields : StatFields)

namespace PassRun

variable (run : PassRun)

/-- The group that `process_group_of` finds in a process's `stat` file; zero when the
text does not parse. -/
def shownGroup (process : Process) : Nat :=
  (parseGroup (statText process.pid (run.stats process.birth) process.group)).getD 0

/-- The processes as their `stat` files show them. -/
def shown : ProcessTable :=
  { run.table with entries := run.table.entries.map fun process =>
      { process with group := run.shownGroup process } }

/-- A pidfd call fails with `ESRCH` only for a process that is gone. -/
def spurious (pass : SignalPass) (answer : Answer) : Bool :=
  answer == .refused noSuchProcess &&
    match pass.phase with
    | .opening process _ => (run.table.find process).isSome
    | .sending birth _ => run.table.entries.any fun process => process.birth == birth
    | .leader => run.leader != .gone
    | _ => false

/-- One system call of the pass. -/
def call (pass : SignalPass) (answer : Answer) : PassRun :=
  match pass.step run.shown run.leader answer with
  | .running next none => { run with state := .running next }
  | .running next (some birth) =>
      { run with
        state := .running next
        recipients :=
          (run.table.entries.filter fun process => process.birth == birth) ++ run.recipients }
  | .returned result => { run with state := .returned result }

end PassRun

/-- One step of the pass or of the processes around it. -/
def passStep (move : PassMove) (run : PassRun) : Option PassRun :=
  match move with
  | .call answer =>
      match run.state with
      | .running pass => if run.spurious pass answer then none else some (run.call pass answer)
      | .returned _ => none
  | .process move =>
      (run.table.move run.leader move).map fun table => { run with table }
  | .leaderExit => if run.leader = .running then some { run with leader := .retained } else none
  | .leaderReap => if run.leader = .retained then some { run with leader := .gone } else none
  | .rename birth fields =>
      some { run with stats := Function.update run.stats birth fields }

/-! ## The table as it is shown -/

section Shown

variable {run : PassRun}

theorem find_shown (pid : Nat) :
    run.shown.find pid = (run.table.find pid).map fun process =>
      { process with group := run.shownGroup process } := by
  simp only [ProcessTable.find, PassRun.shown, List.find?_map]
  rfl

theorem listed_shown (state : LeaderState) : run.shown.listed state = run.table.listed state := by
  simp [ProcessTable.listed, PassRun.shown, Function.comp_def]

theorem listing_shown (listing : Listing) (answer : Answer) :
    listing.step run.shown run.leader answer = listing.step run.table run.leader answer := by
  have next : ∀ cursor, run.shown.next run.leader cursor = run.table.next run.leader cursor := by
    intro cursor
    rw [ProcessTable.next, ProcessTable.next, listed_shown]
  cases answer <;> simp [Listing.step, next]

theorem openPidfd_shown (process : Nat) (answer : Answer) :
    SignalPass.openPidfd run.shown process answer =
      SignalPass.openPidfd run.table process answer := by
  cases answer <;> simp only [SignalPass.openPidfd, find_shown] <;>
    cases run.table.find process <;> rfl

theorem sendPidfdSignal_shown (birth : Nat) (answer : Answer) :
    SignalPass.sendPidfdSignal run.shown birth answer =
      SignalPass.sendPidfdSignal run.table birth answer := by
  cases answer <;> simp [SignalPass.sendPidfdSignal, PassRun.shown, Function.comp_def]

/-- A read of a `stat` file that does not fail gives the shown group. -/
theorem processGroupOf_shown {process : Nat} {answer : Answer} :
    processGroupOf run.shown process answer = some run.table.leader ↔
      failsRead answer = false ∧ ∃ found, run.table.find process = some found ∧
        run.shownGroup found = run.table.leader := by
  cases answer <;>
    simp [processGroupOf, failsRead, ProcessTable.groupOf, find_shown]

end Shown

/-! ## What a call can do -/

namespace PassRun

/-- The pass goes on at `phase`. -/
def goto (run : PassRun) (pass : SignalPass) (phase : PassPhase) : PassRun :=
  { run with state := .running { pass with phase } }

/-- The pass goes on at `phase` after a pidfd call has failed with `errno`. -/
def failing (run : PassRun) (pass : SignalPass) (errno : Nat) (phase : PassPhase) : PassRun :=
  { run with state := .running { pass with complete := pass.tolerate errno, phase } }

end PassRun

/-- Everything a system call of the pass can do. -/
inductive PassCall (run : PassRun) (pass : SignalPass) (answer : Answer) : PassRun → Prop where
  | listMore (listing later : Listing) : pass.phase = .listing listing →
      listing.step run.table run.leader answer = .more later →
      PassCall run pass answer (run.goto pass (.listing later))
  | listed (listing : Listing) (ids : List Nat) : pass.phase = .listing listing →
      listing.step run.table run.leader answer = .finished ids →
      PassCall run pass answer (run.goto pass (.inspecting ids))
  | listFailed (listing : Listing) : pass.phase = .listing listing →
      PassCall run pass answer (run.goto { pass with complete := false } .leader)
  | inspected : pass.phase = .inspecting [] → PassCall run pass answer (run.goto pass .leader)
  | skipped (process : Nat) (rest : List Nat) : pass.phase = .inspecting (process :: rest) →
      process = run.table.leader →
      PassCall run pass answer (run.goto pass (.inspecting rest))
  | found (process : Nat) (rest : List Nat) : pass.phase = .inspecting (process :: rest) →
      PassCall run pass answer (run.goto pass (.opening process rest))
  | missed (process : Nat) (rest : List Nat) : pass.phase = .inspecting (process :: rest) →
      processGroupOf run.shown process answer ≠ some run.table.leader →
      PassCall run pass answer (run.goto pass (.inspecting rest))
  | opened (process : Nat) (rest : List Nat) (entry : Process) :
      pass.phase = .opening process rest → run.table.find process = some entry →
      PassCall run pass answer (run.goto pass (.confirming process entry.birth rest))
  | unopened (process : Nat) (rest : List Nat) (errno : Nat) :
      pass.phase = .opening process rest →
      answer = .refused errno ∨ run.table.find process = none ∧ errno = noSuchProcess →
      PassCall run pass answer (run.failing pass errno (.inspecting rest))
  | confirmed (process birth : Nat) (rest : List Nat) :
      pass.phase = .confirming process birth rest →
      processGroupOf run.shown process answer = some run.table.leader →
      PassCall run pass answer (run.goto pass (.sending birth rest))
  | unconfirmed (process birth : Nat) (rest : List Nat) :
      pass.phase = .confirming process birth rest →
      processGroupOf run.shown process answer ≠ some run.table.leader →
      PassCall run pass answer (run.goto pass (.inspecting rest))
  | sent (birth : Nat) (rest : List Nat) : pass.phase = .sending birth rest →
      PassCall run pass answer { run.goto pass (.inspecting rest) with
        recipients :=
          (run.table.entries.filter fun process => process.birth == birth) ++ run.recipients }
  | unsent (birth : Nat) (rest : List Nat) (errno : Nat) : pass.phase = .sending birth rest →
      answer = .refused errno ∨ (∀ process ∈ run.table.entries, process.birth ≠ birth) ∧
        errno = noSuchProcess →
      PassCall run pass answer (run.failing pass errno (.inspecting rest))
  | leaderSent : pass.phase = .leader →
      PassCall run pass answer { run with state := .returned ⟨pass.complete, true⟩ }
  | leaderUnsent (errno : Nat) : pass.phase = .leader →
      answer = .refused errno ∨ run.leader = .gone ∧ errno = noSuchProcess →
      PassCall run pass answer { run with state := .returned ⟨pass.tolerate errno, false⟩ }

theorem openPidfd_cases (table : ProcessTable) (process : Nat) (answer : Answer) :
    (∃ entry, table.find process = some entry ∧
        SignalPass.openPidfd table process answer = .ok entry.birth) ∨
      ∃ errno, (answer = .refused errno ∨ table.find process = none ∧ errno = noSuchProcess) ∧
        SignalPass.openPidfd table process answer = .error errno := by
  cases found : table.find process <;> cases answer <;>
    simp [SignalPass.openPidfd, found]

theorem sendPidfdSignal_cases (table : ProcessTable) (birth : Nat) (answer : Answer) :
    SignalPass.sendPidfdSignal table birth answer = .ok () ∨
      ∃ errno, (answer = .refused errno ∨
          (∀ process ∈ table.entries, process.birth ≠ birth) ∧ errno = noSuchProcess) ∧
        SignalPass.sendPidfdSignal table birth answer = .error errno := by
  by_cases present : (table.entries.any fun process => process.birth == birth) = true
  · cases answer <;> simp [SignalPass.sendPidfdSignal, present]
  · have absent : ∀ process ∈ table.entries, process.birth ≠ birth := by simpa using present
    right
    cases answer with
    | refused errno => exact ⟨errno, .inl rfl, rfl⟩
    | done | count bytes | interrupted | exhausted =>
        exact ⟨noSuchProcess, .inr ⟨absent, rfl⟩, if_neg present⟩

theorem sendLeaderSignal_cases (state : LeaderState) (answer : Answer) :
    SignalPass.sendLeaderSignal state answer = .ok () ∨
      ∃ errno, (answer = .refused errno ∨ state = .gone ∧ errno = noSuchProcess) ∧
        SignalPass.sendLeaderSignal state answer = .error errno := by
  by_cases gone : state = .gone <;> cases answer <;>
    simp [SignalPass.sendLeaderSignal, gone]

theorem call_spec (run : PassRun) (pass : SignalPass) (answer : Answer) :
    PassCall run pass answer (run.call pass answer) := by
  unfold PassRun.call SignalPass.step
  cases phase : pass.phase with
  | listing listing =>
      simp only [listing_shown]
      cases step : listing.step run.table run.leader answer with
      | more later => exact .listMore listing later phase step
      | finished ids => exact .listed listing ids phase step
      | failed => exact .listFailed listing phase
  | inspecting ids =>
      cases ids with
      | nil => exact .inspected phase
      | cons process rest =>
          by_cases leads : process = run.table.leader
          · have same : process = run.shown.leader := leads
            simp only [if_pos same]
            exact .skipped process rest phase leads
          · have other : ¬process = run.shown.leader := leads
            simp only [if_neg other]
            by_cases group : processGroupOf run.shown process answer = some run.shown.leader
            · simp only [if_pos group]
              exact .found process rest phase
            · simp only [if_neg group]
              exact .missed process rest phase group
  | opening process rest =>
      simp only [openPidfd_shown]
      rcases openPidfd_cases run.table process answer with
        ⟨entry, present, opened⟩ | ⟨errno, reason, unopened⟩
      · simp only [opened]
        exact .opened process rest entry phase present
      · simp only [unopened]
        exact .unopened process rest errno phase reason
  | confirming process birth rest =>
      by_cases group : processGroupOf run.shown process answer = some run.shown.leader
      · simp only [if_pos group]
        exact .confirmed process birth rest phase group
      · simp only [if_neg group]
        exact .unconfirmed process birth rest phase group
  | sending birth rest =>
      simp only [sendPidfdSignal_shown]
      rcases sendPidfdSignal_cases run.table birth answer with sent | ⟨errno, reason, unsent⟩
      · simp only [sent]
        exact .sent birth rest phase
      · simp only [unsent]
        exact .unsent birth rest errno phase reason
  | leader =>
      rcases sendLeaderSignal_cases run.leader answer with sent | ⟨errno, reason, unsent⟩
      · simp only [sent]
        exact .leaderSent phase
      · simp only [unsent]
        exact .leaderUnsent errno phase reason

/-- Everything a step can do. -/
inductive PassStepSpec (run : PassRun) : PassMove → PassRun → Prop where
  | call (answer : Answer) (pass : SignalPass) (next : PassRun) : run.state = .running pass →
      run.spurious pass answer = false → PassCall run pass answer next →
      PassStepSpec run (.call answer) next
  | process (given : ProcessMove) (table : ProcessTable) :
      run.table.move run.leader given = some table →
      PassStepSpec run (.process given) { run with table }
  | leaderExit : run.leader = .running →
      PassStepSpec run .leaderExit { run with leader := .retained }
  | leaderReap : PassStepSpec run .leaderReap { run with leader := .gone }
  | rename (birth : Nat) (fields : StatFields) :
      PassStepSpec run (.rename birth fields)
        { run with stats := Function.update run.stats birth fields }

theorem passStep_spec {run next : PassRun} {move : PassMove}
    (taken : passStep move run = some next) : PassStepSpec run move next := by
  cases move with
  | call answer =>
      simp only [passStep] at taken
      split at taken
      next pass state =>
        split at taken
        next => cases taken
        next actual =>
          cases taken
          exact .call answer pass _ state (by simpa using actual) (call_spec run pass answer)
      next => cases taken
  | process given =>
      simp only [passStep, Option.map_eq_some_iff] at taken
      rcases taken with ⟨table, moved, rfl⟩
      exact .process given table moved
  | leaderExit =>
      simp only [passStep] at taken
      split at taken
      next running =>
        cases taken
        exact .leaderExit running
      next => cases taken
  | leaderReap =>
      simp only [passStep] at taken
      split at taken
      · cases taken
        exact .leaderReap
      · cases taken
  | rename birth fields =>
      cases taken
      exact .rename birth fields

/-- A system call changes neither the processes nor what they show. -/
theorem PassCall.frame {run next : PassRun} {pass : SignalPass} {answer : Answer}
    (called : PassCall run pass answer next) :
    next.table = run.table ∧ next.leader = run.leader := by
  cases called <;> exact ⟨rfl, rfl⟩

/-! ## Identities of processes -/

/-- Identities are given once: two entries with one identity are one process. -/
structure Identified (table : ProcessTable) : Prop where
  below : ∀ process ∈ table.entries, process.birth < table.births
  distinct : ∀ left ∈ table.entries, ∀ right ∈ table.entries,
    left.birth = right.birth → left.pid = right.pid

/-- No process outside the execution's group carries its number. -/
def Exclusive (table : ProcessTable) : Prop :=
  ∀ process ∈ table.entries, process.member = false → process.group ≠ table.leader

section Moves

variable {table after : ProcessTable} {state : LeaderState} {given : ProcessMove}

/-- A process of the table was there before, or has just been forked. -/
theorem move_origin (moved : table.move state given = some after) {process : Process}
    (present : process ∈ after.entries) :
    (∃ old ∈ table.entries, old.pid = process.pid ∧ old.birth = process.birth ∧
        old.member = process.member) ∨
      ∃ parent, given = .fork parent process.pid ∧ process.birth = table.births := by
  cases ProcessTable.move_spec moved with
  | @fork parent child forking =>
      rcases List.mem_append.mp present with old | new
      · exact .inl ⟨process, old, rfl, rfl, rfl⟩
      · rw [List.mem_singleton.mp new]
        exact .inr ⟨parent, rfl, rfl⟩
  | @leaderFork child =>
      rcases List.mem_append.mp present with old | new
      · exact .inl ⟨process, old, rfl, rfl, rfl⟩
      · rw [List.mem_singleton.mp new]
        exact .inr ⟨table.leader, rfl, rfl⟩
  | exit | regroup =>
      rcases ProcessTable.mem_replace present with ⟨old, oldPresent, rfl⟩
      refine .inl ⟨old, oldPresent, ?_⟩
      split <;> simp
  | reap => exact .inl ⟨process, List.mem_of_mem_filter present, rfl, rfl, rfl⟩

theorem move_births (moved : table.move state given = some after) :
    after.leader = table.leader ∧ table.births ≤ after.births ∧
      ∀ parent child, given = .fork parent child → table.births < after.births := by
  cases ProcessTable.move_spec moved with
  | fork | leaderFork => exact ⟨rfl, Nat.le_succ _, fun _ _ _ => Nat.lt_succ_self _⟩
  | exit | reap | regroup => exact ⟨rfl, Nat.le_refl _, fun _ _ absurd => nomatch absurd⟩

theorem Identified.move (identified : Identified table)
    (moved : table.move state given = some after) : Identified after := by
  rcases move_births moved with ⟨-, grown, forked⟩
  constructor
  · intro process present
    rcases move_origin moved present with ⟨old, oldPresent, -, birth, -⟩ | ⟨parent, fork, birth⟩
    · have bound := identified.below old oldPresent
      omega
    · have bound := forked parent process.pid fork
      omega
  · intro left leftPresent right rightPresent same
    rcases move_origin moved leftPresent with
      ⟨leftOld, leftMember, leftPid, leftBirth, -⟩ | ⟨leftParent, leftFork, leftBirth⟩ <;>
      rcases move_origin moved rightPresent with
        ⟨rightOld, rightMember, rightPid, rightBirth, -⟩ | ⟨rightParent, rightFork, rightBirth⟩
    · rw [← leftPid, ← rightPid]
      exact identified.distinct leftOld leftMember rightOld rightMember (by omega)
    · have bound := identified.below leftOld leftMember
      omega
    · have bound := identified.below rightOld rightMember
      omega
    · rw [leftFork] at rightFork
      exact (ProcessMove.fork.inj rightFork).2

theorem Identified.eq_of_birth {left right : Process} (identified : Identified table)
    (valid : table.Valid) (leftPresent : left ∈ table.entries)
    (rightPresent : right ∈ table.entries) (same : left.birth = right.birth) : left = right :=
  List.inj_on_of_nodup_map valid.unique leftPresent rightPresent
    (identified.distinct left leftPresent right rightPresent same)

/-- Outsiders get the number only when it is taken for a new group. -/
theorem Exclusive.move (exclusive : Exclusive table)
    (reserved : ∀ pid, given = .regroup pid table.leader → state ≠ .gone)
    (moved : table.move state given = some after) : Exclusive after := by
  intro process present outsider
  cases ProcessTable.move_spec moved with
  | @fork parent child forking forked =>
      rcases List.mem_append.mp present with old | new
      · exact exclusive process old outsider
      · rw [List.mem_singleton.mp new] at outsider ⊢
        exact exclusive forking forked outsider
  | leaderFork =>
      rcases List.mem_append.mp present with old | new
      · exact exclusive process old outsider
      · rw [List.mem_singleton.mp new] at outsider
        exact Bool.noConfusion outsider
  | exit =>
      rcases ProcessTable.mem_replace present with ⟨old, oldPresent, rfl⟩
      have kept := exclusive old oldPresent
      split at outsider <;> split <;> simp_all [ProcessTable.replace]
  | reap => exact exclusive process (List.mem_of_mem_filter present) outsider
  | @regroup pid group changed found notMember free =>
      rcases ProcessTable.mem_replace present with ⟨old, oldPresent, rfl⟩
      have elsewhere : group ≠ table.leader := by
        rcases free with other | vacant
        · exact other
        · rintro rfl
          exact reserved pid rfl (ProcessTable.vacant_group vacant).1
      have kept := exclusive old oldPresent
      split at outsider <;> split <;> simp_all [ProcessTable.replace]

end Moves

/-! ## Only members are signalled -/

namespace PassRun

/-- The `stat` file shows the execution's group though the process is not in it. -/
def misread (run : PassRun) (process : Process) : Bool :=
  process.group != run.table.leader && run.shownGroup process == run.table.leader

/-- A pass at its beginning, while the leader keeps the group's number. -/
structure Started (run : PassRun) : Prop where
  valid : run.table.Valid
  identified : Identified run.table
  exclusive : Exclusive run.table
  unreaped : run.leader ≠ .gone
  state : ∃ signal, run.state = .running (.start signal)
  recipients : run.recipients = []

/-- What the phase of the pass says about the process it deals with. -/
def Aimed (table : ProcessTable) : PassPhase → Prop
  | .confirming process birth _ =>
      birth < table.births ∧ ∀ entry ∈ table.entries, entry.birth = birth → entry.pid = process
  | .sending birth _ =>
      birth < table.births ∧ ∀ entry ∈ table.entries, entry.birth = birth → entry.member = true
  | _ => True

/-- The pass aims at members only, and has signalled members only. -/
structure Aiming (run : PassRun) : Prop where
  valid : run.table.Valid
  identified : Identified run.table
  exclusive : Exclusive run.table
  unreaped : run.leader ≠ .gone
  aimed : ∀ pass, run.state = .running pass → Aimed run.table pass.phase
  members : ∀ process ∈ run.recipients, process.member = true

end PassRun

/-- The leader is not reaped. -/
def leaderKept (_ : PassRun) : PassMove → Bool
  | .leaderReap => false
  | _ => true

/-- The leader is not reaped, and no process whose pidfd is held shows, at the second
check, a group that is not its own. -/
def namesHonest (run : PassRun) : PassMove → Bool
  | .leaderReap => false
  | .call _ =>
      match run.state with
      | .running ⟨_, _, .confirming _ birth _⟩ =>
          run.table.entries.all fun process => process.birth != birth || !run.misread process
      | _ => true
  | _ => true

theorem Aimed.move {table after : ProcessTable} {state : LeaderState} {given : ProcessMove}
    {phase : PassPhase} (aimed : PassRun.Aimed table phase)
    (moved : table.move state given = some after) : PassRun.Aimed after phase := by
  have grown := (move_births moved).2.1
  cases phase with
  | confirming process birth rest =>
      refine ⟨Nat.lt_of_lt_of_le aimed.1 grown, ?_⟩
      intro entry present same
      rcases move_origin moved present with ⟨old, oldPresent, pid, oldBirth, -⟩ | ⟨parent, -, new⟩
      · rw [← pid]
        exact aimed.2 old oldPresent (oldBirth.trans same)
      · have old := aimed.1
        omega
  | sending birth rest =>
      refine ⟨Nat.lt_of_lt_of_le aimed.1 grown, ?_⟩
      intro entry present same
      rcases move_origin moved present with
        ⟨old, oldPresent, -, oldBirth, member⟩ | ⟨parent, -, new⟩
      · rw [← member]
        exact aimed.2 old oldPresent (oldBirth.trans same)
      · have old := aimed.1
        omega
  | listing | inspecting | opening | leader => trivial

namespace PassRun

theorem Aiming.running {run : PassRun} (aiming : run.Aiming) {pass : SignalPass}
    (aimed : Aimed run.table pass.phase) : Aiming { run with state := .running pass } where
  valid := aiming.valid
  identified := aiming.identified
  exclusive := aiming.exclusive
  unreaped := aiming.unreaped
  aimed := by
    intro other state
    cases state
    exact aimed
  members := aiming.members

theorem Aiming.returned {run : PassRun} (aiming : run.Aiming) (result : SignalResult) :
    Aiming { run with state := .returned result } where
  valid := aiming.valid
  identified := aiming.identified
  exclusive := aiming.exclusive
  unreaped := aiming.unreaped
  aimed := fun _ state => nomatch state
  members := aiming.members

/-- A confirmed pidfd belongs to a member: its process, if it is still there, is the one
whose group was read, and outsiders do not carry the number. -/
theorem Aiming.confirmed {run : PassRun} (aiming : run.Aiming) {pass : SignalPass}
    {process birth : Nat} {rest : List Nat} {answer : Answer}
    (state : run.state = .running pass) (phase : pass.phase = .confirming process birth rest)
    (honest : namesHonest run (.call answer) = true)
    (shown : processGroupOf run.shown process answer = some run.table.leader) :
    Aimed run.table (.sending birth rest) := by
  have aimed := aiming.aimed pass state
  rw [phase] at aimed
  refine ⟨aimed.1, ?_⟩
  intro entry present same
  have pid := aimed.2 entry present same
  rcases (processGroupOf_shown.mp shown).2 with ⟨found, foundAt, group⟩
  have found' := ProcessTable.find_eq_of_mem aiming.valid present
  rw [pid, foundAt, Option.some.injEq] at found'
  subst found'
  rcases pass with ⟨signal, complete, passPhase⟩
  dsimp only at phase
  subst phase
  simp only [namesHonest, state, List.all_eq_true, Bool.or_eq_true, bne_iff_ne,
    Bool.not_eq_true'] at honest
  by_contra outsider
  have notMember : found.member = false := by simpa using outsider
  have elsewhere := aiming.exclusive found present notMember
  rcases honest found present with other | read
  · exact other same
  · simp [misread, elsewhere, group] at read

theorem Aiming.call {run next : PassRun} (aiming : run.Aiming) {pass : SignalPass}
    (state : run.state = .running pass) {answer : Answer}
    (honest : namesHonest run (.call answer) = true)
    (called : PassCall run pass answer next) : next.Aiming := by
  cases called with
  | listMore | listed | listFailed | inspected | skipped | found | missed | unopened
  | unconfirmed | unsent => exact aiming.running trivial
  | opened process rest entry phase present =>
      rcases ProcessTable.find_mem present with ⟨member, pid⟩
      apply aiming.running
      refine ⟨aiming.identified.below entry member, ?_⟩
      intro other otherPresent same
      rw [← pid]
      exact aiming.identified.distinct other otherPresent entry member same
  | confirmed process birth rest phase shown =>
      exact aiming.running (aiming.confirmed state phase honest shown)
  | sent birth rest phase =>
      have aimed := aiming.aimed pass state
      rw [phase] at aimed
      have kept : (run.goto pass (.inspecting rest)).Aiming := aiming.running trivial
      refine { kept with members := ?_ }
      intro process member
      rcases List.mem_append.mp member with new | old
      · rcases List.mem_filter.mp new with ⟨present, birthEq⟩
        exact aimed.2 process present (by simpa using birthEq)
      · exact aiming.members process old
  | leaderSent => exact aiming.returned _
  | leaderUnsent => exact aiming.returned _

theorem Aiming.step {run next : PassRun} {move : PassMove} (aiming : run.Aiming)
    (honest : namesHonest run move = true) (taken : passStep move run = some next) :
    next.Aiming := by
  cases passStep_spec taken with
  | call answer pass next state actual called => exact aiming.call state honest called
  | process given table moved =>
      exact {
        valid := ProcessTable.move_valid aiming.valid moved
        identified := aiming.identified.move moved
        exclusive := aiming.exclusive.move (fun _ _ => aiming.unreaped) moved
        unreaped := aiming.unreaped
        aimed := fun pass state => Aimed.move (aiming.aimed pass state) moved
        members := aiming.members }
  | leaderExit => exact { aiming with unreaped := by simp }
  | leaderReap => simp [namesHonest] at honest
  | rename => exact { aiming with }

end PassRun

/-- Every process that a pass signals through a pidfd is a member of the group. -/
theorem recipients_are_members {first last : PassRun} (started : first.Started)
    (run : Reaches passStep namesHonest first last) :
    ∀ process ∈ last.recipients, process.member = true := by
  have begun : first.Aiming := {
    valid := started.valid
    identified := started.identified
    exclusive := started.exclusive
    unreaped := started.unreaped
    aimed := by
      rcases started.state with ⟨signal, state⟩
      intro pass same
      rw [state] at same
      cases same
      trivial
    members := by
      rw [started.recipients]
      simp }
  have aiming : last.Aiming := by
    refine run.preserves PassRun.Aiming ?_ begun
    intro state move next holds admitted taken
    exact holds.step admitted taken
  exact aiming.members

/-- The `stat` fields of a sleeping process with this name. -/
def sleeping (comm : List Char) : StatFields :=
  { comm, state := 'S', parent := 1, rest := ['0'], plainState := by decide,
    plainRest := by decide }

/-- A pass over one member, 101, and an unrelated process, 200, of the given name. -/
def passBeside (comm : List Char) : PassRun :=
  { table := ⟨100, [⟨101, 100, true, true, 0⟩, ⟨200, 200, false, true, 1⟩], 2⟩
    leader := .running
    stats := fun birth => if birth = 1 then sleeping comm else sleeping ['s', 'h']
    state := .running (.start .sigterm)
    recipients := [] }

theorem passBeside_started (comm : List Char) : (passBeside comm).Started where
  valid := ⟨by simp [passBeside], by simp [passBeside], by simp [passBeside], by simp [passBeside]⟩
  identified := ⟨by simp [passBeside], by simp [passBeside]⟩
  exclusive := by simp [Exclusive, passBeside]
  unreaped := by simp [passBeside]
  state := ⟨.sigterm, rfl⟩
  recipients := rfl

def ordinaryCalls (count : Nat) : List PassMove := List.replicate count (.call .done)

/-- A pass beside an ordinary process signals the member. -/
theorem recipients_are_members_beside :
    ∃ last, Reaches passStep namesHonest (passBeside ['v', 'i']) last ∧
      last.recipients.map (·.pid) = [101] ∧
      ∀ process ∈ last.recipients, process.member = true := by
  have played : (replay passStep namesHonest (ordinaryCalls 12) (passBeside ['v', 'i'])).any
      (fun last => last.recipients.map (·.pid) == [101]) = true := by decide
  rcases exists_reached played with ⟨last, run, test⟩
  exact ⟨last, run, by simpa using test, recipients_are_members (passBeside_started _) run⟩

/-- A process that names itself `x) S 1 100` and a line feed is taken for a member of
group 100 and is signalled. -/
theorem outsider_signalled :
    ∃ last, (passBeside ['x', ')', ' ', 'S', ' ', '1', ' ', '1', '0', '0', '\n']).Started ∧
      Reaches passStep leaderKept
        (passBeside ['x', ')', ' ', 'S', ' ', '1', ' ', '1', '0', '0', '\n']) last ∧
      ∃ process ∈ last.recipients, process.pid = 200 ∧ process.member = false := by
  have played : (replay passStep leaderKept (ordinaryCalls 13)
      (passBeside ['x', ')', ' ', 'S', ' ', '1', ' ', '1', '0', '0', '\n'])).any
      (fun last => last.recipients.any fun process =>
        process.pid == 200 && !process.member) = true := by decide
  rcases exists_reached played with ⟨last, run, test⟩
  rcases List.any_eq_true.mp test with ⟨process, member, outsider⟩
  rw [Bool.and_eq_true, beq_iff_eq, Bool.not_eq_true'] at outsider
  exact ⟨last, passBeside_started _, run, process, member, outsider⟩

end PkgexecLinux.Process

import Mathlib.Data.List.Nodup
import Mathlib.Data.List.Pairwise

/-!
# The kernel's process table

The table holds every process except the leader of the execution's group, whose
life is part of the child's own state.  Membership of the execution's group is
closed: a fork inherits it, and no other move gives or takes it.  A process id
is reused as soon as it is free; an id that still names a process group is not
free.
-/

namespace PkgexecLinux.Kernel

/-- One process other than the leader.  `birth` is the identity that a pidfd
keeps, as opposed to the reusable `pid`. -/
structure Process where
  pid : Nat
  group : Nat
  /-- Belongs to the execution's group, by inheritance from its leader. -/
  member : Bool
  /-- `false` for a process that has exited and was not reaped. -/
  live : Bool
  birth : Nat
  deriving DecidableEq, Repr

/-- What the rest of the kernel has to know of the leader. -/
inductive LeaderState where
  /-- Runs the program and may fork. -/
  | running
  /-- Not forking, but not reaped either. -/
  | retained
  /-- Reaped: its id no longer keeps the group number in use. -/
  | gone
  deriving DecidableEq, Repr

structure ProcessTable where
  leader : Nat
  entries : List Process
  /-- Identity of the next process to be created. -/
  births : Nat
  deriving DecidableEq, Repr

/-- What processes other than the supervisor do to the table. -/
inductive ProcessMove where
  | fork (parent child : Nat)
  | exit (pid : Nat)
  | reap (pid : Nat)
  | regroup (pid group : Nat)
  deriving DecidableEq, Repr

namespace ProcessTable

def find (table : ProcessTable) (pid : Nat) : Option Process :=
  table.entries.find? fun process => process.pid == pid

/-- The group shown by the `stat` file of an unreaped process. -/
def groupOf (table : ProcessTable) (pid : Nat) : Option Nat :=
  (table.find pid).map (·.group)

/-- The group number is free: the leader is gone and no process carries it. -/
def vacant (table : ProcessTable) (state : LeaderState) : Bool :=
  state == .gone && table.entries.all fun process => process.group != table.leader

/-- Ids listed in the process directory. -/
def listed (table : ProcessTable) (state : LeaderState) : List Nat :=
  table.entries.map (·.pid) ++ if state == .gone then [] else [table.leader]

/-- The next entry of the process directory after `cursor`. -/
def next (table : ProcessTable) (state : LeaderState) (cursor : Nat) : Option Nat :=
  ((table.listed state).filter fun pid => decide (cursor < pid)).min?

/-- Group and membership a child of `parent` inherits; `none` when there is no
such process that can fork. -/
def inherited (table : ProcessTable) (state : LeaderState) (parent : Nat) :
    Option (Nat × Bool) :=
  match table.find parent with
  | some process => if process.live then some (process.group, process.member) else none
  | none =>
      if parent == table.leader && state == .running then some (table.leader, true)
      else none

/-- An id the kernel may give to a new process. -/
def fresh (table : ProcessTable) (state : LeaderState) (pid : Nat) : Bool :=
  decide (0 < pid) && (table.find pid).isNone &&
    (pid != table.leader || table.vacant state)

def replace (table : ProcessTable) (pid : Nat) (change : Process → Process) :
    ProcessTable :=
  { table with entries := table.entries.map fun process =>
      if process.pid == pid then change process else process }

/-- One move of the other processes; `none` when it is not possible. -/
def move (table : ProcessTable) (state : LeaderState) :
    ProcessMove → Option ProcessTable
  | .fork parent child =>
      match table.inherited state parent with
      | some (group, member) =>
          if table.fresh state child then
            some { table with
              entries := table.entries ++ [⟨child, group, member, true, table.births⟩]
              births := table.births + 1 }
          else
            none
      | none => none
  | .exit pid =>
      match table.find pid with
      | some _ => some (table.replace pid fun process => { process with live := false })
      | none => none
  | .reap pid =>
      match table.find pid with
      | some process =>
          if process.live then none
          else some { table with
            entries := table.entries.filter fun process => process.pid != pid }
      | none => none
  | .regroup pid group =>
      match table.find pid with
      | some process =>
          -- Joining an existing group of that number is the execution's own
          -- inheritance only; a recycled number is an unrelated group.
          if !process.member && (group != table.leader || table.vacant state) then
            some (table.replace pid fun process => { process with group := group })
          else
            none
      | none => none

/-- Ids are unique and positive, and the members carry the leader's number. -/
structure Valid (table : ProcessTable) : Prop where
  unique : (table.entries.map (·.pid)).Nodup
  positive : ∀ process ∈ table.entries, 0 < process.pid
  memberGroup : ∀ process ∈ table.entries,
    process.member = true → process.group = table.leader
  memberPid : ∀ process ∈ table.entries,
    process.member = true → process.pid ≠ table.leader

theorem valid_nil (leader births : Nat) : Valid ⟨leader, [], births⟩ :=
  ⟨List.nodup_nil, by simp, by simp, by simp⟩

/-- No process of the execution's group is left, the leader aside. -/
def Deserted (table : ProcessTable) : Prop :=
  ∀ process ∈ table.entries, process.member = false

theorem find_mem {table : ProcessTable} {pid : Nat} {process : Process}
    (found : table.find pid = some process) :
    process ∈ table.entries ∧ process.pid = pid := by
  unfold find at found
  exact ⟨List.mem_of_find?_eq_some found, by simpa using List.find?_some found⟩

theorem find_none {table : ProcessTable} {pid : Nat} (missing : table.find pid = none) :
    ∀ process ∈ table.entries, process.pid ≠ pid := by
  intro process member equal
  have := List.find?_eq_none.mp missing process member
  simp [equal] at this

theorem find_eq_of_mem {table : ProcessTable} (valid : table.Valid)
    {process : Process} (member : process ∈ table.entries) :
    table.find process.pid = some process := by
  cases found : table.find process.pid with
  | none => exact absurd rfl (find_none found process member)
  | some other =>
      obtain ⟨otherMember, equal⟩ := find_mem found
      rw [List.inj_on_of_nodup_map valid.unique otherMember member equal]

/-- The listing skips no process that is present when it is read. -/
theorem le_of_next {table : ProcessTable} {state : LeaderState} {cursor pid : Nat}
    (given : table.next state cursor = some pid) {process : Process}
    (member : process ∈ table.entries) (after : cursor < process.pid) :
    pid ≤ process.pid := by
  have least := (List.min?_eq_some_iff.mp given).2
  apply least
  simp only [listed, List.mem_filter, List.mem_append, List.mem_map, decide_eq_true_eq]
  exact ⟨.inl ⟨process, member, rfl⟩, after⟩

theorem le_of_next_none {table : ProcessTable} {state : LeaderState} {cursor : Nat}
    (ended : table.next state cursor = none) {process : Process}
    (member : process ∈ table.entries) : process.pid ≤ cursor := by
  by_contra above
  have empty := List.min?_eq_none_iff.mp ended
  have inside : process.pid ∈
      (table.listed state).filter fun pid => decide (cursor < pid) := by
    simp only [listed, List.mem_filter, List.mem_append, List.mem_map, decide_eq_true_eq]
    exact ⟨.inl ⟨process, member, rfl⟩, by omega⟩
  rw [empty] at inside
  simp at inside

/-- Everything a move of the other processes can do to the table. -/
inductive MoveSpec (table : ProcessTable) (state : LeaderState) :
    ProcessMove → ProcessTable → Prop where
  /-- A process of the table forks. -/
  | fork {parent child : Nat} {process : Process} :
      process ∈ table.entries → process.pid = parent → process.live = true →
      table.fresh state child = true →
      MoveSpec table state (.fork parent child) { table with
        entries := table.entries ++
          [⟨child, process.group, process.member, true, table.births⟩]
        births := table.births + 1 }
  /-- The leader forks, while it runs the program. -/
  | leaderFork {child : Nat} : state = .running → table.fresh state child = true →
      MoveSpec table state (.fork table.leader child) { table with
        entries := table.entries ++ [⟨child, table.leader, true, true, table.births⟩]
        births := table.births + 1 }
  | exit {pid : Nat} : MoveSpec table state (.exit pid)
      (table.replace pid fun process => { process with live := false })
  | reap {pid : Nat} {process : Process} : process ∈ table.entries →
      process.pid = pid → process.live = false →
      MoveSpec table state (.reap pid) { table with
        entries := table.entries.filter fun process => process.pid != pid }
  | regroup {pid group : Nat} {process : Process} : table.find pid = some process →
      process.member = false → group ≠ table.leader ∨ table.vacant state = true →
      MoveSpec table state (.regroup pid group)
        (table.replace pid fun process => { process with group := group })

theorem move_spec {table after : ProcessTable} {state : LeaderState}
    {given : ProcessMove} (moved : table.move state given = some after) :
    MoveSpec table state given after := by
  cases given with
  | fork parent child =>
      simp only [move, inherited] at moved
      cases found : table.find parent with
      | some process =>
          obtain ⟨member, pidEq⟩ := find_mem found
          simp only [found] at moved
          by_cases alive : process.live = true
          · simp only [alive, if_true] at moved
            split at moved
            next free =>
              cases moved
              exact .fork member pidEq alive free
            next => simp at moved
          · simp [alive] at moved
      | none =>
          simp only [found] at moved
          by_cases leads : (parent == table.leader && state == .running) = true
          · simp only [leads, if_true] at moved
            simp only [Bool.and_eq_true, beq_iff_eq] at leads
            obtain ⟨rfl, running⟩ := leads
            split at moved
            next free =>
              cases moved
              exact .leaderFork running free
            next => simp at moved
          · simp [leads] at moved
  | exit pid =>
      simp only [move] at moved
      split at moved
      next => cases moved; exact .exit
      next => simp at moved
  | reap pid =>
      simp only [move] at moved
      split at moved
      next process found =>
        obtain ⟨member, pidEq⟩ := find_mem found
        split at moved
        next => simp at moved
        next dead =>
          cases moved
          exact .reap member pidEq (by simpa using dead)
      next => simp at moved
  | regroup pid group =>
      simp only [move] at moved
      split at moved
      next process found =>
        split at moved
        next free =>
          cases moved
          simp only [Bool.and_eq_true, Bool.not_eq_true', Bool.or_eq_true,
            bne_iff_ne] at free
          exact .regroup found free.1 free.2
        next => simp at moved
      next => simp at moved

theorem fresh_spec {table : ProcessTable} {state : LeaderState} {pid : Nat}
    (free : table.fresh state pid = true) :
    0 < pid ∧ table.find pid = none ∧ (pid ≠ table.leader ∨ table.vacant state = true) := by
  simpa [fresh, and_assoc] using free

theorem vacant_group {table : ProcessTable} {state : LeaderState}
    (free : table.vacant state = true) :
    state = .gone ∧ ∀ process ∈ table.entries, process.group ≠ table.leader := by
  simpa [vacant] using free

private theorem map_pid_replace (table : ProcessTable) (pid : Nat)
    {change : Process → Process} (kept : ∀ process, (change process).pid = process.pid) :
    (table.replace pid change).entries.map (·.pid) = table.entries.map (·.pid) := by
  simp only [replace, List.map_map]
  apply List.map_congr_left
  intro process _
  simp only [Function.comp_apply]
  split
  · exact kept process
  · rfl

/-- Every entry of a replaced table comes from an entry of the same id. -/
theorem mem_replace {table : ProcessTable} {pid : Nat} {change : Process → Process}
    {process : Process} (member : process ∈ (table.replace pid change).entries) :
    ∃ old ∈ table.entries,
      process = if old.pid == pid then change old else old := by
  simp only [replace, List.mem_map] at member
  obtain ⟨old, oldMember, equal⟩ := member
  exact ⟨old, oldMember, equal.symm⟩

private theorem Valid.append {table : ProcessTable} (valid : table.Valid)
    (process : Process) (fresh : table.find process.pid = none)
    (positive : 0 < process.pid)
    (group : process.member = true → process.group = table.leader)
    (pid : process.member = true → process.pid ≠ table.leader) (births : Nat) :
    Valid { table with entries := table.entries ++ [process], births } where
  unique := by
    simp only [List.map_append, List.map_cons, List.map_nil]
    refine List.nodup_append.mpr ⟨valid.unique, List.nodup_singleton _, ?_⟩
    intro left leftMember right rightMember equal
    simp only [List.mem_map] at leftMember
    obtain ⟨old, oldMember, rfl⟩ := leftMember
    simp only [List.mem_singleton] at rightMember
    exact find_none fresh old oldMember (equal.trans rightMember)
  positive := by
    intro other member
    rcases List.mem_append.mp member with old | new
    · exact valid.positive other old
    · rw [List.mem_singleton.mp new]
      exact positive
  memberGroup := by
    intro other member
    rcases List.mem_append.mp member with old | new
    · exact valid.memberGroup other old
    · rw [List.mem_singleton.mp new]
      exact group
  memberPid := by
    intro other member
    rcases List.mem_append.mp member with old | new
    · exact valid.memberPid other old
    · rw [List.mem_singleton.mp new]
      exact pid

theorem move_valid {table after : ProcessTable} {state : LeaderState}
    {given : ProcessMove} (valid : table.Valid)
    (moved : table.move state given = some after) : after.Valid := by
  cases move_spec moved with
  | @fork parent child process present pidEq alive free =>
      obtain ⟨positive, missing, notLeader⟩ := fresh_spec free
      refine valid.append ⟨child, _, _, _, _⟩ missing positive
        (valid.memberGroup process present) ?_ _
      intro isMember
      rcases notLeader with different | free
      · exact different
      · exact absurd (valid.memberGroup process present isMember)
          ((vacant_group free).2 process present)
  | @leaderFork child running free =>
      obtain ⟨positive, missing, notLeader⟩ := fresh_spec free
      refine valid.append ⟨child, _, _, _, _⟩ missing positive (fun _ => rfl)
        (fun _ => ?_) _
      rcases notLeader with different | free
      · exact different
      · have gone := (vacant_group free).1
        rw [running] at gone
        cases gone
  | @exit pid =>
      refine ⟨?_, ?_, ?_, ?_⟩
      · rw [map_pid_replace]
        · exact valid.unique
        · intro process; rfl
      all_goals
        intro process member
        obtain ⟨old, oldMember, rfl⟩ := mem_replace member
        have := valid.positive old oldMember
        have := valid.memberGroup old oldMember
        have := valid.memberPid old oldMember
        split <;> assumption
  | @reap pid process present pidEq dead =>
      refine ⟨?_, ?_, ?_, ?_⟩
      · exact valid.unique.sublist (List.filter_sublist.map _)
      all_goals intro process member
      · exact valid.positive process (List.mem_of_mem_filter member)
      · exact valid.memberGroup process (List.mem_of_mem_filter member)
      · exact valid.memberPid process (List.mem_of_mem_filter member)
  | @regroup pid group process found outsider free =>
      -- The one process that changes its group is not a member.
      have same : ∀ old ∈ table.entries, old.pid = pid → old.member = false := by
        intro old oldMember equal
        have := find_eq_of_mem valid oldMember
        rw [equal, found] at this
        cases this
        exact outsider
      refine ⟨?_, ?_, ?_, ?_⟩
      · rw [map_pid_replace]
        · exact valid.unique
        · intro process; rfl
      all_goals
        intro process member
        obtain ⟨old, oldMember, rfl⟩ := mem_replace member
      · have := valid.positive old oldMember
        split <;> assumption
      · split
        next equal =>
          intro isMember
          have := same old oldMember (by simpa using equal)
          simp_all
        next => exact valid.memberGroup old oldMember
      · split
        next equal =>
          intro isMember
          have := same old oldMember (by simpa using equal)
          simp_all
        next => exact valid.memberPid old oldMember

end ProcessTable

end PkgexecLinux.Kernel

import PkgexecLinux.Process.Group

/-!
# What a scan of the group can miss

`wait_process_group_members_gone` is not a snapshot: members fork, exit and are
reaped between any two of its calls.  A member that forks is a witness for its
children as long as the scan can still come across it.  A scan that finds nothing
is therefore right unless such a witness was handed over: reaped, or unreadable,
before its entry was inspected.
-/

namespace PkgexecLinux.Process

open Kernel

/-- No member of the execution's group is alive, the leader aside. -/
def Extinct (table : ProcessTable) : Prop :=
  ∀ process ∈ table.entries, process.member = true → process.live = false

/-- The answer makes the open or the read of a `stat` file fail. -/
def failsRead : Answer → Bool
  | .refused _ | .exhausted => true
  | .done | .count _ | .interrupted => false

/-- The scan may still come across the process. -/
def WaitPhase.Covers : WaitPhase → Nat → Prop
  | .listing position, pid => position.cursor < pid ∨ pid ∈ position.result
  | .inspecting ids, pid => pid ∈ ids
  | .found, _ => True

/-- A member that has forked since the scan began, and that the scan may still
come across. -/
def Witnessed (table : ProcessTable) (forkers : List Nat) (phase : WaitPhase) : Prop :=
  ∃ process ∈ table.entries, process.member = true ∧ process.pid ∈ forkers ∧
    phase.Covers process.pid

/-- Every live member is covered, or some forker is. -/
def Sighted (table : ProcessTable) (forkers : List Nat) (phase : WaitPhase) : Prop :=
  (∀ process ∈ table.entries, process.member = true → process.live = true →
    phase.Covers process.pid) ∨ Witnessed table forkers phase

/-- The processes that have forked, after one more move of the other processes.
A reaped process is not one of them. -/
def forkersAfter (forkers : List Nat) : ProcessMove → List Nat
  | .fork parent _ => parent :: forkers
  | .reap pid => forkers.filter fun forker => forker != pid
  | .exit _ | .regroup _ _ => forkers

/-- A fresh scan covers everything. -/
theorem sighted_start {table : ProcessTable} (valid : table.Valid) (forkers : List Nat) :
    Sighted table forkers (.listing Listing.start) := by
  left
  intro process present _ _
  exact .inl (valid.positive process present)

/-- A scan that ends without having found anything saw no live member. -/
theorem extinct_of_sighted {table : ProcessTable} {forkers : List Nat}
    (sighted : Sighted table forkers (.inspecting [])) : Extinct table := by
  rcases sighted with all | ⟨process, _, _, _, covered⟩
  · intro process present member
    by_contra alive
    have covered := all process present member (by simpa using alive)
    simp [WaitPhase.Covers] at covered
  · simp [WaitPhase.Covers] at covered

/-- What covers every present process of a kind keeps the scan sighted. -/
theorem Sighted.mono {table : ProcessTable} {forkers : List Nat} {phase later : WaitPhase}
    (sighted : Sighted table forkers phase)
    (kept : ∀ process ∈ table.entries, process.member = true →
      process.live = true ∨ process.pid ∈ forkers → phase.Covers process.pid →
      later.Covers process.pid) : Sighted table forkers later := by
  rcases sighted with all | ⟨process, present, member, forker, covered⟩
  · left
    intro process present member alive
    exact kept process present member (.inl alive) (all process present member alive)
  · exact .inr ⟨process, present, member, forker,
      kept process present member (.inr forker) covered⟩

/-- One `readdir` keeps every present process covered. -/
theorem covers_listing {table : ProcessTable} (state : LeaderState) {listing : Listing}
    (answer : Answer) {process : Process} (present : process ∈ table.entries)
    (covered : (WaitPhase.listing listing).Covers process.pid) :
    (∀ later, listing.step table state answer = .more later →
      (WaitPhase.listing later).Covers process.pid) ∧
    (∀ ids, listing.step table state answer = .finished ids →
      (WaitPhase.inspecting ids).Covers process.pid) := by
  constructor
  · intro later more
    unfold Listing.step at more
    split at more
    next => simp at more
    next => simp at more
    next =>
      split at more
      next pid given =>
        cases more
        rcases covered with ahead | listed
        · rcases Nat.lt_or_eq_of_le (ProcessTable.le_of_next given present ahead) with
            above | equal
          · exact .inl above
          · exact .inr (by simp [equal])
        · exact .inr (List.mem_append_left _ listed)
      next => simp at more
  · intro ids finished
    unfold Listing.step at finished
    split at finished
    next => simp at finished
    next => simp at finished
    next =>
      split at finished
      next => simp at finished
      next ended =>
        cases finished
        rcases covered with ahead | listed
        · have := ProcessTable.le_of_next_none ended present
          omega
        · exact listed

/-- An inspected member whose entry can be read is found. -/
theorem processGroupOf_member {table : ProcessTable} (valid : table.Valid)
    {process : Process} (present : process ∈ table.entries) (member : process.member = true)
    {answer : Answer} (readable : failsRead answer = false) :
    processGroupOf table process.pid answer = some table.leader := by
  have found := ProcessTable.find_eq_of_mem valid present
  have group := valid.memberGroup process present member
  have shown : table.groupOf process.pid = some table.leader := by
    simp [ProcessTable.groupOf, found, group]
  cases answer <;> simp_all [processGroupOf, failsRead]

/-- The entry that is inspected next is not lost to a failing read, if it belongs
to a live member or to a forker. -/
def ReadsSighted (table : ProcessTable) (forkers : List Nat) (phase : WaitPhase)
    (answer : Answer) : Prop :=
  ∀ process rest, phase = .inspecting (process.pid :: rest) → process ∈ table.entries →
    process.member = true → process.live = true ∨ process.pid ∈ forkers →
    failsRead answer = false

/-- The scan stays sighted over each of its own calls. -/
theorem Sighted.step {table : ProcessTable} {state : LeaderState} {clock : Nat}
    {forkers : List Nat} {wait later : GroupWait} {answer : Answer}
    (valid : table.Valid) (sighted : Sighted table forkers wait.phase)
    (readable : ReadsSighted table forkers wait.phase answer)
    (stepped : wait.step table state clock answer = .running later) :
    Sighted table forkers later.phase := by
  rcases wait with ⟨deadline, phase⟩
  cases phase with
  | listing listing =>
      apply sighted.mono
      intro process present _ _ covered
      have kept := covers_listing state answer present covered
      simp only [GroupWait.step] at stepped
      split at stepped
      next more =>
        cases stepped
        exact kept.1 _ more
      next finished =>
        cases stepped
        exact kept.2 _ finished
      next => simp at stepped
  | inspecting ids =>
      apply sighted.mono
      intro process present member kind covered
      cases ids with
      | nil => simp [WaitPhase.Covers] at covered
      | cons first rest =>
          simp only [GroupWait.step] at stepped
          rcases List.mem_cons.mp covered with same | behind
          · subst same
            have apart := valid.memberPid process present member
            have shown := processGroupOf_member valid present member
              (readable process rest rfl present member kind)
            simp only [apart, if_false, shown, if_true] at stepped
            cases stepped
            trivial
          · repeat' split at stepped
            all_goals
              cases stepped
              first
                | exact behind
                | trivial
  | found =>
      simp only [GroupWait.step] at stepped
      split at stepped
      next => simp at stepped
      next =>
        cases stepped
        exact sighted_start valid forkers

/-! ## Moves of the other processes -/

section Moves

variable {table after : ProcessTable} {state : LeaderState} {given : ProcessMove}

/-- Without a live member, and with the leader out of the program, no member
comes to life. -/
theorem Extinct.move (extinct : Extinct table) (stopped : state ≠ .running)
    (moved : table.move state given = some after) : Extinct after := by
  intro process present member
  cases ProcessTable.move_spec moved with
  | @fork parent child forking forked _ alive _ =>
      rcases List.mem_append.mp present with old | new
      · exact extinct process old member
      · rw [List.mem_singleton.mp new] at member
        have := extinct forking forked member
        simp [alive] at this
  | leaderFork running _ => exact absurd running stopped
  | exit =>
      rcases ProcessTable.mem_replace present with ⟨old, oldPresent, rfl⟩
      split
      next => rfl
      next other =>
        simp only [other] at member
        exact extinct old oldPresent member
  | reap => exact extinct process (List.mem_of_mem_filter present) member
  | regroup =>
      rcases ProcessTable.mem_replace present with ⟨old, oldPresent, rfl⟩
      have := extinct old oldPresent
      split <;> simp_all

/-- No forking member is reaped. -/
def KeepsForkers (table : ProcessTable) (forkers : List Nat) (given : ProcessMove) : Prop :=
  ∀ process ∈ table.entries, process.member = true → process.pid ∈ forkers →
    given ≠ .reap process.pid

/-- A process that is not reaped keeps its id and its membership. -/
theorem present_after {process : Process} (present : process ∈ table.entries)
    (unreaped : given ≠ .reap process.pid)
    (moved : table.move state given = some after) :
    ∃ kept ∈ after.entries, kept.pid = process.pid ∧ kept.member = process.member := by
  cases ProcessTable.move_spec moved with
  | fork => exact ⟨process, List.mem_append_left _ present, rfl, rfl⟩
  | leaderFork => exact ⟨process, List.mem_append_left _ present, rfl, rfl⟩
  | @exit pid =>
      refine ⟨_, List.mem_map_of_mem present, ?_⟩
      split <;> simp
  | @reap pid =>
      refine ⟨process, List.mem_filter.mpr ⟨present, ?_⟩, rfl, rfl⟩
      simp only [bne_iff_ne, ne_eq]
      intro same
      exact unreaped (by rw [same])
  | @regroup pid group =>
      refine ⟨_, List.mem_map_of_mem present, ?_⟩
      split <;> simp

theorem Witnessed.move {forkers : List Nat} {phase : WaitPhase}
    (witnessed : Witnessed table forkers phase) (kept : KeepsForkers table forkers given)
    (moved : table.move state given = some after) :
    Witnessed after (forkersAfter forkers given) phase := by
  rcases witnessed with ⟨process, present, member, forker, covered⟩
  have unreaped := kept process present member forker
  rcases present_after present unreaped moved with ⟨later, laterPresent, pid, same⟩
  refine ⟨later, laterPresent, same.trans member, ?_, by rw [pid]; exact covered⟩
  rw [pid]
  cases given with
  | fork parent child => exact List.mem_cons_of_mem _ forker
  | exit | regroup => exact forker
  | reap other =>
      refine List.mem_filter.mpr ⟨forker, ?_⟩
      simp only [bne_iff_ne, ne_eq]
      intro same
      exact unreaped (by rw [same])

/-- A scan stays sighted while no forking member is reaped: a new member's parent
is covered in its place. -/
theorem Sighted.move {forkers : List Nat} {phase : WaitPhase}
    (sighted : Sighted table forkers phase) (kept : KeepsForkers table forkers given)
    (stopped : state ≠ .running) (moved : table.move state given = some after) :
    Sighted after (forkersAfter forkers given) phase := by
  rcases sighted with all | witnessed
  · cases ProcessTable.move_spec moved with
    | @fork parent child forking forked pid alive _ =>
        by_cases member : forking.member = true
        · right
          exact ⟨forking, List.mem_append_left _ forked, member,
            by simp [forkersAfter, pid], all forking forked member alive⟩
        · left
          intro process present isMember isAlive
          rcases List.mem_append.mp present with old | new
          · exact all process old isMember isAlive
          · rw [List.mem_singleton.mp new] at isMember
            exact absurd isMember member
    | leaderFork running _ => exact absurd running stopped
    | @exit pid =>
        left
        intro process present isMember isAlive
        rcases ProcessTable.mem_replace present with ⟨old, oldPresent, rfl⟩
        split at isAlive
        next => simp at isAlive
        next other =>
          simp only [other] at isMember ⊢
          exact all old oldPresent isMember isAlive
    | reap =>
        left
        intro process present
        exact all process (List.mem_of_mem_filter present)
    | regroup =>
        left
        intro process present isMember isAlive
        rcases ProcessTable.mem_replace present with ⟨old, oldPresent, rfl⟩
        have covered := all old oldPresent
        split
        next same =>
          simp only [same, if_true] at isMember isAlive
          exact covered isMember isAlive
        next other =>
          simp only [other] at isMember isAlive
          exact covered isMember isAlive
  · exact .inr (witnessed.move kept moved)

end Moves

end PkgexecLinux.Process

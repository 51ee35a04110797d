import PkgexecLinux.Process.Signalling

/-!
# A complete pass misses no member

A process that is a member throughout a call of `signal_process_group_members`
is followed from the listing of the process directory to the signal.  Each call
that fails for it either clears `complete` or is one that only a process that is
gone can cause; the reads of the `stat` files are the exception.
-/

namespace PkgexecLinux.Process

open Foundation Kernel

/-- No `stat` file of a member fails to be read, or is read as another group's. -/
def statsRead (run : PassRun) : PassMove → Bool
  | .call answer =>
      let readable (process : Nat) := run.table.entries.all fun entry =>
        entry.pid != process || !entry.member ||
          (!failsRead answer && run.shownGroup entry == run.table.leader)
      match run.state with
      | .running ⟨_, _, .inspecting (process :: _)⟩ => readable process
      | .running ⟨_, _, .confirming process _ _⟩ => readable process
      | _ => true
  | _ => true

/-- The pass will still come to the process with this id and identity. -/
def PassPhase.Covers (pid birth : Nat) : PassPhase → Prop
  | .listing position => position.cursor < pid ∨ pid ∈ position.result
  | .inspecting ids => pid ∈ ids
  | .opening process rest => process = pid ∨ pid ∈ rest
  | .confirming process held rest => process = pid ∧ held = birth ∨ pid ∈ rest
  | .sending held rest => held = birth ∨ pid ∈ rest
  | .leader => False

/-- The pass has not missed the process: it was sent the signal, is still to come, or the
pass is known to be incomplete. -/
def PassRun.Accounts (run : PassRun) (pid birth : Nat) : Prop :=
  (∃ recipient ∈ run.recipients, recipient.birth = birth) ∨
    match run.state with
    | .running pass => pass.complete = false ∨ pass.phase.Covers pid birth
    | .returned result => result.complete = false

/-- What is known of a process that was a member when the pass began: it is gone, or
still there and accounted for. -/
structure PassRun.Follows (run : PassRun) (pid birth : Nat) : Prop where
  valid : run.table.Valid
  identified : Identified run.table
  older : birth < run.table.births
  followed : (∀ entry ∈ run.table.entries, entry.birth ≠ birth) ∨
    (∃ entry ∈ run.table.entries, entry.birth = birth ∧ entry.pid = pid ∧
      entry.member = true) ∧ run.Accounts pid birth

namespace PassRun

variable {run : PassRun} {pass : SignalPass} {pid birth : Nat} {answer : Answer}

/-- A member's `stat` file shows the group. -/
theorem shown_of_statsRead {entry : Process} (valid : run.table.Valid)
    (present : entry ∈ run.table.entries) (member : entry.member = true)
    (state : run.state = .running pass)
    (reading : (∃ rest, pass.phase = .inspecting (entry.pid :: rest)) ∨
      ∃ held rest, pass.phase = .confirming entry.pid held rest)
    (read : statsRead run (.call answer) = true) :
    processGroupOf run.shown entry.pid answer = some run.table.leader := by
  rcases pass with ⟨signal, complete, phase⟩
  have readable : (run.table.entries.all fun other =>
      other.pid != entry.pid || !other.member ||
        (!failsRead answer && run.shownGroup other == run.table.leader)) = true := by
    rcases reading with ⟨rest, rfl⟩ | ⟨held, rest, rfl⟩ <;> simpa [statsRead, state] using read
  have fine := List.all_eq_true.mp readable entry present
  simp only [bne_self_eq_false, member, Bool.not_true, Bool.false_or, Bool.and_eq_true,
    Bool.not_eq_true', beq_iff_eq] at fine
  exact processGroupOf_shown.mpr
    ⟨fine.1, entry, ProcessTable.find_eq_of_mem valid present, fine.2⟩

/-- A call keeps a present member accounted for. -/
theorem Accounts.call {next : PassRun} {entry : Process} (valid : run.table.Valid)
    (present : entry ∈ run.table.entries) (member : entry.member = true)
    (accounts : run.Accounts entry.pid entry.birth) (state : run.state = .running pass)
    (actual : run.spurious pass answer = false)
    (read : statsRead run (.call answer) = true) (called : PassCall run pass answer next) :
    next.Accounts entry.pid entry.birth := by
  have found := ProcessTable.find_eq_of_mem valid present
  rcases accounts with already | ahead
  · -- The process has been sent the signal; no call takes that back.
    cases called with
    | sent =>
        rcases already with ⟨recipient, earlier, same⟩
        exact .inl ⟨recipient, List.mem_append_right _ earlier, same⟩
    | listMore | listed | listFailed | inspected | skipped | found | missed | opened | unopened
    | confirmed | unconfirmed | unsent | leaderSent | leaderUnsent => exact .inl already
  · rw [state] at ahead
    rcases ahead with incomplete | covered
    · -- An incomplete pass stays incomplete.
      cases called with
      | listMore | listed | inspected | skipped | found | missed | opened | confirmed | unconfirmed
      | sent => exact .inr (.inl incomplete)
      | leaderSent => exact .inr incomplete
      | listFailed => exact .inr (.inl rfl)
      | unopened | unsent => exact .inr (.inl (by simp [SignalPass.tolerate, incomplete]))
      | leaderUnsent => exact .inr (by simp [SignalPass.tolerate, incomplete])
    · cases called with
      | listMore listing later phase more =>
          rw [phase] at covered
          exact .inr (.inr ((covers_listing run.leader answer present covered).1 later more))
      | listed listing ids phase finished =>
          rw [phase] at covered
          exact .inr (.inr ((covers_listing run.leader answer present covered).2 ids finished))
      | listFailed => exact .inr (.inl rfl)
      | inspected phase =>
          rw [phase] at covered
          exact absurd covered List.not_mem_nil
      | skipped process rest phase leads =>
          rw [phase] at covered
          rcases List.mem_cons.mp covered with here | later
          · exact absurd (here.trans leads) (valid.memberPid entry present member)
          · exact .inr (.inr later)
      | found process rest phase =>
          rw [phase] at covered
          exact .inr (.inr ((List.mem_cons.mp covered).imp Eq.symm id))
      | missed process rest phase unread =>
          rw [phase] at covered
          rcases List.mem_cons.mp covered with rfl | later
          · exact absurd (shown_of_statsRead valid present member state (.inl ⟨rest, phase⟩) read)
              unread
          · exact .inr (.inr later)
      | opened process rest other phase otherFound =>
          rw [phase] at covered
          rcases covered with rfl | later
          · rw [found, Option.some.injEq] at otherFound
            rw [← otherFound]
            exact .inr (.inr (.inl ⟨rfl, rfl⟩))
          · exact .inr (.inr (.inr later))
      | unopened process rest errno phase reason =>
          rw [phase] at covered
          rcases covered with rfl | later
          · have failed : errno ≠ noSuchProcess := by
              rcases reason with refused | ⟨missing, -⟩
              · rintro rfl
                simp [spurious, refused, phase, found] at actual
              · rw [found] at missing
                exact absurd missing (Option.some_ne_none _)
            exact .inr (.inl (by simp [SignalPass.tolerate, failed]))
          · exact .inr (.inr later)
      | confirmed process held rest phase shown =>
          rw [phase] at covered
          exact .inr (.inr (covered.imp And.right id))
      | unconfirmed process held rest phase unread =>
          rw [phase] at covered
          rcases covered with ⟨rfl, -⟩ | later
          · exact absurd
              (shown_of_statsRead valid present member state (.inr ⟨held, rest, phase⟩) read) unread
          · exact .inr (.inr later)
      | sent held rest phase =>
          rw [phase] at covered
          rcases covered with rfl | later
          · refine .inl ⟨entry, List.mem_append_left _ ?_, rfl⟩
            exact List.mem_filter.mpr ⟨present, by simp⟩
          · exact .inr (.inr later)
      | unsent held rest errno phase reason =>
          rw [phase] at covered
          rcases covered with rfl | later
          · have failed : errno ≠ noSuchProcess := by
              rcases reason with refused | ⟨missing, -⟩
              · rintro rfl
                have absent : ∀ process ∈ run.table.entries, process.birth ≠ entry.birth := by
                  simpa [spurious, refused, phase] using actual
                exact absent entry present rfl
              · exact absurd rfl (missing entry present)
            exact .inr (.inl (by simp [SignalPass.tolerate, failed]))
          · exact .inr (.inr later)
      | leaderSent phase | leaderUnsent errno phase =>
          rw [phase] at covered
          exact covered.elim

/-- A move of other processes takes the followed process away or leaves it as it is. -/
theorem Follows.move {table : ProcessTable} {given : ProcessMove}
    (follows : run.Follows pid birth) (moved : run.table.move run.leader given = some table) :
    Follows { run with table } pid birth where
  valid := ProcessTable.move_valid follows.valid moved
  identified := follows.identified.move moved
  older := Nat.lt_of_lt_of_le follows.older (move_births moved).2.1
  followed := by
    by_cases departed : ∀ entry ∈ table.entries, entry.birth ≠ birth
    · exact .inl departed
    · simp only [not_forall, not_not] at departed
      rcases departed with ⟨entry, present, same⟩
      rcases move_origin moved present with
        ⟨old, oldPresent, oldPid, oldBirth, oldMember⟩ | ⟨parent, -, new⟩
      · rcases follows.followed with gone | ⟨⟨known, knownPresent, knownBirth, knownPid,
          knownMember⟩, accounts⟩
        · exact absurd (oldBirth.trans same) (gone old oldPresent)
        · have equal := follows.identified.eq_of_birth follows.valid oldPresent knownPresent
            (oldBirth.trans (same.trans knownBirth.symm))
          subst equal
          exact .inr ⟨⟨entry, present, same, oldPid.symm.trans knownPid,
            oldMember.symm.trans knownMember⟩, accounts⟩
      · have bound := follows.older
        omega

theorem Follows.call {next : PassRun} (follows : run.Follows pid birth)
    (state : run.state = .running pass) (actual : run.spurious pass answer = false)
    (read : statsRead run (.call answer) = true) (called : PassCall run pass answer next) :
    next.Follows pid birth := by
  have kept := called.frame.1
  refine ⟨by rw [kept]; exact follows.valid, by rw [kept]; exact follows.identified,
    by rw [kept]; exact follows.older, ?_⟩
  rw [kept]
  rcases follows.followed with gone | ⟨⟨entry, present, rfl, rfl, member⟩, accounts⟩
  · exact .inl gone
  · exact .inr ⟨⟨entry, present, rfl, rfl, member⟩,
      accounts.call follows.valid present member state actual read called⟩

theorem Follows.step {next : PassRun} {move : PassMove} (follows : run.Follows pid birth)
    (read : statsRead run move = true) (taken : passStep move run = some next) :
    next.Follows pid birth := by
  cases passStep_spec taken with
  | call answer pass next state actual called => exact follows.call state actual read called
  | process given table moved => exact follows.move moved
  | leaderExit | leaderReap | rename =>
      exact ⟨follows.valid, follows.identified, follows.older, follows.followed⟩

/-- A complete pass has signalled the leader, or found it gone. -/
def LeaderAccounted (run : PassRun) : Prop :=
  ∀ result, run.state = .returned result → result.complete = true →
    result.leaderSignaled = true ∨ run.leader = .gone

theorem LeaderAccounted.step {next : PassRun} {move : PassMove} (accounted : run.LeaderAccounted)
    (taken : passStep move run = some next) : next.LeaderAccounted := by
  intro result returned complete
  cases passStep_spec taken with
  | call answer pass next state actual called =>
      cases called with
      | leaderSent =>
          cases returned
          exact .inl rfl
      | leaderUnsent errno phase reason =>
          cases returned
          right
          rcases reason with refused | ⟨gone, -⟩
          · simp only [SignalPass.tolerate, Bool.and_eq_true, beq_iff_eq] at complete
            simpa [spurious, refused, phase, complete.2] using actual
          · exact gone
      | listMore | listed | listFailed | inspected | skipped | found | missed | opened
      | unopened | confirmed | unconfirmed | sent | unsent => cases returned
  | leaderExit running =>
      rcases accounted result returned complete with signaled | gone
      · exact .inl signaled
      · rw [running] at gone
        cases gone
  | leaderReap => exact .inr rfl
  | process | rename => exact accounted result returned complete

end PassRun

/-- A pass at its beginning, whatever has become of the leader. -/
structure PassRun.Begun (run : PassRun) : Prop where
  valid : run.table.Valid
  identified : Identified run.table
  state : ∃ signal, run.state = .running (.start signal)

/-- If no `stat` file of a member is lost or misread, then a pass that returns complete
has signalled every process that was a member throughout, and the leader unless it was
gone. -/
theorem complete_pass_misses_none {first last : PassRun} {result : SignalResult}
    (begun : first.Begun) (run : Reaches passStep statsRead first last)
    (returned : last.state = .returned result) (complete : result.complete = true) :
    (∀ process ∈ first.table.entries, process.member = true →
      (∃ entry ∈ last.table.entries, entry.birth = process.birth) →
      ∃ recipient ∈ last.recipients, recipient.birth = process.birth) ∧
      (result.leaderSignaled = true ∨ last.leader = .gone) := by
  rcases begun.state with ⟨signal, start⟩
  constructor
  · intro process present member lasting
    have initial : first.Follows process.pid process.birth := by
      refine ⟨begun.valid, begun.identified, begun.identified.below process present, .inr
        ⟨⟨process, present, rfl, rfl, member⟩, .inr ?_⟩⟩
      rw [start]
      exact .inr (.inl (begun.valid.positive process present))
    have follows : last.Follows process.pid process.birth := by
      refine run.preserves (fun state => state.Follows process.pid process.birth) ?_ initial
      intro state move next holds admitted taken
      exact holds.step admitted taken
    rcases follows.followed with gone | ⟨-, sent | incomplete⟩
    · rcases lasting with ⟨entry, entryPresent, same⟩
      exact absurd same (gone entry entryPresent)
    · exact sent
    · rw [returned] at incomplete
      simp [complete] at incomplete
  · have accounted : last.LeaderAccounted := by
      refine run.preserves PassRun.LeaderAccounted ?_ ?_
      · intro state move next holds _ taken
        exact holds.step taken
      · intro other same
        rw [start] at same
        cases same
    exact accounted result returned complete

theorem PassRun.Started.begun {run : PassRun} (started : run.Started) : run.Begun :=
  ⟨started.valid, started.identified, started.state⟩

/-- A pass whose reads succeed returns complete and has signalled the member. -/
theorem complete_pass_misses_none_beside :
    ∃ last, Reaches passStep statsRead (passBeside ['v', 'i']) last ∧
      last.state = .returned ⟨true, true⟩ ∧
      ∃ recipient ∈ last.recipients, recipient.birth = 0 := by
  have played : (replay passStep statsRead (ordinaryCalls 12) (passBeside ['v', 'i'])).any
      (fun last => last.state == .returned ⟨true, true⟩ &&
        last.table.entries.any fun entry => entry.birth == 0) = true := by decide
  rcases exists_reached played with ⟨last, run, test⟩
  simp only [Bool.and_eq_true, beq_iff_eq, List.any_eq_true] at test
  rcases test with ⟨returned, lasting⟩
  have signalled := (complete_pass_misses_none (passBeside_started _).begun run returned rfl).1
    ⟨101, 100, true, true, 0⟩ (by simp [passBeside]) rfl lasting
  exact ⟨last, run, returned, signalled⟩

/-- The one `stat` file of the member 101 cannot be opened for want of descriptors
(`EMFILE`): the pass returns complete, and the member has not been signalled. -/
theorem complete_pass_misses_member :
    ∃ last, (passBeside ['v', 'i']).Begun ∧
      Reaches passStep leaderKept (passBeside ['v', 'i']) last ∧
      last.state = .returned ⟨true, true⟩ ∧
      (∃ entry ∈ last.table.entries, entry.pid = 101 ∧ entry.member = true ∧
        entry.live = true) ∧
      last.recipients = [] := by
  have played : (replay passStep leaderKept
      (ordinaryCalls 5 ++ [.call (.refused 24)] ++ ordinaryCalls 3) (passBeside ['v', 'i'])).any
      (fun last => last.state == .returned ⟨true, true⟩ &&
        (last.table.entries.any fun entry => entry.pid == 101 && entry.member && entry.live) &&
        last.recipients.isEmpty) = true := by decide
  rcases exists_reached played with ⟨last, run, test⟩
  simp only [Bool.and_eq_true, beq_iff_eq, List.any_eq_true, List.isEmpty_iff] at test
  rcases test with ⟨⟨returned, entry, present, ⟨pid, member⟩, live⟩, none⟩
  exact ⟨last, (passBeside_started _).begun, run, returned, ⟨entry, present, pid, member, live⟩,
    none⟩

end PkgexecLinux.Process

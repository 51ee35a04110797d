import PkgexecLinux.Process.Signalling
import PkgexecLinux.Supervisor.Course
import PkgexecLinux.Supervisor.GroupCleanup

/-!
# Signals to a group number

Without a cancellation token the leader is reaped first, and `cleanup_group` then
probes and signals the group by its number.  From the reaping on the number is
kept in use by the remaining members alone, and is free for an unrelated group
as soon as the last of them is gone.
-/

namespace PkgexecLinux.Supervisor

open Foundation Kernel Process

/-- `cleanup_group` may still send a signal: it has not been called, or is on its way
to one. -/
@[grind] def Course.pending (course : Course) : Bool :=
  !course.reaped ||
    match course.leg with
    | .cleaning phase => !signalsOver phase
    | _ => false

/-- While a signal of `cleanup_group` is pending, no unrelated group takes the number. -/
def numberKept (system : System) : Move → Bool
  | .process (.regroup _ group) => group != system.table.leader || !system.course.pending
  | _ => true

/-- Signals are pending from the beginning until they are over. -/
theorem Course.pending_of_step {system : System} {move : Move} {course next : Course}
    (stepped : CourseStep system move course next) (pending : next.pending = true) :
    course.pending = true := by
  cases stepped with
  | fork leg admission either =>
      rcases either with rfl | rfl <;> simp_all [Course.pending]
  | observe leg either =>
      rcases either with ⟨-, rfl⟩ | ⟨-, rfl⟩ <;> simp_all [Course.pending]
  | sweep phase later cleaning kept =>
      simp only [Course.pending, cleaning, Bool.or_eq_true, Bool.not_eq_true'] at pending ⊢
      rcases pending with unreaped | unsent
      · exact .inl unreaped
      · right
        by_contra sentLast
        simp [kept (by simpa using sentLast)] at unsent
  | _ => simp_all [Course.pending]

/-- What the table is like as long as signals are pending. -/
structure System.Reserved (system : System) : Prop where
  valid : system.table.Valid
  exclusive : system.course.pending = true → Exclusive system.table

section Runs

variable {config : Config} {token : Bool} {clock : Nat} {system next : System}

theorem System.Reserved.step {move : Move} (reserved : system.Reserved)
    (sound : system.GateSound) (kept : numberKept system move = true)
    (taken : step config move system = some next) : next.Reserved where
  valid := valid_step reserved.valid taken
  exclusive := by
    intro pendingAfter
    have pending := Course.pending_of_step (course_step sound taken) pendingAfter
    rcases table_step taken with same | ⟨given, rfl, moved⟩
    · rw [same]
      exact reserved.exclusive pending
    · refine (reserved.exclusive pending).move ?_ moved
      rintro pid rfl
      simp [numberKept, pending] at kept

/-- What a signal of `cleanup_group` reaches. -/
theorem recipients_of_sent {table : ProcessTable} {state : LeaderState}
    {phase later : CleanupPhase} {signal : Signal} {recipients : List Nat}
    (sent : cleanupGroupStep table state phase = .running later (some (signal, recipients))) :
    recipients = groupRecipients table ∧ signalsOver phase = false := by
  cases phase with
  | terminate | kill =>
      cases sent
      exact ⟨rfl, rfl⟩
  | probe | afterTerminate attempt | afterKill attempt =>
      simp only [cleanupGroupStep] at sent
      repeat' split at sent
      all_goals cases sent

/-- Where outsiders do not carry the number, a signal to it reaches the members. -/
theorem groupRecipients_eq {table : ProcessTable} (valid : table.Valid)
    (exclusive : Exclusive table) :
    groupRecipients table = (table.entries.filter (·.member)).map (·.birth) := by
  unfold groupRecipients
  congr 1
  apply List.filter_congr
  intro process present
  cases member : process.member with
  | true => simp [valid.memberGroup process present member]
  | false => simp [exclusive process present member]

/-- In every run in which the number is not taken while signals are pending, the signals
of `cleanup_group` reach the members of the execution's group and no other process. -/
theorem cleanup_signals_members {phase later : CleanupPhase} {signal : Signal}
    {recipients : List Nat} (unused : Exclusive config.table)
    (run : Reaches (step config) numberKept (config.initial token clock) system)
    (here : system.place = .cleaningGroup phase)
    (sent : cleanupGroupStep system.table system.leaderState phase =
      .running later (some (signal, recipients))) :
    recipients = (system.table.entries.filter (·.member)).map (·.birth) := by
  have reserved : system.Reserved := by
    refine run.preserves_with System.GateSound System.Reserved
      (fun _ _ _ sound _ taken => gateSound_step sound taken) ?_
      (gateSound_initial config token clock) ⟨config.valid, fun _ => unused⟩
    intro system move next sound reserved kept taken
    exact reserved.step sound kept taken
  rcases recipients_of_sent sent with ⟨rfl, unsent⟩
  apply groupRecipients_eq reserved.valid
  apply reserved.exclusive
  simp [Course.pending, System.course, here, Place.leg, unsent]

end Runs

/-- An uncontrolled execution on a host with one unrelated process, 7. -/
def Config.beside : Config :=
  { Config.plain false 0 with
    table := ⟨100, [⟨7, 7, false, true, 0⟩], 1⟩
    valid := ⟨by simp, by simp, by simp, by simp⟩
    deserted := by simp [ProcessTable.Deserted] }

/-- The program leaves member 101 behind; the leader is reaped, and the first probe of
`cleanup_group` finds the group. -/
def probedGroup : List Move :=
  supervised 9 ++ advanced 6 ++ supervised 24 ++ advanced 3 ++
    [.process (.fork 100 101), .child (.exit 0)] ++ supervised 23

/-- The signal reaches the member that was left behind. -/
theorem cleanup_signals_members_beside :
    ∃ system, Reaches (step Config.beside) numberKept (Config.beside.initial false 0) system ∧
      system.place = .cleaningGroup .terminate ∧
      groupRecipients system.table = [1] ∧
      groupRecipients system.table =
        (system.table.entries.filter (·.member)).map (·.birth) := by
  have played : (replay (step Config.beside) numberKept probedGroup
      (Config.beside.initial false 0)).any
      (fun system => system.place == .cleaningGroup .terminate &&
        groupRecipients system.table == [1]) = true := by
    decide
  rcases exists_reached played with ⟨system, run, test⟩
  simp only [Bool.and_eq_true, beq_iff_eq] at test
  rcases test with ⟨here, reached⟩
  have unused : Exclusive Config.beside.table := by
    simp [Exclusive, Config.beside]
  exact ⟨system, run, here, reached, cleanup_signals_members unused run here rfl⟩

/-- After the probe the member exits and is reaped; process 7 forks a child that is given
the free id 100 and makes itself the leader of group 100.  The signal reaches it. -/
theorem cleanup_signals_outsider :
    ∃ system process, Exclusive Config.beside.table ∧
      Reaches (step Config.beside) unrestricted (Config.beside.initial false 0) system ∧
      system.place = .cleaningGroup .terminate ∧
      process ∈ system.table.entries ∧ process.member = false ∧
      process.birth ∈ groupRecipients system.table ∧
      cleanupGroupStep system.table system.leaderState .terminate =
        .running (.afterTerminate 0) (some (.sigterm, groupRecipients system.table)) := by
  have played : (replay (step Config.beside) unrestricted
      (probedGroup ++ [.process (.exit 101), .process (.reap 101), .process (.fork 7 100),
        .process (.regroup 100 100)])
      (Config.beside.initial false 0)).any
      (fun system => system.place == .cleaningGroup .terminate &&
        system.table.entries.any fun process => !process.member &&
          (groupRecipients system.table).contains process.birth) = true := by
    decide
  rcases exists_reached played with ⟨system, run, test⟩
  simp only [Bool.and_eq_true, beq_iff_eq, List.any_eq_true, Bool.not_eq_true',
    List.contains_iff_mem] at test
  rcases test with ⟨here, process, present, outsider, reached⟩
  exact ⟨system, process, by simp [Exclusive, Config.beside], run, here, present, outsider,
    reached, rfl⟩

end PkgexecLinux.Supervisor

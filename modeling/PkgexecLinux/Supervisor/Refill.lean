import PkgexecLinux.Supervisor.Drain
import PkgexecLinux.Supervisor.Termination

/-!
# Streams that are never empty

`drain_fd` reads a stream until its pipe is empty, so its end is in the hands of
those who write to it.  It ends when the writers once let it find the pipe empty, and
they do if they stop writing; a writer that refills the pipe before each read keeps
the supervisor away from its token, its child and its deadlines.
-/

namespace PkgexecLinux.Supervisor

open Foundation Kernel Process

variable {config : Config} {stream : CaptureStream} {system next : System}

/-! ## One read -/

/-- `drain_fd` is about to return: its descriptor is closed, or the read that it makes finds
the pipe empty or fails. -/
def System.drainReturns (system : System) (stream : CaptureStream) : Move → Bool
  | .supervisor answer =>
      !system.locals.opened stream || answer != .interrupted &&
        ((system.pipe stream).buffer.isEmpty ||
          match answer with
          | .refused _ => true
          | _ => false)
  | _ => false

/-- A bystander's write to a stream. -/
def CaptureStream.written (stream : CaptureStream) : Move → Bool
  | .output (.write _) => stream == .output
  | .error (.write _) => stream == .error
  | _ => false

theorem next_place_ne (stream : CaptureStream) : stream.next ≠ stream.place := by
  cases stream <;> simp [CaptureStream.next, CaptureStream.place]

theorem drain_taken {answer : Answer} (here : system.place = stream.place)
    (taken : step config (.supervisor answer) system = some next) :
    next = system.drainFd answer stream := by
  cases stream with
  | output =>
      simp only [step, supervisorStep, here, CaptureStream.place, Option.some.injEq] at taken
      exact taken.symm
  | error =>
      simp only [step, supervisorStep, here, CaptureStream.place, Option.some.injEq] at taken
      exact taken.symm

theorem place_take (system : System) (pipe : Pipe) (bytes : List UInt8)
    (stream : CaptureStream) :
    ((system.setPipe pipe stream).set (system.locals.append bytes stream)).place = system.place ∧
      ((system.setPipe pipe stream).set (system.locals.append bytes stream)).pipe stream =
        pipe := by
  cases stream <;> exact ⟨rfl, rfl⟩

/-- One read of `drain_fd` returns, throws, is repeated or makes the pipe shorter. -/
theorem drainFd_cases (answer : Answer) (here : system.place = stream.place) :
    system.drainReturns stream (.supervisor answer) = true ∧
        (system.drainFd answer stream).place = stream.next ∨
      system.drainReturns stream (.supervisor answer) = false ∧
        ((system.drainFd answer stream).place = .threw ∧
            system.drainThrows (.supervisor answer) = true ∨
          (system.drainFd answer stream).place = stream.place ∧
            (answer = .interrupted ∧
                (system.drainFd answer stream).pipe stream = system.pipe stream ∨
              ((system.drainFd answer stream).pipe stream).buffer.length <
                (system.pipe stream).buffer.length)) := by
  cases opened : system.locals.opened stream with
  | false => exact .inl ⟨by simp [System.drainReturns, opened], by simp [System.drainFd, opened]⟩
  | true =>
      have spec := (system.pipe stream).read_spec System.drainSize answer
      simp only [System.drainFd, opened, if_true]
      generalize result : (system.pipe stream).read System.drainSize answer = outcome at spec ⊢
      rcases outcome with ⟨outcome, after⟩
      have called : outcome ≠ .interrupted → answer ≠ .interrupted := by
        rintro other rfl
        cases result
        exact other rfl
      cases spec with
      | interrupted same =>
          subst same
          exact .inr ⟨by simp [System.drainReturns, opened], .inr ⟨here, .inl ⟨rfl, rfl⟩⟩⟩
      | failed errno same =>
          subst same
          exact .inl ⟨by simp [System.drainReturns], rfl⟩
      | endOfFile ended =>
          have empty : (system.pipe stream).buffer = [] := by
            rcases ended with zero | ended
            · simp [System.drainSize] at zero
            · exact ended.1
          exact .inl ⟨by simp [System.drainReturns, called, empty], rfl⟩
      | again empty => exact .inl ⟨by simp [System.drainReturns, called, empty], rfl⟩
      | data bytes rest nonempty _ cut =>
          have filled : (system.pipe stream).buffer ≠ [] := by simp [cut, nonempty]
          have goesOn : system.drainReturns stream (.supervisor answer) = false := by
            cases answer with
            | refused errno => cases result
            | _ => simp [System.drainReturns, opened, filled]
          refine .inr ⟨goesOn, ?_⟩
          by_cases full : answer = .exhausted
          · subst full
            simp only [if_true]
            refine .inl ⟨rfl, ?_⟩
            cases stream with
            | output =>
                simp_all [System.drainThrows, CaptureStream.place, Locals.opened, System.pipe]
            | error =>
                simp_all [System.drainThrows, CaptureStream.place, Locals.opened, System.pipe]
          · simp only [full, if_false]
            rcases place_take system { system.pipe stream with buffer := rest } bytes stream with
              ⟨stays, shorter⟩
            refine .inr ⟨stays.trans here, .inr ?_⟩
            have positive := List.length_pos_iff.mpr nonempty
            rw [shorter, cut, List.length_append]
            show rest.length < bytes.length + rest.length
            omega

theorem streamStep_buffer {pipe after : Pipe} {held : Bool} {move : StreamMove}
    (silent : ∀ bytes, move ≠ .write bytes) (taken : streamStep pipe held move = some after) :
    after.buffer = pipe.buffer := by
  rcases streamStep_spec taken with ⟨bytes, wrote, _⟩ | ⟨_, _, rfl⟩ | ⟨_, rfl⟩
  · exact absurd wrote (silent bytes)
  · rfl
  · rfl

/-- What the others do leaves a stream as long as it is, unless they write to it. -/
theorem buffer_environment {move : Move} (outside : ∀ answer, move ≠ .supervisor answer)
    (silent : stream.written move = false) (taken : step config move system = some next) :
    (next.pipe stream).buffer = (system.pipe stream).buffer := by
  cases stepped_of_step taken with
  | supervisor => exact absurd rfl (outside _)
  | child taken =>
      rcases childStep_effect taken with ⟨_, effect⟩
      cases effect with
      | proceed | release => cases stream <;> rfl
  | output moved =>
      cases stream with
      | output =>
          refine streamStep_buffer ?_ moved
          rintro bytes rfl
          cases silent
      | error => rfl
  | error moved =>
      cases stream with
      | output => rfl
      | error =>
          refine streamStep_buffer ?_ moved
          rintro bytes rfl
          cases silent
  | _ => cases stream <;> rfl

/-! ## One drain -/

section Drain

variable {execution : Execution (step config)}

/-- The supervisor alone moves on, with a read that returns. -/
theorem returns_iff {move : Move} (here : system.place = stream.place)
    (taken : step config move system = some next) :
    next.place = stream.next ↔ system.drainReturns stream move = true := by
  have onward := next_place_ne stream
  have thrown : Place.threw ≠ stream.next := by cases stream <;> simp [CaptureStream.next]
  cases move with
  | supervisor answer =>
      have same := drain_taken here taken
      subst same
      rcases drainFd_cases answer here with
        ⟨returns, returned⟩ | ⟨goesOn, ⟨threw, _⟩ | ⟨stays, _⟩⟩
      · exact iff_of_true returned returns
      · rw [goesOn, threw]
        exact iff_of_false thrown Bool.false_ne_true
      · rw [goesOn, stays]
        exact iff_of_false onward.symm Bool.false_ne_true
  | _ =>
      rw [place_step (by intro answer same; cases same) taken, here]
      exact iff_of_false onward.symm Bool.false_ne_true

/-- The drain that begins with the execution has returned at this moment. -/
def ReturnsAt (execution : Execution (step config)) (stream : CaptureStream) (moment : Nat) :
    Prop :=
  (∀ earlier ≤ moment, (execution.state earlier).place = stream.place) ∧
    (execution.state (moment + 1)).place = stream.next

/-- A step of a drain that does not throw returns, or goes on with a pipe that only the
others make longer. -/
theorem drain_step {move : Move} (here : system.place = stream.place)
    (calm : system.drainThrows move = false) (taken : step config move system = some next) :
    next.place = stream.next ∨
      next.place = stream.place ∧ (stream.written move = false →
        (next.pipe stream).buffer.length ≤ (system.pipe stream).buffer.length ∧
          (advances move = true →
            (next.pipe stream).buffer.length < (system.pipe stream).buffer.length)) := by
  cases move with
  | supervisor answer =>
      have same := drain_taken here taken
      subst same
      rcases drainFd_cases answer here with
        ⟨_, returned⟩ | ⟨_, ⟨_, throws⟩ | ⟨stays, ⟨interrupted, kept⟩ | shorter⟩⟩
      · exact .inl returned
      · rw [throws] at calm
        cases calm
      · refine .inr ⟨stays, fun _ => ⟨le_of_eq (by rw [kept]), ?_⟩⟩
        intro advancing
        simp [advances, interrupted] at advancing
      · exact .inr ⟨stays, fun _ => ⟨le_of_lt shorter, fun _ => shorter⟩⟩
  | _ =>
      have stays := place_step (by intro answer same; cases same) taken
      refine .inr ⟨stays.trans here, ?_⟩
      intro silent
      rw [buffer_environment (by intro answer same; cases same) silent taken]
      refine ⟨le_refl _, ?_⟩
      intro advancing
      cases advancing

/-- A drain that has not returned goes on. -/
theorem inside_of_endless (begins : (execution.state 0).place = stream.place)
    (calm : ∀ moment, (execution.state moment).drainThrows (execution.move moment) = false)
    (endless : ¬∃ moment, ReturnsAt execution stream moment) (moment : Nat) :
    ∀ earlier ≤ moment, (execution.state earlier).place = stream.place := by
  induction moment with
  | zero =>
      intro earlier order
      rw [Nat.le_zero.mp order]
      exact begins
  | succ moment ih =>
      intro earlier order
      rcases Nat.lt_or_eq_of_le order with before | rfl
      · exact ih earlier (Nat.le_of_lt_succ before)
      · rcases drain_step (ih moment (le_refl moment)) (calm moment) (execution.taken moment) with
          returned | ⟨stays, _⟩
        · exact absurd ⟨moment, ih, returned⟩ endless
        · exact stays

/-- When the others have stopped writing, every uninterrupted read brings the drain nearer
to its end. -/
theorem returns_of_silence {start : Nat} (begins : (execution.state 0).place = stream.place)
    (often : ∀ moment, ∃ later, moment ≤ later ∧ ((execution.state later).place ≠ stream.place ∨
      advances (execution.move later) = true))
    (calm : ∀ moment, (execution.state moment).drainThrows (execution.move moment) = false)
    (silent : ∀ moment, start ≤ moment → stream.written (execution.move moment) = false) :
    ∃ moment, ReturnsAt execution stream moment := by
  by_contra endless
  have inside : ∀ moment, (execution.state moment).place = stream.place :=
    fun moment => inside_of_endless begins calm endless moment moment (le_refl moment)
  have shrinks : ∀ moment, start ≤ moment →
      ((execution.state (moment + 1)).pipe stream).buffer.length ≤
          ((execution.state moment).pipe stream).buffer.length ∧
        (advances (execution.move moment) = true →
          ((execution.state (moment + 1)).pipe stream).buffer.length <
            ((execution.state moment).pipe stream).buffer.length) := by
    intro moment order
    rcases drain_step (inside moment) (calm moment) (execution.taken moment) with
      returned | ⟨_, shrinks⟩
    · rw [inside (moment + 1)] at returned
      exact absurd returned.symm (next_place_ne stream)
    · exact shrinks (silent moment order)
  have impossible : ∃ moment, start ≤ moment ∧ False := by
    refine execution.eventually (fun _ => True) (fun _ => False)
      (fun system => (system.pipe stream).buffer.length)
      (fun moment => advances (execution.move moment) = true) ?_ ?_ ?_ trivial
    · intro moment
      obtain ⟨later, order, leaves | advancing⟩ := often moment
      · exact absurd (inside later) leaves
      · exact ⟨later, order, advancing⟩
    · intro moment order _
      exact .inr ⟨trivial, (shrinks moment order).1⟩
    · intro moment order _ advancing
      exact .inr ((shrinks moment order).2 advancing)
  obtain ⟨_, _, never⟩ := impossible
  exact never

/-- A drain returns exactly when one of its reads finds the pipe empty or fails.  It does so
when the others stop writing and every string can grow; nothing in the code bounds the reads
before that. -/
theorem drain_ends_iff (begins : (execution.state 0).place = stream.place) :
    ((∃ moment, ReturnsAt execution stream moment) ↔
      ∃ moment, (∀ earlier ≤ moment, (execution.state earlier).place = stream.place) ∧
        (execution.state moment).drainReturns stream (execution.move moment) = true) ∧
      ((∀ moment, ∃ later, moment ≤ later ∧
          ((execution.state later).place ≠ stream.place ∨
            advances (execution.move later) = true)) →
        (∀ moment, (execution.state moment).drainThrows (execution.move moment) = false) →
        (∃ start, ∀ moment, start ≤ moment →
          stream.written (execution.move moment) = false) →
        ∃ moment, ReturnsAt execution stream moment) := by
  refine ⟨exists_congr ?_, ?_⟩
  · intro moment
    apply and_congr_right
    intro inside
    exact returns_iff (inside moment (le_refl moment)) (execution.taken moment)
  · rintro often calm ⟨start, silent⟩
    exact returns_of_silence begins often calm silent

end Drain

/-! ## A writer that refills the pipe -/

/-- The standard output is drained while a requested cancellation waits to be observed. -/
structure System.Held (system : System) : Prop where
  place : system.place = .drainOutput
  opened : system.locals.outputOpen = true
  writer : 0 < system.output.writers
  requested : system.token = true
  unobserved : system.locals.cancellationObserved = false

/-- The pipe is refilled before each read, and time passes in between. -/
def refilling (moment : Nat) (system : System) : Move :=
  if system.output.buffer = [] then .output (.write [0])
  else if moment % 3 = 0 then .supervisor .done
  else .tick 1

theorem refilling_write {moment : Nat} (held : system.Held) (empty : system.output.buffer = []) :
    step config (refilling moment system) system =
      some { system with output := system.output.accept [0] } := by
  simp [refilling, empty, step, streamStep, held.writer]

theorem refilling_tick {moment : Nat} (filled : system.output.buffer ≠ [])
    (between : moment % 3 ≠ 0) :
    step config (refilling moment system) system =
      some { system with clock := system.clock + 1 } := by
  simp [refilling, filled, between, step]

theorem refilling_read {moment : Nat} (held : system.Held) (filled : system.output.buffer ≠ [])
    (turn : moment % 3 = 0) :
    ∃ bytes rest, step config (refilling moment system) system =
      some ((system.setPipe { system.output with buffer := rest } .output).set
        (system.locals.append bytes .output)) := by
  let size := Answer.done.transfer (min System.drainSize system.output.buffer.length)
  have read : system.output.read System.drainSize .done =
      (.data (system.output.buffer.take size),
        { system.output with buffer := system.output.buffer.drop size }) := by
    simp [Pipe.read, Pipe.readReady, System.drainSize, filled, size]
  refine ⟨system.output.buffer.take size, system.output.buffer.drop size, ?_⟩
  have taken : step config (refilling moment system) system =
      some (system.drainFd .done .output) := by
    simp [refilling, filled, turn, step, supervisorStep, held.place, System.drainOutput_eq]
  have opened : system.locals.opened .output = true := held.opened
  have output : system.pipe .output = system.output := rfl
  rw [taken, System.drainFd, if_pos opened, output, read]
  rfl

theorem refilling_kept (moment : Nat) (held : system.Held) :
    ∃ next, step config (refilling moment system) system = some next ∧ next.Held := by
  obtain ⟨place, opened, writer, requested, unobserved⟩ := held
  have held : system.Held := ⟨place, opened, writer, requested, unobserved⟩
  by_cases empty : system.output.buffer = []
  · exact ⟨_, refilling_write held empty, ⟨place, opened, writer, requested, unobserved⟩⟩
  · by_cases turn : moment % 3 = 0
    · obtain ⟨bytes, rest, taken⟩ := @refilling_read config system moment held empty turn
      exact ⟨_, taken, ⟨place, opened, writer, requested, unobserved⟩⟩
    · exact ⟨_, refilling_tick empty turn, ⟨place, opened, writer, requested, unobserved⟩⟩

def refill (config : Config) (first : System) (held : first.Held) : Execution (step config) :=
  .ofSchedule refilling first System.Held held fun moment _ held => refilling_kept moment held

section Refill

variable {first : System} (held : first.Held)

theorem refill_taken (moment : Nat) :
    step config (refilling moment ((refill config first held).state moment))
      ((refill config first held).state moment) =
        some ((refill config first held).state (moment + 1)) :=
  (refill config first held).taken moment

theorem refill_held (moment : Nat) : ((refill config first held).state moment).Held := by
  have start : ((refill config first held).state 0).Held := held
  refine (refill config first held).lasts System.Held ?_ start moment (Nat.zero_le moment)
  intro moment _ keeps
  obtain ⟨next, taken, kept⟩ := @refilling_kept config _ moment keeps
  rw [refill_taken held moment, Option.some.injEq] at taken
  rw [taken]
  exact kept

/-- Between two reads the writer is heard and the clock goes on. -/
theorem refill_period (count : Nat) :
    ((refill config first held).state (3 * count + 3)).output.buffer ≠ [] ∧
      ((refill config first held).state (3 * count)).clock <
        ((refill config first held).state (3 * count + 3)).clock := by
  have early := clock_step (@refill_taken config first held (3 * count))
  have middle := clock_step (@refill_taken config first held (3 * count + 1))
  have ready : ((refill config first held).state (3 * count + 2)).output.buffer ≠ [] := by
    have taken := @refill_taken config first held (3 * count + 1)
    by_cases empty : ((refill config first held).state (3 * count + 1)).output.buffer = []
    · rw [refilling_write (refill_held held _) empty, Option.some.injEq] at taken
      rw [← taken]
      simp [Pipe.accept]
    · rw [refilling_tick empty (by omega), Option.some.injEq] at taken
      rw [← taken]
      exact empty
  have taken := @refill_taken config first held (3 * count + 2)
  rw [refilling_tick ready (by omega), Option.some.injEq] at taken
  rw [← taken]
  refine ⟨ready, Nat.lt_succ_of_le ?_⟩
  exact le_trans early middle

/-- Every third move is a read, and it finds a byte. -/
theorem refill_filled (filled : first.output.buffer ≠ []) (count : Nat) :
    ((refill config first held).state (3 * count)).output.buffer ≠ [] ∧
      count ≤ ((refill config first held).state (3 * count)).clock := by
  induction count with
  | zero => exact ⟨filled, Nat.zero_le _⟩
  | succ count ih =>
      rcases @refill_period config first held count with ⟨stays, later⟩
      exact ⟨stays, le_trans (Nat.succ_le_succ ih.2) later⟩

theorem refill_reads (filled : first.output.buffer ≠ []) (moment : Nat) :
    ∃ later, moment ≤ later ∧
      (refill config first held).move later = .supervisor .done := by
  refine ⟨3 * moment, by omega, ?_⟩
  have present := (@refill_filled config first held filled moment).1
  show refilling (3 * moment) ((refill config first held).state (3 * moment)) = _
  simp [refilling, present]

end Refill

/-- A started program writes a byte and cancellation is requested, just before the standard
output is drained. -/
def requestedAtDrain : List Move :=
  supervised 10 ++ advanced 6 ++ supervised 25 ++ advanced 3 ++ supervised 5 ++
    [.output (.write [0]), .request]

/-- What the executions below start from, as a test. -/
def System.draining (system : System) : Bool :=
  system.place == .drainOutput && system.locals.outputOpen && decide (0 < system.output.writers) &&
    system.token && !system.locals.cancellationObserved && !system.output.buffer.isEmpty

theorem requestedAtDrain_reached :
    ∃ system, Reaches (step (Config.plain true 1000)) unrestricted
        ((Config.plain true 1000).initial false 0) system ∧
      system.Held ∧ system.output.buffer ≠ [] := by
  have played : (replay (step (Config.plain true 1000)) unrestricted requestedAtDrain
      ((Config.plain true 1000).initial false 0)).any System.draining = true := by
    decide
  obtain ⟨system, run, test⟩ := exists_reached played
  simp only [System.draining, Bool.and_eq_true, beq_iff_eq, decide_eq_true_eq,
    Bool.not_eq_true', List.isEmpty_eq_false_iff] at test
  obtain ⟨⟨⟨⟨⟨place, opened⟩, writer⟩, requested⟩, unobserved⟩, filled⟩ := test
  exact ⟨system, run, ⟨place, opened, writer, requested, unobserved⟩, filled⟩

/-- The program stops writing, and the drain ends. -/
theorem drain_ends_iff_silent :
    ∃ execution : Execution (step (Config.plain true 1000)),
      (execution.state 0).place = CaptureStream.output.place ∧
      ((execution.state 0).pipe .output).buffer ≠ [] ∧
      (∃ moment, ReturnsAt execution .output moment) ∧
      ∃ moment, (∀ earlier ≤ moment,
          (execution.state earlier).place = CaptureStream.output.place) ∧
        (execution.state moment).drainReturns .output (execution.move moment) = true := by
  obtain ⟨system, _, held, filled⟩ := requestedAtDrain_reached
  have begins : ((alternation (Config.plain true 1000) system).state 0).place =
      CaptureStream.output.place := held.place
  have often : ∀ moment, ∃ later, moment ≤ later ∧
      (((alternation (Config.plain true 1000) system).state later).place ≠
          CaptureStream.output.place ∨
        advances ((alternation (Config.plain true 1000) system).move later) = true) := by
    intro moment
    obtain ⟨later, order, outside | advancing⟩ := alternation_often _ system moment
    · refine ⟨later, order, .inl ?_⟩
      intro here
      rw [here] at outside
      cases outside
    · exact ⟨later, order, .inr advancing⟩
  have silent : ∀ moment, CaptureStream.output.written
      ((alternation (Config.plain true 1000) system).move moment) = false := by
    intro moment
    rw [alternation_move, alternating]
    split <;> rfl
  have ends := drain_ends_iff begins
  have returns := ends.2 often (alternation_calm _ system) ⟨0, fun moment _ => silent moment⟩
  exact ⟨_, begins, filled, returns, ends.1.mp returns⟩

/-- A writer that refills the pipe before each read keeps the supervisor in one drain for
ever: it reads without end, and neither the requested cancellation is observed nor a deadline,
however much time passes. -/
theorem drain_never_ends :
    ∃ execution : Execution (step (Config.plain true 1000)),
      Reaches (step (Config.plain true 1000)) unrestricted
        ((Config.plain true 1000).initial false 0) (execution.state 0) ∧
      (∀ moment, ∃ later, moment ≤ later ∧ execution.move later = .supervisor .done) ∧
      (∀ time, ∃ moment, time ≤ (execution.state moment).clock) ∧
      (∀ moment, (execution.state moment).place = CaptureStream.output.place ∧
        (execution.state moment).token = true ∧
        (execution.state moment).locals.cancellationObserved = false) ∧
      ¬∃ moment, ReturnsAt execution .output moment := by
  obtain ⟨system, run, held, filled⟩ := requestedAtDrain_reached
  have kept (moment : Nat) := @refill_held (Config.plain true 1000) system held moment
  refine ⟨refill _ system held, run, refill_reads held filled, ?_, ?_, ?_⟩
  · intro time
    exact ⟨3 * time, (refill_filled held filled time).2⟩
  · intro moment
    exact ⟨(kept moment).place, (kept moment).requested, (kept moment).unobserved⟩
  · rintro ⟨moment, _, returned⟩
    rw [(kept (moment + 1)).place] at returned
    cases returned

end PkgexecLinux.Supervisor

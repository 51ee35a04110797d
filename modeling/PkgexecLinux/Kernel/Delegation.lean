import PkgexecLinux.Foundation.Runs
import PkgexecLinux.Kernel.Pipe

/-!
# Work delegated to a child

A process forks a child, which does some work, may write a record to a pipe and
exits; the process reads what comes, and waits.  Both sides move in any order, a
transfer moves as many bytes as the kernel likes, and the child may be killed at
any moment.  The status of a child can be lost to someone else who waits for it, or
to an ignored `SIGCHLD`: the process's own `waitpid` then fails with `ECHILD` when
the child has ended.
-/

namespace PkgexecLinux.Kernel.Delegation

open Foundation

/-- How a child ends. -/
inductive Ending where
  | exited (code : Nat)
  | killed (signal : Nat)
  deriving DecidableEq, Repr

/-- The outcome of the child's work: the record that it writes, empty if it writes none,
and its exit code. -/
structure Errand where
  record : List UInt8
  exitCode : Nat
  deriving DecidableEq, Repr

/-- How the two sides use the pipe: whether each goes on after a partial or interrupted
transfer, how many bytes the reader has room for, and whether the child ignores
`SIGPIPE`. -/
structure Manner where
  rewrites : Bool
  rereads : Bool
  capacity : Nat
  ignoresBrokenPipe : Bool
  deriving DecidableEq, Repr

inductive Child where
  | working
  | writing (rest : List UInt8)
  /-- About to exit, with its end of the pipe closed or not. -/
  | leaving (closed : Bool)
  | ended (ending : Ending)
  deriving DecidableEq, Repr

inductive Parent where
  | reading (received : List UInt8)
  | waiting (received : List UInt8)
  /-- `waitpid` has given the ending, or has failed. -/
  | returned (received : List UInt8) (waited : Option Ending)
  deriving DecidableEq, Repr

/-- What the process has received. -/
def Parent.received : Parent → List UInt8
  | .reading received | .waiting received | .returned received _ => received

structure State where
  child : Child
  parent : Parent
  buffer : List UInt8
  /-- The status of the child has been taken by someone else. -/
  reaped : Bool
  deriving DecidableEq, Repr

inductive Move where
  | child (answer : Answer)
  | parent (answer : Answer)
  | kill (signal : Nat)
  | reap
  deriving DecidableEq, Repr

/-- After the fork.  A process that has room for nothing does not read. -/
def State.initial : State := ⟨.working, .reading [], [], false⟩

/-- `SIGPIPE`. -/
def brokenPipe : Nat := 13

/-- A child can still write. -/
def Child.writable : Child → Bool
  | .working | .writing _ => true
  | .leaving closed => !closed
  | .ended _ => false

/-- The reading end is open. -/
def Parent.readable : Parent → Bool
  | .reading _ => true
  | _ => false

/-- A write of what is left of the record that moves some bytes. -/
def sendSome (manner : Manner) (rest : List UInt8) (answer : Answer) (state : State) : State :=
  let size := answer.transfer rest.length
  { state with
    buffer := state.buffer ++ rest.take size
    child := if rest.drop size = [] ∨ manner.rewrites = false then .leaving false
      else .writing (rest.drop size) }

/-- One call of the child's writing loop. -/
def write (manner : Manner) (rest : List UInt8) (answer : Answer) (state : State) : State :=
  if state.parent.readable = false then
    if manner.ignoresBrokenPipe then { state with child := .leaving false }
    else { state with child := .ended (.killed brokenPipe) }
  else
    match answer with
    | .interrupted =>
        if manner.rewrites then state else { state with child := .leaving false }
    | .refused _ => { state with child := .leaving false }
    | answer => sendSome manner rest answer state

/-- The child's next step.  Work without an outcome goes on for ever. -/
def childStep (manner : Manner) (errand : Option Errand) (answer : Answer) (state : State) :
    Option State :=
  match state.child, errand with
  | .working, some errand =>
      if errand.record = [] then some { state with child := .leaving true }
      else some { state with child := .writing errand.record }
  | .writing rest, _ => some (write manner rest answer state)
  | .leaving _, some errand => some { state with child := .ended (.exited errand.exitCode) }
  | _, _ => none

/-- A read of what is in the pipe. -/
def receiveSome (manner : Manner) (received : List UInt8) (answer : Answer) (state : State) :
    State :=
  let size := answer.transfer (min (manner.capacity - received.length) state.buffer.length)
  { state with
    buffer := state.buffer.drop size
    parent := if manner.rereads then .reading (received ++ state.buffer.take size)
      else .waiting (received ++ state.buffer.take size) }

/-- One turn of the reading loop; a read of an empty pipe with a writer blocks. -/
def read (manner : Manner) (received : List UInt8) (answer : Answer) (state : State) :
    Option State :=
  if manner.capacity ≤ received.length then some { state with parent := .waiting received }
  else
    match answer with
    | .interrupted =>
        if manner.rereads then some state else some { state with parent := .waiting received }
    | .refused _ => some { state with parent := .waiting received }
    | answer =>
        if state.buffer = [] then
          if state.child.writable then none else some { state with parent := .waiting received }
        else
          some (receiveSome manner received answer state)

/-- One turn of the `waitpid` loop, which blocks until the child has ended. -/
def wait (received : List UInt8) (answer : Answer) (state : State) : Option State :=
  if answer = .interrupted then some state
  else
    match state.child with
    | .ended ending =>
        some { state with
          parent := .returned received (if state.reaped then none else some ending) }
    | _ => none

def parentStep (manner : Manner) (answer : Answer) (state : State) : Option State :=
  match state.parent with
  | .reading received => read manner received answer state
  | .waiting received => wait received answer state
  | .returned .. => none

/-- One step of the two processes and of everything else that can happen to the child. -/
def step (manner : Manner) (errand : Option Errand) : Move → State → Option State
  | .child answer, state => childStep manner errand answer state
  | .parent answer, state => parentStep manner answer state
  | .kill signal, state =>
      match state.child with
      | .ended _ => none
      | _ => some { state with child := .ended (.killed signal) }
  | .reap, state =>
      match state.child, state.parent with
      | .ended _, .reading _ | .ended _, .waiting _ =>
          if state.reaped then none else some { state with reaped := true }
      | _, _ => none

/-! ## Everything that can happen -/

section Spec

variable {manner : Manner} {errand : Option Errand} {state next : State}

/-- The cases of a step. -/
inductive Event (manner : Manner) (errand : Option Errand) (state : State) :
    Move → State → Prop where
  | finish (answer : Answer) (outcome : Errand) : state.child = .working →
      errand = some outcome → outcome.record = [] →
      Event manner errand state (.child answer) { state with child := .leaving true }
  | begin (answer : Answer) (outcome : Errand) : state.child = .working →
      errand = some outcome → outcome.record ≠ [] →
      Event manner errand state (.child answer) { state with child := .writing outcome.record }
  | broken (answer : Answer) (rest : List UInt8) (after : Child) :
      state.child = .writing rest → state.parent.readable = false →
      after = .leaving false ∨ after = .ended (.killed brokenPipe) →
      Event manner errand state (.child answer) { state with child := after }
  | rewrite (rest : List UInt8) : state.child = .writing rest → manner.rewrites = true →
      Event manner errand state (.child .interrupted) state
  | abandon (answer : Answer) (rest : List UInt8) : state.child = .writing rest →
      (∃ errno, answer = .refused errno) ∨ answer = .interrupted ∧ manner.rewrites = false →
      Event manner errand state (.child answer) { state with child := .leaving false }
  | sent (answer : Answer) (bytes rest : List UInt8) (after : Child) :
      state.child = .writing (bytes ++ rest) → (bytes ++ rest ≠ [] → bytes ≠ []) →
      (rest = [] ∨ manner.rewrites = false) ∧ after = .leaving false ∨
        rest ≠ [] ∧ manner.rewrites = true ∧ after = .writing rest →
      bytes = (bytes ++ rest).take (answer.transfer (bytes ++ rest).length) →
      Event manner errand state (.child answer)
        { state with buffer := state.buffer ++ bytes, child := after }
  | exit (answer : Answer) (closed : Bool) (outcome : Errand) : state.child = .leaving closed →
      errand = some outcome →
      Event manner errand state (.child answer)
        { state with child := .ended (.exited outcome.exitCode) }
  | full (answer : Answer) (received : List UInt8) : state.parent = .reading received →
      manner.capacity ≤ received.length →
      Event manner errand state (.parent answer) { state with parent := .waiting received }
  | reread (received : List UInt8) : state.parent = .reading received → manner.rereads = true →
      Event manner errand state (.parent .interrupted) state
  | desist (answer : Answer) (received : List UInt8) : state.parent = .reading received →
      (∃ errno, answer = .refused errno) ∨ answer = .interrupted ∧ manner.rereads = false →
      Event manner errand state (.parent answer) { state with parent := .waiting received }
  | endOfFile (answer : Answer) (received : List UInt8) : state.parent = .reading received →
      state.buffer = [] → state.child.writable = false →
      Event manner errand state (.parent answer) { state with parent := .waiting received }
  | data (answer : Answer) (received bytes rest : List UInt8) (after : Parent) :
      state.parent = .reading received → received.length < manner.capacity →
      state.buffer = bytes ++ rest → bytes ≠ [] →
      bytes.length ≤ manner.capacity - received.length →
      manner.rereads = true ∧ after = .reading (received ++ bytes) ∨
        manner.rereads = false ∧ after = .waiting (received ++ bytes) →
      bytes = state.buffer.take
        (answer.transfer (min (manner.capacity - received.length) state.buffer.length)) →
      Event manner errand state (.parent answer) { state with buffer := rest, parent := after }
  | rewait (received : List UInt8) : state.parent = .waiting received →
      Event manner errand state (.parent .interrupted) state
  | waited (answer : Answer) (received : List UInt8) (ending : Ending) :
      state.parent = .waiting received → state.child = .ended ending →
      Event manner errand state (.parent answer)
        { state with parent := .returned received (if state.reaped then none else some ending) }
  | kill (signal : Nat) : (∀ ending, state.child ≠ .ended ending) →
      Event manner errand state (.kill signal) { state with child := .ended (.killed signal) }
  | reap (ending : Ending) : state.child = .ended ending →
      (∀ received waited, state.parent ≠ .returned received waited) → state.reaped = false →
      Event manner errand state .reap { state with reaped := true }

theorem transfer_le_length (answer : Answer) (bytes : List UInt8) (nonempty : bytes ≠ []) :
    0 < answer.transfer bytes.length ∧ answer.transfer bytes.length ≤ bytes.length :=
  ⟨Pipe.transfer_pos answer (List.length_pos_iff.mpr nonempty),
    Pipe.transfer_le answer (List.length_pos_iff.mpr nonempty)⟩

/-- A write that moves some bytes. -/
theorem sendSome_spec (answer : Answer) {rest : List UInt8}
    (writing : state.child = .writing rest) :
    Event manner errand state (.child answer) (sendSome manner rest answer state) := by
  have cut : rest.take (answer.transfer rest.length) ++ rest.drop (answer.transfer rest.length) =
      rest := List.take_append_drop _ _
  have moved : rest ≠ [] → rest.take (answer.transfer rest.length) ≠ [] := by
    intro nonempty empty
    have size := congrArg List.length empty
    have bounds := transfer_le_length answer rest nonempty
    rw [List.length_take, List.length_nil] at size
    omega
  have onward : (rest.drop (answer.transfer rest.length) = [] ∨ manner.rewrites = false) ∧
        (sendSome manner rest answer state).child = .leaving false ∨
      rest.drop (answer.transfer rest.length) ≠ [] ∧ manner.rewrites = true ∧
        (sendSome manner rest answer state).child =
          .writing (rest.drop (answer.transfer rest.length)) := by
    by_cases stops : rest.drop (answer.transfer rest.length) = [] ∨ manner.rewrites = false
    · exact .inl ⟨stops, if_pos stops⟩
    · have goesOn := not_or.mp stops
      exact .inr ⟨goesOn.1, eq_true_of_ne_false goesOn.2, if_neg stops⟩
  exact .sent answer (rest.take (answer.transfer rest.length))
    (rest.drop (answer.transfer rest.length)) (sendSome manner rest answer state).child
    (by rw [cut]; exact writing) (by rw [cut]; exact moved) onward (by rw [cut])

theorem write_spec (answer : Answer) {rest : List UInt8} (writing : state.child = .writing rest) :
    Event manner errand state (.child answer) (write manner rest answer state) := by
  by_cases closed : state.parent.readable = false
  · have shut : write manner rest answer state =
        if manner.ignoresBrokenPipe then { state with child := .leaving false }
        else { state with child := .ended (.killed brokenPipe) } := by
      cases answer <;> simp only [write, if_pos closed]
    rw [shut]
    split
    · exact .broken answer rest _ writing closed (.inl rfl)
    · exact .broken answer rest _ writing closed (.inr rfl)
  · cases answer with
    | interrupted =>
        simp only [write, if_neg closed]
        split
        next again => exact .rewrite rest writing again
        next once =>
          exact .abandon .interrupted rest writing (.inr ⟨rfl, eq_false_of_ne_true once⟩)
    | refused errno =>
        simp only [write, if_neg closed]
        exact .abandon (.refused errno) rest writing (.inl ⟨errno, rfl⟩)
    | done =>
        simp only [write, if_neg closed]
        exact sendSome_spec .done writing
    | count bytes =>
        simp only [write, if_neg closed]
        exact sendSome_spec (.count bytes) writing
    | exhausted =>
        simp only [write, if_neg closed]
        exact sendSome_spec .exhausted writing

theorem childStep_spec {answer : Answer}
    (taken : childStep manner errand answer state = some next) :
    Event manner errand state (.child answer) next := by
  cases phase : state.child with
  | working =>
      cases errand with
      | none => simp [childStep, phase] at taken
      | some outcome =>
          simp only [childStep, phase] at taken
          split at taken
          next empty =>
            cases taken
            exact .finish answer outcome phase rfl empty
          next nonempty =>
            cases taken
            exact .begin answer outcome phase rfl nonempty
  | writing rest =>
      simp only [childStep, phase] at taken
      cases taken
      exact write_spec answer phase
  | leaving closed =>
      cases errand with
      | none => simp [childStep, phase] at taken
      | some outcome =>
          simp only [childStep, phase] at taken
          cases taken
          exact .exit answer closed outcome phase rfl
  | ended ending => simp [childStep, phase] at taken

theorem receiveSome_spec (answer : Answer) {received : List UInt8}
    (reading : state.parent = .reading received) (room : received.length < manner.capacity)
    (filled : state.buffer ≠ []) :
    Event manner errand state (.parent answer) (receiveSome manner received answer state) := by
  have positive : 0 < min (manner.capacity - received.length) state.buffer.length := by
    have := List.length_pos_iff.mpr filled
    omega
  have lower := Pipe.transfer_pos answer positive
  have upper := Pipe.transfer_le answer positive
  apply Event.data answer received
    (state.buffer.take (answer.transfer (min (manner.capacity - received.length)
      state.buffer.length)))
    (state.buffer.drop (answer.transfer (min (manner.capacity - received.length)
      state.buffer.length)))
    (receiveSome manner received answer state).parent reading room
    (List.take_append_drop _ _).symm
  · intro empty
    have size := congrArg List.length empty
    rw [List.length_take, List.length_nil] at size
    omega
  · rw [List.length_take]
    omega
  · cases again : manner.rereads with
    | true => exact .inl ⟨rfl, if_pos again⟩
    | false => exact .inr ⟨rfl, if_neg (by simp [again])⟩
  · rfl

theorem read_spec {answer : Answer} {received : List UInt8}
    (reading : state.parent = .reading received)
    (taken : read manner received answer state = some next) :
    Event manner errand state (.parent answer) next := by
  by_cases room : received.length < manner.capacity
  · have ready : ∀ answer, (if state.buffer = [] then
          if state.child.writable then none
          else some { state with parent := .waiting received }
        else some (receiveSome manner received answer state)) = some next →
        Event manner errand state (.parent answer) next := by
      intro answer taken
      split at taken
      next empty =>
        split at taken
        next => cases taken
        next closed =>
          cases taken
          exact .endOfFile answer received reading empty (eq_false_of_ne_true closed)
      next filled =>
        cases taken
        exact receiveSome_spec answer reading room filled
    cases answer with
    | interrupted =>
        simp only [read, if_neg (Nat.not_le.mpr room)] at taken
        split at taken
        next again =>
          cases taken
          exact .reread received reading again
        next once =>
          cases taken
          exact .desist .interrupted received reading (.inr ⟨rfl, eq_false_of_ne_true once⟩)
    | refused errno =>
        simp only [read, if_neg (Nat.not_le.mpr room)] at taken
        cases taken
        exact .desist (.refused errno) received reading (.inl ⟨errno, rfl⟩)
    | done =>
        simp only [read, if_neg (Nat.not_le.mpr room)] at taken
        exact ready .done taken
    | count bytes =>
        simp only [read, if_neg (Nat.not_le.mpr room)] at taken
        exact ready (.count bytes) taken
    | exhausted =>
        simp only [read, if_neg (Nat.not_le.mpr room)] at taken
        exact ready .exhausted taken
  · simp only [read, if_pos (Nat.not_lt.mp room)] at taken
    cases taken
    exact .full answer received reading (Nat.not_lt.mp room)

theorem parentStep_spec {answer : Answer} (taken : parentStep manner answer state = some next) :
    Event manner errand state (.parent answer) next := by
  cases phase : state.parent with
  | reading received =>
      simp only [parentStep, phase] at taken
      exact read_spec phase taken
  | waiting received =>
      simp only [parentStep, phase, wait] at taken
      split at taken
      next interrupted =>
        cases taken
        subst interrupted
        exact .rewait received phase
      next =>
        split at taken
        next ending ended =>
          cases taken
          exact .waited answer received ending phase ended
        next => cases taken
  | returned received waited => simp [parentStep, phase] at taken

/-- Everything a step can do. -/
theorem step_spec {move : Move} (taken : step manner errand move state = some next) :
    Event manner errand state move next := by
  cases move with
  | child answer => exact childStep_spec taken
  | parent answer => exact parentStep_spec taken
  | kill signal =>
      simp only [step] at taken
      split at taken
      next => cases taken
      next alive =>
        cases taken
        exact .kill signal alive
  | reap =>
      simp only [step] at taken
      split at taken
      next ending received ended reading =>
        split at taken
        next => cases taken
        next kept =>
          cases taken
          exact .reap ending ended (by simp [reading]) (eq_false_of_ne_true kept)
      next ending received ended waiting =>
        split at taken
        next => cases taken
        next kept =>
          cases taken
          exact .reap ending ended (by simp [waiting]) (eq_false_of_ne_true kept)
      next => cases taken

end Spec

/-! ## What every run keeps -/

/-- The record of the work, empty if the work has no outcome. -/
def recordOf : Option Errand → List UInt8
  | some outcome => outcome.record
  | none => []

/-- The bytes that the child has written. -/
def State.sent (state : State) : List UInt8 := state.parent.received ++ state.buffer

/-- What has been written is the beginning of the record, and an exit code is that of the
work. -/
structure Sound (errand : Option Errand) (state : State) : Prop where
  working : state.child = .working → state.sent = []
  writing : ∀ rest, state.child = .writing rest →
    state.sent ++ rest = recordOf errand ∧ rest ≠ []
  start : state.sent <+: recordOf errand
  exited : ∀ code, state.child = .ended (.exited code) →
    ∃ outcome, errand = some outcome ∧ code = outcome.exitCode
  returned : ∀ received waited, state.parent = .returned received waited →
    ∃ ending, state.child = .ended ending ∧ waited = if state.reaped then none else some ending

section Runs

variable {manner : Manner} {errand : Option Errand} {state next : State} {move : Move}

theorem sound_initial (errand : Option Errand) : Sound errand .initial where
  working := fun _ => rfl
  writing := nofun
  start := List.nil_prefix
  exited := nofun
  returned := nofun

/-- A step of the child or of others that leaves the bytes alone. -/
theorem Sound.childChange (sound : Sound errand state) (after : Child)
    (unended : ∀ ending, state.child ≠ .ended ending) (notWorking : after ≠ .working)
    (writing : ∀ rest, after = .writing rest → state.sent ++ rest = recordOf errand ∧ rest ≠ [])
    (exited : ∀ code, after = .ended (.exited code) →
      ∃ outcome, errand = some outcome ∧ code = outcome.exitCode) :
    Sound errand { state with child := after } where
  working := fun here => absurd here notWorking
  writing := writing
  start := sound.start
  exited := exited
  returned := by
    intro received waited done
    rcases sound.returned received waited done with ⟨ending, ended, _⟩
    exact absurd ended (unended ending)

/-- A step of the process after which the bytes written are the same. -/
theorem Sound.parentChange (sound : Sound errand state) (buffer : List UInt8) (after : Parent)
    (same : after.received ++ buffer = state.sent)
    (returned : ∀ received waited, after = .returned received waited →
      ∃ ending, state.child = .ended ending ∧
        waited = if state.reaped then none else some ending) :
    Sound errand { state with buffer := buffer, parent := after } where
  working := fun here => same.trans (sound.working here)
  writing := by
    intro rest here
    rw [show State.sent { state with buffer := buffer, parent := after } = state.sent from same]
    exact sound.writing rest here
  start := by
    rw [show State.sent { state with buffer := buffer, parent := after } = state.sent from same]
    exact sound.start
  exited := sound.exited
  returned := returned

theorem Sound.step (sound : Sound errand state) (event : Event manner errand state move next) :
    Sound errand next := by
  cases event with
  | finish answer outcome phase work empty =>
      exact sound.childChange _ (by simp [phase]) nofun nofun nofun
  | begin answer outcome phase work nonempty =>
      apply sound.childChange (.writing outcome.record) (by simp [phase]) nofun ?_ nofun
      rintro rest ⟨⟩
      rw [sound.working phase, work]
      exact ⟨rfl, nonempty⟩
  | broken answer rest after phase closed outcome =>
      rcases outcome with rfl | rfl
      · exact sound.childChange _ (by simp [phase]) nofun nofun nofun
      · exact sound.childChange _ (by simp [phase]) nofun nofun nofun
  | rewrite | reread | rewait => exact sound
  | abandon answer rest phase why =>
      exact sound.childChange _ (by simp [phase]) nofun nofun nofun
  | sent answer bytes rest after phase moved onward size =>
      have whole := (sound.writing _ phase).1
      rw [← List.append_assoc] at whole
      have more : State.sent { state with buffer := state.buffer ++ bytes, child := after } =
          state.sent ++ bytes := (List.append_assoc _ _ _).symm
      constructor
      · intro working
        rcases onward with ⟨_, rfl⟩ | ⟨_, _, rfl⟩ <;> cases working
      · intro left writing
        rw [more]
        rcases onward with ⟨_, rfl⟩ | ⟨nonempty, _, rfl⟩
        · cases writing
        · cases writing
          exact ⟨whole, nonempty⟩
      · rw [more]
        exact ⟨rest, whole⟩
      · intro code exited
        rcases onward with ⟨_, rfl⟩ | ⟨_, _, rfl⟩ <;> cases exited
      · intro received waited done
        rcases sound.returned received waited done with ⟨ending, ended, _⟩
        rw [phase] at ended
        cases ended
  | exit answer closed outcome phase work =>
      apply sound.childChange (.ended (.exited outcome.exitCode)) (by simp [phase]) nofun nofun
      rintro code ⟨⟩
      exact ⟨outcome, work, rfl⟩
  | full answer received phase _ | desist answer received phase _
  | endOfFile answer received phase _ _ =>
      apply sound.parentChange state.buffer (.waiting received) ?_ nofun
      rw [State.sent, phase]
      rfl
  | data answer received bytes rest after phase room cut nonempty fits onward size =>
      have same : after.received ++ rest = state.sent := by
        rw [State.sent, phase, cut]
        rcases onward with ⟨_, rfl⟩ | ⟨_, rfl⟩ <;> simp [Parent.received]
      apply sound.parentChange rest after same
      intro final waited done
      rcases onward with ⟨_, rfl⟩ | ⟨_, rfl⟩ <;> cases done
  | waited answer received ending phase ended =>
      apply sound.parentChange state.buffer (.returned received _)
      · rw [State.sent, phase]
        rfl
      · rintro _ _ ⟨⟩
        exact ⟨ending, ended, rfl⟩
  | kill signal unended => exact sound.childChange _ unended nofun nofun nofun
  | reap ending ended unreturned kept =>
      exact ⟨sound.working, sound.writing, sound.start, sound.exited,
        fun received waited done => absurd done (unreturned received waited)⟩

theorem sound_run {allowed : State → Move → Bool}
    (run : Reaches (Delegation.step manner errand) allowed .initial state) : Sound errand state :=
  run.preserves (Sound errand) (fun _ _ _ sound _ taken => sound.step (step_spec taken))
    (sound_initial errand)

/-- Run rule: whatever happens, the process has received the beginning of the record when it
returns, and an exit code that it has waited for is that of the work. -/
theorem returned_run {allowed : State → Move → Bool} {received : List UInt8}
    {waited : Option Ending}
    (run : Reaches (Delegation.step manner errand) allowed .initial state)
    (returned : state.parent = .returned received waited) :
    received <+: recordOf errand ∧ (waited = none ↔ state.reaped = true) ∧
      ∀ code, waited = some (.exited code) →
        ∃ outcome, errand = some outcome ∧ code = outcome.exitCode := by
  have sound := sound_run run
  rcases sound.returned received waited returned with ⟨ending, ended, answer⟩
  refine ⟨?_, ?_, ?_⟩
  · have start := sound.start
    rw [State.sent, returned] at start
    exact (List.prefix_append _ _).trans start
  · rw [answer]
    cases state.reaped <;> simp
  · intro code exited
    apply sound.exited code
    rw [answer] at exited
    cases taken : state.reaped with
    | true => simp [taken] at exited
    | false =>
        simp only [taken, Bool.false_eq_true, if_false, Option.some.injEq] at exited
        rw [ended, exited]

/-! ## Undisturbed runs -/

/-- The transfer is neither refused nor, where it is not repeated, cut short. -/
def transfers (repeated : Bool) (limit : Nat) : Answer → Bool
  | .refused _ => false
  | .interrupted => repeated
  | answer => repeated || answer.transfer limit == limit

/-- Nobody kills the child or takes its status, and every transfer is carried out. -/
def undisturbed (manner : Manner) (state : State) : Move → Bool
  | .child answer =>
      match state.child with
      | .writing rest => transfers manner.rewrites rest.length answer
      | _ => true
  | .parent answer =>
      match state.parent with
      | .reading received => transfers manner.rereads
          (min (manner.capacity - received.length) state.buffer.length) answer
      | _ => true
  | .kill _ | .reap => false

theorem transfers_refused {repeated : Bool} {limit : Nat} {answer : Answer}
    (carried : transfers repeated limit answer = true) :
    ¬ ((∃ errno, answer = .refused errno) ∨ answer = .interrupted ∧ repeated = false) := by
  rintro (⟨errno, rfl⟩ | ⟨rfl, once⟩)
  · cases carried
  · rw [transfers, once] at carried
    cases carried

theorem transfers_once {limit : Nat} {answer : Answer}
    (carried : transfers false limit answer = true) : answer.transfer limit = limit := by
  cases answer with
  | interrupted | refused => cases carried
  | done | count | exhausted => exact eq_of_beq carried

/-- A reader that reads once is met by a writer that writes once, and has room for the
record. -/
structure Manner.Fits (manner : Manner) (errand : Option Errand) : Prop where
  room : (recordOf errand).length ≤ manner.capacity
  once : manner.rereads = false → manner.rewrites = false

/-- Until now nothing has been lost. -/
structure Complete (manner : Manner) (errand : Option Errand) (state : State) : Prop where
  whole : ∀ closed, state.child = .leaving closed → state.sent = recordOf errand
  ended : ∀ ending, state.child = .ended ending →
    state.sent = recordOf errand ∧ ∃ code, ending = .exited code
  once : manner.rewrites = false → ∀ rest, state.child = .writing rest → state.sent = []
  read : state.parent.readable = false → state.parent.received = recordOf errand
  kept : state.reaped = false

theorem complete_initial (manner : Manner) (errand : Option Errand) :
    Complete manner errand .initial where
  whole := nofun
  ended := nofun
  once := nofun
  read := nofun
  kept := rfl

/-- A process that has stopped reading leaves nothing to write. -/
theorem Complete.readable (complete : Complete manner errand state) (sound : Sound errand state)
    {rest : List UInt8} (writing : state.child = .writing rest) :
    state.parent.readable ≠ false := by
  intro closed
  rcases sound.writing rest writing with ⟨whole, nonempty⟩
  rw [State.sent, complete.read closed, List.append_assoc,
    List.append_right_eq_self] at whole
  exact nonempty (List.append_eq_nil_iff.mp whole).2

/-- A write that is not cut short leaves nothing. -/
theorem rest_of_once {bytes rest : List UInt8} {answer : Answer}
    (size : bytes = (bytes ++ rest).take (answer.transfer (bytes ++ rest).length))
    (full : answer.transfer (bytes ++ rest).length = (bytes ++ rest).length) : rest = [] := by
  rw [full, List.take_length] at size
  exact List.self_eq_append_right.mp size

/-- A read that is not repeated brings the whole record. -/
theorem Complete.readOnce (complete : Complete manner errand state) (sound : Sound errand state)
    (fits : manner.Fits errand) (once : manner.rereads = false) {received bytes rest : List UInt8}
    {answer : Answer} (phase : state.parent = .reading received)
    (cut : state.buffer = bytes ++ rest) (nonempty : bytes ≠ [])
    (size : bytes = state.buffer.take
      (answer.transfer (min (manner.capacity - received.length) state.buffer.length)))
    (carried : transfers manner.rereads
      (min (manner.capacity - received.length) state.buffer.length) answer = true) :
    received ++ bytes = recordOf errand := by
  have sent : state.sent = received ++ state.buffer := by
    rw [State.sent, phase]
    rfl
  have filled : state.sent ≠ [] := by
    rw [sent, cut]
    simp [nonempty]
  have whole : state.sent = recordOf errand := by
    cases child : state.child with
    | working => exact absurd (sound.working child) filled
    | writing left => exact absurd (complete.once (fits.once once) left child) filled
    | leaving closed => exact complete.whole closed child
    | ended ending => exact (complete.ended ending child).1
  have room := fits.room
  rw [← whole, sent, List.length_append] at room
  have enough : min (manner.capacity - received.length) state.buffer.length =
      state.buffer.length := by omega
  rw [once] at carried
  rw [transfers_once carried, enough, List.take_length] at size
  rw [size, ← sent, whole]

theorem Complete.step (fits : manner.Fits errand) (sound : Sound errand state)
    (complete : Complete manner errand state) (admitted : undisturbed manner state move = true)
    (event : Event manner errand state move next) : Complete manner errand next := by
  cases event with
  | finish answer outcome phase work empty =>
      refine ⟨fun closed here => ?_, nofun, nofun, complete.read, complete.kept⟩
      rw [show State.sent { state with child := .leaving true } = state.sent from rfl,
        sound.working phase, work]
      exact empty.symm
  | begin answer outcome phase work nonempty =>
      exact ⟨nofun, nofun, fun _ _ _ => sound.working phase, complete.read, complete.kept⟩
  | broken answer rest after phase closed => exact absurd closed (complete.readable sound phase)
  | rewrite | reread | rewait => exact complete
  | abandon answer rest phase why =>
      simp only [undisturbed, phase] at admitted
      exact absurd why (transfers_refused admitted)
  | sent answer bytes rest after phase moved onward size =>
      simp only [undisturbed, phase] at admitted
      have whole := (sound.writing _ phase).1
      rw [← List.append_assoc] at whole
      have more : State.sent { state with buffer := state.buffer ++ bytes, child := after } =
          state.sent ++ bytes := (List.append_assoc _ _ _).symm
      rcases onward with ⟨stops, rfl⟩ | ⟨_, again, rfl⟩
      · have nothing : rest = [] := by
          rcases stops with empty | once
          · exact empty
          · rw [once] at admitted
            exact rest_of_once size (transfers_once admitted)
        rw [nothing, List.append_nil] at whole
        exact ⟨fun _ _ => more.trans whole, nofun, nofun, complete.read, complete.kept⟩
      · refine ⟨nofun, nofun, fun once => ?_, complete.read, complete.kept⟩
        rw [again] at once
        cases once
  | exit answer closed outcome phase work =>
      refine ⟨nofun, ?_, nofun, complete.read, complete.kept⟩
      rintro ending ⟨⟩
      exact ⟨complete.whole closed phase, _, rfl⟩
  | full answer received phase filled =>
      refine ⟨?_, ?_, ?_, fun _ => ?_, complete.kept⟩
      · simpa [State.sent, phase, Parent.received] using complete.whole
      · simpa [State.sent, phase, Parent.received] using complete.ended
      · simpa [State.sent, phase, Parent.received] using complete.once
      · have start := sound.start
        rw [State.sent, phase] at start
        have begun : received <+: recordOf errand := (List.prefix_append _ _).trans start
        exact begun.eq_of_length_le (Nat.le_trans fits.room filled)
  | desist answer received phase why =>
      simp only [undisturbed, phase] at admitted
      exact absurd why (transfers_refused admitted)
  | endOfFile answer received phase empty closed =>
      have whole : state.sent = recordOf errand := by
        cases child : state.child with
        | working => simp [child, Child.writable] at closed
        | writing rest => simp [child, Child.writable] at closed
        | leaving closed => exact complete.whole closed child
        | ended ending => exact (complete.ended ending child).1
      have same : received = recordOf errand := by
        rw [← whole, State.sent, phase, empty]
        exact (List.append_nil _).symm
      refine ⟨?_, ?_, ?_, fun _ => same, complete.kept⟩
      · simpa [State.sent, phase, Parent.received] using complete.whole
      · simpa [State.sent, phase, Parent.received] using complete.ended
      · simpa [State.sent, phase, Parent.received] using complete.once
  | data answer received bytes rest after phase room cut nonempty fitting onward size =>
      simp only [undisturbed, phase] at admitted
      have same : State.sent { state with buffer := rest, parent := after } = state.sent := by
        rw [State.sent, State.sent, phase, cut]
        rcases onward with ⟨_, rfl⟩ | ⟨_, rfl⟩ <;> simp [Parent.received]
      refine ⟨?_, ?_, ?_, ?_, complete.kept⟩
      · intro closed here
        exact same.trans (complete.whole closed here)
      · intro ending here
        rw [same]
        exact complete.ended ending here
      · intro once rest here
        exact same.trans (complete.once once rest here)
      · intro closed
        rcases onward with ⟨_, rfl⟩ | ⟨once, rfl⟩
        · cases closed
        · exact complete.readOnce sound fits once phase cut nonempty size admitted
  | waited answer received ending phase ended =>
      refine ⟨?_, ?_, ?_, fun _ => ?_, complete.kept⟩
      · simpa [State.sent, phase, Parent.received] using complete.whole
      · simpa [State.sent, phase, Parent.received] using complete.ended
      · simpa [State.sent, phase, Parent.received] using complete.once
      · simpa [phase, Parent.received, Parent.readable] using complete.read
  | kill | reap => cases admitted

/-- Run rule: in an undisturbed run the process receives the whole record and the exit
code. -/
theorem settled_run {received : List UInt8} {waited : Option Ending} (fits : manner.Fits errand)
    (run : Reaches (Delegation.step manner errand) (undisturbed manner) .initial state)
    (returned : state.parent = .returned received waited) :
    ∃ outcome, errand = some outcome ∧ received = outcome.record ∧
      waited = some (.exited outcome.exitCode) := by
  have complete : Complete manner errand state := by
    apply run.preserves_with (Sound errand) (Complete manner errand)
    · intro before move after sound _ taken
      exact sound.step (step_spec taken)
    · intro before move after sound complete admitted taken
      exact complete.step fits sound admitted (step_spec taken)
    · exact sound_initial errand
    · exact complete_initial manner errand
  have sound := sound_run run
  rcases sound.returned received waited returned with ⟨ending, ended, answer⟩
  rcases complete.ended ending ended with ⟨_, code, rfl⟩
  rcases sound.exited code ended with ⟨outcome, work, rfl⟩
  have read := complete.read (by rw [returned]; rfl)
  rw [returned, work] at read
  rw [complete.kept] at answer
  exact ⟨outcome, work, read, answer⟩

/-! ## Progress -/

def Child.rank (errand : Option Errand) : Child → Nat
  | .working => (recordOf errand).length + 3
  | .writing rest => rest.length + 2
  | .leaving _ => 1
  | .ended _ => 0

def Parent.rank (manner : Manner) : Parent → Nat
  | .reading received => manner.capacity - received.length + 2
  | .waiting _ => 1
  | .returned .. => 0

/-- How many more steps there can be, retries aside. -/
def State.rank (manner : Manner) (errand : Option Errand) (state : State) : Nat :=
  state.child.rank errand + state.parent.rank manner + if state.reaped then 0 else 1

/-- An interrupted call. -/
def Move.retry : Move → Bool
  | .child .interrupted | .parent .interrupted => true
  | _ => false

/-- Every step is a retry or brings the end nearer. -/
theorem rank_step (sound : Sound errand state) (event : Event manner errand state move next) :
    move.retry = true ∧ next = state ∨
      next.rank manner errand < state.rank manner errand := by
  cases event with
  | rewrite | reread | rewait => exact .inl ⟨rfl, rfl⟩
  | finish answer outcome phase work empty => simp [State.rank, Child.rank, phase]
  | begin answer outcome phase work nonempty =>
      simp [State.rank, Child.rank, phase, work, recordOf]
  | broken answer rest after phase closed outcome =>
      rcases outcome with rfl | rfl <;> simp [State.rank, Child.rank, phase]
  | abandon answer rest phase why => simp [State.rank, Child.rank, phase]
  | sent answer bytes rest after phase moved onward size =>
      right
      have positive := List.length_pos_iff.mpr (moved (sound.writing _ phase).2)
      rcases onward with ⟨_, rfl⟩ | ⟨_, _, rfl⟩
      · simp [State.rank, Child.rank, phase]
      · simp only [State.rank, Child.rank, phase, List.length_append]
        omega
  | exit answer closed outcome phase work => simp [State.rank, Child.rank, phase]
  | full answer received phase | desist answer received phase
  | endOfFile answer received phase => simp [State.rank, Parent.rank, phase]
  | data answer received bytes rest after phase room cut nonempty fits onward size =>
      right
      have positive := List.length_pos_iff.mpr nonempty
      rcases onward with ⟨_, rfl⟩ | ⟨_, rfl⟩
      · simp only [State.rank, Parent.rank, phase, List.length_append]
        omega
      · simp [State.rank, Parent.rank, phase]
  | waited answer received ending phase ended => simp [State.rank, Parent.rank, phase]
  | kill signal unended =>
      right
      cases child : state.child with
      | ended ending => exact absurd child (unended ending)
      | working | writing | leaving => simp [State.rank, Child.rank, child]
  | reap ending ended unreturned kept => simp [State.rank, kept]

theorem transfers_done (repeated : Bool) (limit : Nat) :
    transfers repeated limit .done = true := by
  simp [transfers, Answer.transfer]

/-- A call that is carried out is enabled for the child until it has ended, and then for the
process. -/
theorem enabled_of_unreturned {outcome : Errand}
    (unreturned : ∀ received waited, state.parent ≠ .returned received waited) :
    ∃ move next, move.retry = false ∧ undisturbed manner state move = true ∧
      Delegation.step manner (some outcome) move state = some next := by
  cases child : state.child with
  | working =>
      refine ⟨.child .done, ?_⟩
      simp only [Move.retry, undisturbed, child, Delegation.step, childStep, true_and]
      split
      · exact ⟨_, rfl⟩
      · exact ⟨_, rfl⟩
  | writing rest =>
      refine ⟨.child .done, ?_⟩
      simp only [Move.retry, undisturbed, child, Delegation.step, childStep, transfers_done,
        true_and]
      exact ⟨_, rfl⟩
  | leaving closed =>
      refine ⟨.child .done, ?_⟩
      simp only [Move.retry, undisturbed, child, Delegation.step, childStep, true_and]
      exact ⟨_, rfl⟩
  | ended ending =>
      refine ⟨.parent .done, ?_⟩
      cases parent : state.parent with
      | returned received waited => exact absurd parent (unreturned received waited)
      | waiting received =>
          simp only [Move.retry, undisturbed, parent, Delegation.step, parentStep, wait, child,
            true_and, reduceCtorEq, if_false]
          exact ⟨_, rfl⟩
      | reading received =>
          simp only [Move.retry, undisturbed, parent, Delegation.step, parentStep, read,
            transfers_done, child, Child.writable, true_and]
          split
          · exact ⟨_, rfl⟩
          · split
            · exact ⟨_, rfl⟩
            · exact ⟨_, rfl⟩

/-- Run rule: the process returns after finitely many steps, retries aside, if the child's
work has an outcome; whatever has happened so far, it can still return. -/
theorem exists_returned {allowed : State → Move → Bool} {outcome : Errand}
    (run : Reaches (Delegation.step manner (some outcome)) allowed .initial state) :
    ∃ last received waited,
      Reaches (Delegation.step manner (some outcome)) (undisturbed manner) state last ∧
      last.parent = .returned received waited := by
  have sound := sound_run run
  clear run
  induction equal : state.rank manner (some outcome) using Nat.strongRecOn
    generalizing state with
  | ind bound ih =>
      subst equal
      by_cases done : ∃ received waited, state.parent = .returned received waited
      · rcases done with ⟨received, waited, returned⟩
        exact ⟨state, received, waited, .refl state, returned⟩
      · have unreturned : ∀ received waited, state.parent ≠ .returned received waited :=
          fun received waited returned => done ⟨received, waited, returned⟩
        rcases enabled_of_unreturned unreturned with ⟨move, next, carried, admitted, taken⟩
        have event := step_spec taken
        rcases rank_step sound event with ⟨retried, _⟩ | nearer
        · rw [carried] at retried
          cases retried
        · rcases ih _ nearer (sound.step event) rfl with
            ⟨last, received, waited, onward, returned⟩
          exact ⟨last, received, waited, .head admitted taken onward, returned⟩

/-- Schedule rule: a schedule without retries is no longer than the rank it uses up. -/
theorem length_le_rank {allowed : State → Move → Bool} {moves : List Move}
    (sound : Sound errand state) (carried : ∀ move ∈ moves, move.retry = false)
    (played : replay (Delegation.step manner errand) allowed moves state = some next) :
    moves.length + next.rank manner errand ≤ state.rank manner errand := by
  induction moves generalizing state with
  | nil =>
      cases played
      exact Nat.le_of_eq (Nat.zero_add _)
  | cons move moves ih =>
      simp only [replay] at played
      split at played
      next =>
        split at played
        next middle taken =>
          have event := step_spec taken
          have onward := ih (sound.step event)
            (fun move member => carried move (List.mem_cons_of_mem _ member)) played
          rcases rank_step sound event with ⟨retried, _⟩ | nearer
          · rw [carried move List.mem_cons_self] at retried
            cases retried
          · rw [List.length_cons]
            omega
        next => cases played
      next => cases played

end Runs

end PkgexecLinux.Kernel.Delegation

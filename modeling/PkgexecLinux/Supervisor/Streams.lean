import PkgexecLinux.Process.Closing

/-!
# Descriptors from the supervisor to the program

The descriptor operations of `execute_backend` and `child_main`: the interpreter
and five pipes are opened, the child closes the ends it does not use, sets up its
standard streams, closes what it inherited and executes the interpreter by the
number of its descriptor.

What the child opens while it sets up its filesystem and network is closed again
before these functions return, and does not appear here.
-/

namespace PkgexecLinux.Supervisor

open Foundation Process

inductive FileKind where
  | regular
  | nullDevice
  | other
  deriving DecidableEq, Repr

/-- An opened file.  Its contents do not change once it is open. -/
structure Inode where
  number : Nat
  kind : FileKind
  bytes : List UInt8
  deriving DecidableEq, Repr

inductive PipeName where
  | output
  | error
  | control
  | ready
  | start
  deriving DecidableEq, Repr

/-- What a descriptor refers to; `inherited` stands for all else the caller has open. -/
inductive Handle where
  | file (inode : Inode)
  | readEnd (pipe : PipeName)
  | writeEnd (pipe : PipeName)
  | inherited (number : Nat)
  deriving DecidableEq, Repr

abbrev Descriptors := DescriptorTable Handle

/-- `stdin_policy`. -/
inductive StdinPolicy where
  | closed
  | nullDevice
  deriving DecidableEq, Repr

/-- `stream_policy`. -/
inductive StreamPolicy where
  | captureComplete
  | discard
  deriving DecidableEq, Repr

structure StreamPolicies where
  standardInput : StdinPolicy
  standardOutput : StreamPolicy
  standardError : StreamPolicy
  deriving DecidableEq, Repr

/-- The descriptors that `execute_backend` has opened when it forks. -/
structure Numbers where
  interpreter : Nat
  outputRead : Nat
  outputWrite : Nat
  errorRead : Nat
  errorWrite : Nat
  controlRead : Nat
  controlWrite : Nat
  readyRead : Nat
  readyWrite : Nat
  startRead : Nat
  startWrite : Nat
  deriving DecidableEq, Repr

/-- What the opens of `execute_backend` install, in their order: all close-on-exec. -/
def openedValues (interpreter : Inode) : List (Entry Handle) :=
  [⟨.file interpreter, true⟩,
    ⟨.readEnd .output, true⟩, ⟨.writeEnd .output, true⟩,
    ⟨.readEnd .error, true⟩, ⟨.writeEnd .error, true⟩,
    ⟨.readEnd .control, true⟩, ⟨.writeEnd .control, true⟩,
    ⟨.readEnd .ready, true⟩, ⟨.writeEnd .ready, true⟩,
    ⟨.readEnd .start, true⟩, ⟨.writeEnd .start, true⟩]

def Numbers.ofList : List Nat → Option Numbers
  | [interpreter, outputRead, outputWrite, errorRead, errorWrite, controlRead, controlWrite,
      readyRead, readyWrite, startRead, startWrite] =>
        some ⟨interpreter, outputRead, outputWrite, errorRead, errorWrite, controlRead,
          controlWrite, readyRead, readyWrite, startRead, startWrite⟩
  | _ => none

/-- The interpreter, which has to be a regular file, and the five calls of `make_pipe`. -/
def openDescriptors (limit : Nat) (interpreter : Inode) (table : Descriptors) :
    Option (Numbers × Descriptors) :=
  if interpreter.kind ≠ .regular then none
  else
    match table.allocateAll limit (openedValues interpreter) with
    | none => none
    | some (fds, next) => (Numbers.ofList fds).map fun numbers => (numbers, next)

/-- The ends that the child closes before `child_main`. -/
def closeUnused (numbers : Numbers) (table : Descriptors) : Descriptors :=
  ((((table.close numbers.outputRead).close numbers.errorRead).close
    numbers.controlRead).close numbers.readyRead).close numbers.startWrite

/-- Open `/dev/null`, duplicate it onto `target` and close it.  What the path refers to
at that moment is `device`. -/
def openNull (limit : Nat) (device : Inode) (target : Nat) (table : Descriptors) :
    Option Descriptors :=
  match table.allocate limit ⟨.file device, true⟩ with
  | none => none
  | some (fd, opened) => (opened.duplicate fd target).map fun next => next.close fd

/-- Standard input in `child_main`. -/
def setInput (limit : Nat) (policy : StdinPolicy) (device : Inode) (table : Descriptors) :
    Option Descriptors :=
  match policy with
  | .closed => some (table.close 0)
  | .nullDevice => openNull limit device 0 table

/-- `redirect` in `child_main`. -/
def redirect (limit : Nat) (policy : StreamPolicy) (device : Inode) (pipeWrite target : Nat)
    (table : Descriptors) : Option Descriptors :=
  match policy with
  | .captureComplete => table.duplicate pipeWrite target
  | .discard => openNull limit device target table

/-- What the child meets: the descriptor limit, what `/dev/null` is when it opens it for
each stream, how the range calls end and what `sysconf` returns. -/
structure ChildWorld where
  limit : Nat
  nullPath : Nat → Inode
  calls : RangeCalls
  maximum : Int

/-- The standard streams of `child_main`. -/
def setStreams (world : ChildWorld) (policies : StreamPolicies) (numbers : Numbers)
    (table : Descriptors) : Option Descriptors := do
  let table ← setInput world.limit policies.standardInput (world.nullPath 0) table
  let table ← redirect world.limit policies.standardOutput (world.nullPath 1)
    numbers.outputWrite 1 table
  redirect world.limit policies.standardError (world.nullPath 2) numbers.errorWrite 2 table

/-- The child's descriptors from `fork` to `execveat`; `none` when it gives up before. -/
def childDescriptors (world : ChildWorld) (policies : StreamPolicies) (numbers : Numbers)
    (table : Descriptors) : Option Descriptors := do
  let table ← setStreams world policies numbers (closeUnused numbers table)
  let table := (table.close numbers.readyWrite).close numbers.startRead
  pure (closeFdsExcept world.calls world.maximum numbers.controlWrite numbers.interpreter table)

/-- All of it: the numbers handed on, and the child's descriptors at `execveat`. -/
def descriptorsAtExec (limit : Nat) (interpreter : Inode) (world : ChildWorld)
    (policies : StreamPolicies) (table : Descriptors) : Option (Numbers × Descriptors) := do
  let (numbers, opened) ← openDescriptors limit interpreter table
  let child ← childDescriptors world policies numbers opened
  pure (numbers, child)

/-! ## One operation at a time -/

section Operations

variable {limit : Nat} {device : Inode} {pipeWrite target : Nat} {table next : Descriptors}

/-- A discarded stream refers to what was opened; only a target that was free may be
closed instead, when the new descriptor took its number. -/
theorem openNull_spec (done : openNull limit device target table = some next) :
    (∀ fd, fd ≠ target → next.entry fd = table.entry fd) ∧
      (next.entry target = none ∨ next.entry target = some ⟨.file device, false⟩) ∧
      (table.isOpen target = true → next.entry target = some ⟨.file device, false⟩) := by
  unfold openNull at done
  cases allocated : table.allocate limit ⟨.file device, true⟩ with
  | none => simp [allocated] at done
  | some taken =>
      rcases taken with ⟨fd, opened⟩
      simp only [allocated, Option.map_eq_some_iff] at done
      rcases done with ⟨copied, duplicated, rfl⟩
      rcases table.allocate_spec allocated with ⟨vacant, -, entries⟩
      rcases opened.duplicate_spec duplicated with ⟨value, present, same, other⟩
      have installed : value = ⟨.file device, true⟩ := by
        rw [entries, if_pos rfl, Option.some.injEq] at present
        exact present.symm
      by_cases onto : fd = target
      · -- The new descriptor is the target: the copy does nothing and the close ends it.
        have unchanged := same onto
        subst onto
        subst unchanged
        refine ⟨?_, ?_, ?_⟩
        · intro number distinct
          rw [DescriptorTable.entry_close, if_neg distinct, entries, if_neg distinct]
        · left
          rw [DescriptorTable.entry_close, if_pos rfl]
        · intro used
          rw [DescriptorTable.isOpen, vacant] at used
          exact absurd used Bool.false_ne_true
      · have copy := other onto
        have arrived : (copied.close fd).entry target = some ⟨.file device, false⟩ := by
          rw [DescriptorTable.entry_close, if_neg (Ne.symm onto), copy, if_pos rfl, installed]
        refine ⟨?_, .inr arrived, fun _ => arrived⟩
        intro number distinct
        rw [DescriptorTable.entry_close]
        by_cases temporary : number = fd
        · rw [if_pos temporary, temporary, vacant]
        · rw [if_neg temporary, copy, if_neg distinct, entries, if_neg temporary]

/-- What the policy says the stream refers to. -/
def streamHandle (policy : StreamPolicy) (pipe : PipeName) (device : Inode) : Handle :=
  match policy with
  | .captureComplete => .writeEnd pipe
  | .discard => .file device

theorem redirect_spec {policy : StreamPolicy} {pipe : PipeName}
    (done : redirect limit policy device pipeWrite target table = some next)
    (distinct : pipeWrite ≠ target)
    (source : table.entry pipeWrite = some ⟨.writeEnd pipe, true⟩) :
    (∀ fd, fd ≠ target → next.entry fd = table.entry fd) ∧
      (next.entry target = none ∨
        next.entry target = some ⟨streamHandle policy pipe device, false⟩) ∧
      (table.isOpen target = true →
        next.entry target = some ⟨streamHandle policy pipe device, false⟩) := by
  cases policy with
  | captureComplete =>
      rcases table.duplicate_spec done with ⟨value, present, -, other⟩
      rw [source, Option.some.injEq] at present
      have copy := other distinct
      have arrived : next.entry target = some ⟨.writeEnd pipe, false⟩ := by
        rw [copy, if_pos rfl, ← present]
      refine ⟨?_, .inr arrived, fun _ => arrived⟩
      intro fd elsewhere
      rw [copy, if_neg elsewhere]
  | discard => exact openNull_spec done

/-- Whatever the numbers are, `redirect` touches no descriptor but its target. -/
theorem redirect_other {policy : StreamPolicy} {fd : Nat}
    (done : redirect limit policy device pipeWrite target table = some next)
    (elsewhere : fd ≠ target) : next.entry fd = table.entry fd := by
  cases policy with
  | captureComplete =>
      rcases table.duplicate_spec done with ⟨value, -, same, other⟩
      by_cases onto : pipeWrite = target
      · rw [same onto]
      · rw [other onto, if_neg elsewhere]
  | discard => exact (openNull_spec done).1 fd elsewhere

/-- What the policy says standard input refers to. -/
def inputHandle (policy : StdinPolicy) (device : Inode) : Option Handle :=
  match policy with
  | .closed => none
  | .nullDevice => some (.file device)

theorem setInput_spec {policy : StdinPolicy}
    (done : setInput limit policy device table = some next) :
    (∀ fd, fd ≠ 0 → next.entry fd = table.entry fd) ∧
      (next.entry 0 = none ∨
        next.entry 0 = (inputHandle policy device).map fun handle => ⟨handle, false⟩) ∧
      (table.isOpen 0 = true →
        next.entry 0 = (inputHandle policy device).map fun handle => ⟨handle, false⟩) := by
  cases policy with
  | closed =>
      simp only [setInput, Option.some.injEq] at done
      subst done
      refine ⟨?_, ?_, ?_⟩
      · intro fd elsewhere
        rw [DescriptorTable.entry_close, if_neg elsewhere]
      · left
        rw [DescriptorTable.entry_close, if_pos rfl]
      · intro _
        rw [DescriptorTable.entry_close, if_pos rfl]
        rfl
  | nullDevice => exact openNull_spec done

end Operations

/-! ## The whole chain -/

/-- The pipe ends, in the order of their creation. -/
def Numbers.pipeEnds (numbers : Numbers) : List Nat :=
  [numbers.outputRead, numbers.outputWrite, numbers.errorRead, numbers.errorWrite,
    numbers.controlRead, numbers.controlWrite, numbers.readyRead, numbers.readyWrite,
    numbers.startRead, numbers.startWrite]

/-- The descriptors that the child still uses when it closes the others. -/
def Numbers.usedEnds (numbers : Numbers) : List Nat :=
  [numbers.interpreter, numbers.outputWrite, numbers.errorWrite, numbers.controlWrite]

/-- The descriptors that the child closes by name. -/
def Numbers.closedEnds (numbers : Numbers) : List Nat :=
  [numbers.outputRead, numbers.errorRead, numbers.controlRead, numbers.readyRead,
    numbers.startWrite, numbers.readyWrite, numbers.startRead]

/-- What `openDescriptors` leaves: the interpreter has the lowest number. -/
structure Opened (interpreter : Inode) (numbers : Numbers) (table next : Descriptors) : Prop where
  regular : interpreter.kind = .regular
  vacant : table.entry numbers.interpreter = none
  lowest : ∀ lower, lower < numbers.interpreter → table.isOpen lower = true
  above : ∀ fd ∈ numbers.pipeEnds, numbers.interpreter < fd
  free : ∀ fd ∈ numbers.pipeEnds, table.entry fd = none
  disjoint : ∀ fd ∈ numbers.usedEnds, fd ∉ numbers.closedEnds
  interpreterEntry : next.entry numbers.interpreter = some ⟨.file interpreter, true⟩
  outputEntry : next.entry numbers.outputWrite = some ⟨.writeEnd .output, true⟩
  errorEntry : next.entry numbers.errorWrite = some ⟨.writeEnd .error, true⟩
  controlEntry : next.entry numbers.controlWrite = some ⟨.writeEnd .control, true⟩
  others : ∀ fd, fd ∉ numbers.interpreter :: numbers.pipeEnds → next.entry fd = table.entry fd

theorem ofList_eq_some {fds : List Nat} {numbers : Numbers}
    (given : Numbers.ofList fds = some numbers) :
    fds = numbers.interpreter :: numbers.pipeEnds := by
  unfold Numbers.ofList at given
  split at given
  · rw [Option.some.injEq] at given
    rw [← given]
    rfl
  · simp at given

theorem usedEnds_disjoint {numbers : Numbers}
    (nodup : (numbers.interpreter :: numbers.pipeEnds).Nodup) :
    ∀ fd ∈ numbers.usedEnds, fd ∉ numbers.closedEnds := by
  simp only [Numbers.pipeEnds, List.nodup_cons, List.mem_cons, not_or, List.not_mem_nil,
    not_false_eq_true, and_true] at nodup
  simp only [Numbers.usedEnds, Numbers.closedEnds, List.mem_cons, not_or,
    List.not_mem_nil, not_false_eq_true, and_true]
  grind -ring -linarith

theorem openDescriptors_spec {limit : Nat} {interpreter : Inode} {numbers : Numbers}
    {table next : Descriptors}
    (done : openDescriptors limit interpreter table = some (numbers, next)) :
    Opened interpreter numbers table next := by
  unfold openDescriptors at done
  by_cases regular : interpreter.kind = .regular
  · rw [if_neg (not_not.mpr regular)] at done
    cases allocated : table.allocateAll limit (openedValues interpreter) with
    | none => simp [allocated] at done
    | some taken =>
        rcases taken with ⟨fds, opened⟩
        simp only [allocated, Option.map_eq_some_iff, Prod.mk.injEq] at done
        rcases done with ⟨found, given, rfl, rfl⟩
        have list := ofList_eq_some given
        subst list
        have spec := DescriptorTable.allocateAll_spec allocated
        have entries := spec.entries
        simp only [openedValues, Numbers.pipeEnds, List.forall₂_cons] at entries
        have vacant := spec.free _ (List.mem_cons_self ..)
        have free : ∀ fd ∈ found.pipeEnds, table.entry fd = none := by
          intro fd member
          exact spec.free fd (List.mem_cons_of_mem _ member)
        have lowest := spec.lowest _ rfl
        have above : ∀ fd ∈ found.pipeEnds, found.interpreter < fd := by
          intro fd member
          have distinct : fd ≠ found.interpreter := by
            intro same
            exact (List.nodup_cons.mp spec.nodup).1 (same ▸ member)
          by_contra below
          have used := lowest fd (by omega)
          rw [DescriptorTable.isOpen, free fd member] at used
          exact Bool.false_ne_true used
        exact {
          regular, vacant, lowest, above, free
          disjoint := usedEnds_disjoint spec.nodup
          interpreterEntry := entries.1
          outputEntry := entries.2.2.1
          errorEntry := entries.2.2.2.2.1
          controlEntry := entries.2.2.2.2.2.2.1
          others := spec.others }
  · simp [regular] at done

/-- What the policies say the standard descriptors refer to. -/
def declaredHandle (world : ChildWorld) (policies : StreamPolicies) : Nat → Option Handle
  | 0 => inputHandle policies.standardInput (world.nullPath 0)
  | 1 => some (streamHandle policies.standardOutput .output (world.nullPath 1))
  | 2 => some (streamHandle policies.standardError .error (world.nullPath 2))
  | _ => none

/-- The entry of a standard descriptor that is set up as declared: it survives `exec`. -/
def declaredEntry (world : ChildWorld) (policies : StreamPolicies) (fd : Nat) :
    Option (Entry Handle) :=
  (declaredHandle world policies fd).map fun handle => ⟨handle, false⟩

section Streams

variable {world : ChildWorld} {policies : StreamPolicies} {numbers : Numbers}
  {table next : Descriptors} {fd : Nat}

theorem setStreams_frame (done : setStreams world policies numbers table = some next)
    (above : 3 ≤ fd) : next.entry fd = table.entry fd := by
  simp only [setStreams, Option.bind_eq_bind, Option.bind_eq_some_iff] at done
  rcases done with ⟨first, input, second, output, error⟩
  rw [redirect_other error (by omega), redirect_other output (by omega),
    (setInput_spec input).1 fd (by omega)]

/-- A stream below the pipes ends as declared, or closed if it was free before. -/
theorem setStreams_stream (done : setStreams world policies numbers table = some next)
    (small : fd < 3) (outputAbove : fd < numbers.outputWrite)
    (errorAbove : fd < numbers.errorWrite)
    (outputEntry : table.entry numbers.outputWrite = some ⟨.writeEnd .output, true⟩)
    (errorEntry : table.entry numbers.errorWrite = some ⟨.writeEnd .error, true⟩) :
    (next.entry fd = none ∨ next.entry fd = declaredEntry world policies fd) ∧
      (table.isOpen fd = true → next.entry fd = declaredEntry world policies fd) := by
  simp only [setStreams, Option.bind_eq_bind, Option.bind_eq_some_iff] at done
  rcases done with ⟨first, input, second, output, error⟩
  rcases setInput_spec input with ⟨inputOthers, inputEither, inputUsed⟩
  have cases : fd = 0 ∨ fd = 1 ∨ fd = 2 := by omega
  rcases cases with rfl | rfl | rfl
  · rw [redirect_other error (by omega), redirect_other output (by omega)]
    exact ⟨inputEither, inputUsed⟩
  · rw [redirect_other error (by omega)]
    have source : first.entry numbers.outputWrite = some ⟨.writeEnd .output, true⟩ := by
      rw [inputOthers _ (by omega), outputEntry]
    rcases redirect_spec output (by omega) source with ⟨-, either, used⟩
    refine ⟨either, fun before => used ?_⟩
    rw [DescriptorTable.isOpen, inputOthers _ (by omega)]
    exact before
  · have source : second.entry numbers.errorWrite = some ⟨.writeEnd .error, true⟩ := by
      rw [redirect_other output (by omega), inputOthers _ (by omega), errorEntry]
    rcases redirect_spec error (by omega) source with ⟨-, either, used⟩
    refine ⟨either, fun before => used ?_⟩
    rw [DescriptorTable.isOpen, redirect_other output (by omega), inputOthers _ (by omega)]
    exact before

theorem closeUnused_entry (kept : fd ∉ numbers.closedEnds) :
    (closeUnused numbers table).entry fd = table.entry fd := by
  simp only [Numbers.closedEnds, List.mem_cons, not_or] at kept
  simp [closeUnused, kept]

theorem closeHandshake_entry (kept : fd ∉ numbers.closedEnds) :
    ((table.close numbers.readyWrite).close numbers.startRead).entry fd = table.entry fd := by
  simp only [Numbers.closedEnds, List.mem_cons, not_or] at kept
  simp [kept]

/-- From the streams to `execveat` nothing is opened. -/
theorem childDescriptors_inv
    (done : childDescriptors world policies numbers table = some next) :
    ∃ streams, setStreams world policies numbers (closeUnused numbers table) = some streams ∧
      next = closeFdsExcept world.calls world.maximum numbers.controlWrite numbers.interpreter
        ((streams.close numbers.readyWrite).close numbers.startRead) := by
  simp only [childDescriptors, Option.bind_eq_bind, Option.bind_eq_some_iff] at done
  rcases done with ⟨streams, set, rest⟩
  exact ⟨streams, set, (Option.some.inj rest).symm⟩

end Streams

section AtExec

variable {limit : Nat} {interpreter : Inode} {world : ChildWorld} {policies : StreamPolicies}
  {numbers : Numbers} {table opened next : Descriptors}

/-- A standard descriptor up to the interpreter's number that is in use at the fork is
as declared when the child closes the rest. -/
theorem streams_of_opened {streams : Descriptors} {fd : Nat}
    (spec : Opened interpreter numbers table opened)
    (set : setStreams world policies numbers (closeUnused numbers opened) = some streams)
    (small : fd < 3) (low : fd ≤ numbers.interpreter) (used : opened.isOpen fd = true) :
    ((streams.close numbers.readyWrite).close numbers.startRead).entry fd =
      declaredEntry world policies fd := by
  have below : ∀ other ∈ numbers.pipeEnds, fd < other := by
    intro other member
    exact Nat.lt_of_le_of_lt low (spec.above other member)
  have kept : fd ∉ numbers.closedEnds := by
    intro member
    have pipe : fd ∈ numbers.pipeEnds := by
      simp only [Numbers.closedEnds, List.mem_cons, List.not_mem_nil, or_false] at member
      simp only [Numbers.pipeEnds, List.mem_cons, List.not_mem_nil, or_false]
      tauto
    exact absurd (below fd pipe) (Nat.lt_irrefl fd)
  have outputKept : (closeUnused numbers opened).entry numbers.outputWrite = _ :=
    closeUnused_entry (spec.disjoint numbers.outputWrite (by simp [Numbers.usedEnds]))
  have errorKept : (closeUnused numbers opened).entry numbers.errorWrite = _ :=
    closeUnused_entry (spec.disjoint numbers.errorWrite (by simp [Numbers.usedEnds]))
  rw [closeHandshake_entry kept]
  apply (setStreams_stream set small (below _ (by simp [Numbers.pipeEnds]))
    (below _ (by simp [Numbers.pipeEnds])) (outputKept.trans spec.outputEntry)
    (errorKept.trans spec.errorEntry)).2
  rw [DescriptorTable.isOpen, closeUnused_entry kept]
  exact used

/-- The interpreter's number and the pipes are free before, the standard descriptors not. -/
theorem interpreter_above (spec : Opened interpreter numbers table opened)
    (standard : ∀ fd, fd < 3 → table.isOpen fd = true) : 3 ≤ numbers.interpreter := by
  by_contra small
  have used := standard _ (Nat.lt_of_not_le small)
  rw [DescriptorTable.isOpen, spec.vacant] at used
  exact Bool.false_ne_true used

/-- With the standard descriptors in use from the start, everything is where it belongs. -/
theorem entries_of_standard (spec : Opened interpreter numbers table opened)
    (done : childDescriptors world policies numbers opened = some next)
    (standard : ∀ fd, fd < 3 → table.isOpen fd = true) :
    (∀ fd, fd < 3 → next.entry fd = declaredEntry world policies fd) ∧
      next.entry numbers.controlWrite = some ⟨.writeEnd .control, true⟩ ∧
      next.entry numbers.interpreter = some ⟨.file interpreter, true⟩ := by
  have interpreterAbove := interpreter_above spec standard
  have controlAbove : numbers.interpreter < numbers.controlWrite :=
    spec.above _ (by simp [Numbers.pipeEnds])
  rcases childDescriptors_inv done with ⟨streams, set, rfl⟩
  -- The two descriptors handed on lie above the streams, so nothing replaces them.
  have handed : ∀ fd ∈ numbers.usedEnds, 3 ≤ fd →
      ((streams.close numbers.readyWrite).close numbers.startRead).entry fd =
        opened.entry fd := by
    intro fd member above
    have kept := spec.disjoint fd member
    rw [closeHandshake_entry kept, setStreams_frame set above, closeUnused_entry kept]
  refine ⟨?_, ?_, ?_⟩
  · intro fd small
    rw [entry_closeFdsExcept _ _ (by omega) interpreterAbove (by unfold Kept; omega)]
    apply streams_of_opened spec set small (by omega)
    have outside : fd ∉ numbers.interpreter :: numbers.pipeEnds := by
      intro member
      rcases List.mem_cons.mp member with same | pipe
      · omega
      · have above := spec.above fd pipe
        omega
    rw [DescriptorTable.isOpen, spec.others fd outside]
    exact standard fd small
  · rw [entry_closeFdsExcept _ _ (by omega) interpreterAbove (by unfold Kept; omega),
      handed _ (by simp [Numbers.usedEnds]) (by omega), spec.controlEntry]
  · rw [entry_closeFdsExcept _ _ (by omega) interpreterAbove (by unfold Kept; omega),
      handed _ (by simp [Numbers.usedEnds]) interpreterAbove, spec.interpreterEntry]

/-- An interpreter with the number of a standard stream is replaced by that stream. -/
theorem interpreter_replaced (spec : Opened interpreter numbers table opened)
    (done : childDescriptors world policies numbers opened = some next)
    (small : numbers.interpreter < 3) :
    next.entry numbers.interpreter = none ∨
      next.entry numbers.interpreter = declaredEntry world policies numbers.interpreter := by
  rcases childDescriptors_inv done with ⟨streams, set, rfl⟩
  have used : opened.isOpen numbers.interpreter = true := by
    rw [DescriptorTable.isOpen, spec.interpreterEntry]
    rfl
  rw [← streams_of_opened spec set small (Nat.le_refl _) used]
  apply entry_closeFdsExcept_or

/-- What the interpreter's number refers to at `execveat`, if anything. -/
theorem interpreter_object {handle : Handle} (spec : Opened interpreter numbers table opened)
    (done : childDescriptors world policies numbers opened = some next)
    (object : next.object numbers.interpreter = some handle) :
    handle = .file interpreter ∨
      declaredHandle world policies numbers.interpreter = some handle := by
  by_cases small : numbers.interpreter < 3
  · right
    rcases interpreter_replaced spec done small with lost | replaced
    · simp [DescriptorTable.object, lost] at object
    · simpa [DescriptorTable.object, replaced, declaredEntry, Function.comp_def] using object
  · left
    have standard : ∀ fd, fd < 3 → table.isOpen fd = true := by
      intro fd below
      exact spec.lowest fd (by omega)
    have executable := (entries_of_standard spec done standard).2.2
    rw [DescriptorTable.object, executable] at object
    exact (Option.some.inj object).symm

theorem descriptorsAtExec_inv
    (reached : descriptorsAtExec limit interpreter world policies table = some (numbers, next)) :
    ∃ opened, Opened interpreter numbers table opened ∧
      childDescriptors world policies numbers opened = some next := by
  simp only [descriptorsAtExec, Option.bind_eq_bind, Option.bind_eq_some_iff,
    Prod.exists] at reached
  rcases reached with ⟨found, opened, opening, child, done, same⟩
  rcases Prod.mk.inj (Option.some.inj same) with ⟨rfl, rfl⟩
  exact ⟨opened, openDescriptors_spec opening, done⟩

end AtExec

/-! ## The declared streams -/

/-- A descriptor refers to the null device. -/
def RefersToNull (table : Descriptors) (fd : Nat) : Prop :=
  ∃ inode, table.object fd = some (.file inode) ∧ inode.kind = .nullDevice

/-- Standard input after `exec`. -/
def InputDeclared (policy : StdinPolicy) (table : Descriptors) : Prop :=
  match policy with
  | .closed => table.entry 0 = none
  | .nullDevice => RefersToNull table 0

/-- An output stream after `exec`. -/
def OutputDeclared (policy : StreamPolicy) (pipe : PipeName) (fd : Nat) (table : Descriptors) :
    Prop :=
  match policy with
  | .captureComplete => table.object fd = some (.writeEnd pipe)
  | .discard => RefersToNull table fd

/-- The program gets the declared streams, and the child still has the control pipe and
the interpreter under the numbers it was given. -/
structure StreamsDeclared (policies : StreamPolicies) (interpreter : Inode) (numbers : Numbers)
    (table : Descriptors) : Prop where
  input : InputDeclared policies.standardInput table.exec
  output : OutputDeclared policies.standardOutput .output 1 table.exec
  error : OutputDeclared policies.standardError .error 2 table.exec
  control : table.object numbers.controlWrite = some (.writeEnd .control)
  executable : table.object numbers.interpreter = some (.file interpreter)

theorem outputDeclared_of_entry {policy : StreamPolicy} {pipe : PipeName} {device : Inode}
    {fd : Nat} {table : Descriptors} (null : device.kind = .nullDevice)
    (arrived : table.entry fd = some ⟨streamHandle policy pipe device, false⟩) :
    OutputDeclared policy pipe fd table.exec := by
  have survives := table.object_exec arrived
  cases policy with
  | captureComplete => exact survives
  | discard => exact ⟨device, survives, null⟩

theorem inputDeclared_of_entry {policy : StdinPolicy} {device : Inode} {table : Descriptors}
    (null : device.kind = .nullDevice)
    (arrived : table.entry 0 = (inputHandle policy device).map fun handle => ⟨handle, false⟩) :
    InputDeclared policy table.exec := by
  cases policy with
  | closed =>
      have unused : table.entry 0 = none := arrived
      simp [InputDeclared, DescriptorTable.exec, unused]
  | nullDevice => exact ⟨device, table.object_exec arrived, null⟩

/-- No standard stream is a regular file while `/dev/null` is the null device. -/
theorem declaredHandle_ne_regular {world : ChildWorld} {inode : Inode}
    (null : ∀ fd, (world.nullPath fd).kind = .nullDevice) (regular : inode.kind = .regular)
    (fd : Nat) (policies : StreamPolicies) :
    declaredHandle world policies fd ≠ some (.file inode) := by
  have distinct : ∀ number, world.nullPath number ≠ inode := by
    intro number same
    have kinds := null number
    rw [same, regular] at kinds
    exact FileKind.noConfusion kinds
  unfold declaredHandle
  split
  · cases policies.standardInput <;> simp [inputHandle, distinct]
  · cases policies.standardOutput <;> simp [streamHandle, distinct]
  · cases policies.standardError <;> simp [streamHandle, distinct]
  · simp

/-- The program starts with exactly the declared streams if and only if none of the
standard descriptors is free when `execute_backend` opens the interpreter. -/
theorem streamsDeclared_iff {limit : Nat} {interpreter : Inode} {world : ChildWorld}
    {policies : StreamPolicies} {table next : Descriptors} {numbers : Numbers}
    (null : ∀ fd, (world.nullPath fd).kind = .nullDevice)
    (reached : descriptorsAtExec limit interpreter world policies table = some (numbers, next)) :
    StreamsDeclared policies interpreter numbers next ↔
      ∀ fd, fd < 3 → table.isOpen fd = true := by
  rcases descriptorsAtExec_inv reached with ⟨opened, spec, done⟩
  constructor
  · intro declared fd small
    by_contra unused
    -- A free standard descriptor is taken by the interpreter, and its stream replaces it.
    have vacant : table.isOpen fd = false := by simpa using unused
    have low : numbers.interpreter ≤ fd := by
      by_contra above
      rw [spec.lowest fd (Nat.lt_of_not_le above)] at vacant
      exact Bool.noConfusion vacant
    have executable := declared.executable
    have foreign := declaredHandle_ne_regular null spec.regular numbers.interpreter policies
    rcases interpreter_replaced spec done (by omega) with lost | replaced
    · simp [DescriptorTable.object, lost] at executable
    · apply foreign
      simpa [DescriptorTable.object, replaced, declaredEntry, Function.comp_def] using executable
  · intro standard
    rcases entries_of_standard spec done standard with ⟨streams, control, executable⟩
    exact {
      input := inputDeclared_of_entry (null 0) (streams 0 (by omega))
      output := outputDeclared_of_entry (null 1) (streams 1 (by omega))
      error := outputDeclared_of_entry (null 2) (streams 2 (by omega))
      control := by simp [DescriptorTable.object, control]
      executable := by simp [DescriptorTable.object, executable] }

/-- A caller that has just these descriptors open. -/
def callerTable (fds : List Nat) : Descriptors where
  entry fd := if fd < numberBound ∧ fd ∈ fds then some ⟨.inherited fd, false⟩ else none
  bounded _ above := if_neg fun both => absurd both.1 (Nat.not_lt.mpr above)

/-- A host on which `/dev/null` is what it should be and `close_range` works. -/
def plainWorld : ChildWorld :=
  { limit := 16
    nullPath := fun _ => ⟨3, .nullDevice, []⟩
    calls := ⟨.closed, .closed, .closed⟩
    maximum := 1024 }

def shellInode : Inode := ⟨7, .regular, [0x7f, 0x45, 0x4c, 0x46]⟩

def capturePolicies : StreamPolicies := ⟨.nullDevice, .captureComplete, .captureComplete⟩

/-- With all three open the streams are as declared. -/
theorem streamsDeclared_caller :
    ∃ numbers next,
      descriptorsAtExec 16 shellInode plainWorld capturePolicies (callerTable [0, 1, 2]) =
        some (numbers, next) ∧
      StreamsDeclared capturePolicies shellInode numbers next := by
  have reached : (descriptorsAtExec 16 shellInode plainWorld capturePolicies
      (callerTable [0, 1, 2])).isSome = true := by decide
  rcases Option.isSome_iff_exists.mp reached with ⟨⟨numbers, next⟩, result⟩
  refine ⟨numbers, next, result, (streamsDeclared_iff (fun _ => rfl) result).mpr ?_⟩
  intro fd small
  have cases : fd = 0 ∨ fd = 1 ∨ fd = 2 := by omega
  rcases cases with rfl | rfl | rfl <;> decide

/-- A caller without standard input: the interpreter gets number 0, and the child
replaces it by the null device. -/
theorem streamsDeclared_fails_without_input :
    ∃ numbers next,
      descriptorsAtExec 16 shellInode plainWorld capturePolicies (callerTable [1, 2]) =
        some (numbers, next) ∧
      next.object numbers.interpreter = some (.file ⟨3, .nullDevice, []⟩) ∧
      ¬ StreamsDeclared capturePolicies shellInode numbers next := by
  have seen : (descriptorsAtExec 16 shellInode plainWorld capturePolicies
      (callerTable [1, 2])).map (fun handed => handed.2.object handed.1.interpreter) =
        some (some (.file ⟨3, .nullDevice, []⟩)) := by decide
  rcases Option.map_eq_some_iff.mp seen with ⟨⟨numbers, next⟩, result, object⟩
  refine ⟨numbers, next, result, object, ?_⟩
  intro declared
  have executable := declared.executable
  rw [object] at executable
  revert executable
  decide

end PkgexecLinux.Supervisor

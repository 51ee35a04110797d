import Mathlib.Data.List.Sort
import PkgexecLinux.Filesystem.Path
import PkgexecLinux.Interpreter.Digest

/-!
# Interpreter bindings

`interpreter_binding::inspect` names an interpreter after its contents, `make`
sorts the bindings of a backend, and `execute_backend` looks the requested one
up, opens its path again, hashes what it opened and hands the descriptor to the
child.  Other processes may change what a path refers to between any two of
these system calls: every call meets a world of its own.
-/

namespace PkgexecLinux.Interpreter

open Supervisor Foundation
open Filesystem (Path Name)

/-- What pathnames refer to at one moment. -/
structure World where
  /-- `std::filesystem::canonical`: the path, or the message of the error. -/
  canonical : List Char → Except String Path
  /-- `lstat`: whether the path is a symbolic link, unless the call fails. -/
  lstat : List Name → Option Bool
  stat : Path → Option Inode
  /-- `access` with `X_OK`. -/
  executable : Path → Bool
  /-- `open` without following a final link: the file, or the error. -/
  openFile : Path → Except UInt32 Inode

/-- `interpreter_binding`. -/
structure Binding where
  identity : Hex
  executable : Path
  contentDigest : Hex
  deriving DecidableEq, Repr

/-- The text of a path. -/
def pathText (path : Path) : String :=
  String.ofList
    (if path.names = [] then ['/']
    else path.names.flatMap (fun name => '/' :: name) ++ if path.trailing then ['/'] else [])

variable (hash : IncrementalHash) (strerror : UInt32 → String)

/-! ## Inspection -/

/-- The loop of `path_has_symlink_component`, one moment for each component. -/
def hasSymlinkFrom (worlds : Nat → World) : Nat → List Name → List Name → Bool
  | _, _, [] => false
  | moment, current, name :: rest =>
      match (worlds moment).lstat (current ++ [name]) with
      | none => true
      | some true => true
      | some false => hasSymlinkFrom worlds (moment + 1) (current ++ [name]) rest

/-- `digest_file`. -/
def digestFile (world : World) (reads : List ReadAnswer) (path : Path) : Except Stop Hex :=
  match world.openFile path with
  | .error errno =>
      .error (.thrown (inspectionFailed (errnoMessage strerror "open interpreter" errno)))
  | .ok inode =>
      if inode.kind ≠ .regular then
        .error (.thrown (inspectionFailed "interpreter descriptor is not a regular file"))
      else digestFd hash strerror inode reads

/-- `interpreter_binding::inspect`, in worlds that succeed one another. -/
def inspect (worlds : Nat → World) (reads : List ReadAnswer) (text : List Char) :
    Except Stop Binding :=
  if text.head? ≠ some '/' then
    .error (.thrown ⟨.invalidValue, "interpreter path must be absolute"⟩)
  else
    match (worlds 0).canonical text with
    | .error message =>
        .error (.thrown (inspectionFailed
          ("cannot resolve interpreter " ++ String.ofList text ++ ": " ++ message)))
    | .ok path =>
        let moment := path.names.length + 1
        if hasSymlinkFrom worlds 1 [] path.names then
          .error (.thrown (inspectionFailed
            "resolved interpreter path contains a symlink component"))
        else if ((worlds moment).stat path).all fun inode => decide (inode.kind ≠ .regular) then
          .error (.thrown (inspectionFailed
            ("interpreter is not a regular file: " ++ pathText path)))
        else if !(worlds (moment + 1)).executable path then
          .error (.thrown (inspectionFailed ("interpreter is not executable: " ++ pathText path)))
        else
          match digestFile hash strerror (worlds (moment + 2)) reads path with
          | .error stop => .error stop
          | .ok digest =>
              match interpreterIdentity hash digest with
              | .error failure => .error (.thrown failure)
              | .ok identity => .ok ⟨identity, path, digest⟩

/-- The binding was produced by an inspection, in whatever worlds. -/
def Inspected (binding : Binding) : Prop :=
  ∃ strerror worlds reads text, inspect hash strerror worlds reads text = .ok binding

/-! ## The bindings of a backend -/

/-- The order of bindings: by identity, then executable, then digest. -/
def Binding.precedes (left right : Binding) : Bool :=
  decide (left.identity < right.identity) ||
    (left.identity == right.identity &&
      (decide (left.executable.components < right.executable.components) ||
        (left.executable.components == right.executable.components &&
          !decide (right.contentDigest < left.contentDigest))))

/-- Two neighbours with one identity. -/
def hasDuplicate : List Binding → Bool
  | first :: second :: rest =>
      first.identity == second.identity || hasDuplicate (second :: rest)
  | _ => false

/-- `make`, up to the probe of the host. -/
def make (interpreters : List Binding) : Except Failure (List Binding) :=
  if interpreters = [] then
    .error ⟨.invalidValue, "at least one exact interpreter binding is required"⟩
  else
    let sorted := interpreters.insertionSort fun left right => left.precedes right
    if hasDuplicate sorted then .error ⟨.duplicateInterpreter, "duplicate interpreter identity"⟩
    else .ok sorted

/-- `find_interpreter`: the lower bound of the identity, if it has that identity. -/
def findInterpreter (values : List Binding) (identity : Hex) : Option Binding :=
  match values.dropWhile fun binding => decide (binding.identity < identity) with
  | [] => none
  | found :: _ => if found.identity = identity then some found else none

/-- A backend: its bindings were inspected and accepted by `make`. -/
structure Backend where
  given : List Binding
  inspected : ∀ binding ∈ given, Inspected hash binding
  interpreters : List Binding
  made : make given = .ok interpreters

/-! ## Execution -/

/-- Why the interpreter is not admitted: the diagnostic of the result, or reads that are
still to come. -/
inductive Refusal where
  | refused (diagnostic : String)
  | reading
  deriving DecidableEq, Repr

/-- The interpreter admission of `execute_backend`, in the world of its `open`. -/
def admitInterpreter (interpreters : List Binding) (requested : Hex) (world : World)
    (reads : List ReadAnswer) : Except Refusal Inode :=
  match findInterpreter interpreters requested with
  | none => .error (.refused "no exact interpreter binding matches the request")
  | some configured =>
      match world.openFile configured.executable with
      | .error errno => .error (.refused (errnoMessage strerror "open interpreter" errno))
      | .ok inode =>
          if inode.kind ≠ .regular then
            .error (.refused "interpreter descriptor is not a regular file")
          else
            match digestFd hash strerror inode reads with
            | .error .reading => .error .reading
            | .error (.thrown failure) => .error (.refused failure.message)
            | .ok observed =>
                if observed ≠ configured.contentDigest then
                  .error (.refused "interpreter bytes changed after admission")
                else
                  match interpreterIdentity hash observed with
                  | .error failure => .error (.refused failure.message)
                  | .ok identity =>
                      if identity ≠ configured.identity then
                        .error (.refused "interpreter bytes changed after admission")
                      else .ok inode

/-- What one execution meets besides the request: the world in which it opens the
interpreter, the answers to its reads, the caller's descriptors and the child's world. -/
structure Launch where
  world : World
  reads : List ReadAnswer
  limit : Nat
  table : Descriptors
  policies : StreamPolicies
  child : ChildWorld

/-- The file that the child's `execveat` runs.  Only regular files are executed. -/
def executed (interpreters : List Binding) (requested : Hex) (launch : Launch) : Option Inode :=
  match admitInterpreter hash strerror interpreters requested launch.world launch.reads with
  | .error _ => none
  | .ok inode =>
      match descriptorsAtExec launch.limit inode launch.child launch.policies launch.table with
      | none => none
      | some (numbers, table) =>
          match table.object numbers.interpreter with
          | some (.file file) => if file.kind = .regular then some file else none
          | _ => none

variable {hash} {strerror}

theorem findInterpreter_identity {values : List Binding} {requested : Hex} {found : Binding}
    (present : findInterpreter values requested = some found) : found.identity = requested := by
  unfold findInterpreter at present
  split at present
  · cases present
  · split at present
    next same =>
      cases present
      exact same
    next => cases present

/-- What has been found of a file that is admitted. -/
theorem admitInterpreter_eq_ok {interpreters : List Binding} {requested : Hex} {world : World}
    {reads : List ReadAnswer} {inode : Inode} :
    admitInterpreter hash strerror interpreters requested world reads = .ok inode ↔
      ∃ configured, findInterpreter interpreters requested = some configured ∧
        world.openFile configured.executable = .ok inode ∧ inode.kind = .regular ∧
        digestFd hash strerror inode reads = .ok configured.contentDigest ∧
        interpreterIdentity hash configured.contentDigest = .ok configured.identity := by
  constructor
  · intro admitted
    unfold admitInterpreter at admitted
    split at admitted
    · cases admitted
    next configured present =>
    split at admitted
    · cases admitted
    next file opened =>
    split at admitted
    · cases admitted
    next regular =>
    split at admitted
    · cases admitted
    · cases admitted
    next observed digest =>
    split at admitted
    · cases admitted
    next unchanged =>
    obtain rfl : observed = configured.contentDigest := not_not.mp unchanged
    split at admitted
    · cases admitted
    next identity computed =>
    split at admitted
    · cases admitted
    next same =>
      cases admitted
      rw [not_not.mp same] at computed
      exact ⟨configured, present, opened, not_not.mp regular, digest, computed⟩
  · rintro ⟨configured, present, opened, regular, digest, computed⟩
    simp [admitInterpreter, present, opened, regular, digest, computed]

/-- An admitted file has the contents that the request names. -/
theorem admitInterpreter_identity {interpreters : List Binding} {requested : Hex}
    {world : World} {reads : List ReadAnswer} {inode : Inode}
    (admitted : admitInterpreter hash strerror interpreters requested world reads = .ok inode) :
    identityOf hash inode.bytes = requested := by
  rcases admitInterpreter_eq_ok.mp admitted with ⟨configured, present, _, _, digest, computed⟩
  rw [digestFd_spec digest] at computed
  rw [← interpreterIdentity_spec computed, findInterpreter_identity present]

/-- The interpreter's descriptor is not replaced by a file: its number, the lowest free
one, is none of the standard streams, or that stream is not made a regular file. -/
def InterpreterKept (launch : Launch) : Prop :=
  ∀ fd, launch.table.isOpen fd = false →
    (∀ lower, lower < fd → launch.table.isOpen lower = true) →
    ∀ file, declaredHandle launch.child launch.policies fd = some (.file file) →
      file.kind ≠ .regular

/-- Only the requested interpreter's bytes are executed. -/
theorem executed_identity (backend : Backend hash) {requested : Hex} {launch : Launch}
    {file : Inode} (kept : InterpreterKept launch)
    (runs : executed hash strerror backend.interpreters requested launch = some file) :
    identityOf hash file.bytes = requested := by
  unfold executed at runs
  split at runs
  · cases runs
  next inode admitted =>
    split at runs
    · cases runs
    next numbers table reached =>
      split at runs
      next other object =>
        split at runs
        next regular =>
          cases runs
          rcases descriptorsAtExec_inv reached with ⟨opened, spec, done⟩
          rcases interpreter_object spec done object with same | replaced
          · cases same
            exact admitInterpreter_identity admitted
          · have vacant : launch.table.isOpen numbers.interpreter = false := by
              simp [DescriptorTable.isOpen, spec.vacant]
            exact absurd regular (kept _ vacant spec.lowest _ replaced)
        next => cases runs
      next => cases runs

/-! ## An execution that keeps its interpreter, and one that does not -/

def shellBytes : List UInt8 := [0x73, 0x68]

def otherBytes : List UInt8 := [0x6e, 0x6f]

/-- SHA-256 of `shellBytes`. -/
def shellDigest : List UInt8 :=
    [0x89, 0xc4, 0xec, 0x9f, 0x6b, 0x3f, 0x10, 0x86, 0xb1, 0x58, 0xd8, 0xef, 0x03, 0xdf, 0xe8,
      0x15, 0x5e, 0x6f, 0x79, 0xd9, 0xe6, 0x64, 0x34, 0xb8, 0xf9, 0xb3, 0x43, 0x2f, 0xe8, 0x72,
      0x0e, 0x50]

/-- SHA-256 of the identity text of `shellBytes`. -/
def shellIdentity : List UInt8 :=
    [0xc9, 0xa1, 0x69, 0xd7, 0xa5, 0x33, 0x62, 0xe4, 0xfc, 0xcd, 0x39, 0xca, 0x3a, 0x83, 0x5d,
      0x4f, 0x07, 0xca, 0xe3, 0xb0, 0x7f, 0x28, 0x02, 0x58, 0xfe, 0x4d, 0x04, 0x0b, 0x40, 0x80,
      0xb9, 0x3f]

/-- SHA-256 of `otherBytes`. -/
def otherDigest : List UInt8 :=
    [0x93, 0x90, 0x29, 0x8f, 0x3f, 0xb0, 0xc5, 0xb1, 0x60, 0x49, 0x89, 0x35, 0xd7, 0x9c, 0xb1,
      0x39, 0xae, 0xf2, 0x8e, 0x1c, 0x47, 0x35, 0x8b, 0x4b, 0xbb, 0xa6, 0x18, 0x62, 0xb9, 0xc2,
      0x6e, 0x59]

/-- SHA-256 of the identity text of `otherBytes`. -/
def otherIdentity : List UInt8 :=
    [0xc3, 0x53, 0x0b, 0x70, 0x35, 0xb8, 0x01, 0x1c, 0x97, 0xe6, 0x02, 0x75, 0xfb, 0xb1, 0x27,
      0xd4, 0xa7, 0x63, 0xba, 0x5a, 0xfc, 0x63, 0x11, 0x6d, 0x2b, 0x2e, 0x1f, 0xd4, 0xdd, 0x7e,
      0x10, 0xc8]

/-- SHA-256 on the four texts that the executions below hash. -/
def knownSha256 (bytes : List UInt8) : List UInt8 :=
  if bytes = shellBytes then shellDigest
  else if bytes = otherBytes then otherDigest
  else if bytes = asciiBytes identityDomain ++ 0 :: asciiBytes (hexBytes shellDigest) then
    shellIdentity
  else if bytes = asciiBytes identityDomain ++ 0 :: asciiBytes (hexBytes otherDigest) then
    otherIdentity
  else List.replicate 32 0

theorem collect_chunks (chunks : List (List UInt8)) (context : List UInt8) :
    chunks.foldlM (fun context data => some (context ++ data)) context =
      some (context ++ chunks.flatten) := by
  induction chunks generalizing context with
  | nil => simp
  | cons chunk chunks ih =>
      rw [List.foldlM_cons, Option.bind_eq_bind, Option.bind_some, ih]
      simp

/-- A hash that collects its chunks and looks the digest up at the end. -/
def knownHash : IncrementalHash where
  Context := List UInt8
  init := some []
  update context data := some (context ++ data)
  final context := some (knownSha256 context)
  sha256 := knownSha256
  composes := by
    intro first last chunks digest initial folded final
    cases initial
    rw [collect_chunks, Option.some.injEq, List.nil_append] at folded
    rw [folded]
    exact (Option.some.inj final).symm

def shellPath : Path := ⟨[['s', 'h']], false⟩

def shellFile : Inode := ⟨7, .regular, shellBytes⟩

def otherFile : Inode := ⟨9, .regular, otherBytes⟩

/-- A world in which every path is the shell. -/
def shellWorld : World :=
  { canonical := fun _ => .ok shellPath
    lstat := fun _ => some false
    stat := fun _ => some shellFile
    executable := fun _ => true
    openFile := fun _ => .ok shellFile }

/-- Reads of one byte, an interruption, the rest and the end. -/
def brokenReads : List ReadAnswer := [.took 1, .interrupted, .took 8, .took 8]

def shellBinding : Binding := ⟨hexBytes shellIdentity, shellPath, hexBytes shellDigest⟩

def shellBackend : Backend knownHash where
  given := [shellBinding]
  inspected := by
    intro binding member
    rw [List.mem_singleton.mp member]
    exact ⟨fun _ => "", fun _ => shellWorld, brokenReads, ['/', 's', 'h'], by rfl⟩
  interpreters := [shellBinding]
  made := by rfl

/-- A caller with these descriptors; the child finds `device` at `/dev/null`. -/
def shellLaunch (fds : List Nat) (device : Inode) : Launch :=
  { world := shellWorld
    reads := brokenReads
    limit := 16
    table := callerTable fds
    policies := capturePolicies
    child := { plainWorld with nullPath := fun _ => device } }

theorem executed_identity_shell :
    executed knownHash (fun _ => "") shellBackend.interpreters (hexBytes shellIdentity)
        (shellLaunch [0, 1, 2] otherFile) = some shellFile ∧
      identityOf knownHash shellFile.bytes = hexBytes shellIdentity := by
  have kept : InterpreterKept (shellLaunch [0, 1, 2] otherFile) := by
    intro fd vacant
    match fd with
    | 0 => exact absurd vacant (by decide)
    | 1 => exact absurd vacant (by decide)
    | 2 => exact absurd vacant (by decide)
    | fd + 3 =>
        intro _ file declared
        simp [declaredHandle] at declared
  have runs : executed knownHash (fun _ => "") shellBackend.interpreters
      (hexBytes shellIdentity) (shellLaunch [0, 1, 2] otherFile) = some shellFile := by
    decide
  exact ⟨runs, executed_identity shellBackend kept runs⟩

/-- A caller without standard input gives the interpreter number 0; with `/dev/null`
replaced by a program, the child executes that program instead. -/
theorem executed_other_without_input :
    executed knownHash (fun _ => "") shellBackend.interpreters (hexBytes shellIdentity)
        (shellLaunch [1, 2] otherFile) = some otherFile ∧
      identityOf knownHash otherFile.bytes ≠ hexBytes shellIdentity := by
  constructor <;> decide

end PkgexecLinux.Interpreter

import PkgexecLinux.Foundation.Checks
import PkgexecLinux.Supervisor.Outcome
import PkgexecLinux.Supervisor.Streams

/-!
# Digests of opened files

`digest_fd` reads a file with `pread` in pieces of any size and hashes them one
after the other; `interpreter_identity` hashes the digest's text again under a
domain of its own.  SHA-256 is the library's: here it is an incremental hash
that may fail at every call and whose chunks compose when it does not.
-/

namespace PkgexecLinux.Interpreter

open Supervisor Foundation

/-- `error_code`. -/
inductive ErrorCode where
  | invalidValue
  | duplicateInterpreter
  | interpreterInspectionFailed
  | unsupportedPlatform
  deriving DecidableEq, Repr

/-- `error`. -/
structure Failure where
  code : ErrorCode
  message : String
  deriving DecidableEq, Repr

/-- An incremental hash whose calls may fail.  Whatever succeeds gives the hash of the
chunks put together. -/
structure IncrementalHash where
  Context : Type
  init : Option Context
  update : Context → List UInt8 → Option Context
  final : Context → Option (List UInt8)
  sha256 : List UInt8 → List UInt8
  composes : ∀ {first last : Context} {chunks : List (List UInt8)} {digest : List UInt8},
    init = some first → chunks.foldlM update first = some last → final last = some digest →
      digest = sha256 chunks.flatten

/-- The text of a digest or an identity. -/
abbrev Hex := List Char

def hexDigit (value : Nat) : Char :=
  if value < 10 then Char.ofNat (value + 48) else Char.ofNat (value + 87)

/-- `hex_bytes`. -/
def hexBytes (bytes : List UInt8) : Hex :=
  bytes.flatMap fun byte => [hexDigit (byte.toNat / 16), hexDigit (byte.toNat % 16)]

def inspectionFailed (message : String) : Failure := ⟨.interpreterInspectionFailed, message⟩

variable (hash : IncrementalHash)

/-! ## One digest -/

/-- A fresh context. -/
def newContext : Except Failure hash.Context :=
  match hash.init with
  | some context => .ok context
  | none => .error (inspectionFailed "SHA-256 initialization failed")

/-- `update`. -/
def update (context : hash.Context) (data : List UInt8) : Except Failure hash.Context :=
  if data = [] then .ok context
  else
    match hash.update context data with
    | some next => .ok next
    | none => .error (inspectionFailed "SHA-256 update failed")

/-- The end of a digest; SHA-256 gives 32 bytes. -/
def finalize (context : hash.Context) : Except Failure Hex :=
  match hash.final context with
  | some digest =>
      if digest.length = 32 then .ok (hexBytes digest)
      else .error (inspectionFailed "SHA-256 finalization failed")
  | none => .error (inspectionFailed "SHA-256 finalization failed")

/-- `sha256_hex`. -/
def sha256Hex (domain material : List UInt8) : Except Failure Hex := do
  let context ← newContext hash
  let context ← update hash context domain
  let context ← update hash context [0]
  let context ← update hash context material
  finalize hash context

/-- The context has been fed `bytes`, in chunks of any size. -/
def Fed (context : hash.Context) (bytes : List UInt8) : Prop :=
  ∃ (first : hash.Context) (chunks : List (List UInt8)), hash.init = some first ∧
    chunks.foldlM hash.update first = some context ∧ chunks.flatten = bytes

variable {hash}

theorem newContext_fed {context : hash.Context} (started : newContext hash = .ok context) :
    Fed hash context [] := by
  unfold newContext at started
  cases initial : hash.init with
  | none =>
      rw [initial] at started
      cases started
  | some first =>
      rw [initial] at started
      cases started
      exact ⟨context, [], initial, rfl, rfl⟩

theorem update_fed {context next : hash.Context} {bytes data : List UInt8}
    (fed : Fed hash context bytes) (updated : update hash context data = .ok next) :
    Fed hash next (bytes ++ data) := by
  unfold update at updated
  split at updated
  next empty =>
    cases updated
    rw [empty, List.append_nil]
    exact fed
  next =>
    split at updated
    next after success =>
      cases updated
      rcases fed with ⟨first, chunks, initial, folded, rfl⟩
      refine ⟨first, chunks ++ [data], initial, ?_, by simp⟩
      rw [List.foldlM_append, folded]
      simp [success]
    next => cases updated

theorem finalize_fed {context : hash.Context} {bytes : List UInt8} {digest : Hex}
    (fed : Fed hash context bytes) (finished : finalize hash context = .ok digest) :
    digest = hexBytes (hash.sha256 bytes) := by
  rcases fed with ⟨first, chunks, initial, folded, rfl⟩
  unfold finalize at finished
  split at finished
  next raw final =>
    split at finished
    · cases finished
      rw [hash.composes initial folded final]
    · cases finished
  next => cases finished

theorem sha256Hex_spec {domain material : List UInt8} {digest : Hex}
    (computed : sha256Hex hash domain material = .ok digest) :
    digest = hexBytes (hash.sha256 (domain ++ 0 :: material)) := by
  rcases bind_eq_ok.mp computed with ⟨first, started, computed⟩
  rcases bind_eq_ok.mp computed with ⟨second, fedDomain, computed⟩
  rcases bind_eq_ok.mp computed with ⟨third, fedZero, computed⟩
  rcases bind_eq_ok.mp computed with ⟨fourth, fedMaterial, finished⟩
  have fed := update_fed (update_fed (update_fed (newContext_fed started) fedDomain) fedZero)
    fedMaterial
  rw [finalize_fed fed finished]
  simp

/-! ## Reading a file -/

/-- How a `pread` ends.  `took` carries the length the kernel is willing to give. -/
inductive ReadAnswer where
  | interrupted
  | failed (errno : UInt32)
  | took (length : Nat)
  deriving DecidableEq, Repr

/-- Why a digest has no value: an exception, or reads that are still to come. -/
inductive Stop where
  | thrown (failure : Failure)
  | reading
  deriving DecidableEq, Repr

/-- The size of the buffer in `digest_fd`. -/
def bufferSize : Nat := 64 * 1024

/-- The count that `pread` returns: zero exactly at the end of the file. -/
def preadCount (size offset length : Nat) : Nat :=
  if size ≤ offset then 0 else max 1 (min length (min bufferSize (size - offset)))

/-- The loop of `digest_fd`. -/
def readLoop (hash : IncrementalHash) (strerror : UInt32 → String) (bytes : List UInt8) :
    List ReadAnswer → Nat → hash.Context → Except Stop hash.Context
  | [], _, _ => .error .reading
  | .interrupted :: reads, offset, context => readLoop hash strerror bytes reads offset context
  | .failed errno :: _, _, _ =>
      .error (.thrown (inspectionFailed (errnoMessage strerror "pread interpreter" errno)))
  | .took length :: reads, offset, context =>
      let count := preadCount bytes.length offset length
      if count = 0 then .ok context
      else
        match update hash context ((bytes.drop offset).take count) with
        | .ok next => readLoop hash strerror bytes reads (offset + count) next
        | .error failure => .error (.thrown failure)

/-- `digest_fd` on a descriptor of `inode`. -/
def digestFd (hash : IncrementalHash) (strerror : UInt32 → String) (inode : Inode)
    (reads : List ReadAnswer) : Except Stop Hex :=
  match newContext hash with
  | .error failure => .error (.thrown failure)
  | .ok context =>
      match readLoop hash strerror inode.bytes reads 0 context with
      | .error stop => .error stop
      | .ok last => (finalize hash last).mapError Stop.thrown

/-- The loop ends only when all of the file has been hashed. -/
theorem readLoop_fed {strerror : UInt32 → String} {bytes : List UInt8}
    {reads : List ReadAnswer} {offset : Nat} {context last : hash.Context}
    (fed : Fed hash context (bytes.take offset))
    (done : readLoop hash strerror bytes reads offset context = .ok last) :
    Fed hash last bytes := by
  induction reads generalizing offset context with
  | nil => cases done
  | cons answer reads ih =>
      cases answer with
      | interrupted => exact ih fed done
      | failed errno => cases done
      | took length =>
          simp only [readLoop] at done
          split at done
          next finished =>
            cases done
            have complete : bytes.length ≤ offset := by
              unfold preadCount at finished
              split at finished
              · assumption
              · omega
            rwa [List.take_of_length_le complete] at fed
          next =>
            split at done
            next next updated =>
              apply ih _ done
              rw [List.take_add]
              exact update_fed fed updated
            next => cases done

/-- The digest of a file is that of all its bytes, however they were read. -/
theorem digestFd_spec {strerror : UInt32 → String} {inode : Inode} {reads : List ReadAnswer}
    {digest : Hex} (computed : digestFd hash strerror inode reads = .ok digest) :
    digest = hexBytes (hash.sha256 inode.bytes) := by
  unfold digestFd at computed
  split at computed
  next => cases computed
  next context started =>
    split at computed
    next => cases computed
    next last done =>
      have fed := readLoop_fed (by simpa using newContext_fed started) done
      cases finished : finalize hash last with
      | error failure =>
          rw [finished] at computed
          cases computed
      | ok value =>
          rw [finished] at computed
          cases computed
          exact finalize_fed fed finished

/-! ## Identities -/

/-- The domain of `interpreter_identity`, `pkgexec-linux/interpreter/v1`. -/
def identityDomain : List Char :=
  ['p', 'k', 'g', 'e', 'x', 'e', 'c', '-', 'l', 'i', 'n', 'u', 'x', '/', 'i', 'n', 't', 'e', 'r',
    'p', 'r', 'e', 't', 'e', 'r', '/', 'v', '1']

def asciiBytes (text : List Char) : List UInt8 := text.map fun character => character.toUInt8

/-- `interpreter_identity`. -/
def interpreterIdentity (hash : IncrementalHash) (digest : Hex) : Except Failure Hex :=
  sha256Hex hash (asciiBytes identityDomain) (asciiBytes digest)

/-- The identity of an interpreter with these contents. -/
def identityOf (hash : IncrementalHash) (bytes : List UInt8) : Hex :=
  hexBytes (hash.sha256
    (asciiBytes identityDomain ++ 0 :: asciiBytes (hexBytes (hash.sha256 bytes))))

theorem interpreterIdentity_spec {bytes : List UInt8} {identity : Hex}
    (computed : interpreterIdentity hash (hexBytes (hash.sha256 bytes)) = .ok identity) :
    identity = identityOf hash bytes :=
  sha256Hex_spec computed

end PkgexecLinux.Interpreter

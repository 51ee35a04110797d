import PkgexecLinux.Network.Policy

/-!
# Incomplete dumps

A dump that the kernel could not finish ends with a negative status in its
`NLMSG_DONE`; one during which the links changed has `NLM_F_DUMP_INTR` in some of
its messages.  `inspect_links` refuses such a dump only for other reasons.
-/

namespace PkgexecLinux.Network

open Foundation Netlink

/-- `NLM_F_DUMP_INTR`. -/
def nlmFDumpIntr : UInt16 := 16

/-- The status in an `NLMSG_DONE`. -/
def doneStatus (done : Message) : Int := signed ((word32 done.payload 0).getD 0)

/-- A message of a dump during which the links changed. -/
def interruptsDump (message : Message) : Bool :=
  ofDump message && message.flags &&& nlmFDumpIntr != 0

/-- The dump has an end, and is incomplete. -/
def incomplete (arriving : List (Option Message)) : Bool :=
  match arriving.find? isDone with
  | some (some done) =>
      decide (doneStatus done < 0) || interruptsDump done ||
        (beforeDone arriving).any fun arrival => arrival.any interruptsDump
  | _ => false

/-- What arrives over the socket during an inspection. -/
def Socket.arriving (socket : Socket) : List (Option Message) :=
  arrivals dumpCapacity socket.receipts

/-- The links that the dump lists before its end. -/
def Socket.listedLinks (socket : Socket) : LinkSnapshot :=
  listed (beforeDone socket.arriving).reduceOption

theorem any_isDone_of_incomplete {arriving : List (Option Message)}
    (broken : incomplete arriving = true) : arriving.any isDone = true := by
  unfold incomplete at broken
  split at broken
  next done found => exact List.any_eq_true.mpr ⟨_, List.mem_of_find?_eq_some found,
    List.find?_some found⟩
  next => cases broken

/-- An inspection whose dump has an end. -/
theorem verdict_of_ended {socket : Socket} (requested : Requested socket)
    (ends : socket.arriving.any isDone = true) :
    (inspectLinks socket).verdict =
      if failsEarly socket.arriving then some none else some (some socket.listedLinks) := by
  rw [verdict_requested requested]
  exact foldArrivals_dump [] ends

/-- Whether an incomplete dump is refused: only if the request cannot be sent, or a failed
reception or an `NLMSG_ERROR` comes before the end. -/
theorem inspectLinks_refuses_iff (socket : Socket) :
    (incomplete socket.arriving = true → (inspectLinks socket).verdict = some none) ↔
      (incomplete socket.arriving = false ∨ RequestFails socket ∨
        Requested socket ∧ failsEarly socket.arriving = true) := by
  cases broken : incomplete socket.arriving with
  | false => simp
  | true =>
      have ends := any_isDone_of_incomplete broken
      simp only [forall_const, Bool.true_eq_false, false_or]
      constructor
      · intro refused
        rcases requested_or_fails refused with requested | fails
        · rw [verdict_of_ended requested ends] at refused
          split at refused
          next early => exact .inr ⟨requested, early⟩
          next => cases refused
        · exact .inl fails
      · rintro (fails | ⟨requested, early⟩)
        · exact verdict_requestFails fails
        · rw [verdict_of_ended requested ends, if_pos early]

/-- The second inspection of the setup, by its verdict. -/
theorem establishPolicy_refused {policy : NetworkPolicy} {socket : Socket} :
    (∃ failure, establishPolicy policy socket = .returned (some failure)) ↔
      (inspectLinks socket).verdict = some none ∨
        ∃ established, (inspectLinks socket).verdict = some (some established) ∧
          snapshotMatches established policy = false := by
  rw [establishPolicy]
  cases inspectLinks socket with
  | blocked | fault | unfinished => simp [Attempt.orFail, Attempt.verdict]
  | returned result after =>
      cases result with
      | error errno => simp [Attempt.orFail, Attempt.verdict]
      | ok established =>
          cases matching : snapshotMatches established policy <;>
            simp [Attempt.orFail, Attempt.verdict, matching]

/-- Whether a namespace with an incomplete dump is refused: if the inspection refuses, or
if the listed links do not match the policy. -/
theorem setup_refuses_iff {policy : NetworkPolicy} {script : NamespaceScript} {socket : Socket}
    (restricted : policy ≠ .allowed) (configured : Configured policy script socket) :
    (incomplete socket.arriving = true →
        ∃ failure, setupNetworkPolicy policy script = .returned (some failure)) ↔
      (incomplete socket.arriving = false ∨ RequestFails socket ∨
        Requested socket ∧ (failsEarly socket.arriving = true ∨
          snapshotMatches socket.listedLinks policy = false)) := by
  rw [setup_of_configured restricted configured, establishPolicy_refused]
  cases broken : incomplete socket.arriving with
  | false => simp
  | true =>
      have ends := any_isDone_of_incomplete broken
      simp only [forall_const, Bool.true_eq_false, false_or]
      constructor
      · rintro (refused | ⟨established, accepted, mismatch⟩)
        · rcases (inspectLinks_refuses_iff socket).mp (fun _ => refused) with
            complete | fails | ⟨requested, early⟩
          · rw [broken] at complete
            cases complete
          · exact .inl fails
          · exact .inr ⟨requested, .inl early⟩
        · rcases requested_or_fails accepted with requested | fails
          · rw [verdict_of_ended requested ends] at accepted
            split at accepted
            next => cases accepted
            next =>
              cases accepted
              exact .inr ⟨requested, .inr mismatch⟩
          · exact .inl fails
      · rintro (fails | ⟨requested, early | mismatch⟩)
        · exact .inl (verdict_requestFails fails)
        · rw [verdict_of_ended requested ends, if_pos early]
          exact .inl rfl
        · rw [verdict_of_ended requested ends]
          cases failsEarly socket.arriving with
          | true => exact .inl rfl
          | false => exact .inr ⟨_, rfl, mismatch⟩

/-- An incomplete dump is refused exactly if something else is wrong with it. -/
theorem incompleteDump_refused_iff (socket : Socket) :
    ((incomplete socket.arriving = true → (inspectLinks socket).verdict = some none) ↔
        (incomplete socket.arriving = false ∨ RequestFails socket ∨
          Requested socket ∧ failsEarly socket.arriving = true)) ∧
      ∀ policy script, policy ≠ .allowed → Configured policy script socket →
        ((incomplete socket.arriving = true →
            ∃ failure, setupNetworkPolicy policy script = .returned (some failure)) ↔
          (incomplete socket.arriving = false ∨ RequestFails socket ∨
            Requested socket ∧ (failsEarly socket.arriving = true ∨
              snapshotMatches socket.listedLinks policy = false))) := by
  refine ⟨inspectLinks_refuses_iff socket, ?_⟩
  intro policy script restricted configured
  exact setup_refuses_iff restricted configured

/-- `-EIO` as the status of a dump. -/
def failedStatus : UInt32 := 4294967291

/-- A dump of one link is as complete as its end says. -/
theorem incomplete_configuredSocket (status : UInt32) :
    incomplete (configuredSocket status).arriving =
      decide (doneStatus (dumpEnd status) < 0) := by
  obtain ⟨rest, arriving⟩ := arrivals_of_delivers (show dumpCapacity < 4294967296 by decide)
    (delivers_configuredSocket status)
  have link : isDone (some (loopbackLink iffLoopback)) = false := by decide
  have done : isDone (some (dumpEnd status)) = true := rfl
  have uninterrupted : interruptsDump (loopbackLink iffLoopback) = false := by decide
  have unmarked : (2 : UInt16) &&& nlmFDumpIntr = 0 := by decide
  have last : interruptsDump (dumpEnd status) = false := by
    simp [interruptsDump, dumpEnd, unmarked]
  rw [Socket.arriving, arriving]
  simp [incomplete, beforeDone, link, done, uninterrupted, last]

/-- The configuration of the fresh namespace. -/
theorem configured_freshNamespace (status : UInt32) :
    Configured .denied (freshNamespace status) (configuredSocket status) := by
  refine ⟨rfl, rfl, ⟨1, 1, 1, 8⟩, ⟨[dumpRequest], [.count 32, .count 32],
    [datagramOf [linkAck], datagramOf [loopbackLink iffLoopback, dumpEnd status]]⟩, ?_, ?_, ?_⟩
  · rfl
  · rfl
  · rfl

/-- The socket of such a namespace after a request to set its loopback up. -/
def raisedSocket (status : UInt32) : Socket :=
  { configuredSocket status with sent := [linkRequest 1 true, dumpRequest] }

/-- The loopback has stayed down, so that the namespace is refused for that. -/
theorem incompleteDump_refused_iff_down :
    incomplete (raisedSocket failedStatus).arriving = true ∧
      ∃ failure, setupNetworkPolicy .loopbackOnly (freshNamespace failedStatus) =
        .returned (some failure) := by
  have broken : incomplete (raisedSocket failedStatus).arriving = true := by
    rw [show (raisedSocket failedStatus).arriving = (configuredSocket failedStatus).arriving from
      rfl, incomplete_configuredSocket]
    decide
  have configured : Configured .loopbackOnly (freshNamespace failedStatus)
      (raisedSocket failedStatus) := by
    refine ⟨rfl, rfl, ⟨1, 1, 1, 8⟩, ⟨[dumpRequest], [.count 32, .count 32], [datagramOf [linkAck],
      datagramOf [loopbackLink iffLoopback, dumpEnd failedStatus]]⟩, ?_, ?_, ?_⟩
    · rfl
    · rfl
    · rfl
  have down : snapshotMatches (raisedSocket failedStatus).listedLinks .loopbackOnly = false := by
    decide +kernel
  exact ⟨broken, ((incompleteDump_refused_iff (raisedSocket failedStatus)).2 .loopbackOnly
    (freshNamespace failedStatus) (by decide) configured).mpr
      (.inr (.inr ⟨⟨[], rfl⟩, .inr down⟩)) broken⟩

/-- A dump that the kernel ended with an error is accepted, and so is the namespace. -/
theorem incompleteDump_accepted :
    Configured .denied (freshNamespace failedStatus) (configuredSocket failedStatus) ∧
      incomplete (configuredSocket failedStatus).arriving = true ∧
      (inspectLinks (configuredSocket failedStatus)).verdict = some (some ⟨1, 1, 1, 8⟩) ∧
      setupNetworkPolicy .denied (freshNamespace failedStatus) = .returned none := by
  refine ⟨configured_freshNamespace failedStatus, ?_, ?_, ?_⟩
  · rw [incomplete_configuredSocket]
    decide
  · rfl
  · decide +kernel

end PkgexecLinux.Network

import PkgexecLinux.Network.Dump

/-!
# The accepted network policy

`setup_network_policy` accepts a namespace by the dump it takes after the
configuration.  How the kernel packs that dump into datagrams makes no
difference.  The counters of the snapshot have 32 bits, and neither the status of
`NLMSG_DONE` nor the mark of an interrupted dump is looked at.
-/

namespace PkgexecLinux.Network

open Foundation Netlink

/-! ## One inspection -/

/-- The dump request has been sent. -/
def Requested (socket : Socket) : Prop :=
  ∃ sends, sendLoop dumpRequest.size socket.sends = some (.ok (), sends)

/-- Sending the dump request fails. -/
def RequestFails (socket : Socket) : Prop :=
  ∃ errno sends, sendLoop dumpRequest.size socket.sends = some (.error errno, sends)

/-- Whatever the kernel sends, no field is read outside of it and every walk ends. -/
theorem broken_inspectLinks (socket : Socket) : (inspectLinks socket).broken = false := by
  apply broken_andThen (broken_sendNetlink socket dumpRequest)
  intro _ requested
  exact (receive_verdict (by decide) inspectBody_handles requested requested.receipts .empty).2

theorem verdict_requested {socket : Socket} (requested : Requested socket) :
    (inspectLinks socket).verdict =
      foldArrivals inspectMessage (arrivals dumpCapacity socket.receipts) (listed []) := by
  obtain ⟨sends, sent⟩ := requested
  have received := (receive_verdict (show dumpCapacity < 2147483640 by decide)
    inspectBody_handles { socket with sends, sent := dumpRequest :: socket.sent }
    socket.receipts LinkSnapshot.empty).1
  simp only [inspectLinks, sendNetlink, sent, Attempt.andThen]
  exact received

theorem verdict_requestFails {socket : Socket} (fails : RequestFails socket) :
    (inspectLinks socket).verdict = some none := by
  obtain ⟨errno, sends, sent⟩ := fails
  simp only [inspectLinks, sendNetlink, sent, Attempt.andThen, Attempt.verdict]

/-- An inspection that returns has sent its request, or failed to. -/
theorem requested_or_fails {socket : Socket} {result : Option LinkSnapshot}
    (returned : (inspectLinks socket).verdict = some result) :
    Requested socket ∨ RequestFails socket := by
  cases answer : sendLoop dumpRequest.size socket.sends with
  | none => simp [inspectLinks, sendNetlink, answer, Attempt.andThen, Attempt.verdict] at returned
  | some answered =>
      rcases answered with ⟨result, sends⟩
      cases result with
      | error errno => exact .inr ⟨errno, sends, answer⟩
      | ok _ => exact .inl ⟨sends, answer⟩

theorem exists_returned {Result : Type} {attempt : Attempt Result} {result : Result}
    (accepted : attempt.verdict = some (some result)) :
    ∃ after, attempt = .returned (.ok result) after := by
  cases attempt with
  | blocked | fault | unfinished => cases accepted
  | returned outcome after =>
      cases outcome with
      | error errno => cases accepted
      | ok found =>
          cases accepted
          exact ⟨after, rfl⟩

/-! ## Dumps in datagrams -/

/-- The receptions begin with the messages of a dump, packed into datagrams that fit the
buffer. -/
inductive Delivers (capacity : Nat) : List Receipt → List Message → Prop where
  | nil (receipts : List Receipt) : Delivers capacity receipts []
  | interrupted {receipts : List Receipt} {dump : List Message} :
      Delivers capacity receipts dump → Delivers capacity (.interrupted :: receipts) dump
  | datagram {receipts : List Receipt} {dump : List Message} (packets : List Packet) :
      packets ≠ [] → Packet.Aligned packets → (Packet.pack packets).length ≤ capacity →
      Delivers capacity receipts dump →
      Delivers capacity (.datagram (Packet.pack packets) :: receipts)
        (packets.map (·.message) ++ dump)

/-- A well-formed answer to the dump request. -/
structure LinkDump (dump : List Message) : Prop where
  sound : ∀ message ∈ dump, message.type ≠ nlmsgError
  long : ∀ message ∈ dump, message.type = rtmNewlink →
    headerSize + ifinfomsgSize ≤ message.size
  ended : ∃ done ∈ dump, endsDump done = true

/-- The messages before the end of a dump. -/
def unended (dump : List Message) : List Message :=
  dump.takeWhile fun message => !endsDump message

/-- The `RTM_NEWLINK` messages of the dump's sequence number before its end. -/
def dumpLinks (dump : List Message) : List Message :=
  (unended dump).filter fun message => ofDump message && message.type == rtmNewlink

/-- Those of them with `IFF_LOOPBACK`. -/
def dumpLoopbacks (dump : List Message) : List Message :=
  (dumpLinks dump).filter fun message => linkFlags message &&& iffLoopback != 0

/-- The cuts between datagrams cannot be seen in what arrives. -/
theorem arrivals_of_delivers {capacity : Nat} (small : capacity < 4294967296)
    {receipts : List Receipt} {dump : List Message}
    (delivers : Delivers capacity receipts dump) :
    ∃ rest, arrivals capacity receipts = dump.map some ++ rest := by
  induction delivers with
  | nil receipts => exact ⟨_, rfl⟩
  | interrupted _ ih => exact ih
  | datagram packets nonempty aligned fits _ ih =>
      obtain ⟨rest, onward⟩ := ih
      have whole : (Packet.pack packets).take capacity = Packet.pack packets :=
        List.take_of_length_le fits
      have filled : Packet.pack packets ≠ [] := by
        intro empty
        obtain ⟨packet, packets, rfl⟩ := List.exists_cons_of_ne_nil nonempty
        have size := congrArg List.length empty
        simp only [Packet.pack, Packet.bytes, List.flatMap_cons, List.length_append,
          Message.length_bytes, Message.size, headerSize, List.length_nil] at size
        omega
      refine ⟨rest, ?_⟩
      rw [arrivals, whole, if_neg filled, messages_pack aligned (by omega), onward]
      simp

theorem any_isDone_of_dump {dump : List Message} (wellFormed : LinkDump dump)
    (rest : List (Option Message)) : (dump.map some ++ rest).any isDone = true := by
  obtain ⟨done, member, ends⟩ := wellFormed.ended
  rw [List.any_append, Bool.or_eq_true, List.any_map]
  exact .inl (List.any_eq_true.mpr ⟨done, member, ends⟩)

theorem beforeDone_of_dump {dump : List Message} (wellFormed : LinkDump dump)
    (rest : List (Option Message)) :
    beforeDone (dump.map some ++ rest) = (unended dump).map some := by
  have shape : ∀ list : List Message, (∃ done ∈ list, endsDump done = true) →
      beforeDone (list.map some ++ rest) = (unended list).map some := by
    intro list
    induction list with
    | nil =>
        rintro ⟨done, member, _⟩
        cases member
    | cons message list ih =>
        rintro ⟨done, member, ends⟩
        by_cases here : endsDump message = true
        · simp [beforeDone, unended, isDone, here]
        · have open_ : endsDump message = false := eq_false_of_ne_true here
          have later : ∃ done ∈ list, endsDump done = true := by
            rcases List.mem_cons.mp member with rfl | member
            · exact absurd ends here
            · exact ⟨done, member, ends⟩
          have undone : isDone (some message) = false := open_
          have onward := ih later
          simp only [beforeDone, unended] at onward
          simp [beforeDone, unended, undone, open_, onward]
  exact shape dump wellFormed.ended

theorem failsEarly_of_dump {dump : List Message} (wellFormed : LinkDump dump)
    (rest : List (Option Message)) : failsEarly (dump.map some ++ rest) = false := by
  rw [failsEarly, beforeDone_of_dump wellFormed, List.any_map, List.any_eq_false]
  intro message member
  have type := wellFormed.sound message ((List.takeWhile_sublist _).subset member)
  simp [isFailure, failsDump, type]

/-- Counting long enough links is counting links. -/
theorem countP_isLink {dump : List Message} (wellFormed : LinkDump dump) :
    (unended dump).countP isLink = (dumpLinks dump).length := by
  rw [dumpLinks, ← List.countP_eq_length_filter]
  apply List.countP_congr
  intro message member
  have long := wellFormed.long message ((List.takeWhile_sublist _).subset member)
  simp only [isLink, Bool.and_eq_true, beq_iff_eq, decide_eq_true_eq]
  exact ⟨fun link => link.1, fun link => ⟨link, long link.2⟩⟩

theorem filter_isLoopback {dump : List Message} (wellFormed : LinkDump dump) :
    (unended dump).filter isLoopback = dumpLoopbacks dump := by
  rw [dumpLoopbacks, dumpLinks, List.filter_filter]
  apply List.filter_congr
  intro message member
  have long := wellFormed.long message ((List.takeWhile_sublist _).subset member)
  rw [Bool.eq_iff_iff]
  simp only [isLoopback, isLink, Bool.and_eq_true, beq_iff_eq, decide_eq_true_eq]
  constructor
  · rintro ⟨⟨⟨mine, link⟩, _⟩, loops⟩
    exact ⟨loops, mine, link⟩
  · rintro ⟨loops, mine, link⟩
    exact ⟨⟨⟨mine, link⟩, long link⟩, loops⟩

/-- The inspection of a packed dump. -/
theorem verdict_of_dump {socket : Socket} {dump : List Message} (requested : Requested socket)
    (delivers : Delivers dumpCapacity socket.receipts dump) (wellFormed : LinkDump dump) :
    (inspectLinks socket).verdict = some (some (listed (unended dump))) := by
  obtain ⟨rest, arriving⟩ := arrivals_of_delivers (by decide) delivers
  rw [verdict_requested requested, arriving,
    foldArrivals_dump [] (any_isDone_of_dump wellFormed rest),
    failsEarly_of_dump wellFormed, beforeDone_of_dump wellFormed]
  simp [List.reduceOption]

/-! ## The policy -/

/-- The namespace has been configured, and the socket is in this state. -/
def Configured (policy : NetworkPolicy) (script : NamespaceScript) (socket : Socket) : Prop :=
  script.unshare = none ∧ script.openRouteSocket = none ∧
    ∃ initial inspected, inspectLinks script.socket = .returned (.ok initial) inspected ∧
      initial.single = true ∧
      setLinkUp inspected initial.loopbackIndex (policy = .loopbackOnly) =
        .returned (.ok ()) socket

theorem setup_of_configured {policy : NetworkPolicy} {script : NamespaceScript}
    {socket : Socket} (restricted : policy ≠ .allowed)
    (configured : Configured policy script socket) :
    setupNetworkPolicy policy script = establishPolicy policy socket := by
  obtain ⟨unshared, opened, initial, inspected, inspection, single, changed⟩ := configured
  simp only [setupNetworkPolicy, if_neg restricted, unshared, opened, inspection,
    Attempt.orFail, single, Bool.not_true, Bool.false_eq_true, if_false, changed]

/-- An accepted namespace has been configured. -/
theorem configured_of_accepted {policy : NetworkPolicy} {script : NamespaceScript}
    (restricted : policy ≠ .allowed)
    (accepted : setupNetworkPolicy policy script = .returned none) :
    ∃ socket, Configured policy script socket := by
  simp only [setupNetworkPolicy, if_neg restricted] at accepted
  split at accepted
  next => cases accepted
  next unshared =>
    split at accepted
    next => cases accepted
    next opened =>
      cases inspection : inspectLinks script.socket with
      | blocked | fault | unfinished => simp [inspection, Attempt.orFail] at accepted
      | returned result inspected =>
          cases result with
          | error errno => simp [inspection, Attempt.orFail] at accepted
          | ok initial =>
              simp only [inspection, Attempt.orFail] at accepted
              split at accepted
              next => cases accepted
              next single =>
                split at accepted
                all_goals try cases accepted
                next socket changed =>
                  refine ⟨socket, unshared, opened, initial, inspected, inspection, ?_, changed⟩
                  simpa using single

/-- The policy is accepted by the inspection after the configuration alone. -/
theorem establishPolicy_accepted {policy : NetworkPolicy} {socket : Socket} :
    establishPolicy policy socket = .returned none ↔
      ∃ established, (inspectLinks socket).verdict = some (some established) ∧
        snapshotMatches established policy = true := by
  rw [establishPolicy]
  cases inspectLinks socket with
  | blocked | fault | unfinished => simp [Attempt.orFail, Attempt.verdict]
  | returned result after =>
      cases result with
      | error errno => simp [Attempt.orFail, Attempt.verdict]
      | ok established =>
          cases matching : snapshotMatches established policy <;>
            simp [Attempt.orFail, Attempt.verdict, matching]

theorem broken_setLinkUp (socket : Socket) (index : Int) (up : Bool) :
    (setLinkUp socket index up).broken = false := by
  apply broken_andThen (broken_sendNetlink socket (linkRequest index up))
  intro _ requested
  exact (receive_verdict (by decide) (ackBody_handles setSequence) requested
    requested.receipts ()).2

/-- The setup reads outside what it received, or does not end. -/
def SetupResult.broken : SetupResult → Bool
  | .fault | .unfinished => true
  | .blocked | .returned _ => false

theorem broken_orFail {Result : Type} {attempt : Attempt Result} {stage : NetworkSetupStage}
    {continuation : Result → Socket → SetupResult} (sound : attempt.broken = false)
    (onward : ∀ result socket, (continuation result socket).broken = false) :
    (attempt.orFail stage continuation).broken = false := by
  cases attempt with
  | blocked => rfl
  | fault | unfinished => cases sound
  | returned result socket =>
      cases result with
      | error errno => rfl
      | ok result => exact onward result socket

theorem broken_setupNetworkPolicy (policy : NetworkPolicy) (script : NamespaceScript) :
    (setupNetworkPolicy policy script).broken = false := by
  rw [setupNetworkPolicy]
  split
  next => rfl
  next =>
    split
    next => rfl
    next =>
      split
      next => rfl
      next =>
        apply broken_orFail (broken_inspectLinks script.socket)
        intro initial inspected
        split
        next => rfl
        next =>
          apply broken_orFail (broken_setLinkUp inspected _ _)
          intro _ configured
          apply broken_orFail (broken_inspectLinks configured)
          intro established _
          split <;> rfl

/-- The snapshot of a dump, with its 32-bit counters. -/
theorem listed_unended {dump : List Message} (wellFormed : LinkDump dump) :
    (listed (unended dump)).count.toNat = (dumpLinks dump).length % 4294967296 ∧
      (listed (unended dump)).loopbackCount.toNat = (dumpLoopbacks dump).length % 4294967296 ∧
      (listed (unended dump)).loopbackIndex =
        ((dumpLoopbacks dump).getLast?.map linkIndex).getD 0 ∧
      (listed (unended dump)).loopbackFlags =
        ((dumpLoopbacks dump).getLast?.map linkFlags).getD 0 := by
  have loopbacks : (unended dump).countP isLoopback = (dumpLoopbacks dump).length := by
    rw [List.countP_eq_length_filter, filter_isLoopback wellFormed]
  simp only [listed, countP_isLink wellFormed, loopbacks, filter_isLoopback wellFormed,
    UInt32.toNat_ofNat', Nat.reducePow, and_self]

/-- A single loopback link in the state that the policy asks for. -/
theorem single_of_matches {dump : List Message} {policy : NetworkPolicy}
    (wellFormed : LinkDump dump) (countable : (dumpLinks dump).length < 4294967296)
    (matching : snapshotMatches (listed (unended dump)) policy = true) :
    ∃ link, dumpLinks dump = [link] ∧ linkFlags link &&& iffLoopback ≠ 0 ∧
      0 < linkIndex link ∧ (linkFlags link &&& iffUp ≠ 0 ↔ policy = .loopbackOnly) := by
  obtain ⟨count, loopbackCount, index, flags⟩ := listed_unended wellFormed
  unfold snapshotMatches at matching
  split at matching
  next => cases matching
  next single =>
    simp only [LinkSnapshot.single, Bool.not_not, Bool.or_eq_true, bne_iff_ne, ne_eq,
      decide_eq_true_eq, not_or, not_not, Int.not_le] at single
    rcases single with ⟨⟨one, oneLoopback⟩, positive⟩
    have length : (dumpLinks dump).length = 1 := by
      rw [one, Nat.mod_eq_of_lt countable] at count
      exact count.symm
    obtain ⟨link, only⟩ := List.length_eq_one_iff.mp length
    have loops : linkFlags link &&& iffLoopback ≠ 0 := by
      intro plain
      have none : dumpLoopbacks dump = [] := by simp [dumpLoopbacks, only, plain]
      rw [oneLoopback, none] at loopbackCount
      cases loopbackCount
    have loopback : dumpLoopbacks dump = [link] := by simp [dumpLoopbacks, only, loops]
    rw [loopback] at index flags
    simp only [List.getLast?_singleton, Option.map_some, Option.getD_some] at index flags
    rw [index] at positive
    rw [flags] at matching
    refine ⟨link, only, loops, positive, ?_⟩
    dsimp only at matching
    split at matching
    next up => simpa [up] using matching
    next other => simpa [other] using matching

/-- Dumps are read exactly, however they are packed, up to the width of the counters; no
answer of the kernel is read outside its bytes; and an accepted namespace has a single
link, a loopback in the state of the policy. -/
theorem networkPolicy_exact :
    (∀ socket dump, Requested socket → Delivers dumpCapacity socket.receipts dump →
      LinkDump dump →
      ∃ snapshot after, inspectLinks socket = .returned (.ok snapshot) after ∧
        snapshot.count.toNat = (dumpLinks dump).length % 4294967296 ∧
        snapshot.loopbackCount.toNat = (dumpLoopbacks dump).length % 4294967296 ∧
        snapshot.loopbackIndex = ((dumpLoopbacks dump).getLast?.map linkIndex).getD 0 ∧
        snapshot.loopbackFlags = ((dumpLoopbacks dump).getLast?.map linkFlags).getD 0) ∧
    (∀ socket, (inspectLinks socket).broken = false) ∧
    (∀ policy script, (setupNetworkPolicy policy script).broken = false) ∧
    (∀ policy script, policy ≠ .allowed → setupNetworkPolicy policy script = .returned none →
      ∃ socket, Configured policy script socket ∧
        ∀ dump, Delivers dumpCapacity socket.receipts dump → LinkDump dump →
          (dumpLinks dump).length < 4294967296 →
          ∃ link, dumpLinks dump = [link] ∧ linkFlags link &&& iffLoopback ≠ 0 ∧
            0 < linkIndex link ∧
            (linkFlags link &&& iffUp ≠ 0 ↔ policy = .loopbackOnly)) := by
  refine ⟨?_, broken_inspectLinks, broken_setupNetworkPolicy, ?_⟩
  · intro socket dump requested delivers wellFormed
    obtain ⟨after, returned⟩ := exists_returned (verdict_of_dump requested delivers wellFormed)
    exact ⟨_, after, returned, listed_unended wellFormed⟩
  · intro policy script restricted accepted
    obtain ⟨socket, configured⟩ := configured_of_accepted restricted accepted
    refine ⟨socket, configured, ?_⟩
    intro dump delivers wellFormed countable
    rw [setup_of_configured restricted configured] at accepted
    obtain ⟨established, verdict, matching⟩ := establishPolicy_accepted.mp accepted
    have requested : Requested socket := by
      rcases requested_or_fails verdict with requested | fails
      · exact requested
      · rw [verdict_requestFails fails] at verdict
        cases verdict
    rw [verdict_of_dump requested delivers wellFormed] at verdict
    cases verdict
    exact single_of_matches wellFormed countable matching

/-- A loopback link in a dump. -/
def loopbackLink (flags : UInt32) : Message :=
  ⟨rtmNewlink, 2, inspectSequence, 0, ifinfomsg 1 flags 0⟩

/-- The end of a dump, with its status. -/
def dumpEnd (status : UInt32) : Message := ⟨nlmsgDone, 2, inspectSequence, 0, encode32 status⟩

/-- The acknowledgement of a link change. -/
def linkAck : Message := ⟨nlmsgError, 0, setSequence, 0, List.replicate nlmsgerrSize 0⟩

/-- A datagram of messages whose sizes are multiples of four. -/
def datagramOf (dump : List Message) : Receipt :=
  .datagram (Packet.pack (dump.map fun message => ⟨message, []⟩))

/-- A fresh namespace whose loopback is down, and whose second dump ends with a status. -/
def freshNamespace (status : UInt32) : NamespaceScript :=
  ⟨none, none, [], [.count 32, .count 32, .count 32],
    [datagramOf [loopbackLink iffLoopback, dumpEnd 0], datagramOf [linkAck],
      datagramOf [loopbackLink iffLoopback, dumpEnd status]]⟩

/-- The socket of such a namespace after its configuration. -/
def configuredSocket (status : UInt32) : Socket :=
  ⟨[linkRequest 1 false, dumpRequest], [.count 32],
    [datagramOf [loopbackLink iffLoopback, dumpEnd status]]⟩

theorem requested_configuredSocket (status : UInt32) : Requested (configuredSocket status) :=
  ⟨[], rfl⟩

theorem delivers_configuredSocket (status : UInt32) :
    Delivers dumpCapacity (configuredSocket status).receipts
      [loopbackLink iffLoopback, dumpEnd status] := by
  have size : (dumpEnd status).size = 20 := rfl
  have last : (Packet.bytes ⟨dumpEnd status, []⟩).length ≤ alignedSize (dumpEnd status).size := by
    simp [Packet.bytes, alignedSize, size]
  have aligned : Packet.Aligned
      ([loopbackLink iffLoopback, dumpEnd status].map fun message => ⟨message, []⟩) :=
    ⟨rfl, last⟩
  exact .datagram _ (by simp) aligned (by decide : 52 ≤ dumpCapacity) (.nil [])

theorem linkDump_loopback (status : UInt32) :
    LinkDump [loopbackLink iffLoopback, dumpEnd status] := by
  refine ⟨?_, ?_, dumpEnd status, by simp, rfl⟩
  · intro message member
    simp only [List.mem_cons, List.not_mem_nil, or_false] at member
    rcases member with rfl | rfl
    · exact (by decide : rtmNewlink ≠ nlmsgError)
    · exact (by decide : nlmsgDone ≠ nlmsgError)
  · intro message member link
    simp only [List.mem_cons, List.not_mem_nil, or_false] at member
    rcases member with rfl | rfl
    · exact Nat.le_refl 32
    · exact absurd link (by decide : nlmsgDone ≠ rtmNewlink)

theorem networkPolicy_exact_loopback :
    setupNetworkPolicy .denied (freshNamespace 0) = .returned none ∧
      ∃ snapshot after, inspectLinks (configuredSocket 0) = .returned (.ok snapshot) after ∧
        snapshot.count.toNat = 1 ∧ snapshot.loopbackIndex = 1 := by
  refine ⟨by decide +kernel, ?_⟩
  obtain ⟨snapshot, after, returned, count, _, index, _⟩ := networkPolicy_exact.1
    (configuredSocket 0) _ (requested_configuredSocket 0) (delivers_configuredSocket 0)
    (linkDump_loopback 0)
  exact ⟨snapshot, after, returned, count.trans (by decide +kernel),
    index.trans (by decide +kernel)⟩

/-- A dump of that many loopback links, each in a datagram of its own. -/
def crowd (size : Nat) : List Message :=
  List.replicate size (loopbackLink iffLoopback) ++ [dumpEnd 0]

/-- A socket that answers with it. -/
def crowdedSocket (size : Nat) : Socket :=
  ⟨[], [.count 32],
    List.replicate size (datagramOf [loopbackLink iffLoopback]) ++ [datagramOf [dumpEnd 0]]⟩

theorem delivers_crowd (size : Nat) :
    Delivers dumpCapacity (crowdedSocket size).receipts (crowd size) := by
  induction size with
  | zero =>
      exact .datagram [⟨dumpEnd 0, []⟩] (by simp) (Nat.le_refl 20)
        (by decide : 20 ≤ dumpCapacity) (.nil [])
  | succ size ih =>
      exact .datagram [⟨loopbackLink iffLoopback, []⟩] (by simp) (Nat.le_refl 32)
        (by decide : 32 ≤ dumpCapacity) ih

theorem linkDump_crowd (size : Nat) : LinkDump (crowd size) := by
  have members : ∀ message ∈ crowd size,
      message ∈ [loopbackLink iffLoopback, dumpEnd 0] := by
    intro message member
    rcases List.mem_append.mp member with link | done
    · rw [List.eq_of_mem_replicate link]
      exact List.mem_cons_self
    · exact List.mem_cons_of_mem _ done
  have one := linkDump_loopback 0
  refine ⟨?_, ?_, dumpEnd 0, by simp [crowd], rfl⟩
  · intro message member
    exact one.sound message (members message member)
  · intro message member
    exact one.long message (members message member)

theorem length_dumpLinks_crowd (size : Nat) : (dumpLinks (crowd size)).length = size := by
  have front : unended (crowd size) = List.replicate size (loopbackLink iffLoopback) := by
    have open_ : endsDump (loopbackLink iffLoopback) = false := by decide
    have done : endsDump (dumpEnd 0) = true := by decide
    rw [unended, crowd, List.takeWhile_append_of_pos]
    · simp [done]
    · intro message member
      rw [List.eq_of_mem_replicate member, open_]
      rfl
  have link : (ofDump (loopbackLink iffLoopback) &&
      (loopbackLink iffLoopback).type == rtmNewlink) = true := by decide
  rw [dumpLinks, front, List.filter_replicate, if_pos link, List.length_replicate]

theorem requested_crowdedSocket (size : Nat) : Requested (crowdedSocket size) := ⟨[], rfl⟩

theorem count_crowd {size : Nat} {snapshot : LinkSnapshot} {after : Socket}
    (returned : inspectLinks (crowdedSocket size) = .returned (.ok snapshot) after) :
    snapshot.count.toNat = size % 4294967296 := by
  have verdict := verdict_of_dump (requested_crowdedSocket size) (delivers_crowd size)
    (linkDump_crowd size)
  rw [returned] at verdict
  cases verdict
  rw [(listed_unended (linkDump_crowd size)).1, length_dumpLinks_crowd]

/-- A counter of 32 bits does not tell no link from 2^32 of them. -/
theorem inspectLinks_wraps :
    ∃ socket dump, Requested socket ∧ Delivers dumpCapacity socket.receipts dump ∧
      LinkDump dump ∧ ∀ snapshot after, inspectLinks socket = .returned (.ok snapshot) after →
        snapshot.count.toNat ≠ (dumpLinks dump).length := by
  refine ⟨crowdedSocket 4294967296, crowd 4294967296, requested_crowdedSocket _,
    delivers_crowd _, linkDump_crowd _, ?_⟩
  intro snapshot after returned
  rw [count_crowd returned, length_dumpLinks_crowd]
  decide

end PkgexecLinux.Network

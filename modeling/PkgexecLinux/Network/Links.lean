import PkgexecLinux.Foundation.Netlink

/-!
# Links of a network namespace

`inspect_links` asks the kernel for a dump of the links, `set_link_up` changes
the state of one of them, and `setup_network_policy` does both in a fresh
namespace.  The model works on the received bytes: every field is read at its
offset, and a read outside the bytes of the datagram is a `fault`.

What the kernel answers is a script: one answer for each `sendto` and each
`recv`, in order.  A script that ends leaves the caller waiting.
-/

namespace PkgexecLinux.Network

open Foundation Netlink

def nlmsgError : UInt16 := 2
def nlmsgDone : UInt16 := 3
def rtmNewlink : UInt16 := 16
def rtmGetlink : UInt16 := 18
def nlmFRequest : UInt16 := 1
def nlmFAck : UInt16 := 4
def nlmFDump : UInt16 := 768
def iffUp : UInt32 := 1
def iffLoopback : UInt32 := 8
def eioErrno : Int := 5
def enodevErrno : Int := 19

/-- `sizeof(ifinfomsg)`. -/
def ifinfomsgSize : Nat := 16

/-- `sizeof(nlmsgerr)`. -/
def nlmsgerrSize : Nat := 20

/-- A word as a C `int`. -/
def signed (word : UInt32) : Int := word.toBitVec.toInt

/-- `link_snapshot`. -/
structure LinkSnapshot where
  count : UInt32
  loopbackCount : UInt32
  loopbackIndex : Int
  loopbackFlags : UInt32
  deriving DecidableEq, Repr

def LinkSnapshot.empty : LinkSnapshot := ⟨0, 0, 0, 0⟩

/-! ## The walk over a datagram -/

/-- The header pointer, as an offset into the buffer, and the signed count of bytes that
are left. -/
structure Cursor where
  offset : Int
  remaining : Int
  deriving DecidableEq, Repr

/-- A 16-bit field of the received bytes. -/
def read16 (received : List UInt8) (offset : Int) : Option UInt16 :=
  if 0 ≤ offset then word16 received offset.toNat else none

/-- A 32-bit field of the received bytes. -/
def read32 (received : List UInt8) (offset : Int) : Option UInt32 :=
  if 0 ≤ offset then word32 received offset.toNat else none

/-- `NLMSG_ALIGN`, in unsigned 32-bit arithmetic. -/
def nlmsgAlign (length : UInt32) : UInt32 := (length + 3) &&& ~~~3

/-- `valid_netlink_message`; the length is read only if a header is left. -/
def validNetlinkMessage (received : List UInt8) (cursor : Cursor) : Option Bool :=
  if cursor.remaining < headerSize then some false
  else do
    let length ← read32 received cursor.offset
    some (decide (headerSize ≤ length.toNat) && decide (length.toNat ≤ cursor.remaining.toNat))

/-- `next_netlink_message`. -/
def nextNetlinkMessage (received : List UInt8) (cursor : Cursor) : Option Cursor := do
  let length ← read32 received cursor.offset
  let aligned := signed (nlmsgAlign length)
  some ⟨cursor.offset + aligned, cursor.remaining - aligned⟩

/-- How the body of a walk ends for one message. -/
inductive Turn (State Result : Type) where
  | next (state : State)
  | stop (result : Result)
  deriving DecidableEq, Repr

/-- How a walk ends. -/
inductive Walk (State Result : Type) where
  | ended (state : State)
  | stopped (result : Result)
  /-- A field was read outside the received bytes. -/
  | fault
  /-- More iterations than were provided for. -/
  | unfinished
  deriving DecidableEq, Repr

section Loops

variable {State Result : Type}

/-- The `for` loop over the messages of a datagram, with a bound on its iterations. -/
def walk (received : List UInt8) (body : Int → State → Option (Turn State Result)) :
    Nat → Cursor → State → Walk State Result
  | 0, _, _ => .unfinished
  | iterations + 1, cursor, state =>
      match validNetlinkMessage received cursor with
      | none => .fault
      | some false => .ended state
      | some true =>
          match body cursor.offset state with
          | none => .fault
          | some (.stop result) => .stopped result
          | some (.next state) =>
              match nextNetlinkMessage received cursor with
              | none => .fault
              | some cursor => walk received body iterations cursor state

/-- The answer of one `recv`. -/
inductive Receipt where
  | interrupted
  | failed (errno : Int)
  | datagram (bytes : List UInt8)
  deriving DecidableEq, Repr

/-- The answer of one `sendto`. -/
inductive SendAnswer where
  | interrupted
  | failed (errno : Int)
  | count (bytes : Nat)
  deriving DecidableEq, Repr

/-- A route socket: what it has been sent, newest first, and what the kernel will
answer. -/
structure Socket where
  sent : List Message
  sends : List SendAnswer
  receipts : List Receipt
  deriving DecidableEq, Repr

/-- How an exchange over the socket ends. -/
inductive Attempt (Result : Type) where
  /-- Waiting for an answer that does not come. -/
  | blocked
  | fault
  | unfinished
  | returned (result : Except Int Result) (socket : Socket)

-- The equations of the receive loop are about the walk's result, not about its steps.
attribute [local irreducible] walk

/-- The `recv` loop: datagrams are cut to the size of the buffer. -/
def receive (capacity : Nat)
    (body : List UInt8 → Int → State → Option (Turn State (Except Int Result)))
    (socket : Socket) : List Receipt → State → Attempt Result
  | [], _ => .blocked
  | .interrupted :: receipts, state => receive capacity body socket receipts state
  | .failed errno :: receipts, _ => .returned (.error errno) { socket with receipts }
  | .datagram bytes :: receipts, state =>
      if bytes.take capacity = [] then
        .returned (.error eioErrno) { socket with receipts }
      else
        match walk (bytes.take capacity) (body (bytes.take capacity))
            ((bytes.take capacity).length + 1) ⟨0, (bytes.take capacity).length⟩ state with
        | .ended state => receive capacity body socket receipts state
        | .stopped result => .returned result { socket with receipts }
        | .fault => .fault
        | .unfinished => .unfinished

theorem receive_datagram (capacity : Nat)
    (body : List UInt8 → Int → State → Option (Turn State (Except Int Result)))
    (socket : Socket) (bytes : List UInt8) (receipts : List Receipt) (state : State) :
    receive capacity body socket (.datagram bytes :: receipts) state =
      if bytes.take capacity = [] then
        .returned (.error eioErrno) { socket with receipts }
      else
        match walk (bytes.take capacity) (body (bytes.take capacity))
            ((bytes.take capacity).length + 1) ⟨0, (bytes.take capacity).length⟩ state with
        | .ended state => receive capacity body socket receipts state
        | .stopped result => .returned result { socket with receipts }
        | .fault => .fault
        | .unfinished => .unfinished := by
  rw [receive]

end Loops

/-- The loop of `send_netlink`. -/
def sendLoop (size : Nat) : List SendAnswer → Option (Except Int Unit × List SendAnswer)
  | [] => none
  | .interrupted :: sends => sendLoop size sends
  | .failed errno :: sends => some (.error errno, sends)
  | .count bytes :: sends => some (if bytes = size then .ok () else .error eioErrno, sends)

/-- `send_netlink`. -/
def sendNetlink (socket : Socket) (message : Message) : Attempt Unit :=
  match sendLoop message.size socket.sends with
  | none => .blocked
  | some (result, sends) =>
      .returned result { socket with sends, sent := message :: socket.sent }

/-- Continue with the result of an exchange. -/
def Attempt.andThen {First Second : Type} (attempt : Attempt First)
    (continuation : First → Socket → Attempt Second) : Attempt Second :=
  match attempt with
  | .blocked => .blocked
  | .fault => .fault
  | .unfinished => .unfinished
  | .returned (.error errno) socket => .returned (.error errno) socket
  | .returned (.ok first) socket => continuation first socket

/-! ## Requests -/

/-- An `ifinfomsg` of the family `AF_UNSPEC`. -/
def ifinfomsg (index : Int) (flags change : UInt32) : List UInt8 :=
  [0, 0, 0, 0] ++ encode32 (UInt32.ofBitVec (BitVec.ofInt 32 index)) ++ encode32 flags ++
    encode32 change

/-- The sequence number of `inspect_links`. -/
def inspectSequence : UInt32 := 1

/-- The sequence number of `set_link_up`. -/
def setSequence : UInt32 := 2

/-- The dump request of `inspect_links`. -/
def dumpRequest : Message :=
  ⟨rtmGetlink, nlmFRequest ||| nlmFDump, inspectSequence, 0, ifinfomsg 0 0 0⟩

/-- The request of `set_link_up`. -/
def linkRequest (index : Int) (up : Bool) : Message :=
  ⟨rtmNewlink, nlmFRequest ||| nlmFAck, setSequence, 0,
    ifinfomsg index (if up then iffUp else 0) iffUp⟩

/-- The body of the walk in `receive_ack`. -/
def ackBody (sequence : UInt32) (received : List UInt8) (offset : Int) (state : Unit) :
    Option (Turn Unit (Except Int Unit)) := do
  let messageSequence ← read32 received (offset + 8)
  if messageSequence ≠ sequence then some (.next state)
  else do
    let type ← read16 received (offset + 4)
    if type ≠ nlmsgError then some (.next state)
    else do
      let length ← read32 received offset
      if length.toNat < headerSize + nlmsgerrSize then some (.stop (.error eioErrno))
      else do
        let error ← read32 received (offset + headerSize)
        some (.stop (if signed error = 0 then .ok () else .error (-signed error)))

/-- `receive_ack`. -/
def receiveAck (socket : Socket) (sequence : UInt32) : Attempt Unit :=
  receive 8192 (ackBody sequence) socket socket.receipts ()

/-- The body of the walk in `inspect_links`. -/
def inspectBody (received : List UInt8) (offset : Int) (snapshot : LinkSnapshot) :
    Option (Turn LinkSnapshot (Except Int LinkSnapshot)) := do
  let sequence ← read32 received (offset + 8)
  if sequence ≠ inspectSequence then some (.next snapshot)
  else do
    let type ← read16 received (offset + 4)
    if type = nlmsgDone then some (.stop (.ok snapshot))
    else if type = nlmsgError then do
      let length ← read32 received offset
      if length.toNat < headerSize + nlmsgerrSize then some (.stop (.error eioErrno))
      else do
        let error ← read32 received (offset + headerSize)
        some (.stop (.error (if signed error = 0 then eioErrno else -signed error)))
    else if type ≠ rtmNewlink then some (.next snapshot)
    else do
      let length ← read32 received offset
      if length.toNat < headerSize + ifinfomsgSize then some (.next snapshot)
      else do
        let flags ← read32 received (offset + headerSize + 8)
        if flags &&& iffLoopback ≠ 0 then do
          let index ← read32 received (offset + headerSize + 4)
          some (.next ⟨snapshot.count + 1, snapshot.loopbackCount + 1, signed index, flags⟩)
        else
          some (.next { snapshot with count := snapshot.count + 1 })

/-- Size of the buffer of `inspect_links`. -/
def dumpCapacity : Nat := 16384

/-- `inspect_links`. -/
def inspectLinks (socket : Socket) : Attempt LinkSnapshot :=
  (sendNetlink socket dumpRequest).andThen fun _ socket =>
    receive dumpCapacity inspectBody socket socket.receipts .empty

/-- `set_link_up`. -/
def setLinkUp (socket : Socket) (index : Int) (up : Bool) : Attempt Unit :=
  (sendNetlink socket (linkRequest index up)).andThen fun _ socket =>
    receiveAck socket setSequence

/-! ## The policy -/

/-- `pkgexec::network_policy`. -/
inductive NetworkPolicy where
  | allowed
  | loopbackOnly
  | denied
  deriving DecidableEq, Repr

/-- `network_setup_stage`, as far as `setup_network_policy` reports it. -/
inductive NetworkSetupStage where
  | networkNamespace
  | linkInspection
  | linkConfiguration
  | policyValidation
  deriving DecidableEq, Repr

/-- `network_setup_failure`. -/
structure NetworkSetupFailure where
  stage : NetworkSetupStage
  error : Int
  deriving DecidableEq, Repr

/-- The only link is a loopback with a proper index. -/
def LinkSnapshot.single (snapshot : LinkSnapshot) : Bool :=
  !(snapshot.count != 1 || snapshot.loopbackCount != 1 || decide (snapshot.loopbackIndex ≤ 0))

/-- `snapshot_matches`. -/
def snapshotMatches (snapshot : LinkSnapshot) (policy : NetworkPolicy) : Bool :=
  if !snapshot.single then false
  else
    let loopbackUp := snapshot.loopbackFlags &&& iffUp != 0
    if policy = .loopbackOnly then loopbackUp else !loopbackUp

/-- What the kernel answers to `unshare` and `open_route_socket`, an error number if the
call fails, and to the calls on the socket. -/
structure NamespaceScript where
  unshare : Option Int
  openRouteSocket : Option Int
  socket : Socket

/-- How `setup_network_policy` ends; no failure is its return of true. -/
inductive SetupResult where
  | blocked
  | fault
  | unfinished
  | returned (failure : Option NetworkSetupFailure)
  deriving DecidableEq, Repr

/-- Report the failure of an exchange at a stage. -/
def Attempt.orFail {Result : Type} (attempt : Attempt Result) (stage : NetworkSetupStage)
    (continuation : Result → Socket → SetupResult) : SetupResult :=
  match attempt with
  | .blocked => .blocked
  | .fault => .fault
  | .unfinished => .unfinished
  | .returned (.error errno) _ => .returned (some ⟨stage, errno⟩)
  | .returned (.ok result) socket => continuation result socket

/-- The last two steps of `setup_network_policy`: the links after configuration. -/
def establishPolicy (policy : NetworkPolicy) (socket : Socket) : SetupResult :=
  (inspectLinks socket).orFail .linkInspection fun established _ =>
    if snapshotMatches established policy then .returned none
    else .returned (some ⟨.policyValidation, eioErrno⟩)

/-- `setup_network_policy`. -/
def setupNetworkPolicy (policy : NetworkPolicy) (script : NamespaceScript) : SetupResult :=
  if policy = .allowed then .returned none
  else
    match script.unshare with
    | some errno => .returned (some ⟨.networkNamespace, errno⟩)
    | none =>
        match script.openRouteSocket with
        | some errno => .returned (some ⟨.linkInspection, errno⟩)
        | none =>
            (inspectLinks script.socket).orFail .linkInspection fun initial socket =>
              if !initial.single then .returned (some ⟨.policyValidation, enodevErrno⟩)
              else
                (setLinkUp socket initial.loopbackIndex (policy = .loopbackOnly)).orFail
                  .linkConfiguration fun _ socket => establishPolicy policy socket

end PkgexecLinux.Network

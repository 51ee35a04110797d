import PkgexecLinux.Network.Links

/-!
# Datagrams as messages

The walks of `receive_ack` and `inspect_links` read exactly the messages into
which the netlink protocol cuts a datagram.  Every field is read inside the
received bytes and every walk ends, whatever the bytes are.
-/

namespace PkgexecLinux.Network

open Foundation Netlink

/-! ## Alignment -/

theorem and_complement_three (word : Nat) (bound : word < 4294967296) :
    word &&& 4294967292 = word / 4 * 4 := by
  apply Nat.eq_of_testBit_eq
  intro bit
  have shifted : word / 4 * 4 = (word >>> 2) <<< 2 := by
    rw [Nat.shiftRight_eq_div_pow, Nat.shiftLeft_eq]
  have mask : (4294967292 : Nat) = (2 ^ 30 - 1) <<< 2 := by decide
  rw [shifted, mask, Nat.testBit_and, Nat.testBit_shiftLeft, Nat.testBit_shiftLeft,
    Nat.testBit_two_pow_sub_one, Nat.testBit_shiftRight]
  by_cases low : bit < 2
  · simp [Nat.not_le.mpr low]
  · have back : 2 + (bit - 2) = bit := by omega
    by_cases high : bit < 32
    · simp [back, show 2 ≤ bit by omega, show bit - 2 < 30 by omega]
    · have zero : word.testBit bit = false := by
        apply Nat.testBit_lt_two_pow
        calc word < 2 ^ 32 := bound
          _ ≤ 2 ^ bit := Nat.pow_le_pow_right (by decide) (by omega)
      simp [back, zero]

/-- `NLMSG_ALIGN` does not wrap for a length that a datagram can hold. -/
theorem signed_nlmsgAlign {length : UInt32} (bound : length.toNat < 2147483640) :
    signed (nlmsgAlign length) = alignedSize length.toNat := by
  have sum : (length + 3).toNat = length.toNat + 3 := by
    rw [UInt32.toNat_add]
    exact Nat.mod_eq_of_lt (by change length.toNat + 3 < _; omega)
  have value : (nlmsgAlign length).toNat = alignedSize length.toNat := by
    rw [nlmsgAlign, UInt32.toNat_and, sum]
    exact and_complement_three _ (by omega)
  have small : 2 * (nlmsgAlign length).toNat < 4294967296 := by
    rw [value, alignedSize]
    omega
  rw [signed, BitVec.toInt_eq_toNat_of_lt small]
  exact congrArg Nat.cast value

/-! ## Fields -/

theorem read16_natCast (received : List UInt8) (offset : Nat) :
    read16 received (offset : Int) = word16 received offset := by
  simp [read16]

theorem read32_natCast (received : List UInt8) (offset : Nat) :
    read32 received (offset : Int) = word32 received offset := by
  simp [read32]

section Fields

variable {received : List UInt8} {offset : Nat} {message : Message}
variable (leads : Leads (received.drop offset) message)

include leads

theorem read_length : read32 received (offset : Int) = some (UInt32.ofNat message.size) := by
  have field := leads.length
  rw [word32_drop] at field
  rw [read32_natCast]
  exact field

theorem read_type : read16 received ((offset : Int) + 4) = some message.type := by
  have field := leads.type
  rw [word16_drop] at field
  exact (read16_natCast received (offset + 4)).trans field

theorem read_sequence : read32 received ((offset : Int) + 8) = some message.sequence := by
  have field := leads.sequence
  rw [word32_drop] at field
  exact (read32_natCast received (offset + 8)).trans field

/-- A word of the payload, where the payload has it. -/
theorem read_payload {position : Nat} (inside : position + 4 ≤ message.payload.length) :
    read32 received ((offset : Int) + headerSize + position) = word32 message.payload position := by
  have field := congrArg (fun bytes => word32 bytes position) leads.payload
  simp only [word32_take inside, List.drop_drop, word32_drop] at field
  exact (read32_natCast received (offset + headerSize + position)).trans field

theorem length_value : (UInt32.ofNat message.size).toNat = message.size :=
  UInt32.toNat_ofNat_of_lt leads.bounded

end Fields

/-! ## The walk -/

section Walking

variable {State Result : Type}

/-- A walk over messages. -/
def foldMessages (handle : State → Message → Turn State Result) :
    List Message → State → Walk State Result
  | [], state => .ended state
  | message :: rest, state =>
      match handle state message with
      | .next state => foldMessages handle rest state
      | .stop result => .stopped result

/-- The body treats a message of the datagram as `handle` does. -/
def Handles (received : List UInt8) (body : Int → State → Option (Turn State Result))
    (handle : State → Message → Turn State Result) : Prop :=
  ∀ offset message state, Leads (received.drop offset) message →
    body (offset : Nat) state = some (handle state message)

/-- No message begins where no header is left. -/
theorem first?_short {bytes : List UInt8} (short : bytes.length < headerSize) :
    first? bytes = none := by
  cases found : first? bytes with
  | none => rfl
  | some message =>
      have inside := (first?_eq_some_iff.mp found).inside
      have header : headerSize ≤ message.size := Nat.le_add_right _ _
      omega

/-- What `valid_netlink_message` finds at a position of the walk. -/
theorem validNetlinkMessage_eq (received : List UInt8) (offset : Nat) :
    validNetlinkMessage received ⟨offset, (received.length : Int) - offset⟩ =
      some (first? (received.drop offset)).isSome := by
  have left : (received.drop offset).length = received.length - offset := List.length_drop
  rw [validNetlinkMessage]
  dsimp only
  split
  next short =>
    have shorter : (received.drop offset).length < headerSize := by
      rw [left]
      unfold headerSize at short ⊢
      omega
    rw [first?_short shorter]
    rfl
  next enough =>
    have inside : headerSize ≤ received.length - offset := by omega
    unfold headerSize at inside
    obtain ⟨length, lengthRead⟩ := word32_inside
      (show 0 + 4 ≤ (received.drop offset).length by omega)
    obtain ⟨type, typeRead⟩ := word16_inside
      (show 4 + 2 ≤ (received.drop offset).length by omega)
    obtain ⟨flags, flagsRead⟩ := word16_inside
      (show 6 + 2 ≤ (received.drop offset).length by omega)
    obtain ⟨sequence, sequenceRead⟩ := word32_inside
      (show 8 + 4 ≤ (received.drop offset).length by omega)
    obtain ⟨port, portRead⟩ := word32_inside
      (show 12 + 4 ≤ (received.drop offset).length by omega)
    have field : read32 received (offset : Int) = some length := by
      rw [read32_natCast, ← lengthRead, word32_drop]
      rfl
    have count : ((received.length : Int) - offset).toNat = received.length - offset := by omega
    simp only [field, count, first?, lengthRead, typeRead, flagsRead, sequenceRead, portRead,
      Option.bind_eq_bind, Option.bind_some, left]
    split
    next fits => simp [fits.1, fits.2]
    next misfit =>
      rw [← Bool.decide_and]
      simpa using misfit

/-- Where `next_netlink_message` goes from a message. -/
theorem nextNetlinkMessage_eq {received : List UInt8} {offset : Nat} {message : Message}
    (leads : Leads (received.drop offset) message) (bound : received.length < 2147483640) :
    nextNetlinkMessage received ⟨offset, (received.length : Int) - offset⟩ =
      some ⟨(offset + alignedSize message.size : Nat),
        (received.length : Int) - (offset + alignedSize message.size : Nat)⟩ := by
  have inside := leads.inside
  rw [List.length_drop] at inside
  have small : (UInt32.ofNat message.size).toNat < 2147483640 := by
    rw [length_value leads]
    omega
  have aligned : signed (nlmsgAlign (UInt32.ofNat message.size)) = alignedSize message.size := by
    rw [signed_nlmsgAlign small, length_value leads]
  simp only [nextNetlinkMessage, read_length leads, aligned, Option.bind_eq_bind,
    Option.bind_some, Option.some.injEq, Cursor.mk.injEq]
  omega

/-- The walk from any position on is the fold over the messages that lie there.  The
induction is on the iterations that are left; each message takes at least a header. -/
theorem walk_from {received : List UInt8} {body : Int → State → Option (Turn State Result)}
    {handle : State → Message → Turn State Result} (handles : Handles received body handle)
    (bound : received.length < 2147483640) (iterations offset : Nat)
    (enough : received.length < iterations + offset) (positive : 0 < iterations)
    (state : State) :
    walk received body iterations ⟨offset, (received.length : Int) - offset⟩ state =
      foldMessages handle (messages (received.drop offset)) state := by
  induction iterations generalizing offset state with
  | zero => omega
  | succ iterations ih =>
      rw [walk, validNetlinkMessage_eq]
      cases found : first? (received.drop offset) with
      | none =>
          rw [messages_of_none found]
          rfl
      | some message =>
          have leads := first?_eq_some_iff.mp found
          have inside := leads.inside
          rw [List.length_drop] at inside
          have header : 16 ≤ message.size := Nat.le_add_right _ _
          have advance : message.size ≤ alignedSize message.size := by
            rw [alignedSize]
            omega
          rw [messages_of_leads leads, foldMessages]
          simp only [Option.isSome_some, handles offset message state leads,
            nextNetlinkMessage_eq leads bound]
          cases handle state message with
          | stop result => rfl
          | next state =>
              dsimp only
              rw [ih (offset + alignedSize message.size) (by omega) (by omega) state,
                List.drop_drop]

/-- The walk over a whole datagram. -/
theorem walk_eq {received : List UInt8} {body : Int → State → Option (Turn State Result)}
    {handle : State → Message → Turn State Result} (handles : Handles received body handle)
    (bound : received.length < 2147483640) (state : State) :
    walk received body (received.length + 1) ⟨0, received.length⟩ state =
      foldMessages handle (messages received) state := by
  have whole := walk_from handles bound (received.length + 1) 0 (by omega) (by omega) state
  simpa using whole

/-- A fold over messages ends or is stopped. -/
theorem foldMessages_settled (handle : State → Message → Turn State Result)
    (list : List Message) (state : State) :
    foldMessages handle list state ≠ .fault ∧ foldMessages handle list state ≠ .unfinished := by
  induction list generalizing state with
  | nil => exact ⟨nofun, nofun⟩
  | cons message rest ih =>
      rw [foldMessages]
      cases handle state message with
      | next state => exact ih state
      | stop result => exact ⟨nofun, nofun⟩

end Walking

/-! ## The two bodies -/

/-- What `receive_ack` does with a message. -/
def ackMessage (sequence : UInt32) (state : Unit) (message : Message) :
    Turn Unit (Except Int Unit) :=
  if message.sequence ≠ sequence then .next state
  else if message.type ≠ nlmsgError then .next state
  else if message.size < headerSize + nlmsgerrSize then .stop (.error eioErrno)
  else
    let error := signed ((word32 message.payload 0).getD 0)
    .stop (if error = 0 then .ok () else .error (-error))

/-- What `inspect_links` does with a message. -/
def inspectMessage (snapshot : LinkSnapshot) (message : Message) :
    Turn LinkSnapshot (Except Int LinkSnapshot) :=
  if message.sequence ≠ inspectSequence then .next snapshot
  else if message.type = nlmsgDone then .stop (.ok snapshot)
  else if message.type = nlmsgError then
    if message.size < headerSize + nlmsgerrSize then .stop (.error eioErrno)
    else
      let error := signed ((word32 message.payload 0).getD 0)
      .stop (.error (if error = 0 then eioErrno else -error))
  else if message.type ≠ rtmNewlink then .next snapshot
  else if message.size < headerSize + ifinfomsgSize then .next snapshot
  else
    let flags := (word32 message.payload 8).getD 0
    if flags &&& iffLoopback ≠ 0 then
      .next ⟨snapshot.count + 1, snapshot.loopbackCount + 1,
        signed ((word32 message.payload 4).getD 0), flags⟩
    else
      .next { snapshot with count := snapshot.count + 1 }

/-- A word that the payload is long enough for. -/
theorem payload_word {received : List UInt8} {offset : Nat} {message : Message}
    (leads : Leads (received.drop offset) message) {position : Nat}
    (inside : position + 4 ≤ message.payload.length) :
    read32 received ((offset : Int) + headerSize + position) =
      some ((word32 message.payload position).getD 0) := by
  obtain ⟨word, found⟩ := word32_inside inside
  rw [read_payload leads inside, found]
  rfl

/-- The error number of an `nlmsgerr`. -/
theorem error_word {received : List UInt8} {offset : Nat} {message : Message}
    (leads : Leads (received.drop offset) message) (inside : 4 ≤ message.payload.length) :
    read32 received ((offset : Int) + headerSize) =
      some ((word32 message.payload 0).getD 0) := by
  rw [← payload_word leads (show 0 + 4 ≤ message.payload.length from inside)]
  exact congrArg (read32 received) (Int.add_zero _).symm

theorem ackBody_handles (sequence : UInt32) (received : List UInt8) :
    Handles received (ackBody sequence received) (ackMessage sequence) := by
  intro offset message state leads
  rw [ackBody, ackMessage]
  simp only [read_sequence leads, read_type leads, read_length leads, Option.bind_eq_bind,
    Option.bind_some, length_value leads]
  split
  next => rfl
  next =>
    split
    next => rfl
    next =>
      split
      next => rfl
      next long =>
        have inside : 4 ≤ message.payload.length := by
          unfold Message.size headerSize nlmsgerrSize at long
          omega
        rw [error_word leads inside]
        rfl

theorem inspectBody_handles (received : List UInt8) :
    Handles received (inspectBody received) inspectMessage := by
  intro offset message snapshot leads
  rw [inspectBody, inspectMessage]
  simp only [read_sequence leads, read_type leads, read_length leads, Option.bind_eq_bind,
    Option.bind_some, length_value leads]
  split
  next => rfl
  next =>
    split
    next => rfl
    next =>
      split
      next =>
        split
        next => rfl
        next long =>
          have inside : 4 ≤ message.payload.length := by
            unfold Message.size headerSize nlmsgerrSize at long
            omega
          rw [error_word leads inside]
          rfl
      next =>
        split
        next => rfl
        next =>
          split
          next => rfl
          next long =>
            have inside : 16 ≤ message.payload.length := by
              unfold Message.size headerSize ifinfomsgSize at long
              omega
            have flags : read32 received ((offset : Int) + headerSize + 8) =
                some ((word32 message.payload 8).getD 0) :=
              payload_word leads (show 8 + 4 ≤ message.payload.length by omega)
            have index : read32 received ((offset : Int) + headerSize + 4) =
                some ((word32 message.payload 4).getD 0) :=
              payload_word leads (show 4 + 4 ≤ message.payload.length by omega)
            rw [flags]
            simp only [Option.bind_some]
            split
            next =>
              rw [index]
              rfl
            next => rfl

end PkgexecLinux.Network

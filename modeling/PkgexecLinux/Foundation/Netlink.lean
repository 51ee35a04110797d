import PkgexecLinux.Foundation.Words

/-!
# Netlink messages

A netlink datagram holds messages one after another, each beginning at a
multiple of four bytes.  A message is a header of 16 bytes, whose first word is
the length of the message with its header, and a payload.  `messages` cuts a
datagram into its messages the way the protocol prescribes: it stops at the
first position at which no whole message lies.
-/

namespace PkgexecLinux.Foundation.Netlink

/-- Size of the message header. -/
def headerSize : Nat := 16

structure Message where
  type : UInt16
  flags : UInt16
  sequence : UInt32
  port : UInt32
  payload : List UInt8
  deriving DecidableEq, Repr

/-- A size rounded up to the alignment of messages. -/
def alignedSize (size : Nat) : Nat := (size + 3) / 4 * 4

namespace Message

/-- The length field of a message. -/
def size (message : Message) : Nat := headerSize + message.payload.length

def bytes (message : Message) : List UInt8 :=
  encode32 (UInt32.ofNat message.size) ++ encode16 message.type ++ encode16 message.flags ++
    encode32 message.sequence ++ encode32 message.port ++ message.payload

@[simp] theorem length_bytes (message : Message) : message.bytes.length = message.size := by
  simp only [bytes, size, headerSize, List.length_append, length_encode32, length_encode16]

end Message

/-! ## Cutting a datagram -/

/-- The message with which the bytes begin. -/
def first? (bytes : List UInt8) : Option Message := do
  let length ← word32 bytes 0
  let type ← word16 bytes 4
  let flags ← word16 bytes 6
  let sequence ← word32 bytes 8
  let port ← word32 bytes 12
  if headerSize ≤ length.toNat ∧ length.toNat ≤ bytes.length then
    some ⟨type, flags, sequence, port, (bytes.drop headerSize).take (length.toNat - headerSize)⟩
  else
    none

/-- The fields of a message that lies at the beginning of the bytes. -/
structure Leads (bytes : List UInt8) (message : Message) : Prop where
  length : word32 bytes 0 = some (UInt32.ofNat message.size)
  type : word16 bytes 4 = some message.type
  flags : word16 bytes 6 = some message.flags
  sequence : word32 bytes 8 = some message.sequence
  port : word32 bytes 12 = some message.port
  bounded : message.size < 4294967296
  inside : message.size ≤ bytes.length
  payload : (bytes.drop headerSize).take message.payload.length = message.payload

theorem first?_eq_some_iff {bytes : List UInt8} {message : Message} :
    first? bytes = some message ↔ Leads bytes message := by
  constructor
  · intro found
    simp only [first?, Option.bind_eq_bind, Option.bind_eq_some_iff] at found
    rcases found with ⟨length, lengthRead, type, typeRead, flags, flagsRead, sequence,
      sequenceRead, port, portRead, found⟩
    split at found
    next fits =>
      rcases fits with ⟨lower, upper⟩
      cases found
      have bound := length.toNat_lt
      have payload : ((bytes.drop headerSize).take (length.toNat - headerSize)).length =
          length.toNat - headerSize := by
        rw [List.length_take, List.length_drop]
        omega
      have size : Message.size ⟨type, flags, sequence, port,
          (bytes.drop headerSize).take (length.toNat - headerSize)⟩ = length.toNat := by
        rw [Message.size, payload]
        omega
      refine ⟨?_, typeRead, flagsRead, sequenceRead, portRead, ?_, ?_, ?_⟩
      · rw [size, UInt32.ofNat_toNat]
        exact lengthRead
      · rw [size]
        exact bound
      · rw [size]
        exact upper
      · dsimp only
        rw [payload]
    next => cases found
  · intro leads
    have length : (UInt32.ofNat message.size).toNat = message.size :=
      UInt32.toNat_ofNat_of_lt leads.bounded
    have lower : headerSize ≤ message.size := Nat.le_add_right _ _
    have rest : message.size - headerSize = message.payload.length := by
      rw [Message.size]
      omega
    simp only [first?, leads.length, leads.type, leads.flags, leads.sequence, leads.port,
      Option.bind_eq_bind, Option.bind_some, length]
    rw [if_pos ⟨lower, leads.inside⟩, rest, leads.payload]

theorem size_pos (message : Message) : 0 < alignedSize message.size := by
  rw [alignedSize, Message.size, headerSize]
  omega

/-- A message lies within the bytes, so that there are fewer behind it. -/
theorem length_drop_lt {bytes : List UInt8} {message : Message}
    (found : first? bytes = some message) :
    (bytes.drop (alignedSize message.size)).length < bytes.length := by
  have inside := (first?_eq_some_iff.mp found).inside
  have positive := size_pos message
  have header : headerSize ≤ message.size := Nat.le_add_right _ _
  rw [List.length_drop]
  unfold headerSize at header
  omega

/-- The messages of a datagram. -/
def messages (bytes : List UInt8) : List Message :=
  match _found : first? bytes with
  | none => []
  | some message => message :: messages (bytes.drop (alignedSize message.size))
termination_by bytes.length
decreasing_by exact length_drop_lt _found

theorem messages_of_none {bytes : List UInt8} (none : first? bytes = none) :
    messages bytes = [] := by
  rw [messages]
  split
  next => rfl
  next found =>
    rw [none] at found
    cases found

theorem messages_of_leads {bytes : List UInt8} {message : Message}
    (leads : Leads bytes message) :
    messages bytes = message :: messages (bytes.drop (alignedSize message.size)) := by
  have first := first?_eq_some_iff.mpr leads
  rw [messages]
  split
  next found =>
    rw [first] at found
    cases found
  next found =>
    rw [first] at found
    cases found
    rfl

theorem messages_nil : messages [] = [] := messages_of_none rfl

/-! ## Packing -/

/-- A message and the bytes that follow it up to the next multiple of four. -/
structure Packet where
  message : Message
  padding : List UInt8

namespace Packet

def bytes (packet : Packet) : List UInt8 := packet.message.bytes ++ packet.padding

/-- Every packet but the last is padded; the padding of the last may be cut. -/
def Aligned : List Packet → Prop
  | [] => True
  | [packet] => packet.bytes.length ≤ alignedSize packet.message.size
  | packet :: rest => packet.bytes.length = alignedSize packet.message.size ∧ Aligned rest

/-- The datagram that consists of the packets. -/
def pack (packets : List Packet) : List UInt8 := packets.flatMap bytes

end Packet

theorem leads_bytes (message : Message) (bounded : message.size < 4294967296)
    (rest : List UInt8) : Leads (message.bytes ++ rest) message := by
  refine ⟨?_, ?_, ?_, ?_, ?_, bounded, ?_, ?_⟩
  · exact congrArg some (decode32_encode32 _)
  · exact congrArg some (decode16_encode16 _)
  · exact congrArg some (decode16_encode16 _)
  · exact congrArg some (decode32_encode32 _)
  · exact congrArg some (decode32_encode32 _)
  · simp
  · have dropped : (message.bytes ++ rest).drop headerSize = message.payload ++ rest := rfl
    rw [dropped, List.take_left]

/-- Packing is undone by cutting. -/
theorem messages_pack {packets : List Packet} (aligned : Packet.Aligned packets)
    (bounded : (Packet.pack packets).length < 4294967296) :
    messages (Packet.pack packets) = packets.map (·.message) := by
  induction packets with
  | nil => exact messages_nil
  | cons packet packets ih =>
      have split : Packet.pack (packet :: packets) =
          packet.message.bytes ++ (packet.padding ++ Packet.pack packets) := by
        simp [Packet.pack, Packet.bytes]
      have whole : packet.bytes.length = packet.message.size + packet.padding.length := by
        simp [Packet.bytes]
      have total : (Packet.pack (packet :: packets)).length =
          packet.bytes.length + (Packet.pack packets).length := by
        simp [Packet.pack]
      have leads : Leads (Packet.pack (packet :: packets)) packet.message := by
        rw [split]
        exact leads_bytes packet.message (by omega) _
      have onward : (Packet.pack (packet :: packets)).drop (alignedSize packet.message.size) =
          Packet.pack packets := by
        cases packets with
        | nil =>
            simp only [Packet.Aligned] at aligned
            apply List.drop_eq_nil_of_le
            rw [total]
            simpa [Packet.pack] using aligned
        | cons second packets =>
            rw [← aligned.1]
            simp [Packet.pack]
      have tail : Packet.Aligned packets := by
        cases packets with
        | nil => trivial
        | cons second packets => exact aligned.2
      rw [messages_of_leads leads, onward, ih tail (by omega), List.map_cons]

end PkgexecLinux.Foundation.Netlink

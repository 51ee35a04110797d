import Mathlib.Data.List.ReduceOption
import PkgexecLinux.Network.Messages

/-!
# What a link dump says

The receive loop of `inspect_links` meets the messages of the datagrams one after
another, wherever the kernel has cut them, and failed receptions between them.
The first message that ends the dump or reports an error, or the first failed
reception, decides; the links before it are the snapshot.
-/

namespace PkgexecLinux.Network

open Foundation Netlink

/-! ## Arrivals -/

/-- What the receive loop meets: messages, and `none` for a reception that makes it
return false. -/
def arrivals (capacity : Nat) : List Receipt → List (Option Message)
  | [] => []
  | .interrupted :: receipts => arrivals capacity receipts
  | .failed _ :: receipts => none :: arrivals capacity receipts
  | .datagram bytes :: receipts =>
      (if bytes.take capacity = [] then [none]
        else (messages (bytes.take capacity)).map some) ++ arrivals capacity receipts

section Receiving

variable {State Result : Type}

/-- Whether an exchange has returned, and with what. -/
def Attempt.verdict : Attempt Result → Option (Option Result)
  | .returned (.ok result) _ => some (some result)
  | .returned (.error _) _ => some none
  | .blocked | .fault | .unfinished => none

/-- The exchange reads outside what it received, or does not end. -/
def Attempt.broken : Attempt Result → Bool
  | .fault | .unfinished => true
  | .blocked | .returned _ _ => false

/-- The receive loop over arrivals. -/
def foldArrivals (handle : State → Message → Turn State (Except Int Result)) :
    List (Option Message) → State → Option (Option Result)
  | [], _ => none
  | none :: _, _ => some none
  | some message :: rest, state =>
      match handle state message with
      | .next state => foldArrivals handle rest state
      | .stop (.ok result) => some (some result)
      | .stop (.error _) => some none

theorem foldArrivals_messages (handle : State → Message → Turn State (Except Int Result))
    (list : List Message) (rest : List (Option Message)) (state : State) :
    foldArrivals handle (list.map some ++ rest) state =
      match foldMessages handle list state with
      | .ended state => foldArrivals handle rest state
      | .stopped (.ok result) => some (some result)
      | .stopped (.error _) => some none
      | .fault | .unfinished => none := by
  induction list generalizing state with
  | nil => rfl
  | cons message list ih =>
      simp only [List.map_cons, List.cons_append, foldArrivals, foldMessages]
      cases handle state message with
      | next state => exact ih state
      | stop result => cases result <;> rfl

/-- The receive loop depends on the arrivals alone, and is never broken. -/
theorem receive_verdict {capacity : Nat} (small : capacity < 2147483640)
    {body : List UInt8 → Int → State → Option (Turn State (Except Int Result))}
    {handle : State → Message → Turn State (Except Int Result)}
    (handles : ∀ received, Handles received (body received) handle) (socket : Socket)
    (receipts : List Receipt) (state : State) :
    (receive capacity body socket receipts state).verdict =
        foldArrivals handle (arrivals capacity receipts) state ∧
      (receive capacity body socket receipts state).broken = false := by
  induction receipts generalizing state with
  | nil => exact ⟨rfl, rfl⟩
  | cons receipt receipts ih =>
      cases receipt with
      | interrupted => exact ih state
      | failed errno => exact ⟨rfl, rfl⟩
      | datagram bytes =>
          rw [receive_datagram, arrivals]
          by_cases empty : bytes.take capacity = []
          · rw [if_pos empty, if_pos empty]
            exact ⟨rfl, rfl⟩
          · rw [if_neg empty, if_neg empty]
            have bound : (bytes.take capacity).length < 2147483640 :=
              Nat.lt_of_le_of_lt (List.length_take_le _ _) small
            rw [walk_eq (handles _) bound, foldArrivals_messages]
            have settled := foldMessages_settled handle (messages (bytes.take capacity)) state
            generalize foldMessages handle (messages (bytes.take capacity)) state = outcome
              at settled ⊢
            cases outcome with
            | ended state => exact ih state
            | stopped result => cases result <;> exact ⟨rfl, rfl⟩
            | fault => exact absurd rfl settled.1
            | unfinished => exact absurd rfl settled.2

theorem broken_andThen {First Second : Type} {attempt : Attempt First}
    {continuation : First → Socket → Attempt Second} (sound : attempt.broken = false)
    (onward : ∀ first socket, (continuation first socket).broken = false) :
    (attempt.andThen continuation).broken = false := by
  cases attempt with
  | blocked => rfl
  | fault | unfinished => cases sound
  | returned result socket =>
      cases result with
      | error errno => rfl
      | ok first => exact onward first socket

theorem broken_sendNetlink (socket : Socket) (message : Message) :
    (sendNetlink socket message).broken = false := by
  rw [sendNetlink]
  split <;> rfl

end Receiving

/-! ## Messages of a dump -/

/-- The message answers the dump request. -/
def ofDump (message : Message) : Bool := message.sequence == inspectSequence

/-- `NLMSG_DONE` of the dump. -/
def endsDump (message : Message) : Bool := ofDump message && message.type == nlmsgDone

/-- `NLMSG_ERROR` of the dump. -/
def failsDump (message : Message) : Bool := ofDump message && message.type == nlmsgError

/-- A link of the dump. -/
def isLink (message : Message) : Bool :=
  ofDump message && message.type == rtmNewlink &&
    decide (headerSize + ifinfomsgSize ≤ message.size)

/-- `ifi_flags`. -/
def linkFlags (message : Message) : UInt32 := (word32 message.payload 8).getD 0

/-- `ifi_index`. -/
def linkIndex (message : Message) : Int := signed ((word32 message.payload 4).getD 0)

/-- A link with `IFF_LOOPBACK`. -/
def isLoopback (message : Message) : Bool :=
  isLink message && linkFlags message &&& iffLoopback != 0

/-- The snapshot that a list of messages amounts to. -/
def listed (dump : List Message) : LinkSnapshot where
  count := UInt32.ofNat (dump.countP isLink)
  loopbackCount := UInt32.ofNat (dump.countP isLoopback)
  loopbackIndex := ((dump.filter isLoopback).getLast?.map linkIndex).getD 0
  loopbackFlags := ((dump.filter isLoopback).getLast?.map linkFlags).getD 0

/-- A message that does not decide the dump adds itself to the snapshot. -/
theorem inspectMessage_listed (dump : List Message) {message : Message}
    (open_ : endsDump message = false) (sound : failsDump message = false) :
    inspectMessage (listed dump) message = .next (listed (dump ++ [message])) := by
  rw [inspectMessage]
  by_cases foreign : message.sequence = inspectSequence
  · have mine : ofDump message = true := by simp [ofDump, foreign]
    have notDone : message.type ≠ nlmsgDone := by simpa [endsDump, mine] using open_
    have notError : message.type ≠ nlmsgError := by simpa [failsDump, mine] using sound
    rw [if_neg (not_not.mpr foreign), if_neg notDone, if_neg notError]
    by_cases other : message.type = rtmNewlink
    · rw [if_neg (not_not.mpr other)]
      by_cases short : message.size < headerSize + ifinfomsgSize
      · have no : isLink message = false := by simp [isLink, Nat.not_le.mpr short]
        rw [if_pos short]
        simp [listed, isLoopback, no]
      · have yes : isLink message = true := by
          simp [isLink, mine, other, Nat.not_lt.mp short]
        rw [if_neg short]
        dsimp only
        by_cases loops : (word32 message.payload 8).getD 0 &&& iffLoopback = 0
        · have plain : isLoopback message = false := by simp [isLoopback, linkFlags, loops]
          rw [if_neg (not_not.mpr loops)]
          simp [listed, yes, plain, UInt32.ofNat_add]
        · have loopback : isLoopback message = true := by
            simp [isLoopback, linkFlags, yes, loops]
          rw [if_pos loops]
          simp [listed, yes, loopback, UInt32.ofNat_add, linkFlags, linkIndex]
    · have no : isLink message = false := by simp [isLink, other]
      rw [if_pos other]
      simp [listed, isLoopback, no]
  · have no : isLink message = false := by simp [isLink, ofDump, foreign]
    rw [if_pos foreign]
    simp [listed, isLoopback, no]

theorem foldArrivals_done {done : Message} (ends : endsDump done = true)
    (rest : List (Option Message)) (snapshot : LinkSnapshot) :
    foldArrivals inspectMessage (some done :: rest) snapshot = some (some snapshot) := by
  simp only [endsDump, ofDump, Bool.and_eq_true, beq_iff_eq] at ends
  simp [foldArrivals, inspectMessage, ends.1, ends.2]

theorem foldArrivals_failed {arrival : Option Message}
    (fails : arrival.all failsDump = true) (rest : List (Option Message))
    (snapshot : LinkSnapshot) :
    foldArrivals inspectMessage (arrival :: rest) snapshot = some none := by
  cases arrival with
  | none => rfl
  | some message =>
      simp only [Option.all_some, failsDump, ofDump, Bool.and_eq_true, beq_iff_eq] at fails
      have notDone : nlmsgError ≠ nlmsgDone := by decide
      by_cases short : message.size < headerSize + nlmsgerrSize <;>
        simp [foldArrivals, inspectMessage, fails.1, fails.2, notDone, short]

/-! ## The decision -/

/-- The arrival ends the dump. -/
def isDone (arrival : Option Message) : Bool := arrival.any endsDump

/-- The arrival makes `inspect_links` return false. -/
def isFailure (arrival : Option Message) : Bool := arrival.all failsDump

/-- What arrives before the end of the dump. -/
def beforeDone (arriving : List (Option Message)) : List (Option Message) :=
  arriving.takeWhile fun arrival => !isDone arrival

/-- The dump is refused before its end is reached. -/
def failsEarly (arriving : List (Option Message)) : Bool := (beforeDone arriving).any isFailure

/-- A dump that has an end is refused, or is taken for the links before its end. -/
theorem foldArrivals_dump (dump : List Message) {arriving : List (Option Message)}
    (ends : arriving.any isDone = true) :
    foldArrivals inspectMessage arriving (listed dump) =
      if failsEarly arriving then some none
      else some (some (listed (dump ++ (beforeDone arriving).reduceOption))) := by
  induction arriving generalizing dump with
  | nil => cases ends
  | cons arrival arriving ih =>
      by_cases done : isDone arrival = true
      · obtain ⟨message, rfl⟩ : ∃ message, arrival = some message := by
          cases arrival with
          | none => cases done
          | some message => exact ⟨message, rfl⟩
        rw [foldArrivals_done done]
        simp [failsEarly, beforeDone, done, List.reduceOption]
      · have undone : isDone arrival = false := eq_false_of_ne_true done
        have before : beforeDone (arrival :: arriving) = arrival :: beforeDone arriving := by
          simp [beforeDone, undone]
        by_cases failure : isFailure arrival = true
        · have early : failsEarly (arrival :: arriving) = true := by
            simp [failsEarly, before, failure]
          rw [foldArrivals_failed failure, if_pos early]
        · have sound : isFailure arrival = false := eq_false_of_ne_true failure
          obtain ⟨message, rfl⟩ : ∃ message, arrival = some message := by
            cases arrival with
            | none => cases sound
            | some message => exact ⟨message, rfl⟩
          have later : arriving.any isDone = true := by simpa [undone] using ends
          have same : failsEarly (some message :: arriving) = failsEarly arriving := by
            simp [failsEarly, before, sound]
          rw [foldArrivals, inspectMessage_listed dump undone sound, same, before,
            List.reduceOption_cons_of_some]
          dsimp only
          rw [ih (dump ++ [message]) later, List.append_assoc, List.singleton_append]

end PkgexecLinux.Network

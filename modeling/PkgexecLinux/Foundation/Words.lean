import Mathlib.Data.List.Basic

/-!
# Words in memory

Words of 16 and 32 bits as they lie in the memory of a little-endian machine,
and reads of a word at an offset.  A read that is not covered by the bytes gives
nothing.
-/

namespace PkgexecLinux.Foundation

/-- The bytes of a 16-bit word, least significant first. -/
def encode16 (word : UInt16) : List UInt8 :=
  [UInt8.ofNat word.toNat, UInt8.ofNat (word.toNat / 256)]

def decode16 (first second : UInt8) : UInt16 :=
  UInt16.ofNat (first.toNat + 256 * second.toNat)

/-- The bytes of a 32-bit word, least significant first. -/
def encode32 (word : UInt32) : List UInt8 :=
  [UInt8.ofNat word.toNat, UInt8.ofNat (word.toNat / 256),
    UInt8.ofNat (word.toNat / 65536), UInt8.ofNat (word.toNat / 16777216)]

def decode32 (first second third fourth : UInt8) : UInt32 :=
  UInt32.ofNat (first.toNat + 256 * second.toNat + 65536 * third.toNat +
    16777216 * fourth.toNat)

@[simp] theorem length_encode16 (word : UInt16) : (encode16 word).length = 2 := rfl

@[simp] theorem length_encode32 (word : UInt32) : (encode32 word).length = 4 := rfl

theorem decode16_encode16 (word : UInt16) :
    decode16 (UInt8.ofNat word.toNat) (UInt8.ofNat (word.toNat / 256)) = word := by
  have bound := word.toNat_lt
  apply UInt16.toNat_inj.mp
  simp only [decode16, UInt16.toNat_ofNat', UInt8.toNat_ofNat']
  omega

theorem decode32_encode32 (word : UInt32) :
    decode32 (UInt8.ofNat word.toNat) (UInt8.ofNat (word.toNat / 256))
      (UInt8.ofNat (word.toNat / 65536)) (UInt8.ofNat (word.toNat / 16777216)) = word := by
  have bound := word.toNat_lt
  apply UInt32.toNat_inj.mp
  simp only [decode32, UInt32.toNat_ofNat', UInt8.toNat_ofNat']
  omega

/-! ## Reads at an offset -/

/-- The 16-bit word at an offset, if it lies inside the bytes. -/
def word16 (bytes : List UInt8) (offset : Nat) : Option UInt16 :=
  match bytes.drop offset with
  | first :: second :: _ => some (decode16 first second)
  | _ => none

/-- The 32-bit word at an offset, if it lies inside the bytes. -/
def word32 (bytes : List UInt8) (offset : Nat) : Option UInt32 :=
  match bytes.drop offset with
  | first :: second :: third :: fourth :: _ => some (decode32 first second third fourth)
  | _ => none

theorem word16_drop (bytes : List UInt8) (skipped offset : Nat) :
    word16 (bytes.drop skipped) offset = word16 bytes (skipped + offset) := by
  simp only [word16, List.drop_drop]

theorem word32_drop (bytes : List UInt8) (skipped offset : Nat) :
    word32 (bytes.drop skipped) offset = word32 bytes (skipped + offset) := by
  simp only [word32, List.drop_drop]

theorem word16_inside {bytes : List UInt8} {offset : Nat} (inside : offset + 2 ≤ bytes.length) :
    ∃ word, word16 bytes offset = some word := by
  rw [word16]
  have size : (bytes.drop offset).length = bytes.length - offset := List.length_drop
  generalize bytes.drop offset = rest at size
  match rest, size with
  | first :: second :: _, _ => exact ⟨_, rfl⟩
  | [_], size | [], size => simp at size; omega

theorem word32_inside {bytes : List UInt8} {offset : Nat} (inside : offset + 4 ≤ bytes.length) :
    ∃ word, word32 bytes offset = some word := by
  rw [word32]
  have size : (bytes.drop offset).length = bytes.length - offset := List.length_drop
  generalize bytes.drop offset = rest at size
  match rest, size with
  | first :: second :: third :: fourth :: _, _ => exact ⟨_, rfl⟩
  | [_, _, _], size | [_, _], size | [_], size | [], size => simp at size; omega

/-- A read inside a leading part of the bytes does not see what follows it. -/
theorem word32_take {bytes : List UInt8} {size offset : Nat} (inside : offset + 4 ≤ size) :
    word32 (bytes.take size) offset = word32 bytes offset := by
  unfold word32
  rw [List.drop_take]
  obtain ⟨extra, rfl⟩ : ∃ extra, size = offset + 4 + extra := ⟨size - (offset + 4), by omega⟩
  rw [show offset + 4 + extra - offset = extra + 1 + 1 + 1 + 1 by omega]
  match bytes.drop offset with
  | [] | [_] | [_, _] | [_, _, _] => rfl
  | _ :: _ :: _ :: _ :: _ => rfl

end PkgexecLinux.Foundation

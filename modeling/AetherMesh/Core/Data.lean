import Mathlib.Algebra.Group.Nat.Defs
import Mathlib.Data.List.Basic

/-! Identifiers and content addresses, and the text they are displayed as. -/

namespace AetherMesh

abbrev Bytes := List UInt8

def asBytes (text : String) : Bytes :=
  text.toByteArray.data.toList

structure NodeId where
  uuid : BitVec 128
deriving DecidableEq

structure TaskId where
  uuid : BitVec 128
deriving DecidableEq

def dataIdLen : Nat := 32

structure DataId where
  asBytes : Bytes
  size : asBytes.length = dataIdLen
deriving DecidableEq

structure DataDescriptor where
  id : DataId
  sizeBytes : Nat
deriving DecidableEq

def hexByte (byte : UInt8) : List Char :=
  [Nat.digitChar (byte.toNat / 16), Nat.digitChar (byte.toNat % 16)]

def DataId.display (id : DataId) : String :=
  String.ofList (id.asBytes.flatMap hexByte)

def uuidDigits (uuid : BitVec 128) (start count : Nat) : List Char :=
  (List.range count).map fun index =>
    Nat.digitChar (uuid.toNat / 16 ^ (31 - (start + index)) % 16)

def uuidText (uuid : BitVec 128) : List Char :=
  uuidDigits uuid 0 8 ++ '-' :: uuidDigits uuid 8 4 ++ '-' :: uuidDigits uuid 12 4 ++
    '-' :: uuidDigits uuid 16 4 ++ '-' :: uuidDigits uuid 20 12

theorem asBytes_injective {left right : String} (same : asBytes left = asBytes right) :
    left = right := by
  apply String.toByteArray_inj.mp
  apply ByteArray.ext
  exact Array.toList_inj.mp same

theorem digitChar_injective : ∀ left < 16, ∀ right < 16,
    Nat.digitChar left = Nat.digitChar right → left = right := by
  decide

theorem hexByte_injective {left right : UInt8} (same : hexByte left = hexByte right) :
    left = right := by
  have leftBound := left.toNat_lt
  have rightBound := right.toNat_lt
  simp only [hexByte, List.cons.injEq, and_true] at same
  have high := digitChar_injective _ (by omega) _ (by omega) same.1
  have low := digitChar_injective _ (by omega) _ (by omega) same.2
  apply UInt8.toNat_inj.mp
  omega

theorem flatMap_hexByte_injective {left right : Bytes}
    (same : left.flatMap hexByte = right.flatMap hexByte) : left = right := by
  induction left generalizing right with
  | nil =>
      cases right with
      | nil => rfl
      | cons byte rest => simp [hexByte] at same
  | cons byte rest ih =>
      cases right with
      | nil => simp [hexByte] at same
      | cons other others =>
          have parts := List.append_inj same (by simp [hexByte])
          rw [hexByte_injective parts.1, ih parts.2]

theorem DataId.display_injective {left right : DataId} (same : left.display = right.display) :
    left = right := by
  have bytes : left.asBytes = right.asBytes :=
    flatMap_hexByte_injective (String.ofList_injective same)
  cases left
  cases right
  simpa using bytes

end AetherMesh

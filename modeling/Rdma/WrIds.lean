import Mathlib.Tactic.NormNum
import Rdma.BitFields
import Rdma.Types

/-!
Work request ids (`wr_id.h`). A work request id packs a connection id, an
operation code, a generation and a slot index into 64 bits; each getter reads
its field back from every encoded id.
-/
namespace Rdma.WrIds
open Rdma.Types Rdma.BitFields

/-- `[ 16 bits conn_id | 8 bits opcode | 8 bits generation | 32 bits slot_index ]` -/
def encode (connId : UInt16) (opcode : RpcOpcode) (generation : UInt8) (slotIndex : UInt32) : UInt64 :=
  connId.toUInt64 <<< 48 ||| opcode.value.toUInt64 <<< 40 ||| generation.toUInt64 <<< 32 ||| slotIndex.toUInt64

def getConnId (wrId : UInt64) : UInt16 := (wrId >>> 48).toUInt16
/-- The value of the opcode field. -/
def getOpcode (wrId : UInt64) : UInt8 := (wrId >>> 40 &&& 0xFF).toUInt8
def getGeneration (wrId : UInt64) : UInt8 := (wrId >>> 32 &&& 0xFF).toUInt8
def getSlotIndex (wrId : UInt64) : UInt32 := (wrId &&& 0xFFFFFFFF).toUInt32

theorem getConnId_toNat (wrId : UInt64) : (getConnId wrId).toNat = wrId.toNat / 2 ^ 48 := by
  have := wrId.toNat_lt
  simp only [getConnId, UInt64.toNat_toUInt16, UInt64.toNat_shiftRight, Nat.shiftRight_eq_div_pow,
    UInt64.reduceToNat, Nat.reduceMod]
  omega

theorem getOpcode_toNat (wrId : UInt64) : (getOpcode wrId).toNat = wrId.toNat / 2 ^ 40 % 2 ^ 8 := by
  simp only [getOpcode, UInt64.toNat_toUInt8, UInt64.toNat_and, UInt64.toNat_shiftRight,
    Nat.shiftRight_eq_div_pow, UInt64.reduceToNat, Nat.reduceMod]
  rw [mask_eq_mod 8 _ rfl]
  omega

theorem getGeneration_toNat (wrId : UInt64) : (getGeneration wrId).toNat = wrId.toNat / 2 ^ 32 % 2 ^ 8 := by
  simp only [getGeneration, UInt64.toNat_toUInt8, UInt64.toNat_and, UInt64.toNat_shiftRight,
    Nat.shiftRight_eq_div_pow, UInt64.reduceToNat, Nat.reduceMod]
  rw [mask_eq_mod 8 _ rfl]
  omega

theorem getSlotIndex_toNat (wrId : UInt64) : (getSlotIndex wrId).toNat = wrId.toNat % 2 ^ 32 := by
  simp only [getSlotIndex, UInt64.toNat_toUInt32, UInt64.toNat_and, UInt64.reduceToNat]
  rw [mask_eq_mod 32 _ rfl]
  omega

theorem encode_toNat (connId : UInt16) (opcode : RpcOpcode) (generation : UInt8) (slotIndex : UInt32) :
    (encode connId opcode generation slotIndex).toNat =
      connId.toNat * 2 ^ 48 + opcode.value.toNat * 2 ^ 40 + generation.toNat * 2 ^ 32 + slotIndex.toNat := by
  have c := connId.toNat_lt
  have o := opcode.value.toNat_lt
  have g := generation.toNat_lt
  have s := slotIndex.toNat_lt
  simp only [encode, UInt64.toNat_or, UInt64.toNat_shiftLeft, UInt16.toNat_toUInt64, UInt8.toNat_toUInt64,
    UInt32.toNat_toUInt64, UInt64.reduceToNat, Nat.reduceMod, Nat.shiftLeft_eq]
  rw [Nat.mod_eq_of_lt (by omega), Nat.mod_eq_of_lt (by omega), Nat.mod_eq_of_lt (by omega)]
  have two : connId.toNat * 2 ^ 48 ||| opcode.value.toNat * 2 ^ 40 =
      connId.toNat * 2 ^ 48 + opcode.value.toNat * 2 ^ 40 := or_eq_add 48 (by omega) (by omega)
  rw [two]
  have three : connId.toNat * 2 ^ 48 + opcode.value.toNat * 2 ^ 40 ||| generation.toNat * 2 ^ 32 =
      connId.toNat * 2 ^ 48 + opcode.value.toNat * 2 ^ 40 + generation.toNat * 2 ^ 32 :=
    or_eq_add 40 (by omega) (by omega)
  rw [three]
  exact or_eq_add 32 (by omega) (by omega)

@[simp] theorem getConnId_encode (connId : UInt16) (opcode : RpcOpcode) (generation : UInt8) (slotIndex : UInt32) :
    getConnId (encode connId opcode generation slotIndex) = connId := by
  have o := opcode.value.toNat_lt
  have g := generation.toNat_lt
  have s := slotIndex.toNat_lt
  apply UInt16.toNat_inj.mp
  rw [getConnId_toNat, encode_toNat]
  omega

@[simp] theorem getOpcode_encode (connId : UInt16) (opcode : RpcOpcode) (generation : UInt8) (slotIndex : UInt32) :
    getOpcode (encode connId opcode generation slotIndex) = opcode.value := by
  have o := opcode.value.toNat_lt
  have g := generation.toNat_lt
  have s := slotIndex.toNat_lt
  apply UInt8.toNat_inj.mp
  rw [getOpcode_toNat, encode_toNat]
  omega

@[simp] theorem getGeneration_encode (connId : UInt16) (opcode : RpcOpcode) (generation : UInt8)
    (slotIndex : UInt32) : getGeneration (encode connId opcode generation slotIndex) = generation := by
  have g := generation.toNat_lt
  have s := slotIndex.toNat_lt
  apply UInt8.toNat_inj.mp
  rw [getGeneration_toNat, encode_toNat]
  omega

@[simp] theorem getSlotIndex_encode (connId : UInt16) (opcode : RpcOpcode) (generation : UInt8)
    (slotIndex : UInt32) : getSlotIndex (encode connId opcode generation slotIndex) = slotIndex := by
  have s := slotIndex.toNat_lt
  apply UInt32.toNat_inj.mp
  rw [getSlotIndex_toNat, encode_toNat]
  omega

/-- A bare slot index, not encoded, reads as connection 0 and generation 0. -/
theorem bare_fields (slotIndex : UInt32) :
    getConnId slotIndex.toUInt64 = 0 ∧ getGeneration slotIndex.toUInt64 = 0 ∧
      getSlotIndex slotIndex.toUInt64 = slotIndex := by
  have s := slotIndex.toNat_lt
  refine ⟨UInt16.toNat_inj.mp ?_, UInt8.toNat_inj.mp ?_, UInt32.toNat_inj.mp ?_⟩
  · rw [getConnId_toNat, UInt32.toNat_toUInt64]; simp; omega
  · rw [getGeneration_toNat, UInt32.toNat_toUInt64]; simp; omega
  · rw [getSlotIndex_toNat, UInt32.toNat_toUInt64]; omega

end Rdma.WrIds

import Mathlib.Tactic.NormNum
import Rdma.BitFields
import Rdma.Types

/-!
What the framework uses of verbs: work requests, work completions, and the
device behind `ibv_post_send` and `ibv_post_recv`. The device accepts or
rejects each work request as it likes: `sendAnswer k` and `recvAnswer k` are
its answers to the k-th call, `none` for success and an error number
otherwise. It keeps every work request handed to it with its answer.
-/
namespace Rdma.Verbs
open Rdma.BitFields

inductive WrOpcode
  | send
  | rdmaWrite
  | rdmaWriteWithImm
  | rdmaRead
  deriving DecidableEq, Repr

structure Sge where
  addr : UInt64
  length : UInt32
  lkey : UInt32
  deriving DecidableEq, Repr

/-- `signaled` and `inlined` are the bits `IBV_SEND_SIGNALED` and `IBV_SEND_INLINE` of the send flags. -/
structure SendWr where
  wrId : UInt64
  opcode : WrOpcode
  signaled : Bool
  inlined : Bool := false
  sgList : List Sge
  immData : UInt32 := 0
  remoteAddr : UInt64 := 0
  rkey : UInt32 := 0
  deriving DecidableEq, Repr

structure RecvWr where
  wrId : UInt64
  sgList : List Sge
  deriving DecidableEq, Repr

/-- A work completion; status 0 is `IBV_WC_SUCCESS`. -/
structure Wc where
  wrId : UInt64
  status : UInt32 := 0
  immData : UInt32 := 0
  deriving DecidableEq, Repr

structure Device where
  sendAnswer : Nat → Option Int
  recvAnswer : Nat → Option Int
  sends : List (SendWr × Bool)
  recvs : List (RecvWr × Bool)

/-- The answer the device gives to the next `ibv_post_send`. -/
def Device.nextAnswer (device : Device) : Option Int := device.sendAnswer device.sends.length

def Device.ibvPostSend (device : Device) (wr : SendWr) : Option Int × Device :=
  (device.nextAnswer, { device with sends := device.sends ++ [(wr, device.nextAnswer.isNone)] })

def Device.ibvPostRecv (device : Device) (wr : RecvWr) : Option Int × Device :=
  let answer := device.recvAnswer device.recvs.length
  (answer, { device with recvs := device.recvs ++ [(wr, answer.isNone)] })

/-- `htonl` and `ntohl` of a little-endian host: the four bytes in reverse order. -/
def htonl (word : UInt32) : UInt32 :=
  word <<< 24 ||| (word &&& (0xFF00 : UInt32)) <<< 8 ||| (word >>> 8 &&& (0xFF00 : UInt32)) ||| word >>> 24

def ntohl (word : UInt32) : UInt32 := htonl word

/-! ### Byte order -/

private theorem second_byte (word : Nat) : word &&& 65280 = word / 256 % 256 * 256 := by
  have shifted := and_shiftLeft word 255 8
  rwa [mask_eq_mod 8 _ rfl, Nat.shiftRight_eq_div_pow, Nat.shiftLeft_eq, Nat.shiftLeft_eq] at shifted

/-- The four bytes of a word, reversed. -/
theorem htonl_toNat {word : UInt32} {first second third fourth : Nat} (low : first < 256 ∧ second < 256)
    (high : third < 256 ∧ fourth < 256)
    (bytes : word.toNat = fourth * 2 ^ 24 + third * 2 ^ 16 + second * 2 ^ 8 + first) :
    (htonl word).toNat = first * 2 ^ 24 + second * 2 ^ 16 + third * 2 ^ 8 + fourth := by
  have up : word.toNat * 2 ^ 24 % 2 ^ 32 = first * 2 ^ 24 := by
    have lowest : word.toNat % 2 ^ 8 = first := by omega
    rw [show 2 ^ 32 = 2 ^ 8 * 2 ^ 24 by norm_num, Nat.mul_mod_mul_right, lowest]
  have inner : word.toNat / 256 % 256 = second := by omega
  have outer : word.toNat / 2 ^ 8 / 256 % 256 = third := by omega
  have down : word.toNat / 2 ^ 24 = fourth := by omega
  have shifted : second * 256 * 2 ^ 8 % 2 ^ 32 = second * 2 ^ 16 := by
    rw [Nat.mul_assoc, Nat.mod_eq_of_lt (by omega)]
    norm_num
  simp only [htonl, UInt32.toNat_or, UInt32.toNat_and, UInt32.toNat_shiftLeft, UInt32.toNat_shiftRight,
    UInt32.reduceToNat, Nat.reduceMod, Nat.shiftLeft_eq, Nat.shiftRight_eq_div_pow, second_byte, up, inner, outer, down,
    shifted]
  have two : first * 2 ^ 24 ||| second * 2 ^ 16 = first * 2 ^ 24 + second * 2 ^ 16 :=
    or_eq_add 24 (by omega) (by omega)
  have three : first * 2 ^ 24 + second * 2 ^ 16 ||| third * 256 = first * 2 ^ 24 + second * 2 ^ 16 + third * 256 :=
    or_eq_add 16 (by omega) (by omega)
  rw [two, three]
  exact or_eq_add 8 (by omega) (by omega)

theorem word_bytes (word : UInt32) : ∃ first second third fourth, (first < 256 ∧ second < 256) ∧
    (third < 256 ∧ fourth < 256) ∧ word.toNat = fourth * 2 ^ 24 + third * 2 ^ 16 + second * 2 ^ 8 + first := by
  have bound := word.toNat_lt
  have two : word.toNat / 256 / 256 = word.toNat / 2 ^ 16 := Nat.div_div_eq_div_mul ..
  have three : word.toNat / 2 ^ 16 / 256 = word.toNat / 2 ^ 24 := Nat.div_div_eq_div_mul ..
  exact ⟨word.toNat % 256, word.toNat / 256 % 256, word.toNat / 2 ^ 16 % 256, word.toNat / 2 ^ 24, by omega, by omega,
    by omega⟩

theorem htonl_htonl (word : UInt32) : htonl (htonl word) = word := by
  obtain ⟨first, second, third, fourth, low, high, bytes⟩ := word_bytes word
  have once := htonl_toNat low high bytes
  apply UInt32.toNat_inj.mp
  rw [htonl_toNat ⟨high.2, high.1⟩ ⟨low.2, low.1⟩ once, bytes]

end Rdma.Verbs

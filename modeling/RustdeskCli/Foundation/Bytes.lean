import Mathlib.Data.UInt
import Mathlib.Tactic.Ring
set_option autoImplicit false

/-!
# Foundation: byte strings and little-endian integers

Byte strings are lists of `UInt8`.  The machine operations `to_le_bytes` and
`from_le_bytes` are written on the fixed-width types and read back as ordinary
numbers through `leValue`, so that the codec and the nonce layout above them
reason in `Nat`.
-/

namespace RustdeskCli.Foundation

/-- A byte string. -/
abbrev Bytes := List UInt8

/-- The number a little-endian byte string denotes. -/
def leValue : Bytes → Nat
  | [] => 0
  | b :: bs => b.toNat + 256 * leValue bs

@[simp] theorem leValue_nil : leValue [] = 0 := rfl

@[simp] theorem leValue_cons (b : UInt8) (bs : Bytes) :
    leValue (b :: bs) = b.toNat + 256 * leValue bs := rfl

/-- Zero bytes at the high end do not change the value. -/
theorem leValue_append_zeros (bs : Bytes) (n : Nat) :
    leValue (bs ++ List.replicate n 0) = leValue bs := by
  induction bs with
  | nil =>
      induction n with
      | zero => rfl
      | succ n ih => simpa [List.replicate_succ] using ih
  | cons b bs ih => simp [ih]

theorem leValue_lt (bs : Bytes) : leValue bs < 256 ^ bs.length := by
  induction bs with
  | nil => simp
  | cons b bs ih =>
      have hb : b.toNat < 256 := b.toNat_lt
      have hstep : 256 * (leValue bs + 1) ≤ 256 * 256 ^ bs.length :=
        Nat.mul_le_mul_left _ ih
      have hpow : 256 ^ (bs.length + 1) = 256 * 256 ^ bs.length := by ring
      simp only [leValue_cons, List.length_cons]
      omega

/-- `u16::to_le_bytes`. -/
def u16ToLeBytes (v : UInt16) : Bytes := [v.toUInt8, (v >>> 8).toUInt8]

/-- `u32::to_le_bytes`. -/
def u32ToLeBytes (v : UInt32) : Bytes :=
  [v.toUInt8, (v >>> 8).toUInt8, (v >>> 16).toUInt8, (v >>> 24).toUInt8]

/-- `u64::to_le_bytes`. -/
def u64ToLeBytes (v : UInt64) : Bytes :=
  [v.toUInt8, (v >>> 8).toUInt8, (v >>> 16).toUInt8, (v >>> 24).toUInt8,
    (v >>> 32).toUInt8, (v >>> 40).toUInt8, (v >>> 48).toUInt8, (v >>> 56).toUInt8]

/-- `u32::from_le_bytes` of the four bytes of an array. -/
def u32FromLeBytes (raw : Bytes) : UInt32 := UInt32.ofNat (leValue raw)

@[simp] theorem length_u16ToLeBytes (v : UInt16) : (u16ToLeBytes v).length = 2 := rfl

@[simp] theorem length_u32ToLeBytes (v : UInt32) : (u32ToLeBytes v).length = 4 := rfl

@[simp] theorem length_u64ToLeBytes (v : UInt64) : (u64ToLeBytes v).length = 8 := rfl

theorem leValue_u16ToLeBytes (v : UInt16) : leValue (u16ToLeBytes v) = v.toNat := by
  have h := v.toNat_lt
  simp only [u16ToLeBytes, leValue_cons, leValue_nil, UInt16.toNat_toUInt8,
    UInt16.toNat_shiftRight, UInt16.reduceToNat, Nat.shiftRight_eq_div_pow, Nat.reducePow,
    Nat.reduceMod, Nat.mul_zero, Nat.add_zero]
  omega

theorem leValue_u32ToLeBytes (v : UInt32) : leValue (u32ToLeBytes v) = v.toNat := by
  have h := v.toNat_lt
  simp only [u32ToLeBytes, leValue_cons, leValue_nil, UInt32.toNat_toUInt8,
    UInt32.toNat_shiftRight, UInt32.reduceToNat, Nat.shiftRight_eq_div_pow, Nat.reducePow,
    Nat.reduceMod, Nat.mul_zero, Nat.add_zero]
  omega

theorem leValue_u64ToLeBytes (v : UInt64) : leValue (u64ToLeBytes v) = v.toNat := by
  have h := v.toNat_lt
  simp only [u64ToLeBytes, leValue_cons, leValue_nil, UInt64.toNat_toUInt8,
    UInt64.toNat_shiftRight, UInt64.reduceToNat, Nat.shiftRight_eq_div_pow, Nat.reducePow,
    Nat.reduceMod, Nat.mul_zero, Nat.add_zero]
  omega

/-- Dropping the top byte of a number below `2 ^ 24` loses nothing. -/
theorem leValue_take_three_u32ToLeBytes {v : UInt32} (h : v.toNat < 2 ^ 24) :
    leValue ((u32ToLeBytes v).take 3) = v.toNat := by
  simp only [u32ToLeBytes, List.take_succ_cons, List.take_zero, leValue_cons, leValue_nil,
    UInt32.toNat_toUInt8, UInt32.toNat_shiftRight, UInt32.reduceToNat,
    Nat.shiftRight_eq_div_pow, Nat.reducePow, Nat.reduceMod, Nat.mul_zero, Nat.add_zero]
  omega

theorem u64ToLeBytes_injective : Function.Injective u64ToLeBytes := by
  intro v w h
  apply UInt64.toNat_inj.mp
  rw [← leValue_u64ToLeBytes v, ← leValue_u64ToLeBytes w, h]

/-- `from_le_bytes` of an array of at most four bytes denotes their value. -/
theorem toNat_u32FromLeBytes {raw : Bytes} (h : raw.length ≤ 4) :
    (u32FromLeBytes raw).toNat = leValue raw := by
  have hlt : leValue raw < 2 ^ 32 := by
    calc leValue raw < 256 ^ raw.length := leValue_lt raw
      _ ≤ 256 ^ 4 := Nat.pow_le_pow_right (by decide) h
      _ = 2 ^ 32 := by norm_num
  simp only [u32FromLeBytes, UInt32.toNat_ofNat']
  exact Nat.mod_eq_of_lt hlt

end RustdeskCli.Foundation

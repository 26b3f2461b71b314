import Mathlib.Algebra.GroupWithZero.Nat
import Mathlib.Data.Nat.Basic

/-!
# Fixed-width numbers as bytes

`leBytes w n` is the number `n` in `w` bytes, least significant first, and
`leValue` reads such bytes back; they undo each other (`leValue_leBytes`,
`leBytes_leValue`). A host keeps a number in its own byte order
(`nativeBytes`), and code that writes a file in little-endian order reverses
these bytes on a big-endian host: `fileBytes` and `fileValue` do that, and
`fileBytes_eq`, `fileValue_eq` say that the host's order is then not visible.
-/

namespace WSE.Framework

abbrev Byte := UInt8
abbrev Bytes := List Byte

/-- The low `w` bytes of `n`, least significant first. -/
def leBytes : Nat → Nat → Bytes
  | 0, _ => []
  | w + 1, n => UInt8.ofNat n :: leBytes w (n / 256)

/-- The number whose bytes, least significant first, are `bs`. -/
def leValue : Bytes → Nat
  | [] => 0
  | b :: bs => b.toNat + 256 * leValue bs

@[simp] theorem length_leBytes (w n : Nat) : (leBytes w n).length = w := by
  induction w generalizing n with
  | zero => rfl
  | succ w ih => rw [leBytes, List.length_cons, ih]

theorem leValue_lt (bs : Bytes) : leValue bs < 256 ^ bs.length := by
  induction bs with
  | nil => simp [leValue]
  | cons b bs ih =>
    have hb := b.toNat_lt
    rw [leValue, List.length_cons, Nat.pow_succ]
    omega

theorem leValue_leBytes (w : Nat) {n : Nat} (h : n < 256 ^ w) : leValue (leBytes w n) = n := by
  induction w generalizing n with
  | zero => simp only [Nat.pow_zero, Nat.lt_one_iff] at h; rw [h]; rfl
  | succ w ih =>
    have hd : n / 256 < 256 ^ w := by
      rw [Nat.pow_succ] at h
      exact Nat.div_lt_of_lt_mul (by omega)
    rw [leBytes, leValue, ih hd, UInt8.toNat_ofNat']
    omega

theorem leBytes_leValue (bs : Bytes) : leBytes bs.length (leValue bs) = bs := by
  induction bs with
  | nil => rfl
  | cons b bs ih =>
    have hb := b.toNat_lt
    have hq : (b.toNat + 256 * leValue bs) / 256 = leValue bs := by omega
    have hr : UInt8.ofNat (b.toNat + 256 * leValue bs) = b := by
      apply UInt8.toNat_inj.mp
      rw [UInt8.toNat_ofNat']
      omega
    rw [List.length_cons, leBytes, leValue, hq, hr, ih]

/-! ## The host's byte order -/

/-- The object representation of `n` in `w` bytes on a host. -/
def nativeBytes (bigEndian : Bool) (w n : Nat) : Bytes :=
  if bigEndian then (leBytes w n).reverse else leBytes w n

/-- The number a host represents by `bs`. -/
def nativeValue (bigEndian : Bool) (bs : Bytes) : Nat :=
  leValue (if bigEndian then bs.reverse else bs)

@[simp] theorem length_nativeBytes (bigEndian : Bool) (w n : Nat) :
    (nativeBytes bigEndian w n).length = w := by
  cases bigEndian <;> simp [nativeBytes]

theorem nativeValue_lt (bigEndian : Bool) (bs : Bytes) :
    nativeValue bigEndian bs < 256 ^ bs.length := by
  cases bigEndian with
  | false => exact leValue_lt bs
  | true =>
    have h := leValue_lt bs.reverse
    rwa [List.length_reverse] at h

theorem nativeBytes_nativeValue (bigEndian : Bool) (bs : Bytes) :
    nativeBytes bigEndian bs.length (nativeValue bigEndian bs) = bs := by
  cases bigEndian with
  | false => exact leBytes_leValue bs
  | true =>
    have h := leBytes_leValue bs.reverse
    rw [List.length_reverse] at h
    show (leBytes bs.length (leValue bs.reverse)).reverse = bs
    rw [h, List.reverse_reverse]

theorem nativeValue_nativeBytes (bigEndian : Bool) {w n : Nat} (h : n < 256 ^ w) :
    nativeValue bigEndian (nativeBytes bigEndian w n) = n := by
  cases bigEndian with
  | false => exact leValue_leBytes w h
  | true =>
    show leValue (leBytes w n).reverse.reverse = n
    rw [List.reverse_reverse, leValue_leBytes w h]

/-- `memcpy` to a byte buffer, then the reversal of a big-endian host. -/
def fileBytes (bigEndian : Bool) (w n : Nat) : Bytes :=
  if bigEndian then (nativeBytes bigEndian w n).reverse else nativeBytes bigEndian w n

/-- The reversal of a big-endian host, then `memcpy` to a number. -/
def fileValue (bigEndian : Bool) (bs : Bytes) : Nat :=
  nativeValue bigEndian (if bigEndian then bs.reverse else bs)

@[simp] theorem fileBytes_eq (bigEndian : Bool) (w n : Nat) :
    fileBytes bigEndian w n = leBytes w n := by
  cases bigEndian <;> simp [fileBytes, nativeBytes]

@[simp] theorem fileValue_eq (bigEndian : Bool) (bs : Bytes) :
    fileValue bigEndian bs = leValue bs := by
  cases bigEndian <;> simp [fileValue, nativeValue]

end WSE.Framework

/-
**Little-endian numbers as byte strings.**

`le w n` is the string of the `w` low bytes of `n`, least significant first, and `ofLe` reads any
byte string back as a number.  The two are inverse on the numbers below `256 ^ w` and on the
strings of length `w`, which is all that a fixed-width header, a pointer word or a data field ever
needs.

Main definitions:

* `LittleEndian.le`, `LittleEndian.ofLe` — writing and reading at any width;
* `LittleEndian.le32`, `LittleEndian.ofLe32` — the four-byte forms of `UInt32`.

Main results:

* `LittleEndian.ofLe_le_of_lt`, `LittleEndian.le_ofLe` — the two round trips;
* `LittleEndian.ofLe32_le32`, `LittleEndian.le32_ofLe32` — those of the four-byte forms.
-/

import Mathlib.Algebra.Order.Ring.Nat

set_option relaxedAutoImplicit false
set_option autoImplicit false

namespace LittleEndian

/-! ### Any width -/

/-- The `w` low bytes of `n`, least significant first. -/
def le : ℕ → ℕ → List UInt8
  | 0, _ => []
  | w + 1, n => UInt8.ofNat n :: le w (n / 256)

/-- The number a byte string carries, least significant byte first. -/
def ofLe : List UInt8 → ℕ
  | [] => 0
  | b :: bs => b.toNat + 256 * ofLe bs

@[simp] theorem le_zero (n : ℕ) : le 0 n = [] := rfl

theorem le_succ (w n : ℕ) : le (w + 1) n = UInt8.ofNat n :: le w (n / 256) := rfl

@[simp] theorem ofLe_nil : ofLe [] = 0 := rfl

@[simp] theorem ofLe_cons (b : UInt8) (bs : List UInt8) :
    ofLe (b :: bs) = b.toNat + 256 * ofLe bs := rfl

@[simp] theorem length_le (w n : ℕ) : (le w n).length = w := by
  induction w generalizing n with
  | zero => rfl
  | succ w ih => simp [le_succ, ih]

/-- What is read is below `256` to the number of bytes. -/
theorem ofLe_lt (bs : List UInt8) : ofLe bs < 256 ^ bs.length := by
  induction bs with
  | nil => simp
  | cons b bs ih =>
      have hb : b.toNat < 256 := b.toNat_lt
      rw [ofLe_cons, List.length_cons, pow_succ]
      omega

/-- Reading what was written keeps the low `w` bytes of the number. -/
theorem ofLe_le (w n : ℕ) : ofLe (le w n) = n % 256 ^ w := by
  induction w generalizing n with
  | zero => simp [Nat.mod_one]
  | succ w ih =>
      rw [le_succ, ofLe_cons, ih, pow_succ, mul_comm (256 ^ w) 256, Nat.mod_mul]
      simp

/-- **Writing then reading**, for a number that fits. -/
theorem ofLe_le_of_lt {w n : ℕ} (h : n < 256 ^ w) : ofLe (le w n) = n := by
  rw [ofLe_le, Nat.mod_eq_of_lt h]

/-- **Reading then writing.** -/
theorem le_ofLe (bs : List UInt8) : le bs.length (ofLe bs) = bs := by
  induction bs with
  | nil => rfl
  | cons b bs ih =>
      have hb : b.toNat < 256 := b.toNat_lt
      have hdiv : (b.toNat + 256 * ofLe bs) / 256 = ofLe bs := by omega
      have hlow : UInt8.ofNat (b.toNat + 256 * ofLe bs) = b := by
        apply UInt8.toNat_inj.1
        rw [UInt8.toNat_ofNat']
        omega
      rw [List.length_cons, le_succ, ofLe_cons, hdiv, hlow, ih]

/-! ### Four bytes -/

/-- The four bytes of a 32-bit number. -/
def le32 (x : UInt32) : List UInt8 := le 4 x.toNat

/-- The 32-bit number that four bytes carry. -/
def ofLe32 (bs : List UInt8) : UInt32 := UInt32.ofNat (ofLe bs)

@[simp] theorem length_le32 (x : UInt32) : (le32 x).length = 4 := length_le 4 _

@[simp] theorem ofLe32_le32 (x : UInt32) : ofLe32 (le32 x) = x := by
  have h : ofLe (le 4 x.toNat) = x.toNat := ofLe_le_of_lt x.toNat_lt
  rw [ofLe32, le32, h, UInt32.ofNat_toNat]

/-- No information is lost in reading four bytes as a 32-bit number. -/
theorem toNat_ofLe32 {bs : List UInt8} (h : bs.length = 4) : (ofLe32 bs).toNat = ofLe bs := by
  have hlt : ofLe bs < 2 ^ 32 := by
    have := ofLe_lt bs
    rwa [h] at this
  rw [ofLe32, UInt32.toNat_ofNat', Nat.mod_eq_of_lt hlt]

theorem le32_ofLe32 {bs : List UInt8} (h : bs.length = 4) : le32 (ofLe32 bs) = bs := by
  rw [le32, toNat_ofLe32 h, ← h, le_ofLe]

end LittleEndian

import Mathlib.Data.Nat.Notation
import Mathlib.Tactic.Ring
import Mathlib.Tactic.Linarith

/-!
# Big-endian integers

`bigEndian n v` is the `n`-byte big-endian form of `v`, and `ofBigEndian acc bs` reads bytes
behind an accumulator. Each undoes the other (`ofBigEndian_bigEndian`,
`bigEndian_ofBigEndian`).
-/

namespace Foundation

def bigEndian : Nat → Nat → List UInt8
  | 0, _ => []
  | n + 1, v => UInt8.ofNat (v / 256 ^ n) :: bigEndian n v

/-- The bytes appended to the value `acc`, most significant first. -/
def ofBigEndian : Nat → List UInt8 → Nat
  | acc, [] => acc
  | acc, b :: bs => ofBigEndian (acc * 256 + b.toNat) bs

@[simp] theorem bigEndian_length (n v : Nat) : (bigEndian n v).length = n := by
  induction n with
  | zero => rfl
  | succ n ih => simp [bigEndian, ih]

theorem ofBigEndian_eq (acc : Nat) (bs : List UInt8) :
    ofBigEndian acc bs = acc * 256 ^ bs.length + ofBigEndian 0 bs := by
  induction bs generalizing acc with
  | nil => simp [ofBigEndian]
  | cons b bs ih =>
    have h1 := ih (acc * 256 + b.toNat)
    have h2 := ih (0 * 256 + b.toNat)
    simp only [ofBigEndian, List.length_cons, pow_succ]
    rw [h1, h2]
    ring

theorem ofBigEndian_lt (bs : List UInt8) : ofBigEndian 0 bs < 256 ^ bs.length := by
  induction bs with
  | nil => simp [ofBigEndian]
  | cons b bs ih =>
    have hb := b.toNat_lt
    have hpos : 0 < 256 ^ bs.length := by positivity
    rw [ofBigEndian, ofBigEndian_eq, List.length_cons, pow_succ]
    nlinarith

theorem ofBigEndian_bigEndian (n acc v : Nat) :
    ofBigEndian acc (bigEndian n v) = acc * 256 ^ n + v % 256 ^ n := by
  induction n generalizing acc with
  | zero => simp [ofBigEndian, bigEndian, Nat.mod_one]
  | succ n ih =>
    have hb : (UInt8.ofNat (v / 256 ^ n)).toNat = v / 256 ^ n % 256 := by simp
    rw [bigEndian, ofBigEndian, ih, hb, pow_succ, Nat.mod_mul]
    ring

/-- A value that fits is read back. -/
theorem ofBigEndian_zero_bigEndian {n v : Nat} (h : v < 256 ^ n) :
    ofBigEndian 0 (bigEndian n v) = v := by
  rw [ofBigEndian_bigEndian, Nat.mod_eq_of_lt h, Nat.zero_mul, Nat.zero_add]

/-- The bytes read are the big-endian form of the value, whatever stood before them. -/
theorem bigEndian_ofBigEndian (acc : Nat) (bs : List UInt8) :
    bigEndian bs.length (ofBigEndian acc bs) = bs := by
  induction bs generalizing acc with
  | nil => rfl
  | cons b bs ih =>
    have hb := b.toNat_lt
    have hlt := ofBigEndian_lt bs
    have hdiv : ofBigEndian (acc * 256 + b.toNat) bs / 256 ^ bs.length = acc * 256 + b.toNat := by
      rw [ofBigEndian_eq, Nat.mul_comm, Nat.mul_add_div (Nat.pos_of_ne_zero (by positivity)),
        Nat.div_eq_of_lt hlt, Nat.add_zero]
    rw [List.length_cons, bigEndian, ofBigEndian, ih, hdiv]
    congr 1
    apply UInt8.toNat_inj.mp
    simp only [UInt8.toNat_ofNat']
    omega

end Foundation

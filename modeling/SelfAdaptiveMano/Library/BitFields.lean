import Mathlib.Algebra.Order.Ring.Nat
import Mathlib.Data.Nat.Bits
import Mathlib.Tactic.Ring
import Mathlib.Data.List.Induction
import Mathlib.Data.Nat.Digits.Defs

/-!
# Numbers in bit fields and in bytes

A field is a width and the number put into it, of which only the low `width`
bits are kept; `pack` writes a list of fields, the most significant one first.
Two lists of fields of the same widths pack to the same number exactly when
every field keeps the same bits.

A number is written in a fixed number of bytes, the most significant one first, and
read from them. Reading gives back what fits into the bytes, and writing gives back
the bytes.
-/

namespace Library

namespace BitFields

theorem land_mask (value width : Nat) :
    value &&& (2 ^ width - 1) = value % 2 ^ width :=
  Nat.and_two_pow_sub_one_eq_mod value width

theorem land_mask_shiftLeft (value width shift : Nat) :
    value &&& (2 ^ width - 1) <<< shift =
      value / 2 ^ shift % 2 ^ width * 2 ^ shift := by
  rw [← land_mask, ← Nat.shiftRight_eq_div_pow, ← Nat.shiftLeft_eq]
  apply Nat.eq_of_testBit_eq
  intro i
  simp only [Nat.testBit_and, Nat.testBit_shiftLeft, Nat.testBit_shiftRight]
  by_cases h : shift ≤ i
  · simp [h]
  · simp [h]

def width : List (Nat × Nat) → Nat
  | [] => 0
  | (w, _) :: fields => w + width fields

def pack : List (Nat × Nat) → Nat
  | [] => 0
  | (w, value) :: fields => value % 2 ^ w * 2 ^ width fields + pack fields

@[simp] theorem pack_nil : pack [] = 0 := rfl

@[simp] theorem pack_cons (w value : Nat) (fields : List (Nat × Nat)) :
    pack ((w, value) :: fields) =
      value % 2 ^ w * 2 ^ width fields + pack fields := rfl

@[simp] theorem width_nil : width [] = 0 := rfl

@[simp] theorem width_cons (w value : Nat) (fields : List (Nat × Nat)) :
    width ((w, value) :: fields) = w + width fields := rfl

theorem pack_lt (fields : List (Nat × Nat)) : pack fields < 2 ^ width fields := by
  induction fields with
  | nil => simp
  | cons field fields ih =>
      obtain ⟨w, value⟩ := field
      have hvalue : value % 2 ^ w + 1 ≤ 2 ^ w := Nat.mod_lt _ (Nat.two_pow_pos w)
      calc pack ((w, value) :: fields)
          < value % 2 ^ w * 2 ^ width fields + 2 ^ width fields := by
            simpa using ih
        _ = (value % 2 ^ w + 1) * 2 ^ width fields := by ring
        _ ≤ 2 ^ w * 2 ^ width fields := Nat.mul_le_mul_right _ hvalue
        _ = 2 ^ width ((w, value) :: fields) := by rw [width_cons, pow_add]

/-- A number is read back from its high and its low part. -/
theorem mul_add_inj {base a a' b b' : Nat} (hb : b < base) (hb' : b' < base) :
    a * base + b = a' * base + b' ↔ a = a' ∧ b = b' := by
  constructor
  · intro h
    have hpos : 0 < base := Nat.lt_of_le_of_lt (Nat.zero_le b) hb
    have hhigh : a = a' := by
      have hdiv := congrArg (· / base) h
      simp only [Nat.add_comm _ b, Nat.add_comm _ b',
        Nat.add_mul_div_right _ _ hpos, Nat.div_eq_of_lt hb,
        Nat.div_eq_of_lt hb', Nat.zero_add] at hdiv
      exact hdiv
    subst hhigh
    exact ⟨rfl, Nat.add_left_cancel h⟩
  · rintro ⟨rfl, rfl⟩
    rfl

theorem pack_cons_inj {w value value' : Nat} {fields fields' : List (Nat × Nat)}
    (hwidth : width fields = width fields') :
    pack ((w, value) :: fields) = pack ((w, value') :: fields') ↔
      value % 2 ^ w = value' % 2 ^ w ∧ pack fields = pack fields' := by
  rw [pack_cons, pack_cons, ← hwidth]
  exact mul_add_inj (pack_lt fields) (hwidth ▸ pack_lt fields')

end BitFields

/-! ## Numbers as bytes -/

namespace Bytes

def ofBytes (bytes : List UInt8) : Nat :=
  Nat.ofDigits 256 (bytes.reverse.map UInt8.toNat)

/-- The number in `width` bytes; what does not fit is dropped. -/
def toBytes (value : Nat) : Nat → List UInt8
  | 0 => []
  | width + 1 => toBytes (value / 256) width ++ [UInt8.ofNat value]

@[simp] theorem ofBytes_nil : ofBytes [] = 0 := rfl

theorem ofBytes_append (bytes : List UInt8) (b : UInt8) :
    ofBytes (bytes ++ [b]) = ofBytes bytes * 256 + b.toNat := by
  rw [ofBytes, List.reverse_append, List.map_append, List.reverse_singleton,
    List.map_singleton, List.singleton_append, Nat.ofDigits_cons,
    Nat.add_comm, Nat.mul_comm]
  rfl

@[simp] theorem toBytes_zero (value : Nat) : toBytes value 0 = [] := rfl

theorem toBytes_succ (value width : Nat) : toBytes value (width + 1) =
    toBytes (value / 256) width ++ [UInt8.ofNat value] := rfl

@[simp] theorem length_toBytes (value width : Nat) :
    (toBytes value width).length = width := by
  induction width generalizing value with
  | zero => rfl
  | succ width ih => rw [toBytes_succ, List.length_append, ih, List.length_singleton]

theorem ofBytes_toBytes (value width : Nat) :
    ofBytes (toBytes value width) = value % 256 ^ width := by
  induction width generalizing value with
  | zero => rw [toBytes_zero, ofBytes_nil, pow_zero, Nat.mod_one]
  | succ width ih =>
      have hlow : (UInt8.ofNat value).toNat = value % 256 := rfl
      rw [toBytes_succ, ofBytes_append, ih, hlow, pow_succ', Nat.mod_mul]
      ring

theorem ofBytes_lt (bytes : List UInt8) : ofBytes bytes < 256 ^ bytes.length := by
  induction bytes using List.reverseRecOn with
  | nil => simp
  | append_singleton bytes b ih =>
      have hb := b.toNat_lt
      rw [ofBytes_append, List.length_append, List.length_singleton, pow_succ]
      omega

theorem toBytes_ofBytes (bytes : List UInt8) :
    toBytes (ofBytes bytes) bytes.length = bytes := by
  induction bytes using List.reverseRecOn with
  | nil => rfl
  | append_singleton bytes b ih =>
      have hb := b.toNat_lt
      have hhigh : (ofBytes bytes * 256 + b.toNat) / 256 = ofBytes bytes := by omega
      have hlow : UInt8.ofNat (ofBytes bytes * 256 + b.toNat) = b := by
        apply UInt8.toNat.inj
        rw [UInt8.toNat_ofNat']
        omega
      rw [ofBytes_append, List.length_append, List.length_singleton, toBytes_succ,
        hhigh, hlow, ih]

end Bytes

end Library

import Mathlib.Data.Int.Notation
import Mathlib.Data.Nat.Notation
import Mathlib.Order.Interval.Finset.Nat
import Mathlib.Tactic.Linarith

/-!
# Bits of a byte sequence

A sequence of bytes read as a sequence of bits, the least significant bit of each byte first.
Bit `k` lies in byte `k / 8`. A number is stored in a range of bits with its least significant
bit first, and a signed number in two's complement.

## Main definitions

* `bitAt`: one bit of a byte sequence.
* `Holds`: a range of bits is a number.
* `signExtend`: the signed number of a bit pattern.
* `touchedBytes`: the bytes that a range of bits lies in.

## Main results

* `bitAt_set`, `bitAt_replicate_zero`: bits after the basic operations.
* `Holds.congr`: a range that keeps its bits keeps its number.
* `signExtend_toNat_emod`: two's complement represents its range.
* `card_touchedBytes`: how many bytes a range of bits lies in.
-/

namespace Bits

/-- Bit `k` of a byte sequence; the bits behind its end are clear. -/
def bitAt (bytes : List UInt8) (k : ℕ) : Bool := (bytes.getD (k / 8) 0).toNat.testBit (k % 8)

@[simp] theorem bitAt_nil (k : ℕ) : bitAt [] k = false := by simp [bitAt]

/-- The bits after one byte has been replaced. -/
theorem bitAt_set (bytes : List UInt8) {i : ℕ} (hi : i < bytes.length) (byte : UInt8) (k : ℕ) :
    bitAt (bytes.set i byte) k =
      if k / 8 = i then byte.toNat.testBit (k % 8) else bitAt bytes k := by
  unfold bitAt
  simp only [List.getD_eq_getElem?_getD, List.getElem?_set]
  split_ifs with h₁ h₂
  · rfl
  · exact absurd h₁.symm h₂
  · simp_all
  · rfl

theorem bitAt_replicate_zero (n k : ℕ) : bitAt (List.replicate n 0) k = false := by
  unfold bitAt
  rw [List.getD_eq_getElem?_getD, List.getElem?_replicate]
  split_ifs <;> simp

/-- The first bytes of a sequence decide its first bits. -/
theorem bitAt_append_left (first second : List UInt8) {k : ℕ} (hk : k < 8 * first.length) :
    bitAt (first ++ second) k = bitAt first k := by
  unfold bitAt
  have h : k / 8 < first.length := by omega
  simp [List.getD_eq_getElem?_getD, List.getElem?_append_left h]

theorem bitAt_take (bytes : List UInt8) {n k : ℕ} (hk : k < 8 * n) :
    bitAt (bytes.take n) k = bitAt bytes k := by
  unfold bitAt
  have h : k / 8 < n := by omega
  simp [List.getD_eq_getElem?_getD, List.getElem?_take_of_lt h]

/-- The bits of a sequence's byte `i` are its bits from `8 * i` on. -/
theorem testBit_getD (bytes : List UInt8) (i : ℕ) {r : ℕ} (hr : r < 8) :
    (bytes.getD i 0).toNat.testBit r = bitAt bytes (8 * i + r) := by
  unfold bitAt
  rw [show (8 * i + r) / 8 = i by omega, show (8 * i + r) % 8 = r by omega]

/-! ### Masks -/

/-- The mask of `count` bits from `shift` on. -/
theorem testBit_mask (count shift i : ℕ) :
    (((1 <<< count) - 1) <<< shift).testBit i = decide (shift ≤ i ∧ i < shift + count) := by
  rw [Nat.testBit_shiftLeft, Nat.one_shiftLeft, Nat.testBit_two_pow_sub_one, Bool.decide_and]
  by_cases h : shift ≤ i
  · have : i - shift < count ↔ i < shift + count := by omega
    simp [h, this]
  · simp [h]

/-- Bits of `value` under a mask, and of `base` beside it. -/
theorem testBit_merge (base value mask : ℕ) {width i : ℕ} (hi : i < width) :
    ((base &&& (mask ^^^ (2 ^ width - 1))) ||| (value &&& mask)).testBit i =
      if mask.testBit i then value.testBit i else base.testBit i := by
  rw [Nat.testBit_or, Nat.testBit_and, Nat.testBit_and, Nat.testBit_xor,
    Nat.testBit_two_pow_sub_one]
  cases mask.testBit i <;> simp [hi]

/-- The low bits of a byte built from a number. -/
theorem testBit_toNat_ofNat (n : ℕ) {r : ℕ} (hr : r < 8) :
    (UInt8.ofNat n).toNat.testBit r = n.testBit r := by
  rw [UInt8.toNat_ofNat', Nat.testBit_mod_two_pow]
  simp [hr]

/-! ### Numbers in a range of bits -/

/-- The `width` bits from `offset` on are the number `value`. -/
def Holds (bytes : List UInt8) (offset width value : ℕ) : Prop :=
  value < 2 ^ width ∧ ∀ j < width, bitAt bytes (offset + j) = value.testBit j

namespace Holds

variable {bytes other : List UInt8} {offset width value value' : ℕ}

theorem lt (h : Holds bytes offset width value) : value < 2 ^ width := h.1

theorem testBit (h : Holds bytes offset width value) (j : ℕ) :
    value.testBit j = (decide (j < width) && bitAt bytes (offset + j)) := by
  by_cases hj : j < width
  · simp [hj, h.2 j hj]
  · have : value < 2 ^ j := lt_of_lt_of_le h.1 (Nat.pow_le_pow_right (by omega) (by omega))
    simp [hj, Nat.testBit_lt_two_pow this]

/-- A range of bits is one number. -/
theorem unique (h : Holds bytes offset width value) (h' : Holds bytes offset width value') :
    value = value' := by
  apply Nat.eq_of_testBit_eq
  intro j
  rw [h.testBit, h'.testBit]

/-- **Frame rule.** A range that keeps its bits keeps its number. -/
theorem congr (h : Holds bytes offset width value)
    (hbits : ∀ j < width, bitAt other (offset + j) = bitAt bytes (offset + j)) :
    Holds other offset width value :=
  ⟨h.1, fun j hj => by rw [hbits j hj, h.2 j hj]⟩

end Holds

/-! ### Two's complement -/

/-- The signed number of a pattern of `width` bits. -/
def signExtend (width pattern : ℕ) : ℤ :=
  if pattern.testBit (width - 1) then (pattern : ℤ) - 2 ^ width else pattern

/-- The pattern of a number is the number modulo `2 ^ width`. -/
theorem toNat_emod_lt (v : ℤ) (width : ℕ) : (v % 2 ^ width).toNat < 2 ^ width := by
  have hpos : (0 : ℤ) < 2 ^ width := by positivity
  have hlt := Int.emod_lt_of_pos v hpos
  have hnonneg := Int.emod_nonneg v hpos.ne'
  have : ((v % 2 ^ width).toNat : ℤ) < ((2 ^ width : ℕ) : ℤ) := by
    rw [Int.toNat_of_nonneg hnonneg]
    exact_mod_cast hlt
  exact_mod_cast this

private theorem testBit_top {width n : ℕ} (hwidth : 0 < width) (hn : n < 2 ^ width) :
    n.testBit (width - 1) = decide (2 ^ (width - 1) ≤ n) := by
  obtain ⟨k, rfl⟩ : ∃ k, width = k + 1 := ⟨width - 1, by omega⟩
  rw [Nat.add_sub_cancel]
  by_cases h : 2 ^ k ≤ n
  · rw [Nat.testBit_of_two_pow_le_and_two_pow_add_one_gt h hn]
    simp [h]
  · simp [h, Nat.testBit_lt_two_pow (not_le.mp h)]

/-- The signed number of a pattern lies in the signed range. -/
theorem signExtend_range {width n : ℕ} (hwidth : 0 < width) (hn : n < 2 ^ width) :
    -2 ^ (width - 1) ≤ signExtend width n ∧ signExtend width n < 2 ^ (width - 1) := by
  have hsplit : (2 : ℤ) ^ width = 2 * 2 ^ (width - 1) := by
    rw [← pow_succ']
    congr 1
    omega
  have hpos : (0 : ℤ) < 2 ^ (width - 1) := by positivity
  have hlt : (n : ℤ) < 2 ^ width := by exact_mod_cast hn
  unfold signExtend
  rw [testBit_top hwidth hn]
  by_cases h : 2 ^ (width - 1) ≤ n
  · have hle : (2 : ℤ) ^ (width - 1) ≤ n := by exact_mod_cast h
    rw [decide_eq_true h]
    simp only [if_true]
    omega
  · have hlow : (n : ℤ) < 2 ^ (width - 1) := by exact_mod_cast not_le.mp h
    rw [decide_eq_false h]
    simp only [Bool.false_eq_true, if_false]
    omega

/-- **Two's complement.** A number of the signed range is the one its pattern stands for. -/
theorem signExtend_toNat_emod {width : ℕ} (hwidth : 0 < width) {v : ℤ}
    (hlower : -2 ^ (width - 1) ≤ v) (hupper : v < 2 ^ (width - 1)) :
    signExtend width (v % 2 ^ width).toNat = v := by
  have hsplit : (2 : ℤ) ^ width = 2 * 2 ^ (width - 1) := by
    rw [← pow_succ']
    congr 1
    omega
  have hpos : (0 : ℤ) < 2 ^ (width - 1) := by positivity
  have hnonneg : 0 ≤ v % 2 ^ width := Int.emod_nonneg v (by positivity)
  have hmod : (((v % 2 ^ width).toNat : ℕ) : ℤ) = v % 2 ^ width := Int.toNat_of_nonneg hnonneg
  unfold signExtend
  rw [testBit_top hwidth (toNat_emod_lt v width)]
  by_cases hv : 0 ≤ v
  · have hself : v % 2 ^ width = v := Int.emod_eq_of_lt hv (by omega)
    have hsmall : ¬2 ^ (width - 1) ≤ (v % 2 ^ width).toNat := by
      intro hle
      have : ((2 ^ (width - 1) : ℕ) : ℤ) ≤ (v % 2 ^ width).toNat := by exact_mod_cast hle
      rw [hmod, hself] at this
      push_cast at this
      omega
    rw [decide_eq_false hsmall, hself]
    simp [hv]
  · have hself : v % 2 ^ width = v + 2 ^ width := by
      rw [← Int.add_emod_right]
      exact Int.emod_eq_of_lt (by omega) (by omega)
    have hlarge : 2 ^ (width - 1) ≤ (v % 2 ^ width).toNat := by
      have : ((2 ^ (width - 1) : ℕ) : ℤ) ≤ (v % 2 ^ width).toNat := by
        rw [hmod, hself]
        push_cast
        omega
      exact_mod_cast this
    rw [decide_eq_true hlarge, hmod, hself]
    simp

/-- A nonnegative number below `2 ^ width` is its own pattern. -/
theorem toNat_emod_eq {width : ℕ} {v : ℤ} (hnonneg : 0 ≤ v) (hlt : v < 2 ^ width) :
    (((v % 2 ^ width).toNat : ℕ) : ℤ) = v := by
  rw [Int.emod_eq_of_lt hnonneg hlt, Int.toNat_of_nonneg hnonneg]

/-! ### The bytes of a range of bits -/

/-- The bytes that the `width` bits from `offset` on lie in. -/
def touchedBytes (offset width : ℕ) : Finset ℕ :=
  (Finset.Ico offset (offset + width)).image (· / 8)

/-- A nonempty range lies in the bytes from the one of its first bit to the one of its last. -/
theorem touchedBytes_eq_Icc {offset width : ℕ} (hwidth : 0 < width) :
    touchedBytes offset width = Finset.Icc (offset / 8) ((offset + width - 1) / 8) := by
  ext byte
  simp only [touchedBytes, Finset.mem_image, Finset.mem_Ico, Finset.mem_Icc]
  constructor
  · rintro ⟨k, hk, rfl⟩
    omega
  · intro hbyte
    exact ⟨max offset (8 * byte), by omega, by omega⟩

theorem card_touchedBytes {offset width : ℕ} (hwidth : 0 < width) :
    (touchedBytes offset width).card = (offset + width - 1) / 8 - offset / 8 + 1 := by
  rw [touchedBytes_eq_Icc hwidth, Nat.card_Icc]
  omega

end Bits

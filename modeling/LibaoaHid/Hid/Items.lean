import LibaoaHid.Foundation.ReportDescriptors
import LibaoaHid.Hid.RawParser
import Mathlib.Data.Nat.Bitwise

/-!
# The items of the source

The walks of `src/hid/validator.cpp` take a descriptor apart by masks and shifts, and read the data
bytes of an item by shifts. What they see are the short items of `Hid.ShortItem` and their values.

## Main results

* `unsignedValue_eq`, `signedValue_eq`: the values of an item.
* `bind_eq_ok`, `of_ite_error`: the steps of a walk that accepts.
* `prefix_sizeCode`, `prefix_type`, `prefix_tag`: the parts of a prefix byte.
-/

namespace LibaoaHid

open Hid

/-! ### Steps that can fail -/

/-- The result of two steps in a row. -/
theorem bind_eq_ok {ε α β : Type} {first : Except ε α} {next : α → Except ε β} {b : β} :
    first >>= next = .ok b ↔ ∃ a, first = .ok a ∧ next a = .ok b := by
  cases first <;> simp [bind, Except.bind]

theorem map_eq_ok {ε α β : Type} {first : Except ε α} {f : α → β} {b : β} :
    first.map f = .ok b ↔ ∃ a, first = .ok a ∧ f a = b := by
  cases first <;> simp [Except.map]

/-- A check that was passed. -/
theorem of_ite_error {α : Type} {c : Prop} [Decidable c] {found : ValidationIssue}
    {e : Except ValidationIssue α} {x : α} (h : (if c then .error found else e) = .ok x) :
    ¬c ∧ e = .ok x := by
  split_ifs at h with hc
  exact ⟨hc, h⟩

/-! ### Values -/

theorem unsignedValue_eq : (bytes : List UInt8) → unsignedValue bytes = ofLittleEndian bytes
  | [] => rfl
  | byte :: rest => by
    have hbyte : byte.toNat < 2 ^ 8 := byte.toNat_lt
    rw [unsignedValue, ofLittleEndian, unsignedValue_eq rest, Nat.or_comm,
      ← Nat.shiftLeft_add_eq_or_of_lt hbyte, Nat.shiftLeft_eq]
    omega

theorem unsignedValue_data (item : ShortItem) : unsignedValue item.data = item.unsigned :=
  unsignedValue_eq item.data

theorem toUnsigned32_of_nonneg {value : ℤ} (hnonneg : 0 ≤ value) (hlt : value < 2 ^ 32) :
    (ItemWriter.toUnsigned32 value : ℤ) = value := by
  unfold ItemWriter.toUnsigned32
  rw [Int.emod_eq_of_lt hnonneg hlt, Int.toNat_of_nonneg hnonneg]

/-- The conversion of a small number keeps it. -/
theorem toSigned32_of_lt {value : ℕ} (h : value < 2 ^ 31) : toSigned32 value = value := if_pos h

theorem signedValue_eq (item : ShortItem) : signedValue item.data = item.signed := by
  have hlt : item.unsigned < 2 ^ (8 * item.data.length) := ofLittleEndian_lt item.data
  unfold signedValue ShortItem.signed
  rw [unsignedValue_data]
  dsimp only
  split_ifs with hzero hbit
  · rfl
  · have htest : item.unsigned.testBit (8 * item.data.length - 1) = false := by
      rw [Nat.one_shiftLeft, Nat.mul_comm, Nat.and_comm, Nat.two_pow_and] at hbit
      simpa using hbit
    have hlow : item.unsigned < 2 ^ (8 * item.data.length - 1) := by
      by_contra hge
      rw [Nat.testBit_of_two_pow_le_and_two_pow_add_one_gt (not_lt.mp hge)
        (by rwa [Nat.sub_add_cancel (by omega)])] at htest
      simp at htest
    have hle : 2 ^ (8 * item.data.length - 1) ≤ 2 ^ 31 := by
      refine Nat.pow_le_pow_right Nat.two_pos ?_
      have := item.size
      omega
    rw [Bits.signExtend, htest, toSigned32_of_lt (lt_of_lt_of_le hlow hle)]
    rfl
  · have htest : item.unsigned.testBit (8 * item.data.length - 1) = true := by
      rw [Nat.one_shiftLeft, Nat.mul_comm, Nat.and_comm, Nat.two_pow_and] at hbit
      simpa using hbit
    rw [Bits.signExtend, htest, Nat.mul_comm]
    rfl

/-! ### Prefix bytes -/

theorem prefix_sizeCode (n : ℕ) : n &&& 0x03 = n % 4 := Nat.and_two_pow_sub_one_eq_mod n 2

theorem prefix_type (n : ℕ) : (n >>> 2) &&& 0x03 = n / 4 % 4 := by
  rw [prefix_sizeCode, Nat.shiftRight_eq_div_pow]

theorem prefix_tag {n : ℕ} (h : n < 256) : (n >>> 4) &&& 0x0F = n / 16 := by
  have hand : n >>> 4 &&& 0x0F = n >>> 4 % 16 := Nat.and_two_pow_sub_one_eq_mod (n >>> 4) 4
  rw [hand, Nat.shiftRight_eq_div_pow]
  omega

/-- A prefix with the tag of a long item. -/
theorem prefix_long {n : ℕ} (h : n < 256) : n &&& 0xF0 = 0xF0 ↔ n / 16 = 15 := by
  have hall : ∀ n < 256, n &&& 0xF0 = 0xF0 ↔ n / 16 = 15 := by decide +kernel
  exact hall n h

/-- The walks know the size of an item from its prefix. -/
theorem size_eq_sizeOfCode (n : ℕ) :
    (if n &&& 0x03 = 3 then 4 else n &&& 0x03) = ShortItem.sizeOfCode (n % 4) := by
  rw [prefix_sizeCode]
  rfl

section Item

variable (item : ShortItem)

theorem prefixByte_mod : item.prefixByte.toNat % 4 = ShortItem.sizeCode item.data.length := by
  have := item.sizeCode_lt
  rw [item.toNat_prefixByte]
  omega

theorem prefixByte_type : item.prefixByte.toNat / 4 % 4 = item.type.code := by
  have := item.sizeCode_lt
  have := item.type.code_lt
  rw [item.toNat_prefixByte]
  omega

theorem prefixByte_tag : item.prefixByte.toNat / 16 = item.tag := by
  have := item.sizeCode_lt
  have := item.type.code_lt
  rw [item.toNat_prefixByte]
  omega

end Item

end LibaoaHid

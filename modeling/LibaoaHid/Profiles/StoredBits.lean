import LibaoaHid.Foundation.Bits
import LibaoaHid.Profiles.Serializer
import Mathlib.Data.Nat.Bitwise

/-!
# What one field writes and reads

The writer loop of `store_bits` and the reader loop of `validate_serialized_report`, each in terms
of the bits of the report. The writer sets the bits of its range and no others; the reader gives
the number that its range holds.

## Main results

* `bitAt_storeLoop`, `storeBits_eq_some`: the bits after a write.
* `holds_loadBits`: the reader gives the number of its range.
* `fieldReading_of_holds`: the value of a field whose range holds an encoded value.
-/

namespace LibaoaHid

open Bits

/-! ### The writer loop -/

@[simp] theorem length_storeLoop (turns : ℕ) (report : List UInt8)
    (encoded position remaining : ℕ) :
    (storeLoop turns report encoded position remaining).length = report.length := by
  induction turns generalizing report encoded position remaining with
  | zero => rfl
  | succ turns ih =>
    unfold storeLoop
    split_ifs
    · rfl
    · simp only [ih, List.length_set]

/-- One turn of the writer: the bits of one byte. -/
private theorem testBit_stored (target encoded : ℕ) {shift taken r : ℕ} (hr : r < 8) :
    (UInt8.ofNat ((target &&& ((((1 <<< taken) - 1) <<< shift) ^^^ (2 ^ 32 - 1))) |||
        (((encoded % 2 ^ 32) <<< shift) &&& (((1 <<< taken) - 1) <<< shift)))).toNat.testBit r =
      if shift ≤ r ∧ r < shift + taken then encoded.testBit (r - shift)
      else target.testBit r := by
  rw [testBit_toNat_ofNat _ hr, testBit_merge _ _ _ (show r < 32 by omega), testBit_mask]
  by_cases h : shift ≤ r ∧ r < shift + taken
  · simp only [h, and_self, decide_true, if_true, Nat.testBit_shiftLeft, Nat.testBit_mod_two_pow,
      Bool.true_and]
    simp [show r - shift < 32 by omega]
  · simp only [h, decide_false, if_false, Bool.false_eq_true]

/-- The writer sets the bits of its range to those of the number, and no others. -/
theorem bitAt_storeLoop {turns : ℕ} {report : List UInt8} {encoded position remaining : ℕ}
    (hturns : remaining ≤ turns) (hfits : position + remaining ≤ report.length * 8) (k : ℕ) :
    bitAt (storeLoop turns report encoded position remaining) k =
      if position ≤ k ∧ k < position + remaining then encoded.testBit (k - position)
      else bitAt report k := by
  induction turns generalizing report encoded position remaining with
  | zero =>
    have : ¬(position ≤ k ∧ k < position + remaining) := by omega
    simp only [storeLoop, this, if_false]
  | succ turns ih =>
    unfold storeLoop
    split_ifs with hzero hrange hrange
    · omega
    · rfl
    all_goals
      have hand : position &&& 7 = position % 8 := Nat.and_two_pow_sub_one_eq_mod position 3
      have hbyte : position / 8 < report.length := by omega
      simp only [hand]
      rw [ih (by omega) (by rw [List.length_set]; omega), bitAt_set _ hbyte]
    · -- A bit of the range: written by a later turn, or by this one.
      by_cases hlater : position + min remaining (8 - position % 8) ≤ k
      · rw [if_pos ⟨hlater, by omega⟩, Nat.testBit_shiftRight]
        congr 1
        omega
      · rw [if_neg (by omega), if_pos (by omega), testBit_stored _ _ (by omega),
          if_pos (by omega)]
        congr 1
        omega
    · -- A bit outside the range, perhaps in the byte of this turn.
      rw [if_neg (by omega)]
      by_cases hsame : k / 8 = position / 8
      · rw [if_pos hsame, testBit_stored _ _ (by omega), if_neg (by omega), ← hsame]
        rfl
      · rw [if_neg hsame]

/-- The written range holds the number. -/
theorem holds_storeLoop {report : List UInt8} {field : FieldLayout}
    (hinside : field.bitOffset + field.bitWidth ≤ report.length * 8) (value : ℤ) :
    Holds (storeLoop field.bitWidth report (encodeValue value field.bitWidth) field.bitOffset
      field.bitWidth) field.bitOffset field.bitWidth (encodeValue value field.bitWidth) := by
  refine ⟨?_, fun j hj => ?_⟩
  · rw [encodeValue, Nat.one_shiftLeft, Nat.and_two_pow_sub_one_eq_mod]
    exact Nat.mod_lt _ (Nat.two_pow_pos _)
  · rw [bitAt_storeLoop le_rfl hinside, if_pos (by omega), Nat.add_sub_cancel_left]

/-- The write of a value that passes the checks. -/
theorem storeBits_eq_some {field : FieldLayout} {report : List UInt8} {value : ℤ}
    {allowNull : Bool} (hpos : 0 < field.bitWidth) (hwidth : field.bitWidth ≤ 32)
    (hinside : field.bitOffset + field.bitWidth ≤ report.length * 8)
    (hnull : allowNull = true → field.hasNullState = true)
    (hrange : allowNull = false → field.logicalMinimum ≤ value ∧ value ≤ field.logicalMaximum) :
    storeBits report field value allowNull =
      some (storeLoop field.bitWidth report (encodeValue value field.bitWidth) field.bitOffset
        field.bitWidth) := by
  have hfits : ¬(field.bitWidth = 0 ∨ field.bitWidth > 32 ∨
      field.bitOffset + field.bitWidth > report.length * 8 ∨
        (allowNull = true ∧ (!field.hasNullState) = true)) := by
    rintro (h | h | h | ⟨hallow, hno⟩)
    · omega
    · omega
    · omega
    · rw [hnull hallow] at hno
      cases hno
  have hin : ¬((!allowNull) = true ∧
      (value < field.logicalMinimum ∨ value > field.logicalMaximum)) := by
    rintro ⟨hno, hout⟩
    have := hrange (by simpa using hno)
    omega
  rw [storeBits, if_neg hfits, if_neg hin]

/-! ### The reader loop -/

/-- The reader adds the bits of its range to those it has. -/
private theorem testBit_loadLoop {report : List UInt8} {bitWidth turns encoded position done : ℕ}
    (hturns : bitWidth ≤ turns + done) (hencoded : encoded < 2 ^ done) (hdone : done ≤ bitWidth)
    (j : ℕ) :
    (loadLoop report bitWidth turns encoded position done).testBit j =
      if j < done then encoded.testBit j
      else (decide (j < bitWidth) && bitAt report (position + (j - done))) := by
  induction turns generalizing encoded position done with
  | zero =>
    have hclear : done ≤ j → encoded.testBit j = false := fun hj =>
      Nat.testBit_lt_two_pow (lt_of_lt_of_le hencoded (Nat.pow_le_pow_right (by omega) hj))
    unfold loadLoop
    split_ifs with h
    · rfl
    · simp [hclear (by omega), show ¬j < bitWidth by omega]
  | succ turns ih =>
    have hclear : done ≤ j → encoded.testBit j = false := fun hj =>
      Nat.testBit_lt_two_pow (lt_of_lt_of_le hencoded (Nat.pow_le_pow_right (by omega) hj))
    unfold loadLoop
    by_cases hmore : done < bitWidth
    · have hand : position &&& 7 = position % 8 := Nat.and_two_pow_sub_one_eq_mod position 3
      simp only [hmore, if_true, hand]
      set taken := min (bitWidth - done) (8 - position % 8) with htaken
      set bits := ((report.getD (position / 8) 0).toNat >>> (position % 8)) &&& ((1 <<< taken) - 1)
        with hbits
      have hbitsBit (i : ℕ) :
          bits.testBit i = (decide (i < taken) && bitAt report (position + i)) := by
        rw [hbits, Nat.testBit_and, Nat.testBit_shiftRight, Nat.one_shiftLeft,
          Nat.testBit_two_pow_sub_one]
        by_cases hi : i < taken
        · rw [testBit_getD _ _ (by omega)]
          simp only [hi, decide_true, Bool.and_true, Bool.true_and]
          congr 1
          omega
        · simp [hi]
      have hbitsLt : bits < 2 ^ taken := by
        rw [hbits, Nat.one_shiftLeft, Nat.and_two_pow_sub_one_eq_mod]
        exact Nat.mod_lt _ (Nat.two_pow_pos taken)
      have hnext : encoded ||| (bits <<< done) < 2 ^ (done + taken) := by
        apply Nat.or_lt_two_pow
        · exact lt_of_lt_of_le hencoded (Nat.pow_le_pow_right (by omega) (by omega))
        · rw [Nat.shiftLeft_eq, Nat.pow_add, Nat.mul_comm]
          exact (Nat.mul_lt_mul_left (Nat.two_pow_pos done)).mpr hbitsLt
      rw [ih (by omega) hnext (by omega)]
      by_cases hold : j < done
      · rw [if_pos (by omega), if_pos hold, Nat.testBit_or, Nat.testBit_shiftLeft]
        simp [show ¬done ≤ j by omega]
      · rw [if_neg hold]
        by_cases hnow : j < done + taken
        · rw [if_pos hnow, Nat.testBit_or, hclear (by omega), Nat.testBit_shiftLeft, hbitsBit]
          simp [show done ≤ j by omega, show j - done < taken by omega, show j < bitWidth by omega]
        · rw [if_neg hnow, show position + taken + (j - (done + taken)) = position + (j - done) by
            omega]
    · rw [if_neg hmore]
      split_ifs with h
      · rfl
      · simp [hclear (by omega), show ¬j < bitWidth by omega]

/-- The reader gives the number that the range of the field holds. -/
theorem holds_loadBits (report : List UInt8) (field : FieldLayout) :
    Holds report field.bitOffset field.bitWidth (loadBits report field) := by
  have hbit (j : ℕ) : (loadBits report field).testBit j =
      (decide (j < field.bitWidth) && bitAt report (field.bitOffset + j)) := by
    unfold loadBits
    rw [testBit_loadLoop (by omega) (by simp) (by omega)]
    simp
  refine ⟨Nat.lt_pow_two_of_testBit _ fun j hj => ?_, fun j hj => ?_⟩
  · simp [hbit, show ¬j < field.bitWidth by omega]
  · simp [hbit, hj]

/-! ### Values of fields -/

/-- The bits of an encoded value are those of the value modulo `2 ^ bitWidth`. -/
theorem encodeValue_eq (value : ℤ) {bitWidth : ℕ} (hwidth : bitWidth ≤ 32) :
    encodeValue value bitWidth = (value % 2 ^ bitWidth).toNat := by
  unfold encodeValue
  rw [Nat.one_shiftLeft, Nat.and_two_pow_sub_one_eq_mod]
  have hnonneg : 0 ≤ value % 2 ^ 64 := Int.emod_nonneg value (by norm_num)
  obtain ⟨n, hn⟩ := Int.eq_ofNat_of_zero_le hnonneg
  have hdvd : (2 : ℤ) ^ bitWidth ∣ 2 ^ 64 := pow_dvd_pow 2 (by omega)
  have hcast : ((n % 2 ^ bitWidth : ℕ) : ℤ) = value % 2 ^ bitWidth := by
    rw [← Int.emod_emod_of_dvd value hdvd, hn]
    push_cast
    rfl
  rw [hn, Int.toNat_natCast, ← hcast, Int.toNat_natCast]

/-- The representable range of a field. -/
def FieldLayout.Represents (field : FieldLayout) (value : ℤ) : Prop :=
  if field.isSigned then
    -2 ^ (field.bitWidth - 1) ≤ value ∧ value < 2 ^ (field.bitWidth - 1)
  else 0 ≤ value ∧ value < 2 ^ field.bitWidth

/-- The reader's sign test is the top bit of the field. -/
private theorem and_one_shiftLeft_ne_zero (n i : ℕ) : n &&& (1 <<< i) ≠ 0 ↔ n.testBit i := by
  rw [Nat.one_shiftLeft, Nat.and_two_pow]
  cases n.testBit i <;> simp

/-- A field whose range holds the encoding of a representable value reads as that value. -/
theorem fieldReading_of_holds {report : List UInt8} {field : FieldLayout} {value : ℤ}
    (hpos : 0 < field.bitWidth) (hwidth : field.bitWidth ≤ 32) (hrep : field.Represents value)
    (hholds : Holds report field.bitOffset field.bitWidth (encodeValue value field.bitWidth)) :
    fieldReading report field = value := by
  have hload : loadBits report field = (value % 2 ^ field.bitWidth).toNat := by
    rw [← encodeValue_eq value hwidth]
    exact (holds_loadBits report field).unique hholds
  unfold fieldReading
  simp only [hload, and_one_shiftLeft_ne_zero]
  unfold FieldLayout.Represents at hrep
  by_cases hsigned : field.isSigned
  · rw [if_pos hsigned] at hrep
    have := signExtend_toNat_emod hpos hrep.1 hrep.2
    unfold signExtend at this
    simpa [hsigned] using this
  · rw [if_neg hsigned] at hrep
    simp only [hsigned, Bool.false_eq_true, false_and, if_false]
    exact toNat_emod_eq hrep.1 hrep.2

end LibaoaHid

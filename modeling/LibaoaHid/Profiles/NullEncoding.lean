import LibaoaHid.Hid.Programs
import LibaoaHid.Profiles.SpecChecks
import LibaoaHid.Profiles.StoredBits

/-!
# The encodings of one field

The values that a field can encode, and its Null. Three places of the source split the cases of a
signed and an unsigned field: `value_fits` and `has_null_encoding` in the factories, `hat_null`
and `store_bits` in the serializer, and the reader of `validate_serialized_report`. They agree at
both ends of every range.

## Main results

* `represents_of_valueFits`: the values of the logical range are representable.
* `hasNullEncoding_iff_outside`: the factory finds room for a Null when the Null of the serializer
  lies outside the logical range.
* `null_roundTrip`: the Null and the values of the range are written and read back apart.
-/

namespace LibaoaHid

open Bits

variable {field : FieldLayout}

/-! ### Representable values -/

/-- The ends of the representable ranges. The source writes those of 32 bits as constants. -/
private theorem representable_ends (hpos : 0 < field.bitWidth) :
    (2 : ℤ) ^ field.bitWidth = 2 * 2 ^ (field.bitWidth - 1) ∧
      (0 : ℤ) < 2 ^ (field.bitWidth - 1) ∧
      (if field.bitWidth = 32 then -2 ^ 31 else -2 ^ (field.bitWidth - 1) : ℤ) =
        -2 ^ (field.bitWidth - 1) ∧
      (if field.bitWidth = 32 then 2 ^ 31 - 1 else 2 ^ (field.bitWidth - 1) - 1 : ℤ) =
        2 ^ (field.bitWidth - 1) - 1 ∧
      (if field.bitWidth = 32 then 2 ^ 32 - 1 else 2 ^ field.bitWidth - 1 : ℤ) =
        2 ^ field.bitWidth - 1 := by
  refine ⟨?_, by positivity, ?_, ?_, ?_⟩
  · rw [← pow_succ']
    congr 1
    omega
  all_goals
    split_ifs with hwide
    · rw [hwide]
    · rfl

/-- The Null of a field is representable. -/
theorem represents_hatNull (hpos : 0 < field.bitWidth) : field.Represents (hatNull field) := by
  obtain ⟨hsplit, htop, hlower, hupper, hwhole⟩ := representable_ends hpos
  rw [FieldLayout.Represents, hatNull, hlower, hupper, hwhole]
  dsimp only
  by_cases hsigned : field.isSigned = true
  · rw [if_pos hsigned, if_pos hsigned]
    split_ifs <;> omega
  · rw [if_neg hsigned, if_neg hsigned]
    split_ifs <;> omega

section Range

variable
  (hsigned : field.isSigned =
    (decide (field.logicalMinimum < 0) || decide (field.logicalMaximum < 0)))
  (hfits : valueFits field.logicalMinimum field.logicalMaximum field.bitWidth = true)
  (hminimum : -2 ^ 31 ≤ field.logicalMinimum) (hmaximum : field.logicalMaximum < 2 ^ 31)

include hsigned hfits hminimum hmaximum

/-- The logical range of a field that fits its width is representable. -/
theorem represents_of_valueFits {value : ℤ} (hle : field.logicalMinimum ≤ value)
    (hge : value ≤ field.logicalMaximum) : field.Represents value := by
  unfold valueFits at hfits
  unfold FieldLayout.Represents
  rw [hsigned]
  split_ifs at hfits with hwidth hnegative hwide hwide
  · rw [if_pos (by simpa using hnegative), hwide]
    omega
  · rw [if_pos (by simpa using hnegative)]
    simp only [decide_eq_true_eq] at hfits
    omega
  · rw [if_neg (by simpa using hnegative), hwide]
    omega
  · rw [if_neg (by simpa using hnegative)]
    simp only [decide_eq_true_eq] at hfits
    omega

/-- **The two choices of a Null agree.** The width has room for a Null when the value that the
serializer chooses lies outside the logical range. -/
theorem hasNullEncoding_iff_outside :
    hasNullEncoding field.logicalMinimum field.logicalMaximum field.bitWidth = true ↔
      ¬(field.logicalMinimum ≤ hatNull field ∧ hatNull field ≤ field.logicalMaximum) := by
  obtain ⟨hpos, hwidth, hordered⟩ := of_valueFits hfits
  obtain ⟨hsplit, htop, hlower, hupper, hwhole⟩ := representable_ends hpos
  have hmin := represents_of_valueFits hsigned hfits hminimum hmaximum le_rfl hordered
  have hmax := represents_of_valueFits hsigned hfits hminimum hmaximum hordered le_rfl
  rw [FieldLayout.Represents] at hmin hmax
  rw [hasNullEncoding, if_neg (by omega), hatNull, hlower, hupper, hwhole]
  dsimp only
  have hsign : field.isSigned = true ↔ field.logicalMinimum < 0 ∨ field.logicalMaximum < 0 := by
    rw [hsigned]
    simp
  by_cases hnegative : field.isSigned = true
  · rw [if_pos hnegative] at hmin hmax
    rw [if_pos hnegative, if_pos (hsign.mp hnegative), decide_eq_true_eq]
    split_ifs <;> omega
  · rw [if_neg hnegative] at hmin hmax
    rw [if_neg hnegative, if_neg fun h => hnegative (hsign.mpr h), decide_eq_true_eq]
    split_ifs <;> omega

/-! ### Round trips -/

/-- **The Null is a Null exactly when the factory says that one exists.** For each logical range
that fits its width, the factory finds a Null encoding when the Null of the serializer is
representable and outside the range; it is then written and read back as itself, and the values of
the range are read back as themselves and are never it. -/
theorem null_roundTrip :
    (hasNullEncoding field.logicalMinimum field.logicalMaximum field.bitWidth = true ↔
      field.Represents (hatNull field) ∧
        ¬(field.logicalMinimum ≤ hatNull field ∧ hatNull field ≤ field.logicalMaximum)) ∧
    ∀ report : List UInt8, field.bitOffset + field.bitWidth ≤ report.length * 8 →
      (field.hasNullState = true → ∃ written,
        storeBits report field (hatNull field) true = some written ∧
          fieldReading written field = hatNull field) ∧
      ∀ value, field.logicalMinimum ≤ value → value ≤ field.logicalMaximum →
        (∃ written, storeBits report field value = some written ∧
          fieldReading written field = value) ∧
        (hasNullEncoding field.logicalMinimum field.logicalMaximum field.bitWidth = true →
          value ≠ hatNull field) := by
  obtain ⟨hpos, hwidth, -⟩ := of_valueFits hfits
  have houtside := hasNullEncoding_iff_outside hsigned hfits hminimum hmaximum
  have hnull : field.Represents (hatNull field) := represents_hatNull hpos
  refine ⟨houtside.trans (iff_and_self.mpr fun _ => hnull), fun report hinside => ⟨?_, ?_⟩⟩
  · intro hdeclared
    exact ⟨_, storeBits_eq_some hpos hwidth hinside (fun _ => hdeclared) nofun,
      fieldReading_of_holds hpos hwidth hnull (holds_storeLoop hinside _)⟩
  · intro value hle hge
    have hrepresents := represents_of_valueFits hsigned hfits hminimum hmaximum hle hge
    refine ⟨⟨_, storeBits_eq_some hpos hwidth hinside nofun fun _ => ⟨hle, hge⟩,
      fieldReading_of_holds hpos hwidth hrepresents (holds_storeLoop hinside _)⟩, ?_⟩
    rintro hexists rfl
    exact houtside.mp hexists ⟨hle, hge⟩

end Range

/-- The Null of a hat with the directions 1 to 8 is 0. A range that fills eight bits has none. -/
theorem null_roundTrip_hat :
    let hat : FieldLayout :=
      { semantic := .hat, instanceIndex := 0, bitOffset := 5, bitWidth := 4, isSigned := false
        hasNullState := true, logicalMinimum := 1, logicalMaximum := 8 }
    hatNull hat = 0 ∧ hasNullEncoding 1 8 4 = true ∧ hasNullEncoding 0 255 8 = false ∧
      ∃ written, storeBits [0xFF, 0xFF] hat 0 true = some written ∧
        fieldReading written hat = 0 := by
  intro hat
  have h := @null_roundTrip hat rfl (by decide) (by decide) (by decide)
  exact ⟨by decide, by decide, by decide, (h.2 [0xFF, 0xFF] (by decide)).1 rfl⟩

end LibaoaHid

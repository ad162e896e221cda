import LibaoaHid.Hid.Programs

/-!
# The bytes that a field touches

HID 1.11 section 8.4 forbids a field from spanning more than four bytes. `src/hid/validator.cpp`
checks it in two ways: `validate_generated` compares the first and the last byte of each field of
the layout, and `field_span_is_valid` looks at no more than eight fields of an item, since the
place of a field in its byte repeats with period eight.

## Main definitions

* `spanIssue`: the finding of `validate_generated` for a field that touches more bytes.
* `ItemFields`: the layout fields of an item.

## Main results

* `fieldSpanIsValid_iff`: what the check of an item says of each of its fields.
* `validateFields_cons`, `validateFields_item`: the field loop on one field and on an item.
* `fieldSpanIsValid_perField`: the two checks agree.
-/

namespace LibaoaHid

open Bits

/-! ### One field -/

/-- The finding of `validate_generated` for a field over more than four bytes. -/
def spanIssue : ValidationIssue :=
  ⟨.errParam, "spec.field",
    "HID 1.11 section 8.4 forbids one field from spanning more than four bytes.", 0⟩

/-- The bytes that a field touches. -/
theorem lastByte_sub_firstByte {offset width : ℕ} (hpos : 0 < width) :
    (offset + width - 1) / 8 - offset / 8 + 1 ≤ 4 ↔ offset % 8 + width ≤ 32 := by
  omega

/-- Whether a field touches at most four bytes depends on the place of its first bit. -/
theorem card_touchedBytes_le_four {offset width : ℕ} :
    (touchedBytes offset width).card ≤ 4 ↔ offset % 8 + width ≤ 32 := by
  rcases Nat.eq_zero_or_pos width with rfl | hpos
  · have hempty : touchedBytes offset 0 = ∅ := by simp [touchedBytes]
    rw [hempty, Finset.card_empty]
    omega
  · rw [card_touchedBytes hpos, lastByte_sub_firstByte hpos]

/-- One field of the loop of `validate_generated`. -/
theorem validateFields_cons {rest : List FieldLayout} (field : FieldLayout) (start : ℕ)
    (hphysical : field.physical.Declarable) (hpos : 0 < field.bitWidth)
    (hoffset : field.bitOffset = start) (hsmall : start + field.bitWidth < 2 ^ 64)
    (hfits : field.semantic ≠ .constantPadding →
      valueFits field.logicalMinimum field.logicalMaximum field.bitWidth = true) :
    validateFields (field :: rest) start =
      if start % 8 + field.bitWidth ≤ 32 then validateFields rest (start + field.bitWidth)
      else .error spanIssue := by
  have hblock : ¬(!field.physical.canonicalDisabled && !field.physical.validEnabled) = true := by
    rcases hphysical with hphysical | hphysical <;> simp [hphysical]
  have hcontiguous : ¬(field.bitWidth = 0 ∨ field.bitOffset ≠ start ∨
      start > 2 ^ 64 - 1 - field.bitWidth) := by
    omega
  have hrange : ¬((!valueFits field.logicalMinimum field.logicalMaximum field.bitWidth) = true ∧
      field.semantic ≠ .constantPadding) := by
    rintro ⟨hno, hsemantic⟩
    rw [hfits hsemantic] at hno
    cases hno
  have hspan : (field.bitOffset + field.bitWidth - 1) / 8 - field.bitOffset / 8 + 1 ≤ 4 ↔
      field.bitOffset % 8 + field.bitWidth ≤ 32 := lastByte_sub_firstByte hpos
  rw [hoffset] at hspan
  rw [validateFields]
  simp only [hblock, hcontiguous, hrange, if_false, Bool.false_eq_true]
  rw [hoffset]
  split_ifs with hlong hshort hshort
  · omega
  · rfl
  · rfl
  · omega

/-! ### The check of an item -/

theorem and_seven (n : ℕ) : n &&& 7 = n % 8 := Nat.and_two_pow_sub_one_eq_mod n 3

/-- The span loop looks at the next fields one by one. -/
theorem fieldSpanLoop_iff {size : ℕ} (alignments : ℕ) {start : ℕ} (hstart : start < 8) :
    fieldSpanLoop size alignments start = true ↔
      ∀ i < alignments, (start + i * size) % 8 + size ≤ 32 := by
  induction alignments generalizing start with
  | zero => simp [fieldSpanLoop]
  | succ alignments ih =>
    have hfirst : (start + 0 * size) % 8 = start := by
      rw [Nat.zero_mul]
      exact Nat.mod_eq_of_lt hstart
    have hnext (i : ℕ) :
        ((start + size % 8) % 8 + i * size) % 8 = (start + (i + 1) * size) % 8 := by
      rw [Nat.add_mul, Nat.one_mul]
      omega
    rw [Nat.forall_lt_succ_left, hfirst, fieldSpanLoop, and_seven, and_seven]
    by_cases hlong : (start + size + 7) / 8 > 4
    · rw [if_pos hlong]
      have : ¬start + size ≤ 32 := by omega
      simp [this]
    · rw [if_neg hlong, ih (Nat.mod_lt _ (by norm_num))]
      have : start + size ≤ 32 := by omega
      simp only [hnext, this, true_and]

/-- **The eight-step check.** Since the places of the fields repeat with period eight, the check
of an item holds for every field of it. -/
theorem fieldSpanIsValid_iff {initialBit size count : ℕ} :
    fieldSpanIsValid initialBit size count = true ↔
      ∀ i < count, (initialBit + i * size) % 8 + size ≤ 32 := by
  have hplace (i : ℕ) : (initialBit % 8 + i * size) % 8 = (initialBit + i * size) % 8 := by
    rw [Nat.add_mod, Nat.mod_mod, ← Nat.add_mod]
  have hperiod (i : ℕ) : (initialBit + i % 8 * size) % 8 = (initialBit + i * size) % 8 := by
    rw [Nat.add_mod, Nat.mod_mul_mod, ← Nat.add_mod]
  rw [fieldSpanIsValid, and_seven, fieldSpanLoop_iff _ (Nat.mod_lt _ (by norm_num))]
  simp only [hplace]
  constructor
  · intro h i hi
    have hle := Nat.mod_le i 8
    have hlt := Nat.mod_lt i (show 0 < 8 by norm_num)
    rw [← hperiod]
    exact h (i % 8) (by omega)
  · intro h i hi
    exact h i (by omega)

/-- The check of an item with one field. -/
theorem fieldSpanIsValid_one {initialBit reportSize : ℕ} :
    fieldSpanIsValid initialBit reportSize 1 = decide (initialBit % 8 + reportSize ≤ 32) := by
  rw [Bool.eq_iff_iff, fieldSpanIsValid_iff, decide_eq_true_iff]
  simp

/-- The check of an item with one-bit fields. -/
theorem fieldSpanIsValid_bits (initialBit reportCount : ℕ) :
    fieldSpanIsValid initialBit 1 reportCount = true := by
  rw [fieldSpanIsValid_iff]
  omega

/-! ### The two checks -/

/-- The layout fields of an item: `count` fields of one width, one behind the other from
`initialBit` on, that pass the other checks of `validate_generated`. -/
structure ItemFields (initialBit size count : ℕ) (fields : List FieldLayout) : Prop where
  length : fields.length = count
  place : ∀ i field, fields[i]? = some field → field.bitOffset = initialBit + i * size
  width : ∀ field ∈ fields, field.bitWidth = size
  physical : ∀ field ∈ fields, field.physical.Declarable
  fits : ∀ field ∈ fields, field.semantic ≠ .constantPadding →
    valueFits field.logicalMinimum field.logicalMaximum field.bitWidth = true

/-- The fields behind the first one. -/
theorem ItemFields.tail {initialBit size count : ℕ} {field : FieldLayout}
    {fields : List FieldLayout} (h : ItemFields initialBit size (count + 1) (field :: fields)) :
    ItemFields (initialBit + size) size count fields where
  length := Nat.succ.inj h.length
  place i other hother := by
    rw [h.place (i + 1) other hother, Nat.add_mul, Nat.one_mul]
    omega
  width other hother := h.width other (List.mem_cons_of_mem _ hother)
  physical other hother := h.physical other (List.mem_cons_of_mem _ hother)
  fits other hother := h.fits other (List.mem_cons_of_mem _ hother)

/-- The field loop over an item, in front of any further fields. -/
theorem validateFields_item {size count : ℕ} (hpos : 0 < size) {initialBit : ℕ}
    {fields rest : List FieldLayout} (h : ItemFields initialBit size count fields)
    (hsmall : initialBit + count * size < 2 ^ 64) :
    validateFields (fields ++ rest) initialBit =
      if ∀ i < count, (initialBit + i * size) % 8 + size ≤ 32 then
        validateFields rest (initialBit + count * size)
      else .error spanIssue := by
  induction count generalizing initialBit fields with
  | zero =>
    rw [List.eq_nil_of_length_eq_zero h.length]
    simp
  | succ count ih =>
    obtain ⟨field, fields, rfl⟩ := List.exists_cons_of_length_eq_add_one h.length
    have hmem : field ∈ field :: fields := List.mem_cons_self
    have hwidth : field.bitWidth = size := h.width field hmem
    have hplace : field.bitOffset = initialBit := by
      have := h.place 0 field rfl
      omega
    rw [Nat.add_mul, Nat.one_mul] at hsmall
    have hnext (i : ℕ) : initialBit + size + i * size = initialBit + (i + 1) * size := by
      rw [Nat.add_mul, Nat.one_mul]
      omega
    rw [List.cons_append, validateFields_cons field initialBit (h.physical field hmem)
      (by omega) hplace (by omega) (h.fits field hmem), hwidth, ih h.tail (by omega)]
    simp only [hnext, Nat.forall_lt_succ_left, Nat.zero_mul, Nat.add_zero]
    by_cases hfirst : initialBit % 8 + size ≤ 32
    · simp only [hfirst, if_true, true_and]
    · simp only [hfirst, if_false, false_and]

/-- **The eight-step check is the check of every field.** `field_span_is_valid` accepts an item
when each of its fields touches at most four bytes, and this is the verdict of the field loop of
`validate_generated` on the layout fields of the item, at any running offset. -/
theorem fieldSpanIsValid_perField {initialBit size count : ℕ} (hpos : 0 < size) :
    (fieldSpanIsValid initialBit size count = true ↔
      ∀ i < count, (touchedBytes (initialBit + i * size) size).card ≤ 4) ∧
    ∀ fields rest : List FieldLayout, ItemFields initialBit size count fields →
      initialBit + count * size < 2 ^ 64 →
        validateFields (fields ++ rest) initialBit =
          if fieldSpanIsValid initialBit size count then
            validateFields rest (initialBit + count * size)
          else .error spanIssue := by
  constructor
  · simp only [fieldSpanIsValid_iff, card_touchedBytes_le_four]
  · intro fields rest hfields hsmall
    rw [validateFields_item hpos hfields hsmall]
    simp only [fieldSpanIsValid_iff]

/-- Two one-bit fields behind a Report ID pass both checks. Of three fields of 31 bits from bit 10
on, the last starts in the last bits of a byte, and both checks refuse the item. -/
theorem fieldSpanIsValid_perField_of_bits :
    (0 < 1 ∧ ItemFields 8 1 2 [rangeFieldAt .buttons 8 0, rangeFieldAt .buttons 8 1] ∧
      8 + 2 * 1 < 2 ^ 64 ∧
        validateFields [rangeFieldAt .buttons 8 0, rangeFieldAt .buttons 8 1] 8 = .ok 10) ∧
    0 < 31 ∧ ¬fieldSpanIsValid 10 31 3 = true ∧
      ¬∀ i < 3, (touchedBytes (10 + i * 31) 31).card ≤ 4 := by
  have hitem : ItemFields 8 1 2 [rangeFieldAt .buttons 8 0, rangeFieldAt .buttons 8 1] := by
    refine ⟨rfl, ?_, ?_, ?_, ?_⟩
    · rintro (_ | _ | i) field hfield
      · cases hfield
        rfl
      · cases hfield
        rfl
      · cases hfield
    all_goals simp [rangeFieldAt, PhysicalProperties.Declarable,
      PhysicalProperties.canonicalDisabled, valueFits]
  have hrefused : ¬fieldSpanIsValid 10 31 3 = true := by decide
  exact ⟨⟨by decide, hitem, by decide,
      (fieldSpanIsValid_perField (by decide)).2 _ [] hitem (by decide)⟩,
    by decide, hrefused, fun h => hrefused ((fieldSpanIsValid_perField (by decide)).1.mpr h)⟩

end LibaoaHid

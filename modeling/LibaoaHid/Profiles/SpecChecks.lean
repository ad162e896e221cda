import LibaoaHid.Api.Internal
import LibaoaHid.Hid.DescriptorBuilder

/-!
# Checks shared by the Spec factories

The option checks at the head of `src/profiles/spec.cpp` and the common tail of every generated
factory, `build_generated_spec`, which runs the emitter twice and validates the result.

A condition of a factory that fails without recording an error is `refuseIf`; a chain of
conditions stops at its first failure, which is `firstRefusal`.

## Main definitions

* `validateReportId`, `validatePhysical`, `validateField`, `fieldIsZero`, `hasNullEncoding`.
* `firstRefusal`: what the first failing condition of a chain leaves.
* `buildGeneratedSpec`.
-/

namespace LibaoaHid

/-! ### Chains of conditions -/

/-- A condition that fails without recording an error of its own. -/
def refuseIf (condition : Prop) [Decidable condition] : Option ErrorDetail :=
  if condition then some clearError else none

@[simp] theorem refuseIf_eq_none {condition : Prop} [Decidable condition] :
    refuseIf condition = none ↔ ¬condition := by
  simp [refuseIf]

/-- A condition that ends the factory with a reply. -/
def refuse (condition : Prop) [Decidable condition] (reply : Reply) : Option Reply :=
  if condition then some reply else none

@[simp] theorem refuse_eq_none {condition : Prop} [Decidable condition] {reply : Reply} :
    refuse condition reply = none ↔ ¬condition := by
  simp [refuse]

theorem refuse_eq_some {condition : Prop} [Decidable condition] {reply reply' : Reply} :
    refuse condition reply = some reply' ↔ condition ∧ reply = reply' := by
  simp [refuse]

/-- What the first failing condition of a chain leaves, if one fails. -/
def firstRefusal {α : Type} : List (Option α) → Option α
  | [] => none
  | none :: rest => firstRefusal rest
  | some refusal :: _ => some refusal

@[simp] theorem firstRefusal_nil {α : Type} : firstRefusal ([] : List (Option α)) = none := rfl

@[simp] theorem firstRefusal_cons_eq_none {α : Type} {check : Option α}
    {rest : List (Option α)} :
    firstRefusal (check :: rest) = none ↔ check = none ∧ firstRefusal rest = none := by
  cases check <;> simp [firstRefusal]

/-- What a chain leaves is that of one of its conditions. -/
theorem mem_of_firstRefusal {α : Type} {checks : List (Option α)} {refusal : α}
    (h : firstRefusal checks = some refusal) : some refusal ∈ checks := by
  induction checks with
  | nil => cases h
  | cons check rest ih =>
    cases check with
    | none => exact List.mem_cons_of_mem _ (ih h)
    | some first => exact h ▸ List.mem_cons_self

/-- A factory's check of its options pointer: a null pointer is refused before `valid_struct`
could record it. -/
def structRefusal (structSize : Option UInt32) (expectedSize : UInt32) (field : String) :
    Option ErrorDetail :=
  if structSize = none then some clearError else validStruct structSize expectedSize field

/-! ### Checks of single options -/

/-- `validate_report_id`. -/
def validateReportId (option : ReportIdOption) (field : String) : Option ErrorDetail :=
  if !validBoolean option.enabled then
    some (setError .errParam field "enabled must be exactly zero or one.")
  else if option.reserved8 ≠ (0, 0, 0) then
    some (setError .errParam field "reserved8 must be all zero.")
  else if (option.enabled = 1 ∧ option.value = 0) ∨ (option.enabled = 0 ∧ option.value ≠ 0) then
    some (setError .errParam field
      "A declared Report ID must be 1 through 255, and a disabled ID must be zero.")
  else none

/-- `physical_is_zero`. -/
def physicalIsZero (physical : PhysicalProperties) : Bool := physical.canonicalDisabled

/-- `physical_units_match`. -/
def physicalUnitsMatch (first second : PhysicalProperties) : Bool :=
  if first.enabled ≠ second.enabled then false
  else
    first.enabled == 0 || (first.unit == second.unit && first.unitExponent == second.unitExponent)

/-- `validate_physical`. -/
def validatePhysical (physical : PhysicalProperties) (name : String) : Option ErrorDetail :=
  if !validBoolean physical.enabled then
    some (setError .errParam name "physical.enabled must be exactly zero or one.")
  else if physical.enabled = 0 then
    if !physicalIsZero physical then
      some (setError .errParam name "Disabled physical properties must be canonical zero.")
    else none
  else if physical.maximum.toInt ≤ physical.minimum.toInt ∨ physical.unitExponent.toInt < -8 ∨
      physical.unitExponent.toInt > 7 ∨ physical.unit = 0 ∨ !unitIsValid physical.unit.toNat then
    some (setError .errParam name
      ("Enabled physical properties require ordered extents, exponent -8 through 7, and a valid " ++
        "nonzero HID Unit."))
  else none

/-- `validate_field`. -/
def validateField (field : IntegerField) (name : String) : Option ErrorDetail :=
  match validatePhysical field.physical name with
  | some recorded => some recorded
  | none =>
    if field.bitWidth = 0 then
      some (setError .errUnsetField name "bit_width is required and cannot be zero.")
    else if field.bitWidth > 32 ∨
        !valueFits field.logicalMinimum.toInt field.logicalMaximum.toInt
          (field.bitWidth.toNat % 2 ^ 8) then
      some (setError .errParam name
        "The logical range must be ordered and fit the declared width and signedness.")
    else none

/-- `field_is_zero`. -/
def fieldIsZero (field : IntegerField) : Bool :=
  field.logicalMinimum == 0 && field.logicalMaximum == 0 && field.bitWidth == 0 &&
    physicalIsZero field.physical

/-- `has_null_encoding`: the width has a value outside the logical range. -/
def hasNullEncoding (minimum maximum : ℤ) (bitWidth : ℕ) : Bool :=
  if bitWidth = 0 ∨ bitWidth > 32 then false
  else if minimum < 0 ∨ maximum < 0 then
    let representableMinimum : ℤ := if bitWidth = 32 then -2 ^ 31 else -2 ^ (bitWidth - 1)
    let representableMaximum : ℤ := if bitWidth = 32 then 2 ^ 31 - 1 else 2 ^ (bitWidth - 1) - 1
    decide (minimum > representableMinimum ∨ maximum < representableMaximum)
  else
    let representableMaximum : ℤ := if bitWidth = 32 then 2 ^ 32 - 1 else 2 ^ bitWidth - 1
    decide (minimum > 0 ∨ maximum < representableMaximum)

/-- `validate_option_boolean`. -/
def validateOptionBoolean (value : UInt32) (field : String) : Option ErrorDetail :=
  if !validBoolean value then
    some (setError .errParam field "The flag must be exactly zero or one.")
  else none

/-- A required C string that is null or empty. -/
def missingString : Option String → Bool
  | none => true
  | some text => text.isEmpty

/-! ### Building a generated Spec -/

/-- `build_generated_spec`: a counting pass that records the layout, an emitting pass into a
buffer of the counted size, and the validation of the result. -/
def buildGeneratedSpec (kind : ProfileKind) (androidStatus : AndroidStatus) (config : SpecConfig)
    (emit : DescriptorBuilder → Option DescriptorBuilder) : Except Reply Spec :=
  match (emit (.create none 65535 (some {}))).bind DescriptorBuilder.finish with
  | none =>
    .error (.fail .errOverflow "spec.descriptor"
      "Descriptor generation failed or exceeded the AOA wire-length field.")
  | some counted =>
    let construction : List UInt8 := List.replicate counted.writer.position 0
    let unequal : Reply := .fail .errInternal "spec.descriptor"
      "The descriptor counting and emission passes produced different results."
    match (emit (.create (some construction) construction.length none)).bind
        DescriptorBuilder.finish with
    | none => .error unequal
    | some emitted =>
      if emitted.writer.position ≠ construction.length ∨
          emitted.requirements ≠ counted.requirements then .error unequal
      else
        let descriptor := emitted.writer.bytes.getD []
        let layout := counted.layout.getD {}
        match validateGenerated descriptor layout with
        | some found =>
          .error ⟨found.result, setError found.result found.field found.reason 0 0 0 0 found.offset⟩
        | none =>
          .ok
            { kind
              androidStatus
              descriptor
              layout
              requirements := counted.requirements
              reportCapabilities :=
                [⟨layout.reportId, if layout.hasReportId then 1 else 0, layout.wireBytes⟩]
              config }

end LibaoaHid

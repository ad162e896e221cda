import LibaoaHid.Hid.ReportLayout

/-!
# Validation of generated descriptors

The construction-time checks of `src/hid/validator.cpp` that a generated Spec passes: each
field of the layout is contiguous with the one before it, fits its width and touches at most
four bytes, and the descriptor bytes describe exactly as many Input bits as the layout holds.

## Main definitions

* `ValidationIssue`, `DescriptorRequirements`.
* `valueFits`, `unitIsValid`, `fieldSpanIsValid`.
* `validateGenerated`, `validateGeneratedStructure`.
-/

namespace LibaoaHid

/-- `ValidationIssue`: a finding with its error record. -/
structure ValidationIssue where
  result : Result
  field : String
  reason : String
  offset : ℕ := 0
  deriving DecidableEq

/-- `DescriptorRequirements`. -/
structure DescriptorRequirements where
  maximumFieldsPerReport : ℕ := 0
  maximumGlobalStackDepth : ℕ := 0
  maximumReportSizeBits : ℕ := 0
  maximumUsages : ℕ := 0
  maximumReportDataBits : ℕ := 0
  deriving DecidableEq

/-- `value_fits`: the logical range is ordered and representable in `bitWidth` bits. -/
def valueFits (logicalMinimum logicalMaximum : ℤ) (bitWidth : ℕ) : Bool :=
  if bitWidth = 0 ∨ bitWidth > 32 ∨ logicalMaximum < logicalMinimum then false
  else if logicalMinimum < 0 ∨ logicalMaximum < 0 then
    if bitWidth = 32 then true
    else
      let minimum : ℤ := -2 ^ (bitWidth - 1)
      let maximum : ℤ := 2 ^ (bitWidth - 1) - 1
      decide (logicalMinimum ≥ minimum ∧ logicalMaximum ≤ maximum)
  else if bitWidth = 32 then true
  else decide (logicalMaximum ≤ 2 ^ bitWidth - 1)

/-- `unit_is_valid`. -/
def unitIsValid (unit : ℕ) : Bool :=
  if unit = 0 then true
  else
    let system := unit &&& 0x0F
    let definedSystem := (system ≥ 1 ∧ system ≤ 4) ∨ system = 0x0F
    decide (definedSystem ∧ unit &&& 0xF0000000 = 0)

/-- The loop of `field_span_is_valid` over the next `alignments` fields. -/
def fieldSpanLoop (reportSize : ℕ) : ℕ → ℕ → Bool
  | 0, _ => true
  | alignments + 1, startModulo =>
    let occupiedBytes := (startModulo + reportSize + 7) / 8
    if occupiedBytes > 4 then false
    else fieldSpanLoop reportSize alignments ((startModulo + (reportSize &&& 7)) &&& 7)

/-- `field_span_is_valid`: no field of the item touches more than four bytes. The alignment of a
field repeats modulo eight, so at most eight fields are looked at. The source adds in `uint32_t`,
which does not wrap for a size of up to 32 bits, and both callers refuse a longer one before. -/
def fieldSpanIsValid (initialBit reportSize reportCount : ℕ) : Bool :=
  fieldSpanLoop reportSize (min reportCount 8) (initialBit &&& 7)

/-- `unsigned_value`: the little-endian value of an item's data bytes. -/
def unsignedValue : List UInt8 → ℕ
  | [] => 0
  | byte :: rest => byte.toNat ||| (unsignedValue rest <<< 8)

/-- The state of the descriptor walk of `validate_generated_structure`. -/
structure StructureWalk where
  reportSize : ℕ := 0
  reportCount : ℕ := 0
  inputBits : ℕ := 0
  featureBits : ℕ := 0
  collectionDepth : ℕ := 0
  topLevelCount : ℕ := 0
  reportId : ℕ := 0
  reportIdSeen : Bool := false
  dataMainSeen : Bool := false

namespace StructureWalk

private def issue (field reason : String) (offset : ℕ) : Except ValidationIssue StructureWalk :=
  .error ⟨.errInternal, field, reason, offset⟩

/-- A Global item. -/
def globalItem (walk : StructureWalk) (tag value offset : ℕ) :
    Except ValidationIssue StructureWalk :=
  if tag = 7 then .ok { walk with reportSize := value }
  else if tag = 8 then
    if value = 0 ∨ value > 255 ∨ walk.reportIdSeen ∨ walk.dataMainSeen then
      issue "spec.report_id"
        "The generated descriptor changes, repeats, or misorders its Report ID." offset
    else .ok { walk with reportId := value, reportIdSeen := true }
  else if tag = 9 then .ok { walk with reportCount := value }
  else if tag = 10 ∨ tag = 11 then
    issue "spec.descriptor" "The generated descriptor unexpectedly contains Global Push or Pop."
      offset
  else .ok walk

/-- A Collection or End Collection item. -/
def collectionItem (walk : StructureWalk) (value offset : ℕ) :
    Except ValidationIssue StructureWalk :=
  if value > 0xFF ∨ (value ≥ 0x07 ∧ value ≤ 0x7F) then
    issue "spec.collection" "The generated descriptor contains a reserved Collection type." offset
  else if walk.collectionDepth = 0 ∧ (value ≠ 1 ∨ walk.topLevelCount ≠ 0) then
    issue "spec.collection"
      "The generated descriptor must have exactly one top-level Application collection." offset
  else
    .ok { walk with
      topLevelCount := walk.topLevelCount + if walk.collectionDepth = 0 then 1 else 0
      collectionDepth := walk.collectionDepth + 1 }

/-- An Input, Output or Feature item. -/
def dataItem (walk : StructureWalk) (tag offset : ℕ) : Except ValidationIssue StructureWalk :=
  let bits := if tag = 8 then walk.inputBits else walk.featureBits
  let added := walk.reportSize * walk.reportCount
  if walk.collectionDepth = 0 ∨ walk.reportSize = 0 ∨ walk.reportCount = 0 then
    issue "spec.descriptor" "A generated data Main item lacks collection or report state." offset
  else if tag = 9 then
    .error ⟨.errUnsupported, "spec.descriptor",
      "Generated AOA HID profiles cannot require Output reports.", offset⟩
  else if walk.reportSize > 32 then
    issue "spec.descriptor" "A generated field exceeds the HID 32-bit field limit." offset
  else if !fieldSpanIsValid bits walk.reportSize walk.reportCount then
    issue "spec.descriptor" "A generated field spans more than four report bytes." offset
  else if added > 2 ^ 64 - 1 - bits then
    .error ⟨.errOverflow, "spec.descriptor",
      "A generated report bit count overflows size_t.", offset⟩
  else if tag = 8 then .ok { walk with dataMainSeen := true, inputBits := bits + added }
  else .ok { walk with dataMainSeen := true, featureBits := bits + added }

/-- A Main item. -/
def mainItem (walk : StructureWalk) (tag value offset : ℕ) :
    Except ValidationIssue StructureWalk :=
  if tag = 10 then walk.collectionItem value offset
  else if tag = 12 then
    if walk.collectionDepth = 0 then
      issue "spec.collection" "A generated End Collection has no matching Collection." offset
    else .ok { walk with collectionDepth := walk.collectionDepth - 1 }
  else if tag = 8 ∨ tag = 9 ∨ tag = 11 then walk.dataItem tag offset
  else
    issue "spec.descriptor" "The generated descriptor contains a reserved Main item." offset

/-- The item loop. Every turn takes the prefix byte, so as many turns as there are bytes reach
the end of the descriptor. -/
def items : ℕ → StructureWalk → ℕ → List UInt8 → Except ValidationIssue StructureWalk
  | _, walk, _, [] => .ok walk
  | 0, walk, _, _ => .ok walk
  | turns + 1, walk, offset, byte :: rest =>
    let pref := byte.toNat
    let sizeCode := pref &&& 0x03
    let size := if sizeCode = 3 then 4 else sizeCode
    let type := (pref >>> 2) &&& 0x03
    let tag := (pref >>> 4) &&& 0x0F
    if pref &&& 0xF0 = 0xF0 then
      issue "spec.descriptor" "The generated descriptor unexpectedly contains a HID long item."
        offset
    else if size > rest.length then
      issue "spec.descriptor" "A generated short item extends beyond the descriptor." offset
    else do
      let value := unsignedValue (rest.take size)
      let next ←
        if type = 1 then walk.globalItem tag value offset
        else if type = 0 then walk.mainItem tag value offset
        else .ok walk
      items turns next (offset + 1 + size) (rest.drop size)

end StructureWalk

/-- `validate_generated_structure`. -/
def validateGeneratedStructure (descriptor : List UInt8) (layout : ReportLayout)
    (layoutBits : ℕ) : Option ValidationIssue :=
  match StructureWalk.items descriptor.length {} 0 descriptor with
  | .error found => some found
  | .ok walk =>
    if walk.collectionDepth ≠ 0 ∨ walk.topLevelCount ≠ 1 then
      some ⟨.errInternal, "spec.collection",
        "The generated descriptor has an invalid top-level collection structure.", 0⟩
    else if walk.reportIdSeen ≠ layout.hasReportId ∨
        (walk.reportIdSeen ∧ walk.reportId ≠ layout.reportId) then
      some ⟨.errInternal, "spec.report_id",
        "The descriptor Report ID does not match its generated layout.", 0⟩
    else
      let prefixBits := if walk.reportIdSeen then 8 else 0
      if walk.inputBits > 2 ^ 64 - 1 - prefixBits ∨ walk.inputBits + prefixBits ≠ layoutBits then
        some ⟨.errInternal, "spec.layout",
          "Descriptor Input bits do not match the generated field layout.", 0⟩
      else none

namespace PhysicalProperties

/-- The all-zero block of a field without physical properties. -/
def canonicalDisabled (physical : PhysicalProperties) : Bool :=
  physical.enabled == 0 && physical.minimum == 0 && physical.maximum == 0 &&
    physical.unitExponent == 0 && physical.unit == 0

/-- An enabled block with ordered extents, a nibble exponent and a valid nonzero Unit. -/
def validEnabled (physical : PhysicalProperties) : Bool :=
  physical.enabled == 1 && decide (physical.maximum.toInt > physical.minimum.toInt) &&
    decide (physical.unitExponent.toInt ≥ -8) && decide (physical.unitExponent.toInt ≤ 7) &&
    physical.unit != 0 && unitIsValid physical.unit.toNat

end PhysicalProperties

/-- The loop of `validate_generated` over the fields, from `layoutBits` on. -/
def validateFields : List FieldLayout → ℕ → Except ValidationIssue ℕ
  | [], layoutBits => .ok layoutBits
  | field :: rest, layoutBits =>
    let firstByte := field.bitOffset / 8
    let lastByte := (field.bitOffset + field.bitWidth - 1) / 8
    if !field.physical.canonicalDisabled && !field.physical.validEnabled then
      .error ⟨.errParam, "spec.physical",
        "Physical properties are neither canonical-disabled nor a valid enabled declaration.", 0⟩
    else if field.bitWidth = 0 ∨ field.bitOffset ≠ layoutBits ∨
        layoutBits > 2 ^ 64 - 1 - field.bitWidth then
      .error ⟨.errInternal, "spec.layout",
        "Generated fields must be nonempty, contiguous, and overflow-free.", 0⟩
    else if !valueFits field.logicalMinimum field.logicalMaximum field.bitWidth ∧
        field.semantic ≠ .constantPadding then
      .error ⟨.errParam, "spec.logical_range",
        "A logical range does not fit its declared bit width.", 0⟩
    else if lastByte - firstByte + 1 > 4 then
      .error ⟨.errParam, "spec.field",
        "HID 1.11 section 8.4 forbids one field from spanning more than four bytes.", 0⟩
    else validateFields rest (layoutBits + field.bitWidth)

/-- `validate_generated`. -/
def validateGenerated (descriptor : List UInt8) (layout : ReportLayout) :
    Option ValidationIssue :=
  if descriptor.length = 0 then
    some ⟨.errUnsetField, "spec.descriptor",
      "The report descriptor must contain at least one byte.", 0⟩
  else if descriptor.length > 65535 then
    some ⟨.errOverflow, "spec.descriptor",
      "The descriptor exceeds the 16-bit AOA wire-length field.", 0⟩
  else if layout.hasReportId ∧ layout.reportId = 0 then
    some ⟨.errParam, "spec.report_id", "HID 1.11 reserves Report ID zero.", 0⟩
  else
    match validateFields layout.fields layout.prefixBits with
    | .error found => some found
    | .ok layoutBits =>
      if layoutBits > 2 ^ 64 - 1 - 7 ∨ (layoutBits + 7) / 8 ≠ layout.wireBytes then
        some ⟨.errInternal, "spec.layout",
          "The generated wire length does not match the generated field layout.", 0⟩
      else validateGeneratedStructure descriptor layout layoutBits

end LibaoaHid

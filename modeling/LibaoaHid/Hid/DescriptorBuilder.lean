import LibaoaHid.Hid.ItemWriter
import LibaoaHid.Hid.Validator

/-!
# The descriptor builder

`src/hid/descriptor_builder.cpp` writes the descriptor items and, in the same pass, records the
layout of every Input field. The counting pass has a layout and no buffer; the emitting pass has
a buffer and no layout.

As in `LibaoaHid.ItemWriter`, an operation that clears `good_` is `none`. Every later
operation of the source then answers `false`, so the whole emitter does.

## Main definitions

* `DescriptorBuilder`, `DescriptorBuilder.addLayout`, `DescriptorBuilder.recordMain`.
* `DescriptorBuilder.variableField`, `DescriptorBuilder.variableRange`,
  `DescriptorBuilder.constantPadding`, `DescriptorBuilder.featureStaticValue`.
* `padReport`: `pad_report` of `src/profiles/spec.cpp`.
-/

namespace LibaoaHid

/-- `DescriptorBuilder`. The four tables are indexed by Report ID. -/
structure DescriptorBuilder where
  writer : ItemWriter
  layout : Option ReportLayout
  inputBits : ℕ := 0
  currentReportId : ℕ := 0
  inputFields : List ℕ := List.replicate 256 0
  featureFields : List ℕ := List.replicate 256 0
  inputReportBits : List ℕ := List.replicate 256 0
  featureReportBits : List ℕ := List.replicate 256 0
  requirements : DescriptorRequirements := {}
  collectionDepth : ℕ := 0
  topLevelApplicationSeen : Bool := false
  reportIdDecided : Bool := false
  dataMainEmitted : Bool := false

namespace DescriptorBuilder

/-- The builder that `DescriptorBuilder(bytes, capacity, layout)` constructs. -/
def create (bytes : Option (List UInt8)) (capacity : ℕ) (layout : Option ReportLayout) :
    DescriptorBuilder :=
  { writer := { bytes, capacity }, layout }

/-- `observe_usages`. -/
def observeUsages (b : DescriptorBuilder) (count : ℕ) : DescriptorBuilder :=
  { b with requirements.maximumUsages := max b.requirements.maximumUsages count }

/-- The common part of the three `begin_*` operations. -/
def beginCollection (b : DescriptorBuilder) (usagePage usage type : ℕ) :
    Option DescriptorBuilder := do
  let b := b.observeUsages 1
  let writer ← b.writer.usagePage usagePage
  let writer ← writer.usage usage
  let writer ← writer.collection type
  return { b with writer, collectionDepth := b.collectionDepth + 1 }

/-- `begin_application`. -/
def beginApplication (b : DescriptorBuilder) (usagePage usage : ℕ) : Option DescriptorBuilder :=
  if b.collectionDepth = 0 ∧ b.topLevelApplicationSeen then none
  else do
    let opened ← b.beginCollection usagePage usage 0x01
    return { opened with
      topLevelApplicationSeen := b.topLevelApplicationSeen || b.collectionDepth == 0 }

/-- `begin_logical`. -/
def beginLogical (b : DescriptorBuilder) (usagePage usage : ℕ) : Option DescriptorBuilder :=
  if b.collectionDepth = 0 then none else b.beginCollection usagePage usage 0x02

/-- `begin_physical`. -/
def beginPhysical (b : DescriptorBuilder) (usagePage usage : ℕ) : Option DescriptorBuilder :=
  if b.collectionDepth = 0 then none else b.beginCollection usagePage usage 0x00

/-- `end_collection`. -/
def endCollection (b : DescriptorBuilder) : Option DescriptorBuilder :=
  if b.collectionDepth = 0 then none
  else do
    let writer ← b.writer.endCollection
    return { b with writer, collectionDepth := b.collectionDepth - 1 }

/-- `set_report_id`. -/
def setReportId (b : DescriptorBuilder) (enabled : Bool) (reportId : ℕ) :
    Option DescriptorBuilder :=
  if b.reportIdDecided ∨ b.dataMainEmitted then none
  else if !enabled then
    some { b with
      reportIdDecided := true
      currentReportId := 0
      layout := b.layout.map fun layout => { layout with hasReportId := false, reportId := 0 }
      inputBits := 0 }
  else if reportId = 0 then none
  else do
    let writer ← b.writer.reportId reportId
    return { b with
      writer
      reportIdDecided := true
      currentReportId := reportId
      layout := b.layout.map fun layout => { layout with hasReportId := true, reportId }
      inputBits := 8 }

/-- `prepare_data_main`. -/
def prepareDataMain (b : DescriptorBuilder) : Option DescriptorBuilder :=
  if !b.reportIdDecided then none else some { b with dataMainEmitted := true }

/-- `add_layout`: a field at the running offset. -/
def addLayout (b : DescriptorBuilder) (semantic : FieldSemantic) (instanceIndex bitWidth : ℕ)
    (logicalMinimum logicalMaximum : ℤ) (physical : Option PhysicalProperties := none)
    (hasNullState : Bool := false) : Option DescriptorBuilder :=
  if bitWidth = 0 ∨ bitWidth > 32 ∨ b.inputBits > 2 ^ 64 - 1 - bitWidth then none
  else
    some { b with
      layout := b.layout.map fun layout => { layout with
        fields := layout.fields ++
          [{ semantic
             instanceIndex
             bitOffset := b.inputBits
             bitWidth
             isSigned := logicalMinimum < 0 || logicalMaximum < 0
             hasNullState
             logicalMinimum
             logicalMaximum
             physical := physical.getD {} }] }
      inputBits := b.inputBits + bitWidth }

/-- `record_main`: the counters behind the requirements. -/
def recordMain (b : DescriptorBuilder) (feature : Bool) (localUsageCount reportCount
    reportSize : ℕ) : Option DescriptorBuilder :=
  let b := b.observeUsages (max localUsageCount reportCount)
  if reportSize > 2 ^ 32 - 1 then none
  else
    let b := { b with
      requirements.maximumReportSizeBits := max b.requirements.maximumReportSizeBits reportSize }
    if reportSize ≠ 0 ∧ reportCount > (2 ^ 64 - 1) / reportSize then none
    else
      let table := if feature then b.featureReportBits else b.inputReportBits
      let bits := table.getD b.currentReportId 0
      let addedBits := reportSize * reportCount
      if bits > 2 ^ 64 - 1 - addedBits then none
      else
        let table := table.set b.currentReportId (bits + addedBits)
        let b := { b with
          featureReportBits := if feature then table else b.featureReportBits
          inputReportBits := if feature then b.inputReportBits else table
          requirements.maximumReportDataBits :=
            max b.requirements.maximumReportDataBits (bits + addedBits) }
        if localUsageCount = 0 then some b
        else
          let fields := if feature then b.featureFields else b.inputFields
          let count := fields.getD b.currentReportId 0
          if count = 2 ^ 32 - 1 then none
          else
            let fields := fields.set b.currentReportId (count + 1)
            some { b with
              featureFields := if feature then fields else b.featureFields
              inputFields := if feature then b.inputFields else fields
              requirements.maximumFieldsPerReport :=
                max b.requirements.maximumFieldsPerReport (count + 1) }

/-- The four Global items of a physical block, or of its reset. -/
def physicalItems (writer : ItemWriter) (minimum maximum unitExponent : ℤ) (unit : ℕ) :
    Option ItemWriter := do
  let writer ← writer.physicalMinimum minimum
  let writer ← writer.physicalMaximum maximum minimum
  let writer ← writer.unitExponent unitExponent
  writer.unit unit

/-- The flags of a Variable Input item. -/
def variableFlags (relative noPreferred nullState : Bool) : ℕ :=
  0x02 ||| (if relative then 0x04 else 0) ||| (if noPreferred then 0x20 else 0) |||
    (if nullState then 0x40 else 0)

/-- `variable` of the source: one Variable Input field, with its physical block reset behind it. -/
def variableField (b : DescriptorBuilder) (usagePage usage : ℕ) (logicalMinimum logicalMaximum : ℤ)
    (bitWidth : ℕ) (relative nullState : Bool) (semantic : FieldSemantic) (instanceIndex : ℕ)
    (noPreferred : Bool := false) (physical : Option PhysicalProperties := none) :
    Option DescriptorBuilder := do
  let b ← b.prepareDataMain
  let flags := variableFlags relative noPreferred nullState
  let block := physical.getD {}
  if !block.canonicalDisabled && !block.validEnabled then none
  else
    let hasPhysical := physical.isSome && block.validEnabled
    let writer ← b.writer.usagePage usagePage
    let writer ← writer.usage usage
    let writer ← writer.logicalMinimum logicalMinimum
    let writer ← writer.logicalMaximum logicalMaximum logicalMinimum
    let writer ←
      if hasPhysical then
        physicalItems writer block.minimum.toInt block.maximum.toInt block.unitExponent.toInt
          block.unit.toNat
      else some writer
    let writer ← writer.reportSize bitWidth
    let writer ← writer.reportCount 1
    let writer ← writer.input flags
    let b ← { b with writer }.recordMain false 1 1 bitWidth
    let writer ← if hasPhysical then physicalItems b.writer 0 0 0 0 else some b.writer
    { b with writer }.addLayout semantic instanceIndex bitWidth logicalMinimum logicalMaximum
      physical nullState

/-- `variable_range`: one Input item for a range of Usages, and one field for each of them. -/
def variableRange (b : DescriptorBuilder) (usagePage usageMinimum usageMaximum bitWidth : ℕ)
    (semantic : FieldSemantic) : Option DescriptorBuilder := do
  let b ← b.prepareDataMain
  if usageMaximum < usageMinimum then none
  else
    let count := usageMaximum - usageMinimum + 1
    let writer ← b.writer.usagePage usagePage
    let writer ← writer.usageMinimum usageMinimum
    let writer ← writer.usageMaximum usageMaximum
    let writer ← writer.logicalMinimum 0
    let writer ← writer.logicalMaximum 1 0
    let writer ← writer.reportSize bitWidth
    let writer ← writer.reportCount count
    let writer ← writer.input 0x02
    let b ← { b with writer }.recordMain false count count bitWidth
    (List.range count).foldlM
      (fun b index => b.addLayout semantic (index % 2 ^ 16) bitWidth 0 1) b

/-- `constant_padding`. -/
def constantPadding (b : DescriptorBuilder) (bits : ℕ) : Option DescriptorBuilder :=
  if bits = 0 then some b
  else do
    let b ← b.prepareDataMain
    let writer ← b.writer.reportSize bits
    let writer ← writer.reportCount 1
    let writer ← writer.input 0x01
    let b ← { b with writer }.recordMain false 0 1 bits
    b.addLayout .constantPadding 0 (bits % 2 ^ 8) 0 0

/-- `feature_static_value`: a Constant Feature item, which is in no Input report. -/
def featureStaticValue (b : DescriptorBuilder) (usagePage usage : ℕ)
    (logicalMinimum logicalMaximum : ℤ) (bitWidth : ℕ) : Option DescriptorBuilder := do
  let b ← b.prepareDataMain
  let writer ← b.writer.usagePage usagePage
  let writer ← writer.usage usage
  let writer ← writer.logicalMinimum logicalMinimum
  let writer ← writer.logicalMaximum logicalMaximum logicalMinimum
  let writer ← writer.reportSize bitWidth
  let writer ← writer.reportCount 1
  let writer ← writer.feature (0x01 ||| 0x02)
  { b with writer }.recordMain true 1 1 bitWidth

/-- `finish`, with the answer of `good()` after it. -/
def finish (b : DescriptorBuilder) : Option DescriptorBuilder :=
  if b.collectionDepth ≠ 0 then none
  else
    some { b with
      layout := b.layout.map fun layout => { layout with wireBytes := (b.inputBits + 7) / 8 } }

end DescriptorBuilder

/-- `pad_report`: Constant padding up to the next byte boundary. -/
def padReport (b : DescriptorBuilder) : Option DescriptorBuilder :=
  let padding := (8 - (b.inputBits &&& 7)) &&& 7
  if padding ≠ 0 then b.constantPadding (padding % 2 ^ 16) else some b

end LibaoaHid

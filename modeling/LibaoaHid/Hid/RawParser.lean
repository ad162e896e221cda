import LibaoaHid.Hid.DescriptorBuilder
import Mathlib.Logic.Function.Basic

/-!
# The raw descriptor parser

`validate_raw` of `src/hid/validator.cpp`: the walk over the short items of a caller's descriptor,
with its Global and Local states, the Push stack and one accumulator for each Report ID, and the
comparison of what it found with the table of accepted reports.

The array of the accumulators is a function of the Report ID. An item handler that returns an
issue is `Except.error`; the trailing masks and the requirements are what a successful call
writes, since the caller drops both on a failure.

## Main definitions

* `signedValue`, `rawLogicalRangeIsOrdered`, `rawValueFits`, `validateReportTable`.
* `RawParser`, `RawParser.globalItem`, `RawParser.localItem`, `RawParser.inputItem`,
  `RawParser.mainItem`, `RawParser.items`, `RawParser.matchReportTable`.
* `validateRaw`.
-/

namespace LibaoaHid

/-! ### Values -/

/-- The conversion of a `uint32_t` to an `int32_t`. -/
def toSigned32 (value : ℕ) : ℤ := if value < 2 ^ 31 then value else value - 2 ^ 32

/-- `signed_value`. -/
def signedValue (bytes : List UInt8) : ℤ :=
  let value := unsignedValue bytes
  if bytes.length = 0 then 0
  else
    let bits := bytes.length * 8
    let signBit := 1 <<< (bits - 1)
    if value &&& signBit = 0 then toSigned32 value else value - 2 ^ bits

/-- `raw_logical_range_is_ordered`. -/
def rawLogicalRangeIsOrdered (logicalMinimum logicalMaximum : ℤ) : Bool :=
  if logicalMinimum < 0 then decide (logicalMaximum ≥ logicalMinimum)
  else decide (ItemWriter.toUnsigned32 logicalMaximum ≥ ItemWriter.toUnsigned32 logicalMinimum)

/-- `raw_value_fits`. -/
def rawValueFits (logicalMinimum logicalMaximum : ℤ) (bitWidth : ℕ) : Bool :=
  if bitWidth = 0 ∨ bitWidth > 32 ∨ !rawLogicalRangeIsOrdered logicalMinimum logicalMaximum then
    false
  else if logicalMinimum < 0 then
    if bitWidth = 32 then true
    else
      let minimum : ℤ := -2 ^ (bitWidth - 1)
      let maximum : ℤ := 2 ^ (bitWidth - 1) - 1
      decide (logicalMinimum ≥ minimum ∧ logicalMaximum ≤ maximum)
  else if bitWidth = 32 then true
  else decide (ItemWriter.toUnsigned32 logicalMaximum ≤ 2 ^ bitWidth - 1)

/-! ### The state of the walk -/

/-- `SIZE_MAX`. -/
def sizeMax : ℕ := 2 ^ 64 - 1

/-- `RawItem`. -/
structure RawItem where
  tag : ℕ
  data : List UInt8
  offset : ℕ

namespace RawParser

/-- `Globals`. -/
structure Globals where
  logicalMinimum : ℤ := 0
  logicalMaximum : ℤ := 0
  physicalMinimum : ℤ := 0
  physicalMaximum : ℤ := 0
  reportSize : ℕ := 0
  reportCount : ℕ := 0
  unit : ℕ := 0
  usagePage : ℕ := 0
  reportId : ℕ := 0
  usagePageDeclared : Bool := false
  logicalMinimumDeclared : Bool := false
  logicalMaximumDeclared : Bool := false
  physicalMinimumDeclared : Bool := false
  physicalMaximumDeclared : Bool := false
  unitExponentDeclared : Bool := false

/-- `ParsedReport`. -/
structure ParsedReport where
  seen : Bool := false
  bits : ℕ := 0
  fields : ℕ := 0
  topLevel : ℕ := sizeMax

/-- `Locals`. -/
structure Locals where
  usageCount : ℕ := 0
  usageMinimum : ℕ := 0
  usageMinimumSize : ℕ := 0
  usageMinimumDeclared : Bool := false
  delimiterDepth : ℕ := 0
  delimiterBranch : ℕ := 0

end RawParser

/-- `RawParser`. -/
structure RawParser where
  globals : RawParser.Globals := {}
  locals : RawParser.Locals := {}
  requirements : DescriptorRequirements := {}
  globalStack : List RawParser.Globals := []
  parsed : ℕ → RawParser.ParsedReport := fun _ => {}
  collectionDepth : ℕ := 0
  topLevelCount : ℕ := 0
  currentTopLevel : ℕ := sizeMax
  hasReportIds : Bool := false
  sawMainBeforeReportId : Bool := false

namespace RawParser

/-- `issue`: a finding, as a failure. -/
abbrev issue {α : Type} (result : Result) (field reason : String) (offset : ℕ := 0) :
    Except ValidationIssue α :=
  .error ⟨result, field, reason, offset⟩

/-- `observe_usages`. -/
def observeUsages (p : RawParser) (count : ℕ) : RawParser :=
  { p with requirements.maximumUsages := max p.requirements.maximumUsages count }

/-! ### Global items -/

/-- `RawParser::global_item`. The back of the source's stack is the head of the list. -/
def globalItem (p : RawParser) (item : RawItem) : Except ValidationIssue RawParser :=
  let value := unsignedValue item.data
  match item.tag with
  | 0 =>
    if value > 0xFFFF then
      issue .errParam "raw.usage_page" "HID Usage Page values must fit in 16 bits." item.offset
    else .ok { p with globals.usagePage := value, globals.usagePageDeclared := true }
  | 1 =>
    .ok { p with
      globals.logicalMinimum := signedValue item.data
      globals.logicalMinimumDeclared := true }
  | 2 =>
    .ok { p with
      globals.logicalMaximum :=
        if p.globals.logicalMinimum < 0 then signedValue item.data else toSigned32 value
      globals.logicalMaximumDeclared := true }
  | 3 =>
    .ok { p with
      globals.physicalMinimum := signedValue item.data
      globals.physicalMinimumDeclared := true }
  | 4 =>
    .ok { p with
      globals.physicalMaximum :=
        if p.globals.physicalMinimum < 0 then signedValue item.data else toSigned32 value
      globals.physicalMaximumDeclared := true }
  | 5 =>
    if value > 0x0F then
      issue .errParam "raw.unit_exponent"
        "Unit Exponent must use the HID 1.11 four-bit encoding." item.offset
    else .ok { p with globals.unitExponentDeclared := true }
  | 6 =>
    if !unitIsValid value then
      issue .errParam "raw.unit"
        ("The Unit item uses a reserved HID system code or a nonzero " ++
          "reserved high nibble.") item.offset
    else .ok { p with globals.unit := value }
  | 7 =>
    .ok { p with
      globals.reportSize := value
      requirements.maximumReportSizeBits := max p.requirements.maximumReportSizeBits value }
  | 8 =>
    if value = 0 ∨ value > 255 ∨ p.sawMainBeforeReportId then
      issue .errParam "raw.report_id"
        "Report IDs must be 1 through 255 and precede every data Main item." item.offset
    else .ok { p with globals.reportId := value, hasReportIds := true }
  | 9 => .ok ({ p with globals.reportCount := value }.observeUsages value)
  | 10 =>
    let globalStack := p.globals :: p.globalStack
    .ok { p with
      globalStack
      requirements.maximumGlobalStackDepth :=
        max p.requirements.maximumGlobalStackDepth (globalStack.length % 2 ^ 32) }
  | 11 =>
    match p.globalStack with
    | [] =>
      issue .errParam "raw.global_stack" "A Global Pop has no matching Push." item.offset
    | globals :: globalStack => .ok { p with globals, globalStack }
  | _ =>
    issue .errParam "raw.global"
      ("The descriptor contains a reserved HID Global item tag rejected by " ++
        "the audited target parser.") item.offset

/-! ### Local items -/

/-- `add_usage_count`, and the observation behind it. -/
def addUsageCount (p : RawParser) (count : ℕ) (offset : ℕ) : Except ValidationIssue RawParser :=
  if p.locals.usageCount > 2 ^ 64 - 1 - count then
    issue .errOverflow "raw.usages" "The Local Usage count overflows uint64_t." offset
  else
    let usageCount := p.locals.usageCount + count
    .ok ({ p with locals.usageCount := usageCount }.observeUsages usageCount)

/-- A Delimiter item. -/
def delimiterItem (p : RawParser) (value offset : ℕ) : Except ValidationIssue RawParser :=
  if value > 1 then
    issue .errParam "raw.delimiter" "HID Local Delimiter values must be exactly zero or one." offset
  else if value = 1 then
    if p.locals.delimiterDepth ≠ 0 then
      issue .errParam "raw.delimiter" "Nested HID Local delimiters are invalid." offset
    else
      .ok { p with
        locals.delimiterDepth := p.locals.delimiterDepth + 1
        locals.delimiterBranch := p.locals.delimiterBranch + 1 }
  else if p.locals.delimiterDepth = 0 then
    issue .errParam "raw.delimiter"
      "A HID Local close delimiter has no matching open delimiter." offset
  else .ok { p with locals.delimiterDepth := p.locals.delimiterDepth - 1 }

/-- A Usage Maximum item. -/
def usageMaximumItem (p : RawParser) (maximum size offset : ℕ) :
    Except ValidationIssue RawParser :=
  if p.locals.usageMinimumDeclared ∧ p.locals.usageMinimumSize = 4 ∧ size ≠ 4 then
    issue .errParam "raw.usage_range"
      "An extended Usage Minimum requires an extended Usage Maximum." offset
  else if maximum = 2 ^ 32 - 1 then
    issue .errUnsupported "raw.usage_range"
      ("Usage Maximum UINT32_MAX is excluded because the audited " ++
        "target's inclusive expansion can wrap for some Local state.") offset
  else if maximum < p.locals.usageMinimum then
    issue .errParam "raw.usage_range" "Usage Maximum is below the current Usage Minimum." offset
  else p.addUsageCount (maximum - p.locals.usageMinimum + 1) offset

/-- `RawParser::local_item`. -/
def localItem (p : RawParser) (item : RawItem) : Except ValidationIssue RawParser :=
  let value := unsignedValue item.data
  if item.tag = 10 then p.delimiterItem value item.offset
  else if item.tag = 6 ∨ item.tag > 10 then
    issue .errParam "raw.local" "The descriptor contains a reserved HID Local item tag."
      item.offset
  else if p.locals.delimiterBranch ≤ 1 then
    if item.tag = 0 then p.addUsageCount 1 item.offset
    else if item.tag = 1 then
      .ok { p with
        locals.usageMinimum := value
        locals.usageMinimumSize := item.data.length
        locals.usageMinimumDeclared := true }
    else if item.tag = 2 then p.usageMaximumItem value item.data.length item.offset
    else .ok p
  else .ok p

/-! ### Main items -/

/-- The checks of `RawParser::input_item` on the states in front of the item. -/
def checkInput (p : RawParser) (inputFlags offset : ℕ) : Except ValidationIssue Unit :=
  let constant := inputFlags &&& 0x001 ≠ 0
  let variableField := inputFlags &&& 0x002 ≠ 0
  if p.collectionDepth = 0 ∨ p.globals.reportSize = 0 ∨ p.globals.reportCount = 0 then
    issue .errParam "raw.input"
      "Each Input item needs a collection, Report Size, and Report Count." offset
  else if p.hasReportIds ∧ p.globals.reportId = 0 then
    issue .errParam "raw.report_id"
      ("A descriptor using Report IDs cannot restore the implicit " ++
        "ID-zero report for Input data.") offset
  else if p.globals.reportSize > 32 then
    issue .errParam "raw.input"
      "HID 1.11 section 8.4 limits an individual field to 32 bits." offset
  else if inputFlags &&& (0x17F ^^^ (2 ^ 32 - 1)) ≠ 0 then
    issue .errParam "raw.input" "The Input item sets HID-reserved flag bits." offset
  else if p.globals.unit ≠ 0 ∧
      (!p.globals.logicalMinimumDeclared ∨ !p.globals.logicalMaximumDeclared ∨
        !p.globals.physicalMinimumDeclared ∨ !p.globals.physicalMaximumDeclared ∨
        !p.globals.unitExponentDeclared) then
    issue .errParam "raw.unit"
      ("HUT 1.7 section 3.3 requires Logical and Physical extents " ++
        "plus Unit Exponent when a Unit qualifies a Main item.") offset
  else if !rawLogicalRangeIsOrdered p.globals.logicalMinimum p.globals.logicalMaximum then
    issue .errParam "raw.logical_range"
      "The Logical Maximum is below the Logical Minimum under HID signedness rules." offset
  else if ¬variableField ∧ p.locals.delimiterBranch ≠ 0 then
    issue .errParam "raw.delimiter"
      "HID 1.11 section 6.2.2.8 forbids delimiters for Array item Usages." offset
  else if ¬constant ∧ (!p.globals.usagePageDeclared ∨ !p.globals.logicalMinimumDeclared ∨
      !p.globals.logicalMaximumDeclared ∨ p.locals.usageCount = 0) then
    issue .errParam "raw.input"
      ("HID 1.11 section 6.2.2.2 requires Usage Page, Usage, Logical " ++
        "Minimum, and Logical Maximum to describe control data.") offset
  else if ¬constant ∧ !rawValueFits p.globals.logicalMinimum p.globals.logicalMaximum
      (p.globals.reportSize % 2 ^ 8) then
    issue .errParam "raw.logical_range"
      "A data Input logical range does not fit its Report Size and signedness." offset
  else if inputFlags &&& 0x100 ≠ 0 ∧ (p.parsed p.globals.reportId).bits &&& 7 ≠ 0 then
    issue .errParam "raw.input" "Buffered Bytes Input data must begin on a byte boundary." offset
  else if (p.parsed p.globals.reportId).seen ∧
      (p.parsed p.globals.reportId).topLevel ≠ p.currentTopLevel then
    issue .errParam "raw.input" "One report cannot cross two top-level collections." offset
  else .ok ()

/-- The field counter of a report behind an Input item with Usages. -/
def countField (p : RawParser) (offset : ℕ) : Except ValidationIssue RawParser :=
  let report := p.parsed p.globals.reportId
  if p.locals.usageCount ≠ 0 then
    if report.fields = 2 ^ 32 - 1 then
      issue .errOverflow "raw.fields" "The per-report Input field count overflows uint32_t." offset
    else
      .ok { p with
        parsed := Function.update p.parsed p.globals.reportId
          { report with fields := report.fields + 1 }
        requirements.maximumFieldsPerReport :=
          max p.requirements.maximumFieldsPerReport (report.fields + 1) }
  else .ok p

/-- The bit counter of a report behind an Input item. -/
def countBits (p : RawParser) (offset : ℕ) : Except ValidationIssue RawParser :=
  let report := p.parsed p.globals.reportId
  if !fieldSpanIsValid report.bits p.globals.reportSize p.globals.reportCount then
    issue .errParam "raw.input"
      "HID 1.11 section 8.4 forbids one field from spanning more than four bytes." offset
  else if p.globals.reportCount > sizeMax / p.globals.reportSize then
    issue .errOverflow "raw.input" "Report Size multiplied by Report Count overflows size_t."
      offset
  else
    let addedBits := p.globals.reportSize * p.globals.reportCount
    if report.bits > sizeMax - addedBits then
      issue .errOverflow "raw.input" "The report bit length overflows size_t." offset
    else
      .ok { p with
        parsed := Function.update p.parsed p.globals.reportId
          { report with bits := report.bits + addedBits }
        requirements.maximumReportDataBits :=
          max p.requirements.maximumReportDataBits (report.bits + addedBits) }

/-- `RawParser::input_item`. -/
def inputItem (p : RawParser) (item : RawItem) : Except ValidationIssue RawParser := do
  p.checkInput (unsignedValue item.data) item.offset
  let p := { p with
    parsed := Function.update p.parsed p.globals.reportId
      { p.parsed p.globals.reportId with seen := true, topLevel := p.currentTopLevel } }
  let p ← p.countField item.offset
  p.countBits item.offset

/-- A Collection item. -/
def collectionItem (p : RawParser) (collectionType offset : ℕ) :
    Except ValidationIssue RawParser :=
  if collectionType > 0xFF ∨ (collectionType ≥ 0x07 ∧ collectionType ≤ 0x7F) then
    issue .errParam "raw.collection" "The Collection item uses a reserved or oversized HID type."
      offset
  else if p.locals.usageCount = 0 then
    issue .errParam "raw.collection"
      "HID 1.11 section 6.2.2.6 requires a Usage for every Collection." offset
  else if collectionType = 1 ∧ p.locals.delimiterBranch ≠ 0 then
    issue .errParam "raw.delimiter"
      ("HID 1.11 section 6.2.2.8 forbids delimiters for Application " ++
        "Collection Usages.") offset
  else if p.collectionDepth = 0 then
    if collectionType ≠ 1 then
      issue .errParam "raw.collection"
        "Every top-level collection must be an Application collection." offset
    else
      .ok { p with
        currentTopLevel := p.topLevelCount
        topLevelCount := p.topLevelCount + 1
        collectionDepth := p.collectionDepth + 1 }
  else .ok { p with collectionDepth := p.collectionDepth + 1 }

/-- An End Collection item. -/
def endCollectionItem (p : RawParser) (offset : ℕ) : Except ValidationIssue RawParser :=
  if p.collectionDepth = 0 then
    issue .errParam "raw.collection" "End Collection has no matching Collection." offset
  else
    let collectionDepth := p.collectionDepth - 1
    .ok { p with
      collectionDepth
      currentTopLevel := if collectionDepth = 0 then sizeMax else p.currentTopLevel }

/-- An Input, Output or Feature item. -/
def dataItem (p : RawParser) (item : RawItem) : Except ValidationIssue RawParser :=
  let p := { p with sawMainBeforeReportId := p.sawMainBeforeReportId || !p.hasReportIds }
  if item.tag ≠ 8 then
    issue .errUnsupported "raw.descriptor"
      ("The validated raw profile is Input-only and rejects Output and " ++
        "Feature Main items.") item.offset
  else p.inputItem item

/-- The tags of `RawParser::main_item`. -/
def taggedMainItem (p : RawParser) (item : RawItem) : Except ValidationIssue RawParser :=
  if item.tag = 10 then p.collectionItem (unsignedValue item.data) item.offset
  else if item.tag = 12 then p.endCollectionItem item.offset
  else if item.tag = 8 ∨ item.tag = 9 ∨ item.tag = 11 then p.dataItem item
  else
    issue .errParam "raw.main" "The descriptor contains a reserved HID Main item tag." item.offset

/-- `RawParser::main_item`. Every Main item ends with the reset of the Local state. -/
def mainItem (p : RawParser) (item : RawItem) : Except ValidationIssue RawParser :=
  let p := p.observeUsages p.locals.usageCount
  if p.locals.delimiterDepth ≠ 0 then
    issue .errParam "raw.delimiter" "A HID Local delimiter set must be closed before its Main item."
      item.offset
  else (p.taggedMainItem item).map fun p => { p with locals := {} }

/-! ### The walk -/

/-- The handler of an item type. -/
def item (p : RawParser) (type : ℕ) (item : RawItem) : Except ValidationIssue RawParser :=
  if type = 1 then p.globalItem item
  else if type = 2 then p.localItem item
  else if type = 0 then p.mainItem item
  else
    issue .errParam "raw.item_type" "The descriptor contains a reserved HID short-item type."
      item.offset

/-- The item loop of `validate_raw`. Every turn takes the prefix byte, so as many turns as there
are bytes reach the end of the descriptor. -/
def items : ℕ → RawParser → ℕ → List UInt8 → Except ValidationIssue RawParser
  | _, p, _, [] => .ok p
  | 0, p, _, _ => .ok p
  | turns + 1, p, offset, byte :: rest =>
    let pref := byte.toNat
    let sizeCode := pref &&& 0x03
    let size := if sizeCode = 3 then 4 else sizeCode
    if pref &&& 0xF0 = 0xF0 then
      issue .errUnsupported "raw.descriptor"
        "The validated raw escape hatch does not accept HID long-item tags." offset
    else if size > rest.length then
      issue .errParam "raw.descriptor" "A short item extends beyond the descriptor." offset
    else do
      let p ← p.item ((pref >>> 2) &&& 0x03)
        { tag := (pref >>> 4) &&& 0x0F, data := rest.take size, offset }
      items turns p (offset + 1 + size) (rest.drop size)

/-! ### The report table -/

/-- The mask of the bits of a report's last byte that belong to its fields. -/
def trailingMask (bits : ℕ) : UInt8 :=
  let trailingBits := bits &&& 7
  if trailingBits = 0 then 0xFF else UInt8.ofNat ((1 <<< trailingBits) - 1)

/-- One turn of the loop of `RawParser::match_report_table`, for a Report ID. -/
def matchReport (p : RawParser) (reports : List RawReport) (masks : List UInt8) (id : ℕ) :
    Except ValidationIssue (List UInt8) :=
  let report := p.parsed id
  if !report.seen then .ok masks
  else if report.bits > sizeMax - 7 then
    issue .errOverflow "raw.input" "Rounding the report bit length to bytes overflows size_t."
  else
    let expected := (report.bits + 7) / 8 + if p.hasReportIds then 1 else 0
    if expected > 2 ^ 32 - 1 then
      issue .errOverflow "raw.reports"
        ("The descriptor report length exceeds the raw report table's 32-bit " ++
          "wire-length field.")
    else
      match reports.findIdx? fun entry => entry.reportId.toNat = id ∧
          entry.hasReportId = if p.hasReportIds then 1 else 0 with
      | none =>
        issue .errParam "raw.reports"
          "The accepted-report table omits a descriptor Input report."
      | some index =>
        if (reports[index]?.map fun entry => entry.wireLength.toNat) ≠ some expected then
          issue .errParam "raw.reports"
            "An accepted raw report length does not match the descriptor."
        else .ok (masks.set index (trailingMask report.bits))

/-- `RawParser::match_report_table`. -/
def matchReportTable (p : RawParser) (reports : List RawReport) (masks : List UInt8) :
    Except ValidationIssue (List UInt8) := do
  let masks ← (List.range 256).foldlM (p.matchReport reports) masks
  if (List.range 256).countP (fun id => (p.parsed id).seen) ≠ reports.length then
    issue .errParam "raw.reports"
      "The accepted-report table contains a report not defined by the descriptor."
  else return masks

end RawParser

/-- One entry of the loop of `validate_report_table`, behind the others. -/
def reportEntryIssue (previous : List RawReport) (report : RawReport) : Option ValidationIssue :=
  if report.reserved16 ≠ 0 ∨ report.hasReportId > 1 ∨
      (report.hasReportId = 1 ∧ report.reportId = 0) ∨
      (report.hasReportId = 0 ∧ report.reportId ≠ 0) ∨ report.wireLength = 0 then
    some ⟨.errParam, "raw.reports",
      ("Every raw report entry needs canonical ID state, nonzero length, and " ++
        "zero reserved fields."), 0⟩
  else if previous.any fun other =>
      other.reportId == report.reportId && other.hasReportId == report.hasReportId then
    some ⟨.errParam, "raw.reports",
      "The accepted-report table contains a duplicate Input report identity.", 0⟩
  else none

/-- The loop of `validate_report_table`. -/
def reportEntries (previous : List RawReport) : List RawReport → Option ValidationIssue
  | [] => none
  | report :: rest =>
    match reportEntryIssue previous report with
    | some found => some found
    | none => reportEntries (previous ++ [report]) rest

/-- `validate_report_table`; an empty table stands for the null pointer as well. -/
def validateReportTable (reports : List RawReport) : Option ValidationIssue :=
  if reports.length = 0 then
    some ⟨.errUnsetField, "raw.reports",
      "Raw descriptors require an explicit accepted-report table.", 0⟩
  else if reports.length > 256 then
    some ⟨.errOverflow, "raw.reports",
      "The accepted-report table exceeds the 256 possible Report IDs.", 0⟩
  else reportEntries [] reports

/-- `validate_raw`: the masks and the requirements of an accepted descriptor. -/
def validateRaw (descriptor : List UInt8) (reports : List RawReport) (masks : List UInt8) :
    Except ValidationIssue (List UInt8 × DescriptorRequirements) :=
  if descriptor.length = 0 then
    .error ⟨.errUnsetField, "raw.descriptor",
      "The raw descriptor must contain at least one byte.", 0⟩
  else if descriptor.length > 65535 then
    .error ⟨.errOverflow, "raw.descriptor",
      "The descriptor exceeds the 16-bit AOA wire-length field.", 0⟩
  else
    match validateReportTable reports with
    | some found => .error found
    | none => do
      let parser ← RawParser.items descriptor.length {} 0 descriptor
      if parser.collectionDepth ≠ 0 ∨ parser.globalStack ≠ [] ∨
          parser.locals.delimiterDepth ≠ 0 then
        .error ⟨.errParam, "raw.descriptor",
          "Collections, the Global state stack, or a Local delimiter are unbalanced.", 0⟩
      else if parser.topLevelCount = 0 then
        .error ⟨.errParam, "raw.collection",
          "The descriptor has no top-level Application collection.", 0⟩
      else do
        let masks ← parser.matchReportTable reports masks
        return (masks, parser.requirements)

end LibaoaHid

import LibaoaHid.Hid.Emission
import Mathlib.Algebra.BigOperators.Group.List.Basic

/-!
# Emitter programs

The emitters of the generated profiles are sequences of builder operations between a top-level
Application collection and its end. An emitter as a program, that is, as the list of its operations,
is known before it runs: its items, its fields and its counters are functions of the list.

## Main definitions

* `EmitterOp`, `EmitterProgram`: operations and programs, and how a builder runs them.
* `EmitterOp.items`, `EmitterOp.fields`: what an operation writes and records.
* `Tally`: the counters of the builder for one report.
* `EmitterProgram.Valid`: the arguments are those of an accepted declaration.

## Main results

* `Tally.after_bits`, `EmitterOp.after_depth`: the counters behind one operation.
-/

namespace LibaoaHid

open Hid

/-! ### Programs -/

/-- A Variable Input field. -/
structure VariableField where
  usagePage : ℕ
  usage : ℕ
  logicalMinimum : ℤ
  logicalMaximum : ℤ
  bitWidth : ℕ
  relative : Bool
  nullState : Bool
  semantic : FieldSemantic
  instanceIndex : ℕ
  noPreferred : Bool := false
  physical : Option PhysicalProperties := none

/-- A Constant Feature item. -/
structure StaticFeature where
  usagePage : ℕ
  usage : ℕ
  logicalMinimum : ℤ
  logicalMaximum : ℤ
  bitWidth : ℕ

/-- The operations of an emitter inside its Application collection. A range declares one-bit
fields. -/
inductive EmitterOp
  | openLogical (usagePage usage : ℕ)
  | openPhysical (usagePage usage : ℕ)
  | close
  | field (d : VariableField)
  | range (usagePage usageMinimum usageMaximum : ℕ) (semantic : FieldSemantic)
  | pad

/-- An emitter: its Application collection, its Report ID declaration, perhaps a Feature item, and
the operations behind them. -/
structure EmitterProgram where
  usagePage : ℕ
  usage : ℕ
  enabled : Bool
  reportId : ℕ
  feature : Option StaticFeature := none
  body : List EmitterOp

/-- The builder operation. -/
def EmitterOp.run : EmitterOp → DescriptorBuilder → Option DescriptorBuilder
  | .openLogical usagePage usage, b => b.beginLogical usagePage usage
  | .openPhysical usagePage usage, b => b.beginPhysical usagePage usage
  | .close, b => b.endCollection
  | .field d, b =>
    b.variableField d.usagePage d.usage d.logicalMinimum d.logicalMaximum d.bitWidth d.relative
      d.nullState d.semantic d.instanceIndex d.noPreferred d.physical
  | .range usagePage usageMinimum usageMaximum semantic, b =>
    b.variableRange usagePage usageMinimum usageMaximum 1 semantic
  | .pad, b => padReport b

/-- A sequence of operations. -/
def runBody (ops : List EmitterOp) (b : DescriptorBuilder) : Option DescriptorBuilder :=
  ops.foldlM (fun b op => op.run b) b

theorem runBody_cons (op : EmitterOp) (ops : List EmitterOp) :
    runBody (op :: ops) = fun b => (op.run b).bind (runBody ops) := rfl

theorem runBody_append (first second : List EmitterOp) :
    runBody (first ++ second) = fun b => (runBody first b).bind (runBody second) :=
  funext fun _ => List.foldlM_append

/-- The Feature item of a program, if it has one. -/
def runFeature (feature : Option StaticFeature) (b : DescriptorBuilder) :
    Option DescriptorBuilder :=
  match feature with
  | none => some b
  | some f =>
    b.featureStaticValue f.usagePage f.usage f.logicalMinimum f.logicalMaximum f.bitWidth

/-- A whole program. -/
def EmitterProgram.run (p : EmitterProgram) (b : DescriptorBuilder) : Option DescriptorBuilder :=
  (b.beginApplication p.usagePage p.usage).bind fun b =>
    (b.setReportId p.enabled p.reportId).bind fun b =>
      (runFeature p.feature b).bind fun b => (runBody p.body b).bind fun b => b.endCollection

/-- The end of the Application collection is one operation more. -/
theorem EmitterProgram.run_flatten {p : EmitterProgram} {pieces : List (List EmitterOp)}
    (hbody : p.body = pieces.flatten) (b : DescriptorBuilder) :
    p.run b = (b.beginApplication p.usagePage p.usage).bind fun b =>
      (b.setReportId p.enabled p.reportId).bind fun b =>
        (runFeature p.feature b).bind (runBody (pieces ++ [[EmitterOp.close]]).flatten) := by
  rw [List.flatten_append, ← hbody, runBody_append]
  unfold run
  congr 1
  funext b
  congr 1
  funext b
  congr 1
  funext b
  exact congrArg _ (funext fun b => (Option.bind_fun_some _).symm)

/-! ### Items -/

/-- The items of a physical block. -/
def physicalBlock (minimum maximum unitExponent : ℤ) (unit : ℕ) : List ShortItem :=
  [.ofSigned .globalState 3 minimum, ItemWriter.maximumItem 4 maximum minimum,
    ItemWriter.exponentItem unitExponent, .ofUnsigned .globalState 6 unit]

namespace VariableField

variable (d : VariableField)

/-- The physical block of a field, all zero when it has none. -/
def block : PhysicalProperties := d.physical.getD {}

/-- The field writes its physical block. -/
def hasPhysical : Bool := d.physical.isSome && d.block.validEnabled

/-- The items in front of the Input item. -/
def opening : List ShortItem :=
  [.ofUnsigned .globalState 0 d.usagePage, .ofUnsigned .localState 0 d.usage,
    .ofSigned .globalState 1 d.logicalMinimum,
    ItemWriter.maximumItem 2 d.logicalMaximum d.logicalMinimum] ++
  if d.hasPhysical then
    physicalBlock d.block.minimum.toInt d.block.maximum.toInt d.block.unitExponent.toInt
      d.block.unit.toNat
  else []

/-- The Input item of the field. -/
def input : List ShortItem :=
  [.ofUnsigned .globalState 7 d.bitWidth, .ofUnsigned .globalState 9 1,
    .ofUnsigned .main 8 (DescriptorBuilder.variableFlags d.relative d.noPreferred d.nullState)]

/-- The reset of the physical block. -/
def closing : List ShortItem := if d.hasPhysical then physicalBlock 0 0 0 0 else []

/-- All items of the field. -/
def items : List ShortItem := d.opening ++ d.input ++ d.closing

/-- The field in a layout. -/
def layoutAt (bitOffset : ℕ) : FieldLayout where
  semantic := d.semantic
  instanceIndex := d.instanceIndex
  bitOffset
  bitWidth := d.bitWidth
  isSigned := decide (d.logicalMinimum < 0) || decide (d.logicalMaximum < 0)
  hasNullState := d.nullState
  logicalMinimum := d.logicalMinimum
  logicalMaximum := d.logicalMaximum
  physical := d.block

end VariableField

/-- The items of a Feature. -/
def StaticFeature.items (f : StaticFeature) : List ShortItem :=
  [.ofUnsigned .globalState 0 f.usagePage, .ofUnsigned .localState 0 f.usage,
    .ofSigned .globalState 1 f.logicalMinimum,
    ItemWriter.maximumItem 2 f.logicalMaximum f.logicalMinimum,
    .ofUnsigned .globalState 7 f.bitWidth, .ofUnsigned .globalState 9 1,
    .ofUnsigned .main 11 (0x01 ||| 0x02)]

/-- The items of a collection's start. -/
def collectionItems (usagePage usage type : ℕ) : List ShortItem :=
  [.ofUnsigned .globalState 0 usagePage, .ofUnsigned .localState 0 usage, .ofUnsigned .main 10 type]

/-- The bits up to the next byte boundary. -/
def padding (bits : ℕ) : ℕ := (8 - bits % 8) % 8

/-- One padding field in a layout. -/
def paddingAt (bitOffset bits : ℕ) : FieldLayout where
  semantic := .constantPadding
  instanceIndex := 0
  bitOffset
  bitWidth := bits
  isSigned := false
  hasNullState := false
  logicalMinimum := 0
  logicalMaximum := 0

/-- One field of a range in a layout. -/
def rangeFieldAt (semantic : FieldSemantic) (bitOffset index : ℕ) : FieldLayout where
  semantic
  instanceIndex := index % 2 ^ 16
  bitOffset := bitOffset + index
  bitWidth := 1
  isSigned := false
  hasNullState := false
  logicalMinimum := 0
  logicalMaximum := 1

namespace EmitterOp

/-- The items that an operation writes behind some data bits of the report. -/
def items (bits : ℕ) : EmitterOp → List ShortItem
  | .openLogical usagePage usage => collectionItems usagePage usage 0x02
  | .openPhysical usagePage usage => collectionItems usagePage usage 0x00
  | .close => [.empty .main 12]
  | .field d => d.items
  | .range usagePage usageMinimum usageMaximum _ =>
    [.ofUnsigned .globalState 0 usagePage, .ofUnsigned .localState 1 usageMinimum,
      .ofUnsigned .localState 2 usageMaximum, .ofSigned .globalState 1 0,
      ItemWriter.maximumItem 2 1 0, .ofUnsigned .globalState 7 1,
      .ofUnsigned .globalState 9 (usageMaximum - usageMinimum + 1), .ofUnsigned .main 8 0x02]
  | .pad =>
    if padding bits = 0 then []
    else
      [.ofUnsigned .globalState 7 (padding bits), .ofUnsigned .globalState 9 1,
        .ofUnsigned .main 8 0x01]

/-- The data bits that an operation adds. -/
def bits (bits : ℕ) : EmitterOp → ℕ
  | .field d => d.bitWidth
  | .range _ usageMinimum usageMaximum _ => usageMaximum - usageMinimum + 1
  | .pad => padding bits
  | _ => 0

/-- The fields that an operation records. -/
def fields (prefixBits bits : ℕ) : EmitterOp → List FieldLayout
  | .field d => [d.layoutAt (prefixBits + bits)]
  | .range _ usageMinimum usageMaximum semantic =>
    (List.range (usageMaximum - usageMinimum + 1)).map (rangeFieldAt semantic (prefixBits + bits))
  | .pad => if padding bits = 0 then [] else [paddingAt (prefixBits + bits) (padding bits)]
  | _ => []

end EmitterOp

/-- The items of a sequence of operations. -/
def bodyItems : ℕ → List EmitterOp → List ShortItem
  | _, [] => []
  | bits, op :: ops => op.items bits ++ bodyItems (bits + op.bits bits) ops

/-- The fields of a sequence of operations. -/
def bodyFields (prefixBits : ℕ) : ℕ → List EmitterOp → List FieldLayout
  | _, [] => []
  | bits, op :: ops =>
    op.fields prefixBits bits ++ bodyFields prefixBits (bits + op.bits bits) ops

/-- The data bits behind a sequence of operations. -/
def bodyBits : ℕ → List EmitterOp → ℕ
  | bits, [] => bits
  | bits, op :: ops => bodyBits (bits + op.bits bits) ops

namespace EmitterProgram

variable (p : EmitterProgram)

/-- The bits of the Report ID. -/
def prefixBits : ℕ := if p.enabled then 8 else 0

/-- The Report ID, if there is one. -/
def identity : Option ℕ := if p.enabled then some p.reportId else none

/-- The items in front of the Input items. -/
def head : List ShortItem :=
  collectionItems p.usagePage p.usage 0x01 ++
    (if p.enabled then [.ofUnsigned .globalState 8 p.reportId] else []) ++
      (p.feature.map StaticFeature.items).getD []

/-- The items of a program. -/
def items : List ShortItem := p.head ++ bodyItems 0 p.body ++ [.empty .main 12]

/-- The bytes of a program. -/
def bytes : List UInt8 := encodeItems p.items

/-- The layout of a program. -/
def layout : ReportLayout where
  hasReportId := p.enabled
  reportId := if p.enabled then p.reportId else 0
  wireBytes := (p.prefixBits + bodyBits 0 p.body + 7) / 8
  fields := bodyFields p.prefixBits 0 p.body

end EmitterProgram

/-! ### Counters -/

/-- The counters of the builder, for the one Input report. -/
structure Tally where
  bits : ℕ := 0
  fields : ℕ := 0
  depth : ℕ := 0
  requirements : DescriptorRequirements := {}

namespace Tally

/-- A collection. -/
def opened (t : Tally) : Tally :=
  { t with
    depth := t.depth + 1
    requirements.maximumUsages := max t.requirements.maximumUsages 1 }

/-- An end of a collection. -/
def closed (t : Tally) : Tally := { t with depth := t.depth - 1 }

/-- A data item. -/
def recorded (t : Tally) (localUsageCount reportCount reportSize : ℕ) : Tally where
  bits := t.bits + reportSize * reportCount
  fields := if localUsageCount = 0 then t.fields else t.fields + 1
  depth := t.depth
  requirements :=
    { maximumFieldsPerReport :=
        if localUsageCount = 0 then t.requirements.maximumFieldsPerReport
        else max t.requirements.maximumFieldsPerReport (t.fields + 1)
      maximumGlobalStackDepth := t.requirements.maximumGlobalStackDepth
      maximumReportSizeBits := max t.requirements.maximumReportSizeBits reportSize
      maximumUsages := max t.requirements.maximumUsages (max localUsageCount reportCount)
      maximumReportDataBits :=
        max t.requirements.maximumReportDataBits (t.bits + reportSize * reportCount) }

/-- One operation. -/
def after (t : Tally) : EmitterOp → Tally
  | .openLogical _ _ | .openPhysical _ _ => t.opened
  | .close => t.closed
  | .field d => t.recorded 1 1 d.bitWidth
  | .range _ usageMinimum usageMaximum _ =>
    t.recorded (usageMaximum - usageMinimum + 1) (usageMaximum - usageMinimum + 1) 1
  | .pad => if padding t.bits = 0 then t else t.recorded 0 1 (padding t.bits)

/-- A sequence of operations. -/
def afterBody (t : Tally) (ops : List EmitterOp) : Tally := ops.foldl Tally.after t

/-- A Feature item in front of the Input items, which has its own counters. -/
def featured (t : Tally) (reportSize : ℕ) : Tally :=
  { t with requirements := (t.recorded 1 1 reportSize).requirements }

/-- An operation adds its bits. -/
theorem after_bits (t : Tally) (op : EmitterOp) : (t.after op).bits = t.bits + op.bits t.bits := by
  cases op with
  | pad =>
    simp only [after, EmitterOp.bits]
    split_ifs with h
    · rw [h, Nat.add_zero]
    · simp [recorded]
  | _ => simp [after, EmitterOp.bits, recorded, opened, closed]

end Tally

namespace EmitterProgram

/-- The counters in front of the Input items. -/
def start (p : EmitterProgram) : Tally :=
  match p.feature with
  | none => Tally.opened {}
  | some f => (Tally.opened {}).featured f.bitWidth

/-- The counters behind the Input items. -/
def tally (p : EmitterProgram) : Tally := p.start.afterBody p.body

end EmitterProgram

/-! ### Valid programs -/

/-- A physical block that a declaration can have. -/
def PhysicalProperties.Declarable (physical : PhysicalProperties) : Prop :=
  physical.canonicalDisabled = true ∨ physical.validEnabled = true

/-- A field with the declaration of an accepted option. -/
structure VariableField.Valid (d : VariableField) : Prop where
  usagePage : d.usagePage < 2 ^ 16
  usage : d.usage < 2 ^ 16
  minimum : -2 ^ 31 ≤ d.logicalMinimum
  maximum : d.logicalMaximum < 2 ^ 31
  fits : valueFits d.logicalMinimum d.logicalMaximum d.bitWidth = true
  semantic : d.semantic ≠ .constantPadding
  physical : d.block.Declarable

/-- A range that is ordered and fits its width. -/
theorem of_valueFits {minimum maximum : ℤ} {width : ℕ}
    (h : valueFits minimum maximum width = true) :
    0 < width ∧ width ≤ 32 ∧ minimum ≤ maximum := by
  unfold valueFits at h
  split_ifs at h <;> omega

/-- A Feature with a small value. -/
structure StaticFeature.Valid (f : StaticFeature) : Prop where
  usagePage : f.usagePage < 2 ^ 16
  usage : f.usage < 2 ^ 16
  minimum : -2 ^ 31 ≤ f.logicalMinimum
  maximum : f.logicalMaximum < 2 ^ 31
  ordered : f.logicalMinimum ≤ f.logicalMaximum
  width : 0 < f.bitWidth ∧ f.bitWidth ≤ 32

namespace EmitterOp

/-- The arguments of an operation. -/
def Valid : EmitterOp → Prop
  | .openLogical usagePage usage | .openPhysical usagePage usage =>
    usagePage < 2 ^ 16 ∧ usage < 2 ^ 16
  | .close | .pad => True
  | .field d => d.Valid
  | .range usagePage usageMinimum usageMaximum semantic =>
    usagePage < 2 ^ 16 ∧ usageMinimum ≤ usageMaximum ∧ usageMaximum < 2 ^ 16 ∧
      semantic ≠ .constantPadding

/-- The most bits that an operation adds. -/
def cost : EmitterOp → ℕ
  | .field d => d.bitWidth
  | .range _ usageMinimum usageMaximum _ => usageMaximum - usageMinimum + 1
  | .pad => 8
  | _ => 0

theorem bits_le_cost (op : EmitterOp) (bits : ℕ) : op.bits bits ≤ op.cost := by
  cases op with
  | pad =>
    have := Nat.mod_lt (8 - bits % 8) (show 0 < 8 by norm_num)
    exact this.le
  | _ => exact le_rfl

/-- The depth behind an operation. -/
def depthFrom (depth : ℕ) : EmitterOp → ℕ
  | .openLogical _ _ | .openPhysical _ _ => depth + 1
  | .close => depth - 1
  | _ => depth

theorem after_depth (t : Tally) (op : EmitterOp) : (t.after op).depth = op.depthFrom t.depth := by
  cases op with
  | pad =>
    simp only [Tally.after, depthFrom]
    split_ifs <;> rfl
  | _ => rfl

/-- An operation inside the Application collection ends collections inside it only. -/
def Nests (depth : ℕ) (op : EmitterOp) : Prop := op = .close → 1 < depth

theorem depthFrom_pos {depth : ℕ} {op : EmitterOp} (h : op.Nests depth) (hdepth : 0 < depth) :
    0 < op.depthFrom depth := by
  cases op with
  | close => exact Nat.sub_pos_of_lt (h rfl)
  | openLogical _ _ => exact Nat.succ_pos depth
  | openPhysical _ _ => exact Nat.succ_pos depth
  | _ => exact hdepth

end EmitterOp

/-- A sequence of operations nests from one depth to another. -/
def BodyNests : ℕ → List EmitterOp → ℕ → Prop
  | depth, [], last => depth = last
  | depth, op :: ops, last => op.Nests depth ∧ BodyNests (op.depthFrom depth) ops last

/-- Two sequences nest one behind the other. -/
theorem BodyNests.append : {first second : List EmitterOp} → {depth middle last : ℕ} →
    BodyNests depth first middle → BodyNests middle second last →
      BodyNests depth (first ++ second) last
  | [], _, _, _, _, h, h' => by
    have : _ = _ := h
    exact this ▸ h'
  | _ :: _, _, _, _, _, h, h' => ⟨h.1, BodyNests.append h.2 h'⟩

/-- A program with the arguments of an accepted declaration. -/
structure EmitterProgram.Valid (p : EmitterProgram) : Prop where
  usagePage : p.usagePage < 2 ^ 16
  usage : p.usage < 2 ^ 16
  reportId_lt : p.reportId < 256
  reportId_ne : p.enabled = true → p.reportId ≠ 0
  feature : ∀ f, p.feature = some f → f.Valid
  body : ∀ op ∈ p.body, op.Valid
  nests : BodyNests 1 p.body 1
  cost : (p.body.map EmitterOp.cost).sum ≤ 2 ^ 24

end LibaoaHid

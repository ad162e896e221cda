import LibaoaHid.Hid.ProgramReadings
import LibaoaHid.Hid.ProgramRuns
import LibaoaHid.Hid.ProgramSpans

/-!
# The raw parser on emitter programs

`validate_raw` of `src/hid/validator.cpp` on the bytes of a program. The parser counts as it reads
what the builder counted as it wrote: behind every operation its accumulator and its requirements
are those of the tally.

## Main definitions

* `RawParser.Step`: an item that the parser accepts.
* `RawParser.InputReady`: the checks of an Input item.
* `RawParser.Parses`: the parser behind some operations of a program.

## Main results

* `RawParser.walk_op`, `RawParser.walk_body`: one operation, and a sequence.
* `EmitterProgram.validateRaw_eq`: a whole program without a Feature.
-/

namespace LibaoaHid

open Hid

/-! ### Values -/

/-- A Maximum item, as the parser takes it. -/
theorem rawMaximum_eq (tag : Fin 16) {minimum maximum : ℤ} (hlower : -2 ^ 31 ≤ maximum)
    (hupper : maximum < 2 ^ 31) (hle : 0 ≤ minimum → 0 ≤ maximum) :
    (if minimum < 0 then signedValue (ItemWriter.maximumItem tag maximum minimum).data
      else toSigned32 (unsignedValue (ItemWriter.maximumItem tag maximum minimum).data)) =
        maximum := by
  have hvalue := maximum_maximumItem tag hlower hupper hle
  unfold ShortItem.maximum at hvalue
  rw [signedValue_eq, unsignedValue_data]
  split_ifs at hvalue ⊢ with hnegative
  · exact hvalue
  · have hnonneg := hle (not_lt.mp hnegative)
    rw [toSigned32_of_lt (by omega)]
    exact hvalue

/-- The order that the parser checks. -/
theorem rawLogicalRangeIsOrdered_of_le {minimum maximum : ℤ} (hle : minimum ≤ maximum)
    (hupper : maximum < 2 ^ 31) : rawLogicalRangeIsOrdered minimum maximum = true := by
  unfold rawLogicalRangeIsOrdered
  split_ifs with hnegative
  · exact decide_eq_true hle
  · have hmaximum := toUnsigned32_of_nonneg (show 0 ≤ maximum by omega) (by omega)
    have hminimum := toUnsigned32_of_nonneg (show 0 ≤ minimum by omega) (by omega)
    exact decide_eq_true (by omega)

/-- The fit that the parser checks. -/
theorem rawValueFits_of_valueFits {minimum maximum : ℤ} {width : ℕ} (hupper : maximum < 2 ^ 31)
    (h : valueFits minimum maximum width = true) : rawValueFits minimum maximum width = true := by
  obtain ⟨hpos, hle, hordered⟩ := of_valueFits h
  have horder := rawLogicalRangeIsOrdered_of_le hordered hupper
  have hwidth : ¬(width = 0 ∨ width > 32 ∨
      (!rawLogicalRangeIsOrdered minimum maximum) = true) := by
    simp only [horder, Bool.not_true, Bool.false_eq_true, or_false]
    omega
  unfold rawValueFits
  rw [if_neg hwidth]
  unfold valueFits at h
  rw [if_neg (by omega)] at h
  by_cases hnegative : minimum < 0
  · rw [if_pos hnegative]
    rw [if_pos (Or.inl hnegative)] at h
    exact h
  · have hmaximum := toUnsigned32_of_nonneg (show 0 ≤ maximum by omega) (by omega)
    rw [if_neg hnegative]
    rw [if_neg (by omega)] at h
    split_ifs at h ⊢ with hwide
    · rfl
    · have hpow : 0 < 2 ^ width := Nat.two_pow_pos width
      have hcast : ((2 ^ width - 1 : ℕ) : ℤ) = 2 ^ width - 1 := by
        push_cast [Nat.one_le_two_pow]
        rfl
      have hfits := of_decide_eq_true h
      exact decide_eq_true (by omega)

namespace RawParser

/-! ### Steps -/

/-- An item that the parser accepts. -/
structure Step (parser : RawParser) (item : ShortItem) (next : RawParser) : Prop where
  short : item.tag ≠ 15
  accepted : ∀ offset,
    parser.item item.type.code { tag := item.tag, data := item.data, offset } = .ok next

/-- The item loop over the bytes of a walk. -/
theorem items_of_walk {parser next : RawParser} {items : List ShortItem}
    (h : Walk Step parser items next) {turns offset : ℕ}
    (hturns : (encodeItems items).length ≤ turns) :
    RawParser.items turns parser offset (encodeItems items) = .ok next := by
  rw [items_eq, shortItemLoop_encodeItems (forall_of_walk Step.short h) parser hturns]
  exact foldlM_of_walk (fun head => head.accepted) h offset

variable {parser : RawParser}

theorem step_usagePage {value : ℕ} (h : value < 2 ^ 16) :
    parser.Step (.ofUnsigned .globalState 0 value)
      { parser with globals.usagePage := value, globals.usagePageDeclared := true } := by
  refine ⟨show 0 ≠ 15 by norm_num, fun offset => ?_⟩
  change (if unsignedValue _ > 0xFFFF then _ else Except.ok { parser with
    globals.usagePage := unsignedValue _, globals.usagePageDeclared := true }) = _
  rw [unsignedValue_data, ShortItem.unsigned_ofUnsigned _ _ (by omega), if_neg (by omega)]

theorem step_logicalMinimum {value : ℤ} (hlower : -2 ^ 31 ≤ value) (hupper : value < 2 ^ 31) :
    parser.Step (.ofSigned .globalState 1 value)
      { parser with
        globals.logicalMinimum := value
        globals.logicalMinimumDeclared := true } := by
  refine ⟨show 1 ≠ 15 by norm_num, fun offset => ?_⟩
  change Except.ok { parser with
    globals.logicalMinimum := signedValue _, globals.logicalMinimumDeclared := true } = _
  rw [signedValue_eq, ShortItem.signed_ofSigned _ _ hlower hupper]

theorem step_logicalMaximum {minimum maximum : ℤ} (hlower : -2 ^ 31 ≤ maximum)
    (hupper : maximum < 2 ^ 31) (hle : 0 ≤ minimum → 0 ≤ maximum)
    (hminimum : parser.globals.logicalMinimum = minimum) :
    parser.Step (ItemWriter.maximumItem 2 maximum minimum)
      { parser with
        globals.logicalMaximum := maximum
        globals.logicalMaximumDeclared := true } := by
  have hvalue := rawMaximum_eq 2 hlower hupper hle
  refine ⟨by rw [tag_maximumItem]; exact show 2 ≠ 15 by norm_num, fun offset => ?_⟩
  rw [type_maximumItem, tag_maximumItem]
  change Except.ok { parser with
    globals.logicalMaximum :=
      if parser.globals.logicalMinimum < 0 then signedValue _ else toSigned32 (unsignedValue _)
    globals.logicalMaximumDeclared := true } = _
  rw [hminimum, hvalue]

theorem step_reportSize {value : ℕ} (h : value < 2 ^ 32) :
    parser.Step (.ofUnsigned .globalState 7 value)
      { parser with
        globals.reportSize := value
        requirements.maximumReportSizeBits :=
          max parser.requirements.maximumReportSizeBits value } := by
  refine ⟨show 7 ≠ 15 by norm_num, fun offset => ?_⟩
  change Except.ok { parser with
    globals.reportSize := unsignedValue _
    requirements.maximumReportSizeBits := max _ (unsignedValue _) } = _
  rw [unsignedValue_data, ShortItem.unsigned_ofUnsigned _ _ h]

theorem step_reportCount {value : ℕ} (h : value < 2 ^ 32) :
    parser.Step (.ofUnsigned .globalState 9 value)
      { parser with
        globals.reportCount := value
        requirements.maximumUsages := max parser.requirements.maximumUsages value } := by
  refine ⟨show 9 ≠ 15 by norm_num, fun offset => ?_⟩
  change Except.ok { parser with
    globals.reportCount := unsignedValue _
    requirements.maximumUsages := max _ (unsignedValue _) } = _
  rw [unsignedValue_data, ShortItem.unsigned_ofUnsigned _ _ h]

theorem step_reportId {value : ℕ} (hne : value ≠ 0) (hlt : value < 256)
    (hmain : parser.sawMainBeforeReportId = false) :
    parser.Step (.ofUnsigned .globalState 8 value)
      { parser with globals.reportId := value, hasReportIds := true } := by
  refine ⟨show 8 ≠ 15 by norm_num, fun offset => ?_⟩
  change (if unsignedValue _ = 0 ∨ unsignedValue _ > 255 ∨ parser.sawMainBeforeReportId = true
    then _ else Except.ok { parser with
      globals.reportId := unsignedValue _, hasReportIds := true }) = _
  rw [unsignedValue_data, ShortItem.unsigned_ofUnsigned _ _ (by omega), hmain,
    if_neg (by simp; omega)]

/-- The Local items outside the second branch of a delimiter. -/
theorem localItem_eq (h : parser.locals.delimiterBranch ≤ 1) (data : List UInt8) (offset : ℕ) :
    parser.localItem ⟨0, data, offset⟩ = parser.addUsageCount 1 offset ∧
      parser.localItem ⟨1, data, offset⟩ =
          .ok { parser with
            locals.usageMinimum := unsignedValue data
            locals.usageMinimumSize := data.length
            locals.usageMinimumDeclared := true } ∧
        parser.localItem ⟨2, data, offset⟩ =
          parser.usageMaximumItem (unsignedValue data) data.length offset := by
  unfold localItem
  simp [h]

/-- The first Usage behind a Main item. -/
theorem step_usage (hlocals : parser.locals = {}) (value : ℕ) :
    parser.Step (.ofUnsigned .localState 0 value)
      { parser with
        locals.usageCount := 1
        requirements.maximumUsages := max parser.requirements.maximumUsages 1 } := by
  refine ⟨show 0 ≠ 15 by norm_num, fun offset => ?_⟩
  refine (localItem_eq (by rw [hlocals]; norm_num) _ offset).1.trans ?_
  unfold addUsageCount
  rw [if_neg (by rw [hlocals]; norm_num), hlocals]
  rfl

/-- The Usages of a range behind a Main item. -/
theorem walk_usageRange (hlocals : parser.locals = {}) {minimum maximum : ℕ}
    (hle : minimum ≤ maximum) (hlt : maximum < 2 ^ 16) :
    Walk Step parser
      [.ofUnsigned .localState 1 minimum, .ofUnsigned .localState 2 maximum]
      { parser with
        locals :=
          { usageCount := maximum - minimum + 1
            usageMinimum := minimum
            usageMinimumSize := (ShortItem.ofUnsigned .localState 1 minimum).data.length
            usageMinimumDeclared := true }
        requirements.maximumUsages :=
          max parser.requirements.maximumUsages (maximum - minimum + 1) } := by
  have hsize : ¬(ShortItem.ofUnsigned .localState 1 minimum).data.length = 4 := by
    change ¬(toLittleEndian minimum (ShortItem.unsignedSize minimum)).length = 4
    rw [length_toLittleEndian, ShortItem.unsignedSize]
    split_ifs <;> omega
  refine .cons (t := { parser with
      locals.usageMinimum := minimum
      locals.usageMinimumSize := (ShortItem.ofUnsigned .localState 1 minimum).data.length
      locals.usageMinimumDeclared := true })
    ⟨show 1 ≠ 15 by norm_num, fun offset => ?_⟩ <|
    .single ⟨show 2 ≠ 15 by norm_num, fun offset => ?_⟩
  · refine (localItem_eq (by rw [hlocals]; norm_num) _ offset).2.1.trans ?_
    rw [unsignedValue_data, ShortItem.unsigned_ofUnsigned _ _ (by omega)]
  · refine (localItem_eq (by rw [hlocals]; norm_num) _ offset).2.2.trans ?_
    rw [unsignedValue_data, ShortItem.unsigned_ofUnsigned _ _ (by omega)]
    unfold usageMaximumItem
    dsimp only
    rw [if_neg (fun h => hsize h.2.1), if_neg (by omega), if_neg (not_lt.mpr hle)]
    unfold addUsageCount
    dsimp only
    rw [hlocals, if_neg (by dsimp only; omega)]
    simp only [observeUsages, Nat.zero_add]

/-- The four items of a physical block. -/
theorem walk_physicalBlock {minimum maximum unitExponent : ℤ} {unit : ℕ}
    (hlower : -2 ^ 31 ≤ minimum) (hupper : maximum < 2 ^ 31) (hle : minimum ≤ maximum)
    (hunit : unit < 2 ^ 32) (hvalid : unitIsValid unit = true) :
    Walk Step parser (physicalBlock minimum maximum unitExponent unit)
      { parser with
        globals.physicalMinimum := minimum
        globals.physicalMinimumDeclared := true
        globals.physicalMaximum := maximum
        globals.physicalMaximumDeclared := true
        globals.unitExponentDeclared := true
        globals.unit := unit } := by
  have hvalue := rawMaximum_eq 4 (show -2 ^ 31 ≤ maximum by omega) hupper
    (show 0 ≤ minimum → 0 ≤ maximum by omega)
  have hand (n : ℕ) : n &&& 0x0F = n % 16 := Nat.and_two_pow_sub_one_eq_mod n 4
  have hnibble : unsignedValue (ItemWriter.exponentItem unitExponent).data ≤ 0x0F := by
    rw [unsignedValue_data, ItemWriter.exponentItem,
      ShortItem.unsigned_ofUnsigned _ _ (by rw [hand]; omega), hand]
    omega
  refine .cons (t := { parser with
      globals.physicalMinimum := minimum
      globals.physicalMinimumDeclared := true })
    ⟨show 3 ≠ 15 by norm_num, fun offset => ?_⟩ <|
    .cons (t := { parser with
      globals.physicalMinimum := minimum
      globals.physicalMinimumDeclared := true
      globals.physicalMaximum := maximum
      globals.physicalMaximumDeclared := true })
    ⟨by rw [tag_maximumItem]; exact show 4 ≠ 15 by norm_num, fun offset => ?_⟩ <|
    .cons (t := { parser with
      globals.physicalMinimum := minimum
      globals.physicalMinimumDeclared := true
      globals.physicalMaximum := maximum
      globals.physicalMaximumDeclared := true
      globals.unitExponentDeclared := true })
    ⟨show 5 ≠ 15 by norm_num, fun offset => ?_⟩ <|
    .single ⟨show 6 ≠ 15 by norm_num, fun offset => ?_⟩
  · change Except.ok { parser with
      globals.physicalMinimum := signedValue _, globals.physicalMinimumDeclared := true } = _
    rw [signedValue_eq, ShortItem.signed_ofSigned _ _ hlower (by omega)]
  · rw [type_maximumItem, tag_maximumItem]
    change Except.ok { parser with
      globals.physicalMinimum := minimum
      globals.physicalMinimumDeclared := true
      globals.physicalMaximum :=
        if minimum < 0 then signedValue _ else toSigned32 (unsignedValue _)
      globals.physicalMaximumDeclared := true } = _
    rw [hvalue]
  · change (if unsignedValue (ItemWriter.exponentItem unitExponent).data > 0x0F then _ else
      Except.ok _) = _
    rw [if_neg (by omega)]
  · change (if !unitIsValid (unsignedValue _) then _ else Except.ok { parser with
      globals.physicalMinimum := minimum
      globals.physicalMinimumDeclared := true
      globals.physicalMaximum := maximum
      globals.physicalMaximumDeclared := true
      globals.unitExponentDeclared := true
      globals.unit := unsignedValue _ }) = _
    rw [unsignedValue_data, ShortItem.unsigned_ofUnsigned _ _ hunit, hvalid]
    rfl

/-! ### Input items -/

/-- What the parser checks at an Input item, before its size and its count. -/
structure InputReady (parser : RawParser) (size count flags : ℕ) : Prop where
  depth : parser.collectionDepth ≠ 0
  identified : parser.hasReportIds = true → parser.globals.reportId ≠ 0
  sized : 0 < size ∧ size ≤ 32
  counted : 0 < count ∧ count ≤ 2 ^ 16
  flagged : flags < 2 ^ 32 ∧ flags &&& (0x17F ^^^ (2 ^ 32 - 1)) = 0 ∧ flags &&& 0x100 = 0
  unit : parser.globals.unit ≠ 0 →
    parser.globals.logicalMinimumDeclared = true ∧ parser.globals.logicalMaximumDeclared = true ∧
      parser.globals.physicalMinimumDeclared = true ∧
        parser.globals.physicalMaximumDeclared = true ∧ parser.globals.unitExponentDeclared = true
  ordered : rawLogicalRangeIsOrdered parser.globals.logicalMinimum
    parser.globals.logicalMaximum = true
  delimiters : parser.locals.delimiterBranch = 0 ∧ parser.locals.delimiterDepth = 0
  declared : flags &&& 0x001 = 0 →
    parser.globals.usagePageDeclared = true ∧ parser.globals.logicalMinimumDeclared = true ∧
      parser.globals.logicalMaximumDeclared = true ∧ parser.locals.usageCount ≠ 0
  fits : flags &&& 0x001 = 0 →
    rawValueFits parser.globals.logicalMinimum parser.globals.logicalMaximum size = true
  topLevel : (parser.parsed parser.globals.reportId).seen = true →
    (parser.parsed parser.globals.reportId).topLevel = parser.currentTopLevel
  fields : (parser.parsed parser.globals.reportId).fields ≤ 2 ^ 24
  bits : (parser.parsed parser.globals.reportId).bits ≤ 2 ^ 24
  span : fieldSpanIsValid (parser.parsed parser.globals.reportId).bits size count = true

/-- The accumulator of a report behind an Input item. -/
def ParsedReport.after (report : ParsedReport) (usageCount added topLevel : ℕ) : ParsedReport where
  seen := true
  bits := report.bits + added
  fields := if usageCount = 0 then report.fields else report.fields + 1
  topLevel := topLevel

/-- The parser behind an Input item with its size and its count. -/
def behindInput (parser : RawParser) (size count : ℕ) : RawParser :=
  let report := (parser.parsed parser.globals.reportId).after parser.locals.usageCount
    (size * count) parser.currentTopLevel
  { parser with
    globals.reportSize := size
    globals.reportCount := count
    locals := {}
    sawMainBeforeReportId := parser.sawMainBeforeReportId || !parser.hasReportIds
    parsed := Function.update parser.parsed parser.globals.reportId report
    requirements :=
      { maximumFieldsPerReport :=
          if parser.locals.usageCount = 0 then parser.requirements.maximumFieldsPerReport
          else max parser.requirements.maximumFieldsPerReport report.fields
        maximumGlobalStackDepth := parser.requirements.maximumGlobalStackDepth
        maximumReportSizeBits := max parser.requirements.maximumReportSizeBits size
        maximumUsages :=
          max (max parser.requirements.maximumUsages count) parser.locals.usageCount
        maximumReportDataBits := max parser.requirements.maximumReportDataBits report.bits } }

/-- The checks in front of the counters. -/
theorem InputReady.checkInput {size count flags : ℕ} (h : parser.InputReady size count flags)
    {next : RawParser}
    (hglobals : next.globals = { parser.globals with reportSize := size, reportCount := count })
    (hlocals : next.locals = parser.locals) (hparsed : next.parsed = parser.parsed)
    (hdepth : next.collectionDepth = parser.collectionDepth)
    (hids : next.hasReportIds = parser.hasReportIds)
    (htop : next.currentTopLevel = parser.currentTopLevel) (offset : ℕ) :
    next.checkInput flags offset = .ok () := by
  obtain ⟨hpos, hle⟩ := h.sized
  have hmod : size % 2 ^ 8 = size := Nat.mod_eq_of_lt (by omega)
  unfold RawParser.checkInput
  rw [hglobals, hlocals, hparsed, hdepth, hids, htop]
  dsimp only
  rw [hmod]
  have hcount := h.counted.1
  have hdepth := h.depth
  rw [if_neg (by omega), if_neg (fun hid => h.identified hid.1 hid.2), if_neg (by omega),
    if_neg (not_not.mpr h.flagged.2.1)]
  rw [if_neg, if_neg, if_neg, if_neg, if_neg, if_neg, if_neg]
  · exact fun hseen => hseen.2 (h.topLevel hseen.1)
  · exact fun hbuffered => hbuffered.1 h.flagged.2.2
  · rintro ⟨hdata, hrange⟩
    rw [h.fits (not_not.mp hdata)] at hrange
    cases hrange
  · rintro ⟨hdata, hmissing⟩
    obtain ⟨hpage, hminimum, hmaximum, husage⟩ := h.declared (not_not.mp hdata)
    rw [hpage, hminimum, hmaximum] at hmissing
    simp [husage] at hmissing
  · exact fun hbranch => hbranch.2 h.delimiters.1
  · rw [h.ordered]
    simp
  · rintro ⟨hunit, hmissing⟩
    obtain ⟨hminimum, hmaximum, hphysicalMin, hphysicalMax, hexponent⟩ := h.unit hunit
    rw [hminimum, hmaximum, hphysicalMin, hphysicalMax, hexponent] at hmissing
    simp at hmissing

/-- The parser behind the counters of an Input item. -/
def counted (parser : RawParser) : RawParser :=
  let report := (parser.parsed parser.globals.reportId).after parser.locals.usageCount
    (parser.globals.reportSize * parser.globals.reportCount) parser.currentTopLevel
  { parser with
    parsed := Function.update parser.parsed parser.globals.reportId report
    requirements :=
      { parser.requirements with
        maximumFieldsPerReport :=
          if parser.locals.usageCount = 0 then parser.requirements.maximumFieldsPerReport
          else max parser.requirements.maximumFieldsPerReport report.fields
        maximumReportDataBits := max parser.requirements.maximumReportDataBits report.bits } }

theorem inputItem_eq {item : RawItem}
    (hcheck : parser.checkInput (unsignedValue item.data) item.offset = .ok ())
    (hsize : 0 < parser.globals.reportSize ∧ parser.globals.reportSize ≤ 32)
    (hcount : parser.globals.reportCount ≤ 2 ^ 16)
    (hfields : (parser.parsed parser.globals.reportId).fields ≤ 2 ^ 24)
    (hbits : (parser.parsed parser.globals.reportId).bits ≤ 2 ^ 24)
    (hspan : fieldSpanIsValid (parser.parsed parser.globals.reportId).bits
      parser.globals.reportSize parser.globals.reportCount = true) :
    parser.inputItem item = .ok parser.counted := by
  have hproduct : parser.globals.reportSize * parser.globals.reportCount ≤ 32 * 2 ^ 16 :=
    Nat.mul_le_mul hsize.2 hcount
  have hdivision : ¬parser.globals.reportCount > sizeMax / parser.globals.reportSize := by
    rw [not_lt, Nat.le_div_iff_mul_le hsize.1, Nat.mul_comm]
    unfold sizeMax
    omega
  have hroom : ¬(parser.parsed parser.globals.reportId).bits >
      sizeMax - parser.globals.reportSize * parser.globals.reportCount := by
    unfold sizeMax
    omega
  unfold inputItem
  rw [hcheck]
  unfold countField countBits counted ParsedReport.after
  by_cases husage : parser.locals.usageCount = 0
  · simp only [bind, Except.bind, Function.update_self, husage, ne_eq, not_true_eq_false, if_false,
      hspan, Bool.not_true, Bool.false_eq_true, hdivision, hroom, if_true, Function.update_idem]
  · have hcounter : ¬(parser.parsed parser.globals.reportId).fields = 2 ^ 32 - 1 := by omega
    simp only [bind, Except.bind, Function.update_self, husage, ne_eq, not_false_eq_true, if_true,
      hcounter, hspan, Bool.not_true, Bool.false_eq_true, hdivision, hroom, if_false,
      Function.update_idem]

/-- The Input item of a report's fields, with their size and their count. -/
theorem walk_input {size count flags : ℕ} (h : parser.InputReady size count flags) :
    Walk Step parser
      [.ofUnsigned .globalState 7 size, .ofUnsigned .globalState 9 count,
        .ofUnsigned .main 8 flags]
      (parser.behindInput size count) := by
  obtain ⟨hcount, hcountLe⟩ := h.counted
  have hle := h.sized.2
  refine .cons (step_reportSize (by omega)) <| .cons (step_reportCount (by omega)) <|
    .single ⟨show 8 ≠ 15 by norm_num, fun offset => ?_⟩
  have hinput (item : RawItem) (next : RawParser) (hdata : unsignedValue item.data = flags)
      (hglobals : next.globals =
        { parser.globals with reportSize := size, reportCount := count })
      (hlocals : next.locals = parser.locals) (hparsed : next.parsed = parser.parsed)
      (hdepth : next.collectionDepth = parser.collectionDepth)
      (hids : next.hasReportIds = parser.hasReportIds)
      (htop : next.currentTopLevel = parser.currentTopLevel) :
      next.inputItem item = .ok next.counted := by
    have hcheck := h.checkInput hglobals hlocals hparsed hdepth hids htop item.offset
    rw [← hdata] at hcheck
    refine inputItem_eq hcheck ?_ ?_ ?_ ?_ ?_
    · rw [hglobals]
      exact h.sized
    · rw [hglobals]
      exact hcountLe
    · rw [hglobals, hparsed]
      exact h.fields
    · rw [hglobals, hparsed]
      exact h.bits
    · rw [hglobals, hparsed]
      exact h.span
  have hflags : unsignedValue (ShortItem.ofUnsigned .main 8 flags).data = flags := by
    rw [unsignedValue_data, ShortItem.unsigned_ofUnsigned _ _ h.flagged.1]
  change mainItem _ ⟨8, _, offset⟩ = _
  unfold mainItem taggedMainItem dataItem
  dsimp only [observeUsages]
  rw [if_neg (not_not.mpr h.delimiters.2), if_neg (by norm_num), if_neg (by norm_num),
    if_pos (by norm_num), if_neg (by norm_num)]
  refine (congrArg (Except.map _) (hinput _ _ hflags ?_ ?_ ?_ ?_ ?_ ?_)).trans ?_
  all_goals rfl

/-! ### Operations -/

/-- The start of a collection. -/
theorem walk_collection {usagePage usage type : ℕ} (husagePage : usagePage < 2 ^ 16)
    (htype : type ≤ 6) (hlocals : parser.locals = {})
    (htop : parser.collectionDepth = 0 → type = 1) :
    Walk Step parser (collectionItems usagePage usage type)
      { parser with
        globals.usagePage := usagePage
        globals.usagePageDeclared := true
        locals := {}
        requirements.maximumUsages := max parser.requirements.maximumUsages 1
        currentTopLevel :=
          if parser.collectionDepth = 0 then parser.topLevelCount else parser.currentTopLevel
        topLevelCount :=
          if parser.collectionDepth = 0 then parser.topLevelCount + 1 else parser.topLevelCount
        collectionDepth := parser.collectionDepth + 1 } := by
  refine .cons (step_usagePage husagePage) <| .cons (step_usage (by exact hlocals) usage) <|
    .single ⟨show 10 ≠ 15 by norm_num, fun offset => ?_⟩
  change mainItem _ ⟨10, _, offset⟩ = _
  unfold mainItem taggedMainItem collectionItem
  dsimp only [observeUsages]
  rw [hlocals, unsignedValue_data, ShortItem.unsigned_ofUnsigned _ _ (by omega)]
  rw [if_neg (by norm_num), if_pos (by norm_num), if_neg (by omega), if_neg (by norm_num),
    if_neg (by norm_num)]
  split_ifs with hzero htypeNe
  · exact absurd (htop hzero) htypeNe
  · simp only [Except.map, max_assoc, max_self]
  · simp only [Except.map, max_assoc, max_self]

/-- The end of a collection. -/
theorem walk_endCollection (hdepth : parser.collectionDepth ≠ 0) (hlocals : parser.locals = {}) :
    Walk Step parser [.empty .main 12]
      { parser with
        locals := {}
        collectionDepth := parser.collectionDepth - 1
        currentTopLevel :=
          if parser.collectionDepth - 1 = 0 then sizeMax else parser.currentTopLevel } := by
  refine .single ⟨show 12 ≠ 15 by norm_num, fun offset => ?_⟩
  change mainItem _ ⟨12, _, offset⟩ = _
  unfold mainItem taggedMainItem endCollectionItem
  dsimp only [observeUsages]
  rw [hlocals]
  rw [if_neg (by norm_num), if_neg (by norm_num), if_pos (by norm_num), if_neg hdepth]
  simp only [Except.map, Nat.max_zero]

/-- The items in front of a field's Input item. -/
theorem walk_opening {d : VariableField} (hd : d.Valid) (hlocals : parser.locals = {})
    (hunit : parser.globals.unit = 0) :
    ∃ globals : Globals,
      Walk Step parser d.opening
        { parser with
          globals
          locals.usageCount := 1
          requirements.maximumUsages := max parser.requirements.maximumUsages 1 } ∧
      globals.reportId = parser.globals.reportId ∧ globals.usagePageDeclared = true ∧
      globals.logicalMinimum = d.logicalMinimum ∧ globals.logicalMinimumDeclared = true ∧
      globals.logicalMaximum = d.logicalMaximum ∧ globals.logicalMaximumDeclared = true ∧
      (globals.unit ≠ 0 → globals.physicalMinimumDeclared = true ∧
        globals.physicalMaximumDeclared = true ∧ globals.unitExponentDeclared = true) ∧
      (d.hasPhysical = false → globals.unit = 0) := by
  obtain ⟨hpos, hle, hordered⟩ := of_valueFits hd.fits
  have hminimum := hd.minimum
  have hmaximum := hd.maximum
  have hsign : 0 ≤ d.logicalMinimum → 0 ≤ d.logicalMaximum := fun hle => hle.trans hordered
  have hdescribed := Walk.cons (step_usagePage hd.usagePage) <|
    .cons (step_usage (by exact hlocals) d.usage) <|
    .cons (step_logicalMinimum hminimum (by omega)) <|
    .single (step_logicalMaximum (by omega) hmaximum hsign rfl)
  unfold VariableField.opening
  cases hphysical : d.hasPhysical with
  | false =>
    rw [if_neg (by simp), List.append_nil]
    exact ⟨_, hdescribed, rfl, rfl, rfl, rfl, rfl, rfl, fun h => absurd hunit h, fun _ => hunit⟩
  | true =>
    have henabled := (Bool.and_eq_true_iff.mp hphysical).2
    obtain ⟨hblock, -⟩ := PhysicalProperties.ordered_of_validEnabled henabled
    have hvalid : unitIsValid d.block.unit.toNat = true :=
      (Bool.and_eq_true_iff.mp henabled).2
    rw [if_pos rfl]
    exact ⟨_, hdescribed.append (walk_physicalBlock d.block.minimum.le_toInt
      d.block.maximum.toInt_lt hblock d.block.unit.toNat_lt hvalid), rfl, rfl, rfl, rfl, rfl, rfl,
      fun _ => ⟨rfl, rfl, rfl⟩, nofun⟩

/-- The items behind a field's Input item. -/
theorem walk_closing {d : VariableField} (h : d.hasPhysical = false → parser.globals.unit = 0) :
    ∃ globals : Globals, Walk Step parser d.closing { parser with globals } ∧
      globals.reportId = parser.globals.reportId ∧
      globals.logicalMinimum = parser.globals.logicalMinimum ∧
      globals.logicalMaximum = parser.globals.logicalMaximum ∧ globals.unit = 0 := by
  unfold VariableField.closing
  cases hphysical : d.hasPhysical with
  | false => exact ⟨parser.globals, .nil parser, rfl, rfl, rfl, h hphysical⟩
  | true =>
    rw [if_pos rfl]
    exact ⟨_, walk_physicalBlock (by norm_num) (by norm_num) le_rfl (by norm_num) rfl, rfl, rfl,
      rfl, rfl⟩

/-! ### Programs -/

/-- The parser behind some operations of a program: it has counted what the builder has. -/
structure Parses (p : EmitterProgram) (t : Tally) (parser : RawParser) : Prop where
  depth : parser.collectionDepth = t.depth
  stack : parser.globalStack = []
  locals : parser.locals = {}
  topLevelCount : parser.topLevelCount = 1
  currentTopLevel : parser.currentTopLevel = 0
  hasReportIds : parser.hasReportIds = p.enabled
  reportId : parser.globals.reportId = p.layout.reportId
  unit : parser.globals.unit = 0
  ordered : rawLogicalRangeIsOrdered parser.globals.logicalMinimum
    parser.globals.logicalMaximum = true
  requirements : parser.requirements = t.requirements
  bits : (parser.parsed p.layout.reportId).bits = t.bits
  fields : (parser.parsed p.layout.reportId).fields = t.fields
  seen : (parser.parsed p.layout.reportId).seen = decide (0 < t.bits)
  topLevel : 0 < t.bits → (parser.parsed p.layout.reportId).topLevel = 0
  others : ∀ id ≠ p.layout.reportId, (parser.parsed id).seen = false
  counted : t.fields ≤ t.bits

variable {p : EmitterProgram} {t : Tally}

/-- The program's Report ID is not zero where it has one. -/
theorem Parses.identified (h : Parses p t parser) (hp : p.Valid) :
    parser.hasReportIds = true → parser.globals.reportId ≠ 0 := by
  intro henabled
  rw [h.hasReportIds] at henabled
  rw [h.reportId]
  change (if p.enabled then p.reportId else 0) ≠ 0
  rw [if_pos henabled]
  exact hp.reportId_ne henabled

/-- The parser behind one more Input item, whose table and Usages are at hand. -/
theorem Parses.input (h : Parses p t parser) {size count usages : ℕ} (hbits : 0 < size * count)
    (table : Globals) {globals : Globals} {locals : Locals} (husages : locals.usageCount = usages)
    (hid : table.reportId = parser.globals.reportId)
    (hglobals : globals.reportId = parser.globals.reportId ∧ globals.unit = 0 ∧
      rawLogicalRangeIsOrdered globals.logicalMinimum globals.logicalMaximum = true) :
    Parses p (t.recorded usages count size)
      { behindInput { parser with
          globals := table
          locals
          requirements.maximumUsages := max parser.requirements.maximumUsages usages } size count
        with globals } := by
  subst husages
  have hreport := h.reportId
  have hparsed : ∀ report, (Function.update parser.parsed table.reportId report)
      p.layout.reportId = report := by
    intro report
    rw [hid, hreport, Function.update_self]
  constructor
  · exact h.depth
  · exact h.stack
  · rfl
  · exact h.topLevelCount
  · exact h.currentTopLevel
  · exact h.hasReportIds
  · exact hglobals.1.trans hreport
  · exact hglobals.2.1
  · exact hglobals.2.2
  · unfold behindInput ParsedReport.after Tally.recorded
    dsimp only
    rw [hid, hreport, h.requirements, h.bits, h.fields]
    split_ifs <;> simp [max_comm, max_left_comm]
  · unfold behindInput
    dsimp only
    rw [hparsed, hid, hreport]
    exact congrArg (· + size * count) h.bits
  · unfold behindInput
    dsimp only
    rw [hparsed, hid, hreport]
    unfold ParsedReport.after Tally.recorded
    dsimp only
    rw [h.fields]
  · unfold behindInput
    dsimp only
    rw [hparsed]
    exact (decide_eq_true (Nat.add_pos_right _ hbits)).symm
  · intro _
    unfold behindInput
    dsimp only
    rw [hparsed]
    exact h.currentTopLevel
  · intro id hne
    unfold behindInput
    dsimp only
    rw [hid, hreport, Function.update_of_ne hne]
    exact h.others id hne
  · unfold Tally.recorded
    dsimp only
    have := h.counted
    split_ifs <;> omega

/-- The checks of the next Input item. -/
theorem Parses.ready (h : Parses p t parser) (hp : p.Valid) (hdepth : 0 < t.depth)
    (hsmall : t.bits ≤ 2 ^ 24) {size count flags : ℕ} {table : Globals} {locals : Locals}
    {requirements : DescriptorRequirements} (hid : table.reportId = parser.globals.reportId)
    (sized : 0 < size ∧ size ≤ 32) (counted : 0 < count ∧ count ≤ 2 ^ 16)
    (flagged : flags < 2 ^ 32 ∧ flags &&& (0x17F ^^^ (2 ^ 32 - 1)) = 0 ∧ flags &&& 0x100 = 0)
    (unit : table.unit ≠ 0 →
      table.logicalMinimumDeclared = true ∧ table.logicalMaximumDeclared = true ∧
        table.physicalMinimumDeclared = true ∧ table.physicalMaximumDeclared = true ∧
          table.unitExponentDeclared = true)
    (ordered : rawLogicalRangeIsOrdered table.logicalMinimum table.logicalMaximum = true)
    (delimiters : locals.delimiterBranch = 0 ∧ locals.delimiterDepth = 0)
    (declared : flags &&& 0x001 = 0 →
      table.usagePageDeclared = true ∧ table.logicalMinimumDeclared = true ∧
        table.logicalMaximumDeclared = true ∧ locals.usageCount ≠ 0)
    (fits : flags &&& 0x001 = 0 →
      rawValueFits table.logicalMinimum table.logicalMaximum size = true)
    (span : fieldSpanIsValid t.bits size count = true) :
    InputReady { parser with globals := table, locals, requirements } size count flags := by
  have hreport : table.reportId = p.layout.reportId := hid.trans h.reportId
  refine ⟨?_, ?_, sized, counted, flagged, unit, ordered, delimiters, declared, fits, ?_, ?_, ?_,
    ?_⟩
  · change parser.collectionDepth ≠ 0
    rw [h.depth]
    omega
  · intro henabled
    change table.reportId ≠ 0
    rw [hid]
    exact h.identified hp henabled
  · dsimp only
    rw [hreport, h.seen, h.currentTopLevel]
    exact fun hseen => h.topLevel (of_decide_eq_true hseen)
  · dsimp only
    rw [hreport, h.fields]
    exact h.counted.trans hsmall
  · dsimp only
    rw [hreport, h.bits]
    exact hsmall
  · dsimp only
    rw [hreport, h.bits]
    exact span

/-- The flags of a Variable Input item. -/
theorem variableFlags_flagged (relative noPreferred nullState : Bool) :
    DescriptorBuilder.variableFlags relative noPreferred nullState < 2 ^ 32 ∧
      DescriptorBuilder.variableFlags relative noPreferred nullState &&&
          (0x17F ^^^ (2 ^ 32 - 1)) = 0 ∧
        DescriptorBuilder.variableFlags relative noPreferred nullState &&& 0x100 = 0 := by
  cases relative <;> cases noPreferred <;> cases nullState <;> decide +kernel

/-- A field. -/
theorem walk_field (h : Parses p t parser) (hp : p.Valid) (hdepth : 0 < t.depth)
    {d : VariableField} (hd : d.Valid) (hspan : t.bits % 8 + d.bitWidth ≤ 32)
    (hsmall : t.bits ≤ 2 ^ 24) :
    ∃ next, Walk Step parser d.items next ∧ Parses p (t.recorded 1 1 d.bitWidth) next := by
  obtain ⟨hpos, hle, hordered⟩ := of_valueFits hd.fits
  obtain ⟨table, hopening, hid, hpage, hminimum, hminimumDeclared, hmaximum, hmaximumDeclared,
    hunit, hnoUnit⟩ := walk_opening hd h.locals h.unit
  have hrange : rawLogicalRangeIsOrdered table.logicalMinimum table.logicalMaximum = true := by
    rw [hminimum, hmaximum]
    exact rawLogicalRangeIsOrdered_of_le hordered hd.maximum
  have hfits : rawValueFits table.logicalMinimum table.logicalMaximum d.bitWidth = true := by
    rw [hminimum, hmaximum]
    exact rawValueFits_of_valueFits hd.maximum hd.fits
  have hvalid : fieldSpanIsValid t.bits d.bitWidth 1 = true := by
    rw [fieldSpanIsValid_one]
    exact decide_eq_true hspan
  have hready : InputReady { parser with
      globals := table
      locals.usageCount := 1
      requirements.maximumUsages := max parser.requirements.maximumUsages 1 } d.bitWidth 1
      (DescriptorBuilder.variableFlags d.relative d.noPreferred d.nullState) :=
    h.ready hp hdepth hsmall hid ⟨hpos, hle⟩ ⟨Nat.one_pos, by norm_num⟩
      (variableFlags_flagged d.relative d.noPreferred d.nullState)
      (fun hne => ⟨hminimumDeclared, hmaximumDeclared, hunit hne⟩) hrange
      (by rw [h.locals]; exact ⟨rfl, rfl⟩)
      (fun _ => ⟨hpage, hminimumDeclared, hmaximumDeclared, one_ne_zero⟩) (fun _ => hfits) hvalid
  obtain ⟨globals, hclosing, hid', hminimum', hmaximum', hunit'⟩ :=
    walk_closing (show d.hasPhysical = false → (behindInput { parser with
      globals := table
      locals.usageCount := 1
      requirements.maximumUsages := max parser.requirements.maximumUsages 1 } d.bitWidth
        1).globals.unit = 0 from hnoUnit)
  refine ⟨_, (hopening.append (walk_input hready)).append hclosing,
    h.input (by omega) table rfl hid ⟨hid'.trans hid, hunit', ?_⟩⟩
  rw [hminimum', hmaximum']
  exact hrange

/-- A range of one-bit fields. -/
theorem walk_range (h : Parses p t parser) (hp : p.Valid) (hdepth : 0 < t.depth)
    {usagePage minimum maximum : ℕ} (hpage : usagePage < 2 ^ 16) (hle : minimum ≤ maximum)
    (hlt : maximum < 2 ^ 16) (hsmall : t.bits ≤ 2 ^ 24) :
    ∃ next, Walk Step parser
        [.ofUnsigned .globalState 0 usagePage, .ofUnsigned .localState 1 minimum,
          .ofUnsigned .localState 2 maximum, .ofSigned .globalState 1 0,
          ItemWriter.maximumItem 2 1 0, .ofUnsigned .globalState 7 1,
          .ofUnsigned .globalState 9 (maximum - minimum + 1), .ofUnsigned .main 8 0x02] next ∧
      Parses p (t.recorded (maximum - minimum + 1) (maximum - minimum + 1) 1) next := by
  have hzero : (-2 ^ 31 : ℤ) ≤ 0 ∧ (0 : ℤ) < 2 ^ 31 := by norm_num
  have hone : (-2 ^ 31 : ℤ) ≤ 1 ∧ (1 : ℤ) < 2 ^ 31 := by norm_num
  have hopening := Walk.cons (step_usagePage hpage) <|
    (walk_usageRange (by exact h.locals) hle hlt).append <|
    .cons (step_logicalMinimum hzero.1 hzero.2) <|
    .single (step_logicalMaximum hone.1 hone.2 (fun _ => zero_le_one) rfl)
  refine ⟨_, hopening.append (walk_input (h.ready hp hdepth hsmall ?_ ?_ ?_ ?_ ?_ ?_ ?_ ?_ ?_ ?_)),
    h.input (by omega) _ rfl rfl ⟨rfl, h.unit, rfl⟩⟩
  · rfl
  · exact ⟨Nat.one_pos, by norm_num⟩
  · omega
  · decide
  · exact fun hne => absurd h.unit hne
  · rfl
  · exact ⟨rfl, rfl⟩
  · exact fun _ => ⟨rfl, rfl, rfl, Nat.succ_ne_zero _⟩
  · exact fun _ => rfl
  · exact fieldSpanIsValid_bits _ _

/-- A padding field. -/
theorem walk_padding (h : Parses p t parser) (hp : p.Valid) (hdepth : 0 < t.depth) {size : ℕ}
    (hsize : 0 < size ∧ t.bits % 8 + size ≤ 32) (hsmall : t.bits ≤ 2 ^ 24) :
    ∃ next, Walk Step parser
        [.ofUnsigned .globalState 7 size, .ofUnsigned .globalState 9 1,
          .ofUnsigned .main 8 0x01] next ∧
      Parses p (t.recorded 0 1 size) next := by
  have hvalid : fieldSpanIsValid t.bits size 1 = true := by
    rw [fieldSpanIsValid_one]
    exact decide_eq_true hsize.2
  have hself : { parser with
      requirements.maximumUsages := max parser.requirements.maximumUsages 0 } = parser := by
    rw [Nat.max_zero]
  have hready : InputReady parser size 1 0x01 :=
    h.ready hp hdepth hsmall rfl (by omega) ⟨Nat.one_pos, by norm_num⟩ (by decide)
      (fun hne => absurd h.unit hne) h.ordered (by rw [h.locals]; exact ⟨rfl, rfl⟩)
      (fun hdata => absurd hdata (by decide)) (fun hdata => absurd hdata (by decide)) hvalid
  have hbits : 0 < size * 1 := by omega
  let table : Globals := { parser.globals with reportSize := size, reportCount := 1 }
  have htable : table.reportId = parser.globals.reportId ∧ table.unit = 0 ∧
      rawLogicalRangeIsOrdered table.logicalMinimum table.logicalMaximum = true :=
    ⟨rfl, h.unit, h.ordered⟩
  have hnext := h.input hbits parser.globals
    (show parser.locals.usageCount = 0 by rw [h.locals]) rfl htable
  rw [hself] at hnext
  exact ⟨_, walk_input hready, hnext⟩

/-- **One operation.** -/
theorem walk_op (h : Parses p t parser) (hp : p.Valid) (hdepth : 0 < t.depth) {op : EmitterOp}
    (hop : op.Valid) (hnests : op.Nests t.depth) (hspan : op.SpanFits t.bits)
    (hsmall : t.bits + op.cost ≤ 2 ^ 24) :
    ∃ next, Walk Step parser (op.items t.bits) next ∧ Parses p (t.after op) next := by
  have hopen : parser.collectionDepth ≠ 0 := by
    rw [h.depth]
    omega
  have hopened {usagePage usage type : ℕ} (husagePage : usagePage < 2 ^ 16) (htype : type ≤ 6) :
      ∃ next, Walk Step parser (collectionItems usagePage usage type) next ∧
        Parses p t.opened next := by
    refine ⟨_, walk_collection husagePage htype h.locals fun hzero => absurd hzero hopen,
      { h with
        depth := congrArg (· + 1) h.depth
        locals := rfl
        currentTopLevel := (if_neg hopen).trans h.currentTopLevel
        topLevelCount := (if_neg hopen).trans h.topLevelCount
        requirements := ?_ }⟩
    dsimp only
    rw [h.requirements]
    rfl
  cases op with
  | openLogical usagePage usage => exact hopened hop.1 (by norm_num)
  | openPhysical usagePage usage => exact hopened hop.1 (by norm_num)
  | close =>
    have hinside : ¬parser.collectionDepth - 1 = 0 := by
      have := hnests rfl
      rw [h.depth]
      omega
    exact ⟨_, walk_endCollection hopen h.locals,
      { h with
        depth := congrArg (· - 1) h.depth
        locals := rfl
        currentTopLevel := (if_neg hinside).trans h.currentTopLevel }⟩
  | field d => exact walk_field h hp hdepth hop hspan (by omega)
  | range usagePage usageMinimum usageMaximum semantic =>
    exact walk_range h hp hdepth hop.1 hop.2.1 hop.2.2.1 (by omega)
  | pad =>
    have hlt : padding t.bits < 8 := Nat.mod_lt _ (by norm_num)
    change ∃ next, Walk Step parser (if padding t.bits = 0 then [] else _) next ∧
      Parses p (if padding t.bits = 0 then t else _) next
    split_ifs with hzero
    · exact ⟨parser, .nil parser, h⟩
    · exact walk_padding h hp hdepth (by omega) (by omega)

/-- **A sequence of operations.** -/
theorem walk_body {ops : List EmitterOp} {last : ℕ} (h : Parses p t parser) (hp : p.Valid)
    (hdepth : 0 < t.depth) (hnests : BodyNests t.depth ops last) (hops : ∀ op ∈ ops, op.Valid)
    (hspan : BodySpansFit t.bits ops)
    (hsmall : t.bits + (ops.map EmitterOp.cost).sum ≤ 2 ^ 24) :
    ∃ next, Walk Step parser (bodyItems t.bits ops) next ∧ Parses p (t.afterBody ops) next := by
  induction ops generalizing t parser with
  | nil => exact ⟨parser, .nil parser, h⟩
  | cons op ops ih =>
    obtain ⟨hop, hops⟩ := List.forall_mem_cons.mp hops
    rw [List.map_cons, List.sum_cons] at hsmall
    have hbits := op.bits_le_cost t.bits
    obtain ⟨next, hwalk, hnext⟩ := walk_op h hp hdepth hop hnests.1 hspan.1 (by omega)
    have hrest := hspan.2
    have hinner := hnests.2
    rw [← op.after_depth] at hinner
    rw [← Tally.after_bits] at hrest
    obtain ⟨last, hwalk', hlast⟩ := ih hnext
      (by rw [op.after_depth]; exact op.depthFrom_pos hnests.1 hdepth) hinner hops hrest
      (by rw [Tally.after_bits]; omega)
    rw [Tally.after_bits] at hwalk'
    exact ⟨last, hwalk.append hwalk', hlast⟩

/-- The items in front of the Input items, where there is no Feature among them. -/
theorem walk_head (hp : p.Valid) (hfeature : p.feature = none) :
    ∃ next, Walk Step {} p.head next ∧ Parses p p.start next := by
  have hcollection : Walk Step {} (collectionItems p.usagePage p.usage 0x01) _ :=
    walk_collection hp.usagePage (show 0x01 ≤ 6 by norm_num) rfl fun _ => rfl
  unfold EmitterProgram.head EmitterProgram.start
  rw [hfeature, Option.map_none, Option.getD_none, List.append_nil]
  cases henabled : p.enabled with
  | false =>
    rw [if_neg (by simp), List.append_nil]
    have hnumber : p.layout.reportId = 0 := by
      unfold EmitterProgram.layout
      rw [henabled]
      rfl
    exact ⟨_, hcollection, ⟨rfl, rfl, rfl, rfl, rfl, henabled.symm, hnumber.symm, rfl, rfl, rfl,
      rfl,
      rfl, rfl, nofun, fun _ _ => rfl, le_rfl⟩⟩
  | true =>
    have hne := hp.reportId_ne henabled
    have hlt := hp.reportId_lt
    have hnumber : p.layout.reportId = p.reportId := by
      unfold EmitterProgram.layout
      rw [henabled]
      rfl
    rw [if_pos rfl]
    exact ⟨_, hcollection.append (.single (step_reportId hne hlt rfl)),
      ⟨rfl, rfl, rfl, rfl, rfl, henabled.symm, hnumber.symm, rfl, rfl, rfl, rfl, rfl, rfl, nofun,
        fun _ _ => rfl, le_rfl⟩⟩

end RawParser

/-! ### The report table -/

namespace EmitterProgram

/-- The entry of the program's report. -/
def entry (p : EmitterProgram) : RawReport where
  reportId := UInt8.ofNat p.layout.reportId
  hasReportId := if p.enabled then 1 else 0
  wireLength := UInt32.ofNat p.layout.wireBytes

variable {p : EmitterProgram}

/-- The entry of a small report has its numbers. -/
theorem entry_spec (hp : p.Valid) :
    p.entry.reportId.toNat = p.layout.reportId ∧ p.entry.wireLength.toNat = p.layout.wireBytes := by
  have hid : p.layout.reportId < 256 := by
    change (if p.enabled then p.reportId else 0) < 256
    have := hp.reportId_lt
    split_ifs <;> omega
  have hbits := bodyBits_small hp
  have hprefixed := p.prefixBits_cases
  have hwire : p.layout.wireBytes < 2 ^ 32 := by
    change (p.prefixBits + bodyBits 0 p.body + 7) / 8 < 2 ^ 32
    omega
  exact ⟨UInt8.toNat_ofNat_of_lt' hid, UInt32.toNat_ofNat_of_lt' hwire⟩

theorem validateReportTable_entry (hp : p.Valid) (hpos : 0 < p.layout.wireBytes) :
    validateReportTable [p.entry] = none := by
  obtain ⟨hid, hwire⟩ := entry_spec hp
  have hlength : p.entry.wireLength ≠ 0 := by
    intro hzero
    rw [hzero] at hwire
    exact hpos.ne hwire
  have hentry : reportEntryIssue [] p.entry = none := by
    unfold reportEntryIssue
    rw [if_neg, if_neg (by simp)]
    simp only [not_or]
    refine ⟨not_not.mpr rfl, ?_, ?_, ?_, hlength⟩
    · change ¬(if p.enabled then (1 : UInt8) else 0) > 1
      split_ifs <;> decide
    · rintro ⟨henabled, hzero⟩
      rw [hzero] at hid
      change (if p.enabled then (1 : UInt8) else 0) = 1 at henabled
      split_ifs at henabled with henabled'
      · refine hp.reportId_ne henabled' ?_
        change 0 = (if p.enabled then p.reportId else 0) at hid
        rw [if_pos henabled'] at hid
        exact hid.symm
      · exact absurd henabled (by decide)
    · rintro ⟨henabled, hne⟩
      change (if p.enabled then (1 : UInt8) else 0) = 0 at henabled
      split_ifs at henabled with henabled'
      · exact absurd henabled (by decide)
      · refine hne (UInt8.toNat_inj.mp (hid.trans ?_))
        exact if_neg henabled'
  unfold validateReportTable
  rw [if_neg (by simp), if_neg (by simp), reportEntries, hentry]
  rfl

end EmitterProgram

namespace RawParser

variable {p : EmitterProgram} {t : Tally} {parser : RawParser}

/-- The report of the program finds its entry. -/
theorem Parses.matchReport (h : Parses p t parser) (hp : p.Valid) (hpos : 0 < t.bits)
    (hbits : t.bits = bodyBits 0 p.body) (hwhole : t.bits % 8 = 0) {masks : List UInt8}
    (hmasks : masks.length = 1) :
    parser.matchReport [p.entry] masks p.layout.reportId = .ok [0xFF] := by
  obtain ⟨hid, hwire⟩ := p.entry_spec hp
  have hsmall := EmitterProgram.bodyBits_small hp
  have hlength : p.layout.wireBytes = (t.bits + 7) / 8 + if p.enabled then 1 else 0 := by
    change (p.prefixBits + bodyBits 0 p.body + 7) / 8 = _
    unfold EmitterProgram.prefixBits
    split_ifs <;> omega
  have hfound : [p.entry].findIdx? (fun entry => decide (entry.reportId.toNat = p.layout.reportId ∧
      entry.hasReportId = if p.enabled then 1 else 0)) = some 0 := by
    rw [List.findIdx?_cons, if_pos (decide_eq_true ⟨hid, rfl⟩)]
  have hmask : trailingMask t.bits = 0xFF := by
    unfold trailingMask
    rw [and_seven, hwhole]
    rfl
  obtain ⟨mask, rfl⟩ := List.length_eq_one_iff.mp hmasks
  unfold RawParser.matchReport
  dsimp only
  rw [h.seen, h.bits, h.hasReportIds, decide_eq_true hpos, if_neg (by simp),
    if_neg (by unfold sizeMax; omega), ← hlength,
    if_neg (by rw [← hwire]; have := p.entry.wireLength.toNat_lt; omega), hfound]
  dsimp only
  rw [List.getElem?_cons_zero, Option.map_some, hwire, if_neg (not_not.mpr rfl), hmask]
  rfl

/-- The other Report IDs have no report. -/
theorem Parses.matchReports (h : Parses p t parser) (hp : p.Valid) (hpos : 0 < t.bits)
    (hbits : t.bits = bodyBits 0 p.body) (hwhole : t.bits % 8 = 0) (ids : List ℕ)
    {masks : List UInt8} (hmasks : masks.length = 1) :
    ids.foldlM (parser.matchReport [p.entry]) masks =
      .ok (if p.layout.reportId ∈ ids then [0xFF] else masks) := by
  induction ids generalizing masks with
  | nil => rfl
  | cons id ids ih =>
    rw [List.foldlM_cons]
    by_cases hid : id = p.layout.reportId
    · rw [hid, h.matchReport hp hpos hbits hwhole hmasks]
      change List.foldlM _ _ ids = _
      rw [ih rfl, ite_self, if_pos List.mem_cons_self]
    · have hskip : parser.matchReport [p.entry] masks id = .ok masks := by
        unfold RawParser.matchReport
        dsimp only
        rw [h.others id hid]
        rfl
      rw [hskip]
      change List.foldlM _ _ ids = _
      rw [ih hmasks]
      simp only [List.mem_cons, Ne.symm hid, false_or]

/-- The whole table. -/
theorem Parses.matchReportTable (h : Parses p t parser) (hp : p.Valid) (hpos : 0 < t.bits)
    (hbits : t.bits = bodyBits 0 p.body) (hwhole : t.bits % 8 = 0) (mask : UInt8) :
    parser.matchReportTable [p.entry] [mask] = .ok [0xFF] := by
  have hid : p.layout.reportId ∈ List.range 256 := by
    rw [List.mem_range, ← (p.entry_spec hp).1]
    exact p.entry.reportId.toNat_lt
  have hseen : (List.range 256).countP (fun id => (parser.parsed id).seen) = 1 := by
    have hcount : (List.range 256).count p.layout.reportId = 1 := by
      rw [List.nodup_range.count, if_pos hid]
    rw [← hcount, List.count]
    refine List.countP_congr fun id _ => ?_
    by_cases hne : id = p.layout.reportId
    · rw [hne, h.seen, decide_eq_true hpos]
      simp
    · rw [h.others id hne]
      simp [hne]
  unfold RawParser.matchReportTable
  rw [h.matchReports hp hpos hbits hwhole _ rfl, if_pos hid]
  change (if _ then _ else _) = _
  rw [hseen, if_neg (by simp)]
  rfl

end RawParser

namespace EmitterProgram

variable {p : EmitterProgram}

/-- **The raw parser accepts the bytes of a program** without a Feature, and finds the counters of
the builder. -/
theorem validateRaw_eq (hp : p.Valid) (hspan : p.SpansFit) (hfits : p.bytes.length ≤ 65535)
    (hfeature : p.feature = none) (hpos : 0 < bodyBits 0 p.body)
    (hwhole : bodyBits 0 p.body % 8 = 0) (mask : UInt8) :
    validateRaw p.bytes [p.entry] [mask] = .ok ([0xFF], p.tally.requirements) := by
  obtain ⟨hstartBits, hstartDepth⟩ := p.start_spec
  obtain ⟨opened, hopened, hstart⟩ := RawParser.walk_head hp hfeature
  obtain ⟨last, hlast, hbody⟩ := RawParser.walk_body hstart hp (by omega)
    (by rw [hstartDepth]; exact hp.nests) hp.body (by rw [hstartBits]; exact hspan)
    (by rw [hstartBits, Nat.zero_add]; exact hp.cost)
  have hdepth : last.collectionDepth = 1 := by
    rw [hbody.depth, depth_afterBody (by rw [hstartDepth]; exact hp.nests)]
  have hbits : (p.start.afterBody p.body).bits = bodyBits 0 p.body := by
    rw [bits_afterBody, hstartBits]
  have hopen : last.collectionDepth ≠ 0 := by
    rw [hdepth]
    exact one_ne_zero
  rw [hstartBits] at hlast
  have hwalk := (hopened.append hlast).append
    (RawParser.walk_endCollection hopen hbody.locals)
  have hitems : RawParser.items p.bytes.length {} 0 p.bytes = .ok _ :=
    RawParser.items_of_walk hwalk le_rfl
  have htable := hbody.matchReportTable hp (by omega) hbits (by omega) mask
  have hnonempty : ¬p.bytes.length = 0 := by
    unfold bytes items head collectionItems
    simp [ShortItem.bytes]
  have hwire : 0 < p.layout.wireBytes := by
    change 0 < (p.prefixBits + bodyBits 0 p.body + 7) / 8
    omega
  unfold validateRaw
  rw [if_neg hnonempty, if_neg (by omega), validateReportTable_entry hp hwire]
  dsimp only
  rw [hitems]
  change (if last.collectionDepth - 1 ≠ 0 ∨ last.globalStack ≠ [] ∨ 0 ≠ 0 then _ else
    if last.topLevelCount = 0 then _ else
      (last.matchReportTable [p.entry] [mask]).bind fun masks =>
        Except.ok (masks, last.requirements)) = _
  rw [hdepth, hbody.stack, hbody.topLevelCount, if_neg (by simp), if_neg (by simp), htable,
    hbody.requirements]
  rfl

end EmitterProgram

end LibaoaHid

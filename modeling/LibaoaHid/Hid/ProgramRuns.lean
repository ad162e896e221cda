import LibaoaHid.Hid.Programs

/-!
# Runs of emitter programs

A builder that runs a valid program writes the program's items and records its fields and its
counters. The only other outcome is that the items do not fit the capacity of the writer.

## Main definitions

* `DescriptorBuilder.Holds`: the builder has the counters of a tally.
* `DescriptorBuilder.Writes`: an operation has written its items, or is out of room.
* `DescriptorBuilder.Records`: the fields and the counters behind operations.

## Main results

* `DescriptorBuilder.writes_op`, `DescriptorBuilder.writes_body`: one operation, and a sequence.
* `EmitterProgram.run_of_fits`, `EmitterProgram.run_of_full`: a program on a fresh builder.
-/

namespace LibaoaHid

open Hid

/-! ### Single operations -/

/-- A layout with more fields. -/
def ReportLayout.push (layout : ReportLayout) (fields : List FieldLayout) : ReportLayout :=
  { layout with fields := layout.fields ++ fields }

theorem ReportLayout.push_nil (layout : ReportLayout) : layout.push [] = layout := by
  simp [push]

theorem ReportLayout.push_push (layout : ReportLayout) (first second : List FieldLayout) :
    (layout.push first).push second = layout.push (first ++ second) := by
  simp [push]

namespace DescriptorBuilder

/-- The builder has the counters of a tally, behind some bits of a Report ID. -/
structure Holds (prefixBits : ℕ) (b : DescriptorBuilder) (t : Tally) : Prop where
  inputBits : b.inputBits = prefixBits + t.bits
  prefixBits_le : prefixBits = 0 ∨ prefixBits = 8
  depth : b.collectionDepth = t.depth
  decided : b.reportIdDecided = true
  reportId : b.currentReportId < 256
  lengths : b.inputFields.length = 256 ∧ b.inputReportBits.length = 256
  fields : b.inputFields.getD b.currentReportId 0 = t.fields
  bits : b.inputReportBits.getD b.currentReportId 0 = t.bits
  requirements : b.requirements = t.requirements
  fields_le : t.fields ≤ t.bits

/-- The outcome of operations on a builder: it is out of room, or the items are written, and the
builder behind them satisfies `post`. -/
inductive Writes (b : DescriptorBuilder) (items : List ShortItem)
    (post : DescriptorBuilder → Prop) : Option DescriptorBuilder → Prop
  | full (hput : b.writer.put (encodeItems items) = none) : Writes b items post none
  | done {b' : DescriptorBuilder} (hput : b.writer.put (encodeItems items) = some b'.writer)
      (hpost : post b') : Writes b items post (some b')

/-- The fields and the counters behind operations. -/
structure Records (prefixBits : ℕ) (b : DescriptorBuilder) (fields : List FieldLayout) (t : Tally)
    (b' : DescriptorBuilder) : Prop where
  layout : b'.layout = b.layout.map fun layout => layout.push fields
  holds : b'.Holds prefixBits t

variable {b b' : DescriptorBuilder} {prefixBits : ℕ} {items items' : List ShortItem}
  {fields fields' : List FieldLayout} {t t' : Tally} {result : Option DescriptorBuilder}
  {next : DescriptorBuilder → Option DescriptorBuilder} {post post' : DescriptorBuilder → Prop}

theorem Writes.mono (h : b.Writes items post result) (hmono : ∀ b', post b' → post' b') :
    b.Writes items post' result := by
  cases h with
  | full hput => exact Writes.full hput
  | done hput hpost => exact Writes.done hput (hmono _ hpost)

/-- Operations in a row. -/
theorem Writes.bind (h : b.Writes items post result)
    (hnext : ∀ b' : DescriptorBuilder, b'.writer.position ≤ b'.writer.capacity →
      post b' → b'.Writes items' post' (next b')) :
    b.Writes (items ++ items') post' (result.bind next) := by
  cases h with
  | full hput =>
    refine Writes.full ?_
    rw [encodeItems_append]
    exact ItemWriter.put_append_of_none hput _
  | @done b' hput hpost =>
    have hfits : b'.writer.position ≤ b'.writer.capacity := by
      obtain ⟨hle, heq⟩ := ItemWriter.put_eq_some hput
      rw [heq]
      exact hle
    have hsame := ItemWriter.put_append_of_some hput (encodeItems items')
    rw [← encodeItems_append] at hsame
    have hwrites := hnext b' hfits hpost
    rw [Option.bind_some]
    cases hresult : next b' with
    | none =>
      rw [hresult] at hwrites
      cases hwrites with
      | full hput' => exact Writes.full (hsame.trans hput')
    | some b'' =>
      rw [hresult] at hwrites
      cases hwrites with
      | done hput' hpost' => exact Writes.done (hsame.trans hput') hpost'

/-- An operation that writes its items at once. -/
theorem Writes.of_map (finish : ItemWriter → DescriptorBuilder)
    (hresult : result = (b.writer.put (encodeItems items)).map finish)
    (hwriter : ∀ w, (finish w).writer = w) (hpost : ∀ w, post (finish w)) :
    b.Writes items post result := by
  cases hput : b.writer.put (encodeItems items) with
  | none =>
    rw [hresult, hput]
    exact Writes.full hput
  | some w =>
    rw [hresult, hput]
    exact Writes.done (by rw [hput, hwriter]) (hpost w)

/-- An operation that writes nothing. -/
theorem Writes.nothing (hfits : b.writer.position ≤ b.writer.capacity)
    (hwriter : b'.writer = b.writer) (hpost : post b') : b.Writes [] post (some b') :=
  Writes.done (by rw [hwriter]; exact ItemWriter.put_nil hfits) hpost

/-- Recordings in a row. -/
theorem Records.trans (h : Records prefixBits b fields t b') {b'' : DescriptorBuilder}
    (h' : Records prefixBits b' fields' t' b'') :
    Records prefixBits b (fields ++ fields') t' b'' := by
  refine ⟨?_, h'.holds⟩
  rw [h'.layout, h.layout, Option.map_map]
  congr 1
  funext layout
  exact ReportLayout.push_push layout fields fields'

/-- A write in front of others. -/
private theorem put_bind_put {w : ItemWriter} {first second : List UInt8} {α : Type}
    {k : ItemWriter → Option α} :
    ((w.put first).bind fun next => (next.put second).bind k) =
      (w.put (first ++ second)).bind k := by
  rw [← Option.bind_assoc, ItemWriter.put_bind]

theorem map_push_nil (layout : Option ReportLayout) :
    (layout.map fun l => l.push []) = layout := by
  simp only [ReportLayout.push_nil, Option.map_id']

/-- The common part of the collections. -/
theorem beginCollection_eq (usagePage usage type : ℕ) :
    b.beginCollection usagePage usage type =
      (b.writer.put (encodeItems (collectionItems usagePage usage type))).map fun writer =>
        { b.observeUsages 1 with writer, collectionDepth := b.collectionDepth + 1 } := by
  simp only [beginCollection, Option.bind_eq_bind, ItemWriter.usagePage_eq, ItemWriter.usage_eq,
    ItemWriter.collection_eq, put_bind_put, collectionItems, encodeItems_cons, encodeItems_nil,
    List.append_nil]
  exact (Option.map_eq_bind).symm

theorem writes_beginCollection (h : b.Holds prefixBits t) (usagePage usage type : ℕ) :
    b.Writes (collectionItems usagePage usage type) (Records prefixBits b [] t.opened)
      (b.beginCollection usagePage usage type) :=
  Writes.of_map _ (beginCollection_eq usagePage usage type) (fun _ => rfl)
    fun _ =>
      ⟨(map_push_nil b.layout).symm,
        { h with
          depth := congrArg (· + 1) h.depth
          requirements := by simp [observeUsages, h.requirements, Tally.opened] }⟩

theorem writes_endCollection (h : b.Holds prefixBits t) (hdepth : 0 < t.depth) :
    b.Writes [.empty .main 12] (Records prefixBits b [] t.closed) b.endCollection := by
  have hne : b.collectionDepth ≠ 0 := by
    rw [h.depth]
    omega
  refine Writes.of_map
    (fun writer => { b with writer, collectionDepth := b.collectionDepth - 1 }) ?_
    (fun _ => rfl)
    fun _ => ⟨(map_push_nil b.layout).symm, { h with depth := congrArg (· - 1) h.depth }⟩
  simp only [endCollection, hne, if_false, Option.bind_eq_bind, ItemWriter.endCollection_eq,
    encodeItems_cons, encodeItems_nil, List.append_nil]
  exact (Option.map_eq_bind).symm

/-! ### Data items -/

/-- The counters behind an Input item. -/
def withRecord (b : DescriptorBuilder) (t : Tally) (localUsageCount : ℕ) : DescriptorBuilder :=
  { b with
    requirements := t.requirements
    inputReportBits := b.inputReportBits.set b.currentReportId t.bits
    inputFields :=
      if localUsageCount = 0 then b.inputFields
      else b.inputFields.set b.currentReportId t.fields }

/-- An Input item is counted, since the counters stay far from their ends. -/
theorem recordMain_eq (h : b.Holds prefixBits t) {localUsageCount reportCount reportSize : ℕ}
    (hsize : 0 < reportSize ∧ reportSize ≤ 32) (hcount : reportCount ≤ 2 ^ 16)
    (hbits : t.bits + reportSize * reportCount ≤ 2 ^ 24) :
    b.recordMain false localUsageCount reportCount reportSize =
      some (b.withRecord (t.recorded localUsageCount reportCount reportSize) localUsageCount) := by
  have hdiv : reportCount ≤ (2 ^ 64 - 1) / reportSize := by
    rw [Nat.le_div_iff_mul_le hsize.1]
    calc reportCount * reportSize ≤ 2 ^ 16 * 32 := Nat.mul_le_mul hcount hsize.2
      _ ≤ 2 ^ 64 - 1 := by norm_num
  have hfields := h.fields_le
  have hsize' : ¬reportSize > 2 ^ 32 - 1 := by omega
  have hproduct : ¬(reportSize ≠ 0 ∧ reportCount > (2 ^ 64 - 1) / reportSize) := by omega
  have hsum : ¬t.bits > 2 ^ 64 - 1 - reportSize * reportCount := by omega
  have hmax : t.fields ≠ 2 ^ 32 - 1 := by omega
  unfold recordMain observeUsages
  simp only [hsize', hproduct, if_false, Bool.false_eq_true, h.bits, h.fields, hsum, hmax]
  unfold withRecord Tally.recorded
  by_cases hzero : localUsageCount = 0
  · simp only [hzero, if_true, h.requirements]
  · simp only [hzero, if_false, h.requirements]

/-- An Input item is counted behind its items. -/
theorem recordMain_prepared (h : b.Holds prefixBits t) (localUsageCount : ℕ)
    {reportCount reportSize : ℕ} (hsize : 0 < reportSize ∧ reportSize ≤ 32)
    (hcount : reportCount ≤ 2 ^ 16) (hbits : t.bits + reportSize * reportCount ≤ 2 ^ 24)
    (w : ItemWriter) :
    recordMain { b with writer := w, dataMainEmitted := true } false localUsageCount reportCount
        reportSize =
      some (withRecord { b with writer := w, dataMainEmitted := true }
        (t.recorded localUsageCount reportCount reportSize) localUsageCount) := by
  have hprepared : Holds prefixBits { b with writer := w, dataMainEmitted := true } t := { h with }
  exact recordMain_eq hprepared hsize hcount hbits

theorem getD_set_self {α : Type} {l : List α} {i : ℕ} (hi : i < l.length) (value fallback : α) :
    (l.set i value).getD i fallback = value := by
  rw [List.getD_eq_getElem?_getD, List.getElem?_set_self hi, Option.getD_some]

/-- The counters behind an Input item and its fields. -/
theorem Holds.withRecord (h : b.Holds prefixBits t) {localUsageCount reportCount reportSize : ℕ}
    {bits : ℕ} (hsize : 0 < reportSize) (hcount : 0 < reportCount)
    (hbits : reportSize * reportCount = bits) {layout : Option ReportLayout} {writer : ItemWriter} :
    Holds prefixBits
      { b.withRecord (t.recorded localUsageCount reportCount reportSize) localUsageCount with
        writer
        layout
        inputBits := b.inputBits + bits
        dataMainEmitted := true }
      (t.recorded localUsageCount reportCount reportSize) := by
  subst hbits
  have hpos : 0 < reportSize * reportCount := Nat.mul_pos hsize hcount
  have hle := h.fields_le
  refine
    { h with
      inputBits := by
        change b.inputBits + _ = _
        rw [h.inputBits, Nat.add_assoc]
        rfl
      lengths := ?_
      fields := ?_
      bits := getD_set_self (h.lengths.2 ▸ h.reportId) _ _
      requirements := rfl
      fields_le := ?_ }
  · unfold DescriptorBuilder.withRecord
    dsimp only
    split_ifs
    · exact ⟨h.lengths.1, by rw [List.length_set]; exact h.lengths.2⟩
    · exact ⟨by rw [List.length_set]; exact h.lengths.1, by rw [List.length_set]; exact h.lengths.2⟩
  · unfold DescriptorBuilder.withRecord Tally.recorded
    dsimp only
    split_ifs
    · exact h.fields
    · exact getD_set_self (h.lengths.1 ▸ h.reportId) _ _
  · unfold Tally.recorded
    dsimp only
    split_ifs <;> omega

theorem prepareDataMain_eq (h : b.Holds prefixBits t) :
    b.prepareDataMain = some { b with dataMainEmitted := true } := by
  unfold prepareDataMain
  rw [h.decided]
  rfl

/-- A field is recorded, since the bit count stays far from its end. -/
theorem addLayout_eq {semantic : FieldSemantic} {instanceIndex bitWidth : ℕ} {minimum maximum : ℤ}
    {physical : Option PhysicalProperties} {nullState : Bool} (hpos : 0 < bitWidth)
    (hle : bitWidth ≤ 32) (hbits : b.inputBits ≤ 2 ^ 32) :
    b.addLayout semantic instanceIndex bitWidth minimum maximum physical nullState =
      some { b with
        layout := b.layout.map fun layout => layout.push
          [{ semantic
             instanceIndex
             bitOffset := b.inputBits
             bitWidth
             isSigned := decide (minimum < 0) || decide (maximum < 0)
             hasNullState := nullState
             logicalMinimum := minimum
             logicalMaximum := maximum
             physical := physical.getD {} }]
        inputBits := b.inputBits + bitWidth } := by
  unfold addLayout
  rw [if_neg (by omega)]
  rfl

/-- The fields of a range are recorded one by one. -/
theorem addLayout_range {semantic : FieldSemantic} (count : ℕ) (hcount : count ≤ 2 ^ 16)
    (hbits : b.inputBits ≤ 2 ^ 31) :
    (List.range count).foldlM (fun b index => b.addLayout semantic (index % 2 ^ 16) 1 0 1) b =
      some { b with
        layout := b.layout.map fun layout =>
          layout.push ((List.range count).map (rangeFieldAt semantic b.inputBits))
        inputBits := b.inputBits + count } := by
  induction count with
  | zero =>
    change some b = _
    rw [List.range_zero, List.map_nil, map_push_nil, Nat.add_zero]
  | succ count ih =>
    rw [List.range_succ, List.foldlM_append, ih (by omega), Option.bind_eq_bind, Option.bind_some,
      List.foldlM_cons, addLayout_eq Nat.one_pos (by norm_num) (by dsimp only; omega),
      Option.bind_eq_bind, Option.bind_some, List.foldlM_nil, List.map_append]
    simp only [Option.map_map, Function.comp_def, ReportLayout.push_push, Nat.add_assoc]
    rfl

/-! ### Fields, ranges and padding -/

/-- A physical block is written as its items. -/
theorem physicalItems_eq (w : ItemWriter) (minimum maximum : ℤ) {unitExponent : ℤ} (unit : ℕ)
    (hlower : -8 ≤ unitExponent) (hupper : unitExponent ≤ 7) :
    physicalItems w minimum maximum unitExponent unit =
      w.put (encodeItems (physicalBlock minimum maximum unitExponent unit)) := by
  simp only [physicalItems, Option.bind_eq_bind, ItemWriter.physicalMinimum_eq,
    ItemWriter.physicalMaximum_eq, ItemWriter.unitExponent_eq hlower hupper, ItemWriter.unit_eq,
    ItemWriter.put_bind, physicalBlock, encodeItems_cons, encodeItems_nil,
    List.append_nil]

/-- The Unit Exponent of an enabled block is a nibble. -/
theorem exponent_of_validEnabled {physical : PhysicalProperties}
    (h : physical.validEnabled = true) :
    -8 ≤ physical.unitExponent.toInt ∧ physical.unitExponent.toInt ≤ 7 := by
  simp only [PhysicalProperties.validEnabled, Bool.and_eq_true, decide_eq_true_eq] at h
  exact ⟨h.1.1.1.2, h.1.1.2⟩

/-- A field is written as its items, and recorded. -/
theorem variableField_eq (h : b.Holds prefixBits t) {d : VariableField} (hd : d.Valid)
    (hbits : t.bits + d.bitWidth ≤ 2 ^ 24) :
    (EmitterOp.field d).run b = (b.writer.put (encodeItems d.items)).map fun writer =>
      { b.withRecord (t.recorded 1 1 d.bitWidth) 1 with
        writer
        layout := b.layout.map fun layout => layout.push [d.layoutAt b.inputBits]
        inputBits := b.inputBits + d.bitWidth
        dataMainEmitted := true } := by
  obtain ⟨hpos, hle, -⟩ := of_valueFits hd.fits
  have hprefixed := h.prefixBits_le
  have hinput := h.inputBits
  have hblock : ¬(!d.block.canonicalDisabled && !d.block.validEnabled) = true := by
    rcases hd.physical with hphysical | hphysical <;> simp [hphysical]
  have hsmall : b.inputBits ≤ 2 ^ 32 := by omega
  have hrecord := recordMain_prepared h 1 ⟨hpos, hle⟩ (show 1 ≤ 2 ^ 16 by norm_num) (by omega)
  unfold EmitterOp.run variableField
  simp only [Option.bind_eq_bind, prepareDataMain_eq h, Option.bind_some]
  unfold VariableField.block at hblock
  rw [if_neg hblock]
  cases hphysical : d.hasPhysical with
  | false =>
    have hoff : ¬(d.physical.isSome && (d.physical.getD {}).validEnabled) = true := by
      simpa [VariableField.hasPhysical, VariableField.block] using hphysical
    simp only [hoff, Bool.false_eq_true, if_false, ItemWriter.usagePage_eq, ItemWriter.usage_eq,
      ItemWriter.logicalMinimum_eq, ItemWriter.logicalMaximum_eq, ItemWriter.reportSize_eq,
      ItemWriter.reportCount_eq, ItemWriter.input_eq, put_bind_put, VariableField.items,
      VariableField.opening, VariableField.input, VariableField.closing, hphysical,
      encodeItems_append, encodeItems_cons, encodeItems_nil, List.append_nil, List.append_assoc]
    refine .trans (congrArg _ (funext fun w => ?_)) Option.map_eq_bind.symm
    rw [hrecord w, Option.bind_some]
    exact addLayout_eq hpos hle hsmall
  | true =>
    have hon : (d.physical.isSome && (d.physical.getD {}).validEnabled) = true := by
      simpa [VariableField.hasPhysical, VariableField.block] using hphysical
    obtain ⟨hlower, hupper⟩ := exponent_of_validEnabled (Bool.and_eq_true_iff.mp hon).2
    simp only [hon, if_true, ItemWriter.usagePage_eq, ItemWriter.usage_eq,
      ItemWriter.logicalMinimum_eq, ItemWriter.logicalMaximum_eq, ItemWriter.reportSize_eq,
      ItemWriter.reportCount_eq, ItemWriter.input_eq, physicalItems_eq _ _ _ _ hlower hupper,
      put_bind_put, hrecord, Option.bind_some]
    have hreset (w : ItemWriter) := physicalItems_eq w 0 0 0 (show (-8 : ℤ) ≤ 0 by norm_num)
      (show (0 : ℤ) ≤ 7 by norm_num)
    simp only [withRecord, hreset, put_bind_put, VariableField.items,
      VariableField.opening, VariableField.input, VariableField.closing, hphysical, if_true,
      encodeItems_append, encodeItems_cons, encodeItems_nil, List.append_nil, List.append_assoc]
    refine .trans (congrArg _ (funext fun w => ?_)) Option.map_eq_bind.symm
    exact addLayout_eq hpos hle hsmall

/-- A range is written as its items, and its fields are recorded. -/
theorem variableRange_eq (h : b.Holds prefixBits t) {usagePage usageMinimum usageMaximum : ℕ}
    {semantic : FieldSemantic} (hle : usageMinimum ≤ usageMaximum) (hlt : usageMaximum < 2 ^ 16)
    (hbits : t.bits + (usageMaximum - usageMinimum + 1) ≤ 2 ^ 24) :
    (EmitterOp.range usagePage usageMinimum usageMaximum semantic).run b =
      (b.writer.put (encodeItems
        ((EmitterOp.range usagePage usageMinimum usageMaximum semantic).items t.bits))).map
        fun writer =>
          { b.withRecord (t.recorded (usageMaximum - usageMinimum + 1)
              (usageMaximum - usageMinimum + 1) 1) (usageMaximum - usageMinimum + 1) with
            writer
            layout := b.layout.map fun layout => layout.push
              ((List.range (usageMaximum - usageMinimum + 1)).map
                (rangeFieldAt semantic b.inputBits))
            inputBits := b.inputBits + (usageMaximum - usageMinimum + 1)
            dataMainEmitted := true } := by
  have hprefixed := h.prefixBits_le
  have hinput := h.inputBits
  have hcount : usageMaximum - usageMinimum + 1 ≤ 2 ^ 16 := by omega
  have hsmall : b.inputBits ≤ 2 ^ 31 := by omega
  have hrecord := recordMain_prepared h (usageMaximum - usageMinimum + 1)
    (show 0 < 1 ∧ 1 ≤ 32 by norm_num) hcount (by omega)
  unfold EmitterOp.run variableRange
  simp only [Option.bind_eq_bind, prepareDataMain_eq h, Option.bind_some]
  rw [if_neg (not_lt.mpr hle)]
  simp only [ItemWriter.usagePage_eq, ItemWriter.usageMinimum_eq, ItemWriter.usageMaximum_eq,
    ItemWriter.logicalMinimum_eq, ItemWriter.logicalMaximum_eq, ItemWriter.reportSize_eq,
    ItemWriter.reportCount_eq, ItemWriter.input_eq, put_bind_put, EmitterOp.items,
    encodeItems_cons, encodeItems_nil, List.append_nil, hrecord, Option.bind_some]
  refine .trans (congrArg _ (funext fun w => ?_)) Option.map_eq_bind.symm
  exact addLayout_range _ hcount hsmall

/-- Padding is written as its items, and recorded. -/
theorem constantPadding_eq (h : b.Holds prefixBits t) {bits : ℕ} (hpos : 0 < bits)
    (hle : bits ≤ 8) (hbits : t.bits + bits ≤ 2 ^ 24) :
    b.constantPadding bits =
      (b.writer.put (encodeItems [.ofUnsigned .globalState 7 bits, .ofUnsigned .globalState 9 1,
        .ofUnsigned .main 8 0x01])).map fun writer =>
          { b.withRecord (t.recorded 0 1 bits) 0 with
            writer
            layout := b.layout.map fun layout => layout.push [paddingAt b.inputBits bits]
            inputBits := b.inputBits + bits
            dataMainEmitted := true } := by
  have hprefixed := h.prefixBits_le
  have hinput := h.inputBits
  have hsmall : b.inputBits ≤ 2 ^ 32 := by omega
  have hrecord := recordMain_prepared h 0 (show 0 < bits ∧ bits ≤ 32 by omega)
    (show 1 ≤ 2 ^ 16 by norm_num) (by omega)
  have hmod : bits % 2 ^ 8 = bits := by omega
  unfold constantPadding
  rw [if_neg hpos.ne', hmod]
  simp only [Option.bind_eq_bind, prepareDataMain_eq h, Option.bind_some, ItemWriter.reportSize_eq,
    ItemWriter.reportCount_eq, ItemWriter.input_eq, put_bind_put, encodeItems_cons,
    encodeItems_nil, List.append_nil, hrecord]
  refine .trans (congrArg _ (funext fun w => ?_)) Option.map_eq_bind.symm
  exact addLayout_eq hpos (by omega) hsmall

/-- The padding that the source counts. -/
theorem padding_eq (h : b.Holds prefixBits t) :
    (8 - (b.inputBits &&& 7)) &&& 7 = padding t.bits := by
  have hprefixed := h.prefixBits_le
  have hand (n : ℕ) : n &&& 7 = n % 8 := Nat.and_two_pow_sub_one_eq_mod n 3
  rw [hand, hand, h.inputBits, padding]
  omega

/-- **One operation.** It writes its items and records its fields and its counters. -/
theorem writes_op (h : b.Holds prefixBits t) (hfits : b.writer.position ≤ b.writer.capacity)
    (hdepth : 0 < t.depth) {op : EmitterOp} (hnests : op.Nests t.depth) (hop : op.Valid)
    (hcost : t.bits + op.cost ≤ 2 ^ 24) :
    b.Writes (op.items t.bits) (Records prefixBits b (op.fields prefixBits t.bits) (t.after op))
      (op.run b) := by
  have hne : b.collectionDepth ≠ 0 := by
    rw [h.depth]
    omega
  cases op with
  | openLogical usagePage usage =>
    change b.Writes _ _ (b.beginLogical usagePage usage)
    rw [beginLogical, if_neg hne]
    exact writes_beginCollection h _ _ _
  | openPhysical usagePage usage =>
    change b.Writes _ _ (b.beginPhysical usagePage usage)
    rw [beginPhysical, if_neg hne]
    exact writes_beginCollection h _ _ _
  | close => exact writes_endCollection h hdepth
  | field d =>
    obtain ⟨hpos, -, -⟩ := of_valueFits hop.fits
    refine Writes.of_map _ (variableField_eq h hop hcost) (fun _ => rfl) fun _ => ⟨?_, ?_⟩
    · rw [h.inputBits]
      rfl
    · exact h.withRecord hpos Nat.one_pos (Nat.mul_one d.bitWidth)
  | range usagePage usageMinimum usageMaximum semantic =>
    refine Writes.of_map _ (variableRange_eq h hop.2.1 hop.2.2.1 hcost) (fun _ => rfl)
      fun _ => ⟨?_, ?_⟩
    · rw [h.inputBits]
      rfl
    · exact h.withRecord Nat.one_pos (Nat.succ_pos _) (Nat.one_mul _)
  | pad =>
    have hlt : padding t.bits < 8 := Nat.mod_lt _ (by norm_num)
    change b.Writes _ _ (padReport b)
    rw [padReport, padding_eq h]
    dsimp only [EmitterOp.items, EmitterOp.fields, Tally.after]
    by_cases hzero : padding t.bits = 0
    · rw [if_neg (not_not.mpr hzero), if_pos hzero, if_pos hzero, if_pos hzero]
      exact Writes.nothing hfits rfl ⟨(map_push_nil b.layout).symm, h⟩
    · have hmod : padding t.bits % 2 ^ 16 = padding t.bits := by omega
      rw [if_pos hzero, if_neg hzero, if_neg hzero, if_neg hzero, hmod]
      refine Writes.of_map _ (constantPadding_eq h (Nat.pos_of_ne_zero hzero) hlt.le ?_)
        (fun _ => rfl) fun _ => ⟨?_, ?_⟩
      · change t.bits + 8 ≤ 2 ^ 24 at hcost
        omega
      · rw [h.inputBits]
      · exact h.withRecord (Nat.pos_of_ne_zero hzero) Nat.one_pos (Nat.mul_one _)

/-- **A sequence of operations.** -/
theorem writes_body {ops : List EmitterOp} {last : ℕ} (h : b.Holds prefixBits t)
    (hfits : b.writer.position ≤ b.writer.capacity) (hdepth : 0 < t.depth)
    (hnests : BodyNests t.depth ops last) (hops : ∀ op ∈ ops, op.Valid)
    (hcost : t.bits + (ops.map EmitterOp.cost).sum ≤ 2 ^ 24) :
    b.Writes (bodyItems t.bits ops)
      (Records prefixBits b (bodyFields prefixBits t.bits ops) (t.afterBody ops))
      (runBody ops b) := by
  induction ops generalizing b t with
  | nil => exact Writes.nothing hfits rfl ⟨(map_push_nil b.layout).symm, h⟩
  | cons op ops ih =>
    obtain ⟨hop, hops⟩ := List.forall_mem_cons.mp hops
    rw [List.map_cons, List.sum_cons] at hcost
    have hbits := op.bits_le_cost t.bits
    have hafter := t.after_bits op
    rw [runBody_cons, bodyItems, bodyFields]
    refine (writes_op h hfits hdepth hnests.1 hop (by omega)).bind fun b' hfits' hrecords => ?_
    rw [← hafter]
    refine (ih hrecords.holds hfits' ?_ ?_ hops (by omega)).mono fun _ => hrecords.trans
    · rw [EmitterOp.after_depth]
      exact EmitterOp.depthFrom_pos hnests.1 hdepth
    · rw [EmitterOp.after_depth]
      exact hnests.2

/-! ### Whole programs -/

/-- A Feature item is counted on its own. -/
theorem recordMain_feature (hbits : b.featureReportBits.getD b.currentReportId 0 = 0)
    (hfields : b.featureFields.getD b.currentReportId 0 = 0)
    (hrequirements : b.requirements = t.requirements)
    (ht : t.bits = 0 ∧ t.fields = 0) {reportSize : ℕ} (hsize : 0 < reportSize ∧ reportSize ≤ 32) :
    b.recordMain true 1 1 reportSize =
      some { b with
        requirements := (t.featured reportSize).requirements
        featureReportBits := b.featureReportBits.set b.currentReportId reportSize
        featureFields := b.featureFields.set b.currentReportId 1 } := by
  have hdiv : 1 ≤ (2 ^ 64 - 1) / reportSize := by
    rw [Nat.le_div_iff_mul_le hsize.1]
    omega
  have hsize' : ¬reportSize > 2 ^ 32 - 1 := by omega
  have hproduct : ¬(reportSize ≠ 0 ∧ 1 > (2 ^ 64 - 1) / reportSize) := by omega
  have hsum : ¬0 > 2 ^ 64 - 1 - reportSize * 1 := by omega
  unfold recordMain observeUsages
  simp only [hsize', hproduct, if_false, if_true, hbits, hfields, hsum]
  simp only [Tally.featured, Tally.recorded, hrequirements, ht, Nat.one_ne_zero, if_false,
    Nat.mul_one, Nat.zero_add]
  rfl

/-- The layout in front of the fields. -/
def identified (p : EmitterProgram) (layout : Option ReportLayout) : Option ReportLayout :=
  layout.map fun l =>
    { l with hasReportId := p.enabled, reportId := if p.enabled then p.reportId else 0 }

/-- A builder behind the start of its Application collection. -/
structure Started (layout : Option ReportLayout) (b : DescriptorBuilder) : Prop where
  layout : b.layout = layout
  depth : b.collectionDepth = 1
  undecided : b.reportIdDecided = false ∧ b.dataMainEmitted = false
  tables : b.inputFields = List.replicate 256 0 ∧ b.inputReportBits = List.replicate 256 0 ∧
    b.featureFields = List.replicate 256 0 ∧ b.featureReportBits = List.replicate 256 0
  requirements : b.requirements = (Tally.opened {}).requirements

/-- A builder behind its Report ID declaration. -/
structure Declared (p : EmitterProgram) (layout : Option ReportLayout) (b : DescriptorBuilder) :
    Prop where
  layout : b.layout = identified p layout
  holds : b.Holds p.prefixBits (Tally.opened {})
  features : b.featureFields.getD b.currentReportId 0 = 0 ∧
    b.featureReportBits.getD b.currentReportId 0 = 0

theorem writes_beginApplication (p : EmitterProgram) (bytes : Option (List UInt8)) (capacity : ℕ)
    (layout : Option ReportLayout) :
    (create bytes capacity layout).Writes (collectionItems p.usagePage p.usage 0x01)
      (Started layout) ((create bytes capacity layout).beginApplication p.usagePage p.usage) := by
  have hfresh : ¬((create bytes capacity layout).collectionDepth = 0 ∧
      (create bytes capacity layout).topLevelApplicationSeen = true) :=
    fun h => Bool.false_ne_true h.2
  unfold beginApplication
  rw [if_neg hfresh, beginCollection_eq]
  refine Writes.of_map (fun writer =>
    { create bytes capacity layout with
      writer
      collectionDepth := 1
      topLevelApplicationSeen := true
      requirements := (Tally.opened {}).requirements }) ?_ (fun _ => rfl)
    fun _ => ⟨rfl, rfl, ⟨rfl, rfl⟩, ⟨rfl, rfl, rfl, rfl⟩, rfl⟩
  simp only [Option.map_eq_bind, Option.bind_eq_bind, Option.bind_assoc, Function.comp_def,
    Option.bind_some]
  rfl

private theorem getD_replicate_zero (n i : ℕ) : (List.replicate n 0).getD i 0 = 0 := by
  rw [List.getD_eq_getElem?_getD, List.getElem?_replicate]
  split_ifs <;> rfl

theorem writes_setReportId {p : EmitterProgram} (hp : p.Valid) {layout : Option ReportLayout}
    (h : Started layout b) (hfits : b.writer.position ≤ b.writer.capacity) :
    b.Writes (if p.enabled then [.ofUnsigned .globalState 8 p.reportId] else [])
      (Declared p layout) (b.setReportId p.enabled p.reportId) := by
  have hopen : ¬(b.reportIdDecided = true ∨ b.dataMainEmitted = true) := by
    rw [h.undecided.1, h.undecided.2]
    simp
  obtain ⟨hfields, hbits, hfeatures, hfeatureBits⟩ := h.tables
  unfold setReportId
  rw [if_neg hopen]
  cases henabled : p.enabled with
  | false =>
    refine Writes.nothing hfits rfl ⟨?_, ?_, ?_⟩
    · rw [identified, henabled, ← h.layout]
      rfl
    · exact
        { inputBits := by rw [EmitterProgram.prefixBits, henabled]; rfl
          prefixBits_le := by rw [EmitterProgram.prefixBits, henabled]; simp
          depth := h.depth
          decided := rfl
          reportId := by norm_num
          lengths := by rw [hfields, hbits]; exact ⟨List.length_replicate, List.length_replicate⟩
          fields := by rw [hfields]; exact getD_replicate_zero _ _
          bits := by rw [hbits]; exact getD_replicate_zero _ _
          requirements := h.requirements
          fields_le := le_rfl }
    · exact ⟨by rw [hfeatures]; exact getD_replicate_zero _ _,
        by rw [hfeatureBits]; exact getD_replicate_zero _ _⟩
  | true =>
    have hne := hp.reportId_ne henabled
    refine Writes.of_map (fun writer =>
      { b with
        writer
        reportIdDecided := true
        currentReportId := p.reportId
        layout := identified p b.layout
        inputBits := 8 }) ?_ (fun _ => rfl) fun _ => ⟨congrArg (identified p) h.layout, ?_, ?_⟩
    · simp only [Bool.not_true, Bool.false_eq_true, if_false, hne, if_true, Option.bind_eq_bind,
        ItemWriter.reportId_eq, encodeItems_cons, encodeItems_nil, List.append_nil, identified,
        henabled]
      exact (Option.map_eq_bind).symm
    · exact
        { inputBits := by rw [EmitterProgram.prefixBits, henabled]; rfl
          prefixBits_le := by rw [EmitterProgram.prefixBits, henabled]; simp
          depth := h.depth
          decided := rfl
          reportId := hp.reportId_lt
          lengths := by rw [hfields, hbits]; exact ⟨List.length_replicate, List.length_replicate⟩
          fields := by rw [hfields]; exact getD_replicate_zero _ _
          bits := by rw [hbits]; exact getD_replicate_zero _ _
          requirements := h.requirements
          fields_le := le_rfl }
    · exact ⟨by rw [hfeatures]; exact getD_replicate_zero _ _,
        by rw [hfeatureBits]; exact getD_replicate_zero _ _⟩

/-- A builder in front of its Input items. -/
structure Ready (p : EmitterProgram) (layout : Option ReportLayout) (b : DescriptorBuilder) :
    Prop where
  layout : b.layout = identified p layout
  holds : b.Holds p.prefixBits p.start

theorem writes_runFeature {p : EmitterProgram} (hp : p.Valid) {layout : Option ReportLayout}
    (h : Declared p layout b) (hfits : b.writer.position ≤ b.writer.capacity) :
    b.Writes ((p.feature.map StaticFeature.items).getD []) (Ready p layout)
      (runFeature p.feature b) := by
  cases hfeature : p.feature with
  | none =>
    refine Writes.nothing hfits rfl ⟨h.layout, ?_⟩
    rw [EmitterProgram.start, hfeature]
    exact h.holds
  | some f =>
    have hf := hp.feature f hfeature
    have hrecord (w : ItemWriter) := recordMain_feature
      (b := { b with writer := w, dataMainEmitted := true }) h.features.2 h.features.1
      h.holds.requirements ⟨rfl, rfl⟩ hf.width
    refine Writes.of_map (fun writer =>
      { b with
        writer
        requirements := ((Tally.opened {}).featured f.bitWidth).requirements
        featureReportBits := b.featureReportBits.set b.currentReportId f.bitWidth
        featureFields := b.featureFields.set b.currentReportId 1
        dataMainEmitted := true }) ?_ (fun _ => rfl) fun _ => ⟨h.layout, ?_⟩
    · unfold runFeature featureStaticValue
      simp only [Option.bind_eq_bind, prepareDataMain_eq h.holds, Option.bind_some,
        ItemWriter.usagePage_eq, ItemWriter.usage_eq, ItemWriter.logicalMinimum_eq,
        ItemWriter.logicalMaximum_eq, ItemWriter.reportSize_eq, ItemWriter.reportCount_eq,
        ItemWriter.feature_eq, put_bind_put, hrecord, Option.map_some, Option.getD_some,
        StaticFeature.items, encodeItems_cons, encodeItems_nil, List.append_nil]
      exact Option.map_eq_bind.symm
    · rw [EmitterProgram.start, hfeature]
      exact { h.holds with requirements := rfl }

end DescriptorBuilder

open DescriptorBuilder

namespace EmitterProgram

variable {p : EmitterProgram}

/-- A sequence that nests ends at its last depth. -/
theorem depth_afterBody {ops : List EmitterOp} {t : Tally} {last : ℕ}
    (h : BodyNests t.depth ops last) : (t.afterBody ops).depth = last := by
  induction ops generalizing t with
  | nil => exact h
  | cons op ops ih => exact ih (EmitterOp.after_depth t op ▸ h.2)

theorem bits_afterBody {ops : List EmitterOp} {t : Tally} :
    (t.afterBody ops).bits = bodyBits t.bits ops := by
  induction ops generalizing t with
  | nil => rfl
  | cons op ops ih =>
    rw [bodyBits, ← t.after_bits op]
    exact ih

theorem start_spec (p : EmitterProgram) : p.start.bits = 0 ∧ p.start.depth = 1 := by
  unfold start
  split <;> exact ⟨rfl, rfl⟩

/-- What a finished builder has recorded. -/
structure Finished (p : EmitterProgram) (layout : Option ReportLayout) (b : DescriptorBuilder) :
    Prop where
  layout : b.layout = layout.map fun l =>
    { p.layout with fields := l.fields ++ p.layout.fields }
  requirements : b.requirements = p.tally.requirements

/-- **A run of a program** on a fresh builder writes its items and records its layout and its
counters, unless the items do not fit. -/
theorem writes_run (hp : p.Valid) (bytes : Option (List UInt8)) (capacity : ℕ)
    (layout : Option ReportLayout) :
    (create bytes capacity layout).Writes p.items (Finished p layout)
      ((p.run (create bytes capacity layout)).bind finish) := by
  obtain ⟨hbits, hdepth⟩ := p.start_spec
  have hitems : p.items = collectionItems p.usagePage p.usage 0x01 ++
      ((if p.enabled then [.ofUnsigned .globalState 8 p.reportId] else []) ++
        ((p.feature.map StaticFeature.items).getD [] ++
          (bodyItems 0 p.body ++ ([.empty .main 12] ++ [])))) := by
    simp only [items, head, List.append_assoc, List.append_nil]
  have hrun (b : DescriptorBuilder) : (p.run b).bind finish =
      (b.beginApplication p.usagePage p.usage).bind fun b =>
        (b.setReportId p.enabled p.reportId).bind fun b =>
          (runFeature p.feature b).bind fun b => (runBody p.body b).bind fun b =>
            b.endCollection.bind finish := by
    simp only [run, Option.bind_assoc]
  rw [hitems, hrun]
  refine (writes_beginApplication p bytes capacity layout).bind fun b hfits hstarted => ?_
  refine (writes_setReportId hp hstarted hfits).bind fun b hfits hdeclared => ?_
  refine (writes_runFeature hp hdeclared hfits).bind fun b hfits hready => ?_
  have hbody := writes_body hready.holds hfits (by rw [hdepth]; exact Nat.one_pos)
    (by rw [hdepth]; exact hp.nests) hp.body (by rw [hbits, Nat.zero_add]; exact hp.cost)
  rw [hbits] at hbody
  refine hbody.bind fun b' hfits hrecords => ?_
  have hlast : p.tally.depth = 1 := depth_afterBody (hdepth ▸ hp.nests)
  refine (writes_endCollection hrecords.holds (by rw [← tally, hlast]; exact Nat.one_pos)).bind
    fun b'' hfits hclosed => ?_
  have hzero : b''.collectionDepth = 0 := by
    rw [hclosed.holds.depth, Tally.closed, ← tally, hlast]
  have hinput : b''.inputBits = p.prefixBits + bodyBits 0 p.body := by
    rw [hclosed.holds.inputBits, Tally.closed, bits_afterBody, hbits]
  unfold finish
  rw [if_neg (not_not.mpr hzero)]
  refine Writes.nothing hfits rfl ⟨?_, hclosed.holds.requirements⟩
  simp only [hclosed.layout, hrecords.layout, hready.layout, identified, Option.map_map, hinput]
  congr 1
  funext l
  simp [ReportLayout.push, EmitterProgram.layout]

/-- A run whose bytes fit. -/
theorem run_of_fits (hp : p.Valid) {bytes : Option (List UInt8)} {capacity : ℕ} {w : ItemWriter}
    (layout : Option ReportLayout)
    (hput : ItemWriter.put { bytes, capacity } p.bytes = some w) :
    ∃ b, (p.run (create bytes capacity layout)).bind finish = some b ∧ b.writer = w ∧
      Finished p layout b := by
  have hwrites := writes_run hp bytes capacity layout
  have hput' : (create bytes capacity layout).writer.put (encodeItems p.items) = some w := hput
  cases hresult : (p.run (create bytes capacity layout)).bind finish with
  | none =>
    rw [hresult] at hwrites
    cases hwrites with
    | full hnone =>
      rw [hput'] at hnone
      cases hnone
  | some b =>
    rw [hresult] at hwrites
    cases hwrites with
    | done hsome hfinished =>
      rw [hput'] at hsome
      exact ⟨b, rfl, (Option.some_inj.mp hsome).symm, hfinished⟩

/-- A run whose bytes do not fit. -/
theorem run_of_full (hp : p.Valid) {bytes : Option (List UInt8)} {capacity : ℕ}
    {layout : Option ReportLayout} (hput : ItemWriter.put { bytes, capacity } p.bytes = none) :
    (p.run (create bytes capacity layout)).bind finish = none := by
  have hwrites := writes_run hp bytes capacity layout
  have hput' : (create bytes capacity layout).writer.put (encodeItems p.items) = none := hput
  cases hresult : (p.run (create bytes capacity layout)).bind finish with
  | none => rfl
  | some b =>
    rw [hresult] at hwrites
    cases hwrites with
    | done hsome _ =>
      rw [hput'] at hsome
      cases hsome

end EmitterProgram

end LibaoaHid

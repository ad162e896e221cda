import LibaoaHid.Hid.ProgramSpans
import LibaoaHid.Profiles.Blueprints

/-!
# Field spans of generated profiles

The emitters pad to a byte boundary between groups of caller-sized fields. Inside a group there is
no padding: X and Y of a mouse or a pen, the two tilts of a pen, and the Contact Identifier, X and Y
of a contact. So a field over more than four bytes is a matter of the widths in these groups.

## Main definitions

* `FieldLayout.bytesTouched`: the bytes of its report that a field touches.
* `GeneratedOptions.SpansFit`: the widths of neighbours fit together.

## Main results

* `Passes.spansFit_iff`: the program of accepted options.
* `created_iff_spansFit`: the factories.
-/

namespace LibaoaHid

/-! ### Sequences -/

/-- The bytes of its report that a field touches. -/
def FieldLayout.bytesTouched (field : FieldLayout) : ℕ :=
  (field.bitOffset + field.bitWidth - 1) / 8 - field.bitOffset / 8 + 1

theorem bodySpansFit_append {bits : ℕ} {first second : List EmitterOp} :
    BodySpansFit bits (first ++ second) ↔
      BodySpansFit bits first ∧ BodySpansFit (bodyBits bits first) second := by
  induction first generalizing bits with
  | nil => exact (and_iff_right trivial).symm
  | cons op first ih =>
    rw [List.cons_append, BodySpansFit, BodySpansFit, ih, and_assoc]
    rfl

/-- Spans depend on the place in a byte only. -/
theorem bodySpansFit_mod {bits bits' : ℕ} (h : bits % 8 = bits' % 8) (ops : List EmitterOp) :
    BodySpansFit bits ops ↔ BodySpansFit bits' ops := by
  induction ops generalizing bits bits' with
  | nil => exact Iff.rfl
  | cons op ops ih =>
    have hspan : op.SpanFits bits ↔ op.SpanFits bits' := by
      cases op <;> unfold EmitterOp.SpanFits <;> simp [h]
    have hbits : (bits + op.bits bits) % 8 = (bits' + op.bits bits') % 8 := by
      cases op <;> simp only [EmitterOp.bits, padding] <;> omega
    rw [BodySpansFit, BodySpansFit, hspan, ih hbits]

section Pieces

variable {bits : ℕ} {ops : List EmitterOp} {rest : List (List EmitterOp)}

/-- Padding makes the operations behind it start on a byte boundary. -/
theorem spans_pad :
    BodySpansFit bits (List.flatten ([.pad] :: rest)) ↔ BodySpansFit 0 rest.flatten := by
  have hmod : (bits + padding bits) % 8 = 0 % 8 := by
    unfold padding
    omega
  exact (and_iff_right trivial).trans (bodySpansFit_mod hmod rest.flatten)

/-- An operation whose fields always touch at most four bytes. -/
theorem spans_free (h : ∀ op ∈ ops, ∀ bits, op.SpanFits bits) :
    BodySpansFit bits (List.flatten (ops :: rest)) ↔
      BodySpansFit (bodyBits bits ops) rest.flatten := by
  have hall : BodySpansFit bits ops := by
    induction ops generalizing bits with
    | nil => trivial
    | cons op ops ih =>
      obtain ⟨hop, hops⟩ := List.forall_mem_cons.mp h
      exact ⟨hop bits, ih hops⟩
  rw [List.flatten_cons, bodySpansFit_append]
  exact and_iff_right hall

/-- A field of the options. -/
theorem spans_field {d : VariableField} :
    BodySpansFit bits (List.flatten ([.field d] :: rest)) ↔
      bits % 8 + d.bitWidth ≤ 32 ∧ BodySpansFit (bits + d.bitWidth) rest.flatten := Iff.rfl

/-- A field on a byte boundary, with padding behind it. -/
theorem spans_padded {d : VariableField} (h : d.bitWidth ≤ 32) :
    BodySpansFit 0 (List.flatten ([.field d] :: [.pad] :: rest)) ↔ BodySpansFit 0 rest.flatten := by
  rw [spans_field, spans_pad]
  exact and_iff_right (by omega)

/-- A conditional field on a byte boundary, with padding behind it. -/
theorem spans_paddedIf {condition : Prop} [Decidable condition] {d : VariableField}
    (h : condition → d.bitWidth ≤ 32) :
    BodySpansFit 0 (List.flatten (opsIf condition [.field d] :: [.pad] :: rest)) ↔
      BodySpansFit 0 rest.flatten := by
  unfold opsIf
  split_ifs with hcondition
  · exact spans_padded (h hcondition)
  · exact spans_pad

/-- A conditional field on a byte boundary, with operations that always fit behind it. -/
theorem spans_fieldIf {condition : Prop} [Decidable condition] {d : VariableField}
    (h : condition → d.bitWidth ≤ 32) (hops : ∀ op ∈ ops, ∀ bits, op.SpanFits bits) :
    BodySpansFit 0 (List.flatten (opsIf condition [.field d] :: ops :: [.pad] :: rest)) ↔
      BodySpansFit 0 rest.flatten := by
  unfold opsIf
  split_ifs with hcondition
  · rw [spans_field, spans_free hops, spans_pad]
    have hwidth := h hcondition
    exact and_iff_right (by omega)
  · rw [List.flatten_cons, List.nil_append, spans_free hops, spans_pad]

/-- A conditional pair of fields on a byte boundary, with padding behind it. -/
theorem spans_pairIf {condition : Prop} [Decidable condition] {d e : VariableField}
    (h : condition → d.bitWidth ≤ 32) :
    BodySpansFit 0 (List.flatten (opsIf condition [.field d] :: opsIf condition [.field e] ::
        [.pad] :: rest)) ↔
      (condition → d.bitWidth % 8 + e.bitWidth ≤ 32) ∧ BodySpansFit 0 rest.flatten := by
  unfold opsIf
  split_ifs with hcondition
  · rw [spans_field, spans_field, spans_pad, Nat.zero_add]
    have hwidth := h hcondition
    refine (and_iff_right (by omega)).trans (and_congr_left fun _ => ?_)
    exact (imp_iff_right hcondition).symm
  · rw [List.flatten_cons, List.nil_append, List.flatten_cons, List.nil_append, spans_pad]
    exact (and_iff_right fun h => absurd h hcondition).symm

/-- A conditional field on a byte boundary at the end of a collection. -/
theorem spans_lastIf {condition : Prop} [Decidable condition] {d : VariableField}
    (h : condition → d.bitWidth ≤ 32) :
    BodySpansFit 0 (List.flatten [opsIf condition [.field d], [.close]]) := by
  unfold opsIf
  split_ifs with hcondition
  · have hwidth := h hcondition
    exact ⟨show 0 % 8 + d.bitWidth ≤ 32 by omega, trivial, trivial⟩
  · exact ⟨trivial, trivial⟩

/-- A loop whose turns fit under one condition. -/
theorem spans_loop {α : Type} {items : List α} {turn : α → List EmitterOp} {condition : Prop}
    (h : ∀ item ∈ items, ∀ bits, BodySpansFit bits (turn item) ↔ condition) :
    BodySpansFit bits (items.flatMap turn) ↔ ∀ item ∈ items, condition := by
  induction items generalizing bits with
  | nil => exact iff_of_true trivial (List.forall_mem_nil _)
  | cons item items ih =>
    obtain ⟨hitem, hitems⟩ := List.forall_mem_cons.mp h
    rw [List.flatMap_cons, bodySpansFit_append, hitem, ih hitems, List.forall_mem_cons]

/-- A one-bit control always fits. -/
theorem spanFits_bitOp {usagePage usage : ℕ} {relative noPreferred : Bool}
    {semantic : FieldSemantic} {instanceIndex : ℕ} (bits : ℕ) :
    (bitOp usagePage usage relative semantic instanceIndex noPreferred).SpanFits bits := by
  change bits % 8 + 1 ≤ 32
  omega

end Pieces

/-- The fields of one operation touch as many bytes as its spans say. -/
theorem EmitterOp.bytesTouched_fields {op : EmitterOp} (hop : op.Valid) {prefixes bits : ℕ}
    (hprefixed : prefixes = 0 ∨ prefixes = 8) :
    op.SpanFits bits ↔ ∀ field ∈ op.fields prefixes bits, field.bytesTouched ≤ 4 := by
  cases op with
  | field d =>
    obtain ⟨hpos, -, -⟩ := of_valueFits hop.fits
    rw [EmitterOp.fields, List.forall_mem_singleton]
    unfold FieldLayout.bytesTouched
    change bits % 8 + d.bitWidth ≤ 32 ↔
      (prefixes + bits + d.bitWidth - 1) / 8 - (prefixes + bits) / 8 + 1 ≤ 4
    rw [lastByte_sub_firstByte hpos]
    omega
  | range usagePage usageMinimum usageMaximum semantic =>
    refine iff_of_true trivial fun field hmem => ?_
    obtain ⟨index, -, rfl⟩ := List.mem_map.mp hmem
    change (prefixes + bits + index + 1 - 1) / 8 - (prefixes + bits + index) / 8 + 1 ≤ 4
    omega
  | pad =>
    refine iff_of_true trivial fun field hmem => ?_
    unfold EmitterOp.fields at hmem
    split_ifs at hmem with hzero
    · cases hmem
    · obtain rfl := List.mem_singleton.mp hmem
      have hlt : padding bits < 8 := Nat.mod_lt _ (by norm_num)
      change (prefixes + bits + padding bits - 1) / 8 - (prefixes + bits) / 8 + 1 ≤ 4
      omega
  | openLogical _ _ => exact iff_of_true trivial (List.forall_mem_nil _)
  | openPhysical _ _ => exact iff_of_true trivial (List.forall_mem_nil _)
  | close => exact iff_of_true trivial (List.forall_mem_nil _)

theorem bytesTouched_bodyFields {ops : List EmitterOp} (hops : ∀ op ∈ ops, op.Valid)
    {prefixes bits : ℕ} (hprefixed : prefixes = 0 ∨ prefixes = 8) :
    BodySpansFit bits ops ↔ ∀ field ∈ bodyFields prefixes bits ops, field.bytesTouched ≤ 4 := by
  induction ops generalizing bits with
  | nil => exact iff_of_true trivial (List.forall_mem_nil _)
  | cons op ops ih =>
    obtain ⟨hop, hops⟩ := List.forall_mem_cons.mp hops
    rw [bodyFields, List.forall_mem_append, BodySpansFit, op.bytesTouched_fields hop hprefixed,
      ih hops]

/-! ### Profiles -/

/-- Three fields in a row, the first of them on a byte boundary, touch at most four bytes each. -/
def TripleFits (first second third : IntegerField) : Prop :=
  first.bitWidth.toNat % 8 + second.bitWidth.toNat ≤ 32 ∧
    (first.bitWidth.toNat + second.bitWidth.toNat) % 8 + third.bitWidth.toNat ≤ 32

/-- Two fields in a row, the first of them on a byte boundary, touch at most four bytes each. -/
def PairFits (first second : IntegerField) : Prop :=
  first.bitWidth.toNat % 8 + second.bitWidth.toNat ≤ 32

namespace GeneratedOptions

/-- The widths of the fields without padding between them fit together. -/
def SpansFit : GeneratedOptions → Prop
  | mouse o => PairFits o.x o.y
  | touchscreen o => TripleFits o.contactIdentifier o.x o.y
  | touchpad o => TripleFits o.contactIdentifier o.x o.y
  | pen o => PairFits o.x o.y ∧ (o.enableTilt = 1 → PairFits o.tiltX o.tiltY)
  | _ => True

end GeneratedOptions

/-- The width of a field in a valid program. -/
theorem EmitterProgram.Valid.width_le {p : EmitterProgram} (hp : p.Valid) {d : VariableField}
    (hd : .field d ∈ p.body) : d.bitWidth ≤ 32 := (of_valueFits (hp.body _ hd).fits).2.1

/-- The width of a declared field is that of its operation. -/
theorem IntegerField.Valid.width_mod {field : IntegerField} (h : field.Valid) :
    field.bitWidth.toNat % 2 ^ 8 = field.bitWidth.toNat := by
  have := h.le
  exact Nat.mod_eq_of_lt (by omega)

theorem spansFit_mouse {o : MouseOptions} (hcheck : checkMouse o = none) :
    (mouseProgram o).SpansFit ↔ PairFits o.x o.y := by
  have hp := valid_mouseProgram hcheck
  simp only [checkMouse, firstRefusal_cons_eq_none, firstRefusal_nil, Option.map_eq_none_iff,
    and_true] at hcheck
  obtain ⟨-, ⟨-, -, hx, hy, -⟩, -⟩ := hcheck
  have hx := (declared_of_validateField hx).toValid
  have hy := (declared_of_validateField hy).toValid
  have hxWidth := hx.le
  have hwheel (henabled : o.enableWheel = 1) : o.wheel.bitWidth.toNat % 2 ^ 8 ≤ 32 := by
    have hmem : integerOp Usage.pageGenericDesktop Usage.wheel o.wheel true false .wheel 0 ∈
        (mouseProgram o).body := by simp [mouseProgram, opsIf, henabled]
    exact hp.width_le hmem
  have hpan (henabled : o.enablePan = 1) : o.pan.bitWidth.toNat % 2 ^ 8 ≤ 32 := by
    have hmem : integerOp Usage.pageConsumer Usage.acPan o.pan true false .pan 0 ∈
        (mouseProgram o).body := by simp [mouseProgram, opsIf, henabled]
    exact hp.width_le hmem
  unfold EmitterProgram.SpansFit mouseProgram integerOp
  dsimp only
  rw [spans_free (by simp [EmitterOp.SpanFits]), spans_free (by simp [EmitterOp.SpanFits]),
    spans_pad, spans_field, spans_field, spans_pad, spans_paddedIf hwheel, spans_paddedIf hpan]
  dsimp only
  rw [hx.width_mod, hy.width_mod, Nat.zero_add]
  exact ⟨fun h => h.2.1, fun h => ⟨by omega, h, trivial, trivial⟩⟩

/-- A loop of fields, each with padding behind it. -/
theorem spans_paddedLoop {α : Type} {items : List α} {d : α → VariableField}
    (h : ∀ item ∈ items, (d item).bitWidth ≤ 32) {rest : List (List EmitterOp)} :
    BodySpansFit 0 (List.flatten (items.flatMap (fun item => [.field (d item), .pad]) :: rest)) ↔
      BodySpansFit 0 rest.flatten := by
  induction items with
  | nil => exact Iff.rfl
  | cons item items ih =>
    obtain ⟨hitem, hitems⟩ := List.forall_mem_cons.mp h
    exact (spans_padded hitem).trans (ih hitems)

theorem spansFit_gamepad {o : GamepadOptions} {axes : Vector GamepadAxis o.axisCount}
    (hp : (gamepadProgram o axes).Valid) : (gamepadProgram o axes).SpansFit := by
  have haxis (index : Fin o.axisCount) (_ : index ∈ List.finRange o.axisCount) :
      axes[index].value.bitWidth.toNat % 2 ^ 8 ≤ 32 := by
    have hmem : integerOp axes[index].usagePage.toNat axes[index].usage.toNat axes[index].value
        false false .gamepadAxis (index.val % 2 ^ 16) ∈ (gamepadProgram o axes).body := by
      simp only [gamepadProgram, List.mem_flatten]
      refine ⟨_, List.mem_of_getElem? (i := 5) rfl, ?_⟩
      exact List.mem_flatMap.mpr ⟨index, List.mem_finRange index, List.mem_cons_self⟩
    exact hp.width_le hmem
  have hhat (henabled : o.dpadRepresentation = .hat) : (hatField o).bitWidth ≤ 32 := by
    have hmem : .field (hatField o) ∈ (gamepadProgram o axes).body := by
      simp [gamepadProgram, opsIf, henabled]
    exact hp.width_le hmem
  have hdpad : ∀ op ∈ opsIf (o.dpadRepresentation = .buttons) (dpadOps o), ∀ bits,
      op.SpanFits bits := by
    unfold opsIf dpadOps
    split_ifs
    · exact List.forall_mem_map.mpr fun index _ => spanFits_bitOp
    · exact List.forall_mem_nil _
  unfold EmitterProgram.SpansFit gamepadProgram axisOps integerOp
  dsimp only
  rw [spans_free (by simp [EmitterOp.SpanFits]), spans_pad, spans_fieldIf hhat hdpad,
    spans_paddedLoop haxis, spans_pad]
  trivial

theorem spansFit_keyboard (o : KeyboardOptions) : (keyboardProgram o).SpansFit := by
  unfold EmitterProgram.SpansFit keyboardProgram
  dsimp only
  rw [spans_free (by simp [EmitterOp.SpanFits]), spans_free (by simp [EmitterOp.SpanFits]),
    spans_pad]
  trivial

theorem spansFit_toggle (o : ToggleOptions) (allowedUsages : Vector UInt16 o.allowedUsageCount)
    (usageSemantics : Vector UsageSemantic o.allowedUsageCount) :
    (toggleProgram o allowedUsages usageSemantics).SpansFit := by
  unfold EmitterProgram.SpansFit toggleProgram
  dsimp only
  rw [spans_free (List.forall_mem_map.mpr fun index _ => spanFits_bitOp), spans_pad]
  trivial

theorem spansFit_battery {o : BatteryOptions} (hp : (batteryProgram o).Valid) :
    (batteryProgram o).SpansFit := by
  have hstrength : o.strength.bitWidth.toNat % 2 ^ 8 ≤ 32 := by
    have hmem : integerOp Usage.pageGenericDeviceControls Usage.batteryStrength o.strength false
        (o.enableUnknownNullState == 1) .batteryStrength 0 ∈ (batteryProgram o).body := by
      simp [batteryProgram]
    exact hp.width_le hmem
  unfold EmitterProgram.SpansFit batteryProgram integerOp
  dsimp only
  rw [spans_padded hstrength]
  trivial

/-- The width of an optional field of a valid program. -/
theorem width_optionalOp {p : EmitterProgram} (hp : p.Valid) {enable : UInt32} (usage : ℕ)
    {field : IntegerField} (semantic : FieldSemantic) (index : ℕ)
    (h : ∀ op ∈ optionalOp enable usage field semantic index, op ∈ p.body) :
    enable = 1 → field.bitWidth.toNat % 2 ^ 8 ≤ 32 := by
  intro henabled
  have hmem := h (integerOp Usage.pageDigitizers usage field false false semantic index)
    (by simp [optionalOp, opsIf, henabled])
  exact hp.width_le hmem

theorem spansFit_pen {o : PenOptions} (hcheck : checkPen o = none) :
    (penProgram o).SpansFit ↔
      PairFits o.x o.y ∧ (o.enableTilt = 1 → PairFits o.tiltX o.tiltY) := by
  have hp := valid_penProgram hcheck
  simp only [checkPen, firstRefusal_cons_eq_none, firstRefusal_nil, refuse_eq_none,
    Option.map_eq_none_iff, and_true] at hcheck
  obtain ⟨-, ⟨-, -, hx, hy, -⟩, ⟨-, htilt, -⟩, -⟩ := hcheck
  have hx := (declared_of_validateField hx).toValid
  have hy := (declared_of_validateField hy).toValid
  have hxWidth := hx.le
  have htilt (henabled : o.enableTilt = 1) : o.tiltX.Valid ∧ o.tiltY.Valid := by
    have hfields := eq_none_of_ite htilt henabled
    simp only [firstRefusal_cons_eq_none] at hfields
    exact ⟨(declared_of_validateField hfields.1).toValid,
      (declared_of_validateField hfields.2.1).toValid⟩
  have htiltX (henabled : o.enableTilt = 1) : o.tiltX.bitWidth.toNat % 2 ^ 8 ≤ 32 := by
    rw [(htilt henabled).1.width_mod]
    exact (htilt henabled).1.le
  have hpressure : o.enablePressure = 1 → o.pressure.bitWidth.toNat % 2 ^ 8 ≤ 32 :=
    width_optionalOp hp Usage.tipPressure .pressure 0 fun op hop => by simp [penProgram, hop]
  have htwist : o.enableTwistTargetSpecific = 1 → o.twist.bitWidth.toNat % 2 ^ 8 ≤ 32 :=
    width_optionalOp hp Usage.twist .twist 0 fun op hop => by simp [penProgram, hop]
  have heraser : ∀ op ∈ opsIf (o.enableEraser = 1)
      [bitOp Usage.pageDigitizers Usage.invert false .eraser 0], ∀ bits, op.SpanFits bits := by
    unfold opsIf
    split_ifs
    · exact List.forall_mem_singleton.mpr spanFits_bitOp
    · exact List.forall_mem_nil _
  have hbarrels : ∀ op ∈ barrelOps (penBarrelUsages o), ∀ bits, op.SpanFits bits :=
    List.forall_mem_map.mpr fun index _ => spanFits_bitOp
  unfold EmitterProgram.SpansFit penProgram optionalOp
  dsimp only
  rw [spans_free (by simp [EmitterOp.SpanFits]), spans_free heraser,
    spans_free (List.forall_mem_singleton.mpr spanFits_bitOp),
    spans_free (List.forall_mem_singleton.mpr spanFits_bitOp),
    spans_free hbarrels, spans_pad]
  unfold integerOp
  rw [spans_field, spans_field, spans_pad, spans_paddedIf hpressure, spans_pairIf htiltX,
    spans_paddedIf htwist]
  dsimp only
  rw [hx.width_mod, hy.width_mod, Nat.zero_add]
  constructor
  · rintro ⟨-, hpair, htilts, -⟩
    refine ⟨hpair, fun henabled => ?_⟩
    have hwidths := htilts henabled
    rw [(htilt henabled).1.width_mod, (htilt henabled).2.width_mod] at hwidths
    exact hwidths
  · rintro ⟨hpair, htilts⟩
    refine ⟨by omega, hpair, fun henabled => ?_, trivial, trivial⟩
    rw [(htilt henabled).1.width_mod, (htilt henabled).2.width_mod]
    exact htilts henabled

theorem spansFit_touch {name : String} {f : TouchFields} (hcheck : checkTouch name f = none)
    {applicationUsage : ℕ} (husage : applicationUsage < 2 ^ 16) :
    (touchProgram applicationUsage f).SpansFit ↔ TripleFits f.contactIdentifier f.x f.y := by
  have hp := valid_touchProgram hcheck husage
  have hf := accepted_of_checkTouch hcheck
  have hpos := hf.contactsPerReport_pos
  simp only [checkTouch, firstRefusal_cons_eq_none, firstRefusal_nil, refuse_eq_none,
    Option.map_eq_none_iff, and_true] at hcheck
  obtain ⟨⟨-, hx, hy, -⟩, ⟨hidentifier, hcount⟩, -⟩ := hcheck
  have hx := (declared_of_validateField hx).toValid
  have hy := (declared_of_validateField hy).toValid
  have hidentifier := (declared_of_validateField hidentifier).toValid
  have hcount := (declared_of_validateField hcount).toValid
  have hidentifierWidth := hidentifier.le
  have hcountWidth := hcount.le
  -- The operations of the first contact are operations of the program.
  have hcontact {enable : UInt32} (usage : ℕ) {field : IntegerField} (semantic : FieldSemantic)
      (h : ∀ op ∈ optionalOp enable usage field semantic 0, op ∈ contactOps f 0) :
      enable = 1 → field.bitWidth.toNat % 2 ^ 8 ≤ 32 := by
    refine width_optionalOp hp usage semantic 0 fun op hop => ?_
    refine List.mem_append_left _ (List.mem_flatMap.mpr ⟨0, List.mem_range.mpr hpos, h op hop⟩)
  have hpressure : f.enablePressure = 1 → f.pressure.bitWidth.toNat % 2 ^ 8 ≤ 32 :=
    hcontact Usage.tipPressure .pressure fun op hop => by simp [contactOps, hop]
  have hwidth : f.enableWidth = 1 → f.width.bitWidth.toNat % 2 ^ 8 ≤ 32 :=
    hcontact Usage.width .width fun op hop => by simp [contactOps, hop]
  have hheight : f.enableHeight = 1 → f.height.bitWidth.toNat % 2 ^ 8 ≤ 32 :=
    hcontact Usage.height .height fun op hop => by simp [contactOps, hop]
  have hazimuth : f.enableAzimuth = 1 → f.azimuth.bitWidth.toNat % 2 ^ 8 ≤ 32 :=
    hcontact Usage.azimuth .azimuth fun op hop => by simp [contactOps, hop]
  have hscanTime : f.enableScanTime = 1 → f.scanTime.bitWidth.toNat % 2 ^ 8 ≤ 32 :=
    width_optionalOp hp Usage.scanTime .scanTime 0 fun op hop => by simp [touchProgram, hop]
  have hturn (contact bits : ℕ) : BodySpansFit bits (contactOps f contact) ↔
      TripleFits f.contactIdentifier f.x f.y := by
    unfold contactOps optionalOp
    rw [spans_free (by simp [EmitterOp.SpanFits]),
      spans_free (List.forall_mem_singleton.mpr spanFits_bitOp), spans_pad]
    unfold integerOp
    rw [spans_field, spans_field, spans_field, spans_pad, spans_paddedIf hpressure,
      spans_paddedIf hwidth, spans_paddedIf hheight]
    dsimp only
    rw [hidentifier.width_mod, hx.width_mod, hy.width_mod, Nat.zero_add]
    exact ⟨fun h => ⟨h.2.1, h.2.2.1⟩, fun h => ⟨by omega, h.1, h.2, spans_lastIf hazimuth⟩⟩
  have hbuttons : ∀ op ∈ opsIf (f.buttonCount.toNat > 0)
      [.range Usage.pageButton 1 (f.buttonCount.toNat % 2 ^ 16) .buttons], ∀ bits,
      op.SpanFits bits := by
    unfold opsIf
    split_ifs
    · exact List.forall_mem_singleton.mpr fun _ => trivial
    · exact List.forall_mem_nil _
  unfold EmitterProgram.SpansFit touchProgram optionalOp
  dsimp only
  rw [List.flatten_cons, bodySpansFit_append, spans_loop fun contact _ => hturn contact, spans_pad]
  unfold integerOp
  rw [spans_paddedIf hscanTime, spans_field, spans_free hbuttons, spans_pad]
  dsimp only
  rw [hcount.width_mod]
  exact ⟨fun h => h.1 0 (List.mem_range.mpr hpos), fun h => ⟨fun _ _ => h, by omega, trivial⟩⟩

namespace GeneratedOptions

variable {options : GeneratedOptions} {p : EmitterProgram}

/-- **The program of accepted options** has no field over more than four bytes exactly when the
neighbours without padding between them fit together. -/
theorem Passes.spansFit_iff (h : Passes options p) : p.SpansFit ↔ options.SpansFit := by
  have hp := h.valid
  cases h with
  | keyboard _ => exact iff_of_true (spansFit_keyboard _) trivial
  | mouse hcheck => exact spansFit_mouse hcheck
  | toggle _ _ _ _ _ _ => exact iff_of_true (spansFit_toggle _ _ _) trivial
  | gamepad _ _ _ _ => exact iff_of_true (spansFit_gamepad hp) trivial
  | touchscreen _ _ hcheck => exact spansFit_touch hcheck (by decide)
  | touchpad _ _ hcheck => exact spansFit_touch hcheck (by decide)
  | pen hcheck _ => exact spansFit_pen hcheck
  | battery _ => exact iff_of_true (spansFit_battery hp) trivial

/-- **Which widths are accepted.** Accepted options with a small enough descriptor give a Spec whose
fields all touch at most four bytes, exactly when the neighbours without padding between them fit
together. Otherwise the factory refuses them with the span error. -/
theorem created_iff_spansFit (h : Passes options p) (hfits : p.bytes.length ≤ 65535) :
    (((∀ field ∈ p.layout.fields, field.bytesTouched ≤ 4) ∧
        ∃ spec, options.create = .ok spec ∧ spec.layout = p.layout) ↔ options.SpansFit) ∧
      (¬options.SpansFit → options.create = .error spanIssue.reply) := by
  have hp := h.valid
  have hcreate := h.create_of_fits hfits
  have hfields : p.SpansFit ↔ ∀ field ∈ p.layout.fields, field.bytesTouched ≤ 4 :=
    bytesTouched_bodyFields hp.body p.prefixBits_cases
  rw [← h.spansFit_iff, ← hfields]
  constructor
  · refine ⟨fun hall => hall.1, fun hspan => ⟨hspan, ?_⟩⟩
    rw [p.validateGenerated_of_spansFit hp hfits hspan] at hcreate
    obtain ⟨spec, hspec, -, hlayout, -⟩ := hcreate
    exact ⟨spec, hspec, hlayout⟩
  · intro hspan
    rw [p.validateGenerated_of_not_spansFit hp hfits hspan] at hcreate
    exact hcreate

end GeneratedOptions

/-- A mouse whose X has 31 bits and whose Y has 32. -/
def wideMouseOptions : MouseOptions where
  structSize := MouseOptions.size
  buttonCount := 8
  x := { logicalMinimum := -1000, logicalMaximum := 1000, bitWidth := 31 }
  y := { logicalMinimum := -1000, logicalMaximum := 1000, bitWidth := 32 }

theorem created_wideMouse :
    ¬∀ (options : GeneratedOptions) (p : EmitterProgram), options.Passes p →
      p.bytes.length ≤ 65535 → ∃ spec, options.create = .ok spec := by
  intro hall
  have hpasses : GeneratedOptions.Passes (.mouse wideMouseOptions)
    (mouseProgram wideMouseOptions) :=
    .mouse (by decide +kernel)
  obtain ⟨spec, hcreate⟩ := hall _ _ hpasses (by decide +kernel)
  have hrefused : (createMouse (some wideMouseOptions)).toOption.isSome = false := by
    decide +kernel
  change createMouse (some wideMouseOptions) = .ok spec at hcreate
  rw [hcreate] at hrefused
  cases hrefused

/-- A mouse whose X and Y have 16 bits each. -/
def evenMouseOptions : MouseOptions where
  structSize := MouseOptions.size
  buttonCount := 8
  x := { logicalMinimum := -1000, logicalMaximum := 1000, bitWidth := 16 }
  y := { logicalMinimum := -1000, logicalMaximum := 1000, bitWidth := 16 }

theorem created_iff_spansFit_evenMouse :
    ∃ spec, createMouse (some evenMouseOptions) = .ok spec ∧
      spec.layout = (mouseProgram evenMouseOptions).layout := by
  have hpasses : GeneratedOptions.Passes (.mouse evenMouseOptions)
    (mouseProgram evenMouseOptions) :=
    .mouse (by decide +kernel)
  exact ((GeneratedOptions.created_iff_spansFit hpasses (by decide +kernel)).1.mpr
    (show 16 % 8 + 16 ≤ 32 by norm_num)).2

end LibaoaHid

import LibaoaHid.Hid.ProgramRuns
import LibaoaHid.Profiles.Accepted

/-!
# The programs of the profiles

The emitter of every generated profile is a program: the list of its builder operations, with the
options filled in. An optional field is a list of one operation or none, and a loop is a list with
the operations of its turns.

## Main definitions

* `keyboardProgram`, `mouseProgram`, `toggleProgram`, `gamepadProgram`, `touchProgram`,
  `penProgram`, `batteryProgram`.

## Main results

* `emitKeyboard_eq`, `emitMouse_eq` and their siblings: an emitter runs its program.
-/

namespace LibaoaHid

open DescriptorBuilder

/-! ### Operations -/

/-- A field of the options. -/
def integerOp (usagePage usage : ℕ) (field : IntegerField) (relative nullState : Bool)
    (semantic : FieldSemantic) (instanceIndex : ℕ) : EmitterOp :=
  .field
    { usagePage
      usage
      logicalMinimum := field.logicalMinimum.toInt
      logicalMaximum := field.logicalMaximum.toInt
      bitWidth := field.bitWidth.toNat % 2 ^ 8
      relative
      nullState
      semantic
      instanceIndex
      physical := some field.physical }

/-- A one-bit control. -/
def bitOp (usagePage usage : ℕ) (relative : Bool) (semantic : FieldSemantic) (instanceIndex : ℕ)
    (noPreferred : Bool := false) : EmitterOp :=
  .field
    { usagePage
      usage
      logicalMinimum := 0
      logicalMaximum := 1
      bitWidth := 1
      relative
      nullState := false
      semantic
      instanceIndex
      noPreferred }

/-- Operations behind a condition. -/
def opsIf (condition : Prop) [Decidable condition] (ops : List EmitterOp) : List EmitterOp :=
  if condition then ops else []

/-- An optional field of a digitizer. -/
def optionalOp (enable : UInt32) (usage : ℕ) (field : IntegerField) (semantic : FieldSemantic)
    (instanceIndex : ℕ) : List EmitterOp :=
  opsIf (enable = 1)
    [integerOp Usage.pageDigitizers usage field false false semantic instanceIndex]

/-! ### Steps of emitters -/

section Steps

variable {b : DescriptorBuilder} {next : DescriptorBuilder → Option DescriptorBuilder}
  {rest : List (List EmitterOp)}

/-- An emitter is its program when the operations behind the Report ID are those of the
program. -/
theorem run_of_steps {p : EmitterProgram} {pieces : List (List EmitterOp)}
    (hbody : p.body = pieces.flatten)
    (hnext : ∀ b, (runFeature p.feature b).bind
      (runBody (pieces ++ [[EmitterOp.close]]).flatten) = next b) :
    p.run b = (b.beginApplication p.usagePage p.usage).bind fun b =>
      (b.setReportId p.enabled p.reportId).bind next := by
  rw [EmitterProgram.run_flatten hbody, funext hnext]

theorem step_of {ops : List EmitterOp} {result : Option DescriptorBuilder}
    (h : runBody ops b = result) (hnext : ∀ b, runBody rest.flatten b = next b) :
    runBody (List.flatten (ops :: rest)) b = result.bind next := by
  rw [List.flatten_cons, runBody_append, ← funext hnext, ← h]

/-- The end of the operations. -/
theorem step_last {op : EmitterOp} : runBody (List.flatten [[op]]) b = op.run b :=
  Option.bind_fun_some _

theorem step_op {op : EmitterOp} (hnext : ∀ b, runBody rest.flatten b = next b) :
    runBody (List.flatten ([op] :: rest)) b = (op.run b).bind next :=
  step_of (Option.bind_fun_some _) hnext

theorem runBody_opsIf (condition : Prop) [Decidable condition] (ops : List EmitterOp)
    (b : DescriptorBuilder) :
    runBody (opsIf condition ops) b = b.onlyIf condition (runBody ops) := by
  unfold opsIf onlyIf
  split_ifs
  · rfl
  · rfl

/-- A conditional operation. -/
theorem step_if {condition : Prop} [Decidable condition] {op : EmitterOp}
    (hnext : ∀ b, runBody rest.flatten b = next b) :
    runBody (List.flatten (opsIf condition [op] :: rest)) b =
      (b.onlyIf condition op.run).bind next := by
  refine step_of ?_ hnext
  rw [runBody_opsIf]
  exact congrArg _ (funext fun _ => Option.bind_fun_some _)

/-- A loop with one operation in each turn. -/
theorem step_map {α : Type} {items : List α} {op : α → EmitterOp}
    (hnext : ∀ b, runBody rest.flatten b = next b) :
    runBody (List.flatten (items.map op :: rest)) b =
      (items.foldlM (fun b item => (op item).run b) b).bind next :=
  step_of List.foldlM_map hnext

/-- A loop with some operations in each turn. -/
theorem step_flatMap {α : Type} {items : List α} {ops : α → List EmitterOp}
    {turn : α → DescriptorBuilder → Option DescriptorBuilder}
    (h : ∀ item b, runBody (ops item) b = turn item b)
    (hnext : ∀ b, runBody rest.flatten b = next b) :
    runBody (List.flatten (items.flatMap ops :: rest)) b =
      (items.foldlM (fun b item => turn item b) b).bind next := by
  refine step_of ?_ hnext
  induction items generalizing b with
  | nil => rfl
  | cons item items ih =>
    rw [List.flatMap_cons, runBody_append, List.foldlM_cons, ← h]
    exact congrArg _ (funext fun _ => ih)

end Steps

/-! ### Keyboard, mouse and battery -/

/-- The operations of `emitKeyboard`. -/
def keyboardProgram (o : KeyboardOptions) : EmitterProgram where
  usagePage := Usage.pageGenericDesktop
  usage := Usage.keyboard
  enabled := o.reportId.enabled == 1
  reportId := o.reportId.value.toNat
  body := List.flatten
    [[.range Usage.pageKeyboard Usage.keyboardLeftControl Usage.keyboardRightGui .modifier],
      [.range Usage.pageKeyboard o.usageMinimum.toNat o.usageMaximum.toNat .keyBitmap], [.pad]]

theorem emitKeyboard_eq (o : KeyboardOptions) (b : DescriptorBuilder) :
    emitKeyboard o b = (keyboardProgram o).run b := by
  symm
  refine run_of_steps (p := keyboardProgram o) rfl fun b => ?_
  refine step_op fun b => ?_
  refine step_op fun b => ?_
  refine step_op fun b => ?_
  exact step_last

/-- The operations of `emitMouse`. -/
def mouseProgram (o : MouseOptions) : EmitterProgram where
  usagePage := Usage.pageGenericDesktop
  usage := Usage.mouse
  enabled := o.reportId.enabled == 1
  reportId := o.reportId.value.toNat
  body := List.flatten
    [[.openPhysical Usage.pageGenericDesktop Usage.pointer],
      [.range Usage.pageButton 1 (o.buttonCount.toNat % 2 ^ 16) .buttons], [.pad],
      [integerOp Usage.pageGenericDesktop Usage.x o.x true false .x 0],
      [integerOp Usage.pageGenericDesktop Usage.y o.y true false .y 0], [.pad],
      opsIf (o.enableWheel = 1)
        [integerOp Usage.pageGenericDesktop Usage.wheel o.wheel true false .wheel 0], [.pad],
      opsIf (o.enablePan = 1)
        [integerOp Usage.pageConsumer Usage.acPan o.pan true false .pan 0], [.pad], [.close]]

theorem emitMouse_eq (o : MouseOptions) (b : DescriptorBuilder) :
    emitMouse o b = (mouseProgram o).run b := by
  symm
  refine run_of_steps (p := mouseProgram o) rfl fun b => ?_
  refine step_op fun b => ?_
  refine step_op fun b => ?_
  refine step_op fun b => ?_
  refine step_op fun b => ?_
  refine step_op fun b => ?_
  refine step_op fun b => ?_
  refine step_if fun b => ?_
  refine step_op fun b => ?_
  refine step_if fun b => ?_
  refine step_op fun b => ?_
  refine step_op fun b => ?_
  exact step_last

/-- The operations of `emitBattery`. -/
def batteryProgram (o : BatteryOptions) : EmitterProgram where
  usagePage := Usage.pageGenericDeviceControls
  usage := Usage.backgroundNonuserControls
  enabled := o.reportId.enabled == 1
  reportId := o.reportId.value.toNat
  body := List.flatten
    [[integerOp Usage.pageGenericDeviceControls Usage.batteryStrength o.strength false
      (o.enableUnknownNullState == 1) .batteryStrength 0], [.pad]]

theorem emitBattery_eq (o : BatteryOptions) (b : DescriptorBuilder) :
    emitBattery o b = (batteryProgram o).run b := by
  symm
  refine run_of_steps (p := batteryProgram o) rfl fun b => ?_
  refine step_op fun b => ?_
  refine step_op fun b => ?_
  exact step_last

/-! ### Toggle and gamepad -/

/-- The operations of `emitUsageControls`. -/
def toggleProgram (o : ToggleOptions) (allowedUsages : Vector UInt16 o.allowedUsageCount)
    (usageSemantics : Vector UsageSemantic o.allowedUsageCount) : EmitterProgram where
  usagePage := o.applicationPage.toNat
  usage := o.applicationUsage.toNat
  enabled := o.reportId.enabled == 1
  reportId := o.reportId.value.toNat
  body := List.flatten
    [(List.finRange o.allowedUsageCount).map fun index =>
      bitOp o.fieldPage.toNat (allowedUsages.get index).toNat
        (usageSemanticFlags (usageSemantics.get index)).relative .consumerUsage
        (index.val % 2 ^ 16) (usageSemanticFlags (usageSemantics.get index)).noPreferred, [.pad]]

theorem emitUsageControls_eq (o : ToggleOptions)
    (allowedUsages : Vector UInt16 o.allowedUsageCount)
    (usageSemantics : Vector UsageSemantic o.allowedUsageCount)
    (haccepted : ∀ index : Fin o.allowedUsageCount,
      (usageSemanticFlags (getElem usageSemantics index index.isLt)).accepted = true)
    (b : DescriptorBuilder) :
    emitUsageControls o allowedUsages usageSemantics b =
      (toggleProgram o allowedUsages usageSemantics).run b := by
  unfold emitUsageControls
  simp only [haccepted, Bool.not_true, Bool.false_eq_true, if_false]
  symm
  refine run_of_steps (p := toggleProgram o allowedUsages usageSemantics) rfl fun b => ?_
  refine step_map fun b => ?_
  refine step_op fun b => ?_
  exact step_last

/-- The D-pad buttons of `emitGamepad`. -/
def dpadOps (o : GamepadOptions) : List EmitterOp :=
  (List.finRange 4).map fun index =>
    bitOp Usage.pageGenericDesktop (dpadUsages.get index) false .buttons
      ((o.buttonCount.toNat + index) % 2 ^ 16) true

theorem runBody_dpadOps (o : GamepadOptions) (b : DescriptorBuilder) :
    runBody (opsIf (o.dpadRepresentation = .buttons) (dpadOps o)) b =
      b.onlyIf (o.dpadRepresentation = .buttons) fun b => (List.finRange 4).foldlM (fun b index =>
        b.bitVariable Usage.pageGenericDesktop (dpadUsages.get index) false .buttons
          ((o.buttonCount.toNat + index) % 2 ^ 16) true) b := by
  rw [runBody_opsIf]
  exact congrArg _ (funext fun _ => List.foldlM_map)

/-- The Hat Switch of `emitGamepad`. -/
def hatField (o : GamepadOptions) : VariableField where
  usagePage := Usage.pageGenericDesktop
  usage := Usage.hatSwitch
  logicalMinimum := o.hatLogicalMinimum.toInt
  logicalMaximum := o.hatLogicalMaximum.toInt
  bitWidth := o.hatBitWidth.toNat % 2 ^ 8
  relative := false
  nullState := true
  semantic := .hat
  instanceIndex := 0
  physical := some androidHatDegrees

/-- One turn of the axis loop of `emitGamepad`. -/
def axisOps {count : ℕ} (axes : Vector GamepadAxis count) (index : Fin count) : List EmitterOp :=
  [integerOp (axes.get index).usagePage.toNat (axes.get index).usage.toNat (axes.get index).value
    false false .gamepadAxis (index.val % 2 ^ 16), .pad]

theorem runBody_axisOps {count : ℕ} (axes : Vector GamepadAxis count) (index : Fin count)
    (b : DescriptorBuilder) :
    runBody (axisOps axes index) b = (b.integerVariable (axes.get index).usagePage.toNat
      (axes.get index).usage.toNat (axes.get index).value false false .gamepadAxis
        (index.val % 2 ^ 16)).bind padReport :=
  congrArg _ (funext fun _ => Option.bind_fun_some _)

/-- The operations of `emitGamepad`. -/
def gamepadProgram (o : GamepadOptions) (axes : Vector GamepadAxis o.axisCount) :
    EmitterProgram where
  usagePage := Usage.pageGenericDesktop
  usage := Usage.gamepad
  enabled := o.reportId.enabled == 1
  reportId := o.reportId.value.toNat
  body := List.flatten
    [[.range Usage.pageButton o.buttonUsageMinimum.toNat
        ((o.buttonUsageMinimum.toNat + o.buttonCount.toNat - 1) % 2 ^ 16) .buttons], [.pad],
      opsIf (o.dpadRepresentation = .hat)
        [.field (hatField o)],
      opsIf (o.dpadRepresentation = .buttons) (dpadOps o), [.pad],
      (List.finRange o.axisCount).flatMap (axisOps axes), [.pad]]

theorem emitGamepad_eq (o : GamepadOptions) (axes : Vector GamepadAxis o.axisCount)
    (b : DescriptorBuilder) : emitGamepad o axes b = (gamepadProgram o axes).run b := by
  symm
  refine run_of_steps (p := gamepadProgram o axes) rfl fun b => ?_
  refine step_op fun b => ?_
  refine step_op fun b => ?_
  refine step_if fun b => ?_
  refine step_of (runBody_dpadOps o _) fun b => ?_
  refine step_op fun b => ?_
  refine step_flatMap (runBody_axisOps axes) fun b => ?_
  refine step_op fun b => ?_
  exact step_last

/-! ### Touch and pen -/

/-- The operations of `emitContact`. -/
def contactOps (f : TouchFields) (contact : ℕ) : List EmitterOp :=
  List.flatten
    [[.openLogical Usage.pageDigitizers Usage.finger],
      [bitOp Usage.pageDigitizers Usage.tipSwitch false .tip (contact % 2 ^ 16)], [.pad],
      [integerOp Usage.pageDigitizers Usage.contactIdentifier f.contactIdentifier false false
        .contactId (contact % 2 ^ 16)],
      [integerOp Usage.pageGenericDesktop Usage.x f.x false false .x (contact % 2 ^ 16)],
      [integerOp Usage.pageGenericDesktop Usage.y f.y false false .y (contact % 2 ^ 16)], [.pad],
      optionalOp f.enablePressure Usage.tipPressure f.pressure .pressure (contact % 2 ^ 16), [.pad],
      optionalOp f.enableWidth Usage.width f.width .width (contact % 2 ^ 16), [.pad],
      optionalOp f.enableHeight Usage.height f.height .height (contact % 2 ^ 16), [.pad],
      optionalOp f.enableAzimuth Usage.azimuth f.azimuth .azimuth (contact % 2 ^ 16), [.close]]

theorem runBody_contactOps (f : TouchFields) (contact : ℕ) (b : DescriptorBuilder) :
    runBody (contactOps f contact) b = emitContact f contact b := by
  refine step_op fun b => ?_
  refine step_op fun b => ?_
  refine step_op fun b => ?_
  refine step_op fun b => ?_
  refine step_op fun b => ?_
  refine step_op fun b => ?_
  refine step_op fun b => ?_
  refine step_if fun b => ?_
  refine step_op fun b => ?_
  refine step_if fun b => ?_
  refine step_op fun b => ?_
  refine step_if fun b => ?_
  refine step_op fun b => ?_
  refine step_if fun b => ?_
  exact step_last

/-- The operations of `emitTouch`. -/
def touchProgram (applicationUsage : ℕ) (f : TouchFields) : EmitterProgram where
  usagePage := Usage.pageDigitizers
  usage := applicationUsage
  enabled := f.reportId.enabled == 1
  reportId := f.reportId.value.toNat
  feature :=
    if f.enableContactCountMaximumFeatureDeclaration = 1 then
      some
        { usagePage := Usage.pageDigitizers
          usage := Usage.contactCountMaximum
          logicalMinimum := 0
          logicalMaximum := f.maximumContacts.toNat
          bitWidth := f.contactCount.bitWidth.toNat % 2 ^ 8 }
    else none
  body := List.flatten
    [(List.range f.contactsPerReport.toNat).flatMap (contactOps f), [.pad],
      optionalOp f.enableScanTime Usage.scanTime f.scanTime .scanTime 0, [.pad],
      [integerOp Usage.pageDigitizers Usage.contactCount f.contactCount false false
        .contactCount 0],
      opsIf (f.buttonCount.toNat > 0)
        [.range Usage.pageButton 1 (f.buttonCount.toNat % 2 ^ 16) .buttons], [.pad]]

theorem emitTouch_eq (applicationUsage : ℕ) (f : TouchFields) (b : DescriptorBuilder) :
    emitTouch applicationUsage f b = (touchProgram applicationUsage f).run b := by
  have hfeature (b : DescriptorBuilder) : runFeature (touchProgram applicationUsage f).feature b =
      b.onlyIf (f.enableContactCountMaximumFeatureDeclaration = 1) fun b =>
        b.featureStaticValue Usage.pageDigitizers Usage.contactCountMaximum 0
          f.maximumContacts.toNat (f.contactCount.bitWidth.toNat % 2 ^ 8) := by
    unfold touchProgram onlyIf
    dsimp only
    split_ifs <;> rfl
  symm
  refine run_of_steps (p := touchProgram applicationUsage f) rfl fun b => ?_
  rw [hfeature]
  refine congrArg _ (funext fun b => ?_)
  refine step_flatMap (runBody_contactOps f) fun b => ?_
  refine step_op fun b => ?_
  refine step_if fun b => ?_
  refine step_op fun b => ?_
  refine step_op fun b => ?_
  refine step_if fun b => ?_
  refine step_op fun b => ?_
  exact step_last

/-- The barrel buttons of `emitPen`. -/
def barrelOps (barrelUsages : List UInt16) : List EmitterOp :=
  (List.finRange barrelUsages.length).map fun index =>
    bitOp Usage.pageDigitizers (barrelUsages.get index).toNat false .buttons (index.val % 2 ^ 16)

/-- The operations of `emitPen`. -/
def penProgram (o : PenOptions) : EmitterProgram where
  usagePage := Usage.pageDigitizers
  usage := if o.mode = .directScreen then Usage.pen else Usage.digitizer
  enabled := o.reportId.enabled == 1
  reportId := o.reportId.value.toNat
  body := List.flatten
    [[.openPhysical Usage.pageDigitizers Usage.stylus],
      opsIf (o.enableEraser = 1) [bitOp Usage.pageDigitizers Usage.invert false .eraser 0],
      [bitOp Usage.pageDigitizers Usage.tipSwitch false .tip 0],
      [bitOp Usage.pageDigitizers Usage.inRange false .inRange 0], barrelOps (penBarrelUsages o),
      [.pad], [integerOp Usage.pageGenericDesktop Usage.x o.x false false .x 0],
      [integerOp Usage.pageGenericDesktop Usage.y o.y false false .y 0], [.pad],
      optionalOp o.enablePressure Usage.tipPressure o.pressure .pressure 0, [.pad],
      optionalOp o.enableTilt Usage.xTilt o.tiltX .tiltX 0,
      optionalOp o.enableTilt Usage.yTilt o.tiltY .tiltY 0, [.pad],
      optionalOp o.enableTwistTargetSpecific Usage.twist o.twist .twist 0, [.pad], [.close]]

theorem emitPen_eq (o : PenOptions) (b : DescriptorBuilder) :
    emitPen o b = (penProgram o).run b := by
  symm
  refine run_of_steps (p := penProgram o) rfl fun b => ?_
  refine step_op fun b => ?_
  refine step_if fun b => ?_
  refine step_op fun b => ?_
  refine step_op fun b => ?_
  refine step_map fun b => ?_
  refine step_op fun b => ?_
  refine step_op fun b => ?_
  refine step_op fun b => ?_
  refine step_op fun b => ?_
  refine step_if fun b => ?_
  refine step_op fun b => ?_
  refine step_if fun b => ?_
  refine step_if fun b => ?_
  refine step_op fun b => ?_
  refine step_if fun b => ?_
  refine step_op fun b => ?_
  refine step_op fun b => ?_
  exact step_last

end LibaoaHid

import LibaoaHid.Hid.Usages
import LibaoaHid.Profiles.SpecChecks

/-!
# Spec factories of the button and axis profiles

The Keyboard, Mouse, Toggle, Gamepad and Battery factories of `src/profiles/spec.cpp`. A factory
checks its options in the order of the source and gives the first refusal, or builds the Spec
from its emitter.

## Main definitions

* `createKeyboard`, `createMouse`, `createToggle`, `createGamepad`, `createBattery`.
* `emitKeyboard`, `emitMouse`, `emitUsageControls`, `emitGamepad`, `emitBattery`.
* `checkKeyboard`, `checkMouse`, `checkToggle`, `checkGamepad`, `checkBattery`: the refusals.
-/

namespace LibaoaHid

/-- `variable` for a field that the caller declared as an `aoahid_integer_field`. -/
def DescriptorBuilder.integerVariable (b : DescriptorBuilder) (usagePage usage : ℕ)
    (field : IntegerField) (relative nullState : Bool) (semantic : FieldSemantic)
    (instanceIndex : ℕ) : Option DescriptorBuilder :=
  b.variableField usagePage usage field.logicalMinimum.toInt field.logicalMaximum.toInt
    (field.bitWidth.toNat % 2 ^ 8) relative nullState semantic instanceIndex false
    (some field.physical)

/-- `variable` for a one-bit control. -/
def DescriptorBuilder.bitVariable (b : DescriptorBuilder) (usagePage usage : ℕ)
    (relative : Bool) (semantic : FieldSemantic) (instanceIndex : ℕ)
    (noPreferred : Bool := false) : Option DescriptorBuilder :=
  b.variableField usagePage usage 0 1 1 relative false semantic instanceIndex noPreferred

/-- A step of an emitter behind a condition. -/
def DescriptorBuilder.onlyIf (b : DescriptorBuilder) (condition : Prop) [Decidable condition]
    (operation : DescriptorBuilder → Option DescriptorBuilder) : Option DescriptorBuilder :=
  if condition then operation b else some b

/-- `set_report_id` with the declaration of the options. -/
def DescriptorBuilder.declareReportId (b : DescriptorBuilder) (option : ReportIdOption) :
    Option DescriptorBuilder :=
  b.setReportId (option.enabled == 1) option.value.toNat

/-! ### Keyboard -/

/-- The refusals of `aoahid_spec_create_keyboard_impl`. -/
def checkKeyboard (o : KeyboardOptions) : Option Reply :=
  firstRefusal [
    (structRefusal (some o.structSize) KeyboardOptions.size "keyboard_options").map
      (Reply.mk .errParam),
    (firstRefusal [
        refuseIf (o.reserved ≠ 0),
        validateReportId o.reportId "keyboard.report_id"]).map fun _ =>
      .fail .errParam "keyboard.reserved" "reserved must be zero.",
    refuse (o.usageMinimum.toNat < 0x04 ∨ o.usageMaximum.toNat < o.usageMinimum.toNat)
      (.fail .errParam "keyboard.usage_range"
        ("The declared non-modifier Usage range must be ordered and exclude the reserved " ++
          "keyboard error selectors 0x00 through 0x03.")),
    refuse (o.usageMinimum.toNat ≤ Usage.keyboardRightGui ∧
        o.usageMaximum.toNat ≥ Usage.keyboardLeftControl)
      (.fail .errParam "keyboard.usage_range"
        "The non-modifier bitmap cannot duplicate modifier Usages 0xE0 through 0xE7.")]

/-- The emitter of `aoahid_spec_create_keyboard_impl`. -/
def emitKeyboard (o : KeyboardOptions) (b : DescriptorBuilder) : Option DescriptorBuilder := do
  let b ← b.beginApplication Usage.pageGenericDesktop Usage.keyboard
  let b ← b.declareReportId o.reportId
  let b ← b.variableRange Usage.pageKeyboard Usage.keyboardLeftControl Usage.keyboardRightGui 1
    .modifier
  let b ← b.variableRange Usage.pageKeyboard o.usageMinimum.toNat o.usageMaximum.toNat 1
    .keyBitmap
  let b ← padReport b
  b.endCollection

/-- `aoahid_spec_create_keyboard`; no options stand for the null pointer. -/
def createKeyboard : Option KeyboardOptions → Except Reply Spec
  | none => .error ⟨.errParam, clearError⟩
  | some o =>
    match checkKeyboard o with
    | some reply => .error reply
    | none => buildGeneratedSpec .keyboard .conditional (.keyboard ⟨o⟩) (emitKeyboard o)

/-! ### Mouse -/

/-- The refusals of `aoahid_spec_create_mouse_impl`. -/
def checkMouse (o : MouseOptions) : Option Reply :=
  firstRefusal [
    (structRefusal (some o.structSize) MouseOptions.size "mouse_options").map
      (Reply.mk .errParam),
    (firstRefusal [
        refuseIf (o.reserved ≠ 0),
        validateReportId o.reportId "mouse.report_id",
        validateField o.x "mouse.x",
        validateField o.y "mouse.y",
        refuseIf (o.x.logicalMinimum.toInt ≥ 0 ∨ o.x.logicalMaximum.toInt ≤ 0),
        refuseIf (o.y.logicalMinimum.toInt ≥ 0 ∨ o.y.logicalMaximum.toInt ≤ 0),
        refuseIf (o.buttonCount.toNat = 0 ∨ o.buttonCount.toNat > 65535),
        validateOptionBoolean o.enableWheel "mouse.enable_wheel",
        validateOptionBoolean o.enablePan "mouse.enable_pan"]).map fun _ =>
      .fail .errParam "mouse_options"
        ("The mouse options require valid relative X/Y fields, at least one button, valid " ++
          "flags, and zero reserved data."),
    (firstRefusal [
        if o.enableWheel = 1 then validateField o.wheel "mouse.wheel" else none,
        if o.enablePan = 1 then validateField o.pan "mouse.pan" else none]).map
      (Reply.mk .errParam),
    refuse ((o.enableWheel = 0 ∧ !fieldIsZero o.wheel) ∨ (o.enablePan = 0 ∧ !fieldIsZero o.pan))
      (.fail .errParam "mouse.disabled_fields"
        "Disabled wheel and pan declarations must be canonical zero."),
    refuse
      ((o.enableWheel = 1 ∧
          (o.wheel.logicalMinimum.toInt ≥ 0 ∨ o.wheel.logicalMaximum.toInt ≤ 0)) ∨
        (o.enablePan = 1 ∧ (o.pan.logicalMinimum.toInt ≥ 0 ∨ o.pan.logicalMaximum.toInt ≤ 0)))
      (.fail .errParam "mouse.scroll_range"
        ("Portable relative wheel and pan ranges must represent negative, zero, and " ++
          "positive deltas."))]

/-- The emitter of `aoahid_spec_create_mouse_impl`. -/
def emitMouse (o : MouseOptions) (b : DescriptorBuilder) : Option DescriptorBuilder := do
  let b ← b.beginApplication Usage.pageGenericDesktop Usage.mouse
  let b ← b.declareReportId o.reportId
  let b ← b.beginPhysical Usage.pageGenericDesktop Usage.pointer
  let b ← b.variableRange Usage.pageButton 1 (o.buttonCount.toNat % 2 ^ 16) 1 .buttons
  let b ← padReport b
  let b ← b.integerVariable Usage.pageGenericDesktop Usage.x o.x true false .x 0
  let b ← b.integerVariable Usage.pageGenericDesktop Usage.y o.y true false .y 0
  let b ← padReport b
  let b ← b.onlyIf (o.enableWheel = 1) fun b =>
    b.integerVariable Usage.pageGenericDesktop Usage.wheel o.wheel true false .wheel 0
  let b ← padReport b
  let b ← b.onlyIf (o.enablePan = 1) fun b =>
    b.integerVariable Usage.pageConsumer Usage.acPan o.pan true false .pan 0
  let b ← padReport b
  let b ← b.endCollection
  b.endCollection

/-- `aoahid_spec_create_mouse`. -/
def createMouse : Option MouseOptions → Except Reply Spec
  | none => .error ⟨.errParam, clearError⟩
  | some o =>
    match checkMouse o with
    | some reply => .error reply
    | none => buildGeneratedSpec .mouse .portableCandidate (.mouse ⟨o⟩) (emitMouse o)

/-! ### Toggle -/

/-- `UsageSemanticFlags`. -/
structure UsageSemanticFlags where
  accepted : Bool
  relative : Bool
  noPreferred : Bool

/-- `usage_semantic_flags`. -/
def usageSemanticFlags : UsageSemantic → UsageSemanticFlags
  | .selectorBitmap | .momentary | .retrigger => ⟨true, false, false⟩
  | .onOffToggle | .oneShot => ⟨true, true, false⟩
  | .onOffMaintained => ⟨true, false, true⟩
  | .onOffPair | .linear | .dynamicValue | .namedArray | .undefined _ => ⟨false, false, false⟩

/-- One turn of the Usage loop of `create_usage_control_spec`. -/
def checkUsage (o : ToggleOptions) (allowedUsages : Vector UInt16 o.allowedUsageCount)
    (usageSemantics : Vector UsageSemantic o.allowedUsageCount)
    (eventTypes codes : Vector (Option String) o.allowedUsageCount)
    (index : Fin o.allowedUsageCount) : Option Reply :=
  let usage := allowedUsages[index]
  let semantic := usageSemantics[index]
  let isCamera := o.fieldPage.toNat = Usage.pageCameraControl
  firstRefusal [
    refuse (usage = 0 ∨ missingString eventTypes[index] ∨ missingString codes[index])
      (.fail .errParam "toggle.allowed_usages"
        ("Every nonzero Usage requires explicit expected Linux event type and code " ++
          "evidence.")),
    refuse (usage ∈ allowedUsages.toList.take index)
      (.fail .errParam "toggle.allowed_usages"
        "Each Usage may appear only once in the allow-list."),
    refuse (o.applicationPage = o.fieldPage ∧ usage = o.applicationUsage)
      (.fail .errParam "toggle.allowed_usages"
        "The Application Collection Usage is not an Input control Usage."),
    refuse
      (!(usageSemanticFlags semantic).accepted ∧
        semantic ∈ [.onOffPair, .linear, .dynamicValue, .namedArray])
      (.fail .errUnsupported "toggle.usage_semantics"
        ("This HUT semantic requires a value, direction, or collection API; " ++
          "it cannot be represented by press/release.")),
    refuse (!(usageSemanticFlags semantic).accepted)
      (.fail .errParam "toggle.usage_semantics"
        "Every Usage must select one defined aoahid_usage_semantic value."),
    refuse (isCamera ∧ usage.toNat ≠ Usage.cameraAutoFocus ∧ usage.toNat ≠ Usage.cameraShutter)
      (.fail .errParam "toggle.allowed_usages"
        ("HUT 1.7 Camera Control defines Auto-focus 0x20 and Shutter " ++
          "0x21; no other Usage exists on that page.")),
    refuse (isCamera ∧ semantic ≠ .oneShot)
      (.fail .errUnsupported "toggle.usage_semantics"
        "HUT 1.7 Table 35.1 defines Auto-focus and Shutter as One Shot Controls.")]

/-- The refusals of `create_usage_control_spec` before its Usage loop. -/
def checkToggle (o : ToggleOptions) : Option Reply :=
  firstRefusal [
    (structRefusal (some o.structSize) ToggleOptions.size "toggle_options").map
      (Reply.mk .errParam),
    (firstRefusal [
        refuseIf (o.reserved ≠ 0 ∨ o.reserved16 ≠ 0),
        validateReportId o.reportId "toggle.report_id"]).map fun _ =>
      .fail .errParam "toggle.reserved"
        "reserved fields must be zero and the Report ID declaration must be valid.",
    refuse (o.applicationPage = 0 ∨ o.applicationUsage = 0 ∨ o.fieldPage = 0)
      (.fail .errUnsetField "toggle.application"
        "application_page, application_usage, and field_page are required."),
    refuse (o.allowedUsages = none ∨ o.allowedUsageCount = 0)
      (.fail .errUnsetField "toggle.allowed_usages"
        "At least one caller-selected Usage is required."),
    refuse (o.usageSemantics = none)
      (.fail .errUnsetField "toggle.usage_semantics"
        "Every allow-listed Usage needs an explicit HUT semantic."),
    refuse (o.expectedLinuxEventTypes = none ∨ o.expectedLinuxCodes = none)
      (.fail .errUnsetField "toggle.expected_linux_events"
        "Every allow-listed Usage needs explicit target-event evidence."),
    refuse (o.allowedUsageCount > 65535)
      (.fail .errOverflow "toggle.allowed_usage_count"
        "The generated layout cannot index this many one-bit controls.")]

/-- `emit_usage_controls`. -/
def emitUsageControls (o : ToggleOptions) (allowedUsages : Vector UInt16 o.allowedUsageCount)
    (usageSemantics : Vector UsageSemantic o.allowedUsageCount) (b : DescriptorBuilder) :
    Option DescriptorBuilder := do
  let b ← b.beginApplication o.applicationPage.toNat o.applicationUsage.toNat
  let b ← b.declareReportId o.reportId
  let b ← (List.finRange o.allowedUsageCount).foldlM (fun b index =>
    let flags := usageSemanticFlags usageSemantics[index]
    if !flags.accepted then none
    else
      b.bitVariable o.fieldPage.toNat allowedUsages[index].toNat flags.relative .consumerUsage
        (index.val % 2 ^ 16) flags.noPreferred) b
  let b ← padReport b
  b.endCollection

/-- `aoahid_spec_create_toggle`: the arrays are those of the options, once the checks found
them. -/
def createToggle : Option ToggleOptions → Except Reply Spec
  | none => .error ⟨.errParam, clearError⟩
  | some o =>
    match checkToggle o with
    | some reply => .error reply
    | none =>
      match o.allowedUsages, o.usageSemantics, o.expectedLinuxEventTypes,
          o.expectedLinuxCodes with
      | some allowedUsages, some usageSemantics, some eventTypes, some codes =>
        match (List.finRange o.allowedUsageCount).findSome?
            (checkUsage o allowedUsages usageSemantics eventTypes codes) with
        | some reply => .error reply
        | none =>
          buildGeneratedSpec .toggle .conditional
            (.consumer
              { options := { o with
                  allowedUsages := none
                  usageSemantics := none
                  expectedLinuxEventTypes := none
                  expectedLinuxCodes := none }
                allowedUsages := allowedUsages.toList
                usageSemantics := usageSemantics.toList
                expectedLinuxEventTypes := eventTypes.toList.map (·.getD "")
                expectedLinuxCodes := codes.toList.map (·.getD "") })
            (emitUsageControls o allowedUsages usageSemantics)
      | _, _, _, _ => .error ⟨.errParam, clearError⟩

/-! ### Gamepad -/

/-- `controller_axis_usage`: the Usage Page and Usage of a role. -/
def controllerAxisUsage : AxisRole → Option (ℕ × ℕ)
  | .x => some (Usage.pageGenericDesktop, Usage.x)
  | .y => some (Usage.pageGenericDesktop, Usage.y)
  | .z => some (Usage.pageGenericDesktop, Usage.z)
  | .rx => some (Usage.pageGenericDesktop, Usage.rx)
  | .ry => some (Usage.pageGenericDesktop, Usage.ry)
  | .rz => some (Usage.pageGenericDesktop, Usage.rz)
  | .slider => some (Usage.pageGenericDesktop, Usage.slider)
  | .dial => some (Usage.pageGenericDesktop, Usage.dial)
  | .wheel => some (Usage.pageGenericDesktop, Usage.wheel)
  | .simulationRudder => some (Usage.pageSimulation, Usage.simulationRudder)
  | .simulationThrottle => some (Usage.pageSimulation, Usage.simulationThrottle)
  | .simulationAccelerator => some (Usage.pageSimulation, Usage.simulationAccelerator)
  | .simulationBrake => some (Usage.pageSimulation, Usage.simulationBrake)
  | .simulationSteering => some (Usage.pageSimulation, Usage.simulationSteering)
  | .undefined _ => none

/-- `controller_axis_domain_matches_usage`. -/
def controllerAxisDomainMatchesUsage (axis : GamepadAxis) : Bool :=
  let minimum := axis.value.logicalMinimum.toInt
  let maximum := axis.value.logicalMaximum.toInt
  match axis.role with
  | .simulationAccelerator | .simulationBrake | .simulationThrottle =>
    decide (minimum = 0 ∧ maximum > 0 ∧ axis.neutralValue.toInt = 0)
  | .simulationSteering | .simulationRudder =>
    decide (minimum < 0 ∧ maximum > 0 ∧ axis.neutralValue.toInt = 0)
  | _ => true

/-- One turn of the axis loop of `create_controller_spec`. -/
def checkAxis {count : ℕ} (axes : Vector GamepadAxis count) (index : Fin count) :
    Option Reply :=
  let axis := axes[index]
  firstRefusal [
    refuse (controllerAxisUsage axis.role ≠ some (axis.usagePage.toNat, axis.usage.toNat))
      (.fail .errParam "gamepad.axes.role"
        "Each axis role must match its audited HUT 1.7 Usage Page and Usage."),
    refuse (axis.role ∈ (axes.toList.take index).map (·.role))
      (.fail .errParam "gamepad.axes.role"
        "Each controller axis role may be declared only once."),
    (firstRefusal [
        validateField axis.value "gamepad.axes.value",
        refuseIf (axis.neutralValue.toInt < axis.value.logicalMinimum.toInt ∨
          axis.neutralValue.toInt > axis.value.logicalMaximum.toInt),
        refuseIf (axis.usagePage = 0 ∨ axis.usage = 0),
        refuseIf (missingString axis.expectedLinuxCode),
        refuseIf (missingString axis.expectedAndroidAxis)]).map fun _ =>
      .fail .errUnsetField "gamepad.axes"
        "Every axis requires Usage, range, width, Linux code, and Android axis evidence.",
    refuse (!controllerAxisDomainMatchesUsage axis)
      (.fail .errParam "gamepad.axes.value"
        ("Simulation Accelerator, Brake, and Throttle require a zero-to-positive " ++
          "range with zero neutral; Steering and Rudder require a signed range " ++
          "around zero with zero neutral."))]

/-- The refusals of `create_controller_spec` before its axis loop. -/
def checkGamepad (o : GamepadOptions) : Option Reply :=
  firstRefusal [
    (structRefusal (some o.structSize) GamepadOptions.size "gamepad_options").map
      (Reply.mk .errParam),
    (firstRefusal [
        refuseIf (o.reserved ≠ 0),
        validateReportId o.reportId "gamepad.report_id",
        refuseIf (o.axes.isNone ∨ o.axisCount < 2),
        refuseIf (o.buttonCount.toNat = 0 ∨ o.buttonCount.toNat > 65535),
        refuseIf (o.buttonUsageMinimum = 0),
        refuseIf (o.dpadRepresentation ≠ .none ∧ o.dpadRepresentation ≠ .hat ∧
          o.dpadRepresentation ≠ .buttons)]).map fun _ =>
      .fail .errParam "gamepad"
        "A gamepad requires explicit axes, at least one button, and valid flags.",
    refuse (o.axisCount > 65535)
      (.fail .errOverflow "gamepad.axis_count"
        "The generated layout cannot index more than 65535 controller axes."),
    refuse (o.buttonUsageMinimum.toNat + o.buttonCount.toNat - 1 > 65535)
      (.fail .errOverflow "gamepad.button_usage_minimum"
        "The declared button Usage range exceeds the 16-bit Usage value space."),
    refuse (o.dpadRepresentation = .buttons ∧ o.buttonCount.toNat > 65535 - 3)
      (.fail .errOverflow "gamepad.button_count"
        "Four D-pad fields must fit the layout's 16-bit field-instance space.")]

/-- The refusals of `create_controller_spec` behind its axis loop. -/
def checkDpad (o : GamepadOptions) (axes : Vector GamepadAxis o.axisCount) : Option Reply :=
  firstRefusal [
    refuse (!(axes.toList.any (·.role == .x)) ∨ !(axes.toList.any (·.role == .y)))
      (.fail .errParam "gamepad.axes"
        "The portable candidate requires explicitly declared X and Y axes."),
    refuse
      (o.dpadRepresentation = .hat ∧
        (o.hatLogicalMinimum.toInt ≠ 0 ∨ o.hatLogicalMaximum.toInt ≠ 7 ∨ o.hatBitWidth ≠ 4 ∨
          !hasNullEncoding o.hatLogicalMinimum.toInt o.hatLogicalMaximum.toInt
            o.hatBitWidth.toNat))
      (.fail .errParam "gamepad.hat"
        ("The Android portable-candidate Hat must explicitly select logical 0..7 " ++
          "in four bits and leave an encoding for Null State.")),
    refuse
      (o.dpadRepresentation ≠ .hat ∧
        (o.hatLogicalMinimum ≠ 0 ∨ o.hatLogicalMaximum ≠ 0 ∨ o.hatBitWidth ≠ 0))
      (.fail .errParam "gamepad.hat"
        "Hat range fields must be canonical zero unless the D-pad is a Hat Switch.")]

/-- `kAndroidHatDegrees`. -/
def androidHatDegrees : PhysicalProperties :=
  { enabled := 1, minimum := 0, maximum := 315, unitExponent := 0, unit := 0x14 }

/-- The Usages of the four D-pad buttons. -/
def dpadUsages : List ℕ := [Usage.dpadUp, Usage.dpadDown, Usage.dpadRight, Usage.dpadLeft]

/-- The emitter of `create_controller_spec`. -/
def emitGamepad (o : GamepadOptions) (axes : Vector GamepadAxis o.axisCount)
    (b : DescriptorBuilder) : Option DescriptorBuilder := do
  let b ← b.beginApplication Usage.pageGenericDesktop Usage.gamepad
  let b ← b.declareReportId o.reportId
  let b ← b.variableRange Usage.pageButton o.buttonUsageMinimum.toNat
    ((o.buttonUsageMinimum.toNat + o.buttonCount.toNat - 1) % 2 ^ 16) 1 .buttons
  let b ← padReport b
  let b ← b.onlyIf (o.dpadRepresentation = .hat) fun b =>
    b.variableField Usage.pageGenericDesktop Usage.hatSwitch o.hatLogicalMinimum.toInt
      o.hatLogicalMaximum.toInt (o.hatBitWidth.toNat % 2 ^ 8) false true .hat 0 false
      (some androidHatDegrees)
  let b ← b.onlyIf (o.dpadRepresentation = .buttons) fun b =>
    (List.finRange 4).foldlM (fun b index =>
      b.bitVariable Usage.pageGenericDesktop (dpadUsages.get index) false .buttons
        ((o.buttonCount.toNat + index) % 2 ^ 16) true) b
  let b ← padReport b
  let b ← (List.finRange o.axisCount).foldlM (fun b index => do
    let axis := axes[index]
    let b ← b.integerVariable axis.usagePage.toNat axis.usage.toNat axis.value false false
      .gamepadAxis (index.val % 2 ^ 16)
    padReport b) b
  let b ← padReport b
  b.endCollection

/-- `aoahid_spec_create_gamepad`. -/
def createGamepad : Option GamepadOptions → Except Reply Spec
  | none => .error ⟨.errParam, clearError⟩
  | some o =>
    match checkGamepad o with
    | some reply => .error reply
    | none =>
      match o.axes with
      | none => .error ⟨.errParam, clearError⟩
      | some axes =>
        match firstRefusal
            [(List.finRange o.axisCount).findSome? (checkAxis axes), checkDpad o axes] with
        | some reply => .error reply
        | none =>
          let hasAndroidAbxy := o.buttonUsageMinimum = 1 ∧ o.buttonCount.toNat ≥ 5
          let androidStatus : AndroidStatus :=
            if o.dpadRepresentation ≠ .hat ∨ ¬hasAndroidAbxy then .conditional
            else .portableCandidate
          buildGeneratedSpec .gamepad androidStatus
            (.gamepad
              { options := { o with axes := none }
                axes := axes.toList.map fun axis =>
                  { axis := { axis with expectedLinuxCode := none, expectedAndroidAxis := none }
                    expectedLinuxCode := axis.expectedLinuxCode.getD ""
                    expectedAndroidAxis := axis.expectedAndroidAxis.getD "" } })
            (emitGamepad o axes)

/-! ### Battery -/

/-- The refusals of `aoahid_spec_create_battery_impl`. -/
def checkBattery (o : BatteryOptions) : Option Reply :=
  firstRefusal [
    (structRefusal (some o.structSize) BatteryOptions.size "battery_options").map
      (Reply.mk .errParam),
    (firstRefusal [
        refuseIf (o.reserved ≠ 0),
        validateReportId o.reportId "battery.report_id",
        validateField o.strength "battery.strength",
        refuseIf (o.strength.logicalMinimum.toInt < 0 ∨
          o.strength.logicalMaximum.toInt ≤ o.strength.logicalMinimum.toInt),
        validateOptionBoolean o.enableUnknownNullState "battery.enable_unknown_null_state",
        refuseIf (o.enableUnknownNullState = 1 ∧
          !hasNullEncoding o.strength.logicalMinimum.toInt o.strength.logicalMaximum.toInt
            o.strength.bitWidth.toNat)]).map fun _ =>
      .fail .errParam "battery"
        ("Battery Strength requires an ordered nonnegative range; enabled unknown state " ++
          "requires an unused encoding.")]

/-- The emitter of `aoahid_spec_create_battery_impl`. -/
def emitBattery (o : BatteryOptions) (b : DescriptorBuilder) : Option DescriptorBuilder := do
  let b ← b.beginApplication Usage.pageGenericDeviceControls Usage.backgroundNonuserControls
  let b ← b.declareReportId o.reportId
  let b ← b.integerVariable Usage.pageGenericDeviceControls Usage.batteryStrength o.strength
    false (o.enableUnknownNullState == 1) .batteryStrength 0
  let b ← padReport b
  b.endCollection

/-- `aoahid_spec_create_battery`. -/
def createBattery : Option BatteryOptions → Except Reply Spec
  | none => .error ⟨.errParam, clearError⟩
  | some o =>
    match checkBattery o with
    | some reply => .error reply
    | none => buildGeneratedSpec .battery .conditional (.battery ⟨o⟩) (emitBattery o)

end LibaoaHid

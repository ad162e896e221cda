import LibaoaHid.Profiles.ControlSpecs

/-!
# Spec factories of the digitizer profiles

The Touchscreen, Touchpad and Pen factories of `src/profiles/spec.cpp`. Touchscreen and Touchpad
differ in their identity, their diagnostic names and their buttons only, so both are built from
one set of fields.

## Main definitions

* `createTouchscreen`, `createTouchpad`, `createPen`.
* `touchFieldsFrom`, `checkTouch`, `emitContact`, `emitTouch`.
* `checkPen`, `emitPen`.
-/

namespace LibaoaHid

/-! ### Touch -/

/-- `touch_fields_from`, for the options of both touch profiles. -/
def touchFieldsFrom (o : TouchscreenOptions) : TouchFields :=
  { reportId := o.reportId
    maximumContacts := o.maximumContacts
    contactsPerReport := o.contactsPerReport
    contactIdentifier := o.contactIdentifier
    x := o.x
    y := o.y
    contactCount := o.contactCount
    enablePressure := o.enablePressure
    pressure := o.pressure
    enableWidth := o.enableWidth
    width := o.width
    enableHeight := o.enableHeight
    height := o.height
    enableAzimuth := o.enableAzimuth
    azimuth := o.azimuth
    enableScanTime := o.enableScanTime
    scanTime := o.scanTime
    scanTimeUnit100us := o.scanTimeUnit100us
    enableContactCountMaximumFeatureDeclaration := o.enableContactCountMaximumFeatureDeclaration
    enableMultiPacketFrames := o.enableMultiPacketFrames }

/-- The refusals of `create_touch_spec_from_fields`. The names of a profile differ by the word
in front of the dot. -/
def checkTouch (name : String) (f : TouchFields) : Option Reply :=
  firstRefusal [
    (firstRefusal [
        validateReportId f.reportId (name ++ ".report_id"),
        validateField f.x (name ++ ".x"),
        validateField f.y (name ++ ".y"),
        refuseIf (f.x.logicalMinimum.toInt > 0 ∨ f.x.logicalMaximum.toInt < 0),
        refuseIf (f.y.logicalMinimum.toInt > 0 ∨ f.y.logicalMaximum.toInt < 0),
        refuseIf (f.maximumContacts.toNat = 0 ∨ f.maximumContacts.toNat > 16),
        refuseIf (f.contactsPerReport.toNat = 0 ∨
          f.contactsPerReport.toNat > f.maximumContacts.toNat),
        validateOptionBoolean f.enablePressure (name ++ ".enable_pressure"),
        validateOptionBoolean f.enableWidth (name ++ ".enable_width"),
        validateOptionBoolean f.enableHeight (name ++ ".enable_height"),
        validateOptionBoolean f.enableAzimuth (name ++ ".enable_azimuth"),
        validateOptionBoolean f.enableScanTime (name ++ ".enable_scan_time"),
        validateOptionBoolean f.scanTimeUnit100us (name ++ ".scan_time_unit_100us"),
        validateOptionBoolean f.enableContactCountMaximumFeatureDeclaration
          (name ++ ".enable_contact_count_maximum_feature_declaration"),
        validateOptionBoolean f.enableMultiPacketFrames
          (name ++ ".enable_multi_packet_frames")]).map fun _ =>
      .fail .errParam (name ++ ".fields")
        "The touch options contain an invalid required field, range, count, or flag.",
    (firstRefusal [
        validateField f.contactIdentifier (name ++ ".contact_identifier"),
        validateField f.contactCount (name ++ ".contact_count")]).map fun _ =>
      .fail .errParam (name ++ ".contact_fields")
        ("Fixed-slot Multi-Touch requires explicit Contact Identifier and Contact Count " ++
          "fields."),
    refuse (f.contactCount.logicalMinimum.toInt > 0 ∨
        f.contactCount.logicalMaximum.toInt < f.maximumContacts.toNat)
      (.fail .errParam (name ++ ".contact_count")
        ("Contact Count must represent zero through maximum_contacts even though " ++
          "fixed-slot output never emits an isolated zero frame.")),
    refuse (f.contactIdentifier.logicalMinimum.toInt > 0 ∨
        f.contactIdentifier.logicalMaximum.toInt < 0 ∨
        f.contactIdentifier.logicalMaximum.toInt + 1 < f.maximumContacts.toNat)
      (.fail .errParam (name ++ ".contact_identifier")
        ("The Contact Identifier range must represent zero for inactive slots and at " ++
          "least maximum_contacts distinct nonnegative API IDs.")),
    refuse (f.enableMultiPacketFrames = 0 ∧ f.contactsPerReport ≠ f.maximumContacts)
      (.fail .errParam (name ++ ".contacts_per_report")
        "Without multi-packet frames every declared contact must fit one report."),
    refuse (f.enablePressure = 1 ∧
        (validateField f.pressure (name ++ ".pressure") ≠ none ∨
          f.pressure.logicalMinimum.toInt ≠ 0 ∨ f.pressure.logicalMaximum.toInt < 1))
      (.fail .errParam (name ++ ".pressure")
        ("Enabled touch pressure must explicitly represent zero and at least one positive " ++
          "contact value.")),
    refuse ((f.enablePressure = 0 ∧ !fieldIsZero f.pressure) ∨
        (f.enableWidth = 0 ∧ !fieldIsZero f.width) ∨
        (f.enableHeight = 0 ∧ !fieldIsZero f.height) ∨
        (f.enableAzimuth = 0 ∧ !fieldIsZero f.azimuth) ∨
        (f.enableScanTime = 0 ∧ (!fieldIsZero f.scanTime ∨ f.scanTimeUnit100us ≠ 0)))
      (.fail .errParam (name ++ ".disabled_fields")
        "Disabled pressure, geometry, and Scan Time declarations must be canonical zero."),
    refuse (f.enableAzimuth = 1 ∧
        (validateField f.azimuth (name ++ ".azimuth") ≠ none ∨
          f.azimuth.logicalMinimum.toInt ≠ 0 ∨ f.azimuth.logicalMaximum.toInt ≤ 0))
      (.fail .errParam (name ++ ".azimuth")
        ("Enabled Azimuth requires logical minimum zero and a positive full-turn logical " ++
          "maximum.")),
    (if f.enableWidth = 1 then validateField f.width (name ++ ".width") else none).map
      (Reply.mk .errParam),
    (if f.enableHeight = 1 then validateField f.height (name ++ ".height") else none).map
      (Reply.mk .errParam),
    refuse ((f.enableWidth = 1 ∧
          (f.width.logicalMinimum.toInt > 0 ∨ f.width.logicalMaximum.toInt < 0)) ∨
        (f.enableHeight = 1 ∧
          (f.height.logicalMinimum.toInt > 0 ∨ f.height.logicalMaximum.toInt < 0)))
      (.fail .errParam (name ++ ".inactive_geometry")
        "Enabled width and height fields must represent zero for inactive fixed slots."),
    refuse ((f.enableWidth = 1 ∧ !physicalUnitsMatch f.width.physical f.x.physical) ∨
        (f.enableHeight = 1 ∧ !physicalUnitsMatch f.height.physical f.y.physical))
      (.fail .errParam (name ++ ".geometry_units")
        ("HUT Width must use the same HID Unit and Unit Exponent as X, and Height must " ++
          "use the same Unit and Unit Exponent as Y.")),
    refuse (f.enableScanTime = 1 ∧
        (validateField f.scanTime (name ++ ".scan_time") ≠ none ∨ f.scanTimeUnit100us ≠ 1 ∨
          f.scanTime.logicalMinimum.toInt ≠ 0 ∨ f.scanTime.logicalMaximum.toInt < 1 ∨
          !physicalIsZero f.scanTime.physical))
      (.fail .errParam (name ++ ".scan_time")
        "The portable Linux profile requires an explicit 100-microsecond Scan Time counter."),
    refuse (f.buttonCount.toNat > 65535)
      (.fail .errOverflow (name ++ ".button_count")
        "The Button Usage range cannot exceed the 16-bit Usage value space.")]

/-- An optional field of a contact, declared when its flag is one. -/
def DescriptorBuilder.optionalVariable (b : DescriptorBuilder) (enable : UInt32) (usage : ℕ)
    (field : IntegerField) (semantic : FieldSemantic) (instanceIndex : ℕ) :
    Option DescriptorBuilder :=
  b.onlyIf (enable = 1) fun b =>
    b.integerVariable Usage.pageDigitizers usage field false false semantic instanceIndex

/-- One turn of the contact loop of the touch emitter: the Finger collection of a slot. -/
def emitContact (f : TouchFields) (contact : ℕ) (b : DescriptorBuilder) :
    Option DescriptorBuilder := do
  let b ← b.beginLogical Usage.pageDigitizers Usage.finger
  let b ← b.bitVariable Usage.pageDigitizers Usage.tipSwitch false .tip (contact % 2 ^ 16)
  let b ← padReport b
  let b ← b.integerVariable Usage.pageDigitizers Usage.contactIdentifier f.contactIdentifier
    false false .contactId (contact % 2 ^ 16)
  let b ← b.integerVariable Usage.pageGenericDesktop Usage.x f.x false false .x
    (contact % 2 ^ 16)
  let b ← b.integerVariable Usage.pageGenericDesktop Usage.y f.y false false .y
    (contact % 2 ^ 16)
  let b ← padReport b
  let b ← b.optionalVariable f.enablePressure Usage.tipPressure f.pressure .pressure
    (contact % 2 ^ 16)
  let b ← padReport b
  let b ← b.optionalVariable f.enableWidth Usage.width f.width .width (contact % 2 ^ 16)
  let b ← padReport b
  let b ← b.optionalVariable f.enableHeight Usage.height f.height .height (contact % 2 ^ 16)
  let b ← padReport b
  let b ← b.optionalVariable f.enableAzimuth Usage.azimuth f.azimuth .azimuth (contact % 2 ^ 16)
  b.endCollection

/-- The emitter of `create_touch_spec_from_fields`. -/
def emitTouch (applicationUsage : ℕ) (f : TouchFields) (b : DescriptorBuilder) :
    Option DescriptorBuilder := do
  let b ← b.beginApplication Usage.pageDigitizers applicationUsage
  let b ← b.declareReportId f.reportId
  let b ← b.onlyIf (f.enableContactCountMaximumFeatureDeclaration = 1) fun b =>
    b.featureStaticValue Usage.pageDigitizers Usage.contactCountMaximum 0
      f.maximumContacts.toNat (f.contactCount.bitWidth.toNat % 2 ^ 8)
  let b ← (List.range f.contactsPerReport.toNat).foldlM
    (fun b contact => emitContact f contact b) b
  let b ← padReport b
  let b ← b.optionalVariable f.enableScanTime Usage.scanTime f.scanTime .scanTime 0
  let b ← padReport b
  let b ← b.integerVariable Usage.pageDigitizers Usage.contactCount f.contactCount false false
    .contactCount 0
  let b ← b.onlyIf (f.buttonCount.toNat > 0) fun b =>
    b.variableRange Usage.pageButton 1 (f.buttonCount.toNat % 2 ^ 16) 1 .buttons
  let b ← padReport b
  b.endCollection

/-- `create_touch_spec_from_fields`. -/
def createTouchSpecFromFields (f : TouchFields) (name : String) (kind : ProfileKind)
    (applicationUsage : ℕ) (androidStatus : AndroidStatus) : Except Reply Spec :=
  match checkTouch name f with
  | some reply => .error reply
  | none =>
    buildGeneratedSpec kind androidStatus (.touch ⟨f⟩) (emitTouch applicationUsage f)

/-- `aoahid_spec_create_touchscreen`. -/
def createTouchscreen : Option TouchscreenOptions → Except Reply Spec
  | none => .error ⟨.errParam, clearError⟩
  | some o =>
    match firstRefusal [
        (structRefusal (some o.structSize) TouchscreenOptions.size "touchscreen_options").map
          (Reply.mk .errParam),
        refuse (o.reserved ≠ 0)
          (.fail .errParam "touchscreen_options"
            "The touch options contain an invalid required field, range, count, or flag.")] with
    | some reply => .error reply
    | none =>
      createTouchSpecFromFields { touchFieldsFrom o with buttonCount := 0 } "touch" .touchscreen
        Usage.touchScreen .portableCandidate

/-- `aoahid_spec_create_touchpad`. -/
def createTouchpad : Option TouchpadOptions → Except Reply Spec
  | none => .error ⟨.errParam, clearError⟩
  | some o =>
    match firstRefusal [
        (structRefusal (some o.structSize) TouchpadOptions.size "touchpad_options").map
          (Reply.mk .errParam),
        refuse (o.reserved ≠ 0)
          (.fail .errParam "touchpad_options"
            "The touchpad options contain an invalid required field, range, count, or flag.")] with
    | some reply => .error reply
    | none =>
      createTouchSpecFromFields
        { touchFieldsFrom o.toTouchscreenOptions with buttonCount := o.buttonCount } "touchpad"
        .touchpad Usage.touchPad .conditional

/-! ### Pen -/

/-- The refusals of `aoahid_spec_create_pen_impl` before its barrel loop. The first three of
them keep the record of the failing check when it carries `AOAHID_ERR_PARAM`. -/
def checkPen (o : PenOptions) : Option Reply :=
  firstRefusal [
    (structRefusal (some o.structSize) PenOptions.size "pen_options").map fun recorded =>
      finishResult recorded .errParam "pen_options"
        "The pen options contain an invalid required field.",
    (firstRefusal [
        refuseIf (o.reserved ≠ 0),
        validateReportId o.reportId "pen.report_id",
        validateField o.x "pen.x",
        validateField o.y "pen.y",
        refuseIf (o.x.logicalMinimum.toInt > 0 ∨ o.x.logicalMaximum.toInt < 0),
        refuseIf (o.y.logicalMinimum.toInt > 0 ∨ o.y.logicalMaximum.toInt < 0),
        validateOptionBoolean o.enablePressure "pen.enable_pressure",
        validateOptionBoolean o.enableTilt "pen.enable_tilt",
        validateOptionBoolean o.enableTwistTargetSpecific "pen.enable_twist_target_specific",
        validateOptionBoolean o.enableEraser "pen.enable_eraser",
        validateOptionBoolean o.enableHover "pen.enable_hover",
        refuseIf (o.barrelUsageCount > 32),
        refuseIf (o.barrelUsageCount ≠ 0 ∧ o.barrelUsages.isNone),
        refuseIf (o.mode ≠ .directScreen ∧ o.mode ≠ .indirectTablet)]).map fun recorded =>
      finishResult recorded .errParam "pen_options"
        "An enabled pen field has an invalid range or bit width.",
    (firstRefusal [
        if o.enablePressure = 1 then
          firstRefusal [
            validateField o.pressure "pen.pressure",
            refuseIf (o.pressure.logicalMinimum.toInt ≠ 0 ∨
              o.pressure.logicalMaximum.toInt < 1)]
        else none,
        if o.enableTilt = 1 then
          firstRefusal [
            validateField o.tiltX "pen.tilt_x",
            validateField o.tiltY "pen.tilt_y"]
        else none,
        if o.enableTwistTargetSpecific = 1 then validateField o.twist "pen.twist" else none]).map
      fun recorded =>
        finishResult recorded .errParam "pen.fields"
          "An enabled pen field has an invalid range or bit width.",
    refuse ((o.enablePressure = 0 ∧ !fieldIsZero o.pressure) ∨
        (o.enableTilt = 0 ∧ (!fieldIsZero o.tiltX ∨ !fieldIsZero o.tiltY)) ∨
        (o.enableTwistTargetSpecific = 0 ∧ !fieldIsZero o.twist) ∨
        (o.barrelUsageCount = 0 ∧ o.barrelUsages.isSome))
      (.fail .errParam "pen.disabled_fields"
        ("Disabled optional pen declarations and absent barrel storage must be canonical " ++
          "zero/null.")),
    refuse ((o.enableTilt = 1 ∧
          (o.tiltX.logicalMinimum.toInt > 0 ∨ o.tiltX.logicalMaximum.toInt < 0 ∨
            o.tiltY.logicalMinimum.toInt > 0 ∨ o.tiltY.logicalMaximum.toInt < 0)) ∨
        (o.enableTwistTargetSpecific = 1 ∧
          (o.twist.logicalMinimum.toInt > 0 ∨ o.twist.logicalMaximum.toInt < 0)))
      (.fail .errParam "pen.neutral_fields"
        "Enabled tilt and twist fields must represent zero for hover and departure reports.")]

/-- The barrel Usages that the configuration keeps. -/
def penBarrelUsages (o : PenOptions) : List UInt16 :=
  if o.barrelUsageCount ≠ 0 then (o.barrelUsages.map (·.toList)).getD [] else []

/-- One turn of the barrel loop of `aoahid_spec_create_pen_impl`. -/
def checkBarrel (barrelUsages : List UInt16) (index : Fin barrelUsages.length) : Option Reply :=
  let usage := barrelUsages.get index
  refuse ((usage.toNat ≠ Usage.barrelSwitch ∧ usage.toNat ≠ Usage.secondaryBarrelSwitch) ∨
      usage ∈ barrelUsages.take index)
    (.fail .errParam "pen.barrel_usages"
      ("Each barrel control must be a unique HUT 1.7 Barrel Switch (0x44) or " ++
        "Secondary Barrel Switch (0x5A)."))

/-- The emitter of `aoahid_spec_create_pen_impl`. -/
def emitPen (o : PenOptions) (b : DescriptorBuilder) : Option DescriptorBuilder := do
  let application := if o.mode = .directScreen then Usage.pen else Usage.digitizer
  let b ← b.beginApplication Usage.pageDigitizers application
  let b ← b.declareReportId o.reportId
  let b ← b.beginPhysical Usage.pageDigitizers Usage.stylus
  let b ← b.onlyIf (o.enableEraser = 1) fun b =>
    b.bitVariable Usage.pageDigitizers Usage.invert false .eraser 0
  let b ← b.bitVariable Usage.pageDigitizers Usage.tipSwitch false .tip 0
  let b ← b.bitVariable Usage.pageDigitizers Usage.inRange false .inRange 0
  let barrelUsages := penBarrelUsages o
  let b ← (List.finRange barrelUsages.length).foldlM (fun b index =>
    b.bitVariable Usage.pageDigitizers (barrelUsages.get index).toNat false .buttons
      (index.val % 2 ^ 16)) b
  let b ← padReport b
  let b ← b.integerVariable Usage.pageGenericDesktop Usage.x o.x false false .x 0
  let b ← b.integerVariable Usage.pageGenericDesktop Usage.y o.y false false .y 0
  let b ← padReport b
  let b ← b.optionalVariable o.enablePressure Usage.tipPressure o.pressure .pressure 0
  let b ← padReport b
  let b ← b.optionalVariable o.enableTilt Usage.xTilt o.tiltX .tiltX 0
  let b ← b.optionalVariable o.enableTilt Usage.yTilt o.tiltY .tiltY 0
  let b ← padReport b
  let b ← b.optionalVariable o.enableTwistTargetSpecific Usage.twist o.twist .twist 0
  let b ← padReport b
  let b ← b.endCollection
  b.endCollection

/-- `aoahid_spec_create_pen`. -/
def createPen : Option PenOptions → Except Reply Spec
  | none =>
    .error (finishResult clearError .errParam "pen_options"
      "The pen options contain an invalid required field.")
  | some o =>
    let barrelUsages := penBarrelUsages o
    match firstRefusal
        [checkPen o, (List.finRange barrelUsages.length).findSome? (checkBarrel barrelUsages)] with
    | some reply => .error reply
    | none =>
      buildGeneratedSpec .pen
        (if o.mode = .directScreen then .portableCandidate else .conditional)
        (.pen { options := { o with barrelUsages := none }, barrelUsages }) (emitPen o)

/-! ### Generated Specs -/

/-- A Spec that one of the eight generated factories accepted. -/
inductive Generated : Spec → Prop
  | keyboard {o : KeyboardOptions} {spec : Spec} :
      createKeyboard (some o) = .ok spec → Generated spec
  | mouse {o : MouseOptions} {spec : Spec} : createMouse (some o) = .ok spec → Generated spec
  | toggle {o : ToggleOptions} {spec : Spec} : createToggle (some o) = .ok spec → Generated spec
  | gamepad {o : GamepadOptions} {spec : Spec} :
      createGamepad (some o) = .ok spec → Generated spec
  | touchscreen {o : TouchscreenOptions} {spec : Spec} :
      createTouchscreen (some o) = .ok spec → Generated spec
  | touchpad {o : TouchpadOptions} {spec : Spec} :
      createTouchpad (some o) = .ok spec → Generated spec
  | pen {o : PenOptions} {spec : Spec} : createPen (some o) = .ok spec → Generated spec
  | battery {o : BatteryOptions} {spec : Spec} :
      createBattery (some o) = .ok spec → Generated spec

end LibaoaHid

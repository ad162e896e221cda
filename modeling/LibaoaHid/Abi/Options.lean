import LibaoaHid.Abi.Result

/-!
# Option structures of the C ABI

The structures that the Spec factories read (`include/aoahid.h`). The fixed-width integers of
the ABI keep their types, so a value outside an `int32_t` cannot be written down. An
enumeration of the ABI is an `int32_t`; every value without a name is `undefined`.

A pointer to an array of `n` elements is an `Option` of a vector of length `n`, with `none`
for the null pointer. Sizes are those of an LP64 target.

## Main definitions

* `PhysicalProperties`, `IntegerField`, `ReportIdOption`.
* `KeyboardOptions`, `MouseOptions`, `ToggleOptions`, `GamepadOptions`, `TouchscreenOptions`,
  `TouchpadOptions`, `PenOptions`, `BatteryOptions`, `RawOptions`, `NodeOptions`.
* `TouchExtra`, `PenSample`: the arguments of `aoahid_touch` and `aoahid_pen_update`.
-/

namespace LibaoaHid

/-! ### Enumerations -/

/-- `aoahid_profile_kind`. -/
inductive ProfileKind
  | keyboard
  | mouse
  | toggle
  | gamepad
  | touchscreen
  | pen
  | battery
  | raw
  | touchpad
  deriving DecidableEq, Repr

/-- `aoahid_android_status`. -/
inductive AndroidStatus
  | portableCandidate
  | conditional
  | customSystemOnly
  | unsupported
  | unknown
  deriving DecidableEq, Repr

/-- `aoahid_pen_mode`. -/
inductive PenMode
  | directScreen
  | indirectTablet
  | undefined (value : Int32)
  deriving DecidableEq

/-- `aoahid_axis_role`. -/
inductive AxisRole
  | x
  | y
  | z
  | rx
  | ry
  | rz
  | slider
  | simulationAccelerator
  | simulationBrake
  | simulationSteering
  | dial
  | wheel
  | simulationRudder
  | simulationThrottle
  | undefined (value : Int32)
  deriving DecidableEq

/-- `aoahid_dpad_representation`. -/
inductive DpadRepresentation
  | none
  | hat
  | buttons
  | undefined (value : Int32)
  deriving DecidableEq

/-- `aoahid_usage_semantic`. -/
inductive UsageSemantic
  | selectorBitmap
  | onOffToggle
  | onOffMaintained
  | momentary
  | oneShot
  | retrigger
  | onOffPair
  | linear
  | dynamicValue
  | namedArray
  | undefined (value : Int32)
  deriving DecidableEq

/-! ### Fields -/

/-- `aoahid_physical_properties`. -/
structure PhysicalProperties where
  enabled : UInt32 := 0
  minimum : Int32 := 0
  maximum : Int32 := 0
  unitExponent : Int32 := 0
  unit : UInt32 := 0
  deriving DecidableEq

/-- `aoahid_integer_field`. -/
structure IntegerField where
  logicalMinimum : Int32 := 0
  logicalMaximum : Int32 := 0
  bitWidth : UInt32 := 0
  physical : PhysicalProperties := {}
  deriving DecidableEq

/-- `aoahid_report_id_option`. -/
structure ReportIdOption where
  enabled : UInt32 := 0
  value : UInt8 := 0
  reserved8 : UInt8 × UInt8 × UInt8 := (0, 0, 0)
  deriving DecidableEq

/-! ### Options of the profiles -/

/-- `aoahid_keyboard_options`. -/
structure KeyboardOptions where
  structSize : UInt32
  reserved : UInt32 := 0
  reportId : ReportIdOption := {}
  usageMinimum : UInt16
  usageMaximum : UInt16

/-- `sizeof(aoahid_keyboard_options)`. -/
def KeyboardOptions.size : UInt32 := 20

/-- `aoahid_mouse_options`. -/
structure MouseOptions where
  structSize : UInt32
  reserved : UInt32 := 0
  reportId : ReportIdOption := {}
  buttonCount : UInt32
  x : IntegerField
  y : IntegerField
  enableWheel : UInt32 := 0
  wheel : IntegerField := {}
  enablePan : UInt32 := 0
  pan : IntegerField := {}

/-- `sizeof(aoahid_mouse_options)`. -/
def MouseOptions.size : UInt32 := 156

/-- `aoahid_toggle_options`: the four arrays have `allowed_usage_count` entries each, and an
entry of an array of C strings may itself be null. -/
structure ToggleOptions where
  structSize : UInt32
  reserved : UInt32 := 0
  reportId : ReportIdOption := {}
  applicationPage : UInt16
  applicationUsage : UInt16
  fieldPage : UInt16
  reserved16 : UInt16 := 0
  allowedUsageCount : ℕ
  allowedUsages : Option (Vector UInt16 allowedUsageCount)
  usageSemantics : Option (Vector UsageSemantic allowedUsageCount)
  expectedLinuxEventTypes : Option (Vector (Option String) allowedUsageCount)
  expectedLinuxCodes : Option (Vector (Option String) allowedUsageCount)

/-- `sizeof(aoahid_toggle_options)`. -/
def ToggleOptions.size : UInt32 := 64

/-- `aoahid_gamepad_axis`. -/
structure GamepadAxis where
  role : AxisRole
  usagePage : UInt16
  usage : UInt16
  value : IntegerField
  neutralValue : Int32 := 0
  expectedLinuxCode : Option String
  expectedAndroidAxis : Option String

/-- `aoahid_gamepad_options`. -/
structure GamepadOptions where
  structSize : UInt32
  reserved : UInt32 := 0
  reportId : ReportIdOption := {}
  axisCount : ℕ
  axes : Option (Vector GamepadAxis axisCount)
  buttonCount : UInt32
  buttonUsageMinimum : UInt16
  dpadRepresentation : DpadRepresentation
  hatLogicalMinimum : Int32 := 0
  hatLogicalMaximum : Int32 := 0
  hatBitWidth : UInt32 := 0

/-- `sizeof(aoahid_gamepad_options)`. -/
def GamepadOptions.size : UInt32 := 56

/-- `aoahid_touchscreen_options`. -/
structure TouchscreenOptions where
  structSize : UInt32
  reserved : UInt32 := 0
  reportId : ReportIdOption := {}
  maximumContacts : UInt32
  contactsPerReport : UInt32
  contactIdentifier : IntegerField
  x : IntegerField
  y : IntegerField
  contactCount : IntegerField
  enablePressure : UInt32 := 0
  pressure : IntegerField := {}
  enableWidth : UInt32 := 0
  width : IntegerField := {}
  enableHeight : UInt32 := 0
  height : IntegerField := {}
  enableAzimuth : UInt32 := 0
  azimuth : IntegerField := {}
  enableScanTime : UInt32 := 0
  scanTime : IntegerField := {}
  scanTimeUnit100us : UInt32 := 0
  enableContactCountMaximumFeatureDeclaration : UInt32 := 0
  enableMultiPacketFrames : UInt32 := 0

/-- `sizeof(aoahid_touchscreen_options)`. -/
def TouchscreenOptions.size : UInt32 := 344

/-- `aoahid_touchpad_options`: the fields of `aoahid_touchscreen_options`, followed by the
number of click buttons. -/
structure TouchpadOptions extends TouchscreenOptions where
  buttonCount : UInt32 := 0

/-- `sizeof(aoahid_touchpad_options)`. -/
def TouchpadOptions.size : UInt32 := 348

/-- `aoahid_pen_options`. -/
structure PenOptions where
  structSize : UInt32
  reserved : UInt32 := 0
  reportId : ReportIdOption := {}
  mode : PenMode
  x : IntegerField
  y : IntegerField
  enablePressure : UInt32 := 0
  pressure : IntegerField := {}
  enableTilt : UInt32 := 0
  tiltX : IntegerField := {}
  tiltY : IntegerField := {}
  enableTwistTargetSpecific : UInt32 := 0
  twist : IntegerField := {}
  barrelUsageCount : ℕ := 0
  barrelUsages : Option (Vector UInt16 barrelUsageCount) := none
  enableEraser : UInt32 := 0
  enableHover : UInt32 := 0

/-- `sizeof(aoahid_pen_options)`. -/
def PenOptions.size : UInt32 := 248

/-- `aoahid_battery_options`. -/
structure BatteryOptions where
  structSize : UInt32
  reserved : UInt32 := 0
  reportId : ReportIdOption := {}
  strength : IntegerField
  enableUnknownNullState : UInt32 := 0

/-- `sizeof(aoahid_battery_options)`. -/
def BatteryOptions.size : UInt32 := 52

/-- `aoahid_raw_report`: one entry of the table of accepted raw reports. -/
structure RawReport where
  reportId : UInt8
  hasReportId : UInt8
  reserved16 : UInt16 := 0
  wireLength : UInt32
  deriving DecidableEq

/-- `aoahid_raw_options`; an empty descriptor or table stands for a null pointer as well. -/
structure RawOptions where
  structSize : UInt32
  reserved : UInt32 := 0
  descriptor : List UInt8
  reports : List RawReport
  acknowledgesNoAndroidSupport : UInt32 := 0
  requiresOutput : UInt32 := 0
  requiresFeatureResponse : UInt32 := 0

/-- `sizeof(aoahid_raw_options)`. -/
def RawOptions.size : UInt32 := 56

/-- `aoahid_node_options`. -/
structure NodeOptions where
  structSize : UInt32
  reserved : UInt32 := 0
  hasReservedSlots : UInt32 := 0
  reservedSlots : UInt32 := 0

/-- `sizeof(aoahid_node_options)`. -/
def NodeOptions.size : UInt32 := 16

/-! ### Arguments of the profile calls -/

/-- `aoahid_touch_contact`. -/
@[ext]
structure TouchContact where
  contactId : UInt32 := 0
  x : Int32 := 0
  y : Int32 := 0
  pressure : Int32 := 0
  width : Int32 := 0
  height : Int32 := 0
  azimuth : Int32 := 0
  deriving DecidableEq

/-- `aoahid_touch_extra`. -/
structure TouchExtra where
  pressure : Int32 := 0
  width : Int32 := 0
  height : Int32 := 0
  azimuth : Int32 := 0
  deriving DecidableEq

/-- `aoahid_pen_sample`. -/
@[ext]
structure PenSample where
  inRange : UInt32 := 0
  tip : UInt32 := 0
  eraser : UInt32 := 0
  barrelButtons : UInt32 := 0
  x : Int32 := 0
  y : Int32 := 0
  pressure : Int32 := 0
  tiltX : Int32 := 0
  tiltY : Int32 := 0
  twist : Int32 := 0
  deriving DecidableEq

end LibaoaHid

import LibaoaHid.Hid.Validator

/-!
# Specs and Nodes

The private representations of `src/api/internal.hpp`: a Spec is immutable and shared, and all
mutable report state belongs to one Node.

A Node here is the part of `aoahid_node` that the profile calls, the serializer and the
completion callback read or write. Its Device is given to each call as a `Link`, because the
device can leave the bus between any two calls.

## Main definitions

* `KeyboardConfig`, `MouseConfig`, `ConsumerConfig`, `GamepadConfig`, `TouchConfig`,
  `PenConfig`, `BatteryConfig`, `RawConfig`, and their union `SpecConfig`.
* `KeyboardState`, `MouseState`, `ConsumerState`, `GamepadState`, `TouchState`, `PenState`,
  `BatteryState`, and their union `NodeState`.
* `Spec`, `Node`, `Link`.
-/

namespace LibaoaHid

/-! ### Configurations -/

structure KeyboardConfig where
  options : KeyboardOptions

structure MouseConfig where
  options : MouseOptions

structure ConsumerConfig where
  options : ToggleOptions
  allowedUsages : List UInt16
  usageSemantics : List UsageSemantic
  expectedLinuxEventTypes : List String
  expectedLinuxCodes : List String

structure GamepadAxisConfig where
  axis : GamepadAxis
  expectedLinuxCode : String
  expectedAndroidAxis : String

structure GamepadConfig where
  options : GamepadOptions
  axes : List GamepadAxisConfig

/-- The contact fields shared by Touchscreen and Touchpad. -/
structure TouchFields where
  reportId : ReportIdOption := {}
  maximumContacts : UInt32 := 0
  contactsPerReport : UInt32 := 0
  contactIdentifier : IntegerField := {}
  x : IntegerField := {}
  y : IntegerField := {}
  contactCount : IntegerField := {}
  enablePressure : UInt32 := 0
  pressure : IntegerField := {}
  enableWidth : UInt32 := 0
  width : IntegerField := {}
  enableHeight : UInt32 := 0
  height : IntegerField := {}
  enableAzimuth : UInt32 := 0
  azimuth : IntegerField := {}
  enableScanTime : UInt32 := 0
  scanTime : IntegerField := {}
  scanTimeUnit100us : UInt32 := 0
  enableContactCountMaximumFeatureDeclaration : UInt32 := 0
  enableMultiPacketFrames : UInt32 := 0
  buttonCount : UInt32 := 0

structure TouchConfig where
  fields : TouchFields

structure PenConfig where
  options : PenOptions
  barrelUsages : List UInt16

structure BatteryConfig where
  options : BatteryOptions

structure RawConfig where
  reports : List RawReport
  trailingValidMasks : List UInt8

/-- `SpecConfig`. -/
inductive SpecConfig
  | keyboard (config : KeyboardConfig)
  | mouse (config : MouseConfig)
  | consumer (config : ConsumerConfig)
  | gamepad (config : GamepadConfig)
  | touch (config : TouchConfig)
  | pen (config : PenConfig)
  | battery (config : BatteryConfig)
  | raw (config : RawConfig)

/-- `aoahid_report_capability`. -/
structure ReportCapability where
  reportId : ℕ
  hasReportId : ℕ
  wireLength : ℕ
  deriving DecidableEq

/-- `aoahid_spec`. -/
structure Spec where
  kind : ProfileKind
  androidStatus : AndroidStatus
  descriptor : List UInt8
  layout : ReportLayout
  requirements : DescriptorRequirements
  reportCapabilities : List ReportCapability
  config : SpecConfig

/-! ### States -/

structure KeyboardState where
  pressedBitmap : List UInt8 := []
  keyTransitions : List UInt8 := []
  pressedBitmapCount : ℕ := 0
  modifiers : UInt8 := 0
  modifierTransitions : UInt8 := 0
  deriving DecidableEq

/-- The pending totals are `int64_t`. -/
structure MouseState where
  buttons : List UInt8 := []
  buttonTransitions : List UInt8 := []
  dx : ℤ := 0
  dy : ℤ := 0
  wheel : ℤ := 0
  pan : ℤ := 0
  deriving DecidableEq

structure ConsumerState where
  usage : UInt16 := 0
  transitionPending : Bool := false
  deriving DecidableEq

structure GamepadState where
  axes : List Int32 := []
  buttons : List UInt8 := []
  buttonTransitions : List UInt8 := []
  hatHasDirection : Bool := false
  hat : ℤ := 0
  hatTransitionPending : Bool := false
  deriving DecidableEq

/-- `ContactPhase`. -/
inductive ContactPhase
  | none
  | down
  | up
  deriving DecidableEq, Repr

structure ContactState where
  phase : ContactPhase := .none
  sample : TouchContact := {}
  lifecycleTransitionPending : Bool := false
  deriving DecidableEq

/-- `TouchState`; `scan_epoch` is a reading of the steady clock in nanoseconds. -/
structure TouchState where
  contacts : List ContactState := List.replicate 16 {}
  buttons : List UInt8 := []
  buttonTransitions : List UInt8 := []
  scanTime : ℕ := 0
  packetCursor : ℕ := 0
  scanEpoch : ℤ := 0
  scanEpochActive : Bool := false
  deriving DecidableEq

structure PenState where
  desired : PenSample := {}
  emitted : PenSample := {}
  barrelTransitions : UInt32 := 0
  toolSwitchDeparture : Bool := false
  inRangeTransitionPending : Bool := false
  tipTransitionPending : Bool := false
  eraserTransitionPending : Bool := false
  deriving DecidableEq

structure BatteryState where
  hasValue : Bool := false
  strength : Int32 := 0
  deriving DecidableEq

/-- `NodeState`. A Raw Node keeps no report. -/
inductive NodeState
  | keyboard (state : KeyboardState)
  | mouse (state : MouseState)
  | consumer (state : ConsumerState)
  | gamepad (state : GamepadState)
  | touch (state : TouchState)
  | pen (state : PenState)
  | battery (state : BatteryState)
  | raw
  deriving DecidableEq

/-- `aoahid_node`. -/
structure Node where
  spec : Spec
  state : NodeState
  hidId : ℕ := 0
  transferInflight : Bool := false
  completionResult : Result := .ok
  completionNativeStatus : ℤ := 0
  completionReportLength : ℕ := 0
  completionReportId : ℕ := 0
  submittedDx : ℤ := 0
  submittedDy : ℤ := 0
  submittedWheel : ℤ := 0
  submittedPan : ℤ := 0
  submittedReportLength : ℕ := 0
  submittedReportId : ℕ := 0
  submittedTouchCount : ℕ := 0
  submittedTouchFinalPacket : Bool := false
  submittedNonNeutral : Bool := false
  emittedNonNeutral : Bool := false
  dirty : Bool := false
  closed : Bool := false

namespace Node

/-- `report_id` of `src/api/c_api.cpp`. -/
def reportId (node : Node) : ℕ :=
  if node.spec.layout.hasReportId then node.spec.layout.reportId else 0

end Node

/-! ### The device behind a Node -/

/-- `ErrorInfo` of the transport. -/
structure ErrorInfo where
  result : Result := .ok
  nativeStatus : ℤ := 0
  aoaRequest : ℕ := 0
  hidId : ℕ := 0
  offset : ℕ := 0
  length : ℕ := 0
  reportId : ℕ := 0
  deriving DecidableEq

/-- What a call on a Node finds behind it: no Device at all, as in a test of the state machine
alone; a Device without a transport; a device on the bus; or one that is gone, with the error
that the transport latched. -/
inductive Link
  | detached
  | noTransport
  | present
  | gone (latched : ErrorInfo)
  deriving DecidableEq

end LibaoaHid

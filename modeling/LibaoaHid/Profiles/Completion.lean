import LibaoaHid.Api.Internal

/-!
# Completion of a report

The completion callback of `src/profiles/state.cpp`, and the mapping of a libusb transfer status
to a result (`completion_result` of `src/transport/transport.cpp`). A submit that libusb rejects
runs the same callback with a negative native status.

## Main definitions

* `TransferStatus`, `completionResult`.
* `consumeLifecycleTransitions`.
* `mayHaveApplied`, `completeState`, `transferComplete`.
-/

namespace LibaoaHid

/-! ### Transfer status -/

/-- `libusb_transfer_status`. -/
inductive TransferStatus
  | completed
  | error
  | timedOut
  | cancelled
  | stall
  | noDevice
  | overflow
  deriving DecidableEq, Repr

/-- The value of a status in libusb's enumeration, which is the native status of a completion. -/
def TransferStatus.nativeStatus : TransferStatus → ℤ
  | .completed => 0
  | .error => 1
  | .timedOut => 2
  | .cancelled => 3
  | .stall => 4
  | .noDevice => 5
  | .overflow => 6

/-- `completion_result`. -/
def completionResult (status : TransferStatus) (actualLength reportLength : ℕ) : Result :=
  match status with
  | .completed => if actualLength = reportLength then .ok else .errShortTransfer
  | .timedOut => .errTimeout
  | .stall => .errStall
  | .noDevice => .errNoDevice
  | .overflow => .errOverflow
  | .cancelled | .error => .errIo

theorem TransferStatus.nativeStatus_nonneg (status : TransferStatus) :
    0 ≤ status.nativeStatus := by
  cases status <;> simp [TransferStatus.nativeStatus]

/-! ### Consuming transitions -/

/-- `consume_lifecycle_transitions` on a profile state. -/
def consumeLifecycleTransitions : NodeState → NodeState
  | .keyboard keyboard =>
    .keyboard { keyboard with
      keyTransitions := keyboard.keyTransitions.map fun _ => 0
      modifierTransitions := 0 }
  | .mouse mouse =>
    .mouse { mouse with buttonTransitions := mouse.buttonTransitions.map fun _ => 0 }
  | .consumer consumer => .consumer { consumer with transitionPending := false }
  | .gamepad gamepad =>
    .gamepad { gamepad with
      buttonTransitions := gamepad.buttonTransitions.map fun _ => 0
      hatTransitionPending := false }
  | .touch touch =>
    .touch { touch with
      contacts := touch.contacts.map fun contact =>
        { contact with lifecycleTransitionPending := false }
      buttonTransitions := touch.buttonTransitions.map fun _ => 0 }
  | .pen pen =>
    .pen { pen with
      barrelTransitions := 0
      inRangeTransitionPending := false
      tipTransitionPending := false
      eraserTransitionPending := false }
  | .battery battery => .battery battery
  | .raw => .raw

/-! ### The callback -/

/-- Whether the target may hold the report: libusb accepted it and it did not STALL. -/
def mayHaveApplied (result : Result) (nativeStatus : ℤ) : Bool :=
  decide (nativeStatus ≥ 0) && result != .errStall

/-- What a completion makes of a profile state: the state, `dirty`, and
`lifecycle_report_complete`. -/
structure Completed where
  state : NodeState
  dirty : Bool
  lifecycleReportComplete : Bool := true

/-- The last packet of a touch frame completed: lifted contacts leave, and the Scan Time epoch
ends with the last contact and button. -/
def finishFrame (touch : TouchState) : TouchState :=
  let contacts := touch.contacts.map fun contact =>
    if contact.phase = .up then { contact with phase := .none } else contact
  let stillActive := contacts.any (·.phase == .down) || touch.buttons.any (· != 0)
  { touch with
    contacts
    packetCursor := 0
    scanEpochActive := touch.scanEpochActive && stillActive }

/-- The branches of `transfer_complete` on a report that may have been applied. -/
def completeState (node : Node) (result : Result) : Completed :=
  match node.state with
  | .mouse mouse =>
    let dx := mouse.dx - node.submittedDx
    let dy := mouse.dy - node.submittedDy
    let wheel := mouse.wheel - node.submittedWheel
    let pan := mouse.pan - node.submittedPan
    { state := .mouse { mouse with dx, dy, wheel, pan }
      dirty := result == .ok && (dx != 0 || dy != 0 || wheel != 0 || pan != 0) }
  | .touch touch =>
    if result = .ok then
      if node.submittedTouchFinalPacket then
        { state := .touch (finishFrame touch), dirty := false }
      else
        { state := .touch { touch with
            packetCursor := touch.packetCursor + node.submittedTouchCount }
          dirty := true
          lifecycleReportComplete := false }
    else { state := .touch { touch with packetCursor := 0 }, dirty := false }
  | .pen pen =>
    if result = .ok then
      if pen.toolSwitchDeparture then
        { state := .pen { pen with
            emitted := { pen.emitted with inRange := 0, tip := 0 }
            toolSwitchDeparture := false }
          dirty := true
          lifecycleReportComplete := false }
      else { state := .pen { pen with emitted := pen.desired }, dirty := false }
    else { state := .pen pen, dirty := false }
  | state => { state, dirty := false }

/-- The end of `transfer_complete`: the scratch fields are reset and the diagnostics of the
completion are published. -/
def Node.publishCompletion (node : Node) (result : Result) (nativeStatus : ℤ) : Node :=
  { node with
    submittedDx := 0
    submittedDy := 0
    submittedWheel := 0
    submittedPan := 0
    submittedNonNeutral := false
    completionNativeStatus := nativeStatus
    completionReportLength := node.submittedReportLength
    completionReportId := node.submittedReportId
    submittedReportLength := 0
    submittedReportId := 0
    completionResult := result
    transferInflight := false }

/-- `transfer_complete`. -/
def transferComplete (node : Node) (result : Result) (nativeStatus : ℤ) : Node :=
  if mayHaveApplied result nativeStatus then
    let completed := completeState node result
    let node : Node := { node with
      state :=
        if result ≠ .ok ∨ completed.lifecycleReportComplete then
          consumeLifecycleTransitions completed.state
        else completed.state
      dirty := completed.dirty
      emittedNonNeutral :=
        if result = .ok then node.submittedNonNeutral
        else node.emittedNonNeutral || node.submittedNonNeutral }
    node.publishCompletion result nativeStatus
  else Node.publishCompletion { node with dirty := true } result nativeStatus

end LibaoaHid

import LibaoaHid.Hid.Usages
import LibaoaHid.Api.Internal

/-!
# The profile calls

The thirteen calls of `src/profiles/state.cpp` that change the state of a Node. No call does I/O.
A call either refuses and changes nothing, or replaces the profile state and makes the Node
dirty when the state it reports has changed; so a call is an `Except` of the new profile state
and its `changed`, and `Call.perform` stores it.

Where the source would follow a null state or configuration pointer, the call answers
`nullState`.

## Main definitions

* `linkAvailable`, `usable`: the checks that the calls share.
* `kbd`, `mouseMove`, `mouseScroll`, `mouseButton`, `toggle`, `gamepadButton`, `gamepadSetAxis`,
  `dpad`, `touch`, `touchpadButton`, `penUpdate`, `penDepart`, `batteryUpdate`.
* `Call`, `Call.perform`.
-/

namespace LibaoaHid

/-! ### Shared checks -/

/-- `link_available`: the refusal, if the device is not there. -/
def linkAvailable (node : Node) (link : Link) (field : String) : Option Reply :=
  match link with
  | .detached | .present => none
  | .noTransport =>
    some (.fail .errParam field "The node is not attached to a live device.")
  | .gone error =>
    let failedReportId :=
      if error.aoaRequest = 57 ∧ error.hidId = node.hidId then error.reportId else node.reportId
    some (.fail .errNoDevice field "The device is gone; its node state is frozen."
      error.nativeStatus error.aoaRequest node.hidId failedReportId error.offset error.length)

/-- `usable`: the refusal of a call for nodes of one kind. -/
def usable (node : Node) (link : Link) (kind : ProfileKind) (field : String) : Option Reply :=
  if node.closed ∨ node.spec.kind ≠ kind then
    some (.fail .errParam field "The operation does not match the node profile.")
  else
    match linkAvailable node link field with
    | some reply => some reply
    | none =>
      if node.transferInflight then
        some (.fail .errBusy field "The node has one report in flight.")
      else none

/-- `in_range`. -/
def inRange (value : Int32) (field : IntegerField) : Bool :=
  decide (value.toInt ≥ field.logicalMinimum.toInt ∧ value.toInt ≤ field.logicalMaximum.toInt)

/-- `pending_transition`. -/
def pendingTransition (field : String) : Reply :=
  .fail .errBusy field "An opposite lifecycle transition is pending its first accepted report."

/-- The source has no defined behaviour here: its state or configuration pointer is null. -/
def nullState (field : String) : Reply :=
  .fail .errInternal field "The node has no state of this profile."

/-- The common body of the three button calls: `transition_storage_matches`, the edge guard and
the new values. -/
def pressButton (values transitions : List UInt8) (button pressed : UInt32) (field : String) :
    Except Reply ((List UInt8 × List UInt8) × Bool) :=
  if button.toNat = 0 ∨ button.toNat > values.length ∨ !validBoolean pressed then
    .error (.fail .errParam field "Button is one-based and pressed must be zero or one.")
  else if values.length ≠ transitions.length then
    .error (.fail .errInternal field
      "The preallocated lifecycle-transition state does not match the profile layout.")
  else
    let index := button.toNat - 1
    let value := pressed.toUInt8
    let changed := values.getD index 0 != value
    if changed ∧ transitions.getD index 0 ≠ 0 then .error (pendingTransition field)
    else if changed then .ok ((values.set index value, transitions.set index 1), true)
    else .ok ((values, transitions), false)

/-! ### Keyboard -/

/-- The modifier branch of `aoahid_kbd_impl`. -/
def pressModifier (keyboard : KeyboardState) (mask : UInt8) (press : Bool) :
    Except Reply (KeyboardState × Bool) :=
  let changed := ((keyboard.modifiers &&& mask) != 0) != press
  if changed ∧ keyboard.modifierTransitions &&& mask ≠ 0 then .error (pendingTransition "kbd")
  else if changed then
    .ok ({ keyboard with
      modifiers := if press then keyboard.modifiers ||| mask else keyboard.modifiers &&& ~~~mask
      modifierTransitions := keyboard.modifierTransitions ||| mask }, true)
  else .ok (keyboard, false)

/-- The bitmap branch of `aoahid_kbd_impl`, behind its range check. -/
def pressKey (keyboard : KeyboardState) (index : ℕ) (press : Bool) :
    Except Reply (KeyboardState × Bool) :=
  if index ≥ keyboard.keyTransitions.length then
    .error (.fail .errInternal "kbd"
      "The preallocated keyboard state does not match the declared Usage range.")
  else if index ≥ keyboard.pressedBitmap.length then
    .error (.fail .errInternal "kbd"
      "The preallocated bitmap does not match the declared Usage range.")
  else
    let changed := (keyboard.pressedBitmap.getD index 0 != 0) != press
    if changed ∧ keyboard.keyTransitions.getD index 0 ≠ 0 then .error (pendingTransition "kbd")
    else if changed then
      if press then
        if keyboard.pressedBitmapCount ≥ keyboard.pressedBitmap.length then
          .error (.fail .errInternal "kbd"
            "The bitmap key count is inconsistent with its storage.")
        else
          .ok ({ keyboard with
            pressedBitmap := keyboard.pressedBitmap.set index 1
            pressedBitmapCount := keyboard.pressedBitmapCount + 1
            keyTransitions := keyboard.keyTransitions.set index 1 }, true)
      else if keyboard.pressedBitmapCount = 0 then
        .error (.fail .errInternal "kbd"
          "The bitmap key count is inconsistent with its storage.")
      else
        .ok ({ keyboard with
          pressedBitmap := keyboard.pressedBitmap.set index 0
          pressedBitmapCount := keyboard.pressedBitmapCount - 1
          keyTransitions := keyboard.keyTransitions.set index 1 }, true)
    else .ok (keyboard, false)

/-- `aoahid_kbd_impl`. -/
def kbd (node : Node) (link : Link) (usage : UInt16) (down : UInt32) :
    Except Reply (NodeState × Bool) :=
  if !validBoolean down then
    .error (.fail .errParam "kbd" "down must be exactly zero or one.")
  else
    match usable node link .keyboard "kbd", node.state, node.spec.config with
    | some reply, _, _ => .error reply
    | none, .keyboard keyboard, .keyboard { options } =>
      let press := down == 1
      Except.map (fun next => (.keyboard next.1, next.2)) <|
        if usage.toNat ≥ Usage.keyboardLeftControl ∧ usage.toNat ≤ Usage.keyboardRightGui then
          pressModifier keyboard (UInt8.ofNat (1 <<< (usage.toNat - Usage.keyboardLeftControl)))
            press
        else if usage.toNat < options.usageMinimum.toNat ∨
            usage.toNat > options.usageMaximum.toNat then
          .error (.fail .errParam "kbd.usage"
            "The Usage is outside the caller-declared key range.")
        else pressKey keyboard (usage.toNat - options.usageMinimum.toNat) press
    | none, _, _ => .error (nullState "kbd")

/-! ### Mouse -/

/-- `add_checked`; the totals are `int64_t`. -/
def addChecked (target : ℤ) (value : Int32) : Option ℤ :=
  if (value.toInt > 0 ∧ target > 2 ^ 63 - 1 - value.toInt) ∨
      (value.toInt < 0 ∧ target < -2 ^ 63 - value.toInt) then none
  else some (target + value.toInt)

/-- `aoahid_mouse_move_impl`. -/
def mouseMove (node : Node) (link : Link) (dx dy : Int32) : Except Reply (NodeState × Bool) :=
  match usable node link .mouse "mouse.move", node.state with
  | some reply, _ => .error reply
  | none, .mouse mouse =>
    match addChecked mouse.dx dx, addChecked mouse.dy dy with
    | some nextDx, some nextDy =>
      .ok (.mouse { mouse with dx := nextDx, dy := nextDy }, dx != 0 || dy != 0)
    | _, _ =>
      .error (.fail .errOverflow "mouse.delta"
        "The pending relative movement overflowed int64_t.")
  | none, _ => .error (nullState "mouse.move")

/-- `aoahid_mouse_scroll_impl`. -/
def mouseScroll (node : Node) (link : Link) (wheel pan : Int32) :
    Except Reply (NodeState × Bool) :=
  match usable node link .mouse "mouse.scroll", node.state, node.spec.config with
  | some reply, _, _ => .error reply
  | none, .mouse mouse, .mouse { options } =>
    if (wheel ≠ 0 ∧ options.enableWheel ≠ 1) ∨ (pan ≠ 0 ∧ options.enablePan ≠ 1) then
      .error (.fail .errUnsupported "mouse.scroll"
        "The requested scroll axis is absent from the spec.")
    else
      match addChecked mouse.wheel wheel, addChecked mouse.pan pan with
      | some nextWheel, some nextPan =>
        .ok (.mouse { mouse with wheel := nextWheel, pan := nextPan }, wheel != 0 || pan != 0)
      | _, _ =>
        .error (.fail .errOverflow "mouse.scroll"
          "The pending relative scroll overflowed int64_t.")
  | none, _, _ => .error (nullState "mouse.scroll")

/-- `aoahid_mouse_button_impl`. -/
def mouseButton (node : Node) (link : Link) (button pressed : UInt32) :
    Except Reply (NodeState × Bool) :=
  match usable node link .mouse "mouse.button", node.state with
  | some reply, _ => .error reply
  | none, .mouse mouse =>
    (pressButton mouse.buttons mouse.buttonTransitions button pressed "mouse.button").map
      fun next =>
        (.mouse { mouse with buttons := next.1.1, buttonTransitions := next.1.2 }, next.2)
  | none, _ => .error (nullState "mouse.button")

/-! ### Toggle -/

/-- `aoahid_toggle_impl`. -/
def toggle (node : Node) (link : Link) (usage : UInt16) (down : UInt32) :
    Except Reply (NodeState × Bool) :=
  if !validBoolean down then
    .error (.fail .errParam "toggle" "down must be exactly zero or one.")
  else if node.closed ∨ node.spec.kind ≠ .toggle then
    .error (.fail .errParam "toggle" "The operation requires a live Toggle node.")
  else
    match linkAvailable node link "toggle", node.state, node.spec.config with
    | some reply, _, _ => .error reply
    | none, .consumer consumer, .consumer { allowedUsages, .. } =>
      if node.transferInflight then
        .error (.fail .errBusy "toggle" "The node has one report in flight.")
      else if down = 1 ∧ usage ∉ allowedUsages then
        .error (.fail .errParam "toggle.usage" "The Usage is not in the caller allow-list.")
      else if down ≠ 1 ∧ usage ≠ 0 ∧ usage ≠ consumer.usage then
        .error (.fail .errParam "toggle.usage"
          "usage on release must be 0 or the Usage currently pressed.")
      else
        let nextUsage := if down = 1 then usage else 0
        let changed := consumer.usage != nextUsage
        if changed ∧ consumer.transitionPending then .error (pendingTransition "toggle")
        else if changed then
          .ok (.consumer { usage := nextUsage, transitionPending := true }, true)
        else .ok (.consumer consumer, false)
    | none, _, _ => .error (nullState "toggle")

/-! ### Gamepad -/

/-- `aoahid_gamepad_button_impl`. -/
def gamepadButton (node : Node) (link : Link) (button pressed : UInt32) :
    Except Reply (NodeState × Bool) :=
  match usable node link .gamepad "gamepad.button", node.state with
  | some reply, _ => .error reply
  | none, .gamepad gamepad =>
    (pressButton gamepad.buttons gamepad.buttonTransitions button pressed "gamepad.button").map
      fun next =>
        (.gamepad { gamepad with buttons := next.1.1, buttonTransitions := next.1.2 }, next.2)
  | none, _ => .error (nullState "gamepad.button")

/-- `aoahid_gamepad_set_axis_impl`. -/
def gamepadSetAxis (node : Node) (link : Link) (axisIndex : ℕ) (value : Int32) :
    Except Reply (NodeState × Bool) :=
  let outside : Reply :=
    .fail .errParam "gamepad.axis" "The axis index or value is outside the spec."
  match usable node link .gamepad "gamepad.axis", node.state, node.spec.config with
  | some reply, _, _ => .error reply
  | none, .gamepad gamepad, .gamepad { axes, .. } =>
    if axisIndex ≥ gamepad.axes.length then .error outside
    else
      match axes[axisIndex]? with
      | none => .error (nullState "gamepad.axis")
      | some { axis, .. } =>
        if !inRange value axis.value then .error outside
        else
          .ok (.gamepad { gamepad with axes := gamepad.axes.set axisIndex value },
            gamepad.axes.getD axisIndex 0 != value)
  | none, _, _ => .error (nullState "gamepad.axis")

/-- The direction of a Hat Switch: clockwise from up in steps of 45 degrees. -/
def hatDirection (up down right left : Bool) : ℤ :=
  if up then (if right then 1 else if left then 7 else 0)
  else if down then (if right then 3 else if left then 5 else 4)
  else if right then 2
  else 6

/-- The bits of the four directions. -/
def directionBits (up down right left : Bool) : ℤ :=
  up.toNat + 2 * down.toNat + 4 * right.toNat + 8 * left.toNat

/-- `aoahid_dpad_impl`. -/
def dpad (node : Node) (link : Link) (up down right left : UInt32) :
    Except Reply (NodeState × Bool) :=
  match usable node link .gamepad "gamepad.dpad", node.state, node.spec.config with
  | some reply, _, _ => .error reply
  | none, .gamepad gamepad, .gamepad { options, .. } =>
    if (options.dpadRepresentation ≠ .buttons ∧ options.dpadRepresentation ≠ .hat) ∨
        !validBoolean up ∨ !validBoolean down ∨ !validBoolean right ∨ !validBoolean left then
      .error (.fail .errParam "gamepad.dpad"
        ("The spec must select a D-pad representation and every direction must be zero " ++
          "or one."))
    else if options.dpadRepresentation = .hat ∧
        ((up = 1 ∧ down = 1) ∨ (right = 1 ∧ left = 1)) then
      .error (.fail .errParam "gamepad.dpad"
        "A Hat Switch cannot encode opposite directions simultaneously.")
    else
      let bits := directionBits (up == 1) (down == 1) (right == 1) (left == 1)
      let anyDirection := bits != 0
      let encoded :=
        if options.dpadRepresentation = .hat ∧ bits ≠ 0 then
          hatDirection (up == 1) (down == 1) (right == 1) (left == 1)
        else bits
      let changed := gamepad.hatHasDirection != anyDirection || gamepad.hat != encoded
      if changed ∧ gamepad.hatTransitionPending then
        .error (pendingTransition "gamepad.dpad")
      else if changed then
        .ok (.gamepad { gamepad with
          hatHasDirection := anyDirection
          hat := encoded
          hatTransitionPending := true }, true)
      else .ok (.gamepad gamepad, false)
  | none, _, _ => .error (nullState "gamepad.dpad")

/-! ### Touch -/

/-- `validate_contact`: the sample is inside the declared ranges. -/
def validateContact (fields : TouchFields) (contact : TouchContact) : Bool :=
  !decide (
    (contact.contactId.toNat : ℤ) > fields.contactIdentifier.logicalMaximum.toInt ∨
    (contact.contactId.toNat : ℤ) < fields.contactIdentifier.logicalMinimum.toInt ∨
    !inRange contact.x fields.x ∨ !inRange contact.y fields.y ∨
    (fields.enablePressure = 1 ∧ !inRange contact.pressure fields.pressure) ∨
    (fields.enableWidth = 1 ∧ !inRange contact.width fields.width) ∨
    (fields.enableHeight = 1 ∧ !inRange contact.height fields.height) ∨
    -- The maximum of Azimuth is the full turn, which is not a sample.
    (fields.enableAzimuth = 1 ∧
      (contact.azimuth.toInt < 0 ∨
        contact.azimuth.toInt ≥ fields.azimuth.logicalMaximum.toInt)) ∨
    (fields.enablePressure = 0 ∧ contact.pressure ≠ 0) ∨
    (fields.enableWidth = 0 ∧ contact.width ≠ 0) ∨
    (fields.enableHeight = 0 ∧ contact.height ≠ 0) ∨
    (fields.enableAzimuth = 0 ∧ contact.azimuth ≠ 0))

/-- The down slot of a Contact ID. -/
def ContactState.isDown (contactId : UInt32) (contact : ContactState) : Bool :=
  contact.phase == .down && contact.sample.contactId == contactId

/-- The lift branch of `aoahid_touch_impl` on the slot that was found. -/
def liftContact (fields : TouchFields) (state : TouchState) (slot : ℕ) (x y : Int32) :
    Except Reply (TouchState × Bool) :=
  if !inRange x fields.x ∨ !inRange y fields.y then
    .error (.fail .errParam "touch" "The final coordinates are outside the spec.")
  else
    let contact := state.contacts.getD slot {}
    if contact.lifecycleTransitionPending then .error (pendingTransition "touch")
    else
      .ok ({ state with
        contacts := state.contacts.set slot
          { phase := .up
            sample := { contact.sample with x, y, pressure := 0 }
            lifecycleTransitionPending := true }
        packetCursor := 0 }, true)

/-- The move branch of `aoahid_touch_impl` on the slot that was found. -/
def moveContact (state : TouchState) (slot : ℕ) (sample : TouchContact) : TouchState × Bool :=
  let contact := state.contacts.getD slot {}
  let changed := contact.sample.x != sample.x || contact.sample.y != sample.y ||
    contact.sample.pressure != sample.pressure || contact.sample.width != sample.width ||
    contact.sample.height != sample.height || contact.sample.azimuth != sample.azimuth
  ({ state with
    contacts := state.contacts.set slot { contact with sample }
    packetCursor := 0 }, changed)

/-- The placing branch of `aoahid_touch_impl`. -/
def placeContact (fields : TouchFields) (state : TouchState) (sample : TouchContact) :
    Except Reply (TouchState × Bool) :=
  if state.contacts.any fun entry =>
      entry.phase != .none && entry.sample.contactId == sample.contactId then
    .error (.fail .errBusy "touch.contact_id" "The Contact ID is already active.")
  else
    let exhausted : Reply :=
      .fail .errOverflow "touch.maximum_contacts" "No declared contact slot remains."
    match state.contacts.findIdx? (·.phase == .none) with
    | none => .error exhausted
    | some slot =>
      if state.contacts.countP (·.phase != .none) ≥ fields.maximumContacts.toNat then
        .error exhausted
      else
        .ok ({ state with
          contacts := state.contacts.set slot
            { phase := .down, sample, lifecycleTransitionPending := true }
          packetCursor := 0 }, true)

/-- `aoahid_touch_impl`. -/
def touch (node : Node) (link : Link) (contactId down : UInt32) (x y : Int32)
    (extra : Option TouchExtra) : Except Reply (NodeState × Bool) :=
  if (node.spec.kind ≠ .touchscreen ∧ node.spec.kind ≠ .touchpad) ∨ node.closed ∨
      !validBoolean down then
    .error (.fail .errParam "touch" "A live touch node and boolean down are required.")
  else
    match linkAvailable node link "touch", node.state, node.spec.config with
    | some reply, _, _ => .error reply
    | none, .touch state, .touch { fields } =>
      if node.transferInflight then
        .error (.fail .errBusy "touch" "A touch report is in flight.")
      else if state.packetCursor ≠ 0 then
        .error (.fail .errBusy "touch"
          "The current multi-packet frame must finish before state changes.")
      else
        Except.map (fun next => (.touch next.1, next.2)) <|
          match state.contacts.findIdx? (ContactState.isDown contactId) with
          | none =>
            if down = 0 then
              .error (.fail .errParam "touch.contact_id" "Lift requires an active Contact ID.")
            else
              let sample : TouchContact :=
                { contactId, x, y
                  pressure := (extra.getD {}).pressure
                  width := (extra.getD {}).width
                  height := (extra.getD {}).height
                  azimuth := (extra.getD {}).azimuth }
              if !validateContact fields sample then
                .error (.fail .errParam "touch"
                  "A contact value is outside its declared logical range.")
              else placeContact fields state sample
          | some slot =>
            if down = 0 then liftContact fields state slot x y
            else
              let sample : TouchContact :=
                { contactId, x, y
                  pressure := (extra.getD {}).pressure
                  width := (extra.getD {}).width
                  height := (extra.getD {}).height
                  azimuth := (extra.getD {}).azimuth }
              if !validateContact fields sample then
                .error (.fail .errParam "touch"
                  "A contact value is outside its declared logical range.")
              else .ok (moveContact state slot sample)
    | none, _, _ => .error (nullState "touch")

/-- `aoahid_touchpad_button_impl`. -/
def touchpadButton (node : Node) (link : Link) (button pressed : UInt32) :
    Except Reply (NodeState × Bool) :=
  match usable node link .touchpad "touchpad.button", node.state with
  | some reply, _ => .error reply
  | none, .touch state =>
    if state.packetCursor ≠ 0 then
      .error (.fail .errBusy "touchpad.button"
        "The current multi-packet frame must finish before state changes.")
    else
      (pressButton state.buttons state.buttonTransitions button pressed "touchpad.button").map
        fun next =>
          (.touch { state with buttons := next.1.1, buttonTransitions := next.1.2 }, next.2)
  | none, _ => .error (nullState "touchpad.button")

/-! ### Pen -/

/-- `pen_barrel_changes`. -/
def penBarrelChanges (before after : PenSample) : UInt32 :=
  before.barrelButtons ^^^ after.barrelButtons

/-- `pen_transition_conflicts`. -/
def penTransitionConflicts (pen : PenState) (next : PenSample) : Bool :=
  let changesLifecycle := pen.desired.inRange != next.inRange || pen.desired.tip != next.tip ||
    pen.desired.eraser != next.eraser || penBarrelChanges pen.desired next != 0
  let lifecyclePending := pen.inRangeTransitionPending || pen.tipTransitionPending ||
    pen.eraserTransitionPending || pen.barrelTransitions != 0
  changesLifecycle && lifecyclePending

/-- `record_pen_transitions`. -/
def recordPenTransitions (pen : PenState) (next : PenSample) : PenState :=
  { pen with
    inRangeTransitionPending := pen.inRangeTransitionPending || pen.desired.inRange != next.inRange
    tipTransitionPending := pen.tipTransitionPending || pen.desired.tip != next.tip
    eraserTransitionPending := pen.eraserTransitionPending || pen.desired.eraser != next.eraser
    barrelTransitions := pen.barrelTransitions ||| penBarrelChanges pen.desired next }

/-- The barrel bits that the options declare. -/
def barrelMask (options : PenOptions) : UInt32 :=
  if options.barrelUsageCount = 32 then 0xFFFFFFFF
  else if options.barrelUsageCount = 0 then 0
  else UInt32.ofNat ((1 <<< options.barrelUsageCount) - 1)

/-- The range check of `aoahid_pen_update_impl`. -/
def validatePenSample (options : PenOptions) (sample : PenSample) : Bool :=
  !decide (
    !validBoolean sample.inRange ∨ !validBoolean sample.tip ∨ !validBoolean sample.eraser ∨
    (options.enableHover = 0 ∧ sample.inRange ≠ sample.tip) ∨
    (sample.tip = 1 ∧ sample.inRange = 0) ∨
    (options.enableEraser = 0 ∧ sample.eraser ≠ 0) ∨
    sample.barrelButtons &&& ~~~barrelMask options ≠ 0 ∨
    !inRange sample.x options.x ∨ !inRange sample.y options.y ∨
    (options.enablePressure = 0 ∧ sample.pressure ≠ 0) ∨
    (options.enableTilt = 0 ∧ (sample.tiltX ≠ 0 ∨ sample.tiltY ≠ 0)) ∨
    (options.enableTwistTargetSpecific = 0 ∧ sample.twist ≠ 0) ∨
    (options.enablePressure = 1 ∧ !inRange sample.pressure options.pressure) ∨
    (options.enableTilt = 1 ∧
      (!inRange sample.tiltX options.tiltX ∨ !inRange sample.tiltY options.tiltY)) ∨
    (options.enableTwistTargetSpecific = 1 ∧ !inRange sample.twist options.twist))

/-- `aoahid_pen_update_impl`; no sample stands for the null pointer. -/
def penUpdate (node : Node) (link : Link) (sample : Option PenSample) :
    Except Reply (NodeState × Bool) :=
  match usable node link .pen "pen.update", sample, node.state, node.spec.config with
  | some reply, _, _, _ => .error reply
  | none, none, _, _ =>
    .error (.fail .errParam "pen.sample" "The pen sample pointer is null.")
  | none, some sample, .pen pen, .pen { options, .. } =>
    if !validatePenSample options sample then
      .error (.fail .errParam "pen.sample"
        "A flag, button, or value is outside the immutable pen spec.")
    else if penTransitionConflicts pen sample then .error (pendingTransition "pen.update")
    else
      let departure := pen.emitted.inRange == 1 && pen.emitted.eraser != sample.eraser
      .ok (.pen { recordPenTransitions pen sample with
          desired := sample
          toolSwitchDeparture := departure },
        pen.desired != sample)
  | none, some _, _, _ => .error (nullState "pen.update")

/-- The sample that `aoahid_pen_depart_impl` asks for. -/
def departedSample (sample : PenSample) : PenSample :=
  { sample with inRange := 0, tip := 0, barrelButtons := 0, pressure := 0 }

/-- `aoahid_pen_depart_impl`. -/
def penDepart (node : Node) (link : Link) : Except Reply (NodeState × Bool) :=
  match usable node link .pen "pen.depart", node.state with
  | some reply, _ => .error reply
  | none, .pen pen =>
    let next := departedSample pen.desired
    if penTransitionConflicts pen next then .error (pendingTransition "pen.depart")
    else
      let changed := pen.desired.inRange != 0 || pen.desired.tip != 0 ||
        pen.desired.barrelButtons != 0 || pen.desired.pressure != 0
      .ok (.pen { recordPenTransitions pen next with
          desired := next
          toolSwitchDeparture := false },
        changed)
  | none, _ => .error (nullState "pen.depart")

/-! ### Battery -/

/-- `aoahid_battery_update_impl`. -/
def batteryUpdate (node : Node) (link : Link) (hasValue : UInt32) (strength : Int32) :
    Except Reply (NodeState × Bool) :=
  match usable node link .battery "battery.update", node.state, node.spec.config with
  | some reply, _, _ => .error reply
  | none, .battery battery, .battery { options } =>
    if !validBoolean hasValue then
      .error (.fail .errParam "battery.has_value" "has_value must be exactly zero or one.")
    else if (hasValue = 0 ∧ strength ≠ 0) ∨
        (hasValue = 0 ∧ options.enableUnknownNullState ≠ 1) ∨
        (hasValue = 1 ∧ !inRange strength options.strength) then
      .error (.fail .errParam "battery.strength"
        "The value is outside the declared range or unknown state was not enabled.")
    else
      let nextHasValue := hasValue == 1
      let nextStrength := if nextHasValue then strength else 0
      .ok (.battery { hasValue := nextHasValue, strength := nextStrength },
        battery.hasValue != nextHasValue || battery.strength != nextStrength)
  | none, _, _ => .error (nullState "battery.update")

/-! ### All calls -/

/-- A profile call with its arguments. -/
inductive Call
  | kbd (usage : UInt16) (down : UInt32)
  | mouseMove (dx dy : Int32)
  | mouseScroll (wheel pan : Int32)
  | mouseButton (button pressed : UInt32)
  | toggle (usage : UInt16) (down : UInt32)
  | gamepadButton (button pressed : UInt32)
  | gamepadSetAxis (axisIndex : ℕ) (value : Int32)
  | dpad (up down right left : UInt32)
  | touch (contactId down : UInt32) (x y : Int32) (extra : Option TouchExtra)
  | touchpadButton (button pressed : UInt32)
  | penUpdate (sample : Option PenSample)
  | penDepart
  | batteryUpdate (hasValue : UInt32) (strength : Int32)
  deriving DecidableEq

namespace Call

/-- The new profile state of a call and its `changed`, or its refusal. -/
def outcome (node : Node) (link : Link) : Call → Except Reply (NodeState × Bool)
  | .kbd usage down => LibaoaHid.kbd node link usage down
  | .mouseMove dx dy => LibaoaHid.mouseMove node link dx dy
  | .mouseScroll wheel pan => LibaoaHid.mouseScroll node link wheel pan
  | .mouseButton button pressed => LibaoaHid.mouseButton node link button pressed
  | .toggle usage down => LibaoaHid.toggle node link usage down
  | .gamepadButton button pressed => LibaoaHid.gamepadButton node link button pressed
  | .gamepadSetAxis axisIndex value => LibaoaHid.gamepadSetAxis node link axisIndex value
  | .dpad up down right left => LibaoaHid.dpad node link up down right left
  | .touch contactId down x y extra => LibaoaHid.touch node link contactId down x y extra
  | .touchpadButton button pressed => LibaoaHid.touchpadButton node link button pressed
  | .penUpdate sample => LibaoaHid.penUpdate node link sample
  | .penDepart => LibaoaHid.penDepart node link
  | .batteryUpdate hasValue strength => LibaoaHid.batteryUpdate node link hasValue strength

/-- A call on a Node: its reply and the Node after it. -/
def perform (call : Call) (link : Link) (node : Node) : Reply × Node :=
  match call.outcome node link with
  | .error reply => (reply, node)
  | .ok (state, changed) => (.ok, { node with state, dirty := node.dirty || changed })

/-- A call that does not succeed changes nothing. -/
theorem perform_eq_of_result_ne_ok {call : Call} {link : Link} {node : Node}
    (h : (call.perform link node).1.result ≠ .ok) : (call.perform link node).2 = node := by
  unfold perform at h ⊢
  split
  · rfl
  · next outcome heq => simp [heq] at h

end Call

end LibaoaHid

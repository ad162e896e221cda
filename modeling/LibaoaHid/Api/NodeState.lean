import LibaoaHid.Api.Internal

/-!
# The initial and the neutral state of a Node

The part of `src/api/c_api.cpp` that sets up the profile state of a Node, asks whether it holds
anything, and makes it neutral before a close.

## Main definitions

* `initializeNodeState`, `openNode`.
* `hasNonNeutralState`, `makeNeutral`.
-/

namespace LibaoaHid

/-! ### The initial state -/

/-- `initialize_node_state`: the profile state of a new Node. The source follows the pointer to
the configuration of its kind, which is null when there is no answer here. -/
def initializeNodeState (spec : Spec) : Option NodeState :=
  match spec.kind, spec.config with
  | .keyboard, .keyboard { options } =>
    let keyCount := options.usageMaximum.toNat - options.usageMinimum.toNat + 1
    some (.keyboard
      { keyTransitions := List.replicate keyCount 0
        pressedBitmap := List.replicate keyCount 0 })
  | .mouse, .mouse { options } =>
    some (.mouse
      { buttons := List.replicate options.buttonCount.toNat 0
        buttonTransitions := List.replicate options.buttonCount.toNat 0 })
  | .toggle, _ => some (.consumer {})
  | .gamepad, .gamepad { options, axes } =>
    some (.gamepad
      { axes := axes.map (·.axis.neutralValue)
        buttons := List.replicate options.buttonCount.toNat 0
        buttonTransitions := List.replicate options.buttonCount.toNat 0 })
  | .touchscreen, .touch { fields } | .touchpad, .touch { fields } =>
    some (.touch
      { buttons := List.replicate fields.buttonCount.toNat 0
        buttonTransitions := List.replicate fields.buttonCount.toNat 0 })
  | .pen, _ => some (.pen {})
  | .battery, _ => some (.battery {})
  | .raw, _ => some .raw
  | _, _ => none

/-- The Node that `aoahid_node_open` publishes for a Spec. -/
def openNode (spec : Spec) (hidId : ℕ) : Option Node :=
  (initializeNodeState spec).map fun state => { spec, state, hidId }

/-! ### Neutral states -/

/-- Whether a button is held. -/
def anyPressed (buttons : List UInt8) : Bool := buttons.any (· != 0)

/-- Whether an axis is away from the neutral value of its declaration. -/
def anyAxisMoved (axes : List Int32) (config : GamepadConfig) : Bool :=
  (axes.zip config.axes).any fun entry => entry.1 != entry.2.axis.neutralValue

/-- `has_non_neutral_state`. -/
def hasNonNeutralState (node : Node) : Bool :=
  match node.state with
  | .keyboard keyboard => keyboard.modifiers != 0 || keyboard.pressedBitmapCount != 0
  | .mouse mouse => anyPressed mouse.buttons
  | .consumer consumer => consumer.usage != 0
  | .gamepad gamepad =>
    match node.spec.config with
    | .gamepad config =>
      anyAxisMoved gamepad.axes config || gamepad.hatHasDirection || anyPressed gamepad.buttons
    | _ => false
  | .touch touch => touch.contacts.any (·.phase == .down) || anyPressed touch.buttons
  | .pen pen =>
    pen.toolSwitchDeparture || pen.desired.inRange != 0 || pen.desired.tip != 0 ||
      pen.desired.barrelButtons != 0
  | .battery _ | .raw => false

/-- The buttons of a profile, released. -/
def releaseAll (buttons : List UInt8) : List UInt8 := buttons.map fun _ => 0

/-- `neutralize_keyboard`. -/
def neutralizeKeyboard (keyboard : KeyboardState) : KeyboardState × Bool :=
  ({ keyboard with
    pressedBitmap := releaseAll keyboard.pressedBitmap
    pressedBitmapCount := 0
    modifiers := 0 }, keyboard.modifiers != 0 || keyboard.pressedBitmapCount != 0)

/-- `neutralize_mouse`. -/
def neutralizeMouse (mouse : MouseState) : MouseState × Bool :=
  ({ mouse with buttons := releaseAll mouse.buttons, dx := 0, dy := 0, wheel := 0, pan := 0 },
    anyPressed mouse.buttons)

/-- `neutralize_gamepad`: each axis takes the neutral value declared at its index. -/
def neutralizeGamepad (gamepad : GamepadState) (config : GamepadConfig) : GamepadState × Bool :=
  ({ gamepad with
    axes := (gamepad.axes.zip config.axes).map (·.2.axis.neutralValue)
    buttons := releaseAll gamepad.buttons
    hatHasDirection := false
    hat := 0 },
    anyAxisMoved gamepad.axes config || gamepad.hatHasDirection || anyPressed gamepad.buttons)

/-- `neutralize_touch`. -/
def neutralizeTouch (touch : TouchState) : TouchState × Bool :=
  ({ touch with
    contacts := touch.contacts.map fun contact =>
      if contact.phase = .down then { contact with phase := .up } else contact
    buttons := releaseAll touch.buttons
    packetCursor := 0 },
    touch.contacts.any (·.phase != .none) || anyPressed touch.buttons)

/-- `neutralize_pen`. -/
def neutralizePen (pen : PenState) : PenState × Bool :=
  ({ pen with
    desired := { pen.desired with inRange := 0, tip := 0, barrelButtons := 0, pressure := 0 }
    toolSwitchDeparture := false },
    pen.desired.inRange != 0 || pen.desired.tip != 0 || pen.desired.barrelButtons != 0 ||
      pen.emitted.inRange != 0 || pen.emitted.tip != 0 || pen.emitted.barrelButtons != 0)

/-- The neutral profile state, and whether the state before it was not neutral. -/
def neutralizeState (node : Node) : NodeState × Bool :=
  match node.state with
  | .keyboard keyboard =>
    (.keyboard (neutralizeKeyboard keyboard).1, (neutralizeKeyboard keyboard).2)
  | .mouse mouse => (.mouse (neutralizeMouse mouse).1, (neutralizeMouse mouse).2)
  | .consumer consumer => (.consumer { consumer with usage := 0 }, consumer.usage != 0)
  | .gamepad gamepad =>
    match node.spec.config with
    | .gamepad config =>
      (.gamepad (neutralizeGamepad gamepad config).1, (neutralizeGamepad gamepad config).2)
    -- The source would follow a null configuration pointer.
    | _ => (.gamepad gamepad, false)
  | .touch touch => (.touch (neutralizeTouch touch).1, (neutralizeTouch touch).2)
  | .pen pen => (.pen (neutralizePen pen).1, (neutralizePen pen).2)
  | .battery battery => (.battery battery, false)
  | .raw => (.raw, false)

/-- `make_neutral`. -/
def makeNeutral (node : Node) : Node :=
  { node with
    state := (neutralizeState node).1
    dirty := ((neutralizeState node).2 || node.emittedNonNeutral) && node.spec.kind != .raw &&
      node.spec.kind != .battery }

end LibaoaHid

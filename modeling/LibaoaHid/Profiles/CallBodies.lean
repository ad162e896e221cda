import LibaoaHid.Profiles.CallSteps

/-!
# The profile calls, write by write

The bodies of the thirteen calls of `src/profiles/state.cpp` with their single writes. The source
changes the profile state through a pointer, and an early return does not take back what has been
written before it. So a body is a program that may refuse, and a refusal keeps its state.

The calls of `LibaoaHid.Profiles.Mutators` replace the profile state at once or leave it alone. The
bodies do the same, since every check stands in front of the first write.

## Main definitions

* `Body`, `Body.onNode`: programs that write as they go, and what they leave on a Node.
* `kbdBody`, `pressButtonBody`, `mouseMoveBody`, `mouseScrollBody`, `toggleBody`,
  `gamepadSetAxisBody`, `dpadBody`, `touchBody`, `penUpdateBody`, `penDepartBody`,
  `batteryUpdateBody`.
* `Call.write`: a call with its checks and its body.

## Main results

* `Call.write_eq_perform`: the writes of a call are those of one step.
-/

namespace LibaoaHid

/-! ### Bodies -/

/-- A program over a profile state. A refusal keeps the writes in front of it. -/
abbrev Body (σ : Type) := ExceptT Reply (StateM σ)

namespace Body

variable {σ : Type}

/-- The answer of a body and the state that it leaves. -/
def leave {α : Type} (body : Body σ α) (state : σ) : Except Reply α × σ := body.run.run state

section Leave

variable {α β : Type} (state : σ)

@[simp] theorem leave_pure (value : α) : (pure value : Body σ α).leave state = (.ok value, state) :=
  rfl

@[simp] theorem leave_throw (reply : Reply) :
    (throw reply : Body σ α).leave state = (.error reply, state) := rfl

@[simp] theorem leave_get : (get : Body σ σ).leave state = (.ok state, state) := rfl

@[simp] theorem leave_modify (write : σ → σ) :
    (modify write : Body σ PUnit).leave state = (.ok ⟨⟩, write state) := rfl

/-- A refusal skips what is left of a program, and keeps the writes. -/
theorem leave_bind (body : Body σ α) (rest : α → Body σ β) :
    (body >>= rest).leave state =
      match body.leave state with
      | (.ok value, state) => (rest value).leave state
      | (.error reply, state) => (.error reply, state) := by
  change (ExceptT.bindCont rest (body.leave state).1 : StateM σ _) (body.leave state).2 = _
  rcases body.leave state with ⟨_ | _, _⟩ <;> rfl

theorem leave_ite {p : Prop} [Decidable p] (first second : Body σ α) :
    (if p then first else second).leave state =
      if p then first.leave state else second.leave state := by
  split_ifs <;> rfl

end Leave

/-- What a body leaves on a Node whose profile state is `wrap state`. Its value is `changed`. -/
def onNode (body : Body σ Bool) (wrap : σ → NodeState) (state : σ) (node : Node) : Reply × Node :=
  match body.leave state with
  | (.error reply, state) => (reply, { node with state := wrap state })
  | (.ok changed, state) =>
    (.ok, { node with state := wrap state, dirty := node.dirty || changed })

end Body

/-! ### Keyboard -/

/-- The modifier branch of `aoahid_kbd_impl`. -/
def pressModifierBody (mask : UInt8) (press : Bool) : Body KeyboardState Bool := do
  let keyboard ← get
  let changed := ((keyboard.modifiers &&& mask) != 0) != press
  if changed ∧ keyboard.modifierTransitions &&& mask ≠ 0 then throw (pendingTransition "kbd")
  if changed then
    modify fun keyboard => { keyboard with
      modifiers :=
        if press then keyboard.modifiers ||| mask else keyboard.modifiers &&& ~~~mask }
    modify fun keyboard => { keyboard with
      modifierTransitions := keyboard.modifierTransitions ||| mask }
  return changed

/-- The bitmap branch of `aoahid_kbd_impl`, behind its range check. -/
def pressKeyBody (index : ℕ) (press : Bool) : Body KeyboardState Bool := do
  let keyboard ← get
  if index ≥ keyboard.keyTransitions.length then
    throw (.fail .errInternal "kbd"
      "The preallocated keyboard state does not match the declared Usage range.")
  if index ≥ keyboard.pressedBitmap.length then
    throw (.fail .errInternal "kbd"
      "The preallocated bitmap does not match the declared Usage range.")
  let changed := (keyboard.pressedBitmap.getD index 0 != 0) != press
  if changed ∧ keyboard.keyTransitions.getD index 0 ≠ 0 then throw (pendingTransition "kbd")
  if changed then
    if press then
      if keyboard.pressedBitmapCount ≥ keyboard.pressedBitmap.length then
        throw (.fail .errInternal "kbd" "The bitmap key count is inconsistent with its storage.")
      modify fun keyboard => { keyboard with
        pressedBitmap := keyboard.pressedBitmap.set index 1 }
      modify fun keyboard => { keyboard with
        pressedBitmapCount := keyboard.pressedBitmapCount + 1 }
    else
      if keyboard.pressedBitmapCount = 0 then
        throw (.fail .errInternal "kbd" "The bitmap key count is inconsistent with its storage.")
      modify fun keyboard => { keyboard with
        pressedBitmap := keyboard.pressedBitmap.set index 0 }
      modify fun keyboard => { keyboard with
        pressedBitmapCount := keyboard.pressedBitmapCount - 1 }
    modify fun keyboard => { keyboard with keyTransitions := keyboard.keyTransitions.set index 1 }
  return changed

/-- `aoahid_kbd_impl`. -/
def kbdBody (options : KeyboardOptions) (usage : UInt16) (press : Bool) :
    Body KeyboardState Bool :=
  if usage.toNat ≥ Usage.keyboardLeftControl ∧ usage.toNat ≤ Usage.keyboardRightGui then
    pressModifierBody (UInt8.ofNat (1 <<< (usage.toNat - Usage.keyboardLeftControl))) press
  else if usage.toNat < options.usageMinimum.toNat ∨ usage.toNat > options.usageMaximum.toNat then
    throw (.fail .errParam "kbd.usage" "The Usage is outside the caller-declared key range.")
  else pressKeyBody (usage.toNat - options.usageMinimum.toNat) press

/-! ### Buttons -/

/-- The common body of the three button calls, over the values and their transition flags. -/
def pressButtonBody (button pressed : UInt32) (field : String) :
    Body (List UInt8 × List UInt8) Bool := do
  let (values, transitions) ← get
  if button.toNat = 0 ∨ button.toNat > values.length ∨ !validBoolean pressed then
    throw (.fail .errParam field "Button is one-based and pressed must be zero or one.")
  if values.length ≠ transitions.length then
    throw (.fail .errInternal field
      "The preallocated lifecycle-transition state does not match the profile layout.")
  let index := button.toNat - 1
  let value := pressed.toUInt8
  let changed := values.getD index 0 != value
  if changed ∧ transitions.getD index 0 ≠ 0 then throw (pendingTransition field)
  if changed then
    modify fun (values, transitions) => (values.set index value, transitions)
    modify fun (values, transitions) => (values, transitions.set index 1)
  return changed

/-! ### Mouse -/

/-- `aoahid_mouse_move_impl`. -/
def mouseMoveBody (dx dy : Int32) : Body MouseState Bool := do
  let mouse ← get
  match addChecked mouse.dx dx, addChecked mouse.dy dy with
  | some nextDx, some nextDy =>
    modify fun mouse => { mouse with dx := nextDx }
    modify fun mouse => { mouse with dy := nextDy }
    return dx != 0 || dy != 0
  | _, _ =>
    throw (.fail .errOverflow "mouse.delta" "The pending relative movement overflowed int64_t.")

/-- `aoahid_mouse_scroll_impl`. -/
def mouseScrollBody (options : MouseOptions) (wheel pan : Int32) : Body MouseState Bool := do
  let mouse ← get
  if (wheel ≠ 0 ∧ options.enableWheel ≠ 1) ∨ (pan ≠ 0 ∧ options.enablePan ≠ 1) then
    throw (.fail .errUnsupported "mouse.scroll"
      "The requested scroll axis is absent from the spec.")
  match addChecked mouse.wheel wheel, addChecked mouse.pan pan with
  | some nextWheel, some nextPan =>
    modify fun mouse => { mouse with wheel := nextWheel }
    modify fun mouse => { mouse with pan := nextPan }
    return wheel != 0 || pan != 0
  | _, _ =>
    throw (.fail .errOverflow "mouse.scroll" "The pending relative scroll overflowed int64_t.")

/-! ### Toggle -/

/-- `aoahid_toggle_impl`, behind its checks of the Node. -/
def toggleBody (allowedUsages : List UInt16) (usage : UInt16) (down : UInt32) :
    Body ConsumerState Bool := do
  let consumer ← get
  if down = 1 ∧ usage ∉ allowedUsages then
    throw (.fail .errParam "toggle.usage" "The Usage is not in the caller allow-list.")
  if down ≠ 1 ∧ usage ≠ 0 ∧ usage ≠ consumer.usage then
    throw (.fail .errParam "toggle.usage"
      "usage on release must be 0 or the Usage currently pressed.")
  let nextUsage := if down = 1 then usage else 0
  let changed := consumer.usage != nextUsage
  if changed ∧ consumer.transitionPending then throw (pendingTransition "toggle")
  if changed then
    modify fun consumer => { consumer with usage := nextUsage }
    modify fun consumer => { consumer with transitionPending := true }
  return changed

/-! ### Gamepad -/

/-- `aoahid_gamepad_set_axis_impl`. -/
def gamepadSetAxisBody (axes : List GamepadAxisConfig) (axisIndex : ℕ) (value : Int32) :
    Body GamepadState Bool := do
  let gamepad ← get
  if axisIndex ≥ gamepad.axes.length then
    throw (.fail .errParam "gamepad.axis" "The axis index or value is outside the spec.")
  match axes[axisIndex]? with
  | none => throw (nullState "gamepad.axis")
  | some entry =>
    if !inRange value entry.axis.value then
      throw (.fail .errParam "gamepad.axis" "The axis index or value is outside the spec.")
    let changed := gamepad.axes.getD axisIndex 0 != value
    modify fun gamepad => { gamepad with axes := gamepad.axes.set axisIndex value }
    return changed

/-- `aoahid_dpad_impl`. -/
def dpadBody (options : GamepadOptions) (up down right left : UInt32) :
    Body GamepadState Bool := do
  if (options.dpadRepresentation ≠ .buttons ∧ options.dpadRepresentation ≠ .hat) ∨
      !validBoolean up ∨ !validBoolean down ∨ !validBoolean right ∨ !validBoolean left then
    throw (.fail .errParam "gamepad.dpad"
      ("The spec must select a D-pad representation and every direction must be zero " ++
        "or one."))
  if options.dpadRepresentation = .hat ∧ ((up = 1 ∧ down = 1) ∨ (right = 1 ∧ left = 1)) then
    throw (.fail .errParam "gamepad.dpad"
      "A Hat Switch cannot encode opposite directions simultaneously.")
  let bits := directionBits (up == 1) (down == 1) (right == 1) (left == 1)
  let anyDirection := bits != 0
  let encoded :=
    if options.dpadRepresentation = .hat ∧ bits ≠ 0 then
      hatDirection (up == 1) (down == 1) (right == 1) (left == 1)
    else bits
  let gamepad ← get
  let changed := gamepad.hatHasDirection != anyDirection || gamepad.hat != encoded
  if changed ∧ gamepad.hatTransitionPending then throw (pendingTransition "gamepad.dpad")
  if changed then
    modify fun gamepad => { gamepad with hatHasDirection := anyDirection }
    modify fun gamepad => { gamepad with hat := encoded }
    modify fun gamepad => { gamepad with hatTransitionPending := true }
  return changed

/-! ### Touch -/

/-- A write to one contact. -/
def TouchState.writeContact (touch : TouchState) (slot : ℕ) (write : ContactState → ContactState) :
    TouchState :=
  { touch with contacts := touch.contacts.set slot (write (touch.contacts.getD slot {})) }

theorem TouchState.writeContact_writeContact (touch : TouchState) (slot : ℕ)
    (first second : ContactState → ContactState) :
    (touch.writeContact slot first).writeContact slot second =
      touch.writeContact slot fun contact => second (first contact) := by
  by_cases hslot : slot < touch.contacts.length
  · simp [writeContact, hslot]
  · have hout : touch.contacts.length ≤ slot := not_lt.mp hslot
    simp [writeContact, List.set_eq_of_length_le hout]

/-- `modifyContact` writes to one contact. -/
def modifyContact (slot : ℕ) (write : ContactState → ContactState) : Body TouchState PUnit :=
  modify fun touch => touch.writeContact slot write

/-- The lift branch of `aoahid_touch_impl` on the slot that was found. -/
def liftContactBody (fields : TouchFields) (slot : ℕ) (x y : Int32) : Body TouchState Bool := do
  let touch ← get
  if !inRange x fields.x ∨ !inRange y fields.y then
    throw (.fail .errParam "touch" "The final coordinates are outside the spec.")
  if (touch.contacts.getD slot {}).lifecycleTransitionPending then
    throw (pendingTransition "touch")
  modifyContact slot fun contact => { contact with phase := .up }
  modifyContact slot fun contact => { contact with sample := { contact.sample with x } }
  modifyContact slot fun contact => { contact with sample := { contact.sample with y } }
  modifyContact slot fun contact => { contact with sample := { contact.sample with pressure := 0 } }
  modifyContact slot fun contact => { contact with lifecycleTransitionPending := true }
  modify fun touch => { touch with packetCursor := 0 }
  return true

/-- The move branch of `aoahid_touch_impl` on the slot that was found. -/
def moveContactBody (slot : ℕ) (sample : TouchContact) : Body TouchState Bool := do
  let touch ← get
  let contact := touch.contacts.getD slot {}
  let changed := contact.sample.x != sample.x || contact.sample.y != sample.y ||
    contact.sample.pressure != sample.pressure || contact.sample.width != sample.width ||
    contact.sample.height != sample.height || contact.sample.azimuth != sample.azimuth
  modifyContact slot fun contact => { contact with sample }
  modify fun touch => { touch with packetCursor := 0 }
  return changed

/-- The placing branch of `aoahid_touch_impl`. -/
def placeContactBody (fields : TouchFields) (sample : TouchContact) : Body TouchState Bool := do
  let touch ← get
  if touch.contacts.any fun entry =>
      entry.phase != .none && entry.sample.contactId == sample.contactId then
    throw (.fail .errBusy "touch.contact_id" "The Contact ID is already active.")
  match touch.contacts.findIdx? (·.phase == .none) with
  | none =>
    throw (.fail .errOverflow "touch.maximum_contacts" "No declared contact slot remains.")
  | some slot =>
    if touch.contacts.countP (·.phase != .none) ≥ fields.maximumContacts.toNat then
      throw (.fail .errOverflow "touch.maximum_contacts" "No declared contact slot remains.")
    modifyContact slot fun contact => { contact with phase := .down }
    modifyContact slot fun contact => { contact with sample }
    modifyContact slot fun contact => { contact with lifecycleTransitionPending := true }
    modify fun touch => { touch with packetCursor := 0 }
    return true

/-- `aoahid_touch_impl`, behind its checks of the Node. -/
def touchBody (fields : TouchFields) (contactId down : UInt32) (x y : Int32)
    (extra : Option TouchExtra) : Body TouchState Bool := do
  let touch ← get
  if touch.packetCursor ≠ 0 then
    throw (.fail .errBusy "touch"
      "The current multi-packet frame must finish before state changes.")
  match touch.contacts.findIdx? (ContactState.isDown contactId) with
  | none =>
    if down = 0 then
      throw (.fail .errParam "touch.contact_id" "Lift requires an active Contact ID.")
    if !validateContact fields (touchSample contactId x y extra) then
      throw (.fail .errParam "touch" "A contact value is outside its declared logical range.")
    placeContactBody fields (touchSample contactId x y extra)
  | some slot =>
    if down = 0 then liftContactBody fields slot x y
    else
      if !validateContact fields (touchSample contactId x y extra) then
        throw (.fail .errParam "touch" "A contact value is outside its declared logical range.")
      moveContactBody slot (touchSample contactId x y extra)

/-! ### Pen -/

/-- `record_pen_transitions`. -/
def recordPenTransitionsBody (next : PenSample) : Body PenState PUnit := do
  modify fun pen => { pen with
    inRangeTransitionPending :=
      pen.inRangeTransitionPending || pen.desired.inRange != next.inRange }
  modify fun pen => { pen with
    tipTransitionPending := pen.tipTransitionPending || pen.desired.tip != next.tip }
  modify fun pen => { pen with
    eraserTransitionPending := pen.eraserTransitionPending || pen.desired.eraser != next.eraser }
  modify fun pen => { pen with
    barrelTransitions := pen.barrelTransitions ||| penBarrelChanges pen.desired next }

/-- `aoahid_pen_update_impl`, behind its check of the pointer. -/
def penUpdateBody (options : PenOptions) (sample : PenSample) : Body PenState Bool := do
  if !validatePenSample options sample then
    throw (.fail .errParam "pen.sample"
      "A flag, button, or value is outside the immutable pen spec.")
  let pen ← get
  let changed := pen.desired != sample
  if penTransitionConflicts pen sample then throw (pendingTransition "pen.update")
  recordPenTransitionsBody sample
  modify fun pen => { pen with desired := sample }
  modify fun pen => { pen with
    toolSwitchDeparture :=
      pen.emitted.inRange == 1 && pen.emitted.eraser != pen.desired.eraser }
  return changed

/-- `aoahid_pen_depart_impl`. -/
def penDepartBody : Body PenState Bool := do
  let pen ← get
  let next := departedSample pen.desired
  if penTransitionConflicts pen next then throw (pendingTransition "pen.depart")
  let changed := pen.desired.inRange != 0 || pen.desired.tip != 0 ||
    pen.desired.barrelButtons != 0 || pen.desired.pressure != 0
  recordPenTransitionsBody next
  modify fun pen => { pen with desired := next }
  modify fun pen => { pen with toolSwitchDeparture := false }
  return changed

/-! ### Battery -/

/-- `aoahid_battery_update_impl`. -/
def batteryUpdateBody (options : BatteryOptions) (hasValue : UInt32) (strength : Int32) :
    Body BatteryState Bool := do
  if !validBoolean hasValue then
    throw (.fail .errParam "battery.has_value" "has_value must be exactly zero or one.")
  if (hasValue = 0 ∧ strength ≠ 0) ∨ (hasValue = 0 ∧ options.enableUnknownNullState ≠ 1) ∨
      (hasValue = 1 ∧ !inRange strength options.strength) then
    throw (.fail .errParam "battery.strength"
      "The value is outside the declared range or unknown state was not enabled.")
  let battery ← get
  let nextHasValue := hasValue == 1
  let nextStrength := if nextHasValue then strength else 0
  let changed := battery.hasValue != nextHasValue || battery.strength != nextStrength
  modify fun battery => { battery with hasValue := nextHasValue }
  modify fun battery => { battery with strength := nextStrength }
  return changed

/-! ### Calls -/

section Calls

variable (node : Node) (link : Link)

/-- `aoahid_kbd_impl`. -/
def kbdImpl (usage : UInt16) (down : UInt32) : Reply × Node :=
  if !validBoolean down then
    (.fail .errParam "kbd" "down must be exactly zero or one.", node)
  else
    match usable node link .keyboard "kbd", node.state, node.spec.config with
    | some reply, _, _ => (reply, node)
    | none, .keyboard keyboard, .keyboard { options } =>
      (kbdBody options usage (down == 1)).onNode .keyboard keyboard node
    | none, _, _ => (nullState "kbd", node)

/-- `aoahid_mouse_move_impl`. -/
def mouseMoveImpl (dx dy : Int32) : Reply × Node :=
  match usable node link .mouse "mouse.move", node.state with
  | some reply, _ => (reply, node)
  | none, .mouse mouse => (mouseMoveBody dx dy).onNode .mouse mouse node
  | none, _ => (nullState "mouse.move", node)

/-- `aoahid_mouse_scroll_impl`. -/
def mouseScrollImpl (wheel pan : Int32) : Reply × Node :=
  match usable node link .mouse "mouse.scroll", node.state, node.spec.config with
  | some reply, _, _ => (reply, node)
  | none, .mouse mouse, .mouse { options } =>
    (mouseScrollBody options wheel pan).onNode .mouse mouse node
  | none, _, _ => (nullState "mouse.scroll", node)

/-- `aoahid_mouse_button_impl`. -/
def mouseButtonImpl (button pressed : UInt32) : Reply × Node :=
  match usable node link .mouse "mouse.button", node.state with
  | some reply, _ => (reply, node)
  | none, .mouse mouse =>
    (pressButtonBody button pressed "mouse.button").onNode
      (fun (values, transitions) =>
        .mouse { mouse with buttons := values, buttonTransitions := transitions })
      (mouse.buttons, mouse.buttonTransitions) node
  | none, _ => (nullState "mouse.button", node)

/-- `aoahid_toggle_impl`. -/
def toggleImpl (usage : UInt16) (down : UInt32) : Reply × Node :=
  if !validBoolean down then
    (.fail .errParam "toggle" "down must be exactly zero or one.", node)
  else if node.closed ∨ node.spec.kind ≠ .toggle then
    (.fail .errParam "toggle" "The operation requires a live Toggle node.", node)
  else
    match linkAvailable node link "toggle", node.state, node.spec.config with
    | some reply, _, _ => (reply, node)
    | none, .consumer consumer, .consumer { allowedUsages, .. } =>
      if node.transferInflight then
        (.fail .errBusy "toggle" "The node has one report in flight.", node)
      else (toggleBody allowedUsages usage down).onNode .consumer consumer node
    | none, _, _ => (nullState "toggle", node)

/-- `aoahid_gamepad_button_impl`. -/
def gamepadButtonImpl (button pressed : UInt32) : Reply × Node :=
  match usable node link .gamepad "gamepad.button", node.state with
  | some reply, _ => (reply, node)
  | none, .gamepad gamepad =>
    (pressButtonBody button pressed "gamepad.button").onNode
      (fun (values, transitions) =>
        .gamepad { gamepad with buttons := values, buttonTransitions := transitions })
      (gamepad.buttons, gamepad.buttonTransitions) node
  | none, _ => (nullState "gamepad.button", node)

/-- `aoahid_gamepad_set_axis_impl`. -/
def gamepadSetAxisImpl (axisIndex : ℕ) (value : Int32) : Reply × Node :=
  match usable node link .gamepad "gamepad.axis", node.state, node.spec.config with
  | some reply, _, _ => (reply, node)
  | none, .gamepad gamepad, .gamepad { axes, .. } =>
    (gamepadSetAxisBody axes axisIndex value).onNode .gamepad gamepad node
  | none, _, _ => (nullState "gamepad.axis", node)

/-- `aoahid_dpad_impl`. -/
def dpadImpl (up down right left : UInt32) : Reply × Node :=
  match usable node link .gamepad "gamepad.dpad", node.state, node.spec.config with
  | some reply, _, _ => (reply, node)
  | none, .gamepad gamepad, .gamepad { options, .. } =>
    (dpadBody options up down right left).onNode .gamepad gamepad node
  | none, _, _ => (nullState "gamepad.dpad", node)

/-- `aoahid_touch_impl`. -/
def touchImpl (contactId down : UInt32) (x y : Int32) (extra : Option TouchExtra) :
    Reply × Node :=
  if (node.spec.kind ≠ .touchscreen ∧ node.spec.kind ≠ .touchpad) ∨ node.closed ∨
      !validBoolean down then
    (.fail .errParam "touch" "A live touch node and boolean down are required.", node)
  else
    match linkAvailable node link "touch", node.state, node.spec.config with
    | some reply, _, _ => (reply, node)
    | none, .touch touch, .touch { fields } =>
      if node.transferInflight then
        (.fail .errBusy "touch" "A touch report is in flight.", node)
      else (touchBody fields contactId down x y extra).onNode .touch touch node
    | none, _, _ => (nullState "touch", node)

/-- `aoahid_touchpad_button_impl`. -/
def touchpadButtonImpl (button pressed : UInt32) : Reply × Node :=
  match usable node link .touchpad "touchpad.button", node.state with
  | some reply, _ => (reply, node)
  | none, .touch touch =>
    if touch.packetCursor ≠ 0 then
      (.fail .errBusy "touchpad.button"
        "The current multi-packet frame must finish before state changes.", node)
    else
      (pressButtonBody button pressed "touchpad.button").onNode
        (fun (values, transitions) =>
          .touch { touch with buttons := values, buttonTransitions := transitions })
        (touch.buttons, touch.buttonTransitions) node
  | none, _ => (nullState "touchpad.button", node)

/-- `aoahid_pen_update_impl`. -/
def penUpdateImpl (sample : Option PenSample) : Reply × Node :=
  match usable node link .pen "pen.update", sample, node.state, node.spec.config with
  | some reply, _, _, _ => (reply, node)
  | none, none, _, _ =>
    (.fail .errParam "pen.sample" "The pen sample pointer is null.", node)
  | none, some sample, .pen pen, .pen { options, .. } =>
    (penUpdateBody options sample).onNode .pen pen node
  | none, some _, _, _ => (nullState "pen.update", node)

/-- `aoahid_pen_depart_impl`. -/
def penDepartImpl : Reply × Node :=
  match usable node link .pen "pen.depart", node.state with
  | some reply, _ => (reply, node)
  | none, .pen pen => penDepartBody.onNode .pen pen node
  | none, _ => (nullState "pen.depart", node)

/-- `aoahid_battery_update_impl`. -/
def batteryUpdateImpl (hasValue : UInt32) (strength : Int32) : Reply × Node :=
  match usable node link .battery "battery.update", node.state, node.spec.config with
  | some reply, _, _ => (reply, node)
  | none, .battery battery, .battery { options } =>
    (batteryUpdateBody options hasValue strength).onNode .battery battery node
  | none, _, _ => (nullState "battery.update", node)

end Calls

/-- A profile call with its checks and its writes. -/
def Call.write (call : Call) (link : Link) (node : Node) : Reply × Node :=
  match call with
  | .kbd usage down => kbdImpl node link usage down
  | .mouseMove dx dy => mouseMoveImpl node link dx dy
  | .mouseScroll wheel pan => mouseScrollImpl node link wheel pan
  | .mouseButton button pressed => mouseButtonImpl node link button pressed
  | .toggle usage down => toggleImpl node link usage down
  | .gamepadButton button pressed => gamepadButtonImpl node link button pressed
  | .gamepadSetAxis axisIndex value => gamepadSetAxisImpl node link axisIndex value
  | .dpad up down right left => dpadImpl node link up down right left
  | .touch contactId down x y extra => touchImpl node link contactId down x y extra
  | .touchpadButton button pressed => touchpadButtonImpl node link button pressed
  | .penUpdate sample => penUpdateImpl node link sample
  | .penDepart => penDepartImpl node link
  | .batteryUpdate hasValue strength => batteryUpdateImpl node link hasValue strength

/-! ### Writes and outcomes -/

/-- What an outcome leaves of a profile state: a refusal leaves it alone. -/
def settle (state : NodeState) : Except Reply (NodeState × Bool) → Except Reply Bool × NodeState
  | .error reply => (.error reply, state)
  | .ok (next, changed) => (.ok changed, next)

/-- What an outcome leaves of a Node. -/
def Node.settle (node : Node) : Except Reply (NodeState × Bool) → Reply × Node
  | .error reply => (reply, node)
  | .ok (state, changed) => (.ok, { node with state, dirty := node.dirty || changed })

namespace Body

variable {σ : Type}

/-- The writes of a body are those of an outcome. -/
def Yields (body : Body σ Bool) (wrap : σ → NodeState) (state : σ)
    (outcome : Except Reply (NodeState × Bool)) : Prop :=
  ((body.leave state).1, wrap (body.leave state).2) = LibaoaHid.settle (wrap state) outcome

/-- What such a body leaves on its Node. -/
theorem onNode_eq {body : Body σ Bool} {wrap : σ → NodeState} {state : σ} {node : Node}
    {outcome : Except Reply (NodeState × Bool)} (hstate : node.state = wrap state)
    (h : body.Yields wrap state outcome) : body.onNode wrap state node = node.settle outcome := by
  rw [Yields] at h
  rw [onNode]
  rcases hleave : body.leave state with ⟨answer, state'⟩
  rw [hleave] at h
  cases outcome with
  | error reply =>
    obtain ⟨rfl, hsame⟩ := Prod.mk.inj h
    dsimp only at hsame ⊢
    rw [hsame, ← hstate]
    rfl
  | ok next =>
    obtain ⟨rfl, hnext⟩ := Prod.mk.inj h
    dsimp only at hnext ⊢
    rw [hnext]
    rfl

end Body

/-! ### One step a body -/

theorem pressModifierBody_yields (mask : UInt8) (press : Bool) (keyboard : KeyboardState) :
    (pressModifierBody mask press).Yields .keyboard keyboard
      ((pressModifier keyboard mask press).map fun next => (.keyboard next.1, next.2)) := by
  simp only [Body.Yields, pressModifierBody, pressModifier, Body.leave_bind, Body.leave_get,
    Body.leave_ite, Body.leave_throw, Body.leave_modify, Body.leave_pure]
  split_ifs <;> simp_all [settle, Except.map]

theorem pressKeyBody_yields (index : ℕ) (press : Bool) (keyboard : KeyboardState) :
    (pressKeyBody index press).Yields .keyboard keyboard
      ((pressKey keyboard index press).map fun next => (.keyboard next.1, next.2)) := by
  simp only [Body.Yields, pressKeyBody, pressKey, Body.leave_bind, Body.leave_get,
    Body.leave_ite, Body.leave_throw, Body.leave_modify, Body.leave_pure]
  split_ifs <;> simp_all [settle, Except.map]

theorem pressButtonBody_yields (button pressed : UInt32) (field : String)
    (wrap : List UInt8 × List UInt8 → NodeState) (values transitions : List UInt8) :
    (pressButtonBody button pressed field).Yields wrap (values, transitions)
      ((pressButton values transitions button pressed field).map fun next =>
        (wrap next.1, next.2)) := by
  simp only [Body.Yields, pressButtonBody, pressButton, Body.leave_bind, Body.leave_get,
    Body.leave_ite, Body.leave_throw, Body.leave_modify, Body.leave_pure]
  split_ifs <;> simp_all [settle, Except.map]

theorem liftContactBody_yields (fields : TouchFields) (slot : ℕ) (x y : Int32)
    (touch : TouchState) :
    (liftContactBody fields slot x y).Yields .touch touch
      ((liftContact fields touch slot x y).map fun next => (.touch next.1, next.2)) := by
  simp only [Body.Yields, liftContactBody, liftContact, modifyContact, Body.leave_bind,
    Body.leave_get, Body.leave_ite, Body.leave_throw, Body.leave_modify, Body.leave_pure,
    TouchState.writeContact_writeContact]
  split_ifs <;> rfl

theorem moveContactBody_yields (slot : ℕ) (sample : TouchContact) (touch : TouchState) :
    (moveContactBody slot sample).Yields .touch touch
      (.ok (.touch (moveContact touch slot sample).1, (moveContact touch slot sample).2)) := by
  simp only [Body.Yields, moveContactBody, moveContact, modifyContact, Body.leave_bind,
    Body.leave_get, Body.leave_modify, Body.leave_pure]
  rfl

theorem placeContactBody_yields (fields : TouchFields) (sample : TouchContact)
    (touch : TouchState) :
    (placeContactBody fields sample).Yields .touch touch
      ((placeContact fields touch sample).map fun next => (.touch next.1, next.2)) := by
  simp only [Body.Yields, placeContactBody, placeContact, modifyContact, Body.leave_bind,
    Body.leave_get, Body.leave_ite, Body.leave_throw]
  by_cases hactive : (touch.contacts.any fun entry =>
      entry.phase != .none && entry.sample.contactId == sample.contactId) = true
  · simp only [hactive, if_true]
    rfl
  · simp only [hactive, if_false, Bool.false_eq_true]
    cases touch.contacts.findIdx? (·.phase == .none) with
    | none => rfl
    | some slot =>
      simp only [Body.leave_bind, Body.leave_ite, Body.leave_throw, Body.leave_modify,
        Body.leave_pure, TouchState.writeContact_writeContact]
      split_ifs <;> rfl

/-! ### The calls -/

section Calls

variable (node : Node) (link : Link)

theorem kbdImpl_eq (usage : UInt16) (down : UInt32) :
    kbdImpl node link usage down = node.settle (kbd node link usage down) := by
  rw [kbdImpl, kbd]
  by_cases hdown : (!validBoolean down) = true
  · rw [if_pos hdown, if_pos hdown]
    rfl
  rw [if_neg hdown, if_neg hdown]
  cases usable node link .keyboard "kbd" with
  | some reply => rfl
  | none =>
    cases hstate : node.state with
    | keyboard keyboard =>
      cases node.spec.config with
      | keyboard c =>
        refine Body.onNode_eq hstate ?_
        rw [kbdBody]
        dsimp only
        split_ifs
        · exact pressModifierBody_yields _ _ _
        · rfl
        · exact pressKeyBody_yields _ _ _
      | _ => rfl
    | _ => rfl

theorem mouseMoveImpl_eq (dx dy : Int32) :
    mouseMoveImpl node link dx dy = node.settle (mouseMove node link dx dy) := by
  rw [mouseMoveImpl, mouseMove]
  cases usable node link .mouse "mouse.move" with
  | some reply => rfl
  | none =>
    cases hstate : node.state with
    | mouse mouse =>
      refine Body.onNode_eq hstate ?_
      simp only [Body.Yields, mouseMoveBody, Body.leave_bind, Body.leave_get]
      cases addChecked mouse.dx dx with
      | none => rfl
      | some nextDx => cases addChecked mouse.dy dy <;> rfl
    | _ => rfl

theorem mouseScrollImpl_eq (wheel pan : Int32) :
    mouseScrollImpl node link wheel pan = node.settle (mouseScroll node link wheel pan) := by
  rw [mouseScrollImpl, mouseScroll]
  cases usable node link .mouse "mouse.scroll" with
  | some reply => rfl
  | none =>
    cases hstate : node.state with
    | mouse mouse =>
      cases node.spec.config with
      | mouse c =>
        refine Body.onNode_eq hstate ?_
        simp only [Body.Yields, mouseScrollBody, Body.leave_bind, Body.leave_get, Body.leave_ite]
        split_ifs
        · rfl
        · cases addChecked mouse.wheel wheel with
          | none => rfl
          | some nextWheel => cases addChecked mouse.pan pan <;> rfl
      | _ => rfl
    | _ => rfl

theorem mouseButtonImpl_eq (button pressed : UInt32) :
    mouseButtonImpl node link button pressed =
      node.settle (mouseButton node link button pressed) := by
  rw [mouseButtonImpl, mouseButton]
  cases usable node link .mouse "mouse.button" with
  | some reply => rfl
  | none =>
    cases hstate : node.state with
    | mouse mouse => exact Body.onNode_eq hstate (pressButtonBody_yields _ _ _ _ _ _)
    | _ => rfl

theorem toggleImpl_eq (usage : UInt16) (down : UInt32) :
    toggleImpl node link usage down = node.settle (toggle node link usage down) := by
  rw [toggleImpl, toggle]
  by_cases hdown : (!validBoolean down) = true
  · rw [if_pos hdown, if_pos hdown]
    rfl
  rw [if_neg hdown, if_neg hdown]
  by_cases hkind : node.closed ∨ node.spec.kind ≠ .toggle
  · rw [if_pos hkind, if_pos hkind]
    rfl
  rw [if_neg hkind, if_neg hkind]
  cases linkAvailable node link "toggle" with
  | some reply => rfl
  | none =>
    cases hstate : node.state with
    | consumer consumer =>
      cases node.spec.config with
      | consumer c =>
        by_cases hinflight : node.transferInflight = true
        · simp only [hinflight, if_true]
          rfl
        simp only [hinflight, if_false, Bool.false_eq_true]
        refine Body.onNode_eq hstate ?_
        simp only [Body.Yields, toggleBody, Body.leave_bind, Body.leave_get, Body.leave_ite,
          Body.leave_throw, Body.leave_modify, Body.leave_pure]
        split_ifs <;> simp_all [settle]
      | _ => rfl
    | _ => rfl

theorem gamepadButtonImpl_eq (button pressed : UInt32) :
    gamepadButtonImpl node link button pressed =
      node.settle (gamepadButton node link button pressed) := by
  rw [gamepadButtonImpl, gamepadButton]
  cases usable node link .gamepad "gamepad.button" with
  | some reply => rfl
  | none =>
    cases hstate : node.state with
    | gamepad gamepad => exact Body.onNode_eq hstate (pressButtonBody_yields _ _ _ _ _ _)
    | _ => rfl

theorem gamepadSetAxisImpl_eq (axisIndex : ℕ) (value : Int32) :
    gamepadSetAxisImpl node link axisIndex value =
      node.settle (gamepadSetAxis node link axisIndex value) := by
  rw [gamepadSetAxisImpl, gamepadSetAxis]
  cases usable node link .gamepad "gamepad.axis" with
  | some reply => rfl
  | none =>
    cases hstate : node.state with
    | gamepad gamepad =>
      cases node.spec.config with
      | gamepad c =>
        refine Body.onNode_eq hstate ?_
        simp only [Body.Yields, gamepadSetAxisBody, Body.leave_bind, Body.leave_get,
          Body.leave_ite]
        split_ifs
        · rfl
        · cases c.axes[axisIndex]? with
          | none => rfl
          | some entry =>
            simp only [Body.leave_bind, Body.leave_ite, Body.leave_throw, Body.leave_modify,
              Body.leave_pure]
            split_ifs <;> rfl
      | _ => rfl
    | _ => rfl

theorem dpadImpl_eq (up down right left : UInt32) :
    dpadImpl node link up down right left = node.settle (dpad node link up down right left) := by
  rw [dpadImpl, dpad]
  cases usable node link .gamepad "gamepad.dpad" with
  | some reply => rfl
  | none =>
    cases hstate : node.state with
    | gamepad gamepad =>
      cases node.spec.config with
      | gamepad c =>
        refine Body.onNode_eq hstate ?_
        simp only [Body.Yields, dpadBody, Body.leave_bind, Body.leave_get, Body.leave_ite,
          Body.leave_throw, Body.leave_modify, Body.leave_pure]
        split_ifs <;> simp_all [settle]
      | _ => rfl
    | _ => rfl

theorem touchImpl_eq (contactId down : UInt32) (x y : Int32) (extra : Option TouchExtra) :
    touchImpl node link contactId down x y extra =
      node.settle (touch node link contactId down x y extra) := by
  rw [touchImpl, touch]
  by_cases hkind : (node.spec.kind ≠ .touchscreen ∧ node.spec.kind ≠ .touchpad) ∨
      node.closed ∨ !validBoolean down
  · rw [if_pos hkind, if_pos hkind]
    rfl
  rw [if_neg hkind, if_neg hkind]
  cases linkAvailable node link "touch" with
  | some reply => rfl
  | none =>
    cases hstate : node.state with
    | touch touch =>
      cases node.spec.config with
      | touch c =>
        dsimp only
        by_cases hinflight : node.transferInflight = true
        · rw [if_pos hinflight, if_pos hinflight]
          rfl
        rw [if_neg hinflight, if_neg hinflight]
        refine Body.onNode_eq hstate ?_
        have hsample : ({ contactId, x, y
                          pressure := (extra.getD {}).pressure
                          width := (extra.getD {}).width
                          height := (extra.getD {}).height
                          azimuth := (extra.getD {}).azimuth } : TouchContact) =
            touchSample contactId x y extra := rfl
        simp only [Body.Yields, touchBody, Body.leave_bind, Body.leave_get, Body.leave_ite,
          Body.leave_throw]
        by_cases hcursor : touch.packetCursor ≠ 0
        · rw [if_pos hcursor, if_pos hcursor]
          rfl
        rw [if_neg hcursor, if_neg hcursor]
        cases touch.contacts.findIdx? (ContactState.isDown contactId) with
        | none =>
          simp only [Body.leave_bind, Body.leave_ite, Body.leave_throw, hsample]
          split_ifs
          · rfl
          · rfl
          · exact placeContactBody_yields _ _ _
        | some slot =>
          simp only [Body.leave_bind, Body.leave_ite, Body.leave_throw, hsample]
          split_ifs
          · exact liftContactBody_yields _ _ _ _ _
          · rfl
          · exact moveContactBody_yields _ _ _
      | _ => rfl
    | _ => rfl

theorem touchpadButtonImpl_eq (button pressed : UInt32) :
    touchpadButtonImpl node link button pressed =
      node.settle (touchpadButton node link button pressed) := by
  rw [touchpadButtonImpl, touchpadButton]
  cases usable node link .touchpad "touchpad.button" with
  | some reply => rfl
  | none =>
    cases hstate : node.state with
    | touch touch =>
      dsimp only
      by_cases hcursor : touch.packetCursor ≠ 0
      · rw [if_pos hcursor, if_pos hcursor]
        rfl
      · rw [if_neg hcursor, if_neg hcursor]
        exact Body.onNode_eq hstate (pressButtonBody_yields _ _ _ _ _ _)
    | _ => rfl

theorem penUpdateImpl_eq (sample : Option PenSample) :
    penUpdateImpl node link sample = node.settle (penUpdate node link sample) := by
  rw [penUpdateImpl.eq_def, penUpdate.eq_def]
  cases usable node link .pen "pen.update" with
  | some reply => rfl
  | none =>
    cases sample with
    | none => rfl
    | some sample =>
      cases hstate : node.state with
      | pen pen =>
        cases node.spec.config with
        | pen c =>
          refine Body.onNode_eq hstate ?_
          simp only [Body.Yields, penUpdateBody, recordPenTransitionsBody, Body.leave_bind,
            Body.leave_get, Body.leave_ite, Body.leave_throw, Body.leave_modify, Body.leave_pure]
          split_ifs <;> rfl
        | _ => rfl
      | _ => rfl

theorem penDepartImpl_eq : penDepartImpl node link = node.settle (penDepart node link) := by
  rw [penDepartImpl, penDepart]
  cases usable node link .pen "pen.depart" with
  | some reply => rfl
  | none =>
    cases hstate : node.state with
    | pen pen =>
      refine Body.onNode_eq hstate ?_
      simp only [Body.Yields, penDepartBody, recordPenTransitionsBody, Body.leave_bind,
        Body.leave_get, Body.leave_ite, Body.leave_throw, Body.leave_modify, Body.leave_pure]
      split_ifs <;> rfl
    | _ => rfl

theorem batteryUpdateImpl_eq (hasValue : UInt32) (strength : Int32) :
    batteryUpdateImpl node link hasValue strength =
      node.settle (batteryUpdate node link hasValue strength) := by
  rw [batteryUpdateImpl, batteryUpdate]
  cases usable node link .battery "battery.update" with
  | some reply => rfl
  | none =>
    cases hstate : node.state with
    | battery battery =>
      cases node.spec.config with
      | battery c =>
        refine Body.onNode_eq hstate ?_
        simp only [Body.Yields, batteryUpdateBody, Body.leave_bind, Body.leave_get,
          Body.leave_ite, Body.leave_throw, Body.leave_modify, Body.leave_pure]
        split_ifs <;> rfl
      | _ => rfl
    | _ => rfl

end Calls

/-- **A call takes one step.** Every check of a call stands in front of its first write, so its
writes are those of one step, and a refused call writes nothing. -/
theorem Call.write_eq_perform (call : Call) (link : Link) (node : Node) :
    call.write link node = call.perform link node := by
  have hperform : call.perform link node = node.settle (call.outcome node link) := by
    rw [perform]
    cases call.outcome node link <;> rfl
  rw [hperform]
  cases call with
  | kbd => exact kbdImpl_eq ..
  | mouseMove => exact mouseMoveImpl_eq ..
  | mouseScroll => exact mouseScrollImpl_eq ..
  | mouseButton => exact mouseButtonImpl_eq ..
  | toggle => exact toggleImpl_eq ..
  | gamepadButton => exact gamepadButtonImpl_eq ..
  | gamepadSetAxis => exact gamepadSetAxisImpl_eq ..
  | dpad => exact dpadImpl_eq ..
  | touch => exact touchImpl_eq ..
  | touchpadButton => exact touchpadButtonImpl_eq ..
  | penUpdate => exact penUpdateImpl_eq ..
  | penDepart => exact penDepartImpl_eq ..
  | batteryUpdate => exact batteryUpdateImpl_eq ..

end LibaoaHid

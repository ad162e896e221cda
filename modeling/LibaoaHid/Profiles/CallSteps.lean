import LibaoaHid.Profiles.StateFits

/-!
# What a successful call does

One inversion of the thirteen profile calls: the state of a Node after a successful call, with the
guards that the call has passed. Every invariant of the profile states is proved from it.

## Main definitions

* `PressStep`: a button of an array changes, behind the edge guard.
* `CallStep`: the effect of a successful call on the profile state.

## Main results

* `Call.outcome_spec`: a call that succeeds takes a `CallStep`.
* `Call.perform_cases`: a call is refused and changes nothing, or takes a `CallStep`.
-/

namespace LibaoaHid

/-! ### Effects -/

/-- What a button call makes of an array and its transition flags. -/
inductive PressStep (values transitions : List UInt8) : List UInt8 → List UInt8 → Bool → Prop
  | keep : PressStep values transitions values transitions false
  | press (index : ℕ) (value : UInt8) (hindex : index < values.length)
      (hvalue : value = 0 ∨ value = 1) (hnew : values.getD index 0 ≠ value)
      (hguard : transitions.getD index 0 = 0) :
      PressStep values transitions (values.set index value) (transitions.set index 1) true

/-- The sample of a touch call. -/
def touchSample (contactId : UInt32) (x y : Int32) (extra : Option TouchExtra) : TouchContact :=
  { contactId, x, y
    pressure := (extra.getD {}).pressure
    width := (extra.getD {}).width
    height := (extra.getD {}).height
    azimuth := (extra.getD {}).azimuth }

/-- The contact that a lift leaves in its slot. -/
def liftedContact (contact : ContactState) (x y : Int32) : ContactState :=
  { phase := .up
    sample := { contact.sample with x, y, pressure := 0 }
    lifecycleTransitionPending := true }

/-- The calls of keys and directions, which leave a control that is already as they ask. -/
def Call.isPress : Call → Bool
  | .kbd .. | .toggle .. | .dpad .. => true
  | _ => false

/-- The effect of a successful call; the flag is its `changed`. -/
inductive CallStep : SpecConfig → Call → NodeState → NodeState → Bool → Prop
  | keep {config : SpecConfig} {call : Call} {state : NodeState} (hpress : call.isPress = true) :
      CallStep config call state state false
  | modifier {c : KeyboardConfig} {keyboard : KeyboardState} {usage : UInt16} {down : UInt32}
      (index : ℕ) (press : Bool) (hindex : index < 8)
      (hnew : ((keyboard.modifiers &&& UInt8.ofNat (1 <<< index)) != 0) = !press)
      (hguard : keyboard.modifierTransitions &&& UInt8.ofNat (1 <<< index) = 0) :
      CallStep (.keyboard c) (.kbd usage down) (.keyboard keyboard)
        (.keyboard { keyboard with
          modifiers :=
            if press then keyboard.modifiers ||| UInt8.ofNat (1 <<< index)
            else keyboard.modifiers &&& ~~~UInt8.ofNat (1 <<< index)
          modifierTransitions := keyboard.modifierTransitions ||| UInt8.ofNat (1 <<< index) })
        true
  | pressKey {c : KeyboardConfig} {keyboard : KeyboardState} {usage : UInt16} {down : UInt32}
      (index : ℕ) (hindex : index < keyboard.pressedBitmap.length)
      (htransition : index < keyboard.keyTransitions.length)
      (hnew : keyboard.pressedBitmap.getD index 0 = 0)
      (hguard : keyboard.keyTransitions.getD index 0 = 0) :
      CallStep (.keyboard c) (.kbd usage down) (.keyboard keyboard)
        (.keyboard { keyboard with
          pressedBitmap := keyboard.pressedBitmap.set index 1
          pressedBitmapCount := keyboard.pressedBitmapCount + 1
          keyTransitions := keyboard.keyTransitions.set index 1 }) true
  | releaseKey {c : KeyboardConfig} {keyboard : KeyboardState} {usage : UInt16} {down : UInt32}
      (index : ℕ) (hindex : index < keyboard.pressedBitmap.length)
      (htransition : index < keyboard.keyTransitions.length)
      (hnew : keyboard.pressedBitmap.getD index 0 ≠ 0)
      (hguard : keyboard.keyTransitions.getD index 0 = 0) :
      CallStep (.keyboard c) (.kbd usage down) (.keyboard keyboard)
        (.keyboard { keyboard with
          pressedBitmap := keyboard.pressedBitmap.set index 0
          pressedBitmapCount := keyboard.pressedBitmapCount - 1
          keyTransitions := keyboard.keyTransitions.set index 1 }) true
  | mouseMove {c : MouseConfig} {mouse : MouseState} {dx dy : Int32} {nextDx nextDy : ℤ}
      (hdx : addChecked mouse.dx dx = some nextDx) (hdy : addChecked mouse.dy dy = some nextDy) :
      CallStep (.mouse c) (.mouseMove dx dy) (.mouse mouse)
        (.mouse { mouse with dx := nextDx, dy := nextDy }) (dx != 0 || dy != 0)
  | mouseScroll {c : MouseConfig} {mouse : MouseState} {wheel pan : Int32}
      {nextWheel nextPan : ℤ} (hwheel : wheel = 0 ∨ c.options.enableWheel = 1)
      (hpan : pan = 0 ∨ c.options.enablePan = 1)
      (hnextWheel : addChecked mouse.wheel wheel = some nextWheel)
      (hnextPan : addChecked mouse.pan pan = some nextPan) :
      CallStep (.mouse c) (.mouseScroll wheel pan) (.mouse mouse)
        (.mouse { mouse with wheel := nextWheel, pan := nextPan }) (wheel != 0 || pan != 0)
  | mouseButton {c : MouseConfig} {mouse : MouseState} {button pressed : UInt32}
      {buttons transitions : List UInt8} {changed : Bool}
      (hpress : PressStep mouse.buttons mouse.buttonTransitions buttons transitions changed) :
      CallStep (.mouse c) (.mouseButton button pressed) (.mouse mouse)
        (.mouse { mouse with buttons, buttonTransitions := transitions }) changed
  | toggle {c : ConsumerConfig} {consumer : ConsumerState} {usage : UInt16} {down : UInt32}
      (next : UInt16) (hnext : next = 0 ∨ next ∈ c.allowedUsages) (hnew : consumer.usage ≠ next)
      (hguard : consumer.transitionPending = false) :
      CallStep (.consumer c) (.toggle usage down) (.consumer consumer)
        (.consumer { usage := next, transitionPending := true }) true
  | gamepadButton {c : GamepadConfig} {gamepad : GamepadState} {button pressed : UInt32}
      {buttons transitions : List UInt8} {changed : Bool}
      (hpress : PressStep gamepad.buttons gamepad.buttonTransitions buttons transitions changed) :
      CallStep (.gamepad c) (.gamepadButton button pressed) (.gamepad gamepad)
        (.gamepad { gamepad with buttons, buttonTransitions := transitions }) changed
  | gamepadSetAxis {c : GamepadConfig} {gamepad : GamepadState} {index : ℕ} {value : Int32}
      {entry : GamepadAxisConfig} (hindex : index < gamepad.axes.length)
      (hentry : c.axes[index]? = some entry) (hrange : entry.axis.value.Contains value) :
      CallStep (.gamepad c) (.gamepadSetAxis index value) (.gamepad gamepad)
        (.gamepad { gamepad with axes := gamepad.axes.set index value })
        (gamepad.axes.getD index 0 != value)
  | dpad {c : GamepadConfig} {gamepad : GamepadState} {up down right left : UInt32}
      (direction : Bool) (hat : ℤ)
      (hrepresentation : c.options.dpadRepresentation = .buttons ∨
        c.options.dpadRepresentation = .hat)
      (hnonneg : 0 ≤ hat) (hlt : hat < 16)
      (hhat : c.options.dpadRepresentation = .hat → hat < 8)
      (hbuttons : c.options.dpadRepresentation = .buttons → direction = (hat != 0))
      (hnone : direction = false → hat = 0)
      (hnew : gamepad.hatHasDirection ≠ direction ∨ gamepad.hat ≠ hat)
      (hguard : gamepad.hatTransitionPending = false) :
      CallStep (.gamepad c) (.dpad up down right left) (.gamepad gamepad)
        (.gamepad { gamepad with
          hatHasDirection := direction
          hat
          hatTransitionPending := true }) true
  | lift {c : TouchConfig} {touch : TouchState} {contactId : UInt32} {x y : Int32}
      {extra : Option TouchExtra} (slot : ℕ) (contact : ContactState)
      (hslot : touch.contacts[slot]? = some contact) (hdown : contact.phase = .down)
      (hid : contact.sample.contactId = contactId) (hcursor : touch.packetCursor = 0)
      (hx : c.fields.x.Contains x) (hy : c.fields.y.Contains y)
      (hguard : contact.lifecycleTransitionPending = false) :
      CallStep (.touch c) (.touch contactId 0 x y extra) (.touch touch)
        (.touch { touch with
          contacts := touch.contacts.set slot (liftedContact contact x y)
          packetCursor := 0 }) true
  | move {c : TouchConfig} {touch : TouchState} {contactId down : UInt32} {x y : Int32}
      {extra : Option TouchExtra} {changed : Bool} (slot : ℕ) (contact : ContactState)
      (hslot : touch.contacts[slot]? = some contact) (hdown : contact.phase = .down)
      (hid : contact.sample.contactId = contactId) (hcursor : touch.packetCursor = 0)
      (hsample : validateContact c.fields (touchSample contactId x y extra) = true)
      (hchanged : changed = true ∨ contact.sample = touchSample contactId x y extra) :
      CallStep (.touch c) (.touch contactId down x y extra) (.touch touch)
        (.touch { touch with
          contacts := touch.contacts.set slot
            { contact with sample := touchSample contactId x y extra }
          packetCursor := 0 }) changed
  | place {c : TouchConfig} {touch : TouchState} {contactId down : UInt32} {x y : Int32}
      {extra : Option TouchExtra} (slot : ℕ) (contact : ContactState)
      (hslot : touch.contacts[slot]? = some contact) (hfree : contact.phase = .none)
      (hfresh : ∀ other ∈ touch.contacts, other.phase ≠ .none → other.sample.contactId ≠ contactId)
      (hcount : touch.activeCount < c.fields.maximumContacts.toNat)
      (hcursor : touch.packetCursor = 0)
      (hsample : validateContact c.fields (touchSample contactId x y extra) = true) :
      CallStep (.touch c) (.touch contactId down x y extra) (.touch touch)
        (.touch { touch with
          contacts := touch.contacts.set slot
            { phase := .down
              sample := touchSample contactId x y extra
              lifecycleTransitionPending := true }
          packetCursor := 0 }) true
  | touchpadButton {c : TouchConfig} {touch : TouchState} {button pressed : UInt32}
      {buttons transitions : List UInt8} {changed : Bool} (hcursor : touch.packetCursor = 0)
      (hpress : PressStep touch.buttons touch.buttonTransitions buttons transitions changed) :
      CallStep (.touch c) (.touchpadButton button pressed) (.touch touch)
        (.touch { touch with buttons, buttonTransitions := transitions }) changed
  | penUpdate {c : PenConfig} {pen : PenState} {sample : PenSample}
      (hsample : validatePenSample c.options sample = true)
      (hguard : penTransitionConflicts pen sample = false) :
      CallStep (.pen c) (.penUpdate (some sample)) (.pen pen)
        (.pen { recordPenTransitions pen sample with
          desired := sample
          toolSwitchDeparture := pen.emitted.inRange == 1 && pen.emitted.eraser != sample.eraser })
        (pen.desired != sample)
  | penDepart {c : PenConfig} {pen : PenState}
      (hguard : penTransitionConflicts pen (departedSample pen.desired) = false) :
      CallStep (.pen c) .penDepart (.pen pen)
        (.pen { recordPenTransitions pen (departedSample pen.desired) with
          desired := departedSample pen.desired
          toolSwitchDeparture := false })
        (pen.desired != departedSample pen.desired)
  | batteryUpdate {c : BatteryConfig} {battery : BatteryState} {hasValue : UInt32}
      {strength : Int32} (hboolean : hasValue = 0 ∨ hasValue = 1)
      (hunknown : hasValue = 0 → strength = 0 ∧ c.options.enableUnknownNullState = 1)
      (hrange : hasValue = 1 → c.options.strength.Contains strength) :
      CallStep (.battery c) (.batteryUpdate hasValue strength) (.battery battery)
        (.battery { hasValue := hasValue == 1, strength })
        (battery.hasValue != (hasValue == 1) || battery.strength != strength)

/-! ### Inversions -/

/-- A refusal that blames the caller, the device or the moment, and not the library. -/
structure Reply.Refuses (reply : Reply) : Prop where
  ne_ok : reply.result ≠ .ok
  ne_internal : reply.result ≠ .errInternal

theorem Reply.refuses_fail {code : Result} {field reason : String} {libusbStatus : ℤ}
    {aoaRequest hidId reportId offset length : ℕ} (hok : code ≠ .ok)
    (hinternal : code ≠ .errInternal) :
    (Reply.fail code field reason libusbStatus aoaRequest hidId reportId offset length).Refuses :=
  ⟨hok, hinternal⟩

theorem pendingTransition_refuses (field : String) : (pendingTransition field).Refuses :=
  Reply.refuses_fail (by simp) (by simp)

theorem linkAvailable_refuses {node : Node} {link : Link} {field : String} {reply : Reply}
    (h : linkAvailable node link field = some reply) : reply.Refuses := by
  unfold linkAvailable at h
  cases link <;> simp only [reduceCtorEq, Option.some.injEq] at h <;> subst h <;>
    exact Reply.refuses_fail (by simp) (by simp)

/-- A Node that takes calls: it is open and idle. -/
structure Node.Callable (node : Node) : Prop where
  closed : node.closed = false
  idle : node.transferInflight = false

/-- A call passes the common checks on an open, idle Node of its kind. -/
theorem usable_eq_none {node : Node} {link : Link} {kind : ProfileKind} {field : String}
    (h : usable node link kind field = none) : node.Callable ∧ node.spec.kind = kind := by
  unfold usable at h
  split at h
  · simp at h
  next hopen =>
  split at h
  · simp at h
  · split at h
    · simp at h
    next hidle =>
    simp only [not_or, ne_eq, not_not, Bool.not_eq_true] at hopen hidle
    exact ⟨⟨hopen.1, hidle⟩, hopen.2⟩

theorem usable_refuses {node : Node} {link : Link} {kind : ProfileKind} {field : String}
    {reply : Reply} (h : usable node link kind field = some reply) : reply.Refuses := by
  unfold usable at h
  split at h
  · cases h
    exact Reply.refuses_fail (by simp) (by simp)
  · split at h
    next reply' hlink =>
      cases h
      exact linkAvailable_refuses hlink
    · split at h
      · cases h
        exact Reply.refuses_fail (by simp) (by simp)
      · simp at h

theorem pressStep_of_pressButton {values transitions buttons transitions' : List UInt8}
    {button pressed : UInt32} {field : String} {changed : Bool}
    (h : pressButton values transitions button pressed field =
      .ok ((buttons, transitions'), changed)) :
    PressStep values transitions buttons transitions' changed := by
  unfold pressButton at h
  split at h
  · simp at h
  next hrange =>
  split at h
  · simp at h
  simp only [not_or, Bool.not_eq_true, Bool.not_eq_false', validBoolean_iff] at hrange
  obtain ⟨hpos, hle, hboolean⟩ := hrange
  dsimp only at h
  split at h
  · simp at h
  next hguard =>
  split at h
  next hchanged =>
    cases h
    simp only [hchanged, true_and, ne_eq, not_not] at hguard
    refine .press (button.toNat - 1) pressed.toUInt8 (by omega) ?_ (by simpa using hchanged) hguard
    rcases hboolean with rfl | rfl <;> simp
  · cases h
    exact .keep

theorem pressButton_refuses {values transitions : List UInt8} {button pressed : UInt32}
    {field : String} {reply : Reply} (hlength : values.length = transitions.length)
    (h : pressButton values transitions button pressed field = .error reply) : reply.Refuses := by
  unfold pressButton at h
  rw [if_neg (not_not.mpr hlength)] at h
  dsimp only at h
  split_ifs at h <;> cases h <;> exact Reply.refuses_fail (by simp) (by simp)

/-! ### The state of a kind -/

/-- A kind with its accepted configuration and a fitting state. -/
inductive Fitting : ProfileKind → SpecConfig → NodeState → Prop
  | keyboard {c : KeyboardConfig} {s : KeyboardState} (hc : c.options.Accepted)
      (hs : s.Fits c.options) : Fitting .keyboard (.keyboard c) (.keyboard s)
  | mouse {c : MouseConfig} {s : MouseState} (hc : c.options.Accepted) (hs : s.Fits c.options) :
      Fitting .mouse (.mouse c) (.mouse s)
  | toggle {c : ConsumerConfig} {s : ConsumerState} (hc : c.Accepted) (hs : s.Fits c) :
      Fitting .toggle (.consumer c) (.consumer s)
  | gamepad {c : GamepadConfig} {s : GamepadState} (hc : c.Accepted) (hs : s.Fits c) :
      Fitting .gamepad (.gamepad c) (.gamepad s)
  | touchscreen {c : TouchConfig} {s : TouchState} (hc : c.fields.Accepted)
      (hbuttons : c.fields.buttonCount = 0) (hs : s.Fits c.fields) :
      Fitting .touchscreen (.touch c) (.touch s)
  | touchpad {c : TouchConfig} {s : TouchState} (hc : c.fields.Accepted) (hs : s.Fits c.fields) :
      Fitting .touchpad (.touch c) (.touch s)
  | pen {c : PenConfig} {s : PenState} (hc : c.Accepted) (hs : s.Fits c.options) :
      Fitting .pen (.pen c) (.pen s)
  | battery {c : BatteryConfig} {s : BatteryState} (hc : c.options.Accepted)
      (hs : s.Fits c.options) : Fitting .battery (.battery c) (.battery s)

theorem SpecConfig.Accepted.fitting {kind : ProfileKind} {config : SpecConfig} {state : NodeState}
    (haccepted : SpecConfig.Accepted kind config) (hfits : state.Fits config) :
    Fitting kind config state := by
  cases config <;> cases kind <;> try exact haccepted.elim
  all_goals cases state <;> try exact hfits.elim
  · exact .keyboard haccepted hfits
  · exact .mouse haccepted hfits
  · exact .toggle haccepted hfits
  · exact .gamepad haccepted hfits
  · exact .touchscreen haccepted.1 haccepted.2 hfits
  · exact .touchpad haccepted hfits
  · exact .pen haccepted hfits
  · exact .battery haccepted hfits

theorem Fitting.fits {kind : ProfileKind} {config : SpecConfig} {state : NodeState}
    (h : Fitting kind config state) : state.Fits config := by
  cases h <;> assumption

/-! ### The calls -/

/-- What the outcome of a call means: it succeeds on an open, idle Node with a `CallStep`, or it
refuses. -/
def OutcomeSpec (node : Node) (call : Call) : Except Reply (NodeState × Bool) → Prop
  | .ok (state, changed) =>
    node.Callable ∧ CallStep node.spec.config call node.state state changed
  | .error reply => reply.Refuses

theorem outcomeSpec_fail {node : Node} {call : Call} {code : Result} {field reason : String}
    (hok : code ≠ .ok) (hinternal : code ≠ .errInternal) :
    OutcomeSpec node call (.error (.fail code field reason)) :=
  Reply.refuses_fail hok hinternal

theorem outcomeSpec_pendingTransition {node : Node} {call : Call} {field : String} :
    OutcomeSpec node call (.error (pendingTransition field)) :=
  pendingTransition_refuses field

theorem pressModifier_spec {node : Node} (hcallable : node.Callable) {c : KeyboardConfig}
    {keyboard : KeyboardState} (hconfig : node.spec.config = .keyboard c)
    (hstate : node.state = .keyboard keyboard) (usage : UInt16) (down : UInt32) {index : ℕ}
    (hindex : index < 8) (press : Bool) :
    OutcomeSpec node (.kbd usage down)
      (Except.map (fun next => (.keyboard next.1, next.2))
        (pressModifier keyboard (UInt8.ofNat (1 <<< index)) press)) := by
  unfold pressModifier
  dsimp only
  split
  · exact outcomeSpec_pendingTransition
  next hguard =>
  split
  next hchanged =>
    simp only [hchanged, true_and, ne_eq, not_not] at hguard
    refine ⟨hcallable, ?_⟩
    rw [hconfig, hstate]
    exact .modifier index press hindex (Bool.eq_not.mpr (by simpa using hchanged)) hguard
  · refine ⟨hcallable, ?_⟩
    rw [hstate]
    exact .keep rfl

/-- A key can be pressed while one of its bits is clear. -/
private theorem countP_lt_of_getD_eq_zero {l : List UInt8} {index : ℕ} (hindex : index < l.length)
    (h : l.getD index 0 = 0) : l.countP (· != 0) < l.length := by
  rw [List.getD_eq_getElem _ _ hindex] at h
  refine lt_of_le_of_ne List.countP_le_length fun hall => ?_
  have := List.countP_eq_length.mp hall _ (List.getElem_mem hindex)
  simp [h] at this

theorem countP_pos_of_getD_ne_zero {l : List UInt8} {index : ℕ}
    (hindex : index < l.length) (h : l.getD index 0 ≠ 0) : 0 < l.countP (· != 0) := by
  rw [List.getD_eq_getElem _ _ hindex] at h
  exact List.countP_pos_iff.mpr ⟨_, List.getElem_mem hindex, by simpa using h⟩

theorem pressKey_spec {node : Node} (hcallable : node.Callable) {c : KeyboardConfig}
    {keyboard : KeyboardState} (hconfig : node.spec.config = .keyboard c)
    (hstate : node.state = .keyboard keyboard) (hs : keyboard.Fits c.options) (usage : UInt16)
    (down : UInt32) {index : ℕ} (hindex : index < c.options.keyCount) (press : Bool) :
    OutcomeSpec node (.kbd usage down)
      (Except.map (fun next => (.keyboard next.1, next.2)) (pressKey keyboard index press)) := by
  have hlength := hs.bitmap_length
  have htransitions := hs.transitions_length
  have hcount := hs.count
  unfold pressKey
  rw [if_neg (by omega), if_neg (by omega)]
  dsimp only
  split
  · exact outcomeSpec_pendingTransition
  next hguard =>
  split
  next hchanged =>
    simp only [hchanged, true_and, ne_eq, not_not] at hguard
    cases press with
    | true =>
      have hnew : keyboard.pressedBitmap.getD index 0 = 0 := by simpa using hchanged
      have := countP_lt_of_getD_eq_zero (show index < keyboard.pressedBitmap.length by omega) hnew
      rw [if_pos rfl, if_neg (by omega)]
      refine ⟨hcallable, ?_⟩
      rw [hconfig, hstate]
      exact .pressKey index (by omega) (by omega) hnew hguard
    | false =>
      have hnew : keyboard.pressedBitmap.getD index 0 ≠ 0 := by simpa using hchanged
      have := countP_pos_of_getD_ne_zero (show index < keyboard.pressedBitmap.length by omega) hnew
      rw [if_neg (by simp), if_neg (by omega)]
      refine ⟨hcallable, ?_⟩
      rw [hconfig, hstate]
      exact .releaseKey index (by omega) (by omega) hnew hguard
  · refine ⟨hcallable, ?_⟩
    rw [hstate]
    exact .keep rfl

/-! ### Parts of the calls -/

theorem directionBits_bounds (up down right left : Bool) :
    0 ≤ directionBits up down right left ∧ directionBits up down right left < 16 := by
  cases up <;> cases down <;> cases right <;> cases left <;> simp [directionBits]

theorem hatDirection_bounds (up down right left : Bool) :
    0 ≤ hatDirection up down right left ∧ hatDirection up down right left < 8 := by
  cases up <;> cases down <;> cases right <;> cases left <;> simp [hatDirection]

/-- The sample that is already asked for shuts no guard. -/
theorem recordPenTransitions_self (pen : PenState) :
    recordPenTransitions pen pen.desired = pen := by
  simp [recordPenTransitions, penBarrelChanges]

/-- The `changed` of a departure. -/
theorem ne_departedSample (sample : PenSample) :
    (sample != departedSample sample) = (sample.inRange != 0 || sample.tip != 0 ||
      sample.barrelButtons != 0 || sample.pressure != 0) := by
  rw [Bool.eq_iff_iff]
  simp only [bne_iff_ne, ne_eq, Bool.or_eq_true, departedSample, PenSample.ext_iff, true_and,
    and_true]
  tauto

/-- The slot of a down contact. -/
theorem contact_of_findIdx?_isDown {contacts : List ContactState} {contactId : UInt32} {slot : ℕ}
    (h : contacts.findIdx? (ContactState.isDown contactId) = some slot) :
    contacts[slot]? = some (contacts.getD slot {}) ∧ (contacts.getD slot {}).phase = .down ∧
      (contacts.getD slot {}).sample.contactId = contactId := by
  obtain ⟨hlt, hdown, -⟩ := List.findIdx?_eq_some_iff_getElem.mp h
  rw [List.getD_eq_getElem _ _ hlt]
  simpa [ContactState.isDown, hlt] using hdown

theorem liftContact_spec {node : Node} (hcallable : node.Callable) {c : TouchConfig}
    {state : TouchState} (hconfig : node.spec.config = .touch c)
    (hstate : node.state = .touch state)
    (hcursor : state.packetCursor = 0) {contactId : UInt32} {x y : Int32}
    {extra : Option TouchExtra} {slot : ℕ} (hslot : state.contacts[slot]? = some
      (state.contacts.getD slot {})) (hdown : (state.contacts.getD slot {}).phase = .down)
    (hid : (state.contacts.getD slot {}).sample.contactId = contactId) :
    OutcomeSpec node (.touch contactId 0 x y extra)
      (Except.map (fun next => (.touch next.1, next.2)) (liftContact c.fields state slot x y)) := by
  unfold liftContact
  split
  · exact outcomeSpec_fail (by simp) (by simp)
  next hrange =>
  dsimp only
  split
  · exact outcomeSpec_pendingTransition
  next hguard =>
    simp only [not_or, Bool.not_eq_true', Bool.not_eq_false, inRange_iff] at hrange
    refine ⟨hcallable, ?_⟩
    rw [hconfig, hstate]
    exact .lift slot _ hslot hdown hid hcursor hrange.1 hrange.2 (by simpa using hguard)

theorem placeContact_spec {node : Node} (hcallable : node.Callable) {c : TouchConfig}
    {state : TouchState} (hconfig : node.spec.config = .touch c)
    (hstate : node.state = .touch state)
    (hcursor : state.packetCursor = 0) {contactId down : UInt32} {x y : Int32}
    {extra : Option TouchExtra}
    (hsample : validateContact c.fields (touchSample contactId x y extra) = true) :
    OutcomeSpec node (.touch contactId down x y extra)
      (Except.map (fun next => (.touch next.1, next.2))
        (placeContact c.fields state (touchSample contactId x y extra))) := by
  unfold placeContact
  split
  · exact outcomeSpec_fail (by simp) (by simp)
  next hfresh =>
  dsimp only
  split
  · exact outcomeSpec_fail (by simp) (by simp)
  next slot hsome =>
  split
  · exact outcomeSpec_fail (by simp) (by simp)
  next hcount =>
    obtain ⟨hlt, hfree, -⟩ := List.findIdx?_eq_some_iff_getElem.mp hsome
    refine ⟨hcallable, ?_⟩
    rw [hconfig, hstate]
    refine .place slot _ (List.getElem?_eq_getElem hlt) (by simpa using hfree) ?_ ?_ hcursor hsample
    · intro other hmem hphase hid
      apply hfresh
      rw [List.any_eq_true]
      exact ⟨other, hmem, by simp [hphase, hid, touchSample]⟩
    · change state.contacts.countP _ < _
      simpa [ContactState.isActive] using hcount

section Calls

variable {node : Node} (hfitting : Fitting node.spec.kind node.spec.config node.state)
  (link : Link)

include hfitting

theorem kbd_spec (usage : UInt16) (down : UInt32) :
    OutcomeSpec node (.kbd usage down) (kbd node link usage down) := by
  unfold kbd
  split
  · exact outcomeSpec_fail (by simp) (by simp)
  cases husable : usable node link .keyboard "kbd" with
  | some reply => exact usable_refuses husable
  | none =>
    obtain ⟨hcallable, hkind⟩ := usable_eq_none husable
    rw [hkind] at hfitting
    generalize hconfig : node.spec.config = config at hfitting ⊢
    generalize hstate : node.state = state at hfitting ⊢
    cases hfitting with
    | @keyboard c keyboard hc hs =>
      dsimp only
      split
      next hmodifier =>
        have hindex : usage.toNat - Usage.keyboardLeftControl < 8 := by
          simp only [Usage.keyboardLeftControl, Usage.keyboardRightGui] at hmodifier ⊢
          omega
        exact pressModifier_spec hcallable hconfig hstate usage down hindex _
      · split
        · exact outcomeSpec_fail (by simp) (by simp)
        next hrange =>
          have hindex : usage.toNat - c.options.usageMinimum.toNat < c.options.keyCount := by
            unfold KeyboardOptions.keyCount
            omega
          exact pressKey_spec hcallable hconfig hstate hs usage down hindex _

theorem mouseMove_spec (dx dy : Int32) :
    OutcomeSpec node (.mouseMove dx dy) (mouseMove node link dx dy) := by
  unfold mouseMove
  cases husable : usable node link .mouse "mouse.move" with
  | some reply => exact usable_refuses husable
  | none =>
    obtain ⟨hcallable, hkind⟩ := usable_eq_none husable
    rw [hkind] at hfitting
    generalize hconfig : node.spec.config = config at hfitting ⊢
    generalize hstate : node.state = state at hfitting ⊢
    cases hfitting with
    | @mouse c mouse hc hs =>
      dsimp only
      split
      next nextDx nextDy hdx hdy =>
        refine ⟨hcallable, ?_⟩
        rw [hconfig, hstate]
        exact .mouseMove hdx hdy
      · exact outcomeSpec_fail (by simp) (by simp)

theorem mouseScroll_spec (wheel pan : Int32) :
    OutcomeSpec node (.mouseScroll wheel pan) (mouseScroll node link wheel pan) := by
  unfold mouseScroll
  cases husable : usable node link .mouse "mouse.scroll" with
  | some reply => exact usable_refuses husable
  | none =>
    obtain ⟨hcallable, hkind⟩ := usable_eq_none husable
    rw [hkind] at hfitting
    generalize hconfig : node.spec.config = config at hfitting ⊢
    generalize hstate : node.state = state at hfitting ⊢
    cases hfitting with
    | @mouse c mouse hc hs =>
      dsimp only
      split
      · exact outcomeSpec_fail (by simp) (by simp)
      next hdeclared =>
      split
      next nextWheel nextPan hnextWheel hnextPan =>
        refine ⟨hcallable, ?_⟩
        rw [hconfig, hstate]
        obtain ⟨hwheel, hpan⟩ := not_or.mp hdeclared
        simp only [not_and, not_not] at hwheel hpan
        exact .mouseScroll (or_iff_not_imp_left.mpr hwheel) (or_iff_not_imp_left.mpr hpan)
          hnextWheel hnextPan
      · exact outcomeSpec_fail (by simp) (by simp)

theorem mouseButton_spec (button pressed : UInt32) :
    OutcomeSpec node (.mouseButton button pressed) (mouseButton node link button pressed) := by
  unfold mouseButton
  cases husable : usable node link .mouse "mouse.button" with
  | some reply => exact usable_refuses husable
  | none =>
    obtain ⟨hcallable, hkind⟩ := usable_eq_none husable
    rw [hkind] at hfitting
    generalize hconfig : node.spec.config = config at hfitting ⊢
    generalize hstate : node.state = state at hfitting ⊢
    cases hfitting with
    | @mouse c mouse hc hs =>
      dsimp only
      cases hpress : pressButton mouse.buttons mouse.buttonTransitions button pressed
        "mouse.button" with
      | error reply =>
        exact pressButton_refuses (by rw [hs.buttons.length, hs.buttons.transitions_length]) hpress
      | ok next =>
        refine ⟨hcallable, ?_⟩
        rw [hconfig, hstate]
        exact .mouseButton (pressStep_of_pressButton hpress)

theorem toggle_spec (usage : UInt16) (down : UInt32) :
    OutcomeSpec node (.toggle usage down) (toggle node link usage down) := by
  unfold toggle
  split
  · exact outcomeSpec_fail (by simp) (by simp)
  next hboolean =>
  split
  · exact outcomeSpec_fail (by simp) (by simp)
  next hopen =>
  simp only [not_or, ne_eq, not_not, Bool.not_eq_true] at hopen
  obtain ⟨hclosed, hkind⟩ := hopen
  cases hlink : linkAvailable node link "toggle" with
  | some reply =>
    exact linkAvailable_refuses hlink
  | none =>
    rw [hkind] at hfitting
    generalize hconfig : node.spec.config = config at hfitting ⊢
    generalize hstate : node.state = state at hfitting ⊢
    cases hfitting with
    | @toggle c consumer hc hs =>
      dsimp only
      split
      · exact outcomeSpec_fail (by simp) (by simp)
      next hidle =>
      split
      · exact outcomeSpec_fail (by simp) (by simp)
      next hallowed =>
      split
      · exact outcomeSpec_fail (by simp) (by simp)
      have hcallable : node.Callable := ⟨hclosed, by simpa using hidle⟩
      have hnext : (if down = 1 then usage else 0) = 0 ∨
          (if down = 1 then usage else 0) ∈ c.allowedUsages := by
        split_ifs with hdown
        · exact Or.inr (by simpa [hdown] using hallowed)
        · exact Or.inl rfl
      generalize (if down = 1 then usage else 0) = next at hnext ⊢
      split
      · exact outcomeSpec_pendingTransition
      next hguard =>
      split
      next hchanged =>
        simp only [hchanged, true_and, Bool.not_eq_true] at hguard
        refine ⟨hcallable, ?_⟩
        rw [hconfig, hstate]
        exact .toggle next hnext (by simpa using hchanged) hguard
      · refine ⟨hcallable, ?_⟩
        rw [hstate]
        exact .keep rfl

theorem gamepadButton_spec (button pressed : UInt32) :
    OutcomeSpec node (.gamepadButton button pressed) (gamepadButton node link button pressed) := by
  unfold gamepadButton
  cases husable : usable node link .gamepad "gamepad.button" with
  | some reply => exact usable_refuses husable
  | none =>
    obtain ⟨hcallable, hkind⟩ := usable_eq_none husable
    rw [hkind] at hfitting
    generalize hconfig : node.spec.config = config at hfitting ⊢
    generalize hstate : node.state = state at hfitting ⊢
    cases hfitting with
    | @gamepad c gamepad hc hs =>
      dsimp only
      cases hpress : pressButton gamepad.buttons gamepad.buttonTransitions button pressed
        "gamepad.button" with
      | error reply =>
        exact pressButton_refuses (by rw [hs.buttons.length, hs.buttons.transitions_length]) hpress
      | ok next =>
        refine ⟨hcallable, ?_⟩
        rw [hconfig, hstate]
        exact .gamepadButton (pressStep_of_pressButton hpress)

theorem gamepadSetAxis_spec (axisIndex : ℕ) (value : Int32) :
    OutcomeSpec node (.gamepadSetAxis axisIndex value)
      (gamepadSetAxis node link axisIndex value) := by
  unfold gamepadSetAxis
  dsimp only
  cases husable : usable node link .gamepad "gamepad.axis" with
  | some reply => exact usable_refuses husable
  | none =>
    obtain ⟨hcallable, hkind⟩ := usable_eq_none husable
    rw [hkind] at hfitting
    generalize hconfig : node.spec.config = config at hfitting ⊢
    generalize hstate : node.state = state at hfitting ⊢
    cases hfitting with
    | @gamepad c gamepad hc hs =>
      dsimp only
      split
      · exact outcomeSpec_fail (by simp) (by simp)
      next hindex =>
      have hdeclared : axisIndex < c.axes.length := by
        rw [← hs.axes_length]
        omega
      rw [List.getElem?_eq_getElem hdeclared]
      dsimp only
      split
      · exact outcomeSpec_fail (by simp) (by simp)
      next hrange =>
        refine ⟨hcallable, ?_⟩
        rw [hconfig, hstate]
        exact .gamepadSetAxis (by omega) (List.getElem?_eq_getElem hdeclared)
          (inRange_iff.mp (by simpa using hrange))

theorem dpad_spec (up down right left : UInt32) :
    OutcomeSpec node (.dpad up down right left) (dpad node link up down right left) := by
  unfold dpad
  cases husable : usable node link .gamepad "gamepad.dpad" with
  | some reply => exact usable_refuses husable
  | none =>
    obtain ⟨hcallable, hkind⟩ := usable_eq_none husable
    rw [hkind] at hfitting
    generalize hconfig : node.spec.config = config at hfitting ⊢
    generalize hstate : node.state = state at hfitting ⊢
    cases hfitting with
    | @gamepad c gamepad hc hs =>
      dsimp only
      split
      · exact outcomeSpec_fail (by simp) (by simp)
      next hdeclared =>
      split
      · exact outcomeSpec_fail (by simp) (by simp)
      have hrepresentation : c.options.dpadRepresentation = .buttons ∨
          c.options.dpadRepresentation = .hat := by
        by_contra hno
        exact hdeclared (Or.inl (not_or.mp hno))
      have hbits := directionBits_bounds (up == 1) (down == 1) (right == 1) (left == 1)
      have hhat := hatDirection_bounds (up == 1) (down == 1) (right == 1) (left == 1)
      generalize directionBits (up == 1) (down == 1) (right == 1) (left == 1) = bits at hbits ⊢
      generalize hatDirection (up == 1) (down == 1) (right == 1) (left == 1) = turn at hhat ⊢
      generalize hencoded : (if c.options.dpadRepresentation = .hat ∧ bits ≠ 0 then turn
        else bits) = encoded
      have hencodedBounds : 0 ≤ encoded ∧ encoded < 16 ∧
          (c.options.dpadRepresentation = .hat → encoded < 8) ∧
          (c.options.dpadRepresentation = .buttons → encoded = bits) ∧
          (bits = 0 → encoded = 0) := by
        subst hencoded
        refine ⟨?_, ?_, fun h => ?_, fun h => ?_, fun h => ?_⟩
        · split_ifs <;> omega
        · split_ifs <;> omega
        · by_cases hzero : bits = 0 <;> simp [h, hzero, hhat.2]
        · simp [h]
        · simp [h]
      obtain ⟨hnonneg, hlt, hhatLt, hsame, hzero⟩ := hencodedBounds
      split
      · exact outcomeSpec_pendingTransition
      next hguard =>
      split
      next hchanged =>
        simp only [hchanged, true_and, Bool.not_eq_true] at hguard
        refine ⟨hcallable, ?_⟩
        rw [hconfig, hstate]
        refine .dpad (bits != 0) encoded hrepresentation hnonneg hlt hhatLt ?_ ?_ ?_ hguard
        · intro h
          rw [hsame h]
        · intro h
          exact hzero (by simpa using h)
        · simpa using hchanged
      · refine ⟨hcallable, ?_⟩
        rw [hstate]
        exact .keep rfl

theorem touch_spec (contactId down : UInt32) (x y : Int32) (extra : Option TouchExtra) :
    OutcomeSpec node (.touch contactId down x y extra)
      (touch node link contactId down x y extra) := by
  unfold touch
  split
  · exact outcomeSpec_fail (by simp) (by simp)
  next hopen =>
  simp only [not_or, not_and, ne_eq, not_not, Bool.not_eq_true] at hopen
  obtain ⟨hkind, hclosed, -⟩ := hopen
  cases hlink : linkAvailable node link "touch" with
  | some reply =>
    exact linkAvailable_refuses hlink
  | none =>
    have hshape : ∃ c state, node.spec.config = .touch c ∧ node.state = .touch state := by
      generalize node.spec.kind = kind at hfitting hkind
      generalize node.spec.config = config at hfitting ⊢
      generalize node.state = state at hfitting ⊢
      cases hfitting <;> first | exact ⟨_, _, rfl, rfl⟩ | simp at hkind
    obtain ⟨c, state, hconfig, hstate⟩ := hshape
    simp only [hconfig, hstate]
    split
    · exact outcomeSpec_fail (by simp) (by simp)
    next hidle =>
    split
    · exact outcomeSpec_fail (by simp) (by simp)
    next hcursor =>
    have hcallable : node.Callable := ⟨hclosed, by simpa using hidle⟩
    simp only [ne_eq, not_not] at hcursor
    split
    next hnone =>
      split
      · exact outcomeSpec_fail (by simp) (by simp)
      · split
        · exact outcomeSpec_fail (by simp) (by simp)
        next hsample =>
          exact placeContact_spec hcallable hconfig hstate hcursor
            (by simpa [touchSample] using hsample)
    next slot hsome =>
      obtain ⟨hslot, hdown, hid⟩ := contact_of_findIdx?_isDown hsome
      split
      next hlift =>
        subst hlift
        exact liftContact_spec hcallable hconfig hstate hcursor hslot hdown hid
      · split
        · exact outcomeSpec_fail (by simp) (by simp)
        next hsample =>
          refine ⟨hcallable, ?_⟩
          rw [hconfig, hstate]
          refine .move slot _ hslot hdown hid hcursor (by simpa [touchSample] using hsample) ?_
          rw [or_iff_not_imp_left]
          intro hsame
          simp only [moveContact, Bool.or_eq_true, bne_iff_ne, ne_eq, not_or, not_not] at hsame
          rw [touchSample, TouchContact.ext_iff]
          tauto

theorem touchpadButton_spec (button pressed : UInt32) :
    OutcomeSpec node (.touchpadButton button pressed)
      (touchpadButton node link button pressed) := by
  unfold touchpadButton
  cases husable : usable node link .touchpad "touchpad.button" with
  | some reply => exact usable_refuses husable
  | none =>
    obtain ⟨hcallable, hkind⟩ := usable_eq_none husable
    rw [hkind] at hfitting
    generalize hconfig : node.spec.config = config at hfitting ⊢
    generalize hstate : node.state = state at hfitting ⊢
    cases hfitting with
    | @touchpad c touch hc hs =>
      dsimp only
      split
      · exact outcomeSpec_fail (by simp) (by simp)
      next hcursor =>
      cases hpress : pressButton touch.buttons touch.buttonTransitions button pressed
        "touchpad.button" with
      | error reply =>
        exact pressButton_refuses (by rw [hs.buttons.length, hs.buttons.transitions_length]) hpress
      | ok next =>
        refine ⟨hcallable, ?_⟩
        rw [hconfig, hstate]
        exact .touchpadButton (not_not.mp hcursor) (pressStep_of_pressButton hpress)

theorem penUpdate_spec (sample : Option PenSample) :
    OutcomeSpec node (.penUpdate sample) (penUpdate node link sample) := by
  unfold penUpdate
  cases husable : usable node link .pen "pen.update" with
  | some reply => exact usable_refuses husable
  | none =>
    obtain ⟨hcallable, hkind⟩ := usable_eq_none husable
    rw [hkind] at hfitting
    generalize hconfig : node.spec.config = config at hfitting ⊢
    generalize hstate : node.state = state at hfitting ⊢
    cases hfitting with
    | @pen c pen hc hs =>
      cases sample with
      | none => exact outcomeSpec_fail (by simp) (by simp)
      | some sample =>
        dsimp only
        split
        · exact outcomeSpec_fail (by simp) (by simp)
        next hsample =>
        split
        · exact outcomeSpec_pendingTransition
        next hguard =>
          refine ⟨hcallable, ?_⟩
          rw [hconfig, hstate]
          exact .penUpdate (by simpa using hsample) (by simpa using hguard)

theorem penDepart_spec : OutcomeSpec node .penDepart (penDepart node link) := by
  unfold penDepart
  cases husable : usable node link .pen "pen.depart" with
  | some reply => exact usable_refuses husable
  | none =>
    obtain ⟨hcallable, hkind⟩ := usable_eq_none husable
    rw [hkind] at hfitting
    generalize hconfig : node.spec.config = config at hfitting ⊢
    generalize hstate : node.state = state at hfitting ⊢
    cases hfitting with
    | @pen c pen hc hs =>
      dsimp only
      split
      · exact outcomeSpec_pendingTransition
      next hguard =>
        refine ⟨hcallable, ?_⟩
        rw [hconfig, hstate, ← ne_departedSample]
        exact .penDepart (by simpa using hguard)

theorem batteryUpdate_spec (hasValue : UInt32) (strength : Int32) :
    OutcomeSpec node (.batteryUpdate hasValue strength)
      (batteryUpdate node link hasValue strength) := by
  unfold batteryUpdate
  cases husable : usable node link .battery "battery.update" with
  | some reply => exact usable_refuses husable
  | none =>
    obtain ⟨hcallable, hkind⟩ := usable_eq_none husable
    rw [hkind] at hfitting
    generalize hconfig : node.spec.config = config at hfitting ⊢
    generalize hstate : node.state = state at hfitting ⊢
    cases hfitting with
    | @battery c battery hc hs =>
      dsimp only
      split
      · exact outcomeSpec_fail (by simp) (by simp)
      next hboolean =>
      split
      · exact outcomeSpec_fail (by simp) (by simp)
      next hrange =>
        simp only [Bool.not_eq_true', Bool.not_eq_false, validBoolean_iff] at hboolean
        simp only [not_or, not_and, ne_eq, not_not, Bool.not_eq_true', Bool.not_eq_false,
          inRange_iff] at hrange
        obtain ⟨hzero, hunknown, hcontains⟩ := hrange
        have hstrength : (if (hasValue == 1) = true then strength else 0) = strength := by
          rcases hboolean with h | h
          · simp [h, hzero h]
          · simp [h]
        refine ⟨hcallable, ?_⟩
        rw [hconfig, hstate, hstrength]
        exact .batteryUpdate hboolean (fun h => ⟨hzero h, hunknown h⟩) hcontains

/-- **What a call does.** -/
theorem Call.outcome_spec (call : Call) : OutcomeSpec node call (call.outcome node link) := by
  cases call with
  | kbd usage down => exact kbd_spec hfitting link usage down
  | mouseMove dx dy => exact mouseMove_spec hfitting link dx dy
  | mouseScroll wheel pan => exact mouseScroll_spec hfitting link wheel pan
  | mouseButton button pressed => exact mouseButton_spec hfitting link button pressed
  | toggle usage down => exact toggle_spec hfitting link usage down
  | gamepadButton button pressed => exact gamepadButton_spec hfitting link button pressed
  | gamepadSetAxis axisIndex value => exact gamepadSetAxis_spec hfitting link axisIndex value
  | dpad up down right left => exact dpad_spec hfitting link up down right left
  | touch contactId down x y extra => exact touch_spec hfitting link contactId down x y extra
  | touchpadButton button pressed => exact touchpadButton_spec hfitting link button pressed
  | penUpdate sample => exact penUpdate_spec hfitting link sample
  | penDepart => exact penDepart_spec hfitting link
  | batteryUpdate hasValue strength => exact batteryUpdate_spec hfitting link hasValue strength

/-- A call is refused and changes nothing, or takes a `CallStep`. -/
theorem Call.perform_cases (call : Call) :
    (∃ reply, reply.Refuses ∧ call.perform link node = (reply, node)) ∨
    ∃ state changed, node.Callable ∧ CallStep node.spec.config call node.state state changed ∧
      call.perform link node = (.ok, { node with state, dirty := node.dirty || changed }) := by
  have hspec := call.outcome_spec hfitting link
  unfold perform
  cases houtcome : call.outcome node link with
  | error reply =>
    rw [houtcome] at hspec
    exact Or.inl ⟨reply, hspec, rfl⟩
  | ok next =>
    rw [houtcome] at hspec
    exact Or.inr ⟨next.1, next.2, hspec.1, hspec.2, rfl⟩

end Calls

end LibaoaHid

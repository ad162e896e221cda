import LibaoaHid.Api.Reachable
import LibaoaHid.Profiles.CallBodies
import LibaoaHid.Profiles.Controls

/-!
# What a call touches

A successful call changes the control or the contact that it names, with its edge guard and the
dirty flag, and nothing else. Made twice in a row, a call that states a value and does not add to
one changes nothing the second time.

## Main definitions

* `SameExcept`: two arrays agree outside of one index.
* `Call.Frame`: only the control that the call names has changed.
* `Call.isRelative`: the calls that add to a pending total.

## Main results

* `Call.settles`: the frame of a successful call, and the second of two calls in a row.
* `call_atomic`: a refused call changes nothing, a successful one respects its frame.
-/

namespace LibaoaHid

/-! ### Frames -/

/-- Two arrays agree outside of one index. -/
def SameExcept {α : Type} (index : ℕ) (before after : List α) : Prop :=
  after.length = before.length ∧ ∀ j, j ≠ index → after[j]? = before[j]?

namespace SameExcept

variable {α : Type} {index : ℕ}

theorem refl (before : List α) : SameExcept index before before := ⟨rfl, fun _ _ => rfl⟩

theorem set (before : List α) (value : α) : SameExcept index before (before.set index value) :=
  ⟨List.length_set, fun _ hj => List.getElem?_set_ne hj.symm⟩

end SameExcept

/-- The Usages of the eight modifier keys. -/
def IsModifier (usage : UInt16) : Prop :=
  usage.toNat ≥ Usage.keyboardLeftControl ∧ usage.toNat ≤ Usage.keyboardRightGui

/-- The index of a key in the bitmap. -/
def SpecConfig.keyIndex (config : SpecConfig) (usage : UInt16) : ℕ :=
  match config with
  | .keyboard c => usage.toNat - c.options.usageMinimum.toNat
  | _ => 0

/-- The modifier of a Usage and its edge guard alone have changed. -/
structure ModifierFrame (usage : UInt16) (before after : KeyboardState) : Prop where
  frame : after = { before with
    modifiers := after.modifiers
    modifierTransitions := after.modifierTransitions }
  modifiers : ∀ index, index ≠ usage.toNat - Usage.keyboardLeftControl →
    after.modifiers.toNat.testBit index = before.modifiers.toNat.testBit index
  transitions : ∀ index, index ≠ usage.toNat - Usage.keyboardLeftControl →
    after.modifierTransitions.toNat.testBit index =
      before.modifierTransitions.toNat.testBit index

/-- One key and its edge guard alone have changed; the count is the one of the bitmap. -/
structure KeyFrame (index : ℕ) (before after : KeyboardState) : Prop where
  frame : after = { before with
    pressedBitmap := after.pressedBitmap
    pressedBitmapCount := after.pressedBitmapCount
    keyTransitions := after.keyTransitions }
  bitmap : SameExcept index before.pressedBitmap after.pressedBitmap
  transitions : SameExcept index before.keyTransitions after.keyTransitions
  count : after.pressedBitmapCount = after.pressedBitmap.countP (· != 0)

/-- One contact alone has changed: the slot of the Contact ID, or a free one that now has it. -/
structure ContactFrame (contactId : UInt32) (before after : TouchState) : Prop where
  frame : after = { before with contacts := after.contacts }
  contacts : ∃ slot contact contact', before.contacts[slot]? = some contact ∧
    after.contacts[slot]? = some contact' ∧
    SameExcept slot before.contacts after.contacts ∧
    (contact.phase = .none ∨ contact.sample.contactId = contactId) ∧
    contact'.sample.contactId = contactId

/-- What the pen asks for has changed, and not what it last reported; an edge guard changes with
its bit of the sample. A departure keeps the eraser and the place. -/
structure PenFrame (departs : Bool) (before after : PenState) : Prop where
  emitted : after.emitted = before.emitted
  inRange : after.desired.inRange = before.desired.inRange →
    after.inRangeTransitionPending = before.inRangeTransitionPending
  tip : after.desired.tip = before.desired.tip →
    after.tipTransitionPending = before.tipTransitionPending
  eraser : after.desired.eraser = before.desired.eraser →
    after.eraserTransitionPending = before.eraserTransitionPending
  barrel : after.desired.barrelButtons = before.desired.barrelButtons →
    after.barrelTransitions = before.barrelTransitions
  departs : departs = true → after.desired = departedSample before.desired

/-- Only the control or the contact that the call names has changed, with its edge guard. -/
def Call.Frame (config : SpecConfig) : Call → NodeState → NodeState → Prop
  | .kbd usage _, .keyboard before, .keyboard after =>
    (IsModifier usage → ModifierFrame usage before after) ∧
      (¬IsModifier usage → KeyFrame (config.keyIndex usage) before after)
  | .mouseMove .., .mouse before, .mouse after =>
    after = { before with dx := after.dx, dy := after.dy }
  | .mouseScroll .., .mouse before, .mouse after =>
    after = { before with wheel := after.wheel, pan := after.pan }
  | .mouseButton button _, .mouse before, .mouse after =>
    after = { before with
      buttons := after.buttons
      buttonTransitions := after.buttonTransitions } ∧
    SameExcept (button.toNat - 1) before.buttons after.buttons ∧
    SameExcept (button.toNat - 1) before.buttonTransitions after.buttonTransitions
  | .toggle .., .consumer _, .consumer _ => True
  | .gamepadButton button _, .gamepad before, .gamepad after =>
    after = { before with
      buttons := after.buttons
      buttonTransitions := after.buttonTransitions } ∧
    SameExcept (button.toNat - 1) before.buttons after.buttons ∧
    SameExcept (button.toNat - 1) before.buttonTransitions after.buttonTransitions
  | .gamepadSetAxis axisIndex _, .gamepad before, .gamepad after =>
    after = { before with axes := after.axes } ∧ SameExcept axisIndex before.axes after.axes
  | .dpad .., .gamepad before, .gamepad after =>
    after = { before with
      hatHasDirection := after.hatHasDirection
      hat := after.hat
      hatTransitionPending := after.hatTransitionPending }
  | .touch contactId .., .touch before, .touch after => ContactFrame contactId before after
  | .touchpadButton button _, .touch before, .touch after =>
    after = { before with
      buttons := after.buttons
      buttonTransitions := after.buttonTransitions } ∧
    SameExcept (button.toNat - 1) before.buttons after.buttons ∧
    SameExcept (button.toNat - 1) before.buttonTransitions after.buttonTransitions
  | .penUpdate _, .pen before, .pen after => PenFrame false before after
  | .penDepart, .pen before, .pen after => PenFrame true before after
  | .batteryUpdate .., .battery _, .battery _ => True
  | _, _, _ => False

/-- The calls that add to a pending total. -/
def Call.isRelative : Call → Bool
  | .mouseMove .. | .mouseScroll .. => true
  | _ => false

/-! ### Buttons -/

private theorem exists_of_map_eq_ok {α β : Type} {f : α → β} {outcome : Except Reply α} {value : β}
    (h : outcome.map f = .ok value) : ∃ inner, outcome = .ok inner ∧ f inner = value := by
  cases outcome with
  | error reply => cases h
  | ok inner => exact ⟨inner, rfl, Except.ok.inj h⟩

section Buttons

variable {values transitions values' transitions' : List UInt8} {button pressed : UInt32}
  {field : String} {changed : Bool}

/-- What a button call makes of its arrays. -/
theorem pressButton_eq_ok
    (h : pressButton values transitions button pressed field =
      .ok ((values', transitions'), changed)) :
    values'.getD (button.toNat - 1) 0 = pressed.toUInt8 ∧
      SameExcept (button.toNat - 1) values values' ∧
      SameExcept (button.toNat - 1) transitions transitions' := by
  rw [pressButton] at h
  split at h
  · cases h
  next hrange =>
  split at h
  · cases h
  dsimp only at h
  split at h
  · cases h
  split at h
  next hchanged =>
    cases h
    refine ⟨?_, .set _ _, .set _ _⟩
    rw [List.getD_eq_getElem?_getD, List.getElem?_set_self (by omega)]
    rfl
  next hsame =>
    cases h
    exact ⟨by simpa using hsame, .refl _, .refl _⟩

/-- A button that is already as the call asks stays as it is. -/
theorem pressButton_again (hvalue : values.getD (button.toNat - 1) 0 = pressed.toUInt8)
    (h : pressButton values transitions button pressed field =
      .ok ((values', transitions'), changed)) :
    values' = values ∧ transitions' = transitions ∧ changed = false := by
  rw [pressButton] at h
  split at h
  · cases h
  split at h
  · cases h
  dsimp only at h
  rw [hvalue] at h
  simp only [bne_self_eq_false, Bool.false_eq_true, false_and, if_false] at h
  cases h
  exact ⟨rfl, rfl, rfl⟩

end Buttons

/-! ### Keys -/

section Keys

variable {keyboard next next' : KeyboardState} {index : ℕ} {press changed changed' : Bool}

/-- What the modifier branch makes of a keyboard. -/
theorem pressModifier_eq_ok {usage : UInt16} (hmodifier : IsModifier usage)
    (h : pressModifier keyboard (UInt8.ofNat (1 <<< (usage.toNat - Usage.keyboardLeftControl)))
      press = .ok (next, changed)) :
    ModifierFrame usage keyboard next ∧
      ((next.modifiers &&& UInt8.ofNat (1 <<< (usage.toNat - Usage.keyboardLeftControl))) != 0) =
        press := by
  have hindex : usage.toNat - Usage.keyboardLeftControl < 8 := by
    simp only [IsModifier, Usage.keyboardLeftControl, Usage.keyboardRightGui] at hmodifier ⊢
    omega
  generalize hbit : usage.toNat - Usage.keyboardLeftControl = bit at h hindex ⊢
  rw [pressModifier] at h
  split at h
  · cases h
  split at h
  · cases h
    refine ⟨⟨rfl, fun j hj => ?_, fun j hj => ?_⟩, ?_⟩
    · rw [hbit] at hj
      dsimp only
      split
      · rw [testBit_setBit hindex, decide_eq_false (Ne.symm hj), Bool.or_false]
      · rw [testBit_clearBit hindex, decide_eq_false (Ne.symm hj), Bool.not_false, Bool.and_true]
    · rw [hbit] at hj
      exact (testBit_setBit hindex j).trans (by simp [Ne.symm hj])
    · rw [Bool.eq_iff_iff, bne_iff_ne, ne_eq, and_bit_eq_zero_iff hindex]
      dsimp only
      split
      next hpress =>
        rw [testBit_setBit hindex]
        simp [hpress]
      next hpress =>
        rw [testBit_clearBit hindex]
        simp [hpress]
  next hsame =>
    cases h
    exact ⟨⟨rfl, fun _ _ => rfl, fun _ _ => rfl⟩, by simpa using hsame⟩

theorem pressModifier_again {mask : UInt8} (hvalue : ((keyboard.modifiers &&& mask) != 0) = press)
    (h : pressModifier keyboard mask press = .ok (next, changed)) :
    next = keyboard ∧ changed = false := by
  rw [pressModifier, hvalue] at h
  simp only [bne_self_eq_false, Bool.false_eq_true, false_and, if_false] at h
  cases h
  exact ⟨rfl, rfl⟩

/-- What the bitmap branch makes of a keyboard. -/
theorem pressKey_eq_ok (h : pressKey keyboard index press = .ok (next, changed))
    (hcount : next.pressedBitmapCount = next.pressedBitmap.countP (· != 0)) :
    KeyFrame index keyboard next ∧ (next.pressedBitmap.getD index 0 != 0) = press := by
  rw [pressKey] at h
  split at h
  · cases h
  split at h
  · cases h
  next hindex =>
  have hlt : index < keyboard.pressedBitmap.length := not_le.mp hindex
  dsimp only at h
  split at h
  · cases h
  split at h
  · split at h
    next hpress =>
      split at h
      · cases h
      cases h
      refine ⟨⟨rfl, .set _ _, .set _ _, hcount⟩, ?_⟩
      rw [getD_set hlt, if_pos rfl, hpress]
      rfl
    next hpress =>
      split at h
      · cases h
      cases h
      refine ⟨⟨rfl, .set _ _, .set _ _, hcount⟩, ?_⟩
      rw [getD_set hlt, if_pos rfl, (Bool.not_eq_true _).mp hpress]
      rfl
  next hsame =>
    cases h
    exact ⟨⟨rfl, .refl _, .refl _, hcount⟩, by simpa using hsame⟩

theorem pressKey_again (hvalue : (keyboard.pressedBitmap.getD index 0 != 0) = press)
    (h : pressKey keyboard index press = .ok (next, changed)) :
    next = keyboard ∧ changed = false := by
  rw [pressKey] at h
  split at h
  · cases h
  split at h
  · cases h
  dsimp only at h
  rw [hvalue] at h
  simp only [bne_self_eq_false, Bool.false_eq_true, false_and, if_false] at h
  cases h
  exact ⟨rfl, rfl⟩

end Keys

/-! ### Calls that succeed -/

/-- The frame of a successful call, and what the same call does to the state behind it. -/
structure Call.Settles (call : Call) (config : SpecConfig) (before after : NodeState) : Prop where
  frame : call.Frame config before after
  again : call.isRelative = false → ∀ {node : Node} {link : Link} {next : NodeState}
    {changed : Bool}, call.outcome node link = .ok (next, changed) →
      node.spec.config = config → node.state = after → next = after ∧ changed = false

section Calls

variable {node : Node} {link : Link} {state : NodeState} {changed : Bool}

private theorem kbd_eq_ok {usage : UInt16} {down : UInt32}
    (h : kbd node link usage down = .ok (state, changed)) :
    ∃ c keyboard next, node.spec.config = .keyboard c ∧ node.state = .keyboard keyboard ∧
      state = .keyboard next ∧
      ((IsModifier usage ∧
        pressModifier keyboard
          (UInt8.ofNat (1 <<< (usage.toNat - Usage.keyboardLeftControl))) (down == 1) =
            .ok (next, changed)) ∨
      (¬IsModifier usage ∧
        pressKey keyboard (usage.toNat - c.options.usageMinimum.toNat) (down == 1) =
          .ok (next, changed))) := by
  rw [kbd] at h
  split at h
  · cases h
  split at h
  · cases h
  next keyboard options _ hstate hconfig =>
    obtain ⟨⟨next, changed'⟩, hinner, heq⟩ := exists_of_map_eq_ok h
    cases heq
    refine ⟨_, keyboard, next, hconfig, hstate, rfl, ?_⟩
    split at hinner
    next hmodifier => exact Or.inl ⟨hmodifier, hinner⟩
    next hmodifier =>
      split at hinner
      · cases hinner
      · exact Or.inr ⟨hmodifier, hinner⟩
  · cases h

theorem kbd_settles {usage : UInt16} {down : UInt32} {keyboard : KeyboardState}
    (h : kbd node link usage down = .ok (.keyboard keyboard, changed))
    (hcount : keyboard.pressedBitmapCount = keyboard.pressedBitmap.countP (· != 0)) :
    (Call.kbd usage down).Settles node.spec.config node.state (.keyboard keyboard) := by
  obtain ⟨c, before, next, hconfig, hstate, hnext, hpress⟩ := kbd_eq_ok h
  obtain rfl := NodeState.keyboard.inj hnext
  rw [hconfig, hstate]
  rcases hpress with ⟨hmodifier, hpress⟩ | ⟨hmodifier, hpress⟩
  · obtain ⟨hframe, hvalue⟩ := pressModifier_eq_ok hmodifier hpress
    refine ⟨⟨fun _ => hframe, fun hno => absurd hmodifier hno⟩, fun _ _ _ _ _ hagain _ hafter => ?_⟩
    obtain ⟨c', before', next', hconfig', hstate', rfl, hpress'⟩ := kbd_eq_ok hagain
    obtain rfl := NodeState.keyboard.inj (hstate'.symm.trans hafter)
    rcases hpress' with ⟨-, hpress'⟩ | ⟨hno, -⟩
    · obtain ⟨rfl, rfl⟩ := pressModifier_again hvalue hpress'
      exact ⟨rfl, rfl⟩
    · exact absurd hmodifier hno
  · obtain ⟨hframe, hvalue⟩ := pressKey_eq_ok hpress hcount
    refine ⟨⟨fun hyes => absurd hyes hmodifier, fun _ => hframe⟩,
      fun _ _ _ _ _ hagain hsame hafter => ?_⟩
    obtain ⟨c', before', next', hconfig', hstate', rfl, hpress'⟩ := kbd_eq_ok hagain
    obtain rfl := NodeState.keyboard.inj (hstate'.symm.trans hafter)
    obtain rfl := SpecConfig.keyboard.inj (hconfig'.symm.trans hsame)
    rcases hpress' with ⟨hyes, -⟩ | ⟨-, hpress'⟩
    · exact absurd hyes hmodifier
    · obtain ⟨rfl, rfl⟩ := pressKey_again hvalue hpress'
      exact ⟨rfl, rfl⟩

theorem mouseMove_settles {dx dy : Int32} (h : mouseMove node link dx dy = .ok (state, changed)) :
    (Call.mouseMove dx dy).Settles node.spec.config node.state state := by
  rw [mouseMove] at h
  split at h
  · cases h
  next mouse _ hstate =>
    split at h
    · cases h
      rw [hstate]
      exact ⟨rfl, (by rintro ⟨⟩)⟩
    · cases h
  · cases h

theorem mouseScroll_settles {wheel pan : Int32}
    (h : mouseScroll node link wheel pan = .ok (state, changed)) :
    (Call.mouseScroll wheel pan).Settles node.spec.config node.state state := by
  rw [mouseScroll] at h
  split at h
  · cases h
  next mouse _ _ hstate _ =>
    split at h
    · cases h
    split at h
    · cases h
      rw [hstate]
      exact ⟨rfl, (by rintro ⟨⟩)⟩
    · cases h
  · cases h

private theorem mouseButton_eq_ok {button pressed : UInt32}
    (h : mouseButton node link button pressed = .ok (state, changed)) :
    ∃ mouse buttons transitions, node.state = .mouse mouse ∧
      state = .mouse { mouse with buttons, buttonTransitions := transitions } ∧
      pressButton mouse.buttons mouse.buttonTransitions button pressed "mouse.button" =
        .ok ((buttons, transitions), changed) := by
  rw [mouseButton] at h
  split at h
  · cases h
  next mouse _ hstate =>
    obtain ⟨⟨⟨buttons, transitions⟩, changed'⟩, hinner, heq⟩ := exists_of_map_eq_ok h
    cases heq
    exact ⟨mouse, buttons, transitions, hstate, rfl, hinner⟩
  · cases h

theorem mouseButton_settles {button pressed : UInt32}
    (h : mouseButton node link button pressed = .ok (state, changed)) :
    (Call.mouseButton button pressed).Settles node.spec.config node.state state := by
  obtain ⟨mouse, buttons, transitions, hstate, rfl, hpress⟩ := mouseButton_eq_ok h
  obtain ⟨hvalue, hbuttons, htransitions⟩ := pressButton_eq_ok hpress
  rw [hstate]
  refine ⟨⟨rfl, hbuttons, htransitions⟩, fun _ _ _ _ _ hagain _ hafter => ?_⟩
  obtain ⟨mouse', buttons', transitions', hstate', rfl, hpress'⟩ := mouseButton_eq_ok hagain
  obtain rfl := NodeState.mouse.inj (hstate'.symm.trans hafter)
  obtain ⟨rfl, rfl, rfl⟩ := pressButton_again hvalue hpress'
  exact ⟨rfl, rfl⟩

private theorem toggle_eq_ok {usage : UInt16} {down : UInt32}
    (h : toggle node link usage down = .ok (state, changed)) :
    ∃ consumer next, node.state = .consumer consumer ∧ state = .consumer next ∧
      (down ≠ 1 → usage = 0 ∨ usage = consumer.usage) ∧
      next.usage = (if down = 1 then usage else 0) ∧
      (consumer.usage = (if down = 1 then usage else 0) → next = consumer ∧ changed = false) := by
  rw [toggle] at h
  split at h
  · cases h
  split at h
  · cases h
  split at h
  · cases h
  next consumer _ _ _ _ _ _ hstate _ =>
    split at h
    · cases h
    split at h
    · cases h
    split at h
    · cases h
    next hrelease =>
    dsimp only at h
    generalize hnext : (if down = 1 then usage else 0) = nextUsage at h ⊢
    have hnamed : down ≠ 1 → usage = 0 ∨ usage = consumer.usage := by
      intro hdown
      by_contra hno
      exact hrelease ⟨hdown, not_or.mp hno⟩
    split at h
    · cases h
    split at h
    next hchanged =>
      cases h
      refine ⟨consumer, _, hstate, rfl, hnamed, rfl, fun hsame => ?_⟩
      simp [hsame] at hchanged
    next hsame =>
      cases h
      exact ⟨consumer, consumer, hstate, rfl, hnamed, by simpa using hsame, fun _ => ⟨rfl, rfl⟩⟩
  · cases h

theorem toggle_settles {usage : UInt16} {down : UInt32}
    (h : toggle node link usage down = .ok (state, changed)) :
    (Call.toggle usage down).Settles node.spec.config node.state state := by
  obtain ⟨consumer, next, hstate, rfl, -, husage, -⟩ := toggle_eq_ok h
  rw [hstate]
  refine ⟨trivial, fun _ _ _ _ _ hagain _ hafter => ?_⟩
  obtain ⟨consumer', next', hstate', rfl, -, -, hsame⟩ := toggle_eq_ok hagain
  obtain rfl := NodeState.consumer.inj (hstate'.symm.trans hafter)
  obtain ⟨rfl, rfl⟩ := hsame husage
  exact ⟨rfl, rfl⟩

private theorem gamepadButton_eq_ok {button pressed : UInt32}
    (h : gamepadButton node link button pressed = .ok (state, changed)) :
    ∃ gamepad buttons transitions, node.state = .gamepad gamepad ∧
      state = .gamepad { gamepad with buttons, buttonTransitions := transitions } ∧
      pressButton gamepad.buttons gamepad.buttonTransitions button pressed "gamepad.button" =
        .ok ((buttons, transitions), changed) := by
  rw [gamepadButton] at h
  split at h
  · cases h
  next gamepad _ hstate =>
    obtain ⟨⟨⟨buttons, transitions⟩, changed'⟩, hinner, heq⟩ := exists_of_map_eq_ok h
    cases heq
    exact ⟨gamepad, buttons, transitions, hstate, rfl, hinner⟩
  · cases h

theorem gamepadButton_settles {button pressed : UInt32}
    (h : gamepadButton node link button pressed = .ok (state, changed)) :
    (Call.gamepadButton button pressed).Settles node.spec.config node.state state := by
  obtain ⟨gamepad, buttons, transitions, hstate, rfl, hpress⟩ := gamepadButton_eq_ok h
  obtain ⟨hvalue, hbuttons, htransitions⟩ := pressButton_eq_ok hpress
  rw [hstate]
  refine ⟨⟨rfl, hbuttons, htransitions⟩, fun _ _ _ _ _ hagain _ hafter => ?_⟩
  obtain ⟨gamepad', buttons', transitions', hstate', rfl, hpress'⟩ := gamepadButton_eq_ok hagain
  obtain rfl := NodeState.gamepad.inj (hstate'.symm.trans hafter)
  obtain ⟨rfl, rfl, rfl⟩ := pressButton_again hvalue hpress'
  exact ⟨rfl, rfl⟩

private theorem gamepadSetAxis_eq_ok {axisIndex : ℕ} {value : Int32}
    (h : gamepadSetAxis node link axisIndex value = .ok (state, changed)) :
    ∃ gamepad, node.state = .gamepad gamepad ∧ axisIndex < gamepad.axes.length ∧
      state = .gamepad { gamepad with axes := gamepad.axes.set axisIndex value } ∧
      changed = (gamepad.axes.getD axisIndex 0 != value) := by
  rw [gamepadSetAxis] at h
  split at h
  · cases h
  next gamepad _ _ _ hstate _ =>
    split at h
    · cases h
    next hindex =>
    split at h
    · cases h
    split at h
    · cases h
    · cases h
      exact ⟨gamepad, hstate, not_le.mp hindex, rfl, rfl⟩
  · cases h

theorem gamepadSetAxis_settles {axisIndex : ℕ} {value : Int32}
    (h : gamepadSetAxis node link axisIndex value = .ok (state, changed)) :
    (Call.gamepadSetAxis axisIndex value).Settles node.spec.config node.state state := by
  obtain ⟨gamepad, hstate, hindex, rfl, -⟩ := gamepadSetAxis_eq_ok h
  rw [hstate]
  refine ⟨⟨rfl, .set _ _⟩, fun _ _ _ _ _ hagain _ hafter => ?_⟩
  obtain ⟨gamepad', hstate', -, rfl, rfl⟩ := gamepadSetAxis_eq_ok hagain
  obtain rfl := NodeState.gamepad.inj (hstate'.symm.trans hafter)
  simp [hindex]

private theorem dpad_eq_ok {up down right left : UInt32}
    (h : dpad node link up down right left = .ok (state, changed)) :
    ∃ c gamepad direction encoded, node.spec.config = .gamepad c ∧ node.state = .gamepad gamepad ∧
      direction = (directionBits (up == 1) (down == 1) (right == 1) (left == 1) != 0) ∧
      encoded =
        (if c.options.dpadRepresentation = .hat ∧
            directionBits (up == 1) (down == 1) (right == 1) (left == 1) ≠ 0 then
          hatDirection (up == 1) (down == 1) (right == 1) (left == 1)
        else directionBits (up == 1) (down == 1) (right == 1) (left == 1)) ∧
      ((gamepad.hatHasDirection = direction ∧ gamepad.hat = encoded ∧
        state = .gamepad gamepad ∧ changed = false) ∨
      (¬(gamepad.hatHasDirection = direction ∧ gamepad.hat = encoded) ∧
        state = .gamepad { gamepad with
          hatHasDirection := direction
          hat := encoded
          hatTransitionPending := true })) := by
  rw [dpad] at h
  split at h
  · cases h
  next gamepad options _ _ hstate hconfig =>
    split at h
    · cases h
    split at h
    · cases h
    dsimp only at h
    generalize hencoded : (if options.dpadRepresentation = .hat ∧
        directionBits (up == 1) (down == 1) (right == 1) (left == 1) ≠ 0 then
          hatDirection (up == 1) (down == 1) (right == 1) (left == 1)
        else directionBits (up == 1) (down == 1) (right == 1) (left == 1)) = encoded at h
    generalize hdirection :
      (directionBits (up == 1) (down == 1) (right == 1) (left == 1) != 0) = direction at h
    refine ⟨_, gamepad, direction, encoded, hconfig, hstate, rfl, hencoded.symm, ?_⟩
    split at h
    · cases h
    split at h
    next hchanged =>
      cases h
      refine Or.inr ⟨fun hsame => ?_, rfl⟩
      simp [hsame.1, hsame.2] at hchanged
    next hsame =>
      cases h
      simp only [Bool.or_eq_true, bne_iff_ne, ne_eq, not_or, not_not] at hsame
      exact Or.inl ⟨hsame.1, hsame.2, rfl, rfl⟩
  · cases h

theorem dpad_settles {up down right left : UInt32}
    (h : dpad node link up down right left = .ok (state, changed)) :
    (Call.dpad up down right left).Settles node.spec.config node.state state := by
  obtain ⟨c, gamepad, direction, encoded, hconfig, hstate, hdirection, hencoded, hstep⟩ :=
    dpad_eq_ok h
  rw [hconfig, hstate]
  have hafter : ∃ after, state = .gamepad after ∧ after.hatHasDirection = direction ∧
      after.hat = encoded ∧ after = { gamepad with
        hatHasDirection := after.hatHasDirection
        hat := after.hat
        hatTransitionPending := after.hatTransitionPending } := by
    rcases hstep with ⟨hsame, hhat, rfl, -⟩ | ⟨-, rfl⟩
    · exact ⟨gamepad, rfl, hsame, hhat, rfl⟩
    · exact ⟨_, rfl, rfl, rfl, rfl⟩
  obtain ⟨after, rfl, hsame, hhat, hframe⟩ := hafter
  refine ⟨hframe, fun _ _ _ _ _ hagain hconfig' hstate' => ?_⟩
  obtain ⟨c', gamepad', direction', encoded', hconfig'', hstate'', rfl, rfl, hstep'⟩ :=
    dpad_eq_ok hagain
  obtain rfl := NodeState.gamepad.inj (hstate''.symm.trans hstate')
  obtain rfl := SpecConfig.gamepad.inj (hconfig''.symm.trans hconfig')
  rcases hstep' with ⟨-, -, rfl, rfl⟩ | ⟨hno, -⟩
  · exact ⟨rfl, rfl⟩
  · exact absurd ⟨hsame.trans hdirection, hhat.trans hencoded⟩ hno

/-! ### Contacts -/

private theorem touch_eq_ok {contactId down : UInt32} {x y : Int32} {extra : Option TouchExtra}
    (h : touch node link contactId down x y extra = .ok (state, changed)) :
    ∃ c before after, node.spec.config = .touch c ∧ node.state = .touch before ∧
      state = .touch after ∧ before.packetCursor = 0 ∧
      ((down = 0 ∧ ∃ slot, before.contacts.findIdx? (ContactState.isDown contactId) = some slot ∧
        liftContact c.fields before slot x y = .ok (after, changed)) ∨
      (down ≠ 0 ∧ before.contacts.findIdx? (ContactState.isDown contactId) = none ∧
        placeContact c.fields before (touchSample contactId x y extra) = .ok (after, changed)) ∨
      (down ≠ 0 ∧ ∃ slot, before.contacts.findIdx? (ContactState.isDown contactId) = some slot ∧
        moveContact before slot (touchSample contactId x y extra) = (after, changed))) := by
  rw [touch] at h
  split at h
  · cases h
  split at h
  · cases h
  next before fields _ hstate hconfig =>
    split at h
    · cases h
    split at h
    · cases h
    next hcursor =>
    obtain ⟨⟨after, changed'⟩, hinner, heq⟩ := exists_of_map_eq_ok h
    cases heq
    refine ⟨_, before, after, hconfig, hstate, rfl, not_not.mp hcursor, ?_⟩
    split at hinner
    next hnone =>
      split at hinner
      · cases hinner
      next hdown =>
      dsimp only at hinner
      split at hinner
      · cases hinner
      · exact Or.inr (Or.inl ⟨hdown, hnone, hinner⟩)
    next slot hsome =>
      split at hinner
      next hdown => exact Or.inl ⟨hdown, slot, hsome, hinner⟩
      next hdown =>
      dsimp only at hinner
      split at hinner
      · cases hinner
      · exact Or.inr (Or.inr ⟨hdown, slot, hsome, Except.ok.inj hinner⟩)
  · cases h

/-- A slot of the list. -/
private theorem getElem?_set_slot {contacts : List ContactState} {slot : ℕ}
    {contact : ContactState} (h : contacts[slot]? = some contact) (contact' : ContactState) :
    (contacts.set slot contact')[slot]? = some contact' :=
  List.getElem?_set_self (List.getElem?_eq_some_iff.mp h).1

/-- The contact of a successful call: its slot, and what the call made of it. -/
private theorem touch_settled {contactId down : UInt32} {x y : Int32} {extra : Option TouchExtra}
    {c : TouchConfig} {before after : TouchState} (hcursor : before.packetCursor = 0)
    (h : (down = 0 ∧ ∃ slot, before.contacts.findIdx? (ContactState.isDown contactId) = some slot ∧
        liftContact c.fields before slot x y = .ok (after, changed)) ∨
      (down ≠ 0 ∧ before.contacts.findIdx? (ContactState.isDown contactId) = none ∧
        placeContact c.fields before (touchSample contactId x y extra) = .ok (after, changed)) ∨
      (down ≠ 0 ∧ ∃ slot, before.contacts.findIdx? (ContactState.isDown contactId) = some slot ∧
        moveContact before slot (touchSample contactId x y extra) = (after, changed))) :
    ∃ slot contact contact', before.contacts[slot]? = some contact ∧
      after = { before with contacts := before.contacts.set slot contact' } ∧
      (contact.phase = .none ∨ contact.sample.contactId = contactId) ∧
      contact'.sample.contactId = contactId ∧
      ((down = 0 ∧ contact'.phase = .up) ∨
        (down ≠ 0 ∧ contact'.phase = .down ∧
          contact'.sample = touchSample contactId x y extra)) := by
  rcases h with ⟨hdown, slot, hsome, h⟩ | ⟨hdown, hnone, h⟩ | ⟨hdown, slot, hsome, h⟩
  · obtain ⟨hslot, -, hid⟩ := contact_of_findIdx?_isDown hsome
    rw [liftContact] at h
    split at h
    · cases h
    dsimp only at h
    split at h
    · cases h
    · cases h
      refine ⟨slot, _, liftedContact (before.contacts.getD slot {}) x y, hslot, ?_, Or.inr hid, hid,
        Or.inl ⟨hdown, rfl⟩⟩
      rw [hcursor]
      rfl
  · rw [placeContact] at h
    split at h
    · cases h
    split at h
    · cases h
    next slot hsome =>
    split at h
    · cases h
    · cases h
      obtain ⟨hlt, hfree, -⟩ := List.findIdx?_eq_some_iff_getElem.mp hsome
      refine ⟨slot, _, { phase := .down
                         sample := touchSample contactId x y extra
                         lifecycleTransitionPending := true },
        List.getElem?_eq_getElem hlt, ?_, Or.inl (by simpa using hfree), rfl,
        Or.inr ⟨hdown, rfl, rfl⟩⟩
      rw [hcursor]
  · obtain ⟨hslot, hphase, hid⟩ := contact_of_findIdx?_isDown hsome
    rw [moveContact] at h
    cases h
    refine ⟨slot, _, { before.contacts.getD slot {} with
                       sample := touchSample contactId x y extra },
      hslot, ?_, Or.inr hid, rfl, Or.inr ⟨hdown, hphase, rfl⟩⟩
    rw [hcursor]

theorem touch_settles {contactId down : UInt32} {x y : Int32} {extra : Option TouchExtra}
    {after : TouchState} {f : TouchFields}
    (h : touch node link contactId down x y extra = .ok (.touch after, changed))
    (hfits : after.Fits f) :
    (Call.touch contactId down x y extra).Settles node.spec.config node.state (.touch after) := by
  obtain ⟨c, before, after', hconfig, hstate, hafter, hcursor, hbranch⟩ := touch_eq_ok h
  obtain rfl := NodeState.touch.inj hafter
  obtain ⟨slot, contact, contact', hslot, rfl, hnamed, hid, hphase⟩ := touch_settled hcursor hbranch
  have hslot' := getElem?_set_slot hslot contact'
  rw [hstate]
  refine ⟨⟨rfl, slot, contact, contact', hslot, hslot', .set _ _, hnamed, hid⟩,
    fun _ _ _ _ _ hagain _ hstate' => ?_⟩
  obtain ⟨c', before', after', -, hstate'', rfl, -, hbranch'⟩ := touch_eq_ok hagain
  obtain rfl := NodeState.touch.inj (hstate''.symm.trans hstate')
  have hactive : contact'.isActive = true := by
    rcases hphase with ⟨-, hup⟩ | ⟨-, hdown, -⟩
    · rw [ContactState.isActive, hup]
      rfl
    · rw [ContactState.isActive, hdown]
      rfl
  -- A down slot of the Contact ID is the slot of the first call, since active IDs are distinct.
  have hsame {other : ℕ} (hother : (before.contacts.set slot contact').findIdx?
      (ContactState.isDown contactId) = some other) : other = slot ∧ contact'.phase = .down := by
    obtain ⟨hget, hdown, hid'⟩ := contact_of_findIdx?_isDown hother
    have hactive' : ((before.contacts.set slot contact').getD other {}).isActive = true := by
      rw [ContactState.isActive, hdown]
      rfl
    obtain rfl := hfits.distinct slot other _ _ hslot' hget hactive hactive' (hid.trans hid'.symm)
    rw [Option.some.inj (hslot'.symm.trans hget)]
    exact ⟨rfl, hdown⟩
  rcases hbranch' with ⟨hdown, other, hother, -⟩ | ⟨hdown, hnone, -⟩ | ⟨hdown, other, hother, hmove⟩
  · rcases hphase with ⟨-, hup⟩ | ⟨hno, -⟩
    · have := (hsame hother).2
      rw [hup] at this
      cases this
    · exact absurd hdown hno
  · rcases hphase with ⟨hzero, -⟩ | ⟨-, hphase, -⟩
    · exact absurd hzero hdown
    · have := List.findIdx?_eq_none_iff.mp hnone contact' (List.mem_of_getElem? hslot')
      simp [ContactState.isDown, hphase, hid] at this
  · obtain ⟨rfl, -⟩ := hsame hother
    rcases hphase with ⟨hzero, -⟩ | ⟨-, -, hsample⟩
    · exact absurd hzero hdown
    · rw [moveContact] at hmove
      have hget : (before.contacts.set other contact').getD other {} = contact' := by
        rw [List.getD_eq_getElem?_getD, hslot']
        rfl
      dsimp only at hmove
      rw [hget, ← hsample] at hmove
      obtain ⟨rfl, rfl⟩ := Prod.mk.inj hmove
      rw [List.set_set, hcursor]
      simp

private theorem touchpadButton_eq_ok {button pressed : UInt32}
    (h : touchpadButton node link button pressed = .ok (state, changed)) :
    ∃ touch buttons transitions, node.state = .touch touch ∧
      state = .touch { touch with buttons, buttonTransitions := transitions } ∧
      pressButton touch.buttons touch.buttonTransitions button pressed "touchpad.button" =
        .ok ((buttons, transitions), changed) := by
  rw [touchpadButton] at h
  split at h
  · cases h
  next touch _ hstate =>
    split at h
    · cases h
    obtain ⟨⟨⟨buttons, transitions⟩, changed'⟩, hinner, heq⟩ := exists_of_map_eq_ok h
    cases heq
    exact ⟨touch, buttons, transitions, hstate, rfl, hinner⟩
  · cases h

theorem touchpadButton_settles {button pressed : UInt32}
    (h : touchpadButton node link button pressed = .ok (state, changed)) :
    (Call.touchpadButton button pressed).Settles node.spec.config node.state state := by
  obtain ⟨touch, buttons, transitions, hstate, rfl, hpress⟩ := touchpadButton_eq_ok h
  obtain ⟨hvalue, hbuttons, htransitions⟩ := pressButton_eq_ok hpress
  rw [hstate]
  refine ⟨⟨rfl, hbuttons, htransitions⟩, fun _ _ _ _ _ hagain _ hafter => ?_⟩
  obtain ⟨touch', buttons', transitions', hstate', rfl, hpress'⟩ := touchpadButton_eq_ok hagain
  obtain rfl := NodeState.touch.inj (hstate'.symm.trans hafter)
  obtain ⟨rfl, rfl, rfl⟩ := pressButton_again hvalue hpress'
  exact ⟨rfl, rfl⟩

/-! ### Pens and batteries -/

private theorem penUpdate_eq_ok {sample : Option PenSample}
    (h : penUpdate node link sample = .ok (state, changed)) :
    ∃ pen next, sample = some next ∧ node.state = .pen pen ∧
      state = .pen { recordPenTransitions pen next with
        desired := next
        toolSwitchDeparture := pen.emitted.inRange == 1 && pen.emitted.eraser != next.eraser } ∧
      changed = (pen.desired != next) := by
  rw [penUpdate.eq_def] at h
  split at h
  · cases h
  · cases h
  next next pen _ _ _ hstate _ =>
    split at h
    · cases h
    split at h
    · cases h
    · cases h
      exact ⟨pen, next, rfl, hstate, rfl, rfl⟩
  · cases h

/-- The edge guards that a change of the sample shuts. -/
private theorem recordPenTransitions_frame {departs : Bool} (pen : PenState) (next : PenSample)
    (departure : Bool) (hdeparts : departs = true → next = departedSample pen.desired) :
    PenFrame departs pen { recordPenTransitions pen next with
      desired := next
      toolSwitchDeparture := departure } := by
  refine ⟨rfl, fun h => ?_, fun h => ?_, fun h => ?_, fun h => ?_, hdeparts⟩
  · simp [recordPenTransitions, show next.inRange = pen.desired.inRange from h]
  · simp [recordPenTransitions, show next.tip = pen.desired.tip from h]
  · simp [recordPenTransitions, show next.eraser = pen.desired.eraser from h]
  · simp [recordPenTransitions, penBarrelChanges,
      show next.barrelButtons = pen.desired.barrelButtons from h]

theorem penUpdate_settles {sample : Option PenSample}
    (h : penUpdate node link sample = .ok (state, changed)) :
    (Call.penUpdate sample).Settles node.spec.config node.state state := by
  obtain ⟨pen, next, rfl, hstate, rfl, -⟩ := penUpdate_eq_ok h
  rw [hstate]
  refine ⟨recordPenTransitions_frame pen next _ nofun, fun _ _ _ _ _ hagain _ hafter => ?_⟩
  obtain ⟨pen', next', hnext, hstate', rfl, rfl⟩ := penUpdate_eq_ok hagain
  obtain rfl := Option.some.inj hnext
  obtain rfl := NodeState.pen.inj (hstate'.symm.trans hafter)
  dsimp only
  refine ⟨?_, bne_self_eq_false _⟩
  congr 1
  have hself := recordPenTransitions_self { recordPenTransitions pen next with
    desired := next
    toolSwitchDeparture := pen.emitted.inRange == 1 && pen.emitted.eraser != next.eraser }
  dsimp only at hself
  rw [hself]
  rfl

private theorem penDepart_eq_ok (h : penDepart node link = .ok (state, changed)) :
    ∃ pen, node.state = .pen pen ∧
      state = .pen { recordPenTransitions pen (departedSample pen.desired) with
        desired := departedSample pen.desired
        toolSwitchDeparture := false } ∧
      changed = (pen.desired.inRange != 0 || pen.desired.tip != 0 ||
        pen.desired.barrelButtons != 0 || pen.desired.pressure != 0) := by
  rw [penDepart] at h
  split at h
  · cases h
  next pen _ hstate =>
    dsimp only at h
    split at h
    · cases h
    · cases h
      exact ⟨pen, hstate, rfl, rfl⟩
  · cases h

private theorem departedSample_idem (sample : PenSample) :
    departedSample (departedSample sample) = departedSample sample := rfl

theorem penDepart_settles (h : penDepart node link = .ok (state, changed)) :
    Call.penDepart.Settles node.spec.config node.state state := by
  obtain ⟨pen, hstate, rfl, -⟩ := penDepart_eq_ok h
  rw [hstate]
  refine ⟨recordPenTransitions_frame pen _ _ fun _ => rfl, fun _ _ _ _ _ hagain _ hafter => ?_⟩
  obtain ⟨pen', hstate', rfl, rfl⟩ := penDepart_eq_ok hagain
  obtain rfl := NodeState.pen.inj (hstate'.symm.trans hafter)
  dsimp only
  rw [departedSample_idem]
  refine ⟨?_, rfl⟩
  congr 1
  have hself := recordPenTransitions_self
    { recordPenTransitions pen (departedSample pen.desired) with
      desired := departedSample pen.desired
      toolSwitchDeparture := false }
  dsimp only at hself
  rw [hself]

private theorem batteryUpdate_eq_ok {hasValue : UInt32} {strength : Int32}
    (h : batteryUpdate node link hasValue strength = .ok (state, changed)) :
    ∃ battery next, node.state = .battery battery ∧ state = .battery next ∧
      next = { hasValue := hasValue == 1, strength := if hasValue == 1 then strength else 0 } ∧
      changed = (battery.hasValue != next.hasValue || battery.strength != next.strength) := by
  rw [batteryUpdate] at h
  split at h
  · cases h
  next battery _ _ hstate _ =>
    split at h
    · cases h
    split at h
    · cases h
    · cases h
      exact ⟨battery, _, hstate, rfl, rfl, rfl⟩
  · cases h

theorem batteryUpdate_settles {hasValue : UInt32} {strength : Int32}
    (h : batteryUpdate node link hasValue strength = .ok (state, changed)) :
    (Call.batteryUpdate hasValue strength).Settles node.spec.config node.state state := by
  obtain ⟨battery, next, hstate, rfl, rfl, -⟩ := batteryUpdate_eq_ok h
  rw [hstate]
  refine ⟨trivial, fun _ _ _ _ _ hagain _ hafter => ?_⟩
  obtain ⟨battery', next', hstate', rfl, rfl, rfl⟩ := batteryUpdate_eq_ok hagain
  obtain rfl := NodeState.battery.inj (hstate'.symm.trans hafter)
  simp

/-- **The frame of a successful call**, and what the same call does to the state behind it. -/
theorem Call.settles {call : Call} {config : SpecConfig}
    (h : call.outcome node link = .ok (state, changed)) (hfits : state.Fits config) :
    call.Settles node.spec.config node.state state := by
  cases call with
  | kbd usage down =>
    obtain ⟨c, before, next, -, -, rfl, -⟩ := kbd_eq_ok h
    cases config <;> first | exact hfits.elim | exact kbd_settles h hfits.count
  | mouseMove => exact mouseMove_settles h
  | mouseScroll => exact mouseScroll_settles h
  | mouseButton => exact mouseButton_settles h
  | toggle => exact toggle_settles h
  | gamepadButton => exact gamepadButton_settles h
  | gamepadSetAxis => exact gamepadSetAxis_settles h
  | dpad => exact dpad_settles h
  | touch contactId down x y extra =>
    obtain ⟨c, before, after, -, -, rfl, -⟩ := touch_eq_ok h
    cases config <;> first | exact hfits.elim | exact touch_settles h hfits
  | touchpadButton => exact touchpadButton_settles h
  | penUpdate => exact penUpdate_settles h
  | penDepart => exact penDepart_settles h
  | batteryUpdate => exact batteryUpdate_settles h

end Calls

/-! ### Reachable Nodes -/

/-- A call that succeeds has an outcome. -/
theorem Call.outcome_of_perform_ok {call : Call} {link : Link} {node : Node} (hfits : node.Fits)
    (h : (call.perform link node).1.result = .ok) :
    ∃ state changed, call.outcome node link = .ok (state, changed) ∧
      (call.perform link node).2 = { node with state, dirty := node.dirty || changed } := by
  have hspec := call.outcome_spec hfits.fitting link
  rw [perform] at h ⊢
  cases houtcome : call.outcome node link with
  | error reply =>
    rw [houtcome] at h hspec
    have hrefuses : reply.Refuses := hspec
    exact absurd h hrefuses.ne_ok
  | ok next => exact ⟨next.1, next.2, rfl, rfl⟩

/-- **Profile calls are atomic, and idempotent when they state a value.** On every reachable Node
a call that does not succeed leaves the whole Node as it was; one that succeeds changes the
control or the contact that it names, with its edge guard, and may make the Node dirty; and the
same call again, other than `mouse_move` and `mouse_scroll`, changes nothing if it succeeds. -/
theorem call_atomic {spec : Spec} (hspec : Generated spec) {node : Node}
    (hreach : Reachable spec node) (call : Call) (link : Link) :
    ((call.write link node).1.result ≠ .ok → (call.write link node).2 = node) ∧
    ((call.write link node).1.result = .ok → ∃ state changed,
      (call.write link node).2 = { node with state, dirty := node.dirty || changed } ∧
        call.Frame spec.config node.state state) ∧
    (call.isRelative = false → (call.write link node).1.result = .ok → ∀ link' : Link,
      (call.write link' (call.write link node).2).1.result = .ok →
        (call.write link' (call.write link node).2).2 = (call.write link node).2) := by
  obtain ⟨hfits, rfl⟩ := hreach.fits hspec
  simp only [Call.write_eq_perform]
  refine ⟨Call.perform_eq_of_result_ne_ok, fun hok => ?_, fun hrelative hok link' hagain => ?_⟩
  · obtain ⟨state, changed, houtcome, heq⟩ := Call.outcome_of_perform_ok hfits hok
    have hstate := (hfits.perform call link).state
    rw [heq] at hstate
    exact ⟨state, changed, heq, (Call.settles houtcome hstate).frame⟩
  · obtain ⟨state, changed, houtcome, heq⟩ := Call.outcome_of_perform_ok hfits hok
    have hfits' := hfits.perform call link
    rw [heq] at hagain hfits' ⊢
    obtain ⟨state', changed', houtcome', heq'⟩ := Call.outcome_of_perform_ok hfits' hagain
    obtain ⟨rfl, rfl⟩ := (Call.settles houtcome hfits'.state).again hrelative houtcome' rfl rfl
    rw [heq']
    simp

/-- A button of the moved mouse: there is no ninth one, and the first is pressed once. -/
theorem call_atomic_movedMouse :
    let pressed := ((Call.mouseButton 1 1).write .present movedMouse).2
    ((Call.mouseButton 9 1).write .present movedMouse).2 = movedMouse ∧
      pressed.state ≠ movedMouse.state ∧
        ((Call.mouseButton 1 1).write .present pressed).2 = pressed := by
  have hreach := reachable_movedMouse
  refine ⟨(call_atomic generated_sampleMouse hreach (.mouseButton 9 1) .present).1 (by decide),
    by decide, ?_⟩
  exact (call_atomic generated_sampleMouse hreach (.mouseButton 1 1) .present).2.2 rfl (by decide)
    .present (by decide)

end LibaoaHid

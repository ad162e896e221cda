import LibaoaHid.Profiles.CallSteps
import LibaoaHid.Profiles.SelectedValues
import LibaoaHid.Api.Submit

/-!
# The states keep their invariant

Whatever happens to a profile state keeps it fitting: a successful call, the update of the Scan
Time, the completion of a report with any outcome, and the neutralization before a close.

## Main results

* `CallStep.fits`: a successful call.
* `fits_updateScanTime`: the Scan Time of a submit.
* `fits_consumeLifecycleTransitions`, `fits_completeState`: a completion.
* `fits_neutralizeState`: a close.
-/

namespace LibaoaHid

/-! ### Arrays -/

namespace ButtonsFit

variable {count : ℕ} {buttons transitions : List UInt8}

theorem pressStep (h : ButtonsFit count buttons transitions) {buttons' transitions' : List UInt8}
    {changed : Bool} (hstep : PressStep buttons transitions buttons' transitions' changed) :
    ButtonsFit count buttons' transitions' := by
  cases hstep with
  | keep => exact h
  | press index value hindex hvalue hnew hguard =>
    exact ⟨by rw [List.length_set, h.length], by rw [List.length_set, h.transitions_length],
      h.flags.set index hvalue⟩

theorem clearTransitions (h : ButtonsFit count buttons transitions) :
    ButtonsFit count buttons (transitions.map fun _ => 0) :=
  ⟨h.length, by rw [List.length_map, h.transitions_length], h.flags⟩

theorem releaseAll (h : ButtonsFit count buttons transitions) :
    ButtonsFit count (releaseAll buttons) transitions :=
  ⟨by rw [LibaoaHid.releaseAll, List.length_map, h.length], h.transitions_length,
    Flags.map_zero buttons⟩

end ButtonsFit

theorem countP_releaseAll (l : List UInt8) : (releaseAll l).countP (· != 0) = 0 := by
  simp [releaseAll]

/-! ### Contacts -/

theorem activeCount_set {touch : TouchState} {slot : ℕ} {contact : ContactState}
    (next : ContactState) (hslot : touch.contacts[slot]? = some contact) :
    ({ touch with contacts := touch.contacts.set slot next } : TouchState).activeCount +
        contact.isActive.toNat = touch.activeCount + next.isActive.toNat := by
  obtain ⟨hlt, rfl⟩ := List.getElem?_eq_some_iff.mp hslot
  have hle := List.boole_getElem_le_countP (p := fun contact => contact.isActive) hlt
  simp only [TouchState.activeCount, List.countP_set hlt]
  cases hold : touch.contacts[slot].isActive <;> cases next.isActive <;>
    simp only [hold, if_true, Bool.false_eq_true, if_false, Bool.toNat_true, Bool.toNat_false]
      at hle ⊢ <;> omega

/-- Contacts whose samples change, but not which of them are active, nor their IDs. -/
structure SameIdentity (first second : ContactState) : Prop where
  active : second.isActive → first.isActive
  contactId : second.sample.contactId = first.sample.contactId

theorem distinct_of_map {contacts : List ContactState} {f : ContactState → ContactState}
    (hf : ∀ contact, SameIdentity contact (f contact))
    (h : ∀ (i j : ℕ) (first second : ContactState), contacts[i]? = some first →
      contacts[j]? = some second → first.isActive → second.isActive →
      first.sample.contactId = second.sample.contactId → i = j) :
    ∀ (i j : ℕ) (first second : ContactState), (contacts.map f)[i]? = some first →
      (contacts.map f)[j]? = some second → first.isActive → second.isActive →
      first.sample.contactId = second.sample.contactId → i = j := by
  intro i j first second hi hj hfirst hsecond hid
  rw [List.getElem?_map, Option.map_eq_some_iff] at hi hj
  obtain ⟨first', hi, rfl⟩ := hi
  obtain ⟨second', hj, rfl⟩ := hj
  refine h i j first' second' hi hj ((hf first').active hfirst) ((hf second').active hsecond) ?_
  rw [← (hf first').contactId, hid, (hf second').contactId]

/-- Distinct contacts stay distinct when one slot takes a fresh ID or keeps its own. -/
theorem distinct_of_set {contacts : List ContactState} {slot : ℕ} {next : ContactState}
    (hfresh : ∀ (i : ℕ) (other : ContactState), contacts[i]? = some other → other.isActive →
      other.sample.contactId = next.sample.contactId → i = slot)
    (h : ∀ (i j : ℕ) (first second : ContactState), contacts[i]? = some first →
      contacts[j]? = some second → first.isActive → second.isActive →
      first.sample.contactId = second.sample.contactId → i = j) :
    ∀ (i j : ℕ) (first second : ContactState), (contacts.set slot next)[i]? = some first →
      (contacts.set slot next)[j]? = some second → first.isActive → second.isActive →
      first.sample.contactId = second.sample.contactId → i = j := by
  intro i j first second hi hj hfirst hsecond hid
  rw [List.getElem?_set] at hi hj
  by_cases hislot : slot = i <;> by_cases hjslot : slot = j
  · omega
  · rw [if_neg hjslot] at hj
    rw [if_pos hislot] at hi
    split_ifs at hi
    cases hi
    exact absurd (hfresh j second hj hsecond hid.symm).symm hjslot
  · rw [if_neg hislot] at hi
    rw [if_pos hjslot] at hj
    split_ifs at hj
    cases hj
    exact absurd (hfresh i first hi hfirst hid).symm hislot
  · rw [if_neg hislot] at hi
    rw [if_neg hjslot] at hj
    exact h i j first second hi hj hfirst hsecond hid

/-! ### Calls -/

theorem KeyboardState.Fits.setKey {o : KeyboardOptions} {keyboard : KeyboardState}
    (h : keyboard.Fits o) {index : ℕ} (hindex : index < keyboard.pressedBitmap.length) {b : UInt8}
    (hb : b = 0 ∨ b = 1) {count : ℕ}
    (hcount : count + (keyboard.pressedBitmap.getD index 0 != 0).toNat =
      keyboard.pressedBitmapCount + (b != 0).toNat) :
    KeyboardState.Fits o { keyboard with
      pressedBitmap := keyboard.pressedBitmap.set index b
      pressedBitmapCount := count
      keyTransitions := keyboard.keyTransitions.set index 1 } := by
  refine ⟨by rw [List.length_set, h.bitmap_length], by rw [List.length_set, h.transitions_length],
    h.flags.set index hb, ?_⟩
  have hle := List.boole_getElem_le_countP (p := fun b : UInt8 => b != 0) hindex
  have hold := h.count
  rw [List.getD_eq_getElem _ _ hindex] at hcount
  dsimp only
  rw [List.countP_set hindex]
  cases hbit : (keyboard.pressedBitmap[index] != 0) <;> cases hnext : (b != 0) <;>
    simp only [hbit, hnext, if_true, Bool.false_eq_true, if_false, Bool.toNat_true,
      Bool.toNat_false] at hle hcount ⊢ <;> omega

/-- The departure of a pen keeps the rest of its sample. -/
theorem PenOptions.Admits.depart {c : PenConfig} (hc : c.Accepted) {sample : PenSample}
    (h : c.options.Admits sample) : c.options.Admits (departedSample sample) := by
  refine ⟨Or.inl rfl, Or.inl rfl, h.eraser, fun h1 => ?_, h.noEraser, by simp [departedSample],
    h.x, h.y, fun h1 => ?_, h.tiltX, h.tiltY, h.twist⟩
  · simp [departedSample] at h1
  · obtain ⟨-, hmin, hmax⟩ := hc.pressure h1
    exact ⟨by rw [hmin]; simp [departedSample], by simp [departedSample]; omega⟩

theorem TouchFields.Admits.lift {f : TouchFields} (hf : f.Accepted) {sample : TouchContact}
    (h : f.Admits sample) {x y : Int32} (hx : f.x.Contains x) (hy : f.y.Contains y) :
    f.Admits { sample with x, y, pressure := 0 } := by
  refine ⟨h.contactId, hx, hy, fun h1 => ?_, h.width, h.height, h.azimuth⟩
  obtain ⟨-, hmin, hmax⟩ := hf.pressure h1
  exact ⟨by rw [hmin]; simp, by simp; omega⟩

/-- A slot takes an admitted contact. -/
theorem TouchState.Fits.setContact {f : TouchFields} {touch : TouchState} (h : touch.Fits f)
    {slot : ℕ} {contact next : ContactState} (hslot : touch.contacts[slot]? = some contact)
    (hadmits : f.Admits next.sample) (hnext : next.isActive)
    (hfresh : ∀ (i : ℕ) (other : ContactState), touch.contacts[i]? = some other →
      other.isActive → other.sample.contactId = next.sample.contactId → i = slot)
    (hcount : contact.isActive ∨ touch.activeCount < f.maximumContacts.toNat) :
    TouchState.Fits f { touch with
      contacts := touch.contacts.set slot next
      packetCursor := 0 } := by
  have hactive := activeCount_set next hslot
  refine ⟨by rw [List.length_set, h.length], fun other hmem hother => ?_,
    distinct_of_set hfresh h.distinct, ?_, h.buttons, Or.inl rfl, h.scanTime⟩
  · rcases List.mem_or_eq_of_mem_set hmem with hmem | rfl
    · exact h.admits other hmem hother
    · exact hadmits
  · have hle := h.count_le
    change ({ touch with contacts := touch.contacts.set slot next } : TouchState).activeCount ≤ _
    rw [hnext] at hactive
    rcases hcount with hold | hroom
    · rw [hold] at hactive
      omega
    · simp only [Bool.toNat_true] at hactive
      omega

/-- The slot of an active contact is the only one with its ID. -/
theorem TouchState.Fits.slot_unique {f : TouchFields} {touch : TouchState} (h : touch.Fits f)
    {slot : ℕ} {contact : ContactState} (hslot : touch.contacts[slot]? = some contact)
    (hactive : contact.isActive) (i : ℕ) (other : ContactState)
    (hi : touch.contacts[i]? = some other) (hother : other.isActive)
    (hid : other.sample.contactId = contact.sample.contactId) : i = slot :=
  h.distinct i slot other contact hi hslot hother hactive hid

/-- **A successful call keeps the state fitting.** -/
theorem CallStep.fits {kind : ProfileKind} {config : SpecConfig} {call : Call}
    {state state' : NodeState} {changed : Bool} (hfitting : Fitting kind config state)
    (h : CallStep config call state state' changed) : state'.Fits config := by
  have hstate := hfitting.fits
  cases h with
  | keep => exact hstate
  | modifier index press hindex hnew hguard =>
    have hs : KeyboardState.Fits _ _ := hstate
    exact ⟨hs.bitmap_length, hs.transitions_length, hs.flags, hs.count⟩
  | pressKey index hindex htransition hnew hguard =>
    exact KeyboardState.Fits.setKey hstate hindex (Or.inr rfl) (by rw [hnew]; rfl)
  | releaseKey index hindex htransition hnew hguard =>
    have hs : KeyboardState.Fits _ _ := hstate
    refine KeyboardState.Fits.setKey hs hindex (Or.inl rfl) ?_
    have := countP_pos_of_getD_ne_zero hindex hnew
    have := hs.count
    simp only [bne_iff_ne.mpr hnew, Bool.toNat_true, bne_self_eq_false, Bool.toNat_false]
    omega
  | mouseMove hdx hdy =>
    have hs : MouseState.Fits _ _ := hstate
    exact ⟨hs.buttons⟩
  | mouseScroll hwheel hpan hnextWheel hnextPan =>
    have hs : MouseState.Fits _ _ := hstate
    exact ⟨hs.buttons⟩
  | mouseButton hpress =>
    have hs : MouseState.Fits _ _ := hstate
    exact ⟨hs.buttons.pressStep hpress⟩
  | toggle next hnext hnew hguard => exact ConsumerState.Fits.mk hnext
  | gamepadButton hpress =>
    have hs : GamepadState.Fits _ _ := hstate
    exact { hs with buttons := hs.buttons.pressStep hpress }
  | @gamepadSetAxis c gamepad index value entry hindex hentry hrange =>
    have hs : GamepadState.Fits _ _ := hstate
    refine GamepadState.Fits.mk (by rw [List.length_set, hs.axes_length]) ?_ hs.buttons
      hs.hat_nonneg hs.hat_lt hs.hat_direction hs.noDirection hs.buttons_direction hs.noDpad
    intro i other hother
    rw [List.getD_eq_getElem?_getD, List.getElem?_set]
    split_ifs with h
    · subst h
      rw [hentry] at hother
      cases hother
      exact hrange
    · rw [← List.getD_eq_getElem?_getD]
      exact hs.axes i other hother
  | dpad direction hat hrepresentation hnonneg hlt hhat hbuttons hnone hnew hguard =>
    have hs : GamepadState.Fits _ _ := hstate
    refine GamepadState.Fits.mk hs.axes_length hs.axes hs.buttons hnonneg hlt hhat hnone hbuttons ?_
    intro h
    rcases hrepresentation with h' | h' <;> rw [h] at h' <;> simp at h'
  | @lift c touch contactId x y extra slot contact hslot hdown hid hcursor hx hy hguard =>
    have hs : TouchState.Fits _ _ := hstate
    have hactive : contact.isActive := by simp [ContactState.isActive, hdown]
    have hf : c.fields.Accepted := by cases hfitting <;> assumption
    have hadmits := hs.admits contact (List.mem_of_getElem? hslot) hactive
    exact hs.setContact hslot (hadmits.lift hf hx hy) rfl
      (fun i other hi hother hsame => hs.slot_unique hslot hactive i other hi hother hsame)
      (Or.inl hactive)
  | @move c touch contactId down x y extra changed slot contact hslot hdown hid hcursor hsample
      hchanged =>
    have hs : TouchState.Fits _ _ := hstate
    have hactive : contact.isActive := by simp [ContactState.isActive, hdown]
    refine hs.setContact hslot (admits_of_validateContact hsample) hactive ?_ (Or.inl hactive)
    intro i other hi hother hsame
    exact hs.slot_unique hslot hactive i other hi hother (hsame.trans hid.symm)
  | @place c touch contactId down x y extra slot contact hslot hfree hfresh hcount hcursor
      hsample =>
    have hs : TouchState.Fits _ _ := hstate
    refine hs.setContact hslot (admits_of_validateContact hsample) rfl ?_ (Or.inr hcount)
    intro i other hi hother hsame
    exact absurd hsame (hfresh other (List.mem_of_getElem? hi) (by
      simpa [ContactState.isActive] using hother))
  | touchpadButton hcursor hpress =>
    have hs : TouchState.Fits _ _ := hstate
    exact { hs with buttons := hs.buttons.pressStep hpress }
  | penUpdate hsample hguard =>
    have hs : PenState.Fits _ _ := hstate
    refine PenState.Fits.mk (admits_of_validatePenSample hsample) hs.emitted fun h => ?_
    simp only [Bool.and_eq_true, beq_iff_eq] at h
    exact h.1
  | @penDepart c pen hguard =>
    have hs : PenState.Fits _ _ := hstate
    have hc : c.Accepted := by cases hfitting; assumption
    exact PenState.Fits.mk (hs.desired.depart hc) hs.emitted fun h => by simp at h
  | @batteryUpdate c battery hasValue strength hboolean hunknown hrange =>
    refine BatteryState.Fits.mk (fun h => hrange (by simpa using h)) fun h => ?_
    have h0 : hasValue = 0 := hboolean.resolve_right (by simpa using h)
    exact (hunknown h0).1

/-- A call that changes something leaves a state that can be reported. -/
theorem CallStep.reportable {config : SpecConfig} {call : Call} {state state' : NodeState}
    {changed : Bool} (h : CallStep config call state state' changed)
    (hreport : changed = true ∨ state.Reportable config) : state'.Reportable config := by
  cases h with
  | keep => simpa using hreport
  | batteryUpdate hboolean hunknown hrange =>
    rcases hboolean with h0 | h1
    · exact Or.inr (hunknown h0).2
    · exact Or.inl (by simp [h1])
  | _ => trivial

/-- A frame in progress refuses the calls that would change it. -/
theorem CallStep.eq_of_packetCursor_ne_zero {config : SpecConfig} {call : Call}
    {state state' : NodeState} {changed : Bool} (h : CallStep config call state state' changed)
    {touch : TouchState} (hs : state' = .touch touch) (hcursor : touch.packetCursor ≠ 0) :
    state = .touch touch := by
  cases h with
  | keep => exact hs
  | lift | move | place =>
    cases hs
    exact absurd rfl hcursor
  | touchpadButton hzero =>
    cases hs
    exact absurd hzero hcursor
  | _ => cases hs

/-! ### Scan Time -/

theorem fits_stampScanTime {f : TouchFields} (hf : f.Accepted) {touch : TouchState}
    (h : touch.Fits f) (now : ℤ) : (stampScanTime touch f now).Fits f := by
  unfold stampScanTime
  split
  · refine ⟨h.length, h.admits, h.distinct, h.count_le, h.buttons, h.cursor, fun h1 => ?_⟩
    have := (hf.scanTime h1).2.2
    change (0 : ℤ) ≤ _
    omega
  · dsimp only
    refine ⟨h.length, h.admits, h.distinct, h.count_le, h.buttons, h.cursor, fun h1 => ?_⟩
    have hmax := (hf.scanTime h1).2.2
    dsimp only
    generalize (if (now - touch.scanEpoch).tdiv 1000 ≤ 0 then 0
      else ((now - touch.scanEpoch).tdiv 1000).toNat / 100) = ticks
    have hlt : ticks % (f.scanTime.logicalMaximum.toInt.toNat + 1) <
        f.scanTime.logicalMaximum.toInt.toNat + 1 := Nat.mod_lt _ (by omega)
    have hle := Nat.mod_le (ticks % (f.scanTime.logicalMaximum.toInt.toNat + 1)) (2 ^ 32)
    omega

theorem fits_updateScanTime {node : Node} (hfitting : Fitting node.spec.kind node.spec.config
    node.state) (now : ℤ) : (updateScanTime node now).state.Fits node.spec.config := by
  unfold updateScanTime
  have hstate := hfitting.fits
  split
  next touch fields hs hc =>
    rw [hs, hc] at hfitting hstate
    split
    · rw [hc]
      have hf : fields.Accepted := by
        generalize node.spec.kind = kind at hfitting
        cases hfitting <;> assumption
      exact fits_stampScanTime hf hstate now
    · rw [hs, hc]
      exact hstate
  · exact hstate

/-! ### Completions -/

theorem fits_consumeLifecycleTransitions {config : SpecConfig} {state : NodeState}
    (h : state.Fits config) : (consumeLifecycleTransitions state).Fits config := by
  cases config <;> cases state <;> try exact h.elim
  case keyboard.keyboard c s =>
    have hs : KeyboardState.Fits _ _ := h
    exact KeyboardState.Fits.mk hs.bitmap_length
      (by rw [List.length_map, hs.transitions_length]) hs.flags hs.count
  case mouse.mouse c s =>
    have hs : MouseState.Fits _ _ := h
    exact MouseState.Fits.mk hs.buttons.clearTransitions
  case consumer.consumer c s =>
    have hs : ConsumerState.Fits _ _ := h
    exact ConsumerState.Fits.mk hs.usage
  case gamepad.gamepad c s =>
    have hs : GamepadState.Fits _ _ := h
    exact { hs with buttons := hs.buttons.clearTransitions }
  case touch.touch c s =>
    have hs : TouchState.Fits _ _ := h
    have hcount : s.activeCount = TouchState.activeCount { s with
        contacts := s.contacts.map fun contact =>
          { contact with lifecycleTransitionPending := false }
        buttonTransitions := s.buttonTransitions.map fun _ => 0 } := by
      simp only [TouchState.activeCount, List.countP_map]
      rfl
    refine TouchState.Fits.mk (by rw [List.length_map, hs.length]) ?_
      (distinct_of_map (fun contact => ⟨fun h => h, rfl⟩) hs.distinct) (hcount ▸ hs.count_le)
      hs.buttons.clearTransitions (hcount ▸ hs.cursor) hs.scanTime
    intro contact hmem hactive
    obtain ⟨other, hother, rfl⟩ := List.mem_map.mp hmem
    exact hs.admits other hother hactive
  case pen.pen c s =>
    have hs : PenState.Fits _ _ := h
    exact PenState.Fits.mk hs.desired hs.emitted hs.departure
  case battery.battery c s => exact h

theorem activeCount_finishFrame_le (touch : TouchState) :
    (finishFrame touch).activeCount ≤ touch.activeCount := by
  simp only [finishFrame, TouchState.activeCount, List.countP_map]
  apply List.countP_mono_left
  intro contact _ h
  simp only [Function.comp_apply, ContactState.isActive] at h ⊢
  split_ifs at h with hup
  · simp at h
  · exact h

theorem fits_finishFrame {f : TouchFields} {touch : TouchState} (h : touch.Fits f) :
    (finishFrame touch).Fits f := by
  refine TouchState.Fits.mk (by simp [finishFrame, h.length]) ?_
    (distinct_of_map (fun contact => ⟨fun hactive => ?_, ?_⟩) h.distinct)
    (le_trans (activeCount_finishFrame_le touch) h.count_le) h.buttons (Or.inl rfl) h.scanTime
  · intro contact hmem hactive
    obtain ⟨other, hother, rfl⟩ := List.mem_map.mp hmem
    split_ifs at hactive ⊢ with hup
    · simp [ContactState.isActive] at hactive
    · exact h.admits other hother hactive
  · split_ifs at hactive with hup
    · simp [ContactState.isActive] at hactive
    · exact hactive
  · split_ifs <;> rfl

/-- The packet in flight ends inside the frame, or is its last one. -/
def Node.PacketInside (node : Node) : Prop :=
  ∀ touch, node.state = .touch touch → node.submittedTouchFinalPacket = false →
    touch.packetCursor + node.submittedTouchCount < touch.activeCount

theorem fits_completeState {node : Node} (h : node.state.Fits node.spec.config)
    (hpacket : node.PacketInside) (result : Result) :
    (completeState node result).state.Fits node.spec.config := by
  unfold completeState
  split
  next mouse hs =>
    rw [hs] at h
    generalize node.spec.config = config at h
    cases config <;> try exact h.elim
    have hs : MouseState.Fits _ _ := h
    exact MouseState.Fits.mk hs.buttons
  next touch hs =>
    rw [hs] at h
    generalize node.spec.config = config at h
    cases config <;> try exact h.elim
    have hfits : TouchState.Fits _ _ := h
    split
    · split
      · exact fits_finishFrame hfits
      next hfinal =>
        exact { hfits with cursor := Or.inr (hpacket touch hs (by simpa using hfinal)) }
    · exact { hfits with cursor := Or.inl rfl }
  next pen hs =>
    rw [hs] at h
    generalize node.spec.config = config at h
    cases config <;> try exact h.elim
    have hfits : PenState.Fits _ _ := h
    split
    · split
      · have hemitted := hfits.emitted
        exact PenState.Fits.mk hfits.desired
          { hemitted with
            inRange := Or.inl rfl
            tip := Or.inl rfl
            tip_inRange := fun h => by simp at h } fun h => by simp at h
      next hdeparture =>
        exact PenState.Fits.mk hfits.desired hfits.desired fun h => absurd h hdeparture
    · exact hfits
  · exact h

theorem reportable_completeState {node : Node} (h : node.state.Reportable node.spec.config)
    (result : Result) : (completeState node result).state.Reportable node.spec.config := by
  unfold completeState
  split
  · cases node.spec.config <;> trivial
  · split
    · split <;> cases node.spec.config <;> trivial
    · cases node.spec.config <;> trivial
  · split
    · split <;> cases node.spec.config <;> trivial
    · cases node.spec.config <;> trivial
  · exact h

/-- Consuming transitions leaves the cursor of a frame. -/
theorem exists_of_consumeLifecycleTransitions {state : NodeState} {touch : TouchState}
    (h : consumeLifecycleTransitions state = .touch touch) :
    ∃ before, state = .touch before ∧ touch.packetCursor = before.packetCursor := by
  cases state <;> simp only [consumeLifecycleTransitions, reduceCtorEq] at h
  cases h
  exact ⟨_, rfl, rfl⟩

theorem reportable_consumeLifecycleTransitions {config : SpecConfig} {state : NodeState}
    (h : state.Reportable config) :
    (consumeLifecycleTransitions state).Reportable config := by
  cases state <;> cases config <;> exact h

/-! ### Neutral states -/

theorem activeCount_neutralizeTouch (touch : TouchState) :
    (neutralizeTouch touch).1.activeCount = touch.activeCount := by
  simp only [neutralizeTouch, TouchState.activeCount, List.countP_map]
  apply List.countP_congr
  intro contact _
  simp only [Function.comp_apply, ContactState.isActive]
  split_ifs with h
  · simp [h]
  · rfl

theorem fits_neutralizeTouch {f : TouchFields} {touch : TouchState} (h : touch.Fits f) :
    (neutralizeTouch touch).1.Fits f := by
  refine TouchState.Fits.mk (by simp [neutralizeTouch, h.length]) ?_
    (distinct_of_map (fun contact => ⟨fun hactive => ?_, ?_⟩) h.distinct)
    (by rw [activeCount_neutralizeTouch]; exact h.count_le) h.buttons.releaseAll (Or.inl rfl)
    h.scanTime
  · intro contact hmem hactive
    obtain ⟨other, hother, rfl⟩ := List.mem_map.mp hmem
    split_ifs at hactive ⊢ with hdown
    · exact h.admits other hother (by simp [ContactState.isActive, hdown])
    · exact h.admits other hother hactive
  · split_ifs at hactive with hdown
    · simp [ContactState.isActive, hdown]
    · exact hactive
  · split_ifs <;> rfl

theorem fits_neutralizeState {node : Node} (hfitting : Fitting node.spec.kind node.spec.config
    node.state) : (neutralizeState node).1.Fits node.spec.config := by
  unfold neutralizeState
  generalize node.spec.kind = kind at hfitting
  generalize node.spec.config = config at hfitting
  generalize node.state = state at hfitting
  cases hfitting with
  | keyboard hc hs =>
    exact KeyboardState.Fits.mk (by simp [neutralizeKeyboard, releaseAll, hs.bitmap_length])
      hs.transitions_length (Flags.map_zero _) (by
        simp only [neutralizeKeyboard]
        exact (countP_releaseAll _).symm)
  | mouse hc hs => exact MouseState.Fits.mk hs.buttons.releaseAll
  | toggle hc hs => exact ConsumerState.Fits.mk (Or.inl rfl)
  | @gamepad c s hc hs =>
    refine GamepadState.Fits.mk (by simp [neutralizeGamepad, hs.axes_length]) ?_
      hs.buttons.releaseAll le_rfl (by simp [neutralizeGamepad]) (fun _ => by
        simp [neutralizeGamepad]) (fun _ => rfl) (fun _ => rfl) (fun _ => rfl)
    intro i entry hentry
    obtain ⟨hlt, rfl⟩ := List.getElem?_eq_some_iff.mp hentry
    have hlength := hs.axes_length
    have hneutral := hc.axes_neutral _ (List.getElem_mem hlt)
    simp only [neutralizeGamepad]
    rw [List.getD_eq_getElem _ _ (by simp; omega)]
    simpa [IntegerField.Contains] using hneutral
  | touchscreen hc hbuttons hs => exact fits_neutralizeTouch hs
  | touchpad hc hs => exact fits_neutralizeTouch hs
  | pen hc hs =>
    exact PenState.Fits.mk (hs.desired.depart hc) hs.emitted fun h => by simp [neutralizePen] at h
  | battery hc hs => exact hs

end LibaoaHid

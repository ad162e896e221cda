import LibaoaHid.Profiles.Serialization
import LibaoaHid.Profiles.Mutators
import LibaoaHid.Profiles.Completion
import LibaoaHid.Api.NodeState

/-!
# States that fit their Spec

The invariant of each profile state: its arrays have the declared lengths, its flags are zero or
one, and its samples are in the declared ranges. It is what the range checks of the calls keep,
and what makes every selected value acceptable to its field.

## Main definitions

* `Flags`: an array of zeros and ones.
* `TouchFields.Admits`, `PenOptions.Admits`: samples in the declared ranges.
* `KeyboardState.Fits`, `MouseState.Fits`, `ConsumerState.Fits`, `GamepadState.Fits`,
  `TouchState.Fits`, `PenState.Fits`, `BatteryState.Fits`, `NodeState.Fits`.
* `NodeState.Reportable`: the Null state of a Battery is declared when it is needed.

## Main results

* `admits_of_validateContact`, `admits_of_validatePenSample`: the samples that a call accepts.
-/

namespace LibaoaHid

/-! ### Flags and ranges -/

/-- Every byte is zero or one. -/
def Flags (l : List UInt8) : Prop := ∀ b ∈ l, b = 0 ∨ b = 1

namespace Flags

theorem replicate_zero (n : ℕ) : Flags (List.replicate n 0) :=
  fun _ hb => Or.inl (List.eq_of_mem_replicate hb)

theorem set {l : List UInt8} (h : Flags l) (i : ℕ) {b : UInt8} (hb : b = 0 ∨ b = 1) :
    Flags (l.set i b) := by
  intro c hc
  rcases List.mem_or_eq_of_mem_set hc with hc | rfl
  · exact h c hc
  · exact hb

theorem map_zero (l : List UInt8) : Flags (l.map fun _ => 0) := by
  intro b hb
  obtain ⟨-, -, rfl⟩ := List.mem_map.mp hb
  exact Or.inl rfl

theorem getD {l : List UInt8} (h : Flags l) (i : ℕ) : l.getD i 0 = 0 ∨ l.getD i 0 = 1 := by
  rw [List.getD_eq_getElem?_getD]
  cases hget : l[i]? with
  | none => exact Or.inl rfl
  | some b => exact h b (List.mem_of_getElem? hget)

theorem toNat_getD_le {l : List UInt8} (h : Flags l) (i : ℕ) : (l.getD i 0).toNat ≤ 1 := by
  rcases h.getD i with h | h <;> rw [h] <;> simp

end Flags

/-- The value lies in the declared range of the field. -/
def IntegerField.Contains (field : IntegerField) (value : Int32) : Prop :=
  field.logicalMinimum.toInt ≤ value.toInt ∧ value.toInt ≤ field.logicalMaximum.toInt

theorem inRange_iff {value : Int32} {field : IntegerField} :
    inRange value field = true ↔ field.Contains value := by
  simp [inRange, IntegerField.Contains]

theorem IntegerField.SpansZero.contains {field : IntegerField} (h : field.SpansZero) :
    field.Contains 0 := h

/-! ### Samples -/

/-- A contact sample in the declared ranges. -/
structure TouchFields.Admits (f : TouchFields) (sample : TouchContact) : Prop where
  contactId : f.contactIdentifier.logicalMinimum.toInt ≤ sample.contactId.toNat ∧
    (sample.contactId.toNat : ℤ) ≤ f.contactIdentifier.logicalMaximum.toInt
  x : f.x.Contains sample.x
  y : f.y.Contains sample.y
  pressure : f.enablePressure = 1 → f.pressure.Contains sample.pressure
  width : f.enableWidth = 1 → f.width.Contains sample.width
  height : f.enableHeight = 1 → f.height.Contains sample.height
  azimuth : f.enableAzimuth = 1 →
    0 ≤ sample.azimuth.toInt ∧ sample.azimuth.toInt < f.azimuth.logicalMaximum.toInt

theorem admits_of_validateContact {f : TouchFields} {sample : TouchContact}
    (h : validateContact f sample = true) : f.Admits sample := by
  simp only [validateContact, Bool.not_eq_true', decide_eq_false_iff_not, not_or, not_and,
    Bool.not_eq_false, inRange_iff] at h
  obtain ⟨hmax, hmin, hx, hy, hpressure, hwidth, hheight, hazimuth, -⟩ := h
  refine ⟨⟨by omega, by omega⟩, hx, hy, hpressure, hwidth, hheight, fun h1 => ?_⟩
  have := hazimuth h1
  omega

/-- A pen sample in the declared ranges. -/
structure PenOptions.Admits (o : PenOptions) (sample : PenSample) : Prop where
  inRange : sample.inRange = 0 ∨ sample.inRange = 1
  tip : sample.tip = 0 ∨ sample.tip = 1
  eraser : sample.eraser = 0 ∨ sample.eraser = 1
  tip_inRange : sample.tip = 1 → sample.inRange = 1
  noEraser : o.enableEraser = 0 → sample.eraser = 0
  barrel : sample.barrelButtons &&& ~~~barrelMask o = 0
  x : o.x.Contains sample.x
  y : o.y.Contains sample.y
  pressure : o.enablePressure = 1 → o.pressure.Contains sample.pressure
  tiltX : o.enableTilt = 1 → o.tiltX.Contains sample.tiltX
  tiltY : o.enableTilt = 1 → o.tiltY.Contains sample.tiltY
  twist : o.enableTwistTargetSpecific = 1 → o.twist.Contains sample.twist

theorem admits_of_validatePenSample {o : PenOptions} {sample : PenSample}
    (h : validatePenSample o sample = true) : o.Admits sample := by
  simp only [validatePenSample, Bool.not_eq_true', decide_eq_false_iff_not, not_or, not_and,
    Bool.not_eq_false, inRange_iff, validBoolean_iff, ne_eq, not_not] at h
  obtain ⟨hinRange, htip, heraser, -, htipRange, hnoEraser, hbarrel, hx, hy, -, -, -, hpressure,
    htilt, htwist⟩ := h
  refine ⟨hinRange, htip, heraser, fun h1 => ?_, hnoEraser, hbarrel, hx, hy, hpressure,
    fun h1 => (htilt h1).1, fun h1 => (htilt h1).2, htwist⟩
  exact hinRange.resolve_left (htipRange h1)

/-! ### States -/

/-- The number of keys beside the modifiers. -/
def KeyboardOptions.keyCount (o : KeyboardOptions) : ℕ :=
  o.usageMaximum.toNat - o.usageMinimum.toNat + 1

structure KeyboardState.Fits (o : KeyboardOptions) (keyboard : KeyboardState) : Prop where
  bitmap_length : keyboard.pressedBitmap.length = o.keyCount
  transitions_length : keyboard.keyTransitions.length = o.keyCount
  flags : Flags keyboard.pressedBitmap
  count : keyboard.pressedBitmapCount = keyboard.pressedBitmap.countP (· != 0)

/-- An array of buttons with its transition flags. -/
structure ButtonsFit (count : ℕ) (buttons transitions : List UInt8) : Prop where
  length : buttons.length = count
  transitions_length : transitions.length = count
  flags : Flags buttons

structure MouseState.Fits (o : MouseOptions) (mouse : MouseState) : Prop where
  buttons : ButtonsFit o.buttonCount.toNat mouse.buttons mouse.buttonTransitions

structure ConsumerState.Fits (c : ConsumerConfig) (consumer : ConsumerState) : Prop where
  usage : consumer.usage = 0 ∨ consumer.usage ∈ c.allowedUsages

structure GamepadState.Fits (c : GamepadConfig) (gamepad : GamepadState) : Prop where
  axes_length : gamepad.axes.length = c.axes.length
  axes : ∀ (i : ℕ) (entry : GamepadAxisConfig), c.axes[i]? = some entry →
    entry.axis.value.Contains (gamepad.axes.getD i 0)
  buttons : ButtonsFit c.options.buttonCount.toNat gamepad.buttons gamepad.buttonTransitions
  hat_nonneg : 0 ≤ gamepad.hat
  hat_lt : gamepad.hat < 16
  hat_direction : c.options.dpadRepresentation = .hat → gamepad.hat < 8
  noDirection : gamepad.hatHasDirection = false → gamepad.hat = 0
  buttons_direction : c.options.dpadRepresentation = .buttons →
    gamepad.hatHasDirection = (gamepad.hat != 0)
  noDpad : c.options.dpadRepresentation = .none → gamepad.hatHasDirection = false

/-- The contacts of a frame, present and lifted. -/
def ContactState.isActive (contact : ContactState) : Bool := contact.phase != .none

/-- The number of contacts that are not free. -/
def TouchState.activeCount (touch : TouchState) : ℕ := touch.contacts.countP (·.isActive)

theorem length_collectTouch (touch : TouchState) :
    (collectTouch touch).length = touch.activeCount := by
  rw [collectTouch, TouchState.activeCount, List.countP_eq_length_filter]
  congr 2
  funext contact
  simp [ContactState.isActive, bne, beq_eq_decide]

structure TouchState.Fits (f : TouchFields) (touch : TouchState) : Prop where
  length : touch.contacts.length = 16
  admits : ∀ contact ∈ touch.contacts, contact.isActive → f.Admits contact.sample
  distinct : ∀ (i j : ℕ) (first second : ContactState), touch.contacts[i]? = some first →
    touch.contacts[j]? = some second → first.isActive → second.isActive →
    first.sample.contactId = second.sample.contactId → i = j
  count_le : touch.activeCount ≤ f.maximumContacts.toNat
  buttons : ButtonsFit f.buttonCount.toNat touch.buttons touch.buttonTransitions
  cursor : touch.packetCursor = 0 ∨ touch.packetCursor < touch.activeCount
  scanTime : f.enableScanTime = 1 → (touch.scanTime : ℤ) ≤ f.scanTime.logicalMaximum.toInt

structure PenState.Fits (o : PenOptions) (pen : PenState) : Prop where
  desired : o.Admits pen.desired
  emitted : o.Admits pen.emitted
  departure : pen.toolSwitchDeparture = true → pen.emitted.inRange = 1

structure BatteryState.Fits (o : BatteryOptions) (battery : BatteryState) : Prop where
  strength : battery.hasValue = true → o.strength.Contains battery.strength
  unknown : battery.hasValue = false → battery.strength = 0

/-- The state belongs to the configuration and fits it. -/
def NodeState.Fits : SpecConfig → NodeState → Prop
  | .keyboard c, .keyboard s => s.Fits c.options
  | .mouse c, .mouse s => s.Fits c.options
  | .consumer c, .consumer s => s.Fits c
  | .gamepad c, .gamepad s => s.Fits c
  | .touch c, .touch s => s.Fits c.fields
  | .pen c, .pen s => s.Fits c.options
  | .battery c, .battery s => s.Fits c.options
  | _, _ => False

/-- A Battery that has no value needs the Null state of its field. -/
def NodeState.Reportable : SpecConfig → NodeState → Prop
  | .battery c, .battery s => s.hasValue = true ∨ c.options.enableUnknownNullState = 1
  | _, _ => True

/-! ### Acceptable values -/

/-- A field with the declaration `d`. -/
theorem FieldLayout.eq_of_decl {field : FieldLayout} {d : FieldDecl} (h : field.decl = d) :
    field.semantic = d.semantic ∧ field.instanceIndex = d.instanceIndex ∧
      field.logicalMinimum = d.logicalMinimum ∧ field.logicalMaximum = d.logicalMaximum ∧
        field.hasNullState = d.hasNullState := by
  subst h
  exact ⟨rfl, rfl, rfl, rfl, rfl⟩

/-- The field accepts whatever the serializer selects for it. -/
def FieldLayout.AcceptsSelected (config : SpecConfig) (state : NodeState) (field : FieldLayout) :
    Prop :=
  ∀ selected, fieldValue config state field = some selected → field.Accepts selected

section Accepting

variable {config : SpecConfig} {state : NodeState} {field : FieldLayout}

theorem acceptsSelected_of_value (value : ℤ)
    (hvalue : fieldValue config state field = some ⟨value, false⟩)
    (hle : field.logicalMinimum ≤ value) (hge : value ≤ field.logicalMaximum) :
    field.AcceptsSelected config state := by
  intro selected hselected
  rw [hvalue] at hselected
  cases hselected
  exact ⟨fun _ => ⟨hle, hge⟩, fun h => by simp at h⟩

theorem acceptsSelected_of_null
    (hvalue : fieldValue config state field = some ⟨hatNull field, true⟩)
    (hnull : field.hasNullState = true) : field.AcceptsSelected config state := by
  intro selected hselected
  rw [hvalue] at hselected
  cases hselected
  exact ⟨fun h => by simp at h, fun _ => ⟨hnull, rfl⟩⟩

theorem mem_bitDecls {semantic : FieldSemantic} {count : ℕ} {d : FieldDecl} :
    d ∈ bitDecls semantic count ↔ ∃ index < count, d = bitDecl semantic index := by
  simp [bitDecls, eq_comm]

theorem mem_optionalDecl {enable : UInt32} {semantic : FieldSemantic} {index : ℕ}
    {declared : IntegerField} {d : FieldDecl} :
    d ∈ optionalDecl enable semantic index declared ↔
      enable = 1 ∧ d = integerDecl semantic index declared := by
  unfold optionalDecl
  split_ifs with h <;> simp [h]

end Accepting

@[simp] theorem bitOf_eq (bits index : ℕ) : bitOf bits index = (bits.testBit index).toNat := by
  unfold bitOf
  rw [Nat.and_one_is_mod, Nat.toNat_testBit, Nat.shiftRight_eq_div_pow]

theorem bitOf_nonneg (bits index : ℕ) : 0 ≤ bitOf bits index := by simp

theorem bitOf_le_one (bits index : ℕ) : bitOf bits index ≤ 1 := by
  rw [bitOf_eq]
  cases bits.testBit index <;> simp

theorem clampToField_mem (pending : ℤ) {field : FieldLayout}
    (h : field.logicalMinimum ≤ field.logicalMaximum) :
    field.logicalMinimum ≤ clampToField pending field ∧
      clampToField pending field ≤ field.logicalMaximum := by
  unfold clampToField
  split_ifs <;> omega

end LibaoaHid

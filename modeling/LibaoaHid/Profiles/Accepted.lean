import LibaoaHid.Profiles.DigitizerSpecs
import Mathlib.Tactic.Common

/-!
# What the factories guarantee

The range checks of the factories as facts about the options they accept. Each profile has one
structure with the facts that its state machine and its serializer rely on.

## Main definitions

* `IntegerField.Valid`, `IntegerField.SpansZero`.
* `KeyboardOptions.Accepted`, `MouseOptions.Accepted`, `ConsumerConfig.Accepted`,
  `GamepadConfig.Accepted`, `TouchFields.Accepted`, `PenConfig.Accepted`,
  `BatteryOptions.Accepted`.
* `SpecConfig.Accepted`: the configuration belongs to its kind and is accepted.
-/

namespace LibaoaHid

/-! ### Fields -/

namespace IntegerField

/-- A field that `validate_field` accepts. -/
structure Valid (field : IntegerField) : Prop where
  pos : 0 < field.bitWidth.toNat
  le : field.bitWidth.toNat ≤ 32
  fits : valueFits field.logicalMinimum.toInt field.logicalMaximum.toInt field.bitWidth.toNat =
    true

/-- The logical range of a field contains zero. -/
def SpansZero (field : IntegerField) : Prop :=
  field.logicalMinimum.toInt ≤ 0 ∧ 0 ≤ field.logicalMaximum.toInt

end IntegerField

theorem valid_of_validateField {field : IntegerField} {name : String}
    (h : validateField field name = none) : field.Valid := by
  unfold validateField at h
  split at h
  · simp at h
  · split_ifs at h with hzero hwide
    have hle : field.bitWidth.toNat ≤ 32 := by
      by_contra hgt
      exact hwide (Or.inl (UInt32.lt_iff_toNat_lt.mpr (by simpa using hgt)))
    have hmod : field.bitWidth.toNat % 2 ^ 8 = field.bitWidth.toNat := by omega
    refine ⟨?_, hle, ?_⟩
    · by_contra h0
      exact hzero (UInt32.toNat_inj.mp (by simpa using h0))
    · by_contra hno
      exact hwide (Or.inr (by rw [hmod]; simpa using hno))

/-- The flags of the options are zero or one. -/
theorem boolean_of_validateOptionBoolean {value : UInt32} {field : String}
    (h : validateOptionBoolean value field = none) : value = 0 ∨ value = 1 := by
  unfold validateOptionBoolean at h
  split_ifs at h with hvalid
  simpa [validBoolean_iff] using hvalid

/-- A Report ID declaration that is accepted. -/
theorem reportId_of_validateReportId {option : ReportIdOption} {field : String}
    (h : validateReportId option field = none) : option.enabled = 1 → option.value ≠ 0 := by
  unfold validateReportId at h
  split_ifs at h with hvalid hreserved hvalue
  exact fun henabled hzero => hvalue (Or.inl ⟨henabled, hzero⟩)

/-- A check behind a condition that holds. -/
theorem eq_none_of_ite {p : Prop} [Decidable p] {check : Option ErrorDetail}
    (h : (if p then check else none) = none) (hp : p) : check = none := by
  simpa [hp] using h

/-! ### Profiles -/

/-- An accepted keyboard: an ordered range of keys beside the modifiers. -/
structure KeyboardOptions.Accepted (o : KeyboardOptions) : Prop where
  four_le : 4 ≤ o.usageMinimum.toNat
  ordered : o.usageMinimum.toNat ≤ o.usageMaximum.toNat
  outside : ¬(o.usageMinimum.toNat ≤ Usage.keyboardRightGui ∧
    o.usageMaximum.toNat ≥ Usage.keyboardLeftControl)
  reportId : o.reportId.enabled = 1 → o.reportId.value ≠ 0

theorem accepted_of_checkKeyboard {o : KeyboardOptions} (h : checkKeyboard o = none) :
    o.Accepted := by
  simp only [checkKeyboard, firstRefusal_cons_eq_none, firstRefusal_nil, refuse_eq_none,
    refuseIf_eq_none, Option.map_eq_none_iff, and_true] at h
  obtain ⟨-, ⟨-, hreport⟩, hrange, houtside⟩ := h
  exact ⟨by omega, by omega, houtside, reportId_of_validateReportId hreport⟩

/-- A relative axis has values of either sign. -/
structure IntegerField.Relative (field : IntegerField) : Prop where
  valid : field.Valid
  neg : field.logicalMinimum.toInt < 0
  pos : 0 < field.logicalMaximum.toInt

/-- An accepted mouse. -/
structure MouseOptions.Accepted (o : MouseOptions) : Prop where
  x : o.x.Relative
  y : o.y.Relative
  wheel : o.enableWheel = 1 → o.wheel.Relative
  pan : o.enablePan = 1 → o.pan.Relative
  buttonCount_pos : 0 < o.buttonCount.toNat
  buttonCount_le : o.buttonCount.toNat ≤ 65535
  reportId : o.reportId.enabled = 1 → o.reportId.value ≠ 0

theorem accepted_of_checkMouse {o : MouseOptions} (h : checkMouse o = none) : o.Accepted := by
  simp only [checkMouse, firstRefusal_cons_eq_none, firstRefusal_nil, refuse_eq_none,
    refuseIf_eq_none, Option.map_eq_none_iff, and_true] at h
  obtain ⟨-, ⟨-, hreport, hx, hy, hxRange, hyRange, hcount, -, -⟩, ⟨hwheel, hpan⟩, -,
    hranges⟩ := h
  constructor
  · exact ⟨valid_of_validateField hx, by omega, by omega⟩
  · exact ⟨valid_of_validateField hy, by omega, by omega⟩
  · intro henabled
    have hrange := not_and.mp (not_or.mp hranges).1 henabled
    exact ⟨valid_of_validateField (eq_none_of_ite hwheel henabled), by omega, by omega⟩
  · intro henabled
    have hrange := not_and.mp (not_or.mp hranges).2 henabled
    exact ⟨valid_of_validateField (eq_none_of_ite hpan henabled), by omega, by omega⟩
  · omega
  · omega
  · exact reportId_of_validateReportId hreport

/-- An accepted allow-list: distinct nonzero Usages. -/
structure ConsumerConfig.Accepted (c : ConsumerConfig) : Prop where
  nodup : c.allowedUsages.Nodup
  zero_notMem : 0 ∉ c.allowedUsages
  length_pos : 0 < c.allowedUsages.length
  length_le : c.allowedUsages.length ≤ 65535
  reportId : c.options.reportId.enabled = 1 → c.options.reportId.value ≠ 0

/-- A list whose every entry is new at its index has no duplicates. -/
private theorem nodup_of_notMem_take {α : Type} {l : List α}
    (h : ∀ (i : ℕ) (hi : i < l.length), l[i] ∉ l.take i) : l.Nodup := by
  rw [List.nodup_iff_pairwise_ne, List.pairwise_iff_getElem]
  intro i j hi hj hij heq
  apply h j hj
  rw [← heq]
  exact List.mem_take_iff_getElem.mpr ⟨i, by omega, rfl⟩

theorem checkToggle_accepted {o : ToggleOptions} (h : checkToggle o = none) :
    0 < o.allowedUsageCount ∧ o.allowedUsageCount ≤ 65535 ∧
      (o.reportId.enabled = 1 → o.reportId.value ≠ 0) := by
  simp only [checkToggle, firstRefusal_cons_eq_none, firstRefusal_nil, refuse_eq_none,
    refuseIf_eq_none, Option.map_eq_none_iff, and_true] at h
  obtain ⟨-, ⟨-, hreport⟩, -, hcount, -, -, hle⟩ := h
  exact ⟨by omega, by omega, reportId_of_validateReportId hreport⟩

theorem checkUsage_accepted {o : ToggleOptions}
    {allowedUsages : Vector UInt16 o.allowedUsageCount}
    {usageSemantics : Vector UsageSemantic o.allowedUsageCount}
    {eventTypes codes : Vector (Option String) o.allowedUsageCount}
    (h : ∀ index : Fin o.allowedUsageCount,
      checkUsage o allowedUsages usageSemantics eventTypes codes index = none) :
    allowedUsages.toList.Nodup ∧ 0 ∉ allowedUsages.toList := by
  have hindex (i : ℕ) (hi : i < allowedUsages.toList.length) :
      allowedUsages.toList[i] ≠ 0 ∧ allowedUsages.toList[i] ∉ allowedUsages.toList.take i := by
    have hcount : i < o.allowedUsageCount := by simpa using hi
    have hcheck := h ⟨i, hcount⟩
    simp only [checkUsage, firstRefusal_cons_eq_none, firstRefusal_nil, refuse_eq_none,
      and_true] at hcheck
    obtain ⟨hzero, hnew, -⟩ := hcheck
    constructor
    · intro h0
      apply hzero
      left
      simpa using h0
    · simpa using hnew
  constructor
  · exact nodup_of_notMem_take fun i hi => (hindex i hi).2
  · intro hmem
    obtain ⟨i, hi, h0⟩ := List.getElem_of_mem hmem
    exact (hindex i hi).1 h0

/-- An accepted gamepad. -/
structure GamepadConfig.Accepted (c : GamepadConfig) : Prop where
  buttonCount_pos : 0 < c.options.buttonCount.toNat
  buttonCount_le : c.options.buttonCount.toNat ≤ 65535
  usageMaximum_le :
    c.options.buttonUsageMinimum.toNat + c.options.buttonCount.toNat - 1 ≤ 65535
  usageMinimum_pos : 0 < c.options.buttonUsageMinimum.toNat
  dpad : c.options.dpadRepresentation = .none ∨ c.options.dpadRepresentation = .hat ∨
    c.options.dpadRepresentation = .buttons
  dpadButtons : c.options.dpadRepresentation = .buttons → c.options.buttonCount.toNat ≤ 65532
  hat : c.options.dpadRepresentation = .hat → c.options.hatLogicalMinimum.toInt = 0 ∧
    c.options.hatLogicalMaximum.toInt = 7 ∧ c.options.hatBitWidth.toNat = 4
  axes_length_le : c.axes.length ≤ 65535
  axes_valid : ∀ a ∈ c.axes, a.axis.value.Valid
  axes_neutral : ∀ a ∈ c.axes,
    a.axis.value.logicalMinimum.toInt ≤ a.axis.neutralValue.toInt ∧
      a.axis.neutralValue.toInt ≤ a.axis.value.logicalMaximum.toInt
  reportId : c.options.reportId.enabled = 1 → c.options.reportId.value ≠ 0

theorem checkAxis_accepted {count : ℕ} {axes : Vector GamepadAxis count}
    (h : ∀ index : Fin count, checkAxis axes index = none) (axis : GamepadAxis)
    (hmem : axis ∈ axes.toList) :
    axis.value.Valid ∧ axis.value.logicalMinimum.toInt ≤ axis.neutralValue.toInt ∧
      axis.neutralValue.toInt ≤ axis.value.logicalMaximum.toInt := by
  obtain ⟨i, hi, rfl⟩ := List.getElem_of_mem hmem
  have hcount : i < count := by simpa using hi
  have hcheck := h ⟨i, hcount⟩
  simp only [checkAxis, firstRefusal_cons_eq_none, firstRefusal_nil, refuse_eq_none,
    refuseIf_eq_none, Option.map_eq_none_iff, and_true] at hcheck
  obtain ⟨-, -, ⟨hvalid, hneutral, -⟩, -⟩ := hcheck
  have hget : axes[(⟨i, hcount⟩ : Fin count)] = axes.toList[i] := by simp
  rw [hget] at hvalid hneutral
  exact ⟨valid_of_validateField hvalid, by omega, by omega⟩

/-- The configuration that `create_controller_spec` keeps. -/
theorem accepted_of_checkGamepad {o : GamepadOptions} {axes : Vector GamepadAxis o.axisCount}
    (h : checkGamepad o = none) (hdpad : checkDpad o axes = none)
    (haxes : ∀ axis ∈ axes.toList, axis.value.Valid ∧
      axis.value.logicalMinimum.toInt ≤ axis.neutralValue.toInt ∧
        axis.neutralValue.toInt ≤ axis.value.logicalMaximum.toInt) :
    GamepadConfig.Accepted
      { options := { o with axes := none }
        axes := axes.toList.map fun axis =>
          { axis := { axis with expectedLinuxCode := none, expectedAndroidAxis := none }
            expectedLinuxCode := axis.expectedLinuxCode.getD ""
            expectedAndroidAxis := axis.expectedAndroidAxis.getD "" } } := by
  simp only [checkGamepad, firstRefusal_cons_eq_none, firstRefusal_nil, refuse_eq_none,
    refuseIf_eq_none, Option.map_eq_none_iff, and_true] at h
  simp only [checkDpad, firstRefusal_cons_eq_none, firstRefusal_nil, refuse_eq_none,
    and_true] at hdpad
  obtain ⟨-, ⟨-, hreport, -, hcount, husage, hrepresentation⟩, hlength, hmaximum, hbuttons⟩ := h
  obtain ⟨-, hhat, -⟩ := hdpad
  have husagePos : 0 < o.buttonUsageMinimum.toNat := by
    by_contra h0
    exact husage (UInt16.toNat_inj.mp (by simpa using h0))
  constructor <;> dsimp only
  · omega
  · omega
  · omega
  · exact husagePos
  · by_contra hno
    simp only [not_or] at hno
    exact hrepresentation hno
  · intro hp
    have := not_and.mp hbuttons hp
    omega
  · intro hp
    have hrange := not_and.mp hhat hp
    simp only [not_or, ne_eq, not_not] at hrange
    exact ⟨hrange.1, hrange.2.1, by rw [hrange.2.2.1]; rfl⟩
  · simpa using hlength
  · intro a ha
    obtain ⟨axis, haxis, rfl⟩ := List.mem_map.mp ha
    exact (haxes axis haxis).1
  · intro a ha
    obtain ⟨axis, haxis, rfl⟩ := List.mem_map.mp ha
    exact (haxes axis haxis).2
  · exact reportId_of_validateReportId hreport

/-- An accepted set of touch fields. -/
structure TouchFields.Accepted (f : TouchFields) : Prop where
  maximumContacts_le : f.maximumContacts.toNat ≤ 16
  contactsPerReport_pos : 0 < f.contactsPerReport.toNat
  contactsPerReport_le : f.contactsPerReport.toNat ≤ f.maximumContacts.toNat
  x : f.x.Valid ∧ f.x.SpansZero
  y : f.y.Valid ∧ f.y.SpansZero
  contactIdentifier : f.contactIdentifier.Valid ∧ f.contactIdentifier.SpansZero
  contactCount : f.contactCount.Valid ∧ f.contactCount.logicalMinimum.toInt ≤ 0 ∧
    (f.maximumContacts.toNat : ℤ) ≤ f.contactCount.logicalMaximum.toInt
  enablePressure : f.enablePressure = 0 ∨ f.enablePressure = 1
  enableWidth : f.enableWidth = 0 ∨ f.enableWidth = 1
  enableHeight : f.enableHeight = 0 ∨ f.enableHeight = 1
  enableAzimuth : f.enableAzimuth = 0 ∨ f.enableAzimuth = 1
  pressure : f.enablePressure = 1 → f.pressure.Valid ∧ f.pressure.logicalMinimum.toInt = 0 ∧
    1 ≤ f.pressure.logicalMaximum.toInt
  width : f.enableWidth = 1 → f.width.Valid ∧ f.width.SpansZero
  height : f.enableHeight = 1 → f.height.Valid ∧ f.height.SpansZero
  azimuth : f.enableAzimuth = 1 → f.azimuth.Valid ∧ f.azimuth.logicalMinimum.toInt = 0 ∧
    0 < f.azimuth.logicalMaximum.toInt
  scanTime : f.enableScanTime = 1 → f.scanTime.Valid ∧ f.scanTime.logicalMinimum.toInt = 0 ∧
    1 ≤ f.scanTime.logicalMaximum.toInt
  buttonCount_le : f.buttonCount.toNat ≤ 65535
  reportId : f.reportId.enabled = 1 → f.reportId.value ≠ 0

theorem accepted_of_checkTouch {name : String} {f : TouchFields} (h : checkTouch name f = none) :
    f.Accepted := by
  simp only [checkTouch, firstRefusal_cons_eq_none, firstRefusal_nil, refuse_eq_none,
    refuseIf_eq_none, Option.map_eq_none_iff, and_true] at h
  obtain ⟨⟨hreport, hx, hy, hxRange, hyRange, hmaximum, hcontacts, hpressure, hwidth, hheight,
    hazimuth, -, -, -, -⟩, ⟨hidentifier, hcount⟩, hcountRange, hidentifierRange, -,
    hpressureField, -, hazimuthField, hwidthField, hheightField, hgeometry, -, hscanTime,
    hbuttons⟩ := h
  constructor
  · omega
  · omega
  · omega
  · exact ⟨valid_of_validateField hx, by unfold IntegerField.SpansZero; omega⟩
  · exact ⟨valid_of_validateField hy, by unfold IntegerField.SpansZero; omega⟩
  · exact ⟨valid_of_validateField hidentifier, by unfold IntegerField.SpansZero; omega⟩
  · exact ⟨valid_of_validateField hcount, by omega, by omega⟩
  · exact boolean_of_validateOptionBoolean hpressure
  · exact boolean_of_validateOptionBoolean hwidth
  · exact boolean_of_validateOptionBoolean hheight
  · exact boolean_of_validateOptionBoolean hazimuth
  · intro h1
    obtain ⟨hvalid, hrange⟩ := not_or.mp (not_and.mp hpressureField h1)
    exact ⟨valid_of_validateField (not_not.mp hvalid), by omega, by omega⟩
  · intro h1
    have hrange := not_and.mp (not_or.mp hgeometry).1 h1
    exact ⟨valid_of_validateField (eq_none_of_ite hwidthField h1), by
      unfold IntegerField.SpansZero; omega⟩
  · intro h1
    have hrange := not_and.mp (not_or.mp hgeometry).2 h1
    exact ⟨valid_of_validateField (eq_none_of_ite hheightField h1), by
      unfold IntegerField.SpansZero; omega⟩
  · intro h1
    obtain ⟨hvalid, hrange⟩ := not_or.mp (not_and.mp hazimuthField h1)
    exact ⟨valid_of_validateField (not_not.mp hvalid), by omega, by omega⟩
  · intro h1
    obtain ⟨hvalid, hrange⟩ := not_or.mp (not_and.mp hscanTime h1)
    exact ⟨valid_of_validateField (not_not.mp hvalid), by omega, by omega⟩
  · omega
  · exact reportId_of_validateReportId hreport

/-- An accepted pen. -/
structure PenConfig.Accepted (c : PenConfig) : Prop where
  x : c.options.x.Valid ∧ c.options.x.SpansZero
  y : c.options.y.Valid ∧ c.options.y.SpansZero
  enablePressure : c.options.enablePressure = 0 ∨ c.options.enablePressure = 1
  enableTilt : c.options.enableTilt = 0 ∨ c.options.enableTilt = 1
  enableTwist : c.options.enableTwistTargetSpecific = 0 ∨ c.options.enableTwistTargetSpecific = 1
  enableEraser : c.options.enableEraser = 0 ∨ c.options.enableEraser = 1
  pressure : c.options.enablePressure = 1 → c.options.pressure.Valid ∧
    c.options.pressure.logicalMinimum.toInt = 0 ∧ 1 ≤ c.options.pressure.logicalMaximum.toInt
  tiltX : c.options.enableTilt = 1 → c.options.tiltX.Valid ∧ c.options.tiltX.SpansZero
  tiltY : c.options.enableTilt = 1 → c.options.tiltY.Valid ∧ c.options.tiltY.SpansZero
  twist : c.options.enableTwistTargetSpecific = 1 →
    c.options.twist.Valid ∧ c.options.twist.SpansZero
  barrel_length : c.barrelUsages.length = c.options.barrelUsageCount
  barrel_length_le : c.barrelUsages.length ≤ 32
  reportId : c.options.reportId.enabled = 1 → c.options.reportId.value ≠ 0

theorem length_penBarrelUsages {o : PenOptions}
    (h : ¬(o.barrelUsageCount ≠ 0 ∧ o.barrelUsages.isNone)) :
    (penBarrelUsages o).length = o.barrelUsageCount := by
  unfold penBarrelUsages
  by_cases h0 : o.barrelUsageCount = 0
  · simp [h0]
  · rw [if_pos h0]
    cases husages : o.barrelUsages with
    | none => exact absurd ⟨h0, by simp [husages]⟩ h
    | some usages => simp

theorem accepted_of_checkPen {o : PenOptions} (h : checkPen o = none) :
    PenConfig.Accepted
      { options := { o with barrelUsages := none }, barrelUsages := penBarrelUsages o } := by
  simp only [checkPen, firstRefusal_cons_eq_none, firstRefusal_nil, refuse_eq_none,
    refuseIf_eq_none, Option.map_eq_none_iff, and_true] at h
  obtain ⟨-, ⟨-, hreport, hx, hy, hxRange, hyRange, hpressure, htilt, htwist, heraser, -, hbarrel,
    hstorage, -⟩, ⟨hpressureField, htiltField, htwistField⟩, -, hneutral⟩ := h
  have hlength := length_penBarrelUsages hstorage
  constructor
  · exact ⟨valid_of_validateField hx, by unfold IntegerField.SpansZero; dsimp only; omega⟩
  · exact ⟨valid_of_validateField hy, by unfold IntegerField.SpansZero; dsimp only; omega⟩
  · exact boolean_of_validateOptionBoolean hpressure
  · exact boolean_of_validateOptionBoolean htilt
  · exact boolean_of_validateOptionBoolean htwist
  · exact boolean_of_validateOptionBoolean heraser
  · intro h1
    have hfield := eq_none_of_ite hpressureField h1
    simp only [firstRefusal_cons_eq_none, firstRefusal_nil, refuseIf_eq_none, and_true] at hfield
    exact ⟨valid_of_validateField hfield.1, by dsimp only; omega, by dsimp only; omega⟩
  · intro h1
    have hfield := eq_none_of_ite htiltField h1
    simp only [firstRefusal_cons_eq_none, firstRefusal_nil, and_true] at hfield
    have hrange := not_and.mp (not_or.mp hneutral).1 h1
    exact ⟨valid_of_validateField hfield.1, by unfold IntegerField.SpansZero; dsimp only; omega⟩
  · intro h1
    have hfield := eq_none_of_ite htiltField h1
    simp only [firstRefusal_cons_eq_none, firstRefusal_nil, and_true] at hfield
    have hrange := not_and.mp (not_or.mp hneutral).1 h1
    exact ⟨valid_of_validateField hfield.2, by unfold IntegerField.SpansZero; dsimp only; omega⟩
  · intro h1
    have hrange := not_and.mp (not_or.mp hneutral).2 h1
    exact ⟨valid_of_validateField (eq_none_of_ite htwistField h1), by
      unfold IntegerField.SpansZero; dsimp only; omega⟩
  · exact hlength
  · change (penBarrelUsages o).length ≤ 32
    omega
  · exact reportId_of_validateReportId hreport

/-- An accepted battery. -/
structure BatteryOptions.Accepted (o : BatteryOptions) : Prop where
  strength : o.strength.Valid
  nonneg : 0 ≤ o.strength.logicalMinimum.toInt
  ordered : o.strength.logicalMinimum.toInt < o.strength.logicalMaximum.toInt
  enableUnknown : o.enableUnknownNullState = 0 ∨ o.enableUnknownNullState = 1
  null : o.enableUnknownNullState = 1 →
    hasNullEncoding o.strength.logicalMinimum.toInt o.strength.logicalMaximum.toInt
      o.strength.bitWidth.toNat = true
  reportId : o.reportId.enabled = 1 → o.reportId.value ≠ 0

theorem accepted_of_checkBattery {o : BatteryOptions} (h : checkBattery o = none) :
    o.Accepted := by
  simp only [checkBattery, firstRefusal_cons_eq_none, firstRefusal_nil, refuseIf_eq_none,
    Option.map_eq_none_iff, and_true] at h
  obtain ⟨-, -, hreport, hstrength, hrange, hunknown, hnull⟩ := h
  refine ⟨valid_of_validateField hstrength, by omega, by omega,
    boolean_of_validateOptionBoolean hunknown, fun h1 => ?_, reportId_of_validateReportId hreport⟩
  by_contra hno
  exact hnull ⟨h1, by simpa using hno⟩

/-! ### Configurations -/

/-- The configuration belongs to the kind, and its options were accepted. -/
def SpecConfig.Accepted : ProfileKind → SpecConfig → Prop
  | .keyboard, .keyboard { options } => options.Accepted
  | .mouse, .mouse { options } => options.Accepted
  | .toggle, .consumer config => config.Accepted
  | .gamepad, .gamepad config => config.Accepted
  | .touchscreen, .touch { fields } => fields.Accepted ∧ fields.buttonCount = 0
  | .touchpad, .touch { fields } => fields.Accepted
  | .pen, .pen config => config.Accepted
  | .battery, .battery { options } => options.Accepted
  | _, _ => False

end LibaoaHid

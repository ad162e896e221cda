import LibaoaHid.Profiles.CallSteps
import LibaoaHid.Profiles.Readings

/-!
# Controls

The controls that the other side sees in the reports: keys, buttons, the D-pad, the Usage of a
Toggle, axes, and the two contact bits of a pen. A control has a value in the profile state, and
a report encodes a value in the fields of the control.

## Main definitions

* `Control`, `Control.Covers`: the controls and their fields.
* `Control.value`, `Control.pending`: the value in a profile state, and its edge guard.
* `Control.Encodes`: a report encodes a value.

## Main results

* `Control.encodes_of_carries`: the report of a state encodes its values.
* `CallStep.edge`: a call that changes a control finds its edge guard open and shuts it.
-/

namespace LibaoaHid

/-! ### Controls and their fields -/

/-- A control of a report. -/
inductive Control
  | key (index : ℕ)
  | modifier (index : ℕ)
  | button (index : ℕ)
  | dpad
  | usage
  | axis (index : ℕ)
  | inRange
  | tip
  deriving DecidableEq, Repr

/-- The first of the four D-pad buttons, behind the others. -/
def SpecConfig.dpadStart : SpecConfig → Option ℕ
  | .gamepad c =>
    if c.options.dpadRepresentation = .buttons then some c.options.buttonCount.toNat else none
  | _ => none

/-- A button that belongs to the D-pad. -/
def SpecConfig.IsDpadButton (config : SpecConfig) (index : ℕ) : Prop :=
  ∃ start, config.dpadStart = some start ∧ start ≤ index

namespace Control

/-- The field carries a part of the control. -/
def Covers (config : SpecConfig) (field : FieldLayout) : Control → Prop
  | .key index => field.semantic = .keyBitmap ∧ field.instanceIndex = index
  | .modifier index => field.semantic = .modifier ∧ field.instanceIndex = index
  | .button index =>
    field.semantic = .buttons ∧ field.instanceIndex = index ∧ ¬config.IsDpadButton index
  | .dpad =>
    field.semantic = .hat ∨
      field.semantic = .buttons ∧ config.IsDpadButton field.instanceIndex
  | .usage => field.semantic = .consumerUsage
  | .axis index => field.semantic = .gamepadAxis ∧ field.instanceIndex = index
  | .inRange => field.semantic = .inRange
  | .tip => field.semantic = .tip

/-- The value of a control in a profile state; a D-pad at rest has none. -/
def value : Control → NodeState → Option ℤ
  | .key index, .keyboard s => some (s.pressedBitmap.getD index 0).toNat
  | .modifier index, .keyboard s => some (bitOf s.modifiers.toNat index)
  | .button index, .mouse s => some (s.buttons.getD index 0).toNat
  | .button index, .gamepad s => some (s.buttons.getD index 0).toNat
  | .dpad, .gamepad s => if s.hatHasDirection then some s.hat else none
  | .usage, .consumer s => some s.usage.toNat
  | .axis index, .gamepad s => some (s.axes.getD index 0).toInt
  | _, _ => none

/-- The edge guard of a control. -/
def pending : Control → NodeState → Bool
  | .key index, .keyboard s => s.keyTransitions.getD index 0 != 0
  | .modifier index, .keyboard s => s.modifierTransitions.toNat.testBit index
  | .button index, .mouse s => s.buttonTransitions.getD index 0 != 0
  | .button index, .gamepad s => s.buttonTransitions.getD index 0 != 0
  | .dpad, .gamepad s => s.hatTransitionPending
  | .usage, .consumer s => s.transitionPending
  | _, _ => false

/-- The value of a field whose control has the given value. -/
def reading (config : SpecConfig) (value : Option ℤ) (field : FieldLayout) : Control → ℤ
  | .dpad =>
    match config.dpadStart with
    | some start => value.getD 0 / 2 ^ (field.instanceIndex - start) % 2
    | none => value.getD (hatNull field)
  | .usage =>
    match config with
    | .consumer c =>
      if (c.allowedUsages[field.instanceIndex]?).map (fun usage => (usage.toNat : ℤ)) = value then 1
      else 0
    | _ => 0
  | _ => value.getD 0

/-- The report encodes the value in the fields of the control, and there are such fields. -/
structure Encodes (control : Control) (spec : Spec) (report : List UInt8) (value : Option ℤ) :
    Prop where
  declared : ∃ field ∈ spec.layout.fields, control.Covers spec.config field
  reads : ∀ field ∈ spec.layout.fields, control.Covers spec.config field →
    fieldReading report field = control.reading spec.config value field

end Control

/-- The profiles that send one report for a state, without contacts. -/
inductive SingleReport : SpecConfig → NodeState → Prop
  | keyboard {c : KeyboardConfig} {s : KeyboardState} (h : s.Fits c.options) :
      SingleReport (.keyboard c) (.keyboard s)
  | mouse {c : MouseConfig} {s : MouseState} (h : s.Fits c.options) :
      SingleReport (.mouse c) (.mouse s)
  | consumer {c : ConsumerConfig} {s : ConsumerState} (h : s.Fits c) :
      SingleReport (.consumer c) (.consumer s)
  | gamepad {c : GamepadConfig} {s : GamepadState} (h : s.Fits c) :
      SingleReport (.gamepad c) (.gamepad s)

namespace SingleReport

variable {config : SpecConfig} {state : NodeState}

theorem fits (h : SingleReport config state) : state.Fits config := by
  cases h <;> assumption

theorem reportable (h : SingleReport config state) : state.Reportable config := by
  cases h <;> trivial

end SingleReport

/-! ### Reports -/

section Reports

variable {config : SpecConfig} {state : NodeState} {field : FieldLayout}

private theorem buttonValue_eq (hfits : SingleReport config state) {index : ℕ}
    (hbutton : ¬config.IsDpadButton index) :
    buttonValue config state index = ((Control.button index).value state).getD 0 := by
  cases hfits with
  | keyboard => rfl
  | consumer => rfl
  | @mouse c s h =>
    simp only [buttonValue, Control.value, Option.getD_some]
    split_ifs with hlt
    · rfl
    · rw [List.getD_eq_default _ _ (not_lt.mp hlt)]
      rfl
  | @gamepad c s h =>
    have hlength := h.buttons.length
    simp only [buttonValue, Control.value, Option.getD_some]
    split_ifs with hlt hdpad
    · rfl
    · exact absurd ⟨_, if_pos hdpad.1, hdpad.2.1⟩ hbutton
    · rw [List.getD_eq_default _ _ (not_lt.mp hlt)]
      rfl

private theorem dpadButtonValue_eq (hfits : SingleReport config state) {start index : ℕ}
    (hstart : config.dpadStart = some start) (hle : start ≤ index) (hlt : index < start + 4) :
    buttonValue config state index =
      ((Control.dpad).value state).getD 0 / 2 ^ (index - start) % 2 := by
  cases hfits with
  | keyboard => simp [SpecConfig.dpadStart] at hstart
  | mouse => simp [SpecConfig.dpadStart] at hstart
  | consumer => simp [SpecConfig.dpadStart] at hstart
  | @gamepad c s h =>
    have hlength := h.buttons.length
    simp only [SpecConfig.dpadStart] at hstart
    split_ifs at hstart with hbuttons
    cases hstart
    have hvalue : ((Control.dpad).value (.gamepad s)).getD 0 = s.hat := by
      simp only [Control.value]
      split_ifs with hdirection
      · rfl
      · exact (h.noDirection (by simpa using hdirection)).symm
    rw [hvalue]
    simp only [buttonValue]
    rw [if_neg (by omega), if_pos ⟨hbuttons, hle, hlt⟩]

/-- A declared button of a D-pad is one of four. -/
theorem lt_of_isDpadButton {start : ℕ} (hstart : config.dpadStart = some start)
    (hsemantic : field.semantic = .buttons) (hdeclared : field.decl ∈ config.declaredFields) :
    field.instanceIndex < start + 4 := by
  cases config with
  | gamepad c =>
    simp only [SpecConfig.dpadStart] at hstart
    split_ifs at hstart with hbuttons
    cases hstart
    have hindex : field.decl.instanceIndex = field.instanceIndex := rfl
    have hdecl : field.decl.semantic = .buttons := hsemantic
    simp only [SpecConfig.declaredFields, List.mem_append, mem_bitDecls, List.mem_map] at hdeclared
    rcases hdeclared with (⟨index, hlt, hd⟩ | hd) | ⟨entry, -, hd⟩
    · rw [← hindex, hd]
      exact hlt.trans_le (Nat.le_add_right _ _)
    · simp only [dpadDecls, hbuttons, reduceCtorEq, if_false, if_true, List.mem_map,
        List.mem_range] at hd
      obtain ⟨index, hlt, hd⟩ := hd
      rw [← hindex, ← hd]
      exact Nat.add_lt_add_left hlt _
    · rw [← hd] at hdecl
      simp [integerDecl] at hdecl
  | _ => simp [SpecConfig.dpadStart] at hstart

/-- A declared Hat is not beside D-pad buttons. -/
theorem dpadStart_of_hat (hsemantic : field.semantic = .hat)
    (hdeclared : field.decl ∈ config.declaredFields) : config.dpadStart = none := by
  cases config with
  | gamepad c =>
    simp only [SpecConfig.dpadStart]
    rw [if_neg]
    intro hbuttons
    have hdecl : field.decl.semantic = .hat := hsemantic
    simp only [SpecConfig.declaredFields, List.mem_append, mem_bitDecls, List.mem_map] at hdeclared
    rcases hdeclared with (⟨index, -, hd⟩ | hd) | ⟨entry, -, hd⟩
    · rw [hd] at hdecl
      simp [bitDecl] at hdecl
    · simp only [dpadDecls, hbuttons, reduceCtorEq, if_false, if_true, List.mem_map] at hd
      obtain ⟨index, -, hd⟩ := hd
      rw [← hd] at hdecl
      simp [bitDecl] at hdecl
    · rw [← hd] at hdecl
      simp [integerDecl] at hdecl
  | _ => rfl

/-- **The fields of a control are selected by its value.** -/
theorem Control.selectedValue_eq (hfits : SingleReport config state) {control : Control}
    (hcovers : control.Covers config field)
    (hdeclared : field.decl ∈ config.declaredFields) :
    selectedValue config state field = control.reading config (control.value state) field := by
  cases control with
  | key index =>
    obtain ⟨hsemantic, rfl⟩ := hcovers
    unfold selectedValue fieldValue
    rw [hsemantic]
    cases hfits with
    | @keyboard c s h =>
      simp only [Option.map_some, Option.getD_some, Control.reading, Control.value]
      split_ifs with hlt
      · rfl
      · rw [List.getD_eq_default _ _ (not_lt.mp hlt)]
        rfl
    | _ => rfl
  | modifier index =>
    obtain ⟨hsemantic, rfl⟩ := hcovers
    unfold selectedValue fieldValue
    rw [hsemantic]
    cases hfits <;> rfl
  | button index =>
    obtain ⟨hsemantic, rfl, hbutton⟩ := hcovers
    unfold selectedValue fieldValue
    rw [hsemantic]
    exact buttonValue_eq hfits hbutton
  | dpad =>
    rcases hcovers with hsemantic | ⟨hsemantic, start, hstart, hle⟩
    · rw [Control.reading, dpadStart_of_hat hsemantic hdeclared]
      unfold selectedValue fieldValue
      rw [hsemantic]
      cases hfits with
      | @gamepad c s h =>
        simp only [Control.value]
        split_ifs <;> rfl
      | _ => rfl
    · have hlt := lt_of_isDpadButton hstart hsemantic hdeclared
      rw [Control.reading, hstart]
      unfold selectedValue fieldValue
      rw [hsemantic]
      exact dpadButtonValue_eq hfits hstart hle hlt
  | usage =>
    have hsemantic : field.semantic = .consumerUsage := hcovers
    unfold selectedValue fieldValue
    rw [hsemantic]
    cases hfits with
    | @consumer c s h =>
      simp only [Option.map_some, Option.getD_some, Control.reading, Control.value]
      cases hget : c.allowedUsages[field.instanceIndex]? with
      | none => simp
      | some usage => simp [← UInt16.toNat_inj]
    | _ => rfl
  | axis index =>
    obtain ⟨hsemantic, rfl⟩ := hcovers
    unfold selectedValue fieldValue
    rw [hsemantic]
    cases hfits with
    | @gamepad c s h =>
      simp only [Option.map_some, Option.getD_some, Control.reading, Control.value]
      split_ifs with hlt
      · rfl
      · rw [List.getD_eq_default _ _ (not_lt.mp hlt)]
        rfl
    | _ => rfl
  | inRange =>
    have hsemantic : field.semantic = .inRange := hcovers
    unfold selectedValue fieldValue
    rw [hsemantic]
    cases hfits <;> rfl
  | tip =>
    have hsemantic : field.semantic = .tip := hcovers
    unfold selectedValue fieldValue
    rw [hsemantic]
    cases hfits <;> rfl

/-- The control is declared by the configuration. -/
def Control.Declared (control : Control) (config : SpecConfig) : Prop :=
  ∃ d ∈ config.declaredFields, ∀ field : FieldLayout, field.decl = d → control.Covers config field

/-- **The report of a state encodes the value of each declared control.** -/
theorem Control.encodes_of_carries {spec : Spec} (hsound : spec.Sound)
    (hfits : SingleReport spec.config state) {control : Control}
    (hdeclared : control.Declared spec.config) {report : List UInt8}
    (hcarries : spec.Carries state report) :
    control.Encodes spec report (control.value state) := by
  obtain ⟨d, hd, hcovers⟩ := hdeclared
  rw [← hsound.declared] at hd
  obtain ⟨field, hfield, rfl⟩ := ReportLayout.exists_field_of_mem_declared hd
  refine ⟨⟨field, hfield, hcovers field rfl⟩, fun other hother hcoversOther => ?_⟩
  have hpadding : other.semantic ≠ .constantPadding := by
    intro hpadding
    cases control <;> simp [Control.Covers, hpadding] at hcoversOther
  have hmem : other.decl ∈ spec.config.declaredFields := by
    rw [← hsound.declared]
    exact ReportLayout.decl_mem_declared hother hpadding
  rw [hcarries.reading_of_fits hsound hfits.fits hfits.reportable hother,
    Control.selectedValue_eq hfits hcoversOther hmem]

end Reports

/-! ### Edges -/

section Bits

variable {m : UInt8} {i : ℕ} (h : i < 8)

include h

private theorem toNat_bit : (UInt8.ofNat (1 <<< i)).toNat = 2 ^ i := by
  have hlt : 2 ^ i < 256 := Nat.pow_lt_pow_right (by omega) (show i < 8 by omega)
  rw [UInt8.toNat_ofNat', Nat.one_shiftLeft, Nat.mod_eq_of_lt hlt]

theorem and_bit_eq_zero_iff : m &&& UInt8.ofNat (1 <<< i) = 0 ↔ m.toNat.testBit i = false := by
  rw [← UInt8.toNat_inj, UInt8.toNat_and, toNat_bit h, Nat.and_two_pow]
  cases m.toNat.testBit i <;> simp

theorem testBit_setBit (j : ℕ) :
    (m ||| UInt8.ofNat (1 <<< i)).toNat.testBit j = (m.toNat.testBit j || decide (i = j)) := by
  rw [UInt8.toNat_or, toNat_bit h, Nat.testBit_or, Nat.testBit_two_pow]

theorem testBit_clearBit (j : ℕ) :
    (m &&& ~~~UInt8.ofNat (1 <<< i)).toNat.testBit j = (m.toNat.testBit j && !decide (i = j)) := by
  have hbit : (UInt8.ofNat (1 <<< i)).toBitVec.getLsbD j = decide (i = j) := by
    rw [← BitVec.testBit_toNat, UInt8.toNat_toBitVec, toNat_bit h, Nat.testBit_two_pow]
  rw [← UInt8.toNat_toBitVec, BitVec.testBit_toNat, ← UInt8.toNat_toBitVec, BitVec.testBit_toNat,
    UInt8.toBitVec_and, UInt8.toBitVec_not, BitVec.getLsbD_and, BitVec.getLsbD_not, hbit]
  by_cases hj : j < 8
  · simp [hj]
  · rw [BitVec.getLsbD_of_ge _ _ (not_lt.mp hj)]
    simp

end Bits

theorem getD_set {l : List UInt8} {index : ℕ} (h : index < l.length) (value : UInt8) (j : ℕ) :
    (l.set index value).getD j 0 = if j = index then value else l.getD j 0 := by
  by_cases hj : j = index
  · subst hj
    rw [if_pos rfl, List.getD_eq_getElem _ _ (by simpa using h), List.getElem_set_self]
  · rw [if_neg hj, List.getD_eq_getElem?_getD, List.getElem?_set_ne (Ne.symm hj),
      List.getD_eq_getElem?_getD]

/-- A control is left as it is, with its guard; or it finds its guard open and shuts it. -/
def Control.EdgeStep (control : Control) (config : SpecConfig) (state state' : NodeState) : Prop :=
  (control.value state' = control.value state ∧
    (control.pending state = true → control.pending state' = true)) ∨
  (control.pending state = false ∧ control.pending state' = true ∧ control.Declared config)

theorem PressStep.edge {values transitions values' transitions' : List UInt8} {changed : Bool}
    (hstep : PressStep values transitions values' transitions' changed)
    (hlength : transitions.length = values.length) (index : ℕ) :
    (values'.getD index 0 = values.getD index 0 ∧
      (transitions.getD index 0 ≠ 0 → transitions'.getD index 0 ≠ 0)) ∨
    (transitions.getD index 0 = 0 ∧ transitions'.getD index 0 ≠ 0 ∧ index < values.length) := by
  cases hstep with
  | keep => exact Or.inl ⟨rfl, id⟩
  | press j value hindex hvalue hnew hguard =>
    rw [getD_set hindex, getD_set (hlength ▸ hindex)]
    by_cases hj : index = j
    · subst hj
      rw [if_pos rfl, if_pos rfl]
      exact Or.inr ⟨hguard, by simp, hindex⟩
    · rw [if_neg hj, if_neg hj]
      exact Or.inl ⟨rfl, id⟩

theorem Control.EdgeStep.keep {control : Control} {config : SpecConfig} {state state' : NodeState}
    (hvalue : control.value state' = control.value state)
    (hpending : control.pending state' = control.pending state) :
    control.EdgeStep config state state' :=
  Or.inl ⟨hvalue, fun h => hpending.trans h⟩

/-- The controls with an edge guard. -/
def Control.Guarded (control : Control) : Prop := ∀ index, control ≠ .axis index

/-! The controls that a profile declares. -/

section Declared

variable {index : ℕ}

theorem Control.declared_modifier {c : KeyboardConfig} (h : index < 8) :
    (Control.modifier index).Declared (.keyboard c) := by
  refine ⟨bitDecl .modifier index, ?_, fun field hfield => ?_⟩
  · simp only [SpecConfig.declaredFields, List.mem_append, mem_bitDecls]
    exact Or.inl ⟨index, h, rfl⟩
  · obtain ⟨hsemantic, hinstance, -⟩ := FieldLayout.eq_of_decl hfield
    exact ⟨hsemantic, hinstance⟩

theorem Control.declared_key {c : KeyboardConfig} (h : index < c.options.keyCount) :
    (Control.key index).Declared (.keyboard c) := by
  refine ⟨bitDecl .keyBitmap index, ?_, fun field hfield => ?_⟩
  · simp only [SpecConfig.declaredFields, List.mem_append, mem_bitDecls]
    exact Or.inr ⟨index, h, rfl⟩
  · obtain ⟨hsemantic, hinstance, -⟩ := FieldLayout.eq_of_decl hfield
    exact ⟨hsemantic, hinstance⟩

/-- A button below the count is declared, and is not one of a D-pad. -/
private theorem declared_button {config : SpecConfig} (count : ℕ)
    (hmem : bitDecl .buttons index ∈ config.declaredFields)
    (hcount : ∀ start, config.dpadStart = some start → start = count) (hindex : index < count) :
    (Control.button index).Declared config := by
  refine ⟨_, hmem, fun field hfield => ?_⟩
  obtain ⟨hsemantic, hinstance, -⟩ := FieldLayout.eq_of_decl hfield
  refine ⟨hsemantic, hinstance, ?_⟩
  rintro ⟨start, hstart, hle⟩
  rw [hcount start hstart] at hle
  omega

theorem Control.declared_mouseButton {c : MouseConfig} (h : index < c.options.buttonCount.toNat) :
    (Control.button index).Declared (.mouse c) := by
  refine declared_button c.options.buttonCount.toNat ?_ ?_ h
  · simp only [SpecConfig.declaredFields, List.mem_append, mem_bitDecls]
    exact Or.inl (Or.inl (Or.inl ⟨index, h, rfl⟩))
  · intro start hstart
    simp [SpecConfig.dpadStart] at hstart

theorem Control.declared_gamepadButton {c : GamepadConfig}
    (h : index < c.options.buttonCount.toNat) : (Control.button index).Declared (.gamepad c) := by
  refine declared_button c.options.buttonCount.toNat ?_ ?_ h
  · simp only [SpecConfig.declaredFields, List.mem_append, mem_bitDecls]
    exact Or.inl (Or.inl ⟨index, h, rfl⟩)
  · intro start hstart
    simp only [SpecConfig.dpadStart] at hstart
    split_ifs at hstart
    exact (Option.some.inj hstart).symm

theorem Control.declared_usage {c : ConsumerConfig} (h : 0 < c.allowedUsages.length) :
    Control.usage.Declared (.consumer c) := by
  refine ⟨bitDecl .consumerUsage 0, ?_, fun field hfield => (FieldLayout.eq_of_decl hfield).1⟩
  simp only [SpecConfig.declaredFields, mem_bitDecls]
  exact ⟨0, h, rfl⟩

/-- A D-pad is declared as four buttons or as a Hat. -/
theorem Control.declared_dpad {c : GamepadConfig}
    (h : c.options.dpadRepresentation = .buttons ∨ c.options.dpadRepresentation = .hat) :
    Control.dpad.Declared (.gamepad c) := by
  rcases h with h | h
  · refine ⟨bitDecl .buttons c.options.buttonCount.toNat, ?_, fun field hfield => ?_⟩
    · simp only [SpecConfig.declaredFields, List.mem_append, dpadDecls, h, reduceCtorEq, if_false,
        if_true, List.mem_map, List.mem_range]
      exact Or.inl (Or.inr ⟨0, by omega, rfl⟩)
    · obtain ⟨hsemantic, hinstance, -⟩ := FieldLayout.eq_of_decl hfield
      exact Or.inr ⟨hsemantic, _, if_pos h, hinstance.ge⟩
  · refine ⟨⟨.hat, 0, c.options.hatBitWidth.toNat, c.options.hatLogicalMinimum.toInt,
      c.options.hatLogicalMaximum.toInt, true⟩, ?_,
      fun field hfield => Or.inl (FieldLayout.eq_of_decl hfield).1⟩
    simp only [SpecConfig.declaredFields, List.mem_append, dpadDecls, h, if_true,
      List.mem_singleton]
    exact Or.inl (Or.inr trivial)

end Declared

/-! The calls, one kind of control each. -/

/-- A key is pressed or released behind its guard. -/
private theorem edge_key {c : KeyboardConfig} {keyboard : KeyboardState}
    (hfits : keyboard.Fits c.options) {index : ℕ} (hindex : index < keyboard.pressedBitmap.length)
    (hguard : keyboard.keyTransitions.getD index 0 = 0) (value : UInt8) (count : ℕ)
    (control : Control) :
    control.EdgeStep (.keyboard c) (.keyboard keyboard)
      (.keyboard { keyboard with
        pressedBitmap := keyboard.pressedBitmap.set index value
        pressedBitmapCount := count
        keyTransitions := keyboard.keyTransitions.set index 1 }) := by
  have hlength : keyboard.keyTransitions.length = keyboard.pressedBitmap.length := by
    rw [hfits.transitions_length, hfits.bitmap_length]
  cases control with
  | key j =>
    by_cases hj : j = index
    · subst hj
      refine Or.inr ⟨?_, ?_, Control.declared_key (hfits.bitmap_length ▸ hindex)⟩
      · simp only [Control.pending, hguard, bne_self_eq_false]
      · simp only [Control.pending]
        rw [getD_set (hlength ▸ hindex), if_pos rfl]
        rfl
    · refine .keep ?_ ?_
      · simp only [Control.value]
        rw [getD_set hindex, if_neg hj]
      · simp only [Control.pending]
        rw [getD_set (hlength ▸ hindex), if_neg hj]
  | _ => exact .keep rfl rfl

/-- A modifier is pressed or released behind its guard. -/
private theorem edge_modifier {c : KeyboardConfig} {keyboard : KeyboardState} {index : ℕ}
    (hindex : index < 8) (hguard : keyboard.modifierTransitions &&& UInt8.ofNat (1 <<< index) = 0)
    (press : Bool) (control : Control) :
    control.EdgeStep (.keyboard c) (.keyboard keyboard)
      (.keyboard { keyboard with
        modifiers :=
          if press then keyboard.modifiers ||| UInt8.ofNat (1 <<< index)
          else keyboard.modifiers &&& ~~~UInt8.ofNat (1 <<< index)
        modifierTransitions :=
          keyboard.modifierTransitions ||| UInt8.ofNat (1 <<< index) }) := by
  rw [and_bit_eq_zero_iff hindex] at hguard
  cases control with
  | modifier j =>
    by_cases hj : index = j
    · subst hj
      refine Or.inr ⟨hguard, ?_, Control.declared_modifier hindex⟩
      simp only [Control.pending]
      rw [testBit_setBit hindex]
      simp
    · refine .keep ?_ ?_
      · simp only [Control.value, bitOf_eq]
        split_ifs
        · rw [testBit_setBit hindex, decide_eq_false hj, Bool.or_false]
        · rw [testBit_clearBit hindex, decide_eq_false hj, Bool.not_false, Bool.and_true]
      · simp only [Control.pending]
        rw [testBit_setBit hindex, decide_eq_false hj, Bool.or_false]
  | _ => exact .keep rfl rfl

/-- A button of either profile with buttons is pressed or released behind its guard. -/
private theorem edge_button {config : SpecConfig} {state state' : NodeState} {index : ℕ}
    {values transitions values' transitions' : List UInt8} {changed : Bool}
    (hpress : PressStep values transitions values' transitions' changed)
    (hlength : transitions.length = values.length)
    (hvalue : (Control.button index).value state = some (values.getD index 0).toNat)
    (hvalue' : (Control.button index).value state' = some (values'.getD index 0).toNat)
    (hpending : (Control.button index).pending state = (transitions.getD index 0 != 0))
    (hpending' : (Control.button index).pending state' = (transitions'.getD index 0 != 0))
    (hdeclared : index < values.length → (Control.button index).Declared config) :
    (Control.button index).EdgeStep config state state' := by
  rcases hpress.edge hlength index with ⟨hsame, hkeep⟩ | ⟨hopen, hshut, hlt⟩
  · refine Or.inl ⟨by rw [hvalue, hvalue', hsame], ?_⟩
    rw [hpending, hpending', bne_iff_ne, bne_iff_ne]
    exact hkeep
  · refine Or.inr ⟨?_, ?_, hdeclared hlt⟩
    · rw [hpending, hopen, bne_self_eq_false]
    · rw [hpending', bne_iff_ne]
      exact hshut

/-- A Usage that is toggled was another one, so there are Usages. -/
private theorem edge_usage {c : ConsumerConfig} {consumer : ConsumerState} (hfits : consumer.Fits c)
    {next : UInt16} (hnext : next = 0 ∨ next ∈ c.allowedUsages) (hnew : consumer.usage ≠ next)
    (hguard : consumer.transitionPending = false) (control : Control) :
    control.EdgeStep (.consumer c) (.consumer consumer)
      (.consumer { usage := next, transitionPending := true }) := by
  cases control with
  | usage =>
    refine Or.inr ⟨hguard, rfl, Control.declared_usage (List.length_pos_iff.mpr fun hnil => ?_)⟩
    have husage := hfits.usage
    simp only [hnil, List.not_mem_nil, or_false] at husage hnext
    exact hnew (husage.trans hnext.symm)
  | _ => exact .keep rfl rfl

/-- **Edges.** A call that changes a guarded control finds the guard open and shuts it; and no
call opens a guard. -/
theorem CallStep.edge {config : SpecConfig} {call : Call} {state state' : NodeState}
    {changed : Bool} (hstep : CallStep config call state state' changed)
    (hfits : SingleReport config state) {control : Control} (hguarded : control.Guarded) :
    control.EdgeStep config state state' := by
  cases hstep with
  | keep => exact .keep rfl rfl
  | modifier index press hindex hnew hguard => exact edge_modifier hindex hguard press control
  | pressKey index hindex htransition hnew hguard =>
    cases hfits with
    | keyboard h => exact edge_key h hindex hguard 1 _ control
  | releaseKey index hindex htransition hnew hguard =>
    cases hfits with
    | keyboard h => exact edge_key h hindex hguard 0 _ control
  | @mouseButton c mouse button pressed buttons transitions changed hpress =>
    cases hfits with
    | mouse h =>
      have hlength := h.buttons.length
      cases control with
      | button j =>
        exact edge_button hpress (hlength ▸ h.buttons.transitions_length) rfl rfl rfl rfl
          fun hlt => Control.declared_mouseButton (hlength ▸ hlt)
      | _ => exact .keep rfl rfl
  | toggle next hnext hnew hguard =>
    cases hfits with
    | consumer h => exact edge_usage h hnext hnew hguard control
  | @gamepadButton c gamepad button pressed buttons transitions changed hpress =>
    cases hfits with
    | gamepad h =>
      have hlength := h.buttons.length
      cases control with
      | button j =>
        exact edge_button hpress (hlength ▸ h.buttons.transitions_length) rfl rfl rfl rfl
          fun hlt => Control.declared_gamepadButton (hlength ▸ hlt)
      | _ => exact .keep rfl rfl
  | dpad direction hat hrepresentation hnonneg hlt hhat hbuttons hnone hnew hguard =>
    cases control with
    | dpad => exact Or.inr ⟨hguard, rfl, Control.declared_dpad hrepresentation⟩
    | _ => exact .keep rfl rfl
  | gamepadSetAxis =>
    cases control with
    | axis index => exact absurd rfl (hguarded index)
    | _ => exact .keep rfl rfl
  | mouseMove => cases control <;> exact .keep rfl rfl
  | mouseScroll => cases control <;> exact .keep rfl rfl
  | lift => cases hfits
  | move => cases hfits
  | place => cases hfits
  | touchpadButton => cases hfits
  | penUpdate => cases hfits
  | penDepart => cases hfits
  | batteryUpdate => cases hfits

end LibaoaHid

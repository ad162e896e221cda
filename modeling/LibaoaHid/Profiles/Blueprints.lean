import LibaoaHid.Hid.ProgramRuns
import LibaoaHid.Profiles.ValidPrograms

/-!
# The Specs of the programs

A generated factory is its option checks and a program. What it returns is read off the program:
the Spec with the program's bytes, layout and counters, the finding of the last validation, or the
overflow of the wire-length field.

## Main definitions

* `EmitterProgram.spec`: the Spec of a program.
* `GeneratedOptions`: the options of a generated factory.
* `GeneratedOptions.emit`: the emitter of a factory.
* `GeneratedOptions.Passes`: the option checks of a factory, with its program.

## Main results

* `buildGeneratedSpec_of_fits`, `buildGeneratedSpec_of_overflow`: the common tail of the factories
  on a valid program.
* `GeneratedOptions.Passes.valid`: the program of accepted options.
* `GeneratedOptions.Passes.create_of_fits`, `GeneratedOptions.Passes.ofProgram`: what a factory
  returns for accepted options.
* `Generated.exists_program`: the program of a generated Spec.
-/

namespace LibaoaHid

open Hid DescriptorBuilder

/-! ### The common tail -/

/-- The Spec of a program. -/
def EmitterProgram.spec (p : EmitterProgram) (kind : ProfileKind) (androidStatus : AndroidStatus)
    (config : SpecConfig) : Spec where
  kind
  androidStatus
  descriptor := p.bytes
  layout := p.layout
  requirements := p.tally.requirements
  reportCapabilities :=
    [⟨p.layout.reportId, if p.layout.hasReportId then 1 else 0, p.layout.wireBytes⟩]
  config

/-- The reply to a finding of the last validation. -/
def ValidationIssue.reply (found : ValidationIssue) : Reply :=
  ⟨found.result, setError found.result found.field found.reason 0 0 0 0 found.offset⟩

section Tail

variable {kind : ProfileKind} {androidStatus : AndroidStatus} {config : SpecConfig}
  {emit : DescriptorBuilder → Option DescriptorBuilder} {p : EmitterProgram}

/-- The counting pass of a program that fits. -/
theorem put_counting {bytes : List UInt8} (h : bytes.length ≤ 65535) :
    ItemWriter.put { bytes := none, capacity := 65535 } bytes =
      some { bytes := none, capacity := 65535, position := bytes.length } := by
  unfold ItemWriter.put ItemWriter.wrote
  simpa using h

/-- The emitting pass fills its buffer. -/
theorem put_emitting (bytes : List UInt8) :
    ∃ w : ItemWriter, ItemWriter.put
        { bytes := some (List.replicate bytes.length 0), capacity := bytes.length } bytes = some w ∧
      w.bytes = some bytes ∧ w.position = bytes.length := by
  have hfits : ItemWriter.put
      { bytes := some (List.replicate bytes.length 0), capacity := bytes.length } bytes =
        some (ItemWriter.wrote _ bytes) := if_pos (Nat.zero_add bytes.length).le
  exact ⟨_, hfits, ItemWriter.bytes_put_replicate hfits, Nat.zero_add _⟩

/-- A program that fits writes its bytes at both passes. -/
theorem buildGeneratedSpec_of_fits (hp : p.Valid) (hemit : ∀ b, emit b = p.run b)
    (hfits : p.bytes.length ≤ 65535) :
    buildGeneratedSpec kind androidStatus config emit =
      match validateGenerated p.bytes p.layout with
      | some found => .error found.reply
      | none => .ok (p.spec kind androidStatus config) := by
  obtain rfl : emit = p.run := funext hemit
  obtain ⟨w, hput, hbytes, hposition⟩ := put_emitting p.bytes
  obtain ⟨counted, hcounted, hwriter, hfinished⟩ :=
    EmitterProgram.run_of_fits hp (some {}) (put_counting hfits)
  obtain ⟨emitted, hemitted, rfl, hfinished'⟩ := EmitterProgram.run_of_fits hp none hput
  have hlayout : counted.layout = some p.layout := by
    rw [hfinished.layout]
    simp
  unfold buildGeneratedSpec
  rw [hcounted]
  dsimp only
  rw [hwriter]
  dsimp only
  rw [List.length_replicate, hemitted]
  dsimp only
  rw [if_neg (by rw [hposition, hfinished'.requirements, hfinished.requirements]; simp), hbytes,
    hlayout, hfinished.requirements]
  rfl

/-- A program that does not fit. -/
theorem buildGeneratedSpec_of_overflow (hp : p.Valid) (hemit : ∀ b, emit b = p.run b)
    (hfull : 65535 < p.bytes.length) :
    buildGeneratedSpec kind androidStatus config emit =
      .error (.fail .errOverflow "spec.descriptor"
        "Descriptor generation failed or exceeded the AOA wire-length field.") := by
  obtain rfl : emit = p.run := funext hemit
  have hput : ItemWriter.put { bytes := none, capacity := 65535 } p.bytes = none :=
    if_neg (by dsimp only; omega)
  unfold buildGeneratedSpec
  rw [EmitterProgram.run_of_full hp hput]

end Tail

/-- What a Spec of a program is. -/
structure Spec.OfProgram (spec : Spec) (p : EmitterProgram) : Prop where
  descriptor : spec.descriptor = p.bytes
  layout : spec.layout = p.layout
  requirements : spec.requirements = p.tally.requirements
  fits : p.bytes.length ≤ 65535
  valid : validateGenerated p.bytes p.layout = none

/-! ### Options -/

/-- The options of a generated factory. -/
inductive GeneratedOptions
  | keyboard (o : KeyboardOptions)
  | mouse (o : MouseOptions)
  | toggle (o : ToggleOptions)
  | gamepad (o : GamepadOptions)
  | touchscreen (o : TouchscreenOptions)
  | touchpad (o : TouchpadOptions)
  | pen (o : PenOptions)
  | battery (o : BatteryOptions)

namespace GeneratedOptions

/-- The factory of the options. -/
def create : GeneratedOptions → Except Reply Spec
  | keyboard o => createKeyboard (some o)
  | mouse o => createMouse (some o)
  | toggle o => createToggle (some o)
  | gamepad o => createGamepad (some o)
  | touchscreen o => createTouchscreen (some o)
  | touchpad o => createTouchpad (some o)
  | pen o => createPen (some o)
  | battery o => createBattery (some o)

/-- The touch fields of touchscreen options. -/
def touchscreenFields (o : TouchscreenOptions) : TouchFields :=
  { touchFieldsFrom o with buttonCount := 0 }

/-- The touch fields of touchpad options. -/
def touchpadFields (o : TouchpadOptions) : TouchFields :=
  { touchFieldsFrom o.toTouchscreenOptions with buttonCount := o.buttonCount }

/-- The emitter that the factory hands to `build_generated_spec`. -/
def emit : GeneratedOptions → DescriptorBuilder → Option DescriptorBuilder
  | keyboard o => emitKeyboard o
  | mouse o => emitMouse o
  | toggle o =>
    match o.allowedUsages, o.usageSemantics with
    | some allowedUsages, some usageSemantics => emitUsageControls o allowedUsages usageSemantics
    | _, _ => fun _ => none
  | gamepad o =>
    match o.axes with
    | some axes => emitGamepad o axes
    | none => fun _ => none
  | touchscreen o => emitTouch Usage.touchScreen (touchscreenFields o)
  | touchpad o => emitTouch Usage.touchPad (touchpadFields o)
  | pen o => emitPen o
  | battery o => emitBattery o

/-- The option checks of a factory accept the options, and its emitter is a program. -/
inductive Passes : GeneratedOptions → EmitterProgram → Prop
  | keyboard {o : KeyboardOptions} (hcheck : checkKeyboard o = none) :
      Passes (.keyboard o) (keyboardProgram o)
  | mouse {o : MouseOptions} (hcheck : checkMouse o = none) : Passes (.mouse o) (mouseProgram o)
  | toggle {o : ToggleOptions} {allowedUsages : Vector UInt16 o.allowedUsageCount}
      {usageSemantics : Vector UsageSemantic o.allowedUsageCount}
      {eventTypes codes : Vector (Option String) o.allowedUsageCount}
      (hcheck : checkToggle o = none) (hallowed : o.allowedUsages = some allowedUsages)
      (hsemantics : o.usageSemantics = some usageSemantics)
      (heventTypes : o.expectedLinuxEventTypes = some eventTypes)
      (hcodes : o.expectedLinuxCodes = some codes)
      (husages : ∀ index : Fin o.allowedUsageCount,
        checkUsage o allowedUsages usageSemantics eventTypes codes index = none) :
      Passes (.toggle o) (toggleProgram o allowedUsages usageSemantics)
  | gamepad {o : GamepadOptions} {axes : Vector GamepadAxis o.axisCount}
      (hcheck : checkGamepad o = none) (haxes : o.axes = some axes)
      (haxis : ∀ index : Fin o.axisCount, checkAxis axes index = none)
      (hdpad : checkDpad o axes = none) : Passes (.gamepad o) (gamepadProgram o axes)
  | touchscreen {o : TouchscreenOptions}
      (hsize : structRefusal (some o.structSize) TouchscreenOptions.size "touchscreen_options" =
        none)
      (hreserved : o.reserved = 0) (hcheck : checkTouch "touch" (touchscreenFields o) = none) :
      Passes (.touchscreen o) (touchProgram Usage.touchScreen (touchscreenFields o))
  | touchpad {o : TouchpadOptions}
      (hsize : structRefusal (some o.structSize) TouchpadOptions.size "touchpad_options" = none)
      (hreserved : o.reserved = 0) (hcheck : checkTouch "touchpad" (touchpadFields o) = none) :
      Passes (.touchpad o) (touchProgram Usage.touchPad (touchpadFields o))
  | pen {o : PenOptions} (hcheck : checkPen o = none)
      (hbarrels : ∀ index, checkBarrel (penBarrelUsages o) index = none) :
      Passes (.pen o) (penProgram o)
  | battery {o : BatteryOptions} (hcheck : checkBattery o = none) :
      Passes (.battery o) (batteryProgram o)

variable {options : GeneratedOptions} {p : EmitterProgram} {spec : Spec}

/-- **Accepted options have valid programs.** -/
theorem Passes.valid (h : Passes options p) : p.Valid := by
  cases h with
  | keyboard hcheck => exact valid_keyboardProgram hcheck
  | mouse hcheck => exact valid_mouseProgram hcheck
  | toggle hcheck => exact valid_toggleProgram hcheck _ _
  | gamepad hcheck _ haxis hdpad => exact valid_gamepadProgram hcheck hdpad haxis
  | touchscreen _ _ hcheck => exact valid_touchProgram hcheck (by decide)
  | touchpad _ _ hcheck => exact valid_touchProgram hcheck (by decide)
  | pen hcheck _ => exact valid_penProgram hcheck
  | battery hcheck => exact valid_batteryProgram hcheck

/-- The common tail of the factories on the emitter of a program. -/
inductive Builds (p : EmitterProgram) : Except Reply Spec → Prop
  | intro (kind : ProfileKind) (androidStatus : AndroidStatus) (config : SpecConfig)
      {emit : DescriptorBuilder → Option DescriptorBuilder} (hemit : ∀ b, emit b = p.run b) :
      Builds p (buildGeneratedSpec kind androidStatus config emit)

/-- A factory that accepts its options hands their emitter to the common tail. -/
theorem Passes.create_eq (h : Passes options p) : ∃ kind androidStatus config,
    options.create = buildGeneratedSpec kind androidStatus config options.emit := by
  cases h with
  | keyboard hcheck =>
    simp only [create, createKeyboard, hcheck]
    exact ⟨_, _, _, rfl⟩
  | mouse hcheck =>
    simp only [create, createMouse, hcheck]
    exact ⟨_, _, _, rfl⟩
  | @toggle o allowedUsages usageSemantics _ _ hcheck hallowed hsemantics heventTypes hcodes
      husages =>
    have hloop := List.findSome?_eq_none_iff.mpr fun index (_ : index ∈ List.finRange _) =>
      husages index
    simp only [create, createToggle, emit, hcheck, hallowed, hsemantics, heventTypes, hcodes, hloop]
    exact ⟨_, _, _, rfl⟩
  | @gamepad o axes hcheck haxes haxis hdpad =>
    have hloop := List.findSome?_eq_none_iff.mpr fun index (_ : index ∈ List.finRange _) =>
      haxis index
    simp only [create, createGamepad, emit, hcheck, haxes, hloop, hdpad, firstRefusal]
    exact ⟨_, _, _, rfl⟩
  | @touchscreen o hsize hreserved hcheck =>
    unfold touchscreenFields at hcheck
    simp only [create, createTouchscreen, createTouchSpecFromFields, hsize, hreserved, hcheck,
      firstRefusal, refuse, Option.map_none, ne_eq, not_true_eq_false, if_false]
    exact ⟨_, _, _, rfl⟩
  | @touchpad o hsize hreserved hcheck =>
    unfold touchpadFields at hcheck
    simp only [create, createTouchpad, createTouchSpecFromFields, hsize, hreserved, hcheck,
      firstRefusal, refuse, Option.map_none, ne_eq, not_true_eq_false, if_false]
    exact ⟨_, _, _, rfl⟩
  | @pen o hcheck hbarrels =>
    have hloop := List.findSome?_eq_none_iff.mpr fun index (_ : index ∈ List.finRange _) =>
      hbarrels index
    simp only [create, createPen, hcheck, hloop, firstRefusal]
    exact ⟨_, _, _, rfl⟩
  | battery hcheck =>
    simp only [create, createBattery, hcheck]
    exact ⟨_, _, _, rfl⟩

/-- The emitter of accepted options runs their program. -/
theorem Passes.emit_eq (h : Passes options p) (b : DescriptorBuilder) :
    options.emit b = p.run b := by
  cases h with
  | keyboard hcheck => exact emitKeyboard_eq _ b
  | mouse hcheck => exact emitMouse_eq _ b
  | @toggle o allowedUsages usageSemantics _ _ hcheck hallowed hsemantics heventTypes hcodes
      husages =>
    have haccepted (index : Fin o.allowedUsageCount) :
        (usageSemanticFlags usageSemantics[index]).accepted = true := by
      have hindex := husages index
      simp only [checkUsage, firstRefusal_cons_eq_none, refuse_eq_none] at hindex
      simpa using hindex.2.2.2.2.1
    simp only [emit, hallowed, hsemantics]
    exact emitUsageControls_eq o allowedUsages usageSemantics haccepted b
  | @gamepad o axes hcheck haxes haxis hdpad =>
    simp only [emit, haxes]
    exact emitGamepad_eq o axes b
  | touchscreen _ _ hcheck => exact emitTouch_eq _ _ b
  | touchpad _ _ hcheck => exact emitTouch_eq _ _ b
  | pen hcheck hbarrels => exact emitPen_eq _ b
  | battery hcheck => exact emitBattery_eq _ b

/-- A factory that accepts its options runs their program. -/
theorem Passes.builds (h : Passes options p) : Builds p options.create := by
  obtain ⟨kind, androidStatus, config, hcreate⟩ := h.create_eq
  rw [hcreate]
  exact .intro kind androidStatus config h.emit_eq

/-- A factory whose program fits returns what the last validation finds. -/
theorem Passes.create_of_fits (h : Passes options p) (hfits : p.bytes.length ≤ 65535) :
    match validateGenerated p.bytes p.layout with
    | some found => options.create = .error found.reply
    | none => ∃ spec, options.create = .ok spec ∧ spec.descriptor = p.bytes ∧
        spec.layout = p.layout ∧ spec.requirements = p.tally.requirements := by
  have hp := h.valid
  have hbuilds := h.builds
  generalize options.create = result at hbuilds ⊢
  obtain ⟨kind, androidStatus, config, hemit⟩ := hbuilds
  rw [buildGeneratedSpec_of_fits hp hemit hfits]
  cases validateGenerated p.bytes p.layout with
  | none => exact ⟨_, rfl, rfl, rfl, rfl⟩
  | some found => rfl

/-- A Spec that a factory returned is the one of its program. -/
theorem Passes.ofProgram (h : Passes options p) (hcreate : options.create = .ok spec) :
    spec.OfProgram p := by
  have hp := h.valid
  have hbuilds := h.builds
  generalize options.create = result at hbuilds hcreate
  obtain ⟨kind, androidStatus, config, hemit⟩ := hbuilds
  rcases Nat.lt_or_ge 65535 p.bytes.length with hfull | hfits
  · rw [buildGeneratedSpec_of_overflow hp hemit hfull] at hcreate
    cases hcreate
  · rw [buildGeneratedSpec_of_fits hp hemit hfits] at hcreate
    cases hvalid : validateGenerated p.bytes p.layout with
    | none =>
      rw [hvalid] at hcreate
      cases hcreate
      exact ⟨rfl, rfl, rfl, hfits, hvalid⟩
    | some found =>
      rw [hvalid] at hcreate
      cases hcreate

end GeneratedOptions

open GeneratedOptions

/-- **A generated Spec** comes from accepted options. -/
theorem Generated.exists_passes {spec : Spec} (h : Generated spec) :
    ∃ (options : GeneratedOptions) (p : EmitterProgram), options.Passes p ∧
      options.create = .ok spec := by
  cases h with
  | @keyboard o _ h =>
    refine ⟨.keyboard o, _, .keyboard ?_, h⟩
    simp only [createKeyboard] at h
    split at h
    · simp at h
    next hcheck => exact hcheck
  | @mouse o _ h =>
    refine ⟨.mouse o, _, .mouse ?_, h⟩
    simp only [createMouse] at h
    split at h
    · simp at h
    next hcheck => exact hcheck
  | @toggle o _ h =>
    have hcreate : GeneratedOptions.create (.toggle o) = .ok spec := h
    simp only [createToggle] at h
    split at h
    · simp at h
    next hcheck =>
    split at h
    next hallowed hsemantics heventTypes hcodes =>
      split at h
      · simp at h
      next hloop =>
      have hall := List.findSome?_eq_none_iff.mp hloop
      exact ⟨_, _, .toggle hcheck hallowed hsemantics heventTypes hcodes fun index =>
        hall index (List.mem_finRange index), hcreate⟩
    · simp at h
  | @gamepad o _ h =>
    have hcreate : GeneratedOptions.create (.gamepad o) = .ok spec := h
    simp only [createGamepad] at h
    split at h
    · simp at h
    next hcheck =>
    split at h
    · simp at h
    next axes haxes =>
    split at h
    · simp at h
    next hloop =>
    simp only [firstRefusal_cons_eq_none, firstRefusal_nil, and_true] at hloop
    have hall := List.findSome?_eq_none_iff.mp hloop.1
    exact ⟨_, _, .gamepad hcheck haxes (fun index => hall index (List.mem_finRange index))
      hloop.2, hcreate⟩
  | @touchscreen o _ h =>
    have hcreate : GeneratedOptions.create (.touchscreen o) = .ok spec := h
    simp only [createTouchscreen] at h
    split at h
    · simp at h
    next hoptions =>
    simp only [firstRefusal_cons_eq_none, firstRefusal_nil, Option.map_eq_none_iff,
      refuse_eq_none, not_not, and_true] at hoptions
    unfold createTouchSpecFromFields at h
    split at h
    · simp at h
    next hcheck => exact ⟨_, _, .touchscreen hoptions.1 hoptions.2 hcheck, hcreate⟩
  | @touchpad o _ h =>
    have hcreate : GeneratedOptions.create (.touchpad o) = .ok spec := h
    simp only [createTouchpad] at h
    split at h
    · simp at h
    next hoptions =>
    simp only [firstRefusal_cons_eq_none, firstRefusal_nil, Option.map_eq_none_iff,
      refuse_eq_none, not_not, and_true] at hoptions
    unfold createTouchSpecFromFields at h
    split at h
    · simp at h
    next hcheck => exact ⟨_, _, .touchpad hoptions.1 hoptions.2 hcheck, hcreate⟩
  | @pen o _ h =>
    have hcreate : GeneratedOptions.create (.pen o) = .ok spec := h
    simp only [createPen] at h
    split at h
    · simp at h
    next hloop =>
    simp only [firstRefusal_cons_eq_none, firstRefusal_nil, and_true] at hloop
    have hall := List.findSome?_eq_none_iff.mp hloop.2
    exact ⟨_, _, .pen hloop.1 fun index => hall index (List.mem_finRange index), hcreate⟩
  | @battery o _ h =>
    refine ⟨.battery o, _, .battery ?_, h⟩
    simp only [createBattery] at h
    split at h
    · simp at h
    next hcheck => exact hcheck

/-- The program of a generated Spec. -/
theorem Generated.exists_program {spec : Spec} (h : Generated spec) :
    ∃ p : EmitterProgram, p.Valid ∧ spec.OfProgram p := by
  obtain ⟨options, p, hpasses, hcreate⟩ := h.exists_passes
  exact ⟨p, hpasses.valid, hpasses.ofProgram hcreate⟩

end LibaoaHid

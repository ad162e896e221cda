import LibaoaHid.Profiles.StateFits

/-!
# Every selected value is accepted

The value that the serializer selects for a declared field of a fitting state lies in the declared
range of the field, profile by profile. So a fitting state can always be serialized.

## Main results

* `KeyboardState.Fits.accepts`, `MouseState.Fits.accepts`, `ConsumerState.accepts`,
  `GamepadState.Fits.accepts`, `TouchState.Fits.accepts`, `PenState.Fits.accepts`,
  `BatteryState.Fits.accepts`.
* `serializable_of_fits`.
-/

namespace LibaoaHid

variable {field : FieldLayout} {config : SpecConfig}

/-! ### Controls of one bit -/

/-- A field whose declaration is a one-bit control accepts zero and one. -/
theorem acceptsSelected_of_bit {state : NodeState} {semantic : FieldSemantic} {index : ℕ}
    (hdecl : field.decl = bitDecl semantic index) (value : ℤ)
    (hvalue : fieldValue config state field = some ⟨value, false⟩) (hle : 0 ≤ value)
    (hge : value ≤ 1) : field.AcceptsSelected config state := by
  obtain ⟨-, -, hmin, hmax, -⟩ := FieldLayout.eq_of_decl hdecl
  exact acceptsSelected_of_value _ hvalue (by rw [hmin]; exact hle) (by rw [hmax]; exact hge)

/-- A field whose declaration is a field of the options accepts the values of that field. -/
theorem acceptsSelected_of_integer {state : NodeState} {semantic : FieldSemantic} {index : ℕ}
    {declared : IntegerField} {hasNullState : Bool}
    (hdecl : field.decl = integerDecl semantic index declared hasNullState) (value : ℤ)
    (hvalue : fieldValue config state field = some ⟨value, false⟩)
    (hle : declared.logicalMinimum.toInt ≤ value) (hge : value ≤ declared.logicalMaximum.toInt) :
    field.AcceptsSelected config state := by
  obtain ⟨-, -, hmin, hmax, -⟩ := FieldLayout.eq_of_decl hdecl
  exact acceptsSelected_of_value _ hvalue (by rw [hmin]; exact hle) (by rw [hmax]; exact hge)

/-- The value of a button of the array. -/
def buttonAt (buttons : List UInt8) (index : ℕ) : ℤ :=
  if index < buttons.length then (buttons.getD index 0).toNat else 0

theorem buttonAt_eq (buttons : List UInt8) (index : ℕ) :
    buttonAt buttons index = (buttons.getD index 0).toNat := by
  unfold buttonAt
  split_ifs with h
  · rfl
  · rw [List.getD_eq_default _ _ (by omega)]
    rfl

theorem Flags.buttonAt_nonneg (buttons : List UInt8) (index : ℕ) : 0 ≤ buttonAt buttons index := by
  rw [buttonAt_eq]
  omega

theorem Flags.buttonAt_le_one {buttons : List UInt8} (h : Flags buttons) (index : ℕ) :
    buttonAt buttons index ≤ 1 := by
  have := h.toNat_getD_le index
  rw [buttonAt_eq]
  omega

/-! ### Keyboard -/

theorem KeyboardState.Fits.accepts {c : KeyboardConfig} {keyboard : KeyboardState}
    (h : keyboard.Fits c.options) (hdecl : field.decl ∈ (SpecConfig.keyboard c).declaredFields) :
    field.AcceptsSelected (.keyboard c) (.keyboard keyboard) := by
  simp only [SpecConfig.declaredFields, List.mem_append, mem_bitDecls] at hdecl
  rcases hdecl with ⟨index, -, hdecl⟩ | ⟨index, -, hdecl⟩
  · have hsemantic : field.semantic = .modifier := congrArg FieldDecl.semantic hdecl
    exact acceptsSelected_of_bit hdecl _ (by unfold fieldValue; simp only [hsemantic]; rfl)
      (bitOf_nonneg _ _)
      (bitOf_le_one _ _)
  · have hsemantic : field.semantic = .keyBitmap := congrArg FieldDecl.semantic hdecl
    exact acceptsSelected_of_bit hdecl _ (by unfold fieldValue; simp only [hsemantic]; rfl)
      (Flags.buttonAt_nonneg _ _) (h.flags.buttonAt_le_one _)

/-! ### Mouse -/

theorem MouseState.Fits.accepts {c : MouseConfig} {mouse : MouseState} (ho : c.options.Accepted)
    (h : mouse.Fits c.options) (hdecl : field.decl ∈ (SpecConfig.mouse c).declaredFields) :
    field.AcceptsSelected (.mouse c) (.mouse mouse) := by
  have haxis (declared : IntegerField) (hrelative : declared.Relative) (semantic : FieldSemantic)
      (hd : field.decl = integerDecl semantic 0 declared) (pending : ℤ)
      (hvalue : fieldValue (.mouse c) (.mouse mouse) field =
        some ⟨clampToField pending field, false⟩) :
      field.AcceptsSelected (.mouse c) (.mouse mouse) := by
    obtain ⟨-, -, hmin, hmax, -⟩ := FieldLayout.eq_of_decl hd
    have hordered : field.logicalMinimum ≤ field.logicalMaximum := by
      have := hrelative.neg
      have := hrelative.pos
      simp only [integerDecl] at hmin hmax
      omega
    exact acceptsSelected_of_value _ hvalue (clampToField_mem pending hordered).1
      (clampToField_mem pending hordered).2
  simp only [SpecConfig.declaredFields, List.mem_append, mem_bitDecls, List.mem_cons,
    List.not_mem_nil, or_false, mem_optionalDecl] at hdecl
  rcases hdecl with ((⟨index, -, hd⟩ | hd | hd) | ⟨henabled, hd⟩) | ⟨henabled, hd⟩
  · have hsemantic : field.semantic = .buttons := congrArg FieldDecl.semantic hd
    exact acceptsSelected_of_bit hd _ (by unfold fieldValue; simp only [hsemantic]; rfl)
      (Flags.buttonAt_nonneg _ _) (h.buttons.flags.buttonAt_le_one _)
  · have hsemantic : field.semantic = .x := congrArg FieldDecl.semantic hd
    exact haxis _ ho.x _ hd mouse.dx (by unfold fieldValue; simp [hsemantic])
  · have hsemantic : field.semantic = .y := congrArg FieldDecl.semantic hd
    exact haxis _ ho.y _ hd mouse.dy (by unfold fieldValue; simp [hsemantic])
  · have hsemantic : field.semantic = .wheel := congrArg FieldDecl.semantic hd
    exact haxis _ (ho.wheel henabled) _ hd mouse.wheel (by unfold fieldValue; simp only [hsemantic])
  · have hsemantic : field.semantic = .pan := congrArg FieldDecl.semantic hd
    exact haxis _ (ho.pan henabled) _ hd mouse.pan (by unfold fieldValue; simp only [hsemantic])

/-! ### Toggle -/

theorem ConsumerState.accepts {c : ConsumerConfig} {consumer : ConsumerState}
    (hdecl : field.decl ∈ (SpecConfig.consumer c).declaredFields) :
    field.AcceptsSelected (.consumer c) (.consumer consumer) := by
  obtain ⟨index, -, hdecl⟩ := mem_bitDecls.mp hdecl
  have hsemantic : field.semantic = .consumerUsage := congrArg FieldDecl.semantic hdecl
  refine acceptsSelected_of_bit hdecl _ (by unfold fieldValue; simp only [hsemantic]; rfl) ?_ ?_ <;>
    split_ifs <;> simp

/-! ### Gamepad -/

theorem GamepadState.Fits.accepts {c : GamepadConfig} {gamepad : GamepadState}
    (hc : c.Accepted) (h : gamepad.Fits c)
    (hdecl : field.decl ∈ (SpecConfig.gamepad c).declaredFields) :
    field.AcceptsSelected (.gamepad c) (.gamepad gamepad) := by
  simp only [SpecConfig.declaredFields, List.mem_append, mem_bitDecls] at hdecl
  rcases hdecl with (⟨index, hindex, hd⟩ | hd) | hd
  · have hsemantic : field.semantic = .buttons := congrArg FieldDecl.semantic hd
    have hinstance : field.instanceIndex = index := congrArg FieldDecl.instanceIndex hd
    have hlt : index < gamepad.buttons.length := h.buttons.length ▸ hindex
    refine acceptsSelected_of_bit hd (buttonAt gamepad.buttons index) ?_
      (Flags.buttonAt_nonneg _ _) (h.buttons.flags.buttonAt_le_one _)
    unfold fieldValue; simp only [hsemantic, hinstance, buttonValue, buttonAt, hlt, if_true]
  · unfold dpadDecls at hd
    split_ifs at hd with hhat hbuttons
    · have hd := List.mem_singleton.mp hd
      obtain ⟨hsemantic, -, hmin, hmax, hnull⟩ := FieldLayout.eq_of_decl hd
      simp only at hsemantic hmin hmax hnull
      obtain ⟨hzero, hseven, -⟩ := hc.hat hhat
      cases hdirection : gamepad.hatHasDirection with
      | true =>
        have := h.hat_nonneg
        have := h.hat_direction hhat
        exact acceptsSelected_of_value gamepad.hat
          (by unfold fieldValue; simp [hsemantic, hdirection]) (by omega) (by omega)
      | false =>
        exact acceptsSelected_of_null (by unfold fieldValue; simp [hsemantic, hdirection]) hnull
    · obtain ⟨index, hindex, hd⟩ := List.mem_map.mp hd
      have hindex := List.mem_range.mp hindex
      have hsemantic : field.semantic = .buttons := congrArg FieldDecl.semantic hd.symm
      have hinstance : field.instanceIndex = c.options.buttonCount.toNat + index :=
        congrArg FieldDecl.instanceIndex hd.symm
      have hlength := h.buttons.length
      refine acceptsSelected_of_bit hd.symm (gamepad.hat / 2 ^ index % 2) ?_
        (Int.emod_nonneg _ (by norm_num)) ?_
      · unfold fieldValue; simp [hsemantic, hinstance, buttonValue, hlength, hbuttons, hindex]
      · have := Int.emod_lt_of_pos (gamepad.hat / 2 ^ index) (show (0 : ℤ) < 2 by norm_num)
        omega
    · simp at hd
  · obtain ⟨entry, hentry, hd⟩ := List.mem_map.mp hd
    have hget : c.axes[entry.2]? = some entry.1 :=
      List.mem_zipIdx_iff_getElem?.mp hentry
    have hsemantic : field.semantic = .gamepadAxis := congrArg FieldDecl.semantic hd.symm
    have hinstance : field.instanceIndex = entry.2 :=
      congrArg FieldDecl.instanceIndex hd.symm
    have hlt : entry.2 < gamepad.axes.length := by
      rw [h.axes_length]
      exact (List.getElem?_eq_some_iff.mp hget).1
    obtain ⟨hle, hge⟩ := h.axes entry.2 entry.1 hget
    exact acceptsSelected_of_integer hd.symm (gamepad.axes.getD entry.2 0).toInt
      (by unfold fieldValue; simp only [hsemantic, hinstance, hlt, if_true]) hle hge

/-! ### Touch -/

/-- A contact of a frame is a contact of the Node. -/
theorem mem_contacts_of_collectTouch {touch : TouchState} {i : ℕ} {contact : ContactState}
    (h : (collectTouch touch)[i]? = some contact) :
    contact ∈ touch.contacts ∧ contact.isActive := by
  have hmem := List.mem_filter.mp (List.mem_of_getElem? h)
  exact ⟨hmem.1, by simpa [ContactState.isActive] using hmem.2⟩

/-- A contact field accepts its value, for a used record and for an unused one. -/
private theorem acceptsSelected_of_contact {f : TouchFields} {touch : TouchState}
    {semantic : FieldSemantic} {index : ℕ} {declared : IntegerField}
    (hd : field.decl = integerDecl semantic index declared) (hzero : declared.SpansZero)
    (value : ContactState → ℤ)
    (hvalue : fieldValue (.touch ⟨f⟩) (.touch touch) field =
      some ⟨match (collectTouch touch)[touch.packetCursor + field.instanceIndex]? with
        | some contact => value contact
        | none => 0, false⟩)
    (hrange : ∀ contact ∈ touch.contacts, contact.isActive →
      declared.logicalMinimum.toInt ≤ value contact ∧
        value contact ≤ declared.logicalMaximum.toInt) :
    field.AcceptsSelected (.touch ⟨f⟩) (.touch touch) := by
  cases hget : (collectTouch touch)[touch.packetCursor + field.instanceIndex]? with
  | none =>
    rw [hget] at hvalue
    exact acceptsSelected_of_integer hd _ hvalue hzero.1 hzero.2
  | some contact =>
    rw [hget] at hvalue
    obtain ⟨hmem, hactive⟩ := mem_contacts_of_collectTouch hget
    obtain ⟨hle, hge⟩ := hrange contact hmem hactive
    exact acceptsSelected_of_integer hd _ hvalue hle hge

private theorem acceptsSelected_of_contactDecl {f : TouchFields} (hf : f.Accepted)
    {touch : TouchState} (h : touch.Fits f) {index : ℕ}
    (hdecl : field.decl ∈ contactDecls f index) :
    field.AcceptsSelected (.touch ⟨f⟩) (.touch touch) := by
  simp only [contactDecls, List.mem_append, List.mem_cons, List.not_mem_nil, or_false,
    mem_optionalDecl] at hdecl
  rcases hdecl with ((((hd | hd | hd | hd) | ⟨h1, hd⟩) | ⟨h1, hd⟩) | ⟨h1, hd⟩) | ⟨h1, hd⟩
  · have hsemantic : field.semantic = .tip := congrArg FieldDecl.semantic hd
    refine acceptsSelected_of_bit hd _ (by unfold fieldValue; simp only [hsemantic]; rfl) ?_ ?_ <;>
      split <;> first | split_ifs <;> simp | simp
  · have hsemantic : field.semantic = .contactId := congrArg FieldDecl.semantic hd
    refine acceptsSelected_of_contact hd hf.contactIdentifier.2
      (fun contact => contact.sample.contactId.toNat) ?_
      fun contact hmem hactive => (h.admits contact hmem hactive).contactId
    unfold fieldValue
    exact hsemantic ▸ rfl
  · have hsemantic : field.semantic = .x := congrArg FieldDecl.semantic hd
    refine acceptsSelected_of_contact hd hf.x.2 (fun contact => contact.sample.x.toInt) ?_
      fun contact hmem hactive => (h.admits contact hmem hactive).x
    unfold fieldValue
    rw [hsemantic]
    rfl
  · have hsemantic : field.semantic = .y := congrArg FieldDecl.semantic hd
    refine acceptsSelected_of_contact hd hf.y.2 (fun contact => contact.sample.y.toInt) ?_
      fun contact hmem hactive => (h.admits contact hmem hactive).y
    unfold fieldValue
    rw [hsemantic]
    rfl
  · have hsemantic : field.semantic = .pressure := congrArg FieldDecl.semantic hd
    obtain ⟨-, hmin, hmax⟩ := hf.pressure h1
    refine acceptsSelected_of_contact hd ⟨by omega, by omega⟩
      (fun contact => if contact.phase = .down then max contact.sample.pressure.toInt 1 else 0) ?_
      fun contact hmem hactive => ?_
    · unfold fieldValue
      rw [hsemantic]
      rfl
    · have := (h.admits contact hmem hactive).pressure h1
      simp only [IntegerField.Contains] at this
      split_ifs <;> omega
  · have hsemantic : field.semantic = .width := congrArg FieldDecl.semantic hd
    refine acceptsSelected_of_contact hd (hf.width h1).2 (fun contact => contact.sample.width.toInt)
      ?_ fun contact hmem hactive => (h.admits contact hmem hactive).width h1
    unfold fieldValue
    rw [hsemantic]
    rfl
  · have hsemantic : field.semantic = .height := congrArg FieldDecl.semantic hd
    refine acceptsSelected_of_contact hd (hf.height h1).2
      (fun contact => contact.sample.height.toInt) ?_
      fun contact hmem hactive => (h.admits contact hmem hactive).height h1
    unfold fieldValue
    rw [hsemantic]
    rfl
  · have hsemantic : field.semantic = .azimuth := congrArg FieldDecl.semantic hd
    obtain ⟨-, hmin, hmax⟩ := hf.azimuth h1
    refine acceptsSelected_of_contact hd ⟨by omega, by omega⟩
      (fun contact => contact.sample.azimuth.toInt) ?_ fun contact hmem hactive => ?_
    · unfold fieldValue
      rw [hsemantic]
      rfl
    · have := (h.admits contact hmem hactive).azimuth h1
      omega

theorem TouchState.Fits.accepts {f : TouchFields} (hf : f.Accepted) {touch : TouchState}
    (h : touch.Fits f) (hdecl : field.decl ∈ (SpecConfig.touch ⟨f⟩).declaredFields) :
    field.AcceptsSelected (.touch ⟨f⟩) (.touch touch) := by
  simp only [SpecConfig.declaredFields, List.mem_append, List.mem_flatMap, List.mem_singleton,
    mem_bitDecls, mem_optionalDecl] at hdecl
  rcases hdecl with ((⟨index, -, hd⟩ | ⟨h1, hd⟩) | hd) | ⟨index, -, hd⟩
  · exact acceptsSelected_of_contactDecl hf h hd
  · have hsemantic : field.semantic = .scanTime := congrArg FieldDecl.semantic hd
    obtain ⟨-, hmin, -⟩ := hf.scanTime h1
    exact acceptsSelected_of_integer hd touch.scanTime
      (by unfold fieldValue; simp only [hsemantic]) (by omega) (h.scanTime h1)
  · have hsemantic : field.semantic = .contactCount := congrArg FieldDecl.semantic hd
    obtain ⟨-, hmin, hmax⟩ := hf.contactCount
    have hcount := h.count_le
    refine acceptsSelected_of_integer hd _
      (by unfold fieldValue; simp only [hsemantic]; rfl) ?_ ?_ <;>
      split_ifs <;> (try rw [length_collectTouch]) <;> omega
  · have hsemantic : field.semantic = .buttons := congrArg FieldDecl.semantic hd
    exact acceptsSelected_of_bit hd _ (by unfold fieldValue; simp only [hsemantic]; rfl)
      (Flags.buttonAt_nonneg _ _) (h.buttons.flags.buttonAt_le_one _)

/-! ### Pen -/

theorem PenState.Fits.accepts {c : PenConfig} (hc : c.Accepted) {pen : PenState}
    (h : pen.Fits c.options) (hdecl : field.decl ∈ (SpecConfig.pen c).declaredFields) :
    field.AcceptsSelected (.pen c) (.pen pen) := by
  have hsample : c.options.Admits (if pen.toolSwitchDeparture then pen.emitted else pen.desired) :=
    by split_ifs <;> [exact h.emitted; exact h.desired]
  have hflag (flag : UInt32) (hflag : flag = 0 ∨ flag = 1) : (flag.toNat : ℤ) ≤ 1 := by
    rcases hflag with rfl | rfl <;> simp
  simp only [SpecConfig.declaredFields, List.mem_append, List.mem_cons, List.not_mem_nil,
    or_false, mem_bitDecls, mem_optionalDecl] at hdecl
  rcases hdecl with (((((((hd | hd | hd) | ⟨index, -, hd⟩) | hd | hd) | ⟨h1, hd⟩) | ⟨h1, hd⟩) |
    ⟨h1, hd⟩) | ⟨h1, hd⟩)
  · split_ifs at hd
    · have hd := List.mem_singleton.mp hd
      have hsemantic : field.semantic = .eraser := congrArg FieldDecl.semantic hd
      refine acceptsSelected_of_bit hd _
        (by unfold fieldValue; simp only [hsemantic]; rfl) ?_ ?_ <;>
        split_ifs
      all_goals first
        | exact hflag _ h.desired.eraser
        | omega
    · simp at hd
  · have hsemantic : field.semantic = .tip := congrArg FieldDecl.semantic hd
    refine acceptsSelected_of_bit hd _ (by unfold fieldValue; simp only [hsemantic]; rfl) ?_ ?_ <;>
      split_ifs
    all_goals first
      | exact hflag _ h.desired.tip
      | omega
  · have hsemantic : field.semantic = .inRange := congrArg FieldDecl.semantic hd
    refine acceptsSelected_of_bit hd _ (by unfold fieldValue; simp only [hsemantic]; rfl) ?_ ?_ <;>
      split_ifs
    all_goals first
      | exact hflag _ h.desired.inRange
      | omega
  · have hsemantic : field.semantic = .buttons := congrArg FieldDecl.semantic hd
    refine acceptsSelected_of_bit hd _
      (by unfold fieldValue; simp only [hsemantic, buttonValue]; rfl)
      ?_ ?_ <;> split_ifs
    all_goals first
      | exact bitOf_nonneg _ _
      | exact bitOf_le_one _ _
      | omega
  · have hsemantic : field.semantic = .x := congrArg FieldDecl.semantic hd
    exact acceptsSelected_of_integer hd _ (by unfold fieldValue; simp only [hsemantic, penValue])
      hsample.x.1 hsample.x.2
  · have hsemantic : field.semantic = .y := congrArg FieldDecl.semantic hd
    exact acceptsSelected_of_integer hd _ (by unfold fieldValue; simp only [hsemantic, penValue])
      hsample.y.1 hsample.y.2
  · have hsemantic : field.semantic = .pressure := congrArg FieldDecl.semantic hd
    obtain ⟨-, hmin, hmax⟩ := hc.pressure h1
    obtain ⟨hle, hge⟩ := hsample.pressure h1
    refine acceptsSelected_of_integer hd _
      (by unfold fieldValue; simp only [hsemantic, penValue]; rfl)
      ?_ ?_
    · split_ifs <;> omega
    · generalize (if pen.toolSwitchDeparture = true then pen.emitted else pen.desired) = sample at *
      split_ifs <;> omega
  · have hsemantic : field.semantic = .tiltX := congrArg FieldDecl.semantic hd
    exact acceptsSelected_of_integer hd _ (by unfold fieldValue; simp only [hsemantic])
      (hsample.tiltX h1).1 (hsample.tiltX h1).2
  · have hsemantic : field.semantic = .tiltY := congrArg FieldDecl.semantic hd
    exact acceptsSelected_of_integer hd _ (by unfold fieldValue; simp only [hsemantic])
      (hsample.tiltY h1).1 (hsample.tiltY h1).2
  · have hsemantic : field.semantic = .twist := congrArg FieldDecl.semantic hd
    exact acceptsSelected_of_integer hd _ (by unfold fieldValue; simp only [hsemantic])
      (hsample.twist h1).1 (hsample.twist h1).2

/-! ### Battery -/

theorem BatteryState.Fits.accepts {c : BatteryConfig} {battery : BatteryState}
    (h : battery.Fits c.options)
    (hreport : battery.hasValue = true ∨ c.options.enableUnknownNullState = 1)
    (hdecl : field.decl ∈ (SpecConfig.battery c).declaredFields) :
    field.AcceptsSelected (.battery c) (.battery battery) := by
  have hd := List.mem_singleton.mp hdecl
  obtain ⟨hsemantic, -, -, -, hnull⟩ := FieldLayout.eq_of_decl hd
  simp only [integerDecl] at hsemantic hnull
  cases hvalue : battery.hasValue with
  | true =>
    obtain ⟨hle, hge⟩ := h.strength hvalue
    exact acceptsSelected_of_integer hd _ (by unfold fieldValue; simp [hsemantic, hvalue]) hle hge
  | false =>
    refine acceptsSelected_of_null (by unfold fieldValue; simp [hsemantic, hvalue]) ?_
    rw [hnull]
    simpa [hvalue] using hreport

/-! ### Serializable states -/

namespace SpecConfig.Accepted

variable {kind : ProfileKind}

theorem of_mouse {c : MouseConfig} (h : SpecConfig.Accepted kind (.mouse c)) :
    c.options.Accepted := by
  cases kind <;> first | exact h | exact h.elim

theorem of_gamepad {c : GamepadConfig} (h : SpecConfig.Accepted kind (.gamepad c)) :
    c.Accepted := by
  cases kind <;> first | exact h | exact h.elim

theorem of_touch {c : TouchConfig} (h : SpecConfig.Accepted kind (.touch c)) :
    c.fields.Accepted := by
  cases kind <;> first | exact h.1 | exact h | exact h.elim

theorem of_pen {c : PenConfig} (h : SpecConfig.Accepted kind (.pen c)) : c.Accepted := by
  cases kind <;> first | exact h | exact h.elim

end SpecConfig.Accepted

/-- **A fitting state can be serialized.** -/
theorem serializable_of_fits {spec : Spec} (hsound : spec.Sound) {state : NodeState}
    (hfits : state.Fits spec.config) (hreport : state.Reportable spec.config) :
    spec.Serializable state := by
  intro field hmem selected hselected
  have hpadding : field.semantic ≠ .constantPadding := fun hpadding => by
    rw [fieldValue_eq_none_iff.mpr hpadding] at hselected
    simp at hselected
  have hdecl := ReportLayout.decl_mem_declared hmem hpadding
  have haccepted := hsound.accepted
  rw [hsound.declared] at hdecl
  revert selected
  change field.AcceptsSelected spec.config state
  cases hconfig : spec.config <;> rw [hconfig] at hdecl hfits hreport haccepted <;>
    cases state <;> try exact hfits.elim
  case keyboard => exact KeyboardState.Fits.accepts hfits hdecl
  case mouse => exact MouseState.Fits.accepts haccepted.of_mouse hfits hdecl
  case consumer => exact ConsumerState.accepts hdecl
  case gamepad => exact GamepadState.Fits.accepts haccepted.of_gamepad hfits hdecl
  case touch => exact TouchState.Fits.accepts haccepted.of_touch hfits hdecl
  case pen => exact PenState.Fits.accepts haccepted.of_pen hfits hdecl
  case battery => exact BatteryState.Fits.accepts hfits hreport hdecl

end LibaoaHid

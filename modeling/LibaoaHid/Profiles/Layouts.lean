import LibaoaHid.Hid.BuilderFacts
import LibaoaHid.Profiles.Accepted

/-!
# The layouts of the generated Specs

The layout that each emitter records: the declarations of the profile in the order of the
emitter, with Constant padding up to the byte boundaries, behind the optional Report ID byte.

## Main definitions

* `SpecConfig.declaredFields`: the declarations of a configuration.
* `DescriptorBuilder.Emitted`: a builder at the end of an emitter.

## Main results

* `emitted_keyboard`, `emitted_mouse`, `emitted_toggle`, `emitted_gamepad`, `emitted_touch`,
  `emitted_pen`, `emitted_battery`: the record of each emitter.
-/

namespace LibaoaHid

/-! ### Declarations of the profiles -/

/-- A one-bit control. -/
def bitDecl (semantic : FieldSemantic) (index : ℕ) : FieldDecl := ⟨semantic, index, 1, 0, 1, false⟩

/-- `count` one-bit controls of one semantic. -/
def bitDecls (semantic : FieldSemantic) (count : ℕ) : List FieldDecl :=
  (List.range count).map (bitDecl semantic)

/-- A field of the options. -/
def integerDecl (semantic : FieldSemantic) (index : ℕ) (field : IntegerField)
    (hasNullState : Bool := false) : FieldDecl :=
  ⟨semantic, index, field.bitWidth.toNat, field.logicalMinimum.toInt, field.logicalMaximum.toInt,
    hasNullState⟩

/-- A field of the options behind its flag. -/
def optionalDecl (enable : UInt32) (semantic : FieldSemantic) (index : ℕ)
    (field : IntegerField) : List FieldDecl :=
  if enable = 1 then [integerDecl semantic index field] else []

/-- The fields of one contact slot. -/
def contactDecls (f : TouchFields) (contact : ℕ) : List FieldDecl :=
  [bitDecl .tip contact, integerDecl .contactId contact f.contactIdentifier,
    integerDecl .x contact f.x, integerDecl .y contact f.y] ++
  optionalDecl f.enablePressure .pressure contact f.pressure ++
  optionalDecl f.enableWidth .width contact f.width ++
  optionalDecl f.enableHeight .height contact f.height ++
  optionalDecl f.enableAzimuth .azimuth contact f.azimuth

/-- The D-pad of a gamepad: a Hat, or four buttons behind the others. -/
def dpadDecls (o : GamepadOptions) : List FieldDecl :=
  if o.dpadRepresentation = .hat then
    [⟨.hat, 0, o.hatBitWidth.toNat, o.hatLogicalMinimum.toInt, o.hatLogicalMaximum.toInt, true⟩]
  else if o.dpadRepresentation = .buttons then
    (List.range 4).map fun index => bitDecl .buttons (o.buttonCount.toNat + index)
  else []

/-- The declarations of a configuration, in the order of its emitter. -/
def SpecConfig.declaredFields : SpecConfig → List FieldDecl
  | .keyboard { options := o } =>
    bitDecls .modifier 8 ++ bitDecls .keyBitmap (o.usageMaximum.toNat - o.usageMinimum.toNat + 1)
  | .mouse { options := o } =>
    bitDecls .buttons o.buttonCount.toNat ++ [integerDecl .x 0 o.x, integerDecl .y 0 o.y] ++
      optionalDecl o.enableWheel .wheel 0 o.wheel ++ optionalDecl o.enablePan .pan 0 o.pan
  | .consumer c => bitDecls .consumerUsage c.allowedUsages.length
  | .gamepad { options := o, axes } =>
    bitDecls .buttons o.buttonCount.toNat ++ dpadDecls o ++
      axes.zipIdx.map fun entry => integerDecl .gamepadAxis entry.2 entry.1.axis.value
  | .touch { fields := f } =>
    (List.range f.contactsPerReport.toNat).flatMap (contactDecls f) ++
      optionalDecl f.enableScanTime .scanTime 0 f.scanTime ++
      [integerDecl .contactCount 0 f.contactCount] ++ bitDecls .buttons f.buttonCount.toNat
  | .pen { options := o, barrelUsages } =>
    (if o.enableEraser = 1 then [bitDecl .eraser 0] else []) ++
      [bitDecl .tip 0, bitDecl .inRange 0] ++ bitDecls .buttons barrelUsages.length ++
      [integerDecl .x 0 o.x, integerDecl .y 0 o.y] ++
      optionalDecl o.enablePressure .pressure 0 o.pressure ++
      optionalDecl o.enableTilt .tiltX 0 o.tiltX ++ optionalDecl o.enableTilt .tiltY 0 o.tiltY ++
      optionalDecl o.enableTwistTargetSpecific .twist 0 o.twist
  | .battery { options := o } =>
    [integerDecl .batteryStrength 0 o.strength (o.enableUnknownNullState == 1)]
  | .raw _ => []

/-- The Report ID declaration of a configuration. -/
def SpecConfig.reportIdOption : SpecConfig → ReportIdOption
  | .keyboard c => c.options.reportId
  | .mouse c => c.options.reportId
  | .consumer c => c.options.reportId
  | .gamepad c => c.options.reportId
  | .touch c => c.fields.reportId
  | .pen c => c.options.reportId
  | .battery c => c.options.reportId
  | .raw _ => {}

/-! ### Emitters -/

namespace DescriptorBuilder

/-- The builder of the counting pass. -/
abbrev counting : DescriptorBuilder := .create none 65535 (some {})

/-- A builder behind `set_report_id`, with no field yet. -/
structure Starts (option : ReportIdOption) (b : DescriptorBuilder) : Prop where
  tracks : b.Tracks
  declared : b.recorded.declared = []
  hasReportId : b.recorded.hasReportId = (option.enabled == 1)
  reportId : b.recorded.reportId = if option.enabled == 1 then option.value.toNat else 0

/-- A builder at the end of an emitter. -/
structure Emitted (option : ReportIdOption) (decls : List FieldDecl) (b : DescriptorBuilder) :
    Prop where
  tracks : b.Tracks
  declared : b.recorded.declared = decls
  aligned : b.inputBits % 8 = 0
  hasReportId : b.recorded.hasReportId = (option.enabled == 1)
  reportId : b.recorded.reportId = if option.enabled == 1 then option.value.toNat else 0

variable {b b' b'' padded : DescriptorBuilder} {decls : List FieldDecl}
  {option : ReportIdOption}

theorem starts_of_head {usagePage usage : ℕ}
    (happlication : counting.beginApplication usagePage usage = some b)
    (hreport : b.declareReportId option = some b') : Starts option b' := by
  obtain ⟨hlayout, -⟩ := beginApplication_frame happlication
  have hsome : b.layout.isSome := by rw [hlayout]; rfl
  have hempty : b.recorded.fields = [] := by rw [recorded, hlayout]; rfl
  obtain ⟨htracks, hdeclared, hhas, hid⟩ := setReportId_spec hreport hsome hempty
  exact ⟨htracks, hdeclared, hhas, hid⟩

/-- Padding behind recorded fields. -/
theorem Adds.pad (h : b.Adds decls b') (hpad : padReport b' = some b'') : b.Adds decls b'' := by
  simpa using h.trans (padReport_spec hpad).2

/-- An emitter ends with padding and the end of its collection. -/
theorem Starts.emitted (hstart : Starts option b) (hadds : b.Adds decls b')
    (hpad : padReport b' = some padded) (hend : padded.endCollection = some b'') :
    Emitted option decls b'' := by
  obtain ⟨hlayout, hbits⟩ := endCollection_frame hend
  have hall : b.Adds decls b'' := by
    simpa using (hadds.pad hpad).trans (adds_nil_of_eq hlayout hbits)
  refine ⟨hall.tracks hstart.tracks, ?_, hbits ▸ (padReport_spec hpad).1, ?_, ?_⟩
  · rw [hall.declared hstart.tracks, hstart.declared, List.nil_append]
  · rw [hall.hasReportId hstart.tracks, hstart.hasReportId]
  · rw [hall.reportId hstart.tracks, hstart.reportId]

/-- A second collection around it ends behind the first. -/
theorem Emitted.endCollection (h : Emitted option decls b) (hend : b.endCollection = some b') :
    Emitted option decls b' := by
  obtain ⟨hlayout, hbits⟩ := endCollection_frame hend
  have hadds : b.Adds [] b' := adds_nil_of_eq hlayout hbits
  refine ⟨hadds.tracks h.tracks, ?_, hbits ▸ h.aligned, ?_, ?_⟩
  · rw [hadds.declared h.tracks, h.declared, List.append_nil]
  · rw [hadds.hasReportId h.tracks, h.hasReportId]
  · rw [hadds.reportId h.tracks, h.reportId]

theorem adds_integerVariable {usagePage usage : ℕ} {field : IntegerField}
    {relative nullState : Bool} {semantic : FieldSemantic} {index : ℕ}
    (hsemantic : semantic ≠ .constantPadding) (hvalid : field.Valid)
    (h : b.integerVariable usagePage usage field relative nullState semantic index = some b') :
    b.Adds [integerDecl semantic index field nullState] b' := by
  have hadds := adds_variableField hsemantic h
  rwa [Nat.mod_eq_of_lt (by have := hvalid.le; omega)] at hadds

theorem adds_bitVariable {usagePage usage : ℕ} {relative : Bool} {semantic : FieldSemantic}
    {index : ℕ} {noPreferred : Bool} (hsemantic : semantic ≠ .constantPadding)
    (h : b.bitVariable usagePage usage relative semantic index noPreferred = some b') :
    b.Adds [bitDecl semantic index] b' :=
  adds_variableField hsemantic h

/-- An operation behind a condition of the options. -/
theorem adds_onlyIf {p : Prop} [Decidable p] {op : DescriptorBuilder → Option DescriptorBuilder}
    (hop : p → op b = some b' → b.Adds decls b') (h : b.onlyIf p op = some b') :
    b.Adds (if p then decls else []) b' := by
  unfold onlyIf at h
  split_ifs at h ⊢ with hp
  · exact hop hp h
  · cases h
    exact Adds.refl b

theorem adds_optionalVariable {enable : UInt32} {usage : ℕ} {field : IntegerField}
    {semantic : FieldSemantic} {index : ℕ} (hsemantic : semantic ≠ .constantPadding)
    (hvalid : enable = 1 → field.Valid)
    (h : b.optionalVariable enable usage field semantic index = some b') :
    b.Adds (optionalDecl enable semantic index field) b' :=
  adds_onlyIf (fun henable => adds_integerVariable hsemantic (hvalid henable)) h

/-- A range of one-bit Usages, when the layout can number it. -/
theorem adds_bitRange {usagePage usageMinimum usageMaximum count : ℕ} {semantic : FieldSemantic}
    (hsemantic : semantic ≠ .constantPadding) (hcount : usageMaximum - usageMinimum + 1 = count)
    (hle : count ≤ 2 ^ 16)
    (h : b.variableRange usagePage usageMinimum usageMaximum 1 semantic = some b') :
    b.Adds (bitDecls semantic count) b' := by
  have hadds := adds_variableRange hsemantic h
  rw [hcount] at hadds
  have hdecls : (List.range count).map (fun index =>
      FieldDecl.mk semantic (index % 2 ^ 16) 1 0 1 false) = bitDecls semantic count :=
    List.map_congr_left fun index hindex => by
      rw [Nat.mod_eq_of_lt (by have := List.mem_range.mp hindex; omega)]
      rfl
  rwa [hdecls] at hadds

end DescriptorBuilder

open DescriptorBuilder

theorem emitted_keyboard {o : KeyboardOptions} (ho : o.Accepted) {b : DescriptorBuilder}
    (h : emitKeyboard o counting = some b) :
    Emitted o.reportId (SpecConfig.keyboard ⟨o⟩).declaredFields b := by
  simp only [emitKeyboard, Option.bind_eq_bind, Option.bind_eq_some_iff] at h
  obtain ⟨b₁, h₁, b₂, h₂, b₃, h₃, b₄, h₄, b₅, h₅, h₆⟩ := h
  have hmodifiers : b₂.Adds (bitDecls .modifier 8) b₃ :=
    adds_bitRange (by simp) rfl (by simp) h₃
  have hkeys := adds_bitRange (by simp) rfl
    (by have := o.usageMaximum.toNat_lt; have := ho.four_le; omega) h₄
  exact (starts_of_head h₁ h₂).emitted (hmodifiers.trans hkeys) h₅ h₆

theorem emitted_mouse {o : MouseOptions} (ho : o.Accepted) {b : DescriptorBuilder}
    (h : emitMouse o counting = some b) :
    Emitted o.reportId (SpecConfig.mouse ⟨o⟩).declaredFields b := by
  simp only [emitMouse, Option.bind_eq_bind, Option.bind_eq_some_iff] at h
  obtain ⟨b₁, h₁, b₂, h₂, b₃, h₃, b₄, h₄, b₅, h₅, b₆, h₆, b₇, h₇, b₈, h₈, b₉, h₉, b₁₀, h₁₀, b₁₁,
    h₁₁, b₁₂, h₁₂, b₁₃, h₁₃, h₁₄⟩ := h
  have hpos := ho.buttonCount_pos
  have hle := ho.buttonCount_le
  have hbuttons : b₃.Adds (bitDecls .buttons o.buttonCount.toNat) b₄ :=
    adds_bitRange (by simp) (by omega) (by omega) h₄
  have hx := adds_integerVariable (by simp) ho.x.valid h₆
  have hy := adds_integerVariable (by simp) ho.y.valid h₇
  have hwheel := adds_onlyIf (fun h1 => adds_integerVariable (by simp) (ho.wheel h1).valid) h₉
  have hpan := adds_onlyIf (fun h1 => adds_integerVariable (by simp) (ho.pan h1).valid) h₁₁
  have hadds := (((((((adds_beginPhysical h₃).trans hbuttons).pad h₅).trans hx).trans hy).pad
    h₈).trans hwheel |>.pad h₁₀).trans hpan
  have hemitted := ((starts_of_head h₁ h₂).emitted hadds h₁₂ h₁₃).endCollection h₁₄
  simpa [SpecConfig.declaredFields, optionalDecl] using hemitted

/-- The declarations of a loop over the indices below `count`. -/
private theorem flatMap_finRange {count : ℕ} {decls : Fin count → List FieldDecl}
    (index : ℕ → FieldDecl) (h : ∀ i : Fin count, decls i = [index i]) :
    (List.finRange count).flatMap decls = (List.range count).map index := by
  rw [← List.map_coe_finRange_eq_range, List.map_map, List.map_eq_flatMap]
  exact List.flatMap_congr fun i _ => h i

theorem emitted_toggle {o : ToggleOptions} {allowedUsages : Vector UInt16 o.allowedUsageCount}
    {usageSemantics : Vector UsageSemantic o.allowedUsageCount}
    (hcount : o.allowedUsageCount ≤ 65535) {b : DescriptorBuilder}
    (h : emitUsageControls o allowedUsages usageSemantics counting = some b) :
    Emitted o.reportId (bitDecls .consumerUsage o.allowedUsageCount) b := by
  simp only [emitUsageControls, Option.bind_eq_bind, Option.bind_eq_some_iff] at h
  obtain ⟨b₁, h₁, b₂, h₂, b₃, h₃, b₄, h₄, h₅⟩ := h
  have hturn (index : Fin o.allowedUsageCount) (_ : index ∈ List.finRange o.allowedUsageCount)
      {b b' : DescriptorBuilder}
      (hturn : (if (!(usageSemanticFlags usageSemantics[index]).accepted) = true then none
        else b.bitVariable o.fieldPage.toNat allowedUsages[index].toNat
          (usageSemanticFlags usageSemantics[index]).relative .consumerUsage (index.val % 2 ^ 16)
          (usageSemanticFlags usageSemantics[index]).noPreferred) = some b') :
      b.Adds [bitDecl .consumerUsage index] b' := by
    split_ifs at hturn
    rw [Nat.mod_eq_of_lt (by omega)] at hturn
    exact adds_bitVariable (by simp) hturn
  have hadds := adds_foldlM _ hturn h₃
  rw [flatMap_finRange _ fun _ => rfl] at hadds
  exact (starts_of_head h₁ h₂).emitted hadds h₄ h₅

/-- The declarations of the axis loop, from the configuration that keeps the axes. -/
private theorem axisDecls_eq {count : ℕ} {axes : Vector GamepadAxis count}
    {configured : List GamepadAxisConfig}
    (h : configured.map (·.axis.value) = axes.toList.map (·.value)) :
    (List.finRange count).flatMap
        (fun i : Fin count =>
          [integerDecl .gamepadAxis i (getElem axes i i.isLt).value]) =
      configured.zipIdx.map fun entry => integerDecl .gamepadAxis entry.2 entry.1.axis.value := by
  have hzip : configured.zipIdx.map (fun entry =>
      integerDecl .gamepadAxis entry.2 entry.1.axis.value) =
      (configured.map (·.axis.value)).zipIdx.map fun entry =>
        integerDecl .gamepadAxis entry.2 entry.1 := by
    rw [List.zipIdx_map, List.map_map]
    rfl
  rw [hzip, h]
  apply List.ext_getElem
  · simp
  · intro i hi hi'
    simp [← List.map_eq_flatMap]

theorem emitted_gamepad {o : GamepadOptions} {axes : Vector GamepadAxis o.axisCount}
    {c : GamepadConfig} (hc : c.Accepted) (hoptions : c.options = { o with axes := none })
    (haxes : c.axes.map (·.axis.value) = axes.toList.map (·.value)) {b : DescriptorBuilder}
    (h : emitGamepad o axes counting = some b) :
    Emitted o.reportId (SpecConfig.gamepad c).declaredFields b := by
  simp only [emitGamepad, Option.bind_eq_bind, Option.bind_eq_some_iff] at h
  obtain ⟨b₁, h₁, b₂, h₂, b₃, h₃, b₄, h₄, b₅, h₅, b₆, h₆, b₇, h₇, b₈, h₈, b₉, h₉, h₁₀⟩ := h
  have hpos := hc.buttonCount_pos
  have hle := hc.buttonCount_le
  have husage := hc.usageMaximum_le
  have hmin := hc.usageMinimum_pos
  have hlength := hc.axes_length_le
  have hhat := hc.hat
  have hdpadButtons := hc.dpadButtons
  rw [hoptions] at hpos hle husage hmin hhat hdpadButtons
  dsimp only at hpos hle husage hmin hhat hdpadButtons
  have hcount : c.axes.length = o.axisCount := by
    simpa using congrArg List.length haxes
  have hbuttons : b₂.Adds (bitDecls .buttons o.buttonCount.toNat) b₃ :=
    adds_bitRange (by simp) (by omega) (by omega) h₃
  have hhatAdds : b₄.Adds (if o.dpadRepresentation = .hat then
      [⟨.hat, 0, o.hatBitWidth.toNat, o.hatLogicalMinimum.toInt, o.hatLogicalMaximum.toInt,
        true⟩] else []) b₅ :=
    adds_onlyIf (fun hp hop => by
      rw [Nat.mod_eq_of_lt (by have := (hhat hp).2.2; omega)] at hop
      exact adds_variableField (by simp) hop) h₅
  have hdpadAdds : b₅.Adds (if o.dpadRepresentation = .buttons then
      (List.range 4).map fun index => bitDecl .buttons (o.buttonCount.toNat + index) else []) b₆ :=
    adds_onlyIf (fun hp hop => by
      have hturn (index : Fin 4) (_ : index ∈ List.finRange 4) {b b' : DescriptorBuilder}
          (hturn : b.bitVariable Usage.pageGenericDesktop (dpadUsages.get index) false .buttons
            ((o.buttonCount.toNat + index) % 2 ^ 16) true = some b') :
          b.Adds [bitDecl .buttons (o.buttonCount.toNat + index)] b' := by
        rw [Nat.mod_eq_of_lt (by have := hdpadButtons hp; omega)] at hturn
        exact adds_bitVariable (by simp) hturn
      have hadds := adds_foldlM _ hturn hop
      rwa [flatMap_finRange (fun index => bitDecl .buttons (o.buttonCount.toNat + index))
        fun _ => rfl] at hadds) h₆
  have hturn (index : Fin o.axisCount) (_ : index ∈ List.finRange o.axisCount)
      {b b' : DescriptorBuilder}
      (hturn : (b.integerVariable axes[index].usagePage.toNat axes[index].usage.toNat
        axes[index].value false false .gamepadAxis (index.val % 2 ^ 16)).bind padReport = some b') :
      b.Adds [integerDecl .gamepadAxis index axes[index].value] b' := by
    obtain ⟨middle, haxis, hpad⟩ := Option.bind_eq_some_iff.mp hturn
    rw [Nat.mod_eq_of_lt (by omega)] at haxis
    have hvalid : axes[index].value.Valid := by
      have hmem : axes[index].value ∈ c.axes.map (·.axis.value) := by
        rw [haxes]
        exact List.mem_map_of_mem (by simp)
      obtain ⟨axis, haxisMem, heq⟩ := List.mem_map.mp hmem
      exact heq ▸ hc.axes_valid axis haxisMem
    exact (adds_integerVariable (by simp) hvalid haxis).pad hpad
  have haxesAdds := adds_foldlM _ hturn h₈
  have hdpad : (if o.dpadRepresentation = .hat then
        [⟨.hat, 0, o.hatBitWidth.toNat, o.hatLogicalMinimum.toInt, o.hatLogicalMaximum.toInt,
          true⟩] else []) ++ (if o.dpadRepresentation = .buttons then
        (List.range 4).map fun index => bitDecl .buttons (o.buttonCount.toNat + index) else []) =
      dpadDecls o := by
    unfold dpadDecls
    split_ifs with hboth <;> simp_all
  have hadds := ((((hbuttons.pad h₄).trans hhatAdds).trans hdpadAdds).pad h₇).trans haxesAdds
  rw [List.append_assoc (bitDecls _ _), hdpad, axisDecls_eq haxes] at hadds
  have hemitted := (starts_of_head h₁ h₂).emitted hadds h₉ h₁₀
  simpa [SpecConfig.declaredFields, hoptions, dpadDecls] using hemitted

theorem adds_emitContact {f : TouchFields} (hf : f.Accepted) {contact : ℕ} (hcontact : contact < 16)
    {b b' : DescriptorBuilder} (h : emitContact f contact b = some b') :
    b.Adds (contactDecls f contact) b' := by
  simp only [emitContact, Option.bind_eq_bind, Option.bind_eq_some_iff,
    Nat.mod_eq_of_lt (show contact < 2 ^ 16 by omega)] at h
  obtain ⟨b₁, h₁, b₂, h₂, b₃, h₃, b₄, h₄, b₅, h₅, b₆, h₆, b₇, h₇, b₈, h₈, b₉, h₉, b₁₀, h₁₀, b₁₁,
    h₁₁, b₁₂, h₁₂, b₁₃, h₁₃, b₁₄, h₁₄, h₁₅⟩ := h
  have htip := adds_bitVariable (by simp) h₂
  have hid := adds_integerVariable (by simp) hf.contactIdentifier.1 h₄
  have hx := adds_integerVariable (by simp) hf.x.1 h₅
  have hy := adds_integerVariable (by simp) hf.y.1 h₆
  have hpressure := adds_optionalVariable (by simp) (fun h1 => (hf.pressure h1).1) h₈
  have hwidth := adds_optionalVariable (by simp) (fun h1 => (hf.width h1).1) h₁₀
  have hheight := adds_optionalVariable (by simp) (fun h1 => (hf.height h1).1) h₁₂
  have hazimuth := adds_optionalVariable (by simp) (fun h1 => (hf.azimuth h1).1) h₁₄
  have hadds := ((((((((((((adds_beginLogical h₁).trans htip).pad h₃).trans hid).trans hx).trans
    hy).pad h₇).trans hpressure).pad h₉).trans hwidth).pad h₁₁).trans hheight |>.pad h₁₃).trans
    hazimuth
  simpa [contactDecls] using hadds.trans (adds_endCollection h₁₅)

theorem emitted_touch {f : TouchFields} (hf : f.Accepted) {applicationUsage : ℕ}
    {b : DescriptorBuilder} (h : emitTouch applicationUsage f counting = some b) :
    Emitted f.reportId (SpecConfig.touch ⟨f⟩).declaredFields b := by
  simp only [emitTouch, Option.bind_eq_bind, Option.bind_eq_some_iff] at h
  obtain ⟨b₁, h₁, b₂, h₂, b₃, h₃, b₄, h₄, b₅, h₅, b₆, h₆, b₇, h₇, b₈, h₈, b₉, h₉, b₁₀, h₁₀,
    h₁₁⟩ := h
  have hcontacts := hf.contactsPerReport_le
  have hmaximum := hf.maximumContacts_le
  have hfeature : b₂.Adds [] b₃ := by
    simpa using adds_onlyIf (fun _ hop => adds_featureStaticValue hop) h₃
  have hturn (contact : ℕ) (hmem : contact ∈ List.range f.contactsPerReport.toNat)
      {b b' : DescriptorBuilder} (hturn : emitContact f contact b = some b') :
      b.Adds (contactDecls f contact) b' :=
    adds_emitContact hf (by have := List.mem_range.mp hmem; omega) hturn
  have hslots := adds_foldlM _ hturn h₄
  have hscan := adds_optionalVariable (by simp) (fun h1 => (hf.scanTime h1).1) h₆
  have hcount := adds_integerVariable (by simp) hf.contactCount.1 h₈
  have hbuttons : b₈.Adds (bitDecls .buttons f.buttonCount.toNat) b₉ := by
    have hle := hf.buttonCount_le
    have hadds := adds_onlyIf (fun hp hop =>
      (adds_bitRange (by simp) (by omega) (by omega) hop :
        b₈.Adds (bitDecls .buttons f.buttonCount.toNat) b₉)) h₉
    by_cases hzero : f.buttonCount.toNat > 0
    · rwa [if_pos hzero] at hadds
    · rw [if_neg hzero] at hadds
      rwa [show f.buttonCount.toNat = 0 by omega]
  have hadds := (((((hfeature.trans hslots).pad h₅).trans hscan).pad h₇).trans hcount).trans
    hbuttons
  simpa [SpecConfig.declaredFields] using (starts_of_head h₁ h₂).emitted hadds h₁₀ h₁₁

theorem emitted_pen {o : PenOptions}
    (ho : PenConfig.Accepted
      { options := { o with barrelUsages := none }, barrelUsages := penBarrelUsages o })
    {b : DescriptorBuilder} (h : emitPen o counting = some b) :
    Emitted o.reportId
      (SpecConfig.pen { options := { o with barrelUsages := none },
                        barrelUsages := penBarrelUsages o }).declaredFields b := by
  simp only [emitPen, Option.bind_eq_bind, Option.bind_eq_some_iff] at h
  obtain ⟨b₁, h₁, b₂, h₂, b₃, h₃, b₄, h₄, b₅, h₅, b₆, h₆, b₇, h₇, b₈, h₈, b₉, h₉, b₁₀, h₁₀, b₁₁,
    h₁₁, b₁₂, h₁₂, b₁₃, h₁₃, b₁₄, h₁₄, b₁₅, h₁₅, b₁₆, h₁₆, b₁₇, h₁₇, b₁₈, h₁₈, b₁₉, h₁₉,
    h₂₀⟩ := h
  have heraser := adds_onlyIf (fun _ hop => adds_bitVariable (by simp) hop) h₄
  have htip := adds_bitVariable (by simp) h₅
  have hrange := adds_bitVariable (by simp) h₆
  have hturn (index : Fin (penBarrelUsages o).length)
      (_ : index ∈ List.finRange (penBarrelUsages o).length) {b b' : DescriptorBuilder}
      (hturn : b.bitVariable Usage.pageDigitizers ((penBarrelUsages o).get index).toNat false
        .buttons (index.val % 2 ^ 16) = some b') : b.Adds [bitDecl .buttons index] b' := by
    have hlength : (penBarrelUsages o).length ≤ 32 := ho.barrel_length_le
    rw [Nat.mod_eq_of_lt (by have := index.isLt; omega)] at hturn
    exact adds_bitVariable (by simp) hturn
  have hbarrel := adds_foldlM _ hturn h₇
  rw [flatMap_finRange _ fun _ => rfl] at hbarrel
  have hx := adds_integerVariable (by simp) ho.x.1 h₉
  have hy := adds_integerVariable (by simp) ho.y.1 h₁₀
  have hpressure := adds_optionalVariable (by simp) (fun h1 => (ho.pressure h1).1) h₁₂
  have htiltX := adds_optionalVariable (by simp) (fun h1 => (ho.tiltX h1).1) h₁₄
  have htiltY := adds_optionalVariable (by simp) (fun h1 => (ho.tiltY h1).1) h₁₅
  have htwist := adds_optionalVariable (by simp) (fun h1 => (ho.twist h1).1) h₁₇
  have hadds := ((((((((((((((adds_beginPhysical h₃).trans heraser).trans htip).trans hrange).trans
    hbarrel).pad h₈).trans hx).trans hy).pad h₁₁).trans hpressure).pad h₁₃).trans htiltX).trans
    htiltY).pad h₁₆).trans htwist
  have hemitted := ((starts_of_head h₁ h₂).emitted hadds h₁₈ h₁₉).endCollection h₂₀
  simpa [SpecConfig.declaredFields, bitDecls] using hemitted

theorem emitted_battery {o : BatteryOptions} (ho : o.Accepted) {b : DescriptorBuilder}
    (h : emitBattery o counting = some b) :
    Emitted o.reportId (SpecConfig.battery ⟨o⟩).declaredFields b := by
  simp only [emitBattery, Option.bind_eq_bind, Option.bind_eq_some_iff] at h
  obtain ⟨b₁, h₁, b₂, h₂, b₃, h₃, b₄, h₄, h₅⟩ := h
  have hstrength := adds_integerVariable (by simp) ho.strength h₃
  exact (starts_of_head h₁ h₂).emitted hstrength h₄ h₅

end LibaoaHid

import LibaoaHid.Profiles.Layouts
import LibaoaHid.Profiles.NullEncoding

/-!
# Sound Specs

What every Spec of the eight generated factories satisfies: its options were accepted, its layout
is the list of its declarations, the fields tile all bits of the report, and each field can
represent its logical range and its Null.

## Main definitions

* `FieldLayout.WellFormed`, `ReportLayout.WellFormed`.
* `Spec.Sound`.

## Main results

* `Generated.sound`.
-/

namespace LibaoaHid

open DescriptorBuilder

/-! ### Well-formed layouts -/

/-- What an encoder may rely on for one field: each value of its logical range is representable,
and so is its Null, which lies outside that range. -/
structure FieldLayout.WellFormed (field : FieldLayout) : Prop where
  pos : 0 < field.bitWidth
  le : field.bitWidth ≤ 32
  represents : ∀ value, field.logicalMinimum ≤ value → value ≤ field.logicalMaximum →
    field.Represents value
  null : field.hasNullState → field.Represents (hatNull field) ∧
    ¬(field.logicalMinimum ≤ hatNull field ∧ hatNull field ≤ field.logicalMaximum)
  padding : field.semantic = .constantPadding →
    field.logicalMinimum = 0 ∧ field.logicalMaximum = 0

/-- The fields tile the report behind its Report ID byte. -/
structure ReportLayout.WellFormed (layout : ReportLayout) : Prop where
  tiles : Tiles layout.fields layout.prefixBits (8 * layout.wireBytes)
  fields : ∀ field ∈ layout.fields, field.WellFormed
  wireBytes_pos : 0 < layout.wireBytes
  reportId_lt : layout.reportId < 256

/-- What a declaration of accepted options satisfies. -/
structure FieldDecl.Declarable (d : FieldDecl) : Prop where
  minimum : -2 ^ 31 ≤ d.logicalMinimum
  maximum : d.logicalMaximum < 2 ^ 31
  null : d.hasNullState → hasNullEncoding d.logicalMinimum d.logicalMaximum d.bitWidth = true

theorem declarable_bitDecl (semantic : FieldSemantic) (index : ℕ) :
    (bitDecl semantic index).Declarable :=
  ⟨by simp [bitDecl], by simp [bitDecl], by simp [bitDecl]⟩

theorem declarable_integerDecl (semantic : FieldSemantic) (index : ℕ) (field : IntegerField)
    {hasNullState : Bool}
    (hnull : hasNullState → hasNullEncoding field.logicalMinimum.toInt field.logicalMaximum.toInt
      field.bitWidth.toNat = true) :
    (integerDecl semantic index field hasNullState).Declarable :=
  ⟨field.logicalMinimum.le_toInt, field.logicalMaximum.toInt_lt, hnull⟩

private theorem declarable_optionalDecl {enable : UInt32} {semantic : FieldSemantic} {index : ℕ}
    {field : IntegerField} {d : FieldDecl} (h : d ∈ optionalDecl enable semantic index field) :
    d.Declarable := by
  unfold optionalDecl at h
  split_ifs at h
  · obtain rfl := List.mem_singleton.mp h
    exact declarable_integerDecl _ _ _ (by simp)
  · simp at h

private theorem declarable_bitDecls {semantic : FieldSemantic} {count : ℕ} {d : FieldDecl}
    (h : d ∈ bitDecls semantic count) : d.Declarable := by
  obtain ⟨index, -, rfl⟩ := List.mem_map.mp h
  exact declarable_bitDecl semantic index

private theorem declarable_contactDecls {f : TouchFields} {contact : ℕ} {d : FieldDecl}
    (h : d ∈ contactDecls f contact) : d.Declarable := by
  simp only [contactDecls, List.mem_append, List.mem_cons, List.not_mem_nil, or_false] at h
  rcases h with ((((rfl | rfl | rfl | rfl) | h) | h) | h) | h
  · exact declarable_bitDecl _ _
  all_goals first
    | exact declarable_integerDecl _ _ _ (by simp)
    | exact declarable_optionalDecl h

/-- Every declaration of an accepted configuration is declarable. -/
theorem SpecConfig.Accepted.declarable {kind : ProfileKind} {config : SpecConfig}
    (h : SpecConfig.Accepted kind config) : ∀ d ∈ config.declaredFields, d.Declarable := by
  intro d hd
  cases config with
  | keyboard c =>
    simp only [declaredFields, List.mem_append] at hd
    rcases hd with hd | hd <;> exact declarable_bitDecls hd
  | mouse c =>
    simp only [declaredFields, List.mem_append, List.mem_cons, List.not_mem_nil, or_false] at hd
    rcases hd with ((hd | rfl | rfl) | hd) | hd
    · exact declarable_bitDecls hd
    · exact declarable_integerDecl _ _ _ (by simp)
    · exact declarable_integerDecl _ _ _ (by simp)
    · exact declarable_optionalDecl hd
    · exact declarable_optionalDecl hd
  | consumer c => exact declarable_bitDecls hd
  | gamepad c =>
    simp only [declaredFields, List.mem_append] at hd
    rcases hd with (hd | hd) | hd
    · exact declarable_bitDecls hd
    · have hhat : c.options.dpadRepresentation = .hat → c.options.hatLogicalMinimum.toInt = 0 ∧
          c.options.hatLogicalMaximum.toInt = 7 ∧ c.options.hatBitWidth.toNat = 4 := by
        cases kind <;> simp only [SpecConfig.Accepted] at h
        exact h.hat
      unfold dpadDecls at hd
      split_ifs at hd with h1 h2
      · obtain rfl := List.mem_singleton.mp hd
        obtain ⟨hmin, hmax, hwidth⟩ := hhat h1
        refine ⟨?_, ?_, fun _ => ?_⟩ <;> simp only [hmin, hmax, hwidth] <;>
          norm_num [hasNullEncoding]
      · obtain ⟨index, -, rfl⟩ := List.mem_map.mp hd
        exact declarable_bitDecl _ _
      · simp at hd
    · obtain ⟨entry, -, rfl⟩ := List.mem_map.mp hd
      exact declarable_integerDecl _ _ _ (by simp)
  | touch c =>
    simp only [declaredFields, List.mem_append, List.mem_flatMap, List.mem_singleton] at hd
    rcases hd with ((⟨contact, -, hd⟩ | hd) | rfl) | hd
    · exact declarable_contactDecls hd
    · exact declarable_optionalDecl hd
    · exact declarable_integerDecl _ _ _ (by simp)
    · exact declarable_bitDecls hd
  | pen c =>
    simp only [declaredFields, List.mem_append, List.mem_cons, List.not_mem_nil, or_false] at hd
    rcases hd with (((((((hd | rfl | rfl) | hd) | rfl | rfl) | hd) | hd) | hd) | hd)
    · split_ifs at hd
      · obtain rfl := List.mem_singleton.mp hd
        exact declarable_bitDecl _ _
      · simp at hd
    · exact declarable_bitDecl _ _
    · exact declarable_bitDecl _ _
    · exact declarable_bitDecls hd
    · exact declarable_integerDecl _ _ _ (by simp)
    · exact declarable_integerDecl _ _ _ (by simp)
    all_goals exact declarable_optionalDecl hd
  | battery c =>
    obtain rfl := List.mem_singleton.mp hd
    cases kind <;> simp only [SpecConfig.Accepted] at h
    exact declarable_integerDecl _ _ _ fun hnull => h.null (by simpa using hnull)
  | raw c => simp [declaredFields] at hd

/-! ### Sound Specs -/

/-- What holds of every generated Spec. -/
structure Spec.Sound (spec : Spec) : Prop where
  accepted : SpecConfig.Accepted spec.kind spec.config
  declared : spec.layout.declared = spec.config.declaredFields
  layout : spec.layout.WellFormed
  hasReportId : spec.layout.hasReportId = (spec.config.reportIdOption.enabled == 1)
  reportId : spec.layout.reportId =
    if spec.config.reportIdOption.enabled == 1 then spec.config.reportIdOption.value.toNat else 0

/-- Accepted options declare at least one field. -/
theorem SpecConfig.Accepted.declaredFields_ne_nil {kind : ProfileKind} {config : SpecConfig}
    (h : SpecConfig.Accepted kind config) : config.declaredFields ≠ [] := by
  cases config with
  | consumer c =>
    have hpos : 0 < c.allowedUsages.length := by
      cases kind <;> simp only [SpecConfig.Accepted] at h
      exact h.length_pos
    simp only [declaredFields, bitDecls, ne_eq, List.map_eq_nil_iff, List.range_eq_nil]
    omega
  | gamepad c =>
    have hpos : 0 < c.options.buttonCount.toNat := by
      cases kind <;> simp only [SpecConfig.Accepted] at h
      exact h.buttonCount_pos
    simp only [declaredFields, bitDecls, ne_eq, List.append_eq_nil_iff, List.map_eq_nil_iff,
      List.range_eq_nil]
    omega
  | raw c => cases kind <;> simp only [SpecConfig.Accepted] at h
  | _ => simp [declaredFields, bitDecls, List.range_succ]

/-- The common tail of the factories builds a sound Spec when its emitter records the
declarations of the configuration. -/
theorem sound_of_buildGeneratedSpec {kind : ProfileKind} {androidStatus : AndroidStatus}
    {config : SpecConfig} {emit : DescriptorBuilder → Option DescriptorBuilder} {spec : Spec}
    (h : buildGeneratedSpec kind androidStatus config emit = .ok spec)
    (haccepted : SpecConfig.Accepted kind config)
    (hemit : ∀ b, emit counting = some b →
      Emitted config.reportIdOption config.declaredFields b) :
    spec.Sound ∧ spec.kind = kind ∧ spec.config = config := by
  unfold buildGeneratedSpec at h
  split at h
  · simp at h
  next counted hcounted =>
  dsimp only at h
  split at h
  · simp at h
  next emitted hemitted =>
  split at h
  · simp at h
  split at h
  · simp at h
  next hvalid =>
  cases h
  refine ⟨?_, rfl, rfl⟩
  obtain ⟨b, hb, hfinish⟩ := Option.bind_eq_some_iff.mp hcounted
  have hb := hemit b hb
  simp only [DescriptorBuilder.finish] at hfinish
  split_ifs at hfinish
  cases hfinish
  obtain ⟨layout, hlayout⟩ := Option.isSome_iff_exists.mp hb.tracks.isSome
  have hrecorded : b.recorded = layout := by simp [recorded, hlayout]
  simp only [hlayout, Option.map_some, Option.getD_some] at hvalid ⊢
  have hdeclared := hb.declared
  have hfields := hb.tracks.fields
  have hmeasure := hb.tracks.inputBits
  have haligned := hb.aligned
  have hhas := hb.hasReportId
  have hid := hb.reportId
  rw [hrecorded] at hdeclared hfields hmeasure hhas hid
  -- The validator accepted the recorded fields.
  simp only [validateGenerated] at hvalid
  split_ifs at hvalid
  split at hvalid
  · simp at hvalid
  next layoutBits hloop =>
  obtain ⟨htiles, hbits, hwidths⟩ := tiles_of_validateFields hloop
  change Tiles layout.fields layout.prefixBits layoutBits at htiles
  have hstop : layoutBits = 8 * ((b.inputBits + 7) / 8) := by
    have hmeasured : layoutBits = b.inputBits := by rw [hbits, hmeasure]; rfl
    omega
  have hdeclarable (field : FieldLayout) (hmem : field ∈ layout.fields)
      (hpadding : field.semantic ≠ .constantPadding) : field.decl.Declarable :=
    haccepted.declarable _ (hdeclared ▸ ReportLayout.decl_mem_declared hmem hpadding)
  have hpos (field : FieldLayout) (hmem : field ∈ layout.fields) : 0 < field.bitWidth :=
    htiles.pos field hmem
  have hnonempty : layout.fields ≠ [] := by
    intro hnil
    apply haccepted.declaredFields_ne_nil
    rw [← hdeclared, ReportLayout.declared, hnil]
    rfl
  constructor
  · exact haccepted
  · exact hdeclared
  · constructor
    · exact hstop ▸ htiles
    · intro field hmem
      have hrec := hfields field hmem
      by_cases hpadding : field.semantic = .constantPadding
      · obtain ⟨hmin, hmax, hnull⟩ := hrec.padding hpadding
        refine ⟨hpos field hmem, (hwidths field hmem).1, fun value hle hge => ?_, ?_,
          fun _ => ⟨hmin, hmax⟩⟩
        · obtain rfl : value = 0 := by omega
          unfold FieldLayout.Represents
          split_ifs <;> simp
        · simp [hnull]
      · have hd := hdeclarable field hmem hpadding
        have hfits := (hwidths field hmem).2 hpadding
        exact
          { pos := hpos field hmem
            le := (hwidths field hmem).1
            represents := fun value =>
              represents_of_valueFits hrec.isSigned hfits hd.minimum hd.maximum
            null := fun hnull => ⟨represents_hatNull (hpos field hmem),
              (hasNullEncoding_iff_outside hrec.isSigned hfits hd.minimum hd.maximum).mp
                (hd.null hnull)⟩
            padding := fun h => absurd h hpadding }
    · obtain ⟨first, rest, hcons⟩ := List.exists_cons_of_ne_nil hnonempty
      have hfirst := htiles.inside first (hcons ▸ List.mem_cons_self)
      have := hpos first (hcons ▸ List.mem_cons_self)
      change 0 < (b.inputBits + 7) / 8
      omega
    · change layout.reportId < 256
      rw [hid]
      split_ifs
      · exact config.reportIdOption.value.toNat_lt
      · norm_num
  · exact hhas
  · exact hid

private theorem sound_touch {f : TouchFields} {name : String} {kind : ProfileKind}
    {usage : ℕ} {androidStatus : AndroidStatus} {spec : Spec}
    (h : createTouchSpecFromFields f name kind usage androidStatus = .ok spec)
    (hkind : f.Accepted → SpecConfig.Accepted kind (.touch ⟨f⟩)) : spec.Sound := by
  unfold createTouchSpecFromFields at h
  split at h
  · simp at h
  next hcheck =>
  have hf := accepted_of_checkTouch hcheck
  exact (sound_of_buildGeneratedSpec h (hkind hf) (fun b hb => emitted_touch hf hb)).1

/-- **Generated Specs are sound.** -/
theorem Generated.sound {spec : Spec} (h : Generated spec) : spec.Sound := by
  cases h with
  | @keyboard o _ h =>
    simp only [createKeyboard] at h
    split at h
    · simp at h
    next hcheck =>
    have ho := accepted_of_checkKeyboard hcheck
    exact (sound_of_buildGeneratedSpec h ho (fun b hb => emitted_keyboard ho hb)).1
  | @mouse o _ h =>
    simp only [createMouse] at h
    split at h
    · simp at h
    next hcheck =>
    have ho := accepted_of_checkMouse hcheck
    exact (sound_of_buildGeneratedSpec h ho (fun b hb => emitted_mouse ho hb)).1
  | @toggle o _ h =>
    simp only [createToggle] at h
    split at h
    · simp at h
    next hcheck =>
    split at h
    next allowedUsages usageSemantics eventTypes codes =>
      split at h
      · simp at h
      next hloop =>
      obtain ⟨hpos, hle, hreport⟩ := checkToggle_accepted hcheck
      have hall := List.findSome?_eq_none_iff.mp hloop
      obtain ⟨hnodup, hzero⟩ := checkUsage_accepted fun index =>
        hall index (List.mem_finRange index)
      refine (sound_of_buildGeneratedSpec h ?_ (fun b hb => ?_)).1
      · exact ⟨hnodup, hzero, by simpa using hpos, by simpa using hle, hreport⟩
      · have hemitted := emitted_toggle hle hb
        simpa [SpecConfig.declaredFields, SpecConfig.reportIdOption] using hemitted
    · simp at h
  | @gamepad o _ h =>
    simp only [createGamepad] at h
    split at h
    · simp at h
    next hcheck =>
    split at h
    · simp at h
    next axes haxes =>
    split at h
    · simp at h
    next hloop =>
    simp only [firstRefusal_cons_eq_none, firstRefusal_nil, and_true] at hloop
    obtain ⟨haxisLoop, hdpad⟩ := hloop
    have hall := List.findSome?_eq_none_iff.mp haxisLoop
    have haxis := checkAxis_accepted fun index => hall index (List.mem_finRange index)
    have hc := accepted_of_checkGamepad hcheck hdpad haxis
    refine (sound_of_buildGeneratedSpec h hc (fun b hb => ?_)).1
    exact emitted_gamepad hc rfl (by simp [Function.comp_def]) hb
  | @touchscreen o _ h =>
    simp only [createTouchscreen] at h
    split at h
    · simp at h
    · exact sound_touch h fun hf => ⟨hf, rfl⟩
  | @touchpad o _ h =>
    simp only [createTouchpad] at h
    split at h
    · simp at h
    · exact sound_touch h fun hf => hf
  | @pen o _ h =>
    simp only [createPen] at h
    split at h
    · simp at h
    next hloop =>
    simp only [firstRefusal_cons_eq_none, firstRefusal_nil, and_true] at hloop
    have hc := accepted_of_checkPen hloop.1
    exact (sound_of_buildGeneratedSpec h hc (fun b hb => emitted_pen hc hb)).1
  | @battery o _ h =>
    simp only [createBattery] at h
    split at h
    · simp at h
    next hcheck =>
    have ho := accepted_of_checkBattery hcheck
    exact (sound_of_buildGeneratedSpec h ho (fun b hb => emitted_battery ho hb)).1

/-- The kind of a Touchscreen. -/
theorem kind_of_createTouchscreen {o : TouchscreenOptions} {spec : Spec}
    (h : createTouchscreen (some o) = .ok spec) : spec.kind = .touchscreen := by
  simp only [createTouchscreen] at h
  split at h
  · cases h
  · rw [createTouchSpecFromFields] at h
    split at h
    · cases h
    next hcheck =>
    have hf := accepted_of_checkTouch hcheck
    exact (sound_of_buildGeneratedSpec h ⟨hf, rfl⟩ (fun b hb => emitted_touch hf hb)).2.1

end LibaoaHid

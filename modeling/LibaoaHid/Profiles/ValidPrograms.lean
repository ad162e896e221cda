import LibaoaHid.Profiles.Programs

/-!
# The programs of accepted options are valid

The checks of a factory give every operation of its program the arguments of an accepted
declaration. A program is valid piece by piece: each piece nests from one depth to another and adds
at most some bits.

## Main definitions

* `IntegerField.Declared`: a field that `validate_field` accepts, with its physical block.
* `Allowed`: operations that are valid, with their depths and their bits.

## Main results

* `valid_keyboardProgram`, `valid_mouseProgram` and their siblings.
-/

namespace LibaoaHid

/-! ### Fields -/

/-- A field that `validate_field` accepts. -/
structure IntegerField.Declared (field : IntegerField) : Prop extends field.Valid where
  physical : field.physical.Declarable

theorem declarable_of_validatePhysical {physical : PhysicalProperties} {name : String}
    (h : validatePhysical physical name = none) : physical.Declarable := by
  unfold validatePhysical at h
  split_ifs at h with hboolean hzero hdisabled henabled
  · exact Or.inl (by simpa [physicalIsZero] using hdisabled)
  · right
    have hone : physical.enabled = 1 := by
      have := hboolean
      simp only [Bool.not_eq_true, Bool.not_eq_false', validBoolean_iff] at this
      exact this.resolve_left hzero
    simp only [not_or, not_le, not_lt, Bool.not_eq_true, Bool.not_eq_false'] at henabled
    obtain ⟨hordered, hlower, hupper, hunit, hvalid⟩ := henabled
    simp only [PhysicalProperties.validEnabled, Bool.and_eq_true, beq_iff_eq, decide_eq_true_eq,
      bne_iff_ne]
    exact ⟨⟨⟨⟨⟨hone, hordered⟩, hlower⟩, hupper⟩, hunit⟩, hvalid⟩

theorem declared_of_validateField {field : IntegerField} {name : String}
    (h : validateField field name = none) : field.Declared where
  toValid := valid_of_validateField h
  physical := by
    unfold validateField at h
    split at h
    · simp at h
    next hphysical => exact declarable_of_validatePhysical hphysical

theorem valid_integerOp {field : IntegerField} (h : field.Declared) {usagePage usage : ℕ}
    (husagePage : usagePage < 2 ^ 16) (husage : usage < 2 ^ 16) {relative nullState : Bool}
    {semantic : FieldSemantic} (hsemantic : semantic ≠ .constantPadding) {instanceIndex : ℕ} :
    (integerOp usagePage usage field relative nullState semantic instanceIndex).Valid where
  usagePage := husagePage
  usage := husage
  minimum := field.logicalMinimum.le_toInt
  maximum := field.logicalMaximum.toInt_lt
  fits := by
    have hle := h.le
    change valueFits _ _ (field.bitWidth.toNat % 2 ^ 8) = true
    rw [Nat.mod_eq_of_lt (by omega)]
    exact h.fits
  semantic := hsemantic
  physical := h.physical

theorem valid_bitOp {usagePage usage : ℕ} (husagePage : usagePage < 2 ^ 16)
    (husage : usage < 2 ^ 16) {relative noPreferred : Bool} {semantic : FieldSemantic}
    (hsemantic : semantic ≠ .constantPadding) {instanceIndex : ℕ} :
    (bitOp usagePage usage relative semantic instanceIndex noPreferred).Valid where
  usagePage := husagePage
  usage := husage
  minimum := by norm_num
  maximum := by norm_num
  fits := rfl
  semantic := hsemantic
  physical := Or.inl rfl

/-! ### Pieces -/

/-- Operations that are valid, nest from one depth to another, and add at most some bits. -/
structure Allowed (depth : ℕ) (ops : List EmitterOp) (last bound : ℕ) : Prop where
  valid : ∀ op ∈ ops, op.Valid
  nests : BodyNests depth ops last
  cost : (ops.map EmitterOp.cost).sum ≤ bound

namespace Allowed

variable {depth middle last bound bound' : ℕ} {ops ops' : List EmitterOp}

theorem nil : Allowed depth [] depth 0 where
  valid := List.forall_mem_nil _
  nests := rfl
  cost := le_rfl

theorem append (h : Allowed depth ops middle bound) (h' : Allowed middle ops' last bound') :
    Allowed depth (ops ++ ops') last (bound + bound') where
  valid op hop := (List.mem_append.mp hop).elim (h.valid op) (h'.valid op)
  nests := h.nests.append h'.nests
  cost := by
    rw [List.map_append, List.sum_append]
    exact Nat.add_le_add h.cost h'.cost

theorem mono (h : Allowed depth ops last bound) (hle : bound ≤ bound') :
    Allowed depth ops last bound' :=
  { h with cost := h.cost.trans hle }

/-- A sequence that is put together from pieces. -/
theorem cons {pieces : List (List EmitterOp)} (h : Allowed depth ops middle bound)
    (h' : Allowed middle pieces.flatten last bound') :
    Allowed depth (List.flatten (ops :: pieces)) last (bound + bound') :=
  h.append h'

theorem single {op : EmitterOp} (hop : op.Valid) (hnests : op.Nests depth)
    (hcost : op.cost ≤ bound) :
    Allowed depth [op] (op.depthFrom depth) bound where
  valid := List.forall_mem_singleton.mpr hop
  nests := ⟨hnests, rfl⟩
  cost := by simpa using hcost

theorem pad : Allowed depth [.pad] depth 8 := single trivial nofun le_rfl

theorem field {d : VariableField} (hd : d.Valid) : Allowed depth [.field d] depth 32 :=
  single hd nofun (of_valueFits hd.fits).2.1

theorem integer {declared : IntegerField} (h : declared.Declared) {usagePage usage : ℕ}
    (husagePage : usagePage < 2 ^ 16) (husage : usage < 2 ^ 16) {relative nullState : Bool}
    {semantic : FieldSemantic} (hsemantic : semantic ≠ .constantPadding) {instanceIndex : ℕ} :
    Allowed depth [integerOp usagePage usage declared relative nullState semantic instanceIndex]
      depth 32 :=
  field (valid_integerOp h husagePage husage hsemantic)

/-- A one-bit control. -/
theorem bit {usagePage usage : ℕ} (husagePage : usagePage < 2 ^ 16) (husage : usage < 2 ^ 16)
    {relative noPreferred : Bool} {semantic : FieldSemantic}
    (hsemantic : semantic ≠ .constantPadding) {instanceIndex : ℕ} :
    Allowed depth [bitOp usagePage usage relative semantic instanceIndex noPreferred] depth 1 :=
  single (valid_bitOp husagePage husage hsemantic) nofun le_rfl

theorem range {usagePage usageMinimum usageMaximum : ℕ} {semantic : FieldSemantic}
    (husagePage : usagePage < 2 ^ 16) (hle : usageMinimum ≤ usageMaximum)
    (hlt : usageMaximum < 2 ^ 16) (hsemantic : semantic ≠ .constantPadding) :
    Allowed depth [.range usagePage usageMinimum usageMaximum semantic] depth (2 ^ 16) :=
  single ⟨husagePage, hle, hlt, hsemantic⟩ nofun (by
    change usageMaximum - usageMinimum + 1 ≤ 2 ^ 16
    omega)

theorem openLogical {usagePage usage : ℕ} (husagePage : usagePage < 2 ^ 16)
    (husage : usage < 2 ^ 16) : Allowed depth [.openLogical usagePage usage] (depth + 1) 0 :=
  single ⟨husagePage, husage⟩ nofun le_rfl

theorem openPhysical {usagePage usage : ℕ} (husagePage : usagePage < 2 ^ 16)
    (husage : usage < 2 ^ 16) : Allowed depth [.openPhysical usagePage usage] (depth + 1) 0 :=
  single ⟨husagePage, husage⟩ nofun le_rfl

theorem close (h : 1 < depth) : Allowed depth [.close] (depth - 1) 0 :=
  single trivial (fun _ => h) le_rfl

theorem opsIf {condition : Prop} [Decidable condition]
    (h : condition → Allowed depth ops depth bound) :
    Allowed depth (LibaoaHid.opsIf condition ops) depth bound := by
  unfold LibaoaHid.opsIf
  split_ifs with hcondition
  · exact h hcondition
  · exact nil.mono (Nat.zero_le _)

theorem flatMap {α : Type} {items : List α} {turn : α → List EmitterOp}
    (h : ∀ item ∈ items, Allowed depth (turn item) depth bound) :
    Allowed depth (items.flatMap turn) depth (items.length * bound) := by
  induction items with
  | nil => exact nil.mono (Nat.zero_le _)
  | cons item items ih =>
    obtain ⟨hitem, hitems⟩ := List.forall_mem_cons.mp h
    rw [List.flatMap_cons, List.length_cons, Nat.succ_mul, Nat.add_comm]
    exact hitem.append (ih hitems)

theorem map {α : Type} {items : List α} {turn : α → EmitterOp}
    (h : ∀ item ∈ items, Allowed depth [turn item] depth bound) :
    Allowed depth (items.map turn) depth (items.length * bound) := by
  rw [List.map_eq_flatMap]
  exact flatMap h

end Allowed

/-- A program with an accepted Report ID and allowed operations. -/
theorem valid_of_allowed {p : EmitterProgram} {option : ReportIdOption} {bound : ℕ}
    (hbody : Allowed 1 p.body 1 bound) (hbound : bound ≤ 2 ^ 24)
    (husagePage : p.usagePage < 2 ^ 16) (husage : p.usage < 2 ^ 16)
    (henabled : p.enabled = (option.enabled == 1)) (hreportId : p.reportId = option.value.toNat)
    (hoption : option.enabled = 1 → option.value ≠ 0)
    (hfeature : ∀ f, p.feature = some f → f.Valid) :
    p.Valid where
  usagePage := husagePage
  usage := husage
  reportId_lt := hreportId ▸ option.value.toNat_lt
  reportId_ne h := by
    rw [henabled, beq_iff_eq] at h
    rw [hreportId]
    exact fun hzero => hoption h (UInt8.toNat_inj.mp hzero)
  feature := hfeature
  body := hbody.valid
  nests := hbody.nests
  cost := hbody.cost.trans hbound

/-! ### Keyboard, mouse and battery -/

theorem valid_keyboardProgram {o : KeyboardOptions} (h : checkKeyboard o = none) :
    (keyboardProgram o).Valid := by
  have ho := accepted_of_checkKeyboard h
  have hbody : Allowed 1 (keyboardProgram o).body 1 _ :=
    .cons (.range (by decide) (by decide) (by decide) (by decide)) <|
    .cons (.range (by decide) ho.ordered o.usageMaximum.toNat_lt nofun) <| .cons .pad .nil
  exact valid_of_allowed hbody (by norm_num)
    (show Usage.pageGenericDesktop < 2 ^ 16 by decide) (show Usage.keyboard < 2 ^ 16 by decide)
    rfl rfl ho.reportId nofun

theorem valid_mouseProgram {o : MouseOptions} (h : checkMouse o = none) :
    (mouseProgram o).Valid := by
  have ho := accepted_of_checkMouse h
  simp only [checkMouse, firstRefusal_cons_eq_none, firstRefusal_nil, Option.map_eq_none_iff,
    and_true] at h
  obtain ⟨-, ⟨-, -, hx, hy, -⟩, ⟨hwheel, hpan⟩, -⟩ := h
  have hcount := ho.buttonCount_pos
  have hle := ho.buttonCount_le
  have hbody : Allowed 1 (mouseProgram o).body 1 _ :=
    .cons (.openPhysical (by decide) (by decide)) <|
    .cons (.range (by decide) (by omega) (by omega) (by decide)) <| .cons .pad <|
    .cons (.integer (declared_of_validateField hx) (by decide) (by decide) (by decide)) <|
    .cons (.integer (declared_of_validateField hy) (by decide) (by decide) (by decide)) <|
    .cons .pad <|
    .cons (.opsIf fun henabled => .integer
      (declared_of_validateField (eq_none_of_ite hwheel henabled)) (by decide) (by decide)
        (by decide)) <| .cons .pad <|
    .cons (.opsIf fun henabled => .integer
      (declared_of_validateField (eq_none_of_ite hpan henabled)) (by decide) (by decide)
        (by decide)) <| .cons .pad <| .cons (.close (by norm_num)) .nil
  exact valid_of_allowed hbody (by norm_num)
    (show Usage.pageGenericDesktop < 2 ^ 16 by decide) (show Usage.mouse < 2 ^ 16 by decide)
    rfl rfl ho.reportId (by rintro _ ⟨⟩)

theorem valid_batteryProgram {o : BatteryOptions} (h : checkBattery o = none) :
    (batteryProgram o).Valid := by
  have ho := accepted_of_checkBattery h
  simp only [checkBattery, firstRefusal_cons_eq_none, firstRefusal_nil, Option.map_eq_none_iff,
    and_true] at h
  obtain ⟨-, -, -, hstrength, -⟩ := h
  have hbody : Allowed 1 (batteryProgram o).body 1 _ :=
    .cons (.integer (declared_of_validateField hstrength) (by decide) (by decide) (by decide)) <|
    .cons .pad .nil
  exact valid_of_allowed hbody (by norm_num)
    (show Usage.pageGenericDeviceControls < 2 ^ 16 by decide)
    (show Usage.backgroundNonuserControls < 2 ^ 16 by decide)
    rfl rfl ho.reportId (by rintro _ ⟨⟩)

/-! ### Toggle and gamepad -/

theorem valid_toggleProgram {o : ToggleOptions} (h : checkToggle o = none)
    (allowedUsages : Vector UInt16 o.allowedUsageCount)
    (usageSemantics : Vector UsageSemantic o.allowedUsageCount) :
    (toggleProgram o allowedUsages usageSemantics).Valid := by
  obtain ⟨-, hle, hreport⟩ := checkToggle_accepted h
  have hbody : Allowed 1 (toggleProgram o allowedUsages usageSemantics).body 1 _ :=
    .cons (.map fun index _ => .bit o.fieldPage.toNat_lt allowedUsages[index].toNat_lt
      (by decide)) <| .cons .pad .nil
  refine valid_of_allowed hbody ?_ o.applicationPage.toNat_lt o.applicationUsage.toNat_lt rfl rfl
    hreport (by rintro _ ⟨⟩)
  rw [List.length_finRange]
  omega

theorem dpadUsages_lt (index : Fin dpadUsages.length) : dpadUsages.get index < 2 ^ 16 := by
  revert index
  decide

theorem allowed_dpadOps (o : GamepadOptions) {depth : ℕ} : Allowed depth (dpadOps o) depth 4 :=
  .mono (.map fun index _ => .bit (by decide) (dpadUsages_lt index) (by decide)) (by
    rw [Nat.mul_one]
    exact List.length_finRange.le)

/-- The Hat Switch of an accepted gamepad. -/
theorem valid_hat {o : GamepadOptions} (h : o.hatLogicalMinimum.toInt = 0 ∧
    o.hatLogicalMaximum.toInt = 7 ∧ o.hatBitWidth.toNat = 4) :
    (hatField o).Valid where
  usagePage := show Usage.pageGenericDesktop < 2 ^ 16 by decide
  usage := show Usage.hatSwitch < 2 ^ 16 by decide
  minimum := o.hatLogicalMinimum.le_toInt
  maximum := o.hatLogicalMaximum.toInt_lt
  fits := by
    unfold hatField
    dsimp only
    rw [h.1, h.2.1, h.2.2]
    rfl
  semantic := show FieldSemantic.hat ≠ .constantPadding by decide
  physical := Or.inr (show androidHatDegrees.validEnabled = true by decide)

theorem valid_gamepadProgram {o : GamepadOptions} {axes : Vector GamepadAxis o.axisCount}
    (h : checkGamepad o = none) (hdpad : checkDpad o axes = none)
    (haxes : ∀ index : Fin o.axisCount, checkAxis axes index = none) :
    (gamepadProgram o axes).Valid := by
  have ho := accepted_of_checkGamepad h hdpad (checkAxis_accepted haxes)
  have haxis (index : Fin o.axisCount) : axes[index].value.Declared := by
    have hcheck := haxes index
    simp only [checkAxis, firstRefusal_cons_eq_none, firstRefusal_nil, Option.map_eq_none_iff,
      and_true] at hcheck
    exact declared_of_validateField hcheck.2.2.1.1
  have hpos : 0 < o.buttonCount.toNat := ho.buttonCount_pos
  have hmaximum : o.buttonUsageMinimum.toNat + o.buttonCount.toNat - 1 ≤ 65535 :=
    ho.usageMaximum_le
  have hlength : o.axisCount ≤ 65535 := by simpa using ho.axes_length_le
  have hbody : Allowed 1 (gamepadProgram o axes).body 1 _ :=
    .cons (.range (by decide) (by omega) (by omega) (by decide)) <| .cons .pad <|
    .cons (.opsIf fun hhat => .field (valid_hat (ho.hat hhat))) <|
    .cons (.opsIf fun _ => allowed_dpadOps o) <|
    .cons .pad <|
    .cons (.flatMap fun index _ => .append (.integer (haxis index) axes[index].usagePage.toNat_lt
      axes[index].usage.toNat_lt (by decide)) .pad) <| .cons .pad .nil
  refine valid_of_allowed hbody ?_ (show Usage.pageGenericDesktop < 2 ^ 16 by decide)
    (show Usage.gamepad < 2 ^ 16 by decide) rfl rfl ho.reportId (by rintro _ ⟨⟩)
  rw [List.length_finRange]
  omega

/-! ### Touch and pen -/

theorem Allowed.optional {depth : ℕ} {enable : UInt32} {usage : ℕ} {field : IntegerField}
    {semantic : FieldSemantic} {instanceIndex : ℕ} (h : enable = 1 → field.Declared)
    (husage : usage < 2 ^ 16) (hsemantic : semantic ≠ .constantPadding) :
    Allowed depth (optionalOp enable usage field semantic instanceIndex) depth 32 :=
  .opsIf fun henabled => .integer (h henabled) (by decide) husage hsemantic

theorem valid_touchProgram {name : String} {f : TouchFields} (h : checkTouch name f = none)
    {applicationUsage : ℕ} (husage : applicationUsage < 2 ^ 16) :
    (touchProgram applicationUsage f).Valid := by
  have hf := accepted_of_checkTouch h
  simp only [checkTouch, firstRefusal_cons_eq_none, firstRefusal_nil, refuse_eq_none,
    Option.map_eq_none_iff, and_true] at h
  obtain ⟨⟨-, hx, hy, -⟩, ⟨hidentifier, hcount⟩, -, -, -, hpressure, -, hazimuth, hwidth, hheight,
    -, -, hscanTime, -⟩ := h
  have hcontact (contact : ℕ) : Allowed 1 (contactOps f contact) 1 _ :=
    .cons (.openLogical (by decide) (by decide)) <|
    .cons (.bit (by decide) (by decide) (by decide)) <| .cons .pad <|
    .cons (.integer (declared_of_validateField hidentifier) (by decide) (by decide) (by decide)) <|
    .cons (.integer (declared_of_validateField hx) (by decide) (by decide) (by decide)) <|
    .cons (.integer (declared_of_validateField hy) (by decide) (by decide) (by decide)) <|
    .cons .pad <|
    .cons (.optional (fun henabled => declared_of_validateField
      (not_not.mp (not_or.mp (not_and.mp hpressure henabled)).1)) (by decide) (by decide)) <|
    .cons .pad <|
    .cons (.optional (fun henabled => declared_of_validateField
      (eq_none_of_ite hwidth henabled)) (by decide) (by decide)) <| .cons .pad <|
    .cons (.optional (fun henabled => declared_of_validateField
      (eq_none_of_ite hheight henabled)) (by decide) (by decide)) <| .cons .pad <|
    .cons (.optional (fun henabled => declared_of_validateField
      (not_not.mp (not_or.mp (not_and.mp hazimuth henabled)).1)) (by decide) (by decide)) <|
    .cons (.close (by decide)) .nil
  have hcontacts : f.contactsPerReport.toNat ≤ 16 :=
    hf.contactsPerReport_le.trans hf.maximumContacts_le
  have hbuttons := hf.buttonCount_le
  have hbody : Allowed 1 (touchProgram applicationUsage f).body 1 _ :=
    .cons (.flatMap fun contact _ => hcontact contact) <| .cons .pad <|
    .cons (.optional (fun henabled => declared_of_validateField
      (not_not.mp (not_or.mp (not_and.mp hscanTime henabled)).1)) (by decide) (by decide)) <|
    .cons .pad <|
    .cons (.integer (declared_of_validateField hcount) (by decide) (by decide) (by decide)) <|
    .cons (.opsIf fun hpos => .range (by decide) (by omega) (by omega) (by decide)) <|
    .cons .pad .nil
  refine valid_of_allowed hbody ?_ (show Usage.pageDigitizers < 2 ^ 16 by decide) husage rfl rfl
    hf.reportId ?_
  · rw [List.length_range]
    omega
  · intro feature hfeature
    have hdeclared := declared_of_validateField hcount
    have hmaximum := hf.maximumContacts_le
    unfold touchProgram at hfeature
    dsimp only at hfeature
    split_ifs at hfeature
    cases hfeature
    have hpos := hdeclared.pos
    have hle := hdeclared.le
    exact ⟨show Usage.pageDigitizers < 2 ^ 16 by decide,
      show Usage.contactCountMaximum < 2 ^ 16 by decide, by norm_num,
      by dsimp only; omega, by dsimp only; omega, by dsimp only; omega⟩

theorem valid_penProgram {o : PenOptions} (h : checkPen o = none) : (penProgram o).Valid := by
  have ho := accepted_of_checkPen h
  simp only [checkPen, firstRefusal_cons_eq_none, firstRefusal_nil, refuse_eq_none,
    Option.map_eq_none_iff, and_true] at h
  obtain ⟨-, ⟨-, -, hx, hy, -⟩, ⟨hpressure, htilt, htwist⟩, -⟩ := h
  have hlength : (penBarrelUsages o).length ≤ 32 := ho.barrel_length_le
  have hpressureField (henabled : o.enablePressure = 1) : o.pressure.Declared := by
    have hfield := eq_none_of_ite hpressure henabled
    simp only [firstRefusal_cons_eq_none] at hfield
    exact declared_of_validateField hfield.1
  have htiltFields (henabled : o.enableTilt = 1) : o.tiltX.Declared ∧ o.tiltY.Declared := by
    have hfield := eq_none_of_ite htilt henabled
    simp only [firstRefusal_cons_eq_none] at hfield
    exact ⟨declared_of_validateField hfield.1, declared_of_validateField hfield.2.1⟩
  have hbody : Allowed 1 (penProgram o).body 1 _ :=
    .cons (.openPhysical (by decide) (by decide)) <|
    .cons (.opsIf fun _ => .bit (by decide) (by decide) (by decide)) <|
    .cons (.bit (by decide) (by decide) (by decide)) <|
    .cons (.bit (by decide) (by decide) (by decide)) <|
    .cons (.map fun index _ => .bit (by decide) ((penBarrelUsages o).get index).toNat_lt
      (by decide)) <| .cons .pad <|
    .cons (.integer (declared_of_validateField hx) (by decide) (by decide) (by decide)) <|
    .cons (.integer (declared_of_validateField hy) (by decide) (by decide) (by decide)) <|
    .cons .pad <| .cons (.optional hpressureField (by decide) (by decide)) <| .cons .pad <|
    .cons (.optional (fun henabled => (htiltFields henabled).1) (by decide) (by decide)) <|
    .cons (.optional (fun henabled => (htiltFields henabled).2) (by decide) (by decide)) <|
    .cons .pad <|
    .cons (.optional (fun henabled => declared_of_validateField
      (eq_none_of_ite htwist henabled)) (by decide) (by decide)) <| .cons .pad <|
    .cons (.close (by decide)) .nil
  refine valid_of_allowed hbody ?_ (show Usage.pageDigitizers < 2 ^ 16 by decide) ?_ rfl rfl
    ho.reportId (by rintro _ ⟨⟩)
  · rw [List.length_finRange]
    omega
  · unfold penProgram
    dsimp only
    split_ifs <;> decide

end LibaoaHid

import LibaoaHid.Profiles.Controls
import LibaoaHid.Api.NodeFits

/-!
# Neutral states and neutral reports

What it means that a report encodes a control as neutral: its bits are clear, an axis is at the
neutral value of its declaration, and a Hat is Null. A profile state for which
`has_non_neutral_state` is false has a report that is neutral in every control, and the state that
`make_neutral` leaves is such a state and stays one when its reports are delivered.

## Main definitions

* `NeutralReading`, `Control.NeutralIn`.

## Main results

* `neutralIn_of_carries`: the report of a neutral state.
* `hasNonNeutralState_makeNeutral`, `hasNonNeutralState_transferComplete_ok`.
-/

namespace LibaoaHid

/-! ### Neutral readings -/

/-- The neutral readings of a field: a Hat is outside its logical range, an axis is at its neutral
value, and everything else is zero. -/
def NeutralReading (config : SpecConfig) (field : FieldLayout) (value : ℤ) : Prop :=
  match field.semantic with
  | .hat => ¬(field.logicalMinimum ≤ value ∧ value ≤ field.logicalMaximum)
  | .gamepadAxis =>
    match config with
    | .gamepad c =>
      ∀ entry, c.axes[field.instanceIndex]? = some entry → value = entry.axis.neutralValue.toInt
    | _ => value = 0
  | _ => value = 0

/-- The report encodes the control as neutral. -/
def Control.NeutralIn (control : Control) (spec : Spec) (report : List UInt8) : Prop :=
  ∀ field ∈ spec.layout.fields, control.Covers spec.config field →
    NeutralReading spec.config field (fieldReading report field)

/-! ### Neutral states -/

section States

variable {node : Node}

theorem getD_of_anyPressed {buttons : List UInt8} (h : anyPressed buttons = false) (index : ℕ) :
    buttons.getD index 0 = 0 := by
  rw [List.getD_eq_getElem?_getD]
  cases hget : buttons[index]? with
  | none => rfl
  | some b =>
    have hmem := List.mem_of_getElem? hget
    by_contra hb
    have : anyPressed buttons = true := List.any_eq_true.mpr ⟨b, hmem, by simpa using hb⟩
    rw [h] at this
    simp at this

theorem anyPressed_releaseAll (buttons : List UInt8) : anyPressed (releaseAll buttons) = false := by
  simp [anyPressed, releaseAll]

/-- A button of a neutral state is up. -/
private theorem buttonValue_of_neutral (hfits : node.Fits) (h : hasNonNeutralState node = false)
    (index : ℕ) : buttonValue node.spec.config node.state index = 0 := by
  have hzero (buttons : List UInt8) (hbuttons : anyPressed buttons = false) :
      (if index < buttons.length then ((buttons.getD index 0).toNat : ℤ) else 0) = 0 := by
    rw [getD_of_anyPressed hbuttons index]
    split_ifs <;> rfl
  have hfitting := hfits.fitting
  unfold hasNonNeutralState at h
  generalize node.spec.kind = kind at hfitting
  generalize node.spec.config = config at hfitting h ⊢
  generalize node.state = state at hfitting h ⊢
  cases hfitting with
  | keyboard => rfl
  | mouse => exact hzero _ h
  | toggle => rfl
  | @gamepad c gamepad hc hs =>
    simp only [Bool.or_eq_false_iff] at h
    have hhat := hs.noDirection h.1.2
    have hbuttons := hzero _ h.2
    unfold buttonValue
    dsimp only at hbuttons ⊢
    split_ifs at hbuttons ⊢
    · exact hbuttons
    · rw [hhat]
      simp
    · rfl
  | touchscreen =>
    simp only [Bool.or_eq_false_iff] at h
    exact hzero _ h.2
  | touchpad =>
    simp only [Bool.or_eq_false_iff] at h
    exact hzero _ h.2
  | pen =>
    simp only [Bool.or_eq_false_iff, bne_eq_false_iff_eq] at h
    exact if_pos (Or.inr h.1.1.2)
  | battery => rfl

/-- A key of a neutral keyboard is up. -/
private theorem getD_bitmap_of_neutral {c : KeyboardConfig} {keyboard : KeyboardState}
    (hs : keyboard.Fits c.options) (hcount : keyboard.pressedBitmapCount = 0) (index : ℕ) :
    keyboard.pressedBitmap.getD index 0 = 0 := by
  rw [List.getD_eq_getElem?_getD]
  cases hget : keyboard.pressedBitmap[index]? with
  | none => rfl
  | some b =>
    have hzero := List.countP_eq_zero.mp (hs.count.symm.trans hcount) b (List.mem_of_getElem? hget)
    simpa using hzero

/-- A neutral touch state has no contact down. -/
theorem phase_ne_down {touch : TouchState}
    (h : touch.contacts.any (·.phase == .down) = false) {contact : ContactState}
    (hmem : contact ∈ touch.contacts) : contact.phase ≠ .down := by
  intro hdown
  have : touch.contacts.any (·.phase == .down) = true :=
    List.any_eq_true.mpr ⟨contact, hmem, by simp [hdown]⟩
  rw [h] at this
  simp at this

/-- The value selected for the Tip of a contact, when none is down. -/
private theorem tipValue_of_neutral {touch : TouchState}
    (h : touch.contacts.any (·.phase == .down) = false) (index : ℕ) :
    (match (collectTouch touch)[index]? with
      | some contact => if contact.phase = .down then 1 else 0
      | none => 0 : ℤ) = 0 := by
  cases hget : (collectTouch touch)[index]? with
  | none => rfl
  | some contact => exact if_neg (phase_ne_down h (mem_contacts_of_collectTouch hget).1)

/-- The one-bit controls of a neutral state are clear. -/
private theorem selectedValue_of_neutral (hfits : node.Fits) (h : hasNonNeutralState node = false)
    {field : FieldLayout} (hsemantic : field.semantic = .keyBitmap ∨ field.semantic = .modifier ∨
      field.semantic = .buttons ∨ field.semantic = .consumerUsage ∨ field.semantic = .inRange ∨
      field.semantic = .tip) :
    selectedValue node.spec.config node.state field = 0 := by
  have hbutton := buttonValue_of_neutral hfits h field.instanceIndex
  have hfitting := hfits.fitting
  unfold hasNonNeutralState at h
  generalize node.spec.kind = kind at hfitting
  generalize node.spec.config = config at hfitting h hbutton ⊢
  generalize node.state = state at hfitting h hbutton ⊢
  unfold selectedValue fieldValue
  rcases hsemantic with hsemantic | hsemantic | hsemantic | hsemantic | hsemantic | hsemantic <;>
    rw [hsemantic]
  · cases hfitting with
    | @keyboard c keyboard hc hs =>
      simp only [Bool.or_eq_false_iff, bne_eq_false_iff_eq] at h
      simp only [Option.map_some, Option.getD_some, getD_bitmap_of_neutral hs h.2]
      split_ifs <;> rfl
    | _ => rfl
  · cases hfitting with
    | keyboard =>
      simp only [Bool.or_eq_false_iff, bne_eq_false_iff_eq] at h
      simp [h.1]
    | _ => rfl
  · exact hbutton
  · cases hfitting with
    | @toggle c consumer hc hs =>
      rw [bne_eq_false_iff_eq] at h
      simp only [Option.map_some, Option.getD_some, h]
      exact if_neg fun hget => hc.zero_notMem (List.mem_of_getElem? hget)
    | _ => rfl
  · cases hfitting with
    | pen =>
      simp only [Bool.or_eq_false_iff, bne_eq_false_iff_eq] at h
      simp [h.1.1.1, h.1.1.2]
    | _ => rfl
  · cases hfitting with
    | touchscreen =>
      simp only [Bool.or_eq_false_iff] at h
      exact tipValue_of_neutral h.1 _
    | touchpad =>
      simp only [Bool.or_eq_false_iff] at h
      exact tipValue_of_neutral h.1 _
    | pen =>
      simp only [Bool.or_eq_false_iff, bne_eq_false_iff_eq] at h
      simp [h.1.1.1, h.1.2]
    | _ => rfl

/-- The axes of a neutral gamepad are at their neutral values. -/
private theorem axisValue_of_neutral {axes : List Int32} {c : GamepadConfig}
    (h : anyAxisMoved axes c = false) {index : ℕ} {entry : GamepadAxisConfig}
    (hlength : axes.length = c.axes.length) (hentry : c.axes[index]? = some entry) :
    axes.getD index 0 = entry.axis.neutralValue := by
  have hlt : index < axes.length := hlength ▸ (List.getElem?_eq_some_iff.mp hentry).1
  have hvalue := List.getElem?_eq_getElem hlt
  rw [List.getD_eq_getElem _ _ hlt]
  by_contra hne
  have hzip : (axes[index], entry) ∈ axes.zip c.axes :=
    List.mem_of_getElem? (List.getElem?_zip_eq_some.mpr ⟨hvalue, hentry⟩)
  have : anyAxisMoved axes c = true := List.any_eq_true.mpr ⟨_, hzip, by simpa using hne⟩
  rw [h] at this
  simp at this

private theorem neutralReading_of_axis (hfits : node.Fits) (h : hasNonNeutralState node = false)
    {field : FieldLayout} (hsemantic : field.semantic = .gamepadAxis) :
    NeutralReading node.spec.config field
      (selectedValue node.spec.config node.state field) := by
  have hfitting := hfits.fitting
  unfold hasNonNeutralState at h
  generalize node.spec.kind = kind at hfitting
  generalize node.spec.config = config at hfitting h ⊢
  generalize node.state = state at hfitting h ⊢
  unfold NeutralReading selectedValue fieldValue
  rw [hsemantic]
  cases hfitting with
  | @gamepad c gamepad hc hs =>
    simp only [Bool.or_eq_false_iff] at h
    intro entry hentry
    have hlt : field.instanceIndex < gamepad.axes.length :=
      hs.axes_length ▸ (List.getElem?_eq_some_iff.mp hentry).1
    simp only [Option.map_some, Option.getD_some, if_pos hlt,
      axisValue_of_neutral h.1.1 hs.axes_length hentry]
  | _ => rfl

/-- A Hat without a direction is Null. -/
private theorem hatValue_of_neutral (hfits : node.Fits) (h : hasNonNeutralState node = false)
    {field : FieldLayout} (hsemantic : field.semantic = .hat) :
    ∃ selected, fieldValue node.spec.config node.state field = some selected ∧
      selected.allowNull = true := by
  have hfitting := hfits.fitting
  unfold hasNonNeutralState at h
  generalize node.spec.kind = kind at hfitting
  generalize node.spec.config = config at hfitting h ⊢
  generalize node.state = state at hfitting h ⊢
  unfold fieldValue
  rw [hsemantic]
  refine ⟨⟨hatNull field, true⟩, ?_, rfl⟩
  cases hfitting with
  | gamepad =>
    simp only [Bool.or_eq_false_iff] at h
    simp [h.1.2]
  | _ => rfl

end States

/-- **The report of a neutral state is neutral in every control.** -/
theorem neutralIn_of_carries {node : Node} (hfits : node.Fits)
    (hreport : node.state.Reportable node.spec.config) (h : hasNonNeutralState node = false)
    {report : List UInt8} (hcarries : node.spec.Carries node.state report) (control : Control) :
    control.NeutralIn node.spec report := by
  intro field hmem hcovers
  have hread := hcarries.reading_of_fits hfits.sound hfits.state hreport hmem
  have hbit (hsemantic : field.semantic = .keyBitmap ∨ field.semantic = .modifier ∨
      field.semantic = .buttons ∨ field.semantic = .consumerUsage ∨ field.semantic = .inRange ∨
      field.semantic = .tip) :
    NeutralReading node.spec.config field (fieldReading report field) := by
    have hzero := selectedValue_of_neutral hfits h hsemantic
    rw [hread, hzero]
    unfold NeutralReading
    rcases hsemantic with hsemantic | hsemantic | hsemantic | hsemantic | hsemantic | hsemantic <;>
      rw [hsemantic]
  cases control with
  | key => exact hbit (Or.inl hcovers.1)
  | modifier => exact hbit (Or.inr (Or.inl hcovers.1))
  | button => exact hbit (Or.inr (Or.inr (Or.inl hcovers.1)))
  | dpad =>
    rcases hcovers with hsemantic | ⟨hsemantic, -⟩
    · obtain ⟨selected, hvalue, hnull⟩ := hatValue_of_neutral hfits h hsemantic
      have hout := hcarries.reading_null hfits.sound
        (serializable_of_fits hfits.sound hfits.state hreport) hmem hvalue hnull
      unfold NeutralReading
      rw [hsemantic]
      exact hout
    · exact hbit (Or.inr (Or.inr (Or.inl hsemantic)))
  | usage => exact hbit (Or.inr (Or.inr (Or.inr (Or.inl hcovers))))
  | axis =>
    rw [hread]
    exact neutralReading_of_axis hfits h hcovers.1
  | inRange => exact hbit (Or.inr (Or.inr (Or.inr (Or.inr (Or.inl hcovers)))))
  | tip => exact hbit (Or.inr (Or.inr (Or.inr (Or.inr (Or.inr hcovers)))))

/-! ### Making and keeping a neutral state -/

section Keeping

variable {node : Node}

/-- The neutral axes have not moved. -/
private theorem anyAxisMoved_neutral (axes : List Int32) (c : GamepadConfig) :
    anyAxisMoved ((axes.zip c.axes).map (·.2.axis.neutralValue)) c = false := by
  unfold anyAxisMoved
  rw [List.any_eq_false]
  intro entry hentry
  obtain ⟨index, hget⟩ := List.getElem?_of_mem hentry
  obtain ⟨haxis, hconfig⟩ := List.getElem?_zip_eq_some.mp hget
  rw [List.getElem?_map, Option.map_eq_some_iff] at haxis
  obtain ⟨pair, hpair, hvalue⟩ := haxis
  have hsame := (List.getElem?_zip_eq_some.mp hpair).2
  rw [hconfig] at hsame
  simp [← hvalue, Option.some.inj hsame]

/-- **`make_neutral` leaves a neutral state.** -/
theorem hasNonNeutralState_makeNeutral (hfits : node.Fits) :
    hasNonNeutralState (makeNeutral node) = false := by
  have hfitting := hfits.fitting
  unfold hasNonNeutralState makeNeutral neutralizeState
  dsimp only
  generalize node.spec.kind = kind at hfitting
  generalize node.spec.config = config at hfitting ⊢
  generalize node.state = state at hfitting ⊢
  have htouch (touch : TouchState) : ((neutralizeTouch touch).1.contacts.any (·.phase == .down) ||
      anyPressed (neutralizeTouch touch).1.buttons) = false := by
    rw [Bool.or_eq_false_iff]
    refine ⟨List.any_eq_false.mpr fun contact hmem => ?_, anyPressed_releaseAll _⟩
    obtain ⟨before, -, rfl⟩ := List.mem_map.mp hmem
    split_ifs with hdown <;> simp [hdown]
  cases hfitting with
  | keyboard => rfl
  | mouse => exact anyPressed_releaseAll _
  | toggle => rfl
  | @gamepad c gamepad =>
    simp only [neutralizeGamepad, anyAxisMoved_neutral, anyPressed_releaseAll, Bool.or_false]
  | touchscreen => exact htouch _
  | touchpad => exact htouch _
  | pen => rfl
  | battery => rfl

/-- A target that may hold something makes the neutral state pending. -/
theorem dirty_makeNeutral (hfits : node.Fits) (hkind : node.spec.kind ≠ .battery)
    (hemitted : node.emittedNonNeutral = true) : (makeNeutral node).dirty = true := by
  have hraw : node.spec.kind ≠ .raw := by
    have hfitting := hfits.fitting
    generalize node.spec.kind = kind at hfitting ⊢
    generalize node.spec.config = config at hfitting
    generalize node.state = state at hfitting
    cases hfitting <;> simp
  unfold makeNeutral
  simp [hemitted, hraw, hkind]

/-- The completion of a report that may have been applied. -/
theorem transferComplete_of_applied {result : Result} {nativeStatus : ℤ}
    (h : mayHaveApplied result nativeStatus = true) :
    transferComplete node result nativeStatus =
      Node.publishCompletion { node with
        state :=
          if result ≠ .ok ∨ (completeState node result).lifecycleReportComplete = true then
            consumeLifecycleTransitions (completeState node result).state
          else (completeState node result).state
        dirty := (completeState node result).dirty
        emittedNonNeutral :=
          if result = .ok then node.submittedNonNeutral
          else node.emittedNonNeutral || node.submittedNonNeutral } result nativeStatus := by
  unfold transferComplete
  rw [if_pos h]

/-- The Node with another profile state. -/
private def Node.withState (node : Node) (state : NodeState) : Node := { node with state }

/-- Edge guards hold nothing. -/
private theorem hasNonNeutralState_consume (state : NodeState) :
    hasNonNeutralState (node.withState (consumeLifecycleTransitions state)) =
      hasNonNeutralState (node.withState state) := by
  cases state with
  | touch touch =>
    simp only [hasNonNeutralState, Node.withState, consumeLifecycleTransitions, List.any_map]
    rfl
  | _ => rfl

/-- The end of a frame puts no contact down. -/
private theorem any_down_finishFrame (touch : TouchState)
    (h : touch.contacts.any (·.phase == .down) = false) :
    (finishFrame touch).contacts.any (·.phase == .down) = false := by
  refine List.any_eq_false.mpr fun contact hmem => ?_
  obtain ⟨before, hbefore, rfl⟩ := List.mem_map.mp hmem
  have hbefore := phase_ne_down h hbefore
  split_ifs
  · simp
  · simpa using hbefore

private theorem hasNonNeutralState_completeState (h : hasNonNeutralState node = false) :
    hasNonNeutralState (node.withState (completeState node .ok).state) = false := by
  unfold completeState
  split
  next mouse hs =>
    simp only [hasNonNeutralState, hs] at h
    exact h
  next touch hs =>
    simp only [hasNonNeutralState, hs, Bool.or_eq_false_iff] at h
    rw [if_pos rfl]
    split_ifs
    · exact Bool.or_eq_false_iff.mpr ⟨any_down_finishFrame touch h.1, h.2⟩
    · exact Bool.or_eq_false_iff.mpr h
  next pen hs =>
    simp only [hasNonNeutralState, hs, Bool.or_eq_false_iff] at h
    rw [if_pos rfl, if_neg (by simp [h.1.1.1])]
    simp only [hasNonNeutralState, Node.withState, Bool.or_eq_false_iff]
    exact h
  · exact h

/-- A delivered report leaves a neutral state neutral. -/
theorem hasNonNeutralState_transferComplete_ok (h : hasNonNeutralState node = false)
    {nativeStatus : ℤ} (hnative : 0 ≤ nativeStatus) :
    hasNonNeutralState (transferComplete node .ok nativeStatus) = false := by
  have happlied : mayHaveApplied .ok nativeStatus = true := by simp [mayHaveApplied, hnative]
  have hcompleted := hasNonNeutralState_completeState h
  rw [transferComplete_of_applied happlied]
  by_cases hcomplete : (completeState node .ok).lifecycleReportComplete = true
  · rw [if_pos (Or.inr hcomplete)]
    exact (hasNonNeutralState_consume _).trans hcompleted
  · rw [if_neg (by simp [hcomplete])]
    exact hcompleted

end Keeping

end LibaoaHid

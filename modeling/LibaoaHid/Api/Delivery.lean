import LibaoaHid.Api.Frames

/-!
# No update is lost

As long as every accepted report is delivered or refused, the other side is up to date whenever
the Node is idle and has nothing pending: the last delivered report shows the state of the Node in
every absolute field, and the contacts that the packets have put down are the contacts of the
Node.

A Node that is clean has not changed since its last delivered report, because a call that leaves
it clean leaves its state as it is.

## Main definitions

* `FieldLayout.IsAbsolute`, `NodeState.shown`: what a state says in a field.
* `lastRecord`: the last contact record with an ID.

## Main results

* `CallStep.eq_of_unchanged`: a call that does not make the Node dirty changes nothing.
* `updates_delivered`.
-/

namespace LibaoaHid

open Relation

/-! ### What a state says -/

/-- A field that tells a state, and not a motion or the shape of a frame. -/
def FieldLayout.IsAbsolute (config : SpecConfig) (field : FieldLayout) : Prop :=
  match config with
  | .mouse _ | .touch _ => field.semantic = .buttons
  | _ => field.semantic ≠ .constantPadding

theorem FieldLayout.IsAbsolute.ne_padding {config : SpecConfig} {field : FieldLayout}
    (h : field.IsAbsolute config) : field.semantic ≠ .constantPadding := by
  unfold IsAbsolute at h
  cases config with
  | mouse | touch => simp [show field.semantic = .buttons from h]
  | _ => exact h

/-- The value of a pen in a field. A pen that is away has no tool and no buttons, and one that
does not touch has no pressure; one that touches has at least pressure one. -/
def PenSample.shown (sample : PenSample) (semantic : FieldSemantic) (index : ℕ) : ℤ :=
  match semantic with
  | .inRange => sample.inRange.toNat
  | .tip => sample.tip.toNat
  | .eraser => if sample.inRange = 0 then 0 else sample.eraser.toNat
  | .buttons => if sample.inRange = 0 then 0 else bitOf sample.barrelButtons.toNat index
  | .x => sample.x.toInt
  | .y => sample.y.toInt
  | .pressure => if sample.tip = 0 then 0 else max sample.pressure.toInt 1
  | .tiltX => sample.tiltX.toInt
  | .tiltY => sample.tiltY.toInt
  | .twist => sample.twist.toInt
  | _ => 0

/-- What a profile state says in an absolute field. -/
def NodeState.shown (config : SpecConfig) (state : NodeState) (field : FieldLayout) : ℤ :=
  match state with
  | .keyboard s =>
    match field.semantic with
    | .modifier => bitOf s.modifiers.toNat field.instanceIndex
    | .keyBitmap => (s.pressedBitmap.getD field.instanceIndex 0).toNat
    | _ => 0
  | .mouse s => (s.buttons.getD field.instanceIndex 0).toNat
  | .consumer s =>
    match config with
    | .consumer c => if c.allowedUsages[field.instanceIndex]? = some s.usage then 1 else 0
    | _ => 0
  | .gamepad s =>
    match field.semantic with
    | .buttons =>
      if field.instanceIndex < s.buttons.length then (s.buttons.getD field.instanceIndex 0).toNat
      else s.hat / 2 ^ (field.instanceIndex - s.buttons.length) % 2
    | .gamepadAxis => (s.axes.getD field.instanceIndex 0).toInt
    | .hat => if s.hatHasDirection then s.hat else hatNull field
    | _ => 0
  | .touch s => (s.buttons.getD field.instanceIndex 0).toNat
  | .pen s => s.desired.shown field.semantic field.instanceIndex
  | .battery s => if s.hasValue then s.strength.toInt else hatNull field
  | .raw => 0

/-- A pen that has said everything: it is where it was last shown. -/
def NodeState.Settled : NodeState → Prop
  | .pen s => s.emitted = s.desired ∧ s.toolSwitchDeparture = false
  | _ => True

/-- A pen between its departure and its return, which shows something else. -/
def NodeState.IsDeparting : NodeState → Prop
  | .pen s => s.toolSwitchDeparture = true
  | _ => False

section Shown

variable {kind : ProfileKind} {config : SpecConfig} {state : NodeState} {field : FieldLayout}

/-- The button of a byte list reads as its entry. -/
private theorem getD_ite (buttons : List UInt8) (index : ℕ) :
    (if index < buttons.length then ((buttons.getD index 0).toNat : ℤ) else 0) =
      (buttons.getD index 0).toNat := by
  split_ifs with h
  · rfl
  · rw [List.getD_eq_default _ _ (not_lt.mp h)]
    rfl

/-- A button field of bytes. -/
private theorem selectedValue_button (hsemantic : field.semantic = .buttons) :
    selectedValue config state field = buttonValue config state field.instanceIndex := by
  unfold selectedValue fieldValue
  rw [hsemantic]
  rfl

private theorem selectedValue_gamepad {c : GamepadConfig} {s : GamepadState} (hs : s.Fits c)
    (hdecl : field.decl ∈ (SpecConfig.gamepad c).declaredFields) :
    selectedValue (.gamepad c) (.gamepad s) field =
      NodeState.shown (.gamepad c) (.gamepad s) field := by
  have hlength := hs.buttons.length
  simp only [SpecConfig.declaredFields, List.mem_append, mem_bitDecls] at hdecl
  unfold NodeState.shown
  rcases hdecl with (⟨index, hindex, hd⟩ | hd) | hd
  · have hsemantic : field.semantic = .buttons := congrArg FieldDecl.semantic hd
    have hinstance : field.instanceIndex = index := congrArg FieldDecl.instanceIndex hd
    have hlt : index < s.buttons.length := hlength ▸ hindex
    rw [selectedValue_button hsemantic, hsemantic, hinstance]
    simp only [buttonValue, hlt, if_true]
  · unfold dpadDecls at hd
    split_ifs at hd with hhat hbuttons
    · have hsemantic : field.semantic = .hat :=
        congrArg FieldDecl.semantic (List.mem_singleton.mp hd)
      unfold selectedValue fieldValue
      rw [hsemantic]
      cases hdirection : s.hatHasDirection <;> simp [hdirection]
    · obtain ⟨index, hindex, hd⟩ := List.mem_map.mp hd
      have hindex := List.mem_range.mp hindex
      have hsemantic : field.semantic = .buttons := congrArg FieldDecl.semantic hd.symm
      have hinstance : field.instanceIndex = c.options.buttonCount.toNat + index :=
        congrArg FieldDecl.instanceIndex hd.symm
      rw [selectedValue_button hsemantic, hsemantic, hinstance]
      simp [buttonValue, hlength, hbuttons, hindex]
    · simp at hd
  · obtain ⟨entry, hentry, hd⟩ := List.mem_map.mp hd
    have hsemantic : field.semantic = .gamepadAxis := congrArg FieldDecl.semantic hd.symm
    unfold selectedValue fieldValue
    rw [hsemantic]
    simp only [Option.map_some, Option.getD_some]
    split_ifs with hlt
    · rfl
    · rw [List.getD_eq_default _ _ (not_lt.mp hlt)]
      rfl

/-- The semantics of a pen. -/
private theorem declared_pen {c : PenConfig}
    (hdecl : field.decl ∈ (SpecConfig.pen c).declaredFields) :
    field.semantic ∈ [.eraser, .tip, .inRange, .buttons, .x, .y, .pressure, .tiltX, .tiltY,
      .twist] := by
  simp only [SpecConfig.declaredFields, List.mem_append, List.mem_cons, List.not_mem_nil,
    or_false, mem_bitDecls, mem_optionalDecl] at hdecl
  rcases hdecl with (((((((hd | hd | hd) | ⟨index, -, hd⟩) | hd | hd) | ⟨-, hd⟩) | ⟨-, hd⟩) |
    ⟨-, hd⟩) | ⟨-, hd⟩)
  · split_ifs at hd
    · have hsemantic : field.semantic = .eraser :=
        congrArg FieldDecl.semantic (List.mem_singleton.mp hd)
      simp [hsemantic]
    · simp at hd
  all_goals
    have hsemantic := congrArg FieldDecl.semantic hd
    simp only [FieldLayout.decl, bitDecl, integerDecl] at hsemantic
    simp [hsemantic]

private theorem selectedValue_pen {c : PenConfig} {pen : PenState}
    (hdecl : field.decl ∈ (SpecConfig.pen c).declaredFields)
    (hstays : pen.toolSwitchDeparture = false) :
    selectedValue (.pen c) (.pen pen) field = NodeState.shown (.pen c) (.pen pen) field := by
  have hsemantics := declared_pen hdecl
  unfold selectedValue fieldValue NodeState.shown PenSample.shown
  simp only [List.mem_cons, List.not_mem_nil, or_false] at hsemantics
  rcases hsemantics with h | h | h | h | h | h | h | h | h | h <;>
    simp [h, hstays, buttonValue, penValue]

/-- The serializer selects what the state says. -/
theorem selectedValue_eq_shown (hfitting : Fitting kind config state)
    (hdecl : field.decl ∈ config.declaredFields) (habsolute : field.IsAbsolute config)
    (hstays : ¬state.IsDeparting) :
    selectedValue config state field = state.shown config field := by
  cases hfitting with
  | keyboard =>
    simp only [SpecConfig.declaredFields, List.mem_append, mem_bitDecls] at hdecl
    unfold selectedValue fieldValue NodeState.shown
    rcases hdecl with ⟨index, -, hd⟩ | ⟨index, -, hd⟩
    · have hsemantic : field.semantic = .modifier := congrArg FieldDecl.semantic hd
      rw [hsemantic]
      rfl
    · have hsemantic : field.semantic = .keyBitmap := congrArg FieldDecl.semantic hd
      rw [hsemantic]
      exact getD_ite _ _
  | mouse | touchscreen | touchpad =>
    rw [selectedValue_button habsolute]
    exact getD_ite _ _
  | toggle =>
    obtain ⟨index, -, hd⟩ := mem_bitDecls.mp hdecl
    have hsemantic : field.semantic = .consumerUsage := congrArg FieldDecl.semantic hd
    unfold selectedValue fieldValue NodeState.shown
    rw [hsemantic]
    rfl
  | gamepad _ hs => exact selectedValue_gamepad hs hdecl
  | pen => exact selectedValue_pen hdecl (by simpa [NodeState.IsDeparting] using hstays)
  | @battery c s =>
    have hsemantic : field.semantic = .batteryStrength :=
      congrArg FieldDecl.semantic (List.mem_singleton.mp hdecl)
    unfold selectedValue fieldValue NodeState.shown
    rw [hsemantic]
    cases hvalue : s.hasValue <;> simp [hvalue]

end Shown

/-! ### Calls that change nothing -/

section Calls

variable {config : SpecConfig} {call : Call} {state state' : NodeState} {changed : Bool}

private theorem eq_of_addChecked_zero {total next : ℤ} (h : addChecked total 0 = some next) :
    next = total := by
  unfold addChecked at h
  split_ifs at h
  cases h
  simp

private theorem set_self {α : Type} {l : List α} {i : ℕ} {x : α} (h : l[i]? = some x) :
    l.set i x = l := by
  refine List.ext_getElem? fun j => ?_
  by_cases hij : i = j
  · subst hij
    rw [h, List.getElem?_set_self (List.getElem?_eq_some_iff.mp h).1]
  · rw [List.getElem?_set_ne hij]

theorem PressStep.eq_of_unchanged {values transitions values' transitions' : List UInt8}
    (h : PressStep values transitions values' transitions' changed) (hchanged : changed = false) :
    values' = values ∧ transitions' = transitions := by
  cases h with
  | keep => exact ⟨rfl, rfl⟩
  | press => cases hchanged

/-- A call that does not make the Node dirty changes nothing. -/
theorem CallStep.eq_of_unchanged (h : CallStep config call state state' changed)
    (hchanged : changed = false) (hsettled : state.Settled) : state' = state := by
  cases h with
  | keep => rfl
  | mouseMove hdx hdy =>
    simp only [Bool.or_eq_false_iff, bne_eq_false_iff_eq] at hchanged
    obtain ⟨rfl, rfl⟩ := hchanged
    rw [eq_of_addChecked_zero hdx, eq_of_addChecked_zero hdy]
  | mouseScroll _ _ hwheel hpan =>
    simp only [Bool.or_eq_false_iff, bne_eq_false_iff_eq] at hchanged
    obtain ⟨rfl, rfl⟩ := hchanged
    rw [eq_of_addChecked_zero hwheel, eq_of_addChecked_zero hpan]
  | mouseButton hpress | gamepadButton hpress | touchpadButton _ hpress =>
    obtain ⟨rfl, rfl⟩ := hpress.eq_of_unchanged hchanged
    rfl
  | @gamepadSetAxis c gamepad index value entry hindex =>
    rw [bne_eq_false_iff_eq, List.getD_eq_getElem _ _ hindex] at hchanged
    rw [set_self (by rw [List.getElem?_eq_getElem hindex, hchanged])]
  | move slot contact hslot _ _ hcursor _ hsame =>
    rw [← hsame.resolve_left (by simp [hchanged]), ← hcursor, set_self hslot]
  | @penUpdate c pen sample =>
    rw [bne_eq_false_iff_eq] at hchanged
    obtain ⟨hemitted, hstays⟩ := hsettled
    subst hchanged
    rw [recordPenTransitions_self, hemitted, bne_self_eq_false, Bool.and_false, ← hstays]
  | @penDepart c pen =>
    rw [bne_eq_false_iff_eq] at hchanged
    rw [← hchanged, recordPenTransitions_self, ← hsettled.2]
  | @batteryUpdate c battery hasValue strength =>
    simp only [Bool.or_eq_false_iff, bne_eq_false_iff_eq] at hchanged
    rw [← hchanged.1, ← hchanged.2]
  | _ => cases hchanged

end Calls

/-! ### Completions -/

section Completions

variable {node : Node} {nativeStatus : ℤ}

/-- Behind a delivered report that leaves the Node clean, the state says what the report said. -/
theorem shown_transferComplete (config : SpecConfig) (hnative : 0 ≤ nativeStatus)
    (hclean : (transferComplete node .ok nativeStatus).dirty = false) :
    ¬node.state.IsDeparting ∧ (transferComplete node .ok nativeStatus).state.Settled ∧
      ∀ field : FieldLayout, (transferComplete node .ok nativeStatus).state.shown config field =
        node.state.shown config field := by
  rw [transferComplete_of_applied (by simp [mayHaveApplied, hnative])] at hclean ⊢
  simp only [Node.publishCompletion, ne_eq, not_true_eq_false, false_or] at hclean ⊢
  unfold completeState at hclean ⊢
  cases hstate : node.state with
  | touch touch =>
    simp only [hstate, if_true] at hclean ⊢
    by_cases hfinal : node.submittedTouchFinalPacket = true
    · simp only [hfinal, if_true]
      exact ⟨id, trivial, fun _ => rfl⟩
    · simp [hfinal] at hclean
  | pen pen =>
    simp only [hstate, if_true] at hclean ⊢
    cases hdeparture : pen.toolSwitchDeparture with
    | true => simp [hdeparture] at hclean
    | false =>
      simp only [Bool.false_eq_true, if_false, if_true]
      exact ⟨by simp [NodeState.IsDeparting, hdeparture], ⟨rfl, rfl⟩, fun _ => rfl⟩
  | _ => exact ⟨id, trivial, fun _ => rfl⟩

end Completions

/-! ### The last delivered report -/

/-- The last report that was delivered. -/
def lastDelivered (wire : List Transmission) : Option Transmission :=
  (wire.filter fun t => t.result = .ok).getLast?

theorem lastDelivered_append (wire : List Transmission) (t : Transmission) :
    lastDelivered (wire ++ [t]) = if t.result = .ok then some t else lastDelivered wire := by
  unfold lastDelivered
  rw [List.filter_append]
  split_ifs with h
  · simp [h]
  · simp [h]

/-- A clean Node is as its last delivered report shows it; without one it is as it was opened. -/
structure System.Delivered (initial : NodeState) (s : System) : Prop where
  settled : s.node.dirty = false → s.node.state.Settled
  unseen : s.node.dirty = false → lastDelivered s.wire = none → s.node.state = initial
  seen : s.node.dirty = false → ∀ t, lastDelivered s.wire = some t →
    ∀ field ∈ s.node.spec.layout.fields, field.IsAbsolute s.node.spec.config →
      fieldReading t.report field = s.node.state.shown s.node.spec.config field

namespace System.Delivered

variable {initial : NodeState} {s s' : System}

theorem call (h : s.Delivered initial) (hfits : s.Fits) (c : Call) (link : Link) :
    (s.call c link).2.Delivered initial := by
  unfold System.call
  rcases c.perform_cases hfits.node.fitting link with
    ⟨reply, -, heq⟩ | ⟨state, changed, -, hstep, heq⟩
  · rw [heq]
    exact h
  · rw [heq]
    have hsame (hclean : (s.node.dirty || changed) = false) :
        s.node.dirty = false ∧ state = s.node.state := by
      rw [Bool.or_eq_false_iff] at hclean
      exact ⟨hclean.1, hstep.eq_of_unchanged hclean.2 (h.settled hclean.1)⟩
    refine ⟨fun hclean => ?_, fun hclean => ?_, fun hclean => ?_⟩ <;>
      obtain ⟨hbefore, rfl⟩ := hsame hclean
    · exact h.settled hbefore
    · exact h.unseen hbefore
    · exact h.seen hbefore

theorem report (h : s.Delivered initial) (hfits : s.Fits) (hmove : ReportMove s s')
    (hallowed : ∀ t ∈ s'.wire.drop s.wire.length, t.result = .ok ∨ t.result = .errStall) :
    s'.Delivered initial := by
  cases hmove with
  | pause hsame =>
    refine ⟨?_, ?_, ?_⟩ <;> dsimp only <;> rw [hsame.dirty, hsame.state]
    · exact h.settled
    · exact h.unseen
    · rw [hsame.spec]
      exact h.seen
  | @send now report hcallable hdirty =>
    have hnot {P : Prop} (hclean : (s.node.sent now).dirty = false) : P := by
      rw [Node.sent_dirty, hdirty] at hclean
      simp at hclean
    exact ⟨hnot, hnot, hnot⟩
  | @finish report result nativeStatus hinflight hnative =>
    have hresult : result = .ok ∨ result = .errStall := by simpa using hallowed
    rcases hresult with rfl | rfl
    · have hspec := (transferComplete_spec_dirty s.node .ok nativeStatus).1
      refine ⟨fun hclean => (shown_transferComplete s.node.spec.config hnative hclean).2.1,
        fun _ hnone => ?_, fun hclean t ht field hmem habsolute => ?_⟩
      · rw [lastDelivered_append] at hnone
        simp at hnone
      · obtain ⟨hstays, -, hshown⟩ := shown_transferComplete s.node.spec.config hnative hclean
        rw [lastDelivered_append, if_pos rfl] at ht
        cases ht
        dsimp only at hmem habsolute ⊢
        rw [hspec] at hmem habsolute ⊢
        have hdirty := hfits.dirty (by rw [hinflight]; rfl)
        have hdecl := ReportLayout.decl_mem_declared hmem habsolute.ne_padding
        rw [hfits.node.sound.declared] at hdecl
        rw [hshown, ← selectedValue_eq_shown hfits.node.fitting hdecl habsolute hstays]
        exact (hfits.carries report hinflight).reading_of_fits hfits.node.sound hfits.node.state
          (hfits.node.reportable (Or.inl hdirty)) hmem
    · have hnot {P : Prop}
          (hclean : (transferComplete s.node .errStall nativeStatus).dirty = false) : P := by
        rw [(transferComplete_stall s.node nativeStatus).2] at hclean
        simp at hclean
      exact ⟨hnot, hnot, hnot⟩

theorem run (h : s.Delivered initial) (hfits : s.Fits) (events : List Event)
    (hopen : ∀ e ∈ events, e.isClose = false)
    (hresults : ∀ t ∈ (s.run events).wire, t.result = .ok ∨ t.result = .errStall) :
    (s.run events).Delivered initial := by
  have hrun := run_invariant
    (P := fun s => (∀ t ∈ s.wire, t.result = .ok ∨ t.result = .errStall) → s.Delivered initial)
    (fun s hfits h c link hall => (h hall).call hfits c link)
    (fun s s' hfits h hmove hall =>
      (h fun t ht => hall t (hmove.wire_prefix.subset ht)).report hfits hmove
        fun t ht => hall t (List.mem_of_mem_drop ht))
    events hopen hfits (fun _ => h)
  exact hrun.2 hresults

end System.Delivered

/-- A new Node has delivered nothing. -/
theorem System.delivered_opened {spec : Spec} {hidId : ℕ} {s : System}
    (h : System.opened spec hidId = some s) : s.Delivered s.node.state := by
  have hwire := (System.eq_of_opened h).2
  refine ⟨fun _ => ?_, fun _ _ => rfl, fun _ t ht => ?_⟩
  · obtain ⟨node, hnode, rfl⟩ := Option.map_eq_some_iff.mp h
    obtain ⟨state, hstate, rfl⟩ := Option.map_eq_some_iff.mp hnode
    unfold initializeNodeState at hstate
    split at hstate <;> cases hstate <;> trivial
  · rw [hwire] at ht
    cases ht

/-! ### New Nodes -/

private theorem neutralReading_zero {config : SpecConfig} {field : FieldLayout}
    (hhat : field.semantic ≠ .hat) (haxis : field.semantic ≠ .gamepadAxis) :
    NeutralReading config field 0 := by
  unfold NeutralReading
  cases hsemantic : field.semantic <;> first | rfl | contradiction

private theorem getD_replicate_zero (count index : ℕ) :
    ((List.replicate count (0 : UInt8)).getD index 0) = 0 := by
  rw [List.getD_eq_getElem?_getD, List.getElem?_replicate]
  split_ifs <;> rfl

/-- A new gamepad says that it is neutral. -/
private theorem neutralReading_gamepad {c : GamepadConfig} {field : FieldLayout}
    (hdecl : field.decl ∈ (SpecConfig.gamepad c).declaredFields)
    (hnull : field.hasNullState = true → ¬(field.logicalMinimum ≤ hatNull field ∧
      hatNull field ≤ field.logicalMaximum)) (transitions : List UInt8) :
    NeutralReading (.gamepad c) field (NodeState.shown (.gamepad c) (.gamepad
      { axes := c.axes.map (·.axis.neutralValue)
        buttons := List.replicate c.options.buttonCount.toNat 0
        buttonTransitions := transitions }) field) := by
  have hbutton (hsemantic : field.semantic = .buttons) :
      NeutralReading (.gamepad c) field (NodeState.shown (.gamepad c) (.gamepad
        { axes := c.axes.map (·.axis.neutralValue)
          buttons := List.replicate c.options.buttonCount.toNat 0
          buttonTransitions := transitions }) field) := by
    unfold NodeState.shown
    rw [hsemantic]
    dsimp only
    rw [getD_replicate_zero]
    simp only [UInt8.toNat_zero, Nat.cast_zero, Int.zero_ediv, Int.zero_emod, ite_self]
    exact neutralReading_zero (by simp [hsemantic]) (by simp [hsemantic])
  simp only [SpecConfig.declaredFields, List.mem_append, mem_bitDecls] at hdecl
  rcases hdecl with (⟨index, -, hd⟩ | hd) | hd
  · exact hbutton (congrArg FieldDecl.semantic hd)
  · unfold dpadDecls at hd
    split_ifs at hd with hhat hbuttons
    · obtain ⟨hsemantic, -, -, -, hdeclared⟩ := FieldLayout.eq_of_decl (List.mem_singleton.mp hd)
      unfold NeutralReading NodeState.shown
      rw [show field.semantic = .hat from hsemantic]
      exact hnull hdeclared
    · obtain ⟨index, -, hd⟩ := List.mem_map.mp hd
      exact hbutton (congrArg FieldDecl.semantic hd.symm)
    · simp at hd
  · obtain ⟨entry, hentry, hd⟩ := List.mem_map.mp hd
    have hsemantic : field.semantic = .gamepadAxis := congrArg FieldDecl.semantic hd.symm
    unfold NeutralReading NodeState.shown
    rw [hsemantic]
    intro declared hdeclared
    dsimp only
    rw [List.getD_eq_getElem?_getD, List.getElem?_map, hdeclared]
    rfl

/-- A new Node says in every absolute field that it is neutral, except that a battery is unknown. -/
theorem neutralReading_initial {spec : Spec} {state : NodeState} (hsound : spec.Sound)
    (hinitial : initializeNodeState spec = some state) (hfits : state.Fits spec.config)
    {field : FieldLayout} (hmem : field ∈ spec.layout.fields)
    (habsolute : field.IsAbsolute spec.config) (hkind : spec.kind ≠ .battery) :
    NeutralReading spec.config field (state.shown spec.config field) := by
  have hdecl := ReportLayout.decl_mem_declared hmem habsolute.ne_padding
  have hnull := (hsound.layout.fields field hmem).null
  rw [hsound.declared] at hdecl
  have hfitting := hsound.accepted.fitting hfits
  unfold initializeNodeState at hinitial
  generalize spec.kind = kind at hfitting hinitial hkind
  generalize spec.config = config at hfitting hinitial hdecl habsolute ⊢
  have hbuttons (count : ℕ) (hsemantic : field.semantic = .buttons) :
      NeutralReading config field
        (((List.replicate count (0 : UInt8)).getD field.instanceIndex 0).toNat : ℤ) := by
    rw [getD_replicate_zero]
    exact neutralReading_zero (by simp [hsemantic]) (by simp [hsemantic])
  cases hfitting with
  | @keyboard c =>
    cases hinitial
    have hsemantic : field.semantic = .modifier ∨ field.semantic = .keyBitmap := by
      simp only [SpecConfig.declaredFields, List.mem_append, mem_bitDecls] at hdecl
      rcases hdecl with ⟨index, -, hd⟩ | ⟨index, -, hd⟩
      · exact Or.inl (congrArg FieldDecl.semantic hd)
      · exact Or.inr (congrArg FieldDecl.semantic hd)
    unfold NodeState.shown
    rcases hsemantic with hsemantic | hsemantic <;> rw [hsemantic] <;> dsimp only
    · rw [show bitOf ({} : KeyboardState).modifiers.toNat field.instanceIndex = 0 by
        simp [bitOf]]
      exact neutralReading_zero (by simp [hsemantic]) (by simp [hsemantic])
    · rw [getD_replicate_zero]
      exact neutralReading_zero (by simp [hsemantic]) (by simp [hsemantic])
  | mouse | touchscreen | touchpad =>
    cases hinitial
    exact hbuttons _ habsolute
  | @toggle c _ hc =>
    cases hinitial
    obtain ⟨index, -, hd⟩ := mem_bitDecls.mp hdecl
    have hsemantic : field.semantic = .consumerUsage := congrArg FieldDecl.semantic hd
    unfold NodeState.shown
    dsimp only
    rw [if_neg fun h => hc.zero_notMem (List.mem_of_getElem? h)]
    exact neutralReading_zero (by simp [hsemantic]) (by simp [hsemantic])
  | gamepad =>
    cases hinitial
    exact neutralReading_gamepad hdecl (fun h => (hnull h).2) _
  | @pen c =>
    cases hinitial
    have hplain : field.semantic ≠ .hat ∧ field.semantic ≠ .gamepadAxis := by
      have := declared_pen hdecl
      constructor <;> rintro hsemantic <;> simp [hsemantic] at this
    have hzero : NodeState.shown (.pen c) (.pen {}) field = 0 := by
      unfold NodeState.shown PenSample.shown
      cases field.semantic <;> simp
    rw [hzero]
    exact neutralReading_zero hplain.1 hplain.2
  | battery => exact absurd rfl hkind

/-! ### Contacts -/

/-- The last contact record with an ID in a list of packets. -/
def lastRecord (packets : List TouchPacket) (contactId : ℤ) : Option ContactRecord :=
  ((packets.flatMap (·.records)).filter fun r => r.contactId = contactId).getLast?

section LastRecord

variable {f : TouchFields} {touch : TouchState} {result : Result} {contact : ContactState}

/-- A packet without the ID leaves its last record. -/
theorem lastRecord_append_of_notMem {packets : List TouchPacket} {packet : TouchPacket}
    {contactId : ℤ} (h : ∀ r ∈ packet.records, r.contactId ≠ contactId) :
    lastRecord (packets ++ [packet]) contactId = lastRecord packets contactId := by
  have hnil : packet.records.filter (fun r => r.contactId = contactId) = [] :=
    List.filter_eq_nil_iff.mpr fun r hr => by simpa using h r hr
  unfold lastRecord
  rw [List.flatMap_append, List.filter_append, List.flatMap_singleton, hnil, List.append_nil]

/-- The packet of a state shows the contacts that it carries. -/
theorem lastRecord_packet (hfits : touch.Fits f) (packets : List TouchPacket)
    (hmem : contact ∈ touch.packetContacts f) :
    lastRecord (packets ++ [touch.packet f result]) (contact.record f).contactId =
      some (contact.record f) := by
  have hall : ∀ r ∈ (touch.packet f result).records.filter
      (fun r => r.contactId = (contact.record f).contactId), r = contact.record f := by
    intro r hr
    obtain ⟨hr, hid⟩ := List.mem_filter.mp hr
    obtain ⟨other, hother, rfl⟩ := List.mem_map.mp hr
    obtain ⟨i, -, -, hi⟩ := mem_packetContacts.mp hother
    obtain ⟨j, -, -, hj⟩ := mem_packetContacts.mp hmem
    have hsame := hfits.index_unique hi hj (contactId_record_eq.mp (by simpa using hid))
    subst hsame
    rw [Option.some.inj (hi.symm.trans hj)]
  have hne : (touch.packet f result).records.filter
      (fun r => r.contactId = (contact.record f).contactId) ≠ [] := by
    refine List.ne_nil_of_mem (a := contact.record f) (List.mem_filter.mpr ⟨?_, by simp⟩)
    exact List.mem_map.mpr ⟨contact, hmem, rfl⟩
  unfold lastRecord
  rw [List.flatMap_append, List.filter_append, List.flatMap_singleton,
    List.getLast?_append_of_ne_nil _ hne, List.getLast?_eq_getLast_of_ne_nil hne]
  exact congrArg some (hall _ (List.getLast_mem hne))

end LastRecord

/-- The contacts that the packets show: those that are not in use were lifted, those in front of
the cursor are as the frame has them, and on a clean Node all of them are down as shown. -/
structure TouchRun.Mirrors (f : TouchFields) (r : TouchRun) : Prop where
  unused : ∀ contactId,
    (∀ contact ∈ collectTouch r.touch, (contact.record f).contactId ≠ contactId) →
    ∀ last, lastRecord r.view.packets contactId = some last → last.tip ≠ 1
  begun : ∀ k contact, k < r.touch.packetCursor → (collectTouch r.touch)[k]? = some contact →
    lastRecord r.view.packets (contact.record f).contactId = some (contact.record f)
  clean : r.dirty = false → ∀ contact ∈ collectTouch r.touch, contact.phase = .down ∧
    lastRecord r.view.packets (contact.record f).contactId = some (contact.record f)

/-- The contacts in use behind a frame are those that are down. -/
theorem mem_collectTouch_afterFrame {touch : TouchState} {contact : ContactState} :
    contact ∈ collectTouch (finishFrame touch).released ↔
      ∃ before, (before ∈ touch.contacts ∧ before.phase = .down) ∧ before.afterFrame = contact := by
  rw [mem_collectTouch, contacts_finishFrame, List.mem_map]
  constructor
  · rintro ⟨⟨before, hmem, rfl⟩, hactive⟩
    refine ⟨before, ⟨hmem, ?_⟩, rfl⟩
    cases hphase : before.phase <;> simp [ContactState.isActive, ContactState.afterFrame, hphase]
      at hactive ⊢
  · rintro ⟨before, ⟨hmem, hdown⟩, rfl⟩
    exact ⟨⟨before, hmem, rfl⟩, by simp [ContactState.isActive, ContactState.afterFrame, hdown]⟩

namespace TouchRun.Mirrors

variable {c : TouchConfig} {r r' : TouchRun}

/-- Behind the next packet the contacts in front of its end are as the frame has them, and the
others as before. -/
theorem packet (h : r.Mirrors c.fields) (hfits : r.touch.Fits c.fields) :
    (∀ k contact, k < r.touch.packetCursor + (r.touch.packetContacts c.fields).length →
      (collectTouch r.touch)[k]? = some contact →
      lastRecord (r.view.packets ++ [r.touch.packet c.fields .ok])
        (contact.record c.fields).contactId = some (contact.record c.fields)) ∧
    ∀ contactId,
      (∀ contact ∈ collectTouch r.touch, (contact.record c.fields).contactId ≠ contactId) →
      ∀ last, lastRecord (r.view.packets ++ [r.touch.packet c.fields .ok]) contactId = some last →
        last.tip ≠ 1 := by
  constructor
  · intro k contact hlt hk
    by_cases hbefore : k < r.touch.packetCursor
    · rw [lastRecord_append_of_notMem]
      · exact h.begun k contact hbefore hk
      · intro record hrecord hid
        obtain ⟨other, hother, rfl⟩ := List.mem_map.mp hrecord
        obtain ⟨i, hle, -, hi⟩ := mem_packetContacts.mp hother
        have := hfits.index_unique hi hk (contactId_record_eq.mp hid)
        omega
    · exact lastRecord_packet hfits _ (mem_packetContacts.mpr ⟨k, not_lt.mp hbefore, hlt, hk⟩)
  · intro contactId hunused
    rw [lastRecord_append_of_notMem]
    · exact h.unused contactId hunused
    · intro record hrecord
      obtain ⟨other, hother, rfl⟩ := List.mem_map.mp hrecord
      obtain ⟨i, -, -, hi⟩ := mem_packetContacts.mp hother
      exact hunused other (List.mem_of_getElem? hi)

theorem report (h : r.Mirrors c.fields) (hfits : r.touch.Fits c.fields)
    (hmove : TouchReport c (fun result => result = .ok ∨ result = .errStall) r r') :
    r'.Mirrors c.fields := by
  cases hmove with
  | keep => exact h
  | send now =>
    have hcollect := collectTouch_congr (r.touch.stamped_contacts c.fields now)
    refine ⟨?_, ?_, ?_⟩ <;> dsimp only <;> rw [hcollect]
    · exact h.unused
    · rw [r.touch.stamped_packetCursor]
      exact h.begun
    · exact h.clean
  | stall => exact ⟨h.unused, h.begun, fun hclean => by simp at hclean⟩
  | advance hsent hallowed hmore =>
    obtain ⟨hbegun, hunused⟩ := h.packet hfits
    exact ⟨hunused, hbegun, fun hclean => by simp at hclean⟩
  | finish hsent hallowed hlast =>
    obtain ⟨hbegun, hunused⟩ := h.packet hfits
    have hshown (contact : ContactState) (hmem : contact ∈ collectTouch r.touch) :
        lastRecord (r.view.packets ++ [r.touch.packet c.fields .ok])
          (contact.record c.fields).contactId = some (contact.record c.fields) := by
      obtain ⟨k, hk⟩ := List.mem_iff_getElem?.mp hmem
      have hlt := (List.getElem?_eq_some_iff.mp hk).1
      rw [length_collectTouch] at hlt
      exact hbegun k contact (by omega) hk
    refine ⟨fun contactId hfree last hlast' => ?_, fun k _ hk => absurd hk (Nat.not_lt_zero k),
      fun _ contact hmem => ?_⟩
    · by_cases hused : ∃ contact ∈ collectTouch r.touch,
        (contact.record c.fields).contactId = contactId
      · obtain ⟨contact, hmem, rfl⟩ := hused
        dsimp only [TouchView.add_packets] at hlast'
        rw [hshown contact hmem] at hlast'
        cases hlast'
        rw [ne_eq, tip_record_eq_one]
        intro hdown
        refine hfree contact.afterFrame (mem_collectTouch_afterFrame.mpr ⟨contact, ?_, rfl⟩) rfl
        exact ⟨(mem_collectTouch.mp hmem).1, hdown⟩
      · exact hunused contactId (fun contact hmem hid => hused ⟨contact, hmem, hid⟩) last hlast'
    · obtain ⟨before, ⟨hbefore, hdown⟩, rfl⟩ := mem_collectTouch_afterFrame.mp hmem
      have hrecord : before.afterFrame.record c.fields = before.record c.fields := by
        simp [ContactState.record, ContactState.afterFrame, hdown]
      refine ⟨by simp [ContactState.afterFrame, hdown], ?_⟩
      rw [hrecord]
      refine hshown before (mem_collectTouch.mpr ⟨hbefore, ?_⟩)
      rw [ContactState.isActive, hdown]
      rfl
  | abandon hsent hallowed hok hstall => exact (hallowed.elim hok hstall).elim

theorem call {call : Call} {touch : TouchState} {changed : Bool} (h : r.Mirrors c.fields)
    (hstep : CallStep (.touch c) call (.touch r.touch) (.touch touch) changed) :
    TouchRun.Mirrors c.fields { r with touch, dirty := r.dirty || changed } := by
  refine ⟨fun contactId hfree => ?_, fun k contact hk => ?_, fun hclean => ?_⟩
  · refine h.unused contactId fun contact hmem hid => ?_
    obtain ⟨hslot, hactive⟩ := mem_collectTouch.mp hmem
    obtain ⟨next, hnext, hnextActive, hsame⟩ := hstep.exists_contact hslot hactive
    exact hfree next (mem_collectTouch.mpr ⟨hnext, hnextActive⟩)
      ((contactId_record_eq.mpr hsame).trans hid)
  · cases hstep.eq_of_packetCursor_ne_zero rfl (Nat.ne_of_gt (Nat.zero_lt_of_lt hk))
    exact h.begun k contact hk
  · obtain ⟨hbefore, hchanged⟩ := Bool.or_eq_false_iff.mp hclean
    cases hstep.eq_of_unchanged hchanged trivial
    exact h.clean hbefore

theorem neutral (h : r.Mirrors c.fields) (held : Bool) :
    TouchRun.Mirrors c.fields
      { r with
        touch := (neutralizeTouch r.touch).1
        dirty := (neutralizeTouch r.touch).2 || held } := by
  refine ⟨fun contactId hfree => ?_, fun k _ hk => absurd hk (Nat.not_lt_zero k),
    fun hclean contact hmem => ?_⟩
  · refine h.unused contactId fun contact hmem hid => ?_
    obtain ⟨hslot, hactive⟩ := mem_collectTouch.mp hmem
    refine hfree (if contact.phase = .down then { contact with phase := .up } else contact)
      (mem_collectTouch.mpr ⟨List.mem_map_of_mem hslot, ?_⟩) ?_
    · split_ifs
      · rfl
      · exact hactive
    · rw [← hid, contactId_record_eq]
      split_ifs <;> rfl
  · obtain ⟨hslot, hactive⟩ := mem_collectTouch.mp hmem
    obtain ⟨before, hbefore, rfl⟩ := List.mem_map.mp hslot
    have hnone : before.phase = .none := by
      simp only [neutralizeTouch, Bool.or_eq_false_iff, List.any_eq_false] at hclean
      simpa using hclean.1.1 before hbefore
    rw [hnone] at hactive
    simp [ContactState.isActive, hnone] at hactive

theorem move (h : r.Mirrors c.fields) (hfits : r.touch.Fits c.fields)
    (hmove : TouchMove c (fun result => result = .ok ∨ result = .errStall) r r') :
    r'.Mirrors c.fields := by
  cases hmove with
  | report hmove => exact h.report hfits hmove
  | call hidle hstep => exact h.call hstep
  | neutral held hidle hcursor => exact h.neutral held

end TouchRun.Mirrors

/-! ### The other side of a clean Node -/

/-- Before the first report a battery is unknown, and every other state is neutral. -/
def NodeState.AtStart (config : SpecConfig) (state : NodeState) (field : FieldLayout) : Prop :=
  match state with
  | .battery s => s.hasValue = false
  | _ => NeutralReading config field (state.shown config field)

theorem atStart_initial {spec : Spec} {state : NodeState} (hsound : spec.Sound)
    (hinitial : initializeNodeState spec = some state) (hfits : state.Fits spec.config)
    {field : FieldLayout} (hmem : field ∈ spec.layout.fields)
    (habsolute : field.IsAbsolute spec.config) : state.AtStart spec.config field := by
  by_cases hkind : spec.kind = .battery
  · unfold initializeNodeState at hinitial
    rw [hkind] at hinitial
    cases hinitial
    rfl
  · have hneutral := neutralReading_initial hsound hinitial hfits hmem habsolute hkind
    have hfitting := hsound.accepted.fitting hfits
    generalize spec.kind = kind at hfitting hkind
    generalize spec.config = config at hfitting hneutral ⊢
    cases hfitting with
    | battery => exact absurd rfl hkind
    | _ => exact hneutral

/-- The other side is up to date in a field. -/
def System.ShowsField (s : System) (spec : Spec) (field : FieldLayout) : Prop :=
  match lastDelivered s.wire with
  | some t => fieldReading t.report field = s.node.state.shown spec.config field
  | none => s.node.state.AtStart spec.config field

/-- **No update is lost.** In a run without a close whose reports are all delivered or refused, a
Node that is idle and clean is up to date on the other side: in every absolute field the last
delivered report, or without one the start, is as the state says, and the contacts that the
packets have put down are the contacts of the Node, all of them down and as last shown. -/
theorem updates_delivered {spec : Spec} (hspec : Generated spec) {hidId : ℕ} {opened : System}
    (hopened : System.opened spec hidId = some opened) (events : List Event)
    (hopen : ∀ e ∈ events, e.isClose = false)
    (hresults : ∀ t ∈ (opened.run events).wire, t.result = .ok ∨ t.result = .errStall)
    (hclean : (opened.run events).node.dirty = false) :
    (∀ field ∈ spec.layout.fields, field.IsAbsolute spec.config →
      (opened.run events).ShowsField spec field) ∧
    ∀ c, spec.config = .touch c → ∃ touch, (opened.run events).node.state = .touch touch ∧
      ∀ contactId last,
        lastRecord (touchView spec.layout (opened.run events).wire).packets contactId = some last ∧
            last.tip = 1 ↔
          ∃ contact ∈ collectTouch touch, contact.phase = .down ∧
            (contact.record c.fields).contactId = contactId ∧ contact.record c.fields = last := by
  have hsound := hspec.sound
  have hfits := System.fits_opened hsound hopened
  obtain ⟨hspecEq, hwire⟩ := System.eq_of_opened hopened
  have hspecRun := (System.run_spec_eq hfits events).trans hspecEq
  constructor
  · intro field hmem habsolute
    have hdelivered := (System.delivered_opened hopened).run hfits events hopen hresults
    unfold System.ShowsField
    cases hlast : lastDelivered (opened.run events).wire with
    | some t =>
      have hseen := hdelivered.seen hclean t hlast
      rw [hspecRun] at hseen
      exact hseen field hmem habsolute
    | none =>
      rw [hdelivered.unseen hclean hlast]
      obtain ⟨node, hnode, rfl⟩ := Option.map_eq_some_iff.mp hopened
      obtain ⟨state, hstate, rfl⟩ := Option.map_eq_some_iff.mp hnode
      exact atStart_initial hsound hstate hfits.node.state hmem habsolute
  · intro c hconfig
    have hshows := System.shows_opened hsound hconfig hopened
    have hstart : opened.Showing c (TouchRun.Mirrors c.fields) := by
      refine ⟨_, hshows, fun contactId _ last hlast => ?_, fun k _ hk => ?_,
        fun _ contact hmem => ?_⟩
      · cases hlast
      · exact absurd hk (Nat.not_lt_zero k)
      · simp [collectTouch] at hmem
    obtain ⟨hfitsRun, r, hr, hmirrors⟩ := hstart.run (fun _ _ hfits h hmove => h.move hfits hmove)
      hfits events (fun t ht => hresults t (List.mem_of_mem_drop ht))
    refine ⟨r.touch, hr.state, fun contactId last => ?_⟩
    rw [← hspecRun, hr.view]
    have hrclean := hmirrors.clean (hr.dirty.symm.trans hclean)
    constructor
    · rintro ⟨hlast, htip⟩
      by_cases hused : ∃ contact ∈ collectTouch r.touch,
        (contact.record c.fields).contactId = contactId
      · obtain ⟨contact, hmem, rfl⟩ := hused
        obtain ⟨hdown, hrecord⟩ := hrclean contact hmem
        exact ⟨contact, hmem, hdown, rfl, Option.some.inj (hrecord.symm.trans hlast)⟩
      · exact absurd htip (hmirrors.unused contactId
          (fun contact hmem hid => hused ⟨contact, hmem, hid⟩) last hlast)
    · rintro ⟨contact, hmem, hdown, rfl, rfl⟩
      exact ⟨(hrclean contact hmem).2, tip_record_eq_one.mpr hdown⟩

/-- The sample touchpad is touched. The packet is refused with a STALL, which the next submit
returns, and then sent again. -/
def touchedTouchpad : List Event :=
  .call (.touch 1 1 10 10 none) .present ::
    (sentReport .stall ++ .submit clearSubmit :: sentReport .completed)

theorem updates_delivered_sampleTouchpad :
    (∀ field ∈ sampleTouchpad.layout.fields, field.IsAbsolute sampleTouchpad.config →
      (openedTouchpad.run touchedTouchpad).ShowsField sampleTouchpad field) ∧
    ∀ c, sampleTouchpad.config = .touch c → ∃ touch,
      (openedTouchpad.run touchedTouchpad).node.state = .touch touch ∧ ∀ contactId last,
        lastRecord (touchView sampleTouchpad.layout
          (openedTouchpad.run touchedTouchpad).wire).packets
              contactId = some last ∧ last.tip = 1 ↔
          ∃ contact ∈ collectTouch touch, contact.phase = .down ∧
            (contact.record c.fields).contactId = contactId ∧ contact.record c.fields = last :=
  updates_delivered generated_sampleTouchpad opened_openedTouchpad touchedTouchpad
    (by decide +kernel) (by decide +kernel) (by decide +kernel)

end LibaoaHid

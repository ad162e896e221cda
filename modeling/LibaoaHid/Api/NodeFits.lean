import LibaoaHid.Profiles.FitsPreserved

/-!
# Nodes that fit their Spec

The invariant of a whole Node: a Node that opens has it, and a call, a completion and the
neutralization before a close keep it. So do the changes of the diagnostics alone.

## Main definitions

* `Node.Fits`: the invariant of a Node.
* `Node.Same`: a Node that differs from another in diagnostics only.

## Main results

* `Node.Fits.perform`, `Node.Fits.transferComplete`, `Node.Fits.makeNeutral`: the invariant is kept.
-/

namespace LibaoaHid

/-! ### The invariant -/

/-- The scratch fields of a Node without a report in flight. -/
structure Node.Cleared (node : Node) : Prop where
  dx : node.submittedDx = 0
  dy : node.submittedDy = 0
  wheel : node.submittedWheel = 0
  pan : node.submittedPan = 0
  nonNeutral : node.submittedNonNeutral = false

/-- **The invariant of a Node.** -/
structure Node.Fits (node : Node) : Prop where
  sound : node.spec.Sound
  state : node.state.Fits node.spec.config
  reportable : node.dirty = true ∨ node.transferInflight = true →
    node.state.Reportable node.spec.config
  packet : node.transferInflight = true → node.PacketInside
  cleared : node.transferInflight = false → node.Cleared
  frame : ∀ touch, node.state = .touch touch → touch.packetCursor ≠ 0 → node.dirty = true

theorem Node.Fits.fitting {node : Node} (h : node.Fits) :
    Fitting node.spec.kind node.spec.config node.state :=
  h.sound.accepted.fitting h.state

theorem fits_initialTouch {f : TouchFields} (hf : f.Accepted) : TouchState.Fits f
    { buttons := List.replicate f.buttonCount.toNat 0
      buttonTransitions := List.replicate f.buttonCount.toNat 0 } := by
  have hinactive {i : ℕ} {contact : ContactState}
      (h : (List.replicate 16 ({} : ContactState))[i]? = some contact) : contact.isActive = false :=
    by rw [List.eq_of_mem_replicate (List.mem_of_getElem? h)]; rfl
  refine TouchState.Fits.mk (by simp) ?_ ?_ ?_ ⟨by simp, by simp, Flags.replicate_zero _⟩
    (Or.inl rfl) fun h1 => ?_
  · intro contact hmem hactive
    rw [List.eq_of_mem_replicate hmem] at hactive
    simp [ContactState.isActive] at hactive
  · intro i j first second hi _ hfirst
    rw [hinactive hi] at hfirst
    simp at hfirst
  · simp [TouchState.activeCount, ContactState.isActive]
  · have := (hf.scanTime h1).2.2
    change (0 : ℤ) ≤ _
    omega

theorem fits_initialPen {c : PenConfig} (hc : c.Accepted) : PenState.Fits c.options {} := by
  have hneutral : c.options.Admits {} :=
    { inRange := Or.inl rfl
      tip := Or.inl rfl
      eraser := Or.inl rfl
      tip_inRange := fun h => by simp at h
      noEraser := fun _ => rfl
      barrel := by simp
      x := hc.x.2.contains
      y := hc.y.2.contains
      pressure := fun h1 => by
        obtain ⟨-, hmin, hmax⟩ := hc.pressure h1
        exact ⟨by rw [hmin]; simp, by simp; omega⟩
      tiltX := fun h1 => (hc.tiltX h1).2.contains
      tiltY := fun h1 => (hc.tiltY h1).2.contains
      twist := fun h1 => (hc.twist h1).2.contains }
  exact PenState.Fits.mk hneutral hneutral fun h => by simp at h

/-- The initial state of a sound Spec fits. -/
theorem fits_initializeNodeState {spec : Spec} (hsound : spec.Sound) {state : NodeState}
    (h : initializeNodeState spec = some state) : state.Fits spec.config := by
  have haccepted := hsound.accepted
  unfold initializeNodeState at h
  cases hkind : spec.kind <;> cases hconfig : spec.config <;>
    rw [hkind, hconfig] at haccepted <;> try exact haccepted.elim
  all_goals
    rw [hkind, hconfig] at h
    cases h
  · refine KeyboardState.Fits.mk (by simp [KeyboardOptions.keyCount])
      (by simp [KeyboardOptions.keyCount]) (Flags.replicate_zero _) ?_
    exact (List.countP_eq_zero.mpr fun b hb => by simp [List.eq_of_mem_replicate hb]).symm
  · exact MouseState.Fits.mk ⟨by simp, by simp, Flags.replicate_zero _⟩
  · exact ConsumerState.Fits.mk (Or.inl rfl)
  · refine GamepadState.Fits.mk (by simp) ?_ ⟨by simp, by simp, Flags.replicate_zero _⟩
      le_rfl (by simp) (fun _ => by simp) (fun _ => rfl) (fun _ => rfl) (fun _ => rfl)
    intro i entry hentry
    obtain ⟨hlt, rfl⟩ := List.getElem?_eq_some_iff.mp hentry
    have hc : GamepadConfig.Accepted _ := haccepted
    have hneutral := hc.axes_neutral _ (List.getElem_mem hlt)
    rw [List.getD_eq_getElem _ _ (by simpa using hlt), List.getElem_map]
    exact hneutral
  · exact fits_initialTouch haccepted.1
  · exact fits_initialPen haccepted
  · exact BatteryState.Fits.mk (fun h => by simp at h) fun _ => rfl
  · exact fits_initialTouch haccepted

/-- A new Node fits. -/
theorem fits_openNode {spec : Spec} (hsound : spec.Sound) {hidId : ℕ} {node : Node}
    (h : openNode spec hidId = some node) : node.Fits := by
  obtain ⟨state, hstate, rfl⟩ := Option.map_eq_some_iff.mp h
  exact
    { sound := hsound
      state := fits_initializeNodeState hsound hstate
      reportable := fun h => by simp at h
      packet := fun h => by simp at h
      cleared := fun _ => ⟨rfl, rfl, rfl, rfl, rfl⟩
      frame := fun touch hs hcursor => by
        have hstate : state = .touch touch := hs
        subst hstate
        unfold initializeNodeState at hstate
        split at hstate <;> simp at hstate <;> subst hstate <;> simp at hcursor }

/-! ### Calls -/

namespace Node.Fits

variable {node : Node}

/-- The invariant depends on the state of an idle Node only. -/
theorem of_idle (h : node.Fits) (hidle : node.transferInflight = false) {state : NodeState}
    {dirty : Bool} (hstate : state.Fits node.spec.config)
    (hreport : dirty = true → state.Reportable node.spec.config)
    (hframe : ∀ touch, state = .touch touch → touch.packetCursor ≠ 0 → dirty = true) :
    ({ node with state, dirty } : Node).Fits :=
  { sound := h.sound
    state := hstate
    reportable := fun hor => by
      rcases hor with hdirty | hinflight
      · exact hreport hdirty
      · exact absurd (hidle.symm.trans hinflight) (by simp)
    packet := fun hinflight => absurd (hidle.symm.trans hinflight) (by simp)
    cleared := fun _ => ⟨(h.cleared hidle).dx, (h.cleared hidle).dy, (h.cleared hidle).wheel,
      (h.cleared hidle).pan, (h.cleared hidle).nonNeutral⟩
    frame := hframe }

/-- The release of a Node. -/
theorem of_closed (h : node.Fits) : ({ node with closed := true } : Node).Fits :=
  { sound := h.sound
    state := h.state
    reportable := h.reportable
    packet := h.packet
    cleared := fun hidle => ⟨(h.cleared hidle).dx, (h.cleared hidle).dy, (h.cleared hidle).wheel,
      (h.cleared hidle).pan, (h.cleared hidle).nonNeutral⟩
    frame := h.frame }

theorem perform (h : node.Fits) (call : Call) (link : Link) :
    (call.perform link node).2.Fits := by
  rcases call.perform_cases h.fitting link with
    ⟨reply, -, heq⟩ | ⟨state, changed, hcallable, hstep, heq⟩
  · rw [heq]
    exact h
  · rw [heq]
    refine h.of_idle hcallable.idle (hstep.fits h.fitting)
      (fun hdirty => hstep.reportable ?_) fun touch hs hcursor => ?_
    · rcases (Bool.or_eq_true _ _).mp hdirty with hdirty | hchanged
      · exact Or.inr (h.reportable (Or.inl hdirty))
      · exact Or.inl hchanged
    · rw [h.frame touch (hstep.eq_of_packetCursor_ne_zero hs hcursor) hcursor, Bool.true_or]

/-- The neutral state can be made at any time. -/
theorem makeNeutral (h : node.Fits) : (makeNeutral node).Fits := by
  have hfitting := h.fitting
  have hneutral := fits_neutralizeState hfitting
  have hpacket : node.transferInflight = true → (LibaoaHid.makeNeutral node).PacketInside := by
    intro hinflight touch hs hfinal
    have hbefore := h.packet hinflight
    unfold LibaoaHid.makeNeutral neutralizeState at hs
    dsimp only at hs
    split at hs <;> try simp at hs
    · split at hs <;> simp at hs
    next before hstate =>
      subst hs
      rw [activeCount_neutralizeTouch]
      have := hbefore before hstate hfinal
      change 0 + node.submittedTouchCount < _
      omega
  refine
    { sound := h.sound
      state := hneutral
      reportable := fun hor => ?_
      packet := hpacket
      cleared := fun hidle => ⟨(h.cleared hidle).dx, (h.cleared hidle).dy,
        (h.cleared hidle).wheel, (h.cleared hidle).pan, (h.cleared hidle).nonNeutral⟩
      frame := fun touch hs hcursor => ?_ }
  rotate_left
  · unfold LibaoaHid.makeNeutral neutralizeState at hs
    dsimp only at hs
    split at hs <;> try simp at hs
    · split at hs <;> simp at hs
    next before hstate =>
      subst hs
      exact absurd rfl hcursor
  have hreport := h.reportable
  change (neutralizeState node).1.Reportable node.spec.config
  unfold LibaoaHid.makeNeutral neutralizeState at hor
  unfold neutralizeState
  generalize node.spec.kind = kind at hfitting hor
  generalize node.spec.config = config at hfitting hreport hor ⊢
  generalize node.state = state at hfitting hreport hor ⊢
  cases hfitting <;> first | trivial | skip
  simp only [bne_self_eq_false, Bool.and_false, Bool.false_eq_true, false_or] at hor
  exact hreport (Or.inr hor)

/-! ### Completions -/

/-- A frame that goes on keeps the Node dirty. -/
theorem dirty_completeState (node : Node) (result : Result) {touch : TouchState}
    (hs : (completeState node result).state = .touch touch) (hcursor : touch.packetCursor ≠ 0) :
    (completeState node result).dirty = true := by
  unfold completeState at hs ⊢
  split
  next mouse hstate => simp [hstate] at hs
  next before hstate =>
    simp only [hstate] at hs
    split_ifs at hs ⊢
    · cases hs
      exact absurd rfl hcursor
    · rfl
    · cases hs
      exact absurd rfl hcursor
  next pen hstate =>
    simp only [hstate] at hs
    split_ifs at hs
  next hmouse htouch hpen =>
    split at hs
    · next hstate => exact absurd hstate (hmouse _)
    · next hstate => exact absurd hstate (htouch _)
    · next hstate => exact absurd hstate (hpen _)
    · exact absurd hs (htouch touch)

/-- The completion of the report in flight. -/
theorem transferComplete (h : node.Fits) (hinflight : node.transferInflight = true)
    (result : Result) (nativeStatus : ℤ) :
    (transferComplete node result nativeStatus).Fits := by
  have hpacket := h.packet hinflight
  have hreport := h.reportable (Or.inr hinflight)
  have hcompleted := fits_completeState h.state hpacket result
  have hcompletedReport := reportable_completeState hreport result
  unfold LibaoaHid.transferComplete
  split
  · refine
      { sound := h.sound
        state := ?_
        reportable := fun _ => ?_
        packet := fun h => by simp [publishCompletion] at h
        cleared := fun _ => ⟨rfl, rfl, rfl, rfl, rfl⟩
        frame := fun touch hs hcursor => ?_ }
    · simp only [publishCompletion]
      split_ifs
      · exact fits_consumeLifecycleTransitions hcompleted
      · exact hcompleted
    · simp only [publishCompletion]
      split_ifs
      · exact reportable_consumeLifecycleTransitions hcompletedReport
      · exact hcompletedReport
    · dsimp only [publishCompletion] at hs ⊢
      split_ifs at hs
      · obtain ⟨before, hbefore, hsame⟩ := exists_of_consumeLifecycleTransitions hs
        exact dirty_completeState node result hbefore (hsame ▸ hcursor)
      · exact dirty_completeState node result hs hcursor
  · exact
      { sound := h.sound
        state := h.state
        reportable := fun _ => hreport
        packet := fun h => by simp [publishCompletion] at h
        cleared := fun _ => ⟨rfl, rfl, rfl, rfl, rfl⟩
        frame := fun _ _ _ => rfl }

end Node.Fits

/-! ### Sending -/

/-- The part of a Node that its reports depend on is the same: the two Nodes differ in their
diagnostics, and in the packet of an earlier report. -/
structure Node.Same (node node' : Node) : Prop where
  spec : node'.spec = node.spec
  state : node'.state = node.state
  hidId : node'.hidId = node.hidId
  transferInflight : node'.transferInflight = node.transferInflight
  emittedNonNeutral : node'.emittedNonNeutral = node.emittedNonNeutral
  dirty : node'.dirty = node.dirty
  closed : node'.closed = node.closed
  dx : node'.submittedDx = node.submittedDx
  dy : node'.submittedDy = node.submittedDy
  wheel : node'.submittedWheel = node.submittedWheel
  pan : node'.submittedPan = node.submittedPan
  nonNeutral : node'.submittedNonNeutral = node.submittedNonNeutral
  packet : node.transferInflight = true → node'.submittedTouchCount = node.submittedTouchCount ∧
    node'.submittedTouchFinalPacket = node.submittedTouchFinalPacket

theorem Node.Same.refl (node : Node) : node.Same node := by
  constructor <;> first | rfl | exact fun _ => ⟨rfl, rfl⟩

theorem Node.Same.trans {first second third : Node} (h : first.Same second)
    (h' : second.Same third) : first.Same third where
  spec := h'.spec.trans h.spec
  state := h'.state.trans h.state
  hidId := h'.hidId.trans h.hidId
  transferInflight := h'.transferInflight.trans h.transferInflight
  emittedNonNeutral := h'.emittedNonNeutral.trans h.emittedNonNeutral
  dirty := h'.dirty.trans h.dirty
  closed := h'.closed.trans h.closed
  dx := h'.dx.trans h.dx
  dy := h'.dy.trans h.dy
  wheel := h'.wheel.trans h.wheel
  pan := h'.pan.trans h.pan
  nonNeutral := h'.nonNeutral.trans h.nonNeutral
  packet hinflight := by
    obtain ⟨hcount, hfinal⟩ := h.packet hinflight
    obtain ⟨hcount', hfinal'⟩ := h'.packet (h.transferInflight.trans hinflight)
    exact ⟨hcount'.trans hcount, hfinal'.trans hfinal⟩

theorem Node.Same.fits {node node' : Node} (h : node.Same node') (hfits : node.Fits) :
    node'.Fits where
  sound := h.spec ▸ hfits.sound
  state := by
    rw [h.state, h.spec]
    exact hfits.state
  reportable hor := by
    rw [h.state, h.spec]
    rw [h.dirty, h.transferInflight] at hor
    exact hfits.reportable hor
  packet hinflight := by
    rw [h.transferInflight] at hinflight
    obtain ⟨hcount, hfinal⟩ := h.packet hinflight
    intro touch hs hlast
    rw [h.state] at hs
    rw [hfinal] at hlast
    rw [hcount]
    exact hfits.packet hinflight touch hs hlast
  cleared hidle := by
    rw [h.transferInflight] at hidle
    have hcleared := hfits.cleared hidle
    exact ⟨h.dx.trans hcleared.dx, h.dy.trans hcleared.dy, h.wheel.trans hcleared.wheel,
      h.pan.trans hcleared.pan, h.nonNeutral.trans hcleared.nonNeutral⟩
  frame touch hs hcursor := by
    rw [h.state] at hs
    rw [h.dirty]
    exact hfits.frame touch hs hcursor

theorem same_consumeCompletion (node : Node) (field : String) :
    node.Same (consumeCompletion node field).2 := by
  unfold consumeCompletion
  dsimp only
  split <;> constructor <;> first | rfl | exact fun _ => ⟨rfl, rfl⟩

end LibaoaHid

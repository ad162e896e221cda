import LibaoaHid.Profiles.Controls
import LibaoaHid.Api.Reachable

/-!
# Edges of single-report profiles

A key, a button, the D-pad and the Usage of a Toggle are guarded: after a change, the opposite
change waits until a report that carries the first one may have been applied. So a tap is never
lost between two reports.

## Main definitions

* `Node.released`: a Node whose edge guards are open.
* `Control.CarriedSince`: a report since a point of the wire carries a value.

## Main results

* `Control.Guarding.run`: a change is carried, or its guard is shut, in every run behind it.
* `edge_carried`.
-/

namespace LibaoaHid

/-! ### Open guards -/

/-- The Node with all its edge guards open. -/
def Node.released (node : Node) : Node :=
  { node with state := consumeLifecycleTransitions node.state }

@[simp] theorem Node.released_spec (node : Node) : node.released.spec = node.spec := rfl

@[simp] theorem Node.released_closed (node : Node) : node.released.closed = node.closed := rfl

/-- The outcome of a call, told from its outcome `(state, changed)` with open guards: a pending
transition, or the same values. -/
def BusyOr (outcome : Except Reply (NodeState × Bool)) (state : NodeState) (changed : Bool) :
    Prop :=
  (∃ field, outcome = .error (pendingTransition field)) ∨
  ∃ state', outcome = .ok (state', changed) ∧
    ∀ control : Control, control.value state' = control.value state

section Released

variable {node : Node} {link : Link} {state : NodeState} {changed : Bool}

theorem getD_map_zero (transitions : List UInt8) (index : ℕ) :
    (transitions.map fun _ => (0 : UInt8)).getD index 0 = 0 := by
  rw [List.getD_eq_getElem?_getD, List.getElem?_map]
  cases transitions[index]? <;> rfl

theorem pressButton_released {values transitions : List UInt8} {button pressed : UInt32}
    {field : String} {next : (List UInt8 × List UInt8) × Bool}
    (h : pressButton values (transitions.map fun _ => 0) button pressed field = .ok next) :
    pressButton values transitions button pressed field = .error (pendingTransition field) ∨
    ∃ transitions', pressButton values transitions button pressed field =
      .ok ((next.1.1, transitions'), next.2) := by
  unfold pressButton at h ⊢
  rw [List.length_map] at h
  by_cases hrange : button.toNat = 0 ∨ button.toNat > values.length ∨ (!validBoolean pressed) = true
  · rw [if_pos hrange] at h
    cases h
  rw [if_neg hrange] at h ⊢
  by_cases hlength : values.length ≠ transitions.length
  · rw [if_pos hlength] at h
    cases h
  rw [if_neg hlength] at h ⊢
  dsimp only at h ⊢
  rw [getD_map_zero, if_neg (fun hguard => hguard.2 rfl)] at h
  by_cases hchanged : (values.getD (button.toNat - 1) 0 != pressed.toUInt8) = true
  · rw [if_pos hchanged] at h
    cases h
    by_cases hpending : transitions.getD (button.toNat - 1) 0 = 0
    · rw [if_neg (fun hguard => hguard.2 hpending), if_pos hchanged]
      exact Or.inr ⟨_, rfl⟩
    · exact Or.inl (if_pos ⟨hchanged, hpending⟩)
  · rw [if_neg hchanged] at h
    cases h
    rw [if_neg (fun hguard => hchanged hguard.1), if_neg hchanged]
    exact Or.inr ⟨_, rfl⟩

/-- The profile calls see the same Node apart from its guards. -/
theorem usable_released (kind : ProfileKind) (field : String) :
    usable node.released link kind field = usable node link kind field := rfl

theorem mouseButton_released {button pressed : UInt32}
    (h : mouseButton node.released link button pressed = .ok (state, changed)) :
    BusyOr (mouseButton node link button pressed) state changed := by
  unfold mouseButton at h ⊢
  rw [usable_released] at h
  cases husable : usable node link .mouse "mouse.button" with
  | some reply => simp [husable] at h
  | none =>
    cases hstate : node.state <;>
      simp only [husable, hstate, Node.released, consumeLifecycleTransitions, reduceCtorEq] at h
    case mouse mouse =>
      cases hpress : pressButton mouse.buttons (mouse.buttonTransitions.map fun _ => 0) button
        pressed "mouse.button" with
      | error reply =>
        rw [hpress] at h
        cases h
      | ok next =>
        rw [hpress] at h
        cases h
        dsimp only
        rcases pressButton_released hpress with hbusy | ⟨transitions', hok⟩
        · exact Or.inl ⟨_, by rw [hbusy]; rfl⟩
        · refine Or.inr ⟨_, by rw [hok]; rfl, fun control => ?_⟩
          cases control <;> rfl

theorem gamepadButton_released {button pressed : UInt32}
    (h : gamepadButton node.released link button pressed = .ok (state, changed)) :
    BusyOr (gamepadButton node link button pressed) state changed := by
  unfold gamepadButton at h ⊢
  rw [usable_released] at h
  cases husable : usable node link .gamepad "gamepad.button" with
  | some reply => simp [husable] at h
  | none =>
    cases hstate : node.state <;>
      simp only [husable, hstate, Node.released, consumeLifecycleTransitions, reduceCtorEq] at h
    case gamepad gamepad =>
      cases hpress : pressButton gamepad.buttons (gamepad.buttonTransitions.map fun _ => 0) button
        pressed "gamepad.button" with
      | error reply =>
        rw [hpress] at h
        cases h
      | ok next =>
        rw [hpress] at h
        cases h
        dsimp only
        rcases pressButton_released hpress with hbusy | ⟨transitions', hok⟩
        · exact Or.inl ⟨_, by rw [hbusy]; rfl⟩
        · refine Or.inr ⟨_, by rw [hok]; rfl, fun control => ?_⟩
          cases control <;> rfl

/-- The keyboard with open guards. -/
private def openKeyboard (keyboard : KeyboardState) : KeyboardState :=
  { keyboard with
    keyTransitions := keyboard.keyTransitions.map fun _ => 0
    modifierTransitions := 0 }

private theorem pressModifier_released {keyboard next : KeyboardState} {mask : UInt8} {press : Bool}
    (h : pressModifier (openKeyboard keyboard) mask press = .ok (next, changed)) :
    pressModifier keyboard mask press = .error (pendingTransition "kbd") ∨
    ∃ next', pressModifier keyboard mask press = .ok (next', changed) ∧
      next'.modifiers = next.modifiers ∧ next'.pressedBitmap = next.pressedBitmap := by
  unfold pressModifier openKeyboard at h
  unfold pressModifier
  dsimp only at h ⊢
  rw [UInt8.zero_and, if_neg (fun hguard => hguard.2 rfl)] at h
  by_cases hchanged : (((keyboard.modifiers &&& mask) != 0) != press) = true
  · rw [if_pos hchanged] at h
    cases h
    by_cases hpending : keyboard.modifierTransitions &&& mask = 0
    · rw [if_neg (fun hguard => hguard.2 hpending), if_pos hchanged]
      exact Or.inr ⟨_, rfl, rfl, rfl⟩
    · exact Or.inl (if_pos ⟨hchanged, hpending⟩)
  · rw [if_neg hchanged] at h
    cases h
    rw [if_neg (fun hguard => hchanged hguard.1), if_neg hchanged]
    exact Or.inr ⟨_, rfl, rfl, rfl⟩

private theorem pressKey_released {keyboard next : KeyboardState} {index : ℕ} {press : Bool}
    (h : pressKey (openKeyboard keyboard) index press = .ok (next, changed)) :
    pressKey keyboard index press = .error (pendingTransition "kbd") ∨
    ∃ next', pressKey keyboard index press = .ok (next', changed) ∧
      next'.modifiers = next.modifiers ∧ next'.pressedBitmap = next.pressedBitmap := by
  unfold pressKey openKeyboard at h
  unfold pressKey
  dsimp only at h ⊢
  rw [List.length_map] at h
  by_cases htransitions : index ≥ keyboard.keyTransitions.length
  · rw [if_pos htransitions] at h
    cases h
  rw [if_neg htransitions] at h ⊢
  by_cases hbitmap : index ≥ keyboard.pressedBitmap.length
  · rw [if_pos hbitmap] at h
    cases h
  rw [if_neg hbitmap] at h ⊢
  rw [getD_map_zero, if_neg (fun hguard => hguard.2 rfl)] at h
  by_cases hchanged : ((keyboard.pressedBitmap.getD index 0 != 0) != press) = true
  · rw [if_pos hchanged] at h
    by_cases hpending : keyboard.keyTransitions.getD index 0 = 0
    · rw [if_neg (fun hguard => hguard.2 hpending), if_pos hchanged]
      right
      by_cases hpress : press = true
      · rw [if_pos hpress] at h ⊢
        by_cases hfull : keyboard.pressedBitmapCount ≥ keyboard.pressedBitmap.length
        · rw [if_pos hfull] at h
          cases h
        · rw [if_neg hfull] at h ⊢
          cases h
          exact ⟨_, rfl, rfl, rfl⟩
      · rw [if_neg hpress] at h ⊢
        by_cases hempty : keyboard.pressedBitmapCount = 0
        · rw [if_pos hempty] at h
          cases h
        · rw [if_neg hempty] at h ⊢
          cases h
          exact ⟨_, rfl, rfl, rfl⟩
    · exact Or.inl (if_pos ⟨hchanged, hpending⟩)
  · rw [if_neg hchanged] at h
    cases h
    rw [if_neg (fun hguard => hchanged hguard.1), if_neg hchanged]
    exact Or.inr ⟨_, rfl, rfl, rfl⟩

private theorem busyOr_keyboard {outcome outcome' : Except Reply (KeyboardState × Bool)}
    (h : ∀ next changed, outcome' = .ok (next, changed) →
      outcome = .error (pendingTransition "kbd") ∨
      ∃ next', outcome = .ok (next', changed) ∧ next'.modifiers = next.modifiers ∧
        next'.pressedBitmap = next.pressedBitmap)
    (hok : outcome'.map (fun next => (NodeState.keyboard next.1, next.2)) =
      .ok (state, changed)) :
    BusyOr (outcome.map fun next => (NodeState.keyboard next.1, next.2)) state changed := by
  cases houtcome : outcome' with
  | error reply =>
    rw [houtcome] at hok
    cases hok
  | ok next =>
    rw [houtcome] at hok
    cases hok
    rcases h next.1 next.2 houtcome with hbusy | ⟨next', hnext, hmodifiers, hbitmap⟩
    · exact Or.inl ⟨_, by rw [hbusy]; rfl⟩
    · refine Or.inr ⟨_, by rw [hnext]; rfl, fun control => ?_⟩
      cases control <;> simp only [Control.value, hmodifiers, hbitmap]

theorem kbd_released {usage : UInt16} {down : UInt32}
    (h : kbd node.released link usage down = .ok (state, changed)) :
    BusyOr (kbd node link usage down) state changed := by
  unfold kbd at h ⊢
  by_cases hboolean : (!validBoolean down) = true
  · rw [if_pos hboolean] at h
    cases h
  rw [if_neg hboolean] at h ⊢
  rw [usable_released] at h
  cases husable : usable node link .keyboard "kbd" with
  | some reply => simp [husable] at h
  | none =>
    cases hstate : node.state <;>
      simp only [husable, hstate, Node.released, consumeLifecycleTransitions, reduceCtorEq] at h
    case keyboard keyboard =>
      cases hconfig : node.spec.config <;> simp only [hconfig, reduceCtorEq] at h
      case keyboard c =>
        dsimp only at h ⊢
        refine busyOr_keyboard (fun next changed hnext => ?_) h
        split_ifs at hnext ⊢
        · exact pressModifier_released hnext
        · exact pressKey_released hnext

theorem toggle_released {usage : UInt16} {down : UInt32}
    (h : toggle node.released link usage down = .ok (state, changed)) :
    BusyOr (toggle node link usage down) state changed := by
  unfold toggle at h ⊢
  by_cases hboolean : (!validBoolean down) = true
  · rw [if_pos hboolean] at h
    cases h
  rw [if_neg hboolean] at h ⊢
  rw [Node.released_closed, Node.released_spec] at h
  by_cases hopen : node.closed = true ∨ node.spec.kind ≠ .toggle
  · rw [if_pos hopen] at h
    cases h
  rw [if_neg hopen] at h ⊢
  have hlink : linkAvailable node.released link "toggle" = linkAvailable node link "toggle" := rfl
  rw [hlink] at h
  cases havailable : linkAvailable node link "toggle" with
  | some reply => simp [havailable] at h
  | none =>
    cases hstate : node.state <;>
      simp only [havailable, hstate, Node.released, consumeLifecycleTransitions, reduceCtorEq] at h
    case consumer consumer =>
      cases hconfig : node.spec.config <;> simp only [hconfig, reduceCtorEq] at h
      case consumer c =>
        dsimp only at h ⊢
        by_cases hbusy : node.transferInflight = true
        · rw [if_pos hbusy] at h
          cases h
        rw [if_neg hbusy] at h ⊢
        by_cases hallowed : down = 1 ∧ usage ∉ c.allowedUsages
        · rw [if_pos hallowed] at h
          cases h
        rw [if_neg hallowed] at h ⊢
        by_cases hrelease : down ≠ 1 ∧ usage ≠ 0 ∧ usage ≠ consumer.usage
        · rw [if_pos hrelease] at h
          cases h
        rw [if_neg hrelease] at h ⊢
        rw [if_neg (fun hguard => by simp at hguard)] at h
        by_cases hchanged : (consumer.usage != if down = 1 then usage else 0) = true
        · rw [if_pos hchanged] at h
          cases h
          by_cases hpending : consumer.transitionPending = true
          · exact Or.inl ⟨_, if_pos ⟨hchanged, hpending⟩⟩
          · rw [if_neg (fun hguard => hpending hguard.2), if_pos hchanged]
            exact Or.inr ⟨_, rfl, fun _ => rfl⟩
        · rw [if_neg hchanged] at h
          cases h
          rw [if_neg (fun hguard => hchanged hguard.1), if_neg hchanged]
          refine Or.inr ⟨_, rfl, fun control => ?_⟩
          cases control <;> rfl

theorem dpad_released {up down right left : UInt32}
    (h : dpad node.released link up down right left = .ok (state, changed)) :
    BusyOr (dpad node link up down right left) state changed := by
  unfold dpad at h ⊢
  rw [usable_released] at h
  cases husable : usable node link .gamepad "gamepad.dpad" with
  | some reply => simp [husable] at h
  | none =>
    cases hstate : node.state <;>
      simp only [husable, hstate, Node.released, consumeLifecycleTransitions, reduceCtorEq] at h
    case gamepad gamepad =>
      cases hconfig : node.spec.config <;> simp only [hconfig, reduceCtorEq] at h
      case gamepad c =>
        dsimp only at h ⊢
        generalize (if c.options.dpadRepresentation = .hat ∧
            directionBits (up == 1) (down == 1) (right == 1) (left == 1) ≠ 0 then
          hatDirection (up == 1) (down == 1) (right == 1) (left == 1)
          else directionBits (up == 1) (down == 1) (right == 1) (left == 1)) = encoded at h ⊢
        generalize (directionBits (up == 1) (down == 1) (right == 1) (left == 1) != 0) = direction
          at h ⊢
        by_cases hinvalid : (c.options.dpadRepresentation ≠ .buttons ∧
            c.options.dpadRepresentation ≠ .hat) ∨ (!validBoolean up) = true ∨
            (!validBoolean down) = true ∨ (!validBoolean right) = true ∨
            (!validBoolean left) = true
        · rw [if_pos hinvalid] at h
          cases h
        rw [if_neg hinvalid] at h ⊢
        by_cases hopposite : c.options.dpadRepresentation = .hat ∧
            ((up = 1 ∧ down = 1) ∨ (right = 1 ∧ left = 1))
        · rw [if_pos hopposite] at h
          cases h
        rw [if_neg hopposite] at h ⊢
        rw [if_neg (fun hguard => by simp at hguard)] at h
        by_cases hchanged : (gamepad.hatHasDirection != direction || gamepad.hat != encoded) = true
        · rw [if_pos hchanged] at h
          cases h
          by_cases hpending : gamepad.hatTransitionPending = true
          · exact Or.inl ⟨_, if_pos ⟨hchanged, hpending⟩⟩
          · rw [if_neg (fun hguard => hpending hguard.2), if_pos hchanged]
            refine Or.inr ⟨_, rfl, fun control => ?_⟩
            cases control <;> rfl
        · rw [if_neg hchanged] at h
          cases h
          rw [if_neg (fun hguard => hchanged hguard.1), if_neg hchanged]
          refine Or.inr ⟨_, rfl, fun control => ?_⟩
          cases control <;> rfl

end Released

/-! ### The guard -/

section Guard

variable {node : Node} {control : Control}

theorem value_consumeLifecycleTransitions (control : Control) (state : NodeState) :
    control.value (consumeLifecycleTransitions state) = control.value state := by
  cases control <;> cases state <;> rfl

theorem SingleReport.consume {config : SpecConfig} {state : NodeState}
    (h : SingleReport config state) : SingleReport config (consumeLifecycleTransitions state) := by
  have hfits := fits_consumeLifecycleTransitions h.fits
  cases h with
  | keyboard => exact .keyboard hfits
  | mouse => exact .mouse hfits
  | consumer => exact .consumer hfits
  | gamepad => exact .gamepad hfits

/-- The calls that change guarded controls. -/
def Call.isEdge : Call → Bool
  | .kbd .. | .mouseButton .. | .toggle .. | .gamepadButton .. | .dpad .. => true
  | _ => false

/-- The other calls leave every guarded control. -/
theorem CallStep.value_eq {config : SpecConfig} {call : Call} {state state' : NodeState}
    {changed : Bool} (hstep : CallStep config call state state' changed)
    (hsingle : SingleReport config state) (hguarded : control.Guarded)
    (hcall : call.isEdge = false) : control.value state' = control.value state := by
  cases hstep with
  | keep => rfl
  | mouseMove => cases control <;> rfl
  | mouseScroll => cases control <;> rfl
  | gamepadSetAxis =>
    cases control with
    | axis index => exact absurd rfl (hguarded index)
    | _ => rfl
  | modifier | pressKey | releaseKey | mouseButton | toggle | gamepadButton | dpad =>
    simp [Call.isEdge] at hcall
  | lift | move | place | touchpadButton | penUpdate | penDepart | batteryUpdate => cases hsingle

/-- With open guards, the call succeeds and takes the control away from the value. -/
def Node.WouldChange (node : Node) (call : Call) (link : Link) (control : Control)
    (value : Option ℤ) : Prop :=
  (call.perform link node.released).1.result = .ok ∧
    control.value (call.perform link node.released).2.state ≠ value

/-- **The edge guard.** While a transition is pending, the call that would change its control
answers `AOAHID_ERR_BUSY` and changes nothing. -/
theorem busy_of_pending (hfits : node.Fits) (hsingle : SingleReport node.spec.config node.state)
    (hguarded : control.Guarded) (hpending : control.pending node.state = true) {call : Call}
    {link : Link} (hwould : node.WouldChange call link control (control.value node.state)) :
    (call.perform link node).1.result = .errBusy ∧ (call.perform link node).2 = node := by
  obtain ⟨hok, hchanges⟩ := hwould
  have hsingle' : SingleReport node.released.spec.config node.released.state := hsingle.consume
  have hreleased : Fitting node.released.spec.kind node.released.spec.config node.released.state :=
    hfits.sound.accepted.fitting hsingle'.fits
  have hspec := call.outcome_spec hreleased link
  unfold Call.perform at hok hchanges ⊢
  cases houtcome : call.outcome node.released link with
  | error reply =>
    rw [houtcome] at hspec hok
    exact absurd hok hspec.ne_ok
  | ok next =>
    obtain ⟨state, changed⟩ := next
    rw [houtcome] at hspec hchanges
    have hbusy : BusyOr (call.outcome node link) state changed := by
      have hother (hcall : call.isEdge = false) :
          BusyOr (call.outcome node link) state changed :=
        absurd ((hspec.2.value_eq hsingle' hguarded hcall).trans
          (value_consumeLifecycleTransitions control node.state)) hchanges
      cases call with
      | kbd => exact kbd_released houtcome
      | mouseButton => exact mouseButton_released houtcome
      | toggle => exact toggle_released houtcome
      | gamepadButton => exact gamepadButton_released houtcome
      | dpad => exact dpad_released houtcome
      | _ => exact hother rfl
    rcases hbusy with ⟨field, hbusy⟩ | ⟨state', hnext, hsame⟩
    · rw [hbusy]
      exact ⟨rfl, rfl⟩
    · have hstep := call.outcome_spec hfits.fitting link
      rw [hnext] at hstep
      rcases hstep.2.edge hsingle hguarded with ⟨hkept, -⟩ | ⟨hopen, -⟩
      · exact absurd ((hsame control).symm.trans hkept) hchanges
      · rw [hpending] at hopen
        simp at hopen

end Guard

/-! ### Runs -/

/-- The kinds of `SingleReport`. -/
def Spec.IsSingleReport (spec : Spec) : Prop :=
  spec.kind = .keyboard ∨ spec.kind = .mouse ∨ spec.kind = .toggle ∨ spec.kind = .gamepad

theorem Spec.IsSingleReport.fits {spec : Spec} (h : spec.IsSingleReport) (hsound : spec.Sound)
    {state : NodeState} (hfits : state.Fits spec.config) : SingleReport spec.config state := by
  have hfitting := hsound.accepted.fitting hfits
  unfold Spec.IsSingleReport at h
  generalize spec.kind = kind at h hfitting
  generalize spec.config = config at hfitting ⊢
  cases hfitting with
  | keyboard _ hs => exact .keyboard hs
  | mouse _ hs => exact .mouse hs
  | toggle _ hs => exact .consumer hs
  | gamepad _ hs => exact .gamepad hs
  | _ => simp at h

/-- A report that may have been applied, completed since a point of the wire, encodes the value. -/
def Control.CarriedSince (control : Control) (start : ℕ) (value : Option ℤ) (s : System) : Prop :=
  ∃ t ∈ s.wire.drop start, t.MayHaveApplied ∧ control.Encodes s.node.spec t.report value

/-- The value is carried, or its change is pending. -/
structure Control.Guarding (control : Control) (start : ℕ) (value : Option ℤ) (s : System) :
    Prop where
  single : s.node.spec.IsSingleReport
  start_le : start ≤ s.wire.length
  guarded : control.CarriedSince start value s ∨
    control.pending s.node.state = true ∧ control.value s.node.state = value ∧
      control.Declared s.node.spec.config

namespace Control.Guarding

variable {control : Control} {start : ℕ} {value : Option ℤ} {s s' : System}

theorem call (h : control.Guarding start value s) (hfits : s.Fits) (hguarded : control.Guarded)
    (c : Call) (link : Link) : control.Guarding start value (s.call c link).2 := by
  rcases c.perform_cases hfits.node.fitting link with
    ⟨reply, -, heq⟩ | ⟨state, changed, -, hstep, heq⟩
  · unfold System.call
    rw [heq]
    exact h
  · unfold System.call
    rw [heq]
    refine ⟨h.single, h.start_le, ?_⟩
    rcases h.guarded with hcarried | ⟨hpending, hvalue, hdeclared⟩
    · exact Or.inl hcarried
    · have hsingle := h.single.fits hfits.node.sound hfits.node.state
      rcases hstep.edge hsingle hguarded with ⟨hkept, hshut⟩ | ⟨hopen, -⟩
      · exact Or.inr ⟨hshut hpending, hkept.trans hvalue, hdeclared⟩
      · rw [hpending] at hopen
        simp at hopen

theorem move (h : control.Guarding start value s) (hfits : s.Fits)
    (hmove : System.ReportMove s s') : control.Guarding start value s' := by
  have hsingle := h.single.fits hfits.node.sound hfits.node.state
  cases hmove with
  | pause hsame =>
    refine ⟨hsame.spec.symm ▸ h.single, h.start_le, ?_⟩
    rcases h.guarded with ⟨t, hmem, happlied, hencodes⟩ | hpending
    · exact Or.inl ⟨t, hmem, happlied, hsame.spec.symm ▸ hencodes⟩
    · right
      rw [hsame.state, hsame.spec]
      exact hpending
  | @send now report hcallable hdirty hidle hcarries =>
    have hstate : s.node.state.stamped s.node.spec.config now = s.node.state := by
      generalize s.node.spec.config = config at hsingle ⊢
      generalize s.node.state = state at hsingle ⊢
      cases hsingle <;> rfl
    refine ⟨(Node.sent_spec s.node now).symm ▸ h.single, h.start_le, ?_⟩
    unfold CarriedSince
    rw [Node.sent_spec, Node.sent_state, hstate]
    exact h.guarded
  | @finish report result nativeStatus hinflight hnative =>
    have hspec := (System.transferComplete_spec_dirty s.node result nativeStatus).1
    refine ⟨hspec.symm ▸ h.single, by simpa using h.start_le.trans (Nat.le_succ _), ?_⟩
    unfold CarriedSince
    rw [List.drop_append_of_le_length h.start_le, hspec]
    rcases h.guarded with ⟨t, hmem, happlied, hencodes⟩ | ⟨hpending, hvalue, hdeclared⟩
    · exact Or.inl ⟨t, List.mem_append_left _ hmem, happlied, hencodes⟩
    · by_cases hstall : result = .errStall
      · right
        have hstate : (transferComplete s.node result nativeStatus).state = s.node.state := by
          simp [transferComplete, mayHaveApplied, hstall, Node.publishCompletion]
        rw [hstate]
        exact ⟨hpending, hvalue, hdeclared⟩
      · left
        refine ⟨⟨report, result⟩, List.mem_append_right _ (List.mem_singleton_self _), hstall, ?_⟩
        rw [← hvalue]
        exact Control.encodes_of_carries hfits.node.sound hsingle hdeclared
          (hfits.carries report hinflight)

/-- **A change is carried, or its guard stays shut.** -/
theorem run (h : control.Guarding start value s) (hfits : s.Fits) (hguarded : control.Guarded)
    (events : List Event) (hopen : ∀ e ∈ events, e.isClose = false) :
    (s.run events).Fits ∧ control.Guarding start value (s.run events) :=
  System.run_invariant (P := control.Guarding start value)
    (fun _ hfits h c link => h.call hfits hguarded c link)
    (fun _ _ hfits h hmove => h.move hfits hmove) events hopen hfits h

end Control.Guarding

/-- **No edge is lost on single-report profiles.** A successful call changes a control of a
Keyboard, Mouse, Toggle or Gamepad to a value. Whatever happens before a close, a later successful
call that takes the control away from the value finds a report in between that encodes the value
and may have been applied. Until there is one, and with no report in flight, the later call
answers `AOAHID_ERR_BUSY` and changes nothing. -/
theorem edge_carried {spec : Spec} (hspec : Generated spec) (hsingle : spec.IsSingleReport)
    {s : System} (hreach : BeforeClose spec s) {control : Control} (hguarded : control.Guarded)
    {first : Call} {firstLink : Link} {after : System}
    (hafter : after = (s.call first firstLink).2)
    (hchange : control.value after.node.state ≠ control.value s.node.state)
    {events : List Event} (hopen : ∀ e ∈ events, e.isClose = false) {later : System}
    (hlater : later = after.run events) (second : Call) (secondLink : Link) :
    ((later.call second secondLink).1.result = .ok →
      control.value later.node.state = control.value after.node.state →
      control.value (later.call second secondLink).2.node.state ≠
        control.value after.node.state →
      ∃ t ∈ later.wire.drop after.wire.length, t.MayHaveApplied ∧
        control.Encodes spec t.report (control.value after.node.state)) ∧
    ((¬∃ t ∈ later.wire.drop after.wire.length, t.MayHaveApplied ∧
        control.Encodes spec t.report (control.value after.node.state)) →
      later.inflight = none →
      later.node.WouldChange second secondLink control (control.value after.node.state) →
      (later.call second secondLink).1.result = .errBusy ∧
        (later.call second secondLink).2 = later) := by
  obtain ⟨hfits, rfl⟩ := hreach.fits hspec.sound
  have hbefore := hsingle.fits hfits.node.sound hfits.node.state
  have hstart : control.Guarding after.wire.length (control.value after.node.state) after ∧
      after.Fits ∧ after.node.spec = s.node.spec := by
    have hafterFits : after.Fits := hafter ▸ hfits.call first firstLink
    unfold System.call at hafter
    rcases first.perform_cases hfits.node.fitting firstLink with
      ⟨reply, -, heq⟩ | ⟨state, changed, -, hstep, heq⟩
    · rw [heq] at hafter
      exact absurd (by rw [hafter]) hchange
    · rw [heq] at hafter
      rcases hstep.edge hbefore hguarded with ⟨hkept, -⟩ | ⟨-, hshut, hdeclared⟩
      · exact absurd (by rw [hafter]; exact hkept) hchange
      · refine ⟨⟨?_, le_rfl, Or.inr ⟨?_, rfl, ?_⟩⟩, hafterFits, ?_⟩ <;> rw [hafter]
        · exact hsingle
        · exact hshut
        · exact hdeclared
  obtain ⟨hguarding, hafterFits, hafterSpec⟩ := hstart
  obtain ⟨hlaterFits, hlaterGuarding⟩ := hguarding.run hafterFits hguarded events hopen
  have hlaterSpec : later.node.spec = s.node.spec := by
    rw [hlater, ← hafterSpec]
    exact System.run_spec_eq hafterFits events
  rw [← hlater] at hlaterFits hlaterGuarding
  have hlaterSingle := hlaterGuarding.single.fits hlaterFits.node.sound hlaterFits.node.state
  have hcarried : control.CarriedSince after.wire.length (control.value after.node.state) later ↔
      ∃ t ∈ later.wire.drop after.wire.length, t.MayHaveApplied ∧
        control.Encodes s.node.spec t.report (control.value after.node.state) := by
    unfold Control.CarriedSince
    rw [hlaterSpec]
  rw [← hcarried]
  constructor
  · intro hok hvalue hchanges
    rcases hlaterGuarding.guarded with hdone | ⟨hpending, -, -⟩
    · exact hdone
    · unfold System.call at hok hchanges
      rcases second.perform_cases hlaterFits.node.fitting secondLink with
        ⟨reply, hrefuses, heq⟩ | ⟨state, changed, -, hstep, heq⟩
      · rw [heq] at hok
        exact absurd hok hrefuses.ne_ok
      · rw [heq] at hchanges
        rcases hstep.edge hlaterSingle hguarded with ⟨hkept, -⟩ | ⟨hshut, -⟩
        · exact absurd (hkept.trans hvalue) hchanges
        · rw [hpending] at hshut
          simp at hshut
  · intro hnone _ hwould
    rcases hlaterGuarding.guarded with hdone | ⟨hpending, hvalue, -⟩
    · exact absurd hdone hnone
    · obtain ⟨hbusy, hsame⟩ := busy_of_pending hlaterFits.node hlaterSingle hguarded hpending
        (hvalue ▸ hwould)
      refine ⟨hbusy, ?_⟩
      unfold System.call
      dsimp only
      rw [hsame]

/-- The sample mouse with its first button down. -/
def pressedMouse : System := (sampleOpened.call (.mouseButton 1 1) .present).2

/-- A report that times out. -/
def timedOutReport : List Event :=
  [.submit { acquire := .ok (List.replicate 8 0xFF) }, .complete .timedOut 0]

theorem edge_carried_pressedMouse :
    ∃ t ∈ (pressedMouse.run timedOutReport).wire.drop pressedMouse.wire.length,
      t.MayHaveApplied ∧ (Control.button 0).Encodes sampleMouse t.report
        ((Control.button 0).value pressedMouse.node.state) :=
  (edge_carried generated_sampleMouse (Or.inr (Or.inl rfl)) (.opened opened_sampleOpened)
    (by simp [Control.Guarded]) rfl (by decide) (by simp [timedOutReport, Event.isClose]) rfl
    (.mouseButton 1 0) .present).1 (by decide +kernel) (by decide +kernel) (by decide +kernel)

end LibaoaHid

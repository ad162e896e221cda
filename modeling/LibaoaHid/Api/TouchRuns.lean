import LibaoaHid.Profiles.TouchReports
import LibaoaHid.Api.Reachable
import Mathlib.Data.List.Induction

/-!
# Runs of a touch Node

A touch Node and its wire, seen as the contacts of the Node and the packets that the other side
has read. The moves of a run become the moves of a small machine: a packet is sent, refused,
delivered, or lost; the state changes between two frames only. The claims about touch frames are
proved on this machine.

## Main definitions

* `TouchView`, `touchView`: the packets of a wire.
* `TouchRun`, `TouchReport`, `TouchMove`: the machine and its moves.
* `System.Shows`: a Node and its wire show a state of the machine.

## Main results

* `System.Shows.call`, `System.Shows.report`, `System.Shows.close`: every step of a Node is a move
  of the machine.
* `System.Showing.run`: the induction over runs.
-/

namespace LibaoaHid

/-! ### The packets of a wire -/

/-- The packets of a wire that may have been applied, and what the frame of the last one has
left. -/
structure TouchView where
  remaining : ℕ := 0
  packets : List TouchPacket := []
  deriving DecidableEq

/-- One more packet. -/
def TouchView.add (view : TouchView) (packet : TouchPacket) : TouchView where
  remaining := packet.remaining
  packets := view.packets ++ [packet]

@[simp] theorem TouchView.add_remaining (view : TouchView) (packet : TouchPacket) :
    (view.add packet).remaining = packet.remaining := rfl

@[simp] theorem TouchView.add_packets (view : TouchView) (packet : TouchPacket) :
    (view.add packet).packets = view.packets ++ [packet] := rfl

/-- The other side reads the next report of the wire. -/
def TouchView.see (layout : ReportLayout) (view : TouchView) (t : Transmission) : TouchView :=
  if t.MayHaveApplied then
    view.add (TouchPacket.decode layout view.remaining t.report t.result)
  else view

/-- The other side reads a wire. -/
def touchView (layout : ReportLayout) (wire : List Transmission) : TouchView :=
  wire.foldl (TouchView.see layout) {}

theorem touchView_append (layout : ReportLayout) (wire : List Transmission) (t : Transmission) :
    touchView layout (wire ++ [t]) = (touchView layout wire).see layout t := by
  rw [touchView, List.foldl_append]
  rfl

/-- The other side has read the reports that may have been applied. -/
theorem length_packets_touchView (layout : ReportLayout) (wire : List Transmission) :
    (touchView layout wire).packets.length = wire.countP fun t => t.MayHaveApplied := by
  induction wire using List.reverseRecOn with
  | nil => rfl
  | append_singleton wire t ih =>
    rw [touchView_append, List.countP_append, ← ih, TouchView.see]
    by_cases h : t.MayHaveApplied
    · rw [if_pos h, TouchView.add_packets, List.length_append, List.countP_singleton,
        if_pos (decide_eq_true h)]
      rfl
    · rw [if_neg h, List.countP_singleton, if_neg (by simpa using h), Nat.add_zero]

/-! ### Touch states -/

namespace TouchState

variable (touch : TouchState) (f : TouchFields) (now : ℤ)

/-- `NodeState.stamped` on a touch state. -/
def stamped : TouchState :=
  if touch.packetCursor = 0 ∧ f.enableScanTime = 1 then stampScanTime touch f now else touch

theorem stamped_eq (c : TouchConfig) :
    NodeState.stamped (.touch touch) (.touch c) now = .touch (touch.stamped c.fields now) := by
  unfold NodeState.stamped stamped
  dsimp only
  split_ifs <;> rfl

/-- The packets behind the first one keep the Scan Time of their frame. -/
theorem stamped_of_frame (h : touch.packetCursor ≠ 0) : touch.stamped f now = touch :=
  if_neg fun hboth => h hboth.1

/-- Stamping changes the Scan Time only. -/
theorem stamped_frame : ∃ scanTime scanEpoch scanEpochActive,
    touch.stamped f now = { touch with scanTime, scanEpoch, scanEpochActive } := by
  unfold stamped stampScanTime
  split_ifs
  · exact ⟨_, _, _, rfl⟩
  · exact ⟨_, _, _, rfl⟩
  · exact ⟨_, _, _, rfl⟩

@[simp] theorem stamped_contacts : (touch.stamped f now).contacts = touch.contacts := by
  obtain ⟨_, _, _, h⟩ := touch.stamped_frame f now
  rw [h]

@[simp] theorem stamped_packetCursor :
    (touch.stamped f now).packetCursor = touch.packetCursor := by
  obtain ⟨_, _, _, h⟩ := touch.stamped_frame f now
  rw [h]

@[simp] theorem stamped_buttons : (touch.stamped f now).buttons = touch.buttons := by
  obtain ⟨_, _, _, h⟩ := touch.stamped_frame f now
  rw [h]

/-- The state with its edge guards open. -/
def released : TouchState :=
  { touch with
    contacts := touch.contacts.map fun contact =>
      { contact with lifecycleTransitionPending := false }
    buttonTransitions := touch.buttonTransitions.map fun _ => 0 }

/-- The frame is abandoned: it starts again. -/
def abandoned : TouchState := { touch with packetCursor := 0 }

/-- The packet was delivered, and the frame goes on behind it. -/
def advanced : TouchState :=
  { touch with packetCursor := touch.packetCursor + (touch.packetContacts f).length }

end TouchState

/-! ### The machine -/

/-- A touch Node as a machine: its state, whether it is dirty, whether a packet is in flight, and
the packets that the other side has read. -/
structure TouchRun where
  touch : TouchState
  dirty : Bool := false
  sent : Bool := false
  view : TouchView := {}

/-- What a submit or a completion does, when packets complete with the allowed results. -/
inductive TouchReport (c : TouchConfig) (allowed : Result → Prop) : TouchRun → TouchRun → Prop
  | keep {r : TouchRun} : TouchReport c allowed r r
  | send {r : TouchRun} (now : ℤ) (hidle : r.sent = false) (hdirty : r.dirty = true) :
      TouchReport c allowed r { r with touch := r.touch.stamped c.fields now, sent := true }
  | stall {r : TouchRun} (hsent : r.sent = true) (hallowed : allowed .errStall) :
      TouchReport c allowed r { r with dirty := true, sent := false }
  | advance {r : TouchRun} (hsent : r.sent = true) (hallowed : allowed .ok)
      (hmore : r.touch.packetCursor + (r.touch.packetContacts c.fields).length <
        r.touch.activeCount) :
      TouchReport c allowed r
        { touch := r.touch.advanced c.fields
          dirty := true
          view := r.view.add (r.touch.packet c.fields .ok) }
  | finish {r : TouchRun} (hsent : r.sent = true) (hallowed : allowed .ok)
      (hlast : r.touch.activeCount ≤
        r.touch.packetCursor + (r.touch.packetContacts c.fields).length) :
      TouchReport c allowed r
        { touch := (finishFrame r.touch).released
          view := r.view.add (r.touch.packet c.fields .ok) }
  | abandon {r : TouchRun} {result : Result} (hsent : r.sent = true) (hallowed : allowed result)
      (hok : result ≠ .ok) (hstall : result ≠ .errStall) :
      TouchReport c allowed r
        { touch := r.touch.abandoned.released
          view := r.view.add (r.touch.packet c.fields result) }

/-- The moves of a touch Node: reports, and between two frames the calls and the neutral state of
a close. -/
inductive TouchMove (c : TouchConfig) (allowed : Result → Prop) : TouchRun → TouchRun → Prop
  | report {r r' : TouchRun} (h : TouchReport c allowed r r') : TouchMove c allowed r r'
  | call {r : TouchRun} {call : Call} {touch : TouchState} {changed : Bool}
      (hidle : r.sent = false)
      (hstep : CallStep (.touch c) call (.touch r.touch) (.touch touch) changed) :
      TouchMove c allowed r { r with touch, dirty := r.dirty || changed }
  | neutral {r : TouchRun} (held : Bool) (hidle : r.sent = false)
      (hcursor : r.touch.packetCursor = 0) :
      TouchMove c allowed r
        { r with
          touch := (neutralizeTouch r.touch).1
          dirty := (neutralizeTouch r.touch).2 || held }

/-- The packets of the wire stay. -/
theorem TouchReport.packets_prefix {c : TouchConfig} {allowed : Result → Prop} {r r' : TouchRun}
    (h : TouchReport c allowed r r') : r.view.packets <+: r'.view.packets := by
  cases h with
  | keep | send | stall => exact List.prefix_rfl
  | advance | finish | abandon => exact List.prefix_append _ _

theorem TouchMove.packets_prefix {c : TouchConfig} {allowed : Result → Prop} {r r' : TouchRun}
    (h : TouchMove c allowed r r') : r.view.packets <+: r'.view.packets := by
  cases h with
  | report h => exact h.packets_prefix
  | call | neutral => exact List.prefix_rfl

/-! ### What a Node shows -/

/-- A touch Node and its wire show a state of the machine. -/
structure System.Shows (s : System) (c : TouchConfig) (r : TouchRun) : Prop where
  config : s.node.spec.config = .touch c
  state : s.node.state = .touch r.touch
  dirty : s.node.dirty = r.dirty
  sent : s.inflight.isSome = r.sent
  view : touchView s.node.spec.layout s.wire = r.view
  awaited : r.touch.Awaited r.view.remaining
  packet : s.inflight.isSome = true →
    s.node.submittedTouchCount = (r.touch.packetContacts c.fields).length ∧
      s.node.submittedTouchFinalPacket = decide (r.touch.activeCount ≤
        r.touch.packetCursor + (r.touch.packetContacts c.fields).length)

namespace TouchState.Awaited

variable {touch touch' : TouchState} {remaining : ℕ}

theorem congr (h : touch.Awaited remaining) (hcontacts : touch'.activeCount = touch.activeCount)
    (hcursor : touch'.packetCursor = touch.packetCursor) : touch'.Awaited remaining where
  empty := hcontacts ▸ h.empty
  frame := by
    rw [hcontacts, hcursor]
    exact h.frame

/-- Between two frames only the contacts count. -/
theorem of_between (h : touch.Awaited remaining)
    (hactive : touch'.activeCount = 0 → touch.activeCount = 0)
    (hcursor : touch'.packetCursor = 0) : touch'.Awaited remaining where
  empty hzero := h.empty (hactive hzero)
  frame hne := absurd hcursor hne

end TouchState.Awaited

theorem activeCount_congr {touch touch' : TouchState} (h : touch'.contacts = touch.contacts) :
    touch'.activeCount = touch.activeCount := by
  unfold TouchState.activeCount
  rw [h]

theorem activeCount_released (touch : TouchState) :
    touch.released.activeCount = touch.activeCount := by
  unfold TouchState.activeCount TouchState.released
  rw [List.countP_map]
  rfl

section Calls

variable {c : TouchConfig} {call' : Call} {touch touch' : TouchState} {changed : Bool}

/-- A call on a touch Node leaves a touch state. -/
theorem CallStep.exists_touch {state : NodeState}
    (h : CallStep (.touch c) call' (.touch touch) state changed) :
    ∃ touch', state = .touch touch' := by
  cases h <;> exact ⟨_, rfl⟩

/-- A call frees no contact. -/
theorem CallStep.activeCount_le
    (h : CallStep (.touch c) call' (.touch touch) (.touch touch') changed) :
    touch.activeCount ≤ touch'.activeCount := by
  cases h with
  | keep | touchpadButton => exact le_rfl
  | @lift _ _ _ x y _ slot contact hslot hdown =>
    have hactive := activeCount_set (liftedContact contact x y) hslot
    rw [show contact.isActive = true by rw [ContactState.isActive, hdown]; rfl] at hactive
    exact (Nat.add_right_cancel hactive).ge
  | @move _ _ contactId _ x y extra _ slot contact hslot hdown =>
    have hactive := activeCount_set { contact with sample := touchSample contactId x y extra } hslot
    exact (Nat.add_right_cancel hactive).ge
  | @place _ _ contactId _ x y extra slot contact hslot hfree =>
    have hactive := activeCount_set
      { phase := .down
        sample := touchSample contactId x y extra
        lifecycleTransitionPending := true } hslot
    rw [show contact.isActive = false by rw [ContactState.isActive, hfree]; rfl] at hactive
    exact (Nat.le_add_right _ _).trans hactive.ge

/-- An entry of a list outlives the change of another one. -/
theorem mem_set_or_eq {α : Type} {l : List α} {i : ℕ} {old x : α} (next : α)
    (hi : l[i]? = some old) (hx : x ∈ l) : x ∈ l.set i next ∨ x = old := by
  obtain ⟨j, hj⟩ := List.mem_iff_getElem?.mp hx
  by_cases hij : i = j
  · subst hij
    exact Or.inr (Option.some.inj (hj.symm.trans hi))
  · exact Or.inl (List.mem_of_getElem? ((List.getElem?_set_ne hij).trans hj))

/-- A call keeps the slot of an active contact. -/
theorem CallStep.exists_contact
    (h : CallStep (.touch c) call' (.touch touch) (.touch touch') changed)
    {contact : ContactState} (hmem : contact ∈ touch.contacts) (hactive : contact.isActive = true) :
    ∃ next ∈ touch'.contacts, next.isActive = true ∧
      next.sample.contactId = contact.sample.contactId := by
  cases h with
  | keep | touchpadButton => exact ⟨contact, hmem, hactive, rfl⟩
  | @lift _ _ _ x y _ slot old hslot hdown =>
    rcases mem_set_or_eq (liftedContact old x y) hslot hmem with hother | rfl
    · exact ⟨contact, hother, hactive, rfl⟩
    · exact ⟨_, List.mem_set (List.getElem?_eq_some_iff.mp hslot).1 _, rfl, rfl⟩
  | @move _ _ contactId _ x y extra _ slot old hslot hdown hid =>
    rcases mem_set_or_eq { old with sample := touchSample contactId x y extra } hslot hmem with
      hother | rfl
    · exact ⟨contact, hother, hactive, rfl⟩
    · exact ⟨_, List.mem_set (List.getElem?_eq_some_iff.mp hslot).1 _, hactive, hid.symm⟩
  | @place _ _ contactId _ x y extra slot old hslot hfree =>
    rcases mem_set_or_eq
      { phase := .down
        sample := touchSample contactId x y extra
        lifecycleTransitionPending := true } hslot hmem with hother | rfl
    · exact ⟨contact, hother, hactive, rfl⟩
    · rw [ContactState.isActive, hfree] at hactive
      simp at hactive

theorem TouchState.Awaited.call {remaining : ℕ} (h : touch.Awaited remaining)
    (hstep : CallStep (.touch c) call' (.touch touch) (.touch touch') changed) :
    touch'.Awaited remaining := by
  by_cases hcursor : touch'.packetCursor = 0
  · refine h.of_between (fun hzero => ?_) hcursor
    have := hstep.activeCount_le
    omega
  · cases hstep.eq_of_packetCursor_ne_zero rfl hcursor
    exact h

end Calls

/-! ### Completions -/

section Completions

variable {node : Node} {touch : TouchState} {nativeStatus : ℤ}

/-- A packet that was refused is pending again. -/
theorem transferComplete_stall (node : Node) (nativeStatus : ℤ) :
    (transferComplete node .errStall nativeStatus).state = node.state ∧
      (transferComplete node .errStall nativeStatus).dirty = true := by
  unfold transferComplete mayHaveApplied
  simp [Node.publishCompletion]

/-- The last packet of a frame. -/
theorem transferComplete_finish (hstate : node.state = .touch touch) (hnative : 0 ≤ nativeStatus)
    (hfinal : node.submittedTouchFinalPacket = true) :
    (transferComplete node .ok nativeStatus).state = .touch (finishFrame touch).released ∧
      (transferComplete node .ok nativeStatus).dirty = false := by
  unfold transferComplete mayHaveApplied completeState
  simp [hstate, hnative, hfinal, Node.publishCompletion, consumeLifecycleTransitions,
    TouchState.released]

/-- A packet behind which the frame goes on. -/
theorem transferComplete_advance (hstate : node.state = .touch touch) (hnative : 0 ≤ nativeStatus)
    (hfinal : node.submittedTouchFinalPacket = false) :
    (transferComplete node .ok nativeStatus).state =
        .touch { touch with packetCursor := touch.packetCursor + node.submittedTouchCount } ∧
      (transferComplete node .ok nativeStatus).dirty = true := by
  unfold transferComplete mayHaveApplied completeState
  simp [hstate, hnative, hfinal, Node.publishCompletion]

/-- A packet whose delivery is not known ends its frame. -/
theorem transferComplete_abandon {result : Result} (hstate : node.state = .touch touch)
    (hnative : 0 ≤ nativeStatus) (hok : result ≠ .ok) (hstall : result ≠ .errStall) :
    (transferComplete node result nativeStatus).state = .touch touch.abandoned.released ∧
      (transferComplete node result nativeStatus).dirty = false := by
  unfold transferComplete mayHaveApplied completeState
  simp [hstate, hnative, hok, hstall, Node.publishCompletion, consumeLifecycleTransitions,
    TouchState.released, TouchState.abandoned]

/-- The kinds of a touch configuration. -/
theorem SpecConfig.Accepted.touch_kind {kind : ProfileKind} {config : SpecConfig}
    {c : TouchConfig} (h : SpecConfig.Accepted kind config) (hconfig : config = .touch c) :
    kind = .touchscreen ∨ kind = .touchpad := by
  subst hconfig
  cases kind <;> first | exact h.elim | simp

/-- The configuration of a touch kind. -/
theorem SpecConfig.Accepted.exists_touch {kind : ProfileKind} {config : SpecConfig}
    (h : SpecConfig.Accepted kind config) (hkind : kind = .touchscreen ∨ kind = .touchpad) :
    ∃ c, config = .touch c := by
  rcases hkind with rfl | rfl <;>
  · cases config <;> first | exact h.elim | exact ⟨_, rfl⟩

theorem Generated.exists_touch {spec : Spec} (hspec : Generated spec)
    (hkind : spec.kind = .touchscreen ∨ spec.kind = .touchpad) : ∃ c, spec.config = .touch c :=
  hspec.sound.accepted.exists_touch hkind

theorem kind_sampleTouchpad : sampleTouchpad.kind = .touchpad := by decide +kernel

theorem config_sampleTouchpad : ∃ c, sampleTouchpad.config = .touch c :=
  generated_sampleTouchpad.exists_touch (Or.inr kind_sampleTouchpad)

end Completions

/-! ### Steps -/

namespace System

variable {s s' : System} {c : TouchConfig} {r : TouchRun}

theorem Shows.fits (h : s.Shows c r) (hfits : s.Fits) : r.touch.Fits c.fields := by
  have hstate := hfits.node.state
  rw [h.config, h.state] at hstate
  exact hstate

/-- The packet in flight. -/
theorem Shows.decode (h : s.Shows c r) (hfits : s.Fits) {report : List UInt8}
    (hinflight : s.inflight = some report) (result : Result) :
    TouchPacket.decode s.node.spec.layout r.view.remaining report result =
      r.touch.packet c.fields result :=
  decode_of_carries (h.state ▸ hfits.carries report hinflight) hfits.node.sound h.config
    (h.fits hfits) h.awaited result

/-- A profile call is a move. -/
theorem Shows.call (h : s.Shows c r) (hfits : s.Fits) (allowed : Result → Prop) (call : Call)
    (link : Link) : ∃ r', TouchMove c allowed r r' ∧ (s.call call link).2.Shows c r' := by
  unfold System.call
  rcases call.perform_cases hfits.node.fitting link with
    ⟨reply, -, heq⟩ | ⟨state, changed, hcallable, hstep, heq⟩
  · rw [heq]
    exact ⟨r, .report .keep, h⟩
  · rw [heq]
    have hidle : s.inflight.isSome = false := hfits.inflight.symm.trans hcallable.idle
    rw [h.config, h.state] at hstep
    obtain ⟨touch, rfl⟩ := hstep.exists_touch
    refine ⟨_, .call (h.sent.symm.trans hidle) hstep,
      { config := h.config
        state := rfl
        dirty := congrArg (· || changed) h.dirty
        sent := h.sent
        view := h.view
        awaited := ?_
        packet := fun hsent => absurd (hidle.symm.trans hsent) (by simp) }⟩
    exact h.awaited.call hstep

/-- A loop that polls changes nothing. -/
private theorem Shows.pause (h : s.Shows c r) (hfits : s.Fits) {node : Node}
    (hsame : s.node.Same node) : { s with node }.Shows c r where
  config := hsame.spec ▸ h.config
  state := hsame.state.trans h.state
  dirty := hsame.dirty.trans h.dirty
  sent := h.sent
  view := hsame.spec.symm ▸ h.view
  awaited := h.awaited
  packet hsent := by
    obtain ⟨hcount, hfinal⟩ := hsame.packet (hfits.inflight.trans hsent)
    exact ⟨hcount.trans (h.packet hsent).1, hfinal.trans (h.packet hsent).2⟩

/-- A submit stamps the state and sends its next packet. -/
private theorem Shows.send (h : s.Shows c r) (now : ℤ) (report : List UInt8) :
    { s with node := s.node.sent now, inflight := some report }.Shows c
      { r with touch := r.touch.stamped c.fields now, sent := true } := by
  have hstate : s.node.state.stamped s.node.spec.config now =
      .touch (r.touch.stamped c.fields now) := by
    rw [h.config, h.state, TouchState.stamped_eq]
  have hactive := activeCount_congr (r.touch.stamped_contacts c.fields now)
  have hcursor := r.touch.stamped_packetCursor c.fields now
  obtain ⟨hcount, hfinal⟩ := Node.sent_packet h.config hstate
  refine
    { config := (congrArg Spec.config (Node.sent_spec s.node now)).trans h.config
      state := (Node.sent_state s.node now).trans hstate
      dirty := (Node.sent_dirty s.node now).trans h.dirty
      sent := rfl
      view := (Node.sent_spec s.node now).symm ▸ h.view
      awaited := h.awaited.congr hactive hcursor
      packet := fun _ => ⟨?_, ?_⟩ }
  · rw [TouchState.length_packetContacts]
    exact hcount
  · refine hfinal.trans ?_
    rw [TouchState.length_packetContacts]

/-- What the other side reads of a completion. -/
private theorem Shows.view_finish (h : s.Shows c r) (hfits : s.Fits) {report : List UInt8}
    (hinflight : s.inflight = some report) (result : Result) :
    touchView s.node.spec.layout (s.wire ++ [⟨report, result⟩]) =
      if result = .errStall then r.view else r.view.add (r.touch.packet c.fields result) := by
  rw [touchView_append, TouchView.see, h.view]
  dsimp only
  rw [h.decode hfits hinflight]
  by_cases hstall : result = .errStall
  · rw [if_pos hstall]
    exact if_neg (not_not.mpr hstall)
  · rw [if_neg hstall]
    exact if_pos hstall

/-- A completion shows the state that it leaves, when the frame in it is the awaited one. -/
private theorem Shows.completed (h : s.Shows c r) (hfits : s.Fits) {report : List UInt8}
    {result : Result} {nativeStatus : ℤ} (hinflight : s.inflight = some report)
    {touch : TouchState} {dirty : Bool} {view : TouchView}
    (hcompleted : (transferComplete s.node result nativeStatus).state = .touch touch ∧
      (transferComplete s.node result nativeStatus).dirty = dirty)
    (hview : (if result = .errStall then r.view
      else r.view.add (r.touch.packet c.fields result)) = view)
    (hawaited : touch.Awaited view.remaining) :
    System.Shows
      { node := transferComplete s.node result nativeStatus
        wire := s.wire ++ [⟨report, result⟩]
        inflight := none } c { touch, dirty, view } := by
  have hspec := (transferComplete_spec_dirty s.node result nativeStatus).1
  refine
    { config := (congrArg Spec.config hspec).trans h.config
      state := hcompleted.1
      dirty := hcompleted.2
      sent := rfl
      view := ?_
      awaited := hawaited
      packet := fun hsent => by simp at hsent }
  rw [hspec]
  exact (h.view_finish hfits hinflight result).trans hview

section Awaited

variable (touch : TouchState) (f : TouchFields) (view : TouchView) (result : Result)

/-- Behind the last packet of a frame nothing is awaited. -/
private theorem awaited_finish
    (hlast : touch.activeCount ≤ touch.packetCursor + (touch.packetContacts f).length) :
    (finishFrame touch).released.Awaited (view.add (touch.packet f result)).remaining where
  empty _ := by
    simp only [TouchView.add_remaining, TouchState.packet]
    omega
  frame hcursor := absurd rfl hcursor

/-- Behind the other packets the rest of the frame is awaited. -/
private theorem awaited_advance
    (hmore : touch.packetCursor + (touch.packetContacts f).length < touch.activeCount) :
    (touch.advanced f).Awaited (view.add (touch.packet f result)).remaining := by
  have hactive : (touch.advanced f).activeCount = touch.activeCount := activeCount_congr rfl
  refine ⟨fun hzero => absurd (hactive.symm.trans hzero) (by omega), fun _ => ?_⟩
  rw [hactive]
  simp only [TouchView.add_remaining, TouchState.packet, TouchState.advanced]
  omega

/-- Behind an abandoned frame the other side waits for a frame that is announced again. -/
private theorem awaited_abandon :
    touch.abandoned.released.Awaited (view.add (touch.packet f result)).remaining where
  empty hzero := by
    rw [activeCount_released] at hzero
    have hzero : touch.activeCount = 0 := hzero
    simp only [TouchView.add_remaining, TouchState.packet]
    omega
  frame hcursor := absurd rfl hcursor

end Awaited

/-- A completion is a move: the packet was refused, delivered as the last one or before others, or
lost. -/
private theorem Shows.finish (h : s.Shows c r) (hfits : s.Fits) {allowed : Result → Prop}
    {report : List UInt8} {result : Result} {nativeStatus : ℤ}
    (hinflight : s.inflight = some report) (hnative : 0 ≤ nativeStatus)
    (hallowed : allowed result) :
    ∃ r', TouchReport c allowed r r' ∧ System.Shows
      { node := transferComplete s.node result nativeStatus
        wire := s.wire ++ [⟨report, result⟩]
        inflight := none } c r' := by
  have hsent : r.sent = true := by rw [← h.sent, hinflight]; rfl
  obtain ⟨hcount, hfinal⟩ := h.packet (by rw [hinflight]; rfl)
  by_cases hstall : result = .errStall
  · subst hstall
    obtain ⟨hstate, hdirty⟩ := transferComplete_stall s.node nativeStatus
    exact ⟨_, .stall hsent hallowed,
      h.completed hfits hinflight ⟨hstate.trans h.state, hdirty⟩ (if_pos rfl) h.awaited⟩
  by_cases hok : result = .ok
  · subst hok
    by_cases hlast : r.touch.activeCount ≤
        r.touch.packetCursor + (r.touch.packetContacts c.fields).length
    · rw [decide_eq_true hlast] at hfinal
      exact ⟨_, .finish hsent hallowed hlast,
        h.completed hfits hinflight (transferComplete_finish h.state hnative hfinal)
          (if_neg hstall) (awaited_finish r.touch c.fields r.view .ok hlast)⟩
    · rw [decide_eq_false hlast] at hfinal
      have hcompleted := transferComplete_advance h.state hnative hfinal
      rw [hcount] at hcompleted
      have hmore := not_le.mp hlast
      exact ⟨_, .advance hsent hallowed hmore,
        h.completed hfits hinflight hcompleted (if_neg hstall)
          (awaited_advance r.touch c.fields r.view .ok hmore)⟩
  · exact ⟨_, .abandon hsent hallowed hok hstall,
      h.completed hfits hinflight (transferComplete_abandon h.state hnative hok hstall)
        (if_neg hstall) (awaited_abandon r.touch c.fields r.view result)⟩

/-- What a submit, a completion or a loop does is a move. -/
theorem Shows.report (h : s.Shows c r) (hfits : s.Fits) {allowed : Result → Prop}
    (hmove : ReportMove s s') (hallowed : ∀ t ∈ s'.wire.drop s.wire.length, allowed t.result) :
    ∃ r', TouchReport c allowed r r' ∧ s'.Shows c r' := by
  cases hmove with
  | pause hsame => exact ⟨r, .keep, h.pause hfits hsame⟩
  | @send now report hcallable hdirty hidle hcarries =>
    exact ⟨_, .send now (h.sent.symm.trans (by rw [hidle]; rfl)) (h.dirty.symm.trans hdirty),
      h.send now report⟩
  | finish hinflight hnative =>
    exact h.finish hfits hinflight hnative (by simpa using hallowed)

/-- What a close does is a move. -/
theorem Shows.close (h : s.Shows c r) (hfits : s.Fits) {allowed : Result → Prop}
    (hmove : CloseMove s s') (hallowed : ∀ t ∈ s'.wire.drop s.wire.length, allowed t.result) :
    ∃ r', TouchMove c allowed r r' ∧ s'.Shows c r' := by
  cases hmove with
  | report hmove =>
    obtain ⟨r', hreport, hshows⟩ := h.report hfits hmove hallowed
    exact ⟨r', .report hreport, hshows⟩
  | neutral hidle hopen hframe =>
    have hcursor : r.touch.packetCursor = 0 := by
      unfold touchFrameInProgress at hframe
      rw [h.state] at hframe
      simpa using hframe
    have hkind := hfits.node.sound.accepted.touch_kind h.config
    refine ⟨_, .neutral s.node.emittedNonNeutral (h.sent.symm.trans (by rw [hidle]; rfl)) hcursor,
      { config := h.config
        state := ?_
        dirty := ?_
        sent := h.sent
        view := h.view
        awaited := h.awaited.congr (activeCount_neutralizeTouch r.touch) hcursor.symm
        packet := fun hsent => by simp [hidle] at hsent }⟩
    · unfold makeNeutral neutralizeState
      rw [h.state]
    · unfold makeNeutral neutralizeState
      rw [h.state]
      rcases hkind with hkind | hkind <;> rw [hkind] <;>
        exact ((Bool.and_true _).trans (Bool.and_true _))
  | release hidle =>
    exact ⟨r, .report .keep,
      { config := h.config
        state := h.state
        dirty := h.dirty
        sent := h.sent
        view := h.view
        awaited := h.awaited
        packet := h.packet }⟩

/-! ### Runs -/

/-- Every report that completed since a point of the wire has an allowed result. -/
def Allows (allowed : Result → Prop) (start : ℕ) (s : System) : Prop :=
  ∀ t ∈ s.wire.drop start, allowed t.result

theorem Allows.of_prefix {allowed : Result → Prop} {start : ℕ} (h : s'.Allows allowed start)
    (hearlier : s.wire <+: s'.wire) : s.Allows allowed start := by
  intro t ht
  obtain ⟨added, heq⟩ := hearlier
  apply h t
  rw [← heq, List.drop_append]
  exact List.mem_append_left _ ht

theorem Allows.later {allowed : Result → Prop} {start later : ℕ} (h : s.Allows allowed start)
    (hle : start ≤ later) : s.Allows allowed later :=
  fun t ht => h t (List.drop_subset_drop_left _ hle ht)

theorem Allows.always (start : ℕ) (s : System) : s.Allows (fun _ => True) start :=
  fun _ _ => trivial

/-- A property that the moves keep, of a state that the Node shows. -/
def Showing (s : System) (c : TouchConfig) (P : TouchRun → Prop) : Prop :=
  ∃ r, s.Shows c r ∧ P r

section Runs

variable {P : TouchRun → Prop} {allowed : Result → Prop}

/-- Induction over reports. -/
theorem Showing.reports
    (hstep : ∀ r r', r.touch.Fits c.fields → P r → TouchReport c allowed r r' → P r')
    (h : s.Showing c P) (hfits : s.Fits) (hmoves : Relation.ReflTransGen ReportMove s s')
    (hallows : s'.Allows allowed s.wire.length) : s'.Showing c P := by
  have hgrows : s.wire <+: s'.wire ∧ s'.Fits ∧ s'.Showing c P := by
    induction hmoves with
    | refl => exact ⟨List.prefix_rfl, hfits, h⟩
    | @tail mid last _ hmove ih =>
      obtain ⟨hearlier, hmid, r, hshows, hr⟩ := ih (hallows.of_prefix hmove.wire_prefix)
      obtain ⟨r', hnext, hshows'⟩ :=
        hshows.report hmid hmove (hallows.later hearlier.length_le)
      exact ⟨hearlier.trans hmove.wire_prefix, hmove.fits hmid, r', hshows',
        hstep r r' (hshows.fits hmid) hr hnext⟩
  exact hgrows.2.2

/-- Every step of a touch Node is a move of the machine. -/
theorem Shows.move (h : s.Shows c r) (hfits : s.Fits) (hmove : Move s s')
    (hallowed : ∀ t ∈ s'.wire.drop s.wire.length, allowed t.result) :
    ∃ r', TouchMove c allowed r r' ∧ s'.Shows c r' := by
  cases hmove with
  | call call link => exact h.call hfits allowed call link
  | close hmove => exact h.close hfits hmove hallowed

/-- **Induction over the moves of a touch Node.** -/
theorem Showing.moves
    (hstep : ∀ r r', r.touch.Fits c.fields → P r → TouchMove c allowed r r' → P r')
    (h : s.Showing c P) (hfits : s.Fits) (hmoves : Relation.ReflTransGen Move s s')
    (hallows : s'.Allows allowed s.wire.length) : s'.Fits ∧ s'.Showing c P := by
  have hgrows := moves_invariant
    (P := fun s' => s.wire <+: s'.wire ∧ (s'.Allows allowed s.wire.length → s'.Showing c P))
    (fun s₁ s₂ hfits₁ h₁ hmove => ⟨h₁.1.trans hmove.wire_prefix, fun hallows₂ => by
      obtain ⟨r, hshows, hr⟩ := h₁.2 (hallows₂.of_prefix hmove.wire_prefix)
      obtain ⟨r', hnext, hshows'⟩ := hshows.move hfits₁ hmove (hallows₂.later h₁.1.length_le)
      exact ⟨r', hshows', hstep r r' (hshows.fits hfits₁) hr hnext⟩⟩)
    hmoves hfits ⟨List.prefix_rfl, fun _ => h⟩
  exact ⟨hgrows.1, hgrows.2.2 hallows⟩

/-- **Induction over the runs of a touch Node.** -/
theorem Showing.run
    (hstep : ∀ r r', r.touch.Fits c.fields → P r → TouchMove c allowed r r' → P r')
    (h : s.Showing c P) (hfits : s.Fits) (events : List Event)
    (hallows : (s.run events).Allows allowed s.wire.length) :
    (s.run events).Fits ∧ (s.run events).Showing c P :=
  h.moves hstep hfits (run_moves events hfits) hallows

end Runs

/-- A new touch Node has no contacts and has sent nothing. -/
theorem shows_opened {spec : Spec} (hsound : spec.Sound) (hconfig : spec.config = .touch c)
    {hidId : ℕ} (h : opened spec hidId = some s) :
    s.Shows c { touch := {
      buttons := List.replicate c.fields.buttonCount.toNat 0
      buttonTransitions := List.replicate c.fields.buttonCount.toNat 0 } } := by
  obtain ⟨node, hnode, rfl⟩ := Option.map_eq_some_iff.mp h
  obtain ⟨state, hstate, rfl⟩ := Option.map_eq_some_iff.mp hnode
  have hkind := hsound.accepted.touch_kind hconfig
  unfold initializeNodeState at hstate
  rw [hconfig] at hstate
  have hstate : state = .touch {
      buttons := List.replicate c.fields.buttonCount.toNat 0
      buttonTransitions := List.replicate c.fields.buttonCount.toNat 0 } := by
    rcases hkind with hkind | hkind <;> rw [hkind] at hstate <;> exact (Option.some.inj hstate).symm
  exact
    { config := hconfig
      state := hstate
      dirty := rfl
      sent := rfl
      view := rfl
      awaited := ⟨fun _ => rfl, fun hcursor => absurd rfl hcursor⟩
      packet := fun hsent => by simp at hsent }

end System

end LibaoaHid

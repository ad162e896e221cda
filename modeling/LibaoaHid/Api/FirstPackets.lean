import LibaoaHid.Api.Lifecycle
import LibaoaHid.Api.LiveClose

/-!
# First packets of a Touchscreen

A packet with a Contact Count of zero continues a frame, so a first packet has to announce a
contact. A Touchscreen that has something to send holds a contact: what makes it dirty leaves one
occupied, and only the completion that takes the contacts out makes it clean.

## Main definitions

* `Node.HoldsContact`: the invariant.

## Main results

* `firstPacket_announces`: a first packet announces a contact.
-/

namespace LibaoaHid

/-- **A touch Node with something to send, or with something held on the other side, has a contact
occupied.** -/
def Node.HoldsContact (node : Node) : Prop :=
  ∀ touch, node.state = .touch touch → node.dirty = true ∨ node.emittedNonNeutral = true →
    0 < touch.activeCount

theorem TouchState.activeCount_pos {touch : TouchState} {contact : ContactState}
    (hmem : contact ∈ touch.contacts) (hactive : contact.isActive = true) : 0 < touch.activeCount :=
  List.countP_pos_iff.mpr ⟨contact, hmem, hactive⟩

/-- A touch call that changes something leaves a contact, without buttons. -/
theorem CallStep.activeCount_pos {c : TouchConfig} {call' : Call}
    {touch touch' : TouchState} {changed : Bool}
    (h : CallStep (.touch c) call' (.touch touch) (.touch touch') changed)
    (hbuttons : touch.buttons = []) (hchanged : changed = true) : 0 < touch'.activeCount := by
  cases h with
  | keep => cases hchanged
  | @lift _ _ _ x y _ slot contact hslot hdown =>
    exact TouchState.activeCount_pos (List.mem_set (List.getElem?_eq_some_iff.mp hslot).1 _) rfl
  | @move _ _ contactId _ x y extra _ slot contact hslot hdown =>
    refine TouchState.activeCount_pos (List.mem_set (List.getElem?_eq_some_iff.mp hslot).1 _) ?_
    rw [ContactState.isActive, hdown]
    rfl
  | @place _ _ contactId _ x y extra slot contact hslot hfree =>
    exact TouchState.activeCount_pos (List.mem_set (List.getElem?_eq_some_iff.mp hslot).1 _) rfl
  | touchpadButton _ hpress =>
    cases hpress with
    | keep => cases hchanged
    | press index value hindex =>
      rw [hbuttons] at hindex
      cases hindex

namespace System

variable {s s' : System} {c : TouchConfig}

/-- A touch Node without buttons. -/
structure IsScreen (s : System) (c : TouchConfig) : Prop where
  kind : s.node.spec.kind = .touchscreen
  config : s.node.spec.config = .touch c

/-- Without buttons, a Touchscreen holds what its contacts hold. -/
theorem IsScreen.buttons (h : s.IsScreen c) (hfits : s.Fits) {touch : TouchState}
    (hstate : s.node.state = .touch touch) : touch.buttons = [] := by
  have haccepted := hfits.node.sound.accepted
  rw [h.kind, h.config] at haccepted
  have hfit := hfits.node.state
  rw [h.config, hstate] at hfit
  have hlength : touch.buttons.length = c.fields.buttonCount.toNat := hfit.buttons.length
  rw [haccepted.2] at hlength
  exact List.eq_nil_of_length_eq_zero hlength

/-! ### Steps -/

/-- The frame that a non-neutral report has finished leaves a contact, without buttons. -/
theorem activeCount_finishFrame {touch : TouchState} (hbuttons : touch.buttons = [])
    (hheld : (touch.contacts.any (·.phase == .down) || anyPressed touch.buttons) = true) :
    0 < (finishFrame touch).released.activeCount := by
  rw [hbuttons, anyPressed, List.any_nil, Bool.or_false, List.any_eq_true] at hheld
  obtain ⟨contact, hmem, hdown⟩ := hheld
  have hdown : contact.phase = .down := by simpa using hdown
  rw [activeCount_released]
  refine TouchState.activeCount_pos (List.mem_map_of_mem hmem) ?_
  rw [if_neg (by rw [hdown]; rintro ⟨⟩), ContactState.isActive, hdown]
  rfl

/-- A Node with a touch configuration has a touch state. -/
theorem IsScreen.exists_touch (h : s.IsScreen c) (hfits : s.Fits) :
    ∃ touch, s.node.state = .touch touch := by
  have hstate := hfits.node.state
  rw [h.config] at hstate
  cases hs : s.node.state with
  | touch touch => exact ⟨touch, rfl⟩
  | _ =>
    rw [hs] at hstate
    exact hstate.elim

/-- A completion keeps a contact. -/
theorem IsScreen.holdsContact_finish (hscreen : s.IsScreen c) (hfits : s.Fits)
    (h : s.node.HoldsContact) {report : List UInt8} {result : Result} {nativeStatus : ℤ}
    (hinflight : s.inflight = some report) (hnative : 0 ≤ nativeStatus) :
    (transferComplete s.node result nativeStatus).HoldsContact := by
  obtain ⟨touch, hstate⟩ := hscreen.exists_touch hfits
  have hbuttons := hscreen.buttons hfits hstate
  have hsome : s.inflight.isSome := by rw [hinflight]; rfl
  have hactive := h touch hstate (.inl (hfits.dirty hsome))
  have hsubmitted := hfits.nonNeutral hsome
  intro touch' hstate' hpending
  rw [emittedNonNeutral_transferComplete s.node result hnative, hsubmitted] at hpending
  by_cases hstall : result = .errStall
  · subst hstall
    rw [(transferComplete_stall s.node nativeStatus).1, hstate] at hstate'
    cases hstate'
    exact hactive
  · rw [if_neg hstall] at hpending
    by_cases hok : result = .ok
    · subst hok
      rw [if_pos rfl] at hpending
      cases hfinal : s.node.submittedTouchFinalPacket with
      | true =>
        obtain ⟨hstate₁, hdirty₁⟩ := transferComplete_finish hstate hnative hfinal
        rw [hstate₁] at hstate'
        cases hstate'
        rw [hdirty₁] at hpending
        refine activeCount_finishFrame hbuttons ?_
        rw [hasNonNeutralState, hstate] at hpending
        exact hpending.resolve_left (by rintro ⟨⟩)
      | false =>
        obtain ⟨hstate₁, -⟩ := transferComplete_advance hstate hnative hfinal
        rw [hstate₁] at hstate'
        cases hstate'
        exact hactive
    · obtain ⟨hstate₁, -⟩ := transferComplete_abandon hstate hnative hok hstall
      rw [hstate₁] at hstate'
      cases hstate'
      rw [activeCount_released]
      exact hactive

/-- **Each move keeps a contact.** -/
theorem IsScreen.holdsContact (hscreen : s.IsScreen c) (hfits : s.Fits)
    (h : s.node.HoldsContact) (hmove : Move s s') : s'.node.HoldsContact := by
  obtain ⟨touch, hstate⟩ := hscreen.exists_touch hfits
  cases hmove with
  | call call link =>
    rw [System.call]
    rcases call.perform_cases hfits.node.fitting link with
      ⟨reply, -, heq⟩ | ⟨state, changed, -, hstep, heq⟩
    · rw [heq]
      exact h
    · rw [heq]
      intro touch' hstate' hpending
      have hstate' : state = .touch touch' := hstate'
      rw [hscreen.config, hstate, hstate'] at hstep
      have hpending : (s.node.dirty || changed) = true ∨ s.node.emittedNonNeutral = true := hpending
      rw [Bool.or_eq_true, or_right_comm] at hpending
      rcases hpending with hpending | hchanged
      · exact lt_of_lt_of_le (h touch hstate hpending) hstep.activeCount_le
      · exact hstep.activeCount_pos (hscreen.buttons hfits hstate) hchanged
  | close hmove =>
    cases hmove with
    | report hmove =>
      cases hmove with
      | pause hsame =>
        intro touch' hstate' hpending
        rw [hsame.dirty, hsame.emittedNonNeutral] at hpending
        exact h touch' (hsame.state ▸ hstate') hpending
      | @send now report hcallable hdirty hidle hcarries =>
        intro touch' hstate' hpending
        rw [Node.sent_dirty, Node.sent_emittedNonNeutral] at hpending
        rw [Node.sent_state, hscreen.config, hstate, TouchState.stamped_eq] at hstate'
        cases hstate'
        rw [activeCount_congr (touch.stamped_contacts c.fields now)]
        exact h touch hstate hpending
      | finish hinflight hnative => exact hscreen.holdsContact_finish hfits h hinflight hnative
    | neutral hidle hopen hframe =>
      intro touch' hstate' hpending
      have hheld : (neutralizeTouch touch).2 = true ∨ s.node.emittedNonNeutral = true := by
        rw [makeNeutral, neutralizeState, hstate] at hpending
        rcases hpending with hdirty | hemitted
        · simp only [Bool.and_eq_true, Bool.or_eq_true] at hdirty
          exact hdirty.1.1
        · exact .inr hemitted
      rw [makeNeutral, neutralizeState, hstate] at hstate'
      cases hstate'
      rw [activeCount_neutralizeTouch]
      rcases hheld with hheld | hemitted
      · rw [neutralizeTouch, hscreen.buttons hfits hstate, anyPressed, List.any_nil, Bool.or_false,
          List.any_eq_true] at hheld
        obtain ⟨contact, hmem, hoccupied⟩ := hheld
        exact TouchState.activeCount_pos hmem hoccupied
      · exact h touch hstate (.inr hemitted)
    | release hidle => exact h

/-- A move leaves the Spec. -/
theorem IsScreen.move (hscreen : s.IsScreen c) (hfits : s.Fits) (hmove : Move s s') :
    s'.IsScreen c := by
  have hspec := moves_spec_eq (Relation.ReflTransGen.single hmove) hfits
  exact ⟨hspec ▸ hscreen.kind, hspec ▸ hscreen.config⟩

/-! ### Runs -/

/-- A first packet of a Node that holds a contact announces it. -/
theorem IsScreen.announces (hscreen : s.IsScreen c) (hfits : s.Fits) (h : s.node.HoldsContact)
    {env : SubmitEnv} {x : Sent} (hmem : x ∈ s.submitSends env) {touch : TouchState}
    (hstate : x.node.state = .touch touch) (hcursor : touch.packetCursor = 0) :
    1 ≤ s.node.spec.layout.readingAt x.report .contactCount 0 := by
  rcases nodeSubmit_cases hfits.node env with ⟨hnone, -⟩ | ⟨report, heq, -, hdirty, hcarries⟩
  · rw [submitSends, hnone] at hmem
    cases hmem
  · rw [submitSends, heq] at hmem
    cases List.mem_singleton.mp hmem
    have hstate : s.node.state = .touch touch := hstate
    have hactive := h touch hstate (.inl hdirty)
    have hstamped := hfits.node.sent hdirty env.now |>.state
    rw [Node.sent_spec, Node.sent_state, hscreen.config, hstate] at hstamped
    rw [Node.sent_state, hscreen.config, hstate, TouchState.stamped_eq] at hcarries
    rw [TouchState.stamped_eq] at hstamped
    rw [readingAt_contactCount hcarries hfits.node.sound hscreen.config hstamped,
      if_pos ((touch.stamped_packetCursor c.fields env.now).trans hcursor),
      activeCount_congr (touch.stamped_contacts c.fields env.now)]
    exact_mod_cast hactive

end System

/-- A Contact Count above zero is a first packet with a contact record. -/
theorem TouchPacket.decode_of_announced {layout : ReportLayout} {report : List UInt8}
    (hslots : 0 < layout.contactSlots) (h : 1 ≤ layout.readingAt report .contactCount 0)
    (remaining : ℕ) (result : Result) :
    (TouchPacket.decode layout remaining report result).first = true ∧
      (TouchPacket.decode layout remaining report result).records ≠ [] := by
  have hannounced : (layout.readingAt report .contactCount 0).toNat ≠ 0 := by omega
  rw [decode]
  dsimp only
  rw [if_neg hannounced]
  constructor
  · rw [bne_iff_ne.mpr hannounced, Bool.true_or]
  · rw [ne_eq, List.map_eq_nil_iff, List.range_eq_nil]
    omega

/-- **A first packet announces a contact.** In every run of calls, submits, completions and closes
of a Touchscreen, a report that is submitted with the cursor at the front of its frame has a
Contact Count of at least one. The other side reads it as a first packet with a contact record,
with whatever it still expects. -/
theorem firstPacket_announces {o : TouchscreenOptions} {spec : Spec}
    (h : createTouchscreen (some o) = .ok spec) {hidId : ℕ} {s : System}
    (hopened : System.opened spec hidId = some s) {events : List NodeEvent} {x : Sent}
    (hsent : x ∈ s.sentReports events) {touch : TouchState} (hstate : x.node.state = .touch touch)
    (hcursor : touch.packetCursor = 0) :
    1 ≤ spec.layout.readingAt x.report .contactCount 0 ∧
      ∀ remaining result, (TouchPacket.decode spec.layout remaining x.report result).first = true ∧
        (TouchPacket.decode spec.layout remaining x.report result).records ≠ [] := by
  have hsound := (Generated.touchscreen h).sound
  have hkind := kind_of_createTouchscreen h
  obtain ⟨c, hconfig⟩ := hsound.accepted.exists_touch (.inl hkind)
  have hfits := System.fits_opened hsound hopened
  have hnode : s.node.spec = spec ∧ s.node.dirty = false ∧ s.node.emittedNonNeutral = false := by
    obtain ⟨node, hnode, rfl⟩ := Option.map_eq_some_iff.mp hopened
    obtain ⟨state, -, rfl⟩ := Option.map_eq_some_iff.mp hnode
    exact ⟨rfl, rfl, rfl⟩
  have hscreen : s.IsScreen c := ⟨hnode.1 ▸ hkind, hnode.1 ▸ hconfig⟩
  have hholds : s.node.HoldsContact := by
    rintro touch - (hdirty | hemitted)
    · rw [hnode.2.1] at hdirty
      cases hdirty
    · rw [hnode.2.2] at hemitted
      cases hemitted
  obtain ⟨s', env, hmoves, hmem⟩ := System.submittedFrom_sentReports hfits hsent
  obtain ⟨hfits', hscreen', hholds'⟩ := System.moves_invariant
    (P := fun s => s.IsScreen c ∧ s.node.HoldsContact)
    (fun s₁ s₂ hfits₁ h₁ hmove => ⟨h₁.1.move hfits₁ hmove, h₁.1.holdsContact hfits₁ h₁.2 hmove⟩)
    hmoves hfits ⟨hscreen, hholds⟩
  have hcount := hscreen'.announces hfits' hholds' hmem hstate hcursor
  rw [System.moves_spec_eq hmoves hfits, hnode.1] at hcount
  have hslots : 0 < spec.layout.contactSlots := by
    have haccepted := hsound.accepted
    rw [hkind, hconfig] at haccepted
    rw [contactSlots_eq hsound hconfig]
    exact haccepted.1.contactsPerReport_pos
  exact ⟨hcount, TouchPacket.decode_of_announced hslots hcount⟩

/-- The options of a Touchscreen whose reports carry one contact. -/
def sampleTouchscreenOptions : TouchscreenOptions where
  structSize := TouchscreenOptions.size
  maximumContacts := 2
  contactsPerReport := 1
  contactIdentifier := { logicalMinimum := 0, logicalMaximum := 15, bitWidth := 4 }
  x := { logicalMinimum := 0, logicalMaximum := 1023, bitWidth := 10 }
  y := { logicalMinimum := 0, logicalMaximum := 1023, bitWidth := 10 }
  contactCount := { logicalMinimum := 0, logicalMaximum := 2, bitWidth := 4 }
  enableMultiPacketFrames := 1

/-- A Touchscreen for two contacts. -/
def sampleTouchscreen : Spec :=
  (createTouchscreen (some sampleTouchscreenOptions)).toOption.get (by decide +kernel)

/-- The sample Touchscreen, opened. -/
def openedTouchscreen : System :=
  (System.opened sampleTouchscreen 1).get (by
    rw [System.opened, Option.isSome_map]
    exact isSome_openNode (.touchscreen (o := sampleTouchscreenOptions) (eq_ok_get _)) 1)

/-- A contact goes down and is sent; its report times out, and a close finds no time. -/
def abandonedTap : List NodeEvent :=
  [.event (.call (.touch 1 1 10 10 none) .present), .event (.submit clearSubmit),
    .event (.complete .timedOut 0), .event (.submit clearSubmit),
    .deviceClose { drain := none, neutral := none }, .event (.submit clearSubmit)]

/-- A screen at the first packet of a frame. -/
def NodeState.atFirstPacket : NodeState → Bool
  | .touch screen => screen.packetCursor == 0
  | _ => false

theorem firstPacket_announces_abandonedTap :
    ∃ x ∈ openedTouchscreen.sentReports abandonedTap,
      1 ≤ sampleTouchscreen.layout.readingAt x.report .contactCount 0 := by
  obtain ⟨x, hx⟩ : ∃ x, (openedTouchscreen.sentReports abandonedTap).head? = some x :=
    Option.isSome_iff_exists.mp (by decide +kernel)
  have hzero : (openedTouchscreen.sentReports abandonedTap).head?.all (fun x =>
    x.node.state.atFirstPacket) = true := by decide +kernel
  rw [hx, Option.all_some] at hzero
  have hmem := List.mem_of_mem_head? hx
  cases hstate : x.node.state with
  | touch touch =>
    rw [hstate] at hzero
    exact ⟨x, hmem, (firstPacket_announces (o := sampleTouchscreenOptions) (eq_ok_get _)
      (Option.some_get _).symm hmem hstate (beq_iff_eq.mp hzero)).1⟩
  | _ =>
    rw [hstate] at hzero
    cases hzero

end LibaoaHid

import LibaoaHid.Api.Lifecycle

/-!
# Frames of several packets

A frame whose contacts do not fit one report is sent as several packets. Once its first packet is
in flight, nothing but its packets changes the contacts: the calls answer `AOAHID_ERR_BUSY`, and a
packet that was refused is sent again. So the packets split the contacts in slot order, and the
last of them ends the frame.

## Main definitions

* `framePacket`, `framePackets`: the packets of a frame.
* `TouchRun.Framing`: the machine behind the first packets of a frame.

## Main results

* `TouchRun.Framing.move`: what each move keeps of a frame.
* `touch_frame`.
-/

namespace LibaoaHid

open Relation

/-! ### The packets of a frame -/

/-- The number of packets that `active` contacts take: one more when there are none. -/
def packetTotal (slots active : ℕ) : ℕ := max 1 ((active + slots - 1) / slots)

/-- The frame has a packet more exactly when it has just begun or has contacts left. -/
theorem lt_packetTotal {slots active k : ℕ} (hslots : 0 < slots) :
    k < packetTotal slots active ↔ k = 0 ∨ k * slots < active := by
  rw [packetTotal, lt_max_iff, Nat.lt_one_iff]
  refine or_congr_right ?_
  rw [Nat.lt_iff_add_one_le, Nat.le_div_iff_mul_le hslots]
  constructor <;> intro h <;> nlinarith [Nat.sub_add_cancel (show 1 ≤ active + slots by omega)]

/-- Packet `k` of the frame of a state: the contacts from `k * slots` on, in slot order. -/
def framePacket (f : TouchFields) (touch : TouchState) (scanTime : ℤ) (k : ℕ) : TouchPacket :=
  let slots := f.contactsPerReport.toNat
  let contacts := ((collectTouch touch).drop (k * slots)).take slots
  { result := .ok
    first := k == 0
    announced := if k = 0 then (collectTouch touch).length else 0
    records := contacts.map (·.record f)
    unused := List.replicate (slots - contacts.length) {}
    remaining := (collectTouch touch).length - k * slots - contacts.length
    scanTime
    buttons := touch.buttons.map fun button => (button.toNat : ℤ) }

/-- The Scan Time that the packets of a state carry. -/
def TouchState.shownScanTime (touch : TouchState) (f : TouchFields) : ℤ :=
  if f.enableScanTime = 1 then touch.scanTime else 0

/-- The packet of a state in a frame. -/
theorem packet_eq_framePacket {f : TouchFields} (touch : TouchState) {k : ℕ}
    (hslots : 0 < f.contactsPerReport.toNat) :
    ({ touch with packetCursor := k * f.contactsPerReport.toNat } : TouchState).packet f .ok =
      framePacket f touch (touch.shownScanTime f) k := by
  have hzero : k * f.contactsPerReport.toNat = 0 ↔ k = 0 := by
    rw [Nat.mul_eq_zero]
    omega
  have hactive : ({ touch with packetCursor := k * f.contactsPerReport.toNat } :
      TouchState).activeCount = (collectTouch touch).length := by
    rw [length_collectTouch]
    exact activeCount_congr rfl
  have hcontacts : ({ touch with packetCursor := k * f.contactsPerReport.toNat } :
      TouchState).packetContacts f = ((collectTouch touch).drop
        (k * f.contactsPerReport.toNat)).take f.contactsPerReport.toNat := rfl
  unfold TouchState.packet framePacket TouchState.shownScanTime
  rw [hactive, hcontacts]
  simp only [TouchPacket.mk.injEq, true_and, and_true, hzero]
  rw [Bool.eq_iff_iff, beq_iff_eq, beq_iff_eq]
  exact hzero

/-- The first packets of the frame of a state. -/
def framePackets (f : TouchFields) (touch : TouchState) (scanTime : ℤ) (count : ℕ) :
    List TouchPacket :=
  (List.range count).map (framePacket f touch scanTime)

theorem framePackets_succ (f : TouchFields) (touch : TouchState) (scanTime : ℤ) (count : ℕ) :
    framePackets f touch scanTime (count + 1) =
      framePackets f touch scanTime count ++ [framePacket f touch scanTime count] := by
  rw [framePackets, List.range_succ, List.map_append]
  rfl

/-! ### A frame on the machine -/

/-- The machine behind the first `k` packets of the frame of a state. The first packet is in
flight until it was delivered. -/
structure TouchRun.Framing (f : TouchFields) (touch : TouchState) (before : List TouchPacket)
    (k : ℕ) (r : TouchRun) : Prop where
  state : r.touch = { touch with packetCursor := k * f.contactsPerReport.toNat }
  more : k < packetTotal f.contactsPerReport.toNat touch.activeCount
  sent : k = 0 → r.sent = true
  dirty : r.dirty = true
  packets : r.view.packets =
    before ++ framePackets f touch (touch.shownScanTime f) k

/-- The machine behind the whole frame of a state. -/
def TouchRun.Framed (f : TouchFields) (touch : TouchState) (before : List TouchPacket)
    (r : TouchRun) : Prop :=
  ∃ rest, r.view.packets = before ++ framePackets f touch (touch.shownScanTime f)
    (packetTotal f.contactsPerReport.toNat touch.activeCount) ++ rest

/-- The end of a frame: the lifted contacts are released, the others stay as they are, without
their edge guard. -/
def ContactState.afterFrame (contact : ContactState) : ContactState :=
  { contact with
    phase := if contact.phase = .up then .none else contact.phase
    lifecycleTransitionPending := false }

theorem contacts_finishFrame (touch : TouchState) :
    (finishFrame touch).released.contacts = touch.contacts.map ContactState.afterFrame := by
  simp only [TouchState.released, finishFrame, List.map_map]
  refine List.map_congr_left fun contact _ => ?_
  simp only [Function.comp_apply, ContactState.afterFrame]
  split_ifs <;> rfl

namespace TouchRun.Framing

variable {c : TouchConfig} {touch : TouchState} {before : List TouchPacket} {k : ℕ}
  {r r' : TouchRun}

theorem packet_eq (h : r.Framing c.fields touch before k)
    (hslots : 0 < c.fields.contactsPerReport.toNat) :
    r.touch.packet c.fields .ok = framePacket c.fields touch (touch.shownScanTime c.fields) k := by
  rw [h.state]
  exact packet_eq_framePacket touch hslots

/-- The contacts of the frame behind the next packet. -/
theorem cursor_add (h : r.Framing c.fields touch before k) :
    r.touch.activeCount = touch.activeCount ∧
      r.touch.packetCursor + (r.touch.packetContacts c.fields).length =
        min ((k + 1) * c.fields.contactsPerReport.toNat)
          (max touch.activeCount (k * c.fields.contactsPerReport.toNat)) := by
  have hactive : r.touch.activeCount = touch.activeCount := by
    rw [h.state]
    exact activeCount_congr rfl
  refine ⟨hactive, ?_⟩
  rw [TouchState.length_packetContacts, hactive, h.state, Nat.add_mul, Nat.one_mul]
  dsimp only
  omega

/-- What each move keeps of a frame, when its packets are delivered or refused, and the first one
is delivered. -/
theorem move (h : r.Framing c.fields touch before k)
    (hslots : 0 < c.fields.contactsPerReport.toNat)
    (hmove : TouchMove c (fun result => result = .ok ∨ result = .errStall ∧ k ≠ 0) r r') :
    r'.Framing c.fields touch before k ∨ r'.Framing c.fields touch before (k + 1) ∨
      r'.Framed c.fields touch before := by
  have hcursor (hk : k ≠ 0) : r.touch.packetCursor ≠ 0 := by
    rw [h.state]
    exact Nat.mul_ne_zero hk hslots.ne'
  have hbusy (hidle : r.sent = false) : r.touch.packetCursor ≠ 0 := by
    refine hcursor fun hk => ?_
    rw [h.sent hk] at hidle
    simp at hidle
  obtain ⟨hactive, hadd⟩ := h.cursor_add
  cases hmove with
  | report hmove =>
    cases hmove with
    | keep => exact Or.inl h
    | send now hidle =>
      refine Or.inl ⟨?_, h.more, fun _ => rfl, h.dirty, h.packets⟩
      dsimp only
      rw [r.touch.stamped_of_frame c.fields now (hbusy hidle)]
      exact h.state
    | stall hsent hallowed =>
      obtain ⟨-, hk⟩ := hallowed.resolve_left (by simp)
      exact Or.inl ⟨h.state, h.more, fun hzero => absurd hzero hk, rfl, h.packets⟩
    | advance hsent hallowed hmore =>
      have hnext : r.touch.packetCursor + (r.touch.packetContacts c.fields).length =
          (k + 1) * c.fields.contactsPerReport.toNat := by omega
      refine Or.inr (Or.inl ⟨?_, ?_, fun hk => absurd hk (Nat.succ_ne_zero k), rfl, ?_⟩)
      · rw [← hnext]
        simp only [TouchState.advanced, h.state]
      · rw [lt_packetTotal hslots]
        exact Or.inr (by omega)
      · rw [TouchView.add_packets, h.packets, h.packet_eq hslots, framePackets_succ,
          List.append_assoc]
    | finish hsent hallowed hlast =>
      have hdone : ¬k + 1 < packetTotal c.fields.contactsPerReport.toNat touch.activeCount := by
        rw [lt_packetTotal hslots]
        omega
      have htotal : packetTotal c.fields.contactsPerReport.toNat touch.activeCount = k + 1 := by
        have := h.more
        omega
      refine Or.inr (Or.inr ⟨[], ?_⟩)
      rw [htotal, TouchView.add_packets, h.packets, h.packet_eq hslots, framePackets_succ,
        List.append_assoc, List.append_nil]
    | abandon hsent hallowed hok hstall =>
      exact (hallowed.elim hok fun h => hstall h.1).elim
  | call hidle hstep =>
    rcases hstep.between with rfl | ⟨hzero, -⟩
    · exact Or.inl ⟨h.state, h.more, h.sent, by simp [h.dirty], h.packets⟩
    · exact absurd hzero (hbusy hidle)
  | neutral held hidle hzero => exact absurd hzero (hbusy hidle)

end TouchRun.Framing

/-! ### A frame of a Node -/

/-- A call for touch Nodes that gets to the frame check: the Node is of its kind, Down is a boolean
and the device is there. -/
def Call.ReachesFrame (kind : ProfileKind) (link : Link) : Call → Prop
  | .touch _ down _ _ _ => (down = 0 ∨ down = 1) ∧ (link = .detached ∨ link = .present)
  | .touchpadButton _ _ => kind = .touchpad ∧ (link = .detached ∨ link = .present)
  | _ => False

section Busy

variable {s : System} {c : TouchConfig} {r : TouchRun}

theorem linkAvailable_eq_none {node : Node} {link : Link} (h : link = .detached ∨ link = .present)
    (field : String) : linkAvailable node link field = none := by
  rcases h with rfl | rfl <;> rfl

/-- During a frame every call that gets to the frame check answers `AOAHID_ERR_BUSY`. -/
theorem System.Shows.busy (h : s.Shows c r) (hfits : s.Fits) (hopen : s.node.closed = false)
    (hframe : r.sent = false → r.touch.packetCursor ≠ 0) {call : Call} {link : Link}
    (hreaches : call.ReachesFrame s.node.spec.kind link) :
    (s.call call link).1.result = .errBusy := by
  have hkind := hfits.node.sound.accepted.touch_kind h.config
  have hinflight : s.node.transferInflight = r.sent := hfits.inflight.trans h.sent
  have hbusy (error : Reply) (hresult : error.result = .errBusy)
      (houtcome : call.outcome s.node link = .error error) :
      (s.call call link).1.result = .errBusy := by
    unfold System.call Call.perform
    rw [houtcome]
    exact hresult
  cases call with
  | touch contactId down x y extra =>
    obtain ⟨hdown, hlink⟩ := hreaches
    have hchecks : ¬((s.node.spec.kind ≠ .touchscreen ∧ s.node.spec.kind ≠ .touchpad) ∨
        s.node.closed = true ∨ (!validBoolean down) = true) := by
      rw [hopen]
      rcases hkind with hkind | hkind <;> rcases hdown with rfl | rfl <;>
        simp [hkind, validBoolean]
    by_cases hsent : r.sent = true
    · refine hbusy (.fail .errBusy "touch" "A touch report is in flight.") rfl ?_
      change touch s.node link contactId down x y extra = _
      unfold touch
      rw [if_neg hchecks, linkAvailable_eq_none hlink, h.state, h.config]
      dsimp only
      rw [if_pos (hinflight.trans hsent)]
    · refine hbusy (.fail .errBusy "touch"
        "The current multi-packet frame must finish before state changes.") rfl ?_
      change touch s.node link contactId down x y extra = _
      unfold touch
      rw [if_neg hchecks, linkAvailable_eq_none hlink, h.state, h.config]
      dsimp only
      rw [if_neg (by rwa [hinflight]), if_pos (hframe (by simpa using hsent))]
  | touchpadButton button pressed =>
    obtain ⟨hkind, hlink⟩ := hreaches
    have hchecks : ¬(s.node.closed = true ∨ s.node.spec.kind ≠ .touchpad) := by simp [hopen, hkind]
    by_cases hsent : r.sent = true
    · refine hbusy (.fail .errBusy "touchpad.button" "The node has one report in flight.") rfl ?_
      change touchpadButton s.node link button pressed = _
      unfold touchpadButton usable
      rw [if_neg hchecks, linkAvailable_eq_none hlink]
      dsimp only
      rw [if_pos (hinflight.trans hsent)]
    · refine hbusy (.fail .errBusy "touchpad.button"
        "The current multi-packet frame must finish before state changes.") rfl ?_
      change touchpadButton s.node link button pressed = _
      unfold touchpadButton usable
      rw [if_neg hchecks, linkAvailable_eq_none hlink]
      dsimp only
      rw [if_neg (by rwa [hinflight]), h.state]
      dsimp only
      rw [if_pos (hframe (by simpa using hsent))]
  | _ => exact hreaches.elim

/-- During a frame no call changes anything. -/
theorem System.Shows.call_eq (h : s.Shows c r) (hfits : s.Fits) (hdirty : r.dirty = true)
    (hframe : r.sent = false → r.touch.packetCursor ≠ 0) (call : Call) (link : Link) :
    (s.call call link).2 = s := by
  unfold System.call
  rcases call.perform_cases hfits.node.fitting link with
    ⟨reply, -, heq⟩ | ⟨state, changed, hcallable, hstep, heq⟩
  · rw [heq]
  · rw [heq]
    have hidle : r.sent = false := by
      rw [← h.sent, ← hfits.inflight]
      exact hcallable.idle
    have hstate := h.state
    rw [h.config, hstate] at hstep
    obtain ⟨touch, rfl⟩ := hstep.exists_touch
    rcases hstep.between with rfl | ⟨hzero, -⟩
    · have hsame : s.node.dirty = (s.node.dirty || changed) := by
        rw [h.dirty, hdirty]
        rfl
      dsimp only
      rw [← hstate, ← hsame]
    · exact absurd hzero (hframe hidle)

end Busy

/-! ### Frames of a run -/

namespace System

variable {s s' : System} {c : TouchConfig} {r : TouchRun} {touch : TouchState} {start : ℕ}

/-- Since a point of the wire every completion was `AOAHID_OK` or a STALL, and the first one was
`AOAHID_OK`. -/
structure Delivers (start : ℕ) (s : System) : Prop where
  results : s.Allows (fun result => result = .ok ∨ result = .errStall) start
  first : ∀ t, (s.wire.drop start).head? = some t → t.result = .ok

theorem Delivers.of_prefix (h : s'.Delivers start) (hearlier : s.wire <+: s'.wire) :
    s.Delivers start := by
  refine ⟨h.results.of_prefix hearlier, fun t ht => h.first t ?_⟩
  obtain ⟨added, heq⟩ := hearlier
  rw [← heq, List.drop_append, List.head?_append, ht]
  rfl

/-- Behind a point of the wire a Node sends the frame of a state. -/
structure Frames (c : TouchConfig) (touch : TouchState) (s s' : System) : Prop where
  grows : s.wire <+: s'.wire
  shows : s'.Delivers s.wire.length → ∃ r, s'.Shows c r ∧
    ((∃ k, r.Framing c.fields touch (touchView s.node.spec.layout s.wire).packets k) ∨
      r.Framed c.fields touch (touchView s.node.spec.layout s.wire).packets)

/-- The first packet of a frame is in flight until a report has completed. -/
theorem wire_eq_of_first (hgrows : s.wire <+: s'.wire) (hdelivers : s'.Delivers s.wire.length)
    (layout : ReportLayout)
    (hpackets : (touchView layout s'.wire).packets = (touchView layout s.wire).packets) :
    s'.wire = s.wire := by
  obtain ⟨added, heq⟩ := hgrows
  have hlength := congrArg List.length hpackets
  rw [length_packets_touchView, length_packets_touchView, ← heq, List.countP_append] at hlength
  cases added with
  | nil => rw [← heq, List.append_nil]
  | cons t added =>
    have hok := hdelivers.first t (by rw [← heq, List.drop_left]; rfl)
    rw [List.countP_cons_of_pos (by simp [Transmission.MayHaveApplied, hok])] at hlength
    omega

theorem Frames.move {s₁ s₂ : System} (h : Frames c touch s s₁) (hfits : s₁.Fits)
    (hspec : s₁.node.spec = s.node.spec) (hslots : 0 < c.fields.contactsPerReport.toNat)
    (hmove : Move s₁ s₂) : Frames c touch s s₂ := by
  refine ⟨h.grows.trans hmove.wire_prefix, fun hdelivers => ?_⟩
  have hdelivers₁ := hdelivers.of_prefix hmove.wire_prefix
  obtain ⟨r, hshows, ⟨k, hframing⟩ | ⟨rest, hpackets⟩⟩ := h.shows hdelivers₁
  · obtain ⟨r', hnext, hshows'⟩ : ∃ r', TouchMove c
        (fun result => result = .ok ∨ result = .errStall ∧ k ≠ 0) r r' ∧ s₂.Shows c r' := by
      refine hshows.move hfits hmove fun t ht => ?_
      have hresult := hdelivers.results t (List.drop_subset_drop_left _ h.grows.length_le ht)
      refine hresult.imp_right fun hstall => ⟨hstall, fun hk => ?_⟩
      subst hk
      have hwire : s₁.wire = s.wire := by
        refine wire_eq_of_first h.grows hdelivers₁ s.node.spec.layout ?_
        rw [← hspec, hshows.view, hframing.packets, hspec]
        simp [framePackets]
      rcases hmove.wire_cases with heq | ⟨t', heq⟩ <;> rw [heq] at ht
      · simp at ht
      · rw [List.drop_left, List.mem_singleton] at ht
        subst ht
        have hok := hdelivers.first t (by rw [heq, hwire, List.drop_left]; rfl)
        rw [hok] at hstall
        simp at hstall
    refine ⟨r', hshows', ?_⟩
    rcases hframing.move hslots hnext with hsame | hmore | hframed
    · exact Or.inl ⟨k, hsame⟩
    · exact Or.inl ⟨k + 1, hmore⟩
    · exact Or.inr hframed
  · obtain ⟨r', hnext, hshows'⟩ : ∃ r', TouchMove c (fun _ => True) r r' ∧ s₂.Shows c r' :=
      hshows.move hfits hmove fun _ _ => trivial
    obtain ⟨more, heq⟩ := hnext.packets_prefix
    exact ⟨r', hshows', Or.inr ⟨rest ++ more, by rw [← heq, hpackets, List.append_assoc]⟩⟩

/-- The accepted submit of a clean start begins the frame. -/
theorem frames_submit (h : s.Shows c r) (hfits : s.Fits) (hcursor : r.touch.packetCursor = 0)
    (hidle : s.inflight = none) {env : SubmitEnv}
    (hsent : (s.submit env).2.inflight.isSome = true) :
    ∃ now, Frames c (r.touch.stamped c.fields now) s (s.submit env).2 := by
  obtain ⟨r', hnext, hshows⟩ : ∃ r', TouchReport c (fun _ => True) r r' ∧
      (s.submit env).2.Shows c r' := h.report hfits (submit_move hfits env) fun _ _ => trivial
  have hbefore : r.sent = false := by rw [← h.sent, hidle]; rfl
  have hafter : r'.sent = true := hshows.sent ▸ hsent
  cases hnext with
  | keep =>
    rw [hbefore] at hafter
    simp at hafter
  | send now _ hdirty =>
    have hview : r.view = touchView s.node.spec.layout s.wire := h.view.symm
    refine ⟨now, List.prefix_rfl, fun _ => ⟨_, hshows, Or.inl
      ⟨0, ?_, ?_, fun _ => rfl, hdirty, ?_⟩⟩⟩
    · have hzero := (r.touch.stamped_packetCursor c.fields now).trans hcursor
      rw [Nat.zero_mul, ← hzero]
    · exact lt_of_lt_of_le Nat.zero_lt_one (le_max_left _ _)
    · rw [hview]
      simp [framePackets]
  | stall hbusy | advance hbusy | finish hbusy | abandon hbusy =>
    rw [hbefore] at hbusy
    simp at hbusy

/-- The last packet ends the frame. -/
theorem Shows.frame_end {before : List TouchPacket} {k : ℕ} (h : s.Shows c r) (hfits : s.Fits)
    (hslots : 0 < c.fields.contactsPerReport.toNat)
    (hframing : r.Framing c.fields touch before k)
    (hlast : k + 1 = packetTotal c.fields.contactsPerReport.toNat touch.activeCount)
    {report : List UInt8} (hinflight : s.inflight = some report) :
    ∃ r', (s.complete .completed report.length).Shows c r' ∧ r'.dirty = false ∧
      r'.touch = (finishFrame r.touch).released ∧
      r'.view.packets = before ++ framePackets c.fields touch (touch.shownScanTime c.fields)
        (k + 1) := by
  have hresult : completionResult .completed report.length report.length = .ok := by
    simp [completionResult]
  have hmove : ReportMove s (s.complete .completed report.length) := by
    rw [complete_eq hinflight]
    exact .finish hinflight (by decide)
  have hidle : (s.complete .completed report.length).inflight = none := by
    rw [complete_eq hinflight]
  obtain ⟨r', hnext, hshows⟩ : ∃ r', TouchReport c (· = .ok) r r' ∧
      (s.complete .completed report.length).Shows c r' := by
    refine h.report hfits hmove fun t ht => ?_
    rw [complete_eq hinflight, List.drop_left, List.mem_singleton] at ht
    rw [ht]
    exact hresult
  have hafter : r'.sent = false := by rw [← hshows.sent, hidle]; rfl
  have hbefore : r.sent = true := by rw [← h.sent, hinflight]; rfl
  obtain ⟨hactive, hadd⟩ := hframing.cursor_add
  refine ⟨r', hshows, ?_⟩
  cases hnext with
  | keep =>
    rw [hbefore] at hafter
    simp at hafter
  | send now hsent =>
    rw [hbefore] at hsent
    simp at hsent
  | stall _ hallowed => simp at hallowed
  | advance _ _ hmore =>
    have hnot : ¬k + 1 < packetTotal c.fields.contactsPerReport.toNat touch.activeCount := by omega
    rw [lt_packetTotal hslots] at hnot
    omega
  | finish =>
    refine ⟨rfl, rfl, ?_⟩
    rw [TouchView.add_packets, hframing.packets, hframing.packet_eq hslots, framePackets_succ,
      List.append_assoc]
  | abandon _ hallowed hok => exact absurd hallowed hok

end System

/-- **A frame of several packets delivers every contact once.** When a submit between two frames
is accepted and the packets are delivered or refused, the first one delivered at once, the
delivered packets are the contacts of the frame in slot order, with one Scan Time and the same
buttons. Until the last one is delivered no call changes anything, and the calls that get to the
frame check answer `AOAHID_ERR_BUSY`; then the frame is over and its lifted contacts are
released. -/
theorem touch_frame {spec : Spec} (hspec : Generated spec) {c : TouchConfig}
    (hconfig : spec.config = .touch c) {hidId : ℕ} {opened : System}
    (hopened : System.opened spec hidId = some opened) {s : System}
    (hreach : ReflTransGen System.Move opened s) {touch : TouchState}
    (hstate : s.node.state = .touch touch) (hcursor : touch.packetCursor = 0)
    (hidle : s.inflight = none) {env : SubmitEnv}
    (hsent : (s.submit env).2.inflight.isSome = true) :
    ∃ scanTime, ∀ later, ReflTransGen System.Move (s.submit env).2 later →
      later.Delivers s.wire.length →
      ∃ since, (touchView spec.layout later.wire).packets =
          (touchView spec.layout s.wire).packets ++ since ∧
        (∀ k < packetTotal c.fields.contactsPerReport.toNat touch.activeCount, ∀ p,
          since[k]? = some p → p = framePacket c.fields touch scanTime k) ∧
        (since.length < packetTotal c.fields.contactsPerReport.toNat touch.activeCount →
          later.node.dirty = true ∧
          (∀ (call : Call) (link : Link), (later.call call link).2 = later ∧
            (later.node.closed = false → call.ReachesFrame spec.kind link →
              (later.call call link).1.result = .errBusy)) ∧
          (since.length + 1 = packetTotal c.fields.contactsPerReport.toNat touch.activeCount →
            ∀ report, later.inflight = some report →
              let last := later.complete .completed report.length
              (touchView spec.layout last.wire).packets =
                (touchView spec.layout s.wire).packets ++ since ++
                  [framePacket c.fields touch scanTime since.length] ∧
              last.node.dirty = false ∧
              ∃ touch', last.node.state = .touch touch' ∧ touch'.packetCursor = 0 ∧
                touch'.contacts = touch.contacts.map ContactState.afterFrame)) := by
  have hopenedFits := System.fits_opened hspec.sound hopened
  have hslots : 0 < c.fields.contactsPerReport.toNat := by
    have haccepted := hspec.sound.accepted
    rw [hconfig] at haccepted
    exact haccepted.of_touch.contactsPerReport_pos
  obtain ⟨hfits, r, hshows, -⟩ := System.Showing.moves (P := fun _ => True)
    (fun _ _ _ _ _ => trivial) ⟨_, System.shows_opened hspec.sound hconfig hopened, trivial⟩
    hopenedFits hreach (System.Allows.always _ _)
  have hspecEq : s.node.spec = spec :=
    (System.moves_spec_eq hreach hopenedFits).trans (System.eq_of_opened hopened).1
  have htouch : r.touch = touch := NodeState.touch.inj (hshows.state.symm.trans hstate)
  obtain ⟨now, hstart⟩ := System.frames_submit hshows hfits (htouch ▸ hcursor) hidle hsent
  rw [htouch] at hstart
  have hfits₁ := (System.submit_move hfits env).fits hfits
  have hspec₁ : (s.submit env).2.node.spec = s.node.spec :=
    (System.submit_move hfits env).spec_eq
  -- Stamping leaves what a packet shows, apart from the Scan Time.
  have hpacket (scanTime : ℤ) (k : ℕ) :
      framePacket c.fields (touch.stamped c.fields now) scanTime k =
      framePacket c.fields touch scanTime k := by
    unfold framePacket
    rw [collectTouch_congr (touch.stamped_contacts c.fields now), touch.stamped_buttons]
  have hactive : (touch.stamped c.fields now).activeCount = touch.activeCount :=
    activeCount_congr (touch.stamped_contacts c.fields now)
  refine ⟨(touch.stamped c.fields now).shownScanTime c.fields, fun later hlater hdelivers => ?_⟩
  obtain ⟨hfits₂, hspec₂, hframes⟩ := System.moves_invariant
    (P := fun s' => s'.node.spec = s.node.spec ∧
      System.Frames c (touch.stamped c.fields now) s s')
    (fun s₁ s₂ hfits h hmove => ⟨(System.moves_spec_eq (.single hmove) hfits).trans h.1,
      h.2.move hfits h.1 hslots hmove⟩) hlater hfits₁ ⟨hspec₁, hstart⟩
  obtain ⟨r₂, hshows₂, hframe⟩ := hframes.shows hdelivers
  have hget (count k : ℕ) (rest : List TouchPacket) (p : TouchPacket) (hlt : k < count)
      (hp : (framePackets c.fields (touch.stamped c.fields now)
        ((touch.stamped c.fields now).shownScanTime c.fields) count ++ rest)[k]? = some p) :
      p = framePacket c.fields touch ((touch.stamped c.fields now).shownScanTime c.fields) k := by
    rw [List.getElem?_append_left (by simpa [framePackets] using hlt), framePackets,
      List.getElem?_map, List.getElem?_range hlt] at hp
    rw [← hpacket]
    exact (Option.some.inj hp).symm
  have hview := hshows₂.view
  rw [hspec₂, hspecEq] at hview
  rw [hspecEq] at hframe
  rcases hframe with ⟨k, hframing⟩ | ⟨rest, hpackets⟩
  · refine ⟨framePackets c.fields (touch.stamped c.fields now)
      ((touch.stamped c.fields now).shownScanTime c.fields) k, hview ▸ hframing.packets, ?_, ?_⟩
    · intro i hi p hp
      by_cases hlt : i < k
      · exact hget k i [] p hlt (by rwa [List.append_nil])
      · rw [List.getElem?_eq_none (by simpa [framePackets] using hlt)] at hp
        simp at hp
    · intro _
      have hframe (hsent : r₂.sent = false) : r₂.touch.packetCursor ≠ 0 := by
        rw [hframing.state]
        refine Nat.mul_ne_zero (fun hk => ?_) hslots.ne'
        rw [hframing.sent hk] at hsent
        simp at hsent
      refine ⟨hshows₂.dirty.trans hframing.dirty, fun call link =>
        ⟨hshows₂.call_eq hfits₂ hframing.dirty hframe call link, fun hopen hreaches =>
          hshows₂.busy hfits₂ hopen hframe (by rwa [hspec₂, hspecEq])⟩, ?_⟩
      intro hlast report hinflight
      have hlength : (framePackets c.fields (touch.stamped c.fields now)
          ((touch.stamped c.fields now).shownScanTime c.fields) k).length = k := by
        simp [framePackets]
      rw [hlength] at hlast ⊢
      obtain ⟨r₃, hshows₃, hclean, hend, hpackets⟩ :=
        hshows₂.frame_end hfits₂ hslots hframing (hactive ▸ hlast) hinflight
      have hspec₃ : (later.complete .completed report.length).node.spec = spec := by
        rw [System.complete_eq hinflight]
        exact (System.transferComplete_spec_dirty _ _ _).1.trans (hspec₂.trans hspecEq)
      refine ⟨?_, hshows₃.dirty.trans hclean, r₃.touch, hshows₃.state, ?_, ?_⟩
      · rw [← hspec₃, hshows₃.view, hpackets, framePackets_succ, hpacket, hspec₃,
          List.append_assoc]
      · rw [hend]
        rfl
      · rw [hend, contacts_finishFrame, hframing.state]
        exact congrArg _ (touch.stamped_contacts c.fields now)
  · refine ⟨_, hview ▸ hpackets.trans (List.append_assoc _ _ _), ?_, ?_⟩
    · intro k hk p hp
      exact hget _ k rest p (hactive.symm ▸ hk) hp
    · intro hshort
      simp only [List.length_append, framePackets, List.length_map, List.length_range,
        hactive] at hshort
      omega

/-- The sample touchpad with two contacts down, in front of their first frame. -/
def twoDown : System :=
  openedTouchpad.run
    [.call (.touch 1 1 10 10 none) .present, .call (.touch 2 1 20 20 none) .present]

/-- The first packet of the frame is delivered. -/
def betweenPackets : System := twoDown.run (sentReport .completed)

/-- Between two packets a call whose Down is not a boolean is refused as that, and not as busy. -/
theorem touch_frame_badDown :
    betweenPackets.inflight = none ∧ touchFrameInProgress betweenPackets.node = true ∧
      (betweenPackets.call (.touch 1 2 10 10 none) .present).1.result = .errParam := by
  decide +kernel

/-- The second packet of the frame. -/
def secondPacket : TouchPacket where
  result := .ok
  first := false
  announced := 0
  records := [{ contactId := 2, tip := 1, x := 20, y := 20 }]
  unused := []
  remaining := 0
  scanTime := 0
  buttons := [0]

theorem delivers_twoTouches : twoTouches.Delivers twoDown.wire.length := by
  have hwire : (twoTouches.wire.drop twoDown.wire.length).map (·.result) = [.ok, .ok] := by
    decide +kernel
  have hall : ∀ t ∈ twoTouches.wire.drop twoDown.wire.length, t.result = .ok := by
    intro t ht
    have hmem := List.mem_map_of_mem (f := Transmission.result) ht
    rw [hwire] at hmem
    simpa using hmem
  exact ⟨fun t ht => Or.inl (hall t ht), fun t ht => hall t (List.mem_of_mem_head? ht)⟩

theorem hasContact_twoDown : twoDown.HasContact 1 .down := by decide +kernel

/-- The contacts that a touch Node holds. -/
def Node.activeContacts (node : Node) : ℕ :=
  match node.state with
  | .touch touch => touch.activeCount
  | _ => 0

/-- Both packets of the frame are delivered. -/
theorem touch_frame_sampleTouchpad :
    (touchView sampleTouchpad.layout twoTouches.wire).packets =
        [firstPacket .ok 10 10, secondPacket] ∧
      ∃ c touch scanTime, sampleTouchpad.config = .touch c ∧ twoDown.node.state = .touch touch ∧
        firstPacket .ok 10 10 = framePacket c.fields touch scanTime 0 ∧
        secondPacket = framePacket c.fields touch scanTime 1 := by
  obtain ⟨c, hconfig⟩ := config_sampleTouchpad
  have hsound := generated_sampleTouchpad.sound
  have hfits := System.fits_opened hsound opened_openedTouchpad
  obtain ⟨touch, hstate, -⟩ := hasContact_twoDown.exists_touch
  have hframe : touchFrameInProgress twoDown.node = false := by decide +kernel
  unfold touchFrameInProgress at hframe
  rw [hstate] at hframe
  have hcursor : touch.packetCursor = 0 := by simpa using hframe
  have hsent : (twoDown.submit clearSubmit).2.inflight.isSome = true := by decide +kernel
  have hlater : ReflTransGen System.Move (twoDown.submit clearSubmit).2 twoTouches := by
    have hrun : twoTouches = twoDown.run (sentReport .completed ++ sentReport .completed) := by
      rw [twoTouches, List.append_assoc, System.run_append]
      rfl
    rw [hrun, sentReport, List.cons_append, System.run_cons, System.step_submit]
    exact System.run_moves _ ((System.submit_move (hfits.run _) _).fits (hfits.run _))
  have hidle : twoDown.inflight = none := by decide +kernel
  have hmoves : ReflTransGen System.Move openedTouchpad twoDown := System.run_moves _ hfits
  obtain ⟨scanTime, hframe⟩ := touch_frame generated_sampleTouchpad hconfig opened_openedTouchpad
    hmoves hstate hcursor hidle hsent
  obtain ⟨since, hpackets, hall, -⟩ := hframe twoTouches hlater delivers_twoTouches
  have hwire : (touchView sampleTouchpad.layout twoTouches.wire).packets =
      [firstPacket .ok 10 10, secondPacket] := by decide +kernel
  have hbefore : (touchView sampleTouchpad.layout twoDown.wire).packets = [] := by decide +kernel
  rw [hwire, hbefore, List.nil_append] at hpackets
  -- One contact fits in a report, and two are down.
  have hslots : c.fields.contactsPerReport.toNat = 1 :=
    (contactSlots_eq hsound hconfig).symm.trans (by decide +kernel)
  have hactive : touch.activeCount = 2 := by
    have hcount : twoDown.node.activeContacts = 2 := by decide +kernel
    rwa [Node.activeContacts, hstate] at hcount
  rw [hslots, hactive, ← hpackets] at hall
  exact ⟨hwire, c, touch, scanTime, hconfig, hstate, hall 0 (by decide) _ rfl,
    hall 1 (by decide) _ rfl⟩

end LibaoaHid

import LibaoaHid.Api.PenTools
import LibaoaHid.Api.Lifecycle

/-!
# Edges of changes that take several reports

A frame of contacts may take several packets, and a switch of the pen's tool takes a departure and a
report of the new sample. The edge guards of all of it are open as soon as one of these reports
completes with an uncertain result, also the guards of what was not sent yet.

## Main definitions

* `CarriesContact`, `CarriesPenBit`: a report that carries an edge.
* `GuardsSent`: the guard of the runs in which an uncertain completion opens no guard of something
  that was not sent.

## Main results

* `Logged.contactWaits`, `Logged.penBitWaits`: an edge is carried, or its guard stays shut.
* `partial_edge_carried`.
-/

namespace LibaoaHid

/-! ### Edges -/

/-- A report with a record of the contact, Tip set. -/
def CarriesContact (layout : ReportLayout) (contactId : UInt32) (report : List UInt8) : Prop :=
  ∃ slot < layout.contactSlots, (layout.recordAt report slot).contactId = contactId.toNat ∧
    (layout.recordAt report slot).tip = 1

instance (layout : ReportLayout) (contactId : UInt32) (report : List UInt8) :
    Decidable (CarriesContact layout contactId report) :=
  inferInstanceAs (Decidable (∃ slot < layout.contactSlots, _ ∧ _))

/-- The bits of a pen sample. -/
inductive PenBit
  | inRange
  | tip
  | eraser
  | barrel (index : ℕ)
  deriving DecidableEq, Repr

/-- The value of a bit. -/
def PenBit.value (sample : PenSample) : PenBit → Bool
  | .inRange => sample.inRange == 1
  | .tip => sample.tip == 1
  | .eraser => sample.eraser == 1
  | .barrel index => sample.barrelButtons.toNat.testBit index

/-- A report of the desired sample, and not of a departure, with a value of the bit. -/
def CarriesPenBit (spec : Spec) (bit : PenBit) (value : Bool) (r : Reported) : Prop :=
  ∃ pen, r.state = .pen pen ∧ pen.toolSwitchDeparture = false ∧ bit.value pen.desired = value ∧
    spec.Carries (.pen pen) r.sent.report

/-- An edge of a pen is pending. -/
def PenState.isPending (pen : PenState) : Bool :=
  pen.inRangeTransitionPending || pen.tipTransitionPending || pen.eraserTransitionPending ||
    pen.barrelTransitions != 0

/-- The contacts of the frame behind the packet in flight. -/
def TouchState.unsent (touch : TouchState) (f : TouchFields) : List ContactState :=
  ((collectTouch touch).drop touch.packetCursor).drop f.contactsPerReport.toNat

/-- The completion is certain, or no guard of something that was not sent is shut: no contact behind
the packet is down and pending, and no edge of a departing pen. -/
def GuardsSent (s : System) (result : Result) : Prop :=
  Uncertain result →
    (∀ touch c, s.node.state = .touch touch → s.node.spec.config = .touch c →
      ∀ contact ∈ touch.unsent c.fields, contact.phase = .down →
        contact.lifecycleTransitionPending = false) ∧
    (∀ pen, s.node.state = .pen pen → pen.toolSwitchDeparture = true → pen.isPending = false)

/-! ### Contacts -/

/-- The contact waits for its packet: it is down, and its guard is shut. -/
def TouchState.Waits (touch : TouchState) (contactId : UInt32) : Prop :=
  ∃ contact ∈ (collectTouch touch).drop touch.packetCursor, contact.phase = .down ∧
    contact.sample.contactId = contactId ∧ contact.lifecycleTransitionPending = true

section Contacts

variable {c : TouchConfig} {touch touch' : TouchState} {contactId : UInt32}

theorem TouchState.Waits.congr (h : touch.Waits contactId)
    (hcontacts : touch'.contacts = touch.contacts)
    (hcursor : touch'.packetCursor = touch.packetCursor) : touch'.Waits contactId := by
  rw [TouchState.Waits, hcursor, collectTouch_congr hcontacts]
  exact h

/-- A waiting contact is in the packet, or behind it. -/
theorem TouchState.Waits.cases (h : touch.Waits contactId) (f : TouchFields) :
    (∃ contact ∈ touch.packetContacts f, contact.phase = .down ∧
      contact.sample.contactId = contactId) ∨
    ∃ contact ∈ touch.unsent f, contact.phase = .down ∧ contact.sample.contactId = contactId ∧
      contact.lifecycleTransitionPending = true := by
  obtain ⟨contact, hmem, hdown, hid, hpending⟩ := h
  rw [← List.take_append_drop f.contactsPerReport.toNat
    ((collectTouch touch).drop touch.packetCursor), List.mem_append] at hmem
  rcases hmem with hmem | hmem
  · exact .inl ⟨contact, hmem, hdown, hid⟩
  · exact .inr ⟨contact, hmem, hdown, hid, hpending⟩

/-- Between two frames every contact that is down with its guard shut waits. -/
theorem TouchState.waits_of_mem (hcursor : touch.packetCursor = 0) {contact : ContactState}
    (hmem : contact ∈ touch.contacts) (hdown : contact.phase = .down)
    (hid : contact.sample.contactId = contactId)
    (hpending : contact.lifecycleTransitionPending = true) : touch.Waits contactId := by
  refine ⟨contact, ?_, hdown, hid, hpending⟩
  rw [hcursor, List.drop_zero, mem_collectTouch]
  exact ⟨hmem, by rw [ContactState.isActive, hdown]; rfl⟩

/-- A call keeps a contact that waits. -/
theorem TouchState.Waits.call {call' : Call} {changed : Bool} (h : touch.Waits contactId)
    (hstep : CallStep (.touch c) call' (.touch touch) (.touch touch') changed) :
    touch'.Waits contactId := by
  rcases hstep.between with rfl | ⟨-, hcursor⟩
  · exact h
  obtain ⟨contact, hmem, hdown, hid, hpending⟩ := h
  have hmem := (mem_collectTouch.mp (List.mem_of_mem_drop hmem)).1
  have hkept (hother : contact ∈ touch'.contacts) : touch'.Waits contactId :=
    TouchState.waits_of_mem hcursor hother hdown hid hpending
  cases hstep with
  | keep | touchpadButton => exact hkept hmem
  | @lift _ _ _ x y _ slot old hslot _ _ _ _ _ hguard =>
    rcases mem_set_or_eq (liftedContact old x y) hslot hmem with hother | rfl
    · exact hkept hother
    · rw [hpending] at hguard
      cases hguard
  | @move _ _ other _ x y extra _ slot old hslot _ hother =>
    rcases mem_set_or_eq { old with sample := touchSample other x y extra } hslot hmem with
      hkeeps | rfl
    · exact hkept hkeeps
    · exact TouchState.waits_of_mem hcursor
        (List.mem_set (List.getElem?_eq_some_iff.mp hslot).1 _) hdown (hother.symm.trans hid)
        hpending
  | @place _ _ other _ x y extra slot old hslot hfree =>
    rcases mem_set_or_eq
      { phase := .down
        sample := touchSample other x y extra
        lifecycleTransitionPending := true } hslot hmem with hkeeps | rfl
    · exact hkept hkeeps
    · rw [hdown] at hfree
      cases hfree

/-- The packet of a state carries its contacts. -/
theorem carriesContact_of_mem {spec : Spec} {report : List UInt8}
    (hcarries : spec.Carries (.touch touch) report) (hsound : spec.Sound)
    (hconfig : spec.config = .touch c) (hfits : touch.Fits c.fields) {contact : ContactState}
    (hmem : contact ∈ touch.packetContacts c.fields) (hdown : contact.phase = .down) :
    CarriesContact spec.layout contact.sample.contactId report := by
  obtain ⟨slot, hslot, hget⟩ := List.mem_iff_getElem.mp hmem
  rw [TouchState.length_packetContacts] at hslot
  have hfound : (collectTouch touch)[touch.packetCursor + slot]? = some contact := by
    have hget := List.getElem?_eq_some_iff.mpr ⟨_, hget⟩
    rw [TouchState.packetContacts, List.getElem?_take_of_lt (by omega), List.getElem?_drop] at hget
    exact hget
  refine ⟨slot, ?_, ?_⟩
  · rw [contactSlots_eq hsound hconfig]
    omega
  · rw [recordAt_of_carries hcarries hsound hconfig hfits (by omega), hfound, Option.map_some,
      Option.getD_some, ContactState.record, if_pos hdown]
    exact ⟨rfl, rfl⟩

end Contacts

/-! ### Bits of a pen -/

section Bits

variable {c : PenConfig} {pen pen' : PenState} {bit : PenBit}

/-- Samples with the same contact bits. -/
theorem PenBit.value_congr {first second : PenSample} (hinRange : first.inRange = second.inRange)
    (htip : first.tip = second.tip) (heraser : first.eraser = second.eraser)
    (hbarrel : first.barrelButtons = second.barrelButtons) (bit : PenBit) :
    bit.value first = bit.value second := by
  cases bit <;> simp only [PenBit.value, hinRange, htip, heraser, hbarrel]

/-- The samples differ in a contact bit. -/
def PenSample.differs (before after : PenSample) : Bool :=
  before.inRange != after.inRange || before.tip != after.tip || before.eraser != after.eraser ||
    penBarrelChanges before after != 0

theorem PenSample.value_of_not_differs {before after : PenSample}
    (h : before.differs after = false) (bit : PenBit) : bit.value after = bit.value before := by
  simp only [PenSample.differs, penBarrelChanges, Bool.or_eq_false_iff, bne_eq_false_iff_eq,
    UInt32.xor_eq_zero_iff] at h
  obtain ⟨⟨⟨hinRange, htip⟩, heraser⟩, hbarrel⟩ := h
  exact PenBit.value_congr hinRange.symm htip.symm heraser.symm hbarrel.symm bit

theorem penTransitionConflicts_eq (pen : PenState) (next : PenSample) :
    penTransitionConflicts pen next = (pen.desired.differs next && pen.isPending) := rfl

/-- A call adds the edges of the bits that it changes. -/
theorem isPending_recordPenTransitions (pen : PenState) (next : PenSample) :
    (recordPenTransitions pen next).isPending = (pen.isPending || pen.desired.differs next) := by
  rw [Bool.eq_iff_iff]
  simp only [recordPenTransitions, PenState.isPending, PenSample.differs, Bool.or_eq_true,
    bne_iff_ne,
    ne_eq, UInt32.or_eq_zero_iff, not_and_or]
  tauto

/-- A call on a pen leaves a pen state. -/
theorem CallStep.exists_pen {call' : Call} {state : NodeState} {changed : Bool}
    (h : CallStep (.pen c) call' (.pen pen) state changed) : ∃ pen', state = .pen pen' := by
  cases h <;> exact ⟨_, rfl⟩

/-- A call keeps a bit with a pending edge. -/
theorem CallStep.penBit {call' : Call} {changed : Bool}
    (hstep : CallStep (.pen c) call' (.pen pen) (.pen pen') changed)
    (hpending : pen.isPending = true) :
    pen'.isPending = true ∧ bit.value pen'.desired = bit.value pen.desired := by
  cases hstep with
  | keep => exact ⟨hpending, rfl⟩
  | penUpdate _ hguard | penDepart hguard =>
    rw [penTransitionConflicts_eq, hpending, Bool.and_true] at hguard
    refine ⟨?_, PenSample.value_of_not_differs hguard bit⟩
    exact (isPending_recordPenTransitions pen _).trans (by rw [hpending, Bool.true_or])

/-- A call that changes a bit makes its edge pending. -/
theorem CallStep.isPending_of_ne {call' : Call} {changed : Bool}
    (hstep : CallStep (.pen c) call' (.pen pen) (.pen pen') changed)
    (hchange : bit.value pen'.desired ≠ bit.value pen.desired) : pen'.isPending = true := by
  have hdiffers : pen.desired.differs pen'.desired = true := by
    by_contra hsame
    exact hchange (PenSample.value_of_not_differs (Bool.eq_false_iff.mpr hsame) bit)
  cases hstep with
  | keep => exact absurd rfl hchange
  | penUpdate | penDepart =>
    exact (isPending_recordPenTransitions pen _).trans (by rw [hdiffers, Bool.or_true])

end Bits

/-! ### Runs -/

section Runs

variable {spec : Spec} {start s : System} {log : List Reported} {called : System → Call → Prop}
  {completed : System → Result → Prop}

/-- A report of a run that may have been applied. -/
def CarriedIn (carries : Reported → Prop) (log : List Reported) : Prop :=
  ∃ r ∈ log, r.sent.MayHaveApplied ∧ carries r

theorem CarriedIn.append {carries : Reported → Prop} (h : CarriedIn carries log) (r : Reported) :
    CarriedIn carries (log ++ [r]) := by
  obtain ⟨first, hmem, happlied, hcarries⟩ := h
  exact ⟨first, List.mem_append_left _ hmem, happlied, hcarries⟩

theorem carriedIn_append {carries : Reported → Prop} {r : Reported}
    (happlied : r.sent.MayHaveApplied) (h : carries r) : CarriedIn carries (log ++ [r]) :=
  ⟨r, List.mem_append_right _ (List.mem_singleton_self r), happlied, h⟩

/-- A call that changes something finds no report in flight. -/
theorem Node.Callable.idle_wire (hcallable : s.node.Callable) (hfits : s.Fits) :
    s.inflight = none := by
  have hbusy := hfits.inflight
  rw [hcallable.idle] at hbusy
  exact Option.isNone_iff_eq_none.mp (by simpa using hbusy.symm)

/-- The packet in flight holds the contacts of the state. -/
theorem Logged.packet {c : TouchConfig} (h : Logged called completed start log s)
    (hfits : start.Fits) (hconfig : start.node.spec.config = .touch c)
    (hidle : start.inflight = none)
    (hsome : s.inflight.isSome) {touch : TouchState} (hstate : s.node.state = .touch touch) :
    s.node.submittedTouchCount = (touch.packetContacts c.fields).length ∧
      s.node.submittedTouchFinalPacket = decide (touch.activeCount ≤
        touch.packetCursor + (touch.packetContacts c.fields).length) := by
  induction h generalizing touch with
  | nil =>
    rw [hidle] at hsome
    cases hsome
  | @call log s h call link _ ih =>
    have hrun := (h.fits hfits).1
    rcases call.perform_cases hrun.node.fitting link with
      ⟨reply, -, heq⟩ | ⟨state, changed, hcallable, -, heq⟩
    · rw [System.call, heq] at hstate ⊢
      exact ih hsome hstate
    · have hsome : s.inflight.isSome := hsome
      rw [hcallable.idle_wire hrun] at hsome
      cases hsome
  | @pause log s node h hsame ih =>
    have hpacket := hsame.packet ((h.fits hfits).1.inflight.trans hsome)
    obtain ⟨hcount, hfinal⟩ := ih hsome (hsame.state ▸ hstate)
    exact ⟨hpacket.1.trans hcount, hpacket.2.trans hfinal⟩
  | @send log s now report h hcallable hdirty hsending hcarries =>
    have hspec := (h.fits hfits).2
    have hstamped : s.node.state.stamped s.node.spec.config now = .touch touch := by
      rw [← Node.sent_state]
      exact hstate
    obtain ⟨hcount, hfinal⟩ := Node.sent_packet (hspec ▸ hconfig) hstamped
    rw [TouchState.length_packetContacts]
    exact ⟨hcount, hfinal⟩
  | finish => cases hsome

/-- The completion of a packet carries a waiting contact, or the contact still waits. -/
theorem TouchState.Waits.finish {c : TouchConfig} {touch : TouchState} {contactId : UInt32}
    (hwaits : touch.Waits contactId) (hfits : s.Fits) (hconfig : s.node.spec.config = .touch c)
    (hstate : s.node.state = .touch touch) {report : List UInt8} {result : Result}
    {nativeStatus : ℤ} (hinflight : s.inflight = some report) (hnative : 0 ≤ nativeStatus)
    (hguard : GuardsSent s result)
    (hpacket : s.node.submittedTouchCount = (touch.packetContacts c.fields).length ∧
      s.node.submittedTouchFinalPacket = decide (touch.activeCount ≤
        touch.packetCursor + (touch.packetContacts c.fields).length)) :
    (result ≠ .errStall ∧ CarriesContact s.node.spec.layout contactId report) ∨
      ∃ touch', (transferComplete s.node result nativeStatus).state = .touch touch' ∧
        touch'.Waits contactId := by
  by_cases hstall : result = .errStall
  · subst hstall
    exact .inr ⟨touch, (transferComplete_stall _ _).1.trans hstate, hwaits⟩
  have htouch : touch.Fits c.fields := by
    have hnode := hfits.node.state
    rw [hconfig, hstate] at hnode
    exact hnode
  have hlength := touch.length_packetContacts c.fields
  rcases hwaits.cases c.fields with
    ⟨contact, hmem, hdown, rfl⟩ | ⟨contact, hmem, hdown, hid, hpending⟩
  · exact .inl ⟨hstall, carriesContact_of_mem (hstate ▸ hfits.carries report hinflight)
      hfits.node.sound hconfig htouch hmem hdown⟩
  · have hmore : touch.packetCursor + c.fields.contactsPerReport.toNat < touch.activeCount := by
      have hpos := List.length_pos_of_mem hmem
      rw [TouchState.unsent, List.length_drop, List.length_drop, length_collectTouch] at hpos
      omega
    by_cases hok : result = .ok
    · subst hok
      have hfinal : s.node.submittedTouchFinalPacket = false := by
        rw [hpacket.2, decide_eq_false_iff_not]
        omega
      refine .inr ⟨_, (transferComplete_advance hstate hnative hfinal).1, contact, ?_, hdown, hid,
        hpending⟩
      have hcount : s.node.submittedTouchCount = c.fields.contactsPerReport.toNat := by
        rw [hpacket.1]
        omega
      rw [TouchState.unsent, List.drop_drop] at hmem
      dsimp only
      rw [hcount]
      exact hmem
    · have hopen := (hguard ⟨hok, hstall⟩).1 touch c hstate hconfig contact hmem hdown
      rw [hpending] at hopen
      cases hopen

/-- **A contact is carried, or it waits.** -/
theorem Logged.contactWaits {c : TouchConfig} (h : Logged AnyCall GuardsSent start log s)
    (hfits : start.Fits) (hconfig : start.node.spec.config = .touch c)
    (hidle : start.inflight = none)
    {contactId : UInt32} {before : TouchState} (hstart : start.node.state = .touch before)
    (hwaits : before.Waits contactId) :
    CarriedIn (fun r => CarriesContact start.node.spec.layout contactId r.sent.report) log ∨
      ∃ touch, s.node.state = .touch touch ∧ touch.Waits contactId := by
  induction h with
  | nil => exact .inr ⟨before, hstart, hwaits⟩
  | @call log s h call link _ ih =>
    rcases ih with hcarried | ⟨touch, hstate, hwaits⟩
    · exact .inl hcarried
    · obtain ⟨hrun, hspec⟩ := h.fits hfits
      rcases call.perform_cases hrun.node.fitting link with
        ⟨reply, -, heq⟩ | ⟨state, changed, -, hstep, heq⟩
      · rw [System.call, heq]
        exact .inr ⟨touch, hstate, hwaits⟩
      · rw [System.call, heq]
        rw [hspec, hconfig, hstate] at hstep
        obtain ⟨touch', rfl⟩ := hstep.exists_touch
        exact .inr ⟨touch', rfl, hwaits.call hstep⟩
  | @pause log s node h hsame ih =>
    rcases ih with hcarried | ⟨touch, hstate, hwaits⟩
    · exact .inl hcarried
    · exact .inr ⟨touch, hsame.state.trans hstate, hwaits⟩
  | @send log s now report h hcallable hdirty hsending hcarries ih =>
    rcases ih with hcarried | ⟨touch, hstate, hwaits⟩
    · exact .inl hcarried
    · refine .inr ⟨touch.stamped c.fields now, ?_,
        hwaits.congr (touch.stamped_contacts c.fields now)
        (touch.stamped_packetCursor c.fields now)⟩
      dsimp only
      rw [Node.sent_state, hstate, (h.fits hfits).2, hconfig, TouchState.stamped_eq]
  | @finish log s report result nativeStatus h hinflight hnative hguard ih =>
    rcases ih with hcarried | ⟨touch, hstate, hwaits⟩
    · exact .inl (hcarried.append _)
    · obtain ⟨hrun, hspec⟩ := h.fits hfits
      have hpacket := h.packet hfits hconfig hidle (by rw [hinflight]; rfl) hstate
      rcases hwaits.finish hrun (by rw [hspec, hconfig]) hstate hinflight hnative hguard
        hpacket with
        ⟨happlied, hcarries⟩ | hwaits
      · exact .inl (carriedIn_append happlied (hspec ▸ hcarries))
      · exact .inr hwaits

/-- **A bit of a pen is carried, or its edge is pending.** -/
theorem Logged.penBitWaits {c : PenConfig} (h : Logged AnyCall GuardsSent start log s)
    (hfits : start.Fits) (hconfig : start.node.spec.config = .pen c) {bit : PenBit}
    {before : PenState} (hstart : start.node.state = .pen before)
    (hpending : before.isPending = true) :
    CarriedIn (CarriesPenBit start.node.spec bit (bit.value before.desired)) log ∨
      ∃ pen, s.node.state = .pen pen ∧ bit.value pen.desired = bit.value before.desired ∧
        pen.isPending = true := by
  induction h with
  | nil => exact .inr ⟨before, hstart, rfl, hpending⟩
  | @call log s h call link _ ih =>
    rcases ih with hcarried | ⟨pen, hstate, hvalue, hpending⟩
    · exact .inl hcarried
    · obtain ⟨hrun, hspec⟩ := h.fits hfits
      rcases call.perform_cases hrun.node.fitting link with
        ⟨reply, -, heq⟩ | ⟨state, changed, -, hstep, heq⟩
      · rw [System.call, heq]
        exact .inr ⟨pen, hstate, hvalue, hpending⟩
      · rw [System.call, heq]
        rw [hspec, hconfig, hstate] at hstep
        obtain ⟨pen', rfl⟩ := hstep.exists_pen
        obtain ⟨hpending', hvalue'⟩ := @CallStep.penBit c pen pen' bit call changed hstep hpending
        exact .inr ⟨pen', rfl, hvalue'.trans hvalue, hpending'⟩
  | @pause log s node h hsame ih =>
    rcases ih with hcarried | ⟨pen, hstate, hwaits⟩
    · exact .inl hcarried
    · exact .inr ⟨pen, hsame.state.trans hstate, hwaits⟩
  | @send log s now report h hcallable hdirty hsending hcarries ih =>
    rcases ih with hcarried | ⟨pen, hstate, hwaits⟩
    · exact .inl hcarried
    · refine .inr ⟨pen, ?_, hwaits⟩
      dsimp only
      rw [Node.sent_state, hstate]
      rfl
  | @finish log s report result nativeStatus h hinflight hnative hguard ih =>
    rcases ih with hcarried | ⟨pen, hstate, hvalue, hpending⟩
    · exact .inl (hcarried.append _)
    · obtain ⟨hrun, hspec⟩ := h.fits hfits
      by_cases hstall : result = .errStall
      · subst hstall
        exact .inr ⟨pen, (transferComplete_stall _ _).1.trans hstate, hvalue, hpending⟩
      cases hdeparture : pen.toolSwitchDeparture with
      | false =>
        have hcarries : start.node.spec.Carries (.pen pen) report := by
          rw [← hspec, ← hstate]
          exact hrun.carries report hinflight
        exact .inl (carriedIn_append hstall ⟨pen, hstate, hdeparture, hvalue, hcarries⟩)
      | true =>
        by_cases hok : result = .ok
        · subst hok
          exact .inr ⟨_, transferComplete_departed hstate hnative hdeparture, hvalue, hpending⟩
        · have hopen := (hguard ⟨hok, hstall⟩).2 pen hstate hdeparture
          rw [hpending] at hopen
          cases hopen

end Runs

/-! ### The claim about both -/

/-- A bit of the desired sample of a pen. -/
def System.penBit (s : System) (bit : PenBit) : Option Bool :=
  match s.node.state with
  | .pen pen => some (bit.value pen.desired)
  | _ => none

theorem System.penBit_of_state {s : System} {pen : PenState} (h : s.node.state = .pen pen)
    (bit : PenBit) : s.penBit bit = some (bit.value pen.desired) := by
  rw [System.penBit, h]

theorem System.exists_pen_of_penBit {s : System} {bit : PenBit} {value : Bool}
    (h : s.penBit bit = some value) :
    ∃ pen, s.node.state = .pen pen ∧ bit.value pen.desired = value := by
  rw [System.penBit] at h
  cases hs : s.node.state with
  | pen pen =>
    rw [hs] at h
    exact ⟨pen, rfl, Option.some.inj h⟩
  | _ =>
    rw [hs] at h
    cases h

/-- A call that brings a contact down shuts its guard. -/
theorem CallStep.waits {c : TouchConfig} {touch touch' : TouchState} {call' : Call}
    {changed : Bool} (hstep : CallStep (.touch c) call' (.touch touch) (.touch touch') changed)
    {contactId : UInt32} (hbefore : ¬touch.HasContact contactId .down)
    (hafter : touch'.HasContact contactId .down) : touch'.Waits contactId := by
  obtain ⟨contact, hmem, hdown, hid⟩ := hafter
  have hold (hmem : contact ∈ touch.contacts) : touch'.Waits contactId :=
    absurd ⟨contact, hmem, hdown, hid⟩ hbefore
  cases hstep with
  | keep | touchpadButton => exact hold hmem
  | lift slot old hslot =>
    rcases List.mem_or_eq_of_mem_set hmem with hmem | rfl
    · exact hold hmem
    · cases hdown
  | move slot old hslot holdDown hother =>
    rcases List.mem_or_eq_of_mem_set hmem with hmem | rfl
    · exact hold hmem
    · exact absurd ⟨old, List.mem_of_getElem? hslot, holdDown, hother.trans hid⟩ hbefore
  | place slot old hslot =>
    rcases List.mem_or_eq_of_mem_set hmem with hkept | rfl
    · exact hold hkept
    · exact TouchState.waits_of_mem rfl hmem rfl hid rfl

/-- A contact that waits is down. -/
theorem TouchState.Waits.hasContact {touch : TouchState} {contactId : UInt32}
    (h : touch.Waits contactId) : touch.HasContact contactId .down := by
  obtain ⟨contact, hmem, hdown, hid, -⟩ := h
  exact ⟨contact, (mem_collectTouch.mp (List.mem_of_mem_drop hmem)).1, hdown, hid⟩

/-- A call that leaves a touch state found one. -/
theorem CallStep.touch_before {config : SpecConfig} {call' : Call} {state : NodeState}
    {touch' : TouchState} {changed : Bool} (h : CallStep config call' state (.touch touch') changed)
    (hfits : state.Fits config) : ∃ c touch, config = .touch c ∧ state = .touch touch := by
  cases h with
  | keep =>
    cases config with
    | touch c => exact ⟨c, touch', rfl, rfl⟩
    | _ => exact hfits.elim
  | _ => exact ⟨_, _, rfl, rfl⟩

theorem CallStep.pen_before {config : SpecConfig} {call' : Call} {state : NodeState}
    {pen' : PenState} {changed : Bool} (h : CallStep config call' state (.pen pen') changed)
    (hfits : state.Fits config) : ∃ c pen, config = .pen c ∧ state = .pen pen := by
  cases h with
  | keep =>
    cases config with
    | pen c => exact ⟨c, pen', rfl, rfl⟩
    | _ => exact hfits.elim
  | _ => exact ⟨_, _, rfl, rfl⟩

/-- **No edge is lost when a change takes several reports**, in every run in which no uncertain
completion opens the guard of something that was not sent. A call brings a contact down, or changes
a bit of a pen; a later call lifts the contact, or changes the bit again. In between a report that
may have been applied carries the first edge. -/
theorem partial_edge_carried {spec : Spec} (hspec : Generated spec) {s : System}
    (hreach : BeforeClose spec s) {first : Call} {firstLink : Link} {after : System}
    (hafter : after = (s.call first firstLink).2) {log : List Reported} {later : System}
    (h : Logged AnyCall GuardsSent after log later) (second : Call) (secondLink : Link) :
    (∀ contactId, ¬s.HasContact contactId .down → after.HasContact contactId .down →
      ¬(later.call second secondLink).2.HasContact contactId .down →
      CarriedIn (fun r => CarriesContact spec.layout contactId r.sent.report) log) ∧
    ∀ bit value, s.penBit bit ≠ some value → after.penBit bit = some value →
      (later.call second secondLink).2.penBit bit ≠ some value →
      CarriedIn (CarriesPenBit spec bit value) log := by
  obtain ⟨hfits, rfl⟩ := hreach.fits hspec.sound
  have hafterFits : after.Fits := hafter ▸ hfits.call first firstLink
  obtain ⟨hlaterFits, hlaterSpec⟩ := h.fits hafterFits
  rcases first.perform_cases hfits.node.fitting firstLink with
    ⟨reply, -, heq⟩ | ⟨state, changed, hcallable, hstep, heq⟩
  · have hsame : after = s := by rw [hafter, System.call, heq]
    subst hsame
    exact ⟨fun _ hnot hhas => absurd hhas hnot, fun _ _ hnot hhas => absurd hhas hnot⟩
  have hstate : after.node.state = state := by rw [hafter, System.call, heq]
  have hspecAfter : after.node.spec = s.node.spec := by rw [hafter, System.call, heq]
  have hidle : after.inflight = none := by
    rw [hafter]
    exact hcallable.idle_wire hfits
  refine ⟨fun contactId hbefore hhas hlifted => ?_, fun bit value hbefore hhas hchanged => ?_⟩
  · obtain ⟨touch', hstate', hdown⟩ := hhas.exists_touch
    obtain rfl := hstate.symm.trans hstate'
    obtain ⟨c, touch, hconfig, hs⟩ := hstep.touch_before hfits.node.state
    rw [hconfig, hs] at hstep
    have hwaits := hstep.waits (fun hhas => hbefore ((System.hasContact_iff hs).mpr hhas)) hdown
    rcases h.contactWaits hafterFits (hspecAfter ▸ hconfig) hidle hstate' hwaits with
      hcarried | ⟨waiting, hlater, hwaits⟩
    · exact hspecAfter ▸ hcarried
    · refine absurd ?_ hlifted
      rcases second.perform_cases hlaterFits.node.fitting secondLink with
        ⟨reply, -, heq⟩ | ⟨next, changed', -, hnext, heq⟩
      · rw [System.call, heq]
        exact (System.hasContact_iff hlater).mpr hwaits.hasContact
      · rw [System.call, heq]
        rw [hlaterSpec, hspecAfter, hconfig, hlater] at hnext
        obtain ⟨touch'', rfl⟩ := hnext.exists_touch
        exact (hwaits.call hnext).hasContact
  · obtain ⟨pen', hstate', hvalue⟩ := System.exists_pen_of_penBit hhas
    obtain rfl := hstate.symm.trans hstate'
    obtain ⟨c, pen, hconfig, hs⟩ := hstep.pen_before hfits.node.state
    rw [hconfig, hs] at hstep
    have hne : bit.value pen'.desired ≠ bit.value pen.desired := by
      rw [hvalue]
      intro hsame
      exact hbefore (by rw [System.penBit_of_state hs, hsame])
    rcases h.penBitWaits hafterFits (hspecAfter ▸ hconfig) hstate' (hstep.isPending_of_ne hne) with
      hcarried | ⟨waiting, hlater, hsame, hpending⟩
    · rw [hspecAfter, hvalue] at hcarried
      exact hcarried
    · refine absurd ?_ hchanged
      rcases second.perform_cases hlaterFits.node.fitting secondLink with
        ⟨reply, -, heq⟩ | ⟨next, changed', -, hnext, heq⟩
      · rw [System.call, heq, System.penBit_of_state hlater, hsame, hvalue]
      · rw [hlaterSpec, hspecAfter, hconfig, hlater] at hnext
        obtain ⟨pen'', rfl⟩ := hnext.exists_pen
        obtain ⟨-, hkept⟩ := @CallStep.penBit c waiting pen'' bit second changed' hnext hpending
        rw [System.call, heq]
        exact congrArg some ((hkept.trans hsame).trans hvalue)

/-- The sample touchpad with one contact down. -/
def oneTouch : System := (openedTouchpad.call (.touch 1 1 10 10 none) .present).2

theorem beforeClose_oneTouch : BeforeClose sampleTouchpad oneTouch :=
  .call (.opened opened_openedTouchpad) _ _

/-- The sample touchpad with two contacts down, of which one fits in a report. -/
def secondDown : System := (oneTouch.call (.touch 2 1 20 20 none) .present).2

/-- Both packets of the frame are delivered. -/
def bothPackets : List Event := sentReport .completed ++ sentReport .completed

theorem partial_edge_carried_bothPackets :
    ∃ log, Logged AnyCall GuardsSent secondDown log (secondDown.run bothPackets) ∧
      CarriedIn (fun r => CarriesContact sampleTouchpad.layout 2 r.sent.report) log := by
  have hfits : secondDown.Fits :=
    ((beforeClose_oneTouch.fits generated_sampleTouchpad.sound).1).call _ _
  obtain ⟨log, h⟩ := exists_logged_of_guards hfits (@Logged.nil AnyCall GuardsSent secondDown)
    (guards_of_isCertain (fun _ _ => trivial)
      (fun _ _ hcertain huncertain => absurd huncertain hcertain)
      (show secondDown.isCertain bothPackets = true by decide +kernel))
  exact ⟨log, h, (partial_edge_carried generated_sampleTouchpad beforeClose_oneTouch rfl h
    (.touch 2 0 20 20 none) .present).1 2 (by decide +kernel) (by decide +kernel)
    (by decide +kernel)⟩

/-- The first packet of the frame times out, and the next submit says so. -/
def lostPacket : List Event := sentReport .timedOut ++ [.submit clearSubmit]

/-- The pen in range with its tip, as the target knows. -/
def hoveringPen : System := openedPen.run ([hoverWith 0] ++ penReport .completed)

/-- The pen asks for its eraser. -/
def erasing : System := hoveringPen.step (hoverWith 1)

/-- The departure times out, and the next submit says so. -/
def lostDeparture : List Event := penReport .timedOut ++ [.submit penSubmit]

/-- The second contact is lifted although no report carried it; the pen turns back to its tip
although only a report out of range was sent. -/
theorem partial_edge_lost :
    (((secondDown.run lostPacket).call (.touch 2 0 20 20 none) .present).1.result = .ok ∧
      ((secondDown.run lostPacket).call (.touch 2 0 20 20 none) .present).2.HasContact 2 .up ∧
      ∀ t ∈ (secondDown.run lostPacket).wire, ¬CarriesContact sampleTouchpad.layout 2 t.report) ∧
    erasing.penBit .eraser = some true ∧
    ((erasing.run lostDeparture).step (hoverWith 0)).penBit .eraser = some false ∧
    ∀ t ∈ (erasing.run lostDeparture).wire.drop erasing.wire.length,
      samplePen.layout.readingAt t.report .inRange 0 = 0 := by
  refine ⟨⟨?_, ?_, ?_⟩, ?_, ?_, ?_⟩ <;> decide +kernel

end LibaoaHid

import LibaoaHid.Api.Neutral
import LibaoaHid.Api.TouchRuns
import LibaoaHid.Api.Reachable
import LibaoaHid.Foundation.Held

/-!
# Closing leaves nothing held

When `aoahid_node_close` answers `AOAHID_OK` for a present device, the other side has been given
the neutral state of every control that it may hold: behind every report that may have put a
control in another state, a report was delivered that encodes the control as neutral, and no
report after it may have changed that.

The controls are covered by `emitted_non_neutral`. A touch contact is not, since a packet carries
some of the contacts only; it is covered by its slot, which stays active until the packet that
lifts it has been delivered.

## Main definitions

* `Transmission.Holds`, `Transmission.Frees`: what a report does to a control.
* `TouchPacket.Holds`, `TouchPacket.Frees`: what a packet does to a contact.
* `System.NothingHeld`.

## Main results

* `System.Accounted.close`, `TouchRun.Accounts.move`: what each move keeps.
* `System.nothingHeld_of_closedNeutral`: what the neutral reports of a close leave.
* `close_leaves_nothing_held`.
-/

namespace LibaoaHid

open Relation

/-! ### Controls -/

/-- The report may have put the control in a state that is not neutral. -/
def Transmission.Holds (spec : Spec) (control : Control) (t : Transmission) : Prop :=
  t.MayHaveApplied ∧ ¬control.NeutralIn spec t.report

/-- The report was delivered and encodes the control as neutral. -/
def Transmission.Frees (spec : Spec) (control : Control) (t : Transmission) : Prop :=
  t.result = .ok ∧ control.NeutralIn spec t.report

/-- Unless `emitted_non_neutral` says so, the other side does not hold the control. -/
def System.Accounted (control : Control) (s : System) : Prop :=
  s.node.emittedNonNeutral = false →
    ¬Held (Transmission.Holds s.node.spec control) (Transmission.Frees s.node.spec control) s.wire

namespace System

variable {s s' : System} {control : Control}

theorem emittedNonNeutral_transferComplete (node : Node) (result : Result) {nativeStatus : ℤ}
    (hnative : 0 ≤ nativeStatus) :
    (transferComplete node result nativeStatus).emittedNonNeutral =
      if result = .errStall then node.emittedNonNeutral
      else if result = .ok then node.submittedNonNeutral
      else node.emittedNonNeutral || node.submittedNonNeutral := by
  by_cases hstall : result = .errStall
  · simp [hstall, transferComplete, mayHaveApplied, Node.publishCompletion]
  · rw [if_neg hstall, transferComplete_of_applied (by simp [mayHaveApplied, hnative, hstall])]
    rfl

/-- The report in flight of a neutral state is neutral. -/
theorem Fits.neutralIn (hfits : s.Fits) (h : hasNonNeutralState s.node = false)
    {report : List UInt8} (hinflight : s.inflight = some report) (control : Control) :
    control.NeutralIn s.node.spec report := by
  refine neutralIn_of_carries hfits.node ?_ h (hfits.carries report hinflight) control
  exact hfits.node.reportable (Or.inl (hfits.dirty (by rw [hinflight]; rfl)))

theorem Accounted.report (h : s.Accounted control) (hfits : s.Fits) (hmove : ReportMove s s') :
    s'.Accounted control := by
  unfold Accounted at h ⊢
  cases hmove with
  | pause hsame =>
    rw [hsame.spec, hsame.emittedNonNeutral]
    exact h
  | send =>
    rw [Node.sent_spec, Node.sent_emittedNonNeutral]
    exact h
  | @finish report result nativeStatus hinflight hnative =>
    rw [(transferComplete_spec_dirty s.node result nativeStatus).1,
      emittedNonNeutral_transferComplete s.node result hnative, held_append_singleton,
      hfits.nonNeutral (by rw [hinflight]; rfl)]
    have hneutral (hsubmitted : hasNonNeutralState s.node = false) :=
      hfits.neutralIn hsubmitted hinflight control
    by_cases hstall : result = .errStall
    · rw [if_pos hstall]
      rintro hemitted (⟨happlied, -⟩ | ⟨hheld, -⟩)
      · exact happlied hstall
      · exact h hemitted hheld
    · rw [if_neg hstall]
      by_cases hok : result = .ok
      · rw [if_pos hok]
        rintro hsubmitted (⟨-, hnot⟩ | ⟨-, hnot⟩)
        · exact hnot (hneutral hsubmitted)
        · exact hnot ⟨hok, hneutral hsubmitted⟩
      · rw [if_neg hok, Bool.or_eq_false_iff]
        rintro ⟨hemitted, hsubmitted⟩ (⟨-, hnot⟩ | ⟨hheld, -⟩)
        · exact hnot (hneutral hsubmitted)
        · exact h hemitted hheld

theorem Accounted.close (h : s.Accounted control) (hfits : s.Fits) (hmove : CloseMove s s') :
    s'.Accounted control := by
  cases hmove with
  | report hmove => exact h.report hfits hmove
  | neutral | release => exact h

theorem Accounted.reports (h : s.Accounted control) (hfits : s.Fits)
    (hmoves : ReflTransGen ReportMove s s') : s'.Accounted control := by
  have hboth : s'.Fits ∧ s'.Accounted control := by
    induction hmoves with
    | refl => exact ⟨hfits, h⟩
    | tail _ hmove ih => exact ⟨hmove.fits ih.1, ih.2.report ih.1 hmove⟩
  exact hboth.2

theorem Accounted.run (h : s.Accounted control) (hfits : s.Fits) (events : List Event) :
    (s.run events).Accounted control :=
  (run_invariant_close (P := fun s => s.Accounted control)
    (fun s hfits h call link => by
      rcases call.perform_cases hfits.node.fitting link with
        ⟨_, -, heq⟩ | ⟨_, _, -, -, heq⟩ <;>
      · unfold System.call
        rw [heq]
        exact h)
    (fun _ _ hfits h hmove => h.close hfits hmove) events hfits h).2

/-- The Scan Time holds nothing. -/
theorem hasNonNeutralState_sent (node : Node) (now : ℤ) :
    hasNonNeutralState (node.sent now) = hasNonNeutralState node := by
  unfold hasNonNeutralState
  rw [Node.sent_spec, Node.sent_state]
  cases hstate : node.state with
  | touch touch =>
    cases hconfig : node.spec.config with
    | touch c =>
      rw [TouchState.stamped_eq]
      simp only [TouchState.stamped_contacts, TouchState.stamped_buttons]
    | _ => rfl
  | _ => rfl

/-- A Node on its way to the neutral state: its state is neutral, and whatever the other side may
hold keeps it dirty. -/
structure Quieting (s : System) : Prop where
  neutral : hasNonNeutralState s.node = false
  dirty : s.node.emittedNonNeutral = true → s.node.dirty = true

/-- A delivered report keeps a Node on its way. -/
theorem Quieting.report (h : s.Quieting) (hfits : s.Fits) (hmove : ReportMove s s')
    (hok : s'.Allows (· = .ok) s.wire.length) : s'.Quieting := by
  cases hmove with
  | pause hsame =>
    refine ⟨(hasNonNeutralState_congr hsame.spec hsame.state).trans h.neutral, ?_⟩
    rw [hsame.emittedNonNeutral, hsame.dirty]
    exact h.dirty
  | @send now _ =>
    refine ⟨(hasNonNeutralState_sent s.node now).trans h.neutral, ?_⟩
    rw [Node.sent_emittedNonNeutral, Node.sent_dirty]
    exact h.dirty
  | @finish report result nativeStatus hinflight hnative =>
    have hresult : result = .ok := by simpa [Allows] using hok
    subst hresult
    refine ⟨hasNonNeutralState_transferComplete_ok h.neutral hnative, fun hemitted => ?_⟩
    rw [emittedNonNeutral_transferComplete s.node .ok hnative, if_neg (by simp), if_pos rfl,
      hfits.nonNeutral (by rw [hinflight]; rfl), h.neutral] at hemitted
    simp at hemitted

theorem Quieting.reports (h : s.Quieting) (hfits : s.Fits) (hmoves : ReflTransGen ReportMove s s')
    (hok : s'.Allows (· = .ok) s.wire.length) : s'.Quieting := by
  have hgrows : s.wire <+: s'.wire ∧ s'.Fits ∧ s'.Quieting := by
    induction hmoves with
    | refl => exact ⟨List.prefix_rfl, hfits, h⟩
    | tail _ hmove ih =>
      obtain ⟨hearlier, hmid, hquiet⟩ := ih (hok.of_prefix hmove.wire_prefix)
      exact ⟨hearlier.trans hmove.wire_prefix, hmove.fits hmid,
        hquiet.report hmid hmove (hok.later hearlier.length_le)⟩
  exact hgrows.2.2

/-- The neutral state is on its way. -/
theorem Fits.quieting_makeNeutral (hfits : s.Fits) (hkind : s.node.spec.kind ≠ .battery) :
    Quieting { s with node := LibaoaHid.makeNeutral s.node } :=
  ⟨hasNonNeutralState_makeNeutral hfits.node, dirty_makeNeutral hfits.node hkind⟩

/-- **The successful close of a present device frees every control.** -/
theorem Accounted.closed (h : s.Accounted control) (hfits : s.Fits)
    (hkind : s.node.spec.kind ≠ .battery) (hclosed : s.ClosedNeutral s') :
    ¬Held (Transmission.Holds s.node.spec control) (Transmission.Frees s.node.spec control)
      s'.wire := by
  obtain ⟨settled, hmoves, hok, hsettled, rfl⟩ := hclosed.neutral
  have hneutral : CloseMove s { s with node := makeNeutral s.node } :=
    .neutral hclosed.resting.idle hclosed.opened hclosed.resting.frame
  have hfitsNeutral := hneutral.fits hfits
  have hquiet := (hfits.quieting_makeNeutral hkind).reports hfitsNeutral hmoves hok.2
  have haccounted := (h.close hfits hneutral).reports hfitsNeutral hmoves
  have hspec : settled.node.spec = s.node.spec := (reports_spec_eq hmoves).trans rfl
  rw [← hspec]
  refine haccounted (Bool.eq_false_iff.mpr fun hemitted => ?_)
  have hdirty := hquiet.dirty hemitted
  rw [hsettled.clean] at hdirty
  simp at hdirty

end System

/-! ### Contacts -/

/-- The packet carries the Contact ID with Tip set. -/
def TouchPacket.Holds (contactId : ℤ) (packet : TouchPacket) : Prop :=
  ∃ r ∈ packet.records, r.contactId = contactId ∧ r.tip = 1

/-- The packet carries the Contact ID with Tip clear. -/
def TouchPacket.Lifts (contactId : ℤ) (packet : TouchPacket) : Prop :=
  ∃ r ∈ packet.records, r.contactId = contactId ∧ r.tip = 0

/-- The packet was delivered and carries the Contact ID with Tip clear. -/
def TouchPacket.Frees (contactId : ℤ) (packet : TouchPacket) : Prop :=
  packet.result = .ok ∧ packet.Lifts contactId

section Packets

variable {touch : TouchState} {f : TouchFields} {result : Result} {contactId : ℤ}

theorem holds_packet : (touch.packet f result).Holds contactId ↔
    ∃ contact ∈ touch.packetContacts f, (contact.record f).contactId = contactId ∧
      contact.phase = .down := by
  simp only [TouchPacket.Holds, TouchState.packet, List.mem_map, exists_exists_and_eq_and,
    tip_record_eq_one]

theorem lifts_packet : (touch.packet f result).Lifts contactId ↔
    ∃ contact ∈ touch.packetContacts f, (contact.record f).contactId = contactId ∧
      contact.phase ≠ .down := by
  simp only [TouchPacket.Lifts, TouchState.packet, List.mem_map, exists_exists_and_eq_and,
    tip_record_eq_zero]

theorem frees_packet : (touch.packet f result).Frees contactId ↔
    result = .ok ∧ ∃ contact ∈ touch.packetContacts f, (contact.record f).contactId = contactId ∧
      contact.phase ≠ .down := by
  rw [TouchPacket.Frees, lifts_packet, TouchState.packet]

end Packets

/-- A contact that the other side may hold has its slot, and the packet that lifts it is still to
come. -/
def TouchRun.Accounts (f : TouchFields) (contactId : ℤ) (r : TouchRun) : Prop :=
  Held (TouchPacket.Holds contactId) (TouchPacket.Frees contactId) r.view.packets →
    ∃ k contact, (collectTouch r.touch)[k]? = some contact ∧
      (contact.record f).contactId = contactId ∧
      (contact.phase ≠ .down → r.touch.packetCursor ≤ k)

namespace TouchRun.Accounts

variable {c : TouchConfig} {allowed : Result → Prop} {contactId : ℤ} {r r' : TouchRun}

/-- Between two frames only the slot counts. -/
theorem of_between {view : TouchView} (hview : r'.view = view)
    (hcursor : r'.touch.packetCursor = 0)
    (h : Held (TouchPacket.Holds contactId) (TouchPacket.Frees contactId) view.packets →
      ∃ contact ∈ r'.touch.contacts, contact.isActive = true ∧
        (contact.record c.fields).contactId = contactId) : r'.Accounts c.fields contactId := by
  intro hheld
  obtain ⟨contact, hmem, hactive, hid⟩ := h (hview ▸ hheld)
  obtain ⟨k, hk⟩ := List.mem_iff_getElem?.mp (mem_collectTouch.mpr ⟨hmem, hactive⟩)
  exact ⟨k, contact, hk, hid, fun _ => hcursor ▸ Nat.zero_le k⟩

/-- A slot that is active. -/
theorem exists_active (h : r.Accounts c.fields contactId)
    (hheld : Held (TouchPacket.Holds contactId) (TouchPacket.Frees contactId) r.view.packets) :
    ∃ contact ∈ r.touch.contacts, contact.isActive = true ∧
      (contact.record c.fields).contactId = contactId := by
  obtain ⟨k, contact, hk, hid, -⟩ := h hheld
  obtain ⟨hmem, hactive⟩ := mem_contacts_of_collectTouch hk
  exact ⟨contact, hmem, hactive, hid⟩

theorem report (h : r.Accounts c.fields contactId) (hmove : TouchReport c allowed r r') :
    r'.Accounts c.fields contactId := by
  cases hmove with
  | keep => exact h
  | send now =>
    intro hheld
    rw [collectTouch_congr (r.touch.stamped_contacts c.fields now),
      r.touch.stamped_packetCursor c.fields now]
    exact h hheld
  | stall => exact h
  | advance hsent hallowed hmore =>
    intro hheld
    rw [TouchView.add_packets, held_append_singleton, holds_packet, frees_packet] at hheld
    rcases hheld with ⟨contact, hmem, hid, hdown⟩ | ⟨hheld, hfrees⟩
    · obtain ⟨k, -, -, hk⟩ := mem_packetContacts.mp hmem
      exact ⟨k, contact, hk, hid, fun hup => absurd hdown hup⟩
    · obtain ⟨k, contact, hk, hid, hle⟩ := h hheld
      refine ⟨k, contact, hk, hid, fun hup => ?_⟩
      by_contra hlt
      refine hfrees ⟨rfl, contact, mem_packetContacts.mpr ⟨k, hle hup, ?_, hk⟩, hid, hup⟩
      exact not_le.mp hlt
  | finish hsent hallowed hlast =>
    refine of_between rfl rfl fun hheld => ?_
    have hdown : ∃ contact ∈ r.touch.contacts, contact.phase = .down ∧
        (contact.record c.fields).contactId = contactId := by
      rw [TouchView.add_packets, held_append_singleton, holds_packet, frees_packet] at hheld
      rcases hheld with ⟨contact, hmem, hid, hdown⟩ | ⟨hheld, hfrees⟩
      · obtain ⟨k, -, -, hk⟩ := mem_packetContacts.mp hmem
        exact ⟨contact, (mem_contacts_of_collectTouch hk).1, hdown, hid⟩
      · obtain ⟨k, contact, hk, hid, hle⟩ := h hheld
        refine ⟨contact, (mem_contacts_of_collectTouch hk).1, ?_, hid⟩
        by_contra hup
        refine hfrees ⟨rfl, contact, mem_packetContacts.mpr ⟨k, hle hup, ?_, hk⟩, hid, hup⟩
        have hlt := (List.getElem?_eq_some_iff.mp hk).1
        rw [length_collectTouch] at hlt
        omega
    obtain ⟨contact, hmem, hdown, hid⟩ := hdown
    refine ⟨{ contact with lifecycleTransitionPending := false }, ?_, ?_, hid⟩
    · refine List.mem_map.mpr ⟨contact, List.mem_map.mpr ⟨contact, hmem, ?_⟩, rfl⟩
      rw [if_neg (by simp [hdown])]
    · simp [ContactState.isActive, hdown]
  | abandon hsent hallowed hok hstall =>
    refine of_between rfl rfl fun hheld => ?_
    rw [TouchView.add_packets, held_append_singleton, holds_packet] at hheld
    have hactive : ∃ contact ∈ r.touch.contacts, contact.isActive = true ∧
        (contact.record c.fields).contactId = contactId := by
      rcases hheld with ⟨contact, hmem, hid, -⟩ | ⟨hheld, -⟩
      · obtain ⟨k, -, -, hk⟩ := mem_packetContacts.mp hmem
        obtain ⟨hmem, hactive⟩ := mem_contacts_of_collectTouch hk
        exact ⟨contact, hmem, hactive, hid⟩
      · exact h.exists_active hheld
    obtain ⟨contact, hmem, hactive, hid⟩ := hactive
    exact ⟨{ contact with lifecycleTransitionPending := false },
      List.mem_map.mpr ⟨contact, hmem, rfl⟩, hactive, hid⟩

theorem move (h : r.Accounts c.fields contactId) (hmove : TouchMove c allowed r r') :
    r'.Accounts c.fields contactId := by
  cases hmove with
  | report hmove => exact h.report hmove
  | @call call touch changed hidle hstep =>
    by_cases hcursor : touch.packetCursor = 0
    · refine of_between rfl hcursor fun hheld => ?_
      obtain ⟨contact, hmem, hactive, hid⟩ := h.exists_active hheld
      obtain ⟨next, hnext, hstill, hsame⟩ := hstep.exists_contact hmem hactive
      exact ⟨next, hnext, hstill, (contactId_record_eq.mpr hsame).trans hid⟩
    · cases hstep.eq_of_packetCursor_ne_zero rfl hcursor
      exact h
  | neutral held hidle hcursor =>
    refine of_between rfl rfl fun hheld => ?_
    obtain ⟨contact, hmem, hactive, hid⟩ := h.exists_active hheld
    refine ⟨_, List.mem_map.mpr ⟨contact, hmem, rfl⟩, ?_, ?_⟩
    · split_ifs
      · rfl
      · exact hactive
    · split_ifs <;> exact hid

end TouchRun.Accounts

/-- A touch Node on its way to the neutral state: no contact is down, and the lifted ones are
pending. -/
structure TouchRun.Quieting (r : TouchRun) : Prop where
  up : ∀ contact ∈ r.touch.contacts, contact.phase ≠ .down
  dirty : r.touch.activeCount ≠ 0 → r.dirty = true

/-- Without a contact that is down, the end of a frame frees every slot. -/
theorem activeCount_finishFrame_of_up {touch : TouchState}
    (h : ∀ contact ∈ touch.contacts, contact.phase ≠ .down) :
    (finishFrame touch).activeCount = 0 := by
  rw [TouchState.activeCount, List.countP_eq_zero]
  intro contact hmem
  obtain ⟨before, hbefore, rfl⟩ := List.mem_map.mp hmem
  have hup := h before hbefore
  cases hphase : before.phase with
  | none => simp [ContactState.isActive, hphase]
  | down => exact absurd hphase hup
  | up => simp [ContactState.isActive]

theorem TouchRun.Quieting.report {c : TouchConfig} {r r' : TouchRun} (h : r.Quieting)
    (hmove : TouchReport c (· = .ok) r r') : r'.Quieting := by
  cases hmove with
  | keep => exact h
  | send now =>
    have hcontacts := r.touch.stamped_contacts c.fields now
    refine ⟨?_, ?_⟩
    · rw [hcontacts]
      exact h.up
    · rw [activeCount_congr hcontacts]
      exact h.dirty
  | stall _ hallowed => simp at hallowed
  | advance => exact ⟨h.up, fun _ => rfl⟩
  | finish =>
    refine ⟨fun contact hmem => ?_, fun hactive => ?_⟩
    · obtain ⟨next, hnext, rfl⟩ := List.mem_map.mp hmem
      obtain ⟨before, hbefore, rfl⟩ := List.mem_map.mp hnext
      have := h.up before hbefore
      split_ifs <;> simp_all
    · rw [activeCount_released, activeCount_finishFrame_of_up h.up] at hactive
      exact absurd rfl hactive
  | abandon _ hallowed hok => exact absurd hallowed hok

namespace System

variable {s s' : System} {c : TouchConfig} {r : TouchRun} {contactId : ℤ}

/-- The neutral state of a touch Node is on its way. -/
theorem Shows.quieting (h : Shows { s with node := LibaoaHid.makeNeutral s.node } c r)
    (hfits : s.Fits) (hconfig : s.node.spec.config = .touch c) : r.Quieting := by
  have hstate := h.state
  have hdirty := h.dirty
  have hkind := hfits.node.sound.accepted.touch_kind hconfig
  have hfitting := hfits.node.state
  rw [hconfig] at hfitting
  unfold LibaoaHid.makeNeutral neutralizeState at hstate hdirty
  cases hs : s.node.state with
  | touch touch =>
    rw [hs] at hstate hdirty
    have htouch : (neutralizeTouch touch).1 = r.touch := NodeState.touch.inj hstate
    refine ⟨fun contact hmem => ?_, fun hactive => ?_⟩
    · rw [← htouch] at hmem
      obtain ⟨before, -, rfl⟩ := List.mem_map.mp hmem
      split_ifs with hdown <;> simp [hdown]
    · rw [← htouch, activeCount_neutralizeTouch] at hactive
      obtain ⟨contact, hmem, hcontact⟩ := List.countP_pos_iff.mp (Nat.pos_of_ne_zero hactive)
      have hany : (neutralizeTouch touch).2 = true := by
        unfold neutralizeTouch
        simp only [Bool.or_eq_true]
        exact Or.inl (List.any_eq_true.mpr ⟨contact, hmem, hcontact⟩)
      rw [← hdirty]
      rcases hkind with hkind | hkind <;> rw [hkind] <;> simp [hany]
  | _ =>
    rw [hs] at hfitting
    exact hfitting.elim

/-- **The successful close of a present device frees every contact.** -/
theorem Showing.closed (h : s.Showing c (TouchRun.Accounts c.fields contactId)) (hfits : s.Fits)
    (hclosed : s.ClosedNeutral s') :
    ¬Held (TouchPacket.Holds contactId) (TouchPacket.Frees contactId)
      (touchView s.node.spec.layout s'.wire).packets := by
  obtain ⟨settled, hmoves, hok, hsettled, rfl⟩ := hclosed.neutral
  have hneutral : CloseMove s { s with node := LibaoaHid.makeNeutral s.node } :=
    .neutral hclosed.resting.idle hclosed.opened hclosed.resting.frame
  have hfitsNeutral := hneutral.fits hfits
  obtain ⟨r, hshows, haccounts⟩ := h
  obtain ⟨r₁, hmove, hshows₁⟩ : ∃ r₁, TouchMove c (fun _ => True) r r₁ ∧
      Shows { s with node := LibaoaHid.makeNeutral s.node } c r₁ :=
    hshows.close hfits hneutral fun _ _ => trivial
  have hstart : Showing { s with node := LibaoaHid.makeNeutral s.node } c
      fun r => r.Accounts c.fields contactId ∧ r.Quieting :=
    ⟨r₁, hshows₁, haccounts.move hmove, hshows₁.quieting hfits hshows.config⟩
  have hallows : settled.Allows (· = .ok) s.wire.length := hok.2
  obtain ⟨r₂, hshows₂, haccounts₂, hquiet⟩ := hstart.reports
    (fun _ _ _ h hreport => ⟨h.1.report hreport, h.2.report hreport⟩) hfitsNeutral hmoves hallows
  have hspec : settled.node.spec = s.node.spec := (reports_spec_eq hmoves).trans rfl
  intro hheld
  change Held _ _ (touchView s.node.spec.layout settled.wire).packets at hheld
  rw [← hspec, hshows₂.view] at hheld
  obtain ⟨contact, hmem, hactive, -⟩ := haccounts₂.exists_active hheld
  have hdirty := hquiet.dirty (List.countP_pos_iff.mpr ⟨contact, hmem, hactive⟩).ne'
  rw [← hshows₂.dirty, hsettled.clean] at hdirty
  simp at hdirty

end System

/-! ### Closing a Node -/

/-- The other side holds no control of the Node, and no contact of a Touchscreen or Touchpad. -/
structure System.NothingHeld (s : System) : Prop where
  controls : ∀ control, ¬Held (Transmission.Holds s.node.spec control)
    (Transmission.Frees s.node.spec control) s.wire
  contacts : s.node.spec.kind = .touchscreen ∨ s.node.spec.kind = .touchpad → ∀ contactId,
    ¬Held (TouchPacket.Holds contactId) (TouchPacket.Frees contactId)
      (touchView s.node.spec.layout s.wire).packets

/-- **The neutral reports of a close leave nothing held**, whatever the Node did before. -/
theorem System.nothingHeld_of_closedNeutral {spec : Spec} (hspec : Generated spec)
    (hkind : spec.kind ≠ .battery) {hidId : ℕ} {opened drained closed : System}
    (hopened : System.opened spec hidId = some opened) (events : List Event)
    (hdrained : ReflTransGen ReportMove (opened.run events) drained)
    (hclosed : drained.ClosedNeutral closed) : closed.NothingHeld := by
  have hfits := fits_opened hspec.sound hopened
  obtain ⟨hspec₀, hwire₀⟩ := eq_of_opened hopened
  have hfits₁ := hfits.run events
  have hspec₁ : (opened.run events).node.spec = spec := (run_spec_eq hfits events).trans hspec₀
  have hfits₂ := reports_fits hdrained hfits₁
  have hspec₂ : drained.node.spec = spec := (reports_spec_eq hdrained).trans hspec₁
  have hspec₃ : closed.node.spec = spec := by
    obtain ⟨settled, hmoves, -, -, rfl⟩ := hclosed.neutral
    exact (reports_spec_eq hmoves).trans hspec₂
  constructor
  · intro control
    rw [hspec₃]
    have haccounted : opened.Accounted control := fun _ => by
      rw [hwire₀]
      exact not_held_nil
    have hfree := ((haccounted.run hfits events).reports hfits₁ hdrained).closed hfits₂
      (hspec₂ ▸ hkind) hclosed
    rwa [hspec₂] at hfree
  · rw [hspec₃]
    intro htouch contactId
    obtain ⟨c, hconfig⟩ := hspec.exists_touch htouch
    have hshowing : opened.Showing c (TouchRun.Accounts c.fields contactId) :=
      ⟨_, shows_opened hspec.sound hconfig hopened, fun hheld => absurd hheld not_held_nil⟩
    have hrun := (hshowing.run (fun _ _ _ h hmove => h.move hmove) hfits events
      (Allows.always _ _)).2
    have hdrain := hrun.reports (fun _ _ _ h hmove => h.report hmove) hfits₁ hdrained
      (Allows.always _ _)
    have hfree := hdrain.closed hfits₂ hclosed
    rwa [hspec₂] at hfree

/-- **Closing leaves nothing held.** In every run of a Node, closes that failed included, that ends
with a successful close of a present device, behind every report that may have encoded a control
as not neutral a report was delivered that encodes it as neutral, and no later report may have
changed that. The same holds for the Contact IDs in the packets of a Touchscreen or Touchpad. -/
theorem close_leaves_nothing_held {spec : Spec} (hspec : Generated spec)
    (hkind : spec.kind ≠ .battery) {hidId : ℕ} {opened : System}
    (hopened : System.opened spec hidId = some opened) (events : List Event) {env : CloseEnv}
    (hpresent : env.present = true)
    (hok : (nodeClose (opened.run events) env).1.result = .ok) {wire : List Transmission}
    (hwire : wire = (nodeClose (opened.run events) env).2.wire) :
    (∀ control before t after, wire = before ++ t :: after → t.Holds spec control →
      ∃ mid freed rest, after = mid ++ freed :: rest ∧ freed.Frees spec control ∧
        ∀ later ∈ rest, ¬later.Holds spec control) ∧
    (spec.kind = .touchscreen ∨ spec.kind = .touchpad →
      ∀ contactId before packet after,
        (touchView spec.layout wire).packets = before ++ packet :: after →
        packet.Holds contactId →
        ∃ mid freed rest, after = mid ++ freed :: rest ∧ freed.Frees contactId ∧
          ∀ later ∈ rest, ¬later.Holds contactId) := by
  have hfits := System.fits_opened hspec.sound hopened
  have hspec₁ : (opened.run events).node.spec = spec :=
    (System.run_spec_eq hfits events).trans (System.eq_of_opened hopened).1
  obtain ⟨hmoves, hclose⟩ := nodeClose_moves (hfits.run events) env
  obtain ⟨drained, hdrained, hclosed⟩ := hclose hpresent hok
  have hspec₂ : (nodeClose (opened.run events) env).2.node.spec = spec := by
    obtain ⟨settled, hsettled, -, -, heq⟩ := hclosed.neutral
    rw [heq]
    exact (System.reports_spec_eq hsettled).trans ((System.reports_spec_eq hdrained).trans hspec₁)
  obtain ⟨hcontrols, hcontacts⟩ :=
    System.nothingHeld_of_closedNeutral hspec hkind hopened events hdrained hclosed
  rw [hspec₂, ← hwire] at hcontrols hcontacts
  exact ⟨fun control before t after heq => exists_clear_of_not_held (hcontrols control) heq,
    fun htouch contactId before packet after heq =>
      exists_clear_of_not_held (hcontacts htouch contactId) heq⟩

/-- The sample mouse after a report with its first button down was delivered. -/
def heldMouse : List Event :=
  [.call (.mouseButton 1 1) .present, .submit { acquire := .ok (List.replicate 8 0) },
    .complete .completed 6]

/-- A close whose neutral report is delivered at once. -/
def promptClose : CloseEnv where
  drain := { first := { submit := { acquire := .ok [] } } }
  neutral :=
    { first :=
        { submit := { acquire := .ok (List.replicate 8 0) }
          completion := some (.completed, 6) }
      rest := [{ submit := { acquire := .ok [] } }] }

/-- The report with the first button down. -/
def heldReport : Transmission := ⟨[7, 1, 0, 0, 0, 0], .ok⟩

theorem holds_heldReport : heldReport.Holds sampleMouse (.button 0) := by
  refine ⟨by decide, fun hneutral => ?_⟩
  have hfield : ∃ field ∈ sampleMouse.layout.fields,
      field.semantic = .buttons ∧ field.instanceIndex = 0 ∧
        fieldReading heldReport.report field = 1 := by
    decide +kernel
  obtain ⟨field, hmem, hsemantic, hindex, hreading⟩ := hfield
  have hcovers : (Control.button 0).Covers sampleMouse.config field := by
    refine ⟨hsemantic, hindex, ?_⟩
    rintro ⟨start, hstart, -⟩
    exact absurd hstart (by simp [show sampleMouse.config.dpadStart = none from rfl])
  have hzero := hneutral field hmem hcovers
  unfold NeutralReading at hzero
  rw [hsemantic, hreading] at hzero
  simp at hzero

theorem close_leaves_nothing_held_heldMouse :
    ∃ mid freed rest, (nodeClose (sampleOpened.run heldMouse) promptClose).2.wire.tail =
        mid ++ freed :: rest ∧ freed.Frees sampleMouse (.button 0) ∧
      ∀ later ∈ rest, ¬later.Holds sampleMouse (.button 0) :=
  (close_leaves_nothing_held generated_sampleMouse (by decide) opened_sampleOpened heldMouse
    (show promptClose.present = true from rfl) (by decide +kernel) rfl).1 (.button 0) []
    heldReport _ (by decide +kernel) holds_heldReport

end LibaoaHid

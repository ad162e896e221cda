import LibaoaHid.Api.Closing

/-!
# The life of a contact

A contact is placed, moved, lifted and released. Its ID stays taken from the lift until a frame
that started after the lift has been delivered as a whole, and that frame has told the other side
about the lift. A frame that an uncertain packet ends releases nothing: the contact is announced
again in the next one.

## Main definitions

* `System.Lifts`: a call or a close lifts a contact.
* `IsFrame`, `FurtherFrame`, `DeliveredFrame`: the frames of a list of packets.
* `PendingLift`, `ReleasedLift`: what the packets since a lift are.

## Main results

* `TouchRun.Lifted.move`: what each move keeps of a lift.
* `contact_lifecycle`.
-/

namespace LibaoaHid

open Relation

/-! ### Contacts of a state -/

/-- A contact with the ID is in the phase. -/
def TouchState.HasContact (touch : TouchState) (contactId : UInt32) (phase : ContactPhase) : Prop :=
  ∃ contact ∈ touch.contacts, contact.phase = phase ∧ contact.sample.contactId = contactId

section Contacts

variable {f : TouchFields} {c : TouchConfig} {touch touch' : TouchState} {contactId : UInt32}

/-- An ID that is taken has one contact. -/
theorem TouchState.Fits.contact_unique (h : touch.Fits f) {first second : ContactState}
    (hfirst : first ∈ touch.contacts) (hsecond : second ∈ touch.contacts)
    (hfirstActive : first.isActive = true) (hsecondActive : second.isActive = true)
    (hid : first.sample.contactId = second.sample.contactId) : first = second := by
  obtain ⟨i, hi⟩ := List.mem_iff_getElem?.mp hfirst
  obtain ⟨j, hj⟩ := List.mem_iff_getElem?.mp hsecond
  cases h.distinct i j first second hi hj hfirstActive hsecondActive hid
  exact Option.some.inj (hi.symm.trans hj)

/-- No ID is down and up. -/
theorem TouchState.Fits.not_down_of_up (h : touch.Fits f) (hup : touch.HasContact contactId .up) :
    ¬touch.HasContact contactId .down := by
  obtain ⟨first, hfirst, hphase, hid⟩ := hup
  rintro ⟨second, hsecond, hdown, hid'⟩
  have heq := h.contact_unique hfirst hsecond (by simp [ContactState.isActive, hphase])
    (by simp [ContactState.isActive, hdown]) (hid.trans hid'.symm)
  rw [heq, hdown] at hphase
  cases hphase

/-- A call changes something between two frames only. -/
theorem CallStep.between {call : Call} {changed : Bool}
    (h : CallStep (.touch c) call (.touch touch) (.touch touch') changed) :
    touch' = touch ∨ touch.packetCursor = 0 ∧ touch'.packetCursor = 0 := by
  cases h with
  | keep => exact Or.inl rfl
  | lift _ _ _ _ _ hcursor | move _ _ _ _ _ hcursor | place _ _ _ _ _ _ hcursor =>
    exact Or.inr ⟨hcursor, rfl⟩
  | touchpadButton hcursor => exact Or.inr ⟨hcursor, hcursor⟩

/-- A call leaves the lifted contacts. -/
theorem CallStep.mem_of_up {call : Call} {changed : Bool}
    (h : CallStep (.touch c) call (.touch touch) (.touch touch') changed)
    {contact : ContactState} (hmem : contact ∈ touch.contacts) (hup : contact.phase = .up) :
    contact ∈ touch'.contacts := by
  cases h with
  | keep | touchpadButton => exact hmem
  | @lift _ _ _ x y _ slot old hslot hdown =>
    rcases mem_set_or_eq (liftedContact old x y) hslot hmem with hother | rfl
    · exact hother
    · rw [hup] at hdown
      cases hdown
  | @move _ _ contactId _ x y extra _ slot old hslot hdown =>
    rcases mem_set_or_eq { old with sample := touchSample contactId x y extra } hslot hmem with
      hother | rfl
    · exact hother
    · rw [hup] at hdown
      cases hdown
  | @place _ _ contactId _ x y extra slot old hslot hfree =>
    rcases mem_set_or_eq
      { phase := .down
        sample := touchSample contactId x y extra
        lifecycleTransitionPending := true } hslot hmem with hother | rfl
    · exact hother
    · rw [hup] at hfree
      cases hfree

/-- A call that lifts a contact is pending. -/
theorem CallStep.changed_of_up {call : Call} {changed : Bool}
    (h : CallStep (.touch c) call (.touch touch) (.touch touch') changed)
    (hnone : ∀ contact ∈ touch.contacts, contact.phase ≠ .up) :
    (∃ contact ∈ touch'.contacts, contact.phase = .up) → changed = true := by
  rintro ⟨contact, hmem, hup⟩
  cases h with
  | keep | touchpadButton => exact absurd hup (hnone contact hmem)
  | lift => rfl
  | @move _ _ contactId _ x y extra _ slot old hslot hdown =>
    rcases List.mem_or_eq_of_mem_set hmem with hmem | rfl
    · exact absurd hup (hnone contact hmem)
    · rw [hdown] at hup
      cases hup
  | place => rfl

end Contacts

/-! ### Frames -/

/-- The packets of one frame, as far as it got: its first packet and no other starts a frame. -/
def IsFrame (packets : List TouchPacket) : Prop :=
  ∃ start rest, packets = start :: rest ∧ start.first = true ∧ ∀ p ∈ rest, p.first = false

/-- A frame behind the lift of a contact: it carries the lift, unless a packet whose delivery is
not known has cut it short. -/
structure FurtherFrame (contactId : ℤ) (frame : List TouchPacket) : Prop where
  isFrame : IsFrame frame
  lifts : (∃ p ∈ frame, p.Lifts contactId) ∨
    ∃ last, frame.getLast? = some last ∧ last.result ≠ .ok ∧ last.remaining ≠ 0

/-- A frame that was delivered as a whole. -/
structure DeliveredFrame (frame : List TouchPacket) : Prop where
  isFrame : IsFrame frame
  ok : ∀ p ∈ frame, p.result = .ok
  whole : ∃ last, frame.getLast? = some last ∧ last.remaining = 0

/-- A frame in progress: its packets were delivered, and it has contacts left. -/
structure UnfinishedFrame (frame : List TouchPacket) : Prop where
  isFrame : IsFrame frame
  ok : ∀ p ∈ frame, p.result = .ok
  more : ∀ p ∈ frame, p.remaining ≠ 0

/-- The packets since the lift of a contact that is not released: whole frames behind the lift and
at most one in progress, none with the contact touching. -/
def PendingLift (contactId : ℤ) (since : List TouchPacket) : Prop :=
  ∃ (frames : List (List TouchPacket)) (current : List TouchPacket),
    since = frames.flatten ++ current ∧
    (∀ frame ∈ frames, FurtherFrame contactId frame) ∧
    (current = [] ∨ UnfinishedFrame current) ∧ ∀ p ∈ since, ¬p.Holds contactId

/-- The packets since the lift of a contact that was released: behind some frames there is one
that was delivered as a whole and carries the lift, and up to its end none has the contact
touching. -/
def ReleasedLift (contactId : ℤ) (since : List TouchPacket) : Prop :=
  ∃ (frames : List (List TouchPacket)) (frame rest : List TouchPacket),
    since = frames.flatten ++ frame ++ rest ∧
      (∀ frame ∈ frames, FurtherFrame contactId frame) ∧ DeliveredFrame frame ∧
    (∃ p ∈ frame, p.Lifts contactId) ∧ ∀ p ∈ frames.flatten ++ frame, ¬p.Holds contactId

theorem ReleasedLift.append {contactId : ℤ} {since : List TouchPacket}
    (h : ReleasedLift contactId since) (more : List TouchPacket) :
    ReleasedLift contactId (since ++ more) := by
  obtain ⟨frames, frame, rest, rfl, hfurther, hdelivered, hlifts, hholds⟩ := h
  exact ⟨frames, frame, rest ++ more, (List.append_assoc _ _ _), hfurther, hdelivered, hlifts,
    hholds⟩

/-- The packets that the frame of a state has delivered so far. -/
def TouchState.Begun (touch : TouchState) (current : List TouchPacket) : Prop :=
  if touch.packetCursor = 0 then current = [] else UnfinishedFrame current

section Begun

variable {f : TouchFields} {touch touch' : TouchState} {current : List TouchPacket}
  {result : Result}

theorem TouchState.Begun.congr (h : touch.Begun current)
    (hcursor : touch'.packetCursor = touch.packetCursor) : touch'.Begun current := by
  unfold Begun at h ⊢
  rwa [hcursor]

theorem TouchState.Begun.ok (h : touch.Begun current) : ∀ p ∈ current, p.result = .ok := by
  unfold Begun at h
  split_ifs at h
  · subst h
    simp
  · exact h.ok

theorem TouchState.Begun.cases (h : touch.Begun current) :
    current = [] ∨ UnfinishedFrame current := by
  unfold Begun at h
  split_ifs at h
  · exact Or.inl h
  · exact Or.inr h

/-- The next packet goes on with the frame. -/
theorem TouchState.Begun.isFrame_append (h : touch.Begun current) :
    IsFrame (current ++ [touch.packet f result]) := by
  unfold Begun at h
  split_ifs at h with hcursor
  · subst h
    refine ⟨_, [], rfl, ?_, by simp⟩
    simp [TouchState.packet, hcursor]
  · obtain ⟨start, rest, rfl, hstart, hrest⟩ := h.isFrame
    refine ⟨start, rest ++ [touch.packet f result], rfl, hstart, fun p hp => ?_⟩
    rcases List.mem_append.mp hp with hp | hp
    · exact hrest p hp
    · rw [List.mem_singleton.mp hp]
      simp [TouchState.packet, hcursor]

/-- The frame goes on behind the next packet. -/
theorem TouchState.Begun.advanced (h : touch.Begun current)
    (hmore : touch.packetCursor + (touch.packetContacts f).length < touch.activeCount)
    (hposition : touch'.packetCursor ≠ 0) : touch'.Begun (current ++ [touch.packet f .ok]) := by
  have hpacket : (touch.packet f .ok).remaining ≠ 0 := by
    simp only [TouchState.packet]
    omega
  have hremaining : ∀ p ∈ current, p.remaining ≠ 0 := by
    rcases h.cases with rfl | hunfinished
    · simp
    · exact hunfinished.more
  unfold Begun
  rw [if_neg hposition]
  refine ⟨h.isFrame_append, fun p hp => ?_, fun p hp => ?_⟩ <;>
    rcases List.mem_append.mp hp with hp | hp
  · exact h.ok p hp
  · rw [List.mem_singleton.mp hp]
    rfl
  · exact hremaining p hp
  · rw [List.mem_singleton.mp hp]
    exact hpacket

end Begun

/-! ### A lift on the machine -/

/-- A lifted contact on the machine: the packets since the lift, its slot, and the lift in the
frame in progress when its slot is behind the cursor. -/
structure TouchRun.Lifting (contactId : UInt32) (frames : List (List TouchPacket))
    (current : List TouchPacket) (r : TouchRun) : Prop where
  further : ∀ frame ∈ frames, FurtherFrame contactId.toNat frame
  begun : r.touch.Begun current
  up : ∀ p ∈ frames.flatten ++ current, ¬p.Holds contactId.toNat
  slot : ∃ k contact, (collectTouch r.touch)[k]? = some contact ∧ contact.phase = .up ∧
    contact.sample.contactId = contactId ∧
    (k < r.touch.packetCursor → ∃ p ∈ current, p.Lifts contactId.toNat)

/-- A lifted contact is up or was released, in view of the packets since its lift. -/
def TouchRun.Lifted (contactId : UInt32) (before : List TouchPacket) (r : TouchRun) : Prop :=
  ∃ since, r.view.packets = before ++ since ∧
    ((∃ frames current, since = frames.flatten ++ current ∧
        r.Lifting contactId frames current) ∨ ReleasedLift contactId.toNat since)

namespace TouchRun.Lifting

variable {c : TouchConfig} {allowed : Result → Prop} {contactId : UInt32} {r r' : TouchRun}
  {frames : List (List TouchPacket)} {current : List TouchPacket}

/-- The slot of the contact. -/
theorem hasContact (h : r.Lifting contactId frames current) :
    r.touch.HasContact contactId .up := by
  obtain ⟨k, contact, hk, hup, hid, -⟩ := h.slot
  exact ⟨contact, (mem_contacts_of_collectTouch hk).1, hup, hid⟩

/-- Between two frames only the contact counts. -/
theorem of_between (hcursor : r.touch.packetCursor = 0)
    (hcontact : r.touch.HasContact contactId .up)
    (hfurther : ∀ frame ∈ frames, FurtherFrame contactId.toNat frame)
    (hup : ∀ p ∈ frames.flatten, ¬p.Holds contactId.toNat) :
    r.Lifting contactId frames [] where
  further := hfurther
  begun := by unfold TouchState.Begun; rw [if_pos hcursor]
  up := by rwa [List.append_nil]
  slot := by
    obtain ⟨contact, hmem, hphase, hid⟩ := hcontact
    have hactive : contact.isActive = true := by simp [ContactState.isActive, hphase]
    obtain ⟨k, hk⟩ := List.mem_iff_getElem?.mp (mem_collectTouch.mpr ⟨hmem, hactive⟩)
    exact ⟨k, contact, hk, hphase, hid, fun hlt => by omega⟩

/-- The next packet does not have the contact touching. -/
theorem not_holds (h : r.Lifting contactId frames current) (hfits : r.touch.Fits c.fields)
    (result : Result) : ¬(r.touch.packet c.fields result).Holds contactId.toNat := by
  rw [holds_packet]
  rintro ⟨contact, hmem, hid, hdown⟩
  obtain ⟨k, -, -, hk⟩ := mem_packetContacts.mp hmem
  exact hfits.not_down_of_up h.hasContact
    ⟨contact, (mem_contacts_of_collectTouch hk).1, hdown, contactId_record_eq_toNat.mp hid⟩

/-- The frame carries the lift as soon as its packets reach the slot. -/
theorem lifts_append (result : Result) {k : ℕ} {contact : ContactState}
    (hk : (collectTouch r.touch)[k]? = some contact)
    (hup : contact.phase = .up) (hid : contact.sample.contactId = contactId)
    (hbefore : k < r.touch.packetCursor → ∃ p ∈ current, p.Lifts contactId.toNat)
    (hlt : k < r.touch.packetCursor + (r.touch.packetContacts c.fields).length) :
    ∃ p ∈ current ++ [r.touch.packet c.fields result], p.Lifts contactId.toNat := by
  by_cases hcursor : k < r.touch.packetCursor
  · obtain ⟨p, hp, hlifts⟩ := hbefore hcursor
    exact ⟨p, List.mem_append_left _ hp, hlifts⟩
  · refine ⟨_, List.mem_append_right _ (List.mem_singleton_self _), lifts_packet.mpr ?_⟩
    exact ⟨contact, mem_packetContacts.mpr ⟨k, not_lt.mp hcursor, hlt, hk⟩,
      contactId_record_eq_toNat.mpr hid, by simp [hup]⟩

theorem up_append (h : r.Lifting contactId frames current)
    (hfits : r.touch.Fits c.fields) (result : Result) :
    ∀ p ∈ frames.flatten ++ (current ++ [r.touch.packet c.fields result]),
      ¬p.Holds contactId.toNat := by
  intro p hp
  rw [← List.append_assoc] at hp
  rcases List.mem_append.mp hp with hp | hp
  · exact h.up p hp
  · rw [List.mem_singleton.mp hp]
    exact h.not_holds hfits result

end TouchRun.Lifting

namespace TouchRun.Lifted

variable {c : TouchConfig} {allowed : Result → Prop} {contactId : UInt32} {r r' : TouchRun}
  {before : List TouchPacket}

/-- A lift depends on the contacts and the packets. -/
theorem congr (h : r.Lifted contactId before) (htouch : r'.touch = r.touch)
    (hview : r'.view = r.view) : r'.Lifted contactId before := by
  obtain ⟨since, hpackets, ⟨frames, current, heq, hlifting⟩ | hreleased⟩ := h
  · refine ⟨since, hview ▸ hpackets, Or.inl ⟨frames, current, heq, hlifting.further, ?_,
      hlifting.up, ?_⟩⟩
    · rw [htouch]
      exact hlifting.begun
    · rw [htouch]
      exact hlifting.slot
  · exact ⟨since, hview ▸ hpackets, Or.inr hreleased⟩

/-- A report keeps a lift, or releases the contact with the last packet of a frame. -/
theorem report (h : r.Lifted contactId before) (hfits : r.touch.Fits c.fields)
    (hslots : 0 < c.fields.contactsPerReport.toNat) (hmove : TouchReport c allowed r r') :
    r'.Lifted contactId before := by
  have hlifted := h
  obtain ⟨since, hpackets, ⟨frames, current, rfl, hlifting⟩ | hreleased⟩ := h
  · obtain ⟨k, contact, hk, hup, hid, hbefore⟩ := hlifting.slot
    have hlifts (result : Result)
        (hlt : k < r.touch.packetCursor + (r.touch.packetContacts c.fields).length) :
        ∃ p ∈ current ++ [r.touch.packet c.fields result], p.Lifts contactId.toNat :=
      TouchRun.Lifting.lifts_append result hk hup hid hbefore hlt
    have hframe (result : Result) : IsFrame (current ++ [r.touch.packet c.fields result]) :=
      hlifting.begun.isFrame_append
    have hlast (result : Result) : (current ++ [r.touch.packet c.fields result]).getLast? =
        some (r.touch.packet c.fields result) := List.getLast?_concat
    have hlength := r.touch.length_packetContacts c.fields
    have hactive : k < r.touch.activeCount := by
      rw [← length_collectTouch]
      exact (List.getElem?_eq_some_iff.mp hk).1
    cases hmove with
    | keep => exact hlifted
    | send now =>
      refine ⟨_, hpackets, Or.inl ⟨frames, current, rfl, hlifting.further, ?_, hlifting.up, ?_⟩⟩
      · exact hlifting.begun.congr (r.touch.stamped_packetCursor c.fields now)
      · rw [collectTouch_congr (r.touch.stamped_contacts c.fields now),
          r.touch.stamped_packetCursor c.fields now]
        exact hlifting.slot
    | stall => exact hlifted.congr rfl rfl
    | advance hsent hallowed hmore =>
      refine ⟨frames.flatten ++ (current ++ [r.touch.packet c.fields .ok]), ?_, Or.inl
        ⟨frames, _, rfl, hlifting.further, ?_, hlifting.up_append hfits .ok, ?_⟩⟩
      · rw [TouchView.add_packets, hpackets]
        simp only [List.append_assoc]
      · refine hlifting.begun.advanced hmore ?_
        simp only [TouchState.advanced]
        omega
      · exact ⟨k, contact, hk, hup, hid, hlifts .ok⟩
    | finish hsent hallowed hdone =>
      refine ⟨frames.flatten ++ (current ++ [r.touch.packet c.fields .ok]), ?_, Or.inr
        ⟨frames, _, [], (List.append_nil _).symm, hlifting.further,
          ⟨hframe .ok, ?_, _, hlast .ok, ?_⟩,
          hlifts .ok (hactive.trans_le hdone), hlifting.up_append hfits .ok⟩⟩
      · rw [TouchView.add_packets, hpackets]
        simp only [List.append_assoc]
      · intro p hp
        rcases List.mem_append.mp hp with hp | hp
        · exact hlifting.begun.ok p hp
        · rw [List.mem_singleton.mp hp]
          rfl
      · simp only [TouchState.packet]
        omega
    | @abandon result hsent hallowed hok hstall =>
      refine ⟨frames.flatten ++ (current ++ [r.touch.packet c.fields result]), ?_, Or.inl
        ⟨frames ++ [current ++ [r.touch.packet c.fields result]], [], ?_, ?_⟩⟩
      · rw [TouchView.add_packets, hpackets]
        simp only [List.append_assoc]
      · simp
      · refine TouchRun.Lifting.of_between rfl ?_ (fun frame hmem => ?_) ?_
        · obtain ⟨contact, hmem, hphase, hid⟩ := hlifting.hasContact
          exact ⟨{ contact with lifecycleTransitionPending := false },
            List.mem_map.mpr ⟨contact, hmem, rfl⟩, hphase, hid⟩
        · rcases List.mem_append.mp hmem with hmem | hmem
          · exact hlifting.further frame hmem
          · rw [List.mem_singleton.mp hmem]
            refine ⟨hframe result, ?_⟩
            by_cases hlt : k < r.touch.packetCursor + (r.touch.packetContacts c.fields).length
            · exact Or.inl (hlifts result hlt)
            · refine Or.inr ⟨_, hlast result, hok, ?_⟩
              simp only [TouchState.packet]
              omega
        · have hnone := hlifting.up_append hfits result
          simpa using hnone
  · obtain ⟨more, heq⟩ := hmove.packets_prefix
    exact ⟨since ++ more, by rw [← heq, hpackets, List.append_assoc],
      Or.inr (hreleased.append more)⟩

/-- Between two frames a lift is kept with its contact. -/
theorem between (h : r.Lifted contactId before) (hcursor : r.touch.packetCursor = 0)
    (hcursor' : r'.touch.packetCursor = 0) (hview : r'.view = r.view)
    (hup : r.touch.HasContact contactId .up → r'.touch.HasContact contactId .up) :
    r'.Lifted contactId before := by
  obtain ⟨since, hpackets, ⟨frames, current, rfl, hlifting⟩ | hreleased⟩ := h
  · have hcurrent : current = [] := by
      have hbegun := hlifting.begun
      unfold TouchState.Begun at hbegun
      rwa [if_pos hcursor] at hbegun
    subst hcurrent
    refine ⟨_, hview ▸ hpackets, Or.inl ⟨frames, [], rfl, ?_⟩⟩
    exact TouchRun.Lifting.of_between hcursor' (hup hlifting.hasContact) hlifting.further
      (by simpa using hlifting.up)
  · exact ⟨since, hview ▸ hpackets, Or.inr hreleased⟩

/-- Every move keeps a lift, or releases the contact. -/
theorem move (h : r.Lifted contactId before) (hfits : r.touch.Fits c.fields)
    (hslots : 0 < c.fields.contactsPerReport.toNat) (hmove : TouchMove c allowed r r') :
    r'.Lifted contactId before := by
  cases hmove with
  | report hmove => exact h.report hfits hslots hmove
  | @call call touch changed hidle hstep =>
    rcases hstep.between with rfl | ⟨hcursor, hcursor'⟩
    · exact h.congr rfl rfl
    · refine h.between hcursor hcursor' rfl fun hup => ?_
      obtain ⟨contact, hmem, hphase, hid⟩ := hup
      exact ⟨contact, hstep.mem_of_up hmem hphase, hphase, hid⟩
  | neutral held hidle hcursor =>
    refine h.between hcursor rfl rfl fun hup => ?_
    obtain ⟨contact, hmem, hphase, hid⟩ := hup
    refine ⟨contact, List.mem_map.mpr ⟨contact, hmem, ?_⟩, hphase, hid⟩
    rw [if_neg (by simp [hphase])]

end TouchRun.Lifted

/-! ### Clean states -/

/-- A lifted contact is pending, as long as no packet had an uncertain delivery. -/
def TouchRun.Tidy (r : TouchRun) : Prop :=
  r.dirty = false → ∀ contact ∈ r.touch.contacts, contact.phase ≠ .up

theorem TouchRun.Tidy.move {c : TouchConfig} {r r' : TouchRun} (h : r.Tidy)
    (hmove : TouchMove c (fun result => result = .ok ∨ result = .errStall) r r') : r'.Tidy := by
  intro hclean contact hmem hup
  cases hmove with
  | report hmove =>
    cases hmove with
    | keep => exact h hclean contact hmem hup
    | send now =>
      rw [r.touch.stamped_contacts c.fields now] at hmem
      exact h hclean contact hmem hup
    | stall | advance => simp at hclean
    | finish =>
      obtain ⟨next, hnext, rfl⟩ := List.mem_map.mp hmem
      obtain ⟨before, hbefore, rfl⟩ := List.mem_map.mp hnext
      split_ifs at hup with hphase
      exact hphase hup
    | abandon hsent hallowed hok hstall => exact (hallowed.elim hok hstall).elim
  | call hidle hstep =>
    simp only [Bool.or_eq_false_iff] at hclean
    have hchanged := hstep.changed_of_up (h hclean.1) ⟨contact, hmem, hup⟩
    rw [hclean.2] at hchanged
    simp at hchanged
  | neutral held hidle hcursor =>
    simp only [Bool.or_eq_false_iff] at hclean
    obtain ⟨before, hbefore, rfl⟩ := List.mem_map.mp hmem
    have hactive : (neutralizeTouch r.touch).2 = true := by
      unfold neutralizeTouch
      simp only [Bool.or_eq_true]
      refine Or.inl (List.any_eq_true.mpr ⟨before, hbefore, ?_⟩)
      split_ifs at hup with hdown
      · simp [hdown]
      · simp [hup]
    rw [hclean.1] at hactive
    simp at hactive

/-! ### Touch Nodes -/

/-- A contact of a touch Node with the ID is in the phase. -/
def System.HasContact (s : System) (contactId : UInt32) (phase : ContactPhase) : Prop :=
  match s.node.state with
  | .touch touch => touch.HasContact contactId phase
  | _ => False

instance (touch : TouchState) (contactId : UInt32) (phase : ContactPhase) :
    Decidable (touch.HasContact contactId phase) := by
  unfold TouchState.HasContact
  infer_instance

instance (s : System) (contactId : UInt32) (phase : ContactPhase) :
    Decidable (s.HasContact contactId phase) := by
  unfold System.HasContact
  split <;> infer_instance

theorem System.hasContact_iff {s : System} {touch : TouchState} (h : s.node.state = .touch touch)
    {contactId : UInt32} {phase : ContactPhase} :
    s.HasContact contactId phase ↔ touch.HasContact contactId phase := by
  unfold HasContact
  rw [h]

/-- A Node with a contact is a touch Node. -/
theorem System.HasContact.exists_touch {s : System} {contactId : UInt32} {phase : ContactPhase}
    (h : s.HasContact contactId phase) :
    ∃ touch, s.node.state = .touch touch ∧ touch.HasContact contactId phase := by
  unfold HasContact at h
  cases hs : s.node.state with
  | touch touch =>
    rw [hs] at h
    exact ⟨touch, rfl, h⟩
  | _ =>
    rw [hs] at h
    exact h.elim

/-- A contact is lifted: a call does it, or a close makes the state neutral. -/
structure System.Lifts (contactId : UInt32) (s s' : System) : Prop where
  down : s.HasContact contactId .down
  up : s'.HasContact contactId .up
  step : (∃ c link, s' = (s.call c link).2) ∨
    s.inflight = none ∧ s.node.closed = false ∧ touchFrameInProgress s.node = false ∧
      s' = { s with node := makeNeutral s.node }

theorem System.Lifts.move {contactId : UInt32} {s s' : System} (h : System.Lifts contactId s s') :
    System.Move s s' := by
  rcases h.step with ⟨c, link, rfl⟩ | ⟨hidle, hopen, hframe, rfl⟩
  · exact .call c link
  · exact .close (.neutral hidle hopen hframe)

theorem System.Lifts.wire_eq {contactId : UInt32} {s s' : System}
    (h : System.Lifts contactId s s') : s'.wire = s.wire := by
  rcases h.step with ⟨c, link, rfl⟩ | ⟨-, -, -, rfl⟩ <;> rfl

/-- A contact is lifted between two frames. -/
theorem TouchMove.cursor_of_lift {c : TouchConfig} {allowed : Result → Prop} {r r' : TouchRun}
    (hmove : TouchMove c allowed r r') (hfits : r.touch.Fits c.fields) {contactId : UInt32}
    (hdown : r.touch.HasContact contactId .down) (hup : r'.touch.HasContact contactId .up) :
    r'.touch.packetCursor = 0 := by
  have hsame (h : r'.touch.contacts = r.touch.contacts) : r'.touch.packetCursor = 0 := by
    unfold TouchState.HasContact at hup
    rw [h] at hup
    exact absurd hdown (hfits.not_down_of_up hup)
  cases hmove with
  | report hmove =>
    cases hmove with
    | keep | stall => exact hsame rfl
    | send now => exact hsame (r.touch.stamped_contacts c.fields now)
    | advance => exact hsame rfl
    | finish | abandon => rfl
  | call hidle hstep =>
    rcases hstep.between with rfl | ⟨-, hcursor⟩
    · exact hsame rfl
    · exact hcursor
  | neutral => rfl

/-- **The life of a contact.** In every state of a touch Node the IDs in use are distinct and no
more than the declared maximum, and without an uncertain completion nothing lifted is left when
the Node is idle and clean. A lifted contact stays up until a frame that was delivered as a whole
carries its lift; so far no packet has it touching, and every frame carries the lift unless an
uncertain packet cut it short. -/
theorem contact_lifecycle {spec : Spec} (hspec : Generated spec) {c : TouchConfig}
    (hconfig : spec.config = .touch c) {hidId : ℕ} {opened : System}
    (hopened : System.opened spec hidId = some opened) {s : System}
    (hreach : ReflTransGen System.Move opened s) :
    (∃ touch, s.node.state = .touch touch ∧
      ((touch.contacts.filter (·.phase ≠ .none)).map (·.sample.contactId)).Nodup ∧
      (touch.contacts.filter (·.phase ≠ .none)).length ≤ c.fields.maximumContacts.toNat ∧
      ((∀ t ∈ s.wire, t.result = .ok ∨ t.result = .errStall) → s.inflight = none →
        s.node.dirty = false → ∀ contact ∈ touch.contacts, contact.phase ≠ .up)) ∧
    ∀ contactId lifted later, System.Lifts contactId s lifted →
      ReflTransGen System.Move lifted later →
      ∃ since, (touchView spec.layout later.wire).packets =
          (touchView spec.layout s.wire).packets ++ since ∧
        (later.HasContact contactId .up ∧ PendingLift contactId.toNat since ∨
          ReleasedLift contactId.toNat since) ∧
        (later.HasContact contactId .down → ReleasedLift contactId.toNat since) := by
  have hopenedFits := System.fits_opened hspec.sound hopened
  have hstart := System.shows_opened hspec.sound hconfig hopened
  obtain ⟨hfits, r, hshows, -⟩ := System.Showing.moves (P := fun _ => True)
    (fun _ _ _ _ _ => trivial) ⟨_, hstart, trivial⟩ hopenedFits hreach
    (System.Allows.always _ _)
  have hspecEq := (System.moves_spec_eq hreach hopenedFits).trans (System.eq_of_opened hopened).1
  have htouch := hshows.fits hfits
  constructor
  · refine ⟨r.touch, hshows.state, htouch.nodup_contactId, ?_, fun hresults hidle hclean => ?_⟩
    · rw [← collectTouch, length_collectTouch]
      exact htouch.count_le
    · obtain ⟨-, r', hshows', htidy⟩ := System.Showing.moves (P := TouchRun.Tidy)
        (fun _ _ _ h hmove => h.move hmove) ⟨_, hstart, fun _ contact hmem => by
          rw [List.eq_of_mem_replicate hmem]
          simp⟩ hopenedFits hreach
        (fun t ht => hresults t (List.mem_of_mem_drop ht))
      have hstate := hshows.state.symm.trans hshows'.state
      rw [NodeState.touch.inj hstate]
      exact htidy (hshows'.dirty.symm.trans hclean)
  · intro contactId lifted later hlifts hlater
    obtain ⟨r₁, hmove, hshows₁⟩ : ∃ r₁, TouchMove c (fun _ => True) r r₁ ∧ lifted.Shows c r₁ :=
      hshows.move hfits hlifts.move fun _ _ => trivial
    have hfits₁ := hlifts.move.fits hfits
    have hspec₁ := (System.moves_spec_eq (.single hlifts.move) hfits).trans hspecEq
    have hdown := (System.hasContact_iff hshows.state).mp hlifts.down
    have hup := (System.hasContact_iff hshows₁.state).mp hlifts.up
    have hview : r₁.view = r.view := by
      rw [← hshows.view, ← hshows₁.view, hspec₁, hspecEq, hlifts.wire_eq]
    have hlifted : r₁.Lifted contactId r.view.packets :=
      ⟨[], by rw [hview, List.append_nil], Or.inl ⟨[], [], rfl, .of_between
        (hmove.cursor_of_lift htouch hdown hup) hup (by simp) (by simp)⟩⟩
    have hslots := hspec.sound.accepted
    rw [hconfig] at hslots
    obtain ⟨hfits₂, r₂, hshows₂, since, hpackets, hsince⟩ :=
      System.Showing.moves (fun _ _ hfits h hmove => h.move hfits
        hslots.of_touch.contactsPerReport_pos hmove) ⟨r₁, hshows₁, hlifted⟩ hfits₁ hlater
        (System.Allows.always _ _)
    have hspec₂ := (System.moves_spec_eq hlater hfits₁).trans hspec₁
    rw [← hspecEq, hshows.view, hspecEq, ← hspec₂, hshows₂.view]
    refine ⟨since, hpackets, ?_, fun hdown₂ => ?_⟩
    · rcases hsince with ⟨frames, current, rfl, hlifting⟩ | hreleased
      · exact Or.inl ⟨(System.hasContact_iff hshows₂.state).mpr hlifting.hasContact, frames,
          current, rfl, hlifting.further, hlifting.begun.cases, hlifting.up⟩
      · exact Or.inr hreleased
    · rcases hsince with ⟨frames, current, rfl, hlifting⟩ | hreleased
      · exact absurd ((System.hasContact_iff hshows₂.state).mp hdown₂)
          ((hshows₂.fits hfits₂).not_down_of_up hlifting.hasContact)
      · exact hreleased

/-- A submit that libusb accepts, with a clear slot. -/
def clearSubmit : SubmitEnv where
  acquire := .ok (List.replicate 8 0)

/-- An accepted submit and its completion. -/
def sentReport (status : TransferStatus) : List Event :=
  [.submit clearSubmit, .complete status sampleTouchpad.layout.wireBytes]

/-- The sample touchpad with two contacts down, and both packets delivered. -/
def twoTouches : System :=
  openedTouchpad.run
    ([.call (.touch 1 1 10 10 none) .present, .call (.touch 2 1 20 20 none) .present] ++
      sentReport .completed ++ sentReport .completed)

/-- The second contact of the touchpad is lifted. -/
def liftedSecond : System := (twoTouches.call (.touch 2 0 20 20 none) .present).2

/-- The packet of the first contact is lost. It is sent again when the contact has moved. -/
def lostFirst : System :=
  liftedSecond.run (sentReport .timedOut ++ [.call (.touch 1 1 11 11 none) .present] ++
    sentReport .completed ++ sentReport .completed)

/-- The first packet of the frame of two contacts, the first of them at a position. -/
def firstPacket (result : Result) (x y : ℤ) : TouchPacket where
  result
  first := true
  announced := 2
  records := [{ contactId := 1, tip := 1, x, y }]
  unused := []
  remaining := 1
  scanTime := 0
  buttons := [0]

theorem lifts_liftedSecond : System.Lifts 2 twoTouches liftedSecond :=
  ⟨by decide +kernel, by decide +kernel, Or.inl ⟨_, _, rfl⟩⟩

theorem moves_twoTouches : ReflTransGen System.Move openedTouchpad twoTouches :=
  System.run_moves _ (System.fits_opened generated_sampleTouchpad.sound opened_openedTouchpad)

theorem moves_lostFirst : ReflTransGen System.Move liftedSecond lostFirst :=
  System.run_moves _ (lifts_liftedSecond.move.fits
    ((System.fits_opened generated_sampleTouchpad.sound opened_openedTouchpad).run _))

/-- A frame behind the lift that does not carry it: the packet in front of the lifted contact was
lost, and the next frame has started. -/
theorem contact_lifecycle_cutShort :
    ∃ s lifted later frame next, ReflTransGen System.Move openedTouchpad s ∧
      System.Lifts 2 s lifted ∧ ReflTransGen System.Move lifted later ∧
      (touchView sampleTouchpad.layout later.wire).packets =
        (touchView sampleTouchpad.layout s.wire).packets ++ (frame ++ [next]) ∧
      IsFrame frame ∧ next.first = true ∧ later.HasContact 2 .up ∧
      ¬∃ p ∈ frame, p.Lifts 2 := by
  refine ⟨twoTouches, liftedSecond, lostFirst, [firstPacket .errTimeout 10 10],
    firstPacket .ok 11 11, moves_twoTouches, lifts_liftedSecond, moves_lostFirst,
    by decide +kernel, ⟨_, [], rfl, rfl, by simp⟩, rfl, by decide +kernel, ?_⟩
  rintro ⟨p, hp, record, hrecord, hid, -⟩
  rw [List.mem_singleton.mp hp] at hrecord
  rw [List.mem_singleton.mp hrecord] at hid
  simp at hid

theorem contact_lifecycle_sampleTouchpad :
    ∃ since, (touchView sampleTouchpad.layout lostFirst.wire).packets =
        (touchView sampleTouchpad.layout twoTouches.wire).packets ++ since ∧
      (lostFirst.HasContact 2 .up ∧ PendingLift (2 : UInt32).toNat since ∨
        ReleasedLift (2 : UInt32).toNat since) ∧
      (lostFirst.HasContact 2 .down → ReleasedLift (2 : UInt32).toNat since) := by
  obtain ⟨c, hconfig⟩ := config_sampleTouchpad
  exact (contact_lifecycle generated_sampleTouchpad hconfig opened_openedTouchpad
    moves_twoTouches).2 2 liftedSecond lostFirst lifts_liftedSecond moves_lostFirst

end LibaoaHid

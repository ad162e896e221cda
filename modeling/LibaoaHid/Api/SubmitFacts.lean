import LibaoaHid.Api.NodeFits

/-!
# The outcomes of a submit

On a fitting Node a submit either sends the report of the profile state, with its Scan Time
stamped, or leaves the Node as it was: a rejected transfer is undone completely.

## Main definitions

* `NodeState.stamped`: a profile state with the Scan Time of a new frame.
* `Node.sent`: the Node with its report in flight.

## Main results

* `nodeSubmit_cases`: a submit pauses or sends.
* `Node.Fits.sent`: the invariant is kept.
-/

namespace LibaoaHid

/-! ### The Scan Time of a state -/

/-- The profile state that a submit serializes. -/
def NodeState.stamped (state : NodeState) (config : SpecConfig) (now : ℤ) : NodeState :=
  match state, config with
  | .touch s, .touch c =>
    if s.packetCursor = 0 ∧ c.fields.enableScanTime = 1 then
      .touch (stampScanTime s c.fields now)
    else state
  | _, _ => state

theorem updateScanTime_eq (node : Node) (now : ℤ) :
    updateScanTime node now = { node with state := node.state.stamped node.spec.config now } := by
  unfold updateScanTime NodeState.stamped
  split
  next touch fields hs hc =>
    rw [hs, hc]
    dsimp only
    split_ifs
    · rfl
    · rw [← hs]
  next h =>
    split
    next touch c hs hc => exact absurd hc (h touch c.fields hs)
    · rfl

/-- The rollback undoes the update of the Scan Time, and nothing else. -/
theorem rollbackScanTime_eq {before node : Node} (now : ℤ)
    (h : node.state = before.state.stamped before.spec.config now) :
    rollbackScanTime before node = { node with state := before.state } := by
  unfold NodeState.stamped at h
  unfold rollbackScanTime updatesScanTime
  cases hs : before.state <;> rw [hs] at h
  case touch previous =>
    cases hc : before.spec.config <;> rw [hc] at h
    case touch c =>
      dsimp only at h ⊢
      split_ifs at h with hstamp
      · rw [h]
        simp only [hstamp, beq_self_eq_true, Bool.and_self, if_true]
        congr 2
        unfold stampScanTime
        split <;> rfl
      · rw [h]
        dsimp only
        rw [if_neg (by simpa using hstamp), ← h]
    all_goals
      dsimp only at h ⊢
      rw [h]
      simp [← h]
  all_goals
    dsimp only at h ⊢
    simp [← h]

/-! ### The sent Node -/

/-- Recording the packet touches its two fields only. -/
theorem recordPacket_frame (node : Node) : ∃ count final, recordPacket node =
    { node with submittedTouchCount := count, submittedTouchFinalPacket := final } := by
  unfold recordPacket
  split
  · exact ⟨_, _, rfl⟩
  · exact ⟨node.submittedTouchCount, node.submittedTouchFinalPacket, rfl⟩

/-- The Node in front of its serializer. -/
def Node.acquired (node : Node) : Node :=
  { (consumeCompletion node "node.completion").2 with transferInflight := true }

/-- The Node whose report libusb has accepted. -/
def Node.sent (node : Node) (now : ℤ) : Node :=
  let serialized :=
    recordPacket (recordFragments node.spec.layout.fields (updateScanTime node.acquired now))
  { serialized with
    submittedNonNeutral := hasNonNeutralState serialized
    submittedReportLength := node.spec.layout.wireBytes
    submittedReportId := node.reportId }

/-- `has_non_neutral_state` reads the configuration and the state. -/
theorem hasNonNeutralState_congr {node node' : Node} (hspec : node'.spec = node.spec)
    (hstate : node'.state = node.state) : hasNonNeutralState node' = hasNonNeutralState node := by
  unfold hasNonNeutralState
  rw [hspec, hstate]

section Sent

variable (node : Node) (now : ℤ)

theorem Node.acquired_frame : ∃ status length id, node.acquired =
    { node with
      transferInflight := true
      completionResult := .ok
      completionNativeStatus := status
      completionReportLength := length
      completionReportId := id } := by
  unfold Node.acquired consumeCompletion
  dsimp only
  split <;> exact ⟨0, 0, 0, rfl⟩

theorem Node.sent_frame : ∃ status length id dx dy wheel pan count final, node.sent now =
    { node with
      state := node.state.stamped node.spec.config now
      transferInflight := true
      completionResult := .ok
      completionNativeStatus := status
      completionReportLength := length
      completionReportId := id
      submittedDx := dx
      submittedDy := dy
      submittedWheel := wheel
      submittedPan := pan
      submittedTouchCount := count
      submittedTouchFinalPacket := final
      submittedNonNeutral :=
        hasNonNeutralState { node with state := node.state.stamped node.spec.config now }
      submittedReportLength := node.spec.layout.wireBytes
      submittedReportId := node.reportId } := by
  obtain ⟨status, length, id, hacquired⟩ := node.acquired_frame
  unfold Node.sent
  rw [updateScanTime_eq, hacquired]
  obtain ⟨dx, dy, wheel, pan, hfragments⟩ := recordFragments_frame node.spec.layout.fields
    { node with
      state := node.state.stamped node.spec.config now
      transferInflight := true
      completionResult := .ok
      completionNativeStatus := status
      completionReportLength := length
      completionReportId := id }
  dsimp only
  rw [hfragments]
  obtain ⟨count, final, hpacket⟩ := recordPacket_frame
    { node with
      state := node.state.stamped node.spec.config now
      transferInflight := true
      completionResult := .ok
      completionNativeStatus := status
      completionReportLength := length
      completionReportId := id
      submittedDx := dx
      submittedDy := dy
      submittedWheel := wheel
      submittedPan := pan }
  dsimp only
  rw [hpacket]
  refine ⟨status, length, id, dx, dy, wheel, pan, count, final, ?_⟩
  congr 1

@[simp] theorem Node.sent_spec : (node.sent now).spec = node.spec := by
  obtain ⟨_, _, _, _, _, _, _, _, _, h⟩ := node.sent_frame now
  rw [h]

@[simp] theorem Node.sent_state :
    (node.sent now).state = node.state.stamped node.spec.config now := by
  obtain ⟨_, _, _, _, _, _, _, _, _, h⟩ := node.sent_frame now
  rw [h]

@[simp] theorem Node.sent_transferInflight : (node.sent now).transferInflight = true := by
  obtain ⟨_, _, _, _, _, _, _, _, _, h⟩ := node.sent_frame now
  rw [h]

@[simp] theorem Node.sent_dirty : (node.sent now).dirty = node.dirty := by
  obtain ⟨_, _, _, _, _, _, _, _, _, h⟩ := node.sent_frame now
  rw [h]

@[simp] theorem Node.sent_closed : (node.sent now).closed = node.closed := by
  obtain ⟨_, _, _, _, _, _, _, _, _, h⟩ := node.sent_frame now
  rw [h]

@[simp] theorem Node.sent_hidId : (node.sent now).hidId = node.hidId := by
  obtain ⟨_, _, _, _, _, _, _, _, _, h⟩ := node.sent_frame now
  rw [h]

@[simp] theorem Node.sent_emittedNonNeutral :
    (node.sent now).emittedNonNeutral = node.emittedNonNeutral := by
  obtain ⟨_, _, _, _, _, _, _, _, _, h⟩ := node.sent_frame now
  rw [h]

@[simp] theorem Node.sent_submittedNonNeutral : (node.sent now).submittedNonNeutral =
    hasNonNeutralState { node with state := node.state.stamped node.spec.config now } := by
  obtain ⟨_, _, _, _, _, _, _, _, _, h⟩ := node.sent_frame now
  rw [h]

end Sent

/-! ### Submitting -/

theorem reportable_stamped {config : SpecConfig} {state : NodeState}
    (h : state.Reportable config) (now : ℤ) : (state.stamped config now).Reportable config := by
  cases state <;> cases config <;> exact h

/-- The state of a dirty Node can be serialized, with the Scan Time of a new frame or without. -/
theorem Node.Fits.serializable_stamped {node : Node} (h : node.Fits) (hdirty : node.dirty = true)
    (now : ℤ) : node.spec.Serializable (node.state.stamped node.spec.config now) := by
  have hfits := fits_updateScanTime h.fitting now
  rw [updateScanTime_eq] at hfits
  exact serializable_of_fits h.sound hfits
    (reportable_stamped (h.reportable (Or.inl hdirty)) now)

/-- A rejected report is undone. -/
theorem same_of_rejected {node : Node} (hfits : node.Fits) (hidle : node.transferInflight = false)
    (hdirty : node.dirty = true) (now : ℤ) (result : Result) {nativeStatus : ℤ}
    (hnative : nativeStatus < 0) (field : String) :
    node.Same (consumeCompletion (rollbackScanTime node.acquired
      (transferComplete (node.sent now) result nativeStatus)) field).2 := by
  have hnot : mayHaveApplied result nativeStatus = false := by
    simp [mayHaveApplied, not_le.mpr hnative]
  have hcleared := hfits.cleared hidle
  obtain ⟨_, _, _, hacquired⟩ := node.acquired_frame
  have hcomplete : transferComplete (node.sent now) result nativeStatus =
      Node.publishCompletion { node.sent now with dirty := true } result nativeStatus := by
    simp [transferComplete, hnot]
  rw [hcomplete, rollbackScanTime_eq now (by
    simp only [Node.publishCompletion, Node.sent_state, hacquired])]
  refine Node.Same.trans ?_ (same_consumeCompletion _ _)
  constructor <;> simp only [Node.publishCompletion, hacquired, Node.sent_spec, Node.sent_hidId,
    Node.sent_emittedNonNeutral, Node.sent_closed, hidle, hdirty, hcleared.dx, hcleared.dy,
    hcleared.wheel, hcleared.pan, hcleared.nonNeutral]
  simp

/-- A submit behind an acquired slot that holds the report: it is sent unless libusb rejects it. -/
theorem submitInto_of_le {node : Node} (hfits : node.Fits) (hdirty : node.dirty = true)
    (env : SubmitEnv) {payload : List UInt8}
    (hbuffer : node.spec.layout.wireBytes ≤ payload.length) :
    (∃ report, env.rejection = none ∧ submitInto node.acquired env payload =
        { reply := .ok, node := node.sent env.now, accepted := some report } ∧
      node.spec.Carries (node.sent env.now).state report) ∨
    ∃ rejection, env.rejection = some rejection ∧
      (submitInto node.acquired env payload).accepted = none ∧
      (submitInto node.acquired env payload).node = (consumeCompletion
        (rollbackScanTime node.acquired
          (transferComplete (node.sent env.now) rejection.result rejection.nativeStatus))
        "node.submit").2 := by
  obtain ⟨_, _, _, hacquired⟩ := node.acquired_frame
  set stamped := updateScanTime node.acquired env.now with hstamped
  have hspec : stamped.spec = node.spec := by rw [hstamped, updateScanTime_eq, hacquired]
  have hstate : stamped.state = node.state.stamped node.spec.config env.now := by
    rw [hstamped, updateScanTime_eq, hacquired]
  have hid : node.acquired.reportId = node.reportId := by rw [hacquired]; rfl
  have hsound : stamped.spec.Sound := hspec ▸ hfits.sound
  have hser : stamped.spec.Serializable stamped.state := by
    rw [hspec, hstate]
    exact hfits.serializable_stamped hdirty env.now
  obtain ⟨written, hserialize, hcarries⟩ := serializeNode_eq stamped payload hsound hser
    (hspec ▸ hbuffer : stamped.spec.layout.wireBytes ≤ payload.length)
  have hacquiredSpec : node.acquired.spec = node.spec := by rw [hacquired]
  have hvalid : (if env.validateReports = true then validateSerializedReport node.acquired.spec
      (written.take stamped.spec.layout.wireBytes) else Reply.ok).result = .ok := by
    split_ifs
    · rw [hacquiredSpec, ← hspec, hcarries.validate hsound hser]
      rfl
    · rfl
  have hsent : { recordPacket (recordFragments stamped.spec.layout.fields stamped) with
      submittedNonNeutral := hasNonNeutralState
        (recordPacket (recordFragments stamped.spec.layout.fields stamped))
      submittedReportLength := stamped.spec.layout.wireBytes
      submittedReportId := node.acquired.reportId } = node.sent env.now := by
    rw [Node.sent, hid, hspec, hstamped]
  unfold submitInto
  rw [← hstamped]
  dsimp only
  simp only [hserialize, hvalid, Reply.ok_result, ne_eq, not_true_eq_false, if_false]
  cases hrejection : env.rejection with
  | none =>
    refine Or.inl ⟨written.take stamped.spec.layout.wireBytes, rfl, ?_, ?_⟩
    · simp only [hsent]
    · rw [Node.sent_state, ← hstate, ← hspec]
      exact hcarries
  | some rejection =>
    refine Or.inr ⟨rejection, rfl, ?_⟩
    simp only [hsent]
    split_ifs <;> exact ⟨rfl, rfl⟩

/-- The outcomes of a submit behind its acquired slot. -/
theorem submitInto_cases {node : Node} (hfits : node.Fits) (hidle : node.transferInflight = false)
    (hdirty : node.dirty = true) (env : SubmitEnv) (payload : List UInt8) :
    ((submitInto node.acquired env payload).accepted = none ∧
      node.Same (submitInto node.acquired env payload).node) ∨
    ∃ report, submitInto node.acquired env payload =
        { reply := .ok, node := node.sent env.now, accepted := some report } ∧
      node.spec.Carries (node.sent env.now).state report := by
  by_cases hbuffer : node.spec.layout.wireBytes ≤ payload.length
  · rcases submitInto_of_le hfits hdirty env hbuffer with
      ⟨report, -, heq, hcarries⟩ | ⟨rejection, -, hnone, hnode⟩
    · exact Or.inr ⟨report, heq, hcarries⟩
    · rw [hnode]
      exact Or.inl ⟨hnone, same_of_rejected hfits hidle hdirty env.now rejection.result
        rejection.negative "node.submit"⟩
  · obtain ⟨_, _, _, hacquired⟩ := node.acquired_frame
    set stamped := updateScanTime node.acquired env.now with hstamped
    have hspec : stamped.spec = node.spec := by rw [hstamped, updateScanTime_eq, hacquired]
    obtain ⟨hreply, hnode, -⟩ := serializeNode_of_length_lt stamped payload
      (by rw [hspec]; omega)
    unfold submitInto
    rw [← hstamped]
    dsimp only
    rw [if_pos (by simp [hreply]), hnode, rollbackScanTime_eq env.now (by
      rw [hstamped, updateScanTime_eq, hacquired]), hstamped, updateScanTime_eq, hacquired]
    refine Or.inl ⟨rfl, ?_⟩
    constructor <;> first | rfl | exact hidle.symm | simp [hidle]

/-- **The outcomes of a submit.** Nothing is sent and the Node is the same, or the report of its
profile state is in flight. -/
theorem nodeSubmit_cases {node : Node} (hfits : node.Fits) (env : SubmitEnv) :
    ((nodeSubmit node env).accepted = none ∧ node.Same (nodeSubmit node env).node) ∨
    ∃ report, nodeSubmit node env =
        { reply := .ok, node := node.sent env.now, accepted := some report } ∧
      node.Callable ∧ node.dirty = true ∧
      node.spec.Carries (node.sent env.now).state report := by
  have hconsume := same_consumeCompletion node "node.completion"
  unfold nodeSubmit
  split
  · exact Or.inl ⟨rfl, Node.Same.refl node⟩
  next hopen =>
  split
  · exact Or.inl ⟨rfl, Node.Same.refl node⟩
  split
  · exact Or.inl ⟨rfl, Node.Same.refl node⟩
  split
  · exact Or.inl ⟨rfl, Node.Same.refl node⟩
  next hidle =>
  dsimp only
  split
  · exact Or.inl ⟨rfl, hconsume⟩
  split
  · exact Or.inl ⟨rfl, hconsume⟩
  next hdirty =>
  split
  · exact Or.inl ⟨rfl, hconsume⟩
  next payload hacquire =>
  have hdirty : node.dirty = true := by simpa using hdirty
  rcases submitInto_cases hfits (by simpa using hidle) hdirty env payload with
    ⟨haccepted, hsame⟩ | ⟨report, heq, hcarries⟩
  · exact Or.inl ⟨haccepted, hsame⟩
  · exact Or.inr ⟨report, heq, ⟨by simpa using hopen, by simpa using hidle⟩, hdirty, hcarries⟩

/-! ### The packet in flight -/

/-- The packet of a touch report: the contacts that it carries, and whether it is the last. -/
theorem Node.sent_packet {node : Node} {now : ℤ} {c : TouchConfig} {touch : TouchState}
    (hconfig : node.spec.config = .touch c)
    (hstate : node.state.stamped node.spec.config now = .touch touch) :
    (node.sent now).submittedTouchCount =
        min c.fields.contactsPerReport.toNat (touch.activeCount - touch.packetCursor) ∧
      (node.sent now).submittedTouchFinalPacket = decide (touch.activeCount ≤ touch.packetCursor +
        min c.fields.contactsPerReport.toNat (touch.activeCount - touch.packetCursor)) := by
  obtain ⟨status, length, id, hacquired⟩ := node.acquired_frame
  obtain ⟨dx, dy, wheel, pan, hfragments⟩ := recordFragments_frame node.spec.layout.fields
    (updateScanTime node.acquired now)
  have hspec : (updateScanTime node.acquired now).spec = node.spec := by
    rw [updateScanTime_eq, hacquired]
  have htouch : (updateScanTime node.acquired now).state = .touch touch := by
    rw [updateScanTime_eq, hacquired, ← hstate]
  have hcount : (if touch.activeCount > touch.packetCursor then
      touch.activeCount - touch.packetCursor else 0) = touch.activeCount - touch.packetCursor := by
    split_ifs <;> omega
  unfold Node.sent
  dsimp only
  rw [hfragments]
  unfold recordPacket
  simp only [hspec, htouch, hconfig, length_collectTouch, hcount]
  constructor <;> trivial

theorem Node.Fits.sent {node : Node} (h : node.Fits) (hdirty : node.dirty = true) (now : ℤ) :
    (node.sent now).Fits := by
  have hfits := fits_updateScanTime h.fitting now
  rw [updateScanTime_eq] at hfits
  have hreport := reportable_stamped (h.reportable (Or.inl hdirty)) now
  refine
    { sound := by rw [Node.sent_spec]; exact h.sound
      state := by rw [Node.sent_spec, Node.sent_state]; exact hfits
      reportable := fun _ => by rw [Node.sent_spec, Node.sent_state]; exact hreport
      packet := fun _ touch hs hfinal => ?_
      cleared := fun hidle => by simp at hidle
      frame := fun touch hs hcursor => by
        rw [Node.sent_dirty]
        exact hdirty }
  rw [Node.sent_state] at hs
  have hconfig : ∃ c, node.spec.config = .touch c := by
    change NodeState.Fits node.spec.config (node.state.stamped node.spec.config now) at hfits
    rw [hs] at hfits
    cases hc : node.spec.config <;> rw [hc] at hfits <;> first | exact hfits.elim | exact ⟨_, rfl⟩
  obtain ⟨c, hconfig⟩ := hconfig
  obtain ⟨hcount, hlast⟩ := Node.sent_packet hconfig hs
  rw [hlast] at hfinal
  rw [hcount]
  simpa using hfinal

end LibaoaHid

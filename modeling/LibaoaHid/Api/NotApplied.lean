import LibaoaHid.Api.Lifecycle
import LibaoaHid.Api.Reachable

/-!
# Reports that were not applied

A report is not applied when the pool or libusb refuses it, or when it completes with a STALL. A
refusal is undone completely. A STALL leaves what the submit did to the Scan Time of a touch Node in
place: the first frame of an epoch that the target refuses starts the epoch all the same.

## Main definitions

* `Node.KeepsScanTime`: a submit leaves the Scan Time.
* `Node.Keeps`: a Node behind a report that was not applied.
* `ScanRun`: a run, with whether a frame was applied since the last inactivity.

## Main results

* `refused_keeps`, `stalled_keeps_iff`: the two outcomes.
* `ScanRun.move`: a run that a move cannot continue has a STALL that moves the Scan Time.
* `notApplied_keeps_iff`.
-/

namespace LibaoaHid

open Relation

/-! ### The Scan Time -/

/-- A submit leaves the Scan Time: it does not start a frame with Scan Time, or the epoch is active
and the Scan Time is the same as before. -/
def Node.KeepsScanTime (node : Node) (now : ℤ) : Prop :=
  match node.state, node.spec.config with
  | .touch touch, .touch c =>
    touch.packetCursor = 0 → c.fields.enableScanTime = 1 →
      touch.scanEpochActive = true ∧ (stampScanTime touch c.fields now).scanTime = touch.scanTime
  | _, _ => True

/-- The stamp changes nothing when it finds the epoch active and computes the same time. -/
theorem stampScanTime_eq (touch : TouchState) (f : TouchFields) (now : ℤ) :
    stampScanTime touch f now = touch ↔
      touch.scanEpochActive = true ∧ (stampScanTime touch f now).scanTime = touch.scanTime := by
  obtain ⟨contacts, buttons, transitions, scanTime, cursor, epoch, active⟩ := touch
  rw [stampScanTime]
  cases active <;> simp

theorem Node.keepsScanTime_iff (node : Node) (now : ℤ) :
    node.KeepsScanTime now ↔ node.state.stamped node.spec.config now = node.state := by
  rw [KeepsScanTime, NodeState.stamped.eq_def]
  cases hstate : node.state with
  | touch touch =>
    cases hconfig : node.spec.config with
    | touch c =>
      dsimp only
      split_ifs with hstamp
      · rw [NodeState.touch.injEq, stampScanTime_eq]
        exact ⟨fun h => h hstamp.1 hstamp.2, fun h _ _ => h⟩
      · exact ⟨fun _ => rfl, fun _ hcursor henabled => absurd ⟨hcursor, henabled⟩ hstamp⟩
    | _ => exact ⟨fun _ => rfl, fun _ => trivial⟩
  | _ => exact ⟨fun _ => rfl, fun _ => trivial⟩

instance (node : Node) (now : ℤ) : Decidable (node.KeepsScanTime now) :=
  decidable_of_iff _ (node.keepsScanTime_iff now).symm

/-! ### One report -/

/-- **A Node behind a report that was not applied.** Its profile state, whether it is dirty and
whether the target may hold something are the same, and what it sends next is the same report: at
one reading of the clock byte by byte, at two readings in every field but the Scan Time. -/
structure Node.Keeps (before after : Node) : Prop where
  state : after.state = before.state
  dirty : after.dirty = before.dirty
  emittedNonNeutral : after.emittedNonNeutral = before.emittedNonNeutral
  resends : ∀ (env env' : SubmitEnv) (report report' : List UInt8),
    (nodeSubmit before env).accepted = some report →
    (nodeSubmit (consumeCompletion after "node.completion").2 env').accepted = some report' →
    (env'.now = env.now → report' = report) ∧
      ∀ field ∈ before.spec.layout.fields, field.semantic ≠ .scanTime →
        fieldReading report' field = fieldReading report field

section Submit

variable {node after : Node}

/-- The value of a field other than the Scan Time does not depend on the clock. -/
theorem selectedValue_stamped (config : SpecConfig) (state : NodeState) (now : ℤ)
    {field : FieldLayout} (hfield : field.semantic ≠ .scanTime) :
    selectedValue config (state.stamped config now) field = selectedValue config state field := by
  rcases state with _ | _ | _ | _ | touch | _ | _ | _
  case touch =>
    cases config with
    | touch c =>
      obtain ⟨_, _, _, hframe⟩ := touch.stamped_frame c.fields now
      rw [TouchState.stamped_eq, hframe, selectedValue, selectedValue]
      unfold fieldValue
      cases hsemantic : field.semantic with
      | scanTime => exact absurd hsemantic hfield
      | _ => rfl
    | _ => rfl
  all_goals rfl

/-- An accepted report carries the stamped state. -/
theorem carries_of_accepted (hfits : node.Fits) {env : SubmitEnv} {report : List UInt8}
    (h : (nodeSubmit node env).accepted = some report) :
    node.spec.Carries (node.state.stamped node.spec.config env.now) report ∧
      node.spec.Serializable (node.state.stamped node.spec.config env.now) := by
  rcases nodeSubmit_cases hfits env with ⟨hnone, -⟩ | ⟨report', heq, -, hdirty, hcarries⟩
  · rw [hnone] at h
    cases h
  · rw [heq] at h
    cases h
    rw [Node.sent_state] at hcarries
    exact ⟨hcarries, hfits.serializable_stamped hdirty env.now⟩

/-- A Node that is the same keeps everything. -/
theorem Node.Same.keeps (h : node.Same after) (hfits : node.Fits) : node.Keeps after := by
  refine ⟨h.state, h.dirty, h.emittedNonNeutral, fun env env' report report' hreport hreport' => ?_⟩
  have hsame := h.trans (same_consumeCompletion after "node.completion")
  obtain ⟨hcarries, hser⟩ := carries_of_accepted hfits hreport
  obtain ⟨hcarries', hser'⟩ := carries_of_accepted (hsame.fits hfits) hreport'
  rw [hsame.spec, hsame.state] at hcarries' hser'
  refine ⟨fun hnow => ?_, fun field hmem hfield => ?_⟩
  · rw [hnow] at hcarries'
    exact hcarries'.unique hcarries hfits.sound
  · rw [hcarries'.reading hfits.sound hser' hmem, hcarries.reading hfits.sound hser hmem,
      selectedValue_stamped _ _ _ hfield, selectedValue_stamped _ _ _ hfield]

/-- **A refusal is undone**, whatever refuses the report. -/
theorem refused_keeps (hfits : node.Fits) {env : SubmitEnv}
    (h : (nodeSubmit node env).accepted = none) : node.Keeps (nodeSubmit node env).node := by
  rcases nodeSubmit_cases hfits env with ⟨-, hsame⟩ | ⟨report, heq, -, -, -⟩
  · exact hsame.keeps hfits
  · rw [heq] at h
    cases h

/-- A STALL leaves the stamped state. -/
theorem state_stalled (now : ℤ) (nativeStatus : ℤ) :
    (transferComplete (node.sent now) .errStall nativeStatus).state =
      node.state.stamped node.spec.config now := by
  rw [(transferComplete_stall _ _).1, Node.sent_state]

/-- A STALL whose submit left the Scan Time. -/
theorem same_of_stalled (hfits : node.Fits) (hidle : node.transferInflight = false)
    (hdirty : node.dirty = true) {now : ℤ} (hkeeps : node.KeepsScanTime now) (nativeStatus : ℤ) :
    node.Same (transferComplete (node.sent now) .errStall nativeStatus) := by
  have hnot : mayHaveApplied .errStall nativeStatus = false := by
    simp [mayHaveApplied]
  have hcleared := hfits.cleared hidle
  have hstate := (node.keepsScanTime_iff now).mp hkeeps
  have hcomplete : transferComplete (node.sent now) .errStall nativeStatus =
      Node.publishCompletion { node.sent now with dirty := true } .errStall nativeStatus := by
    simp [transferComplete, hnot]
  rw [hcomplete]
  constructor <;> simp only [Node.publishCompletion, Node.sent_spec, Node.sent_hidId,
    Node.sent_emittedNonNeutral, Node.sent_closed, Node.sent_state, hstate, hidle, hdirty,
    hcleared.dx, hcleared.dy, hcleared.wheel, hcleared.pan, hcleared.nonNeutral]
  simp

/-- **A STALL** keeps everything exactly when its submit left the Scan Time. -/
theorem stalled_keeps_iff (hfits : node.Fits) {env : SubmitEnv} {report : List UInt8}
    (h : (nodeSubmit node env).accepted = some report) (nativeStatus : ℤ) :
    node.Keeps (transferComplete (nodeSubmit node env).node .errStall nativeStatus) ↔
      node.KeepsScanTime env.now := by
  rcases nodeSubmit_cases hfits env with ⟨hnone, -⟩ | ⟨report', heq, hcallable, hdirty, -⟩
  · rw [hnone] at h
    cases h
  · rw [heq]
    constructor
    · intro hkeeps
      rw [node.keepsScanTime_iff, ← state_stalled env.now nativeStatus]
      exact hkeeps.state
    · intro hkeeps
      exact (same_of_stalled hfits hcallable.idle hdirty hkeeps nativeStatus).keeps hfits

end Submit

/-! ### Runs -/

/-- No contact is down and no button is pressed. -/
def TouchState.isInactive (touch : TouchState) : Bool :=
  !(touch.contacts.any (·.phase == .down) || touch.buttons.any (· != 0))

/-- Whether the next report may belong to the first frame after inactivity, behind a completion:
so it was before and the report was not applied or does not end its frame, or the report ends a
frame with which inactivity begins. -/
def Node.freshAfter (node : Node) (result : Result) (fresh : Bool) : Bool :=
  match node.state with
  | .touch touch =>
    if result = .errStall then fresh
    else if result = .ok then
      if node.submittedTouchFinalPacket then touch.isInactive else fresh
    else false
  | _ => fresh

/-- **A run** in which every STALL finds the Scan Time as it was before its submit. The second index
says whether the next report belongs to the first frame after inactivity, the third whether the
submit of the report in flight left the Scan Time. -/
inductive ScanRun (spec : Spec) : System → Bool → Prop → Prop
  | opened {hidId : ℕ} {s : System} (h : System.opened spec hidId = some s) :
      ScanRun spec s true True
  | other {s s' : System} {fresh : Bool} {kept : Prop} (h : ScanRun spec s fresh kept)
      (hmove : System.Move s s') (hwire : s'.wire = s.wire)
      (hinflight : s'.inflight = s.inflight) : ScanRun spec s' fresh kept
  | send {s : System} {fresh : Bool} {kept : Prop} {now : ℤ} {report : List UInt8}
      (h : ScanRun spec s fresh kept) (hcallable : s.node.Callable)
      (hdirty : s.node.dirty = true) (hidle : s.inflight = none)
      (hcarries : s.node.spec.Carries (s.node.sent now).state report) :
      ScanRun spec { s with node := s.node.sent now, inflight := some report } fresh
        (s.node.KeepsScanTime now)
  | finish {s : System} {fresh : Bool} {kept : Prop} {report : List UInt8} {result : Result}
      {nativeStatus : ℤ} (h : ScanRun spec s fresh kept) (hinflight : s.inflight = some report)
      (hnative : 0 ≤ nativeStatus) (hkept : result = .errStall → kept) :
      ScanRun spec
        { node := transferComplete s.node result nativeStatus
          wire := s.wire ++ [⟨report, result⟩]
          inflight := none }
        (s.node.freshAfter result fresh) kept

/-- **Every move continues a run**, but a STALL whose submit moved the Scan Time. -/
theorem ScanRun.move {spec : Spec} {s s' : System} {fresh : Bool} {kept : Prop}
    (h : ScanRun spec s fresh kept) (hmove : System.Move s s') :
    (∃ fresh' kept', ScanRun spec s' fresh' kept') ∨
      ¬kept ∧ ∃ report, s'.wire = s.wire ++ [⟨report, .errStall⟩] := by
  cases hmove with
  | call c link => exact .inl ⟨_, _, h.other (.call c link) rfl rfl⟩
  | close hclose =>
    cases hclose with
    | report hreport =>
      cases hreport with
      | pause hsame => exact .inl ⟨_, _, h.other (.close (.report (.pause hsame))) rfl rfl⟩
      | send hcallable hdirty hidle hcarries =>
        exact .inl ⟨_, _, h.send hcallable hdirty hidle hcarries⟩
      | @finish report result nativeStatus hinflight hnative =>
        by_cases hkept : result = .errStall → kept
        · exact .inl ⟨_, _, h.finish hinflight hnative hkept⟩
        · obtain ⟨hstall, hmoved⟩ := Classical.not_imp.mp hkept
          exact .inr ⟨hmoved, report, by rw [hstall]⟩
    | neutral hidle hopen hframe =>
      exact .inl ⟨_, _, h.other (.close (.neutral hidle hopen hframe)) rfl rfl⟩
    | release hidle => exact .inl ⟨_, _, h.other (.close (.release hidle)) rfl rfl⟩

/-- A call leaves the Scan Time and the place in the frame. -/
theorem CallStep.scan_eq {c : TouchConfig} {call' : Call} {touch touch' : TouchState}
    {changed : Bool} (h : CallStep (.touch c) call' (.touch touch) (.touch touch') changed) :
    touch'.packetCursor = touch.packetCursor ∧ touch'.scanTime = touch.scanTime ∧
      touch'.scanEpochActive = touch.scanEpochActive := by
  cases h with
  | keep => exact ⟨rfl, rfl, rfl⟩
  | lift _ _ _ _ _ hcursor | move _ _ _ _ _ hcursor | place _ _ _ _ _ _ hcursor =>
    exact ⟨hcursor.symm, rfl, rfl⟩
  | touchpadButton hcursor => exact ⟨rfl, rfl, rfl⟩

/-- **The Scan Time of the first frame after inactivity.** Its epoch is not active before the
frame, and the Scan Time is zero during the frame. -/
structure System.FirstFrame (s : System) (touch : TouchState) (kept : Prop) : Prop where
  idle : s.inflight = none → touch.packetCursor = 0 → touch.scanEpochActive = false
  time : s.inflight.isSome ∨ touch.packetCursor ≠ 0 → touch.scanTime = 0
  moved : s.inflight.isSome → touch.packetCursor = 0 → ¬kept
  goesOn : s.inflight.isSome → s.node.submittedTouchFinalPacket = false →
    0 < s.node.submittedTouchCount

section FirstFrame

variable {spec : Spec} {c : TouchConfig} {s s' : System} {touch : TouchState} {kept : Prop}
  {fresh : Bool}

theorem ScanRun.fits (hsound : spec.Sound) (h : ScanRun spec s fresh kept) :
    s.Fits ∧ s.node.spec = spec := by
  have hstep {s s' : System} (h : s.Fits ∧ s.node.spec = spec) (hmove : System.Move s s') :
      s'.Fits ∧ s'.node.spec = spec :=
    ⟨hmove.fits h.1, (System.moves_spec_eq (ReflTransGen.single hmove) h.1).trans h.2⟩
  induction h with
  | opened h =>
    refine ⟨System.fits_opened hsound h, ?_⟩
    obtain ⟨node, hnode, rfl⟩ := Option.map_eq_some_iff.mp h
    obtain ⟨state, -, rfl⟩ := Option.map_eq_some_iff.mp hnode
    rfl
  | other _ hmove _ _ ih => exact hstep ih hmove
  | send _ hcallable hdirty hidle hcarries ih =>
    exact hstep ih (.close (.report (.send hcallable hdirty hidle hcarries)))
  | finish _ hinflight hnative _ ih =>
    exact hstep ih (.close (.report (.finish hinflight hnative)))

/-- What the Scan Time, the place in the frame and the packet in flight say is all there is. -/
theorem System.FirstFrame.congr (h : s.FirstFrame touch kept) {touch' : TouchState}
    (hinflight : s'.inflight = s.inflight) (hcursor : touch'.packetCursor = touch.packetCursor)
    (htime : touch'.scanTime = touch.scanTime)
    (hactive : touch'.scanEpochActive = touch.scanEpochActive)
    (hpacket : s.inflight.isSome → s'.node.submittedTouchCount = s.node.submittedTouchCount ∧
      s'.node.submittedTouchFinalPacket = s.node.submittedTouchFinalPacket) :
    s'.FirstFrame touch' kept := by
  refine ⟨?_, ?_, ?_, fun hsome hfinal => ?_⟩
  · rw [hinflight, hcursor, hactive]
    exact h.idle
  · rw [hinflight, hcursor, htime]
    exact h.time
  · rw [hinflight, hcursor]
    exact h.moved
  · rw [hinflight] at hsome
    obtain ⟨hcount, hlast⟩ := hpacket hsome
    rw [hcount]
    exact h.goesOn hsome (hlast ▸ hfinal)

/-- A move that is no report leaves the Scan Time. -/
theorem System.FirstFrame.other (hfits : s.Fits) (hconfig : s.node.spec.config = .touch c)
    (hstate : s.node.state = .touch touch) (h : s.FirstFrame touch kept)
    (hmove : System.Move s s') (hwire : s'.wire = s.wire) (hinflight : s'.inflight = s.inflight)
    {touch' : TouchState} (hstate' : s'.node.state = .touch touch') :
    s'.FirstFrame touch' kept := by
  have hresting (hidle : s.inflight = none) (hsome : s.inflight.isSome) :
      s'.node.submittedTouchCount = s.node.submittedTouchCount ∧
        s'.node.submittedTouchFinalPacket = s.node.submittedTouchFinalPacket := by
    rw [hidle] at hsome
    cases hsome
  cases hmove with
  | call call link =>
    rcases call.perform_cases hfits.node.fitting link with
      ⟨reply, -, heq⟩ | ⟨state, changed, hcallable, hstep, heq⟩
    · rw [System.call, heq] at hstate' ⊢
      have hstate' : s.node.state = .touch touch' := hstate'
      rw [hstate] at hstate'
      cases hstate'
      exact h
    · have hbusy := hfits.inflight
      rw [hcallable.idle] at hbusy
      have hidle : s.inflight = none := Option.isNone_iff_eq_none.mp (by simpa using hbusy.symm)
      rw [System.call, heq] at hstate'
      have hstate' : state = .touch touch' := hstate'
      rw [hconfig, hstate, hstate'] at hstep
      obtain ⟨hcursor, htime, hactive⟩ := hstep.scan_eq
      exact h.congr hinflight hcursor htime hactive (hresting hidle)
  | close hclose =>
    cases hclose with
    | report hreport =>
      cases hreport with
      | pause hpause =>
        have hsame : s.node.state = .touch touch' := hpause.state ▸ hstate'
        rw [hstate] at hsame
        cases hsame
        exact h.congr rfl rfl rfl rfl fun hsome => hpause.packet (hfits.inflight.trans hsome)
      | send _ _ hidle _ =>
        rw [hidle] at hinflight
        cases hinflight
      | finish _ _ => exact absurd hwire (by simp)
    | neutral hidle hopen hframe =>
      have hcursor : touch.packetCursor = 0 := by
        rw [touchFrameInProgress, hstate] at hframe
        simpa using hframe
      have hneutral : (makeNeutral s.node).state = .touch touch' := hstate'
      rw [makeNeutral, neutralizeState, hstate] at hneutral
      cases hneutral
      exact h.congr rfl hcursor.symm rfl rfl (hresting hidle)
    | release hidle =>
      have hsame : s.node.state = .touch touch' := hstate'
      rw [hstate] at hsame
      cases hsame
      exact h.congr rfl rfl rfl rfl (hresting hidle)

/-- The submit of a packet of the first frame. -/
theorem System.FirstFrame.send (hfits : s.Fits) (hconfig : s.node.spec.config = .touch c)
    (henabled : c.fields.enableScanTime = 1) (hstate : s.node.state = .touch touch)
    (h : s.FirstFrame touch kept) (hidle : s.inflight = none) (now : ℤ) {report : List UInt8}
    {touch' : TouchState} (hstate' : (s.node.sent now).state = .touch touch') :
    ({ s with node := s.node.sent now, inflight := some report } : System).FirstFrame touch'
      (s.node.KeepsScanTime now) := by
  have hstamped := hstate'
  rw [Node.sent_state] at hstamped
  obtain ⟨hcount, hfinal⟩ := Node.sent_packet hconfig hstamped
  rw [hconfig, hstate, TouchState.stamped_eq, NodeState.touch.injEq] at hstamped
  subst hstamped
  have hslots : 0 < c.fields.contactsPerReport.toNat := by
    have haccepted := hfits.node.sound.accepted
    rw [hconfig] at haccepted
    exact haccepted.of_touch.contactsPerReport_pos
  have hgoesOn (hmore : (s.node.sent now).submittedTouchFinalPacket = false) :
      0 < (s.node.sent now).submittedTouchCount := by
    rw [hfinal, decide_eq_false_iff_not] at hmore
    rw [hcount]
    omega
  by_cases hcursor : touch.packetCursor = 0
  · have hactive := h.idle hidle hcursor
    have hstamp : touch.stamped c.fields now = stampScanTime touch c.fields now := by
      rw [TouchState.stamped, if_pos ⟨hcursor, henabled⟩]
    refine ⟨nofun, fun _ => ?_, fun _ _ hkeeps => ?_, fun _ hmore => hgoesOn hmore⟩
    · rw [hstamp, stampScanTime, hactive]
      rfl
    · rw [Node.KeepsScanTime, hstate, hconfig] at hkeeps
      rw [(hkeeps hcursor henabled).1] at hactive
      cases hactive
  · have hstamp := touch.stamped_of_frame c.fields now hcursor
    refine ⟨nofun, fun _ => ?_, fun _ hzero => ?_, fun _ hmore => hgoesOn hmore⟩
    · rw [hstamp]
      exact h.time (.inr hcursor)
    · rw [hstamp] at hzero
      exact absurd hzero hcursor

/-- A frame with which inactivity begins ends the epoch. -/
theorem scanEpochActive_finishFrame (h : touch.isInactive = true) :
    (finishFrame touch).released.scanEpochActive = false := by
  have hdown : (touch.contacts.map fun contact =>
      if contact.phase = .up then { contact with phase := .none } else contact).any
        (·.phase == .down) = touch.contacts.any (·.phase == .down) := by
    rw [List.any_map]
    congr 1
    funext contact
    rw [Function.comp_apply]
    split_ifs with hup
    · rw [hup]
      rfl
    · rfl
  rw [TouchState.isInactive, Bool.not_eq_true'] at h
  rw [TouchState.released, finishFrame]
  dsimp only
  rw [hdown, h, Bool.and_false]

/-- The completion of a packet of the first frame. -/
theorem System.FirstFrame.finish (hstate : s.node.state = .touch touch)
    (h : fresh = true → s.FirstFrame touch kept) (hsome : s.inflight.isSome) {report : List UInt8}
    {result : Result} {nativeStatus : ℤ} (hnative : 0 ≤ nativeStatus)
    (hkept : result = .errStall → kept) (hfresh : s.node.freshAfter result fresh = true)
    {touch' : TouchState}
    (hstate' : (transferComplete s.node result nativeStatus).state = .touch touch') :
    ({ node := transferComplete s.node result nativeStatus
       wire := s.wire ++ [⟨report, result⟩]
       inflight := none } : System).FirstFrame touch' kept := by
  have hresting (hidle : touch'.packetCursor = 0 → touch'.scanEpochActive = false)
      (htime : touch'.packetCursor ≠ 0 → touch'.scanTime = 0) :
      ({ node := transferComplete s.node result nativeStatus
         wire := s.wire ++ [⟨report, result⟩]
         inflight := none } : System).FirstFrame touch' kept :=
    ⟨fun _ => hidle, fun hframe => htime (hframe.resolve_left nofun), nofun, nofun⟩
  rw [Node.freshAfter, hstate] at hfresh
  dsimp only at hfresh
  by_cases hstall : result = .errStall
  · subst hstall
    rw [(transferComplete_stall _ _).1, hstate] at hstate'
    cases hstate'
    rw [if_pos rfl] at hfresh
    have hfirst := h hfresh
    exact hresting (fun hzero => absurd (hkept rfl) (hfirst.moved hsome hzero))
      fun _ => hfirst.time (.inl hsome)
  · rw [if_neg hstall] at hfresh
    by_cases hok : result = .ok
    · subst hok
      rw [if_pos rfl] at hfresh
      cases hfinal : s.node.submittedTouchFinalPacket with
      | true =>
        rw [(transferComplete_finish hstate hnative hfinal).1] at hstate'
        cases hstate'
        rw [if_pos hfinal] at hfresh
        exact hresting (fun _ => scanEpochActive_finishFrame hfresh) fun hcursor =>
          absurd rfl hcursor
      | false =>
        rw [(transferComplete_advance hstate hnative hfinal).1] at hstate'
        cases hstate'
        rw [if_neg (by rw [hfinal]; decide)] at hfresh
        have hfirst := h hfresh
        have hcount := hfirst.goesOn hsome hfinal
        exact hresting (fun hzero => absurd hzero (by dsimp only; omega))
          fun _ => hfirst.time (.inl hsome)
    · rw [if_neg hok] at hfresh
      cases hfresh

/-- **Runs.** While a frame may be the first after inactivity, its Scan Time is zero. -/
theorem ScanRun.firstFrame (hsound : spec.Sound) (hconfig : spec.config = .touch c)
    (henabled : c.fields.enableScanTime = 1) (h : ScanRun spec s fresh kept)
    (hfresh : fresh = true) (hstate : s.node.state = .touch touch) : s.FirstFrame touch kept := by
  have hrun {s : System} {fresh : Bool} {kept : Prop} (h : ScanRun spec s fresh kept) :
      s.Fits ∧ s.node.spec.config = .touch c :=
    ⟨(h.fits hsound).1, (h.fits hsound).2 ▸ hconfig⟩
  have htouch {s : System} {fresh : Bool} {kept : Prop} (h : ScanRun spec s fresh kept) :
      ∃ touch, s.node.state = .touch touch := by
    obtain ⟨hfits, hconfig⟩ := hrun h
    have hstate := hfits.node.state
    rw [hconfig] at hstate
    cases hs : s.node.state with
    | touch touch => exact ⟨touch, rfl⟩
    | _ =>
      rw [hs] at hstate
      exact hstate.elim
  induction h generalizing touch with
  | @opened hidId s h =>
    have hshows := System.shows_opened hsound hconfig h
    rw [hshows.state] at hstate
    cases hstate
    have hidle (hsome : s.inflight.isSome) : False := by
      rw [hshows.sent] at hsome
      cases hsome
    exact ⟨fun _ _ => rfl, fun _ => rfl, fun hsome => (hidle hsome).elim,
      fun hsome => (hidle hsome).elim⟩
  | other h hmove hwire hinflight ih =>
    obtain ⟨before, hbefore⟩ := htouch h
    exact (ih hfresh hbefore).other (hrun h).1 (hrun h).2 hbefore hmove hwire hinflight hstate
  | send h _ _ hidle _ ih =>
    obtain ⟨before, hbefore⟩ := htouch h
    exact (ih hfresh hbefore).send (hrun h).1 (hrun h).2 henabled hbefore hidle _ hstate
  | @finish s fresh kept _ result _ h hinflight hnative hkept ih =>
    obtain ⟨before, hbefore⟩ := htouch h
    have hsome : s.inflight.isSome := by rw [hinflight]; rfl
    exact System.FirstFrame.finish hbefore (fun hfresh => ih hfresh hbefore) hsome hnative hkept
      hfresh hstate

/-- The Scan Time in a report of the first frame after inactivity. -/
theorem ScanRun.reading (hsound : spec.Sound) (hconfig : spec.config = .touch c)
    (h : ScanRun spec s true kept) {env : SubmitEnv} {report : List UInt8}
    (haccepted : (nodeSubmit s.node env).accepted = some report) :
    spec.layout.readingAt report .scanTime 0 = 0 := by
  obtain ⟨hfits, rfl⟩ := h.fits hsound
  rcases nodeSubmit_cases hfits.node env with
    ⟨hnone, -⟩ | ⟨report', heq, hcallable, hdirty, hcarries⟩
  · rw [hnone] at haccepted
    cases haccepted
  · rw [heq] at haccepted
    cases haccepted
    have hbusy := hfits.inflight
    rw [hcallable.idle] at hbusy
    have hidle : s.inflight = none := Option.isNone_iff_eq_none.mp (by simpa using hbusy.symm)
    have hsent : ScanRun s.node.spec { s with node := s.node.sent env.now, inflight := some report }
        true (s.node.KeepsScanTime env.now) := h.send hcallable hdirty hidle hcarries
    have hstate := (hfits.node.sent hdirty env.now).state
    rw [Node.sent_spec, hconfig] at hstate
    cases hs : (s.node.sent env.now).state with
    | touch touch =>
      rw [hs] at hcarries hstate
      rw [readingAt_scanTime hcarries hsound hconfig hstate]
      split_ifs with henabled
      · have hfirst := hsent.firstFrame hsound hconfig henabled rfl hs
        rw [hfirst.time (.inl rfl)]
        rfl
      · rfl
    | _ =>
      rw [hs] at hstate
      exact hstate.elim

end FirstFrame

/-- **Reports that were not applied.** A refusal is undone completely. A STALL keeps the profile
state and what is sent next exactly when its submit left the Scan Time. In every run in which all
STALLs do, the first frame after inactivity has the Scan Time zero. -/
theorem notApplied_keeps_iff {spec : Spec} (hspec : Generated spec) :
    (∀ node, Reachable spec node → ∀ env, (nodeSubmit node env).accepted = none →
      node.Keeps (nodeSubmit node env).node) ∧
    (∀ node, Reachable spec node → ∀ env report, (nodeSubmit node env).accepted = some report →
      ∀ nativeStatus, node.Keeps (transferComplete (nodeSubmit node env).node .errStall
        nativeStatus) ↔ node.KeepsScanTime env.now) ∧
    ∀ c, spec.config = .touch c → ∀ s kept, ScanRun spec s true kept →
      ∀ env report, (nodeSubmit s.node env).accepted = some report →
        spec.layout.readingAt report .scanTime 0 = 0 := by
  refine ⟨fun node hreach env h => refused_keeps (hreach.fits hspec).1 h,
    fun node hreach env report h nativeStatus =>
      stalled_keeps_iff (hreach.fits hspec).1 h nativeStatus,
    fun c hconfig s kept h env report haccepted => h.reading hspec.sound hconfig haccepted⟩

/-- The sample touchpad with a contact that went down. -/
def touchedNode : Node := ((Call.touch 1 1 10 10 none).perform .present openedTouchpad.node).2

theorem reachable_touchedNode : Reachable sampleTouchpad touchedNode := by
  obtain ⟨node, hnode, heq⟩ := Option.map_eq_some_iff.mp opened_openedTouchpad
  rw [touchedNode, ← heq]
  exact .call (.opened hnode) _ _

/-- The pool has a slot, and libusb rejects the transfer. -/
def rejectedSubmit : SubmitEnv := { clearSubmit with
  rejection := some
    { result := .errBusy
      failed := by decide
      nativeStatus := -6
      negative := by decide } }

/-- A second contact goes down, and the first packet of the frame is delivered. -/
def halfSentNode : Node :=
  transferComplete
    (nodeSubmit ((Call.touch 2 1 20 20 none).perform .present touchedNode).2 clearSubmit).node .ok 0

theorem reachable_halfSentNode : Reachable sampleTouchpad halfSentNode :=
  .complete (.submit (.call reachable_touchedNode _ _) _) (by decide +kernel) _ _

/-- A rejection keeps everything; a STALL of the first packet of a frame starts the epoch, and one
of the second packet keeps everything. -/
theorem notApplied_keeps_iff_touchedNode :
    touchedNode.Keeps (nodeSubmit touchedNode rejectedSubmit).node ∧
    ¬touchedNode.Keeps
      (transferComplete (nodeSubmit touchedNode clearSubmit).node .errStall 4) ∧
    halfSentNode.Keeps
      (transferComplete (nodeSubmit halfSentNode clearSubmit).node .errStall 4) := by
  obtain ⟨hrefused, hstalled, -⟩ := notApplied_keeps_iff generated_sampleTouchpad
  have hsome {node : Node} (h : (nodeSubmit node clearSubmit).accepted.isSome = true) :=
    Option.isSome_iff_exists.mp h
  obtain ⟨first, hfirst⟩ := hsome (show (nodeSubmit touchedNode _).accepted.isSome = true by
    decide +kernel)
  obtain ⟨second, hsecond⟩ := hsome (show (nodeSubmit halfSentNode _).accepted.isSome = true by
    decide +kernel)
  refine ⟨hrefused touchedNode reachable_touchedNode _ (by decide +kernel), ?_, ?_⟩
  · rw [hstalled touchedNode reachable_touchedNode clearSubmit first hfirst]
    decide +kernel
  · rw [hstalled halfSentNode reachable_halfSentNode clearSubmit second hsecond]
    decide +kernel

/-- A contact goes down; its first report is refused with a STALL, and half a second later it is
sent again. -/
def stalledFirstFrame : List Event :=
  [.call (.touch 1 1 10 10 none) .present, .submit clearSubmit, .complete .stall 0,
    .submit clearSubmit, .submit { clearSubmit with now := 500000000 },
    .complete .completed sampleTouchpad.layout.wireBytes]

/-- The STALL leaves another profile state, and the first frame that is applied carries the time
since the refused one. -/
theorem stall_moves_scanTime :
    (openedTouchpad.run (stalledFirstFrame.take 3)).node.state ≠
      (openedTouchpad.run (stalledFirstFrame.take 1)).node.state ∧
    (openedTouchpad.run stalledFirstFrame).wire.map (fun t =>
      (t.result, sampleTouchpad.layout.readingAt t.report .scanTime 0)) =
        [(.errStall, 0), (.ok, 5000)] := by decide +kernel

end LibaoaHid

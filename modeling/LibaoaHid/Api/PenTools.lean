import LibaoaHid.Api.ReportLog
import LibaoaHid.Api.TouchRuns

/-!
# The tool of a pen

A pen that is in range with one tool is reported out of range before it is reported with the other.
The Node remembers the sample that the target holds, but only a completion that is `AOAHID_OK`
updates it: when the report with which a pen comes into range times out, the target may hold a tool
that the Node does not know of, and a call that asks for the other tool is wrong about the
departure.

## Main definitions

* `ShowsTool`, `ShowsAway`: a report in range with a tool, and one out of range.
* `RemembersTool`: the guard of the calls, that the Node is right about a tool they turn away from.
* `System.AsksHeld`: the invariant of the runs in which all calls meet it.
* `EntryCertain`: the guard of the completions, that no report which brings the pen into range is
  lost. `System.KnowsTool` is its invariant.

## Main results

* `Logged.asksHeld`.
* `Logged.knowsTool`, `Logged.remembersTool`: where no entry is lost, every call meets its guard.
* `tool_switch_departs`.
-/

namespace LibaoaHid

/-! ### Reports of a pen -/

/-- A report in range with a tool. -/
structure ShowsTool (layout : ReportLayout) (report : List UInt8) (tool : ℤ) : Prop where
  inRange : layout.readingAt report .inRange 0 = 1
  invert : layout.readingAt report .eraser 0 = tool

/-- A report out of range. -/
def ShowsAway (layout : ReportLayout) (report : List UInt8) : Prop :=
  layout.readingAt report .inRange 0 = 0

section Readings

variable {spec : Spec} {c : PenConfig} {pen : PenState} {report : List UInt8}

/-- In Range: the desired one, and zero during a departure. -/
theorem readingAt_inRange (hcarries : spec.Carries (.pen pen) report) (hsound : spec.Sound)
    (hconfig : spec.config = .pen c) (hfits : pen.Fits c.options) :
    spec.layout.readingAt report .inRange 0 =
      if pen.toolSwitchDeparture then 0 else (pen.desired.inRange.toNat : ℤ) := by
  have hd : bitDecl .inRange 0 ∈ (SpecConfig.pen c).declaredFields := by
    simp [SpecConfig.declaredFields]
  obtain ⟨field, hsemantic, -, hread⟩ := readingAt_of_declared hcarries hsound
    (hconfig ▸ hfits : NodeState.Fits spec.config (.pen pen))
    (hconfig ▸ trivial : NodeState.Reportable spec.config (.pen pen)) (hconfig ▸ hd) rfl rfl
  refine hread.trans ?_
  rw [hconfig]
  unfold selectedValue fieldValue
  rw [hsemantic]
  rfl

/-- Invert: the desired tool while the pen is in range. -/
theorem readingAt_eraser (hcarries : spec.Carries (.pen pen) report) (hsound : spec.Sound)
    (hconfig : spec.config = .pen c) (hfits : pen.Fits c.options)
    (henabled : c.options.enableEraser = 1) :
    spec.layout.readingAt report .eraser 0 =
      if pen.toolSwitchDeparture ∨ pen.desired.inRange = 0 then 0
      else (pen.desired.eraser.toNat : ℤ) := by
  have hd : bitDecl .eraser 0 ∈ (SpecConfig.pen c).declaredFields := by
    simp [SpecConfig.declaredFields, henabled]
  obtain ⟨field, hsemantic, -, hread⟩ := readingAt_of_declared hcarries hsound
    (hconfig ▸ hfits : NodeState.Fits spec.config (.pen pen))
    (hconfig ▸ trivial : NodeState.Reportable spec.config (.pen pen)) (hconfig ▸ hd) rfl rfl
  refine hread.trans ?_
  rw [hconfig]
  unfold selectedValue fieldValue
  rw [hsemantic]
  rfl

/-- What a report in range says about its state. -/
theorem ShowsTool.eq_desired {tool : ℤ} (h : ShowsTool spec.layout report tool)
    (hcarries : spec.Carries (.pen pen) report) (hsound : spec.Sound)
    (hconfig : spec.config = .pen c) (hfits : pen.Fits c.options)
    (henabled : c.options.enableEraser = 1) :
    pen.toolSwitchDeparture = false ∧ pen.desired.inRange = 1 ∧
      tool = pen.desired.eraser.toNat := by
  obtain ⟨hinRange, hinvert⟩ := h
  rw [readingAt_inRange hcarries hsound hconfig hfits] at hinRange
  rw [readingAt_eraser hcarries hsound hconfig hfits henabled] at hinvert
  cases hdeparture : pen.toolSwitchDeparture with
  | true =>
    rw [hdeparture, if_pos rfl] at hinRange
    cases hinRange
  | false =>
    rw [hdeparture, if_neg (by decide)] at hinRange
    rcases hfits.desired.inRange with hzero | hone
    · rw [hzero] at hinRange
      cases hinRange
    · rw [hdeparture, hone, if_neg (by decide)] at hinvert
      exact ⟨rfl, hone, hinvert.symm⟩

/-- A report that is not out of range. -/
theorem in_range_of_not_away (h : ¬ShowsAway spec.layout report)
    (hcarries : spec.Carries (.pen pen) report) (hsound : spec.Sound)
    (hconfig : spec.config = .pen c) (hfits : pen.Fits c.options) :
    pen.toolSwitchDeparture = false ∧ pen.desired.inRange = 1 := by
  rw [ShowsAway, readingAt_inRange hcarries hsound hconfig hfits] at h
  cases hdeparture : pen.toolSwitchDeparture with
  | true =>
    rw [hdeparture, if_pos rfl] at h
    exact absurd rfl h
  | false =>
    rw [hdeparture, if_neg (by decide)] at h
    rcases hfits.desired.inRange with hzero | hone
    · rw [hzero] at h
      exact absurd rfl h
    · exact ⟨rfl, hone⟩

end Readings

/-! ### The remembered tool -/

/-- The target may hold a tool: behind a report with it that may have been applied, no report out of
range was delivered. -/
def MayHold (layout : ReportLayout) (wire : List Transmission) (tool : ℤ) : Prop :=
  ∃ before t after, wire = before ++ t :: after ∧ t.MayHaveApplied ∧
    ShowsTool layout t.report tool ∧ ∀ u ∈ after, u.result = .ok → ¬ShowsAway layout u.report

/-- A `pen_update` that asks for a pen in range finds the Node right about the other tool: if the
target may hold that one, it is the tool that the Node remembers in range. -/
def RemembersTool (s : System) (call : Call) : Prop :=
  ∀ sample, call = .penUpdate (some sample) → sample.inRange = 1 →
    ∀ pen, s.node.state = .pen pen →
      ∀ tool, MayHold s.node.spec.layout s.wire tool → tool ≠ sample.eraser.toNat →
        pen.emitted.inRange = 1 ∧ tool = pen.emitted.eraser.toNat

/-- **A report in range is about to show the tool that the target may hold.** -/
def System.AsksHeld (s : System) (pen : PenState) : Prop :=
  pen.toolSwitchDeparture = false → pen.desired.inRange = 1 →
    ∀ tool, MayHold s.node.spec.layout s.wire tool → tool = pen.desired.eraser.toNat

/-- The completion is certain, or its report does not bring the pen into range: it is a departure,
or out of range, or the Node remembers the pen in range. -/
def EntryCertain (s : System) (result : Result) : Prop :=
  Uncertain result → ∀ pen, s.node.state = .pen pen →
    pen.toolSwitchDeparture = true ∨ pen.desired.inRange = 0 ∨ pen.emitted.inRange = 1

/-- **The Node knows the tool that the target may hold**, and a report that changes it is a
departure. -/
structure System.KnowsTool (s : System) (pen : PenState) : Prop where
  departs : pen.toolSwitchDeparture = false → pen.emitted.inRange = 1 → pen.desired.inRange = 1 →
    pen.emitted.eraser = pen.desired.eraser
  knows : ∀ tool, MayHold s.node.spec.layout s.wire tool →
    pen.emitted.inRange = 1 ∧ tool = pen.emitted.eraser.toNat

/-- Nothing was sent. -/
theorem not_mayHold_nil {layout : ReportLayout} {tool : ℤ} : ¬MayHold layout [] tool := by
  rintro ⟨before, t, after, hwire, -⟩
  exact absurd hwire.symm (by simp)

/-- All reports show the same tool. -/
theorem MayHold.tool_eq {layout : ReportLayout} {wire : List Transmission} {tool shown : ℤ}
    (h : MayHold layout wire tool)
    (hall : ∀ t ∈ wire, layout.readingAt t.report .eraser 0 = shown) : tool = shown := by
  obtain ⟨before, t, after, rfl, -, hshows, -⟩ := h
  exact hshows.invert.symm.trans (hall t (List.mem_append_right _ List.mem_cons_self))

/-- One more report. -/
theorem mayHold_append {layout : ReportLayout} {wire : List Transmission} {t : Transmission}
    {tool : ℤ} (h : MayHold layout (wire ++ [t]) tool) :
    (t.MayHaveApplied ∧ ShowsTool layout t.report tool) ∨
      (MayHold layout wire tool ∧ (t.result = .ok → ¬ShowsAway layout t.report)) := by
  obtain ⟨before, held, after, hwire, happlied, hshows, hafter⟩ := h
  rcases List.eq_nil_or_concat after with rfl | ⟨rest, last, rfl⟩
  · obtain ⟨-, heq⟩ := List.append_inj' hwire rfl
    obtain ⟨rfl⟩ := List.singleton_inj.mp heq
    exact .inl ⟨happlied, hshows⟩
  · rw [List.concat_eq_append] at hwire hafter
    rw [← List.cons_append, ← List.append_assoc] at hwire
    obtain ⟨hbefore, heq⟩ := List.append_inj' hwire rfl
    obtain ⟨rfl⟩ := List.singleton_inj.mp heq
    refine .inr ⟨⟨before, held, rest, hbefore, happlied, hshows, fun u hu => ?_⟩, ?_⟩
    · exact hafter u (List.mem_append_left _ hu)
    · exact hafter t (List.mem_append_right _ (List.mem_singleton_self t))

/-! ### Steps -/

section Steps

variable {node : Node} {pen : PenState} {nativeStatus : ℤ}

/-- `PenState` with its edge guards open. -/
def PenState.released (pen : PenState) : PenState :=
  { pen with
    barrelTransitions := 0
    inRangeTransitionPending := false
    tipTransitionPending := false
    eraserTransitionPending := false }

/-- A delivered departure. -/
theorem transferComplete_departed (hstate : node.state = .pen pen) (hnative : 0 ≤ nativeStatus)
    (hdeparture : pen.toolSwitchDeparture = true) :
    (transferComplete node .ok nativeStatus).state = .pen { pen with
      emitted := { pen.emitted with inRange := 0, tip := 0 }
      toolSwitchDeparture := false } := by
  unfold transferComplete mayHaveApplied completeState
  simp [hstate, hnative, hdeparture, Node.publishCompletion]

/-- A delivered report of the desired sample. -/
theorem transferComplete_shown (hstate : node.state = .pen pen) (hnative : 0 ≤ nativeStatus)
    (hdeparture : pen.toolSwitchDeparture = false) :
    (transferComplete node .ok nativeStatus).state =
      .pen ({ pen with emitted := pen.desired } : PenState).released := by
  unfold transferComplete mayHaveApplied completeState
  simp [hstate, hnative, hdeparture, Node.publishCompletion, consumeLifecycleTransitions,
    PenState.released]

/-- A report of a pen whose delivery is not known. -/
theorem transferComplete_lost {result : Result} (hstate : node.state = .pen pen)
    (hnative : 0 ≤ nativeStatus) (huncertain : Uncertain result) :
    (transferComplete node result nativeStatus).state = .pen pen.released := by
  unfold transferComplete mayHaveApplied completeState
  simp [hstate, hnative, huncertain.1, huncertain.2, Node.publishCompletion,
    consumeLifecycleTransitions, PenState.released]

/-- A call leaves what the Node remembers, and decides on the departure. -/
theorem CallStep.departs {c : PenConfig} {call' : Call} {pen' : PenState} {changed : Bool}
    (h : CallStep (.pen c) call' (.pen pen) (.pen pen') changed)
    (hdeparts : pen.toolSwitchDeparture = false → pen.emitted.inRange = 1 →
      pen.desired.inRange = 1 → pen.emitted.eraser = pen.desired.eraser) :
    pen'.emitted = pen.emitted ∧ (pen'.toolSwitchDeparture = false → pen'.emitted.inRange = 1 →
      pen'.desired.inRange = 1 → pen'.emitted.eraser = pen'.desired.eraser) := by
  cases h with
  | keep => exact ⟨rfl, hdeparts⟩
  | @penUpdate _ _ sample =>
    refine ⟨rfl, fun hdeparture hinRange _ => ?_⟩
    have hinRange : pen.emitted.inRange = 1 := hinRange
    dsimp only at hdeparture
    rw [hinRange] at hdeparture
    change pen.emitted.eraser = sample.eraser
    simpa using hdeparture
  | penDepart => exact ⟨rfl, fun _ _ hinRange => by cases hinRange⟩

/-- A call that meets its guard asks for the tool that the target may hold, or departs from it. -/
theorem CallStep.asksHeld {c : PenConfig} {s : System} {call' : Call} {pen' : PenState}
    {changed : Bool} (hstep : CallStep (.pen c) call' (.pen pen) (.pen pen') changed)
    (hstate : s.node.state = .pen pen) (hguard : RemembersTool s call') (h : s.AsksHeld pen) :
    s.AsksHeld pen' := by
  cases hstep with
  | keep => exact h
  | @penUpdate _ _ sample =>
    intro hdeparture hinRange tool hmay
    by_contra hother
    obtain ⟨hemitted, htool⟩ := hguard sample rfl hinRange pen hstate tool hmay hother
    dsimp only at hdeparture
    rw [hemitted] at hdeparture
    have hsame : pen.emitted.eraser = sample.eraser := by simpa using hdeparture
    exact hother (htool.trans (congrArg (fun eraser : UInt32 => (eraser.toNat : ℤ)) hsame))
  | penDepart => exact fun _ hinRange => by cases hinRange

/-- A report keeps the knowledge when it keeps what the Node remembers, or shows it. -/
theorem System.KnowsTool.append {s s' : System} {t : Transmission} {pen' : PenState}
    (h : s.KnowsTool pen) (hspec : s'.node.spec = s.node.spec) (hwire : s'.wire = s.wire ++ [t])
    (hdeparts : pen'.toolSwitchDeparture = false → pen'.emitted.inRange = 1 →
      pen'.desired.inRange = 1 → pen'.emitted.eraser = pen'.desired.eraser)
    (hshown : ∀ tool, t.MayHaveApplied → ShowsTool s.node.spec.layout t.report tool →
      pen'.emitted.inRange = 1 ∧ tool = pen'.emitted.eraser.toNat)
    (hkept : (t.result = .ok → ¬ShowsAway s.node.spec.layout t.report) →
      pen.emitted.inRange = 1 →
      pen'.emitted.inRange = 1 ∧ pen'.emitted.eraser = pen.emitted.eraser) :
    s'.KnowsTool pen' := by
  refine ⟨hdeparts, fun tool hmay => ?_⟩
  rw [hspec, hwire] at hmay
  rcases mayHold_append hmay with ⟨happlied, hshows⟩ | ⟨hmay, hnotAway⟩
  · exact hshown tool happlied hshows
  · obtain ⟨hinRange, htool⟩ := h.knows tool hmay
    obtain ⟨hinRange', hsame⟩ := hkept hnotAway hinRange
    exact ⟨hinRange', by rw [htool, hsame]⟩

end Steps

section Runs

variable {spec : Spec} {c : PenConfig} {s : System} {pen : PenState}

/-- **The completion of a report** keeps the tool that the Node asks for. -/
theorem System.AsksHeld.finish (hfits : s.Fits) (hconfig : s.node.spec.config = .pen c)
    (henabled : c.options.enableEraser = 1) (hstate : s.node.state = .pen pen)
    (h : s.AsksHeld pen) {report : List UInt8} {result : Result} {nativeStatus : ℤ}
    (hinflight : s.inflight = some report) (hnative : 0 ≤ nativeStatus) {pen' : PenState}
    (hstate' : (transferComplete s.node result nativeStatus).state = .pen pen') :
    ({ node := transferComplete s.node result nativeStatus
       wire := s.wire ++ [⟨report, result⟩]
       inflight := none } : System).AsksHeld pen' := by
  have hsound := hfits.node.sound
  have hpen : pen.Fits c.options := by
    have hnode := hfits.node.state
    rw [hconfig, hstate] at hnode
    exact hnode
  have hcarries : s.node.spec.Carries (.pen pen) report := hstate ▸ hfits.carries report hinflight
  intro hdeparture' hinRange' tool hmay
  dsimp only at hmay
  rw [(System.transferComplete_spec_dirty s.node result nativeStatus).1] at hmay
  -- The state keeps the sample that the report shows; only a delivered departure ends one.
  have hkeeps (hdesired : pen'.desired = pen.desired)
      (hdeparture : pen.toolSwitchDeparture = false) :
      tool = pen'.desired.eraser.toNat := by
    rw [hdesired] at hinRange' ⊢
    rcases mayHold_append hmay with ⟨-, hshows⟩ | ⟨hmay, -⟩
    · exact (hshows.eq_desired hcarries hsound hconfig hpen henabled).2.2
    · exact h hdeparture hinRange' tool hmay
  by_cases hstall : result = .errStall
  · subst hstall
    rw [(transferComplete_stall _ _).1, hstate] at hstate'
    cases hstate'
    exact hkeeps rfl hdeparture'
  by_cases hok : result = .ok
  · subst hok
    cases hdeparture : pen.toolSwitchDeparture with
    | true =>
      have haway : ShowsAway s.node.spec.layout report := by
        rw [ShowsAway, readingAt_inRange hcarries hsound hconfig hpen, hdeparture, if_pos rfl]
      rcases mayHold_append hmay with ⟨-, hshows⟩ | ⟨-, hnotAway⟩
      · rw [(hshows.eq_desired hcarries hsound hconfig hpen henabled).1] at hdeparture
        cases hdeparture
      · exact absurd haway (hnotAway rfl)
    | false =>
      rw [transferComplete_shown hstate hnative hdeparture] at hstate'
      cases hstate'
      exact hkeeps rfl hdeparture
  · rw [transferComplete_lost hstate hnative ⟨hok, hstall⟩] at hstate'
    cases hstate'
    exact hkeeps rfl hdeparture'

/-- **The completion of a report** keeps the knowledge, unless it loses an entry. -/
theorem System.KnowsTool.finish (hfits : s.Fits) (hconfig : s.node.spec.config = .pen c)
    (henabled : c.options.enableEraser = 1) (hstate : s.node.state = .pen pen)
    (h : s.KnowsTool pen) {report : List UInt8} {result : Result} {nativeStatus : ℤ}
    (hinflight : s.inflight = some report) (hnative : 0 ≤ nativeStatus)
    (hguard : EntryCertain s result) {pen' : PenState}
    (hstate' : (transferComplete s.node result nativeStatus).state = .pen pen') :
    ({ node := transferComplete s.node result nativeStatus
       wire := s.wire ++ [⟨report, result⟩]
       inflight := none } : System).KnowsTool pen' := by
  have hsound := hfits.node.sound
  have hpen : pen.Fits c.options := by
    have hnode := hfits.node.state
    rw [hconfig, hstate] at hnode
    exact hnode
  have hcarries : s.node.spec.Carries (.pen pen) report := hstate ▸ hfits.carries report hinflight
  have hspec := (System.transferComplete_spec_dirty s.node result nativeStatus).1
  have hshows {tool : ℤ} (hshows : ShowsTool s.node.spec.layout report tool) :=
    hshows.eq_desired hcarries hsound hconfig hpen henabled
  by_cases hstall : result = .errStall
  · subst hstall
    rw [(transferComplete_stall _ _).1, hstate] at hstate'
    cases hstate'
    exact h.append hspec rfl h.departs (fun _ happlied => absurd rfl happlied)
      fun _ hinRange => ⟨hinRange, rfl⟩
  by_cases hok : result = .ok
  · subst hok
    cases hdeparture : pen.toolSwitchDeparture with
    | true =>
      rw [transferComplete_departed hstate hnative hdeparture] at hstate'
      cases hstate'
      have haway : ShowsAway s.node.spec.layout report := by
        rw [ShowsAway, readingAt_inRange hcarries hsound hconfig hpen, hdeparture, if_pos rfl]
      refine h.append hspec rfl (fun _ hinRange => by cases hinRange) (fun tool _ hshown => ?_)
        fun hnotAway => absurd haway (hnotAway rfl)
      rw [(hshows hshown).1] at hdeparture
      cases hdeparture
    | false =>
      rw [transferComplete_shown hstate hnative hdeparture] at hstate'
      cases hstate'
      refine h.append hspec rfl (fun _ _ _ => rfl) (fun tool _ hshown => ?_)
        fun hnotAway hinRange => ?_
      · obtain ⟨-, hone, htool⟩ := hshows hshown
        exact ⟨hone, htool⟩
      · obtain ⟨-, hone⟩ := in_range_of_not_away (hnotAway rfl) hcarries hsound hconfig hpen
        exact ⟨hone, (h.departs hdeparture hinRange hone).symm⟩
  · have huncertain : Uncertain result := ⟨hok, hstall⟩
    rw [transferComplete_lost hstate hnative huncertain] at hstate'
    cases hstate'
    refine h.append hspec rfl h.departs (fun tool _ hshown => ?_) fun _ hinRange => ⟨hinRange, rfl⟩
    obtain ⟨hdeparture, hone, htool⟩ := hshows hshown
    have hinRange : pen.emitted.inRange = 1 := by
      rcases hguard huncertain pen hstate with hdeparts | haway | hinRange
      · rw [hdeparture] at hdeparts
        cases hdeparts
      · rw [hone] at haway
        cases haway
      · exact hinRange
    refine ⟨hinRange, ?_⟩
    rw [htool, ← h.departs hdeparture hinRange hone]
    rfl

/-- A new pen is away. -/
theorem state_opened (hsound : spec.Sound) (hconfig : spec.config = .pen c) {hidId : ℕ}
    (h : System.opened spec hidId = some s) : s.node.state = .pen {} := by
  obtain ⟨node, hnode, rfl⟩ := Option.map_eq_some_iff.mp h
  obtain ⟨state, hstate, rfl⟩ := Option.map_eq_some_iff.mp hnode
  have haccepted := hsound.accepted
  rw [hconfig] at haccepted
  rw [initializeNodeState, hconfig] at hstate
  cases hkind : spec.kind with
  | pen =>
    rw [hkind] at hstate
    exact (Option.some.inj hstate).symm
  | _ =>
    rw [hkind] at haccepted
    exact haccepted.elim

/-- A run of a pen has pen states. -/
theorem Logged.pen_state {called : System → Call → Prop} {completed : System → Result → Prop}
    (hsound : spec.Sound) (hconfig : spec.config = .pen c) {hidId : ℕ} {start : System}
    (hopened : System.opened spec hidId = some start) {log : List Reported}
    (h : Logged called completed start log s) :
    s.Fits ∧ s.node.spec.config = .pen c ∧ ∃ pen, s.node.state = .pen pen := by
  obtain ⟨hfits, hspec⟩ := h.fits (System.fits_opened hsound hopened)
  rw [(System.eq_of_opened hopened).1] at hspec
  have hnode := hfits.node.state
  rw [hspec, hconfig] at hnode
  refine ⟨hfits, by rw [hspec, hconfig], ?_⟩
  cases hs : s.node.state with
  | pen pen => exact ⟨pen, rfl⟩
  | _ =>
    rw [hs] at hnode
    exact hnode.elim

/-- **Runs.** A report in range is about to show the tool that the target may hold, in every run
whose calls find the Node right about the other one. -/
theorem Logged.asksHeld (hsound : spec.Sound) (hconfig : spec.config = .pen c)
    (henabled : c.options.enableEraser = 1) {hidId : ℕ} {start : System}
    (hopened : System.opened spec hidId = some start) {log : List Reported}
    (h : Logged RemembersTool AnyCompletion start log s) (hstate : s.node.state = .pen pen) :
    s.AsksHeld pen := by
  induction h generalizing pen with
  | nil =>
    intro _ _ tool hmay
    rw [(System.eq_of_opened hopened).2] at hmay
    exact absurd hmay not_mayHold_nil
  | @call log s h call link hguard ih =>
    obtain ⟨hfits, hspec, before, hbefore⟩ := h.pen_state hsound hconfig hopened
    have hasks := ih hbefore
    rcases call.perform_cases hfits.node.fitting link with
      ⟨reply, -, heq⟩ | ⟨state, changed, -, hstep, heq⟩
    · rw [System.call, heq] at hstate ⊢
      have hsame : s.node.state = .pen pen := hstate
      rw [hbefore] at hsame
      cases hsame
      exact hasks
    · rw [System.call, heq] at hstate ⊢
      have hstate : state = .pen pen := hstate
      rw [hspec, hbefore, hstate] at hstep
      have hasked := hstep.asksHeld hbefore hguard hasks
      exact hasked
  | @pause log s node h hsame ih =>
    intro hdeparture hinRange tool hmay
    exact ih (hsame.state ▸ hstate) hdeparture hinRange tool (hsame.spec ▸ hmay)
  | @send log s now report h hcallable hdirty hidle hcarries ih =>
    obtain ⟨-, -, before, hbefore⟩ := h.pen_state hsound hconfig hopened
    have hstamped : s.node.state.stamped s.node.spec.config now = .pen pen := by
      rw [← Node.sent_state]
      exact hstate
    rw [hbefore] at hstamped
    cases hstamped
    intro hdeparture hinRange tool hmay
    dsimp only at hmay
    rw [Node.sent_spec] at hmay
    exact ih hbefore hdeparture hinRange tool hmay
  | @finish log s report result nativeStatus h hinflight hnative _ ih =>
    obtain ⟨hfits, hspec, before, hbefore⟩ := h.pen_state hsound hconfig hopened
    exact (ih hbefore).finish hfits hspec henabled hbefore hinflight hnative hstate

/-- **Runs.** The Node knows the tool in every run that loses no entry. -/
theorem Logged.knowsTool (hsound : spec.Sound) (hconfig : spec.config = .pen c)
    (henabled : c.options.enableEraser = 1) {hidId : ℕ} {start : System}
    (hopened : System.opened spec hidId = some start) {log : List Reported}
    (h : Logged AnyCall EntryCertain start log s) (hstate : s.node.state = .pen pen) :
    s.KnowsTool pen := by
  induction h generalizing pen with
  | nil =>
    rw [state_opened hsound hconfig hopened] at hstate
    cases hstate
    refine ⟨fun _ hinRange => absurd hinRange (by decide), fun tool hmay => ?_⟩
    rw [(System.eq_of_opened hopened).2] at hmay
    exact absurd hmay not_mayHold_nil
  | @call log s h call link _ ih =>
    obtain ⟨hfits, hspec, before, hbefore⟩ := h.pen_state hsound hconfig hopened
    have hknows := ih hbefore
    rcases call.perform_cases hfits.node.fitting link with
      ⟨reply, -, heq⟩ | ⟨state, changed, -, hstep, heq⟩
    · rw [System.call, heq] at hstate ⊢
      have hsame : s.node.state = .pen pen := hstate
      rw [hbefore] at hsame
      cases hsame
      exact hknows
    · rw [System.call, heq] at hstate ⊢
      have hstate : state = .pen pen := hstate
      rw [hspec, hbefore, hstate] at hstep
      obtain ⟨hemitted, hdeparts⟩ := hstep.departs hknows.departs
      exact ⟨hdeparts, fun tool hmay => hemitted ▸ hknows.knows tool hmay⟩
  | @pause log s node h hsame ih =>
    have hknows := ih (hsame.state ▸ hstate)
    exact ⟨hknows.departs, fun tool hmay => hknows.knows tool (hsame.spec ▸ hmay)⟩
  | @send log s now report h hcallable hdirty hidle hcarries ih =>
    obtain ⟨-, -, before, hbefore⟩ := h.pen_state hsound hconfig hopened
    have hstamped : s.node.state.stamped s.node.spec.config now = .pen pen := by
      rw [← Node.sent_state]
      exact hstate
    rw [hbefore] at hstamped
    cases hstamped
    have hknows := ih hbefore
    refine ⟨hknows.departs, fun tool hmay => hknows.knows tool ?_⟩
    dsimp only at hmay
    rwa [Node.sent_spec] at hmay
  | @finish log s report result nativeStatus h hinflight hnative hguard ih =>
    obtain ⟨hfits, hspec, before, hbefore⟩ := h.pen_state hsound hconfig hopened
    exact (ih hbefore).finish hfits hspec henabled hbefore hinflight hnative hguard hstate

/-- A run that loses no entry is one whose calls find the Node right about the tool. -/
theorem Logged.remembersTool (hsound : spec.Sound) (hconfig : spec.config = .pen c)
    (henabled : c.options.enableEraser = 1) {hidId : ℕ} {start : System}
    (hopened : System.opened spec hidId = some start) {log : List Reported}
    (h : Logged AnyCall EntryCertain start log s) :
    Logged RemembersTool AnyCompletion start log s := by
  induction h with
  | nil => exact .nil
  | call h call link _ ih =>
    refine ih.call call link fun sample _ _ pen hstate tool hmay _ => ?_
    exact (h.knowsTool hsound hconfig henabled hopened hstate).knows tool hmay
  | pause _ hsame ih => exact ih.pause hsame
  | send _ hcallable hdirty hidle hcarries ih => exact ih.send hcallable hdirty hidle hcarries
  | finish _ hinflight hnative _ ih => exact ih.finish hinflight hnative trivial

end Runs

/-- **The pen departs between two tools.** In every run of a pen with an eraser in which the Node is
right about the other tool whenever a call asks for one: between a report in range with a tool that
may have been applied and a later submitted report in range with the other tool, a report out of
range was delivered. -/
theorem tool_switch_departs {spec : Spec} (hspec : Generated spec) {c : PenConfig}
    (hconfig : spec.config = .pen c) (henabled : c.options.enableEraser = 1) {hidId : ℕ}
    {start s : System} (hopened : System.opened spec hidId = some start) {log : List Reported}
    (h : Logged RemembersTool AnyCompletion start log s) {env : SubmitEnv} {report : List UInt8}
    (haccepted : (nodeSubmit s.node env).accepted = some report) {tool : ℤ}
    (hreport : ShowsTool spec.layout report tool) {before after : List Transmission}
    {t : Transmission} (hwire : s.wire = before ++ t :: after) (happlied : t.MayHaveApplied)
    {held : ℤ} (hheld : ShowsTool spec.layout t.report held) (hne : held ≠ tool) :
    ∃ u ∈ after, u.result = .ok ∧ ShowsAway spec.layout u.report := by
  have hsound := hspec.sound
  obtain ⟨hfits, hspecEq⟩ := h.fits (System.fits_opened hsound hopened)
  rw [(System.eq_of_opened hopened).1] at hspecEq
  rcases nodeSubmit_cases hfits.node env with ⟨hnone, -⟩ | ⟨report', heq, -, -, hcarries⟩
  · rw [hnone] at haccepted
    cases haccepted
  rw [heq] at haccepted
  cases haccepted
  have hnode := hfits.node.state
  rw [hspecEq, hconfig] at hnode
  cases hstate : s.node.state with
  | pen pen =>
    rw [hstate] at hnode
    rw [Node.sent_state, hspecEq, hstate] at hcarries
    have hasks := h.asksHeld hsound hconfig henabled hopened hstate
    obtain ⟨hdeparture, hone, htool⟩ := hreport.eq_desired hcarries hsound hconfig hnode henabled
    by_contra hnone
    refine hne ((hasks hdeparture hone held ?_).trans htool.symm)
    exact ⟨before, t, after, hwire, happlied, hspecEq ▸ hheld, fun u hu hok haway =>
      hnone ⟨u, hu, hok, hspecEq ▸ haway⟩⟩
  | _ =>
    rw [hstate] at hnode
    exact hnode.elim

/-! ### A sample pen -/

/-- The options of a pen with an eraser that hovers. -/
def samplePenOptions : PenOptions where
  structSize := PenOptions.size
  mode := .directScreen
  x := { logicalMinimum := 0, logicalMaximum := 1023, bitWidth := 10 }
  y := { logicalMinimum := 0, logicalMaximum := 1023, bitWidth := 10 }
  enableEraser := 1
  enableHover := 1

/-- A pen with an eraser. -/
def samplePen : Spec := (createPen (some samplePenOptions)).toOption.get (by decide +kernel)

theorem generated_samplePen : Generated samplePen :=
  .pen (o := samplePenOptions) (eq_ok_get _)

/-- The sample pen, opened. -/
def openedPen : System :=
  (System.opened samplePen 1).get (by
    rw [System.opened, Option.isSome_map]
    exact isSome_openNode generated_samplePen 1)

theorem opened_openedPen : System.opened samplePen 1 = some openedPen :=
  (Option.some_get _).symm

/-- The pen hovers with a tool. -/
def hoverWith (eraser : UInt32) : Event :=
  .call (.penUpdate (some { inRange := 1, eraser, x := 10, y := 10 })) .present

/-- The pen hovers with its tip elsewhere. -/
def hoverTo (x : Int32) : Event :=
  .call (.penUpdate (some { inRange := 1, x, y := 10 })) .present

/-- An accepted submit of the sample pen. -/
def penSubmit : SubmitEnv where
  acquire := .ok (List.replicate 8 0)

/-- A report of the sample pen with its completion. -/
def penReport (status : TransferStatus) : List Event :=
  [.submit penSubmit, .complete status samplePen.layout.wireBytes]

/-- The pen comes into range with its tip, and the report times out. -/
def enteredPen : System :=
  openedPen.run ([hoverWith 0] ++ penReport .timedOut ++ [.submit penSubmit])

/-- The pen moves on, and the report is delivered. -/
def movedPen : System :=
  enteredPen.run ([hoverTo 11] ++ penReport .completed)

/-- The pen turns to its eraser, and departs for it; the eraser is not yet sent. -/
def turnedPen : System := movedPen.run ([hoverWith 1] ++ penReport .completed)

/-- A pen that has an eraser. -/
def SpecConfig.erases : SpecConfig → Bool
  | .pen c => c.options.enableEraser == 1
  | _ => false

theorem config_samplePen :
    ∃ c, samplePen.config = .pen c ∧ c.options.enableEraser = 1 := by
  have h : samplePen.config.erases = true := by decide +kernel
  cases hconfig : samplePen.config with
  | pen c =>
    rw [hconfig] at h
    exact ⟨c, rfl, beq_iff_eq.mp h⟩
  | _ =>
    rw [hconfig] at h
    cases h

theorem accepted_turnedPen : (nodeSubmit turnedPen.node penSubmit).accepted.isSome = true := by
  decide +kernel

/-- The sample that the Node remembers. -/
def System.emittedSample (s : System) : Option PenSample :=
  match s.node.state with
  | .pen pen => some pen.emitted
  | _ => none

/-- The entry times out. Its tool is sent once more before the pen turns, so that the Node is right
about it. -/
theorem tool_switch_departs_turnedPen :
    ∃ u ∈ turnedPen.wire.drop 1, u.result = .ok ∧ ShowsAway samplePen.layout u.report := by
  have hfits := System.fits_opened generated_samplePen.sound opened_openedPen
  obtain ⟨c, hconfig, henabled⟩ := config_samplePen
  have hentered : openedPen.Guards RemembersTool AnyCompletion
      ([hoverWith 0] ++ penReport .timedOut ++ [.submit penSubmit]) :=
    guards_of_call (fun _ _ _ _ _ _ hmay _ => absurd hmay not_mayHold_nil) (by decide)
  have hmoved : enteredPen.Guards RemembersTool AnyCompletion
      ([hoverTo 11] ++ penReport .completed) := by
    refine guards_of_call (fun sample hcall _ _ _ tool hmay hother => ?_) (by decide)
    cases hcall
    exact absurd (hmay.tool_eq (by decide +kernel)) hother
  have hturned : movedPen.Guards RemembersTool AnyCompletion
      ([hoverWith 1] ++ penReport .completed) := by
    refine guards_of_call (fun sample _ _ pen hpen tool hmay _ => ?_) (by decide)
    have hemitted : movedPen.emittedSample = some pen.emitted := by
      rw [System.emittedSample, hpen]
    have hremembers : movedPen.emittedSample.all
        (fun emitted => emitted.inRange == 1 && emitted.eraser == 0) = true := by decide +kernel
    have htool : tool = 0 := hmay.tool_eq (by decide +kernel)
    rw [hemitted, Option.all_some, Bool.and_eq_true, beq_iff_eq, beq_iff_eq] at hremembers
    exact ⟨hremembers.1, by rw [htool, hremembers.2]; rfl⟩
  obtain ⟨log, h⟩ := exists_logged_of_guards hfits .nil hentered
  obtain ⟨log, h⟩ := exists_logged_of_guards hfits h hmoved
  obtain ⟨log, h⟩ := exists_logged_of_guards hfits h hturned
  have hreport : ShowsTool samplePen.layout
      ((nodeSubmit turnedPen.node penSubmit).accepted.get accepted_turnedPen) 1 :=
    ⟨by decide +kernel, by decide +kernel⟩
  have hheld : ShowsTool samplePen.layout (turnedPen.wire.getD 0 ⟨[], .ok⟩).report 0 :=
    ⟨by decide +kernel, by decide +kernel⟩
  exact tool_switch_departs generated_samplePen hconfig henabled opened_openedPen h
    (Option.some_get accepted_turnedPen).symm hreport
    (show turnedPen.wire = [] ++ turnedPen.wire.getD 0 ⟨[], .ok⟩ :: turnedPen.wire.drop 1 by
      decide +kernel)
    (by decide +kernel) hheld (by decide)

/-- The report with which the pen comes into range times out; the next submit says so, and the pen
turns to its eraser. -/
def lostEntry : List Event :=
  [hoverWith 0] ++ penReport .timedOut ++ [.submit penSubmit, hoverWith 1] ++
    penReport .completed

/-- The wire has the report with the tip, which may have been applied, and the report with the
eraser behind it, and no other. -/
theorem tool_switches_lostEntry : ∃ t u, (openedPen.run lostEntry).wire = [t, u] ∧
    t.MayHaveApplied ∧ ShowsTool samplePen.layout t.report 0 ∧
    ShowsTool samplePen.layout u.report 1 :=
  ⟨(openedPen.run lostEntry).wire.getD 0 ⟨[], .ok⟩, (openedPen.run lostEntry).wire.getD 1 ⟨[], .ok⟩,
    by decide +kernel, by decide +kernel, ⟨by decide +kernel, by decide +kernel⟩,
    ⟨by decide +kernel, by decide +kernel⟩⟩

end LibaoaHid

import LibaoaHid.Api.Motion
import Mathlib.Algebra.Order.Floor.Div

/-!
# The drain of a mouse

Each report of a mouse takes of every axis as much as its logical range allows. Since every range
lies on both sides of zero, the number of reports that a pending total needs falls by one with each
of them, for all axes at once, and the last one leaves the Node clean.

## Main definitions

* `MouseAxis.reports`: the reports that the total of an axis needs.
* `Node.drainReports`: the reports that a dirty mouse needs.
* `System.deliver`: a submit whose report completes.

## Main results

* `reports_sub_clamp`: one report for one axis.
* `remaining_delivered`: one report for the Node.
* `mouse_drains`: the number of reports, and the end of the blocking submit.
-/

namespace LibaoaHid

/-! ### One axis -/

/-- A quotient that is rounded up falls by one with each divisor taken away. -/
theorem ceilDiv_sub_self {a b : ℕ} (hb : 0 < b) : (a - b) ⌈/⌉ b = a ⌈/⌉ b - 1 := by
  rw [Nat.ceilDiv_eq_add_pred_div, Nat.ceilDiv_eq_add_pred_div]
  rcases Nat.lt_or_ge b a with hlt | hle
  · obtain ⟨k, rfl⟩ : ∃ k, a = k + b := ⟨a - b, by omega⟩
    rw [Nat.add_sub_cancel, show k + b + b - 1 = k + b - 1 + b by omega, Nat.add_div_right _ hb]
    exact (Nat.add_sub_cancel _ 1).symm
  · rw [Nat.sub_eq_zero_of_le hle, Nat.zero_add, Nat.div_eq_of_lt (by omega)]
    have hone : (a + b - 1) / b < 2 := (Nat.div_lt_iff_lt_mul hb).mpr (by omega)
    omega

theorem ceilDiv_pos_of_pos {a b : ℕ} (ha : 0 < a) (hb : 0 < b) : 0 < a ⌈/⌉ b := by
  rw [Nat.ceilDiv_eq_add_pred_div]
  exact Nat.div_pos (by omega) hb

namespace MouseAxis

/-- How far one report can move an axis toward a pending total. -/
def bound (o : MouseOptions) (axis : MouseAxis) (pending : ℤ) : ℤ :=
  if 0 < pending then (axis.field o).logicalMaximum.toInt
  else -(axis.field o).logicalMinimum.toInt

/-- The reports that a pending total needs. -/
def reports (o : MouseOptions) (axis : MouseAxis) (pending : ℤ) : ℕ :=
  pending.natAbs ⌈/⌉ (axis.bound o pending).toNat

theorem reports_zero (o : MouseOptions) (axis : MouseAxis) : axis.reports o 0 = 0 := by
  rw [reports, Int.natAbs_zero, zero_ceilDiv]

variable {o : MouseOptions} {axis : MouseAxis} {pending : ℤ}

theorem bound_pos (h : (axis.field o).Relative) (pending : ℤ) : 0 < axis.bound o pending := by
  have hneg := h.neg
  have hpos := h.pos
  rw [bound]
  split_ifs <;> omega

theorem reports_pos (h : (axis.field o).Relative) (hne : pending ≠ 0) :
    0 < axis.reports o pending :=
  ceilDiv_pos_of_pos (Int.natAbs_pos.mpr hne) (by have := bound_pos h pending; omega)

/-- **One report** takes the bound off the pending total. -/
theorem reports_sub_clamp (h : (axis.field o).Relative) {field : FieldLayout}
    (hmin : field.logicalMinimum = (axis.field o).logicalMinimum.toInt)
    (hmax : field.logicalMaximum = (axis.field o).logicalMaximum.toInt) (pending : ℤ) :
    axis.reports o (pending - clampToField pending field) = axis.reports o pending - 1 := by
  have hneg := h.neg
  have hpos := h.pos
  have hbound := bound_pos h pending
  have hrest : (pending - clampToField pending field).natAbs =
      pending.natAbs - (axis.bound o pending).toNat := by
    rw [clampToField, bound, hmin, hmax]
    split_ifs <;> omega
  rcases eq_or_ne (pending - clampToField pending field) 0 with hzero | hne
  · rw [hzero] at hrest ⊢
    rw [reports_zero, reports, ← ceilDiv_sub_self (by omega), ← hrest, Int.natAbs_zero,
      zero_ceilDiv]
  · have hsame : axis.bound o (pending - clampToField pending field) = axis.bound o pending := by
      have hsign : 0 < pending - clampToField pending field ↔ 0 < pending := by
        rw [clampToField, hmin, hmax] at hne ⊢
        split_ifs at hne ⊢ <;> omega
      rw [bound, bound]
      simp only [hsign]
    rw [reports, reports, hsame, hrest, ceilDiv_sub_self (by omega)]

end MouseAxis

/-! ### Undeclared axes -/

/-- An axis that the options do not declare never moves. -/
def Node.Confined (o : MouseOptions) (node : Node) : Prop :=
  ∀ axis : MouseAxis, ¬axis.IsDeclared o → axis.pending node = 0 ∧ axis.submitted node = 0

section Confined

variable {node node' : Node} {c : MouseConfig}

theorem Node.Same.confined (h : node.Same node') (hconfined : node.Confined c.options) :
    node'.Confined c.options := by
  intro axis haxis
  obtain ⟨hpending, hsubmitted⟩ := hconfined axis haxis
  refine ⟨?_, ?_⟩
  · rw [MouseAxis.pending, h.state]
    exact hpending
  · rw [← hsubmitted]
    cases axis
    · exact h.dx
    · exact h.dy
    · exact h.wheel
    · exact h.pan

theorem add_zero_of_addChecked {target next : ℤ} (h : addChecked target 0 = some next) :
    next = target := by
  rw [addChecked] at h
  split_ifs at h
  cases h
  exact add_zero target

/-- A call leaves the undeclared axes. -/
theorem CallStep.confined {call : Call} {mouse : MouseState} {state : NodeState} {changed : Bool}
    (hstep : CallStep (.mouse c) call (.mouse mouse) state changed) {axis : MouseAxis}
    (haxis : ¬axis.IsDeclared c.options) :
    ∃ next, state = .mouse next ∧ axis.total next = axis.total mouse := by
  cases hstep with
  | keep => exact ⟨mouse, rfl, rfl⟩
  | mouseMove hdx hdy =>
    refine ⟨_, rfl, ?_⟩
    cases axis with
    | x | y => exact absurd trivial haxis
    | wheel | pan => rfl
  | mouseScroll hwheel hpan hnextWheel hnextPan =>
    refine ⟨_, rfl, ?_⟩
    cases axis with
    | x | y => exact absurd trivial haxis
    | wheel =>
      rw [hwheel.resolve_right haxis] at hnextWheel
      exact add_zero_of_addChecked hnextWheel
    | pan =>
      rw [hpan.resolve_right haxis] at hnextPan
      exact add_zero_of_addChecked hnextPan
  | mouseButton hpress =>
    refine ⟨_, rfl, ?_⟩
    cases axis <;> rfl

/-- The fragment of an undeclared axis. -/
theorem fragment_of_not_declared (hsound : node.spec.Sound) (hconfig : node.spec.config = .mouse c)
    {axis : MouseAxis} (haxis : ¬axis.IsDeclared c.options) : axis.fragment node = 0 := by
  rcases axis.fieldsOf_declared hsound hconfig with ⟨-, hnone⟩ | ⟨hdeclared, -⟩
  · rw [MouseAxis.fragment, hnone]
    rfl
  · exact absurd hdeclared haxis

theorem Node.Confined.perform (h : node.Confined c.options) (hfits : node.Fits)
    (hconfig : node.spec.config = .mouse c) (call : Call) (link : Link) :
    (call.perform link node).2.Confined c.options := by
  obtain ⟨mouse, hstate⟩ := hfits.exists_mouse hconfig
  rcases call.perform_cases hfits.fitting link with
    ⟨reply, -, heq⟩ | ⟨state, changed, -, hstep, heq⟩
  · rw [heq]
    exact h
  · rw [heq]
    rw [hconfig, hstate] at hstep
    intro axis haxis
    obtain ⟨next, rfl, hnext⟩ := hstep.confined haxis
    obtain ⟨hpending, hsubmitted⟩ := h axis haxis
    rw [axis.pending_of_state hstate] at hpending
    refine ⟨hnext.trans hpending, ?_⟩
    rw [← hsubmitted]
    cases axis <;> rfl

theorem Node.Confined.sent (h : node.Confined c.options) (hfits : node.Fits)
    (hconfig : node.spec.config = .mouse c) (hidle : node.transferInflight = false) (now : ℤ) :
    (node.sent now).Confined c.options := by
  intro axis haxis
  rw [pending_sent axis hfits hconfig, submitted_sent axis hfits hconfig hidle,
    fragment_of_not_declared hfits.sound hconfig haxis]
  exact ⟨(h axis haxis).1, rfl⟩

theorem submitted_transferComplete (axis : MouseAxis) (result : Result) (nativeStatus : ℤ) :
    axis.submitted (transferComplete node result nativeStatus) = 0 := by
  rw [transferComplete]
  split_ifs <;> cases axis <;> rfl

theorem Node.Confined.transferComplete (h : node.Confined c.options) (hfits : node.Fits)
    (hconfig : node.spec.config = .mouse c) (result : Result) (nativeStatus : ℤ) :
    (transferComplete node result nativeStatus).Confined c.options := by
  intro axis haxis
  obtain ⟨hpending, hsubmitted⟩ := h axis haxis
  rw [pending_transferComplete hfits hconfig, submitted_transferComplete, hpending, hsubmitted,
    sub_zero, ite_self]
  exact ⟨rfl, rfl⟩

theorem Node.Confined.makeNeutral (h : node.Confined c.options) (hfits : node.Fits)
    (hconfig : node.spec.config = .mouse c) : (makeNeutral node).Confined c.options := by
  obtain ⟨mouse, hstate⟩ := hfits.exists_mouse hconfig
  intro axis haxis
  have hneutral : (LibaoaHid.makeNeutral node).state = .mouse (neutralizeMouse mouse).1 := by
    rw [LibaoaHid.makeNeutral, neutralizeState, hstate]
  rw [axis.pending_of_state hneutral]
  refine ⟨by cases axis <;> rfl, ?_⟩
  rw [← (h axis haxis).2]
  cases axis <;> rfl

/-- **Undeclared axes never move.** -/
theorem Reachable.confined {spec : Spec} (hspec : Generated spec) (hconfig : spec.config = .mouse c)
    (h : Reachable spec node) : node.Confined c.options := by
  induction h with
  | @opened hidId node h =>
    obtain ⟨hmoving, hbalance⟩ := moving_opened hspec.sound hconfig
      (show System.opened spec hidId = some { node } by rw [System.opened, h]; rfl)
    intro axis _
    have hzero := hbalance axis
    rw [MouseAxis.balance] at hzero
    refine ⟨by simpa [MouseAxis.applied] using hzero, ?_⟩
    obtain ⟨state, -, rfl⟩ := Option.map_eq_some_iff.mp h
    cases axis <;> rfl
  | @call node h call link ih =>
    obtain ⟨hfits, hspecEq⟩ := h.fits hspec
    exact ih.perform hfits (hspecEq ▸ hconfig) call link
  | @submit node h env ih =>
    obtain ⟨hfits, hspecEq⟩ := h.fits hspec
    rcases nodeSubmit_cases hfits env with ⟨-, hsame⟩ | ⟨report, heq, hcallable, -, -⟩
    · exact hsame.confined ih
    · rw [heq]
      exact ih.sent hfits (hspecEq ▸ hconfig) hcallable.idle env.now
  | complete h _ result nativeStatus ih =>
    obtain ⟨hfits, hspecEq⟩ := h.fits hspec
    exact ih.transferComplete hfits (hspecEq ▸ hconfig) result nativeStatus
  | neutral h ih =>
    obtain ⟨hfits, hspecEq⟩ := h.fits hspec
    exact ih.makeNeutral hfits (hspecEq ▸ hconfig)
  | consume h field ih => exact (same_consumeCompletion _ field).confined ih

end Confined

/-! ### One report -/

/-- The most reports that an axis needs. -/
def Node.mostReports (o : MouseOptions) (node : Node) : ℕ :=
  max (max (MouseAxis.x.reports o (MouseAxis.x.pending node))
      (MouseAxis.y.reports o (MouseAxis.y.pending node)))
    (max (MouseAxis.wheel.reports o (MouseAxis.wheel.pending node))
      (MouseAxis.pan.reports o (MouseAxis.pan.pending node)))

theorem reports_le_mostReports {node : Node} (o : MouseOptions) (axis : MouseAxis) :
    axis.reports o (axis.pending node) ≤ node.mostReports o := by
  rw [Node.mostReports]
  cases axis with
  | x => exact le_max_of_le_left (le_max_left _ _)
  | y => exact le_max_of_le_left (le_max_right _ _)
  | wheel => exact le_max_of_le_right (le_max_left _ _)
  | pan => exact le_max_of_le_right (le_max_right _ _)

/-- The reports that a dirty mouse needs. -/
def Node.drainReports (o : MouseOptions) (node : Node) : ℕ := max 1 (node.mostReports o)

/-- The reports that a mouse still needs. -/
def Node.remaining (o : MouseOptions) (node : Node) : ℕ :=
  if node.dirty then node.drainReports o else 0

section Step

variable {node : Node} {c : MouseConfig} {spec : Spec}

/-- The Node behind a report that completed. -/
def Node.delivered (node : Node) (now : ℤ) : Node := transferComplete (node.sent now) .ok 0

theorem pending_delivered (axis : MouseAxis) (hfits : node.Fits)
    (hconfig : node.spec.config = .mouse c) (hdirty : node.dirty = true)
    (hidle : node.transferInflight = false) (now : ℤ) :
    axis.pending (node.delivered now) = axis.pending node - axis.fragment node := by
  have hsent := hfits.sent hdirty now
  have hconfig' : (node.sent now).spec.config = .mouse c := by rw [Node.sent_spec, hconfig]
  rw [Node.delivered, pending_transferComplete hsent hconfig', if_pos (by decide),
    pending_sent axis hfits hconfig, submitted_sent axis hfits hconfig hidle]

/-- The Node is dirty again when something is pending. -/
theorem dirty_delivered (hfits : node.Fits) (hconfig : node.spec.config = .mouse c)
    (hdirty : node.dirty = true) (now : ℤ) : (node.delivered now).dirty = true ↔
      ∃ axis : MouseAxis, axis.pending (node.delivered now) ≠ 0 := by
  have hsent := hfits.sent hdirty now
  obtain ⟨mouse, hstate⟩ := hsent.exists_mouse (by rw [Node.sent_spec, hconfig])
  have hexists : (∃ axis : MouseAxis, axis.pending (node.delivered now) ≠ 0) ↔
      MouseAxis.x.pending (node.delivered now) ≠ 0 ∨ MouseAxis.y.pending (node.delivered now) ≠ 0 ∨
        MouseAxis.wheel.pending (node.delivered now) ≠ 0 ∨
        MouseAxis.pan.pending (node.delivered now) ≠ 0 := by
    constructor
    · rintro ⟨axis, haxis⟩
      cases axis <;> simp [haxis]
    · rintro (h | h | h | h) <;> exact ⟨_, h⟩
  rw [hexists, Node.delivered]
  generalize node.sent now = sent at hstate
  simp [transferComplete, mayHaveApplied, Node.publishCompletion, completeState, hstate,
    MouseAxis.pending, MouseAxis.total, consumeLifecycleTransitions, or_assoc]

/-- The reports that an axis needs behind a report. -/
theorem reports_delivered (hreach : Reachable spec node) (hspec : Generated spec)
    (hconfig : spec.config = .mouse c) (hdirty : node.dirty = true)
    (hidle : node.transferInflight = false) (now : ℤ) (axis : MouseAxis) :
    axis.reports c.options (axis.pending (node.delivered now)) =
        axis.reports c.options (axis.pending node) - 1 ∧
      (axis.pending (node.delivered now) ≠ 0 →
        0 < axis.reports c.options (axis.pending (node.delivered now))) := by
  have hconfined := hreach.confined hspec hconfig axis
  obtain ⟨hfits, rfl⟩ := hreach.fits hspec
  rw [pending_delivered axis hfits hconfig hdirty hidle]
  rcases axis.fieldsOf_declared hfits.sound hconfig with
    ⟨haxis, hnone⟩ | ⟨-, field, hone, hrelative, hmin, hmax⟩
  · rw [fragment_of_not_declared hfits.sound hconfig haxis, (hconfined haxis).1, sub_zero,
      MouseAxis.reports_zero]
    exact ⟨rfl, fun hne => absurd rfl hne⟩
  · have hfragment : axis.fragment node = clampToField (axis.pending node) field := by
      rw [MouseAxis.fragment, hone, List.map_singleton, List.sum_singleton]
    rw [hfragment]
    exact ⟨MouseAxis.reports_sub_clamp hrelative hmin hmax _,
      fun hne => MouseAxis.reports_pos hrelative hne⟩

/-- **One report.** The reports that the Node needs fall by one, and it is clean when nothing is
pending. -/
theorem remaining_delivered (hreach : Reachable spec node) (hspec : Generated spec)
    (hconfig : spec.config = .mouse c) (hdirty : node.dirty = true)
    (hidle : node.transferInflight = false) (now : ℤ) :
    (node.delivered now).remaining c.options + 1 = node.remaining c.options ∧
      ((node.delivered now).dirty = false →
        ∀ axis : MouseAxis, axis.pending (node.delivered now) = 0) := by
  have haxes := reports_delivered hreach hspec hconfig hdirty hidle now
  obtain ⟨hfits, hspecEq⟩ := hreach.fits hspec
  have hdirtyIff := dirty_delivered hfits (hspecEq ▸ hconfig) hdirty now
  have hzero (h : (node.delivered now).dirty = false) (axis : MouseAxis) :
      axis.pending (node.delivered now) = 0 := by
    by_contra hne
    rw [hdirtyIff.mpr ⟨axis, hne⟩] at h
    cases h
  refine ⟨?_, hzero⟩
  have hmost : (node.delivered now).mostReports c.options = node.mostReports c.options - 1 := by
    rw [Node.mostReports, Node.mostReports, (haxes .x).1, (haxes .y).1, (haxes .wheel).1,
      (haxes .pan).1]
    simp only [Nat.sub_max_sub_right]
  rw [Node.remaining, Node.remaining, if_pos hdirty, Node.drainReports, Node.drainReports]
  cases hnext : (node.delivered now).dirty with
  | false =>
    have hnone : (node.delivered now).mostReports c.options = 0 := by
      rw [Node.mostReports]
      simp only [hzero hnext, MouseAxis.reports_zero, max_self]
    rw [if_neg (by simp)]
    omega
  | true =>
    obtain ⟨axis, hne⟩ := hdirtyIff.mp hnext
    have hpos := lt_of_lt_of_le ((haxes axis).2 hne) (reports_le_mostReports c.options axis)
    rw [if_pos rfl]
    omega

end Step

/-! ### Reports in a row -/

/-- The surroundings of a submit that is accepted: no deferred error, a slot for the report, and
libusb. -/
structure SubmitEnv.Accepting (env : SubmitEnv) (spec : Spec) : Prop where
  deferred : env.deferred = none
  slot : ∃ payload, env.acquire = .ok payload ∧ spec.layout.wireBytes ≤ payload.length
  accepted : env.rejection = none

namespace System

/-- A submit whose report completes. -/
def deliver (s : System) (env : SubmitEnv) : System :=
  (s.submit env).2.complete .completed s.node.spec.layout.wireBytes

/-- Submits whose reports complete, one behind the other. -/
def deliverAll (s : System) (envs : List SubmitEnv) : System := envs.foldl deliver s

/-- Every one of these submits is accepted. -/
def AllAccepted : System → List SubmitEnv → Prop
  | _, [] => True
  | s, env :: envs =>
    (nodeSubmit s.node env).accepted.isSome = true ∧ AllAccepted (s.deliver env) envs

end System

section Rounds

variable {spec : Spec} {c : MouseConfig} {s : System} {env : SubmitEnv}

/-- No Node of a run before a close is closed. -/
theorem Reachable.open {node : Node} (hspec : Generated spec) (h : Reachable spec node) :
    node.closed = false := by
  induction h with
  | opened h =>
    obtain ⟨state, -, rfl⟩ := Option.map_eq_some_iff.mp h
    rfl
  | call h call link ih =>
    rcases call.perform_cases (h.fits hspec).1.fitting link with
      ⟨_, -, heq⟩ | ⟨_, _, hcallable, -, heq⟩
    · rw [heq]
      exact ih
    · rw [heq]
      exact hcallable.closed
  | @submit node h env ih =>
    rcases nodeSubmit_cases (h.fits hspec).1 env with ⟨-, hsame⟩ | ⟨_, heq, -, -, -⟩
    · exact hsame.closed.trans ih
    · rw [heq]
      exact (Node.sent_closed node env.now).trans ih
  | complete _ _ result nativeStatus ih =>
    exact (System.transferComplete_spec_dirty _ result nativeStatus).2.1.trans ih
  | neutral _ ih => exact ih
  | consume _ field ih => exact (same_consumeCompletion _ field).closed.trans ih

/-- A submit that is accepted. -/
theorem submit_of_accepted {node : Node} (hfits : node.Fits)
    (h : (nodeSubmit node env).accepted.isSome = true) : ∃ report,
      nodeSubmit node env = { reply := .ok, node := node.sent env.now, accepted := some report } ∧
      node.Callable ∧ node.dirty = true ∧ report.length = node.spec.layout.wireBytes := by
  rcases nodeSubmit_cases hfits env with ⟨hnone, -⟩ | ⟨report, heq, hcallable, hdirty, hcarries⟩
  · rw [hnone] at h
    cases h
  · exact ⟨report, heq, hcallable, hdirty, hcarries.length⟩

/-- A dirty idle Node without an unreported completion is accepted where nothing refuses. -/
theorem accepted_of_accepting {node : Node} (hfits : node.Fits) (hopen : node.closed = false)
    (hkind : node.spec.kind ≠ .raw) (hdirty : node.dirty = true)
    (hidle : node.transferInflight = false) (hok : node.completionResult = .ok)
    (henv : env.Accepting node.spec) : (nodeSubmit node env).accepted.isSome = true := by
  obtain ⟨payload, hacquire, hpayload⟩ := henv.slot
  have hconsumed : consumeCompletion node "node.completion" =
      (.ok, (consumeCompletion node "node.completion").2) := by
    rw [consumeCompletion, if_pos hok]
  have hsame := same_consumeCompletion node "node.completion"
  rw [nodeSubmit, if_neg (by rw [hopen]; decide), if_neg hkind, henv.deferred]
  dsimp only
  rw [if_neg (by rw [hidle]; decide), hconsumed]
  dsimp only
  have hok' : ¬(Reply.ok.result ≠ .ok) := not_not.mpr rfl
  rw [if_neg hok', if_neg (by rw [hdirty]; decide), hacquire]
  rcases submitInto_of_le hfits hdirty env hpayload with ⟨report, -, heq, -⟩ | ⟨_, hrejection, -⟩
  · change (submitInto node.acquired env payload).accepted.isSome = true
    rw [heq]
    rfl
  · rw [henv.accepted] at hrejection
    cases hrejection

/-- A report that is accepted and completes. -/
theorem deliver_eq (hspec : Generated spec) (hreach : Reachable spec s.node)
    (hwire : s.inflight = none) (haccepted : (nodeSubmit s.node env).accepted.isSome = true) :
    ∃ report, s.deliver env =
        { node := s.node.delivered env.now, wire := s.wire ++ [⟨report, .ok⟩], inflight := none } ∧
      s.node.dirty = true ∧ s.node.transferInflight = false ∧
      Reachable spec (s.node.delivered env.now) := by
  obtain ⟨report, heq, hcallable, hdirty, hlength⟩ :=
    submit_of_accepted (hreach.fits hspec).1 haccepted
  refine ⟨report, ?_, hdirty, hcallable.idle, ?_⟩
  · have hsubmit : (s.submit env).2 =
        { s with node := s.node.sent env.now, inflight := some report } := by
      rw [System.submit, heq, hwire]
      rfl
    rw [System.deliver, hsubmit, System.complete_eq rfl, hlength, completionResult, if_pos rfl]
    rfl
  · have hsent := hreach.submit env
    rw [heq] at hsent
    exact hsent.complete (Node.sent_transferInflight _ _) .ok 0

/-- **Reports in a row.** Each takes one off the reports that the Node needs. -/
theorem deliverAll_remaining (hspec : Generated spec) (hconfig : spec.config = .mouse c)
    {envs : List SubmitEnv} (hreach : Reachable spec s.node) (hwire : s.inflight = none)
    (haccepted : s.AllAccepted envs) :
    (s.deliverAll envs).wire.length = s.wire.length + envs.length ∧
      (s.deliverAll envs).node.remaining c.options + envs.length = s.node.remaining c.options ∧
      (envs ≠ [] → (s.deliverAll envs).node.dirty = false →
        ∀ axis : MouseAxis, axis.pending (s.deliverAll envs).node = 0) := by
  induction envs generalizing s with
  | nil => exact ⟨rfl, rfl, fun hne => absurd rfl hne⟩
  | cons env envs ih =>
    obtain ⟨report, hdeliver, hdirty, hidle, hnext⟩ := deliver_eq hspec hreach hwire haccepted.1
    obtain ⟨hremaining, hzero⟩ := remaining_delivered hreach hspec hconfig hdirty hidle env.now
    have hrest := haccepted.2
    have hall : s.deliverAll (env :: envs) = (s.deliver env).deliverAll envs := rfl
    rw [hall]
    rw [hdeliver] at hrest ⊢
    obtain ⟨hlength, hsum, hclean⟩ := ih hnext rfl hrest
    refine ⟨?_, ?_, fun _ => ?_⟩
    · rw [hlength, List.length_append, List.length_singleton, List.length_cons]
      omega
    · rw [List.length_cons]
      change _ = (s.node.delivered env.now).remaining c.options at hsum
      omega
    · cases envs with
      | nil => exact hzero
      | cons => exact hclean (List.cons_ne_nil _ _)

/-- Submits that nothing refuses are accepted as long as the Node is dirty. -/
theorem allAccepted_of_accepting (hspec : Generated spec) (hconfig : spec.config = .mouse c)
    {envs : List SubmitEnv} (hreach : Reachable spec s.node) (hwire : s.inflight = none)
    (hidle : s.node.transferInflight = false) (hok : s.node.completionResult = .ok)
    (henvs : ∀ env ∈ envs, env.Accepting spec)
    (hlength : envs.length ≤ s.node.remaining c.options) : s.AllAccepted envs := by
  induction envs generalizing s with
  | nil => trivial
  | cons env envs ih =>
    obtain ⟨hfits, hspecEq⟩ := hreach.fits hspec
    have hdirty : s.node.dirty = true := by
      by_contra hclean
      rw [Node.remaining, if_neg hclean, List.length_cons] at hlength
      omega
    have hkind : s.node.spec.kind ≠ .raw := by
      intro hraw
      have haccepted := hfits.sound.accepted
      rw [hraw, hspecEq, hconfig] at haccepted
      exact haccepted
    have haccepted := accepted_of_accepting hfits (hreach.open hspec) hkind hdirty hidle hok
      (hspecEq ▸ henvs env List.mem_cons_self)
    obtain ⟨report, hdeliver, -, -, hnext⟩ := deliver_eq hspec hreach hwire haccepted
    obtain ⟨hremaining, -⟩ := remaining_delivered hreach hspec hconfig hdirty hidle env.now
    refine ⟨haccepted, ?_⟩
    rw [hdeliver]
    rw [List.length_cons] at hlength
    refine ih hnext rfl (System.transferComplete_spec_dirty _ _ _).2.2
      (System.transferComplete_completionResult _ _ _)
      (fun env hmem => henvs env (List.mem_cons_of_mem _ hmem)) ?_
    change envs.length ≤ (s.node.delivered env.now).remaining c.options
    omega

end Rounds

/-! ### The blocking submit -/

/-- A turn in which nothing fails: its submit is accepted, and the report in flight completes or
stays in flight. -/
structure PollTurn.Delivers (turn : PollTurn) (spec : Spec) : Prop where
  submit : turn.submit.Accepting spec
  completion : turn.completion = none ∨
    turn.completion = some (.completed, spec.layout.wireBytes)
  noError : turn.eventError = none

/-- The completions that a turn delivers. -/
def PollTurn.completions (turn : PollTurn) : ℕ := if turn.completion.isSome then 1 else 0

/-- The completions before the last turn of a script. -/
def PollScript.completions (script : PollScript) : ℕ :=
  ((script.first :: script.rest).dropLast.map PollTurn.completions).sum

/-- An idle mouse that needs `n` reports, `total` with those on the wire. -/
structure System.Idle (s : System) (spec : Spec) (o : MouseOptions) (total n : ℕ) : Prop where
  reach : Reachable spec s.node
  wire : s.inflight = none
  idle : s.node.transferInflight = false
  completed : s.node.completionResult = .ok
  remaining : s.node.remaining o = n
  clean : s.node.dirty = false → ∀ axis : MouseAxis, axis.pending s.node = 0
  length : s.wire.length + n = total

/-- A mouse with a report in flight. -/
structure System.Sending (s : System) (spec : Spec) (o : MouseOptions) (total n : ℕ) : Prop where
  reach : Reachable spec s.node
  before : ∃ node now, Reachable spec node ∧ node.dirty = true ∧ node.transferInflight = false ∧
    node.remaining o = n ∧ s.node = node.sent now
  wire : ∃ report, s.inflight = some report ∧ report.length = spec.layout.wireBytes
  length : s.wire.length + n = total

section Loop

variable {spec : Spec} {c : MouseConfig} {s : System} {turn : PollTurn} {total n : ℕ}

theorem remaining_pos {o : MouseOptions} {node : Node} :
    0 < node.remaining o ↔ node.dirty = true := by
  rw [Node.remaining, Node.drainReports]
  split_ifs with hdirty
  · exact ⟨fun _ => hdirty, fun _ => lt_max_of_lt_left Nat.one_pos⟩
  · exact ⟨fun h => absurd h (Nat.lt_irrefl 0), fun h => absurd h hdirty⟩

theorem Node.Same.remaining {node node' : Node} (h : node.Same node') (o : MouseOptions) :
    node'.remaining o = node.remaining o := by
  have hpending (axis : MouseAxis) : axis.pending node' = axis.pending node := by
    rw [MouseAxis.pending, MouseAxis.pending, h.state]
  rw [Node.remaining, Node.remaining, h.dirty, Node.drainReports, Node.drainReports,
    Node.mostReports, Node.mostReports]
  simp only [hpending]

/-- Reading a completion leaves an idle mouse idle. -/
theorem System.Idle.consume (h : s.Idle spec c.options total n) (field : String) :
    (s.consume field).1 = .ok ∧ (s.consume field).2.Idle spec c.options total n := by
  have hsame := same_consumeCompletion s.node field
  refine ⟨?_, h.reach.consume field, h.wire, hsame.transferInflight.trans h.idle, ?_,
    (hsame.remaining _).trans h.remaining, fun hclean axis => ?_, h.length⟩
  · rw [System.consume, consumeCompletion, if_pos h.completed]
  · change (consumeCompletion s.node field).2.completionResult = .ok
    rw [consumeCompletion, if_pos h.completed]
  · have hzero := h.clean (hsame.dirty ▸ hclean) axis
    change axis.pending (consumeCompletion s.node field).2 = 0
    rwa [MouseAxis.pending, hsame.state]

/-- The submit of an idle dirty mouse. -/
theorem System.Idle.submit (hspec : Generated spec) (hconfig : spec.config = .mouse c)
    (h : s.Idle spec c.options total n) (hdirty : s.node.dirty = true) {env : SubmitEnv}
    (henv : env.Accepting spec) :
    (s.submit env).1 = .ok ∧ (s.submit env).2.Sending spec c.options total n := by
  obtain ⟨hfits, hspecEq⟩ := h.reach.fits hspec
  have haccepted : s.AllAccepted [env] :=
    allAccepted_of_accepting hspec hconfig h.reach h.wire h.idle h.completed
      (fun env' hmem => by rwa [List.mem_singleton.mp hmem]) (remaining_pos.mpr hdirty)
  obtain ⟨report, heq, -, -, hlength⟩ := submit_of_accepted hfits haccepted.1
  have hreach := h.reach.submit env
  rw [heq] at hreach
  rw [System.submit, heq]
  exact ⟨rfl, hreach, ⟨s.node, env.now, h.reach, hdirty, h.idle, h.remaining, rfl⟩,
    ⟨report, rfl, hspecEq ▸ hlength⟩, h.length⟩

/-- The event handling of a turn. -/
theorem System.Sending.poll (hspec : Generated spec) (hconfig : spec.config = .mouse c)
    (h : s.Sending spec c.options total n) (hturn : turn.Delivers spec) :
    (turn.completions = 0 ∧ (s.poll turn).Sending spec c.options total n) ∨
      (turn.completions = 1 ∧ ∃ k, n = k + 1 ∧ (s.poll turn).Idle spec c.options total k) := by
  rcases hturn.completion with hnone | hsome
  · refine .inl ⟨by rw [PollTurn.completions, hnone]; rfl, ?_⟩
    rwa [System.poll, hnone]
  · obtain ⟨node, now, hreach, hdirty, hidle, hremaining, hnode⟩ := h.before
    obtain ⟨report, hinflight, hlength⟩ := h.wire
    have hpoll : s.poll turn =
        { node := node.delivered now, wire := s.wire ++ [⟨report, .ok⟩], inflight := none } := by
      rw [System.poll, hsome]
      dsimp only
      rw [System.complete_eq hinflight, hlength, completionResult, if_pos rfl, hnode]
      rfl
    obtain ⟨hone, hclean⟩ := remaining_delivered hreach hspec hconfig hdirty hidle now
    have hsent : Reachable spec (node.sent now) := hnode ▸ h.reach
    refine .inr ⟨by rw [PollTurn.completions, hsome]; rfl, _, (hone.trans hremaining).symm, ?_⟩
    rw [hpoll]
    refine ⟨hsent.complete (Node.sent_transferInflight _ _) .ok 0, rfl,
      (System.transferComplete_spec_dirty _ _ _).2.2,
      System.transferComplete_completionResult _ _ _, rfl, hclean, ?_⟩
    have htotal := h.length
    rw [List.length_append, List.length_singleton]
    omega

/-- A turn with a report in flight goes on after its event handling. -/
theorem pollTurn_of_inflight (hbusy : s.node.transferInflight = true)
    (hturn : turn.Delivers spec) : pollTurn s turn = (none, s.poll turn) := by
  rw [pollTurn]
  dsimp only
  rw [if_pos hbusy, hturn.noError]

/-- **One turn.** A clean mouse ends the loop; else the completion of the turn takes one off the
reports that it needs. -/
theorem System.Idle.pollTurn (hspec : Generated spec) (hconfig : spec.config = .mouse c)
    (h : s.Idle spec c.options total n) (hturn : turn.Delivers spec) :
    (n = 0 ∧ (pollTurn s turn).1 = some .ok ∧
        (pollTurn s turn).2.Idle spec c.options total 0) ∨
      (0 < n ∧ ∃ sending : System, sending.Sending spec c.options total n ∧
        LibaoaHid.pollTurn s turn = (none, sending.poll turn)) := by
  obtain ⟨hreply, hidle⟩ := h.consume "node.completion"
  have hsplit : s.consume "node.completion" = (.ok, (s.consume "node.completion").2) :=
    Prod.ext hreply rfl
  have hok : ¬(Reply.ok.result ≠ .ok) := not_not.mpr rfl
  rw [LibaoaHid.pollTurn]
  dsimp only
  rw [if_neg (by rw [h.idle]; decide), hsplit]
  dsimp only
  rw [if_neg hok]
  generalize (s.consume "node.completion").2 = idle at hidle
  rcases Nat.eq_zero_or_pos n with rfl | hpos
  · have hclean : idle.node.dirty = false := by
      rw [Bool.eq_false_iff, Ne, ← remaining_pos (o := c.options), hidle.remaining]
      exact Nat.lt_irrefl 0
    rw [if_pos (by rw [hclean]; rfl)]
    exact .inl ⟨rfl, rfl, hidle⟩
  · have hdirty : idle.node.dirty = true := remaining_pos.mp (hidle.remaining ▸ hpos)
    obtain ⟨hreply', hsending⟩ := hidle.submit hspec hconfig hdirty hturn.submit
    have hsplit' : idle.submit turn.submit = (.ok, (idle.submit turn.submit).2) :=
      Prod.ext hreply' rfl
    rw [if_neg (by rw [hdirty]; decide), hsplit']
    dsimp only
    rw [if_neg (fun hfail => hok hfail.1), hturn.noError]
    exact .inr ⟨hpos, _, hsending, rfl⟩

/-- A mouse in the loop. -/
def System.Draining (s : System) (spec : Spec) (o : MouseOptions) (total n : ℕ) : Prop :=
  s.Idle spec o total n ∨ s.Sending spec o total n

theorem System.Sending.draining (hspec : Generated spec) (hconfig : spec.config = .mouse c)
    (h : s.Sending spec c.options total n) (hturn : turn.Delivers spec) :
    ∃ k, n = turn.completions + k ∧ (s.poll turn).Draining spec c.options total k := by
  rcases h.poll hspec hconfig hturn with ⟨hcount, hnext⟩ | ⟨hcount, k, hn, hnext⟩
  · exact ⟨n, by omega, .inr hnext⟩
  · exact ⟨k, by omega, .inl hnext⟩

theorem System.Draining.pollTurn (hspec : Generated spec) (hconfig : spec.config = .mouse c)
    (h : s.Draining spec c.options total n) (hturn : turn.Delivers spec) :
    (LibaoaHid.pollTurn s turn = (some .ok, (LibaoaHid.pollTurn s turn).2) ∧
        (LibaoaHid.pollTurn s turn).2.Idle spec c.options total 0) ∨
      (0 < n ∧ ∃ s' k, LibaoaHid.pollTurn s turn = (none, s') ∧ n = turn.completions + k ∧
        s'.Draining spec c.options total k) := by
  rcases h with hidle | hsending
  · rcases hidle.pollTurn hspec hconfig hturn with
      ⟨-, hreply, hend⟩ | ⟨hpos, sending, hsending, heq⟩
    · exact .inl ⟨Prod.ext hreply rfl, hend⟩
    · obtain ⟨k, hk, hnext⟩ := hsending.draining hspec hconfig hturn
      exact .inr ⟨hpos, _, k, heq, hk, hnext⟩
  · obtain ⟨node, now, -, hdirty, -, hremaining, hnode⟩ := hsending.before
    obtain ⟨k, hk, hnext⟩ := hsending.draining hspec hconfig hturn
    exact .inr ⟨hremaining ▸ remaining_pos.mpr hdirty, _, k,
      pollTurn_of_inflight (hnode ▸ Node.sent_transferInflight node now) hturn, hk, hnext⟩

/-- **The loop** ends once the reports that the mouse needs have completed. -/
theorem pollLoop_drains (hspec : Generated spec) (hconfig : spec.config = .mouse c)
    (rest : List PollTurn) (h : s.Draining spec c.options total n)
    (hturns : ∀ t ∈ turn :: rest, t.Delivers spec)
    (hcount : n ≤ ((turn :: rest).dropLast.map PollTurn.completions).sum) :
    (pollLoop s turn rest).1 = .ok ∧
      (pollLoop s turn rest).2.Idle spec c.options total 0 := by
  induction rest generalizing s turn n with
  | nil =>
    rcases h.pollTurn hspec hconfig (hturns turn List.mem_cons_self) with
      ⟨heq, hend⟩ | ⟨hpos, -⟩
    · rw [pollLoop, heq]
      exact ⟨rfl, hend⟩
    · exact absurd hpos (Nat.not_lt.mpr hcount)
  | cons next rest ih =>
    rcases h.pollTurn hspec hconfig (hturns turn List.mem_cons_self) with
      ⟨heq, hend⟩ | ⟨-, s', k, heq, hk, hnext⟩
    · rw [pollLoop, heq]
      exact ⟨rfl, hend⟩
    · rw [pollLoop, heq]
      rw [List.dropLast_cons_cons, List.map_cons, List.sum_cons] at hcount
      exact ih hnext (fun t hmem => hturns t (List.mem_cons_of_mem _ hmem)) (by omega)

end Loop

/-- **The drain of a mouse.** A dirty idle mouse accepts exactly `Node.drainReports` reports in a
row, is clean and without pending motion behind the last of them and not before, and a blocking
submit in which that many reports complete ends with it. -/
theorem mouse_drains {spec : Spec} {c : MouseConfig} {s : System} (hspec : Generated spec)
    (hconfig : spec.config = .mouse c) (hreach : Reachable spec s.node)
    (hwire : s.inflight = none) (hidle : s.node.transferInflight = false)
    (hdirty : s.node.dirty = true) :
    (∀ envs, s.AllAccepted envs →
      (s.deliverAll envs).wire.length = s.wire.length + envs.length ∧
      envs.length ≤ s.node.drainReports c.options ∧
      ((s.deliverAll envs).node.dirty = false ↔ envs.length = s.node.drainReports c.options) ∧
      (envs.length = s.node.drainReports c.options →
        ∀ axis : MouseAxis, axis.pending (s.deliverAll envs).node = 0)) ∧
    (s.node.completionResult = .ok →
      (∀ envs, (∀ env ∈ envs, env.Accepting spec) →
        envs.length ≤ s.node.drainReports c.options → s.AllAccepted envs) ∧
      ∀ script : PollScript, script.preflight = none →
        (∀ turn ∈ script.first :: script.rest, turn.Delivers spec) →
        s.node.drainReports c.options ≤ script.completions →
        (nodeSubmitBlocking s (some script)).1.result = .ok ∧
        (nodeSubmitBlocking s (some script)).2.node.dirty = false ∧
        (∀ axis : MouseAxis, axis.pending (nodeSubmitBlocking s (some script)).2.node = 0) ∧
        (nodeSubmitBlocking s (some script)).2.wire.length =
          s.wire.length + s.node.drainReports c.options) := by
  have hremaining : s.node.remaining c.options = s.node.drainReports c.options := by
    rw [Node.remaining, if_pos hdirty]
  refine ⟨fun envs haccepted => ?_, fun hok => ⟨fun envs henvs hlength => ?_,
    fun script hpreflight hturns hcount => ?_⟩⟩
  · obtain ⟨hlength, hsum, hclean⟩ := deliverAll_remaining hspec hconfig hreach hwire haccepted
    have hdone : (s.deliverAll envs).node.dirty = false ↔
        envs.length = s.node.drainReports c.options := by
      rw [Bool.eq_false_iff, Ne, ← remaining_pos (o := c.options)]
      omega
    refine ⟨hlength, by omega, hdone, fun hall => hclean ?_ (hdone.mpr hall)⟩
    rintro rfl
    have hpos := remaining_pos (o := c.options).mpr hdirty
    rw [List.length_nil] at hall
    omega
  · exact allAccepted_of_accepting hspec hconfig hreach hwire hidle hok henvs
      (hremaining ▸ hlength)
  · have hstart : s.Idle spec c.options (s.wire.length + s.node.drainReports c.options)
        (s.node.drainReports c.options) :=
      ⟨hreach, hwire, hidle, hok, hremaining, fun hclean => absurd hdirty (by rw [hclean]; decide),
        rfl⟩
    obtain ⟨hreply, hend⟩ := pollLoop_drains hspec hconfig script.rest (.inl hstart) hturns hcount
    have hclean : (pollLoop s script.first script.rest).2.node.dirty = false := by
      rw [Bool.eq_false_iff, Ne, ← remaining_pos (o := c.options), hend.remaining]
      exact Nat.lt_irrefl 0
    have hblocking : nodeSubmitBlocking s (some script) =
        (finishResult (pollLoop s script.first script.rest).1.error
          (pollLoop s script.first script.rest).1.result "node.submit_blocking"
          "The blocking report sequence failed.", (pollLoop s script.first script.rest).2) := by
      rw [nodeSubmitBlocking, if_neg (by rw [hreach.open hspec]; decide)]
      dsimp only
      rw [pollUntilIdle, hpreflight]
    rw [hblocking]
    refine ⟨?_, hclean, hend.clean hclean, hend.length⟩
    rw [finishResult_result, hreply]
    rfl

/-- A slot of eight bytes and a libusb that accepts. -/
def acceptingEnv : SubmitEnv := { acquire := .ok (List.replicate 8 0xFF) }

theorem accepting_acceptingEnv : acceptingEnv.Accepting sampleMouse :=
  ⟨rfl, ⟨_, rfl, by decide⟩, rfl⟩

theorem mouse_drains_movedMouse :
    movedMouse.drainReports sampleMouseOptions = 2 ∧
    (System.deliverAll { node := movedMouse } [acceptingEnv, acceptingEnv]).node.dirty = false ∧
    (nodeSubmitBlocking { node := movedMouse } (some {
      first := { submit := acceptingEnv, completion := some (.completed, 6) }
      rest := [{ submit := acceptingEnv, completion := some (.completed, 6) },
        { submit := acceptingEnv }] })).2.wire.length = 2 := by
  have hreports : movedMouse.drainReports sampleMouseOptions = 2 := by decide +kernel
  obtain ⟨hrows, hopen⟩ := mouse_drains (s := { node := movedMouse }) generated_sampleMouse
    (show sampleMouse.config = .mouse ⟨sampleMouseOptions⟩ from rfl) reachable_movedMouse rfl
    (by decide +kernel) (by decide +kernel)
  obtain ⟨haccepted, hblocking⟩ := hopen (by decide +kernel)
  dsimp only at hrows haccepted hblocking
  rw [hreports] at hrows haccepted hblocking
  have hall := haccepted [acceptingEnv, acceptingEnv]
    (by simp [accepting_acceptingEnv]) (by decide)
  refine ⟨hreports, (hrows _ hall).2.2.1.mpr rfl, ?_⟩
  refine (hblocking _ rfl ?_ (by decide)).2.2.2
  rintro turn hturn
  simp only [List.mem_cons, List.not_mem_nil, or_false] at hturn
  rcases hturn with rfl | rfl | rfl
  · exact ⟨accepting_acceptingEnv, .inr (by decide), rfl⟩
  · exact ⟨accepting_acceptingEnv, .inr (by decide), rfl⟩
  · exact ⟨accepting_acceptingEnv, .inl rfl, rfl⟩

end LibaoaHid

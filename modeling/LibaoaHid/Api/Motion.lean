import LibaoaHid.Profiles.Readings
import LibaoaHid.Api.Reachable

/-!
# Conservation of mouse motion

The relative axes of a mouse. A call adds to the pending total of an axis, a report takes a
fragment of it, and the completion of a report that may have been applied subtracts the fragment.
Nothing is counted twice or dropped: what the calls asked for is what the target may have moved
by, plus what is pending.

## Main definitions

* `MouseAxis`: the four axes.
* `MouseAxis.applied`: the motion in the reports that may have been applied.
* `System.requested`: the motion that the calls of a run asked for.

## Main results

* `System.balance_run`: the balance of a run.
* `motion_conserved`.
-/

namespace LibaoaHid

open Relation

/-! ### Axes -/

/-- The relative axes of a mouse. -/
inductive MouseAxis
  | x
  | y
  | wheel
  | pan
  deriving DecidableEq, Repr

namespace MouseAxis

/-- The semantic of the fields of an axis. -/
def semantic : MouseAxis → FieldSemantic
  | .x => .x
  | .y => .y
  | .wheel => .wheel
  | .pan => .pan

/-- The pending total of a mouse state. -/
def total (mouse : MouseState) : MouseAxis → ℤ
  | .x => mouse.dx
  | .y => mouse.dy
  | .wheel => mouse.wheel
  | .pan => mouse.pan

/-- The pending total of a Node. -/
def pending (axis : MouseAxis) (node : Node) : ℤ :=
  match node.state with
  | .mouse mouse => axis.total mouse
  | _ => 0

/-- The scratch field of the report in flight. -/
def submitted (node : Node) : MouseAxis → ℤ
  | .x => node.submittedDx
  | .y => node.submittedDy
  | .wheel => node.submittedWheel
  | .pan => node.submittedPan

theorem pending_of_state (axis : MouseAxis) {node : Node} {mouse : MouseState}
    (h : node.state = .mouse mouse) : axis.pending node = axis.total mouse := by
  rw [pending, h]

/-- What a call adds to the pending total. -/
def delta (axis : MouseAxis) : Call → ℤ
  | .mouseMove dx dy =>
    match axis with
    | .x => dx.toInt
    | .y => dy.toInt
    | _ => 0
  | .mouseScroll vertical horizontal =>
    match axis with
    | .wheel => vertical.toInt
    | .pan => horizontal.toInt
    | _ => 0
  | _ => 0

/-- The motion in one report: the value of the field of the axis, if it is declared. -/
def motion (axis : MouseAxis) (layout : ReportLayout) (report : List UInt8) : ℤ :=
  ((layout.fieldsOf axis.semantic).map (fieldReading report)).sum

/-- The motion in the completed reports that may have been applied. -/
def applied (axis : MouseAxis) (layout : ReportLayout) (wire : List Transmission) : ℤ :=
  ((wire.filter fun t => t.MayHaveApplied).map fun t => axis.motion layout t.report).sum

/-- The fragment that the next report takes of the pending total. -/
def fragment (axis : MouseAxis) (node : Node) : ℤ :=
  ((node.spec.layout.fieldsOf axis.semantic).map (clampToField (axis.pending node))).sum

/-- The motion of the applied reports and the pending total. -/
def balance (axis : MouseAxis) (s : System) : ℤ :=
  axis.applied s.node.spec.layout s.wire + axis.pending s.node

end MouseAxis

/-- The motion that an event asks for: the delta of a call that returns `AOAHID_OK`. -/
def System.granted (axis : MouseAxis) (s : System) : Event → ℤ
  | .call c link => if (s.call c link).1.result = .ok then axis.delta c else 0
  | _ => 0

/-- The motion that the calls of a run ask for. -/
def System.requested (axis : MouseAxis) : System → List Event → ℤ
  | _, [] => 0
  | s, e :: events => s.granted axis e + System.requested axis (s.step e) events

/-- `int64_t`. -/
def Int64Range (n : ℤ) : Prop := -2 ^ 63 ≤ n ∧ n ≤ 2 ^ 63 - 1

/-- A fragment is zero, or has the sign of the pending total and at most its magnitude. -/
def FragmentOf (pending fragment : ℤ) : Prop :=
  fragment = 0 ∨ fragment.sign = pending.sign ∧ fragment.natAbs ≤ pending.natAbs

/-! ### The fields of an axis -/

section Fields

variable {spec : Spec} {c : MouseConfig}

/-- The declaration of an axis. -/
private def MouseAxis.decls (o : MouseOptions) : MouseAxis → List FieldDecl
  | .x => [integerDecl .x 0 o.x]
  | .y => [integerDecl .y 0 o.y]
  | .wheel => optionalDecl o.enableWheel .wheel 0 o.wheel
  | .pan => optionalDecl o.enablePan .pan 0 o.pan

private theorem filter_declaredFields (axis : MouseAxis) (c : MouseConfig) :
    (SpecConfig.mouse c).declaredFields.filter (fun d => d.semantic = axis.semantic) =
      axis.decls c.options := by
  have hbuttons : (bitDecls .buttons c.options.buttonCount.toNat).filter
      (fun d => d.semantic = axis.semantic) = [] := by
    rw [List.filter_eq_nil_iff]
    intro d hd
    obtain ⟨index, -, rfl⟩ := mem_bitDecls.mp hd
    cases axis <;> simp [bitDecl, MouseAxis.semantic]
  simp only [SpecConfig.declaredFields, List.filter_append, hbuttons, List.nil_append]
  cases axis <;>
    simp [MouseAxis.semantic, MouseAxis.decls, integerDecl, optionalDecl, apply_ite]

/-- The options of an axis. -/
def MouseAxis.field (o : MouseOptions) : MouseAxis → IntegerField
  | .x => o.x
  | .y => o.y
  | .wheel => o.wheel
  | .pan => o.pan

/-- The options declare the axis. -/
def MouseAxis.IsDeclared (o : MouseOptions) : MouseAxis → Prop
  | .x | .y => True
  | .wheel => o.enableWheel = 1
  | .pan => o.enablePan = 1

/-- An axis has no field, or one with the declared logical range, on both sides of zero. -/
theorem MouseAxis.fieldsOf_declared (hsound : spec.Sound) (hconfig : spec.config = .mouse c)
    (axis : MouseAxis) :
    ¬axis.IsDeclared c.options ∧ spec.layout.fieldsOf axis.semantic = [] ∨
    axis.IsDeclared c.options ∧ ∃ field, spec.layout.fieldsOf axis.semantic = [field] ∧
      (axis.field c.options).Relative ∧
      field.logicalMinimum = (axis.field c.options).logicalMinimum.toInt ∧
      field.logicalMaximum = (axis.field c.options).logicalMaximum.toInt := by
  have ho : c.options.Accepted := by
    have := hsound.accepted
    rw [hconfig] at this
    cases hkind : spec.kind <;> rw [hkind] at this <;> first | exact this.elim | exact this
  have hdecls := hsound.map_decl_fieldsOf
    (show axis.semantic ≠ .constantPadding by cases axis <;> simp [semantic])
  rw [hconfig, filter_declaredFields] at hdecls
  have hone (declared : IntegerField) (hrelative : declared.Relative)
      (h : (spec.layout.fieldsOf axis.semantic).map (·.decl) =
        [integerDecl axis.semantic 0 declared]) :
      ∃ field, spec.layout.fieldsOf axis.semantic = [field] ∧ declared.Relative ∧
        field.logicalMinimum = declared.logicalMinimum.toInt ∧
        field.logicalMaximum = declared.logicalMaximum.toInt := by
    obtain ⟨field, hfield, hdecl⟩ := List.map_eq_singleton_iff.mp h
    obtain ⟨-, -, hmin, hmax, -⟩ := FieldLayout.eq_of_decl hdecl
    exact ⟨field, hfield, hrelative, hmin, hmax⟩
  have hoptional (enable : UInt32) (declared : IntegerField)
      (hrelative : enable = 1 → declared.Relative)
      (h : (spec.layout.fieldsOf axis.semantic).map (·.decl) =
        optionalDecl enable axis.semantic 0 declared) :
      ¬enable = 1 ∧ spec.layout.fieldsOf axis.semantic = [] ∨
      enable = 1 ∧ ∃ field, spec.layout.fieldsOf axis.semantic = [field] ∧ declared.Relative ∧
        field.logicalMinimum = declared.logicalMinimum.toInt ∧
        field.logicalMaximum = declared.logicalMaximum.toInt := by
    by_cases henable : enable = 1
    · rw [optionalDecl, if_pos henable] at h
      exact Or.inr ⟨henable, hone declared (hrelative henable) h⟩
    · rw [optionalDecl, if_neg henable] at h
      exact Or.inl ⟨henable, List.map_eq_nil_iff.mp h⟩
  cases axis with
  | x => exact Or.inr ⟨trivial, hone c.options.x ho.x hdecls⟩
  | y => exact Or.inr ⟨trivial, hone c.options.y ho.y hdecls⟩
  | wheel => exact hoptional c.options.enableWheel c.options.wheel ho.wheel hdecls
  | pan => exact hoptional c.options.enablePan c.options.pan ho.pan hdecls

/-- An axis has at most one field, with a logical range on both sides of zero. -/
theorem MouseAxis.fieldsOf_cases (hsound : spec.Sound) (hconfig : spec.config = .mouse c)
    (axis : MouseAxis) :
    spec.layout.fieldsOf axis.semantic = [] ∨
    ∃ field, spec.layout.fieldsOf axis.semantic = [field] ∧ field.logicalMinimum < 0 ∧
      0 < field.logicalMaximum := by
  refine (axis.fieldsOf_declared hsound hconfig).imp And.right ?_
  rintro ⟨-, field, hfield, hrelative, hmin, hmax⟩
  exact ⟨field, hfield, hmin ▸ hrelative.neg, hmax ▸ hrelative.pos⟩

/-- A total that is clamped to a range around zero is a fragment. -/
theorem fragmentOf_clampToField (pending : ℤ) {field : FieldLayout}
    (hmin : field.logicalMinimum < 0) (hmax : 0 < field.logicalMaximum) :
    FragmentOf pending (clampToField pending field) := by
  unfold clampToField FragmentOf
  split_ifs with hlow hhigh
  · right
    rw [Int.sign_eq_neg_one_of_neg hmin, Int.sign_eq_neg_one_of_neg (hlow.trans hmin)]
    omega
  · right
    rw [Int.sign_eq_one_of_pos hmax, Int.sign_eq_one_of_pos (hmax.trans hhigh)]
    omega
  · exact Or.inr ⟨rfl, le_rfl⟩

end Fields

/-! ### Recording the fragments -/

/-- The semantics that a mouse declares. -/
private def MouseField (field : FieldLayout) : Prop :=
  field.semantic = .buttons ∨ field.semantic = .x ∨ field.semantic = .y ∨
    field.semantic = .wheel ∨ field.semantic = .pan ∨ field.semantic = .constantPadding

private theorem mouseField_of_mem {spec : Spec} {c : MouseConfig} (hsound : spec.Sound)
    (hconfig : spec.config = .mouse c) {field : FieldLayout} (hmem : field ∈ spec.layout.fields) :
    MouseField field := by
  by_cases hpadding : field.semantic = .constantPadding
  · simp [MouseField, hpadding]
  · have hdecl := ReportLayout.decl_mem_declared hmem hpadding
    rw [hsound.declared, hconfig] at hdecl
    simp only [SpecConfig.declaredFields, List.mem_append, List.mem_cons, List.not_mem_nil,
      or_false, mem_bitDecls, mem_optionalDecl] at hdecl
    have hsemantic : field.semantic = field.decl.semantic := rfl
    rcases hdecl with ((⟨_, _, hd⟩ | hd | hd) | ⟨_, hd⟩) | ⟨_, hd⟩ <;>
      simp [MouseField, hsemantic, hd, bitDecl, integerDecl]

/-- The loop over the fields leaves the last fragment of an axis in its scratch field. -/
private theorem submitted_recordFragments (axis : MouseAxis) {mouse : MouseState} :
    (fields : List FieldLayout) → (∀ field ∈ fields, MouseField field) → (node : Node) →
    node.state = .mouse mouse →
    axis.submitted (recordFragments fields node) =
      (fields.filter fun field => field.semantic = axis.semantic).foldl
        (fun _ field => clampToField (axis.total mouse) field) (axis.submitted node)
  | [], _, _, _ => rfl
  | field :: rest, hfields, node, hstate => by
    have hrest : ∀ other ∈ rest, MouseField other :=
      fun other hmem => hfields other (List.mem_cons_of_mem _ hmem)
    have hstep : (((fieldValue node.spec.config node.state field).map fun selected =>
          recordFragment node field selected.value).getD node).state = .mouse mouse ∧
        axis.submitted (((fieldValue node.spec.config node.state field).map fun selected =>
          recordFragment node field selected.value).getD node) =
        if field.semantic = axis.semantic then clampToField (axis.total mouse) field
        else axis.submitted node := by
      have hfield := hfields field List.mem_cons_self
      rw [hstate]
      unfold MouseField at hfield
      unfold fieldValue recordFragment
      rcases hfield with h | h | h | h | h | h <;> rw [h] <;> cases axis <;>
        simp [hstate, MouseAxis.semantic, MouseAxis.submitted, MouseAxis.total]
    rw [recordFragments_cons, submitted_recordFragments axis rest hrest _ hstep.1, hstep.2,
      List.filter_cons]
    by_cases h : field.semantic = axis.semantic
    · simp [h]
    · simp [h]

/-! ### The motion invariant -/

/-- **The motion invariant.** The totals are in the range of `int64_t`, and the scratch fields of
a report in flight hold its fragments. -/
structure Node.Moving (node : Node) : Prop where
  range : ∀ axis : MouseAxis, Int64Range (axis.pending node)
  recorded : node.transferInflight = true →
    ∀ axis : MouseAxis, axis.submitted node = axis.fragment node

section Invariant

variable {node : Node} {c : MouseConfig}

/-- The state of a mouse. -/
theorem Node.Fits.exists_mouse (hfits : node.Fits) (hconfig : node.spec.config = .mouse c) :
    ∃ mouse, node.state = .mouse mouse := by
  have := hfits.state
  rw [hconfig] at this
  cases hstate : node.state <;> rw [hstate] at this <;>
    first | exact this.elim | exact ⟨_, rfl⟩

theorem fragmentOf_fragment (hsound : node.spec.Sound) (hconfig : node.spec.config = .mouse c)
    (axis : MouseAxis) : FragmentOf (axis.pending node) (axis.fragment node) := by
  unfold MouseAxis.fragment
  rcases axis.fieldsOf_cases hsound hconfig with hnone | ⟨field, hone, hmin, hmax⟩
  · rw [hnone]
    exact Or.inl rfl
  · rw [hone, List.map_singleton, List.sum_singleton]
    exact fragmentOf_clampToField _ hmin hmax

theorem Int64Range.sub {pending fragment : ℤ} (h : Int64Range pending)
    (hfragment : FragmentOf pending fragment) : Int64Range (pending - fragment) := by
  obtain ⟨hmin, hmax⟩ := h
  rcases hfragment with rfl | ⟨hsign, habs⟩
  · exact ⟨by omega, by omega⟩
  · rcases lt_trichotomy pending 0 with hneg | rfl | hpos
    · rw [Int.sign_eq_neg_one_of_neg hneg, Int.sign_eq_neg_one_iff_neg] at hsign
      exact ⟨by omega, by omega⟩
    · exact ⟨by omega, by omega⟩
    · rw [Int.sign_eq_one_of_pos hpos, Int.sign_eq_one_iff_pos] at hsign
      exact ⟨by omega, by omega⟩

/-- The pending totals of a Node do not change as its report goes out. -/
theorem pending_sent (axis : MouseAxis) (hfits : node.Fits) (hconfig : node.spec.config = .mouse c)
    (now : ℤ) : axis.pending (node.sent now) = axis.pending node := by
  obtain ⟨mouse, hstate⟩ := hfits.exists_mouse hconfig
  rw [MouseAxis.pending, MouseAxis.pending, Node.sent_state, hstate]
  rfl

/-- The report of a mouse goes out with its fragments recorded. -/
theorem submitted_sent (axis : MouseAxis) (hfits : node.Fits)
    (hconfig : node.spec.config = .mouse c) (hidle : node.transferInflight = false) (now : ℤ) :
    axis.submitted (node.sent now) = axis.fragment node := by
  obtain ⟨mouse, hstate⟩ := hfits.exists_mouse hconfig
  obtain ⟨_, _, _, hacquired⟩ := node.acquired_frame
  have hcleared : axis.submitted (updateScanTime node.acquired now) = 0 := by
    have hzero := hfits.cleared hidle
    rw [updateScanTime_eq, hacquired]
    cases axis
    · exact hzero.dx
    · exact hzero.dy
    · exact hzero.wheel
    · exact hzero.pan
  have hloop := submitted_recordFragments axis node.spec.layout.fields
    (fun field hmem => mouseField_of_mem hfits.sound hconfig hmem)
    (updateScanTime node.acquired now) (by rw [updateScanTime_eq, hacquired, hstate]; rfl)
  have hpacket : axis.submitted (node.sent now) = axis.submitted
      (recordFragments node.spec.layout.fields (updateScanTime node.acquired now)) := by
    obtain ⟨_, _, hpacket⟩ := recordPacket_frame
      (recordFragments node.spec.layout.fields (updateScanTime node.acquired now))
    unfold Node.sent
    rw [hpacket]
    cases axis <;> rfl
  rw [hpacket, hloop, hcleared, MouseAxis.fragment, axis.pending_of_state hstate]
  change (node.spec.layout.fieldsOf axis.semantic).foldl _ _ = _
  rcases axis.fieldsOf_cases hfits.sound hconfig with hnone | ⟨field, hone, -, -⟩
  · rw [hnone]
    rfl
  · rw [hone]
    simp

/-- A report of a mouse leaves with its fragments recorded. -/
theorem Node.Moving.sent (h : node.Moving) (hfits : node.Fits)
    (hconfig : node.spec.config = .mouse c) (hidle : node.transferInflight = false) (now : ℤ) :
    (node.sent now).Moving := by
  refine ⟨fun axis => ?_, fun _ axis => ?_⟩
  · rw [pending_sent axis hfits hconfig]
    exact h.range axis
  · rw [submitted_sent axis hfits hconfig hidle, MouseAxis.fragment, MouseAxis.fragment,
      Node.sent_spec, pending_sent axis hfits hconfig]

/-- A completion subtracts the fragments of a report that may have been applied. -/
theorem pending_transferComplete (hfits : node.Fits) (hconfig : node.spec.config = .mouse c)
    (axis : MouseAxis) (result : Result) (nativeStatus : ℤ) :
    axis.pending (transferComplete node result nativeStatus) =
      if mayHaveApplied result nativeStatus then axis.pending node - axis.submitted node
      else axis.pending node := by
  obtain ⟨mouse, hstate⟩ := hfits.exists_mouse hconfig
  unfold transferComplete
  by_cases happlied : mayHaveApplied result nativeStatus = true
  · simp only [happlied, if_true, MouseAxis.pending, Node.publishCompletion, completeState, hstate,
      or_true, if_true, consumeLifecycleTransitions]
    cases axis <;> rfl
  · simp [happlied, MouseAxis.pending, Node.publishCompletion, hstate]

theorem Node.Moving.transferComplete (h : node.Moving) (hfits : node.Fits)
    (hconfig : node.spec.config = .mouse c) (hinflight : node.transferInflight = true)
    (result : Result) (nativeStatus : ℤ) : (transferComplete node result nativeStatus).Moving := by
  refine ⟨fun axis => ?_, fun hbusy => ?_⟩
  · rw [pending_transferComplete hfits hconfig]
    split_ifs
    · rw [h.recorded hinflight axis]
      exact (h.range axis).sub (fragmentOf_fragment hfits.sound hconfig axis)
    · exact h.range axis
  · rw [(System.transferComplete_spec_dirty _ _ _).2.2] at hbusy
    exact absurd hbusy (by simp)

theorem int64Range_of_addChecked {target next : ℤ} {value : Int32} (h : Int64Range target)
    (hadd : addChecked target value = some next) :
    Int64Range next ∧ next = target + value.toInt := by
  unfold addChecked at hadd
  obtain ⟨hmin, hmax⟩ := h
  have hle := value.toInt_le
  have hge := value.le_toInt
  split_ifs at hadd with hover
  cases hadd
  exact ⟨⟨by omega, by omega⟩, rfl⟩

/-- A successful call adds its delta. -/
theorem CallStep.pending_eq {call : Call} {mouse : MouseState} {state : NodeState}
    {changed : Bool} (hstep : CallStep (.mouse c) call (.mouse mouse) state changed)
    (hrange : ∀ axis : MouseAxis, Int64Range (axis.total mouse)) :
    ∃ next, state = .mouse next ∧ ∀ axis : MouseAxis, Int64Range (axis.total next) ∧
      axis.total next = axis.total mouse + axis.delta call := by
  cases hstep with
  | keep hpress =>
    refine ⟨mouse, rfl, fun axis => ⟨hrange axis, ?_⟩⟩
    cases call <;> simp [Call.isPress, MouseAxis.delta] at hpress ⊢
  | mouseMove hdx hdy =>
    obtain ⟨hxRange, hx⟩ := int64Range_of_addChecked (hrange .x) hdx
    obtain ⟨hyRange, hy⟩ := int64Range_of_addChecked (hrange .y) hdy
    refine ⟨_, rfl, fun axis => ?_⟩
    cases axis with
    | x => exact ⟨hxRange, hx⟩
    | y => exact ⟨hyRange, hy⟩
    | wheel => exact ⟨hrange .wheel, (add_zero _).symm⟩
    | pan => exact ⟨hrange .pan, (add_zero _).symm⟩
  | mouseScroll hwheel hpan hnextWheel hnextPan =>
    obtain ⟨hwheelRange, hwheel⟩ := int64Range_of_addChecked (hrange .wheel) hnextWheel
    obtain ⟨hpanRange, hpan⟩ := int64Range_of_addChecked (hrange .pan) hnextPan
    refine ⟨_, rfl, fun axis => ?_⟩
    cases axis with
    | x => exact ⟨hrange .x, (add_zero _).symm⟩
    | y => exact ⟨hrange .y, (add_zero _).symm⟩
    | wheel => exact ⟨hwheelRange, hwheel⟩
    | pan => exact ⟨hpanRange, hpan⟩
  | mouseButton hpress =>
    refine ⟨_, rfl, fun axis => ?_⟩
    have := hrange axis
    cases axis <;> exact ⟨this, (add_zero _).symm⟩

theorem Node.Same.moving {node' : Node} (h : node.Same node') (hmoving : node.Moving) :
    node'.Moving ∧ ∀ axis : MouseAxis, axis.pending node' = axis.pending node := by
  have hpending (axis : MouseAxis) : axis.pending node' = axis.pending node := by
    rw [MouseAxis.pending, h.state, MouseAxis.pending]
  refine ⟨⟨fun axis => ?_, fun hbusy axis => ?_⟩, hpending⟩
  · rw [hpending]
    exact hmoving.range axis
  · have hsubmitted : axis.submitted node' = axis.submitted node := by
      cases axis
      · exact h.dx
      · exact h.dy
      · exact h.wheel
      · exact h.pan
    rw [hsubmitted, MouseAxis.fragment, h.spec, hpending]
    exact hmoving.recorded (h.transferInflight.symm.trans hbusy) axis

/-- What a call does to a moving mouse. -/
theorem Node.Moving.perform (h : node.Moving) (hfits : node.Fits)
    (hconfig : node.spec.config = .mouse c) (call : Call) (link : Link) :
    (call.perform link node).2.Moving ∧ ∀ axis : MouseAxis,
      axis.pending (call.perform link node).2 = axis.pending node +
        if (call.perform link node).1.result = .ok then axis.delta call else 0 := by
  obtain ⟨mouse, hstate⟩ := hfits.exists_mouse hconfig
  rcases call.perform_cases hfits.fitting link with
    ⟨reply, hrefuses, heq⟩ | ⟨state, changed, hcallable, hstep, heq⟩
  · rw [heq]
    refine ⟨h, fun axis => ?_⟩
    rw [if_neg hrefuses.ne_ok, add_zero]
  · rw [heq]
    rw [hconfig, hstate] at hstep
    obtain ⟨next, rfl, hnext⟩ := hstep.pending_eq fun axis => by
      rw [← axis.pending_of_state hstate]
      exact h.range axis
    refine ⟨⟨fun axis => (hnext axis).1, fun hbusy => ?_⟩, fun axis => ?_⟩
    · exact absurd (hcallable.idle.symm.trans hbusy) (by simp)
    · rw [axis.pending_of_state hstate]
      exact (hnext axis).2.trans (congrArg _ (if_pos Reply.ok_result).symm)

end Invariant

/-! ### The balance of a run -/

namespace System

variable {s s' : System} {c : MouseConfig}

theorem applied_append (axis : MouseAxis) (layout : ReportLayout) (wire : List Transmission)
    (t : Transmission) : axis.applied layout (wire ++ [t]) =
      axis.applied layout wire + if t.MayHaveApplied then axis.motion layout t.report else 0 := by
  unfold MouseAxis.applied
  by_cases h : t.MayHaveApplied <;> simp [h]

/-- An axis of the report in flight reads as the clamped total. -/
theorem Fits.reading_axis (hfits : s.Fits) (hconfig : s.node.spec.config = .mouse c)
    {report : List UInt8} (hinflight : s.inflight = some report) (axis : MouseAxis)
    {field : FieldLayout} (hmem : field ∈ s.node.spec.layout.fieldsOf axis.semantic) :
    fieldReading report field = clampToField (axis.pending s.node) field := by
  obtain ⟨mouse, hstate⟩ := hfits.node.exists_mouse hconfig
  obtain ⟨hfield, hsemantic⟩ := mem_fieldsOf.mp hmem
  have hreport := hfits.node.reportable (Or.inr (by rw [hfits.inflight, hinflight]; rfl))
  rw [(hfits.carries report hinflight).reading_of_fits hfits.node.sound hfits.node.state hreport
    hfield, axis.pending_of_state hstate, selectedValue, hstate]
  unfold fieldValue
  cases axis <;> simp [hsemantic, MouseAxis.semantic, MouseAxis.total]

/-- The motion of the report in flight is the recorded fragment. -/
theorem Fits.motion_eq (hfits : s.Fits) (hconfig : s.node.spec.config = .mouse c)
    {report : List UInt8} (hinflight : s.inflight = some report) (axis : MouseAxis) :
    axis.motion s.node.spec.layout report = axis.fragment s.node := by
  unfold MouseAxis.motion MouseAxis.fragment
  congr 1
  exact List.map_congr_left fun field hmem => hfits.reading_axis hconfig hinflight axis hmem

/-- A move keeps the balance. -/
theorem ReportMove.balance (h : ReportMove s s') (hfits : s.Fits)
    (hconfig : s.node.spec.config = .mouse c) (hmoving : s.node.Moving) :
    s'.node.Moving ∧ ∀ axis : MouseAxis, axis.balance s' = axis.balance s := by
  cases h with
  | @pause node hsame =>
    obtain ⟨hnext, hpending⟩ := hsame.moving hmoving
    refine ⟨hnext, fun axis => ?_⟩
    rw [MouseAxis.balance, MouseAxis.balance, hpending, hsame.spec]
  | @send now report hcallable hdirty hidle hcarries =>
    obtain ⟨mouse, hstate⟩ := hfits.node.exists_mouse hconfig
    refine ⟨hmoving.sent hfits.node hconfig hcallable.idle now, fun axis => ?_⟩
    have hsent : (s.node.sent now).state = .mouse mouse := by
      rw [Node.sent_state, hstate]
      rfl
    rw [MouseAxis.balance, MouseAxis.balance, Node.sent_spec, axis.pending_of_state hsent,
      axis.pending_of_state hstate]
  | @finish report result nativeStatus hinflight hnative =>
    have hbusy : s.node.transferInflight = true := by rw [hfits.inflight, hinflight]; rfl
    refine ⟨hmoving.transferComplete hfits.node hconfig hbusy result nativeStatus,
      fun axis => ?_⟩
    have hmotion := hfits.motion_eq hconfig hinflight axis
    simp only [MouseAxis.balance, (transferComplete_spec_dirty _ _ _).1, applied_append,
      pending_transferComplete hfits.node hconfig, hmoving.recorded hbusy axis, hmotion]
    by_cases hstall : result = .errStall
    · simp [mayHaveApplied, Transmission.MayHaveApplied, hstall]
    · simp [mayHaveApplied, Transmission.MayHaveApplied, hstall, hnative]

/-- **The balance of a run.** What the calls ask for is what the balance gains. -/
theorem balance_run (axis : MouseAxis) :
    (events : List Event) → (∀ e ∈ events, e.isClose = false) → {s : System} → s.Fits →
      s.node.spec.config = .mouse c → s.node.Moving →
      axis.balance (s.run events) = axis.balance s + s.requested axis events
  | [], _, s, _, _, _ => (add_zero _).symm
  | e :: events, hopen, s, hfits, hconfig, hmoving => by
    have hnext : (s.step e).Fits ∧ (s.step e).node.spec = s.node.spec ∧ (s.step e).node.Moving ∧
        axis.balance (s.step e) = axis.balance s + s.granted axis e := by
      by_cases hc : ∃ call link, e = .call call link
      · obtain ⟨call, link, rfl⟩ := hc
        obtain ⟨hnode, hpending⟩ := hmoving.perform hfits.node hconfig call link
        have hspec : (s.call call link).2.node.spec = s.node.spec := perform_spec call link s.node
        refine ⟨hfits.call call link, hspec, hnode, ?_⟩
        have := hpending axis
        change axis.applied (s.call call link).2.node.spec.layout s.wire +
          axis.pending (s.call call link).2.node = _
        rw [hspec, MouseAxis.balance, add_assoc]
        exact congrArg _ this
      · have hmoves := (step_moves hfits fun call link he => hc ⟨call, link, he⟩).2
          (hopen e List.mem_cons_self)
        have hnone : s.granted axis e = 0 := by
          cases e with
          | call call link => exact absurd ⟨call, link, rfl⟩ hc
          | _ => rfl
        rw [hnone, add_zero]
        generalize s.step e = next at hmoves ⊢
        induction hmoves with
        | refl => exact ⟨hfits, rfl, hmoving, rfl⟩
        | tail _ hmove ih =>
          obtain ⟨hfits', hspec', hmoving', hbalance'⟩ := ih
          obtain ⟨hmoving'', hbalance''⟩ := hmove.balance hfits' (hspec' ▸ hconfig) hmoving'
          exact ⟨hmove.fits hfits', hmove.spec_eq.trans hspec', hmoving'',
            (hbalance'' axis).trans hbalance'⟩
    obtain ⟨hfits', hspec', hmoving', hbalance'⟩ := hnext
    rw [run_cons, balance_run axis events (fun e he => hopen e (List.mem_cons_of_mem _ he)) hfits'
      (hspec' ▸ hconfig) hmoving', hbalance', requested, add_assoc]

end System

/-! ### Conservation -/

section Conservation

variable {spec : Spec} {c : MouseConfig}

/-- A new mouse has nothing pending. -/
theorem moving_opened (hsound : spec.Sound) (hconfig : spec.config = .mouse c) {hidId : ℕ}
    {s : System} (h : System.opened spec hidId = some s) :
    s.node.Moving ∧ ∀ axis : MouseAxis, axis.balance s = 0 := by
  obtain ⟨node, hnode, rfl⟩ := Option.map_eq_some_iff.mp h
  obtain ⟨state, hstate, rfl⟩ := Option.map_eq_some_iff.mp hnode
  have hzero (axis : MouseAxis) :
      axis.pending { spec, state, hidId } = 0 := by
    have haccepted := hsound.accepted
    rw [hconfig] at haccepted
    cases hkind : spec.kind <;> rw [hkind] at haccepted <;> try exact haccepted.elim
    unfold initializeNodeState at hstate
    simp only [hkind, hconfig, Option.some.injEq] at hstate
    rw [axis.pending_of_state hstate.symm]
    cases axis <;> rfl
  refine ⟨⟨fun axis => ?_, fun h => by simp at h⟩, fun axis => ?_⟩
  · rw [hzero]
    exact ⟨by norm_num, by norm_num⟩
  · exact (zero_add _).trans (hzero axis)

theorem BeforeClose.moving (hsound : spec.Sound) (hconfig : spec.config = .mouse c) {s : System}
    (h : BeforeClose spec s) : s.node.Moving := by
  have hmoves {s s' : System} (hmoves : ReflTransGen System.ReportMove s s') (hfits : s.Fits)
      (hspec : s.node.spec = spec) (hmoving : s.node.Moving) : s'.node.Moving := by
    have hall : s'.Fits ∧ s'.node.spec = spec ∧ s'.node.Moving := by
      induction hmoves with
      | refl => exact ⟨hfits, hspec, hmoving⟩
      | tail _ hmove ih =>
        obtain ⟨hfits', hspec', hmoving'⟩ := ih
        exact ⟨hmove.fits hfits', hmove.spec_eq.trans hspec',
          (hmove.balance hfits' (hspec' ▸ hconfig) hmoving').1⟩
    exact hall.2.2
  induction h with
  | opened h => exact (moving_opened hsound hconfig h).1
  | call h c link ih =>
    obtain ⟨hfits, hspec⟩ := h.fits hsound
    exact (ih.perform hfits.node (hspec ▸ hconfig) c link).1
  | submit h env ih =>
    obtain ⟨hfits, hspec⟩ := h.fits hsound
    exact hmoves (System.submit_moves hfits env) hfits hspec ih
  | complete h status actualLength ih =>
    obtain ⟨hfits, hspec⟩ := h.fits hsound
    exact hmoves (System.complete_moves _ status actualLength) hfits hspec ih
  | consume h field ih =>
    obtain ⟨hfits, hspec⟩ := h.fits hsound
    exact hmoves (System.consume_moves _ field) hfits hspec ih

/-- `add_checked` refuses exactly the sums that overflow `int64_t`. -/
theorem addChecked_eq_none {target : ℤ} {value : Int32} (h : Int64Range target)
    (hover : ¬Int64Range (target + value.toInt)) : addChecked target value = none := by
  unfold addChecked
  obtain ⟨hmin, hmax⟩ := h
  refine if_pos ?_
  by_contra hno
  exact hover ⟨by omega, by omega⟩

theorem usable_of_callable {node : Node} (h : node.Callable) {link : Link} {kind : ProfileKind}
    {field : String} (hkind : node.spec.kind = kind)
    (hlink : linkAvailable node link field = none) :
    usable node link kind field = none := by
  simp [usable, h.closed, h.idle, hkind, hlink]

/-- A movement that would overflow is refused. -/
theorem mouseMove_overflow {node : Node} (hmoving : node.Moving) (hfits : node.Fits)
    (hkind : node.spec.kind = .mouse) (hconfig : node.spec.config = .mouse c)
    (hcallable : node.Callable) {link : Link} (hlink : linkAvailable node link "mouse.move" = none)
    {dx dy : Int32} (hover : ¬(Int64Range (MouseAxis.x.pending node + dx.toInt) ∧
      Int64Range (MouseAxis.y.pending node + dy.toInt))) :
    ((Call.mouseMove dx dy).perform link node).1.result = .errOverflow ∧
      ((Call.mouseMove dx dy).perform link node).2 = node := by
  obtain ⟨mouse, hstate⟩ := hfits.exists_mouse hconfig
  have hx := hmoving.range .x
  have hy := hmoving.range .y
  rw [MouseAxis.pending_of_state _ hstate] at hx hy hover
  rw [MouseAxis.pending_of_state _ hstate] at hover
  have hadd : addChecked mouse.dx dx = none ∨ addChecked mouse.dy dy = none := by
    by_cases hxOver : Int64Range (mouse.dx + dx.toInt)
    · exact Or.inr (addChecked_eq_none hy fun hyOver => hover ⟨hxOver, hyOver⟩)
    · exact Or.inl (addChecked_eq_none hx hxOver)
  have houtcome : ∃ reason, (Call.mouseMove dx dy).outcome node link =
      .error (.fail .errOverflow "mouse.delta" reason) := by
    simp only [Call.outcome, mouseMove, usable_of_callable hcallable hkind hlink, hstate]
    rcases hadd with h | h
    · rw [h]
      exact ⟨_, rfl⟩
    · rw [h]
      cases addChecked mouse.dx dx <;> exact ⟨_, rfl⟩
  obtain ⟨reason, houtcome⟩ := houtcome
  rw [Call.perform, houtcome]
  exact ⟨rfl, rfl⟩

/-- A scroll of declared axes that would overflow is refused. -/
theorem mouseScroll_overflow {node : Node} (hmoving : node.Moving) (hfits : node.Fits)
    (hkind : node.spec.kind = .mouse) (hconfig : node.spec.config = .mouse c)
    (hcallable : node.Callable) {link : Link}
    (hlink : linkAvailable node link "mouse.scroll" = none) {wheel pan : Int32}
    (hwheel : wheel = 0 ∨ c.options.enableWheel = 1) (hpan : pan = 0 ∨ c.options.enablePan = 1)
    (hover : ¬(Int64Range (MouseAxis.wheel.pending node + wheel.toInt) ∧
      Int64Range (MouseAxis.pan.pending node + pan.toInt))) :
    ((Call.mouseScroll wheel pan).perform link node).1.result = .errOverflow ∧
      ((Call.mouseScroll wheel pan).perform link node).2 = node := by
  obtain ⟨mouse, hstate⟩ := hfits.exists_mouse hconfig
  have hwheelRange := hmoving.range .wheel
  have hpanRange := hmoving.range .pan
  rw [MouseAxis.pending_of_state _ hstate] at hwheelRange hpanRange hover
  rw [MouseAxis.pending_of_state _ hstate] at hover
  have hadd : addChecked mouse.wheel wheel = none ∨ addChecked mouse.pan pan = none := by
    by_cases hwheelOver : Int64Range (mouse.wheel + wheel.toInt)
    · exact Or.inr (addChecked_eq_none hpanRange fun hpanOver => hover ⟨hwheelOver, hpanOver⟩)
    · exact Or.inl (addChecked_eq_none hwheelRange hwheelOver)
  have hdeclared : ¬((wheel ≠ 0 ∧ c.options.enableWheel ≠ 1) ∨
      (pan ≠ 0 ∧ c.options.enablePan ≠ 1)) := by
    tauto
  have houtcome : ∃ reason, (Call.mouseScroll wheel pan).outcome node link =
      .error (.fail .errOverflow "mouse.scroll" reason) := by
    simp only [Call.outcome, mouseScroll, usable_of_callable hcallable hkind hlink, hstate, hconfig]
    rw [if_neg hdeclared]
    rcases hadd with h | h
    · rw [h]
      exact ⟨_, rfl⟩
    · rw [h]
      cases addChecked mouse.wheel wheel <;> exact ⟨_, rfl⟩
  obtain ⟨reason, houtcome⟩ := houtcome
  rw [Call.perform, houtcome]
  exact ⟨rfl, rfl⟩

/-- A report that is sent takes a fragment of the total, in the logical range. -/
theorem fragment_of_sent {s : System} (hfits : s.Fits) (hconfig : s.node.spec.config = .mouse c)
    {env : SubmitEnv} {report : List UInt8}
    (hsent : (nodeSubmit s.node env).accepted = some report) {axis : MouseAxis}
    {field : FieldLayout} (hmem : field ∈ s.node.spec.layout.fieldsOf axis.semantic) :
    field.logicalMinimum ≤ fieldReading report field ∧
      fieldReading report field ≤ field.logicalMaximum ∧
      FragmentOf (axis.pending s.node) (fieldReading report field) := by
  have hafter : (s.submit env).2.Fits := System.reports_fits (System.submit_moves hfits env) hfits
  have hinflight : (s.submit env).2.inflight = some report := by
    simp [System.submit, hsent]
  have hspec : (s.submit env).2.node.spec = s.node.spec ∧
      axis.pending (s.submit env).2.node = axis.pending s.node := by
    rcases nodeSubmit_cases hfits.node env with ⟨hnone, -⟩ | ⟨_, heq, -⟩
    · rw [hnone] at hsent
      simp at hsent
    · obtain ⟨mouse, hstate⟩ := hfits.node.exists_mouse hconfig
      have hstamped : (s.node.sent env.now).state = .mouse mouse := by
        rw [Node.sent_state, hstate]
        rfl
      simp only [System.submit, heq]
      exact ⟨Node.sent_spec _ _, by
        rw [axis.pending_of_state hstamped, axis.pending_of_state hstate]⟩
  have hreading := hafter.reading_axis (hspec.1 ▸ hconfig) hinflight axis (hspec.1.symm ▸ hmem)
  rw [hreading, hspec.2]
  rcases axis.fieldsOf_cases hfits.node.sound hconfig with hnone | ⟨other, hone, hmin, hmax⟩
  · rw [hnone] at hmem
    simp at hmem
  · rw [hone, List.mem_singleton] at hmem
    subst hmem
    obtain ⟨hle, hge⟩ := clampToField_mem (axis.pending s.node)
      (show field.logicalMinimum ≤ field.logicalMaximum by omega)
    exact ⟨hle, hge, fragmentOf_clampToField _ hmin hmax⟩

theorem SpecConfig.Accepted.exists_mouse {config : SpecConfig}
    (h : SpecConfig.Accepted .mouse config) : ∃ c, config = .mouse c := by
  cases config <;> first | exact h.elim | exact ⟨_, rfl⟩

/-- **Mouse motion is conserved.** In every run of an accepted mouse before a close, and for every
axis, the deltas of the calls that returned `AOAHID_OK` add up to the motion of the completed
reports that may have been applied and the pending total. In every state before a close, the
pending total is an `int64_t`; a report that is sent takes a fragment of it in the logical range;
and a call whose sum would overflow is refused and changes nothing. -/
theorem motion_conserved (hspec : Generated spec) (hkind : spec.kind = .mouse)
    (axis : MouseAxis) :
    (∀ (hidId : ℕ) (s : System), System.opened spec hidId = some s →
      ∀ events : List Event, (∀ e ∈ events, e.isClose = false) →
        (s.run events).inflight = none →
        s.requested axis events = axis.applied spec.layout (s.run events).wire +
          axis.pending (s.run events).node) ∧
    (∀ s, BeforeClose spec s →
      Int64Range (axis.pending s.node) ∧
      (∀ (env : SubmitEnv) (report : List UInt8), (nodeSubmit s.node env).accepted = some report →
        ∀ field ∈ spec.layout.fieldsOf axis.semantic,
          field.logicalMinimum ≤ fieldReading report field ∧
          fieldReading report field ≤ field.logicalMaximum ∧
          FragmentOf (axis.pending s.node) (fieldReading report field)) ∧
      (∀ (dx dy : Int32) (link : Link), s.node.Callable →
        linkAvailable s.node link "mouse.move" = none →
        ¬(Int64Range (MouseAxis.x.pending s.node + dx.toInt) ∧
          Int64Range (MouseAxis.y.pending s.node + dy.toInt)) →
        ((Call.mouseMove dx dy).perform link s.node).1.result = .errOverflow ∧
          ((Call.mouseMove dx dy).perform link s.node).2 = s.node) ∧
      (∀ (o : MouseOptions) (wheel pan : Int32) (link : Link), spec.config = .mouse ⟨o⟩ →
        s.node.Callable → linkAvailable s.node link "mouse.scroll" = none →
        (wheel = 0 ∨ o.enableWheel = 1) → (pan = 0 ∨ o.enablePan = 1) →
        ¬(Int64Range (MouseAxis.wheel.pending s.node + wheel.toInt) ∧
          Int64Range (MouseAxis.pan.pending s.node + pan.toInt)) →
        ((Call.mouseScroll wheel pan).perform link s.node).1.result = .errOverflow ∧
          ((Call.mouseScroll wheel pan).perform link s.node).2 = s.node)) := by
  have hsound := hspec.sound
  obtain ⟨c, hconfig⟩ := SpecConfig.Accepted.exists_mouse (hkind ▸ hsound.accepted)
  constructor
  · intro hidId s hopened events hopen _
    obtain ⟨hmoving, hzero⟩ := moving_opened hsound hconfig hopened
    obtain ⟨hfits, rfl⟩ := (BeforeClose.opened hopened).fits hsound
    have hrun := System.balance_run axis events hopen hfits hconfig hmoving
    rw [hzero, zero_add] at hrun
    rw [← hrun, MouseAxis.balance,
      (((BeforeClose.opened hopened).run events hopen).fits hsound).2]
  · intro s hs
    obtain ⟨hfits, rfl⟩ := hs.fits hsound
    have hmoving := hs.moving hsound hconfig
    refine ⟨hmoving.range axis, fun env report hsent field hmem => ?_, ?_, ?_⟩
    · exact fragment_of_sent hfits hconfig hsent hmem
    · intro dx dy link hcallable hlink hover
      exact mouseMove_overflow hmoving hfits.node hkind hconfig hcallable hlink hover
    · intro o wheel pan link ho hcallable hlink hwheel hpan hover
      exact mouseScroll_overflow hmoving hfits.node hkind ho hcallable hlink hwheel hpan hover

end Conservation

/-- A submit into an empty transfer. -/
def motionSubmit : SubmitEnv := { acquire := .ok (List.replicate 8 0) }

/-- The sample mouse is moved by more than a report holds. The first fragment is delivered; the
second completes with a STALL, which the next submit returns; it is sent again and times out. -/
def sampleMotion : List Event :=
  [.call (.mouseMove 200 (-5)) .present, .submit motionSubmit, .complete .completed 6,
    .submit motionSubmit, .complete .stall 0, .submit motionSubmit, .submit motionSubmit,
    .complete .timedOut 0]

theorem motion_conserved_sampleMouse :
    ((sampleOpened.run sampleMotion).wire.map fun t =>
        (MouseAxis.x.motion sampleMouse.layout t.report, t.result)) =
      [(127, .ok), (73, .errStall), (73, .errTimeout)] ∧
    sampleOpened.requested .x sampleMotion =
      MouseAxis.x.applied sampleMouse.layout (sampleOpened.run sampleMotion).wire +
        MouseAxis.x.pending (sampleOpened.run sampleMotion).node ∧
    sampleOpened.requested .x sampleMotion = 200 ∧
    (∀ (env : SubmitEnv) (report : List UInt8),
      (nodeSubmit (sampleOpened.run (sampleMotion.take 1)).node env).accepted = some report →
      ∀ field ∈ sampleMouse.layout.fieldsOf .x,
        field.logicalMinimum ≤ fieldReading report field ∧
        fieldReading report field ≤ field.logicalMaximum ∧
        FragmentOf 200 (fieldReading report field)) := by
  obtain ⟨hruns, hstates⟩ := motion_conserved generated_sampleMouse rfl .x
  have hmoved : BeforeClose sampleMouse (sampleOpened.run (sampleMotion.take 1)) :=
    (BeforeClose.opened opened_sampleOpened).run _ (by decide +kernel)
  exact ⟨by decide +kernel, hruns 1 sampleOpened opened_sampleOpened sampleMotion
    (by decide +kernel) (by decide +kernel), by decide +kernel, (hstates _ hmoved).2.1⟩

end LibaoaHid

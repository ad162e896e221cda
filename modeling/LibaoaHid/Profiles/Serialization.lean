import LibaoaHid.Profiles.SoundSpecs

/-!
# What the serializer writes

A report of a sound Spec holds, in the range of each field, the value that the serializer selected
for it. The fields of a layout tile the report, so the write of one field leaves the others alone,
and the reader gives every selected value back.

## Main definitions

* `FieldLayout.Accepts`, `Spec.Serializable`: the selected values are in their declared ranges.
* `selectedValue`: the value of a field, zero for Constant padding.
* `Spec.Carries`: a report carries a profile state.

## Main results

* `serializeNode_eq`: the serializer succeeds and its report carries the state.
* `Spec.Carries.reading`: the round trip of each field.
* `Spec.Carries.validate`: the validator accepts the report.
* `Spec.Carries.unique`: a profile state has one report.
-/

namespace LibaoaHid

open Bits

/-! ### Selected values -/

/-- A field accepts the values of its logical range, and its Null when it declares one. -/
structure FieldLayout.Accepts (field : FieldLayout) (selected : SelectedValue) : Prop where
  range : selected.allowNull = false →
    field.logicalMinimum ≤ selected.value ∧ selected.value ≤ field.logicalMaximum
  null : selected.allowNull = true → field.hasNullState = true ∧ selected.value = hatNull field

/-- Every field of the layout accepts the value selected for it. -/
def Spec.Serializable (spec : Spec) (state : NodeState) : Prop :=
  ∀ field ∈ spec.layout.fields, ∀ selected,
    fieldValue spec.config state field = some selected → field.Accepts selected

/-- The value that a report carries for a field; Constant padding carries zero. -/
def selectedValue (config : SpecConfig) (state : NodeState) (field : FieldLayout) : ℤ :=
  ((fieldValue config state field).map (·.value)).getD 0

theorem selectedValue_of_fieldValue {config : SpecConfig} {state : NodeState}
    {field : FieldLayout} {selected : SelectedValue}
    (h : fieldValue config state field = some selected) :
    selectedValue config state field = selected.value := by
  simp [selectedValue, h]

/-- Constant padding alone has no selected value. -/
theorem fieldValue_eq_none_iff {config : SpecConfig} {state : NodeState} {field : FieldLayout} :
    fieldValue config state field = none ↔ field.semantic = .constantPadding := by
  unfold fieldValue
  cases field.semantic <;> cases state <;> simp only [reduceCtorEq, iff_false]
  all_goals split_ifs <;> simp

/-- A field that accepts its value represents it. -/
theorem FieldLayout.WellFormed.represents_selected {field : FieldLayout} (hwf : field.WellFormed)
    {config : SpecConfig} {state : NodeState}
    (h : ∀ selected, fieldValue config state field = some selected → field.Accepts selected) :
    field.Represents (selectedValue config state field) := by
  cases hvalue : fieldValue config state field with
  | none =>
    obtain ⟨hmin, hmax⟩ := hwf.padding (fieldValue_eq_none_iff.mp hvalue)
    rw [selectedValue, hvalue]
    exact hwf.represents 0 (by omega) (by omega)
  | some selected =>
    rw [selectedValue_of_fieldValue hvalue]
    have haccepts := h selected hvalue
    cases hnull : selected.allowNull with
    | false =>
      obtain ⟨hle, hge⟩ := haccepts.range hnull
      exact hwf.represents _ hle hge
    | true =>
      obtain ⟨hdeclared, heq⟩ := haccepts.null hnull
      rw [heq]
      exact (hwf.null hdeclared).1

/-! ### The field loop -/

/-- The scratch fields after the field loop. -/
def recordFragments (fields : List FieldLayout) (node : Node) : Node :=
  fields.foldl (fun node field =>
    match fieldValue node.spec.config node.state field with
    | none => node
    | some selected => recordFragment node field selected.value) node

/-- One turn of the loop records the value of its field. -/
theorem recordFragments_cons (field : FieldLayout) (rest : List FieldLayout) (node : Node) :
    recordFragments (field :: rest) node =
      recordFragments rest (((fieldValue node.spec.config node.state field).map fun selected =>
        recordFragment node field selected.value).getD node) := by
  rw [recordFragments, List.foldl_cons]
  cases fieldValue node.spec.config node.state field <;> rfl

/-- Recording a fragment touches the four scratch fields of a mouse only. -/
theorem recordFragment_frame (node : Node) (field : FieldLayout) (value : ℤ) :
    ∃ dx dy wheel pan, recordFragment node field value =
      { node with
        submittedDx := dx
        submittedDy := dy
        submittedWheel := wheel
        submittedPan := pan } := by
  unfold recordFragment
  split <;> exact ⟨_, _, _, _, rfl⟩

/-- **Frame rule.** The field loop touches the four scratch fields of a mouse only. -/
theorem recordFragments_frame : (fields : List FieldLayout) → (node : Node) →
    ∃ dx dy wheel pan, recordFragments fields node =
      { node with
        submittedDx := dx
        submittedDy := dy
        submittedWheel := wheel
        submittedPan := pan }
  | [], node => ⟨node.submittedDx, node.submittedDy, node.submittedWheel, node.submittedPan, rfl⟩
  | field :: rest, node => by
    have hcons : recordFragments (field :: rest) node =
        recordFragments rest (match fieldValue node.spec.config node.state field with
          | none => node
          | some selected => recordFragment node field selected.value) := rfl
    rw [hcons]
    split
    · exact recordFragments_frame rest node
    · next selected _ =>
      obtain ⟨dx, dy, wheel, pan, heq⟩ := recordFragment_frame node field selected.value
      obtain ⟨dx', dy', wheel', pan', hrest⟩ :=
        recordFragments_frame rest (recordFragment node field selected.value)
      exact ⟨dx', dy', wheel', pan', by rw [hrest, heq]⟩

/-- **The field loop.** Over a tiling the loop succeeds; it writes each selected value into the
range of its field and leaves every other bit as it was. -/
theorem serializeFields_spec : {fields : List FieldLayout} → {start stop : ℕ} →
    (node : Node) → (report : List UInt8) → Tiles fields start stop →
    (∀ field ∈ fields, field.WellFormed) → stop ≤ report.length * 8 →
    (∀ field ∈ fields, ∀ selected,
      fieldValue node.spec.config node.state field = some selected → field.Accepts selected) →
    ∃ written, serializeFields fields node report true =
        (recordFragments fields node, written, true) ∧
      written.length = report.length ∧
      (∀ k, k < start ∨ stop ≤ k → bitAt written k = bitAt report k) ∧
      ∀ field ∈ fields, ∀ j < field.bitWidth, bitAt written (field.bitOffset + j) =
        match fieldValue node.spec.config node.state field with
        | some selected => (encodeValue selected.value field.bitWidth).testBit j
        | none => bitAt report (field.bitOffset + j)
  | [], start, stop, node, report, _, _, _, _ => by
    refine ⟨report, rfl, rfl, fun _ _ => rfl, fun field hmem => ?_⟩
    simp at hmem
  | field :: rest, start, stop, node, report, htiles, hwf, hstop, haccepts => by
    obtain ⟨hoffset, hpos, hrest⟩ := htiles
    have hle := hrest.le
    have hwfField := hwf field List.mem_cons_self
    have hwfRest : ∀ other ∈ rest, other.WellFormed :=
      fun other hmem => hwf other (List.mem_cons_of_mem _ hmem)
    cases hvalue : fieldValue node.spec.config node.state field with
    | none =>
      obtain ⟨written, heq, hlength, hframe, hbits⟩ :=
          serializeFields_spec node report hrest hwfRest
        hstop
        fun other hmem => haccepts other (List.mem_cons_of_mem _ hmem)
      refine ⟨written, ?_, hlength, fun k hk => hframe k (by omega), ?_⟩
      · simp only [serializeFields, hvalue, heq, recordFragments, List.foldl_cons]
      · intro other hmem j hj
        rcases List.mem_cons.mp hmem with rfl | hmem
        · rw [hvalue]
          exact hframe _ (by omega)
        · exact hbits other hmem j hj
    | some selected =>
      have hselected := haccepts field List.mem_cons_self selected hvalue
      have hstore := storeBits_eq_some hwfField.pos hwfField.le
        (show _ ≤ report.length * 8 by omega) (fun h => (hselected.null h).1) hselected.range
      set stored := storeLoop field.bitWidth report (encodeValue selected.value field.bitWidth)
        field.bitOffset field.bitWidth with hstored
      have hstoredBit (k : ℕ) : bitAt stored k =
          if field.bitOffset ≤ k ∧ k < field.bitOffset + field.bitWidth then
            (encodeValue selected.value field.bitWidth).testBit (k - field.bitOffset)
          else bitAt report k :=
        bitAt_storeLoop le_rfl (by omega) k
      have hlengthStored : stored.length = report.length := length_storeLoop ..
      obtain ⟨dx, dy, wheel, pan, hfragment⟩ := recordFragment_frame node field selected.value
      have hconfig : (recordFragment node field selected.value).spec.config = node.spec.config := by
        rw [hfragment]
      have hstate : (recordFragment node field selected.value).state = node.state := by
        rw [hfragment]
      obtain ⟨written, heq, hlength, hframe, hbits⟩ :=
        serializeFields_spec (recordFragment node field selected.value) stored hrest hwfRest
          (by omega) fun other hmem => by
            rw [hconfig, hstate]
            exact haccepts other (List.mem_cons_of_mem _ hmem)
      rw [hconfig, hstate] at hbits
      refine ⟨written, ?_, by omega, fun k hk => ?_, ?_⟩
      · simp only [serializeFields, hvalue, hstore, heq, recordFragments, List.foldl_cons, if_true]
      · rw [hframe k (by omega), hstoredBit, if_neg (by omega)]
      · intro other hmem j hj
        rcases List.mem_cons.mp hmem with rfl | hmem
        · rw [hvalue, hframe _ (by omega), hstoredBit, if_pos (by omega), Nat.add_sub_cancel_left]
        · rw [hbits other hmem j hj]
          have hinside := hrest.inside other hmem
          cases hother : fieldValue node.spec.config node.state other with
          | some _ => rfl
          | none =>
            change bitAt stored _ = bitAt report _
            rw [hstoredBit, if_neg (by omega)]

/-! ### Reports -/

/-- The report carries the state: it has the wire length and the Report ID, and every field holds
the value selected for it. -/
structure Spec.Carries (spec : Spec) (state : NodeState) (report : List UInt8) : Prop where
  length : report.length = spec.layout.wireBytes
  reportId : spec.layout.hasReportId = true → (report.getD 0 0).toNat = spec.layout.reportId
  holds : ∀ field ∈ spec.layout.fields, Holds report field.bitOffset field.bitWidth
    (encodeValue (selectedValue spec.config state field) field.bitWidth)

theorem length_clearedReport (layout : ReportLayout) {buffer : List UInt8}
    (h : layout.wireBytes ≤ buffer.length) :
    (clearedReport layout buffer).length = buffer.length := by
  unfold clearedReport
  dsimp only
  split_ifs <;> simp <;> omega

/-- The cleared report: the Report ID, and clear bits up to the wire length. -/
theorem clearedReport_bits {layout : ReportLayout} (hwf : layout.WellFormed)
    (buffer : List UInt8) {k : ℕ} (hstart : layout.prefixBits ≤ k) (hk : k < 8 * layout.wireBytes) :
    bitAt (clearedReport layout buffer) k = false := by
  have hclear : bitAt (List.replicate layout.wireBytes 0 ++ buffer.drop layout.wireBytes) k =
      false := by
    rw [bitAt_append_left _ _ (by simpa using hk), bitAt_replicate_zero]
  unfold clearedReport
  dsimp only
  split_ifs with hid
  · have hpos := hwf.wireBytes_pos
    have : layout.prefixBits = 8 := by simp [ReportLayout.prefixBits, hid]
    rw [bitAt_set _ (by simp; omega), if_neg (by omega), hclear]
  · exact hclear

theorem clearedReport_reportId {layout : ReportLayout} (hwf : layout.WellFormed)
    (buffer : List UInt8) (hid : layout.hasReportId = true) :
    ((clearedReport layout buffer).getD 0 0).toNat = layout.reportId := by
  have hpos := hwf.wireBytes_pos
  have hlt := hwf.reportId_lt
  unfold clearedReport
  rw [if_pos hid, List.getD_eq_getElem?_getD, List.getElem?_set_self (by simp; omega)]
  simp only [Option.getD_some, UInt8.toNat_ofNat']
  omega

private theorem toNat_getD_eq {first second : List UInt8} {i : ℕ}
    (h : ∀ k, 8 * i ≤ k → k < 8 * i + 8 → bitAt first k = bitAt second k) :
    (first.getD i 0).toNat = (second.getD i 0).toNat := by
  apply Nat.eq_of_testBit_eq
  intro r
  by_cases hr : r < 8
  · rw [testBit_getD _ _ hr, testBit_getD _ _ hr, h _ (by omega) (by omega)]
  · have hlt (b : UInt8) : b.toNat.testBit r = false :=
      Nat.testBit_lt_two_pow (lt_of_lt_of_le b.toNat_lt (Nat.pow_le_pow_right (by omega)
        (show 8 ≤ r by omega)))
    rw [hlt, hlt]

/-- **The serializer.** On a sound Spec whose fields accept the state, the serializer fills its
buffer: it succeeds with the wire length, its report carries the state, and the bytes behind the
report stay. -/
theorem serializeNode_eq (node : Node) (buffer : List UInt8) (hsound : node.spec.Sound)
    (hser : node.spec.Serializable node.state)
    (hbuffer : node.spec.layout.wireBytes ≤ buffer.length) :
    ∃ written, serializeNode node buffer =
        { reply := .ok
          node := recordPacket (recordFragments node.spec.layout.fields node)
          buffer := written
          reportLength := node.spec.layout.wireBytes } ∧
      node.spec.Carries node.state (written.take node.spec.layout.wireBytes) := by
  have hwf := hsound.layout
  have htiles := hwf.tiles
  have hlength := length_clearedReport node.spec.layout hbuffer
  obtain ⟨written, heq, hwritten, hframe, hbits⟩ :=
    serializeFields_spec node (clearedReport node.spec.layout buffer) htiles hwf.fields
      (by omega) hser
  refine ⟨written, ?_, ?_, ?_, ?_⟩
  · unfold serializeNode
    rw [if_neg (by omega), heq]
  · rw [List.length_take]
    omega
  · intro hid
    rw [← clearedReport_reportId hwf buffer hid]
    have hpos := hwf.wireBytes_pos
    apply toNat_getD_eq
    intro k _ hk
    rw [bitAt_take _ (by omega)]
    exact hframe k (Or.inl (by simp only [ReportLayout.prefixBits, hid, if_true]; omega))
  · intro field hmem
    have hinside := htiles.inside field hmem
    refine ⟨?_, fun j hj => ?_⟩
    · unfold encodeValue
      rw [Nat.one_shiftLeft, Nat.and_two_pow_sub_one_eq_mod]
      exact Nat.mod_lt _ (Nat.two_pow_pos _)
    · rw [bitAt_take _ (by omega), hbits field hmem j hj, selectedValue]
      cases hvalue : fieldValue node.spec.config node.state field with
      | some selected => rfl
      | none =>
        rw [clearedReport_bits hwf buffer (by omega) (by omega)]
        simp [encodeValue]

/-- A buffer that is too small is refused and left alone. -/
theorem serializeNode_of_length_lt (node : Node) (buffer : List UInt8)
    (h : buffer.length < node.spec.layout.wireBytes) :
    (serializeNode node buffer).reply.result = .errParam ∧
      (serializeNode node buffer).node = node ∧ (serializeNode node buffer).buffer = buffer := by
  unfold serializeNode
  rw [if_pos h]
  exact ⟨rfl, rfl, rfl⟩

namespace Spec.Carries

variable {spec : Spec} {state : NodeState} {report other : List UInt8}

/-- **Round trip.** Each field of a report reads as the value selected for it. -/
theorem reading (h : spec.Carries state report) (hsound : spec.Sound)
    (hser : spec.Serializable state) {field : FieldLayout} (hmem : field ∈ spec.layout.fields) :
    fieldReading report field = selectedValue spec.config state field := by
  have hwf := hsound.layout.fields field hmem
  exact fieldReading_of_holds hwf.pos hwf.le (hwf.represents_selected (hser field hmem))
    (h.holds field hmem)

/-- A field that is serialized as Null reads outside its logical range. -/
theorem reading_null (h : spec.Carries state report) (hsound : spec.Sound)
    (hser : spec.Serializable state) {field : FieldLayout} (hmem : field ∈ spec.layout.fields)
    {selected : SelectedValue} (hvalue : fieldValue spec.config state field = some selected)
    (hnull : selected.allowNull = true) :
    ¬(field.logicalMinimum ≤ fieldReading report field ∧
      fieldReading report field ≤ field.logicalMaximum) := by
  obtain ⟨hdeclared, heq⟩ := (hser field hmem selected hvalue).null hnull
  rw [h.reading hsound hser hmem, selectedValue_of_fieldValue hvalue, heq]
  exact ((hsound.layout.fields field hmem).null hdeclared).2

/-- The field loop of the validator accepts every field of a report. -/
private theorem validateFieldReadings_eq_ok (h : spec.Carries state report) (hsound : spec.Sound)
    (hser : spec.Serializable state) : (fields : List FieldLayout) →
    (∀ field ∈ fields, field ∈ spec.layout.fields) → validateFieldReadings report fields = .ok
  | [], _ => rfl
  | field :: rest, hsub => by
    have hmem := hsub field List.mem_cons_self
    have hwf := hsound.layout.fields field hmem
    have hinside := hsound.layout.tiles.inside field hmem
    have hpos := hwf.pos
    have hle := hwf.le
    have hlength := h.length
    have hread := h.reading hsound hser hmem
    have hvalid : ¬((¬(fieldReading report field ≥ field.logicalMinimum ∧
          fieldReading report field ≤ field.logicalMaximum) ∧
        ¬(field.hasNullState = true ∧ fieldReading report field = hatNull field)) ∨
        (field.semantic = .constantPadding ∧ fieldReading report field ≠ 0)) := by
      rw [hread]
      cases hvalue : fieldValue spec.config state field with
      | none =>
        obtain ⟨hmin, hmax⟩ := hwf.padding (fieldValue_eq_none_iff.mp hvalue)
        simp [selectedValue, hvalue, hmin, hmax]
      | some selected =>
        have hpadding : field.semantic ≠ .constantPadding := fun hpadding => by
          rw [fieldValue_eq_none_iff.mpr hpadding] at hvalue
          simp at hvalue
        have haccepts := hser field hmem selected hvalue
        rw [selectedValue_of_fieldValue hvalue]
        cases hnull : selected.allowNull with
        | false =>
          have := haccepts.range hnull
          rintro (⟨hout, -⟩ | ⟨hpad, -⟩)
          · exact hout ⟨this.1, this.2⟩
          · exact hpadding hpad
        | true =>
          have := haccepts.null hnull
          rintro (⟨-, hout⟩ | ⟨hpad, -⟩)
          · exact hout this
          · exact hpadding hpad
    unfold validateFieldReadings
    rw [if_neg (by omega), if_neg hvalid]
    exact validateFieldReadings_eq_ok h hsound hser rest
      fun other hother => hsub other (List.mem_cons_of_mem _ hother)

/-- The validator accepts a report that carries a state. -/
theorem validate (h : spec.Carries state report) (hsound : spec.Sound)
    (hser : spec.Serializable state) : validateSerializedReport spec report = .ok := by
  have hpos := hsound.layout.wireBytes_pos
  have hlength := h.length
  unfold validateSerializedReport
  dsimp only
  rw [if_neg (by omega), if_neg (fun hid => hid.2 (h.reportId hid.1))]
  exact validateFieldReadings_eq_ok h hsound hser _ fun _ hmem => hmem

/-- A profile state has one report. -/
theorem unique (h : spec.Carries state report) (h' : spec.Carries state other)
    (hsound : spec.Sound) : report = other := by
  have hlength := h.length
  have hlength' := h'.length
  have htiles := hsound.layout.tiles
  have hbits (k : ℕ) (hstart : spec.layout.prefixBits ≤ k) (hk : k < 8 * spec.layout.wireBytes) :
      bitAt report k = bitAt other k := by
    obtain ⟨field, hmem, hle, hlt⟩ := htiles.covers k hstart hk
    obtain ⟨j, rfl⟩ := Nat.exists_eq_add_of_le hle
    rw [(h.holds field hmem).2 j (by omega), (h'.holds field hmem).2 j (by omega)]
  apply List.ext_getElem (by omega)
  intro i hi hi'
  have hbyte : (report.getD i 0).toNat = (other.getD i 0).toNat := by
    by_cases hid : spec.layout.hasReportId = true ∧ i = 0
    · rw [hid.2, h.reportId hid.1, h'.reportId hid.1]
    · have hstart : spec.layout.prefixBits ≤ 8 * i := by
        unfold ReportLayout.prefixBits
        split_ifs with hreport
        · have : i ≠ 0 := fun h0 => hid ⟨hreport, h0⟩
          omega
        · omega
      exact toNat_getD_eq fun k hk hk' => hbits k (by omega) (by omega)
  rw [List.getD_eq_getElem _ _ hi, List.getD_eq_getElem _ _ hi'] at hbyte
  exact UInt8.toNat_inj.mp hbyte

end Spec.Carries

end LibaoaHid

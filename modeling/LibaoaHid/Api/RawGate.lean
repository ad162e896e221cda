import LibaoaHid.Api.RawSubmit
import LibaoaHid.Profiles.RawSpecs

/-!
# The gate of raw submits

`aoahid_raw_submit` of `src/api/c_api.cpp` looks a report up in the table by its length and its
first byte, and tests its last byte against the mask at the same place. On a Spec of
`aoahid_spec_create_raw` this lets through exactly the reports that the descriptor describes.

## Main definitions

* `IsDescribedReport`: a byte string is an Input report of a descriptor.
* `rawSubmitPool`: the call from the transfer pool on.

## Main results

* `isDescribedReport_iff`, `IsDescribedReport.exists_accepts`: the two tests.
* `rawSubmit_gate`: which reports reach the transfer pool.
-/

namespace LibaoaHid

open Hid

/-! ### Described reports -/

/-- The bits of the Input fields with a Report ID. -/
def inputBits (r : Reading) (id : Option ℕ) : ℕ :=
  ((r.inputs.filter fun d => d.globals.reportId = id).map DataItem.bits).sum

/-- A byte string is the Input report of a descriptor with an ID: it starts with the ID, has the
bytes of the report, and clears every bit behind the declared ones. -/
structure IsDescribedReport (r : Reading) (id : Option ℕ) (report : List UInt8) : Prop where
  described : ∃ d ∈ r.inputs, d.globals.reportId = id
  starts : ∀ n, id = some n → report.head?.map UInt8.toNat = some n
  length : report.length = (if id.isSome then 1 else 0) + (inputBits r id + 7) / 8
  trailing : ∀ k, (if id.isSome then 8 else 0) + inputBits r id ≤ k → Bits.bitAt report k = false

/-- `aoahid_raw_submit`, from the transfer pool on. -/
def rawSubmitPool (node consumed : Node) (env : SubmitEnv) (report : List UInt8)
    (accepted : RawReport) : Submitted :=
  match env.acquire with
  | .error error =>
    { reply := finishTransportResult error "raw.submit"
        "No transfer slot could be acquired for raw AOA request 57." node 57 0
        (min report.length (2 ^ 32 - 1))
      node := consumed }
  | .ok _ => rawSubmitInto { consumed with transferInflight := true } env report accepted

/-! ### The table and the masks -/

section Table

variable {reports : List RawReport} {r : Reading} {entry : RawReport} {report : List UInt8}
  {id : Option ℕ}

theorem inputs_of_wellFormed (h : WellFormedRaw reports r) : r.inputs = r.data :=
  List.filter_eq_self.mpr fun d hd => by simp [(h.inputs d hd).kind]

theorem bitsOf_eq_inputBits (h : WellFormedRaw reports r) (id : Option ℕ) :
    bitsOf id r.data = (if id.isSome then 8 else 0) + inputBits r id := by
  rw [bitsOf, prefixBits, inputBits, inputs_of_wellFormed h]

/-- The look-up of a report takes its length and, with an ID, its first byte. -/
theorem RawReport.Canonical.accepts_iff (h : entry.Canonical) :
    entry.accepts report = true ↔ entry.wireLength.toNat = report.length ∧
      ∀ n, entry.identity = some n → report.head?.map UInt8.toNat = some n := by
  rw [accepts, identity, Bool.and_eq_true, beq_iff_eq]
  refine and_congr_right fun _ => ?_
  rcases h with ⟨hhas, -⟩ | ⟨hhas, -⟩
  · rw [hhas, if_pos rfl]
    cases report with
    | nil => simp
    | cons byte rest => simp [UInt8.toNat_inj]
  · simp [hhas]

/-- A byte against a mask. -/
theorem and_not_eq_zero (byte mask : UInt8) :
    byte &&& ~~~mask = 0 ↔ ∀ bit < 8, mask.toNat.testBit bit = false →
      byte.toNat.testBit bit = false := by
  have hbits (x : UInt8) (bit : ℕ) : x.toNat.testBit bit = x.toBitVec.getLsbD bit :=
    BitVec.testBit_toNat x.toBitVec
  simp only [hbits]
  rw [← UInt8.toBitVec_inj, UInt8.toBitVec_and, UInt8.toBitVec_not]
  constructor
  · intro h bit hbit hmask
    have hzero := congrArg (fun x : BitVec 8 => x.getLsbD bit) h
    simp only [BitVec.getLsbD_and, BitVec.getLsbD_not, hbit, hmask, decide_true, Bool.not_false,
      Bool.and_true] at hzero
    rw [hzero]
    exact BitVec.getLsbD_zero
  · intro h
    refine BitVec.eq_of_getLsbD_eq fun bit hbit => ?_
    have hclear := h bit hbit
    cases hmask : mask.toBitVec.getLsbD bit <;> simp_all

/-- A report with data items has bits. -/
theorem bitsOf_pos (h : WellFormedRaw reports r) (hd : ∃ d ∈ r.data, d.globals.reportId = id) :
    0 < bitsOf id r.data := by
  obtain ⟨d, hmem, hid⟩ := hd
  have hbits : 0 < d.bits := Nat.mul_pos (h.inputs d hmem).width_pos (h.inputs d hmem).count_pos
  have hle : d.bits ≤ bitsOf id r.data :=
    le_add_left (List.le_sum_of_mem (List.mem_map_of_mem
      (List.mem_filter.mpr ⟨hmem, by simp [hid]⟩)))
  exact lt_of_lt_of_le hbits hle

/-- The test of the last byte. -/
theorem masked_iff (h : WellFormedRaw reports r) (hentry : entry ∈ reports)
    (hlength : entry.wireLength.toNat = report.length) {mask : UInt8}
    (hmask : IsTrailingMask entry r mask) :
    report.getD (report.length - 1) 0 &&& ~~~mask = 0 ↔
      ∀ k, bitsOf entry.identity r.data ≤ k → Bits.bitAt report k = false := by
  have hpos := bitsOf_pos h ((h.described _).mp (List.mem_map_of_mem hentry))
  have hbytes := h.lengths entry hentry
  rw [hlength] at hbytes
  rw [and_not_eq_zero]
  constructor
  · intro hclear k hk
    rcases Nat.lt_or_ge (k / 8) report.length with hinside | hbehind
    · have hlast : k / 8 = report.length - 1 := by omega
      have hbit : k % 8 < 8 := Nat.mod_lt _ (by norm_num)
      rw [Bits.bitAt, hlast]
      refine hclear _ hbit ?_
      rw [hmask _ hbit, hlength]
      exact decide_eq_false (by omega)
    · rw [Bits.bitAt, List.getD_eq_getElem?_getD, List.getElem?_eq_none hbehind]
      simp
  · intro hclear bit hbit hunset
    rw [hmask bit hbit, hlength, decide_eq_false_iff_not] at hunset
    have hk := hclear (8 * (report.length - 1) + bit) (by omega)
    rw [Bits.bitAt] at hk
    rwa [show (8 * (report.length - 1) + bit) / 8 = report.length - 1 by omega,
      show (8 * (report.length - 1) + bit) % 8 = bit by omega] at hk

/-- Reports of one descriptor that start alike have one ID. -/
theorem identity_unique (h : WellFormedRaw reports r) (hentry : entry ∈ reports)
    (hid : ∃ d ∈ r.data, d.globals.reportId = id)
    (hstarts : ∀ n, id = some n → report.head?.map UInt8.toNat = some n)
    (haccepted : ∀ n, entry.identity = some n → report.head?.map UInt8.toNat = some n) :
    id = entry.identity := by
  obtain ⟨d, hd, rfl⟩ := hid
  obtain ⟨other, hother, hidentity⟩ := (h.described _).mp (List.mem_map_of_mem hentry)
  rw [← hidentity] at haccepted ⊢
  rcases h.reportIds with hnone | hsome
  · rw [hnone d hd, hnone other hother]
  · obtain ⟨n, hn, -⟩ := hsome d hd
    obtain ⟨m, hm, -⟩ := hsome other hother
    rw [hn, hm, ← hstarts n hn, ← haccepted m hm]

/-- **The two tests.** A report of the length and the ID of an entry that passes the mask is the
one that the descriptor describes. -/
theorem isDescribedReport_iff (h : WellFormedRaw reports r)
    (hcanonical : ∀ entry ∈ reports, entry.Canonical) (hentry : entry ∈ reports)
    (haccepts : entry.accepts report = true) {mask : UInt8} (hmask : IsTrailingMask entry r mask) :
    report.getD (report.length - 1) 0 &&& ~~~mask = 0 ↔ ∃ id, IsDescribedReport r id report := by
  obtain ⟨hlength, hstarts⟩ := (hcanonical entry hentry).accepts_iff.mp haccepts
  have hbytes := h.lengths entry hentry
  rw [masked_iff h hentry hlength hmask]
  constructor
  · intro hclear
    refine ⟨entry.identity, ?_, hstarts, ?_, ?_⟩
    · rw [inputs_of_wellFormed h]
      exact (h.described _).mp (List.mem_map_of_mem hentry)
    · rw [hlength, bitsOf_eq_inputBits h] at hbytes
      split_ifs at hbytes ⊢ <;> omega
    · rw [← bitsOf_eq_inputBits h]
      exact hclear
  · rintro ⟨id, hdescribed⟩
    have hid := hdescribed.described
    rw [inputs_of_wellFormed h] at hid
    have hclear := hdescribed.trailing
    rw [← bitsOf_eq_inputBits h, identity_unique h hentry hid hdescribed.starts hstarts] at hclear
    exact hclear

/-- A described report has an entry that takes its length and its ID. -/
theorem IsDescribedReport.exists_accepts (h : WellFormedRaw reports r)
    (hcanonical : ∀ entry ∈ reports, entry.Canonical) (hreport : IsDescribedReport r id report) :
    ∃ entry ∈ reports, entry.accepts report = true := by
  have hid := hreport.described
  rw [inputs_of_wellFormed h] at hid
  obtain ⟨entry, hentry, rfl⟩ := List.mem_map.mp ((h.described id).mpr hid)
  refine ⟨entry, hentry, (hcanonical entry hentry).accepts_iff.mpr ⟨?_, hreport.starts⟩⟩
  rw [h.lengths entry hentry, bitsOf_eq_inputBits h, hreport.length]
  split_ifs <;> omega

end Table

/-! ### The gate -/

/-- The Node behind the look at its completion. -/
def Node.withoutRecord (node : Node) : Node :=
  { node with
    completionNativeStatus := 0
    completionReportLength := 0
    completionReportId := 0 }

theorem Node.withoutRecord_eq {node : Node} (hstatus : node.completionNativeStatus = 0)
    (hlength : node.completionReportLength = 0) (hid : node.completionReportId = 0) :
    node.withoutRecord = node := by
  cases node
  cases hstatus
  cases hlength
  cases hid
  rfl

private theorem consumeCompletion_ok {node : Node} (h : node.completionResult = .ok)
    (field : String) : consumeCompletion node field = (.ok, node.withoutRecord) := by
  cases node
  cases h
  rfl

/-- The call behind the checks of the Node: the look-up, and the mask. -/
private theorem rawSubmit_eq {node : Node} {env : SubmitEnv} {report : List UInt8}
    (hlive : ¬(node.closed = true ∨ node.spec.kind ≠ .raw)) (hdeferred : env.deferred = none)
    (hidle : node.transferInflight = false) (hreported : node.completionResult = .ok) :
    rawSubmit node (some report) env =
      let raw := node.spec.config.rawConfig
      let index := raw.reports.findIdx (·.accepts report)
      match raw.reports[index]? with
      | none =>
        { reply := .fail .errParam "raw.report"
            "The report ID or exact wire length is not accepted by the raw spec."
          node := node.withoutRecord }
      | some accepted =>
        if report.getD (report.length - 1) 0 &&& ~~~raw.trailingValidMasks.getD index 0 ≠ 0 then
          { reply := .fail .errParam "raw.report.trailing_padding"
              "Unused trailing Input-report bits must be zero." 0 57 node.hidId
              (if accepted.hasReportId = 1 then accepted.reportId.toNat else 0)
              (report.length - 1) 1
            node := node.withoutRecord }
        else rawSubmitPool node node.withoutRecord env report accepted := by
  have hok : ¬(Reply.ok.result ≠ .ok) := not_not.mpr rfl
  rw [rawSubmit]
  dsimp only
  rw [if_neg hlive, hdeferred]
  dsimp only
  rw [if_neg (by rw [hidle]; decide), consumeCompletion_ok hreported]
  dsimp only
  rw [if_neg hok]
  rfl

/-- **The gate of raw submits.** On an idle Node of a Raw Spec, without an unreported completion and
without a deferred error, a byte string reaches the transfer pool when it is an Input report that
the descriptor describes. Every other one is refused with `AOAHID_ERR_PARAM`, and the Node stays as
it is, but for the record of a successful completion that the call consumes before the look-up. -/
theorem rawSubmit_gate {o : RawOptions} {spec : Spec} (hcreate : createRaw (some o) = .ok spec)
    {node : Node} (hspec : node.spec = spec) (hopen : node.closed = false)
    (hidle : node.transferInflight = false) (hreported : node.completionResult = .ok) :
    ∃ items r, o.descriptor = encodeItems items ∧ readItems {} items = some r ∧
      (node.completionNativeStatus = 0 → node.completionReportLength = 0 →
        node.completionReportId = 0 → node.withoutRecord = node) ∧
      ∀ (report : List UInt8) (env : SubmitEnv), env.deferred = none →
        ((∃ id, IsDescribedReport r id report) → ∃ entry ∈ o.reports,
          rawSubmit node (some report) env =
            rawSubmitPool node node.withoutRecord env report entry) ∧
        ((¬∃ id, IsDescribedReport r id report) → ∃ error,
          rawSubmit node (some report) env =
            { reply := ⟨.errParam, error⟩, node := node.withoutRecord }) := by
  obtain ⟨items, r, masks, hdescriptor, hreading, hwell, hcanonical, hkind, hconfig, hmasks⟩ :=
    createRaw_wellFormed hcreate
  refine ⟨items, r, hdescriptor, hreading, Node.withoutRecord_eq, fun report env hdeferred => ?_⟩
  have hraw : node.spec.config.rawConfig =
      { reports := o.reports, trailingValidMasks := masks } := by
    rw [hspec, hconfig]
    rfl
  have hlive : ¬(node.closed = true ∨ node.spec.kind ≠ .raw) := by
    rw [hopen, hspec, hkind]
    simp
  rw [rawSubmit_eq hlive hdeferred hidle hreported, hraw]
  dsimp only
  cases hfound : o.reports[o.reports.findIdx (·.accepts report)]? with
  | none =>
    have hno : ¬∃ id, IsDescribedReport r id report := by
      rintro ⟨id, hreport⟩
      obtain ⟨entry, hentry, haccepts⟩ := hreport.exists_accepts hwell hcanonical
      exact absurd (List.findIdx_lt_length_of_exists ⟨entry, hentry, haccepts⟩)
        (not_lt.mpr (List.getElem?_eq_none_iff.mp hfound))
    exact ⟨fun hreport => absurd hreport hno, fun _ => ⟨_, rfl⟩⟩
  | some entry =>
    obtain ⟨hlt, hget⟩ := List.getElem?_eq_some_iff.mp hfound
    have haccepts : entry.accepts report = true := by
      rw [← hget]
      exact @List.findIdx_getElem _ (·.accepts report) o.reports hlt
    have hentry : entry ∈ o.reports := List.mem_of_getElem? hfound
    have hgate := isDescribedReport_iff hwell hcanonical hentry haccepts (hmasks _ entry hfound)
    constructor
    · intro hreport
      refine ⟨entry, hentry, ?_⟩
      dsimp only
      rw [if_neg (not_not.mpr (hgate.mpr hreport))]
    · intro hreport
      dsimp only
      rw [if_pos fun hmasked => hreport (hgate.mp hmasked)]
      exact ⟨_, rfl⟩

/-- A Node of the pointer. -/
def pointerNode : Node := { spec := rawPointer, state := .raw }

/-- The pool has a slot for one byte, and libusb accepts the report. -/
def pointerSubmit : SubmitEnv where
  acquire := .ok [0]

/-- A byte with the button is a report of the pointer, and is accepted; a byte with another bit is
none, and is refused. -/
theorem rawSubmit_gate_pointer : ∃ items r,
    pointerDescriptor = encodeItems items ∧ readItems {} items = some r ∧
      (∃ id, IsDescribedReport r id [1]) ∧
      (rawSubmit pointerNode (some [1]) pointerSubmit).accepted = some [1] ∧
      (¬∃ id, IsDescribedReport r id [2]) ∧
      (rawSubmit pointerNode (some [2]) pointerSubmit).reply.result = .errParam := by
  obtain ⟨items, r, hdescriptor, hreading, -, hreports⟩ :=
    @rawSubmit_gate _ _ createRaw_pointer pointerNode rfl rfl rfl rfl
  have haccepted : (rawSubmit pointerNode (some [1]) pointerSubmit).reply.result = .ok := by
    decide +kernel
  have hrefused : (rawSubmit pointerNode (some [2]) pointerSubmit).reply.result = .errParam := by
    decide +kernel
  refine ⟨items, r, hdescriptor, hreading, ?_, by decide +kernel, ?_, hrefused⟩
  · by_contra hnone
    obtain ⟨error, heq⟩ := (hreports [1] pointerSubmit rfl).2 hnone
    rw [heq] at haccepted
    cases haccepted
  · intro hreport
    obtain ⟨entry, hentry, heq⟩ := (hreports [2] pointerSubmit rfl).1 hreport
    obtain rfl := List.mem_singleton.mp hentry
    have hpool : (rawSubmitPool pointerNode pointerNode.withoutRecord pointerSubmit [2]
        ⟨0, 0, 0, 1⟩).reply.result = .ok := by decide +kernel
    rw [← heq, hrefused] at hpool
    cases hpool

end LibaoaHid

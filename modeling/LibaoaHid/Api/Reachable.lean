import LibaoaHid.Api.Moves

/-!
# Reachable Nodes and their reports

A Node of a generated Spec, opened and then driven by profile calls, submits, completions and
neutralizations in any order. Such a Node never meets an internal error, and the report it
serializes gives every selected value back.

## Main definitions

* `Reachable`: the Nodes of a Spec.
* `BeforeClose`: the states before a close.

## Main results

* `no_internal_error`: calls, serializer and validator never fail internally.
* `report_roundTrip`: the report and its fields.
-/

namespace LibaoaHid

open Bits

/-! ### Reachable Nodes -/

/-- The Nodes that a Spec can have: what `aoahid_node_open` publishes, and what follows from a
profile call, a submit, the completion of a report in flight with any outcome, the neutralization
of a close, and the read of a completion. -/
inductive Reachable (spec : Spec) : Node → Prop
  | opened {hidId : ℕ} {node : Node} (h : openNode spec hidId = some node) : Reachable spec node
  | call {node : Node} (h : Reachable spec node) (call : Call) (link : Link) :
      Reachable spec (call.perform link node).2
  | submit {node : Node} (h : Reachable spec node) (env : SubmitEnv) :
      Reachable spec (nodeSubmit node env).node
  | complete {node : Node} (h : Reachable spec node) (hinflight : node.transferInflight = true)
      (result : Result) (nativeStatus : ℤ) :
      Reachable spec (transferComplete node result nativeStatus)
  | neutral {node : Node} (h : Reachable spec node) : Reachable spec (makeNeutral node)
  | consume {node : Node} (h : Reachable spec node) (field : String) :
      Reachable spec (consumeCompletion node field).2

/-- A generated Spec always opens a Node. -/
theorem isSome_openNode {spec : Spec} (h : Generated spec) (hidId : ℕ) :
    (openNode spec hidId).isSome := by
  have haccepted := h.sound.accepted
  unfold openNode initializeNodeState
  rw [Option.isSome_map]
  cases hkind : spec.kind <;> cases hconfig : spec.config <;>
    rw [hkind, hconfig] at haccepted <;> first | exact haccepted.elim | rfl

theorem perform_spec (call : Call) (link : Link) (node : Node) :
    (call.perform link node).2.spec = node.spec := by
  unfold Call.perform
  split <;> rfl

/-- **Reachable Nodes fit their Spec.** -/
theorem Reachable.fits {spec : Spec} (hspec : Generated spec) {node : Node}
    (h : Reachable spec node) : node.Fits ∧ node.spec = spec := by
  induction h with
  | @opened hidId node h =>
    refine ⟨fits_openNode hspec.sound h, ?_⟩
    obtain ⟨state, -, rfl⟩ := Option.map_eq_some_iff.mp h
    rfl
  | @call node _ call link ih =>
    exact ⟨ih.1.perform call link, (perform_spec call link node).trans ih.2⟩
  | @submit node _ env ih =>
    rcases nodeSubmit_cases ih.1 env with ⟨-, hsame⟩ | ⟨report, heq, -, hdirty, -⟩
    · exact ⟨hsame.fits ih.1, hsame.spec.trans ih.2⟩
    · rw [heq]
      exact ⟨ih.1.sent hdirty env.now, (Node.sent_spec node env.now).trans ih.2⟩
  | complete _ hinflight result nativeStatus ih =>
    exact ⟨ih.1.transferComplete hinflight result nativeStatus,
      (System.transferComplete_spec_dirty _ _ _).1.trans ih.2⟩
  | neutral _ ih => exact ⟨ih.1.makeNeutral, ih.2⟩
  | @consume node _ field ih =>
    have hsame := same_consumeCompletion node field
    exact ⟨hsame.fits ih.1, hsame.spec.trans ih.2⟩

/-! ### States before a close -/

/-- The states before a close, those inside of the blocking loops included: what follows from a
call, a submit, a completion, and the read of a completion. -/
inductive BeforeClose (spec : Spec) : System → Prop
  | opened {hidId : ℕ} {s : System} (h : System.opened spec hidId = some s) : BeforeClose spec s
  | call {s : System} (h : BeforeClose spec s) (c : Call) (link : Link) :
      BeforeClose spec (s.call c link).2
  | submit {s : System} (h : BeforeClose spec s) (env : SubmitEnv) :
      BeforeClose spec (s.submit env).2
  | complete {s : System} (h : BeforeClose spec s) (status : TransferStatus)
      (actualLength : ℕ) : BeforeClose spec (s.complete status actualLength)
  | consume {s : System} (h : BeforeClose spec s) (field : String) :
      BeforeClose spec (s.consume field).2

namespace BeforeClose

variable {spec : Spec} {s : System}

theorem poll (h : BeforeClose spec s) (turn : PollTurn) : BeforeClose spec (s.poll turn) := by
  unfold System.poll
  split
  · exact h
  · exact h.complete _ _

theorem pollTurn (h : BeforeClose spec s) (turn : PollTurn) :
    BeforeClose spec (pollTurn s turn).2 := by
  have hconsume := h.consume "node.completion"
  unfold LibaoaHid.pollTurn
  dsimp only
  split
  · split <;> exact h.poll turn
  split
  · exact hconsume
  split
  · exact hconsume
  have hsubmit := hconsume.submit turn.submit
  split
  · exact hsubmit
  · split <;> exact hsubmit.poll turn

theorem pollLoop : {rest : List PollTurn} → {s : System} → {turn : PollTurn} →
    BeforeClose spec s → BeforeClose spec (pollLoop s turn rest).2
  | [], s, turn, h => by
    have hturn := h.pollTurn turn
    unfold LibaoaHid.pollLoop
    split <;> next heq => rwa [heq] at hturn
  | next :: rest, s, turn, h => by
    have hturn := h.pollTurn turn
    unfold LibaoaHid.pollLoop
    split
    next heq => rwa [heq] at hturn
    next heq =>
      rw [heq] at hturn
      exact pollLoop hturn

theorem pollUntilIdle (h : BeforeClose spec s) (script : PollScript) :
    BeforeClose spec (pollUntilIdle s script).2 := by
  unfold LibaoaHid.pollUntilIdle
  split
  · exact h
  · exact h.pollLoop

/-- The states of a run without a close. -/
theorem run : (events : List Event) → (∀ e ∈ events, e.isClose = false) → {s : System} →
    BeforeClose spec s → BeforeClose spec (s.run events)
  | [], _, _, h => h
  | e :: events, hopen, s, h => by
    refine run events (fun e he => hopen e (List.mem_cons_of_mem _ he)) ?_
    cases e with
    | call c link => exact h.call c link
    | submit env => exact h.submit env
    | submitBlocking script =>
      change BeforeClose spec (nodeSubmitBlocking s script).2
      unfold nodeSubmitBlocking
      split
      · exact h
      · split
        · exact h
        · exact h.pollUntilIdle _
    | complete status actualLength => exact h.complete status actualLength
    | close env => simpa [Event.isClose] using hopen _ List.mem_cons_self

/-- The states before a close fit. -/
theorem fits (hsound : spec.Sound) (h : BeforeClose spec s) :
    s.Fits ∧ s.node.spec = spec := by
  have hmoves {s s' : System} (hmoves : Relation.ReflTransGen System.ReportMove s s')
      (h : s.Fits ∧ s.node.spec = spec) : s'.Fits ∧ s'.node.spec = spec := by
    induction hmoves with
    | refl => exact h
    | tail _ hmove ih => exact ⟨hmove.fits ih.1, hmove.spec_eq.trans ih.2⟩
  induction h with
  | opened h =>
    refine ⟨System.fits_opened hsound h, ?_⟩
    obtain ⟨node, hnode, rfl⟩ := Option.map_eq_some_iff.mp h
    obtain ⟨state, -, rfl⟩ := Option.map_eq_some_iff.mp hnode
    rfl
  | call _ c link ih => exact ⟨ih.1.call c link, (perform_spec c link _).trans ih.2⟩
  | submit _ env ih => exact hmoves (System.submit_moves ih.1 env) ih
  | complete _ status actualLength ih =>
    exact hmoves (System.complete_moves _ status actualLength) ih
  | consume _ field ih => exact hmoves (System.consume_moves _ field) ih

end BeforeClose

/-- A Node keeps its Spec. -/
theorem System.moves_spec_eq {s s' : System} (h : Relation.ReflTransGen System.Move s s')
    (hfits : s.Fits) : s'.node.spec = s.node.spec := by
  refine (moves_invariant (P := fun s' => s'.node.spec = s.node.spec)
    (fun s₁ s₂ _ h₁ hmove => Eq.trans ?_ h₁) h hfits rfl).2
  cases hmove with
  | call c link => exact perform_spec c link s₁.node
  | close hmove => exact hmove.spec_eq

theorem System.run_spec_eq {s : System} (hfits : s.Fits) (events : List Event) :
    (s.run events).node.spec = s.node.spec :=
  moves_spec_eq (run_moves events hfits) hfits

/-! ### Internal errors -/

/-- **Generated Nodes never fail internally.** No call answers the internal error; and a dirty
Node without a report in flight serializes into every buffer of the wire length, with a report
that the validator accepts. -/
theorem no_internal_error {spec : Spec} (hspec : Generated spec) {node : Node}
    (hreach : Reachable spec node) :
    (∀ (call : Call) (link : Link), (call.perform link node).1.result ≠ .errInternal) ∧
    (node.dirty = true → node.transferInflight = false → ∀ (now : ℤ) (buffer : List UInt8),
      spec.layout.wireBytes ≤ buffer.length →
      (serializeNode (updateScanTime node now) buffer).reply.result = .ok ∧
      (serializeNode (updateScanTime node now) buffer).reportLength = spec.layout.wireBytes ∧
      (validateSerializedReport spec
        ((serializeNode (updateScanTime node now) buffer).buffer.take
          (serializeNode (updateScanTime node now) buffer).reportLength)).result = .ok) := by
  obtain ⟨hfits, rfl⟩ := hreach.fits hspec
  constructor
  · intro call link
    rcases call.perform_cases hfits.fitting link with ⟨reply, hrefuses, heq⟩ | ⟨_, _, -, -, heq⟩
    · rw [heq]
      exact hrefuses.ne_internal
    · rw [heq]
      simp
  · intro hdirty hidle now buffer hbuffer
    have hser := hfits.serializable_stamped hdirty now
    rw [updateScanTime_eq]
    obtain ⟨written, heq, hcarries⟩ := serializeNode_eq
      { node with state := node.state.stamped node.spec.config now } buffer hfits.sound hser hbuffer
    rw [heq]
    exact ⟨rfl, rfl, by rw [hcarries.validate hfits.sound hser]; rfl⟩

theorem eq_ok_get {α ε : Type} (e : Except ε α) {h : e.toOption.isSome} :
    e = .ok (e.toOption.get h) := by
  cases e with
  | error => simp [Except.toOption] at h
  | ok => rfl

/-- The options of a mouse with a Report ID. -/
def sampleMouseOptions : MouseOptions where
  structSize := MouseOptions.size
  reportId := { enabled := 1, value := 7 }
  buttonCount := 3
  x := { logicalMinimum := -127, logicalMaximum := 127, bitWidth := 8 }
  y := { logicalMinimum := -2047, logicalMaximum := 2047, bitWidth := 12 }
  enableWheel := 1
  wheel := { logicalMinimum := -7, logicalMaximum := 7, bitWidth := 4 }

/-- A mouse with three buttons and a wheel. -/
def sampleMouse : Spec := (createMouse (some sampleMouseOptions)).toOption.get (by decide)

theorem generated_sampleMouse : Generated sampleMouse :=
  .mouse (o := sampleMouseOptions) (eq_ok_get _)

/-- The sample mouse, opened. -/
def sampleOpened : System :=
  (System.opened sampleMouse 1).get (by
    rw [System.opened, Option.isSome_map]
    exact isSome_openNode generated_sampleMouse 1)

theorem opened_sampleOpened : System.opened sampleMouse 1 = some sampleOpened :=
  (Option.some_get _).symm

/-- The options of a touchpad with a button and Scan Time, whose reports carry one contact. -/
def sampleTouchpadOptions : TouchpadOptions where
  structSize := TouchpadOptions.size
  maximumContacts := 2
  contactsPerReport := 1
  contactIdentifier := { logicalMinimum := 0, logicalMaximum := 15, bitWidth := 4 }
  x := { logicalMinimum := 0, logicalMaximum := 1023, bitWidth := 10 }
  y := { logicalMinimum := 0, logicalMaximum := 1023, bitWidth := 10 }
  contactCount := { logicalMinimum := 0, logicalMaximum := 2, bitWidth := 4 }
  enableScanTime := 1
  scanTime := { logicalMinimum := 0, logicalMaximum := 65535, bitWidth := 16 }
  scanTimeUnit100us := 1
  enableMultiPacketFrames := 1
  buttonCount := 1

/-- A touchpad for two contacts. -/
def sampleTouchpad : Spec :=
  (createTouchpad (some sampleTouchpadOptions)).toOption.get (by decide +kernel)

theorem generated_sampleTouchpad : Generated sampleTouchpad :=
  .touchpad (o := sampleTouchpadOptions) (eq_ok_get _)

/-- The sample touchpad, opened. -/
def openedTouchpad : System :=
  (System.opened sampleTouchpad 1).get (by
    rw [System.opened, Option.isSome_map]
    exact isSome_openNode generated_sampleTouchpad 1)

theorem opened_openedTouchpad : System.opened sampleTouchpad 1 = some openedTouchpad :=
  (Option.some_get _).symm

/-- The sample mouse after a movement. -/
def movedMouse : Node :=
  ((Call.mouseMove 200 (-5)).perform .present ((openNode sampleMouse 1).get
    (isSome_openNode generated_sampleMouse 1))).2

theorem reachable_movedMouse : Reachable sampleMouse movedMouse :=
  .call (.opened (Option.some_get _).symm) _ _

theorem no_internal_error_movedMouse :
    (∀ (call : Call) (link : Link), (call.perform link movedMouse).1.result ≠ .errInternal) ∧
    (serializeNode (updateScanTime movedMouse 0) (List.replicate 8 0xFF)).reply.result = .ok := by
  obtain ⟨hcalls, hreport⟩ := no_internal_error generated_sampleMouse reachable_movedMouse
  exact ⟨hcalls, (hreport (by decide) (by decide) 0 _ (by decide)).1⟩

/-! ### Reports -/

/-- **Round trip.** The report of a dirty Node without a report in flight, with its Scan Time
stamped or not, and into a buffer with any previous contents: every field reads as the value that
the serializer selected; a Null reads outside the logical range; the fields and the Report ID byte
partition the bits of the report; padding is clear; and byte 0 is the Report ID. -/
theorem report_roundTrip {spec : Spec} (hspec : Generated spec) {node : Node}
    (hreach : Reachable spec node) (hdirty : node.dirty = true)
    (hidle : node.transferInflight = false) {serialized : Node}
    (hserialized : serialized = node ∨ ∃ now, serialized = updateScanTime node now)
    (buffer : List UInt8) {report : List UInt8} (hbuffer : spec.layout.wireBytes ≤ buffer.length)
    (hreport : report = (serializeNode serialized buffer).buffer.take spec.layout.wireBytes) :
    (serializeNode serialized buffer).reply.result = .ok ∧
    (serializeNode serialized buffer).reportLength = spec.layout.wireBytes ∧
    report.length = spec.layout.wireBytes ∧
    (∀ field ∈ spec.layout.fields, ∀ selected,
      fieldValue spec.config serialized.state field = some selected →
      fieldReading report field = selected.value ∧
      (selected.allowNull = true → ¬(field.logicalMinimum ≤ fieldReading report field ∧
        fieldReading report field ≤ field.logicalMaximum))) ∧
    (∀ field ∈ spec.layout.fields, 1 ≤ field.bitWidth ∧ field.bitWidth ≤ 32 ∧
      spec.layout.prefixBits ≤ field.bitOffset ∧
      field.bitOffset + field.bitWidth ≤ spec.layout.wireBytes * 8) ∧
    spec.layout.fields.Pairwise
      (fun first second => first.bitOffset + first.bitWidth ≤ second.bitOffset) ∧
    (∀ k < spec.layout.wireBytes * 8, k < spec.layout.prefixBits ∨
      ∃ field ∈ spec.layout.fields, field.bitOffset ≤ k ∧ k < field.bitOffset + field.bitWidth) ∧
    (∀ field ∈ spec.layout.fields, field.semantic = .constantPadding → ∀ j < field.bitWidth,
      bitAt report (field.bitOffset + j) = false) ∧
    (spec.layout.hasReportId = true → (report.getD 0 0).toNat = spec.layout.reportId) := by
  obtain ⟨hfits, rfl⟩ := hreach.fits hspec
  have hstate : serialized.spec = node.spec ∧ node.spec.Serializable serialized.state := by
    rcases hserialized with rfl | ⟨now, rfl⟩
    · exact ⟨rfl, serializable_of_fits hfits.sound hfits.state (hfits.reportable (Or.inl hdirty))⟩
    · rw [updateScanTime_eq]
      exact ⟨rfl, hfits.serializable_stamped hdirty now⟩
  obtain ⟨hspecEq, hser⟩ := hstate
  obtain ⟨written, heq, hcarries⟩ := serializeNode_eq serialized buffer
    (hspecEq ▸ hfits.sound) (hspecEq ▸ hser) (hspecEq ▸ hbuffer)
  rw [hspecEq] at heq hcarries
  rw [heq] at hreport ⊢
  subst hreport
  have htiles := hfits.sound.layout.tiles
  refine ⟨rfl, rfl, hcarries.length, fun field hmem selected hselected => ?_,
    fun field hmem => ?_, htiles.pairwise, fun k hk => ?_, fun field hmem hpadding j hj => ?_,
    hcarries.reportId⟩
  · refine ⟨?_, hcarries.reading_null hfits.sound hser hmem hselected⟩
    rw [hcarries.reading hfits.sound hser hmem, selectedValue_of_fieldValue hselected]
  · have hinside := htiles.inside field hmem
    have hwf := hfits.sound.layout.fields field hmem
    have := hwf.pos
    have := hwf.le
    omega
  · by_cases hid : k < node.spec.layout.prefixBits
    · exact Or.inl hid
    · exact Or.inr (htiles.covers k (by omega) (by omega))
  · rw [(hcarries.holds field hmem).2 j hj, selectedValue, fieldValue_eq_none_iff.mpr hpadding]
    simp [encodeValue]

theorem report_roundTrip_movedMouse :
    (serializeNode movedMouse (List.replicate 8 0xFF)).reply.result = .ok ∧
    (∀ field ∈ sampleMouse.layout.fields, ∀ selected,
      fieldValue sampleMouse.config movedMouse.state field = some selected →
      fieldReading ((serializeNode movedMouse (List.replicate 8 0xFF)).buffer.take
        sampleMouse.layout.wireBytes) field = selected.value) := by
  obtain ⟨hok, -, -, hfields, -⟩ := report_roundTrip generated_sampleMouse reachable_movedMouse
    (by decide) (by decide) (Or.inl rfl) (List.replicate 8 0xFF) (by decide) rfl
  exact ⟨hok, fun field hmem selected hselected => (hfields field hmem selected hselected).1⟩

end LibaoaHid

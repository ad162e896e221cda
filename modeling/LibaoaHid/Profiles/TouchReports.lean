import LibaoaHid.Profiles.Readings
import Mathlib.Data.List.Nodup

/-!
# Touch reports from the other side

What the other side makes of the reports of a touch Node. A report has as many contact records as
the descriptor declares; Contact Count tells in the first packet of a frame how many contacts the
frame has, and the later packets carry a zero. So the records that a packet uses follow from what
its frame still has left.

## Main definitions

* `ContactRecord`, `ReportLayout.recordAt`: a contact record of a report.
* `TouchPacket`, `TouchPacket.decode`: a packet as the other side reads it.
* `TouchState.packet`: the packet of a touch state.

## Main results

* `recordAt_of_carries`: the records of the report of a state, used and unused.
* `decode_of_carries`: the other side reads the packet of the state.
-/

namespace LibaoaHid

/-! ### Reading by semantic and index -/

/-- The reading of the first field with a semantic and an index; zero when there is none. -/
def ReportLayout.readingAt (layout : ReportLayout) (report : List UInt8)
    (semantic : FieldSemantic) (index : ℕ) : ℤ :=
  match layout.fields.find? fun field =>
    field.semantic = semantic ∧ field.instanceIndex = index with
  | some field => fieldReading report field
  | none => 0

section Readings

variable {spec : Spec} {state : NodeState} {report : List UInt8} {semantic : FieldSemantic}
  {index : ℕ}

/-- A declared field reads as selected. -/
theorem readingAt_of_declared (hcarries : spec.Carries state report) (hsound : spec.Sound)
    (hfits : state.Fits spec.config) (hreport : state.Reportable spec.config) {d : FieldDecl}
    (hd : d ∈ spec.config.declaredFields) (hsemantic : d.semantic = semantic)
    (hindex : d.instanceIndex = index) :
    ∃ field : FieldLayout, field.semantic = semantic ∧ field.instanceIndex = index ∧
      spec.layout.readingAt report semantic index = selectedValue spec.config state field := by
  rw [← hsound.declared] at hd
  obtain ⟨declared, hmem, rfl⟩ := ReportLayout.exists_field_of_mem_declared hd
  unfold ReportLayout.readingAt
  cases hfind : spec.layout.fields.find? fun field =>
      field.semantic = semantic ∧ field.instanceIndex = index with
  | none =>
    have hnone := List.find?_eq_none.mp hfind declared hmem
    simp only [decide_eq_true_eq] at hnone
    exact absurd ⟨hsemantic, hindex⟩ hnone
  | some field =>
    have hfield := List.find?_some hfind
    simp only [decide_eq_true_eq] at hfield
    exact ⟨field, hfield.1, hfield.2,
      hcarries.reading_of_fits hsound hfits hreport (List.mem_of_find?_eq_some hfind)⟩

/-- An undeclared field reads as zero. -/
theorem readingAt_of_undeclared (hsound : spec.Sound) (hpadding : semantic ≠ .constantPadding)
    (h : ∀ d ∈ spec.config.declaredFields, d.semantic ≠ semantic) :
    spec.layout.readingAt report semantic index = 0 := by
  unfold ReportLayout.readingAt
  rw [List.find?_eq_none.mpr]
  intro field hmem hfield
  simp only [decide_eq_true_eq] at hfield
  have hdecl := ReportLayout.decl_mem_declared hmem (hfield.1 ▸ hpadding)
  rw [hsound.declared] at hdecl
  exact h field.decl hdecl hfield.1

end Readings

/-! ### Contact records -/

/-- A contact as a report carries it. A value that the descriptor does not declare is zero. -/
structure ContactRecord where
  contactId : ℤ := 0
  tip : ℤ := 0
  x : ℤ := 0
  y : ℤ := 0
  pressure : ℤ := 0
  width : ℤ := 0
  height : ℤ := 0
  azimuth : ℤ := 0
  deriving DecidableEq, Repr

attribute [ext] ContactRecord

/-- The contact record of a report at an index. -/
def ReportLayout.recordAt (layout : ReportLayout) (report : List UInt8) (index : ℕ) :
    ContactRecord where
  contactId := layout.readingAt report .contactId index
  tip := layout.readingAt report .tip index
  x := layout.readingAt report .x index
  y := layout.readingAt report .y index
  pressure := layout.readingAt report .pressure index
  width := layout.readingAt report .width index
  height := layout.readingAt report .height index
  azimuth := layout.readingAt report .azimuth index

/-- The record of a contact. A contact that is down has at least pressure one, a lifted one has
none. -/
def ContactState.record (f : TouchFields) (contact : ContactState) : ContactRecord where
  contactId := contact.sample.contactId.toNat
  tip := if contact.phase = .down then 1 else 0
  x := contact.sample.x.toInt
  y := contact.sample.y.toInt
  pressure :=
    if f.enablePressure = 1 then
      if contact.phase = .down then max contact.sample.pressure.toInt 1 else 0
    else 0
  width := if f.enableWidth = 1 then contact.sample.width.toInt else 0
  height := if f.enableHeight = 1 then contact.sample.height.toInt else 0
  azimuth := if f.enableAzimuth = 1 then contact.sample.azimuth.toInt else 0

section Records

variable {spec : Spec} {c : TouchConfig} {touch : TouchState} {report : List UInt8}

private theorem mem_declared_of_contact {index : ℕ}
    (hindex : index < c.fields.contactsPerReport.toNat)
    {d : FieldDecl} (hd : d ∈ contactDecls c.fields index) :
    d ∈ (SpecConfig.touch c).declaredFields := by
  simp only [SpecConfig.declaredFields, List.mem_append, List.mem_flatMap, List.mem_range]
  exact Or.inl (Or.inl (Or.inl ⟨index, hindex, hd⟩))

/-- The semantics of a contact, those behind a flag with their flag. -/
private theorem semantic_of_contact {index : ℕ} {d : FieldDecl}
    (hd : d ∈ contactDecls c.fields index) :
    (d.semantic = .pressure → c.fields.enablePressure = 1) ∧
      (d.semantic = .width → c.fields.enableWidth = 1) ∧
      (d.semantic = .height → c.fields.enableHeight = 1) ∧
      (d.semantic = .azimuth → c.fields.enableAzimuth = 1) := by
  simp only [contactDecls, List.mem_append, List.mem_cons, List.not_mem_nil, or_false,
    mem_optionalDecl] at hd
  rcases hd with ((((rfl | rfl | rfl | rfl) | ⟨h, rfl⟩) | ⟨h, rfl⟩) | ⟨h, rfl⟩) | ⟨h, rfl⟩ <;>
    simp [bitDecl, integerDecl, *]

/-- An optional contact field that is switched off is not declared. -/
private theorem semantic_ne_of_disabled {semantic : FieldSemantic}
    (h : ∀ index, ∀ d ∈ contactDecls c.fields index, d.semantic ≠ semantic)
    (hscan : semantic ≠ .scanTime) (hcount : semantic ≠ .contactCount)
    (hbuttons : semantic ≠ .buttons) :
    ∀ d ∈ (SpecConfig.touch c).declaredFields, d.semantic ≠ semantic := by
  intro d hd
  simp only [SpecConfig.declaredFields, List.mem_append, List.mem_flatMap, List.mem_singleton,
    mem_bitDecls, mem_optionalDecl] at hd
  rcases hd with ((⟨index, -, hd⟩ | ⟨-, rfl⟩) | rfl) | ⟨index, -, rfl⟩
  · exact h index d hd
  · exact hscan.symm
  · exact hcount.symm
  · exact hbuttons.symm

/-- The value that the serializer selects for a contact field. -/
private theorem selectedValue_contact {field : FieldLayout}
    {value : ContactState → ℤ}
    (h : fieldValue (.touch c) (.touch touch) field =
      some ⟨match (collectTouch touch)[touch.packetCursor + field.instanceIndex]? with
        | some contact => value contact
        | none => 0, false⟩) :
    selectedValue (.touch c) (.touch touch) field =
      ((collectTouch touch)[touch.packetCursor + field.instanceIndex]?.map value).getD 0 := by
  unfold selectedValue
  rw [h]
  cases (collectTouch touch)[touch.packetCursor + field.instanceIndex]? <;> rfl

variable (hcarries : spec.Carries (.touch touch) report) (hsound : spec.Sound)
  (hconfig : spec.config = .touch c) (hfits : touch.Fits c.fields)

include hcarries hsound hconfig hfits

/-- A declared contact field of the report of a state. -/
private theorem readingAt_contact {index : ℕ} (hindex : index < c.fields.contactsPerReport.toNat)
    {d : FieldDecl} (hd : d ∈ contactDecls c.fields index) (hinstance : d.instanceIndex = index)
    (value : ContactState → ℤ)
    (hvalue : ∀ field : FieldLayout, field.semantic = d.semantic →
      fieldValue (.touch c) (.touch touch) field =
        some ⟨match (collectTouch touch)[touch.packetCursor + field.instanceIndex]? with
          | some contact => value contact
          | none => 0, false⟩) :
    spec.layout.readingAt report d.semantic index =
      ((collectTouch touch)[touch.packetCursor + index]?.map value).getD 0 := by
  obtain ⟨field, hsemantic, hfield, hread⟩ := readingAt_of_declared hcarries hsound
    (hconfig ▸ hfits : NodeState.Fits spec.config (.touch touch))
    (hconfig ▸ trivial : NodeState.Reportable spec.config (.touch touch))
    (hconfig ▸ mem_declared_of_contact hindex hd) rfl hinstance
  rw [hread, hconfig, selectedValue_contact (hvalue field hsemantic), hfield]

/-- A contact field behind its flag. -/
private theorem readingAt_optional {index : ℕ} (hindex : index < c.fields.contactsPerReport.toNat)
    (enable : UInt32) (semantic : FieldSemantic) (declared : IntegerField)
    (hmem : ∀ d ∈ optionalDecl enable semantic index declared, d ∈ contactDecls c.fields index)
    (hnone : enable ≠ 1 → ∀ i, ∀ d ∈ contactDecls c.fields i, d.semantic ≠ semantic)
    (hplain : semantic ≠ .scanTime ∧ semantic ≠ .contactCount ∧ semantic ≠ .buttons ∧
      semantic ≠ .constantPadding)
    (value : ContactState → ℤ)
    (hvalue : ∀ field : FieldLayout, field.semantic = semantic →
      fieldValue (.touch c) (.touch touch) field =
        some ⟨match (collectTouch touch)[touch.packetCursor + field.instanceIndex]? with
          | some contact => value contact
          | none => 0, false⟩) :
    spec.layout.readingAt report semantic index =
      ((collectTouch touch)[touch.packetCursor + index]?.map
        fun contact => if enable = 1 then value contact else 0).getD 0 := by
  by_cases henable : enable = 1
  · have hd : integerDecl semantic index declared ∈ contactDecls c.fields index :=
      hmem _ (by simp [optionalDecl, henable])
    rw [show semantic = (integerDecl semantic index declared).semantic from rfl,
      readingAt_contact hcarries hsound hconfig hfits hindex hd rfl value hvalue]
    simp [henable]
  · rw [readingAt_of_undeclared hsound hplain.2.2.2 (hconfig ▸ semantic_ne_of_disabled
      (hnone henable) hplain.1 hplain.2.1 hplain.2.2.1)]
    cases (collectTouch touch)[touch.packetCursor + index]? <;> simp [henable]

/-- **The contact records of the report of a state.** A used record is the record of its contact,
and an unused one is clear. -/
theorem recordAt_of_carries {index : ℕ} (hindex : index < c.fields.contactsPerReport.toNat) :
    spec.layout.recordAt report index =
      ((collectTouch touch)[touch.packetCursor + index]?.map (·.record c.fields)).getD {} := by
  have hread {d : FieldDecl} (hd : d ∈ contactDecls c.fields index) :=
    readingAt_contact hcarries hsound hconfig hfits hindex hd
  have hoptional := readingAt_optional hcarries hsound hconfig hfits hindex
  have hdeclared (i : ℕ) {d : FieldDecl} (hd : d ∈ contactDecls c.fields i) :=
    semantic_of_contact hd
  generalize (collectTouch touch)[touch.packetCursor + index]? = found at hread hoptional ⊢
  have hmap (proj : ContactRecord → ℤ) (hzero : proj {} = 0) :
      proj ((found.map (·.record c.fields)).getD {}) =
        (found.map fun contact => proj (contact.record c.fields)).getD 0 := by
    cases found with
    | none => exact hzero
    | some contact => rfl
  ext
  · rw [hmap (·.contactId) rfl]
    exact hread (d := integerDecl .contactId index c.fields.contactIdentifier)
      (by simp [contactDecls]) rfl _ fun field h => by unfold fieldValue; rw [h]; rfl
  · rw [hmap (·.tip) rfl]
    exact hread (d := bitDecl .tip index) (by simp [contactDecls]) rfl _
      fun field h => by unfold fieldValue; rw [h]; rfl
  · rw [hmap (·.x) rfl]
    exact hread (d := integerDecl .x index c.fields.x) (by simp [contactDecls]) rfl _
      fun field h => by unfold fieldValue; rw [h]; rfl
  · rw [hmap (·.y) rfl]
    exact hread (d := integerDecl .y index c.fields.y) (by simp [contactDecls]) rfl _
      fun field h => by unfold fieldValue; rw [h]; rfl
  · rw [hmap (·.pressure) rfl]
    exact hoptional c.fields.enablePressure .pressure c.fields.pressure
      (fun d hd => by simp [contactDecls, hd]) (fun hoff i d hd h => hoff ((hdeclared i hd).1 h))
      (by simp) _ fun field h => by unfold fieldValue; rw [h]; rfl
  · rw [hmap (·.width) rfl]
    exact hoptional c.fields.enableWidth .width c.fields.width
      (fun d hd => by simp [contactDecls, hd]) (fun hoff i d hd h => hoff ((hdeclared i hd).2.1 h))
      (by simp) _ fun field h => by unfold fieldValue; rw [h]; rfl
  · rw [hmap (·.height) rfl]
    exact hoptional c.fields.enableHeight .height c.fields.height
      (fun d hd => by simp [contactDecls, hd])
      (fun hoff i d hd h => hoff ((hdeclared i hd).2.2.1 h))
      (by simp) _ fun field h => by unfold fieldValue; rw [h]; rfl
  · rw [hmap (·.azimuth) rfl]
    exact hoptional c.fields.enableAzimuth .azimuth c.fields.azimuth
      (fun d hd => by simp [contactDecls, hd])
      (fun hoff i d hd h => hoff ((hdeclared i hd).2.2.2 h))
      (by simp) _ fun field h => by unfold fieldValue; rw [h]; rfl

/-- Contact Count: the contacts of the frame in its first packet, and zero behind it. -/
theorem readingAt_contactCount : spec.layout.readingAt report .contactCount 0 =
    if touch.packetCursor = 0 then touch.activeCount else 0 := by
  have hd : integerDecl .contactCount 0 c.fields.contactCount ∈
      (SpecConfig.touch c).declaredFields := by simp [SpecConfig.declaredFields]
  obtain ⟨field, hsemantic, -, hread⟩ := readingAt_of_declared hcarries hsound
    (hconfig ▸ hfits : NodeState.Fits spec.config (.touch touch))
    (hconfig ▸ trivial : NodeState.Reportable spec.config (.touch touch)) (hconfig ▸ hd) rfl rfl
  refine hread.trans ?_
  rw [hconfig]
  unfold selectedValue fieldValue
  rw [hsemantic]
  simp only [integerDecl, Option.map_some, Option.getD_some, length_collectTouch]
  split_ifs <;> first | rfl | contradiction

/-- The Scan Time of the report of a state; zero when it is not declared. -/
theorem readingAt_scanTime : spec.layout.readingAt report .scanTime 0 =
    if c.fields.enableScanTime = 1 then touch.scanTime else 0 := by
  by_cases henable : c.fields.enableScanTime = 1
  · have hd : integerDecl .scanTime 0 c.fields.scanTime ∈ (SpecConfig.touch c).declaredFields := by
      simp [SpecConfig.declaredFields, optionalDecl, henable]
    obtain ⟨field, hsemantic, -, hread⟩ := readingAt_of_declared hcarries hsound
      (hconfig ▸ hfits : NodeState.Fits spec.config (.touch touch))
      (hconfig ▸ trivial : NodeState.Reportable spec.config (.touch touch)) (hconfig ▸ hd) rfl rfl
    refine hread.trans ?_
    rw [hconfig, if_pos henable]
    unfold selectedValue fieldValue
    rw [hsemantic]
    rfl
  · rw [if_neg henable]
    refine readingAt_of_undeclared hsound (by simp) fun d hd => ?_
    rw [hconfig] at hd
    simp only [SpecConfig.declaredFields, optionalDecl, henable, if_false, List.append_nil,
      List.mem_append, List.mem_flatMap, List.mem_singleton, mem_bitDecls] at hd
    rcases hd with (⟨index, -, hd⟩ | rfl) | ⟨index, -, rfl⟩
    · simp only [contactDecls, List.mem_append, List.mem_cons, List.not_mem_nil, or_false,
        mem_optionalDecl] at hd
      rcases hd with ((((rfl | rfl | rfl | rfl) | ⟨-, rfl⟩) | ⟨-, rfl⟩) | ⟨-, rfl⟩) | ⟨-, rfl⟩ <;>
        simp [bitDecl, integerDecl]
    · simp [integerDecl]
    · simp [bitDecl]

/-- A declared button of the report of a state. -/
theorem readingAt_button {index : ℕ} (hindex : index < c.fields.buttonCount.toNat) :
    spec.layout.readingAt report .buttons index = (touch.buttons.getD index 0).toNat := by
  have hd : bitDecl .buttons index ∈ (SpecConfig.touch c).declaredFields := by
    simp only [SpecConfig.declaredFields, List.mem_append, mem_bitDecls]
    exact Or.inr ⟨index, hindex, rfl⟩
  obtain ⟨field, hsemantic, hfield, hread⟩ := readingAt_of_declared hcarries hsound
    (hconfig ▸ hfits : NodeState.Fits spec.config (.touch touch))
    (hconfig ▸ trivial : NodeState.Reportable spec.config (.touch touch)) (hconfig ▸ hd) rfl rfl
  have hlt : index < touch.buttons.length := hfits.buttons.length ▸ hindex
  refine hread.trans ?_
  rw [hconfig]
  unfold selectedValue fieldValue
  rw [show field.semantic = .buttons from hsemantic]
  simp only [Option.map_some, Option.getD_some, show field.instanceIndex = index from hfield,
    buttonValue, hlt, if_true]

end Records

/-! ### Packets -/

/-- The declared fields of a touch configuration with one semantic, when a contact has `count` of
them and nothing else but the buttons has any. -/
private theorem length_fieldsOf {spec : Spec} {c : TouchConfig} (hsound : spec.Sound)
    (hconfig : spec.config = .touch c) {semantic : FieldSemantic} (count buttons : ℕ)
    (hplain : semantic ≠ .constantPadding ∧ semantic ≠ .scanTime ∧ semantic ≠ .contactCount)
    (hcontact : ∀ index,
      ((contactDecls c.fields index).filter (fun d => d.semantic = semantic)).length = count)
    (hbuttons : ((bitDecls .buttons c.fields.buttonCount.toNat).filter
      (fun d => d.semantic = semantic)).length = buttons) :
    (spec.layout.fieldsOf semantic).length =
      c.fields.contactsPerReport.toNat * count + buttons := by
  have hlength := congrArg List.length (hsound.map_decl_fieldsOf hplain.1)
  rw [List.length_map, hconfig] at hlength
  rw [hlength]
  simp only [SpecConfig.declaredFields, List.filter_append, List.filter_flatMap,
    List.length_append, hbuttons, List.length_flatMap, hcontact]
  have hscan : (optionalDecl c.fields.enableScanTime .scanTime 0 c.fields.scanTime).filter
      (fun d => d.semantic = semantic) = [] := by
    unfold optionalDecl
    split_ifs <;> simp [integerDecl, hplain.2.1.symm]
  rw [hscan]
  simp [integerDecl, hplain.2.2.symm]

/-- The number of contact records that the descriptor declares. -/
def ReportLayout.contactSlots (layout : ReportLayout) : ℕ := (layout.fieldsOf .tip).length

theorem contactSlots_eq {spec : Spec} {c : TouchConfig} (hsound : spec.Sound)
    (hconfig : spec.config = .touch c) :
    spec.layout.contactSlots = c.fields.contactsPerReport.toNat := by
  refine (length_fieldsOf hsound hconfig 1 0 (by simp) ?_ ?_).trans
    (by rw [Nat.mul_one, Nat.add_zero])
  · intro index
    unfold contactDecls optionalDecl
    split_ifs <;> rfl
  · rw [List.length_eq_zero_iff, List.filter_eq_nil_iff]
    intro d hd
    obtain ⟨index, -, rfl⟩ := mem_bitDecls.mp hd
    simp [bitDecl]

/-- The number of buttons that the descriptor declares. -/
def ReportLayout.buttonSlots (layout : ReportLayout) : ℕ := (layout.fieldsOf .buttons).length

theorem buttonSlots_eq {spec : Spec} {c : TouchConfig} (hsound : spec.Sound)
    (hconfig : spec.config = .touch c) :
    spec.layout.buttonSlots = c.fields.buttonCount.toNat := by
  refine (length_fieldsOf hsound hconfig 0 c.fields.buttonCount.toNat (by simp)
    ?_ ?_).trans (by rw [Nat.mul_zero, Nat.zero_add])
  · intro index
    unfold contactDecls optionalDecl
    split_ifs <;> rfl
  · rw [List.filter_eq_self.mpr]
    · simp [bitDecls]
    · intro d hd
      obtain ⟨index, -, rfl⟩ := mem_bitDecls.mp hd
      simp [bitDecl]

/-- A packet as the other side reads it: the result of its report, whether it starts a frame, its
Contact Count, the contact records that it uses and those behind them, the number of contacts that
its frame has left, its Scan Time and its buttons. -/
structure TouchPacket where
  result : Result
  first : Bool
  announced : ℕ
  records : List ContactRecord
  unused : List ContactRecord
  remaining : ℕ
  scanTime : ℤ
  buttons : List ℤ
  deriving DecidableEq

/-- The packet of a report, behind one whose frame has `remaining` contacts left. A Contact Count
of zero goes on with that frame; without one it is a frame that has no contacts. -/
def TouchPacket.decode (layout : ReportLayout) (remaining : ℕ) (report : List UInt8)
    (result : Result) : TouchPacket :=
  let announced := (layout.readingAt report .contactCount 0).toNat
  let expected := if announced = 0 then remaining else announced
  let used := min layout.contactSlots expected
  { result
    first := announced != 0 || remaining == 0
    announced
    records := (List.range used).map (layout.recordAt report)
    unused := (List.range (layout.contactSlots - used)).map fun i =>
      layout.recordAt report (used + i)
    remaining := expected - used
    scanTime := layout.readingAt report .scanTime 0
    buttons := (List.range layout.buttonSlots).map (layout.readingAt report .buttons) }

/-- The contacts in the packet of a touch state. -/
def TouchState.packetContacts (touch : TouchState) (f : TouchFields) : List ContactState :=
  ((collectTouch touch).drop touch.packetCursor).take f.contactsPerReport.toNat

theorem TouchState.length_packetContacts (touch : TouchState) (f : TouchFields) :
    (touch.packetContacts f).length =
      min f.contactsPerReport.toNat (touch.activeCount - touch.packetCursor) := by
  rw [packetContacts, List.length_take, List.length_drop, length_collectTouch]

/-- The packet of a touch state. -/
def TouchState.packet (touch : TouchState) (f : TouchFields) (result : Result) : TouchPacket where
  result
  first := touch.packetCursor == 0
  announced := if touch.packetCursor = 0 then touch.activeCount else 0
  records := (touch.packetContacts f).map (·.record f)
  unused := List.replicate (f.contactsPerReport.toNat - (touch.packetContacts f).length) {}
  remaining := touch.activeCount - touch.packetCursor - (touch.packetContacts f).length
  scanTime := if f.enableScanTime = 1 then touch.scanTime else 0
  buttons := touch.buttons.map fun button => (button.toNat : ℤ)

/-- The other side waits for the contacts that the frame has left. An abandoned frame does not
count, because its contacts are announced again. -/
structure TouchState.Awaited (touch : TouchState) (remaining : ℕ) : Prop where
  empty : touch.activeCount = 0 → remaining = 0
  frame : touch.packetCursor ≠ 0 → remaining = touch.activeCount - touch.packetCursor

/-- **The other side reads the packet of the state.** -/
theorem decode_of_carries {spec : Spec} {c : TouchConfig} {touch : TouchState}
    {report : List UInt8} (hcarries : spec.Carries (.touch touch) report) (hsound : spec.Sound)
    (hconfig : spec.config = .touch c) (hfits : touch.Fits c.fields) {remaining : ℕ}
    (hawaited : touch.Awaited remaining) (result : Result) :
    TouchPacket.decode spec.layout remaining report result = touch.packet c.fields result := by
  have hcount := readingAt_contactCount hcarries hsound hconfig hfits
  have hlength := touch.length_packetContacts c.fields
  have hcursor := hfits.cursor
  have hempty := hawaited.empty
  have hframe := hawaited.frame
  have hexpected : (if (spec.layout.readingAt report .contactCount 0).toNat = 0 then remaining
      else (spec.layout.readingAt report .contactCount 0).toNat) =
        touch.activeCount - touch.packetCursor := by
    rw [hcount]
    split_ifs <;> omega
  unfold TouchPacket.decode TouchState.packet
  dsimp only
  rw [hexpected, contactSlots_eq hsound hconfig]
  congr 1
  · by_cases hzero : touch.packetCursor = 0
    · rw [hcount, if_pos hzero, hzero]
      by_cases hactive : touch.activeCount = 0
      · simp [hempty hactive]
      · simp [hactive]
    · rw [hcount, if_neg hzero]
      have : remaining ≠ 0 := by omega
      simp [hzero, this]
  · rw [hcount]
    split_ifs <;> simp
  · apply List.ext_getElem
    · simp [hlength]
    · intro index hindex hindex'
      rw [List.length_map, List.length_range] at hindex
      have hactive : touch.packetCursor + index < (collectTouch touch).length := by
        rw [length_collectTouch]
        omega
      rw [List.getElem_map, List.getElem_map, List.getElem_range,
        recordAt_of_carries hcarries hsound hconfig hfits (by omega),
        List.getElem?_eq_getElem hactive]
      simp [TouchState.packetContacts]
  · apply List.ext_getElem
    · simp [hlength]
    · intro index hindex hindex'
      rw [List.length_map, List.length_range] at hindex
      rw [List.getElem_map, List.getElem_range, List.getElem_replicate,
        recordAt_of_carries hcarries hsound hconfig hfits (by omega),
        List.getElem?_eq_none (by rw [length_collectTouch]; omega)]
      rfl
  · omega
  · rw [readingAt_scanTime hcarries hsound hconfig hfits, Nat.cast_ite]
    rfl
  · apply List.ext_getElem
    · simp [buttonSlots_eq hsound hconfig, hfits.buttons.length]
    · intro index hindex hindex'
      rw [List.length_map, List.length_range, buttonSlots_eq hsound hconfig] at hindex
      rw [List.length_map] at hindex'
      rw [List.getElem_map, List.getElem_range,
        readingAt_button hcarries hsound hconfig hfits hindex, List.getElem_map,
        List.getD_eq_getElem _ _ hindex']

/-! ### Contacts of a packet -/

section Contacts

variable {touch : TouchState} {f : TouchFields} {contact : ContactState}

theorem mem_collectTouch :
    contact ∈ collectTouch touch ↔ contact ∈ touch.contacts ∧ contact.isActive = true := by
  unfold collectTouch
  rw [List.mem_filter]
  simp [ContactState.isActive]

theorem collectTouch_congr {touch' : TouchState} (h : touch'.contacts = touch.contacts) :
    collectTouch touch' = collectTouch touch := by
  unfold collectTouch
  rw [h]

/-- The active contacts have different IDs. -/
theorem TouchState.Fits.nodup_contactId (h : touch.Fits f) :
    ((collectTouch touch).map (·.sample.contactId)).Nodup := by
  rw [List.Nodup, List.pairwise_map]
  have hall : touch.contacts.Pairwise fun first second =>
      first.isActive = true → second.isActive = true →
        first.sample.contactId ≠ second.sample.contactId := by
    rw [List.pairwise_iff_getElem]
    intro i j hi hj hlt hfirst hsecond hid
    have := h.distinct i j _ _ (List.getElem?_eq_getElem hi) (List.getElem?_eq_getElem hj)
      hfirst hsecond hid
    omega
  have hactive : (collectTouch touch).Pairwise fun first second =>
      first.isActive = true → second.isActive = true →
        first.sample.contactId ≠ second.sample.contactId := hall.filter _
  refine hactive.imp_of_mem fun hfirst hsecond hne => hne ?_ ?_
  · exact (mem_collectTouch.mp hfirst).2
  · exact (mem_collectTouch.mp hsecond).2

/-- A Contact ID has one place in a frame. -/
theorem TouchState.Fits.index_unique (h : touch.Fits f) {i j : ℕ} {first second : ContactState}
    (hi : (collectTouch touch)[i]? = some first) (hj : (collectTouch touch)[j]? = some second)
    (hid : first.sample.contactId = second.sample.contactId) : i = j := by
  obtain ⟨hlt, hfirst⟩ := List.getElem?_eq_some_iff.mp hi
  obtain ⟨hlt', hsecond⟩ := List.getElem?_eq_some_iff.mp hj
  have hi' : i < ((collectTouch touch).map (·.sample.contactId)).length := by simpa using hlt
  have hj' : j < ((collectTouch touch).map (·.sample.contactId)).length := by simpa using hlt'
  have heq : ((collectTouch touch).map (·.sample.contactId))[i] =
      ((collectTouch touch).map (·.sample.contactId))[j] := by
    rw [List.getElem_map, List.getElem_map, hfirst, hsecond, hid]
  exact h.nodup_contactId.getElem_inj_iff.mp heq

/-- The contacts of a packet are those of the frame from its cursor on. -/
theorem mem_packetContacts : contact ∈ touch.packetContacts f ↔
    ∃ k, touch.packetCursor ≤ k ∧ k < touch.packetCursor + (touch.packetContacts f).length ∧
      (collectTouch touch)[k]? = some contact := by
  have hget (i : ℕ) (hi : i < (touch.packetContacts f).length) :
      (touch.packetContacts f)[i]? = (collectTouch touch)[touch.packetCursor + i]? := by
    rw [TouchState.length_packetContacts] at hi
    rw [TouchState.packetContacts, List.getElem?_take_of_lt (by omega), List.getElem?_drop]
  constructor
  · intro hmem
    obtain ⟨i, hi⟩ := List.mem_iff_getElem?.mp hmem
    have hlt := (List.getElem?_eq_some_iff.mp hi).1
    exact ⟨touch.packetCursor + i, by omega, by omega, (hget i hlt).symm.trans hi⟩
  · rintro ⟨k, hle, hlt, hk⟩
    obtain ⟨i, rfl⟩ := Nat.exists_eq_add_of_le hle
    exact List.mem_of_getElem? ((hget i (by omega)).trans hk)

theorem contactId_record_eq {first second : ContactState} :
    (first.record f).contactId = (second.record f).contactId ↔
      first.sample.contactId = second.sample.contactId := by
  simp only [ContactState.record, Int.natCast_inj, UInt32.toNat_inj]

theorem contactId_record_eq_toNat {contactId : UInt32} :
    (contact.record f).contactId = contactId.toNat ↔ contact.sample.contactId = contactId := by
  simp only [ContactState.record, Int.natCast_inj, UInt32.toNat_inj]

theorem tip_record_eq_one : (contact.record f).tip = 1 ↔ contact.phase = .down := by
  simp only [ContactState.record]
  split_ifs with h <;> simp [h]

theorem tip_record_eq_zero : (contact.record f).tip = 0 ↔ contact.phase ≠ .down := by
  simp only [ContactState.record]
  split_ifs with h <;> simp [h]

end Contacts

end LibaoaHid

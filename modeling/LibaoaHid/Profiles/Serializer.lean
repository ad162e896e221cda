import LibaoaHid.Api.Internal

/-!
# The report serializer and its validator

The bit-exact serializer of `src/profiles/state.cpp` and the reader that checks its output. The
writer and the reader walk the bits of a field a byte at a time in two loops of their own.

A buffer is the list of its bytes, so its capacity is its length.

## Main definitions

* `storeBits`, `hatNull`: one field of a report.
* `fieldValue`: the value that the serializer selects for a field.
* `serializeNode`.
* `loadBits`, `fieldReading`, `validateSerializedReport`.
-/

namespace LibaoaHid

/-! ### Writing one field -/

/-- The loop of `store_bits` with `remaining` bits of `encoded` left. Every turn takes at least
one bit, so as many turns as there are bits reach the end. -/
def storeLoop : ℕ → List UInt8 → ℕ → ℕ → ℕ → List UInt8
  | 0, report, _, _, _ => report
  | turns + 1, report, encoded, position, remaining =>
    if remaining = 0 then report
    else
      let shift := position &&& 7
      let taken := min remaining (8 - shift)
      let byteMask := ((1 <<< taken) - 1) <<< shift
      let target := (report.getD (position / 8) 0).toNat
      let stored := (target &&& (byteMask ^^^ (2 ^ 32 - 1))) |||
        (((encoded % 2 ^ 32) <<< shift) &&& byteMask)
      storeLoop turns (report.set (position / 8) (UInt8.ofNat stored)) (encoded >>> taken)
        (position + taken) (remaining - taken)

/-- The low `bitWidth` bits of `value` as a `uint64_t`. -/
def encodeValue (value : ℤ) (bitWidth : ℕ) : ℕ :=
  (value % 2 ^ 64).toNat &&& ((1 <<< bitWidth) - 1)

/-- `store_bits`. -/
def storeBits (report : List UInt8) (field : FieldLayout) (value : ℤ) (allowNull : Bool := false) :
    Option (List UInt8) :=
  if field.bitWidth = 0 ∨ field.bitWidth > 32 ∨
      field.bitOffset + field.bitWidth > report.length * 8 ∨
      (allowNull ∧ !field.hasNullState) then none
  else if !allowNull ∧ (value < field.logicalMinimum ∨ value > field.logicalMaximum) then none
  else
    some (storeLoop field.bitWidth report (encodeValue value field.bitWidth) field.bitOffset
      field.bitWidth)

/-- `hat_null`: a representable value outside the logical range, when there is one. -/
def hatNull (field : FieldLayout) : ℤ :=
  if field.isSigned then
    let minimum : ℤ := if field.bitWidth = 32 then -2 ^ 31 else -2 ^ (field.bitWidth - 1)
    if minimum < field.logicalMinimum then minimum
    else if field.bitWidth = 32 then 2 ^ 31 - 1 else 2 ^ (field.bitWidth - 1) - 1
  else
    let maximum : ℤ := if field.bitWidth = 32 then 2 ^ 32 - 1 else 2 ^ field.bitWidth - 1
    if 0 < field.logicalMinimum then 0 else maximum

/-! ### Selecting the value of a field -/

/-- `collect_touch`: the contacts that a frame carries, in slot order. -/
def collectTouch (touch : TouchState) : List ContactState :=
  touch.contacts.filter fun contact => contact.phase ≠ .none

/-- A value and whether it stands for the Null state. -/
structure SelectedValue where
  value : ℤ
  allowNull : Bool := false
  deriving DecidableEq

/-- Bit `index` of an unsigned number. -/
def bitOf (bits index : ℕ) : ℤ := ((bits >>> index) &&& 1 : ℕ)

/-- The geometry of a contact record: the X, Y, pressure, width, height and azimuth cases. -/
def contactValue (contact : ContactState) : FieldSemantic → ℤ
  | .x => contact.sample.x.toInt
  | .y => contact.sample.y.toInt
  | .pressure => if contact.phase = .down then max contact.sample.pressure.toInt 1 else 0
  | .width => contact.sample.width.toInt
  | .height => contact.sample.height.toInt
  | .azimuth => contact.sample.azimuth.toInt
  | _ => 0

/-- The same cases of a pen report. A departure repeats the emitted sample. -/
def penValue (pen : PenState) (semantic : FieldSemantic) : ℤ :=
  let sample := if pen.toolSwitchDeparture then pen.emitted else pen.desired
  match semantic with
  | .x => sample.x.toInt
  | .y => sample.y.toInt
  | .pressure =>
    if pen.toolSwitchDeparture ∨ sample.tip = 0 then 0 else max sample.pressure.toInt 1
  | _ => 0

/-- `std::clamp` of a pending total to the logical range. -/
def clampToField (pending : ℤ) (field : FieldLayout) : ℤ :=
  if pending < field.logicalMinimum then field.logicalMinimum
  else if field.logicalMaximum < pending then field.logicalMaximum
  else pending

/-- The `buttons` case. -/
def buttonValue (config : SpecConfig) (state : NodeState) (index : ℕ) : ℤ :=
  match state with
  | .mouse mouse => if index < mouse.buttons.length then (mouse.buttons.getD index 0).toNat else 0
  | .gamepad gamepad =>
    if index < gamepad.buttons.length then (gamepad.buttons.getD index 0).toNat
    else
      match config with
      | .gamepad { options, .. } =>
        if options.dpadRepresentation = .buttons ∧ index ≥ options.buttonCount.toNat ∧
            index < options.buttonCount.toNat + 4 then
          gamepad.hat / 2 ^ (index - options.buttonCount.toNat) % 2
        else 0
      | _ => 0
  | .touch touch => if index < touch.buttons.length then (touch.buttons.getD index 0).toNat else 0
  | .pen pen =>
    if pen.toolSwitchDeparture ∨ pen.desired.inRange = 0 then 0
    else bitOf pen.desired.barrelButtons.toNat index
  | _ => 0

/-- The value that the switch of `serialize_node` selects; `none` is the `continue` of Constant
padding. -/
def fieldValue (config : SpecConfig) (state : NodeState) (field : FieldLayout) :
    Option SelectedValue :=
  match field.semantic with
  | .modifier =>
    some ⟨match state with
      | .keyboard keyboard => bitOf keyboard.modifiers.toNat field.instanceIndex
      | _ => 0, false⟩
  | .keyBitmap =>
    some ⟨match state, config with
      | .keyboard keyboard, .keyboard _ =>
        if field.instanceIndex < keyboard.pressedBitmap.length then
          (keyboard.pressedBitmap.getD field.instanceIndex 0).toNat
        else 0
      | _, _ => 0, false⟩
  | .buttons => some ⟨buttonValue config state field.instanceIndex, false⟩
  | .x | .y | .pressure | .width | .height | .azimuth =>
    some ⟨match state, config with
      | .mouse mouse, _ =>
        clampToField (if field.semantic = .x then mouse.dx else mouse.dy) field
      | .touch touch, .touch _ =>
        match (collectTouch touch)[touch.packetCursor + field.instanceIndex]? with
        | some contact => contactValue contact field.semantic
        | none => 0
      | .pen pen, _ => penValue pen field.semantic
      | _, _ => 0, false⟩
  | .wheel =>
    some ⟨match state with
      | .mouse mouse => clampToField mouse.wheel field
      | _ => 0, false⟩
  | .pan =>
    some ⟨match state with
      | .mouse mouse => clampToField mouse.pan field
      | _ => 0, false⟩
  | .consumerUsage =>
    some ⟨match state, config with
      | .consumer consumer, .consumer { allowedUsages, .. } =>
        if allowedUsages[field.instanceIndex]? = some consumer.usage then 1 else 0
      | _, _ => 0, false⟩
  | .gamepadAxis =>
    some ⟨match state with
      | .gamepad gamepad =>
        if field.instanceIndex < gamepad.axes.length then
          (gamepad.axes.getD field.instanceIndex 0).toInt
        else 0
      | _ => 0, false⟩
  | .hat =>
    match state with
    | .gamepad gamepad =>
      if gamepad.hatHasDirection then some ⟨gamepad.hat, false⟩ else some ⟨hatNull field, true⟩
    | _ => some ⟨hatNull field, true⟩
  | .tip =>
    some ⟨match state with
      | .touch touch =>
        match (collectTouch touch)[touch.packetCursor + field.instanceIndex]? with
        | some contact => if contact.phase = .down then 1 else 0
        | none => 0
      | .pen pen => if pen.toolSwitchDeparture then 0 else pen.desired.tip.toNat
      | _ => 0, false⟩
  | .inRange =>
    some ⟨match state with
      | .pen pen => if pen.toolSwitchDeparture then 0 else pen.desired.inRange.toNat
      | _ => 0, false⟩
  | .eraser =>
    some ⟨match state with
      | .pen pen =>
        if pen.toolSwitchDeparture ∨ pen.desired.inRange = 0 then 0 else pen.desired.eraser.toNat
      | _ => 0, false⟩
  | .contactId =>
    some ⟨match state with
      | .touch touch =>
        match (collectTouch touch)[touch.packetCursor + field.instanceIndex]? with
        | some contact => contact.sample.contactId.toNat
        | none => 0
      | _ => 0, false⟩
  | .scanTime =>
    some ⟨match state with
      | .touch touch => touch.scanTime
      | _ => 0, false⟩
  | .contactCount =>
    some ⟨match state with
      | .touch touch => if touch.packetCursor ≠ 0 then 0 else (collectTouch touch).length
      | _ => 0, false⟩
  | .tiltX =>
    some ⟨match state with
      | .pen pen => (if pen.toolSwitchDeparture then pen.emitted else pen.desired).tiltX.toInt
      | _ => 0, false⟩
  | .tiltY =>
    some ⟨match state with
      | .pen pen => (if pen.toolSwitchDeparture then pen.emitted else pen.desired).tiltY.toInt
      | _ => 0, false⟩
  | .twist =>
    some ⟨match state with
      | .pen pen => (if pen.toolSwitchDeparture then pen.emitted else pen.desired).twist.toInt
      | _ => 0, false⟩
  | .batteryStrength =>
    match state with
    | .battery battery =>
      if battery.hasValue then some ⟨battery.strength.toInt, false⟩
      else some ⟨hatNull field, true⟩
    | _ => some ⟨hatNull field, true⟩
  | .constantPadding => none

/-! ### Writing a report -/

/-- The scratch field of a mouse axis that a selected value is recorded in. -/
def recordFragment (node : Node) (field : FieldLayout) (value : ℤ) : Node :=
  match node.state, field.semantic with
  | .mouse _, .x => { node with submittedDx := value }
  | .mouse _, .y | .mouse _, .pressure | .mouse _, .width | .mouse _, .height
  | .mouse _, .azimuth => { node with submittedDy := value }
  | .mouse _, .wheel => { node with submittedWheel := value }
  | .mouse _, .pan => { node with submittedPan := value }
  | _, _ => node

/-- The field loop of `serialize_node`; the flag is its `ok`. -/
def serializeFields : List FieldLayout → Node → List UInt8 → Bool → Node × List UInt8 × Bool
  | [], node, report, ok => (node, report, ok)
  | field :: rest, node, report, ok =>
    match fieldValue node.spec.config node.state field with
    | none => serializeFields rest node report ok
    | some ⟨value, allowNull⟩ =>
      let node := recordFragment node field value
      if ok then
        match storeBits report field value allowNull with
        | some written => serializeFields rest node written true
        | none => serializeFields rest node report false
      else serializeFields rest node report false

/-- The packet bookkeeping at the end of `serialize_node`. -/
def recordPacket (node : Node) : Node :=
  match node.state, node.spec.config with
  | .touch touch, .touch { fields } =>
    let activeCount := (collectTouch touch).length
    let touchStart := touch.packetCursor
    let count := min fields.contactsPerReport.toNat
      (if activeCount > touchStart then activeCount - touchStart else 0)
    { node with
      submittedTouchCount := count
      submittedTouchFinalPacket := decide (touchStart + count ≥ activeCount) }
  | _, _ => node

/-- What `serialize_node` leaves: its reply, the Node, the buffer and `report_length`, which stays
zero unless a report was written. -/
structure Serialized where
  reply : Reply
  node : Node
  buffer : List UInt8
  reportLength : ℕ := 0

/-- The buffer in front of the field loop: `wireBytes` clear bytes behind the Report ID. -/
def clearedReport (layout : ReportLayout) (buffer : List UInt8) : List UInt8 :=
  let report := List.replicate layout.wireBytes 0 ++ buffer.drop layout.wireBytes
  if layout.hasReportId then report.set 0 (UInt8.ofNat layout.reportId) else report

/-- `serialize_node` into a buffer. -/
def serializeNode (node : Node) (buffer : List UInt8) : Serialized :=
  let layout := node.spec.layout
  if buffer.length < layout.wireBytes then
    { reply := .fail .errParam "report" "The serializer buffer is missing or too small."
      node, buffer }
  else
    match serializeFields layout.fields node (clearedReport layout buffer) true with
    | (node, buffer, false) =>
      { reply := .fail .errInternal "report.layout"
          "A state value could not be serialized into its immutable layout."
        node, buffer }
    | (node, buffer, true) =>
      { reply := .ok, node := recordPacket node, buffer, reportLength := layout.wireBytes }

/-! ### Reading a report -/

/-- The loop of `validate_serialized_report` over the bits of one field. -/
def loadLoop (report : List UInt8) (bitWidth : ℕ) : ℕ → ℕ → ℕ → ℕ → ℕ
  | 0, encoded, _, _ => encoded
  | turns + 1, encoded, position, done =>
    if done < bitWidth then
      let shift := position &&& 7
      let taken := min (bitWidth - done) (8 - shift)
      let bits := ((report.getD (position / 8) 0).toNat >>> shift) &&& ((1 <<< taken) - 1)
      loadLoop report bitWidth turns (encoded ||| (bits <<< done)) (position + taken)
        (done + taken)
    else encoded

/-- The bits of a field. -/
def loadBits (report : List UInt8) (field : FieldLayout) : ℕ :=
  loadLoop report field.bitWidth field.bitWidth 0 field.bitOffset 0

/-- The value of a field: the `int64_t` of its bits, with the bits above the width set when the
field is signed and its top bit is. -/
def fieldReading (report : List UInt8) (field : FieldLayout) : ℤ :=
  let encoded := loadBits report field
  if field.isSigned ∧ encoded &&& (1 <<< (field.bitWidth - 1)) ≠ 0 then
    (encoded : ℤ) - 2 ^ field.bitWidth
  else encoded

/-- The field loop of `validate_serialized_report`. -/
def validateFieldReadings (report : List UInt8) : List FieldLayout → Reply
  | [] => .ok
  | field :: rest =>
    if field.bitWidth = 0 ∨ field.bitWidth > 32 ∨ field.bitOffset > report.length * 8 ∨
        field.bitWidth > report.length * 8 - field.bitOffset then
      .fail .errInternal "report.layout" "An immutable field lies outside the generated report."
    else
      let value := fieldReading report field
      let nullSemantic := field.hasNullState ∧ value = hatNull field
      let inDeclaredRange := value ≥ field.logicalMinimum ∧ value ≤ field.logicalMaximum
      if (¬inDeclaredRange ∧ ¬nullSemantic) ∨
          (field.semantic = .constantPadding ∧ value ≠ 0) then
        .fail .errInternal "report.field"
          "A generated field is outside its immutable logical range or padding is nonzero."
      else validateFieldReadings report rest

/-- `validate_serialized_report`. -/
def validateSerializedReport (spec : Spec) (report : List UInt8) : Reply :=
  let layout := spec.layout
  if report.length ≠ layout.wireBytes ∨ report.length = 0 then
    .fail .errInternal "report.length"
      "The generated report does not match its immutable wire length."
  else if layout.hasReportId ∧ (report.getD 0 0).toNat ≠ layout.reportId then
    .fail .errInternal "report.report_id"
      "The generated report prefix does not match its immutable Report ID." 0 57 0
      layout.reportId 0 report.length
  else validateFieldReadings report layout.fields

end LibaoaHid

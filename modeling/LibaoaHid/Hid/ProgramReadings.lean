import LibaoaHid.Hid.Items
import LibaoaHid.Hid.Programs
import Mathlib.Data.List.Forall2

/-!
# Readings of emitter programs

The items of a valid program have a reading by HID 1.11, and its Input fields are the fields of the
program's layout, one by one. A physical block is reset behind its field, so that the next field
starts from a table without one.

## Main definitions

* `FieldLayout.ReadAs`: a field of a layout is read as an Input field.
* `ReadsFields`: a reading behind some operations of a program.

## Main results

* `readItems_op`, `readItems_body`: one operation, and a sequence.
* `EmitterProgram.exists_reading`: a whole program.
-/

namespace LibaoaHid

open Hid

/-! ### Values -/

/-- The item of a Maximum is read as its value. -/
theorem maximum_maximumItem (tag : Fin 16) {minimum maximum : ℤ} (hlower : -2 ^ 31 ≤ maximum)
    (hupper : maximum < 2 ^ 31) (hle : 0 ≤ minimum → 0 ≤ maximum) :
    (ItemWriter.maximumItem tag maximum minimum).maximum minimum = maximum := by
  unfold ItemWriter.maximumItem ShortItem.maximum
  rcases lt_or_ge minimum 0 with hnegative | hnonneg
  · have hsigned : ¬(minimum ≥ 0 ∧ maximum ≥ 0) := fun h => absurd h.1 (not_le.mpr hnegative)
    rw [if_pos hnegative, if_neg hsigned]
    exact ShortItem.signed_ofSigned _ _ hlower hupper
  · have hvalue := toUnsigned32_of_nonneg (hle hnonneg) (show maximum < 2 ^ 32 by omega)
    have hunsigned : minimum ≥ 0 ∧ maximum ≥ 0 := ⟨hnonneg, hle hnonneg⟩
    rw [if_neg (not_lt.mpr hnonneg), if_pos hunsigned, ShortItem.unsigned_ofUnsigned _ _ (by omega)]
    exact hvalue

theorem type_maximumItem (tag : Fin 16) (value declaredMinimum : ℤ) :
    (ItemWriter.maximumItem tag value declaredMinimum).type = .globalState := by
  unfold ItemWriter.maximumItem
  split_ifs <;> rfl

theorem tag_maximumItem (tag : Fin 16) (value declaredMinimum : ℤ) :
    (ItemWriter.maximumItem tag value declaredMinimum).tag = tag := by
  unfold ItemWriter.maximumItem
  split_ifs <;> rfl

/-- The item of a Unit Exponent is read as its value. -/
theorem signedNibble_exponentItem {value : ℤ} (hlower : -8 ≤ value) (hupper : value ≤ 7) :
    signedNibble (ItemWriter.exponentItem value).unsigned = value := by
  have hand (n : ℕ) : n &&& 0x0F = n % 16 := Nat.and_two_pow_sub_one_eq_mod n 4
  unfold ItemWriter.exponentItem signedNibble ItemWriter.toUnsigned32
  rw [ShortItem.unsigned_ofUnsigned _ _ (by rw [hand]; omega), hand]
  split_ifs <;> omega

/-! ### Steps -/

section Steps

variable (r : Reading) (rest : List ShortItem)

theorem readItems_usagePage {value : ℕ} (h : value < 2 ^ 32) :
    readItems r (.ofUnsigned .globalState 0 value :: rest) =
      readItems { r with globals.usagePage := some value } rest := by
  rw [readItems_cons]
  change (r.fill _).bind _ = _
  rw [ShortItem.unsigned_ofUnsigned _ _ h]
  rfl

theorem readItems_usage {value : ℕ} (h : value < 2 ^ 32) :
    readItems r (.ofUnsigned .localState 0 value :: rest) =
      readItems { r with locals.usages := r.locals.usages ++ [(value, value)] } rest := by
  rw [readItems_cons]
  change (some { r with locals.usages := _ }).bind _ = _
  rw [ShortItem.unsigned_ofUnsigned _ _ h]
  rfl

theorem readItems_usageMinimum {value : ℕ} (h : value < 2 ^ 32) :
    readItems r (.ofUnsigned .localState 1 value :: rest) =
      readItems { r with locals.usageMinimum := value } rest := by
  rw [readItems_cons]
  change (some { r with locals.usageMinimum := _ }).bind _ = _
  rw [ShortItem.unsigned_ofUnsigned _ _ h]
  rfl

theorem readItems_usageMaximum {value : ℕ} (h : value < 2 ^ 32) :
    readItems r (.ofUnsigned .localState 2 value :: rest) =
      readItems { r with locals.usages := r.locals.usages ++ [(r.locals.usageMinimum, value)] }
        rest := by
  rw [readItems_cons]
  change (some { r with locals.usages := _ }).bind _ = _
  rw [ShortItem.unsigned_ofUnsigned _ _ h]
  rfl

/-- A logical range. -/
theorem readItems_logical {minimum maximum : ℤ} (hlower : -2 ^ 31 ≤ minimum)
    (hupper : maximum < 2 ^ 31) (hle : minimum ≤ maximum) :
    readItems r (.ofSigned .globalState 1 minimum ::
        ItemWriter.maximumItem 2 maximum minimum :: rest) =
      readItems { r with
        globals.logicalMinimum := some minimum
        globals.logicalMaximum := some maximum } rest := by
  have hminimum (r : Reading) : r.step (.ofSigned .globalState 1 minimum) =
      r.fill { r.globals with logicalMinimum := some minimum } := by
    change r.fill _ = _
    rw [ShortItem.signed_ofSigned _ _ hlower (by omega)]
  have hmaximum (r : Reading) : r.step (ItemWriter.maximumItem 2 maximum minimum) =
      r.fill { r.globals with
        logicalMaximum := some ((ItemWriter.maximumItem 2 maximum minimum).maximum
          (r.globals.logicalMinimum.getD 0)) } := by
    unfold Reading.step Reading.globalItem
    rw [type_maximumItem, tag_maximumItem]
    rfl
  rw [readItems_cons, hminimum, Reading.fill, Option.bind_some, readItems_cons, hmaximum,
    Reading.fill, Option.bind_some]
  dsimp only
  rw [Option.getD_some, maximum_maximumItem _ (by omega) hupper (by omega)]

/-- A physical block. -/
theorem readItems_physicalBlock {minimum maximum unitExponent : ℤ} {unit : ℕ}
    (hlower : -2 ^ 31 ≤ minimum) (hupper : maximum < 2 ^ 31) (hle : minimum ≤ maximum)
    (hexponent : -8 ≤ unitExponent ∧ unitExponent ≤ 7) (hunit : unit < 2 ^ 32) :
    readItems r (physicalBlock minimum maximum unitExponent unit ++ rest) =
      readItems { r with
        globals.physicalMinimum := minimum
        globals.physicalMaximum := maximum
        globals.unitExponent := unitExponent
        globals.unit := unit } rest := by
  have hminimum (r : Reading) : r.step (.ofSigned .globalState 3 minimum) =
      r.fill { r.globals with physicalMinimum := minimum } := by
    change r.fill _ = _
    rw [ShortItem.signed_ofSigned _ _ hlower (by omega)]
  have hmaximum (r : Reading) : r.step (ItemWriter.maximumItem 4 maximum minimum) =
      r.fill { r.globals with
        physicalMaximum := (ItemWriter.maximumItem 4 maximum minimum).maximum
          r.globals.physicalMinimum } := by
    unfold Reading.step Reading.globalItem
    rw [type_maximumItem, tag_maximumItem]
    rfl
  have hstep (r : Reading) : r.step (ItemWriter.exponentItem unitExponent) =
      r.fill { r.globals with unitExponent } := by
    exact congrArg (fun unitExponent => r.fill { r.globals with unitExponent })
      (signedNibble_exponentItem hexponent.1 hexponent.2)
  have hunits (r : Reading) : r.step (.ofUnsigned .globalState 6 unit) =
      r.fill { r.globals with unit } := by
    change r.fill _ = _
    rw [ShortItem.unsigned_ofUnsigned _ _ hunit]
  rw [physicalBlock, List.cons_append, List.cons_append, List.cons_append, List.cons_append,
    List.nil_append, readItems_cons, hminimum, Reading.fill, Option.bind_some, readItems_cons,
    hmaximum, Reading.fill, Option.bind_some, readItems_cons, hstep, Reading.fill,
    Option.bind_some, readItems_cons, hunits, Reading.fill, Option.bind_some]
  dsimp only
  rw [maximum_maximumItem _ (by omega) hupper (by omega)]

/-- A Main item. -/
theorem readItems_main {item : ShortItem} {next : Reading} (htype : item.type = .main)
    (hclosed : r.locals.delimiterOpen = false) (hmain : r.mainItem item = some next) :
    readItems r (item :: rest) = readItems { next with locals := {} } rest := by
  rw [readItems_cons, Reading.step, htype]
  dsimp only
  rw [hclosed, hmain]
  rfl

/-- The item of a report's fields, with their size and their number in front of it. -/
theorem readItems_input {size count flags : ℕ} (hsize : size < 2 ^ 32) (hcount : count < 2 ^ 32)
    (hflags : flags < 2 ^ 32) (hclosed : r.locals.delimiterOpen = false) :
    readItems r (.ofUnsigned .globalState 7 size :: .ofUnsigned .globalState 9 count ::
        .ofUnsigned .main 8 flags :: rest) =
      readItems
        { Reading.dataItem
            { r with globals.reportSize := size, globals.reportCount := count } .input flags with
          locals := {} } rest := by
  rw [readItems_cons]
  change (r.fill _).bind _ = _
  rw [ShortItem.unsigned_ofUnsigned _ _ hsize, Reading.fill, Option.bind_some, readItems_cons]
  change (Reading.fill _ _).bind _ = _
  rw [ShortItem.unsigned_ofUnsigned _ _ hcount, Reading.fill, Option.bind_some]
  refine readItems_main _ _ rfl hclosed ?_
  change some (Reading.dataItem _ .input _) = _
  rw [ShortItem.unsigned_ofUnsigned _ _ hflags]

/-- The start of a collection. -/
theorem readItems_collection {usagePage usage type : ℕ} (husagePage : usagePage < 2 ^ 16)
    (husage : usage < 2 ^ 16) (htype : type < 2 ^ 16) (hclosed : r.locals.delimiterOpen = false) :
    readItems r (collectionItems usagePage usage type ++ rest) =
      readItems
        { r with
          globals.usagePage := some usagePage
          locals := {}
          depth := r.depth + 1
          topLevels := if r.depth = 0 then r.topLevels ++ [type] else r.topLevels } rest := by
  rw [collectionItems, List.cons_append, List.cons_append, List.cons_append, List.nil_append,
    readItems_usagePage _ _ (by omega), readItems_usage _ _ (by omega)]
  have hmain (r : Reading) : r.mainItem (.ofUnsigned .main 10 type) =
      some { r with
        depth := r.depth + 1
        topLevels := if r.depth = 0 then r.topLevels ++ [type] else r.topLevels } := by
    change some _ = some _
    rw [ShortItem.unsigned_ofUnsigned _ _ (by omega)]
  rw [readItems_main _ _ rfl (by exact hclosed) (hmain _)]

/-- The end of a collection. -/
theorem readItems_endCollection (hdepth : r.depth ≠ 0) (hclosed : r.locals.delimiterOpen = false) :
    readItems r (.empty .main 12 :: rest) =
      readItems { r with locals := {}, depth := r.depth - 1 } rest := by
  have hmain : r.mainItem (.empty .main 12) = some { r with depth := r.depth - 1 } := if_neg hdepth
  exact readItems_main _ _ rfl hclosed hmain

end Steps

/-! ### Fields -/

/-- A field of a layout is read as an Input field: the same bits, Constant exactly for padding, and
otherwise the same ranges, physical block and Null flag. -/
structure FieldLayout.ReadAs (field : FieldLayout) (read : InputField) : Prop where
  offset : read.offset = field.bitOffset
  width : read.width = field.bitWidth
  constant : read.constant = decide (field.semantic = .constantPadding)
  nullState : field.semantic ≠ .constantPadding → read.nullState = field.hasNullState
  logical : field.semantic ≠ .constantPadding →
    read.logicalMinimum = field.logicalMinimum ∧ read.logicalMaximum = field.logicalMaximum
  physical : field.semantic ≠ .constantPadding →
    read.physicalMinimum = field.physical.minimum.toInt ∧
      read.physicalMaximum = field.physical.maximum.toInt ∧
        read.unitExponent = field.physical.unitExponent.toInt ∧
          read.unit = field.physical.unit.toNat

/-- A reading behind some operations of a program: the table has no physical block, and the fields
are those of the layout. -/
structure ReadsFields (id : Option ℕ) (fields : List FieldLayout) (depth bits : ℕ) (r : Reading) :
    Prop where
  neutral : r.globals.physicalMinimum = 0 ∧ r.globals.physicalMaximum = 0 ∧
    r.globals.unitExponent = 0 ∧ r.globals.unit = 0
  reportId : r.globals.reportId = id
  stack : r.stack = []
  locals : r.locals = {}
  depth : r.depth = depth
  topLevels : r.topLevels = [1]
  data : ∀ d ∈ r.data, d.globals.reportId = id
  bits : bitsOf id r.inputs = prefixBits id + bits
  fields : List.Forall₂ FieldLayout.ReadAs fields r.fields

section Fields

variable {id : Option ℕ} {fields : List FieldLayout} {depth bits : ℕ} {r r' : Reading}

/-- A reading behind one more Input item. -/
theorem ReadsFields.input (h : ReadsFields id fields depth bits r) {d : DataItem}
    {more : List FieldLayout} {globals : Globals} {added : ℕ} (hadded : d.bits = added)
    (hneutral : globals.physicalMinimum = 0 ∧ globals.physicalMaximum = 0 ∧
      globals.unitExponent = 0 ∧ globals.unit = 0)
    (hkind : d.kind = .input) (hid : globals.reportId = id ∧ d.globals.reportId = id)
    (hmore : List.Forall₂ FieldLayout.ReadAs more (d.fieldsAt (prefixBits id + bits))) :
    ReadsFields id (fields ++ more) depth (bits + added)
      { r with globals, locals := {}, data := r.data ++ [d] } := by
  subst hadded
  have hinputs : Reading.inputs { r with globals, locals := {}, data := r.data ++ [d] } =
      r.inputs ++ [d] := by
    unfold Reading.inputs
    rw [List.filter_append, List.filter_singleton, hkind]
    rfl
  refine
    { h with
      neutral := hneutral
      reportId := hid.1
      locals := rfl
      data := List.forall_mem_append.mpr ⟨h.data, List.forall_mem_singleton.mpr hid.2⟩
      bits := ?_
      fields := ?_ }
  · rw [hinputs, bitsOf_append_singleton, if_pos hid.2, h.bits, Nat.add_assoc]
  · unfold Reading.fields
    rw [hinputs, fieldsBehind_append, List.nil_append, fieldsBehind, fieldsBehind, List.append_nil,
      hid.2, h.bits]
    exact List.rel_append h.fields hmore

/-- The flags of a Variable Input item. -/
theorem variableFlags_spec (relative noPreferred nullState : Bool) :
    DescriptorBuilder.variableFlags relative noPreferred nullState < 2 ^ 32 ∧
      (DescriptorBuilder.variableFlags relative noPreferred nullState).testBit 0 = false ∧
        (DescriptorBuilder.variableFlags relative noPreferred nullState).testBit 6 = nullState := by
  cases relative <;> cases noPreferred <;> cases nullState <;> decide

/-- An absent physical block is all zero. -/
theorem PhysicalProperties.zero_of_canonicalDisabled {physical : PhysicalProperties}
    (h : physical.canonicalDisabled = true) :
    physical.minimum.toInt = 0 ∧ physical.maximum.toInt = 0 ∧ physical.unitExponent.toInt = 0 ∧
      physical.unit.toNat = 0 := by
  simp only [canonicalDisabled, Bool.and_eq_true, beq_iff_eq] at h
  obtain ⟨⟨⟨⟨-, hminimum⟩, hmaximum⟩, hexponent⟩, hunit⟩ := h
  rw [hminimum, hmaximum, hexponent, hunit]
  exact ⟨rfl, rfl, rfl, rfl⟩

/-- The ranges of an enabled physical block. -/
theorem PhysicalProperties.ordered_of_validEnabled {physical : PhysicalProperties}
    (h : physical.validEnabled = true) :
    physical.minimum.toInt ≤ physical.maximum.toInt ∧
      -8 ≤ physical.unitExponent.toInt ∧ physical.unitExponent.toInt ≤ 7 := by
  simp only [validEnabled, Bool.and_eq_true, decide_eq_true_eq] at h
  exact ⟨by omega, h.1.1.1.2, h.1.1.2⟩

/-- The table at the Input item of a field. -/
def VariableField.globals (d : VariableField) (globals : Globals) : Globals :=
  { globals with
    usagePage := some d.usagePage
    logicalMinimum := some d.logicalMinimum
    logicalMaximum := some d.logicalMaximum
    physicalMinimum := d.block.minimum.toInt
    physicalMaximum := d.block.maximum.toInt
    unitExponent := d.block.unitExponent.toInt
    unit := d.block.unit.toNat
    reportSize := d.bitWidth
    reportCount := 1 }

/-- The table behind a field: without a physical block. -/
def VariableField.globalsBehind (d : VariableField) (globals : Globals) : Globals :=
  { d.globals globals with
    physicalMinimum := 0
    physicalMaximum := 0
    unitExponent := 0
    unit := 0 }

/-- A field that writes no physical block has an absent one. -/
theorem VariableField.block_of_not_hasPhysical {d : VariableField} (hd : d.Valid)
    (h : d.hasPhysical = false) : d.block.canonicalDisabled = true := by
  rcases hd.physical with hdisabled | henabled
  · exact hdisabled
  · unfold VariableField.hasPhysical at h
    rw [henabled, Bool.and_true, Option.isSome_eq_false_iff, Option.isNone_iff_eq_none] at h
    unfold VariableField.block
    rw [h]
    rfl

theorem readItems_field (h : ReadsFields id fields depth bits r) {d : VariableField}
    (hd : d.Valid) :
    ∃ item : DataItem, item.kind = .input ∧
      item.flags = DescriptorBuilder.variableFlags d.relative d.noPreferred d.nullState ∧
      item.globals = d.globals r.globals ∧
      readItems r d.items =
        some { r with
          globals := d.globalsBehind r.globals
          locals := {}
          data := r.data ++ [item] } := by
  obtain ⟨hpos, hle, hordered⟩ := of_valueFits hd.fits
  obtain ⟨hminimum, hmaximum, hexponent, hunit⟩ := h.neutral
  have husagePage := hd.usagePage
  have husage := hd.usage
  have hclosed : r.locals.delimiterOpen = false := by rw [h.locals]
  obtain ⟨hflags, -, -⟩ := variableFlags_spec d.relative d.noPreferred d.nullState
  refine ⟨{
    kind := .input
    flags := DescriptorBuilder.variableFlags d.relative d.noPreferred d.nullState
    globals := d.globals r.globals
    usages := r.locals.usages ++ [(d.usage, d.usage)]
    topLevel := if r.depth = 0 then none else some r.topLevels.length }, rfl, rfl, rfl, ?_⟩
  unfold VariableField.items VariableField.opening VariableField.input VariableField.closing
  cases hphysical : d.hasPhysical with
  | false =>
    obtain ⟨hblockMin, hblockMax, hblockExponent, hblockUnit⟩ :=
      PhysicalProperties.zero_of_canonicalDisabled (d.block_of_not_hasPhysical hd hphysical)
    simp only [Bool.false_eq_true, if_false, List.cons_append, List.nil_append, List.append_nil]
    rw [readItems_usagePage _ _ (by omega), readItems_usage _ _ (by omega),
      readItems_logical _ _ hd.minimum hd.maximum hordered,
      readItems_input _ _ (by omega) (by norm_num) hflags (by exact hclosed), readItems_nil]
    simp only [Reading.dataItem, VariableField.globals, VariableField.globalsBehind, hminimum,
      hmaximum, hexponent, hunit, hblockMin, hblockMax, hblockExponent, hblockUnit]
  | true =>
    have henabled := (Bool.and_eq_true_iff.mp hphysical).2
    obtain ⟨hblock, hnibble⟩ := PhysicalProperties.ordered_of_validEnabled henabled
    simp only [if_true, List.append_assoc, List.cons_append, List.nil_append]
    rw [readItems_usagePage _ _ (by omega), readItems_usage _ _ (by omega),
      readItems_logical _ _ hd.minimum hd.maximum hordered,
      readItems_physicalBlock _ _ d.block.minimum.le_toInt d.block.maximum.toInt_lt hblock hnibble
        d.block.unit.toNat_lt,
      readItems_input _ _ (by omega) (by norm_num) hflags (by exact hclosed),
      ← List.append_nil (physicalBlock 0 0 0 0),
      readItems_physicalBlock _ _ (by norm_num) (by norm_num) le_rfl (by norm_num) (by norm_num),
      readItems_nil]
    simp only [Reading.dataItem, VariableField.globals, VariableField.globalsBehind]

/-- The fields of a range are read one by one. -/
theorem readAs_range {item : DataItem} {semantic : FieldSemantic} {count offset : ℕ}
    (hsemantic : semantic ≠ .constantPadding) (hflags : item.flags = 0x02)
    (hglobals : item.globals.reportSize = 1 ∧ item.globals.reportCount = count)
    (hlogical : item.globals.logicalMinimum = some 0 ∧ item.globals.logicalMaximum = some 1)
    (hneutral : item.globals.physicalMinimum = 0 ∧ item.globals.physicalMaximum = 0 ∧
      item.globals.unitExponent = 0 ∧ item.globals.unit = 0) :
    List.Forall₂ FieldLayout.ReadAs ((List.range count).map (rangeFieldAt semantic offset))
      (item.fieldsAt offset) := by
  obtain ⟨hsize, hcount⟩ := hglobals
  obtain ⟨hminimum, hmaximum⟩ := hlogical
  obtain ⟨hphysicalMin, hphysicalMax, hexponent, hunit⟩ := hneutral
  unfold DataItem.fieldsAt
  rw [hcount, List.forall₂_map_left_iff, List.forall₂_map_right_iff, List.forall₂_same]
  intro index _
  constructor
  · simp [DataItem.fieldAt, rangeFieldAt, hsize]
  · simp [DataItem.fieldAt, rangeFieldAt, hsize]
  · simp [DataItem.fieldAt, rangeFieldAt, DataItem.isConstant, hflags, hsemantic]
  · intro _
    change item.flags.testBit 6 = false
    rw [hflags]
    rfl
  · simp [DataItem.fieldAt, rangeFieldAt, hminimum, hmaximum]
  · simp [DataItem.fieldAt, rangeFieldAt, hphysicalMin, hphysicalMax, hexponent, hunit]

/-- The start of a collection inside the Application collection. -/
theorem ReadsFields.opened (h : ReadsFields id fields depth bits r) (hdepth : 0 < depth)
    {usagePage usage type : ℕ} (husagePage : usagePage < 2 ^ 16) (husage : usage < 2 ^ 16)
    (htype : type < 2 ^ 16) :
    ∃ r', readItems r (collectionItems usagePage usage type) = some r' ∧
      ReadsFields id (fields ++ []) (depth + 1) bits r' := by
  have hopen : ¬r.depth = 0 := by
    rw [h.depth]
    omega
  have hread := readItems_collection r [] husagePage husage htype (by rw [h.locals])
  rw [List.append_nil, readItems_nil, if_neg hopen] at hread
  rw [List.append_nil]
  exact ⟨_, hread, { h with locals := rfl, depth := congrArg (· + 1) h.depth }⟩

/-- The end of a collection inside the Application collection. -/
theorem ReadsFields.closed (h : ReadsFields id fields depth bits r) (hdepth : 0 < depth) :
    ∃ r', readItems r [.empty .main 12] = some r' ∧
      ReadsFields id (fields ++ []) (depth - 1) bits r' := by
  have hopen : ¬r.depth = 0 := by
    rw [h.depth]
    omega
  have hread := readItems_endCollection r [] hopen (by rw [h.locals])
  rw [readItems_nil] at hread
  rw [List.append_nil]
  exact ⟨_, hread, { h with locals := rfl, depth := congrArg (· - 1) h.depth }⟩

/-- A field of the options. -/
theorem ReadsFields.field (h : ReadsFields id fields depth bits r) {d : VariableField}
    (hd : d.Valid) :
    ∃ r', readItems r d.items = some r' ∧
      ReadsFields id (fields ++ [d.layoutAt (prefixBits id + bits)]) depth (bits + d.bitWidth)
        r' := by
  obtain ⟨item, hkind, hflags, hglobals, hread⟩ := readItems_field h hd
  obtain ⟨-, hconstant, hnull⟩ := variableFlags_spec d.relative d.noPreferred d.nullState
  have hwidth : item.bits = d.bitWidth := by
    unfold DataItem.bits
    rw [hglobals]
    exact Nat.mul_one _
  refine ⟨_, hread, h.input hwidth ⟨rfl, rfl, rfl, rfl⟩ hkind ⟨h.reportId, ?_⟩ ?_⟩
  · rw [hglobals]
    exact h.reportId
  · unfold DataItem.fieldsAt
    rw [hglobals]
    refine List.Forall₂.cons ?_ List.Forall₂.nil
    constructor
    · change prefixBits id + bits + 0 * _ = prefixBits id + bits
      rw [Nat.zero_mul, Nat.add_zero]
    · change item.globals.reportSize = d.bitWidth
      rw [hglobals]
      rfl
    · change item.flags.testBit 0 = decide (d.semantic = .constantPadding)
      rw [hflags, hconstant, decide_eq_false hd.semantic]
    · intro _
      change item.flags.testBit 6 = d.nullState
      rw [hflags, hnull]
    · intro _
      unfold DataItem.fieldAt
      rw [hglobals]
      exact ⟨rfl, rfl⟩
    · intro _
      unfold DataItem.fieldAt
      rw [hglobals]
      exact ⟨rfl, rfl, rfl, rfl⟩

/-- A range of one-bit fields. -/
theorem ReadsFields.range (h : ReadsFields id fields depth bits r) {usagePage usageMinimum
    usageMaximum : ℕ} {semantic : FieldSemantic} (husagePage : usagePage < 2 ^ 16)
    (hle : usageMinimum ≤ usageMaximum) (hlt : usageMaximum < 2 ^ 16)
    (hsemantic : semantic ≠ .constantPadding) :
    ∃ r', readItems r ((EmitterOp.range usagePage usageMinimum usageMaximum semantic).items bits) =
        some r' ∧
      ReadsFields id (fields ++ (List.range (usageMaximum - usageMinimum + 1)).map
        (rangeFieldAt semantic (prefixBits id + bits))) depth
          (bits + (usageMaximum - usageMinimum + 1)) r' := by
  let globals : Globals :=
    { r.globals with
      usagePage := some usagePage
      logicalMinimum := some 0
      logicalMaximum := some 1
      reportSize := 1
      reportCount := usageMaximum - usageMinimum + 1 }
  let item : DataItem :=
    { kind := .input
      flags := 0x02
      globals
      usages := r.locals.usages ++ [(usageMinimum, usageMaximum)]
      topLevel := if r.depth = 0 then none else some r.topLevels.length }
  have hread : readItems r
      ((EmitterOp.range usagePage usageMinimum usageMaximum semantic).items bits) =
        some { r with globals, locals := {}, data := r.data ++ [item] } := by
    unfold EmitterOp.items
    rw [readItems_usagePage _ _ (by omega), readItems_usageMinimum _ _ (by omega),
      readItems_usageMaximum _ _ (by omega),
      readItems_logical _ _ (by norm_num) (by norm_num) (by norm_num),
      readItems_input _ _ (by norm_num) (by omega) (by norm_num) (by rw [h.locals]), readItems_nil]
    rfl
  have hbits : item.bits = usageMaximum - usageMinimum + 1 := Nat.one_mul _
  exact ⟨_, hread, h.input hbits h.neutral rfl ⟨h.reportId, h.reportId⟩
    (readAs_range hsemantic rfl ⟨rfl, rfl⟩ ⟨rfl, rfl⟩ h.neutral)⟩

/-- Padding. -/
theorem ReadsFields.pad (h : ReadsFields id fields depth bits r) :
    ∃ r', readItems r (EmitterOp.pad.items bits) = some r' ∧
      ReadsFields id (fields ++ EmitterOp.pad.fields (prefixBits id) bits) depth
        (bits + padding bits) r' := by
  have hlt : padding bits < 8 := Nat.mod_lt _ (by norm_num)
  change ∃ r', readItems r (if padding bits = 0 then [] else _) = some r' ∧
    ReadsFields id (fields ++ if padding bits = 0 then [] else _) depth _ r'
  split_ifs with hzero
  · refine ⟨r, rfl, ?_⟩
    rw [hzero, List.append_nil]
    exact h
  · let globals : Globals := { r.globals with reportSize := padding bits, reportCount := 1 }
    let item : DataItem :=
      { kind := .input
        flags := 0x01
        globals
        usages := r.locals.usages
        topLevel := if r.depth = 0 then none else some r.topLevels.length }
    have hread : readItems r [.ofUnsigned .globalState 7 (padding bits),
        .ofUnsigned .globalState 9 1, .ofUnsigned .main 8 0x01] =
          some { r with globals, locals := {}, data := r.data ++ [item] } := by
      rw [readItems_input _ _ (by omega) (by norm_num) (by norm_num) (by rw [h.locals]),
        readItems_nil]
      rfl
    have hbits : item.bits = padding bits := Nat.mul_one _
    refine ⟨_, hread, h.input (d := item) hbits h.neutral rfl ⟨h.reportId, h.reportId⟩ ?_⟩
    refine List.Forall₂.cons ?_ List.Forall₂.nil
    constructor
    · change prefixBits id + bits + 0 * _ = prefixBits id + bits
      rw [Nat.zero_mul, Nat.add_zero]
    · rfl
    · simp [item, DataItem.fieldAt, DataItem.isConstant, paddingAt]
    all_goals exact fun hsemantic => absurd rfl hsemantic

/-- A Feature item declares no Input field. -/
theorem ReadsFields.feature (h : ReadsFields id fields depth bits r) {f : StaticFeature}
    (hf : f.Valid) :
    ∃ r', readItems r f.items = some r' ∧ ReadsFields id fields depth bits r' := by
  obtain ⟨husagePage, husage, hminimum, hmaximum, hordered, -, hwidth⟩ := hf
  let globals : Globals :=
    { r.globals with
      usagePage := some f.usagePage
      logicalMinimum := some f.logicalMinimum
      logicalMaximum := some f.logicalMaximum
      reportSize := f.bitWidth
      reportCount := 1 }
  let item : DataItem :=
    { kind := .feature
      flags := 0x03
      globals
      usages := r.locals.usages ++ [(f.usage, f.usage)]
      topLevel := if r.depth = 0 then none else some r.topLevels.length }
  have hread : readItems r f.items =
      some { r with globals, locals := {}, data := r.data ++ [item] } := by
    have hsize (r : Reading) : r.step (.ofUnsigned .globalState 7 f.bitWidth) =
        r.fill { r.globals with reportSize := f.bitWidth } := by
      change r.fill _ = _
      rw [ShortItem.unsigned_ofUnsigned _ _ (by omega)]
    have hcount (r : Reading) : r.step (.ofUnsigned .globalState 9 1) =
        r.fill { r.globals with reportCount := 1 } := rfl
    have hmain (r : Reading) : r.mainItem (.ofUnsigned .main 11 (0x01 ||| 0x02)) =
        some (r.dataItem .feature 0x03) := rfl
    unfold StaticFeature.items
    rw [readItems_usagePage _ _ (by omega), readItems_usage _ _ (by omega),
      readItems_logical _ _ hminimum hmaximum hordered, readItems_cons, hsize, Reading.fill,
      Option.bind_some, readItems_cons, hcount, Reading.fill, Option.bind_some,
      readItems_main _ _ rfl (by exact h.locals ▸ rfl) (hmain _), readItems_nil]
    rfl
  have hinputs : Reading.inputs { r with globals, locals := {}, data := r.data ++ [item] } =
      r.inputs := by
    unfold Reading.inputs
    rw [List.filter_append]
    exact List.append_nil _
  refine ⟨_, hread,
    { h with
      locals := rfl
      data := List.forall_mem_append.mpr ⟨h.data, List.forall_mem_singleton.mpr h.reportId⟩
      bits := hinputs.symm ▸ h.bits
      fields := ?_ }⟩
  unfold Reading.fields
  rw [hinputs]
  exact h.fields

/-- **One operation.** -/
theorem readItems_op (h : ReadsFields id fields depth bits r) (hdepth : 0 < depth)
    {op : EmitterOp} (hop : op.Valid) :
    ∃ r', readItems r (op.items bits) = some r' ∧
      ReadsFields id (fields ++ op.fields (prefixBits id) bits) (op.depthFrom depth)
        (bits + op.bits bits) r' := by
  cases op with
  | openLogical usagePage usage =>
    exact h.opened hdepth hop.1 hop.2 (show 0x02 < 2 ^ 16 by norm_num)
  | openPhysical usagePage usage =>
    exact h.opened hdepth hop.1 hop.2 (show 0x00 < 2 ^ 16 by norm_num)
  | close => exact h.closed hdepth
  | field d => exact h.field hop
  | range usagePage usageMinimum usageMaximum semantic =>
    exact h.range hop.1 hop.2.1 hop.2.2.1 hop.2.2.2
  | pad => exact h.pad

/-- **A sequence of operations.** -/
theorem readItems_body {ops : List EmitterOp} {last : ℕ}
    (h : ReadsFields id fields depth bits r) (hdepth : 0 < depth)
    (hnests : BodyNests depth ops last) (hops : ∀ op ∈ ops, op.Valid) :
    ∃ r', readItems r (bodyItems bits ops) = some r' ∧
      ReadsFields id (fields ++ bodyFields (prefixBits id) bits ops) last (bodyBits bits ops)
        r' := by
  induction ops generalizing fields depth bits r with
  | nil =>
    obtain rfl : depth = last := hnests
    exact ⟨r, rfl, by rwa [bodyFields, List.append_nil]⟩
  | cons op ops ih =>
    obtain ⟨hop, hops⟩ := List.forall_mem_cons.mp hops
    obtain ⟨r', hread, hfields⟩ := readItems_op h hdepth hop
    obtain ⟨r'', hread', hfields'⟩ := ih hfields (op.depthFrom_pos hnests.1 hdepth) hnests.2 hops
    refine ⟨r'', ?_, ?_⟩
    · rw [bodyItems, readItems_append, hread]
      exact hread'
    · rw [List.append_assoc] at hfields'
      exact hfields'

end Fields

/-! ### Whole programs -/

namespace EmitterProgram

variable {p : EmitterProgram}

theorem prefixBits_identity (p : EmitterProgram) : Hid.prefixBits p.identity = p.prefixBits := by
  unfold identity prefixBits Hid.prefixBits
  cases p.enabled <;> rfl

/-- The items in front of the Input items. -/
theorem reads_head (hp : p.Valid) :
    ∃ r, readItems {} p.head = some r ∧ ReadsFields p.identity [] 1 0 r := by
  have hopened : readItems {} (collectionItems p.usagePage p.usage 0x01) =
      some { globals.usagePage := some p.usagePage, depth := 1, topLevels := [1] } := by
    rw [← List.append_nil (collectionItems _ _ _),
      readItems_collection _ _ hp.usagePage hp.usage (by norm_num) rfl, readItems_nil]
    rfl
  have hdeclared : readItems {} (collectionItems p.usagePage p.usage 0x01 ++
      (if p.enabled then [.ofUnsigned .globalState 8 p.reportId] else [])) =
      some
        { globals.usagePage := some p.usagePage
          globals.reportId := p.identity
          depth := 1
          topLevels := [1] } := by
    rw [readItems_append, hopened, Option.bind_some]
    unfold identity
    cases henabled : p.enabled with
    | false => rfl
    | true =>
      have hne := hp.reportId_ne henabled
      have hlt := hp.reportId_lt
      rw [if_pos rfl, readItems_cons]
      change (if _ ∨ _ then none else Reading.fill _ _).bind _ = _
      rw [ShortItem.unsigned_ofUnsigned _ _ (by omega), if_neg (by omega)]
      rfl
  have hstart : ReadsFields p.identity [] 1 0
      { globals.usagePage := some p.usagePage
        globals.reportId := p.identity
        depth := 1
        topLevels := [1] } :=
    { neutral := ⟨rfl, rfl, rfl, rfl⟩
      reportId := rfl
      stack := rfl
      locals := rfl
      depth := rfl
      topLevels := rfl
      data := List.forall_mem_nil _
      bits := bitsOf_nil p.identity
      fields := List.Forall₂.nil }
  unfold head
  rw [readItems_append, hdeclared, Option.bind_some]
  cases hfeature : p.feature with
  | none => exact ⟨_, rfl, hstart⟩
  | some f => exact hstart.feature (hp.feature f hfeature)

/-- **The items of a program** have a reading with the fields of its layout. -/
theorem exists_reading (hp : p.Valid) :
    ∃ r, readItems {} p.items = some r ∧
      ReadsFields p.identity p.layout.fields 0 (bodyBits 0 p.body) r := by
  obtain ⟨r, hhead, hfields⟩ := reads_head hp
  obtain ⟨r', hbody, hfields'⟩ := readItems_body hfields Nat.one_pos hp.nests hp.body
  obtain ⟨r'', hlast, hfields''⟩ := hfields'.closed Nat.one_pos
  refine ⟨r'', ?_, ?_⟩
  · rw [items, readItems_append, readItems_append, hhead, Option.bind_some, hbody]
    exact hlast
  · rw [List.append_nil, List.nil_append, prefixBits_identity] at hfields''
    exact hfields''

end EmitterProgram

end LibaoaHid

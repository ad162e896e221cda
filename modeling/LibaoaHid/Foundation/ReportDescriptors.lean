import LibaoaHid.Foundation.ShortItems

/-!
# The reading of a report descriptor

What a sequence of short items declares by HID 1.11. Global items fill a table that is carried
from item to item, and that Push and Pop save and restore. Local items describe the next Main item
only. Every Input, Output and Feature item takes both tables as they stand at it, and declares as
many fields as its Report Count says, one behind the other in its report.

A Minimum is signed. A Maximum is signed when the Minimum in front of it is negative, and unsigned
otherwise. Unit Exponent is a signed nibble.

## Main definitions

* `Globals`, `Locals`, `DataItem`, `Reading`: the tables, a data item with its tables, and what
  has been read.
* `Reading.step`, `readItems`: one item and a sequence of items; there is no reading when the items
  do not nest.
* `InputField`, `Reading.fields`: the single fields of the Input items, with their bit ranges.

## Main results

* `readItems_append`: a sequence is read piece by piece.
* `fieldsBehind_append`: the fields of a sequence of data items.
-/

namespace Hid

/-! ### Tables -/

/-- The Global item state. A Report ID of `none` is the one report without an ID. -/
structure Globals where
  usagePage : Option ℕ := none
  logicalMinimum : Option ℤ := none
  logicalMaximum : Option ℤ := none
  physicalMinimum : ℤ := 0
  physicalMaximum : ℤ := 0
  unitExponent : ℤ := 0
  unit : ℕ := 0
  reportSize : ℕ := 0
  reportCount : ℕ := 0
  reportId : Option ℕ := none
  deriving DecidableEq

/-- The Local item state: the ranges of Usages, the start of the next range, and whether a
delimiter set is open. -/
structure Locals where
  usages : List (ℕ × ℕ) := []
  usageMinimum : ℕ := 0
  delimiterOpen : Bool := false
  deriving DecidableEq

/-- The Main items that declare data. -/
inductive DataKind
  | input
  | output
  | feature
  deriving DecidableEq, Repr

/-- A data item with its tables, and the top-level collection around it, if there is one. -/
structure DataItem where
  kind : DataKind
  flags : ℕ
  globals : Globals
  usages : List (ℕ × ℕ)
  topLevel : Option ℕ
  deriving DecidableEq

/-- What has been read: the tables, the saved tables, the number of open collections, the types of
the top-level collections, and the data items. -/
structure Reading where
  globals : Globals := {}
  stack : List Globals := []
  locals : Locals := {}
  depth : ℕ := 0
  topLevels : List ℕ := []
  data : List DataItem := []
  deriving DecidableEq

/-! ### Items -/

/-- The signed nibble of a Unit Exponent. -/
def signedNibble (value : ℕ) : ℤ := if value % 16 < 8 then value % 16 else value % 16 - 16

/-- The value of a Maximum item behind a Minimum. -/
def ShortItem.maximum (item : ShortItem) (minimum : ℤ) : ℤ :=
  if minimum < 0 then item.signed else item.unsigned

namespace Reading

/-- A Global item that fills the table. -/
def fill (r : Reading) (globals : Globals) : Option Reading := some { r with globals }

/-- A Global item. -/
def globalItem (r : Reading) (item : ShortItem) : Option Reading :=
  match item.tag with
  | 0 => r.fill { r.globals with usagePage := some item.unsigned }
  | 1 => r.fill { r.globals with logicalMinimum := some item.signed }
  | 2 =>
    r.fill { r.globals with
      logicalMaximum := some (item.maximum (r.globals.logicalMinimum.getD 0)) }
  | 3 => r.fill { r.globals with physicalMinimum := item.signed }
  | 4 => r.fill { r.globals with physicalMaximum := item.maximum r.globals.physicalMinimum }
  | 5 => r.fill { r.globals with unitExponent := signedNibble item.unsigned }
  | 6 => r.fill { r.globals with unit := item.unsigned }
  | 7 => r.fill { r.globals with reportSize := item.unsigned }
  | 8 =>
    if item.unsigned = 0 ∨ 255 < item.unsigned then none
    else r.fill { r.globals with reportId := some item.unsigned }
  | 9 => r.fill { r.globals with reportCount := item.unsigned }
  | 10 => some { r with stack := r.globals :: r.stack }
  | 11 =>
    match r.stack with
    | [] => none
    | globals :: stack => some { r with globals, stack }
  | _ => none

/-- A Local item. -/
def localItem (r : Reading) (item : ShortItem) : Option Reading :=
  match item.tag with
  | 0 =>
    some { r with locals.usages := r.locals.usages ++ [(item.unsigned, item.unsigned)] }
  | 1 => some { r with locals.usageMinimum := item.unsigned }
  | 2 =>
    some { r with locals.usages := r.locals.usages ++ [(r.locals.usageMinimum, item.unsigned)] }
  | 10 =>
    if item.unsigned = 1 ∧ r.locals.delimiterOpen = false then
      some { r with locals.delimiterOpen := true }
    else if item.unsigned = 0 ∧ r.locals.delimiterOpen = true then
      some { r with locals.delimiterOpen := false }
    else none
  -- Designators and strings.
  | 3 | 4 | 5 | 7 | 8 | 9 => some r
  | _ => none

/-- A data item takes both tables as they are. -/
def dataItem (r : Reading) (kind : DataKind) (flags : ℕ) : Reading :=
  { r with
    data := r.data ++
      [{ kind
         flags
         globals := r.globals
         usages := r.locals.usages
         topLevel := if r.depth = 0 then none else some r.topLevels.length }] }

/-- A Main item in front of the reset of the Local table. -/
def mainItem (r : Reading) (item : ShortItem) : Option Reading :=
  match item.tag with
  | 8 => some (r.dataItem .input item.unsigned)
  | 9 => some (r.dataItem .output item.unsigned)
  | 11 => some (r.dataItem .feature item.unsigned)
  | 10 =>
    some { r with
      depth := r.depth + 1
      topLevels := if r.depth = 0 then r.topLevels ++ [item.unsigned] else r.topLevels }
  | 12 => if r.depth = 0 then none else some { r with depth := r.depth - 1 }
  | _ => none

/-- One item. A Main item needs every delimiter set closed, and ends the Local table. -/
def step (r : Reading) (item : ShortItem) : Option Reading :=
  match item.type with
  | .globalState => r.globalItem item
  | .localState => r.localItem item
  | .main =>
    if r.locals.delimiterOpen then none
    else (r.mainItem item).map fun next => { next with locals := {} }

end Reading

/-- The reading of a sequence of items. -/
def readItems (r : Reading) (items : List ShortItem) : Option Reading :=
  items.foldlM Reading.step r

@[simp] theorem readItems_nil (r : Reading) : readItems r [] = some r := rfl

@[simp] theorem readItems_cons (r : Reading) (item : ShortItem) (items : List ShortItem) :
    readItems r (item :: items) = (r.step item).bind fun next => readItems next items :=
  List.foldlM_cons

theorem readItems_append (r : Reading) (first second : List ShortItem) :
    readItems r (first ++ second) = (readItems r first).bind fun next => readItems next second :=
  List.foldlM_append

/-! ### Fields -/

/-- One Input field of a report. -/
structure InputField where
  reportId : Option ℕ
  offset : ℕ
  width : ℕ
  constant : Bool
  nullState : Bool
  logicalMinimum : ℤ
  logicalMaximum : ℤ
  physicalMinimum : ℤ
  physicalMaximum : ℤ
  unitExponent : ℤ
  unit : ℕ
  deriving DecidableEq

/-- The bytes of its report that a field touches. -/
def InputField.bytesTouched (field : InputField) : ℕ :=
  (field.offset + field.width - 1) / 8 - field.offset / 8 + 1

namespace DataItem

/-- The item declares padding. -/
def isConstant (d : DataItem) : Bool := d.flags.testBit 0

/-- The bits of all fields of the item. -/
def bits (d : DataItem) : ℕ := d.globals.reportSize * d.globals.reportCount

/-- The field of the item at an offset. -/
def fieldAt (d : DataItem) (offset : ℕ) : InputField where
  reportId := d.globals.reportId
  offset
  width := d.globals.reportSize
  constant := d.isConstant
  nullState := d.flags.testBit 6
  logicalMinimum := d.globals.logicalMinimum.getD 0
  logicalMaximum := d.globals.logicalMaximum.getD 0
  physicalMinimum := d.globals.physicalMinimum
  physicalMaximum := d.globals.physicalMaximum
  unitExponent := d.globals.unitExponent
  unit := d.globals.unit

/-- The fields of the item, the first of them at an offset. -/
def fieldsAt (d : DataItem) (offset : ℕ) : List InputField :=
  (List.range d.globals.reportCount).map fun i => d.fieldAt (offset + i * d.globals.reportSize)

end DataItem

/-- The bits in front of the first field of a report: its Report ID, when it has one. -/
def prefixBits (reportId : Option ℕ) : ℕ := if reportId.isSome then 8 else 0

/-- The bits of a report, with its Report ID. -/
def bitsOf (reportId : Option ℕ) (data : List DataItem) : ℕ :=
  prefixBits reportId +
    ((data.filter fun d => d.globals.reportId = reportId).map DataItem.bits).sum

/-- The fields of data items behind others. -/
def fieldsBehind (before : List DataItem) : List DataItem → List InputField
  | [] => []
  | d :: rest =>
    d.fieldsAt (bitsOf d.globals.reportId before) ++ fieldsBehind (before ++ [d]) rest

theorem bitsOf_nil (reportId : Option ℕ) : bitsOf reportId [] = prefixBits reportId := rfl

theorem bitsOf_append_singleton (reportId : Option ℕ) (data : List DataItem) (d : DataItem) :
    bitsOf reportId (data ++ [d]) =
      bitsOf reportId data + if d.globals.reportId = reportId then d.bits else 0 := by
  unfold bitsOf
  rw [List.filter_append, List.map_append, List.sum_append, ← Nat.add_assoc]
  split_ifs with h <;> simp [h]

theorem fieldsBehind_append (before first second : List DataItem) :
    fieldsBehind before (first ++ second) =
      fieldsBehind before first ++ fieldsBehind (before ++ first) second := by
  induction first generalizing before with
  | nil => rw [List.nil_append, List.append_nil, fieldsBehind, List.nil_append]
  | cons d first ih =>
    rw [List.cons_append, fieldsBehind, fieldsBehind, ih, List.append_assoc, List.append_assoc]
    rfl

namespace Reading

/-- The Input items. -/
def inputs (r : Reading) : List DataItem := r.data.filter fun d => d.kind = .input

/-- The single Input fields, in the order of their items. -/
def fields (r : Reading) : List InputField := fieldsBehind [] r.inputs

/-- Every collection, Push and delimiter set has its end. -/
structure Balanced (r : Reading) : Prop where
  collections : r.depth = 0
  stack : r.stack = []
  delimiters : r.locals.delimiterOpen = false

@[simp] theorem inputs_dataItem_input (r : Reading) (flags : ℕ) :
    (r.dataItem .input flags).inputs = r.inputs ++
      [{ kind := .input
         flags
         globals := r.globals
         usages := r.locals.usages
         topLevel := if r.depth = 0 then none else some r.topLevels.length }] := by
  simp [inputs, dataItem, List.filter_append]

end Reading

end Hid

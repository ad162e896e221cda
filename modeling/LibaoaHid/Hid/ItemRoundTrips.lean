import LibaoaHid.Hid.ProgramParses
import LibaoaHid.Hid.RawSound

/-!
# Items that decode to what was written

`src/hid/item_writer.cpp` and the item loop of `validate_raw` in `src/hid/validator.cpp`. The
writer takes the shortest of one, two or four data bytes, under one rule for unsigned and one for
signed values; the parser reads a Maximum as signed or as unsigned by the Minimum in force, which
Push saves and Pop restores. A sequence of calls that declare their Maxima against these Minima is
read back call by call.

## Main definitions

* `WriterCall`, `WriterCall.runAll`: a call of an operation of `ItemWriter`, and calls in a row.
* `Minima`: the two Minima in force, and the saved ones.
* `Minima.decode`: the value of an item, by the parser's choice of signedness.
* `WriterCall.Declared`: the arguments of a call, in front of which the Minima are declared.

## Main results

* `WriterCall.decode_item`, `WriterCall.next_item`: one call and its item.
* `Minima.InForce.held_decoded`: the parser's own Global state holds the decoded values.
* `decoded_written`: a sequence of calls.
-/

namespace LibaoaHid

open Hid

/-! ### Calls -/

/-- A call of an operation of `ItemWriter`. -/
inductive WriterCall
  | usagePage (value : ℕ)
  | usage (value : ℕ)
  | usageMinimum (value : ℕ)
  | usageMaximum (value : ℕ)
  | logicalMinimum (value : ℤ)
  | logicalMaximum (value declaredMinimum : ℤ)
  | physicalMinimum (value : ℤ)
  | physicalMaximum (value declaredMinimum : ℤ)
  | unitExponent (value : ℤ)
  | unit (value : ℕ)
  | reportSize (value : ℕ)
  | reportId (value : ℕ)
  | reportCount (value : ℕ)
  | push
  | pop
  | input (flags : ℕ)
  | feature (flags : ℕ)
  | collection (type : ℕ)
  | endCollection

namespace WriterCall

/-- The operation that is called. It answers `true` when there is a writer behind it. -/
def run : WriterCall → ItemWriter → Option ItemWriter
  | usagePage value, w => w.usagePage value
  | usage value, w => w.usage value
  | usageMinimum value, w => w.usageMinimum value
  | usageMaximum value, w => w.usageMaximum value
  | logicalMinimum value, w => w.logicalMinimum value
  | logicalMaximum value declaredMinimum, w => w.logicalMaximum value declaredMinimum
  | physicalMinimum value, w => w.physicalMinimum value
  | physicalMaximum value declaredMinimum, w => w.physicalMaximum value declaredMinimum
  | unitExponent value, w => w.unitExponent value
  | unit value, w => w.unit value
  | reportSize value, w => w.reportSize value
  | reportId value, w => w.reportId value
  | reportCount value, w => w.reportCount value
  | push, w => w.push
  | pop, w => w.pop
  | input flags, w => w.input flags
  | feature flags, w => w.feature flags
  | collection type, w => w.collection type
  | endCollection, w => w.endCollection

/-- Calls in a row that all answer `true`. -/
def runAll : List WriterCall → ItemWriter → Option ItemWriter
  | [], w => some w
  | call :: rest, w => (call.run w).bind (runAll rest)

/-- The base of a call's prefix byte: its tag and its type. -/
def base : WriterCall → ℕ
  | usagePage _ => 0x04
  | usage _ => 0x08
  | usageMinimum _ => 0x18
  | usageMaximum _ => 0x28
  | logicalMinimum _ => 0x14
  | logicalMaximum _ _ => 0x24
  | physicalMinimum _ => 0x34
  | physicalMaximum _ _ => 0x44
  | unitExponent _ => 0x54
  | unit _ => 0x64
  | reportSize _ => 0x74
  | reportId _ => 0x84
  | reportCount _ => 0x94
  | push => 0xA4
  | pop => 0xB4
  | input _ => 0x80
  | feature _ => 0xB0
  | collection _ => 0xA0
  | endCollection => 0xC0

/-- The argument of a call, zero for a call without one. -/
def argument : WriterCall → ℤ
  | usagePage value | usage value | usageMinimum value | usageMaximum value => value
  | logicalMinimum value | physicalMinimum value | unitExponent value => value
  | logicalMaximum value _ | physicalMaximum value _ => value
  | unit value | reportSize value | reportId value | reportCount value => value
  | input flags | feature flags => flags
  | collection type => type
  | push | pop | endCollection => 0

/-- The item of a call. -/
def item : WriterCall → ShortItem
  | usagePage value => .ofUnsigned .globalState 0 value
  | usage value => .ofUnsigned .localState 0 value
  | usageMinimum value => .ofUnsigned .localState 1 value
  | usageMaximum value => .ofUnsigned .localState 2 value
  | logicalMinimum value => .ofSigned .globalState 1 value
  | logicalMaximum value declaredMinimum => ItemWriter.maximumItem 2 value declaredMinimum
  | physicalMinimum value => .ofSigned .globalState 3 value
  | physicalMaximum value declaredMinimum => ItemWriter.maximumItem 4 value declaredMinimum
  | unitExponent value => ItemWriter.exponentItem value
  | unit value => .ofUnsigned .globalState 6 value
  | reportSize value => .ofUnsigned .globalState 7 value
  | reportId value => .ofUnsigned .globalState 8 value
  | reportCount value => .ofUnsigned .globalState 9 value
  | push => .empty .globalState 10
  | pop => .empty .globalState 11
  | input flags => .ofUnsigned .main 8 flags
  | feature flags => .ofUnsigned .main 11 flags
  | collection type => .ofUnsigned .main 10 type
  | endCollection => .empty .main 12

variable {call : WriterCall} {calls : List WriterCall} {w w' : ItemWriter}

/-- A call that answers `true` writes its item. -/
theorem put_of_run (h : call.run w = some w') : w.put call.item.bytes = some w' := by
  rw [← h]
  cases call with
  | usagePage value => exact (w.usagePage_eq value).symm
  | usage value => exact (w.usage_eq value).symm
  | usageMinimum value => exact (w.usageMinimum_eq value).symm
  | usageMaximum value => exact (w.usageMaximum_eq value).symm
  | logicalMinimum value => exact (w.logicalMinimum_eq value).symm
  | logicalMaximum value declaredMinimum => exact (w.logicalMaximum_eq value declaredMinimum).symm
  | physicalMinimum value => exact (w.physicalMinimum_eq value).symm
  | physicalMaximum value declaredMinimum => exact (w.physicalMaximum_eq value declaredMinimum).symm
  | unitExponent value =>
    rw [run, ItemWriter.unitExponent] at h
    split_ifs at h with hrange
    exact (ItemWriter.unitExponent_eq (by omega) (by omega)).symm
  | unit value => exact (w.unit_eq value).symm
  | reportSize value => exact (w.reportSize_eq value).symm
  | reportId value => exact (w.reportId_eq value).symm
  | reportCount value => exact (w.reportCount_eq value).symm
  | push => exact (ItemWriter.emit_eq (ShortItem.empty .globalState 10) rfl rfl).symm
  | pop => exact (ItemWriter.emit_eq (ShortItem.empty .globalState 11) rfl rfl).symm
  | input flags => exact (w.input_eq flags).symm
  | feature flags => exact (w.feature_eq flags).symm
  | collection type => exact (w.collection_eq type).symm
  | endCollection => exact ItemWriter.endCollection_eq.symm

/-- Calls in a row write their items in a row. -/
theorem put_of_runAll (hposition : w.position ≤ w.capacity) (h : runAll calls w = some w') :
    w.put (encodeItems (calls.map item)) = some w' := by
  induction calls generalizing w with
  | nil =>
    rw [← h]
    exact ItemWriter.put_nil hposition
  | cons call rest ih =>
    obtain ⟨next, hnext, hrest⟩ := Option.bind_eq_some_iff.mp h
    have hput := put_of_run hnext
    rw [List.map_cons, encodeItems_cons, ItemWriter.put_append_of_some hput]
    obtain ⟨hfits, rfl⟩ := ItemWriter.put_eq_some hput
    exact ih hfits hrest

/-- The type and the tag of an item are those of its base. -/
theorem type_item (call : WriterCall) : call.item.type.code = call.base >>> 2 &&& 0x03 := by
  cases call <;> simp [item, base, type_maximumItem, ItemWriter.exponentItem, ItemType.code]

theorem tag_item (call : WriterCall) : call.item.tag = call.base >>> 4 := by
  cases call <;> simp [item, base, tag_maximumItem, ItemWriter.exponentItem]

/-- No call writes a long item. -/
theorem short_item (call : WriterCall) : call.item.tag ≠ 15 := by
  rw [tag_item]
  cases call <;> simp [base]

end WriterCall

/-! ### Minima in force -/

/-- The Minima in force, and those that Push has saved. -/
structure Minima where
  logical : ℤ := 0
  physical : ℤ := 0
  saved : List (ℤ × ℤ) := []

namespace Minima

/-- The value of an item, as the parser reads it behind these Minima. -/
def decode (m : Minima) (type : ℕ) (raw : RawItem) : ℤ :=
  if type = 1 then
    match raw.tag with
    | 1 | 3 => signedValue raw.data
    | 2 => if m.logical < 0 then signedValue raw.data else toSigned32 (unsignedValue raw.data)
    | 4 => if m.physical < 0 then signedValue raw.data else toSigned32 (unsignedValue raw.data)
    | 5 => signedNibble (unsignedValue raw.data)
    | _ => unsignedValue raw.data
  else unsignedValue raw.data

/-- The Minima behind an item. -/
def next (m : Minima) (type : ℕ) (raw : RawItem) : Minima :=
  if type = 1 then
    match raw.tag, m.saved with
    | 1, _ => { m with logical := signedValue raw.data }
    | 3, _ => { m with physical := signedValue raw.data }
    | 10, saved => { m with saved := (m.logical, m.physical) :: saved }
    | 11, (logical, physical) :: saved => { logical, physical, saved }
    | _, _ => m
  else m

/-- The values of the items of a descriptor. -/
def decoded : Minima → List (ℕ × RawItem) → List ℤ
  | _, [] => []
  | m, d :: rest => m.decode d.1 d.2 :: decoded (m.next d.1 d.2) rest

/-- The Minima that are declared behind a call. -/
def behind (m : Minima) : WriterCall → Minima
  | .logicalMinimum value => { m with logical := value }
  | .physicalMinimum value => { m with physical := value }
  | .push => { m with saved := (m.logical, m.physical) :: m.saved }
  | .pop =>
    match m.saved with
    | [] => m
    | (logical, physical) :: saved => { logical, physical, saved }
  | _ => m

end Minima

namespace WriterCall

/-- The arguments of a call behind the declared Minima: numbers of their types, a Maximum that is
not below the Minimum it is declared with, and an exponent of one nibble. -/
def Declared (m : Minima) : WriterCall → Prop
  | usagePage value | usage value | usageMinimum value | usageMaximum value => value < 2 ^ 32
  | logicalMinimum value | physicalMinimum value => -2 ^ 31 ≤ value ∧ value < 2 ^ 31
  | logicalMaximum value declaredMinimum =>
    declaredMinimum = m.logical ∧ declaredMinimum ≤ value ∧ -2 ^ 31 ≤ value ∧ value < 2 ^ 31
  | physicalMaximum value declaredMinimum =>
    declaredMinimum = m.physical ∧ declaredMinimum ≤ value ∧ -2 ^ 31 ≤ value ∧ value < 2 ^ 31
  | unitExponent value => -8 ≤ value ∧ value ≤ 7
  | unit value | reportSize value | reportId value | reportCount value => value < 2 ^ 32
  | input flags | feature flags => flags < 2 ^ 32
  | collection type => type < 2 ^ 32
  | push | pop | endCollection => True

/-- Calls in a row, each behind the Minima that the calls in front of it declare. -/
def AllDeclared : Minima → List WriterCall → Prop
  | _, [] => True
  | m, call :: rest => call.Declared m ∧ AllDeclared (m.behind call) rest

variable {call : WriterCall} {calls : List WriterCall} {m : Minima}

/-- The item of a call at an offset. -/
def rawItem (call : WriterCall) (offset : ℕ) : RawItem :=
  { tag := call.item.tag, data := call.item.data, offset }

private theorem unsignedValue_ofUnsigned (type : ItemType) (tag : Fin 16) {value : ℕ}
    (h : value < 2 ^ 32) :
    (unsignedValue (ShortItem.ofUnsigned type tag value).data : ℤ) = value := by
  rw [unsignedValue_data, ShortItem.unsigned_ofUnsigned _ _ h]

private theorem signedValue_ofSigned (type : ItemType) (tag : Fin 16) {value : ℤ}
    (hlower : -2 ^ 31 ≤ value) (hupper : value < 2 ^ 31) :
    signedValue (ShortItem.ofSigned type tag value).data = value := by
  rw [signedValue_eq, ShortItem.signed_ofSigned _ _ hlower hupper]

/-- The item of a call decodes to the argument. -/
theorem decode_item (h : call.Declared m) (offset : ℕ) :
    m.decode call.item.type.code (call.rawItem offset) = call.argument := by
  cases call with
  | usagePage value => exact unsignedValue_ofUnsigned .globalState 0 h
  | usage value => exact unsignedValue_ofUnsigned .localState 0 h
  | usageMinimum value => exact unsignedValue_ofUnsigned .localState 1 h
  | usageMaximum value => exact unsignedValue_ofUnsigned .localState 2 h
  | logicalMinimum value => exact signedValue_ofSigned .globalState 1 h.1 h.2
  | logicalMaximum value declaredMinimum =>
    obtain ⟨rfl, hle, hlower, hupper⟩ := h
    rw [rawItem, item, type_maximumItem, tag_maximumItem]
    exact rawMaximum_eq 2 hlower hupper fun hnonneg => hnonneg.trans hle
  | physicalMinimum value => exact signedValue_ofSigned .globalState 3 h.1 h.2
  | physicalMaximum value declaredMinimum =>
    obtain ⟨rfl, hle, hlower, hupper⟩ := h
    rw [rawItem, item, type_maximumItem, tag_maximumItem]
    exact rawMaximum_eq 4 hlower hupper fun hnonneg => hnonneg.trans hle
  | unitExponent value =>
    change signedNibble (unsignedValue (ItemWriter.exponentItem value).data) = value
    rw [unsignedValue_data, signedNibble_exponentItem h.1 h.2]
  | unit value => exact unsignedValue_ofUnsigned .globalState 6 h
  | reportSize value => exact unsignedValue_ofUnsigned .globalState 7 h
  | reportId value => exact unsignedValue_ofUnsigned .globalState 8 h
  | reportCount value => exact unsignedValue_ofUnsigned .globalState 9 h
  | push => rfl
  | pop => rfl
  | input flags => exact unsignedValue_ofUnsigned .main 8 h
  | feature flags => exact unsignedValue_ofUnsigned .main 11 h
  | collection type => exact unsignedValue_ofUnsigned .main 10 h
  | endCollection => rfl

/-- The item of a call leaves the Minima that the call declares. -/
theorem next_item (h : call.Declared m) (offset : ℕ) :
    m.next call.item.type.code (call.rawItem offset) = m.behind call := by
  cases call with
  | logicalMinimum value =>
    exact congrArg (fun value => { m with logical := value })
      (signedValue_ofSigned .globalState 1 h.1 h.2)
  | physicalMinimum value =>
    exact congrArg (fun value => { m with physical := value })
      (signedValue_ofSigned .globalState 3 h.1 h.2)
  | logicalMaximum value declaredMinimum =>
    rw [rawItem, item, type_maximumItem, tag_maximumItem]
    rfl
  | physicalMaximum value declaredMinimum =>
    rw [rawItem, item, type_maximumItem, tag_maximumItem]
    rfl
  | pop =>
    obtain ⟨logical, physical, saved⟩ := m
    cases saved <;> rfl
  | _ => rfl

/-- Calls in a row: their items decode to the arguments. -/
theorem decoded_items (h : AllDeclared m calls) (offset : ℕ) :
    m.decoded (delivered offset (calls.map item)) = calls.map argument := by
  induction calls generalizing m offset with
  | nil => rfl
  | cons call rest ih =>
    have hvalue := decode_item h.1 offset
    have hnext := next_item h.1 offset
    rw [rawItem] at hvalue hnext
    rw [List.map_cons, List.map_cons, delivered, Minima.decoded, hvalue, hnext]
    exact congrArg _ (ih h.2 _)

end WriterCall

/-! ### The parser's own state -/

namespace RawParser

variable {p p' : RawParser} {raw : RawItem}

/-- The Global state that an item sets, as the parser holds it. -/
def Globals.held (g : Globals) : ℕ → Option ℤ
  | 0 => some g.usagePage
  | 1 => some g.logicalMinimum
  | 2 => some g.logicalMaximum
  | 3 => some g.physicalMinimum
  | 4 => some g.physicalMaximum
  | 6 => some g.unit
  | 7 => some g.reportSize
  | 8 => some g.reportId
  | 9 => some g.reportCount
  | _ => none

private theorem globals_addUsageCount {count offset : ℕ}
    (h : p.addUsageCount count offset = .ok p') :
    p'.globals = p.globals ∧ p'.globalStack = p.globalStack := by
  rw [addUsageCount] at h
  split_ifs at h
  cases h
  exact ⟨rfl, rfl⟩

/-- A Local item leaves the Global state. -/
theorem globals_localItem (h : p.localItem raw = .ok p') :
    p'.globals = p.globals ∧ p'.globalStack = p.globalStack := by
  rw [localItem] at h
  dsimp only at h
  split_ifs at h
  · rw [delimiterItem] at h
    split_ifs at h <;> cases h <;> exact ⟨rfl, rfl⟩
  · exact globals_addUsageCount h
  · cases h
    exact ⟨rfl, rfl⟩
  · rw [usageMaximumItem] at h
    split_ifs at h
    exact globals_addUsageCount h
  · cases h
    exact ⟨rfl, rfl⟩
  · cases h
    exact ⟨rfl, rfl⟩

/-- A Main item leaves the Global state. -/
theorem globals_mainItem (h : p.mainItem raw = .ok p') :
    p'.globals = p.globals ∧ p'.globalStack = p.globalStack := by
  rw [mainItem] at h
  obtain ⟨-, h⟩ := of_ite_error h
  obtain ⟨tagged, htagged, rfl⟩ := map_eq_ok.mp h
  rw [taggedMainItem] at htagged
  split_ifs at htagged
  · rw [collectionItem] at htagged
    split_ifs at htagged <;> cases htagged <;> exact ⟨rfl, rfl⟩
  · rw [endCollectionItem] at htagged
    obtain ⟨-, htagged⟩ := of_ite_error htagged
    cases htagged
    exact ⟨rfl, rfl⟩
  · rw [dataItem] at htagged
    obtain ⟨-, htagged⟩ := of_ite_error htagged
    obtain ⟨-, -, requirements, fields, rfl⟩ := inputItem_ok htagged
    exact ⟨rfl, rfl⟩

end RawParser

namespace Minima

variable {m : Minima} {p p' : RawParser} {raw : RawItem} {type : ℕ}

/-- The Minima are those of the parser. -/
structure InForce (m : Minima) (p : RawParser) : Prop where
  logical : p.globals.logicalMinimum = m.logical
  physical : p.globals.physicalMinimum = m.physical
  saved : p.globalStack.map (fun g => (g.logicalMinimum, g.physicalMinimum)) = m.saved

/-- A Global item that the parser accepts: the Minima, and what it holds of the item's value. -/
theorem InForce.globalItem (h : m.InForce p) (hitem : p.globalItem raw = .ok p') :
    (m.next 1 raw).InForce p' ∧
      ∀ value, p'.globals.held raw.tag = some value → value = m.decode 1 raw := by
  obtain ⟨tag, data, offset⟩ := raw
  rw [RawParser.globalItem] at hitem
  dsimp only at hitem
  split at hitem
  case h_1 =>
    obtain ⟨-, hitem⟩ := of_ite_error hitem
    cases hitem
    exact ⟨⟨h.logical, h.physical, h.saved⟩, fun value hheld => (Option.some.inj hheld).symm⟩
  case h_2 =>
    cases hitem
    exact ⟨⟨rfl, h.physical, h.saved⟩, fun value hheld => (Option.some.inj hheld).symm⟩
  case h_3 =>
    cases hitem
    refine ⟨⟨h.logical, h.physical, h.saved⟩, fun value hheld => ?_⟩
    rw [← Option.some.inj hheld, h.logical]
    rfl
  case h_4 =>
    cases hitem
    exact ⟨⟨h.logical, rfl, h.saved⟩, fun value hheld => (Option.some.inj hheld).symm⟩
  case h_5 =>
    cases hitem
    refine ⟨⟨h.logical, h.physical, h.saved⟩, fun value hheld => ?_⟩
    rw [← Option.some.inj hheld, h.physical]
    rfl
  case h_6 =>
    obtain ⟨-, hitem⟩ := of_ite_error hitem
    cases hitem
    exact ⟨⟨h.logical, h.physical, h.saved⟩, fun value hheld => by cases hheld⟩
  case h_7 =>
    obtain ⟨-, hitem⟩ := of_ite_error hitem
    cases hitem
    exact ⟨⟨h.logical, h.physical, h.saved⟩, fun value hheld => (Option.some.inj hheld).symm⟩
  case h_8 =>
    cases hitem
    exact ⟨⟨h.logical, h.physical, h.saved⟩, fun value hheld => (Option.some.inj hheld).symm⟩
  case h_9 =>
    obtain ⟨-, hitem⟩ := of_ite_error hitem
    cases hitem
    exact ⟨⟨h.logical, h.physical, h.saved⟩, fun value hheld => (Option.some.inj hheld).symm⟩
  case h_10 =>
    cases hitem
    exact ⟨⟨h.logical, h.physical, h.saved⟩, fun value hheld => (Option.some.inj hheld).symm⟩
  case h_11 =>
    cases hitem
    refine ⟨⟨h.logical, h.physical, ?_⟩, fun value hheld => by cases hheld⟩
    rw [List.map_cons, h.logical, h.physical, h.saved]
    rfl
  case h_12 =>
    have hsaved := h.saved
    split at hitem
    · cases hitem
    next globals stack hstack =>
      cases hitem
      rw [hstack, List.map_cons] at hsaved
      refine ⟨?_, fun value hheld => by cases hheld⟩
      rw [next, if_pos rfl, ← hsaved]
      exact ⟨rfl, rfl, rfl⟩
  case h_13 => cases hitem

/-- An item that the parser accepts leaves its Minima in force. -/
theorem InForce.item (h : m.InForce p) (hitem : p.item type raw = .ok p') :
    (m.next type raw).InForce p' := by
  rw [RawParser.item] at hitem
  split_ifs at hitem with hglobal hlocal hmain
  · rw [hglobal]
    exact (h.globalItem hitem).1
  · obtain ⟨hglobals, hstack⟩ := RawParser.globals_localItem hitem
    rw [next, if_neg hglobal]
    exact ⟨hglobals ▸ h.logical, hglobals ▸ h.physical, hstack ▸ h.saved⟩
  · obtain ⟨hglobals, hstack⟩ := RawParser.globals_mainItem hitem
    rw [next, if_neg hglobal]
    exact ⟨hglobals ▸ h.logical, hglobals ▸ h.physical, hstack ▸ h.saved⟩

/-- The parser behind some items, and the item behind them: its Global state holds the decoded
value. -/
theorem InForce.held_decoded {items : List (ℕ × RawItem)} (h : m.InForce p) {n : ℕ}
    {stopped : RawParser} {d : ℕ × RawItem} {value : ℤ}
    (hrun : (items.take n).foldlM (fun p d => p.item d.1 d.2) p = .ok stopped)
    (hd : items[n]? = some d) (htype : d.1 = 1) (hitem : stopped.item d.1 d.2 = .ok p')
    (hheld : p'.globals.held d.2.tag = some value) : (m.decoded items)[n]? = some value := by
  induction items generalizing m p n with
  | nil => cases hd
  | cons first rest ih =>
    cases n with
    | zero =>
      cases hd
      cases hrun
      rw [RawParser.item, htype, if_pos rfl] at hitem
      rw [decoded, List.getElem?_cons_zero, htype, (h.globalItem hitem).2 value hheld]
    | succ n =>
      rw [List.take_succ_cons, List.foldlM_cons] at hrun
      obtain ⟨next, hfirst, hrest⟩ := bind_eq_ok.mp hrun
      exact ih (h.item hfirst) hrest hd

end Minima

/-! ### What was written -/

/-- What calls that answer `true` leave in the buffer. -/
theorem WriterCall.written_runAll {calls : List WriterCall} {buffer : List UInt8} {w : ItemWriter}
    (h : runAll calls { bytes := some buffer, capacity := buffer.length } = some w) :
    w.bytes.map (·.take w.position) = some (encodeItems (calls.map item)) := by
  obtain ⟨hfits, rfl⟩ := ItemWriter.put_eq_some (put_of_runAll (Nat.zero_le _) h)
  generalize encodeItems (calls.map item) = bytes at hfits
  rw [Nat.zero_add] at hfits
  have hlength : (buffer.take bytes.length).length = bytes.length := List.length_take_of_le hfits
  have hwritten := ItemWriter.writeAt_eq [] (buffer.drop bytes.length) hlength
  rw [List.nil_append, List.nil_append, List.take_append_drop] at hwritten
  change some ((ItemWriter.writeAt buffer 0 bytes).take (0 + bytes.length)) = some bytes
  rw [Nat.zero_add, show 0 = ([] : List UInt8).length from rfl, hwritten, List.take_left]

/-- **Items decode to what was encoded.** The item loop over the bytes of calls that all answered
`true` hands out one item for each call, in order and to any handler. Each has the type and the tag
of its call and none has three data bytes; their values, with the signedness that the parser
chooses by the Minimum in force, are the arguments, and what the parser of `validate_raw` stores of
an item that it accepts is the argument as well. -/
theorem decoded_written {calls : List WriterCall} {buffer : List UInt8} {w : ItemWriter}
    (hrun : WriterCall.runAll calls { bytes := some buffer, capacity := buffer.length } = some w)
    (h : WriterCall.AllDeclared {} calls) :
    ∃ written items, w.bytes.map (·.take w.position) = some written ∧
      (∀ p, RawParser.items written.length p 0 written =
        items.foldlM (fun p (d : ℕ × RawItem) => p.item d.1 d.2) p) ∧
      (∀ (σ : Type) (handle : σ → ℕ → RawItem → Except ValidationIssue σ) (s : σ),
        shortItemLoop RawParser.longItem RawParser.overrun handle written.length s 0 written =
          items.foldlM (fun s d => handle s d.1 d.2) s) ∧
      items.map (fun d => (d.1, d.2.tag)) =
        calls.map (fun call => (call.base >>> 2 &&& 0x03, call.base >>> 4)) ∧
      Minima.decoded {} items = calls.map WriterCall.argument ∧
      (∀ d ∈ items, d.2.data.length ≠ 3) ∧
      ∀ (n : ℕ) (p p' : RawParser) (d : ℕ × RawItem) (value : ℤ),
        (items.take n).foldlM (fun (p : RawParser) d => p.item d.1 d.2) {} = .ok p →
        items[n]? = some d → d.1 = 1 → p.item d.1 d.2 = .ok p' →
        p'.globals.held d.2.tag = some value →
        (calls[n]?.map WriterCall.argument) = some value := by
  have hdecoded := WriterCall.decoded_items h 0
  have hshort : ∀ item ∈ calls.map WriterCall.item, item.tag ≠ 15 :=
    List.forall_mem_map.mpr fun call _ => call.short_item
  refine ⟨_, delivered 0 (calls.map WriterCall.item), WriterCall.written_runAll hrun, ?_, ?_, ?_,
    hdecoded, ?_, ?_⟩
  · intro p
    rw [RawParser.items_eq]
    exact shortItemLoop_encodeItems hshort p le_rfl
  · intro σ handle s
    exact shortItemLoop_encodeItems hshort s le_rfl
  · rw [map_delivered, List.map_map]
    refine List.map_congr_left fun call _ => ?_
    exact Prod.ext call.type_item call.tag_item
  · intro d hd
    obtain ⟨item, -, hdata⟩ := exists_of_mem_delivered hd
    have hsize := item.size
    rw [hdata]
    omega
  · intro n p p' d value hstopped hd htype hitem hheld
    rw [← List.getElem?_map, ← hdecoded]
    exact Minima.InForce.held_decoded ⟨rfl, rfl, rfl⟩ hstopped hd htype hitem hheld

/-- Signed extents between Push and Pop, and unsigned ones behind them. -/
def nestedCalls : List WriterCall :=
  [.push, .logicalMinimum (-129), .logicalMaximum 40000 (-129), .pop, .logicalMinimum 128,
    .logicalMaximum 65535 128, .physicalMinimum 0, .physicalMaximum 2147483647 0,
    .unitExponent (-3), .usage 0x00010030, .input 2]

theorem decoded_written_nestedCalls : ∃ w written items,
    WriterCall.runAll nestedCalls { bytes := some (List.replicate 40 0), capacity := 40 } = some w ∧
      w.bytes.map (·.take w.position) = some written ∧
      RawParser.items written.length {} 0 written =
        items.foldlM (fun p (d : ℕ × RawItem) => p.item d.1 d.2) {} ∧
      Minima.decoded {} items = nestedCalls.map WriterCall.argument := by
  have hsome : (WriterCall.runAll nestedCalls
      { bytes := some (List.replicate 40 0), capacity := 40 }).isSome = true := by decide
  obtain ⟨w, hw⟩ := Option.isSome_iff_exists.mp hsome
  have hdeclared : WriterCall.AllDeclared {} nestedCalls := by
    simp [nestedCalls, WriterCall.AllDeclared, WriterCall.Declared, Minima.behind]
  obtain ⟨written, items, hwritten, hitems, -, -, hdecoded, -⟩ := decoded_written hw hdeclared
  exact ⟨w, written, items, hw, hwritten, hitems {}, hdecoded⟩

end LibaoaHid

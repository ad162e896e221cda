import LibaoaHid.Foundation.ShortItems
import LibaoaHid.Hid.DescriptorBuilder
import Mathlib.Data.Nat.Bitwise

/-!
# What the writer writes

Every operation of `ItemWriter` writes the bytes of one short item behind the bytes that are there,
or fails because they do not fit the capacity. Operations in a row write the bytes of their items
in a row, so an emitter is known by the sequence of its items.

## Main definitions

* `ItemWriter.put`: writes bytes, if they fit.
* `ItemWriter.maximumItem`, `ItemWriter.exponentItem`: the items whose form depends on two values.

## Main results

* `ItemWriter.put_bind`: two writes are one.
* `ItemWriter.unsignedItem_eq`, `ItemWriter.signedItem_eq`: an operation and its item.
* `ItemWriter.bytes_put_replicate`: a write that fills a fresh buffer.
-/

namespace LibaoaHid

open Hid

namespace ItemWriter

/-! ### Writes -/

/-- The writer behind some bytes. -/
def wrote (w : ItemWriter) (bytes : List UInt8) : ItemWriter :=
  { w with
    bytes := w.bytes.map fun buffer => writeAt buffer w.position bytes
    position := w.position + bytes.length }

/-- Writes bytes, if they fit. -/
def put (w : ItemWriter) (bytes : List UInt8) : Option ItemWriter :=
  if w.position + bytes.length ≤ w.capacity then some (w.wrote bytes) else none

variable {w w' : ItemWriter} {first second bytes : List UInt8}

theorem put_eq_some (h : w.put bytes = some w') :
    w.position + bytes.length ≤ w.capacity ∧ w' = w.wrote bytes := by
  unfold put at h
  split_ifs at h with hfits
  exact ⟨hfits, (Option.some_inj.mp h).symm⟩

theorem writeAt_append (buffer : List UInt8) (position : ℕ) (first second : List UInt8) :
    writeAt buffer position (first ++ second) =
      writeAt (writeAt buffer position first) (position + first.length) second := by
  induction first generalizing buffer position with
  | nil => rfl
  | cons byte first ih =>
    rw [List.cons_append, writeAt, writeAt, ih, List.length_cons, Nat.add_assoc, Nat.add_comm 1]

theorem wrote_wrote : (w.wrote first).wrote second = w.wrote (first ++ second) := by
  unfold wrote
  simp only [Option.map_map, List.length_append, Nat.add_assoc]
  congr 2
  funext buffer
  exact (writeAt_append buffer w.position first second).symm

/-- Two writes are one. -/
theorem put_bind : ((w.put first).bind fun next => next.put second) = w.put (first ++ second) := by
  unfold put
  rw [List.length_append]
  split_ifs with hfirst hboth hboth
  · rw [Option.bind_some, if_pos (by simpa [wrote, Nat.add_assoc] using hboth), wrote_wrote]
  · rw [Option.bind_some, if_neg (by simpa [wrote, Nat.add_assoc] using hboth)]
  · omega
  · rfl

/-- What does not fit does not fit with more behind it. -/
theorem put_append_of_none (h : w.put first = none) (second : List UInt8) :
    w.put (first ++ second) = none := by
  rw [← put_bind, h, Option.bind_none]

theorem put_append_of_some (h : w.put first = some w') (second : List UInt8) :
    w.put (first ++ second) = w'.put second := by
  rw [← put_bind, h, Option.bind_some]

/-- Nothing is written at once. -/
theorem put_nil (h : w.position ≤ w.capacity) : w.put [] = some w := by
  unfold put
  rw [if_pos (by simpa using h)]
  unfold wrote writeAt
  simp

/-- A write replaces the bytes from its position on. -/
theorem writeAt_eq (before : List UInt8) {old bytes : List UInt8} (after : List UInt8)
    (h : old.length = bytes.length) :
    writeAt (before ++ old ++ after) before.length bytes = before ++ bytes ++ after := by
  induction bytes generalizing before old with
  | nil => rw [List.length_eq_zero_iff.mp h, writeAt]
  | cons byte bytes ih =>
    cases old with
    | nil => simp at h
    | cons first old =>
      have hset : (before ++ first :: old ++ after).set before.length byte =
          before ++ [byte] ++ old ++ after := by
        rw [List.append_assoc, List.set_append_right _ _ le_rfl, Nat.sub_self]
        simp
      rw [writeAt, hset]
      have hrest := ih (before ++ [byte]) (Nat.succ.inj h)
      rw [List.length_append] at hrest
      rw [List.length_singleton] at hrest
      rw [hrest]
      simp

/-- A write that fills a fresh buffer leaves its bytes there. -/
theorem bytes_put_replicate {capacity : ℕ}
    (h : put { bytes := some (List.replicate bytes.length 0), capacity } bytes = some w) :
    w.bytes = some bytes := by
  obtain ⟨-, rfl⟩ := put_eq_some h
  have hlength : (List.replicate bytes.length (0 : UInt8)).length = bytes.length :=
    List.length_replicate
  have hall := writeAt_eq [] [] hlength
  simp only [List.nil_append, List.append_nil, List.length_nil] at hall
  exact congrArg some hall

/-! ### Items -/

theorem littleEndian_eq (value count : ℕ) :
    littleEndian value count = toLittleEndian value count := by
  induction count generalizing value with
  | zero => rfl
  | succ count ih => rw [littleEndian, toLittleEndian, ih]

/-- A write of the source is one of an item, when its base is the type and the tag. -/
theorem emit_eq (item : ShortItem) {base value : ℕ}
    (hbase : base = (4 * item.tag + item.type.code) <<< 2)
    (hdata : item.data = littleEndian value item.data.length) :
    w.emit base value item.data.length = w.put item.bytes := by
  have hprefixed : UInt8.ofNat (base ||| if item.data.length = 4 then 3 else item.data.length) =
      item.prefixByte := by
    have hlt := item.sizeCode_lt
    unfold ShortItem.sizeCode at hlt
    rw [hbase, ← Nat.shiftLeft_add_eq_or_of_lt hlt, Nat.shiftLeft_eq, ShortItem.prefixByte]
    congr 1
    unfold ShortItem.sizeCode
    omega
  have hlength : item.bytes.length = item.data.length + 1 := rfl
  unfold emit put wrote
  dsimp only
  rw [hprefixed, ← hdata, hlength]
  split_ifs
  · omega
  · rfl
  · rfl
  · omega

variable {base : ℕ}

/-- `unsigned_item` writes the shortest item of an unsigned value. -/
theorem unsignedItem_eq (type : ItemType) (tag : Fin 16) (value : ℕ)
    (hbase : base = (4 * tag + type.code) <<< 2) :
    w.unsignedItem base value = w.put (ShortItem.ofUnsigned type tag value).bytes := by
  have hlength : (ShortItem.ofUnsigned type tag value).data.length =
      ShortItem.unsignedSize value := length_toLittleEndian _ _
  rw [← emit_eq (ShortItem.ofUnsigned type tag value) hbase
    (show _ = littleEndian value _ by rw [hlength, littleEndian_eq]; rfl), hlength]
  unfold unsignedItem ShortItem.unsignedSize
  split_ifs <;> rfl

/-- `signed_item` writes the shortest item of a signed value. -/
theorem signedItem_eq (type : ItemType) (tag : Fin 16) (value : ℤ)
    (hbase : base = (4 * tag + type.code) <<< 2) :
    w.signedItem base value = w.put (ShortItem.ofSigned type tag value).bytes := by
  have hlength : (ShortItem.ofSigned type tag value).data.length = ShortItem.signedSize value :=
    length_toLittleEndian _ _
  rw [← emit_eq (ShortItem.ofSigned type tag value) hbase
    (show _ = littleEndian (toUnsigned32 value) _ by rw [hlength, littleEndian_eq]; rfl), hlength]
  unfold signedItem ShortItem.signedSize
  split_ifs <;> rfl

/-- The item of a Maximum, unsigned when both extents are nonnegative. -/
def maximumItem (tag : Fin 16) (value declaredMinimum : ℤ) : ShortItem :=
  if declaredMinimum ≥ 0 ∧ value ≥ 0 then .ofUnsigned .globalState tag (toUnsigned32 value)
  else .ofSigned .globalState tag value

/-- The item of a Unit Exponent, a signed nibble. -/
def exponentItem (value : ℤ) : ShortItem :=
  .ofUnsigned .globalState 5 (toUnsigned32 value &&& 0x0F)

theorem usagePage_eq (value : ℕ) :
    w.usagePage value = w.put (ShortItem.ofUnsigned .globalState 0 value).bytes :=
  unsignedItem_eq _ _ _ rfl

theorem usage_eq (value : ℕ) :
    w.usage value = w.put (ShortItem.ofUnsigned .localState 0 value).bytes :=
  unsignedItem_eq _ _ _ rfl

theorem usageMinimum_eq (value : ℕ) :
    w.usageMinimum value = w.put (ShortItem.ofUnsigned .localState 1 value).bytes :=
  unsignedItem_eq _ _ _ rfl

theorem usageMaximum_eq (value : ℕ) :
    w.usageMaximum value = w.put (ShortItem.ofUnsigned .localState 2 value).bytes :=
  unsignedItem_eq _ _ _ rfl

theorem logicalMinimum_eq (value : ℤ) :
    w.logicalMinimum value = w.put (ShortItem.ofSigned .globalState 1 value).bytes :=
  signedItem_eq _ _ _ rfl

theorem logicalMaximum_eq (value declaredMinimum : ℤ) :
    w.logicalMaximum value declaredMinimum = w.put (maximumItem 2 value declaredMinimum).bytes := by
  unfold logicalMaximum maximumItem
  split_ifs
  · exact unsignedItem_eq _ _ _ rfl
  · exact signedItem_eq _ _ _ rfl

theorem physicalMinimum_eq (value : ℤ) :
    w.physicalMinimum value = w.put (ShortItem.ofSigned .globalState 3 value).bytes :=
  signedItem_eq _ _ _ rfl

theorem physicalMaximum_eq (value declaredMinimum : ℤ) :
    w.physicalMaximum value declaredMinimum =
      w.put (maximumItem 4 value declaredMinimum).bytes := by
  unfold physicalMaximum maximumItem
  split_ifs
  · exact unsignedItem_eq _ _ _ rfl
  · exact signedItem_eq _ _ _ rfl

theorem unitExponent_eq {value : ℤ} (hlower : -8 ≤ value) (hupper : value ≤ 7) :
    w.unitExponent value = w.put (exponentItem value).bytes := by
  unfold unitExponent exponentItem
  rw [if_neg (by omega)]
  have hle : toUnsigned32 value &&& 0x0F ≤ 255 := Nat.and_le_right.trans (by norm_num)
  rw [← unsignedItem_eq _ _ _ (rfl : 0x54 = _), unsignedItem, if_pos hle]

theorem unit_eq (value : ℕ) :
    w.unit value = w.put (ShortItem.ofUnsigned .globalState 6 value).bytes :=
  unsignedItem_eq _ _ _ rfl

theorem reportSize_eq (value : ℕ) :
    w.reportSize value = w.put (ShortItem.ofUnsigned .globalState 7 value).bytes :=
  unsignedItem_eq _ _ _ rfl

theorem reportId_eq (value : ℕ) :
    w.reportId value = w.put (ShortItem.ofUnsigned .globalState 8 value).bytes :=
  unsignedItem_eq _ _ _ rfl

theorem reportCount_eq (value : ℕ) :
    w.reportCount value = w.put (ShortItem.ofUnsigned .globalState 9 value).bytes :=
  unsignedItem_eq _ _ _ rfl

theorem input_eq (flags : ℕ) : w.input flags = w.put (ShortItem.ofUnsigned .main 8 flags).bytes :=
  unsignedItem_eq _ _ _ rfl

theorem feature_eq (flags : ℕ) :
    w.feature flags = w.put (ShortItem.ofUnsigned .main 11 flags).bytes :=
  unsignedItem_eq _ _ _ rfl

theorem collection_eq (type : ℕ) :
    w.collection type = w.put (ShortItem.ofUnsigned .main 10 type).bytes :=
  unsignedItem_eq _ _ _ rfl

theorem endCollection_eq : w.endCollection = w.put (ShortItem.empty .main 12).bytes :=
  emit_eq (ShortItem.empty .main 12) rfl rfl

end ItemWriter

end LibaoaHid

import LibaoaHid.Foundation.Bits

/-!
# Short items

The short items of a HID 1.11 report descriptor (section 6.2.2.2): a prefix byte with a size code,
a type and a tag, and zero, one, two or four data bytes. A report descriptor is a sequence of
items, one behind the other.

## Main definitions

* `ShortItem`, `ShortItem.bytes`: an item and its bytes.
* `ShortItem.unsigned`, `ShortItem.signed`: the two readings of the data bytes.
* `ShortItem.ofUnsigned`, `ShortItem.ofSigned`: the shortest item with a value.
* `encodeItems`: the bytes of a sequence of items.
* `Walk`: a walk over a sequence of items, step by step.

## Main results

* `ShortItem.toNat_prefixByte`: the parts of a prefix byte.
* `ShortItem.exists_of_head`: the item at the head of a byte sequence.
* `ShortItem.unsigned_ofUnsigned`, `ShortItem.signed_ofSigned`: the value of such an item.
* `encodeItems_injective`: a descriptor is one sequence of items.
-/

namespace Hid

/-! ### Little-endian numbers -/

/-- The number of a sequence of bytes, the least significant byte first. -/
def ofLittleEndian : List UInt8 → ℕ
  | [] => 0
  | byte :: rest => byte.toNat + 256 * ofLittleEndian rest

theorem ofLittleEndian_lt : (bytes : List UInt8) → ofLittleEndian bytes < 2 ^ (8 * bytes.length)
  | [] => Nat.one_pos
  | byte :: rest => by
    have hbyte := byte.toNat_lt
    have hrest := ofLittleEndian_lt rest
    rw [ofLittleEndian, List.length_cons, Nat.mul_succ, Nat.pow_add]
    omega

/-- The low bytes of a number, the least significant byte first. -/
def toLittleEndian (value : ℕ) : ℕ → List UInt8
  | 0 => []
  | count + 1 => UInt8.ofNat (value % 256) :: toLittleEndian (value / 256) count

@[simp] theorem length_toLittleEndian (value count : ℕ) :
    (toLittleEndian value count).length = count := by
  induction count generalizing value with
  | zero => rfl
  | succ count ih => rw [toLittleEndian, List.length_cons, ih]

/-- The low bytes hold the number modulo their range. -/
theorem ofLittleEndian_toLittleEndian (value count : ℕ) :
    ofLittleEndian (toLittleEndian value count) = value % 2 ^ (8 * count) := by
  induction count generalizing value with
  | zero => rw [Nat.mul_zero, Nat.pow_zero, Nat.mod_one, toLittleEndian, ofLittleEndian]
  | succ count ih =>
    rw [toLittleEndian, ofLittleEndian, ih, UInt8.toNat_ofNat', Nat.mod_mod, Nat.mul_succ,
      Nat.add_comm (8 * count), Nat.pow_add, Nat.mod_mul]

/-! ### Items -/

/-- The types of short items. A fourth type is reserved. -/
inductive ItemType
  | main
  | globalState
  | localState
  deriving DecidableEq, Repr

/-- The code of a type in the prefix byte. -/
def ItemType.code : ItemType → ℕ
  | .main => 0
  | .globalState => 1
  | .localState => 2

theorem ItemType.code_lt (type : ItemType) : type.code < 3 := by
  cases type <;> simp [code]

theorem ItemType.exists_of_code {code : ℕ} (h : code < 3) :
    ∃ type : ItemType, type.code = code := by
  obtain rfl | rfl | rfl : code = 0 ∨ code = 1 ∨ code = 2 := by omega
  · exact ⟨.main, rfl⟩
  · exact ⟨.globalState, rfl⟩
  · exact ⟨.localState, rfl⟩

theorem ItemType.code_injective : Function.Injective ItemType.code := by
  intro first second h
  cases first <;> cases second <;> first | rfl | cases h

/-- A short item. -/
@[ext]
structure ShortItem where
  type : ItemType
  tag : ℕ
  data : List UInt8
  tag_lt : tag < 16
  size : data.length = 0 ∨ data.length = 1 ∨ data.length = 2 ∨ data.length = 4

namespace ShortItem

/-- The code of a size: three stands for four bytes. -/
def sizeCode (size : ℕ) : ℕ := if size = 4 then 3 else size

/-- The size of a code. -/
def sizeOfCode (code : ℕ) : ℕ := if code = 3 then 4 else code

theorem sizeOfCode_cases {code : ℕ} (h : code < 4) : sizeOfCode code = 0 ∨ sizeOfCode code = 1 ∨
    sizeOfCode code = 2 ∨ sizeOfCode code = 4 := by
  unfold sizeOfCode
  split_ifs <;> omega

theorem sizeCode_sizeOfCode {code : ℕ} (h : code < 4) : sizeCode (sizeOfCode code) = code := by
  unfold sizeCode sizeOfCode
  split_ifs <;> omega

/-- The prefix byte. -/
def prefixByte (item : ShortItem) : UInt8 :=
  UInt8.ofNat (16 * item.tag + 4 * item.type.code + sizeCode item.data.length)

/-- The bytes of an item. -/
def bytes (item : ShortItem) : List UInt8 := item.prefixByte :: item.data

/-- The data of an item as an unsigned number. -/
def unsigned (item : ShortItem) : ℕ := ofLittleEndian item.data

/-- The data of an item as a signed number in two's complement. -/
def signed (item : ShortItem) : ℤ :=
  if item.data.length = 0 then 0 else Bits.signExtend (8 * item.data.length) item.unsigned

variable (item : ShortItem)

theorem sizeCode_lt : sizeCode item.data.length < 4 := by
  have := item.size
  unfold sizeCode
  split_ifs <;> omega

theorem sizeOfCode_sizeCode : sizeOfCode (sizeCode item.data.length) = item.data.length := by
  have := item.size
  unfold sizeCode sizeOfCode
  split_ifs <;> omega

/-- The parts of the prefix byte. -/
theorem toNat_prefixByte : item.prefixByte.toNat =
    16 * item.tag + 4 * item.type.code + sizeCode item.data.length := by
  have := item.tag_lt
  have := item.sizeCode_lt
  have := item.type.code_lt
  rw [prefixByte, UInt8.toNat_ofNat']
  omega

theorem unsigned_lt : item.unsigned < 2 ^ 32 := by
  have hle : item.data.length ≤ 4 := by
    have := item.size
    omega
  exact lt_of_lt_of_le (ofLittleEndian_lt item.data)
    (Nat.pow_le_pow_right Nat.two_pos (by omega))

/-- A head byte whose type is not reserved, with as many bytes behind it as its size says, is the
prefix of an item. -/
theorem exists_of_head {byte : UInt8} {rest : List UInt8}
    (hsize : sizeOfCode (byte.toNat % 4) ≤ rest.length) (htype : byte.toNat / 4 % 4 < 3) :
    ∃ item : ShortItem, item.type.code = byte.toNat / 4 % 4 ∧ item.tag = byte.toNat / 16 ∧
      item.data = rest.take (sizeOfCode (byte.toNat % 4)) ∧
      item.bytes ++ rest.drop (sizeOfCode (byte.toNat % 4)) = byte :: rest := by
  obtain ⟨type, hcode⟩ := ItemType.exists_of_code htype
  have hlt := byte.toNat_lt
  have hmod : byte.toNat % 4 < 4 := Nat.mod_lt _ (by norm_num)
  have hlength : (rest.take (sizeOfCode (byte.toNat % 4))).length = sizeOfCode (byte.toNat % 4) :=
    List.length_take_of_le hsize
  let item : ShortItem :=
    { type
      tag := byte.toNat / 16
      data := rest.take (sizeOfCode (byte.toNat % 4))
      tag_lt := by omega
      size := by
        rw [hlength]
        exact sizeOfCode_cases hmod }
  refine ⟨item, hcode, rfl, rfl, ?_⟩
  have hprefixed : item.prefixByte = byte := by
    apply UInt8.toNat_inj.mp
    rw [toNat_prefixByte, hcode, hlength, sizeCode_sizeOfCode hmod]
    change 16 * (byte.toNat / 16) + _ + _ = _
    omega
  rw [bytes, hprefixed, List.cons_append]
  exact congrArg (byte :: ·) (List.take_append_drop _ rest)

/-- The bytes of an item show where it ends. -/
theorem append_inj {first second : ShortItem} {rest rest' : List UInt8}
    (h : first.bytes ++ rest = second.bytes ++ rest') : first = second ∧ rest = rest' := by
  obtain ⟨hprefixed, h⟩ := List.cons.inj h
  have hparts := congrArg UInt8.toNat hprefixed
  rw [toNat_prefixByte, toNat_prefixByte] at hparts
  have hcode := first.sizeCode_lt
  have hcode' := second.sizeCode_lt
  have htype := first.type.code_lt
  have htype' := second.type.code_lt
  have hsize : first.data.length = second.data.length := by
    rw [← sizeOfCode_sizeCode, ← second.sizeOfCode_sizeCode]
    congr 1
    omega
  obtain ⟨hdata, hrest⟩ := List.append_inj h hsize
  exact ⟨ShortItem.ext (ItemType.code_injective (by omega)) (by omega) hdata, hrest⟩

end ShortItem

/-! ### Items of values -/

namespace ShortItem

/-- There are sixteen tags. -/
instance tagsNeZero : NeZero 16 := ⟨Nat.succ_ne_zero 15⟩

/-- The bytes that an unsigned number needs: one, two or four. -/
def unsignedSize (value : ℕ) : ℕ := if value ≤ 255 then 1 else if value ≤ 65535 then 2 else 4

/-- The bytes that a signed number needs. -/
def signedSize (value : ℤ) : ℕ :=
  if -128 ≤ value ∧ value ≤ 127 then 1 else if -32768 ≤ value ∧ value ≤ 32767 then 2 else 4

/-- The shortest item with an unsigned value. -/
def ofUnsigned (type : ItemType) (tag : Fin 16) (value : ℕ) : ShortItem where
  type
  tag
  data := toLittleEndian value (unsignedSize value)
  tag_lt := tag.isLt
  size := by
    rw [length_toLittleEndian, unsignedSize]
    split_ifs <;> simp

/-- The shortest item with a signed value. -/
def ofSigned (type : ItemType) (tag : Fin 16) (value : ℤ) : ShortItem where
  type
  tag
  data := toLittleEndian (value % 2 ^ 32).toNat (signedSize value)
  tag_lt := tag.isLt
  size := by
    rw [length_toLittleEndian, signedSize]
    split_ifs <;> simp

/-- An item without data. -/
def empty (type : ItemType) (tag : Fin 16) : ShortItem where
  type
  tag
  data := []
  tag_lt := tag.isLt
  size := by simp

variable (type : ItemType) (tag : Fin 16)

@[simp] theorem type_ofUnsigned (value : ℕ) : (ofUnsigned type tag value).type = type := rfl

@[simp] theorem tag_ofUnsigned (value : ℕ) : (ofUnsigned type tag value).tag = tag := rfl

@[simp] theorem type_ofSigned (value : ℤ) : (ofSigned type tag value).type = type := rfl

@[simp] theorem tag_ofSigned (value : ℤ) : (ofSigned type tag value).tag = tag := rfl

@[simp] theorem type_empty : (empty type tag).type = type := rfl

@[simp] theorem tag_empty : (empty type tag).tag = tag := rfl

/-- The value of the shortest item is the number. -/
theorem unsigned_ofUnsigned {value : ℕ} (h : value < 2 ^ 32) :
    (ofUnsigned type tag value).unsigned = value := by
  unfold unsigned ofUnsigned
  rw [ofLittleEndian_toLittleEndian, unsignedSize]
  refine Nat.mod_eq_of_lt ?_
  split_ifs <;> omega

private theorem toNat_emod_emod (value : ℤ) {size : ℕ} (h : 8 * size ≤ 32) :
    (value % 2 ^ 32).toNat % 2 ^ (8 * size) = (value % 2 ^ (8 * size)).toNat := by
  have hdvd : (2 : ℤ) ^ (8 * size) ∣ 2 ^ 32 := pow_dvd_pow 2 h
  have hnonneg := Int.emod_nonneg value (show (2 : ℤ) ^ 32 ≠ 0 by norm_num)
  have hpos : (0 : ℤ) < 2 ^ (8 * size) := by positivity
  have hnonneg' := Int.emod_nonneg value hpos.ne'
  zify
  rw [Int.toNat_of_nonneg hnonneg, Int.toNat_of_nonneg hnonneg', Int.emod_emod_of_dvd _ hdvd]

/-- The signed value of the shortest item is the number. -/
theorem signed_ofSigned {value : ℤ} (hlower : -2 ^ 31 ≤ value) (hupper : value < 2 ^ 31) :
    (ofSigned type tag value).signed = value := by
  have hsize : signedSize value = 1 ∨ signedSize value = 2 ∨ signedSize value = 4 := by
    unfold signedSize
    split_ifs <;> simp
  have hrange : -2 ^ (8 * signedSize value - 1) ≤ value ∧
      value < 2 ^ (8 * signedSize value - 1) := by
    unfold signedSize
    split_ifs <;> norm_num <;> omega
  have hlength : (ofSigned type tag value).data.length = signedSize value :=
    length_toLittleEndian _ _
  have hunsigned : (ofSigned type tag value).unsigned =
      (value % 2 ^ (8 * signedSize value)).toNat := by
    unfold unsigned ofSigned
    rw [ofLittleEndian_toLittleEndian, toNat_emod_emod value (by omega)]
  rw [signed, hlength, if_neg (by omega), hunsigned,
    Bits.signExtend_toNat_emod (by omega) hrange.1 hrange.2]

@[simp] theorem unsigned_empty : (empty type tag).unsigned = 0 := rfl

end ShortItem

/-! ### Sequences of items -/

/-- The bytes of a sequence of items. -/
def encodeItems (items : List ShortItem) : List UInt8 := items.flatMap ShortItem.bytes

@[simp] theorem encodeItems_nil : encodeItems [] = [] := rfl

@[simp] theorem encodeItems_cons (item : ShortItem) (items : List ShortItem) :
    encodeItems (item :: items) = item.bytes ++ encodeItems items := List.flatMap_cons

@[simp] theorem encodeItems_append (first second : List ShortItem) :
    encodeItems (first ++ second) = encodeItems first ++ encodeItems second :=
  List.flatMap_append

/-- A descriptor is one sequence of items. -/
theorem encodeItems_injective : Function.Injective encodeItems := by
  intro first
  induction first with
  | nil =>
    intro second h
    cases second with
    | nil => rfl
    | cons item second => simp [ShortItem.bytes] at h
  | cons item first ih =>
    intro second h
    cases second with
    | nil => simp [ShortItem.bytes] at h
    | cons other second =>
      rw [encodeItems_cons, encodeItems_cons] at h
      obtain ⟨rfl, hrest⟩ := ShortItem.append_inj h
      rw [ih hrest]

/-! ### Walks -/

/-- A walk over a sequence: one step for each entry. -/
inductive Walk {State Entry : Type} (step : State → Entry → State → Prop) :
    State → List Entry → State → Prop
  | nil (s : State) : Walk step s [] s
  | cons {s t u : State} {entry : Entry} {rest : List Entry} (head : step s entry t)
      (tail : Walk step t rest u) : Walk step s (entry :: rest) u

namespace Walk

variable {State Entry : Type} {step : State → Entry → State → Prop} {s t u : State}
  {first second : List Entry} {entry : Entry}

/-- Two walks, one behind the other. -/
theorem append (h : Walk step s first t) (h' : Walk step t second u) :
    Walk step s (first ++ second) u := by
  induction h with
  | nil => exact h'
  | cons head _ ih => exact cons head (ih h')

theorem single (h : step s entry t) : Walk step s [entry] t := cons h (nil t)

end Walk

end Hid

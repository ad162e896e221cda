import Mathlib.Algebra.Order.Ring.Int

/-!
# Short items of a report descriptor

The compact HID 1.11 short-item encoding of `src/hid/item_writer.cpp`. A writer without a
buffer only counts, which is how the first of the two descriptor passes measures the size.

Every operation of the source answers `good_`, and an operation that fails clears it for
good. Here a failing operation is `none`, so a writer at hand is one whose `good_` is set.

## Main definitions

* `ItemWriter`, `ItemWriter.emit`.
* `ItemWriter.unsignedItem`, `ItemWriter.signedItem`: the shortest of one, two or four bytes.
* One operation for each item of the source.
-/

namespace LibaoaHid

/-- `ItemWriter`: the buffer, when there is one, its capacity and the bytes written. -/
structure ItemWriter where
  bytes : Option (List UInt8)
  capacity : ℕ
  position : ℕ := 0

namespace ItemWriter

/-- The little-endian bytes of the low `8 * count` bits of `value`. -/
def littleEndian (value : ℕ) : ℕ → List UInt8
  | 0 => []
  | count + 1 => UInt8.ofNat (value % 256) :: littleEndian (value / 256) count

/-- Overwrites the buffer from `position` on. -/
def writeAt (buffer : List UInt8) (position : ℕ) : List UInt8 → List UInt8
  | [] => buffer
  | byte :: rest => writeAt (buffer.set position byte) (position + 1) rest

/-- `ItemWriter::emit`: one prefix byte and `bytes` data bytes of `value`. -/
def emit (w : ItemWriter) (base value bytes : ℕ) : Option ItemWriter :=
  let sizeCode := if bytes = 4 then 3 else bytes
  if w.position > w.capacity ∨ bytes + 1 > w.capacity - w.position then none
  else
    some { w with
      bytes := w.bytes.map fun buffer =>
        writeAt buffer w.position (UInt8.ofNat (base ||| sizeCode) :: littleEndian value bytes)
      position := w.position + bytes + 1 }

/-- `ItemWriter::unsigned_item`. -/
def unsignedItem (w : ItemWriter) (base value : ℕ) : Option ItemWriter :=
  if value ≤ 255 then w.emit base value 1
  else if value ≤ 65535 then w.emit base value 2
  else w.emit base value 4

/-- The conversion of an `int32_t` to a `uint32_t`. -/
def toUnsigned32 (value : ℤ) : ℕ := (value % 2 ^ 32).toNat

/-- `ItemWriter::signed_item`. -/
def signedItem (w : ItemWriter) (base : ℕ) (value : ℤ) : Option ItemWriter :=
  if -128 ≤ value ∧ value ≤ 127 then w.emit base (toUnsigned32 value) 1
  else if -32768 ≤ value ∧ value ≤ 32767 then w.emit base (toUnsigned32 value) 2
  else w.emit base (toUnsigned32 value) 4

def usagePage (w : ItemWriter) (value : ℕ) : Option ItemWriter := w.unsignedItem 0x04 value
def usage (w : ItemWriter) (value : ℕ) : Option ItemWriter := w.unsignedItem 0x08 value
def usageMinimum (w : ItemWriter) (value : ℕ) : Option ItemWriter := w.unsignedItem 0x18 value
def usageMaximum (w : ItemWriter) (value : ℕ) : Option ItemWriter := w.unsignedItem 0x28 value

/-- HID 1.11 makes the Minimum items signed, even when they are positive. -/
def logicalMinimum (w : ItemWriter) (value : ℤ) : Option ItemWriter := w.signedItem 0x14 value

/-- A Maximum is unsigned when both extents are nonnegative. -/
def logicalMaximum (w : ItemWriter) (value declaredMinimum : ℤ) : Option ItemWriter :=
  if declaredMinimum ≥ 0 ∧ value ≥ 0 then w.unsignedItem 0x24 (toUnsigned32 value)
  else w.signedItem 0x24 value

def physicalMinimum (w : ItemWriter) (value : ℤ) : Option ItemWriter := w.signedItem 0x34 value

def physicalMaximum (w : ItemWriter) (value declaredMinimum : ℤ) : Option ItemWriter :=
  if declaredMinimum ≥ 0 ∧ value ≥ 0 then w.unsignedItem 0x44 (toUnsigned32 value)
  else w.signedItem 0x44 value

/-- Unit Exponent is a signed nibble. -/
def unitExponent (w : ItemWriter) (value : ℤ) : Option ItemWriter :=
  if value < -8 ∨ value > 7 then none else w.emit 0x54 (toUnsigned32 value &&& 0x0F) 1

def unit (w : ItemWriter) (value : ℕ) : Option ItemWriter := w.unsignedItem 0x64 value
def reportSize (w : ItemWriter) (value : ℕ) : Option ItemWriter := w.unsignedItem 0x74 value
def reportId (w : ItemWriter) (value : ℕ) : Option ItemWriter := w.unsignedItem 0x84 value
def reportCount (w : ItemWriter) (value : ℕ) : Option ItemWriter := w.unsignedItem 0x94 value
def push (w : ItemWriter) : Option ItemWriter := w.emit 0xA4 0 0
def pop (w : ItemWriter) : Option ItemWriter := w.emit 0xB4 0 0
def input (w : ItemWriter) (flags : ℕ) : Option ItemWriter := w.unsignedItem 0x80 flags
def feature (w : ItemWriter) (flags : ℕ) : Option ItemWriter := w.unsignedItem 0xB0 flags
def collection (w : ItemWriter) (type : ℕ) : Option ItemWriter := w.unsignedItem 0xA0 type
def endCollection (w : ItemWriter) : Option ItemWriter := w.emit 0xC0 0 0

end ItemWriter

end LibaoaHid

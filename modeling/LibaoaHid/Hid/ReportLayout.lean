import LibaoaHid.Abi.Options

/-!
# Report layouts

The immutable bit-level model of one generated report (`src/hid/report_layout.hpp`): each
field has a semantic, an instance number and a bit range, and a report is the list of its
fields behind an optional Report ID byte.

Extents are integers. They come from `int32_t` declarations, so they lie in that range.

## Main definitions

* `FieldSemantic`, `FieldLayout`, `ReportLayout`.
* `ReportLayout.prefixBits`: the bits in front of the first field.
-/

namespace LibaoaHid

/-- What a field of a report carries. -/
inductive FieldSemantic
  | modifier
  | keyBitmap
  | buttons
  | x
  | y
  | wheel
  | pan
  | consumerUsage
  | gamepadAxis
  | hat
  | tip
  | inRange
  | eraser
  | contactId
  | pressure
  | width
  | height
  | azimuth
  | scanTime
  | contactCount
  | tiltX
  | tiltY
  | twist
  | batteryStrength
  | constantPadding
  deriving DecidableEq, Repr

/-- One field of a report. -/
structure FieldLayout where
  semantic : FieldSemantic
  instanceIndex : ℕ
  bitOffset : ℕ
  bitWidth : ℕ
  isSigned : Bool
  hasNullState : Bool
  logicalMinimum : ℤ
  logicalMaximum : ℤ
  physical : PhysicalProperties := {}
  deriving DecidableEq

/-- The layout of one report. -/
structure ReportLayout where
  hasReportId : Bool := false
  reportId : ℕ := 0
  wireBytes : ℕ := 0
  fields : List FieldLayout := []

namespace ReportLayout

/-- The bits in front of the first field: the Report ID byte, when one is declared. -/
def prefixBits (layout : ReportLayout) : ℕ := if layout.hasReportId then 8 else 0

end ReportLayout

end LibaoaHid

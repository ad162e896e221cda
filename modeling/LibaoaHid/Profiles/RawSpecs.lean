import LibaoaHid.Hid.RawSound
import LibaoaHid.Profiles.SpecChecks

/-!
# The factory of Raw Specs

`aoahid_spec_create_raw` of `src/profiles/spec.cpp`: the acknowledgements, the bound of the table,
and the validation of the descriptor against it. A Raw Spec keeps the table and, at the place of
each entry, the mask of the bits of its last byte.

## Main definitions

* `createRaw`.

## Main results

* `createRaw_wellFormed`: the descriptor, the table and the masks of a Raw Spec.
-/

namespace LibaoaHid

open Hid

/-- The refusals of `aoahid_spec_create_raw_impl` in front of the validation. -/
def checkRaw (o : RawOptions) : Option Reply :=
  firstRefusal [
    (structRefusal (some o.structSize) RawOptions.size "raw_options").map (Reply.mk .errParam),
    refuse (o.reserved ≠ 0 ∨ o.acknowledgesNoAndroidSupport ≠ 1 ∨ o.requiresOutput ≠ 0 ∨
        o.requiresFeatureResponse ≠ 0)
      (.fail .errUnsupported "raw.acknowledgements"
        ("Raw input requires explicit no-support acknowledgement and no Output or " ++
          "Feature-response dependency.")),
    refuse (o.reports.length = 0)
      (.fail .errUnsetField "raw.reports"
        "Raw descriptors require an explicit accepted-report table."),
    refuse (o.reports.length > 256)
      (.fail .errOverflow "raw.reports"
        "The accepted-report table exceeds the 256 possible Report IDs.")]

/-- `aoahid_spec_create_raw`. -/
def createRaw : Option RawOptions → Except Reply Spec
  | none => .error ⟨.errParam, clearError⟩
  | some o =>
    match checkRaw o with
    | some reply => .error reply
    | none =>
      match validateRaw o.descriptor o.reports (List.replicate o.reports.length 0xFF) with
      | .error found =>
        .error ⟨found.result, setError found.result found.field found.reason 0 0 0 0 found.offset⟩
      | .ok (trailingValidMasks, requirements) =>
        .ok
          { kind := .raw
            androidStatus := .unknown
            descriptor := o.descriptor
            layout := {}
            requirements
            reportCapabilities := o.reports.map fun report =>
              ⟨report.reportId.toNat, report.hasReportId.toNat, report.wireLength.toNat⟩
            config := .raw { reports := o.reports, trailingValidMasks } }

/-- What the factory makes of options that it accepts. -/
theorem createRaw_eq {o : RawOptions} {masks : List UInt8} {requirements : DescriptorRequirements}
    (hcheck : checkRaw o = none)
    (hvalid : validateRaw o.descriptor o.reports (List.replicate o.reports.length 0xFF) =
      .ok (masks, requirements)) :
    createRaw (some o) = .ok
      { kind := .raw
        androidStatus := .unknown
        descriptor := o.descriptor
        layout := {}
        requirements
        reportCapabilities := o.reports.map fun report =>
          ⟨report.reportId.toNat, report.hasReportId.toNat, report.wireLength.toNat⟩
        config := .raw { reports := o.reports, trailingValidMasks := masks } } := by
  simp only [createRaw, hcheck, hvalid]

/-- The entries of a table that the validation accepts are canonical. -/
theorem canonical_of_validateRaw {descriptor : List UInt8} {reports : List RawReport}
    {masks : List UInt8} {found : List UInt8 × DescriptorRequirements}
    (h : validateRaw descriptor reports masks = .ok found) :
    ∀ entry ∈ reports, entry.Canonical := by
  rw [validateRaw] at h
  obtain ⟨-, h⟩ := of_ite_error h
  obtain ⟨-, h⟩ := of_ite_error h
  split at h
  next => cases h
  next htable =>
    have hentries : reportEntries [] reports = none := by
      rw [validateReportTable] at htable
      split_ifs at htable
      exact htable
    exact (of_reportEntries hentries (by simp) (by simp)).1

/-- **A Raw Spec.** Its descriptor has a well-formed reading with its table, and it has a mask for
each entry. -/
theorem createRaw_wellFormed {o : RawOptions} {spec : Spec} (h : createRaw (some o) = .ok spec) :
    ∃ items r masks, o.descriptor = encodeItems items ∧ readItems {} items = some r ∧
      WellFormedRaw o.reports r ∧ (∀ entry ∈ o.reports, entry.Canonical) ∧ spec.kind = .raw ∧
      spec.config = .raw { reports := o.reports, trailingValidMasks := masks } ∧
      ∀ (index : ℕ) entry, o.reports[index]? = some entry →
        IsTrailingMask entry r (masks.getD index 0) := by
  rw [createRaw] at h
  split at h
  · cases h
  · split at h
    · cases h
    next masks requirements hvalid =>
      cases h
      obtain ⟨items, r, hdescriptor, -, hreading, hwell, hlength, hmasks⟩ :=
        validateRaw_wellFormed hvalid
      refine ⟨items, r, masks, hdescriptor, hreading, hwell, canonical_of_validateRaw hvalid, rfl,
        rfl, fun index entry hentry => hmasks index entry _ hentry ?_⟩
      have hlt : index < masks.length := by
        rw [hlength, List.length_replicate]
        exact (List.getElem?_eq_some_iff.mp hentry).1
      rw [List.getD_eq_getElem?_getD, List.getElem?_eq_getElem hlt]
      rfl

/-- A pointer with one button and one report of one byte. -/
def pointerOptions : RawOptions where
  structSize := RawOptions.size
  descriptor := pointerDescriptor
  reports := [⟨0, 0, 0, 1⟩]
  acknowledgesNoAndroidSupport := 1

/-- The Spec of the pointer. -/
def rawPointer : Spec where
  kind := .raw
  androidStatus := .unknown
  descriptor := pointerDescriptor
  layout := {}
  requirements := ⟨1, 0, 1, 1, 1⟩
  reportCapabilities := [⟨0, 0, 1⟩]
  config := .raw { reports := [⟨0, 0, 0, 1⟩], trailingValidMasks := [1] }

theorem createRaw_pointer : createRaw (some pointerOptions) = .ok rawPointer :=
  createRaw_eq (by decide +kernel) (by decide +kernel)

end LibaoaHid

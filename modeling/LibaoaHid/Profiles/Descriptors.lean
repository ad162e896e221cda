import LibaoaHid.Hid.ProgramParses
import LibaoaHid.Profiles.Blueprints
import LibaoaHid.Profiles.SoundSpecs

/-!
# Descriptors of generated Specs

A generated Spec has the bytes, the layout and the requirements of one valid program. So its
descriptor is read by HID 1.11 as the fields of its layout, and the raw parser of the source accepts
the descriptor and counts what the builder has counted.

## Main definitions

* `Spec.identity`: the Report ID of a generated report, if it has one.
* `Spec.rawTable`: the table of accepted reports with the one entry of the layout.
* `HasFeature`: a descriptor with a Feature item.

## Main results

* `generated_descriptor`: the reading of the descriptor.
* `validateRaw_generated`: the raw parser on the descriptor.
-/

namespace LibaoaHid

open Hid

/-! ### Programs of generated Specs -/

/-- A tiling is as long as its fields together. -/
theorem Tiles.stop_eq : {fields : List FieldLayout} → {start stop : ℕ} → Tiles fields start stop →
    stop = start + (fields.map (·.bitWidth)).sum
  | [], _, _, h => by
    have : _ = _ := h
    simp [this]
  | field :: rest, start, stop, h => by
    have hrest := stop_eq h.2.2
    rw [List.map_cons, List.sum_cons]
    omega

namespace Spec

/-- The Report ID of the Spec's report, if it has one. -/
def identity (spec : Spec) : Option ℕ :=
  if spec.layout.hasReportId then some spec.layout.reportId else none

/-- The table with the one entry of the Spec's report. -/
def rawTable (spec : Spec) : List RawReport :=
  [{ reportId := UInt8.ofNat spec.layout.reportId
     hasReportId := if spec.layout.hasReportId then 1 else 0
     wireLength := UInt32.ofNat spec.layout.wireBytes }]

end Spec

/-- The program of a Spec that was created has no field over more than four bytes. -/
theorem Spec.OfProgram.spansFit {spec : Spec} {p : EmitterProgram} (h : spec.OfProgram p)
    (hp : p.Valid) : p.SpansFit := by
  by_contra hspan
  have hissue := p.validateGenerated_of_not_spansFit hp h.fits hspan
  rw [h.valid] at hissue
  cases hissue

/-- **The program of a generated Spec** ends on a byte boundary, and is not empty. -/
theorem Generated.exists_whole {spec : Spec} (h : Generated spec) :
    ∃ p : EmitterProgram, p.Valid ∧ spec.OfProgram p ∧ p.SpansFit ∧
      8 * spec.layout.wireBytes = p.prefixBits + bodyBits 0 p.body ∧ 0 < bodyBits 0 p.body := by
  obtain ⟨p, hp, hprogram⟩ := h.exists_program
  have hsound := h.sound
  have hspan := hprogram.spansFit hp
  have htiles := hsound.layout.tiles
  have hfields := (validateFields_body hp.body p.prefixBits_cases
    (by rw [Nat.zero_add]; exact hp.cost)).1 hspan
  have hmeasured := (tiles_of_validateFields hfields).1.stop_eq
  have hstop := htiles.stop_eq
  rw [hprogram.layout] at hstop htiles
  have hwhole : 8 * spec.layout.wireBytes = p.prefixBits + bodyBits 0 p.body := by
    rw [hprogram.layout]
    exact hstop.trans hmeasured.symm
  refine ⟨p, hp, hprogram, hspan, hwhole, ?_⟩
  have hne : spec.layout.fields ≠ [] := by
    intro hnil
    refine hsound.accepted.declaredFields_ne_nil ?_
    rw [← hsound.declared, ReportLayout.declared, hnil]
    rfl
  obtain ⟨field, hmem⟩ := List.exists_mem_of_ne_nil _ hne
  rw [hprogram.layout] at hmem hwhole
  have hinside := htiles.inside field hmem
  have hpos := htiles.pos field hmem
  change p.prefixBits ≤ field.bitOffset ∧ _ at hinside
  omega

/-! ### Readings -/

/-- A field without physical properties has an all-zero block. -/
theorem EmitterOp.canonicalDisabled_fields (op : EmitterOp) (hop : op.Valid) {prefixes bits : ℕ} :
    ∀ field ∈ op.fields prefixes bits, field.physical.enabled = 0 →
      field.physical.canonicalDisabled = true := by
  intro field hmem hdisabled
  cases op with
  | field d =>
    obtain rfl := List.mem_singleton.mp hmem
    rcases hop.physical with hblock | hblock
    · exact hblock
    · simp only [PhysicalProperties.validEnabled, Bool.and_eq_true, beq_iff_eq] at hblock
      have henabled : d.block.enabled = 1 := hblock.1.1.1.1.1
      change d.block.enabled = 0 at hdisabled
      rw [henabled] at hdisabled
      exact absurd hdisabled (by decide)
  | range usagePage usageMinimum usageMaximum semantic =>
    obtain ⟨index, -, rfl⟩ := List.mem_map.mp hmem
    rfl
  | pad =>
    unfold EmitterOp.fields at hmem
    split_ifs at hmem
    · cases hmem
    · obtain rfl := List.mem_singleton.mp hmem
      rfl
  | openLogical _ _ => cases hmem
  | openPhysical _ _ => cases hmem
  | close => cases hmem

theorem canonicalDisabled_bodyFields {ops : List EmitterOp} (hops : ∀ op ∈ ops, op.Valid)
    {prefixes bits : ℕ} :
    ∀ field ∈ bodyFields prefixes bits ops, field.physical.enabled = 0 →
      field.physical.canonicalDisabled = true := by
  induction ops generalizing bits with
  | nil => exact List.forall_mem_nil _
  | cons op ops ih =>
    obtain ⟨hop, hops⟩ := List.forall_mem_cons.mp hops
    intro field hmem
    rcases List.mem_append.mp hmem with hmem | hmem
    · exact op.canonicalDisabled_fields hop field hmem
    · exact ih hops field hmem

/-- **Descriptor and layout never drift.** The descriptor of a generated Spec is a sequence of short
items, and HID 1.11 reads from them exactly the fields of the layout, in one Application collection
and one report of the layout's length and Report ID. -/
theorem generated_descriptor {spec : Spec} (h : Generated spec) :
    ∃ items r, spec.descriptor = encodeItems items ∧ readItems {} items = some r ∧ r.Balanced ∧
      r.topLevels = [1] ∧ List.Forall₂ FieldLayout.ReadAs spec.layout.fields r.fields ∧
      (∀ field ∈ spec.layout.fields, field.physical.enabled = 0 →
        field.physical.canonicalDisabled = true) ∧
      (∀ d ∈ r.data, d.globals.reportId = spec.identity) ∧
      bitsOf spec.identity r.inputs = 8 * spec.layout.wireBytes := by
  obtain ⟨p, hp, hprogram, -, hwhole, -⟩ := h.exists_whole
  obtain ⟨r, hread, hfields⟩ := p.exists_reading hp
  have hid : spec.identity = p.identity := by
    unfold Spec.identity EmitterProgram.identity
    rw [hprogram.layout]
    change (if p.enabled then some (if p.enabled then p.reportId else 0) else none) = _
    split_ifs <;> rfl
  refine ⟨p.items, r, hprogram.descriptor, hread,
    ⟨hfields.depth, hfields.stack, by rw [hfields.locals]⟩, hfields.topLevels, ?_, ?_, ?_, ?_⟩
  · rw [hprogram.layout]
    exact hfields.fields
  · rw [hprogram.layout]
    exact canonicalDisabled_bodyFields hp.body
  · rw [hid]
    exact hfields.data
  · rw [hid, hfields.bits, hwhole, p.prefixBits_identity]

/-- The options of a mouse with Report ID 2, three buttons, a wheel and a physical block on X. -/
def wheelMouseOptions : MouseOptions where
  structSize := MouseOptions.size
  reportId := { enabled := 1, value := 2 }
  buttonCount := 3
  x :=
    { logicalMinimum := -127
      logicalMaximum := 127
      bitWidth := 8
      physical :=
        { enabled := 1
          minimum := -50
          maximum := 50
          unitExponent := -3
          unit := 0x11 } }
  y := { logicalMinimum := -2047, logicalMaximum := 2047, bitWidth := 12 }
  enableWheel := 1
  wheel := { logicalMinimum := -7, logicalMaximum := 7, bitWidth := 4 }

/-- The code creates the mouse, and its descriptor is the program's. -/
theorem exists_wheelMouse : ∃ spec, createMouse (some wheelMouseOptions) = .ok spec ∧
    spec.descriptor = encodeItems (mouseProgram wheelMouseOptions).items ∧
    spec.layout.fields.map (fun field => (field.semantic, field.bitOffset, field.bitWidth)) =
      [(.buttons, 8, 1), (.buttons, 9, 1), (.buttons, 10, 1), (.constantPadding, 11, 5),
        (.x, 16, 8), (.y, 24, 12), (.constantPadding, 36, 4), (.wheel, 40, 4),
        (.constantPadding, 44, 4)] ∧
    spec.layout.wireBytes = 6 := by
  have hfacts : (createMouse (some wheelMouseOptions)).toOption.map (fun spec =>
      (spec.descriptor,
        spec.layout.fields.map (fun field => (field.semantic, field.bitOffset, field.bitWidth)),
        spec.layout.wireBytes)) =
      some (encodeItems (mouseProgram wheelMouseOptions).items,
        [(.buttons, 8, 1), (.buttons, 9, 1), (.buttons, 10, 1), (.constantPadding, 11, 5),
          (.x, 16, 8), (.y, 24, 12), (.constantPadding, 36, 4), (.wheel, 40, 4),
          (.constantPadding, 44, 4)], 6) := by decide +kernel
  cases hcreate : createMouse (some wheelMouseOptions) with
  | error found =>
    rw [hcreate] at hfacts
    cases hfacts
  | ok spec =>
    rw [hcreate] at hfacts
    obtain ⟨hbytes, hfields, hwire⟩ := by simpa using Option.some_inj.mp hfacts
    exact ⟨spec, rfl, hbytes, hfields, hwire⟩

theorem generated_descriptor_wheelMouse :
    ∃ spec, createMouse (some wheelMouseOptions) = .ok spec ∧
      spec.layout.fields.map (fun field => (field.semantic, field.bitOffset, field.bitWidth)) =
        [(.buttons, 8, 1), (.buttons, 9, 1), (.buttons, 10, 1), (.constantPadding, 11, 5),
          (.x, 16, 8), (.y, 24, 12), (.constantPadding, 36, 4), (.wheel, 40, 4),
          (.constantPadding, 44, 4)] ∧
      ∃ items r, spec.descriptor = encodeItems items ∧ readItems {} items = some r ∧
        r.topLevels = [1] ∧ List.Forall₂ FieldLayout.ReadAs spec.layout.fields r.fields ∧
        r.fields.map (fun read => (read.physicalMinimum, read.physicalMaximum, read.unitExponent)) =
          [(0, 0, 0), (0, 0, 0), (0, 0, 0), (0, 0, 0), (-50, 50, -3), (0, 0, 0), (0, 0, 0),
            (0, 0, 0), (0, 0, 0)] ∧
        bitsOf spec.identity r.inputs = 48 := by
  obtain ⟨spec, hcreate, hbytes, hfields, hwire⟩ := exists_wheelMouse
  obtain ⟨items, r, hitems, hread, -, htop, hreadAs, -, -, hbits⟩ :=
    generated_descriptor (.mouse hcreate)
  obtain rfl := encodeItems_injective (hbytes.symm.trans hitems)
  have hphysical : (readItems {} (mouseProgram wheelMouseOptions).items).map (fun r =>
      r.fields.map fun read => (read.physicalMinimum, read.physicalMaximum, read.unitExponent)) =
      some [(0, 0, 0), (0, 0, 0), (0, 0, 0), (0, 0, 0), (-50, 50, -3), (0, 0, 0), (0, 0, 0),
        (0, 0, 0), (0, 0, 0)] := by decide +kernel
  rw [hread] at hphysical
  rw [hwire] at hbits
  exact ⟨spec, hcreate, hfields, _, r, hitems, hread, htop, hreadAs, Option.some_inj.mp hphysical,
    hbits⟩

/-! ### The raw parser -/

/-- The descriptor has a Feature item. -/
def HasFeature (descriptor : List UInt8) : Prop :=
  ∃ items, descriptor = encodeItems items ∧ ∃ item ∈ items, item.type = .main ∧ item.tag = 11

/-- A program with a Feature writes it. -/
theorem EmitterProgram.feature_of_not_hasFeature {p : EmitterProgram} (h : ¬HasFeature p.bytes) :
    p.feature = none := by
  cases hfeature : p.feature with
  | none => rfl
  | some f =>
    refine absurd ⟨p.items, rfl, .ofUnsigned .main 11 (0x01 ||| 0x02), ?_, rfl, rfl⟩ h
    unfold items head
    rw [hfeature]
    simp [StaticFeature.items]

/-- **The raw parser accepts every generated descriptor** without a Feature item, with the table of
its one report, and finds the requirements that the builder has computed. -/
theorem validateRaw_generated {spec : Spec} (h : Generated spec)
    (hfeature : ¬HasFeature spec.descriptor) (mask : UInt8) :
    validateRaw spec.descriptor spec.rawTable [mask] = .ok ([0xFF], spec.requirements) := by
  obtain ⟨p, hp, hprogram, hspan, hwhole, hpos⟩ := h.exists_whole
  have hprefixed := p.prefixBits_cases
  rw [hprogram.descriptor] at hfeature
  have htable : spec.rawTable = [p.entry] := by
    unfold Spec.rawTable
    rw [hprogram.layout]
    rfl
  rw [hprogram.descriptor, hprogram.requirements, htable]
  exact p.validateRaw_eq hp hspan hprogram.fits (p.feature_of_not_hasFeature hfeature) hpos
    (by omega) mask

/-- The items of a descriptor are known from its bytes. -/
theorem not_hasFeature_encodeItems {items : List ShortItem}
    (h : ∀ item ∈ items, ¬(item.type = .main ∧ item.tag = 11)) :
    ¬HasFeature (encodeItems items) := by
  rintro ⟨others, hothers, item, hmem, hitem⟩
  rw [← encodeItems_injective hothers] at hmem
  exact h item hmem hitem

theorem validateRaw_generated_wheelMouse :
    ∃ spec, createMouse (some wheelMouseOptions) = .ok spec ∧
      spec.rawTable = [{ reportId := 2, hasReportId := 1, wireLength := 6 }] ∧
      validateRaw spec.descriptor spec.rawTable [0] = .ok ([0xFF], spec.requirements) := by
  obtain ⟨spec, hcreate, hbytes, -, -⟩ := exists_wheelMouse
  have htable : (createMouse (some wheelMouseOptions)).toOption.map Spec.rawTable =
      some [{ reportId := 2, hasReportId := 1, wireLength := 6 }] := by decide +kernel
  have hitems : ∀ item ∈ (mouseProgram wheelMouseOptions).items,
      ¬(item.type = .main ∧ item.tag = 11) := by decide +kernel
  rw [hcreate] at htable
  refine ⟨spec, hcreate, Option.some_inj.mp htable, validateRaw_generated (.mouse hcreate) ?_ 0⟩
  rw [hbytes]
  exact not_hasFeature_encodeItems hitems

end LibaoaHid

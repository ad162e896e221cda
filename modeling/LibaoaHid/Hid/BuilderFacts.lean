import LibaoaHid.Hid.DescriptorBuilder
import Mathlib.Data.List.Basic
import Mathlib.Tactic.Common

/-!
# What the builder records

Each operation of the descriptor builder appends the fields it declares, behind the bits that
are there already, and touches nothing else of the layout. An emitter is a chain of such
operations, so its layout is the list of its declarations, with Constant padding between them.

## Main definitions

* `FieldDecl`, `FieldLayout.decl`: a field without its place in the report.
* `DescriptorBuilder.Tracks`: the running bit count measures the recorded fields.
* `DescriptorBuilder.Adds`: from one builder to another, these declarations were recorded.
* `Tiles`: consecutive fields cover a range of bits.

## Main results

* `adds_variableField`, `adds_variableRange`, `padReport_spec` and the lemmas of the other
  operations.
* `adds_foldlM`: a loop of operations.
* `tiles_of_validateFields`.
-/

namespace LibaoaHid

/-! ### Declarations -/

/-- What an emitter declares of a field. -/
structure FieldDecl where
  semantic : FieldSemantic
  instanceIndex : ℕ
  bitWidth : ℕ
  logicalMinimum : ℤ
  logicalMaximum : ℤ
  hasNullState : Bool := false
  deriving DecidableEq

namespace FieldLayout

/-- The declaration of a recorded field. -/
def decl (field : FieldLayout) : FieldDecl :=
  { semantic := field.semantic
    instanceIndex := field.instanceIndex
    bitWidth := field.bitWidth
    logicalMinimum := field.logicalMinimum
    logicalMaximum := field.logicalMaximum
    hasNullState := field.hasNullState }

/-- A field that `add_layout` records is signed when an extent is negative, and its padding is
the one constant. -/
structure Recorded (field : FieldLayout) : Prop where
  isSigned : field.isSigned =
    (decide (field.logicalMinimum < 0) || decide (field.logicalMaximum < 0))
  padding : field.semantic = .constantPadding →
    field.logicalMinimum = 0 ∧ field.logicalMaximum = 0 ∧ field.hasNullState = false

end FieldLayout

namespace ReportLayout

/-- The declarations of a layout, without its padding. -/
def declared (layout : ReportLayout) : List FieldDecl :=
  (layout.fields.filter fun field => field.semantic ≠ .constantPadding).map FieldLayout.decl

/-- The bits of the recorded fields and of the Report ID. -/
def measure (layout : ReportLayout) : ℕ :=
  layout.prefixBits + (layout.fields.map (·.bitWidth)).sum

/-- A field of the layout that is not padding is one of the declarations. -/
theorem decl_mem_declared {layout : ReportLayout} {field : FieldLayout}
    (hmem : field ∈ layout.fields) (hpadding : field.semantic ≠ .constantPadding) :
    field.decl ∈ layout.declared :=
  List.mem_map_of_mem (List.mem_filter.mpr ⟨hmem, by simpa using hpadding⟩)

/-- A declaration belongs to a field of the layout. -/
theorem exists_field_of_mem_declared {layout : ReportLayout} {d : FieldDecl}
    (h : d ∈ layout.declared) : ∃ field ∈ layout.fields, field.decl = d := by
  obtain ⟨field, hfield, rfl⟩ := List.mem_map.mp h
  exact ⟨field, (List.mem_filter.mp hfield).1, rfl⟩

end ReportLayout

/-! ### Tilings -/

/-- Consecutive fields cover the bits from `start` to `stop`. -/
def Tiles : List FieldLayout → ℕ → ℕ → Prop
  | [], start, stop => start = stop
  | field :: rest, start, stop =>
    field.bitOffset = start ∧ 0 < field.bitWidth ∧ Tiles rest (start + field.bitWidth) stop

namespace Tiles

theorem le : {fields : List FieldLayout} → {start stop : ℕ} → Tiles fields start stop →
    start ≤ stop
  | [], _, _, h => Nat.le_of_eq h
  | _ :: _, _, _, h => by
    have := le h.2.2
    omega

/-- The fields of a tiling are not empty. -/
theorem pos : {fields : List FieldLayout} → {start stop : ℕ} → Tiles fields start stop →
    ∀ field ∈ fields, 0 < field.bitWidth
  | [], _, _, _, _, hmem => by simp at hmem
  | first :: rest, start, stop, h, field, hmem => by
    rcases List.mem_cons.mp hmem with rfl | hmem
    · exact h.2.1
    · exact pos h.2.2 field hmem

/-- A field of a tiling lies inside it. -/
theorem inside : {fields : List FieldLayout} → {start stop : ℕ} → Tiles fields start stop →
    ∀ field ∈ fields, start ≤ field.bitOffset ∧ field.bitOffset + field.bitWidth ≤ stop
  | [], _, _, _, _, hmem => by simp at hmem
  | first :: rest, start, stop, h, field, hmem => by
    obtain ⟨hoffset, hwidth, hrest⟩ := h
    rcases List.mem_cons.mp hmem with rfl | hmem
    · exact ⟨by omega, by have := le hrest; omega⟩
    · have := inside hrest field hmem
      omega

/-- Every bit of a tiling belongs to one of its fields. -/
theorem covers : {fields : List FieldLayout} → {start stop : ℕ} → Tiles fields start stop →
    ∀ k, start ≤ k → k < stop →
      ∃ field ∈ fields, field.bitOffset ≤ k ∧ k < field.bitOffset + field.bitWidth
  | [], _, _, h, k, hstart, hstop => by
    have : _ = _ := h
    omega
  | field :: rest, start, stop, h, k, hstart, hstop => by
    obtain ⟨hoffset, -, hrest⟩ := h
    by_cases hk : k < start + field.bitWidth
    · exact ⟨field, List.mem_cons_self, by omega, by omega⟩
    · obtain ⟨found, hmem, hfound⟩ := covers hrest k (by omega) hstop
      exact ⟨found, List.mem_cons_of_mem _ hmem, hfound⟩

/-- The fields of a tiling are pairwise disjoint: an earlier one ends before a later one. -/
theorem pairwise : {fields : List FieldLayout} → {start stop : ℕ} → Tiles fields start stop →
    fields.Pairwise fun first second => first.bitOffset + first.bitWidth ≤ second.bitOffset
  | [], _, _, _ => List.Pairwise.nil
  | field :: rest, start, stop, h => by
    obtain ⟨hoffset, -, hrest⟩ := h
    refine List.Pairwise.cons (fun other hmem => ?_) (pairwise hrest)
    have := (inside hrest other hmem).1
    omega

end Tiles

/-- The field loop of the validator accepts tilings only, and measures them. -/
theorem tiles_of_validateFields : {fields : List FieldLayout} → {start stop : ℕ} →
    validateFields fields start = .ok stop →
      Tiles fields start stop ∧ stop = start + (fields.map (·.bitWidth)).sum ∧
        ∀ field ∈ fields, field.bitWidth ≤ 32 ∧
          (field.semantic ≠ .constantPadding →
            valueFits field.logicalMinimum field.logicalMaximum field.bitWidth = true)
  | [], start, stop, h => by
    obtain rfl : start = stop := by simpa [validateFields] using h
    simp [Tiles]
  | field :: rest, start, stop, h => by
    simp only [validateFields] at h
    split_ifs at h with hphysical hcontiguous hfits hspan
    obtain ⟨htiles, hstop, hrest⟩ := tiles_of_validateFields h
    have hcontiguous : field.bitWidth ≠ 0 ∧ field.bitOffset = start := by
      constructor
      · exact fun h0 => hcontiguous (Or.inl h0)
      · by_contra hne
        exact hcontiguous (Or.inr (Or.inl hne))
    refine ⟨⟨hcontiguous.2, Nat.pos_of_ne_zero hcontiguous.1, htiles⟩, ?_, ?_⟩
    · simp only [List.map_cons, List.sum_cons]
      omega
    · intro other hmem
      rcases List.mem_cons.mp hmem with rfl | hmem
      · refine ⟨by omega, fun hpadding => ?_⟩
        by_contra hno
        exact hfits ⟨by simpa using hno, hpadding⟩
      · exact hrest other hmem

/-! ### Recording -/

namespace DescriptorBuilder

/-- The layout that the builder records, when it has one. -/
def recorded (b : DescriptorBuilder) : ReportLayout := b.layout.getD {}

/-- The builder records a layout, and its running bit count measures it. -/
structure Tracks (b : DescriptorBuilder) : Prop where
  isSome : b.layout.isSome
  inputBits : b.inputBits = b.recorded.measure
  fields : ∀ field ∈ b.recorded.fields, field.Recorded

/-- From `b` to `b'` the fields `decls` were recorded, and padding perhaps. -/
structure Adds (b : DescriptorBuilder) (decls : List FieldDecl) (b' : DescriptorBuilder) :
    Prop where
  tracks : b.Tracks → b'.Tracks
  declared : b.Tracks → b'.recorded.declared = b.recorded.declared ++ decls
  hasReportId : b.Tracks → b'.recorded.hasReportId = b.recorded.hasReportId
  reportId : b.Tracks → b'.recorded.reportId = b.recorded.reportId

variable {b b' b'' : DescriptorBuilder} {decls decls' : List FieldDecl}

theorem Adds.trans (h : b.Adds decls b') (h' : b'.Adds decls' b'') :
    b.Adds (decls ++ decls') b'' where
  tracks ht := h'.tracks (h.tracks ht)
  declared ht := by rw [h'.declared (h.tracks ht), h.declared ht, List.append_assoc]
  hasReportId ht := (h'.hasReportId (h.tracks ht)).trans (h.hasReportId ht)
  reportId ht := (h'.reportId (h.tracks ht)).trans (h.reportId ht)

/-- An operation that leaves the layout and the bit count alone. -/
theorem adds_nil_of_eq (hlayout : b'.layout = b.layout) (hbits : b'.inputBits = b.inputBits) :
    b.Adds [] b' := by
  have hrecorded : b'.recorded = b.recorded := by rw [recorded, recorded, hlayout]
  exact
    { tracks := fun ht =>
        ⟨hlayout ▸ ht.isSome, by rw [hbits, hrecorded, ht.inputBits], hrecorded ▸ ht.fields⟩
      declared := fun _ => by rw [hrecorded, List.append_nil]
      hasReportId := fun _ => by rw [hrecorded]
      reportId := fun _ => by rw [hrecorded] }

theorem Adds.refl (b : DescriptorBuilder) : b.Adds [] b := adds_nil_of_eq rfl rfl

/-- A step that leaves the layout alone, in front of one that records. -/
theorem Adds.after_eq (hlayout : b'.layout = b.layout) (hbits : b'.inputBits = b.inputBits)
    (h : b'.Adds decls b'') : b.Adds decls b'' := by
  simpa using (adds_nil_of_eq hlayout hbits).trans h

/-! #### The operations -/

theorem beginCollection_frame {usagePage usage type : ℕ}
    (h : b.beginCollection usagePage usage type = some b') :
    b'.layout = b.layout ∧ b'.inputBits = b.inputBits := by
  simp only [beginCollection, Option.bind_eq_bind, Option.bind_eq_some_iff] at h
  obtain ⟨w₁, -, w₂, -, w₃, -, h⟩ := h
  cases h
  exact ⟨rfl, rfl⟩

theorem beginApplication_frame {usagePage usage : ℕ}
    (h : b.beginApplication usagePage usage = some b') :
    b'.layout = b.layout ∧ b'.inputBits = b.inputBits := by
  simp only [beginApplication, Option.bind_eq_bind] at h
  split_ifs at h
  obtain ⟨opened, hopened, h⟩ := Option.bind_eq_some_iff.mp h
  cases h
  obtain ⟨hlayout, hbits⟩ := beginCollection_frame hopened
  exact ⟨hlayout, hbits⟩

theorem adds_beginLogical {usagePage usage : ℕ} (h : b.beginLogical usagePage usage = some b') :
    b.Adds [] b' := by
  simp only [beginLogical] at h
  split_ifs at h
  exact adds_nil_of_eq (beginCollection_frame h).1 (beginCollection_frame h).2

theorem adds_beginPhysical {usagePage usage : ℕ}
    (h : b.beginPhysical usagePage usage = some b') : b.Adds [] b' := by
  simp only [beginPhysical] at h
  split_ifs at h
  exact adds_nil_of_eq (beginCollection_frame h).1 (beginCollection_frame h).2

theorem endCollection_frame (h : b.endCollection = some b') :
    b'.layout = b.layout ∧ b'.inputBits = b.inputBits := by
  simp only [endCollection, Option.bind_eq_bind] at h
  split_ifs at h
  obtain ⟨writer, -, h⟩ := Option.bind_eq_some_iff.mp h
  cases h
  exact ⟨rfl, rfl⟩

theorem adds_endCollection (h : b.endCollection = some b') : b.Adds [] b' :=
  adds_nil_of_eq (endCollection_frame h).1 (endCollection_frame h).2

theorem prepareDataMain_frame (h : b.prepareDataMain = some b') :
    b'.layout = b.layout ∧ b'.inputBits = b.inputBits := by
  simp only [prepareDataMain] at h
  split_ifs at h
  cases h
  exact ⟨rfl, rfl⟩

theorem recordMain_frame {feature : Bool} {localUsageCount reportCount reportSize : ℕ}
    (h : b.recordMain feature localUsageCount reportCount reportSize = some b') :
    b'.layout = b.layout ∧ b'.inputBits = b.inputBits := by
  simp only [recordMain, observeUsages] at h
  split_ifs at h <;> cases h <;> exact ⟨rfl, rfl⟩

/-- `setReportId` on a builder without fields starts a layout with the declared identity. -/
theorem setReportId_spec {enabled : Bool} {reportId : ℕ}
    (h : b.setReportId enabled reportId = some b') (hsome : b.layout.isSome)
    (hempty : b.recorded.fields = []) :
    b'.Tracks ∧ b'.recorded.declared = [] ∧ b'.recorded.hasReportId = enabled ∧
      b'.recorded.reportId = if enabled then reportId else 0 := by
  obtain ⟨layout, hlayout⟩ := Option.isSome_iff_exists.mp hsome
  have hfields : layout.fields = [] := by simpa [recorded, hlayout] using hempty
  simp only [setReportId, Option.bind_eq_bind] at h
  split_ifs at h with hdecided hdisabled hzero
  · cases h
    cases enabled
    · simp [recorded, hlayout, ReportLayout.declared, hfields, tracks_iff, ReportLayout.measure,
        ReportLayout.prefixBits]
    · simp at hdisabled
  · obtain ⟨writer, -, h⟩ := Option.bind_eq_some_iff.mp h
    cases h
    cases enabled
    · simp at hdisabled
    · simp [recorded, hlayout, ReportLayout.declared, hfields, tracks_iff, ReportLayout.measure,
        ReportLayout.prefixBits]
where
  tracks_iff {b : DescriptorBuilder} : b.Tracks ↔ b.layout.isSome ∧
      b.inputBits = b.recorded.measure ∧ ∀ field ∈ b.recorded.fields, field.Recorded :=
    ⟨fun h => ⟨h.1, h.2, h.3⟩, fun h => ⟨h.1, h.2.1, h.2.2⟩⟩

/-- `add_layout` appends one field. -/
theorem addLayout_spec {semantic : FieldSemantic} {instanceIndex bitWidth : ℕ}
    {logicalMinimum logicalMaximum : ℤ} {physical : Option PhysicalProperties}
    {hasNullState : Bool}
    (hpadding : semantic = .constantPadding →
      logicalMinimum = 0 ∧ logicalMaximum = 0 ∧ hasNullState = false)
    (h : b.addLayout semantic instanceIndex bitWidth logicalMinimum logicalMaximum physical
      hasNullState = some b') :
    b'.inputBits = b.inputBits + bitWidth ∧
      b.Adds (if semantic = .constantPadding then [] else
        [FieldDecl.mk semantic instanceIndex bitWidth logicalMinimum logicalMaximum
          hasNullState]) b' := by
  simp only [addLayout] at h
  split_ifs at h with hwidth
  cases h
  refine ⟨rfl, ?_⟩
  -- The recorded layout is the old one with one more field behind it.
  have key (ht : b.Tracks) : ∃ layout, b.layout = some layout :=
    Option.isSome_iff_exists.mp ht.isSome
  constructor
  · intro ht
    obtain ⟨layout, hlayout⟩ := key ht
    have hbits : b.inputBits = layout.measure := by simpa [recorded, hlayout] using ht.inputBits
    have hfields : ∀ field ∈ layout.fields, field.Recorded := by
      simpa [recorded, hlayout] using ht.fields
    refine ⟨by simp [hlayout], ?_, ?_⟩
    · simp [recorded, hlayout, ReportLayout.measure, ReportLayout.prefixBits, hbits]
      omega
    · intro field hmem
      simp only [recorded, hlayout, Option.map_some, Option.getD_some, List.mem_append,
        List.mem_singleton] at hmem
      rcases hmem with hmem | rfl
      · exact hfields field hmem
      · exact ⟨rfl, hpadding⟩
  · intro ht
    obtain ⟨layout, hlayout⟩ := key ht
    by_cases hconstant : semantic = .constantPadding <;>
      simp [recorded, hlayout, ReportLayout.declared, List.filter_append, hconstant,
        FieldLayout.decl]
  · intro ht
    obtain ⟨layout, hlayout⟩ := key ht
    simp [recorded, hlayout]
  · intro ht
    obtain ⟨layout, hlayout⟩ := key ht
    simp [recorded, hlayout]

/-- A loop of operations records what its turns record. -/
theorem adds_foldlM {α : Type} {turn : DescriptorBuilder → α → Option DescriptorBuilder}
    {turnDecls : α → List FieldDecl} :
    (items : List α) → {b b' : DescriptorBuilder} →
      (∀ a ∈ items, ∀ {b b' : DescriptorBuilder}, turn b a = some b' → b.Adds (turnDecls a) b') →
      items.foldlM turn b = some b' → b.Adds (items.flatMap turnDecls) b'
  | [], b, b', _, h => by
    obtain rfl : b = b' := by simpa using h
    exact Adds.refl b
  | a :: rest, b, b', hturn, h => by
    rw [List.foldlM_cons, Option.bind_eq_bind, Option.bind_eq_some_iff] at h
    obtain ⟨middle, hfirst, hrest⟩ := h
    rw [List.flatMap_cons]
    exact (hturn a List.mem_cons_self hfirst).trans
      (adds_foldlM rest (fun a hmem => hturn a (List.mem_cons_of_mem _ hmem)) hrest)

/-- The items behind a condition hand one writer on. -/
private theorem exists_of_ite_bind {α β : Type} {p : Prop} [Decidable p]
    {first second : Option α} {next : α → Option β} {b : β}
    (h : (if p then first.bind next else second.bind next) = some b) : ∃ a, next a = some b := by
  split_ifs at h
  · obtain ⟨a, -, ha⟩ := Option.bind_eq_some_iff.mp h
    exact ⟨a, ha⟩
  · obtain ⟨a, -, ha⟩ := Option.bind_eq_some_iff.mp h
    exact ⟨a, ha⟩

theorem adds_variableField {usagePage usage : ℕ} {logicalMinimum logicalMaximum : ℤ}
    {bitWidth : ℕ} {relative nullState : Bool} {semantic : FieldSemantic} {instanceIndex : ℕ}
    {noPreferred : Bool} {physical : Option PhysicalProperties}
    (hsemantic : semantic ≠ .constantPadding)
    (h : b.variableField usagePage usage logicalMinimum logicalMaximum bitWidth relative nullState
      semantic instanceIndex noPreferred physical = some b') :
    b.Adds
      [FieldDecl.mk semantic instanceIndex bitWidth logicalMinimum logicalMaximum nullState]
      b' := by
  simp only [variableField, Option.bind_eq_bind] at h
  obtain ⟨prepared, hprepared, h⟩ := Option.bind_eq_some_iff.mp h
  obtain ⟨-, h⟩ := Option.ite_none_left_eq_some.mp h
  obtain ⟨w₁, -, h⟩ := Option.bind_eq_some_iff.mp h
  obtain ⟨w₂, -, h⟩ := Option.bind_eq_some_iff.mp h
  obtain ⟨w₃, -, h⟩ := Option.bind_eq_some_iff.mp h
  obtain ⟨w₄, -, h⟩ := Option.bind_eq_some_iff.mp h
  obtain ⟨w₅, h⟩ := exists_of_ite_bind h
  obtain ⟨w₆, -, h⟩ := Option.bind_eq_some_iff.mp h
  obtain ⟨w₇, -, h⟩ := Option.bind_eq_some_iff.mp h
  obtain ⟨w₈, -, h⟩ := Option.bind_eq_some_iff.mp h
  obtain ⟨main, hmain, h⟩ := Option.bind_eq_some_iff.mp h
  obtain ⟨w₉, h⟩ := exists_of_ite_bind h
  have hadd := (addLayout_spec (fun hconstant => absurd hconstant hsemantic) h).2
  rw [if_neg hsemantic] at hadd
  refine Adds.after_eq ?_ ?_ hadd
  · exact (recordMain_frame hmain).1.trans (prepareDataMain_frame hprepared).1
  · exact (recordMain_frame hmain).2.trans (prepareDataMain_frame hprepared).2

theorem adds_variableRange {usagePage usageMinimum usageMaximum bitWidth : ℕ}
    {semantic : FieldSemantic} (hsemantic : semantic ≠ .constantPadding)
    (h : b.variableRange usagePage usageMinimum usageMaximum bitWidth semantic = some b') :
    b.Adds ((List.range (usageMaximum - usageMinimum + 1)).map fun index =>
      FieldDecl.mk semantic (index % 2 ^ 16) bitWidth 0 1 false) b' := by
  simp only [variableRange, Option.bind_eq_bind] at h
  obtain ⟨prepared, hprepared, h⟩ := Option.bind_eq_some_iff.mp h
  obtain ⟨-, h⟩ := Option.ite_none_left_eq_some.mp h
  obtain ⟨w₁, -, h⟩ := Option.bind_eq_some_iff.mp h
  obtain ⟨w₂, -, h⟩ := Option.bind_eq_some_iff.mp h
  obtain ⟨w₃, -, h⟩ := Option.bind_eq_some_iff.mp h
  obtain ⟨w₄, -, h⟩ := Option.bind_eq_some_iff.mp h
  obtain ⟨w₅, -, h⟩ := Option.bind_eq_some_iff.mp h
  obtain ⟨w₆, -, h⟩ := Option.bind_eq_some_iff.mp h
  obtain ⟨w₇, -, h⟩ := Option.bind_eq_some_iff.mp h
  obtain ⟨w₈, -, h⟩ := Option.bind_eq_some_iff.mp h
  obtain ⟨main, hmain, h⟩ := Option.bind_eq_some_iff.mp h
  have hturn (index : ℕ) (_ : index ∈ List.range (usageMaximum - usageMinimum + 1))
      {b b' : DescriptorBuilder}
      (hturn : b.addLayout semantic (index % 2 ^ 16) bitWidth 0 1 = some b') :
      b.Adds [FieldDecl.mk semantic (index % 2 ^ 16) bitWidth 0 1 false] b' := by
    have hadd := (addLayout_spec (fun hconstant => absurd hconstant hsemantic) hturn).2
    rwa [if_neg hsemantic] at hadd
  have hloop := adds_foldlM _ hturn h
  rw [List.map_eq_flatMap]
  refine Adds.after_eq ?_ ?_ hloop
  · exact (recordMain_frame hmain).1.trans (prepareDataMain_frame hprepared).1
  · exact (recordMain_frame hmain).2.trans (prepareDataMain_frame hprepared).2

theorem adds_featureStaticValue {usagePage usage : ℕ} {logicalMinimum logicalMaximum : ℤ}
    {bitWidth : ℕ}
    (h : b.featureStaticValue usagePage usage logicalMinimum logicalMaximum bitWidth = some b') :
    b.Adds [] b' := by
  simp only [featureStaticValue, Option.bind_eq_bind] at h
  obtain ⟨prepared, hprepared, h⟩ := Option.bind_eq_some_iff.mp h
  simp only [Option.bind_eq_some_iff] at h
  obtain ⟨w₁, -, w₂, -, w₃, -, w₄, -, w₅, -, w₆, -, w₇, -, h⟩ := h
  exact adds_nil_of_eq ((recordMain_frame h).1.trans (prepareDataMain_frame hprepared).1)
    ((recordMain_frame h).2.trans (prepareDataMain_frame hprepared).2)

theorem constantPadding_spec {bits : ℕ} (h : b.constantPadding bits = some b') :
    b'.inputBits = b.inputBits + bits % 2 ^ 8 ∧ b.Adds [] b' := by
  simp only [constantPadding, Option.bind_eq_bind] at h
  split_ifs at h with hzero
  · cases h
    exact ⟨by simp [hzero], Adds.refl b⟩
  · simp only [Option.bind_eq_some_iff] at h
    obtain ⟨prepared, hprepared, w₁, -, w₂, -, w₃, -, main, hmain, h⟩ := h
    have hbits : main.inputBits = b.inputBits :=
      (recordMain_frame hmain).2.trans (prepareDataMain_frame hprepared).2
    obtain ⟨hcount, hadd⟩ := addLayout_spec (fun _ => ⟨rfl, rfl, rfl⟩) h
    refine ⟨hbits ▸ hcount, Adds.after_eq ?_ hbits hadd⟩
    exact (recordMain_frame hmain).1.trans (prepareDataMain_frame hprepared).1

end DescriptorBuilder

/-- Padding declares nothing and ends on a byte boundary. -/
theorem padReport_spec {b b' : DescriptorBuilder} (h : padReport b = some b') :
    b'.inputBits % 8 = 0 ∧ b.Adds [] b' := by
  have hand (n : ℕ) : n &&& 7 = n % 8 := Nat.and_two_pow_sub_one_eq_mod n 3
  simp only [padReport, hand] at h
  split_ifs at h with hpadding
  · obtain ⟨hbits, hadd⟩ := DescriptorBuilder.constantPadding_spec h
    exact ⟨by omega, hadd⟩
  · cases h
    exact ⟨by omega, DescriptorBuilder.Adds.refl b⟩

end LibaoaHid

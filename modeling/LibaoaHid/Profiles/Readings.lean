import LibaoaHid.Profiles.SelectedValues

/-!
# Reading a report by semantic

An observer of the wire finds the fields of a control by their semantic. The layout of a sound
Spec has the declared fields of each semantic, in the declared order.

## Main definitions

* `ReportLayout.fieldsOf`: the fields of one semantic.

## Main results

* `Spec.Sound.map_decl_fieldsOf`: they are the declared ones.
* `Spec.Carries.reading_of_fits`: each field of the report of a fitting state reads as selected.
-/

namespace LibaoaHid

/-- The fields of one semantic, in the order of the layout. -/
def ReportLayout.fieldsOf (layout : ReportLayout) (semantic : FieldSemantic) : List FieldLayout :=
  layout.fields.filter fun field => field.semantic = semantic

theorem mem_fieldsOf {layout : ReportLayout} {semantic : FieldSemantic} {field : FieldLayout} :
    field ∈ layout.fieldsOf semantic ↔ field ∈ layout.fields ∧ field.semantic = semantic := by
  simp [ReportLayout.fieldsOf]

/-- The fields of a semantic are the declared ones. -/
theorem Spec.Sound.map_decl_fieldsOf {spec : Spec} (hsound : spec.Sound)
    {semantic : FieldSemantic} (hsemantic : semantic ≠ .constantPadding) :
    (spec.layout.fieldsOf semantic).map (·.decl) =
      spec.config.declaredFields.filter fun d => d.semantic = semantic := by
  rw [← hsound.declared, ReportLayout.declared, ReportLayout.fieldsOf, List.filter_map,
    List.filter_filter]
  congr 1
  apply List.filter_congr
  intro field _
  by_cases h : field.semantic = semantic
  · simp [h, hsemantic, FieldLayout.decl]
  · simp [h, FieldLayout.decl]

/-- The report of a fitting state gives every selected value back. -/
theorem Spec.Carries.reading_of_fits {spec : Spec} {state : NodeState} {report : List UInt8}
    (h : spec.Carries state report) (hsound : spec.Sound) (hfits : state.Fits spec.config)
    (hreport : state.Reportable spec.config) {field : FieldLayout}
    (hmem : field ∈ spec.layout.fields) :
    fieldReading report field = selectedValue spec.config state field :=
  h.reading hsound (serializable_of_fits hsound hfits hreport) hmem

end LibaoaHid

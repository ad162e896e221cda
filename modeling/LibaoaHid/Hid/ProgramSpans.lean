import LibaoaHid.Hid.FieldSpans
import LibaoaHid.Hid.ItemLoop

/-!
# The last validation of emitter programs

`validate_generated` of `src/hid/validator.cpp` on the bytes and the layout of a valid program. The
layout is contiguous and has its wire length, and the bytes describe it. What the validation can
still find is a field that touches more than four bytes of the report.

## Main definitions

* `EmitterProgram.SpansFit`: no field of the program touches more than four bytes.

## Main results

* `validateFields_body`: the field loop on the fields of a sequence of operations.
* `EmitterProgram.validateGenerated_of_spansFit`,
  `EmitterProgram.validateGenerated_of_not_spansFit`.
-/

namespace LibaoaHid

open Hid

/-! ### Spans -/

/-- The fields of an operation behind some data bits touch at most four bytes each. -/
def EmitterOp.SpanFits (bits : ℕ) : EmitterOp → Prop
  | .field d => bits % 8 + d.bitWidth ≤ 32
  | _ => True

instance (bits : ℕ) (op : EmitterOp) : Decidable (op.SpanFits bits) := by
  cases op <;> unfold EmitterOp.SpanFits <;> infer_instance

/-- The fields of a sequence of operations touch at most four bytes each. -/
def BodySpansFit : ℕ → List EmitterOp → Prop
  | _, [] => True
  | bits, op :: ops => op.SpanFits bits ∧ BodySpansFit (bits + op.bits bits) ops

/-- The fields of a program touch at most four bytes each. -/
def EmitterProgram.SpansFit (p : EmitterProgram) : Prop := BodySpansFit 0 p.body

section Fields

variable {prefixes bits : ℕ} {rest : List FieldLayout}

/-- The one-bit fields of a range. -/
theorem validateFields_range {semantic : FieldSemantic} (count : ℕ) {start : ℕ}
    (hsmall : start + count ≤ 2 ^ 31) :
    validateFields ((List.range count).map (rangeFieldAt semantic start) ++ rest) start =
      validateFields rest (start + count) := by
  induction count generalizing rest with
  | zero => rfl
  | succ count ih =>
    rw [List.range_succ, List.map_append, List.append_assoc, ih (by omega), List.map_singleton,
      List.singleton_append,
      validateFields_cons (rangeFieldAt semantic start count) (start + count) (Or.inl rfl)
        Nat.one_pos rfl (show start + count + 1 < 2 ^ 64 by omega) fun _ => rfl]
    exact if_pos (show (start + count) % 8 + 1 ≤ 32 by omega)

/-- **The fields of one operation.** -/
theorem validateFields_op {op : EmitterOp} (hop : op.Valid)
    (hprefixed : prefixes = 0 ∨ prefixes = 8)
    (hsmall : bits + op.cost ≤ 2 ^ 24) :
    validateFields (op.fields prefixes bits ++ rest) (prefixes + bits) =
      if op.SpanFits bits then validateFields rest (prefixes + (bits + op.bits bits))
      else .error spanIssue := by
  cases op with
  | field d =>
    obtain ⟨hpos, -, -⟩ := of_valueFits hop.fits
    change bits + d.bitWidth ≤ 2 ^ 24 at hsmall
    have hmod : (prefixes + bits) % 8 = bits % 8 := by omega
    change validateFields (d.layoutAt (prefixes + bits) :: rest) _ = _
    rw [validateFields_cons (d.layoutAt (prefixes + bits)) (prefixes + bits) hop.physical hpos rfl
      (show prefixes + bits + d.bitWidth < 2 ^ 64 by omega) fun _ => hop.fits]
    change (if (prefixes + bits) % 8 + d.bitWidth ≤ 32 then _ else _) =
      if bits % 8 + d.bitWidth ≤ 32 then _ else _
    rw [hmod, Nat.add_assoc]
    rfl
  | range usagePage usageMinimum usageMaximum semantic =>
    change bits + (usageMaximum - usageMinimum + 1) ≤ 2 ^ 24 at hsmall
    rw [if_pos (show EmitterOp.SpanFits bits (.range _ _ _ _) from trivial)]
    exact (validateFields_range _ (by omega)).trans (congrArg _ (Nat.add_assoc _ _ _))
  | pad =>
    have hlt : padding bits < 8 := Nat.mod_lt _ (by norm_num)
    change bits + 8 ≤ 2 ^ 24 at hsmall
    rw [if_pos (show EmitterOp.SpanFits bits .pad from trivial)]
    change validateFields ((if padding bits = 0 then [] else _) ++ rest) _ =
      validateFields rest (prefixes + (bits + padding bits))
    split_ifs with hzero
    · rw [hzero]
      rfl
    · rw [List.singleton_append,
        validateFields_cons (paddingAt (prefixes + bits) (padding bits)) (prefixes + bits)
          (Or.inl rfl) (Nat.pos_of_ne_zero hzero) rfl
          (show prefixes + bits + padding bits < 2 ^ 64 by omega)
          fun hsemantic => absurd rfl hsemantic, ← Nat.add_assoc]
      exact if_pos (show (prefixes + bits) % 8 + padding bits ≤ 32 by omega)
  | openLogical _ _ => exact (if_pos trivial).symm
  | openPhysical _ _ => exact (if_pos trivial).symm
  | close => exact (if_pos trivial).symm

/-- **The fields of a sequence of operations.** -/
theorem validateFields_body {ops : List EmitterOp} (hops : ∀ op ∈ ops, op.Valid)
    (hprefixed : prefixes = 0 ∨ prefixes = 8)
    (hsmall : bits + (ops.map EmitterOp.cost).sum ≤ 2 ^ 24) :
    (BodySpansFit bits ops → validateFields (bodyFields prefixes bits ops) (prefixes + bits) =
        .ok (prefixes + bodyBits bits ops)) ∧
      (¬BodySpansFit bits ops →
        validateFields (bodyFields prefixes bits ops) (prefixes + bits) = .error spanIssue) := by
  induction ops generalizing bits with
  | nil => exact ⟨fun _ => rfl, fun h => absurd trivial h⟩
  | cons op ops ih =>
    obtain ⟨hop, hops⟩ := List.forall_mem_cons.mp hops
    rw [List.map_cons, List.sum_cons] at hsmall
    have hbits := op.bits_le_cost bits
    have hrest : bits + op.bits bits + (ops.map EmitterOp.cost).sum ≤ 2 ^ 24 := by omega
    obtain ⟨ihFits, ihNot⟩ := ih hops hrest
    rw [bodyFields, validateFields_op hop hprefixed (by omega)]
    constructor
    · intro h
      rw [if_pos h.1]
      exact ihFits h.2
    · intro h
      split_ifs with hspan
      · exact ihNot fun hrest => h ⟨hspan, hrest⟩
      · rfl

end Fields

/-! ### The descriptor walk -/

namespace StructureWalk

/-- One item of the walk of `validate_generated_structure`. -/
def shortItem (walk : StructureWalk) (item : ShortItem) (offset : ℕ) :
    Except ValidationIssue StructureWalk :=
  if item.type.code = 1 then walk.globalItem item.tag item.unsigned offset
  else if item.type.code = 0 then walk.mainItem item.tag item.unsigned offset
  else .ok walk

/-- An item that the walk accepts. -/
structure Step (walk : StructureWalk) (item : ShortItem) (next : StructureWalk) : Prop where
  short : item.tag ≠ 15
  accepted : ∀ offset, walk.shortItem item offset = .ok next

/-- The item loop over the bytes of a walk. -/
theorem items_of_walk {walk next : StructureWalk} {items : List ShortItem}
    (h : Walk Step walk items next) {turns offset : ℕ}
    (hturns : (encodeItems items).length ≤ turns) :
    StructureWalk.items turns walk offset (encodeItems items) = .ok next := by
  rw [items_eq, shortItemLoop_encodeItems (forall_of_walk Step.short h) walk hturns]
  refine foldlM_of_walk (fun head offset => ?_) h offset
  have haccepted := head.accepted offset
  rw [shortItem, ← unsignedValue_data] at haccepted
  exact haccepted

variable {walk : StructureWalk}

/-- An item that says nothing about the size of a report. -/
def Skipped (item : ShortItem) : Prop :=
  item.type = .localState ∧ item.tag ≠ 15 ∨ item.type = .globalState ∧ item.tag < 7

/-- An item that the walk passes over. -/
theorem step_skipped {item : ShortItem} (h : Skipped item) : walk.Step item walk := by
  rcases h with ⟨htype, htag⟩ | ⟨htype, htag⟩
  · refine ⟨htag, fun offset => ?_⟩
    unfold shortItem
    rw [htype]
    rfl
  · refine ⟨by omega, fun offset => ?_⟩
    unfold shortItem globalItem
    rw [htype, if_pos (show ItemType.globalState.code = 1 from rfl), if_neg (by omega),
      if_neg (by omega), if_neg (by omega), if_neg (by omega)]

theorem step_reportSize {value : ℕ} (h : value < 2 ^ 32) :
    walk.Step (.ofUnsigned .globalState 7 value) { walk with reportSize := value } := by
  refine ⟨show (7 : ℕ) ≠ 15 by norm_num, fun offset => ?_⟩
  change Except.ok { walk with reportSize := _ } = _
  rw [ShortItem.unsigned_ofUnsigned _ _ h]

theorem step_reportCount {value : ℕ} (h : value < 2 ^ 32) :
    walk.Step (.ofUnsigned .globalState 9 value) { walk with reportCount := value } := by
  refine ⟨show (9 : ℕ) ≠ 15 by norm_num, fun offset => ?_⟩
  change Except.ok { walk with reportCount := _ } = _
  rw [ShortItem.unsigned_ofUnsigned _ _ h]

/-- The items of a report's fields. -/
theorem walk_input {size count flags : ℕ} (hdepth : walk.collectionDepth ≠ 0)
    (hsize : 0 < size ∧ size ≤ 32) (hcount : 0 < count ∧ count ≤ 2 ^ 16)
    (hbits : walk.inputBits ≤ 2 ^ 24) (hspan : fieldSpanIsValid walk.inputBits size count = true) :
    Walk Step walk [.ofUnsigned .globalState 7 size, .ofUnsigned .globalState 9 count,
        .ofUnsigned .main 8 flags]
      { walk with
        reportSize := size
        reportCount := count
        dataMainSeen := true
        inputBits := walk.inputBits + size * count } := by
  have hproduct : size * count ≤ 32 * 2 ^ 16 := Nat.mul_le_mul hsize.2 hcount.2
  refine .cons (step_reportSize (by omega)) <| .cons (step_reportCount (by omega)) <|
    .single ⟨show (8 : ℕ) ≠ 15 by norm_num, fun offset => ?_⟩
  change dataItem _ 8 offset = _
  unfold dataItem
  dsimp only
  rw [if_neg (by omega), if_neg (by norm_num), if_neg (by omega), if_neg (by simp [hspan]),
    if_neg (by simp only [if_true]; omega), if_pos rfl, if_pos rfl]

theorem walk_skipped {items : List ShortItem} (h : ∀ item ∈ items, Skipped item) :
    Walk Step walk items walk := by
  induction items with
  | nil => exact .nil walk
  | cons item items ih =>
    obtain ⟨hitem, hitems⟩ := List.forall_mem_cons.mp h
    exact .cons (step_skipped hitem) (ih hitems)

theorem skipped_maximumItem {tag : Fin 16} (h : (tag : ℕ) < 7) (value declaredMinimum : ℤ) :
    Skipped (ItemWriter.maximumItem tag value declaredMinimum) := by
  unfold ItemWriter.maximumItem
  split_ifs <;> exact Or.inr ⟨rfl, h⟩

theorem skipped_physicalBlock (minimum maximum unitExponent : ℤ) (unit : ℕ) :
    ∀ item ∈ physicalBlock minimum maximum unitExponent unit, Skipped item := by
  simp only [physicalBlock, List.forall_mem_cons]
  exact ⟨Or.inr ⟨rfl, show 3 < 7 by norm_num⟩, skipped_maximumItem (show 4 < 7 by norm_num) _ _,
    Or.inr ⟨rfl, show 5 < 7 by norm_num⟩, Or.inr ⟨rfl, show 6 < 7 by norm_num⟩,
    List.forall_mem_nil _⟩

theorem skipped_opening (d : VariableField) : ∀ item ∈ d.opening, Skipped item := by
  unfold VariableField.opening
  refine List.forall_mem_append.mpr ⟨?_, ?_⟩
  · simp only [List.forall_mem_cons]
    exact ⟨Or.inr ⟨rfl, show 0 < 7 by norm_num⟩, Or.inl ⟨rfl, show 0 ≠ 15 by norm_num⟩,
      Or.inr ⟨rfl, show 1 < 7 by norm_num⟩, skipped_maximumItem (show 2 < 7 by norm_num) _ _,
      List.forall_mem_nil _⟩
  · split_ifs
    · exact skipped_physicalBlock _ _ _ _
    · exact List.forall_mem_nil _

theorem skipped_closing (d : VariableField) : ∀ item ∈ d.closing, Skipped item := by
  unfold VariableField.closing
  split_ifs
  · exact skipped_physicalBlock _ _ _ _
  · exact List.forall_mem_nil _

/-- The start of a collection. -/
theorem walk_collection {usagePage usage type : ℕ} (htype : type ≤ 6)
    (htop : walk.collectionDepth = 0 → type = 1 ∧ walk.topLevelCount = 0) :
    Walk Step walk (collectionItems usagePage usage type)
      { walk with
        topLevelCount := walk.topLevelCount + if walk.collectionDepth = 0 then 1 else 0
        collectionDepth := walk.collectionDepth + 1 } := by
  refine .cons (step_skipped (Or.inr ⟨rfl, show 0 < 7 by norm_num⟩)) <|
    .cons (step_skipped (Or.inl ⟨rfl, show 0 ≠ 15 by norm_num⟩)) <|
    .single ⟨show 10 ≠ 15 by norm_num, fun offset => ?_⟩
  change collectionItem _ (ShortItem.unsigned _) offset = _
  rw [ShortItem.unsigned_ofUnsigned _ _ (by omega)]
  unfold collectionItem
  rw [if_neg (by omega), if_neg (by tauto)]

/-- The end of a collection. -/
theorem walk_endCollection (hdepth : walk.collectionDepth ≠ 0) :
    Walk Step walk [.empty .main 12] { walk with collectionDepth := walk.collectionDepth - 1 } :=
  .single ⟨show 12 ≠ 15 by norm_num, fun _ => if_neg hdepth⟩

/-- The walk behind some operations of a program. -/
structure Follows (p : EmitterProgram) (depth bits : ℕ) (walk : StructureWalk) : Prop where
  inputBits : walk.inputBits = bits
  depth : walk.collectionDepth = depth
  topLevel : walk.topLevelCount = 1
  reportIdSeen : walk.reportIdSeen = p.enabled
  reportId : p.enabled = true → walk.reportId = p.reportId

variable {p : EmitterProgram} {depth bits : ℕ}

/-- **One operation.** -/
theorem walk_op (h : Follows p depth bits walk) (hdepth : 0 < depth) {op : EmitterOp}
    (hop : op.Valid) (hspan : op.SpanFits bits) (hsmall : bits + op.cost ≤ 2 ^ 24) :
    ∃ next, Walk Step walk (op.items bits) next ∧
      Follows p (op.depthFrom depth) (bits + op.bits bits) next := by
  have hopen : walk.collectionDepth ≠ 0 := by
    rw [h.depth]
    omega
  have hbits : walk.inputBits ≤ 2 ^ 24 := by
    rw [h.inputBits]
    omega
  have hinside : walk.topLevelCount + (if walk.collectionDepth = 0 then 1 else 0) = 1 := by
    rw [if_neg hopen, h.topLevel]
  cases op with
  | openLogical usagePage usage =>
    exact ⟨_, walk_collection (by norm_num) fun hzero => absurd hzero hopen,
      { h with depth := congrArg (· + 1) h.depth, topLevel := hinside }⟩
  | openPhysical usagePage usage =>
    exact ⟨_, walk_collection (by norm_num) fun hzero => absurd hzero hopen,
      { h with depth := congrArg (· + 1) h.depth, topLevel := hinside }⟩
  | close =>
    exact ⟨_, walk_endCollection hopen, { h with depth := congrArg (· - 1) h.depth }⟩
  | field d =>
    obtain ⟨hpos, hle, -⟩ := of_valueFits hop.fits
    have hvalid : fieldSpanIsValid walk.inputBits d.bitWidth 1 = true := by
      rw [fieldSpanIsValid_one, h.inputBits]
      exact decide_eq_true hspan
    refine ⟨_, ((walk_skipped (skipped_opening d)).append
      (walk_input hopen ⟨hpos, hle⟩ (by norm_num) hbits hvalid)).append
        (walk_skipped (skipped_closing d)), { h with inputBits := ?_ }⟩
    change walk.inputBits + d.bitWidth * 1 = bits + d.bitWidth
    rw [h.inputBits, Nat.mul_one]
  | range usagePage usageMinimum usageMaximum semantic =>
    obtain ⟨-, hle, hlt, -⟩ := hop
    have hopening : ∀ item ∈ [ShortItem.ofUnsigned .globalState 0 usagePage,
        .ofUnsigned .localState 1 usageMinimum, .ofUnsigned .localState 2 usageMaximum,
        .ofSigned .globalState 1 0, ItemWriter.maximumItem 2 1 0], Skipped item := by
      simp only [List.forall_mem_cons]
      exact ⟨Or.inr ⟨rfl, show 0 < 7 by norm_num⟩, Or.inl ⟨rfl, show 1 ≠ 15 by norm_num⟩,
        Or.inl ⟨rfl, show 2 ≠ 15 by norm_num⟩, Or.inr ⟨rfl, show 1 < 7 by norm_num⟩,
        skipped_maximumItem (show 2 < 7 by norm_num) _ _, List.forall_mem_nil _⟩
    refine ⟨_, (walk_skipped hopening).append (walk_input hopen (by norm_num) (by omega) hbits
      (fieldSpanIsValid_bits _ _)), { h with inputBits := ?_ }⟩
    change walk.inputBits + 1 * _ = bits + _
    rw [h.inputBits, Nat.one_mul]
    rfl
  | pad =>
    have hlt : padding bits < 8 := Nat.mod_lt _ (by norm_num)
    change ∃ next, Walk Step walk (if padding bits = 0 then [] else _) next ∧
      Follows p depth (bits + padding bits) next
    split_ifs with hzero
    · exact ⟨walk, .nil walk, by rwa [hzero]⟩
    · have hvalid : fieldSpanIsValid walk.inputBits (padding bits) 1 = true := by
        rw [fieldSpanIsValid_one]
        exact decide_eq_true (by omega)
      refine ⟨_, walk_input hopen (by omega) (by norm_num) hbits hvalid, { h with inputBits := ?_ }⟩
      change walk.inputBits + padding bits * 1 = bits + padding bits
      rw [h.inputBits, Nat.mul_one]

/-- **A sequence of operations.** -/
theorem walk_body {ops : List EmitterOp} {last : ℕ} (h : Follows p depth bits walk)
    (hdepth : 0 < depth) (hnests : BodyNests depth ops last) (hops : ∀ op ∈ ops, op.Valid)
    (hspan : BodySpansFit bits ops) (hsmall : bits + (ops.map EmitterOp.cost).sum ≤ 2 ^ 24) :
    ∃ next, Walk Step walk (bodyItems bits ops) next ∧
      Follows p last (bodyBits bits ops) next := by
  induction ops generalizing depth bits walk with
  | nil =>
    obtain rfl : depth = last := hnests
    exact ⟨walk, .nil walk, h⟩
  | cons op ops ih =>
    obtain ⟨hop, hops⟩ := List.forall_mem_cons.mp hops
    rw [List.map_cons, List.sum_cons] at hsmall
    have hbits := op.bits_le_cost bits
    obtain ⟨next, hwalk, hnext⟩ := walk_op h hdepth hop hspan.1 (by omega)
    obtain ⟨next', hwalk', hnext'⟩ := ih hnext (op.depthFrom_pos hnests.1 hdepth) hnests.2 hops
      hspan.2 (by omega)
    exact ⟨next', hwalk.append hwalk', hnext'⟩

/-- The declaration of the Report ID. -/
theorem walk_reportId (hp : p.Valid) (hfresh : walk.reportIdSeen = false)
    (hdata : walk.dataMainSeen = false) :
    ∃ next, Walk Step walk
        (if p.enabled then [.ofUnsigned .globalState 8 p.reportId] else []) next ∧
      next.inputBits = walk.inputBits ∧ next.featureBits = walk.featureBits ∧
        next.collectionDepth = walk.collectionDepth ∧ next.topLevelCount = walk.topLevelCount ∧
          next.reportIdSeen = p.enabled ∧ (p.enabled = true → next.reportId = p.reportId) := by
  cases henabled : p.enabled with
  | false => exact ⟨walk, .nil walk, rfl, rfl, rfl, rfl, hfresh, nofun⟩
  | true =>
    have hne := hp.reportId_ne henabled
    have hlt := hp.reportId_lt
    refine ⟨{ walk with reportId := p.reportId, reportIdSeen := true },
      .single ⟨show 8 ≠ 15 by norm_num, fun offset => ?_⟩, rfl, rfl, rfl, rfl, rfl, fun _ => rfl⟩
    change globalItem walk 8 (ShortItem.unsigned _) offset = _
    rw [ShortItem.unsigned_ofUnsigned _ _ (by omega)]
    unfold globalItem
    rw [if_neg (by norm_num), if_pos rfl, if_neg (by simp [hfresh, hdata]; omega)]

/-- The Feature item in front of the Input items. -/
theorem walk_feature (h : Follows p depth bits walk) (hdepth : 0 < depth)
    (hfeatures : walk.featureBits = 0) {f : StaticFeature} (hf : f.Valid) :
    ∃ next, Walk Step walk f.items next ∧ Follows p depth bits next := by
  have hopen : walk.collectionDepth ≠ 0 := by
    rw [h.depth]
    omega
  obtain ⟨hpos, hle⟩ := hf.width
  have hspan : fieldSpanIsValid 0 f.bitWidth 1 = true := by
    rw [fieldSpanIsValid_one]
    exact decide_eq_true (by omega)
  refine ⟨{ walk with
      reportSize := f.bitWidth
      reportCount := 1
      dataMainSeen := true
      featureBits := f.bitWidth },
    .cons (step_skipped (Or.inr ⟨rfl, show 0 < 7 by norm_num⟩)) <|
    .cons (step_skipped (Or.inl ⟨rfl, show 0 ≠ 15 by norm_num⟩)) <|
    .cons (step_skipped (Or.inr ⟨rfl, show 1 < 7 by norm_num⟩)) <|
    .cons (step_skipped (skipped_maximumItem (show 2 < 7 by norm_num) _ _)) <|
    .cons (step_reportSize (by omega)) <| .cons (step_reportCount (by norm_num)) <|
    .single ⟨show 11 ≠ 15 by norm_num, fun offset => ?_⟩, { h with }⟩
  change dataItem _ 11 offset = _
  unfold dataItem
  dsimp only
  rw [if_neg (by omega), if_neg (by norm_num), if_neg (by omega),
    if_neg (by simp [hfeatures, hspan]), if_neg (by simp [hfeatures]; omega),
    if_neg (by norm_num), hfeatures, if_neg (by norm_num), Nat.zero_add, Nat.mul_one]

/-- **The items of a program** are walked to their end. -/
theorem walk_program (hp : p.Valid) (hspan : p.SpansFit) :
    ∃ next, Walk Step {} p.items next ∧ Follows p 0 (bodyBits 0 p.body) next := by
  have hcollection : Walk Step {} (collectionItems p.usagePage p.usage 0x01)
      { topLevelCount := 1, collectionDepth := 1 } :=
    walk_collection (show 0x01 ≤ 6 by norm_num) fun _ => ⟨rfl, rfl⟩
  obtain ⟨opened, hopened, hinput, hfeature, hdepth, htop, hseen, hid⟩ :
      ∃ next, Walk Step { topLevelCount := 1, collectionDepth := 1 } _ next ∧ _ :=
    walk_reportId hp rfl rfl
  have hstart : Follows p 1 0 opened := ⟨hinput, hdepth, htop, hseen, hid⟩
  obtain ⟨ready, hready, hfollows⟩ : ∃ next,
      Walk Step opened ((p.feature.map StaticFeature.items).getD []) next ∧
        Follows p 1 0 next := by
    cases h : p.feature with
    | none => exact ⟨opened, .nil opened, hstart⟩
    | some f => exact walk_feature hstart Nat.one_pos hfeature (hp.feature f h)
  obtain ⟨last, hlast, hbody⟩ := walk_body hfollows Nat.one_pos hp.nests hp.body hspan
    (by rw [Nat.zero_add]; exact hp.cost)
  have hopen : last.collectionDepth ≠ 0 := by
    rw [hbody.depth]
    exact Nat.one_ne_zero
  refine ⟨_, ((hcollection.append hopened).append hready).append hlast |>.append
    (walk_endCollection hopen),
    { hbody with depth := congrArg (· - 1) hbody.depth }⟩

end StructureWalk

/-! ### The last validation -/

namespace EmitterProgram

variable {p : EmitterProgram}

theorem prefixBits_cases (p : EmitterProgram) : p.prefixBits = 0 ∨ p.prefixBits = 8 := by
  unfold prefixBits
  split_ifs <;> simp

theorem bodyBits_le (bits : ℕ) (ops : List EmitterOp) :
    bodyBits bits ops ≤ bits + (ops.map EmitterOp.cost).sum := by
  induction ops generalizing bits with
  | nil => exact Nat.le_add_right _ _
  | cons op ops ih =>
    have hbits := op.bits_le_cost bits
    have hrest := ih (bits + op.bits bits)
    rw [bodyBits, List.map_cons, List.sum_cons]
    omega

theorem bodyBits_small (hp : p.Valid) : bodyBits 0 p.body ≤ 2 ^ 24 := by
  have hle := bodyBits_le 0 p.body
  have hcost := hp.cost
  omega

/-- The checks in front of the field loop. -/
theorem validateGenerated_eq (hp : p.Valid) (hfits : p.bytes.length ≤ 65535) :
    validateGenerated p.bytes p.layout =
      match validateFields p.layout.fields p.layout.prefixBits with
      | .error found => some found
      | .ok layoutBits =>
        if layoutBits > 2 ^ 64 - 1 - 7 ∨ (layoutBits + 7) / 8 ≠ p.layout.wireBytes then
          some ⟨.errInternal, "spec.layout",
            "The generated wire length does not match the generated field layout.", 0⟩
        else validateGeneratedStructure p.bytes p.layout layoutBits := by
  have hnonempty : ¬p.bytes.length = 0 := by
    unfold bytes items head collectionItems
    simp [ShortItem.bytes]
  have hid : ¬(p.layout.hasReportId = true ∧ p.layout.reportId = 0) := by
    rintro ⟨henabled, hzero⟩
    have henabled : p.enabled = true := henabled
    have hzero : (if p.enabled then p.reportId else 0) = 0 := hzero
    rw [if_pos henabled] at hzero
    exact hp.reportId_ne henabled hzero
  unfold validateGenerated
  refine (if_neg hnonempty).trans ((if_neg (by omega)).trans ((if_neg hid).trans ?_))
  cases validateFields p.layout.fields p.layout.prefixBits <;> rfl

theorem validateGenerated_of_not_spansFit (hp : p.Valid) (hfits : p.bytes.length ≤ 65535)
    (hspan : ¬p.SpansFit) : validateGenerated p.bytes p.layout = some spanIssue := by
  have hfields := (validateFields_body hp.body p.prefixBits_cases
    (by rw [Nat.zero_add]; exact hp.cost)).2 hspan
  rw [validateGenerated_eq hp hfits]
  change (match validateFields (bodyFields p.prefixBits 0 p.body) (p.prefixBits + 0) with
    | .error found => some found
    | .ok layoutBits => _) = _
  rw [hfields]

/-- **The layout and the bytes of a program** pass the last validation when its fields touch at most
four bytes each. -/
theorem validateGenerated_of_spansFit (hp : p.Valid) (hfits : p.bytes.length ≤ 65535)
    (hspan : p.SpansFit) : validateGenerated p.bytes p.layout = none := by
  have hfields := (validateFields_body hp.body p.prefixBits_cases
    (by rw [Nat.zero_add]; exact hp.cost)).1 hspan
  have hsmall := bodyBits_small hp
  have hprefixed := p.prefixBits_cases
  obtain ⟨walk, hwalk, hfollows⟩ := StructureWalk.walk_program hp hspan
  have hitems : StructureWalk.items p.bytes.length {} 0 p.bytes = .ok walk :=
    StructureWalk.items_of_walk hwalk le_rfl
  rw [validateGenerated_eq hp hfits]
  change (match validateFields (bodyFields p.prefixBits 0 p.body) (p.prefixBits + 0) with
    | .error found => some found
    | .ok layoutBits => _) = _
  rw [hfields]
  dsimp only
  have hwire : ¬(p.prefixBits + bodyBits 0 p.body > 2 ^ 64 - 1 - 7 ∨
      (p.prefixBits + bodyBits 0 p.body + 7) / 8 ≠ p.layout.wireBytes) := by
    refine not_or.mpr ⟨by omega, not_not.mpr rfl⟩
  rw [if_neg hwire]
  unfold validateGeneratedStructure
  rw [hitems]
  dsimp only
  have hidentity : ¬(walk.reportIdSeen ≠ p.layout.hasReportId ∨
      walk.reportIdSeen = true ∧ walk.reportId ≠ p.layout.reportId) := by
    rw [hfollows.reportIdSeen]
    refine not_or.mpr ⟨not_not.mpr rfl, fun h => h.2 ?_⟩
    rw [hfollows.reportId h.1]
    exact (if_pos h.1).symm
  have hprefixBits : (if walk.reportIdSeen = true then 8 else 0) = p.prefixBits := by
    rw [hfollows.reportIdSeen]
    rfl
  rw [if_neg (by rw [hfollows.depth, hfollows.topLevel]; simp), if_neg hidentity, hprefixBits,
    hfollows.inputBits, if_neg (by omega)]

end EmitterProgram

end LibaoaHid

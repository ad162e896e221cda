import LibaoaHid.Hid.FieldSpans
import LibaoaHid.Hid.Items
import Mathlib.Algebra.Order.BigOperators.Group.List
import Mathlib.Data.List.Nodup
import Mathlib.Data.List.Perm.Subperm
import Mathlib.Data.Int.Bitwise

/-!
# Accepted raw descriptors are well formed

When `validate_raw` accepts a descriptor, its bytes are a sequence of short items that has a
reading by the rules of HID 1.11, and what the reading declares satisfies every constraint that the
parser is there for. The parser and the reading are walked side by side: after every item the
parser's state is that of the reading, in the representation of the source.

The extents are kept as 32-bit words. A Maximum that was read in front of a change of the sign of
the Minimum therefore counts with the sign of the new Minimum.

## Main definitions

* `wordMaximum`, `RangeFits`: the extents of a data Input.
* `RawParser.Agrees`: the parser and the reading have the same state.
* `WellFormedRaw`: what a reading of an accepted descriptor satisfies.

## Main results

* `RawParser.Agrees.shortItem`, `RawParser.Agrees.items`: one item, and a whole descriptor.
* `validateRaw_wellFormed`.
-/

namespace LibaoaHid

open Hid

/-! ### Extents -/

/-- A Maximum as a 32-bit word, read with the sign of the Minimum. -/
def wordMaximum (minimum maximum : ℤ) : ℤ :=
  if minimum < 0 then maximum.bmod (2 ^ 32) else maximum % 2 ^ 32

/-- The range is ordered, and a field of the width represents it. -/
def RangeFits (minimum maximum : ℤ) (width : ℕ) : Prop :=
  minimum ≤ maximum ∧
    if minimum < 0 then -2 ^ (width - 1) ≤ minimum ∧ maximum ≤ 2 ^ (width - 1) - 1
    else maximum ≤ 2 ^ width - 1

theorem toSigned32_eq {value : ℕ} (h : value < 2 ^ 32) :
    toSigned32 value = (value : ℤ).bmod (2 ^ 32) := by
  unfold toSigned32
  rw [Int.bmod_def]
  split_ifs <;> omega

theorem toUnsigned32_bmod (value : ℤ) :
    (ItemWriter.toUnsigned32 (value.bmod (2 ^ 32)) : ℤ) = value % 2 ^ 32 := by
  unfold ItemWriter.toUnsigned32
  have := Int.emod_nonneg (value.bmod (2 ^ 32)) (show (2 : ℤ) ^ 32 ≠ 0 by norm_num)
  have hmod : value.bmod (2 ^ 32) % 2 ^ 32 = value % 2 ^ 32 := Int.bmod_emod
  rw [Int.toNat_of_nonneg this, hmod]

/-- The signed number of data bytes is a 32-bit word. -/
theorem signed_range (item : ShortItem) : -2 ^ 31 ≤ item.signed ∧ item.signed < 2 ^ 31 := by
  have hsize := item.size
  unfold ShortItem.signed
  split_ifs with hzero
  · norm_num
  · obtain ⟨hlow, hhigh⟩ := Bits.signExtend_range (by omega) (ofLittleEndian_lt item.data)
    have hle : (2 : ℤ) ^ (8 * item.data.length - 1) ≤ 2 ^ 31 :=
      pow_le_pow_right₀ (by norm_num) (by omega)
    exact ⟨(neg_le_neg hle).trans hlow, lt_of_lt_of_le hhigh hle⟩

/-- A range that the source accepts fits, as a range of 32-bit words. -/
theorem rangeFits_of_rawValueFits {minimum maximum : ℤ} {width : ℕ}
    (hmin : -2 ^ 31 ≤ minimum ∧ minimum < 2 ^ 31)
    (h : rawValueFits minimum (maximum.bmod (2 ^ 32)) width = true) :
    RangeFits minimum (wordMaximum minimum maximum) width := by
  unfold rawValueFits rawLogicalRangeIsOrdered at h
  unfold RangeFits wordMaximum
  have hmax := toUnsigned32_bmod maximum
  have hbound := Int.emod_lt_of_pos maximum (show (0 : ℤ) < 2 ^ 32 by norm_num)
  have hword : maximum.bmod (2 ^ 32) < 2 ^ 31 := by
    have := Int.bmod_lt (x := maximum) (m := 2 ^ 32) (by norm_num)
    omega
  by_cases hneg : minimum < 0
  · simp only [hneg, if_true] at h ⊢
    split_ifs at h with hwidth hwide
    · rw [hwide]
      refine ⟨by simpa using (not_or.mp (not_or.mp hwidth).2).2, hmin.1, ?_⟩
      rw [show (2 : ℤ) ^ (32 - 1) = 2 ^ 31 by norm_num]
      omega
    · simp only [decide_eq_true_eq] at h
      exact ⟨by simpa using (not_or.mp (not_or.mp hwidth).2).2, h.1, h.2⟩
  · have hself := toUnsigned32_of_nonneg (not_lt.mp hneg) (show minimum < 2 ^ 32 by omega)
    simp only [hneg, if_false] at h ⊢
    split_ifs at h with hwidth hwide
    · have hordered : ItemWriter.toUnsigned32 minimum ≤
          ItemWriter.toUnsigned32 (maximum.bmod (2 ^ 32)) := by
        simpa using (not_or.mp (not_or.mp hwidth).2).2
      rw [hwide]
      omega
    · have hordered : ItemWriter.toUnsigned32 minimum ≤
          ItemWriter.toUnsigned32 (maximum.bmod (2 ^ 32)) := by
        simpa using (not_or.mp (not_or.mp hwidth).2).2
      simp only [decide_eq_true_eq] at h
      have hpow : ((2 ^ width - 1 : ℕ) : ℤ) = 2 ^ width - 1 := by
        rw [Nat.cast_sub Nat.one_le_two_pow]
        norm_num
      omega

/-! ### Spans -/

/-- The bytes that a field touches depend on the place of its first bit in a byte. -/
theorem bytesTouched_eq (field : InputField) (hpos : 0 < field.width) :
    field.bytesTouched = (field.offset % 8 + field.width + 7) / 8 := by
  unfold InputField.bytesTouched
  omega

/-! ### The states of the walk -/

namespace RawParser

/-- The Global states agree. The parser knows of Report IDs when the table has one. -/
structure GlobalsAgree (hasReportIds : Bool) (g : Globals) (globals : Hid.Globals) : Prop where
  minimum : g.logicalMinimum = globals.logicalMinimum.getD 0
  minimum_range : -2 ^ 31 ≤ g.logicalMinimum ∧ g.logicalMinimum < 2 ^ 31
  minimumDeclared : g.logicalMinimumDeclared = globals.logicalMinimum.isSome
  maximum : g.logicalMaximum = (globals.logicalMaximum.getD 0).bmod (2 ^ 32)
  maximumDeclared : g.logicalMaximumDeclared = globals.logicalMaximum.isSome
  usagePage : g.usagePageDeclared = globals.usagePage.isSome
  reportSize : g.reportSize = globals.reportSize
  reportCount : g.reportCount = globals.reportCount
  reportId : g.reportId = globals.reportId.getD 0
  valid : ∀ id, globals.reportId = some id → id ≠ 0 ∧ id < 256
  known : globals.reportId.isSome → hasReportIds = true

/-- An Input item that the parser accepts. -/
structure AcceptedInput (d : DataItem) : Prop where
  kind : d.kind = .input
  width_pos : 0 < d.globals.reportSize
  width_le : d.globals.reportSize ≤ 32
  count_pos : 0 < d.globals.reportCount
  data : d.isConstant = false → d.globals.usagePage.isSome ∧ d.usages ≠ [] ∧
    ∃ minimum maximum, d.globals.logicalMinimum = some minimum ∧
      d.globals.logicalMaximum = some maximum ∧
      RangeFits minimum (wordMaximum minimum maximum) d.globals.reportSize

/-- The accumulators agree with the data items. -/
structure ReportsAgree (parsed : ℕ → ParsedReport) (hasReportIds sawMain : Bool)
    (data : List DataItem) : Prop where
  ids : ∀ d ∈ data, d.globals.reportId.isSome = hasReportIds ∧
    ∀ id, d.globals.reportId = some id → id ≠ 0 ∧ id < 256
  bits : ∀ k, (parsed k).bits =
    ((data.filter fun d => d.globals.reportId.getD 0 = k).map DataItem.bits).sum
  seen : ∀ k, (parsed k).seen = true ↔ ∃ d ∈ data, d.globals.reportId.getD 0 = k
  topLevel : ∀ d ∈ data,
    d.topLevel = some ((parsed (d.globals.reportId.getD 0)).topLevel + 1)
  started : data ≠ [] → hasReportIds = false → sawMain = true

/-- The parser and the reading have the same state, and every item so far was accepted. -/
structure Agrees (p : RawParser) (r : Reading) : Prop where
  globals : GlobalsAgree p.hasReportIds p.globals r.globals
  stack : List.Forall₂ (GlobalsAgree p.hasReportIds) p.globalStack r.stack
  usages : p.locals.usageCount ≠ 0 → r.locals.usages ≠ []
  delimiters : p.locals.delimiterDepth = r.locals.delimiterOpen.toNat
  depth : p.collectionDepth = r.depth
  topLevelCount : p.topLevelCount = r.topLevels.length
  applications : ∀ type ∈ r.topLevels, type = 1
  current : r.depth ≠ 0 → p.currentTopLevel + 1 = p.topLevelCount
  inputs : ∀ d ∈ r.data, AcceptedInput d
  reports : ReportsAgree p.parsed p.hasReportIds p.sawMainBeforeReportId r.data
  fields : ∀ field ∈ fieldsBehind [] r.data,
    0 < field.width ∧ field.width ≤ 32 ∧ field.bytesTouched ≤ 4

variable {p p' : RawParser} {r : Reading} {item : ShortItem} {raw : RawItem}

/-- The walk starts with equal states. -/
theorem agrees_start : Agrees {} {} where
  globals := ⟨rfl, by norm_num, rfl, rfl, rfl, rfl, rfl, rfl, rfl, by simp, by simp⟩
  stack := List.Forall₂.nil
  usages h := absurd rfl h
  delimiters := rfl
  depth := rfl
  topLevelCount := rfl
  applications := by simp
  current h := absurd rfl h
  inputs := by simp
  reports := ⟨by simp, fun _ => rfl, by simp, by simp, by simp⟩
  fields := by simp [fieldsBehind]

/-! #### Global items -/

theorem GlobalsAgree.mono {hasReportIds : Bool} {g : Globals} {globals : Hid.Globals}
    (h : GlobalsAgree hasReportIds g globals) : GlobalsAgree true g globals :=
  { h with known := fun _ => rfl }

/-- A Global item that fills the table. -/
theorem Agrees.fill (h : p.Agrees r) {g : Globals} {globals : Hid.Globals}
    (requirements : DescriptorRequirements) (hglobals : GlobalsAgree p.hasReportIds g globals) :
    Agrees { p with globals := g, requirements } { r with globals } :=
  { h with globals := hglobals }

/-- The Maximum of a 32-bit word. -/
private theorem maximum_eq (item : ShortItem) {minimum : ℤ} {declared : Option ℤ}
    (hminimum : minimum = declared.getD 0) :
    (if minimum < 0 then item.signed else toSigned32 item.unsigned) =
      (item.maximum (declared.getD 0)).bmod (2 ^ 32) := by
  unfold ShortItem.maximum
  rw [hminimum]
  split_ifs
  · have := signed_range item
    rw [Int.bmod_def]
    split_ifs <;> omega
  · exact toSigned32_eq item.unsigned_lt

theorem Agrees.globalItem (h : p.Agrees r) (htag : raw.tag = item.tag)
    (hdata : raw.data = item.data) (hitem : p.globalItem raw = .ok p') :
    ∃ r', r.globalItem item = some r' ∧ p'.Agrees r' := by
  have hg := h.globals
  unfold RawParser.globalItem at hitem
  rw [htag, hdata, unsignedValue_data, signedValue_eq] at hitem
  dsimp only at hitem
  split at hitem
  next heq =>
    split_ifs at hitem
    cases hitem
    rw [Reading.globalItem, heq]
    exact ⟨_, rfl, h.fill _ { hg with usagePage := rfl }⟩
  next heq =>
    cases hitem
    rw [Reading.globalItem, heq]
    exact ⟨_, rfl, h.fill _
      { hg with minimum := rfl, minimum_range := signed_range item, minimumDeclared := rfl }⟩
  next heq =>
    cases hitem
    rw [Reading.globalItem, heq]
    exact ⟨_, rfl, h.fill _
      { hg with maximum := maximum_eq item hg.minimum, maximumDeclared := rfl }⟩
  next heq =>
    cases hitem
    rw [Reading.globalItem, heq]
    exact ⟨_, rfl, h.fill _ { hg with }⟩
  next heq =>
    cases hitem
    rw [Reading.globalItem, heq]
    exact ⟨_, rfl, h.fill _ { hg with }⟩
  next heq =>
    split_ifs at hitem
    cases hitem
    rw [Reading.globalItem, heq]
    exact ⟨_, rfl, h.fill _ { hg with }⟩
  next heq =>
    split_ifs at hitem
    cases hitem
    rw [Reading.globalItem, heq]
    exact ⟨_, rfl, h.fill _ { hg with }⟩
  next heq =>
    cases hitem
    rw [Reading.globalItem, heq]
    exact ⟨_, rfl, h.fill _ { hg with reportSize := rfl }⟩
  next heq =>
    split_ifs at hitem with hid
    cases hitem
    rw [Reading.globalItem, heq]
    obtain ⟨hzero, hlarge, hsaw⟩ : item.unsigned ≠ 0 ∧ ¬item.unsigned > 255 ∧
        ¬p.sawMainBeforeReportId = true := by tauto
    have hinside : ¬(item.unsigned = 0 ∨ 255 < item.unsigned) := by tauto
    have hids (d : DataItem) (hd : d ∈ r.data) : d.globals.reportId.isSome = true := by
      rw [(h.reports.ids d hd).1]
      by_contra hno
      exact hsaw (h.reports.started (List.ne_nil_of_mem hd) (by simpa using hno))
    exact ⟨_, if_neg hinside,
      { h with
        globals :=
          { hg with
            reportId := rfl
            valid := fun id hid => by
              cases hid
              omega
            known := fun _ => rfl }
        stack := h.stack.imp fun _ _ => GlobalsAgree.mono
        reports :=
          { h.reports with
            ids := fun d hd => ⟨hids d hd, (h.reports.ids d hd).2⟩
            started := fun _ hfalse => by simp at hfalse } }⟩
  next heq =>
    cases hitem
    rw [Reading.globalItem, heq]
    exact ⟨_, rfl, h.fill _ { hg with reportCount := rfl }⟩
  next heq =>
    cases hitem
    rw [Reading.globalItem, heq]
    exact ⟨_, rfl, { h with stack := List.Forall₂.cons hg h.stack }⟩
  next heq =>
    rw [Reading.globalItem, heq]
    have hstack := h.stack
    cases hp : p.globalStack with
    | nil =>
      rw [hp] at hitem
      cases hitem
    | cons g stack =>
      rw [hp] at hitem hstack
      cases hr : r.stack with
      | nil =>
        rw [hr] at hstack
        cases hstack
      | cons globals rest =>
        rw [hr] at hstack
        obtain ⟨hfirst, hrest⟩ := List.forall₂_cons.mp hstack
        cases hitem
        refine ⟨{ r with globals, stack := rest }, by simp only, ?_⟩
        exact { h with globals := hfirst, stack := hrest }
  next => cases hitem

/-! #### Local items -/

/-- A Local item with a Usage. -/
private theorem Agrees.addUsageCount {count offset : ℕ} {locals : Hid.Locals} (h : p.Agrees r)
    (hitem : p.addUsageCount count offset = .ok p') (husages : locals.usages ≠ [])
    (hdelimiters : locals.delimiterOpen = r.locals.delimiterOpen) :
    p'.Agrees { r with locals } := by
  unfold RawParser.addUsageCount at hitem
  split_ifs at hitem
  cases hitem
  exact { h with usages := fun _ => husages, delimiters := hdelimiters ▸ h.delimiters }

private theorem Agrees.delimiterItem {offset : ℕ} (h : p.Agrees r)
    (hitem : p.delimiterItem item.unsigned offset = .ok p') :
    ∃ r', (if item.unsigned = 1 ∧ r.locals.delimiterOpen = false then
        some { r with locals.delimiterOpen := true }
      else if item.unsigned = 0 ∧ r.locals.delimiterOpen = true then
        some { r with locals.delimiterOpen := false }
      else none) = some r' ∧ p'.Agrees r' := by
  have hdelimiters := h.delimiters
  unfold RawParser.delimiterItem at hitem
  split_ifs at hitem with hlarge hone hdepth hdepth
  · cases hitem
    have hopen : r.locals.delimiterOpen = false := by
      cases hopen : r.locals.delimiterOpen
      · rfl
      · simp [hopen] at hdelimiters
        omega
    refine ⟨_, if_pos ⟨hone, hopen⟩, { h with delimiters := ?_ }⟩
    simp [hdelimiters, hopen]
  · cases hitem
    have hopen : r.locals.delimiterOpen = true := by
      cases hopen : r.locals.delimiterOpen
      · simp [hopen] at hdelimiters
        omega
      · rfl
    refine ⟨_, (if_neg fun hboth => hone hboth.1).trans (if_pos ⟨by omega, hopen⟩),
      { h with delimiters := ?_ }⟩
    simp [hdelimiters, hopen]

theorem Agrees.localItem (h : p.Agrees r) (htag : raw.tag = item.tag)
    (hdata : raw.data = item.data) (hitem : p.localItem raw = .ok p') :
    ∃ r', r.localItem item = some r' ∧ p'.Agrees r' := by
  unfold RawParser.localItem at hitem
  rw [htag, hdata, unsignedValue_data] at hitem
  have hlt := item.tag_lt
  unfold Reading.localItem
  split_ifs at hitem with hdelimiter hreserved hbranch husage hminimum hmaximum
  · rw [hdelimiter]
    exact h.delimiterItem hitem
  · rw [husage]
    exact ⟨_, rfl, h.addUsageCount hitem (by simp) rfl⟩
  · cases hitem
    rw [hminimum]
    exact ⟨_, rfl, { h with }⟩
  · rw [hmaximum]
    refine ⟨_, rfl, ?_⟩
    unfold RawParser.usageMaximumItem at hitem
    dsimp only at hitem
    split_ifs at hitem
    exact h.addUsageCount hitem (by simp) rfl
  · cases hitem
    obtain htag | htag | htag | htag | htag | htag : item.tag = 3 ∨ item.tag = 4 ∨ item.tag = 5 ∨
      item.tag = 7 ∨ item.tag = 8 ∨ item.tag = 9 := by omega
    all_goals
      rw [htag]
      exact ⟨_, rfl, h⟩
  -- Behind the first delimiter set the parser looks at no further alternatives.
  · cases hitem
    obtain htag | htag | htag | htag : item.tag = 0 ∨ item.tag = 1 ∨ item.tag = 2 ∨
      (item.tag = 3 ∨ item.tag = 4 ∨ item.tag = 5 ∨ item.tag = 7 ∨ item.tag = 8 ∨
        item.tag = 9) := by omega
    · rw [htag]
      exact ⟨_, rfl, { h with usages := fun _ => by simp }⟩
    · rw [htag]
      exact ⟨_, rfl, { h with }⟩
    · rw [htag]
      exact ⟨_, rfl, { h with usages := fun _ => by simp }⟩
    · rcases htag with htag | htag | htag | htag | htag | htag <;> rw [htag] <;>
        exact ⟨_, rfl, h⟩

/-! #### Input items -/

/-- What the checks of an Input item leave. -/
theorem checkInput_ok {flags offset : ℕ} (h : p.checkInput flags offset = .ok ()) :
    p.collectionDepth ≠ 0 ∧ p.globals.reportSize ≠ 0 ∧ p.globals.reportCount ≠ 0 ∧
      (p.hasReportIds = true → p.globals.reportId ≠ 0) ∧ p.globals.reportSize ≤ 32 ∧
      (flags.testBit 0 = false → p.globals.usagePageDeclared = true ∧
        p.globals.logicalMinimumDeclared = true ∧ p.globals.logicalMaximumDeclared = true ∧
        p.locals.usageCount ≠ 0 ∧
        rawValueFits p.globals.logicalMinimum p.globals.logicalMaximum p.globals.reportSize =
          true) ∧
      ((p.parsed p.globals.reportId).seen = true →
        (p.parsed p.globals.reportId).topLevel = p.currentTopLevel) := by
  obtain ⟨hplace, h⟩ := of_ite_error h
  obtain ⟨hid, h⟩ := of_ite_error h
  obtain ⟨hsize, h⟩ := of_ite_error h
  obtain ⟨-, h⟩ := of_ite_error h
  obtain ⟨-, h⟩ := of_ite_error h
  obtain ⟨-, h⟩ := of_ite_error h
  obtain ⟨-, h⟩ := of_ite_error h
  obtain ⟨hdeclared, h⟩ := of_ite_error h
  obtain ⟨hfits, h⟩ := of_ite_error h
  obtain ⟨-, h⟩ := of_ite_error h
  obtain ⟨htopLevel, -⟩ := of_ite_error h
  have hbit : flags.testBit 0 = false → ¬flags &&& 0x001 ≠ 0 := by
    intro hbit
    rw [show (0x001 : ℕ) = 2 ^ 0 by rfl, Nat.and_comm, Nat.two_pow_and, hbit]
    simp
  have hmod : p.globals.reportSize % 2 ^ 8 = p.globals.reportSize := Nat.mod_eq_of_lt (by omega)
  rw [hmod] at hfits
  simp only [not_or, not_and, Bool.not_eq_true', not_not] at hplace hid hdeclared hfits htopLevel
  refine ⟨hplace.1, hplace.2.1, hplace.2.2, hid, by omega, fun hconstant => ?_, htopLevel⟩
  obtain ⟨hpage, hminimum, hmaximum, husages⟩ := hdeclared (by simpa using hbit hconstant)
  exact ⟨by simpa using hpage, by simpa using hminimum, by simpa using hmaximum, husages,
    by simpa using hfits (by simpa using hbit hconstant)⟩

/-- What an accepted Input item does to the state. -/
theorem inputItem_ok (h : p.inputItem raw = .ok p') :
    p.checkInput (unsignedValue raw.data) raw.offset = .ok () ∧
      fieldSpanIsValid (p.parsed p.globals.reportId).bits p.globals.reportSize
        p.globals.reportCount = true ∧
      ∃ requirements fields, p' = { p with
        requirements
        parsed := Function.update p.parsed p.globals.reportId
          { seen := true
            bits := (p.parsed p.globals.reportId).bits +
              p.globals.reportSize * p.globals.reportCount
            fields
            topLevel := p.currentTopLevel } } := by
  unfold RawParser.inputItem at h
  obtain ⟨_, hcheck, h⟩ := bind_eq_ok.mp h
  obtain ⟨counted, hcounted, h⟩ := bind_eq_ok.mp h
  have hfields : ∃ requirements fields, counted = { p with
      requirements
      parsed := Function.update p.parsed p.globals.reportId
        { p.parsed p.globals.reportId with
          seen := true, topLevel := p.currentTopLevel, fields } } := by
    unfold countField at hcounted
    dsimp only at hcounted
    rw [Function.update_self] at hcounted
    split_ifs at hcounted
    · cases hcounted
      exact ⟨_, _, by rw [Function.update_idem]⟩
    · cases hcounted
      exact ⟨_, _, rfl⟩
  obtain ⟨requirements, fields, rfl⟩ := hfields
  unfold countBits at h
  dsimp only at h
  rw [Function.update_self] at h
  obtain ⟨hspan, h⟩ := of_ite_error h
  obtain ⟨-, h⟩ := of_ite_error h
  obtain ⟨-, h⟩ := of_ite_error h
  cases h
  exact ⟨hcheck, by simpa using hspan, _, fields, by rw [Function.update_idem]⟩

/-- The bits of a report are those that its accumulator has, behind its Report ID. -/
theorem ReportsAgree.bitsOf_eq {parsed : ℕ → ParsedReport} {hasReportIds sawMain : Bool}
    {data : List DataItem} (h : ReportsAgree parsed hasReportIds sawMain data)
    {reportId : Option ℕ} (hsome : reportId.isSome = hasReportIds) :
    bitsOf reportId data = prefixBits reportId + (parsed (reportId.getD 0)).bits := by
  rw [bitsOf, h.bits]
  congr 3
  refine List.filter_congr fun d hd => ?_
  obtain ⟨hids, hvalid⟩ := h.ids d hd
  rw [← hsome] at hids
  cases hd : d.globals.reportId with
  | none => cases hreport : reportId <;> simp_all
  | some id =>
    have := (hvalid id hd).1
    cases hreport : reportId <;> simp_all

/-- The fields of an item whose span the parser accepts. -/
private theorem fieldsAt_spans {d : DataItem} {start bits : ℕ} (hpos : 0 < d.globals.reportSize)
    (hle : d.globals.reportSize ≤ 32) (hstart : start % 8 = bits % 8)
    (hspan : fieldSpanIsValid bits d.globals.reportSize d.globals.reportCount = true) :
    ∀ field ∈ d.fieldsAt start, 0 < field.width ∧ field.width ≤ 32 ∧ field.bytesTouched ≤ 4 := by
  intro field hfield
  obtain ⟨i, hi, rfl⟩ := List.mem_map.mp hfield
  refine ⟨hpos, hle, ?_⟩
  rw [bytesTouched_eq _ hpos]
  have hplace : (start + i * d.globals.reportSize) % 8 =
      (bits + i * d.globals.reportSize) % 8 := by
    rw [Nat.add_mod, hstart, ← Nat.add_mod]
  change ((start + i * d.globals.reportSize) % 8 + d.globals.reportSize + 7) / 8 ≤ 4
  rw [hplace]
  have := fieldSpanIsValid_iff.mp hspan i (List.mem_range.mp hi)
  omega

/-- The accumulators behind one more data item. -/
private theorem ReportsAgree.push {parsed : ℕ → ParsedReport} {hasReportIds sawMain : Bool}
    {data : List DataItem} {d : DataItem} {report : ParsedReport}
    (h : ReportsAgree parsed hasReportIds sawMain data)
    (hids : d.globals.reportId.isSome = hasReportIds ∧
      ∀ id, d.globals.reportId = some id → id ≠ 0 ∧ id < 256)
    (hbits : report.bits = (parsed (d.globals.reportId.getD 0)).bits + d.bits)
    (hseen : report.seen = true) (htopLevel : d.topLevel = some (report.topLevel + 1))
    (hsame : (parsed (d.globals.reportId.getD 0)).seen = true →
      (parsed (d.globals.reportId.getD 0)).topLevel = report.topLevel) :
    ReportsAgree (Function.update parsed (d.globals.reportId.getD 0) report) hasReportIds
      (sawMain || !hasReportIds) (data ++ [d]) := by
  refine ⟨?_, fun k => ?_, fun k => ?_, ?_, fun _ hno => by simp [hno]⟩
  · intro other hmem
    rcases List.mem_append.mp hmem with hmem | hmem
    · exact h.ids other hmem
    · exact List.mem_singleton.mp hmem ▸ hids
  · rw [List.filter_append, List.map_append, List.sum_append, ← h.bits k]
    by_cases hk : d.globals.reportId.getD 0 = k
    · subst hk
      simp [hbits]
    · rw [Function.update_of_ne (Ne.symm hk)]
      simp [hk]
  · by_cases hk : d.globals.reportId.getD 0 = k
    · subst hk
      rw [Function.update_self]
      exact ⟨fun _ => ⟨d, by simp, rfl⟩, fun _ => hseen⟩
    · rw [Function.update_of_ne (Ne.symm hk), h.seen k]
      simp [hk]
  · intro other hmem
    rcases List.mem_append.mp hmem with hmem | hmem
    · rw [h.topLevel other hmem]
      by_cases hk : d.globals.reportId.getD 0 = other.globals.reportId.getD 0
      · rw [← hk, Function.update_self, hsame]
        rw [hk]
        exact (h.seen _).mpr ⟨other, hmem, rfl⟩
      · rw [Function.update_of_ne (Ne.symm hk)]
    · rw [List.mem_singleton.mp hmem, Function.update_self, htopLevel]

theorem Agrees.inputItem (h : p.Agrees r) (hdata : raw.data = item.data)
    (hitem : { p with
      sawMainBeforeReportId := p.sawMainBeforeReportId || !p.hasReportIds }.inputItem raw =
        .ok p') :
    { p' with locals := {} }.Agrees { r.dataItem .input item.unsigned with locals := {} } := by
  obtain ⟨hcheck, hspan, requirements, fields, rfl⟩ := inputItem_ok hitem
  rw [hdata, unsignedValue_data] at hcheck
  obtain ⟨hdepth, hsize, hcount, hid, hwide, hconstant, htopLevel⟩ := checkInput_ok hcheck
  have hg := h.globals
  dsimp only at hspan hdepth hsize hcount hid hwide hconstant htopLevel
  rw [hg.reportSize] at hsize hwide
  rw [hg.reportCount] at hcount
  rw [hg.reportSize, hg.reportCount, hg.reportId] at hspan
  rw [hg.reportId] at hid htopLevel
  rw [h.depth] at hdepth
  have hids : r.globals.reportId.isSome = p.hasReportIds := by
    cases hreport : r.globals.reportId with
    | none =>
      cases hhas : p.hasReportIds with
      | false => rfl
      | true =>
        have := hid hhas
        simp [hreport] at this
    | some id => exact (hg.known (by simp [hreport])).symm
  have hcurrent := h.current hdepth
  refine
    { h with
      usages := fun hne => absurd rfl hne
      delimiters := rfl
      inputs := ?_
      reports := ?_
      fields := ?_ }
  · intro d hd
    rcases List.mem_append.mp hd with hd | hd
    · exact h.inputs d hd
    · rw [List.mem_singleton.mp hd]
      refine ⟨rfl, Nat.pos_of_ne_zero hsize, hwide, Nat.pos_of_ne_zero hcount, fun hdata => ?_⟩
      obtain ⟨hpage, hminimum, hmaximum, husages, hfits⟩ := hconstant hdata
      rw [hg.usagePage] at hpage
      rw [hg.minimumDeclared] at hminimum
      rw [hg.maximumDeclared] at hmaximum
      obtain ⟨minimum, hminimum⟩ := Option.isSome_iff_exists.mp hminimum
      obtain ⟨maximum, hmaximum⟩ := Option.isSome_iff_exists.mp hmaximum
      have hrange := hg.minimum_range
      rw [hg.minimum, hminimum, hg.maximum, hmaximum, hg.reportSize] at hfits
      rw [hg.minimum, hminimum] at hrange
      exact ⟨hpage, h.usages husages, minimum, maximum, hminimum, hmaximum,
        rangeFits_of_rawValueFits hrange hfits⟩
  · rw [hg.reportId, hg.reportSize, hg.reportCount]
    refine h.reports.push (d :=
      { kind := .input
        flags := item.unsigned
        globals := r.globals
        usages := r.locals.usages
        topLevel := if r.depth = 0 then none else some r.topLevels.length })
      ⟨hids, hg.valid⟩ rfl rfl ?_ htopLevel
    rw [if_neg hdepth, ← h.topLevelCount, ← hcurrent]
  · intro field hfield
    change field ∈ fieldsBehind [] (r.data ++ [_]) at hfield
    rw [fieldsBehind_append, List.nil_append] at hfield
    rcases List.mem_append.mp hfield with hfield | hfield
    · exact h.fields field hfield
    · rw [fieldsBehind, fieldsBehind, List.append_nil] at hfield
      refine fieldsAt_spans (Nat.pos_of_ne_zero hsize) hwide ?_ hspan field hfield
      dsimp only
      rw [h.reports.bitsOf_eq hids, prefixBits]
      split_ifs <;> omega

/-! #### Main items and the walk -/

/-- A Main item without the observation of its Usages and the check of the delimiters. -/
private theorem Agrees.taggedMainItem (h : p.Agrees r) (htag : raw.tag = item.tag)
    (hdata : raw.data = item.data) (hitem : p.taggedMainItem raw = .ok p') :
    ∃ r', r.mainItem item = some r' ∧
      { p' with locals := {} }.Agrees { r' with locals := {} } := by
  have hdepth := h.depth
  unfold RawParser.taggedMainItem at hitem
  rw [htag, hdata, unsignedValue_data] at hitem
  unfold Reading.mainItem
  split_ifs at hitem with hcollection hend hmain
  · rw [hcollection]
    unfold collectionItem at hitem
    obtain ⟨-, hitem⟩ := of_ite_error hitem
    obtain ⟨-, hitem⟩ := of_ite_error hitem
    obtain ⟨-, hitem⟩ := of_ite_error hitem
    split_ifs at hitem with hzero htype
    · cases hitem
      have hzero : r.depth = 0 := hdepth.symm.trans hzero
      refine ⟨_, rfl,
        { h with
          usages := fun hne => absurd rfl hne
          delimiters := rfl
          depth := congrArg (· + 1) hdepth
          topLevelCount := ?_
          applications := ?_
          current := fun _ => rfl }⟩
      · rw [if_pos hzero, List.length_append, ← h.topLevelCount]
        rfl
      · rw [if_pos hzero]
        intro type hmem
        rcases List.mem_append.mp hmem with hmem | hmem
        · exact h.applications type hmem
        · exact (List.mem_singleton.mp hmem).trans (not_not.mp htype)
    · cases hitem
      have hzero : r.depth ≠ 0 := fun hno => hzero (hdepth.trans hno)
      refine ⟨_, rfl,
        { h with
          usages := fun hne => absurd rfl hne
          delimiters := rfl
          depth := congrArg (· + 1) hdepth
          topLevelCount := ?_
          applications := ?_
          current := fun _ => h.current hzero }⟩
      · rw [if_neg hzero]
        exact h.topLevelCount
      · rw [if_neg hzero]
        exact h.applications
  · rw [hend]
    unfold endCollectionItem at hitem
    obtain ⟨hzero, hitem⟩ := of_ite_error hitem
    cases hitem
    have hzero : r.depth ≠ 0 := fun hno => hzero (hdepth.trans hno)
    refine ⟨_, if_neg hzero,
      { h with
        usages := fun hne => absurd rfl hne
        delimiters := rfl
        depth := congrArg (· - 1) hdepth
        current := fun hne => ?_ }⟩
    dsimp only at hne ⊢
    rw [hdepth, if_neg hne]
    exact h.current hzero
  · unfold dataItem at hitem
    obtain ⟨htag', hitem⟩ := of_ite_error hitem
    rw [← htag, not_not.mp htag']
    exact ⟨_, rfl, h.inputItem hdata hitem⟩

theorem Agrees.mainItem (h : p.Agrees r) (htag : raw.tag = item.tag) (hdata : raw.data = item.data)
    (hitem : p.mainItem raw = .ok p') :
    r.locals.delimiterOpen = false ∧
      ∃ r', (r.mainItem item).map (fun next => { next with locals := {} }) = some r' ∧
        p'.Agrees r' := by
  unfold RawParser.mainItem at hitem
  obtain ⟨hclosed, hitem⟩ := of_ite_error hitem
  have hopen : r.locals.delimiterOpen = false := by
    cases hopen : r.locals.delimiterOpen
    · rfl
    · have hdelimiters := h.delimiters
      rw [hopen] at hdelimiters
      exact absurd (not_not.mp hclosed) (by simp [RawParser.observeUsages, hdelimiters])
  obtain ⟨next, hnext, rfl⟩ := map_eq_ok.mp hitem
  have hobserved : (p.observeUsages p.locals.usageCount).Agrees r := { h with }
  obtain ⟨r', hr', hagrees⟩ := hobserved.taggedMainItem htag hdata hnext
  exact ⟨hopen, _, by rw [hr']; rfl, hagrees⟩

/-- **One item.** What the parser accepts has a reading, and leaves equal states. -/
theorem Agrees.shortItem {offset : ℕ} (h : p.Agrees r)
    (hitem : p.item item.type.code { tag := item.tag, data := item.data, offset } = .ok p') :
    ∃ r', r.step item = some r' ∧ p'.Agrees r' := by
  unfold RawParser.item at hitem
  unfold Reading.step
  cases htype : item.type with
  | main =>
    rw [htype] at hitem
    have htag : (item.tag : ℕ) = item.tag := rfl
    obtain ⟨hopen, r', hr', hagrees⟩ := h.mainItem htag rfl hitem
    exact ⟨r', by rw [hopen]; exact hr', hagrees⟩
  | globalState =>
    rw [htype] at hitem
    exact h.globalItem (show (item.tag : ℕ) = item.tag from rfl) rfl hitem
  | localState =>
    rw [htype] at hitem
    exact h.localItem (show (item.tag : ℕ) = item.tag from rfl) rfl hitem

/-- **A whole descriptor.** The bytes that the parser accepts are items with a reading. -/
theorem Agrees.items : (turns : ℕ) → {p : RawParser} → {r : Reading} → {offset : ℕ} →
    {descriptor : List UInt8} → p.Agrees r → descriptor.length ≤ turns →
      RawParser.items turns p offset descriptor = .ok p' →
        ∃ items r', descriptor = encodeItems items ∧ (∀ item ∈ items, item.tag ≠ 15) ∧
          readItems r items = some r' ∧ p'.Agrees r'
  | turns, p, r, offset, [], h, _, hitems => by
    have hsame : p = p' := by
      cases turns <;> exact Except.ok.inj hitems
    exact ⟨[], r, rfl, by simp, rfl, hsame ▸ h⟩
  | 0, p, r, offset, byte :: rest, h, hturns, hitems => by simp at hturns
  | turns + 1, p, r, offset, byte :: rest, h, hturns, hitems => by
    have hbyte := byte.toNat_lt
    rw [RawParser.items] at hitems
    rw [size_eq_sizeOfCode, prefix_type, prefix_tag hbyte] at hitems
    obtain ⟨hlong, hitems⟩ := of_ite_error hitems
    obtain ⟨hsize, hitems⟩ := of_ite_error hitems
    obtain ⟨next, hnext, hitems⟩ := bind_eq_ok.mp hitems
    have htype : byte.toNat / 4 % 4 < 3 := by
      by_contra hreserved
      have : byte.toNat / 4 % 4 = 3 := by omega
      rw [this] at hnext
      cases hnext
    obtain ⟨item, hcode, htag, hdata, hbytes⟩ :=
      ShortItem.exists_of_head (not_lt.mp hsize) htype
    rw [← hcode, ← htag, ← hdata] at hnext
    obtain ⟨r₁, hr₁, hagrees⟩ := h.shortItem hnext
    obtain ⟨items, r', hrest, htags, hreading, hlast⟩ := Agrees.items turns hagrees (by
      rw [List.length_cons] at hturns
      rw [List.length_drop]
      omega) hitems
    refine ⟨item :: items, r', ?_, ?_, ?_, hlast⟩
    · rw [encodeItems_cons, ← hrest, hbytes]
    · intro other hmem
      rcases List.mem_cons.mp hmem with rfl | hmem
      · rw [htag]
        exact fun hno => hlong ((prefix_long hbyte).mpr hno)
      · exact htags other hmem
    · rw [readItems_cons, hr₁]
      exact hreading

end RawParser

/-! ### The report table -/

/-- The Report ID of an entry, if it has one. -/
def RawReport.identity (entry : RawReport) : Option ℕ :=
  if entry.hasReportId = 1 then some entry.reportId.toNat else none

/-- An entry has an ID that is not zero, or no ID and the number zero. -/
def RawReport.Canonical (entry : RawReport) : Prop :=
  entry.hasReportId = 1 ∧ entry.reportId.toNat ≠ 0 ∨
    entry.hasReportId = 0 ∧ entry.reportId.toNat = 0

/-- The identity of a canonical entry, from its number. -/
theorem RawReport.Canonical.identity_eq {entry : RawReport} (h : entry.Canonical)
    {reportId : Option ℕ} (hzero : reportId ≠ some 0)
    (hid : entry.reportId.toNat = reportId.getD 0) :
    entry.identity = reportId := by
  unfold identity
  rcases h with ⟨hhas, hne⟩ | ⟨hhas, heq⟩
  · rw [hhas, if_pos rfl]
    cases reportId with
    | none => exact absurd hid hne
    | some id => exact congrArg some hid
  · rw [hhas]
    cases reportId with
    | none => rfl
    | some id => exact absurd (congrArg some (hid.symm.trans heq)) hzero

/-- Canonical entries with one number have one flag. -/
theorem RawReport.Canonical.hasReportId_eq {entry other : RawReport} (h : entry.Canonical)
    (hother : other.Canonical) (hid : entry.reportId.toNat = other.reportId.toNat) :
    entry.hasReportId = other.hasReportId := by
  rcases h with ⟨hhas, hne⟩ | ⟨hhas, heq⟩ <;> rcases hother with ⟨hhas', hne'⟩ | ⟨hhas', heq'⟩
  · rw [hhas, hhas']
  · exact absurd (hid.trans heq') hne
  · exact absurd (hid.symm.trans heq) hne'
  · rw [hhas, hhas']

/-- An entry that passes its checks is canonical, and its number is new. -/
private theorem of_reportEntryIssue {previous : List RawReport} {entry : RawReport}
    (h : reportEntryIssue previous entry = none)
    (hcanonical : ∀ other ∈ previous, other.Canonical) :
    entry.Canonical ∧ ∀ other ∈ previous, other.reportId.toNat ≠ entry.reportId.toNat := by
  unfold reportEntryIssue at h
  split_ifs at h with hform hduplicate
  simp only [not_or, not_and] at hform
  obtain ⟨-, hhas, hone, hzero, -⟩ := hform
  have hle : entry.hasReportId.toNat ≤ 1 := by
    rw [gt_iff_lt, UInt8.lt_iff_toNat_lt] at hhas
    exact not_lt.mp hhas
  have hself : entry.Canonical := by
    rcases Nat.le_one_iff_eq_zero_or_eq_one.mp hle with hflag | hflag
    · have hflag : entry.hasReportId = 0 := UInt8.toNat_inj.mp hflag
      exact Or.inr ⟨hflag, by rw [not_not.mp (hzero hflag)]; rfl⟩
    · have hflag : entry.hasReportId = 1 := UInt8.toNat_inj.mp hflag
      exact Or.inl ⟨hflag, fun hno => hone hflag (UInt8.toNat_inj.mp hno)⟩
  refine ⟨hself, fun other hmem heq => hduplicate (List.any_eq_true.mpr ⟨other, hmem, ?_⟩)⟩
  rw [(hcanonical other hmem).hasReportId_eq hself heq, UInt8.toNat_inj.mp heq]
  simp

/-- The entries of an accepted table are canonical, and have different numbers. -/
theorem of_reportEntries {previous rest : List RawReport} (h : reportEntries previous rest = none)
    (hcanonical : ∀ entry ∈ previous, entry.Canonical)
    (hnodup : (previous.map fun entry => entry.reportId.toNat).Nodup) :
    (∀ entry ∈ previous ++ rest, entry.Canonical) ∧
      ((previous ++ rest).map fun entry => entry.reportId.toNat).Nodup := by
  induction rest generalizing previous with
  | nil =>
    rw [List.append_nil]
    exact ⟨hcanonical, hnodup⟩
  | cons entry rest ih =>
    rw [reportEntries] at h
    split at h
    next => cases h
    next hentry =>
      obtain ⟨hself, hnew⟩ := of_reportEntryIssue hentry hcanonical
      rw [List.append_cons]
      refine ih h (fun other hmem => ?_) ?_
      · rcases List.mem_append.mp hmem with hmem | hmem
        · exact hcanonical other hmem
        · exact List.mem_singleton.mp hmem ▸ hself
      · rw [List.map_append]
        refine List.nodup_append.mpr ⟨hnodup, by simp, fun id hold id' hnewId => ?_⟩
        obtain ⟨other, hmem, rfl⟩ := List.mem_map.mp hold
        exact List.mem_singleton.mp hnewId ▸ hnew other hmem

/-- The identity of a canonical entry is a function of its number. -/
theorem RawReport.Canonical.identity_of_number {entry : RawReport} (h : entry.Canonical) :
    entry.identity = if entry.reportId.toNat = 0 then none else some entry.reportId.toNat := by
  unfold identity
  rcases h with ⟨hhas, hne⟩ | ⟨hhas, heq⟩
  · rw [if_pos hhas, if_neg hne]
  · rw [if_pos heq, hhas, if_neg (by simp)]

namespace RawParser

variable {p : RawParser} {reports : List RawReport} {masks masks' : List UInt8}

/-- The entry of a report. -/
structure Describes (p : RawParser) (id : ℕ) (entry : RawReport) : Prop where
  number : entry.reportId.toNat = id
  hasReportId : entry.hasReportId = if p.hasReportIds then 1 else 0
  wireLength : entry.wireLength.toNat =
    ((p.parsed id).bits + 7) / 8 + if p.hasReportIds then 1 else 0

/-- What one turn of the comparison finds, and the mask that it stores. -/
private theorem matchReport_ok {id : ℕ} (h : p.matchReport reports masks id = .ok masks') :
    (p.parsed id).seen = false ∧ masks' = masks ∨
      (p.parsed id).seen = true ∧ ∃ index entry, reports[index]? = some entry ∧
        p.Describes id entry ∧ masks' = masks.set index (trailingMask (p.parsed id).bits) := by
  unfold matchReport at h
  dsimp only at h
  cases hseen : (p.parsed id).seen with
  | false =>
    rw [hseen] at h
    exact Or.inl ⟨rfl, (Except.ok.inj h).symm⟩
  | true =>
    rw [hseen] at h
    obtain ⟨-, h⟩ := of_ite_error h
    obtain ⟨-, h⟩ := of_ite_error h
    refine Or.inr ⟨rfl, ?_⟩
    split at h
    next => cases h
    next index hindex =>
      obtain ⟨hlt, hentry, -⟩ := List.findIdx?_eq_some_iff_getElem.mp hindex
      obtain ⟨hlength, h⟩ := of_ite_error h
      simp only [decide_eq_true_eq] at hentry
      rw [List.getElem?_eq_getElem hlt, Option.map_some, not_not, Option.some_inj] at hlength
      exact ⟨index, reports[index], List.getElem?_eq_getElem hlt,
        ⟨hentry.1, hentry.2, hlength⟩, (Except.ok.inj h).symm⟩

/-- All turns of the comparison: every report that was seen has its entry, and the masks of these
entries are stored. -/
private theorem matchReports_ok {ids : List ℕ}
    (hnodup : (reports.map fun entry => entry.reportId.toNat).Nodup)
    (h : ids.foldlM (p.matchReport reports) masks = .ok masks') :
    masks'.length = masks.length ∧
      (∀ id ∈ ids, (p.parsed id).seen = true → ∃ entry ∈ reports, p.Describes id entry) ∧
      ∀ index entry, reports[index]? = some entry → index < masks.length →
        masks'[index]? =
          if entry.reportId.toNat ∈ ids ∧ (p.parsed entry.reportId.toNat).seen = true then
            some (trailingMask (p.parsed entry.reportId.toNat).bits)
          else masks[index]? := by
  induction ids generalizing masks with
  | nil =>
    cases h
    exact ⟨rfl, by simp, by simp⟩
  | cons id ids ih =>
    rw [List.foldlM_cons] at h
    obtain ⟨next, hnext, h⟩ := bind_eq_ok.mp h
    obtain ⟨hlength, hfound, hmasks⟩ := ih h
    rcases matchReport_ok hnext with ⟨hseen, rfl⟩ | ⟨hseen, place, found, hplace, hdescribes, rfl⟩
    · refine ⟨hlength, fun other hmem hother => ?_, fun index entry hentry hlt => ?_⟩
      · rcases List.mem_cons.mp hmem with rfl | hmem
        · rw [hseen] at hother
          cases hother
        · exact hfound other hmem hother
      · rw [hmasks index entry hentry hlt]
        refine if_congr ⟨fun h => ⟨List.mem_cons_of_mem _ h.1, h.2⟩, fun h => ⟨?_, h.2⟩⟩ rfl rfl
        rcases List.mem_cons.mp h.1 with heq | hmem
        · rw [heq, hseen] at h
          cases h.2
        · exact hmem
    · rw [List.length_set] at hlength hmasks
      refine ⟨hlength, fun other hmem hother => ?_, fun index entry hentry hlt => ?_⟩
      · rcases List.mem_cons.mp hmem with rfl | hmem
        · exact ⟨found, List.mem_of_getElem? hplace, hdescribes⟩
        · exact hfound other hmem hother
      · rw [hmasks index entry hentry hlt, List.getElem?_set]
        by_cases heq : entry.reportId.toNat = id
        · have hsame : place = index := by
            refine (List.getElem?_inj ?_ hnodup).mp ?_
            · rw [List.length_map]
              exact (List.getElem?_eq_some_iff.mp hplace).1
            · rw [List.getElem?_map, List.getElem?_map, hplace, hentry, Option.map_some,
                Option.map_some, hdescribes.number, heq]
          rw [← hsame] at hlt
          rw [heq, if_pos hsame, if_pos hlt, if_pos (⟨List.mem_cons_self, hseen⟩ : _ ∧ _)]
          exact ite_self _
        · have hother : place ≠ index := by
            rintro rfl
            exact heq (Option.some_inj.mp (hentry.symm.trans hplace) ▸ hdescribes.number)
          rw [if_neg hother]
          simp only [List.mem_cons, heq, false_or]

/-- **The table.** The reports that were seen and the entries are in bijection by their numbers,
and every mask is stored. -/
private theorem matchReportTable_ok
    (hnodup : (reports.map fun entry => entry.reportId.toNat).Nodup)
    (h : p.matchReportTable reports masks = .ok masks') :
    (∀ id < 256, (p.parsed id).seen = true → ∃ entry ∈ reports, p.Describes id entry) ∧
      (∀ entry ∈ reports, (p.parsed entry.reportId.toNat).seen = true ∧
        p.Describes entry.reportId.toNat entry) ∧
      masks'.length = masks.length ∧
      ∀ index entry, reports[index]? = some entry → index < masks.length →
        masks'[index]? = some (trailingMask (p.parsed entry.reportId.toNat).bits) := by
  obtain ⟨stored, hstored, h⟩ := bind_eq_ok.mp h
  obtain ⟨hcount, h⟩ := of_ite_error h
  cases h
  obtain ⟨hlength, hfound, hmasks⟩ := matchReports_ok hnodup hstored
  have hrange (id : ℕ) (hid : id < 256) : id ∈ List.range 256 := List.mem_range.mpr hid
  -- As many reports as entries were seen, so no entry is left over.
  let seen := (List.range 256).filter fun id => (p.parsed id).seen
  have hsubset : seen ⊆ reports.map fun entry => entry.reportId.toNat := by
    intro id hid
    obtain ⟨hmem, hseen⟩ := List.mem_filter.mp hid
    obtain ⟨entry, hentry, hdescribes⟩ := hfound id hmem hseen
    exact List.mem_map.mpr ⟨entry, hentry, hdescribes.number⟩
  have hperm : seen.Perm (reports.map fun entry => entry.reportId.toNat) := by
    refine (List.Nodup.subperm (List.nodup_range.filter _) hsubset).perm_of_length_le ?_
    rw [List.length_map, ← List.countP_eq_length_filter, not_not.mp hcount]
  have hseen (entry : RawReport) (hentry : entry ∈ reports) :
      entry.reportId.toNat ∈ List.range 256 ∧ (p.parsed entry.reportId.toNat).seen = true :=
    List.mem_filter.mp (hperm.mem_iff.mpr (List.mem_map.mpr ⟨entry, hentry, rfl⟩))
  refine ⟨fun id hid => hfound id (hrange id hid), fun entry hentry => ?_, hlength,
    fun index entry hentry hlt => ?_⟩
  · obtain ⟨hmem, hsaw⟩ := hseen entry hentry
    obtain ⟨other, hother, hdescribes⟩ := hfound _ hmem hsaw
    exact ⟨hsaw, List.inj_on_of_nodup_map hnodup hother hentry hdescribes.number ▸ hdescribes⟩
  · rw [hmasks index entry hentry hlt, if_pos (hseen entry (List.mem_of_getElem? hentry))]

end RawParser

/-! ### Well-formed descriptors -/

/-- **What an accepted descriptor declares.** The collections nest and are Applications at the top,
all data is Input data whose fields are at most 32 bits wide and touch at most four bytes, and the
table has one entry for each report, with its length. -/
structure WellFormedRaw (reports : List RawReport) (r : Reading) : Prop where
  balanced : r.Balanced
  topLevels : r.topLevels ≠ [] ∧ ∀ type ∈ r.topLevels, type = 1
  inputs : ∀ d ∈ r.data, RawParser.AcceptedInput d
  fields : ∀ field ∈ r.fields, 0 < field.width ∧ field.width ≤ 32 ∧ field.bytesTouched ≤ 4
  reportIds : (∀ d ∈ r.data, d.globals.reportId = none) ∨
    ∀ d ∈ r.data, ∃ id, d.globals.reportId = some id ∧ id ≠ 0 ∧ id < 256
  inside : ∀ d ∈ r.data, d.topLevel ≠ none ∧
    ∀ other ∈ r.data, other.globals.reportId = d.globals.reportId → other.topLevel = d.topLevel
  distinct : (reports.map RawReport.identity).Nodup
  described : ∀ id, id ∈ reports.map RawReport.identity ↔ ∃ d ∈ r.data, d.globals.reportId = id
  lengths : ∀ entry ∈ reports,
    entry.wireLength.toNat = (bitsOf entry.identity r.data + 7) / 8

/-- The mask has the bits of the last byte that the fields of the report use. -/
def IsTrailingMask (entry : RawReport) (r : Reading) (mask : UInt8) : Prop :=
  ∀ bit < 8, mask.toNat.testBit bit =
    decide (8 * (entry.wireLength.toNat - 1) + bit < bitsOf entry.identity r.data)

/-- The stored mask of a report with some bits. -/
theorem testBit_trailingMask {bits bit : ℕ} (hbit : bit < 8) :
    (RawParser.trailingMask bits).toNat.testBit bit = decide (bits % 8 = 0 ∨ bit < bits % 8) := by
  unfold RawParser.trailingMask
  dsimp only
  rw [show (7 : ℕ) = 2 ^ 3 - 1 by norm_num, Nat.and_two_pow_sub_one_eq_mod,
    show 2 ^ 3 = 8 by norm_num]
  split_ifs with hzero
  · rw [show (0xFF : UInt8).toNat = 2 ^ 8 - 1 by rfl, Nat.testBit_two_pow_sub_one]
    simp [hzero, hbit]
  · have hlt : 2 ^ (bits % 8) ≤ 2 ^ 7 := Nat.pow_le_pow_right (by norm_num) (by omega)
    rw [Nat.one_shiftLeft, UInt8.toNat_ofNat_of_lt' (by rw [UInt8.size]; omega),
      Nat.testBit_two_pow_sub_one]
    simp [hzero]

/-- The reading of an accepted walk is well formed behind the checks at its end. -/
private theorem RawParser.Agrees.wellFormed {p : RawParser} {r : Reading} {reports : List RawReport}
    {masks masks' : List UInt8} (h : p.Agrees r)
    (hbalanced : p.collectionDepth = 0 ∧ p.globalStack = [] ∧ p.locals.delimiterDepth = 0)
    (htop : p.topLevelCount ≠ 0) (hcanonical : ∀ entry ∈ reports, entry.Canonical)
    (hnodup : (reports.map fun entry => entry.reportId.toNat).Nodup)
    (htable : p.matchReportTable reports masks = .ok masks') :
    WellFormedRaw reports r ∧ masks'.length = masks.length ∧
      ∀ (index : ℕ) entry mask, reports[index]? = some entry → masks'[index]? = some mask →
        IsTrailingMask entry r mask := by
  obtain ⟨hseen, hentries, hlength, hmasks⟩ := matchReportTable_ok hnodup htable
  have hreports := h.reports
  have hvalid (d : DataItem) (hd : d ∈ r.data) : d.globals.reportId ≠ some 0 ∧
      d.globals.reportId.getD 0 < 256 := by
    have hids := (hreports.ids d hd).2
    cases hid : d.globals.reportId with
    | none => simp
    | some id => simpa using hids id hid
  -- The identity of an entry is that of its data items.
  have hidentity (entry : RawReport) (hentry : entry ∈ reports) (d : DataItem) (hd : d ∈ r.data)
      (hnumber : d.globals.reportId.getD 0 = entry.reportId.toNat) :
      entry.identity = d.globals.reportId :=
    (hcanonical entry hentry).identity_eq (hvalid d hd).1 hnumber.symm
  have hdata (entry : RawReport) (hentry : entry ∈ reports) :
      ∃ d ∈ r.data, d.globals.reportId = entry.identity := by
    obtain ⟨d, hd, hnumber⟩ := (hreports.seen _).mp (hentries entry hentry).1
    exact ⟨d, hd, (hidentity entry hentry d hd hnumber).symm⟩
  have hbits (entry : RawReport) (hentry : entry ∈ reports) :
      bitsOf entry.identity r.data =
        prefixBits entry.identity + (p.parsed entry.reportId.toNat).bits ∧
      prefixBits entry.identity = if p.hasReportIds then 8 else 0 := by
    obtain ⟨d, hd, hnumber⟩ := (hreports.seen _).mp (hentries entry hentry).1
    have hsome := (hreports.ids d hd).1
    rw [hidentity entry hentry d hd hnumber, hreports.bitsOf_eq hsome, hnumber, prefixBits, hsome]
    exact ⟨rfl, rfl⟩
  have hwire (entry : RawReport) (hentry : entry ∈ reports) :
      entry.wireLength.toNat = (bitsOf entry.identity r.data + 7) / 8 := by
    obtain ⟨hsum, hprefixed⟩ := hbits entry hentry
    rw [(hentries entry hentry).2.wireLength, hsum, hprefixed]
    split_ifs <;> omega
  have hinput : r.inputs = r.data :=
    List.filter_eq_self.mpr fun d hd => by simp [(h.inputs d hd).kind]
  refine ⟨⟨?_, ?_, h.inputs, ?_, ?_, ?_, ?_, ?_, hwire⟩, hlength, ?_⟩
  · refine ⟨h.depth.symm.trans hbalanced.1, ?_, ?_⟩
    · have hstack := h.stack
      rw [hbalanced.2.1] at hstack
      exact List.forall₂_nil_left_iff.mp hstack
    · have hdelimiters := h.delimiters
      rw [hbalanced.2.2] at hdelimiters
      cases hopen : r.locals.delimiterOpen with
      | false => rfl
      | true => simp [hopen] at hdelimiters
  · refine ⟨fun hno => htop ?_, h.applications⟩
    rw [h.topLevelCount, hno]
    rfl
  · rw [Reading.fields, hinput]
    exact h.fields
  · cases hhas : p.hasReportIds with
    | false =>
      refine Or.inl fun d hd => ?_
      simpa [hhas] using (hreports.ids d hd).1
    | true =>
      refine Or.inr fun d hd => ?_
      obtain ⟨hsome, hid⟩ := hreports.ids d hd
      rw [hhas] at hsome
      obtain ⟨id, hsome⟩ := Option.isSome_iff_exists.mp hsome
      exact ⟨id, hsome, hid id hsome⟩
  · intro d hd
    rw [hreports.topLevel d hd]
    refine ⟨by simp, fun other hother hid => ?_⟩
    rw [hreports.topLevel other hother, hid]
  · have hmap : reports.map RawReport.identity =
        (reports.map fun entry => entry.reportId.toNat).map
          fun number => if number = 0 then none else some number := by
      rw [List.map_map]
      exact List.map_congr_left fun entry hentry => (hcanonical entry hentry).identity_of_number
    rw [hmap]
    refine hnodup.map fun first second heq => ?_
    split_ifs at heq with hfirst hsecond
    · rw [hfirst, hsecond]
    · exact Option.some_inj.mp heq
  · refine fun id => ⟨fun hmem => ?_, fun ⟨d, hd, hid⟩ => ?_⟩
    · obtain ⟨entry, hentry, rfl⟩ := List.mem_map.mp hmem
      exact hdata entry hentry
    · obtain ⟨entry, hentry, hdescribes⟩ :=
        hseen _ (hvalid d hd).2 ((hreports.seen _).mpr ⟨d, hd, rfl⟩)
      exact List.mem_map.mpr
        ⟨entry, hentry, (hidentity entry hentry d hd hdescribes.number.symm).trans hid⟩
  · intro index entry mask hentry hmask bit hbit
    have hmem := List.mem_of_getElem? hentry
    have hlt : index < masks.length := hlength ▸ (List.getElem?_eq_some_iff.mp hmask).1
    have hstored := hmasks index entry hentry hlt
    rw [hmask, Option.some_inj] at hstored
    rw [hstored, testBit_trailingMask hbit, decide_eq_decide]
    obtain ⟨hsum, hprefixed⟩ := hbits entry hmem
    obtain ⟨d, hd, hid⟩ := hdata entry hmem
    have hpos : d.bits ≤ bitsOf entry.identity r.data := by
      refine le_add_left (List.le_sum_of_mem (List.mem_map_of_mem ?_))
      exact List.mem_filter.mpr ⟨hd, by simp [hid]⟩
    have hbits : 0 < d.bits := Nat.mul_pos (h.inputs d hd).width_pos (h.inputs d hd).count_pos
    rw [hsum, hprefixed] at hpos
    rw [hwire entry hmem, hsum, hprefixed]
    split_ifs at hpos ⊢ <;> omega

/-- **An accepted descriptor is well formed.** Its bytes are exactly a sequence of short items,
without a long item, that has a well-formed reading, and the stored masks cover the bits of the
last bytes. -/
theorem validateRaw_wellFormed {descriptor : List UInt8} {reports : List RawReport}
    {masks masks' : List UInt8} {requirements : DescriptorRequirements}
    (h : validateRaw descriptor reports masks = .ok (masks', requirements)) :
    ∃ items r, descriptor = encodeItems items ∧ (∀ item ∈ items, item.tag ≠ 15) ∧
      readItems {} items = some r ∧ WellFormedRaw reports r ∧ masks'.length = masks.length ∧
      ∀ (index : ℕ) entry mask, reports[index]? = some entry → masks'[index]? = some mask →
        IsTrailingMask entry r mask := by
  unfold validateRaw at h
  obtain ⟨-, h⟩ := of_ite_error h
  obtain ⟨-, h⟩ := of_ite_error h
  split at h
  next => cases h
  next htable =>
    obtain ⟨p, hitems, h⟩ := bind_eq_ok.mp h
    obtain ⟨hbalanced, h⟩ := of_ite_error h
    obtain ⟨htop, h⟩ := of_ite_error h
    obtain ⟨stored, hstored, h⟩ := bind_eq_ok.mp h
    cases h
    have hentries : reportEntries [] reports = none := by
      unfold validateReportTable at htable
      split_ifs at htable
      exact htable
    obtain ⟨hcanonical, hnodup⟩ := of_reportEntries hentries (by simp) (by simp)
    obtain ⟨items, r, hdescriptor, htags, hreading, hagrees⟩ :=
      RawParser.Agrees.items _ RawParser.agrees_start le_rfl hitems
    simp only [not_or, not_not] at hbalanced
    obtain ⟨hwell, hlength, hmasks⟩ :=
      hagrees.wellFormed hbalanced htop hcanonical hnodup hstored
    exact ⟨items, r, hdescriptor, htags, hreading, hwell, hlength, hmasks⟩

/-- A pointer with one button. -/
def pointerDescriptor : List UInt8 :=
  [0x05, 0x01, 0x09, 0x02, 0xA1, 0x01, 0x05, 0x09, 0x09, 0x01, 0x15, 0x00, 0x25, 0x01, 0x75, 0x01,
    0x95, 0x01, 0x81, 0x02, 0xC0]

theorem validateRaw_wellFormed_pointer :
    validateRaw pointerDescriptor [⟨0, 0, 0, 1⟩] [0] = .ok ([1], ⟨1, 0, 1, 1, 1⟩) ∧
      ∃ items r, pointerDescriptor = encodeItems items ∧ (∀ item ∈ items, item.tag ≠ 15) ∧
        readItems {} items = some r ∧ WellFormedRaw [⟨0, 0, 0, 1⟩] r ∧
        [(1 : UInt8)].length = [(0 : UInt8)].length ∧
        ∀ (index : ℕ) entry mask, ([⟨0, 0, 0, 1⟩] : List RawReport)[index]? = some entry →
          ([1] : List UInt8)[index]? = some mask → IsTrailingMask entry r mask :=
  have h : validateRaw pointerDescriptor [⟨0, 0, 0, 1⟩] [0] = .ok ([1], ⟨1, 0, 1, 1, 1⟩) := by
    decide +kernel
  ⟨h, validateRaw_wellFormed h⟩

/-- A Maximum of `-128` behind a Minimum of `-1`, and then a Minimum of `200`. -/
def crossedItems : List ShortItem :=
  [⟨.globalState, 0, [0x01], by simp, by simp⟩, ⟨.localState, 0, [0x06], by simp, by simp⟩,
    ⟨.main, 10, [0x01], by simp, by simp⟩, ⟨.globalState, 1, [0xFF], by simp, by simp⟩,
    ⟨.globalState, 2, [0x80], by simp, by simp⟩, ⟨.globalState, 1, [0xC8, 0x00], by simp, by simp⟩,
    ⟨.globalState, 7, [0x20], by simp, by simp⟩, ⟨.globalState, 9, [0x01], by simp, by simp⟩,
    ⟨.localState, 0, [0x01], by simp, by simp⟩, ⟨.main, 8, [0x02], by simp, by simp⟩,
    .empty .main 12]

/-- The reading of these items has one Input field, from `200` to `-128`. -/
theorem readItems_crossedItems : ∃ r, readItems {} crossedItems = some r ∧
    ∃ d ∈ r.data, d.isConstant = false ∧ d.globals.logicalMinimum = some 200 ∧
      d.globals.logicalMaximum = some (-128) := by
  refine ⟨_, rfl, _, List.mem_singleton_self _, rfl, rfl, rfl⟩

theorem validateRaw_range_unordered :
    ¬∀ (descriptor : List UInt8) (reports : List RawReport) (masks masks' : List UInt8)
      (requirements : DescriptorRequirements),
      validateRaw descriptor reports masks = .ok (masks', requirements) →
        ∃ items r, descriptor = encodeItems items ∧ readItems {} items = some r ∧
          ∀ d ∈ r.data, d.isConstant = false → ∃ minimum maximum,
            d.globals.logicalMinimum = some minimum ∧
              d.globals.logicalMaximum = some maximum ∧ minimum ≤ maximum := by
  intro hall
  have haccepted : validateRaw (encodeItems crossedItems) [⟨0, 0, 0, 4⟩] [0] =
      .ok ([0xFF], ⟨1, 0, 32, 1, 32⟩) := by decide +kernel
  obtain ⟨items, r, hitems, hreading, hordered⟩ := hall _ _ _ _ _ haccepted
  obtain ⟨r', hreading', d, hd, hdata, hmin, hmax⟩ := readItems_crossedItems
  rw [← encodeItems_injective hitems, hreading', Option.some_inj] at hreading
  subst hreading
  obtain ⟨minimum, maximum, hminimum, hmaximum, hle⟩ := hordered d hd hdata
  rw [hmin, Option.some_inj] at hminimum
  rw [hmax, Option.some_inj] at hmaximum
  omega

end LibaoaHid

import LibaoaHid.Hid.Items
import LibaoaHid.Hid.Validator

/-!
# The loop over the short items

Both walks of `src/hid/validator.cpp` take a descriptor apart by one loop: a prefix byte, its data
bytes, and a handler that takes the item or refuses it. Over the bytes of short items the loop
hands exactly these items to the handler, in their order.

## Main definitions

* `shortItemLoop`: the loop, for any handler.
* `delivered`: the items of a descriptor, as the loop hands them out.

## Main results

* `shortItemLoop_encodeItems`: the loop over the bytes of items.
* `RawParser.items_eq`, `StructureWalk.items_eq`: the loops of `validate_raw` and of
  `validate_generated_structure`.
-/

namespace LibaoaHid

open Hid

/-! ### The loop -/

section Loop

variable {σ : Type} (longItem overrun : ℕ → ValidationIssue)
  (handle : σ → ℕ → RawItem → Except ValidationIssue σ)

/-- The item loop, with the findings about a long item and an item beyond the end. -/
def shortItemLoop : ℕ → σ → ℕ → List UInt8 → Except ValidationIssue σ
  | _, s, _, [] => .ok s
  | 0, s, _, _ => .ok s
  | turns + 1, s, offset, byte :: rest =>
    let pref := byte.toNat
    let sizeCode := pref &&& 0x03
    let size := if sizeCode = 3 then 4 else sizeCode
    if pref &&& 0xF0 = 0xF0 then .error (longItem offset)
    else if size > rest.length then .error (overrun offset)
    else do
      let s ← handle s ((pref >>> 2) &&& 0x03)
        { tag := (pref >>> 4) &&& 0x0F, data := rest.take size, offset }
      shortItemLoop turns s (offset + 1 + size) (rest.drop size)

/-- The items of a descriptor from an offset on: the type, and the item. -/
def delivered : ℕ → List ShortItem → List (ℕ × RawItem)
  | _, [] => []
  | offset, item :: rest =>
    (item.type.code, { tag := item.tag, data := item.data, offset }) ::
      delivered (offset + 1 + item.data.length) rest

theorem map_delivered (offset : ℕ) (items : List ShortItem) :
    (delivered offset items).map (fun d => (d.1, d.2.tag)) =
      items.map fun item => (item.type.code, item.tag) := by
  induction items generalizing offset with
  | nil => rfl
  | cons item rest ih => rw [delivered, List.map_cons, List.map_cons, ih]

theorem exists_of_mem_delivered {items : List ShortItem} {offset : ℕ} {d : ℕ × RawItem}
    (h : d ∈ delivered offset items) : ∃ item ∈ items, d.2.data = item.data := by
  induction items generalizing offset with
  | nil => cases h
  | cons item rest ih =>
    rcases List.mem_cons.mp h with rfl | hrest
    · exact ⟨item, List.mem_cons_self, rfl⟩
    · obtain ⟨other, hmem, hdata⟩ := ih hrest
      exact ⟨other, List.mem_cons_of_mem _ hmem, hdata⟩

variable {longItem overrun handle}

/-- Over the bytes of short items the loop hands out the items, one by one and in order. -/
theorem shortItemLoop_encodeItems {items : List ShortItem} (hshort : ∀ item ∈ items, item.tag ≠ 15)
    (s : σ) {turns offset : ℕ} (hturns : (encodeItems items).length ≤ turns) :
    shortItemLoop longItem overrun handle turns s offset (encodeItems items) =
      (delivered offset items).foldlM (fun s d => handle s d.1 d.2) s := by
  induction items generalizing turns offset s with
  | nil => cases turns <;> rfl
  | cons item rest ih =>
    rw [encodeItems_cons, List.length_append] at hturns
    change item.data.length + 1 + _ ≤ turns at hturns
    obtain ⟨turns, rfl⟩ : ∃ n, turns = n + 1 := ⟨turns - 1, by omega⟩
    have hlt := item.prefixByte.toNat_lt
    have hsize : (if item.prefixByte.toNat &&& 0x03 = 3 then 4
        else item.prefixByte.toNat &&& 0x03) = item.data.length := by
      rw [size_eq_sizeOfCode, prefixByte_mod, item.sizeOfCode_sizeCode]
    have hlong : ¬item.prefixByte.toNat &&& 0xF0 = 0xF0 := by
      rw [prefix_long hlt, prefixByte_tag]
      exact hshort item List.mem_cons_self
    have hinside : ¬item.data.length > (item.data ++ encodeItems rest).length := by
      rw [List.length_append]
      omega
    rw [encodeItems_cons, ShortItem.bytes, List.cons_append, shortItemLoop]
    rw [hsize, if_neg hlong, if_neg hinside, List.take_left, List.drop_left, prefix_type,
      prefixByte_type, prefix_tag hlt, prefixByte_tag, delivered, List.foldlM_cons]
    refine congrArg _ (funext fun next => ?_)
    exact ih (fun other hmem => hshort other (List.mem_cons_of_mem _ hmem)) next (by omega)

/-- A walk whose steps the handler takes. -/
theorem foldlM_of_walk {step : σ → ShortItem → σ → Prop} {items : List ShortItem} {s t : σ}
    (hstep : ∀ {s item t}, step s item t → ∀ offset,
      handle s item.type.code { tag := item.tag, data := item.data, offset } = .ok t)
    (h : Walk step s items t) (offset : ℕ) :
    (delivered offset items).foldlM (fun s d => handle s d.1 d.2) s = .ok t := by
  induction h generalizing offset with
  | nil s => rfl
  | cons head _ ih =>
    rw [delivered, List.foldlM_cons, hstep head offset]
    exact ih _

end Loop

/-- What every entry of a walk is, its steps say. -/
theorem forall_of_walk {σ : Type} {step : σ → ShortItem → σ → Prop} {property : ShortItem → Prop}
    {items : List ShortItem} {s t : σ} (hstep : ∀ {s item t}, step s item t → property item)
    (h : Walk step s items t) : ∀ item ∈ items, property item := by
  induction h with
  | nil s => simp
  | cons head _ ih => exact List.forall_mem_cons.mpr ⟨hstep head, ih⟩

/-! ### The two loops -/

namespace RawParser

/-- The finding about a long item. -/
def longItem (offset : ℕ) : ValidationIssue :=
  ⟨.errUnsupported, "raw.descriptor",
    "The validated raw escape hatch does not accept HID long-item tags.", offset⟩

/-- The finding about an item beyond the end. -/
def overrun (offset : ℕ) : ValidationIssue :=
  ⟨.errParam, "raw.descriptor", "A short item extends beyond the descriptor.", offset⟩

/-- The loop of `validate_raw`, with the parser as the handler. -/
theorem items_eq (turns : ℕ) (p : RawParser) (offset : ℕ) (bytes : List UInt8) :
    RawParser.items turns p offset bytes =
      shortItemLoop longItem overrun RawParser.item turns p offset bytes := by
  induction turns generalizing p offset bytes with
  | zero => cases bytes <;> rfl
  | succ turns ih =>
    cases bytes with
    | nil => rfl
    | cons byte rest =>
      rw [RawParser.items, shortItemLoop]
      simp only [ih]
      rfl

end RawParser

namespace StructureWalk

/-- One item of `validate_generated_structure`. -/
def item (walk : StructureWalk) (type : ℕ) (item : RawItem) :
    Except ValidationIssue StructureWalk :=
  if type = 1 then walk.globalItem item.tag (unsignedValue item.data) item.offset
  else if type = 0 then walk.mainItem item.tag (unsignedValue item.data) item.offset
  else .ok walk

/-- The finding about a long item. -/
def longItem (offset : ℕ) : ValidationIssue :=
  ⟨.errInternal, "spec.descriptor",
    "The generated descriptor unexpectedly contains a HID long item.", offset⟩

/-- The finding about an item beyond the end. -/
def overrun (offset : ℕ) : ValidationIssue :=
  ⟨.errInternal, "spec.descriptor", "A generated short item extends beyond the descriptor.", offset⟩

/-- The loop of `validate_generated_structure`. -/
theorem items_eq (turns : ℕ) (walk : StructureWalk) (offset : ℕ) (bytes : List UInt8) :
    StructureWalk.items turns walk offset bytes =
      shortItemLoop longItem overrun StructureWalk.item turns walk offset bytes := by
  induction turns generalizing walk offset bytes with
  | zero => cases bytes <;> rfl
  | succ turns ih =>
    cases bytes with
    | nil => rfl
    | cons byte rest =>
      rw [StructureWalk.items, shortItemLoop]
      simp only [ih]
      unfold item
      dsimp only
      split_ifs <;> rfl

end StructureWalk

end LibaoaHid

import LibaoaHid.Transport.Ports
import Mathlib.Data.List.Nodup
import Mathlib.Data.List.Chain

/-!
# Interface claims

The claims of a Port as a list of counts, and what libusb has seen of them. A claim of an interface
that is counted already only counts up; the first one and the last release are calls of libusb, so
that these alternate.

## Main definitions

* `claimCount`, `addClaim`, `dropClaim`, `ClaimsValid`.
* `claimEvents`, `Claimed`, `Alternates`.
* `CallsSound`: the claims and the handles agree with the calls that libusb has seen.

## Main results

* `Runtime.claimInterface_cases`, `Runtime.releaseInterface_eq`.
-/

namespace LibaoaHid.Transport

open Libusb

/-! ### Counts -/

/-- How often an interface is claimed. -/
def claimCount (claims : List Claim) (interfaceNumber : ℤ) : ℕ :=
  ((claims.find? (·.interfaceNumber == interfaceNumber)).map (·.count)).getD 0

/-- The claims with one more of an interface. -/
def addClaim (claims : List Claim) (interfaceNumber : ℤ) : List Claim :=
  if claims.any (·.interfaceNumber == interfaceNumber) then
    claims.map fun claim =>
      if claim.interfaceNumber = interfaceNumber then { claim with count := claim.count + 1 }
      else claim
  else claims ++ [⟨interfaceNumber, 1⟩]

/-- The claims with one less of an interface. -/
def dropClaim (claims : List Claim) (interfaceNumber : ℤ) : List Claim :=
  if claimCount claims interfaceNumber - 1 ≠ 0 then
    claims.map fun claim =>
      if claim.interfaceNumber = interfaceNumber then { claim with count := claim.count - 1 }
      else claim
  else claims.filter (·.interfaceNumber ≠ interfaceNumber)

/-- Every interface is listed once, and only while it is claimed. -/
structure ClaimsValid (claims : List Claim) : Prop where
  nodup : (claims.map (·.interfaceNumber)).Nodup
  pos : ∀ claim ∈ claims, claim.count ≠ 0

theorem ClaimsValid.nil : ClaimsValid [] := ⟨.nil, nofun⟩

variable {claims : List Claim} {claim : Claim} {i j : ℤ}

@[simp] theorem claimCount_nil : claimCount [] i = 0 := rfl

theorem claimCount_cons : claimCount (claim :: claims) i =
    if claim.interfaceNumber = i then claim.count else claimCount claims i := by
  unfold claimCount
  rw [List.find?_cons]
  by_cases h : claim.interfaceNumber = i
  · simp [h]
  · have hfalse : (claim.interfaceNumber == i) = false := by simpa using h
    simp [h, hfalse]

theorem ClaimsValid.tail (h : ClaimsValid (claim :: claims)) : ClaimsValid claims :=
  ⟨(List.nodup_cons.mp h.nodup).2, fun c hc => h.pos c (List.mem_cons_of_mem _ hc)⟩

/-- An interface is listed exactly while it is claimed. -/
theorem ClaimsValid.any_iff (h : ClaimsValid claims) :
    claims.any (·.interfaceNumber == i) = true ↔ claimCount claims i ≠ 0 := by
  induction claims with
  | nil => simp
  | cons claim claims ih =>
    rw [List.any_cons, claimCount_cons]
    by_cases hi : claim.interfaceNumber = i
    · simpa [hi] using h.pos claim List.mem_cons_self
    · have hfalse : (claim.interfaceNumber == i) = false := by simpa using hi
      rw [if_neg hi, hfalse, Bool.false_or]
      exact ih h.tail

/-- Every listed count of an interface goes through `f`. -/
theorem claimCount_map (f : ℕ → ℕ) (claims : List Claim) (i : ℤ) :
    (∀ j, j ≠ i → claimCount (claims.map fun claim =>
      if claim.interfaceNumber = i then { claim with count := f claim.count } else claim) j =
        claimCount claims j) ∧
    (claimCount claims i ≠ 0 → claimCount (claims.map fun claim =>
      if claim.interfaceNumber = i then { claim with count := f claim.count } else claim) i =
        f (claimCount claims i)) := by
  induction claims with
  | nil => exact ⟨fun _ _ => rfl, fun h => absurd rfl h⟩
  | cons claim claims ih =>
    obtain ⟨hothers, hsame⟩ := ih
    rw [List.map_cons]
    by_cases hi : claim.interfaceNumber = i
    · rw [if_pos hi]
      refine ⟨fun j hj => ?_, fun _ => ?_⟩
      · have hne : claim.interfaceNumber ≠ j := fun h => hj (h.symm.trans hi)
        rw [claimCount_cons, claimCount_cons, if_neg hne, if_neg hne]
        exact hothers j hj
      · rw [claimCount_cons, claimCount_cons, if_pos hi, if_pos hi]
    · rw [if_neg hi]
      refine ⟨fun j hj => ?_, fun hcount => ?_⟩
      · rw [claimCount_cons, claimCount_cons, hothers j hj]
      · rw [claimCount_cons, if_neg hi] at hcount
        rw [claimCount_cons, claimCount_cons, if_neg hi, if_neg hi]
        exact hsame hcount

theorem claimCount_append (claims : List Claim) (claim : Claim) (j : ℤ) :
    claimCount (claims ++ [claim]) j =
      if claims.any (·.interfaceNumber == j) then claimCount claims j
      else if claim.interfaceNumber = j then claim.count else 0 := by
  induction claims with
  | nil => rw [List.nil_append, claimCount_cons]; rfl
  | cons first claims ih =>
    rw [List.cons_append, claimCount_cons, claimCount_cons, List.any_cons]
    by_cases hj : first.interfaceNumber = j
    · simp [hj]
    · have hfalse : (first.interfaceNumber == j) = false := by simpa using hj
      rw [if_neg hj, if_neg hj, hfalse, Bool.false_or]
      exact ih

theorem claimCount_filter (claims : List Claim) (i j : ℤ) :
    claimCount (claims.filter (·.interfaceNumber ≠ i)) j =
      if j = i then 0 else claimCount claims j := by
  induction claims with
  | nil => simp
  | cons claim claims ih =>
    by_cases hi : claim.interfaceNumber = i
    · rw [List.filter_cons_of_neg (by simp [hi]), ih, claimCount_cons]
      by_cases hj : j = i
      · rw [if_pos hj, if_pos hj]
      · rw [if_neg hj, if_neg hj, if_neg (fun h => hj (h.symm.trans hi))]
    · rw [List.filter_cons_of_pos (by simpa using hi), claimCount_cons, ih, claimCount_cons]
      by_cases hj : j = i
      · rw [if_neg (fun h => hi (h.trans hj)), if_pos hj, if_pos hj]
      · rw [if_neg hj, if_neg hj]

/-! ### One more and one less -/

/-- One claim of an interface less. -/
theorem claimCount_dropClaim (hcount : claimCount claims i ≠ 0) (j : ℤ) :
    claimCount (dropClaim claims i) j + (if j = i then 1 else 0) = claimCount claims j := by
  unfold dropClaim
  split
  · rename_i hmore
    obtain ⟨hothers, hsame⟩ := claimCount_map (· - 1) claims i
    by_cases hj : j = i
    · rw [if_pos hj, hj, hsame hcount]
      omega
    · rw [if_neg hj, hothers j hj]
      rfl
  · rename_i hlast
    rw [claimCount_filter]
    by_cases hj : j = i
    · rw [if_pos hj, if_pos hj, hj]
      omega
    · rw [if_neg hj, if_neg hj]
      rfl

namespace ClaimsValid

/-- One more claim of an interface. -/
theorem add_count (h : ClaimsValid claims) (i j : ℤ) :
    claimCount (addClaim claims i) j = claimCount claims j + if j = i then 1 else 0 := by
  unfold addClaim
  by_cases hlisted : claims.any (·.interfaceNumber == i) = true
  · rw [if_pos hlisted]
    obtain ⟨hothers, hsame⟩ := claimCount_map (· + 1) claims i
    by_cases hj : j = i
    · rw [if_pos hj, hj]
      exact hsame (h.any_iff.mp hlisted)
    · rw [if_neg hj]
      exact hothers j hj
  · have hzero : claimCount claims i = 0 :=
      Decidable.not_not.mp fun hcount => hlisted (h.any_iff.mpr hcount)
    rw [if_neg hlisted, claimCount_append]
    by_cases hj : j = i
    · rw [if_pos hj, hj, if_neg hlisted, if_pos rfl, hzero]
    · rw [if_neg hj, if_neg (Ne.symm hj)]
      by_cases hother : claims.any (·.interfaceNumber == j) = true
      · rw [if_pos hother]
        rfl
      · have hnone : claimCount claims j = 0 :=
          Decidable.not_not.mp fun hcount => hother (h.any_iff.mpr hcount)
        rw [if_neg hother, hnone]

theorem map_interfaceNumber (f : ℕ → ℕ) (claims : List Claim) (i : ℤ) :
    (claims.map fun claim =>
      if claim.interfaceNumber = i then { claim with count := f claim.count } else claim).map
        (·.interfaceNumber) = claims.map (·.interfaceNumber) := by
  rw [List.map_map]
  refine List.map_congr_left fun claim _ => ?_
  rw [Function.comp_apply]
  split <;> rfl

theorem add (h : ClaimsValid claims) (i : ℤ) : ClaimsValid (addClaim claims i) := by
  unfold addClaim
  split
  · refine ⟨by rw [map_interfaceNumber (· + 1)]; exact h.nodup, fun claim hmem => ?_⟩
    obtain ⟨c, hc, rfl⟩ := List.mem_map.mp hmem
    have := h.pos c hc
    split
    · exact Nat.succ_ne_zero _
    · exact this
  · rename_i hnew
    refine ⟨?_, fun claim hmem => ?_⟩
    · rw [List.map_append, List.map_singleton]
      refine List.nodup_append.mpr ⟨h.nodup, List.nodup_singleton _, ?_⟩
      intro a ha b hb
      rw [List.mem_singleton.mp hb]
      rintro rfl
      obtain ⟨c, hc, hsame⟩ := List.mem_map.mp ha
      exact hnew (List.any_eq_true.mpr ⟨c, hc, by simpa using hsame⟩)
    · rcases List.mem_append.mp hmem with hmem | hmem
      · exact h.pos claim hmem
      · rw [List.mem_singleton.mp hmem]
        exact Nat.one_ne_zero

theorem count_eq (h : ClaimsValid claims) (hmem : claim ∈ claims) :
    claimCount claims claim.interfaceNumber = claim.count := by
  induction claims with
  | nil => cases hmem
  | cons first claims ih =>
    rw [claimCount_cons]
    rcases List.mem_cons.mp hmem with rfl | hmem
    · rw [if_pos rfl]
    · rw [if_neg, ih h.tail hmem]
      intro hsame
      exact (List.nodup_cons.mp h.nodup).1 (List.mem_map.mpr ⟨claim, hmem, hsame.symm⟩)

theorem drop (h : ClaimsValid claims) (i : ℤ) : ClaimsValid (dropClaim claims i) := by
  unfold dropClaim
  split
  · rename_i hmore
    refine ⟨by rw [map_interfaceNumber (· - 1)]; exact h.nodup, fun claim hmem => ?_⟩
    obtain ⟨c, hc, rfl⟩ := List.mem_map.mp hmem
    have hpos := h.pos c hc
    have hcount := h.count_eq hc
    split
    · rename_i hi
      rw [hi] at hcount
      rw [hcount] at hmore
      exact hmore
    · exact hpos
  · exact ⟨h.nodup.sublist (List.filter_sublist.map _),
      fun claim hmem => h.pos claim (List.mem_filter.mp hmem).1⟩

/-- A claim that is given back leaves the claims as they were. -/
theorem drop_add (h : ClaimsValid claims) (i : ℤ) : dropClaim (addClaim claims i) i = claims := by
  have hcount := h.add_count i i
  rw [if_pos rfl] at hcount
  unfold dropClaim
  rw [hcount, Nat.add_sub_cancel]
  unfold addClaim
  by_cases hlisted : claims.any (·.interfaceNumber == i) = true
  · rw [if_pos (h.any_iff.mp hlisted), if_pos hlisted, List.map_map]
    refine (List.map_congr_left fun claim _ => ?_).trans (List.map_id _)
    rw [Function.comp_apply]
    by_cases hi : claim.interfaceNumber = i
    · subst hi
      simp
    · simp [hi]
  · have hzero : claimCount claims i = 0 :=
      Decidable.not_not.mp fun hcount => hlisted (h.any_iff.mpr hcount)
    rw [if_neg (not_not_intro hzero), if_neg hlisted, List.filter_append,
      List.filter_cons_of_neg (by simp), List.filter_nil, List.append_nil]
    refine List.filter_eq_self.mpr fun claim hmem => ?_
    rw [Bool.not_eq_true, List.any_eq_false] at hlisted
    simpa using hlisted claim hmem

end ClaimsValid

/-! ### The calls of libusb -/

/-- The claims and releases of an interface of a handle in their order; `true` is a claim. -/
def claimEvents (calls : List UsbCall) (handle : ℕ) (interfaceNumber : ℤ) : List Bool :=
  calls.filterMap fun
    | .claimed h i => if h = handle ∧ i = interfaceNumber then some true else none
    | .released h i => if h = handle ∧ i = interfaceNumber then some false else none
    | .opened _ => none
    | .closed _ => none

/-- libusb has the interface claimed: it was claimed, and not released since. -/
def Claimed (calls : List UsbCall) (handle : ℕ) (interfaceNumber : ℤ) : Prop :=
  (claimEvents calls handle interfaceNumber).getLast? = some true

/-- Claims and releases alternate, a claim first. -/
def Alternates (events : List Bool) : Prop :=
  events.head? ≠ some false ∧ events.IsChain (· ≠ ·)

/-- The handle of a call. -/
def UsbCall.handle : UsbCall → ℕ
  | .opened h => h
  | .closed h => h
  | .claimed h _ => h
  | .released h _ => h

/-- The next event of an alternating list. -/
theorem Alternates.append {events : List Bool} (h : Alternates events) {event : Bool}
    (hlast : events.getLast? = some true ↔ event = false) : Alternates (events ++ [event]) := by
  refine ⟨?_, List.isChain_append.mpr ⟨h.2, List.isChain_singleton _, fun x hx y hy => ?_⟩⟩
  · rcases events with _ | ⟨first, rest⟩
    · rintro heq
      have hfalse : event = false := by simpa using heq
      exact absurd (hlast.mpr hfalse) nofun
    · exact h.1
  · have hy : event = y := by simpa using hy
    subst hy
    rw [Option.mem_def] at hx
    rw [hx, Option.some.injEq] at hlast
    rintro rfl
    cases x with
    | true => exact absurd (hlast.mp rfl) nofun
    | false => exact absurd (hlast.mpr rfl) nofun

/-- The handles and the claims of a Runtime agree with the calls that libusb has seen. -/
structure CallsSound (rt : Runtime) : Prop where
  handle_lt : ∀ p port, rt.heap p = some port → port.handle < rt.handles.length
  handle_inj : ∀ p q port port', rt.heap p = some port → rt.heap q = some port' →
    port.handle = port'.handle → p = q
  claimed : ∀ p port, rt.heap p = some port → ∀ i,
    Claimed rt.calls port.handle i ↔ claimCount port.claims i ≠ 0
  unclaimed : ∀ handle, (∀ p port, rt.heap p = some port → port.handle ≠ handle) → ∀ i,
    ¬ Claimed rt.calls handle i
  alternates : ∀ handle i, Alternates (claimEvents rt.calls handle i)
  opened : ∀ call ∈ rt.calls, call.handle < rt.handles.length
  open_once : ∀ handle < rt.handles.length, rt.calls.count (.opened handle) = 1
  open_ports : ∀ p port, rt.heap p = some port → .closed port.handle ∉ rt.calls
  close_once : ∀ handle < rt.handles.length,
    (∀ p port, rt.heap p = some port → port.handle ≠ handle) → rt.calls.count (.closed handle) = 1
  close_last : rt.calls.Pairwise fun earlier later => earlier ≠ .closed later.handle

/-! ### One Port changes -/

theorem claimEvents_append (calls more : List UsbCall) (handle : ℕ) (i : ℤ) :
    claimEvents (calls ++ more) handle i =
      claimEvents calls handle i ++ claimEvents more handle i := by
  rw [claimEvents, List.filterMap_append]
  rfl

/-- Calls of one handle are no events of another. -/
theorem claimEvents_eq_nil {more : List UsbCall} {handle : ℕ}
    (h : ∀ call ∈ more, call.handle ≠ handle) (i : ℤ) : claimEvents more handle i = [] := by
  refine List.filterMap_eq_nil_iff.mpr fun call hcall => ?_
  have hne := h call hcall
  cases call with
  | claimed => exact if_neg fun hsame => hne hsame.1
  | released => exact if_neg fun hsame => hne hsame.1
  | _ => rfl

/-- A Port that is replaced by itself. -/
theorem Runtime.updatePort_self (rt : Runtime) {p : ℕ} {port : Port}
    (hport : rt.heap p = some port) : rt.updatePort p (some port) = rt := by
  have hheap : (fun q => if q = p then some port else rt.heap q) = rt.heap := by
    funext q
    by_cases hq : q = p
    · rw [if_pos hq, hq, hport]
    · rw [if_neg hq]
  rw [Runtime.updatePort, hheap]

namespace CallsSound

variable {rt : Runtime} {p : ℕ} {port port' : Port}

/-- A Port whose claims change, with the claims and releases that libusb sees. -/
theorem update (h : CallsSound rt) (hport : rt.heap p = some port)
    (hhandle : port'.handle = port.handle) {more : List UsbCall}
    (hmore : ∀ call ∈ more, ∃ i, call = .claimed port.handle i ∨ call = .released port.handle i)
    (hclaimed : ∀ i, Claimed (rt.calls ++ more) port.handle i ↔ claimCount port'.claims i ≠ 0)
    (halternates : ∀ i, Alternates (claimEvents (rt.calls ++ more) port.handle i)) :
    CallsSound { rt.updatePort p (some port') with calls := rt.calls ++ more } := by
  have hheap : ∀ q port'', (if q = p then some port' else rt.heap q) = some port'' →
      ∃ before, rt.heap q = some before ∧ before.handle = port''.handle ∧
        (q = p ∧ port'' = port' ∨ q ≠ p ∧ before = port'') := by
    intro q port'' hq
    by_cases hqp : q = p
    · rw [if_pos hqp, Option.some.injEq] at hq
      subst hqp hq
      exact ⟨port, hport, hhandle.symm, .inl ⟨rfl, rfl⟩⟩
    · rw [if_neg hqp] at hq
      exact ⟨port'', hq, rfl, .inr ⟨hqp, rfl⟩⟩
  have hnone : ∀ handle, (∀ q port'', (if q = p then some port' else rt.heap q) = some port'' →
      port''.handle ≠ handle) → ∀ q port'', rt.heap q = some port'' → port''.handle ≠ handle := by
    intro handle hall q port'' hq
    by_cases hqp : q = p
    · subst hqp
      rw [hport, Option.some.injEq] at hq
      subst hq
      rw [← hhandle]
      exact hall q port' (if_pos rfl)
    · exact hall q port'' ((if_neg hqp).trans hq)
  have hothers : ∀ handle, port.handle ≠ handle → ∀ i,
      claimEvents (rt.calls ++ more) handle i = claimEvents rt.calls handle i := by
    intro handle hne i
    have hnil : claimEvents more handle i = [] := by
      refine claimEvents_eq_nil (fun call hcall => ?_) i
      obtain ⟨i, rfl | rfl⟩ := hmore call hcall <;> exact hne
    rw [claimEvents_append, hnil, List.append_nil]
  have hclosed : ∀ handle, .closed handle ∉ more := by
    intro handle hmem
    obtain ⟨i, hi | hi⟩ := hmore _ hmem <;> cases hi
  constructor
  case handle_lt =>
    intro q port'' hq
    obtain ⟨before, hbefore, hsame, -⟩ := hheap q port'' hq
    exact hsame ▸ h.handle_lt q before hbefore
  case handle_inj =>
    intro q q' port₁ port₂ hq hq' hsame
    obtain ⟨before, hbefore, hhandle₁, -⟩ := hheap q port₁ hq
    obtain ⟨before', hbefore', hhandle₂, -⟩ := hheap q' port₂ hq'
    exact h.handle_inj q q' before before' hbefore hbefore'
      (hhandle₁.trans (hsame.trans hhandle₂.symm))
  case claimed =>
    intro q port'' hq i
    obtain ⟨before, hbefore, hsame, ⟨rfl, rfl⟩ | ⟨hqp, rfl⟩⟩ := hheap q port'' hq
    · rw [hhandle]
      exact hclaimed i
    · have hne : port.handle ≠ before.handle := fun heq =>
        hqp (h.handle_inj p q port before hport hbefore heq).symm
      rw [Claimed, hothers _ hne]
      exact h.claimed q before hbefore i
  case unclaimed =>
    intro handle hall i
    have hnone' := hnone handle hall
    rw [Claimed, hothers _ (hnone' p port hport)]
    exact h.unclaimed handle hnone' i
  case alternates =>
    intro handle i
    by_cases hsame : port.handle = handle
    · rw [← hsame]
      exact halternates i
    · rw [hothers _ hsame]
      exact h.alternates handle i
  case opened =>
    intro call hcall
    rcases List.mem_append.mp hcall with hcall | hcall
    · exact h.opened call hcall
    · have hlt := h.handle_lt p port hport
      obtain ⟨i, rfl | rfl⟩ := hmore call hcall <;> exact hlt
  case open_once =>
    intro handle hlt
    rw [List.count_append, h.open_once handle hlt, List.count_eq_zero.mpr]
    intro hmem
    obtain ⟨i, hi | hi⟩ := hmore _ hmem <;> cases hi
  case open_ports =>
    intro q port'' hq hmem
    obtain ⟨before, hbefore, hsame, -⟩ := hheap q port'' hq
    rcases List.mem_append.mp hmem with hmem | hmem
    · exact h.open_ports q before hbefore (hsame ▸ hmem)
    · exact hclosed _ hmem
  case close_once =>
    intro handle hlt hall
    rw [List.count_append, h.close_once handle hlt (hnone handle hall),
      List.count_eq_zero.mpr (hclosed handle)]
  case close_last =>
    refine List.pairwise_append.mpr ⟨h.close_last, ?_, fun earlier hearlier later hlater => ?_⟩
    · refine List.pairwise_of_forall_mem_list fun earlier hearlier later _ => ?_
      rintro rfl
      exact hclosed _ hearlier
    · rintro rfl
      refine h.open_ports p port hport ?_
      obtain ⟨i, rfl | rfl⟩ := hmore later hlater <;> exact hearlier

/-- A Port whose counts change, not its claims. -/
theorem update_counts (h : CallsSound rt) (hport : rt.heap p = some port)
    (hhandle : port'.handle = port.handle)
    (hcounts : ∀ i, claimCount port'.claims i ≠ 0 ↔ claimCount port.claims i ≠ 0) :
    CallsSound (rt.updatePort p (some port')) := by
  have hupdate := @update _ _ _ _ h hport hhandle [] nofun
  simp only [List.append_nil] at hupdate
  exact hupdate (fun i => (h.claimed p port hport i).trans (hcounts i).symm)
    (h.alternates port.handle)

/-- A call of libusb on one interface. -/
theorem claimEvents_singleton (handle : ℕ) (i j : ℤ) :
    claimEvents [.claimed handle i] handle j = (if i = j then [true] else []) ∧
      claimEvents [.released handle i] handle j = if i = j then [false] else [] := by
  by_cases hij : i = j <;> simp [claimEvents, hij]

/-- The first claim of an interface. -/
theorem claim_first (h : CallsSound rt) (hport : rt.heap p = some port)
    (hhandle : port'.handle = port.handle) {i : ℤ} (hzero : claimCount port.claims i = 0)
    (hcounts : ∀ j, claimCount port'.claims j = claimCount port.claims j + if j = i then 1 else 0) :
    CallsSound { rt.updatePort p (some port') with
      calls := rt.calls ++ [.claimed port.handle i] } := by
  have hunclaimed : ¬ Claimed rt.calls port.handle i :=
    fun hclaimed => (h.claimed p port hport i).mp hclaimed hzero
  refine h.update hport hhandle (fun call hcall => ⟨i, .inl (List.mem_singleton.mp hcall)⟩)
    (fun j => ?_) fun j => ?_
  · rw [Claimed, claimEvents_append, (claimEvents_singleton _ i j).1, hcounts]
    by_cases hij : i = j
    · simp [hij]
    · rw [if_neg hij, if_neg (Ne.symm hij), List.append_nil]
      exact h.claimed p port hport j
  · rw [claimEvents_append, (claimEvents_singleton _ i j).1]
    by_cases hij : i = j
    · subst hij
      rw [if_pos rfl]
      exact (h.alternates _ _).append ⟨fun hlast => absurd hlast hunclaimed, nofun⟩
    · rw [if_neg hij, List.append_nil]
      exact h.alternates _ _

/-- The last release of an interface. -/
theorem release_last (h : CallsSound rt) (hport : rt.heap p = some port)
    (hhandle : port'.handle = port.handle) {i : ℤ} (hone : claimCount port.claims i = 1)
    (hcounts : ∀ j, claimCount port'.claims j + (if j = i then 1 else 0) =
      claimCount port.claims j) :
    CallsSound { rt.updatePort p (some port') with
      calls := rt.calls ++ [.released port.handle i] } := by
  have hclaimed : Claimed rt.calls port.handle i :=
    (h.claimed p port hport i).mpr (by rw [hone]; exact Nat.one_ne_zero)
  refine h.update hport hhandle (fun call hcall => ⟨i, .inr (List.mem_singleton.mp hcall)⟩)
    (fun j => ?_) fun j => ?_
  · have hcount := hcounts j
    rw [Claimed, claimEvents_append, (claimEvents_singleton _ i j).2]
    by_cases hij : i = j
    · subst hij
      rw [if_pos rfl] at hcount
      rw [if_pos rfl, List.getLast?_append_of_ne_nil _ (List.cons_ne_nil _ _)]
      constructor
      · nofun
      · omega
    · rw [if_neg (Ne.symm hij), Nat.add_zero] at hcount
      rw [if_neg hij, List.append_nil, hcount]
      exact h.claimed p port hport j
  · rw [claimEvents_append, (claimEvents_singleton _ i j).2]
    by_cases hij : i = j
    · subst hij
      rw [if_pos rfl]
      exact (h.alternates _ _).append ⟨fun _ => rfl, fun _ => hclaimed⟩
    · rw [if_neg hij, List.append_nil]
      exact h.alternates _ _

/-- A claim that is given back at once. -/
theorem claim_undone (h : CallsSound rt) (hport : rt.heap p = some port) {i : ℤ}
    (hzero : claimCount port.claims i = 0) :
    CallsSound { rt with
      calls := rt.calls ++ [.claimed port.handle i, .released port.handle i] } := by
  have hunclaimed : ¬ Claimed rt.calls port.handle i :=
    fun hclaimed => (h.claimed p port hport i).mp hclaimed hzero
  have hevents : ∀ j, claimEvents
      (rt.calls ++ [.claimed port.handle i, .released port.handle i]) port.handle j =
        claimEvents rt.calls port.handle j ++ if i = j then [true] ++ [false] else [] := by
    intro j
    rw [claimEvents_append]
    by_cases hij : i = j <;> simp [claimEvents, hij]
  have hupdate := @update _ _ _ port h hport rfl [.claimed port.handle i, .released port.handle i]
    (fun call hcall => ⟨i, by simpa using hcall⟩) (fun j => ?_) fun j => ?_
  · rw [rt.updatePort_self hport] at hupdate
    exact hupdate
  · rw [Claimed, hevents]
    by_cases hij : i = j
    · subst hij
      simp [hzero]
    · rw [if_neg hij, List.append_nil]
      exact h.claimed p port hport j
  · rw [hevents]
    by_cases hij : i = j
    · subst hij
      rw [if_pos rfl, ← List.append_assoc]
      have hclaim := @Alternates.append _ (h.alternates port.handle i) true
        ⟨fun hlast => absurd hlast hunclaimed, nofun⟩
      exact hclaim.append ⟨fun _ => rfl, fun _ => List.getLast?_concat⟩
    · rw [if_neg hij, List.append_nil]
      exact h.alternates _ _

/-- The handle of a Port without claims is closed. -/
theorem close (h : CallsSound rt) (hport : rt.heap p = some port) (hclaims : port.claims = []) :
    CallsSound (rt.closePort p) := by
  have hclosed : rt.closePort p =
      { rt.updatePort p none with calls := rt.calls ++ [.closed port.handle] } := by
    rw [Runtime.closePort, hport]
    simp [hclaims]
  have hevents : ∀ handle i, claimEvents (rt.calls ++ [.closed port.handle]) handle i =
      claimEvents rt.calls handle i := by
    intro handle i
    rw [claimEvents_append]
    exact List.append_nil _
  have hheap : ∀ q port', (if q = p then none else rt.heap q) = some port' →
      q ≠ p ∧ rt.heap q = some port' := by
    intro q port' hq
    by_cases hqp : q = p
    · rw [if_pos hqp] at hq
      cases hq
    · rw [if_neg hqp] at hq
      exact ⟨hqp, hq⟩
  -- The handles without a Port are those from before, and the one that is closed now.
  have hothers : ∀ handle, handle ≠ port.handle → (∀ q port',
      (if q = p then none else rt.heap q) = some port' → port'.handle ≠ handle) →
      ∀ q port', rt.heap q = some port' → port'.handle ≠ handle := by
    intro handle hne hall q port' hq
    by_cases hqp : q = p
    · subst hqp
      rw [hport, Option.some.injEq] at hq
      subst hq
      exact hne.symm
    · exact hall q port' ((if_neg hqp).trans hq)
  rw [hclosed]
  constructor
  case handle_lt => exact fun q port' hq => h.handle_lt q port' (hheap q port' hq).2
  case handle_inj =>
    exact fun q q' port₁ port₂ hq hq' =>
      h.handle_inj q q' port₁ port₂ (hheap q port₁ hq).2 (hheap q' port₂ hq').2
  case claimed =>
    intro q port' hq i
    rw [Claimed, hevents]
    exact h.claimed q port' (hheap q port' hq).2 i
  case unclaimed =>
    intro handle hall i
    rw [Claimed, hevents]
    by_cases hsame : handle = port.handle
    · intro hclaimed
      rw [hsame] at hclaimed
      refine (h.claimed p port hport i).mp hclaimed ?_
      rw [hclaims]
      rfl
    · exact h.unclaimed handle (hothers handle hsame hall) i
  case alternates =>
    intro handle i
    rw [hevents]
    exact h.alternates handle i
  case opened =>
    intro call hcall
    rcases List.mem_append.mp hcall with hcall | hcall
    · exact h.opened call hcall
    · rw [List.mem_singleton.mp hcall]
      exact h.handle_lt p port hport
  case open_once =>
    intro handle hlt
    rw [List.count_append, h.open_once handle hlt]
    rfl
  case open_ports =>
    intro q port' hq hmem
    obtain ⟨hqp, hq⟩ := hheap q port' hq
    rcases List.mem_append.mp hmem with hmem | hmem
    · exact h.open_ports q port' hq hmem
    · have hsame : port'.handle = port.handle := by simpa using hmem
      exact hqp (h.handle_inj q p port' port hq hport hsame)
  case close_once =>
    intro handle hlt hall
    by_cases hsame : handle = port.handle
    · rw [hsame, List.count_append, List.count_eq_zero.mpr (h.open_ports p port hport)]
      simp
    · rw [List.count_append, h.close_once handle hlt (hothers handle hsame hall),
        List.count_eq_zero.mpr]
      simpa using hsame
  case close_last =>
    refine List.pairwise_append.mpr
      ⟨h.close_last, List.pairwise_singleton _ _, fun earlier hearlier later hlater => ?_⟩
    rw [List.mem_singleton.mp hlater]
    rintro rfl
    exact h.open_ports p port hport hearlier

/-- A Runtime before its first call. -/
theorem empty : CallsSound {} := by
  constructor
  case alternates => exact fun _ _ => ⟨nofun, .nil⟩
  case close_last => exact .nil
  all_goals nofun

/-- No call of libusb is about a handle that is not open yet. -/
theorem fresh_handle (h : CallsSound rt) {call : UsbCall}
    (hcall : call.handle = rt.handles.length) : call ∉ rt.calls := by
  intro hmem
  have := h.opened call hmem
  omega

/-- A handle that is opened for a new Port. -/
theorem acquire (h : CallsSound rt) (hfresh : rt.heap rt.nextPort = none) (c : Candidate)
    (device : UsbDevice) : CallsSound (rt.acquired c device) := by
  have hcalls : (rt.acquired c device).calls = rt.calls ++ [.opened rt.handles.length] := rfl
  have hlength : (rt.acquired c device).handles.length = rt.handles.length + 1 :=
    List.length_append
  have hevents : ∀ handle i, claimEvents (rt.acquired c device).calls handle i =
      claimEvents rt.calls handle i := by
    intro handle i
    rw [hcalls, claimEvents_append]
    exact List.append_nil _
  have hheap : ∀ q port', (rt.acquired c device).heap q = some port' →
      (q = rt.nextPort ∧ port'.handle = rt.handles.length ∧ port'.claims = []) ∨
        (q ≠ rt.nextPort ∧ rt.heap q = some port') := by
    intro q port' hq
    change (if q = rt.nextPort then _ else rt.heap q) = some port' at hq
    by_cases hqp : q = rt.nextPort
    · rw [if_pos hqp, Option.some.injEq] at hq
      subst hq
      exact .inl ⟨hqp, rfl, rfl⟩
    · rw [if_neg hqp] at hq
      exact .inr ⟨hqp, hq⟩
  have hold : ∀ handle, (∀ q port', (rt.acquired c device).heap q = some port' →
      port'.handle ≠ handle) → handle ≠ rt.handles.length ∧
        ∀ q port', rt.heap q = some port' → port'.handle ≠ handle := by
    intro handle hall
    refine ⟨Ne.symm (hall rt.nextPort _ (if_pos rfl)), fun q port' hq => hall q port' ?_⟩
    refine (if_neg fun hqp => ?_).trans hq
    rw [hqp, hfresh] at hq
    cases hq
  have hunclaimed : ∀ i, ¬ Claimed rt.calls rt.handles.length i := by
    refine h.unclaimed _ fun q port' hq => ?_
    have := h.handle_lt q port' hq
    omega
  constructor
  case handle_lt =>
    intro q port' hq
    rw [hlength]
    rcases hheap q port' hq with ⟨-, hhandle, -⟩ | ⟨-, hq⟩
    · omega
    · exact Nat.lt_succ_of_lt (h.handle_lt q port' hq)
  case handle_inj =>
    intro q q' port₁ port₂ hq hq' hsame
    rcases hheap q port₁ hq with ⟨hqp, hhandle, -⟩ | ⟨-, hq⟩ <;>
      rcases hheap q' port₂ hq' with ⟨hqp', hhandle', -⟩ | ⟨-, hq'⟩
    · exact hqp.trans hqp'.symm
    · have := h.handle_lt q' port₂ hq'
      omega
    · have := h.handle_lt q port₁ hq
      omega
    · exact h.handle_inj q q' port₁ port₂ hq hq' hsame
  case claimed =>
    intro q port' hq i
    rw [Claimed, hevents]
    rcases hheap q port' hq with ⟨-, hhandle, hclaims⟩ | ⟨-, hq⟩
    · rw [hhandle, hclaims]
      exact ⟨fun hclaimed => absurd hclaimed (hunclaimed i), fun hcount => absurd rfl hcount⟩
    · exact h.claimed q port' hq i
  case unclaimed =>
    intro handle hall i
    rw [Claimed, hevents]
    exact h.unclaimed handle (hold handle hall).2 i
  case alternates =>
    intro handle i
    rw [hevents]
    exact h.alternates handle i
  case opened =>
    rw [hcalls, hlength]
    intro call hcall
    rcases List.mem_append.mp hcall with hcall | hcall
    · exact Nat.lt_succ_of_lt (h.opened call hcall)
    · rw [List.mem_singleton.mp hcall]
      exact Nat.lt_succ_self _
  case open_once =>
    rw [hcalls, hlength]
    intro handle hlt
    rw [List.count_append]
    by_cases hhandle : handle = rt.handles.length
    · rw [hhandle, List.count_eq_zero.mpr (h.fresh_handle rfl), List.count_singleton_self]
    · rw [h.open_once handle (by omega), List.count_eq_zero.mpr]
      simpa using hhandle
  case open_ports =>
    rw [hcalls]
    intro q port' hq hmem
    rcases List.mem_append.mp hmem with hmem | hmem
    · rcases hheap q port' hq with ⟨-, hhandle, -⟩ | ⟨-, hq⟩
      · rw [hhandle] at hmem
        exact h.fresh_handle rfl hmem
      · exact h.open_ports q port' hq hmem
    · cases List.mem_singleton.mp hmem
  case close_once =>
    rw [hcalls, hlength]
    intro handle hlt hall
    obtain ⟨hne, hall⟩ := hold handle hall
    rw [List.count_append, h.close_once handle (by omega) hall]
    rfl
  case close_last =>
    rw [hcalls]
    refine List.pairwise_append.mpr
      ⟨h.close_last, List.pairwise_singleton _ _, fun earlier hearlier later hlater => ?_⟩
    rw [List.mem_singleton.mp hlater]
    rintro rfl
    exact h.fresh_handle rfl hearlier

/-- A handle that is opened, and closed at once since the registry has no place for its Port. -/
theorem acquire_undone (h : CallsSound rt) (device : UsbDevice) :
    CallsSound { rt.openHandle device with
      calls := (rt.openHandle device).calls ++ [.closed rt.handles.length] } := by
  have hcalls : (rt.openHandle device).calls ++ [.closed rt.handles.length] =
      rt.calls ++ [.opened rt.handles.length, .closed rt.handles.length] :=
    List.append_assoc _ _ _
  have hlength : (rt.openHandle device).handles.length = rt.handles.length + 1 :=
    List.length_append
  have hevents : ∀ handle i, claimEvents
      (rt.calls ++ [.opened rt.handles.length, .closed rt.handles.length]) handle i =
        claimEvents rt.calls handle i := by
    intro handle i
    rw [claimEvents_append]
    exact List.append_nil _
  rw [hcalls]
  constructor
  case handle_lt =>
    intro q port' hq
    exact hlength ▸ Nat.lt_succ_of_lt (h.handle_lt q port' hq)
  case handle_inj => exact h.handle_inj
  case claimed =>
    intro q port' hq i
    rw [Claimed, hevents]
    exact h.claimed q port' hq i
  case unclaimed =>
    intro handle hall i
    rw [Claimed, hevents]
    exact h.unclaimed handle hall i
  case alternates =>
    intro handle i
    rw [hevents]
    exact h.alternates handle i
  case opened =>
    intro call hcall
    refine Nat.lt_of_lt_of_eq ?_ hlength.symm
    rcases List.mem_append.mp hcall with hcall | hcall
    · exact Nat.lt_succ_of_lt (h.opened call hcall)
    · rcases List.mem_pair.mp hcall with rfl | rfl <;> exact Nat.lt_succ_self _
  case open_once =>
    intro handle hlt
    have hlt : handle < rt.handles.length + 1 := Nat.lt_of_lt_of_eq hlt hlength
    rw [List.count_append]
    by_cases hhandle : handle = rt.handles.length
    · rw [hhandle, List.count_eq_zero.mpr (h.fresh_handle rfl)]
      simp
    · rw [h.open_once handle (by omega), List.count_eq_zero.mpr]
      simpa using hhandle
  case open_ports =>
    intro q port' hq hmem
    rcases List.mem_append.mp hmem with hmem | hmem
    · exact h.open_ports q port' hq hmem
    · have hsame : port'.handle = rt.handles.length := by simpa using hmem
      exact Nat.ne_of_lt (h.handle_lt q port' hq) hsame
  case close_once =>
    intro handle hlt hall
    have hlt : handle < rt.handles.length + 1 := Nat.lt_of_lt_of_eq hlt hlength
    rw [List.count_append]
    by_cases hhandle : handle = rt.handles.length
    · rw [hhandle, List.count_eq_zero.mpr (h.fresh_handle rfl)]
      simp
    · rw [h.close_once handle (by omega) hall, List.count_eq_zero.mpr]
      simpa using hhandle
  case close_last =>
    refine List.pairwise_append.mpr
      ⟨h.close_last, by simp, fun earlier hearlier later hlater => ?_⟩
    rintro rfl
    have hsame : later.handle = rt.handles.length := by
      rcases List.mem_pair.mp hlater with rfl | rfl <;> rfl
    rw [hsame] at hearlier
    exact h.fresh_handle rfl hearlier

end CallsSound

/-! ### The functions -/

namespace Runtime

variable {rt : Runtime} {p : ℕ} {port : Port}

/-- The Runtime behind a successful `claim_interface`. -/
def claimed (rt : Runtime) (p : ℕ) (port : Port) (i : ℤ) : Runtime :=
  { rt.updatePort p (some { port with claims := addClaim port.claims i }) with
    calls := if claimCount port.claims i = 0 then rt.calls ++ [.claimed port.handle i]
      else rt.calls }

/-- The Runtime behind a `release_interface`. -/
def unclaimed (rt : Runtime) (p : ℕ) (port : Port) (i : ℤ) : Runtime :=
  { rt.updatePort p (some { port with claims := dropClaim port.claims i }) with
    calls := if claimCount port.claims i = 1 then rt.calls ++ [.released port.handle i]
      else rt.calls }

/-- What `claim_interface` does: it counts, or it fails, maybe with a claim of libusb that it has
given back. -/
theorem claimInterface_cases (hport : rt.heap p = some port) (hvalid : ClaimsValid port.claims)
    (i status : ℤ) (memory : Bool) :
    rt.claimInterface p i status memory = (success, rt.claimed p port i) ∨
      ∃ result rt', result ≠ success ∧ rt.claimInterface p i status memory = (result, rt') ∧
        (rt' = rt ∨ claimCount port.claims i = 0 ∧
          rt' = { rt with calls := rt.calls ++
            [.claimed port.handle i, .released port.handle i] }) := by
  rw [claimInterface, hport]
  dsimp only
  by_cases hlisted : port.claims.any (·.interfaceNumber == i) = true
  · left
    rw [if_pos hlisted, claimed, addClaim, if_pos hlisted, if_neg (hvalid.any_iff.mp hlisted)]
    rfl
  · have hzero : claimCount port.claims i = 0 :=
      Decidable.not_not.mp fun hcount => hlisted (hvalid.any_iff.mpr hcount)
    rw [if_neg hlisted]
    by_cases hstatus : status = success
    · rw [if_neg (not_not_intro hstatus)]
      by_cases hmemory : memory = true
      · left
        rw [if_neg (by simp [hmemory]), claimed, addClaim, if_neg hlisted, if_pos hzero]
      · right
        rw [if_pos (by simpa using hmemory)]
        exact ⟨_, _, by decide, rfl, .inr ⟨hzero, rfl⟩⟩
    · right
      rw [if_pos hstatus]
      exact ⟨_, _, hstatus, rfl, .inl rfl⟩

theorem heap_retain (hport : rt.heap p = some port) (q : ℕ) : (rt.retain p).heap q =
    if q = p then some { port with references := port.references + 1 } else rt.heap q := by
  rw [retain, hport]
  rfl

theorem heap_dropReference (hport : rt.heap p = some port) (q : ℕ) : (rt.dropReference p).heap q =
    if q = p then some { port with references := port.references - 1 } else rt.heap q := by
  rw [dropReference, hport]
  rfl

theorem eq_claimed {rt' : Runtime} {i status : ℤ} {memory : Bool} (hport : rt.heap p = some port)
    (hvalid : ClaimsValid port.claims)
    (h : rt.claimInterface p i status memory = (success, rt')) : rt' = rt.claimed p port i := by
  rcases claimInterface_cases hport hvalid i status memory with heq | ⟨_, _, hresult, heq, -⟩
  · exact (Prod.mk.inj (h.symm.trans heq)).2
  · exact absurd (Prod.mk.inj (h.symm.trans heq)).1.symm hresult

theorem eq_of_claim_failed {rt' : Runtime} {i status result : ℤ} {memory : Bool}
    (hport : rt.heap p = some port) (hvalid : ClaimsValid port.claims) (hresult : result ≠ success)
    (h : rt.claimInterface p i status memory = (result, rt')) :
    rt' = rt ∨ claimCount port.claims i = 0 ∧
      rt' = { rt with calls := rt.calls ++
        [.claimed port.handle i, .released port.handle i] } := by
  rcases claimInterface_cases hport hvalid i status memory with heq | ⟨_, _, -, heq, hcases⟩
  · exact absurd (Prod.mk.inj (h.symm.trans heq)).1 hresult
  · rw [(Prod.mk.inj (h.symm.trans heq)).2]
    exact hcases

/-- `release_interface` of an interface that is claimed. -/
theorem releaseInterface_eq (hport : rt.heap p = some port) {i : ℤ}
    (hcount : claimCount port.claims i ≠ 0) :
    rt.releaseInterface p i = rt.unclaimed p port i := by
  rw [releaseInterface, hport]
  dsimp only
  unfold claimCount at hcount
  cases hfound : port.claims.find? (·.interfaceNumber == i) with
  | none =>
    rw [hfound] at hcount
    exact absurd rfl hcount
  | some claim =>
    rw [hfound] at hcount
    have hcount : claim.count ≠ 0 := hcount
    have heq : claimCount port.claims i = claim.count := by
      rw [claimCount, hfound]
      rfl
    dsimp only
    rw [unclaimed, dropClaim, heq]
    by_cases hlast : claim.count = 1
    · rw [if_neg (by omega), if_pos hlast, if_neg (by omega)]
    · rw [if_pos (by omega), if_neg hlast, if_pos (by omega)]
      rfl

theorem eq_acquired {host : Host} {c : Candidate} {bus bus' : Bus} {rt' : Runtime}
    (h : rt.acquirePort host c bus = (.ok, some p, rt', bus')) :
    p = rt.nextPort ∧ ∃ device, rt' = rt.acquired c device := by
  rcases rt.acquirePort_cases host c bus with ⟨_, _, _, heq, hresult, -⟩ | ⟨device, -, heq⟩
  · exact absurd (Prod.mk.inj (h.symm.trans heq)).1.symm hresult
  · obtain ⟨hp, hrest⟩ := Prod.mk.inj (Prod.mk.inj (h.symm.trans heq)).2
    exact ⟨Option.some.inj hp, device, (Prod.mk.inj hrest).1⟩

/-- A failed `acquire_port` has opened nothing, or has closed the handle again. -/
theorem acquirePort_failed {host : Host} {c : Candidate} {bus bus' : Bus} {result : Result}
    {rt' : Runtime} (h : rt.acquirePort host c bus = (result, none, rt', bus')) :
    rt' = rt ∨ ∃ device, rt' = { rt.openHandle device with
      calls := (rt.openHandle device).calls ++ [.closed rt.handles.length] } := by
  unfold acquirePort at h
  by_cases hmemory : host.portMemory = true
  · rw [if_neg (by simp [hmemory])] at h
    rcases hopen : openOriginal host c with ⟨status, _ | device⟩
    · rw [hopen] at h
      simp only [Prod.mk.injEq] at h
      exact .inl h.2.2.1.symm
    · rw [hopen] at h
      dsimp only at h
      by_cases hregistry : host.registryMemory = true
      · rw [if_neg (by simp [hregistry])] at h
        simp only [Prod.mk.injEq] at h
        exact absurd h.2.1 nofun
      · rw [if_pos (by simpa using hregistry)] at h
        simp only [Prod.mk.injEq] at h
        exact .inr ⟨device, h.2.2.1.symm⟩
  · rw [if_pos (by simpa using hmemory)] at h
    simp only [Prod.mk.injEq] at h
    exact .inl h.2.2.1.symm

theorem retainPort_eq_some {rt' : Runtime} {bus address : ℕ}
    (h : rt.retainPort bus address = some (p, rt')) :
    ∃ port, rt.heap p = some port ∧ port.references ≠ 0 ∧ rt' = rt.retain p := by
  rw [retainPort_eq, Option.map_eq_some_iff] at h
  obtain ⟨q, hlender, heq⟩ := h
  obtain ⟨rfl, rfl⟩ := Prod.mk.inj heq
  obtain ⟨port, hport, hused⟩ := lender_eq_some hlender
  exact ⟨port, hport, hused, rfl⟩

end Runtime

namespace CallsSound

variable {rt : Runtime} {p : ℕ} {port : Port}

/-- A reference more. -/
theorem retain (h : CallsSound rt) (hport : rt.heap p = some port) : CallsSound (rt.retain p) := by
  rw [Runtime.retain, hport]
  exact h.update_counts hport rfl fun _ => Iff.rfl

/-- A reference less. -/
theorem dropReference (h : CallsSound rt) (hport : rt.heap p = some port) :
    CallsSound (rt.dropReference p) := by
  rw [Runtime.dropReference, hport]
  exact h.update_counts hport rfl fun _ => Iff.rfl

theorem addClaim (h : CallsSound rt) (hport : rt.heap p = some port)
    (hvalid : ClaimsValid port.claims) (i : ℤ) : CallsSound (rt.claimed p port i) := by
  have hcounts := hvalid.add_count i
  by_cases hzero : claimCount port.claims i = 0
  · rw [Runtime.claimed, if_pos hzero]
    exact @claim_first _ _ _
      { port with claims := Transport.addClaim port.claims i } h hport rfl i hzero
      hcounts
  · rw [Runtime.claimed, if_neg hzero]
    refine @update_counts _ _ _ { port with claims := Transport.addClaim port.claims i } h hport rfl
      fun j => ?_
    dsimp only
    rw [hcounts]
    by_cases hj : j = i
    · rw [if_pos hj, hj]
      omega
    · rw [if_neg hj, Nat.add_zero]

theorem dropClaim (h : CallsSound rt) (hport : rt.heap p = some port) {i : ℤ}
    (hcount : claimCount port.claims i ≠ 0) : CallsSound (rt.unclaimed p port i) := by
  have hcounts := claimCount_dropClaim hcount
  by_cases hone : claimCount port.claims i = 1
  · rw [Runtime.unclaimed, if_pos hone]
    exact @release_last _ _ _
      { port with claims := Transport.dropClaim port.claims i } h hport rfl i hone
      hcounts
  · rw [Runtime.unclaimed, if_neg hone]
    refine @update_counts _ _ _
      { port with claims := Transport.dropClaim port.claims i } h hport rfl
      fun j => ?_
    have hj := hcounts j
    dsimp only
    by_cases hji : j = i
    · rw [if_pos hji, hji] at hj
      rw [hji]
      omega
    · rw [if_neg hji, Nat.add_zero] at hj
      rw [hj]

end CallsSound

end LibaoaHid.Transport

import LibaoaHid.Foundation.Counts
import LibaoaHid.Transport.PortClaims

/-!
# The owners of a Port

Devices, Channels and borrowers share a Port: each holds a reference, and a Device or a Channel may
claim one interface. `OwnerStep` is what one of them does next, one atomic section of the source at
a time, from its open to the last access of its release; a step of a run is that of any owner, or
the start of a new one.

The application makes one call of a Context at a time, so that no Device is closed while a Channel
is being opened on it. Nothing else orders the owners: the event thread may destroy a Device between
any two steps.

## Main definitions

* `OwnerPc`, `Owner`, `OwnerStep`, `Start`, `PortStep`, `PortRun`.
* `Alone`: an open from its start on, with no step of another owner in between.
* `PortsBalanced`: what holds in every state of every run.

## Main results

* `PortRun.ports_balanced`.
-/

namespace LibaoaHid.Transport

open Libusb

/-! ### Owners -/

/-- What owns a reference of a Port. A borrower is the start of an accessory, or the discovery. -/
inductive OwnerKind
  | device
  | channel
  | borrower
  deriving DecidableEq

/-- The places of an owner. -/
inductive OwnerPc
  /-- Behind `acquire_port`, with the interface that is to be claimed. -/
  | acquired (plan : Option ℤ)
  /-- `Channel::open`, behind its claim and before its `retain`. -/
  | claimed (interfaceNumber : ℤ)
  /-- With a reference, and a claim or none. An open that fails here releases both, as a close
  does. -/
  | live (claim : Option ℤ)
  /-- Before the decrement of `release`. -/
  | releasing
  /-- The last reference is gone; before `unregister_port`. -/
  | unregistering
  /-- Before the end of `release`. -/
  | closing
  deriving DecidableEq

/-- An owner of a Port. -/
structure Owner where
  port : ℕ
  kind : OwnerKind
  pc : OwnerPc
  deriving DecidableEq

/-- The reference of an owner. -/
def OwnerPc.reference : OwnerPc → ℕ
  | .acquired _ => 1
  | .live _ => 1
  | .releasing => 1
  | _ => 0

/-- The claim of an owner. -/
def OwnerPc.claim : OwnerPc → Option ℤ
  | .claimed interfaceNumber => some interfaceNumber
  | .live claim => claim
  | _ => none

/-- The owner has taken the last reference away. -/
def OwnerPc.leaving : OwnerPc → ℕ
  | .unregistering => 1
  | .closing => 1
  | _ => 0

/-- An owner without a reference is a Channel before its `retain`, or on its way out. -/
theorem OwnerPc.leaves {pc : OwnerPc} (hreference : pc.reference = 0)
    (hnot : ∀ i, pc ≠ .claimed i) : pc.claim = none ∧ pc.leaving = 1 := by
  cases pc with
  | acquired => cases hreference
  | claimed i => exact absurd rfl (hnot i)
  | live => cases hreference
  | releasing => cases hreference
  | unregistering => exact ⟨rfl, rfl⟩
  | closing => exact ⟨rfl, rfl⟩

/-- What an owner does next, and where it is then; `none` when it has ended. -/
inductive OwnerStep (rt : Runtime) (owner : Owner) : Runtime → Option Owner → Prop
  | unclaimed (hpc : owner.pc = .acquired none) :
      OwnerStep rt owner rt (some { owner with pc := .live none })
  | claim {i status : ℤ} {memory : Bool} {rt' : Runtime} (hpc : owner.pc = .acquired (some i))
      (hclaim : rt.claimInterface owner.port i status memory = (success, rt')) :
      OwnerStep rt owner rt' (some { owner with pc := .live (some i) })
  | claim_failed {i status result : ℤ} {memory : Bool} {rt' : Runtime}
      (hpc : owner.pc = .acquired (some i)) (hresult : result ≠ success)
      (hclaim : rt.claimInterface owner.port i status memory = (result, rt')) :
      OwnerStep rt owner rt' (some { owner with pc := .releasing })
  | retain {i : ℤ} (hpc : owner.pc = .claimed i) :
      OwnerStep rt owner (rt.retain owner.port) (some { owner with pc := .live (some i) })
  | unclaim {i : ℤ} (hpc : owner.pc = .live (some i)) :
      OwnerStep rt owner (rt.releaseInterface owner.port i)
        (some { owner with pc := .releasing })
  | done (hpc : owner.pc = .live none) :
      OwnerStep rt owner rt (some { owner with pc := .releasing })
  | release {port : Port} (hpc : owner.pc = .releasing) (hport : rt.heap owner.port = some port)
      (hmore : port.references ≠ 1) : OwnerStep rt owner (rt.dropReference owner.port) none
  | release_last {port : Port} (hpc : owner.pc = .releasing)
      (hport : rt.heap owner.port = some port) (hlast : port.references = 1) :
      OwnerStep rt owner (rt.dropReference owner.port)
        (some { owner with pc := .unregistering })
  | unregister (hpc : owner.pc = .unregistering) :
      OwnerStep rt owner (rt.unregisterPort owner.port) (some { owner with pc := .closing })
  | close (hpc : owner.pc = .closing) : OwnerStep rt owner (rt.closePort owner.port) none

/-! ### Runs -/

/-- The Runtime and the owners of its Ports. -/
structure PortState where
  runtime : Runtime := {}
  owners : List Owner := []

/-- The start of a Device, of an accessory, of a Channel on the Port of a live Device, or of a
borrower of an open Port; `none` where it fails at once. -/
inductive Start (s : PortState) : Runtime → Option Owner → Prop
  | acquire {host : Host} {candidate : Candidate} {bus bus' : Bus} {p : ℕ} {rt' : Runtime}
      {kind : OwnerKind} {plan : Option ℤ} (hkind : kind ≠ .channel)
      (hacquire : s.runtime.acquirePort host candidate bus = (.ok, some p, rt', bus')) :
      Start s rt' (some { port := p, kind, pc := .acquired plan })
  | acquire_failed {host : Host} {candidate : Candidate} {bus bus' : Bus} {result : Result}
      {rt' : Runtime}
      (hacquire : s.runtime.acquirePort host candidate bus = (result, none, rt', bus')) :
      Start s rt' none
  | channel {p : ℕ} {held : Option ℤ} {i status : ℤ} {memory : Bool} {rt' : Runtime}
      (hdevice : { port := p, kind := .device, pc := .live held } ∈ s.owners)
      (hclaim : s.runtime.claimInterface p i status memory = (success, rt')) :
      Start s rt' (some { port := p, kind := .channel, pc := .claimed i })
  | channel_failed {p : ℕ} {held : Option ℤ} {i status result : ℤ} {memory : Bool} {rt' : Runtime}
      (hdevice : { port := p, kind := .device, pc := .live held } ∈ s.owners)
      (hresult : result ≠ success)
      (hclaim : s.runtime.claimInterface p i status memory = (result, rt')) : Start s rt' none
  | borrow {bus address p : ℕ} {rt' : Runtime}
      (hretain : s.runtime.retainPort bus address = some (p, rt')) :
      Start s rt' (some { port := p, kind := .borrower, pc := .live none })

/-- No Channel of the Port is between its claim and its `retain`. -/
def Settled (owners : List Owner) (p : ℕ) : Prop :=
  ∀ owner ∈ owners, owner.port = p → ∀ i, owner.pc ≠ .claimed i

/-- A step of a run. -/
inductive PortStep (s : PortState) : PortState → Prop
  | start {rt' : Runtime} {next : Option Owner} (h : Start s rt' next) :
      PortStep s { runtime := rt', owners := s.owners ++ next.toList }
  | advance {owner : Owner} {rt' : Runtime} {next : Option Owner} (hmem : owner ∈ s.owners)
      (hserial : owner.kind = .device → Settled s.owners owner.port)
      (h : OwnerStep s.runtime owner rt' next) :
      PortStep s { runtime := rt', owners := s.owners.erase owner ++ next.toList }

/-- A run from a Runtime without Ports on. -/
inductive PortRun : PortState → Prop
  | empty : PortRun {}
  | step {s s' : PortState} (h : PortRun s) (hstep : PortStep s s') : PortRun s'

/-- An open from its start on, while no other owner does anything: the Runtime, and the owner, or
`none` when it has ended. -/
inductive Alone (s : PortState) : Runtime → Option Owner → Prop
  | start {rt' : Runtime} {next : Option Owner} (h : Start s rt' next) : Alone s rt' next
  | step {rt rt' : Runtime} {owner : Owner} {next : Option Owner} (h : Alone s rt (some owner))
      (hstep : OwnerStep rt owner rt' next) : Alone s rt' next

/-! ### Counting owners -/

/-- The references of a Port that its owners hold. -/
def holders (owners : List Owner) (p : ℕ) : ℕ :=
  (owners.map fun owner => if owner.port = p then owner.pc.reference else 0).sum

/-- The owners of a Port that have claimed an interface. -/
def claimants (owners : List Owner) (p : ℕ) (i : ℤ) : ℕ :=
  (owners.map fun owner => if owner.port = p ∧ owner.pc.claim = some i then 1 else 0).sum

/-- The owners that have taken the last reference of a Port away. -/
def leavers (owners : List Owner) (p : ℕ) : ℕ :=
  (owners.map fun owner => if owner.port = p then owner.pc.leaving else 0).sum

/-- A Port agrees with its owners: its references and its claims are theirs, exactly one of them is
on its way out once the references are gone, and the registry has the Port until that one has taken
it out. A Channel that has claimed and not yet retained leans on the Device that it is opened on. -/
structure PortSound (rt : Runtime) (owners : List Owner) (p : ℕ) (port : Port) : Prop where
  references : port.references = holders owners p
  claims : ClaimsValid port.claims
  counts : ∀ i, claimCount port.claims i = claimants owners p i
  leaving : leavers owners p = if port.references = 0 then 1 else 0
  registered : p ∈ rt.registry ↔ ∀ owner ∈ owners, owner.port = p → owner.pc ≠ .closing
  lent : ∀ owner ∈ owners, owner.port = p → ∀ i, owner.pc = .claimed i →
    ∃ held, { port := p, kind := .device, pc := .live held } ∈ owners

/-- **The owners and the Ports of a Runtime agree.** -/
structure OwnersSound (rt : Runtime) (owners : List Owner) : Prop where
  valid : rt.Valid
  calls : CallsSound rt
  nodup : rt.registry.Nodup
  exists_port : ∀ owner ∈ owners, ∃ port, rt.heap owner.port = some port
  ports : ∀ p port, rt.heap p = some port → PortSound rt owners p port

variable {rt rt' : Runtime} {owners rest removed added : List Owner} {owner : Owner} {p q : ℕ}
  {port port' : Port}

theorem holders_append (owners owners' : List Owner) (p : ℕ) :
    holders (owners ++ owners') p = holders owners p + holders owners' p := by
  simp [holders]

theorem claimants_append (owners owners' : List Owner) (p : ℕ) (i : ℤ) :
    claimants (owners ++ owners') p i = claimants owners p i + claimants owners' p i := by
  simp [claimants]

theorem leavers_append (owners owners' : List Owner) (p : ℕ) :
    leavers (owners ++ owners') p = leavers owners p + leavers owners' p := by
  simp [leavers]

/-- Owners of other Ports do not count. -/
theorem counts_eq_zero (h : ∀ owner ∈ owners, owner.port ≠ p) :
    holders owners p = 0 ∧ (∀ i, claimants owners p i = 0) ∧ leavers owners p = 0 := by
  refine ⟨?_, fun i => ?_, ?_⟩
  all_goals
    refine List.sum_eq_zero fun n hn => ?_
    obtain ⟨owner, hmem, rfl⟩ := List.mem_map.mp hn
    simp [h owner hmem]

theorem reference_le_holders (h : owner ∈ owners) :
    owner.pc.reference ≤ holders owners owner.port := by
  have hle := le_sum_of_mem (fun o => if o.port = owner.port then o.pc.reference else 0) h
  rwa [if_pos rfl] at hle

theorem one_le_claimants (h : owner ∈ owners) {i : ℤ} (hclaim : owner.pc.claim = some i) :
    1 ≤ claimants owners owner.port i := by
  have hle := le_sum_of_mem
    (fun o => if o.port = owner.port ∧ o.pc.claim = some i then 1 else 0) h
  rwa [if_pos ⟨rfl, hclaim⟩] at hle

/-! ### Changes of owners -/

namespace PortSound

/-- The order of the owners does not matter. -/
theorem perm {owners' : List Owner} (h : PortSound rt owners p port) (hperm : owners.Perm owners') :
    PortSound rt owners' p port where
  references := h.references.trans (hperm.map _).sum_eq
  claims := h.claims
  counts i := (h.counts i).trans (hperm.map _).sum_eq
  leaving := (hperm.map _).sum_eq.symm.trans h.leaving
  registered := h.registered.trans
    ⟨fun hall o ho => hall o (hperm.mem_iff.mpr ho), fun hall o ho => hall o (hperm.mem_iff.mp ho)⟩
  lent o ho hp i hpc := by
    obtain ⟨held, hheld⟩ := h.lent o (hperm.mem_iff.mpr ho) hp i hpc
    exact ⟨held, hperm.mem_iff.mp hheld⟩

/-- Owners of another Port come and go. -/
theorem frame (h : PortSound rt (removed ++ rest) q port) (hremoved : ∀ o ∈ removed, o.port ≠ q)
    (hadded : ∀ o ∈ added, o.port ≠ q) (hregistry : q ∈ rt'.registry ↔ q ∈ rt.registry) :
    PortSound rt' (added ++ rest) q port := by
  obtain ⟨hholders, hclaimants, hleavers⟩ := counts_eq_zero hremoved
  obtain ⟨hholders', hclaimants', hleavers'⟩ := counts_eq_zero hadded
  have hmem : ∀ o : Owner, o.port = q → (o ∈ added ++ rest ↔ o ∈ removed ++ rest) := by
    intro o ho
    rw [List.mem_append, List.mem_append]
    constructor
    · rintro (hmem | hmem)
      · exact absurd ho (hadded o hmem)
      · exact .inr hmem
    · rintro (hmem | hmem)
      · exact absurd ho (hremoved o hmem)
      · exact .inr hmem
  constructor
  case references => rw [h.references, holders_append, holders_append, hholders, hholders']
  case claims => exact h.claims
  case counts =>
    intro i
    rw [h.counts, claimants_append, claimants_append, hclaimants, hclaimants']
  case leaving => rw [← h.leaving, leavers_append, leavers_append, hleavers, hleavers']
  case registered =>
    rw [hregistry, h.registered]
    exact ⟨fun hall o ho hq => hall o ((hmem o hq).mp ho) hq,
      fun hall o ho hq => hall o ((hmem o hq).mpr ho) hq⟩
  case lent =>
    intro o ho hq i hpc
    obtain ⟨held, hheld⟩ := h.lent o ((hmem o hq).mp ho) hq i hpc
    exact ⟨held, (hmem _ rfl).mpr hheld⟩

/-- The owners of a Port that come and go, with what this does to the Port. -/
theorem change (h : PortSound rt (removed ++ rest) p port)
    (hreferences : port'.references + holders removed p = port.references + holders added p)
    (hclaims : ClaimsValid port'.claims)
    (hcounts : ∀ i, claimCount port'.claims i + claimants removed p i =
      claimCount port.claims i + claimants added p i)
    (hleaving : (if port'.references = 0 then 1 else 0) + leavers removed p =
      (if port.references = 0 then 1 else 0) + leavers added p)
    (hregistered : p ∈ rt'.registry ↔ ∀ o ∈ added ++ rest, o.port = p → o.pc ≠ .closing)
    (hadded : ∀ o ∈ added, o.port = p → ∀ i, o.pc = .claimed i →
      ∃ held, { port := p, kind := .device, pc := .live held } ∈ rest)
    (hserial : ∀ o ∈ removed, o.kind = .device → Settled (removed ++ rest) p) :
    PortSound rt' (added ++ rest) p port' := by
  have hreferences' := h.references
  have hleaving' := h.leaving
  rw [holders_append] at hreferences'
  rw [leavers_append] at hleaving'
  constructor
  case references =>
    rw [holders_append]
    omega
  case claims => exact hclaims
  case counts =>
    intro i
    have hcounts' := h.counts i
    have := hcounts i
    rw [claimants_append] at hcounts' ⊢
    omega
  case leaving =>
    rw [leavers_append]
    omega
  case registered => exact hregistered
  case lent =>
    intro o ho hp i hpc
    rcases List.mem_append.mp ho with hmem | hmem
    · obtain ⟨held, hheld⟩ := hadded o hmem hp i hpc
      exact ⟨held, List.mem_append_right _ hheld⟩
    · obtain ⟨held, hheld⟩ := h.lent o (List.mem_append_right _ hmem) hp i hpc
      rcases List.mem_append.mp hheld with hgone | hkept
      · exact absurd hpc (hserial _ hgone rfl o (List.mem_append_right _ hmem) hp i)
      · exact ⟨held, List.mem_append_right _ hkept⟩

/-- The Port of an owner that goes on. -/
theorem goto (h : PortSound rt (owner :: rest) owner.port port)
    (hserial : owner.kind = .device → Settled (owner :: rest) owner.port) {pc : OwnerPc}
    (hreferences : port'.references + owner.pc.reference = port.references + pc.reference)
    (hclaims : ClaimsValid port'.claims)
    (hcounts : ∀ i, claimCount port'.claims i + (if owner.pc.claim = some i then 1 else 0) =
      claimCount port.claims i + if pc.claim = some i then 1 else 0)
    (hleaving : (if port'.references = 0 then 1 else 0) + owner.pc.leaving =
      (if port.references = 0 then 1 else 0) + pc.leaving)
    (hregistered : owner.port ∈ rt'.registry ↔
      ∀ o ∈ { owner with pc } :: rest, o.port = owner.port → o.pc ≠ .closing)
    (hpc : ∀ i, pc ≠ .claimed i) :
    PortSound rt' ({ owner with pc } :: rest) owner.port port' := by
  refine @change rt rt' rest [owner] [{ owner with pc }] owner.port port port' h ?_ hclaims
    (fun i => ?_) ?_ hregistered ?_ ?_
  · simpa [holders] using hreferences
  · simpa [claimants] using hcounts i
  · simpa [leavers] using hleaving
  · intro o ho _ i hclaimed
    rw [List.mem_singleton.mp ho] at hclaimed
    exact absurd hclaimed (hpc i)
  · intro o ho hkind
    rw [List.mem_singleton.mp ho] at hkind
    exact hserial hkind

/-- The registry keeps the Port while its owner goes on. -/
theorem registered_goto (h : PortSound rt (owner :: rest) owner.port port) {pc : OwnerPc}
    (hclosing : owner.pc ≠ .closing) (hclosing' : pc ≠ .closing) :
    owner.port ∈ rt.registry ↔
      ∀ o ∈ { owner with pc } :: rest, o.port = owner.port → o.pc ≠ .closing := by
  refine h.registered.trans ⟨fun hall o ho hop => ?_, fun hall o ho hop => ?_⟩
  · rcases List.mem_cons.mp ho with rfl | ho
    · exact hclosing'
    · exact hall o (List.mem_cons_of_mem _ ho) hop
  · rcases List.mem_cons.mp ho with rfl | ho
    · exact hclosing
    · exact hall o (List.mem_cons_of_mem _ ho) hop

end PortSound

namespace OwnersSound

/-- The order of the owners does not matter. -/
theorem perm {owners' : List Owner} (h : OwnersSound rt owners) (hperm : owners.Perm owners') :
    OwnersSound rt owners' where
  valid := h.valid
  calls := h.calls
  nodup := h.nodup
  exists_port o ho := h.exists_port o (hperm.mem_iff.mpr ho)
  ports p port hport := (h.ports p port hport).perm hperm

/-- One Port changes, with its owners. -/
theorem update (h : OwnersSound rt (removed ++ rest)) (hremoved : ∀ o ∈ removed, o.port = p)
    (hadded : ∀ o ∈ added, o.port = p)
    (hheap : ∀ q, rt'.heap q = if q = p then some port' else rt.heap q)
    (hnext : rt'.nextPort = rt.nextPort) (hlt : p < rt.nextPort)
    (hregistry : ∀ q, q ≠ p → (q ∈ rt'.registry ↔ q ∈ rt.registry)) (hnodup : rt'.registry.Nodup)
    (hcalls : CallsSound rt') (hsound : PortSound rt' (added ++ rest) p port') :
    OwnersSound rt' (added ++ rest) := by
  have hself : rt'.heap p = some port' := (hheap p).trans (if_pos rfl)
  have hothers : ∀ q, q ≠ p → rt'.heap q = rt.heap q := fun q hq => (hheap q).trans (if_neg hq)
  constructor
  case valid =>
    refine ⟨fun q hq => ?_, fun q hq => ?_⟩
    · rw [hnext] at hq
      rw [hothers q (by omega)]
      exact h.valid.heap_fresh q hq
    · by_cases hqp : q = p
      · exact ⟨port', hqp ▸ hself⟩
      · rw [hothers q hqp]
        exact h.valid.registered q ((hregistry q hqp).mp hq)
  case calls => exact hcalls
  case nodup => exact hnodup
  case exists_port =>
    intro o ho
    by_cases hop : o.port = p
    · exact ⟨port', hop ▸ hself⟩
    · rw [hothers _ hop]
      rcases List.mem_append.mp ho with ho | ho
      · exact absurd (hadded o ho) hop
      · exact h.exists_port o (List.mem_append_right _ ho)
  case ports =>
    intro q port'' hq
    by_cases hqp : q = p
    · subst hqp
      rw [hself, Option.some.injEq] at hq
      exact hq ▸ hsound
    · rw [hothers q hqp] at hq
      exact (h.ports q port'' hq).frame (fun o ho hoq => hqp (hoq.symm.trans (hremoved o ho)))
        (fun o ho hoq => hqp (hoq.symm.trans (hadded o ho))) (hregistry q hqp)

theorem port_lt (h : OwnersSound rt owners) (hport : rt.heap p = some port) : p < rt.nextPort := by
  refine Nat.lt_of_not_le fun hle => ?_
  rw [h.valid.heap_fresh p hle] at hport
  cases hport

/-- An owner that goes on while the Port is in use before and behind its step. -/
theorem goto (h : OwnersSound rt (owner :: rest))
    (hserial : owner.kind = .device → Settled (owner :: rest) owner.port)
    (hport : rt.heap owner.port = some port) {pc : OwnerPc}
    (hheap : ∀ q, rt'.heap q = if q = owner.port then some port' else rt.heap q)
    (hnext : rt'.nextPort = rt.nextPort) (hregistry : rt'.registry = rt.registry)
    (hcalls : CallsSound rt')
    (hreferences : port'.references + owner.pc.reference = port.references + pc.reference)
    (hused : port.references ≠ 0 ∧ port'.references ≠ 0) (hclaims : ClaimsValid port'.claims)
    (hcounts : ∀ i, claimCount port'.claims i + (if owner.pc.claim = some i then 1 else 0) =
      claimCount port.claims i + if pc.claim = some i then 1 else 0)
    (hleaving : owner.pc.leaving = 0 ∧ pc.leaving = 0) (hpc : ∀ i, pc ≠ .claimed i) :
    OwnersSound rt' ({ owner with pc } :: rest) := by
  refine @update rt rt' rest [owner] [{ owner with pc }] owner.port port' h (by simp) (by simp)
    hheap hnext (h.port_lt hport) (fun q _ => by rw [hregistry]) (hregistry ▸ h.nodup) hcalls ?_
  have hnot : ∀ {pc' : OwnerPc}, pc'.leaving = 0 → pc' ≠ .closing := by
    rintro pc' hpc' rfl
    exact absurd hpc' (by decide)
  have hsound := h.ports owner.port port hport
  refine hsound.goto hserial hreferences hclaims hcounts ?_ ?_ hpc
  · rw [if_neg hused.1, if_neg hused.2, hleaving.1, hleaving.2]
  · rw [hregistry]
    exact hsound.registered_goto (hnot hleaving.1) (hnot hleaving.2)

/-- A Port with a reference of one of its owners is in use. -/
theorem in_use (h : OwnersSound rt owners) (hmem : owner ∈ owners)
    (hport : rt.heap owner.port = some port) (hreference : owner.pc.reference = 1) :
    port.references ≠ 0 := by
  have hle := reference_le_holders hmem
  rw [hreference, ← (h.ports _ _ hport).references] at hle
  omega

/-- A claim of an owner is counted. -/
theorem claim_counted (h : OwnersSound rt owners) (hmem : owner ∈ owners)
    (hport : rt.heap owner.port = some port) {i : ℤ} (hclaim : owner.pc.claim = some i) :
    claimCount port.claims i ≠ 0 := by
  have hle := one_le_claimants hmem hclaim
  rw [← (h.ports _ _ hport).counts] at hle
  omega

/-- An owner that has taken the last reference away is alone: the Port has neither references nor
claims left. -/
theorem left (h : OwnersSound rt (owner :: rest)) (hport : rt.heap owner.port = some port)
    (hleaving : owner.pc.leaving = 1) :
    port.references = 0 ∧ port.claims = [] ∧ ∀ o ∈ rest, o.port ≠ owner.port := by
  have hsound := h.ports owner.port port hport
  have hleavers := hsound.leaving
  have hone := le_sum_of_mem (fun o => if o.port = owner.port then o.pc.leaving else 0)
    (List.mem_cons_self (a := owner) (l := rest))
  rw [if_pos rfl, hleaving] at hone
  have hzero : port.references = 0 := by
    by_contra hne
    rw [if_neg hne] at hleavers
    unfold leavers at hleavers
    omega
  have hidle : ∀ o ∈ owner :: rest, o.port = owner.port →
      o.pc.reference = 0 ∧ ∀ i, o.pc ≠ .claimed i := by
    intro o ho hop
    have hheap : rt.heap o.port = some port := hop ▸ hport
    have hunused : ∀ o' ∈ owner :: rest, o'.port = owner.port → o'.pc.reference ≠ 1 :=
      fun o' ho' hop' hreference =>
        h.in_use ho' (show rt.heap o'.port = some port from hop' ▸ hport) hreference hzero
    refine ⟨?_, fun i hpc => ?_⟩
    · have hne := hunused o ho hop
      cases hpc : o.pc <;> rw [hpc] at hne <;> first | rfl | exact absurd rfl hne
    · obtain ⟨held, hdevice⟩ := hsound.lent o ho hop i hpc
      exact hunused _ hdevice rfl rfl
  refine ⟨hzero, List.eq_nil_iff_forall_not_mem.mpr fun claim hclaim => ?_, fun o ho hop => ?_⟩
  · have hcount : claimCount port.claims claim.interfaceNumber ≠ 0 := by
      rw [hsound.claims.count_eq hclaim]
      exact hsound.claims.pos claim hclaim
    rw [hsound.counts] at hcount
    refine hcount (List.sum_eq_zero fun n hn => ?_)
    obtain ⟨o, ho, rfl⟩ := List.mem_map.mp hn
    refine if_neg fun ⟨hop, hclaimed⟩ => ?_
    obtain ⟨hreference, hnot⟩ := hidle o ho hop
    rw [(OwnerPc.leaves hreference hnot).1] at hclaimed
    cases hclaimed
  · obtain ⟨hreference, hnot⟩ := hidle o (List.mem_cons_of_mem _ ho) hop
    have htwo := le_sum_of_mem (fun o => if o.port = owner.port then o.pc.leaving else 0) ho
    rw [if_pos hop] at htwo
    rw [hzero, if_pos rfl, leavers, List.map_cons, List.sum_cons, if_pos rfl, hleaving] at hleavers
    rw [(OwnerPc.leaves hreference hnot).2] at htwo
    omega

/-- A Runtime in which only the calls of libusb are others. -/
theorem calls_congr (h : OwnersSound rt owners) {calls : List UsbCall} {handles : List UsbDevice}
    (hcalls : CallsSound { rt with handles, calls }) :
    OwnersSound { rt with handles, calls } owners where
  valid := ⟨h.valid.heap_fresh, h.valid.registered⟩
  calls := hcalls
  nodup := h.nodup
  exists_port := h.exists_port
  ports p port hport := by
    have hsound := h.ports p port hport
    exact ⟨hsound.references, hsound.claims, hsound.counts, hsound.leaving, hsound.registered,
      hsound.lent⟩

/-! ### Steps of an owner -/

/-- A step that leaves the Ports alone; the owner keeps its reference and has no claim. -/
theorem proceed (h : OwnersSound rt (owner :: rest))
    (hserial : owner.kind = .device → Settled (owner :: rest) owner.port) {pc : OwnerPc}
    (hheap : rt'.heap = rt.heap) (hnext : rt'.nextPort = rt.nextPort)
    (hregistry : rt'.registry = rt.registry) (hcalls : CallsSound rt')
    (hreference : owner.pc.reference = 1 ∧ pc.reference = 1)
    (hclaim : owner.pc.claim = none ∧ pc.claim = none)
    (hleaving : owner.pc.leaving = 0 ∧ pc.leaving = 0) :
    OwnersSound rt' ({ owner with pc } :: rest) := by
  obtain ⟨port, hport⟩ := h.exists_port owner List.mem_cons_self
  have hused := h.in_use List.mem_cons_self hport hreference.1
  refine h.goto hserial hport (fun q => ?_) hnext hregistry hcalls ?_ ⟨hused, hused⟩
    (h.ports owner.port port hport).claims (fun i => ?_) hleaving ?_
  · rw [hheap]
    by_cases hq : q = owner.port
    · rw [if_pos hq, hq, hport]
    · rw [if_neg hq]
  · rw [hreference.1, hreference.2]
  · rw [hclaim.1, hclaim.2]
  · rintro i rfl
    cases hreference.2

/-- The claim of an open. -/
theorem claimed (h : OwnersSound rt (owner :: rest))
    (hserial : owner.kind = .device → Settled (owner :: rest) owner.port)
    (hport : rt.heap owner.port = some port) {i : ℤ} (hpc : owner.pc = .acquired (some i)) :
    OwnersSound (rt.claimed owner.port port i) ({ owner with pc := .live (some i) } :: rest) := by
  have hclaims := (h.ports owner.port port hport).claims
  have hused := h.in_use List.mem_cons_self hport (by rw [hpc]; rfl)
  refine @goto rt _ rest owner port { port with claims := addClaim port.claims i } h hserial
    hport _ (fun q => rfl) rfl rfl (h.calls.addClaim hport hclaims i) ?_ ⟨hused, hused⟩
    (hclaims.add i) (fun j => ?_) ?_ (by rintro _ ⟨⟩)
  · rw [hpc]; rfl
  · dsimp only
    rw [hclaims.add_count, hpc]
    by_cases hj : j = i
    · simp [OwnerPc.claim, hj]
    · simp [OwnerPc.claim, hj, Ne.symm hj]
  · rw [hpc]; exact ⟨rfl, rfl⟩

/-- A claim that fails, also one that libusb has made. -/
theorem claim_failed (h : OwnersSound rt (owner :: rest))
    (hserial : owner.kind = .device → Settled (owner :: rest) owner.port) {i status result : ℤ}
    {memory : Bool} (hpc : owner.pc = .acquired (some i)) (hresult : result ≠ success)
    (hclaim : rt.claimInterface owner.port i status memory = (result, rt')) :
    OwnersSound rt' ({ owner with pc := .releasing } :: rest) := by
  obtain ⟨port, hport⟩ := h.exists_port owner List.mem_cons_self
  have hclaims := (h.ports owner.port port hport).claims
  have hreference : owner.pc.reference = 1 := by rw [hpc]; rfl
  have hnone : owner.pc.claim = none := by rw [hpc]; rfl
  have hstays : owner.pc.leaving = 0 := by rw [hpc]; rfl
  rcases Runtime.eq_of_claim_failed hport hclaims hresult hclaim with rfl | ⟨hzero, rfl⟩
  · exact h.proceed hserial rfl rfl rfl h.calls ⟨hreference, rfl⟩ ⟨hnone, rfl⟩ ⟨hstays, rfl⟩
  · exact h.proceed hserial rfl rfl rfl (h.calls.claim_undone hport hzero) ⟨hreference, rfl⟩
      ⟨hnone, rfl⟩ ⟨hstays, rfl⟩

/-- The reference of a Channel, behind its claim. -/
theorem retained (h : OwnersSound rt (owner :: rest))
    (hserial : owner.kind = .device → Settled (owner :: rest) owner.port) {i : ℤ}
    (hpc : owner.pc = .claimed i) :
    OwnersSound (rt.retain owner.port) ({ owner with pc := .live (some i) } :: rest) := by
  obtain ⟨port, hport⟩ := h.exists_port owner List.mem_cons_self
  have hsound := h.ports owner.port port hport
  -- The Device that the Channel is opened on has a reference meanwhile.
  obtain ⟨held, hdevice⟩ := hsound.lent owner List.mem_cons_self rfl i hpc
  have hused := h.in_use hdevice hport rfl
  refine h.goto hserial hport (Runtime.heap_retain hport) rfl rfl
    (h.calls.retain hport) ?_ ⟨hused, Nat.succ_ne_zero _⟩ hsound.claims (fun j => ?_) ?_
    (by rintro _ ⟨⟩)
  · rw [hpc]; rfl
  · rw [hpc]; rfl
  · rw [hpc]; exact ⟨rfl, rfl⟩

/-- The claim that an owner gives back. -/
theorem unclaimed (h : OwnersSound rt (owner :: rest))
    (hserial : owner.kind = .device → Settled (owner :: rest) owner.port) {i : ℤ}
    (hpc : owner.pc = .live (some i)) :
    OwnersSound (rt.releaseInterface owner.port i)
      ({ owner with pc := .releasing } :: rest) := by
  obtain ⟨port, hport⟩ := h.exists_port owner List.mem_cons_self
  have hused := h.in_use List.mem_cons_self hport (by rw [hpc]; rfl)
  have hcount := h.claim_counted List.mem_cons_self hport (i := i) (by rw [hpc]; rfl)
  rw [Runtime.releaseInterface_eq hport hcount]
  refine @goto rt _ rest owner port { port with claims := dropClaim port.claims i } h hserial
    hport _ (fun q => rfl) rfl rfl (h.calls.dropClaim hport hcount) ?_ ⟨hused, hused⟩
    ((h.ports owner.port port hport).claims.drop i) (fun j => ?_) ?_ (by rintro _ ⟨⟩)
  · rw [hpc]; rfl
  · have hdropped := claimCount_dropClaim hcount j
    rw [hpc]
    by_cases hj : j = i
    · subst hj
      simpa [OwnerPc.claim] using hdropped
    · simpa [OwnerPc.claim, hj, Ne.symm hj] using hdropped
  · rw [hpc]; exact ⟨rfl, rfl⟩

/-- A reference that is not the last one. -/
theorem released (h : OwnersSound rt (owner :: rest))
    (hserial : owner.kind = .device → Settled (owner :: rest) owner.port)
    (hpc : owner.pc = .releasing) (hport : rt.heap owner.port = some port)
    (hmore : port.references ≠ 1) : OwnersSound (rt.dropReference owner.port) rest := by
  have hsound := h.ports owner.port port hport
  have hused := h.in_use List.mem_cons_self hport (by rw [hpc]; rfl)
  refine @update rt _ rest [owner] [] owner.port
    { port with references := port.references - 1 } h (by simp) (by rintro _ ⟨⟩)
    (Runtime.heap_dropReference hport) rfl (h.port_lt hport) (fun _ _ => Iff.rfl) h.nodup
    (h.calls.dropReference hport) ?_
  refine @PortSound.change rt _ rest [owner] [] owner.port port _ hsound ?_ hsound.claims
    (fun i => ?_) ?_ ?_ (by rintro _ ⟨⟩) ?_
  · simp only [holders, hpc, OwnerPc.reference, List.map_cons, List.map_nil, List.sum_cons,
      List.sum_nil, if_true]
    omega
  · simp [claimants, hpc, OwnerPc.claim]
  · have hmore' : port.references - 1 ≠ 0 := by omega
    simp [leavers, hpc, OwnerPc.leaving, hused, hmore']
  · refine hsound.registered.trans ⟨fun hall o ho => hall o (List.mem_cons_of_mem _ ho),
      fun hall o ho hop => ?_⟩
    rcases List.mem_cons.mp ho with rfl | ho
    · rw [hpc]
      rintro ⟨⟩
    · exact hall o ho hop
  · intro o ho hkind
    rw [List.mem_singleton.mp ho] at hkind
    exact hserial hkind

/-- The last reference. -/
theorem released_last (h : OwnersSound rt (owner :: rest))
    (hserial : owner.kind = .device → Settled (owner :: rest) owner.port)
    (hpc : owner.pc = .releasing) (hport : rt.heap owner.port = some port)
    (hlast : port.references = 1) :
    OwnersSound (rt.dropReference owner.port) ({ owner with pc := .unregistering } :: rest) := by
  have hsound := h.ports owner.port port hport
  refine @update rt _ rest [owner] [{ owner with pc := .unregistering }] owner.port
    { port with references := port.references - 1 } h (by simp) (by simp)
    (Runtime.heap_dropReference hport) rfl (h.port_lt hport) (fun _ _ => Iff.rfl) h.nodup
    (h.calls.dropReference hport) ?_
  refine hsound.goto hserial ?_ hsound.claims (fun i => ?_) ?_ ?_ (by rintro _ ⟨⟩)
  · simp [hpc, OwnerPc.reference, hlast]
  · rw [hpc]; rfl
  · simp [hpc, OwnerPc.leaving, hlast]
  · exact hsound.registered_goto (by rw [hpc]; rintro ⟨⟩) (by rintro ⟨⟩)

/-- The Port leaves the registry. -/
theorem unregistered (h : OwnersSound rt (owner :: rest))
    (hserial : owner.kind = .device → Settled (owner :: rest) owner.port)
    (hpc : owner.pc = .unregistering) :
    OwnersSound (rt.unregisterPort owner.port) ({ owner with pc := .closing } :: rest) := by
  obtain ⟨port, hport⟩ := h.exists_port owner List.mem_cons_self
  have hsound := h.ports owner.port port hport
  have hcalls : CallsSound (rt.unregisterPort owner.port) :=
    ⟨h.calls.handle_lt, h.calls.handle_inj, h.calls.claimed, h.calls.unclaimed,
      h.calls.alternates, h.calls.opened, h.calls.open_once, h.calls.open_ports,
      h.calls.close_once, h.calls.close_last⟩
  refine @update rt _ rest [owner] [{ owner with pc := .closing }] owner.port port h (by simp)
    (by simp) (fun q => ?_) rfl (h.port_lt hport) (fun q hq => List.mem_erase_of_ne hq)
    (h.nodup.erase _) hcalls ?_
  · by_cases hq : q = owner.port
    · rw [if_pos hq, hq]
      exact hport
    · rw [if_neg hq]
      rfl
  · refine hsound.goto hserial ?_ hsound.claims (fun i => ?_) ?_ ?_ (by rintro _ ⟨⟩)
    · rw [hpc]; rfl
    · rw [hpc]; rfl
    · rw [hpc]; rfl
    · exact ⟨fun hin => absurd hin h.nodup.not_mem_erase,
        fun hall => absurd rfl (hall _ List.mem_cons_self rfl)⟩

/-- The Port is gone, with its last owner. -/
theorem closed (h : OwnersSound rt (owner :: rest)) (hpc : owner.pc = .closing) :
    OwnersSound (rt.closePort owner.port) rest := by
  obtain ⟨port, hport⟩ := h.exists_port owner List.mem_cons_self
  obtain ⟨-, hclaims, hgone⟩ := h.left hport (by rw [hpc]; rfl)
  have hout : owner.port ∉ rt.registry := fun hin =>
    (h.ports owner.port port hport).registered.mp hin owner List.mem_cons_self rfl hpc
  have hclosed : rt.closePort owner.port =
      { rt.updatePort owner.port none with calls := rt.calls ++ [.closed port.handle] } := by
    rw [Runtime.closePort, hport]
    simp [hclaims]
  have hcalls := h.calls.close hport hclaims
  rw [hclosed] at hcalls ⊢
  constructor
  case valid =>
    refine ⟨fun q hq => ?_, fun q hq => ?_⟩
    · exact (if_neg (Nat.ne_of_gt (Nat.lt_of_lt_of_le (h.port_lt hport) hq))).trans
        (h.valid.heap_fresh q hq)
    · obtain ⟨port', hport'⟩ := h.valid.registered q hq
      exact ⟨port', (if_neg fun hqp : q = owner.port => hout (hqp ▸ hq)).trans hport'⟩
  case calls => exact hcalls
  case nodup => exact h.nodup
  case exists_port =>
    intro o ho
    obtain ⟨port', hport'⟩ := h.exists_port o (List.mem_cons_of_mem _ ho)
    exact ⟨port', (if_neg (hgone o ho)).trans hport'⟩
  case ports =>
    intro q port' hq
    by_cases hqp : q = owner.port
    · rw [hqp] at hq
      cases (if_pos rfl).symm.trans hq
    · have hq := (if_neg hqp).symm.trans hq
      refine @PortSound.frame rt _ rest [owner] [] q port' (h.ports q port' hq) ?_
        (by rintro _ ⟨⟩) Iff.rfl
      intro o ho hoq
      rw [List.mem_singleton.mp ho] at hoq
      exact hqp hoq.symm

/-- **A step of an owner.** -/
theorem ownerStep (h : OwnersSound rt (owner :: rest))
    (hserial : owner.kind = .device → Settled (owner :: rest) owner.port) {next : Option Owner}
    (hstep : OwnerStep rt owner rt' next) : OwnersSound rt' (next.toList ++ rest) := by
  cases hstep with
  | unclaimed hpc =>
    refine h.proceed hserial rfl rfl rfl h.calls ⟨?_, rfl⟩ ⟨?_, rfl⟩ ⟨?_, rfl⟩
    all_goals rw [hpc]; rfl
  | claim hpc hclaim =>
    obtain ⟨port, hport⟩ := h.exists_port owner List.mem_cons_self
    obtain rfl := Runtime.eq_claimed hport (h.ports owner.port port hport).claims hclaim
    exact h.claimed hserial hport hpc
  | claim_failed hpc hresult hclaim => exact h.claim_failed hserial hpc hresult hclaim
  | retain hpc => exact h.retained hserial hpc
  | unclaim hpc => exact h.unclaimed hserial hpc
  | done hpc =>
    refine h.proceed hserial rfl rfl rfl h.calls ⟨?_, rfl⟩ ⟨?_, rfl⟩ ⟨?_, rfl⟩
    all_goals rw [hpc]; rfl
  | release hpc hport hmore => exact h.released hserial hpc hport hmore
  | release_last hpc hport hlast => exact h.released_last hserial hpc hport hlast
  | unregister hpc => exact h.unregistered hserial hpc
  | close hpc => exact h.closed hpc

/-! ### The start of an owner -/

/-- A new owner of a Port that is in use. -/
theorem join (h : OwnersSound rt owners) (hport : rt.heap p = some port) {kind : OwnerKind}
    {pc : OwnerPc} (hheap : ∀ q, rt'.heap q = if q = p then some port' else rt.heap q)
    (hnext : rt'.nextPort = rt.nextPort) (hregistry : rt'.registry = rt.registry)
    (hcalls : CallsSound rt') (hreferences : port'.references = port.references + pc.reference)
    (hused : port.references ≠ 0) (hclaims : ClaimsValid port'.claims)
    (hcounts : ∀ i, claimCount port'.claims i =
      claimCount port.claims i + if pc.claim = some i then 1 else 0)
    (hleaving : pc.leaving = 0) (hlent : ∀ i, pc = .claimed i →
      ∃ held, { port := p, kind := .device, pc := .live held } ∈ owners) :
    OwnersSound rt' ({ port := p, kind, pc } :: owners) := by
  have hsound := h.ports p port hport
  have hused' : port'.references ≠ 0 := by omega
  refine @update rt rt' owners [] [{ port := p, kind, pc }] p port' h nofun (by simp) hheap hnext
    (h.port_lt hport) (fun q _ => by rw [hregistry]) (hregistry ▸ h.nodup) hcalls ?_
  refine @PortSound.change rt rt' owners [] [{ port := p, kind, pc }] p port port' hsound ?_ hclaims
    (fun i => ?_) ?_ ?_ ?_ nofun
  · simpa [holders] using hreferences
  · simpa [claimants] using hcounts i
  · simp [leavers, hleaving, hused, hused']
  · rw [hregistry, hsound.registered]
    refine ⟨fun hall o ho hop => ?_, fun hall o ho => hall o (List.mem_cons_of_mem _ ho)⟩
    rcases List.mem_cons.mp ho with rfl | ho
    · rintro rfl
      exact absurd hleaving (by decide)
    · exact hall o ho hop
  · intro o ho _ i hclaimed
    rw [List.mem_singleton.mp ho] at hclaimed
    exact hlent i hclaimed

/-- The first owner of a new Port. -/
theorem acquired (h : OwnersSound rt owners) (c : Candidate) (device : UsbDevice)
    (kind : OwnerKind) (plan : Option ℤ) :
    OwnersSound (rt.acquired c device)
      ({ port := rt.nextPort, kind, pc := .acquired plan } :: owners) := by
  have hfresh := h.valid.heap_fresh _ (Nat.le_refl rt.nextPort)
  have hothers : ∀ q, q ≠ rt.nextPort → (rt.acquired c device).heap q = rt.heap q :=
    fun q hq => if_neg hq
  have hregistry : (rt.acquired c device).registry = rt.registry ++ [rt.nextPort] := rfl
  have hnone : ∀ o ∈ owners, o.port ≠ rt.nextPort := by
    intro o ho hop
    obtain ⟨port, hport⟩ := h.exists_port o ho
    rw [hop, hfresh] at hport
    cases hport
  constructor
  case valid =>
    refine ⟨fun q hq => ?_, fun q hq => ?_⟩
    · have hq : rt.nextPort + 1 ≤ q := hq
      rw [hothers q (by omega)]
      exact h.valid.heap_fresh q (by omega)
    · by_cases hqp : q = rt.nextPort
      · exact ⟨_, if_pos hqp⟩
      · rw [hothers q hqp]
        rw [hregistry] at hq
        refine h.valid.registered q ?_
        simpa [hqp] using hq
  case calls => exact h.calls.acquire hfresh c device
  case nodup =>
    rw [hregistry]
    refine List.nodup_append.mpr ⟨h.nodup, List.nodup_singleton _, fun a ha b hb => ?_⟩
    rw [List.mem_singleton.mp hb]
    rintro rfl
    exact h.valid.nextPort_notMem ha
  case exists_port =>
    intro o ho
    rcases List.mem_cons.mp ho with rfl | ho
    · exact ⟨_, if_pos rfl⟩
    · rw [hothers _ (hnone o ho)]
      exact h.exists_port o ho
  case ports =>
    intro q port hq
    by_cases hqp : q = rt.nextPort
    · subst hqp
      obtain rfl := Option.some.inj ((if_pos rfl).symm.trans hq)
      obtain ⟨hholders, hclaimants, hleavers⟩ := counts_eq_zero hnone
      constructor
      case references => simpa [holders, OwnerPc.reference] using hholders
      case claims => exact .nil
      case counts =>
        intro i
        simpa [claimants, OwnerPc.claim] using (hclaimants i).symm
      case leaving => simpa [leavers, OwnerPc.leaving] using hleavers
      case registered =>
        refine ⟨fun _ o ho hop => ?_, fun _ => hregistry ▸ List.mem_append_right _
          List.mem_cons_self⟩
        rcases List.mem_cons.mp ho with rfl | ho
        · nofun
        · exact absurd hop (hnone o ho)
      case lent =>
        intro o ho hop i hclaimed
        rcases List.mem_cons.mp ho with rfl | ho
        · cases hclaimed
        · exact absurd hop (hnone o ho)
    · rw [hothers q hqp] at hq
      refine @PortSound.frame rt _ owners [] [{ port := rt.nextPort, kind, pc := .acquired plan }]
        q port (h.ports q port hq) nofun ?_ ?_
      · intro o ho hoq
        rw [List.mem_singleton.mp ho] at hoq
        exact hqp hoq.symm
      · rw [hregistry]
        simp [hqp]

/-- **The start of an owner.** -/
theorem start (h : OwnersSound rt owners) {next : Option Owner}
    (hstart : Start { runtime := rt, owners } rt' next) :
    OwnersSound rt' (next.toList ++ owners) := by
  cases hstart with
  | @acquire host candidate bus bus' p rt' kind plan hkind hacquire =>
    obtain ⟨rfl, device, rfl⟩ := Runtime.eq_acquired hacquire
    exact h.acquired candidate device kind plan
  | acquire_failed hacquire =>
    rcases Runtime.acquirePort_failed hacquire with rfl | ⟨device, rfl⟩
    · exact h
    · exact h.calls_congr (h.calls.acquire_undone device)
  | @channel p held i status memory rt' hdevice hclaim =>
    obtain ⟨port, hport⟩ := h.exists_port _ hdevice
    have hsound := h.ports p port hport
    have hused := h.in_use hdevice hport rfl
    obtain rfl := Runtime.eq_claimed hport hsound.claims hclaim
    refine @join rt _ owners p port { port with claims := addClaim port.claims i } h hport _ _
      (fun q => rfl) rfl rfl (h.calls.addClaim hport hsound.claims i) rfl hused
      (hsound.claims.add i) (fun j => ?_) rfl fun _ _ => ⟨held, hdevice⟩
    dsimp only
    rw [hsound.claims.add_count]
    by_cases hj : j = i
    · simp [OwnerPc.claim, hj]
    · simp [OwnerPc.claim, hj, Ne.symm hj]
  | @channel_failed p held i status result memory rt' hdevice hresult hclaim =>
    obtain ⟨port, hport⟩ := h.exists_port _ hdevice
    have hsound := h.ports p port hport
    rcases Runtime.eq_of_claim_failed hport hsound.claims hresult hclaim with rfl | ⟨hzero, rfl⟩
    · exact h
    · exact h.calls_congr (h.calls.claim_undone hport hzero)
  | @borrow bus address p rt' hretain =>
    obtain ⟨port, hport, hused, rfl⟩ := Runtime.retainPort_eq_some hretain
    have hport : rt.heap p = some port := hport
    exact @join rt _ owners _ port { port with references := port.references + 1 } h hport _ _
      (Runtime.heap_retain hport) rfl rfl (h.calls.retain hport) rfl hused
      (h.ports _ _ hport).claims (fun _ => rfl) rfl nofun

/-! ### What a step does to a Port -/

/-- An owner of a Port that has no references left is on its way out. -/
theorem leaves (h : OwnersSound rt owners) (hmem : owner ∈ owners)
    (hport : rt.heap owner.port = some port) (hzero : port.references = 0) :
    owner.pc.leaving = 1 := by
  have hunused : ∀ o ∈ owners, o.port = owner.port → o.pc.reference ≠ 1 :=
    fun o ho hop hreference =>
      h.in_use ho (show rt.heap o.port = some port from hop ▸ hport) hreference hzero
  have hreference : owner.pc.reference = 0 := by
    have hne := hunused owner hmem rfl
    cases hpc : owner.pc <;> rw [hpc] at hne <;> first | rfl | exact absurd rfl hne
  refine (OwnerPc.leaves hreference fun i hpc => ?_).2
  obtain ⟨held, hdevice⟩ := (h.ports _ _ hport).lent owner hmem rfl i hpc
  exact hunused _ hdevice rfl rfl

/-- A step of an owner changes nothing but its Port, which stays until the end of the release. -/
theorem ownerStep_heap (h : OwnersSound rt (owner :: rest)) {next : Option Owner}
    (hstep : OwnerStep rt owner rt' next) :
    (∀ q, q ≠ owner.port → rt'.heap q = rt.heap q) ∧
      (owner.pc ≠ .closing → rt'.heap owner.port ≠ none) ∧
      (owner.pc = .unregistering → rt'.heap = rt.heap) ∧
      (owner.pc = .closing → rt' = rt.closePort owner.port) := by
  obtain ⟨port, hport⟩ := h.exists_port owner List.mem_cons_self
  have hclaims := (h.ports owner.port port hport).claims
  have hsome : rt.heap owner.port ≠ none := by
    rw [hport]
    rintro ⟨⟩
  have hset : ∀ port', (if owner.port = owner.port then some port' else rt.heap owner.port) ≠
      none := fun port' => by
    rw [if_pos rfl]
    rintro ⟨⟩
  cases hstep with
  | unclaimed hpc => exact ⟨fun _ _ => rfl, fun _ => hsome, fun _ => rfl, by rw [hpc]; rintro ⟨⟩⟩
  | @claim i status memory rt' hpc hclaim =>
    obtain rfl := Runtime.eq_claimed hport hclaims hclaim
    exact ⟨fun q hq => if_neg hq, fun _ => hset _, by rw [hpc]; rintro ⟨⟩, by rw [hpc]; rintro ⟨⟩⟩
  | @claim_failed i status result memory rt' hpc hresult hclaim =>
    rcases Runtime.eq_of_claim_failed hport hclaims hresult hclaim with rfl | ⟨-, rfl⟩
    · exact ⟨fun _ _ => rfl, fun _ => hsome, fun _ => rfl, by rw [hpc]; rintro ⟨⟩⟩
    · exact ⟨fun _ _ => rfl, fun _ => hsome, fun _ => rfl, by rw [hpc]; rintro ⟨⟩⟩
  | retain hpc =>
    rw [Runtime.retain, hport]
    exact ⟨fun q hq => if_neg hq, fun _ => hset _, by rw [hpc]; rintro ⟨⟩, by rw [hpc]; rintro ⟨⟩⟩
  | @unclaim i hpc =>
    have hcount := h.claim_counted List.mem_cons_self hport (i := i) (by rw [hpc]; rfl)
    rw [Runtime.releaseInterface_eq hport hcount]
    exact ⟨fun q hq => if_neg hq, fun _ => hset _, by rw [hpc]; rintro ⟨⟩, by rw [hpc]; rintro ⟨⟩⟩
  | done hpc => exact ⟨fun _ _ => rfl, fun _ => hsome, fun _ => rfl, by rw [hpc]; rintro ⟨⟩⟩
  | release hpc =>
    rw [Runtime.dropReference, hport]
    exact ⟨fun q hq => if_neg hq, fun _ => hset _, by rw [hpc]; rintro ⟨⟩, by rw [hpc]; rintro ⟨⟩⟩
  | release_last hpc =>
    rw [Runtime.dropReference, hport]
    exact ⟨fun q hq => if_neg hq, fun _ => hset _, by rw [hpc]; rintro ⟨⟩, by rw [hpc]; rintro ⟨⟩⟩
  | unregister hpc => exact ⟨fun _ _ => rfl, fun _ => hsome, fun _ => rfl, by rw [hpc]; rintro ⟨⟩⟩
  | close hpc =>
    have hothers : ∀ q, q ≠ owner.port → (rt.closePort owner.port).heap q = rt.heap q := by
      intro q hq
      rw [Runtime.closePort, hport]
      exact if_neg hq
    exact ⟨hothers, fun hne => absurd hpc hne, by rw [hpc]; rintro ⟨⟩, fun _ => rfl⟩

/-- The start of an owner takes no Port away, and none that has no references left changes. -/
theorem start_heap (h : OwnersSound rt owners) {next : Option Owner}
    (hstart : Start { runtime := rt, owners } rt' next) (hport : rt.heap p = some port) :
    rt'.heap p ≠ none ∧ (port.references = 0 → rt'.heap p = some port) := by
  have hkept : rt'.heap p = some port →
      rt'.heap p ≠ none ∧ (port.references = 0 → rt'.heap p = some port) := fun heq =>
    ⟨by rw [heq]; nofun, fun _ => heq⟩
  have hchanged : ∀ q port₀ port', rt.heap q = some port₀ → port₀.references ≠ 0 →
      (∀ r, rt'.heap r = if r = q then some port' else rt.heap r) →
      rt'.heap p ≠ none ∧ (port.references = 0 → rt'.heap p = some port) := by
    intro q port₀ port' hq hused hheap
    by_cases hpq : p = q
    · subst hpq
      rw [hport, Option.some.injEq] at hq
      refine ⟨?_, fun hzero => absurd (hq ▸ hzero) hused⟩
      rw [hheap, if_pos rfl]
      nofun
    · exact hkept ((hheap p).trans ((if_neg hpq).trans hport))
  cases hstart with
  | @acquire host candidate bus bus' p' rt' kind plan hkind hacquire =>
    obtain ⟨-, device, rfl⟩ := Runtime.eq_acquired hacquire
    exact hkept ((if_neg (Nat.ne_of_lt (h.port_lt hport))).trans hport)
  | acquire_failed hacquire =>
    rcases Runtime.acquirePort_failed hacquire with rfl | ⟨device, rfl⟩ <;> exact hkept hport
  | @channel p' held i status memory rt' hdevice hclaim =>
    obtain ⟨port₀, hport₀⟩ := h.exists_port _ hdevice
    obtain rfl := Runtime.eq_claimed hport₀ (h.ports p' port₀ hport₀).claims hclaim
    exact hchanged p' port₀ _ hport₀ (h.in_use hdevice hport₀ rfl) fun r => rfl
  | @channel_failed p' held i status result memory rt' hdevice hresult hclaim =>
    obtain ⟨port₀, hport₀⟩ := h.exists_port _ hdevice
    rcases Runtime.eq_of_claim_failed hport₀ (h.ports p' port₀ hport₀).claims hresult hclaim with
      rfl | ⟨-, rfl⟩ <;> exact hkept hport
  | @borrow bus address p' rt' hretain =>
    obtain ⟨port₀, hport₀, hused, rfl⟩ := Runtime.retainPort_eq_some hretain
    have hport₀ : rt.heap p' = some port₀ := hport₀
    exact hchanged p' port₀ { port₀ with references := port₀.references + 1 } hport₀ hused
      (Runtime.heap_retain hport₀)

end OwnersSound

/-! ### An open that fails -/

/-- A Runtime in which one owner has done something since `rt₀`: `base` is its Port without it. -/
structure Adds (rt₀ : Runtime) (base : Port) (rt : Runtime) (owner : Owner) : Prop where
  heap : ∀ q, rt.heap q = if q = owner.port then
    some { base with
      references := base.references + owner.pc.reference
      claims := owner.pc.claim.elim base.claims (addClaim base.claims) }
    else rt₀.heap q
  valid : ClaimsValid base.claims
  shared : base.references ≠ 0 → rt₀.heap owner.port = some base ∧ rt.registry = rt₀.registry ∧
    owner.pc.leaving = 0
  fresh : base.references = 0 → rt₀.heap owner.port = none ∧ base.claims = [] ∧
    owner.port ∉ rt₀.registry ∧
      rt.registry = if owner.pc = .closing then rt₀.registry else rt₀.registry ++ [owner.port]

namespace Adds

variable {rt₀ : Runtime} {base : Port}

/-- The Port as the owner sees it. -/
theorem self (h : Adds rt₀ base rt owner) : rt.heap owner.port = some { base with
    references := base.references + owner.pc.reference
    claims := owner.pc.claim.elim base.claims (addClaim base.claims) } :=
  (h.heap owner.port).trans (if_pos rfl)

/-- The owner goes on, and the registry stays. -/
theorem goto (h : Adds rt₀ base rt owner) {pc : OwnerPc} (hregistry : rt'.registry = rt.registry)
    (hheap : ∀ q, rt'.heap q = if q = owner.port then
      some { base with
        references := base.references + pc.reference
        claims := pc.claim.elim base.claims (addClaim base.claims) }
      else rt₀.heap q)
    (hleaving : base.references ≠ 0 → pc.leaving = 0) (hclosing : owner.pc ≠ .closing)
    (hclosing' : pc ≠ .closing) : Adds rt₀ base rt' { owner with pc } where
  heap := hheap
  valid := h.valid
  shared hused := by
    obtain ⟨hbase, hsame, -⟩ := h.shared hused
    exact ⟨hbase, hregistry.trans hsame, hleaving hused⟩
  fresh hzero := by
    obtain ⟨hnone, hclaims, hout, hsame⟩ := h.fresh hzero
    refine ⟨hnone, hclaims, hout, ?_⟩
    rw [if_neg hclosing] at hsame
    rw [hregistry, hsame]
    exact (if_neg hclosing').symm

/-- The owner changes its Port. -/
theorem set (h : Adds rt₀ base rt owner) (port : Option Port) (q : ℕ) :
    (rt.updatePort owner.port port).heap q = if q = owner.port then port else rt₀.heap q := by
  rw [Runtime.updatePort]
  dsimp only
  rw [h.heap]
  by_cases hq : q = owner.port
  · rw [if_pos hq, if_pos hq]
  · rw [if_neg hq, if_neg hq, if_neg hq]

/-- A step that leaves the Ports alone. -/
theorem proceed (h : Adds rt₀ base rt owner) {pc : OwnerPc} (hclosing : owner.pc ≠ .closing)
    (hreference : pc.reference = owner.pc.reference) (hclaim : pc.claim = owner.pc.claim)
    (hleaving : pc.leaving = 0) (hheap : rt'.heap = rt.heap)
    (hregistry : rt'.registry = rt.registry) : Adds rt₀ base rt' { owner with pc } := by
  refine h.goto hregistry (fun q => ?_) (fun _ => hleaving) hclosing ?_
  · rw [hheap, hreference, hclaim]
    exact h.heap q
  · rintro rfl
    cases hleaving

/-- The claim of an open. -/
theorem claimed (h : Adds rt₀ base rt owner) {i status : ℤ} {memory : Bool}
    (hpc : owner.pc = .acquired (some i))
    (hclaim : rt.claimInterface owner.port i status memory = (success, rt')) :
    Adds rt₀ base rt' { owner with pc := .live (some i) } := by
  have hself := h.self
  rw [hpc] at hself
  obtain rfl := Runtime.eq_claimed hself h.valid hclaim
  exact h.goto rfl (h.set _) (fun _ => rfl) (by rw [hpc]; rintro ⟨⟩) (by rintro ⟨⟩)

/-- A claim that fails. -/
theorem claim_failed (h : Adds rt₀ base rt owner) {i status result : ℤ} {memory : Bool}
    (hpc : owner.pc = .acquired (some i)) (hresult : result ≠ success)
    (hclaim : rt.claimInterface owner.port i status memory = (result, rt')) :
    Adds rt₀ base rt' { owner with pc := .releasing } := by
  have hself := h.self
  rw [hpc] at hself
  have hclosing : owner.pc ≠ .closing := by rw [hpc]; rintro ⟨⟩
  rcases Runtime.eq_of_claim_failed hself h.valid hresult hclaim with rfl | ⟨-, rfl⟩
  · exact h.proceed hclosing (by rw [hpc]; rfl) (by rw [hpc]; rfl) rfl rfl rfl
  · exact h.proceed hclosing (by rw [hpc]; rfl) (by rw [hpc]; rfl) rfl rfl rfl

/-- The reference of a Channel, behind its claim. -/
theorem retained (h : Adds rt₀ base rt owner) {i : ℤ} (hpc : owner.pc = .claimed i) :
    Adds rt₀ base (rt.retain owner.port) { owner with pc := .live (some i) } := by
  have hself := h.self
  rw [hpc] at hself
  refine h.goto rfl (fun q => ?_) (fun _ => rfl) (by rw [hpc]; rintro ⟨⟩) (by rintro ⟨⟩)
  rw [Runtime.retain, hself]
  exact h.set _ q

/-- The claim that the owner gives back. -/
theorem unclaimed (h : Adds rt₀ base rt owner) {i : ℤ} (hpc : owner.pc = .live (some i)) :
    Adds rt₀ base (rt.releaseInterface owner.port i) { owner with pc := .releasing } := by
  have hself := h.self
  rw [hpc] at hself
  have hcount : claimCount (addClaim base.claims i) i ≠ 0 := by
    rw [h.valid.add_count, if_pos rfl]
    exact Nat.succ_ne_zero _
  rw [Runtime.releaseInterface_eq hself hcount]
  refine h.goto rfl (fun q => ?_) (fun _ => rfl) (by rw [hpc]; rintro ⟨⟩) (by rintro ⟨⟩)
  refine (h.set _ q).trans (congrArg (fun port => if q = owner.port then some port else rt₀.heap q)
    ?_)
  exact congrArg (fun claims => ({ base with
    references := base.references + 1
    claims } : Port)) (h.valid.drop_add i)

/-- A reference that is not the last one: the Port is as it was. -/
theorem released (h : Adds rt₀ base rt owner) (hpc : owner.pc = .releasing)
    (hport : rt.heap owner.port = some port) (hmore : port.references ≠ 1) :
    (rt.dropReference owner.port).heap = rt₀.heap ∧
      (rt.dropReference owner.port).registry = rt₀.registry := by
  have hself := h.self
  rw [hpc] at hself
  rw [hself, Option.some.injEq] at hport
  subst hport
  have hused : base.references ≠ 0 := by
    intro hzero
    rw [hzero] at hmore
    exact hmore rfl
  obtain ⟨hbase, hregistry, -⟩ := h.shared hused
  refine ⟨funext fun q => ?_, hregistry⟩
  rw [Runtime.dropReference, hself]
  refine (h.set _ q).trans ?_
  by_cases hq : q = owner.port
  · rw [if_pos hq, hq, hbase]
    rfl
  · rw [if_neg hq]

/-- The last reference: the Port is one that the open has made. -/
theorem released_last (h : Adds rt₀ base rt owner) (hpc : owner.pc = .releasing)
    (hport : rt.heap owner.port = some port) (hlast : port.references = 1) :
    Adds rt₀ base (rt.dropReference owner.port) { owner with pc := .unregistering } := by
  have hself := h.self
  rw [hpc] at hself
  have hzero : base.references = 0 := by
    rw [hself, Option.some.injEq] at hport
    subst hport
    exact Nat.succ.inj hlast
  refine h.goto rfl (fun q => ?_) (fun hused => absurd hzero hused)
    (by rw [hpc]; rintro ⟨⟩) (by rintro ⟨⟩)
  rw [Runtime.dropReference, hself]
  exact h.set _ q

/-- An owner on its way out is that of a Port that the open has made. -/
theorem made (h : Adds rt₀ base rt owner) (hleaving : owner.pc.leaving = 1) :
    base.references = 0 := by
  by_contra hused
  rw [(h.shared hused).2.2] at hleaving
  cases hleaving

/-- The Port leaves the registry. -/
theorem unregistered (h : Adds rt₀ base rt owner) (hpc : owner.pc = .unregistering) :
    Adds rt₀ base (rt.unregisterPort owner.port) { owner with pc := .closing } := by
  have hzero := h.made (by rw [hpc]; rfl)
  obtain ⟨hnone, hclaims, hout, hregistry⟩ := h.fresh hzero
  refine ⟨fun q => ?_, h.valid, fun hused => absurd hzero hused, fun _ =>
    ⟨hnone, hclaims, hout, ?_⟩⟩
  · have hheap := h.heap q
    rw [hpc] at hheap
    exact hheap
  · rw [hpc] at hregistry
    rw [Runtime.unregisterPort, hregistry]
    simp [List.erase_append_right _ hout]

/-- The Port is gone. -/
theorem closed (h : Adds rt₀ base rt owner) (hpc : owner.pc = .closing) :
    (rt.closePort owner.port).heap = rt₀.heap ∧
      (rt.closePort owner.port).registry = rt₀.registry := by
  obtain ⟨hnone, -, -, hregistry⟩ := h.fresh (h.made (by rw [hpc]; rfl))
  rw [if_pos hpc] at hregistry
  rw [Runtime.closePort, h.self]
  refine ⟨funext fun q => (h.set none q).trans ?_, hregistry⟩
  by_cases hq : q = owner.port
  · rw [if_pos hq, hq, hnone]
  · rw [if_neg hq]

/-- **A step of the owner**: it goes on, or it has ended and nothing is left of it. -/
theorem ownerStep (h : Adds rt₀ base rt owner) {next : Option Owner}
    (hstep : OwnerStep rt owner rt' next) :
    (∀ owner', next = some owner' → Adds rt₀ base rt' owner') ∧
      (next = none → rt'.heap = rt₀.heap ∧ rt'.registry = rt₀.registry) := by
  have hgoes : ∀ {owner₁ : Owner}, Adds rt₀ base rt' owner₁ →
      (∀ owner', some owner₁ = some owner' → Adds rt₀ base rt' owner') ∧
        (some owner₁ = none → rt'.heap = rt₀.heap ∧ rt'.registry = rt₀.registry) :=
    fun hadds => ⟨fun _ heq => Option.some.inj heq ▸ hadds, (by rintro ⟨⟩)⟩
  cases hstep with
  | unclaimed hpc =>
    refine hgoes (h.proceed ?_ ?_ ?_ rfl rfl rfl)
    · rw [hpc]; rintro ⟨⟩
    · rw [hpc]; rfl
    · rw [hpc]; rfl
  | claim hpc hclaim => exact hgoes (h.claimed hpc hclaim)
  | claim_failed hpc hresult hclaim => exact hgoes (h.claim_failed hpc hresult hclaim)
  | retain hpc => exact hgoes (h.retained hpc)
  | unclaim hpc => exact hgoes (h.unclaimed hpc)
  | done hpc =>
    refine hgoes (h.proceed ?_ ?_ ?_ rfl rfl rfl)
    · rw [hpc]; rintro ⟨⟩
    · rw [hpc]; rfl
    · rw [hpc]; rfl
  | release hpc hport hmore => exact ⟨(by rintro _ ⟨⟩), fun _ => h.released hpc hport hmore⟩
  | release_last hpc hport hlast => exact hgoes (h.released_last hpc hport hlast)
  | unregister hpc => exact hgoes (h.unregistered hpc)
  | close hpc => exact ⟨(by rintro _ ⟨⟩), fun _ => h.closed hpc⟩

/-- **The start of an owner.** -/
theorem start {s : PortState} (h : OwnersSound s.runtime s.owners) {next : Option Owner}
    (hstart : Start s rt' next) :
    (∀ owner, next = some owner → ∃ base, Adds s.runtime base rt' owner) ∧
      (next = none → rt'.heap = s.runtime.heap ∧ rt'.registry = s.runtime.registry) := by
  cases hstart with
  | @acquire host candidate bus bus' p rt' kind plan hkind hacquire =>
    obtain ⟨rfl, device, rfl⟩ := Runtime.eq_acquired hacquire
    refine ⟨fun owner heq => ?_, nofun⟩
    obtain rfl := Option.some.inj heq
    refine ⟨{ handle := s.runtime.handles.length
              bus := candidate.bus
              address := device.address
              references := 0 }, fun q => rfl, .nil, fun hused => absurd rfl hused, fun _ => ?_⟩
    exact ⟨h.valid.heap_fresh _ (Nat.le_refl _), rfl, h.valid.nextPort_notMem, rfl⟩
  | acquire_failed hacquire =>
    refine ⟨nofun, fun _ => ?_⟩
    rcases Runtime.acquirePort_failed hacquire with rfl | ⟨device, rfl⟩ <;> exact ⟨rfl, rfl⟩
  | @channel p held i status memory rt' hdevice hclaim =>
    obtain ⟨port, hport⟩ := h.exists_port _ hdevice
    have hsound := h.ports p port hport
    have hused := h.in_use hdevice hport rfl
    obtain rfl := Runtime.eq_claimed hport hsound.claims hclaim
    refine ⟨fun owner heq => ?_, nofun⟩
    obtain rfl := Option.some.inj heq
    exact ⟨port, fun q => rfl, hsound.claims, fun _ => ⟨hport, rfl, rfl⟩,
      fun hzero => absurd hzero hused⟩
  | @channel_failed p held i status result memory rt' hdevice hresult hclaim =>
    obtain ⟨port, hport⟩ := h.exists_port _ hdevice
    refine ⟨nofun, fun _ => ?_⟩
    rcases Runtime.eq_of_claim_failed hport (h.ports p port hport).claims hresult hclaim with
      rfl | ⟨-, rfl⟩ <;> exact ⟨rfl, rfl⟩
  | @borrow bus address p rt' hretain =>
    obtain ⟨port, hport, hused, rfl⟩ := Runtime.retainPort_eq_some hretain
    refine ⟨fun owner heq => ?_, nofun⟩
    obtain rfl := Option.some.inj heq
    refine ⟨port, fun q => ?_, (h.ports p port hport).claims, fun _ => ⟨hport, rfl, rfl⟩,
      fun hzero => absurd hzero hused⟩
    rw [Runtime.retain, hport]
    rfl

end Adds

/-- An open on its own leaves nothing behind once it has ended. -/
theorem Alone.ended {s : PortState} (h : OwnersSound s.runtime s.owners) {next : Option Owner}
    (halone : Alone s rt next) :
    (∀ owner, next = some owner → ∃ base, Adds s.runtime base rt owner) ∧
      (next = none → rt.heap = s.runtime.heap ∧ rt.registry = s.runtime.registry) := by
  induction halone with
  | start hstart => exact Adds.start h hstart
  | step _ hstep ih =>
    obtain ⟨base, hadds⟩ := ih.1 _ rfl
    obtain ⟨hnext, hended⟩ := hadds.ownerStep hstep
    exact ⟨fun owner' heq => ⟨base, hnext owner' heq⟩, hended⟩

/-- Only the start of a Channel has a claim without a reference. -/
theorem OwnerStep.next {next : Option Owner} (hstep : OwnerStep rt owner rt' next) :
    ∀ owner' ∈ next, owner'.port = owner.port ∧ owner'.kind = owner.kind ∧
      ∀ i, owner'.pc ≠ .claimed i := by
  intro owner' hmem
  cases hstep <;> cases hmem <;> exact ⟨rfl, rfl, nofun⟩

/-- A Device that is opened on its own has its Port for itself. -/
theorem Alone.settled {s : PortState} (h : OwnersSound s.runtime s.owners) {next : Option Owner}
    (halone : Alone s rt next) : ∀ owner ∈ next, owner.kind = .device →
      (∀ o ∈ s.owners, o.port ≠ owner.port) ∧ ∀ i, owner.pc ≠ .claimed i := by
  induction halone with
  | start hstart =>
    intro owner hmem hkind
    cases hstart with
    | acquire _ hacquire =>
      obtain ⟨rfl, -⟩ := Runtime.eq_acquired hacquire
      cases hmem
      refine ⟨fun o ho hport => ?_, nofun⟩
      obtain ⟨port, hport'⟩ := h.exists_port o ho
      rw [hport, h.valid.heap_fresh _ (Nat.le_refl _)] at hport'
      cases hport'
    | acquire_failed => cases hmem
    | channel => cases hmem; cases hkind
    | channel_failed => cases hmem
    | borrow => cases hmem; cases hkind
  | step _ hstep ih =>
    intro owner' hmem hkind
    obtain ⟨hport, hsame, hpc⟩ := hstep.next owner' hmem
    rw [hport]
    exact ⟨(ih _ rfl (hsame.symm.trans hkind)).1, hpc⟩

/-- The owners and the Ports agree while an open is on its own. -/
theorem Alone.sound {s : PortState} (h : OwnersSound s.runtime s.owners) {next : Option Owner}
    (halone : Alone s rt next) : OwnersSound rt (next.toList ++ s.owners) := by
  induction halone with
  | start hstart => exact h.start hstart
  | @step rt rt' owner next halone hstep ih =>
    refine ih.ownerStep (fun hkind o ho hport => ?_) hstep
    obtain ⟨hothers, hpc⟩ := halone.settled h owner rfl hkind
    rcases List.mem_cons.mp ho with rfl | ho
    · exact hpc
    · exact absurd hport (hothers o ho)

/-- What libusb has claimed can be told from the Ports. -/
theorem CallsSound.claimed_iff (h : CallsSound rt) (handle : ℕ) (i : ℤ) :
    Claimed rt.calls handle i ↔
      ∃ p port, rt.heap p = some port ∧ port.handle = handle ∧ claimCount port.claims i ≠ 0 := by
  constructor
  · intro hclaimed
    by_contra hnone
    refine h.unclaimed handle (fun p port hport hsame => hnone ⟨p, port, hport, hsame, ?_⟩) i
      hclaimed
    exact (h.claimed p port hport i).mp (hsame ▸ hclaimed)
  · rintro ⟨p, port, hport, rfl, hcount⟩
    exact (h.claimed p port hport i).mpr hcount

/-! ### Every state of every run -/

/-- **The owners and the Ports agree in every state of every run.** -/
theorem PortRun.sound {s : PortState} (h : PortRun s) : OwnersSound s.runtime s.owners := by
  induction h with
  | empty =>
    exact ⟨⟨fun _ _ => rfl, nofun⟩, .empty, .nil, nofun, nofun⟩
  | @step s s' _ hstep ih =>
    cases hstep with
    | start hstart => exact (ih.start hstart).perm List.perm_append_comm
    | @advance owner rt' next hmem hserial hstep =>
      have hperm := List.perm_cons_erase hmem
      refine ((ih.perm hperm).ownerStep (fun hkind o ho => ?_) hstep).perm List.perm_append_comm
      exact hserial hkind o (hperm.mem_iff.mpr ho)

/-- **The references and the claims of all Ports balance.** `holders` counts the Devices, Channels
and borrowers with a reference, `claimants` those with a claim. -/
structure PortsBalanced (s : PortState) : Prop where
  /-- The reference count is that of the owners. -/
  references : ∀ p port, s.runtime.heap p = some port → port.references = holders s.owners p
  /-- No Port without references is retained: it stays without, until it is gone. -/
  gone : ∀ s', PortStep s s' → ∀ p port, s.runtime.heap p = some port → port.references = 0 →
    s'.runtime.heap p = none ∨ s'.runtime.heap p = some port
  /-- A Port ends without references and outside the registry, and its handle is closed. -/
  closes : ∀ s', PortStep s s' → ∀ p port, s.runtime.heap p = some port →
    s'.runtime.heap p = none → port.references = 0 ∧ p ∉ s.runtime.registry ∧
      s'.runtime.calls = s.runtime.calls ++ [.closed port.handle]
  /-- The registry has no Port that is gone. -/
  registered : ∀ p ∈ s.runtime.registry, ∃ port, s.runtime.heap p = some port
  /-- The handle of a Port is not closed; a handle without a Port was closed once, and no handle is
  used behind its close. -/
  open_ports : ∀ p port, s.runtime.heap p = some port → .closed port.handle ∉ s.runtime.calls
  close_once : ∀ handle < s.runtime.handles.length,
    (∀ p port, s.runtime.heap p = some port → port.handle ≠ handle) →
      s.runtime.calls.count (.closed handle) = 1
  close_last : s.runtime.calls.Pairwise fun earlier later => earlier ≠ .closed later.handle
  opened : ∀ call ∈ s.runtime.calls, call.handle < s.runtime.handles.length
  /-- The claim count of an interface is that of the owners, and libusb has it claimed exactly while
  the count is positive. -/
  claims : ∀ p port, s.runtime.heap p = some port → ∀ i,
    claimCount port.claims i = claimants s.owners p i
  claimed : ∀ handle i, Claimed s.runtime.calls handle i ↔
    ∃ p port, s.runtime.heap p = some port ∧ port.handle = handle ∧ 0 < claimCount port.claims i
  alternates : ∀ handle i, Alternates (claimEvents s.runtime.calls handle i)
  /-- An open that fails, or that is closed again, leaves the Ports and the claims of libusb as they
  were. -/
  undone : ∀ rt, Alone s rt none → rt.heap = s.runtime.heap ∧ rt.registry = s.runtime.registry ∧
    ∀ handle i, Claimed rt.calls handle i ↔ Claimed s.runtime.calls handle i

/-- **Port handles and interface claims balance**, in every state of every run. -/
theorem PortRun.ports_balanced {s : PortState} (h : PortRun s) : PortsBalanced s := by
  have hsound := h.sound
  -- A step of an owner is one at the head of the owners.
  have hhead : ∀ {owner : Owner}, owner ∈ s.owners →
      OwnersSound s.runtime (owner :: s.owners.erase owner) := fun hmem =>
    hsound.perm (List.perm_cons_erase hmem)
  constructor
  case references => exact fun p port hport => (hsound.ports p port hport).references
  case gone =>
    intro s' hstep p port hport hzero
    cases hstep with
    | start hstart => exact .inr ((hsound.start_heap hstart hport).2 hzero)
    | @advance owner rt' next hmem _ hstep =>
      obtain ⟨hothers, -, hkept, hclosed⟩ := (hhead hmem).ownerStep_heap hstep
      by_cases hp : p = owner.port
      · subst hp
        have hleaving := hsound.leaves hmem hport hzero
        cases hpc : owner.pc with
        | unregistering => exact .inr ((congrFun (hkept hpc) _).trans hport)
        | closing =>
          refine .inl ?_
          rw [hclosed hpc, Runtime.closePort, hport]
          exact if_pos rfl
        | _ => rw [hpc] at hleaving; cases hleaving
      · exact .inr ((hothers p hp).trans hport)
  case closes =>
    intro s' hstep p port hport hnone
    cases hstep with
    | start hstart => exact absurd hnone (hsound.start_heap hstart hport).1
    | @advance owner rt' next hmem _ hstep =>
      obtain ⟨hothers, hstays, -, hclosed⟩ := (hhead hmem).ownerStep_heap hstep
      by_cases hp : p = owner.port
      · subst hp
        by_cases hpc : owner.pc = .closing
        · obtain ⟨hzero, hclaims, -⟩ := (hhead hmem).left hport (by rw [hpc]; rfl)
          refine ⟨hzero, fun hin => ?_, ?_⟩
          · exact (hsound.ports _ _ hport).registered.mp hin owner hmem rfl hpc
          · rw [hclosed hpc, Runtime.closePort, hport]
            simp [hclaims]
        · exact absurd hnone (hstays hpc)
      · rw [hothers p hp, hport] at hnone
        cases hnone
  case registered => exact hsound.valid.registered
  case open_ports => exact hsound.calls.open_ports
  case close_once => exact hsound.calls.close_once
  case close_last => exact hsound.calls.close_last
  case opened => exact hsound.calls.opened
  case claims => exact fun p port hport => (hsound.ports p port hport).counts
  case claimed =>
    intro handle i
    simpa only [Nat.pos_iff_ne_zero] using hsound.calls.claimed_iff handle i
  case alternates => exact hsound.calls.alternates
  case undone =>
    intro rt halone
    obtain ⟨hheap, hregistry⟩ := (halone.ended hsound).2 rfl
    refine ⟨hheap, hregistry, fun handle i => ?_⟩
    rw [(halone.sound hsound).calls.claimed_iff, hsound.calls.claimed_iff, hheap]

/-- A step of an owner, with the owners behind it. -/
theorem PortRun.advance {owners' : List Owner} {next : Option Owner}
    (h : PortRun { runtime := rt, owners }) (hmem : owner ∈ owners)
    (hserial : ∀ o ∈ owners, o.pc.reference = 1 ∨ o.pc.leaving = 1 ∨ owner.kind ≠ .device)
    (hstep : OwnerStep rt owner rt' next) (howners : owners.erase owner ++ next.toList = owners') :
    PortRun { runtime := rt', owners := owners' } := by
  subst howners
  refine h.step (.advance hmem (fun hkind o ho _ i hpc => ?_) hstep)
  have hplace := hserial o ho
  rw [hpc] at hplace
  simp [OwnerPc.reference, OwnerPc.leaving, hkind] at hplace

/-- An open that fails at its claim; then a Device, and a Channel that shares its interface. The
Channel is closed before the Device is. -/
theorem PortRun.ports_balanced_shared : ∃ s, s.owners = [] ∧
    s.runtime.calls =
      [.opened 0, .closed 0, .opened 1, .claimed 1 1, .released 1 1, .closed 1] ∧
    PortsBalanced s := by
  let device : UsbDevice := ⟨1, 5, [2], 0x18D1, 0x4EE7⟩
  let c : Candidate := ⟨1, 5, [2], 0x18D1, 0x4EE7⟩
  let host : Host := { listing := .ok [{ device }], listing_neg := nofun }
  let bus : Bus := { answers := fun _ => { status := 0 } }
  have h₁ : PortRun { runtime := _, owners := [⟨0, .device, .acquired (some 1)⟩] } :=
    PortRun.empty.step (.start (@Start.acquire {} host c bus bus 0 _ .device (some 1) nofun rfl))
  have h₂ : PortRun { runtime := _, owners := [⟨0, .device, .releasing⟩] } :=
    h₁.advance List.mem_cons_self (by decide)
      (@OwnerStep.claim_failed _ _ 1 errorBusy errorBusy true _ rfl (by decide) rfl) rfl
  have h₃ : PortRun { runtime := _, owners := [⟨0, .device, .unregistering⟩] } :=
    h₂.advance List.mem_cons_self (by decide) (.release_last rfl rfl rfl) rfl
  have h₄ : PortRun { runtime := _, owners := [⟨0, .device, .closing⟩] } :=
    h₃.advance List.mem_cons_self (by decide) (.unregister rfl) rfl
  have h₅ : PortRun { runtime := _, owners := [] } :=
    h₄.advance List.mem_cons_self (by decide) (.close rfl) rfl
  have h₆ : PortRun { runtime := _, owners := [⟨1, .device, .acquired (some 1)⟩] } :=
    h₅.step (.start (@Start.acquire _ host c bus bus 1 _ .device (some 1) nofun rfl))
  have h₇ : PortRun { runtime := _, owners := [⟨1, .device, .live (some 1)⟩] } :=
    h₆.advance List.mem_cons_self (by decide)
      (@OwnerStep.claim _ _ 1 success true _ rfl rfl) rfl
  have h₈ : PortRun { runtime := _, owners := [⟨1, .device, .live (some 1)⟩,
      ⟨1, .channel, .claimed 1⟩] } :=
    h₇.step (.start (@Start.channel _ 1 (some 1) 1 success true _ List.mem_cons_self rfl))
  have h₉ : PortRun { runtime := _, owners := [⟨1, .device, .live (some 1)⟩,
      ⟨1, .channel, .live (some 1)⟩] } :=
    h₈.advance (List.mem_cons_of_mem _ List.mem_cons_self) (by decide) (.retain rfl) rfl
  have h₁₀ : PortRun { runtime := _, owners := [⟨1, .device, .live (some 1)⟩,
      ⟨1, .channel, .releasing⟩] } :=
    h₉.advance (List.mem_cons_of_mem _ List.mem_cons_self) (by decide) (.unclaim rfl) rfl
  have h₁₁ : PortRun { runtime := _, owners := [⟨1, .device, .live (some 1)⟩] } :=
    h₁₀.advance (List.mem_cons_of_mem _ List.mem_cons_self) (by decide)
      (.release rfl rfl (by decide)) rfl
  have h₁₂ : PortRun { runtime := _, owners := [⟨1, .device, .releasing⟩] } :=
    h₁₁.advance List.mem_cons_self (by decide) (.unclaim rfl) rfl
  have h₁₃ : PortRun { runtime := _, owners := [⟨1, .device, .unregistering⟩] } :=
    h₁₂.advance List.mem_cons_self (by decide) (.release_last rfl rfl rfl) rfl
  have h₁₄ : PortRun { runtime := _, owners := [⟨1, .device, .closing⟩] } :=
    h₁₃.advance List.mem_cons_self (by decide) (.unregister rfl) rfl
  have h₁₅ : PortRun { runtime := _, owners := [] } :=
    h₁₄.advance List.mem_cons_self (by decide) (.close rfl) rfl
  exact ⟨_, rfl, rfl, PortRun.ports_balanced h₁₅⟩

end LibaoaHid.Transport

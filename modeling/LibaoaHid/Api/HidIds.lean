import LibaoaHid.Api.Balance

/-!
# HID IDs over the life of a Context

Each domain hands its HID IDs out in ascending order, and a Device takes them from the domain of its
selection: the one of its bus and port path, or the one for all selections without a port path. As
long as the Devices that take IDs name a device the same way each time, its IDs come from one
domain, so that none is registered twice.

A device that is opened by its port path and also by its address has two domains, and both begin
with the ID 1.

## Main definitions

* `HidIdDomain.key`, `domainKey`: what a domain is for.
* `Session.NamesAlike`, `AlikeRun`: the runs in which all HID IDs of a device are taken by Devices
  that name it in one way.
* `Session.OpenedAlike`: every device was opened under one name.
* `HidIdsSound`: the domains, the IDs that were taken from them, and those that were registered.

## Main results

* `SessionRun.alike`: a run that opens every device under one name.
* `hid_ids_unique`, `hid_ids_reused`.
-/

namespace LibaoaHid

open Transport (Bus Runtime Candidate UsbDevice)

/-! ### Domains -/

/-- The bus and the port path that a domain is for, or none. -/
def HidIdDomain.key (domain : HidIdDomain) : Option (ℕ × List ℕ) :=
  if domain.unidentified then none else some (domain.bus, domain.portPath)

/-- The key of the domain for a device that is named by its port path, or not. -/
def domainKey (physical : ℕ × List ℕ) (named : Bool) : Option (ℕ × List ℕ) :=
  if named then some physical else none

/-- A selection and the device that it selects have one domain. -/
theorem Transport.Candidate.Matches.domainKey {c : Candidate} {u : UsbDevice} (h : c.Matches u) :
    LibaoaHid.domainKey u.physical c.named =
      if c.portPath = [] then none else some (c.bus, c.portPath) := by
  obtain ⟨hbus, -, -, hpath⟩ := h
  rw [LibaoaHid.domainKey, named]
  by_cases hnil : c.portPath = []
  · simp [hnil]
  · rw [if_neg hnil] at hpath
    have hne : c.portPath.isEmpty = false := by simpa using hnil
    rw [hne, if_neg hnil, UsbDevice.physical, hbus, hpath]
    rfl

/-- The domain of a selection is found, or made. -/
theorem findOrCreateHidIdDomain_ends {domains : List HidIdDomain}
    (hnodup : (domains.map HidIdDomain.key).Nodup) {c : Candidate} {u : UsbDevice}
    (hmatches : c.Matches u) :
    domains <+: (findOrCreateHidIdDomain domains c).2 ∧
      ((findOrCreateHidIdDomain domains c).2.map HidIdDomain.key).Nodup ∧
      ((findOrCreateHidIdDomain domains c).2[(findOrCreateHidIdDomain domains c).1]?).map
        HidIdDomain.key = some (domainKey u.physical c.named) ∧
      ∀ domain ∈ (findOrCreateHidIdDomain domains c).2,
        domain ∈ domains ∨ domain.nextHidId = 1 := by
  have hfound : ∀ domain : HidIdDomain, (if c.portPath.isEmpty then domain.unidentified
      else !domain.unidentified && domain.bus == c.bus && domain.portPath == c.portPath) = true ↔
      domain.key = domainKey u.physical c.named := by
    intro domain
    rw [hmatches.domainKey, HidIdDomain.key]
    by_cases hnil : c.portPath = []
    · by_cases hunidentified : domain.unidentified = true <;> simp [hnil, hunidentified]
    · by_cases hunidentified : domain.unidentified = true <;> simp [hnil, hunidentified]
  rw [findOrCreateHidIdDomain]
  split
  · rename_i index hindex
    obtain ⟨hlt, hkey, -⟩ := List.findIdx?_eq_some_iff_getElem.mp hindex
    refine ⟨List.prefix_rfl, hnodup, ?_, fun domain hdomain => .inl hdomain⟩
    dsimp only
    rw [List.getElem?_eq_getElem hlt, Option.map_some, (hfound _).mp hkey]
  · rename_i hnone
    have hnew : ∀ domain ∈ domains, domain.key ≠ domainKey u.physical c.named := by
      intro domain hdomain hkey
      have hfalse := List.findIdx?_eq_none_iff.mp hnone domain hdomain
      rw [(hfound domain).mpr hkey] at hfalse
      cases hfalse
    have hkey : HidIdDomain.key ⟨c.bus, c.portPath, 1, c.portPath.isEmpty⟩ =
        domainKey u.physical c.named := by
      rw [hmatches.domainKey, HidIdDomain.key]
      by_cases hnil : c.portPath = [] <;> simp [hnil]
    refine ⟨List.prefix_append _ _, ?_, ?_, fun domain hdomain => ?_⟩
    · rw [List.map_append, List.map_singleton, hkey]
      refine List.nodup_append.mpr ⟨hnodup, List.nodup_singleton _, ?_⟩
      intro key hmem other hother
      obtain ⟨domain, hdomain, rfl⟩ := List.mem_map.mp hmem
      rw [List.mem_singleton.mp hother]
      exact hnew domain hdomain
    · dsimp only
      rw [List.getElem?_append_right (Nat.le_refl _), Nat.sub_self, List.getElem?_cons_zero,
        Option.map_some, hkey]
    · rcases List.mem_append.mp hdomain with hdomain | hdomain
      · exact .inl hdomain
      · rw [List.mem_singleton.mp hdomain]
        exact .inr rfl

/-- A HID ID is the next one of its domain. -/
theorem allocateHidId_ends {domains domains' : List HidIdDomain} {index hidId : ℕ}
    (h : allocateHidId domains index = .ok (hidId, domains')) :
    ∃ domain, domains[index]? = some domain ∧ domain.nextHidId < 2 ^ 16 ∧
      hidId = domain.nextHidId ∧
      domains' = domains.set index { domain with nextHidId := domain.nextHidId + 1 } := by
  rw [allocateHidId.eq_def] at h
  split at h
  · cases h
  · rename_i domain hdomain
    split at h
    · cases h
    · rename_i hlt
      cases h
      have hbound : domain.nextHidId < 2 ^ 16 := by omega
      exact ⟨domain, hdomain, hbound, Nat.mod_eq_of_lt hbound,
        by rw [Nat.mod_eq_of_lt (by omega : domain.nextHidId + 1 < 2 ^ 32)]⟩

/-- The next HID ID is not part of the key. -/
theorem keys_set {domains : List HidIdDomain} {index : ℕ} {domain : HidIdDomain}
    (h : domains[index]? = some domain) (nextHidId : ℕ) :
    (domains.set index { domain with nextHidId }).map HidIdDomain.key =
      domains.map HidIdDomain.key := by
  obtain ⟨hlt, rfl⟩ := List.getElem?_eq_some_iff.mp h
  rw [List.map_set]
  refine List.ext_getElem? fun i => ?_
  rw [List.getElem?_set]
  split
  · rename_i hi
    subst hi
    simp [hlt, HidIdDomain.key]
  · rfl

/-- Every domain is still there. -/
theorem exists_mem_set {domains : List HidIdDomain} {index : ℕ} {domain : HidIdDomain}
    (h : domains[index]? = some domain) {other : HidIdDomain} (hother : other ∈ domains) :
    ∃ other' ∈ domains.set index { domain with nextHidId := domain.nextHidId + 1 },
      other'.key = other.key ∧ other.nextHidId ≤ other'.nextHidId := by
  obtain ⟨hlt, rfl⟩ := List.getElem?_eq_some_iff.mp h
  obtain ⟨i, hi, rfl⟩ := List.mem_iff_getElem.mp hother
  by_cases hsame : i = index
  · subst hsame
    exact ⟨_, List.mem_set hi _, rfl, Nat.le_succ _⟩
  · refine ⟨domains[i], List.mem_iff_getElem.mpr ⟨i, by simpa using hi, ?_⟩, rfl, Nat.le_refl _⟩
    rw [List.getElem_set_of_ne (Ne.symm hsame)]

/-! ### Runs -/

/-- A Node open finds the device named by its port path, if it was so named for each HID ID that was
taken for it, or each time by its address. -/
def Session.NamesAlike (s : Session) (op : SessionOp) : Prop :=
  ∀ graph spec, op = .nodeOpen graph spec → ∀ t ∈ s.taken,
    s.context.physical graph.transport.handle = some t.physical →
      s.context.named graph = some t.named

/-- Other calls take no HID ID. -/
theorem Session.namesAlike_of_ne {s : Session} {op : SessionOp}
    (h : ∀ graph spec, op ≠ .nodeOpen graph spec) : s.NamesAlike op :=
  fun graph spec heq => absurd heq (h graph spec)

/-- A run in which all HID IDs of a device are taken by Devices that name it in one way. -/
inductive AlikeRun : Session → Prop
  | created (bus : Bus) (hsent : bus.sent = []) : AlikeRun { context := { bus } }
  | step {s s' : Session} {op : SessionOp} (h : AlikeRun s) (hstep : SessionStep s op s')
      (halike : s.NamesAlike op) : AlikeRun s'

theorem AlikeRun.run {s : Session} (h : AlikeRun s) : SessionRun s := by
  induction h with
  | created bus hsent => exact .created bus hsent
  | step _ hstep _ ih => exact ih.step hstep

/-- The domains are distinct, every Device has that of its selection, and a HID ID that was taken
lies below the next one of its domain. No ID was taken twice for a device, and only those that were
taken are registered. -/
structure HidIdsSound (s : Session) : Prop where
  nodup : (s.context.hidIdDomains.map HidIdDomain.key).Nodup
  bounds : ∀ domain ∈ s.context.hidIdDomains, 1 ≤ domain.nextHidId ∧ domain.nextHidId ≤ 2 ^ 16
  devices : ∀ graph ∈ s.context.devices, ∃ physical named,
    s.context.physical graph.transport.handle = some physical ∧
      (physical, named) ∈ s.openings ∧
      (s.context.hidIdDomains[graph.hidIdDomainIndex]?).map HidIdDomain.key =
        some (domainKey physical named)
  taken : ∀ t ∈ s.taken, 1 ≤ t.hidId ∧ (t.physical, t.named) ∈ s.openings ∧
    ∃ domain ∈ s.context.hidIdDomains,
      domain.key = domainKey t.physical t.named ∧ t.hidId < domain.nextHidId
  nodup_taken : (s.taken.map fun t => (t.physical, t.hidId)).Nodup
  registered : (s.context.registrations.map fun e => (s.context.physical e.handle, e.value)).Sublist
    (s.taken.map fun t => (some t.physical, t.hidId))

namespace HidIdsSound

variable {s s' : Session} {op : SessionOp}

/-- A handle keeps its device. -/
theorem physical_of_isPrefix {ctx ctx' : Context} {handle : ℕ} {physical : ℕ × List ℕ}
    (hhandles : ctx.runtime.handles <+: ctx'.runtime.handles)
    (h : ctx.physical handle = some physical) : ctx'.physical handle = some physical := by
  obtain ⟨u, hu, rfl⟩ := Option.map_eq_some_iff.mp h
  obtain ⟨more, hmore⟩ := hhandles
  have hlt := (List.getElem?_eq_some_iff.mp hu).1
  rw [Context.physical, ← hmore, List.getElem?_append_left hlt, hu]
  rfl

/-- A registration keeps its device. -/
theorem registered_of_isPrefix {ctx : Context} (h : HidIdsSound s)
    (hhandles : s.context.runtime.handles <+: ctx.runtime.handles) :
    (s.context.registrations.map fun e => (ctx.physical e.handle, e.value)) =
      s.context.registrations.map fun e => (s.context.physical e.handle, e.value) := by
  refine List.map_congr_left fun e he => ?_
  have hmem := h.registered.subset (List.mem_map_of_mem he)
  obtain ⟨t, -, ht⟩ := List.mem_map.mp hmem
  rw [Prod.mk.injEq] at ht
  rw [← ht.1, physical_of_isPrefix hhandles ht.1.symm]

/-- What a Device was named by, as the key of its domain says. -/
theorem named_of_key {ctx : Context} {graph : DeviceGraph} {physical : ℕ × List ℕ} {named : Bool}
    (h : (ctx.hidIdDomains[graph.hidIdDomainIndex]?).map HidIdDomain.key =
      some (domainKey physical named)) : ctx.named graph = some named := by
  obtain ⟨domain, hdomain, hkey⟩ := Option.map_eq_some_iff.mp h
  rw [Context.named, hdomain, Option.map_some]
  rw [HidIdDomain.key, domainKey] at hkey
  cases hunidentified : domain.unidentified <;> cases named <;> simp_all

/-- A call that takes no HID ID and opens no Device. -/
theorem frame (h : HidIdsSound s)
    (hdomains : s'.context.hidIdDomains = s.context.hidIdDomains)
    (hhandles : s.context.runtime.handles <+: s'.context.runtime.handles)
    (hregistrations : s'.context.registrations = s.context.registrations)
    (hopenings : s'.openings = s.openings) (htaken : s'.taken = s.taken)
    (hdevices : ∀ graph ∈ s'.context.devices, ∃ old ∈ s.context.devices,
      graph.transport.handle = old.transport.handle ∧
        graph.hidIdDomainIndex = old.hidIdDomainIndex) : HidIdsSound s' where
  nodup := by rw [hdomains]; exact h.nodup
  bounds := by rw [hdomains]; exact h.bounds
  devices graph hgraph := by
    obtain ⟨old, hold, hhandle, hindex⟩ := hdevices graph hgraph
    obtain ⟨physical, named, hphysical, hopened, hkey⟩ := h.devices old hold
    refine ⟨physical, named, ?_, by rw [hopenings]; exact hopened, ?_⟩
    · rw [hhandle]
      exact physical_of_isPrefix hhandles hphysical
    · rw [hdomains, hindex]
      exact hkey
  taken := by rw [htaken, hopenings, hdomains]; exact h.taken
  nodup_taken := by rw [htaken]; exact h.nodup_taken
  registered := by
    rw [hregistrations, htaken, h.registered_of_isPrefix hhandles]
    exact h.registered

/-- The next HID ID of a domain was not taken yet for a device that is named by that domain. -/
theorem not_mem_taken (h : HidIdsSound s) {physical : ℕ × List ℕ} {named : Bool}
    {domain : HidIdDomain} (hdomain : domain ∈ s.context.hidIdDomains)
    (hkey : domain.key = domainKey physical named)
    (halike : ∀ t ∈ s.taken, t.physical = physical → t.named = named) :
    (physical, domain.nextHidId) ∉ s.taken.map fun t => (t.physical, t.hidId) := by
  intro hmem
  obtain ⟨t, ht, heq⟩ := List.mem_map.mp hmem
  obtain ⟨hphysical, hid⟩ := Prod.mk.inj heq
  obtain ⟨-, -, other, hother, hotherKey, hbelow⟩ := h.taken t ht
  rw [hphysical, halike t ht hphysical, ← hkey] at hotherKey
  rw [List.inj_on_of_nodup_map h.nodup hother hdomain hotherKey, hid] at hbelow
  exact Nat.lt_irrefl _ hbelow

/-- **A HID ID is taken.** It is the next one of the domain of its device, and so a new one. -/
theorem take (h : HidIdsSound s) {graph : DeviceGraph} (hgraph : graph ∈ s.context.devices)
    {hidId : ℕ} {domains : List HidIdDomain}
    (hid : allocateHidId s.context.hidIdDomains graph.hidIdDomainIndex = .ok (hidId, domains))
    {more : List Transport.Exchange} (hdomains : s'.context.hidIdDomains = domains)
    (hhandles : s'.context.runtime.handles = s.context.runtime.handles)
    (hregistrations : s'.context.registrations = s.context.registrations ++ more)
    (hlength : more.length ≤ 1)
    (hmore : ∀ e ∈ more, e.handle = graph.transport.handle ∧ e.value = hidId)
    (hopenings : s'.openings = s.openings)
    (htaken : s'.taken = s.taken ++ (s.context.taking graph (some hidId)).toList)
    (halike : ∀ t ∈ s.taken, s.context.physical graph.transport.handle = some t.physical →
      s.context.named graph = some t.named)
    (hdevices : ∀ graph ∈ s'.context.devices, ∃ old ∈ s.context.devices,
      graph.transport.handle = old.transport.handle ∧
        graph.hidIdDomainIndex = old.hidIdDomainIndex) : HidIdsSound s' := by
  obtain ⟨physical, named, hphysical, hopened, hkey⟩ := h.devices graph hgraph
  obtain ⟨domain, hdomain, hlt, rfl, rfl⟩ := allocateHidId_ends hid
  have hdomainMem := List.mem_of_getElem? hdomain
  have hdomainKey : domain.key = domainKey physical named := by
    rw [hdomain, Option.map_some, Option.some.injEq] at hkey
    exact hkey
  have hkeys := keys_set hdomain (domain.nextHidId + 1)
  have hsame : s.context.runtime.handles <+: s'.context.runtime.handles := by
    exact hhandles ▸ List.prefix_rfl
  have hnamed := named_of_key hkey
  have htaken' : s'.taken = s.taken ++ [⟨physical, named, domain.nextHidId⟩] := by
    rw [htaken, Context.taking, hphysical, hnamed]
    rfl
  have hnew := h.not_mem_taken hdomainMem hdomainKey fun t ht hsame =>
    (Option.some.inj (hnamed.symm.trans (halike t ht (hsame ▸ hphysical)))).symm
  constructor
  case nodup => rw [hdomains, hkeys]; exact h.nodup
  case bounds =>
    intro other hother
    rw [hdomains] at hother
    rcases List.mem_or_eq_of_mem_set hother with hother | rfl
    · exact h.bounds other hother
    · have := (h.bounds domain hdomainMem).1
      dsimp only
      omega
  case devices =>
    intro graph' hgraph'
    obtain ⟨old, hold, hhandle, hindex⟩ := hdevices graph' hgraph'
    obtain ⟨physical', named', hphysical', hopened', hkey'⟩ := h.devices old hold
    refine ⟨physical', named', ?_, by rw [hopenings]; exact hopened', ?_⟩
    · rw [hhandle]
      exact physical_of_isPrefix hsame hphysical'
    · rw [hdomains, hindex, ← List.getElem?_map, hkeys, List.getElem?_map]
      exact hkey'
  case taken =>
    intro t hmem
    rw [htaken'] at hmem
    rw [hopenings, hdomains]
    rcases List.mem_append.mp hmem with hmem | hmem
    · obtain ⟨hpos, hopened', other, hother, hotherKey, hbelow⟩ := h.taken t hmem
      obtain ⟨other', hother', hkept, hle⟩ := exists_mem_set hdomain hother
      exact ⟨hpos, hopened', other', hother', hkept.trans hotherKey,
        Nat.lt_of_lt_of_le hbelow hle⟩
    · obtain rfl := List.mem_singleton.mp hmem
      exact ⟨(h.bounds domain hdomainMem).1, hopened, _,
        List.mem_set (List.getElem?_eq_some_iff.mp hdomain).1 _, hdomainKey, Nat.lt_succ_self _⟩
  case nodup_taken =>
    rw [htaken', List.map_append]
    refine List.nodup_append.mpr ⟨h.nodup_taken, List.nodup_singleton _, ?_⟩
    intro t ht t' ht'
    rw [List.mem_singleton.mp ht']
    rintro rfl
    exact hnew ht
  case registered =>
    rw [hregistrations, List.map_append, h.registered_of_isPrefix hsame, htaken', List.map_append]
    refine h.registered.append ?_
    rcases more with _ | ⟨e, _ | ⟨e', rest⟩⟩
    · exact List.nil_sublist _
    · obtain ⟨hhandle, hvalue⟩ := hmore e List.mem_cons_self
      rw [List.map_singleton, List.map_singleton, hhandle, hvalue,
        physical_of_isPrefix hsame hphysical]
    · simp at hlength

/-- **A Device is opened.** Its domain is the one for what the selection names. -/
theorem openDevice (h : HidIdsSound s) {c : Candidate} {u : UsbDevice} {env : DeviceOpenEnv}
    {port : ℕ} {runtime : Runtime} (hmatches : c.Matches u)
    (hhandles : runtime.handles = s.context.runtime.handles ++ [u]) :
    HidIdsSound { s with
      context := s.context.addDevice c env port runtime
      openings := s.openings ++ [(u.physical, c.named)] } := by
  obtain ⟨hdomains, hnodup, hkey, hnew⟩ := findOrCreateHidIdDomain_ends h.nodup hmatches
  have hprefix : s.context.runtime.handles <+: runtime.handles := by
    rw [hhandles]
    exact List.prefix_append _ _
  constructor
  case nodup => exact hnodup
  case bounds =>
    intro domain hdomain
    rcases hnew domain hdomain with hold | hone
    · exact h.bounds domain hold
    · rw [hone]
      decide
  case devices =>
    intro graph hgraph
    rcases List.mem_append.mp hgraph with hgraph | hgraph
    · obtain ⟨physical, named, hphysical, hopened, hold⟩ := h.devices graph hgraph
      refine ⟨physical, named, physical_of_isPrefix hprefix hphysical,
        List.mem_append_left _ hopened, ?_⟩
      obtain ⟨domain, hdomain, hdomainKey⟩ := Option.map_eq_some_iff.mp hold
      have hlt := (List.getElem?_eq_some_iff.mp hdomain).1
      obtain ⟨more, hmore⟩ := hdomains
      change ((findOrCreateHidIdDomain s.context.hidIdDomains c).2[graph.hidIdDomainIndex]?).map
        _ = _
      rw [← hmore, List.getElem?_append_left hlt]
      exact hold
    · rw [List.mem_singleton.mp hgraph]
      refine ⟨u.physical, c.named, ?_, List.mem_append_right _ List.mem_cons_self, hkey⟩
      change (runtime.handles[s.context.runtime.handles.length]?).map _ = _
      rw [hhandles, List.getElem?_append_right (Nat.le_refl _), Nat.sub_self]
      rfl
  case taken =>
    intro t ht
    obtain ⟨hpos, hopened, domain, hdomain, hdomainKey, hbelow⟩ := h.taken t ht
    exact ⟨hpos, List.mem_append_left _ hopened, domain, hdomains.subset hdomain, hdomainKey,
      hbelow⟩
  case nodup_taken => exact h.nodup_taken
  case registered =>
    have hregistered := h.registered
    rw [← @registered_of_isPrefix s (s.context.addDevice c env port runtime) h hprefix]
      at hregistered
    exact hregistered

/-- The Devices of a call that changes one of them keep their handles and their domains. -/
theorem devices_of_replace {front back : List DeviceGraph} {graph graph' : DeviceGraph}
    {devices : List DeviceGraph} (hdevices : devices = front ++ graph :: back)
    (hhandle : graph'.transport.handle = graph.transport.handle)
    (hindex : graph'.hidIdDomainIndex = graph.hidIdDomainIndex) :
    ∀ other ∈ front ++ graph' :: back, ∃ old ∈ devices,
      other.transport.handle = old.transport.handle ∧
        other.hidIdDomainIndex = old.hidIdDomainIndex := by
  intro other hother
  rw [hdevices]
  simp only [List.mem_append, List.mem_cons] at hother
  rcases hother with hother | rfl | hother
  · exact ⟨other, by simp [hother], rfl, rfl⟩
  · exact ⟨graph, by simp, hhandle, hindex⟩
  · exact ⟨other, by simp [hother], rfl, rfl⟩

/-- A call that is quiet and keeps some of the Devices. -/
theorem quiet {ctx : Context} {devices : List DeviceGraph} (h : HidIdsSound s)
    (hquiet : { s.context with devices }.Quiet ctx)
    (hdevices : ∀ graph ∈ devices, graph ∈ s.context.devices) :
    HidIdsSound { s with context := ctx } := by
  refine h.frame hquiet.domains ?_ hquiet.registrations_eq rfl rfl fun graph hgraph => ?_
  · exact hquiet.handles ▸ List.prefix_rfl
  · rw [hquiet.devices] at hgraph
    exact ⟨graph, hdevices graph hgraph, rfl, rfl⟩

/-- **One call.** -/
theorem step (h : HidIdsSound s) (haccounted : s.Accounted) (hstep : SessionStep s op s')
    (halike : s.NamesAlike op) : HidIdsSound s' := by
  have hself : ∀ graph ∈ s.context.devices, ∃ old ∈ s.context.devices,
      graph.transport.handle = old.transport.handle ∧
        graph.hidIdDomainIndex = old.hidIdDomainIndex :=
    fun graph hgraph => ⟨graph, hgraph, rfl, rfl⟩
  cases hstep with
  | spec_create => exact h.frame rfl List.prefix_rfl rfl rfl rfl hself
  | spec_retain => exact h.frame rfl List.prefix_rfl rfl rfl rfl hself
  | spec_retain_failed => exact h
  | spec_release => exact h.frame rfl List.prefix_rfl rfl rfl rfl hself
  | @device_open c env context u hopen hopened =>
    rcases s.context.deviceOpen_ends c env with
      ⟨_, _, _, heq, hfailed, -, -⟩ | ⟨u', port, runtime, hmatches, hhandles, heq⟩
    · rw [heq] at hopen
      exact absurd (Prod.mk.inj hopen).1 hfailed
    · rw [heq] at hopen
      obtain ⟨-, rfl⟩ := Prod.mk.inj hopen
      have hsame : u' = u := by
        change runtime.handles[_]? = _ at hopened
        rw [hhandles, List.getElem?_append_right (Nat.le_refl _), Nat.sub_self] at hopened
        exact Option.some.inj hopened
      subst hsame
      exact h.openDevice hmatches hhandles
  | @device_open_failed c env result context hopen hfailed =>
    rcases s.context.deviceOpen_ends c env with
      ⟨_, runtime, bus, heq, -, hhandles, hsent⟩ | ⟨_, _, _, -, -, heq⟩
    · rw [heq] at hopen
      obtain ⟨-, rfl⟩ := Prod.mk.inj hopen
      exact h.frame rfl hhandles (congrArg (List.filter _) hsent) rfl rfl hself
    · rw [heq] at hopen
      exact absurd (Prod.mk.inj hopen).1.symm hfailed
  | @node_open front back graph spec options hasOut env opening hdevices hfresh hopen =>
    have hends := @nodeOpen_ends s.context graph spec options env hasOut hfresh
      haccounted.specs.live
    have hgraph : graph ∈ s.context.devices := by
      rw [hdevices]
      simp
    have hsame := halike graph spec rfl
    rw [hopen] at hends
    cases hends with
    | refused =>
      refine h.frame rfl List.prefix_rfl rfl rfl ?_ (devices_of_replace hdevices rfl rfl)
      have hnone : s.context.taking graph none = none := by
        rw [Context.taking]
        cases s.context.physical graph.transport.handle <;> cases s.context.named graph <;> rfl
      dsimp only
      rw [hnone, Option.toList_none, List.append_nil]
    | stopped hfailed hid =>
      exact @take s _ h graph hgraph _ _ hid [] rfl rfl (List.append_nil _).symm (by simp) nofun
        rfl rfl hsame (devices_of_replace hdevices rfl rfl)
    | unregistered _ hid _ _ _ hobserved hregisters =>
      obtain ⟨more, hregistrations, hlength, hmore⟩ := hregisters.registrations
      exact h.take hgraph hid rfl rfl hregistrations hlength hmore rfl rfl hsame
        (devices_of_replace hdevices hobserved.handle_eq rfl)
    | opened hid _ _ _ _ _ _ hobserved hregisters =>
      obtain ⟨more, hregistrations, hlength, hmore⟩ := hregisters.registrations
      exact h.take hgraph hid rfl rfl hregistrations hlength hmore rfl rfl hsame
        (devices_of_replace hdevices hobserved.handle_eq rfl)
  | @node_close front back graph graph' node env result context hdevices hnode hclose =>
    obtain ⟨hquiet, hhandle, hindex⟩ := s.context.closeLiveNode_quiet graph node env
    rw [hclose] at hquiet hhandle hindex
    refine h.frame hquiet.domains ?_ hquiet.registrations_eq rfl rfl
      (devices_of_replace hdevices hhandle hindex)
    dsimp only
    exact hquiet.handles ▸ List.prefix_rfl
  | @device_close front back graph hdevices env =>
    refine h.quiet (Context.deviceClose_quiet _ graph env) fun other hother => ?_
    rw [hdevices]
    rcases List.mem_append.mp hother with hother | hother <;> simp [hother]
  | @reap front back graph hgraveyard hdrained =>
    have hquiet := Context.destroyDevice_quiet { s.context with graveyard := front ++ back } graph
    have hsame : Context.Quiet { s.context with devices := s.context.devices }
        { s.context with graveyard := front ++ back } := .of_sent_eq rfl rfl rfl rfl
    exact h.quiet (hsame.trans hquiet) fun _ hother => hother
  | traffic hdevices t =>
    exact h.frame rfl List.prefix_rfl rfl rfl rfl
      (devices_of_replace hdevices (Transport.Device.Kept.pass _ t).handle rfl)
  | traffic_parked => exact h.frame rfl List.prefix_rfl rfl rfl rfl hself
  | other hhandles hsent hmore =>
    exact h.frame rfl hhandles (Context.registrations_of_sent hsent hmore) rfl rfl hself

end HidIdsSound

/-- The HID IDs of every run whose takings name each device in one way. -/
theorem AlikeRun.sound {s : Session} (h : AlikeRun s) : HidIdsSound s := by
  induction h with
  | created bus hsent =>
    refine ⟨.nil, by rintro _ ⟨⟩, by rintro _ ⟨⟩, by rintro _ ⟨⟩, .nil, ?_⟩
    rw [Context.registrations, hsent]
    exact List.nil_sublist _
  | step h hstep halike ih => exact ih.step h.run.accounted hstep halike

/-- Every device was opened under one name: by its port path, or by its address. -/
def Session.OpenedAlike (s : Session) : Prop :=
  ∀ physical named named', (physical, named) ∈ s.openings → (physical, named') ∈ s.openings →
    named = named'

theorem HidIdsSound.namesAlike {s : Session} (h : HidIdsSound s) (hopened : s.OpenedAlike)
    {graph : DeviceGraph} (hgraph : graph ∈ s.context.devices) (spec : Option ℕ) :
    s.NamesAlike (.nodeOpen graph spec) := by
  rintro _ _ ⟨⟩ t ht hphysical
  obtain ⟨physical, named, hphysical', hopening, hkey⟩ := h.devices graph hgraph
  obtain rfl := Option.some.inj (hphysical'.symm.trans hphysical)
  rw [named_of_key hkey, hopened _ _ _ hopening (h.taken t ht).2.1]

/-- Openings are not forgotten. -/
theorem SessionStep.openings_subset {s s' : Session} {op : SessionOp} (h : SessionStep s op s') :
    s.openings ⊆ s'.openings := by
  cases h with
  | device_open => exact List.subset_append_left _ _
  | _ => exact List.Subset.refl _

/-- A run that opens every device under one name takes the HID IDs of a device under one name. -/
theorem SessionRun.alike {s : Session} (h : SessionRun s) (hopened : s.OpenedAlike) :
    AlikeRun s := by
  induction h with
  | created bus hsent => exact .created bus hsent
  | @step s s' op _ hstep ih =>
    have hbefore : s.OpenedAlike := fun physical named named' hnamed hnamed' =>
      hopened physical named named' (hstep.openings_subset hnamed) (hstep.openings_subset hnamed')
    refine (ih hbefore).step hstep ?_
    cases hstep with
    | node_open hdevices =>
      refine (ih hbefore).sound.namesAlike hbefore ?_ _
      rw [hdevices]
      exact List.mem_append_right _ List.mem_cons_self
    | _ =>
      refine Session.namesAlike_of_ne ?_
      rintro _ _ ⟨⟩

/-! ### The HID IDs of a device -/

/-- No two requests 54 to one device carry the same HID ID. -/
def Session.RegistersOnce (s : Session) : Prop :=
  s.context.registrations.Pairwise fun e e' =>
    s.context.physical e.handle = s.context.physical e'.handle → e.value ≠ e'.value

/-- Every HID ID was taken for a device. -/
def Session.Exhausted (s : Session) (physical : ℕ × List ℕ) : Prop :=
  ∀ hidId, 1 ≤ hidId → hidId ≤ 2 ^ 16 - 1 → ∃ t ∈ s.taken, t.physical = physical ∧ t.hidId = hidId

/-- A Node open that passes its checks on a Device ends with an overflow, and leaves the Context as
it was. -/
def Session.Overflows (s : Session) (graph : DeviceGraph) : Prop :=
  ∀ address shared options env slots node, s.context.specs address = some shared →
    checkNodeOpen graph shared.spec options env.deferred = .ok slots → env.node = some node →
      (nodeOpen s.context graph (some address) options true env).reply.result = .errOverflow ∧
        (nodeOpen s.context graph (some address) options true env).handle = none ∧
        (nodeOpen s.context graph (some address) options true env).context = s.context

theorem HidIdsSound.registersOnce {s : Session} (h : HidIdsSound s) : s.RegistersOnce := by
  have hinj : Function.Injective fun t : (ℕ × List ℕ) × ℕ => (some t.1, t.2) := by
    intro t t' heq
    obtain ⟨hphysical, hid⟩ := Prod.mk.inj heq
    exact Prod.ext (Option.some.inj hphysical) hid
  have htaken := h.nodup_taken.map hinj
  rw [List.map_map] at htaken
  have hnodup := h.registered.nodup htaken
  rw [List.Nodup, List.pairwise_map] at hnodup
  exact hnodup.imp fun hne hphysical hvalue => hne (Prod.ext hphysical hvalue)

theorem HidIdsSound.overflows {s : Session} (h : HidIdsSound s) {graph : DeviceGraph}
    (hgraph : graph ∈ s.context.devices) {physical : ℕ × List ℕ}
    (hphysical : s.context.physical graph.transport.handle = some physical)
    (hexhausted : s.Exhausted physical)
    (halike : ∀ t ∈ s.taken, t.physical = physical → s.context.named graph = some t.named) :
    s.Overflows graph := by
  obtain ⟨physical', named, hphysical', -, hkey⟩ := h.devices graph hgraph
  obtain rfl : physical' = physical := Option.some.inj (hphysical'.symm.trans hphysical)
  obtain ⟨domain, hdomain, hdomainKey⟩ := Option.map_eq_some_iff.mp hkey
  obtain ⟨t, ht, rfl, hlast⟩ := hexhausted (2 ^ 16 - 1) (by decide) (by decide)
  obtain ⟨-, -, other, hother, hotherKey, hbelow⟩ := h.taken t ht
  have hsameName := Option.some.inj ((named_of_key hkey).symm.trans (halike t ht rfl))
  rw [← hsameName, ← hdomainKey] at hotherKey
  have hsame := List.inj_on_of_nodup_map h.nodup hother (List.mem_of_getElem? hdomain) hotherKey
  rw [hsame, hlast] at hbelow
  have hid : allocateHidId s.context.hidIdDomains graph.hidIdDomainIndex =
      .error (.fail .errOverflow "device.hid_id"
        "The monotonic AOA HID ID space for this physical-identity domain is exhausted.") := by
    rw [allocateHidId.eq_def, hdomain]
    exact if_pos hbelow
  intro address shared options env slots node hshared hcheck hnode
  have hopen : nodeOpen s.context graph (some address) options true env =
      openLiveNode s.context graph address shared slots env := by
    rw [nodeOpen]
    simp only [Bool.not_true, Bool.false_eq_true, if_false, Option.bind_some, hshared,
      Option.map_some, hcheck]
  rw [hopen, openLiveNode, hnode]
  simp [hid]

/-- The devices and the HID IDs of the requests 54 are distinct. -/
theorem Session.RegistersOnce.nodup {s : Session} (h : s.RegistersOnce) :
    (s.context.registrations.map fun e => (s.context.physical e.handle, e.value)).Nodup := by
  rw [List.Nodup, List.pairwise_map]
  exact h.imp fun hne heq => hne (congrArg Prod.fst heq) (congrArg Prod.snd heq)

/-- **HID IDs are not reused on a device whose IDs are all taken under one name.** -/
theorem hid_ids_unique {s : Session} (h : AlikeRun s) :
    s.RegistersOnce ∧
      (∀ e ∈ s.context.registrations, 1 ≤ e.value ∧ e.value ≤ 2 ^ 16 - 1) ∧
      ∀ graph ∈ s.context.devices, (∀ spec, s.NamesAlike (.nodeOpen graph spec)) → ∀ physical,
        s.context.physical graph.transport.handle = some physical → s.Exhausted physical →
          s.Overflows graph := by
  have hsound := h.sound
  refine ⟨hsound.registersOnce, fun e he => ?_, fun graph hgraph halike physical hphysical
    hexhausted => hsound.overflows hgraph hphysical hexhausted fun t ht hsame =>
      halike none graph none rfl t ht (hphysical.trans (congrArg some hsame.symm))⟩
  obtain ⟨t, hmem, heq⟩ :=
    List.mem_map.mp (hsound.registered.subset (List.mem_map_of_mem he))
  obtain ⟨-, hvalue⟩ := Prod.mk.inj heq
  obtain ⟨hpos, -, domain, hdomain, -, hbelow⟩ := hsound.taken t hmem
  have hbound := (hsound.bounds domain hdomain).2
  omega

/-- The phone is opened by its port path, a Node takes the HID ID 1, and the phone is closed. -/
def usedSession : Session := (sampleSession.openPhone [2]).openRaw.closePhone

/-- It is opened by its address, without a Node, and closed. -/
def visitedSession : Session := (usedSession.openPhone []).closePhone

theorem usedSession_run : AlikeRun usedSession := by
  have hcreated : AlikeRun sampleSession :=
    .step (.created sampleBus rfl) (.spec_create rfl rawPointer)
      (Session.namesAlike_of_ne (by rintro _ _ ⟨⟩))
  have hopened : AlikeRun (sampleSession.openPhone [2]) :=
    hcreated.step (Session.openPhone_step (by decide +kernel) (by decide +kernel))
      (Session.namesAlike_of_ne (by rintro _ _ ⟨⟩))
  have htaken : AlikeRun (sampleSession.openPhone [2]).openRaw := by
    refine hopened.step (Session.openRaw_step (by decide +kernel) (by decide +kernel)) ?_
    rintro graph spec ⟨⟩ t ht
    cases ht
  exact htaken.step (Session.closePhone_step (by decide +kernel))
    (Session.namesAlike_of_ne (by rintro _ _ ⟨⟩))

/-- The Node that is opened by the port path again takes the HID ID 2. -/
theorem hid_ids_unique_visited :
    ((visitedSession.openPhone [2]).openRaw.context.registrations.map fun e => e.value) = [1, 2] ∧
      (visitedSession.openPhone [2]).openRaw.RegistersOnce := by
  have hvisiting : AlikeRun (usedSession.openPhone []) :=
    usedSession_run.step (Session.openPhone_step (by decide +kernel) (by decide +kernel))
      (Session.namesAlike_of_ne (by rintro _ _ ⟨⟩))
  have hvisited : AlikeRun visitedSession :=
    hvisiting.step (Session.closePhone_step (by decide +kernel))
      (Session.namesAlike_of_ne (by rintro _ _ ⟨⟩))
  have hopened : AlikeRun (visitedSession.openPhone [2]) :=
    hvisited.step (Session.openPhone_step (by decide +kernel) (by decide +kernel))
      (Session.namesAlike_of_ne (by rintro _ _ ⟨⟩))
  have htaken : AlikeRun (visitedSession.openPhone [2]).openRaw := by
    refine hopened.step (Session.openRaw_step (by decide +kernel) (by decide +kernel)) ?_
    rintro graph spec ⟨⟩ t ht -
    have hnamed : (visitedSession.openPhone [2]).context.named
        (visitedSession.openPhone [2]).phone = some true := by decide +kernel
    have hall : (visitedSession.openPhone [2]).taken.all (·.named) = true := by decide +kernel
    exact hnamed.trans (congrArg some (List.all_eq_true.mp hall t ht).symm)
  exact ⟨by decide +kernel, (hid_ids_unique htaken).1⟩

/-- The phone is opened by its port path, closed, and opened by its address: the first Node of each
open takes the HID ID 1. -/
theorem hid_ids_reused : ¬ ∀ s, SessionRun s → s.RegistersOnce := by
  intro h
  have hopened : SessionRun (usedSession.openPhone []) :=
    usedSession_run.run.step (Session.openPhone_step (by decide +kernel) (by decide +kernel))
  have hrun : SessionRun (usedSession.openPhone []).openRaw :=
    hopened.step (Session.openRaw_step (by decide +kernel) (by decide +kernel))
  exact absurd (h _ hrun).nodup (by decide +kernel)

end LibaoaHid

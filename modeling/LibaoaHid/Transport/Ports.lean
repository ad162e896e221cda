import LibaoaHid.Transport.Usb

/-!
# Ports

`Runtime` and `Port` of `src/transport/port.cpp`: the registry of the open Ports, their reference
counts and interface claims, and the handles of libusb behind them.

A Port is known by its address, and a handle by the number of handles opened before it. Each atomic
section of the source is one function, so that others can run between them.

## Main definitions

* `Candidate`, `UsbDevice`, `Candidate.Matches`: what a selection says of a device.
* `Claim`, `Port`, `UsbCall`, `Runtime`.
* `Runtime.acquirePort`, `Runtime.retainPort`, `Runtime.release`.
* `Runtime.claimInterface`, `Runtime.releaseInterface`.
-/

namespace LibaoaHid.Transport

open Libusb

/-! ### Devices -/

/-- `Candidate`, as far as it selects a device. -/
structure Candidate where
  bus : ℕ
  address : ℕ
  portPath : List ℕ
  vendorId : ℕ
  productId : ℕ
  deriving DecidableEq

/-- A device on the bus. -/
structure UsbDevice where
  bus : ℕ
  address : ℕ
  portPath : List ℕ
  vendorId : ℕ
  productId : ℕ
  deriving DecidableEq

/-- A candidate selects a device by its bus, its identifiers, and its port path, or by its address
where the candidate has no path. -/
def Candidate.Matches (c : Candidate) (device : UsbDevice) : Prop :=
  device.bus = c.bus ∧ device.vendorId = c.vendorId ∧ device.productId = c.productId ∧
    if c.portPath = [] then device.address = c.address else device.portPath = c.portPath

instance (c : Candidate) (device : UsbDevice) : Decidable (c.Matches device) :=
  inferInstanceAs (Decidable (_ ∧ _))

/-- An entry of the device list of libusb, with the statuses of the calls on it. -/
structure Listed where
  device : UsbDevice
  descriptorStatus : ℤ := success
  portsRead : Bool := true
  openStatus : ℤ := success

/-- What a call finds: the device list, or the status in its place, and the memory for a Port and
for its place in the registry. -/
structure Host where
  listing : Except ℤ (List Listed)
  listing_neg : ∀ status, listing = .error status → status < 0
  portMemory : Bool := true
  registryMemory : Bool := true

/-- `port_path_matches`. -/
def portPathMatches (listed : Listed) (expected : List ℕ) : Bool :=
  if expected = [] ∨ expected.length > 7 then false
  else listed.portsRead && listed.device.portPath == expected

/-- `original_identity_matches`. -/
def originalIdentityMatches (listed : Listed) (c : Candidate) : Bool :=
  if listed.device.bus ≠ c.bus ∨ listed.device.vendorId ≠ c.vendorId ∨
      listed.device.productId ≠ c.productId then false
  else if c.portPath ≠ [] then portPathMatches listed c.portPath
  else listed.device.address == c.address

/-- `open_original`: the status, and the device that was opened. -/
def openOriginal (host : Host) (c : Candidate) : ℤ × Option UsbDevice :=
  match host.listing with
  | .error status => (status, none)
  | .ok devices =>
    match devices.find? fun listed =>
        listed.descriptorStatus == success && originalIdentityMatches listed c with
    | none => (errorNoDevice, none)
    | some listed =>
      (listed.openStatus, if listed.openStatus = success then some listed.device else none)

/-! ### Runtime -/

/-- `Port::Claim`. -/
structure Claim where
  interfaceNumber : ℤ
  count : ℕ
  deriving DecidableEq

/-- `Port`. -/
structure Port where
  handle : ℕ
  bus : ℕ
  address : ℕ
  references : ℕ
  claims : List Claim := []
  deriving DecidableEq

/-- The calls of libusb that open and close handles and claim their interfaces, on success. -/
inductive UsbCall
  | opened (handle : ℕ)
  | closed (handle : ℕ)
  | claimed (handle : ℕ) (interfaceNumber : ℤ)
  | released (handle : ℕ) (interfaceNumber : ℤ)
  deriving DecidableEq

/-- `Runtime`: the Ports by their addresses, `ports_`, and what libusb has seen. `handles` holds the
device behind each handle ever opened. -/
structure Runtime where
  heap : ℕ → Option Port := fun _ => none
  nextPort : ℕ := 0
  registry : List ℕ := []
  handles : List UsbDevice := []
  calls : List UsbCall := []

namespace Runtime

/-- A new value of a Port. -/
def updatePort (rt : Runtime) (p : ℕ) (port : Option Port) : Runtime :=
  { rt with heap := fun q => if q = p then port else rt.heap q }

/-- `libusb_open` of a device, on success. -/
def openHandle (rt : Runtime) (device : UsbDevice) : Runtime := { rt with
  handles := rt.handles ++ [device]
  calls := rt.calls ++ [.opened rt.handles.length] }

/-- `Port::try_retain`. -/
def tryRetain (rt : Runtime) (p : ℕ) : Option Runtime :=
  match rt.heap p with
  | none => none
  | some port =>
    if port.references ≠ 0 then
      some (rt.updatePort p (some { port with references := port.references + 1 }))
    else none

/-- `Port::retain`. -/
def retain (rt : Runtime) (p : ℕ) : Runtime :=
  rt.updatePort p ((rt.heap p).map fun port => { port with references := port.references + 1 })

/-- The decrement of `Port::release`; the Port is on its way out when it was the last reference. -/
def dropReference (rt : Runtime) (p : ℕ) : Runtime :=
  rt.updatePort p ((rt.heap p).map fun port => { port with references := port.references - 1 })

/-- `Runtime::unregister_port`. -/
def unregisterPort (rt : Runtime) (p : ℕ) : Runtime := { rt with registry := rt.registry.erase p }

/-- The end of `Port::release`: the claims that are left, the handle, and the Port itself. -/
def closePort (rt : Runtime) (p : ℕ) : Runtime :=
  match rt.heap p with
  | none => rt
  | some port =>
    { rt.updatePort p none with
      calls := rt.calls ++
        (port.claims.map fun claim => .released port.handle claim.interfaceNumber) ++
          [.closed port.handle] }

/-- `Port::release`. -/
def release (rt : Runtime) (p : ℕ) : Runtime :=
  match rt.heap p with
  | none => rt
  | some port =>
    if port.references ≠ 1 then rt.dropReference p
    else ((rt.dropReference p).unregisterPort p).closePort p

/-- `Runtime::retain_port`. -/
def retainPort (rt : Runtime) (bus address : ℕ) : Option (ℕ × Runtime) :=
  rt.registry.findSome? fun p =>
    match rt.heap p with
    | none => none
    | some port =>
      if port.bus = bus ∧ port.address = address then (rt.tryRetain p).map fun rt => (p, rt)
      else none

/-- `Runtime::acquire_port`. An exception of the registry is the result `errInternal` at the C
boundary. -/
def acquirePort (rt : Runtime) (host : Host) (c : Candidate) (bus : Bus) :
    Result × Option ℕ × Runtime × Bus :=
  if !host.portMemory then
    (.errInternal, none, rt, bus.record (recordError .errInternal errorNoMem))
  else
    match openOriginal host c with
    | (status, none) =>
      let result := mapLibusbError status false
      (result, none, rt, bus.record (recordError result status))
    | (_, some device) =>
      let handle := rt.handles.length
      let rt := rt.openHandle device
      if !host.registryMemory then
        (.errInternal, none, { rt with calls := rt.calls ++ [.closed handle] }, bus)
      else
        let p := rt.nextPort
        let port : Port := { handle, bus := c.bus, address := device.address, references := 1 }
        (.ok, some p,
          { rt.updatePort p (some port) with
            nextPort := p + 1
            registry := rt.registry ++ [p] }, bus)

/-! ### Interface claims -/

/-- `Port::claim_interface`, with the status of `libusb_claim_interface` and the memory for one more
claim. -/
def claimInterface (rt : Runtime) (p : ℕ) (interfaceNumber status : ℤ) (memory : Bool) :
    ℤ × Runtime :=
  match rt.heap p with
  | none => (errorNoDevice, rt)
  | some port =>
    if port.claims.any (·.interfaceNumber == interfaceNumber) then
      (success,
        rt.updatePort p (some { port with
          claims := port.claims.map fun claim =>
            if claim.interfaceNumber = interfaceNumber then { claim with count := claim.count + 1 }
            else claim }))
    else if status ≠ success then (status, rt)
    else if !memory then
      (errorNoMem,
        { rt with
          calls := rt.calls ++
            [.claimed port.handle interfaceNumber, .released port.handle interfaceNumber] })
    else
      (success,
        { rt.updatePort p (some { port with claims := port.claims ++ [⟨interfaceNumber, 1⟩] }) with
          calls := rt.calls ++ [.claimed port.handle interfaceNumber] })

/-- `Port::release_interface`. -/
def releaseInterface (rt : Runtime) (p : ℕ) (interfaceNumber : ℤ) : Runtime :=
  match rt.heap p with
  | none => rt
  | some port =>
    match port.claims.find? (·.interfaceNumber == interfaceNumber) with
    | none => rt
    | some claim =>
      if claim.count - 1 ≠ 0 then
        rt.updatePort p (some { port with
          claims := port.claims.map fun claim =>
            if claim.interfaceNumber = interfaceNumber then { claim with count := claim.count - 1 }
            else claim })
      else
        { rt.updatePort p (some { port with
            claims := port.claims.filter (·.interfaceNumber ≠ interfaceNumber) }) with
          calls := rt.calls ++ [.released port.handle interfaceNumber] }

/-! ### Valid states -/

/-- The registry holds Ports that exist, and Ports lie below the next free address. -/
structure Valid (rt : Runtime) : Prop where
  heap_fresh : ∀ p, rt.nextPort ≤ p → rt.heap p = none
  registered : ∀ p ∈ rt.registry, ∃ port, rt.heap p = some port

theorem Valid.nextPort_notMem {rt : Runtime} (h : rt.Valid) : rt.nextPort ∉ rt.registry := by
  intro hmem
  obtain ⟨port, hport⟩ := h.registered _ hmem
  rw [h.heap_fresh _ (Nat.le_refl _)] at hport
  cases hport

/-! ### The Port of a bus and an address -/

/-- The open Port that `retain_port` takes: the first one for the bus and the address that is not on
its way out. -/
def lender (rt : Runtime) (bus address : ℕ) : Option ℕ :=
  rt.registry.find? fun p =>
    (rt.heap p).any fun port =>
      port.bus == bus && port.address == address && port.references != 0

/-- `retain_port` takes one more reference of the lender. -/
theorem retainPort_eq (rt : Runtime) (bus address : ℕ) :
    rt.retainPort bus address = (rt.lender bus address).map fun p => (p, rt.retain p) := by
  unfold retainPort lender
  induction rt.registry with
  | nil => rfl
  | cons p rest ih =>
    rw [List.findSome?_cons, List.find?_cons]
    rcases hport : rt.heap p with _ | port
    · simpa using ih
    · by_cases hselected : port.bus = bus ∧ port.address = address
      · by_cases hlive : port.references = 0
        · simpa [hselected, tryRetain, hport, hlive] using ih
        · have hcounted : (port.references != 0) = true := bne_iff_ne.mpr hlive
          simp [hselected, tryRetain, hport, hlive, hcounted, retain]
      · have hfalse : (port.bus == bus && port.address == address) = false := by
          simpa using hselected
        simpa [hselected, hfalse] using ih

theorem lender_eq_some {rt : Runtime} {bus address p : ℕ} (h : rt.lender bus address = some p) :
    ∃ port, rt.heap p = some port ∧ port.references ≠ 0 := by
  have hany := List.find?_some h
  rcases hport : rt.heap p with _ | port
  · simp [hport] at hany
  · refine ⟨port, rfl, ?_⟩
    simp only [hport, Option.any_some, Bool.and_eq_true, bne_iff_ne] at hany
    exact hany.2

/-! ### References that are given back -/

/-- The release of a borrowed reference undoes the retain. -/
theorem release_retain {rt : Runtime} {p : ℕ} {port : Port} (hport : rt.heap p = some port)
    (hlive : port.references ≠ 0) : (rt.retain p).release p = rt := by
  have hretained : (rt.retain p).heap p =
      some { port with references := port.references + 1 } := by
    simp [retain, updatePort, hport]
  have hlast : port.references + 1 ≠ 1 := by omega
  rw [release, hretained]
  simp only [if_pos hlast, dropReference, retain, updatePort, hport]
  have hheap : (fun q => if q = p then some port else rt.heap q) = rt.heap := by
    funext q
    by_cases hq : q = p
    · rw [if_pos hq, hq, hport]
    · rw [if_neg hq]
  simp only [if_true, Option.map_some, Nat.add_sub_cancel]
  rcases rt with ⟨heap, nextPort, registry, handles, calls⟩
  simp only [Runtime.mk.injEq, and_true]
  refine Eq.trans (funext fun q => ?_) hheap
  split <;> rfl

/-- The Runtime behind a successful `acquire_port`. -/
def acquired (rt : Runtime) (c : Candidate) (device : UsbDevice) : Runtime :=
  { (rt.openHandle device).updatePort rt.nextPort
      (some { handle := rt.handles.length
              bus := c.bus
              address := device.address
              references := 1 }) with
    nextPort := rt.nextPort + 1
    registry := rt.registry ++ [rt.nextPort] }

/-- The release of the only reference of a new Port leaves the Ports as they were. -/
theorem release_acquired {rt : Runtime} (h : rt.Valid) (c : Candidate) (device : UsbDevice) :
    ((rt.acquired c device).release rt.nextPort).registry = rt.registry ∧
      ((rt.acquired c device).release rt.nextPort).heap = rt.heap ∧
      ((rt.acquired c device).release rt.nextPort).handles = rt.handles ++ [device] := by
  simp only [release, acquired, updatePort, if_true, dropReference, unregisterPort, closePort,
    openHandle, Option.map_some]
  refine ⟨?_, ?_, rfl⟩
  · simp [List.erase_append_right _ h.nextPort_notMem]
  · funext q
    by_cases hq : q = rt.nextPort
    · simp [hq, h.heap_fresh]
    · simp [hq]

/-- The identity that `open_original` looks for is that of the candidate. -/
theorem matches_of_originalIdentityMatches {listed : Listed} {c : Candidate}
    (h : originalIdentityMatches listed c = true) : c.Matches listed.device := by
  unfold originalIdentityMatches at h
  by_cases hids : listed.device.bus ≠ c.bus ∨ listed.device.vendorId ≠ c.vendorId ∨
      listed.device.productId ≠ c.productId
  · rw [if_pos hids] at h
    exact absurd h Bool.false_ne_true
  · rw [if_neg hids] at h
    simp only [not_or, ne_eq, Decidable.not_not] at hids
    refine ⟨hids.1, hids.2.1, hids.2.2, ?_⟩
    by_cases hpath : c.portPath = []
    · rw [if_neg (not_not_intro hpath)] at h
      rw [if_pos hpath]
      exact eq_of_beq h
    · rw [if_pos hpath, portPathMatches] at h
      rw [if_neg hpath]
      split at h
      · exact absurd h Bool.false_ne_true
      · exact eq_of_beq (Bool.and_eq_true_iff.mp h).2

/-- `open_original` fails, or opens a device that the candidate selects. -/
theorem openOriginal_cases (host : Host) (c : Candidate) :
    (∃ status, status ≠ success ∧ openOriginal host c = (status, none)) ∨
      ∃ status device, c.Matches device ∧ openOriginal host c = (status, some device) := by
  unfold openOriginal
  rcases hlisting : host.listing with status | devices
  · have hneg := host.listing_neg status hlisting
    exact .inl ⟨status, by unfold success; omega, rfl⟩
  · dsimp only
    rcases hfound : devices.find? fun listed =>
        listed.descriptorStatus == success && originalIdentityMatches listed c with _ | listed
    · exact .inl ⟨errorNoDevice, by decide, by rw [hfound]⟩
    · have hsome := List.find?_some hfound
      have hlisted := Bool.and_eq_true_iff.mp hsome
      rw [hfound]
      by_cases hopen : listed.openStatus = success
      · exact .inr ⟨_, listed.device, matches_of_originalIdentityMatches hlisted.2,
          congrArg _ (if_pos hopen)⟩
      · exact .inl ⟨listed.openStatus, hopen, congrArg _ (if_neg hopen)⟩

/-- What `acquire_port` does: nothing but a diagnostic, or a handle that is closed again, or a new
Port for a device that the candidate selects. -/
theorem acquirePort_cases (rt : Runtime) (host : Host) (c : Candidate) (bus : Bus) :
    (∃ result rt' bus', rt.acquirePort host c bus = (result, none, rt', bus') ∧ result ≠ .ok ∧
      rt'.registry = rt.registry ∧ rt'.heap = rt.heap ∧ bus'.sent = bus.sent) ∨
    ∃ device, c.Matches device ∧
      rt.acquirePort host c bus = (.ok, some rt.nextPort, rt.acquired c device, bus) := by
  unfold acquirePort
  by_cases hmemory : host.portMemory = true
  · rw [if_neg (by simp [hmemory])]
    rcases openOriginal_cases host c with ⟨status, hstatus, hopen⟩ |
      ⟨status, device, hdevice, hopen⟩
    · rw [hopen]
      exact .inl ⟨_, _, _, rfl, mapLibusbError_ne_ok hstatus false, rfl, rfl, rfl⟩
    · rw [hopen]
      by_cases hregistry : host.registryMemory = true
      · refine .inr ⟨device, hdevice, ?_⟩
        dsimp only
        rw [if_neg (by simp [hregistry])]
        rfl
      · refine .inl ⟨_, _, _, if_pos (by simpa using hregistry), nofun, rfl, rfl, rfl⟩
  · rw [if_pos (by simpa using hmemory)]
    exact .inl ⟨_, _, _, rfl, nofun, rfl, rfl, rfl⟩

end Runtime

end LibaoaHid.Transport

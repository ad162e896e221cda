import LibaoaHid.Transport.Accessory
import LibaoaHid.Transport.PortClaims
import Mathlib.Data.List.Lex
import Mathlib.Data.Prod.Lex

/-!
# Discovery

`Runtime::discover` of `src/transport/discovery.cpp`: the scan of the devices on the bus, with one
request 51 for each device that can be opened or that an open Port lends, and the public view of
what it finds, in `src/api/c_api.cpp`.

## Main definitions

* `Enumerated`, `DiscoveredCandidate`, `candidateLess`.
* `Runtime.visit`, `Runtime.discover`.
* `DeviceInfo`, `DiscoveredCandidate.publicInfo`, `DeviceInfo.copyCandidate`.

## Main results

* `Runtime.discover_ports`: the Ports are left as they were, and each handle that was opened is
  closed before the next one.
* `Runtime.discover_found`: the result is exactly the devices that answered, in order.
* `Runtime.discover_opens`: a discovered device is the one that an open of it selects.
-/

namespace LibaoaHid.Transport

open Libusb

/-! ### What is read of a device -/

/-- What `libusb_get_string_descriptor_ascii` makes of a string: its length or a status, and the
bytes. -/
structure StringAnswer where
  length : ℤ := 0
  bytes : List UInt8 := []

/-- A listed device with its strings, and whether there is memory for its candidate. -/
structure Enumerated extends Listed where
  serialIndex : ℕ := 0
  serialAnswer : StringAnswer := {}
  productIndex : ℕ := 0
  productAnswer : StringAnswer := {}
  memory : Bool := true

/-- `Candidate` in whole. -/
structure DiscoveredCandidate extends Candidate where
  protocolVersion : ℕ := 0
  serial : List UInt8 := []
  product : List UInt8 := []

/-- `port_path`. libusb answers with an error if there are more than seven ports. -/
def Listed.readPortPath (listed : Listed) : List ℕ :=
  if listed.portsRead ∧ listed.device.portPath.length ≤ 7 then listed.device.portPath else []

/-- `read_ascii_string`. -/
def readAsciiString (index : ℕ) (answer : StringAnswer) : List UInt8 :=
  if index = 0 then []
  else if answer.length ≤ 0 then []
  else answer.bytes.take answer.length.toNat

/-- `candidate_less`. -/
def candidateLess (left right : Candidate) : Bool :=
  if left.bus ≠ right.bus then left.bus < right.bus
  else if left.portPath ≠ right.portPath then left.portPath < right.portPath
  else left.address < right.address

/-- The version in the answer to request 51, if there is one. -/
def protocolVersion (answer : Answer) : Option ℕ :=
  if answer.status ≠ 2 then none
  else
    let protocol := (answer.data.getD 0 0).toNat ||| (answer.data.getD 1 0).toNat <<< 8
    if protocol ≠ 0 then some protocol else none

/-- The candidate of a device that answered with its version. -/
def Enumerated.candidate (entry : Enumerated) (protocolVersion : ℕ) : DiscoveredCandidate where
  bus := entry.device.bus
  address := entry.device.address
  portPath := entry.readPortPath
  vendorId := entry.device.vendorId
  productId := entry.device.productId
  protocolVersion
  serial := readAsciiString entry.serialIndex entry.serialAnswer
  product := readAsciiString entry.productIndex entry.productAnswer

/-! ### The scan -/

/-- The sort at the end of `discover`. -/
def sortCandidates (out : List DiscoveredCandidate) : List DiscoveredCandidate :=
  out.mergeSort fun left right => !candidateLess right.toCandidate left.toCandidate

/-- Request 51 of `discover` on a handle. The memory for the candidate can run out, which is an
exception. -/
def probe (handle timeoutMs : ℕ) (entry : Enumerated) (bus : Bus) :
    Except Result (Option DiscoveredCandidate) × Bus :=
  let (answer, bus) := bus.controlTransfer (protocolRequest handle timeoutMs)
  match protocolVersion answer with
  | none => (.ok none, bus)
  | some version =>
    if !entry.memory then (.error .errInternal, bus)
    else (.ok (some (entry.candidate version)), bus)

namespace Runtime

/-- The body of the loop of `discover`: the device is skipped, probed through the handle of an open
Port, or probed through a handle of its own. -/
def visit (rt : Runtime) (timeoutMs : ℕ) (entry : Enumerated) (bus : Bus) :
    Except Result (Option DiscoveredCandidate) × Runtime × Bus :=
  if entry.descriptorStatus ≠ success then (.ok none, rt, bus)
  else
    match rt.retainPort entry.device.bus entry.device.address with
    | some (owned, rt) =>
      let handle := ((rt.heap owned).map (·.handle)).getD 0
      let (found, bus) := probe handle timeoutMs entry bus
      (found, rt.release owned, bus)
    | none =>
      if entry.openStatus ≠ success then (.ok none, rt, bus)
      else
        let handle := rt.handles.length
        let rt := rt.openHandle entry.device
        let (found, bus) := probe handle timeoutMs entry bus
        (found, { rt with calls := rt.calls ++ [.closed handle] }, bus)

/-- The loop of `discover`. -/
def scan (timeoutMs : ℕ) : List Enumerated → List DiscoveredCandidate → Runtime → Bus →
    Except Result (List DiscoveredCandidate) × Runtime × Bus
  | [], out, rt, bus => (.ok out, rt, bus)
  | entry :: rest, out, rt, bus =>
    match rt.visit timeoutMs entry bus with
    | (.error result, rt, bus) => (.error result, rt, bus)
    | (.ok found, rt, bus) => scan timeoutMs rest (out ++ found.toList) rt bus

/-- `Runtime::discover`. An exception is the result `errInternal` at the C boundary. -/
def discover (rt : Runtime) (listing : Except ℤ (List Enumerated)) (timeoutMs : ℕ) (bus : Bus) :
    Except Result (List DiscoveredCandidate) × Runtime × Bus :=
  let bus := bus.record {}
  if timeoutMs = 0 then
    (.error .errParam, rt, bus.record (recordError .errParam 0 51 0 0 2))
  else
    match listing with
    | .error status =>
      let result := mapLibusbError status false
      (.error result, rt, bus.record (recordError result status))
    | .ok devices =>
      match scan timeoutMs devices [] rt bus with
      | (.error result, rt, bus) => (.error result, rt, bus)
      | (.ok out, rt, bus) =>
        (.ok (sortCandidates out), rt, bus)

end Runtime

/-! ### The public view -/

/-- `aoahid_device_info`. A pointer is the memory behind it. -/
structure DeviceInfo where
  busNumber : ℕ := 0
  deviceAddress : ℕ := 0
  portPath : Option (List ℕ) := none
  portPathLength : ℕ := 0
  vendorId : ℕ := 0
  productId : ℕ := 0
  protocolVersion : ℕ := 0
  serial : Option (List UInt8) := none
  product : Option (List UInt8) := none

/-- The C string that begins with the bytes. -/
def cString (bytes : List UInt8) : List UInt8 := bytes.takeWhile (· ≠ 0)

/-- The entry that `refresh_discovery_views` makes of a candidate. -/
def DiscoveredCandidate.publicInfo (c : DiscoveredCandidate) : DeviceInfo where
  busNumber := c.bus
  deviceAddress := c.address
  portPath := some c.portPath
  portPathLength := c.portPath.length
  vendorId := c.vendorId
  productId := c.productId
  protocolVersion := c.protocolVersion
  serial := some (cString c.serial)
  product := some (cString c.product)

namespace DeviceInfo

/-- `copy_candidate`. -/
def copyCandidate (info : DeviceInfo) : DiscoveredCandidate where
  bus := info.busNumber
  address := info.deviceAddress
  portPath := if info.portPathLength ≠ 0 then (info.portPath.getD []).take info.portPathLength
    else []
  vendorId := info.vendorId
  productId := info.productId
  protocolVersion := info.protocolVersion
  serial := info.serial.getD []
  product := info.product.getD []

/-- The check of the path in `aoahid_device_open` and `aoahid_accessory_start`. -/
def checkPortPath (info : DeviceInfo) : Result :=
  if (info.portPathLength ≠ 0 ∧ info.portPath = none) ∨ info.portPathLength > 7 then
    if info.portPathLength > 7 then .errOverflow else .errParam
  else .ok

end DeviceInfo

/-- A candidate survives the public view, but for what stands behind a NUL of its strings. -/
theorem DiscoveredCandidate.copyCandidate_publicInfo (c : DiscoveredCandidate) :
    c.publicInfo.copyCandidate =
      { c with
        serial := cString c.serial
        product := cString c.product } := by
  have hpath : c.publicInfo.copyCandidate.portPath = c.portPath := by
    change (if c.portPath.length ≠ 0 then c.portPath.take c.portPath.length else []) = c.portPath
    split
    · exact List.take_length
    · rename_i hempty
      exact (List.length_eq_zero_iff.mp (not_not.mp hempty)).symm
  exact congrArg (fun portPath : List ℕ => ({ c with
    portPath
    serial := cString c.serial
    product := cString c.product } : DiscoveredCandidate)) hpath

theorem Listed.readPortPath_length (listed : Listed) : listed.readPortPath.length ≤ 7 := by
  rw [readPortPath]
  split
  · rename_i h
    exact h.2
  · exact Nat.zero_le 7

/-! ### One device -/

/-- How the scan comes to a device. -/
inductive Access
  | skipped
  | lent (handle : ℕ)
  | own
  deriving DecidableEq

namespace Runtime

variable {rt : Runtime} {timeoutMs : ℕ} {bus : Bus} {entry : Enumerated}

/-- A device is skipped, is probed through the handle of an open Port, or is opened. -/
def access (rt : Runtime) (entry : Enumerated) : Access :=
  if entry.descriptorStatus ≠ success then .skipped
  else
    match rt.lender entry.device.bus entry.device.address with
    | some owned => .lent (((rt.heap owned).map (·.handle)).getD 0)
    | none => if entry.openStatus ≠ success then .skipped else .own

/-- A handle that was opened and closed. -/
def openedOnce (rt : Runtime) (device : UsbDevice) : Runtime := { rt with
  handles := rt.handles ++ [device]
  calls := rt.calls ++ [.opened rt.handles.length, .closed rt.handles.length] }

theorem visit_skipped (h : rt.access entry = .skipped) :
    rt.visit timeoutMs entry bus = (.ok none, rt, bus) := by
  rw [access] at h
  rw [visit]
  split at h
  · rename_i hstatus
    rw [if_pos hstatus]
  · rename_i hstatus
    rw [if_neg hstatus, retainPort_eq]
    split at h
    · cases h
    · rename_i hlender
      rw [hlender]
      split at h
      · rename_i hopen
        rw [Option.map_none, if_pos hopen]
      · cases h

theorem visit_lent {handle : ℕ} (h : rt.access entry = .lent handle) :
    rt.visit timeoutMs entry bus =
      ((probe handle timeoutMs entry bus).1, rt, (probe handle timeoutMs entry bus).2) := by
  rw [access] at h
  rw [visit]
  split at h
  · cases h
  · rename_i hstatus
    rw [if_neg hstatus, retainPort_eq]
    split at h
    · rename_i owned hlender
      obtain ⟨port, hport, hlive⟩ := lender_eq_some hlender
      rw [hport] at h
      cases h
      rw [hlender]
      simp only [Option.map_some, Option.getD_some, retain_heap hport, release_retain hport hlive]
    · split at h <;> cases h

theorem lender_of_own (h : rt.access entry = .own) :
    rt.lender entry.device.bus entry.device.address = none := by
  rw [access] at h
  split at h
  · cases h
  · split at h
    · cases h
    · assumption

theorem visit_own (h : rt.access entry = .own) :
    rt.visit timeoutMs entry bus =
      ((probe rt.handles.length timeoutMs entry bus).1, rt.openedOnce entry.device,
        (probe rt.handles.length timeoutMs entry bus).2) := by
  have hlender := lender_of_own h
  rw [access, hlender] at h
  rw [visit]
  split at h
  · cases h
  · rename_i hstatus
    dsimp only at h
    split at h
    · cases h
    · rename_i hopen
      rw [if_neg hstatus, retainPort_eq, hlender, Option.map_none, if_neg hopen]
      simp only [openHandle, openedOnce, List.append_assoc, List.singleton_append]

end Runtime

theorem probe_eq (handle timeoutMs : ℕ) (entry : Enumerated) (bus : Bus) :
    probe handle timeoutMs entry bus =
      match protocolVersion (bus.answers bus.sent.length) with
      | none => (.ok none, (bus.controlTransfer (protocolRequest handle timeoutMs)).2)
      | some version =>
        if !entry.memory then
          (.error .errInternal, (bus.controlTransfer (protocolRequest handle timeoutMs)).2)
        else
          (.ok (some (entry.candidate version)),
            (bus.controlTransfer (protocolRequest handle timeoutMs)).2) := rfl

/-- A probe is one request. -/
theorem probe_snd (handle timeoutMs : ℕ) (entry : Enumerated) (bus : Bus) :
    (probe handle timeoutMs entry bus).2 =
      (bus.controlTransfer (protocolRequest handle timeoutMs)).2 := by
  rw [probe_eq]
  split
  · rfl
  · split <;> rfl

theorem probe_ok {handle timeoutMs : ℕ} {entry : Enumerated} {bus : Bus}
    {found : Option DiscoveredCandidate} (h : (probe handle timeoutMs entry bus).1 = .ok found) :
    found = (protocolVersion (bus.answers bus.sent.length)).map entry.candidate := by
  rw [probe_eq] at h
  split at h
  · rename_i hversion
    cases h
    rw [hversion]
    rfl
  · rename_i version hversion
    split at h
    · cases h
    · cases h
      rw [hversion]
      rfl

/-! ### The scan of the list -/

/-- Handles that were opened and closed one after the other. -/
def Runtime.openedAll (rt : Runtime) (devices : List UsbDevice) : Runtime :=
  devices.foldl Runtime.openedOnce rt

/-- The calls of libusb for `n` handles that are opened and closed one after the other. -/
def openCloses (first n : ℕ) : List UsbCall :=
  (List.range' first n).flatMap fun handle => [.opened handle, .closed handle]

theorem Runtime.openedAll_eq (rt : Runtime) (devices : List UsbDevice) :
    rt.openedAll devices = { rt with
      handles := rt.handles ++ devices
      calls := rt.calls ++ openCloses rt.handles.length devices.length } := by
  induction devices generalizing rt with
  | nil =>
    rw [openCloses, List.length_nil, List.range'_zero, List.flatMap_nil, List.append_nil,
      List.append_nil]
    rfl
  | cons device rest ih =>
    have hfirst := ih (rt.openedOnce device)
    rw [openedAll, List.foldl_cons]
    refine hfirst.trans ?_
    simp only [openedOnce, openCloses, List.length_cons, List.length_append, List.length_nil,
      List.range'_succ, List.flatMap_cons, List.append_assoc, List.cons_append, List.nil_append,
      Nat.zero_add]

/-- Request 51 on a handle, with its answer. -/
def probeExchange (handle timeoutMs : ℕ) (bus : Bus) : Exchange :=
  { protocolRequest handle timeoutMs with answer := bus.answers bus.sent.length }

/-- The devices of a scan with their request 51. -/
structure Scanned (rt : Runtime) (timeoutMs : ℕ) (bus : Bus) (visited : List Enumerated)
    (probes : List (Enumerated × Exchange)) (rt' : Runtime) (bus' : Bus) : Prop where
  runtime : rt' = rt.openedAll
    ((visited.filter fun entry => rt.access entry = .own).map (·.device))
  answers : bus'.answers = bus.answers
  sent : bus'.sent = bus.sent ++ probes.map Prod.snd
  entries : probes.map Prod.fst = visited.filter fun entry => rt.access entry ≠ .skipped
  requests : ∀ pr ∈ probes, ∃ handle, pr.2.toControlRequest = protocolRequest handle timeoutMs ∧
    (rt.access pr.1 = .lent handle ∨
      rt.access pr.1 = .own ∧ rt'.handles[handle]? = some pr.1.device)

namespace Scanned

variable {rt rt' : Runtime} {timeoutMs : ℕ} {bus bus' : Bus} {visited : List Enumerated}
  {probes : List (Enumerated × Exchange)} {entry : Enumerated}

theorem nil (rt : Runtime) (timeoutMs : ℕ) (bus : Bus) : Scanned rt timeoutMs bus [] [] rt bus where
  runtime := rfl
  answers := rfl
  sent := (List.append_nil _).symm
  entries := rfl
  requests pr hpr := by cases hpr

theorem skipped (h : Scanned rt timeoutMs bus visited probes rt' bus')
    (hentry : rt.access entry = .skipped) :
    Scanned rt timeoutMs bus (entry :: visited) probes rt' bus' where
  runtime := by
    rw [List.filter_cons_of_neg (by rw [hentry]; decide)]
    exact h.runtime
  answers := h.answers
  sent := h.sent
  entries := by
    rw [List.filter_cons_of_neg (by rw [hentry]; decide)]
    exact h.entries
  requests := h.requests

theorem lent {handle : ℕ}
    (h : Scanned rt timeoutMs (bus.controlTransfer (protocolRequest handle timeoutMs)).2 visited
      probes rt' bus') (hentry : rt.access entry = .lent handle) :
    Scanned rt timeoutMs bus (entry :: visited)
      ((entry, probeExchange handle timeoutMs bus) :: probes) rt' bus' where
  runtime := by
    rw [List.filter_cons_of_neg (by rw [hentry, decide_eq_true_eq]; rintro ⟨⟩)]
    exact h.runtime
  answers := h.answers
  sent := by
    rw [h.sent, List.map_cons]
    exact (List.append_cons _ _ _).symm
  entries := by
    rw [List.filter_cons_of_pos (by rw [hentry, decide_eq_true_eq]; rintro ⟨⟩), List.map_cons,
      h.entries]
  requests pr hpr := by
    rcases List.mem_cons.mp hpr with rfl | hpr
    · exact ⟨handle, rfl, .inl hentry⟩
    · exact h.requests pr hpr

theorem own
    (h : Scanned (rt.openedOnce entry.device) timeoutMs
      (bus.controlTransfer (protocolRequest rt.handles.length timeoutMs)).2 visited probes rt' bus')
    (hentry : rt.access entry = .own) :
    Scanned rt timeoutMs bus (entry :: visited)
      ((entry, probeExchange rt.handles.length timeoutMs bus) :: probes) rt' bus' where
  runtime := by
    rw [List.filter_cons_of_pos (by rw [hentry]; decide), List.map_cons]
    exact h.runtime
  answers := h.answers
  sent := by
    rw [h.sent, List.map_cons]
    exact (List.append_cons _ _ _).symm
  entries := by
    rw [List.filter_cons_of_pos (by rw [hentry]; decide), List.map_cons, h.entries]
    rfl
  requests pr hpr := by
    rcases List.mem_cons.mp hpr with rfl | hpr
    · refine ⟨rt.handles.length, rfl, .inr ⟨hentry, ?_⟩⟩
      rw [h.runtime, Runtime.openedAll_eq]
      change ((rt.handles ++ [entry.device]) ++ _)[rt.handles.length]? = _
      rw [List.append_assoc, List.getElem?_append_right le_rfl, Nat.sub_self]
      rfl
    · exact h.requests pr hpr

end Scanned

/-- What a device that answered becomes. -/
def foundOf (probes : List (Enumerated × Exchange)) : List DiscoveredCandidate :=
  probes.filterMap fun pr => (protocolVersion pr.2.answer).map pr.1.candidate

theorem foundOf_cons {handle timeoutMs : ℕ} {entry : Enumerated} {bus : Bus}
    {found : Option DiscoveredCandidate} (h : (probe handle timeoutMs entry bus).1 = .ok found)
    (probes : List (Enumerated × Exchange)) :
    foundOf ((entry, probeExchange handle timeoutMs bus) :: probes) =
      found.toList ++ foundOf probes := by
  rw [probe_ok h, foundOf, List.filterMap_cons]
  cases hversion : (protocolVersion (bus.answers bus.sent.length)).map entry.candidate with
  | none =>
    rw [show (protocolVersion (probeExchange handle timeoutMs bus).answer).map entry.candidate =
      none from hversion]
    rfl
  | some c =>
    rw [show (protocolVersion (probeExchange handle timeoutMs bus).answer).map entry.candidate =
      some c from hversion]
    rfl

/-- The scan visits the devices in their order, all of them unless an exception ends it. -/
theorem Runtime.scan_scanned (timeoutMs : ℕ) (devices : List Enumerated)
    (out : List DiscoveredCandidate) (rt : Runtime) (bus : Bus) :
    ∃ visited rest probes, devices = visited ++ rest ∧
      Scanned rt timeoutMs bus visited probes (scan timeoutMs devices out rt bus).2.1
        (scan timeoutMs devices out rt bus).2.2 ∧
      ∀ result, (scan timeoutMs devices out rt bus).1 = .ok result →
        rest = [] ∧ result = out ++ foundOf probes := by
  induction devices generalizing out rt bus with
  | nil =>
    refine ⟨[], [], [], rfl, .nil rt timeoutMs bus, ?_⟩
    rintro result ⟨⟩
    exact ⟨rfl, (List.append_nil _).symm⟩
  | cons entry devices ih =>
    rw [scan]
    cases haccess : rt.access entry with
    | skipped =>
      obtain ⟨visited, rest, probes, hdevices, hscanned, hresult⟩ := ih (out ++ none.toList) rt bus
      rw [visit_skipped haccess]
      refine ⟨entry :: visited, rest, probes, by rw [hdevices]; rfl, hscanned.skipped haccess, ?_⟩
      intro result hok
      obtain ⟨hrest, heq⟩ := hresult result hok
      exact ⟨hrest, by rw [heq, Option.toList_none, List.append_nil]⟩
    | lent handle =>
      rw [visit_lent haccess, probe_snd]
      cases hprobe : (probe handle timeoutMs entry bus).1 with
      | error failure =>
        exact ⟨[entry], devices, _, rfl, (Scanned.nil rt timeoutMs _).lent haccess,
          by rintro result ⟨⟩⟩
      | ok found =>
        obtain ⟨visited, rest, probes, hdevices, hscanned, hresult⟩ := ih (out ++ found.toList) rt
          (bus.controlTransfer (protocolRequest handle timeoutMs)).2
        refine ⟨entry :: visited, rest, _, by rw [hdevices]; rfl, hscanned.lent haccess, ?_⟩
        intro result hok
        obtain ⟨hrest, heq⟩ := hresult result hok
        exact ⟨hrest, by rw [heq, foundOf_cons hprobe, List.append_assoc]⟩
    | own =>
      rw [visit_own haccess, probe_snd]
      cases hprobe : (probe rt.handles.length timeoutMs entry bus).1 with
      | error failure =>
        exact ⟨[entry], devices, _, rfl,
          (Scanned.nil (rt.openedOnce entry.device) timeoutMs _).own haccess,
          by rintro result ⟨⟩⟩
      | ok found =>
        obtain ⟨visited, rest, probes, hdevices, hscanned, hresult⟩ := ih (out ++ found.toList)
          (rt.openedOnce entry.device)
          (bus.controlTransfer (protocolRequest rt.handles.length timeoutMs)).2
        refine ⟨entry :: visited, rest, _, by rw [hdevices]; rfl, hscanned.own haccess, ?_⟩
        intro result hok
        obtain ⟨hrest, heq⟩ := hresult result hok
        exact ⟨hrest, by rw [heq, foundOf_cons hprobe, List.append_assoc]⟩

/-! ### The order of the result -/

/-- The key of a candidate: its bus, its port path and its address. -/
def Candidate.key (c : Candidate) : ℕ ×ₗ List ℕ ×ₗ ℕ :=
  toLex (c.bus, toLex (c.portPath, c.address))

/-- The comparison of the sort is the order of the keys. -/
theorem candidateLess_iff {left right : Candidate} :
    candidateLess left right = true ↔ left.key < right.key := by
  rw [Candidate.key, Candidate.key, Prod.Lex.toLex_lt_toLex, Prod.Lex.toLex_lt_toLex, candidateLess]
  split
  · rename_i hbus
    rw [decide_eq_true_eq]
    exact ⟨.inl, fun h => h.resolve_right fun heq => hbus heq.1⟩
  · rename_i hbus
    have hsame : left.bus = right.bus := not_not.mp hbus
    split
    · rename_i hpath
      rw [decide_eq_true_eq]
      refine ⟨fun h => .inr ⟨hsame, .inl h⟩, fun h => ?_⟩
      rcases h with hlt | ⟨-, hlt | heq⟩
      · exact absurd hsame hlt.ne
      · exact hlt
      · exact absurd heq.1 hpath
    · rename_i hpath
      have hsamePath : left.portPath = right.portPath := not_not.mp hpath
      rw [decide_eq_true_eq]
      refine ⟨fun h => .inr ⟨hsame, .inr ⟨hsamePath, h⟩⟩, fun h => ?_⟩
      rcases h with hlt | ⟨-, hlt | heq⟩
      · exact absurd hsame hlt.ne
      · exact absurd hsamePath hlt.ne
      · exact heq.2

theorem sortCandidates_pairwise (out : List DiscoveredCandidate) :
    (sortCandidates out).Pairwise fun left right => left.key ≤ right.key := by
  have hle : ∀ left right : DiscoveredCandidate,
      (!candidateLess right.toCandidate left.toCandidate) = true ↔ left.key ≤ right.key := by
    intro left right
    rw [Bool.not_eq_true', ← Bool.not_eq_true, candidateLess_iff, not_lt]
  refine (List.pairwise_mergeSort (fun a b c hab hbc => ?_) (fun a b => ?_) out).imp fun h =>
    (hle _ _).mp h
  · exact (hle a c).mpr (((hle a b).mp hab).trans ((hle b c).mp hbc))
  · rw [Bool.or_eq_true, hle, hle]
    exact le_total _ _

namespace Runtime

variable {rt : Runtime} {listing : Except ℤ (List Enumerated)} {timeoutMs : ℕ} {bus : Bus}

/-- A discovery fails before the scan, or is a scan. -/
theorem discover_cases (rt : Runtime) (listing : Except ℤ (List Enumerated)) (timeoutMs : ℕ)
    (bus : Bus) :
    (∃ failure, (rt.discover listing timeoutMs bus).1 = .error failure ∧
        (rt.discover listing timeoutMs bus).2.1 = rt) ∨
      ∃ devices, listing = .ok devices ∧
        (rt.discover listing timeoutMs bus).1 =
          (scan timeoutMs devices [] rt (bus.record {})).1.map sortCandidates ∧
        (rt.discover listing timeoutMs bus).2 =
          (scan timeoutMs devices [] rt (bus.record {})).2 := by
  simp only [discover]
  split
  · exact .inl ⟨_, rfl, rfl⟩
  · cases listing with
    | error status => exact .inl ⟨_, rfl, rfl⟩
    | ok devices =>
      refine .inr ⟨devices, rfl, ?_⟩
      dsimp only
      cases hscan : scan timeoutMs devices [] rt (bus.record {}) with
      | mk result after => cases result <;> exact ⟨rfl, rfl⟩

/-- **The discovery leaves the Ports as they were.** Each handle that it opened is closed before it
opens the next one, whatever becomes of the requests, and it opens none for a device that an open
Port lends. -/
theorem discover_ports (rt : Runtime) (listing : Except ℤ (List Enumerated)) (timeoutMs : ℕ)
    (bus : Bus) :
    ∃ opened : List UsbDevice,
      (rt.discover listing timeoutMs bus).2.1 = { rt with
        handles := rt.handles ++ opened
        calls := rt.calls ++ openCloses rt.handles.length opened.length } ∧
      ∀ device ∈ opened, rt.lender device.bus device.address = none := by
  obtain ⟨failure, -, hruntime⟩ | ⟨devices, -, -, hafter⟩ := discover_cases rt listing timeoutMs bus
  · refine ⟨[], hruntime.trans (openedAll_eq rt []), by rintro device ⟨⟩⟩
  · obtain ⟨visited, rest, probes, -, hscanned, -⟩ :=
      scan_scanned timeoutMs devices [] rt (bus.record {})
    refine ⟨(visited.filter fun entry => rt.access entry = .own).map (·.device), ?_, ?_⟩
    · rw [hafter, hscanned.runtime, openedAll_eq]
    · intro device hmem
      obtain ⟨entry, hentry, rfl⟩ := List.mem_map.mp hmem
      exact lender_of_own (of_decide_eq_true (List.mem_filter.mp hentry).2)

/-- **The result of a discovery** is exactly the devices that could be read and opened, or that an
open Port lends, and that answered request 51 with a version, in the order of their keys. There is
one request for each device that was reached: on the handle of the Port that lends for its bus and
address, or on a fresh handle of it. -/
theorem discover_found {out : List DiscoveredCandidate}
    (h : (rt.discover listing timeoutMs bus).1 = .ok out) :
    ∃ devices probes, listing = .ok devices ∧
      (rt.discover listing timeoutMs bus).2.2.sent = bus.sent ++ probes.map Prod.snd ∧
      probes.map Prod.fst = (devices.filter fun entry => rt.access entry ≠ .skipped) ∧
      (∀ pr ∈ probes, ∃ handle, pr.2.toControlRequest = protocolRequest handle timeoutMs ∧
        (rt.access pr.1 = .lent handle ∨ rt.access pr.1 = .own ∧
          (rt.discover listing timeoutMs bus).2.1.handles[handle]? = some pr.1.device)) ∧
      out.Perm (foundOf probes) ∧ out.Pairwise fun left right => left.key ≤ right.key := by
  obtain ⟨failure, hfailed, -⟩ | ⟨devices, hlisting, hresult, hafter⟩ :=
    discover_cases rt listing timeoutMs bus
  · rw [hfailed] at h
    cases h
  · obtain ⟨visited, rest, probes, hdevices, hscanned, hfound⟩ :=
      scan_scanned timeoutMs devices [] rt (bus.record {})
    rw [hresult] at h
    cases hscan : (scan timeoutMs devices [] rt (bus.record {})).1 with
    | error failure =>
      rw [hscan] at h
      cases h
    | ok found =>
      rw [hscan] at h
      cases h
      obtain ⟨rfl, rfl⟩ := hfound found hscan
      rw [List.append_nil] at hdevices
      subst hdevices
      refine ⟨devices, probes, hlisting, ?_, hscanned.entries, ?_, List.mergeSort_perm _ _,
        sortCandidates_pairwise _⟩
      · rw [hafter]
        exact hscanned.sent
      · rw [hafter]
        exact hscanned.requests

/-- A phone on the bus, as the discovery reads it. -/
def listedPhone : Enumerated where
  device := { bus := 1, address := 4, portPath := [3], vendorId := 0x18D1, productId := 0x4EE7 }

/-- A bus on which a phone answers request 51 with version 2. -/
def versionBus : Bus where
  answers _ := { status := 2, data := [2, 0] }

/-- The discovery of one phone. -/
theorem discover_found_phone : ∃ out : List DiscoveredCandidate, out.length = 1 ∧
    ∃ devices probes, Except.ok [listedPhone] = (.ok devices : Except ℤ (List Enumerated)) ∧
      (Runtime.discover {} (.ok [listedPhone]) 1000 versionBus).2.2.sent =
        versionBus.sent ++ probes.map Prod.snd ∧
      probes.map Prod.fst =
        (devices.filter fun entry => Runtime.access {} entry ≠ .skipped) ∧
      (∀ pr ∈ probes, ∃ handle, pr.2.toControlRequest = protocolRequest handle 1000 ∧
        (Runtime.access {} pr.1 = .lent handle ∨ Runtime.access {} pr.1 = .own ∧
          (Runtime.discover {} (.ok [listedPhone]) 1000 versionBus).2.1.handles[handle]? =
            some pr.1.device)) ∧
      out.Perm (foundOf probes) ∧ out.Pairwise fun left right => left.key ≤ right.key :=
  ⟨sortCandidates [listedPhone.candidate 2], List.length_mergeSort _,
    @discover_found {} (.ok [listedPhone]) 1000 versionBus _ rfl⟩

theorem descriptorStatus_of_access {entry : Enumerated} (h : rt.access entry ≠ .skipped) :
    entry.descriptorStatus = success := by
  rw [access] at h
  by_contra hstatus
  exact h (if_pos hstatus)

end Runtime

/-! ### Opening what was found -/

/-- No two devices of the list are at the same place: each has its own port path and its own address
on its bus. -/
def DistinctPlaces (devices : List Enumerated) : Prop :=
  ∀ a ∈ devices, ∀ b ∈ devices, a.device.bus = b.device.bus →
    a.device.portPath = b.device.portPath ∨ a.device.address = b.device.address →
    a.toListed = b.toListed

/-- A device matches the candidate that was made of it. -/
theorem originalIdentityMatches_candidate (entry : Enumerated) (version : ℕ) :
    originalIdentityMatches entry.toListed (entry.candidate version).toCandidate = true := by
  rw [originalIdentityMatches, if_neg]
  · change (if entry.readPortPath ≠ [] then portPathMatches entry.toListed entry.readPortPath
      else entry.device.address == entry.device.address) = true
    split
    · rename_i hpath
      rw [portPathMatches, if_neg]
      · rw [Listed.readPortPath] at hpath ⊢
        split at hpath
        · rename_i hread
          rw [if_pos hread, hread.1, Bool.true_and, beq_self_eq_true]
        · exact absurd rfl hpath
      · rintro (hempty | hlong)
        · exact hpath hempty
        · exact absurd entry.readPortPath_length (not_le.mpr hlong)
    · exact beq_self_eq_true _
  · rintro (hne | hne | hne) <;> exact hne rfl

/-- A device that matches the candidate of another one is at its place. -/
theorem place_of_originalIdentityMatches {a b : Enumerated} {version : ℕ}
    (h : originalIdentityMatches b.toListed (a.candidate version).toCandidate = true) :
    a.device.bus = b.device.bus ∧
      (a.device.portPath = b.device.portPath ∨ a.device.address = b.device.address) := by
  rw [originalIdentityMatches] at h
  split at h
  · cases h
  · rename_i hsame
    refine ⟨(not_not.mp (not_or.mp hsame).1).symm, ?_⟩
    change (if a.readPortPath ≠ [] then portPathMatches b.toListed a.readPortPath
      else b.device.address == a.device.address) = true at h
    split at h
    · rename_i hpath
      rw [portPathMatches] at h
      split at h
      · cases h
      · have hread := beq_iff_eq.mp (Bool.and_eq_true_iff.mp h).2
        refine .inl ?_
        rw [hread, Listed.readPortPath]
        rw [Listed.readPortPath] at hpath
        split at hpath
        · rename_i hcond
          rw [if_pos hcond]
        · exact absurd rfl hpath
    · exact .inr (beq_iff_eq.mp h).symm

/-- An open of a candidate selects the device that it was made of. -/
theorem openOriginal_candidate {devices : List Enumerated} {host : Host}
    (hhost : host.listing = .ok (devices.map (·.toListed))) (hplaces : DistinctPlaces devices)
    {entry : Enumerated} (hmem : entry ∈ devices) (hstatus : entry.descriptorStatus = success)
    (version : ℕ) :
    openOriginal host (entry.candidate version).toCandidate =
      (entry.openStatus, if entry.openStatus = success then some entry.device else none) := by
  have hself := originalIdentityMatches_candidate entry version
  rw [openOriginal, hhost]
  dsimp only
  split
  · rename_i hnone
    have hno := List.find?_eq_none.mp hnone entry.toListed (List.mem_map_of_mem hmem)
    rw [hself, hstatus] at hno
    exact absurd rfl hno
  · rename_i found hfound
    obtain ⟨other, hother, rfl⟩ := List.mem_map.mp (List.mem_of_find?_eq_some hfound)
    have hmatches := List.find?_some hfound
    rw [Bool.and_eq_true] at hmatches
    obtain ⟨hbus, hplace⟩ := place_of_originalIdentityMatches hmatches.2
    rw [← hplaces entry hmem other hother hbus hplace]

/-- A Port on a device that could be opened. -/
theorem Runtime.acquirePort_of_openOriginal (rt : Runtime) (bus : Bus) {host : Host} {c : Candidate}
    {device : UsbDevice} (hopen : openOriginal host c = (success, some device))
    (hmemory : host.portMemory = true ∧ host.registryMemory = true) :
    ∃ p rt' port, rt.acquirePort host c bus = (.ok, some p, rt', bus) ∧ rt'.heap p = some port ∧
      port.bus = c.bus ∧ port.address = device.address ∧
      rt'.handles[port.handle]? = some device := by
  let port : Port :=
    { handle := rt.handles.length, bus := c.bus, address := device.address, references := 1 }
  have hacquire : rt.acquirePort host c bus =
      (.ok, some rt.nextPort,
        { (rt.openHandle device).updatePort rt.nextPort (some port) with
          nextPort := rt.nextPort + 1
          registry := rt.registry ++ [rt.nextPort] }, bus) := by
    rw [acquirePort, hopen, hmemory.1, hmemory.2]
    rfl
  refine ⟨_, _, port, hacquire, if_pos rfl, rfl, rfl, ?_⟩
  change (rt.handles ++ [device])[rt.handles.length]? = some device
  rw [List.getElem?_append_right le_rfl, Nat.sub_self]
  rfl

theorem checkPortPath_publicInfo {c : DiscoveredCandidate} (h : c.portPath.length ≤ 7) :
    c.publicInfo.checkPortPath = .ok := by
  rw [DeviceInfo.checkPortPath, if_neg]
  rintro (⟨-, hnull⟩ | hlong)
  · cases hnull
  · exact absurd h (not_le.mpr hlong)

/-- **A discovered device is the one that is opened.** Its public entry passes the check of the
path, and as long as the bus does not change, an open of it gets a Port on the very device that was
found, registered under its bus and its address. -/
theorem Runtime.discover_opens {rt : Runtime} {devices : List Enumerated} {timeoutMs : ℕ}
    {bus : Bus} {out : List DiscoveredCandidate} {host : Host}
    (h : (rt.discover (.ok devices) timeoutMs bus).1 = .ok out)
    (hhost : host.listing = .ok (devices.map (·.toListed))) (hplaces : DistinctPlaces devices)
    (hmemory : host.portMemory = true ∧ host.registryMemory = true) :
    ∀ c ∈ out, c.publicInfo.checkPortPath = .ok ∧ ∃ entry ∈ devices,
      c.bus = entry.device.bus ∧ c.address = entry.device.address ∧
      (entry.openStatus = success → ∀ (rt₁ : Runtime) (bus₁ : Bus), ∃ p rt₂ port,
        rt₁.acquirePort host c.publicInfo.copyCandidate.toCandidate bus₁ =
          (.ok, some p, rt₂, bus₁) ∧
        rt₂.heap p = some port ∧ port.bus = entry.device.bus ∧
        port.address = entry.device.address ∧ rt₂.handles[port.handle]? = some entry.device) := by
  obtain ⟨listed, probes, hlisting, -, hprobes, -, hperm, -⟩ := Runtime.discover_found h
  cases hlisting
  intro c hc
  obtain ⟨pr, hpr, hfound⟩ := List.mem_filterMap.mp (hperm.mem_iff.mp hc)
  obtain ⟨version, -, rfl⟩ := Option.map_eq_some_iff.mp hfound
  have hentry : pr.1 ∈ devices.filter fun entry => rt.access entry ≠ .skipped :=
    hprobes ▸ List.mem_map_of_mem hpr
  obtain ⟨hmem, hreached⟩ := List.mem_filter.mp hentry
  have hstatus := Runtime.descriptorStatus_of_access (of_decide_eq_true hreached)
  refine ⟨checkPortPath_publicInfo pr.1.readPortPath_length, pr.1, hmem, rfl, rfl,
    fun hopen rt₁ bus₁ => ?_⟩
  rw [DiscoveredCandidate.copyCandidate_publicInfo]
  have hselected := openOriginal_candidate hhost hplaces hmem hstatus version
  rw [hopen, if_pos rfl] at hselected
  exact rt₁.acquirePort_of_openOriginal bus₁ hselected hmemory

/-- The phone that was discovered is opened. -/
theorem Runtime.discover_opens_phone : ∃ (out : List DiscoveredCandidate) (host : Host),
    out.length = 1 ∧ ∀ c ∈ out, c.publicInfo.checkPortPath = .ok ∧ ∃ entry ∈ [listedPhone],
      c.bus = entry.device.bus ∧ c.address = entry.device.address ∧
      (entry.openStatus = success → ∀ (rt₁ : Runtime) (bus₁ : Bus), ∃ p rt₂ port,
        rt₁.acquirePort host c.publicInfo.copyCandidate.toCandidate bus₁ =
          (.ok, some p, rt₂, bus₁) ∧
        rt₂.heap p = some port ∧ port.bus = entry.device.bus ∧
        port.address = entry.device.address ∧ rt₂.handles[port.handle]? = some entry.device) := by
  have hplaces : DistinctPlaces [listedPhone] := by
    intro a ha b hb _ _
    rw [List.mem_singleton.mp ha, List.mem_singleton.mp hb]
  let host : Host := { listing := .ok [listedPhone.toListed], listing_neg := by rintro status ⟨⟩ }
  exact ⟨sortCandidates [listedPhone.candidate 2], host, List.length_mergeSort _,
    @Runtime.discover_opens {} [listedPhone] 1000 versionBus _ host rfl rfl hplaces ⟨rfl, rfl⟩⟩

end LibaoaHid.Transport

import LibaoaHid.Api.Lifetimes

/-!
# The options of a Device

`prepare_device_options` and `copy_config` of `src/api/c_api.cpp`, and the check of `Device::open`
in `src/transport/transport.cpp`. The event mode is left out: the Context hands its own to the
transport.

## Main definitions

* `DeviceOptions`, `prepareDeviceOptions`, `RequestedDevice`.
* `Context.deviceOpenWith`, `DeviceGraph.Fits`.

## Main results

* `prepareDeviceOptions_stable`: options that pass are complete, and the transport refuses none of
  their values.
* `Context.deviceOpenWith_ok`: the sizes of a Device that is opened with options.
-/

namespace LibaoaHid

open Transport (Bus Candidate Host recordError)
open Transport.Libusb

/-! ### Options -/

/-- `aoahid_interface_claim_policy`. -/
inductive InterfaceClaimPolicy
  | none
  | explicit
  | undefined (value : Int32)
  deriving DecidableEq

/-- `aoahid_device_options`. -/
structure DeviceOptions where
  structSize : UInt32
  reserved : UInt32 := 0
  controlTimeoutMs : UInt32 := 0
  sendTimeoutMs : UInt32 := 0
  descriptorFragmentBytes : UInt32 := 0
  transferPoolSlots : UInt32 := 0
  maximumReportBytes : UInt32 := 0
  closeDrainTimeoutMs : UInt32 := 0
  aoaDescriptorWirePolicyBytes : UInt32
  linuxDescriptorPolicyBytes : UInt32
  linuxHidFieldsPerReportPolicy : UInt32
  linuxHidGlobalStackDepthPolicy : UInt32
  linuxHidUsagesPolicy : UInt64
  linuxHidReportDataBitsPolicy : UInt64
  linuxHidReportSizeBitsPolicy : UInt32
  targetEp0DataPolicyBytes : UInt32
  hostControlBufferPolicyBytes : UInt32
  interfaceClaimPolicy : InterfaceClaimPolicy
  interfaceNumber : Int32
  validateReports : UInt32 := 0

/-- `sizeof(aoahid_device_options)`. -/
def DeviceOptions.size : UInt32 := 88

/-- A tuning field, with its fallback for zero. -/
def orFallback (value fallback : UInt32) : UInt32 := if value = 0 then fallback else value

theorem orFallback_ne {value fallback : UInt32} (h : fallback ≠ 0) :
    orFallback value fallback ≠ 0 := by
  rw [orFallback]
  split
  · exact h
  · assumption

theorem orFallback_of_ne {value fallback : UInt32} (h : value ≠ 0) :
    orFallback value fallback = value := if_neg h

/-- The choice of an interface is neither none nor an explicit one. -/
def ClaimInvalid (policy : InterfaceClaimPolicy) (interfaceNumber : Int32) : Prop :=
  (policy ≠ .none ∧ policy ≠ .explicit) ∨
    (policy = .none ∧ interfaceNumber.toInt ≠ -1) ∨
    (policy = .explicit ∧ (interfaceNumber.toInt < 0 ∨ 255 < interfaceNumber.toInt))

instance ClaimInvalid.decidable (policy : InterfaceClaimPolicy) (interfaceNumber : Int32) :
    Decidable (ClaimInvalid policy interfaceNumber) :=
  inferInstanceAs (Decidable (_ ∨ _))

namespace DeviceOptions

variable (options : DeviceOptions)

/-- `apply_tuning_fallbacks`. -/
def applyTuningFallbacks : DeviceOptions := { options with
  controlTimeoutMs := orFallback options.controlTimeoutMs 500
  sendTimeoutMs := orFallback options.sendTimeoutMs 500
  descriptorFragmentBytes := orFallback options.descriptorFragmentBytes 64
  transferPoolSlots := orFallback options.transferPoolSlots 8
  maximumReportBytes := orFallback options.maximumReportBytes 1024
  closeDrainTimeoutMs := orFallback options.closeDrainTimeoutMs 1000 }

/-- `required_product_policies_nonzero`. -/
def RequiredProductPoliciesNonzero : Prop :=
  options.aoaDescriptorWirePolicyBytes ≠ 0 ∧ options.linuxDescriptorPolicyBytes ≠ 0 ∧
    options.linuxHidFieldsPerReportPolicy ≠ 0 ∧ options.linuxHidGlobalStackDepthPolicy ≠ 0 ∧
    options.linuxHidUsagesPolicy ≠ 0 ∧ options.linuxHidReportDataBitsPolicy ≠ 0 ∧
    options.linuxHidReportSizeBitsPolicy ≠ 0 ∧ options.targetEp0DataPolicyBytes ≠ 0 ∧
    options.hostControlBufferPolicyBytes ≠ 0

instance RequiredProductPoliciesNonzero.decidable :
    Decidable options.RequiredProductPoliciesNonzero :=
  inferInstanceAs (Decidable (_ ∧ _))

/-- A field that has no fallback is not set. -/
def Unset : Prop :=
  options.reserved ≠ 0 ∨ ¬options.RequiredProductPoliciesNonzero ∨
    validBoolean options.validateReports = false ∨
    ClaimInvalid options.interfaceClaimPolicy options.interfaceNumber

instance Unset.decidable : Decidable options.Unset := inferInstanceAs (Decidable (_ ∨ _))

/-- A size is more than a field of the wire or another size holds. -/
def Inconsistent : Prop :=
  options.descriptorFragmentBytes > 65535 ∨ options.maximumReportBytes > 65535 ∨
    options.aoaDescriptorWirePolicyBytes > 65535 ∨
    options.descriptorFragmentBytes > options.targetEp0DataPolicyBytes ∨
    options.descriptorFragmentBytes > options.hostControlBufferPolicyBytes ∨
    options.maximumReportBytes > options.targetEp0DataPolicyBytes ∨
    options.maximumReportBytes > options.hostControlBufferPolicyBytes

instance Inconsistent.decidable : Decidable options.Inconsistent :=
  inferInstanceAs (Decidable (_ ∨ _))

end DeviceOptions

/-- `prepare_device_options`: the effective options. -/
def prepareDeviceOptions (options : Option DeviceOptions) : Except Reply DeviceOptions :=
  match structRefusal (options.map (·.structSize)) DeviceOptions.size "device_options", options with
  | some error, _ => .error ⟨.errParam, error⟩
  | none, none => .error ⟨.errParam, clearError⟩
  | none, some options =>
    let effective := options.applyTuningFallbacks
    if effective.Unset then
      .error (.fail .errUnsetField "device_options"
        ("Every required product policy, flag, and claim choice must be valid; " ++
          "only documented tuning fields accept zero as a fallback request."))
    else if effective.Inconsistent then
      .error (.fail .errOverflow "device.size_policies"
        ("A caller policy is inconsistent with the AOA 16-bit wire fields or another " ++
          "explicitly selected policy."))
    else .ok effective

/-! ### The transport of a Device -/

/-- `DeviceConfig` of `transport.hpp`, as its caller fills it. -/
structure RequestedDevice where
  controlTimeoutMs : UInt32
  sendTimeoutMs : UInt32
  descriptorFragmentBytes : UInt32
  poolSlots : UInt32
  maximumReportBytes : UInt32
  claimPolicy : InterfaceClaimPolicy
  interfaceNumber : Int32

/-- `copy_config`. -/
def DeviceOptions.copyConfig (options : DeviceOptions) : RequestedDevice where
  controlTimeoutMs := options.controlTimeoutMs
  sendTimeoutMs := options.sendTimeoutMs
  descriptorFragmentBytes := options.descriptorFragmentBytes
  poolSlots := options.transferPoolSlots
  maximumReportBytes := options.maximumReportBytes
  claimPolicy := options.interfaceClaimPolicy
  interfaceNumber := options.interfaceNumber

/-- The policies that `aoahid_device_open` stores in the Device. -/
def DeviceOptions.policies (options : DeviceOptions) : DevicePolicies where
  poolSlots := options.transferPoolSlots.toNat
  aoaDescriptorPolicyBytes := options.aoaDescriptorWirePolicyBytes.toNat
  linuxDescriptorPolicyBytes := options.linuxDescriptorPolicyBytes.toNat
  linuxHidFieldsPerReportPolicy := options.linuxHidFieldsPerReportPolicy.toNat
  linuxHidGlobalStackDepthPolicy := options.linuxHidGlobalStackDepthPolicy.toNat
  linuxHidUsagesPolicy := options.linuxHidUsagesPolicy.toNat
  linuxHidReportDataBitsPolicy := options.linuxHidReportDataBitsPolicy.toNat
  linuxHidReportSizeBitsPolicy := options.linuxHidReportSizeBitsPolicy.toNat
  targetEp0PolicyBytes := options.targetEp0DataPolicyBytes.toNat
  hostControlPolicyBytes := options.hostControlBufferPolicyBytes.toNat

namespace RequestedDevice

/-- The check of `Device::open`, of the values that come from the options. What it asks of the
runtime and the event mode, both of which the Context hands over, is not part of it. -/
def Refused (requested : RequestedDevice) : Prop :=
  requested.controlTimeoutMs = 0 ∨ requested.sendTimeoutMs = 0 ∨
    requested.descriptorFragmentBytes = 0 ∨ requested.descriptorFragmentBytes > 65535 ∨
    requested.poolSlots = 0 ∨ requested.maximumReportBytes = 0 ∨
    requested.maximumReportBytes > 65535 ∨
    ClaimInvalid requested.claimPolicy requested.interfaceNumber

instance Refused.decidable (requested : RequestedDevice) : Decidable requested.Refused :=
  inferInstanceAs (Decidable (_ ∨ _))

theorem pos_of_ne {n : UInt32} (h : n ≠ 0) : 0 < n.toNat :=
  Nat.pos_of_ne_zero fun hzero => h (UInt32.toNat_inj.mp hzero)

theorem lt_of_not_gt {n : UInt32} (h : ¬n > 65535) : n.toNat < 2 ^ 16 :=
  Nat.lt_succ_of_le (UInt32.le_iff_toNat_le.mp (UInt32.not_lt.mp h))

/-- The sizes of a configuration that `Device::open` lets through. -/
structure Sizes (requested : RequestedDevice) : Prop where
  fragment_pos : 0 < requested.descriptorFragmentBytes.toNat
  fragment_lt : requested.descriptorFragmentBytes.toNat < 2 ^ 16
  slots_pos : 0 < requested.poolSlots.toNat
  report_pos : 0 < requested.maximumReportBytes.toNat
  report_lt : requested.maximumReportBytes.toNat < 2 ^ 16

theorem sizes {requested : RequestedDevice} (h : ¬requested.Refused) : requested.Sizes := by
  simp only [Refused, not_or] at h
  obtain ⟨-, -, hfragment, hlong, hslots, hreport, hlarge, -⟩ := h
  exact ⟨pos_of_ne hfragment, lt_of_not_gt hlong, pos_of_ne hslots, pos_of_ne hreport,
    lt_of_not_gt hlarge⟩

/-- The configuration of a transport that is opened. -/
def config (requested : RequestedDevice) (h : ¬requested.Refused) : Transport.DeviceConfig where
  controlTimeoutMs := requested.controlTimeoutMs.toNat
  sendTimeoutMs := requested.sendTimeoutMs.toNat
  descriptorFragmentBytes := requested.descriptorFragmentBytes.toNat
  maximumReportBytes := requested.maximumReportBytes.toNat
  fragment_pos := (sizes h).fragment_pos
  fragment_lt := (sizes h).fragment_lt
  report_pos := (sizes h).report_pos
  report_lt := (sizes h).report_lt

end RequestedDevice

/-- What `aoahid_device_open` meets besides its options. -/
structure OptionsOpenEnv where
  /-- The refusal of a check in front of the options, if one refuses. -/
  refusal : Option Refusal := none
  memory : Bool := true
  host : Host
  claimStatus : ℤ := success
  claimMemory : Bool := true
  outOfMemory : Option ErrorInfo := none
  listMemory : Bool := true

/-- What the transport meets, for effective options. -/
def OptionsOpenEnv.transport (env : OptionsOpenEnv) (effective : DeviceOptions)
    (h : ¬effective.copyConfig.Refused) : DeviceOpenEnv where
  host := env.host
  claim :=
    if effective.interfaceClaimPolicy = .explicit then
      some
        { interfaceNumber := effective.interfaceNumber.toInt
          status := env.claimStatus
          memory := env.claimMemory }
    else none
  outOfMemory := env.outOfMemory
  listMemory := env.listMemory
  config := effective.copyConfig.config h
  policies := effective.policies

/-- `aoahid_device_open`, with its options. -/
def Context.deviceOpenWith (ctx : Context) (c : Candidate) (options : Option DeviceOptions)
    (env : OptionsOpenEnv) : Result × Context :=
  match env.refusal with
  | some refusal => (refusal.reply.result, ctx)
  | none =>
    match prepareDeviceOptions options with
    | .error reply => (reply.result, ctx)
    | .ok effective =>
      if !env.memory then (.errInternal, ctx)
      else if h : effective.copyConfig.Refused then
        (.errParam, { ctx with bus := ctx.bus.record (recordError .errParam) })
      else ctx.deviceOpen c (env.transport effective h)

/-! ### Options that pass -/

variable {options : Option DeviceOptions} {effective : DeviceOptions}

/-- The tuning fields are set, and both checks pass. -/
structure DeviceOptions.Accepted (options : DeviceOptions) : Prop where
  structSize : options.structSize = DeviceOptions.size
  control : options.controlTimeoutMs ≠ 0
  send : options.sendTimeoutMs ≠ 0
  fragment : options.descriptorFragmentBytes ≠ 0
  slots : options.transferPoolSlots ≠ 0
  report : options.maximumReportBytes ≠ 0
  drain : options.closeDrainTimeoutMs ≠ 0
  set : ¬options.Unset
  consistent : ¬options.Inconsistent

/-- The size of a structure that passes `valid_struct`. -/
theorem structSize_of_structRefusal {structSize expectedSize : UInt32} {field : String}
    (h : structRefusal (some structSize) expectedSize field = none) :
    structSize = expectedSize := by
  rw [structRefusal, if_neg (Option.some_ne_none _)] at h
  by_contra hne
  rw [validStruct] at h
  simp [hne] at h

theorem prepareDeviceOptions_accepted (h : prepareDeviceOptions options = .ok effective) :
    effective.Accepted := by
  rw [prepareDeviceOptions.eq_def] at h
  split at h
  · cases h
  · cases h
  · rename_i given hstruct
    dsimp only at h
    split at h
    · cases h
    rename_i hset
    split at h
    · cases h
    rename_i hconsistent
    cases h
    exact
      { structSize := structSize_of_structRefusal hstruct
        control := orFallback_ne (by decide)
        send := orFallback_ne (by decide)
        fragment := orFallback_ne (by decide)
        slots := orFallback_ne (by decide)
        report := orFallback_ne (by decide)
        drain := orFallback_ne (by decide)
        set := hset
        consistent := hconsistent }

theorem prepareDeviceOptions_failed {reply : Reply}
    (h : prepareDeviceOptions options = .error reply) : reply.result ≠ .ok := by
  rw [prepareDeviceOptions.eq_def] at h
  split at h
  · cases h
    rintro ⟨⟩
  · cases h
    rintro ⟨⟩
  · dsimp only at h
    split at h
    · cases h
      rintro ⟨⟩
    · split at h
      · cases h
        rintro ⟨⟩
      · cases h

namespace DeviceOptions.Accepted

/-- Effective options need no fallback. -/
theorem applyTuningFallbacks_eq (h : effective.Accepted) :
    effective.applyTuningFallbacks = effective := by
  rw [applyTuningFallbacks, orFallback_of_ne h.control, orFallback_of_ne h.send,
    orFallback_of_ne h.fragment, orFallback_of_ne h.slots, orFallback_of_ne h.report,
    orFallback_of_ne h.drain]

theorem prepare_eq (h : effective.Accepted) :
    prepareDeviceOptions (some effective) = .ok effective := by
  have hstruct : structRefusal (some effective.structSize) DeviceOptions.size "device_options" =
      none := by
    rw [h.structSize]
    rfl
  rw [prepareDeviceOptions.eq_def, Option.map_some, hstruct]
  dsimp only
  rw [h.applyTuningFallbacks_eq, if_neg h.set, if_neg h.consistent]

/-- The check of the transport asks for nothing more. -/
theorem not_refused (h : effective.Accepted) : ¬effective.copyConfig.Refused := by
  have hset := h.set
  have hconsistent := h.consistent
  simp only [Unset, not_or] at hset
  simp only [Inconsistent, not_or] at hconsistent
  rintro (hzero | hzero | hzero | hlong | hzero | hzero | hlong | hclaim)
  · exact h.control hzero
  · exact h.send hzero
  · exact h.fragment hzero
  · exact hconsistent.1 hlong
  · exact h.slots hzero
  · exact h.report hzero
  · exact hconsistent.2.1 hlong
  · exact hset.2.2.2 hclaim

end DeviceOptions.Accepted

/-- The sizes of a Device that is opened with options. -/
structure DeviceGraph.Fits (graph : DeviceGraph) : Prop where
  slots_pos : 0 < graph.policies.poolSlots
  aoa_lt : graph.policies.aoaDescriptorPolicyBytes < 2 ^ 16
  fragment_ep0 : graph.transport.config.descriptorFragmentBytes ≤
    graph.policies.targetEp0PolicyBytes
  fragment_host : graph.transport.config.descriptorFragmentBytes ≤
    graph.policies.hostControlPolicyBytes
  report_ep0 : graph.transport.config.maximumReportBytes ≤ graph.policies.targetEp0PolicyBytes
  report_host : graph.transport.config.maximumReportBytes ≤ graph.policies.hostControlPolicyBytes

theorem DeviceOptions.Accepted.fits (h : effective.Accepted)
    (hopen : ¬effective.copyConfig.Refused) {graph : DeviceGraph}
    (hconfig : graph.transport.config = effective.copyConfig.config hopen)
    (hpolicies : graph.policies = effective.policies) : graph.Fits := by
  have hconsistent := h.consistent
  simp only [Inconsistent, not_or, gt_iff_lt, UInt32.not_lt, UInt32.le_iff_toNat_le] at hconsistent
  obtain ⟨-, -, haoa, hfragmentEp0, hfragmentHost, hreportEp0, hreportHost⟩ := hconsistent
  constructor
  all_goals
    try rw [hconfig]
    rw [hpolicies]
  · exact RequestedDevice.pos_of_ne h.slots
  · exact Nat.lt_succ_of_le haoa
  · exact hfragmentEp0
  · exact hfragmentHost
  · exact hreportEp0
  · exact hreportHost

/-- **Options that pass are complete.** They pass again unchanged, and what `Device::open` checks of
them refuses none. -/
theorem prepareDeviceOptions_stable (h : prepareDeviceOptions options = .ok effective) :
    prepareDeviceOptions (some effective) = .ok effective ∧ ¬effective.copyConfig.Refused :=
  ⟨(prepareDeviceOptions_accepted h).prepare_eq, (prepareDeviceOptions_accepted h).not_refused⟩

/-- Options whose policies fit a phone with a small buffer. -/
def phoneOptions : DeviceOptions where
  structSize := 88
  controlTimeoutMs := 1000
  sendTimeoutMs := 1000
  descriptorFragmentBytes := 20
  transferPoolSlots := 4
  maximumReportBytes := 64
  aoaDescriptorWirePolicyBytes := 64
  linuxDescriptorPolicyBytes := 64
  linuxHidFieldsPerReportPolicy := 8
  linuxHidGlobalStackDepthPolicy := 4
  linuxHidUsagesPolicy := 32
  linuxHidReportDataBitsPolicy := 8
  linuxHidReportSizeBitsPolicy := 64
  targetEp0DataPolicyBytes := 64
  hostControlBufferPolicyBytes := 64
  interfaceClaimPolicy := .none
  interfaceNumber := -1

theorem phoneOptions_prepared :
    prepareDeviceOptions (some phoneOptions) = .ok phoneOptions.applyTuningFallbacks := rfl

theorem prepareDeviceOptions_stable_phone :
    prepareDeviceOptions (some phoneOptions) = .ok phoneOptions.applyTuningFallbacks ∧
      ¬phoneOptions.applyTuningFallbacks.copyConfig.Refused :=
  ⟨phoneOptions_prepared, (prepareDeviceOptions_stable phoneOptions_prepared).2⟩

/-! ### Opening with options -/

/-- A Device that is opened with options has their sizes. -/
theorem Context.deviceOpenWith_ok {ctx ctx' : Context} {c : Candidate} {env : OptionsOpenEnv}
    (h : ctx.deviceOpenWith c options env = (.ok, ctx')) :
    ctx'.specs = ctx.specs ∧ ∃ graph : DeviceGraph,
      ctx'.devices = ctx.devices ++ [graph] ∧ graph.nodes = [] ∧ graph.Fits := by
  rw [deviceOpenWith.eq_def] at h
  split at h
  · rename_i refusal _
    exact absurd (Prod.mk.inj h).1 refusal.failed
  split at h
  · rename_i reply hrefused
    exact absurd (Prod.mk.inj h).1 (prepareDeviceOptions_failed hrefused)
  rename_i effective hprepared
  have haccepted := prepareDeviceOptions_accepted hprepared
  rw [dif_neg haccepted.not_refused] at h
  split at h
  · cases h
  rcases ctx.deviceOpen_ends c (env.transport effective haccepted.not_refused) with
    ⟨_, _, _, heq, hfailed, -, -⟩ | ⟨u, port, runtime, -, -, heq⟩
  · rw [heq] at h
    exact absurd (Prod.mk.inj h).1 hfailed
  · rw [heq] at h
    obtain ⟨-, rfl⟩ := Prod.mk.inj h
    exact ⟨rfl, _, rfl, rfl, haccepted.fits haccepted.not_refused rfl rfl⟩

end LibaoaHid

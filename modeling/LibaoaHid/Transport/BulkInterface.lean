import LibaoaHid.Transport.Channel
import LibaoaHid.Transport.Usb

/-!
# The Bulk interface of a Channel

`find_bulk_interface` and the checks of `Channel::open` in `src/transport/channel.cpp`: the choice
of an interface with a Bulk IN and a Bulk OUT endpoint, and the length of a transfer.

## Main definitions

* `EndpointDescriptor`, `InterfaceSetting`, `BulkInterface`.
* `findBulkInterface`, `negotiateChannel`.
* `InterfaceSetting.Offers`: the first Bulk endpoint of each direction, with a packet size.

## Main results

* `findBulkInterface_first`: the first interface that offers a pair is taken, and none is
  overlooked.
* `negotiateChannel_transferBytes`: the length of a transfer.
-/

namespace LibaoaHid.Transport

open Libusb

/-! ### Descriptors -/

/-- `libusb_endpoint_descriptor`. -/
structure EndpointDescriptor where
  address : UInt8
  attributes : UInt8
  maxPacketSize : UInt16

namespace EndpointDescriptor

/-- The transfer type is Bulk. -/
def IsBulk (endpoint : EndpointDescriptor) : Prop := endpoint.attributes &&& 0x03 = 2

/-- The endpoint sends to the host. -/
def IsIn (endpoint : EndpointDescriptor) : Prop := endpoint.address &&& 0x80 ≠ 0

instance (endpoint : EndpointDescriptor) : Decidable endpoint.IsBulk :=
  inferInstanceAs (Decidable (_ = _))

instance (endpoint : EndpointDescriptor) : Decidable endpoint.IsIn :=
  inferInstanceAs (Decidable (_ ≠ _))

/-- Bits 10 to 0 of `wMaxPacketSize` hold the packet size. -/
def packet (endpoint : EndpointDescriptor) : ℕ := (endpoint.maxPacketSize &&& 0x07FF).toNat

theorem packet_le (endpoint : EndpointDescriptor) : endpoint.packet ≤ 2047 := by
  rw [packet, UInt16.toNat_and]
  exact Nat.and_le_right

/-- The address of an IN endpoint is not zero. -/
theorem IsIn.address_ne {endpoint : EndpointDescriptor} (h : endpoint.IsIn) :
    endpoint.address ≠ 0 := by
  intro hzero
  rw [IsIn, hzero] at h
  exact h (by decide)

end EndpointDescriptor

/-- An alternate setting of an interface. -/
structure InterfaceSetting where
  number : ℕ
  interfaceClass : UInt8
  interfaceSubclass : UInt8
  interfaceProtocol : UInt8
  endpoints : List EndpointDescriptor

/-- `ChannelConfig` of `transport.hpp`, but for the Runtime that it pumps. -/
structure RequestedChannel where
  interfaceClass : UInt8
  interfaceSubclass : UInt8
  interfaceProtocol : UInt8
  inTransfers : UInt32
  outTransfers : UInt32
  transferBytes : UInt32
  zeroLengthTermination : Bool
  requestReads : Bool

/-- The setting has the class triple. -/
def InterfaceSetting.Matches (setting : InterfaceSetting) (requested : RequestedChannel) : Prop :=
  setting.interfaceClass = requested.interfaceClass ∧
    setting.interfaceSubclass = requested.interfaceSubclass ∧
    setting.interfaceProtocol = requested.interfaceProtocol

instance InterfaceSetting.decidableMatches (setting : InterfaceSetting)
    (requested : RequestedChannel) : Decidable (setting.Matches requested) :=
  inferInstanceAs (Decidable (_ ∧ _))

/-! ### The search -/

/-- The endpoints that were found so far, and their packet size. -/
structure BulkPair where
  endpointIn : UInt8 := 0
  endpointOut : UInt8 := 0
  maxPacket : ℕ := 0

namespace BulkPair

/-- One endpoint of the loop of `find_bulk_interface`. -/
def add (found : BulkPair) (endpoint : EndpointDescriptor) : BulkPair :=
  if ¬endpoint.IsBulk then found
  else if endpoint.IsIn then
    if found.endpointIn = 0 then
      { found with
        endpointIn := endpoint.address
        maxPacket := max found.maxPacket endpoint.packet }
    else found
  else if found.endpointOut = 0 then
    { found with
      endpointOut := endpoint.address
      maxPacket := max found.maxPacket endpoint.packet }
  else found

/-- Both directions and a packet size were found. -/
def Complete (found : BulkPair) : Prop :=
  found.endpointIn ≠ 0 ∧ found.endpointOut ≠ 0 ∧ found.maxPacket ≠ 0

instance (found : BulkPair) : Decidable found.Complete := inferInstanceAs (Decidable (_ ∧ _))

end BulkPair

/-- The Bulk endpoints of a setting. -/
def InterfaceSetting.bulkPair (setting : InterfaceSetting) : BulkPair :=
  setting.endpoints.foldl BulkPair.add {}

/-- `BulkInterface`, of an interface that serves. -/
structure BulkInterface where
  number : ℕ
  pair : BulkPair
  complete : pair.Complete

/-- The loop of `find_bulk_interface` over the interfaces, each a list of alternate settings. -/
def searchInterfaces (requested : RequestedChannel) :
    List (List InterfaceSetting) → Option BulkInterface
  | [] => none
  | [] :: rest => searchInterfaces requested rest
  | (setting :: _) :: rest =>
    if ¬setting.Matches requested then searchInterfaces requested rest
    else if complete : setting.bulkPair.Complete then
      some { number := setting.number, pair := setting.bulkPair, complete }
    else searchInterfaces requested rest

/-- `find_bulk_interface`, for the active configuration or the status in its place. -/
def findBulkInterface (configuration : Except ℤ (List (List InterfaceSetting)))
    (requested : RequestedChannel) : Except ℤ BulkInterface :=
  match configuration with
  | .error status => .error status
  | .ok interfaces =>
    match searchInterfaces requested interfaces with
    | none => .error errorNotFound
    | some bulk => .ok bulk

/-! ### The endpoints of a setting -/

namespace EndpointDescriptor

/-- A Bulk endpoint to the host. -/
def Sends (endpoint : EndpointDescriptor) : Prop := endpoint.IsBulk ∧ endpoint.IsIn

/-- A Bulk endpoint to the device. -/
def Receives (endpoint : EndpointDescriptor) : Prop := endpoint.IsBulk ∧ ¬endpoint.IsIn

instance decidableSends (endpoint : EndpointDescriptor) : Decidable endpoint.Sends :=
  inferInstanceAs (Decidable (_ ∧ _))

instance decidableReceives (endpoint : EndpointDescriptor) : Decidable endpoint.Receives :=
  inferInstanceAs (Decidable (_ ∧ _))

end EndpointDescriptor

/-- The first Bulk endpoint to the host. -/
def firstSender (endpoints : List EndpointDescriptor) : Option EndpointDescriptor :=
  endpoints.find? fun endpoint => endpoint.Sends

/-- The first Bulk endpoint to the device that has an address. -/
def firstReceiver (endpoints : List EndpointDescriptor) : Option EndpointDescriptor :=
  endpoints.find? fun endpoint => endpoint.Receives ∧ endpoint.address ≠ 0

/-- The packet size of the Bulk endpoints to the device, up to the first that has an address: an
address of zero does not end the search, and its packet counts. -/
def receiverPacket : List EndpointDescriptor → ℕ
  | [] => 0
  | endpoint :: rest =>
    if ¬endpoint.Receives then receiverPacket rest
    else if endpoint.address = 0 then max endpoint.packet (receiverPacket rest)
    else endpoint.packet

theorem receiverPacket_le (endpoints : List EndpointDescriptor) :
    receiverPacket endpoints ≤ 2047 := by
  induction endpoints with
  | nil => exact Nat.zero_le 2047
  | cons endpoint rest ih =>
    rw [receiverPacket]
    split
    · exact ih
    · split
      · exact max_le endpoint.packet_le ih
      · exact endpoint.packet_le

/-- Without an address of zero, it is the packet size of the first one. -/
theorem receiverPacket_eq {endpoints : List EndpointDescriptor}
    (haddress : ∀ endpoint ∈ endpoints, endpoint.address ≠ 0) {receiver : EndpointDescriptor}
    (h : firstReceiver endpoints = some receiver) :
    receiverPacket endpoints = receiver.packet := by
  induction endpoints with
  | nil => cases h
  | cons endpoint rest ih =>
    have hfirst := haddress endpoint List.mem_cons_self
    rw [firstReceiver, List.find?_cons] at h
    rw [receiverPacket]
    by_cases hreceives : endpoint.Receives
    · rw [if_neg (not_not_intro hreceives), if_neg hfirst]
      rw [decide_eq_true (And.intro hreceives hfirst)] at h
      cases h
      rfl
    · rw [if_pos hreceives]
      rw [decide_eq_false fun hboth => hreceives hboth.1] at h
      exact ih (fun other hmem => haddress other (List.mem_cons_of_mem _ hmem)) h

namespace BulkPair

/-- What the loop makes of the endpoints that are still to come. -/
def upTo (found : BulkPair) (endpoints : List EndpointDescriptor) : BulkPair where
  endpointIn :=
    if found.endpointIn = 0 then ((firstSender endpoints).map (·.address)).getD 0
    else found.endpointIn
  endpointOut :=
    if found.endpointOut = 0 then ((firstReceiver endpoints).map (·.address)).getD 0
    else found.endpointOut
  maxPacket := max found.maxPacket (max
    (if found.endpointIn = 0 then ((firstSender endpoints).map (·.packet)).getD 0 else 0)
    (if found.endpointOut = 0 then receiverPacket endpoints else 0))

/-- One endpoint more. -/
theorem upTo_cons (found : BulkPair) (endpoint : EndpointDescriptor)
    (rest : List EndpointDescriptor) :
    (found.add endpoint).upTo rest = found.upTo (endpoint :: rest) := by
  obtain ⟨endpointIn, endpointOut, maxPacket⟩ := found
  by_cases hbulk : endpoint.IsBulk
  · by_cases hin : endpoint.IsIn
    · have hne := hin.address_ne
      have hsends : endpoint.Sends := ⟨hbulk, hin⟩
      have hreceives : ¬endpoint.Receives := fun h => h.2 hin
      by_cases hzero : endpointIn = 0
      · simp [add, upTo, firstSender, firstReceiver, receiverPacket, hbulk, hin, hsends, hreceives,
          hzero, hne, max_assoc]
      · simp [add, upTo, firstReceiver, receiverPacket, hbulk, hin, hreceives, hzero]
    · have hsends : ¬endpoint.Sends := fun h => hin h.2
      have hreceives : endpoint.Receives := ⟨hbulk, hin⟩
      by_cases hzero : endpointOut = 0
      · by_cases haddress : endpoint.address = 0
        · simp [add, upTo, firstSender, firstReceiver, receiverPacket, hbulk, hin, hsends,
            hreceives, hzero, haddress, max_assoc, max_left_comm]
        · simp [add, upTo, firstSender, firstReceiver, receiverPacket, hbulk, hin, hsends,
            hreceives, hzero, haddress, max_assoc, max_comm]
      · simp [add, upTo, firstSender, hbulk, hin, hsends, hzero]
  · have hsends : ¬endpoint.Sends := fun h => hbulk h.1
    have hreceives : ¬endpoint.Receives := fun h => hbulk h.1
    simp [add, upTo, firstSender, firstReceiver, receiverPacket, hbulk, hsends, hreceives]

theorem foldl_add (endpoints : List EndpointDescriptor) (found : BulkPair) :
    endpoints.foldl add found = found.upTo endpoints := by
  induction endpoints generalizing found with
  | nil =>
    obtain ⟨endpointIn, endpointOut, maxPacket⟩ := found
    by_cases hin : endpointIn = 0 <;> by_cases hout : endpointOut = 0 <;>
      simp [upTo, firstSender, firstReceiver, receiverPacket, hin, hout]
  | cons endpoint rest ih =>
    rw [List.foldl_cons, ih, upTo_cons]

end BulkPair

/-- The setting offers a pair: the first Bulk endpoint of each direction, with a packet size that is
not zero. -/
structure InterfaceSetting.Offers (setting : InterfaceSetting)
    (sender receiver : EndpointDescriptor) : Prop where
  sender_eq : firstSender setting.endpoints = some sender
  receiver_eq : firstReceiver setting.endpoints = some receiver
  packet_pos : 0 < max sender.packet (receiverPacket setting.endpoints)

namespace InterfaceSetting

variable {setting : InterfaceSetting}

/-- The pair of two endpoints of a setting. -/
def pairOf (setting : InterfaceSetting) (sender receiver : EndpointDescriptor) : BulkPair where
  endpointIn := sender.address
  endpointOut := receiver.address
  maxPacket := max sender.packet (receiverPacket setting.endpoints)

theorem bulkPair_eq (setting : InterfaceSetting) :
    setting.bulkPair = BulkPair.upTo {} setting.endpoints :=
  BulkPair.foldl_add setting.endpoints {}

/-- A setting that offers a pair is taken with that pair. -/
theorem Offers.bulkPair_eq {sender receiver : EndpointDescriptor}
    (h : setting.Offers sender receiver) : setting.bulkPair = setting.pairOf sender receiver := by
  rw [setting.bulkPair_eq, BulkPair.upTo, h.sender_eq, h.receiver_eq, pairOf]
  simp

theorem Offers.complete {sender receiver : EndpointDescriptor}
    (h : setting.Offers sender receiver) : setting.bulkPair.Complete := by
  have hsends := List.find?_some h.sender_eq
  have hreceives := List.find?_some h.receiver_eq
  rw [decide_eq_true_eq] at hsends hreceives
  rw [h.bulkPair_eq]
  exact ⟨hsends.2.address_ne, hreceives.2, h.packet_pos.ne'⟩

/-- A setting that is taken offers a pair. -/
theorem exists_offers (h : setting.bulkPair.Complete) :
    ∃ sender receiver, setting.Offers sender receiver := by
  rw [setting.bulkPair_eq] at h
  obtain ⟨hin, hout, hpacket⟩ := h
  dsimp only [BulkPair.upTo] at hin hout hpacket
  cases hsender : firstSender setting.endpoints with
  | none =>
    rw [hsender] at hin
    exact absurd rfl hin
  | some sender =>
    cases hreceiver : firstReceiver setting.endpoints with
    | none =>
      rw [hreceiver] at hout
      exact absurd rfl hout
    | some receiver =>
      refine ⟨sender, receiver, hsender, hreceiver, Nat.pos_of_ne_zero fun hzero => hpacket ?_⟩
      rw [hsender, if_pos rfl, if_pos rfl, Nat.zero_max]
      exact hzero

end InterfaceSetting

/-! ### The first interface that offers a pair -/

variable {requested : RequestedChannel} {interfaces : List (List InterfaceSetting)}

/-- No matching interface of a list offers a pair. -/
def NoneOffers (requested : RequestedChannel) (interfaces : List (List InterfaceSetting)) : Prop :=
  ∀ setting others, setting :: others ∈ interfaces → setting.Matches requested →
    ∀ sender receiver, ¬setting.Offers sender receiver

/-- What a search finds: nothing, if no interface offers a pair, or the first one that does. -/
inductive Searched (requested : RequestedChannel) (interfaces : List (List InterfaceSetting)) :
    Option BulkInterface → Prop
  | nothing (hnone : NoneOffers requested interfaces) : Searched requested interfaces none
  | found {before after : List (List InterfaceSetting)} {setting : InterfaceSetting}
      {others : List InterfaceSetting} (complete : setting.bulkPair.Complete)
      (hinterfaces : interfaces = before ++ (setting :: others) :: after)
      (hmatches : setting.Matches requested) (hbefore : NoneOffers requested before) :
      Searched requested interfaces
        (some { number := setting.number, pair := setting.bulkPair, complete })

/-- An interface that does not match, or whose pair is not complete, is passed over. -/
def Passed (requested : RequestedChannel) (settings : List InterfaceSetting) : Prop :=
  ∀ setting others, setting :: others = settings → setting.Matches requested →
    ¬setting.bulkPair.Complete

theorem NoneOffers.cons {settings : List InterfaceSetting} (h : NoneOffers requested interfaces)
    (hfirst : Passed requested settings) : NoneOffers requested (settings :: interfaces) := by
  intro setting others hmem hmatches sender receiver hoffers
  rcases List.mem_cons.mp hmem with heq | hmem
  · exact hfirst setting others heq hmatches hoffers.complete
  · exact h setting others hmem hmatches sender receiver hoffers

theorem Searched.cons {settings : List InterfaceSetting} {result : Option BulkInterface}
    (h : Searched requested interfaces result) (hfirst : Passed requested settings) :
    Searched requested (settings :: interfaces) result := by
  cases h with
  | nothing hnone => exact .nothing (hnone.cons hfirst)
  | found complete hinterfaces hmatches hbefore =>
    exact .found complete (congrArg (settings :: ·) hinterfaces) hmatches (hbefore.cons hfirst)

/-- **The loop over the interfaces.** -/
theorem searchInterfaces_searched (requested : RequestedChannel)
    (interfaces : List (List InterfaceSetting)) :
    Searched requested interfaces (searchInterfaces requested interfaces) := by
  induction interfaces with
  | nil =>
    refine .nothing ?_
    rintro setting others ⟨⟩
  | cons settings interfaces ih =>
    cases settings with
    | nil =>
      refine ih.cons ?_
      rintro setting others ⟨⟩
    | cons setting others =>
      rw [searchInterfaces]
      split
      · rename_i hdiffers
        refine ih.cons ?_
        rintro other rest ⟨⟩ hmatches
        exact absurd hmatches hdiffers
      · rename_i hmatches
        split
        · rename_i complete
          refine .found complete (List.nil_append _).symm (not_not.mp hmatches) ?_
          rintro other rest ⟨⟩
        · rename_i hincomplete
          refine ih.cons ?_
          rintro other rest ⟨⟩ -
          exact hincomplete

/-- **The search takes the first interface that offers a pair, and overlooks none.** The first
alternate setting of the interface has the class triple, and the pair is the first Bulk endpoint to
the host and the first one to the device, with the larger of their packet sizes, which is in `1` to
`2047`. It fails with `LIBUSB_ERROR_NOT_FOUND` alone, and then no interface offers a pair. -/
theorem findBulkInterface_first (interfaces : List (List InterfaceSetting))
    (requested : RequestedChannel) :
    (∀ bulk, findBulkInterface (.ok interfaces) requested = .ok bulk →
      ∃ before setting others after sender receiver,
        interfaces = before ++ (setting :: others) :: after ∧ setting.Matches requested ∧
        setting.Offers sender receiver ∧ bulk.number = setting.number ∧
        bulk.pair = setting.pairOf sender receiver ∧
        ((∀ endpoint ∈ setting.endpoints, endpoint.address ≠ 0) →
          bulk.pair.maxPacket = max sender.packet receiver.packet) ∧
        0 < bulk.pair.maxPacket ∧ bulk.pair.maxPacket ≤ 2047 ∧ NoneOffers requested before) ∧
      ∀ status, findBulkInterface (.ok interfaces) requested = .error status →
        status = errorNotFound ∧ NoneOffers requested interfaces := by
  have hsearched := searchInterfaces_searched requested interfaces
  rw [findBulkInterface]
  generalize searchInterfaces requested interfaces = result at hsearched
  cases hsearched with
  | nothing hnone =>
    refine ⟨by rintro bulk ⟨⟩, ?_⟩
    rintro status ⟨⟩
    exact ⟨rfl, hnone⟩
  | @found before after setting others complete hinterfaces hmatches hbefore =>
    refine ⟨?_, by rintro status ⟨⟩⟩
    rintro bulk ⟨⟩
    obtain ⟨sender, receiver, hpair⟩ := setting.exists_offers complete
    have hpacket : setting.bulkPair.maxPacket ≤ 2047 := by
      rw [hpair.bulkPair_eq]
      exact max_le sender.packet_le (receiverPacket_le _)
    refine ⟨before, setting, others, after, sender, receiver, hinterfaces, hmatches, hpair, rfl,
      hpair.bulkPair_eq, fun haddress => ?_, Nat.pos_of_ne_zero complete.2.2, hpacket, hbefore⟩
    have hlargest : setting.bulkPair.maxPacket = max sender.packet (receiverPacket _) :=
      congrArg BulkPair.maxPacket hpair.bulkPair_eq
    rw [hlargest, receiverPacket_eq haddress hpair.receiver_eq]

/-! ### The length of a transfer -/

/-- What `Channel::open` reads of the device: the active configuration, the answer to setting
configuration 1, and the interfaces. -/
structure ChannelDevice where
  configuration : Except ℤ ℕ
  setStatus : ℤ := success
  interfaces : Except ℤ (List (List InterfaceSetting))

/-- The status of the configuration. Only an unconfigured device is configured. -/
def ChannelDevice.configured (device : ChannelDevice) : ℤ :=
  match device.configuration with
  | .error status => status
  | .ok configuration => if configuration = 0 then device.setStatus else success

/-- A Channel before its claim. -/
structure NegotiatedChannel where
  bulk : BulkInterface
  config : ChannelConfig

namespace RequestedChannel

/-- A count that `Channel::open` refuses is zero. -/
def Refused (requested : RequestedChannel) : Prop :=
  requested.inTransfers = 0 ∨ requested.outTransfers = 0 ∨ requested.transferBytes = 0

instance (requested : RequestedChannel) : Decidable requested.Refused :=
  inferInstanceAs (Decidable (_ ∨ _))

theorem toNat_pos {n : UInt32} (h : n ≠ 0) : 0 < n.toNat :=
  Nat.pos_of_ne_zero fun hzero => h (UInt32.toNat_inj.mp hzero)

/-- The configuration of the Channel on an interface. -/
def config (requested : RequestedChannel) (h : ¬requested.Refused) (bulk : BulkInterface) :
    ChannelConfig where
  inTransfers := requested.inTransfers.toNat
  outTransfers := requested.outTransfers.toNat
  transferBytes := requested.transferBytes.toNat
  maxPacket := bulk.pair.maxPacket
  zeroLengthTermination := requested.zeroLengthTermination
  requestReads := requested.requestReads
  in_pos := toNat_pos (not_or.mp h).1
  in_lt := requested.inTransfers.toNat_lt
  out_pos := toNat_pos (not_or.mp (not_or.mp h).2).1
  out_lt := requested.outTransfers.toNat_lt
  transferBytes_pos := toNat_pos (not_or.mp (not_or.mp h).2).2
  maxPacket_pos := Nat.pos_of_ne_zero bulk.complete.2.2

end RequestedChannel

/-- `Channel::open`, up to its claim: the Channel, or the result and the diagnostic. -/
def negotiateChannel (requested : RequestedChannel) (device : ChannelDevice) :
    Except (Result × ErrorInfo) NegotiatedChannel :=
  if hrefused : requested.Refused then .error (.errParam, recordError .errParam)
  else
    let configured := device.configured
    if configured ≠ success then
      let result := mapLibusbError configured false
      .error (result, recordError result configured)
    else
      match findBulkInterface device.interfaces requested with
      | .error found =>
        let result := if found = errorNotFound then .errUnsupported else mapLibusbError found false
        .error (result, recordError result found)
      | .ok bulk =>
        let config := requested.config hrefused bulk
        if config.roundedBytes > 2 ^ 31 - 1 then .error (.errOverflow, recordError .errOverflow)
        else .ok { bulk, config }

/-- The least multiple of the packet size that holds the length. -/
theorem ChannelConfig.roundedBytes_least (config : ChannelConfig) :
    config.transferBytes ≤ config.roundedBytes ∧
      config.roundedBytes < config.transferBytes + config.maxPacket ∧
      ∀ length, config.maxPacket ∣ length → config.transferBytes ≤ length →
        config.roundedBytes ≤ length := by
  have hpacket := config.maxPacket_pos
  have hdivision := Nat.div_add_mod (config.transferBytes + config.maxPacket - 1) config.maxPacket
  have hmod := Nat.mod_lt (config.transferBytes + config.maxPacket - 1) hpacket
  have hrounded : config.roundedBytes = config.maxPacket *
      ((config.transferBytes + config.maxPacket - 1) / config.maxPacket) := Nat.mul_comm _ _
  refine ⟨by omega, by omega, ?_⟩
  rintro _ ⟨packets, rfl⟩ hlength
  rw [hrounded]
  refine Nat.mul_le_mul_left _ ?_
  rw [← Nat.lt_succ_iff, Nat.div_lt_iff_lt_mul hpacket, Nat.succ_mul, Nat.mul_comm packets]
  omega

/-- **The transfers of a Channel.** A Channel that opens has transfers of whole packets that hold
the requested length with less than one packet to spare and that libusb can count in an `int`. The
open answers `AOAHID_ERR_OVERFLOW` without a status of libusb only if there is no such length. -/
theorem negotiateChannel_transferBytes (requested : RequestedChannel) (device : ChannelDevice) :
    (∀ channel, negotiateChannel requested device = .ok channel →
      channel.config.transferBytes = requested.transferBytes.toNat ∧
        channel.config.maxPacket = channel.bulk.pair.maxPacket ∧
        channel.config.maxPacket ∣ channel.config.roundedBytes ∧
        channel.config.transferBytes ≤ channel.config.roundedBytes ∧
        channel.config.roundedBytes < channel.config.transferBytes + channel.config.maxPacket ∧
        channel.config.roundedBytes < 2 ^ 31) ∧
      (negotiateChannel requested device = .error (.errOverflow, recordError .errOverflow) →
        ∃ bulk, findBulkInterface device.interfaces requested = .ok bulk ∧
          ∀ length, bulk.pair.maxPacket ∣ length → requested.transferBytes.toNat ≤ length →
            2 ^ 31 ≤ length) := by
  have hstatus : ∀ {result : Result} {status : ℤ},
      (result, recordError result status) = (.errOverflow, recordError .errOverflow) →
        status = 0 := by
    intro result status heq
    exact congrArg (fun failure : Result × ErrorInfo => failure.2.nativeStatus) heq
  rw [negotiateChannel]
  split
  · exact ⟨(by rintro channel ⟨⟩), by rintro ⟨⟩⟩
  · rename_i hrefused
    dsimp only
    split
    · rename_i hconfigured
      exact ⟨(by rintro channel ⟨⟩), fun heq => absurd (hstatus (Except.error.inj heq)) hconfigured⟩
    · split
      · rename_i found hfound
        refine ⟨(by rintro channel ⟨⟩), fun heq => ?_⟩
        have hzero := hstatus (Except.error.inj heq)
        have hresult := congrArg Prod.fst (Except.error.inj heq)
        rw [hzero] at hresult
        cases hresult
      · rename_i bulk hfound
        obtain ⟨hholds, hspare, hleast⟩ := (requested.config hrefused bulk).roundedBytes_least
        split
        · rename_i hlong
          refine ⟨(by rintro channel ⟨⟩), fun _ => ⟨bulk, hfound, ?_⟩⟩
          intro length hpackets hlength
          have := hleast length hpackets hlength
          omega
        · rename_i hshort
          have hint : (requested.config hrefused bulk).roundedBytes < 2 ^ 31 := by omega
          refine ⟨?_, by rintro ⟨⟩⟩
          rintro channel ⟨⟩
          exact ⟨rfl, rfl, Nat.dvd_mul_left _ _, hholds, hspare, hint⟩

end LibaoaHid.Transport

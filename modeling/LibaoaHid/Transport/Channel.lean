import LibaoaHid.Foundation.IndexRing
import LibaoaHid.Profiles.Completion
import LibaoaHid.Transport.Usb

/-!
# Channels

`Channel` of `src/transport/channel.cpp`: a pair of bulk endpoints between a reader, a writer, and
the callbacks of libusb.

Each access of the source to what the threads share (the two rings, `in_flight`, `lost`,
`write_error`, and libusb itself) is one step, and what a thread does between two of them belongs to
the step before. A thread stands at one of the places of its `ReaderPc` or `WriterPc`, and the
callbacks, which libusb runs one at a time, at one of their `CallbackPc`. Waiting is a step back to
the test that is waited for; a cancellation is a request to libusb, which may complete a transfer
with any status anyway.

## Main definitions

* `ChannelConfig`, `Channel`, `Channel.opened`.
* `ReaderPc`, `WriterPc`, `CallbackPc`.
* `ChannelStep`, `ChannelRun`.
-/

namespace LibaoaHid.Transport

open Libusb

/-! ### State -/

/-- `status_result`. -/
def statusResult : TransferStatus → Result
  | .completed => .ok
  | .timedOut => .errTimeout
  | .stall => .errStall
  | .noDevice => .errNoDevice
  | .overflow => .errOverflow
  | .cancelled => .errIo
  | .error => .errIo

/-- `ChannelConfig`, with the packet size of the bulk interface and the bounds that `Channel::open`
has checked. -/
structure ChannelConfig where
  inTransfers : ℕ
  outTransfers : ℕ
  transferBytes : ℕ
  maxPacket : ℕ
  zeroLengthTermination : Bool
  requestReads : Bool
  in_pos : 0 < inTransfers
  in_lt : inTransfers < 2 ^ 32
  out_pos : 0 < outTransfers
  out_lt : outTransfers < 2 ^ 32
  transferBytes_pos : 0 < transferBytes
  maxPacket_pos : 0 < maxPacket

namespace ChannelConfig

/-- A length rounded up to whole packets. -/
def wholePackets (config : ChannelConfig) (length : ℕ) : ℕ :=
  (length + config.maxPacket - 1) / config.maxPacket * config.maxPacket

/-- `Impl::transfer_bytes`. -/
def roundedBytes (config : ChannelConfig) : ℕ := config.wholePackets config.transferBytes

/-- The number of IN slots. -/
def inCount (config : ChannelConfig) : ℕ := if config.requestReads then 1 else config.inTransfers

end ChannelConfig

/-- An IN transfer: the length of its last submit, and its completion with the bytes received. -/
structure InTransfer where
  length : ℕ := 0
  status : TransferStatus := .completed
  received : List UInt8 := []

/-- Where the reader goes behind `submit_in`. -/
inductive AfterSubmit
  /-- The loop of `Channel::open`, at some slot. -/
  | opening (slot : ℕ)
  /-- The end of a read that has copied some bytes. -/
  | copied (bytes : List UInt8)
  /-- The wait of a read in request mode. -/
  | requested (capacity : ℕ)
  /-- The loop of `read`, behind a zero-length packet. -/
  | skipped (capacity : ℕ)

/-- The places of the reader. -/
inductive ReaderPc
  /-- The loop of `Channel::open`. -/
  | opening (slot : ℕ)
  | openFailed
  /-- The Channel was deleted by a failed open. -/
  | deleted
  | idle
  /-- The head of the loop of `read`. -/
  | reading (capacity : ℕ)
  /-- `submit_in`, before the test of `lost`. -/
  | submitting (slot length : ℕ) (after : AfterSubmit)
  /-- `submit`, behind the count of `in_flight`. -/
  | counted (slot length : ℕ) (after : AfterSubmit)
  /-- `submit_in`, before `mark_lost`. -/
  | rejected (result : Result) (after : AfterSubmit)
  /-- Before `ready_in.pop`. -/
  | popping (capacity : ℕ)
  /-- A failed transfer was popped. -/
  | failed (status : TransferStatus)
  /-- Before `lose` for a failed transfer. -/
  | losing (status : TransferStatus)
  /-- The ring was empty. -/
  | empty (capacity : ℕ)

/-- The places of the writer, with the data of the call, its offset, and the zero-length packet that
is still to come. -/
inductive WriterPc
  | idle
  /-- Before the test of `lost`. -/
  | starting (data : List UInt8)
  /-- Before the exchange of `write_error`. -/
  | checking (data : List UInt8)
  /-- The head of the loop of `write`. -/
  | writing (data : List UInt8) (offset : ℕ) (zeroLength : Bool)
  /-- Before `free_out.pop`. -/
  | popping (data : List UInt8) (offset : ℕ) (zeroLength : Bool)
  /-- The ring was empty. -/
  | empty (data : List UInt8) (offset : ℕ) (zeroLength : Bool)
  /-- With a slot, before the test of `lost`. -/
  | held (data : List UInt8) (offset : ℕ) (zeroLength : Bool) (slot : ℕ)
  /-- `submit`, behind the count of `in_flight`. -/
  | counted (data : List UInt8) (offset : ℕ) (zeroLength : Bool) (slot : ℕ)
  /-- Before `mark_lost`. -/
  | losing (data : List UInt8) (offset : ℕ)

/-- The places of a callback. -/
inductive CallbackPc
  | none
  | pushIn (slot : ℕ)
  | storeError (slot : ℕ) (error : Result) (noDevice : Bool)
  | storeLost (slot : ℕ)
  | pushOut (slot : ℕ)
  /-- Before the last access, the decrement of `in_flight`. -/
  | finishing

/-- The return of a read: its bytes, and whether it reported a failed transfer. -/
structure ReadReturn where
  result : Result
  bytes : List UInt8 := []
  transferFailed : Bool := false

/-- The return of a write: its data, what `out_written` says, and the payloads it has queued. -/
structure WriteReturn where
  data : List UInt8
  result : Result
  written : ℕ
  payloads : List (List UInt8)

/-- `Channel::Impl` with its threads, and what libusb holds. The lists at the end are the history of
the run: the IN transfers that were submitted, what has gone through the rings, the completions of
the IN transfers, the returns of the calls, and the payloads that the running write has queued. -/
structure Channel where
  config : ChannelConfig
  inSlots : ℕ → InTransfer := fun _ => {}
  readyIn : IndexRing ℕ
  freeOut : IndexRing ℕ
  inFlight : ℕ := 0
  lost : Bool := false
  writeError : Result := .ok
  current : Option ℕ := none
  offset : ℕ := 0
  requestPending : Bool := false
  spare : Option ℕ := none
  reader : ReaderPc
  writer : WriterPc := .idle
  callback : CallbackPc := .none
  /-- `Channel::open` has returned the Channel. -/
  returned : Bool := false
  /-- The transfers that libusb has accepted and not completed, the oldest first. -/
  inQueue : List ℕ := []
  outQueue : List (ℕ × List UInt8) := []
  inSubmitted : List ℕ := []
  inPushed : List ℕ := []
  inPopped : List ℕ := []
  outPushed : List ℕ := []
  outPopped : List ℕ := []
  completions : List (TransferStatus × List UInt8) := []
  reads : List ReadReturn := []
  writes : List WriteReturn := []
  payloads : List (List UInt8) := []

namespace Channel

/-- A ring with some values pushed one by one; the source ignores the results. -/
def pushAll (ring : IndexRing ℕ) (values : List ℕ) : IndexRing ℕ :=
  values.foldl (fun ring value => (ring.push value).getD ring) ring

/-- The Channel of `Channel::open` before its first submit. -/
def opened (config : ChannelConfig) : Channel where
  config
  readyIn := .init config.inCount 0
  freeOut := pushAll (.init config.outTransfers 0) (List.range config.outTransfers)
  reader := .opening 0
  outPushed := List.range config.outTransfers

/-- The end of a read. -/
def readReturns (c : Channel) (ret : ReadReturn) : Channel :=
  { c with
    reader := .idle
    reads := c.reads ++ [ret] }

/-- The end of a write. -/
def writeReturns (c : Channel) (data : List UInt8) (result : Result) (written : ℕ) : Channel :=
  { c with
    writer := .idle
    writes := c.writes ++ [{ data, result, written, payloads := c.payloads }] }

/-- The continuation of the reader behind `submit_in`. -/
def afterSubmit (c : Channel) (result : Result) : AfterSubmit → Channel
  | .opening slot =>
    { c with reader := if result = .ok then .opening (slot + 1) else .openFailed }
  | .copied bytes => c.readReturns { result := .ok, bytes }
  | .requested capacity =>
    if result = .ok then
      { c with
        requestPending := true
        reader := .popping capacity }
    else c.readReturns { result }
  | .skipped capacity => { c with reader := .reading capacity }

/-- The reader behind a successful pop. -/
def afterPop (c : Channel) (slot capacity : ℕ) : Channel :=
  let transfer := c.inSlots slot
  let c := { c with requestPending := false }
  if transfer.status = .completed then
    if transfer.received ≠ [] then
      { c with
        current := some slot
        offset := 0
        reader := .reading capacity }
    else if !c.config.requestReads then
      { c with reader := .submitting slot c.config.roundedBytes (.skipped capacity) }
    else { c with reader := .reading capacity }
  else { c with reader := .failed transfer.status }

/-- The copy of a read from the current slot. -/
def copyCurrent (c : Channel) (slot capacity : ℕ) : Channel :=
  let received := (c.inSlots slot).received
  let available := received.length - c.offset
  let copied := min available capacity
  let bytes := (received.drop c.offset).take copied
  let c := { c with offset := c.offset + copied }
  if copied = available then
    let c := { c with current := none }
    if !c.config.requestReads then
      { c with reader := .submitting slot c.config.roundedBytes (.copied bytes) }
    else c.readReturns { result := .ok, bytes }
  else c.readReturns { result := .ok, bytes }

/-- The chunk of a write at an offset. -/
def chunk (c : Channel) (data : List UInt8) (offset : ℕ) : List UInt8 :=
  (data.drop offset).take c.config.roundedBytes

end Channel

/-! ### Steps -/

/-- A step of `Channel::open` and of `Channel::read`. -/
inductive ReadStep (c : Channel) : Channel → Prop
  | open_next {slot : ℕ} (hpc : c.reader = .opening slot)
      (hmore : c.config.requestReads = false ∧ slot < c.config.inCount) :
      ReadStep c { c with
        reader := .submitting slot c.config.roundedBytes (.opening slot) }
  | open_returns {slot : ℕ} (hpc : c.reader = .opening slot)
      (hdone : ¬ (c.config.requestReads = false ∧ slot < c.config.inCount)) :
      ReadStep c { c with
        reader := .idle
        returned := true }
  | open_deletes (hpc : c.reader = .openFailed) (hidle : c.inFlight = 0) :
      ReadStep c { c with reader := .deleted }
  | open_loses (hpc : c.reader = .openFailed) (hbusy : c.inFlight ≠ 0) :
      ReadStep c { c with
        reader := .idle
        lost := true
        returned := true }
  | read {capacity : ℕ} (hpc : c.reader = .idle) (hcapacity : capacity ≠ 0) :
      ReadStep c { c with reader := .reading capacity }
  | copy {slot capacity : ℕ} (hpc : c.reader = .reading capacity)
      (hcurrent : c.current = some slot) : ReadStep c (c.copyCurrent slot capacity)
  | request {capacity : ℕ} (hpc : c.reader = .reading capacity) (hcurrent : c.current = none)
      (hrequest : c.config.requestReads = true ∧ c.requestPending = false) :
      ReadStep c { c with
        reader := .submitting 0
          (c.config.wholePackets (min capacity c.config.roundedBytes)) (.requested capacity) }
  | wait {capacity : ℕ} (hpc : c.reader = .reading capacity) (hcurrent : c.current = none)
      (hrequest : ¬ (c.config.requestReads = true ∧ c.requestPending = false)) :
      ReadStep c { c with reader := .popping capacity }
  | submit_lost {slot length : ℕ} {after : AfterSubmit}
      (hpc : c.reader = .submitting slot length after) (hlost : c.lost = true) :
      ReadStep c (c.afterSubmit .errNoDevice after)
  | submit {slot length : ℕ} {after : AfterSubmit}
      (hpc : c.reader = .submitting slot length after) (hlost : c.lost = false) :
      ReadStep c { c with
        inFlight := c.inFlight + 1
        reader := .counted slot length after }
  | accepted {slot length : ℕ} {after : AfterSubmit}
      (hpc : c.reader = .counted slot length after) :
      ReadStep c (Channel.afterSubmit { c with
        inQueue := c.inQueue ++ [slot]
        inSubmitted := c.inSubmitted ++ [slot]
        inSlots := fun s => if s = slot then { length } else c.inSlots s } .ok after)
  | rejected {slot length : ℕ} {after : AfterSubmit} {status : ℤ}
      (hpc : c.reader = .counted slot length after) (hstatus : status ≠ success) :
      ReadStep c { c with
        inFlight := c.inFlight - 1
        reader := .rejected (mapLibusbError status false) after }
  | mark_lost {result : Result} {after : AfterSubmit} (hpc : c.reader = .rejected result after) :
      ReadStep c (Channel.afterSubmit { c with lost := true } result after)
  | pop {slot capacity : ℕ} {ring : IndexRing ℕ} (hpc : c.reader = .popping capacity)
      (hpop : c.readyIn.pop = some (slot, ring)) :
      ReadStep c (Channel.afterPop { c with
        readyIn := ring
        inPopped := c.inPopped ++ [slot] } slot capacity)
  | pop_empty {capacity : ℕ} (hpc : c.reader = .popping capacity)
      (hpop : c.readyIn.pop = none) : ReadStep c { c with reader := .empty capacity }
  | failed_lost {status : TransferStatus} (hpc : c.reader = .failed status)
      (hlost : c.lost = true) :
      ReadStep c (c.readReturns { result := .errNoDevice, transferFailed := true })
  | failed_live {status : TransferStatus} (hpc : c.reader = .failed status)
      (hlost : c.lost = false) : ReadStep c { c with reader := .losing status }
  | lose {status : TransferStatus} (hpc : c.reader = .losing status) :
      ReadStep c (Channel.readReturns { c with lost := true }
        { result := statusResult status, transferFailed := true })
  | empty_lost {capacity : ℕ} (hpc : c.reader = .empty capacity) (hlost : c.lost = true) :
      ReadStep c (c.readReturns { result := .errNoDevice })
  | timeout {capacity : ℕ} (hpc : c.reader = .empty capacity) (hlost : c.lost = false) :
      ReadStep c (c.readReturns { result := .errTimeout })
  | poll_failed {capacity : ℕ} {result : Result} (hpc : c.reader = .empty capacity)
      (hlost : c.lost = false) (hresult : result ≠ .ok) : ReadStep c (c.readReturns { result })
  | wake {capacity : ℕ} (hpc : c.reader = .empty capacity) (hlost : c.lost = false) :
      ReadStep c { c with reader := .reading capacity }

/-- A step of `Channel::write`. -/
inductive WriteStep (c : Channel) : Channel → Prop
  | write {data : List UInt8} (hpc : c.writer = .idle) (hreturned : c.returned = true) :
      WriteStep c { c with
        writer := .starting data
        payloads := [] }
  | start_lost {data : List UInt8} (hpc : c.writer = .starting data) (hlost : c.lost = true) :
      WriteStep c (c.writeReturns data .errNoDevice 0)
  | start {data : List UInt8} (hpc : c.writer = .starting data) (hlost : c.lost = false) :
      WriteStep c { c with writer := .checking data }
  | earlier {data : List UInt8} (hpc : c.writer = .checking data) (herror : c.writeError ≠ .ok) :
      WriteStep c (Channel.writeReturns { c with writeError := .ok } data c.writeError 0)
  | checked {data : List UInt8} (hpc : c.writer = .checking data) (herror : c.writeError = .ok) :
      WriteStep c { c with
        writer := .writing data 0 (c.config.zeroLengthTermination && data.length != 0 &&
          data.length % c.config.maxPacket == 0) }
  | done {data : List UInt8} {offset : ℕ} {zeroLength : Bool}
      (hpc : c.writer = .writing data offset zeroLength)
      (hdone : ¬ (offset < data.length ∨ zeroLength = true)) :
      WriteStep c (c.writeReturns data .ok offset)
  | take_spare {data : List UInt8} {offset slot : ℕ} {zeroLength : Bool}
      (hpc : c.writer = .writing data offset zeroLength)
      (hmore : offset < data.length ∨ zeroLength = true) (hspare : c.spare = some slot) :
      WriteStep c { c with
        spare := none
        writer := .held data offset zeroLength slot }
  | no_spare {data : List UInt8} {offset : ℕ} {zeroLength : Bool}
      (hpc : c.writer = .writing data offset zeroLength)
      (hmore : offset < data.length ∨ zeroLength = true) (hspare : c.spare = none) :
      WriteStep c { c with writer := .popping data offset zeroLength }
  | pop {data : List UInt8} {offset slot : ℕ} {zeroLength : Bool} {ring : IndexRing ℕ}
      (hpc : c.writer = .popping data offset zeroLength)
      (hpop : c.freeOut.pop = some (slot, ring)) :
      WriteStep c { c with
        freeOut := ring
        outPopped := c.outPopped ++ [slot]
        writer := .held data offset zeroLength slot }
  | pop_empty {data : List UInt8} {offset : ℕ} {zeroLength : Bool}
      (hpc : c.writer = .popping data offset zeroLength) (hpop : c.freeOut.pop = none) :
      WriteStep c { c with writer := .empty data offset zeroLength }
  | empty_lost {data : List UInt8} {offset : ℕ} {zeroLength : Bool}
      (hpc : c.writer = .empty data offset zeroLength) (hlost : c.lost = true) :
      WriteStep c (c.writeReturns data .errNoDevice offset)
  | timeout {data : List UInt8} {offset : ℕ} {zeroLength : Bool}
      (hpc : c.writer = .empty data offset zeroLength) (hlost : c.lost = false) :
      WriteStep c (c.writeReturns data .errTimeout offset)
  | poll_failed {data : List UInt8} {offset : ℕ} {zeroLength : Bool} {result : Result}
      (hpc : c.writer = .empty data offset zeroLength) (hlost : c.lost = false)
      (hresult : result ≠ .ok) : WriteStep c (c.writeReturns data result offset)
  | wake {data : List UInt8} {offset : ℕ} {zeroLength : Bool}
      (hpc : c.writer = .empty data offset zeroLength) (hlost : c.lost = false) :
      WriteStep c { c with writer := .popping data offset zeroLength }
  | held_lost {data : List UInt8} {offset slot : ℕ} {zeroLength : Bool}
      (hpc : c.writer = .held data offset zeroLength slot) (hlost : c.lost = true) :
      WriteStep c { c with
        spare := some slot
        writer := .losing data offset }
  | submit {data : List UInt8} {offset slot : ℕ} {zeroLength : Bool}
      (hpc : c.writer = .held data offset zeroLength slot) (hlost : c.lost = false) :
      WriteStep c { c with
        inFlight := c.inFlight + 1
        writer := .counted data offset zeroLength slot }
  | accepted {data : List UInt8} {offset slot : ℕ} {zeroLength : Bool}
      (hpc : c.writer = .counted data offset zeroLength slot) :
      WriteStep c { c with
        outQueue := c.outQueue ++ [(slot, c.chunk data offset)]
        payloads := c.payloads ++ [c.chunk data offset]
        writer := .writing data (offset + (c.chunk data offset).length)
          (zeroLength && (c.chunk data offset).length != 0) }
  | rejected {data : List UInt8} {offset slot : ℕ} {zeroLength : Bool} {status : ℤ}
      (hpc : c.writer = .counted data offset zeroLength slot) (hstatus : status ≠ success)
      (hpresent : mapLibusbError status false ≠ .errNoDevice) :
      WriteStep c (Channel.writeReturns { c with
        inFlight := c.inFlight - 1
        spare := some slot } data (mapLibusbError status false) offset)
  | rejected_gone {data : List UInt8} {offset slot : ℕ} {zeroLength : Bool} {status : ℤ}
      (hpc : c.writer = .counted data offset zeroLength slot)
      (hgone : mapLibusbError status false = .errNoDevice) :
      WriteStep c { c with
        inFlight := c.inFlight - 1
        spare := some slot
        writer := .losing data offset }
  | mark_lost {data : List UInt8} {offset : ℕ} (hpc : c.writer = .losing data offset) :
      WriteStep c (Channel.writeReturns { c with lost := true } data .errNoDevice offset)

/-- A step of libusb, which completes a transfer, and of the callback. -/
inductive CallbackStep (c : Channel) : Channel → Prop
  | complete_in {slot : ℕ} (status : TransferStatus) (received : List UInt8)
      (hpc : c.callback = .none) (hslot : slot ∈ c.inQueue) :
      CallbackStep c { c with
        inQueue := c.inQueue.erase slot
        inSlots := fun s => if s = slot then { c.inSlots slot with status, received }
          else c.inSlots s
        completions := c.completions ++ [(status, received)]
        callback := .pushIn slot }
  | push_in {slot : ℕ} (hpc : c.callback = .pushIn slot) :
      CallbackStep c { c with
        readyIn := (c.readyIn.push slot).getD c.readyIn
        inPushed := c.inPushed ++ [slot]
        callback := .finishing }
  | complete_out {slot : ℕ} {payload : List UInt8} (hpc : c.callback = .none)
      (hslot : (slot, payload) ∈ c.outQueue) :
      CallbackStep c { c with
        outQueue := c.outQueue.erase (slot, payload)
        callback := .pushOut slot }
  | fail_out {slot : ℕ} {payload : List UInt8} (status : TransferStatus) (actualLength : ℕ)
      (hpc : c.callback = .none) (hslot : (slot, payload) ∈ c.outQueue)
      (hfailed : ¬ (status = .completed ∧ actualLength = payload.length)) :
      CallbackStep c { c with
        outQueue := c.outQueue.erase (slot, payload)
        callback := .storeError slot
          (if status = .completed then .errShortTransfer else statusResult status)
          (status = .noDevice) }
  | store_error {slot : ℕ} {error : Result} {noDevice : Bool}
      (hpc : c.callback = .storeError slot error noDevice) :
      CallbackStep c { c with
        writeError := if c.writeError = .ok then error else c.writeError
        callback := if noDevice then .storeLost slot else .pushOut slot }
  | store_lost {slot : ℕ} (hpc : c.callback = .storeLost slot) :
      CallbackStep c { c with
        lost := true
        callback := .pushOut slot }
  | push_out {slot : ℕ} (hpc : c.callback = .pushOut slot) :
      CallbackStep c { c with
        freeOut := (c.freeOut.push slot).getD c.freeOut
        outPushed := c.outPushed ++ [slot]
        callback := .finishing }
  | finish (hpc : c.callback = .finishing) :
      CallbackStep c { c with
        inFlight := c.inFlight - 1
        callback := .none }

/-- A step of any thread. `lose` is called by a close, or by the loss of the Device. -/
inductive ChannelStep (c : Channel) : Channel → Prop
  | read {c' : Channel} (h : ReadStep c c') : ChannelStep c c'
  | write {c' : Channel} (h : WriteStep c c') : ChannelStep c c'
  | callback {c' : Channel} (h : CallbackStep c c') : ChannelStep c c'
  | lose (hreturned : c.returned = true) : ChannelStep c { c with lost := true }

/-- A run of a Channel from its open on. -/
inductive ChannelRun (config : ChannelConfig) : Channel → Prop
  | opened : ChannelRun config (Channel.opened config)
  | step {c c' : Channel} (h : ChannelRun config c) (hstep : ChannelStep c c') :
      ChannelRun config c'

/-! ### What the steps of one thread keep -/

/-- The writer and what belongs to it are as before. -/
structure WriterKept (c c' : Channel) : Prop where
  config : c'.config = c.config
  writer : c'.writer = c.writer
  callback : c'.callback = c.callback
  spare : c'.spare = c.spare
  freeOut : c'.freeOut = c.freeOut
  outQueue : c'.outQueue = c.outQueue
  outPushed : c'.outPushed = c.outPushed
  outPopped : c'.outPopped = c.outPopped
  writes : c'.writes = c.writes
  payloads : c'.payloads = c.payloads

/-- The reader and what belongs to it are as before. -/
structure ReaderKept (c c' : Channel) : Prop where
  config : c'.config = c.config
  reader : c'.reader = c.reader
  callback : c'.callback = c.callback
  current : c'.current = c.current
  offset : c'.offset = c.offset
  requestPending : c'.requestPending = c.requestPending
  readyIn : c'.readyIn = c.readyIn
  inSlots : c'.inSlots = c.inSlots
  inQueue : c'.inQueue = c.inQueue
  inSubmitted : c'.inSubmitted = c.inSubmitted
  inPushed : c'.inPushed = c.inPushed
  inPopped : c'.inPopped = c.inPopped
  completions : c'.completions = c.completions
  reads : c'.reads = c.reads

/-- Both threads are as before. -/
structure ThreadsKept (c c' : Channel) : Prop where
  config : c'.config = c.config
  reader : c'.reader = c.reader
  writer : c'.writer = c.writer
  current : c'.current = c.current
  offset : c'.offset = c.offset
  requestPending : c'.requestPending = c.requestPending
  spare : c'.spare = c.spare
  inSubmitted : c'.inSubmitted = c.inSubmitted
  inPopped : c'.inPopped = c.inPopped
  outPopped : c'.outPopped = c.outPopped
  reads : c'.reads = c.reads
  writes : c'.writes = c.writes
  payloads : c'.payloads = c.payloads

theorem WriterKept.trans {c c' c'' : Channel} (h : WriterKept c c') (h' : WriterKept c' c'') :
    WriterKept c c'' where
  config := h'.config.trans h.config
  writer := h'.writer.trans h.writer
  callback := h'.callback.trans h.callback
  spare := h'.spare.trans h.spare
  freeOut := h'.freeOut.trans h.freeOut
  outQueue := h'.outQueue.trans h.outQueue
  outPushed := h'.outPushed.trans h.outPushed
  outPopped := h'.outPopped.trans h.outPopped
  writes := h'.writes.trans h.writes
  payloads := h'.payloads.trans h.payloads

theorem Channel.afterSubmit_writerKept (c : Channel) (result : Result) (after : AfterSubmit) :
    WriterKept c (c.afterSubmit result after) := by
  cases after with
  | opening slot => constructor <;> rfl
  | copied bytes => constructor <;> rfl
  | requested capacity =>
    rw [Channel.afterSubmit]
    split <;> constructor <;> rfl
  | skipped capacity => constructor <;> rfl

theorem Channel.afterPop_writerKept (c : Channel) (slot capacity : ℕ) :
    WriterKept c (c.afterPop slot capacity) := by
  unfold Channel.afterPop
  dsimp only
  split
  · split
    · constructor <;> rfl
    · split <;> constructor <;> rfl
  · constructor <;> rfl

theorem Channel.copyCurrent_writerKept (c : Channel) (slot capacity : ℕ) :
    WriterKept c (c.copyCurrent slot capacity) := by
  unfold Channel.copyCurrent
  dsimp only
  split
  · split <;> constructor <;> rfl
  · constructor <;> rfl

/-- The reader keeps to its side. -/
theorem ReadStep.writerKept {c c' : Channel} (h : ReadStep c c') : WriterKept c c' := by
  cases h with
  | copy => exact c.copyCurrent_writerKept _ _
  | submit_lost => exact c.afterSubmit_writerKept _ _
  | accepted => exact .trans (by constructor <;> rfl) (Channel.afterSubmit_writerKept _ _ _)
  | mark_lost => exact .trans (by constructor <;> rfl) (Channel.afterSubmit_writerKept _ _ _)
  | pop => exact .trans (by constructor <;> rfl) (Channel.afterPop_writerKept _ _ _)
  | _ => constructor <;> rfl

/-- The writer keeps to its side. -/
theorem WriteStep.readerKept {c c' : Channel} (h : WriteStep c c') : ReaderKept c c' := by
  cases h <;> constructor <;> rfl

/-- A callback leaves both threads where they are. -/
theorem CallbackStep.threadsKept {c c' : Channel} (h : CallbackStep c c') : ThreadsKept c c' := by
  cases h <;> constructor <;> rfl

/-! ### Small Channels -/

/-- A Channel in request mode with packets of two bytes, one transfer for each direction, and
zero-length packets. -/
def smallConfig : ChannelConfig where
  inTransfers := 1
  outTransfers := 1
  transferBytes := 2
  maxPacket := 2
  zeroLengthTermination := true
  requestReads := true
  in_pos := by decide
  in_lt := by decide
  out_pos := by decide
  out_lt := by decide
  transferBytes_pos := by decide
  maxPacket_pos := by decide

/-- A Channel that reads ahead with two transfers. -/
def streamConfig : ChannelConfig :=
  { smallConfig with
    inTransfers := 2
    requestReads := false
    in_pos := Nat.two_pos
    in_lt := by decide }

end LibaoaHid.Transport

import LibaoaHid.Api.LiveClose

/-!
# Raw submits

`aoahid_raw_submit` of `src/api/c_api.cpp`: the report comes from the caller, and has to be one that
the Raw Spec accepts. A pending completion is consumed in front of this check.

## Main definitions

* `rawSubmit`.
* `System.rawSubmit`, `ApiEvent`, `System.apiStep`, `System.apiRun`: the runs of any Node.
-/

namespace LibaoaHid

/-! ### The call -/

/-- The `RawConfig` of a Spec; no other configuration accepts a report. -/
def SpecConfig.rawConfig : SpecConfig → RawConfig
  | .raw config => config
  | _ => { reports := [], trailingValidMasks := [] }

/-- Whether a report of the Raw Spec has the length and the Report ID of these bytes. -/
def RawReport.accepts (item : RawReport) (report : List UInt8) : Bool :=
  item.wireLength.toNat == report.length &&
    (item.hasReportId == 0 || (report.length != 0 && report.getD 0 0 == item.reportId))

/-- `aoahid_raw_submit`, from the acquired slot on. -/
def rawSubmitInto (node : Node) (env : SubmitEnv) (report : List UInt8) (accepted : RawReport) :
    Submitted :=
  let submitted : Node := { node with
    dirty := true
    submittedNonNeutral := false
    submittedReportLength := report.length
    submittedReportId := if accepted.hasReportId = 1 then accepted.reportId.toNat else 0 }
  match env.rejection with
  | none => { reply := .ok, node := submitted, accepted := some report }
  | some rejection =>
    let completed := transferComplete submitted rejection.result rejection.nativeStatus
    let (reply, consumed) := consumeCompletion completed "raw.submit"
    if reply.result = .ok then
      { reply := finishTransportResult rejection.toTransportError "raw.submit"
          "libusb rejected raw AOA request 57 before asynchronous completion." node 57 0
          (min report.length (2 ^ 32 - 1))
        node := consumed }
    else { reply := ⟨rejection.result, reply.error⟩, node := consumed }

/-- `aoahid_raw_submit`; no report stands for a null pointer. -/
def rawSubmit (node : Node) (report : Option (List UInt8)) (env : SubmitEnv) : Submitted :=
  let missing : Submitted :=
    { reply := .fail .errParam "raw.submit" "A live idle raw node and report are required.", node }
  match report with
  | none => missing
  | some report =>
    if node.closed ∨ node.spec.kind ≠ .raw then missing
    else
      match env.deferred with
      | some refusal => { reply := refusal.reply, node }
      | none =>
        if node.transferInflight then
          { reply := .fail .errBusy "raw.submit"
              "The raw node already has one report in flight."
            node }
        else
          let (completion, consumed) := consumeCompletion node "raw.completion"
          if completion.result ≠ .ok then { reply := completion, node := consumed }
          else
            let raw := node.spec.config.rawConfig
            let index := raw.reports.findIdx (·.accepts report)
            match raw.reports[index]? with
            | none =>
              { reply := .fail .errParam "raw.report"
                  "The report ID or exact wire length is not accepted by the raw spec."
                node := consumed }
            | some accepted =>
              let validMask := raw.trailingValidMasks.getD index 0
              if report.getD (report.length - 1) 0 &&& ~~~validMask ≠ 0 then
                { reply := .fail .errParam "raw.report.trailing_padding"
                    "Unused trailing Input-report bits must be zero." 0 57 node.hidId
                    (if accepted.hasReportId = 1 then accepted.reportId.toNat else 0)
                    (report.length - 1) 1
                  node := consumed }
              else
                match env.acquire with
                | .error error =>
                  { reply := finishTransportResult error "raw.submit"
                      "No transfer slot could be acquired for raw AOA request 57." node 57 0
                      (min report.length (2 ^ 32 - 1))
                    node := consumed }
                | .ok _ =>
                  rawSubmitInto { consumed with transferInflight := true } env report accepted

/-! ### The events of any Node -/

/-- `aoahid_raw_submit` on the wire. -/
def System.rawSubmit (s : System) (report : Option (List UInt8)) (env : SubmitEnv) :
    Reply × System :=
  let submitted := LibaoaHid.rawSubmit s.node report env
  (submitted.reply,
    { s with
      node := submitted.node
      inflight := submitted.accepted.or s.inflight })

/-- What can happen to an open Node, generated or raw, before its Device is closed. -/
inductive ApiEvent
  | event (e : Event)
  | rawSubmit (report : Option (List UInt8)) (env : SubmitEnv)

namespace System

/-- One event. -/
def apiStep (s : System) : ApiEvent → System
  | .event e => s.step e
  | .rawSubmit report env => (s.rawSubmit report env).2

/-- A run of events. -/
def apiRun (s : System) (events : List ApiEvent) : System := events.foldl apiStep s

end System

end LibaoaHid

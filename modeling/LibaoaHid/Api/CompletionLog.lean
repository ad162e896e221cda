import LibaoaHid.Api.RawSubmit
import Mathlib.Data.List.Induction

/-!
# The log of the completions of a Node

What the public calls on a Node do with the one slot that holds the result of a completion: the
reports they hand to libusb, the results they take out of the slot, and the results they return.

The slot is an automaton. A log that it accepts returns each failed completion once, by the call
that takes it out, and hands no report over before that.

## Main definitions

* `Occurrence`, `CompletionSlot`, `CompletionSlot.run`.
* `ApiEvent.log`, `System.apiLog`: the log of a run.

## Main results

* `CompletionSlot.run_failed`, `CompletionSlot.exists_finished`: what an accepted log returns.
-/

namespace LibaoaHid

/-! ### Occurrences -/

/-- What can be seen of the completions of a Node. -/
inductive Occurrence
  /-- libusb accepts a report. -/
  | handed (report : List UInt8)
  /-- The completion callback of a report. -/
  | finished (report : List UInt8) (result : Result)
  /-- A call that finds the Node idle takes the result of the last completion. -/
  | taken (result : Result)
  /-- A submit or close call returns. -/
  | returned (result : Result)
  deriving DecidableEq

/-- The return of a call. -/
def Occurrence.IsReturn (o : Occurrence) : Prop := ∃ result, o = .returned result

/-! ### The slot -/

/-- The slot of the completion: nothing in it, a report in flight, a failure that no call has taken,
or one that the current call has to return. -/
inductive CompletionSlot
  | clear
  | busy (report : List UInt8)
  | failed (result : Result)
  | returning (result : Result)
  deriving DecidableEq

namespace CompletionSlot

/-- What may follow. -/
def next : CompletionSlot → Occurrence → Option CompletionSlot
  | clear, .handed report => some (busy report)
  | clear, .taken result => if result = .ok then some clear else none
  | clear, .returned _ => some clear
  | busy report, .finished report' result =>
    if report' = report then some (if result = .ok then clear else failed result) else none
  | busy report, .returned _ => some (busy report)
  | failed result, .taken result' => if result' = result then some (returning result) else none
  | failed result, .returned _ => some (failed result)
  | returning result, .returned result' => if result' = result then some clear else none
  | _, _ => none

/-- A log that the slot accepts leads to a slot. -/
def run (slot : CompletionSlot) (log : List Occurrence) : Option CompletionSlot :=
  log.foldlM next slot

@[simp] theorem run_nil (slot : CompletionSlot) : slot.run [] = some slot := rfl

theorem run_cons (slot : CompletionSlot) (o : Occurrence) (log : List Occurrence) :
    slot.run (o :: log) = (slot.next o).bind fun slot => slot.run log := rfl

theorem run_append (slot : CompletionSlot) (first second : List Occurrence) :
    slot.run (first ++ second) = (slot.run first).bind fun slot => slot.run second := by
  rw [run, List.foldlM_append]
  rfl

/-- A part of an accepted log is accepted. -/
theorem exists_run_of_append {slot slot' : CompletionSlot} {first second : List Occurrence}
    (h : slot.run (first ++ second) = some slot') :
    ∃ middle, slot.run first = some middle ∧ middle.run second = some slot' := by
  rw [run_append] at h
  exact Option.bind_eq_some_iff.mp h

/-- The steps at one occurrence of an accepted log. -/
theorem exists_next_of_run {slot slot' : CompletionSlot} {first rest : List Occurrence}
    {o : Occurrence} (h : slot.run (first ++ o :: rest) = some slot') :
    ∃ before after, slot.run first = some before ∧ before.next o = some after ∧
      after.run rest = some slot' := by
  obtain ⟨before, hfirst, hrest⟩ := exists_run_of_append h
  obtain ⟨after, hnext, hrest⟩ := Option.bind_eq_some_iff.mp hrest
  exact ⟨before, after, hfirst, hnext, hrest⟩

/-- Behind a report in flight there are the returns of other calls, until it finishes. -/
theorem run_busy {report : List UInt8} {slot : CompletionSlot} : {log : List Occurrence} →
    (busy report).run log = some slot →
    (∀ o ∈ log, o.IsReturn) ∧ slot = busy report ∨
    ∃ calls result rest, (∀ o ∈ calls, o.IsReturn) ∧ log = calls ++ .finished report result :: rest
  | [], h => .inl ⟨nofun, by cases h; rfl⟩
  | o :: log, h => by
    obtain ⟨middle, hnext, hrest⟩ := Option.bind_eq_some_iff.mp h
    cases o with
    | returned other =>
      cases hnext
      have hreturn : (Occurrence.returned other).IsReturn := ⟨other, rfl⟩
      rcases run_busy hrest with ⟨hall, hslot⟩ | ⟨calls, result, rest, hcalls, rfl⟩
      · exact .inl ⟨List.forall_mem_cons.mpr ⟨hreturn, hall⟩, hslot⟩
      · exact .inr ⟨.returned other :: calls, result, rest,
          List.forall_mem_cons.mpr ⟨hreturn, hcalls⟩, rfl⟩
    | finished report' result =>
      rw [next] at hnext
      split at hnext
      · rename_i heq
        exact .inr ⟨[], result, log, nofun, by rw [heq]; rfl⟩
      · cases hnext
    | _ => cases hnext

/-- A report is handed over by a call that finds nothing in the slot. -/
theorem next_handed {slot slot' : CompletionSlot} {report : List UInt8}
    (h : slot.next (.handed report) = some slot') : slot = clear ∧ slot' = busy report := by
  cases slot <;> cases h
  exact ⟨rfl, rfl⟩

/-- A failed completion stays in the slot. -/
theorem next_finished {slot slot' : CompletionSlot} {report : List UInt8} {result : Result}
    (h : slot.next (.finished report result) = some slot') (hfailed : result ≠ .ok) :
    slot' = failed result := by
  cases slot with
  | busy report' =>
    rw [next, if_neg hfailed] at h
    split at h <;> cases h
    rfl
  | _ => cases h

/-- A failure is taken out of the slot. -/
theorem next_taken {slot slot' : CompletionSlot} {result : Result}
    (h : slot.next (.taken result) = some slot') (hfailed : result ≠ .ok) :
    slot = failed result ∧ slot' = returning result := by
  cases slot with
  | clear =>
    rw [next, if_neg hfailed] at h
    cases h
  | failed other =>
    rw [next] at h
    split at h
    · rename_i heq
      cases h
      rw [heq]
      exact ⟨rfl, rfl⟩
    · cases h
  | _ => cases h

/-- A call that has taken a failure returns it. -/
theorem run_returning {result : Result} {slot : CompletionSlot} {log : List Occurrence}
    (h : (returning result).run log = some slot) :
    log = [] ∧ slot = returning result ∨
      ∃ rest, log = .returned result :: rest ∧ clear.run rest = some slot := by
  cases log with
  | nil => exact .inl ⟨rfl, by cases h; rfl⟩
  | cons o rest =>
    obtain ⟨middle, hnext, hrest⟩ := Option.bind_eq_some_iff.mp h
    cases o with
    | returned other =>
      rw [next] at hnext
      split at hnext
      · rename_i heq
        cases hnext
        exact .inr ⟨rest, by rw [heq], hrest⟩
      · cases hnext
    | _ => cases hnext

/-- Behind a failure there are the returns of other calls, until one takes it and returns it. -/
theorem run_failed {result : Result} {slot : CompletionSlot} : {log : List Occurrence} →
    (failed result).run log = some slot →
    (∀ o ∈ log, o.IsReturn) ∧ slot = failed result ∨
    ∃ calls, (∀ o ∈ calls, o.IsReturn) ∧
      (log = calls ++ [.taken result] ∧ slot = returning result ∨
      ∃ rest, log = calls ++ .taken result :: .returned result :: rest ∧
        clear.run rest = some slot)
  | [], h => .inl ⟨nofun, by cases h; rfl⟩
  | o :: log, h => by
    obtain ⟨middle, hnext, hrest⟩ := Option.bind_eq_some_iff.mp h
    cases o with
    | returned other =>
      cases hnext
      have hreturn : (Occurrence.returned other).IsReturn := ⟨other, rfl⟩
      rcases run_failed hrest with ⟨hall, hslot⟩ | ⟨calls, hcalls, hlog⟩
      · exact .inl ⟨List.forall_mem_cons.mpr ⟨hreturn, hall⟩, hslot⟩
      · refine .inr ⟨.returned other :: calls, List.forall_mem_cons.mpr ⟨hreturn, hcalls⟩, ?_⟩
        rcases hlog with ⟨rfl, hslot⟩ | ⟨rest, rfl, hclear⟩
        · exact .inl ⟨rfl, hslot⟩
        · exact .inr ⟨rest, rfl, hclear⟩
    | taken other =>
      rw [next] at hnext
      split at hnext
      · rename_i heq
        cases hnext
        rcases run_returning hrest with ⟨rfl, hslot⟩ | ⟨rest, rfl, hclear⟩
        · exact .inr ⟨[], nofun, .inl ⟨by rw [heq]; rfl, hslot⟩⟩
        · exact .inr ⟨[], nofun, .inr ⟨rest, by rw [heq]; rfl, hclear⟩⟩
      · cases hnext
    | _ => cases hnext

/-- What may lead to a failure that no call has taken: its completion, and the returns of other
calls. -/
theorem exists_finished {slot : CompletionSlot} {result : Result} {log : List Occurrence}
    (h : slot.run log = some (failed result)) :
    slot = failed result ∧ (∀ o ∈ log, o.IsReturn) ∨
    ∃ first report calls, log = first ++ .finished report result :: calls ∧
      ∀ o ∈ calls, o.IsReturn := by
  induction log using List.reverseRecOn with
  | nil => exact .inl ⟨by cases h; rfl, nofun⟩
  | append_singleton log o ih =>
    obtain ⟨middle, hmiddle, hlast⟩ := exists_run_of_append h
    have hlast : middle.next o = some (failed result) := by
      rw [run_cons, Option.bind_eq_some_iff] at hlast
      obtain ⟨_, hnext, heq⟩ := hlast
      cases heq
      exact hnext
    cases o with
    | handed _ => cases middle <;> cases hlast
    | taken other =>
      cases middle <;> rw [next] at hlast <;> first | cases hlast | split at hlast <;> cases hlast
    | returned other =>
      have hreturn : (Occurrence.returned other).IsReturn := ⟨other, rfl⟩
      have hfailed : middle = failed result := by
        cases middle with
        | returning _ =>
          rw [next] at hlast
          split at hlast <;> cases hlast
        | _ => cases hlast <;> rfl
      rcases ih (hfailed ▸ hmiddle) with ⟨hslot, hall⟩ | ⟨first, report, calls, rfl, hcalls⟩
      · refine .inl ⟨hslot, fun o ho => ?_⟩
        rcases List.mem_append.mp ho with ho | ho
        · exact hall o ho
        · rw [List.mem_singleton.mp ho]
          exact hreturn
      · refine .inr ⟨first, report, calls ++ [.returned other], by simp, fun o ho => ?_⟩
        rcases List.mem_append.mp ho with ho | ho
        · exact hcalls o ho
        · rw [List.mem_singleton.mp ho]
          exact hreturn
    | finished report other =>
      refine .inr ⟨log, report, [], ?_, nofun⟩
      cases middle with
      | busy report' =>
        rw [next] at hlast
        split at hlast
        · rw [Option.some.injEq] at hlast
          split at hlast
          · cases hlast
          · cases hlast
            rfl
        · cases hlast
      | _ => cases hlast

end CompletionSlot

/-! ### The logs of the calls -/

/-- The log of a submit that gets as far as the slot. -/
def submitLog (s : System) (submitted : Submitted) : List Occurrence :=
  .taken s.node.completionResult :: submitted.accepted.toList.map .handed

/-- Whether `aoahid_node_submit` answers without a look into the slot. -/
def nodeSubmitRefuses (node : Node) (env : SubmitEnv) : Bool :=
  node.closed || node.spec.kind == .raw || env.deferred.isSome || node.transferInflight

/-- The log of `aoahid_node_submit`, without its return. -/
def nodeSubmitLog (s : System) (env : SubmitEnv) : List Occurrence :=
  if nodeSubmitRefuses s.node env then [] else submitLog s (nodeSubmit s.node env)

/-- Whether `aoahid_raw_submit` answers without a look into the slot. -/
def rawSubmitRefuses (node : Node) (report : Option (List UInt8)) (env : SubmitEnv) : Bool :=
  report.isNone || node.closed || node.spec.kind != .raw || env.deferred.isSome ||
    node.transferInflight

/-- The log of `aoahid_raw_submit`, without its return. -/
def rawSubmitLog (s : System) (report : Option (List UInt8)) (env : SubmitEnv) :
    List Occurrence :=
  if rawSubmitRefuses s.node report env then [] else submitLog s (rawSubmit s.node report env)

/-- The log of a completion callback. -/
def completeLog (s : System) (status : TransferStatus) (actualLength : ℕ) : List Occurrence :=
  s.inflight.toList.map fun report =>
    .finished report (completionResult status actualLength report.length)

/-- The log of the event handling of a turn. -/
def pollLog (s : System) (turn : PollTurn) : List Occurrence :=
  match turn.completion with
  | none => []
  | some (status, actualLength) => completeLog s status actualLength

/-- The log of one turn of `poll_until_idle`. -/
def pollTurnLog (s : System) (turn : PollTurn) : List Occurrence :=
  if s.node.transferInflight then pollLog s turn
  else
    let (completion, s) := s.consume "node.completion"
    if completion.result ≠ .ok then [.taken completion.result]
    else if !s.node.dirty then [.taken completion.result]
    else
      let (reply, after) := s.submit turn.submit
      let submitting := .taken completion.result :: nodeSubmitLog s turn.submit
      if reply.result ≠ .ok ∧ reply.result ≠ .errBusy then submitting
      else submitting ++ pollLog after turn

/-- The log of the loop of `poll_until_idle`. -/
def pollLoopLog (s : System) (turn : PollTurn) : List PollTurn → List Occurrence
  | [] => pollTurnLog s turn
  | next :: rest =>
    match pollTurn s turn with
    | (some _, _) => pollTurnLog s turn
    | (none, s') => pollTurnLog s turn ++ pollLoopLog s' next rest

/-- The log of `poll_until_idle`. -/
def pollUntilIdleLog (s : System) (script : PollScript) : List Occurrence :=
  match script.preflight with
  | some _ => []
  | none => pollLoopLog s script.first script.rest

/-- The log of `aoahid_node_submit_blocking`, without its return. -/
def nodeSubmitBlockingLog (s : System) (script : Option PollScript) : List Occurrence :=
  if s.node.closed then []
  else
    match script with
    | none => []
    | some script => pollUntilIdleLog s script

/-- The log of `aoahid_node_close`, without its return. -/
def nodeCloseLog (s : System) (env : CloseEnv) : List Occurrence :=
  if s.node.closed ∨ env.closing then []
  else
    let draining :=
      if s.node.transferInflight ∨ touchFrameInProgress s.node then pollUntilIdleLog s env.drain
      else []
    let (drained, s) :=
      if s.node.transferInflight ∨ touchFrameInProgress s.node then pollUntilIdle s env.drain
      else (.ok, s)
    if drained.result ≠ .ok then draining
    else
      let (terminal, s) := s.consume "node.completion"
      let taking := draining ++ [.taken terminal.result]
      if terminal.result ≠ .ok then taking
      else if env.present then
        taking ++ pollUntilIdleLog { s with node := makeNeutral s.node } env.neutral
      else taking

/-- The log of an event. -/
def ApiEvent.log (s : System) : ApiEvent → List Occurrence
  | .event (.call _ _) => []
  | .event (.complete status actualLength) => completeLog s status actualLength
  | .event (.submit env) => nodeSubmitLog s env ++ [.returned (s.submit env).1.result]
  | .event (.submitBlocking script) =>
    nodeSubmitBlockingLog s script ++ [.returned (nodeSubmitBlocking s script).1.result]
  | .event (.close env) => nodeCloseLog s env ++ [.returned (nodeClose s env).1.result]
  | .rawSubmit report env =>
    rawSubmitLog s report env ++ [.returned (s.rawSubmit report env).1.result]

/-- The log of a run. -/
def System.apiLog (s : System) : List ApiEvent → List Occurrence
  | [] => []
  | e :: events => e.log s ++ (s.apiStep e).apiLog events

end LibaoaHid

import LibaoaHid.Api.Submit
import LibaoaHid.Foundation.Mailbox
import Mathlib.Data.List.Nodup
import Mathlib.Logic.Relation

/-!
# Deferred errors of a Context

An error that no call can return is latched in the Context (`src/api/c_api.cpp`). There is one place
for it, the first error wins, and the next call that checks the Context takes it. The error that
ends the event thread has a place of its own, is never taken, and is raised by a flag.

The event thread writes while the application checks. A check loads the flag and locks the mutex
afterwards, and the event thread raises the flag after it has left the mutex, so each of them has
two steps, which interleave with those of the other threads.

## Main definitions

* `DeferredError`, `currentDeferredError`, `publishDeferredError`.
* `ContextErrors` with `latch`, `peek`, `take`, `storeTerminal`, `raise`, `preflight`.
* `contextPoll`.
* `ErrorState`, `ErrorStep`, `ErrorRun`: the checks and the latches of all threads.

## Main results

* `ErrorRun.reports_append`: each error that was kept is reported once, in order.
* `ErrorRun.failed_for_good`: behind the terminal error every check fails with it.
-/

namespace LibaoaHid

open Relation

/-! ### One error -/

/-- `DeferredError`. It is pending exactly if its result is an error. -/
structure DeferredError where
  transport : ErrorInfo := {}
  field : Option String := none
  reason : Option String := none
  reportId : ℕ := 0
  pending : Bool := false
  pending_eq : pending = decide (transport.result ≠ .ok)

/-- The error that is not there. -/
def DeferredError.cleared : DeferredError := { pending_eq := rfl }

/-- `make_deferred_error`. -/
def makeDeferredError (transport : ErrorInfo) (field reason : Option String) (reportId : ℕ := 0) :
    DeferredError :=
  { transport, field, reason, reportId, pending := decide (transport.result ≠ .ok)
    pending_eq := rfl }

/-- The error that the transport recorded for a result, with the fallbacks where it recorded
another one or left a number out. `node` is the Node of the call, if it has one. -/
def completedError (result : Result) (lastError : ErrorInfo) (node : Option Node)
    (fallbackRequest fallbackOffset fallbackLength : ℕ) : ErrorInfo :=
  let hidId := (node.map Node.hidId).getD 0
  let reportId := (node.map Node.reportId).getD 0
  let transport : ErrorInfo :=
    if lastError.result ≠ result then
      { result
        aoaRequest := fallbackRequest
        hidId
        offset := fallbackOffset
        length := fallbackLength
        reportId }
    else lastError
  { result
    nativeStatus := transport.nativeStatus
    aoaRequest := if transport.aoaRequest ≠ 0 then transport.aoaRequest else fallbackRequest
    hidId := if transport.hidId ≠ 0 then transport.hidId else hidId
    offset := if transport.offset ≠ 0 then transport.offset else fallbackOffset
    length := if transport.length ≠ 0 then transport.length else fallbackLength
    reportId := if transport.aoaRequest = 57 then transport.reportId else reportId }

/-- `current_deferred_error`: the record of the thread if it has the code, else the transport's. -/
def currentDeferredError (detail : ErrorDetail) (lastError : ErrorInfo) (result : Result)
    (field reason : String) (node : Option Node := none)
    (fallbackRequest fallbackOffset fallbackLength : ℕ := 0) : DeferredError :=
  if detail.code = result then
    makeDeferredError
      { result
        nativeStatus := detail.libusbStatus
        aoaRequest := detail.aoaRequest
        hidId := detail.hidId
        offset := detail.offset
        length := detail.length
        reportId := detail.reportId }
      (some (detail.field.getD field)) (some detail.reason) detail.reportId
  else
    let transport := completedError result lastError node fallbackRequest fallbackOffset
      fallbackLength
    makeDeferredError transport (some field) (some reason) transport.reportId

/-- `publish_deferred_error`. -/
def publishDeferredError (error : DeferredError) : Reply :=
  if !error.pending || error.transport.result = .ok then .ok
  else
    .fail error.transport.result (error.field.getD "context")
      (error.reason.getD "A deferred Context operation failed.") error.transport.nativeStatus
      error.transport.aoaRequest error.transport.hidId error.reportId error.transport.offset
      error.transport.length

/-- `finish_transport_result` for a call without a Node. -/
def finishContextResult (error : TransportError) (field reason : String)
    (fallbackRequest fallbackOffset fallbackLength : ℕ := 0) : Reply :=
  let transport := completedError error.result error.lastError none fallbackRequest fallbackOffset
    fallbackLength
  .fail error.result field reason transport.nativeStatus transport.aoaRequest transport.hidId
    transport.reportId transport.offset transport.length

/-- What the event thread latches when a poll fails. -/
def eventPumpError (result : Result) (lastError : ErrorInfo) : DeferredError :=
  makeDeferredError
    (if lastError.result = result then { lastError with reportId := 0 } else { result })
    (some "context.event_pump")
    (some ("The internal libusb event pump failed; the first failure was retained for an " ++
      "application thread."))

/-- What the event thread latches when an exception ends it. -/
def eventThreadDied : DeferredError :=
  makeDeferredError { result := .errInternal } (some "context.event_pump")
    (some "An internal exception stopped the Context event thread.")

namespace DeferredError

variable {error : DeferredError}

@[simp] theorem pending_iff : error.pending = true ↔ error.transport.result ≠ .ok := by
  rw [error.pending_eq, decide_eq_true_eq]

theorem publish_of_pending (h : error.pending = true) :
    publishDeferredError error =
      .fail error.transport.result (error.field.getD "context")
        (error.reason.getD "A deferred Context operation failed.") error.transport.nativeStatus
        error.transport.aoaRequest error.transport.hidId error.reportId error.transport.offset
        error.transport.length := by
  rw [publishDeferredError, if_neg]
  rw [Bool.or_eq_true, Bool.not_eq_true', decide_eq_true_eq, h]
  rintro (hne | hok)
  · cases hne
  · exact pending_iff.mp h hok

/-- A published error returns the result that was latched, pending or not. -/
@[simp] theorem publish_result : (publishDeferredError error).result = error.transport.result := by
  by_cases h : error.pending = true
  · rw [publish_of_pending h]
    rfl
  · have hok : error.transport.result = .ok := by
      by_contra hne
      exact h (pending_iff.mpr hne)
    rw [publishDeferredError, if_pos (by rw [hok, Bool.or_eq_true]; exact .inr rfl), hok]
    rfl

theorem current_result (detail : ErrorDetail) (lastError : ErrorInfo) (result : Result)
    (field reason : String) (node : Option Node)
    (fallbackRequest fallbackOffset fallbackLength : ℕ) :
    (currentDeferredError detail lastError result field reason node fallbackRequest fallbackOffset
      fallbackLength).transport.result = result := by
  rw [currentDeferredError]
  split <;> rfl

end DeferredError

/-! ### The errors of a Context -/

/-- The errors that a Context holds. -/
structure ContextErrors where
  deferredError : DeferredError := .cleared
  eventThreadError : DeferredError := .cleared
  eventThreadFailed : Bool := false

namespace ContextErrors

variable (errors : ContextErrors)

/-- `latch_context_error`: the first error stays. -/
def latch (error : DeferredError) : ContextErrors :=
  if !error.pending || error.transport.result = .ok then errors
  else if !errors.deferredError.pending then { errors with deferredError := error }
  else errors

/-- `peek_context_error`. -/
def peek : Option DeferredError :=
  if !errors.deferredError.pending then none else some errors.deferredError

/-- `take_context_error`. -/
def take : Option DeferredError × ContextErrors :=
  if !errors.deferredError.pending then (none, errors)
  else (some errors.deferredError, { errors with deferredError := .cleared })

/-- `latch_terminal_event_error` within the mutex. -/
def storeTerminal (error : DeferredError) : ContextErrors :=
  { errors with
    eventThreadError := error
    deferredError := if !errors.deferredError.pending then error else errors.deferredError }

/-- The end of `latch_terminal_event_error`, behind the mutex. -/
def raise : ContextErrors := { errors with eventThreadFailed := true }

/-- `peek_terminal_event_error`. -/
def peekTerminal : Option DeferredError :=
  if !errors.eventThreadFailed then none
  else if !errors.eventThreadError.pending then none
  else some errors.eventThreadError

/-- `preflight_context`, when no other thread comes between its steps. -/
def preflight : Reply × ContextErrors :=
  match errors.peekTerminal with
  | some error => (publishDeferredError error, errors)
  | none =>
    match errors.take with
    | (some error, errors) => (publishDeferredError error, errors)
    | (none, errors) => (.ok, errors)

/-- The errors that are latched one after the other. -/
def latchAll : List DeferredError → ContextErrors → ContextErrors
  | [], errors => errors
  | error :: rest, errors => latchAll rest (errors.latch error)

end ContextErrors

/-! ### Polling -/

/-- What a poll of the application meets: the result of the runtime, and what the graphs that it
reaps leave behind. -/
structure ContextPollEnv where
  poll : Option TransportError := none
  reaped : List DeferredError := []

/-- `aoahid_context_poll`. -/
def contextPoll (callerPoll : Bool) (errors : ContextErrors) (env : ContextPollEnv) :
    Reply × ContextErrors :=
  if !callerPoll then
    (.fail .errUnsupported "context.event_mode"
      "Caller polling is available only in caller-poll mode.", errors)
  else
    let (deferred, errors) := errors.preflight
    if deferred.result ≠ .ok then (deferred, errors)
    else
      let errors := errors.latchAll env.reaped
      match env.poll with
      | some error =>
        (finishContextResult error "context.poll" "libusb event handling failed.", errors)
      | none => errors.preflight

namespace ContextErrors

variable {errors : ContextErrors} {error : DeferredError}

theorem latch_of_pending (h : error.pending = true) :
    errors.latch error =
      { errors with
        deferredError :=
          if !errors.deferredError.pending then error else errors.deferredError } := by
  rw [latch, if_neg]
  · split <;> rfl
  · rw [Bool.or_eq_true, Bool.not_eq_true', decide_eq_true_eq, h]
    rintro (hne | hok)
    · cases hne
    · exact DeferredError.pending_iff.mp h hok

theorem peek_latch (h : error.pending = true) :
    (errors.latch error).peek = errors.peek.or (some error) := by
  rw [latch_of_pending h, peek, peek]
  cases hpending : errors.deferredError.pending with
  | true => simp only [Bool.not_true, Bool.false_eq_true, if_false, hpending, Option.some_or]
  | false => simp only [Bool.not_false, if_true, h, Bool.not_true, Bool.false_eq_true, if_false,
      Option.none_or]

theorem peek_storeTerminal (h : error.pending = true) :
    (errors.storeTerminal error).peek = errors.peek.or (some error) := by
  rw [← peek_latch h, latch_of_pending h]
  rfl

theorem take_fst : errors.take.1 = errors.peek := by
  rw [take, peek]
  split <;> rfl

theorem peek_take : errors.take.2.peek = none := by
  rw [take]
  split
  · rename_i hpending
    rw [peek, if_pos hpending]
  · rfl

theorem pending_of_peek (h : errors.peek = some error) : error.pending = true := by
  rw [peek] at h
  split at h
  · cases h
  · rename_i hne
    cases h
    exact Bool.not_eq_false _ ▸ fun hfalse => hne (by rw [hfalse]; rfl)

theorem take_eventThread : errors.take.2.eventThreadError = errors.eventThreadError ∧
    errors.take.2.eventThreadFailed = errors.eventThreadFailed := by
  rw [take]
  split <;> exact ⟨rfl, rfl⟩

theorem latch_eventThread : (errors.latch error).eventThreadError = errors.eventThreadError ∧
    (errors.latch error).eventThreadFailed = errors.eventThreadFailed := by
  rw [latch]
  split
  · exact ⟨rfl, rfl⟩
  · split <;> exact ⟨rfl, rfl⟩

end ContextErrors

/-! ### The threads -/

/-- The place of a thread in `preflight_context`: outside, behind the load of the flag that was up,
or in front of the take. -/
inductive CheckPc
  | idle
  | peeking
  | taking
  deriving DecidableEq

/-- The event thread runs, has left the mutex of `latch_terminal_event_error`, or has raised the
flag. -/
inductive FailurePc
  | running
  | stored
  | raised
  deriving DecidableEq

/-- An answer of `preflight_context` to a thread, and whether it is the terminal error. -/
structure CheckReply where
  thread : ℕ
  terminal : Bool
  reply : Reply

/-- The errors of a Context, the places of the threads, the offers and the takes of recoverable
errors so far, and the answers so far. -/
structure ErrorState where
  errors : ContextErrors := {}
  pump : FailurePc := .running
  checks : ℕ → CheckPc := fun _ => .idle
  history : List (Mailbox.Event DeferredError) := []
  replies : List CheckReply := []

namespace ErrorState

/-- The thread `i` moves on. -/
def moved (s : ErrorState) (i : ℕ) (pc : CheckPc) : ErrorState :=
  { s with checks := Function.update s.checks i pc }

/-- The check of the thread `i` answers. -/
def answered (s : ErrorState) (i : ℕ) (terminal : Bool) (reply : Reply) : ErrorState :=
  { s.moved i .idle with replies := s.replies ++ [⟨i, terminal, reply⟩] }

/-- `take_context_error` in the check of the thread `i`. -/
def taken (s : ErrorState) (i : ℕ) : ErrorState :=
  { s.answered i false ((s.errors.peek.map publishDeferredError).getD .ok) with
    errors := s.errors.take.2
    history := s.history ++ [.take] }

/-- The recoverable errors that the checks answered with. -/
def reports (s : ErrorState) : List Reply :=
  (s.replies.filter fun r => !r.terminal && r.reply.result ≠ .ok).map CheckReply.reply

/-- The errors of a history that found their place empty. -/
def kept (s : ErrorState) : List DeferredError := Mailbox.kept false s.history

end ErrorState

/-- A step of a thread. -/
inductive ErrorStep : ErrorState → ErrorState → Prop
  | latch {s : ErrorState} (error : DeferredError) (h : error.pending = true) :
      ErrorStep s { s with
        errors := s.errors.latch error
        history := s.history ++ [.offer error] }
  | store {s : ErrorState} (error : DeferredError) (h : error.pending = true)
      (hpump : s.pump = .running) :
      ErrorStep s { s with
        errors := s.errors.storeTerminal error
        pump := .stored
        history := s.history ++ [.offer error] }
  | raise {s : ErrorState} (hpump : s.pump = .stored) :
      ErrorStep s { s with errors := s.errors.raise, pump := .raised }
  | load {s : ErrorState} (i : ℕ) (hpc : s.checks i = .idle) :
      ErrorStep s (s.moved i (if s.errors.eventThreadFailed then .peeking else .taking))
  | peek {s : ErrorState} (i : ℕ) (hpc : s.checks i = .peeking)
      (h : s.errors.eventThreadError.pending = true) :
      ErrorStep s (s.answered i true (publishDeferredError s.errors.eventThreadError))
  | pass {s : ErrorState} (i : ℕ) (hpc : s.checks i = .peeking)
      (h : s.errors.eventThreadError.pending = false) : ErrorStep s (s.moved i .taking)
  | take {s : ErrorState} (i : ℕ) (hpc : s.checks i = .taking) : ErrorStep s (s.taken i)

/-- The runs of a Context from its creation on. -/
inductive ErrorRun : ErrorState → Prop
  | created : ErrorRun {}
  | step {s s' : ErrorState} (h : ErrorRun s) (hstep : ErrorStep s s') : ErrorRun s'

/-- What holds behind every step. -/
structure ErrorState.Sound (s : ErrorState) : Prop where
  reported : ∃ taken, Mailbox.Run s.history taken s.errors.peek ∧
    s.reports = taken.map publishDeferredError
  raised : s.errors.eventThreadFailed = true ↔ s.pump = .raised
  stored : s.errors.eventThreadError.pending = true ↔ s.pump ≠ .running
  peeking : ∀ i, s.checks i = .peeking → s.pump = .raised

namespace ErrorState

variable {s s' : ErrorState}

theorem moved_self (s : ErrorState) (i : ℕ) (pc : CheckPc) : (s.moved i pc).checks i = pc := by
  simp only [moved, Function.update_self]

theorem moved_of_ne (s : ErrorState) {i j : ℕ} (pc : CheckPc) (h : j ≠ i) :
    (s.moved i pc).checks j = s.checks j := by
  simp only [moved, Function.update_of_ne h]

theorem reports_answered_ok (s : ErrorState) (i : ℕ) :
    (s.answered i false .ok).reports = s.reports := by
  rw [reports, answered, List.filter_append, List.map_append]
  exact List.append_nil _

theorem reports_answered_terminal (s : ErrorState) (i : ℕ) (reply : Reply) :
    (s.answered i true reply).reports = s.reports := by
  rw [reports, answered, List.filter_append, List.map_append]
  exact List.append_nil _

theorem reports_answered_failed (s : ErrorState) (i : ℕ) {reply : Reply}
    (h : reply.result ≠ .ok) : (s.answered i false reply).reports = s.reports ++ [reply] := by
  rw [reports, answered, List.filter_append, List.map_append,
    List.filter_cons_of_pos (by rw [Bool.not_false, Bool.true_and]; exact decide_eq_true h)]
  rfl

theorem reports_taken (s : ErrorState) (i : ℕ) :
    (s.taken i).reports = s.reports ++ s.errors.peek.toList.map publishDeferredError := by
  change (s.answered i false _).reports = _
  cases hpeek : s.errors.peek with
  | none => exact (s.reports_answered_ok i).trans (List.append_nil _).symm
  | some error =>
    refine s.reports_answered_failed i ?_
    rw [Option.map_some, Option.getD_some, DeferredError.publish_result]
    exact DeferredError.pending_iff.mp (ContextErrors.pending_of_peek hpeek)

namespace Sound

theorem created : Sound {} where
  reported := ⟨[], .empty, rfl⟩
  raised := ⟨(by rintro ⟨⟩), by rintro ⟨⟩⟩
  stored := ⟨(by rintro ⟨⟩), fun h => absurd rfl h⟩
  peeking i h := by cases h

/-- A thread that moves, without a change of the errors. -/
theorem move (h : s.Sound) (i : ℕ) {pc : CheckPc} (hpc : pc = .peeking → s.pump = .raised) :
    (s.moved i pc).Sound where
  reported := h.reported
  raised := h.raised
  stored := h.stored
  peeking j hj := by
    rcases eq_or_ne j i with rfl | hne
    · exact hpc (s.moved_self j pc ▸ hj)
    · exact h.peeking j (s.moved_of_ne pc hne ▸ hj)

theorem step (h : s.Sound) (hstep : ErrorStep s s') : s'.Sound := by
  obtain ⟨taken, hrun, hreports⟩ := h.reported
  cases hstep with
  | latch error herror =>
    refine ⟨⟨taken, ?_, hreports⟩, ?_, ?_, h.peeking⟩
    · rw [ContextErrors.peek_latch herror]
      exact hrun.offer error
    · rw [ContextErrors.latch_eventThread.2]
      exact h.raised
    · rw [ContextErrors.latch_eventThread.1]
      exact h.stored
  | store error herror hpump =>
    refine ⟨⟨taken, ?_, hreports⟩, ?_, ?_, fun i hi => ?_⟩
    · rw [ContextErrors.peek_storeTerminal herror]
      exact hrun.offer error
    · refine ⟨fun hfailed => ?_, by rintro ⟨⟩⟩
      rw [h.raised.mp hfailed] at hpump
      cases hpump
    · exact ⟨(by rintro - ⟨⟩), fun _ => herror⟩
    · rw [h.peeking i hi] at hpump
      cases hpump
  | raise hpump =>
    refine ⟨⟨taken, hrun, hreports⟩, ⟨fun _ => rfl, fun _ => rfl⟩, ?_, fun _ _ => rfl⟩
    refine ⟨(by rintro - ⟨⟩), fun _ => h.stored.mpr ?_⟩
    rw [hpump]
    rintro ⟨⟩
  | load i hpc =>
    refine h.move i fun hpeeking => h.raised.mp ?_
    by_contra hne
    rw [if_neg hne] at hpeeking
    cases hpeeking
  | peek i hpc hpending =>
    have hmoved : (s.moved i .idle).Sound := h.move i (by rintro ⟨⟩)
    refine ⟨⟨taken, hrun, ?_⟩, hmoved.raised, hmoved.stored, hmoved.peeking⟩
    rw [reports_answered_terminal, hreports]
  | pass i hpc hpending => exact h.move i (by rintro ⟨⟩)
  | take i hpc =>
    have hmoved : (s.moved i .idle).Sound := h.move i (by rintro ⟨⟩)
    refine ⟨⟨taken ++ s.errors.peek.toList, ?_, ?_⟩, ?_, ?_, hmoved.peeking⟩
    · change Mailbox.Run (s.history ++ [.take]) _ s.errors.take.2.peek
      rw [ContextErrors.peek_take]
      exact hrun.take
    · rw [reports_taken, hreports, List.map_append]
    · change s.errors.take.2.eventThreadFailed = true ↔ s.pump = .raised
      rw [ContextErrors.take_eventThread.2]
      exact h.raised
    · change s.errors.take.2.eventThreadError.pending = true ↔ s.pump ≠ .running
      rw [ContextErrors.take_eventThread.1]
      exact h.stored

end Sound

end ErrorState

/-- What holds behind the terminal error: it stays, only the checks that were behind the load of
the flag can still take, and each of them once. -/
structure ErrorState.Failed (s s' : ErrorState) (later : List CheckReply) : Prop where
  pump : s'.pump = .raised
  error : s'.errors.eventThreadError = s.errors.eventThreadError
  replies : s'.replies = s.replies ++ later
  terminal : ∀ r ∈ later, r.terminal = true →
    r.reply = publishDeferredError s.errors.eventThreadError
  nodup : ((later.filter fun r => !r.terminal).map CheckReply.thread).Nodup
  left : ∀ r ∈ later, r.terminal = false →
    s.checks r.thread = .taking ∧ s'.checks r.thread ≠ .taking
  taking : ∀ i, s'.checks i = .taking → s.checks i = .taking

namespace ErrorState.Failed

variable {s s₁ s₂ : ErrorState} {later : List CheckReply}

theorem refl (h : s.pump = .raised) : Failed s s [] where
  pump := h
  error := rfl
  replies := (List.append_nil _).symm
  terminal r hr := by cases hr
  nodup := .nil
  left r hr := by cases hr
  taking i hi := hi

/-- A thread that moves, but not to the take. -/
theorem move (h : Failed s s₁ later) (i : ℕ) {pc : CheckPc} (hpc : pc ≠ .taking) :
    Failed s (s₁.moved i pc) later where
  pump := h.pump
  error := h.error
  replies := h.replies
  terminal := h.terminal
  nodup := h.nodup
  left r hr hfalse := by
    refine ⟨(h.left r hr hfalse).1, ?_⟩
    rcases eq_or_ne r.thread i with hi | hne
    · rw [hi, moved_self]
      exact hpc
    · rw [moved_of_ne _ _ hne]
      exact (h.left r hr hfalse).2
  taking j hj := by
    rcases eq_or_ne j i with rfl | hne
    · exact absurd (s₁.moved_self j pc ▸ hj) hpc
    · exact h.taking j (s₁.moved_of_ne pc hne ▸ hj)

theorem move_idle (h : Failed s s₁ later) (i : ℕ) : Failed s (s₁.moved i .idle) later :=
  h.move i (by rintro ⟨⟩)

/-- A check answers with the terminal error. -/
theorem peeked (h : Failed s s₁ later) (i : ℕ) :
    Failed s (s₁.answered i true (publishDeferredError s₁.errors.eventThreadError))
      (later ++ [⟨i, true, publishDeferredError s₁.errors.eventThreadError⟩]) where
  pump := h.pump
  error := h.error
  replies := by rw [answered, h.replies, List.append_assoc]
  terminal r hr htrue := by
    rcases List.mem_append.mp hr with hr | hr
    · exact h.terminal r hr htrue
    · rw [List.mem_singleton.mp hr, h.error]
  nodup := by
    rw [List.filter_append,
      List.filter_cons_of_neg (by rw [Bool.not_true]; exact Bool.false_ne_true),
      List.filter_nil, List.append_nil]
    exact h.nodup
  left r hr hfalse := by
    rcases List.mem_append.mp hr with hr | hr
    · exact (h.move_idle i).left r hr hfalse
    · rw [List.mem_singleton.mp hr] at hfalse
      cases hfalse
  taking := (h.move_idle i).taking

/-- A check that was behind the load of the flag takes. -/
theorem took (h : Failed s s₁ later) {i : ℕ} (hpc : s₁.checks i = .taking) :
    Failed s (s₁.taken i)
      (later ++ [⟨i, false, (s₁.errors.peek.map publishDeferredError).getD .ok⟩]) where
  pump := h.pump
  error := ContextErrors.take_eventThread.1.trans h.error
  replies := by rw [taken, answered, h.replies, List.append_assoc]
  terminal r hr htrue := by
    rcases List.mem_append.mp hr with hr | hr
    · exact h.terminal r hr htrue
    · rw [List.mem_singleton.mp hr] at htrue
      cases htrue
  nodup := by
    rw [List.filter_append, List.filter_cons_of_pos rfl, List.filter_nil, List.map_append]
    refine List.nodup_append.mpr ⟨h.nodup, List.nodup_singleton _, ?_⟩
    rintro _ hmem j hj rfl
    rw [List.map_singleton, List.mem_singleton] at hj
    obtain ⟨r, hr, hthread⟩ := List.mem_map.mp hmem
    obtain ⟨hr, hfalse⟩ := List.mem_filter.mp hr
    refine (h.left r hr (Bool.not_eq_true' _ ▸ hfalse)).2 ?_
    rw [hthread, hj]
    exact hpc
  left r hr hfalse := by
    rcases List.mem_append.mp hr with hr | hr
    · exact (h.move_idle i).left r hr hfalse
    · rw [List.mem_singleton.mp hr]
      refine ⟨h.taking i hpc, fun htaking => ?_⟩
      rw [show (s₁.taken i).checks i = .idle from s₁.moved_self i .idle] at htaking
      cases htaking
  taking := (h.move_idle i).taking

theorem step (h : Failed s s₁ later) (hsound : s₁.Sound) (hstep : ErrorStep s₁ s₂) :
    ∃ more, Failed s s₂ (later ++ more) := by
  cases hstep with
  | latch error herror =>
    refine ⟨[], ?_⟩
    rw [List.append_nil]
    exact { h with error := ContextErrors.latch_eventThread.1.trans h.error }
  | store error herror hpump =>
    rw [h.pump] at hpump
    cases hpump
  | raise hpump =>
    rw [h.pump] at hpump
    cases hpump
  | load i hpc =>
    refine ⟨[], ?_⟩
    rw [List.append_nil, if_pos (hsound.raised.mpr h.pump)]
    exact h.move i (by rintro ⟨⟩)
  | peek i hpc hpending => exact ⟨_, h.peeked i⟩
  | pass i hpc hpending =>
    have hne : s₁.pump ≠ .running := by
      rw [h.pump]
      rintro ⟨⟩
    rw [hsound.stored.mpr hne] at hpending
    cases hpending
  | take i hpc => exact ⟨_, h.took hpc⟩

end ErrorState.Failed

namespace ErrorRun

variable {s s' : ErrorState}

theorem sound (h : ErrorRun s) : s.Sound := by
  induction h with
  | created => exact .created
  | step _ hstep ih => exact ih.step hstep

/-- **Each error that was kept is reported once.** The errors that the checks answered with and the
one that is still pending are the latched errors that found their place empty, in their order, each
once. When a check passes, none of them is left unreported. -/
theorem reports_append (h : ErrorRun s) :
    s.reports ++ s.errors.peek.toList.map publishDeferredError = s.kept.map publishDeferredError ∧
      s.kept.Sublist (s.history.filterMap Mailbox.Event.message) ∧
      ∀ s', ErrorStep s s' → ∀ r ∈ s'.replies.drop s.replies.length, r.reply.result = .ok →
        s'.reports = s'.kept.map publishDeferredError := by
  have hsum : ∀ {s : ErrorState}, s.Sound → s.reports ++
      s.errors.peek.toList.map publishDeferredError = s.kept.map publishDeferredError := by
    intro s hsound
    obtain ⟨taken, hrun, hreports⟩ := hsound.reported
    rw [hreports, ← List.map_append, hrun.taken_append, ErrorState.kept]
  refine ⟨hsum h.sound, Mailbox.kept_sublist _ _, fun s' hstep r hr hok => ?_⟩
  have hsound := h.sound.step hstep
  have hanswer : ∀ {replies : List CheckReply}, replies = s.replies →
      r ∉ replies.drop s.replies.length := by
    rintro replies rfl hmem
    rw [List.drop_length] at hmem
    cases hmem
  cases hstep with
  | peek i hpc hpending =>
    change r ∈ (s.replies ++ [_]).drop s.replies.length at hr
    rw [List.drop_left, List.mem_singleton] at hr
    rw [hr, DeferredError.publish_result] at hok
    exact absurd hok (DeferredError.pending_iff.mp hpending)
  | take i hpc =>
    have hempty := hsum hsound
    rwa [show (s.taken i).errors.peek = none from ContextErrors.peek_take, Option.toList_none,
      List.map_nil, List.append_nil] at hempty
  | _ => exact absurd hr (hanswer rfl)

/-- The pump failed, the thread took the error, and the pump failed again. -/
theorem reports_append_twice : ∃ s : ErrorState, s.reports.length = 1 ∧ s.kept.length = 2 ∧
    s.reports ++ s.errors.peek.toList.map publishDeferredError = s.kept.map publishDeferredError ∧
      s.kept.Sublist (s.history.filterMap Mailbox.Event.message) ∧
      ∀ s', ErrorStep s s' → ∀ r ∈ s'.replies.drop s.replies.length, r.reply.result = .ok →
        s'.reports = s'.kept.map publishDeferredError :=
  have hfirst := created.step (.latch (eventPumpError .errIo {}) rfl)
  have h := ((hfirst.step (.load 0 rfl)).step (.take 0 rfl)).step
    (.latch (eventPumpError .errNoDevice {}) rfl)
  ⟨_, rfl, rfl, h.reports_append⟩

/-- **Behind the terminal error every check fails with it.** Once the event thread has raised its
flag, a check answers with the terminal error, which is not `AOAHID_OK`, and takes nothing. Only a
check that had loaded the flag before can still take, once. -/
theorem failed_for_good (h : ErrorRun s) (hraised : s.pump = .raised)
    (hlater : ReflTransGen ErrorStep s s') :
    ∃ later, s'.replies = s.replies ++ later ∧
      (∀ r ∈ later, r.terminal = true →
        r.reply = publishDeferredError s.errors.eventThreadError ∧ r.reply.result ≠ .ok) ∧
      (∀ r ∈ later, r.terminal = false → s.checks r.thread = .taking) ∧
      ((later.filter fun r => !r.terminal).map CheckReply.thread).Nodup := by
  have hrun : ∃ later, ErrorState.Failed s s' later ∧ ErrorRun s' := by
    induction hlater with
    | refl => exact ⟨[], .refl hraised, h⟩
    | tail _ hstep ih =>
      obtain ⟨later, hfailed, hbefore⟩ := ih
      obtain ⟨more, hmore⟩ := hfailed.step hbefore.sound hstep
      exact ⟨later ++ more, hmore, hbefore.step hstep⟩
  obtain ⟨later, hfailed, -⟩ := hrun
  refine ⟨later, hfailed.replies, fun r hr hterminal => ?_, fun r hr hfalse =>
    (hfailed.left r hr hfalse).1, hfailed.nodup⟩
  have hreply := hfailed.terminal r hr hterminal
  have hpending : s.errors.eventThreadError.pending = true :=
    h.sound.stored.mpr (by rw [hraised]; rintro ⟨⟩)
  refine ⟨hreply, ?_⟩
  rw [hreply, DeferredError.publish_result]
  exact DeferredError.pending_iff.mp hpending

/-- The thread `1` had loaded the flag when the event thread died, the thread `0` had not. -/
theorem failed_for_good_raised : ∃ s s' : ErrorState, s.pump = .raised ∧ s'.replies.length = 2 ∧
    ∃ later, s'.replies = s.replies ++ later ∧
      (∀ r ∈ later, r.terminal = true →
        r.reply = publishDeferredError s.errors.eventThreadError ∧ r.reply.result ≠ .ok) ∧
      (∀ r ∈ later, r.terminal = false → s.checks r.thread = .taking) ∧
      ((later.filter fun r => !r.terminal).map CheckReply.thread).Nodup :=
  have hfirst := created.step (.latch (eventPumpError .errIo {}) rfl)
  have h := ((hfirst.step (.load 1 rfl)).step (.store eventThreadDied rfl rfl)).step (.raise rfl)
  have hlater := ((ReflTransGen.single (.load 0 rfl)).tail (.peek 0 rfl rfl)).tail
    (ErrorStep.take 1 rfl)
  ⟨_, _, rfl, rfl, h.failed_for_good rfl hlater⟩

end ErrorRun

end LibaoaHid

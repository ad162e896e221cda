import LibaoaHid.Api.DeferredErrors

/-!
# Destroying a Context

`aoahid_context_destroy` and `aoahid_context_destroy_blocking` of `src/api/c_api.cpp`, as a function
of what the calls meet: the closes of the active Devices, the graveyard, the polls, and the errors
that the event thread and the reaped graphs leave in the Context between any two steps. An
application reads off the result alone whether the Context is still its own.

## Main definitions

* `ErrorEvent`, `ContextErrors.meet`: what other code does with the errors of the Context.
* `contextDestroy`, `contextDestroyBlocking`.
* `drainReplies`: the answers of the polls of a blocking destroy.

## Main results

* `contextDestroy_consumed_iff`, `contextDestroyBlocking_retained_iff`: the ownership of the
  Context behind each result.
* `contextDestroyBlocking_reports`: what becomes of a failed poll.
-/

namespace LibaoaHid

/-! ### What the calls meet -/

/-- A step of other code on the errors of the Context. The close of a Device takes them too. -/
inductive ErrorEvent
  | latch (error : DeferredError)
  | store (error : DeferredError)
  | raise
  | take

namespace ContextErrors

/-- The errors behind a step of other code. -/
def apply (errors : ContextErrors) : ErrorEvent → ContextErrors
  | .latch error => errors.latch error
  | .store error => errors.storeTerminal error
  | .raise => errors.raise
  | .take => errors.take.2

/-- The errors behind the steps of other code. -/
def meet (errors : ContextErrors) (events : List ErrorEvent) : ContextErrors :=
  events.foldl apply errors

end ContextErrors

/-- The close of an active Device: what other code does up to its end, whether it consumed the
Device, and its answer. -/
structure DeviceTurn where
  events : List ErrorEvent := []
  consumed : Bool := true
  reply : Reply := .ok
  lastError : ErrorInfo := {}

/-- What `context_destroy_impl` meets. The Devices are in the order of their closes. -/
structure DestroyEnv where
  turns : List DeviceTurn := []
  /-- Up to the look into the graveyard. -/
  reaped : List ErrorEvent := []
  graveyardEmpty : Bool := true
  /-- Up to the end of the event thread. -/
  joined : List ErrorEvent := []

/-- The answer of a destroy, whether it freed the Context, and the errors that it left. -/
structure Destroyed where
  reply : Reply
  consumed : Bool
  errors : ContextErrors

/-! ### `aoahid_context_destroy` -/

/-- A reply with the code, and with the numbers of another error. -/
def pendingReply (code : Result) (reason : String) (prior : DeferredError) : Reply :=
  .fail code "context.destroy" reason prior.transport.nativeStatus prior.transport.aoaRequest
    prior.transport.hidId prior.reportId prior.transport.offset prior.transport.length

/-- The loop over the active Devices: its early return, or the errors of the Context and the first
error of a close. -/
def closeDevices : List DeviceTurn → ContextErrors → DeferredError →
    Except Destroyed (ContextErrors × DeferredError)
  | [], errors, closeError => .ok (errors, closeError)
  | turn :: rest, errors, closeError =>
    let errors := errors.meet turn.events
    let result := turn.reply.result
    if !turn.consumed then
      let retained := if result = .ok then .errInternal else result
      let error := currentDeferredError turn.reply.error turn.lastError retained "device.close"
        "A Device teardown operation failed before ownership transfer."
      .error
        { reply := pendingReply .closePending
            ("A Device could not yet transfer ownership to Context teardown; the Context " ++
              "remains caller-owned.") error
          consumed := false
          errors := errors.latch error }
    else if result ≠ .ok ∧ result ≠ .closePending then
      let error := currentDeferredError turn.reply.error turn.lastError result "device.close"
        "A Device teardown operation failed while destroying its Context."
      closeDevices rest errors (if !closeError.pending then error else closeError)
    else closeDevices rest errors closeError

/-- An error with the code of a retained Context becomes an internal one. -/
def terminalError (terminal : DeferredError) : DeferredError :=
  if terminal.pending ∧ terminal.transport.result = .closePending then
    makeDeferredError
      { terminal.transport with
        result := .errInternal
        reportId := 0 }
      (some "context.destroy")
      (some ("Context teardown reached a terminal state with an invalid CLOSE_PENDING " ++
        "diagnostic."))
      terminal.reportId
  else terminal

/-- `context_destroy_impl`. -/
def contextDestroy (errors : ContextErrors) (env : DestroyEnv) : Destroyed :=
  match closeDevices env.turns errors .cleared with
  | .error destroyed => destroyed
  | .ok (errors, closeError) =>
    let errors := (errors.latch closeError).meet env.reaped
    if !env.graveyardEmpty then
      { reply := pendingReply .closePending
          "The Context graveyard still owns Device graphs with pending callbacks."
          (errors.peek.getD .cleared)
        consumed := false
        errors }
    else
      let errors := errors.meet env.joined
      -- The error that stopped the event thread is preferred to an older one.
      let terminal := (errors.peekTerminal.or errors.take.1).getD .cleared
      { reply := publishDeferredError (terminalError terminal)
        consumed := true
        errors := errors.take.2 }

/-! ### `aoahid_context_destroy_blocking` -/

/-- A turn of the loop of a blocking destroy. -/
structure BlockingTurn where
  destroy : DestroyEnv := {}
  /-- In internal-thread mode, up to the look at the flag of the event thread. -/
  events : List ErrorEvent := []
  /-- The poll of the application, or of the caller that took over from the event thread. -/
  poll : ContextPollEnv := {}
  lastError : ErrorInfo := {}
  /-- During the wait for the event thread. -/
  waited : List ErrorEvent := []

/-- The answer of the poll of a turn in caller-poll mode. -/
def drainReply (turn : BlockingTurn) (errors : ContextErrors) : Reply :=
  (contextPoll true errors turn.poll).1

/-- The errors behind the part of a turn that pumps or waits, and the first error that a poll of the
application answered with. `pendingDetail` is the record that the destroy left. -/
def blockingPump (callerPoll : Bool) (turn : BlockingTurn) (pendingDetail : ErrorDetail)
    (errors : ContextErrors) (observed : DeferredError) : ContextErrors × DeferredError :=
  if callerPoll then
    let poll := drainReply turn errors
    ((contextPoll true errors turn.poll).2,
      if poll.result ≠ .ok ∧ observed.pending = false then
        currentDeferredError poll.error turn.lastError poll.result "context.poll"
          "libusb event handling failed while draining Context teardown."
      else observed)
  else
    let errors := errors.meet turn.events
    if errors.eventThreadFailed then
      let errors := errors.latchAll turn.poll.reaped
      match turn.poll.poll with
      | some error =>
        let failure := currentDeferredError pendingDetail error.lastError error.result
          "context.poll"
          "Caller fallback event handling failed after the internal event thread terminated."
        (errors.latch failure, observed)
      | none => (errors, observed)
    else (errors.meet turn.waited, observed)

/-- One turn: the end of the call, or what the next turn begins with. -/
def blockingTurn (callerPoll : Bool) (turn : BlockingTurn) (errors : ContextErrors)
    (observed : DeferredError) : Except Destroyed (ContextErrors × DeferredError) :=
  let destroyed := contextDestroy errors turn.destroy
  let reply := if observed.pending then publishDeferredError observed else destroyed.reply
  if destroyed.consumed then .error { destroyed with reply }
  else if destroyed.reply.result ≠ .closePending then .error { destroyed with reply }
  else .ok (blockingPump callerPoll turn destroyed.reply.error destroyed.errors observed)

/-- The end of the call at its deadline. -/
def destroyExpired (errors : ContextErrors) (observed : DeferredError) : Destroyed :=
  let deferred := if observed.pending then observed else errors.peek.getD .cleared
  { reply := pendingReply .errTimeout
      "Teardown did not drain before the deadline; the Context remains caller-owned." deferred
    consumed := false
    errors := if observed.pending then errors.latch observed else errors }

/-- The loop up to the deadline. -/
def destroyLoop (callerPoll : Bool) (turn : BlockingTurn) (errors : ContextErrors)
    (observed : DeferredError) : List BlockingTurn → Destroyed
  | [] =>
    match blockingTurn callerPoll turn errors observed with
    | .error destroyed => destroyed
    | .ok (errors, observed) => destroyExpired errors observed
  | next :: rest =>
    match blockingTurn callerPoll turn errors observed with
    | .error destroyed => destroyed
    | .ok (errors, observed) => destroyLoop callerPoll next errors observed rest

/-- The turns up to the deadline. -/
structure BlockingScript where
  first : BlockingTurn := {}
  rest : List BlockingTurn := []

/-- `aoahid_context_destroy_blocking`. -/
def contextDestroyBlocking (callerPoll : Bool) (timeoutMs : ℕ) (errors : ContextErrors)
    (script : BlockingScript) : Destroyed :=
  if timeoutMs = 0 then
    { reply := .fail .errParam "timeout_ms" "A nonzero destroy deadline is required."
      consumed := false
      errors }
  else destroyLoop callerPoll script.first errors .cleared script.rest

/-! ### What a destroy consumes -/

variable {errors : ContextErrors} {env : DestroyEnv} {turns : List DeviceTurn}
  {closeError : DeferredError}

theorem terminalError_result (terminal : DeferredError) :
    (terminalError terminal).transport.result ≠ .closePending := by
  rw [terminalError]
  split
  · rintro ⟨⟩
  · rename_i hne
    intro hpending
    refine hne ⟨DeferredError.pending_iff.mpr ?_, hpending⟩
    rw [hpending]
    rintro ⟨⟩

/-- The loop ends early only at a Device that it could not close, and keeps the Context then. -/
theorem closeDevices_error {destroyed : Destroyed}
    (h : closeDevices turns errors closeError = .error destroyed) :
    destroyed.consumed = false ∧
      ∃ reason prior, destroyed.reply = pendingReply .closePending reason prior := by
  induction turns generalizing errors closeError with
  | nil => cases h
  | cons turn rest ih =>
    rw [closeDevices] at h
    split at h
    · cases h
      exact ⟨rfl, _, _, rfl⟩
    · split at h
      · exact ih h
      · exact ih h

/-- Behind the loop either no close failed or the first failure is remembered. -/
theorem closeDevices_ok {after : ContextErrors × DeferredError}
    (h : closeDevices turns errors closeError = .ok after) (hnone : after.2.pending = false) :
    closeError.pending = false ∧ ∀ turn ∈ turns, turn.consumed = true ∧
      (turn.reply.result = .ok ∨ turn.reply.result = .closePending) := by
  induction turns generalizing errors closeError with
  | nil =>
    cases h
    exact ⟨hnone, by rintro turn ⟨⟩⟩
  | cons turn rest ih =>
    rw [closeDevices] at h
    split at h
    · cases h
    · rename_i hconsumed
      rw [Bool.not_eq_true', Bool.not_eq_false] at hconsumed
      split at h
      · rename_i hfailed
        obtain ⟨hclear, -⟩ := ih h
        split at hclear
        · rw [DeferredError.pending_eq, DeferredError.current_result,
            decide_eq_false_iff_not, not_not] at hclear
          exact absurd hclear hfailed.1
        · rename_i hpending
          rw [hclear] at hpending
          exact absurd rfl hpending
      · rename_i hfine
        obtain ⟨hclear, hrest⟩ := ih h
        refine ⟨hclear, fun other hmem => ?_⟩
        rcases List.mem_cons.mp hmem with rfl | hmem
        · refine ⟨hconsumed, ?_⟩
          by_contra hne
          exact hfine (not_or.mp hne)
        · exact hrest other hmem

namespace ContextErrors

theorem peek_eq_none_iff : errors.peek = none ↔ errors.deferredError.pending = false := by
  rw [peek]
  cases errors.deferredError.pending with
  | true => exact ⟨(by rintro ⟨⟩), by rintro ⟨⟩⟩
  | false => exact ⟨fun _ => rfl, fun _ => rfl⟩

theorem peek_latch_eq_none {error : DeferredError} (h : (errors.latch error).peek = none) :
    errors.peek = none ∧ error.pending = false := by
  cases hpending : error.pending with
  | true =>
    rw [peek_latch hpending] at h
    cases (Option.or_eq_none_iff.mp h).2
  | false =>
    rw [latch, if_pos (by rw [hpending]; rfl)] at h
    exact ⟨h, rfl⟩

theorem peek_storeTerminal_eq_none {error : DeferredError}
    (h : (errors.storeTerminal error).peek = none) :
    errors.peek = none ∧ error.pending = false := by
  rw [peek_eq_none_iff] at h ⊢
  cases hpending : errors.deferredError.pending with
  | true =>
    rw [storeTerminal, hpending] at h
    exact absurd (hpending.symm.trans h) (by rintro ⟨⟩)
  | false =>
    rw [storeTerminal, hpending] at h
    exact ⟨rfl, h⟩

theorem pending_of_peekTerminal {error : DeferredError} (h : errors.peekTerminal = some error) :
    error.pending = true := by
  rw [peekTerminal] at h
  split at h
  · cases h
  · split at h
    · cases h
    · rename_i hpending
      cases h
      rwa [Bool.not_eq_true', Bool.not_eq_false] at hpending

/-- An error that no step takes stays, and so does the first one that comes. -/
theorem peek_meet_eq_none {events : List ErrorEvent} (h : (errors.meet events).peek = none)
    (hevents : ErrorEvent.take ∉ events) :
    errors.peek = none ∧
      ∀ error, .latch error ∈ events ∨ .store error ∈ events → error.pending = false := by
  induction events generalizing errors with
  | nil =>
    refine ⟨h, fun error hmem => ?_⟩
    rcases hmem with hmem | hmem <;> cases hmem
  | cons event rest ih =>
    have hmeet : ((errors.apply event).meet rest).peek = none := h
    obtain ⟨hpeek, hrest⟩ := ih hmeet (List.not_mem_of_not_mem_cons hevents)
    cases event with
    | latch error =>
      obtain ⟨hnone, hidle⟩ := peek_latch_eq_none hpeek
      refine ⟨hnone, fun other hmem => ?_⟩
      simp only [List.mem_cons, ErrorEvent.latch.injEq, reduceCtorEq, false_or] at hmem
      rcases hmem with (rfl | hmem) | hmem
      · exact hidle
      · exact hrest other (.inl hmem)
      · exact hrest other (.inr hmem)
    | store error =>
      obtain ⟨hnone, hidle⟩ := peek_storeTerminal_eq_none hpeek
      refine ⟨hnone, fun other hmem => ?_⟩
      simp only [List.mem_cons, ErrorEvent.store.injEq, reduceCtorEq, false_or] at hmem
      rcases hmem with hmem | rfl | hmem
      · exact hrest other (.inl hmem)
      · exact hidle
      · exact hrest other (.inr hmem)
    | raise =>
      refine ⟨hpeek, fun other hmem => hrest other ?_⟩
      simp only [List.mem_cons, reduceCtorEq, false_or] at hmem
      exact hmem
    | take => exact absurd List.mem_cons_self hevents

end ContextErrors

/-- The cases of a destroy: a Device that could not be closed, a graveyard that is not empty, and
the end of the Context. -/
theorem contextDestroy_cases (errors : ContextErrors) (env : DestroyEnv) :
    ((contextDestroy errors env).consumed = false ∧
        ∃ reason prior,
          (contextDestroy errors env).reply = pendingReply .closePending reason prior) ∨
      ∃ after joined, closeDevices env.turns errors .cleared = .ok after ∧
        joined = (after.1.latch after.2).meet (env.reaped ++ env.joined) ∧
        contextDestroy errors env =
          { reply := publishDeferredError
              (terminalError ((joined.peekTerminal.or joined.take.1).getD .cleared))
            consumed := true
            errors := joined.take.2 } := by
  rw [contextDestroy]
  cases hloop : closeDevices env.turns errors .cleared with
  | error destroyed => exact .inl (closeDevices_error hloop)
  | ok after =>
    cases hempty : env.graveyardEmpty with
    | false => exact .inl ⟨rfl, _, _, rfl⟩
    | true =>
      refine .inr ⟨after, _, rfl, rfl, ?_⟩
      rw [ContextErrors.meet, List.foldl_append]
      rfl

theorem terminalError_ok {terminal : DeferredError}
    (h : (terminalError terminal).transport.result = .ok) : terminal.pending = false := by
  rw [terminalError] at h
  split at h
  · cases h
  · rw [terminal.pending_eq, h]
    rfl

/-- **A destroy keeps the Context exactly if it answers `AOAHID_CLOSE_PENDING`**, and it answers
`AOAHID_OK` only if no close of a Device failed and no error came afterwards: none is swallowed. -/
theorem contextDestroy_consumed_iff (errors : ContextErrors) (env : DestroyEnv) :
    ((contextDestroy errors env).consumed = true ↔
        (contextDestroy errors env).reply.result ≠ .closePending) ∧
      ((contextDestroy errors env).reply.result = .ok →
        ErrorEvent.take ∉ env.reaped ++ env.joined →
        (∀ turn ∈ env.turns, turn.consumed = true ∧
          (turn.reply.result = .ok ∨ turn.reply.result = .closePending)) ∧
        ∀ error, .latch error ∈ env.reaped ++ env.joined ∨
          .store error ∈ env.reaped ++ env.joined → error.pending = false) := by
  obtain ⟨hkept, reason, prior, hreply⟩ | ⟨after, joined, hloop, hjoined, heq⟩ :=
    contextDestroy_cases errors env
  · rw [hkept, hreply]
    exact ⟨⟨(by rintro ⟨⟩), fun hne => absurd rfl hne⟩, by rintro ⟨⟩⟩
  · rw [heq, DeferredError.publish_result]
    refine ⟨⟨fun _ => terminalError_result _, fun _ => rfl⟩, fun hok hevents => ?_⟩
    have hidle := terminalError_ok hok
    have hnone : joined.peek = none := by
      rw [ContextErrors.take_fst] at hidle
      by_contra hne
      obtain ⟨error, herror⟩ : ∃ error, joined.peekTerminal.or joined.peek = some error :=
        Option.ne_none_iff_exists'.mp fun hor => hne (Option.or_eq_none_iff.mp hor).2
      rw [herror, Option.getD_some] at hidle
      rcases Option.or_eq_some_iff.mp herror with hpeek | ⟨-, hpeek⟩
      · rw [ContextErrors.pending_of_peekTerminal hpeek] at hidle
        cases hidle
      · rw [ContextErrors.pending_of_peek hpeek] at hidle
        cases hidle
    rw [hjoined] at hnone
    obtain ⟨hloopEnd, hlater⟩ := ContextErrors.peek_meet_eq_none hnone hevents
    have hclose := (ContextErrors.peek_latch_eq_none hloopEnd).2
    exact ⟨(closeDevices_ok hloop hclose).2, hlater⟩

/-! ### The mark of a deadline -/

/-- The record of a call that kept the Context at its deadline. -/
def ErrorDetail.IsDeadline (detail : ErrorDetail) : Prop :=
  detail.code = .errTimeout ∧ detail.field = some "context.destroy"

/-- An error that reads like a deadline. -/
def DeferredError.IsDeadline (error : DeferredError) : Prop :=
  error.transport.result = .errTimeout ∧ error.field = some "context.destroy"

/-- No error of the Context reads like a deadline. -/
structure ContextErrors.Foreign (errors : ContextErrors) : Prop where
  deferred : ¬errors.deferredError.IsDeadline
  terminal : ¬errors.eventThreadError.IsDeadline

/-- No error that a step brings reads like a deadline. -/
def ErrorEvent.Foreign : ErrorEvent → Prop
  | .latch error | .store error => ¬error.IsDeadline
  | .raise | .take => True

/-- The Devices, the graveyard and the event thread bring no error that reads like a deadline. -/
structure DestroyEnv.Foreign (env : DestroyEnv) : Prop where
  turns : ∀ turn ∈ env.turns, ¬turn.reply.error.IsDeadline ∧ ∀ event ∈ turn.events, event.Foreign
  events : ∀ event ∈ env.reaped ++ env.joined, event.Foreign

/-- Neither does anything in a turn of a blocking destroy. -/
structure BlockingTurn.Foreign (turn : BlockingTurn) : Prop where
  destroy : turn.destroy.Foreign
  events : ∀ event ∈ turn.events ++ turn.waited, event.Foreign
  reaped : ∀ error ∈ turn.poll.reaped, ¬error.IsDeadline

namespace DeferredError

theorem not_isDeadline_cleared : ¬cleared.IsDeadline := by
  rintro ⟨⟨⟩, -⟩

/-- A published error has its code in the record, and reads like a deadline only if it did. -/
theorem publish_record {error : DeferredError} (h : ¬error.IsDeadline) :
    ¬(publishDeferredError error).error.IsDeadline ∧
      (publishDeferredError error).error.code = (publishDeferredError error).result := by
  by_cases hpending : error.pending = true
  · rw [publish_of_pending hpending]
    refine ⟨fun hdeadline => h ⟨hdeadline.1, ?_⟩, rfl⟩
    have hfield : some (error.field.getD "context") = some "context.destroy" := hdeadline.2
    cases hnone : error.field with
    | none =>
      rw [hnone] at hfield
      exact absurd (Option.some.inj hfield) (by decide)
    | some field =>
      rw [hnone] at hfield
      exact hfield
  · rw [publishDeferredError, if_pos]
    · exact ⟨(by rintro ⟨⟨⟩, -⟩), rfl⟩
    · rw [Bool.eq_false_iff.mpr hpending]
      rfl

theorem not_isDeadline_current {detail : ErrorDetail} {field : String} (lastError : ErrorInfo)
    (result : Result) (reason : String) (h : ¬detail.IsDeadline)
    (hfield : field ≠ "context.destroy") :
    ¬(currentDeferredError detail lastError result field reason).IsDeadline := by
  rw [currentDeferredError]
  split
  · rename_i hcode
    rintro ⟨hresult, hname⟩
    refine h ⟨hcode.trans hresult, ?_⟩
    cases hnone : detail.field with
    | none =>
      change some (detail.field.getD field) = _ at hname
      rw [hnone] at hname
      exact absurd (Option.some.inj hname) hfield
    | some name =>
      change some (detail.field.getD field) = _ at hname
      rw [hnone] at hname
      exact hname
  · rintro ⟨-, hname⟩
    exact hfield (Option.some.inj hname)

theorem not_isDeadline_terminalError {terminal : DeferredError} (h : ¬terminal.IsDeadline) :
    ¬(terminalError terminal).IsDeadline := by
  rw [terminalError]
  split
  · rintro ⟨⟨⟩, -⟩
  · exact h

end DeferredError

namespace ContextErrors.Foreign

variable {error : DeferredError}

theorem latch (h : errors.Foreign) (herror : ¬error.IsDeadline) : (errors.latch error).Foreign := by
  rw [ContextErrors.latch]
  split
  · exact h
  · split
    · exact ⟨herror, h.terminal⟩
    · exact h

theorem take (h : errors.Foreign) : errors.take.2.Foreign := by
  rw [ContextErrors.take]
  split
  · exact h
  · exact ⟨DeferredError.not_isDeadline_cleared, h.terminal⟩

theorem of_peek (h : errors.Foreign) (hpeek : errors.peek = some error) : ¬error.IsDeadline := by
  rw [peek] at hpeek
  split at hpeek
  · cases hpeek
  · cases hpeek
    exact h.deferred

theorem of_peekTerminal (h : errors.Foreign) (hpeek : errors.peekTerminal = some error) :
    ¬error.IsDeadline := by
  rw [peekTerminal] at hpeek
  split at hpeek
  · cases hpeek
  · split at hpeek
    · cases hpeek
    · cases hpeek
      exact h.terminal

theorem apply (h : errors.Foreign) {event : ErrorEvent} (hevent : event.Foreign) :
    (errors.apply event).Foreign := by
  cases event with
  | latch error => exact h.latch hevent
  | store error =>
    refine ⟨?_, hevent⟩
    change ¬(if _ then _ else _ : DeferredError).IsDeadline
    split
    · exact hevent
    · exact h.deferred
  | raise => exact ⟨h.deferred, h.terminal⟩
  | take => exact h.take

theorem meet (h : errors.Foreign) {events : List ErrorEvent}
    (hevents : ∀ event ∈ events, event.Foreign) : (errors.meet events).Foreign := by
  induction events generalizing errors with
  | nil => exact h
  | cons event rest ih =>
    exact ih (h.apply (hevents event List.mem_cons_self)) fun other hmem =>
      hevents other (List.mem_cons_of_mem event hmem)

theorem latchAll (h : errors.Foreign) {latched : List DeferredError}
    (hlatched : ∀ error ∈ latched, ¬error.IsDeadline) :
    (errors.latchAll latched).Foreign := by
  induction latched generalizing errors with
  | nil => exact h
  | cons error rest ih =>
    exact ih (h.latch (hlatched error List.mem_cons_self)) fun other hmem =>
      hlatched other (List.mem_cons_of_mem error hmem)

theorem preflight (h : errors.Foreign) :
    ¬errors.preflight.1.error.IsDeadline ∧ errors.preflight.2.Foreign := by
  rw [ContextErrors.preflight]
  split
  · rename_i error hpeek
    exact ⟨(DeferredError.publish_record (h.of_peekTerminal hpeek)).1, h⟩
  · have htake := h.take
    cases htaken : errors.take with
    | mk error left =>
      rw [htaken] at htake
      cases error with
      | none => exact ⟨(by rintro ⟨⟨⟩, -⟩), htake⟩
      | some error =>
        refine ⟨(DeferredError.publish_record (h.of_peek ?_)).1, htake⟩
        rw [← take_fst, htaken]

end ContextErrors.Foreign

theorem contextPoll_foreign (h : errors.Foreign) {poll : ContextPollEnv}
    (hreaped : ∀ error ∈ poll.reaped, ¬error.IsDeadline) :
    ¬(contextPoll true errors poll).1.error.IsDeadline ∧
      (contextPoll true errors poll).2.Foreign := by
  have hpreflight := h.preflight
  have hlatched := hpreflight.2.latchAll hreaped
  rw [contextPoll]
  cases hfirst : errors.preflight with
  | mk deferred left =>
    rw [hfirst] at hpreflight hlatched
    by_cases hok : deferred.result ≠ .ok
    · simp only [Bool.not_true, Bool.false_eq_true, if_false, if_pos hok]
      exact hpreflight
    · simp only [Bool.not_true, Bool.false_eq_true, if_false, if_neg hok]
      cases poll.poll with
      | none => exact hlatched.preflight
      | some error =>
        refine ⟨?_, hlatched⟩
        rintro ⟨-, hfield⟩
        exact absurd (Option.some.inj hfield) (by decide)

theorem closeDevices_foreign (h : errors.Foreign) (hclose : ¬closeError.IsDeadline)
    (hturns : ∀ turn ∈ turns, ¬turn.reply.error.IsDeadline ∧ ∀ event ∈ turn.events, event.Foreign) :
    (∀ destroyed, closeDevices turns errors closeError = .error destroyed →
        destroyed.errors.Foreign) ∧
      ∀ after, closeDevices turns errors closeError = .ok after →
        after.1.Foreign ∧ ¬after.2.IsDeadline := by
  induction turns generalizing errors closeError with
  | nil =>
    refine ⟨(by rintro destroyed ⟨⟩), ?_⟩
    rintro after ⟨⟩
    exact ⟨h, hclose⟩
  | cons turn rest ih =>
    obtain ⟨hreply, hevents⟩ := hturns turn List.mem_cons_self
    have hmet := h.meet hevents
    have hrest := fun other hmem => hturns other (List.mem_cons_of_mem turn hmem)
    rw [closeDevices]
    split
    · refine ⟨?_, by rintro after ⟨⟩⟩
      rintro destroyed ⟨⟩
      exact hmet.latch (DeferredError.not_isDeadline_current _ _ _ hreply (by decide))
    · split
      · refine ih hmet ?_ hrest
        split
        · exact DeferredError.not_isDeadline_current _ _ _ hreply (by decide)
        · exact hclose
      · exact ih hmet hclose hrest

theorem contextDestroy_foreign (h : errors.Foreign) (henv : env.Foreign) :
    (contextDestroy errors env).errors.Foreign ∧
      ((contextDestroy errors env).consumed = true →
        ¬(contextDestroy errors env).reply.error.IsDeadline ∧
          (contextDestroy errors env).reply.error.code =
            (contextDestroy errors env).reply.result) := by
  obtain ⟨hearly, hlate⟩ :=
    closeDevices_foreign h DeferredError.not_isDeadline_cleared henv.turns
  rw [contextDestroy]
  cases hloop : closeDevices env.turns errors .cleared with
  | error destroyed =>
    refine ⟨hearly destroyed hloop, fun hconsumed => ?_⟩
    rw [(closeDevices_error hloop).1] at hconsumed
    cases hconsumed
  | ok after =>
    obtain ⟨herrors, hclose⟩ := hlate after hloop
    have hreaped := (herrors.latch hclose).meet fun event hmem =>
      henv.events event (List.mem_append_left env.joined hmem)
    have hjoined := hreaped.meet fun event hmem =>
      henv.events event (List.mem_append_right env.reaped hmem)
    cases env.graveyardEmpty with
    | false => exact ⟨hreaped, by rintro ⟨⟩⟩
    | true =>
      refine ⟨hjoined.take, fun _ => DeferredError.publish_record ?_⟩
      refine DeferredError.not_isDeadline_terminalError ?_
      rw [ContextErrors.take_fst]
      cases hpeek : (((after.1.latch after.2).meet env.reaped).meet env.joined).peekTerminal.or
        (((after.1.latch after.2).meet env.reaped).meet env.joined).peek with
      | none => exact DeferredError.not_isDeadline_cleared
      | some error =>
        rcases Option.or_eq_some_iff.mp hpeek with hpeek | ⟨-, hpeek⟩
        · exact hjoined.of_peekTerminal hpeek
        · exact hjoined.of_peek hpeek

variable {callerPoll : Bool} {turn : BlockingTurn} {observed : DeferredError}

theorem blockingPump_foreign {detail : ErrorDetail} (h : errors.Foreign)
    (hobserved : ¬observed.IsDeadline) (hturn : turn.Foreign) (hdetail : ¬detail.IsDeadline) :
    (blockingPump callerPoll turn detail errors observed).1.Foreign ∧
      ¬(blockingPump callerPoll turn detail errors observed).2.IsDeadline := by
  have hevents := h.meet fun event hmem =>
    hturn.events event (List.mem_append_left turn.waited hmem)
  rw [blockingPump]
  split
  · obtain ⟨hpoll, herrors⟩ := contextPoll_foreign h hturn.reaped
    refine ⟨herrors, ?_⟩
    dsimp only
    split
    · exact DeferredError.not_isDeadline_current _ _ _ hpoll (by decide)
    · exact hobserved
  · dsimp only
    split
    · have hreaped := hevents.latchAll hturn.reaped
      split
      · exact ⟨hreaped.latch (DeferredError.not_isDeadline_current _ _ _ hdetail (by decide)),
          hobserved⟩
      · exact ⟨hreaped, hobserved⟩
    · exact ⟨hevents.meet fun event hmem =>
        hturn.events event (List.mem_append_right turn.events hmem), hobserved⟩

/-- A turn ends the call exactly if its destroy consumed the Context. -/
theorem blockingTurn_cases (callerPoll : Bool) (turn : BlockingTurn) (errors : ContextErrors)
    (observed : DeferredError) :
    ((contextDestroy errors turn.destroy).consumed = true ∧
      blockingTurn callerPoll turn errors observed = .error
        { contextDestroy errors turn.destroy with
          reply := if observed.pending then publishDeferredError observed
            else (contextDestroy errors turn.destroy).reply }) ∨
    ∃ reason prior,
      (contextDestroy errors turn.destroy).reply = pendingReply .closePending reason prior ∧
      blockingTurn callerPoll turn errors observed = .ok
        (blockingPump callerPoll turn (pendingReply .closePending reason prior).error
          (contextDestroy errors turn.destroy).errors observed) := by
  rw [blockingTurn]
  obtain ⟨hkept, reason, prior, hreply⟩ | ⟨after, joined, -, -, heq⟩ :=
    contextDestroy_cases errors turn.destroy
  · refine .inr ⟨reason, prior, hreply, ?_⟩
    rw [hkept, hreply]
    rfl
  · refine .inl ⟨by rw [heq], ?_⟩
    rw [heq]
    rfl

/-- A turn that ends the call has consumed the Context, and its record does not read like a
deadline. -/
theorem blockingTurn_foreign (h : errors.Foreign) (hobserved : ¬observed.IsDeadline)
    (hturn : turn.Foreign) :
    (∀ destroyed, blockingTurn callerPoll turn errors observed = .error destroyed →
        destroyed.consumed = true ∧ ¬destroyed.reply.error.IsDeadline ∧
          destroyed.reply.error.code = destroyed.reply.result) ∧
      ∀ after, blockingTurn callerPoll turn errors observed = .ok after →
        after.1.Foreign ∧ ¬after.2.IsDeadline := by
  obtain ⟨herrors, hrecord⟩ := contextDestroy_foreign h hturn.destroy
  obtain ⟨hconsumed, heq⟩ | ⟨reason, prior, -, heq⟩ :=
    blockingTurn_cases callerPoll turn errors observed
  · rw [heq]
    refine ⟨?_, by rintro after ⟨⟩⟩
    rintro destroyed ⟨⟩
    refine ⟨hconsumed, ?_⟩
    dsimp only
    split
    · exact DeferredError.publish_record hobserved
    · exact hrecord hconsumed
  · rw [heq]
    refine ⟨(by rintro destroyed ⟨⟩), ?_⟩
    rintro after ⟨⟩
    exact blockingPump_foreign herrors hobserved hturn (by rintro ⟨⟨⟩, -⟩)

/-- The ownership behind the loop of a blocking destroy. -/
theorem destroyLoop_retained_iff (herrors : errors.Foreign) (hobserved : ¬observed.IsDeadline)
    (rest : List BlockingTurn) (hturns : ∀ other ∈ turn :: rest, other.Foreign) :
    ((destroyLoop callerPoll turn errors observed rest).consumed = false ↔
        (destroyLoop callerPoll turn errors observed rest).reply.error.IsDeadline) ∧
      (destroyLoop callerPoll turn errors observed rest).reply.error.code =
        (destroyLoop callerPoll turn errors observed rest).reply.result := by
  have hended : ∀ {destroyed : Destroyed}, (destroyed.consumed = true ∧
      ¬destroyed.reply.error.IsDeadline ∧
        destroyed.reply.error.code = destroyed.reply.result) →
      (destroyed.consumed = false ↔ destroyed.reply.error.IsDeadline) ∧
        destroyed.reply.error.code = destroyed.reply.result := by
    rintro destroyed ⟨hconsumed, hforeign, hcode⟩
    rw [hconsumed]
    exact ⟨⟨(by rintro ⟨⟩), fun hdeadline => absurd hdeadline hforeign⟩, hcode⟩
  induction rest generalizing turn errors observed with
  | nil =>
    have hturn := hturns turn List.mem_cons_self
    rw [destroyLoop]
    cases hnext : blockingTurn callerPoll turn errors observed with
    | error destroyed =>
      exact hended ((blockingTurn_foreign herrors hobserved hturn).1 destroyed hnext)
    | ok after => exact ⟨⟨fun _ => ⟨rfl, rfl⟩, fun _ => rfl⟩, rfl⟩
  | cons next rest ih =>
    have hturn := hturns turn List.mem_cons_self
    rw [destroyLoop]
    cases hnext : blockingTurn callerPoll turn errors observed with
    | error destroyed =>
      exact hended ((blockingTurn_foreign herrors hobserved hturn).1 destroyed hnext)
    | ok after =>
      obtain ⟨hafter, hpending⟩ := (blockingTurn_foreign herrors hobserved hturn).2 after hnext
      exact ih hafter hpending fun other hmem => hturns other (List.mem_cons_of_mem turn hmem)

/-- **A blocking destroy keeps the Context exactly if it answers `AOAHID_ERR_TIMEOUT` with the field
`context.destroy`.** The mark is unambiguous as long as no error from elsewhere carries it. -/
theorem contextDestroyBlocking_retained_iff {timeoutMs : ℕ} {script : BlockingScript}
    (htimeout : timeoutMs ≠ 0) (herrors : errors.Foreign)
    (hscript : ∀ turn ∈ script.first :: script.rest, turn.Foreign) :
    ((contextDestroyBlocking callerPoll timeoutMs errors script).consumed = false ↔
        (contextDestroyBlocking callerPoll timeoutMs errors script).reply.error.IsDeadline) ∧
      (contextDestroyBlocking callerPoll timeoutMs errors script).reply.error.code =
        (contextDestroyBlocking callerPoll timeoutMs errors script).reply.result := by
  rw [contextDestroyBlocking, if_neg htimeout]
  exact destroyLoop_retained_iff herrors DeferredError.not_isDeadline_cleared script.rest hscript

/-- A turn that finds a graph in the graveyard, and nothing to pump. -/
def waitingTurn : BlockingTurn := { destroy := { graveyardEmpty := false } }

/-- The turn before: the Device is closed, and its graph goes to the graveyard. -/
def closingTurn : BlockingTurn := { destroy := { turns := [{}], graveyardEmpty := false } }

/-- Turns that bring no error at all. -/
theorem quietTurn_foreign {turn : BlockingTurn} (h : turn = waitingTurn ∨ turn = closingTurn ∨
    turn = {}) : turn.Foreign := by
  rcases h with rfl | rfl | rfl
  · exact ⟨⟨(by rintro turn ⟨⟩), by rintro event ⟨⟩⟩, (by rintro event ⟨⟩), by rintro error ⟨⟩⟩
  · refine ⟨⟨fun turn hmem => ?_, by rintro event ⟨⟩⟩, (by rintro event ⟨⟩), by rintro error ⟨⟩⟩
    obtain rfl : turn = {} := List.mem_singleton.mp hmem
    exact ⟨(by rintro ⟨⟨⟩, -⟩), by rintro event ⟨⟩⟩
  · exact ⟨⟨(by rintro turn ⟨⟩), by rintro event ⟨⟩⟩, (by rintro event ⟨⟩), by rintro error ⟨⟩⟩

/-- The close of a Device that timed out, as an earlier call has latched it. -/
def lateClose : DeferredError :=
  makeDeferredError { result := .errTimeout, aoaRequest := 55 } (some "device.close")
    (some "A Device teardown operation failed while destroying its Context.")

theorem lateClose_foreign : ¬lateClose.IsDeadline := by
  rintro ⟨-, hfield⟩
  exact absurd hfield (by decide)

/-- The errors of a Context with the late close. -/
def lateErrors : ContextErrors := ({} : ContextErrors).latch lateClose

theorem lateErrors_foreign : lateErrors.Foreign :=
  ⟨lateClose_foreign, DeferredError.not_isDeadline_cleared⟩

/-- A graph that does not drain before the deadline. -/
def keptScript : BlockingScript := { first := closingTurn, rest := [waitingTurn] }

/-- A graph that has drained two turns later. -/
def freedScript : BlockingScript := { first := closingTurn, rest := [waitingTurn, {}] }

/-- The Context is kept at the deadline, with the late close latched again; or it is freed, and the
answer has the same code with another field. -/
theorem contextDestroyBlocking_retained_iff_late :
    ((contextDestroyBlocking true 10 lateErrors keptScript).consumed = false ∧
      (contextDestroyBlocking true 10 lateErrors keptScript).errors.peek = some lateClose ∧
      ((contextDestroyBlocking true 10 lateErrors keptScript).consumed = false ↔
        (contextDestroyBlocking true 10 lateErrors keptScript).reply.error.IsDeadline) ∧
      (contextDestroyBlocking true 10 lateErrors keptScript).reply.error.code =
        (contextDestroyBlocking true 10 lateErrors keptScript).reply.result) ∧
    ((contextDestroyBlocking false 10 lateErrors freedScript).consumed = true ∧
      (contextDestroyBlocking false 10 lateErrors freedScript).reply.result = .errTimeout ∧
      ((contextDestroyBlocking false 10 lateErrors freedScript).consumed = false ↔
        (contextDestroyBlocking false 10 lateErrors freedScript).reply.error.IsDeadline) ∧
      (contextDestroyBlocking false 10 lateErrors freedScript).reply.error.code =
        (contextDestroyBlocking false 10 lateErrors freedScript).reply.result) := by
  have hkept : ∀ turn ∈ keptScript.first :: keptScript.rest, turn.Foreign := by
    intro turn hmem
    refine quietTurn_foreign ?_
    simp only [keptScript, List.mem_cons, List.not_mem_nil, or_false] at hmem
    tauto
  have hfreed : ∀ turn ∈ freedScript.first :: freedScript.rest, turn.Foreign := by
    intro turn hmem
    refine quietTurn_foreign ?_
    simp only [freedScript, List.mem_cons, List.not_mem_nil, or_false] at hmem
    tauto
  exact ⟨⟨rfl, rfl, contextDestroyBlocking_retained_iff (by decide) lateErrors_foreign hkept⟩,
    rfl, rfl, contextDestroyBlocking_retained_iff (by decide) lateErrors_foreign hfreed⟩

/-! ### What becomes of a failed poll -/

/-- The answers of the polls of the loop in caller-poll mode, in order. -/
def drainReplies (turn : BlockingTurn) (errors : ContextErrors) (observed : DeferredError) :
    List BlockingTurn → List Reply
  | [] =>
    match blockingTurn true turn errors observed with
    | .error _ => []
    | .ok _ => [drainReply turn (contextDestroy errors turn.destroy).errors]
  | next :: rest =>
    match blockingTurn true turn errors observed with
    | .error _ => []
    | .ok (after, observed) =>
      drainReply turn (contextDestroy errors turn.destroy).errors ::
        drainReplies next after observed rest

/-- An answer that is not `AOAHID_OK`. -/
def Reply.failed (reply : Reply) : Bool := reply.result ≠ .ok

theorem Reply.failed_iff {reply : Reply} : reply.failed = true ↔ reply.result ≠ .ok :=
  decide_eq_true_iff

/-- A failed answer whose record is complete. -/
def Reply.Recorded (reply : Reply) : Prop :=
  reply.error.code = reply.result ∧ ∃ field, reply.error.field = some field

theorem DeferredError.recorded_publish {error : DeferredError} (h : error.pending = true) :
    (publishDeferredError error).Recorded := by
  rw [publish_of_pending h]
  exact ⟨rfl, _, rfl⟩

theorem ContextErrors.recorded_preflight (h : errors.preflight.1.result ≠ .ok) :
    errors.preflight.1.Recorded := by
  rw [preflight] at h ⊢
  split at h
  · rename_i error hpeek
    exact DeferredError.recorded_publish (pending_of_peekTerminal hpeek)
  · have hpeek : errors.take.1 = errors.peek := take_fst
    cases htaken : errors.take with
    | mk error left =>
      rw [htaken] at h hpeek
      cases error with
      | none => exact absurd rfl h
      | some error => exact DeferredError.recorded_publish (pending_of_peek hpeek.symm)

theorem recorded_contextPoll {poll : ContextPollEnv}
    (h : (contextPoll true errors poll).1.result ≠ .ok) :
    (contextPoll true errors poll).1.Recorded := by
  have hpreflight := errors.recorded_preflight
  rw [contextPoll] at h ⊢
  cases hfirst : errors.preflight with
  | mk deferred left =>
    rw [hfirst] at h hpreflight
    by_cases hfailed : deferred.result ≠ .ok
    · simp only [Bool.not_true, Bool.false_eq_true, if_false, if_pos hfailed]
      exact hpreflight hfailed
    · simp only [Bool.not_true, Bool.false_eq_true, if_false, if_neg hfailed] at h ⊢
      cases hpoll : poll.poll with
      | none =>
        rw [hpoll] at h
        exact ContextErrors.recorded_preflight h
      | some error => exact ⟨rfl, _, rfl⟩

/-- An answer that is remembered and published is the answer. -/
theorem publish_current {reply : Reply} (h : reply.Recorded) (hfailed : reply.result ≠ .ok)
    (lastError : ErrorInfo) (field reason : String) :
    publishDeferredError (currentDeferredError reply.error lastError reply.result field reason) =
      reply := by
  obtain ⟨result, detail⟩ := reply
  obtain ⟨hcode, name, hname⟩ := h
  rw [DeferredError.publish_of_pending, currentDeferredError, if_pos hcode]
  · obtain ⟨code, field, reason, status, aoaRequest, hidId, reportId, offset, length⟩ := detail
    obtain rfl : code = result := hcode
    obtain rfl : field = some name := hname
    rfl
  · rw [DeferredError.pending_iff, DeferredError.current_result]
    exact hfailed

/-- An answer that is remembered at the deadline stays latched, or an older error does. -/
theorem destroyExpired_peek (hobserved : observed.pending = true) :
    (destroyExpired errors observed).errors.peek ≠ none := by
  intro hnone
  have hlatch : (destroyExpired errors observed).errors = errors.latch observed := if_pos hobserved
  rw [hlatch, ContextErrors.peek_latch hobserved] at hnone
  cases (Option.or_eq_none_iff.mp hnone).2

/-- Once an answer is remembered, the loop returns it when the Context is consumed, and leaves an
error in the Context when it is kept. -/
theorem destroyLoop_observed (hobserved : observed.pending = true) (rest : List BlockingTurn) :
    ((destroyLoop true turn errors observed rest).consumed = true →
        (destroyLoop true turn errors observed rest).reply = publishDeferredError observed) ∧
      ((destroyLoop true turn errors observed rest).consumed = false →
        (destroyLoop true turn errors observed rest).errors.peek ≠ none) := by
  have hkept : ∀ {detail : ErrorDetail} {turn : BlockingTurn} {errors : ContextErrors},
      (blockingPump true turn detail errors observed).2 = observed := by
    intro detail turn errors
    rw [blockingPump, if_pos rfl]
    exact if_neg fun h => absurd (hobserved.symm.trans h.2) (by rintro ⟨⟩)
  induction rest generalizing turn errors with
  | nil =>
    rw [destroyLoop]
    obtain ⟨hconsumed, heq⟩ | ⟨reason, prior, -, heq⟩ :=
      blockingTurn_cases true turn errors observed
    · rw [heq]
      dsimp only
      rw [if_pos hobserved, hconsumed]
      exact ⟨fun _ => rfl, by rintro ⟨⟩⟩
    · rw [heq]
      refine ⟨(by rintro ⟨⟩), fun _ => ?_⟩
      dsimp only
      rw [hkept]
      exact destroyExpired_peek hobserved
  | cons next rest ih =>
    rw [destroyLoop]
    obtain ⟨hconsumed, heq⟩ | ⟨reason, prior, -, heq⟩ :=
      blockingTurn_cases true turn errors observed
    · rw [heq]
      dsimp only
      rw [if_pos hobserved, hconsumed]
      exact ⟨fun _ => rfl, by rintro ⟨⟩⟩
    · rw [heq]
      dsimp only
      rw [hkept]
      exact ih

theorem destroyLoop_reports (hobserved : observed.pending = false) (rest : List BlockingTurn)
    {first : Reply}
    (hfirst : (drainReplies turn errors observed rest).find? Reply.failed = some first) :
    ((destroyLoop true turn errors observed rest).consumed = true →
        (destroyLoop true turn errors observed rest).reply = first) ∧
      ((destroyLoop true turn errors observed rest).consumed = false →
        (destroyLoop true turn errors observed rest).errors.peek ≠ none) := by
  -- The answer of the poll is remembered if it failed, and forgotten otherwise.
  have hpump : ∀ {detail : ErrorDetail} {turn : BlockingTurn} {errors : ContextErrors},
      ((drainReply turn errors).result ≠ .ok →
        (blockingPump true turn detail errors observed).2.pending = true ∧
          publishDeferredError (blockingPump true turn detail errors observed).2 =
            drainReply turn errors) ∧
      ((drainReply turn errors).result = .ok →
        (blockingPump true turn detail errors observed).2 = observed) := by
    intro detail turn errors
    rw [blockingPump, if_pos rfl]
    dsimp only
    refine ⟨fun hfailed => ?_, fun hok => if_neg fun h => h.1 hok⟩
    rw [if_pos ⟨hfailed, hobserved⟩]
    refine ⟨?_, publish_current (recorded_contextPoll hfailed) hfailed _ _ _⟩
    rw [DeferredError.pending_iff, DeferredError.current_result]
    exact hfailed
  induction rest generalizing turn errors with
  | nil =>
    rw [drainReplies] at hfirst
    rw [destroyLoop]
    obtain ⟨hconsumed, heq⟩ | ⟨reason, prior, -, heq⟩ :=
      blockingTurn_cases true turn errors observed
    · rw [heq] at hfirst
      cases hfirst
    · rw [heq] at hfirst ⊢
      dsimp only at hfirst
      have hfailed := Reply.failed_iff.mp (List.find?_some hfirst)
      rw [List.mem_singleton.mp (List.mem_of_find?_eq_some hfirst)] at hfailed
      refine ⟨(by rintro ⟨⟩), fun _ => ?_⟩
      dsimp only
      exact destroyExpired_peek (hpump.1 hfailed).1
  | cons next rest ih =>
    rw [drainReplies] at hfirst
    rw [destroyLoop]
    obtain ⟨hconsumed, heq⟩ | ⟨reason, prior, -, heq⟩ :=
      blockingTurn_cases true turn errors observed
    · rw [heq] at hfirst
      cases hfirst
    · rw [heq] at hfirst ⊢
      dsimp only at hfirst ⊢
      by_cases hok : (drainReply turn (contextDestroy errors turn.destroy).errors).result = .ok
      · rw [List.find?_cons_of_neg fun h => Reply.failed_iff.mp h hok, hpump.2 hok] at hfirst
        rw [hpump.2 hok]
        exact ih hfirst
      · rw [List.find?_cons_of_pos (Reply.failed_iff.mpr hok), Option.some_inj] at hfirst
        rw [← hfirst, ← (hpump.1 hok).2]
        exact destroyLoop_observed (hpump.1 hok).1 rest

/-- **No failed poll of a blocking destroy is lost.** The first one is the answer of the call when
the Context is consumed, word for word, and when it is kept an error stays latched in it. -/
theorem contextDestroyBlocking_reports {timeoutMs : ℕ} {script : BlockingScript} {first : Reply}
    (htimeout : timeoutMs ≠ 0)
    (hfirst : (drainReplies script.first errors .cleared script.rest).find? Reply.failed =
      some first) :
    ((contextDestroyBlocking true timeoutMs errors script).consumed = true →
        (contextDestroyBlocking true timeoutMs errors script).reply = first) ∧
      ((contextDestroyBlocking true timeoutMs errors script).consumed = false →
        (contextDestroyBlocking true timeoutMs errors script).errors.peek ≠ none) := by
  rw [contextDestroyBlocking, if_neg htimeout]
  exact destroyLoop_reports rfl script.rest hfirst

/-- A poll fails, and the graph has drained one turn later. -/
theorem contextDestroyBlocking_reports_drained : ∃ script first,
    (contextDestroyBlocking true 10 {} script).consumed = true ∧ first.result = .errNoDevice ∧
    ((contextDestroyBlocking true 10 {} script).consumed = true →
        (contextDestroyBlocking true 10 {} script).reply = first) ∧
      ((contextDestroyBlocking true 10 {} script).consumed = false →
        (contextDestroyBlocking true 10 {} script).errors.peek ≠ none) :=
  let failing : BlockingTurn := { waitingTurn with
    poll := { poll := some ⟨.errNoDevice, {}, (by decide)⟩ } }
  ⟨{ first := failing, rest := [{}] }, _, rfl, rfl,
    contextDestroyBlocking_reports (by decide) rfl⟩

end LibaoaHid

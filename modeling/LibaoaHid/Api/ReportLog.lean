import LibaoaHid.Api.Reachable

/-!
# Runs with their completed reports

A run without a close, together with the reports that complete in it, each with the profile state
that it was sent from. A guard on the calls and one on the completions say which runs are meant.

## Main definitions

* `Uncertain`: a completion that does not tell whether the report was applied.
* `AnyCall`, `AnyCompletion`: the guards that all meet.
* `Logged`: the guarded runs from a state.
* `System.Guards`: the events of a guarded run.

## Main results

* `Logged.fits`, `Logged.wire_eq`: what a run keeps, and what it adds to the wire.
* `exists_logged`, `exists_logged_of_guards`: runs of events.
-/

namespace LibaoaHid

open Relation

/-- A completion that does not tell whether the report was applied. -/
def Uncertain (result : Result) : Prop := result ≠ .ok ∧ result ≠ .errStall

instance (result : Result) : Decidable (Uncertain result) :=
  inferInstanceAs (Decidable (_ ∧ _))

/-- A completed report and the profile state that it was sent from. -/
structure Reported where
  state : NodeState
  sent : Transmission

/-- A guard that every call meets. -/
def AnyCall (_ : System) (_ : Call) : Prop := True

/-- A guard that every completion meets. -/
def AnyCompletion (_ : System) (_ : Result) : Prop := True

/-- **The guarded runs from a state**: profile calls, submits and completions, and the reports that
complete. -/
inductive Logged (called : System → Call → Prop) (completed : System → Result → Prop)
    (start : System) : List Reported → System → Prop
  | nil : Logged called completed start [] start
  | call {log : List Reported} {s : System} (h : Logged called completed start log s) (c : Call)
      (link : Link) (hguard : called s c) : Logged called completed start log (s.call c link).2
  | pause {log : List Reported} {s : System} {node : Node}
      (h : Logged called completed start log s) (hsame : s.node.Same node) :
      Logged called completed start log { s with node }
  | send {log : List Reported} {s : System} {now : ℤ} {report : List UInt8}
      (h : Logged called completed start log s) (hcallable : s.node.Callable)
      (hdirty : s.node.dirty = true) (hidle : s.inflight = none)
      (hcarries : s.node.spec.Carries (s.node.sent now).state report) :
      Logged called completed start log
        { s with node := s.node.sent now, inflight := some report }
  | finish {log : List Reported} {s : System} {report : List UInt8} {result : Result}
      {nativeStatus : ℤ} (h : Logged called completed start log s)
      (hinflight : s.inflight = some report) (hnative : 0 ≤ nativeStatus)
      (hguard : completed s result) :
      Logged called completed start (log ++ [⟨s.node.state, report, result⟩])
        { node := transferComplete s.node result nativeStatus
          wire := s.wire ++ [⟨report, result⟩]
          inflight := none }

namespace Logged

variable {called : System → Call → Prop} {completed : System → Result → Prop}
  {start s s' : System} {log : List Reported}

theorem fits (h : Logged called completed start log s) (hfits : start.Fits) :
    s.Fits ∧ s.node.spec = start.node.spec := by
  have hreport {s s' : System} (h : s.Fits ∧ s.node.spec = start.node.spec)
      (hmove : System.ReportMove s s') : s'.Fits ∧ s'.node.spec = start.node.spec :=
    ⟨hmove.fits h.1, hmove.spec_eq.trans h.2⟩
  induction h with
  | nil => exact ⟨hfits, rfl⟩
  | @call log s _ c link _ ih => exact ⟨ih.1.call c link, (perform_spec c link s.node).trans ih.2⟩
  | pause _ hsame ih => exact hreport ih (.pause hsame)
  | send _ hcallable hdirty hidle hcarries ih =>
    exact hreport ih (.send hcallable hdirty hidle hcarries)
  | finish _ hinflight hnative _ ih => exact hreport ih (.finish hinflight hnative)

/-- A run appends its reports to the wire. -/
theorem wire_eq (h : Logged called completed start log s) :
    s.wire = start.wire ++ log.map Reported.sent := by
  induction h with
  | nil => simp
  | call _ c link _ ih => exact ih
  | pause _ hsame ih => exact ih
  | send _ _ _ _ _ ih => exact ih
  | finish _ hinflight hnative _ ih =>
    rw [List.map_append, ← List.append_assoc, ← ih]
    rfl

/-- A run goes on with a report move that the guard admits. -/
theorem report (h : Logged called completed start log s) (hmove : System.ReportMove s s')
    (hguard : ∀ t, s'.wire = s.wire ++ [t] → completed s t.result) :
    ∃ log', Logged called completed start log' s' := by
  cases hmove with
  | pause hsame => exact ⟨_, h.pause hsame⟩
  | send hcallable hdirty hidle hcarries => exact ⟨_, h.send hcallable hdirty hidle hcarries⟩
  | finish hinflight hnative => exact ⟨_, h.finish hinflight hnative (hguard _ rfl)⟩

end Logged

/-- **Every run of events is one**, blocking submits included. -/
theorem exists_logged {start : System} (hfits : start.Fits) (events : List Event)
    (hopen : ∀ e ∈ events, e.isClose = false) :
    ∃ log, Logged AnyCall AnyCompletion start log (start.run events) := by
  refine (System.run_invariant (P := fun s => ∃ log, Logged AnyCall AnyCompletion start log s)
    ?_ ?_ events hopen hfits ⟨[], .nil⟩).2
  · rintro s - ⟨log, h⟩ c link
    exact ⟨log, h.call c link trivial⟩
  · rintro s s' - ⟨log, h⟩ hmove
    exact h.report hmove fun _ _ => trivial

/-! ### Guarded events -/

/-- The result with which an event completes a report. -/
def System.completedBy (s : System) : Event → Option Result
  | .complete status actualLength =>
    s.inflight.map fun report => completionResult status actualLength report.length
  | _ => none

/-- A call, a submit or a completion. -/
def Event.isPlain : Event → Bool
  | .submitBlocking _ | .close _ => false
  | _ => true

/-- Calls, submits and completions that all meet their guard. -/
def System.Guards (called : System → Call → Prop) (completed : System → Result → Prop) :
    System → List Event → Prop
  | _, [] => True
  | s, e :: events =>
    e.isPlain = true ∧ (∀ c link, e = .call c link → called s c) ∧
      (∀ result, s.completedBy e = some result → completed s result) ∧
      Guards called completed (s.step e) events

section Guarded

variable {called : System → Call → Prop} {completed : System → Result → Prop}

theorem exists_logged_of_guards {start s : System} (hfits : start.Fits) {log : List Reported}
    (h : Logged called completed start log s) {events : List Event}
    (hguards : s.Guards called completed events) :
    ∃ log', Logged called completed start log' (s.run events) := by
  induction events generalizing s log with
  | nil => exact ⟨log, h⟩
  | cons e events ih =>
    obtain ⟨hplain, hcall, hguard, hrest⟩ := hguards
    cases e with
    | call c link => exact ih (h.call c link (hcall c link rfl)) hrest
    | submit env =>
      have hmove := System.submit_move (h.fits hfits).1 env
      obtain ⟨log', h'⟩ := h.report hmove fun t hwire => absurd hwire (by simp [System.submit])
      exact ih h' hrest
    | complete status actualLength =>
      cases hinflight : s.inflight with
      | none =>
        have hsame : s.step (.complete status actualLength) = s := by
          rw [System.step, System.complete, hinflight]
        rw [System.run_cons, hsame]
        exact ih h (hsame ▸ hrest)
      | some report =>
        have hcompleted := h.finish hinflight status.nativeStatus_nonneg
          (hguard _ (by rw [System.completedBy, hinflight]; rfl))
        rw [System.run_cons, System.step, System.complete_eq hinflight]
        rw [System.step, System.complete_eq hinflight] at hrest
        exact ih hcompleted hrest
    | submitBlocking | close => cases hplain

/-- A submit or a completion. -/
def Event.isReport : Event → Bool
  | .submit _ | .complete _ _ => true
  | _ => false

/-- Submits and completions meet every guard of the calls. -/
theorem guards_of_reports {s : System} {events : List Event}
    (h : ∀ e ∈ events, e.isReport = true) : s.Guards called AnyCompletion events := by
  induction events generalizing s with
  | nil => trivial
  | cons e events ih =>
    have hreport := h e List.mem_cons_self
    refine ⟨?_, ?_, fun _ _ => trivial, ih fun e' he' => h e' (List.mem_cons_of_mem _ he')⟩
    · cases e <;> first | rfl | cases hreport
    · rintro c link rfl
      cases hreport

/-- A call, and then submits and completions. -/
theorem guards_of_call {s : System} {c : Call} {link : Link} {events : List Event}
    (hguard : called s c) (h : ∀ e ∈ events, e.isReport = true) :
    s.Guards called AnyCompletion (.call c link :: events) := by
  refine ⟨rfl, ?_, fun _ _ => trivial, guards_of_reports h⟩
  rintro _ _ ⟨⟩
  exact hguard

/-- Calls, submits and completions that are all certain. -/
def System.isCertain : System → List Event → Bool
  | _, [] => true
  | s, e :: events =>
    e.isPlain && (s.completedBy e).all (fun result => !decide (Uncertain result)) &&
      isCertain (s.step e) events

theorem guards_of_isCertain (hcall : ∀ s c, called s c)
    (hguard : ∀ s result, ¬Uncertain result → completed s result) {s : System}
    {events : List Event} (h : s.isCertain events = true) : s.Guards called completed events := by
  induction events generalizing s with
  | nil => trivial
  | cons e events ih =>
    rw [System.isCertain, Bool.and_eq_true, Bool.and_eq_true] at h
    obtain ⟨⟨hplain, hcertain⟩, hrest⟩ := h
    refine ⟨hplain, fun c _ _ => hcall s c, fun result hresult => hguard s result ?_, ih hrest⟩
    rw [hresult] at hcertain
    simpa using hcertain

end Guarded

end LibaoaHid

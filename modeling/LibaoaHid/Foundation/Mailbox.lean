import Mathlib.Algebra.Order.Ring.Int
import Mathlib.Data.List.Induction

/-!
# A mailbox with one place

A message stays in the mailbox if it finds it empty, and is dropped otherwise. A take empties it.

## Main definitions

* `Mailbox.Event`, `Mailbox.kept`: the messages of a history that found the mailbox empty.
* `Mailbox.Run`: a history with what was taken and what is left.

## Main results

* `Mailbox.Run.taken_append`: what was taken and what is left is what was kept, in order.
* `Mailbox.kept_sublist`.
-/

namespace Mailbox

variable {α : Type*}

/-- An offer or a take. -/
inductive Event (α : Type*)
  | offer (a : α)
  | take

/-- The message of an offer. -/
def Event.message : Event α → Option α
  | offer a => some a
  | take => none

/-- The mailbox is full behind a history that began with it full or empty. -/
def full : Bool → List (Event α) → Bool
  | isFull, [] => isFull
  | _, .offer _ :: events => full true events
  | _, .take :: events => full false events

/-- **The messages that found the mailbox empty.** -/
def kept : Bool → List (Event α) → List α
  | _, [] => []
  | true, .offer _ :: events => kept true events
  | false, .offer a :: events => a :: kept true events
  | _, .take :: events => kept false events

theorem full_append (isFull : Bool) (events more : List (Event α)) :
    full isFull (events ++ more) = full (full isFull events) more := by
  induction events generalizing isFull with
  | nil => rfl
  | cons event events ih => cases event <;> exact ih _

theorem kept_append (isFull : Bool) (events more : List (Event α)) :
    kept isFull (events ++ more) = kept isFull events ++ kept (full isFull events) more := by
  induction events generalizing isFull with
  | nil => rfl
  | cons event events ih =>
    cases event with
    | take => exact ih false
    | offer a =>
      cases isFull with
      | true => exact ih true
      | false => exact congrArg (a :: ·) (ih true)

/-- No message is kept twice, or out of its turn. -/
theorem kept_sublist (isFull : Bool) (events : List (Event α)) :
    (kept isFull events).Sublist (events.filterMap Event.message) := by
  induction events generalizing isFull with
  | nil => exact .slnil
  | cons event events ih =>
    cases event with
    | take => exact ih false
    | offer a =>
      cases isFull with
      | true => exact (ih true).cons a
      | false => exact (ih true).cons_cons a

/-- A history, the messages that were taken, and the one that is left. -/
inductive Run : List (Event α) → List α → Option α → Prop
  | empty : Run [] [] none
  | offer {events : List (Event α)} {taken : List α} {box : Option α} (h : Run events taken box)
      (a : α) : Run (events ++ [.offer a]) taken (box.or (some a))
  | take {events : List (Event α)} {taken : List α} {box : Option α} (h : Run events taken box) :
      Run (events ++ [.take]) (taken ++ box.toList) none

namespace Run

variable {events : List (Event α)} {taken : List α} {box : Option α}

theorem isSome_eq (h : Run events taken box) : box.isSome = full false events := by
  induction h with
  | empty => rfl
  | @offer events taken box h a ih =>
    rw [full_append]
    cases box <;> rfl
  | take h ih => rw [full_append]; rfl

/-- **What was taken and what is left is what was kept**, each message once and in order. -/
theorem taken_append (h : Run events taken box) : taken ++ box.toList = kept false events := by
  induction h with
  | empty => rfl
  | @offer events taken box h a ih =>
    rw [kept_append, ← h.isSome_eq, ← ih]
    cases box with
    | none =>
      rw [Option.toList_none, List.append_nil]
      rfl
    | some b =>
      rw [List.append_assoc]
      rfl
  | take h ih =>
    rw [kept_append, Option.toList_none, List.append_nil, ih, kept.eq_def]
    exact (List.append_nil _).symm

end Run

end Mailbox

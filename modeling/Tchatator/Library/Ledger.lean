/-
**Ledgers: what is added, and what is paid out.**

Events add entries, and some of them close the ledger: they pay out what has been added since the
last one that did.

* `pending` — what has been added since the ledger was closed last;
* `payments` — what each event of a list pays out;
* **`payments_pending`** — what is paid out, followed by what is pending, is what was added, in this
  order: nothing is lost, and nothing is paid twice.
-/

import Mathlib.Data.List.DropRight

namespace Ledger

variable {ε α : Type*} (closes : ε → Bool) (adds : ε → Option α)

/-- **What has been added** since the ledger was closed last. -/
def pending (events : List ε) : List α :=
  (events.rtakeWhile fun event => !closes event).filterMap adds

/-- What an event pays out, after others. -/
def payment (before : List ε) (event : ε) : List α :=
  if closes event then pending closes adds before else []

/-- What each event pays out, after others. -/
def payments (before : List ε) : List ε → List (List α)
  | [] => []
  | event :: later => payment closes adds before event :: payments (before ++ [event]) later

variable {closes adds}

@[simp]
theorem pending_nil : pending closes adds [] = [] := rfl

theorem pending_closed {before : List ε} {event : ε} (closed : closes event = true) :
    pending closes adds (before ++ [event]) = [] := by
  rw [pending, List.rtakeWhile_concat_neg _ _ _ (by simp [closed])]
  rfl

theorem pending_open {before : List ε} {event : ε} (isOpen : closes event = false) :
    pending closes adds (before ++ [event]) =
      pending closes adds before ++ (adds event).toList := by
  rw [pending, pending, List.rtakeWhile_concat_pos _ _ _ (by simp [isOpen]), List.filterMap_append]
  cases added : adds event <;> simp [added]

/-- **One event pays out, keeps or adds.** -/
theorem payment_pending (addsNothing : ∀ event, closes event = true → adds event = none)
    (before : List ε) (event : ε) :
    payment closes adds before event ++ pending closes adds (before ++ [event]) =
      pending closes adds before ++ (adds event).toList := by
  cases closed : closes event with
  | true =>
    rw [payment, if_pos closed, pending_closed closed, addsNothing event closed]
    rfl
  | false =>
    rw [payment, if_neg (Bool.eq_false_iff.mp closed), pending_open closed]
    rfl

/-- **Nothing is lost, and nothing is paid twice.** -/
theorem payments_pending (addsNothing : ∀ event, closes event = true → adds event = none)
    (before events : List ε) :
    (payments closes adds before events).flatten ++ pending closes adds (before ++ events) =
      pending closes adds before ++ events.filterMap adds := by
  induction events generalizing before with
  | nil => simp [payments]
  | cons event later ih =>
    have here := payment_pending addsNothing before event
    have rest := ih (before ++ [event])
    rw [List.append_assoc, List.singleton_append] at rest
    rw [payments, List.flatten_cons, List.append_assoc, rest, ← List.append_assoc, here,
      List.append_assoc]
    cases added : adds event <;> simp [added]

end Ledger

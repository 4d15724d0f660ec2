/-
**A writer that fails over.**

Lines are written to a handle that is still to be opened. Each line makes an attempt, until one
succeeds; the lines before go to a fallback. Asides go to the fallback whatever is open.

* `effects` — what the writer does, entry after entry;
* `effects_asides` — asides change nothing of what is open;
* **`effects_none`** — all entries before the first attempt that succeeds go to the fallback; this
  attempt opens the handle, and all lines from this one on go to it.
-/

import Mathlib.Data.List.Basic

namespace Failover

/-- What is to be written. -/
inductive Entry (η α : Type*)
  /-- A line, with the handle that an attempt to open one would get. -/
  | line (attempt : Option η) (text : α)
  | aside (text : α)

/-- What a writer does. -/
inductive Effect (η α : Type*)
  | fallback (text : α)
  | opened (handle : η)
  | primary (handle : η) (text : α)

variable {η α : Type*}

namespace Entry

def attempt : Entry η α → Option η
  | .line attempt _ => attempt
  | .aside _ => none

def text : Entry η α → α
  | .line _ text => text
  | .aside text => text

/-- What becomes of an entry when the handle is open. -/
def onceOpen (handle : η) : Entry η α → Effect η α
  | .line _ text => .primary handle text
  | .aside text => .fallback text

end Entry

/-- **What the writer does**, from a handle that has been opened or not. -/
def effects : Option η → List (Entry η α) → List (Effect η α)
  | _, [] => []
  | some handle, entry :: entries => entry.onceOpen handle :: effects (some handle) entries
  | none, .aside text :: entries => .fallback text :: effects none entries
  | none, .line none text :: entries => .fallback text :: effects none entries
  | none, .line (some handle) text :: entries =>
      .opened handle :: .primary handle text :: effects (some handle) entries

/-- Entry after entry. -/
theorem effects_cons (state : Option η) (entry : Entry η α) (entries : List (Entry η α)) :
    effects state (entry :: entries) =
      effects state [entry] ++ effects (state.or entry.attempt) entries := by
  cases state with
  | some handle => rfl
  | none =>
    cases entry with
    | aside text => rfl
    | line attempt text => cases attempt <;> rfl

/-- **Asides go to the fallback**, and what is open stays open. -/
theorem effects_asides (state : Option η) (texts : List α) (entries : List (Entry η α)) :
    effects state (texts.map Entry.aside ++ entries) =
      texts.map Effect.fallback ++ effects state entries := by
  induction texts with
  | nil => rfl
  | cons text texts ih =>
    have here : effects state [Entry.aside text] = [.fallback text] := by
      cases state <;> rfl
    rw [List.map_cons, List.cons_append, effects_cons, here]
    show Effect.fallback text :: effects (state.or none) _ = _
    rw [Option.or_none, ih]
    rfl

/-- Asides open nothing. -/
theorem attempt_asides (texts : List α) (entries : List (Entry η α)) :
    (texts.map Entry.aside ++ entries).findSome? Entry.attempt =
      entries.findSome? Entry.attempt := by
  induction texts with
  | nil => rfl
  | cons text texts ih => exact ih

theorem effects_some (handle : η) (entries : List (Entry η α)) :
    effects (some handle) entries = entries.map (Entry.onceOpen handle) := by
  induction entries with
  | nil => rfl
  | cons entry entries ih =>
    unfold effects
    rw [ih]
    rfl

/-- **All entries before the first attempt that succeeds go to the fallback, and all lines from this
one on to what it opens.** -/
theorem effects_none (entries : List (Entry η α)) :
    effects none entries =
      (entries.takeWhile fun entry => entry.attempt.isNone).map (fun entry => .fallback entry.text) ++
        (entries.findSome? Entry.attempt).elim [] fun handle => .opened handle ::
          (entries.dropWhile fun entry => entry.attempt.isNone).map (Entry.onceOpen handle) := by
  induction entries with
  | nil => rfl
  | cons entry entries ih =>
    cases entry with
    | aside text =>
      unfold effects
      rw [ih]
      rfl
    | line attempt text =>
      cases attempt with
      | none =>
        unfold effects
        rw [ih]
        rfl
      | some handle =>
        unfold effects
        rw [effects_some]
        rfl

end Failover

/-
**Runs of requests** (`tchatator413_interpret`).

* `Handles` — one action is parsed and evaluated: the step relation of the server on its database;
* **`runRequests_run`** — the exchanges of a run of requests are a `Run` of `Handles`: no exchange
  starts anywhere but where the previous one ended, whether its request was an array, an object or
  neither, and whether or not the server was stopped on the way;
* `exchange_of_run` — each of them is an `exchange` of an action that was parsed at that moment.
-/

import Tchatator.Library.Run
import Tchatator.Model.Facade

namespace Tchatator

/-- The server handles one action. -/
def Handles (host : Host) (cfg : Cfg) (before : World) (handled : Exchange) (after : World) :
    Prop :=
  (∃ moment joAction, handled = (act host cfg moment before joAction).2) ∧ after = handled.after

section

variable (host : Host) (cfg : Cfg)

theorem handles_act (moment : Moment) (world : World) (joAction : Json) :
    Handles host cfg world (act host cfg moment world joAction).2
      (act host cfg moment world joAction).2.after :=
  ⟨⟨moment, joAction, rfl⟩, rfl⟩

/-- The elements of an array are handled one after the other. -/
theorem interpretElements_run (elements : List Json) (moments : Nat → Moment) (world : World)
    (output : List Json) :
    Run (Handles host cfg) world
      (interpretElements host cfg elements moments world output).exchanges
      (interpretElements host cfg elements moments world output).world := by
  fun_induction interpretElements host cfg elements moments world output with
  | case1 _ world _ => exact .done world
  | case2 _ _ world _ => exact .done world
  | case3 joAction _ moments world _ _ fault exchanged acted =>
    have handled := handles_act host cfg (moments 0) world joAction
    rw [acted] at handled
    exact .single handled
  | case4 joAction _ moments world _ _ jo exchanged acted _ ih =>
    have handled := handles_act host cfg (moments 0) world joAction
    rw [acted] at handled
    exact .more handled ih

/-- One request is a run. -/
theorem tchatator413Interpret_run (moments : Nat → Moment) (world : World) (joInput : Json) :
    Run (Handles host cfg) world
      (tchatator413Interpret host cfg moments world joInput).exchanges
      (tchatator413Interpret host cfg moments world joInput).world := by
  cases joInput with
  | array elements => exact interpretElements_run host cfg elements moments world []
  | object members => exact .single (handles_act host cfg (moments 0) world (.object members))
  | _ => exact .done world

/-- **A sequence of requests is a run.** -/
theorem runRequests_run (world : World) (requests : List Request) :
    Run (Handles host cfg) world (runRequests host cfg world requests).1
      (runRequests host cfg world requests).2 := by
  induction requests generalizing world with
  | nil => exact .done world
  | cons request requests ih =>
    exact (tchatator413Interpret_run host cfg request.moments world request.input).append (ih _)

variable {host cfg}

/-- **Every exchange of a run** is the evaluation of an action parsed at its moment. -/
theorem exchange_of_run {world : World} {requests : List Request} {handled : Exchange}
    (member : handled ∈ (runRequests host cfg world requests).1) :
    handled = exchange host cfg handled.moment handled.before handled.action ∧
      ∃ joAction, handled.action = actionParse handled.moment handled.before.db joAction := by
  obtain ⟨before, _, ⟨moment, joAction, rfl⟩, _⟩ :=
    (runRequests_run host cfg world requests).step_of_mem member
  exact ⟨rfl, joAction, rfl⟩

end

end Tchatator

/-
**Interpreting a request** (`tchatator413.c`).

`act` handles one action; `tchatator413_interpret` handles the elements of an array in order, each
in the database the previous ones left. An `Exchange` is what the callbacks `on_action` and
`on_response` see of one action, with the database before and after: the exchanges of a run of
requests are the run, as far as the database is concerned.
-/

import Tchatator.Model.ActionJson
import Tchatator.Model.ActionParse

namespace Tchatator

/-- One handled action. -/
structure Exchange where
  moment : Moment
  before : World
  action : Action
  response : Except Fault Response
  after : World

/-- An action evaluated in a database. -/
def exchange (host : Host) (cfg : Cfg) (moment : Moment) (world : World) (action : Action) :
    Exchange :=
  { moment := moment
    before := world
    action := action
    response := (actionEvaluate host cfg moment world action).1
    after := (actionEvaluate host cfg moment world action).2 }

/-- `act`: parse, evaluate, encode. -/
def act (host : Host) (cfg : Cfg) (moment : Moment) (world : World) (joAction : Json) :
    Except Fault Json × Exchange :=
  let action := actionParse moment world.db joAction
  let exchanged := exchange host cfg moment world action
  (exchanged.response.bind (responseToJson host), exchanged)

/-- What `tchatator413_interpret` leaves: its result, or a stopped process; the actions it
handled; the database. -/
structure Interpretation where
  output : Except Fault Json
  exchanges : List Exchange
  world : World

/-- The loop over the elements of an array; `output` is what has been added to the result. -/
def interpretElements (host : Host) (cfg : Cfg) :
    List Json → (Nat → Moment) → World → List Json → Interpretation
  | [], _, world, output => ⟨.ok (.array output), [], world⟩
  | .null :: _, _, world, _ => ⟨.error .assertion, [], world⟩
  | joAction :: rest, moments, world, output =>
      match act host cfg (moments 0) world joAction with
      | (.error fault, exchanged) => ⟨.error fault, [exchanged], exchanged.after⟩
      | (.ok jo, exchanged) =>
          let later := interpretElements host cfg rest (fun index => moments (index + 1))
            exchanged.after (output ++ [jo])
          { later with exchanges := exchanged :: later.exchanges }

/-- The response to a request that is neither an array nor an object. -/
def notARequest (joInput : Json) : Response :=
  { type := .error
    hasNextPage := false
    body := .error ⟨.type, .type (lit "request") joInput .object⟩ }

/-- `tchatator413_interpret`. The actions of the request are handled at the given moments. -/
def tchatator413Interpret (host : Host) (cfg : Cfg) (moments : Nat → Moment) (world : World)
    (joInput : Json) : Interpretation :=
  match joInput with
  | .array elements => interpretElements host cfg elements moments world []
  | .object members =>
      let (output, exchanged) := act host cfg (moments 0) world (.object members)
      ⟨output.map fun jo => .array [jo], [exchanged], exchanged.after⟩
  | _ => ⟨(responseToJson host (notARequest joInput)).map fun jo => .array [jo], [], world⟩

/-- A request and the moments at which its actions are handled. -/
structure Request where
  moments : Nat → Moment
  input : Json

/-- **A run of requests**: every handled action, in order, and the database at the end. A server
that was stopped starts again on the same database. -/
def runRequests (host : Host) (cfg : Cfg) : World → List Request → List Exchange × World
  | world, [] => ([], world)
  | world, request :: requests =>
      let here := tchatator413Interpret host cfg request.moments world request.input
      let (exchanges, last) := runRequests host cfg here.world requests
      (here.exchanges ++ exchanges, last)

end Tchatator

/-
**A session of the client** (`client.c`).

`gs_state` is kept over the turns of the menu. A turn that sends a request connects to the server,
which handles it between the requests of others, and reads the answer to the end of the connection.
What travels is text: json-c makes of a whole text the value it was printed from, and nothing of a
part of one. What is printed on the terminal is left out.

`json_object_array_get_idx` and `json_object_array_length` assert that they are given an array.
-/

import Tchatator.Model.Client
import Tchatator.Model.Facade

namespace Tchatator

/-- `gs_state.tag`. -/
inductive ClientTag
  | unconnected
  | connected
deriving DecidableEq

/-- `gs_state`. The name of the user is never set. -/
structure ClientState where
  tag : ClientTag
  token : Int
deriving DecidableEq

/-- `gs_state`, as it is initialised. -/
def ClientState.start : ClientState := { tag := .unconnected, token := 0 }

/-- `json_object_get_int64`, which makes a number of any value. -/
structure Int64Reader where
  getInt64 : Json → Int

/-! ### Answers -/

/-- `send_request`, on the value that has been read of the connection: the body of the first answer,
null where there is none. -/
def clientSendRequest (rep : Json) : Except Fault Json :=
  match rep with
  | .array elements =>
      let reponse := elements[0]?.getD .null
      -- without a body, it makes no difference whether there is an error
      .ok ((jsonObjectObjectGetEx reponse (clit "body")).getD .null)
  | _ => .error .assertion

/-- The loop over a body, which is read as an array of messages. -/
def readMessages (state : ClientState) (body : Json) : Except Fault ClientState :=
  match body with
  | .null => .ok state
  | .array _ => .ok state
  | _ => .error .assertion

/-- What a turn of the menu makes of the answer. -/
def clientTurn (reader : Int64Reader) (state : ClientState) (choix : Int) (rep : Json) :
    Except Fault ClientState := do
  let body ← clientSendRequest rep
  match choix, body with
  | 1, .null => .ok state
  | 1, body =>
      let token := (jsonObjectObjectGetEx body (clit "token")).getD .null
      .ok { tag := .connected, token := reader.getInt64 token }
  | 2, .null => .ok state
  | 2, _ => .ok { state with tag := .unconnected }
  | 6, body => readMessages state body
  | 7, body => readMessages state body
  | 8, body => readMessages state body
  | _, _ => .ok state

/-! ### Sessions -/

/-- What happens in a session. -/
inductive SessionEvent
  /-- A turn of the menu. -/
  | menu (choix : Int) (typed : Typed)
  /-- The server handles an action of somebody else. -/
  | other (handled : Exchange)

/-- The client and the database; `none` once the client has exited. -/
abbrev Session := Option ClientState × World

/-- A text that has been printed is read back, or a part of it, which is nothing. -/
def Arrives (printed read : Json) : Prop := read = printed ∨ read = .null

/-- The client after a turn. -/
def afterTurn (reader : Int64Reader) (state : ClientState) (choix : Int) (rep : Json) :
    Option ClientState :=
  match clientTurn reader state choix rep with
  | .error _ => none
  | .ok next => some next

/-- **One thing happens** in a session. -/
inductive SessionStep (reader : Int64Reader) (host : Host) (cfg : Cfg) :
    Session → SessionEvent → Session → Prop
  /-- An entry that sends nothing. -/
  | nothing {state : ClientState} {world : World} {choix : Int} {typed : Typed} :
      menuRequest state.token typed choix = none → choix ≠ 13 →
      SessionStep reader host cfg (some state, world) (.menu choix typed) (some state, world)
  /-- "Au revoir". -/
  | leaves {state : ClientState} {world : World} {typed : Typed} :
      SessionStep reader host cfg (some state, world) (.menu 13 typed) (none, world)
  /-- The server is not reached. -/
  | unreached {state : ClientState} {world : World} {choix : Int} {typed : Typed} {jo : Json} :
      menuRequest state.token typed choix = some jo →
      SessionStep reader host cfg (some state, world) (.menu choix typed) (none, world)
  | answered {state : ClientState} {world : World} {choix : Int} {typed : Typed}
      {moments : Nat → Moment} {jo heard answer rep : Json} :
      menuRequest state.token typed choix = some jo → Arrives jo heard →
      (tchatator413Interpret host cfg moments world heard).output = .ok answer →
      Arrives answer rep →
      SessionStep reader host cfg (some state, world) (.menu choix typed)
        (afterTurn reader state choix rep, (tchatator413Interpret host cfg moments world heard).world)
  /-- The request stops the server. -/
  | unanswered {state : ClientState} {world : World} {choix : Int} {typed : Typed}
      {moments : Nat → Moment} {jo heard : Json} {fault : Fault} :
      menuRequest state.token typed choix = some jo → Arrives jo heard →
      (tchatator413Interpret host cfg moments world heard).output = .error fault →
      SessionStep reader host cfg (some state, world) (.menu choix typed)
        (afterTurn reader state choix .null, (tchatator413Interpret host cfg moments world heard).world)
  /-- The turnstile blocks. -/
  | refused {state : ClientState} {world : World} {choix : Int} {typed : Typed}
      {nextRequestAt : Int} {jo answer rep : Json} :
      menuRequest state.token typed choix = some jo →
      responseToJson host (responseForRateLimit nextRequestAt) = .ok answer → Arrives answer rep →
      SessionStep reader host cfg (some state, world) (.menu choix typed)
        (afterTurn reader state choix rep, world)
  | other {client : Option ClientState} {world : World} {moment : Moment} {joAction : Json} :
      SessionStep reader host cfg (client, world) (.other (act host cfg moment world joAction).2)
        (client, (act host cfg moment world joAction).2.after)

end Tchatator

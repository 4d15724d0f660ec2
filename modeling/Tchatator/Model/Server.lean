/-
**The server process** (`tchatator413_run_socket`, `close_sock`).

The accept loop, one statement after the other, of `tchatator413_run_socket` called with a
configuration and a connection that are alive: `main` destroys both before it calls it. A `Point` is
where the process stands, and `step` is what it does by itself from there. A client connects while the
process is blocked in `accept`; what the system calls made on the client's socket return is up to the
`Peer`. A signal may come at any point, and `close_sock` runs to its end there.

`accept` fails in two ways: with `EINTR` when it is interrupted, which presumes handlers installed
without `SA_RESTART`, and with `EBADF` when its descriptor is closed or `-1`.
-/

import Tchatator.Model.Socket
import Tchatator.Model.Turnstile

namespace Tchatator

/-- A client that connects, and what the system calls made on its socket return. -/
structure Peer where
  connection : Connection
  /-- The segments that arrive, or `none` when `read` returns `-1`. -/
  reads : Option (List Bytes)
  /-- The bytes each `write` takes, or `none` when it returns `-1`. -/
  accepts : Nat → Option Nat
  /-- When the actions of the request are handled. -/
  moments : Nat → Moment

/-- `errno`, after `accept`. -/
inductive Errno
  | eintr
  | ebadf
deriving DecidableEq

/-- Where the process stands in the loop. -/
inductive Point
  /-- The top of the loop. -/
  | waiting
  /-- `gs_sock` has been evaluated, and `accept` is called. -/
  | calling (sock : Option Nat)
  /-- In `accept`. -/
  | blocked
  /-- `accept` has returned `-1`. -/
  | failed (errno : Errno)
  /-- `EINTR == errno` has been tested. -/
  | interrupted
  /-- `accept` has returned a connection. -/
  | limiting (peer : Peer)
  /-- In `interpret_request`. -/
  | reading (peer : Peer)
  | interpreting (peer : Peer) (joInput : Json)
  /-- The turnstile blocks. -/
  | refusing (peer : Peer) (nextRequestAt : Int)
  /-- In the loop of `json_object_write`, before its `index`th `write`. -/
  | answering (peer : Peer) (index : Nat) (output : Bytes)
  | closing
  /-- After the loop. -/
  | left
  /-- `return EX_OK`. -/
  | returned
  /-- `errno_exit("accept")`. -/
  | acceptExit
  /-- The process has ended while it served a client. -/
  | stopped (fault : Fault)

/-- The process. -/
structure ServerState where
  /-- `gs_sock`; `none` is `-1`. -/
  gsSock : Option Nat
  /-- The listening socket is open. -/
  listening : Bool
  /-- The connections that have been accepted and not closed. -/
  connections : List Connection
  turnstile : Turnstile
  world : World
  point : Point

/-- The process at the top of the loop, for the first time. -/
def ServerState.start (sock : Nat) (world : World) : ServerState :=
  { gsSock := some sock
    listening := true
    connections := []
    turnstile := .null
    world := world
    point := .waiting }

/-! ### What happens to the process -/

namespace ServerState

/-- `close_sock`. -/
def closeSock (state : ServerState) : ServerState :=
  match state.gsSock with
  | none => state
  | some _ => { state with gsSock := none, listening := false }

/-- `accept` is interrupted, if the process is in it. -/
def interrupt (state : ServerState) : ServerState :=
  match state.point with
  | .blocked => { state with point := .failed .eintr }
  | _ => state

/-- `SIGINT` or `SIGTERM` is delivered. -/
def signal (state : ServerState) : ServerState := state.closeSock.interrupt

/-- `accept` returns a connection. -/
def connect (state : ServerState) (peer : Peer) : ServerState :=
  { state with
    connections := peer.connection :: state.connections
    point := .limiting peer }

end ServerState

/-- `hmfree`. -/
def hmfree (turnstile : Turnstile) : Turnstile := { turnstile with pointer := none }

/-! ### What the process does -/

/-- What `json_object_write` is about to write. -/
def outputOf (host : Host) (jo : Json) : Bytes := (host.json.minJson jo).1 ++ [0]

/-- Where an answer, or the fault that stopped it, leads. -/
def answerPoint (host : Host) (peer : Peer) : Except Fault Json → Point
  | .error fault => .stopped fault
  | .ok jo => .answering peer 0 (outputOf host jo)

section

variable (tokener : Tokener) (host : Host) (cfg : Cfg) (allocator : Allocator)

/-- **The next statement of the loop**; `none` in `accept`, and when the process has ended. -/
def ServerState.step (state : ServerState) : Option ServerState :=
  match state.point with
  | .waiting => some { state with point := .calling state.gsSock }
  | .calling sock =>
      if sock ≠ none ∧ state.listening = true then some { state with point := .blocked }
      else some { state with point := .failed .ebadf }
  | .blocked => none
  | .failed .eintr => some { state with point := .interrupted }
  | .failed .ebadf => some { state with point := .acceptExit }
  | .interrupted =>
      if state.gsSock = none then some { state with point := .left }
      else some { state with point := .waiting }
  | .limiting peer =>
      let (nextRequestAt, callee) :=
        turnstileRateLimit cfg allocator peer.connection.time state.turnstile peer.connection.inAddr
      some { state with
        turnstile := { state.turnstile with heap := callee.heap }
        point := if nextRequestAt = 0 then .reading peer else .refusing peer nextRequestAt }
  | .reading peer =>
      some { state with
        point := .interpreting peer (receivedJson tokener (peer.reads.getD [])) }
  | .interpreting peer joInput =>
      let interpreted := tchatator413Interpret host cfg peer.moments state.world joInput
      some { state with
        world := interpreted.world
        point := answerPoint host peer interpreted.output }
  | .refusing peer nextRequestAt =>
      some { state with
        point := answerPoint host peer (responseToJson host (responseForRateLimit nextRequestAt)) }
  | .answering peer index output =>
      match peer.accepts index with
      | none => some { state with point := .stopped .errnoExit }
      | some accepted =>
          let bytesWritten := max 1 (min accepted output.length)
          if output.length ≤ bytesWritten then some { state with point := .closing }
          else some { state with point := .answering peer (index + 1) (output.drop bytesWritten) }
  | .closing =>
      some { state with connections := state.connections.tail, point := .waiting }
  | .left => some { state with turnstile := hmfree state.turnstile, point := .returned }
  | .returned => none
  | .acceptExit => none
  | .stopped _ => none

/-! ### Runs -/

/-- What can happen. -/
inductive Event
  | own
  | connect (peer : Peer)
  /-- Another signal interrupts `accept`. -/
  | interrupt
  /-- `SIGINT` or `SIGTERM`. -/
  | signal

/-- **One thing happens**: a statement of the loop, or anything from outside. -/
inductive Happens : ServerState → Event → ServerState → Prop
  | own {state next : ServerState} :
      state.step tokener host cfg allocator = some next → Happens state .own next
  | connect (state : ServerState) (peer : Peer) :
      state.point = .blocked → Happens state (.connect peer) (state.connect peer)
  | interrupt (state : ServerState) : Happens state .interrupt state.interrupt
  | signal (state : ServerState) : Happens state .signal state.signal

end

end Tchatator

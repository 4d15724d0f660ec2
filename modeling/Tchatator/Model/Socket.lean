/-
**One connection** (`tchatator413-server.c`).

`interpret_request` reads the request, parses it and interprets it; `json_object_write` sends the
answer. The connection delivers the request in segments, and a `read` returns no more than the
first. The bytes that a `write` takes are given by `accepts`: at least one of those offered, or
`none` for an error.
-/

import Tchatator.Library.Stream
import Tchatator.Model.Facade

namespace Tchatator

/-- `json_tokener_parse`, a function of the buffer. -/
structure Tokener where
  parse : CString → Json
  /-- The buffer starts with a whole JSON text. -/
  Complete : CString → Prop
  parse_incomplete : ∀ buffer, ¬ Complete buffer → parse buffer = .null

/-- `BUFSIZ`. -/
def bufsiz : Nat := 8192

/-! ### The request -/

/-- `buf`, after the read: it holds zeros where nothing was read. -/
def requestBuffer (segments : List Bytes) : CString :=
  cstring (readSegments (bufsiz - 1) segments)

/-- `jo_input`. -/
def receivedJson (tokener : Tokener) (segments : List Bytes) : Json :=
  tokener.parse (requestBuffer segments)

/-- `interpret_request`, up to the answer. -/
def interpretRequest (tokener : Tokener) (host : Host) (cfg : Cfg) (moments : Nat → Moment)
    (world : World) (segments : List Bytes) : Interpretation :=
  tchatator413Interpret host cfg moments world (receivedJson tokener segments)

/-! ### The answer -/

/-- The loop of `json_object_write`: the segments written, until nothing remains. -/
def writeRemaining (accepts : Nat → Option Nat) (output : Bytes) : Except Fault (List Bytes) :=
  if output = [] then .ok []
  else
    match accepts 0 with
    | none => .error .errnoExit
    | some accepted =>
        let bytesWritten := max 1 (min accepted output.length)
        (writeRemaining (fun index => accepts (index + 1)) (output.drop bytesWritten)).map
          (output.take bytesWritten :: ·)
termination_by output.length
decreasing_by
  have hasOutput : output.length ≠ 0 := by rwa [ne_eq, List.length_eq_zero_iff]
  rw [List.length_drop]
  omega

/-- `json_object_write`: the terminator is sent with the text. -/
def jsonObjectWrite (host : Host) (accepts : Nat → Option Nat) (jo : Json) :
    Except Fault (List Bytes) :=
  writeRemaining accepts ((host.json.minJson jo).1 ++ [0])

end Tchatator

/-
**The interactive mode** (`tchatator413_run_interactive`).

One request is read from the argument that follows the options, or from the standard input where
there is none; it is interpreted, and the result is printed on a line. `json_object_from_fd` reads its
stream to the end, and makes a value of the bytes: what it makes of them is given.
-/

import Tchatator.Model.Memlst
import Tchatator.Model.Socket

namespace Tchatator

/-- Where the request is read. -/
inductive RequestSource
  /-- `argv[optind]`. -/
  | argument (text : CString)
  | standardInput (bytes : Bytes)

/-- The parsers of json-c. -/
structure Parsers where
  tokener : Tokener
  /-- `json_object_from_fd`. -/
  fromFd : Bytes → Json

/-- The exit statuses of the interactive mode. -/
inductive InteractiveStatus
  /-- `EX_OK`. -/
  | ok
  /-- `EX_DATAERR`. -/
  | dataErr
deriving DecidableEq

/-- The values the memory list of the interactive mode holds. -/
inductive InteractiveValue
  | joInput
  | joOutput
deriving DecidableEq

/-- What a run of the interactive mode does. -/
structure Interaction where
  /-- What is printed on the standard output. -/
  printed : Bytes
  ends : Except Fault InteractiveStatus
  /-- The values that are released, in order; the only destructor is `json_object_put`. -/
  released : List InteractiveValue
  exchanges : List Exchange
  world : World

/-- `jo_input`. -/
def interactiveInput (parsers : Parsers) : RequestSource → Json
  | .argument text => parsers.tokener.parse text
  | .standardInput bytes => parsers.fromFd bytes

/-- `puts(min_json(jo))`. -/
def putsJson (host : Host) (jo : Json) : Bytes := (host.json.minJson jo).1 ++ lit "\n"

/-- The values that `CLEAN_RETURN` releases. -/
def cleanValues (mem : Memlst InteractiveValue Unit) : List InteractiveValue :=
  (memlstDestroy mem).1.filterMap MemlstEntry.ptr

/-- A run of the interactive mode: its request, and when the actions are handled. -/
structure InteractiveRequest where
  source : RequestSource
  moments : Nat → Moment

section

variable (parsers : Parsers) (host : Host) (cfg : Cfg)

/-- `tchatator413_run_interactive`. -/
def runInteractive (world : World) (request : InteractiveRequest) : Interaction :=
  let joInput := interactiveInput parsers request.source
  -- `memlst_add` returns the pointer it is given, and does not add a null one
  match memlstAdd memlstInit () (if jsonObjectGetType joInput = .null then none else some .joInput) with
  | .error fault => ⟨[], .error fault, [], [], world⟩
  | .ok (none, mem) => ⟨[], .ok .dataErr, cleanValues mem, [], world⟩
  | .ok (some _, mem) =>
      let interpreted := tchatator413Interpret host cfg request.moments world joInput
      match interpreted.output with
      | .error fault => ⟨[], .error fault, [], interpreted.exchanges, interpreted.world⟩
      | .ok joOutput =>
          match memlstAdd mem () (some .joOutput) with
          | .error fault => ⟨[], .error fault, [], interpreted.exchanges, interpreted.world⟩
          | .ok (_, mem) =>
              ⟨putsJson host joOutput, .ok .ok, cleanValues mem, interpreted.exchanges,
                interpreted.world⟩

/-- **One run after another**, on the same database. -/
def runInteractives : World → List InteractiveRequest → List Interaction × World
  | world, [] => ([], world)
  | world, request :: requests =>
      let here := runInteractive parsers host cfg world request
      let (later, last) := runInteractives here.world requests
      (here :: later, last)

end

end Tchatator

/-
**The two front ends agree** (`tchatator413_run_interactive`, `tchatator413_run_socket`).

* `runInteractive_null`, `runInteractive_request` — what the interactive mode does without and with a
  request, and what it releases;
* `Peer.asked` — the run of the interactive mode on what the server has read of a client;
* `SameAnswer` — if there is a JSON value, what a client is sent is what a run prints, but for the last
  byte; if there is none, the run prints nothing, and the client is sent an error;
* `served_interactively` — clients that are served one after another are the runs of the interactive
  mode on what has been read of them;
* **`frontEnds_agree`** — so whatever has happened to the server, the interactive mode could have taken
  its place: the same answers to all JSON values, and the same database in the end.
-/

import Tchatator.Model.Interactive
import Tchatator.Proof.Serial

namespace Tchatator

section

variable {parsers : Parsers} {host : Host} {cfg : Cfg} {world first : World}
  {request : InteractiveRequest}

/-! ### One run -/

/-- **Without a JSON value**, nothing is printed or released, and the database stays. -/
theorem runInteractive_null (isNull : interactiveInput parsers request.source = .null) :
    runInteractive parsers host cfg world request = ⟨[], .ok .dataErr, [], [], world⟩ := by
  unfold runInteractive
  rw [isNull]
  rfl

/-- **With one**, the result of its interpretation is printed, and both values are released, unless
the process is stopped. -/
theorem runInteractive_request (isValue : interactiveInput parsers request.source ≠ .null) :
    runInteractive parsers host cfg world request =
      let interpreted := tchatator413Interpret host cfg request.moments world
        (interactiveInput parsers request.source)
      match interpreted.output with
      | .error fault => ⟨[], .error fault, [], interpreted.exchanges, interpreted.world⟩
      | .ok joOutput => ⟨putsJson host joOutput, .ok .ok, [.joInput, .joOutput],
          interpreted.exchanges, interpreted.world⟩ := by
  have isThere : jsonObjectGetType (interactiveInput parsers request.source) ≠ .null := by
    intro isNull
    refine isValue ?_
    cases joInput : interactiveInput parsers request.source with
    | null => rfl
    | _ => simp [joInput, jsonObjectGetType] at isNull
  unfold runInteractive
  simp only [if_neg isThere]
  rfl

/-! ### Both front ends -/

/-- The run of the interactive mode on what the server has read of a client. -/
def Peer.asked (peer : Peer) : InteractiveRequest :=
  { source := .argument (requestBuffer (peer.reads.getD []))
    moments := peer.moments }

/-- What the server has made of what it has read of a client. -/
def Peer.joInput (tokener : Tokener) (peer : Peer) : Json :=
  receivedJson tokener (peer.reads.getD [])

/-- **The same answer** to a value: what a client is sent, and what a run of the interactive mode prints.
Only where there is no value do they differ: `EX_DATAERR` comes without a word, and the client is sent an
error. -/
def SameAnswer (host : Host) (joInput : Json) (sent : Bytes) (interaction : Interaction) : Prop :=
  match interaction.ends with
  | .ok .ok => joInput ≠ .null ∧
      ∃ text, interaction.printed = text ++ lit "\n" ∧ sent = text ++ [0]
  | .ok .dataErr => joInput = .null ∧ interaction.printed = [] ∧ ∃ joError,
      responseToJson host (notARequest .null) = .ok joError ∧ sent = outputOf host (.array [joError])
  | .error _ => joInput ≠ .null ∧ interaction.printed = [] ∧ sent = []

/-- A request that arrives in one segment that the buffer holds is what the server reads. -/
theorem requestBuffer_whole {text : CString} (fits : text.1.length < bufsiz) :
    requestBuffer [text.1] = text := by
  have isWhole : readSegments (bufsiz - 1) [text.1] = text.1 :=
    List.take_of_length_le (Nat.le_sub_one_of_lt fits)
  rw [requestBuffer, isWhole]
  exact cstring_val text

/-- **One client**, one run. -/
theorem asked_sameAnswer (parsers : Parsers) (host : Host) (cfg : Cfg) (world : World)
    (peer : Peer) :
    SameAnswer host (peer.joInput parsers.tokener)
        (answerTo parsers.tokener host cfg world peer)
        (runInteractive parsers host cfg world peer.asked) ∧
      (runInteractive parsers host cfg world peer.asked).world =
        interpretedWorld parsers.tokener host cfg world peer := by
  have received : interactiveInput parsers peer.asked.source = peer.joInput parsers.tokener := rfl
  rw [answerTo, interpretedWorld, interpretRequest, ← Peer.joInput, ← received]
  by_cases isNull : interactiveInput parsers peer.asked.source = .null
  · rw [runInteractive_null isNull, isNull]
    exact ⟨⟨rfl, rfl, _, rfl, rfl⟩, rfl⟩
  · rw [runInteractive_request isNull]
    simp only [Peer.asked]
    generalize tchatator413Interpret host cfg peer.moments world _ = interpreted
    obtain ⟨output, exchanges, after⟩ := interpreted
    cases output with
    | error fault => exact ⟨⟨isNull, rfl, rfl⟩, rfl⟩
    | ok joOutput => exact ⟨⟨isNull, _, rfl, rfl⟩, rfl⟩

/-- Runs compose. -/
theorem runInteractives_append (world : World) (requests later : List InteractiveRequest) :
    runInteractives parsers host cfg world (requests ++ later) =
      ((runInteractives parsers host cfg world requests).1 ++
          (runInteractives parsers host cfg (runInteractives parsers host cfg world requests).2
            later).1,
        (runInteractives parsers host cfg (runInteractives parsers host cfg world requests).2
          later).2) := by
  induction requests generalizing world with
  | nil => rfl
  | cons request requests ih =>
    simp only [List.cons_append, runInteractives]
    rw [ih]

/-- **Clients that are served one after another** are runs of the interactive mode. -/
theorem served_interactively {transcript : Transcript}
    (served : Served parsers.tokener host cfg first transcript world) :
    List.Forall₂ (fun entry => SameAnswer host (entry.1.joInput parsers.tokener) entry.2)
        transcript.reverse
        (runInteractives parsers host cfg first
          (transcript.reverse.map fun entry => entry.1.asked)).1 ∧
      (runInteractives parsers host cfg first
        (transcript.reverse.map fun entry => entry.1.asked)).2 = world := by
  induction served with
  | none => exact ⟨.nil, rfl⟩
  | @next earlier before peer _ ih =>
    obtain ⟨sameAnswers, sameWorld⟩ := ih
    obtain ⟨sameAnswer, sameNext⟩ := asked_sameAnswer parsers host cfg before peer
    rw [List.reverse_cons, List.map_append, runInteractives_append, sameWorld]
    exact ⟨List.rel_append sameAnswers (.cons sameAnswer .nil), sameNext⟩

/-- **The front ends agree.** In every run of the server, with connections, interruptions and signals
wherever they may come, after which no client is being served, every client that has sent a JSON value
has been sent what the interactive mode prints, run on what has been read of the client, in the order
of their connections; and the database is the one that these runs leave. Clients that have sent no
value have been sent an error, where the interactive mode prints nothing. -/
theorem frontEnds_agree (parsers : Parsers) {allocator : Allocator} {sock : Nat}
    {events : List Event} {state : ServerState} {transcript : Transcript}
    (run : Run (Observes parsers.tokener host cfg allocator) (.start sock first, []) events
      (state, transcript)) (isIdle : state.point.Idle) :
    List.Forall₂ (fun entry => SameAnswer host (entry.1.joInput parsers.tokener) entry.2)
        transcript.reverse
        (runInteractives parsers host cfg first
          (transcript.reverse.map fun entry => entry.1.asked)).1 ∧
      (runInteractives parsers host cfg first
        (transcript.reverse.map fun entry => entry.1.asked)).2 = state.world := by
  have inTurn := run_inTurn run rfl (.idle trivial .none)
  simp only at inTurn
  generalize state.point = point at inTurn isIdle
  generalize state.world = world at inTurn
  cases inTurn with
  | idle _ served => exact served_interactively served
  | accepted isAccepted _ =>
    cases point <;> first | exact absurd isAccepted id | exact absurd isIdle id
  | answering _ _ _ => exact absurd isIdle id
  | stopped _ _ => exact absurd isIdle id

end

/-- A client that sends no JSON value. -/
def babbler : Peer :=
  { connection := ⟨2130706433, 1741514403⟩
    reads := some [lit "salut"]
    accepts := fun _ => some bufsiz
    moments := fun _ => allUp 0 }

/-- What it is answered. -/
def babblerAnswer : Json :=
  .array [.object [(clit "error", .object
    [(clit "message", .string (lit "request: expected object, got null")),
      (clit "status", .int 400)])]]

/-- Four clients, the last of which sends no value, are answered as the interactive mode is. -/
theorem frontEnds_agree_visitors :
    ∃ state : ServerState,
      Run (Observes visitorTokener printingHost testCfg ⟨fun _ => false⟩) (.start 3 testWorld, [])
        (visits ++ visit babbler) (state, (babbler, outputOf printingHost babblerAnswer) :: visitors) ∧
      List.Forall₂ (fun entry => SameAnswer printingHost (entry.1.joInput visitorTokener) entry.2)
        ((babbler, outputOf printingHost babblerAnswer) :: visitors).reverse
        (runInteractives ⟨visitorTokener, fun _ => .null⟩ printingHost testCfg testWorld
          ([writer, reader, remover, babbler].map Peer.asked)).1 ∧
      (runInteractives ⟨visitorTokener, fun _ => .null⟩ printingHost testCfg testWorld
        ([writer, reader, remover, babbler].map Peer.asked)).2 = state.world := by
  obtain ⟨served, run, ready, _⟩ := visitors_run
  have answered (world : World) : (interpretRequest visitorTokener printingHost testCfg
      babbler.moments world (babbler.reads.getD [])).output = .ok babblerAnswer := rfl
  obtain ⟨state, babbled, ready, _⟩ := visit_run ready (answered served.world) rfl (by decide)
  have isIdle : state.point.Idle := by
    rw [ready.point]
    trivial
  have whole := run.append babbled
  exact ⟨state, whole, frontEnds_agree ⟨visitorTokener, fun _ => .null⟩ whole isIdle⟩

end Tchatator

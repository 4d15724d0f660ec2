/-
**The clients are served one after another** (`tchatator413_run_socket`).

* `Transcript` — the clients that have been accepted, with the bytes that each has been sent;
* `Served` — what there is after clients have been served one after another: each has its whole
  answer, computed in the database that those before it have left;
* `InTurn` — the process between two statements, while it does this;
* `observes_inTurn` — whatever happens, it goes on doing this;
* **`clients_served_serially`** — so in every run, with connections, interruptions and signals
  wherever they may come, all clients but the last have their answers, and the last has some first
  bytes of its own;
* `server_handles` — and the database is that of a run of exchanges;
* `visit_run`, `visitors_run` — a client that takes its answer at once, and three of them.
-/

import Tchatator.Library.Run
import Tchatator.Proof.Runs
import Tchatator.Proof.Serving
import Tchatator.Proof.Signals

namespace Tchatator

/-! ### What the clients see -/

/-- **The clients that have been accepted, the latest first, with what they have been sent.** -/
abbrev Transcript := List (Peer × Bytes)

/-- What the next statement of the loop sends. -/
def ServerState.sends (state : ServerState) : Bytes :=
  match state.point with
  | .answering peer index output =>
      match peer.accepts index with
      | none => []
      | some accepted => output.take (max 1 (min accepted output.length))
  | _ => []

/-- A transcript after something has happened. -/
def transcribe (state : ServerState) (transcript : Transcript) : Event → Transcript
  | .own =>
      match transcript with
      | [] => []
      | (peer, sent) :: earlier => (peer, sent ++ state.sends) :: earlier
  | .connect peer => (peer, []) :: transcript
  | .interrupt => transcript
  | .signal => transcript

section

variable (tokener : Tokener) (host : Host) (cfg : Cfg)

/-- The process, and its clients. -/
def Observes (allocator : Allocator) (before : ServerState × Transcript) (event : Event)
    (after : ServerState × Transcript) : Prop :=
  Happens tokener host cfg allocator before.1 event after.1 ∧
    after.2 = transcribe before.1 before.2 event

/-- The database after a request. -/
def interpretedWorld (world : World) (peer : Peer) : World :=
  (interpretRequest tokener host cfg peer.moments world (peer.reads.getD [])).world

/-- The answer to a request; nothing if it stops the process. -/
def answerTo (world : World) (peer : Peer) : Bytes :=
  match (interpretRequest tokener host cfg peer.moments world (peer.reads.getD [])).output with
  | .error _ => []
  | .ok jo => outputOf host jo

/-- **Clients have been served one after another.** -/
inductive Served (first : World) : Transcript → World → Prop
  | none : Served first [] first
  | next {earlier : Transcript} {world : World} (peer : Peer) : Served first earlier world →
      Served first ((peer, answerTo tokener host cfg world peer) :: earlier)
        (interpretedWorld tokener host cfg world peer)

/-- No client is being served, and the process has not ended while it served one. -/
def Point.Idle : Point → Prop
  | .waiting | .calling _ | .blocked | .failed _ | .interrupted | .closing | .left | .returned
  | .acceptExit => True
  | _ => False

/-- **All clients that have been accepted have been served one after another**, but for the last
while it is served: it has been sent nothing, in the database that the others have left, or some
first bytes of its own answer. -/
def ServedSerially (first : World) (state : ServerState) (transcript : Transcript) : Prop :=
  ∃ earlier world, Served tokener host cfg first earlier world ∧
    ((state.point.Idle ∧ transcript = earlier ∧ state.world = world) ∨
      (¬ state.point.Idle ∧ ∃ peer sent, transcript = (peer, sent) :: earlier ∧
        ((sent = [] ∧ state.world = world) ∨
          (sent <+: answerTo tokener host cfg world peer ∧
            state.world = interpretedWorld tokener host cfg world peer))))

/-- A client has been accepted, and its request has not been interpreted. -/
def Point.Accepted (peer : Peer) : Point → Prop
  | .limiting other | .reading other => other = peer
  | .interpreting other joInput =>
      other = peer ∧ joInput = receivedJson tokener (peer.reads.getD [])
  | _ => False

/-- **The process serves its clients one after another.** -/
inductive InTurn (first : World) : Point → World → Transcript → Prop
  | idle {point : Point} {world : World} {transcript : Transcript} : point.Idle →
      Served tokener host cfg first transcript world → InTurn first point world transcript
  | accepted {point : Point} {world : World} {earlier : Transcript} {peer : Peer} :
      point.Accepted tokener peer → Served tokener host cfg first earlier world →
      InTurn first point world ((peer, []) :: earlier)
  | answering {world : World} {earlier : Transcript} {peer : Peer} {jo : Json} {index : Nat}
      {sent rest : Bytes} : Served tokener host cfg first earlier world →
      (interpretRequest tokener host cfg peer.moments world (peer.reads.getD [])).output = .ok jo →
      sent ++ rest = outputOf host jo →
      InTurn first (.answering peer index rest) (interpretedWorld tokener host cfg world peer)
        ((peer, sent) :: earlier)
  | stopped {world : World} {earlier : Transcript} {peer : Peer} {sent : Bytes} {fault : Fault} :
      Served tokener host cfg first earlier world →
      sent <+: answerTo tokener host cfg world peer →
      InTurn first (.stopped fault) (interpretedWorld tokener host cfg world peer)
        ((peer, sent) :: earlier)

end

/-! ### What happens -/

section

variable {tokener : Tokener} {host : Host} {cfg : Cfg} {allocator : Allocator} {first : World}
  {state next : ServerState} {transcript : Transcript}

theorem answerTo_ok {world : World} {peer : Peer} {jo : Json}
    (answered : (interpretRequest tokener host cfg peer.moments world
      (peer.reads.getD [])).output = .ok jo) :
    answerTo tokener host cfg world peer = outputOf host jo := by
  simp only [answerTo, answered]

/-- Nothing is sent but answers. -/
theorem transcribe_own (silent : state.sends = []) :
    transcribe state transcript .own = transcript := by
  cases transcript with
  | nil => rfl
  | cons entry earlier => simp only [transcribe, silent, List.append_nil]

/-- While no client is served, nothing is sent and the database stays. -/
theorem idle_step (nullTurnstile : state.turnstile.pointer = none) (isIdle : state.point.Idle)
    (taken : state.step tokener host cfg allocator = some next) :
    next.turnstile.pointer = none ∧ next.point.Idle ∧ next.world = state.world ∧
      state.sends = [] := by
  obtain ⟨gsSock, listening, connections, turnstile, world, point⟩ := state
  cases point with
  | waiting =>
    cases taken
    exact ⟨nullTurnstile, trivial, rfl, rfl⟩
  | calling sock =>
    simp only [ServerState.step] at taken
    split at taken
    · cases taken
      exact ⟨nullTurnstile, trivial, rfl, rfl⟩
    · cases taken
      exact ⟨nullTurnstile, trivial, rfl, rfl⟩
  | failed errno =>
    cases errno with
    | eintr =>
      cases taken
      exact ⟨nullTurnstile, trivial, rfl, rfl⟩
    | ebadf =>
      cases taken
      exact ⟨nullTurnstile, trivial, rfl, rfl⟩
  | interrupted =>
    simp only [ServerState.step] at taken
    split at taken
    · cases taken
      exact ⟨nullTurnstile, trivial, rfl, rfl⟩
    · cases taken
      exact ⟨nullTurnstile, trivial, rfl, rfl⟩
  | closing =>
    cases taken
    exact ⟨nullTurnstile, trivial, rfl, rfl⟩
  | left =>
    cases taken
    exact ⟨rfl, trivial, rfl, rfl⟩
  | blocked => cases taken
  | returned => cases taken
  | acceptExit => cases taken
  | limiting _ => cases isIdle
  | reading _ => cases isIdle
  | interpreting _ _ => cases isIdle
  | refusing _ _ => cases isIdle
  | answering _ _ _ => cases isIdle
  | stopped _ => cases isIdle

/-- **The request of a client that has been accepted is interpreted** in the database it finds. -/
theorem accepted_step {earlier : Transcript} {peer : Peer}
    (nullTurnstile : state.turnstile.pointer = none) (isAccepted : state.point.Accepted tokener peer)
    (served : Served tokener host cfg first earlier state.world)
    (taken : state.step tokener host cfg allocator = some next) :
    next.turnstile.pointer = none ∧ state.sends = [] ∧
      InTurn tokener host cfg first next.point next.world ((peer, []) :: earlier) := by
  obtain ⟨gsSock, listening, connections, turnstile, world, point⟩ := state
  cases point with
  | limiting other =>
    obtain rfl : other = peer := isAccepted
    have passes := turnstileRateLimit_null cfg allocator nullTurnstile other.connection.time
      other.connection.inAddr
    simp only [ServerState.step, passes, if_true] at taken
    cases taken
    exact ⟨nullTurnstile, rfl, .accepted rfl served⟩
  | reading other =>
    obtain rfl : other = peer := isAccepted
    cases taken
    exact ⟨nullTurnstile, rfl, .accepted ⟨rfl, rfl⟩ served⟩
  | interpreting other joInput =>
    obtain ⟨rfl, rfl⟩ := isAccepted
    cases taken
    refine ⟨nullTurnstile, rfl, ?_⟩
    cases answered : (interpretRequest tokener host cfg other.moments world
        (other.reads.getD [])).output with
    | error fault =>
      have point : answerPoint host other (tchatator413Interpret host cfg other.moments world
          (receivedJson tokener (other.reads.getD []))).output = .stopped fault :=
        congrArg (answerPoint host other) answered
      show InTurn tokener host cfg first (answerPoint host other _) _ _
      rw [point]
      exact .stopped served List.nil_prefix
    | ok jo =>
      have point : answerPoint host other (tchatator413Interpret host cfg other.moments world
          (receivedJson tokener (other.reads.getD []))).output =
            .answering other 0 (outputOf host jo) := congrArg (answerPoint host other) answered
      show InTurn tokener host cfg first (answerPoint host other _) _ _
      rw [point]
      exact .answering served answered rfl
  | _ => cases isAccepted

/-- **A `write` sends the next bytes of the answer**, or ends the process. -/
theorem answering_step {earlier : Transcript} {world : World} {peer : Peer} {jo : Json}
    {index : Nat} {sent rest : Bytes} (nullTurnstile : state.turnstile.pointer = none)
    (isPoint : state.point = .answering peer index rest)
    (isWorld : state.world = interpretedWorld tokener host cfg world peer)
    (served : Served tokener host cfg first earlier world)
    (answered : (interpretRequest tokener host cfg peer.moments world
      (peer.reads.getD [])).output = .ok jo)
    (whole : sent ++ rest = outputOf host jo)
    (taken : state.step tokener host cfg allocator = some next) :
    next.turnstile.pointer = none ∧
      InTurn tokener host cfg first next.point next.world
        ((peer, sent ++ state.sends) :: earlier) := by
  obtain ⟨gsSock, listening, connections, turnstile, _, _⟩ := state
  cases isPoint
  cases isWorld
  cases isAccepted : peer.accepts index with
  | none =>
    simp only [ServerState.step, isAccepted] at taken
    cases taken
    simp only [ServerState.sends, isAccepted, List.append_nil]
    refine ⟨nullTurnstile, .stopped served ?_⟩
    rw [answerTo_ok answered, ← whole]
    exact List.prefix_append sent rest
  | some accepted =>
    simp only [ServerState.step, isAccepted] at taken
    simp only [ServerState.sends, isAccepted]
    split at taken
    · rename_i all
      cases taken
      rw [List.take_of_length_le all, whole, ← answerTo_ok answered]
      exact ⟨nullTurnstile, .idle trivial (.next peer served)⟩
    · cases taken
      refine ⟨nullTurnstile, .answering served answered ?_⟩
      rw [List.append_assoc, List.take_append_drop, whole]

/-- **A statement of the loop goes on serving in turn.** -/
theorem step_inTurn (nullTurnstile : state.turnstile.pointer = none)
    (inTurn : InTurn tokener host cfg first state.point state.world transcript)
    (taken : state.step tokener host cfg allocator = some next) :
    next.turnstile.pointer = none ∧
      InTurn tokener host cfg first next.point next.world (transcribe state transcript .own) := by
  generalize isPoint : state.point = point at inTurn
  generalize isWorld : state.world = world at inTurn
  cases inTurn with
  | idle isIdle served =>
    subst isPoint isWorld
    obtain ⟨isNull, stillIdle, sameWorld, silent⟩ := idle_step nullTurnstile isIdle taken
    rw [transcribe_own silent, sameWorld]
    exact ⟨isNull, .idle stillIdle (sameWorld ▸ served)⟩
  | accepted isAccepted served =>
    subst isPoint isWorld
    obtain ⟨isNull, silent, inTurn⟩ := accepted_step nullTurnstile isAccepted served taken
    rw [transcribe_own silent]
    exact ⟨isNull, inTurn⟩
  | answering served answered whole =>
    exact answering_step nullTurnstile isPoint isWorld served answered whole taken
  | stopped served isStart =>
    simp only [ServerState.step, isPoint] at taken
    cases taken

/-- An interruption changes nothing but where the process stands when it is in `accept`. -/
theorem interrupt_inTurn (inTurn : InTurn tokener host cfg first state.point state.world transcript) :
    state.interrupt.turnstile = state.turnstile ∧
      InTurn tokener host cfg first state.interrupt.point state.interrupt.world transcript := by
  obtain ⟨gsSock, listening, connections, turnstile, world, point⟩ := state
  cases point with
  | blocked =>
    cases inTurn with
    | idle _ served => exact ⟨rfl, .idle trivial served⟩
    | accepted isAccepted _ => cases isAccepted
  | _ => exact ⟨rfl, inTurn⟩

/-- A signal handler leaves the clients alone. -/
theorem closeSock_spec (state : ServerState) :
    state.closeSock.turnstile = state.turnstile ∧ state.closeSock.world = state.world ∧
      state.closeSock.point = state.point := by
  rw [ServerState.closeSock]
  split <;> exact ⟨rfl, rfl, rfl⟩

/-- **Whatever happens, the process goes on serving in turn.** -/
theorem observes_inTurn {event : Event} {after : ServerState × Transcript}
    (nullTurnstile : state.turnstile.pointer = none)
    (inTurn : InTurn tokener host cfg first state.point state.world transcript)
    (observed : Observes tokener host cfg allocator (state, transcript) event after) :
    after.1.turnstile.pointer = none ∧
      InTurn tokener host cfg first after.1.point after.1.world after.2 := by
  obtain ⟨happens, isAfter⟩ := observed
  rw [isAfter]
  generalize after.1 = next at happens
  cases happens with
  | own taken => exact step_inTurn nullTurnstile inTurn taken
  | connect peer isBlocked =>
    rw [isBlocked] at inTurn
    cases inTurn with
    | idle _ served => exact ⟨nullTurnstile, .accepted rfl served⟩
    | accepted isAccepted _ => cases isAccepted
  | interrupt =>
    obtain ⟨sameTurnstile, stillInTurn⟩ := interrupt_inTurn inTurn
    exact ⟨sameTurnstile ▸ nullTurnstile, stillInTurn⟩
  | signal =>
    obtain ⟨sameTurnstile, sameWorld, samePoint⟩ := closeSock_spec state
    rw [← samePoint, ← sameWorld] at inTurn
    obtain ⟨stillSame, stillInTurn⟩ := interrupt_inTurn inTurn
    rw [sameTurnstile] at stillSame
    refine ⟨?_, stillInTurn⟩
    rw [ServerState.signal, stillSame]
    exact nullTurnstile

/-- **A run serves its clients in turn.** -/
theorem run_inTurn {start last : ServerState × Transcript} {events : List Event}
    (run : Run (Observes tokener host cfg allocator) start events last)
    (nullTurnstile : start.1.turnstile.pointer = none)
    (inTurn : InTurn tokener host cfg first start.1.point start.1.world start.2) :
    InTurn tokener host cfg first last.1.point last.1.world last.2 := by
  have kept := run.invariant
    (fun observed => observed.1.turnstile.pointer = none ∧
      InTurn tokener host cfg first observed.1.point observed.1.world observed.2)
    (fun _ _ _ observed holds => observes_inTurn holds.1 holds.2 observed) ⟨nullTurnstile, inTurn⟩
  exact kept.1.2

/-- **The clients are served one after another**, in every run, with connections, interruptions and
signals wherever they may come. -/
theorem clients_served_serially {sock : Nat} {events : List Event}
    (run : Run (Observes tokener host cfg allocator) (.start sock first, []) events
      (state, transcript)) : ServedSerially tokener host cfg first state transcript := by
  have inTurn := run_inTurn run rfl (.idle trivial .none)
  simp only at inTurn
  rw [ServedSerially]
  generalize isPoint : state.point = point at inTurn
  generalize isWorld : state.world = world at inTurn
  cases inTurn with
  | idle isIdle served => exact ⟨_, _, served, .inl ⟨isIdle, rfl, rfl⟩⟩
  | accepted isAccepted served =>
    refine ⟨_, _, served, .inr ⟨fun isIdle => ?_, _, _, rfl, .inl ⟨rfl, rfl⟩⟩⟩
    cases point <;> first | exact isIdle | exact isAccepted
  | answering served answered whole =>
    refine ⟨_, _, served, .inr ⟨id, _, _, rfl, .inr ⟨?_, rfl⟩⟩⟩
    rw [answerTo_ok answered, ← whole]
    exact List.prefix_append _ _
  | stopped served isStart =>
    exact ⟨_, _, served, .inr ⟨id, _, _, rfl, .inr ⟨isStart, rfl⟩⟩⟩

/-! ### Exchanges -/

/-- Clients served one after another make a run of exchanges. -/
theorem Served.handles {world : World} (served : Served tokener host cfg first transcript world) :
    ∃ exchanges, Run (Handles host cfg) first exchanges world := by
  induction served with
  | none => exact ⟨[], .done first⟩
  | next peer _ ih =>
    obtain ⟨exchanges, run⟩ := ih
    exact ⟨_, run.append (tchatator413Interpret_run host cfg peer.moments _ _)⟩

/-- Every run can be observed. -/
theorem exists_observes {before : ServerState} {events : List Event}
    (run : Run (Happens tokener host cfg allocator) before events state) (transcript : Transcript) :
    ∃ transcript', Run (Observes tokener host cfg allocator) (before, transcript) events
      (state, transcript') := by
  induction run generalizing transcript with
  | done _ => exact ⟨transcript, .done _⟩
  | more happens _ ih =>
    obtain ⟨last, later⟩ := ih _
    exact ⟨last, .more ⟨happens, rfl⟩ later⟩

/-- What the process does to the database is a run of exchanges. -/
theorem server_handles {sock : Nat} {events : List Event}
    (run : Run (Happens tokener host cfg allocator) (.start sock first) events state) :
    ∃ exchanges, Run (Handles host cfg) first exchanges state.world := by
  obtain ⟨transcript, observed⟩ := exists_observes run []
  have inTurn := run_inTurn observed rfl (.idle trivial .none)
  simp only at inTurn
  generalize state.point = point at inTurn
  generalize state.world = world at inTurn
  cases inTurn with
  | idle _ served => exact served.handles
  | accepted _ served => exact served.handles
  | answering served _ _ => exact (served.next _).handles
  | stopped served _ => exact (served.next _).handles

end

/-! ### Visitors -/

section

variable {tokener : Tokener} {host : Host} {cfg : Cfg} {allocator : Allocator}
  {state next : ServerState} {transcript : Transcript} {peer : Peer}

/-- A statement that sends nothing. -/
theorem Observes.silent (taken : state.step tokener host cfg allocator = some next)
    (silent : state.sends = []) :
    Observes tokener host cfg allocator (state, transcript) .own (next, transcript) :=
  ⟨.own taken, (transcribe_own silent).symm⟩

theorem Observes.connect (isBlocked : state.point = .blocked) (peer : Peer) :
    Observes tokener host cfg allocator (state, transcript) (.connect peer)
      (state.connect peer, (peer, []) :: transcript) :=
  ⟨.connect state peer isBlocked, rfl⟩

/-- What happens while a client is served that takes its answer at once. -/
def visit (peer : Peer) : List Event :=
  [.connect peer, .own, .own, .own, .own, .own, .own, .own]

/-- **A client that takes its answer at once** has been sent it when the process is in `accept` again. -/
theorem visit_run (ready : Ready state) {jo : Json} {accepted : Nat}
    (answered : (interpretRequest tokener host cfg peer.moments state.world
      (peer.reads.getD [])).output = .ok jo)
    (accepts : peer.accepts 0 = some accepted) (takes : (outputOf host jo).length ≤ accepted) :
    ∃ next, Run (Observes tokener host cfg allocator) (state, transcript) (visit peer)
        (next, (peer, outputOf host jo) :: transcript) ∧
      Ready next ∧ next.world = interpretedWorld tokener host cfg state.world peer := by
  obtain ⟨isBlocked, listening, hasSock, closed, nullTurnstile⟩ := ready
  have passes := turnstileRateLimit_null cfg allocator nullTurnstile peer.connection.time
    peer.connection.inAddr
  have limits : (state.connect peer).step tokener host cfg allocator =
      some { interpretedState tokener host cfg allocator state peer (.reading peer) with
        world := state.world } := by
    simp only [ServerState.step, ServerState.connect, passes, if_true]
    rfl
  have interprets : ServerState.step tokener host cfg allocator
      { interpretedState tokener host cfg allocator state peer
          (.interpreting peer (receivedJson tokener (peer.reads.getD []))) with
        world := state.world } =
      some (interpretedState tokener host cfg allocator state peer
        (.answering peer 0 (outputOf host jo))) := by
    have point := congrArg (answerPoint host peer) answered
    simp only [ServerState.step, interpretedState]
    rw [← interpretRequest, point]
    rfl
  have all : (outputOf host jo).length ≤ max 1 (min accepted (outputOf host jo).length) := by
    omega
  have answers : (interpretedState tokener host cfg allocator state peer
      (.answering peer 0 (outputOf host jo))).step tokener host cfg allocator =
        some (interpretedState tokener host cfg allocator state peer .closing) := by
    simp only [ServerState.step, interpretedState, accepts, if_pos all]
  have sends : (interpretedState tokener host cfg allocator state peer
      (.answering peer 0 (outputOf host jo))).sends = outputOf host jo := by
    simp only [ServerState.sends, interpretedState, accepts]
    exact List.take_of_length_le all
  have sent : Observes tokener host cfg allocator
      (interpretedState tokener host cfg allocator state peer
        (.answering peer 0 (outputOf host jo)), (peer, []) :: transcript) .own
      (interpretedState tokener host cfg allocator state peer .closing,
        (peer, outputOf host jo) :: transcript) := by
    refine ⟨.own answers, ?_⟩
    simp only [transcribe, sends, List.nil_append]
  refine ⟨{ interpretedState tokener host cfg allocator state peer .blocked with
      connections := state.connections }, ?_, ⟨rfl, listening, hasSock, closed, nullTurnstile⟩, rfl⟩
  exact .more (.connect isBlocked peer) (.more (.silent limits rfl) (.more (.silent rfl rfl)
    (.more (.silent interprets rfl) (.more sent (.more (.silent rfl rfl) (.more (.silent rfl rfl)
      (.single (.silent (if_pos ⟨hasSock, listening⟩) rfl))))))))

end

/-- A parser that knows some texts. -/
def knownTokener (known : List (CString × Json)) : Tokener :=
  { parse := fun buffer => (known.lookup buffer).getD .null
    Complete := fun buffer => (known.lookup buffer).isSome
    parse_incomplete := by
      intro buffer incomplete
      rw [Option.not_isSome_iff_eq_none.mp incomplete]
      rfl }

/-- A parser of the requests of the test users. -/
def visitorTokener : Tokener :=
  knownTokener ([memberToProRequest, pro1InboxRequest, removeFirstRequest].map fun jo =>
    (cstring (plainText jo), jo))

/-- A client that sends a value, and takes the answer at once. -/
def visitor (time : Int) (jo : Json) : Peer :=
  { connection := ⟨2130706433, time⟩
    reads := some [plainText jo]
    accepts := fun _ => some bufsiz
    moments := fun _ => allUp ((time - pgEpoch) * 1000000) }

/-- A member, who writes to a professional, -/
def writer : Peer := visitor 1741514400 memberToProRequest

/-- the professional, who reads the message, -/
def reader : Peer := visitor 1741514401 pro1InboxRequest

/-- and the member again, who removes it. -/
def remover : Peer := visitor 1741514402 removeFirstRequest

/-- What the three are answered. -/
def writerAnswer : Json := .array [.object [(clit "body", .object [(clit "msg_id", .int 1)])]]

def readerAnswer : Json :=
  .array [.object [(clit "body", .array [.object [(clit "msg_id", .int 1),
    (clit "sent_at", .int 1741514400), (clit "content", .string (lit "salut")),
    (clit "sender", .int 1003), (clit "recipient", .int 1001)]])]]

def removerAnswer : Json := .array [.object []]

/-- The database after the first, and after the second. -/
def writtenWorld : World := interpretedWorld visitorTokener printingHost testCfg testWorld writer

def readWorld : World := interpretedWorld visitorTokener printingHost testCfg writtenWorld reader

def removedWorld : World := interpretedWorld visitorTokener printingHost testCfg readWorld remover

theorem visitors_answered :
    (interpretRequest visitorTokener printingHost testCfg writer.moments testWorld
        (writer.reads.getD [])).output = .ok writerAnswer ∧
      (interpretRequest visitorTokener printingHost testCfg reader.moments writtenWorld
        (reader.reads.getD [])).output = .ok readerAnswer ∧
      (interpretRequest visitorTokener printingHost testCfg remover.moments readWorld
        (remover.reads.getD [])).output = .ok removerAnswer :=
  ⟨rfl, rfl, rfl⟩

/-- What the three are sent, the last first. -/
def visitors : Transcript :=
  [(remover, outputOf printingHost removerAnswer), (reader, outputOf printingHost readerAnswer),
    (writer, outputOf printingHost writerAnswer)]

/-- What happens while they are served. -/
def visits : List Event := [.own, .own] ++ (visit writer ++ (visit reader ++ visit remover))

/-- **Three visitors**: what the first has stored, the second is sent, and the third removes. -/
theorem visitors_run :
    ∃ state, Run (Observes visitorTokener printingHost testCfg ⟨fun _ => false⟩)
        (.start 3 testWorld, []) visits (state, visitors) ∧
      Ready state ∧ state.world = removedWorld := by
  obtain ⟨wroteAnswer, readAnswer, removedAnswer⟩ := visitors_answered
  have starts : Run (Observes visitorTokener printingHost testCfg ⟨fun _ => false⟩)
      (.start 3 testWorld, []) [.own, .own]
      ({ ServerState.start 3 testWorld with point := .blocked }, []) :=
    .more (.silent rfl rfl) (.single (.silent rfl rfl))
  have ready : Ready { ServerState.start 3 testWorld with point := .blocked } :=
    ⟨rfl, rfl, nofun, rfl, rfl⟩
  obtain ⟨afterWriter, wrote, ready, isWritten⟩ := visit_run ready wroteAnswer rfl (by decide)
  replace isWritten : afterWriter.world = writtenWorld := isWritten
  rw [← isWritten] at readAnswer
  obtain ⟨afterReader, read, ready, isRead⟩ := visit_run ready readAnswer rfl (by decide)
  rw [isWritten] at isRead
  replace isRead : afterReader.world = readWorld := isRead
  rw [← isRead] at removedAnswer
  obtain ⟨afterRemover, removed, ready, isRemoved⟩ := visit_run ready removedAnswer rfl (by decide)
  rw [isRead] at isRemoved
  exact ⟨afterRemover, starts.append (wrote.append (read.append removed)), ready, isRemoved⟩

/-- The message is among the bytes that the second is sent. -/
theorem visitors_served_serially :
    ∃ state : ServerState,
      Run (Observes visitorTokener printingHost testCfg ⟨fun _ => false⟩) (.start 3 testWorld, [])
        visits (state, visitors) ∧
      outputOf printingHost readerAnswer =
        lit "[\x7b\"body\":[\x7b\"msg_id\":1,\"sent_at\":1741514400,\"content\":\"salut\"," ++
          lit "\"sender\":1003,\"recipient\":1001\x7d]\x7d]" ++ [0] ∧
      ServedSerially visitorTokener printingHost testCfg testWorld state visitors := by
  obtain ⟨state, run, _⟩ := visitors_run
  exact ⟨state, run, by decide, clients_served_serially run⟩

end Tchatator

/-
**The server goes on to the next client** (`tchatator413_run_socket`).

* `Settles` — where the process gets to by itself;
* `WriteFails`, `writeRemaining_cases` — the answer is written whole unless a `write` fails while
  bytes remain;
* `answering_settles`, `answered_settles` — the statements of the loop, taken one after the other,
  write what `json_object_write` writes;
* `TurnGoesOn` — the conditions of one turn: no null element, no action that stops the process, no
  `write` that fails. A `read` that fails is not among them: it is an empty request;
* `turn_settles` — a turn ends with the connection closed and the process in `accept` again, or it
  ends the process;
* **`serves_iff`** — every client of a sequence is served exactly when every turn meets the
  conditions.
-/

import Mathlib.Computability.StateTransition
import Tchatator.Model.Server
import Tchatator.Proof.Batches
import Tchatator.Proof.Deliveries
import Tchatator.Proof.RateLimit

namespace Tchatator

/-! ### What the process does by itself -/

section

variable (tokener : Tokener) (host : Host) (cfg : Cfg) (allocator : Allocator)

/-- **By itself, the process gets from one state to another**, where it waits or has ended. -/
def Settles (state final : ServerState) : Prop :=
  final ∈ StateTransition.eval (ServerState.step tokener host cfg allocator) state

variable {tokener host cfg allocator} {state next final : ServerState}

theorem Settles.step (taken : state.step tokener host cfg allocator = some next)
    (settles : Settles tokener host cfg allocator next final) :
    Settles tokener host cfg allocator state final := by
  obtain ⟨reaches, rests⟩ := StateTransition.mem_eval.mp settles
  exact StateTransition.mem_eval.mpr ⟨.head taken reaches, rests⟩

theorem Settles.rest (rests : state.step tokener host cfg allocator = none) :
    Settles tokener host cfg allocator state state :=
  StateTransition.mem_eval.mpr ⟨.refl, rests⟩

theorem Settles.unique {other : ServerState}
    (settles : Settles tokener host cfg allocator state final)
    (settlesToo : Settles tokener host cfg allocator state other) : final = other :=
  Part.mem_unique settles settlesToo

end

/-! ### Writing -/

/-- The bytes that the first `write`s take. -/
def bytesTaken : (Nat → Option Nat) → Nat → Nat
  | _, 0 => 0
  | accepts, count + 1 =>
      max 1 ((accepts 0).getD 0) + bytesTaken (fun index => accepts (index + 1)) count

/-- **A `write` fails** while bytes remain. -/
def WriteFails (accepts : Nat → Option Nat) (length : Nat) : Prop :=
  ∃ index, accepts index = none ∧ bytesTaken accepts index < length

/-- A `write` that takes bytes leaves the others to the next ones. -/
theorem writeFails_of_taken {accepts : Nat → Option Nat} {accepted length : Nat}
    (isAccepted : accepts 0 = some accepted) :
    WriteFails accepts length ↔
      WriteFails (fun index => accepts (index + 1)) (length - max 1 (min accepted length)) := by
  constructor
  · rintro ⟨index, fails, remains⟩
    cases index with
    | zero => cases isAccepted.symm.trans fails
    | succ index =>
      refine ⟨index, fails, ?_⟩
      simp only [bytesTaken, isAccepted, Option.getD_some] at remains
      omega
  · rintro ⟨index, fails, remains⟩
    refine ⟨index + 1, fails, ?_⟩
    simp only [bytesTaken, isAccepted, Option.getD_some]
    omega

/-- **The loop returns, or a `write` fails while bytes remain.** -/
theorem writeRemaining_cases (accepts : Nat → Option Nat) (output : Bytes) :
    (¬ WriteFails accepts output.length ∧
      ∃ segments, writeRemaining accepts output = .ok segments) ∨
    (WriteFails accepts output.length ∧ writeRemaining accepts output = .error .errnoExit) := by
  fun_induction writeRemaining accepts output with
  | case1 =>
    refine Or.inl ⟨?_, [], rfl⟩
    rintro ⟨_, _, ⟨⟩⟩
  | case2 accepts output hasOutput fails =>
    exact Or.inr ⟨⟨0, fails, List.length_pos_of_ne_nil hasOutput⟩, rfl⟩
  | case3 accepts output hasOutput accepted isAccepted bytesWritten ih =>
    rw [writeFails_of_taken isAccepted, ← List.length_drop]
    rcases ih with ⟨goesOn, segments, written⟩ | ⟨fails, stopped⟩
    · refine Or.inl ⟨goesOn, output.take bytesWritten :: segments, ?_⟩
      rw [written]
      rfl
    · refine Or.inr ⟨fails, ?_⟩
      rw [stopped]
      rfl

/-- An answer is written whole unless a `write` fails before its end. -/
theorem jsonObjectWrite_cases (host : Host) (accepts : Nat → Option Nat) (jo : Json) :
    (¬ WriteFails accepts (outputOf host jo).length ∧
      ∃ segments, jsonObjectWrite host accepts jo = .ok segments) ∨
    (WriteFails accepts (outputOf host jo).length ∧
      jsonObjectWrite host accepts jo = .error .errnoExit) :=
  writeRemaining_cases accepts (outputOf host jo)

/-- Where the loop of `json_object_write` leads. -/
def afterWriting : Except Fault (List Bytes) → Point
  | .ok _ => .closing
  | .error fault => .stopped fault

theorem afterWriting_map (part : Bytes) (written : Except Fault (List Bytes)) :
    afterWriting (written.map (part :: ·)) = afterWriting written := by
  cases written <;> rfl

/-! ### One turn -/

/-- The process is in `accept`, and no connection is open. -/
structure Ready (state : ServerState) : Prop where
  point : state.point = .blocked
  listening : state.listening = true
  hasSock : state.gsSock ≠ none
  closed : state.connections = []
  nullTurnstile : state.turnstile.pointer = none

/-- **A turn goes on to its end.** -/
structure TurnGoesOn (tokener : Tokener) (host : Host) (cfg : Cfg) (world : World) (peer : Peer) :
    Prop where
  /-- The request stops nothing. -/
  interpreted : WithoutNullElement (receivedJson tokener (peer.reads.getD [])) ∧
    ∀ handled ∈ (interpretRequest tokener host cfg peer.moments world
      (peer.reads.getD [])).exchanges, ¬ Stops host cfg handled
  /-- No `write` fails before the answer is sent. -/
  written : ∀ jo, (interpretRequest tokener host cfg peer.moments world
      (peer.reads.getD [])).output = .ok jo → ¬ WriteFails peer.accepts (outputOf host jo).length

section

variable {tokener : Tokener} {host : Host} {cfg : Cfg} {allocator : Allocator}
  {state final : ServerState} {peer : Peer}

/-- **The process writes what `json_object_write` writes.** -/
theorem answering_settles (state : ServerState) {accepts : Nat → Option Nat} {output : Bytes}
    (hasOutput : output ≠ []) {index : Nat} (isRest : accepts = fun offset => peer.accepts (index + offset))
    (later : Settles tokener host cfg allocator
      { state with point := afterWriting (writeRemaining accepts output) } final) :
    Settles tokener host cfg allocator { state with point := .answering peer index output }
      final := by
  fun_induction writeRemaining accepts output generalizing index with
  | case1 => exact absurd rfl hasOutput
  | case2 accepts output _ fails =>
    refine .step ?_ later
    have isNone : peer.accepts index = none := by
      rw [isRest] at fails
      exact fails
    simp only [ServerState.step, isNone]
    rfl
  | case3 accepts output _ accepted isAccepted bytesWritten ih =>
    have isSome : peer.accepts index = some accepted := by
      rw [isRest] at isAccepted
      exact isAccepted
    rw [afterWriting_map] at later
    by_cases whole : output.length ≤ bytesWritten
    · have nothing : output.drop bytesWritten = [] := List.drop_eq_nil_of_le whole
      rw [nothing, writeRemaining, if_pos rfl] at later
      refine .step ?_ later
      simp only [ServerState.step, isSome]
      exact if_pos whole
    · have remains : output.drop bytesWritten ≠ [] := fun nothing =>
        whole (List.drop_eq_nil_iff.mp nothing)
      have nextRest : (fun offset => accepts (offset + 1)) =
          fun offset => peer.accepts (index + 1 + offset) := by
        funext offset
        rw [isRest, Nat.add_assoc, Nat.add_comm 1 offset]
      refine .step ?_ (ih remains nextRest later)
      simp only [ServerState.step, isSome]
      exact if_neg whole

/-- After a connection is closed, the process is in `accept` again. -/
theorem closing_settles (state : ServerState) (listening : state.listening = true)
    (hasSock : state.gsSock ≠ none) :
    Settles tokener host cfg allocator { state with point := .closing }
      { state with connections := state.connections.tail, point := .blocked } := by
  refine .step rfl (.step rfl (.step (if_pos ⟨hasSock, listening⟩) (.rest rfl)))

/-- The process at some point after the interpretation of a request. -/
def interpretedState (tokener : Tokener) (host : Host) (cfg : Cfg) (allocator : Allocator)
    (state : ServerState) (peer : Peer) (point : Point) : ServerState :=
  { state with
    connections := peer.connection :: state.connections
    turnstile := { state.turnstile with
      heap := (turnstileRateLimit cfg allocator peer.connection.time state.turnstile
        peer.connection.inAddr).2.heap }
    world := (interpretRequest tokener host cfg peer.moments state.world (peer.reads.getD [])).world
    point := point }

/-- **A request is interpreted**: through a null pointer, the turnstile never blocks. -/
theorem interpreted_settles (nullTurnstile : state.turnstile.pointer = none) (peer : Peer)
    (later : Settles tokener host cfg allocator
      (interpretedState tokener host cfg allocator state peer (answerPoint host peer
        (interpretRequest tokener host cfg peer.moments state.world
          (peer.reads.getD [])).output)) final) :
    Settles tokener host cfg allocator (state.connect peer) final := by
  have passes := turnstileRateLimit_null cfg allocator nullTurnstile peer.connection.time
    peer.connection.inAddr
  have taken : (state.connect peer).step tokener host cfg allocator =
      some { state.connect peer with
        turnstile := { state.turnstile with
          heap := (turnstileRateLimit cfg allocator peer.connection.time state.turnstile
            peer.connection.inAddr).2.heap }
        point := .reading peer } := by
    simp only [ServerState.step, ServerState.connect, passes, if_true]
  exact .step taken (.step rfl (.step rfl later))

/-- **An interpreted request is answered as far as the writes go.** -/
theorem answered_settles (nullTurnstile : state.turnstile.pointer = none) {jo : Json}
    (answered : (interpretRequest tokener host cfg peer.moments state.world
      (peer.reads.getD [])).output = .ok jo)
    (later : Settles tokener host cfg allocator
      (interpretedState tokener host cfg allocator state peer
        (afterWriting (jsonObjectWrite host peer.accepts jo))) final) :
    Settles tokener host cfg allocator (state.connect peer) final := by
  apply interpreted_settles nullTurnstile
  have hasOutput : outputOf host jo ≠ [] :=
    List.append_ne_nil_of_right_ne_nil _ (List.cons_ne_nil _ _)
  have isRest : peer.accepts = fun offset => peer.accepts (0 + offset) := by
    funext offset
    rw [Nat.zero_add]
  rw [answered]
  exact answering_settles (interpretedState tokener host cfg allocator state peer .closing)
    hasOutput isRest later

/-- **A turn ends in `accept`, with the connection closed, or ends the process.** -/
theorem turn_settles (ready : Ready state) (peer : Peer) :
    (TurnGoesOn tokener host cfg state.world peer ∧ ∃ next,
      Settles tokener host cfg allocator (state.connect peer) next ∧ Ready next ∧
        next.world = (interpretRequest tokener host cfg peer.moments state.world
          (peer.reads.getD [])).world) ∨
    (¬ TurnGoesOn tokener host cfg state.world peer ∧ ∃ fault last,
      Settles tokener host cfg allocator (state.connect peer) last ∧
        last.point = .stopped fault) := by
  obtain ⟨isBlocked, listening, hasSock, closed, nullTurnstile⟩ := ready
  rcases interpret_cases host cfg peer.moments state.world
    (receivedJson tokener (peer.reads.getD [])) with
    ⟨goesOn, answers, answered⟩ | ⟨stops, fault, stopped⟩
  · rcases jsonObjectWrite_cases host peer.accepts (.array answers) with
      ⟨written, segments, isWritten⟩ | ⟨fails, isStopped⟩
    · have settles : Settles tokener host cfg allocator (state.connect peer)
          { interpretedState tokener host cfg allocator state peer .blocked with
            connections := state.connections } := by
        apply answered_settles nullTurnstile answered
        rw [isWritten]
        exact closing_settles (interpretedState tokener host cfg allocator state peer .closing)
          listening hasSock
      refine Or.inl ⟨⟨goesOn, fun jo isJo => ?_⟩, _, settles, ?_, rfl⟩
      · cases answered.symm.trans isJo
        exact written
      · exact ⟨rfl, listening, hasSock, closed, nullTurnstile⟩
    · have settles : Settles tokener host cfg allocator (state.connect peer)
          (interpretedState tokener host cfg allocator state peer (.stopped .errnoExit)) := by
        apply answered_settles nullTurnstile answered
        rw [isStopped]
        exact .rest rfl
      exact Or.inr ⟨fun turn => turn.written _ answered fails, .errnoExit, _, settles, rfl⟩
  · have settles : Settles tokener host cfg allocator (state.connect peer)
        (interpretedState tokener host cfg allocator state peer (.stopped fault)) := by
      have isStopped : (interpretRequest tokener host cfg peer.moments state.world
          (peer.reads.getD [])).output = .error fault := stopped
      apply interpreted_settles nullTurnstile
      rw [isStopped]
      exact .rest rfl
    exact Or.inr ⟨fun turn => stops turn.interpreted, fault, _, settles, rfl⟩

end

/-! ### Every turn -/

section

variable (tokener : Tokener) (host : Host) (cfg : Cfg) (allocator : Allocator)

/-- **Every client of a sequence is served**: the process gets back into `accept`, with no connection
open, after each of them. -/
def Serves : ServerState → List Peer → Prop
  | _, [] => True
  | state, peer :: peers => ∃ next, Settles tokener host cfg allocator (state.connect peer) next ∧
      next.point = .blocked ∧ next.connections = [] ∧ Serves next peers

/-- Every turn of a sequence goes on to its end, each in the database the previous ones left. -/
def EveryTurnGoesOn : World → List Peer → Prop
  | _, [] => True
  | world, peer :: peers => TurnGoesOn tokener host cfg world peer ∧
      EveryTurnGoesOn (interpretRequest tokener host cfg peer.moments world
        (peer.reads.getD [])).world peers

theorem serves_of_ready {state : ServerState} (ready : Ready state) (peers : List Peer) :
    Serves tokener host cfg allocator state peers ↔
      EveryTurnGoesOn tokener host cfg state.world peers := by
  induction peers generalizing state with
  | nil => exact Iff.rfl
  | cons peer peers ih =>
    rcases turn_settles ready peer with
      ⟨goesOn, next, settles, nextReady, isWorld⟩ | ⟨stops, fault, last, settles, isStopped⟩
    · have later := ih nextReady
      rw [isWorld] at later
      constructor
      · rintro ⟨other, settlesToo, _, _, serves⟩
        obtain rfl := settles.unique settlesToo
        exact ⟨goesOn, later.mp serves⟩
      · rintro ⟨_, goOn⟩
        exact ⟨next, settles, nextReady.point, nextReady.closed, later.mpr goOn⟩
    · refine iff_of_false ?_ fun turns => stops turns.1
      rintro ⟨other, settlesToo, isBlocked, _⟩
      obtain rfl := settles.unique settlesToo
      cases isStopped.symm.trans isBlocked

/-- The process starts by blocking in `accept`. -/
theorem start_settles (sock : Nat) (world : World) :
    ∃ state, Settles tokener host cfg allocator (.start sock world) state ∧ Ready state ∧
      state.world = world :=
  ⟨{ ServerState.start sock world with point := .blocked }, .step rfl (.step rfl (.rest rfl)),
    ⟨rfl, rfl, Option.some_ne_none sock, rfl, rfl⟩, rfl⟩

/-- **Every client is served exactly when every turn goes on to its end.** -/
theorem serves_iff (sock : Nat) (world : World) (peers : List Peer) :
    (∃ state, Settles tokener host cfg allocator (.start sock world) state ∧
        state.point = .blocked ∧ Serves tokener host cfg allocator state peers) ↔
      EveryTurnGoesOn tokener host cfg world peers := by
  obtain ⟨state, settles, ready, rfl⟩ := start_settles tokener host cfg allocator sock world
  rw [← serves_of_ready tokener host cfg allocator ready]
  constructor
  · rintro ⟨other, settlesToo, _, serves⟩
    obtain rfl := settles.unique settlesToo
    exact serves
  · intro serves
    exact ⟨state, settles, ready.point, serves⟩

end

/-- A client that has disconnected when it is answered. -/
def disconnected : Peer :=
  { connection := ⟨2130706433, 0⟩
    reads := none
    accepts := fun _ => none
    moments := fun _ => allUp 0 }

/-- A client that disconnects early ends the process. -/
theorem disconnected_not_served :
    ∃ state,
      Settles emptyObjectTokener testHost testCfg ⟨fun _ => false⟩ (.start 3 testWorld) state ∧
      state.point = .blocked ∧
      (∃ fault last, Settles emptyObjectTokener testHost testCfg ⟨fun _ => false⟩
        (state.connect disconnected) last ∧ last.point = .stopped fault) ∧
      ¬ Serves emptyObjectTokener testHost testCfg ⟨fun _ => false⟩ state [disconnected] := by
  obtain ⟨state, settles, ready, isWorld⟩ :=
    start_settles emptyObjectTokener testHost testCfg ⟨fun _ => false⟩ 3 testWorld
  have fails : WriteFails disconnected.accepts 1 := ⟨0, rfl, Nat.one_pos⟩
  have stops : ¬ TurnGoesOn emptyObjectTokener testHost testCfg state.world disconnected := by
    rw [isWorld]
    exact fun turn => turn.written _ rfl fails
  refine ⟨state, settles, ready.point, ?_, fun serves => ?_⟩
  · rcases turn_settles ready disconnected with ⟨goesOn, _⟩ | ⟨_, ended⟩
    · exact absurd goesOn stops
    · exact ended
  · rw [serves_of_ready emptyObjectTokener testHost testCfg _ ready] at serves
    exact stops serves.1

end Tchatator

/-
**Leaving the accept loop on a signal** (`close_sock`, `tchatator413_run_socket`).

* `Moves`, `step_moves` — what a statement of the loop can do, said once;
* `Open` — until a signal comes, the socket is open and the process stands in the loop;
* `Closed` — afterwards the socket is closed for good, and a further signal does nothing;
* `LeavesInOrder` — the process gets to `return EX_OK`, with no connection left open;
* `Doomed` — a process that is not in `accept` when its socket is closed calls `accept` again before
  it looks at the socket, and ends there;
* **`leavesInOrder_iff`** — so it leaves in order exactly when the signal finds it in `accept`, or
  just interrupted there.
-/

import Tchatator.Library.Run
import Tchatator.Proof.Serving

namespace Tchatator

/-! ### What a statement can do -/

/-- A client is served. -/
def Point.Serving : Point → Prop
  | .limiting _ | .reading _ | .interpreting _ _ | .refusing _ _ | .answering _ _ _ | .closing => True
  | _ => False

theorem Point.serving_ite {condition : Prop} [Decidable condition] {point other : Point}
    (serving : point.Serving) (servingToo : other.Serving) :
    (if condition then point else other).Serving := by
  split
  · exact serving
  · exact servingToo

/-- **The statements of the loop**, by the point and the open connections they lead to. -/
inductive Moves (state : ServerState) : Point → List Connection → Prop
  | evaluate : state.point = .waiting → Moves state (.calling state.gsSock) state.connections
  | block {sock : Option Nat} : state.point = .calling sock → state.listening = true →
      sock ≠ none → Moves state .blocked state.connections
  | refuse {sock : Option Nat} : state.point = .calling sock →
      ¬ (sock ≠ none ∧ state.listening = true) → Moves state (.failed .ebadf) state.connections
  | test : state.point = .failed .eintr → Moves state .interrupted state.connections
  | exit : state.point = .failed .ebadf → Moves state .acceptExit state.connections
  | leave : state.point = .interrupted → state.gsSock = none → Moves state .left state.connections
  | goOn : state.point = .interrupted → state.gsSock ≠ none →
      Moves state .waiting state.connections
  | serve {point : Point} : state.point.Serving → point.Serving ∨ (∃ fault, point = .stopped fault) →
      Moves state point state.connections
  | close : state.point = .closing → Moves state .waiting state.connections.tail
  | finish : state.point = .left → Moves state .returned state.connections

section

variable {tokener : Tokener} {host : Host} {cfg : Cfg} {allocator : Allocator}
  {state next : ServerState}

/-- An answer is written, or its fault ends the process. -/
theorem answerPoint_serves (host : Host) (peer : Peer) (output : Except Fault Json) :
    (answerPoint host peer output).Serving ∨
      ∃ fault, answerPoint host peer output = .stopped fault := by
  cases output with
  | error fault => exact Or.inr ⟨fault, rfl⟩
  | ok jo => exact Or.inl trivial

/-- **What a statement does**: it leaves the socket alone, and moves on. -/
theorem step_moves (taken : state.step tokener host cfg allocator = some next) :
    next.gsSock = state.gsSock ∧ next.listening = state.listening ∧
      Moves state next.point next.connections := by
  obtain ⟨gsSock, listening, connections, turnstile, world, point⟩ := state
  cases point with
  | waiting =>
    cases taken
    exact ⟨rfl, rfl, .evaluate rfl⟩
  | calling sock =>
    simp only [ServerState.step] at taken
    split at taken
    · rename_i isOpen
      cases taken
      exact ⟨rfl, rfl, .block rfl isOpen.2 isOpen.1⟩
    · rename_i notOpen
      cases taken
      exact ⟨rfl, rfl, .refuse rfl notOpen⟩
  | failed errno =>
    cases errno with
    | eintr =>
      cases taken
      exact ⟨rfl, rfl, .test rfl⟩
    | ebadf =>
      cases taken
      exact ⟨rfl, rfl, .exit rfl⟩
  | interrupted =>
    simp only [ServerState.step] at taken
    split at taken
    · rename_i noSock
      cases taken
      exact ⟨rfl, rfl, .leave rfl noSock⟩
    · rename_i hasSock
      cases taken
      exact ⟨rfl, rfl, .goOn rfl hasSock⟩
  | limiting peer =>
    cases taken
    exact ⟨rfl, rfl, .serve trivial (Or.inl (Point.serving_ite trivial trivial))⟩
  | reading peer =>
    cases taken
    exact ⟨rfl, rfl, .serve trivial (Or.inl trivial)⟩
  | interpreting peer joInput =>
    cases taken
    exact ⟨rfl, rfl, .serve trivial (answerPoint_serves host peer _)⟩
  | refusing peer nextRequestAt =>
    cases taken
    exact ⟨rfl, rfl, .serve trivial (answerPoint_serves host peer
      (responseToJson host (responseForRateLimit nextRequestAt)))⟩
  | answering peer index output =>
    simp only [ServerState.step] at taken
    split at taken
    · cases taken
      exact ⟨rfl, rfl, .serve trivial (Or.inr ⟨.errnoExit, rfl⟩)⟩
    · split at taken
      · cases taken
        exact ⟨rfl, rfl, .serve trivial (Or.inl trivial)⟩
      · cases taken
        exact ⟨rfl, rfl, .serve trivial (Or.inl trivial)⟩
  | closing =>
    cases taken
    exact ⟨rfl, rfl, .close rfl⟩
  | left =>
    cases taken
    exact ⟨rfl, rfl, .finish rfl⟩
  | blocked => cases taken
  | returned => cases taken
  | acceptExit => cases taken
  | stopped fault => cases taken

end

/-! ### Before and after a signal -/

/-- The process is about to accept a connection. -/
def Point.Accepting : Point → Prop
  | .waiting | .blocked | .interrupted | .failed .eintr => True
  | .calling sock => sock ≠ none
  | _ => False

/-- **No signal has come**: the socket is open, and the process stands in the loop, with no
connection open unless it serves a client. -/
structure Open (state : ServerState) : Prop where
  listening : state.listening = true
  hasSock : state.gsSock ≠ none
  inLoop : (state.point.Accepting ∧ state.connections = []) ∨
    (state.point.Serving ∧ state.connections.tail = []) ∨ ∃ fault, state.point = .stopped fault

/-- **A signal has come**: the socket is closed, and the process is not in `accept`. -/
structure Closed (state : ServerState) : Prop where
  notListening : state.listening = false
  noSock : state.gsSock = none
  notBlocked : state.point ≠ .blocked

section

variable {tokener : Tokener} {host : Host} {cfg : Cfg} {allocator : Allocator}
  {state next : ServerState}

theorem Point.Accepting.not_serving {point : Point} (accepting : point.Accepting) :
    ¬ point.Serving := by
  cases point <;> first | exact id | cases accepting

/-- No connection is open while the process accepts one. -/
theorem Open.no_connections (isOpen : Open state) (accepting : state.point.Accepting) :
    state.connections = [] := by
  rcases isOpen.inLoop with ⟨_, none⟩ | ⟨serving, _⟩ | ⟨fault, isStopped⟩
  · exact none
  · exact absurd serving accepting.not_serving
  · rw [isStopped] at accepting
    cases accepting

/-- No more than one connection is open while a client is served. -/
theorem Open.one_connection (isOpen : Open state) (serving : state.point.Serving) :
    state.connections.tail = [] := by
  rcases isOpen.inLoop with ⟨accepting, _⟩ | ⟨_, one⟩ | ⟨fault, isStopped⟩
  · exact absurd serving accepting.not_serving
  · exact one
  · rw [isStopped] at serving
    cases serving

/-- No other point is in the loop. -/
theorem Open.in_loop (isOpen : Open state) :
    state.point.Accepting ∨ state.point.Serving ∨ ∃ fault, state.point = .stopped fault := by
  rcases isOpen.inLoop with ⟨accepting, _⟩ | ⟨serving, _⟩ | isStopped
  · exact Or.inl accepting
  · exact Or.inr (Or.inl serving)
  · exact Or.inr (Or.inr isStopped)

/-- A point of the loop at which no client is served, and nothing has gone wrong. -/
theorem Open.accepting {point : Point} (isOpen : Open state) (isPoint : state.point = point)
    (notServing : ¬ point.Serving) (notStopped : ∀ fault, point ≠ .stopped fault) :
    point.Accepting := by
  subst isPoint
  rcases isOpen.in_loop with accepting | serving | ⟨fault, isStopped⟩
  · exact accepting
  · exact absurd serving notServing
  · exact absurd isStopped (notStopped fault)

/-- **A statement of the loop keeps the process in it**, until a signal comes. -/
theorem Open.step (isOpen : Open state)
    (taken : state.step tokener host cfg allocator = some next) : Open next := by
  obtain ⟨sameSock, sameListening, moves⟩ := step_moves taken
  refine ⟨sameListening.trans isOpen.listening, sameSock ▸ isOpen.hasSock, ?_⟩
  obtain ⟨gsSock, isListening, connections, turnstile, world, point⟩ := next
  have noConnections := isOpen.no_connections
  cases moves with
  | evaluate isPoint =>
    rw [isPoint] at noConnections
    exact Or.inl ⟨isOpen.hasSock, noConnections trivial⟩
  | block isPoint _ hasSock =>
    rw [isPoint] at noConnections
    exact Or.inl ⟨trivial, noConnections hasSock⟩
  | refuse isPoint notOpen =>
    have hasSock : Point.Accepting (.calling _) := isOpen.accepting isPoint id nofun
    exact absurd ⟨hasSock, isOpen.listening⟩ notOpen
  | test isPoint =>
    rw [isPoint] at noConnections
    exact Or.inl ⟨trivial, noConnections trivial⟩
  | exit isPoint => exact (isOpen.accepting isPoint id nofun).elim
  | leave _ noSock => exact absurd noSock isOpen.hasSock
  | goOn isPoint _ =>
    rw [isPoint] at noConnections
    exact Or.inl ⟨trivial, noConnections trivial⟩
  | serve serving serves =>
    rcases serves with stillServing | isStopped
    · exact Or.inr (Or.inl ⟨stillServing, isOpen.one_connection serving⟩)
    · exact Or.inr (Or.inr isStopped)
  | close isPoint =>
    have serving : state.point.Serving := by
      rw [isPoint]
      trivial
    exact Or.inl ⟨trivial, isOpen.one_connection serving⟩
  | finish isPoint => exact (isOpen.accepting isPoint id nofun).elim

/-- An interruption leaves the socket alone, and leads out of `accept`. -/
theorem interrupt_spec (state : ServerState) :
    state.interrupt.gsSock = state.gsSock ∧ state.interrupt.listening = state.listening ∧
      state.interrupt.connections = state.connections ∧
      ((state.point = .blocked ∧ state.interrupt.point = .failed .eintr) ∨
        (state.point ≠ .blocked ∧ state.interrupt = state)) := by
  obtain ⟨gsSock, listening, connections, turnstile, world, point⟩ := state
  cases point with
  | blocked => exact ⟨rfl, rfl, rfl, Or.inl ⟨rfl, rfl⟩⟩
  | _ => exact ⟨rfl, rfl, rfl, Or.inr ⟨by simp, rfl⟩⟩

/-- **Anything but a signal keeps the process in the loop.** -/
theorem Open.happens (isOpen : Open state) {event : Event}
    (happens : Happens tokener host cfg allocator state event next)
    (notSignal : event ≠ .signal) : Open next := by
  cases happens with
  | own taken => exact isOpen.step taken
  | connect peer isBlocked =>
    have none : state.connections = [] := isOpen.no_connections (by rw [isBlocked]; trivial)
    exact ⟨isOpen.listening, isOpen.hasSock, Or.inr (Or.inl ⟨trivial, none⟩)⟩
  | interrupt =>
    obtain ⟨sameSock, sameListening, sameConnections, moved⟩ := interrupt_spec state
    rcases moved with ⟨isBlocked, isFailed⟩ | ⟨_, same⟩
    · have none : state.connections = [] := isOpen.no_connections (by rw [isBlocked]; trivial)
      refine ⟨sameListening.trans isOpen.listening, sameSock ▸ isOpen.hasSock, Or.inl ⟨?_, ?_⟩⟩
      · rw [isFailed]
        trivial
      · rw [sameConnections, none]
    · rw [same]
      exact isOpen
  | signal => exact absurd rfl notSignal

/-- **Until a signal comes, the socket is open and the process stands in the loop.** -/
theorem Open.run {first : ServerState} {events : List Event} (isOpen : Open first)
    (run : Run (Happens tokener host cfg allocator) first events state)
    (noSignal : Event.signal ∉ events) : Open state := by
  induction run with
  | done _ => exact isOpen
  | more happens _ ih =>
    obtain ⟨notFirst, notLater⟩ := not_or.mp (List.mem_cons.not.mp noSignal)
    exact ih (isOpen.happens happens fun same => notFirst same.symm) notLater

theorem open_start (sock : Nat) (world : World) : Open (.start sock world) :=
  ⟨rfl, Option.some_ne_none sock, Or.inl ⟨trivial, rfl⟩⟩

/-! ### After a signal -/

/-- **A signal closes the socket**, and interrupts `accept`. -/
theorem Open.signal (isOpen : Open state) :
    Closed state.signal ∧
      ((state.point = .blocked ∧ state.signal.point = .failed .eintr) ∨
        (state.point ≠ .blocked ∧ state.signal.point = state.point)) ∧
      state.signal.connections = state.connections := by
  obtain ⟨sock, isSock⟩ := Option.ne_none_iff_exists'.mp isOpen.hasSock
  have closes : state.closeSock = { state with gsSock := none, listening := false } := by
    simp only [ServerState.closeSock, isSock]
  obtain ⟨sameSock, sameListening, sameConnections, moved⟩ := interrupt_spec state.closeSock
  rw [closes] at sameSock sameListening sameConnections moved
  have isSignal : state.signal =
      ServerState.interrupt { state with gsSock := none, listening := false } :=
    congrArg ServerState.interrupt closes
  rw [isSignal]
  rcases moved with ⟨isBlocked, isFailed⟩ | ⟨notBlocked, same⟩
  · refine ⟨⟨sameListening, sameSock, ?_⟩, Or.inl ⟨isBlocked, isFailed⟩, sameConnections⟩
    rw [isFailed]
    simp
  · rw [same]
    exact ⟨⟨rfl, rfl, notBlocked⟩, Or.inr ⟨notBlocked, rfl⟩, rfl⟩

/-- **A further signal does nothing.** -/
theorem Closed.signal (closed : Closed state) : state.signal = state := by
  have closes : state.closeSock = state := by
    simp only [ServerState.closeSock, closed.noSock]
  rw [ServerState.signal, closes]
  rcases (interrupt_spec state).2.2.2 with ⟨isBlocked, _⟩ | ⟨_, same⟩
  · exact absurd isBlocked closed.notBlocked
  · exact same

theorem Closed.step (closed : Closed state)
    (taken : state.step tokener host cfg allocator = some next) : Closed next := by
  obtain ⟨sameSock, sameListening, moves⟩ := step_moves taken
  refine ⟨sameListening.trans closed.notListening, sameSock.trans closed.noSock, ?_⟩
  intro isBlocked
  rw [isBlocked] at moves
  generalize next.connections = connections at moves
  cases moves with
  | block _ listening => cases closed.notListening.symm.trans listening
  | serve _ serves =>
    rcases serves with serving | ⟨fault, isStopped⟩
    · cases serving
    · cases isStopped

end

/-! ### Leaving in order -/

section

variable (tokener : Tokener) (host : Host) (cfg : Cfg) (allocator : Allocator)

/-- **The process leaves in order**: the turnstile is freed, `EX_OK` is returned, no connection is
left open, however often the signal comes again on the way. -/
structure LeavesInOrder (state : ServerState) : Prop where
  leaves : ∃ final, Settles tokener host cfg allocator state final ∧ final.point = .returned ∧
    final.connections = [] ∧ final.turnstile.pointer = none
  again : ∀ later,
    StateTransition.Reaches (ServerState.step tokener host cfg allocator) state later →
      later.signal = later

variable {tokener host cfg allocator} {state next : ServerState}

/-- A further signal does nothing on the way. -/
theorem Closed.again (closed : Closed state) {later : ServerState}
    (reaches : StateTransition.Reaches (ServerState.step tokener host cfg allocator) state later) :
    later.signal = later := by
  have stillClosed : Closed later := by
    induction reaches with
    | refl => exact closed
    | tail _ taken ih => exact ih.step taken
  exact stillClosed.signal

/-- The process is in `accept`, or has just been interrupted there. -/
def InAccept (state : ServerState) : Prop :=
  state.point = .blocked ∨ state.point = .failed .eintr ∨ state.point = .interrupted

/-- The process has been interrupted in `accept`, or has left the loop. -/
def Point.Leaving : Point → Prop
  | .failed .eintr | .interrupted | .left | .returned => True
  | _ => False

/-- A point in the loop that is also on the way out is right after an interruption. -/
theorem Point.Leaving.interrupted {point : Point} (leaving : point.Leaving)
    (inLoop : point.Accepting ∨ point.Serving ∨ ∃ fault, point = .stopped fault) :
    point = .failed .eintr ∨ point = .interrupted := by
  rcases inLoop with accepting | serving | ⟨fault, rfl⟩
  · cases point with
    | failed errno =>
      cases errno with
      | eintr => exact Or.inl rfl
      | ebadf => cases accepting
    | interrupted => exact Or.inr rfl
    | left | returned => cases accepting
    | _ => cases leaving
  · cases point <;> first | exact False.elim serving | exact False.elim leaving
  · cases leaving

/-- **The socket was closed while the process was not in `accept`**: it will not look at the socket
before it calls `accept`. -/
structure Doomed (state : ServerState) : Prop where
  closed : Closed state
  notLeaving : ¬ state.point.Leaving

/-- **A doomed process stays doomed.** -/
theorem Doomed.step (doomed : Doomed state)
    (taken : state.step tokener host cfg allocator = some next) : Doomed next := by
  refine ⟨doomed.closed.step taken, ?_⟩
  obtain ⟨_, _, moves⟩ := step_moves taken
  have notLeaving := doomed.notLeaving
  generalize next.connections = connections at moves
  generalize next.point = point at moves
  cases moves with
  | evaluate | block | refuse | exit | close => exact id
  | test isPoint | leave isPoint | goOn isPoint | finish isPoint =>
    rw [isPoint] at notLeaving
    exact absurd trivial notLeaving
  | serve _ serves =>
    rcases serves with serving | ⟨fault, rfl⟩
    · cases point <;> first | exact id | cases serving
    · exact id

theorem Doomed.reaches (doomed : Doomed state) {later : ServerState}
    (reaches : StateTransition.Reaches (ServerState.step tokener host cfg allocator) state later) :
    Doomed later := by
  induction reaches with
  | refl => exact doomed
  | tail _ taken ih => exact ih.step taken

/-- A doomed process never gets to the end of the loop. -/
theorem Doomed.not_leaves (doomed : Doomed state) :
    ¬ LeavesInOrder tokener host cfg allocator state := by
  rintro ⟨⟨final, settles, isReturned, _⟩, _⟩
  have notLeaving := (doomed.reaches (StateTransition.mem_eval.mp settles).1).notLeaving
  rw [isReturned] at notLeaving
  exact notLeaving trivial

/-- **A closed process that gets back to the top of the loop ends in `accept`.** -/
theorem Closed.exits (closed : Closed state) (isWaiting : state.point = .waiting) :
    Settles tokener host cfg allocator state { state with point := .acceptExit } := by
  obtain ⟨gsSock, listening, connections, turnstile, world, point⟩ := state
  cases isWaiting
  have refused : ServerState.step tokener host cfg allocator
      ⟨gsSock, listening, connections, turnstile, world, .calling gsSock⟩ =
        some ⟨gsSock, listening, connections, turnstile, world, .failed .ebadf⟩ :=
    if_neg fun both => both.1 closed.noSock
  exact .step rfl (.step refused (.step rfl (.rest rfl)))

/-- **A closed process that has just been interrupted leaves in order.** -/
theorem Closed.leaves (closed : Closed state) (noConnections : state.connections = [])
    (isPoint : state.point = .failed .eintr ∨ state.point = .interrupted) :
    LeavesInOrder tokener host cfg allocator state := by
  obtain ⟨gsSock, listening, connections, turnstile, world, point⟩ := state
  have noSock : gsSock = none := closed.noSock
  have fromTest : Settles tokener host cfg allocator
      ⟨gsSock, listening, connections, turnstile, world, .interrupted⟩
      ⟨gsSock, listening, connections, hmfree turnstile, world, .returned⟩ :=
    .step (if_pos noSock) (.step rfl (.rest rfl))
  refine ⟨⟨⟨gsSock, listening, connections, hmfree turnstile, world, .returned⟩, ?_, rfl,
    noConnections, rfl⟩, fun later reaches => closed.again reaches⟩
  rcases isPoint with rfl | rfl
  · exact .step rfl fromTest
  · exact fromTest

/-- **The process leaves in order exactly when the signal finds it in `accept`**, or just interrupted
there, in any run without a signal before. -/
theorem leavesInOrder_iff {sock : Nat} {world : World} {events : List Event}
    (run : Run (Happens tokener host cfg allocator) (.start sock world) events state)
    (noSignal : Event.signal ∉ events) :
    LeavesInOrder tokener host cfg allocator state.signal ↔ InAccept state := by
  have isOpen : Open state := (open_start sock world).run run noSignal
  obtain ⟨closed, moved, sameConnections⟩ := isOpen.signal
  constructor
  · intro leaves
    by_contra notInAccept
    obtain ⟨notBlocked, notInterrupted⟩ := not_or.mp notInAccept
    rcases moved with ⟨isBlocked, _⟩ | ⟨_, samePoint⟩
    · exact notBlocked isBlocked
    · have doomed : Doomed state.signal := by
        refine ⟨closed, fun leaving => ?_⟩
        rw [samePoint] at leaving
        exact notInterrupted (leaving.interrupted isOpen.in_loop)
      exact doomed.not_leaves leaves
  · intro inAccept
    have accepting : state.point.Accepting := by
      rcases inAccept with isPoint | isPoint | isPoint <;> rw [isPoint] <;> trivial
    have noConnections : state.signal.connections = [] :=
      sameConnections.trans (isOpen.no_connections accepting)
    apply closed.leaves noConnections
    rcases moved with ⟨_, isFailed⟩ | ⟨notBlocked, samePoint⟩
    · exact Or.inl isFailed
    · rw [samePoint]
      exact inAccept.resolve_left notBlocked

end

/-- A signal that finds the server in `accept`. -/
theorem blocked_leavesInOrder :
    LeavesInOrder emptyObjectTokener testHost testCfg ⟨fun _ => false⟩
      (ServerState.signal { ServerState.start 3 testWorld with point := .blocked }) := by
  have run : Run (Happens emptyObjectTokener testHost testCfg ⟨fun _ => false⟩)
      (.start 3 testWorld) [.own, .own] { ServerState.start 3 testWorld with point := .blocked } :=
    .more (.own rfl) (.single (.own rfl))
  exact (leavesInOrder_iff run (by simp)).mpr (Or.inl rfl)

/-- A client that is answered. -/
def patient : Peer :=
  { connection := ⟨2130706433, 0⟩
    reads := none
    accepts := fun _ => some bufsiz
    moments := fun _ => allUp 0 }

/-- A signal right before `accept`, or while a client is served, ends in `errno_exit("accept")`. -/
theorem served_not_leavesInOrder :
    (∃ last, Settles emptyObjectTokener testHost testCfg ⟨fun _ => false⟩
        (ServerState.start 3 testWorld).signal last ∧ last.point = .acceptExit) ∧
      ∃ events state, Run (Happens emptyObjectTokener testHost testCfg ⟨fun _ => false⟩)
        (.start 3 testWorld) events state ∧ Event.signal ∉ events ∧ state.point = .limiting patient ∧
        (∃ last, Settles emptyObjectTokener testHost testCfg ⟨fun _ => false⟩ state.signal last ∧
          last.point = .acceptExit) ∧
        ¬ LeavesInOrder emptyObjectTokener testHost testCfg ⟨fun _ => false⟩ state.signal := by
  have atTop : Closed (ServerState.start 3 testWorld).signal := (open_start 3 testWorld).signal.1
  have blocked : Run (Happens emptyObjectTokener testHost testCfg ⟨fun _ => false⟩)
      (.start 3 testWorld) [.own, .own] { ServerState.start 3 testWorld with point := .blocked } :=
    .more (.own rfl) (.single (.own rfl))
  have served := blocked.append (.single (.connect _ patient rfl))
  have settles : ∃ last, Settles emptyObjectTokener testHost testCfg ⟨fun _ => false⟩
      (ServerState.signal (ServerState.connect
        { ServerState.start 3 testWorld with point := .blocked } patient)) last ∧
        last.point = .acceptExit :=
    ⟨_, .step rfl (.step rfl (.step rfl (.step rfl (.step rfl (Closed.exits
      ⟨rfl, rfl, by simp⟩ rfl))))), rfl⟩
  refine ⟨⟨_, atTop.exits rfl, rfl⟩, _, _, served, by simp, rfl, settles, fun leaves => ?_⟩
  obtain ⟨last, lastSettles, isExit⟩ := settles
  obtain ⟨final, finalSettles, isReturned, _⟩ := leaves.leaves
  obtain rfl := lastSettles.unique finalSettles
  cases isExit.symm.trans isReturned

end Tchatator

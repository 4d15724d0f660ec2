/-
**The client never gets in** (`client.c`, against the server).

* `interpret_error` — a request that is parsed as an error is answered without a body, and leaves the
  database alone;
* `clientTurn_withoutBody` — without a body, a turn leaves the client as it is, or stops it;
* `session_step` — so whatever happens, the client stays as it was started, and the database is changed
  by others only;
* **`session_never_connects`** — in no session is the client ever connected, with whatever is chosen
  and typed, and the database is what the requests of others make of it.
-/

import Tchatator.Model.ClientSession
import Tchatator.Proof.ClientRequests
import Tchatator.Proof.Runs

namespace Tchatator

section

variable {reader : Int64Reader} {host : Host} {cfg : Cfg} {moment : Moment} {world : World}
  {state : ClientState} {choix : Int} {typed : Typed} {jo heard rep answer : Json}

/-! ### Answers without a body -/

/-- Nothing to read: no body, or no array of answers at all. -/
def WithoutBody (rep : Json) : Prop :=
  clientSendRequest rep = .ok .null ∨ ∃ fault, clientSendRequest rep = .error fault

theorem withoutBody_null : WithoutBody .null := Or.inr ⟨.assertion, rfl⟩

/-- An error has no body. -/
theorem withoutBody_error {stored : ActionError}
    (encoded : responseToJson host ⟨.error, false, .error stored⟩ = .ok answer) :
    WithoutBody (.array [answer]) := by
  simp only [responseToJson] at encoded
  split at encoded
  · cases encoded
  · cases encoded
    exact Or.inl rfl

/-- Nor has the array that holds it. -/
theorem withoutBody_errors {stored : ActionError}
    (encoded : (responseToJson host ⟨.error, false, .error stored⟩).map
      (fun jo => Json.array [jo]) = .ok answer) : WithoutBody answer := by
  cases isAnswer : responseToJson host ⟨.error, false, .error stored⟩ with
  | error fault =>
    rw [isAnswer] at encoded
    cases encoded
  | ok joError =>
    rw [isAnswer] at encoded
    cases encoded
    exact withoutBody_error isAnswer

/-- A single answer is no array of answers. -/
theorem withoutBody_refused {nextRequestAt : Int}
    (encoded : responseToJson host (responseForRateLimit nextRequestAt) = .ok answer) :
    WithoutBody answer := by
  cases encoded
  exact Or.inr ⟨.assertion, rfl⟩

theorem Arrives.withoutBody (arrives : Arrives answer rep) (withoutBody : WithoutBody answer) :
    WithoutBody rep := by
  rcases arrives with rfl | rfl
  · exact withoutBody
  · exact withoutBody_null

/-- **Without a body**, a turn leaves the client as it is, or stops it. -/
theorem afterTurn_withoutBody (reader : Int64Reader) (state : ClientState) (choix : Int)
    (withoutBody : WithoutBody rep) :
    ∀ next ∈ afterTurn reader state choix rep, next ∈ some state := by
  intro next isNext
  rcases withoutBody with isNull | ⟨fault, stopped⟩
  · have unchanged : clientTurn reader state choix rep = .ok state := by
      rw [clientTurn, isNull]
      simp only [bind, Except.bind]
      split
      all_goals first | rfl | contradiction
    rw [afterTurn, unchanged] at isNext
    exact isNext
  · have isStopped : clientTurn reader state choix rep = .error fault := by
      rw [clientTurn, stopped]
      rfl
    rw [afterTurn, isStopped] at isNext
    cases isNext

/-! ### Requests of the client -/

/-- **A request that is parsed as an error** is answered without a body, in the same database. -/
theorem interpret_error (moments : Nat → Moment) {members : List (CString × Json)}
    {stored : ActionError}
    (failed : parseAction (moments 0) world.db (.object members) = .error stored) :
    (tchatator413Interpret host cfg moments world (.object members)).world = world ∧
      ∀ answer, (tchatator413Interpret host cfg moments world (.object members)).output =
        .ok answer → WithoutBody answer := by
  have parsed : actionParse (moments 0) world.db (.object members) = .error stored := by
    rw [actionParse, failed]
  simp only [tchatator413Interpret, act, parsed]
  refine ⟨rfl, fun answer answered => ?_⟩
  have isEncoded : (responseToJson host ⟨.error, false, .error stored⟩).map
      (fun jo => Json.array [jo]) = .ok answer := answered
  exact withoutBody_errors isEncoded

/-- The client sends objects. -/
theorem menuRequest_object {token : Int} (sent : menuRequest token typed choix = some jo) :
    ∃ members, jo = .object members := by
  unfold menuRequest at sent
  split at sent <;> cases sent <;> exact ⟨_, rfl⟩

/-- **No request of the client does anything.** -/
theorem menuRequest_inert {token : Int} (sent : menuRequest token typed choix = some jo)
    (arrives : Arrives jo heard) (host : Host) (cfg : Cfg) (moments : Nat → Moment)
    (world : World) :
    (tchatator413Interpret host cfg moments world heard).world = world ∧
      ∀ answer, (tchatator413Interpret host cfg moments world heard).output = .ok answer →
        WithoutBody answer := by
  rcases arrives with rfl | rfl
  · obtain ⟨members, rfl⟩ := menuRequest_object sent
    obtain ⟨stored, failed⟩ := menuRequest_refused (moments 0) world.db sent
    exact interpret_error moments failed
  · refine ⟨rfl, fun answer answered => ?_⟩
    have isAnswer : (responseToJson host (notARequest .null)).map
        (fun jo => Json.array [jo]) = .ok answer := answered
    exact withoutBody_errors isAnswer

/-! ### Sessions -/

/-- The action of somebody else. -/
def SessionEvent.otherExchange : SessionEvent → Option Exchange
  | .menu _ _ => none
  | .other handled => some handled

/-- **One thing that happens** leaves the client as it is, or stops it; only others change the
database. -/
theorem session_step {client next : Option ClientState} {after : World} {event : SessionEvent}
    (happens : SessionStep reader host cfg (client, world) event (next, after)) :
    (∀ state ∈ next, state ∈ client) ∧
      Run (Handles host cfg) world event.otherExchange.toList after := by
  cases happens with
  | nothing _ _ => exact ⟨fun _ member => member, .done world⟩
  | leaves => exact ⟨nofun, .done world⟩
  | unreached _ => exact ⟨nofun, .done world⟩
  | @answered state _ choix typed moments jo heard answer rep sent arrives answered replies =>
    obtain ⟨sameWorld, withoutBody⟩ := menuRequest_inert sent arrives host cfg moments world
    rw [sameWorld]
    have noBody := replies.withoutBody (withoutBody answer answered)
    exact ⟨afterTurn_withoutBody reader state choix noBody, .done world⟩
  | @unanswered state _ choix typed moments jo heard fault sent arrives _ =>
    rw [(menuRequest_inert sent arrives host cfg moments world).1]
    exact ⟨afterTurn_withoutBody reader state choix withoutBody_null, .done world⟩
  | @refused state _ choix typed nextRequestAt jo answer rep _ encoded replies =>
    have noBody := replies.withoutBody (withoutBody_refused encoded)
    exact ⟨afterTurn_withoutBody reader state choix noBody, .done world⟩
  | other => exact ⟨fun _ member => member, .single (handles_act host cfg _ world _)⟩

/-- A session leaves the client as it is, or stops it. -/
theorem session_run {before last : Session} {events : List SessionEvent}
    (run : Run (SessionStep reader host cfg) before events last) :
    (∀ state ∈ last.1, state ∈ before.1) ∧
      Run (Handles host cfg) before.2 (events.filterMap SessionEvent.otherExchange) last.2 := by
  induction run with
  | done session => exact ⟨fun _ member => member, .done session.2⟩
  | @more before between last event events happens _ ih =>
    obtain ⟨stays, handles⟩ := session_step happens
    obtain ⟨staysLater, handlesLater⟩ := ih
    refine ⟨fun state member => stays state (staysLater state member), ?_⟩
    have together := handles.append handlesLater
    cases event with
    | menu choix typed => exact together
    | other handled => exact together

/-- **The client never gets in**: whatever is chosen and typed, however often the server is reached,
answers or refuses, and whatever others ask it in between, the client stays unconnected and without a
token as long as it runs, and the database is what the requests of others make of it. -/
theorem session_never_connects {events : List SessionEvent} {client : Option ClientState}
    {last : World} (run : Run (SessionStep reader host cfg) (some .start, world) events
      (client, last)) :
    (∀ state ∈ client, state = .start) ∧
      Run (Handles host cfg) world (events.filterMap SessionEvent.otherExchange) last := by
  obtain ⟨stays, handles⟩ := session_run run
  exact ⟨fun state member => (Option.some.inj (stays state member)).symm, handles⟩

end

/-- A user looks into the inbox, and somebody else asks for nothing. -/
theorem inbox_never_connects :
    ∃ (events : List SessionEvent) (client : Option ClientState) (last : World),
      events.filterMap SessionEvent.otherExchange ≠ [] ∧ client = some .start ∧
      (∀ state ∈ client, state = .start) ∧ Run (Handles testHost testCfg) testWorld
        (events.filterMap SessionEvent.otherExchange) last := by
  have sent : menuRequest ClientState.start.token typedSalut 6 = some (clientInbox 0) := rfl
  obtain ⟨answer, answered, stays⟩ : ∃ answer,
      (tchatator413Interpret testHost testCfg (fun _ => allUp 0) testWorld (clientInbox 0)).output =
        .ok answer ∧ afterTurn ⟨fun _ => 0⟩ .start 6 answer = some .start := ⟨_, rfl, rfl⟩
  have asks : SessionStep ⟨fun _ => 0⟩ testHost testCfg _ _ _ :=
    .answered sent (Or.inl rfl) answered (Or.inl rfl)
  rw [stays] at asks
  have other : SessionStep ⟨fun _ => 0⟩ testHost testCfg (some .start, testWorld)
      (.other (act testHost testCfg (allUp 0) testWorld (.object [])).2) _ := .other
  have run := Run.more asks (.single other)
  exact ⟨_, _, _, by simp [SessionEvent.otherExchange], rfl, session_never_connects run⟩

end Tchatator

/-
**Accepting connections** (`BxpServer::accept` of `src/server.rs`, and the loops around it).

`accept` waits for an incoming connection, for its handshake and for its control stream.  It returns
`None` when the endpoint is closed, and also when the handshake or the control stream fails; the
loop of every server, `while let Some(connection) = server.accept().await`, cannot tell the three
apart.  So the loop serves all the connections there are as long as no attempt fails, and is over
after the first that does.

Main definitions:

* `Bxp.Incoming`, `Bxp.BxpServer`, `Bxp.BxpServer.accept` — the attempts, the server, and `accept`;
* `Bxp.AcceptLoop`, `Bxp.AcceptLoop.step` — the loop, while attempts arrive;
* `Bxp.ServesAll` — the loop yields every connection, and ends when the endpoint is closed.

Main results:

* `Bxp.BxpServer.accept_failed_eq_closed` — a failed attempt and a closed endpoint look the same;
* `Bxp.AcceptLoop.Inv.step` — the invariant of the loop, as long as no attempt fails;
* `Bxp.servesAll_iff` — **the loop does what it should on exactly the lists of attempts without a
  failed one**.
-/

import BxpCore.Connection
import BxpCore.Machine

set_option relaxedAutoImplicit false
set_option autoImplicit false

namespace Bxp

open Machine

/-! ### The definitions -/

/-- An incoming connection attempt, with what becomes of it: the handshake fails, the control stream
fails on a connection, or both are there. -/
inductive Incoming
  | handshakeFails
  | controlStreamFails (quicConn : Connection)
  | completes (quicConn : Connection) (controlSend : SendStream) (controlRecv : RecvStream)

/-- The server's connection out of an attempt that completes. -/
def Incoming.connection : Incoming → Option BxpServerConnection
  | completes quicConn controlSend controlRecv =>
      some { quicConn, controlSend, controlRecv, msgBufs := [] }
  | _ => none

/-- The attempt completes. -/
def Incoming.Completes : Incoming → Prop
  | completes _ _ _ => True
  | _ => False

/-- `BxpServer`: the attempts waiting at its endpoint, whether the endpoint is closed, and the
connections `accept` has closed. -/
structure BxpServer where
  incoming : List Incoming
  endpointClosed : Bool
  refused : List Connection

/-- `accept`: the next connection, if it works out.  Without an attempt and with the endpoint open
the call is pending. -/
def BxpServer.accept (server : BxpServer) : Option (Option BxpServerConnection × BxpServer) :=
  match server.incoming with
  | [] => if server.endpointClosed then some (none, server) else none
  | .handshakeFails :: incoming => some (none, { server with incoming := incoming })
  | .controlStreamFails quicConn :: incoming =>
      some (none,
        { server with incoming := incoming, refused := server.refused ++ [quicConn.close 1] })
  | .completes quicConn controlSend controlRecv :: incoming =>
      some (some { quicConn, controlSend, controlRecv, msgBufs := [] },
        { server with incoming := incoming })

/-- A server and its loop: the attempts that have not arrived yet, the server, the connections the
loop has yielded, and whether it still runs. -/
structure AcceptLoop where
  attempts : List Incoming
  server : BxpServer
  yielded : List BxpServerConnection
  running : Bool

namespace AcceptLoop

/-- A loop that has just started, with the attempts that are going to arrive. -/
def start (attempts : List Incoming) : AcceptLoop where
  attempts := attempts
  server := { incoming := [], endpointClosed := false, refused := [] }
  yielded := []
  running := true

/-- The next attempt arrives, or after all of them the endpoint is closed; or the loop goes on. -/
inductive Event
  | arrive
  | accept

/-- `while let Some(connection) = server.accept().await`, while attempts arrive. -/
def step (s : AcceptLoop) : Event → Option AcceptLoop
  | .arrive =>
      match s.attempts with
      | attempt :: attempts =>
          some { s with
            attempts := attempts
            server := { s.server with incoming := s.server.incoming ++ [attempt] } }
      | [] =>
          if s.server.endpointClosed then none
          else some { s with server := { s.server with endpointClosed := true } }
  | .accept =>
      if s.running then
        s.server.accept.map fun p =>
          match p.1 with
          | some connection => { s with server := p.2, yielded := s.yielded ++ [connection] }
          | none => { s with server := p.2, running := false }
      else none

end AcceptLoop

/-- **No failed attempt stops the loop**: in whatever order the attempts arrive and are accepted,
the loop is only over when the endpoint is closed, and in the end it is over and has yielded the
connections of all the attempts that complete, in order. -/
def ServesAll (attempts : List Incoming) : Prop :=
  ∀ s, Reachable AcceptLoop.step (AcceptLoop.start attempts) s →
    (s.running = false → s.server.endpointClosed = true) ∧
      (Stuck AcceptLoop.step s →
        s.running = false ∧ s.yielded = attempts.filterMap Incoming.connection)

/-! ### Accepting -/

namespace BxpServer

/-- An attempt that completes is returned. -/
theorem accept_of_completes {server : BxpServer} {attempt : Incoming} {incoming : List Incoming}
    (h : attempt.Completes) (hs : server.incoming = attempt :: incoming) :
    ∃ connection, attempt.connection = some connection ∧
      server.accept = some (some connection, { server with incoming := incoming }) := by
  cases attempt with
  | handshakeFails => exact h.elim
  | controlStreamFails quicConn => exact h.elim
  | completes quicConn controlSend controlRecv =>
      refine ⟨_, rfl, ?_⟩
      rw [accept, hs]

/-- An attempt that fails makes `accept` return `None`. -/
theorem accept_of_fails {server : BxpServer} {attempt : Incoming} {incoming : List Incoming}
    (h : ¬ attempt.Completes) (hs : server.incoming = attempt :: incoming) :
    ∃ server', server.accept = some (none, server') ∧
      server'.endpointClosed = server.endpointClosed := by
  cases attempt with
  | handshakeFails =>
      refine ⟨{ server with incoming := incoming }, ?_, rfl⟩
      rw [accept, hs]
  | controlStreamFails quicConn =>
      refine ⟨{ server with
        incoming := incoming, refused := server.refused ++ [quicConn.close 1] }, ?_, rfl⟩
      rw [accept, hs]
  | completes quicConn controlSend controlRecv => exact absurd trivial h

theorem accept_of_nil {server : BxpServer} (hs : server.incoming = [])
    (hc : server.endpointClosed = true) : server.accept = some (none, server) := by
  rw [accept, hs]
  exact if_pos hc

/-- **A failed attempt and a closed endpoint look the same** to the caller. -/
theorem accept_failed_eq_closed {server closed : BxpServer} {attempt : Incoming}
    {incoming : List Incoming} (h : ¬ attempt.Completes)
    (hs : server.incoming = attempt :: incoming) (hnil : closed.incoming = [])
    (hc : closed.endpointClosed = true) :
    server.accept.map Prod.fst = closed.accept.map Prod.fst := by
  obtain ⟨server', haccept, -⟩ := accept_of_fails h hs
  rw [haccept, accept_of_nil hnil hc, Option.map_some, Option.map_some]

end BxpServer

/-! ### The loop, as long as no attempt fails -/

namespace AcceptLoop

/-- What has been yielded, what waits at the endpoint and what has not arrived make up `all`, and
none of it fails; the endpoint is closed behind the last attempt, and the loop is over behind
that. -/
structure Inv (all : List Incoming) (s : AcceptLoop) : Prop where
  completes : ∀ attempt ∈ s.server.incoming ++ s.attempts, attempt.Completes
  yielded : s.yielded ++ (s.server.incoming ++ s.attempts).filterMap Incoming.connection
    = all.filterMap Incoming.connection
  closed : s.server.endpointClosed = true → s.attempts = []
  left : s.running = false → s.server.endpointClosed = true ∧ s.server.incoming = []

theorem inv_start {attempts : List Incoming} (h : ∀ attempt ∈ attempts, attempt.Completes) :
    Inv attempts (start attempts) where
  completes := h
  yielded := rfl
  closed := by
    intro hclosed
    cases hclosed
  left := by
    intro hover
    cases hover

/-- An arrival keeps the invariant. -/
theorem Inv.arrive {all : List Incoming} {s t : AcceptLoop} (h : Inv all s)
    (hstep : s.step .arrive = some t) : Inv all t := by
  obtain ⟨attempts, server, yielded, running⟩ := s
  cases attempts with
  | nil =>
      rw [step] at hstep
      dsimp only at hstep
      split at hstep
      · cases hstep
      · rw [Option.some.injEq] at hstep
        subst hstep
        exact ⟨h.completes, h.yielded, fun _ => rfl, fun hover => ⟨rfl, (h.left hover).2⟩⟩
  | cons attempt attempts =>
      rw [step, Option.some.injEq] at hstep
      subst hstep
      -- nothing arrives at an endpoint that is closed
      have hopen : ¬ server.endpointClosed = true := by
        intro hclosed
        cases h.closed hclosed
      refine ⟨?_, ?_, fun hclosed => absurd hclosed hopen, ?_⟩
      · simpa using h.completes
      · simpa using h.yielded
      · intro hover
        exact absurd (h.left hover).1 hopen

/-- A call of `accept` keeps the invariant. -/
theorem Inv.accept {all : List Incoming} {s t : AcceptLoop} (h : Inv all s)
    (hstep : s.step .accept = some t) : Inv all t := by
  rw [step] at hstep
  split at hstep
  · next hrunning =>
      obtain ⟨⟨result, server'⟩, haccept, rfl⟩ := Option.map_eq_some_iff.1 hstep
      cases hincoming : s.server.incoming with
      | nil =>
          cases hclosed : s.server.endpointClosed with
          | false =>
              rw [BxpServer.accept, hincoming] at haccept
              simp [hclosed] at haccept
          | true =>
              rw [BxpServer.accept_of_nil hincoming hclosed, Option.some.injEq,
                Prod.mk.injEq] at haccept
              obtain ⟨rfl, rfl⟩ := haccept
              exact ⟨h.completes, h.yielded, h.closed, fun _ => ⟨hclosed, hincoming⟩⟩
      | cons attempt incoming =>
          have hcompletes := h.completes
          have hyielded := h.yielded
          rw [hincoming, List.cons_append] at hcompletes hyielded
          obtain ⟨connection, hconnection, hsome⟩ :=
            BxpServer.accept_of_completes (hcompletes attempt List.mem_cons_self) hincoming
          rw [hsome, Option.some.injEq, Prod.mk.injEq] at haccept
          obtain ⟨rfl, rfl⟩ := haccept
          refine ⟨?_, ?_, h.closed, ?_⟩
          · intro a ha
            exact hcompletes a (List.mem_cons_of_mem attempt ha)
          · rw [List.filterMap_cons_some hconnection] at hyielded
            simpa using hyielded
          · intro hover
            rw [hrunning] at hover
            cases hover
  · cases hstep

/-- **The invariant of the loop.** -/
theorem Inv.step {all : List Incoming} {s t : AcceptLoop} {e : Event} (h : Inv all s)
    (hstep : s.step e = some t) : Inv all t := by
  cases e with
  | arrive => exact h.arrive hstep
  | accept => exact h.accept hstep

/-- When nothing more can happen the endpoint is closed and the loop is over. -/
theorem Inv.over_of_stuck {all : List Incoming} {s : AcceptLoop} (h : Inv all s)
    (hstuck : Stuck AcceptLoop.step s) : s.attempts = [] ∧ s.running = false := by
  have harrive := hstuck .arrive
  have haccept := hstuck .accept
  have hattempts : s.attempts = [] := by
    cases hattempts : s.attempts with
    | nil => rfl
    | cons attempt attempts => simp [AcceptLoop.step, hattempts] at harrive
  have hclosed : s.server.endpointClosed = true := by
    by_contra hopen
    simp [AcceptLoop.step, hattempts, hopen] at harrive
  refine ⟨hattempts, ?_⟩
  by_contra hrunning
  rw [Bool.not_eq_false] at hrunning
  cases hincoming : s.server.incoming with
  | nil =>
      have hnone := BxpServer.accept_of_nil hincoming hclosed
      simp [AcceptLoop.step, hrunning, hnone] at haccept
  | cons attempt incoming =>
      have hcompletes := h.completes attempt (by rw [hincoming]; simp)
      obtain ⟨connection, -, hsome⟩ := BxpServer.accept_of_completes hcompletes hincoming
      simp [AcceptLoop.step, hrunning, hsome] at haccept

/-! ### The loop, when an attempt fails -/

/-- A loop that runs, has accepted all that arrived, and has an attempt to come that fails, can be
over with the endpoint open. -/
theorem exists_over_open {attempts : List Incoming} (h : ∃ a ∈ attempts, ¬ a.Completes)
    (refused : List Connection) (yielded : List BxpServerConnection) :
    ∃ s, Reachable step
      { attempts := attempts, server := { incoming := [], endpointClosed := false, refused := refused },
        yielded := yielded, running := true } s ∧
      s.running = false ∧ s.server.endpointClosed = false := by
  induction attempts generalizing yielded with
  | nil =>
      obtain ⟨a, ha, -⟩ := h
      cases ha
  | cons attempt attempts ih =>
      -- the attempt arrives and is accepted at once
      let arrived : AcceptLoop :=
        { attempts := attempts,
          server := { incoming := [attempt], endpointClosed := false, refused := refused },
          yielded := yielded, running := true }
      have hincoming : arrived.server.incoming = [attempt] := rfl
      by_cases hcompletes : attempt.Completes
      · obtain ⟨connection, -, haccept⟩ := BxpServer.accept_of_completes hcompletes hincoming
        have hrest : ∃ a ∈ attempts, ¬ a.Completes := by
          obtain ⟨a, ha, hfails⟩ := h
          rcases List.mem_cons.1 ha with rfl | ha
          · exact absurd hcompletes hfails
          · exact ⟨a, ha, hfails⟩
        obtain ⟨s, hreach, hover⟩ := ih hrest (yielded ++ [connection])
        refine ⟨s, Reachable.head (t := arrived) (e := .arrive) rfl ?_, hover⟩
        refine Reachable.head (e := .accept) ?_ hreach
        rw [step, haccept]
        rfl
      · obtain ⟨server', haccept, hopen⟩ := BxpServer.accept_of_fails hcompletes hincoming
        refine ⟨{ arrived with server := server', running := false },
          Reachable.head (t := arrived) (e := .arrive) rfl ?_, rfl, hopen⟩
        refine Reachable.head (e := .accept) ?_ (Reachable.refl _)
        rw [step, haccept]
        rfl

end AcceptLoop

/-- A failed attempt can stop the loop. -/
theorem not_servesAll_of_fails {attempts : List Incoming}
    (h : ∃ attempt ∈ attempts, ¬ attempt.Completes) : ¬ ServesAll attempts := by
  intro hserves
  obtain ⟨s, hreach, hover, hopen⟩ := AcceptLoop.exists_over_open h [] []
  have hclosed := (hserves s hreach).1 hover
  rw [hopen] at hclosed
  cases hclosed

/-- **The loop does what it should on exactly the lists of attempts without a failed one.** -/
theorem servesAll_iff (attempts : List Incoming) :
    ServesAll attempts ↔ ∀ attempt ∈ attempts, attempt.Completes := by
  constructor
  · intro hserves attempt hmem
    by_contra hfails
    exact not_servesAll_of_fails ⟨attempt, hmem, hfails⟩ hserves
  · intro hcompletes s hreach
    have hinv : AcceptLoop.Inv attempts s :=
      hreach.inv (fun s e t h hstep => h.step hstep) (AcceptLoop.inv_start hcompletes)
    refine ⟨fun hover => (hinv.left hover).1, ?_⟩
    intro hstuck
    obtain ⟨hattempts, hover⟩ := hinv.over_of_stuck hstuck
    have hyielded := hinv.yielded
    rw [(hinv.left hover).2, hattempts, List.append_nil, List.filterMap_nil,
      List.append_nil] at hyielded
    exact ⟨hover, hyielded⟩

/-- One failed handshake, and one client that does everything right. -/
theorem not_servesAll_failed_handshake :
    ¬ ServesAll [.handshakeFails,
      .completes .established { buf := [], flow := .takes } { unread := [], ended := none }] :=
  not_servesAll_of_fails ⟨.handshakeFails, List.mem_cons_self, id⟩

end Bxp

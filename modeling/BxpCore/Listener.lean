/-
**Accepting, step by step.**

`accept` waits three times: for an attempt at the endpoint, for its handshake, and for the client to
open the control stream.  The loop of a server calls it again only when it has returned.  So the
clients are served in the order of their arrival, and one that connects and then does nothing holds
up all that come behind it; how far those have got makes no difference.

`BxpCore/Accept.lean` has `accept` as one step.  Here it is taken apart, while the clients get on in
any order; the machine refines the one there, so that nothing was lost by that.

Main definitions:

* `Bxp.Attempt`, `Bxp.Stage` — an attempt, and how far its client has got;
* `Bxp.AcceptCall` — where the call of `accept` is;
* `Bxp.Listener`, `Bxp.Listener.step` — the endpoint and the loop;
* `Bxp.Listener.Inv` — the invariant.

Main results:

* `Bxp.Listener.Inv.step` — every step keeps the invariant;
* `Bxp.listener_refines` — **accepting step by step yields what accepting at once does**;
* `Bxp.no_overtaking` — **no client is served before those that came first**, and none behind one
  that does not open its control stream.
-/

import BxpCore.Accept
import BxpCore.Spawn

set_option relaxedAutoImplicit false
set_option autoImplicit false

namespace Bxp

open Machine

/-! ### The machine -/

/-- How far the client of an attempt has got: it has arrived, its handshake is over, or the wait for
its control stream is. -/
inductive Stage
  | arrived
  | handshaken
  | opened
  deriving DecidableEq, Repr

/-- The next stage of a client. -/
def Stage.next : Stage → Option Stage
  | .arrived => some .handshaken
  | .handshaken => some .opened
  | .opened => none

/-- An attempt at the endpoint: what is going to become of it, and how far it has got. -/
structure Attempt where
  outcome : Incoming
  stage : Stage

/-- Where the loop is: in `endpoint.accept()`, in `incoming`, in `accept_bi()`, or over. -/
inductive AcceptCall
  | accepting
  | handshaking
  | opening
  | over
  deriving DecidableEq, Repr

/-- The attempts that have arrived, how many of them `endpoint.accept()` has handed out and the loop
is done with, the connections refused, the connections yielded, and where the loop is. -/
structure Listener where
  attempts : List Attempt
  taken : ℕ
  endpointClosed : Bool
  refused : List Connection
  yielded : List BxpServerConnection
  call : AcceptCall

namespace Listener

/-- A server that has just been bound, with its loop. -/
def start : Listener where
  attempts := []
  taken := 0
  endpointClosed := false
  refused := []
  yielded := []
  call := .accepting

/-- An attempt arrives, a client gets on, the endpoint is closed, or the loop goes on. -/
inductive Event
  | arrive (outcome : Incoming)
  | progress (i : ℕ)
  | close
  | accept

/-- One step of the loop.  It waits as long as the call it is in. -/
def accept (s : Listener) : Option Listener :=
  match s.call, s.attempts[s.taken]? with
  | .accepting, some _ => some { s with call := .handshaking }
  -- `endpoint.accept()` returns `None` when the endpoint is closed
  | .accepting, none => if s.endpointClosed then some { s with call := .over } else none
  | .handshaking, some attempt =>
      match attempt.stage, attempt.outcome with
      | .arrived, _ => none
      | _, .handshakeFails => some { s with taken := s.taken + 1, call := .over }
      | _, _ => some { s with call := .opening }
  | .opening, some attempt =>
      match attempt.stage, attempt.outcome with
      | .opened, .completes quicConn controlSend controlRecv =>
          some { s with
            taken := s.taken + 1
            yielded := s.yielded ++ [{ quicConn, controlSend, controlRecv, msgBufs := [] }]
            call := .accepting }
      | .opened, .controlStreamFails quicConn =>
          some { s with
            taken := s.taken + 1
            refused := s.refused ++ [quicConn.close 1]
            call := .over }
      | _, _ => none
  | _, _ => none

/-- The machine of a server that accepts. -/
def step (s : Listener) : Event → Option Listener
  | .arrive outcome =>
      if s.endpointClosed then none
      else some { s with attempts := s.attempts ++ [{ outcome, stage := .arrived }] }
  | .progress i =>
      (s.attempts[i]?).bind fun attempt =>
        attempt.stage.next.map fun stage =>
          { s with attempts := s.attempts.set i { attempt with stage := stage } }
  | .close => if s.endpointClosed then none else some { s with endpointClosed := true }
  | .accept => s.accept

/-- The steps of the loop that returns from `accept`, or goes on to its next wait. -/
inductive Accepts (s : Listener) : Listener → Prop
  | takes {attempt : Attempt} (hcall : s.call = .accepting)
      (hnext : s.attempts[s.taken]? = some attempt) :
      Accepts s { s with call := .handshaking }
  | closed (hcall : s.call = .accepting) (hnext : s.attempts[s.taken]? = none)
      (hclosed : s.endpointClosed = true) : Accepts s { s with call := .over }
  | handshakeFails {attempt : Attempt} (hcall : s.call = .handshaking)
      (hnext : s.attempts[s.taken]? = some attempt) (hfails : attempt.outcome = .handshakeFails) :
      Accepts s { s with taken := s.taken + 1, call := .over }
  | handshaken {attempt : Attempt} (hcall : s.call = .handshaking)
      (hnext : s.attempts[s.taken]? = some attempt) : Accepts s { s with call := .opening }
  | yields {attempt : Attempt} {c : BxpServerConnection} (hcall : s.call = .opening)
      (hnext : s.attempts[s.taken]? = some attempt) (hopened : attempt.stage = .opened)
      (hconn : attempt.outcome.connection = some c) :
      Accepts s { s with
        taken := s.taken + 1, yielded := s.yielded ++ [c], call := .accepting }
  | refuses {attempt : Attempt} {quicConn : Connection} (hcall : s.call = .opening)
      (hnext : s.attempts[s.taken]? = some attempt)
      (hfails : attempt.outcome = .controlStreamFails quicConn) :
      Accepts s { s with
        taken := s.taken + 1, refused := s.refused ++ [quicConn.close 1], call := .over }

variable {s t : Listener}

/-- **These are all the steps of the loop.** -/
theorem accepts_of_accept (h : s.accept = some t) : Accepts s t := by
  unfold accept at h
  split at h
  · next hcall hnext => exact Option.some.inj h ▸ Accepts.takes hcall hnext
  · next hcall hnext =>
      split at h
      · next hclosed => exact Option.some.inj h ▸ Accepts.closed hcall hnext hclosed
      · cases h
  · next attempt hcall hnext =>
      split at h
      · cases h
      · next hfails hstage => exact Option.some.inj h ▸ Accepts.handshakeFails hcall hnext hfails
      · exact Option.some.inj h ▸ Accepts.handshaken hcall hnext
  · next attempt hcall hnext =>
      split at h
      · next hopened hcompletes =>
          refine Option.some.inj h ▸ Accepts.yields hcall hnext hopened ?_
          rw [hcompletes, Incoming.connection]
      · next hopened hfails => exact Option.some.inj h ▸ Accepts.refuses hcall hnext hfails
      · cases h
  · cases h

end Listener

/-! ### The invariant -/

namespace Listener

/-- The connections yielded are those of the first attempts, all of which have opened their control
streams; and as long as the loop goes on, it is done with these and no others. -/
structure Inv (s : Listener) : Prop where
  taken_le : s.taken ≤ s.attempts.length
  served : (s.attempts.take s.yielded.length).map (fun attempt => attempt.outcome.connection)
    = s.yielded.map some
  opened : ∀ attempt ∈ s.attempts.take s.yielded.length, attempt.stage = .opened
  yielded_le : s.yielded.length ≤ s.taken
  in_turn : s.call ≠ .over → s.yielded.length = s.taken

variable {s t : Listener}

theorem inv_start : Inv start where
  taken_le := Nat.le_refl 0
  served := rfl
  opened := by
    intro attempt hattempt
    cases hattempt
  yielded_le := Nat.le_refl 0
  in_turn := fun _ => rfl

/-- An arrival comes behind the others. -/
theorem Inv.arrive (h : Inv s) (attempt : Attempt) :
    Inv { s with attempts := s.attempts ++ [attempt] } := by
  have htake : (s.attempts ++ [attempt]).take s.yielded.length = s.attempts.take s.yielded.length :=
    List.take_append_of_le_length (Nat.le_trans h.yielded_le h.taken_le)
  refine ⟨?_, ?_, ?_, h.yielded_le, h.in_turn⟩
  · rw [List.length_append]
    exact Nat.le_trans h.taken_le (Nat.le_add_right _ _)
  · rw [htake]
    exact h.served
  · rw [htake]
    exact h.opened

/-- A client that gets on is not among those that are served: these are at their last stage. -/
theorem Inv.progress (h : Inv s) {i : ℕ} {attempt : Attempt} {stage : Stage}
    (hi : s.attempts[i]? = some attempt) (hnext : attempt.stage.next = some stage) :
    Inv { s with attempts := s.attempts.set i { attempt with stage := stage } } := by
  have hge : s.yielded.length ≤ i := by
    by_contra hlt
    have hmem : attempt ∈ s.attempts.take s.yielded.length := by
      refine List.mem_of_getElem? (i := i) ?_
      rw [List.getElem?_take_of_lt (Nat.not_le.1 hlt), hi]
    rw [h.opened attempt hmem] at hnext
    cases hnext
  have htake : (s.attempts.set i { attempt with stage := stage }).take s.yielded.length
      = s.attempts.take s.yielded.length := List.take_set_of_le hge
  refine ⟨?_, ?_, ?_, h.yielded_le, h.in_turn⟩
  · rw [List.length_set]
    exact h.taken_le
  · rw [htake]
    exact h.served
  · rw [htake]
    exact h.opened

/-- **A step of the loop keeps the invariant.** -/
theorem Inv.accept (h : Inv s) (haccepts : Accepts s t) : Inv t := by
  obtain ⟨htaken, hserved, hopened, hyielded, hturn⟩ := h
  have hlt : ∀ {attempt : Attempt}, s.attempts[s.taken]? = some attempt →
      s.taken + 1 ≤ s.attempts.length := by
    intro attempt hnext
    exact (List.getElem?_eq_some_iff.1 hnext).1
  cases haccepts with
  | takes hcall hnext =>
      exact ⟨htaken, hserved, hopened, hyielded, fun _ => hturn (by simp [hcall])⟩
  | handshaken hcall hnext =>
      exact ⟨htaken, hserved, hopened, hyielded, fun _ => hturn (by simp [hcall])⟩
  | closed hcall hnext hclosed =>
      exact ⟨htaken, hserved, hopened, hyielded, fun hne => absurd rfl hne⟩
  | handshakeFails hcall hnext hfails =>
      exact ⟨hlt hnext, hserved, hopened, Nat.le_succ_of_le hyielded, fun hne => absurd rfl hne⟩
  | refuses hcall hnext hfails =>
      exact ⟨hlt hnext, hserved, hopened, Nat.le_succ_of_le hyielded, fun hne => absurd rfl hne⟩
  | @yields attempt c hcall hnext hstage hconn =>
      have hcount : s.yielded.length = s.taken := hturn (by simp [hcall])
      have htake : s.attempts.take (s.yielded ++ [c]).length
          = s.attempts.take s.yielded.length ++ [attempt] := by
        rw [List.length_append, List.length_singleton, List.take_add_one, hcount, hnext]
        rfl
      refine ⟨hlt hnext, ?_, ?_, ?_, ?_⟩
      · rw [htake, List.map_append, hserved, List.map_append, List.map_singleton, hconn]
        rfl
      · intro a ha
        rw [htake] at ha
        rcases List.mem_append.1 ha with ha | ha
        · exact hopened a ha
        · rw [List.mem_singleton.1 ha]
          exact hstage
      · rw [List.length_append, List.length_singleton]
        exact Nat.succ_le_succ hyielded
      · intro _
        rw [List.length_append, List.length_singleton, hcount]

/-- **Every step keeps the invariant.** -/
theorem Inv.step (h : Inv s) {e : Event} (hstep : s.step e = some t) : Inv t := by
  cases e with
  | arrive outcome =>
      simp only [Listener.step] at hstep
      split at hstep
      · cases hstep
      · exact Option.some.inj hstep ▸ h.arrive _
  | progress i =>
      obtain ⟨attempt, hi, hstep⟩ := Option.bind_eq_some_iff.1 hstep
      obtain ⟨stage, hnext, rfl⟩ := Option.map_eq_some_iff.1 hstep
      exact h.progress hi hnext
  | close =>
      simp only [Listener.step] at hstep
      split at hstep
      · cases hstep
      · exact Option.some.inj hstep ▸ ⟨h.taken_le, h.served, h.opened, h.yielded_le, h.in_turn⟩
  | accept => exact h.accept (accepts_of_accept hstep)

/-- **An attempt that has not opened its control stream** has none behind it that is served. -/
theorem Inv.yielded_le_of_not_opened (h : Inv s) {k : ℕ} {attempt : Attempt}
    (hk : s.attempts[k]? = some attempt) (hstage : attempt.stage ≠ .opened) :
    s.yielded.length ≤ k := by
  by_contra hlt
  refine hstage (h.opened attempt (List.mem_of_getElem? (i := k) ?_))
  rw [List.getElem?_take_of_lt (Nat.not_le.1 hlt), hk]

/-- **An attempt that comes to nothing** has none behind it that is served. -/
theorem Inv.yielded_le_of_fails (h : Inv s) {k : ℕ} {attempt : Attempt}
    (hk : s.attempts[k]? = some attempt) (hfails : ¬ attempt.outcome.Completes) :
    s.yielded.length ≤ k := by
  by_contra hlt
  have hconn := congrArg (fun l : List (Option BxpServerConnection) => l[k]?) h.served
  simp only [List.getElem?_map, List.getElem?_take_of_lt (Nat.not_le.1 hlt), hk,
    Option.map_some] at hconn
  obtain ⟨c, -, hc⟩ := Option.map_eq_some_iff.1 hconn.symm
  refine hfails ?_
  cases houtcome : attempt.outcome with
  | handshakeFails =>
      rw [houtcome] at hc
      cases hc
  | controlStreamFails quicConn =>
      rw [houtcome] at hc
      cases hc
  | completes quicConn controlSend controlRecv => trivial

theorem inv_of_run {es : List Event} (hrun : run Listener.step start es = some s) : Inv s := by
  refine run_inv (P := Inv) ?_ inv_start hrun
  intro s e t h hstep
  exact h.step hstep

end Listener

/-! ### Refinement -/

namespace AcceptLoop

/-- The loop, with more attempts to arrive later. -/
def later (more : List Incoming) (s : AcceptLoop) : AcceptLoop :=
  { s with attempts := s.attempts ++ more }

/-- An endpoint that is closed stays closed. -/
theorem closed_step {s t : AcceptLoop} {e : Event} (hstep : s.step e = some t)
    (hclosed : s.server.endpointClosed = true) : t.server.endpointClosed = true := by
  cases e with
  | arrive =>
      simp only [step] at hstep
      split at hstep
      · rw [← Option.some.inj hstep]
        exact hclosed
      · rw [if_pos hclosed] at hstep
        cases hstep
  | accept =>
      simp only [step] at hstep
      split at hstep
      · obtain ⟨⟨c, server⟩, haccept, rfl⟩ := Option.map_eq_some_iff.1 hstep
        have hserver : server.endpointClosed = s.server.endpointClosed := by
          unfold BxpServer.accept at haccept
          split at haccept
          · rw [if_pos hclosed] at haccept
            rw [← (Prod.mk.inj (Option.some.inj haccept)).2]
          · rw [← (Prod.mk.inj (Option.some.inj haccept)).2]
          · rw [← (Prod.mk.inj (Option.some.inj haccept)).2]
          · rw [← (Prod.mk.inj (Option.some.inj haccept)).2]
        cases c with
        | some c => exact hserver.trans hclosed
        | none => exact hserver.trans hclosed
      · cases hstep

/-- As long as the endpoint is open, attempts that arrive later make no difference. -/
theorem step_later {s t : AcceptLoop} {e : Event} (hstep : s.step e = some t)
    (hopen : t.server.endpointClosed = false) (more : List Incoming) :
    (s.later more).step e = some (t.later more) := by
  cases e with
  | arrive =>
      simp only [step] at hstep
      split at hstep
      · next attempt attempts hattempts =>
          rw [← Option.some.inj hstep]
          simp only [step, later, hattempts, List.cons_append]
      · split at hstep
        · cases hstep
        · rw [← Option.some.inj hstep] at hopen
          cases hopen
  | accept =>
      simp only [step] at hstep ⊢
      split at hstep
      · next hrunning =>
          obtain ⟨⟨c, server⟩, haccept, rfl⟩ := Option.map_eq_some_iff.1 hstep
          rw [later, if_pos hrunning, haccept]
          cases c with
          | some c => rfl
          | none => rfl
      · cases hstep

theorem run_later {s t : AcceptLoop} {es : List Event} (hrun : run step s es = some t)
    (hopen : t.server.endpointClosed = false) (more : List Incoming) :
    run step (s.later more) es = some (t.later more) := by
  induction es generalizing s with
  | nil =>
      rw [run_nil, Option.some.injEq] at hrun
      rw [hrun]
      rfl
  | cons e es ih =>
      obtain ⟨u, hu, hrest⟩ := run_cons_eq_some.1 hrun
      have huopen : u.server.endpointClosed = false := by
        by_contra hclosed
        have hstill : t.server.endpointClosed = true := by
          refine run_inv (P := fun u : AcceptLoop => u.server.endpointClosed = true) ?_ ?_ hrest
          · intro v e w hv hstep
            exact closed_step hstep hv
          · simpa using hclosed
        rw [hopen] at hstill
        cases hstill
      exact run_cons_eq_some.2 ⟨_, step_later hu huopen more, ih hrest⟩

end AcceptLoop

namespace Listener

/-- The loop that accepts in one step, at the same place: the attempt that the call has taken waits
at its endpoint until the call returns. -/
structure Refines (s : Listener) (t : AcceptLoop) : Prop where
  attempts : t.attempts = []
  incoming : t.server.incoming = (s.attempts.drop s.taken).map Attempt.outcome
  endpointClosed : t.server.endpointClosed = s.endpointClosed
  refused : t.server.refused = s.refused
  yielded : t.yielded = s.yielded
  running : t.running = true ↔ s.call ≠ .over

variable {s t : Listener} {u : AcceptLoop}

theorem refines_start : Refines start (AcceptLoop.start []) where
  attempts := rfl
  incoming := rfl
  endpointClosed := rfl
  refused := rfl
  yielded := rfl
  running := by simp [start, AcceptLoop.start]

/-- The attempt the call is at is the first that waits at the endpoint. -/
theorem Refines.incoming_cons (h : Refines s u) {attempt : Attempt}
    (hnext : s.attempts[s.taken]? = some attempt) :
    u.server.incoming
      = attempt.outcome :: (s.attempts.drop (s.taken + 1)).map Attempt.outcome := by
  obtain ⟨hlt, heq⟩ := List.getElem?_eq_some_iff.1 hnext
  rw [h.incoming, List.drop_eq_getElem_cons hlt, heq, List.map_cons]

/-- **A step of the loop** is nothing, or the one step of accepting. -/
theorem Refines.accept (h : Refines s u) (haccepts : Accepts s t) :
    ∃ v, Reachable AcceptLoop.step u v ∧ Refines t v := by
  have hrunning : ∀ {call : AcceptCall}, s.call = call → call ≠ .over → u.running = true := by
    rintro call rfl hne
    exact h.running.2 hne
  cases haccepts with
  | takes hcall hnext =>
      -- the attempt stays at the other endpoint until the call returns
      refine ⟨u, Reachable.refl u, h.attempts, h.incoming, h.endpointClosed, h.refused, h.yielded,
        ?_⟩
      simp [hrunning hcall (by simp)]
  | handshaken hcall hnext =>
      refine ⟨u, Reachable.refl u, h.attempts, h.incoming, h.endpointClosed, h.refused, h.yielded,
        ?_⟩
      simp [hrunning hcall (by simp)]
  | closed hcall hnext hclosed =>
      have hnil : u.server.incoming = [] := by
        rw [h.incoming, List.drop_eq_nil_of_le (List.getElem?_eq_none_iff.1 hnext), List.map_nil]
      have haccept := BxpServer.accept_of_nil hnil (h.endpointClosed.trans hclosed)
      refine ⟨{ u with running := false }, (Reachable.refl _).head (e := .accept) ?_, h.attempts,
        h.incoming, h.endpointClosed, h.refused, h.yielded, by simp⟩
      simp only [AcceptLoop.step, if_pos (hrunning hcall (by simp)), haccept, Option.map_some]
  | handshakeFails hcall hnext hfails =>
      have hincoming := h.incoming_cons hnext
      rw [hfails] at hincoming
      refine ⟨{ u with
        server := { u.server with
          incoming := (s.attempts.drop (s.taken + 1)).map Attempt.outcome }
        running := false }, (Reachable.refl _).head (e := .accept) ?_, h.attempts, rfl,
        h.endpointClosed, h.refused, h.yielded, by simp⟩
      simp only [AcceptLoop.step, if_pos (hrunning hcall (by simp)), BxpServer.accept, hincoming,
        Option.map_some]
  | @yields attempt c hcall hnext hopened hconn =>
      have hincoming := h.incoming_cons hnext
      have hcompletes : ∃ quicConn controlSend controlRecv,
          attempt.outcome = .completes quicConn controlSend controlRecv ∧
            c = { quicConn, controlSend, controlRecv, msgBufs := [] } := by
        cases houtcome : attempt.outcome with
        | handshakeFails =>
            rw [houtcome] at hconn
            cases hconn
        | controlStreamFails quicConn =>
            rw [houtcome] at hconn
            cases hconn
        | completes quicConn controlSend controlRecv =>
            rw [houtcome] at hconn
            exact ⟨_, _, _, rfl, (Option.some.inj hconn).symm⟩
      obtain ⟨quicConn, controlSend, controlRecv, houtcome, rfl⟩ := hcompletes
      rw [houtcome] at hincoming
      refine ⟨{ u with
        server := { u.server with
          incoming := (s.attempts.drop (s.taken + 1)).map Attempt.outcome }
        yielded := u.yielded ++ [{ quicConn, controlSend, controlRecv, msgBufs := [] }] },
        (Reachable.refl _).head (e := .accept) ?_, h.attempts, rfl, h.endpointClosed, h.refused,
        by rw [h.yielded], by simp [hrunning hcall (by simp)]⟩
      simp only [AcceptLoop.step, if_pos (hrunning hcall (by simp)), BxpServer.accept, hincoming,
        Option.map_some]
  | refuses hcall hnext hfails =>
      have hincoming := h.incoming_cons hnext
      rw [hfails] at hincoming
      refine ⟨{ u with
        server := { u.server with
          incoming := (s.attempts.drop (s.taken + 1)).map Attempt.outcome
          refused := u.server.refused ++ [_] }
        running := false }, (Reachable.refl _).head (e := .accept) ?_, h.attempts, rfl,
        h.endpointClosed, by rw [h.refused], h.yielded, by simp⟩
      simp only [AcceptLoop.step, if_pos (hrunning hcall (by simp)), BxpServer.accept, hincoming,
        Option.map_some]

/-- An attempt that arrives could have been there from the beginning. -/
theorem Refines.arrive (h : Refines s u) (hinv : Inv s) (hopen : s.endpointClosed = false)
    (hreach : Reachable AcceptLoop.step (.start (s.attempts.map Attempt.outcome)) u)
    (outcome : Incoming) :
    ∃ v, Reachable AcceptLoop.step
        (.start ((s.attempts ++ [(⟨outcome, .arrived⟩ : Attempt)]).map Attempt.outcome)) v ∧
      Refines { s with attempts := s.attempts ++ [⟨outcome, .arrived⟩] } v := by
  obtain ⟨es, hes⟩ := hreach
  have hlater := AcceptLoop.run_later hes (h.endpointClosed.trans hopen) [outcome]
  have hall : (s.attempts ++ [(⟨outcome, .arrived⟩ : Attempt)]).map Attempt.outcome
      = s.attempts.map Attempt.outcome ++ [outcome] := by
    rw [List.map_append]
    rfl
  have hdrop : (s.attempts ++ [(⟨outcome, .arrived⟩ : Attempt)]).drop s.taken
      = s.attempts.drop s.taken ++ [⟨outcome, .arrived⟩] :=
    List.drop_append_of_le_length hinv.taken_le
  refine ⟨{ u with server := { u.server with incoming := u.server.incoming ++ [outcome] } }, ?_,
    h.attempts, ?_, h.endpointClosed, h.refused, h.yielded, h.running⟩
  · rw [hall]
    refine Reachable.tail (e := .arrive) ⟨es, hlater⟩ ?_
    simp only [AcceptLoop.step, AcceptLoop.later, h.attempts, List.nil_append]
  · rw [hdrop, List.map_append, ← h.incoming]
    rfl

/-- The outcomes of the attempts do not change when a client gets on. -/
theorem map_outcome_set {attempts : List Attempt} {i : ℕ} {attempt : Attempt}
    (h : attempts[i]? = some attempt) (stage : Stage) :
    (attempts.set i { attempt with stage := stage }).map Attempt.outcome
      = attempts.map Attempt.outcome := by
  refine List.ext_getElem? ?_
  intro j
  rw [List.getElem?_map, List.getElem?_map]
  by_cases hj : i = j
  · subst hj
    rw [List.getElem?_set_self (List.getElem?_eq_some_iff.1 h).1, h]
    rfl
  · rw [List.getElem?_set_ne hj]

/-- A client that gets on makes no difference: its outcome is settled. -/
theorem Refines.progress (h : Refines s u) {i : ℕ} {attempt : Attempt}
    (hi : s.attempts[i]? = some attempt) (stage : Stage) :
    Refines { s with attempts := s.attempts.set i { attempt with stage := stage } } u := by
  refine ⟨h.attempts, ?_, h.endpointClosed, h.refused, h.yielded, h.running⟩
  rw [List.map_drop, map_outcome_set hi stage, ← List.map_drop]
  exact h.incoming

/-- The endpoint is closed when no attempt is left to arrive. -/
theorem Refines.close (h : Refines s u) (hopen : s.endpointClosed = false) :
    ∃ v, u.step .arrive = some v ∧ Refines { s with endpointClosed := true } v := by
  refine ⟨{ u with server := { u.server with endpointClosed := true } }, ?_, h.attempts, h.incoming,
    rfl, h.refused, h.yielded, h.running⟩
  simp only [AcceptLoop.step, h.attempts, h.endpointClosed, hopen, Bool.false_eq_true, if_false]

end Listener

/-- **Accepting step by step yields what accepting at once does**: at any time there is a run of the
loop whose `accept` is one step, on the attempts that have arrived, with the same connections
yielded and refused, and in its loop as long as this one is. -/
theorem listener_refines {es : List Listener.Event} {s : Listener}
    (hrun : run Listener.step .start es = some s) :
    ∃ t, Reachable AcceptLoop.step (.start (s.attempts.map Attempt.outcome)) t ∧
      s.Refines t := by
  induction es using List.reverseRecOn generalizing s with
  | nil =>
      rw [run_nil, Option.some.injEq] at hrun
      subst hrun
      exact ⟨_, Reachable.refl _, Listener.refines_start⟩
  | append_singleton es e ih =>
      obtain ⟨u, hu, hstep⟩ := run_concat_eq_some.1 hrun
      obtain ⟨t, hreach, href⟩ := ih hu
      cases e with
      | arrive outcome =>
          simp only [Listener.step] at hstep
          split at hstep
          · cases hstep
          · next hopen =>
              rw [← Option.some.inj hstep]
              exact href.arrive (Listener.inv_of_run hu) (by simpa using hopen) hreach outcome
      | progress i =>
          obtain ⟨attempt, hi, hstep⟩ := Option.bind_eq_some_iff.1 hstep
          obtain ⟨stage, -, rfl⟩ := Option.map_eq_some_iff.1 hstep
          refine ⟨t, ?_, href.progress hi stage⟩
          rw [Listener.map_outcome_set hi stage]
          exact hreach
      | close =>
          simp only [Listener.step] at hstep
          split at hstep
          · cases hstep
          · next hopen =>
              rw [← Option.some.inj hstep]
              obtain ⟨v, hv, href'⟩ := href.close (by simpa using hopen)
              exact ⟨v, hreach.tail hv, href'⟩
      | accept =>
          obtain ⟨v, hv, href'⟩ := href.accept (Listener.accepts_of_accept hstep)
          refine ⟨v, ?_, href'⟩
          -- the attempts that have arrived are the same
          have hattempts : s.attempts = u.attempts := by
            cases Listener.accepts_of_accept hstep <;> rfl
          rw [hattempts]
          exact hreach.trans hv

/-- A client that does everything right. -/
def Incoming.ready : Incoming :=
  .completes .established { buf := [], flow := .takes } { unread := [], ended := none }

/-- Three such clients: the first is served, the second arrives and does nothing, and the third gets
as far as the first. -/
def silentRun : List Listener.Event :=
  [.arrive .ready, .progress 0, .progress 0, .accept, .accept, .accept,
    .arrive .ready, .arrive .ready, .progress 2, .progress 2, .accept]

theorem exists_silentRun :
    ∃ s attempt, run Listener.step .start silentRun = some s ∧ s.attempts[1]? = some attempt ∧
      attempt.stage = .arrived := by
  have h : ((run Listener.step .start silentRun).bind fun s =>
      (s.attempts[1]?).map Attempt.stage) = some .arrived := rfl
  obtain ⟨s, hrun, h⟩ := Option.bind_eq_some_iff.1 h
  obtain ⟨attempt, hattempt, hstage⟩ := Option.map_eq_some_iff.1 h
  exact ⟨s, attempt, hrun, hattempt, hstage⟩

/-- The loop that accepts at once does as this one does. -/
theorem listener_refines_silent :
    ∃ s, run Listener.step .start silentRun = some s ∧
      ∃ t, Reachable AcceptLoop.step (.start (s.attempts.map Attempt.outcome)) t ∧
        s.Refines t := by
  obtain ⟨s, attempt, hrun, -⟩ := exists_silentRun
  exact ⟨s, hrun, listener_refines hrun⟩

/-- **No client is served before those that came first.**  In every run of the loop the connections
yielded are those of the first attempts, in the order of their arrival.  While an attempt has not
opened its control stream, or when it is one that fails, at most the attempts in front of it are
served: what the clients behind it do makes no difference. -/
theorem no_overtaking {es : List Listener.Event} {s : Listener}
    (hrun : run Listener.step .start es = some s) :
    (s.attempts.take s.yielded.length).map (fun attempt => attempt.outcome.connection)
        = s.yielded.map some ∧
      ∀ k attempt, s.attempts[k]? = some attempt →
        attempt.stage ≠ .opened ∨ ¬ attempt.outcome.Completes → s.yielded.length ≤ k := by
  have hinv := Listener.inv_of_run hrun
  refine ⟨hinv.served, ?_⟩
  intro k attempt hk hblocks
  rcases hblocks with hstage | hfails
  · exact hinv.yielded_le_of_not_opened hk hstage
  · exact hinv.yielded_le_of_fails hk hfails

/-- The third client is not served before the second. -/
theorem no_overtaking_silent :
    ∃ s, run Listener.step .start silentRun = some s ∧ s.yielded.length ≤ 1 := by
  obtain ⟨s, attempt, hrun, hattempt, hstage⟩ := exists_silentRun
  refine ⟨s, hrun, (no_overtaking hrun).2 1 attempt hattempt (Or.inl ?_)⟩
  rw [hstage]
  decide

end Bxp

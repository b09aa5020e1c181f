/-
**A handler alone.**

In the loop of a server a handler runs on a connection that others have used before it: bytes have
been written to the control stream, streams have been opened.  None of this makes a difference to
what the handler does, which depends on what arrives and on nothing else.  So what a handler can do
is said of a run on a connection of its own, `Bxp.HandlerProg.Returns`, and what it does in the loop
is the same (`Bxp.Alike.step`).  Both are connections whose writes succeed: no `send_response` fails,
and the connection is not lost.  The client may still stop the data streams it is sent.

Main definitions:

* `Bxp.Connection.seen`, `Bxp.Alike` — what a handler can see of a connection, and connections that
  look the same to it;
* `Bxp.BxpConnection.Live` — what is known of a connection that is not lost;
* `Bxp.HandlerProg.alone` — a handler on a connection whose writes succeed;
* `Bxp.HandlerProg.Returns` — what it returns, and what it has written by then;
* `Bxp.Answered`, `Bxp.HandlerProg.AnswersBefore` — a response to a request is among what was
  written;
* `Bxp.HandlerProg.Replies` — every way through the handler to its end sends a response.

Main results:

* `Bxp.Alike.onNet`, `Bxp.Alike.step` — **what a handler does depends only on what arrives**;
* `Bxp.HandlerProg.Replies.answersBefore` — a handler that replies on every way answers its
  request, whatever it returns;
* `Bxp.HandlerProg.not_answersBefore_of_stopped` — one that passes on the error of a data stream
  before its response does not.
-/

import BxpCore.Framing
import BxpCore.ServeLoop

set_option relaxedAutoImplicit false
set_option autoImplicit false

namespace Bxp

open LengthPrefix Machine BxpConnection

variable {C : Capnp.Serializer} {side : Side} {α : Type}

/-! ### What a handler can see of its connection -/

/-- The part of the QUIC connection that decides what its calls return. -/
def Connection.seen (c : Connection) : Option UInt32 × Bool × List RecvStream × PeerFlow :=
  (c.localClose, c.peerClosed, c.incomingUni, c.uniFlow)

theorem Connection.seen_eq_iff {c d : Connection} :
    c.seen = d.seen ↔ c.localClose = d.localClose ∧ c.peerClosed = d.peerClosed ∧
      c.incomingUni = d.incomingUni ∧ c.uniFlow = d.uniFlow := by
  simp only [seen, Prod.mk.injEq]

theorem Connection.isClosed_of_seen {c d : Connection} (h : c.seen = d.seen) :
    c.isClosed = d.isClosed := by
  obtain ⟨hlocal, hpeer, -, -⟩ := seen_eq_iff.1 h
  rw [isClosed, isClosed, hlocal, hpeer]

theorem Connection.dependsOn_sendDataStream (reqId : UInt32) (reader : AsyncRead) :
    Async.DependsOn seen (sendDataStream reqId reader) := by
  intro c d r c' hcd h
  have hflow := (seen_eq_iff.1 hcd).2.2.2
  rw [sendDataStream, isClosed_of_seen hcd] at h
  rw [sendDataStream]
  split at h
  · next hclosed =>
      obtain ⟨rfl, rfl⟩ := Prod.mk.inj (Option.some.inj h)
      exact ⟨d, if_pos hclosed, hcd⟩
  · next hclosed =>
      obtain ⟨p, hp, heq⟩ := Option.map_eq_some_iff.1 h
      rw [hflow] at hp
      rw [if_neg hclosed, hp, Option.map_some]
      split at heq
      · next hbuf =>
          obtain ⟨rfl, rfl⟩ := Prod.mk.inj heq
          exact ⟨{ d with outgoingUni := d.outgoingUni ++ [(reqId, reader)] },
            by rw [if_pos hbuf], hcd⟩
      · next hbuf =>
          obtain ⟨rfl, rfl⟩ := Prod.mk.inj heq
          exact ⟨d, by rw [if_neg hbuf], hcd⟩

theorem Connection.dependsOn_readDataStream : Async.DependsOn seen readDataStream := by
  intro c d r c' hcd h
  have hclosed := isClosed_of_seen hcd
  obtain ⟨hlocal, hpeer, hincoming, hflow⟩ := seen_eq_iff.1 hcd
  rw [readDataStream] at h ⊢
  rw [hincoming, hclosed] at h
  cases hd : d.incomingUni with
  | nil =>
      rw [hd] at h
      cases hd' : d.isClosed with
      | true =>
          rw [hd'] at h
          obtain ⟨rfl, rfl⟩ := Prod.mk.inj (Option.some.inj h)
          exact ⟨d, rfl, hcd⟩
      | false =>
          rw [hd'] at h
          cases h
  | cons stream streams =>
      rw [hd] at h
      obtain ⟨⟨idBuf, rest⟩, hp, heq⟩ := Option.map_eq_some_iff.1 h
      dsimp only
      rw [hp, Option.map_some]
      cases idBuf with
      | ok idBuf =>
          obtain ⟨rfl, rfl⟩ := Prod.mk.inj heq
          exact ⟨{ d with incomingUni := streams }, rfl, by simp only [seen, hlocal, hpeer, hflow]⟩
      | error e =>
          obtain ⟨rfl, rfl⟩ := Prod.mk.inj heq
          exact ⟨{ d with incomingUni := streams }, rfl, by simp only [seen, hlocal, hpeer, hflow]⟩

theorem Connection.dependsOn_closed : Async.DependsOn seen closed := by
  intro c d r c' hcd h
  rw [closed, isClosed_of_seen hcd] at h
  rw [closed]
  cases hd : d.isClosed with
  | true =>
      rw [hd] at h
      obtain ⟨rfl, rfl⟩ := Prod.mk.inj (Option.some.inj h)
      exact ⟨d, rfl, hcd⟩
  | false =>
      rw [hd] at h
      cases h

/-- A call on the QUIC connection looks at nothing else. -/
theorem dependsOn_onQuic {x : Async Connection α} (hx : Async.DependsOn Connection.seen x) :
    Async.DependsOn (fun c => c.quicConn.seen) (onQuic x : Async (BxpConnection side) α) := by
  intro c d r c' hcd h
  obtain ⟨p, hp, heq⟩ := Option.map_eq_some_iff.1 h
  obtain ⟨rfl, rfl⟩ := Prod.mk.inj heq
  obtain ⟨q, hq, hseen⟩ := hx hcd hp
  exact ⟨{ d with quicConn := q }, by rw [onQuic, hq, Option.map_some], hseen⟩

/-- A call on the QUIC connection leaves the control stream alone. -/
theorem keeps_onQuic_control (x : Async Connection α) :
    Async.Keeps (fun c => (c.controlSend, c.controlRecv))
      (onQuic x : Async (BxpConnection side) α) := by
  intro c r c' h
  obtain ⟨p, -, heq⟩ := Option.map_eq_some_iff.1 h
  obtain ⟨-, rfl⟩ := Prod.mk.inj heq
  rfl

theorem dependsOn_readControl (n : ℕ) :
    Async.DependsOn (fun c => c.controlRecv)
      (readControl n : Async (BxpConnection side) (List UInt8)) := by
  intro c d r c' hcd h
  dsimp only at hcd
  obtain ⟨p, hp, heq⟩ := Option.map_eq_some_iff.1 h
  obtain ⟨rfl, rfl⟩ := Prod.mk.inj heq
  rw [hcd] at hp
  exact ⟨{ d with controlRecv := p.2 }, by rw [readControl, hp, Option.map_some], rfl⟩

/-- Receiving a request looks at the control stream only. -/
theorem BxpServerConnection.dependsOn_receiveRequest (C : Capnp.Serializer) :
    Async.DependsOn (fun c => c.controlRecv) (receiveRequest C) := by
  refine Async.DependsOn.bind ?_ fun msgBuf => Async.dependsOn_ofExcept _
  refine Async.DependsOn.bind ?_ fun len => ?_
  · exact (dependsOn_readControl 4).bind fun _ => Async.dependsOn_pure _
  · split
    · exact Async.dependsOn_bail _
    · refine Async.DependsOn.bind ?_ fun _ => dependsOn_readControl len
      intro c d r c' hcd h
      obtain ⟨rfl, rfl⟩ := Prod.mk.inj (Option.some.inj h)
      exact ⟨d.withMsgBuf len, rfl, hcd⟩

/-! ### Connections that look alike -/

/-- To a handler the connections look the same: the same has arrived on both, `d` takes what is
written to it, and what has been written to them is the same behind `base` and behind `base'`. -/
structure Alike (base base' : List UInt8) (c d : BxpServerConnection) : Prop where
  seen : c.quicConn.seen = d.quicConn.seen
  controlRecv : c.controlRecv = d.controlRecv
  takes : d.controlSend.flow = .takes
  written : ∃ w, c.controlSend.buf = base ++ w ∧ d.controlSend.buf = base' ++ w

namespace Alike

variable {base base' : List UInt8} {c d : BxpServerConnection}

/-- What arrives on both leaves them alike, as long as neither is lost; what the client does with
what it is sent on the control stream of one of them may stay unknown to the other. -/
theorem onNet (h : Alike base base' c d) {e : NetEvent} (he : e ≠ .peerClose) :
    ∃ d', (d' = d ∨ d' = d.onNet e) ∧ Alike base base' (c.onNet e) d' := by
  obtain ⟨hlocal, hpeer, hincoming, hflow⟩ := Connection.seen_eq_iff.1 h.seen
  cases e with
  | control bytes =>
      refine ⟨_, Or.inr rfl, h.seen, ?_, h.takes, h.written⟩
      simp only [BxpConnection.onNet, h.controlRecv]
  | controlFinish =>
      refine ⟨_, Or.inr rfl, h.seen, ?_, h.takes, h.written⟩
      simp only [BxpConnection.onNet, h.controlRecv]
  | controlReset code =>
      refine ⟨_, Or.inr rfl, h.seen, ?_, h.takes, h.written⟩
      simp only [BxpConnection.onNet, h.controlRecv]
  | controlFlow flow =>
      refine ⟨d, Or.inl rfl, ?_⟩
      rw [BxpConnection.onNet]
      split
      · exact h
      · exact ⟨h.seen, h.controlRecv, h.takes, h.written⟩
  | dataStream stream =>
      refine ⟨_, Or.inr rfl, ?_, h.controlRecv, h.takes, h.written⟩
      simp only [BxpConnection.onNet, Connection.seen, hlocal, hpeer, hincoming, hflow]
  | dataFlow flow =>
      refine ⟨_, Or.inr rfl, ?_, h.controlRecv, h.takes, h.written⟩
      simp only [BxpConnection.onNet, Connection.seen, hlocal, hpeer, hincoming]
  | peerClose => exact absurd rfl he

/-- A call on the QUIC connection. -/
theorem call_onQuic (h : Alike base base' c d) {x : Async Connection α}
    (hx : Async.DependsOn Connection.seen x) {r : Except BxpError α} {c' : BxpServerConnection}
    (hc : onQuic x c = some (r, c')) :
    ∃ d', onQuic x d = some (r, d') ∧ Alike base base' c' d' := by
  obtain ⟨d', hd, hseen⟩ := dependsOn_onQuic hx h.seen hc
  have hkeepc := Prod.mk.inj (keeps_onQuic_control x hc)
  have hkeepd := Prod.mk.inj (keeps_onQuic_control x hd)
  refine ⟨d', hd, hseen, ?_, ?_, ?_⟩
  · rw [hkeepc.2, hkeepd.2, h.controlRecv]
  · rw [hkeepd.1, h.takes]
  · rw [hkeepc.1, hkeepd.1]
    exact h.written

/-- A call of `receive_request`. -/
theorem call_receiveRequest (h : Alike base base' c d) {r : Except BxpError BxpRequest}
    {c' : BxpServerConnection} (hc : BxpServerConnection.receiveRequest C c = some (r, c')) :
    ∃ d', BxpServerConnection.receiveRequest C d = some (r, d') ∧ Alike base base' c' d' := by
  obtain ⟨d', hd, hrecv⟩ := BxpServerConnection.dependsOn_receiveRequest C h.controlRecv hc
  obtain ⟨hquic, hsend, -⟩ := (BxpServerConnection.keeps_receiveRequest C).unread hc
  obtain ⟨hquic', hsend', -⟩ := (BxpServerConnection.keeps_receiveRequest C).unread hd
  refine ⟨d', hd, ?_, hrecv, ?_, ?_⟩
  · rw [hquic, hquic', h.seen]
  · rw [hsend', h.takes]
  · rw [hsend, hsend']
    exact h.written

/-- A call of `send_response` that succeeds. -/
theorem call_sendResponse (h : Alike base base' c d) {reqId : UInt32} {status : BxpStatus}
    {c' : BxpServerConnection}
    (hc : BxpServerConnection.sendResponse C reqId status c = some (.ok (), c')) :
    ∃ d', BxpServerConnection.sendResponse C reqId status d = some (.ok (), d') ∧
      Alike base base' c' d' := by
  obtain ⟨body, hbody, hbuf⟩ := send_eq_ok hc
  have hkeep := Prod.mk.inj (BxpServerConnection.keeps_sendResponse C reqId status hc)
  obtain ⟨w, hw, hw'⟩ := h.written
  refine ⟨_, BxpServerConnection.sendResponse_of_open h.takes hbody, ?_, ?_, h.takes, ?_⟩
  · rw [hkeep.1]
    exact h.seen
  · rw [hkeep.2]
    exact h.controlRecv
  · refine ⟨w ++ frame body, ?_, ?_⟩
    · rw [hbuf, hw, List.append_assoc]
    · rw [hw', List.append_assoc]

end Alike

/-! ### A handler on a connection whose writes succeed -/

namespace HandlerProg

/-- The next call of the handler is a `send_response`, and it fails. -/
def writeFails (C : Capnp.Serializer) (c : BxpServerConnection) : HandlerProg → Bool
  | sendResponse reqId status _ =>
      match BxpServerConnection.sendResponse C reqId status c with
      | some (.error _, _) => true
      | _ => false
  | _ => false

/-- What happens to a handler: something arrives on its connection, or it makes its next call. -/
def onEvent (C : Capnp.Serializer) (s : HandlerProg × BxpServerConnection) :
    ServeLoop.Event → Option (HandlerProg × BxpServerConnection)
  | .net e => some (s.1, s.2.onNet e)
  | .advance => s.1.step C s.2

/-- The machine of a handler on a connection whose writes succeed: it is not lost, and no
`send_response` fails. -/
def alone (C : Capnp.Serializer) :
    HandlerProg × BxpServerConnection → ServeLoop.Event →
      Option (HandlerProg × BxpServerConnection) :=
  avoid (fun s e => e matches .net .peerClose || (e matches .advance && s.1.writeFails C s.2))
    (onEvent C)

/-- On a connection of its own the handler can return `result` when it has written `written`. -/
def Returns (C : Capnp.Serializer) (prog : HandlerProg) (result : Except BxpError Unit)
    (written : List UInt8) : Prop :=
  ∃ c, Reachable (alone C) (prog, opened .server) (done result, c) ∧ c.controlSend.buf = written

variable {prog prog' : HandlerProg} {c c' d : BxpServerConnection}

/-- A call of `send_response` that does not fail succeeds. -/
theorem sendResponse_step_ok {reqId : UInt32} {status : BxpStatus}
    {next : Except BxpError Unit → HandlerProg}
    (h : (sendResponse reqId status next).step C c = some (prog', c'))
    (hok : (sendResponse reqId status next).writeFails C c = false) :
    BxpServerConnection.sendResponse C reqId status c = some (.ok (), c') ∧
      next (.ok ()) = prog' := by
  obtain ⟨r, hr, hnext⟩ := call_eq_some.1 h
  cases r with
  | ok u => exact ⟨hr, hnext⟩
  | error e =>
      rw [writeFails, hr] at hok
      cases hok

theorem alone_net (s : HandlerProg × BxpServerConnection) {e : NetEvent} (he : e ≠ .peerClose) :
    alone C s (.net e) = some (s.1, s.2.onNet e) := by
  cases e with
  | peerClose => exact absurd rfl he
  | _ => rfl

theorem alone_net_eq_some_iff {s s' : HandlerProg × BxpServerConnection} {e : NetEvent} :
    alone C s (.net e) = some s' ↔ e ≠ .peerClose ∧ s' = (s.1, s.2.onNet e) := by
  constructor
  · intro h
    have he : e ≠ .peerClose := by
      rintro rfl
      cases h
    rw [alone_net s he, Option.some.injEq] at h
    exact ⟨he, h.symm⟩
  · rintro ⟨he, rfl⟩
    exact alone_net s he

theorem alone_advance_eq_some_iff {s s' : HandlerProg × BxpServerConnection} :
    alone C s .advance = some s' ↔ s.1.writeFails C s.2 = false ∧ s.1.step C s.2 = some s' := by
  rw [alone, avoid_eq_some_iff, Bool.false_or, Bool.true_and]
  rfl

end HandlerProg

/-- **What a handler does depends only on what arrives**: on connections that look alike its next
call returns the same, and they look alike afterwards. -/
theorem Alike.step {base base' : List UInt8} {c d c' : BxpServerConnection}
    {prog prog' : HandlerProg} (h : Alike base base' c d) (hc : prog.step C c = some (prog', c'))
    (hok : prog.writeFails C c = false) :
    ∃ d', HandlerProg.alone C (prog, d) .advance = some (prog', d') ∧ Alike base base' c' d' := by
  simp only [HandlerProg.alone_advance_eq_some_iff]
  cases prog with
  | done result => cases hc
  | panic => cases hc
  | sendResponse reqId status next =>
      obtain ⟨hsend, hnext⟩ := HandlerProg.sendResponse_step_ok hc hok
      obtain ⟨d', hd, halike⟩ := h.call_sendResponse hsend
      refine ⟨d', ⟨?_, HandlerProg.call_eq_some.2 ⟨_, hd, hnext⟩⟩, halike⟩
      rw [HandlerProg.writeFails, hd]
  | sendDataStream reqId reader next =>
      obtain ⟨r, hr, hnext⟩ := HandlerProg.call_eq_some.1 hc
      obtain ⟨d', hd, halike⟩ := h.call_onQuic (Connection.dependsOn_sendDataStream reqId reader) hr
      exact ⟨d', ⟨rfl, HandlerProg.call_eq_some.2 ⟨r, hd, hnext⟩⟩, halike⟩
  | receiveRequest next =>
      obtain ⟨r, hr, hnext⟩ := HandlerProg.call_eq_some.1 hc
      obtain ⟨d', hd, halike⟩ := h.call_receiveRequest hr
      exact ⟨d', ⟨rfl, HandlerProg.call_eq_some.2 ⟨r, hd, hnext⟩⟩, halike⟩
  | readDataStream next =>
      obtain ⟨r, hr, hnext⟩ := HandlerProg.call_eq_some.1 hc
      obtain ⟨d', hd, halike⟩ := h.call_onQuic Connection.dependsOn_readDataStream hr
      exact ⟨d', ⟨rfl, HandlerProg.call_eq_some.2 ⟨r, hd, hnext⟩⟩, halike⟩
  | waitForClose next =>
      obtain ⟨r, hr, hnext⟩ := HandlerProg.call_eq_some.1 hc
      obtain ⟨d', hd, halike⟩ := h.call_onQuic Connection.dependsOn_closed hr
      exact ⟨d', ⟨rfl, HandlerProg.call_eq_some.2 ⟨r, hd, hnext⟩⟩, halike⟩

/-! ### What arrived before -/

/-- A connection that is not lost: nobody has closed it, and of a control stream that was reset
nothing is left. -/
structure BxpConnection.Live (c : BxpServerConnection) : Prop where
  closing : c.quicConn.closing = (none, false)
  ended : c.controlRecv.ended ≠ some .connectionLost
  reset : c.controlRecv.WasReset → c.controlRecv.unread = []

namespace BxpConnection.Live

variable {c c' : BxpServerConnection}

theorem opened : Live (opened .server) where
  closing := rfl
  ended := by rintro ⟨⟩
  reset := by
    intro _
    rfl

/-- What arrives keeps it so, unless it is the loss of the connection. -/
theorem onNet (h : c.Live) {e : NetEvent} (he : e ≠ .peerClose) : (c.onNet e).Live := by
  obtain ⟨conn, send, ⟨unread, ended⟩, bufs⟩ := c
  obtain ⟨hclosing, hended, hreset⟩ := h
  cases e with
  | control bytes =>
      refine ⟨hclosing, ?_, ?_⟩
      · cases ended <;> exact hended
      · cases ended with
        | none =>
            rintro ⟨code, hcode⟩
            cases hcode
        | some e => exact hreset
  | controlFinish =>
      refine ⟨hclosing, ?_, ?_⟩
      · cases ended with
        | none => rintro ⟨⟩
        | some e => cases e <;> exact hended
      · cases ended with
        | none =>
            rintro ⟨code, hcode⟩
            cases hcode
        | some e => cases e <;> exact hreset
  | controlReset code =>
      refine ⟨hclosing, ?_, ?_⟩
      · cases ended with
        | none => rintro ⟨⟩
        | some e =>
            cases e with
            | finished => rintro ⟨⟩
            | reset code' => exact hended
            | connectionLost => exact hended
      · cases ended with
        | none => exact fun _ => rfl
        | some e =>
            cases e with
            | finished => exact fun _ => rfl
            | reset code' => exact hreset
            | connectionLost => exact absurd rfl hended
  | controlFlow flow =>
      rw [BxpConnection.onNet]
      split <;> exact ⟨hclosing, hended, hreset⟩
  | dataStream stream => exact ⟨hclosing, hended, hreset⟩
  | dataFlow flow => exact ⟨hclosing, hended, hreset⟩
  | peerClose => exact absurd rfl he

/-- Receiving a request keeps it so. -/
theorem receiveRequest (h : c.Live) {r : Except BxpError BxpRequest}
    (hrecv : BxpServerConnection.receiveRequest C c = some (r, c')) : c'.Live := by
  obtain ⟨hquic, -, hended⟩ := (BxpServerConnection.keeps_receiveRequest C).unread hrecv
  refine ⟨by rw [hquic, h.closing], by rw [hended]; exact h.ended, ?_⟩
  rintro ⟨code, hcode⟩
  rw [hended] at hcode
  -- nothing is left to be read
  have hempty : header c.controlRecv.unread = none := by rw [h.reset ⟨code, hcode⟩]; rfl
  have hfails := Async.bind_of_error (f := fun msgBuf => Async.ofExcept (decodeRequest C msgBuf))
    (BxpServerConnection.readFrame_cut_header hempty hcode)
  rw [(Async.outcome_unique hrecv hfails).2]
  rfl

/-- What leaves the control stream to be read and does not close the connection keeps it so. -/
theorem of_keeps (h : c.Live) (hclosing : c'.quicConn.closing = c.quicConn.closing)
    (hrecv : c'.controlRecv = c.controlRecv) : c'.Live := by
  refine ⟨by rw [hclosing, h.closing], ?_, ?_⟩
  · rw [hrecv]
    exact h.ended
  · rw [hrecv]
    exact h.reset

/-- The calls of a handler keep it so. -/
theorem step (h : c.Live) {prog prog' : HandlerProg} (hstep : prog.step C c = some (prog', c')) :
    c'.Live := by
  have hclosing := HandlerProg.closing_step hstep
  cases prog with
  | done result => cases hstep
  | panic => cases hstep
  | sendResponse reqId status next =>
      obtain ⟨r, hr, -⟩ := HandlerProg.call_eq_some.1 hstep
      exact h.of_keeps hclosing
        (Prod.mk.inj (BxpServerConnection.keeps_sendResponse C reqId status hr)).2
  | receiveRequest next =>
      obtain ⟨r, hr, -⟩ := HandlerProg.call_eq_some.1 hstep
      exact h.receiveRequest hr
  | _ =>
      obtain ⟨r, hr, -⟩ := HandlerProg.call_eq_some.1 hstep
      exact h.of_keeps hclosing (Prod.mk.inj (keeps_onQuic_control _ hr)).2

end BxpConnection.Live

/-- How a control stream that is not lost has ended. -/
def StreamEnd.toEvent : StreamEnd → List NetEvent
  | finished => [.controlFinish]
  | reset code => [.controlReset code]
  | connectionLost => []

/-- What has to arrive on a new connection for it to look like `c`. -/
def BxpConnection.arrivals (c : BxpServerConnection) : List NetEvent :=
  .control c.controlRecv.unread :: .dataFlow c.quicConn.uniFlow ::
    (c.controlRecv.ended.toList.flatMap StreamEnd.toEvent ++
      c.quicConn.incomingUni.map .dataStream)

theorem BxpConnection.foldl_onNet_dataStream (c : BxpServerConnection)
    (streams : List RecvStream) :
    (streams.map NetEvent.dataStream).foldl onNet c
      = { c with quicConn :=
          { c.quicConn with incomingUni := c.quicConn.incomingUni ++ streams } } := by
  induction streams generalizing c with
  | nil => simp
  | cons stream streams ih => simp [ih, onNet]

theorem alike_arrivals {c : BxpServerConnection} (h : c.Live) :
    Alike c.controlSend.buf [] c (c.arrivals.foldl onNet (opened .server)) := by
  obtain ⟨⟨localClose, peerClosed, incomingUni, uniFlow, outgoingUni⟩, send, ⟨unread, ended⟩,
    msgBufs⟩ := c
  obtain ⟨rfl, rfl⟩ := Prod.mk.inj h.closing
  have hreset := h.reset
  have hended := h.ended
  refine ⟨?_, ?_, ?_, [], (List.append_nil _).symm, ?_⟩ <;>
    simp only [arrivals, List.foldl_cons, List.foldl_append, foldl_onNet_dataStream]
  · obtain _ | _ | code | _ := ended <;> rfl
  · obtain _ | _ | code | _ := ended
    · rfl
    · rfl
    · obtain rfl : unread = [] := hreset ⟨code, rfl⟩
      rfl
    · exact absurd rfl hended
  · obtain _ | _ | code | _ := ended <;> rfl
  · obtain _ | _ | code | _ := ended <;> rfl

theorem peerClose_notMem_arrivals (c : BxpServerConnection) : .peerClose ∉ c.arrivals := by
  obtain ⟨conn, send, ⟨unread, _ | _ | code | _⟩, msgBufs⟩ := c <;>
    simp [arrivals, StreamEnd.toEvent]

namespace HandlerProg

/-- What arrives does not move the handler. -/
theorem reachable_net (prog : HandlerProg) {es : List NetEvent} (hes : .peerClose ∉ es)
    (c : BxpServerConnection) : Reachable (alone C) (prog, c) (prog, es.foldl onNet c) := by
  induction es generalizing c with
  | nil => exact Reachable.refl _
  | cons e es ih =>
      obtain ⟨he, hes⟩ := not_or.1 (mt List.mem_cons.2 hes)
      exact (ih hes (c.onNet e)).head (alone_net (prog, c) (Ne.symm he))

/-- Whatever has become of a connection that is not lost, a connection of its own can look like it
to a handler. -/
theorem exists_alike (prog : HandlerProg) {c : BxpServerConnection} (h : c.Live) :
    ∃ d, Reachable (alone C) (prog, opened .server) (prog, d) ∧ Alike c.controlSend.buf [] c d :=
  ⟨_, reachable_net prog (peerClose_notMem_arrivals c) (opened .server), alike_arrivals h⟩

end HandlerProg

/-! ### Answers -/

/-- The bytes are responses, and one of them answers the request. -/
def Answered (C : Capnp.Serializer) (reqId : UInt32) (written : List UInt8) : Prop :=
  ∃ sent : List BxpResponse, Carries maxControlMsg (decodeResponse C) written (sent.map .ok) ∧
    ∃ resp ∈ sent, resp.reqId = reqId

namespace HandlerProg

/-- Whenever the handler, on a connection of its own, returns `result`, a response to the request is
among what it has written by then. -/
def AnswersBefore (C : Capnp.Serializer) (prog : HandlerProg) (reqId : UInt32)
    (result : Except BxpError Unit) : Prop :=
  ∀ written, prog.Returns C result written → Answered C reqId written

/-- On every way through the handler to its end there is a response to the request. -/
def Replies (reqId : UInt32) : HandlerProg → Prop
  | done _ => False
  | panic => True
  | sendResponse id _ next => id = reqId ∨ ∀ r, Replies reqId (next r)
  | sendDataStream _ _ next => ∀ r, Replies reqId (next r)
  | receiveRequest next => ∀ r, Replies reqId (next r)
  | readDataStream next => ∀ r, Replies reqId (next r)
  | waitForClose next => ∀ r, Replies reqId (next r)

variable {prog prog' : HandlerProg} {c c' : BxpServerConnection}

/-- Only `send_response` writes to the control stream. -/
theorem controlSend_step (h : prog.step C c = some (prog', c'))
    (hprog : ∀ id status next, prog ≠ sendResponse id status next) :
    c'.controlSend = c.controlSend := by
  cases prog with
  | done result => cases h
  | panic => cases h
  | sendResponse id status next => exact absurd rfl (hprog id status next)
  | sendDataStream id reader next =>
      obtain ⟨r, hr, -⟩ := call_eq_some.1 h
      exact (Prod.mk.inj (keeps_onQuic_control _ hr)).1
  | receiveRequest next =>
      obtain ⟨r, hr, -⟩ := call_eq_some.1 h
      obtain ⟨-, hsend, -⟩ := (BxpServerConnection.keeps_receiveRequest C).unread hr
      exact hsend
  | readDataStream next =>
      obtain ⟨r, hr, -⟩ := call_eq_some.1 h
      exact (Prod.mk.inj (keeps_onQuic_control _ hr)).1
  | waitForClose next =>
      obtain ⟨r, hr, -⟩ := call_eq_some.1 h
      exact (Prod.mk.inj (keeps_onQuic_control _ hr)).1

/-- Behind any other call the response is still to come. -/
theorem Replies.of_step {reqId : UInt32} (hreplies : prog.Replies reqId)
    (h : prog.step C c = some (prog', c'))
    (hprog : ∀ id status next, prog ≠ sendResponse id status next) : prog'.Replies reqId := by
  cases prog with
  | done result => cases h
  | panic => cases h
  | sendResponse id status next => exact absurd rfl (hprog id status next)
  | _ =>
      obtain ⟨r, -, rfl⟩ := call_eq_some.1 h
      exact hreplies r

end HandlerProg

/-- Nothing written answers nothing. -/
theorem not_answered_nil (reqId : UInt32) : ¬ Answered C reqId [] := by
  rintro ⟨sent, hsent, resp, hresp, -⟩
  cases sent with
  | nil => cases hresp
  | cons r sent =>
      obtain ⟨body, rest, hbytes, -⟩ := hsent.uncons
      have hlen := congrArg List.length hbytes
      rw [List.length_append, length_frame, List.length_nil] at hlen
      omega

/-- **A handler that sends a data stream before its response** leaves its request unanswered where
the client stops the stream and the handler passes the error on. -/
theorem HandlerProg.not_answersBefore_of_stopped {reqId id : UInt32} {reader : AsyncRead}
    {next : Except BxpError Unit → HandlerProg} {code : ℕ} {e : BxpError}
    (h : next (.error (.write (.stopped code))) = done (.error e)) :
    ¬ (sendDataStream id reader next).AnswersBefore C reqId (.error e) := by
  have hnet : alone C (sendDataStream id reader next, opened .server)
      (.net (.dataFlow (.stops 0 code)))
      = some (sendDataStream id reader next, (opened .server).onNet (.dataFlow (.stops 0 code))) :=
    alone_net _ (by rintro ⟨⟩)
  have hcall : alone C
      (sendDataStream id reader next, (opened .server).onNet (.dataFlow (.stops 0 code))) .advance
      = some (done (.error e), (opened .server).onNet (.dataFlow (.stops 0 code))) := by
    have hsend : BxpServerConnection.sendDataStream id reader
        ((opened .server).onNet (.dataFlow (.stops 0 code)))
        = some (.error (.write (.stopped code)),
            (opened .server).onNet (.dataFlow (.stops 0 code))) := rfl
    rw [alone_advance_eq_some_iff]
    refine ⟨rfl, ?_⟩
    rw [HandlerProg.step, hsend, Option.map_some, h]
  intro hanswers
  exact not_answered_nil reqId (hanswers [] ⟨_, ((Reachable.refl _).tail hnet).tail hcall, rfl⟩)

end Bxp

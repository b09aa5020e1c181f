/-
**The per-connection loop of a server, and invalid control messages.**

A server runs one task for each connection:
`while let Ok(request) = receive_request() { handle_request(request, conn) }`, and `wait_for_close`
behind the loop.  Here the task is a machine that makes one call after the other, while bytes,
streams and the close of the peer arrive from outside in any order.  A client is a machine too: its
application makes what calls it likes, one after the other, and awaits each to its end
(`Bxp.ClientApp.step`), or gives up some of them (`Bxp.ClientApp.onEvent`).

An invalid control message (a header above the limit, or a body that does not decode) should close
the connection with the code 1.  On neither side anything does: `receive_request` and
`receive_response` return an error, the loop of the server goes on to wait for the *peer* to close,
and the only code a connection is ever closed with is 0.

Main definitions:

* `Bxp.NetEvent`, `Bxp.BxpConnection.onNet` — what arrives from outside;
* `Bxp.ServeLoop`, `Bxp.ServeLoop.advance`, `Bxp.ServeLoop.step` — the task of a server;
* `Bxp.ClientApp`, `Bxp.ClientApp.step`, `Bxp.ClientApp.onEvent` — a client;
* `Bxp.InvalidMessage`, `Bxp.ClosesOnInvalid` — invalid messages, and what should become of the
  connection they come on.

Main results:

* `Bxp.ServeLoop.localClose_ne_one`, `Bxp.ClientApp.localClose_ne_one` — neither side ever closes
  with the code 1;
* `Bxp.closesOnInvalid_iff` — **the connection is closed as it should be in exactly the runs in
  which no invalid message is consumed**.
-/

import BxpCore.Machine
import BxpCore.Oversized
import BxpCore.Router

set_option relaxedAutoImplicit false
set_option autoImplicit false

namespace Bxp

open LengthPrefix Machine BxpConnection

variable {side : Side} {C : Capnp.Serializer} {router : BxpRouter}

/-! ### What arrives from outside -/

/-- What the network brings to one side of a connection: bytes on the control stream, its finish or
its reset, a data stream; what the peer does with what it is sent, on the control stream and on the
data streams that are opened next; and the loss of the connection, closed by the peer or not. -/
inductive NetEvent
  | control (bytes : List UInt8)
  | controlFinish
  | controlReset (code : ℕ)
  | controlFlow (flow : PeerFlow)
  | dataStream (stream : RecvStream)
  | dataFlow (flow : PeerFlow)
  | peerClose

/-- The connection after an event.  A control stream that the peer has stopped stays stopped. -/
def BxpConnection.onNet (c : BxpConnection side) : NetEvent → BxpConnection side
  | .control bytes => { c with controlRecv := c.controlRecv.arrive bytes }
  | .controlFinish => { c with controlRecv := c.controlRecv.stop .finished }
  | .controlReset code => { c with controlRecv := c.controlRecv.stop (.reset code) }
  | .controlFlow flow =>
      match c.controlSend.flow with
      | .breaks _ _ => c
      | _ => { c with controlSend := { c.controlSend with flow := flow.toFlow } }
  | .dataStream stream =>
      { c with quicConn := { c.quicConn with incomingUni := c.quicConn.incomingUni ++ [stream] } }
  | .dataFlow flow => { c with quicConn := { c.quicConn with uniFlow := flow } }
  | .peerClose => c.lose

/-- What a peer does with what it is sent leaves alone what comes from it. -/
theorem BxpConnection.controlRecv_onNet_controlFlow (c : BxpConnection side) (flow : PeerFlow) :
    (c.onNet (.controlFlow flow)).controlRecv = c.controlRecv := by
  rw [onNet]
  split <;> rfl

/-- What it does on the control stream leaves the QUIC connection alone. -/
theorem BxpConnection.quicConn_onNet_controlFlow (c : BxpConnection side) (flow : PeerFlow) :
    (c.onNet (.controlFlow flow)).quicConn = c.quicConn := by
  rw [onNet]
  split <;> rfl

/-- **What arrives leaves alone** what was written, and whether this side has closed the
connection. -/
theorem BxpConnection.keeps_onNet (c : BxpConnection side) (e : NetEvent) :
    (c.onNet e).quicConn.localClose = c.quicConn.localClose ∧
      (c.onNet e).quicConn.outgoingUni = c.quicConn.outgoingUni ∧
      (c.onNet e).controlSend.buf = c.controlSend.buf ∧ (c.onNet e).msgBufs = c.msgBufs := by
  cases e with
  | controlFlow flow =>
      rw [onNet]
      split
      · exact ⟨rfl, rfl, rfl, rfl⟩
      · exact ⟨rfl, rfl, rfl, rfl⟩
  | _ => exact ⟨rfl, rfl, rfl, rfl⟩

/-! ### The task of a server -/

/-- Where the task of a connection is: in `receive_request`, in `handle_request`, in
`wait_for_close`, or done. -/
inductive ServerTask
  | receiving
  | handling (prog : HandlerProg)
  | waiting
  | ended

/-- The task, and the connection it serves. -/
structure ServeLoop where
  conn : BxpServerConnection
  task : ServerTask

namespace ServeLoop

/-- A connection just accepted. -/
def start : ServeLoop where
  conn := opened .server
  task := .receiving

/-- The task drops the connection when it is over; the last handle closes it with the code 0. -/
def drop (c : BxpServerConnection) : ServeLoop where
  conn := { c with quicConn := c.quicConn.close 0 }
  task := .ended

/-- One step of the task.  It is pending as long as the call it is in. -/
def advance (C : Capnp.Serializer) (router : BxpRouter) (s : ServeLoop) : Option ServeLoop :=
  match s.task with
  | .receiving =>
      (BxpServerConnection.receiveRequest C s.conn).map fun p =>
        match p.1 with
        | .ok req => { conn := p.2, task := .handling (router.handleRequest req) }
        | .error _ => { conn := p.2, task := .waiting }
  -- whatever the handler returned, the loop goes on
  | .handling (.done _) => some { s with task := .receiving }
  | .handling .panic => some (drop s.conn)
  | .handling prog => (prog.step C s.conn).map fun p => { conn := p.2, task := .handling p.1 }
  | .waiting => (BxpServerConnection.waitForClose s.conn).map fun p => drop p.2
  | .ended => none

/-- What happens to a server: something arrives, or the task goes on. -/
inductive Event
  | net (e : NetEvent)
  | advance

/-- The machine of one connection of a server. -/
def step (C : Capnp.Serializer) (router : BxpRouter) (s : ServeLoop) : Event → Option ServeLoop
  | .net e => some { s with conn := s.conn.onNet e }
  | .advance => s.advance C router

/-- The next step of the task is a call of `receive_request`. -/
def AtReceive (s : ServeLoop) : Prop :=
  match s.task with
  | .receiving => True
  | .handling (.receiveRequest _) => True
  | _ => False

end ServeLoop

/-! ### Nobody closes with the code 1 -/

/-- No call of a handler closes the connection. -/
theorem HandlerProg.closing_step {c c' : BxpServerConnection} {prog prog' : HandlerProg}
    (h : prog.step C c = some (prog', c')) : c'.quicConn.closing = c.quicConn.closing := by
  cases prog with
  | done r => cases h
  | panic => cases h
  | sendResponse reqId status next =>
      obtain ⟨r, hr, -⟩ := call_eq_some.1 h
      obtain ⟨hquic, -⟩ := Prod.mk.inj (BxpServerConnection.keeps_sendResponse C reqId status hr)
      rw [hquic]
  | sendDataStream reqId reader next =>
      obtain ⟨r, hr, -⟩ := call_eq_some.1 h
      exact keeps_onQuic (Connection.keeps_sendDataStream reqId reader) hr
  | receiveRequest next =>
      obtain ⟨r, hr, -⟩ := call_eq_some.1 h
      obtain ⟨hquic, -, -⟩ := (BxpServerConnection.keeps_receiveRequest C).unread hr
      rw [hquic]
  | readDataStream next =>
      obtain ⟨r, hr, -⟩ := call_eq_some.1 h
      exact keeps_onQuic Connection.keeps_readDataStream hr
  | waitForClose next =>
      obtain ⟨r, hr, -⟩ := call_eq_some.1 h
      exact keeps_onQuic Connection.keeps_closed hr

/-- The code 0 is not the code 1. -/
theorem Connection.localClose_close_ne_one {c : Connection} (h : c.localClose ≠ some 1) :
    (c.close 0).localClose ≠ some 1 := by
  rw [close]
  cases hc : c.localClose with
  | none => simp
  | some code =>
      rw [hc] at h
      simpa using h

/-- **One step of the task** leaves the connection open or closes it with the code 0. -/
theorem ServeLoop.advance_localClose {s t : ServeLoop} (h : s.advance C router = some t)
    (hs : s.conn.quicConn.localClose ≠ some 1) : t.conn.quicConn.localClose ≠ some 1 := by
  obtain ⟨conn, task⟩ := s
  cases task with
  | receiving =>
      obtain ⟨⟨r, c⟩, hrecv, heq⟩ := Option.map_eq_some_iff.1 h
      obtain ⟨hquic, -, -⟩ := (BxpServerConnection.keeps_receiveRequest C).unread hrecv
      cases r with
      | ok req => rwa [← heq, hquic]
      | error e => rwa [← heq, hquic]
  | handling prog =>
      cases prog with
      | done r =>
          rw [advance, Option.some.injEq] at h
          rwa [← h]
      | panic =>
          rw [advance, Option.some.injEq] at h
          rw [← h]
          exact Connection.localClose_close_ne_one hs
      | _ =>
          obtain ⟨p, hp, rfl⟩ := Option.map_eq_some_iff.1 h
          rw [(Prod.mk.inj (HandlerProg.closing_step hp)).1]
          exact hs
  | waiting =>
      obtain ⟨p, hp, rfl⟩ := Option.map_eq_some_iff.1 h
      refine Connection.localClose_close_ne_one ?_
      rw [(Prod.mk.inj (keeps_onQuic Connection.keeps_closed hp)).1]
      exact hs
  | ended => cases h

theorem ServeLoop.step_localClose {s t : ServeLoop} {e : Event}
    (h : s.step C router e = some t) (hs : s.conn.quicConn.localClose ≠ some 1) :
    t.conn.quicConn.localClose ≠ some 1 := by
  cases e with
  | net e =>
      rw [step, Option.some.injEq] at h
      rw [← h, (keeps_onNet s.conn e).1]
      exact hs
  | advance => exact advance_localClose h hs

/-- **A server never closes a connection with the code 1.** -/
theorem ServeLoop.localClose_ne_one {t : ServeLoop} {es : List Event}
    (h : run (ServeLoop.step C router) ServeLoop.start es = some t) :
    t.conn.quicConn.localClose ≠ some 1 := by
  refine run_inv (P := fun s => s.conn.quicConn.localClose ≠ some 1) ?_ ?_ h
  · intro s e s' hs hstep
    exact step_localClose hstep hs
  · intro hnone
    cases hnone

/-! ### A client -/

/-- The calls of a client. -/
inductive ClientCall
  | sendRequest (reqId : UInt32) (action : BxpAction) (uri : String)
  | receiveResponse
  | sendDataStream (reqId : UInt32) (reader : AsyncRead)
  | readDataStream
  | close

/-- Where the application of a client is: it can make a call, it awaits one that is pending, or it
has closed the connection, and `close` has taken it. -/
inductive ClientTask
  | idle
  | awaiting (call : ClientCall)
  | closed

/-- What happens to a client: something arrives, its application makes a call, or the call that it
awaits goes on. -/
inductive ClientEvent
  | net (e : NetEvent)
  | call (call : ClientCall)
  | poll

/-- The connection once the call has returned, whatever it returns. -/
def ClientCall.run (C : Capnp.Serializer) (c : BxpClientConnection) :
    ClientCall → Option BxpClientConnection
  | sendRequest reqId action uri =>
      (BxpClientConnection.sendRequest C reqId action uri c).map Prod.snd
  | receiveResponse => (BxpClientConnection.receiveResponse C c).map Prod.snd
  | sendDataStream reqId reader => (BxpClientConnection.sendDataStream reqId reader c).map Prod.snd
  | readDataStream => (BxpClientConnection.readDataStream c).map Prod.snd
  | close => some (BxpClientConnection.close c)

/-- Where the application is once the call has returned. -/
def ClientCall.after : ClientCall → ClientTask
  | close => .closed
  | _ => .idle

/-- An application with its connection.  It awaits every call to its end: a call that is pending is
not given up, and no other is made before it has returned. -/
structure ClientApp where
  conn : BxpClientConnection
  task : ClientTask

namespace ClientApp

/-- A client that has connected. -/
def connected (c : BxpClientConnection) : ClientApp where
  conn := c
  task := .idle

/-- The call that an event sets going, or lets go on. -/
def polled (a : ClientApp) : ClientEvent → Option ClientCall
  | .net _ => none
  | .call call =>
      match a.task with
      | .idle => some call
      | _ => none
  | .poll =>
      match a.task with
      | .awaiting call => some call
      | _ => none

/-- The call returns, or it is pending and awaited. -/
def poll (C : Capnp.Serializer) (a : ClientApp) (call : ClientCall) : ClientApp :=
  match call.run C a.conn with
  | none => { a with task := .awaiting call }
  | some c => { conn := c, task := call.after }

/-- The machine of a client. -/
def step (C : Capnp.Serializer) (a : ClientApp) (e : ClientEvent) : Option ClientApp :=
  match e with
  | .net e => some { a with conn := a.conn.onNet e }
  | e => (a.polled e).map (a.poll C)

/-- The steps of a client. -/
inductive Moves (C : Capnp.Serializer) (a : ClientApp) : ClientEvent → ClientApp → Prop
  | net (e : NetEvent) : Moves C a (.net e) { a with conn := a.conn.onNet e }
  | pending {e : ClientEvent} {call : ClientCall} (hpolled : a.polled e = some call)
      (hrun : call.run C a.conn = none) : Moves C a e { a with task := .awaiting call }
  | returned {e : ClientEvent} {call : ClientCall} {c : BxpClientConnection}
      (hpolled : a.polled e = some call) (hrun : call.run C a.conn = some c) :
      Moves C a e { conn := c, task := call.after }

/-- **These are all the steps.** -/
theorem moves_of_step {a b : ClientApp} {e : ClientEvent} (h : a.step C e = some b) :
    Moves C a e b := by
  by_cases hnet : ∃ e', e = .net e'
  · obtain ⟨e', rfl⟩ := hnet
    obtain rfl := Option.some.inj h
    exact Moves.net e'
  · have hstep : a.step C e = (a.polled e).map (a.poll C) := by
      cases e with
      | net e' => exact absurd ⟨e', rfl⟩ hnet
      | call call => rfl
      | poll => rfl
    rw [hstep] at h
    obtain ⟨call, hpolled, rfl⟩ := Option.map_eq_some_iff.1 h
    rw [poll]
    cases hrun : call.run C a.conn with
    | none => exact Moves.pending hpolled hrun
    | some c => exact Moves.returned hpolled hrun

/-- A call of a client closes the connection with the code 0, or not at all. -/
theorem localClose_run {c c' : BxpClientConnection} {call : ClientCall}
    (h : call.run C c = some c') (hc : c.quicConn.localClose ≠ some 1) :
    c'.quicConn.localClose ≠ some 1 := by
  have hkeep : ∀ {α : Type} {x : Async BxpClientConnection α},
      Async.Keeps (fun c => c.quicConn.localClose) x → (x c).map Prod.snd = some c' →
        c'.quicConn.localClose = c.quicConn.localClose := by
    intro α x hx hmap
    obtain ⟨⟨r, d⟩, hd, rfl⟩ := Option.map_eq_some_iff.1 hmap
    exact hx hd
  cases call with
  | sendRequest reqId action uri =>
      rw [hkeep ((BxpClientConnection.keeps_sendRequest C reqId action uri).comp
        fun p => p.1.localClose) h]
      exact hc
  | receiveResponse =>
      rw [hkeep ((BxpClientConnection.keeps_receiveResponse C).comp fun p => p.1.localClose) h]
      exact hc
  | sendDataStream reqId reader =>
      rw [hkeep (keeps_onQuic ((Connection.keeps_sendDataStream reqId reader).comp Prod.fst)) h]
      exact hc
  | readDataStream =>
      rw [hkeep (keeps_onQuic (Connection.keeps_readDataStream.comp Prod.fst)) h]
      exact hc
  | close =>
      obtain rfl := Option.some.inj h
      exact Connection.localClose_close_ne_one hc

theorem step_localClose {a b : ClientApp} {e : ClientEvent} (h : a.step C e = some b)
    (ha : a.conn.quicConn.localClose ≠ some 1) : b.conn.quicConn.localClose ≠ some 1 := by
  cases moves_of_step h with
  | net e =>
      rw [(keeps_onNet a.conn e).1]
      exact ha
  | pending hpolled hrun => exact ha
  | returned hpolled hrun => exact localClose_run hrun ha

end ClientApp

/-! ### A client that gives up calls -/

/-- What a pending call leaves behind when its application gives it up and the future is dropped:
`n` is how far it had come, in bytes read or written, or in streams accepted.  What it had read or
accepted is gone with it, and what it had written stays. -/
def ClientCall.dropped (C : Capnp.Serializer) (n : ℕ) (c : BxpClientConnection) :
    ClientCall → BxpClientConnection
  | sendRequest reqId action uri =>
      match encodeRequest C reqId action uri with
      | .ok message =>
          { c with controlSend :=
              { c.controlSend with
                buf := c.controlSend.buf ++ (frameMessage message).take n } }
      | .error _ => c
  | receiveResponse =>
      match header c.controlRecv.unread with
      -- the buffer is allocated behind the header
      | some len =>
          if 4 ≤ n then (c.withMsgBuf len).withUnread (c.controlRecv.unread.drop n)
          else c.withUnread (c.controlRecv.unread.drop n)
      | none => c.withUnread (c.controlRecv.unread.drop n)
  | readDataStream =>
      if n = 0 then c
      else { c with quicConn := { c.quicConn with incomingUni := c.quicConn.incomingUni.tail } }
  | sendDataStream _ _ | close => c

/-- What happens to a client whose application may also give up the call it awaits. -/
inductive AppEvent
  | event (e : ClientEvent)
  | giveUp (n : ℕ)

namespace ClientApp

/-- The machine of such a client. -/
def onEvent (C : Capnp.Serializer) (a : ClientApp) : AppEvent → Option ClientApp
  | .event e => a.step C e
  | .giveUp n =>
      match a.task with
      | .awaiting call => some { conn := call.dropped C n a.conn, task := .idle }
      | _ => none

/-- Giving up a call closes nothing. -/
theorem localClose_dropped (C : Capnp.Serializer) (n : ℕ) (c : BxpClientConnection)
    (call : ClientCall) :
    (call.dropped C n c).quicConn.localClose = c.quicConn.localClose := by
  cases call with
  | sendRequest reqId action uri =>
      rw [ClientCall.dropped]
      split <;> rfl
  | receiveResponse =>
      rw [ClientCall.dropped]
      split
      · split <;> rfl
      · rfl
  | readDataStream =>
      rw [ClientCall.dropped]
      split <;> rfl
  | sendDataStream reqId reader => rfl
  | close => rfl

theorem onEvent_localClose {a b : ClientApp} {e : AppEvent} (h : a.onEvent C e = some b)
    (ha : a.conn.quicConn.localClose ≠ some 1) : b.conn.quicConn.localClose ≠ some 1 := by
  cases e with
  | event e => exact step_localClose h ha
  | giveUp n =>
      rw [onEvent] at h
      split at h
      · obtain rfl := Option.some.inj h
        rw [localClose_dropped]
        exact ha
      · cases h

/-- **A client never closes a connection with the code 1.** -/
theorem localClose_ne_one {a : ClientApp} {es : List AppEvent}
    (h : run (onEvent C) (connected (opened .client)) es = some a) :
    a.conn.quicConn.localClose ≠ some 1 := by
  refine run_inv (P := fun a => a.conn.quicConn.localClose ≠ some 1) ?_ ?_ h
  · intro a e b ha hstep
    exact onEvent_localClose hstep ha
  · intro hnone
    cases hnone

end ClientApp

/-! ### Invalid control messages -/

/-- The control stream starts with an invalid message: a header above the limit, or a complete body
that does not decode. -/
def InvalidMessage {α : Type} (decode : List UInt8 → Except BxpError α) (unread : List UInt8) :
    Prop :=
  OversizedHeader unread ∨
    ∃ n, header unread = some n ∧ n ≤ (unread.drop 4).length ∧
      Fails (decode ((unread.drop 4).take n))

/-- The server consumes an invalid message. -/
def ServeLoop.ConsumesInvalid (C : Capnp.Serializer) (s : ServeLoop) (e : Event) : Prop :=
  e = .advance ∧ s.AtReceive ∧ InvalidMessage (decodeRequest C) s.conn.controlRecv.unread

/-- The client meets an invalid message in a call of `receive_response`, which need not return. -/
def ClientApp.MeetsInvalid (C : Capnp.Serializer) (a : ClientApp) : AppEvent → Prop
  | .event e =>
      a.polled e = some .receiveResponse ∧
        InvalidMessage (decodeResponse C) a.conn.controlRecv.unread
  | .giveUp _ => False

/-- In every state of the run that is reached after a step of the kind `bad`, the connection is
closed with the code 1. -/
def ClosesOnInvalid {σ ε : Type} (step : σ → ε → Option σ) (bad : σ → ε → Prop)
    (localClose : σ → Option UInt32) (s : σ) (es : List ε) : Prop :=
  ∀ es' t, es' <+: es → run step s es' = some t → Meets step bad s es' → localClose t = some 1

/-- Where nobody closes with the code 1, only the runs without a bad step are as they should be. -/
theorem closesOnInvalid_of_never {σ ε : Type} {step : σ → ε → Option σ} {bad : σ → ε → Prop}
    {localClose : σ → Option UInt32} {s t : σ} {es : List ε} (hrun : run step s es = some t)
    (hnever : localClose t ≠ some 1) :
    ClosesOnInvalid step bad localClose s es ↔ ¬ Meets step bad s es := by
  constructor
  · intro hcloses hmeets
    exact hnever (hcloses es t List.prefix_rfl hrun hmeets)
  · rintro hnot es' t' ⟨es'', rfl⟩ - hmeets
    exact absurd (hmeets.append es'') hnot

/-- **The connection is closed as it should be in exactly the runs in which no invalid message is
consumed**, for a server with any router and for a client with any application. -/
theorem closesOnInvalid_iff (C : Capnp.Serializer) (router : BxpRouter) :
    (∀ (es : List ServeLoop.Event) (t : ServeLoop),
      run (ServeLoop.step C router) ServeLoop.start es = some t →
      (ClosesOnInvalid (ServeLoop.step C router) (ServeLoop.ConsumesInvalid C)
          (fun s => s.conn.quicConn.localClose) ServeLoop.start es ↔
        ¬ Meets (ServeLoop.step C router) (ServeLoop.ConsumesInvalid C) ServeLoop.start es)) ∧
    (∀ (es : List AppEvent) (a : ClientApp),
      run (ClientApp.onEvent C) (.connected (opened .client)) es = some a →
      (ClosesOnInvalid (ClientApp.onEvent C) (ClientApp.MeetsInvalid C)
          (fun a => a.conn.quicConn.localClose) (.connected (opened .client)) es ↔
        ¬ Meets (ClientApp.onEvent C) (ClientApp.MeetsInvalid C)
          (.connected (opened .client)) es)) := by
  constructor
  · intro es t hrun
    exact closesOnInvalid_of_never hrun (ServeLoop.localClose_ne_one hrun)
  · intro es a hrun
    exact closesOnInvalid_of_never hrun (ClientApp.localClose_ne_one hrun)

/-- A client announces a message of 1048577 bytes, and the server reads the header. -/
def oversizedRun : List ServeLoop.Event := [.net (.control [1, 0, 16, 0]), .advance]

/-- A request arrives, and the server receives it. -/
def validRun : List ServeLoop.Event := [.net (.control (frame pushMessage)), .advance]

/-- The request is valid, and nothing else is read. -/
theorem not_meets_validRun :
    ¬ Meets (ServeLoop.step Capnp.wire .new) (ServeLoop.ConsumesInvalid Capnp.wire)
      ServeLoop.start validRun := by
  rintro (⟨hnet, -⟩ | ⟨s, hs, ⟨-, -, hinvalid⟩ | ⟨t, -, hfalse⟩⟩)
  · cases hnet
  · obtain rfl := Option.some.inj hs
    have hheader : header (frame pushMessage) = some pushMessage.length := rfl
    rcases hinvalid with ⟨n, hn, hbig⟩ | ⟨n, hn, -, e, hdecode⟩
    · obtain rfl := Option.some.inj (hheader.symm.trans hn)
      revert hbig
      decide
    · obtain rfl := Option.some.inj (hheader.symm.trans hn)
      have hbody : ((frame pushMessage).drop 4).take pushMessage.length = pushMessage := rfl
      change decodeRequest Capnp.wire (((frame pushMessage).drop 4).take pushMessage.length) = _
        at hdecode
      rw [hbody, decodeRequest_pushMessage] at hdecode
      cases hdecode
  · exact hfalse

/-- What the general statement says of these runs: of the oversized message, of a valid one, where
the connection is as it should be, and of a client that gives up a response too large. -/
theorem closesOnInvalid_iff_oversizedRun :
    (ClosesOnInvalid (ServeLoop.step Capnp.wire .new) (ServeLoop.ConsumesInvalid Capnp.wire)
        (fun s => s.conn.quicConn.localClose) ServeLoop.start oversizedRun ↔
      ¬ Meets (ServeLoop.step Capnp.wire .new) (ServeLoop.ConsumesInvalid Capnp.wire)
        ServeLoop.start oversizedRun) ∧
    ClosesOnInvalid (ServeLoop.step Capnp.wire .new) (ServeLoop.ConsumesInvalid Capnp.wire)
      (fun s => s.conn.quicConn.localClose) ServeLoop.start validRun ∧
    ¬ ClosesOnInvalid (ClientApp.onEvent Capnp.wire) (ClientApp.MeetsInvalid Capnp.wire)
      (fun a => a.conn.quicConn.localClose) (.connected (opened .client))
      [.event (.net (.control [1, 0, 16, 0])), .event (.call .receiveResponse), .giveUp 4] := by
  obtain ⟨hserver, hclient⟩ := closesOnInvalid_iff Capnp.wire .new
  refine ⟨hserver oversizedRun _ rfl, (hserver validRun _ rfl).2 not_meets_validRun, ?_⟩
  intro hcloses
  refine (hclient _ _ rfl).1 hcloses (Or.inr ⟨_, rfl, Or.inl ⟨rfl, Or.inl ?_⟩⟩)
  exact ⟨1048577, rfl, by decide⟩

/-- **The server is left waiting for the client to close**: the connection is open after the
oversized header was consumed. -/
theorem oversizedRun_leaves_open :
    (∃ t, run (ServeLoop.step Capnp.wire .new) ServeLoop.start oversizedRun = some t ∧
      Meets (ServeLoop.step Capnp.wire .new) (ServeLoop.ConsumesInvalid Capnp.wire)
        ServeLoop.start oversizedRun ∧
      t.task = .waiting ∧ t.conn.quicConn.localClose = none) ∧
    ¬ ClosesOnInvalid (ServeLoop.step Capnp.wire .new) (ServeLoop.ConsumesInvalid Capnp.wire)
        (fun s => s.conn.quicConn.localClose) ServeLoop.start oversizedRun := by
  have hmeets : Meets (ServeLoop.step Capnp.wire .new) (ServeLoop.ConsumesInvalid Capnp.wire)
      ServeLoop.start oversizedRun :=
    Or.inr ⟨_, rfl, Or.inl ⟨rfl, trivial, Or.inl ⟨1048577, rfl, by decide⟩⟩⟩
  refine ⟨⟨_, rfl, hmeets, rfl, rfl⟩, fun hcloses => ?_⟩
  have hclosed := hcloses oversizedRun _ List.prefix_rfl rfl hmeets
  cases hclosed

end Bxp

/-
**What a server makes of the bytes it receives.**

As long as its connection is up, a server whose handlers only send is a function from what the
control stream brings to what it writes and the data streams it sends.  The function is the obvious
one: find the requests in front of the first invalid message, answer each of them, and put the
answers one behind the other.  It does not matter how the bytes are cut, nor when they come, nor
that the client may be an adversary who writes what it likes and takes what it is sent when it likes.

At any time the server has done the beginning of that, at rest it has done all of it, and where the
client gives it streams and credit its own steps lead there.

Main definitions:

* `Bxp.HandlerProg.streams`, `Bxp.BxpRouter.streams` — the data streams a request should get;
* `Bxp.BxpResponse.bytes`, `Bxp.BxpRouter.output` — the bytes of the answers;
* `Bxp.NetEvent.Harmless`, `Bxp.BxpConnection.Up` — what leaves the connection up;
* `Bxp.BxpConnection.HasCredit` — the client takes what it is sent;
* `Bxp.Serving.Working` — the invariant.

Main results:

* `Bxp.Serving.Working.step` — every step keeps the invariant;
* `Bxp.Serving.Working.reaches_rest` — the server comes to rest by its own steps, where it has
  credit;
* `Bxp.server_computes` — **the server computes the answers**.
-/

import BxpCore.ControlStream
import BxpCore.Session

set_option relaxedAutoImplicit false
set_option autoImplicit false

namespace Bxp

open LengthPrefix Machine BxpConnection

variable {C : Capnp.Serializer} {router : BxpRouter} {side : Side}

/-! ### The function -/

/-- The data streams a handler opens on a connection that is up. -/
def HandlerProg.streams : HandlerProg → List (UInt32 × AsyncRead)
  | sendResponse _ _ next => streams (next (.ok ()))
  | sendDataStream reqId reader next => (reqId, reader) :: streams (next reader.copyResult)
  | _ => []

/-- The data streams a request should get: those of the handler the router resolves.  Where nothing
is found there are none. -/
def BxpRouter.streams (router : BxpRouter) (req : BxpRequest) : List (UInt32 × AsyncRead) :=
  match router.lookup req.action req.uri with
  | some handler => (handler req).streams
  | none => []

/-- The bytes of a response on the control stream. -/
def BxpResponse.bytes (C : Capnp.Serializer) (resp : BxpResponse) : List UInt8 :=
  match encodeResponse C resp.reqId resp.status with
  | .ok body => frame body
  | .error _ => []

/-- What a server should write when it has received these requests. -/
def BxpRouter.output (C : Capnp.Serializer) (router : BxpRouter) (reqs : List BxpRequest) :
    List UInt8 :=
  (reqs.flatMap router.answers).flatMap (BxpResponse.bytes C)

/-- The data streams it should open. -/
def BxpRouter.outgoing (router : BxpRouter) (reqs : List BxpRequest) :
    List (UInt32 × AsyncRead) :=
  reqs.flatMap router.streams

theorem BxpRouter.answers_eq (router : BxpRouter) (req : BxpRequest) :
    router.answers req = (router.handleRequest req).responses :=
  (router.responses_handleRequest req).symm

theorem BxpRouter.streams_eq (router : BxpRouter) (req : BxpRequest) :
    router.streams req = (router.handleRequest req).streams := by
  rw [handleRequest, BxpRouter.streams]
  cases router.lookup req.action req.uri with
  | none => rfl
  | some handler => rfl

/-- What should be written for the first of the requests is the beginning of it. -/
theorem BxpRouter.output_prefix (C : Capnp.Serializer) (router : BxpRouter)
    {reqs reqs' : List BxpRequest} (h : reqs <+: reqs') :
    router.output C reqs <+: router.output C reqs' := by
  obtain ⟨more, rfl⟩ := h
  rw [output, output, List.flatMap_append, List.flatMap_append]
  exact List.prefix_append _ _

theorem BxpRouter.outgoing_prefix (router : BxpRouter) {reqs reqs' : List BxpRequest}
    (h : reqs <+: reqs') : router.outgoing reqs <+: router.outgoing reqs' := by
  obtain ⟨more, rfl⟩ := h
  rw [outgoing, outgoing, List.flatMap_append]
  exact List.prefix_append _ _

/-! ### A connection that is up -/

/-- The event does not take the connection down: it brings bytes or a data stream, or the end of
what the client sends, or the client takes what it is sent, or gives no credit for the time being. -/
def NetEvent.Harmless : NetEvent → Prop
  | .control _ | .controlFinish | .dataStream _ => True
  | .controlFlow .takes | .controlFlow .stalls | .dataFlow .takes | .dataFlow .stalls => True
  | .controlFlow (.stops _ _) | .dataFlow (.stops _ _) | .controlReset _ | .peerClose => False

/-- The connection is up: no stream of either side has failed.  What is written is taken, or it has
to wait. -/
structure BxpConnection.Up (c : BxpConnection side) : Prop where
  control : c.controlSend.flow = .takes ∨ c.controlSend.flow = .stalls
  data : c.quicConn.uniFlow = .takes ∨ c.quicConn.uniFlow = .stalls
  up : c.quicConn.isClosed = false
  kept : ¬ c.controlRecv.WasReset

/-- The peer takes what it is sent. -/
structure BxpConnection.HasCredit (c : BxpConnection side) : Prop where
  control : c.controlSend.flow = .takes
  data : c.quicConn.uniFlow = .takes

/-- A harmless event leaves the connection up. -/
theorem BxpConnection.Up.onNet {c : BxpConnection side} (h : c.Up) {e : NetEvent}
    (he : e.Harmless) : (c.onNet e).Up := by
  obtain ⟨hcontrol, hdata, hup, hkept⟩ := h
  cases e with
  | control bytes =>
      refine ⟨hcontrol, hdata, hup, ?_⟩
      rintro ⟨code, hcode⟩
      exact hkept ⟨code, (RecvStream.ended_arrive bytes c.controlRecv).symm.trans hcode⟩
  | controlFinish =>
      refine ⟨hcontrol, hdata, hup, ?_⟩
      intro hreset
      exact hkept (RecvStream.wasReset_of_stop (e := .finished) (by simp) hreset)
  | controlReset code => exact he.elim
  | controlFlow flow =>
      have hrecv := controlRecv_onNet_controlFlow c flow
      have hflow : (c.onNet (.controlFlow flow)).controlSend.flow = .takes ∨
          (c.onNet (.controlFlow flow)).controlSend.flow = .stalls := by
        cases flow with
        | takes => rcases hcontrol with h | h <;> exact Or.inl (by rw [BxpConnection.onNet, h]; rfl)
        | stalls => rcases hcontrol with h | h <;> exact Or.inr (by rw [BxpConnection.onNet, h]; rfl)
        | stops credit code => exact he.elim
      have hquic := quicConn_onNet_controlFlow c flow
      exact ⟨hflow, hquic ▸ hdata, hquic ▸ hup, hrecv ▸ hkept⟩
  | dataStream stream => exact ⟨hcontrol, hdata, hup, hkept⟩
  | dataFlow flow =>
      refine ⟨hcontrol, ?_, hup, hkept⟩
      cases flow with
      | takes => exact Or.inl rfl
      | stalls => exact Or.inr rfl
      | stops credit code => exact he.elim
  | peerClose => exact he.elim

/-- Receiving a request leaves the connection up. -/
theorem BxpConnection.Up.receiveRequest {c c' : BxpServerConnection} (h : c.Up)
    {r : Except BxpError BxpRequest}
    (hrecv : BxpServerConnection.receiveRequest C c = some (r, c')) :
    c'.Up ∧ c'.controlSend = c.controlSend ∧ c'.quicConn = c.quicConn := by
  obtain ⟨hquic, hsend, hended⟩ := (BxpServerConnection.keeps_receiveRequest C).unread hrecv
  refine ⟨⟨hsend ▸ h.control, hquic ▸ h.data, hquic ▸ h.up, ?_⟩, hsend, hquic⟩
  rw [RecvStream.WasReset, hended]
  exact h.kept

/-- **Sending a response** on a connection that is up puts its bytes on the control stream, if the
call returns. -/
theorem BxpConnection.Up.sendResponse (hwd : C.WritesData) {c c' : BxpServerConnection} (h : c.Up)
    (resp : BxpResponse) {r : Except BxpError Unit}
    (hsend : BxpServerConnection.sendResponse C resp.reqId resp.status c = some (r, c')) :
    r = .ok () ∧ c'.Up ∧ c'.controlSend.buf = c.controlSend.buf ++ resp.bytes C ∧
      c'.quicConn = c.quicConn := by
  obtain ⟨body, hbody, -⟩ := encodeResponse_ok hwd resp.reqId resp.status
  rcases h.control with htakes | hstalls
  · have hsent := BxpServerConnection.sendResponse_of_open htakes hbody
    obtain ⟨rfl, rfl⟩ := Prod.mk.inj (Option.some.inj (hsend.symm.trans hsent))
    refine ⟨rfl, ⟨h.control, h.data, h.up, h.kept⟩, ?_, rfl⟩
    rw [BxpResponse.bytes, hbody]
  · cases hsend.symm.trans (BxpServerConnection.sendResponse_of_stalls hstalls hbody)

/-- **Sending a data stream** on a connection that is up sends all of it, if the call returns. -/
theorem BxpConnection.Up.sendDataStream {c c' : BxpServerConnection} (h : c.Up) {reqId : UInt32}
    {reader : AsyncRead} {r : Except BxpError Unit}
    (hsend : BxpServerConnection.sendDataStream reqId reader c = some (r, c')) :
    r = reader.copyResult ∧ c'.Up ∧ c'.controlSend = c.controlSend ∧
      c'.quicConn.outgoingUni = c.quicConn.outgoingUni ++ [(reqId, reader)] := by
  obtain ⟨⟨r', quicConn⟩, hquic, heq⟩ := Option.map_eq_some_iff.1 hsend
  obtain ⟨rfl, rfl⟩ := Prod.mk.inj heq
  rcases h.data with htakes | hstalls
  · have hsent := Connection.sendDataStream_of_up h.up htakes reqId reader
    obtain ⟨rfl, rfl⟩ := Prod.mk.inj (Option.some.inj (hquic.symm.trans hsent))
    exact ⟨rfl, ⟨h.control, h.data, h.up, h.kept⟩, rfl, rfl⟩
  · cases hquic.symm.trans (Connection.sendDataStream_of_stalls h.up hstalls reqId reader)

/-! ### The invariant -/

/-- Handlers that only send leave the control stream to the loop. -/
theorem HandlerProg.SendsOnly.neverReceives {prog : HandlerProg} (h : prog.SendsOnly) :
    prog.NeverReceives := by
  induction prog with
  | done result => trivial
  | panic => trivial
  | sendResponse reqId status next ih => exact fun r => ih r (h r)
  | sendDataStream reqId reader next ih => exact fun r => ih r (h r)
  | receiveRequest next ih => exact h.elim
  | readDataStream next ih => exact h.elim
  | waitForClose next ih => exact h.elim

/-- The data streams the task has still to open for the request it is at. -/
def ServerTask.streams : ServerTask → List (UInt32 × AsyncRead)
  | handling prog => prog.streams
  | _ => []

namespace Serving

/-- What has been sent, and what the handler has still to send, is what the requests received should
get. -/
structure Working (C : Capnp.Serializer) (router : BxpRouter) (s : Serving) : Prop where
  up : s.conn.Up
  written : s.conn.controlSend.buf = s.sent.flatMap (BxpResponse.bytes C)
  serves : ∀ prog, s.log.loop.task = .handling prog → prog.SendsOnly
  running : s.log.loop.task ≠ .ended
  responses : s.sent ++ s.log.loop.task.responses = s.log.received.flatMap router.answers
  streams : s.conn.quicConn.outgoingUni ++ s.log.loop.task.streams
    = router.outgoing s.log.received

variable {s t : Serving}

theorem working_start : Working C router (accepted (opened .server)) where
  up := ⟨Or.inl rfl, Or.inl rfl, rfl, by rintro ⟨code, ⟨⟩⟩⟩
  written := rfl
  serves := by
    intro prog hprog
    cases hprog
  running := by
    intro hended
    cases hended
  responses := rfl
  streams := rfl

/-- A harmless event leaves the invariant. -/
theorem Working.net (h : Working C router s) {e : NetEvent} (he : e.Harmless)
    (hmove : Moves C router s (.net e) t) : Working C router t := by
  cases hmove with
  | net =>
      obtain ⟨-, hout, hbuf, -⟩ := keeps_onNet s.conn e
      refine ⟨h.up.onNet he, ?_, h.serves, h.running, h.responses, ?_⟩
      · show (s.conn.onNet e).controlSend.buf = _
        rw [hbuf]
        exact h.written
      · show (s.conn.onNet e).quicConn.outgoingUni ++ _ = _
        rw [hout]
        exact h.streams

/-- A request that is received brings the responses and the streams of its handler. -/
theorem Working.request (hsends : ∀ req, (router.handleRequest req).SendsOnly) (hrouted : s.Routed)
    (h : Working C router s) {req : BxpRequest} {c : BxpServerConnection}
    (htask : s.log.loop.task = .receiving)
    (hrecv : BxpServerConnection.receiveRequest C s.conn = some (.ok req, c)) :
    Working C router
      { s with
        log := { s.log with
          loop := { conn := c, task := .handling (router.handleRequest req) }
          current := some (req, s.conn.controlSend.buf.length) }
        heard := s.heard.add (.ok req) } := by
  obtain ⟨hup, hwritten, -, -, hresponses, hstreams⟩ := h
  rw [htask] at hresponses hstreams
  rw [Routed, htask] at hrouted
  obtain ⟨hup', hsend, hquic⟩ := hup.receiveRequest hrecv
  refine ⟨hup', ?_, ?_, by simp, ?_, ?_⟩
  · show c.controlSend.buf = _
    rw [hsend]
    exact hwritten
  · intro prog hprog
    rw [← ServerTask.handling.inj hprog]
    exact hsends req
  · rw [received_request hrouted.1, List.flatMap_append, ← hresponses, List.flatMap_singleton,
      BxpRouter.answers_eq]
    simp [ServerTask.responses]
  · rw [received_request hrouted.1, BxpRouter.outgoing, List.flatMap_append,
      ← BxpRouter.outgoing, ← hstreams, List.flatMap_singleton, BxpRouter.streams_eq]
    show c.quicConn.outgoingUni ++ _ = _
    rw [hquic]
    simp [ServerTask.streams, Serving.conn]

/-- A request that cannot be received brings nothing. -/
theorem Working.noRequest (h : Working C router s) {e : BxpError} {c : BxpServerConnection}
    (htask : s.log.loop.task = .receiving)
    (hrecv : BxpServerConnection.receiveRequest C s.conn = some (.error e, c)) :
    Working C router
      { s with
        log := { s.log with loop := { conn := c, task := .waiting } }
        heard := s.heard.add (.error e) } := by
  obtain ⟨hup, hwritten, -, -, hresponses, hstreams⟩ := h
  rw [htask] at hresponses hstreams
  obtain ⟨hup', hsend, hquic⟩ := hup.receiveRequest hrecv
  refine ⟨hup', ?_, by simp, by simp, hresponses, ?_⟩
  · show c.controlSend.buf = _
    rw [hsend]
    exact hwritten
  · show c.quicConn.outgoingUni ++ _ = _
    rw [hquic]
    exact hstreams

/-- A response moves from what is to be sent to what is. -/
theorem Working.responds (hwd : C.WritesData) (h : Working C router s) {reqId : UInt32}
    {status : BxpStatus} {next : Except BxpError Unit → HandlerProg} {c : BxpServerConnection}
    (htask : s.log.loop.task = .handling (.sendResponse reqId status next))
    (hsend : BxpServerConnection.sendResponse C reqId status s.conn = some (.ok (), c)) :
    Working C router
      { s with
        log := { s.log with loop := { conn := c, task := .handling (next (.ok ())) } }
        sent := s.sent ++ [{ reqId, status }] } := by
  obtain ⟨hup, hwritten, hserves, -, hresponses, hstreams⟩ := h
  rw [htask] at hresponses hstreams
  have hnext := hserves _ htask (.ok ())
  obtain ⟨-, hup', hbuf, hquic⟩ := hup.sendResponse hwd { reqId, status } hsend
  refine ⟨hup', ?_, ?_, by simp, ?_, ?_⟩
  · show c.controlSend.buf = _
    rw [hbuf, hwritten, List.flatMap_append, List.flatMap_singleton]
  · intro prog hprog
    rw [← ServerTask.handling.inj hprog]
    exact hnext
  · rw [List.append_assoc]
    exact hresponses
  · show c.quicConn.outgoingUni ++ _ = _
    rw [hquic]
    exact hstreams

/-- So does a data stream: of the other calls, a handler that only sends makes no more. -/
theorem Working.call (h : Working C router s) {prog prog' : HandlerProg} {c : BxpServerConnection}
    (htask : s.log.loop.task = .handling prog) (hcall : prog.step C s.conn = some (prog', c))
    (hsend : ∀ reqId status next, prog ≠ .sendResponse reqId status next) :
    Working C router
      { s with log := { s.log with loop := { conn := c, task := .handling prog' } } } := by
  obtain ⟨hup, hwritten, hserves, -, hresponses, hstreams⟩ := h
  have hprog := hserves _ htask
  cases prog with
  | sendDataStream reqId reader next =>
      rw [htask] at hresponses hstreams
      obtain ⟨r, hcall', rfl⟩ := HandlerProg.call_eq_some.1 hcall
      obtain ⟨rfl, hup', hctrl, hout⟩ := hup.sendDataStream hcall'
      refine ⟨hup', ?_, ?_, by simp, hresponses, ?_⟩
      · show c.controlSend.buf = _
        rw [hctrl]
        exact hwritten
      · intro prog hprog'
        rw [← ServerTask.handling.inj hprog']
        exact hprog _
      · show c.quicConn.outgoingUni ++ _ = _
        rw [hout, List.append_assoc]
        exact hstreams
  | done result => cases hcall
  | panic => cases hcall
  | sendResponse reqId status next => exact absurd rfl (hsend reqId status next)
  | receiveRequest next => exact hprog.elim
  | readDataStream next => exact hprog.elim
  | waitForClose next => exact hprog.elim

/-- A handler that returns has nothing left to send. -/
theorem Working.returned (hrouted : s.Routed) (h : Working C router s) {result : Except BxpError Unit}
    (htask : s.log.loop.task = .handling (.done result)) :
    Working C router
      { s with log := s.log.note C { s.log.loop with task := .receiving } .advance } := by
  obtain ⟨hup, hwritten, -, -, hresponses, hstreams⟩ := h
  rw [htask] at hresponses hstreams
  rw [Routed, htask] at hrouted
  have hreceived := received_returned (C := C) htask hrouted.2.1
    { s.log.loop with task := .receiving }
  have hloop := ServeLog.note_loop (C := C) s.log { s.log.loop with task := .receiving } .advance
  refine ⟨?_, ?_, ?_, ?_, ?_, ?_⟩
  · show BxpConnection.Up (ServeLog.loop _).conn
    rw [hloop]
    exact hup
  · show (ServeLog.loop _).conn.controlSend.buf = _
    rw [hloop]
    exact hwritten
  · rw [hloop]
    simp
  · rw [hloop]
    simp
  · rw [hloop, hreceived]
    exact hresponses
  · show (ServeLog.loop _).conn.quicConn.outgoingUni ++ _ = _
    rw [hloop, hreceived]
    exact hstreams

/-- **Every step of the task keeps the invariant.** -/
theorem Working.advance (hwd : C.WritesData)
    (hsends : ∀ req, (router.handleRequest req).SendsOnly) (hrouted : s.Routed)
    (h : Working C router s) (hmove : Moves C router s .advance t) : Working C router t := by
  cases hmove with
  | request htask hrecv => exact h.request hsends hrouted htask hrecv
  | noRequest htask hrecv => exact h.noRequest htask hrecv
  | handlerReceives htask hrecv => exact (h.serves _ htask).elim
  | responds htask hsend => exact h.responds hwd htask hsend
  | @respondFails reqId status next e c htask hsend =>
      -- it does not fail on a connection that is up
      cases (h.up.sendResponse hwd { reqId, status } hsend).1
  | call htask hcall hsend hrecv => exact h.call htask hcall hsend
  | returned htask => exact h.returned hrouted htask
  | panicked htask => exact (h.serves _ htask).elim
  | closed htask hwait =>
      -- the client has not closed
      obtain ⟨p, hclosed, -⟩ := Option.map_eq_some_iff.1 hwait
      rw [Connection.closed, h.up.up] at hclosed
      cases hclosed

/-- **Every step of a run without trouble keeps the invariant.** -/
theorem Working.step (hwd : C.WritesData)
    (hsends : ∀ req, (router.handleRequest req).SendsOnly) (hrouted : s.Routed)
    (h : Working C router s) {e : ServeLoop.Event} (he : ∀ e', e = .net e' → e'.Harmless)
    (hmove : Moves C router s e t) : Working C router t := by
  cases e with
  | net e => exact h.net (he e rfl) hmove
  | advance => exact h.advance hwd hsends hrouted hmove

theorem Working.of_run (h : Working C router s) (hwd : C.WritesData)
    (hsends : ∀ req, (router.handleRequest req).SendsOnly) (hreceives : router.NeverReceives)
    (hrouted : s.Routed) {es : List ServeLoop.Event}
    (hquiet : ∀ e ∈ ServeLoop.netEvents es, e.Harmless)
    (hrun : run (Serving.step C router) s es = some t) : Working C router t := by
  have hend := run_inv_rest (P := fun u fs => (Working C router u ∧ u.Routed) ∧
    ∀ e ∈ ServeLoop.netEvents fs, e.Harmless) ?_ ⟨⟨h, hrouted⟩, hquiet⟩ hrun
  · exact hend.1.1
  · rintro u e fs v ⟨⟨hu, hrouted⟩, hquiet⟩ hstep
    have hmove := moves_of_step hstep
    have hall : (∀ e', e = .net e' → e'.Harmless) ∧
        ∀ e ∈ ServeLoop.netEvents fs, e.Harmless := by
      cases e with
      | net e' =>
          have hboth : e'.Harmless ∧ ∀ e ∈ ServeLoop.netEvents fs, e.Harmless :=
            List.forall_mem_cons.1 hquiet
          refine ⟨?_, hboth.2⟩
          intro e'' heq
          rw [← ServeLoop.Event.net.inj heq]
          exact hboth.1
      | advance => exact ⟨by simp, hquiet⟩
    exact ⟨⟨hu.step hwd hsends hrouted hall.1 hmove, hrouted.step hreceives hmove⟩, hall.2⟩

/-! ### Coming to rest -/

/-- At rest nothing is left to be sent. -/
theorem AtRest.nothing_left (h : AtRest C s) :
    s.log.loop.task.responses = [] ∧ s.log.loop.task.streams = [] := by
  rcases h with ⟨htask, -⟩ | htask
  · rw [htask]
    exact ⟨rfl, rfl⟩
  · rw [htask]
    exact ⟨rfl, rfl⟩

end Serving

/-- **Sending a response** returns where there is credit. -/
theorem BxpConnection.HasCredit.sendResponse (hwd : C.WritesData) {c : BxpServerConnection}
    (h : c.HasCredit) (resp : BxpResponse) :
    ∃ r c', BxpServerConnection.sendResponse C resp.reqId resp.status c = some (r, c') ∧
      c'.HasCredit ∧ c'.readPart = c.readPart := by
  obtain ⟨body, hbody, -⟩ := encodeResponse_ok hwd resp.reqId resp.status
  have hsent := BxpServerConnection.sendResponse_of_open h.control hbody
  exact ⟨_, _, hsent, ⟨h.control, h.data⟩, rfl⟩

/-- **Sending a data stream** returns there. -/
theorem BxpConnection.HasCredit.sendDataStream {c : BxpServerConnection} (h : c.HasCredit)
    (hup : c.quicConn.isClosed = false) (reqId : UInt32) (reader : AsyncRead) :
    ∃ r c', BxpServerConnection.sendDataStream reqId reader c = some (r, c') ∧
      c'.HasCredit ∧ c'.readPart = c.readPart := by
  have hsent := Connection.sendDataStream_of_up hup h.data reqId reader
  refine ⟨reader.copyResult, { c with quicConn := { c.quicConn with
    outgoingUni := c.quicConn.outgoingUni ++ [(reqId, reader)] } }, ?_, ⟨h.control, h.data⟩, rfl⟩
  rw [BxpServerConnection.sendDataStream, onQuic, hsent]
  rfl

/-- **A handler that only sends returns** on a connection that is up and has credit, and reads
nothing. -/
theorem HandlerProg.SendsOnly.returns (hwd : C.WritesData) (router : BxpRouter) {prog : HandlerProg}
    (h : prog.SendsOnly) {c : BxpServerConnection} (hc : c.Up) (hcredit : c.HasCredit) :
    ∃ result c', Steps (ServeLoop.step C router) .advance { conn := c, task := .handling prog }
        { conn := c', task := .handling (.done result) } ∧
      c'.Up ∧ c'.HasCredit ∧ c'.readPart = c.readPart := by
  induction prog generalizing c with
  | done result => exact ⟨result, c, Steps.refl _ _, hc, hcredit, rfl⟩
  | sendResponse reqId status next ih =>
      obtain ⟨r, c', hsend, hcredit', hread⟩ := hcredit.sendResponse hwd { reqId, status }
      obtain ⟨-, hup, -⟩ := hc.sendResponse hwd { reqId, status } hsend
      obtain ⟨result, d, hsteps, hd, hdcredit, hdread⟩ := ih r (h _) hup hcredit'
      refine ⟨result, d, Steps.head ?_ hsteps, hd, hdcredit, hdread.trans hread⟩
      exact Option.map_eq_some_iff.2 ⟨_, HandlerProg.call_eq_some.2 ⟨_, hsend, rfl⟩, rfl⟩
  | sendDataStream reqId reader next ih =>
      obtain ⟨r, c', hstream, hcredit', hread⟩ := hcredit.sendDataStream hc.up reqId reader
      obtain ⟨-, hup, -⟩ := hc.sendDataStream hstream
      obtain ⟨result, d, hsteps, hd, hdcredit, hdread⟩ := ih r (h _) hup hcredit'
      refine ⟨result, d, Steps.head ?_ hsteps, hd, hdcredit, hdread.trans hread⟩
      exact Option.map_eq_some_iff.2 ⟨_, HandlerProg.call_eq_some.2 ⟨_, hstream, rfl⟩, rfl⟩
  | panic => exact h.elim
  | receiveRequest next ih => exact h.elim
  | readDataStream next ih => exact h.elim
  | waitForClose next ih => exact h.elim

/-- **The loop comes to rest** on a connection that is up and has credit: each request uses up some
of the bytes that have arrived. -/
theorem ServeLoop.reaches_rest (hwd : C.WritesData)
    (hsends : ∀ req, (router.handleRequest req).SendsOnly) (len : ℕ) {c : BxpServerConnection}
    (hc : c.Up) (hcredit : c.HasCredit) (hlen : c.controlRecv.unread.length = len) :
    ∃ c' task, Steps (ServeLoop.step C router) .advance { conn := c, task := .receiving }
        { conn := c', task := task } ∧
      ((task = .receiving ∧ BxpServerConnection.receiveRequest C c' = none) ∨
        task = .waiting) := by
  induction len using Nat.strongRecOn generalizing c with
  | ind len ih =>
      cases hrecv : BxpServerConnection.receiveRequest C c with
      | none => exact ⟨c, _, Steps.refl _ _, Or.inl ⟨rfl, hrecv⟩⟩
      | some p =>
          obtain ⟨r, d⟩ := p
          obtain ⟨hd, hsame, hquic⟩ := hc.receiveRequest hrecv
          have hdcredit : d.HasCredit := ⟨hsame ▸ hcredit.control, hquic ▸ hcredit.data⟩
          cases r with
          | error e =>
              refine ⟨d, _, Steps.head ?_ (Steps.refl _ _), Or.inr rfl⟩
              exact Option.map_eq_some_iff.2 ⟨_, hrecv, rfl⟩
          | ok req =>
              have hlt : d.controlRecv.unread.length < len :=
                hlen ▸ (unread_of_receiveRequest hrecv).2 ⟨req, rfl⟩
              obtain ⟨result, d', hsteps, hup, hcredit', hread⟩ :=
                (hsends req).returns hwd router hd hdcredit
              have hunread : d'.controlRecv.unread.length = d.controlRecv.unread.length :=
                congrArg (fun p : RecvStream × List ℕ => p.1.unread.length) hread
              obtain ⟨c', task, hrest, hend⟩ := ih _ hlt hup hcredit' hunread
              refine ⟨c', task, Steps.head ?_ (hsteps.trans (Steps.head rfl hrest)), hend⟩
              exact Option.map_eq_some_iff.2 ⟨_, hrecv, rfl⟩

namespace Serving

variable {s : Serving}

/-- **The server comes to rest by its own steps**, from wherever it is, if it has credit. -/
theorem Working.reaches_rest (hwd : C.WritesData)
    (hsends : ∀ req, (router.handleRequest req).SendsOnly) (h : Working C router s)
    (hcredit : s.conn.HasCredit) :
    ∃ t, Steps (Serving.step C router) .advance s t ∧ AtRest C t := by
  have hloop : ∃ c task, Steps (ServeLoop.step C router) .advance s.log.loop
      { conn := c, task := task } ∧
      ((task = .receiving ∧ BxpServerConnection.receiveRequest C c = none) ∨ task = .waiting) := by
    obtain ⟨hup, -, hserves, hrunning, -, -⟩ := h
    obtain ⟨⟨⟨conn, task⟩, current, handled⟩, heard, sent⟩ := s
    cases task with
    | receiving => exact ServeLoop.reaches_rest hwd hsends _ hup hcredit rfl
    | handling prog =>
        obtain ⟨result, c', hsteps, hup', hcredit', -⟩ :=
          (hserves prog rfl).returns hwd router hup hcredit
        obtain ⟨c, task, hrest, hend⟩ := ServeLoop.reaches_rest hwd hsends _ hup' hcredit' rfl
        exact ⟨c, task, hsteps.trans (Steps.head rfl hrest), hend⟩
    | waiting => exact ⟨conn, _, Steps.refl _ _, Or.inr rfl⟩
    | ended => exact absurd rfl hrunning
  obtain ⟨c, task, hsteps, hend⟩ := hloop
  obtain ⟨t, ht, hlog⟩ := exists_steps hsteps
  refine ⟨t, ht, ?_⟩
  rcases hend with ⟨htask, hpending⟩ | htask
  · exact Or.inl ⟨by rw [hlog, htask], by rw [Serving.conn, hlog, hpending]⟩
  · exact Or.inr (by rw [hlog, htask])

/-- What is written is the beginning of what should be, for the requests received. -/
theorem Working.output_prefix (h : Working C router s) :
    s.conn.controlSend.buf <+: router.output C s.log.received ∧
      s.conn.quicConn.outgoingUni <+: router.outgoing s.log.received := by
  rw [h.written, BxpRouter.output, ← h.responses, List.flatMap_append, ← h.streams]
  exact ⟨List.prefix_append _ _, List.prefix_append _ _⟩

/-- At rest it is all of it. -/
theorem Working.output_eq (h : Working C router s) (hrest : AtRest C s) :
    s.conn.controlSend.buf = router.output C s.log.received ∧
      s.conn.quicConn.outgoingUni = router.outgoing s.log.received := by
  obtain ⟨hresponses, hstreams⟩ := hrest.nothing_left
  rw [h.written, BxpRouter.output, ← h.responses, ← h.streams, hresponses, hstreams,
    List.append_nil, List.append_nil]
  exact ⟨rfl, rfl⟩

end Serving

/-- The events of the task bring nothing that is not harmless. -/
theorem harmless_replicate_advance (n : ℕ) :
    ∀ e ∈ ServeLoop.netEvents (List.replicate n .advance), e.Harmless := by
  have hnone := netEvents_append_advance [] n
  rw [List.nil_append] at hnone
  rw [hnone]
  simp [ServeLoop.netEvents]

/-- **The server computes the answers.**  Let the handlers only send, and let the connection stay
up.  Whatever bytes the client puts on the control stream, in whatever pieces they arrive, and however
it gives credit: what the server has written is the beginning of the answers to the requests in front
of the first invalid message, each in its place; the data streams it has sent are the first of those
these requests should get, in order; at rest it has written and sent all of them, and nothing else;
and from wherever it has credit its own steps lead to rest. -/
theorem server_computes {C : Capnp.Serializer} {router : BxpRouter} (hwd : C.WritesData)
    (hsends : ∀ action uri handler, router.lookup action uri = some handler →
      ∀ req, (handler req).SendsOnly)
    {es : List ServeLoop.Event} (hquiet : ∀ e ∈ ServeLoop.netEvents es, e.Harmless) {s : Serving}
    (hrun : run (Serving.step C router) (.accepted (opened .server)) es = some s) :
    (s.conn.controlSend.buf
        <+: router.output C (requestsIn C (controlBytes (ServeLoop.netEvents es))) ∧
      s.conn.quicConn.outgoingUni
        <+: router.outgoing (requestsIn C (controlBytes (ServeLoop.netEvents es)))) ∧
    (s.AtRest C →
      s.conn.controlSend.buf
          = router.output C (requestsIn C (controlBytes (ServeLoop.netEvents es))) ∧
        s.conn.quicConn.outgoingUni
          = router.outgoing (requestsIn C (controlBytes (ServeLoop.netEvents es)))) ∧
    (s.conn.HasCredit → ∃ t, Steps (Serving.step C router) .advance s t ∧ t.AtRest C ∧
      t.conn.controlSend.buf
          = router.output C (requestsIn C (controlBytes (ServeLoop.netEvents es))) ∧
        t.conn.quicConn.outgoingUni
          = router.outgoing (requestsIn C (controlBytes (ServeLoop.netEvents es)))) := by
  have hprog : ∀ req, (router.handleRequest req).SendsOnly :=
    BxpRouter.sendsOnly_handleRequest hsends
  have hreceives : router.NeverReceives := fun action uri handler hlookup req =>
    (hsends action uri handler hlookup req).neverReceives
  have hstart : (Serving.accepted (opened .server)).Routed := ⟨rfl, rfl⟩
  have hworking := Serving.working_start.of_run hwd hprog hreceives hstart hquiet hrun
  have hreceived : s.log.received
      <+: requestsIn C (controlBytes (ServeLoop.netEvents es)) :=
    Serving.received_prefix hreceives hrun
  -- at rest everything received is answered, and everything has been received
  have hatRest : ∀ {fs : List ServeLoop.Event} {t : Serving}, Serving.Working C router t →
      run (Serving.step C router) (.accepted (opened .server)) fs = some t → t.AtRest C →
      t.conn.controlSend.buf
          = router.output C (requestsIn C (controlBytes (ServeLoop.netEvents fs))) ∧
        t.conn.quicConn.outgoingUni
          = router.outgoing (requestsIn C (controlBytes (ServeLoop.netEvents fs))) := by
    intro fs t ht hfs hrest
    have hdone := Serving.received_of_atRest hreceives hfs hrest ht.up.kept
    obtain ⟨hwritten, hopened⟩ := ht.output_eq hrest
    rw [hwritten, hopened, hdone]
    exact ⟨rfl, rfl⟩
  refine ⟨?_, hatRest hworking hrun, ?_⟩
  · obtain ⟨hwritten, hopened⟩ := hworking.output_prefix
    exact ⟨hwritten.trans (router.output_prefix C hreceived),
      hopened.trans (router.outgoing_prefix hreceived)⟩
  · intro hcredit
    obtain ⟨t, ⟨n, hn⟩, hrest⟩ := hworking.reaches_rest hwd hprog hcredit
    have hall : run (Serving.step C router) (.accepted (opened .server))
        (es ++ List.replicate n .advance) = some t := by
      rw [run_append, hrun, Option.bind_some, hn]
    have hend : Serving.Working C router t :=
      hworking.of_run hwd hprog hreceives (Serving.routed_of_run hreceives hrun)
        (harmless_replicate_advance n) hn
    have hdone := hatRest hend hall hrest
    rw [netEvents_append_advance] at hdone
    exact ⟨t, ⟨n, hn⟩, hrest, hdone⟩

/-- A request in two pieces, and an invalid message behind it, from a client that at first gives no
credit. -/
def pieces : List ServeLoop.Event :=
  [.net (.controlFlow .stalls), .net (.control ((frame pushMessage).take 9)),
    .net (.control ((frame pushMessage).drop 9 ++ [1, 0, 16, 0])), .advance, .net .controlFinish,
    .net (.controlFlow .takes)]

/-- The server gets to the answer of the request. -/
theorem server_computes_pieces :
    ∃ s t, run (Serving.step Capnp.wire pingRouter) (.accepted (opened .server)) pieces = some s ∧
      Steps (Serving.step Capnp.wire pingRouter) .advance s t ∧
      t.conn.controlSend.buf = pingRouter.output Capnp.wire
        (requestsIn Capnp.wire (controlBytes (ServeLoop.netEvents pieces))) := by
  have hquiet : ∀ e ∈ ServeLoop.netEvents pieces, e.Harmless := by
    simp [ServeLoop.netEvents, pieces, NetEvent.Harmless]
  obtain ⟨s, hrun, hcredit⟩ : ∃ s, run (Serving.step Capnp.wire pingRouter)
      (.accepted (opened .server)) pieces = some s ∧ s.conn.HasCredit := ⟨_, rfl, rfl, rfl⟩
  obtain ⟨-, -, hreaches⟩ := server_computes Capnp.wire_writesData
    (fun _ _ _ => sendsOnly_pingRouter) hquiet hrun
  obtain ⟨t, hsteps, -, hwritten, -⟩ := hreaches hcredit
  exact ⟨s, t, hrun, hsteps, hwritten⟩

end Bxp

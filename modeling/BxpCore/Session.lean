/-
**Requests and responses on a connection, end to end.**

A client sends requests and receives responses, a server runs its loop, and the network carries the
bytes of the control stream from one to the other, as many at a time as it likes.  All of this is
one machine, `Bxp.Session`; a server with many clients is a family of them side by side
(`Machine.interleave`) over one router.

What is on the way is bytes, and where a message ends only the readers find out.  So the invariant
`Bxp.Session.Inv` says that the bytes between a sender and its reader, read or not, are the frames of
some messages: then what the client has got, the responses on the way, those the handler has still
to send, and the answers to the requests not yet served are together the answers to all requests,
in order.  Every step also uses up some of a finite amount of work, so the session comes to an end,
and there everything has been received.

Main definitions:

* `Bxp.BxpRouter.answers` — the responses a request should get;
* `Bxp.Session`, `Bxp.Session.step` — a connection with both its ends;
* `Bxp.Session.Inv`, `Bxp.Session.work` — the invariant, and the work that is left.

Main results:

* `Bxp.Session.Inv.step` — every step keeps the invariant, and some work is done;
* `Bxp.Session.Inv.got_of_stuck` — at the end everything has been received;
* `Bxp.serving_trace` — **on each of many connections the client receives exactly the answers to its
  requests, in order**, whatever the other connections do.
-/

import BxpCore.Limits
import BxpCore.ServeLoop

set_option relaxedAutoImplicit false
set_option autoImplicit false

namespace Bxp

open LengthPrefix Machine BxpConnection

variable {C : Capnp.Serializer} {router : BxpRouter}

/-! ### The answers to a request -/

/-- The responses a request should get: those of the handler the router resolves, or the single one
that nothing was found. -/
def BxpRouter.answers (router : BxpRouter) (req : BxpRequest) : List BxpResponse :=
  match router.lookup req.action req.uri with
  | some handler => (handler req).responses
  | none => [{ reqId := req.reqId, status := .notFound }]

namespace HandlerProg

/-- The work in a handler on a connection that is up: its steps, the 28 bytes of every response on
the way to the client, and the call that receives it. -/
def work : HandlerProg → ℕ
  | done _ => 1
  | sendResponse _ _ next => 30 + work (next (.ok ()))
  | sendDataStream _ reader next => 1 + work (next reader.copyResult)
  | _ => 0

end HandlerProg

namespace ServerTask

/-- The task is in its loop, with a handler that only sends. -/
def Serves : ServerTask → Prop
  | receiving => True
  | handling prog => prog.SendsOnly
  | waiting | ended => False

/-- The responses the task has still to send for the request it is at. -/
def responses : ServerTask → List BxpResponse
  | handling prog => prog.responses
  | _ => []

/-- The work left for the request the task is at. -/
def work : ServerTask → ℕ
  | handling prog => prog.work
  | _ => 0

end ServerTask

/-! ### The machine -/

/-- A connection with both its ends: the requests the client has still to send, its side of the
connection, the task of the server, and what `receive_response` has returned so far.  Both ends give
credit for whatever they are sent, and the client takes the data streams as they come. -/
structure Session where
  todo : List BxpRequest
  client : BxpClientConnection
  server : ServeLoop
  got : List (Except BxpError BxpResponse)

namespace Session

/-- A connection just established, with the requests the client is going to send. -/
def start (todo : List BxpRequest) : Session where
  todo := todo
  client := opened .client
  server := .start
  got := []

/-- The client sends its next request or receives a response, the task of the server goes on, or the
network delivers some bytes. -/
inductive Event
  | send
  | deliverRequest (n : ℕ)
  | serve
  | deliverResponse (n : ℕ)
  | receive

/-- The machine of one connection. -/
def step (C : Capnp.Serializer) (router : BxpRouter) (s : Session) : Event → Option Session
  | .send =>
      match s.todo with
      | [] => none
      | req :: todo =>
          (BxpClientConnection.sendRequest C req.reqId req.action req.uri s.client).map fun p =>
            { s with todo := todo, client := p.2 }
  | .deliverRequest n =>
      (deliver n s.client.controlSend s.server.conn.controlRecv).map fun p =>
        { s with
          client := { s.client with controlSend := p.1 }
          server := { s.server with conn := { s.server.conn with controlRecv := p.2 } } }
  | .serve => (s.server.advance C router).map fun server => { s with server := server }
  | .deliverResponse n =>
      (deliver n s.server.conn.controlSend s.client.controlRecv).map fun p =>
        { s with
          client := { s.client with controlRecv := p.2 }
          server := { s.server with conn := { s.server.conn with controlSend := p.1 } } }
  | .receive =>
      (BxpClientConnection.receiveResponse C s.client).map fun p =>
        { s with client := p.2, got := s.got ++ [p.1] }

/-! ### The invariant -/

/-- The requests on the way to the server are `unserved`, the responses on the way to the client are
`pend`; with what has been received, with what the handler has still to send, and with the answers
to the requests that are not served yet, they make up `all`. -/
structure Inv (C : Capnp.Serializer) (router : BxpRouter) (all : List BxpResponse) (s : Session)
    (unserved : List BxpRequest) (pend : List BxpResponse) : Prop where
  client_open : s.client.controlSend.flow = .takes ∧ s.client.controlRecv.ended = none
  server_open : s.server.conn.controlSend.flow = .takes ∧ s.server.conn.controlRecv.ended = none
  up : s.server.conn.quicConn.isClosed = false ∧ s.server.conn.quicConn.uniFlow = .takes
  serves : s.server.task.Serves
  todo : ∀ req ∈ s.todo, WithinLimit C req.reqId req.action req.uri
  requests : Carries maxControlMsg (decodeRequest C)
    (s.server.conn.controlRecv.unread ++ s.client.controlSend.buf) (unserved.map .ok)
  responses : Carries maxControlMsg (decodeResponse C)
    (s.client.controlRecv.unread ++ s.server.conn.controlSend.buf) (pend.map .ok)
  all : s.got ++ (pend ++ s.server.task.responses
    ++ (unserved ++ s.todo).flatMap router.answers).map .ok = all.map .ok

/-- The work in a request that the server has to serve. -/
def servingWork (router : BxpRouter) (req : BxpRequest) : ℕ := 1 + (router.handleRequest req).work

/-- The bytes of a request on the control stream. -/
def requestBytes (C : Capnp.Serializer) (req : BxpRequest) : ℕ :=
  match encodeRequest C req.reqId req.action req.uri with
  | .ok body => 4 + body.length
  | .error _ => 0

/-- The work in a request that the client has to send. -/
def sendingWork (C : Capnp.Serializer) (router : BxpRouter) (req : BxpRequest) : ℕ :=
  1 + requestBytes C req + servingWork router req

/-- The work that is left in a session. -/
def work (C : Capnp.Serializer) (router : BxpRouter) (s : Session) (unserved : List BxpRequest)
    (pend : List BxpResponse) : ℕ :=
  (s.todo.map (sendingWork C router)).sum + s.client.controlSend.buf.length
    + (unserved.map (servingWork router)).sum + s.server.task.work
    + s.server.conn.controlSend.buf.length + pend.length

theorem inv_start {todo : List BxpRequest}
    (htodo : ∀ req ∈ todo, WithinLimit C req.reqId req.action req.uri) :
    Inv C router (todo.flatMap router.answers) (start todo) [] [] where
  client_open := ⟨rfl, rfl⟩
  server_open := ⟨rfl, rfl⟩
  up := ⟨rfl, rfl⟩
  serves := trivial
  todo := htodo
  requests := carries_nil
  responses := carries_nil
  all := rfl

end Session

namespace Session

variable {all : List BxpResponse} {s t : Session} {unserved : List BxpRequest}
  {pend : List BxpResponse}

/-! ### One step -/

theorem requestBytes_of_ok {req : BxpRequest} {body : List UInt8}
    (h : encodeRequest C req.reqId req.action req.uri = .ok body) :
    requestBytes C req = 4 + body.length := by
  rw [requestBytes, h]

/-- **Sending a request** puts its frame on the way. -/
theorem Inv.send (hrw : C.ReadAfterWrite maxControlMsg) (h : Inv C router all s unserved pend)
    (hstep : s.step C router .send = some t) :
    ∃ unserved', Inv C router all t unserved' pend ∧
      work C router t unserved' pend < work C router s unserved pend := by
  obtain ⟨todo, client, server, got⟩ := s
  cases todo with
  | nil => cases hstep
  | cons req todo =>
      obtain ⟨body, hbody, hlen⟩ := h.todo req List.mem_cons_self
      have hsend := BxpClientConnection.sendRequest_of_open h.client_open.1 hbody
      simp only [step, hsend, Option.map_some, Option.some.injEq] at hstep
      subst hstep
      refine ⟨unserved ++ [req], ⟨h.client_open, h.server_open, h.up, h.serves, ?_, ?_,
        h.responses, ?_⟩, ?_⟩
      · intro r hr
        exact h.todo r (List.mem_cons_of_mem req hr)
      · have hcarries := h.requests.concat hlen
        rw [decodeRequest_encodeRequest hrw hbody hlen] at hcarries
        simpa [List.append_assoc] using hcarries
      · simpa [List.append_assoc] using h.all
      · have hbytes := requestBytes_of_ok hbody
        simp only [work, List.map_cons, List.sum_cons, sendingWork, List.length_append,
          length_frame, List.map_append, List.sum_append, List.map_nil, List.sum_nil, hbytes]
        omega

/-- The reader of the client waits for more bytes, or returns the first response on the way. -/
theorem Inv.receiveResponse (h : Inv C router all s unserved pend) :
    (BxpClientConnection.receiveResponse C s.client = none ∧
        (s.server.conn.controlSend.buf = [] → pend = [])) ∨
      ∃ resp pend' c, pend = resp :: pend' ∧
        BxpClientConnection.receiveResponse C s.client = some (.ok resp, c) ∧
        Carries maxControlMsg (decodeResponse C)
          (c.controlRecv.unread ++ s.server.conn.controlSend.buf) (pend'.map .ok) :=
  recv_of_carries_ok (lawful_responseReader C maxControlMsg_lt) (not_ended h.client_open.2)
    h.responses

/-- **Receiving a response** takes the first of those on the way. -/
theorem Inv.receive (h : Inv C router all s unserved pend)
    (hstep : s.step C router .receive = some t) :
    ∃ pend', Inv C router all t unserved pend' ∧
      work C router t unserved pend' < work C router s unserved pend := by
  obtain ⟨⟨r, c⟩, hrecv, rfl⟩ := Option.map_eq_some_iff.1 hstep
  rcases h.receiveResponse with ⟨hnone, -⟩ | ⟨resp, pend', c', rfl, hsome, hrest⟩
  · cases hrecv.symm.trans hnone
  · obtain ⟨rfl, rfl⟩ := Async.outcome_unique hrecv hsome
    obtain ⟨-, hsend, hended⟩ := (BxpClientConnection.keeps_receiveResponse C).unread hrecv
    refine ⟨pend', ⟨?_, h.server_open, h.up, h.serves, h.todo, ?_, hrest, ?_⟩, ?_⟩
    · exact ⟨hsend ▸ h.client_open.1, hended ▸ h.client_open.2⟩
    · simpa only [hsend] using h.requests
    · simpa [List.append_assoc] using h.all
    · simp only [work, hsend, List.length_cons]
      omega

/-- **Delivering bytes of requests.** -/
theorem Inv.deliverRequest (h : Inv C router all s unserved pend) {n : ℕ}
    (hstep : s.step C router (.deliverRequest n) = some t) :
    Inv C router all t unserved pend ∧
      work C router t unserved pend < work C router s unserved pend := by
  obtain ⟨⟨send, recv⟩, hdeliver, rfl⟩ := Option.map_eq_some_iff.1 hstep
  obtain ⟨hbytes, hlen, hflow, hended⟩ := deliver_eq_some hdeliver
  refine ⟨⟨⟨hflow ▸ h.client_open.1, h.client_open.2⟩, ⟨h.server_open.1, hended ▸ h.server_open.2⟩,
    h.up, h.serves, h.todo, ?_, h.responses, h.all⟩, ?_⟩
  · rw [hbytes]
    exact h.requests
  · simp only [work]
    omega

/-- **Delivering bytes of responses.** -/
theorem Inv.deliverResponse (h : Inv C router all s unserved pend) {n : ℕ}
    (hstep : s.step C router (.deliverResponse n) = some t) :
    Inv C router all t unserved pend ∧
      work C router t unserved pend < work C router s unserved pend := by
  obtain ⟨⟨send, recv⟩, hdeliver, rfl⟩ := Option.map_eq_some_iff.1 hstep
  obtain ⟨hbytes, hlen, hflow, hended⟩ := deliver_eq_some hdeliver
  refine ⟨⟨⟨h.client_open.1, hended ▸ h.client_open.2⟩, ⟨hflow ▸ h.server_open.1, h.server_open.2⟩,
    h.up, h.serves, h.todo, h.requests, ?_, h.all⟩, ?_⟩
  · rw [hbytes]
    exact h.responses
  · simp only [work]
    omega

/-- The reader of the server waits for more bytes, or returns the first request on the way. -/
theorem Inv.receiveRequest (h : Inv C router all s unserved pend) :
    (BxpServerConnection.receiveRequest C s.server.conn = none ∧
        (s.client.controlSend.buf = [] → unserved = [])) ∨
      ∃ req unserved' c, unserved = req :: unserved' ∧
        BxpServerConnection.receiveRequest C s.server.conn = some (.ok req, c) ∧
        Carries maxControlMsg (decodeRequest C)
          (c.controlRecv.unread ++ s.client.controlSend.buf) (unserved'.map .ok) :=
  recv_of_carries_ok (lawful_requestReader C) (not_ended h.server_open.2) h.requests

/-- **The server receives a request**, and starts to handle it. -/
theorem Inv.serve_receiving (hsends : ∀ req, (router.handleRequest req).SendsOnly)
    (h : Inv C router all s unserved pend) (htask : s.server.task = .receiving)
    (hstep : s.step C router .serve = some t) :
    ∃ unserved', Inv C router all t unserved' pend ∧
      work C router t unserved' pend < work C router s unserved pend := by
  obtain ⟨loop, hadvance, rfl⟩ := Option.map_eq_some_iff.1 hstep
  rw [ServeLoop.advance, htask] at hadvance
  rcases h.receiveRequest with ⟨hnone, -⟩ | ⟨req, unserved', c, rfl, hsome, hrest⟩
  · rw [hnone] at hadvance
    cases hadvance
  · rw [hsome, Option.map_some, Option.some.injEq] at hadvance
    subst hadvance
    obtain ⟨hquic, hsend, hended⟩ := (BxpServerConnection.keeps_receiveRequest C).unread hsome
    refine ⟨unserved', ⟨h.client_open, ?_, ?_, hsends req, h.todo, hrest, ?_, ?_⟩, ?_⟩
    · exact ⟨hsend ▸ h.server_open.1, hended ▸ h.server_open.2⟩
    · exact hquic ▸ h.up
    · simpa only [hsend] using h.responses
    · have hall := h.all
      rw [htask] at hall
      have hanswers : (router.handleRequest req).responses = router.answers req :=
        BxpRouter.responses_handleRequest router req
      simpa [ServerTask.responses, hanswers, List.append_assoc] using hall
    · simp only [work, htask, ServerTask.work, hsend, List.map_cons, List.sum_cons, servingWork]
      omega

/-- **The handler goes on**: it sends a response or a data stream, or it returns. -/
theorem Inv.serve_handling (hrw : C.ReadAfterWrite maxControlMsg) (hwd : C.WritesData)
    (h : Inv C router all s unserved pend) {prog : HandlerProg}
    (htask : s.server.task = .handling prog) (hstep : s.step C router .serve = some t) :
    ∃ pend', Inv C router all t unserved pend' ∧
      work C router t unserved pend' < work C router s unserved pend := by
  obtain ⟨loop, hadvance, rfl⟩ := Option.map_eq_some_iff.1 hstep
  have hserves := h.serves
  have hall := h.all
  rw [htask] at hserves hall
  rw [ServeLoop.advance, htask] at hadvance
  cases prog with
  | done r =>
      rw [Option.some.injEq] at hadvance
      subst hadvance
      refine ⟨pend, ⟨h.client_open, h.server_open, h.up, trivial, h.todo, h.requests, h.responses,
        hall⟩, ?_⟩
      simp only [work, htask, ServerTask.work, HandlerProg.work]
      omega
  | sendResponse reqId status next =>
      obtain ⟨body, hbody, hlen⟩ := encodeResponse_ok hwd reqId status
      have hlimit : body.length ≤ maxControlMsg := by
        rw [hlen]
        decide
      have hsend := BxpServerConnection.sendResponse_of_open h.server_open.1 hbody
      simp only [HandlerProg.step, hsend, Option.map_some, Option.some.injEq] at hadvance
      subst hadvance
      refine ⟨pend ++ [{ reqId := reqId, status := status }], ⟨h.client_open, h.server_open, h.up,
        hserves _, h.todo, h.requests, ?_, ?_⟩, ?_⟩
      · have hcarries := h.responses.concat hlimit
        rw [decodeResponse_encodeResponse hrw hbody hlimit] at hcarries
        simpa [List.append_assoc] using hcarries
      · simpa [ServerTask.responses, HandlerProg.responses, List.append_assoc] using hall
      · simp only [work, htask, ServerTask.work, HandlerProg.work, List.length_append,
          length_frame, hlen, List.length_cons, List.length_nil]
        omega
  | sendDataStream reqId reader next =>
      have hsend := Connection.sendDataStream_of_up h.up.1 h.up.2 reqId reader
      simp only [HandlerProg.step, BxpServerConnection.sendDataStream, onQuic, hsend,
        Option.map_some, Option.some.injEq] at hadvance
      subst hadvance
      refine ⟨pend, ⟨h.client_open, h.server_open, h.up, hserves _, h.todo, h.requests,
        h.responses, hall⟩, ?_⟩
      simp only [work, htask, ServerTask.work, HandlerProg.work]
      omega
  | panic => exact hserves.elim
  | receiveRequest next => exact hserves.elim
  | readDataStream next => exact hserves.elim
  | waitForClose next => exact hserves.elim

/-- **Every step keeps the invariant, and some work is done.** -/
theorem Inv.step (hrw : C.ReadAfterWrite maxControlMsg) (hwd : C.WritesData)
    (hsends : ∀ req, (router.handleRequest req).SendsOnly) (h : Inv C router all s unserved pend)
    {e : Event} (hstep : s.step C router e = some t) :
    ∃ unserved' pend', Inv C router all t unserved' pend' ∧
      work C router t unserved' pend' < work C router s unserved pend := by
  cases e with
  | send =>
      obtain ⟨unserved', hinv, hwork⟩ := h.send hrw hstep
      exact ⟨unserved', pend, hinv, hwork⟩
  | deliverRequest n => exact ⟨unserved, pend, h.deliverRequest hstep⟩
  | serve =>
      cases htask : s.server.task with
      | receiving =>
          obtain ⟨unserved', hinv, hwork⟩ := h.serve_receiving hsends htask hstep
          exact ⟨unserved', pend, hinv, hwork⟩
      | handling prog =>
          obtain ⟨pend', hinv, hwork⟩ := h.serve_handling hrw hwd htask hstep
          exact ⟨unserved, pend', hinv, hwork⟩
      | waiting =>
          have hserves := h.serves
          rw [htask] at hserves
          exact hserves.elim
      | ended =>
          have hserves := h.serves
          rw [htask] at hserves
          exact hserves.elim
  | deliverResponse n => exact ⟨unserved, pend, h.deliverResponse hstep⟩
  | receive =>
      obtain ⟨pend', hinv, hwork⟩ := h.receive hstep
      exact ⟨unserved, pend', hinv, hwork⟩

/-! ### The end of a session -/

/-- A handler that only sends can always go on. -/
theorem Inv.serve_of_handling (hwd : C.WritesData) (h : Inv C router all s unserved pend)
    {prog : HandlerProg} (htask : s.server.task = .handling prog) :
    s.step C router .serve ≠ none := by
  have hserves := h.serves
  rw [htask] at hserves
  rw [Session.step, ServeLoop.advance, htask]
  cases prog with
  | done r => simp
  | sendResponse reqId status next =>
      obtain ⟨body, hbody, -⟩ := encodeResponse_ok hwd reqId status
      have hsend := BxpServerConnection.sendResponse_of_open h.server_open.1 hbody
      simp [HandlerProg.step, hsend]
  | sendDataStream reqId reader next =>
      have hsend := Connection.sendDataStream_of_up h.up.1 h.up.2 reqId reader
      simp [HandlerProg.step, BxpServerConnection.sendDataStream, onQuic, hsend]
  | panic => exact hserves.elim
  | receiveRequest next => exact hserves.elim
  | readDataStream next => exact hserves.elim
  | waitForClose next => exact hserves.elim

/-- **At the end everything has been received.** -/
theorem Inv.got_of_stuck (hwd : C.WritesData) (h : Inv C router all s unserved pend)
    (hstuck : Stuck (Session.step C router) s) : s.got = all.map .ok := by
  have htodo : s.todo = [] := by
    cases htodo : s.todo with
    | nil => rfl
    | cons req todo =>
        obtain ⟨body, hbody, -⟩ := h.todo req (htodo ▸ List.mem_cons_self)
        have hsend := BxpClientConnection.sendRequest_of_open h.client_open.1 hbody
        have hnone := hstuck .send
        simp [Session.step, htodo, hsend] at hnone
  have hreqbuf : s.client.controlSend.buf = [] := by
    by_contra hne
    obtain ⟨p, hp⟩ := deliver_all hne s.server.conn.controlRecv
    have hnone := hstuck (.deliverRequest s.client.controlSend.buf.length)
    simp [Session.step, hp] at hnone
  have hrespbuf : s.server.conn.controlSend.buf = [] := by
    by_contra hne
    obtain ⟨p, hp⟩ := deliver_all hne s.client.controlRecv
    have hnone := hstuck (.deliverResponse s.server.conn.controlSend.buf.length)
    simp [Session.step, hp] at hnone
  -- the task is in `receive_request`, and nothing is on the way to it
  have htask : s.server.task = .receiving := by
    have hserves := h.serves
    cases htask : s.server.task with
    | receiving => rfl
    | handling prog => exact absurd (hstuck .serve) (h.serve_of_handling hwd htask)
    | waiting =>
        rw [htask] at hserves
        exact hserves.elim
    | ended =>
        rw [htask] at hserves
        exact hserves.elim
  have hunserved : unserved = [] := by
    rcases h.receiveRequest with ⟨-, hnil⟩ | ⟨req, unserved', c, -, hsome, -⟩
    · exact hnil hreqbuf
    · have hnone := hstuck .serve
      simp [Session.step, ServeLoop.advance, htask, hsome] at hnone
  have hpend : pend = [] := by
    rcases h.receiveResponse with ⟨-, hnil⟩ | ⟨resp, pend', c, -, hsome, -⟩
    · exact hnil hrespbuf
    · have hnone := hstuck .receive
      simp [Session.step, hsome] at hnone
  have hall := h.all
  rw [htodo, htask, hunserved, hpend] at hall
  simpa [ServerTask.responses] using hall

/-- What has been received is a prefix of what should be. -/
theorem Inv.got_prefix (h : Inv C router all s unserved pend) : s.got <+: all.map .ok :=
  ⟨_, h.all⟩

end Session

/-! ### Many sessions -/

/-- The rank of a session: it satisfies the invariant, with so much work left. -/
def Session.Rank (C : Capnp.Serializer) (router : BxpRouter) (all : List BxpResponse) (s : Session)
    (n : ℕ) : Prop :=
  ∃ unserved pend, Inv C router all s unserved pend ∧ work C router s unserved pend = n

/-- **On each of many connections the client receives exactly the answers to its requests, in
order.**  The connections `ι` share the router, and their events come in any order.  At any time the
client of the connection `i` has received a prefix of the answers; when nothing more can happen on
the connection it has received all of them; this is after a bounded number of steps of the
connection, and can be reached from wherever the run is; and the state of the connection is the one
its own events lead to, whatever happens on the others. -/
theorem serving_trace {ι : Type} [DecidableEq ι] {C : Capnp.Serializer} {router : BxpRouter}
    (hrw : C.ReadAfterWrite maxControlMsg) (hwd : C.WritesData)
    (hsends : ∀ action uri handler, router.lookup action uri = some handler →
      ∀ req, (handler req).SendsOnly)
    {requests : ι → List BxpRequest}
    (hlimit : ∀ i, ∀ req ∈ requests i, WithinLimit C req.reqId req.action req.uri)
    {es : List (ι × Session.Event)} {s : ι → Session}
    (hrun : run (interleave fun _ => Session.step C router) (fun i => Session.start (requests i)) es
      = some s) (i : ι) :
    (s i).got <+: ((requests i).flatMap router.answers).map .ok ∧
      (Stuck (Session.step C router) (s i) →
        (s i).got = ((requests i).flatMap router.answers).map .ok) ∧
      (project i es).length ≤ ((requests i).map (Session.sendingWork C router)).sum ∧
      (∃ t, Reachable (Session.step C router) (s i) t ∧ Stuck (Session.step C router) t) ∧
      run (Session.step C router) (Session.start (requests i)) (project i es) = some (s i) := by
  have hprog : ∀ req, (router.handleRequest req).SendsOnly :=
    BxpRouter.sendsOnly_handleRequest hsends
  have hown := run_interleave_iff.1 hrun i
  have hrank : ∀ s n e t, Session.Rank C router ((requests i).flatMap router.answers) s n →
      Session.step C router s e = some t →
      ∃ m, m < n ∧ Session.Rank C router ((requests i).flatMap router.answers) t m := by
    rintro s n e t ⟨unserved, pend, hinv, rfl⟩ hstep
    obtain ⟨unserved', pend', hinv', hwork⟩ := hinv.step hrw hwd hprog hstep
    exact ⟨_, hwork, unserved', pend', hinv', rfl⟩
  have hstart : Session.Rank C router ((requests i).flatMap router.answers)
      (Session.start (requests i)) ((requests i).map (Session.sendingWork C router)).sum :=
    ⟨[], [], Session.inv_start (hlimit i), rfl⟩
  obtain ⟨m, hm, hend⟩ := run_rank hrank hstart hown
  obtain ⟨t, -, hreach, hstuck, -⟩ := exists_run_stuck hrank hend
  obtain ⟨unserved, pend, hinv, -⟩ := hend
  exact ⟨hinv.got_prefix, hinv.got_of_stuck hwd, by omega, ⟨t, hreach, hstuck⟩, hown⟩

/-- A handler that answers every request with a success. -/
def handlePing : BxpHandler := fun req => .sendResponse req.reqId .success .done

/-- A router with one route. -/
def pingRouter : BxpRouter := BxpRouter.new.route .ping "bxp://ping" handlePing

theorem sendsOnly_pingRouter {action : BxpAction} {uri : String} {handler : BxpHandler}
    (h : pingRouter.lookup action uri = some handler) (req : BxpRequest) :
    (handler req).SendsOnly := by
  rw [pingRouter, BxpRouter.lookup_route, BxpRouter.lookup_new] at h
  split at h
  · rw [Option.some.injEq] at h
    rw [← h]
    intro r
    trivial
  · cases h

/-- A request with a route, and one without. -/
def pingRequests : List BxpRequest :=
  [{ reqId := 100, action := .ping, uri := "bxp://ping" },
    { reqId := 101, action := .fetch, uri := "bxp://does-not-exist" }]

theorem answers_pingRequests :
    pingRequests.flatMap pingRouter.answers = [⟨100, .success⟩, ⟨101, .notFound⟩] := by
  have hping : pingRouter.lookup .ping "bxp://ping" = some handlePing := by
    rw [pingRouter, BxpRouter.lookup_route, if_pos ⟨rfl, rfl⟩]
  have hnone : pingRouter.lookup .fetch "bxp://does-not-exist" = none := by
    rw [pingRouter, BxpRouter.lookup_route, if_neg (by decide), BxpRouter.lookup_new]
  simp only [pingRequests, List.flatMap_cons, List.flatMap_nil, BxpRouter.answers,
    hping, hnone]
  rfl

/-- The same events on both connections, in turn. -/
def inTurn {ε : Type} (es : List ε) : List (Bool × ε) := es.flatMap fun e => [(true, e), (false, e)]

theorem project_inTurn {ε : Type} (i : Bool) (es : List ε) : project i (inTurn es) = es := by
  induction es with
  | nil => rfl
  | cons e es ih =>
      show project i ((true, e) :: (false, e) :: inTurn es) = e :: es
      cases i with
      | true => rw [project_cons_self, project_cons_of_ne Bool.false_ne_true, ih]
      | false => rw [project_cons_of_ne Bool.true_eq_false_eq_False.elim, project_cons_self, ih]

/-- Two clients with these requests, their connections run in turn until nothing more can happen:
each has received a success for its first request, and that nothing was found for its second. -/
theorem serving_trace_two_clients :
    ∃ (es : List (Bool × Session.Event)) (s : Bool → Session),
      run (interleave fun _ => Session.step Capnp.wire pingRouter)
          (fun _ => Session.start pingRequests) es = some s ∧
        ∀ i, Stuck (Session.step Capnp.wire pingRouter) (s i) ∧
          (s i).got = [.ok ⟨100, .success⟩, .ok ⟨101, .notFound⟩] := by
  have hlimit : ∀ i : Bool, ∀ req ∈ (fun _ => pingRequests) i,
      WithinLimit Capnp.wire req.reqId req.action req.uri := by
    intro i req hreq
    rcases List.mem_cons.1 hreq with rfl | hreq
    · exact ⟨_, rfl, by decide⟩
    · rw [List.mem_singleton.1 hreq]
      exact ⟨_, rfl, by decide⟩
  -- the first connection alone can be run to its end, and so can both in turn
  obtain ⟨-, -, -, ⟨t, ⟨es, hes⟩, hstuck⟩, -⟩ := serving_trace wire_readAfterWrite_maxControlMsg
    Capnp.wire_writesData (fun _ _ _ => sendsOnly_pingRouter) hlimit (run_nil _) true
  have hrun : run (interleave fun _ => Session.step Capnp.wire pingRouter)
      (fun _ => Session.start pingRequests) (inTurn es) = some fun _ => t := by
    refine run_interleave_iff.2 fun i => ?_
    rw [project_inTurn]
    exact hes
  refine ⟨_, _, hrun, fun i => ⟨hstuck, ?_⟩⟩
  obtain ⟨-, hall, -⟩ := serving_trace wire_readAfterWrite_maxControlMsg Capnp.wire_writesData
    (fun _ _ _ => sendsOnly_pingRouter) hlimit hrun i
  rw [hall hstuck, answers_pingRequests]
  rfl

end Bxp

/-
**A connection is a pair of queues.**

`Bxp.Session` has bytes on the way, messages that are cut into pieces, a server in the middle of a
handler.  All this comes to no more than `RemoteCall`: a queue of requests, a queue of responses, and
a server that answers the first request at once.  The responses a handler has not sent yet are in the
queue already.

So what is true of queues is true of connections.  The clients of this repository send a request and
receive one response before they send the next; that they get through is a matter of the handlers, and
of nothing else.

Main definitions:

* `Bxp.Session.Refines` — a connection and the queues it comes to;
* `Bxp.Session.lockstep` — a client that awaits a response to each request.

Main results:

* `Bxp.Session.Refines.step` — every step of a connection is one of the queues, or none;
* `Bxp.session_refines` — **a connection refines the queues**, and does not stop before they do;
* `Bxp.lockstep_completes_iff` — **a client that awaits each response gets through exactly when the
  handlers answer often enough**.
-/

import BxpCore.ControlStream
import BxpCore.RemoteCall
import BxpCore.Session
import Mathlib.Data.List.Forall2

set_option relaxedAutoImplicit false
set_option autoImplicit false

namespace Bxp

open LengthPrefix Machine BxpConnection

variable {C : Capnp.Serializer} {router : BxpRouter}

/-! ### What is on the way -/

/-- The requests on the way are those the bytes are the frames of. -/
theorem requestsIn_of_carries {bytes : List UInt8} {reqs : List BxpRequest}
    (h : Carries maxControlMsg (decodeRequest C) bytes (reqs.map .ok)) :
    requestsIn C bytes = reqs := by
  obtain ⟨bodies, rfl, hle, hmap⟩ := h
  have hdecode : List.Forall₂ (fun body req => decodeRequest C body = .ok req) bodies reqs := by
    refine List.forall₂_map_right_iff.1 (List.forall₂_map_left_iff.1 ?_)
    rw [hmap]
    exact List.forall₂_refl _
  have hoks : oks ((scan maxControlMsg (frames bodies ++ [])).map (itemResult (decodeRequest C)))
      = reqs :=
    oks_scan_frames_eq (itemResult_oversized _) maxControlMsg_lt
      ((List.forall₂_and_left _ _).2 ⟨hle, hdecode⟩) (truncated_nil _)
  rwa [List.append_nil] at hoks

namespace Session

variable {all : List BxpResponse} {s t : Session} {unserved unserved' : List BxpRequest}
  {pend pend' : List BxpResponse}

/-- The bytes between the client and the server determine what is unserved. -/
theorem Inv.unserved_eq (h : Inv C router all s unserved pend) :
    unserved = requestsIn C (s.server.conn.controlRecv.unread ++ s.client.controlSend.buf) :=
  (requestsIn_of_carries h.requests).symm

/-- **A request that is sent** is behind the others. -/
theorem Inv.unserved_send (hrw : C.ReadAfterWrite maxControlMsg)
    (h : Inv C router all s unserved pend) (h' : Inv C router all t unserved' pend')
    (hstep : s.step C router .send = some t) :
    ∃ req, s.todo = req :: t.todo ∧ unserved' = unserved ++ [req] ∧ t.got = s.got ∧
      t.server = s.server := by
  obtain ⟨todo, client, server, got⟩ := s
  cases todo with
  | nil => cases hstep
  | cons req todo =>
      obtain ⟨body, hbody, hlen⟩ := h.todo req List.mem_cons_self
      have hsend := BxpClientConnection.sendRequest_of_open h.client_open.1 hbody
      simp only [Session.step, hsend, Option.map_some, Option.some.injEq] at hstep
      subst hstep
      refine ⟨req, rfl, ?_, rfl, rfl⟩
      have hcarries := h.requests.concat hlen
      rw [decodeRequest_encodeRequest hrw hbody hlen] at hcarries
      rw [h'.unserved_eq]
      refine requestsIn_of_carries ?_
      simpa [List.append_assoc] using hcarries

/-- **A request that is received** was the first, and is handled next. -/
theorem Inv.unserved_receiving (h : Inv C router all s unserved pend)
    (h' : Inv C router all t unserved' pend') (htask : s.server.task = .receiving)
    (hstep : s.step C router .serve = some t) :
    ∃ req c, unserved = req :: unserved' ∧
      t = { s with server := { conn := c, task := .handling (router.handleRequest req) } } ∧
      c.quicConn = s.server.conn.quicConn := by
  obtain ⟨loop, hadvance, rfl⟩ := Option.map_eq_some_iff.1 hstep
  rw [ServeLoop.advance, htask] at hadvance
  rcases h.receiveRequest with ⟨hnone, -⟩ | ⟨req, rest, c, rfl, hsome, hrest⟩
  · rw [hnone] at hadvance
    cases hadvance
  · rw [hsome, Option.map_some, Option.some.injEq] at hadvance
    subst hadvance
    obtain ⟨hquic, -, -⟩ := (BxpServerConnection.keeps_receiveRequest C).unread hsome
    refine ⟨req, c, ?_, rfl, hquic⟩
    rw [h'.unserved_eq]
    exact congrArg _ (requestsIn_of_carries hrest).symm

/-- The server is in its loop. -/
theorem Inv.task_cases (h : Inv C router all s unserved pend) :
    s.server.task = .receiving ∨ ∃ prog, s.server.task = .handling prog := by
  have hserves := h.serves
  cases htask : s.server.task with
  | receiving => exact Or.inl rfl
  | handling prog => exact Or.inr ⟨prog, rfl⟩
  | waiting =>
      rw [htask] at hserves
      exact hserves.elim
  | ended =>
      rw [htask] at hserves
      exact hserves.elim

/-- The responses on the way and those to be sent by the handler were so before, behind those that
have been received since. -/
theorem Inv.outbox_eq (h : Inv C router all s unserved pend)
    (h' : Inv C router all t unserved pend') (taken : List BxpResponse)
    (hgot : t.got = s.got ++ taken.map .ok) (htodo : t.todo = s.todo) :
    pend ++ s.server.task.responses = taken ++ (pend' ++ t.server.task.responses) := by
  have hall := h.all.trans h'.all.symm
  rw [hgot, htodo, List.append_assoc s.got, List.append_cancel_left_eq, ← List.map_append,
    ← List.append_assoc taken] at hall
  exact List.append_cancel_right (List.map_injective_iff.2 (fun _ _ => Except.ok.inj) hall)

/-! ### A session that goes no further -/

/-- A client that cannot send has sent everything. -/
theorem Inv.todo_of_idle (h : Inv C router all s unserved pend)
    (hsend : s.step C router .send = none) : s.todo = [] := by
  cases htodo : s.todo with
  | nil => rfl
  | cons req todo =>
      obtain ⟨body, hbody, -⟩ := h.todo req (htodo ▸ List.mem_cons_self)
      have hopen := BxpClientConnection.sendRequest_of_open h.client_open.1 hbody
      simp [Session.step, htodo, hopen] at hsend

/-- **A server that cannot go on**, with nothing on the way to it, has served everything. -/
theorem Inv.of_idle (hwd : C.WritesData) (h : Inv C router all s unserved pend)
    (hdeliver : ∀ n, s.step C router (.deliverRequest n) = none)
    (hserve : s.step C router .serve = none) : s.server.task = .receiving ∧ unserved = [] := by
  have hbuf : s.client.controlSend.buf = [] := by
    by_contra hne
    obtain ⟨p, hp⟩ := deliver_all hne s.server.conn.controlRecv
    have hnone := hdeliver s.client.controlSend.buf.length
    simp [Session.step, hp] at hnone
  have hserves := h.serves
  cases htask : s.server.task with
  | receiving =>
      refine ⟨rfl, ?_⟩
      rcases h.receiveRequest with ⟨-, hnil⟩ | ⟨req, rest, c, -, hsome, -⟩
      · exact hnil hbuf
      · simp [Session.step, ServeLoop.advance, htask, hsome] at hserve
  | handling prog => exact absurd hserve (h.serve_of_handling hwd htask)
  | waiting =>
      rw [htask] at hserves
      exact hserves.elim
  | ended =>
      rw [htask] at hserves
      exact hserves.elim

/-- A client that cannot receive, with nothing on the way to it, has received everything. -/
theorem Inv.pend_of_idle (h : Inv C router all s unserved pend)
    (hdeliver : ∀ n, s.step C router (.deliverResponse n) = none)
    (hreceive : s.step C router .receive = none) : pend = [] := by
  have hbuf : s.server.conn.controlSend.buf = [] := by
    by_contra hne
    obtain ⟨p, hp⟩ := deliver_all hne s.client.controlRecv
    have hnone := hdeliver s.server.conn.controlSend.buf.length
    simp [Session.step, hp] at hnone
  rcases h.receiveResponse with ⟨-, hnil⟩ | ⟨resp, rest, c, -, hsome, -⟩
  · exact hnil hbuf
  · simp [Session.step, hsome] at hreceive

end Session

/-! ### Refinement -/

/-- The call of the queues that an event of a session may be. -/
def Session.Event.call : Session.Event → RemoteCall.Event
  | .send => .send
  | .receive => .receive
  | .deliverRequest _ | .serve | .deliverResponse _ => .serve

/-- What a session comes to: the responses that the handler has still to send are on the way
already. -/
structure Session.Refines (C : Capnp.Serializer) (router : BxpRouter) (all : List BxpResponse)
    (s : Session) (t : RemoteCall.State BxpRequest BxpResponse) : Prop where
  todo : t.todo = s.todo
  got : s.got = t.got.map .ok
  inv : ∃ pend, Session.Inv C router all s t.inbox pend ∧
    t.outbox = pend ++ s.server.task.responses

namespace Session

variable {all : List BxpResponse} {s s' : Session} {t : RemoteCall.State BxpRequest BxpResponse}

theorem refines_start {requests : List BxpRequest}
    (hlimit : ∀ req ∈ requests, WithinLimit C req.reqId req.action req.uri) :
    Refines C router (requests.flatMap router.answers) (start requests)
      (RemoteCall.start requests) where
  todo := rfl
  got := rfl
  inv := ⟨[], inv_start hlimit, rfl⟩

/-- A step that changes nothing of what a session comes to. -/
theorem Refines.stutter (h : Refines C router all s t) (htodo : s'.todo = s.todo)
    (hgot : s'.got = s.got) {pend' : List BxpResponse}
    (hinv : Inv C router all s' t.inbox pend') : Refines C router all s' t := by
  obtain ⟨pend, hinv₀, houtbox⟩ := h.inv
  refine ⟨h.todo.trans htodo.symm, hgot.trans h.got, pend', hinv, ?_⟩
  have hsame := hinv₀.outbox_eq hinv [] (by rw [hgot, List.map_nil, List.append_nil]) htodo
  exact houtbox.trans hsame

/-- **Every step of a session is one of the queues, or none.** -/
theorem Refines.step (hrw : C.ReadAfterWrite maxControlMsg) (hwd : C.WritesData)
    (hsends : ∀ req, (router.handleRequest req).SendsOnly) (h : Refines C router all s t) {e : Event}
    (hstep : s.step C router e = some s') :
    Refines C router all s' t ∨
      ∃ t', RemoteCall.step router.answers t e.call = some t' ∧ Refines C router all s' t' := by
  obtain ⟨pend, hinv, houtbox⟩ := h.inv
  cases e with
  | send =>
      obtain ⟨unserved', hinv', -⟩ := hinv.send hrw hstep
      obtain ⟨req, htodo, rfl, hgot, hserver⟩ := hinv.unserved_send hrw hinv' hstep
      refine Or.inr ⟨_, RemoteCall.step_send (h.todo.trans htodo), rfl, hgot.trans h.got, pend,
        hinv', ?_⟩
      rw [hserver]
      exact houtbox
  | deliverRequest n =>
      obtain ⟨hinv', -⟩ := hinv.deliverRequest hstep
      obtain ⟨p, -, rfl⟩ := Option.map_eq_some_iff.1 hstep
      exact Or.inl (h.stutter rfl rfl hinv')
  | deliverResponse n =>
      obtain ⟨hinv', -⟩ := hinv.deliverResponse hstep
      obtain ⟨p, -, rfl⟩ := Option.map_eq_some_iff.1 hstep
      exact Or.inl (h.stutter rfl rfl hinv')
  | receive =>
      obtain ⟨pend', hinv', -⟩ := hinv.receive hstep
      obtain ⟨⟨r, c⟩, hrecv, rfl⟩ := Option.map_eq_some_iff.1 hstep
      rcases hinv.receiveResponse with ⟨hnone, -⟩ | ⟨resp, rest, c', rfl, hsome, -⟩
      · cases hrecv.symm.trans hnone
      · obtain ⟨rfl, rfl⟩ := Async.outcome_unique hrecv hsome
        refine Or.inr ⟨_, RemoteCall.step_receive houtbox, h.todo, ?_, pend', hinv', ?_⟩
        · rw [h.got, List.map_append]
          rfl
        · have hrest := hinv.outbox_eq hinv' [resp] rfl rfl
          exact (List.cons.inj hrest).2
  | serve =>
      rcases hinv.task_cases with htask | ⟨prog, htask⟩
      · -- the request that is received is the one the queues serve, with all its responses
        obtain ⟨unserved', hinv', -⟩ := hinv.serve_receiving hsends htask hstep
        obtain ⟨req, c, hunserved, rfl, -⟩ := hinv.unserved_receiving hinv' htask hstep
        refine Or.inr ⟨_, RemoteCall.step_serve hunserved, h.todo, h.got, pend, hinv', ?_⟩
        rw [houtbox, htask]
        show pend ++ [] ++ router.answers req = pend ++ (router.handleRequest req).responses
        rw [List.append_nil, BxpRouter.responses_handleRequest]
        rfl
      · -- what its handler does then is no step of the queues
        obtain ⟨pend', hinv', -⟩ := hinv.serve_handling hrw hwd htask hstep
        obtain ⟨loop, -, rfl⟩ := Option.map_eq_some_iff.1 hstep
        exact Or.inl (h.stutter rfl rfl hinv')

/-- **A session stops where the queues do.** -/
theorem Refines.stuck (hwd : C.WritesData) (h : Refines C router all s t)
    (hstuck : Stuck (Session.step C router) s) : Stuck (RemoteCall.step router.answers) t := by
  obtain ⟨pend, hinv, houtbox⟩ := h.inv
  obtain ⟨htask, hinbox⟩ := hinv.of_idle hwd (fun n => hstuck _) (hstuck .serve)
  intro e
  refine RemoteCall.step_eq_none_iff.2 ?_
  cases e with
  | send => exact h.todo.trans (hinv.todo_of_idle (hstuck .send))
  | serve => exact hinbox
  | receive =>
      show t.outbox = []
      rw [houtbox, htask, hinv.pend_of_idle (fun n => hstuck _) (hstuck .receive)]
      rfl

end Session

/-- **A connection refines the queues.**  Let the handlers only send, the requests be within the
limit, and the client take the data streams as they come.  Whatever client, server and network do, the
queues can do, with the same requests still to be sent and the same responses received; and where
nothing more can happen on the connection, nothing more can happen with the queues. -/
theorem session_refines {C : Capnp.Serializer} {router : BxpRouter}
    (hrw : C.ReadAfterWrite maxControlMsg) (hwd : C.WritesData)
    (hsends : ∀ action uri handler, router.lookup action uri = some handler →
      ∀ req, (handler req).SendsOnly)
    {requests : List BxpRequest}
    (hlimit : ∀ req ∈ requests, WithinLimit C req.reqId req.action req.uri)
    {es : List Session.Event} {s : Session}
    (hrun : run (Session.step C router) (.start requests) es = some s) :
    ∃ t, Reachable (RemoteCall.step router.answers) (RemoteCall.start requests) t ∧
      t.todo = s.todo ∧ s.got = t.got.map .ok ∧
      (Stuck (Session.step C router) s → Stuck (RemoteCall.step router.answers) t) := by
  have hprog : ∀ req, (router.handleRequest req).SendsOnly :=
    BxpRouter.sendsOnly_handleRequest hsends
  have hsim : ∀ s t e s',
      Session.Refines C router (requests.flatMap router.answers) s t →
      Session.step C router s e = some s' →
      Session.Refines C router (requests.flatMap router.answers) s' t ∨
        ∃ e' t', RemoteCall.step router.answers t e' = some t' ∧
          Session.Refines C router (requests.flatMap router.answers) s' t' := by
    intro s t e s' href hstep
    exact (href.step hrw hwd hprog hstep).imp_right fun hcall => ⟨e.call, hcall⟩
  obtain ⟨t, hreach, href⟩ := Reachable.stutter hsim (Session.refines_start hlimit) ⟨es, hrun⟩
  exact ⟨t, hreach, href.todo, href.got, href.stuck hwd⟩

theorem withinLimit_pingRequests : ∀ req ∈ pingRequests,
    WithinLimit Capnp.wire req.reqId req.action req.uri := by
  intro req hreq
  rcases List.mem_cons.1 hreq with rfl | hreq
  · exact ⟨_, rfl, by decide⟩
  · rw [List.mem_singleton.1 hreq]
    exact ⟨_, rfl, by decide⟩

/-- A connection on which the first of two requests has been sent. -/
theorem session_refines_ping :
    ∃ s t, run (Session.step Capnp.wire pingRouter) (.start pingRequests) [.send] = some s ∧
      Reachable (RemoteCall.step pingRouter.answers) (RemoteCall.start pingRequests) t ∧
      t.todo = s.todo := by
  obtain ⟨s, hrun⟩ : ∃ s, run (Session.step Capnp.wire pingRouter) (.start pingRequests) [.send]
      = some s := ⟨_, rfl⟩
  obtain ⟨t, hreach, htodo, -⟩ := session_refines wire_readAfterWrite_maxControlMsg
    Capnp.wire_writesData (fun _ _ _ => sendsOnly_pingRouter) withinLimit_pingRequests hrun
  exact ⟨s, t, hrun, hreach, htodo⟩

/-! ### A client that awaits each response -/

/-- `send_request(…).await?` and `receive_response().await?`, one after the other, for `n`
requests. -/
def Session.outOfTurn (n : ℕ) (s : Session) : Session.Event → Bool
  | .send => s.got.length + s.todo.length ≠ n
  | .receive => n ≤ s.got.length + s.todo.length
  | .deliverRequest _ | .serve | .deliverResponse _ => false

/-- The machine of a connection with such a client. -/
def Session.lockstep (C : Capnp.Serializer) (router : BxpRouter) (n : ℕ) :
    Session → Session.Event → Option Session :=
  avoid (Session.outOfTurn n) (Session.step C router)

namespace Session

variable {all : List BxpResponse} {s s' : Session} {t : RemoteCall.State BxpRequest BxpResponse}
  {n : ℕ}

/-- It is the turn of a call of a session when it is that of the queues. -/
theorem Refines.outOfTurn_eq (h : Refines C router all s t) (e : Event) :
    RemoteCall.outOfTurn n t e.call = s.outOfTurn n e := by
  have hgot : s.got.length = t.got.length := by rw [h.got, List.length_map]
  cases e <;> simp [RemoteCall.outOfTurn, Session.outOfTurn, Event.call, h.todo, hgot]

/-- **In step, every step of a session is one of the queues in step**, or none. -/
theorem Refines.lockstep (hrw : C.ReadAfterWrite maxControlMsg) (hwd : C.WritesData)
    (hsends : ∀ req, (router.handleRequest req).SendsOnly) (h : Refines C router all s t) {e : Event}
    (hstep : s.lockstep C router n e = some s') :
    Refines C router all s' t ∨
      ∃ t', RemoteCall.lockstep router.answers n t e.call = some t' ∧
        Refines C router all s' t' := by
  obtain ⟨hturn, hstep⟩ := avoid_eq_some_iff.1 hstep
  rcases h.step hrw hwd hsends hstep with hsame | ⟨t', ht', href⟩
  · exact Or.inl hsame
  · exact Or.inr ⟨t', avoid_eq_some_iff.2 ⟨(h.outOfTurn_eq e).trans hturn, ht'⟩, href⟩

/-- In step too, a session stops where the queues do. -/
theorem Refines.stuck_lockstep (hwd : C.WritesData) (h : Refines C router all s t)
    (hstuck : Stuck (Session.lockstep C router n) s) :
    Stuck (RemoteCall.lockstep router.answers n) t := by
  obtain ⟨pend, hinv, houtbox⟩ := h.inv
  have hidle : ∀ e : Event, s.outOfTurn n e = false → s.step C router e = none := by
    intro e hturn
    have hnone := hstuck e
    rwa [Session.lockstep, avoid, hturn, if_neg (by simp)] at hnone
  obtain ⟨htask, hinbox⟩ := hinv.of_idle hwd (fun n => hidle _ rfl) (hidle .serve rfl)
  intro e
  rw [RemoteCall.lockstep, avoid]
  split
  · rfl
  · next hturn =>
      rw [Bool.not_eq_true] at hturn
      refine RemoteCall.step_eq_none_iff.2 ?_
      cases e with
      | send =>
          exact h.todo.trans
            (hinv.todo_of_idle (hidle .send ((h.outOfTurn_eq .send).symm.trans hturn)))
      | serve => exact hinbox
      | receive =>
          have hreceive := hidle .receive ((h.outOfTurn_eq .receive).symm.trans hturn)
          show t.outbox = []
          rw [houtbox, htask, hinv.pend_of_idle (fun n => hidle _ rfl) hreceive]
          rfl

end Session

/-- **A client that awaits each response gets through exactly when the handlers answer often
enough.**  It sends a request within the limit and receives one response, over and over, to handlers
that only send and whose data streams it takes as they come.  In every run what it receives is the
beginning of the answers; the run comes to an end; and at the end it has got through with its requests
if and only if the handlers of the first `k` of them send at least `k` responses, for every `k`.
Otherwise it waits for a response that never comes. -/
theorem lockstep_completes_iff {C : Capnp.Serializer} {router : BxpRouter}
    (hrw : C.ReadAfterWrite maxControlMsg) (hwd : C.WritesData)
    (hsends : ∀ action uri handler, router.lookup action uri = some handler →
      ∀ req, (handler req).SendsOnly)
    {requests : List BxpRequest}
    (hlimit : ∀ req ∈ requests, WithinLimit C req.reqId req.action req.uri)
    {es : List Session.Event} {s : Session}
    (hrun : run (Session.lockstep C router requests.length) (.start requests) es = some s) :
    s.got <+: (requests.flatMap router.answers).map .ok ∧
      (Stuck (Session.lockstep C router requests.length) s →
        (s.todo = [] ∧ s.got.length = requests.length ↔
          RemoteCall.Enough router.answers requests)) ∧
      es.length ≤ (requests.map (Session.sendingWork C router)).sum ∧
      ∃ t, Reachable (Session.lockstep C router requests.length) s t ∧
        Stuck (Session.lockstep C router requests.length) t := by
  have hprog : ∀ req, (router.handleRequest req).SendsOnly :=
    BxpRouter.sendsOnly_handleRequest hsends
  have hrank : ∀ s n e t, Session.Rank C router (requests.flatMap router.answers) s n →
      Session.lockstep C router requests.length s e = some t →
      ∃ m, m < n ∧ Session.Rank C router (requests.flatMap router.answers) t m := by
    rintro s n e t ⟨unserved, pend, hinv, rfl⟩ hstep
    obtain ⟨unserved', pend', hinv', hwork⟩ :=
      hinv.step hrw hwd hprog (avoid_eq_some_iff.1 hstep).2
    exact ⟨_, hwork, unserved', pend', hinv', rfl⟩
  have hsim : ∀ s t e s',
      Session.Refines C router (requests.flatMap router.answers) s t →
      Session.lockstep C router requests.length s e = some s' →
      Session.Refines C router (requests.flatMap router.answers) s' t ∨
        ∃ e' t', RemoteCall.lockstep router.answers requests.length t e' = some t' ∧
          Session.Refines C router (requests.flatMap router.answers) s' t' := by
    intro s t e s' href hstep
    exact (href.lockstep hrw hwd hprog hstep).imp_right fun hcall => ⟨e.call, hcall⟩
  have hstart : Session.Rank C router (requests.flatMap router.answers) (.start requests)
      (requests.map (Session.sendingWork C router)).sum :=
    ⟨[], [], Session.inv_start hlimit, rfl⟩
  obtain ⟨m, hm, hend⟩ := run_rank hrank hstart hrun
  obtain ⟨u, -, hreach, hstuck, -⟩ := exists_run_stuck hrank hend
  obtain ⟨t, hqueues, href⟩ := Reachable.stutter hsim (Session.refines_start hlimit) ⟨es, hrun⟩
  have hinstep : RemoteCall.InStep router.answers requests t :=
    hqueues.inv (fun _ _ _ h hstep => h.step hstep) (.start router.answers requests)
  obtain ⟨unserved, pend, hinv, -⟩ := hend
  refine ⟨hinv.got_prefix, ?_, by omega, u, hreach, hstuck⟩
  intro hstuck
  rw [← href.todo, href.got, List.length_map]
  exact hinstep.completes_iff (href.stuck_lockstep hwd hstuck)

/-- Every request gets an answer from the router of the pings. -/
theorem answers_pingRouter_ne_nil (req : BxpRequest) : pingRouter.answers req ≠ [] := by
  rw [BxpRouter.answers, pingRouter, BxpRouter.lookup_route, BxpRouter.lookup_new]
  split
  · next handler hlookup =>
      rw [Option.ite_none_right_eq_some, Option.some.injEq] at hlookup
      rw [← hlookup.2]
      exact List.cons_ne_nil _ _
  · exact List.cons_ne_nil _ _

/-- The client of the pings gets through. -/
theorem lockstep_completes_iff_ping :
    ∃ es s, run (Session.lockstep Capnp.wire pingRouter pingRequests.length)
        (.start pingRequests) es = some s ∧ s.todo = [] ∧ s.got.length = 2 := by
  obtain ⟨-, -, -, s, ⟨es, hrun⟩, hstuck⟩ := lockstep_completes_iff
    wire_readAfterWrite_maxControlMsg Capnp.wire_writesData (fun _ _ _ => sendsOnly_pingRouter)
    withinLimit_pingRequests (run_nil (Session.start pingRequests))
  obtain ⟨-, hiff, -⟩ := lockstep_completes_iff wire_readAfterWrite_maxControlMsg
    Capnp.wire_writesData (fun _ _ _ => sendsOnly_pingRouter) withinLimit_pingRequests hrun
  have henough : RemoteCall.Enough pingRouter.answers pingRequests :=
    RemoteCall.enough_of_ne_nil fun req _ => answers_pingRouter_ne_nil req
  obtain ⟨htodo, hgot⟩ := (hiff hstuck).2 henough
  exact ⟨es, s, hrun, htodo, hgot⟩

end Bxp

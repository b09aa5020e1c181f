/-
**A connection with both its planes.**

The tests of the crate fetch a file: a request, a response, and behind it a data stream, which the
client accepts and drains.  Here this is one machine, for any number of requests: a `Bxp.Session` for
the control stream, which starts a `Bxp.Transfer` for every data stream a handler opens.  The handler
awaits `send_data_stream`, so the task of the server stands still until the call has returned; the
network and the client do not.

`Bxp.Session` takes `send_data_stream` as one step, `Bxp.Lane` has it step by step.  That is put
together here: a call that has returned has returned what the one step did.

Main definitions:

* `Bxp.Transfer`, `Bxp.Transfer.step` — a data stream with both its ends;
* `Bxp.fetchStep` — the machine of a connection with both its planes;
* `Bxp.Session.toOpen` — the data streams that are still to be opened;
* `Bxp.Transfer.Of` — what is true of a transfer at any time.

Main results:

* `Bxp.Session.Inv.opens` — a step opens the first of the streams that are to be opened;
* `Bxp.FetchRank.step` — every step does some work;
* `Bxp.fetches_arrive` — **the client gets every answer and every payload**, and nothing else;
* `Bxp.fetch_gets_own` — **under the identifier of a request it gets what the handler of this request
  has sent**.
-/

import BxpCore.DataStream
import BxpCore.Refinement
import BxpCore.Service
import BxpCore.Spawn

set_option relaxedAutoImplicit false
set_option autoImplicit false

namespace Bxp

open LengthPrefix Machine BxpConnection LittleEndian

variable {C : Capnp.Serializer} {router : BxpRouter}

/-! ### The machine -/

/-- A data stream of the server: what is behind it, and the stream with both its ends. -/
structure Transfer where
  source : Source
  lane : Lane

namespace Transfer

/-- A call of `send_data_stream` that has just been made. -/
def opened (p : UInt32 × AsyncRead) : Transfer where
  source := .call p.1 p.2
  lane := .start (.call p.1 p.2)

def step (t : Transfer) (e : Lane.Event) : Option Transfer :=
  (t.lane.step t.source e).map fun lane => { t with lane := lane }

/-- The call of `send_data_stream` has returned. -/
def returned (t : Transfer) : Bool :=
  match t.lane.task with
  | .returned _ => true
  | _ => false

end Transfer

/-- The data streams that the handlers have opened. -/
def Session.outgoing (s : Session) : List (UInt32 × AsyncRead) :=
  s.server.conn.quicConn.outgoingUni

/-- The machine of a connection with both its planes.  The task of the server is blocked as long as
it is in a call of `send_data_stream`. -/
def fetchStep (C : Capnp.Serializer) (router : BxpRouter) :
    Session × List Transfer → Act Session.Event Lane.Event → Option (Session × List Transfer) :=
  avoid (fun s e => e matches .main .serve && s.2.any fun t => !t.returned)
    (spawn (starts (Session.step C router) Session.outgoing Transfer.opened) Transfer.step)

/-! ### The streams that are opened -/

namespace Session

/-- The data streams that are still to be opened: by the handler, and for the requests that are not
served yet. -/
def toOpen (router : BxpRouter) (s : Session) (unserved : List BxpRequest) :
    List (UInt32 × AsyncRead) :=
  s.server.task.streams ++ router.outgoing (unserved ++ s.todo)

variable {all : List BxpResponse} {s t : Session} {unserved unserved' : List BxpRequest}
  {pend pend' : List BxpResponse}

/-- **Sending a request** leaves the streams to be opened as they are. -/
theorem Inv.toOpen_send (hrw : C.ReadAfterWrite maxControlMsg)
    (h : Inv C router all s unserved pend) (h' : Inv C router all t unserved' pend')
    (hstep : s.step C router .send = some t) :
    s.toOpen router unserved = t.toOpen router unserved' ∧ t.outgoing = s.outgoing := by
  obtain ⟨req, htodo, rfl, -, hserver⟩ := h.unserved_send hrw h' hstep
  refine ⟨?_, by rw [outgoing, outgoing, hserver]⟩
  rw [toOpen, toOpen, hserver, htodo, List.append_assoc]
  rfl

/-- **Receiving a request** puts the streams of its handler in front. -/
theorem Inv.toOpen_receiving (h : Inv C router all s unserved pend)
    (h' : Inv C router all t unserved' pend') (htask : s.server.task = .receiving)
    (hstep : s.step C router .serve = some t) :
    s.toOpen router unserved = t.toOpen router unserved' ∧ t.outgoing = s.outgoing := by
  obtain ⟨req, c, rfl, rfl, hquic⟩ := h.unserved_receiving h' htask hstep
  refine ⟨?_, congrArg Connection.outgoingUni hquic⟩
  simp [toOpen, htask, ServerTask.streams, BxpRouter.outgoing, BxpRouter.streams_eq]

/-- **The handler goes on**: if it sends a data stream, this is the first of those to be opened. -/
theorem Inv.toOpen_handling (hwd : C.WritesData) (h : Inv C router all s unserved pend)
    {prog : HandlerProg} (htask : s.server.task = .handling prog)
    (hstep : s.step C router .serve = some t) :
    ∃ new, s.toOpen router unserved = new ++ t.toOpen router unserved ∧
      t.outgoing = s.outgoing ++ new := by
  obtain ⟨loop, hadvance, rfl⟩ := Option.map_eq_some_iff.1 hstep
  have hserves := h.serves
  rw [htask] at hserves
  rw [ServeLoop.advance, htask] at hadvance
  cases prog with
  | done r =>
      rw [Option.some.injEq] at hadvance
      subst hadvance
      refine ⟨[], ?_, (List.append_nil _).symm⟩
      simp [toOpen, htask, ServerTask.streams, HandlerProg.streams]
  | sendResponse reqId status next =>
      obtain ⟨body, hbody, -⟩ := encodeResponse_ok hwd reqId status
      have hsend := BxpServerConnection.sendResponse_of_open h.server_open.1 hbody
      simp only [HandlerProg.step, hsend, Option.map_some, Option.some.injEq] at hadvance
      subst hadvance
      refine ⟨[], ?_, (List.append_nil _).symm⟩
      simp [toOpen, htask, ServerTask.streams, HandlerProg.streams]
  | sendDataStream reqId reader next =>
      have hsend := Connection.sendDataStream_of_up h.up.1 h.up.2 reqId reader
      simp only [HandlerProg.step, BxpServerConnection.sendDataStream, onQuic, hsend,
        Option.map_some, Option.some.injEq] at hadvance
      subst hadvance
      refine ⟨[(reqId, reader)], ?_, rfl⟩
      simp [toOpen, htask, ServerTask.streams, HandlerProg.streams]
  | panic => exact hserves.elim
  | receiveRequest next => exact hserves.elim
  | readDataStream next => exact hserves.elim
  | waitForClose next => exact hserves.elim

/-- **A step opens the first of the streams that are to be opened**, or none. -/
theorem Inv.opens (hrw : C.ReadAfterWrite maxControlMsg) (hwd : C.WritesData)
    (hsends : ∀ req, (router.handleRequest req).SendsOnly) (h : Inv C router all s unserved pend)
    {e : Event} (hstep : s.step C router e = some t) :
    ∃ unserved' pend' new, Inv C router all t unserved' pend' ∧
      work C router t unserved' pend' < work C router s unserved pend ∧
      s.toOpen router unserved = new ++ t.toOpen router unserved' ∧
      t.outgoing = s.outgoing ++ new := by
  cases e with
  | send =>
      obtain ⟨unserved', hinv, hwork⟩ := h.send hrw hstep
      obtain ⟨hopen, hout⟩ := h.toOpen_send hrw hinv hstep
      exact ⟨unserved', pend, [], hinv, hwork, hopen, hout.trans (List.append_nil _).symm⟩
  | deliverRequest n =>
      obtain ⟨hinv, hwork⟩ := h.deliverRequest hstep
      obtain ⟨p, -, rfl⟩ := Option.map_eq_some_iff.1 hstep
      exact ⟨unserved, pend, [], hinv, hwork, rfl, (List.append_nil _).symm⟩
  | deliverResponse n =>
      obtain ⟨hinv, hwork⟩ := h.deliverResponse hstep
      obtain ⟨p, -, rfl⟩ := Option.map_eq_some_iff.1 hstep
      exact ⟨unserved, pend, [], hinv, hwork, rfl, (List.append_nil _).symm⟩
  | receive =>
      obtain ⟨pend', hinv, hwork⟩ := h.receive hstep
      obtain ⟨p, -, rfl⟩ := Option.map_eq_some_iff.1 hstep
      exact ⟨unserved, pend', [], hinv, hwork, rfl, (List.append_nil _).symm⟩
  | serve =>
      rcases h.task_cases with htask | ⟨prog, htask⟩
      · obtain ⟨unserved', hinv, hwork⟩ := h.serve_receiving hsends htask hstep
        obtain ⟨hopen, hout⟩ := h.toOpen_receiving hinv htask hstep
        exact ⟨unserved', pend, [], hinv, hwork, hopen, hout.trans (List.append_nil _).symm⟩
      · obtain ⟨pend', hinv, hwork⟩ := h.serve_handling hrw hwd htask hstep
        obtain ⟨new, hopen, hout⟩ := h.toOpen_handling hwd htask hstep
        exact ⟨unserved, pend', new, hinv, hwork, hopen, hout⟩

/-- **At the end nothing is left to be opened.** -/
theorem Inv.toOpen_of_stuck (hwd : C.WritesData) (h : Inv C router all s unserved pend)
    (hstuck : Stuck (Session.step C router) s) : s.toOpen router unserved = [] := by
  obtain ⟨htask, hunserved⟩ := h.of_idle hwd (fun n => hstuck _) (hstuck .serve)
  rw [toOpen, htask, hunserved, h.todo_of_idle (hstuck .send)]
  rfl

end Session

/-! ### One transfer -/

namespace Lane

variable {reqId : UInt32} {reader : AsyncRead} {s : Lane}

/-- What has been obtained, with whatever end of the reader, is the beginning of its bytes, under the
identifier of the call. -/
theorem Inv.obtained_prefix (h : Inv (.call reqId reader) s) {q : UInt32 × List UInt8}
    (hq : s.obtained = some q) : q.1 = reqId ∧ q.2 <+: reader.payload := by
  rw [obtained] at hq
  split at hq
  · next reqId' received hcall =>
      rw [Option.some.injEq] at hq
      subst hq
      rcases h.bytes with ⟨e, he⟩ | hbytes
      · rw [hcall] at he
        cases he
      · rw [hcall, ReadTask.consumed, List.append_assoc] at hbytes
        obtain ⟨hid, hpayload⟩ := List.append_inj hbytes (by simp [Source.preamble])
        have hid' := congrArg ofLe32 hid
        rw [Source.preamble, ofLe32_le32, ofLe32_le32] at hid'
        exact ⟨hid', _, hpayload⟩
  · cases hq

/-- At the end something has been obtained. -/
theorem Inv.exists_obtained (h : Inv (.call reqId reader) s)
    (hstuck : Stuck (Lane.step (.call reqId reader)) s) : ∃ q, s.obtained = some q := by
  obtain ⟨-, ⟨e, hcall⟩ | ⟨reqId', received, hcall⟩⟩ := h.of_stuck hstuck
  · cases h.failed e hcall
  · exact ⟨(reqId', received), by rw [obtained, hcall]⟩

end Lane

namespace Transfer

variable {t u : Transfer} {p : UInt32 × AsyncRead}

/-- What is true of the transfer of `p` at any time.  A call that has returned has returned what
copying the reader comes to.  What the client has obtained, by a clean end of the stream, is under
the identifier of the call and the beginning of the bytes; it is all of them when the reader reaches
its end. -/
structure Of (t : Transfer) (p : UInt32 × AsyncRead) : Prop where
  source : t.source = .call p.1 p.2
  returned : ∀ r, t.lane.task = .returned r → r = p.2.copyResult
  obtained : ∀ q, t.lane.obtained = some q → q.1 = p.1 ∧ q.2 <+: p.2.payload
  whole : p.2.ending = .eof → ∀ q, t.lane.obtained = some q → q = (p.1, p.2.payload)

theorem Of.of_inv (h : Lane.Inv t.source t.lane) (hsource : t.source = .call p.1 p.2) :
    t.Of p := by
  rw [hsource] at h
  refine ⟨hsource, ?_, ?_, ?_⟩
  · intro r htask
    exact h.result htask
  · intro q hq
    exact h.obtained_prefix hq
  · intro heof q hq
    exact (Option.some.inj (h.content_of_obtained heof hq)).symm

/-- A run of a transfer is a run of its lane. -/
theorem run_lane {es : List Lane.Event} (h : run step t es = some u) :
    u.source = t.source ∧ run (Lane.step t.source) t.lane es = some u.lane := by
  induction es generalizing t with
  | nil =>
      rw [run_nil, Option.some.injEq] at h
      exact h ▸ ⟨rfl, rfl⟩
  | cons e es ih =>
      obtain ⟨v, hv, hrest⟩ := run_cons_eq_some.1 h
      obtain ⟨lane, hlane, rfl⟩ := Option.map_eq_some_iff.1 hv
      obtain ⟨hsource, hrun⟩ := ih hrest
      exact ⟨hsource, run_cons_eq_some.2 ⟨lane, hlane, hrun⟩⟩

/-- The rank of a transfer is that of its lane. -/
def Rank (t : Transfer) (n : ℕ) : Prop := Lane.Rank t.source t.lane n

theorem rank_step {n : ℕ} {e : Lane.Event} (h : t.Rank n) (hstep : t.step e = some u) :
    ∃ m, m < n ∧ u.Rank m := by
  obtain ⟨lane, hlane, rfl⟩ := Option.map_eq_some_iff.1 hstep
  exact Lane.Rank.step h hlane

/-- All the work in a transfer. -/
def work (p : UInt32 × AsyncRead) : ℕ := (Lane.start (.call p.1 p.2)).work

theorem rank_opened (p : UInt32 × AsyncRead) : (opened p).Rank (work p) :=
  ⟨Lane.inv_start _, rfl⟩

end Transfer

/-! ### The whole connection -/

/-- The rank of the control plane: its own work, and that of the streams it has still to open. -/
def Session.FetchRank (C : Capnp.Serializer) (router : BxpRouter) (all : List BxpResponse)
    (s : Session) (n : ℕ) : Prop :=
  ∃ unserved pend, Session.Inv C router all s unserved pend ∧
    n = Session.work C router s unserved pend
      + ((s.toOpen router unserved).map Transfer.work).sum

/-- **A step of the control plane** does more work than the streams it opens will take. -/
theorem Session.fetchRank_step (hrw : C.ReadAfterWrite maxControlMsg) (hwd : C.WritesData)
    (hsends : ∀ req, (router.handleRequest req).SendsOnly) {all : List BxpResponse}
    {s t : Session} {n : ℕ} {e : Session.Event} {new : List Transfer}
    (h : Session.FetchRank C router all s n)
    (hstep : starts (Session.step C router) Session.outgoing Transfer.opened s e = some (t, new)) :
    ∃ m ns, Session.FetchRank C router all t m ∧ List.Forall₂ Transfer.Rank new ns ∧
      m + ns.sum < n := by
  obtain ⟨unserved, pend, hinv, rfl⟩ := h
  obtain ⟨t', ht, heq⟩ := Option.map_eq_some_iff.1 hstep
  obtain ⟨rfl, rfl⟩ := Prod.mk.inj heq
  obtain ⟨unserved', pend', opening, hinv', hwork, hopen, hout⟩ := hinv.opens hrw hwd hsends ht
  refine ⟨_, opening.map Transfer.work, ⟨unserved', pend', hinv', rfl⟩, ?_, ?_⟩
  · rw [hout, List.drop_left]
    refine List.forall₂_map_left_iff.2 (List.forall₂_map_right_iff.2 ?_)
    exact List.forall₂_same.2 fun p _ => Transfer.rank_opened p
  · rw [hopen, List.map_append, List.sum_append]
    omega

/-- The rank of a connection with both its planes. -/
def FetchRank (C : Capnp.Serializer) (router : BxpRouter) (all : List BxpResponse) :
    Session × List Transfer → ℕ → Prop :=
  SpawnRank (Session.FetchRank C router all) Transfer.Rank

/-- **Every step does some work.** -/
theorem FetchRank.step (hrw : C.ReadAfterWrite maxControlMsg) (hwd : C.WritesData)
    (hsends : ∀ req, (router.handleRequest req).SendsOnly) {all : List BxpResponse}
    (s : Session × List Transfer) (n : ℕ) (e : Act Session.Event Lane.Event)
    (t : Session × List Transfer) (h : FetchRank C router all s n)
    (hstep : fetchStep C router s e = some t) : ∃ m, m < n ∧ FetchRank C router all t m := by
  obtain ⟨-, hspawn⟩ := avoid_eq_some_iff.1 hstep
  refine spawnRank_step ?_ ?_ h hspawn
  · intro s k e t new hs hstep
    exact Session.fetchRank_step hrw hwd hsends hs hstep
  · intro t n e u ht hstep
    exact Transfer.rank_step ht hstep

/-- At the start all the work is still to be done. -/
theorem fetchRank_start {reqs : List BxpRequest}
    (hlimit : ∀ req ∈ reqs, WithinLimit C req.reqId req.action req.uri) :
    FetchRank C router (reqs.flatMap router.answers) (.start reqs, [])
      ((reqs.map (Session.sendingWork C router)).sum
        + ((router.outgoing reqs).map Transfer.work).sum) :=
  ⟨_, [], ⟨[], [], Session.inv_start hlimit, rfl⟩, List.Forall₂.nil, rfl⟩

/-- What a run has come to: the streams that are opened are, with those still to be opened, those of
all requests; and there is a transfer for each of them. -/
theorem fetch_project (hrw : C.ReadAfterWrite maxControlMsg) (hwd : C.WritesData)
    (hsends : ∀ req, (router.handleRequest req).SendsOnly) {reqs : List BxpRequest}
    (hlimit : ∀ req ∈ reqs, WithinLimit C req.reqId req.action req.uri)
    {es : List (Act Session.Event Lane.Event)} {s : Session} {lanes : List Transfer}
    (hrun : run (fetchStep C router) (.start reqs, []) es = some (s, lanes)) :
    (∃ unserved pend, Session.Inv C router (reqs.flatMap router.answers) s unserved pend ∧
        s.outgoing ++ s.toOpen router unserved = router.outgoing reqs) ∧
      List.Forall₂ (fun t p => Lane.Inv t.source t.lane ∧ t.source = .call p.1 p.2)
        lanes s.outgoing := by
  obtain ⟨started, hmain, hlen, htask, -⟩ := spawn_project (run_of_avoid hrun)
  -- the streams opened only grow, so that those started are those opened at the end
  have hgrows : ∀ (s : Session) (e : Session.Event) (t : Session),
      (∃ unserved pend, Session.Inv C router (reqs.flatMap router.answers) s unserved pend ∧
        s.outgoing ++ s.toOpen router unserved = router.outgoing reqs) →
      s.step C router e = some t →
      (∃ unserved pend, Session.Inv C router (reqs.flatMap router.answers) t unserved pend ∧
        t.outgoing ++ t.toOpen router unserved = router.outgoing reqs) ∧
        s.outgoing <+: t.outgoing := by
    rintro s e t ⟨unserved, pend, hinv, hall⟩ hstep
    obtain ⟨unserved', pend', new, hinv', -, hopen, hout⟩ := hinv.opens hrw hwd hsends hstep
    refine ⟨⟨unserved', pend', hinv', ?_⟩, hout ▸ List.prefix_append _ _⟩
    rw [hout, List.append_assoc, ← hopen, hall]
  obtain ⟨hinv, -, rfl⟩ := started_eq hgrows ⟨[], [], Session.inv_start hlimit, rfl⟩ rfl hmain
  refine ⟨hinv, List.forall₂_iff_get.2 ⟨by rw [← hlen, List.length_map], ?_⟩⟩
  intro i ht hp
  obtain ⟨t₀, ht₀, hlane⟩ := htask i _ (List.getElem?_eq_getElem ht)
  rw [List.getElem?_map, List.getElem?_eq_getElem hp, Option.map_some, Option.some.injEq] at ht₀
  subst ht₀
  obtain ⟨hsource, hlane⟩ := Transfer.run_lane hlane
  refine ⟨?_, hsource⟩
  rw [List.get_eq_getElem, hsource]
  exact Lane.inv_of_reachable ⟨_, hlane⟩

/-- **When nothing more can happen** no transfer can go on, and nor can the control plane. -/
theorem stuck_fetch {s : Session} {lanes : List Transfer}
    (hinv : ∀ t ∈ lanes, Lane.Inv t.source t.lane)
    (hstuck : Stuck (fetchStep C router) (s, lanes)) :
    Stuck (Session.step C router) s ∧ ∀ t ∈ lanes, Stuck (Lane.step t.source) t.lane := by
  have hlanes : ∀ t ∈ lanes, Stuck (Lane.step t.source) t.lane := by
    intro t ht e
    obtain ⟨i, hi⟩ := List.mem_iff_getElem?.1 ht
    have hnone := hstuck (.task i e)
    simpa [fetchStep, avoid, spawn, hi, Transfer.step] using hnone
  refine ⟨?_, hlanes⟩
  -- the calls have returned, so that the task of the server is not blocked
  have hreturned : (lanes.any fun t => !t.returned) = false := by
    rw [List.any_eq_false]
    intro t ht
    obtain ⟨⟨r, htask⟩, -⟩ := (hinv t ht).of_stuck (hlanes t ht)
    simp [Transfer.returned, htask]
  intro e
  have hnone := hstuck (.main e)
  rw [fetchStep, avoid, hreturned, Bool.and_false] at hnone
  simpa [spawn, starts] using hnone

/-- At any time there is a transfer for each of the first streams. -/
theorem fetch_of_run (hrw : C.ReadAfterWrite maxControlMsg) (hwd : C.WritesData)
    (hsends : ∀ req, (router.handleRequest req).SendsOnly) {reqs : List BxpRequest}
    (hlimit : ∀ req ∈ reqs, WithinLimit C req.reqId req.action req.uri)
    {es : List (Act Session.Event Lane.Event)} {s : Session} {lanes : List Transfer}
    (hrun : run (fetchStep C router) (.start reqs, []) es = some (s, lanes)) :
    ∃ opened, opened <+: router.outgoing reqs ∧ List.Forall₂ Transfer.Of lanes opened := by
  obtain ⟨⟨unserved, pend, hinv, hall⟩, hlanes⟩ := fetch_project hrw hwd hsends hlimit hrun
  refine ⟨s.outgoing, hall ▸ List.prefix_append _ _, ?_⟩
  exact hlanes.imp fun t p h => Transfer.Of.of_inv h.1 h.2

/-- **At the end** all answers have been received, and all streams obtained. -/
theorem fetch_of_stuck (hrw : C.ReadAfterWrite maxControlMsg) (hwd : C.WritesData)
    (hsends : ∀ req, (router.handleRequest req).SendsOnly) {reqs : List BxpRequest}
    (hlimit : ∀ req ∈ reqs, WithinLimit C req.reqId req.action req.uri)
    {es : List (Act Session.Event Lane.Event)} {s : Session} {lanes : List Transfer}
    (hrun : run (fetchStep C router) (.start reqs, []) es = some (s, lanes))
    (hstuck : Stuck (fetchStep C router) (s, lanes)) :
    s.got = (reqs.flatMap router.answers).map .ok ∧
      List.Forall₂ (fun t p => t.Of p ∧ ∃ q, t.lane.obtained = some q) lanes
        (router.outgoing reqs) := by
  obtain ⟨⟨unserved, pend, hinv, hall⟩, hlanes⟩ := fetch_project hrw hwd hsends hlimit hrun
  obtain ⟨hmain, htasks⟩ := stuck_fetch ((List.forall₂_and_left _ _).1 hlanes).1 hstuck
  refine ⟨hinv.got_of_stuck hwd hmain, ?_⟩
  rw [hinv.toOpen_of_stuck hwd hmain, List.append_nil] at hall
  rw [← hall]
  refine ((List.forall₂_and_left _ _).2 ⟨htasks, hlanes⟩).imp ?_
  rintro t p ⟨htask, hlane, hsource⟩
  refine ⟨Transfer.Of.of_inv hlane hsource, ?_⟩
  rw [hsource] at hlane htask
  exact hlane.exists_obtained htask

/-- **The client gets every answer and every payload.**  A client sends some requests within the limit
and receives responses; a server runs its loop, with handlers that only send; the network delivers
bytes; and the client accepts and drains the data streams, all in any order.  At any time the responses
received are the first of the answers, and the streams opened are the first of those that the handlers
of the requests send, each of them on its way as it should be.  When nothing more can happen every
answer has been received, and of every stream the identifier, with all the bytes of a reader that has
reached its end, and with the first of them of one that has failed; this is after a bounded number of
steps of whatever kind, and can be reached from everywhere. -/
theorem fetches_arrive {C : Capnp.Serializer} {router : BxpRouter}
    (hrw : C.ReadAfterWrite maxControlMsg) (hwd : C.WritesData)
    (hsends : ∀ action uri handler, router.lookup action uri = some handler →
      ∀ req, (handler req).SendsOnly)
    {reqs : List BxpRequest} (hlimit : ∀ req ∈ reqs, WithinLimit C req.reqId req.action req.uri)
    {es : List (Act Session.Event Lane.Event)} {s : Session} {lanes : List Transfer}
    (hrun : run (fetchStep C router) (.start reqs, []) es = some (s, lanes)) :
    (s.got <+: (reqs.flatMap router.answers).map .ok ∧
        ∃ opened, opened <+: router.outgoing reqs ∧ List.Forall₂ Transfer.Of lanes opened) ∧
      (Stuck (fetchStep C router) (s, lanes) →
        s.got = (reqs.flatMap router.answers).map .ok ∧
          List.Forall₂ (fun t p => t.Of p ∧ ∃ q, t.lane.obtained = some q) lanes
            (router.outgoing reqs)) ∧
      es.length ≤ (reqs.map (Session.sendingWork C router)).sum
        + ((router.outgoing reqs).map Transfer.work).sum ∧
      ∃ t, Reachable (fetchStep C router) (s, lanes) t ∧ Stuck (fetchStep C router) t := by
  have hprog : ∀ req, (router.handleRequest req).SendsOnly :=
    BxpRouter.sendsOnly_handleRequest hsends
  obtain ⟨⟨unserved, pend, hinv, -⟩, -⟩ := fetch_project hrw hwd hprog hlimit hrun
  obtain ⟨m, hm, hrank⟩ := run_rank (FetchRank.step hrw hwd hprog) (fetchRank_start hlimit) hrun
  obtain ⟨t, -, hreach, hend, -⟩ := exists_run_stuck (FetchRank.step hrw hwd hprog) hrank
  exact ⟨⟨hinv.got_prefix, fetch_of_run hrw hwd hprog hlimit hrun⟩,
    fetch_of_stuck hrw hwd hprog hlimit hrun, by omega, t, hreach, hend⟩

/-- A file: `Hello, BXP Zero-Copy World!`, in two chunks. -/
def helloFile : AsyncRead where
  chunks := [[72, 101, 108, 108, 111, 44, 32, 66, 88, 80, 32, 90, 101, 114, 111, 45],
    [67, 111, 112, 121, 32, 87, 111, 114, 108, 100, 33]]
  ending := .eof
  chunks_ne := by decide

/-- A server of this file. -/
def helloRouter : BxpRouter := BxpRouter.new.route .fetch "bxp://file" (handleFileTransfer helloFile)

/-- A request for the file. -/
def helloRequest : BxpRequest where
  reqId := 55
  action := .fetch
  uri := "bxp://file"

theorem sendsOnly_helloRouter {action : BxpAction} {uri : String} {handler : BxpHandler}
    (h : helloRouter.lookup action uri = some handler) (req : BxpRequest) :
    (handler req).SendsOnly := by
  rw [helloRouter, BxpRouter.lookup_route, BxpRouter.lookup_new] at h
  split at h
  · rw [Option.some.injEq] at h
    rw [← h]
    intro r
    cases r with
    | error e => trivial
    | ok u => exact fun _ => trivial
  · cases h

theorem withinLimit_helloRequest : ∀ req ∈ [helloRequest],
    WithinLimit Capnp.wire req.reqId req.action req.uri := by
  intro req hreq
  rw [List.mem_singleton.1 hreq]
  exact ⟨_, rfl, by decide⟩

/-- Fetching from this server, to the end. -/
theorem exists_fetch {reqs : List BxpRequest}
    (hlimit : ∀ req ∈ reqs, WithinLimit Capnp.wire req.reqId req.action req.uri) :
    ∃ es s lanes, run (fetchStep Capnp.wire helloRouter) (.start reqs, []) es
        = some (s, lanes) ∧ Stuck (fetchStep Capnp.wire helloRouter) (s, lanes) := by
  have hprog : ∀ req, (helloRouter.handleRequest req).SendsOnly :=
    BxpRouter.sendsOnly_handleRequest fun _ _ _ => sendsOnly_helloRouter
  obtain ⟨⟨s, lanes⟩, -, ⟨es, hrun⟩, hstuck, -⟩ := exists_run_stuck
    (FetchRank.step wire_readAfterWrite_maxControlMsg Capnp.wire_writesData hprog)
    (fetchRank_start hlimit)
  exact ⟨es, s, lanes, hrun, hstuck⟩

/-- The answer is received, and the file obtained. -/
theorem fetches_arrive_hello :
    ∃ es s lanes, run (fetchStep Capnp.wire helloRouter) (.start [helloRequest], []) es
        = some (s, lanes) ∧
      s.got = ([helloRequest].flatMap helloRouter.answers).map .ok ∧
      List.Forall₂ (fun t p => t.Of p ∧ ∃ q, t.lane.obtained = some q) lanes
        (helloRouter.outgoing [helloRequest]) := by
  obtain ⟨es, s, lanes, hrun, hstuck⟩ := exists_fetch withinLimit_helloRequest
  obtain ⟨-, hend, -⟩ := fetches_arrive wire_readAfterWrite_maxControlMsg Capnp.wire_writesData
    (fun _ _ _ => sendsOnly_helloRouter) withinLimit_helloRequest hrun
  exact ⟨es, s, lanes, hrun, hend hstuck⟩

/-! ### Under the identifier of a request -/

/-- What the client has obtained from all the streams. -/
def obtained (lanes : List Transfer) : List (UInt32 × List UInt8) :=
  lanes.filterMap fun t => t.lane.obtained

/-- The identifier and all the bytes of a stream. -/
def contentOf (p : UInt32 × AsyncRead) : UInt32 × List UInt8 := (p.1, p.2.payload)

/-- Those under an identifier. -/
def under {α : Type} (reqId : UInt32) (ps : List (UInt32 × α)) : List (UInt32 × α) :=
  ps.filter fun p => p.1 = reqId

theorem under_map_contentOf (reqId : UInt32) (ps : List (UInt32 × AsyncRead)) :
    under reqId (ps.map contentOf) = (under reqId ps).map contentOf := by
  rw [under, List.filter_map]
  rfl

/-- What is obtained from some streams that reach their ends is content of theirs, in order. -/
theorem obtained_sublist {lanes : List Transfer} {opened : List (UInt32 × AsyncRead)}
    (h : List.Forall₂ Transfer.Of lanes opened) (heof : ∀ p ∈ opened, p.2.ending = .eof) :
    (obtained lanes).Sublist (opened.map contentOf) := by
  induction h with
  | nil => exact List.Sublist.slnil
  | @cons t p lanes opened ht _ ih =>
      obtain ⟨hp, hrest⟩ := List.forall_mem_cons.1 heof
      rw [obtained, List.filterMap_cons]
      cases hobtained : t.lane.obtained with
      | none => exact (ih hrest).cons _
      | some q =>
          rw [ht.whole hp q hobtained]
          exact (ih hrest).cons_cons _

/-- At the end it is all of it. -/
theorem obtained_eq {lanes : List Transfer} {opened : List (UInt32 × AsyncRead)}
    (h : List.Forall₂ (fun t p => t.Of p ∧ ∃ q, t.lane.obtained = some q) lanes opened)
    (heof : ∀ p ∈ opened, p.2.ending = .eof) : obtained lanes = opened.map contentOf := by
  induction h with
  | nil => rfl
  | @cons t p lanes opened ht _ ih =>
      obtain ⟨hp, hrest⟩ := List.forall_mem_cons.1 heof
      obtain ⟨hof, q, hq⟩ := ht
      rw [obtained, List.filterMap_cons, hq, hof.whole hp q hq]
      exact congrArg (contentOf p :: ·) (ih hrest)

/-- Where every handler uses the identifier of its request, and no two requests have the same, the
streams under an identifier are those of one request. -/
theorem BxpRouter.under_outgoing {reqs : List BxpRequest}
    (hown : ∀ req ∈ reqs, ∀ p ∈ router.streams req, p.1 = req.reqId)
    (hids : (reqs.map BxpRequest.reqId).Nodup) {req : BxpRequest} (hreq : req ∈ reqs) :
    under req.reqId (router.outgoing reqs) = router.streams req := by
  induction reqs with
  | nil => cases hreq
  | cons r reqs ih =>
      obtain ⟨hr, hrest⟩ := List.forall_mem_cons.1 hown
      rw [List.map_cons, List.nodup_cons] at hids
      have hsplit : under req.reqId (router.outgoing (r :: reqs))
          = under req.reqId (router.streams r) ++ under req.reqId (router.outgoing reqs) := by
        rw [outgoing, List.flatMap_cons, under, List.filter_append]
        rfl
      rw [hsplit]
      rcases List.mem_cons.1 hreq with rfl | hmem
      · have hall : under req.reqId (router.streams req) = router.streams req :=
          List.filter_eq_self.2 fun p hp => by simpa using hr p hp
        have hnone : under req.reqId (router.outgoing reqs) = [] := by
          refine List.filter_eq_nil_iff.2 ?_
          intro p hp heq
          obtain ⟨r, hmem, hp⟩ := List.mem_flatMap.1 hp
          rw [decide_eq_true_eq, hrest r hmem p hp] at heq
          exact hids.1 (heq ▸ List.mem_map_of_mem hmem)
        rw [hall, hnone, List.append_nil]
      · have hnone : under req.reqId (router.streams r) = [] := by
          refine List.filter_eq_nil_iff.2 ?_
          intro p hp heq
          rw [decide_eq_true_eq, hr p hp] at heq
          exact hids.1 (heq ▸ List.mem_map_of_mem hmem)
        rw [hnone, List.nil_append, ih hrest hids.2 hmem]

/-- **Under the identifier of a request the client gets what its handler has sent.**  Let every
handler only send, and its data streams under the identifier of its request, from readers that reach
their ends, and let the client send requests within the limit and use no identifier twice.  Then at
any time what it has obtained under the identifier of a request is some of what the handler of *this*
request sends, in order, whole and nothing twice; and in the end it is all of it. -/
theorem fetch_gets_own {C : Capnp.Serializer} {router : BxpRouter}
    (hrw : C.ReadAfterWrite maxControlMsg) (hwd : C.WritesData)
    (hsends : ∀ action uri handler, router.lookup action uri = some handler →
      ∀ req, (handler req).SendsOnly)
    {reqs : List BxpRequest} (hlimit : ∀ req ∈ reqs, WithinLimit C req.reqId req.action req.uri)
    (hown : ∀ req ∈ reqs, ∀ p ∈ router.streams req, p.1 = req.reqId ∧ p.2.ending = .eof)
    (hids : (reqs.map BxpRequest.reqId).Nodup)
    {es : List (Act Session.Event Lane.Event)} {s : Session} {lanes : List Transfer}
    (hrun : run (fetchStep C router) (.start reqs, []) es = some (s, lanes))
    {req : BxpRequest} (hreq : req ∈ reqs) :
    (under req.reqId (obtained lanes)).Sublist ((router.streams req).map contentOf) ∧
      (Stuck (fetchStep C router) (s, lanes) →
        under req.reqId (obtained lanes) = (router.streams req).map contentOf) := by
  have hprog : ∀ req, (router.handleRequest req).SendsOnly :=
    BxpRouter.sendsOnly_handleRequest hsends
  have heof : ∀ p ∈ router.outgoing reqs, p.2.ending = .eof := by
    intro p hp
    obtain ⟨r, hr, hp⟩ := List.mem_flatMap.1 hp
    exact (hown r hr p hp).2
  have hstreams := BxpRouter.under_outgoing (fun r hr p hp => (hown r hr p hp).1) hids hreq
  rw [← hstreams, ← under_map_contentOf]
  constructor
  · obtain ⟨opened, hopened, hlanes⟩ := fetch_of_run hrw hwd hprog hlimit hrun
    have hsub := obtained_sublist hlanes fun p hp => heof p (hopened.subset hp)
    exact (hsub.trans (hopened.sublist.map _)).filter _
  · intro hstuck
    obtain ⟨-, hlanes⟩ := fetch_of_stuck hrw hwd hprog hlimit hrun hstuck
    rw [obtained_eq hlanes heof]

theorem streams_helloRequest : helloRouter.streams helloRequest = [(55, helloFile)] := by
  rw [BxpRouter.streams, helloRouter, BxpRouter.lookup_route]
  rfl

/-- The client gets the file. -/
theorem fetch_gets_own_hello :
    ∃ es s lanes, run (fetchStep Capnp.wire helloRouter) (.start [helloRequest], []) es
        = some (s, lanes) ∧
      under 55 (obtained lanes) = [(55, helloFile.payload)] := by
  obtain ⟨es, s, lanes, hrun, hstuck⟩ := exists_fetch withinLimit_helloRequest
  have hown : ∀ req ∈ [helloRequest], ∀ p ∈ helloRouter.streams req,
      p.1 = req.reqId ∧ p.2.ending = .eof := by
    intro req hreq p hp
    obtain rfl := List.mem_singleton.1 hreq
    rw [streams_helloRequest] at hp
    obtain rfl := List.mem_singleton.1 hp
    exact ⟨rfl, rfl⟩
  obtain ⟨-, hend⟩ := fetch_gets_own wire_readAfterWrite_maxControlMsg Capnp.wire_writesData
    (fun _ _ _ => sendsOnly_helloRouter) withinLimit_helloRequest hown (by decide) hrun
    List.mem_cons_self
  refine ⟨es, s, lanes, hrun, (hend hstuck).trans ?_⟩
  rw [streams_helloRequest]
  rfl

end Bxp

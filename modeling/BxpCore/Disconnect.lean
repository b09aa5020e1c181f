/-
**The end of a connection.**

A server does not leave its clients: whatever a client sends, an invalid message included, the task
of its connection goes on until the client is gone, and closes the connection only then.  When the
client *is* gone, the task does not go on forever.  Every call it makes returns, each request it
still receives uses up bytes, and each handler is over after finitely many calls, if it waits for
nothing else; so its own steps lead to its end, for every router.  On the way everything that has
arrived in time is handled: a client may send its requests and close at once.

A handler that panics is the exception.  It ends the task, and with it the connection.

Main definitions:

* `Bxp.BxpConnection.Gone` — a connection whose other side is gone;
* `Bxp.HandlerProg.NeverPanics`, `Bxp.BxpRouter.NeverPanics` — the handlers that do not panic;
* `Bxp.ServeLoop.Open`, `Bxp.ServeLoop.Closed` — what is true of a task as long as its client is
  there, and afterwards;
* `Bxp.ServeLoop.benchmarkStep` — the loop of the benchmark, which does not wait for the client.

Main results:

* `Bxp.HandlerProg.completes` — a handler is over after finitely many calls;
* `Bxp.ServeLoop.reaches_exit` — the task leaves its loop;
* `Bxp.connection_outlives` — **the connection is closed after the client has left it, with the code
  0**, and not before;
* `Bxp.ServeLoop.run_benchmarkStep` — the loop that does not wait runs as the other does until that
  waits;
* `Bxp.benchmark_cuts_off` — **without `wait_for_close` a server cuts its client off**;
* `Bxp.task_drains` — **when the client is gone the task comes to its end**, and has handled every
  request in front of the first invalid message.
-/

import BxpCore.ControlStream

set_option relaxedAutoImplicit false
set_option autoImplicit false

namespace Bxp

open LengthPrefix Machine BxpConnection

variable {C : Capnp.Serializer} {router : BxpRouter} {α : Type}

/-! ### A connection that is gone -/

/-- The connection is closed, and its control stream has ended and takes or refuses what is
written. -/
structure BxpConnection.Gone (c : BxpServerConnection) : Prop where
  closed : c.quicConn.isClosed = true
  control : ∃ e, c.controlRecv.ended = some e
  send : c.controlSend.flow ≠ .stalls

/-- **A connection that is lost is gone.** -/
theorem BxpConnection.gone_lose (c : BxpServerConnection) : c.lose.Gone where
  closed := Bool.or_true _
  control := (c.controlRecv.stop_cases .connectionLost).1
  send := by
    rw [lose]
    simp

/-- The call returns on a connection that is gone, which stays gone and has no more to be read. -/
def Settles (x : Async BxpServerConnection α) : Prop :=
  ∀ c : BxpServerConnection, c.Gone → ∃ r c', x c = some (r, c') ∧ c'.Gone ∧
    c'.controlRecv.unread.length ≤ c.controlRecv.unread.length

/-- A call on a connection that is closed: it returns, and does not open it again. -/
theorem settles_onQuic {x : Async Connection α}
    (hx : ∀ c : Connection, c.isClosed = true → ∃ r c', x c = some (r, c') ∧ c'.isClosed = true) :
    Settles (onQuic x) := by
  intro c hc
  obtain ⟨r, quicConn, hquic, hclosed⟩ := hx c.quicConn hc.closed
  exact ⟨r, { c with quicConn := quicConn }, by rw [onQuic, hquic]; rfl,
    ⟨hclosed, hc.control, hc.send⟩, Nat.le_refl _⟩

theorem settles_sendDataStream (reqId : UInt32) (reader : AsyncRead) :
    Settles (BxpServerConnection.sendDataStream reqId reader) := by
  refine settles_onQuic ?_
  intro c hclosed
  refine ⟨.error .connectionLost, c, ?_, hclosed⟩
  rw [Connection.sendDataStream, if_pos hclosed]

theorem settles_waitForClose : Settles BxpServerConnection.waitForClose := by
  refine settles_onQuic ?_
  intro c hclosed
  refine ⟨.ok (), c, ?_, hclosed⟩
  rw [Connection.closed, if_pos hclosed]

/-- A stream that waits to be accepted returns its preamble, or an error. -/
theorem settles_readDataStream : Settles BxpServerConnection.readDataStream := by
  refine settles_onQuic ?_
  intro c hclosed
  cases hincoming : c.incomingUni with
  | nil =>
      refine ⟨.error .connectionLost, c, ?_, hclosed⟩
      rw [Connection.readDataStream, hincoming]
      exact if_pos hclosed
  | cons stream streams =>
      obtain ⟨⟨read, rest⟩, hread⟩ := stream.readPreamble_returns
      have hnext : ∃ r, Connection.readDataStream c
          = some (r, { c with incomingUni := streams }) := by
        simp only [Connection.readDataStream, hincoming, hclosed, hread]
        cases read with
        | ok idBuf => exact ⟨_, rfl⟩
        | error e => exact ⟨_, rfl⟩
      obtain ⟨r, hr⟩ := hnext
      exact ⟨r, _, hr, hclosed⟩

theorem settles_sendResponse (reqId : UInt32) (status : BxpStatus) :
    Settles (BxpServerConnection.sendResponse C reqId status) := by
  intro c hc
  obtain ⟨r, c', hsend, hflow⟩ : ∃ r c', BxpServerConnection.sendResponse C reqId status c
      = some (r, c') ∧ c'.controlSend.flow ≠ .stalls := by
    rw [BxpServerConnection.sendResponse]
    cases hencode : encodeResponse C reqId status with
    | error e => exact ⟨_, _, Async.bind_of_error (by rw [Async.ofExcept_apply]), hc.send⟩
    | ok body =>
        obtain ⟨r, c', hwrite⟩ := writeControl_returns hc.send (frameMessage body)
        obtain ⟨_, send, hbuf, -, rfl⟩ := writeControl_eq_some hwrite
        have hencoded : (Async.ofExcept (.ok body) : Async BxpServerConnection _) c
            = some (.ok body, c) := by rw [Async.ofExcept_apply]
        exact ⟨r, _, (Async.bind_of_ok hencoded).trans hwrite, SendStream.flow_of_writeAll hbuf⟩
  have hkeep := BxpServerConnection.keeps_sendResponse C reqId status hsend
  obtain ⟨hquic, hrecv⟩ := Prod.mk.inj hkeep
  refine ⟨r, c', hsend, ⟨?_, ?_, hflow⟩, by rw [hrecv]⟩
  · rw [hquic]
    exact hc.closed
  · rw [hrecv]
    exact hc.control

/-- A call that reads the control stream does not wait for more. -/
theorem settles_receiveRequest : Settles (BxpServerConnection.receiveRequest C) := by
  intro c hc
  obtain ⟨r, c', hrecv⟩ : ∃ r c', BxpServerConnection.receiveRequest C c = some (r, c') := by
    cases hfirst : firstItem maxControlMsg c.controlRecv.unread with
    | some p =>
        obtain ⟨c', hrecv, -⟩ := (scans_requestReader C).found (s := c) hfirst
        exact ⟨_, c', hrecv⟩
    | none =>
        obtain ⟨r, c', hrecv, -⟩ := (scans_requestReader C).cut (s := c) hc.control hfirst
        exact ⟨r, c', hrecv⟩
  obtain ⟨hquic, hsend, hended⟩ := (BxpServerConnection.keeps_receiveRequest C).unread hrecv
  refine ⟨r, c', hrecv, ⟨?_, ?_, ?_⟩, (unread_of_receiveRequest hrecv).1⟩
  · rw [hquic]
    exact hc.closed
  · rw [hended]
    exact hc.control
  · rw [hsend]
    exact hc.send

/-! ### Handlers -/

namespace HandlerProg

/-- The handler does not panic. -/
def NeverPanics : HandlerProg → Prop
  | done _ => True
  | panic => False
  | sendResponse _ _ next => ∀ r, NeverPanics (next r)
  | sendDataStream _ _ next => ∀ r, NeverPanics (next r)
  | receiveRequest next => ∀ r, NeverPanics (next r)
  | readDataStream next => ∀ r, NeverPanics (next r)
  | waitForClose next => ∀ r, NeverPanics (next r)

/-- It does not panic after a call either. -/
theorem NeverPanics.of_step {prog prog' : HandlerProg} {c c' : BxpServerConnection}
    (h : prog.NeverPanics) (hcall : prog.step C c = some (prog', c')) : prog'.NeverPanics := by
  cases prog with
  | done result => cases hcall
  | panic => exact h.elim
  | _ =>
      obtain ⟨r, -, rfl⟩ := call_eq_some.1 hcall
      exact h r

/-- A handler that has returned or panicked. -/
def Over : HandlerProg → Prop
  | done _ | panic => True
  | _ => False

/-- On a connection that is gone the handler is over after finitely many calls. -/
def Completes (C : Capnp.Serializer) (router : BxpRouter) (prog : HandlerProg) : Prop :=
  ∀ c : BxpServerConnection, c.Gone →
    ∃ prog' c', Steps (ServeLoop.step C router) .advance { conn := c, task := .handling prog }
        { conn := c', task := .handling prog' } ∧
      prog'.Over ∧ c'.Gone ∧ c'.controlRecv.unread.length ≤ c.controlRecv.unread.length

theorem Over.completes {prog : HandlerProg} (h : prog.Over) : prog.Completes C router :=
  fun c hc => ⟨prog, c, Steps.refl _ _, h, hc, Nat.le_refl _⟩

/-- A call of the handler is a step of the task. -/
theorem advance_of_step {prog prog' : HandlerProg} {c c' : BxpServerConnection}
    (h : prog.step C c = some (prog', c')) :
    ServeLoop.advance C router { conn := c, task := .handling prog }
      = some { conn := c', task := .handling prog' } := by
  cases prog with
  | done result => cases h
  | panic => cases h
  | _ => exact Option.map_eq_some_iff.2 ⟨_, h, rfl⟩

/-- A handler that goes on with what is over is over itself. -/
theorem Completes.call {x : Async BxpServerConnection α} (hx : Settles x) (prog : HandlerProg)
    (next : Except BxpError α → HandlerProg)
    (hstep : ∀ c, prog.step C c = (x c).map fun p => (next p.1, p.2))
    (hnext : ∀ r, (next r).Completes C router) : prog.Completes C router := by
  intro c hc
  obtain ⟨r, c', hr, hgone, hle⟩ := hx c hc
  have hcall : prog.step C c = some (next r, c') := by
    rw [hstep, hr]
    rfl
  obtain ⟨prog', d, hsteps, hover, hd, hdle⟩ := hnext r c' hgone
  exact ⟨prog', d, Steps.head (advance_of_step hcall) hsteps, hover, hd, le_trans hdle hle⟩

/-- **A handler is over after finitely many calls**, whatever it is. -/
theorem completes (C : Capnp.Serializer) (router : BxpRouter) (prog : HandlerProg) :
    prog.Completes C router := by
  induction prog with
  | done result => exact Over.completes trivial
  | panic => exact Over.completes trivial
  | sendResponse reqId status next ih =>
      exact Completes.call (settles_sendResponse reqId status) _ next (fun _ => rfl) ih
  | sendDataStream reqId reader next ih =>
      exact Completes.call (settles_sendDataStream reqId reader) _ next (fun _ => rfl) ih
  | receiveRequest next ih =>
      exact Completes.call settles_receiveRequest _ next (fun _ => rfl) ih
  | readDataStream next ih =>
      exact Completes.call settles_readDataStream _ next (fun _ => rfl) ih
  | waitForClose next ih => exact Completes.call settles_waitForClose _ next (fun _ => rfl) ih

end HandlerProg

/-- A router none of whose handlers panics. -/
def BxpRouter.NeverPanics (router : BxpRouter) : Prop :=
  ∀ action uri handler, router.lookup action uri = some handler →
    ∀ req, (handler req).NeverPanics

theorem BxpRouter.neverPanics_new : new.NeverPanics := by
  intro action uri handler hlookup
  rw [lookup_new] at hlookup
  cases hlookup

theorem BxpRouter.NeverPanics.handleRequest (h : router.NeverPanics) (req : BxpRequest) :
    (router.handleRequest req).NeverPanics := by
  rw [BxpRouter.handleRequest]
  cases hlookup : router.lookup req.action req.uri with
  | none =>
      intro r
      trivial
  | some handler => exact h _ _ _ hlookup req

/-! ### The task leaves its loop -/

namespace ServeLoop

/-- The task is behind its loop, or its handler has panicked. -/
def AtExit (task : ServerTask) : Prop := task = .waiting ∨ task = .handling .panic

/-- **The task leaves its loop** on a connection that is gone: each round uses up some of the bytes
that have arrived. -/
theorem reaches_exit (router : BxpRouter) (len : ℕ) {c : BxpServerConnection} (hc : c.Gone)
    (hlen : c.controlRecv.unread.length = len) (task : ServerTask) (htask : task ≠ .ended) :
    ∃ c' task', Steps (ServeLoop.step C router) .advance { conn := c, task := task }
      { conn := c', task := task' } ∧ c'.Gone ∧ AtExit task' := by
  induction len using Nat.strongRecOn generalizing c task with
  | ind len ih =>
      -- a round of the loop, with what is left to be read
      have hround : ∀ {d : BxpServerConnection}, d.Gone → d.controlRecv.unread.length ≤ len →
          ∃ c' task', Steps (ServeLoop.step C router) .advance { conn := d, task := .receiving }
            { conn := c', task := task' } ∧ c'.Gone ∧ AtExit task' := by
        intro d hd hdlen
        obtain ⟨r, d', hrecv, hgone, -⟩ := settles_receiveRequest (C := C) d hd
        cases r with
        | error e =>
            refine ⟨d', .waiting, Steps.head ?_ (Steps.refl _ _), hgone, Or.inl rfl⟩
            exact Option.map_eq_some_iff.2 ⟨_, hrecv, rfl⟩
        | ok req =>
            have hlt := lt_of_lt_of_le ((unread_of_receiveRequest hrecv).2 ⟨req, rfl⟩) hdlen
            obtain ⟨c', task', hsteps, hc', hexit⟩ := ih _ hlt hgone rfl
              (.handling (router.handleRequest req)) (by simp)
            refine ⟨c', task', Steps.head ?_ hsteps, hc', hexit⟩
            exact Option.map_eq_some_iff.2 ⟨_, hrecv, rfl⟩
      cases task with
      | receiving => exact hround hc (Nat.le_of_eq hlen)
      | handling prog =>
          obtain ⟨prog', c', hsteps, hover, hgone, hle⟩ := prog.completes C router c hc
          cases prog' with
          | done result =>
              obtain ⟨d, task', hrest, hd, hexit⟩ := hround hgone (hlen ▸ hle)
              exact ⟨d, task', hsteps.trans (Steps.head rfl hrest), hd, hexit⟩
          | panic => exact ⟨c', _, hsteps, hgone, Or.inr rfl⟩
          | _ => exact hover.elim
      | waiting => exact ⟨c, _, Steps.refl _ _, hc, Or.inl rfl⟩
      | ended => exact absurd rfl htask

/-- **The last step** on a connection that is gone. -/
theorem exit_step (C : Capnp.Serializer) (router : BxpRouter) {s : ServeLoop}
    (hgone : s.conn.Gone) (hexit : AtExit s.task) :
    s.step C router .advance = some (drop s.conn) := by
  obtain ⟨conn, task⟩ := s
  rcases hexit with rfl | rfl
  · have hwait : BxpServerConnection.waitForClose conn = some (.ok (), conn) := by
      rw [BxpServerConnection.waitForClose, onQuic, Connection.closed, if_pos hgone.closed]
      rfl
    exact Option.map_eq_some_iff.2 ⟨_, hwait, rfl⟩
  · rfl

/-! ### The server does not leave first -/

/-- The handler of the task panics. -/
def Panics (s : ServeLoop) (e : Event) : Prop := e = .advance ∧ s.task = .handling .panic

/-- The server has not closed the connection, and its task is not over. -/
def Open (s : ServeLoop) : Prop := s.conn.quicConn.localClose = none ∧ s.task ≠ .ended

/-- The task is over and has closed the connection. -/
def Closed (s : ServeLoop) : Prop :=
  s.conn.quicConn.localClose = some 0 ∧ s.task = .ended

theorem peerClosed_onNet {c : BxpServerConnection} (h : c.quicConn.peerClosed = true)
    (e : NetEvent) : (c.onNet e).quicConn.peerClosed = true := by
  cases e with
  | controlFlow flow =>
      rw [onNet]
      split <;> exact h
  | peerClose => rfl
  | _ => exact h

/-- A connection that is closed stays closed. -/
theorem Closed.of_run {s t : ServeLoop} (h : s.Closed) {es : List Event}
    (hrun : run (ServeLoop.step C router) s es = some t) :
    t.Closed ∧ (s.conn.quicConn.peerClosed = true → t.conn.quicConn.peerClosed = true) := by
  refine run_inv (P := fun t : ServeLoop => t.Closed ∧
    (s.conn.quicConn.peerClosed = true → t.conn.quicConn.peerClosed = true)) ?_ ⟨h, id⟩ hrun
  rintro u e v ⟨⟨hclose, htask⟩, hpeer⟩ hstep
  cases e with
  | net e =>
      obtain rfl := Option.some.inj hstep
      refine ⟨⟨(keeps_onNet u.conn e).1.trans hclose, htask⟩, ?_⟩
      intro hs
      exact peerClosed_onNet (hpeer hs) e
  | advance =>
      rw [step, advance, htask] at hstep
      cases hstep

/-- **A step from an open connection**: it stays open, or its handler has panicked, or the client is
gone. -/
theorem Open.step {s t : ServeLoop} (h : s.Open) {e : Event}
    (hstep : s.step C router e = some t) :
    t.Open ∨ t.Closed ∧ (s.Panics e ∨ t.conn.quicConn.peerClosed = true) := by
  obtain ⟨hclose, htask⟩ := h
  cases e with
  | net e =>
      obtain rfl := Option.some.inj hstep
      exact Or.inl ⟨(keeps_onNet s.conn e).1.trans hclose, htask⟩
  | advance =>
      obtain ⟨conn, task⟩ := s
      have hclose' : conn.quicConn.localClose = none := hclose
      cases task with
      | receiving =>
          obtain ⟨⟨r, c⟩, hrecv, rfl⟩ := Option.map_eq_some_iff.1 hstep
          obtain ⟨hquic, -, -⟩ := (BxpServerConnection.keeps_receiveRequest C).unread hrecv
          have hquic' : c.quicConn.localClose = none := by rw [hquic, hclose']
          cases r with
          | ok req => exact Or.inl ⟨hquic', by simp⟩
          | error e => exact Or.inl ⟨hquic', by simp⟩
      | handling prog =>
          cases prog with
          | done result =>
              obtain rfl := Option.some.inj hstep
              exact Or.inl ⟨hclose', by simp⟩
          | panic =>
              obtain rfl := Option.some.inj hstep
              refine Or.inr ⟨⟨?_, rfl⟩, Or.inl ⟨rfl, rfl⟩⟩
              rw [drop, Connection.close, hclose']
              rfl
          | _ =>
              obtain ⟨⟨prog', c⟩, hcall, rfl⟩ := Option.map_eq_some_iff.1 hstep
              obtain ⟨hkeep, -⟩ := Prod.mk.inj (HandlerProg.closing_step hcall)
              exact Or.inl ⟨hkeep.trans hclose', by simp⟩
      | waiting =>
          obtain ⟨⟨r, c⟩, hwait, rfl⟩ := Option.map_eq_some_iff.1 hstep
          obtain ⟨⟨r', quicConn⟩, hclosed, heq⟩ := Option.map_eq_some_iff.1 hwait
          obtain ⟨rfl, rfl⟩ := Prod.mk.inj heq
          rw [Connection.closed] at hclosed
          split at hclosed
          · next hc =>
              obtain ⟨rfl, rfl⟩ := Prod.mk.inj (Option.some.inj hclosed)
              rw [Connection.isClosed, hclose'] at hc
              refine Or.inr ⟨⟨?_, rfl⟩, Or.inr hc⟩
              show (conn.quicConn.close 0).localClose = some 0
              rw [Connection.close, hclose']
              rfl
          · cases hclosed
      | ended => exact absurd rfl htask

/-- **A run from an open connection.** -/
theorem Open.of_run {s t : ServeLoop} (h : s.Open) {es : List Event}
    (hrun : run (ServeLoop.step C router) s es = some t) :
    t.Open ∨ t.Closed ∧
      (t.conn.quicConn.peerClosed = true ∨ Meets (ServeLoop.step C router) Panics s es) := by
  induction es generalizing s with
  | nil =>
      rw [run_nil, Option.some.injEq] at hrun
      exact Or.inl (hrun ▸ h)
  | cons e es ih =>
      obtain ⟨u, hu, hrest⟩ := run_cons_eq_some.1 hrun
      rcases h.step hu with hopen | ⟨hclosed, hwhy⟩
      · rcases ih hopen hrest with ht | ⟨ht, hpeer | hmeets⟩
        · exact Or.inl ht
        · exact Or.inr ⟨ht, Or.inl hpeer⟩
        · exact Or.inr ⟨ht, Or.inr (Or.inr ⟨u, hu, hmeets⟩)⟩
      · -- once it is closed only the client can still leave
        obtain ⟨ht, hpeer⟩ := hclosed.of_run hrest
        rcases hwhy with hpanics | hleft
        · exact Or.inr ⟨ht, Or.inr (Or.inl hpanics)⟩
        · exact Or.inr ⟨ht, Or.inl (hpeer hleft)⟩

end ServeLoop

/-- **The connection outlives its client.**  In every run of a server it has not closed the connection
and its task goes on, or the task is over and has closed the connection with the code 0, which does
nothing where the client has closed it first; and then the client has left, or a handler has
panicked.  No message of the client makes the server close it. -/
theorem connection_outlives {C : Capnp.Serializer} {router : BxpRouter} {es : List ServeLoop.Event}
    {s : ServeLoop} (hrun : run (ServeLoop.step C router) .start es = some s) :
    (s.conn.quicConn.localClose = none ∧ s.task ≠ .ended) ∨
      (s.conn.quicConn.localClose = some 0 ∧ s.task = .ended ∧
        (s.conn.quicConn.peerClosed = true ∨
          Meets (ServeLoop.step C router) ServeLoop.Panics .start es)) := by
  have hstart : ServeLoop.start.Open := ⟨rfl, by simp [ServeLoop.start]⟩
  rcases hstart.of_run hrun with ⟨hclose, htask⟩ | ⟨⟨hclose, htask⟩, hwhy⟩
  · exact Or.inl ⟨hclose, htask⟩
  · exact Or.inr ⟨hclose, htask, hwhy⟩

/-- A client that leaves after a message the server does not take. -/
def leavingRun : List ServeLoop.Event :=
  [.net (.control [1, 0, 16, 0]), .advance, .net .peerClose, .advance]

/-- The server closes behind it. -/
theorem connection_outlives_leaving :
    ∃ s, run (ServeLoop.step Capnp.wire .new) .start leavingRun = some s ∧ s.task = .ended ∧
      s.conn.quicConn.localClose = some 0 ∧
      (s.conn.quicConn.peerClosed = true ∨
        Meets (ServeLoop.step Capnp.wire .new) ServeLoop.Panics .start leavingRun) := by
  obtain ⟨s, hrun, htask⟩ : ∃ s, run (ServeLoop.step Capnp.wire .new) .start leavingRun = some s ∧
      s.task = .ended := ⟨_, rfl, rfl⟩
  rcases connection_outlives hrun with ⟨-, hne⟩ | ⟨hclose, -, hwhy⟩
  · exact absurd htask hne
  · exact ⟨s, hrun, htask, hclose, hwhy⟩

/-! ### A loop that does not wait -/

namespace ServeLoop

/-- One step of the task of the benchmark's server.  It is the same loop, but there is no
`wait_for_close` behind it: the task is over, and drops the connection, when a request cannot be
received. -/
def benchmarkAdvance (C : Capnp.Serializer) (router : BxpRouter) (s : ServeLoop) :
    Option ServeLoop :=
  match s.task with
  | .receiving =>
      (BxpServerConnection.receiveRequest C s.conn).map fun p =>
        match p.1 with
        | .ok req => { conn := p.2, task := .handling (router.handleRequest req) }
        | .error _ => drop p.2
  | .handling (.done _) => some { s with task := .receiving }
  | .handling .panic => some (drop s.conn)
  | .handling prog => (prog.step C s.conn).map fun p => { conn := p.2, task := .handling p.1 }
  | .waiting | .ended => none

/-- The machine of one connection of the benchmark's server. -/
def benchmarkStep (C : Capnp.Serializer) (router : BxpRouter) (s : ServeLoop) :
    Event → Option ServeLoop
  | .net e => some { s with conn := s.conn.onNet e }
  | .advance => s.benchmarkAdvance C router

/-- The task that waits for the close of its client, as one that does not. -/
def unwaited (s : ServeLoop) : ServeLoop :=
  match s.task with
  | .waiting => drop s.conn
  | _ => s

/-- The loop that waits, as long as it does. -/
def untilClose (C : Capnp.Serializer) (router : BxpRouter) :
    ServeLoop → Event → Option ServeLoop :=
  avoid (fun s e => e matches .advance && s.task matches .waiting) (step C router)

/-- What arrives at a connection arrives at one that is dropped as well. -/
theorem drop_onNet (c : BxpServerConnection) (e : NetEvent) :
    drop (c.onNet e) = { drop c with conn := (drop c).conn.onNet e } := by
  cases e with
  | controlFlow flow =>
      simp only [drop, onNet]
      split <;> rfl
  | _ => rfl

/-- **Step by step** the two loops do the same, until one of them waits. -/
theorem map_unwaited_step (s : ServeLoop) (e : Event) :
    (untilClose C router s e).map unwaited = benchmarkStep C router s.unwaited e := by
  obtain ⟨conn, task⟩ := s
  cases e with
  | net e =>
      cases task with
      | waiting => exact congrArg some (drop_onNet conn e)
      | _ => rfl
  | advance =>
      cases task with
      | receiving =>
          show ((BxpServerConnection.receiveRequest C conn).map _).map unwaited
            = (BxpServerConnection.receiveRequest C conn).map _
          rw [Option.map_map]
          refine Option.map_congr fun p _ => ?_
          obtain ⟨r, c⟩ := p
          cases r <;> rfl
      | handling prog =>
          cases prog with
          | done result => rfl
          | panic => rfl
          | _ =>
              show (Option.map _ _).map unwaited = Option.map _ _
              rw [Option.map_map]
              rfl
      -- one loop waits here, and the other is over
      | waiting => rfl
      | ended => rfl

/-- **The runs of the loop that does not wait** are those of the other up to the close. -/
theorem run_benchmarkStep (es : List Event) :
    run (benchmarkStep C router) start es = (run (untilClose C router) start es).map unwaited :=
  (run_watched map_unwaited_step start es).symm

end ServeLoop

/-- **Without `wait_for_close` a server cuts its client off.**  In every run of the benchmark's server
the server that waits can do the same, with the same requests handled and the same responses sent.
They differ in one point: where the one waits because a request could not be received, and has not
closed the connection, the other has closed it with the code 0.  If the client has not left, it finds
the connection of the one open and that of the other closed. -/
theorem benchmark_cuts_off {C : Capnp.Serializer} {router : BxpRouter} {es : List ServeLoop.Event}
    {s : ServeLoop} (hrun : run (ServeLoop.benchmarkStep C router) .start es = some s) :
    ∃ t, run (ServeLoop.step C router) .start es = some t ∧ s = t.unwaited ∧
      (t.task = .waiting → t.conn.quicConn.localClose = none ∧
        s.conn.quicConn.localClose = some 0 ∧ s.task = .ended ∧
        s.conn.controlSend = t.conn.controlSend ∧
        s.conn.quicConn.outgoingUni = t.conn.quicConn.outgoingUni ∧
        (t.conn.quicConn.peerClosed = false →
          t.conn.quicConn.isClosed = false ∧ s.conn.quicConn.isClosed = true)) := by
  rw [ServeLoop.run_benchmarkStep] at hrun
  obtain ⟨t, hwaits, rfl⟩ := Option.map_eq_some_iff.1 hrun
  have ht := run_of_avoid hwaits
  refine ⟨t, ht, rfl, ?_⟩
  intro htask
  have hstart : ServeLoop.start.Open := ⟨rfl, by simp [ServeLoop.start]⟩
  rcases hstart.of_run ht with ⟨hopen, -⟩ | ⟨⟨-, hended⟩, -⟩
  · have hdrop : t.unwaited = .drop t.conn := by
      rw [ServeLoop.unwaited, htask]
    have hclose : (t.conn.quicConn.close 0).localClose = some 0 := by
      rw [Connection.close, hopen]
      rfl
    rw [hdrop]
    refine ⟨hopen, hclose, rfl, rfl, rfl, ?_⟩
    intro hpeer
    refine ⟨by rw [Connection.isClosed, hopen, hpeer]; rfl, ?_⟩
    show (t.conn.quicConn.close 0).isClosed = true
    rw [Connection.isClosed, hclose]
    rfl
  · cases htask.symm.trans hended

/-- A message that is too long: the benchmark's server is gone. -/
theorem benchmark_cuts_off_oversized :
    ∃ s t, run (ServeLoop.benchmarkStep Capnp.wire .new) .start oversizedRun = some s ∧
      run (ServeLoop.step Capnp.wire .new) .start oversizedRun = some t ∧ s = t.unwaited := by
  obtain ⟨s, hrun⟩ : ∃ s, run (ServeLoop.benchmarkStep Capnp.wire .new) .start oversizedRun
      = some s := ⟨_, rfl⟩
  obtain ⟨t, ht, hsame, -⟩ := benchmark_cuts_off hrun
  exact ⟨s, t, hrun, ht, hsame⟩

/-! ### The client is gone -/

namespace Serving

variable {s : Serving}

/-- The handler of the task does not panic. -/
def Sound (s : Serving) : Prop := ∀ prog, s.log.loop.task = .handling prog → prog.NeverPanics

/-- **Every step leaves a handler that does not panic.** -/
theorem Sound.step (hrouter : router.NeverPanics) (h : s.Sound) {t : Serving}
    {e : ServeLoop.Event} (hmove : Moves C router s e t) : t.Sound := by
  intro prog hprog
  cases hmove with
  | net e => exact h prog hprog
  | request htask hrecv =>
      rw [← ServerTask.handling.inj hprog]
      exact hrouter.handleRequest _
  | noRequest htask hrecv => cases hprog
  | handlerReceives htask hrecv =>
      rw [← ServerTask.handling.inj hprog]
      exact h _ htask _
  | responds htask hsend =>
      rw [← ServerTask.handling.inj hprog]
      exact h _ htask _
  | respondFails htask hsend =>
      rw [← ServerTask.handling.inj hprog]
      exact h _ htask _
  | call htask hcall hsend hrecv =>
      rw [← ServerTask.handling.inj hprog]
      exact (h _ htask).of_step hcall
  | returned htask =>
      rw [ServeLog.note_loop] at hprog
      cases hprog
  | panicked htask => cases hprog
  | closed htask hwait => cases hprog

/-- The task does not end the control stream. -/
theorem ended_of_steps {t : Serving} {n : ℕ}
    (hrun : run (step C router) s (List.replicate n .advance) = some t) :
    t.conn.controlRecv.ended = s.conn.controlRecv.ended := by
  have hend := run_inv_rest (P := fun u fs => (∀ e ∈ fs, e = .advance) ∧
    u.conn.controlRecv.ended = s.conn.controlRecv.ended) ?_ ⟨fun e => List.eq_of_mem_replicate, rfl⟩
    hrun
  · exact hend.2
  · rintro u e fs v ⟨hes, hu⟩ hstep
    obtain ⟨rfl, hrest⟩ := List.forall_mem_cons.1 hes
    exact ⟨hrest, (moves_of_step hstep).arrived.2.trans hu⟩

/-- **The last step** of the watched server drops the connection, and receives nothing. -/
theorem exists_exit (C : Capnp.Serializer) (router : BxpRouter) (hgone : s.log.loop.conn.Gone)
    (hexit : ServeLoop.AtExit s.log.loop.task) :
    ∃ t, step C router s .advance = some t ∧ t.log.loop = ServeLoop.drop s.log.loop.conn ∧
      t.log.received = s.log.received := by
  have hlast := ServeLoop.exit_step C router hgone hexit
  refine ⟨_, Option.map_eq_some_iff.2 ⟨_, Option.map_eq_some_iff.2 ⟨_, hlast, rfl⟩, rfl⟩, ?_, ?_⟩
  · exact ServeLog.note_loop _ _ _
  · rcases hexit with htask | htask
    · simp only [ServeLog.note, htask]
      rfl
    · simp only [ServeLog.note, htask]
      rfl

end Serving

/-- **When the client is gone, the task comes to its end**, from wherever it is, for every router of
handlers that make finitely many calls and wait for nothing else: its own steps lead there, and the
connection is closed.  If the handlers do not panic and leave the control stream to the loop, and the
client has not reset it, then every request in front of the first invalid message has been handed to
the router by then, however much of that was still to be read. -/
theorem task_drains {C : Capnp.Serializer} {router : BxpRouter} {c : BxpServerConnection}
    {es : List ServeLoop.Event} {s : Serving}
    (hrun : run (Serving.step C router) (.accepted c) es = some s) (hgone : s.conn.Gone)
    (htask : s.log.loop.task ≠ .ended) :
    ∃ t, Steps (Serving.step C router) .advance s t ∧ t.log.loop.task = .ended ∧
      t.conn.quicConn.localClose.isSome ∧
      (router.NeverPanics → router.NeverReceives → ¬ s.conn.controlRecv.WasReset →
        t.log.received = requestsIn C (c.receives (ServeLoop.netEvents es))) := by
  obtain ⟨c', task', hsteps, hc', hexit⟩ :=
    ServeLoop.reaches_exit (C := C) router _ hgone rfl s.log.loop.task htask
  obtain ⟨u, hu, hloop⟩ := Serving.exists_steps (s := s) hsteps
  have hugone : u.log.loop.conn.Gone := by rwa [hloop]
  have huexit : ServeLoop.AtExit u.log.loop.task := by rwa [hloop]
  obtain ⟨t, ht, hdrop, hreceived⟩ := Serving.exists_exit C router hugone huexit
  obtain ⟨n, hn⟩ := hu
  have hlast : Steps (Serving.step C router) .advance u t := Steps.head ht (Steps.refl _ _)
  refine ⟨t, Steps.trans ⟨n, hn⟩ hlast, by rw [hdrop]; rfl, ?_, ?_⟩
  · show t.log.loop.conn.quicConn.localClose.isSome
    rw [hdrop]
    simp [ServeLoop.drop, Connection.close]
  · intro hpanics hreceives hreset
    have hall : run (Serving.step C router) (.accepted c) (es ++ List.replicate n .advance)
        = some u := by
      rw [run_append, hrun, Option.bind_some, hn]
    rw [hreceived]
    rcases huexit with hwaiting | hpanic
    · have hureset : ¬ u.conn.controlRecv.WasReset := by
        rwa [RecvStream.WasReset, Serving.ended_of_steps hn]
      have hdone := Serving.received_of_atRest hreceives hall (Or.inr hwaiting) hureset
      rwa [netEvents_append_advance] at hdone
    · have hsound : u.Sound := by
        refine run_inv (P := Serving.Sound) ?_ ?_ hall
        · intro s e t h hstep
          exact h.step hpanics (Serving.moves_of_step hstep)
        · intro prog hprog
          cases hprog
      exact (hsound _ hpanic).elim

/-- A server with a request and the header of an oversized message, neither of them read, whose
client is gone. -/
def goneRun : List ServeLoop.Event :=
  [.net (.control (frame pushMessage ++ [1, 0, 16, 0])), .net .peerClose]

/-- The request is handled all the same. -/
theorem task_drains_gone :
    ∃ s t, run (Serving.step Capnp.wire .new) (.accepted (opened .server)) goneRun = some s ∧
      Steps (Serving.step Capnp.wire .new) .advance s t ∧ t.log.loop.task = .ended ∧
      t.log.received = [{ reqId := 7, action := .push, uri := "bxp://x" }] := by
  obtain ⟨s, hrun⟩ : ∃ s, run (Serving.step Capnp.wire .new) (.accepted (opened .server)) goneRun
      = some s := ⟨_, rfl⟩
  obtain rfl := Option.some.inj hrun
  obtain ⟨t, hsteps, htask, -, hreceived⟩ := task_drains hrun (gone_lose _) (by rintro ⟨⟩)
  refine ⟨_, t, hrun, hsteps, htask, ?_⟩
  rw [hreceived BxpRouter.neverPanics_new BxpRouter.neverReceives_new (by rintro ⟨code, ⟨⟩⟩)]
  decide +kernel

end Bxp

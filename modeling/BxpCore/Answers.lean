/-
**Is every request answered?**

The loop of a server calls `handle_request` for every request and goes on, whatever the call returns:
`let _ = handle_request(request, conn)`.  A handler may return an error before it has sent anything;
`handle_request` passes the error on and sends nothing in its place, and nobody behind it does.  The
request then stays without a response, and since responses are told apart by their order alone, the
client waits for ever, or takes the response to its next request for this one.

Here the loop is watched: beside its state the machine keeps the request it is at, and of every call
of `handle_request` that has returned the bytes written meanwhile.  Each of these calls is a run of
the handler alone (`Bxp.ServeLog.inv_of_reachable`), and every such run can happen in the loop
(`Bxp.ServeLog.exists_handled`).  So what the loop leaves unanswered is what handlers leave unanswered.

Main definitions:

* `Bxp.ServeLog`, `Bxp.ServeLog.step` — the loop and what it has done;
* `Bxp.ServeLog.Moves`, `Bxp.ServeLog.Inv` — its steps, and the invariant;
* `Bxp.NoneUnanswered` — every request handled has been answered, and a client that calls
  `receive_response` as often is served.

Main results:

* `Bxp.ServeLog.run_loop` — the log only watches;
* `Bxp.noneUnanswered_of_answered` — **one response for each request is enough for the client**;
* `Bxp.noneUnanswered_iff` — **no request is left unanswered exactly when no handler returns an
  error before it has answered**.
-/

import BxpCore.HandlerRun

set_option relaxedAutoImplicit false
set_option autoImplicit false

namespace Bxp

open LengthPrefix Machine BxpConnection

variable {C : Capnp.Serializer} {router : BxpRouter}

/-! ### The loop, watched -/

/-- A call of `handle_request` that has returned: the request, the bytes it has written to the
control stream, and what it returned. -/
structure Handled where
  req : BxpRequest
  written : List UInt8
  result : Except BxpError Unit

/-- The loop of a server; the request it is at, with the length of the control stream when it came;
and the requests handled so far. -/
structure ServeLog where
  loop : ServeLoop
  current : Option (BxpRequest × ℕ)
  handled : List Handled

namespace ServeLog

/-- A connection just accepted. -/
def start : ServeLog where
  loop := .start
  current := none
  handled := []

/-- What is noted when the loop goes on to `loop`. -/
def note (C : Capnp.Serializer) (s : ServeLog) (loop : ServeLoop) : ServeLoop.Event → ServeLog
  | .net _ => { s with loop := loop }
  | .advance =>
      match s.loop.task with
      | .receiving =>
          match BxpServerConnection.receiveRequest C s.loop.conn with
          | some (.ok req, _) =>
              { s with loop := loop, current := some (req, s.loop.conn.controlSend.buf.length) }
          | _ => { s with loop := loop }
      | .handling (.done result) =>
          match s.current with
          | some (req, start) =>
              { loop := loop
                current := none
                handled := s.handled ++
                  [{ req, written := s.loop.conn.controlSend.buf.drop start, result }] }
          | none => { s with loop := loop }
      | _ => { s with loop := loop }

/-- The machine of the loop, watched. -/
def step (C : Capnp.Serializer) (router : BxpRouter) (s : ServeLog) (e : ServeLoop.Event) :
    Option ServeLog :=
  (s.loop.step C router e).map fun loop => s.note C loop e

/-- A `send_response` of the handler fails to write. -/
def writeFails (C : Capnp.Serializer) (s : ServeLog) : Bool :=
  match s.loop.task with
  | .handling prog => prog.writeFails C s.loop.conn
  | _ => false

/-- The machine on a connection whose writes succeed: it is not lost, and no `send_response`
fails. -/
def working (C : Capnp.Serializer) (router : BxpRouter) :
    ServeLog → ServeLoop.Event → Option ServeLog :=
  avoid (fun s e => e matches .net .peerClose || (e matches .advance && s.writeFails C))
    (step C router)

/-- The requests the loop has received. -/
def received (s : ServeLog) : List BxpRequest :=
  s.handled.map Handled.req ++ s.current.toList.map Prod.fst

/-- The bytes written for the requests that are handled. -/
def bytes (s : ServeLog) : List UInt8 := s.handled.flatMap Handled.written

@[simp] theorem note_loop (s : ServeLog) (loop : ServeLoop) (e : ServeLoop.Event) :
    (s.note C loop e).loop = loop := by
  unfold note
  split
  · rfl
  · split
    · split <;> rfl
    · split <;> rfl
    · rfl

/-- **The log only watches**: the loop runs as it does without it. -/
theorem run_loop (s : ServeLog) (es : List ServeLoop.Event) :
    (run (step C router) s es).map loop = run (ServeLoop.step C router) s.loop es := by
  refine run_watched ?_ s es
  intro s e
  rw [step, Option.map_map]
  exact (Option.map_congr fun loop' _ => s.note_loop loop' e).trans Option.map_id'

/-! ### What a step can do -/

/-- The steps of the loop, and what is noted of them. -/
inductive Moves (C : Capnp.Serializer) (router : BxpRouter) (s : ServeLog) :
    ServeLoop.Event → ServeLog → Prop
  | net (e : NetEvent) :
      Moves C router s (.net e) { s with loop := { s.loop with conn := s.loop.conn.onNet e } }
  | request {req : BxpRequest} {c : BxpServerConnection} (htask : s.loop.task = .receiving)
      (hrecv : BxpServerConnection.receiveRequest C s.loop.conn = some (.ok req, c)) :
      Moves C router s .advance
        { s with
          loop := { conn := c, task := .handling (router.handleRequest req) }
          current := some (req, s.loop.conn.controlSend.buf.length) }
  | noRequest {e : BxpError} {c : BxpServerConnection} (htask : s.loop.task = .receiving)
      (hrecv : BxpServerConnection.receiveRequest C s.loop.conn = some (.error e, c)) :
      Moves C router s .advance { s with loop := { conn := c, task := .waiting } }
  | call {prog prog' : HandlerProg} {c : BxpServerConnection}
      (htask : s.loop.task = .handling prog) (hcall : prog.step C s.loop.conn = some (prog', c)) :
      Moves C router s .advance { s with loop := { conn := c, task := .handling prog' } }
  | returned {result : Except BxpError Unit} (htask : s.loop.task = .handling (.done result)) :
      Moves C router s .advance (s.note C { s.loop with task := .receiving } .advance)
  | panicked (htask : s.loop.task = .handling .panic) :
      Moves C router s .advance { s with loop := .drop s.loop.conn }
  | closed {r : Except BxpError Unit} {c : BxpServerConnection} (htask : s.loop.task = .waiting)
      (hwait : BxpServerConnection.waitForClose s.loop.conn = some (r, c)) :
      Moves C router s .advance { s with loop := .drop c }

/-- A call of the handler is a step of the loop. -/
theorem step_call {s : ServeLog} {prog prog' : HandlerProg} {c : BxpServerConnection}
    (htask : s.loop.task = .handling prog) (hcall : prog.step C s.loop.conn = some (prog', c)) :
    s.step C router .advance
      = some { s with loop := { conn := c, task := .handling prog' } } := by
  cases prog with
  | done result => cases hcall
  | panic => cases hcall
  | _ =>
      simp only [step, ServeLoop.step, ServeLoop.advance, htask, hcall, Option.map_some, note]

/-- **These are all the steps.** -/
theorem moves_of_step {s t : ServeLog} {e : ServeLoop.Event} (h : s.step C router e = some t) :
    Moves C router s e t := by
  obtain ⟨loop, hloop, rfl⟩ := Option.map_eq_some_iff.1 h
  cases e with
  | net e =>
      rw [ServeLoop.step, Option.some.injEq] at hloop
      rw [← hloop]
      exact Moves.net e
  | advance =>
      rw [ServeLoop.step, ServeLoop.advance] at hloop
      cases htask : s.loop.task with
      | receiving =>
          rw [htask] at hloop
          obtain ⟨⟨r, c⟩, hrecv, rfl⟩ := Option.map_eq_some_iff.1 hloop
          cases r with
          | ok req => simpa only [note, htask, hrecv] using Moves.request htask hrecv
          | error e => simpa only [note, htask, hrecv] using Moves.noRequest htask hrecv
      | handling prog =>
          rw [htask] at hloop
          cases prog with
          | done result =>
              rw [Option.some.injEq] at hloop
              rw [← hloop]
              exact Moves.returned htask
          | panic =>
              rw [Option.some.injEq] at hloop
              rw [← hloop]
              simpa only [note, htask] using Moves.panicked htask
          | _ =>
              obtain ⟨p, hcall, rfl⟩ := Option.map_eq_some_iff.1 hloop
              simpa only [note, htask] using Moves.call htask hcall
      | waiting =>
          rw [htask] at hloop
          obtain ⟨⟨r, c⟩, hwait, rfl⟩ := Option.map_eq_some_iff.1 hloop
          simpa only [note, htask] using Moves.closed htask hwait
      | ended =>
          rw [htask] at hloop
          cases hloop

/-! ### The invariant -/

/-- A request that fits into a frame the server accepts. -/
def Receivable (C : Capnp.Serializer) (req : BxpRequest) : Prop :=
  ∃ body : List UInt8, body.length ≤ maxControlMsg ∧ decodeRequest C body = .ok req

/-- What is received is receivable. -/
theorem receivable_of_receiveRequest {req : BxpRequest} {c c' : BxpServerConnection}
    (h : BxpServerConnection.receiveRequest C c = some (.ok req, c')) : Receivable C req := by
  obtain ⟨body, t, hframe, hdecode⟩ := Async.bind_eq_ok h
  rw [Async.ofExcept_apply] at hdecode
  exact ⟨body, BxpServerConnection.readFrame_eq_ok hframe,
    (Prod.mk.inj (Option.some.inj hdecode)).1⟩

/-- What is known of the connection, by what the task is at: between two requests nothing has been
written but for requests that are handled; and what the handler of the present one has done so far
is what it does alone. -/
def AtTask (C : Capnp.Serializer) (router : BxpRouter) (s : ServeLog) : Prop :=
  match s.loop.task with
  | .receiving => s.loop.conn.Live ∧ s.loop.conn.controlSend.buf = s.bytes
  | .handling prog =>
      s.loop.conn.Live ∧
        ∃ req d, s.current = some (req, s.bytes.length) ∧ Receivable C req ∧
          Reachable (HandlerProg.alone C) (router.handleRequest req, opened .server) (prog, d) ∧
          Alike s.bytes [] s.loop.conn d
  | .waiting | .ended => s.bytes <+: s.loop.conn.controlSend.buf

/-- **Every call of `handle_request` is a run of the handler alone.** -/
structure Inv (C : Capnp.Serializer) (router : BxpRouter) (s : ServeLog) : Prop where
  handled : ∀ h ∈ s.handled, Receivable C h.req ∧
    (router.handleRequest h.req).Returns C h.result h.written
  task : AtTask C router s

theorem inv_start : Inv C router start where
  handled := by
    intro h hmem
    cases hmem
  task := ⟨Live.opened, rfl⟩

variable {s t : ServeLog}

theorem AtTask.receiving (h : AtTask C router s) (htask : s.loop.task = .receiving) :
    s.loop.conn.Live ∧ s.loop.conn.controlSend.buf = s.bytes := by
  rwa [AtTask, htask] at h

theorem AtTask.handling (h : AtTask C router s) {prog : HandlerProg}
    (htask : s.loop.task = .handling prog) :
    s.loop.conn.Live ∧
      ∃ req d, s.current = some (req, s.bytes.length) ∧ Receivable C req ∧
        Reachable (HandlerProg.alone C) (router.handleRequest req, opened .server) (prog, d) ∧
        Alike s.bytes [] s.loop.conn d := by
  rwa [AtTask, htask] at h

/-- **The bytes of the requests that are handled come first on the control stream.** -/
theorem AtTask.bytes_prefix (h : AtTask C router s) : s.bytes <+: s.loop.conn.controlSend.buf := by
  cases htask : s.loop.task with
  | receiving =>
      obtain ⟨-, hbuf⟩ := h.receiving htask
      exact ⟨[], by rw [List.append_nil, hbuf]⟩
  | handling prog =>
      obtain ⟨-, req, d, -, -, -, halike⟩ := h.handling htask
      obtain ⟨w, hw, -⟩ := halike.written
      exact ⟨w, hw.symm⟩
  | waiting => rwa [AtTask, htask] at h
  | ended => rwa [AtTask, htask] at h

/-- Something arrives. -/
theorem Inv.net (h : Inv C router s) {e : NetEvent} (he : e ≠ .peerClose) :
    Inv C router { s with loop := { s.loop with conn := s.loop.conn.onNet e } } where
  handled := h.handled
  task := by
    cases htask : s.loop.task with
    | receiving =>
        obtain ⟨hlive, hbuf⟩ := h.task.receiving htask
        simp only [AtTask, htask]
        refine ⟨hlive.onNet he, ?_⟩
        rw [(keeps_onNet s.loop.conn e).2.2.1, hbuf]
        rfl
    | handling prog =>
        obtain ⟨hlive, req, d, hcurrent, hreq, hreach, halike⟩ := h.task.handling htask
        obtain ⟨d', hd', halike'⟩ := halike.onNet he
        have hreach' : Reachable (HandlerProg.alone C) (prog, d) (prog, d') := by
          rcases hd' with rfl | rfl
          · exact Reachable.refl _
          · exact (Reachable.refl _).tail (HandlerProg.alone_net (prog, d) he)
        simp only [AtTask, htask]
        exact ⟨hlive.onNet he, req, d', hcurrent, hreq, hreach.trans hreach', halike'⟩
    | waiting =>
        have hbytes := h.task.bytes_prefix
        simp only [AtTask, htask, (keeps_onNet s.loop.conn e).2.2.1]
        exact hbytes
    | ended =>
        have hbytes := h.task.bytes_prefix
        simp only [AtTask, htask, (keeps_onNet s.loop.conn e).2.2.1]
        exact hbytes

/-- **A request is received**: its handler starts on a connection that looks like one of its own. -/
theorem Inv.request (h : Inv C router s) {req : BxpRequest} {c : BxpServerConnection}
    (htask : s.loop.task = .receiving)
    (hrecv : BxpServerConnection.receiveRequest C s.loop.conn = some (.ok req, c)) :
    Inv C router
      { s with
        loop := { conn := c, task := .handling (router.handleRequest req) }
        current := some (req, s.loop.conn.controlSend.buf.length) } where
  handled := h.handled
  task := by
    obtain ⟨hlive, hbuf⟩ := h.task.receiving htask
    obtain ⟨-, hsend, -⟩ := (BxpServerConnection.keeps_receiveRequest C).unread hrecv
    have hlive' := hlive.receiveRequest hrecv
    obtain ⟨d, hreach, halike⟩ := HandlerProg.exists_alike (router.handleRequest req) hlive'
    rw [hsend, hbuf] at halike
    exact ⟨hlive', req, d, by rw [hbuf]; rfl, receivable_of_receiveRequest hrecv, hreach, halike⟩

/-- The loop leaves, or the task is over: what was written stays. -/
theorem Inv.left (h : Inv C router s) {loop : ServeLoop}
    (hbuf : loop.conn.controlSend.buf = s.loop.conn.controlSend.buf)
    (htask : loop.task = .waiting ∨ loop.task = .ended) :
    Inv C router { s with loop := loop } where
  handled := h.handled
  task := by
    have hbytes := h.task.bytes_prefix
    rw [← hbuf] at hbytes
    rcases htask with htask | htask <;>
      · simp only [AtTask, htask]
        exact hbytes

/-- **The handler makes a call**, in the loop and alone. -/
theorem Inv.call (h : Inv C router s) {prog prog' : HandlerProg} {c : BxpServerConnection}
    (htask : s.loop.task = .handling prog) (hcall : prog.step C s.loop.conn = some (prog', c))
    (hok : prog.writeFails C s.loop.conn = false) :
    Inv C router { s with loop := { conn := c, task := .handling prog' } } where
  handled := h.handled
  task := by
    obtain ⟨hlive, req, d, hcurrent, hreq, hreach, halike⟩ := h.task.handling htask
    obtain ⟨d', hstep, halike'⟩ := halike.step hcall hok
    exact ⟨hlive.step hcall, req, d', hcurrent, hreq, hreach.tail hstep, halike'⟩

/-- **`handle_request` returns**: what it has written in the loop is what it has written alone. -/
theorem Inv.returned (h : Inv C router s) {result : Except BxpError Unit}
    (htask : s.loop.task = .handling (.done result)) :
    Inv C router (s.note C { s.loop with task := .receiving } .advance) := by
  obtain ⟨hlive, req, d, hcurrent, hreq, hreach, halike⟩ := h.task.handling htask
  obtain ⟨w, hw, hd⟩ := halike.written
  have hdrop : s.loop.conn.controlSend.buf.drop s.bytes.length = w := by
    rw [hw, List.drop_left]
  simp only [note, htask, hcurrent, hdrop]
  refine ⟨?_, hlive, ?_⟩
  · intro h' hmem
    rcases List.mem_append.1 hmem with hmem | hmem
    · exact h.handled h' hmem
    · rw [List.mem_singleton.1 hmem]
      exact ⟨hreq, d, hreach, hd⟩
  · show s.loop.conn.controlSend.buf = (s.handled ++ [_]).flatMap Handled.written
    rw [List.flatMap_append, List.flatMap_singleton]
    exact hw

/-- **Every step keeps the invariant**, on a connection whose writes succeed. -/
theorem Inv.step (h : Inv C router s) {e : ServeLoop.Event}
    (hstep : working C router s e = some t) : Inv C router t := by
  obtain ⟨hok, hmove⟩ := avoid_eq_some_iff.1 hstep
  cases moves_of_step hmove with
  | net e =>
      refine h.net ?_
      rintro rfl
      cases hok
  | request htask hrecv => exact h.request htask hrecv
  | noRequest htask hrecv =>
      obtain ⟨-, hsend, -⟩ := (BxpServerConnection.keeps_receiveRequest C).unread hrecv
      exact h.left (by rw [hsend]) (Or.inl rfl)
  | call htask hcall =>
      refine h.call htask hcall ?_
      rwa [Bool.false_or, Bool.true_and, writeFails, htask] at hok
  | returned htask => exact h.returned htask
  | panicked htask => exact h.left rfl (Or.inr rfl)
  | closed htask hwait =>
      have hkeep := Prod.mk.inj (keeps_onQuic_control _ hwait)
      refine h.left ?_ (Or.inr rfl)
      rw [ServeLoop.drop, hkeep.1]

theorem inv_of_reachable (h : Reachable (working C router) start s) : Inv C router s :=
  h.inv (fun _ _ _ hinv hstep => hinv.step hstep) inv_start

/-! ### Every run of a handler happens in the loop -/

theorem working_net (C : Capnp.Serializer) (router : BxpRouter) (s : ServeLog) {e : NetEvent}
    (he : e ≠ .peerClose) :
    working C router s (.net e)
      = some { s with loop := { s.loop with conn := s.loop.conn.onNet e } } := by
  cases e with
  | peerClose => exact absurd rfl he
  | _ => rfl

theorem working_advance (hok : s.writeFails C = false) (hstep : s.step C router .advance = some t) :
    working C router s .advance = some t :=
  avoid_eq_some_iff.2 ⟨by rw [hok]; rfl, hstep⟩

/-- The loop is at its first request, with the handler where it is alone. -/
structure HandlesFirst (req : BxpRequest) (p : HandlerProg × BxpServerConnection) (s : ServeLog) :
    Prop where
  task : s.loop.task = .handling p.1
  alike : Alike [] [] p.2 s.loop.conn
  current : s.current = some (req, 0)
  handled : s.handled = []

/-- What the handler does alone it does in the loop. -/
theorem HandlesFirst.step {req : BxpRequest} {p p' : HandlerProg × BxpServerConnection}
    {e : ServeLoop.Event} (h : HandlesFirst req p s) (hstep : HandlerProg.alone C p e = some p') :
    ∃ t, Reachable (working C router) s t ∧ HandlesFirst req p' t := by
  obtain ⟨prog, c⟩ := p
  cases e with
  | net e =>
      obtain ⟨he, rfl⟩ := HandlerProg.alone_net_eq_some_iff.1 hstep
      obtain ⟨d, rfl | rfl, halike⟩ := h.alike.onNet he
      · exact ⟨s, Reachable.refl s, h.task, halike, h.current, h.handled⟩
      · exact ⟨_, (Reachable.refl s).tail (working_net C router s he), h.task, halike, h.current,
          h.handled⟩
  | advance =>
      obtain ⟨prog', c'⟩ := p'
      obtain ⟨hok, hcall⟩ := HandlerProg.alone_advance_eq_some_iff.1 hstep
      obtain ⟨d, hd, halike⟩ := h.alike.step hcall hok
      obtain ⟨hok', hcall'⟩ := HandlerProg.alone_advance_eq_some_iff.1 hd
      have hworks : s.writeFails C = false := by
        rw [writeFails, h.task]
        exact hok'
      exact ⟨_, (Reachable.refl s).tail (working_advance hworks (step_call h.task hcall')), rfl,
        halike, h.current, h.handled⟩

end ServeLog

/-! ### What the client gets -/

/-- A handler that reports success and then sends a file. -/
def handleFileTransfer (file : AsyncRead) : BxpHandler := fun req =>
  .sendResponse req.reqId .success fun
    | .ok () => .sendDataStream req.reqId file .done
    | .error e => .done (.error e)

end Bxp

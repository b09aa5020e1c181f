/-
**Which handler gets which data stream of the client.**

A client opens a data stream for a request by `send_data_stream`, and a handler that wants it calls
`read_data_stream`.  That call returns the next stream that the client has opened: nothing looks for
the identifier of the request, and the handler is given whatever identifier is in front of the
stream.  So it is by counting that a stream finds its handler.  The `k`-th stream goes to the `k`-th
call, and if the handlers take as many streams as the client opens for their requests, each of them
gets its own.  A stream that nobody takes, such as one that is opened for a request without a
handler, is left to the handler of a later request.

Main definitions:

* `Bxp.RecvStream.afterPreamble` — what `read_data_stream` makes of a stream;
* `Bxp.HandlerProg.Takes` — the handler takes so many data streams;
* `Bxp.Uploading`, `Bxp.Uploading.step` — a server, with a record of the data streams;
* `Bxp.slots` — the requests, each as often as its handler takes a stream;
* `Bxp.Uploading.Inv` — the invariant;
* `Bxp.opens` — the streams that a client opens, each with its request.

Main results:

* `Bxp.Connection.readDataStream_cases` — a call takes the stream in front, or fails;
* `Bxp.Uploading.Inv.step` — every step keeps the invariant;
* `Bxp.streams_in_order` — **the streams go to the calls in their order**;
* `Bxp.uploads_own` — **each handler gets the streams of its own request if and only if** it takes
  as many as the client opens for it.
-/

import BxpCore.ControlStream

set_option relaxedAutoImplicit false
set_option autoImplicit false

namespace Bxp

open LengthPrefix LittleEndian Machine BxpConnection

variable {C : Capnp.Serializer} {router : BxpRouter}

/-! ### The call -/

/-- What `read_data_stream` makes of a stream whose preamble is there: the identifier, and the
stream behind it. -/
def RecvStream.afterPreamble (stream : RecvStream) : Option (UInt32 × RecvStream) :=
  match stream.settle.readExact 4 with
  | some (.ok idBuf, rest) => some (ofLe32 idBuf, rest)
  | _ => none

theorem RecvStream.afterPreamble_of_read {stream rest : RecvStream} {closed : Bool}
    {idBuf : List UInt8} (h : stream.readPreamble closed = some (.ok idBuf, rest)) :
    stream.afterPreamble = some (ofLe32 idBuf, rest) := by
  rw [readPreamble] at h
  rw [afterPreamble]
  cases hread : stream.settle.readExact 4 with
  | some p =>
      rw [hread] at h
      rw [Option.some.inj h]
  | none =>
      -- without a preamble the call fails on a connection that is closed
      rw [hread] at h
      cases closed with
      | true => cases (Prod.mk.inj (Option.some.inj h)).1
      | false => cases h

/-- **A call of `read_data_stream` takes the stream in front**, or fails: on a stream that ends
or is lost within its preamble, or on a connection that is closed. -/
theorem Connection.readDataStream_cases {c c' : Connection} {r : Except BxpError (UInt32 × RecvStream)}
    (h : readDataStream c = some (r, c')) :
    (∃ stream p, c.incomingUni = stream :: c'.incomingUni ∧ stream.afterPreamble = some p ∧
        r = .ok p) ∨
      ∃ lost e, c.incomingUni = lost ++ c'.incomingUni ∧ r = .error e := by
  unfold readDataStream at h
  cases hincoming : c.incomingUni with
  | nil =>
      rw [hincoming] at h
      dsimp only at h
      split at h
      · rw [Option.some.injEq, Prod.mk.injEq] at h
        obtain ⟨rfl, rfl⟩ := h
        exact Or.inr ⟨[], _, by rw [List.nil_append, hincoming], rfl⟩
      · cases h
  | cons stream streams =>
      rw [hincoming] at h
      obtain ⟨⟨read, rest⟩, hread, heq⟩ := Option.map_eq_some_iff.1 h
      cases read with
      | ok idBuf =>
          obtain ⟨rfl, rfl⟩ := Prod.mk.inj heq
          exact Or.inl ⟨stream, _, rfl, RecvStream.afterPreamble_of_read hread, rfl⟩
      | error e =>
          obtain ⟨rfl, rfl⟩ := Prod.mk.inj heq
          exact Or.inr ⟨[stream], _, rfl, rfl⟩

/-- Waiting for the close changes nothing. -/
theorem BxpServerConnection.eq_of_waitForClose {c c' : BxpServerConnection} {r : Except BxpError Unit}
    (h : waitForClose c = some (r, c')) : c' = c := by
  obtain ⟨⟨r', quic⟩, hquic, heq⟩ := Option.map_eq_some_iff.1 h
  obtain ⟨-, rfl⟩ := Prod.mk.inj heq
  rw [Connection.closed, Option.ite_none_right_eq_some] at hquic
  obtain ⟨-, rfl⟩ := Prod.mk.inj (Option.some.inj hquic.2)
  rfl

/-- The other calls of a handler leave the streams where they are. -/
theorem HandlerProg.incomingUni_step {prog prog' : HandlerProg} {c c' : BxpServerConnection}
    (h : prog.step C c = some (prog', c')) (hprog : ∀ next, prog ≠ readDataStream next) :
    c'.quicConn.incomingUni = c.quicConn.incomingUni := by
  cases prog with
  | done result => cases h
  | panic => cases h
  | sendResponse reqId status next =>
      obtain ⟨r, hr, -⟩ := call_eq_some.1 h
      have hkeep := BxpServerConnection.keeps_sendResponse C reqId status hr
      rw [(Prod.mk.inj hkeep).1]
  | sendDataStream reqId reader next =>
      obtain ⟨r, hr, -⟩ := call_eq_some.1 h
      obtain ⟨⟨r', quic⟩, hquic, heq⟩ := Option.map_eq_some_iff.1 hr
      obtain ⟨-, rfl⟩ := Prod.mk.inj heq
      rcases Connection.sendDataStream_eq_some hquic with ⟨-, rfl⟩ | ⟨-, rfl⟩ <;> rfl
  | receiveRequest next =>
      obtain ⟨r, hr, -⟩ := call_eq_some.1 h
      obtain ⟨hquic, -, -⟩ := (BxpServerConnection.keeps_receiveRequest C).unread hr
      rw [hquic]
  | readDataStream next => exact absurd rfl (hprog next)
  | waitForClose next =>
      obtain ⟨r, hr, -⟩ := call_eq_some.1 h
      rw [BxpServerConnection.eq_of_waitForClose hr]

/-! ### A server, watched -/

/-- The data streams that events bring. -/
def dataStreams (es : List NetEvent) : List RecvStream :=
  es.filterMap fun e =>
    match e with
    | .dataStream stream => some stream
    | _ => none

/-- A server; the data streams that have arrived; and what the calls of `read_data_stream` have
returned, each stream with the request whose handler has called. -/
structure Uploading where
  server : Serving
  arrived : List RecvStream
  taken : List (Except BxpError (BxpRequest × (UInt32 × RecvStream)))

namespace Uploading

/-- A connection that has been accepted. -/
def accepted (c : BxpServerConnection) : Uploading where
  server := .accepted c
  arrived := c.quicConn.incomingUni
  taken := []

/-- The streams that have arrived after an event. -/
def noteArrived (s : Uploading) : ServeLoop.Event → List RecvStream
  | .net (.dataStream stream) => s.arrived ++ [stream]
  | _ => s.arrived

/-- What has been taken after an event. -/
def noteTaken (s : Uploading) :
    ServeLoop.Event → List (Except BxpError (BxpRequest × (UInt32 × RecvStream)))
  | .net _ => s.taken
  | .advance =>
      match s.server.log.loop.task, s.server.log.current with
      | .handling (.readDataStream _), some (req, _) =>
          match BxpServerConnection.readDataStream s.server.conn with
          | some (r, _) => s.taken ++ [r.map fun p => (req, p)]
          | none => s.taken
      | _, _ => s.taken

/-- The machine of a server, watched. -/
def step (C : Capnp.Serializer) (router : BxpRouter) (s : Uploading) (e : ServeLoop.Event) :
    Option Uploading :=
  (s.server.step C router e).map fun server =>
    { server := server, arrived := s.noteArrived e, taken := s.noteTaken e }

/-- **The server is only watched.** -/
theorem run_server (s : Uploading) (es : List ServeLoop.Event) :
    (run (step C router) s es).map server = run (Serving.step C router) s.server es := by
  refine run_watched ?_ s es
  intro s e
  rw [step, Option.map_map]
  exact Option.map_id'

/-- A call of `read_data_stream` has failed. -/
def Failed (s : Uploading) : Prop := ∃ e, .error e ∈ s.taken

/-- The streams that were taken before a call failed. -/
def got (s : Uploading) : List (BxpRequest × (UInt32 × RecvStream)) := oks s.taken

variable {s t : Uploading}

/-- What arrives is recorded. -/
theorem arrived_of_run {es : List ServeLoop.Event} (hrun : run (step C router) s es = some t) :
    t.arrived = s.arrived ++ dataStreams (ServeLoop.netEvents es) := by
  have hend := run_inv_rest (P := fun u fs => u.arrived ++ dataStreams (ServeLoop.netEvents fs)
    = s.arrived ++ dataStreams (ServeLoop.netEvents es)) ?_ rfl hrun
  · exact (List.append_nil _).symm.trans hend
  · intro u e fs v hu hstep
    obtain ⟨server, -, rfl⟩ := Option.map_eq_some_iff.1 hstep
    rw [← hu]
    cases e with
    | advance => rfl
    | net e =>
        cases e with
        | dataStream stream => exact List.append_assoc _ _ _
        | _ => rfl

/-- The steps of a server, and what is noted of its data streams. -/
inductive Moves (C : Capnp.Serializer) (router : BxpRouter) (s : Uploading) :
    ServeLoop.Event → Uploading → Prop
  | stream (stream : RecvStream) {server : Serving}
      (hmove : Serving.Moves C router s.server (.net (.dataStream stream)) server) :
      Moves C router s (.net (.dataStream stream))
        { s with server := server, arrived := s.arrived ++ [stream] }
  | takes {next : Except BxpError (UInt32 × RecvStream) → HandlerProg} {req : BxpRequest} {start : ℕ}
      {r : Except BxpError (UInt32 × RecvStream)} {c : BxpServerConnection}
      (htask : s.server.log.loop.task = .handling (.readDataStream next))
      (hcurrent : s.server.log.current = some (req, start))
      (hread : BxpServerConnection.readDataStream s.server.conn = some (r, c)) :
      Moves C router s .advance
        { s with
          server := { s.server with
            log := { s.server.log with loop := { conn := c, task := .handling (next r) } } }
          taken := s.taken ++ [r.map fun p => (req, p)] }
  | other {e : ServeLoop.Event} {server : Serving}
      (hmove : Serving.Moves C router s.server e server)
      (hnet : ∀ stream, e ≠ .net (.dataStream stream))
      (hread : e = .advance → ∀ next, s.server.log.loop.task ≠ .handling (.readDataStream next)) :
      Moves C router s e { s with server := server }

end Uploading

/-- The task is with a request exactly when it is in a handler. -/
def Serving.WithRequest (s : Serving) : Prop :=
  match s.log.loop.task with
  | .receiving => s.log.current = none
  | .handling _ => s.log.current.isSome
  | .waiting | .ended => True

theorem Serving.WithRequest.step {s t : Serving} (h : s.WithRequest) {e : ServeLoop.Event}
    (hmove : Moves C router s e t) : t.WithRequest := by
  unfold WithRequest at h ⊢
  cases hmove with
  | net e => exact h
  | request htask hrecv => rfl
  | noRequest htask hrecv => trivial
  | panicked htask => trivial
  | closed htask hwait => trivial
  | returned htask =>
      rw [htask] at h
      obtain ⟨⟨req, start⟩, hcurrent⟩ := Option.isSome_iff_exists.1 h
      rw [ServeLog.note_loop]
      simp only [ServeLog.note, htask, hcurrent]
  | _ htask =>
      rw [htask] at h
      exact h

namespace Uploading

variable {s t : Uploading}

/-- A handler takes a stream, or a call fails. -/
theorem noteTaken_of_read {next : Except BxpError (UInt32 × RecvStream) → HandlerProg}
    {req : BxpRequest} {start : ℕ} {r : Except BxpError (UInt32 × RecvStream)}
    {c : BxpServerConnection} (htask : s.server.log.loop.task = .handling (.readDataStream next))
    (hcurrent : s.server.log.current = some (req, start))
    (hread : BxpServerConnection.readDataStream s.server.conn = some (r, c)) :
    s.noteTaken .advance = s.taken ++ [r.map fun p => (req, p)] := by
  simp only [noteTaken, htask, hcurrent, hread]

/-- Nothing is taken at another call. -/
theorem noteTaken_of_ne
    (htask : ∀ next, s.server.log.loop.task ≠ .handling (.readDataStream next)) :
    s.noteTaken .advance = s.taken := by
  rw [noteTaken]
  split
  · next hread _ => exact absurd hread (htask _)
  · rfl

/-- **These are all the steps.** -/
theorem moves_of_step (hwith : s.server.WithRequest) {e : ServeLoop.Event}
    (h : s.step C router e = some t) : Moves C router s e t := by
  obtain ⟨server, hserver, rfl⟩ := Option.map_eq_some_iff.1 h
  have hmove := Serving.moves_of_step hserver
  cases e with
  | net e =>
      cases e with
      | dataStream stream => exact Moves.stream stream hmove
      | _ => exact Moves.other hmove (by simp) (by simp)
  | advance =>
      by_cases htask : ∃ next, s.server.log.loop.task = .handling (.readDataStream next)
      · obtain ⟨next, htask⟩ := htask
        rw [Serving.WithRequest, htask] at hwith
        obtain ⟨⟨req, start⟩, hcurrent⟩ := Option.isSome_iff_exists.1 hwith
        cases hmove with
        | call htask' hcall hsend hrecv =>
            obtain rfl := ServerTask.handling.inj (htask'.symm.trans htask)
            obtain ⟨r, hread, rfl⟩ := HandlerProg.call_eq_some.1 hcall
            rw [noteTaken_of_read htask hcurrent hread]
            exact Moves.takes htask hcurrent hread
        | _ htask' => cases htask'.symm.trans htask
      · have hne : ∀ next, s.server.log.loop.task ≠ .handling (.readDataStream next) := by
          intro next hnext
          exact htask ⟨next, hnext⟩
        rw [noteTaken_of_ne hne]
        exact Moves.other hmove (by simp) fun _ => hne

end Uploading

/-! ### Counting -/

namespace HandlerProg

/-- The handler takes `n` data streams: it makes so many calls of `read_data_stream` before it
returns.  When one of them fails it may do what it likes. -/
def Takes : HandlerProg → ℕ → Prop
  | done _, n => n = 0
  | panic, _ => True
  | sendResponse _ _ next, n => ∀ r, Takes (next r) n
  | sendDataStream _ _ next, n => ∀ r, Takes (next r) n
  | receiveRequest next, n => ∀ r, Takes (next r) n
  | readDataStream _, 0 => False
  | readDataStream next, n + 1 => ∀ p, Takes (next (.ok p)) n
  | waitForClose next, n => ∀ r, Takes (next r) n

/-- The other calls leave it as many streams to take. -/
theorem Takes.of_step {prog prog' : HandlerProg} {c c' : BxpServerConnection} {n : ℕ}
    (h : prog.Takes n) (hcall : prog.step C c = some (prog', c'))
    (hprog : ∀ next, prog ≠ readDataStream next) : prog'.Takes n := by
  cases prog with
  | done result => cases hcall
  | panic => cases hcall
  | readDataStream next => exact absurd rfl (hprog next)
  | _ =>
      obtain ⟨r, -, rfl⟩ := call_eq_some.1 hcall
      exact h r

/-- A handler that takes a stream has one stream less to take. -/
theorem Takes.of_read {next : Except BxpError (UInt32 × RecvStream) → HandlerProg} {n : ℕ}
    (h : (readDataStream next).Takes n) : ∃ m, n = m + 1 ∧ ∀ p, (next (.ok p)).Takes m := by
  cases n with
  | zero => exact h.elim
  | succ m => exact ⟨m, rfl, h⟩

end HandlerProg

/-- The requests, each as often as its handler takes a data stream. -/
def slots (takes : BxpRequest → ℕ) (reqs : List BxpRequest) : List BxpRequest :=
  reqs.flatMap fun req => List.replicate (takes req) req

/-- A request that is received is behind the others. -/
theorem slots_append_singleton (takes : BxpRequest → ℕ) (reqs : List BxpRequest) (req : BxpRequest) :
    slots takes (reqs ++ [req]) = slots takes reqs ++ List.replicate (takes req) req := by
  rw [slots, List.flatMap_append, List.flatMap_singleton, slots]

theorem slots_mono (takes : BxpRequest → ℕ) {reqs reqs' : List BxpRequest} (h : reqs <+: reqs') :
    slots takes reqs <+: slots takes reqs' := by
  obtain ⟨more, rfl⟩ := h
  rw [slots, slots, List.flatMap_append]
  exact List.prefix_append _ _

/-- The other steps of a server leave the streams where they are. -/
theorem Serving.Moves.incomingUni {s t : Serving} (hmove : Moves C router s .advance t)
    (hread : ∀ next, s.log.loop.task ≠ .handling (.readDataStream next)) :
    t.conn.quicConn.incomingUni = s.conn.quicConn.incomingUni := by
  cases hmove with
  | request htask hrecv =>
      obtain ⟨hquic, -, -⟩ := (BxpServerConnection.keeps_receiveRequest C).unread hrecv
      exact congrArg Connection.incomingUni hquic
  | noRequest htask hrecv =>
      obtain ⟨hquic, -, -⟩ := (BxpServerConnection.keeps_receiveRequest C).unread hrecv
      exact congrArg Connection.incomingUni hquic
  | handlerReceives htask hrecv =>
      obtain ⟨hquic, -, -⟩ := (BxpServerConnection.keeps_receiveRequest C).unread hrecv
      exact congrArg Connection.incomingUni hquic
  | responds htask hsend =>
      have hkeep := BxpServerConnection.keeps_sendResponse C _ _ hsend
      exact congrArg Connection.incomingUni (Prod.mk.inj hkeep).1
  | respondFails htask hsend =>
      have hkeep := BxpServerConnection.keeps_sendResponse C _ _ hsend
      exact congrArg Connection.incomingUni (Prod.mk.inj hkeep).1
  | call htask hcall hsend hrecv =>
      refine HandlerProg.incomingUni_step hcall ?_
      rintro next rfl
      exact hread next htask
  | returned htask =>
      show (s.log.note C _ .advance).loop.conn.quicConn.incomingUni = _
      rw [ServeLog.note_loop]
      rfl
  | panicked htask => rfl
  | closed htask hwait =>
      rw [← BxpServerConnection.eq_of_waitForClose hwait]
      rfl

namespace Uploading

variable {takes : BxpRequest → ℕ} {s t : Uploading}

/-- The streams taken are those of the requests received, but for those that the present handler
has still to take. -/
def AtSlot (takes : BxpRequest → ℕ) (s : Uploading) : Prop :=
  match s.server.log.loop.task with
  | .receiving | .waiting => s.got.map Prod.fst = slots takes s.server.log.received
  | .handling prog => ∃ req start k, s.server.log.current = some (req, start) ∧ prog.Takes k ∧
      s.got.map Prod.fst ++ List.replicate k req = slots takes s.server.log.received
  | .ended => True

/-- **The invariant.**  The streams that have arrived are those that were taken and those that can
still be; and they were taken for the first slots, until a call has failed. -/
structure Inv (takes : BxpRequest → ℕ) (s : Uploading) : Prop where
  withRequest : s.server.WithRequest
  streams : ∃ done, s.arrived = done ++ s.server.conn.quicConn.incomingUni ∧
    s.got.map (fun p => some p.2) <+: done.map RecvStream.afterPreamble ∧
    (¬ s.Failed → s.got.map (fun p => some p.2) = done.map RecvStream.afterPreamble)
  requests : s.got.map Prod.fst <+: slots takes s.server.log.received
  atSlot : ¬ s.Failed → s.AtSlot takes

theorem inv_accepted (takes : BxpRequest → ℕ) (c : BxpServerConnection) :
    Inv takes (accepted c) where
  withRequest := rfl
  streams := ⟨[], rfl, List.nil_prefix, fun _ => rfl⟩
  requests := List.nil_prefix
  atSlot := fun _ => rfl

/-- The requests received stay, and others come behind them. -/
theorem received_step {server server' : Serving} (hwith : server.WithRequest)
    {e : ServeLoop.Event} (hmove : Serving.Moves C router server e server') :
    server.log.received <+: server'.log.received := by
  unfold Serving.WithRequest at hwith
  cases hmove with
  | request htask hrecv =>
      rw [htask] at hwith
      rw [Serving.received_request hwith]
      exact List.prefix_append _ _
  | returned htask =>
      rw [htask] at hwith
      exact ⟨[], (List.append_nil _).trans (Serving.received_returned htask hwith _).symm⟩
  | _ => exact List.prefix_rfl

/-- A stream that arrives can be taken. -/
theorem Inv.stream (h : Inv takes s) {stream : RecvStream} {server : Serving}
    (hmove : Serving.Moves C router s.server (.net (.dataStream stream)) server) :
    Inv takes { s with server := server, arrived := s.arrived ++ [stream] } := by
  have hwith := h.withRequest.step hmove
  cases hmove with
  | net =>
      obtain ⟨done, harrived, htaken, hall⟩ := h.streams
      refine ⟨hwith, ⟨done, ?_, htaken, hall⟩, h.requests, h.atSlot⟩
      rw [harrived, List.append_assoc]
      rfl

/-- The other steps leave the streams taken in their slots. -/
theorem AtSlot.other (htakes : ∀ req, (router.handleRequest req).Takes (takes req))
    (hwith : s.server.WithRequest) (h : s.AtSlot takes) {e : ServeLoop.Event} {server : Serving}
    (hmove : Serving.Moves C router s.server e server)
    (hread : e = .advance → ∀ next, s.server.log.loop.task ≠ .handling (.readDataStream next)) :
    AtSlot takes { s with server := server } := by
  cases hmove with
  | net e => exact h
  | @request req c htask hrecv =>
      rw [AtSlot, htask] at h
      rw [Serving.WithRequest, htask] at hwith
      refine ⟨req, _, takes req, rfl, htakes req, ?_⟩
      show s.got.map Prod.fst ++ _ = slots takes (ServeLog.received _)
      rw [Serving.received_request hwith, slots_append_singleton, h]
  | noRequest htask hrecv =>
      rw [AtSlot, htask] at h
      exact h
  | handlerReceives htask hrecv =>
      rw [AtSlot, htask] at h
      obtain ⟨req, start, k, hcurrent, hk, heq⟩ := h
      exact ⟨req, start, k, hcurrent, hk _, heq⟩
  | responds htask hsend =>
      rw [AtSlot, htask] at h
      obtain ⟨req, start, k, hcurrent, hk, heq⟩ := h
      exact ⟨req, start, k, hcurrent, hk _, heq⟩
  | respondFails htask hsend =>
      rw [AtSlot, htask] at h
      obtain ⟨req, start, k, hcurrent, hk, heq⟩ := h
      exact ⟨req, start, k, hcurrent, hk _, heq⟩
  | call htask hcall hsend hrecv =>
      rw [AtSlot, htask] at h
      obtain ⟨req, start, k, hcurrent, hk, heq⟩ := h
      refine ⟨req, start, k, hcurrent, hk.of_step hcall ?_, heq⟩
      rintro next rfl
      exact hread rfl next htask
  | returned htask =>
      rw [AtSlot, htask] at h
      obtain ⟨req, start, k, hcurrent, hk, heq⟩ := h
      have hsome : s.server.log.current.isSome := by
        rw [hcurrent]
        rfl
      have hreceived :=
        Serving.received_returned (C := C) htask hsome { s.server.log.loop with task := .receiving }
      -- a handler that has returned has no stream left to take
      obtain rfl : k = 0 := hk
      rw [List.replicate_zero, List.append_nil] at heq
      rw [AtSlot, ServeLog.note_loop]
      exact heq.trans (congrArg (slots takes) hreceived.symm)
  | panicked htask => trivial
  | closed htask hwait => trivial

/-- What else arrives leaves the streams where they are. -/
theorem incomingUni_onNet (c : BxpServerConnection) {e : NetEvent}
    (hnet : ∀ stream, e ≠ .dataStream stream) :
    (c.onNet e).quicConn.incomingUni = c.quicConn.incomingUni := by
  cases e with
  | controlFlow flow => rw [quicConn_onNet_controlFlow]
  | dataStream stream => exact absurd rfl (hnet stream)
  | _ => rfl

/-- **A step that takes no stream** keeps the invariant. -/
theorem Inv.other (htakes : ∀ req, (router.handleRequest req).Takes (takes req)) (h : Inv takes s)
    {e : ServeLoop.Event} {server : Serving} (hmove : Serving.Moves C router s.server e server)
    (hnet : ∀ stream, e ≠ .net (.dataStream stream))
    (hread : e = .advance → ∀ next, s.server.log.loop.task ≠ .handling (.readDataStream next)) :
    Inv takes { s with server := server } where
  withRequest := h.withRequest.step hmove
  streams := by
    have hsame : server.conn.quicConn.incomingUni = s.server.conn.quicConn.incomingUni := by
      cases e with
      | net e =>
          cases hmove with
          | net => exact incomingUni_onNet _ fun stream he => hnet stream (congrArg _ he)
      | advance => exact hmove.incomingUni (hread rfl)
    obtain ⟨done, harrived, htaken, hall⟩ := h.streams
    exact ⟨done, by rw [harrived, hsame], htaken, hall⟩
  requests := h.requests.trans (slots_mono takes (received_step h.withRequest hmove))
  atSlot := fun hfailed => AtSlot.other htakes h.withRequest (h.atSlot hfailed) hmove hread

/-- Once a call has failed, what is taken makes no difference. -/
theorem Inv.failed (h : Inv takes s) (hwith : t.server.WithRequest) (hfailed : t.Failed)
    (hgot : t.got = s.got) (harrived : t.arrived = s.arrived)
    (hreceived : t.server.log.received = s.server.log.received)
    (hlost : ∃ lost, s.server.conn.quicConn.incomingUni
      = lost ++ t.server.conn.quicConn.incomingUni) : Inv takes t where
  withRequest := hwith
  streams := by
    obtain ⟨done, hdone, htaken, -⟩ := h.streams
    obtain ⟨lost, hlost⟩ := hlost
    refine ⟨done ++ lost, ?_, ?_, fun hnot => absurd hfailed hnot⟩
    · rw [harrived, hdone, hlost, List.append_assoc]
    · rw [hgot, List.map_append]
      exact htaken.trans (List.prefix_append _ _)
  requests := by
    rw [hgot, hreceived]
    exact h.requests
  atSlot := fun hnot => absurd hfailed hnot

/-- A stream that is taken is the next one, and goes to the next slot. -/
theorem Inv.took (h : Inv takes s) {next : Except BxpError (UInt32 × RecvStream) → HandlerProg}
    {req : BxpRequest} {start : ℕ} {stream : RecvStream} {p : UInt32 × RecvStream}
    {c : BxpServerConnection} (htask : s.server.log.loop.task = .handling (.readDataStream next))
    (hcurrent : s.server.log.current = some (req, start)) (hfailed : ¬ s.Failed)
    (hincoming : s.server.conn.quicConn.incomingUni = stream :: c.quicConn.incomingUni)
    (hp : stream.afterPreamble = some p) :
    Inv takes { s with
      server := { s.server with
        log := { s.server.log with loop := { conn := c, task := .handling (next (.ok p)) } } }
      taken := s.taken ++ [.ok (req, p)] } := by
  have hgot : oks (s.taken ++ [.ok (req, p)]) = s.got ++ [(req, p)] := by
    rw [← map_oks hfailed, oks_map_ok_append, oks_cons_ok, oks_nil, got]
  have hat := h.atSlot hfailed
  rw [AtSlot, htask] at hat
  obtain ⟨req', start', k, hcurrent', hk, heq⟩ := hat
  obtain ⟨rfl, rfl⟩ := Prod.mk.inj (Option.some.inj (hcurrent'.symm.trans hcurrent))
  obtain ⟨m, rfl, hm⟩ := hk.of_read
  have hslot : (s.got ++ [(req', p)]).map Prod.fst ++ List.replicate m req'
      = slots takes s.server.log.received := by
    rw [← heq, List.replicate_succ, List.map_append, List.append_assoc]
    rfl
  obtain ⟨done, hdone, -, hall⟩ := h.streams
  have hstreams : (s.got ++ [(req', p)]).map (fun p => some p.2)
      = (done ++ [stream]).map RecvStream.afterPreamble := by
    rw [List.map_append, List.map_append, hall hfailed, List.map_singleton, List.map_singleton, hp]
  refine ⟨?_, ⟨done ++ [stream], ?_, ?_, fun _ => ?_⟩, ?_, fun _ => ?_⟩
  · show s.server.log.current.isSome
    rw [hcurrent]
    rfl
  · show s.arrived = _
    rw [hdone, hincoming, List.append_assoc]
    rfl
  · exact ⟨[], (List.append_nil _).trans ((congrArg (List.map _) hgot).trans hstreams)⟩
  · show (oks (s.taken ++ _)).map _ = _
    rw [hgot, hstreams]
  · show (oks (s.taken ++ _)).map _ <+: slots takes s.server.log.received
    rw [hgot, ← hslot]
    exact List.prefix_append _ _
  · refine ⟨req', start', m, hcurrent, hm p, ?_⟩
    show (oks (s.taken ++ _)).map _ ++ _ = slots takes s.server.log.received
    rw [hgot, hslot]

/-- **A call of `read_data_stream`** keeps the invariant. -/
theorem Inv.call (h : Inv takes s) {next : Except BxpError (UInt32 × RecvStream) → HandlerProg}
    {req : BxpRequest} {start : ℕ} {r : Except BxpError (UInt32 × RecvStream)}
    {c : BxpServerConnection} (htask : s.server.log.loop.task = .handling (.readDataStream next))
    (hcurrent : s.server.log.current = some (req, start))
    (hread : BxpServerConnection.readDataStream s.server.conn = some (r, c)) :
    Inv takes { s with
      server := { s.server with
        log := { s.server.log with loop := { conn := c, task := .handling (next r) } } }
      taken := s.taken ++ [r.map fun p => (req, p)] } := by
  obtain ⟨⟨r', quic⟩, hquic, heq⟩ := Option.map_eq_some_iff.1 hread
  obtain ⟨rfl, rfl⟩ := Prod.mk.inj heq
  have hwith : s.server.log.current.isSome := by
    rw [hcurrent]
    rfl
  rcases Connection.readDataStream_cases hquic with
    ⟨stream, p, hincoming, hp, rfl⟩ | ⟨lost, e, hlost, rfl⟩
  · by_cases hfailed : s.Failed
    · obtain ⟨e, he⟩ := hfailed
      exact h.failed hwith ⟨e, List.mem_append_left _ he⟩ (oks_append_of_error he _) rfl rfl
        ⟨[stream], hincoming⟩
    · exact h.took htask hcurrent hfailed hincoming hp
  · refine h.failed hwith ⟨e, List.mem_append_right _ (List.mem_singleton_self _)⟩ ?_ rfl rfl
      ⟨lost, hlost⟩
    refine oks_append_errors _ ?_
    intro r hr
    exact ⟨e, List.mem_singleton.1 hr⟩

/-- **Every step keeps the invariant.** -/
theorem Inv.step (htakes : ∀ req, (router.handleRequest req).Takes (takes req)) (h : Inv takes s)
    {e : ServeLoop.Event} (hstep : s.step C router e = some t) : Inv takes t := by
  cases moves_of_step h.withRequest hstep with
  | stream stream hmove => exact h.stream hmove
  | takes htask hcurrent hread => exact h.call htask hcurrent hread
  | other hmove hnet hread => exact h.other htakes hmove hnet hread

theorem inv_of_run (htakes : ∀ req, (router.handleRequest req).Takes (takes req))
    {c : BxpServerConnection} {es : List ServeLoop.Event}
    (hrun : run (step C router) (accepted c) es = some s) : Inv takes s := by
  refine run_inv (P := Inv takes) ?_ (inv_accepted takes c) hrun
  intro s e t h hstep
  exact h.step htakes hstep

end Uploading

/-! ### The main results -/

/-- All the streams that a server can take: those it has, and those that arrive. -/
def BxpServerConnection.uploads (c : BxpServerConnection) (es : List NetEvent) : List RecvStream :=
  c.quicConn.incomingUni ++ dataStreams es

namespace Uploading

variable {takes : BxpRequest → ℕ} {s : Uploading} {c : BxpServerConnection}
  {es : List ServeLoop.Event}

/-- The streams taken are the first that the client has opened. -/
theorem got_prefix (htakes : ∀ req, (router.handleRequest req).Takes (takes req))
    (hrun : run (step C router) (accepted c) es = some s) :
    s.got.map (fun p => some p.2)
      <+: (c.uploads (ServeLoop.netEvents es)).map RecvStream.afterPreamble := by
  obtain ⟨done, hdone, htaken, -⟩ := (inv_of_run htakes hrun).streams
  have harrived := arrived_of_run hrun
  rw [accepted] at harrived
  rw [BxpServerConnection.uploads, ← harrived, hdone, List.map_append]
  exact htaken.trans (List.prefix_append _ _)

/-- **Between two requests** nobody has still to take one. -/
theorem got_of_atRest (htakes : ∀ req, (router.handleRequest req).Takes (takes req))
    (hrun : run (step C router) (accepted c) es = some s) (hfailed : ¬ s.Failed)
    (htask : s.server.log.loop.task = .receiving ∨ s.server.log.loop.task = .waiting) :
    s.got.map Prod.fst = slots takes s.server.log.received := by
  have hat := (inv_of_run htakes hrun).atSlot hfailed
  rcases htask with htask | htask <;>
    · rw [AtSlot, htask] at hat
      exact hat

end Uploading

/-- **The streams go to the calls in their order.**  Whatever arrives, in whatever order relative to
the requests, and whatever identifiers are in front of the streams: until a call of
`read_data_stream` fails, the streams taken are the first of those that the client has opened, and
they go to the handlers of the first requests, to each as many as it takes.  Between two requests
nobody has still to take one. -/
theorem streams_in_order {C : Capnp.Serializer} {router : BxpRouter} {takes : BxpRequest → ℕ}
    (htakes : ∀ req, (router.handleRequest req).Takes (takes req)) {c : BxpServerConnection}
    {es : List ServeLoop.Event} {s : Uploading}
    (hrun : run (Uploading.step C router) (.accepted c) es = some s) :
    s.got.map (fun p => some p.2)
        <+: (c.uploads (ServeLoop.netEvents es)).map RecvStream.afterPreamble ∧
      s.got.map Prod.fst <+: slots takes s.server.log.received ∧
      (¬ s.Failed → s.server.log.loop.task = .receiving ∨ s.server.log.loop.task = .waiting →
        s.got.map Prod.fst = slots takes s.server.log.received) :=
  ⟨Uploading.got_prefix htakes hrun, (Uploading.inv_of_run htakes hrun).requests,
    Uploading.got_of_atRest htakes hrun⟩

/-- Two ways of seeing the front of a list make one. -/
theorem map_prod_prefix {α β γ δ : Type*} {f : α → γ} {g : α → δ} {f' : β → γ} {g' : β → δ}
    {xs : List α} {ys : List β} (hf : xs.map f <+: ys.map f') (hg : xs.map g <+: ys.map g') :
    xs.map (fun x => (f x, g x)) <+: ys.map fun y => (f' y, g' y) := by
  induction xs generalizing ys with
  | nil => exact List.nil_prefix
  | cons x xs ih =>
      cases ys with
      | nil => cases List.prefix_nil.1 hf
      | cons y ys =>
          obtain ⟨hx, hf⟩ := List.cons_prefix_cons.1 hf
          obtain ⟨hx', hg⟩ := List.cons_prefix_cons.1 hg
          rw [List.map_cons, List.map_cons, hx, hx']
          exact List.cons_prefix_cons.2 ⟨rfl, ih hf hg⟩

/-- The streams that a client opens for its requests, each with its request. -/
def opens (calls : List (BxpRequest × List RecvStream)) : List (BxpRequest × RecvStream) :=
  calls.flatMap fun call => call.2.map fun stream => (call.1, stream)

theorem map_snd_opens (calls : List (BxpRequest × List RecvStream)) :
    (opens calls).map Prod.snd = calls.flatMap Prod.snd := by
  rw [opens, List.map_flatMap]
  refine List.flatMap_congr fun call _ => ?_
  rw [List.map_map]
  exact List.map_id' _

theorem map_fst_opens (calls : List (BxpRequest × List RecvStream)) :
    (opens calls).map Prod.fst = calls.flatMap fun call => List.replicate call.2.length call.1 := by
  rw [opens, List.map_flatMap]
  refine List.flatMap_congr fun call _ => ?_
  rw [List.map_map]
  exact List.map_const'

theorem slots_map_fst (takes : BxpRequest → ℕ) (calls : List (BxpRequest × List RecvStream)) :
    slots takes (calls.map Prod.fst)
      = calls.flatMap fun call => List.replicate (takes call.1) call.1 :=
  List.flatMap_map ..

/-- When a handler takes as many streams as there are for its request, these are in its slots. -/
theorem map_fst_opens_of_count {takes : BxpRequest → ℕ}
    {calls : List (BxpRequest × List RecvStream)}
    (hcount : ∀ call ∈ calls, call.2.length = takes call.1) :
    (opens calls).map Prod.fst = slots takes (calls.map Prod.fst) := by
  rw [map_fst_opens, slots_map_fst]
  exact List.flatMap_congr fun call hcall => by rw [hcount call hcall]

/-- Copies of different things are the same list only if there are as many of each. -/
theorem eq_of_flatMap_replicate {α β : Type*} [DecidableEq β] {key : α → β} {f g : α → ℕ}
    {xs : List α} (hnodup : (xs.map key).Nodup)
    (h : (xs.flatMap fun x => List.replicate (f x) (key x))
      = xs.flatMap fun x => List.replicate (g x) (key x)) : ∀ x ∈ xs, f x = g x := by
  induction xs with
  | nil => simp
  | cons x xs ih =>
      rw [List.map_cons, List.nodup_cons] at hnodup
      rw [List.flatMap_cons, List.flatMap_cons] at h
      -- the first thing is in none of the copies of the others
      have habsent : ∀ n : α → ℕ,
          (xs.flatMap fun y => List.replicate (n y) (key y)).count (key x) = 0 := by
        intro n
        refine List.count_eq_zero.2 ?_
        intro hmem
        obtain ⟨y, hy, hkey⟩ := List.mem_flatMap.1 hmem
        exact hnodup.1 (List.mem_map.2 ⟨y, hy, (List.eq_of_mem_replicate hkey).symm⟩)
      have hx : f x = g x := by
        have hcount := congrArg (List.count (key x)) h
        rwa [List.count_append, List.count_append, habsent f, habsent g,
          List.count_replicate_self, List.count_replicate_self] at hcount
      rw [hx] at h
      have hxs := ih hnodup.2 (List.append_cancel_left h)
      intro y hy
      rcases List.mem_cons.1 hy with rfl | hy
      · exact hx
      · exact hxs y hy

/-- **Each handler gets the streams of its own request, if the counts agree.**  A client opens some
data streams for each of its requests, in the order of the requests.  If each handler takes as many
as there are for its request, and none are opened for a request without a handler, the streams taken
are the first of those, each taken for its own request, whenever the streams arrive and whenever the
requests do.  When all requests have been handled, no call has failed, the control stream was not
reset and no two requests are the same, every stream has been taken for its own request if and only
if the counts agree.  The handlers leave the control stream to the loop.  No identifier is looked
at. -/
theorem uploads_own {C : Capnp.Serializer} {router : BxpRouter} {takes : BxpRequest → ℕ}
    (htakes : ∀ req, (router.handleRequest req).Takes (takes req)) (hrouter : router.NeverReceives)
    {c : BxpServerConnection} {es : List ServeLoop.Event} {s : Uploading}
    (hrun : run (Uploading.step C router) (.accepted c) es = some s)
    {calls : List (BxpRequest × List RecvStream)}
    (hasked : requestsIn C (c.receives (ServeLoop.netEvents es)) <+: calls.map Prod.fst)
    (hopened : c.uploads (ServeLoop.netEvents es) <+: calls.flatMap Prod.snd) :
    ((∀ call ∈ calls, call.2.length = takes call.1) →
      s.got.map (fun p => (p.1, some p.2))
        <+: (opens calls).map fun p => (p.1, p.2.afterPreamble)) ∧
    (s.server.AtRest C → ¬ s.server.conn.controlRecv.WasReset → ¬ s.Failed →
      requestsIn C (c.receives (ServeLoop.netEvents es)) = calls.map Prod.fst →
      (calls.map Prod.fst).Nodup →
      (s.got.map (fun p => (p.1, some p.2))
          = (opens calls).map (fun p => (p.1, p.2.afterPreamble)) ↔
        ∀ call ∈ calls, call.2.length = takes call.1)) := by
  have hserver : run (Serving.step C router) (.accepted c) es = some s.server := by
    have hwatched : (run (Uploading.step C router) (.accepted c) es).map Uploading.server
        = run (Serving.step C router) (.accepted c) es := Uploading.run_server _ es
    rw [hrun] at hwatched
    exact hwatched.symm
  have hstreams : s.got.map (fun p => some p.2)
      <+: (opens calls).map fun p => p.2.afterPreamble := by
    have hall := (Uploading.got_prefix htakes hrun).trans (hopened.map RecvStream.afterPreamble)
    rwa [← map_snd_opens, List.map_map] at hall
  have hpairs : (∀ call ∈ calls, call.2.length = takes call.1) →
      s.got.map (fun p => (p.1, some p.2))
        <+: (opens calls).map fun p => (p.1, p.2.afterPreamble) := by
    intro hcount
    refine map_prod_prefix ?_ hstreams
    rw [map_fst_opens_of_count hcount]
    exact (Uploading.inv_of_run htakes hrun).requests.trans
      (slots_mono takes ((Serving.received_prefix hrouter hserver).trans hasked))
  refine ⟨hpairs, ?_⟩
  intro hrest hreset hfailed hall hnodup
  have hreceived := Serving.received_of_atRest hrouter hserver hrest hreset
  have hslots : s.got.map Prod.fst = slots takes (calls.map Prod.fst) := by
    rw [← hall, ← hreceived]
    exact Uploading.got_of_atRest htakes hrun hfailed (hrest.imp And.left id)
  constructor
  · intro heq
    have hfst := congrArg (List.map Prod.fst) heq
    rw [List.map_map, List.map_map] at hfst
    have hcopies := hfst.symm.trans hslots
    rw [slots_map_fst] at hcopies
    exact eq_of_flatMap_replicate hnodup ((map_fst_opens calls).symm.trans hcopies)
  · intro hcount
    refine (hpairs hcount).eq_of_length ?_
    have hlength := congrArg List.length hslots
    rw [← map_fst_opens_of_count hcount] at hlength
    rwa [List.length_map, List.length_map] at hlength ⊢

/-- A handler that wants the data stream of its request, and reports that it has it. -/
def handlePush : BxpHandler := fun req =>
  .readDataStream fun
    | .ok _ => .sendResponse req.reqId .success .done
    | .error e => .done (.error e)

/-- A server for uploads. -/
def pushRouter : BxpRouter := BxpRouter.new.route .push "bxp://x" handlePush

/-- A request to push takes one stream, and one without a handler takes none. -/
def pushTakes (req : BxpRequest) : ℕ :=
  if BxpAction.push = req.action ∧ "bxp://x" = req.uri then 1 else 0

theorem takes_pushRouter (req : BxpRequest) :
    (pushRouter.handleRequest req).Takes (pushTakes req) := by
  rw [BxpRouter.handleRequest, pushRouter, BxpRouter.lookup_route, BxpRouter.lookup_new, pushTakes]
  split_ifs with hroute
  · intro p r
    rfl
  · intro r
    rfl

theorem neverReceives_pushRouter : pushRouter.NeverReceives := by
  refine BxpRouter.neverReceives_new.route .push "bxp://x" ?_
  intro req r
  cases r with
  | ok p =>
      intro r
      trivial
  | error e => trivial

/-- The stream of the request with the identifier 7. -/
def pushStream : RecvStream where
  unread := [7, 0, 0, 0, 42]
  ended := some .finished

/-- A request to push something. -/
def pushRequest : BxpRequest where
  reqId := 7
  action := .push
  uri := "bxp://x"

/-- The stream arrives before its request, and both before the task goes on. -/
def pushArrives : List ServeLoop.Event :=
  [.net (.dataStream pushStream), .net (.control (frame pushMessage)), .advance]

/-- The request is received, the stream taken and the response sent. -/
def pushRun : List ServeLoop.Event := pushArrives ++ [.advance, .advance, .advance]

/-- A server with this request, whose handler has still to do `prog`. -/
def handlingPush (prog : HandlerProg) : Uploading where
  server := {
    log := {
      loop := {
        conn := ((opened .server).onNet (.dataStream pushStream)).withMsgBuf pushMessage.length
        task := .handling prog }
      current := some (pushRequest, 0)
      handled := [] }
    heard := { arrived := frame pushMessage, results := [.ok pushRequest] }
    sent := [] }
  arrived := [pushStream]
  taken := []

theorem run_pushArrives :
    run (Uploading.step Capnp.wire pushRouter) (.accepted (opened .server)) pushArrives
      = some (handlingPush (pushRouter.handleRequest pushRequest)) := rfl

theorem handleRequest_pushRequest :
    pushRouter.handleRequest pushRequest = handlePush pushRequest := by
  rw [BxpRouter.handleRequest, pushRouter, BxpRouter.lookup_route]
  rfl

/-- The run goes to its end: the stream has been taken, and the server is at rest. -/
theorem exists_pushRun :
    ∃ s, run (Uploading.step Capnp.wire pushRouter) (.accepted (opened .server)) pushRun = some s ∧
      s.got = [(pushRequest, (7, { unread := [42], ended := some .finished }))] ∧
      s.server.AtRest Capnp.wire ∧ ¬ s.server.conn.controlRecv.WasReset ∧ ¬ s.Failed := by
  rw [pushRun, run_append, run_pushArrives, handleRequest_pushRequest]
  refine ⟨_, rfl, rfl, Or.inl ⟨rfl, rfl⟩, by rintro ⟨code, ⟨⟩⟩, ?_⟩
  rintro ⟨e, he⟩
  cases List.mem_singleton.1 he

/-- The request, and its stream. -/
def pushCalls : List (BxpRequest × List RecvStream) := [(pushRequest, [pushStream])]

theorem requestsIn_pushRun :
    requestsIn Capnp.wire ((opened .server).receives (ServeLoop.netEvents pushRun))
      = pushCalls.map Prod.fst := by
  decide +kernel

/-- The stream of this request goes to its handler. -/
theorem streams_in_order_push :
    ∃ s, run (Uploading.step Capnp.wire pushRouter) (.accepted (opened .server)) pushRun = some s ∧
      s.got.length = 1 ∧ s.got.map Prod.fst <+: slots pushTakes s.server.log.received := by
  obtain ⟨s, hrun, hgot, -⟩ := exists_pushRun
  exact ⟨s, hrun, by rw [hgot, List.length_singleton],
    (streams_in_order takes_pushRouter hrun).2.1⟩

theorem uploads_own_push :
    ∃ s, run (Uploading.step Capnp.wire pushRouter) (.accepted (opened .server)) pushRun = some s ∧
      s.got.length = 1 ∧
      s.got.map (fun p => (p.1, some p.2))
        = (opens pushCalls).map fun p => (p.1, p.2.afterPreamble) := by
  obtain ⟨s, hrun, hgot, hrest, hreset, hfailed⟩ := exists_pushRun
  have hasked : requestsIn Capnp.wire ((opened .server).receives (ServeLoop.netEvents pushRun))
      <+: pushCalls.map Prod.fst := ⟨[], (List.append_nil _).trans requestsIn_pushRun⟩
  have hcount : ∀ call ∈ pushCalls, call.2.length = pushTakes call.1 := by
    intro call hcall
    rw [List.mem_singleton.1 hcall]
    rfl
  have hown := uploads_own takes_pushRouter neverReceives_pushRouter hrun hasked List.prefix_rfl
  exact ⟨s, hrun, by rw [hgot, List.length_singleton],
    (hown.2 hrest hreset hfailed requestsIn_pushRun (List.pairwise_singleton _ _)).2 hcount⟩

end Bxp

/-
**A connection on which things go wrong.**

A client whose application makes what calls it likes and awaits each to its end, a server with its
loop, and the network between them, which delivers the bytes of the control stream in pieces, and
may end, reset, stop or lose either direction of it at any time, in the middle of a message.  The
client may send requests that the server does not accept, go on after an error, or close.

Whatever happens, no message is made up, repeated, lost in the middle or put out of its order: the
requests that reach a handler are the first of those that were sent, and the responses the client
gets are the first of those that the handlers sent.  Where every handler answers its request once,
the responses therefore belong to the requests of the same place, although the client never compares
an identifier.

Main definitions:

* `Bxp.Written` — what a sender has put on its control stream, when some writes have failed;
* `Bxp.NetEvent.Befalls` — what may befall one side of a connection;
* `Bxp.Link`, `Bxp.Link.step` — both sides, and the network;
* `Bxp.Link.Inv` — the invariant;
* `Bxp.HandlerProg.SendsOne` — the handlers that answer once.

Main results:

* `Bxp.Written.send_ok`, `Bxp.Written.send_error` — a call of a sender keeps what is written in
  frames, whether it fails or not;
* `Bxp.link_safe` — **each side hears the first messages of the other**, and all of them once
  everything is delivered;
* `Bxp.link_pairs` — **a response belongs to the request of the same place**.
-/

import BxpCore.ControlStream
import BxpCore.Session
import Mathlib.Data.List.Forall2

set_option relaxedAutoImplicit false
set_option autoImplicit false

namespace Bxp

open LengthPrefix Machine BxpConnection

variable {C : Capnp.Serializer} {router : BxpRouter} {side : Side} {α : Type}

/-! ### Writing, and failing to write -/

/-- A stream that takes nothing more. -/
def SendStream.Exhausted (s : SendStream) : Prop := ∃ e, s.flow = .breaks 0 e

/-- Some bytes can be written only to a stream that takes more. -/
theorem SendStream.not_exhausted_of_writeAll {s s' : SendStream} {bytes : List UInt8}
    (hne : bytes ≠ []) (h : s.writeAll bytes = some (.ok (), s')) : ¬ s.Exhausted := by
  rintro ⟨e, he⟩
  have hpos : 0 < bytes.length := List.length_pos_iff.2 hne
  rw [writeAll, he] at h
  dsimp only at h
  rw [if_neg (by omega)] at h
  cases (Prod.mk.inj (Option.some.inj h)).1

/-- What a sender has put on its control stream: the frames of the messages sent, and, once a write
has failed, the beginning of one more frame, with nothing to come behind it. -/
inductive Written (encode : α → Except BxpError (List UInt8)) (msgs : List α)
    (written : List UInt8) (send : SendStream) : Prop
  | whole {bodies : List (List UInt8)}
      (hmsgs : List.Forall₂ (fun body a => encode a = .ok body) bodies msgs)
      (hbytes : written = frames bodies)
  | cut {bodies : List (List UInt8)} {tail : List UInt8} {a : α} {body : List UInt8}
      (hmsgs : List.Forall₂ (fun body a => encode a = .ok body) bodies msgs)
      (hbytes : written = frames bodies ++ tail) (hbody : encode a = .ok body)
      (htail : tail <+: frame body) (hne : tail ≠ frame body) (hsend : send.Exhausted)

theorem frame_ne_nil (body : List UInt8) : frame body ≠ [] := by
  intro hnil
  have hlen := congrArg List.length hnil
  rw [length_frame, List.length_nil] at hlen
  omega

namespace Written

variable {encode : α → Except BxpError (List UInt8)} {msgs : List α} {written : List UInt8}
  {c c' : BxpConnection side} {a : α}

/-- **A message that is sent** is one more frame. -/
theorem send_ok (h : Written encode msgs written c.controlSend)
    (hsend : (Async.ofExcept (encode a) >>= fun message => writeControl (frameMessage message)) c
      = some (.ok (), c')) :
    ∃ body, c'.controlSend.buf = c.controlSend.buf ++ frame body ∧
      ¬ c.controlSend.Exhausted ∧
      Written encode (msgs ++ [a]) (written ++ frame body) c'.controlSend := by
  obtain ⟨body, t, hencode, hwrite⟩ := Async.bind_eq_ok hsend
  rw [Async.ofExcept_apply, Option.some.injEq, Prod.mk.injEq] at hencode
  obtain ⟨hbody, rfl⟩ := hencode
  rw [frameMessage_eq] at hwrite
  have hbuf := buf_of_writeControl_ok hwrite
  have hopen := SendStream.not_exhausted_of_writeAll (frame_ne_nil body) (writeControl_eq_ok hwrite)
  refine ⟨body, hbuf, hopen, ?_⟩
  cases h with
  | whole hmsgs hbytes =>
      have hmore := List.rel_append hmsgs (List.Forall₂.cons hbody List.Forall₂.nil)
      refine whole hmore ?_
      rw [hbytes, frames_append]
      simp
  | cut hmsgs hbytes hbody' htail hne hexhausted => exact absurd hexhausted hopen

/-- **A call that fails** has written the beginning of a frame at most, and then nothing comes behind
it. -/
theorem send_error (h : Written encode msgs written c.controlSend) {e : BxpError}
    (hsend : (Async.ofExcept (encode a) >>= fun message => writeControl (frameMessage message)) c
      = some (.error e, c')) :
    ∃ w, c'.controlSend.buf = c.controlSend.buf ++ w ∧
      Written encode msgs (written ++ w) c'.controlSend ∧
      ((∃ e', encode a = .error e') ∨ c'.controlSend.Exhausted) := by
  cases hencode : encode a with
  | error e' =>
      have hx : (Async.ofExcept (encode a) : Async (BxpConnection side) _) c
          = some (.error e', c) := by
        rw [Async.ofExcept_apply, hencode]
      cases hsend.symm.trans (Async.bind_of_error hx)
      exact ⟨[], (List.append_nil _).symm, by rwa [List.append_nil], Or.inl ⟨_, rfl⟩⟩
  | ok body =>
      have hx : (Async.ofExcept (encode a) : Async (BxpConnection side) _) c
          = some (.ok body, c) := by
        rw [Async.ofExcept_apply, hencode]
      rw [Async.bind_of_ok hx, frameMessage_eq] at hsend
      obtain ⟨werr, hfail⟩ := writeControl_eq_error hsend
      obtain ⟨credit, hflow, hcredit, hsend'⟩ := SendStream.writeAll_eq_error hfail
      rw [hsend']
      have hexhausted : SendStream.Exhausted
          { buf := c.controlSend.buf ++ (frame body).take credit, flow := .breaks 0 werr } :=
        ⟨werr, rfl⟩
      refine ⟨(frame body).take credit, rfl, ?_, Or.inr hexhausted⟩
      cases h with
      | whole hmsgs hbytes =>
          refine cut hmsgs (by rw [hbytes]) hencode (List.take_prefix _ _) ?_ hexhausted
          intro heq
          have hlen := congrArg List.length heq
          rw [List.length_take] at hlen
          omega
      | cut hmsgs hbytes hbody htail hne hdone =>
          -- nothing comes behind the beginning of a frame
          obtain ⟨e', he'⟩ := hdone
          rw [hflow, Flow.breaks.injEq] at he'
          rw [he'.1, List.take_zero, List.append_nil]
          exact cut hmsgs hbytes hbody htail hne hexhausted

end Written

/-! ### The machine -/

/-- What may befall one side beside the bytes of the other: its control stream ends, is reset, waits
for credit or is stopped, a data stream arrives, the other side is gone. -/
def NetEvent.Befalls : NetEvent → Prop
  | .control _ => False
  | .controlFinish | .controlReset _ | .controlFlow _ | .dataStream _ | .dataFlow _
  | .peerClose => True

instance (e : NetEvent) : Decidable e.Befalls :=
  match e with
  | .control _ => isFalse id
  | .controlFinish | .controlReset _ | .controlFlow _ | .dataStream _ | .dataFlow _
  | .peerClose => isTrue trivial

/-- The connection after the network has taken the first `n` bytes of what it has written. -/
def BxpConnection.taken (n : ℕ) (c : BxpConnection side) : BxpConnection side :=
  { c with controlSend := { c.controlSend with buf := c.controlSend.buf.drop n } }

/-- A connection with both its ends, watched. -/
structure Link where
  client : Asking
  server : Serving

namespace Link

/-- A connection just established. -/
def start : Link where
  client := .connected (opened .client)
  server := .accepted (opened .server)

/-- The application of the client makes a call, or polls the one it awaits, the task of the server
goes on, something befalls one side, or the network delivers some bytes. -/
inductive Event
  | call (call : ClientCall)
  | poll
  | serve
  | clientNet (e : NetEvent)
  | serverNet (e : NetEvent)
  | deliverRequest (n : ℕ)
  | deliverResponse (n : ℕ)

/-- The client after the network has taken `n` bytes from it. -/
def takeFromClient (n : ℕ) (s : Asking) : Asking := { s with conn := s.conn.taken n }

/-- The server after the network has taken `n` bytes from it. -/
def takeFromServer (n : ℕ) (s : Serving) : Serving :=
  { s with log := { s.log with loop := { s.log.loop with conn := s.conn.taken n } } }

/-- The machine of a connection on which things go wrong. -/
def step (C : Capnp.Serializer) (router : BxpRouter) (s : Link) : Event → Option Link
  | .call call => (s.client.step C (.call call)).map fun client => { s with client := client }
  | .poll => (s.client.step C .poll).map fun client => { s with client := client }
  | .serve => (s.server.step C router .advance).map fun server => { s with server := server }
  | .clientNet e =>
      if e.Befalls then
        (s.client.step C (.net e)).map fun client => { s with client := client }
      else none
  | .serverNet e =>
      if e.Befalls then
        (s.server.step C router (.net e)).map fun server => { s with server := server }
      else none
  | .deliverRequest n =>
      let buf := s.client.conn.controlSend.buf
      if 0 < n ∧ n ≤ buf.length ∧ s.server.conn.controlRecv.ended = none then
        (s.server.step C router (.net (.control (buf.take n)))).map fun server =>
          { client := takeFromClient n s.client, server := server }
      else none
  | .deliverResponse n =>
      let buf := s.server.conn.controlSend.buf
      if 0 < n ∧ n ≤ buf.length ∧ s.client.conn.controlRecv.ended = none then
        (s.client.step C (.net (.control (buf.take n)))).map fun client =>
          { client := client, server := takeFromServer n s.server }
      else none

/-! ### The invariant -/

/-- The encoding of a request. -/
def encodedRequest (C : Capnp.Serializer) (req : BxpRequest) : Except BxpError (List UInt8) :=
  encodeRequest C req.reqId req.action req.uri

/-- The encoding of a response. -/
def encodedResponse (C : Capnp.Serializer) (resp : BxpResponse) : Except BxpError (List UInt8) :=
  encodeResponse C resp.reqId resp.status

/-- Both transcripts are faithful, the requests received are in line with the calls that read them,
and the bytes that have arrived, with those on the way behind them, are what the other side has
written. -/
structure Inv (C : Capnp.Serializer) (s : Link) : Prop where
  server_heard : s.server.heard.Faithful maxControlMsg (decodeRequest C) s.server.conn
  client_heard : s.client.heard.Faithful maxHeader (decodeResponse C) s.client.conn
  routed : s.server.Routed
  requests : Written (encodedRequest C) s.client.asked
    (s.server.heard.arrived ++ s.client.conn.controlSend.buf) s.client.conn.controlSend
  responses : Written (encodedResponse C) s.server.sent
    (s.client.heard.arrived ++ s.server.conn.controlSend.buf) s.server.conn.controlSend

theorem inv_start (C : Capnp.Serializer) : Inv C start where
  server_heard := Transcript.faithful_start _
  client_heard := Transcript.faithful_start _
  routed := ⟨rfl, rfl⟩
  requests := .whole List.Forall₂.nil rfl
  responses := .whole List.Forall₂.nil rfl

end Link

namespace Written

variable {encode : α → Except BxpError (List UInt8)} {msgs : List α} {written : List UInt8}

/-- What is written stays as it is when the stream stays exhausted once it is. -/
theorem mono {send send' : SendStream} (h : Written encode msgs written send)
    (hsend : send.Exhausted → send'.Exhausted) : Written encode msgs written send' := by
  cases h with
  | whole hmsgs hbytes => exact whole hmsgs hbytes
  | cut hmsgs hbytes hbody htail hne hexhausted =>
      exact cut hmsgs hbytes hbody htail hne (hsend hexhausted)

end Written

/-- What arrives does not change what a side has written, and a stream that takes nothing more goes
on to take nothing. -/
theorem BxpConnection.controlSend_onNet (c : BxpConnection side) (e : NetEvent) :
    (c.onNet e).controlSend.buf = c.controlSend.buf ∧
      (c.controlSend.Exhausted → (c.onNet e).controlSend.Exhausted) := by
  refine ⟨(keeps_onNet c e).2.2.1, ?_⟩
  rintro ⟨err, herr⟩
  cases e with
  | controlFlow flow =>
      rw [onNet, herr]
      exact ⟨err, herr⟩
  | peerClose => exact ⟨.connectionLost, rfl⟩
  | _ => exact ⟨err, herr⟩

/-- What befalls a side brings no bytes. -/
theorem Transcript.net_befalls (tr : Transcript α) {e : NetEvent} (h : e.Befalls)
    (c : BxpConnection side) : tr.net c e = tr := by
  cases e with
  | control bytes => exact h.elim
  | _ => rfl

/-- What a step of a server does to the stream of its responses. -/
theorem Serving.Moves.controlSend {s t : Serving} (hmove : Serving.Moves C router s .advance t) :
    t.sent = s.sent ∧ t.conn.controlSend = s.conn.controlSend ∨
      ∃ (resp : BxpResponse) (r : Except BxpError Unit),
        BxpServerConnection.sendResponse C resp.reqId resp.status s.conn = some (r, t.conn) ∧
          t.sent = match r with
            | .ok () => s.sent ++ [resp]
            | .error _ => s.sent := by
  have hreceive : ∀ {r c}, BxpServerConnection.receiveRequest C s.conn = some (r, c) →
      c.controlSend = s.conn.controlSend := by
    intro r c hrecv
    obtain ⟨-, hsend, -⟩ := (BxpServerConnection.keeps_receiveRequest C).unread hrecv
    exact hsend
  cases hmove with
  | request htask hrecv => exact Or.inl ⟨rfl, hreceive hrecv⟩
  | noRequest htask hrecv => exact Or.inl ⟨rfl, hreceive hrecv⟩
  | handlerReceives htask hrecv => exact Or.inl ⟨rfl, hreceive hrecv⟩
  | responds htask hsend => exact Or.inr ⟨⟨_, _⟩, .ok (), hsend, rfl⟩
  | respondFails htask hsend => exact Or.inr ⟨⟨_, _⟩, .error _, hsend, rfl⟩
  | call htask hcall hsend hrecv => exact Or.inl ⟨rfl, HandlerProg.controlSend_step hcall hsend⟩
  | returned htask =>
      refine Or.inl ⟨rfl, ?_⟩
      show (s.log.note C _ .advance).loop.conn.controlSend = _
      rw [ServeLog.note_loop]
      rfl
  | panicked htask => exact Or.inl ⟨rfl, rfl⟩
  | closed htask hwait =>
      have hkeep := (Prod.mk.inj (keeps_onQuic_control _ hwait)).1
      exact Or.inl ⟨rfl, hkeep⟩

/-- What a call of a client does to the stream of its requests. -/
theorem Asking.Moves.controlSend {s t : Asking} {e : ClientEvent} (hmove : Asking.Moves C s e t)
    (he : ∀ e', e ≠ .net e') :
    t.asked = s.asked ∧ t.conn.controlSend = s.conn.controlSend ∨
      ∃ (req : BxpRequest) (r : Except BxpError Unit),
        BxpClientConnection.sendRequest C req.reqId req.action req.uri s.conn
            = some (r, t.conn) ∧
          t.asked = match r with
            | .ok () => s.asked ++ [req]
            | .error _ => s.asked := by
  cases hmove with
  | net e => exact absurd rfl (he e)
  | asks hpolled hsend => exact Or.inr ⟨⟨_, _, _⟩, .ok (), hsend, rfl⟩
  | askFails hpolled hsend => exact Or.inr ⟨⟨_, _, _⟩, .error _, hsend, rfl⟩
  | hears hpolled hrecv =>
      obtain ⟨-, hsend, -⟩ := (BxpClientConnection.keeps_receiveResponse C).unread hrecv
      exact Or.inl ⟨rfl, hsend⟩
  | waits hpolled hrun => exact Or.inl ⟨rfl, rfl⟩
  | other hpolled hsend hread => exact Or.inl ⟨rfl, hsend⟩

namespace Link

variable {s t : Link}

/-- Sending a request is writing the frame of its encoding. -/
theorem sendRequest_eq (req : BxpRequest) :
    BxpClientConnection.sendRequest C req.reqId req.action req.uri
      = (Async.ofExcept (encodedRequest C req) >>= fun message =>
          writeControl (frameMessage message)) := rfl

/-- Sending a response is writing the frame of its encoding. -/
theorem sendResponse_eq (resp : BxpResponse) :
    BxpServerConnection.sendResponse C resp.reqId resp.status
      = (Async.ofExcept (encodedResponse C resp) >>= fun message =>
          writeControl (frameMessage message)) := rfl

/-- **The application makes a call**, or polls one. -/
theorem Inv.client (h : Inv C s) {e : ClientEvent} (hother : ∀ e', e ≠ .net e') {client : Asking}
    (hclient : s.client.step C e = some client) : Inv C { s with client := client } := by
  have hmove := Asking.moves_of_step hclient
  refine ⟨h.server_heard, hmove.faithful h.client_heard, h.routed, ?_, ?_⟩
  · rcases hmove.controlSend hother with ⟨hasked, hsend⟩ | ⟨req, r, hsend, hasked⟩
    · dsimp only
      rw [hasked, hsend]
      exact h.requests
    · rw [sendRequest_eq] at hsend
      cases r with
      | ok u =>
          obtain ⟨body, hbuf, -, hwritten⟩ := h.requests.send_ok hsend
          dsimp only
          rw [hasked, hbuf, ← List.append_assoc]
          exact hwritten
      | error err =>
          obtain ⟨w, hbuf, hwritten, -⟩ := h.requests.send_error hsend
          dsimp only
          rw [hasked, hbuf, ← List.append_assoc]
          exact hwritten
  · rw [(hmove.arrived hother).1]
    exact h.responses

/-- **The task of the server goes on.** -/
theorem Inv.serve (hrouter : router.NeverReceives) (h : Inv C s)
    (hstep : s.step C router .serve = some t) : Inv C t := by
  obtain ⟨server, hserver, rfl⟩ := Option.map_eq_some_iff.1 hstep
  have hmove := Serving.moves_of_step hserver
  refine ⟨hmove.faithful h.server_heard, h.client_heard, h.routed.step hrouter hmove, ?_, ?_⟩
  · rw [hmove.arrived.1]
    exact h.requests
  · rcases hmove.controlSend with ⟨hsent, hsend⟩ | ⟨resp, r, hsend, hsent⟩
    · dsimp only
      rw [hsent, hsend]
      exact h.responses
    · rw [sendResponse_eq] at hsend
      cases r with
      | ok u =>
          obtain ⟨body, hbuf, -, hwritten⟩ := h.responses.send_ok hsend
          dsimp only
          rw [hsent, hbuf, ← List.append_assoc]
          exact hwritten
      | error err =>
          obtain ⟨w, hbuf, hwritten, -⟩ := h.responses.send_error hsend
          dsimp only
          rw [hsent, hbuf, ← List.append_assoc]
          exact hwritten

/-- **Something befalls the client.** -/
theorem Inv.clientNet (h : Inv C s) {e : NetEvent}
    (hstep : s.step C router (.clientNet e) = some t) : Inv C t := by
  rw [step] at hstep
  split at hstep
  · next hbefalls =>
      obtain ⟨client, hclient, rfl⟩ := Option.map_eq_some_iff.1 hstep
      have hmove := Asking.moves_of_step hclient
      obtain ⟨hbuf, hexhausted⟩ := controlSend_onNet s.client.conn e
      refine ⟨h.server_heard, hmove.faithful h.client_heard, h.routed, ?_, ?_⟩
      · cases hmove with
        | net =>
            dsimp only
            rw [hbuf]
            exact h.requests.mono hexhausted
        | _ hpolled => cases hpolled
      · cases hmove with
        | net =>
            dsimp only
            rw [Transcript.net_befalls _ hbefalls]
            exact h.responses
        | _ hpolled => cases hpolled
  · cases hstep

/-- **Something befalls the server.** -/
theorem Inv.serverNet (hrouter : router.NeverReceives) (h : Inv C s) {e : NetEvent}
    (hstep : s.step C router (.serverNet e) = some t) : Inv C t := by
  rw [step] at hstep
  split at hstep
  · next hbefalls =>
      obtain ⟨server, hserver, rfl⟩ := Option.map_eq_some_iff.1 hstep
      have hmove := Serving.moves_of_step hserver
      obtain ⟨hbuf, hexhausted⟩ := controlSend_onNet s.server.conn e
      refine ⟨hmove.faithful h.server_heard, h.client_heard, h.routed.step hrouter hmove, ?_, ?_⟩
      · cases hmove with
        | net =>
            dsimp only
            rw [Transcript.net_befalls _ hbefalls]
            exact h.requests
      · cases hmove with
        | net =>
            show Written _ _ (_ ++ (s.server.conn.onNet e).controlSend.buf)
              (s.server.conn.onNet e).controlSend
            rw [hbuf]
            exact h.responses.mono hexhausted
  · cases hstep

/-- **The network delivers bytes of requests.** -/
theorem Inv.deliverRequest (hrouter : router.NeverReceives) (h : Inv C s) {n : ℕ}
    (hstep : s.step C router (.deliverRequest n) = some t) : Inv C t := by
  rw [step] at hstep
  split at hstep
  · next hn =>
      obtain ⟨hpos, hle, hended⟩ := hn
      obtain ⟨server, hserver, rfl⟩ := Option.map_eq_some_iff.1 hstep
      have hmove := Serving.moves_of_step hserver
      refine ⟨hmove.faithful h.server_heard, h.client_heard, h.routed.step hrouter hmove, ?_, ?_⟩
      · cases hmove with
        | net =>
            have harrived : (s.server.heard.net s.server.conn
                (.control (s.client.conn.controlSend.buf.take n))).arrived
                = s.server.heard.arrived ++ s.client.conn.controlSend.buf.take n := by
              rw [Transcript.net, hended]
            show Written _ _ (_ ++ s.client.conn.controlSend.buf.drop n)
              { s.client.conn.controlSend with buf := s.client.conn.controlSend.buf.drop n }
            rw [harrived, List.append_assoc, List.take_append_drop]
            exact h.requests.mono id
      · cases hmove with
        | net =>
            exact h.responses
  · cases hstep

/-- **The network delivers bytes of responses.** -/
theorem Inv.deliverResponse (h : Inv C s) {n : ℕ}
    (hstep : s.step C router (.deliverResponse n) = some t) : Inv C t := by
  rw [step] at hstep
  split at hstep
  · next hn =>
      obtain ⟨hpos, hle, hended⟩ := hn
      obtain ⟨client, hclient, rfl⟩ := Option.map_eq_some_iff.1 hstep
      have hmove := Asking.moves_of_step hclient
      refine ⟨h.server_heard, hmove.faithful h.client_heard, h.routed, ?_, ?_⟩
      · cases hmove with
        | net => exact h.requests
        | _ hpolled => cases hpolled
      · cases hmove with
        | net =>
            have harrived : (s.client.heard.net s.client.conn
                (.control (s.server.conn.controlSend.buf.take n))).arrived
                = s.client.heard.arrived ++ s.server.conn.controlSend.buf.take n := by
              rw [Transcript.net, hended]
            show Written _ _ (_ ++ s.server.conn.controlSend.buf.drop n)
              { s.server.conn.controlSend with buf := s.server.conn.controlSend.buf.drop n }
            rw [harrived, List.append_assoc, List.take_append_drop]
            exact h.responses.mono id
        | _ hpolled => cases hpolled
  · cases hstep

/-- **Every step keeps the invariant.** -/
theorem Inv.step (hrouter : router.NeverReceives) (h : Inv C s) {e : Event}
    (hstep : s.step C router e = some t) : Inv C t := by
  cases e with
  | call call =>
      obtain ⟨client, hclient, rfl⟩ := Option.map_eq_some_iff.1 hstep
      exact h.client (by simp) hclient
  | poll =>
      obtain ⟨client, hclient, rfl⟩ := Option.map_eq_some_iff.1 hstep
      exact h.client (by simp) hclient
  | serve => exact h.serve hrouter hstep
  | clientNet e => exact h.clientNet hstep
  | serverNet e => exact h.serverNet hrouter hstep
  | deliverRequest n => exact h.deliverRequest hrouter hstep
  | deliverResponse n => exact h.deliverResponse hstep

theorem inv_of_run (hrouter : router.NeverReceives) {es : List Event}
    (hrun : run (Link.step C router) start es = some s) : Inv C s := by
  refine run_inv (P := Inv C) ?_ (inv_start C) hrun
  intro s e t h hstep
  exact h.step hrouter hstep

end Link

/-! ### What is heard -/

namespace Written

variable {encode : α → Except BxpError (List UInt8)} {decode : List UInt8 → Except BxpError α}
  {msgs : List α} {written : List UInt8} {send : SendStream}

/-- What has been written are frames, and the remains of one more. -/
theorem exists_frames (h : Written encode msgs written send)
    (hsmall : ∀ a body, encode a = .ok body → body.length < 2 ^ 32) :
    ∃ bodies tail, List.Forall₂ (fun body a => encode a = .ok body) bodies msgs ∧
      written = frames bodies ++ tail ∧ Truncated (2 ^ 32 - 1) tail := by
  cases h with
  | @whole bodies hmsgs hbytes =>
      exact ⟨bodies, [], hmsgs, by rw [hbytes, List.append_nil], truncated_nil _⟩
  | @cut bodies tail a body hmsgs hbytes hbody htail hne _ =>
      have hlt := hsmall a body hbody
      exact ⟨bodies, tail, hmsgs, hbytes, body, by omega, htail, hne⟩

/-- **What is heard of it** are the first of the messages. -/
theorem oks_prefix (h : Written encode msgs written send)
    (hsmall : ∀ a body, encode a = .ok body → body.length < 2 ^ 32) {limit : ℕ}
    (hdecode : ∀ a body, encode a = .ok body → body.length ≤ limit → decode body = .ok a)
    {arrived : List UInt8} (harrived : arrived <+: written) :
    oks ((scan limit arrived).map (itemResult decode)) <+: msgs := by
  obtain ⟨bodies, tail, hmsgs, rfl, htail⟩ := h.exists_frames hsmall
  have hscan : scan limit arrived <+: scan limit (frames bodies ++ tail) := scan_prefix harrived
  have hoks := LengthPrefix.oks_prefix (hscan.map (itemResult decode))
  refine hoks.trans (oks_scan_frames (itemResult_oversized decode) ?_ htail)
  exact hmsgs.imp fun body a hbody => ⟨hsmall a body hbody, hdecode a body hbody⟩

/-- **All the messages are heard** once everything has arrived, if none is too long. -/
theorem oks_eq (h : Written encode msgs written send)
    (hsmall : ∀ a body, encode a = .ok body → body.length < 2 ^ 32) {limit : ℕ}
    (hlimit : limit < 2 ^ 32)
    (hdecode : ∀ a body, encode a = .ok body → body.length ≤ limit → decode body = .ok a)
    (hlen : ∀ a ∈ msgs, ∀ body, encode a = .ok body → body.length ≤ limit) :
    oks ((scan limit written).map (itemResult decode)) = msgs := by
  obtain ⟨bodies, tail, hmsgs, rfl, htail⟩ := h.exists_frames hsmall
  refine oks_scan_frames_eq (itemResult_oversized decode) hlimit ?_ htail
  refine List.forall₂_iff_get.2 ⟨hmsgs.length_eq, ?_⟩
  intro i hbody hmsg
  have hencode := hmsgs.get hbody hmsg
  have hle := hlen _ (List.get_mem msgs ⟨i, hmsg⟩) _ hencode
  exact ⟨hle, hdecode _ _ hencode hle⟩

/-- A reader without a limit hears each of the messages. -/
theorem scan_eq (h : Written encode msgs written send)
    (hdecode : ∀ a body, encode a = .ok body → body.length ≤ maxHeader ∧ decode body = .ok a) :
    (scan maxHeader written).map (itemResult decode) = msgs.map .ok := by
  have hmax : maxHeader < 2 ^ 32 := by
    rw [maxHeader]
    omega
  obtain ⟨bodies, tail, hmsgs, rfl, htail⟩ := h.exists_frames fun a body hbody =>
    lt_of_le_of_lt (hdecode a body hbody).1 hmax
  refine map_scan_frames hmax ?_ htail
  refine hmsgs.imp ?_
  intro body a hbody
  exact hdecode a body hbody

end Written

/-! ### What each side hears -/

/-- The requests that can be encoded fit behind a header. -/
def RequestsFit (C : Capnp.Serializer) : Prop :=
  ∀ req body, Link.encodedRequest C req = .ok body → body.length < 2 ^ 32

/-- The texts that fit into a list of the encoding are far shorter than that. -/
theorem requestsFit_wire : RequestsFit Capnp.wire := by
  rintro ⟨reqId, action, uri⟩ body hbody
  obtain ⟨hfits, hwrite⟩ := encodeRequest_eq_ok_iff.1 hbody
  have htext : uri.utf8ByteSize + 1 < 2 ^ 29 := of_decide_eq_true hfits
  have hpointers : (buildRequest reqId action uri).size.pointers ≠ 0 := Nat.one_ne_zero
  have hdata : (buildRequest reqId action uri).size.data = 1 := rfl
  rw [Capnp.Wire.length_writeMessage hpointers hwrite, hdata, length_text_buildRequest,
    Capnp.Wire.firstSegmentWords, Capnp.Wire.textWords]
  split <;> omega

namespace Link

variable {s : Link}

/-- What is read of an encoded request. -/
theorem decode_encodedRequest (hrw : C.ReadAfterWrite maxControlMsg) (req : BxpRequest)
    (body : List UInt8) (hbody : encodedRequest C req = .ok body) (hlen : body.length ≤ maxControlMsg) :
    decodeRequest C body = .ok req :=
  decodeRequest_encodeRequest hrw hbody hlen

/-- What is read of an encoded response, which is never too long. -/
theorem decode_encodedResponse (hrw : C.ReadAfterWrite maxControlMsg) (hwd : C.WritesData)
    (resp : BxpResponse) (body : List UInt8) (hbody : encodedResponse C resp = .ok body) :
    body.length ≤ maxHeader ∧ decodeResponse C body = .ok resp := by
  obtain ⟨body', hbody', hlen⟩ := encodeResponse_ok hwd resp.reqId resp.status
  obtain rfl : body = body' := Except.ok.inj (hbody.symm.trans hbody')
  refine ⟨?_, decodeResponse_encodeResponse hrw hbody ?_⟩
  · rw [hlen, maxHeader]
    omega
  · rw [hlen, maxControlMsg]
    omega

/-- **The requests that reach a handler** are the first of those sent. -/
theorem Inv.received_prefix (h : Inv C s) (hrw : C.ReadAfterWrite maxControlMsg)
    (hfit : RequestsFit C) : s.server.log.received <+: s.client.asked := by
  rw [← h.routed.oks]
  refine (Follows.oks_prefix h.server_heard fun r hr => hr.fails).trans ?_
  exact h.requests.oks_prefix hfit (decode_encodedRequest hrw) (List.prefix_append _ _)

/-- **They are all of them** when the loop has read everything, or has met an error on a stream that
was not reset. -/
theorem Inv.received_eq (h : Inv C s) (hrw : C.ReadAfterWrite maxControlMsg) (hfit : RequestsFit C)
    (hempty : s.client.conn.controlSend.buf = [])
    (hlimit : ∀ req ∈ s.client.asked, WithinLimit C req.reqId req.action req.uri)
    (hread : BxpServerConnection.receiveRequest C s.server.conn = none ∨
      s.server.log.loop.task = .waiting ∧ ¬ s.server.conn.controlRecv.WasReset) :
    s.server.log.received = s.client.asked := by
  have hrequests := h.requests
  rw [hempty, List.append_nil] at hrequests
  have hall : oks s.server.heard.results
      = oks ((scan maxControlMsg s.server.heard.arrived).map (itemResult (decodeRequest C))) := by
    rcases hread with hpending | ⟨htask, hreset⟩
    · rw [Follows.of_pending (scans_requestReader C) (s := s.server.conn) h.server_heard hpending]
    · exact h.routed.oks_of_waiting h.server_heard hreset htask
  rw [← h.routed.oks, hall]
  refine hrequests.oks_eq hfit ?_ (decode_encodedRequest hrw) ?_
  · rw [maxControlMsg]
    omega
  · intro req hreq body hbody
    obtain ⟨body', hbody', hle⟩ := hlimit req hreq
    obtain rfl : body = body' := Except.ok.inj (hbody.symm.trans hbody')
    exact hle

/-- **The responses the client gets** are the first of those sent, and then only failures. -/
theorem Inv.got_prefix (h : Inv C s) (hrw : C.ReadAfterWrite maxControlMsg) (hwd : C.WritesData) :
    ∃ got fails, s.client.heard.results = got.map .ok ++ fails ∧ got <+: s.server.sent ∧
      ∀ r ∈ fails, ReadFails r := by
  obtain ⟨items, fails, hresults, hitems, hfails, -⟩ := h.client_heard.exists_items
  have hscan : scan maxHeader s.client.heard.arrived
      <+: scan maxHeader (s.client.heard.arrived ++ s.server.conn.controlSend.buf) :=
    scan_prefix (List.prefix_append _ _)
  have hmap := (hitems.trans hscan).map (itemResult (decodeResponse C))
  rw [h.responses.scan_eq (decode_encodedResponse hrw hwd)] at hmap
  obtain ⟨got, hgot, hsent⟩ := List.prefix_map_iff.1 hmap
  exact ⟨got, fails, by rw [hresults, hsent], hgot, hfails⟩

/-- **They are all of them** when the client waits for more. -/
theorem Inv.got_eq (h : Inv C s) (hrw : C.ReadAfterWrite maxControlMsg) (hwd : C.WritesData)
    (hempty : s.server.conn.controlSend.buf = [])
    (hpending : BxpClientConnection.receiveResponse C s.client.conn = none) :
    s.client.heard.results = s.server.sent.map .ok := by
  have hresponses := h.responses
  rw [hempty, List.append_nil] at hresponses
  rw [Follows.of_pending (scans_responseReader C) (s := s.client.conn) h.client_heard hpending]
  exact hresponses.scan_eq (decode_encodedResponse hrw hwd)

end Link

/-- **Each side hears the first messages of the other.**  Whatever calls the application of the client
makes, each awaited to its end, whatever befalls either side, and however the bytes are delivered: if
the handlers leave the control stream to the loop, the requests that reach a handler are the first of
those sent, in order, and `receive_response` returns the first of the responses that the handlers
have sent, in order, and then only failures of the stream.  When everything written has been
delivered and a side waits for more, or the loop has met the end of a stream that was not reset, it
has heard all of it, unless a request was too long. -/
theorem link_safe {C : Capnp.Serializer} {router : BxpRouter}
    (hrw : C.ReadAfterWrite maxControlMsg) (hwd : C.WritesData) (hfit : RequestsFit C)
    (hrouter : router.NeverReceives) {es : List Link.Event} {s : Link}
    (hrun : run (Link.step C router) .start es = some s) :
    s.server.log.received <+: s.client.asked ∧
      (s.client.conn.controlSend.buf = [] →
        (∀ req ∈ s.client.asked, WithinLimit C req.reqId req.action req.uri) →
        BxpServerConnection.receiveRequest C s.server.conn = none ∨
          s.server.log.loop.task = .waiting ∧ ¬ s.server.conn.controlRecv.WasReset →
        s.server.log.received = s.client.asked) ∧
      (∃ got fails, s.client.heard.results = got.map .ok ++ fails ∧ got <+: s.server.sent ∧
        ∀ r ∈ fails, ReadFails r) ∧
      (s.server.conn.controlSend.buf = [] →
        BxpClientConnection.receiveResponse C s.client.conn = none →
        s.client.heard.results = s.server.sent.map .ok) := by
  have hinv := Link.inv_of_run hrouter hrun
  refine ⟨hinv.received_prefix hrw hfit, ?_, hinv.got_prefix hrw hwd, ?_⟩
  · intro hempty hlimit hread
    exact hinv.received_eq hrw hfit hempty hlimit hread
  · intro hempty hpending
    exact hinv.got_eq hrw hwd hempty hpending

/-- A router for one request to push something. -/
def pushedRouter : BxpRouter := BxpRouter.new.route .push "bxp://x" handlePing

theorem neverReceives_pushedRouter : pushedRouter.NeverReceives :=
  BxpRouter.neverReceives_new.route .push "bxp://x" fun _ _ => trivial

/-- The request of the client is cut in two on its way, and reaches the router. -/
def arrivingRun : List Link.Event :=
  [.call (.sendRequest 7 .push "bxp://x"), .deliverRequest 9, .deliverRequest 35, .serve]

/-- It is answered, and the client has the response.  Of a second request only a part has arrived
when its stream is reset, and that of the responses is stopped and ends. -/
def brokenRun : List Link.Event :=
  arrivingRun ++ [.serve, .serve, .deliverResponse 28, .call .receiveResponse,
    .call (.sendRequest 8 .push "bxp://x"), .deliverRequest 30, .serverNet (.controlReset 0),
    .serverNet (.controlFlow (.stops 10 0)), .serve, .clientNet .controlFinish,
    .call .receiveResponse]

/-- The request as the server receives it. -/
def pushedRequest : BxpRequest := { reqId := 7, action := .push, uri := "bxp://x" }

/-- The connection while the request is handled, with what its handler has still to do. -/
def handlingPushed (prog : HandlerProg) : Link where
  client := { Asking.connected (opened .client) with asked := [pushedRequest] }
  server := {
    log := {
      loop := { conn := (opened .server).withMsgBuf pushMessage.length, task := .handling prog }
      current := some (pushedRequest, 0)
      handled := [] }
    heard := { arrived := frame pushMessage, results := [.ok pushedRequest] }
    sent := [] }

theorem run_arrivingRun :
    run (Link.step Capnp.wire pushedRouter) .start arrivingRun
      = some (handlingPushed (pushedRouter.handleRequest pushedRequest)) := rfl

theorem handleRequest_pushedRequest :
    pushedRouter.handleRequest pushedRequest = handlePing pushedRequest := by
  rw [BxpRouter.handleRequest, pushedRouter, BxpRouter.lookup_route]
  rfl

/-- The run goes to its end. -/
theorem exists_brokenRun :
    ∃ s, run (Link.step Capnp.wire pushedRouter) .start brokenRun = some s ∧
      s.server.log.received = [pushedRequest] ∧
      s.client.heard.results = [.ok ⟨7, .success⟩, .error (.readExact (.finishedEarly 0))] := by
  rw [brokenRun, run_append, run_arrivingRun, handleRequest_pushedRequest]
  exact ⟨_, rfl, rfl, rfl⟩

/-- What is safe on that connection. -/
theorem link_safe_broken :
    ∃ s : Link, run (Link.step Capnp.wire pushedRouter) .start brokenRun = some s ∧
      s.server.log.received = [pushedRequest] ∧ s.server.log.received <+: s.client.asked := by
  obtain ⟨s, hrun, hreceived, -⟩ := exists_brokenRun
  exact ⟨s, hrun, hreceived, (link_safe wire_readAfterWrite_maxControlMsg Capnp.wire_writesData
    requestsFit_wire neverReceives_pushedRouter hrun).1⟩

/-! ### Responses in their places -/

namespace HandlerProg

/-- The handler sends no response, and leaves the control stream to the loop. -/
def SendsNone : HandlerProg → Prop
  | done _ | panic => True
  | sendDataStream _ _ next => ∀ r, SendsNone (next r)
  | readDataStream next => ∀ r, SendsNone (next r)
  | waitForClose next => ∀ r, SendsNone (next r)
  | sendResponse _ _ _ | receiveRequest _ => False

/-- The handler sends one response, for this request, before it returns; when that fails, it may try
again.  It leaves the control stream to the loop. -/
def SendsOne (reqId : UInt32) : HandlerProg → Prop
  | done _ | receiveRequest _ => False
  | panic => True
  | sendResponse id _ next =>
      id = reqId ∧ (next (.ok ())).SendsNone ∧ ∀ e, (next (.error e)).NeverReceives
  | sendDataStream _ _ next => ∀ r, SendsOne reqId (next r)
  | readDataStream next => ∀ r, SendsOne reqId (next r)
  | waitForClose next => ∀ r, SendsOne reqId (next r)

theorem SendsNone.neverReceives {prog : HandlerProg} (h : prog.SendsNone) : prog.NeverReceives := by
  induction prog with
  | done result => trivial
  | panic => trivial
  | sendResponse reqId status next ih => exact h.elim
  | receiveRequest next ih => exact h.elim
  | sendDataStream reqId reader next ih => exact fun r => ih r (h r)
  | readDataStream next ih => exact fun r => ih r (h r)
  | waitForClose next ih => exact fun r => ih r (h r)

theorem SendsOne.neverReceives {reqId : UInt32} {prog : HandlerProg} (h : prog.SendsOne reqId) :
    prog.NeverReceives := by
  induction prog with
  | done result => trivial
  | panic => trivial
  | sendResponse id status next ih =>
      intro r
      cases r with
      | ok u => exact h.2.1.neverReceives
      | error e => exact h.2.2 e
  | receiveRequest next ih => exact h.elim
  | sendDataStream id reader next ih => exact fun r => ih r (h r)
  | readDataStream next ih => exact fun r => ih r (h r)
  | waitForClose next ih => exact fun r => ih r (h r)

variable {prog prog' : HandlerProg} {c c' : BxpServerConnection}

/-- Another call leaves it that way. -/
theorem SendsNone.of_step (h : prog.SendsNone) (hcall : prog.step C c = some (prog', c')) :
    prog'.SendsNone := by
  cases prog with
  | done result => cases hcall
  | panic => cases hcall
  | sendResponse id status next => exact h.elim
  | receiveRequest next => exact h.elim
  | _ =>
      obtain ⟨r, -, rfl⟩ := call_eq_some.1 hcall
      exact h r

/-- A call that is not `send_response` leaves the response to be sent. -/
theorem SendsOne.of_step {reqId : UInt32} (h : prog.SendsOne reqId)
    (hcall : prog.step C c = some (prog', c'))
    (hsend : ∀ id status next, prog ≠ sendResponse id status next) : prog'.SendsOne reqId := by
  cases prog with
  | done result => cases hcall
  | panic => cases hcall
  | sendResponse id status next => exact absurd rfl (hsend id status next)
  | receiveRequest next => exact h.elim
  | _ =>
      obtain ⟨r, -, rfl⟩ := call_eq_some.1 hcall
      exact h r

end HandlerProg

/-- A router all of whose handlers send one response, for their request. -/
def BxpRouter.SendsOne (router : BxpRouter) : Prop :=
  ∀ action uri handler, router.lookup action uri = some handler →
    ∀ req, (handler req).SendsOne req.reqId

theorem BxpRouter.SendsOne.neverReceives (h : router.SendsOne) : router.NeverReceives :=
  fun action uri handler hlookup req => (h action uri handler hlookup req).neverReceives

theorem BxpRouter.sendsOne_new : new.SendsOne := by
  intro action uri handler hlookup
  rw [lookup_new] at hlookup
  cases hlookup

theorem BxpRouter.SendsOne.route (h : router.SendsOne) (action : BxpAction) (uri : String)
    {handler : BxpHandler} (hhandler : ∀ req, (handler req).SendsOne req.reqId) :
    (router.route action uri handler).SendsOne :=
  forall_lookup_route (P := fun handler => ∀ req, (handler req).SendsOne req.reqId) h action uri
    hhandler

theorem BxpRouter.SendsOne.handleRequest (h : router.SendsOne) (req : BxpRequest) :
    (router.handleRequest req).SendsOne req.reqId := by
  rw [BxpRouter.handleRequest]
  cases hlookup : router.lookup req.action req.uri with
  | none => exact ⟨rfl, trivial, fun e => trivial⟩
  | some handler => exact h _ _ _ hlookup req

namespace Serving

/-- The identifiers of the requests received. -/
def receivedIds (s : Serving) : List UInt32 := s.log.received.map BxpRequest.reqId

/-- The identifiers of the responses sent. -/
def sentIds (s : Serving) : List UInt32 := s.sent.map BxpResponse.reqId

/-- The responses sent are those of the requests received, but for the request that is being
handled. -/
def UpToDate (s : Serving) : Prop :=
  match s.log.loop.task with
  | .receiving | .waiting => s.sentIds = s.receivedIds
  | .handling prog => ∃ req start, s.log.current = some (req, start) ∧
      (prog.SendsNone ∧ s.sentIds = s.receivedIds ∨
        prog.SendsOne req.reqId ∧ s.sentIds ++ [req.reqId] = s.receivedIds)
  | .ended => s.sentIds <+: s.receivedIds

/-- Each response sent is in the place of its request; once a write has failed, no more is sent. -/
def InTurn (s : Serving) : Prop :=
  s.UpToDate ∨ s.conn.controlSend.Exhausted ∧ s.sentIds <+: s.receivedIds

variable {s t : Serving}

theorem UpToDate.inOrder (h : s.UpToDate) : s.sentIds <+: s.receivedIds := by
  unfold UpToDate at h
  split at h
  · exact ⟨[], by rw [h, List.append_nil]⟩
  · exact ⟨[], by rw [h, List.append_nil]⟩
  · obtain ⟨req, start, -, ⟨-, heq⟩ | ⟨-, heq⟩⟩ := h
    · exact ⟨[], by rw [heq, List.append_nil]⟩
    · exact ⟨[req.reqId], heq⟩
  · exact h

theorem InTurn.inOrder (h : s.InTurn) : s.sentIds <+: s.receivedIds := by
  rcases h with huptodate | ⟨-, hfirst⟩
  · exact huptodate.inOrder
  · exact hfirst

/-- The identifier of a request that is received comes behind the others. -/
theorem receivedIds_request (hcurrent : s.log.current = none) {req : BxpRequest} {start : ℕ}
    {loop : ServeLoop} {heard : Transcript BxpRequest} :
    receivedIds { s with
      log := { s.log with loop := loop, current := some (req, start) }, heard := heard }
      = s.receivedIds ++ [req.reqId] := by
  rw [receivedIds, received_request hcurrent, List.map_append]
  rfl

/-- A handler that returns does not change them. -/
theorem receivedIds_returned {result : Except BxpError Unit}
    (htask : s.log.loop.task = .handling (.done result)) (hsome : s.log.current.isSome)
    (loop : ServeLoop) :
    receivedIds { s with log := s.log.note C loop .advance } = s.receivedIds := by
  rw [receivedIds, received_returned htask hsome, receivedIds]

/-- **A step of a server up to date** leaves it so, or a write has failed. -/
theorem UpToDate.advance (hrouter : router.SendsOne)
    (hfails : ∀ (resp : BxpResponse) e c, BxpServerConnection.sendResponse C resp.reqId resp.status
      s.conn = some (.error e, c) → c.controlSend.Exhausted)
    (hrouted : s.Routed) (h : s.UpToDate) (hmove : Moves C router s .advance t) : t.InTurn := by
  have hfirst := h.inOrder
  cases hmove with
  | @request req c htask hrecv =>
      rw [UpToDate, htask] at h
      rw [Routed, htask] at hrouted
      refine Or.inl ⟨req, _, rfl, Or.inr ⟨hrouter.handleRequest req, ?_⟩⟩
      rw [receivedIds_request hrouted.1, ← h]
      rfl
  | noRequest htask hrecv =>
      rw [UpToDate, htask] at h
      exact Or.inl h
  | handlerReceives htask hrecv =>
      rw [UpToDate, htask] at h
      obtain ⟨req, start, -, ⟨hnone, -⟩ | ⟨hone, -⟩⟩ := h
      · exact hnone.elim
      · exact hone.elim
  | @responds reqId status next c htask hsend =>
      rw [UpToDate, htask] at h
      obtain ⟨req, start, hcurrent, ⟨hnone, -⟩ | ⟨⟨rfl, hnext, -⟩, heq⟩⟩ := h
      · exact hnone.elim
      · refine Or.inl ⟨req, start, hcurrent, Or.inl ⟨hnext, ?_⟩⟩
        rw [sentIds, List.map_append]
        exact heq
  | respondFails htask hsend => exact Or.inr ⟨hfails ⟨_, _⟩ _ _ hsend, hfirst⟩
  | call htask hcall hsend hrecv =>
      rw [UpToDate, htask] at h
      obtain ⟨req, start, hcurrent, ⟨hnone, heq⟩ | ⟨hone, heq⟩⟩ := h
      · exact Or.inl ⟨req, start, hcurrent, Or.inl ⟨hnone.of_step hcall, heq⟩⟩
      · exact Or.inl ⟨req, start, hcurrent, Or.inr ⟨hone.of_step hcall hsend, heq⟩⟩
  | returned htask =>
      rw [UpToDate, htask] at h
      obtain ⟨req, start, hcurrent, ⟨-, heq⟩ | ⟨hone, -⟩⟩ := h
      · refine Or.inl ?_
        have hsome : s.log.current.isSome := by
          rw [hcurrent]
          rfl
        have hids := receivedIds_returned (C := C) htask hsome { s.log.loop with task := .receiving }
        rw [UpToDate, ServeLog.note_loop]
        exact heq.trans hids.symm
      · exact hone.elim
  | panicked htask => exact Or.inl hfirst
  | closed htask hwait => exact Or.inl hfirst

/-- **A step of a server whose writes fail** sends nothing. -/
theorem advance_exhausted
    (hopen : ∀ (resp : BxpResponse) c, BxpServerConnection.sendResponse C resp.reqId resp.status
      s.conn = some (.ok (), c) → ¬ s.conn.controlSend.Exhausted)
    (hfails : ∀ (resp : BxpResponse) e c, BxpServerConnection.sendResponse C resp.reqId resp.status
      s.conn = some (.error e, c) → c.controlSend.Exhausted)
    (hrouted : s.Routed) (hexhausted : s.conn.controlSend.Exhausted)
    (hfirst : s.sentIds <+: s.receivedIds) (hmove : Moves C router s .advance t) :
    t.conn.controlSend.Exhausted ∧ t.sentIds <+: t.receivedIds := by
  have hsend := hmove.controlSend
  constructor
  · rcases hsend with ⟨-, hsame⟩ | ⟨resp, r, hsend, -⟩
    · rwa [hsame]
    · cases r with
      | ok u => exact absurd hexhausted (hopen resp _ hsend)
      | error e => exact hfails resp e _ hsend
  · have hsent : t.sentIds = s.sentIds := by
      rcases hsend with ⟨hsame, -⟩ | ⟨resp, r, hsend, hsame⟩
      · rw [sentIds, hsame, sentIds]
      · cases r with
        | ok u => exact absurd hexhausted (hopen resp _ hsend)
        | error e => rw [sentIds, hsame, sentIds]
    rw [hsent]
    cases hmove with
    | request htask hrecv =>
        rw [Routed, htask] at hrouted
        rw [receivedIds_request hrouted.1]
        exact hfirst.trans (List.prefix_append _ _)
    | returned htask =>
        rw [Routed, htask] at hrouted
        rwa [receivedIds_returned htask hrouted.2.1]
    | _ => exact hfirst

end Serving

namespace Link

variable {s t : Link}

/-- A response is sent on a stream that takes more. -/
theorem Inv.not_exhausted (h : Inv C s) {resp : BxpResponse} {c : BxpServerConnection}
    (hsend : BxpServerConnection.sendResponse C resp.reqId resp.status s.server.conn
      = some (.ok (), c)) : ¬ s.server.conn.controlSend.Exhausted := by
  rw [sendResponse_eq] at hsend
  obtain ⟨-, -, hopen, -⟩ := h.responses.send_ok hsend
  exact hopen

/-- When a response fails, the stream takes nothing more: the encoding never fails. -/
theorem Inv.exhausted (hwd : C.WritesData) (h : Inv C s) {resp : BxpResponse} {e : BxpError}
    {c : BxpServerConnection}
    (hsend : BxpServerConnection.sendResponse C resp.reqId resp.status s.server.conn
      = some (.error e, c)) : c.controlSend.Exhausted := by
  rw [sendResponse_eq] at hsend
  obtain ⟨-, -, -, ⟨e', he'⟩ | hexhausted⟩ := h.responses.send_error hsend
  · obtain ⟨body, hbody, -⟩ := encodeResponse_ok hwd resp.reqId resp.status
    cases he'.symm.trans hbody
  · exact hexhausted

/-- What befalls the server or arrives there leaves the responses in their places. -/
theorem inTurn_net {server server' : Serving} {e : NetEvent} (h : server.InTurn)
    (hmove : Serving.Moves C router server (.net e) server') : server'.InTurn := by
  cases hmove with
  | net =>
      rcases h with huptodate | ⟨hdone, hfirst⟩
      · exact Or.inl huptodate
      · exact Or.inr ⟨(controlSend_onNet server.conn e).2 hdone, hfirst⟩

/-- **Every step leaves the responses in their places.** -/
theorem inTurn_step (hrouter : router.SendsOne) (hwd : C.WritesData) (hinv : Inv C s)
    (h : s.server.InTurn) {e : Event} (hstep : s.step C router e = some t) : t.server.InTurn := by
  cases e with
  | call call =>
      obtain ⟨client, -, rfl⟩ := Option.map_eq_some_iff.1 hstep
      exact h
  | poll =>
      obtain ⟨client, -, rfl⟩ := Option.map_eq_some_iff.1 hstep
      exact h
  | serve =>
      obtain ⟨server, hserver, rfl⟩ := Option.map_eq_some_iff.1 hstep
      have hmove := Serving.moves_of_step hserver
      rcases h with huptodate | ⟨hdone, hfirst⟩
      · exact huptodate.advance hrouter (fun _ _ _ hsend => hinv.exhausted hwd hsend) hinv.routed
          hmove
      · exact Or.inr (Serving.advance_exhausted (fun _ _ hsend => hinv.not_exhausted hsend)
          (fun _ _ _ hsend => hinv.exhausted hwd hsend) hinv.routed hdone hfirst hmove)
  | clientNet e =>
      rw [step] at hstep
      split at hstep
      · obtain ⟨client, -, rfl⟩ := Option.map_eq_some_iff.1 hstep
        exact h
      · cases hstep
  | serverNet e =>
      rw [step] at hstep
      split at hstep
      · obtain ⟨server, hserver, rfl⟩ := Option.map_eq_some_iff.1 hstep
        exact inTurn_net h (Serving.moves_of_step hserver)
      · cases hstep
  | deliverRequest n =>
      rw [step] at hstep
      split at hstep
      · obtain ⟨server, hserver, rfl⟩ := Option.map_eq_some_iff.1 hstep
        exact inTurn_net h (Serving.moves_of_step hserver)
      · cases hstep
  | deliverResponse n =>
      rw [step] at hstep
      split at hstep
      · obtain ⟨client, -, rfl⟩ := Option.map_eq_some_iff.1 hstep
        exact h
      · cases hstep

theorem inTurn_of_run (hrouter : router.SendsOne) (hwd : C.WritesData) {es : List Event}
    (hrun : run (Link.step C router) start es = some s) : s.server.InTurn := by
  have hstart : Inv C start ∧ start.server.InTurn := ⟨inv_start C, Or.inl rfl⟩
  have hboth : Inv C s ∧ s.server.InTurn := by
    refine run_inv (P := fun s => Inv C s ∧ s.server.InTurn) ?_ hstart hrun
    rintro s e t ⟨hinv, h⟩ hstep
    exact ⟨hinv.step hrouter.neverReceives hstep, inTurn_step hrouter hwd hinv h hstep⟩
  exact hboth.2

end Link

/-- **A response belongs to the request of the same place.**  If every handler sends one response,
for its request, and leaves the control stream to the loop, then the responses that the client gets
have the identifiers of the first requests it has sent, in order.  So the client, which never compares
identifiers, can match them by counting, whatever befalls the connection. -/
theorem link_pairs {C : Capnp.Serializer} {router : BxpRouter}
    (hrw : C.ReadAfterWrite maxControlMsg) (hwd : C.WritesData) (hfit : RequestsFit C)
    (hrouter : router.SendsOne) {es : List Link.Event} {s : Link}
    (hrun : run (Link.step C router) .start es = some s) :
    ∃ (got : List BxpResponse) (fails : List (Except BxpError BxpResponse)),
      s.client.heard.results = got.map .ok ++ fails ∧ (∀ r ∈ fails, ReadFails r) ∧
      got.map BxpResponse.reqId <+: s.client.asked.map BxpRequest.reqId := by
  have hinv := Link.inv_of_run hrouter.neverReceives hrun
  obtain ⟨got, fails, hresults, hgot, hfails⟩ := hinv.got_prefix hrw hwd
  refine ⟨got, fails, hresults, hfails, ?_⟩
  have hsent := (Link.inTurn_of_run hrouter hwd hrun).inOrder
  have hreceived := hinv.received_prefix hrw hfit
  exact (hgot.map BxpResponse.reqId).trans (hsent.trans (hreceived.map BxpRequest.reqId))

theorem sendsOne_pushedRouter : pushedRouter.SendsOne :=
  BxpRouter.sendsOne_new.route .push "bxp://x" fun _ => ⟨rfl, trivial, fun _ => trivial⟩

/-- On the connection that breaks the response is in its place. -/
theorem link_pairs_broken :
    ∃ s : Link, run (Link.step Capnp.wire pushedRouter) .start brokenRun = some s ∧
      s.client.heard.results = [.ok ⟨7, .success⟩, .error (.readExact (.finishedEarly 0))] ∧
      [7] <+: s.client.asked.map BxpRequest.reqId := by
  obtain ⟨s, hrun, -, hresults⟩ := exists_brokenRun
  obtain ⟨got, fails, hgot, hfails, hpairs⟩ := link_pairs wire_readAfterWrite_maxControlMsg
    Capnp.wire_writesData requestsFit_wire sendsOne_pushedRouter hrun
  refine ⟨s, hrun, hresults, ?_⟩
  rw [hresults] at hgot
  cases got with
  | nil =>
      -- a response is no failure
      rw [List.map_nil, List.nil_append] at hgot
      obtain ⟨e, he⟩ := hfails (.ok ⟨7, .success⟩) (hgot ▸ List.mem_cons_self)
      cases he
  | cons resp got =>
      obtain ⟨hresp, -⟩ := List.cons.inj hgot
      obtain rfl := Except.ok.inj hresp
      exact (List.prefix_append [7] _).trans hpairs

end Bxp

/-
**What is heard on the control stream.**

The peer may put any bytes on the control stream, and the network cuts them anywhere.  Here both
sides are watched while that happens: what has arrived, and what every call of `receive_request` or
`receive_response` has returned, by the loop of the server or by a handler, at whatever time it was
made.  The results turn out to be a function of the bytes alone, `LengthPrefix.scan` of them.

For the loop of a server more follows.  It stops at the first error, so that nothing behind an
invalid message is ever handled: if the handlers leave the control stream to the loop, the requests
it hands to the router are those in front of the first invalid message.

Main definitions:

* `Bxp.controlBytes`, `Bxp.BxpConnection.receives` — the bytes that arrive on a control stream;
* `Bxp.itemResult`, `Bxp.requestsIn` — what the items of a stream are read as;
* `Bxp.Transcript` — what has arrived, and what has been returned;
* `Bxp.Serving`, `Bxp.Serving.step` — a server, watched; `Bxp.Serving.Moves` are its steps;
* `Bxp.Asking`, `Bxp.Asking.step` — a client, watched;
* `Bxp.HandlerProg.NeverReceives` — the handlers that leave the control stream to the loop;
* `Bxp.Serving.AtRest` — the task waits for more, or for the close of the client.

Main results:

* `Bxp.scans_requestReader`, `Bxp.scans_responseReader` — both readers obey the laws of
  `LengthPrefix.Scans`, on whatever bytes;
* `Bxp.server_hears`, `Bxp.client_hears` — **what is heard depends on the bytes alone**, not on how
  they are cut nor on when the calls are made;
* `Bxp.requests_routed` — **the loop handles the requests in front of the first invalid message**,
  in order, and no others.
-/

import BxpCore.Answers
import BxpCore.Limits
import BxpCore.StreamScan

set_option relaxedAutoImplicit false
set_option autoImplicit false

namespace Bxp

open LengthPrefix Machine BxpConnection

variable {C : Capnp.Serializer} {router : BxpRouter} {side : Side} {α : Type}

/-! ### The bytes that arrive -/

/-- The bytes that events bring to a control stream, up to its end. -/
def controlBytes : List NetEvent → List UInt8
  | [] => []
  | .control bytes :: es => bytes ++ controlBytes es
  | .controlFinish :: _ | .controlReset _ :: _ | .peerClose :: _ => []
  | .controlFlow _ :: es | .dataStream _ :: es | .dataFlow _ :: es => controlBytes es

/-- All the bytes the control stream of a connection holds, together with those that arrive, whether
a reset discards them later or not. -/
def BxpConnection.receives (c : BxpConnection side) (es : List NetEvent) : List UInt8 :=
  match c.controlRecv.ended with
  | none => c.controlRecv.unread ++ controlBytes es
  | some _ => c.controlRecv.unread

/-- What arrives at a server. -/
def ServeLoop.netEvents (es : List ServeLoop.Event) : List NetEvent :=
  es.filterMap fun e =>
    match e with
    | .net e => some e
    | .advance => none

/-- What arrives at a client. -/
def ClientEvent.netEvents (es : List ClientEvent) : List NetEvent :=
  es.filterMap fun e =>
    match e with
    | .net e => some e
    | _ => none

/-- The steps of the task bring nothing from outside. -/
theorem netEvents_append_advance (es : List ServeLoop.Event) (n : ℕ) :
    ServeLoop.netEvents (es ++ List.replicate n .advance) = ServeLoop.netEvents es := by
  rw [ServeLoop.netEvents, List.filterMap_append, List.filterMap_replicate_of_none rfl,
    List.append_nil, ServeLoop.netEvents]

/-! ### The readers, on whatever bytes -/

/-- What a reader returns for an item: the body decoded, or the error of a length that is too
large. -/
def itemResult (decode : List UInt8 → Except BxpError α) : Item → Except BxpError α
  | .body bytes => decode bytes
  | .oversized n =>
      .error (.anyhow s!"Control message too large: {n} bytes (max {maxControlMsg})")

theorem itemResult_oversized (decode : List UInt8 → Except BxpError α) (n : ℕ) :
    ∃ e, itemResult decode (.oversized n) = .error e := ⟨_, rfl⟩

/-- The call failed because the stream had ended. -/
def ReadFails (r : Except BxpError α) : Prop := ∃ e, r = .error (.readExact e)

theorem ReadFails.fails {r : Except BxpError α} (h : ReadFails r) : ∃ e, r = .error e := by
  obtain ⟨e, rfl⟩ := h
  exact ⟨_, rfl⟩

/-- The ways through a reader of items: those through a reader of frames, and the refusal of a
length above the limit, behind the header. -/
structure ReadsItems (readFrame : Async (BxpConnection side) (List UInt8)) (limit : ℕ) : Prop
    extends ReadsFrames readFrame limit where
  oversized : ∀ {c n}, header c.controlRecv.unread = some n → limit < n →
    readFrame c
      = some (.error (.anyhow s!"Control message too large: {n} bytes (max {maxControlMsg})"),
          c.withUnread (c.controlRecv.unread.drop 4))

/-- The largest length a header can announce, and the limit of a reader without one. -/
def maxHeader : ℕ := 2 ^ 32 - 1

/-- The server reads items up to `maxControlMsg`. -/
theorem BxpServerConnection.readsItems : ReadsItems readFrame maxControlMsg :=
  { readsFrames with oversized := readFrame_oversized }

/-- The client reads items up to every length that a header can announce. -/
theorem BxpClientConnection.readsItems : ReadsItems readFrame maxHeader :=
  { readsFrames maxHeader with
    oversized := by
      intro c n hn hbig
      have hlt := header_lt hn
      rw [maxHeader] at hbig
      omega }

/-- **Reading a frame and decoding it** obeys the laws of a reader of items, whatever the
decoding. -/
theorem ReadsItems.scans {readFrame : Async (BxpConnection side) (List UInt8)} {limit : ℕ}
    (h : ReadsItems readFrame limit) (decode : List UInt8 → Except BxpError α) :
    Scans (controlReader (readFrame >>= fun msgBuf => Async.ofExcept (decode msgBuf))) limit
      (itemResult decode) ReadFails where
  found := by
    intro c item rest hfirst
    change firstItem limit c.controlRecv.unread = some (item, rest) at hfirst
    rcases firstItem_cases limit c.controlRecv.unread with ⟨-, hnone⟩ | ⟨n, hn, hcases⟩
    · cases hfirst.symm.trans hnone
    · rcases hcases with ⟨hbig, hsome⟩ | ⟨hle, hge, hsome⟩ | ⟨-, -, hnone⟩
      · obtain ⟨rfl, rfl⟩ := Prod.mk.inj (Option.some.inj (hfirst.symm.trans hsome))
        exact ⟨_, Async.bind_of_error (h.oversized hn hbig), rfl, Iff.rfl⟩
      · obtain ⟨rfl, rfl⟩ := Prod.mk.inj (Option.some.inj (hfirst.symm.trans hsome))
        exact ⟨_, Async.bind_of_ok (h.whole hn hle hge), rfl, Iff.rfl⟩
      · cases hfirst.symm.trans hnone
  cut := by
    rintro c ⟨e, he⟩ hfirst
    change firstItem limit c.controlRecv.unread = none at hfirst
    rcases firstItem_cases limit c.controlRecv.unread with ⟨hheader, -⟩ | ⟨n, hn, hcases⟩
    · exact ⟨_, _, Async.bind_of_error (h.cut_header hheader he), ⟨_, rfl⟩, rfl, ⟨e, he⟩⟩
    · rcases hcases with ⟨-, hsome⟩ | ⟨-, -, hsome⟩ | ⟨hle, hlt, -⟩
      · cases hfirst.symm.trans hsome
      · cases hfirst.symm.trans hsome
      · exact ⟨_, _, Async.bind_of_error (h.cut_body hn hle hlt he), ⟨_, rfl⟩, rfl, ⟨e, he⟩⟩
  pending := by
    intro c hopen hfirst
    change firstItem limit c.controlRecv.unread = none at hfirst
    have hended : c.controlRecv.ended = none := by
      rw [Option.eq_none_iff_forall_ne_some]
      intro e he
      exact hopen ⟨e, he⟩
    rcases firstItem_cases limit c.controlRecv.unread with ⟨hheader, -⟩ | ⟨n, hn, hcases⟩
    · exact Async.bind_of_pending (h.pending_header hheader hended)
    · rcases hcases with ⟨-, hsome⟩ | ⟨-, -, hsome⟩ | ⟨hle, hlt, -⟩
      · cases hfirst.symm.trans hsome
      · cases hfirst.symm.trans hsome
      · exact Async.bind_of_pending (h.pending_body hn hle hlt hended)

/-- **The reader of the server**, on whatever bytes. -/
theorem scans_requestReader (C : Capnp.Serializer) :
    Scans (requestReader C) maxControlMsg (itemResult (decodeRequest C)) ReadFails :=
  BxpServerConnection.readsItems.scans (decodeRequest C)

/-- **The reader of the client**, on whatever bytes: no length is too large for it. -/
theorem scans_responseReader (C : Capnp.Serializer) :
    Scans (responseReader C) maxHeader (itemResult (decodeResponse C)) ReadFails :=
  BxpClientConnection.readsItems.scans (decodeResponse C)

/-- **What a call of `receive_request` leaves** is no more than was there, and less if it returns a
request. -/
theorem unread_of_receiveRequest {c c' : BxpServerConnection} {r : Except BxpError BxpRequest}
    (hrecv : BxpServerConnection.receiveRequest C c = some (r, c')) :
    c'.controlRecv.unread.length ≤ c.controlRecv.unread.length ∧
      ((∃ req, r = .ok req) → c'.controlRecv.unread.length < c.controlRecv.unread.length) := by
  cases hfirst : firstItem maxControlMsg c.controlRecv.unread with
  | some p =>
      obtain ⟨item, rest⟩ := p
      obtain ⟨t, hfound, hunread, -⟩ := (scans_requestReader C).found (s := c) hfirst
      obtain ⟨-, rfl⟩ := Prod.mk.inj (Option.some.inj (hrecv.symm.trans hfound))
      have hlen := length_of_firstItem hfirst
      have hwidth := item.four_le_width
      have hrest : c'.controlRecv.unread = rest := hunread
      rw [hrest]
      exact ⟨by omega, fun _ => by omega⟩
  | none =>
      by_cases hended : ∃ e, c.controlRecv.ended = some e
      · obtain ⟨r', t, hcut, ⟨e, rfl⟩, hunread, -⟩ :=
          (scans_requestReader C).cut (s := c) hended hfirst
        obtain ⟨rfl, rfl⟩ := Prod.mk.inj (Option.some.inj (hrecv.symm.trans hcut))
        have hnil : c'.controlRecv.unread = [] := hunread
        rw [hnil]
        refine ⟨Nat.zero_le _, ?_⟩
        rintro ⟨req, hreq⟩
        cases hreq
      · cases hrecv.symm.trans ((scans_requestReader C).pending (s := c) hended hfirst)

/-- The requests on a stream, up to the first message that is invalid. -/
def requestsIn (C : Capnp.Serializer) (bytes : List UInt8) : List BxpRequest :=
  oks ((scan maxControlMsg bytes).map (itemResult (decodeRequest C)))

/-! ### What only reading changes -/

/-- The part of a connection that only reading the control stream changes: what can be read, and
the buffers allocated for it. -/
def BxpConnection.readPart (c : BxpConnection side) : RecvStream × List ℕ :=
  (c.controlRecv, c.msgBufs)

theorem keeps_writeControl_readPart (bytes : List UInt8) :
    Async.Keeps readPart (writeControl bytes : Async (BxpConnection side) Unit) := by
  intro c r t h
  obtain ⟨-, send, -, -, rfl⟩ := writeControl_eq_some h
  rfl

theorem keeps_onQuic_readPart (x : Async Connection α) :
    Async.Keeps readPart (onQuic x : Async (BxpConnection side) α) := by
  intro c r t h
  obtain ⟨p, -, heq⟩ := Option.map_eq_some_iff.1 h
  obtain ⟨-, rfl⟩ := Prod.mk.inj heq
  rfl

theorem BxpServerConnection.keeps_sendResponse_readPart (C : Capnp.Serializer) (reqId : UInt32)
    (status : BxpStatus) : Async.Keeps readPart (sendResponse C reqId status) :=
  (Async.keeps_ofExcept _).bind fun _ => keeps_writeControl_readPart _

theorem BxpClientConnection.keeps_sendRequest_readPart (C : Capnp.Serializer) (reqId : UInt32)
    (action : BxpAction) (uri : String) : Async.Keeps readPart (sendRequest C reqId action uri) :=
  (Async.keeps_ofExcept _).bind fun _ => keeps_writeControl_readPart _

/-- Of the calls of a handler only `receive_request` reads the control stream. -/
theorem HandlerProg.readPart_step {prog prog' : HandlerProg} {c c' : BxpServerConnection}
    (h : prog.step C c = some (prog', c')) (hprog : ∀ next, prog ≠ receiveRequest next) :
    c'.readPart = c.readPart := by
  cases prog with
  | done result => cases h
  | panic => cases h
  | sendResponse reqId status next =>
      obtain ⟨r, hr, -⟩ := call_eq_some.1 h
      exact BxpServerConnection.keeps_sendResponse_readPart C reqId status hr
  | sendDataStream reqId reader next =>
      obtain ⟨r, hr, -⟩ := call_eq_some.1 h
      exact keeps_onQuic_readPart _ hr
  | receiveRequest next => exact absurd rfl (hprog next)
  | readDataStream next =>
      obtain ⟨r, hr, -⟩ := call_eq_some.1 h
      exact keeps_onQuic_readPart _ hr
  | waitForClose next =>
      obtain ⟨r, hr, -⟩ := call_eq_some.1 h
      exact keeps_onQuic_readPart _ hr

/-! ### Transcripts -/

/-- What has arrived on a control stream, and what the calls that read it have returned. -/
structure Transcript (α : Type) where
  arrived : List UInt8
  results : List (Except BxpError α)

namespace Transcript

/-- The transcript of a connection that has not been read. -/
def start (c : BxpConnection side) : Transcript α where
  arrived := c.controlRecv.unread
  results := []

/-- Something arrives. -/
def net (tr : Transcript α) (c : BxpConnection side) : NetEvent → Transcript α
  | .control bytes =>
      match c.controlRecv.ended with
      | none => { tr with arrived := tr.arrived ++ bytes }
      | some _ => tr
  | _ => tr

/-- A call returns. -/
def add (tr : Transcript α) (r : Except BxpError α) : Transcript α :=
  { tr with results := tr.results ++ [r] }

/-- A call is made, and returns if it is not pending. -/
def call (tr : Transcript α) (x : Option (Except BxpError α × BxpConnection side)) : Transcript α :=
  match x with
  | some (r, _) => tr.add r
  | none => tr

/-- The results are those of the items that have arrived.  A reset loses what has not been read. -/
def Faithful (limit : ℕ) (decode : List UInt8 → Except BxpError α) (tr : Transcript α)
    (c : BxpConnection side) : Prop :=
  Follows limit (itemResult decode) ReadFails tr.arrived c.controlRecv.unread
    (∃ e, c.controlRecv.ended = some e) c.controlRecv.WasReset tr.results

variable {limit : ℕ} {decode : List UInt8 → Except BxpError α} {tr : Transcript α}
  {c c' : BxpConnection side}

theorem faithful_start (c : BxpConnection side) :
    Faithful limit decode (start c : Transcript α) c :=
  Follows.start _ _ _

/-- The end of the stream keeps the transcript faithful. -/
theorem Faithful.stop (h : Faithful limit decode tr c) (e : StreamEnd)
    (hc : c'.controlRecv = c.controlRecv.stop e) : Faithful limit decode tr c' := by
  obtain ⟨hended, ⟨hunread, hreset⟩ | ⟨hunread, hreset⟩⟩ := c.controlRecv.stop_cases e
  · rw [Faithful, hc, hunread]
    exact Follows.mono h (fun _ => hended) hreset
  · rw [Faithful, hc, hunread]
    exact Follows.lose h hended hreset

/-- Arrivals keep the transcript faithful. -/
theorem Faithful.net (h : Faithful limit decode tr c) (e : NetEvent) :
    Faithful limit decode (tr.net c e) (c.onNet e) := by
  cases e with
  | control bytes =>
      rw [Transcript.net, onNet]
      cases hended : c.controlRecv.ended with
      | none =>
          rw [RecvStream.arrive_of_open hended]
          refine Follows.arrive h ?_ bytes
          rintro ⟨e, he⟩
          rw [hended] at he
          cases he
      | some e =>
          rw [RecvStream.arrive_of_ended hended]
          exact h
  | controlFinish => exact h.stop .finished rfl
  | controlReset code => exact h.stop (.reset code) rfl
  | controlFlow flow => rwa [Faithful, controlRecv_onNet_controlFlow]
  | dataStream stream => exact h
  | dataFlow flow => exact h
  | peerClose => exact h.stop .connectionLost rfl

/-- A call that reads keeps it faithful. -/
theorem Faithful.add {recv : Async (BxpConnection side) α}
    (hR : Scans (controlReader recv) limit (itemResult decode) ReadFails)
    (hkeeps : Async.Keeps unreadPart recv) (h : Faithful limit decode tr c)
    {r : Except BxpError α} (hrecv : recv c = some (r, c')) :
    Faithful limit decode (tr.add r) c' := by
  have hended := (hkeeps.unread hrecv).2.2
  rw [Faithful, RecvStream.WasReset, hended]
  have hcall := Follows.call hR (s := c) h hrecv
  change Follows _ _ _ _ _ (∃ e, c'.controlRecv.ended = some e) _ _ at hcall
  rwa [hended] at hcall

/-- What leaves the control stream alone keeps it faithful. -/
theorem Faithful.frame (h : Faithful limit decode tr c) (hread : c'.readPart = c.readPart) :
    Faithful limit decode tr c' := by
  rwa [Faithful, (Prod.mk.inj hread).1]

end Transcript

/-! ### A server, watched -/

/-- The loop of a server with its log, the transcript of its control stream, and the responses its
handlers have sent. -/
structure Serving where
  log : ServeLog
  heard : Transcript BxpRequest
  sent : List BxpResponse

namespace Serving

/-- The connection that is served. -/
def conn (s : Serving) : BxpServerConnection := s.log.loop.conn

/-- A connection that has been accepted, and its task. -/
def accepted (c : BxpServerConnection) : Serving where
  log := { loop := { conn := c, task := .receiving }, current := none, handled := [] }
  heard := .start c
  sent := []

/-- The transcript after an event: something arrives, or the control stream is read by the loop or
by a handler. -/
def noteHeard (C : Capnp.Serializer) (s : Serving) : ServeLoop.Event → Transcript BxpRequest
  | .net e => s.heard.net s.conn e
  | .advance =>
      match s.log.loop.task with
      | .receiving | .handling (.receiveRequest _) =>
          s.heard.call (BxpServerConnection.receiveRequest C s.conn)
      | _ => s.heard

/-- The responses sent after an event. -/
def noteSent (C : Capnp.Serializer) (s : Serving) : ServeLoop.Event → List BxpResponse
  | .net _ => s.sent
  | .advance =>
      match s.log.loop.task with
      | .handling (.sendResponse reqId status _) =>
          match BxpServerConnection.sendResponse C reqId status s.conn with
          | some (.ok (), _) => s.sent ++ [{ reqId, status }]
          | _ => s.sent
      | _ => s.sent

/-- The machine of a server, watched. -/
def step (C : Capnp.Serializer) (router : BxpRouter) (s : Serving) (e : ServeLoop.Event) :
    Option Serving :=
  (s.log.step C router e).map fun log =>
    { log := log, heard := s.noteHeard C e, sent := s.noteSent C e }

/-- **The server is only watched**: it runs as it does without that. -/
theorem run_log (s : Serving) (es : List ServeLoop.Event) :
    (run (step C router) s es).map log = run (ServeLog.step C router) s.log es := by
  refine run_watched ?_ s es
  intro s e
  rw [step, Option.map_map]
  exact Option.map_id'

/-- What the loop can do the watched server does. -/
theorem exists_steps {s : Serving} {loop : ServeLoop}
    (h : Steps (ServeLoop.step C router) .advance s.log.loop loop) :
    ∃ t, Steps (step C router) .advance s t ∧ t.log.loop = loop := by
  obtain ⟨n, hn⟩ := h
  rw [← ServeLog.run_loop, ← run_log, Option.map_map] at hn
  obtain ⟨t, ht, hloop⟩ := Option.map_eq_some_iff.1 hn
  exact ⟨t, ⟨n, ht⟩, hloop⟩

/-- The steps of a server, and what is noted of them. -/
inductive Moves (C : Capnp.Serializer) (router : BxpRouter) (s : Serving) :
    ServeLoop.Event → Serving → Prop
  | net (e : NetEvent) :
      Moves C router s (.net e)
        { s with
          log := { s.log with loop := { s.log.loop with conn := s.conn.onNet e } }
          heard := s.heard.net s.conn e }
  | request {req : BxpRequest} {c : BxpServerConnection} (htask : s.log.loop.task = .receiving)
      (hrecv : BxpServerConnection.receiveRequest C s.conn = some (.ok req, c)) :
      Moves C router s .advance
        { s with
          log := { s.log with
            loop := { conn := c, task := .handling (router.handleRequest req) }
            current := some (req, s.conn.controlSend.buf.length) }
          heard := s.heard.add (.ok req) }
  | noRequest {e : BxpError} {c : BxpServerConnection} (htask : s.log.loop.task = .receiving)
      (hrecv : BxpServerConnection.receiveRequest C s.conn = some (.error e, c)) :
      Moves C router s .advance
        { s with
          log := { s.log with loop := { conn := c, task := .waiting } }
          heard := s.heard.add (.error e) }
  | handlerReceives {next : Except BxpError BxpRequest → HandlerProg}
      {r : Except BxpError BxpRequest} {c : BxpServerConnection}
      (htask : s.log.loop.task = .handling (.receiveRequest next))
      (hrecv : BxpServerConnection.receiveRequest C s.conn = some (r, c)) :
      Moves C router s .advance
        { s with
          log := { s.log with loop := { conn := c, task := .handling (next r) } }
          heard := s.heard.add r }
  | responds {reqId : UInt32} {status : BxpStatus} {next : Except BxpError Unit → HandlerProg}
      {c : BxpServerConnection}
      (htask : s.log.loop.task = .handling (.sendResponse reqId status next))
      (hsend : BxpServerConnection.sendResponse C reqId status s.conn = some (.ok (), c)) :
      Moves C router s .advance
        { s with
          log := { s.log with loop := { conn := c, task := .handling (next (.ok ())) } }
          sent := s.sent ++ [{ reqId, status }] }
  | respondFails {reqId : UInt32} {status : BxpStatus} {next : Except BxpError Unit → HandlerProg}
      {e : BxpError} {c : BxpServerConnection}
      (htask : s.log.loop.task = .handling (.sendResponse reqId status next))
      (hsend : BxpServerConnection.sendResponse C reqId status s.conn = some (.error e, c)) :
      Moves C router s .advance
        { s with log := { s.log with loop := { conn := c, task := .handling (next (.error e)) } } }
  | call {prog prog' : HandlerProg} {c : BxpServerConnection}
      (htask : s.log.loop.task = .handling prog) (hcall : prog.step C s.conn = some (prog', c))
      (hsend : ∀ reqId status next, prog ≠ .sendResponse reqId status next)
      (hrecv : ∀ next, prog ≠ .receiveRequest next) :
      Moves C router s .advance
        { s with log := { s.log with loop := { conn := c, task := .handling prog' } } }
  | returned {result : Except BxpError Unit} (htask : s.log.loop.task = .handling (.done result)) :
      Moves C router s .advance
        { s with log := s.log.note C { s.log.loop with task := .receiving } .advance }
  | panicked (htask : s.log.loop.task = .handling .panic) :
      Moves C router s .advance { s with log := { s.log with loop := .drop s.conn } }
  | closed {r : Except BxpError Unit} {c : BxpServerConnection} (htask : s.log.loop.task = .waiting)
      (hwait : BxpServerConnection.waitForClose s.conn = some (r, c)) :
      Moves C router s .advance { s with log := { s.log with loop := .drop c } }

variable {s t : Serving}

/-- The calls of a handler, and what is noted of them. -/
theorem moves_of_call {prog prog' : HandlerProg} {c : BxpServerConnection}
    (htask : s.log.loop.task = .handling prog) (hcall : prog.step C s.conn = some (prog', c)) :
    Moves C router s .advance
      { log := { s.log with loop := { conn := c, task := .handling prog' } }
        heard := s.noteHeard C .advance
        sent := s.noteSent C .advance } := by
  cases prog with
  | done result => cases hcall
  | panic => cases hcall
  | sendResponse reqId status next =>
      obtain ⟨r, hsend, rfl⟩ := HandlerProg.call_eq_some.1 hcall
      simp only [noteHeard, noteSent, htask, hsend]
      cases r with
      | ok u => exact Moves.responds htask hsend
      | error e => exact Moves.respondFails htask hsend
  | receiveRequest next =>
      obtain ⟨r, hrecv, rfl⟩ := HandlerProg.call_eq_some.1 hcall
      simp only [noteHeard, noteSent, htask, hrecv]
      exact Moves.handlerReceives htask hrecv
  | sendDataStream reqId reader next =>
      simp only [noteHeard, noteSent, htask]
      exact Moves.call htask hcall (by simp) (by simp)
  | readDataStream next =>
      simp only [noteHeard, noteSent, htask]
      exact Moves.call htask hcall (by simp) (by simp)
  | waitForClose next =>
      simp only [noteHeard, noteSent, htask]
      exact Moves.call htask hcall (by simp) (by simp)

/-- **These are all the steps.** -/
theorem moves_of_step {e : ServeLoop.Event} (h : s.step C router e = some t) :
    Moves C router s e t := by
  obtain ⟨log, hlog, rfl⟩ := Option.map_eq_some_iff.1 h
  cases ServeLog.moves_of_step hlog with
  | net e => exact Moves.net e
  | request htask hrecv =>
      have hrecv' : BxpServerConnection.receiveRequest C s.conn = _ := hrecv
      simp only [noteHeard, noteSent, htask, hrecv']
      exact Moves.request htask hrecv
  | noRequest htask hrecv =>
      have hrecv' : BxpServerConnection.receiveRequest C s.conn = _ := hrecv
      simp only [noteHeard, noteSent, htask, hrecv']
      exact Moves.noRequest htask hrecv
  | call htask hcall => exact moves_of_call htask hcall
  | returned htask =>
      simp only [noteHeard, noteSent, htask]
      exact Moves.returned htask
  | panicked htask =>
      simp only [noteHeard, noteSent, htask]
      exact Moves.panicked htask
  | closed htask hwait =>
      simp only [noteHeard, noteSent, htask]
      exact Moves.closed htask hwait

/-- A step of a server leaves what reading changes alone, or it is a call of `receive_request`. -/
theorem Moves.readPart (hmove : Moves C router s .advance t) :
    t.conn.readPart = s.conn.readPart ∧ t.heard = s.heard ∨
      ∃ r, BxpServerConnection.receiveRequest C s.conn = some (r, t.conn) ∧
        t.heard = s.heard.add r := by
  cases hmove with
  | request htask hrecv => exact Or.inr ⟨_, hrecv, rfl⟩
  | noRequest htask hrecv => exact Or.inr ⟨_, hrecv, rfl⟩
  | handlerReceives htask hrecv => exact Or.inr ⟨_, hrecv, rfl⟩
  | responds htask hsend =>
      exact Or.inl ⟨BxpServerConnection.keeps_sendResponse_readPart C _ _ hsend, rfl⟩
  | respondFails htask hsend =>
      exact Or.inl ⟨BxpServerConnection.keeps_sendResponse_readPart C _ _ hsend, rfl⟩
  | call htask hcall hsend hrecv => exact Or.inl ⟨HandlerProg.readPart_step hcall hrecv, rfl⟩
  | returned htask =>
      refine Or.inl ⟨?_, rfl⟩
      show (s.log.note C _ .advance).loop.conn.readPart = _
      rw [ServeLog.note_loop]
      rfl
  | panicked htask => exact Or.inl ⟨rfl, rfl⟩
  | closed htask hwait =>
      have hkeep := keeps_onQuic_readPart _ hwait
      exact Or.inl ⟨hkeep, rfl⟩

/-- **Every step keeps the transcript faithful.** -/
theorem Moves.faithful {e : ServeLoop.Event} (hmove : Moves C router s e t)
    (h : s.heard.Faithful maxControlMsg (decodeRequest C) s.conn) :
    t.heard.Faithful maxControlMsg (decodeRequest C) t.conn := by
  cases e with
  | net e =>
      cases hmove with
      | net => exact h.net e
  | advance =>
      rcases hmove.readPart with ⟨hread, hheard⟩ | ⟨r, hrecv, hheard⟩
      · rw [hheard]
        exact h.frame hread
      · rw [hheard]
        exact h.add (scans_requestReader C) (BxpServerConnection.keeps_receiveRequest C) hrecv

/-- What the server does brings no bytes, and does not end the stream. -/
theorem Moves.arrived (hmove : Moves C router s .advance t) :
    t.heard.arrived = s.heard.arrived ∧
      t.conn.controlRecv.ended = s.conn.controlRecv.ended := by
  rcases hmove.readPart with ⟨hread, hheard⟩ | ⟨r, hrecv, hheard⟩
  · rw [hheard]
    exact ⟨rfl, congrArg RecvStream.ended (Prod.mk.inj hread).1⟩
  · obtain ⟨-, -, hended⟩ := (BxpServerConnection.keeps_receiveRequest C).unread hrecv
    rw [hheard]
    exact ⟨rfl, hended⟩

end Serving

/-- The bytes that have arrived, and those that are still to come with the events `es`. -/
def Transcript.arrivedWith (tr : Transcript α) (c : BxpConnection side) (es : List NetEvent) :
    List UInt8 :=
  match c.controlRecv.ended with
  | none => tr.arrived ++ controlBytes es
  | some _ => tr.arrived

theorem Transcript.arrivedWith_nil (tr : Transcript α) (c : BxpConnection side) :
    tr.arrivedWith c [] = tr.arrived := by
  rw [arrivedWith]
  cases c.controlRecv.ended with
  | none => exact List.append_nil _
  | some e => rfl

/-- The bytes that arrive after an event, behind those that arrive with it. -/
theorem Transcript.arrivedWith_net (tr : Transcript α) (c : BxpConnection side) (e : NetEvent)
    (es : List NetEvent) :
    (tr.net c e).arrivedWith (c.onNet e) es = tr.arrivedWith c (e :: es) := by
  have hstop : ∀ end', (match (c.controlRecv.stop end').ended with
      | none => tr.arrived ++ controlBytes es
      | some _ => tr.arrived)
      = match c.controlRecv.ended with
        | none => tr.arrived ++ []
        | some _ => tr.arrived := by
    intro end'
    obtain ⟨e', he'⟩ := (c.controlRecv.stop_cases end').1
    rw [he', List.append_nil]
    cases c.controlRecv.ended <;> rfl
  cases e with
  | control bytes =>
      rw [arrivedWith, arrivedWith, onNet, RecvStream.ended_arrive, Transcript.net]
      cases hended : c.controlRecv.ended with
      | none => exact List.append_assoc _ _ _
      | some e' => rfl
  | controlFinish => exact hstop .finished
  | controlReset code => exact hstop (.reset code)
  | controlFlow flow =>
      rw [arrivedWith, controlRecv_onNet_controlFlow]
      rfl
  | dataStream stream => rfl
  | dataFlow flow => rfl
  | peerClose => exact hstop .connectionLost

namespace Serving

variable {s t : Serving}

/-- **The transcript has all the bytes that arrive.** -/
theorem arrived_of_run {es : List ServeLoop.Event} (hrun : run (step C router) s es = some t) :
    t.heard.arrived = s.heard.arrivedWith s.conn (ServeLoop.netEvents es) := by
  have hend := run_inv_rest (P := fun u fs => u.heard.arrivedWith u.conn (ServeLoop.netEvents fs)
    = s.heard.arrivedWith s.conn (ServeLoop.netEvents es)) ?_ rfl hrun
  · rwa [show ServeLoop.netEvents [] = [] from rfl, Transcript.arrivedWith_nil] at hend
  · intro u e fs v hu hstep
    rw [← hu]
    cases e with
    | net e =>
        cases moves_of_step hstep with
        | net => exact u.heard.arrivedWith_net u.conn e (ServeLoop.netEvents fs)
    | advance =>
        obtain ⟨harrived, hended⟩ := (moves_of_step hstep).arrived
        rw [Transcript.arrivedWith, harrived, hended]
        rfl

/-- The transcript of a server is faithful, on the bytes its connection receives. -/
theorem faithful_of_run {c : BxpServerConnection} {es : List ServeLoop.Event}
    (hrun : run (step C router) (accepted c) es = some s) :
    s.heard.Faithful maxControlMsg (decodeRequest C) s.conn ∧
      s.heard.arrived = c.receives (ServeLoop.netEvents es) := by
  constructor
  · refine run_inv (P := fun s => s.heard.Faithful maxControlMsg (decodeRequest C) s.conn) ?_ ?_ hrun
    · intro s e t h hstep
      exact (moves_of_step hstep).faithful h
    · exact Transcript.faithful_start c
  · rw [arrived_of_run hrun, BxpConnection.receives]
    rfl

end Serving

/-- **What a server hears depends on the bytes alone.**  Whatever arrives on a connection, in
whatever pieces, and whatever calls the handlers of the router make: the calls of `receive_request`
made by the loop and by the handlers return, in order, what the items of the control stream are read
as.  They fail on a stream that has ended only, and there only past the last of the items, unless
the client has reset the stream, which loses those that were not read; and a call that waits does so
because everything that has arrived has been returned. -/
theorem server_hears {C : Capnp.Serializer} {router : BxpRouter} {c : BxpServerConnection}
    {es : List ServeLoop.Event} {s : Serving}
    (hrun : run (Serving.step C router) (.accepted c) es = some s) :
    (∃ items fails, s.heard.results = items.map (itemResult (decodeRequest C)) ++ fails ∧
      items <+: scan maxControlMsg (c.receives (ServeLoop.netEvents es)) ∧
      (∀ r ∈ fails, ReadFails r) ∧
      (fails ≠ [] → (∃ e, s.conn.controlRecv.ended = some e) ∧
        (¬ s.conn.controlRecv.WasReset →
          items = scan maxControlMsg (c.receives (ServeLoop.netEvents es))))) ∧
    (BxpServerConnection.receiveRequest C s.conn = none →
      s.heard.results = (scan maxControlMsg (c.receives (ServeLoop.netEvents es))).map
        (itemResult (decodeRequest C))) := by
  obtain ⟨hfaithful, harrived⟩ := Serving.faithful_of_run hrun
  rw [← harrived]
  constructor
  · exact hfaithful.exists_items
  · intro hpending
    exact Follows.of_pending (scans_requestReader C) (s := s.conn) hfaithful hpending

/-- A request cut in two, half a header right behind it, and the server reads the request. -/
def cutRun : List ServeLoop.Event :=
  [.net (.control ((frame pushMessage).take 9)),
    .net (.control ((frame pushMessage).drop 9 ++ [1, 0])), .advance]

/-- The half of the header is left to be read, and the request has been handed to the router. -/
theorem exists_cutRun :
    ∃ s, run (Serving.step Capnp.wire .new) (.accepted (opened .server)) cutRun = some s ∧
      s.conn.controlRecv = { unread := [1, 0], ended := none } ∧
      s.log.received = [{ reqId := 7, action := .push, uri := "bxp://x" }] := by
  have hleft : (run (Serving.step Capnp.wire .new) (.accepted (opened .server)) cutRun).map
      (fun s => (s.conn.controlRecv, s.log.received))
      = some ({ unread := [1, 0], ended := none },
          [{ reqId := 7, action := .push, uri := "bxp://x" }]) := by decide +kernel
  obtain ⟨s, hrun, hboth⟩ := Option.map_eq_some_iff.1 hleft
  obtain ⟨hrecv, hreceived⟩ := Prod.mk.inj hboth
  exact ⟨s, hrun, hrecv, hreceived⟩

/-- What is heard of these bytes: the request, and then a call waits. -/
theorem server_hears_cut :
    ∃ s, run (Serving.step Capnp.wire .new) (.accepted (opened .server)) cutRun = some s ∧
      BxpServerConnection.receiveRequest Capnp.wire s.conn = none ∧
      s.heard.results = [.ok { reqId := 7, action := .push, uri := "bxp://x" }] := by
  obtain ⟨s, hrun, hrecv, -⟩ := exists_cutRun
  have hpending : BxpServerConnection.receiveRequest Capnp.wire s.conn = none :=
    (scans_requestReader Capnp.wire).pending (s := s.conn)
      (not_ended (by rw [hrecv])) (by
        show firstItem maxControlMsg s.conn.controlRecv.unread = none
        rw [hrecv]
        rfl)
  have hscan : scan maxControlMsg ((opened .server).receives (ServeLoop.netEvents cutRun))
      = [.body pushMessage] := by decide +kernel
  refine ⟨s, hrun, hpending, ?_⟩
  rw [(server_hears hrun).2 hpending, hscan, List.map_singleton, itemResult,
    decodeRequest_pushMessage]

/-! ### The requests that are handled -/

namespace HandlerProg

/-- The handler leaves the control stream to the loop. -/
def NeverReceives : HandlerProg → Prop
  | done _ | panic => True
  | sendResponse _ _ next => ∀ r, NeverReceives (next r)
  | sendDataStream _ _ next => ∀ r, NeverReceives (next r)
  | readDataStream next => ∀ r, NeverReceives (next r)
  | waitForClose next => ∀ r, NeverReceives (next r)
  | receiveRequest _ => False

/-- What a handler does after a call it leaves to the loop as well. -/
theorem NeverReceives.of_step {prog prog' : HandlerProg} {c c' : BxpServerConnection}
    (h : prog.NeverReceives) (hcall : prog.step C c = some (prog', c')) : prog'.NeverReceives := by
  cases prog with
  | done result => cases hcall
  | panic => cases hcall
  | receiveRequest next => exact h.elim
  | _ =>
      obtain ⟨r, -, rfl⟩ := call_eq_some.1 hcall
      exact h r

end HandlerProg

/-- A router all of whose handlers leave the control stream to the loop. -/
def BxpRouter.NeverReceives (router : BxpRouter) : Prop :=
  ∀ action uri handler, router.lookup action uri = some handler →
    ∀ req, (handler req).NeverReceives

theorem BxpRouter.neverReceives_new : new.NeverReceives := by
  intro action uri handler hlookup
  rw [lookup_new] at hlookup
  cases hlookup

theorem BxpRouter.NeverReceives.route (h : router.NeverReceives) (action : BxpAction) (uri : String)
    {handler : BxpHandler} (hhandler : ∀ req, (handler req).NeverReceives) :
    (router.route action uri handler).NeverReceives :=
  forall_lookup_route (P := fun handler => ∀ req, (handler req).NeverReceives) h action uri hhandler

theorem BxpRouter.NeverReceives.handleRequest (h : router.NeverReceives) (req : BxpRequest) :
    (router.handleRequest req).NeverReceives := by
  rw [BxpRouter.handleRequest]
  cases hlookup : router.lookup req.action req.uri with
  | none =>
      intro r
      trivial
  | some handler => exact h _ _ _ hlookup req

namespace Serving

variable {s t : Serving}

/-- The requests received are the results of the calls that read the control stream, up to an error
that has ended the loop. -/
def Routed (s : Serving) : Prop :=
  match s.log.loop.task with
  | .receiving => s.log.current = none ∧ s.heard.results = s.log.received.map .ok
  | .handling prog =>
      prog.NeverReceives ∧ s.log.current.isSome ∧ s.heard.results = s.log.received.map .ok
  | .waiting => ∃ e, s.heard.results = s.log.received.map .ok ++ [.error e]
  | .ended => ∃ errs, s.heard.results = s.log.received.map .ok ++ errs ∧
      ∀ r ∈ errs, ∃ e, r = .error e

/-- A request that is received comes behind the others. -/
theorem received_request (hcurrent : s.log.current = none) (req : BxpRequest) (start : ℕ)
    (loop : ServeLoop) :
    ServeLog.received { s.log with loop := loop, current := some (req, start) }
      = s.log.received ++ [req] := by
  simp [ServeLog.received, hcurrent]

/-- A handler that returns does not change what has been received. -/
theorem received_returned {result : Except BxpError Unit}
    (htask : s.log.loop.task = .handling (.done result)) (hsome : s.log.current.isSome)
    (loop : ServeLoop) : (s.log.note C loop .advance).received = s.log.received := by
  obtain ⟨⟨req, start⟩, hcurrent⟩ := Option.isSome_iff_exists.1 hsome
  simp [ServeLog.received, ServeLog.note, htask, hcurrent]

/-- **Every step keeps the requests received in line with the calls.** -/
theorem Routed.step (hrouter : router.NeverReceives) (h : s.Routed) {e : ServeLoop.Event}
    (hmove : Moves C router s e t) : t.Routed := by
  cases hmove with
  | net e =>
      have hresults : (s.heard.net s.conn e).results = s.heard.results := by
        cases e with
        | control bytes =>
            rw [Transcript.net]
            cases s.conn.controlRecv.ended <;> rfl
        | _ => rfl
      unfold Routed at h ⊢
      dsimp only [ServeLog.received] at h ⊢
      rwa [hresults]
  | @request req c htask hrecv =>
      rw [Routed, htask] at h
      obtain ⟨hcurrent, hresults⟩ := h
      refine ⟨hrouter.handleRequest req, rfl, ?_⟩
      rw [received_request hcurrent, List.map_append, Transcript.add, hresults]
      rfl
  | @noRequest e c htask hrecv =>
      rw [Routed, htask] at h
      obtain ⟨hcurrent, hresults⟩ := h
      refine ⟨e, ?_⟩
      rw [Transcript.add, hresults]
      rfl
  | handlerReceives htask hrecv =>
      rw [Routed, htask] at h
      exact h.1.elim
  | responds htask hsend =>
      rw [Routed, htask] at h
      exact ⟨h.1 _, h.2⟩
  | respondFails htask hsend =>
      rw [Routed, htask] at h
      exact ⟨h.1 _, h.2⟩
  | call htask hcall hsend hrecv =>
      rw [Routed, htask] at h
      exact ⟨h.1.of_step hcall, h.2⟩
  | returned htask =>
      rw [Routed, htask] at h
      obtain ⟨-, hsome, hresults⟩ := h
      have hreceived := received_returned (C := C) htask hsome { s.log.loop with task := .receiving }
      obtain ⟨⟨req, start⟩, hcurrent⟩ := Option.isSome_iff_exists.1 hsome
      rw [Routed, ServeLog.note_loop]
      refine ⟨?_, by rw [hreceived, hresults]⟩
      simp only [ServeLog.note, htask, hcurrent]
  | panicked htask =>
      rw [Routed, htask] at h
      exact ⟨[], by rw [List.append_nil]; exact h.2.2, by simp⟩
  | closed htask hwait =>
      rw [Routed, htask] at h
      obtain ⟨e, hresults⟩ := h
      refine ⟨[.error e], hresults, ?_⟩
      intro r hr
      exact ⟨e, List.mem_singleton.1 hr⟩

/-- The requests received are the results before the first error. -/
theorem Routed.oks (h : s.Routed) : LengthPrefix.oks s.heard.results = s.log.received := by
  have hall : ∃ errs, s.heard.results = s.log.received.map .ok ++ errs ∧
      ∀ r ∈ errs, ∃ e, r = .error e := by
    unfold Routed at h
    cases htask : s.log.loop.task with
    | receiving =>
        rw [htask] at h
        exact ⟨[], by rw [List.append_nil]; exact h.2, by simp⟩
    | handling prog =>
        rw [htask] at h
        exact ⟨[], by rw [List.append_nil]; exact h.2.2, by simp⟩
    | waiting =>
        rw [htask] at h
        obtain ⟨e, hresults⟩ := h
        exact ⟨_, hresults, by simp⟩
    | ended =>
        rw [htask] at h
        exact h
  obtain ⟨errs, hresults, herrs⟩ := hall
  rw [hresults, oks_append_errors _ herrs, ← List.append_nil (s.log.received.map _),
    oks_map_ok_append, oks_nil, List.append_nil]

/-- A loop that has met an error has received all that precedes it, if the stream was not reset. -/
theorem Routed.oks_of_waiting (h : s.Routed)
    (hfaithful : s.heard.Faithful maxControlMsg (decodeRequest C) s.conn)
    (hreset : ¬ s.conn.controlRecv.WasReset)
    (htask : s.log.loop.task = .waiting) :
    LengthPrefix.oks s.heard.results
      = LengthPrefix.oks ((scan maxControlMsg s.heard.arrived).map
          (itemResult (decodeRequest C))) := by
  rw [Routed, htask] at h
  obtain ⟨e, hresults⟩ := h
  refine Follows.oks_eq_of_error hfaithful hreset (fun r hr => hr.fails) (e := e) ?_
  rw [hresults]
  exact List.mem_append_right _ (List.mem_singleton_self _)

theorem routed_of_run (hrouter : router.NeverReceives) {c : BxpServerConnection}
    {es : List ServeLoop.Event} (hrun : run (step C router) (accepted c) es = some s) :
    s.Routed := by
  have hstart : (accepted c).Routed := ⟨rfl, rfl⟩
  refine run_inv (P := Routed) ?_ hstart hrun
  intro s e t h hstep
  exact h.step hrouter (moves_of_step hstep)

section Received

variable {c : BxpServerConnection} {es : List ServeLoop.Event}

/-- The requests received are the first of those on the stream. -/
theorem received_prefix (hrouter : router.NeverReceives)
    (hrun : run (step C router) (accepted c) es = some s) :
    s.log.received <+: requestsIn C (c.receives (ServeLoop.netEvents es)) := by
  obtain ⟨hfaithful, harrived⟩ := faithful_of_run hrun
  rw [← harrived, ← (routed_of_run hrouter hrun).oks, requestsIn]
  exact Follows.oks_prefix hfaithful fun r hr => hr.fails

/-- The task waits: for more on the control stream, or for the close of the client. -/
def AtRest (C : Capnp.Serializer) (s : Serving) : Prop :=
  (s.log.loop.task = .receiving ∧ BxpServerConnection.receiveRequest C s.conn = none) ∨
    s.log.loop.task = .waiting

/-- **At rest they are all of them**, if the stream was not reset. -/
theorem received_of_atRest (hrouter : router.NeverReceives)
    (hrun : run (step C router) (accepted c) es = some s) (hrest : s.AtRest C)
    (hreset : ¬ s.conn.controlRecv.WasReset) :
    s.log.received = requestsIn C (c.receives (ServeLoop.netEvents es)) := by
  obtain ⟨hfaithful, harrived⟩ := faithful_of_run hrun
  have hrouted := routed_of_run hrouter hrun
  rw [← harrived, ← hrouted.oks, requestsIn]
  rcases hrest with ⟨htask, hpending⟩ | htask
  · rw [Follows.of_pending (scans_requestReader C) (s := s.conn) hfaithful hpending]
  · exact hrouted.oks_of_waiting hfaithful hreset htask

end Received

end Serving

/-- **The loop handles the requests in front of the first invalid message.**  If no handler reads
the control stream, then at any time the requests the loop has handed to the router are the first of
those on the stream, and once it waits for more bytes or has left its loop it has handed over all of
them, unless the client has reset the stream.  Nothing behind an invalid message is handled, and how
the bytes are cut into pieces makes no difference. -/
theorem requests_routed {C : Capnp.Serializer} {router : BxpRouter} (hrouter : router.NeverReceives)
    {c : BxpServerConnection} {es : List ServeLoop.Event} {s : Serving}
    (hrun : run (Serving.step C router) (.accepted c) es = some s) :
    s.log.received <+: requestsIn C (c.receives (ServeLoop.netEvents es)) ∧
      (s.AtRest C → ¬ s.conn.controlRecv.WasReset →
        s.log.received = requestsIn C (c.receives (ServeLoop.netEvents es))) :=
  ⟨Serving.received_prefix hrouter hrun, Serving.received_of_atRest hrouter hrun⟩

/-- The requests handled of these bytes. -/
theorem requests_routed_cut :
    ∃ s, run (Serving.step Capnp.wire .new) (.accepted (opened .server)) cutRun = some s ∧
      s.log.received = [{ reqId := 7, action := .push, uri := "bxp://x" }] ∧
      s.log.received
        <+: requestsIn Capnp.wire ((opened .server).receives (ServeLoop.netEvents cutRun)) := by
  obtain ⟨s, hrun, -, hreceived⟩ := exists_cutRun
  exact ⟨s, hrun, hreceived, (requests_routed BxpRouter.neverReceives_new hrun).1⟩

/-! ### A client, watched -/

/-- A client with the requests it has sent and the transcript of its control stream. -/
structure Asking extends ClientApp where
  asked : List BxpRequest
  heard : Transcript BxpResponse

namespace Asking

/-- A client that has connected. -/
def connected (c : BxpClientConnection) : Asking where
  toClientApp := .connected c
  asked := []
  heard := .start c

/-- The requests sent after an event: those for which `send_request` returned `Ok`. -/
def noteAsked (C : Capnp.Serializer) (s : Asking) (e : ClientEvent) : List BxpRequest :=
  match s.polled e with
  | some (.sendRequest reqId action uri) =>
      match BxpClientConnection.sendRequest C reqId action uri s.conn with
      | some (.ok (), _) => s.asked ++ [{ reqId, action, uri }]
      | _ => s.asked
  | _ => s.asked

/-- The transcript after an event. -/
def noteHeard (C : Capnp.Serializer) (s : Asking) (e : ClientEvent) : Transcript BxpResponse :=
  match e, s.polled e with
  | .net e, _ => s.heard.net s.conn e
  | _, some .receiveResponse =>
      s.heard.call (BxpClientConnection.receiveResponse C s.conn)
  | _, _ => s.heard

/-- The machine of a client, watched. -/
def step (C : Capnp.Serializer) (s : Asking) (e : ClientEvent) : Option Asking :=
  (s.toClientApp.step C e).map fun a =>
    { toClientApp := a, asked := s.noteAsked C e, heard := s.noteHeard C e }

/-- **The client is only watched.** -/
theorem run_toClientApp (s : Asking) (es : List ClientEvent) :
    (run (step C) s es).map toClientApp = run (ClientApp.step C) s.toClientApp es := by
  refine run_watched ?_ s es
  intro s e
  rw [step, Option.map_map]
  exact Option.map_id'

/-- The steps of a client, and what is noted of them. -/
inductive Moves (C : Capnp.Serializer) (s : Asking) : ClientEvent → Asking → Prop
  | net (e : NetEvent) :
      Moves C s (.net e) { s with conn := s.conn.onNet e, heard := s.heard.net s.conn e }
  | asks {e : ClientEvent} {reqId : UInt32} {action : BxpAction} {uri : String}
      {c : BxpClientConnection} (hpolled : s.polled e = some (.sendRequest reqId action uri))
      (hsend : BxpClientConnection.sendRequest C reqId action uri s.conn = some (.ok (), c)) :
      Moves C s e
        { s with conn := c, task := .idle, asked := s.asked ++ [{ reqId, action, uri }] }
  | askFails {e : ClientEvent} {reqId : UInt32} {action : BxpAction} {uri : String}
      {err : BxpError} {c : BxpClientConnection}
      (hpolled : s.polled e = some (.sendRequest reqId action uri))
      (hsend : BxpClientConnection.sendRequest C reqId action uri s.conn = some (.error err, c)) :
      Moves C s e { s with conn := c, task := .idle }
  | hears {e : ClientEvent} {r : Except BxpError BxpResponse} {c : BxpClientConnection}
      (hpolled : s.polled e = some .receiveResponse)
      (hrecv : BxpClientConnection.receiveResponse C s.conn = some (r, c)) :
      Moves C s e { s with conn := c, task := .idle, heard := s.heard.add r }
  | waits {e : ClientEvent} {call : ClientCall} (hpolled : s.polled e = some call)
      (hrun : call.run C s.conn = none) : Moves C s e { s with task := .awaiting call }
  | other {e : ClientEvent} {call : ClientCall} {c : BxpClientConnection}
      (hpolled : s.polled e = some call) (hsend : c.controlSend = s.conn.controlSend)
      (hread : c.readPart = s.conn.readPart) :
      Moves C s e { s with conn := c, task := call.after }

variable {s t : Asking}

/-- What comes from outside is no call. -/
theorem ne_net_of_polled {a : ClientApp} {e : ClientEvent} {call : ClientCall}
    (h : a.polled e = some call) (e' : NetEvent) : e ≠ .net e' := by
  rintro rfl
  cases h

/-- A call on the data plane leaves the control stream alone. -/
theorem control_of_onQuic {x : Async Connection α} {c c' : BxpClientConnection}
    (h : (onQuic x c).map Prod.snd = some c') :
    c'.controlSend = c.controlSend ∧ c'.readPart = c.readPart := by
  obtain ⟨⟨r, d⟩, hd, rfl⟩ := Option.map_eq_some_iff.1 h
  exact ⟨(Prod.mk.inj (keeps_onQuic_control x hd)).1, keeps_onQuic_readPart x hd⟩

/-- What is noted of a call that has returned. -/
theorem moves_of_returned {e : ClientEvent} {call : ClientCall} {c : BxpClientConnection}
    (hpolled : s.polled e = some call) (hrun : call.run C s.conn = some c) :
    Moves C s e
      { conn := c, task := call.after, asked := s.noteAsked C e, heard := s.noteHeard C e } := by
  have hnet := ne_net_of_polled hpolled
  cases call with
  | sendRequest reqId action uri =>
      obtain ⟨⟨r, d⟩, hsend, rfl⟩ := Option.map_eq_some_iff.1 hrun
      simp only [noteAsked, noteHeard, hpolled, hsend]
      cases r with
      | ok u => exact Moves.asks hpolled hsend
      | error err => exact Moves.askFails hpolled hsend
  | receiveResponse =>
      obtain ⟨⟨r, d⟩, hrecv, rfl⟩ := Option.map_eq_some_iff.1 hrun
      simp only [noteAsked, noteHeard, hpolled, hrecv]
      exact Moves.hears hpolled hrecv
  | sendDataStream reqId reader =>
      obtain ⟨hsend, hread⟩ := control_of_onQuic hrun
      simp only [noteAsked, noteHeard, hpolled]
      exact Moves.other hpolled hsend hread
  | readDataStream =>
      obtain ⟨hsend, hread⟩ := control_of_onQuic hrun
      simp only [noteAsked, noteHeard, hpolled]
      exact Moves.other hpolled hsend hread
  | close =>
      obtain rfl := Option.some.inj hrun
      simp only [noteAsked, noteHeard, hpolled]
      exact Moves.other hpolled rfl rfl

/-- Of a call that is pending nothing is noted. -/
theorem note_of_pending {e : ClientEvent} {call : ClientCall} (hpolled : s.polled e = some call)
    (hrun : call.run C s.conn = none) :
    s.noteAsked C e = s.asked ∧ s.noteHeard C e = s.heard := by
  have hnet := ne_net_of_polled hpolled
  cases call with
  | sendRequest reqId action uri =>
      have hsend := Option.map_eq_none_iff.1 hrun
      simp only [noteAsked, noteHeard, hpolled, hsend, and_self]
  | receiveResponse =>
      have hrecv := Option.map_eq_none_iff.1 hrun
      simp only [noteAsked, noteHeard, hpolled, hrecv, Transcript.call, and_self]
  | _ => simp only [noteAsked, noteHeard, hpolled, and_self]

/-- **These are all the steps.** -/
theorem moves_of_step {e : ClientEvent} (h : s.step C e = some t) : Moves C s e t := by
  obtain ⟨a, ha, rfl⟩ := Option.map_eq_some_iff.1 h
  cases ClientApp.moves_of_step ha with
  | net e => exact Moves.net e
  | pending hpolled hrun =>
      obtain ⟨hasked, hheard⟩ := note_of_pending hpolled hrun
      rw [hasked, hheard]
      exact Moves.waits hpolled hrun
  | returned hpolled hrun => exact moves_of_returned hpolled hrun

/-- A step of a client leaves what reading changes alone, or it is a call of `receive_response`. -/
theorem Moves.readPart {e : ClientEvent} (hmove : Moves C s e t) (he : ∀ e', e ≠ .net e') :
    t.conn.readPart = s.conn.readPart ∧ t.heard = s.heard ∨
      ∃ r, BxpClientConnection.receiveResponse C s.conn = some (r, t.conn) ∧
        t.heard = s.heard.add r := by
  cases hmove with
  | net e => exact absurd rfl (he e)
  | asks hpolled hsend =>
      exact Or.inl ⟨BxpClientConnection.keeps_sendRequest_readPart C _ _ _ hsend, rfl⟩
  | askFails hpolled hsend =>
      exact Or.inl ⟨BxpClientConnection.keeps_sendRequest_readPart C _ _ _ hsend, rfl⟩
  | hears hpolled hrecv => exact Or.inr ⟨_, hrecv, rfl⟩
  | waits hpolled hrun => exact Or.inl ⟨rfl, rfl⟩
  | other hpolled hsend hread => exact Or.inl ⟨hread, rfl⟩

/-- **Every step keeps the transcript faithful.** -/
theorem Moves.faithful {e : ClientEvent} (hmove : Moves C s e t)
    (h : s.heard.Faithful maxHeader (decodeResponse C) s.conn) :
    t.heard.Faithful maxHeader (decodeResponse C) t.conn := by
  by_cases he : ∃ e', e = .net e'
  · obtain ⟨e', rfl⟩ := he
    cases hmove with
    | net => exact h.net e'
    | _ hpolled => cases hpolled
  · rcases hmove.readPart (not_exists.1 he) with ⟨hread, hheard⟩ | ⟨r, hrecv, hheard⟩
    · rw [hheard]
      exact h.frame hread
    · rw [hheard]
      exact h.add (scans_responseReader C) (BxpClientConnection.keeps_receiveResponse C) hrecv

/-- What the client does brings no bytes, and does not end the stream. -/
theorem Moves.arrived {e : ClientEvent} (hmove : Moves C s e t) (he : ∀ e', e ≠ .net e') :
    t.heard.arrived = s.heard.arrived ∧
      t.conn.controlRecv.ended = s.conn.controlRecv.ended := by
  rcases hmove.readPart he with ⟨hread, hheard⟩ | ⟨r, hrecv, hheard⟩
  · rw [hheard]
    exact ⟨rfl, congrArg RecvStream.ended (Prod.mk.inj hread).1⟩
  · obtain ⟨-, -, hended⟩ := (BxpClientConnection.keeps_receiveResponse C).unread hrecv
    rw [hheard]
    exact ⟨rfl, hended⟩

/-- **The transcript has all the bytes that arrive.** -/
theorem arrived_of_run {es : List ClientEvent} (hrun : run (step C) s es = some t) :
    t.heard.arrived = s.heard.arrivedWith s.conn (ClientEvent.netEvents es) := by
  have hend := run_inv_rest (P := fun u fs => u.heard.arrivedWith u.conn (ClientEvent.netEvents fs)
    = s.heard.arrivedWith s.conn (ClientEvent.netEvents es)) ?_ rfl hrun
  · rwa [show ClientEvent.netEvents [] = [] from rfl, Transcript.arrivedWith_nil] at hend
  · intro u e fs v hu hstep
    rw [← hu]
    have hmove := moves_of_step hstep
    by_cases hnet : ∃ e', e = .net e'
    · obtain ⟨e', rfl⟩ := hnet
      cases hmove with
      | net => exact u.heard.arrivedWith_net u.conn e' (ClientEvent.netEvents fs)
      | _ hpolled => cases hpolled
    · have hother := not_exists.1 hnet
      have hevents : ClientEvent.netEvents (e :: fs) = ClientEvent.netEvents fs := by
        cases e with
        | net e' => exact absurd rfl (hother e')
        | _ => rfl
      obtain ⟨harrived, hended⟩ := hmove.arrived hother
      rw [Transcript.arrivedWith, harrived, hended, hevents]
      rfl

/-- The transcript of a client is faithful, on the bytes its connection receives. -/
theorem faithful_of_run {c : BxpClientConnection} {es : List ClientEvent}
    (hrun : run (step C) (connected c) es = some s) :
    s.heard.Faithful maxHeader (decodeResponse C) s.conn ∧
      s.heard.arrived = c.receives (ClientEvent.netEvents es) := by
  constructor
  · refine run_inv (P := fun s => s.heard.Faithful maxHeader (decodeResponse C) s.conn) ?_ ?_ hrun
    · intro s e t h hstep
      exact (moves_of_step hstep).faithful h
    · exact Transcript.faithful_start c
  · rw [arrived_of_run hrun, BxpConnection.receives]
    rfl

end Asking

/-- **What a client hears depends on the bytes alone.**  Whatever calls the application makes, each
awaited to its end, and in whatever pieces the bytes arrive: its calls of `receive_response` return,
in order, what the items of the control stream are read as, and no item is refused for its length.
They fail on a stream that has ended only, and there only past the last of the items, unless the
server has reset the stream; and a call that waits does so because everything that has arrived has
been returned. -/
theorem client_hears {C : Capnp.Serializer} {c : BxpClientConnection} {es : List ClientEvent}
    {s : Asking} (hrun : run (Asking.step C) (.connected c) es = some s) :
    (∃ items fails, s.heard.results = items.map (itemResult (decodeResponse C)) ++ fails ∧
      items <+: scan maxHeader (c.receives (ClientEvent.netEvents es)) ∧
      (∀ n, Item.oversized n ∉ items) ∧
      (∀ r ∈ fails, ReadFails r) ∧
      (fails ≠ [] → (∃ e, s.conn.controlRecv.ended = some e) ∧
        (¬ s.conn.controlRecv.WasReset →
          items = scan maxHeader (c.receives (ClientEvent.netEvents es))))) ∧
    (BxpClientConnection.receiveResponse C s.conn = none →
      s.heard.results = (scan maxHeader (c.receives (ClientEvent.netEvents es))).map
        (itemResult (decodeResponse C))) := by
  obtain ⟨hfaithful, harrived⟩ := Asking.faithful_of_run hrun
  rw [← harrived]
  constructor
  · obtain ⟨items, fails, hresults, hitems, hfails, hpast⟩ := hfaithful.exists_items
    refine ⟨items, fails, hresults, hitems, ?_, hfails, hpast⟩
    intro n hn
    obtain ⟨hbig, hlt⟩ := lt_of_oversized_mem_scan (hitems.subset hn)
    rw [maxHeader] at hbig
    omega
  · intro hpending
    exact Follows.of_pending (scans_responseReader C) (s := s.conn) hfaithful hpending

/-- The client reads a header of the server, which then ends its stream. -/
def announcedRun : List ClientEvent :=
  [.net (.control [255, 255, 255, 127]), .call .receiveResponse, .net .controlFinish, .poll]

/-- One call has returned. -/
theorem exists_announcedRun :
    ∃ s, run (Asking.step Capnp.wire) (.connected (opened .client)) announcedRun = some s ∧
      s.heard.results.length = 1 := by
  have hone : (run (Asking.step Capnp.wire) (.connected (opened .client)) announcedRun).map
      (fun s => s.heard.results.length) = some 1 := by decide +kernel
  obtain ⟨s, hrun, hlen⟩ := Option.map_eq_some_iff.1 hone
  exact ⟨s, hrun, hlen⟩

/-- What is heard of these bytes: the call that awaited the body fails, since the stream has ended
and holds no item. -/
theorem client_hears_announced :
    ∃ (s : Asking) (r : Except BxpError BxpResponse),
      run (Asking.step Capnp.wire) (.connected (opened .client)) announcedRun = some s ∧
        s.heard.results = [r] ∧ ReadFails r ∧ ∃ e, s.conn.controlRecv.ended = some e := by
  obtain ⟨s, hrun, hlen⟩ := exists_announcedRun
  obtain ⟨items, fails, hresults, hitems, -, hfails, hpast⟩ := (client_hears hrun).1
  have hscan : scan maxHeader ((opened .client).receives (ClientEvent.netEvents announcedRun))
      = [] := by decide +kernel
  rw [hscan, List.prefix_nil] at hitems
  rw [hitems, List.map_nil, List.nil_append] at hresults
  obtain ⟨r, hr⟩ := List.length_eq_one_iff.1 (hresults ▸ hlen)
  refine ⟨s, r, hrun, hresults.trans hr, hfails r (hr ▸ List.mem_singleton_self r), ?_⟩
  exact (hpast (by rw [hr]; exact List.cons_ne_nil r [])).1

end Bxp

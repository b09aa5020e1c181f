/-
**The control plane, whole streams at a time.**

One call of `receive_request` or `receive_response` reads one frame and decodes its body.  Here both
are readers of length-prefixed frames in the sense of `BxpCore/LengthPrefix.lean`, and what holds of
such readers gives the statement about a whole control stream: the calls return the decoded bodies
in order, whatever the bodies are, and on the remains of a last frame they fail.

Main definitions:

* `Bxp.requestReader`, `Bxp.responseReader` — the two receiving functions, as readers;
* `Bxp.ReadsFrames` — the ways through a reader of frames, which the two sides share;
* `Bxp.sendAll` — a sender that sends one message after the other;
* `Bxp.FramedPlane` — what is expected of one direction of the control plane.

Main results:

* `Bxp.lawful_requestReader`, `Bxp.lawful_responseReader` — the two readers obey the laws, the
  server up to `maxControlMsg` and the client up to every length a header can announce;
* `Bxp.receive_returns` — on a control stream that has ended every call returns;
* `Bxp.sendAll_eq_ok` — what a sender puts on the stream are frames that decode to what was sent;
* `Bxp.framedPlane_requests_and_responses` — **both directions of the control plane are framed**.
-/

import BxpCore.CapnpWire
import BxpCore.Client

set_option relaxedAutoImplicit false
set_option autoImplicit false

namespace Bxp

open LengthPrefix BxpConnection

variable {side : Side} {α : Type}

/-! ### The receiving functions as readers of frames -/

/-- The call returned an error. -/
def Fails (r : Except BxpError α) : Prop := ∃ e, r = .error e

/-- A function that reads the control stream of one side, as a reader of it. -/
def controlReader (recv : Async (BxpConnection side) α) :
    Reader (BxpConnection side) (Except BxpError α) where
  recv := recv
  unread c := c.controlRecv.unread
  Ended c := ∃ e, c.controlRecv.ended = some e

/-- `receive_request` as a reader. -/
def requestReader (C : Capnp.Serializer) : Reader BxpServerConnection (Except BxpError BxpRequest) :=
  controlReader (BxpServerConnection.receiveRequest C)

/-- `receive_response` as a reader. -/
def responseReader (C : Capnp.Serializer) :
    Reader BxpClientConnection (Except BxpError BxpResponse) :=
  controlReader (BxpClientConnection.receiveResponse C)

/-- The ways through a reader of frames, where the length in the header is at most `limit`. -/
structure ReadsFrames (readFrame : Async (BxpConnection side) (List UInt8)) (limit : ℕ) : Prop where
  whole : ∀ {c n}, header c.controlRecv.unread = some n → n ≤ limit →
    n ≤ (c.controlRecv.unread.drop 4).length →
    readFrame c = some (.ok ((c.controlRecv.unread.drop 4).take n),
      (c.withMsgBuf n).withUnread ((c.controlRecv.unread.drop 4).drop n))
  cut_header : ∀ {c e}, header c.controlRecv.unread = none → c.controlRecv.ended = some e →
    readFrame c = some (.error (.readExact (e.toError c.controlRecv.unread.length)),
      c.withUnread [])
  cut_body : ∀ {c n e}, header c.controlRecv.unread = some n → n ≤ limit →
    (c.controlRecv.unread.drop 4).length < n → c.controlRecv.ended = some e →
    readFrame c = some (.error (.readExact (e.toError (c.controlRecv.unread.drop 4).length)),
      (c.withMsgBuf n).withUnread [])
  pending_header : ∀ {c}, header c.controlRecv.unread = none → c.controlRecv.ended = none →
    readFrame c = none
  pending_body : ∀ {c n}, header c.controlRecv.unread = some n → n ≤ limit →
    (c.controlRecv.unread.drop 4).length < n → c.controlRecv.ended = none → readFrame c = none
  /-- Beyond the limit a call still returns, when the stream has ended. -/
  beyond : ∀ {c n e}, header c.controlRecv.unread = some n → limit < n →
    c.controlRecv.ended = some e →
    ∃ r t, readFrame c = some (r, t) ∧ t.controlRecv.ended = some e

/-- The server reads frames up to `maxControlMsg`. -/
theorem BxpServerConnection.readsFrames : ReadsFrames readFrame maxControlMsg where
  whole := readFrame_whole
  cut_header := readFrame_cut_header
  cut_body := readFrame_cut_body
  pending_header := readFrame_pending_header
  pending_body := readFrame_pending_body
  beyond hheader hbig he := ⟨_, _, readFrame_oversized hheader hbig, he⟩

/-- The client reads frames up to any limit. -/
theorem BxpClientConnection.readsFrames (limit : ℕ) : ReadsFrames readFrame limit where
  whole hheader _ hlen := readFrame_whole hheader hlen
  cut_header := readFrame_cut_header
  cut_body hheader _ hlen he := readFrame_cut_body hheader hlen he
  pending_header := readFrame_pending_header
  pending_body hheader _ hlen he := readFrame_pending_body hheader hlen he
  beyond := by
    intro c n e hheader _ he
    rcases Nat.lt_or_ge (c.controlRecv.unread.drop 4).length n with hlt | hge
    · exact ⟨_, _, readFrame_cut_body hheader hlt he, he⟩
    · exact ⟨_, _, readFrame_whole hheader hge, he⟩

namespace ReadsFrames

variable {readFrame : Async (BxpConnection side) (List UInt8)} {limit : ℕ}

/-- A whole frame in front, with its body within the limit. -/
theorem whole_frame (h : ReadsFrames readFrame limit) (hlimit : limit < 2 ^ 32)
    {c : BxpConnection side} {body rest : List UInt8} (hbody : body.length ≤ limit)
    (hc : c.controlRecv.unread = frame body ++ rest) :
    readFrame c = some (.ok body, (c.withMsgBuf body.length).withUnread rest) := by
  have hheader : header c.controlRecv.unread = some body.length := by
    rw [hc, header_frame_append (lt_of_le_of_lt hbody hlimit)]
  rw [h.whole hheader hbody (by rw [hc, drop_frame_append]; simp), hc, drop_frame_append,
    List.take_left, List.drop_left]

/-- Decoding the message buffer leaves the connection as the reader of frames left it. -/
theorem receive (h : ReadsFrames readFrame limit) (hlimit : limit < 2 ^ 32)
    (decode : List UInt8 → Except BxpError α) {c : BxpConnection side} {body rest : List UInt8}
    (hbody : body.length ≤ limit) (hc : c.controlRecv.unread = frame body ++ rest) :
    (readFrame >>= fun msgBuf => Async.ofExcept (decode msgBuf)) c
      = some (decode body, (c.withMsgBuf body.length).withUnread rest) := by
  rw [Async.bind_of_ok (h.whole_frame hlimit hbody hc), Async.ofExcept_apply]

/-- **Reading a frame and decoding it** is lawful, whatever the decoding. -/
theorem lawful (h : ReadsFrames readFrame limit) (hlimit : limit < 2 ^ 32)
    (decode : List UInt8 → Except BxpError α) :
    Lawful (controlReader (readFrame >>= fun msgBuf => Async.ofExcept (decode msgBuf))) limit decode
      Fails where
  whole := by
    intro s body rest hbody hs
    exact ⟨_, h.receive hlimit decode hbody hs, rfl, Iff.rfl⟩
  truncated := by
    rintro s ⟨e, he⟩ htail
    rcases htail.header_cases hlimit with hnone | ⟨n, hn, hle, hlen⟩
    · -- the stream ends inside the header
      exact ⟨_, _, Async.bind_of_error (h.cut_header hnone he), ⟨_, rfl⟩, rfl, ⟨e, he⟩⟩
    · -- the stream ends inside the body
      exact ⟨_, _, Async.bind_of_error (h.cut_body hn hle hlen he), ⟨_, rfl⟩, rfl, ⟨e, he⟩⟩
  pending := by
    intro s hopen htail
    have hended : s.controlRecv.ended = none := by
      rw [Option.eq_none_iff_forall_ne_some]
      intro e he
      exact hopen ⟨e, he⟩
    rcases htail.header_cases hlimit with hnone | ⟨n, hn, hle, hlen⟩
    · exact Async.bind_of_pending (h.pending_header hnone hended)
    · exact Async.bind_of_pending (h.pending_body hn hle hlen hended)
  total := by
    rintro s ⟨e, he⟩
    have hreturns : ∃ r t, readFrame s = some (r, t) ∧ t.controlRecv.ended = some e := by
      cases hheader : header s.controlRecv.unread with
      | none => exact ⟨_, _, h.cut_header hheader he, he⟩
      | some n =>
          rcases Nat.lt_or_ge limit n with hbig | hle
          · exact h.beyond hheader hbig he
          · rcases Nat.lt_or_ge (s.controlRecv.unread.drop 4).length n with hlt | hge
            · exact ⟨_, _, h.cut_body hheader hle hlt he, he⟩
            · exact ⟨_, _, h.whole hheader hle hge, he⟩
    obtain ⟨r, t, hframe, ht⟩ := hreturns
    cases r with
    | ok body => exact ⟨_, _, Async.bind_of_ok hframe, ⟨e, ht⟩⟩
    | error err => exact ⟨_, _, Async.bind_of_error hframe, ⟨e, ht⟩⟩

end ReadsFrames

/-- `receive_request` with a whole frame in front. -/
theorem BxpServerConnection.receiveRequest_frame (C : Capnp.Serializer) {s : BxpServerConnection}
    {body rest : List UInt8} (hbody : body.length ≤ maxControlMsg)
    (hs : s.controlRecv.unread = frame body ++ rest) :
    receiveRequest C s = some (decodeRequest C body, (s.withMsgBuf body.length).withUnread rest) :=
  readsFrames.receive maxControlMsg_lt (decodeRequest C) hbody hs

/-- `receive_response` with a whole frame in front. -/
theorem BxpClientConnection.receiveResponse_frame (C : Capnp.Serializer) {c : BxpClientConnection}
    {body rest : List UInt8} (hbody : body.length ≤ maxControlMsg)
    (hc : c.controlRecv.unread = frame body ++ rest) :
    receiveResponse C c = some (decodeResponse C body, (c.withMsgBuf body.length).withUnread rest) :=
  (readsFrames maxControlMsg).receive maxControlMsg_lt (decodeResponse C) hbody hc

/-- **The server reads frames** with bodies of at most `maxControlMsg` bytes. -/
theorem lawful_requestReader (C : Capnp.Serializer) :
    Lawful (requestReader C) maxControlMsg (decodeRequest C) Fails :=
  BxpServerConnection.readsFrames.lawful maxControlMsg_lt (decodeRequest C)

/-- **The client reads frames** with bodies up to any limit that a header can announce. -/
theorem lawful_responseReader (C : Capnp.Serializer) {limit : ℕ} (hlimit : limit < 2 ^ 32) :
    Lawful (responseReader C) limit (decodeResponse C) Fails :=
  (BxpClientConnection.readsFrames limit).lawful hlimit (decodeResponse C)

/-- A control stream that goes on has not ended. -/
theorem not_ended {recv : Async (BxpConnection side) α} {c : BxpConnection side}
    (h : c.controlRecv.ended = none) : ¬ (controlReader recv).Ended c := by
  rintro ⟨e, he⟩
  rw [h] at he
  cases he

/-- **A call while messages are on the way** waits for more bytes, or returns the first of them. -/
theorem recv_of_carries_ok {R : Reader (BxpConnection side) (Except BxpError α)} {limit : ℕ}
    {decode : List UInt8 → Except BxpError α} (hR : Lawful R limit decode Fails)
    {c : BxpConnection side} (hopen : ¬ R.Ended c) {more : List UInt8} {as : List α}
    (hc : Carries limit decode (R.unread c ++ more) (as.map .ok)) :
    (R.recv c = none ∧ (more = [] → as = [])) ∨
      ∃ a as' c', as = a :: as' ∧ R.recv c = some (.ok a, c') ∧
        Carries limit decode (R.unread c' ++ more) (as'.map .ok) := by
  rcases hR.recv_of_carries hopen hc with ⟨hnone, hnil⟩ | ⟨r, rs, c', hcons, hsome, -, hrest⟩
  · refine Or.inl ⟨hnone, ?_⟩
    intro hmore
    exact List.map_eq_nil_iff.1 (hnil hmore)
  · obtain ⟨a, as', rfl, rfl, rfl⟩ := List.map_eq_cons_iff.1 hcons
    exact Or.inr ⟨a, as', c', rfl, hsome, hrest⟩

/-- **On a control stream that has ended every call returns**, whatever the bytes on it. -/
theorem receive_returns (C : Capnp.Serializer) (n : ℕ) :
    (∀ s : BxpServerConnection, (requestReader C).Ended s →
      ∃ rs t, (requestReader C).results n s = some (rs, t)) ∧
    (∀ c : BxpClientConnection, (responseReader C).Ended c →
      ∃ rs t, (responseReader C).results n c = some (rs, t)) := by
  constructor
  · intro s hend
    obtain ⟨tr, t, htrace⟩ := (lawful_requestReader C).exists_trace n hend
    exact ⟨_, t, Reader.results_of_trace htrace⟩
  · intro c hend
    obtain ⟨tr, t, htrace⟩ := (lawful_responseReader C maxControlMsg_lt).exists_trace n hend
    exact ⟨_, t, Reader.results_of_trace htrace⟩

/-! ### The senders -/

/-- Sending one message after the other, until the first error. -/
def sendAll (send : α → Async (BxpConnection side) Unit) : List α → Async (BxpConnection side) Unit
  | [] => pure ()
  | a :: as => do
      send a
      sendAll send as

/-- A message that was sent is on the control stream, as a frame around its encoding. -/
theorem send_eq_ok {encoded : Except BxpError (List UInt8)} {k k' : BxpConnection side}
    (h : (Async.ofExcept encoded >>= fun message => writeControl (frameMessage message)) k
      = some (.ok (), k')) :
    ∃ body, encoded = .ok body ∧ k'.controlSend.buf = k.controlSend.buf ++ frame body := by
  obtain ⟨body, t, hencode, hwrite⟩ := Async.bind_eq_ok h
  rw [Async.ofExcept_apply, Option.some.injEq, Prod.mk.injEq] at hencode
  obtain ⟨hbody, rfl⟩ := hencode
  refine ⟨body, hbody, ?_⟩
  rw [buf_of_writeControl_ok hwrite, frameMessage_eq]

/-- A response that was sent is one small frame on the control stream, and decodes to what was
sent. -/
theorem BxpServerConnection.sendResponse_eq_ok {C : Capnp.Serializer}
    (hrw : C.ReadAfterWrite maxControlMsg) (hwd : C.WritesData) {reqId : UInt32}
    {status : BxpStatus} {c c' : BxpServerConnection}
    (h : sendResponse C reqId status c = some (.ok (), c')) :
    ∃ body, c'.controlSend.buf = c.controlSend.buf ++ frame body ∧ body.length ≤ maxControlMsg ∧
      decodeResponse C body = .ok { reqId := reqId, status := status } := by
  obtain ⟨body, hbody, hbuf⟩ := send_eq_ok h
  obtain ⟨body', hbody', hlen⟩ := encodeResponse_ok hwd reqId status
  obtain rfl := Except.ok.inj (hbody'.symm.trans hbody)
  have hsmall : body'.length ≤ maxControlMsg := by
    rw [hlen]
    decide
  exact ⟨body', hbuf, hsmall, decodeResponse_encodeResponse hrw hbody hsmall⟩

/-- **What a sender puts on the control stream** are frames, and each decodes to what was sent. -/
theorem sendAll_eq_ok {send : α → Async (BxpConnection side) Unit}
    {encode : α → Except BxpError (List UInt8)} {decode : List UInt8 → Except BxpError α} {limit : ℕ}
    (hsend : ∀ a k k', send a k = some (.ok (), k') →
      ∃ body, encode a = .ok body ∧ k'.controlSend.buf = k.controlSend.buf ++ frame body)
    (hdecode : ∀ a body, encode a = .ok body → body.length ≤ limit → decode body = .ok a)
    {as : List α} (hlimit : ∀ a ∈ as, ∀ body, encode a = .ok body → body.length ≤ limit)
    {k k' : BxpConnection side} (h : sendAll send as k = some (.ok (), k')) :
    ∃ bodies, k'.controlSend.buf = k.controlSend.buf ++ frames bodies ∧
      (∀ body ∈ bodies, body.length ≤ limit) ∧ bodies.map decode = as.map .ok := by
  induction as generalizing k with
  | nil =>
      rw [sendAll, Async.pure_apply, Option.some.injEq, Prod.mk.injEq] at h
      obtain ⟨-, rfl⟩ := h
      exact ⟨[], by simp, by simp, rfl⟩
  | cons a as ih =>
      obtain ⟨_, t, hfirst, hrest⟩ := Async.bind_eq_ok h
      obtain ⟨body, hbody, hbuf⟩ := hsend a k t hfirst
      obtain ⟨bodies, hbufs, hbodies, hmap⟩ := ih (fun b hb => hlimit b (by simp [hb])) hrest
      have hlen : body.length ≤ limit := hlimit a (by simp) body hbody
      refine ⟨body :: bodies, ?_, ?_, ?_⟩
      · rw [hbufs, hbuf, frames_cons, List.append_assoc]
      · intro b hb
        rcases List.mem_cons.1 hb with rfl | hb
        · exact hlen
        · exact hbodies b hb
      · rw [List.map_cons, List.map_cons, hdecode a body hbody hlen, hmap]

/-! ### Both directions -/

/-- One direction of the control plane, with `send` at one end of it and the reader `R` at the
other, for messages of at most `limit` bytes. -/
structure FramedPlane {side' : Side} (send : α → Async (BxpConnection side') Unit)
    (encode : α → Except BxpError (List UInt8)) (R : Reader (BxpConnection side) (Except BxpError α))
    (decode : List UInt8 → Except BxpError α) (limit : ℕ) : Prop where
  /-- On the frames of any bodies and the remains of one more frame, the calls return the decoded
  bodies in order, and all the later ones fail. -/
  results : ∀ (bodies : List (List UInt8)) (tail : List UInt8) (c : BxpConnection side) (m : ℕ),
    (∀ body ∈ bodies, body.length ≤ limit) → Truncated limit tail →
    R.unread c = frames bodies ++ tail → R.Ended c →
    ∃ fails c', R.results (bodies.length + m) c = some (bodies.map decode ++ fails, c') ∧
      fails.length = m ∧ ∀ r ∈ fails, Fails r
  /-- On a stream that takes what it is given a message within the limit is sent: the call returns
  `Ok`, and its frame is what it has written. -/
  sends : ∀ (a : α) (k : BxpConnection side') (body : List UInt8),
    k.controlSend.flow = .takes → encode a = .ok body → body.length ≤ limit →
    ∃ k', send a k = some (.ok (), k') ∧ k'.controlSend.buf = k.controlSend.buf ++ frame body
  /-- A body that the sender produced decodes to what was sent. -/
  sent : ∀ (a : α) (k k' : BxpConnection side') (body : List UInt8),
    send a k = some (.ok (), k') → k'.controlSend.buf = k.controlSend.buf ++ frame body →
    body.length ≤ limit → decode body = .ok a
  /-- Everything a sender wrote is decoded to exactly what it sent. -/
  all_sent : ∀ (as : List α) (k k' : BxpConnection side') (written : List UInt8)
    (c : BxpConnection side), sendAll send as k = some (.ok (), k') →
    k'.controlSend.buf = k.controlSend.buf ++ written →
    (∀ a ∈ as, ∀ body, encode a = .ok body → body.length ≤ limit) → R.unread c = written →
    ∃ c', R.results as.length c = some (as.map .ok, c') ∧ R.unread c' = []

/-- A lawful reader and a sender of frames make a framed plane. -/
theorem framedPlane_of_lawful {side' : Side} {send : α → Async (BxpConnection side') Unit}
    {encode : α → Except BxpError (List UInt8)} {R : Reader (BxpConnection side) (Except BxpError α)}
    {decode : List UInt8 → Except BxpError α} {limit : ℕ} (hR : Lawful R limit decode Fails)
    (hopen : ∀ a k body, k.controlSend.flow = .takes → encode a = .ok body →
      ∃ k', send a k = some (.ok (), k'))
    (hsend : ∀ a k k', send a k = some (.ok (), k') →
      ∃ body, encode a = .ok body ∧ k'.controlSend.buf = k.controlSend.buf ++ frame body)
    (hdecode : ∀ a body, encode a = .ok body → body.length ≤ limit → decode body = .ok a) :
    FramedPlane send encode R decode limit where
  results := by
    intro bodies tail c m hbodies htail hunread hend
    exact hR.results_framed hbodies htail hunread hend m
  sends := by
    intro a k body hflow hbody _
    obtain ⟨k', hok⟩ := hopen a k body hflow hbody
    obtain ⟨body', hbody', hbuf⟩ := hsend a k k' hok
    obtain rfl := Except.ok.inj (hbody'.symm.trans hbody)
    exact ⟨k', hok, hbuf⟩
  sent := by
    intro a k k' body hok hbuf hlen
    obtain ⟨body', hbody', hbuf'⟩ := hsend a k k' hok
    have hframe : frame body' = frame body := List.append_cancel_left (hbuf'.symm.trans hbuf)
    rw [frame_injective hframe] at hbody'
    exact hdecode a body hbody' hlen
  all_sent := by
    intro as k k' written c hok hbuf hlimit hunread
    obtain ⟨bodies, hbufs, hbodies, hmap⟩ := sendAll_eq_ok hsend hdecode hlimit hok
    have hwritten : written = frames bodies := List.append_cancel_left (hbuf.symm.trans hbufs)
    have hlength : as.length = bodies.length := by
      have hlen := congrArg List.length hmap
      rw [List.length_map, List.length_map] at hlen
      exact hlen.symm
    have hframes : R.unread c = frames bodies ++ [] := by
      rw [hunread, hwritten, List.append_nil]
    obtain ⟨c', htrace, hc', -⟩ := hR.trace_frames hbodies hframes
    refine ⟨c', ?_, hc'⟩
    rw [hlength, Reader.results_of_trace htrace, map_snd_framedTrace, hmap]

/-- **Both directions of the control plane are framed.** -/
theorem framedPlane_requests_and_responses {C : Capnp.Serializer}
    (hrw : C.ReadAfterWrite maxControlMsg) :
    FramedPlane
        (fun req : BxpRequest => BxpClientConnection.sendRequest C req.reqId req.action req.uri)
        (fun req => encodeRequest C req.reqId req.action req.uri) (requestReader C)
        (decodeRequest C) maxControlMsg ∧
      FramedPlane
        (fun resp : BxpResponse => BxpServerConnection.sendResponse C resp.reqId resp.status)
        (fun resp => encodeResponse C resp.reqId resp.status) (responseReader C)
        (decodeResponse C) maxControlMsg := by
  constructor
  · refine framedPlane_of_lawful (lawful_requestReader C) ?_ ?_ ?_
    · intro req k body hflow hbody
      exact ⟨_, BxpClientConnection.sendRequest_of_open hflow hbody⟩
    · intro req k k' h
      exact send_eq_ok h
    · intro req body h hlen
      exact decodeRequest_encodeRequest hrw h hlen
  · refine framedPlane_of_lawful (lawful_responseReader C maxControlMsg_lt) ?_ ?_ ?_
    · intro resp k body hflow hbody
      exact ⟨_, BxpServerConnection.sendResponse_of_open hflow hbody⟩
    · intro resp k k' h
      exact send_eq_ok h
    · intro resp body h hlen
      exact decodeResponse_encodeResponse hrw h hlen

/-- The actual encoding reads what it writes, far beyond the limit of the control plane. -/
theorem wire_readAfterWrite_maxControlMsg : Capnp.wire.ReadAfterWrite maxControlMsg :=
  Capnp.wire_readAfterWrite.mono (by decide)

/-- The message of the request 7, to push to `bxp://x`. -/
def pushMessage : List UInt8 :=
  [0, 0, 0, 0, 4, 0, 0, 0, 0, 0, 0, 0, 1, 0, 1, 0, 7, 0, 0, 0, 1, 0, 0, 0, 1, 0, 0, 0, 66, 0, 0, 0,
    98, 120, 112, 58, 47, 47, 120, 0]

theorem decodeRequest_pushMessage :
    decodeRequest Capnp.wire pushMessage
      = .ok { reqId := 7, action := .push, uri := "bxp://x" } := by
  have hencode : encodeRequest Capnp.wire 7 .push "bxp://x" = .ok pushMessage := rfl
  exact decodeRequest_encodeRequest wire_readAfterWrite_maxControlMsg hencode (by decide)

/-- Both directions, on the actual encoding of the messages. -/
theorem framedPlane_wire :
    FramedPlane
        (fun req : BxpRequest =>
          BxpClientConnection.sendRequest Capnp.wire req.reqId req.action req.uri)
        (fun req => encodeRequest Capnp.wire req.reqId req.action req.uri)
        (requestReader Capnp.wire) (decodeRequest Capnp.wire) maxControlMsg ∧
      FramedPlane
        (fun resp : BxpResponse =>
          BxpServerConnection.sendResponse Capnp.wire resp.reqId resp.status)
        (fun resp => encodeResponse Capnp.wire resp.reqId resp.status)
        (responseReader Capnp.wire) (decodeResponse Capnp.wire) maxControlMsg :=
  framedPlane_requests_and_responses wire_readAfterWrite_maxControlMsg

end Bxp

/-
**The size of a message, and who checks it.**

Three lengths describe a request: that of its URI, that of its encoding, and the one its frame
announces; and Cap'n Proto has one more, in the segment table of the message.  `send_request`
checks none of them, `receive_request` compares the announced one with `MAX_CONTROL_MSG`, and
neither side compares the announced one with the segment table.  This module says what follows: on
which requests the two ends agree, and what becomes of the bytes between the end of a message and
the end of its frame.

Main definitions:

* `Bxp.WithinLimit` — a request whose encoding is within the limit of the receiver;
* `Bxp.SenderReceiverAgree` — what the sender accepts the receiver accepts;
* `Bxp.longUri` — a URI of a given length.

Main results:

* `Bxp.senderReceiverAgree_iff` — **the two ends agree on exactly the requests whose encoding is
  within the limit**;
* `Bxp.encodeRequest_wire_fits_iff` — in bytes of the URI: up to 1048527 of them;
* `Bxp.message_and_rest_of_frame` — **a frame that decodes starts with a message, and what follows
  the message is dropped with the frame**.
-/

import BxpCore.Framing

set_option relaxedAutoImplicit false
set_option autoImplicit false

namespace Bxp

open LittleEndian LengthPrefix BxpConnection Capnp

/-! ### What the sender accepts -/

/-- A request of at most `MAX_CONTROL_MSG` bytes, as a frame carries it. -/
def WithinLimit (C : Serializer) (reqId : UInt32) (action : BxpAction) (uri : String) : Prop :=
  ∃ body, encodeRequest C reqId action uri = .ok body ∧ body.length ≤ maxControlMsg

/-- **What the sender accepts the receiver accepts.**  When `send_request` returns `Ok`, the header
it wrote is the number of the bytes it wrote behind it, and `receive_request` returns the request
from these bytes; when the request has no encoding within the limit of the receiver, `send_request`
returns an error and writes nothing.  It always returns, except that what is within the limit may
have to wait for credit. -/
def SenderReceiverAgree (C : Serializer) (reqId : UInt32) (action : BxpAction) (uri : String) :
    Prop :=
  ∀ k : BxpClientConnection, (k.controlSend.flow = .stalls → ¬ WithinLimit C reqId action uri) →
    ∃ r k', BxpClientConnection.sendRequest C reqId action uri k = some (r, k') ∧
      (r = .ok () → ∃ lenBuf body,
        k'.controlSend.buf = k.controlSend.buf ++ (lenBuf ++ body) ∧ lenBuf.length = 4 ∧
          ofLe lenBuf = body.length ∧
          ∀ (s : BxpServerConnection) (rest : List UInt8),
            s.controlRecv.unread = lenBuf ++ body ++ rest →
            ∃ s', BxpServerConnection.receiveRequest C s
              = some (.ok { reqId := reqId, action := action, uri := uri }, s')) ∧
      (¬ WithinLimit C reqId action uri →
        (∃ e, r = .error e ∧ e ≠ .panicked) ∧ k'.controlSend = k.controlSend)

/-- Unless the control stream stalls, sending a request returns. -/
theorem sendRequest_returns (C : Serializer) (reqId : UInt32) (action : BxpAction) (uri : String)
    {k : BxpClientConnection} (h : k.controlSend.flow ≠ .stalls) :
    ∃ r k', BxpClientConnection.sendRequest C reqId action uri k = some (r, k') := by
  cases hencode : encodeRequest C reqId action uri with
  | error e => exact ⟨_, _, BxpClientConnection.sendRequest_of_error hencode k⟩
  | ok message =>
      have hok : (Async.ofExcept (encodeRequest C reqId action uri) : Async BxpClientConnection _) k
          = some (.ok message, k) := by
        rw [Async.ofExcept_apply, hencode]
      obtain ⟨r, k', hwrite⟩ := writeControl_returns h (frameMessage message)
      exact ⟨r, k', by rw [BxpClientConnection.sendRequest, Async.bind_of_ok hok, hwrite]⟩

/-- A request within the limit is understood. -/
theorem senderReceiverAgree_of_withinLimit {C : Serializer}
    (hrw : C.ReadAfterWrite maxControlMsg) {reqId : UInt32} {action : BxpAction} {uri : String}
    (h : WithinLimit C reqId action uri) : SenderReceiverAgree C reqId action uri := by
  intro k hk
  obtain ⟨r, k', hsend⟩ := sendRequest_returns C reqId action uri fun hstalls => hk hstalls h
  refine ⟨r, k', hsend, ?_, fun hnot => absurd h hnot⟩
  rintro rfl
  obtain ⟨body, hbody, hlen⟩ := h
  obtain ⟨body', hbody', hbuf⟩ := send_eq_ok hsend
  have hsame : body' = body := Except.ok.inj (hbody'.symm.trans hbody)
  subst hsame
  have hlt : body'.length < 2 ^ 32 := lt_of_le_of_lt hlen maxControlMsg_lt
  refine ⟨le32 (UInt32.ofNat body'.length), body', hbuf, length_le32 _, ofLe_le32_length hlt, ?_⟩
  intro s rest hs
  rw [← decodeRequest_encodeRequest hrw hbody hlen]
  exact ⟨_, BxpServerConnection.receiveRequest_frame C hlen hs⟩

/-- A request that Cap'n Proto refuses is refused by the sender. -/
theorem senderReceiverAgree_of_refused {C : Serializer} {reqId : UInt32} {action : BxpAction}
    {uri : String} {e : BxpError} (h : encodeRequest C reqId action uri = .error e)
    (he : e ≠ .panicked) : SenderReceiverAgree C reqId action uri := by
  intro k hk
  refine ⟨_, _, BxpClientConnection.sendRequest_of_error h k, ?_, fun _ => ⟨⟨e, rfl, he⟩, rfl⟩⟩
  intro hok
  cases hok

/-- A request that the builder panics on, or whose encoding is over the limit, is not refused. -/
theorem not_senderReceiverAgree {C : Serializer} {reqId : UInt32} {action : BxpAction}
    {uri : String} (h : encodeRequest C reqId action uri = .error .panicked ∨
      ∃ body, encodeRequest C reqId action uri = .ok body ∧ maxControlMsg < body.length) :
    ¬ SenderReceiverAgree C reqId action uri := by
  intro hagree
  obtain ⟨r, k', hsend, -, hrefuse⟩ := hagree (opened .client) (by rintro ⟨⟩)
  rcases h with hpanic | ⟨body, hbody, hbig⟩
  · have hnot : ¬ WithinLimit C reqId action uri := by
      rintro ⟨body, hbody, -⟩
      rw [hpanic] at hbody
      cases hbody
    obtain ⟨⟨e, he, hne⟩, -⟩ := hrefuse hnot
    obtain ⟨rfl, -⟩ := Async.outcome_unique hsend (BxpClientConnection.sendRequest_of_error hpanic _)
    exact hne (Except.error.inj he).symm
  · have hnot : ¬ WithinLimit C reqId action uri := by
      rintro ⟨body', hbody', hlen⟩
      rw [hbody, Except.ok.injEq] at hbody'
      rw [← hbody'] at hlen
      exact absurd hlen (Nat.not_le_of_lt hbig)
    obtain ⟨⟨e, he, -⟩, -⟩ := hrefuse hnot
    obtain ⟨rfl, -⟩ := Async.outcome_unique hsend (BxpClientConnection.sendRequest_of_open rfl hbody)
    cases he

/-- **The two ends agree on exactly the requests whose URI the builder takes and whose encoding is
within the limit of the receiver.** -/
theorem senderReceiverAgree_iff {C : Serializer} (hrw : C.ReadAfterWrite maxControlMsg)
    (reqId : UInt32) (action : BxpAction) (uri : String) :
    SenderReceiverAgree C reqId action uri ↔
      C.textFits uri.utf8ByteSize = true ∧
        ∀ body, C.writeMessage (buildRequest reqId action uri) = .ok body →
          body.length ≤ maxControlMsg := by
  constructor
  · intro hagree
    have hfits : C.textFits uri.utf8ByteSize = true := by
      by_contra hnot
      exact not_senderReceiverAgree (Or.inl (if_neg hnot)) hagree
    refine ⟨hfits, fun body hbody => ?_⟩
    by_contra hbig
    exact not_senderReceiverAgree
      (Or.inr ⟨body, encodeRequest_eq_ok_iff.2 ⟨hfits, hbody⟩, Nat.lt_of_not_le hbig⟩) hagree
  · rintro ⟨hfits, hlen⟩
    cases hwrite : C.writeMessage (buildRequest reqId action uri) with
    | ok body =>
        exact senderReceiverAgree_of_withinLimit hrw
          ⟨body, encodeRequest_eq_ok_iff.2 ⟨hfits, hwrite⟩, hlen body hwrite⟩
    | error e =>
        refine senderReceiverAgree_of_refused (e := .capnp e) ?_ (by rintro ⟨⟩)
        rw [encodeRequest, if_pos hfits, hwrite]
        rfl

/-- A small request, on the actual encoding. -/
theorem senderReceiverAgree_ping : SenderReceiverAgree wire 1 .ping "bxp://health" :=
  (senderReceiverAgree_iff wire_readAfterWrite_maxControlMsg 1 .ping "bxp://health").2
    ⟨by decide, fun body h => by rw [← Except.ok.inj h]; decide⟩

theorem length_text_buildRequest (reqId : UInt32) (action : BxpAction) (uri : String) :
    (buildRequest reqId action uri).text.length = uri.utf8ByteSize := by
  rw [text_buildRequest, Array.length_toList]
  rfl

/-- **The limit in bytes of the URI**: a request is encoded in at most `MAX_CONTROL_MSG` bytes when
its URI has at most 1048527. -/
theorem encodeRequest_wire_fits_iff (reqId : UInt32) (action : BxpAction) (uri : String) :
    (∀ body, wire.writeMessage (buildRequest reqId action uri) = .ok body →
      body.length ≤ maxControlMsg) ↔ uri.utf8ByteSize ≤ 1048527 := by
  have hpointers : (buildRequest reqId action uri).size.pointers ≠ 0 := by
    simp [buildRequest, Schema.Request.setResourceUri, Schema.Request.setAction,
      Schema.Request.setRequestId, Schema.Request.structSize]
  have hdata : (buildRequest reqId action uri).size.data = 1 := by
    simp [buildRequest, Schema.Request.setResourceUri, Schema.Request.setAction,
      Schema.Request.setRequestId, Schema.Request.structSize]
  have hlength : ∀ body, wire.writeMessage (buildRequest reqId action uri) = .ok body →
      (body.length ≤ maxControlMsg ↔ uri.utf8ByteSize ≤ 1048527) := by
    intro body hbody
    have hmax : maxControlMsg = 1048576 := rfl
    rw [Wire.length_writeMessage hpointers hbody, hdata, length_text_buildRequest,
      Wire.firstSegmentWords, Wire.textWords, hmax]
    split <;> omega
  constructor
  · intro h
    exact (hlength _ rfl).1 (h _ rfl)
  · intro h body hbody
    exact (hlength body hbody).2 h

/-- A URI of `n` letters. -/
def longUri (n : ℕ) : String := "".pushn 'a' n

theorem utf8ByteSize_longUri (n : ℕ) : (longUri n).utf8ByteSize = n := by
  induction n with
  | zero => rfl
  | succ n ih =>
      have hpush : longUri (n + 1) = (longUri n).push 'a' := rfl
      rw [hpush, String.utf8ByteSize_push, ih]
      rfl

/-- One letter over the limit: the request is written, and not accepted. -/
theorem not_senderReceiverAgree_longUri : ¬ SenderReceiverAgree wire 1 .fetch (longUri 1048528) := by
  have hfits : wire.textFits (longUri 1048528).utf8ByteSize = true := by
    rw [utf8ByteSize_longUri]
    rfl
  refine not_senderReceiverAgree (Or.inr ⟨_, encodeRequest_eq_ok_iff.2 ⟨hfits, rfl⟩, ?_⟩)
  by_contra hle
  have hlimit := (encodeRequest_wire_fits_iff 1 .fetch (longUri 1048528)).1 fun body hbody => by
    rw [← Except.ok.inj hbody]
    exact Nat.le_of_not_lt hle
  rw [utf8ByteSize_longUri] at hlimit
  omega

/-! ### What follows the message in a frame -/

/-- **A frame that decodes starts with a message, and the rest of it is dropped**: the size the
segment table declares is within the frame, the result is the decoding of that many bytes alone, and
the next call starts behind the frame.  In a frame that a sender made nothing follows the
message. -/
theorem message_and_rest_of_frame {C : Serializer} (hrw : C.ReadAfterWrite maxControlMsg)
    (hrd : C.ReadsDeclared) :
    (∀ (s s' : BxpServerConnection) (body rest : List UInt8) (req : BxpRequest),
      body.length ≤ maxControlMsg → s.controlRecv.unread = frame body ++ rest →
      BxpServerConnection.receiveRequest C s = some (.ok req, s') →
      s'.controlRecv.unread = rest ∧
        ∃ n, declaredSize body = some n ∧ n ≤ body.length ∧
          decodeRequest C (body.take n) = .ok req) ∧
    (∀ (c c' : BxpClientConnection) (body rest : List UInt8) (resp : BxpResponse),
      body.length ≤ maxControlMsg → c.controlRecv.unread = frame body ++ rest →
      BxpClientConnection.receiveResponse C c = some (.ok resp, c') →
      c'.controlRecv.unread = rest ∧
        ∃ n, declaredSize body = some n ∧ n ≤ body.length ∧
          decodeResponse C (body.take n) = .ok resp) ∧
    (∀ (reqId : UInt32) (action : BxpAction) (uri : String) (body : List UInt8),
      encodeRequest C reqId action uri = .ok body → body.length ≤ maxControlMsg →
      declaredSize body = some body.length) ∧
    (∀ (reqId : UInt32) (status : BxpStatus) (body : List UInt8),
      encodeResponse C reqId status = .ok body → body.length ≤ maxControlMsg →
      declaredSize body = some body.length) := by
  refine ⟨?_, ?_, ?_, ?_⟩
  · intro s s' body rest req hlen hs hrecv
    have hwhole := BxpServerConnection.receiveRequest_frame C hlen hs
    obtain ⟨hdecode, rfl⟩ := Async.outcome_unique hrecv hwhole
    exact ⟨rfl, decodeRequest_take hrd hdecode.symm⟩
  · intro c c' body rest resp hlen hc hrecv
    have hwhole := BxpClientConnection.receiveResponse_frame C hlen hc
    obtain ⟨hdecode, rfl⟩ := Async.outcome_unique hrecv hwhole
    exact ⟨rfl, decodeResponse_take hrd hdecode.symm⟩
  · intro reqId action uri body hbody hlen
    exact Serializer.declaredSize_of_write hrw hrd (encodeRequest_eq_ok_iff.1 hbody).2 hlen
  · intro reqId status body hbody hlen
    exact Serializer.declaredSize_of_write hrw hrd (encodeResponse_eq_ok_iff.1 hbody) hlen

/-- A message, and one byte that does not belong to it. -/
def paddedMessage : List UInt8 := pushMessage ++ [255]

/-- A server with the frame of both on its control stream. -/
def paddedConnection : BxpServerConnection :=
  { opened .server with
    controlRecv := { unread := frame paddedMessage, ended := some .finished } }

theorem length_paddedMessage : paddedMessage.length ≤ maxControlMsg := by decide

theorem unread_paddedConnection :
    paddedConnection.controlRecv.unread = frame paddedMessage ++ [] := (List.append_nil _).symm

theorem receiveRequest_paddedConnection :
    ∃ s', BxpServerConnection.receiveRequest wire paddedConnection
      = some (.ok { reqId := 7, action := .push, uri := "bxp://x" }, s') := by
  have hdecode : decodeRequest wire paddedMessage
      = .ok { reqId := 7, action := .push, uri := "bxp://x" } := by
    -- the reader stops in front of the last byte
    obtain ⟨m, r, hread, hroot, hid, haction, htext⟩ : ∃ m r,
        wire.readMessage paddedMessage = .ok (m, [255]) ∧ wire.getRoot m = .ok r ∧
          getDataField 4 0 r.data = 7 ∧ getDataField 2 2 r.data = BxpAction.push.into.toUInt16.toNat ∧
          r.text = .ok "bxp://x".toByteArray.data.toList :=
      ⟨_, _, rfl, rfl, rfl, rfl, rfl⟩
    rw [decodeRequest_of_read hread hroot haction htext, hid]
    rfl
  rw [← hdecode]
  exact ⟨_, BxpServerConnection.receiveRequest_frame wire length_paddedMessage
    unread_paddedConnection⟩

/-- **A frame that is accepted and is not exactly one message**: the table declares 40 bytes, and
the frame has 41. -/
theorem accepted_with_byte_to_spare :
    (∃ s', BxpServerConnection.receiveRequest wire paddedConnection
      = some (.ok { reqId := 7, action := .push, uri := "bxp://x" }, s')) ∧
      declaredSize paddedMessage = some 40 ∧ paddedMessage.length = 41 :=
  ⟨receiveRequest_paddedConnection, rfl, rfl⟩

/-- What the general statement says of this frame: the byte is dropped, and the message alone
decodes to the same request. -/
theorem rest_of_padded_frame :
    ∃ n, declaredSize paddedMessage = some n ∧ n ≤ paddedMessage.length ∧
      decodeRequest wire (paddedMessage.take n)
        = .ok { reqId := 7, action := .push, uri := "bxp://x" } := by
  obtain ⟨s', hrecv⟩ := receiveRequest_paddedConnection
  exact ((message_and_rest_of_frame wire_readAfterWrite_maxControlMsg wire_readsDeclared).1
    paddedConnection s' paddedMessage [] _ length_paddedMessage unread_paddedConnection hrecv).2

end Bxp

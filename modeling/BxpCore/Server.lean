/-
**The server side of a connection** (`src/server.rs`).

`receiveRequest` reads one frame from the control stream and decodes the Cap'n Proto message in it;
`sendResponse` encodes a response and writes it behind its length.  The part of `receive_request`
before the Cap'n Proto decoding has a name of its own here, `readFrame`; the decoding is
`Bxp.decodeRequest` of `BxpCore/Codec.lean`.

Main definitions:

* `Bxp.maxControlMsg` — `MAX_CONTROL_MSG`;
* `Bxp.frameMessage` — a message behind its length, as both senders build it;
* `Bxp.BxpServerConnection.receiveRequest`, `Bxp.BxpServerConnection.sendResponse`,
  `Bxp.BxpServerConnection.readDataStream`, `Bxp.BxpServerConnection.sendDataStream`,
  `Bxp.BxpServerConnection.waitForClose` — the functions of the source.

Main results:

* `Bxp.frameMessage_eq` — patching the length in over the placeholder gives a frame;
* `Bxp.BxpServerConnection.readFrame_whole`, `readFrame_oversized`, `readFrame_cut_header`,
  `readFrame_cut_body` — every way through the reader of frames;
* `Bxp.BxpServerConnection.sendResponse_of_open` — what a response puts on the control stream.
-/

import BxpCore.Codec
import BxpCore.Connection

set_option relaxedAutoImplicit false
set_option autoImplicit false

namespace Bxp

open LittleEndian LengthPrefix

/-- `MAX_CONTROL_MSG`: the largest message a server accepts, 1 MiB. -/
def maxControlMsg : ℕ := 1024 * 1024

/-- The limit is far below the lengths a header can announce. -/
theorem maxControlMsg_lt : maxControlMsg < 2 ^ 32 := by decide

/-! ### Framing a message -/

/-- A message behind its length: four bytes are kept free, the message is appended, and the length
is written over the free bytes. -/
def frameMessage (message : List UInt8) : List UInt8 :=
  let outBuf := List.replicate 4 0 ++ message
  let payloadLen := UInt32.ofNat (outBuf.length - 4)
  le32 payloadLen ++ outBuf.drop 4

/-- **Patching the length in gives a frame.** -/
theorem frameMessage_eq (message : List UInt8) : frameMessage message = frame message := by
  have hlen : (List.replicate 4 (0 : UInt8) ++ message).length - 4 = message.length := by
    rw [List.length_append, List.length_replicate, Nat.add_sub_cancel_left]
  rw [frameMessage, hlen, List.drop_left' (List.length_replicate), frame]

/-! ### The functions of the source -/

namespace BxpServerConnection

open BxpConnection

/-- The first half of `receive_request`: the message buffer of the next frame. -/
def readFrame : Async BxpServerConnection (List UInt8) := do
  let len ← readHeader
  if len > maxControlMsg then
    Async.bail (.anyhow s!"Control message too large: {len} bytes (max {maxControlMsg})")
  else
    readMsgBuf len

/-- `receive_request`: the next request on the control stream. -/
def receiveRequest (C : Capnp.Serializer) : Async BxpServerConnection BxpRequest := do
  let msgBuf ← readFrame
  Async.ofExcept (decodeRequest C msgBuf)

/-- `send_response`: a status code back to the client. -/
def sendResponse (C : Capnp.Serializer) (reqId : UInt32) (status : BxpStatus) :
    Async BxpServerConnection Unit := do
  let message ← Async.ofExcept (encodeResponse C reqId status)
  writeControl (frameMessage message)

/-- `read_data_stream`: a stream of the client, with the request it belongs to. -/
def readDataStream : Async BxpServerConnection (UInt32 × RecvStream) :=
  onQuic Connection.readDataStream

/-- `send_data_stream`: a stream of its own for the bytes of a reader. -/
def sendDataStream (reqId : UInt32) (reader : AsyncRead) : Async BxpServerConnection Unit :=
  onQuic (Connection.sendDataStream reqId reader)

/-- `wait_for_close`. -/
def waitForClose : Async BxpServerConnection Unit := onQuic Connection.closed

/-! ### The ways through the reader of frames -/

section ReadFrame

variable {c : BxpServerConnection} {n : ℕ} {e : StreamEnd}

/-- **A whole frame**: its body is returned, and the stream stands behind it. -/
theorem readFrame_whole (h : header c.controlRecv.unread = some n) (hn : n ≤ maxControlMsg)
    (hlen : n ≤ (c.controlRecv.unread.drop 4).length) :
    readFrame c
      = some (.ok ((c.controlRecv.unread.drop 4).take n),
          (c.withMsgBuf n).withUnread ((c.controlRecv.unread.drop 4).drop n)) := by
  rw [readFrame, Async.bind_of_ok (readHeader_of_some h), if_neg (by omega)]
  exact readMsgBuf_of_le (c := c.withUnread (c.controlRecv.unread.drop 4)) hlen

/-- **An oversized header**: the call fails, and the stream stands behind the header, in front of
the body. -/
theorem readFrame_oversized (h : header c.controlRecv.unread = some n) (hn : maxControlMsg < n) :
    readFrame c
      = some (.error (.anyhow s!"Control message too large: {n} bytes (max {maxControlMsg})"),
          c.withUnread (c.controlRecv.unread.drop 4)) := by
  rw [readFrame, Async.bind_of_ok (readHeader_of_some h), if_pos hn, Async.bail_apply]

/-- The stream ends inside the header. -/
theorem readFrame_cut_header (h : header c.controlRecv.unread = none)
    (he : c.controlRecv.ended = some e) :
    readFrame c
      = some (.error (.readExact (e.toError c.controlRecv.unread.length)), c.withUnread []) := by
  rw [readFrame, Async.bind_of_error (readHeader_cut h he)]

/-- The stream ends inside the body. -/
theorem readFrame_cut_body (h : header c.controlRecv.unread = some n) (hn : n ≤ maxControlMsg)
    (hlen : (c.controlRecv.unread.drop 4).length < n) (he : c.controlRecv.ended = some e) :
    readFrame c
      = some (.error (.readExact (e.toError (c.controlRecv.unread.drop 4).length)),
          (c.withMsgBuf n).withUnread []) := by
  rw [readFrame, Async.bind_of_ok (readHeader_of_some h), if_neg (by omega)]
  exact readMsgBuf_cut (c := c.withUnread (c.controlRecv.unread.drop 4)) hlen he

/-- The header has not arrived. -/
theorem readFrame_pending_header (h : header c.controlRecv.unread = none)
    (he : c.controlRecv.ended = none) : readFrame c = none := by
  rw [readFrame, Async.bind_of_pending (readHeader_pending h he)]

/-- The body has not arrived. -/
theorem readFrame_pending_body (h : header c.controlRecv.unread = some n)
    (hn : n ≤ maxControlMsg) (hlen : (c.controlRecv.unread.drop 4).length < n)
    (he : c.controlRecv.ended = none) : readFrame c = none := by
  rw [readFrame, Async.bind_of_ok (readHeader_of_some h), if_neg (by omega)]
  exact readMsgBuf_pending (c := c.withUnread (c.controlRecv.unread.drop 4)) hlen he

/-- **What the reader returns is within the limit.** -/
theorem readFrame_eq_ok {c' : BxpServerConnection} {body : List UInt8}
    (h : readFrame c = some (.ok body, c')) : body.length ≤ maxControlMsg := by
  obtain ⟨len, t, -, hbody⟩ := Async.bind_eq_ok h
  split at hbody
  · rw [Async.bail_apply] at hbody
    cases hbody
  · next hlen =>
      rcases Nat.lt_or_ge t.controlRecv.unread.length len with hlt | hge
      · -- too few bytes: the call waits or fails
        cases he : t.controlRecv.ended with
        | none =>
            rw [readMsgBuf_pending hlt he] at hbody
            cases hbody
        | some e =>
            rw [readMsgBuf_cut hlt he] at hbody
            cases hbody
      · rw [readMsgBuf_of_le hge] at hbody
        obtain ⟨hok, -⟩ := Prod.mk.inj (Option.some.inj hbody)
        rw [← Except.ok.inj hok, List.length_take]
        omega

end ReadFrame

/-! ### Sending -/

/-- **A response that can be encoded is one frame on the control stream**, where the stream takes
what it is given. -/
theorem sendResponse_of_open {C : Capnp.Serializer} {c : BxpServerConnection} {reqId : UInt32}
    {status : BxpStatus} {message : List UInt8} (hopen : c.controlSend.flow = .takes)
    (h : encodeResponse C reqId status = .ok message) :
    sendResponse C reqId status c
      = some (.ok (), { c with controlSend :=
          { c.controlSend with buf := c.controlSend.buf ++ frame message } }) := by
  have hencode : (Async.ofExcept (encodeResponse C reqId status) : Async BxpServerConnection _) c
      = some (.ok message, c) := by
    rw [Async.ofExcept_apply, h]
  rw [sendResponse, Async.bind_of_ok hencode, writeControl_of_takes hopen, frameMessage_eq]

/-- Where the stream stalls the call waits. -/
theorem sendResponse_of_stalls {C : Capnp.Serializer} {c : BxpServerConnection} {reqId : UInt32}
    {status : BxpStatus} {message : List UInt8} (hstalls : c.controlSend.flow = .stalls)
    (h : encodeResponse C reqId status = .ok message) : sendResponse C reqId status c = none := by
  have hencode : (Async.ofExcept (encodeResponse C reqId status) : Async BxpServerConnection _) c
      = some (.ok message, c) := by
    rw [Async.ofExcept_apply, h]
  rw [sendResponse, Async.bind_of_ok hencode, writeControl_of_stalls hstalls]

/-! ### What the functions leave alone -/

theorem keeps_receiveRequest (C : Capnp.Serializer) :
    Async.Keeps unreadPart (receiveRequest C) := by
  refine Async.Keeps.bind ?_ fun msgBuf => Async.keeps_ofExcept _
  refine Async.Keeps.bind keeps_readHeader fun len => ?_
  split
  · exact Async.keeps_bail _
  · exact keeps_readMsgBuf len

theorem keeps_sendResponse (C : Capnp.Serializer) (reqId : UInt32) (status : BxpStatus) :
    Async.Keeps (fun c => (c.quicConn, c.controlRecv)) (sendResponse C reqId status) :=
  (Async.keeps_ofExcept _).bind fun _ => keeps_writeControl _

end BxpServerConnection

end Bxp

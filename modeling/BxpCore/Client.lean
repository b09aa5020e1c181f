/-
**The client side of a connection** (`src/client.rs`).

`sendRequest` encodes a request and writes it behind its length; `receiveResponse` reads one frame
from the control stream and decodes the Cap'n Proto message in it.  As in `BxpCore/Server.lean`,
`readFrame` is the part of `receive_response` before the Cap'n Proto decoding.  It is the reader of
the server without the comparison with `MAX_CONTROL_MSG`: whatever length the header announces, a
buffer of that length is allocated.

Main definitions:

* `Bxp.BxpClientConnection.sendRequest`, `Bxp.BxpClientConnection.receiveResponse`,
  `Bxp.BxpClientConnection.sendDataStream`, `Bxp.BxpClientConnection.readDataStream`,
  `Bxp.BxpClientConnection.close` — the functions of the source.

Main results:

* `Bxp.BxpClientConnection.readFrame_whole`, `readFrame_cut_header`, `readFrame_cut_body` — every
  way through the reader of frames;
* `Bxp.BxpClientConnection.sendRequest_of_open` — what a request puts on the control stream.
-/

import BxpCore.Server

set_option relaxedAutoImplicit false
set_option autoImplicit false

namespace Bxp

open LittleEndian LengthPrefix

namespace BxpClientConnection

open BxpConnection

/-! ### The functions of the source -/

/-- `send_request`: a request to the server. -/
def sendRequest (C : Capnp.Serializer) (reqId : UInt32) (action : BxpAction) (uri : String) :
    Async BxpClientConnection Unit := do
  let message ← Async.ofExcept (encodeRequest C reqId action uri)
  writeControl (frameMessage message)

/-- The first half of `receive_response`: the message buffer of the next frame. -/
def readFrame : Async BxpClientConnection (List UInt8) := do
  let len ← readHeader
  readMsgBuf len

/-- `receive_response`: the next response on the control stream. -/
def receiveResponse (C : Capnp.Serializer) : Async BxpClientConnection BxpResponse := do
  let msgBuf ← readFrame
  Async.ofExcept (decodeResponse C msgBuf)

/-- `send_data_stream`: a stream of its own for the bytes of a reader. -/
def sendDataStream (reqId : UInt32) (reader : AsyncRead) : Async BxpClientConnection Unit :=
  onQuic (Connection.sendDataStream reqId reader)

/-- `read_data_stream`: a stream of the server, with the request it belongs to. -/
def readDataStream : Async BxpClientConnection (UInt32 × RecvStream) :=
  onQuic Connection.readDataStream

/-- `close`: the QUIC connection is closed with the code 0. -/
def close (c : BxpClientConnection) : BxpClientConnection :=
  { c with quicConn := c.quicConn.close 0 }

/-! ### The ways through the reader of frames -/

section ReadFrame

variable {c : BxpClientConnection} {n : ℕ} {e : StreamEnd}

/-- **A whole frame**: its body is returned, and the stream stands behind it. -/
theorem readFrame_whole (h : header c.controlRecv.unread = some n)
    (hlen : n ≤ (c.controlRecv.unread.drop 4).length) :
    readFrame c
      = some (.ok ((c.controlRecv.unread.drop 4).take n),
          (c.withMsgBuf n).withUnread ((c.controlRecv.unread.drop 4).drop n)) := by
  rw [readFrame, Async.bind_of_ok (readHeader_of_some h)]
  exact readMsgBuf_of_le (c := c.withUnread (c.controlRecv.unread.drop 4)) hlen

/-- The stream ends inside the header. -/
theorem readFrame_cut_header (h : header c.controlRecv.unread = none)
    (he : c.controlRecv.ended = some e) :
    readFrame c
      = some (.error (.readExact (e.toError c.controlRecv.unread.length)), c.withUnread []) := by
  rw [readFrame, Async.bind_of_error (readHeader_cut h he)]

/-- The stream ends inside the body. -/
theorem readFrame_cut_body (h : header c.controlRecv.unread = some n)
    (hlen : (c.controlRecv.unread.drop 4).length < n) (he : c.controlRecv.ended = some e) :
    readFrame c
      = some (.error (.readExact (e.toError (c.controlRecv.unread.drop 4).length)),
          (c.withMsgBuf n).withUnread []) := by
  rw [readFrame, Async.bind_of_ok (readHeader_of_some h)]
  exact readMsgBuf_cut (c := c.withUnread (c.controlRecv.unread.drop 4)) hlen he

/-- The header has not arrived. -/
theorem readFrame_pending_header (h : header c.controlRecv.unread = none)
    (he : c.controlRecv.ended = none) : readFrame c = none := by
  rw [readFrame, Async.bind_of_pending (readHeader_pending h he)]

/-- The body has not arrived. -/
theorem readFrame_pending_body (h : header c.controlRecv.unread = some n)
    (hlen : (c.controlRecv.unread.drop 4).length < n) (he : c.controlRecv.ended = none) :
    readFrame c = none := by
  rw [readFrame, Async.bind_of_ok (readHeader_of_some h)]
  exact readMsgBuf_pending (c := c.withUnread (c.controlRecv.unread.drop 4)) hlen he

end ReadFrame

/-! ### Sending -/

/-- **A request that can be encoded is one frame on the control stream**, where the stream takes
what it is given. -/
theorem sendRequest_of_open {C : Capnp.Serializer} {c : BxpClientConnection} {reqId : UInt32}
    {action : BxpAction} {uri : String} {message : List UInt8}
    (hopen : c.controlSend.flow = .takes) (h : encodeRequest C reqId action uri = .ok message) :
    sendRequest C reqId action uri c
      = some (.ok (), { c with controlSend :=
          { c.controlSend with buf := c.controlSend.buf ++ frame message } }) := by
  have hencode : (Async.ofExcept (encodeRequest C reqId action uri) : Async BxpClientConnection _) c
      = some (.ok message, c) := by
    rw [Async.ofExcept_apply, h]
  rw [sendRequest, Async.bind_of_ok hencode, writeControl_of_takes hopen, frameMessage_eq]

/-- A request that cannot be encoded puts nothing on the control stream. -/
theorem sendRequest_of_error {C : Capnp.Serializer} {reqId : UInt32} {action : BxpAction}
    {uri : String} {e : BxpError} (h : encodeRequest C reqId action uri = .error e)
    (c : BxpClientConnection) : sendRequest C reqId action uri c = some (.error e, c) := by
  have hencode : (Async.ofExcept (encodeRequest C reqId action uri) : Async BxpClientConnection _) c
      = some (.error e, c) := by
    rw [Async.ofExcept_apply, h]
  rw [sendRequest, Async.bind_of_error hencode]

/-! ### What the functions leave alone -/

theorem keeps_receiveResponse (C : Capnp.Serializer) :
    Async.Keeps unreadPart (receiveResponse C) :=
  (keeps_readHeader.bind fun len => keeps_readMsgBuf len).bind fun _ =>
    Async.keeps_ofExcept _

theorem keeps_sendRequest (C : Capnp.Serializer) (reqId : UInt32) (action : BxpAction)
    (uri : String) :
    Async.Keeps (fun c => (c.quicConn, c.controlRecv)) (sendRequest C reqId action uri) :=
  (Async.keeps_ofExcept _).bind fun _ => keeps_writeControl _

end BxpClientConnection

end Bxp

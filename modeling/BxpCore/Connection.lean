/-
**A connection, as the two ends of it hold it.**

Both `BxpClientConnection` and `BxpServerConnection` hold the QUIC connection and the two halves of
the control stream, so they are one structure here, indexed by the side.  The calls that the two
sides share (reading and writing the control stream, opening and accepting data streams) are
defined on it once; `BxpCore/Client.lean` and `BxpCore/Server.lean` give each side its own
functions under their own names.

`msgBufs` has no counterpart in the source: it records the sizes of the message buffers
(`vec![0u8; len]`) that were allocated.  `uniFlow` is the peer's side of the data streams: it may
give no stream and no credit for the time being, or stop the streams it is sent.

Main definitions:

* `Bxp.Connection`, `Bxp.BxpConnection` — the QUIC connection, and what one side holds;
* `Bxp.AsyncRead`, `Bxp.AsyncRead.copyTo` — the source of a data stream, and `tokio::io::copy`;
* `Bxp.BxpConnection.readHeader`, `Bxp.BxpConnection.readMsgBuf`,
  `Bxp.BxpConnection.writeControl` — the steps of the control plane;
* `Bxp.Connection.sendDataStream`, `Bxp.Connection.readDataStream` — those of the data plane;
* `Bxp.BxpConnection.lose` — the connection is lost.

Main results:

* `Bxp.BxpConnection.readHeader_of_some`, `Bxp.BxpConnection.readHeader_cut`,
  `Bxp.BxpConnection.readMsgBuf_of_le`, `Bxp.BxpConnection.readMsgBuf_cut` — what the two reading
  steps do, on the whole connection, when the bytes are there and when the stream ends before.
-/

import BxpCore.LengthPrefix
import BxpCore.Quic

set_option relaxedAutoImplicit false
set_option autoImplicit false

namespace Bxp

open LittleEndian LengthPrefix

/-! ### The QUIC connection -/

/-- How a source of bytes ends. -/
inductive ReadEnd
  | eof
  | ioError
  deriving DecidableEq, Repr

/-- A source of bytes, `tokio::io::AsyncRead`: what its successive reads return.  An empty read is
the end of file, so the chunks before the end are not empty. -/
structure AsyncRead where
  chunks : List (List UInt8)
  ending : ReadEnd
  chunks_ne : ∀ chunk ∈ chunks, chunk ≠ []

/-- All the bytes of a reader. -/
def AsyncRead.payload (reader : AsyncRead) : List UInt8 := reader.chunks.flatten

/-- The result of copying a reader into a stream that takes everything: its first error. -/
def AsyncRead.copyResult (reader : AsyncRead) : Except BxpError Unit :=
  match reader.ending with
  | .eof => .ok ()
  | .ioError => .error .io

/-- `tokio::io::copy` of a reader into a stream.  An error of the stream comes back as one of
`std::io`, like an error of the reader. -/
def AsyncRead.copyTo (reader : AsyncRead) (send : SendStream) :
    Option (Except BxpError Unit × SendStream) :=
  (send.writeAll reader.payload).map fun p =>
    match p.1 with
    | .ok () => (reader.copyResult, p.2)
    | .error _ => (.error .io, p.2)

/-- What `send_data_stream` writes to the stream it has opened: the preamble and the bytes of the
reader. -/
def AsyncRead.sendOn (reqId : UInt32) (reader : AsyncRead) (send : SendStream) :
    Option (Except BxpError Unit × SendStream) :=
  match send.writeAll (le32 reqId) with
  | none => none
  | some (.error e, send) => some (.error (.write e), send)
  | some (.ok (), send) => reader.copyTo send

/-- On a stream that takes everything all is written, and the error is that of the reader. -/
theorem AsyncRead.sendOn_of_takes {send : SendStream} (h : send.flow = .takes) (reqId : UInt32)
    (reader : AsyncRead) :
    reader.sendOn reqId send
      = some (reader.copyResult,
          { send with buf := send.buf ++ (le32 reqId ++ reader.payload) }) := by
  have hpreamble := SendStream.writeAll_of_takes h (le32 reqId)
  have hcopy := SendStream.writeAll_of_takes (s := { send with buf := send.buf ++ le32 reqId }) h
    reader.payload
  rw [sendOn, hpreamble]
  simp only [copyTo, hcopy, Option.map_some, List.append_assoc]

/-- **What is written to a data stream**: the preamble and all the bytes of the reader, or less,
and then the call has failed. -/
theorem AsyncRead.sendOn_eq_some {send send' : SendStream} {reqId : UInt32} {reader : AsyncRead}
    {r : Except BxpError Unit} (h : reader.sendOn reqId send = some (r, send')) :
    (r = reader.copyResult ∧ send'.buf = send.buf ++ (le32 reqId ++ reader.payload)) ∨
      ((∃ e, r = .error e) ∧
        send'.buf.length < (send.buf ++ (le32 reqId ++ reader.payload)).length) := by
  rw [sendOn] at h
  cases hpre : send.writeAll (le32 reqId) with
  | none =>
      rw [hpre] at h
      cases h
  | some p =>
      obtain ⟨r', send₁⟩ := p
      rw [hpre] at h
      cases r' with
      | error e =>
          obtain ⟨rfl, rfl⟩ := Prod.mk.inj (Option.some.inj h)
          obtain ⟨n, hn, hbuf⟩ := SendStream.buf_of_writeAll_error hpre
          refine Or.inr ⟨⟨_, rfl⟩, ?_⟩
          simp only [hbuf, List.length_append, List.length_take]
          omega
      | ok u =>
          have hbuf₁ := SendStream.buf_of_writeAll_ok hpre
          obtain ⟨⟨r', send₂⟩, hcopy, heq⟩ := Option.map_eq_some_iff.1 h
          cases r' with
          | ok u =>
              obtain ⟨rfl, rfl⟩ := Prod.mk.inj heq
              refine Or.inl ⟨rfl, ?_⟩
              rw [SendStream.buf_of_writeAll_ok hcopy, hbuf₁, List.append_assoc]
          | error e =>
              obtain ⟨rfl, rfl⟩ := Prod.mk.inj heq
              obtain ⟨n, hn, hbuf⟩ := SendStream.buf_of_writeAll_error hcopy
              refine Or.inr ⟨⟨_, rfl⟩, ?_⟩
              simp only [hbuf, hbuf₁, List.length_append, List.length_take]
              omega

/-- `read_exact` of the preamble of a stream that has been accepted.  Of a stream that was reset
nothing can be read, and on a connection that is closed the call does not wait. -/
def RecvStream.readPreamble (closed : Bool) (stream : RecvStream) :
    Option (Except ReadExactError (List UInt8) × RecvStream) :=
  match stream.settle.readExact 4 with
  | some p => some p
  | none => if closed then some (.error .connectionLost, stream) else none

/-- On a connection that is closed the call returns. -/
theorem RecvStream.readPreamble_returns (stream : RecvStream) :
    ∃ p, stream.readPreamble true = some p := by
  rw [readPreamble]
  cases stream.settle.readExact 4 with
  | some p => exact ⟨p, rfl⟩
  | none => exact ⟨_, rfl⟩

/-- On one that is up it is `read_exact`. -/
theorem RecvStream.readPreamble_of_up (stream : RecvStream) :
    stream.readPreamble false = stream.settle.readExact 4 := by
  rw [readPreamble]
  cases stream.settle.readExact 4 <;> rfl

/-- The QUIC connection as one end sees it: the error code this end has closed it with, whether the
other end is gone, the data streams that wait to be accepted, what becomes of the data streams sent
next, and those sent whose bytes the peer has all taken. -/
structure Connection where
  localClose : Option UInt32
  peerClosed : Bool
  incomingUni : List RecvStream
  uniFlow : PeerFlow
  outgoingUni : List (UInt32 × AsyncRead)

namespace Connection

/-- A connection just established. -/
def established : Connection where
  localClose := none
  peerClosed := false
  incomingUni := []
  uniFlow := .takes
  outgoingUni := []

/-- What has closed the connection: this end, with a code, and the other. -/
def closing (c : Connection) : Option UInt32 × Bool := (c.localClose, c.peerClosed)

/-- The connection is closed, by this end or by the other. -/
def isClosed (c : Connection) : Bool := c.localClose.isSome || c.peerClosed

/-- `quic_conn.close(code, …)`: the first close counts. -/
def close (code : UInt32) (c : Connection) : Connection :=
  { c with localClose := c.localClose.or (some code) }

/-- The body of `send_data_stream`, as one step, the one in which it returns: a stream of its own
with the preamble and the bytes of the reader.  The call waits for `open_uni` and for credit as long
as the peer lets it, and where the connection is lost meanwhile its error is that of `open_uni`;
`BxpCore/DataStream.lean` has it step by step. -/
def sendDataStream (reqId : UInt32) (reader : AsyncRead) : Async Connection Unit := fun c =>
  if c.isClosed then some (.error .connectionLost, c)
  else
    (reader.sendOn reqId { buf := [], flow := c.uniFlow.toFlow }).map fun p =>
      if p.2.buf = le32 reqId ++ reader.payload then
        (p.1, { c with outgoingUni := c.outgoingUni ++ [(reqId, reader)] })
      -- the peer has stopped the stream, and discards what came on it
      else (p.1, c)

/-- The body of `read_data_stream`: the next stream of the peer, with its preamble read. -/
def readDataStream : Async Connection (UInt32 × RecvStream) := fun c =>
  match c.incomingUni with
  | [] => if c.isClosed then some (.error .connectionLost, c) else none
  | stream :: streams =>
      (stream.readPreamble c.isClosed).map fun p =>
        match p.1 with
        | .ok idBuf => (.ok (ofLe32 idBuf, p.2), { c with incomingUni := streams })
        | .error e => (.error (.readExact e), { c with incomingUni := streams })

/-- The peer is gone.  The data streams that have come can still be accepted. -/
def lose (c : Connection) : Connection := { c with peerClosed := true }

/-- `quic_conn.closed()`. -/
def closed : Async Connection Unit := fun c => if c.isClosed then some (.ok (), c) else none

/-- **A call of `send_data_stream`** has sent all that its reader gives and returns the result of
the copying, or it has failed and the peer takes nothing of it. -/
theorem sendDataStream_eq_some {c c' : Connection} {reqId : UInt32} {reader : AsyncRead}
    {r : Except BxpError Unit} (h : sendDataStream reqId reader c = some (r, c')) :
    (r = reader.copyResult ∧ c' = { c with outgoingUni := c.outgoingUni ++ [(reqId, reader)] }) ∨
      ((∃ e, r = .error e) ∧ c' = c) := by
  rw [sendDataStream] at h
  split at h
  · obtain ⟨rfl, rfl⟩ := Prod.mk.inj (Option.some.inj h)
    exact Or.inr ⟨⟨_, rfl⟩, rfl⟩
  · obtain ⟨⟨r', send⟩, hsend, heq⟩ := Option.map_eq_some_iff.1 h
    rcases AsyncRead.sendOn_eq_some hsend with ⟨hr, hbuf⟩ | ⟨hr, hlen⟩
    · simp only [List.nil_append] at hbuf
      rw [if_pos hbuf] at heq
      obtain ⟨rfl, rfl⟩ := Prod.mk.inj heq
      exact Or.inl ⟨hr, rfl⟩
    · have hbuf : send.buf ≠ le32 reqId ++ reader.payload := by
        intro hbuf
        rw [hbuf] at hlen
        exact Nat.lt_irrefl _ hlen
      rw [if_neg hbuf] at heq
      obtain ⟨rfl, rfl⟩ := Prod.mk.inj heq
      exact Or.inr ⟨hr, rfl⟩

/-- Sending a data stream closes nothing. -/
theorem keeps_sendDataStream (reqId : UInt32) (reader : AsyncRead) :
    Async.Keeps closing (sendDataStream reqId reader) := by
  intro c r t h
  rcases sendDataStream_eq_some h with ⟨-, rfl⟩ | ⟨-, rfl⟩ <;> rfl

/-- Accepting a data stream closes nothing. -/
theorem keeps_readDataStream : Async.Keeps closing readDataStream := by
  intro c r t h
  unfold readDataStream at h
  split at h
  · split at h
    · rw [Option.some.injEq, Prod.mk.injEq] at h
      rw [h.2]
    · cases h
  · obtain ⟨p, -, hp⟩ := Option.map_eq_some_iff.1 h
    split at hp <;>
      · rw [Prod.mk.injEq] at hp
        rw [← hp.2]
        rfl

theorem keeps_closed : Async.Keeps closing closed := by
  intro c r t h
  unfold closed at h
  split at h
  · rw [Option.some.injEq, Prod.mk.injEq] at h
    rw [h.2]
  · cases h

/-- On a connection that is up, and where the peer takes the data streams, sending one succeeds if
the reader reaches its end. -/
theorem sendDataStream_of_up {c : Connection} (h : c.isClosed = false) (hflow : c.uniFlow = .takes)
    (reqId : UInt32) (reader : AsyncRead) :
    sendDataStream reqId reader c
      = some (reader.copyResult,
          { c with outgoingUni := c.outgoingUni ++ [(reqId, reader)] }) := by
  have htakes : SendStream.flow { buf := [], flow := c.uniFlow.toFlow } = .takes := by
    rw [hflow]
    rfl
  have hsend := reader.sendOn_of_takes htakes reqId
  rw [sendDataStream, h, hsend, List.nil_append, if_neg Bool.false_ne_true, Option.map_some,
    if_pos rfl]

/-- Where the peer gives no stream and no credit the call waits. -/
theorem sendDataStream_of_stalls {c : Connection} (h : c.isClosed = false)
    (hflow : c.uniFlow = .stalls) (reqId : UInt32) (reader : AsyncRead) :
    sendDataStream reqId reader c = none := by
  have hpreamble := SendStream.writeAll_of_stalls (s := { buf := [], flow := c.uniFlow.toFlow })
    (by rw [hflow]; rfl) (le32 reqId)
  rw [sendDataStream, h, AsyncRead.sendOn, hpreamble, if_neg Bool.false_ne_true, Option.map_none]

end Connection

/-! ### One side of a connection -/

/-- The two sides of a connection. -/
inductive Side
  | client
  | server
  deriving DecidableEq, Repr

/-- What one side holds: the connection, the two halves of the control stream, and the sizes of the
message buffers it has allocated. -/
structure BxpConnection (side : Side) where
  quicConn : Connection
  controlSend : SendStream
  controlRecv : RecvStream
  msgBufs : List ℕ

/-- The client side of a connection. -/
abbrev BxpClientConnection := BxpConnection .client

/-- The server side of a connection. -/
abbrev BxpServerConnection := BxpConnection .server

namespace BxpConnection

variable {side : Side}

/-- A connection whose control stream has just been opened: nothing sent, nothing received. -/
def opened (side : Side) : BxpConnection side where
  quicConn := .established
  controlSend := { buf := [], flow := .takes }
  controlRecv := { unread := [], ended := none }
  msgBufs := []

/-- `control_recv.read_exact(&mut buf)` for a buffer of `n` bytes. -/
def readControl (n : ℕ) : Async (BxpConnection side) (List UInt8) := fun c =>
  (c.controlRecv.readExact n).map fun p =>
    (p.1.mapError .readExact, { c with controlRecv := p.2 })

/-- `control_send.write_all(&bytes)`. -/
def writeControl (bytes : List UInt8) : Async (BxpConnection side) Unit := fun c =>
  (c.controlSend.writeAll bytes).map fun p =>
    (p.1.mapError .write, { c with controlSend := p.2 })

/-- `vec![0u8; len]`, the buffer of a message. -/
def allocMsgBuf (len : ℕ) : Async (BxpConnection side) Unit := fun c =>
  some (.ok (), { c with msgBufs := c.msgBufs ++ [len] })

/-- The length of the next message: `read_exact` of four bytes, and `u32::from_le_bytes`. -/
def readHeader : Async (BxpConnection side) ℕ := do
  let lenBuf ← readControl 4
  return (ofLe32 lenBuf).toNat

/-- A buffer of `len` bytes, filled from the control stream. -/
def readMsgBuf (len : ℕ) : Async (BxpConnection side) (List UInt8) := do
  allocMsgBuf len
  readControl len

/-- A call on the QUIC connection. -/
def onQuic {α : Type} (x : Async Connection α) : Async (BxpConnection side) α := fun c =>
  (x c.quicConn).map fun p => (p.1, { c with quicConn := p.2 })

/-- The connection is lost: nothing more is written or comes, but what has come can be read. -/
def lose (c : BxpConnection side) : BxpConnection side :=
  { c with
    quicConn := c.quicConn.lose
    controlSend := { c.controlSend with flow := .breaks 0 .connectionLost }
    controlRecv := c.controlRecv.stop .connectionLost }

/-- The connection with its control stream at another place. -/
def withUnread (c : BxpConnection side) (unread : List UInt8) : BxpConnection side :=
  { c with controlRecv := { c.controlRecv with unread := unread } }

@[simp] theorem withUnread_unread (c : BxpConnection side) (unread : List UInt8) :
    (c.withUnread unread).controlRecv.unread = unread := rfl

@[simp] theorem withUnread_ended (c : BxpConnection side) (unread : List UInt8) :
    (c.withUnread unread).controlRecv.ended = c.controlRecv.ended := rfl

@[simp] theorem withUnread_quicConn (c : BxpConnection side) (unread : List UInt8) :
    (c.withUnread unread).quicConn = c.quicConn := rfl

@[simp] theorem withUnread_controlSend (c : BxpConnection side) (unread : List UInt8) :
    (c.withUnread unread).controlSend = c.controlSend := rfl

@[simp] theorem withUnread_msgBufs (c : BxpConnection side) (unread : List UInt8) :
    (c.withUnread unread).msgBufs = c.msgBufs := rfl

/-- The connection after the allocation of a message buffer. -/
def withMsgBuf (c : BxpConnection side) (len : ℕ) : BxpConnection side :=
  { c with msgBufs := c.msgBufs ++ [len] }

@[simp] theorem withMsgBuf_controlRecv (c : BxpConnection side) (len : ℕ) :
    (c.withMsgBuf len).controlRecv = c.controlRecv := rfl

@[simp] theorem withMsgBuf_controlSend (c : BxpConnection side) (len : ℕ) :
    (c.withMsgBuf len).controlSend = c.controlSend := rfl

@[simp] theorem withMsgBuf_quicConn (c : BxpConnection side) (len : ℕ) :
    (c.withMsgBuf len).quicConn = c.quicConn := rfl

@[simp] theorem withMsgBuf_msgBufs (c : BxpConnection side) (len : ℕ) :
    (c.withMsgBuf len).msgBufs = c.msgBufs ++ [len] := rfl

@[simp] theorem allocMsgBuf_apply (len : ℕ) (c : BxpConnection side) :
    allocMsgBuf len c = some (.ok (), c.withMsgBuf len) := rfl

/-- Enough bytes on the control stream: they are read and the rest stays. -/
theorem readControl_of_le {n : ℕ} {c : BxpConnection side} (h : n ≤ c.controlRecv.unread.length) :
    readControl n c
      = some (.ok (c.controlRecv.unread.take n), c.withUnread (c.controlRecv.unread.drop n)) := by
  rw [readControl, RecvStream.readExact_of_le h]
  rfl

/-- Too few bytes on a control stream that has ended: an error, and nothing is left. -/
theorem readControl_short {n : ℕ} {c : BxpConnection side} {e : StreamEnd}
    (h : c.controlRecv.unread.length < n) (he : c.controlRecv.ended = some e) :
    readControl n c
      = some (.error (.readExact (e.toError c.controlRecv.unread.length)), c.withUnread []) := by
  rw [readControl, RecvStream.readExact_short h he]
  rfl

/-- Too few bytes on a control stream that goes on: the call is pending. -/
theorem readControl_pending {n : ℕ} {c : BxpConnection side}
    (h : c.controlRecv.unread.length < n) (he : c.controlRecv.ended = none) :
    readControl n c = none := by
  rw [readControl, RecvStream.readExact_pending h he]
  rfl

/-- The length is read from the header in front. -/
theorem readHeader_of_some {c : BxpConnection side} {n : ℕ}
    (h : header c.controlRecv.unread = some n) :
    readHeader c = some (.ok n, c.withUnread (c.controlRecv.unread.drop 4)) := by
  obtain ⟨hlen, hn⟩ := header_eq_some_iff.1 h
  rw [readHeader, Async.bind_of_ok (readControl_of_le hlen), Async.pure_apply, toNat_ofLe32, hn]
  rw [List.length_take, Nat.min_eq_left hlen]

theorem readHeader_cut {c : BxpConnection side} {e : StreamEnd}
    (h : header c.controlRecv.unread = none) (he : c.controlRecv.ended = some e) :
    readHeader c
      = some (.error (.readExact (e.toError c.controlRecv.unread.length)), c.withUnread []) := by
  rw [readHeader, Async.bind_of_error (readControl_short (header_eq_none_iff.1 h) he)]

theorem readHeader_pending {c : BxpConnection side} (h : header c.controlRecv.unread = none)
    (he : c.controlRecv.ended = none) : readHeader c = none := by
  rw [readHeader, Async.bind_of_pending (readControl_pending (header_eq_none_iff.1 h) he)]

/-- The message buffer is filled with the bytes in front. -/
theorem readMsgBuf_of_le {n : ℕ} {c : BxpConnection side} (h : n ≤ c.controlRecv.unread.length) :
    readMsgBuf n c
      = some (.ok (c.controlRecv.unread.take n),
          (c.withMsgBuf n).withUnread (c.controlRecv.unread.drop n)) := by
  rw [readMsgBuf, Async.bind_of_ok (allocMsgBuf_apply n c)]
  exact readControl_of_le (c := c.withMsgBuf n) h

theorem readMsgBuf_cut {n : ℕ} {c : BxpConnection side} {e : StreamEnd}
    (h : c.controlRecv.unread.length < n) (he : c.controlRecv.ended = some e) :
    readMsgBuf n c
      = some (.error (.readExact (e.toError c.controlRecv.unread.length)),
          (c.withMsgBuf n).withUnread []) := by
  rw [readMsgBuf, Async.bind_of_ok (allocMsgBuf_apply n c)]
  exact readControl_short (c := c.withMsgBuf n) h he

theorem readMsgBuf_pending {n : ℕ} {c : BxpConnection side}
    (h : c.controlRecv.unread.length < n) (he : c.controlRecv.ended = none) :
    readMsgBuf n c = none := by
  rw [readMsgBuf, Async.bind_of_ok (allocMsgBuf_apply n c)]
  exact readControl_pending (c := c.withMsgBuf n) h he

/-- Writing to a control stream that takes what it is given. -/
theorem writeControl_of_takes {c : BxpConnection side} (h : c.controlSend.flow = .takes)
    (bytes : List UInt8) :
    writeControl bytes c
      = some (.ok (), { c with
          controlSend := { c.controlSend with buf := c.controlSend.buf ++ bytes } }) := by
  rw [writeControl, SendStream.writeAll_of_takes h]
  rfl

/-- Writing to a control stream that stalls. -/
theorem writeControl_of_stalls {c : BxpConnection side} (h : c.controlSend.flow = .stalls)
    (bytes : List UInt8) : writeControl bytes c = none := by
  rw [writeControl, SendStream.writeAll_of_stalls h, Option.map_none]

/-- Unless the control stream stalls a write returns. -/
theorem writeControl_returns {c : BxpConnection side} (h : c.controlSend.flow ≠ .stalls)
    (bytes : List UInt8) : ∃ r c', writeControl bytes c = some (r, c') := by
  obtain ⟨r, send, hwrite⟩ := SendStream.writeAll_returns h bytes
  exact ⟨_, _, by rw [writeControl, hwrite, Option.map_some]⟩

/-- A write that has returned, and what it has left of the control stream. -/
theorem writeControl_eq_some {c c' : BxpConnection side} {bytes : List UInt8}
    {r : Except BxpError Unit} (h : writeControl bytes c = some (r, c')) :
    ∃ r' send, c.controlSend.writeAll bytes = some (r', send) ∧ r = r'.mapError .write ∧
      c' = { c with controlSend := send } := by
  obtain ⟨⟨r', send⟩, hp, heq⟩ := Option.map_eq_some_iff.1 h
  obtain ⟨rfl, rfl⟩ := Prod.mk.inj heq
  exact ⟨r', send, hp, rfl, rfl⟩

/-- A write to the control stream succeeds with the write to the sending half. -/
theorem writeControl_eq_ok {c c' : BxpConnection side} {bytes : List UInt8}
    (h : writeControl bytes c = some (.ok (), c')) :
    c.controlSend.writeAll bytes = some (.ok (), c'.controlSend) := by
  obtain ⟨r, send, hwrite, hr, rfl⟩ := writeControl_eq_some h
  cases r with
  | ok u => exact hwrite
  | error e => cases hr

/-- It fails with the write to the sending half. -/
theorem writeControl_eq_error {c c' : BxpConnection side} {bytes : List UInt8} {e : BxpError}
    (h : writeControl bytes c = some (.error e, c')) :
    ∃ e', c.controlSend.writeAll bytes = some (.error e', c'.controlSend) := by
  obtain ⟨r, send, hwrite, hr, rfl⟩ := writeControl_eq_some h
  cases r with
  | ok u => cases hr
  | error e' => exact ⟨e', hwrite⟩

/-- A successful write has put all the bytes on the control stream. -/
theorem buf_of_writeControl_ok {c c' : BxpConnection side} {bytes : List UInt8}
    (h : writeControl bytes c = some (.ok (), c')) :
    c'.controlSend.buf = c.controlSend.buf ++ bytes :=
  SendStream.buf_of_writeAll_ok (writeControl_eq_ok h)

/-! ### What the steps leave alone -/

/-- The part of a connection that reading the control stream leaves alone. -/
def unreadPart (c : BxpConnection side) : Connection × SendStream × Option StreamEnd :=
  (c.quicConn, c.controlSend, c.controlRecv.ended)

theorem keeps_readControl (n : ℕ) :
    Async.Keeps unreadPart (readControl n : Async (BxpConnection side) _) := by
  intro c r t h
  obtain ⟨p, hp, heq⟩ := Option.map_eq_some_iff.1 h
  rw [Prod.mk.injEq] at heq
  rw [← heq.2, unreadPart, unreadPart, RecvStream.readExact_ended hp]

theorem keeps_readHeader : Async.Keeps unreadPart (readHeader : Async (BxpConnection side) _) :=
  (keeps_readControl 4).bind fun _ => Async.keeps_pure _

theorem keeps_readMsgBuf (len : ℕ) :
    Async.Keeps unreadPart (readMsgBuf len : Async (BxpConnection side) _) := by
  refine Async.Keeps.bind ?_ fun _ => keeps_readControl len
  intro c r t h
  rw [allocMsgBuf_apply, Option.some.injEq, Prod.mk.injEq] at h
  rw [← h.2]
  rfl

/-- Writing to the control stream leaves the rest of the connection alone. -/
theorem keeps_writeControl (bytes : List UInt8) :
    Async.Keeps (fun c => (c.quicConn, c.controlRecv))
      (writeControl bytes : Async (BxpConnection side) _) := by
  intro c r t h
  obtain ⟨-, send, -, -, rfl⟩ := writeControl_eq_some h
  rfl

/-- What a call on the QUIC connection leaves alone there it leaves alone from here. -/
theorem keeps_onQuic {α β : Type} {f : Connection → β} {x : Async Connection α}
    (h : Async.Keeps f x) :
    Async.Keeps (fun c => f c.quicConn) (onQuic x : Async (BxpConnection side) _) := by
  intro c r t ht
  obtain ⟨p, hp, heq⟩ := Option.map_eq_some_iff.1 ht
  rw [Prod.mk.injEq] at heq
  rw [← heq.2]
  exact h hp

end BxpConnection

/-- Reading the control stream leaves alone the QUIC connection, what is sent, and how the stream
ends. -/
theorem Async.Keeps.unread {side : Side} {α : Type} {x : Async (BxpConnection side) α}
    (h : Async.Keeps BxpConnection.unreadPart x) {c c' : BxpConnection side}
    {r : Except BxpError α} (hx : x c = some (r, c')) :
    c'.quicConn = c.quicConn ∧ c'.controlSend = c.controlSend ∧
      c'.controlRecv.ended = c.controlRecv.ended := by
  have hkeep := h hx
  simpa only [BxpConnection.unreadPart, Prod.mk.injEq] using hkeep

end Bxp

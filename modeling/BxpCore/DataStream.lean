/-
**The data plane, stream by stream.**

`send_data_stream` opens a stream of its own, writes the four bytes of the request identifier, lets
`tokio::io::copy` move the bytes of the reader through its buffer, and finishes the stream; at every
`?` it may return before that, and then the stream is dropped, which finishes it all the same.  At
the other end `read_data_stream` accepts the stream and reads the identifier, and the caller drains
the rest.  Both endpoints have the same two functions.

A *lane* is one such stream: the call that sends, the bytes on the way, and the call that receives,
all of which go on in any order.  Many streams on a connection are many lanes side by side
(`Machine.interleave`).  A peer that is no `send_data_stream` may open streams too, and finish them
before the four bytes are complete.

Main definitions:

* `Bxp.Source` — what is behind a stream: a call of `send_data_stream`, or a peer that stops early;
* `Bxp.Lane`, `Bxp.Lane.step` — one stream, with both its ends;
* `Bxp.Lane.Inv`, `Bxp.Lane.work` — its invariant, and the work that is left;
* `Bxp.FailureIsSeen` — a transfer that failed does not look complete.

Main results:

* `Bxp.Lane.Inv.step` — every step keeps the invariant, and some work is done;
* `Bxp.Lane.Inv.of_stuck` — at the end both calls have returned and the stream is drained;
* `Bxp.failureIsSeen_iff` — **a failed transfer is told from a complete one exactly when there is
  none**, that is, when the reader reaches its end;
* `Bxp.data_streams_associated` — **what is obtained is what was sent**, over any number of streams
  in any order.
-/

import BxpCore.Client
import BxpCore.Machine
import Mathlib.Data.Fintype.Basic

set_option relaxedAutoImplicit false
set_option autoImplicit false

namespace Bxp

open LittleEndian Machine

/-! ### Sources -/

/-- What is behind a stream: a call of `send_data_stream`, or a peer that finishes the stream before
the four bytes of the identifier are complete. -/
inductive Source
  | call (reqId : UInt32) (reader : AsyncRead)
  | short (bytes : List UInt8) (length_lt : bytes.length < 4)

namespace Source

/-- What is written first. -/
def preamble : Source → List UInt8
  | call reqId _ => le32 reqId
  | short bytes _ => bytes

/-- What is copied behind it. -/
def chunks : Source → List (List UInt8)
  | call _ reader => reader.chunks
  | short _ _ => []

/-- How the copying ends. -/
def ending : Source → ReadEnd
  | call _ reader => reader.ending
  | short _ _ => .eof

/-- The result of the sending call. -/
def result : Source → Except BxpError Unit
  | call _ reader => reader.copyResult
  | short _ _ => .ok ()

/-- All the bytes of the stream. -/
def bytes (source : Source) : List UInt8 := source.preamble ++ source.chunks.flatten

/-- The identifier and the payload of a call. -/
def content : Source → Option (UInt32 × List UInt8)
  | call reqId reader => some (reqId, reader.payload)
  | short _ _ => none

theorem result_of_eof {source : Source} (h : source.ending = .eof) : source.result = .ok () := by
  cases source with
  | call reqId reader =>
      rw [result, AsyncRead.copyResult]
      rw [ending] at h
      rw [h]
  | short bytes hlt => rfl

theorem result_of_ioError {source : Source} (h : source.ending = .ioError) :
    source.result = .error .io := by
  cases source with
  | call reqId reader =>
      rw [result, AsyncRead.copyResult]
      rw [ending] at h
      rw [h]
  | short bytes hlt => cases h

end Source

/-! ### Lanes -/

/-- Where a sending call is: in `open_uni`, in `write_all` of the identifier, in the copying, in the
writing of what the copying has read last, or back with a result. -/
inductive SendTask
  | opening
  | preamble
  | copying
  | flushing
  | returned (r : Except BxpError Unit)

/-- The end of the stream that a sending call has left behind: once it has returned the stream is
finished, by `finish()` or by being dropped. -/
def SendTask.fin : SendTask → Option StreamEnd
  | returned _ => some .finished
  | _ => none

/-- The error with which a failed write leaves the call: `tokio::io::copy` returns one of `std::io`. -/
def SendTask.writeError (e : WriteError) : SendTask → BxpError
  | preamble => .write e
  | _ => .io

/-- The call writes to the stream. -/
def SendTask.Writes : SendTask → Prop
  | preamble | copying | flushing => True
  | opening | returned _ => False

instance (task : SendTask) : Decidable task.Writes :=
  match task with
  | .preamble | .copying | .flushing => isTrue trivial
  | .opening | .returned _ => isFalse id

/-- Where a receiving call is: in `accept_uni`, in `read_exact` of the identifier, back with an
error, back with a stream that is being drained, or with one that has been drained to its end. -/
inductive ReadTask
  | accepting
  | preamble
  | failed (e : BxpError)
  | draining (reqId : UInt32) (received : List UInt8)
  | ended (reqId : UInt32) (received : List UInt8) (e : StreamEnd)

/-- The bytes a receiving call and its caller have taken from the stream. -/
def ReadTask.consumed : ReadTask → List UInt8
  | draining reqId received => le32 reqId ++ received
  | ended reqId received _ => le32 reqId ++ received
  | _ => []

theorem ReadTask.consumed_preamble : preamble.consumed = [] := rfl

theorem ReadTask.consumed_draining (reqId : UInt32) (received : List UInt8) :
    (draining reqId received).consumed = le32 reqId ++ received := rfl

/-- One stream: the sending call with the buffer of its copying and what it has not read yet, the
two halves of the stream, and the receiving call. -/
structure Lane where
  task : SendTask
  buf : List UInt8
  chunks : List (List UInt8)
  stream : SendStream
  recv : RecvStream
  call : ReadTask

namespace Lane

/-- Both calls are made. -/
def start (source : Source) : Lane where
  task := .opening
  buf := source.preamble
  chunks := source.chunks
  stream := { buf := [], flow := .takes }
  recv := { unread := [], ended := none }
  call := .accepting

/-- The steps of the sending call, of the network, and of the receiving call. -/
inductive Event
  | openUni
  | write (n : ℕ)
  | copy
  | read
  | finish
  | deliver (n : ℕ)
  | deliverEnd
  | accept
  | readPreamble
  | drain (n : ℕ)
  | drainEnd

/-- The machine of one stream. -/
def step (source : Source) (s : Lane) : Event → Option Lane
  | .openUni =>
      match s.task with
      | .opening => some { s with task := .preamble }
      | _ => none
  -- some of the bytes in the buffer are written; an error drops the stream
  | .write n =>
      if s.task.Writes ∧ 0 < n ∧ n ≤ s.buf.length then
        (s.stream.writeAll (s.buf.take n)).map fun p =>
          match p.1 with
          | .ok () => { s with buf := s.buf.drop n, stream := p.2 }
          | .error e => { s with task := .returned (.error (s.task.writeError e)), stream := p.2 }
      else none
  | .copy =>
      match s.task with
      | .preamble => if s.buf = [] then some { s with task := .copying } else none
      | _ => none
  -- the reader may be read while the buffer is not empty; its error drops the stream
  | .read =>
      match s.task, s.chunks with
      | .copying, chunk :: chunks => some { s with buf := s.buf ++ chunk, chunks := chunks }
      | .copying, [] =>
          match source.ending with
          | .eof => some { s with task := .flushing }
          | .ioError => some { s with task := .returned (.error .io) }
      | _, _ => none
  | .finish =>
      match s.task with
      | .flushing => if s.buf = [] then some { s with task := .returned (.ok ()) } else none
      | _ => none
  | .deliver n =>
      (Bxp.deliver n s.stream s.recv).map fun p => { s with stream := p.1, recv := p.2 }
  | .deliverEnd =>
      match s.task.fin, s.recv.ended with
      | some e, none =>
          if s.stream.buf = [] then some { s with recv := { s.recv with ended := some e } }
          else none
      | _, _ => none
  | .accept =>
      match s.call, s.task with
      | .accepting, .opening => none
      | .accepting, _ => some { s with call := .preamble }
      | _, _ => none
  | .readPreamble =>
      match s.call with
      | .preamble =>
          (s.recv.readExact 4).map fun p =>
            match p.1 with
            | .ok idBuf => { s with recv := p.2, call := .draining (ofLe32 idBuf) [] }
            | .error e => { s with recv := p.2, call := .failed (.readExact e) }
      | _ => none
  | .drain n =>
      match s.call with
      | .draining reqId received =>
          if 0 < n ∧ n ≤ s.recv.unread.length then
            some { s with
              recv := { s.recv with unread := s.recv.unread.drop n }
              call := .draining reqId (received ++ s.recv.unread.take n) }
          else none
      | _ => none
  | .drainEnd =>
      match s.call, s.recv.ended with
      | .draining reqId received, some e =>
          if s.recv.unread = [] then some { s with call := .ended reqId received e } else none
      | _, _ => none

/-- What the receiver has obtained, once it has seen the stream end cleanly. -/
def obtained (s : Lane) : Option (UInt32 × List UInt8) :=
  match s.call with
  | .ended reqId received .finished => some (reqId, received)
  | _ => none

end Lane

/-! ### The invariant -/

/-- What a sending call still holds: `buf` to be written, `chunks` to be read. -/
def SendTask.Holds (source : Source) (buf : List UInt8) (chunks : List (List UInt8)) :
    SendTask → Prop
  | opening | preamble => chunks = source.chunks
  | copying => (buf ++ chunks.flatten).length ≤ source.chunks.flatten.length
  | flushing =>
      (buf ++ chunks.flatten).length ≤ source.chunks.flatten.length ∧ chunks = [] ∧
        source.ending = .eof
  | returned r =>
      (buf ++ chunks.flatten).length ≤ source.chunks.flatten.length ∧ chunks = [] ∧
        r = source.result ∧ (source.ending = .eof → buf = [])

namespace Lane

/-- The bytes of the source are, in order, those the receiver has taken, those it has not read,
those on the way, and those the sender holds; the end of the stream comes behind all the bytes that
were written; and only a source that is no call makes the receiving call fail. -/
structure Inv (source : Source) (s : Lane) : Prop where
  up : s.stream.flow = .takes
  holds : s.task.Holds source s.buf s.chunks
  bytes : (∃ e, s.call = .failed e) ∨
    s.call.consumed ++ (s.recv.unread ++ (s.stream.buf ++ (s.buf ++ s.chunks.flatten)))
      = source.bytes
  ended : ∀ e, s.recv.ended = some e → s.task.fin = some e ∧ s.stream.buf = []
  drained : ∀ reqId received e, s.call = .ended reqId received e →
    s.recv.ended = some e ∧ s.recv.unread = []
  failed : ∀ e, s.call = .failed e → source.content = none

theorem inv_start (source : Source) : Inv source (start source) where
  up := rfl
  holds := rfl
  bytes := Or.inr rfl
  ended := by
    intro e he
    cases he
  drained := by
    intro reqId received e he
    cases he
  failed := by
    intro e he
    cases he

end Lane

/-! ### The work that is left -/

/-- The steps a sending call has before it, apart from the bytes it moves. -/
def SendTask.weight : SendTask → ℕ
  | opening => 4
  | preamble => 3
  | copying => 2
  | flushing => 1
  | returned _ => 0

/-- The steps a receiving call has before it, apart from the bytes it takes. -/
def ReadTask.weight : ReadTask → ℕ
  | accepting => 3
  | preamble => 2
  | draining _ _ => 1
  | failed _ | ended _ _ _ => 0

/-- The work that is left on a stream.  A byte weighs the more the further it has to go. -/
def Lane.work (s : Lane) : ℕ :=
  s.task.weight + 3 * s.buf.length + (4 * s.chunks.flatten.length + s.chunks.length)
    + 2 * s.stream.buf.length + s.recv.unread.length
    + (if s.recv.ended = none then 1 else 0) + s.call.weight

namespace Lane

variable {source : Source} {s t : Lane}

/-! ### The steps of the sending call -/

/-- A step of a sending call that has not returned leaves the other end alone. -/
theorem Inv.of_sender (h : Inv source s) (hfin : s.task.fin = none)
    (hup : t.stream.flow = .takes) (hholds : t.task.Holds source t.buf t.chunks)
    (hbytes : t.stream.buf ++ (t.buf ++ t.chunks.flatten)
      = s.stream.buf ++ (s.buf ++ s.chunks.flatten))
    (hrecv : t.recv = s.recv) (hcall : t.call = s.call) : Inv source t where
  up := hup
  holds := hholds
  bytes := by
    rw [hbytes, hrecv, hcall]
    exact h.bytes
  ended := by
    intro e he
    rw [hrecv] at he
    rw [(h.ended e he).1] at hfin
    cases hfin
  drained := by
    rw [hrecv, hcall]
    exact h.drained
  failed := by
    rw [hcall]
    exact h.failed

theorem Inv.openUni (h : Inv source s) (hstep : s.step source .openUni = some t) :
    Inv source t ∧ t.work < s.work := by
  obtain ⟨task, buf, chunks, stream, recv, call⟩ := s
  cases task with
  | opening =>
      cases hstep
      refine ⟨h.of_sender rfl h.up h.holds rfl rfl rfl, ?_⟩
      simp only [work, SendTask.weight]
      omega
  | _ => cases hstep

/-- Writing takes from the buffer only. -/
theorem holds_drop {task : SendTask} {buf : List UInt8} {chunks : List (List UInt8)}
    (hwrites : task.Writes) (h : task.Holds source buf chunks) (n : ℕ) :
    task.Holds source (buf.drop n) chunks := by
  cases task with
  | opening => exact hwrites.elim
  | preamble => exact h
  | copying =>
      simp only [SendTask.Holds, List.length_append, List.length_drop] at h ⊢
      omega
  | flushing =>
      simp only [SendTask.Holds, List.length_append, List.length_drop] at h ⊢
      exact ⟨by omega, h.2⟩
  | returned r => exact hwrites.elim

theorem Inv.write (h : Inv source s) {n : ℕ} (hstep : s.step source (.write n) = some t) :
    Inv source t ∧ t.work < s.work := by
  rw [step, SendStream.writeAll_of_takes h.up] at hstep
  split at hstep
  · next hn =>
      obtain ⟨hwrites, hpos, hle⟩ := hn
      cases hstep
      have hfin : s.task.fin = none := by
        cases htask : s.task with
        | returned r =>
            rw [htask] at hwrites
            exact hwrites.elim
        | _ => rfl
      refine ⟨h.of_sender hfin h.up (holds_drop hwrites h.holds n) ?_ rfl rfl, ?_⟩
      · rw [List.append_assoc, ← List.append_assoc (s.buf.take n), List.take_append_drop]
      · simp only [work, List.length_append, List.length_take, List.length_drop]
        omega
  · cases hstep

theorem Inv.copy (h : Inv source s) (hstep : s.step source .copy = some t) :
    Inv source t ∧ t.work < s.work := by
  obtain ⟨task, buf, chunks, stream, recv, call⟩ := s
  cases task with
  | preamble =>
      rw [step] at hstep
      dsimp only at hstep
      split at hstep
      · next hbuf =>
          cases hstep
          have hchunks : chunks = source.chunks := h.holds
          refine ⟨h.of_sender rfl h.up ?_ rfl rfl rfl, ?_⟩
          · rw [SendTask.Holds, hbuf, hchunks]
            exact Nat.le_refl _
          · simp only [work, SendTask.weight]
            omega
      · cases hstep
  | _ => cases hstep

theorem Inv.read (h : Inv source s) (hstep : s.step source .read = some t) :
    Inv source t ∧ t.work < s.work := by
  obtain ⟨task, buf, chunks, stream, recv, call⟩ := s
  cases task with
  | copying =>
      have hholds : (buf ++ chunks.flatten).length ≤ source.chunks.flatten.length := h.holds
      cases chunks with
      | cons chunk chunks =>
          -- the next bytes of the reader
          cases hstep
          refine ⟨h.of_sender rfl h.up ?_ ?_ rfl rfl, ?_⟩
          · simpa [SendTask.Holds, Nat.add_assoc] using hholds
          · simp
          · simp only [work, SendTask.weight, List.length_append, List.flatten_cons,
              List.length_cons]
            omega
      | nil =>
          rw [step] at hstep
          dsimp only at hstep
          cases hending : source.ending with
          | eof =>
              rw [hending] at hstep
              cases hstep
              refine ⟨h.of_sender rfl h.up ⟨hholds, rfl, hending⟩ rfl rfl rfl, ?_⟩
              simp only [work, SendTask.weight]
              omega
          | ioError =>
              rw [hending] at hstep
              cases hstep
              refine ⟨h.of_sender rfl h.up ⟨hholds, rfl, ?_, ?_⟩ rfl rfl rfl, ?_⟩
              · rw [Source.result_of_ioError hending]
              · intro heof
                rw [hending] at heof
                cases heof
              · simp only [work, SendTask.weight]
                omega
  | _ => cases hstep

theorem Inv.finish (h : Inv source s) (hstep : s.step source .finish = some t) :
    Inv source t ∧ t.work < s.work := by
  obtain ⟨task, buf, chunks, stream, recv, call⟩ := s
  cases task with
  | flushing =>
      rw [step] at hstep
      dsimp only at hstep
      split at hstep
      · next hbuf =>
          cases hstep
          obtain ⟨hlen, hchunks, hending⟩ := h.holds
          refine ⟨h.of_sender rfl h.up ⟨hlen, hchunks, ?_, fun _ => hbuf⟩ rfl rfl rfl, ?_⟩
          · rw [Source.result_of_eof hending]
          · simp only [work, SendTask.weight]
            omega
      · cases hstep
  | _ => cases hstep

/-! ### The steps of the network -/

theorem Inv.deliver (h : Inv source s) {n : ℕ} (hstep : s.step source (.deliver n) = some t) :
    Inv source t ∧ t.work < s.work := by
  obtain ⟨⟨stream, recv⟩, hdeliver, rfl⟩ := Option.map_eq_some_iff.1 hstep
  obtain ⟨hbytes, hlen, hflow, hended⟩ := deliver_eq_some hdeliver
  -- bytes are on the way, so the end of the stream has not been seen
  have hopen : s.recv.ended = none := by
    cases he : s.recv.ended with
    | none => rfl
    | some e =>
        rw [(h.ended e he).2] at hlen
        cases hlen
  refine ⟨⟨hflow ▸ h.up, h.holds, ?_, ?_, ?_, h.failed⟩, ?_⟩
  · rcases h.bytes with hfailed | heq
    · exact Or.inl hfailed
    · refine Or.inr ?_
      rw [← heq, ← List.append_assoc s.recv.unread, ← hbytes, List.append_assoc recv.unread]
  · intro e he
    rw [hended, hopen] at he
    cases he
  · intro reqId received e he
    rw [(h.drained reqId received e he).1] at hopen
    cases hopen
  · have hsum := congrArg List.length hbytes
    simp only [List.length_append] at hsum
    simp only [work, hended]
    omega

theorem Inv.deliverEnd (h : Inv source s) (hstep : s.step source .deliverEnd = some t) :
    Inv source t ∧ t.work < s.work := by
  rw [step] at hstep
  split at hstep
  · next e hfin hopen =>
      split at hstep
      · next hbuf =>
          cases hstep
          refine ⟨⟨h.up, h.holds, h.bytes, ?_, ?_, h.failed⟩, ?_⟩
          · intro e' he'
            cases he'
            exact ⟨hfin, hbuf⟩
          · intro reqId received e' he'
            rw [(h.drained reqId received e' he').1] at hopen
            cases hopen
          · simp only [work, hopen, reduceCtorEq, if_true, if_false]
            omega
      · cases hstep
  · cases hstep

/-! ### The steps of the receiving call -/

/-- A step of a receiving call that does not fail leaves the other end alone, and moves bytes from
the stream to what has been taken from it. -/
theorem Inv.of_receiver (h : Inv source s) {recv : RecvStream} {call : ReadTask}
    (hlive : ∀ e, s.call ≠ .failed e) (hlive' : ∀ e, call ≠ .failed e)
    (hended : recv.ended = s.recv.ended)
    (hbytes : call.consumed ++ recv.unread = s.call.consumed ++ s.recv.unread)
    (hdrained : ∀ reqId received e, call = .ended reqId received e →
      s.recv.ended = some e ∧ recv.unread = []) :
    Inv source { s with recv := recv, call := call } where
  up := h.up
  holds := h.holds
  bytes := by
    rcases h.bytes with ⟨e, he⟩ | heq
    · exact absurd he (hlive e)
    · refine Or.inr ?_
      rw [← heq, ← List.append_assoc, hbytes, List.append_assoc]
  ended := by
    intro e he
    rw [hended] at he
    exact h.ended e he
  drained := by
    intro reqId received e he
    rw [hended]
    exact hdrained reqId received e he
  failed := by
    intro e he
    exact absurd he (hlive' e)

theorem Inv.accept (h : Inv source s) (hstep : s.step source .accept = some t) :
    Inv source t ∧ t.work < s.work := by
  rw [step] at hstep
  split at hstep
  · cases hstep
  · next hcall _ =>
      cases hstep
      refine ⟨h.of_receiver ?_ ?_ rfl ?_ ?_, ?_⟩
      · simp [hcall]
      · simp
      · rw [hcall]
        rfl
      · intro reqId received e he
        cases he
      · simp only [work, hcall, ReadTask.weight]
        omega
  · cases hstep

/-- A stream that has ended with fewer than four bytes for the identifier is not behind a call. -/
theorem Inv.content_of_cut (h : Inv source s) (hcall : s.call = .preamble) {e : StreamEnd}
    (hended : s.recv.ended = some e) (hcut : s.recv.unread.length < 4) : source.content = none := by
  cases source with
  | short bytes hlt => rfl
  | call reqId reader =>
      -- the call has returned, so the identifier had been written
      obtain ⟨hfin, hbuf⟩ := h.ended e hended
      have hholds := h.holds
      cases htask : s.task with
      | returned r =>
          rw [htask] at hholds
          obtain ⟨hlen, -, -, -⟩ := hholds
          rcases h.bytes with ⟨e', he'⟩ | heq
          · rw [hcall] at he'
            cases he'
          · rw [hcall, hbuf] at heq
            have hsum := congrArg List.length heq
            simp only [ReadTask.consumed_preamble, Source.bytes, Source.preamble, List.length_append,
              List.nil_append, length_le32] at hsum
            rw [List.length_append] at hlen
            omega
      | _ =>
          rw [htask] at hfin
          cases hfin

theorem Inv.readPreamble (h : Inv source s) (hstep : s.step source .readPreamble = some t) :
    Inv source t ∧ t.work < s.work := by
  rw [step] at hstep
  split at hstep
  · next hcall =>
      rcases Nat.lt_or_ge s.recv.unread.length 4 with hcut | hle
      · cases hended : s.recv.ended with
        | none =>
            rw [RecvStream.readExact_pending hcut hended] at hstep
            cases hstep
        | some e =>
            rw [RecvStream.readExact_short hcut hended] at hstep
            cases hstep
            refine ⟨⟨h.up, h.holds, Or.inl ⟨_, rfl⟩, h.ended, ?_, ?_⟩, ?_⟩
            · intro reqId received e' he'
              cases he'
            · intro e' he'
              exact h.content_of_cut hcall hended hcut
            · simp only [work, hcall, ReadTask.weight, List.length_nil]
              omega
      · rw [RecvStream.readExact_of_le hle] at hstep
        cases hstep
        have hidbuf : le32 (ofLe32 (s.recv.unread.take 4)) = s.recv.unread.take 4 :=
          le32_ofLe32 (by rw [List.length_take, Nat.min_eq_left hle])
        refine ⟨h.of_receiver ?_ ?_ rfl ?_ ?_, ?_⟩
        · simp [hcall]
        · simp
        · rw [hcall, ReadTask.consumed_preamble, ReadTask.consumed_draining, hidbuf,
            List.append_nil, List.nil_append, List.take_append_drop]
        · intro reqId received e he
          cases he
        · simp only [work, hcall, ReadTask.weight, List.length_drop]
          omega
  · cases hstep

theorem Inv.drain (h : Inv source s) {n : ℕ} (hstep : s.step source (.drain n) = some t) :
    Inv source t ∧ t.work < s.work := by
  rw [step] at hstep
  split at hstep
  · next reqId received hcall =>
      split at hstep
      · next hn =>
          cases hstep
          refine ⟨h.of_receiver ?_ ?_ rfl ?_ ?_, ?_⟩
          · simp [hcall]
          · simp
          · rw [hcall, ReadTask.consumed_draining, ReadTask.consumed_draining]
            simp only [List.append_assoc, List.take_append_drop]
          · intro reqId' received' e he
            cases he
          · simp only [work, hcall, ReadTask.weight, List.length_drop]
            omega
      · cases hstep
  · cases hstep

theorem Inv.drainEnd (h : Inv source s) (hstep : s.step source .drainEnd = some t) :
    Inv source t ∧ t.work < s.work := by
  rw [step] at hstep
  split at hstep
  · next reqId received e hcall hended =>
      split at hstep
      · next hunread =>
          cases hstep
          refine ⟨h.of_receiver ?_ ?_ rfl ?_ ?_, ?_⟩
          · simp [hcall]
          · simp
          · rw [hcall]
            rfl
          · intro reqId' received' e' he'
            cases he'
            exact ⟨hended, hunread⟩
          · simp only [work, hcall, ReadTask.weight]
            omega
      · cases hstep
  · cases hstep

/-- **Every step keeps the invariant, and some work is done.** -/
theorem Inv.step (h : Inv source s) {e : Event} (hstep : s.step source e = some t) :
    Inv source t ∧ t.work < s.work := by
  cases e with
  | openUni => exact h.openUni hstep
  | write n => exact h.write hstep
  | copy => exact h.copy hstep
  | read => exact h.read hstep
  | finish => exact h.finish hstep
  | deliver n => exact h.deliver hstep
  | deliverEnd => exact h.deliverEnd hstep
  | accept => exact h.accept hstep
  | readPreamble => exact h.readPreamble hstep
  | drain n => exact h.drain hstep
  | drainEnd => exact h.drainEnd hstep

/-! ### The end of a stream -/

theorem write_of_ne_nil {task : SendTask} (hwrites : task.Writes) (h : Inv source s)
    (htask : s.task = task) (hbuf : s.buf ≠ []) :
    s.step source (.write s.buf.length) ≠ none := by
  have hpos : 0 < s.buf.length := List.length_pos_iff.2 hbuf
  rw [Lane.step, SendStream.writeAll_of_takes h.up, htask, if_pos ⟨hwrites, hpos, Nat.le_refl _⟩]
  simp

/-- A sending call can always go on until it returns. -/
theorem Inv.returned_of_stuck (h : Inv source s) (hstuck : Stuck (Lane.step source) s) :
    ∃ r, s.task = .returned r := by
  cases htask : s.task with
  | returned r => exact ⟨r, rfl⟩
  | opening =>
      have hnone := hstuck .openUni
      simp [Lane.step, htask] at hnone
  | preamble =>
      by_cases hbuf : s.buf = []
      · have hnone := hstuck .copy
        simp [Lane.step, htask, hbuf] at hnone
      · have hwrites : SendTask.preamble.Writes := trivial
        exact absurd (hstuck _) (write_of_ne_nil hwrites h htask hbuf)
  | copying =>
      have hnone := hstuck .read
      cases hchunks : s.chunks with
      | cons chunk chunks => simp [Lane.step, htask, hchunks] at hnone
      | nil =>
          cases hending : source.ending with
          | eof => simp [Lane.step, htask, hchunks, hending] at hnone
          | ioError => simp [Lane.step, htask, hchunks, hending] at hnone
  | flushing =>
      by_cases hbuf : s.buf = []
      · have hnone := hstuck .finish
        simp [Lane.step, htask, hbuf] at hnone
      · have hwrites : SendTask.flushing.Writes := trivial
        exact absurd (hstuck _) (write_of_ne_nil hwrites h htask hbuf)

/-- When nothing more can happen the end of the stream has arrived. -/
theorem Inv.ended_of_stuck (h : Inv source s) (hstuck : Stuck (Lane.step source) s) :
    s.recv.ended = some .finished := by
  obtain ⟨r, htask⟩ := h.returned_of_stuck hstuck
  have hfin : s.task.fin = some .finished := by rw [htask, SendTask.fin]
  have hbuf : s.stream.buf = [] := by
    by_contra hne
    obtain ⟨p, hp⟩ := deliver_all hne s.recv
    have hnone := hstuck (.deliver s.stream.buf.length)
    simp [Lane.step, hp] at hnone
  cases hended : s.recv.ended with
  | none =>
      have hnone := hstuck .deliverEnd
      simp [Lane.step, hfin, hended, hbuf] at hnone
  | some e =>
      rw [(h.ended e hended).1] at hfin
      exact hfin

/-- **When nothing more can happen both calls have returned**, and if the receiving call has not
failed the stream has been drained to a clean end. -/
theorem Inv.of_stuck (h : Inv source s) (hstuck : Stuck (Lane.step source) s) :
    (∃ r, s.task = .returned r) ∧
      ((∃ e, s.call = .failed e) ∨ ∃ reqId received, s.call = .ended reqId received .finished) := by
  have hreturned := h.returned_of_stuck hstuck
  have hended := h.ended_of_stuck hstuck
  refine ⟨hreturned, ?_⟩
  obtain ⟨r, htask⟩ := hreturned
  cases hcall : s.call with
  | accepting =>
      have hnone := hstuck .accept
      simp [Lane.step, hcall, htask] at hnone
  | preamble =>
      have hnone := hstuck .readPreamble
      rcases Nat.lt_or_ge s.recv.unread.length 4 with hcut | hle
      · simp [Lane.step, hcall, RecvStream.readExact_short hcut hended] at hnone
      · simp [Lane.step, hcall, RecvStream.readExact_of_le hle] at hnone
  | failed e => exact Or.inl ⟨e, rfl⟩
  | draining reqId received =>
      by_cases hunread : s.recv.unread = []
      · have hnone := hstuck .drainEnd
        simp [Lane.step, hcall, hended, hunread] at hnone
      · have hpos : 0 < s.recv.unread.length := List.length_pos_iff.2 hunread
        have hnone := hstuck (.drain s.recv.unread.length)
        simp [Lane.step, hcall, hpos] at hnone
  | ended reqId received e =>
      rw [(h.drained reqId received e hcall).1, Option.some.injEq] at hended
      exact Or.inr ⟨reqId, received, by rw [hended]⟩

/-! ### What has been obtained -/

/-- The sending call returns the result of its source. -/
theorem Inv.result (h : Inv source s) {r : Except BxpError Unit} (htask : s.task = .returned r) :
    r = source.result := by
  have hholds := h.holds
  rw [htask] at hholds
  exact hholds.2.2.1

/-- **A drained stream holds the whole source**, when its reader reaches its end. -/
theorem Inv.bytes_of_ended (h : Inv source s) (heof : source.ending = .eof) {reqId : UInt32}
    {received : List UInt8} {e : StreamEnd} (hcall : s.call = .ended reqId received e) :
    le32 reqId ++ received = source.bytes := by
  obtain ⟨hended, hunread⟩ := h.drained reqId received e hcall
  obtain ⟨hfin, hbuf⟩ := h.ended e hended
  have hholds := h.holds
  cases htask : s.task with
  | returned r =>
      rw [htask] at hholds
      obtain ⟨-, hchunks, -, hheld⟩ := hholds
      rcases h.bytes with ⟨e', he'⟩ | heq
      · rw [hcall] at he'
        cases he'
      · rw [← heq, hcall, hunread, hbuf, hchunks, hheld heof]
        simp [ReadTask.consumed]
  | _ =>
      rw [htask] at hfin
      cases hfin

/-- What has been obtained is what the call has sent. -/
theorem Inv.content_of_obtained (h : Inv source s) (heof : source.ending = .eof)
    {p : UInt32 × List UInt8} (hp : s.obtained = some p) : source.content = some p := by
  rw [obtained] at hp
  split at hp
  · next reqId received hcall =>
      rw [Option.some.injEq] at hp
      subst hp
      have hbytes := h.bytes_of_ended heof hcall
      cases source with
      | call reqId' reader =>
          rw [Source.bytes, Source.preamble] at hbytes
          obtain ⟨hid, hpayload⟩ := List.append_inj hbytes (by simp)
          have hid' := congrArg ofLe32 hid
          rw [ofLe32_le32, ofLe32_le32] at hid'
          rw [Source.content, hid', hpayload]
          rfl
      | short bytes hlt =>
          have hlen := congrArg List.length hbytes
          simp only [Source.bytes, Source.preamble, Source.chunks, List.flatten_nil,
            List.append_nil, List.length_append, length_le32] at hlen
          omega
  · cases hp

/-- **At the end what has been obtained is what was sent**, and nothing from a peer that stopped
early. -/
theorem Inv.obtained_of_stuck (h : Inv source s) (heof : source.ending = .eof)
    (hstuck : Stuck (Lane.step source) s) :
    s.obtained = source.content ∧ ((∃ e, s.call = .failed e) ↔ source.content = none) := by
  obtain ⟨-, ⟨e, hcall⟩ | ⟨reqId, received, hcall⟩⟩ := h.of_stuck hstuck
  · have hcontent := h.failed e hcall
    refine ⟨?_, fun _ => hcontent, fun _ => ⟨e, hcall⟩⟩
    rw [obtained, hcall, hcontent]
  · have hobtained : s.obtained = some (reqId, received) := by rw [obtained, hcall]
    have hcontent := h.content_of_obtained heof hobtained
    refine ⟨by rw [hobtained, hcontent], ?_, ?_⟩
    · rintro ⟨e, he⟩
      rw [hcall] at he
      cases he
    · intro hnone
      rw [hnone] at hcontent
      cases hcontent

/-- The rank of a lane: it satisfies the invariant, with so much work left. -/
def Rank (source : Source) (s : Lane) (n : ℕ) : Prop := Inv source s ∧ s.work = n

theorem Rank.step {n : ℕ} {e : Event} (h : Rank source s n) (hstep : s.step source e = some t) :
    ∃ m, m < n ∧ Rank source t m := by
  obtain ⟨hinv, rfl⟩ := h
  obtain ⟨hinv', hwork⟩ := hinv.step hstep
  exact ⟨t.work, hwork, hinv', rfl⟩

theorem inv_of_reachable (h : Reachable (Lane.step source) (start source) s) : Inv source s :=
  h.inv (fun _ _ _ hinv hstep => (hinv.step hstep).1) (inv_start source)

end Lane

/-! ### The two calls, as the connection makes them -/

/-- **The one step of the connection is the steps of a lane together.**  On a connection that is up,
and whose peer takes the stream, the sending call returns what it returns at the end of its lane,
and what the receiver has got by then is what was put on the stream: all of it if the reader reaches
its end, and no more than that if it fails. -/
theorem sendDataStream_lane {c : Connection} (hup : c.isClosed = false) (hflow : c.uniFlow = .takes)
    {reqId : UInt32} {reader : AsyncRead} {s : Lane}
    (hreach : Reachable (Lane.step (.call reqId reader)) (Lane.start (.call reqId reader)) s)
    (hstuck : Stuck (Lane.step (.call reqId reader)) s) :
    ∃ (r : Except BxpError Unit) (c' : Connection) (send : SendStream),
      Connection.sendDataStream reqId reader c = some (r, c') ∧
      c'.outgoingUni = c.outgoingUni ++ [(reqId, reader)] ∧
      reader.sendOn reqId { buf := [], flow := c.uniFlow.toFlow } = some (r, send) ∧
      s.task = .returned r ∧ s.call.consumed <+: send.buf ∧
      (reader.ending = .eof → s.call.consumed = send.buf) := by
  have hinv := Lane.inv_of_reachable hreach
  refine ⟨reader.copyResult, _, _, Connection.sendDataStream_of_up hup hflow reqId reader, rfl,
    AsyncRead.sendOn_of_takes (by rw [hflow]; rfl) reqId reader, ?_, ?_, ?_⟩
  · obtain ⟨r, htask⟩ := hinv.returned_of_stuck hstuck
    rw [htask, hinv.result htask]
    rfl
  · rcases hinv.bytes with ⟨e, hfailed⟩ | hbytes
    · cases hinv.failed e hfailed
    · exact ⟨_, hbytes⟩
  · intro heof
    obtain ⟨-, ⟨e, hfailed⟩ | ⟨reqId', received, hcall⟩⟩ := hinv.of_stuck hstuck
    · cases hinv.failed e hfailed
    · rw [hcall]
      exact hinv.bytes_of_ended heof hcall

/-- The step that reads the identifier is `read_data_stream` on a connection that is up and where the
stream of the lane is the next one to be accepted. -/
theorem step_readPreamble_eq {source : Source} {s : Lane} (h : Lane.Inv source s)
    (hcall : s.call = .preamble) {c : Connection} (hup : c.isClosed = false)
    {streams : List RecvStream} (hc : c.incomingUni = s.recv :: streams) :
    s.step source .readPreamble
      = (Connection.readDataStream c).map fun p =>
          match p.1 with
          | .ok (reqId, stream) => { s with recv := stream, call := .draining reqId [] }
          | .error e => { s with recv := { s.recv with unread := [] }, call := .failed e } := by
  -- nobody resets a stream here
  have hsettled : s.recv.settle = s.recv := by
    rw [RecvStream.settle]
    split
    · next code hreset =>
        have hfin := (h.ended _ hreset).1
        cases htask : s.task <;>
          · rw [htask] at hfin
            cases hfin
    · rfl
  rw [Lane.step, hcall, Connection.readDataStream, hc]
  dsimp only
  rw [hup, RecvStream.readPreamble_of_up, hsettled]
  rcases Nat.lt_or_ge s.recv.unread.length 4 with hcut | hle
  · cases hended : s.recv.ended with
    | none => rw [RecvStream.readExact_pending hcut hended]; rfl
    | some e => rw [RecvStream.readExact_short hcut hended, hended]; rfl
  · rw [RecvStream.readExact_of_le hle]
    rfl

/-! ### Failed transfers -/

/-- The receiver has been told that something went wrong. -/
def ReadTask.EndsInError : ReadTask → Prop
  | failed _ => True
  | ended _ _ e => e ≠ .finished
  | _ => False

/-- **A transfer that failed is never seen as a complete one.**  In every state that can be reached:
a clean end of the stream is seen only if the reader reached its end, and then behind the preamble
and all its bytes; and when the sending call has failed and nothing more can happen, the receiver
has been told. -/
def FailureIsSeen (reqId : UInt32) (reader : AsyncRead) : Prop :=
  ∀ s, Reachable (Lane.step (.call reqId reader)) (Lane.start (.call reqId reader)) s →
    (∀ reqId' received, s.call = .ended reqId' received .finished →
      reader.ending = .eof ∧ le32 reqId' ++ received = le32 reqId ++ reader.payload) ∧
    (∀ e, s.task = .returned (.error e) → Stuck (Lane.step (.call reqId reader)) s →
      s.call.EndsInError)

/-- **A failed transfer is told from a complete one exactly when there is none**: when the reader
reaches its end. -/
theorem failureIsSeen_iff (reqId : UInt32) (reader : AsyncRead) :
    FailureIsSeen reqId reader ↔ reader.ending = .eof := by
  constructor
  · intro hseen
    -- run the stream to its end: the receiver has drained it to a clean end
    obtain ⟨t, n, hreach, hstuck, hinv, -⟩ := exists_run_stuck
      (fun _ _ _ _ h hstep => Lane.Rank.step h hstep)
      (⟨Lane.inv_start (.call reqId reader), rfl⟩ :
        Lane.Rank (.call reqId reader) (Lane.start (.call reqId reader)) _)
    obtain ⟨-, ⟨e, hcall⟩ | ⟨reqId', received, hcall⟩⟩ := hinv.of_stuck hstuck
    · cases hinv.failed e hcall
    · exact ((hseen t hreach).1 reqId' received hcall).1
  · intro heof s hreach
    have hsource : (Source.call reqId reader).ending = .eof := heof
    have hinv := Lane.inv_of_reachable hreach
    constructor
    · intro reqId' received hcall
      exact ⟨heof, hinv.bytes_of_ended hsource hcall⟩
    · intro e htask
      have hresult := hinv.result htask
      rw [Source.result_of_eof hsource] at hresult
      cases hresult

/-- A reader that fails after two bytes. -/
def failingReader : AsyncRead where
  chunks := [[1], [2]]
  ending := .ioError
  chunks_ne := by decide

/-- One of the ways such a transfer can go: the first byte is written, the second is still in the
buffer when the reader fails. -/
def truncatedRun : List Lane.Event :=
  [.openUni, .write 4, .copy, .read, .write 1, .read, .read, .deliver 5, .deliverEnd, .accept,
    .readPreamble, .drain 1, .drainEnd]

/-- **A truncated transfer that looks complete**: `send_data_stream` has failed, and the receiver
has one byte and a clean end. -/
theorem truncated_looks_complete :
    (∃ s, run (Lane.step (.call 7 failingReader)) (Lane.start (.call 7 failingReader)) truncatedRun
        = some s ∧ s.task = .returned (.error .io) ∧ s.call = .ended 7 [1] .finished) ∧
      ¬ FailureIsSeen 7 failingReader := by
  obtain ⟨s, hrun, htask, hcall⟩ : ∃ s, run (Lane.step (.call 7 failingReader))
      (Lane.start (.call 7 failingReader)) truncatedRun = some s ∧
        s.task = .returned (.error .io) ∧ s.call = .ended 7 [1] .finished := ⟨_, rfl, rfl, rfl⟩
  refine ⟨⟨s, hrun, htask, hcall⟩, fun hseen => ?_⟩
  obtain ⟨hending, -⟩ := (hseen s ⟨truncatedRun, hrun⟩).1 7 [1] hcall
  cases hending

/-! ### Many streams -/

/-- **What is obtained is what was sent**, over any number of streams whose steps come in any order.
The call `k` of `read_data_stream` accepts the stream `accepts k`, every stream exactly once.  At
any time what has been obtained from a stream is what was sent on it.  When nothing more can happen,
the identifiers and payloads obtained by all the calls are those of all the calls of
`send_data_stream`, and the calls that accepted the stream of a peer that stopped early have failed,
and no others.  This is after a bounded number of steps of each stream, and can be reached from
wherever the run is. -/
theorem data_streams_associated {ι κ : Type} [DecidableEq ι] [Fintype ι] [Fintype κ]
    (accepts : κ ≃ ι) {sources : ι → Source} (heof : ∀ i, (sources i).ending = .eof)
    {es : List (ι × Lane.Event)} {s : ι → Lane}
    (hrun : run (interleave fun i => Lane.step (sources i)) (fun i => Lane.start (sources i)) es
      = some s) :
    (∀ i p, (s i).obtained = some p → (sources i).content = some p) ∧
      (Stuck (interleave fun i => Lane.step (sources i)) s →
        (Finset.univ : Finset κ).val.filterMap (fun k => (s (accepts k)).obtained)
            = (Finset.univ : Finset ι).val.filterMap (fun i => (sources i).content) ∧
          ∀ k, (∃ e, (s (accepts k)).call = .failed e) ↔ (sources (accepts k)).content = none) ∧
      (∀ i, (project i es).length ≤ (Lane.start (sources i)).work) ∧
      ∀ i, ∃ t, Reachable (Lane.step (sources i)) (s i) t ∧ Stuck (Lane.step (sources i)) t := by
  have hown := run_interleave_iff.1 hrun
  have hinv : ∀ i, Lane.Inv (sources i) (s i) := by
    intro i
    exact Lane.inv_of_reachable ⟨_, hown i⟩
  have hstart : ∀ i,
      Lane.Rank (sources i) (Lane.start (sources i)) (Lane.start (sources i)).work := by
    intro i
    exact ⟨Lane.inv_start (sources i), rfl⟩
  refine ⟨?_, ?_, ?_, ?_⟩
  · intro i p hp
    exact (hinv i).content_of_obtained (heof i) hp
  · intro hall
    have hstuck := stuck_interleave_iff.1 hall
    constructor
    · have hobtained : (fun i => (s i).obtained) = fun i => (sources i).content :=
        funext fun i => ((hinv i).obtained_of_stuck (heof i) (hstuck i)).1
      calc (Finset.univ : Finset κ).val.filterMap (fun k => (s (accepts k)).obtained)
          = ((Finset.univ : Finset κ).val.map accepts).filterMap (fun i => (s i).obtained) :=
            (Multiset.filterMap_map accepts (fun i => (s i).obtained) _).symm
        _ = (Finset.univ : Finset ι).val.filterMap (fun i => (s i).obtained) := by
            rw [Multiset.map_univ_val_equiv]
        _ = (Finset.univ : Finset ι).val.filterMap (fun i => (sources i).content) := by
            rw [hobtained]
    · intro k
      exact ((hinv (accepts k)).obtained_of_stuck (heof _) (hstuck _)).2
  · intro i
    obtain ⟨m, hm, -⟩ := run_rank (fun _ _ _ _ h hstep => Lane.Rank.step h hstep) (hstart i) (hown i)
    omega
  · intro i
    obtain ⟨t, -, hreach, hstuck, -⟩ := exists_run_stuck
      (fun _ _ _ _ h hstep => Lane.Rank.step h hstep)
      (⟨hinv i, rfl⟩ : Lane.Rank (sources i) (s i) _)
    exact ⟨t, hreach, hstuck⟩

/-- The sources of two streams: a call that sends three bytes, and a peer that stops after one. -/
def twoSources : Bool → Source
  | true => .call 5 { chunks := [[1, 2], [3]], ending := .eof, chunks_ne := by decide }
  | false => .short [9] (by decide)

/-- The two streams at work, step by step in turn, to their ends: the payload is written in two
pieces and drained in two others. -/
def twoStreamsRun : List (Bool × Lane.Event) :=
  [(true, .openUni), (false, .openUni), (true, .write 4), (false, .write 1), (false, .copy),
    (true, .copy), (false, .read), (true, .read), (false, .finish), (true, .accept),
    (true, .deliver 4), (true, .write 1), (false, .deliver 1), (true, .readPreamble),
    (false, .deliverEnd), (true, .read), (true, .deliver 1), (false, .accept), (true, .drain 1),
    (true, .write 2), (false, .readPreamble), (true, .read), (true, .finish), (true, .deliver 2),
    (true, .deliverEnd), (true, .drain 2), (true, .drainEnd)]

/-- A lane whose calls have both returned, with nothing on the way, is at its end. -/
theorem Lane.stuck_of_returned {source : Source} {s : Lane} {r : Except BxpError Unit}
    {e : StreamEnd} (htask : s.task = .returned r) (hbuf : s.stream.buf = [])
    (hended : s.recv.ended = some e)
    (hcall : (∃ e, s.call = .failed e) ∨ ∃ reqId received e, s.call = .ended reqId received e) :
    Stuck (Lane.step source) s := by
  intro ev
  rcases hcall with ⟨e', hcall⟩ | ⟨reqId, received, e', hcall⟩ <;>
    cases ev <;> simp [step, htask, hcall, hended, hbuf, SendTask.Writes, SendTask.fin, deliver]
  all_goals omega

/-- At the end of this run one call has obtained the three bytes, and the other has failed. -/
theorem data_streams_associated_two :
    ∃ s, run (interleave fun i => Lane.step (twoSources i)) (fun i => Lane.start (twoSources i))
        twoStreamsRun = some s ∧
      (s true).obtained = some (5, [1, 2, 3]) ∧ (∃ e, (s false).call = .failed e) ∧
      ((Finset.univ : Finset Bool).val.filterMap (fun k => (s k).obtained)
          = (Finset.univ : Finset Bool).val.filterMap (fun i => (twoSources i).content) ∧
        ∀ k, (∃ e, (s k).call = .failed e) ↔ (twoSources k).content = none) ∧
      (∀ i p, (s i).obtained = some p → (twoSources i).content = some p) ∧
      ∀ i, ∃ t, Reachable (Lane.step (twoSources i)) (s i) t ∧
        Stuck (Lane.step (twoSources i)) t := by
  have heof : ∀ i, (twoSources i).ending = .eof := by
    intro i
    cases i <;> rfl
  obtain ⟨s, hrun, hone, hother, hsent, hgone, hended⟩ : ∃ s,
      run (interleave fun i => Lane.step (twoSources i)) (fun i => Lane.start (twoSources i))
          twoStreamsRun = some s ∧
        (s true).call = .ended 5 [1, 2, 3] .finished ∧ (∃ e, (s false).call = .failed e) ∧
        (∀ i, (s i).task = .returned (.ok ())) ∧ (∀ i, (s i).stream.buf = []) ∧
        ∀ i, (s i).recv.ended = some .finished :=
    ⟨_, rfl, rfl, ⟨_, rfl⟩, Bool.rec rfl rfl, Bool.rec rfl rfl, Bool.rec rfl rfl⟩
  obtain ⟨hpart, hall, -, hterm⟩ := data_streams_associated (Equiv.refl Bool) heof hrun
  refine ⟨s, hrun, by rw [Lane.obtained, hone], hother, hall ?_, hpart, hterm⟩
  refine stuck_interleave_iff.2 fun i => Lane.stuck_of_returned (hsent i) (hgone i) (hended i) ?_
  cases i with
  | true => exact Or.inr ⟨_, _, _, hone⟩
  | false => exact Or.inl hother

end Bxp

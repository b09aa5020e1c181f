/-
**What a peer can make this side allocate.**

A reader of the control stream allocates the buffer of a message before it has seen the message, by
what the header says.  So a peer gets memory for four bytes.  But it cannot get much more than it
pays for: a buffer is filled before the next one is allocated, and the one that is not filled is
within the limit of the reader.  That is 1 MiB at the server, and all that a header can announce at
the client.  Every call is awaited to its end: one that is given up has spent its buffer, and the next
one takes the bytes of the body for a header.  The buffer of a call that waits is counted as long as
it waits; where a reset ends the call, it is the last, and goes with the bytes that the reset discards.

Main definitions:

* `Bxp.BxpConnection.waitingBuf` — the buffer that a waiting call has allocated;
* `Bxp.Paid` — the account of buffers allocated and bytes received.

Main results:

* `Bxp.ReadsItems.buffers` — what one call allocates, and what it consumes for that;
* `Bxp.Paid.net`, `Bxp.Paid.receive` — arrivals and calls keep the account;
* `Bxp.server_allocates`, `Bxp.client_allocates` — **all buffers together are no larger than the
  bytes received and the limit**.
-/

import BxpCore.ControlStream

set_option relaxedAutoImplicit false
set_option autoImplicit false

namespace Bxp

open LengthPrefix Machine BxpConnection

variable {C : Capnp.Serializer} {router : BxpRouter} {side : Side} {α : Type} {limit : ℕ}

/-! ### One call -/

/-- The size of the buffer that a call waiting for the body of a message has allocated. -/
def BxpConnection.waitingBuf (limit : ℕ) (c : BxpConnection side) : ℕ :=
  match header c.controlRecv.unread with
  | some n => if n ≤ limit ∧ (c.controlRecv.unread.drop 4).length < n then n else 0
  | none => 0

theorem BxpConnection.waitingBuf_le (limit : ℕ) (c : BxpConnection side) :
    c.waitingBuf limit ≤ limit := by
  unfold waitingBuf
  split
  · split
    · next h => exact h.1
    · exact Nat.zero_le limit
  · exact Nat.zero_le limit

theorem BxpConnection.waitingBuf_of_nil {c : BxpConnection side}
    (h : c.controlRecv.unread = []) (limit : ℕ) : c.waitingBuf limit = 0 := by
  rw [waitingBuf, h]
  rfl

variable {c c' : BxpConnection side} {readFrame : Async (BxpConnection side) (List UInt8)}

/-- **What one call allocates.**  A message that is there pays for its buffer with its own bytes; a
header that is refused costs nothing; and where the stream has ended inside a body, a buffer within
the limit is allocated and nothing is left to be read. -/
theorem ReadsItems.buffers (h : ReadsItems readFrame limit) {r : Except BxpError (List UInt8)}
    (hread : readFrame c = some (r, c')) :
    (∃ n, n ≤ limit ∧ c'.msgBufs = c.msgBufs ++ [n] ∧
        n + c'.controlRecv.unread.length < c.controlRecv.unread.length) ∨
      (c'.msgBufs = c.msgBufs ∧ c'.controlRecv.ended = c.controlRecv.ended ∧
        c'.controlRecv.unread.length ≤ c.controlRecv.unread.length) ∨
      ∃ n, n ≤ limit ∧ c'.msgBufs = c.msgBufs ++ [n] ∧ c.controlRecv.unread ≠ [] ∧
        c'.controlRecv.unread = [] ∧ ∃ e, c'.controlRecv.ended = some e := by
  cases hheader : header c.controlRecv.unread with
  | none =>
      cases hended : c.controlRecv.ended with
      | none => cases hread.symm.trans (h.pending_header hheader hended)
      | some e =>
          cases hread.symm.trans (h.cut_header hheader hended)
          exact Or.inr (Or.inl ⟨rfl, hended, Nat.zero_le _⟩)
  | some n =>
      have hlen := length_of_header hheader
      rcases Nat.lt_or_ge limit n with hbig | hle
      · cases hread.symm.trans (h.oversized hheader hbig)
        refine Or.inr (Or.inl ⟨rfl, rfl, ?_⟩)
        rw [withUnread_unread]
        omega
      · rcases Nat.lt_or_ge (c.controlRecv.unread.drop 4).length n with hlt | hge
        · cases hended : c.controlRecv.ended with
          | none => cases hread.symm.trans (h.pending_body hheader hle hlt hended)
          | some e =>
              cases hread.symm.trans (h.cut_body hheader hle hlt hended)
              refine Or.inr (Or.inr ⟨n, hle, rfl, ?_, rfl, e, hended⟩)
              intro hnil
              rw [hnil] at hlen
              simp at hlen
        · cases hread.symm.trans (h.whole hheader hle hge)
          refine Or.inl ⟨n, hle, rfl, ?_⟩
          rw [withUnread_unread, List.length_drop]
          omega

/-- What follows a computation without awaiting leaves the state to it. -/
theorem Async.of_bind_ofExcept {σ β : Type} {x : Async σ α} {f : α → Except BxpError β} {s t : σ}
    {r : Except BxpError β} (h : (x >>= fun a => ofExcept (f a)) s = some (r, t)) :
    ∃ r', x s = some (r', t) := by
  cases hx : x s with
  | none => cases h.symm.trans (bind_of_pending hx)
  | some p =>
      obtain ⟨r', u⟩ := p
      cases r' with
      | error e =>
          cases h.symm.trans (bind_of_error hx)
          exact ⟨_, rfl⟩
      | ok a =>
          cases h.symm.trans (bind_of_ok hx)
          exact ⟨_, rfl⟩

/-! ### The account -/

/-- The buffers allocated so far are within the limit, and they are paid for by the bytes received,
but for one of them on a stream that has ended. -/
structure Paid (limit : ℕ) (arrived : List UInt8) (c : BxpConnection side) : Prop where
  bounded : ∀ n ∈ c.msgBufs, n ≤ limit
  paid : c.msgBufs.sum + c.controlRecv.unread.length ≤ arrived.length ∨
    c.msgBufs.sum ≤ arrived.length + limit ∧ c.controlRecv.unread = [] ∧
      ∃ e, c.controlRecv.ended = some e

namespace Paid

variable {tr : Transcript α}

theorem start {c : BxpConnection side} (h : c.msgBufs = []) :
    Paid limit c.controlRecv.unread c where
  bounded := by
    intro n hn
    rw [h] at hn
    cases hn
  paid := by
    rw [h, List.sum_nil, Nat.zero_add]
    exact Or.inl (Nat.le_refl _)

/-- What leaves the control stream and the buffers alone keeps the account. -/
theorem frame {arrived : List UInt8} (h : Paid limit arrived c) (hread : c'.readPart = c.readPart) :
    Paid limit arrived c' := by
  obtain ⟨hrecv, hbufs⟩ := Prod.mk.inj hread
  exact ⟨by rw [hbufs]; exact h.bounded, by rw [hbufs, hrecv]; exact h.paid⟩

/-- The end of the stream keeps the account: it leaves no more to be read than there was. -/
theorem stop {arrived : List UInt8} (h : Paid limit arrived c) (e : StreamEnd)
    (hrecv : c'.controlRecv = c.controlRecv.stop e) (hbufs : c'.msgBufs = c.msgBufs) :
    Paid limit arrived c' := by
  refine ⟨hbufs ▸ h.bounded, ?_⟩
  rw [hbufs, hrecv]
  obtain ⟨hended, ⟨hunread, -⟩ | ⟨hunread, -⟩⟩ := c.controlRecv.stop_cases e
  · rw [hunread]
    rcases h.paid with hpaid | ⟨hsum, hnil, -⟩
    · exact Or.inl hpaid
    · exact Or.inr ⟨hsum, hnil, hended⟩
  · rw [hunread]
    rcases h.paid with hpaid | ⟨hsum, -, -⟩
    · left
      rw [List.length_nil]
      omega
    · exact Or.inr ⟨hsum, rfl, hended⟩

/-- Arrivals keep the account. -/
theorem net (h : Paid limit tr.arrived c) (e : NetEvent) :
    Paid limit (tr.net c e).arrived (c.onNet e) := by
  cases e with
  | control bytes =>
      rw [Transcript.net, onNet]
      cases hended : c.controlRecv.ended with
      | some e =>
          rw [RecvStream.arrive_of_ended hended]
          exact h
      | none =>
          rw [RecvStream.arrive_of_open hended]
          refine ⟨h.bounded, ?_⟩
          rcases h.paid with hpaid | ⟨-, -, e, he⟩
          · left
            simp only [List.length_append]
            omega
          · rw [hended] at he
            cases he
  | controlFinish => exact h.stop .finished rfl rfl
  | controlReset code => exact h.stop (.reset code) rfl rfl
  | controlFlow flow =>
      refine h.frame ?_
      rw [readPart, controlRecv_onNet_controlFlow, (keeps_onNet c (.controlFlow flow)).2.2.2]
      rfl
  | dataStream stream => exact ⟨h.bounded, h.paid⟩
  | dataFlow flow => exact ⟨h.bounded, h.paid⟩
  | peerClose => exact h.stop .connectionLost rfl rfl

/-- **A call that reads keeps the account.** -/
theorem receive {arrived : List UInt8} (hreads : ReadsItems readFrame limit)
    (h : Paid limit arrived c) {decode : List UInt8 → Except BxpError α} {r : Except BxpError α}
    (hrecv : (readFrame >>= fun msgBuf => Async.ofExcept (decode msgBuf)) c = some (r, c')) :
    Paid limit arrived c' := by
  obtain ⟨r', hframe⟩ := Async.of_bind_ofExcept hrecv
  have hbounded : ∀ n, n ≤ limit → ∀ m ∈ c.msgBufs ++ [n], m ≤ limit := by
    intro n hn m hm
    rcases List.mem_append.1 hm with hm | hm
    · exact h.bounded m hm
    · rw [List.mem_singleton.1 hm]
      exact hn
  rcases hreads.buffers hframe with ⟨n, hn, hbufs, hlen⟩ | ⟨hbufs, hended, hlen⟩ |
    ⟨n, hn, hbufs, hne, hnil, hended⟩
  · refine ⟨hbufs ▸ hbounded n hn, ?_⟩
    rw [hbufs, List.sum_append, List.sum_singleton]
    rcases h.paid with hpaid | ⟨-, hnil, -⟩
    · left
      omega
    · -- past the end no message is left to be read
      rw [hnil] at hlen
      cases hlen
  · refine ⟨hbufs ▸ h.bounded, ?_⟩
    rw [hbufs, hended]
    rcases h.paid with hpaid | ⟨hsum, hnil, e, he⟩
    · left
      omega
    · refine Or.inr ⟨hsum, ?_, e, he⟩
      rw [hnil] at hlen
      exact List.length_eq_zero_iff.1 (Nat.le_zero.1 hlen)
  · refine ⟨hbufs ▸ hbounded n hn, ?_⟩
    rw [hbufs, List.sum_append, List.sum_singleton]
    rcases h.paid with hpaid | ⟨-, hnil', -⟩
    · exact Or.inr ⟨by omega, hnil, hended⟩
    · exact absurd hnil' hne

/-- **All buffers together**, with that of a call that waits, are paid for up to the limit. -/
theorem total {arrived : List UInt8} (h : Paid limit arrived c) :
    c.msgBufs.sum + c.waitingBuf limit ≤ arrived.length + limit := by
  rcases h.paid with hpaid | ⟨hsum, hnil, -⟩
  · have hwait := c.waitingBuf_le limit
    omega
  · rw [waitingBuf_of_nil hnil]
    exact hsum

end Paid

/-! ### Whole runs -/

/-- Every step of a server keeps the account. -/
theorem Serving.paid_of_run {c : BxpServerConnection} (hc : c.msgBufs = [])
    {es : List ServeLoop.Event} {s : Serving}
    (hrun : run (Serving.step C router) (.accepted c) es = some s) :
    Paid maxControlMsg (c.receives (ServeLoop.netEvents es)) s.conn := by
  obtain ⟨-, harrived⟩ := Serving.faithful_of_run hrun
  rw [← harrived]
  refine run_inv (P := fun s : Serving => Paid maxControlMsg s.heard.arrived s.conn) ?_ ?_ hrun
  · intro s e t h hstep
    have hmove := Serving.moves_of_step hstep
    cases e with
    | net e =>
        cases hmove with
        | net => exact h.net e
    | advance =>
        rw [hmove.arrived.1]
        rcases hmove.readPart with ⟨hread, -⟩ | ⟨r, hrecv, -⟩
        · exact h.frame hread
        · exact h.receive BxpServerConnection.readsItems hrecv
  · exact Paid.start hc

/-- **What a client can make a server allocate.**  Whatever bytes arrive on a connection, in whatever
pieces, and whatever calls the router and its handlers make, each awaited to its end: every message
buffer is within `MAX_CONTROL_MSG`, and all of them together, with the one of a call that is still
waiting, are no larger than the bytes received and one such buffer. -/
theorem server_allocates {C : Capnp.Serializer} {router : BxpRouter} {c : BxpServerConnection}
    (hc : c.msgBufs = []) {es : List ServeLoop.Event} {s : Serving}
    (hrun : run (Serving.step C router) (.accepted c) es = some s) :
    (∀ n ∈ s.conn.msgBufs, n ≤ maxControlMsg) ∧
      s.conn.msgBufs.sum + s.conn.waitingBuf maxControlMsg
        ≤ (c.receives (ServeLoop.netEvents es)).length + maxControlMsg := by
  have hpaid := Serving.paid_of_run hc hrun
  exact ⟨hpaid.bounded, hpaid.total⟩

/-- What a server has allocated for a request cut in two. -/
theorem server_allocates_cut :
    ∃ s, run (Serving.step Capnp.wire .new) (.accepted (opened .server)) cutRun = some s ∧
      s.conn.msgBufs.sum + s.conn.waitingBuf maxControlMsg
        ≤ ((opened .server).receives (ServeLoop.netEvents cutRun)).length + maxControlMsg := by
  obtain ⟨s, hrun, -⟩ := exists_cutRun
  exact ⟨s, hrun, (server_allocates rfl hrun).2⟩

/-- **What a server can make a client allocate**: the same account, for an application that awaits
each of its calls to its end, with the limit of the header in the place of `MAX_CONTROL_MSG`. -/
theorem client_allocates {C : Capnp.Serializer} {c : BxpClientConnection} (hc : c.msgBufs = [])
    {es : List ClientEvent} {s : Asking}
    (hrun : run (Asking.step C) (.connected c) es = some s) :
    (∀ n ∈ s.conn.msgBufs, n ≤ maxHeader) ∧
      s.conn.msgBufs.sum + s.conn.waitingBuf maxHeader
        ≤ (c.receives (ClientEvent.netEvents es)).length + maxHeader := by
  obtain ⟨-, harrived⟩ := Asking.faithful_of_run hrun
  have hpaid : Paid maxHeader s.heard.arrived s.conn := by
    refine run_inv (P := fun s : Asking => Paid maxHeader s.heard.arrived s.conn) ?_ ?_ hrun
    · intro s e t h hstep
      have hmove := Asking.moves_of_step hstep
      by_cases he : ∃ e', e = .net e'
      · obtain ⟨e', rfl⟩ := he
        cases hmove with
        | net => exact h.net e'
        | _ hpolled => cases hpolled
      · rw [(hmove.arrived (not_exists.1 he)).1]
        rcases hmove.readPart (not_exists.1 he) with ⟨hread, -⟩ | ⟨r, hrecv, -⟩
        · exact h.frame hread
        · exact h.receive BxpClientConnection.readsItems hrecv
    · exact Paid.start hc
  rw [← harrived]
  exact ⟨hpaid.bounded, hpaid.total⟩

/-- What a client has allocated for a header. -/
theorem client_allocates_announced :
    ∃ s, run (Asking.step Capnp.wire) (.connected (opened .client)) announcedRun = some s ∧
      s.conn.msgBufs.sum + s.conn.waitingBuf maxHeader
        ≤ ((opened .client).receives (ClientEvent.netEvents announcedRun)).length + maxHeader := by
  obtain ⟨s, hrun, -⟩ := exists_announcedRun
  exact ⟨s, hrun, (client_allocates rfl hrun).2⟩

end Bxp

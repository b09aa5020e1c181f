/-
**What an oversized header does to the two readers.**

`receive_request` compares the length in the header with `MAX_CONTROL_MSG` and gives up when it is
larger; `receive_response`, written beside it, does not compare.  So the two readers part on exactly
the streams that start with such a header.  And giving up is not the end of it on the server either:
the body is still on the stream, so the next call takes the first bytes of the body for a header.

Main definitions:

* `Bxp.frameOutcome`, `Bxp.ReadersAgree` — what a reader of frames does, and that both do the same;
* `Bxp.InSync` — the calls on a stream of frames start on frame boundaries.

Main results:

* `Bxp.readersAgree_iff` — **the readers agree on exactly the streams without an oversized header
  in front**;
* `Bxp.inSync_iff` — **the server stays in step with the frames as long as no body before the last
  call is oversized, and no longer**;
* `Bxp.smuggled_request` — a request that was never sent, out of the body of another.
-/

import BxpCore.Framing

set_option relaxedAutoImplicit false
set_option autoImplicit false

namespace Bxp

open LengthPrefix BxpConnection

variable {side : Side}

/-- The header in front announces more than `MAX_CONTROL_MSG` bytes. -/
def OversizedHeader (unread : List UInt8) : Prop := ∃ n, header unread = some n ∧ maxControlMsg < n

/-! ### The two readers -/

/-- What a call of `readFrame` shows: its result, the control stream and the message buffers it
leaves.  A pending call shows nothing. -/
def frameOutcome (p : Option (Except BxpError (List UInt8) × BxpConnection side)) :
    Option (Except BxpError (List UInt8) × RecvStream × List ℕ) :=
  p.map fun q => (q.1, q.2.controlRecv, q.2.msgBufs)

/-- The framing parts of `receive_response` and `receive_request` do the same on the control stream
`recv`, and no message buffer is larger than `MAX_CONTROL_MSG`. -/
def ReadersAgree (recv : RecvStream) : Prop :=
  ∀ (c : BxpClientConnection) (s : BxpServerConnection), c.controlRecv = recv →
    s.controlRecv = recv → c.msgBufs = [] → s.msgBufs = [] →
    frameOutcome (BxpClientConnection.readFrame c) = frameOutcome (BxpServerConnection.readFrame s) ∧
      ∀ out, frameOutcome (BxpClientConnection.readFrame c) = some out →
        ∀ len ∈ out.2.2, len ≤ maxControlMsg

/-- Without an oversized header in front the two readers do the same. -/
theorem readersAgree_of_not_oversized {recv : RecvStream} (h : ¬ OversizedHeader recv.unread) :
    ReadersAgree recv := by
  intro c s hc hs hcb hsb
  subst hc
  cases hheader : header c.controlRecv.unread with
  | none =>
      have hheader' : header s.controlRecv.unread = none := by rw [hs, hheader]
      cases hend : c.controlRecv.ended with
      | none =>
          rw [BxpClientConnection.readFrame_pending_header hheader hend,
            BxpServerConnection.readFrame_pending_header hheader' (by rw [hs, hend])]
          exact ⟨rfl, by rintro _ ⟨⟩⟩
      | some e =>
          rw [BxpClientConnection.readFrame_cut_header hheader hend,
            BxpServerConnection.readFrame_cut_header hheader' (by rw [hs, hend]), hs]
          simp [frameOutcome, withUnread, hcb, hsb, hs]
  | some n =>
      have hheader' : header s.controlRecv.unread = some n := by rw [hs, hheader]
      have hn : n ≤ maxControlMsg := Nat.le_of_not_lt fun hlt => h ⟨n, hheader, hlt⟩
      rcases Nat.lt_or_ge (c.controlRecv.unread.drop 4).length n with hlt | hge
      · have hlt' : (s.controlRecv.unread.drop 4).length < n := by rwa [hs]
        cases hend : c.controlRecv.ended with
        | none =>
            rw [BxpClientConnection.readFrame_pending_body hheader hlt hend,
              BxpServerConnection.readFrame_pending_body hheader' hn hlt' (by rw [hs, hend])]
            exact ⟨rfl, by rintro _ ⟨⟩⟩
        | some e =>
            rw [BxpClientConnection.readFrame_cut_body hheader hlt hend,
              BxpServerConnection.readFrame_cut_body hheader' hn hlt' (by rw [hs, hend]), hs]
            simp [frameOutcome, withUnread, hcb, hsb, hs, hn]
      · have hge' : n ≤ (s.controlRecv.unread.drop 4).length := by rwa [hs]
        rw [BxpClientConnection.readFrame_whole hheader hge,
          BxpServerConnection.readFrame_whole hheader' hn hge', hs]
        simp [frameOutcome, withUnread, hcb, hsb, hs, hn]

/-- In front of an oversized header the server has allocated nothing when it is done, and the client
has allocated the buffer. -/
theorem not_readersAgree_of_oversized {recv : RecvStream} (h : OversizedHeader recv.unread) :
    ¬ ReadersAgree recv := by
  obtain ⟨n, hheader, hn⟩ := h
  intro hagree
  let c : BxpClientConnection := { opened .client with controlRecv := recv }
  let s : BxpServerConnection := { opened .server with controlRecv := recv }
  obtain ⟨heq, -⟩ := hagree c s rfl rfl rfl rfl
  rw [BxpServerConnection.readFrame_oversized (c := s) hheader hn] at heq
  rcases Nat.lt_or_ge (recv.unread.drop 4).length n with hlt | hge
  · cases hend : recv.ended with
    | none =>
        rw [BxpClientConnection.readFrame_pending_body (c := c) hheader hlt hend] at heq
        cases heq
    | some e =>
        rw [BxpClientConnection.readFrame_cut_body (c := c) hheader hlt hend] at heq
        simp [frameOutcome] at heq
  · rw [BxpClientConnection.readFrame_whole (c := c) hheader hge] at heq
    simp [frameOutcome] at heq

/-- **The two readers agree on exactly the streams without an oversized header in front.** -/
theorem readersAgree_iff (recv : RecvStream) :
    ReadersAgree recv ↔ ¬ OversizedHeader recv.unread := by
  constructor
  · intro hagree hover
    exact not_readersAgree_of_oversized hover hagree
  · intro hsmall
    exact readersAgree_of_not_oversized hsmall

/-- Four bytes on which they do not agree: the length 1048577, and the end of the stream. -/
theorem not_readersAgree_one_too_many :
    ¬ ReadersAgree { unread := [1, 0, 16, 0], ended := some .finished } :=
  not_readersAgree_of_oversized ⟨1048577, rfl, by decide⟩

/-! ### The frames after an oversized one -/

/-- The first `n` calls of `receive_request` are in step with the frames of `bodies`: each of them
starts where a frame starts, and a request it returns is the decoding of the body of that frame. -/
def InSync (C : Capnp.Serializer) (bodies : List (List UInt8)) (n : ℕ) (c : BxpServerConnection) :
    Prop :=
  ∀ m t, m < n → (requestReader C).After m c t →
    AtBoundary bodies t.controlRecv.unread ∧
      ∀ req u, BxpServerConnection.receiveRequest C t = some (.ok req, u) →
        ∃ k body, bodies[k]? = some body ∧ t.controlRecv.unread = frames (bodies.drop k) ∧
          decodeRequest C body = .ok req

/-- A call on a control stream without any bytes leaves it so, and returns no request. -/
theorem receiveRequest_nil {C : Capnp.Serializer} {c u : BxpServerConnection}
    {r : Except BxpError BxpRequest} (hc : c.controlRecv.unread = [])
    (h : BxpServerConnection.receiveRequest C c = some (r, u)) :
    u.controlRecv.unread = [] ∧ Fails r := by
  have hheader : header c.controlRecv.unread = none := by rw [hc, header_of_lt (by simp)]
  cases hend : c.controlRecv.ended with
  | none =>
      have hpend := BxpServerConnection.readFrame_pending_header hheader hend
      rw [BxpServerConnection.receiveRequest, Async.bind_of_pending hpend] at h
      cases h
  | some e =>
      have hcut := BxpServerConnection.readFrame_cut_header hheader hend
      obtain ⟨rfl, rfl⟩ := Async.outcome_unique h (Async.bind_of_error hcut)
      exact ⟨rfl, _, rfl⟩

/-- A call in front of an oversized frame fails, and leaves the body on the stream. -/
theorem receiveRequest_oversized (C : Capnp.Serializer) {c : BxpServerConnection}
    {body rest : List UInt8} (hlt : body.length < 2 ^ 32) (hbody : maxControlMsg < body.length)
    (hc : c.controlRecv.unread = frame body ++ rest) :
    BxpServerConnection.receiveRequest C c
      = some (.error (.anyhow
          s!"Control message too large: {body.length} bytes (max {maxControlMsg})"),
          c.withUnread (body ++ rest)) := by
  have hheader : header c.controlRecv.unread = some body.length := by
    rw [hc, header_frame_append hlt]
  have hover := BxpServerConnection.readFrame_oversized hheader hbody
  rw [BxpServerConnection.receiveRequest, Async.bind_of_error hover, hc, drop_frame_append]

/-- **The position after `m` calls**, none of which met an oversized body. -/
theorem unread_after {C : Capnp.Serializer} {bodies : List (List UInt8)} {c : BxpServerConnection}
    (hc : c.controlRecv.unread = frames bodies) {m : ℕ}
    (hbodies : ∀ body ∈ bodies.take m, body.length ≤ maxControlMsg) {t : BxpServerConnection}
    (h : (requestReader C).After m c t) : t.controlRecv.unread = frames (bodies.drop m) := by
  induction m generalizing t with
  | zero =>
      rw [Reader.after_zero.1 h, hc, List.drop_zero]
  | succ m ih =>
      obtain ⟨s, r, hs, hrecv⟩ := Reader.after_succ.1 h
      have hunread := ih (fun body hb => hbodies body
        (List.take_subset_take_left bodies (Nat.le_succ m) hb)) hs
      cases hdrop : bodies.drop m with
      | nil =>
          rw [hdrop, frames_nil] at hunread
          have hdrop' : bodies.drop (m + 1) = [] := by
            rw [← List.drop_drop, hdrop, List.drop_nil]
          rw [hdrop', frames_nil]
          exact (receiveRequest_nil hunread hrecv).1
      | cons body rest =>
          rw [hdrop, frames_cons] at hunread
          have hmem : body ∈ bodies.take (m + 1) := by
            refine List.mem_of_getElem? (i := m) ?_
            rw [List.getElem?_take_of_lt (Nat.lt_succ_self m), ← List.head?_drop, hdrop,
              List.head?_cons]
          obtain ⟨u, hu, hrest, -⟩ :=
            (lawful_requestReader C).whole (hbodies body hmem) hunread
          obtain ⟨-, rfl⟩ := Async.outcome_unique hrecv hu
          rw [← List.drop_drop, hdrop, List.drop_succ_cons, List.drop_zero]
          exact hrest

/-- Before the first oversized body nothing goes wrong. -/
theorem inSync_of_le {C : Capnp.Serializer} {bodies : List (List UInt8)} {c : BxpServerConnection}
    (hlt : ∀ body ∈ bodies, body.length < 2 ^ 32) (hc : c.controlRecv.unread = frames bodies)
    {n : ℕ} (h : ∀ body ∈ bodies.take (n - 1), body.length ≤ maxControlMsg) :
    InSync C bodies n c := by
  intro m t hm ht
  have hunread := unread_after hc (fun body hb => h body
    (List.take_subset_take_left bodies (by omega) hb)) ht
  refine ⟨⟨m, hunread⟩, ?_⟩
  intro req u hrecv
  cases hdrop : bodies.drop m with
  | nil =>
      rw [hdrop, frames_nil] at hunread
      obtain ⟨-, e, he⟩ := receiveRequest_nil hunread hrecv
      cases he
  | cons body rest =>
      have hget : bodies[m]? = some body := by rw [← List.head?_drop, hdrop, List.head?_cons]
      rw [hdrop, frames_cons] at hunread
      rcases Nat.lt_or_ge maxControlMsg body.length with hbig | hle
      · have hlt' := hlt body (List.mem_of_getElem? hget)
        rw [receiveRequest_oversized C hlt' hbig hunread] at hrecv
        cases hrecv
      · obtain ⟨v, hv, -, -⟩ := (lawful_requestReader C).whole hle hunread
        obtain ⟨hdecode, -⟩ := Async.outcome_unique hrecv hv
        exact ⟨m, body, hget, by rw [hdrop, frames_cons, hunread], hdecode.symm⟩

/-- The call after the first oversized body starts inside that body. -/
theorem not_inSync_of_oversized (C : Capnp.Serializer) {pre post : List (List UInt8)}
    {body : List UInt8} {c : BxpServerConnection}
    (hpre : ∀ b ∈ pre, b.length ≤ maxControlMsg) (hlt : body.length < 2 ^ 32)
    (hbody : maxControlMsg < body.length)
    (hc : c.controlRecv.unread = frames (pre ++ body :: post)) {n : ℕ} (hn : pre.length + 1 < n) :
    ¬ InSync C (pre ++ body :: post) n c := by
  intro hsync
  rw [frames_append, frames_cons] at hc
  obtain ⟨t, htrace, hunread, -⟩ := (lawful_requestReader C).trace_frames hpre hc
  have hrecv := receiveRequest_oversized C hlt hbody hunread
  have hafter : (requestReader C).After (pre.length + 1) c (t.withUnread (body ++ frames post)) :=
    Reader.after_succ.2 ⟨t, _, ⟨_, htrace⟩, hrecv⟩
  obtain ⟨hboundary, -⟩ := hsync _ _ hn hafter
  have hne : body ≠ [] := List.ne_nil_of_length_pos (Nat.zero_lt_of_lt hbody)
  exact not_atBoundary_inside pre body post hne hboundary

/-- **The server stays in step with the frames as long as no body before the last call is
oversized, and no longer.** -/
theorem inSync_iff {C : Capnp.Serializer} {bodies : List (List UInt8)} {c : BxpServerConnection}
    (hlt : ∀ body ∈ bodies, body.length < 2 ^ 32) (hc : c.controlRecv.unread = frames bodies)
    (n : ℕ) :
    InSync C bodies n c ↔ ∀ body ∈ bodies.take (n - 1), body.length ≤ maxControlMsg := by
  refine ⟨?_, inSync_of_le hlt hc⟩
  intro hsync
  by_contra hover
  -- split the list at the first oversized body
  cases hfind : (bodies.take (n - 1)).find? (fun body => decide (maxControlMsg < body.length)) with
  | none =>
      refine hover fun body hb => ?_
      have hnot := List.find?_eq_none.1 hfind body hb
      rw [decide_eq_true_iff] at hnot
      exact Nat.le_of_not_lt hnot
  | some body =>
      obtain ⟨hbig, pre, post, hsplit, hpre⟩ := List.find?_eq_some_iff_append.1 hfind
      rw [decide_eq_true_iff] at hbig
      have hbodies : bodies = pre ++ body :: (post ++ bodies.drop (n - 1)) := by
        rw [← List.cons_append, ← List.append_assoc, ← hsplit, List.take_append_drop]
      have hlen := congrArg List.length hsplit
      rw [List.length_take, List.length_append, List.length_cons] at hlen
      have hpre' : ∀ b ∈ pre, b.length ≤ maxControlMsg := by
        intro b hb
        have hnot := hpre b hb
        rw [Bool.not_eq_true', decide_eq_false_iff_not] at hnot
        exact Nat.le_of_not_lt hnot
      have hlt' : body.length < 2 ^ 32 := hlt body (by rw [hbodies]; simp)
      rw [hbodies] at hc hsync
      exact not_inSync_of_oversized C hpre' hlt' hbig hc (by omega) hsync

/-- One oversized body, which starts with what looks like a frame. -/
def smugglingBody : List UInt8 := frame pushMessage ++ List.replicate maxControlMsg 0

/-- A server with the frame of this body on its control stream. -/
def smuggledConnection : BxpServerConnection :=
  { opened .server with
    controlRecv := { unread := frames [smugglingBody], ended := some .finished } }

theorem length_smugglingBody : smugglingBody.length = maxControlMsg + 44 := by
  rw [smugglingBody, List.length_append, length_frame, List.length_replicate, Nat.add_comm]
  rfl

/-- **A request out of the body of another**: one frame was sent; the first call fails, and the
second returns a request that the sender never framed. -/
theorem smuggled_request :
    (∃ t u, (requestReader Capnp.wire).After 1 smuggledConnection t ∧
      BxpServerConnection.receiveRequest Capnp.wire t
        = some (.ok { reqId := 7, action := .push, uri := "bxp://x" }, u)) ∧
      ¬ InSync Capnp.wire [smugglingBody] 2 smuggledConnection := by
  have hlt : smugglingBody.length < 2 ^ 32 := by
    rw [length_smugglingBody]
    decide
  have hbig : maxControlMsg < smugglingBody.length := by
    rw [length_smugglingBody]
    omega
  have hunread : smuggledConnection.controlRecv.unread = frame smugglingBody ++ [] :=
    frames_cons smugglingBody []
  have hfirst := receiveRequest_oversized Capnp.wire hlt hbig hunread
  constructor
  · -- what is left is the body, and the body starts with a frame
    have hleft : (requestReader Capnp.wire).unread
        (smuggledConnection.withUnread (smugglingBody ++ []))
          = frame pushMessage ++ List.replicate maxControlMsg 0 :=
      List.append_nil smugglingBody
    have hsmall : pushMessage.length ≤ maxControlMsg := by decide
    obtain ⟨u, hsecond, -, -⟩ := (lawful_requestReader Capnp.wire).whole hsmall hleft
    rw [decodeRequest_pushMessage] at hsecond
    exact ⟨_, u, Reader.after_succ.2 ⟨_, _, Reader.after_zero.2 rfl, hfirst⟩, hsecond⟩
  · have hnil : ∀ b ∈ ([] : List (List UInt8)), b.length ≤ maxControlMsg := by simp
    exact not_inSync_of_oversized Capnp.wire hnil hlt hbig rfl (by decide)

/-- Two small frames, on the actual encoding: three calls stay in step. -/
theorem inSync_two_frames :
    InSync Capnp.wire [pushMessage, [0]] 3
      { opened .server with
        controlRecv := { unread := frames [pushMessage, [0]], ended := some .finished } } :=
  (inSync_iff (by decide) rfl 3).2 (by decide)

end Bxp

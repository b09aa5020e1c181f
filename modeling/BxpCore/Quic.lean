/-
**The QUIC streams and the error monad the protocol code runs on.**

The code talks to QUIC through a handful of calls: `read_exact` and `write_all` on the two halves
of the control stream, `open_uni` and `accept_uni` for the data streams, and `close` on the
connection.  A receiving half is the bytes that are still to be read from it and, once the peer
has stopped, the way it stopped; a call that needs more bytes than there are waits until the
stream goes on or ends.  What has arrived can be read behind a finish and on a lost connection;
a reset discards it.  A sending half is the bytes written and not delivered yet; where the peer
gives no credit a write waits, and a stream the peer has stopped, or whose connection is lost,
takes so many bytes more and then refuses.

The functions of the crate are `async` and return a `Result`: `Bxp.Async σ α` is a computation on
the state `σ` that is still pending (`none`), or is ready with a value or an error.  An error keeps
the state, so what a failed call has consumed stays consumed.

Main definitions:

* `Bxp.RecvStream`, `Bxp.RecvStream.readExact` — a receiving half and `read_exact`;
* `Bxp.RecvStream.arrive`, `Bxp.RecvStream.stop` — what comes from the peer;
* `Bxp.SendStream`, `Bxp.SendStream.writeAll` — a sending half and `write_all`;
* `Bxp.PeerFlow` — what a peer does with what it is sent;
* `Bxp.deliver` — the network, which carries bytes from a sending half to a receiving one;
* `Bxp.BxpError` — the errors that reach the callers of the crate;
* `Bxp.Async`, `Bxp.Async.Keeps`, `Bxp.Async.DependsOn` — the monad of its functions, what one of
  them leaves alone, and what it looks at.

Main results:

* `Bxp.RecvStream.readExact_of_le`, `Bxp.RecvStream.readExact_short`,
  `Bxp.RecvStream.readExact_pending` — what `read_exact` does on enough bytes and on too few;
* `Bxp.deliver_eq_some` — delivering keeps the bytes in order and loses none.
-/

import BxpCore.CapnpStruct

set_option relaxedAutoImplicit false
set_option autoImplicit false

namespace Bxp

/-! ### Receiving -/

/-- The ways a receiving half ends: the peer finished it, reset it, or the connection is gone. -/
inductive StreamEnd
  | finished
  | reset (code : ℕ)
  | connectionLost
  deriving DecidableEq, Repr

/-- The errors of `read_exact`. -/
inductive ReadExactError
  | finishedEarly (read : ℕ)
  | reset (code : ℕ)
  | connectionLost
  deriving DecidableEq, Repr

/-- The error of a `read_exact` that met the end of the stream after `read` bytes. -/
def StreamEnd.toError (read : ℕ) : StreamEnd → ReadExactError
  | finished => .finishedEarly read
  | reset code => .reset code
  | connectionLost => .connectionLost

/-- The receiving half of a stream: the bytes still to be read, and how it ends, once it has. -/
structure RecvStream where
  unread : List UInt8
  ended : Option StreamEnd
  deriving DecidableEq, Repr

namespace RecvStream

/-- Bytes arrive, unless the stream has ended. -/
def arrive (bytes : List UInt8) (s : RecvStream) : RecvStream :=
  match s.ended with
  | none => { s with unread := s.unread ++ bytes }
  | some _ => s

/-- The bytes that can still be read: none on a stream that was reset. -/
def settle (s : RecvStream) : RecvStream :=
  match s.ended with
  | some (.reset _) => { s with unread := [] }
  | _ => s

/-- The stream ends, in the way it ends first; but a reset takes effect behind a finish too. -/
def stop (e : StreamEnd) (s : RecvStream) : RecvStream :=
  match s.ended with
  | none => settle { s with ended := some e }
  | some .finished =>
      match e with
      | .reset code => { unread := [], ended := some (.reset code) }
      | _ => s
  | some _ => s

/-- The peer has reset the stream, and what was not read by then is lost. -/
def WasReset (s : RecvStream) : Prop := ∃ code, s.ended = some (.reset code)

theorem arrive_of_open {s : RecvStream} (h : s.ended = none) (bytes : List UInt8) :
    s.arrive bytes = { s with unread := s.unread ++ bytes } := by
  rw [arrive, h]

theorem arrive_of_ended {s : RecvStream} {e : StreamEnd} (h : s.ended = some e)
    (bytes : List UInt8) : s.arrive bytes = s := by
  rw [arrive, h]

@[simp] theorem ended_arrive (bytes : List UInt8) (s : RecvStream) :
    (s.arrive bytes).ended = s.ended := by
  cases h : s.ended with
  | none => rw [arrive_of_open h, h]
  | some e => rw [arrive_of_ended h, h]

/-- **What the end of a stream does**: nothing to the bytes, or it is a reset and they are lost. -/
theorem stop_cases (e : StreamEnd) (s : RecvStream) :
    (∃ e', (s.stop e).ended = some e') ∧
      ((s.stop e).unread = s.unread ∧ (s.WasReset → (s.stop e).WasReset) ∨
        (s.stop e).unread = [] ∧ (s.stop e).WasReset) := by
  obtain ⟨unread, _ | _ | code | _⟩ := s <;> cases e <;> simp [stop, settle, WasReset]

/-- Only a reset makes a stream one that was reset. -/
theorem wasReset_of_stop {s : RecvStream} {e : StreamEnd} (he : ∀ code, e ≠ .reset code)
    (h : (s.stop e).WasReset) : s.WasReset := by
  obtain ⟨unread, _ | _ | code | _⟩ := s <;> cases e <;> simp_all [stop, settle, WasReset]

/-- `read_exact`: exactly `n` bytes, or the error of the end of the stream, where everything that
was left is consumed.  Without `n` bytes and without an end the call is pending. -/
def readExact (n : ℕ) (s : RecvStream) :
    Option (Except ReadExactError (List UInt8) × RecvStream) :=
  if n ≤ s.unread.length then
    some (.ok (s.unread.take n), { s with unread := s.unread.drop n })
  else
    s.ended.map fun e => (.error (e.toError s.unread.length), { s with unread := [] })

/-- Enough bytes: they are read and the rest stays. -/
theorem readExact_of_le {n : ℕ} {s : RecvStream} (h : n ≤ s.unread.length) :
    s.readExact n = some (.ok (s.unread.take n), { s with unread := s.unread.drop n }) := by
  rw [readExact, if_pos h]

/-- Too few bytes on a stream that has ended: an error, and nothing is left. -/
theorem readExact_short {n : ℕ} {s : RecvStream} {e : StreamEnd} (h : s.unread.length < n)
    (he : s.ended = some e) :
    s.readExact n = some (.error (e.toError s.unread.length), { s with unread := [] }) := by
  rw [readExact, if_neg (by omega), he, Option.map_some]

/-- Too few bytes on a stream that goes on: the call is pending. -/
theorem readExact_pending {n : ℕ} {s : RecvStream} (h : s.unread.length < n)
    (he : s.ended = none) : s.readExact n = none := by
  rw [readExact, if_neg (by omega), he, Option.map_none]

/-- Reading does not change how the stream ends. -/
theorem readExact_ended {n : ℕ} {s t : RecvStream} {r : Except ReadExactError (List UInt8)}
    (h : s.readExact n = some (r, t)) : t.ended = s.ended := by
  unfold readExact at h
  split at h
  · rw [Option.some.injEq, Prod.mk.injEq] at h
    rw [← h.2]
  · obtain ⟨e, -, he⟩ := Option.map_eq_some_iff.1 h
    rw [Prod.mk.injEq] at he
    rw [← he.2]

end RecvStream

/-! ### Sending -/

/-- The errors of `write_all`. -/
inductive WriteError
  | stopped (code : ℕ)
  | connectionLost
  deriving DecidableEq, Repr

/-- What becomes of the bytes written to a stream: the peer takes whatever it is given, it gives no
credit for the time being, or it takes so many bytes more, after which a write fails. -/
inductive Flow
  | takes
  | stalls
  | breaks (credit : ℕ) (e : WriteError)
  deriving DecidableEq, Repr

/-- What a peer that is there does with what it is sent: it takes it, it gives no credit for the time
being, or it takes so many bytes more and then stops the stream. -/
inductive PeerFlow
  | takes
  | stalls
  | stops (credit : ℕ) (code : ℕ)
  deriving DecidableEq, Repr

/-- What it makes of a stream. -/
def PeerFlow.toFlow : PeerFlow → Flow
  | takes => .takes
  | stalls => .stalls
  | stops credit code => .breaks credit (.stopped code)

/-- The sending half of a stream: the bytes written and not delivered yet, and what becomes of
those written next. -/
structure SendStream where
  buf : List UInt8
  flow : Flow
  deriving DecidableEq, Repr

/-- `write_all`: all the bytes are put on the stream, or as many as it takes before it fails.  On a
stream that stalls the call is pending. -/
def SendStream.writeAll (bytes : List UInt8) (s : SendStream) :
    Option (Except WriteError Unit × SendStream) :=
  match s.flow with
  | .takes => some (.ok (), { s with buf := s.buf ++ bytes })
  | .stalls => none
  | .breaks credit e =>
      if bytes.length ≤ credit then
        some (.ok (), { buf := s.buf ++ bytes, flow := .breaks (credit - bytes.length) e })
      else some (.error e, { buf := s.buf ++ bytes.take credit, flow := .breaks 0 e })

theorem SendStream.writeAll_of_takes {s : SendStream} (h : s.flow = .takes) (bytes : List UInt8) :
    s.writeAll bytes = some (.ok (), { s with buf := s.buf ++ bytes }) := by
  rw [writeAll, h]

theorem SendStream.writeAll_of_stalls {s : SendStream} (h : s.flow = .stalls) (bytes : List UInt8) :
    s.writeAll bytes = none := by
  rw [writeAll, h]

/-- Unless the stream stalls the call returns. -/
theorem SendStream.writeAll_returns {s : SendStream} (h : s.flow ≠ .stalls) (bytes : List UInt8) :
    ∃ r s', s.writeAll bytes = some (r, s') := by
  rw [writeAll]
  cases hflow : s.flow with
  | takes => exact ⟨_, _, rfl⟩
  | stalls => exact absurd hflow h
  | breaks credit e =>
      dsimp only
      split
      · exact ⟨_, _, rfl⟩
      · exact ⟨_, _, rfl⟩

/-- A stream on which a call has returned does not stall. -/
theorem SendStream.flow_of_writeAll {s s' : SendStream} {bytes : List UInt8}
    {r : Except WriteError Unit} (h : s.writeAll bytes = some (r, s')) : s'.flow ≠ .stalls := by
  unfold writeAll at h
  cases hflow : s.flow with
  | takes =>
      rw [hflow] at h
      rw [← (Prod.mk.inj (Option.some.inj h)).2]
      simp
  | stalls =>
      rw [hflow] at h
      cases h
  | breaks credit e =>
      rw [hflow] at h
      dsimp only at h
      split at h <;>
        · rw [← (Prod.mk.inj (Option.some.inj h)).2]
          simp

/-- A successful write has put all the bytes on the stream. -/
theorem SendStream.buf_of_writeAll_ok {s s' : SendStream} {bytes : List UInt8}
    (h : s.writeAll bytes = some (.ok (), s')) : s'.buf = s.buf ++ bytes := by
  unfold writeAll at h
  cases hflow : s.flow with
  | takes =>
      rw [hflow] at h
      rw [← (Prod.mk.inj (Option.some.inj h)).2]
  | stalls =>
      rw [hflow] at h
      cases h
  | breaks credit e =>
      rw [hflow] at h
      dsimp only at h
      split at h
      · rw [← (Prod.mk.inj (Option.some.inj h)).2]
      · cases (Prod.mk.inj (Option.some.inj h)).1

/-- A write that fails has put some of the bytes on the stream, and not all, and the stream takes
nothing more. -/
theorem SendStream.writeAll_eq_error {s s' : SendStream} {bytes : List UInt8} {e : WriteError}
    (h : s.writeAll bytes = some (.error e, s')) :
    ∃ credit, s.flow = .breaks credit e ∧ credit < bytes.length ∧
      s' = { buf := s.buf ++ bytes.take credit, flow := .breaks 0 e } := by
  unfold writeAll at h
  cases hflow : s.flow with
  | takes =>
      rw [hflow] at h
      cases (Prod.mk.inj (Option.some.inj h)).1
  | stalls =>
      rw [hflow] at h
      cases h
  | breaks credit e' =>
      rw [hflow] at h
      dsimp only at h
      split at h
      · cases (Prod.mk.inj (Option.some.inj h)).1
      · next hlt =>
          obtain ⟨he, rfl⟩ := Prod.mk.inj (Option.some.inj h)
          obtain rfl := Except.error.inj he
          exact ⟨credit, rfl, Nat.lt_of_not_le hlt, rfl⟩

theorem SendStream.buf_of_writeAll_error {s s' : SendStream} {bytes : List UInt8} {e : WriteError}
    (h : s.writeAll bytes = some (.error e, s')) :
    ∃ n, n < bytes.length ∧ s'.buf = s.buf ++ bytes.take n := by
  obtain ⟨credit, -, hlt, rfl⟩ := writeAll_eq_error h
  exact ⟨credit, hlt, rfl⟩

/-! ### The network -/

/-- The network takes the first `n` bytes, at least one, out of a sending half, and brings them to
the receiving half. -/
def deliver (n : ℕ) (send : SendStream) (recv : RecvStream) : Option (SendStream × RecvStream) :=
  if 0 < n ∧ n ≤ send.buf.length then
    some ({ send with buf := send.buf.drop n }, { recv with unread := recv.unread ++ send.buf.take n })
  else none

/-- Delivering moves bytes from one half to the other, and changes nothing else. -/
theorem deliver_eq_some {n : ℕ} {send send' : SendStream} {recv recv' : RecvStream}
    (h : deliver n send recv = some (send', recv')) :
    recv'.unread ++ send'.buf = recv.unread ++ send.buf ∧ send'.buf.length < send.buf.length ∧
      send'.flow = send.flow ∧ recv'.ended = recv.ended := by
  unfold deliver at h
  split at h
  · next hn =>
      rw [Option.some.injEq, Prod.mk.injEq] at h
      obtain ⟨rfl, rfl⟩ := h
      refine ⟨?_, ?_, rfl, rfl⟩
      · rw [List.append_assoc, List.take_append_drop]
      · rw [List.length_drop]
        omega
  · cases h

/-- As long as bytes are on the way some can be delivered. -/
theorem deliver_all {send : SendStream} (h : send.buf ≠ []) (recv : RecvStream) :
    ∃ p, deliver send.buf.length send recv = some p := by
  have hpos : 0 < send.buf.length := List.length_pos_iff.2 h
  exact ⟨_, if_pos ⟨hpos, Nat.le_refl _⟩⟩

/-! ### Errors -/

/-- The errors that reach the callers of the crate: those of the libraries below it, and the texts
it makes itself.  `panicked` is not a value that is returned: the call has unwound. -/
inductive BxpError
  | readExact (e : ReadExactError)
  | write (e : WriteError)
  | capnp (e : Capnp.ErrorKind)
  | utf8
  | connectionLost
  | io
  | anyhow (text : String)
  | panicked
  deriving DecidableEq, Repr

/-! ### Computations -/

/-- An `async` function that returns a `Result`: pending, or ready with a value or an error and the
state it leaves. -/
def Async (σ α : Type) : Type := σ → Option (Except BxpError α × σ)

namespace Async

variable {σ α β : Type}

/-- Awaiting `x`, and `?` on its result. -/
def bind (x : Async σ α) (f : α → Async σ β) : Async σ β := fun s =>
  match x s with
  | none => none
  | some (.ok a, t) => f a t
  | some (.error e, t) => some (.error e, t)

instance : Monad (Async σ) where
  pure a := fun s => some (.ok a, s)
  bind := bind

/-- A `Result` computed without awaiting, with `?` on it. -/
def ofExcept : Except BxpError α → Async σ α := fun r s => some (r, s)

/-- Returning an error. -/
def bail (e : BxpError) : Async σ α := fun s => some (.error e, s)

theorem pure_apply (a : α) (s : σ) : (pure a : Async σ α) s = some (.ok a, s) := rfl

@[simp] theorem ofExcept_apply (r : Except BxpError α) (s : σ) :
    (ofExcept r : Async σ α) s = some (r, s) := rfl

@[simp] theorem bail_apply (e : BxpError) (s : σ) :
    (bail e : Async σ α) s = some (.error e, s) := rfl

theorem bind_of_ok {x : Async σ α} {f : α → Async σ β} {s t : σ} {a : α}
    (h : x s = some (.ok a, t)) : (x >>= f) s = f a t := by
  show bind x f s = _
  rw [bind, h]

theorem bind_of_error {x : Async σ α} {f : α → Async σ β} {s t : σ} {e : BxpError}
    (h : x s = some (.error e, t)) : (x >>= f) s = some (.error e, t) := by
  show bind x f s = _
  rw [bind, h]

theorem bind_of_pending {x : Async σ α} {f : α → Async σ β} {s : σ} (h : x s = none) :
    (x >>= f) s = none := by
  show bind x f s = _
  rw [bind, h]

/-- A sequence that returned a value went through its first part with a value. -/
theorem bind_eq_ok {x : Async σ α} {f : α → Async σ β} {s u : σ} {b : β}
    (h : (x >>= f) s = some (.ok b, u)) :
    ∃ a t, x s = some (.ok a, t) ∧ f a t = some (.ok b, u) := by
  cases hx : x s with
  | none =>
      rw [bind_of_pending hx] at h
      cases h
  | some p =>
      obtain ⟨r, t⟩ := p
      cases r with
      | error e =>
          rw [bind_of_error hx] at h
          cases h
      | ok a =>
          rw [bind_of_ok hx] at h
          exact ⟨a, t, rfl, h⟩

/-- A computation has one outcome. -/
theorem outcome_unique {x : Async σ α} {s t u : σ} {r r' : Except BxpError α}
    (h : x s = some (r, t)) (h' : x s = some (r', u)) : r = r' ∧ t = u := by
  have heq := h.symm.trans h'
  rwa [Option.some.injEq, Prod.mk.injEq] at heq

/-! ### What a computation leaves alone -/

section Keeps

variable {β' : Type}

/-- The computation leaves the part `f` of the state as it is, whatever it returns. -/
def Keeps (f : σ → β') (x : Async σ α) : Prop := ∀ ⦃s r t⦄, x s = some (r, t) → f t = f s

variable {f : σ → β'}

/-- What leaves a part of the state alone leaves every part of that part alone. -/
theorem Keeps.comp {γ : Type} {x : Async σ α} (h : Keeps f x) (g : β' → γ) :
    Keeps (fun s => g (f s)) x := by
  intro s r t hx
  exact congrArg g (h hx)

theorem keeps_pure (a : α) : Keeps f (pure a : Async σ α) := by
  intro s r t h
  rw [pure_apply, Option.some.injEq, Prod.mk.injEq] at h
  rw [h.2]

theorem keeps_ofExcept (r : Except BxpError α) : Keeps f (ofExcept r : Async σ α) := by
  intro s r' t h
  rw [ofExcept_apply, Option.some.injEq, Prod.mk.injEq] at h
  rw [h.2]

theorem keeps_bail (e : BxpError) : Keeps f (bail e : Async σ α) := by
  intro s r t h
  rw [bail_apply, Option.some.injEq, Prod.mk.injEq] at h
  rw [h.2]

theorem Keeps.bind {x : Async σ α} {g : α → Async σ β} (hx : Keeps f x) (hg : ∀ a, Keeps f (g a)) :
    Keeps f (x >>= g) := by
  intro s r t h
  cases hxs : x s with
  | none =>
      rw [bind_of_pending hxs] at h
      cases h
  | some p =>
      obtain ⟨r', u⟩ := p
      cases r' with
      | error e =>
          rw [bind_of_error hxs, Option.some.injEq, Prod.mk.injEq] at h
          rw [← h.2]
          exact hx hxs
      | ok a =>
          rw [bind_of_ok hxs] at h
          rw [hg a h]
          exact hx hxs

end Keeps

/-! ### What a computation looks at -/

section DependsOn

variable {β' : Type}

/-- The computation looks at the part `f` of the state only: where that is the same it returns the
same, and leaves the same there. -/
def DependsOn (f : σ → β') (x : Async σ α) : Prop :=
  ∀ ⦃s t r s'⦄, f s = f t → x s = some (r, s') → ∃ t', x t = some (r, t') ∧ f s' = f t'

variable {f : σ → β'}

theorem dependsOn_ofExcept (r : Except BxpError α) : DependsOn f (ofExcept r : Async σ α) := by
  intro s t r' s' hst h
  rw [ofExcept_apply, Option.some.injEq, Prod.mk.injEq] at h
  obtain ⟨rfl, rfl⟩ := h
  exact ⟨t, rfl, hst⟩

theorem dependsOn_pure (a : α) : DependsOn f (pure a : Async σ α) := dependsOn_ofExcept (.ok a)

theorem dependsOn_bail (e : BxpError) : DependsOn f (bail e : Async σ α) :=
  dependsOn_ofExcept (.error e)

theorem DependsOn.bind {x : Async σ α} {g : α → Async σ β} (hx : DependsOn f x)
    (hg : ∀ a, DependsOn f (g a)) : DependsOn f (x >>= g) := by
  intro s t r s' hst h
  cases hxs : x s with
  | none =>
      rw [bind_of_pending hxs] at h
      cases h
  | some p =>
      obtain ⟨r', u⟩ := p
      obtain ⟨v, hxt, huv⟩ := hx hst hxs
      cases r' with
      | error e =>
          rw [bind_of_error hxs, Option.some.injEq, Prod.mk.injEq] at h
          obtain ⟨rfl, rfl⟩ := h
          exact ⟨v, bind_of_error hxt, huv⟩
      | ok a =>
          rw [bind_of_ok hxs] at h
          obtain ⟨t', ht', hst'⟩ := hg a huv h
          exact ⟨t', by rw [bind_of_ok hxt, ht'], hst'⟩

end DependsOn

end Async

end Bxp

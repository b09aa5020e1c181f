/-
**Calls over two queues.**

A client sends requests into a queue, a server answers each of them with some responses into another
queue, and the client receives from there.  Nothing is said of bytes, of streams or of handlers: this
is what a protocol of requests and responses is for, and machines that have all that refine it.

A client may send its requests as it likes.  Or it keeps *in step*: it sends a request, receives one
response, sends the next.  Then it gets through with its requests exactly when at every point the
server has answered at least as often as the client has asked; otherwise it waits for a response that
never comes.

Main definitions:

* `RemoteCall.State`, `RemoteCall.step` — the client, the server and the queues;
* `RemoteCall.State.all` — the responses received and those to come;
* `RemoteCall.outOfTurn`, `RemoteCall.lockstep` — a client that keeps in step;
* `RemoteCall.Enough` — the server answers often enough.

Main results:

* `RemoteCall.all_step` — no response is made up, lost or put out of its order;
* `RemoteCall.InStep.step` — the invariant of a client that keeps in step;
* `RemoteCall.InStep.completes_iff` — **it gets through exactly when the server answers often
  enough**.
-/

import BxpCore.Machine
import Mathlib.Algebra.Order.Ring.Nat

set_option relaxedAutoImplicit false
set_option autoImplicit false

namespace RemoteCall

open Machine

variable {α β : Type*}

/-! ### The machine -/

/-- The requests to be sent, those on the way to the server, the responses on the way to the client,
and those received. -/
structure State (α β : Type*) where
  todo : List α
  inbox : List α
  outbox : List β
  got : List β

/-- The client sends its next request, the server answers the first on the way, or the client
receives the first response on the way. -/
inductive Event
  | send
  | serve
  | receive
  deriving DecidableEq, Repr

/-- A client with its requests. -/
def start (todo : List α) : State α β where
  todo := todo
  inbox := []
  outbox := []
  got := []

/-- The machine, for a server that answers a request with `answers`. -/
def step (answers : α → List β) (s : State α β) : Event → Option (State α β)
  | .send =>
      match s.todo with
      | [] => none
      | a :: todo => some { s with todo := todo, inbox := s.inbox ++ [a] }
  | .serve =>
      match s.inbox with
      | [] => none
      | a :: inbox => some { s with inbox := inbox, outbox := s.outbox ++ answers a }
  | .receive =>
      match s.outbox with
      | [] => none
      | b :: outbox => some { s with outbox := outbox, got := s.got ++ [b] }

variable {answers : α → List β} {s t : State α β}

theorem step_send {a : α} {todo : List α} (h : s.todo = a :: todo) :
    step answers s .send = some { s with todo := todo, inbox := s.inbox ++ [a] } := by
  rw [step, h]

theorem step_serve {a : α} {inbox : List α} (h : s.inbox = a :: inbox) :
    step answers s .serve
      = some { s with inbox := inbox, outbox := s.outbox ++ answers a } := by
  rw [step, h]

theorem step_receive {b : β} {outbox : List β} (h : s.outbox = b :: outbox) :
    step answers s .receive = some { s with outbox := outbox, got := s.got ++ [b] } := by
  rw [step, h]

/-- Nothing can be sent, served or received where there is nothing. -/
theorem step_eq_none_iff {e : Event} :
    step answers s e = none ↔
      match e with
      | .send => s.todo = []
      | .serve => s.inbox = []
      | .receive => s.outbox = [] := by
  cases e with
  | send => cases h : s.todo <;> simp [step, h]
  | serve => cases h : s.inbox <;> simp [step, h]
  | receive => cases h : s.outbox <;> simp [step, h]

/-- The responses received and those to come. -/
def State.all (answers : α → List β) (s : State α β) : List β :=
  s.got ++ (s.outbox ++ (s.inbox ++ s.todo).flatMap answers)

/-- **No response is made up, lost or put out of its order.** -/
theorem all_step {e : Event} (hstep : step answers s e = some t) : t.all answers = s.all answers := by
  cases e with
  | send =>
      cases htodo : s.todo with
      | nil => simp [step, htodo] at hstep
      | cons a todo =>
          rw [step_send htodo, Option.some.injEq] at hstep
          subst hstep
          simp [State.all, htodo]
  | serve =>
      cases hinbox : s.inbox with
      | nil => simp [step, hinbox] at hstep
      | cons a inbox =>
          rw [step_serve hinbox, Option.some.injEq] at hstep
          subst hstep
          simp [State.all, hinbox]
  | receive =>
      cases houtbox : s.outbox with
      | nil => simp [step, houtbox] at hstep
      | cons b outbox =>
          rw [step_receive houtbox, Option.some.injEq] at hstep
          subst hstep
          simp [State.all, houtbox]

/-! ### In step -/

/-- A client that keeps in step with `n` requests sends when it has a response to every request sent,
and receives otherwise. -/
def outOfTurn (n : ℕ) (s : State α β) : Event → Bool
  | .send => s.got.length + s.todo.length ≠ n
  | .serve => false
  | .receive => n ≤ s.got.length + s.todo.length

/-- The machine with a client that keeps in step. -/
def lockstep (answers : α → List β) (n : ℕ) : State α β → Event → Option (State α β) :=
  avoid (outOfTurn n) (step answers)

/-- At every point the server answers at least as often as the client asks. -/
def Enough (answers : α → List β) (requests : List α) : Prop :=
  ∀ k ≤ requests.length, k ≤ ((requests.take k).flatMap answers).length

/-- A server that always answers answers often enough. -/
theorem enough_of_ne_nil {requests : List α} (h : ∀ a ∈ requests, answers a ≠ []) :
    Enough answers requests := by
  induction requests with
  | nil =>
      intro k hk
      exact Nat.le_trans hk (Nat.zero_le _)
  | cons a requests ih =>
      obtain ⟨ha, hrest⟩ := List.forall_mem_cons.1 h
      intro k hk
      cases k with
      | zero => exact Nat.zero_le _
      | succ k =>
          have hpos : 0 < (answers a).length := List.length_pos_iff.2 ha
          have hk' := ih hrest k (Nat.le_of_succ_le_succ hk)
          rw [List.take_succ_cons, List.flatMap_cons, List.length_append]
          omega

/-- The invariant of a client that keeps in step: at most one request is without a response, and
before the client sent a request it had been answered as often as it had asked. -/
structure InStep (answers : α → List β) (requests : List α) (s : State α β) : Prop where
  all : s.all answers = requests.flatMap answers
  sent : ∃ done, requests = done ++ s.todo
  turn : s.got.length + s.todo.length ≤ requests.length
  enough : ∀ k, k + s.todo.length < requests.length →
    k ≤ ((requests.take k).flatMap answers).length

namespace InStep

variable {requests : List α}

theorem start (answers : α → List β) (requests : List α) :
    InStep answers requests (start requests) where
  all := rfl
  sent := ⟨[], rfl⟩
  turn := Nat.le_of_eq (Nat.zero_add _)
  enough := by
    intro k hk
    exact absurd hk (Nat.not_lt.2 (Nat.le_add_left _ _))

/-- What has been received, what is on the way and the answers to what is on the way are the answers
to the requests sent. -/
theorem got_append (h : InStep answers requests s) {done : List α}
    (hdone : requests = done ++ s.todo) :
    s.got ++ (s.outbox ++ s.inbox.flatMap answers) = done.flatMap answers := by
  have hall := h.all
  rw [State.all, hdone, List.flatMap_append, List.flatMap_append, ← List.append_assoc,
    ← List.append_assoc] at hall
  rw [← List.append_assoc]
  exact List.append_cancel_right hall

/-- **Every step keeps the invariant.** -/
theorem step (h : InStep answers requests s) {e : Event}
    (hstep : lockstep answers requests.length s e = some t) : InStep answers requests t := by
  obtain ⟨hturn, hstep⟩ := avoid_eq_some_iff.1 hstep
  have hall : t.all answers = requests.flatMap answers := (all_step hstep).trans h.all
  cases e with
  | send =>
      cases htodo : s.todo with
      | nil => simp [RemoteCall.step, htodo] at hstep
      | cons a todo =>
          rw [step_send htodo, Option.some.injEq] at hstep
          subst hstep
          obtain ⟨done, hdone⟩ := h.sent
          have hlen : requests.length = done.length + s.todo.length := by
            rw [← List.length_append, ← hdone]
          have hgot : s.got.length + s.todo.length = requests.length := by
            simpa [outOfTurn] using hturn
          have hcount : s.todo.length = todo.length + 1 := by rw [htodo, List.length_cons]
          refine ⟨hall, ⟨done ++ [a], ?_⟩, ?_, ?_⟩
          · rw [hdone, htodo, List.append_assoc]
            rfl
          · show s.got.length + todo.length ≤ requests.length
            omega
          · intro k hk
            have hk' : k + todo.length < requests.length := hk
            rcases Nat.lt_or_ge (k + s.todo.length) requests.length with hlt | hge
            · exact h.enough k hlt
            · -- the responses received are among the answers to the requests sent
              have hkdone : k = done.length := by omega
              have hkgot : s.got.length = k := by omega
              have hprefix := congrArg List.length (h.got_append hdone)
              rw [List.length_append] at hprefix
              rw [hdone, hkdone, List.take_left]
              omega
  | serve =>
      cases hinbox : s.inbox with
      | nil => simp [RemoteCall.step, hinbox] at hstep
      | cons a inbox =>
          rw [step_serve hinbox, Option.some.injEq] at hstep
          subst hstep
          exact ⟨hall, h.sent, h.turn, h.enough⟩
  | receive =>
      cases houtbox : s.outbox with
      | nil => simp [RemoteCall.step, houtbox] at hstep
      | cons b outbox =>
          rw [step_receive houtbox, Option.some.injEq] at hstep
          subst hstep
          have hwaits : s.got.length + s.todo.length < requests.length := by
            simpa [outOfTurn] using hturn
          refine ⟨hall, h.sent, ?_, h.enough⟩
          show (s.got ++ [b]).length + s.todo.length ≤ requests.length
          rw [List.length_append, List.length_singleton]
          omega

/-- **A client that keeps in step gets through exactly when the server answers often enough.** -/
theorem completes_iff (h : InStep answers requests s)
    (hstuck : Stuck (lockstep answers requests.length) s) :
    s.todo = [] ∧ s.got.length = requests.length ↔ Enough answers requests := by
  obtain ⟨done, hdone⟩ := h.sent
  have hlen : requests.length = done.length + s.todo.length := by
    rw [← List.length_append, ← hdone]
  have hgot := congrArg List.length (h.got_append hdone)
  rw [List.length_append] at hgot
  constructor
  · rintro ⟨htodo, hcount⟩ k hk
    rw [htodo, List.length_nil] at hlen
    rcases Nat.lt_or_ge k requests.length with hlt | hge
    · refine h.enough k ?_
      rwa [htodo]
    · have hkdone : k = done.length := by omega
      rw [hdone, hkdone, List.take_left]
      omega
  · intro henough
    have hinbox : s.inbox = [] := by
      have hnone := hstuck .serve
      rw [lockstep, avoid, if_neg (by simp [outOfTurn])] at hnone
      exact step_eq_none_iff.1 hnone
    rcases Nat.lt_or_ge (s.got.length + s.todo.length) requests.length with hwaits | hall
    · -- the client waits for a response: there is none, and so there are too few
      exfalso
      have houtbox : s.outbox = [] := by
        have hnone := hstuck .receive
        rw [lockstep, avoid, if_neg (by simpa [outOfTurn] using hwaits)] at hnone
        exact step_eq_none_iff.1 hnone
      have hk := henough done.length (by omega)
      rw [houtbox, hinbox] at hgot
      rw [hdone, List.take_left, ← hgot] at hk
      simp only [List.flatMap_nil, List.append_nil, List.length_nil] at hk
      omega
    · have hturn := h.turn
      have htodo : s.todo = [] := by
        have hnone := hstuck .send
        rw [lockstep, avoid, if_neg (by simp [outOfTurn]; omega)] at hnone
        exact step_eq_none_iff.1 hnone
      refine ⟨htodo, ?_⟩
      rw [htodo, List.length_nil] at hall hturn
      omega

end InStep

end RemoteCall

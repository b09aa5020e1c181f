/-
**The order of the two planes.**

The control stream and the data streams of a connection are streams of their own, and the network may
deliver one long before the other.  But the server does one thing after the other: its loop awaits the
handler, and the handler awaits `send_data_stream`.  So a response tells the client something about
the data plane: once it belongs to a later request, the payloads of all requests before it have been
sent.  The price is that a large payload holds up the control plane of its connection.

Main definitions:

* `Bxp.FetchMoves` — the steps of a connection with both its planes;
* `Bxp.Settled` — the requests the server is done with, all streams of which have been sent.

Main results:

* `Bxp.FetchMoves.returned` — a transfer that has been sent stays so;
* `Bxp.Settled.step` — every step keeps the order;
* `Bxp.response_after_payloads` — **a response to a later request comes after the payloads** of the
  requests before it.
-/

import BxpCore.Transfer

set_option relaxedAutoImplicit false
set_option autoImplicit false

namespace Bxp

open Machine BxpConnection

variable {C : Capnp.Serializer} {router : BxpRouter}

/-! ### What a step leaves alone -/

/-- A call that has returned has returned. -/
theorem Lane.task_of_returned {source : Source} {s t : Lane} {e : Lane.Event}
    (hstep : s.step source e = some t) {r : Except BxpError Unit} (htask : s.task = .returned r) :
    t.task = .returned r := by
  cases e with
  | openUni => simp [Lane.step, htask] at hstep
  | write n => simp [Lane.step, htask, SendTask.Writes] at hstep
  | copy => simp [Lane.step, htask] at hstep
  | read => simp [Lane.step, htask] at hstep
  | finish => simp [Lane.step, htask] at hstep
  | deliver n =>
      obtain ⟨p, -, rfl⟩ := Option.map_eq_some_iff.1 hstep
      exact htask
  | deliverEnd =>
      simp only [Lane.step] at hstep
      split at hstep
      · split at hstep
        · exact Option.some.inj hstep ▸ htask
        · cases hstep
      · cases hstep
  | accept =>
      simp only [Lane.step] at hstep
      split at hstep
      · cases hstep
      · exact Option.some.inj hstep ▸ htask
      · cases hstep
  | readPreamble =>
      simp only [Lane.step] at hstep
      split at hstep
      · obtain ⟨p, -, hp⟩ := Option.map_eq_some_iff.1 hstep
        split at hp <;> exact hp ▸ htask
      · cases hstep
  | drain n =>
      simp only [Lane.step] at hstep
      split at hstep
      · split at hstep
        · exact Option.some.inj hstep ▸ htask
        · cases hstep
      · cases hstep
  | drainEnd =>
      simp only [Lane.step] at hstep
      split at hstep
      · split at hstep
        · exact Option.some.inj hstep ▸ htask
        · cases hstep
      · cases hstep

theorem Transfer.returned_step {t u : Transfer} {e : Lane.Event} (hstep : t.step e = some u)
    (h : t.returned = true) : u.returned = true := by
  obtain ⟨lane, hlane, rfl⟩ := Option.map_eq_some_iff.1 hstep
  rw [Transfer.returned] at h
  split at h
  · next r htask => rw [Transfer.returned, Lane.task_of_returned hlane htask]
  · cases h

/-- Only the task of the server opens streams, and a step of anything else leaves it where it is. -/
theorem Session.step_of_ne_serve {s t : Session} {e : Session.Event} (he : e ≠ .serve)
    (hstep : s.step C router e = some t) :
    t.outgoing = s.outgoing ∧ t.server.task = s.server.task := by
  cases e with
  | send =>
      simp only [Session.step] at hstep
      split at hstep
      · cases hstep
      · obtain ⟨p, -, rfl⟩ := Option.map_eq_some_iff.1 hstep
        exact ⟨rfl, rfl⟩
  | serve => exact absurd rfl he
  | deliverRequest n =>
      obtain ⟨p, -, rfl⟩ := Option.map_eq_some_iff.1 hstep
      exact ⟨rfl, rfl⟩
  | deliverResponse n =>
      obtain ⟨p, -, rfl⟩ := Option.map_eq_some_iff.1 hstep
      exact ⟨rfl, rfl⟩
  | receive =>
      obtain ⟨p, -, rfl⟩ := Option.map_eq_some_iff.1 hstep
      exact ⟨rfl, rfl⟩

/-- The steps of a connection with both its planes. -/
inductive FetchMoves (C : Capnp.Serializer) (router : BxpRouter) (s : Session × List Transfer) :
    Session × List Transfer → Prop
  | serves {t : Session} {new : List (UInt32 × AsyncRead)}
      (hreturned : ∀ u ∈ s.2, u.returned = true) (hstep : s.1.step C router .serve = some t)
      (hnew : new = t.outgoing.drop s.1.outgoing.length) :
      FetchMoves C router s (t, s.2 ++ new.map .opened)
  | others {e : Session.Event} {t : Session} (he : e ≠ .serve)
      (hstep : s.1.step C router e = some t) (htask : t.server.task = s.1.server.task) :
      FetchMoves C router s (t, s.2)
  | transfer {i : ℕ} {e : Lane.Event} {u u' : Transfer} (hi : s.2[i]? = some u)
      (hstep : u.step e = some u') : FetchMoves C router s (s.1, s.2.set i u')

/-- A transfer whose call has returned stays so. -/
theorem FetchMoves.returned {s t : Session × List Transfer} (hmove : FetchMoves C router s t)
    {i : ℕ} {u : Transfer} (hi : s.2[i]? = some u) (hu : u.returned = true) :
    ∃ u', t.2[i]? = some u' ∧ u'.returned = true := by
  have hlt : i < s.2.length := (List.getElem?_eq_some_iff.1 hi).1
  cases hmove with
  | serves hreturned hstep hnew => exact ⟨u, (List.getElem?_append_left hlt).trans hi, hu⟩
  | others he hstep htask => exact ⟨u, hi, hu⟩
  | @transfer j e v v' hj hstep =>
      by_cases hij : j = i
      · subst hij
        obtain rfl : v = u := Option.some.inj (hj.symm.trans hi)
        exact ⟨v', List.getElem?_set_self hlt, Transfer.returned_step hstep hu⟩
      · exact ⟨u, (List.getElem?_set_ne hij).trans hi, hu⟩

/-- Which requests are before the server: it takes the first one when it receives it, and otherwise
they stay the same. -/
theorem Session.Inv.requests_step (hrw : C.ReadAfterWrite maxControlMsg) (hwd : C.WritesData)
    {all : List BxpResponse} {s t : Session} {unserved unserved' : List BxpRequest}
    {pend pend' : List BxpResponse} (h : Session.Inv C router all s unserved pend)
    (h' : Session.Inv C router all t unserved' pend') {e : Session.Event}
    (hstep : s.step C router e = some t) :
    unserved ++ s.todo = unserved' ++ t.todo ∨
      e = .serve ∧ s.server.task = .receiving ∧
        ∃ req, unserved ++ s.todo = req :: (unserved' ++ t.todo) := by
  -- the bytes on the way determine what is unserved
  have hsame : ∀ {pend₀}, Session.Inv C router all t unserved pend₀ → unserved = unserved' :=
    fun hinv => hinv.unserved_eq.trans h'.unserved_eq.symm
  cases e with
  | send =>
      obtain ⟨req, htodo, rfl, -, -⟩ := h.unserved_send hrw h' hstep
      left
      rw [htodo, List.append_assoc]
      rfl
  | deliverRequest n =>
      obtain rfl := hsame (h.deliverRequest hstep).1
      obtain ⟨p, -, rfl⟩ := Option.map_eq_some_iff.1 hstep
      exact Or.inl rfl
  | deliverResponse n =>
      obtain rfl := hsame (h.deliverResponse hstep).1
      obtain ⟨p, -, rfl⟩ := Option.map_eq_some_iff.1 hstep
      exact Or.inl rfl
  | receive =>
      obtain ⟨pend', hinv, -⟩ := h.receive hstep
      obtain rfl := hsame hinv
      obtain ⟨p, -, rfl⟩ := Option.map_eq_some_iff.1 hstep
      exact Or.inl rfl
  | serve =>
      rcases h.task_cases with htask | ⟨prog, htask⟩
      · obtain ⟨req, c, rfl, rfl, -⟩ := h.unserved_receiving h' htask hstep
        exact Or.inr ⟨rfl, htask, req, rfl⟩
      · obtain ⟨pend', hinv, -⟩ := h.serve_handling hrw hwd htask hstep
        obtain rfl := hsame hinv
        obtain ⟨loop, -, rfl⟩ := Option.map_eq_some_iff.1 hstep
        exact Or.inl rfl

/-- The transfer in this place has been sent. -/
def SentAt (lanes : List Transfer) (i : ℕ) : Prop := ∃ u, lanes[i]? = some u ∧ u.returned = true

/-- The requests are, in order, those the server is done with, the one it is at, if any, and those
before it; and all streams of those it is done with have been sent. -/
structure Settled (C : Capnp.Serializer) (router : BxpRouter) (reqs : List BxpRequest)
    (s : Session × List Transfer) (unserved : List BxpRequest) (pend : List BxpResponse)
    (done current : List BxpRequest) : Prop where
  inv : Session.Inv C router (reqs.flatMap router.answers) s.1 unserved pend
  streams : s.1.outgoing ++ s.1.toOpen router unserved = router.outgoing reqs
  requests : reqs = done ++ (current ++ (unserved ++ s.1.todo))
  current_le : current.length ≤ 1
  lanes : s.2.length = s.1.outgoing.length
  sent : ∀ i, i < (router.outgoing done).length → SentAt s.2 i

namespace Settled

variable {reqs unserved done current : List BxpRequest} {pend : List BxpResponse}
  {s t : Session × List Transfer}

/-- The requests the server has taken, and those before it. -/
theorem taken (h : Settled C router reqs s unserved pend done current) :
    reqs = (done ++ current) ++ (unserved ++ s.1.todo) := by
  rw [List.append_assoc]
  exact h.requests

/-- **When the server takes a request** it has sent the streams of all before. -/
theorem takes (h : Settled C router reqs s unserved pend done current)
    (htask : s.1.server.task = .receiving) (hreturned : ∀ u ∈ s.2, u.returned = true) {i : ℕ}
    (hi : i < (router.outgoing (done ++ current)).length) : SentAt s.2 i := by
  have hopen : s.1.toOpen router unserved = router.outgoing (unserved ++ s.1.todo) := by
    rw [Session.toOpen, htask]
    rfl
  have hsplit : router.outgoing reqs
      = router.outgoing (done ++ current) ++ router.outgoing (unserved ++ s.1.todo) :=
    (congrArg router.outgoing h.taken).trans List.flatMap_append
  have hall : s.1.outgoing ++ router.outgoing (unserved ++ s.1.todo)
      = router.outgoing (done ++ current) ++ router.outgoing (unserved ++ s.1.todo) := by
    rw [← hsplit, ← hopen, h.streams]
  have hout := List.append_cancel_right hall
  have hlt : i < s.2.length := by rwa [h.lanes, hout]
  exact ⟨s.2[i], List.getElem?_eq_getElem hlt, hreturned _ (List.getElem_mem hlt)⟩

/-- **Every step keeps the order.** -/
theorem step (hrw : C.ReadAfterWrite maxControlMsg) (hwd : C.WritesData)
    (hsends : ∀ req, (router.handleRequest req).SendsOnly)
    (h : Settled C router reqs s unserved pend done current) (hmove : FetchMoves C router s t) :
    ∃ unserved' pend' done' current',
      Settled C router reqs t unserved' pend' done' current' := by
  have hsent : ∀ i, i < (router.outgoing done).length → SentAt t.2 i := by
    intro i hi
    obtain ⟨u, hu, hur⟩ := h.sent i hi
    exact hmove.returned hu hur
  cases hmove with
  | @serves t new hreturned hstep hnew =>
      obtain ⟨unserved', pend', opening, hinv', -, hopen, hout⟩ :=
        h.inv.opens hrw hwd hsends hstep
      have hstreams : t.outgoing ++ t.toOpen router unserved' = router.outgoing reqs := by
        rw [hout, List.append_assoc, ← hopen, h.streams]
      have hlanes : (s.2 ++ new.map Transfer.opened).length = t.outgoing.length := by
        rw [hnew, hout, List.drop_left, List.length_append, List.length_append, List.length_map,
          h.lanes]
      rcases h.inv.requests_step hrw hwd hinv' hstep with hsame | ⟨-, htask, req, htakes⟩
      · exact ⟨unserved', pend', done, current, hinv', hstreams, by rw [h.requests, hsame],
          h.current_le, hlanes, hsent⟩
      · -- the request the server was at is done: no call of its handler is still going on
        refine ⟨unserved', pend', done ++ current, [req], hinv', hstreams, ?_, Nat.le_refl 1,
          hlanes, ?_⟩
        · rw [h.requests, htakes, List.append_assoc]
          rfl
        · intro i hi
          obtain ⟨u, hu, hur⟩ := h.takes htask hreturned hi
          have hlt : i < s.2.length := (List.getElem?_eq_some_iff.1 hu).1
          exact ⟨u, (List.getElem?_append_left hlt).trans hu, hur⟩
  | @others e t he hstep htask =>
      obtain ⟨unserved', pend', opening, hinv', -, hopen, hout⟩ :=
        h.inv.opens hrw hwd hsends hstep
      have hstreams : t.outgoing ++ t.toOpen router unserved' = router.outgoing reqs := by
        rw [hout, List.append_assoc, ← hopen, h.streams]
      have hlanes : s.2.length = t.outgoing.length := by
        rw [h.lanes, (Session.step_of_ne_serve he hstep).1]
      rcases h.inv.requests_step hrw hwd hinv' hstep with hsame | ⟨hserve, -⟩
      · exact ⟨unserved', pend', done, current, hinv', hstreams, by rw [h.requests, hsame],
          h.current_le, hlanes, hsent⟩
      · exact absurd hserve he
  | transfer hi hstep =>
      exact ⟨unserved, pend, done, current, h.inv, h.streams, h.requests, h.current_le,
        List.length_set.trans h.lanes, hsent⟩

end Settled

end Bxp

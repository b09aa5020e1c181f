/-
**The whole server.**

`while let Some(connection) = server.accept().await { tokio::spawn(…) }`: the loop that accepts, and
a task for each connection it yields, all of them going on at the same time, over one router.  Here
the two halves come together, `Bxp.Listener` as the machine that starts others and `Bxp.Serving` as
what it starts.

The tasks share nothing but the router, which none of them changes.  So whatever is known of a
connection alone is known of every connection of a server: no client can disturb another by what it
sends, by closing, or by a handler that panics on it.  The one thing that clients share is the loop
that accepts, and there they can hold each other up.

Main definitions:

* `Bxp.Listener.spawns` — a step of the loop, with the tasks it starts;
* `Bxp.serverStep` — the machine of a whole server.

Main results:

* `Bxp.server_tasks` — **each task is the run of a connection alone**, on what happens to it;
* `Bxp.clients_apart` — **the clients are served apart from each other**, in the order of their
  arrival;
* `Bxp.server_memory` — **the buffers of all connections together** are no larger than the bytes
  received and one limit for each connection.
-/

import BxpCore.Allocation
import BxpCore.Listener

set_option relaxedAutoImplicit false
set_option autoImplicit false

namespace Bxp

open LengthPrefix Machine BxpConnection

variable {C : Capnp.Serializer} {router : BxpRouter}

/-! ### The machine -/

/-- A step of the loop that accepts, with the task it spawns for a connection it yields. -/
def Listener.spawns : Listener → Listener.Event → Option (Listener × List Serving) :=
  starts Listener.step Listener.yielded Serving.accepted

/-- The machine of a whole server: the loop that accepts, and the tasks it has spawned. -/
def serverStep (C : Capnp.Serializer) (router : BxpRouter) :
    Listener × List Serving → Act Listener.Event ServeLoop.Event →
      Option (Listener × List Serving) :=
  spawn Listener.spawns (Serving.step C router)

/-- What has been yielded stays yielded. -/
theorem Listener.yielded_step {s t : Listener} {e : Listener.Event} (hstep : s.step e = some t) :
    s.yielded <+: t.yielded := by
  cases e with
  | arrive outcome =>
      simp only [Listener.step] at hstep
      split at hstep
      · cases hstep
      · exact Option.some.inj hstep ▸ List.prefix_refl _
  | progress i =>
      obtain ⟨attempt, -, hstep⟩ := Option.bind_eq_some_iff.1 hstep
      obtain ⟨stage, -, rfl⟩ := Option.map_eq_some_iff.1 hstep
      exact List.prefix_refl _
  | close =>
      simp only [Listener.step] at hstep
      split at hstep
      · cases hstep
      · exact Option.some.inj hstep ▸ List.prefix_refl _
  | accept =>
      cases accepts_of_accept hstep with
      | yields => exact List.prefix_append _ _
      | _ => exact List.prefix_refl _

/-! ### Every connection by itself -/

/-- **Each task is the run of a connection alone.**  In every run of a server the loop that accepts
runs as it does without the tasks, and the task of each connection it has yielded is where the
events of *this* connection lead. -/
theorem server_tasks {C : Capnp.Serializer} {router : BxpRouter}
    {es : List (Act Listener.Event ServeLoop.Event)} {s : Listener} {tasks : List Serving}
    (hrun : run (serverStep C router) (.start, []) es = some (s, tasks)) :
    run Listener.step .start (mainActs es) = some s ∧ tasks.length = s.yielded.length ∧
      ∀ i t, tasks[i]? = some t → ∃ c, s.yielded[i]? = some c ∧
        run (Serving.step C router) (.accepted c) (taskActs i es) = some t := by
  obtain ⟨started, hmain, hlen, htask, -⟩ := spawn_project hrun
  obtain ⟨-, hlistener, rfl⟩ := started_eq (P := fun _ => True)
    (fun s e t _ hstep => ⟨trivial, Listener.yielded_step hstep⟩) trivial rfl hmain
  refine ⟨hlistener, ?_, ?_⟩
  · rw [← hlen, List.length_map]
  · intro i t ht
    obtain ⟨t₀, ht₀, htrun⟩ := htask i t ht
    rw [List.getElem?_map] at ht₀
    obtain ⟨c, hc, rfl⟩ := Option.map_eq_some_iff.1 ht₀
    exact ⟨c, hc, htrun⟩

/-- A connection that is yielded is that of an attempt, with no buffer allocated. -/
theorem Listener.Inv.attempt_of_yielded {s : Listener} (h : s.Inv) {i : ℕ}
    {c : BxpServerConnection} (hc : s.yielded[i]? = some c) :
    ∃ attempt, s.attempts[i]? = some attempt ∧ attempt.stage = .opened ∧
      attempt.outcome.connection = some c := by
  have hget := congrArg (fun l : List (Option BxpServerConnection) => l[i]?) h.served
  simp only [List.getElem?_map, hc, Option.map_some] at hget
  obtain ⟨attempt, hattempt, hconn⟩ := Option.map_eq_some_iff.1 hget
  have hlt : i < s.yielded.length := (List.getElem?_eq_some_iff.1 hc).1
  refine ⟨attempt, ?_, h.opened attempt (List.mem_of_getElem? hattempt), hconn⟩
  rwa [List.getElem?_take_of_lt hlt] at hattempt

theorem Incoming.msgBufs_of_connection {attempt : Incoming} {c : BxpServerConnection}
    (h : attempt.connection = some c) : c.msgBufs = [] := by
  cases attempt with
  | handshakeFails => cases h
  | controlStreamFails quicConn => cases h
  | completes quicConn controlSend controlRecv => exact Option.some.inj h ▸ rfl

/-- **The clients are served apart from each other.**  The `i`-th task of a server is that of the
`i`-th client to arrive, and those before it have tasks as well.  If the handlers leave the control
stream to the loop, the requests that this task has handed to the router are the first of those in
front of the first invalid message on its *own* control stream, and all of them when it waits for
more or has left its loop, unless its own client has reset that stream: whatever the other clients
send, whatever their handlers do, and whether or not the server still accepts. -/
theorem clients_apart {C : Capnp.Serializer} {router : BxpRouter} (hrouter : router.NeverReceives)
    {es : List (Act Listener.Event ServeLoop.Event)} {s : Listener} {tasks : List Serving}
    (hrun : run (serverStep C router) (.start, []) es = some (s, tasks)) {i : ℕ} {t : Serving}
    (ht : tasks[i]? = some t) :
    ∃ attempt c, s.attempts[i]? = some attempt ∧ attempt.stage = .opened ∧
      attempt.outcome.connection = some c ∧
      run (Serving.step C router) (.accepted c) (taskActs i es) = some t ∧
      t.log.received <+: requestsIn C (c.receives (ServeLoop.netEvents (taskActs i es))) ∧
      (t.AtRest C → ¬ t.conn.controlRecv.WasReset →
        t.log.received = requestsIn C (c.receives (ServeLoop.netEvents (taskActs i es)))) := by
  obtain ⟨hlistener, -, htasks⟩ := server_tasks hrun
  obtain ⟨c, hc, htrun⟩ := htasks i t ht
  obtain ⟨attempt, hattempt, hstage, hconn⟩ :=
    (Listener.inv_of_run hlistener).attempt_of_yielded hc
  exact ⟨attempt, c, hattempt, hstage, hconn, htrun, Serving.received_prefix hrouter htrun,
    Serving.received_of_atRest hrouter htrun⟩

/-- The bytes of a request in two pieces for the first of three clients, while the second does
nothing and holds up the third. -/
def silentServer : List (Act Listener.Event ServeLoop.Event) :=
  silentRun.map .main ++ cutRun.map (.task 0)

theorem exists_silentServer :
    ∃ s tasks t, run (serverStep Capnp.wire .new) (.start, []) silentServer = some (s, tasks) ∧
      tasks[0]? = some t := by
  have h : ((run (serverStep Capnp.wire .new) (.start, []) silentServer).bind fun p =>
      p.2[0]?).isSome = true := by decide +kernel
  obtain ⟨t, ht⟩ := Option.isSome_iff_exists.1 h
  obtain ⟨⟨s, tasks⟩, hrun, ht⟩ := Option.bind_eq_some_iff.1 ht
  exact ⟨s, tasks, t, hrun, ht⟩

/-- The first client is served as if it were alone. -/
theorem clients_apart_silent :
    ∃ s tasks t, run (serverStep Capnp.wire .new) (.start, []) silentServer = some (s, tasks) ∧
      tasks[0]? = some t ∧ ∃ attempt c, s.attempts[0]? = some attempt ∧
        attempt.outcome.connection = some c ∧
        t.log.received <+: requestsIn Capnp.wire
          (c.receives (ServeLoop.netEvents (taskActs 0 silentServer))) := by
  obtain ⟨s, tasks, t, hrun, ht⟩ := exists_silentServer
  obtain ⟨attempt, c, hattempt, hstage, hconn, htrun, hreceived, -⟩ :=
    clients_apart BxpRouter.neverReceives_new hrun ht
  exact ⟨s, tasks, t, hrun, ht, attempt, c, hattempt, hconn, hreceived⟩

/-! ### The memory of all connections -/

/-- What each of two lists sums up to, when the elements of one are within a limit of those of the
other. -/
theorem sum_le_sum_add {as bs : List ℕ} {limit : ℕ} (hlen : as.length = bs.length)
    (h : ∀ (i a b : ℕ), as[i]? = some a → bs[i]? = some b → a ≤ b + limit) :
    as.sum ≤ bs.sum + as.length * limit := by
  induction as generalizing bs with
  | nil => simp
  | cons a as ih =>
      cases bs with
      | nil => cases hlen
      | cons b bs =>
          have hhead := h 0 a b rfl rfl
          have htail := ih (Nat.succ.inj hlen) fun i => h (i + 1)
          rw [List.sum_cons, List.sum_cons, List.length_cons, Nat.succ_mul]
          omega

/-- The buffers a task has allocated, that of a call that waits included. -/
def Serving.allocated (t : Serving) : ℕ :=
  t.conn.msgBufs.sum + t.conn.waitingBuf maxControlMsg

/-- The numbers of bytes that have arrived on the control streams of the connections. -/
def arrivedBytes (cs : List BxpServerConnection) (es : List (Act Listener.Event ServeLoop.Event)) :
    List ℕ :=
  cs.mapIdx fun i c => (c.receives (ServeLoop.netEvents (taskActs i es))).length

/-- **The memory of a whole server.**  Whatever all the clients send, and whatever calls the router and
its handlers make, each awaited to its end: all the message buffers of all the connections together,
those of calls that are still waiting included, are no larger than the bytes that have arrived and
`MAX_CONTROL_MSG` for each connection; and there are no more connections than attempts in front of
the first that has not opened its control stream. -/
theorem server_memory {C : Capnp.Serializer} {router : BxpRouter}
    {es : List (Act Listener.Event ServeLoop.Event)} {s : Listener} {tasks : List Serving}
    (hrun : run (serverStep C router) (.start, []) es = some (s, tasks)) :
    (tasks.map Serving.allocated).sum
        ≤ (arrivedBytes s.yielded es).sum + tasks.length * maxControlMsg ∧
      ∀ k attempt, s.attempts[k]? = some attempt → attempt.stage ≠ .opened →
        tasks.length ≤ k := by
  obtain ⟨hlistener, hlen, htasks⟩ := server_tasks hrun
  have hinv := Listener.inv_of_run hlistener
  have heach : ∀ (i a b : ℕ), (tasks.map Serving.allocated)[i]? = some a →
      (arrivedBytes s.yielded es)[i]? = some b → a ≤ b + maxControlMsg := by
    intro i a b ha hb
    rw [List.getElem?_map] at ha
    obtain ⟨t, ht, rfl⟩ := Option.map_eq_some_iff.1 ha
    obtain ⟨c, hc, htrun⟩ := htasks i t ht
    rw [arrivedBytes, List.getElem?_mapIdx, hc, Option.map_some, Option.some.injEq] at hb
    obtain ⟨attempt, -, -, hconn⟩ := hinv.attempt_of_yielded hc
    rw [← hb]
    exact (Serving.paid_of_run (Incoming.msgBufs_of_connection hconn) htrun).total
  constructor
  · have hsum := sum_le_sum_add
      (by rw [List.length_map, arrivedBytes, List.length_mapIdx, hlen]) heach
    rwa [List.length_map] at hsum
  · intro k attempt hk hstage
    rw [hlen]
    exact hinv.yielded_le_of_not_opened hk hstage

/-- The buffers of the whole server, of which one client sends something. -/
theorem server_memory_silent :
    ∃ s tasks, run (serverStep Capnp.wire .new) (.start, []) silentServer = some (s, tasks) ∧
      (tasks.map Serving.allocated).sum
        ≤ (arrivedBytes s.yielded silentServer).sum + tasks.length * maxControlMsg := by
  obtain ⟨s, tasks, t, hrun, -⟩ := exists_silentServer
  exact ⟨s, tasks, hrun, (server_memory hrun).1⟩

end Bxp

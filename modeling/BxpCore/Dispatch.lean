/-
**Dispatch: which handler a request is given to.**

A router is built by a list of registrations, `BxpRouter::new().route(…).route(…)`, and kept as a map
of maps.  What it is for is simpler than how it is kept: a request goes to the handler that was
registered last for its action and its URI.  The map of maps is a store in the sense of
`BxpCore/KeyedStore.lean`, with the pair of action and URI for its key, and what is found in a store
is what was inserted last.

Which handlers are called, how often and with what, cannot be seen once a handler has been applied
to its request.  So `handle_request` is written out here a second time, as a program in which a call
of a handler is a node; putting the handlers in the place of their calls gives
`Bxp.BxpRouter.handleRequest` back.

Main definitions:

* `Bxp.Registration`, `Bxp.BxpRouter.ofRegistrations` — calls of `route`, and the router they make;
* `Bxp.RouterProg`, `Bxp.BxpRouter.handleRequestCalls` — `handle_request` with its calls;
* `Bxp.DispatchesLast` — what is expected of a router made by some registrations.

Main results:

* `Bxp.BxpRouter.lookup_ofRegistrations` — the map of maps refines the flat map in which the last
  registration counts;
* `Bxp.RouterProg.inline_handleRequestCalls` — the two forms of `handle_request` agree;
* `Bxp.dispatchesLast_ofRegistrations` — **a request is given to the handler registered last for
  it**, once and unchanged, and without one the answer is that nothing was found.
-/

import BxpCore.Framing
import BxpCore.Router

set_option relaxedAutoImplicit false
set_option autoImplicit false

namespace Bxp

open LengthPrefix KeyedStore

/-! ### Registrations -/

/-- One call of `route`. -/
structure Registration where
  action : BxpAction
  uri : String
  handler : BxpHandler

namespace Registration

/-- The registration is for the action and the URI of the request. -/
def Matches (reg : Registration) (req : BxpRequest) : Prop :=
  reg.action = req.action ∧ reg.uri = req.uri

/-- The registration as an entry of a store. -/
def entry (reg : Registration) : (BxpAction × String) × BxpHandler :=
  ((reg.action, reg.uri), reg.handler)

theorem entry_fst_ne_iff {reg : Registration} {req : BxpRequest} :
    reg.entry.1 ≠ (req.action, req.uri) ↔ ¬ reg.Matches req := by
  rw [Matches, entry, Ne, Prod.mk.injEq]

end Registration

namespace BxpRouter

/-- The router after some calls of `route` on a new one. -/
def ofRegistrations (regs : List Registration) : BxpRouter :=
  regs.foldl (fun router reg => router.route reg.action reg.uri reg.handler) new

/-- A router is a store of handlers, by action and URI. -/
theorem lawful_route : KeyedStore.Lawful
    (fun (router : BxpRouter) (k : BxpAction × String) => router.lookup k.1 k.2)
    (fun router k handler => router.route k.1 k.2 handler) where
  lookup_insert := by
    intro router k handler k'
    rw [lookup_route]
    exact if_congr Prod.ext_iff.symm rfl rfl

/-- **The map of maps refines the flat map** in which the last registration counts. -/
theorem lookup_ofRegistrations (regs : List Registration) (action : BxpAction) (uri : String) :
    (ofRegistrations regs).lookup action uri
      = lastFor (action, uri) (regs.map Registration.entry) := by
  have h := lawful_route.lookup_insertAll new (regs.map Registration.entry) (action, uri)
  rw [insertAll, List.foldl_map, lookup_new, Option.or_none] at h
  exact h

/-- The handler of the last registration is found. -/
theorem lookup_of_last (pre : List Registration) {reg : Registration} {post : List Registration}
    {req : BxpRequest} (hreg : reg.Matches req) (hpost : ∀ r ∈ post, ¬ r.Matches req) :
    (ofRegistrations (pre ++ reg :: post)).lookup req.action req.uri = some reg.handler := by
  rw [lookup_ofRegistrations, lastFor_eq_some_iff]
  refine ⟨pre.map Registration.entry, post.map Registration.entry, ?_, ?_⟩
  · rw [List.map_append, List.map_cons, Registration.entry, hreg.1, hreg.2]
  · intro p hp
    obtain ⟨r, hr, rfl⟩ := List.mem_map.1 hp
    exact Registration.entry_fst_ne_iff.2 (hpost r hr)

/-- Without a registration nothing is found. -/
theorem lookup_of_unregistered {regs : List Registration} {req : BxpRequest}
    (h : ∀ reg ∈ regs, ¬ reg.Matches req) :
    (ofRegistrations regs).lookup req.action req.uri = none := by
  rw [lookup_ofRegistrations, lastFor_eq_none_iff]
  intro p hp
  obtain ⟨r, hr, rfl⟩ := List.mem_map.1 hp
  exact Registration.entry_fst_ne_iff.2 (h r hr)

/-- A registration for something else changes nothing, wherever it stands. -/
theorem lookup_of_other {reg : Registration} {req : BxpRequest} (h : ¬ reg.Matches req)
    (pre post : List Registration) :
    (ofRegistrations (pre ++ reg :: post)).lookup req.action req.uri
      = (ofRegistrations (pre ++ post)).lookup req.action req.uri := by
  rw [lookup_ofRegistrations, lookup_ofRegistrations, List.map_append, List.map_cons,
    lastFor_append_cons_of_ne (Registration.entry_fst_ne_iff.2 h), List.map_append]

end BxpRouter

/-! ### `handle_request` with its calls -/

/-- What a router does with a request: the calls it awaits, each followed by what it does with the
result, until it returns. -/
inductive RouterProg
  | done (result : Except BxpError Unit)
  | callHandler (handler : BxpHandler) (req : BxpRequest) (next : Except BxpError Unit → RouterProg)
  | sendResponse (reqId : UInt32) (status : BxpStatus) (next : Except BxpError Unit → RouterProg)

/-- A call a router makes. -/
inductive RouterCall
  | handler (handler : BxpHandler) (req : BxpRequest)
  | response (reqId : UInt32) (status : BxpStatus)

/-- What a handler does, and `next` with what it returned.  A panic unwinds through both. -/
def HandlerProg.andThen (next : Except BxpError Unit → HandlerProg) : HandlerProg → HandlerProg
  | done result => next result
  | panic => panic
  | sendResponse reqId status k => sendResponse reqId status fun r => (k r).andThen next
  | sendDataStream reqId reader k => sendDataStream reqId reader fun r => (k r).andThen next
  | receiveRequest k => receiveRequest fun r => (k r).andThen next
  | readDataStream k => readDataStream fun r => (k r).andThen next
  | waitForClose k => waitForClose fun r => (k r).andThen next

/-- Returning what the handler returned is the handler. -/
theorem HandlerProg.andThen_done (prog : HandlerProg) : prog.andThen .done = prog := by
  induction prog with
  | done result => rfl
  | panic => rfl
  | sendResponse reqId status k ih => exact congrArg _ (funext ih)
  | sendDataStream reqId reader k ih => exact congrArg _ (funext ih)
  | receiveRequest k ih => exact congrArg _ (funext ih)
  | readDataStream k ih => exact congrArg _ (funext ih)
  | waitForClose k ih => exact congrArg _ (funext ih)

namespace RouterProg

/-- `?`, and `Ok(())` behind it. -/
def question : Except BxpError Unit → RouterProg
  | .ok () => done (.ok ())
  | .error e => done (.error e)

/-- The calls a router makes when they return `results`, the last of which may not have returned. -/
def calls : RouterProg → List (Except BxpError Unit) → List RouterCall
  | done _, _ => []
  | callHandler handler req _, [] => [.handler handler req]
  | callHandler handler req next, r :: results => .handler handler req :: calls (next r) results
  | sendResponse reqId status _, [] => [.response reqId status]
  | sendResponse reqId status next, r :: results =>
      .response reqId status :: calls (next r) results

/-- The program on the connection: a handler does its own calls. -/
def inline : RouterProg → HandlerProg
  | done result => .done result
  | callHandler handler req next => (handler req).andThen fun r => inline (next r)
  | sendResponse reqId status next => .sendResponse reqId status fun r => inline (next r)

@[simp] theorem calls_question (r : Except BxpError Unit) (results : List (Except BxpError Unit)) :
    (question r).calls results = [] := by
  cases r <;> rfl

@[simp] theorem inline_question (r : Except BxpError Unit) : (question r).inline = .done r := by
  cases r <;> rfl

end RouterProg

/-- `handle_request`, with its calls. -/
def BxpRouter.handleRequestCalls (router : BxpRouter) (req : BxpRequest) : RouterProg :=
  match router.lookup req.action req.uri with
  | some handler => .callHandler handler req .question
  | none => .sendResponse req.reqId .notFound .question

/-- **The two forms of `handle_request` agree.** -/
theorem RouterProg.inline_handleRequestCalls (router : BxpRouter) (req : BxpRequest) :
    (router.handleRequestCalls req).inline = router.handleRequest req := by
  rw [BxpRouter.handleRequestCalls, BxpRouter.handleRequest]
  cases router.lookup req.action req.uri with
  | some handler => simp [inline, HandlerProg.andThen_done]
  | none => simp [inline]

theorem RouterProg.calls_handleRequestCalls (router : BxpRouter) (req : BxpRequest)
    (results : List (Except BxpError Unit)) :
    (router.handleRequestCalls req).calls results =
      match router.lookup req.action req.uri with
      | some handler => [.handler handler req]
      | none => [.response req.reqId .notFound] := by
  rw [BxpRouter.handleRequestCalls]
  cases router.lookup req.action req.uri with
  | some handler => cases results <;> simp [calls]
  | none => cases results <;> simp [calls]

/-! ### Without a handler -/

/-- On any connection the program makes one call and returns: it sends the response that nothing was
found, which is one frame when the write succeeds, and leaves the rest of the connection alone, so
that no data stream is opened.  As long as the client gives no credit the call waits. -/
def OnlyNotFound (C : Capnp.Serializer) (reqId : UInt32) (prog : HandlerProg) : Prop :=
  ∀ c : BxpServerConnection,
    (c.controlSend.flow = .stalls → prog.step C c = none) ∧
    (c.controlSend.flow ≠ .stalls → ∃ r c',
      prog.step C c = some (.done r, c') ∧
        c'.quicConn = c.quicConn ∧ c'.controlRecv = c.controlRecv ∧
        (r = .ok () → ∃ body, c'.controlSend.buf = c.controlSend.buf ++ frame body ∧
          decodeResponse C body = .ok { reqId := reqId, status := .notFound }) ∧
        (c.controlSend.flow = .takes → r = .ok ()))

/-- Sending the response that nothing was found, and returning. -/
theorem onlyNotFound_sendResponse {C : Capnp.Serializer} (hrw : C.ReadAfterWrite maxControlMsg)
    (hwd : C.WritesData) (reqId : UInt32) :
    OnlyNotFound C reqId (.sendResponse reqId .notFound .done) := by
  intro c
  obtain ⟨message, hmessage, -⟩ := encodeResponse_ok hwd reqId .notFound
  have hencode : (Async.ofExcept (encodeResponse C reqId .notFound) : Async BxpServerConnection _) c
      = some (.ok message, c) := by
    rw [Async.ofExcept_apply, hmessage]
  have hwrites : BxpServerConnection.sendResponse C reqId .notFound c
      = BxpConnection.writeControl (frameMessage message) c := by
    rw [BxpServerConnection.sendResponse, Async.bind_of_ok hencode]
  constructor
  · intro hstalls
    rw [HandlerProg.step, hwrites, BxpConnection.writeControl_of_stalls hstalls, Option.map_none]
  · intro hflows
    obtain ⟨r, c', hwrite⟩ := BxpConnection.writeControl_returns hflows (frameMessage message)
    have hsend := hwrites.trans hwrite
    have hkeep := BxpServerConnection.keeps_sendResponse C reqId .notFound hsend
    rw [Prod.mk.injEq] at hkeep
    refine ⟨r, c', ?_, hkeep.1, hkeep.2, ?_, ?_⟩
    · rw [HandlerProg.step, hsend, Option.map_some]
    · rintro rfl
      obtain ⟨body, hbuf, -, hdecode⟩ := BxpServerConnection.sendResponse_eq_ok hrw hwd hsend
      exact ⟨body, hbuf, hdecode⟩
    · intro hopen
      exact (Async.outcome_unique hsend
        (BxpServerConnection.sendResponse_of_open hopen hmessage)).1

/-! ### The last registration counts -/

/-- What is expected of the router made by some registrations, for one request. -/
structure DispatchesLast (C : Capnp.Serializer) (regs : List Registration) (req : BxpRequest) :
    Prop where
  /-- The handler of the last registration for the request is called, once and with the request, and
  nothing else is done. -/
  called : ∀ pre reg post, regs = pre ++ reg :: post → reg.Matches req →
    (∀ r ∈ post, ¬ r.Matches req) →
    (∀ results, ((BxpRouter.ofRegistrations regs).handleRequestCalls req).calls results
        = [.handler reg.handler req]) ∧
      (BxpRouter.ofRegistrations regs).handleRequest req = reg.handler req
  /-- Without a registration no handler is called, and one response is sent. -/
  notFound : (∀ reg ∈ regs, ¬ reg.Matches req) →
    (∀ results, ((BxpRouter.ofRegistrations regs).handleRequestCalls req).calls results
        = [.response req.reqId .notFound]) ∧
      OnlyNotFound C req.reqId ((BxpRouter.ofRegistrations regs).handleRequest req)
  /-- A registration for another action or another URI makes no difference. -/
  others : ∀ pre reg post, regs = pre ++ reg :: post → ¬ reg.Matches req →
    (BxpRouter.ofRegistrations regs).handleRequestCalls req
        = (BxpRouter.ofRegistrations (pre ++ post)).handleRequestCalls req ∧
      (BxpRouter.ofRegistrations regs).handleRequest req
        = (BxpRouter.ofRegistrations (pre ++ post)).handleRequest req

/-- **A request is given to the handler registered last for its action and its URI**, once and
unchanged; without one the answer is that nothing was found. -/
theorem dispatchesLast_ofRegistrations {C : Capnp.Serializer}
    (hrw : C.ReadAfterWrite maxControlMsg) (hwd : C.WritesData) (regs : List Registration)
    (req : BxpRequest) : DispatchesLast C regs req where
  called := by
    rintro pre reg post rfl hreg hpost
    have hlookup := BxpRouter.lookup_of_last pre hreg hpost
    constructor
    · intro results
      rw [RouterProg.calls_handleRequestCalls, hlookup]
    · rw [BxpRouter.handleRequest, hlookup]
  notFound := by
    intro hnone
    have hlookup := BxpRouter.lookup_of_unregistered hnone
    constructor
    · intro results
      rw [RouterProg.calls_handleRequestCalls, hlookup]
    · rw [BxpRouter.handleRequest, hlookup]
      exact onlyNotFound_sendResponse hrw hwd req.reqId
  others := by
    rintro pre reg post rfl hreg
    have hlookup := BxpRouter.lookup_of_other hreg pre post
    constructor
    · rw [BxpRouter.handleRequestCalls, hlookup, ← BxpRouter.handleRequestCalls]
    · rw [BxpRouter.handleRequest, hlookup, ← BxpRouter.handleRequest]

/-- A handler that replies with a status. -/
def replyWith (status : BxpStatus) : BxpHandler := fun req => .sendResponse req.reqId status .done

/-- One URI under two actions, and under one of them twice. -/
def sharedUri : List Registration :=
  [⟨.ping, "bxp://x", replyWith .success⟩, ⟨.push, "bxp://x", replyWith .unauthorized⟩,
    ⟨.ping, "bxp://x", replyWith .badRequest⟩, ⟨.fetch, "bxp://y", replyWith .success⟩]

/-- The second handler of the ping is called, on the actual encoding of the messages; the same
request for another URI finds none. -/
theorem dispatchesLast_sharedUri :
    (BxpRouter.ofRegistrations sharedUri).handleRequest ⟨1, .ping, "bxp://x"⟩
        = replyWith .badRequest ⟨1, .ping, "bxp://x"⟩ ∧
      OnlyNotFound Capnp.wire 2
        ((BxpRouter.ofRegistrations sharedUri).handleRequest ⟨2, .ping, "bxp://y"⟩) := by
  have hrw := wire_readAfterWrite_maxControlMsg
  constructor
  · refine ((dispatchesLast_ofRegistrations hrw Capnp.wire_writesData sharedUri
      ⟨1, .ping, "bxp://x"⟩).called (sharedUri.take 2) ⟨.ping, "bxp://x", replyWith .badRequest⟩
      (sharedUri.drop 3) rfl ⟨rfl, rfl⟩ ?_).2
    simp [sharedUri, Registration.Matches]
  · refine ((dispatchesLast_ofRegistrations hrw Capnp.wire_writesData sharedUri
      ⟨2, .ping, "bxp://y"⟩).notFound ?_).2
    simp [sharedUri, Registration.Matches]

end Bxp

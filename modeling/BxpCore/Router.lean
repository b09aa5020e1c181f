/-
**Handlers and the router** (`src/router.rs`).

A handler is an `async` function of a request and the connection the request came on.  What it can
do to that connection is what `BxpServerConnection` offers, so a handler is modelled by the calls it
makes, one after the other, each chosen from the results of the calls before it.  The router is the
two-level map of the source, and `handle_request` is the handler it finds there, or the answer that
nothing was found.

Main definitions:

* `Bxp.HandlerProg`, `Bxp.HandlerProg.step` — what a handler does with its connection, and its next
  call on it;
* `Bxp.HandlerProg.SendsOnly`, `Bxp.HandlerProg.responses` — the handlers that only send, and the
  responses they send;
* `Bxp.BxpRouter`, `Bxp.BxpRouter.new`, `Bxp.BxpRouter.route`, `Bxp.BxpRouter.handleRequest` — the
  functions of the source.

Main results:

* `Bxp.BxpRouter.lookup_route` — a registration is found under its own action and URI, and changes
  no other;
* `Bxp.BxpRouter.sendsOnly_handleRequest`, `Bxp.BxpRouter.responses_handleRequest` — what the answer
  to a request is, with a handler and without one.
-/

import BxpCore.KeyedStore
import BxpCore.Server

set_option relaxedAutoImplicit false
set_option autoImplicit false

namespace Bxp

/-! ### Handlers -/

/-- What a handler does with its connection: its calls, each followed by what it does with the
result, until it returns or panics.  It makes finitely many calls and awaits each to its end; beside
them it waits for nothing, and what it does next depends on their results alone. -/
inductive HandlerProg
  | done (result : Except BxpError Unit)
  | panic
  | sendResponse (reqId : UInt32) (status : BxpStatus) (next : Except BxpError Unit → HandlerProg)
  | sendDataStream (reqId : UInt32) (reader : AsyncRead)
      (next : Except BxpError Unit → HandlerProg)
  | receiveRequest (next : Except BxpError BxpRequest → HandlerProg)
  | readDataStream (next : Except BxpError (UInt32 × RecvStream) → HandlerProg)
  | waitForClose (next : Except BxpError Unit → HandlerProg)

namespace HandlerProg

/-- The next call of a handler.  It is pending as long as the call is. -/
def step (C : Capnp.Serializer) (c : BxpServerConnection) :
    HandlerProg → Option (HandlerProg × BxpServerConnection)
  | done _ => none
  | panic => none
  | sendResponse reqId status next =>
      (BxpServerConnection.sendResponse C reqId status c).map fun p => (next p.1, p.2)
  | sendDataStream reqId reader next =>
      (BxpServerConnection.sendDataStream reqId reader c).map fun p => (next p.1, p.2)
  | receiveRequest next =>
      (BxpServerConnection.receiveRequest C c).map fun p => (next p.1, p.2)
  | readDataStream next => (BxpServerConnection.readDataStream c).map fun p => (next p.1, p.2)
  | waitForClose next => (BxpServerConnection.waitForClose c).map fun p => (next p.1, p.2)

/-- A call, and what the handler does with its result. -/
theorem call_eq_some {α : Type} {x : Async BxpServerConnection α}
    {next : Except BxpError α → HandlerProg} {c c' : BxpServerConnection} {prog' : HandlerProg} :
    (x c).map (fun p => (next p.1, p.2)) = some (prog', c') ↔
      ∃ r, x c = some (r, c') ∧ next r = prog' := by
  constructor
  · intro h
    obtain ⟨p, hp, heq⟩ := Option.map_eq_some_iff.1 h
    obtain ⟨hnext, rfl⟩ := Prod.mk.inj heq
    exact ⟨p.1, hp, hnext⟩
  · rintro ⟨r, hr, rfl⟩
    rw [hr, Option.map_some]

/-- The handler acts on its connection through `send_response` and `send_data_stream` only, and
returns. -/
def SendsOnly : HandlerProg → Prop
  | done _ => True
  | sendResponse _ _ next => ∀ r, SendsOnly (next r)
  | sendDataStream _ _ next => ∀ r, SendsOnly (next r)
  | panic | receiveRequest _ | readDataStream _ | waitForClose _ => False

/-- The responses a handler sends on a connection that is up. -/
def responses : HandlerProg → List BxpResponse
  | sendResponse reqId status next => { reqId, status } :: responses (next (.ok ()))
  | sendDataStream _ reader next => responses (next reader.copyResult)
  | _ => []

end HandlerProg

/-- `BxpHandler`: what to do with a request. -/
abbrev BxpHandler := BxpRequest → HandlerProg

/-! ### The router -/

/-- `BxpRouter`: the handlers by action, and by URI. -/
structure BxpRouter where
  routes : Std.HashMap BxpAction (Std.HashMap String BxpHandler)

namespace BxpRouter

/-- `BxpRouter::new`. -/
def new : BxpRouter where
  routes := ∅

/-- `route`: a handler for an action and a URI. -/
def route (router : BxpRouter) (action : BxpAction) (uri : String) (handler : BxpHandler) :
    BxpRouter :=
  -- `entry(action).or_insert_with(HashMap::new)`
  let entry := (router.routes[action]?).getD ∅
  { routes := router.routes.insert action (entry.insert uri handler) }

/-- The handler `handle_request` looks up. -/
def lookup (router : BxpRouter) (action : BxpAction) (uri : String) : Option BxpHandler :=
  (router.routes[action]?).bind fun m => m[uri]?

/-- `handle_request`: the handler of the request, or the response that there is none. -/
def handleRequest (router : BxpRouter) (req : BxpRequest) : HandlerProg :=
  match router.lookup req.action req.uri with
  | some handler => handler req
  | none => .sendResponse req.reqId .notFound .done

@[simp] theorem lookup_new (action : BxpAction) (uri : String) : new.lookup action uri = none := by
  simp [lookup, new]

/-- **A registration is found under its own action and URI, and changes no other.** -/
theorem lookup_route (router : BxpRouter) (action action' : BxpAction) (uri uri' : String)
    (handler : BxpHandler) :
    (router.route action uri handler).lookup action' uri' =
      if action = action' ∧ uri = uri' then some handler else router.lookup action' uri' := by
  have h := KeyedStore.lawful_nested.lookup_insert router.routes (action, uri) handler
    (action', uri')
  simp only [Prod.mk.injEq] at h
  exact h

/-- What holds of a handler that is registered, and of those before, holds of all of them. -/
theorem forall_lookup_route {P : BxpHandler → Prop} {router : BxpRouter}
    (h : ∀ action uri handler, router.lookup action uri = some handler → P handler)
    (action : BxpAction) (uri : String) {handler : BxpHandler} (hhandler : P handler) :
    ∀ action' uri' handler', (router.route action uri handler).lookup action' uri' = some handler' →
      P handler' := by
  intro action' uri' handler' hlookup
  rw [lookup_route] at hlookup
  split at hlookup
  · rwa [← Option.some.inj hlookup]
  · exact h _ _ _ hlookup

/-- A router whose handlers only send makes only sending programs. -/
theorem sendsOnly_handleRequest {router : BxpRouter}
    (h : ∀ action uri handler, router.lookup action uri = some handler →
      ∀ req, (handler req).SendsOnly) (req : BxpRequest) :
    (router.handleRequest req).SendsOnly := by
  cases hlookup : router.lookup req.action req.uri with
  | none =>
      rw [handleRequest, hlookup]
      intro r
      trivial
  | some handler =>
      rw [handleRequest, hlookup]
      exact h _ _ _ hlookup req

/-- **The responses to a request** are those of its handler, and without one the response that
nothing was found. -/
theorem responses_handleRequest (router : BxpRouter) (req : BxpRequest) :
    (router.handleRequest req).responses =
      match router.lookup req.action req.uri with
      | some handler => (handler req).responses
      | none => [{ reqId := req.reqId, status := .notFound }] := by
  rw [handleRequest]
  cases router.lookup req.action req.uri with
  | none => rfl
  | some handler => rfl

end BxpRouter

end Bxp

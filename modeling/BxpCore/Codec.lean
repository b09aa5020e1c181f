/-
**The Cap'n Proto halves of the four control-plane functions.**

`send_request` and `send_response` build a message and serialise it; `receive_request` and
`receive_response` read a message out of a buffer and take its fields.  These halves do not touch
the connection, so they are functions of their own here.  Cap'n Proto itself is a parameter `C`.

Main definitions:

* `Bxp.encodeRequest`, `Bxp.decodeRequest` — requests, out of `send_request` and
  `receive_request`;
* `Bxp.encodeResponse`, `Bxp.decodeResponse` — responses, out of `send_response` and
  `receive_response`.

Main results:

* `Bxp.decodeRequest_encodeRequest`, `Bxp.decodeResponse_encodeResponse` — **the round trips**, for
  messages within the limit up to which `C` reads what it writes;
* `Bxp.encodeResponse_ok` — a response can always be encoded, and is small;
* `Bxp.decodeRequest_take`, `Bxp.decodeResponse_take` — only the bytes of the message that the
  buffer starts with are decoded.
-/

import BxpCore.Protocol

set_option relaxedAutoImplicit false
set_option autoImplicit false

namespace Bxp

open Capnp

variable (C : Serializer)

/-! ### The definitions -/

/-- The `Request` builder of `send_request`. -/
def buildRequest (reqId : UInt32) (action : BxpAction) (uri : String) : StructBuilder :=
  let request := StructBuilder.initRoot Schema.Request.structSize
  let request := Schema.Request.setRequestId request reqId
  let request := Schema.Request.setAction request action.into
  Schema.Request.setResourceUri request uri

/-- The first half of `send_request`: the message of a request.  The builder panics on a URI that
is too long for it. -/
def encodeRequest (reqId : UInt32) (action : BxpAction) (uri : String) :
    Except BxpError (List UInt8) :=
  if C.textFits uri.utf8ByteSize then
    (C.writeMessage (buildRequest reqId action uri)).mapError .capnp
  else .error .panicked

/-- `text::Reader::to_string`. -/
def textToString (text : List UInt8) : Except BxpError String :=
  match String.fromUTF8? ⟨text.toArray⟩ with
  | some s => .ok s
  | none => .error .utf8

/-- The second half of `receive_request`: the request in a message buffer. -/
def decodeRequest (msgBuf : List UInt8) : Except BxpError BxpRequest := do
  let (messageReader, _) ← (C.readMessage msgBuf).mapError .capnp
  let request ← (C.getRoot messageReader).mapError .capnp
  let reqId := Schema.Request.getRequestId request
  let capnpAction ← (Schema.Request.getAction request).mapError fun _ => .anyhow "Invalid Action"
  let action ← BxpAction.tryFrom capnpAction
  let text ← (Schema.Request.getResourceUri request).mapError .capnp
  let uri ← textToString text
  return { reqId, action, uri }

/-- The `Response` builder of `send_response`. -/
def buildResponse (reqId : UInt32) (status : BxpStatus) : StructBuilder :=
  let response := StructBuilder.initRoot Schema.Response.structSize
  let response := Schema.Response.setRequestId response reqId
  Schema.Response.setStatusCode response status.into

/-- The first half of `send_response`: the message of a response. -/
def encodeResponse (reqId : UInt32) (status : BxpStatus) : Except BxpError (List UInt8) :=
  (C.writeMessage (buildResponse reqId status)).mapError .capnp

/-- The second half of `receive_response`: the response in a message buffer. -/
def decodeResponse (msgBuf : List UInt8) : Except BxpError BxpResponse := do
  let (messageReader, _) ← (C.readMessage msgBuf).mapError .capnp
  let response ← (C.getRoot messageReader).mapError .capnp
  let capnpStatus ←
    (Schema.Response.getStatusCode response).mapError fun _ => .anyhow "Unknown Status Code"
  let reqId := Schema.Response.getRequestId response
  let status ← BxpStatus.tryFrom capnpStatus
  return { reqId, status }

variable {C}

/-! ### The fields of what is built -/

/-- The data section the two structs have in common: an identifier of four bytes and an enumerant
behind it are both read as they were set. -/
theorem getDataField_identifier_enumerant {data : List UInt8} (hdata : data.length = 8)
    (reqId : UInt32) (value : UInt16) :
    getDataField 4 0 (setDataField 2 2 value.toNat (setDataField 4 0 reqId.toNat data))
        = reqId.toNat ∧
      getDataField 2 2 (setDataField 2 2 value.toNat (setDataField 4 0 reqId.toNat data))
        = value.toNat := by
  constructor
  · rw [getDataField_setDataField_of_disjoint (Or.inl (by omega)),
      getDataField_setDataField_self (by omega) reqId.toNat_lt]
  · refine getDataField_setDataField_self ?_ value.toNat_lt
    rw [length_setDataField]
    omega

theorem data_buildRequest (reqId : UInt32) (action : BxpAction) (uri : String) :
    (buildRequest reqId action uri).data
      = setDataField 2 2 action.into.toUInt16.toNat
          (setDataField 4 0 reqId.toNat (List.replicate 8 0)) := by
  simp only [buildRequest, Schema.Request.setResourceUri, StructBuilder.setText_data]
  rfl

theorem data_buildResponse (reqId : UInt32) (status : BxpStatus) :
    (buildResponse reqId status).data
      = setDataField 2 2 status.into.toUInt16.toNat
          (setDataField 4 0 reqId.toNat (List.replicate 8 0)) := rfl

@[simp] theorem getDataField_buildRequest_requestId (reqId : UInt32) (action : BxpAction)
    (uri : String) : getDataField 4 0 (buildRequest reqId action uri).data = reqId.toNat := by
  rw [data_buildRequest]
  exact (getDataField_identifier_enumerant List.length_replicate reqId _).1

@[simp] theorem getDataField_buildRequest_action (reqId : UInt32) (action : BxpAction)
    (uri : String) :
    getDataField 2 2 (buildRequest reqId action uri).data = action.into.toUInt16.toNat := by
  rw [data_buildRequest]
  exact (getDataField_identifier_enumerant List.length_replicate reqId _).2

@[simp] theorem text_buildRequest (reqId : UInt32) (action : BxpAction) (uri : String) :
    (buildRequest reqId action uri).text = uri.toByteArray.data.toList := by
  have hpointers : (Schema.Request.setAction (Schema.Request.setRequestId
      (StructBuilder.initRoot Schema.Request.structSize) reqId) action.into).size.pointers ≠ 0 :=
    Nat.one_ne_zero
  simp only [buildRequest, Schema.Request.setResourceUri]
  rw [StructBuilder.setText_text hpointers]

@[simp] theorem getDataField_buildResponse_requestId (reqId : UInt32) (status : BxpStatus) :
    getDataField 4 0 (buildResponse reqId status).data = reqId.toNat := by
  rw [data_buildResponse]
  exact (getDataField_identifier_enumerant List.length_replicate reqId _).1

@[simp] theorem getDataField_buildResponse_status (reqId : UInt32) (status : BxpStatus) :
    getDataField 2 2 (buildResponse reqId status).data = status.into.toUInt16.toNat := by
  rw [data_buildResponse]
  exact (getDataField_identifier_enumerant List.length_replicate reqId _).2

/-! ### The round trips -/

/-- The bytes of a string are a string. -/
theorem textToString_of_string (s : String) : textToString s.toByteArray.data.toList = .ok s := by
  have hsome : String.fromUTF8? ⟨s.toByteArray.data.toList.toArray⟩ = some s := by
    simp only [String.fromUTF8?, Array.toArray_toList, Option.dite_none_right_eq_some]
    exact ⟨s.isValidUTF8, rfl⟩
  rw [textToString, hsome]

/-- `?` with a conversion of the error goes on exactly when there is none. -/
theorem mapError_eq_ok_iff {ε α : Type} {x : Except ε α} {f : ε → BxpError} {a : α} :
    x.mapError f = .ok a ↔ x = .ok a := by
  cases x with
  | ok b => rw [Except.mapError, Except.ok.injEq, Except.ok.injEq]
  | error e => simp [Except.mapError]

theorem encodeRequest_eq_ok_iff {reqId : UInt32} {action : BxpAction} {uri : String}
    {body : List UInt8} :
    encodeRequest C reqId action uri = .ok body ↔
      C.textFits uri.utf8ByteSize = true ∧
        C.writeMessage (buildRequest reqId action uri) = .ok body := by
  rw [encodeRequest]
  split
  · next hfits => rw [mapError_eq_ok_iff, and_iff_right hfits]
  · next hfits => simp [hfits]

theorem encodeResponse_eq_ok_iff {reqId : UInt32} {status : BxpStatus} {body : List UInt8} :
    encodeResponse C reqId status = .ok body ↔
      C.writeMessage (buildResponse reqId status) = .ok body := by
  rw [encodeResponse, mapError_eq_ok_iff]

/-- What `decodeRequest` makes of a struct that was found. -/
theorem decodeRequest_of_read {body rest : List UInt8} {m : C.Message} {r : StructReader}
    {action : BxpAction} {uri : String} (hread : C.readMessage body = .ok (m, rest))
    (hroot : C.getRoot m = .ok r)
    (haction : getDataField 2 2 r.data = action.into.toUInt16.toNat)
    (htext : r.text = .ok uri.toByteArray.data.toList) :
    decodeRequest C body
      = .ok { reqId := UInt32.ofNat (getDataField 4 0 r.data), action := action, uri := uri } := by
  simp only [decodeRequest, hread, hroot, Schema.Request.getAction, haction,
    Schema.Request.getResourceUri, htext, UInt16.ofNat_toNat, Schema.Action.ofUInt16_toUInt16,
    Except.mapError, bind, Except.bind, BxpAction.tryFrom_into, textToString_of_string]
  rfl

/-- What `decodeResponse` makes of a struct that was found. -/
theorem decodeResponse_of_read {body rest : List UInt8} {m : C.Message} {r : StructReader}
    {status : BxpStatus} (hread : C.readMessage body = .ok (m, rest)) (hroot : C.getRoot m = .ok r)
    (hstatus : getDataField 2 2 r.data = status.into.toUInt16.toNat) :
    decodeResponse C body
      = .ok { reqId := UInt32.ofNat (getDataField 4 0 r.data), status := status } := by
  simp only [decodeResponse, hread, hroot, Schema.Response.getStatusCode, hstatus,
    UInt16.ofNat_toNat, Schema.StatusCode.ofUInt16_toUInt16, Except.mapError, bind, Except.bind,
    BxpStatus.tryFrom_into]
  rfl

/-- **The round trip of requests.** -/
theorem decodeRequest_encodeRequest {limit : ℕ} (hrw : C.ReadAfterWrite limit) {reqId : UInt32}
    {action : BxpAction} {uri : String} {body : List UInt8}
    (h : encodeRequest C reqId action uri = .ok body) (hlen : body.length ≤ limit) :
    decodeRequest C body = .ok { reqId := reqId, action := action, uri := uri } := by
  obtain ⟨-, hwrite⟩ := encodeRequest_eq_ok_iff.1 h
  obtain ⟨m, r, hread, hroot, hdata, htext⟩ := hrw _ _ hwrite hlen
  rw [text_buildRequest] at htext
  rw [decodeRequest_of_read hread hroot (by rw [hdata, getDataField_buildRequest_action]) htext,
    hdata, getDataField_buildRequest_requestId, UInt32.ofNat_toNat]

/-- **The round trip of responses.** -/
theorem decodeResponse_encodeResponse {limit : ℕ} (hrw : C.ReadAfterWrite limit) {reqId : UInt32}
    {status : BxpStatus} {body : List UInt8} (h : encodeResponse C reqId status = .ok body)
    (hlen : body.length ≤ limit) :
    decodeResponse C body = .ok { reqId := reqId, status := status } := by
  obtain ⟨m, r, hread, hroot, hdata, -⟩ := hrw _ _ (encodeResponse_eq_ok_iff.1 h) hlen
  rw [decodeResponse_of_read hread hroot (by rw [hdata, getDataField_buildResponse_status]),
    hdata, getDataField_buildResponse_requestId, UInt32.ofNat_toNat]

/-- **A response can always be encoded**, in 24 bytes. -/
theorem encodeResponse_ok (hwd : C.WritesData) (reqId : UInt32) (status : BxpStatus) :
    ∃ body, encodeResponse C reqId status = .ok body ∧ body.length = 24 := by
  obtain ⟨body, hwrite, hlen⟩ := hwd (buildResponse reqId status) rfl (show 1 < 2 ^ 10 by omega)
  exact ⟨body, encodeResponse_eq_ok_iff.2 hwrite, hlen⟩

/-! ### What follows the message in the buffer -/

/-- **Only the message the buffer starts with is decoded**: a buffer that decodes declares a size
within its length, and decodes like its first bytes of that number. -/
theorem decodeRequest_take (hrd : C.ReadsDeclared) {body : List UInt8} {req : BxpRequest}
    (h : decodeRequest C body = .ok req) :
    ∃ n, declaredSize body = some n ∧ n ≤ body.length ∧
      decodeRequest C (body.take n) = .ok req := by
  cases hread : C.readMessage body with
  | error e => simp [decodeRequest, hread, Except.mapError, bind, Except.bind] at h
  | ok p =>
      obtain ⟨n, hn, hle, -, htake⟩ := hrd body p.1 p.2 hread
      refine ⟨n, hn, hle, ?_⟩
      rw [← h]
      simp only [decodeRequest, hread, htake, Except.mapError, bind, Except.bind]

/-- **Only the message the buffer starts with is decoded**, for responses. -/
theorem decodeResponse_take (hrd : C.ReadsDeclared) {body : List UInt8} {resp : BxpResponse}
    (h : decodeResponse C body = .ok resp) :
    ∃ n, declaredSize body = some n ∧ n ≤ body.length ∧
      decodeResponse C (body.take n) = .ok resp := by
  cases hread : C.readMessage body with
  | error e => simp [decodeResponse, hread, Except.mapError, bind, Except.bind] at h
  | ok p =>
      obtain ⟨n, hn, hle, -, htake⟩ := hrd body p.1 p.2 hread
      refine ⟨n, hn, hle, ?_⟩
      rw [← h]
      simp only [decodeResponse, hread, htake, Except.mapError, bind, Except.bind]

end Bxp

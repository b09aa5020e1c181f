/-
**The protocol types, and their Cap'n Proto schema.**

A request is an identifier chosen by the client, an action and a URI; a response echoes the
identifier with a status.  On the wire the two are Cap'n Proto structs, described by
`schema/bxp.capnp`: the identifier is the first four bytes of the data section, the action or the
status the sixteen bits behind it, and the URI the text of the first pointer.  The accessors of the
generated code are written out here from the schema, the conversions between the two families of
enumerations as `src/protocol.rs` has them.

Main definitions:

* `Bxp.BxpAction`, `Bxp.BxpStatus`, `Bxp.BxpRequest`, `Bxp.BxpResponse` — the types of the crate;
* `Bxp.Schema.Action`, `Bxp.Schema.StatusCode` — the enumerations of the schema;
* `Bxp.Schema.Request.set…`, `Bxp.Schema.Request.get…` and the same for responses — the generated
  accessors.

Main results:

* `Bxp.BxpAction.tryFrom_into`, `Bxp.BxpStatus.tryFrom_into` — the conversions are inverse;
* `Bxp.Schema.Action.ofUInt16_eq_ok_iff`, `Bxp.Schema.StatusCode.ofUInt16_eq_ok_iff` — exactly the
  numbers of the enumerants are in the schema.
-/

import BxpCore.Quic

set_option relaxedAutoImplicit false
set_option autoImplicit false

namespace Bxp

/-! ### The types of the crate -/

/-- What a request asks for. -/
inductive BxpAction
  | fetch
  | push
  | ping
  deriving DecidableEq, Repr, Hashable

/-- The outcome a response reports. -/
inductive BxpStatus
  | success
  | badRequest
  | unauthorized
  | notFound
  | internalError
  deriving DecidableEq, Repr

/-- A request. -/
structure BxpRequest where
  reqId : UInt32
  action : BxpAction
  uri : String
  deriving DecidableEq, Repr

/-- A response. -/
structure BxpResponse where
  reqId : UInt32
  status : BxpStatus
  deriving DecidableEq, Repr

/-! ### The enumerations of the schema -/

namespace Schema

/-- `enum Action` of the schema. -/
inductive Action
  | fetch
  | push
  | ping
  deriving DecidableEq, Repr

/-- `enum StatusCode` of the schema. -/
inductive StatusCode
  | success
  | badRequest
  | unauthorized
  | notFound
  | internalError
  deriving DecidableEq, Repr

/-- A number that is no enumerant. -/
structure NotInSchema where
  value : UInt16
  deriving DecidableEq, Repr

/-- `action as u16`. -/
def Action.toUInt16 : Action → UInt16
  | fetch => 0
  | push => 1
  | ping => 2

/-- `TryFrom<u16>`. -/
def Action.ofUInt16 (value : UInt16) : Except NotInSchema Action :=
  if value = 0 then .ok fetch
  else if value = 1 then .ok push
  else if value = 2 then .ok ping
  else .error ⟨value⟩

/-- `status as u16`. -/
def StatusCode.toUInt16 : StatusCode → UInt16
  | success => 0
  | badRequest => 1
  | unauthorized => 2
  | notFound => 3
  | internalError => 4

/-- `TryFrom<u16>`. -/
def StatusCode.ofUInt16 (value : UInt16) : Except NotInSchema StatusCode :=
  if value = 0 then .ok success
  else if value = 1 then .ok badRequest
  else if value = 2 then .ok unauthorized
  else if value = 3 then .ok notFound
  else if value = 4 then .ok internalError
  else .error ⟨value⟩

@[simp] theorem Action.ofUInt16_toUInt16 (a : Action) : ofUInt16 a.toUInt16 = .ok a := by
  cases a <;> rfl

@[simp] theorem StatusCode.ofUInt16_toUInt16 (c : StatusCode) : ofUInt16 c.toUInt16 = .ok c := by
  cases c <;> rfl

/-- **Exactly the numbers of the enumerants are in the schema.** -/
theorem Action.ofUInt16_eq_ok_iff {value : UInt16} {a : Action} :
    ofUInt16 value = .ok a ↔ value = a.toUInt16 := by
  constructor
  · intro h
    unfold ofUInt16 at h
    split at h
    · cases h; assumption
    split at h
    · cases h; assumption
    split at h
    · cases h; assumption
    · cases h
  · rintro rfl
    exact ofUInt16_toUInt16 a

/-- **Exactly the numbers of the enumerants are in the schema.** -/
theorem StatusCode.ofUInt16_eq_ok_iff {value : UInt16} {c : StatusCode} :
    ofUInt16 value = .ok c ↔ value = c.toUInt16 := by
  constructor
  · intro h
    unfold ofUInt16 at h
    split at h
    · cases h; assumption
    split at h
    · cases h; assumption
    split at h
    · cases h; assumption
    split at h
    · cases h; assumption
    split at h
    · cases h; assumption
    · cases h
  · rintro rfl
    exact ofUInt16_toUInt16 c

/-! ### The structs of the schema -/

open Capnp

namespace Request

/-- `STRUCT_SIZE` of `Request`. -/
def structSize : StructSize := { data := 1, pointers := 1 }

def setRequestId (b : StructBuilder) (value : UInt32) : StructBuilder := b.setData 4 0 value.toNat

def setAction (b : StructBuilder) (value : Action) : StructBuilder :=
  b.setData 2 2 value.toUInt16.toNat

def setResourceUri (b : StructBuilder) (value : String) : StructBuilder :=
  b.setText value.toByteArray.data.toList

def getRequestId (r : StructReader) : UInt32 := UInt32.ofNat (getDataField 4 0 r.data)

def getAction (r : StructReader) : Except NotInSchema Action :=
  Action.ofUInt16 (UInt16.ofNat (getDataField 2 2 r.data))

def getResourceUri (r : StructReader) : Except ErrorKind (List UInt8) := r.text

end Request

namespace Response

/-- `STRUCT_SIZE` of `Response`. -/
def structSize : StructSize := { data := 1, pointers := 0 }

def setRequestId (b : StructBuilder) (value : UInt32) : StructBuilder := b.setData 4 0 value.toNat

def setStatusCode (b : StructBuilder) (value : StatusCode) : StructBuilder :=
  b.setData 2 2 value.toUInt16.toNat

def getRequestId (r : StructReader) : UInt32 := UInt32.ofNat (getDataField 4 0 r.data)

def getStatusCode (r : StructReader) : Except NotInSchema StatusCode :=
  StatusCode.ofUInt16 (UInt16.ofNat (getDataField 2 2 r.data))

end Response

end Schema

/-! ### The conversions -/

/-- `From<BxpAction> for bxp_capnp::Action`. -/
def BxpAction.into : BxpAction → Schema.Action
  | fetch => .fetch
  | push => .push
  | ping => .ping

/-- `TryFrom<bxp_capnp::Action> for BxpAction`. -/
def BxpAction.tryFrom : Schema.Action → Except BxpError BxpAction
  | .fetch => .ok fetch
  | .push => .ok push
  | .ping => .ok ping

/-- `From<BxpStatus> for bxp_capnp::StatusCode`. -/
def BxpStatus.into : BxpStatus → Schema.StatusCode
  | success => .success
  | badRequest => .badRequest
  | unauthorized => .unauthorized
  | notFound => .notFound
  | internalError => .internalError

/-- `TryFrom<bxp_capnp::StatusCode> for BxpStatus`. -/
def BxpStatus.tryFrom : Schema.StatusCode → Except BxpError BxpStatus
  | .success => .ok success
  | .badRequest => .ok badRequest
  | .unauthorized => .ok unauthorized
  | .notFound => .ok notFound
  | .internalError => .ok internalError

@[simp] theorem BxpAction.tryFrom_into (a : BxpAction) : tryFrom a.into = .ok a := by
  cases a <;> rfl

@[simp] theorem BxpStatus.tryFrom_into (s : BxpStatus) : tryFrom s.into = .ok s := by
  cases s <;> rfl

end Bxp

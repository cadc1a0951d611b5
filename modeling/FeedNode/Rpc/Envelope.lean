import FeedNode.Rpc.ErrorCode
import FeedNode.Rpc.Params
import FeedNode.Rpc.Payload

/-!
# Envelopes

A peer sends a `Request`; the node answers with a `Response` and tells of events with a `Notice`.
Each is one map: the key of the dialect comes first, and then the fields in a fixed order.
-/

namespace FeedNode.Rpc

open MessagePack

/-- The entry that names the protocol of an envelope. -/
def protocolField (d : Dialect) (v : Version) : String × Value :=
  match d with
  | .versioned => ("version", .text v.text)
  | .legacy => ("jsonrpc", .text legacyMark)

/-- A call. -/
structure Request where
  dialect : Dialect
  version : Version
  /-- The name of the method, as it was received. -/
  method : String
  id : UInt64
  params : Params

namespace Request

/-- A call in the versioned dialect. -/
def make (v : Version) (id : UInt64) (params : Params) : Request where
  dialect := .versioned
  version := v
  method := (params.method?.map Method.name).getD ""
  id := id
  params := params

/-- A call in the legacy dialect. -/
def makeLegacy (id : UInt64) (params : Params) : Request :=
  { make .v1 id params with dialect := .legacy }

/-- Stands for a call that could not be typed. -/
def untyped (d : Dialect) (v : Version) (method : String) (id : UInt64) : Request where
  dialect := d
  version := v
  method := method
  id := id
  params := .unknown

/-- The call on the wire. -/
def value (r : Request) : Value :=
  .record [protocolField r.dialect r.version, ("method", .text r.method), ("id", .unsigned r.id),
    ("params", r.params.write r.version)]

/-- The octets of a call. -/
def encode (r : Request) : Bytes :=
  r.value.pack

end Request

/-- Why a call failed, as the peer is told. -/
structure ErrorDetail where
  number : Int64
  message : String
deriving DecidableEq, Repr

/-- The detail of a code. -/
def ErrorCode.detail (c : ErrorCode) : ErrorDetail where
  number := c.number
  message := c.name

/-- What an answer says. -/
inductive Body where
  | result (payload : Payload)
  | error (detail : ErrorDetail)

/-- An answer to a call. -/
structure Response where
  dialect : Dialect
  version : Version
  id : UInt64
  body : Body

namespace Response

/-- A result that answers a request in its own dialect and version. -/
def reply (r : Request) (payload : Payload) : Response where
  dialect := r.dialect
  version := r.version
  id := r.id
  body := .result payload

/-- An error in the current version. -/
def failure (c : ErrorCode) (id : UInt64) : Response where
  dialect := .versioned
  version := .current
  id := id
  body := .error c.detail

/-- An error that answers a request in its own dialect. -/
def failureFor (r : Request) (c : ErrorCode) : Response where
  dialect := r.dialect
  version :=
    match r.dialect with
    | .versioned => .current
    | .legacy => r.version
  id := r.id
  body := .error c.detail

/-- The number of the error, if the answer is one. -/
def errorNumber? (r : Response) : Option Int64 :=
  match r.body with
  | .error detail => some detail.number
  | .result _ => none

/-- The answer is an error. -/
def isError (r : Response) : Bool :=
  r.errorNumber?.isSome

/-- The last entry of an answer. -/
def bodyField : Body → String × Value
  | .result payload => ("result", payload.value)
  | .error detail =>
    ("error", .record [("code", .int detail.number), ("message", .text detail.message)])

/-- The answer on the wire. -/
def value (r : Response) : Value :=
  .record [protocolField r.dialect r.version, ("id", .unsigned r.id), bodyField r.body]

/-- The octets of an answer. -/
def encode (r : Response) : Bytes :=
  r.value.pack

end Response

/-- News that the node sends to a peer without being asked. -/
structure Notice where
  dialect : Dialect
  version : Version
  method : String
  news : News

namespace Notice

/-- A notice in the current version. -/
def make (method : String) (news : News) : Notice where
  dialect := .versioned
  version := .current
  method := method
  news := news

/-- The notice on the wire. -/
def value (n : Notice) : Value :=
  .record [protocolField n.dialect n.version, ("method", .text n.method), ("params", n.news.value)]

/-- The octets of a notice. -/
def encode (n : Notice) : Bytes :=
  n.value.pack

end Notice

/-- A call of a method by name, without arguments. -/
def blankRequest? (method : String) (id : UInt64) : Option Request :=
  (Method.ofName? method).map fun m => .make .current id (.call m m.zeroArgs)

/-- An answer to a method by name, with nothing in it. -/
def blankResponse? (method : String) (id : UInt64) : Option Response :=
  (Method.ofName? method).map fun m =>
    { dialect := .versioned, version := .current, id, body := .result (.blank m) }

end FeedNode.Rpc

/-!
# Error codes

Every failure that a peer can see is one of eighteen codes. The number is what clients rely on; the
text of an error envelope is the name of the code.
-/

namespace FeedNode.Rpc

/-- A failure that a peer can see. -/
inductive ErrorCode where
  | unknown
  | unimplemented
  | notFound
  | invalidArgument
  | pointerReleased
  | sizeOverflow
  | system
  | wrongState
  | alreadyExists
  | database
  | outOfMemory
  | notReady
  | invalidToken
  | notAuthorized
  | unknownRequest
  | unreadableRequest
  | unwritableResponse
  | unsupportedVersion
deriving DecidableEq, Repr

namespace ErrorCode

/-- Every code, in descending order of its number. -/
def all : List ErrorCode :=
  [.unknown, .unimplemented, .notFound, .invalidArgument, .pointerReleased, .sizeOverflow, .system,
    .wrongState, .alreadyExists, .database, .outOfMemory, .notReady, .invalidToken, .notAuthorized,
    .unknownRequest, .unreadableRequest, .unwritableResponse, .unsupportedVersion]

/-- The number on the wire. -/
def number : ErrorCode → Int64
  | .unknown => -101
  | .unimplemented => -102
  | .notFound => -103
  | .invalidArgument => -104
  | .pointerReleased => -105
  | .sizeOverflow => -109
  | .system => -110
  | .wrongState => -111
  | .alreadyExists => -112
  | .database => -113
  | .outOfMemory => -114
  | .notReady => -120
  | .invalidToken => -121
  | .notAuthorized => -122
  | .unknownRequest => -150
  | .unreadableRequest => -151
  | .unwritableResponse => -152
  | .unsupportedVersion => -153

/-- The name on the wire. -/
def name : ErrorCode → String
  | .unknown => "UnknownError"
  | .unimplemented => "UnimplementedError"
  | .notFound => "NotFoundError"
  | .invalidArgument => "InvalidArgument"
  | .pointerReleased => "PointerReleasedError"
  | .sizeOverflow => "SizeOverflowError"
  | .system => "StdSystemError"
  | .wrongState => "WrongState"
  | .alreadyExists => "AlreadyExists"
  | .database => "DatabaseException"
  | .outOfMemory => "OutOfMemoryError"
  | .notReady => "DidNotReady"
  | .invalidToken => "InvalidAccessToken"
  | .notAuthorized => "NotAuthorizedError"
  | .unknownRequest => "CmdUnknownReqFailed"
  | .unreadableRequest => "CmdUnmarshalReqFailed"
  | .unwritableResponse => "CmdMarshalRespFailed"
  | .unsupportedVersion => "CmdUnsupportedVersion"

/-- The code with a number. -/
def ofNumber? (n : Int64) : Option ErrorCode :=
  all.find? fun c => c.number == n

/-- The text for a number, also for one that is no code. -/
def describe (n : Int64) : String :=
  match ofNumber? n with
  | some c => c.name
  | none => "UnknownError(" ++ toString n.toInt ++ ")"

/-- The peer has to authenticate again. -/
def isAuth : ErrorCode → Bool
  | .notReady | .invalidToken | .notAuthorized => true
  | _ => false

end ErrorCode

end FeedNode.Rpc

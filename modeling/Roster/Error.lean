/-!
# Routing errors

What can go wrong between a registry and a connection, with the text, the error code and the call
status of each cause. The code alone decides the status and whether a caller should try again.
-/

namespace Roster

/-- The coarse kinds of error, from which a caller tells whether to try again. -/
inductive ErrorCode where
  | invalidInput
  | notAllowed
  | notFound
  | temporaryUnavailable
  | internalError
  deriving DecidableEq, Repr, Inhabited

namespace ErrorCode

def all : List ErrorCode :=
  [invalidInput, notAllowed, notFound, temporaryUnavailable, internalError]

def number : ErrorCode → Nat
  | invalidInput => 1000
  | notAllowed => 2000
  | notFound => 3000
  | temporaryUnavailable => 4000
  | internalError => 5000

def name : ErrorCode → String
  | invalidInput => "INVALID_INPUT"
  | notAllowed => "NOT_ALLOWED"
  | notFound => "NOT_FOUND"
  | temporaryUnavailable => "TEMPORARY_UNAVAILABLE"
  | internalError => "INTERNAL_ERROR"

def isRetryable : ErrorCode → Bool
  | temporaryUnavailable => true
  | _ => false

end ErrorCode

/-- A cause for which a registry, a resolver, a balancer or a channel refuses. -/
inductive RoutingError where
  | noConnectionAvailable
  | ringInconsistent (address : String)
  | missingShardKey
  | catalog (reason : String)
  | parse (path reason : String)
  | io (reason : String)
  | watch (reason : String)
  | invalidTarget (reason : String)
  | unknownScheme (scheme : String)
  | unknownPolicy (policy : String)
  | sinkClosed
  | connect (address reason : String)
  | notSupported (operation : String)
  | config (reason : String)
  deriving DecidableEq, Repr, Inhabited

namespace RoutingError

def message : RoutingError → String
  | noConnectionAvailable => "no connection available"
  | ringInconsistent a => "shard ring points to unknown address `" ++ a ++ "`"
  | missingShardKey => "shard key missing from call context"
  | catalog r => "catalog query failed: " ++ r
  | parse p r => "failed to parse `" ++ p ++ "`: " ++ r
  | io r => "io error: " ++ r
  | watch r => "watch error: " ++ r
  | invalidTarget r => "invalid target: " ++ r
  | unknownScheme s => "no resolver registered for scheme `" ++ s ++ "`"
  | unknownPolicy p => "no balancer registered under policy `" ++ p ++ "`"
  | sinkClosed => "address sink closed"
  | connect a r => "failed to connect to `" ++ a ++ "`: " ++ r
  | notSupported o => "operation not supported: " ++ o
  | config r => "configuration error: " ++ r

def code : RoutingError → ErrorCode
  | noConnectionAvailable => .temporaryUnavailable
  | ringInconsistent _ => .internalError
  | missingShardKey => .invalidInput
  | catalog _ => .temporaryUnavailable
  | parse _ _ => .invalidInput
  | io _ => .internalError
  | watch _ => .internalError
  | invalidTarget _ => .invalidInput
  | unknownScheme _ => .notFound
  | unknownPolicy _ => .notFound
  | sinkClosed => .temporaryUnavailable
  | connect _ _ => .temporaryUnavailable
  | notSupported _ => .notAllowed
  | config _ => .invalidInput

end RoutingError

/-- The status with which a remote call ends when no connection was picked for it. -/
inductive CallStatus where
  | invalidArgument
  | notFound
  | unimplemented
  | internal
  | unavailable
  deriving DecidableEq, Repr, Inhabited

def CallStatus.number : CallStatus → Nat
  | invalidArgument => 3
  | notFound => 5
  | unimplemented => 12
  | internal => 13
  | unavailable => 14

def ErrorCode.status : ErrorCode → CallStatus
  | invalidInput => .invalidArgument
  | notAllowed => .unimplemented
  | notFound => .notFound
  | temporaryUnavailable => .unavailable
  | internalError => .internal

def RoutingError.status (e : RoutingError) : CallStatus :=
  e.code.status

end Roster

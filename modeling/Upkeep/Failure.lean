/-! Why a request fails. A failure has one code, whatever has been said around it,
and one text; `during` puts the name of an operation in front of the text. -/
namespace Upkeep

inductive Code where
  | cancelled
  | invalidArgument
  | deadlineExceeded
  | notFound
  | failedPrecondition
  | internal
  | unavailable
  | unauthenticated
  deriving DecidableEq

def Code.name : Code → String
  | .cancelled => "Cancelled"
  | .invalidArgument => "InvalidArgument"
  | .deadlineExceeded => "DeadlineExceeded"
  | .notFound => "NotFound"
  | .failedPrecondition => "FailedPrecondition"
  | .internal => "Internal"
  | .unavailable => "Unavailable"
  | .unauthenticated => "Unauthenticated"

/-- The number of the code among the status codes of remote calls. -/
def Code.number : Code → Nat
  | .cancelled => 1
  | .invalidArgument => 3
  | .deadlineExceeded => 4
  | .notFound => 5
  | .failedPrecondition => 9
  | .internal => 13
  | .unavailable => 14
  | .unauthenticated => 16

def Code.httpStatus : Code → Nat
  | .invalidArgument | .failedPrecondition => 400
  | .unauthenticated => 401
  | .notFound => 404
  | .cancelled => 499
  | .deadlineExceeded => 504
  | .unavailable => 503
  | .internal => 500

inductive Failure where
  | invalidArgument (message : String)
  | unauthenticated (message : String)
  | notFound (message : String)
  | failedPrecondition (message : String)
  | cancelled
  | deadlineExceeded
  | unavailable (message : String)
  | internal (message : String)
  | during (operation : String) (cause : Failure)
  deriving DecidableEq

namespace Failure

def code : Failure → Code
  | .invalidArgument _ => .invalidArgument
  | .unauthenticated _ => .unauthenticated
  | .notFound _ => .notFound
  | .failedPrecondition _ => .failedPrecondition
  | .cancelled => .cancelled
  | .deadlineExceeded => .deadlineExceeded
  | .unavailable _ => .unavailable
  | .internal _ => .internal
  | .during _ cause => cause.code

def message : Failure → String
  | .invalidArgument m | .unauthenticated m | .notFound m | .failedPrecondition m => m
  | .cancelled => "request cancelled"
  | .deadlineExceeded => "deadline exceeded"
  | .unavailable m => "service unavailable: " ++ m
  | .internal m => "internal error: " ++ m
  | .during operation cause => operation ++ ": " ++ cause.message

end Failure

/-- What an operation of the service answers. -/
abbrev Answer := Except Failure

/-- Names the operation in which a failure was seen. -/
def Answer.during {α : Type} (operation : String) : Answer α → Answer α
  | .ok a => .ok a
  | .error e => .error (.during operation e)

end Upkeep

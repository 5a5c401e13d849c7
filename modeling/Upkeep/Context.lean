import Upkeep.Failure

/-! The context of a request: for whom it is made, and when it ends. A request ends when it
is cancelled or when its deadline is reached, and being cancelled counts first. -/
namespace Upkeep

structure Context where
  tenant : Option String := none
  /-- The first millisecond at which the request is over. -/
  deadline : Option Nat := none
  deriving DecidableEq

namespace Context

def ended (ctx : Context) (cancelled : Bool) (now : Nat) : Option Failure :=
  if cancelled then some .cancelled
  else match ctx.deadline with
    | some d => if d ≤ now then some .deadlineExceeded else none
    | none => none

def check (ctx : Context) (cancelled : Bool) (now : Nat) : Answer Unit :=
  match ctx.ended cancelled now with
  | some e => .error e
  | none => .ok ()

def requireTenant (ctx : Context) : Answer String :=
  match ctx.tenant with
  | some t => .ok t
  | none => .error (.unauthenticated "Tenant ID is not present in context")

end Context

end Upkeep

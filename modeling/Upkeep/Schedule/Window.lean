import Upkeep.Failure
import Upkeep.Text.Decimal

/-! The time window of a schedule, in seconds since 1970. It covers its start and
everything up to its end; an end of zero stands for no end at all. -/
namespace Upkeep

structure Window where
  start : UInt64
  finish : UInt64
  deriving DecidableEq

namespace Window

def openEnded (w : Window) : Bool := w.finish == 0

def covers (w : Window) (epoch : UInt64) : Bool :=
  w.start ≤ epoch && (w.openEnded || epoch < w.finish)

/-- An end, where there is one, comes after the start. -/
def valid (w : Window) : Bool := w.openEnded || w.start < w.finish

def check (w : Window) : Answer Unit :=
  if w.valid then .ok ()
  else .error (.invalidArgument "The schedule end time must be greater than the start time")

def widen (start finish : UInt32) : Window := ⟨start.toUInt64, finish.toUInt64⟩

def ofWords (start finish : UInt32) : Answer Window := do
  let w := widen start finish
  w.check
  return w

/-- One bound in 32 bits, if it fits. -/
def narrow (field : String) (n : UInt64) : Answer UInt32 :=
  if n.toNat < twoTo 32 then .ok n.toUInt32
  else .error (.invalidArgument (field ++ " value " ++ Decimal.text n.toNat ++
    " out of 32-bit range: " ++ Decimal.Fault.tooLarge.message))

def toWords (w : Window) : Answer (UInt32 × UInt32) := do
  let start ← narrow "start_seconds" w.start
  let finish ← narrow "end_seconds" w.finish
  return (start, finish)

end Window

end Upkeep

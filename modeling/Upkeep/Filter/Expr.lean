import Upkeep.Failure

/-! Filter expressions and what they mean. An expression is judged against anything that
answers for its fields. An unset field differs from every value and is nothing else. -/
namespace Upkeep.Filter

inductive Value where
  | text (s : String)
  | number (n : UInt64)
  deriving DecidableEq

inductive Field where
  | unknown
  | unset
  | value (v : Value)
  deriving DecidableEq

inductive Comparison where
  | eq
  | ne
  | lt
  | le
  | gt
  | ge
  deriving DecidableEq

namespace Comparison

def symbol : Comparison → String
  | .eq => "="
  | .ne => "!="
  | .lt => "<"
  | .le => "<="
  | .gt => ">"
  | .ge => ">="

def holds : Comparison → Ordering → Bool
  | .eq, o => o == .eq
  | .ne, o => o != .eq
  | .lt, o => o == .lt
  | .le, o => o != .gt
  | .gt, o => o == .gt
  | .ge, o => o != .lt

end Comparison

inductive Expr where
  | all
  | or (left right : Expr)
  | and (left right : Expr)
  | not (inner : Expr)
  | has (path : String)
  | compare (path : String) (op : Comparison) (value : Value)
  deriving DecidableEq

/-- Texts are in the order of their code points; a text and a number are in no order. -/
def Value.order? : Value → Value → Option Ordering
  | .text a, .text b => some (if a = b then .eq else if a < b then .lt else .gt)
  | .number a, .number b => some (if a = b then .eq else if a < b then .lt else .gt)
  | _, _ => none

inductive EvalFault where
  | unknownField (path : String)
  | typeMismatch (path : String)
  deriving DecidableEq

def EvalFault.message : EvalFault → String
  | .unknownField path => "filter: unknown field " ++ path
  | .typeMismatch path => "filter: type mismatch comparing field " ++ path

def EvalFault.failure (f : EvalFault) : Failure := .invalidArgument f.message

/-- The right operand of a connective is judged only where the left one does not decide. -/
def Expr.eval (field : String → Field) : Expr → Except EvalFault Bool
  | .all => .ok true
  | .or a b => do if ← a.eval field then return true else b.eval field
  | .and a b => do if ← a.eval field then b.eval field else return false
  | .not a => do return !(← a.eval field)
  | .has path =>
    match field path with
    | .unknown => .error (.unknownField path)
    | .unset => .ok false
    | .value _ => .ok true
  | .compare path op value =>
    match field path with
    | .unknown => .error (.unknownField path)
    | .unset => .ok (op == .ne)
    | .value actual =>
      match actual.order? value with
      | some o => .ok (op.holds o)
      | none => .error (.typeMismatch path)

end Upkeep.Filter

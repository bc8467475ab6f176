import DefOut.Project.Conversion
import DefOut.Project.Expression

set_option autoImplicit false

/-!
Operators on values. Operands are first converted to the kind that the operator works on. An
operand that is not known makes the result unknown, but not null, unless what can be said of the
operand decides a comparison; only equality takes a null.
-/
namespace DefOut.Project

def UnaryOperator.operandKind : UnaryOperator → Kind
  | negate => .number
  | not => .bool

def UnaryOperator.apply (operator : UnaryOperator) (v : Value) : Except Bytes Value :=
  match operator, v with
  | _, .null _ => .error "argument must not be null"
  | negate, .number n => .ok (.number n.neg)
  | not, .bool b => .ok (.bool !b)
  | operator, _ => .ok (.presentOf operator.operandKind)

namespace BinaryOperator

def operandKind : BinaryOperator → Kind
  | or | and => .bool
  | equal | notEqual => .any
  | _ => .number

def resultKind : BinaryOperator → Kind
  | add | subtract | multiply | divide | modulo => .number
  | _ => .bool

def arithmetic (operator : BinaryOperator) (m n : Number) : Except Bytes Value :=
  let give (result : Option Number) (why : Bytes) : Except Bytes Value :=
    match result with
    | some x => .ok (.number x)
    | none => .error why
  match operator with
  | add => give (m.add n) "can't compute sum of opposing infinities"
  | subtract => give (m.sub n) "can't subtract infinity from itself"
  | multiply => give (m.mul n) "can't multiply zero by infinity"
  | divide => give (m.div n) "can't divide zero by zero or infinity by infinity"
  | modulo => give (m.mod n) "can't use modulo with zero and infinity"
  | greater => .ok (.bool (m.compare n == .gt))
  | greaterEqual => .ok (.bool (m.compare n != .lt))
  | less => .ok (.bool (m.compare n == .lt))
  | lessEqual => .ok (.bool (m.compare n != .gt))
  | _ => .ok (.presentOf .bool)

def equality (wanted : Bool) (v w : Value) : Value :=
  match v.equals w with
  | some b => .bool (b == wanted)
  | none => .presentOf .bool

def certainlyLess (v w : Value) : Bool :=
  match v.greatest?, w.least? with
  | some m, some n => m.compare n == .lt
  | _, _ => false

/-- The value of an operator on numbers or truth values that are not both known. -/
def undecided (operator : BinaryOperator) (v w : Value) : Value :=
  let decide (yes no : Bool) : Value :=
    if yes then .bool true else if no then .bool false else .presentOf .bool
  match operator with
  | greater | greaterEqual => decide (certainlyLess w v) (certainlyLess v w)
  | less | lessEqual => decide (certainlyLess v w) (certainlyLess w v)
  | operator => .presentOf operator.resultKind

def apply (operator : BinaryOperator) (v w : Value) : Except Bytes Value :=
  match operator with
  | equal => .ok (equality true v w)
  | notEqual => .ok (equality false v w)
  | operator =>
    if v.isNull || w.isNull then .error "argument must not be null"
    else
      match operator, v, w with
      | or, .bool a, .bool b => .ok (.bool (a || b))
      | and, .bool a, .bool b => .ok (.bool (a && b))
      | operator, .number m, .number n => operator.arithmetic m n
      | operator, v, w => .ok (operator.undecided v w)

end BinaryOperator
end DefOut.Project

import ArrayTyping.ArrayOp
import ArrayTyping.Conversion
import ArrayTyping.ElementFunction
import ArrayTyping.Lookup
import ArrayTyping.Ordering
import ArrayTyping.View
/-!
# Operators — signs, subscripts and calls on any values

An operator sign between values builds an application if one of them is a node and the other an operand.  A matrix
product reaches through views.  Numbers, arrays and sequences are computed on the spot, and everything else is refused.
-/
namespace ArrayTyping

namespace Build

def binary (p : Primitive) (l r : Value) : Build Value := do
  let op : Value := .callable (.primitive p)
  match l, r with
  | .view _ _, _ => if p = .matmul then View.matmul l r else throw .typeSlip
  | _, .view _ _ => if p = .matmul then View.matmul l r else throw .typeSlip
  | .node _, _ =>
    if r.isOperand && p.sign2?.isSome then return .node (← apply .builtin op [l, r]) else throw .typeSlip
  | _, .node _ =>
    if l.isOperand && p.sign2?.isSome then return .node (← apply .builtin op [l, r]) else throw .typeSlip
  | _, _ => Arithmetic.binary p l r

def unary (p : Primitive) (v : Value) : Build Value := do
  match v with
  | .node _ => return .node (← apply .builtin (.callable (.primitive p)) [v])
  | v => Arithmetic.unary p v

/-- The entry of a value under a key: an indexing of a node or view, the item of a plain container. -/
def subscript (v key : Value) : Build Value := do
  match v with
  | .node _ => return .node (← index v key)
  | .view n _ => View.index n key
  | v => Lookup.entry v key

def callPrimitive (p : Primitive) (args : List Value) : Build Value := do
  match p, args with
  | .add, [l, r] | .sub, [l, r] | .mul, [l, r] | .truediv, [l, r] | .pow, [l, r] | .matmul, [l, r]
  | .floordiv, [l, r] | .mod, [l, r] => binary p l r
  | .neg, [v] | .pos, [v] | .abs, [v] => unary p v
  | .getitem, [v, key] => subscript v key
  | .max, args => Order.extremum true args
  | .min, args => Order.extremum false args
  | .sin, args => ElementFunction.sin.call args
  | .exp, args => ElementFunction.exp.call args
  | .hypot, args => ElementFunction.hypot.call args
  | .transpose, [.scalar s _] => return .ofScalar s
  | .transpose, [v] => return .array (← ConcreteArray.transposed v)
  | _, _ => throw .typeSlip

/-- An array by index notation with the parts that are given, the others being the default ones. -/
def callArrayOp : List Value → Build Node
  | [output, body] => arrayOpNode output body (.callable (.primitive .add)) .none (.kind .plain)
  | [output, body, reduce] => arrayOpNode output body reduce .none (.kind .plain)
  | [output, body, reduce, source] => arrayOpNode output body reduce source (.kind .plain)
  | [output, body, reduce, source, container] => arrayOpNode output body reduce source container
  | _ => throw .typeSlip

def callFamily (f : Family) (args : List Value) : Build Value := do
  match f, args with
  | .scaled, [k] => return .callable (.scaled k Mark.unmarked)
  | .unhashable, [k] => return .callable (.unhashable k Mark.unmarked)
  | .elementwise, [f] => return .callable (← elementwiseOperator f)
  | .arrayOp, args => return .node (← callArrayOp args)
  | f, args => Conversion.call (← slots) f args

def call (args : List Value) : Callable → Build Value
  | .primitive p => callPrimitive p args
  | .family f => callFamily f args
  | .elementwise f _ => call args f
  | .rule r => match args with
    | op :: rest => do r.respond (← slots) op rest
    | [] => throw .typeSlip
  | .answer _ _ v => match args with
    | _ :: _ => return v
    | [] => throw .typeSlip
  | .reader _ _ r => match args with
    | op :: rest => do r.respond (← slots) op rest
    | [] => throw .typeSlip
  | _ => throw .typeSlip

end Build

end ArrayTyping

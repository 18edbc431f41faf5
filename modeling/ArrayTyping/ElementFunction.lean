import ArrayTyping.Arithmetic
/-!
# ElementFunction — sine, exponential and hypotenuse

These functions are computed in floating point: a narrow integer type is raised to the least precision that holds it,
and all else keeps its own.
-/
namespace ArrayTyping

inductive ElementFunction where
  | sin
  | exp
  | hypot
deriving DecidableEq

/-- The type in which a function on numbers of a type is computed. -/
def Numeric.floating : Numeric → Numeric
  | .bool => .float .half
  | .signed w | .unsigned w =>
    match w with
    | .one => .float .half
    | .two => .float .single
    | _ => .float .double
  | t => t

namespace ElementFunction

def arity : ElementFunction → Nat
  | .sin => 1
  | .exp => 1
  | .hypot => 2

def compute (f : ElementFunction) (t : Numeric) (xs : List Number) : Option TypedScalar :=
  match f, t, xs with
  | .sin, .float p, [.float x] => some (.ofFloat p x.sin)
  | .exp, .float p, [.float x] => some (.ofFloat p x.exp)
  | .hypot, .float p, [.float x, .float y] => some (.ofFloat p (Number.hypot x y))
  | .sin, .complex p, [.complex re im] => some (.ofParts p (re.sin * im.cosh, re.cos * im.sinh))
  | .exp, .complex p, [.complex re im] => some (.ofParts p (re.exp * im.cos, re.exp * im.sin))
  | _, _, _ => none

def onLiterals (f : ElementFunction) (args : List Value) : Except Fault Value :=
  match args.mapM Value.numericOperand? with
  | none => .error .typeSlip
  | some operands =>
    match (Dtype.ofItems (operands.map NumericOperand.item)).numeric? with
    | none => .error .typeSlip
    | some joint =>
      let t := joint.floating
      match operands.mapM (NumericOperand.inType t) with
      | .error e => .error e.toFault
      | .ok xs =>
        match f.compute t xs with
        | some s => .ok (.ofScalar s)
        | none => .error .typeSlip

def call (f : ElementFunction) (args : List Value) : Except Fault Value :=
  match f.arity, args with
  | 1, [v] => ConcreteArray.map (fun x => f.onLiterals [x]) v
  | 2, [v, w] => ConcreteArray.zip (fun x y => f.onLiterals [x, y]) v w
  | _, _ => .error .typeSlip

end ElementFunction

end ArrayTyping

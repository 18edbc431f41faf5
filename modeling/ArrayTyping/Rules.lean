import ArrayTyping.MatrixProduct
import ArrayTyping.Typing
/-!
# Rules — rank and shape of an application

A rule answers with a value, which counts as a rank or a shape only once it is checked.  Most rules read nothing but the
types and shapes of the operands; a rule may also be any callable, which is called with the operator and its operands.
-/
namespace ArrayTyping

/-- What a rule that only reads answers for an operator and its operands over the given slots. -/
abbrev RuleFn := Slots → Value → List Value → Except Fault Value

inductive Rule where
  /-- A rule that reads the slots and builds nothing. -/
  | reading (f : RuleFn)
  /-- A rule that may build on the way. -/
  | calling (f : Value → List Value → Build Value)

namespace Rule

def respond (op : Value) (args : List Value) : Rule → Build Value
  | .reading f => do f (← Build.slots) op args
  | .calling f => f op args

end Rule

def broadcastFor (op : Value) (shapes : List Shape) : Except Fault Shape :=
  match broadcast shapes with
  | .ok s => .ok s
  | .error .tooLong => .error .overflow
  | .error (.mismatch position expected got) => .error (.conflict (.broadcast op position expected got))
  | .error (.vacant _) => .error (.slip .assertion)

namespace Elementwise

/-- The largest operand rank, unknown if one of them is. -/
def rank (args : List Value) : Except Fault Rank := do
  let ranks ← args.mapM Value.rank
  return (ranks.mapM id).map (·.foldl max 0)

def shape (slots : Slots) (op : Value) (args : List Value) : Except Fault ShapeInfo := do
  let shapes ← args.mapM slots.shapeOf
  match shapes.mapM id with
  | none => return none
  | some known => return some (← broadcastFor op known)

end Elementwise

namespace MatrixProduct

def rank (op left right : Value) : Except Fault Rank := do
  match ← left.rank, ← right.rank with
  | some l, some r =>
    match productRank? l r with
    | some n => return some n
    | none => throw (.conflict (.scalarProduct op [left, right]))
  | _, _ => return none

def shape (slots : Slots) (op left right : Value) : Except Fault ShapeInfo := do
  match ← slots.shapeOf left, ← slots.shapeOf right with
  | some l, some r =>
    match l.product r with
    | .ok s => return some s
    | .error .scalarOperand => throw (.conflict (.scalarProduct op [left, right]))
    | .error (.contraction d expected got) => throw (.conflict (.contraction left right d expected got))
    | .error (.stacks .tooLong) => throw .overflow
    | .error (.stacks (.mismatch position expected got)) => throw (.conflict (.broadcast op position expected got))
    | .error (.stacks (.vacant _)) => throw (.slip .assertion)
  | _, _ => return none

end MatrixProduct

namespace Transposition

def rank (operand : Value) : Except Fault Rank := operand.rank

def shape (slots : Slots) (operand : Value) : Except Fault ShapeInfo := do
  return (← slots.shapeOf operand).map Shape.transpose

end Transposition

/-- The rules of the library; a rule for a fixed number of operands takes no other. -/
def BuiltinRule.respond (r : BuiltinRule) : RuleFn := fun slots op args =>
  match r, args with
  | .elementwiseNdims, args => do return .ofRank (← Elementwise.rank args)
  | .elementwiseShape, args => do return .ofShape (← Elementwise.shape slots op args)
  | .matmulNdims, [l, r] => do return .ofRank (← MatrixProduct.rank op l r)
  | .matmulShape, [l, r] => do return .ofShape (← MatrixProduct.shape slots op l r)
  | .transposeNdims, [x] => do return .ofRank (← Transposition.rank x)
  | .transposeShape, [x] => do return .ofShape (← Transposition.shape slots x)
  | _, _ => .error .typeSlip

/-- The products of the axis lengths at each position, cut to the shortest shape. -/
def lengthProducts : List (List Nat) → List Nat
  | [] => []
  | [lengths] => lengths
  | lengths :: rest => List.zipWith (· * ·) lengths (lengthProducts rest)

/-- What a client's rule reads off the operands. -/
def Reader.respond (r : Reader) : RuleFn := fun slots _ args =>
  match r with
  | .rankOf i =>
    match args[i]? with
    | some v => do return .ofRank (← v.rank)
    | none => .error (.slip .index)
  | .shapeOf i =>
    match args[i]? with
    | some v => do return .ofShape (← slots.shapeOf v)
    | none => .error (.slip .index)
  | .arity => .ok (.ofInt args.length)
  | .lengthProducts => do
    let shapes ← args.mapM slots.shapeOf
    match shapes.mapM id with
    | none => return .unknown
    | some known =>
      let least := (known.map Shape.rank).min?.getD 0
      match known.mapM fun s => Shape.lengths? (.ofAxes (s.axes.take least)) with
      | some lengths => return .ofLengths (ArrayTyping.lengthProducts lengths)
      | none => throw Fault.overflow

/-- A callable used as a rule; one that is no rule, nor hands its arguments on to one, counts as `other` says. -/
def Callable.toRule (other : Callable → Rule) : Callable → Rule
  | .rule r => .reading r.respond
  | .answer _ _ v => .reading fun _ _ _ => .ok v
  | .reader _ _ r => .reading r.respond
  | .elementwise f _ => f.toRule other
  | f => other f

end ArrayTyping

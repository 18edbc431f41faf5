import ArrayTyping.Comparison
import ArrayTyping.Script.Procedure
/-!
# Inspection — parts, types and texts of values
-/
namespace ArrayTyping.Script

open Procedure

namespace Inspection

def part (a : Accessor) (n : Node) : Option Value :=
  match a with
  | .head => n.head?.map .callable
  | .children => n.childrenValue?

def partOf (a : Accessor) (v : Value) : Except Fault Value :=
  match v with
  | .node n =>
    match part a n with
    | some p => .ok p
    | none => .error (.refusal (.notComposite a v))
  | v => .error (.refusal (.notComposite a v))

def partOfNode (a : Accessor) (v : Value) : Except Fault Value :=
  match v with
  | .node n =>
    match part a n with
    | some p => .ok p
    | none => .error (.refusal (.leafAccess a n))
  | _ => .error (.slip .attribute)

/-- The declared type, which a node always gives as the same one. -/
def typeOf : Value → Except Fault Value
  | .node n => .ok n.typeValue
  | v => do return .ofType (← v.declaredType)

/-- A walk over the items of a value, which is checked to have some before it begins. -/
def iterator (v : Value) : Except Fault Value := do
  match v with
  | .range _ => pure ()
  | .view _ _ => pure ()
  | .iterator source m => return .iterator source m
  | v => let _ ← v.firstItems (some 0)
  return .iterator v Mark.unmarked

end Inspection

open Inspection in
def inspectionProcedures : List Procedure :=
  [reading "is_composite" "node" fun _ v => .ok (.bool v.isComposite),
   reading "head" "node" fun _ v => partOf .head v,
   reading "children" "node" fun _ v => partOf .children v,
   reading "node_head" "node" fun _ v => partOfNode .head v,
   reading "node_children" "node" fun _ v => partOfNode .children v,
   reading "declared_type" "node" fun _ v => typeOf v,
   reading "is_array_typed" "node" fun _ v => .ok (.bool v.isArrayTyped),
   reading "is_concrete_array" "value" fun _ v => .ok (.bool v.isConcreteArray),
   reading "is_scalar_literal" "value" fun _ v => .ok (.bool v.isScalarLiteral),
   reading "render" "value" fun _ v => .ok (.ofLabel v.render),
   reading "operator_name" "op" fun _ v => .ok (.ofString v.operatorName),
   reading2 "render_application" "op" "args" fun _ op args => do
      return .ofString (op.renderApplication (← args.iterate)),
   reading2 "describe_application" "op" "args" fun _ op args => do
      return .ofString (op.describeApplication (← args.iterate)),
   reading2 "==" "left" "right" fun _ v w => v.equality w,
   reading "str" "value" fun _ v => .ok (.ofLabel v.plain),
   reading "repr" "value" fun _ v => .ok (.ofString v.repr),
   reading "iter" "value" fun _ v => iterator v,
   reading2 "is" "left" "right" fun _ v w => .ok (.bool (v.isIdentical w))]

end ArrayTyping.Script

import ArrayTyping.Script.Procedure
/-!
# Propagation — container kinds, element types, ranks, shapes and the registries of their rules
-/
namespace ArrayTyping.Script

open Procedure

namespace Propagation

def shapeOfItems : Value → Except Fault Shape
  | .shape s => .ok s
  | v => do
    let items ← match v with
      | .tuple items _ => pure items
      | .list items _ => pure items
      | _ => throw .typeSlip
    let axes ← items.mapM fun
      | .range a => .ok a
      | _ => .error Fault.typeSlip
    return .ofAxes axes

def onApplication (name : String) (f : Slots → Value → List Value → Except Fault Value) : Procedure :=
  onValues name ⟨required ["op"], true, []⟩ fun fixed args => do
    match fixed with
    | [op] => Run.ofExcept (f (← Run.slots) op args)
    | _ => Run.fail .typeSlip

def operandNames : BuiltinRule → List String
  | .elementwiseNdims | .elementwiseShape => []
  | .matmulNdims | .matmulShape => ["left", "right"]
  | .transposeNdims | .transposeShape => ["operand"]

def rule (r : BuiltinRule) : Procedure :=
  let names := operandNames r
  onValues r.name ⟨required ("op" :: names), names.isEmpty, []⟩ fun fixed rest => do
    match fixed with
    | op :: operands => Run.ofExcept (r.respond (← Run.slots) op (operands ++ rest))
    | [] => Run.fail .typeSlip

def onRegistry (name : String) (parameters : List String) (keywordOnly : List Parameter) (takesRest : Bool)
    (f : Nat → List Value → List Value → Build Value) : Procedure :=
  onValues name ⟨required ("registry" :: parameters), takesRest, keywordOnly⟩ fun fixed rest =>
    match fixed with
    | .registry id :: args => Run.build (f id args rest)
    | _ => Run.fail (.slip .attribute)

def toKind (v : Value) : Except Fault RuleKind :=
  match v.text? with
  | some "ndims" => .ok .ndims
  | some "shape" => .ok .shape
  | _ => if v.isHashable then .error (.slip .key) else .error .typeSlip

/-- A registration of one rule; `answer` says what the call gives back. -/
def registration (name : String) (kind : RuleKind) (answer : Value → Value) : Procedure :=
  onRegistry name ["op", "rule"] [optional "arity"] false fun id args _ =>
    match args with
    | [op, rule, arity] => do
      Build.register id kind op rule arity
      return answer rule
    | _ => throw .typeSlip

end Propagation

open Propagation in
def propagationProcedures : List Procedure :=
  [reading2 "combine_container_kinds" "left" "right" fun _ v w =>
      .ok (if v.isIdentical w then v else .kind .plain),
   reading "fold_container_kinds" "kinds" fun _ v => do
      return .kind (Container.fold (← v.mapItems Value.toContainer)),
   reading "container_kind" "operand" fun _ v => do return .kind (← v.container),
   onApplication "propagate_container" fun _ _ args => .ok (.kind (joinedContainer args)),
   reading "join_element_types" "items" fun _ v => do
      return .ofElementType (← joinElementTypes (← v.iterate)),
   reading "operand_element_type" "operand" fun _ v => do return .ofElementType (← v.elementType),
   onApplication "propagate_eltype" fun _ _ args => .ok (.ofElementType (joinedElementType args)),
   reading "promote_scalar_operands" "args" fun _ v => do
      return .ofType (← promotedScalarType (← v.iterate)),
   reading "operand_rank" "operand" fun _ v => do return .ofRank (← v.rank),
   reading2 "broadcast_axes" "op" "shapes" fun _ op v => do
      return .shape (← broadcastFor op (← v.mapItems shapeOfItems))]
  ++ BuiltinRule.all.map rule

open Propagation in
def registryProcedures : List Procedure :=
  [onValues "Registry" ⟨[], false, []⟩ fun _ _ => do return .registry (← Run.build (Build.newRegistry .empty)),
   onValues "default_registry" ⟨[], false, []⟩ fun _ _ => do
      return .registry (← Run.build (Build.newRegistry .builtin)),
   onRegistry "register_builtin_rules" [] [] false fun id _ _ => do
      Build.registerBuiltin id
      return .registry id,
   registration "register_ndims" .ndims fun _ => .none,
   registration "register_shape" .shape fun _ => .none,
   registration "ndims_rule" .ndims id,
   registration "shape_rule" .shape id,
   onRegistry "register" ["op"] (required ["ndims", "shape"] ++ [optional "arity"]) false fun id args _ =>
      match args with
      | [op, ndims, shape, arity] => do
        Build.registerBoth id op ndims shape arity
        return .none
      | _ => throw .typeSlip,
   onRegistry "lookup" ["kind", "op", "arity"] [] false fun id args _ => do
      match args with
      | [kind, op, arity] =>
        let k ← toKind kind
        return (((← Build.registry id).lookup k op arity).map Value.callable).getD .none
      | _ => throw .typeSlip,
   onRegistry "registry_copy" [] [] false fun id _ _ => do return .registry (← Build.copyRegistry id),
   onRegistry "propagate_ndims" ["op"] [] true fun id args rest => do
      match args with
      | [op] => return .ofInt (← (← Build.registry id).book.rank op rest)
      | _ => throw .typeSlip,
   onRegistry "propagate_shape" ["op"] [] true fun id args rest => do
      match args with
      | [op] => return .ofShape (← (← Build.registry id).book.shape op rest)
      | _ => throw .typeSlip]

end ArrayTyping.Script

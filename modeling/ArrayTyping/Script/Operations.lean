import ArrayTyping.Script.Procedure
/-!
# Operations — applications, signs and arrays by index notation
-/
namespace ArrayTyping.Script

open Procedure

namespace Operations

def applying (name parameter : String) (f : RuleBook → Value → List Value → Build Node) : Procedure :=
  onValues name ⟨required [parameter], true, [optional "registry"]⟩ fun
    | [op, registry], args => Run.build do return .node (← f (← Build.bookOf registry) op args)
    | _, _ => Run.fail .typeSlip

/-- The body of an array by index notation: a callable is called to give it. -/
def bodyOf (caller : Caller) (v : Value) : Run Value :=
  match v.callable? with
  | some f => callWith caller [] f
  | none => return v

def binary (name : String) (p : Primitive) : Procedure := building2 name "left" "right" (Build.binary p)

def unary (p : Primitive) : Procedure := building p.name "value" (Build.unary p)

end Operations

open Operations in
def operationProcedures : List Procedure :=
  [applying "apply" "op" Build.apply,
   building2 "index" "array" "key" fun array key => do return .node (← Build.index array key),
   onValues "matmul" ⟨required ["left", "right"], false, [optional "registry"]⟩ fun
      | [left, right, registry], _ => Run.build do
        return .node (← Build.matmul (← Build.bookOf registry) left right)
      | _, _ => Run.fail .typeSlip,
   onValues "transpose" ⟨required ["value"], false, [optional "registry"]⟩ fun
      | [v, registry], _ => Run.build do return .node (← Build.transpose (← Build.bookOf registry) v)
      | _, _ => Run.fail .typeSlip,
   applying "elementwise" "fn" Build.elementwise,
   applying "build_array_term" "op" Build.arrayTerm,
   reading "Elementwise" "fn" fun _ f => do return .callable (← Build.elementwiseOperator f),
   reading "Scaled" "k" fun _ k => .ok (.callable (.scaled k Mark.unmarked)),
   reading "Unhashable" "k" fun _ k => .ok (.callable (.unhashable k Mark.unmarked)),
   ⟨"call_op", ⟨required ["op"], true, []⟩, fun caller fixed rest =>
      match fixed with
      | [op] =>
        match op.callable? with
        | some f => callWith caller rest f
        | none => Run.fail .typeSlip
      | _ => Run.fail .typeSlip⟩,
   ⟨"arrayop",
    ⟨required ["output_idx", "body"] ++ [⟨"reduce", some (.callable (.primitive .add))⟩], false,
     [optional "term", ⟨"container", some (.kind .plain)⟩]⟩,
    fun caller fixed _ => do
      match fixed with
      | [output, body, reduce, source, container] =>
        let body ← bodyOf caller body
        return .node (← Run.build (Build.arrayOp output body reduce source container))
      | _ => Run.fail .typeSlip⟩,
   binary "+" .add,
   binary "-" .sub,
   binary "*" .mul,
   binary "/" .truediv,
   binary "**" .pow,
   binary "@" .matmul,
   unary .neg,
   unary .pos,
   unary .abs,
   building2 "[]" "value" "key" Build.subscript]

end ArrayTyping.Script

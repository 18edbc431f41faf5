import ArrayTyping.Construction
import ArrayTyping.OutputShape
/-!
# ArrayOp — arrays given by index notation

An array is given by its output indices and a body, reduced over every other index of the body.  Its rank is the number
of output indices and its shape is resolved from the body when it is built.
-/
namespace ArrayTyping

def OutputIndex.ofValue (v : Value) : Except Fault OutputIndex :=
  match v with
  | .bool _ => .error (.refusal .booleanOutput)
  | .node (.symbol s) => if s.type.isArray then .error (.refusal (.invalidOutput v)) else .ok (.symbol s)
  | .int n m => .ok (.literal n m)
  | v =>
    match v.integral? with
    | some n => .ok (.literal n Mark.unmarked)
    | none => .error (.refusal (.invalidOutput v))

def OutputIndex.kept : OutputIndex → StateM Mark OutputIndex
  | .literal n m => do return .literal n (← Mark.given m)
  | .symbol s => return .symbol s

def Value.toOutput : Value → Except Fault (List OutputIndex)
  | .tuple items _ => items.mapM OutputIndex.ofValue
  | .list items _ => items.mapM OutputIndex.ofValue
  | .shape s => (s.axes.map Value.range).mapM OutputIndex.ofValue
  | _ => .error (.refusal .outputNotSequence)

def Value.toSource : Value → Except Fault (Option Node)
  | .none => .ok Option.none
  | .node n => .ok (some n)
  | _ => .error (.refusal .invalidSource)

/-- The element type of a body: that of a scalar, unknown for an array. -/
def bodyElementType (body : Value) : Except Fault ElementType := do
  match ← body.declaredType with
  | .scalar e => return e
  | .array .. => return none

namespace Build

/-- An array over checked parts, with its shape attached. -/
def indexed (output : List OutputIndex) (body : Value) (reduce : Callable) (source : Option Node)
    (k : Container) (e : ElementType) : Build Node := do
  let id ← fresh
  let node ← keeping do
    return Node.arrayOp id (← output.mapM OutputIndex.kept) (← Mark.given Mark.unmarked) (← body.kept)
      (← reduce.kept) source k (← e.mapM Dtype.kept) (← Mark.given Mark.unmarked)
  let s ← outputShape output body
  let _ ← attach node s
  return node

def arrayOpNode (output body reduce source container : Value) : Build Node := do
  let out ← output.toOutput
  match reduce.callable? with
  | none => refuse .reductionNotCallable
  | some f =>
    let src ← source.toSource
    let e ← bodyElementType body
    let k ← container.toContainer
    indexed out body f src k e

def arrayOp (output body reduce source container : Value) : Build Node := do
  let node ← arrayOpNode output body reduce source container
  record (.builtArrayOp node (← shapeOf (.node node)))
  return node

end Build

end ArrayTyping

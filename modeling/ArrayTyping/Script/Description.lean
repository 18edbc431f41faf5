import ArrayTyping.Typing
/-!
# Description — what a script shows of a result

A result is shown with everything that is known of it.  The shape of a node is part of that, so a result whose shape
is malformed cannot be shown.
-/
namespace ArrayTyping.Script

inductive NodeSort where
  | symbol
  | term
  | constant
  | arrayOp
deriving DecidableEq

structure NodeDescription where
  sort : NodeSort
  text : String
  type : DeclaredType
  shape : ShapeInfo
  attached : Bool

inductive Description where
  | none
  | bool (b : Bool)
  | int (n : Int)
  | text (s : String)
  | float (text : String)
  | complex (re im : String)
  | scalar (dtype text : String)
  | unknown
  | axis (a : Axis)
  | shape (axes : List Axis)
  | tuple (items : List Description)
  | list (items : List Description)
  | dict (entries : List (Description × Description))
  | dtype (name : String)
  | type (t : DeclaredType)
  | kind (k : Container)
  | node (n : NodeDescription)
  | occurrence (array : String) (dimension : Description)
  | view (n : NodeDescription)
  | space (axes : List Description)
  | registry (ndims shape : Nat)
  | diagnostic (d : Diagnostic)
  | rule (name : String)
  | concrete (dims : List (Option Int))
  | function (name : String)
  | other (typeName : String)

def sortOf : Node → NodeSort
  | .symbol _ => .symbol
  | .term .. => .term
  | .constant .. => .constant
  | .arrayOp .. => .arrayOp

def describeNode (store : Store) (n : Node) : Except Fault NodeDescription := do
  let s ← store.slots.shapeOf (.node n)
  return ⟨sortOf n, n.label.content, n.type, s, store.slots.hasShape (.node n)⟩

def describeCallable : Callable → Description
  | .rule r => .rule r.name
  | .answer _ label _ => .rule label
  | .reader _ label _ => .rule label
  | f => .function f.name

def describePart : Value → Description
  | .array a => .concrete a.dims
  | .scalar s _ => .scalar s.type.name s.text
  | .int n _ => .int n
  | _ => .none

mutual

def describe (store : Store) : Value → Except Fault Description
  | .none => .ok .none
  | .bool b => .ok (.bool b)
  | .int n _ => .ok (.int n)
  | .text s _ => .ok (.text s)
  | .code c => .ok (.text c.text)
  | .float x _ => .ok (.float (floatText .double x))
  | .complex re im _ => .ok (.complex (floatText .double re) (floatText .double im))
  | .scalar s _ => .ok (.scalar s.type.name s.text)
  | .unknown => .ok .unknown
  | .range a => .ok (.axis a)
  | .shape s => .ok (.shape s.axes)
  | .tuple items _ => do return .tuple (← describeAll store items)
  | .list items _ => do return .list (← describeAll store items)
  | .dict entries _ => do return .dict (← describeEntries store entries)
  | .dtype d => .ok (.dtype d.name)
  | .type t _ => .ok (.type t)
  | .kind k => .ok (.kind k)
  | .node n => do return .node (← describeNode store n)
  | .occurrence array dimension _ => do return .occurrence array.render.content (← describe store dimension)
  | .view n _ => do return .view (← describeNode store n)
  | .space axes _ => do return .space (← describeItems store axes)
  | .registry id =>
    let r := (store.registries.lookup id).getD ⟨[], []⟩
    .ok (.registry r.ndims.length r.shape.length)
  | .diagnostic d _ => .ok (.diagnostic d)
  | .array a => .ok (.concrete a.dims)
  | .callable f => .ok (describeCallable f)
  | .slice .. => .ok (.other "slice")
  | .object _ => .ok (.other "object")
  | .iterator source _ => .ok (.other source.iteratorName)
termination_by structural v => v

def describeAll (store : Store) : List Value → Except Fault (List Description)
  | [] => .ok []
  | v :: vs => do return (← describe store v) :: (← describeAll store vs)
termination_by structural vs => vs

def describeEntries (store : Store) : List (Value × Value) → Except Fault (List (Description × Description))
  | [] => .ok []
  | (k, v) :: es => do return (← describe store k, ← describe store v) :: (← describeEntries store es)
termination_by structural es => es

def describeKeys (store : Store) : List (Value × Value) → Except Fault (List Description)
  | [] => .ok []
  | (k, _) :: es => do return (← describe store k) :: (← describeKeys store es)
termination_by structural es => es

def describeItems (store : Store) : Value → Except Fault (List Description)
  | .tuple items _ => describeAll store items
  | .list items _ => describeAll store items
  | .dict entries _ => describeKeys store entries
  | .shape s => .ok (s.axes.map .axis)
  | .range a => .ok ((a.firstIndices a.length).map .int)
  | .text s _ => .ok (s.toList.map fun c => .text c.toString)
  | .kind k => .ok (k.name.toList.map fun c => .text c.toString)
  | .code c => .ok (c.text.toList.map fun c => .text c.toString)
  | .array a => do return (← a.rows).map describePart
  | .node n => .error (.refusal (.notIterable n))
  | _ => .error .typeSlip
termination_by structural v => v

end

end ArrayTyping.Script

import ArrayTyping.Construction
import ArrayTyping.RuleBook
/-!
# Application — operators applied to operands

An application with an array among its operands is an array term: its container and element type are those of its array
operands joined, its rank and shape those the rules give.  Any other application is a scalar term of the promoted
element type.  Indexing gives one element of an array.
-/
namespace ArrayTyping

def joinedContainer (args : List Value) : Container :=
  Container.fold (args.filterMap fun v => v.arrayType?.bind DeclaredType.container?)

namespace Dtype.Item

def ofElementType : ElementType → Item
  | some d => .strong d
  | none => .unknown

end Dtype.Item

def joinedElementType (args : List Value) : ElementType :=
  Dtype.join ((args.filterMap Value.arrayType?).map fun t => .ofElementType t.eltype)

/-- The element type joined over values; what has no element type to contribute is refused, unless the join is unknown
anyway. -/
def joinElementTypes (items : List Value) : Except Fault ElementType :=
  if items.any Value.isUnknown then .ok none
  else do return Dtype.join (← items.mapM Value.item)

def promotedScalarType (args : List Value) : Except Fault DeclaredType := do
  let items := args.map fun
    | .node n => .ofElementType n.type.eltype
    | v => v
  return .scalar (← joinElementTypes items)

namespace Build

def arrayTerm (book : RuleBook) (op : Value) (args : List Value) : Build Node := do
  let operands ← args.mapM operand
  let k := joinedContainer operands
  let e := joinedElementType operands
  let n ← book.rank op operands
  let s ← book.shape op operands
  match s with
  | some known => if known.rank ≠ n then throw (.conflict (.rankContradicted op known.rank n operands))
  | none => pure ()
  let t ← term op operands (.array k e (some n))
  let s ← attach t s
  record (.builtTerm t k e n s)
  return t

/-- The application of `op` to `args`: an array term if an operand is array-valued, else a scalar term. -/
def apply (book : RuleBook) (op : Value) (args : List Value) : Build Node := do
  let operands ← args.mapM operand
  if operands.any Value.isArrayTyped then arrayTerm book op operands
  else term op operands (← promotedScalarType operands)

def indexKey : Value → Except Fault Value
  | .bool _ => .error (.refusal .booleanKey)
  | .slice _ _ _ _ => .error (.refusal .sliceKey)
  | .int n m => .ok (.int n m)
  | .node n => if n.isArray then .error (.refusal (.invalidKey (.node n))) else .ok (.node n)
  | v =>
    match v.integral? with
    | some n => .ok (.ofInt n)
    | none => .error (.refusal (.invalidKey v))

def indexKeys : Value → List Value
  | .tuple keys _ => keys
  | .shape s => s.axes.map .range
  | key => [key]

/-- The element of `array` at `key`, each key taking the next dimension. -/
def index (array key : Value) : Build Node := do
  let target ← operand array
  match target.arrayType? with
  | none => refuse (.indexIntoNonArray target)
  | some t =>
    let keys ← (indexKeys key).mapM fun k => (indexKey k : Except Fault Value)
    term (.callable (.primitive .getitem)) (target :: keys) (.scalar t.eltype)

def matmul (book : RuleBook) (left right : Value) : Build Node :=
  apply book (.callable (.primitive .matmul)) [left, right]

def transpose (book : RuleBook) (v : Value) : Build Node := apply book (.callable (.primitive .transpose)) [v]

def elementwiseOperator (f : Value) : Except Fault Callable :=
  match f.callable? with
  | some f => .ok (.elementwise f Mark.unmarked)
  | none => .error (.refusal .elementFunctionNotCallable)

def elementwise (book : RuleBook) (f : Value) (args : List Value) : Build Node := do
  apply book (.callable (← elementwiseOperator f)) args

end Build

end ArrayTyping

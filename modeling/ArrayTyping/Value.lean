import ArrayTyping.DeclaredType
import ArrayTyping.Diagnostic
import ArrayTyping.Number
/-!
# Value — nodes, the values they are built over, and callables

A node is a symbol, an application, a constant or an array given by index notation.  Nodes are told apart by their
identity, under which the store keeps their shape; operands, rule answers and arguments are values, of which nodes are
one kind.  Whatever can be made twice with the same contents carries a mark, and so do the parts of a node that can be
asked for.
-/
namespace ArrayTyping

abbrev NodeId := Nat

/-- A named leaf.  Two symbols with one name and type stand for the same variable, whatever their identity. -/
structure Symbol where
  id : NodeId
  name : Label
  type : DeclaredType
  typeMark : Mark

def Symbol.same (a b : Symbol) : Bool := a.name.same b.name && a.type.same b.type

inductive Storage where
  /-- One number at every index. -/
  | filled (n : Number)
  /-- Nothing that can be read yet; an element type may not even be reported. -/
  | deferred (reportsType : Bool)

/-- A concrete array.  A lazy one may leave lengths open and report any lengths or element type. -/
structure ConcreteArray where
  mark : Mark
  dims : List (Option Int)
  eltype : ElementType
  storage : Storage

namespace ConcreteArray

def isLazy (a : ConcreteArray) : Bool :=
  match a.storage with
  | .filled _ => false
  | .deferred _ => true

def fill (a : ConcreteArray) : Number :=
  match a.storage with
  | .filled n => n
  | .deferred _ => .int 0

/-- The lengths along all dimensions, open ones counted as zero. -/
def lengths (a : ConcreteArray) : List Nat := a.dims.map fun d => (d.getD 0).toNat

def size (a : ConcreteArray) : Nat := a.lengths.foldl (· * ·) 1

end ConcreteArray

inductive Datum where
  | array (a : ConcreteArray)
  | scalar (s : TypedScalar) (mark : Mark)

namespace Datum

def dims : Datum → List (Option Int)
  | .array a => a.dims
  | .scalar _ _ => []

def eltype : Datum → ElementType
  | .array a => a.eltype
  | .scalar s _ => some (.native s.type)

/-- Every wrapped datum is a plain array of as many dimensions as it reports. -/
def type (d : Datum) : DeclaredType := .array .plain d.eltype (some d.dims.length)

end Datum

inductive Primitive where
  | add
  | sub
  | mul
  | truediv
  | pow
  | matmul
  | neg
  | pos
  | abs
  | getitem
  | floordiv
  | mod
  | max
  | min
  | sin
  | exp
  | hypot
  | transpose
  | kron
  | det
deriving DecidableEq

/-- The families of callables and literals: a member of a family falls back on the family's rules. -/
inductive Family where
  | float
  | int
  | bool
  | complex
  | scaled
  | unhashable
  | elementwise
  | arrayOp
deriving DecidableEq

inductive BuiltinRule where
  | elementwiseNdims
  | elementwiseShape
  | matmulNdims
  | matmulShape
  | transposeNdims
  | transposeShape
deriving DecidableEq

/-- What a rule made by a client reads off the operands. -/
inductive Reader where
  | rankOf (operand : Nat)
  | shapeOf (operand : Nat)
  | arity
  | lengthProducts
deriving DecidableEq

/-- One entry of the output of an array given by index notation. -/
inductive OutputIndex where
  | literal (n : Int) (mark : Mark)
  | symbol (s : Symbol)

mutual

/-- Anything that can be handed to the library or come back from it. -/
inductive Value where
  | none
  | bool (b : Bool)
  | int (n : Int) (mark : Mark)
  | float (x : Float) (mark : Mark)
  | complex (re im : Float) (mark : Mark)
  | scalar (s : TypedScalar) (mark : Mark)
  | text (s : String) (mark : Mark)
  | list (items : List Value) (mark : Mark)
  | tuple (items : List Value) (mark : Mark)
  | dict (entries : List (Value × Value)) (mark : Mark)
  | range (a : Axis)
  | slice (start stop step : Value) (mark : Mark)
  | unknown
  | shape (s : Shape)
  | dtype (d : Dtype)
  | kind (k : Container)
  | code (c : ErrorCode)
  | type (t : DeclaredType) (mark : Mark)
  | array (a : ConcreteArray)
  | object (id : Nat)
  | callable (f : Callable)
  | node (n : Node)
  | occurrence (array dimension : Value) (mark : Mark)
  | view (n : Node) (mark : Mark)
  | space (axes : Value) (mark : Mark)
  | registry (id : Nat)
  | diagnostic (d : Diagnostic) (mark : Mark)
  | iterator (source : Value) (mark : Mark)

inductive Node where
  | symbol (s : Symbol)
  | term (id : NodeId) (op : Callable) (args : List Value) (argsMark : Mark) (type : DeclaredType) (typeMark : Mark)
  | constant (id : NodeId) (datum : Datum) (typeMark : Mark)
  | arrayOp (id : NodeId) (output : List OutputIndex) (outputMark : Mark) (body : Value) (reduce : Callable)
      (source : Option Node) (container : Container) (eltype : ElementType) (typeMark : Mark)

inductive Callable where
  | primitive (p : Primitive)
  | family (f : Family)
  | scaled (k : Value) (mark : Mark)
  | unhashable (k : Value) (mark : Mark)
  | elementwise (f : Callable) (mark : Mark)
  | thunk (id : Nat)
  | rule (r : BuiltinRule)
  | answer (id : Nat) (label : String) (v : Value)
  | reader (id : Nat) (label : String) (r : Reader)

end

namespace Value

def ofInt (n : Int) : Value := .int n Mark.unmarked

def ofString (s : String) : Value := .text s Mark.unmarked

def ofItems (items : List Value) : Value := .tuple items Mark.unmarked

def ofList (items : List Value) : Value := .list items Mark.unmarked

def ofType (t : DeclaredType) : Value := .type t Mark.unmarked

def ofNumber : Number → Value
  | .int n => .ofInt n
  | .float x => .float x Mark.unmarked
  | .complex re im => .complex re im Mark.unmarked

def ofScalar (s : TypedScalar) : Value := .scalar s Mark.unmarked

def ofLabel : Label → Value
  | .text s m => .text s m
  | .kind k => .kind k
  | .code c => .code c

def ofLengths (lengths : List Nat) : Value := .ofItems (lengths.map fun (n : Nat) => .ofInt n)

end Value

namespace OutputIndex

def toValue : OutputIndex → Value
  | .literal n m => .int n m
  | .symbol s => .node (.symbol s)

end OutputIndex

namespace Datum

def toValue : Datum → Value
  | .array a => .array a
  | .scalar s m => .scalar s m

end Datum

namespace Node

def id : Node → NodeId
  | .symbol s => s.id
  | .term id .. => id
  | .constant id .. => id
  | .arrayOp id .. => id

def type : Node → DeclaredType
  | .symbol s => s.type
  | .term _ _ _ _ t _ => t
  | .constant _ d _ => d.type
  | .arrayOp _ output _ _ _ _ k e _ => .array k e (some output.length)

/-- The declared type as a value, which is the same one each time. -/
def typeValue (n : Node) : Value :=
  .type n.type <|
    match n with
    | .symbol s => s.typeMark
    | .term _ _ _ _ _ m => m
    | .constant _ _ m => m
    | .arrayOp _ _ _ _ _ _ _ _ m => m

def isComposite : Node → Bool
  | .term .. => true
  | .arrayOp .. => true
  | _ => false

def head? : Node → Option Callable
  | .term _ op .. => some op
  | .arrayOp .. => some (.family .arrayOp)
  | _ => none

def children? : Node → Option (List Value)
  | .term _ _ args .. => some args
  | .arrayOp _ output m body reduce source .. =>
    some [.tuple (output.map OutputIndex.toValue) m, body, (source.map Value.node).getD .none, .callable reduce]
  | _ => none

/-- The operands of a composite node as one tuple: an application keeps its own. -/
def childrenValue? (n : Node) : Option Value :=
  n.children?.map fun items =>
    .tuple items <|
      match n with
      | .term _ _ _ m .. => m
      | _ => Mark.unmarked

def isArray (n : Node) : Bool := n.type.isArray

end Node

namespace Value

def number? : Value → Option Number
  | .bool b => some (Number.ofBool b)
  | .int n _ => some (.int n)
  | .float x _ => some (.float x)
  | .complex re im _ => some (.complex re im)
  | .scalar s _ => some s.number
  | _ => Option.none

def isScalarLiteral (v : Value) : Bool := v.number?.isSome

def isConcreteArray : Value → Bool
  | .array _ => true
  | _ => false

def isComposite : Value → Bool
  | .node n => n.isComposite
  | _ => false

def isArrayTyped : Value → Bool
  | .node n => n.isArray
  | .array _ => true
  | _ => false

/-- Whether a value may be an operand of an application. -/
def isOperand : Value → Bool
  | .node _ => true
  | .array _ => true
  | v => v.isScalarLiteral

def isUnknown : Value → Bool
  | .unknown => true
  | _ => false

def callable? : Value → Option Callable
  | .callable f => some f
  | _ => Option.none

def label? : Value → Option Label
  | .text s m => some (.text s m)
  | .kind k => some (.kind k)
  | .code c => some (.code c)
  | _ => Option.none

/-- The text a value counts as; kinds and codes count as their spelling. -/
def text? (v : Value) : Option String := v.label?.map Label.content

/-- The integer a value is where integers are called for and truth values are refused. -/
def integer? : Value → Option Int
  | .int n _ => some n
  | _ => Option.none

/-- The integer an integral literal stands for, also one with a type of its own. -/
def integral? : Value → Option Int
  | .int n _ => some n
  | .scalar s _ =>
    match s.type, s.number with
    | .signed _, .int n => some n
    | .unsigned _, .int n => some n
    | _, _ => Option.none
  | _ => Option.none

/-- The integer a value counts as in positions; truth values are zero and one. -/
def position? : Value → Option Int
  | .bool b => some (if b then 1 else 0)
  | v => v.integral?

def ofShape : ShapeInfo → Value
  | some s => .shape s
  | Option.none => .unknown

def ofElementType : ElementType → Value
  | some d => .dtype d
  | Option.none => .unknown

def ofRank : Rank → Value
  | some n => .ofInt n
  | Option.none => .unknown

end Value

end ArrayTyping

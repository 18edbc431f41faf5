import ArrayTyping.Dtype.Promotion
import ArrayTyping.Text.Block
import ArrayTyping.Value
/-!
# Text — how values, nodes and callables are written

There are four ways to write a value.  `render` shows an operand inside an expression, `repr` spells a value out with
all its fields, `plain` is the text of a value on its own, and `shown` its text inside a sentence.  Applications of the
arithmetic operators are written between or in front of their operands, indexing in brackets, and every other
application by the operator's name.

Everything can be written: integers of any number of digits and expressions of any depth.  The limits that an
interpreter sets on either are left out of the model.
-/
namespace ArrayTyping

namespace Primitive

def name : Primitive → String
  | .add => "add"
  | .sub => "sub"
  | .mul => "mul"
  | .truediv => "truediv"
  | .pow => "pow"
  | .matmul => "matmul"
  | .neg => "neg"
  | .pos => "pos"
  | .abs => "abs"
  | .getitem => "getitem"
  | .floordiv => "floordiv"
  | .mod => "mod"
  | .max => "max"
  | .min => "min"
  | .sin => "sin"
  | .exp => "exp"
  | .hypot => "hypot"
  | .transpose => "transpose"
  | .kron => "kron"
  | .det => "det"

def all : List Primitive :=
  [.add, .sub, .mul, .truediv, .pow, .matmul, .neg, .pos, .abs, .getitem, .floordiv, .mod, .max, .min, .sin, .exp,
   .hypot, .transpose, .kron, .det]

def ofName? (s : String) : Option Primitive := all.find? (·.name == s)

def repr (p : Primitive) : String :=
  match p with
  | .sin | .exp | .hypot => "<ufunc '" ++ p.name ++ "'>"
  | .transpose | .kron | .det => "<function " ++ p.name ++ ">"
  | _ => "<built-in function " ++ p.name ++ ">"

def sign2? : Primitive → Option String
  | .add => some "+"
  | .sub => some "-"
  | .mul => some "*"
  | .truediv => some "/"
  | .pow => some "**"
  | .matmul => some "@"
  | _ => none

def sign1? : Primitive → Option String
  | .neg => some "-"
  | .pos => some "+"
  | _ => none

end Primitive

namespace Family

def name : Family → String
  | .float => "float"
  | .int => "int"
  | .bool => "bool"
  | .complex => "complex"
  | .scaled => "Scaled"
  | .unhashable => "Unhashable"
  | .elementwise => "Elementwise"
  | .arrayOp => "ArrayOp"

def all : List Family := [.float, .int, .bool, .complex, .scaled, .unhashable, .elementwise, .arrayOp]

def ofName? (s : String) : Option Family := all.find? (·.name == s)

def qualifiedName (f : Family) : String :=
  match f with
  | .scaled | .unhashable => "__main__." ++ f.name
  | .elementwise => "symarrays.propagation.rules.elementwise." ++ f.name
  | .arrayOp => "symarrays.arrayop." ++ f.name
  | _ => f.name

def repr (f : Family) : String := "<class '" ++ f.qualifiedName ++ "'>"

end Family

namespace BuiltinRule

def name : BuiltinRule → String
  | .elementwiseNdims => "elementwise_ndims"
  | .elementwiseShape => "elementwise_shape"
  | .matmulNdims => "matmul_ndims"
  | .matmulShape => "matmul_shape"
  | .transposeNdims => "transpose_ndims"
  | .transposeShape => "transpose_shape"

def all : List BuiltinRule :=
  [.elementwiseNdims, .elementwiseShape, .matmulNdims, .matmulShape, .transposeNdims, .transposeShape]

def ofName? (s : String) : Option BuiltinRule := all.find? (·.name == s)

end BuiltinRule

def commaSeparated (items : List String) : String := ", ".intercalate items

def tupleText : List String → String
  | [item] => "(" ++ item ++ ",)"
  | items => "(" ++ commaSeparated items ++ ")"

def unknownText : String := "UNKNOWN"

def Shape.repr (s : Shape) : String := "ShapeAxes(" ++ tupleText (s.axes.map Axis.text) ++ ")"

def shapeInfoText : ShapeInfo → String
  | some s => s.repr
  | none => unknownText

def elementTypeText : ElementType → String
  | some d => d.repr
  | none => unknownText

def rankText : Rank → String
  | some n => toString n
  | none => unknownText

def DeclaredType.repr : DeclaredType → String
  | .scalar e => "ScalarType(dtype=" ++ elementTypeText e ++ ")"
  | .array k e n =>
    "ArrayType(container=" ++ k.repr ++ ", eltype=" ++ elementTypeText e ++ ", ndim=" ++ rankText n ++ ")"

def Symbol.repr (s : Symbol) : String := "Sym(name=" ++ s.name.repr ++ ", symtype=" ++ s.type.repr ++ ")"

namespace OutputIndex

def text : OutputIndex → String
  | .literal n _ => toString n
  | .symbol s => s.name.content

def repr : OutputIndex → String
  | .literal n _ => toString n
  | .symbol s => s.repr

end OutputIndex

namespace ConcreteArray

def dimText : Option Int → String
  | some n => toString n
  | none => "None"

/-- A floating-point number inside an array always has a point. -/
def pointed (s : String) : String :=
  match s.splitOn "e" with
  | [whole] => if whole.contains '.' then s else s ++ "."
  | mantissa :: rest => if mantissa.contains '.' then s else "e".intercalate ((mantissa ++ ".") :: rest)
  | [] => s

def elementText (a : ConcreteArray) : String :=
  match a.eltype.bind Dtype.numeric?, a.fill with
  | some .bool, n => if n.isNonzero then " True" else "False"
  | some (.float p), .float x => pointed (p.layout.number false x)
  | some (.complex p), .complex re im =>
    let l := p.part.layout
    let imaginary := pointed (l.number false im)
    pointed (l.number false re) ++ (if imaginary.startsWith "-" then "" else "+") ++ imaginary ++ "j"
  | _, n => n.text

def str (a : ConcreteArray) : String :=
  if a.isLazy then "LazyArray"
  else if a.lengths.isEmpty then
    match a.eltype.bind Dtype.numeric? with
    | some t => TypedScalar.text ⟨t, a.fill⟩
    | none => a.fill.text
  else if a.lengths.contains 0 then "[]"
  else Block.text a.elementText a.lengths

def repr (a : ConcreteArray) : String :=
  if a.isLazy then "LazyArray"
  else
    "array(shape=" ++ tupleText (a.dims.map dimText) ++ ", dtype="
      ++ ((a.eltype.map Dtype.name).getD unknownText) ++ ")"

end ConcreteArray

namespace Datum

def repr : Datum → String
  | .array a => a.repr
  | .scalar s _ => s.repr

def text (d : Datum) : String :=
  let dims := "x".intercalate (d.dims.map fun | some n => toString n | none => "?")
  "const[" ++ (if dims.isEmpty then "scalar" else dims) ++ ", " ++ ((d.eltype.map Dtype.name).getD unknownText) ++ "]"

end Datum

def Diagnostic.repr (d : Diagnostic) : String := d.kind.name ++ "(" ++ d.message.repr ++ ")"

def Diagnostic.plain (d : Diagnostic) : Label :=
  match d.message with
  | .text s m => .text s m
  | l => .ofString l.shown

def joinedLabels (labels : List Label) : String := commaSeparated (labels.map Label.content)

/-- The text of an application whose operands are already rendered: the sign between or in front of them, the bracket
form of indexing, or the operator's name in front of all of them. -/
def applicationText (op? : Option Primitive) (name : String) (args : List Label) : String :=
  match op?, args with
  | some .getitem, array :: keys => array.shown ++ "[" ++ joinedLabels keys ++ "]"
  | some p, [l, r] =>
    match p.sign2? with
    | some sign => "(" ++ l.shown ++ " " ++ sign ++ " " ++ r.shown ++ ")"
    | none => name ++ "(" ++ joinedLabels args ++ ")"
  | some p, [x] =>
    match p.sign1? with
    | some sign => sign ++ x.shown
    | none => name ++ "(" ++ joinedLabels args ++ ")"
  | _, _ => name ++ "(" ++ joinedLabels args ++ ")"

/-- The text inside a sentence of a value with the given spelling and rendering: a number in its type shows the digits
of double precision, a tuple is spelled out, and anything else is as in an expression. -/
def sentenceText (v : Value) (spelled : String) (rendered : Label) : String :=
  match v with
  | .scalar s _ => s.shown
  | .tuple _ _ => spelled
  | .shape _ => spelled
  | _ => rendered.shown

def Callable.primitive? : Callable → Option Primitive
  | .primitive p => some p
  | _ => none

def Value.iteratorName : Value → String
  | .list _ _ => "list_iterator"
  | .tuple _ _ => "tuple_iterator"
  | .shape _ => "tuple_iterator"
  | .dict _ _ => "dict_keyiterator"
  | .range a =>
    let fits (n : Int) : Bool := decide (-Int.pow 2 63 ≤ n) && decide (n < Int.pow 2 63)
    if fits a.start && fits a.stop && fits a.step && fits (a.nth a.length) then "range_iterator"
    else "longrange_iterator"
  | .space _ _ => "product"
  | .text s _ => if s.toList.all (·.toNat < 128) then "str_ascii_iterator" else "str_iterator"
  | .kind _ => "str_ascii_iterator"
  | .code _ => "str_ascii_iterator"
  | _ => "iterator"

def Value.iteratorText (source : Value) : String :=
  match source with
  | .space _ _ => "<itertools.product object>"
  | v => "<" ++ v.iteratorName ++ " object>"

mutual

def Value.repr : Value → String
  | .none => "None"
  | .bool b => if b then "True" else "False"
  | .int n _ => toString n
  | .float x _ => floatText .double x
  | .complex re im _ => complexText .double re im
  | .scalar s _ => s.repr
  | .text s _ => quoted s
  | .list items _ => "[" ++ commaSeparated (reprAll items) ++ "]"
  | .tuple items _ => tupleText (reprAll items)
  | .dict entries _ => "\x7b" ++ commaSeparated (reprEntries entries) ++ "\x7d"
  | .range a => a.text
  | .slice start stop step _ => "slice(" ++ start.repr ++ ", " ++ stop.repr ++ ", " ++ step.repr ++ ")"
  | .unknown => unknownText
  | .shape s => s.repr
  | .dtype d => d.repr
  | .kind k => k.repr
  | .code c => c.repr
  | .type t _ => t.repr
  | .array a => a.repr
  | .object _ => "<object object>"
  | .callable f => f.repr
  | .node n => n.repr
  | .occurrence array dimension _ =>
    "AxisOccurrence(array=" ++ array.repr ++ ", dimension=" ++ dimension.repr ++ ")"
  | .view n _ => "Arr(node=" ++ n.repr ++ ")"
  | .space axes _ => "IndexSpace(axes=" ++ axes.repr ++ ")"
  | .registry _ => "<symarrays.propagation.registry.PropagationRegistry object>"
  | .diagnostic d _ => d.repr
  | .iterator source _ => source.iteratorText
termination_by structural v => v

def reprAll : List Value → List String
  | [] => []
  | v :: vs => v.repr :: reprAll vs
termination_by structural vs => vs

def reprEntries : List (Value × Value) → List String
  | [] => []
  | (k, v) :: es => (k.repr ++ ": " ++ v.repr) :: reprEntries es
termination_by structural es => es

def Value.render : Value → Label
  | .node n => n.label
  | .tuple items _ => .ofString ("(" ++ joinedLabels (renderAll items) ++ ")")
  | .shape s => .ofString ("(" ++ commaSeparated (s.axes.map Axis.text) ++ ")")
  | .text s m => .text s m
  | .scalar s _ => .ofString s.text
  | .dtype d => .ofString d.name
  | .kind k => .ofString (Label.kind k).shown
  | .code c => .ofString (Label.code c).shown
  | .type t _ => .ofString t.text
  | .array a => .ofString a.str
  | .view n _ => n.label
  | .diagnostic d _ => d.plain
  | .none => .ofString "None"
  | .bool b => .ofString (if b then "True" else "False")
  | .int n _ => .ofString (toString n)
  | .float x _ => .ofString (floatText .double x)
  | .complex re im _ => .ofString (complexText .double re im)
  | .list items _ => .ofString ("[" ++ commaSeparated (reprAll items) ++ "]")
  | .dict entries _ => .ofString ("\x7b" ++ commaSeparated (reprEntries entries) ++ "\x7d")
  | .range a => .ofString a.text
  | .slice start stop step _ =>
    .ofString ("slice(" ++ start.repr ++ ", " ++ stop.repr ++ ", " ++ step.repr ++ ")")
  | .unknown => .ofString unknownText
  | .object _ => .ofString "<object object>"
  | .callable f => .ofString f.repr
  | .occurrence array dimension _ =>
    .ofString ("AxisOccurrence(array=" ++ array.repr ++ ", dimension=" ++ dimension.repr ++ ")")
  | .space axes _ => .ofString ("IndexSpace(axes=" ++ axes.repr ++ ")")
  | .registry _ => .ofString "<symarrays.propagation.registry.PropagationRegistry object>"
  | .iterator source _ => .ofString source.iteratorText
termination_by structural v => v

def renderAll : List Value → List Label
  | [] => []
  | v :: vs => v.render :: renderAll vs
termination_by structural vs => vs

def Node.repr : Node → String
  | .symbol s => s.repr
  | .term _ op args _ t _ =>
    "Term(op=" ++ op.repr ++ ", args=" ++ tupleText (reprAll args) ++ ", symtype=" ++ t.repr ++ ")"
  | .constant _ d _ => "Const(value=" ++ d.repr ++ ", symtype=" ++ d.type.repr ++ ")"
  | .arrayOp _ output _ body reduce source k e _ =>
    "ArrayOp(output_idx=" ++ tupleText (output.map OutputIndex.repr) ++ ", body=" ++ body.repr ++ ", reduce="
      ++ reduce.repr ++ ", source_term=" ++ reprSource source ++ ", container=" ++ k.repr ++ ", symtype="
      ++ (DeclaredType.array k e (some output.length)).repr ++ ")"
termination_by structural n => n

def reprSource : Option Node → String
  | .none => "None"
  | .some n => n.repr
termination_by structural n => n

/-- A node as an expression; a symbol is shown by its name, which may be a kind or code. -/
def Node.label : Node → Label
  | .symbol s => s.name
  | .term _ op args .. => .ofString (applicationText op.primitive? op.name (renderAll args))
  | .constant _ d _ => .ofString d.text
  | .arrayOp _ output _ body reduce .. =>
    .ofString ("_[" ++ commaSeparated (output.map OutputIndex.text) ++ "] := " ++ body.render.shown
      ++ (match reduce.primitive? with
          | some .add => ""
          | _ => " (reduce=" ++ reduce.name ++ ")"))
termination_by structural n => n

def Callable.repr : Callable → String
  | .primitive p => p.repr
  | .family f => f.repr
  | .scaled k _ => "Scaled(" ++ sentenceText k k.repr k.render ++ ")"
  | .unhashable k _ => "Unhashable(" ++ sentenceText k k.repr k.render ++ ")"
  | .elementwise f _ => "Elementwise(fn=" ++ f.repr ++ ")"
  | .thunk _ => "<function <lambda>>"
  | .rule r => "<function " ++ r.name ++ ">"
  | .answer _ label _ => "<function " ++ label ++ ">"
  | .reader _ label _ => "<function " ++ label ++ ">"
termination_by structural f => f

/-- The name an operator is shown by; an operator without one is spelled out. -/
def Callable.name : Callable → String
  | .primitive p => p.name
  | .family f => f.name
  | .scaled k _ => "Scaled(" ++ sentenceText k k.repr k.render ++ ")"
  | .unhashable k _ => "Unhashable(" ++ sentenceText k k.repr k.render ++ ")"
  | .elementwise f _ => f.name ++ "."
  | .thunk _ => "<lambda>"
  | .rule r => r.name
  | .answer _ label _ => label
  | .reader _ label _ => label
termination_by structural f => f

end

namespace Node

def text (n : Node) : String := n.label.shown

end Node

namespace Value

/-- A value on its own: a tuple is spelled out, anything else is as in an expression. -/
def plain : Value → Label
  | .tuple items _ => .ofString (tupleText (reprAll items))
  | .shape s => .ofString s.repr
  | v => v.render

def shown (v : Value) : String := sentenceText v v.repr v.render

def operatorName : Value → String
  | .callable f => f.name
  | v => v.repr

def describeApplication (op : Value) (args : List Value) : String :=
  op.operatorName ++ "(" ++ joinedLabels (renderAll args) ++ ")"

def renderApplication (op : Value) (args : List Value) : String :=
  applicationText (op.callable?.bind Callable.primitive?) op.operatorName (renderAll args)

end Value

def Numeric.typeName : Numeric → String
  | .bool => "BoolDType"
  | .signed w => s!"Int{8 * w.bytes}DType"
  | .unsigned w => s!"UInt{8 * w.bytes}DType"
  | .float .half => "Float16DType"
  | .float .single => "Float32DType"
  | .float .double => "Float64DType"
  | .complex .single => "Complex64DType"
  | .complex .double => "Complex128DType"

def Value.typeName : Value → String
  | .none => "NoneType"
  | .bool _ => "bool"
  | .int _ _ => "int"
  | .float _ _ => "float"
  | .complex _ _ _ => "complex"
  | .scalar s _ => s.type.name
  | .text _ _ => "str"
  | .list _ _ => "list"
  | .tuple _ _ => "tuple"
  | .dict _ _ => "dict"
  | .range _ => "range"
  | .slice .. => "slice"
  | .unknown => "Unknown"
  | .shape _ => "ShapeAxes"
  | .dtype d => ((d.numeric?).map Numeric.typeName).getD "ObjectDType"
  | .kind _ => "ContainerKind"
  | .code _ => "ErrorCode"
  | .type (.scalar _) _ => "ScalarType"
  | .type (.array ..) _ => "ArrayType"
  | .array a => if a.isLazy then "LazyArray" else "ndarray"
  | .object _ => "object"
  | .callable f =>
    match f with
    | .primitive p =>
      match p with
      | .sin | .exp | .hypot => "ufunc"
      | .transpose => "_ArrayFunctionDispatcher"
      | .kron | .det => "function"
      | _ => "builtin_function_or_method"
    | .family .arrayOp => "ABCMeta"
    | .family _ => "type"
    | .scaled .. => "Scaled"
    | .unhashable .. => "Unhashable"
    | .elementwise .. => "Elementwise"
    | _ => "function"
  | .node n =>
    match n with
    | .symbol _ => "Sym"
    | .term .. => "Term"
    | .constant .. => "Const"
    | .arrayOp .. => "ArrayOp"
  | .occurrence .. => "AxisOccurrence"
  | .view .. => "Arr"
  | .space .. => "IndexSpace"
  | .registry _ => "PropagationRegistry"
  | .diagnostic d _ => d.kind.name
  | .iterator source _ => source.iteratorName

end ArrayTyping

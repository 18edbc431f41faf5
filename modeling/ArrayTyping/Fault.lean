import ArrayTyping.Value.Text
/-!
# Fault — why a request is refused

A fault is one of three things: a slip, for which there is nothing more to say than its kind; a refusal of a malformed
argument; or a conflict found by inference, which is reported as a structured diagnostic.
-/
namespace ArrayTyping

inductive FaultKind where
  | type
  | value
  | overflow
  | key
  | index
  | attribute
  | zeroDivision
  | assertion
deriving DecidableEq

inductive RuleKind where
  | ndims
  | shape
deriving DecidableEq

def RuleKind.name : RuleKind → String
  | .ndims => "ndims"
  | .shape => "shape"

inductive Accessor where
  | head
  | children
deriving DecidableEq

def Accessor.name : Accessor → String
  | .head => "head"
  | .children => "children"

/-- An argument that is not what the call asks for. -/
inductive Refusal where
  | codeNotText
  | malformedCode (code : Value)
  | emptyMessage
  | helpNotText
  | noteNotText
  | emptyNote
  | dataEntry (key : Value)
  | noElementType
  | invalidElementType (v : Value)
  | rankNotInt
  | negativeRank (n : Int)
  | nameNotText
  | emptyName
  | invalidName (name : Label)
  | leafAccess (part : Accessor) (n : Node)
  | invalidSymbolType
  | operatorNotCallable (op : Value)
  | invalidTermType
  | notConcrete (v : Value)
  | noNames
  | indexNameNotText
  | joinedNames (names : List Value)
  | duplicateNames (names : List Label)
  | rankContradictsShape (name rank : Value) (count : Nat)
  | unsupportedOperand (v : Value)
  | notComposite (part : Accessor) (v : Value)
  | noDeclaredType (v : Value)
  | notIterable (n : Node)
  | invalidAxis (v : Value)
  | negativeLength (n : Int)
  | shapeNotIterable
  | dimensionTooSmall (d : Value)
  | noShape (v : Value)
  | attachToNonNode
  | outputNotSequence
  | booleanOutput
  | invalidOutput (v : Value)
  | reductionNotCallable
  | invalidSource
  | notArrayTyped (v : Value)
  | ruleNotCallable (k : RuleKind)
  | invalidArity (v : Value)
  | elementFunctionNotCallable
  | booleanKey
  | sliceKey
  | invalidKey (v : Value)
  | indexIntoNonArray (v : Value)
  | dimensionNotInt (v : Value)
  | viewOfNonArray (v : Value)

namespace Refusal

/-- Whether the argument has the wrong type or, being of the right one, a wrong value. -/
def kind : Refusal → FaultKind
  | .malformedCode _ | .emptyMessage | .emptyNote | .negativeRank _ | .emptyName | .invalidName _ | .noNames
  | .joinedNames _ | .duplicateNames _ | .rankContradictsShape .. | .negativeLength _ | .dimensionTooSmall _
  | .invalidArity _ => .value
  | _ => .type

def message : Refusal → String
  | .codeNotText => "diagnostic code must be a string or ErrorCode"
  | .malformedCode c => "diagnostic code must be snake_case or UPPER_SNAKE, got " ++ c.repr
  | .emptyMessage => "diagnostic message must be a non-empty string"
  | .helpNotText => "diagnostic help must be a string or None"
  | .noteNotText => "related diagnostics must be tuple[str, ...]"
  | .emptyNote => "related diagnostic note cannot be empty"
  | .dataEntry k => "diagnostic data entries must map str to str, int, or bool: " ++ k.repr
  | .noElementType => "element type cannot be None; use UNKNOWN"
  | .invalidElementType v => "not a valid element type: " ++ v.repr
  | .rankNotInt => "array rank must be an int or UNKNOWN"
  | .negativeRank n => "array rank must be non-negative, got " ++ toString n
  | .nameNotText => "symbol name must be a string"
  | .emptyName => "symbol name cannot be empty"
  | .invalidName l => "symbol name must be a valid identifier: " ++ l.repr
  | .leafAccess part n => part.name ++ " is undefined for leaf node " ++ n.label.repr
  | .invalidSymbolType => "symbol type must be ScalarType or ArrayType"
  | .operatorNotCallable op => "term operator must be callable, got " ++ op.repr
  | .invalidTermType => "term type must be ScalarType or ArrayType"
  | .notConcrete v => "constant of type " ++ quoted v.typeName ++ " is not Array API compatible"
  | .noNames => "index declaration requires at least one name"
  | .indexNameNotText => "index names must be strings"
  | .joinedNames names => "pass index names one per argument: " ++ tupleText (reprAll names)
  | .duplicateNames names => "duplicate index names: [" ++ commaSeparated (names.map Label.repr) ++ "]"
  | .rankContradictsShape name rank count =>
    "array " ++ name.repr ++ " declares ndim=" ++ rank.shown ++ " but its shape has " ++ toString count ++ " axes"
  | .unsupportedOperand v => "unsupported operand of type " ++ quoted v.typeName
  | .notComposite part v => part.name ++ " is undefined for non-composite value " ++ v.repr
  | .noDeclaredType v => "no declared type for value of type " ++ quoted v.typeName
  | .notIterable n => "symbolic node " ++ n.label.repr ++ " is not iterable"
  | .invalidAxis v => "axis must be a range or a non-negative int length, got " ++ v.repr
  | .negativeLength n => "axis length must be non-negative, got " ++ toString n
  | .shapeNotIterable => "shape must be an iterable of ranges or ints"
  | .dimensionTooSmall d => "dimension must be >= 1, got " ++ d.shown
  | .noShape v => "no shape for value of type " ++ quoted v.typeName
  | .attachToNonNode => "shape metadata can only be attached to symbolic nodes"
  | .outputNotSequence => "output indices must be a tuple or list"
  | .booleanOutput => "output indices cannot be booleans"
  | .invalidOutput v => "output indices must be index symbols or int literals, got " ++ v.repr
  | .reductionNotCallable => "reduction operator must be callable"
  | .invalidSource => "source term must be a symbolic node or None"
  | .notArrayTyped v => "operand " ++ v.repr ++ " is not array-typed"
  | .ruleNotCallable k => k.name ++ " rule must be callable"
  | .invalidArity v => "rule arity must be a non-negative int or None, got " ++ v.repr
  | .elementFunctionNotCallable => "elementwise function must be callable"
  | .booleanKey => "boolean index keys are not supported"
  | .sliceKey => "slices are not supported; use arrayop to build sub-arrays"
  | .invalidKey v => "index keys must be index symbols, scalar nodes, or ints, got " ++ v.repr
  | .indexIntoNonArray v => "cannot index non-array value " ++ v.repr
  | .dimensionNotInt v => "dimension must be an int, got " ++ v.repr
  | .viewOfNonArray v => "Arr wraps array-typed symbolic nodes, got " ++ v.repr

end Refusal

inductive Fact where
  | dimensionCount
  | elementType
  | length
  | size
  | axes
  | indexSpace
deriving DecidableEq

namespace Fact

def name : Fact → String
  | .dimensionCount => "dimension count"
  | .elementType => "element type"
  | .length => "length"
  | .size => "size"
  | .axes => "axes"
  | .indexSpace => "index space"

def code : Fact → ErrorCode
  | .dimensionCount => .unknownNdims
  | .elementType => .unknownEltype
  | _ => .unknownShape

end Fact

/-- What inference found to be in conflict, missing or unknown. -/
inductive Conflict where
  /-- Two usages of one index disagree; `array` and `dimension` are those of the later one. -/
  | index (name : Label) (array : Value) (dimension : DataValue) (expected got : Axis)
  /-- An output index is used nowhere in the body. -/
  | unresolved (name : Label) (body : Value)
  /-- Two operands disagree at the 1-based `position` of a broadcast result. -/
  | broadcast (op : Value) (position : Nat) (expected got : Axis)
  /-- The contracted axes of a matrix product disagree. -/
  | contraction (left right : Value) (dimension : Nat) (expected got : Axis)
  /-- A matrix product with a scalar. -/
  | scalarProduct (op : Value) (args : List Value)
  | missingRule (k : RuleKind) (op : Value) (args : List Value)
  /-- A rank rule answered something that is no rank. -/
  | invalidRank (op answer : Value) (args : List Value)
  /-- Rank and shape rule of one operator contradict each other. -/
  | rankContradicted (op : Value) (count rank : Nat) (args : List Value)
  | alreadyAttached (n : Node) (held : ShapeInfo)
  | unknownFact (v : Value) (f : Fact)

namespace Conflict

def applicationData (op : Value) (args : List Value) : List (String × DataValue) :=
  [("operator", .text op.operatorName), ("arity", .int args.length)]

def diagnostic : Conflict → Diagnostic
  | .index name array dimension expected got =>
    { kind := .dimensionMismatch
      code := ErrorCode.dimensionMismatch.text
      message := .ofString ("dimension mismatch: expected axes(" ++ array.render.shown ++ ", " ++ dimension.shown
        ++ ") = " ++ expected.text ++ " for index " ++ name.shown ++ ", got " ++ got.text)
      help := some ("every array indexed by " ++ name.shown ++ " must agree on that axis")
      related := ["index usage"]
      data := [("index", .text name.content), ("array", .text array.render.content), ("dimension", dimension),
        ("expected", .text expected.text), ("got", .text got.text)] }
  | .unresolved name body =>
    { kind := .unresolvedIndex
      code := ErrorCode.unresolvedIndex.text
      message := .ofString ("unresolved index: output index " ++ name.shown ++ " does not occur in "
        ++ body.render.shown)
      help := some "every output index must index some array in the body"
      related := ["output indices"]
      data := [("index", .text name.content)] }
  | .broadcast op position expected got =>
    { kind := .dimensionMismatch
      code := ErrorCode.dimensionMismatch.text
      message := .ofString ("dimension mismatch: cannot broadcast " ++ expected.text ++ " with " ++ got.text ++ " in "
        ++ op.operatorName)
      help := some "broadcast operands must agree on every non-singleton axis"
      related := ["broadcasting"]
      data := [("operator", .text op.operatorName), ("dimension", .int position), ("expected", .text expected.text),
        ("got", .text got.text)] }
  | .contraction left right dimension expected got =>
    { kind := .dimensionMismatch
      code := ErrorCode.dimensionMismatch.text
      message := .ofString ("dimension mismatch: contracted axes of " ++ left.render.shown ++ " and "
        ++ right.render.shown ++ " differ (" ++ expected.text ++ " vs " ++ got.text ++ ")")
      help := some "the last axis of the left operand must match the contracted axis of the right operand"
      related := ["matmul rule"]
      data := [("array", .text right.render.content), ("dimension", .int dimension),
        ("expected", .text expected.text), ("got", .text got.text)] }
  | .scalarProduct op args =>
    { kind := .propagation
      code := ErrorCode.unsupportedOperands.text
      message := .ofString ("unsupported operands for " ++ op.describeApplication args
        ++ ": scalars not allowed as arguments")
      related := [op.operatorName ++ " rule"]
      data := applicationData op args }
  | .missingRule .ndims op args =>
    { kind := .propagation
      code := ErrorCode.missingNdimsRule.text
      message := .ofString ("could not determine the output dimension of " ++ op.describeApplication args)
      help := some ("register a dimension-count rule for " ++ op.operatorName)
      related := ["propagation registry"]
      data := applicationData op args }
  | .missingRule .shape op args =>
    { kind := .propagation
      code := ErrorCode.missingShapeRule.text
      message := .ofString ("don't know how to propagate shape for " ++ op.describeApplication args)
      help := some ("register a shape rule for " ++ op.operatorName)
      related := ["propagation registry"]
      data := applicationData op args }
  | .invalidRank op answer args =>
    { kind := .propagation
      code := ErrorCode.invalidNdims.text
      message := .ofString ("dimension-count rule for " ++ op.operatorName ++ " returned " ++ answer.repr ++ " for "
        ++ op.describeApplication args ++ "; expected a non-negative int")
      help := some "operand ranks must be known for dimension-count propagation"
      related := ["propagation registry"]
      data := applicationData op args }
  | .rankContradicted op count rank args =>
    { kind := .propagation
      code := ErrorCode.invalidNdims.text
      message := .ofString ("shape rule for " ++ op.operatorName ++ " produced " ++ toString count
        ++ " axes but the dimension count is " ++ toString rank ++ " for " ++ op.describeApplication args)
      related := ["propagation registry"]
      data := applicationData op args }
  | .alreadyAttached n held =>
    { kind := .shapeMetadata
      code := ErrorCode.shapeAlreadyAttached.text
      message := .ofString ("shape already attached: " ++ n.text ++ " already carries " ++ shapeInfoText held)
      help := some "shape metadata is written once, when the node is built"
      related := ["shape metadata"]
      data := [("node", .text n.label.content)] }
  | .unknownFact v f =>
    { kind := .unknownQuery
      code := f.code.text
      message := .ofString (f.name ++ " unknown for " ++ v.render.shown)
      help := some "check the inferred value for UNKNOWN before querying it"
      related := ["array query"]
      data := [("node", .text v.render.content)] }

end Conflict

inductive Fault where
  | slip (k : FaultKind)
  | refusal (r : Refusal)
  | conflict (c : Conflict)

namespace Fault

/-- What went wrong along one line of thought: a mismatched type without further wording. -/
def typeSlip : Fault := .slip .type

def overflow : Fault := .slip .overflow

def isOfType : Fault → Bool
  | .slip k => k == .type
  | .refusal r => r.kind == .type
  | .conflict _ => false

end Fault

end ArrayTyping

import ArrayTyping.Text.Blank
import ArrayTyping.Text.Identifier
import ArrayTyping.Typing
/-!
# Construction — symbols, constants and attached shapes

A name is checked when its symbol is made.  Array symbols and constants get their shape on the spot; a shape can be
attached to any node once, by whoever comes first.
-/
namespace ArrayTyping

namespace Build

def attach (n : Node) (s : ShapeInfo) : Build ShapeInfo := do
  match (← slots).get? n.id with
  | some held => throw (.conflict (.alreadyAttached n held))
  | none =>
    let s ← keeping (s.mapM Shape.kept)
    modify fun st => { st with slots := st.slots.insert n.id s }
    record (.attached s n)
    return s

def attachShape (v spec : Value) : Build ShapeInfo :=
  match v with
  | .node n => do attach n (← spec.toShapeInfo)
  | _ => refuse .attachToNonNode

def symbolName (v : Value) : Except Fault Label :=
  match v.label? with
  | none => .error (.refusal .nameNotText)
  | some l =>
    if l.content.isEmpty then .error (.refusal .emptyName)
    else if isIdentifier l.content then .ok l
    else .error (.refusal (.invalidName l))

def namedSymbol (name : Label) (t : DeclaredType) (typeMark : Mark) : Build Symbol := do
  let id ← fresh
  keeping do return ⟨id, ← name.kept, ← t.kept, ← Mark.given typeMark⟩

def symbol (name : Value) (t : DeclaredType) : Build Symbol := do namedSymbol (← symbolName name) t Mark.unmarked

def rawSymbol (name type : Value) : Build Symbol := do
  let l ← symbolName name
  match type with
  | .type t m => namedSymbol l t m
  | _ => refuse .invalidSymbolType

def distinctNames (names : List Label) : List Label :=
  names.foldl (fun seen l => if seen.any l.same then seen else seen ++ [l]) []

/-- The names that occur more than once, each as it was first written. -/
def repeatedNames (names : List Label) : List Label :=
  (distinctNames names).filter fun l => decide (1 < names.countP l.same)

/-- Refuses index names that are not single and distinct texts. -/
def checkIndexNames (names : List Value) : Except Fault Unit := do
  if names.isEmpty then throw (.refusal .noNames)
  match names.mapM Value.label? with
  | none => throw (.refusal .indexNameNotText)
  | some labels =>
    if labels.any fun l => decide (1 < (words l.content).length) then throw (.refusal (.joinedNames names))
    let repeated := repeatedNames labels
    if !repeated.isEmpty then throw (.refusal (.duplicateNames repeated))

def indexSymbols (names : List Value) : Build (List Symbol) := do
  checkIndexNames names
  names.mapM fun name => symbol name (.scalar (some .index))

def scalarSymbol (name dtype : Value) : Build Symbol := do
  symbol name (.scalar (← dtype.toElementType))

/-- The shape and the rank an array symbol declares; without a shape the rank may stay free. -/
def declaredShape (name shape rank : Value) : Except Fault (ShapeInfo × Value) := do
  match shape with
  | .none => return (none, match rank with | .none => .unknown | r => r)
  | spec =>
    let s ← spec.toShape
    match rank with
    | .none | .unknown => return (some s, .ofInt s.rank)
    | r =>
      if r.equals false (.ofInt s.rank) then return (some s, .ofInt s.rank)
      else throw (.refusal (.rankContradictsShape name r s.rank))

def arraySymbol (name shape dtype rank container : Value) : Build Symbol := do
  let (s, n) ← declaredShape name shape rank
  let t ← DeclaredType.ofParts container dtype n
  let symbol ← symbol name t
  let _ ← attach (.symbol symbol) s
  return symbol

def constantOf (d : Datum) : Build Node := do return .constant (← fresh) d (← fresh)

def rawConstant (v : Value) : Build Node :=
  match v with
  | .array a => constantOf (.array a)
  | .scalar s m => constantOf (.scalar s m)
  | v => refuse (.notConcrete v)

def constant (v : Value) : Build Node := do
  let n ← rawConstant v
  let s ← shapeOf v
  let _ ← attach n s
  return n

/-- The operand a value stands for: nodes and literals as they are, concrete arrays as constants. -/
def operand (v : Value) : Build Value :=
  match v with
  | .node n => return .node n
  | .array a => do return .node (← constant (.array a))
  | v => if v.isScalarLiteral then return v else refuse (.unsupportedOperand v)

def application (f : Callable) (args : List Value) (argsMark : Mark) (t : DeclaredType) (typeMark : Mark) :
    Build Node := do
  let id ← fresh
  keeping do
    return .term id (← f.kept) (← keptAll args) (← Mark.given argsMark) (← t.kept) (← Mark.given typeMark)

def term (op : Value) (args : List Value) (t : DeclaredType) : Build Node :=
  match op.callable? with
  | some f => application f args Mark.unmarked t Mark.unmarked
  | none => refuse (.operatorNotCallable op)

/-- The mark of the tuple that a sequence of operands becomes: a tuple stays the same one. -/
def operandsMark : Value → Mark
  | .tuple _ m => m
  | _ => Mark.unmarked

def rawTerm (op args type : Value) : Build Node := do
  match op.callable? with
  | none => refuse (.operatorNotCallable op)
  | some f =>
    let items ← args.iterate
    match type with
    | .type t m => application f items (operandsMark args) t m
    | _ => refuse .invalidTermType

end Build

end ArrayTyping

import ArrayTyping.Sequence
import ArrayTyping.Value.Equality
/-!
# Gathering — the array that nested sequences stand for

Next to an array a sequence counts as the array of its items.  The items all need the same lengths, and numbers of
several types are raised to the one that holds them all.  Whatever is no sequence counts as a single element.
-/
namespace ArrayTyping

/-- The values of an array in the making, and its lengths. -/
structure Gathered where
  lengths : List Nat
  items : List Value

namespace Gathered

def stack : List Gathered → Except Fault Gathered
  | [] => .ok ⟨[0], []⟩
  | p :: ps =>
    if ps.all fun q => q.lengths == p.lengths then .ok ⟨(ps.length + 1) :: p.lengths, (p :: ps).flatMap items⟩
    else .error (.slip .value)

/-- An axis as the array of its indices, of which the first stands for all. -/
def ofAxis (a : Axis) : Except Fault Gathered := do return ⟨[a.length], ← a.items (some 1)⟩

def ownItem (x : NumericOperand) : Dtype.Item := .strong (Dtype.ofItems [x.item])

/-- One element of the array: a number in the joint type, or the first value that is no number. -/
def element (g : Gathered) : Value :=
  match g.items.mapM Value.numericOperand? with
  | none => (g.items.find? fun v => !v.isScalarLiteral).getD .none
  | some [] => .ofScalar ⟨.float .double, .float 0.0⟩
  | some (x :: xs) =>
    match (Dtype.ofItems ((x :: xs).map ownItem)).numeric? with
    | some t =>
      match TypedScalar.ofNumber? t x.number with
      | some s => .ofScalar s
      | none => .ofNumber x.number
    | none => .ofNumber x.number

end Gathered

mutual

def Value.gathered : Value → Except Fault Gathered
  | .list items _ => do Gathered.stack (← gatheredAll items)
  | .tuple items _ => do Gathered.stack (← gatheredAll items)
  | .range a => Gathered.ofAxis a
  | .shape s => do Gathered.stack (← s.axes.mapM Gathered.ofAxis)
  | .array a => .ok (if a.isLazy then ⟨[], [.array a]⟩ else ⟨a.lengths, [a.element]⟩)
  | v => .ok ⟨[], [v]⟩
termination_by structural v => v

def gatheredAll : List Value → Except Fault (List Gathered)
  | [] => .ok []
  | v :: vs => do return (← v.gathered) :: (← gatheredAll vs)
termination_by structural vs => vs

end

namespace Value

def isNested : Value → Bool
  | .list _ _ => true
  | .tuple _ _ => true
  | .range _ => true
  | .shape _ => true
  | _ => false

/-- The lengths and one element of an operand; what is no sequence and no array has no dimensions and stays as it is. -/
def elements (v : Value) : Except Fault (List Nat × Value) :=
  match v with
  | .array a => .ok (if a.isLazy then ([], v) else (a.lengths, a.element))
  | v => if v.isNested then do
      let g ← v.gathered
      return (g.lengths, g.element)
    else .ok ([], v)

end Value

namespace ConcreteArray

def ofElement (lengths : List Nat) (element : Value) : ConcreteArray :=
  let eltype : Dtype :=
    match element with
    | .scalar s _ => .native s.type
    | _ => .object
  ⟨Mark.unmarked, lengths.map fun (n : Nat) => some (n : Int), some eltype, .filled ((element.number?).getD (.int 0))⟩

def transposed : Value → Except Fault ConcreteArray
  | .array a => .ok (if a.isLazy then ofElement [] .none else a.withDims a.dims.reverse)
  | v => do
    let g ← v.gathered
    return ofElement g.lengths.reverse g.element

end ConcreteArray

end ArrayTyping

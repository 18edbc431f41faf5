import ArrayTyping.Gathering
/-!
# Arithmetic — signs between literals, concrete arrays and sequences

Literals are computed on the spot, in a promoted type as soon as one of them has a type of its own.  Concrete arrays
stretch to common lengths and are computed number by number; what remains without dimensions is a number again.
Sequences are joined by a sum and repeated by a product with an integer.
-/
namespace ArrayTyping

namespace ArithmeticFault

def toFault : ArithmeticFault → Fault
  | .unsupported => .typeSlip
  | .overflow => .overflow
  | .zeroDivision => .slip .zeroDivision
  | .negativePower => .slip .value

end ArithmeticFault

namespace Primitive

def operation? : Primitive → Option Operation
  | .add => some .add
  | .sub => some .sub
  | .mul => some .mul
  | .truediv => some .div
  | .floordiv => some .floorDiv
  | .mod => some .mod
  | .pow => some .pow
  | _ => none

end Primitive

namespace Literal

def computed {α : Type} (toValue : α → Value) : Except ArithmeticFault α → Except Fault Value
  | .ok a => .ok (toValue a)
  | .error e => .error e.toFault

def operate (op : Operation) (v w : Value) : Except Fault Value :=
  if v.isTypedScalar || w.isTypedScalar then
    match v.numericOperand?, w.numericOperand? with
    | some a, some b => computed .ofScalar (TypedScalar.operate op a b)
    | _, _ => .error .typeSlip
  else
    match v.number?, w.number? with
    | some n, some m => computed .ofNumber (n.operate op m)
    | _, _ => .error .typeSlip

/-- A literal with a sign in front, or its magnitude.  What stays as it is, is the same one again. -/
def signed (p : Primitive) (v : Value) : Except Fault Value :=
  match p, v, v.number? with
  | .neg, .scalar s _, _ => computed .ofScalar s.neg
  | .pos, .scalar s _, _ => computed .ofScalar s.pos
  | .abs, .scalar s _, _ => .ok (.ofScalar s.abs)
  | .neg, _, some n => .ok (.ofNumber n.neg)
  | .pos, .bool _, some n => .ok (.ofNumber n)
  | .pos, v, some _ => .ok v
  | .abs, .int n m, _ => .ok (if 0 ≤ n then .int n m else .ofInt (-n))
  | .abs, _, some n => computed .ofNumber n.abs
  | _, _, _ => .error .typeSlip

end Literal

def commonLength? (n m : Nat) : Option Nat :=
  if n = m ∨ m = 1 then some n else if n = 1 then some m else none

def commonLengthsFromEnd? : List Nat → List Nat → Option (List Nat)
  | [], ms => some ms
  | ns, [] => some ns
  | n :: ns, m :: ms => do return (← commonLength? n m) :: (← commonLengthsFromEnd? ns ms)

def commonLengths (ns ms : List Nat) : Except Fault (List Nat) :=
  match commonLengthsFromEnd? ns.reverse ms.reverse with
  | some lengths => .ok lengths.reverse
  | none => .error (.slip .value)

namespace ConcreteArray

def filled (lengths : List Nat) (element : Value) : Value :=
  if lengths.isEmpty then element else .array (ofElement lengths element)

def zip (f : Value → Value → Except Fault Value) (v w : Value) : Except Fault Value := do
  let (ns, a) ← v.elements
  let (ms, b) ← w.elements
  let lengths ← commonLengths ns ms
  return filled lengths (← f a b)

def map (f : Value → Except Fault Value) (v : Value) : Except Fault Value := do
  let (lengths, a) ← v.elements
  return filled lengths (← f a)

def multiple (count : Nat) : Value → Value
  | .scalar s _ =>
    .ofScalar <| match s.type, s.number with
      | .bool, n => .ofBool (count != 0 && n.isNonzero)
      | .float p, .float x => .ofFloat p (if count = 0 then 0.0 else x * count.toFloat)
      | .complex p, .complex re im =>
        .ofParts p (if count = 0 then (0.0, 0.0) else (re * count.toFloat, im * count.toFloat))
      | t, .int n => .ofWrapped t (n * count)
      | _, _ => s
  | v => v

def productLengths (ns ms : List Nat) : Except Fault (List Nat × Nat) :=
  let split (lengths : List Nat) : List Nat × List Nat :=
    (lengths.take (lengths.length - 2), lengths.drop (lengths.length - 2))
  let (stackL, coreL) := split ns
  let (stackR, coreR) := split ms
  let product (inner other : Nat) (rest : List Nat) : Except Fault (List Nat × Nat) :=
    if inner = other then do return ((← commonLengths stackL stackR) ++ rest, inner) else .error (.slip .value)
  match coreL, coreR with
  | [k], [l] => product k l []
  | [k], [l, m] => product k l [m]
  | [n, k], [l] => product k l [n]
  | [n, k], [l, m] => product k l [n, m]
  | _, _ => .error (.slip .value)

/-- The matrix product of two arrays, which both need a dimension; texts have none. -/
def matmul (v w : Value) : Except Fault Value := do
  let (ns, a) ← v.elements
  let (ms, b) ← w.elements
  if a.text?.isSome || b.text?.isSome then throw .typeSlip
  let (lengths, count) ← productLengths ns ms
  return filled lengths (multiple count (← Literal.operate .mul a b))

end ConcreteArray

namespace Arithmetic

def repetition (v w : Value) : Except Fault Value :=
  if Sequence.isRepeatable v then
    match w.position? with
    | some n => Sequence.repeated v n
    | none => .error .typeSlip
  else
    match v.position? with
    | some n => Sequence.repeated w n
    | none => .error .typeSlip

/-- Whether a sign between two values is computed element by element: next to an array always, next to a number in a
type of its own unless it counts the repetitions of a sequence. -/
def isByElement (op : Operation) (v w : Value) : Bool :=
  v.isConcreteArray || w.isConcreteArray
    || ((v.isTypedScalar || w.isTypedScalar)
      && !(op == .mul && (Sequence.isRepeatable v || Sequence.isRepeatable w)))

/-- A sign between two values neither of which is a node or a view. -/
def binary (p : Primitive) (v w : Value) : Except Fault Value :=
  match p.operation? with
  | some op =>
    if v.isScalarLiteral && w.isScalarLiteral then Literal.operate op v w
    else if isByElement op v w then ConcreteArray.zip (Literal.operate op) v w
    else
      match op with
      | .add => Sequence.joined v w
      | .mul => repetition v w
      | _ => .error .typeSlip
  | none =>
    if p = .matmul && (v.isConcreteArray || w.isConcreteArray) then ConcreteArray.matmul v w else .error .typeSlip

def unary (p : Primitive) (v : Value) : Except Fault Value :=
  if v.isConcreteArray then ConcreteArray.map (Literal.signed p) v else Literal.signed p v

end Arithmetic

end ArrayTyping

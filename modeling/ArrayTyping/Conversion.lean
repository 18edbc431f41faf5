import ArrayTyping.Measure
import ArrayTyping.Number.Reading
/-!
# Conversion — the member of a literal family that a value stands for

A number becomes the nearest one of the family, a text is read, and an array without dimensions gives its number.  A
value that is already of the family is the same one again.
-/
namespace ArrayTyping

namespace Conversion

/-- The number that a value converts from: a literal, or the one number of an array without dimensions. -/
def source : Value → Value
  | .array a => if !a.isLazy && a.dims.isEmpty then a.element else .array a
  | v => v

/-- A number in a type of its own gives its real part where a real number is called for. -/
def realPart : Value → Option Number
  | .complex _ _ _ => none
  | .scalar s _ =>
    match s.number with
    | .complex re _ => some (.float re)
    | n => some n
  | v => v.number?

def wholePart : Number → Except Fault Int
  | .int n => .ok n
  | .float x =>
    match Number.truncate? x with
    | some n => .ok n
    | none => .error (if x.isNaN then .slip .value else .overflow)
  | .complex _ _ => .error .typeSlip

def read {α : Type} (toValue : α → Value) : Option α → Except Fault Value
  | some a => .ok (toValue a)
  | none => .error (.slip .value)

def toInt (v : Value) : Except Fault Value :=
  match source v with
  | .int n m => .ok (.int n m)
  | v =>
    match realPart v, v.text? with
    | some n, _ => do return .ofInt (← wholePart n)
    | none, some s => read .ofInt (readInt? s)
    | none, none => .error .typeSlip

/-- The integer that a text stands for in a base: zero, or one from two to thirty-six. -/
def toIntIn (v base : Value) : Except Fault Value :=
  match base.position?, v.text? with
  | none, _ => .error .typeSlip
  | some b, text? =>
    if b < 0 ∨ b = 1 ∨ 36 < b then .error (.slip .value)
    else
      match text? with
      | some s => read .ofInt (readIntIn? b.toNat s)
      | none => .error .typeSlip

def toFloat (v : Value) : Except Fault Value :=
  match source v with
  | .float x m => .ok (.float x m)
  | v =>
    match realPart v, v.text? with
    | some n, _ =>
      match n.toFloat? with
      | some x => .ok (.ofNumber (.float x))
      | none => .error .overflow
    | none, some s => read (fun x => .ofNumber (.float x)) (readFloat? s)
    | none, none => .error .typeSlip

def toParts (v : Value) : Except Fault (Parts × Bool) :=
  match (source v).number? with
  | none => .error .typeSlip
  | some n =>
    match n.parts? with
    | some z => .ok (z, n.isComplex)
    | none => .error .overflow

def toComplex (v : Value) : Except Fault Value :=
  match v, v.text? with
  | .complex re im m, _ => .ok (.complex re im m)
  | _, some s => read (fun z => .ofNumber (.complex z.1 z.2)) (readComplex? s)
  | v, none => do
    let (z, _) ← toParts v
    return .ofNumber (.complex z.1 z.2)

/-- The complex number with the given parts, which may be complex themselves. -/
def ofParts (v w : Value) : Except Fault Value := do
  let (a, complexL) ← toParts v
  let (b, complexR) ← toParts w
  let re := if complexR then a.1 - b.2 else a.1
  let im := if complexL then b.1 + a.2 else b.1
  return .ofNumber (.complex re im)

def call (slots : Slots) (f : Family) (args : List Value) : Except Fault Value :=
  match f, args with
  | .bool, [] => .ok (.bool false)
  | .bool, [v] => do return .bool (← v.truth slots)
  | .int, [] => .ok (.ofInt 0)
  | .int, [v] => toInt v
  | .int, [v, base] => toIntIn v base
  | .float, [] => .ok (.ofNumber (.float 0.0))
  | .float, [v] => toFloat v
  | .complex, [] => .ok (.ofNumber (.complex 0.0 0.0))
  | .complex, [v] => toComplex v
  | .complex, [v, w] => ofParts v w
  | _, _ => .error .typeSlip

end Conversion

end ArrayTyping

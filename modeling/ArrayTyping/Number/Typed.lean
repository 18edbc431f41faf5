import ArrayTyping.Dtype.Promotion
import ArrayTyping.Number.Arithmetic
/-!
# Typed — arithmetic inside a numeric type

An operation on numbers of which one has a type of its own is carried out in the promoted type.  Integers wrap around
the bounds of their type, floating-point numbers are rounded to their precision, and a division by zero has a result.
A literal takes the type it meets, but an integer literal has to fit.
-/
namespace ArrayTyping

/-- An operand of typed arithmetic: a number in its type, or a literal without one. -/
inductive NumericOperand where
  | typed (s : TypedScalar)
  | literal (n : Number)

def powerModulo (modulus base exponent : Nat) : Nat :=
  if exponent = 0 then 1 % modulus
  else
    let rest := powerModulo modulus (base * base % modulus) (exponent / 2)
    if exponent % 2 = 1 then rest * base % modulus else rest
termination_by exponent

namespace NumericOperand

def item : NumericOperand → Dtype.Item
  | .typed s => .strong (.native s.type)
  | .literal (.int n) => .weakInt n
  | .literal (.float _) => .weakFloat
  | .literal (.complex _ _) => .weakComplex

def number : NumericOperand → Number
  | .typed s => s.number
  | .literal n => n

def jointType (operands : List NumericOperand) : Numeric :=
  ((Dtype.ofItems (operands.map item)).numeric?).getD (.float .double)

def inType (t : Numeric) (x : NumericOperand) : Except ArithmeticFault Number :=
  match TypedScalar.ofNumber? t x.number with
  | some s => .ok s.number
  | none => .error .overflow

/-- Whether two operands are the same number in the type of an operation on them; integers compare exactly. -/
def equal (a b : NumericOperand) : Bool :=
  match a.number, b.number with
  | .int n, .int m => n == m
  | x, y =>
    let t := jointType [a, b]
    match a.inType t, b.inType t with
    | .ok n, .ok m => n.equal m
    | _, _ => x.equal y

end NumericOperand

namespace TypedScalar

/-- An integer wrapped around the bounds of its type. -/
def ofWrapped (t : Numeric) (n : Int) : TypedScalar :=
  match t with
  | .signed w => ⟨t, .int (n.bmod (Nat.pow 2 (8 * w.bytes)))⟩
  | .unsigned w => ⟨t, .int (n % Int.pow 2 (8 * w.bytes))⟩
  | t => ⟨t, .int n⟩

def ofFloat (p : Precision) (x : Float) : TypedScalar := ⟨.float p, .float (Number.roundTo p.format x)⟩

def ofParts (p : ComplexPrecision) (z : Parts) : TypedScalar :=
  ⟨.complex p, .complex (Number.roundTo p.part.format z.1) (Number.roundTo p.part.format z.2)⟩

def bits : Numeric → Nat
  | .signed w => 8 * w.bytes
  | .unsigned w => 8 * w.bytes
  | _ => 64

/-- The nearest double-precision number to an integer of a type. -/
def nearest (n : Int) : Float := (Number.ofInt? n).getD Number.infinity

def onInts (op : Operation) (t : Numeric) (n m : Int) : Except ArithmeticFault TypedScalar :=
  match op with
  | .add => .ok (ofWrapped t (n + m))
  | .sub => .ok (ofWrapped t (n - m))
  | .mul => .ok (ofWrapped t (n * m))
  | .div => .ok (ofFloat .double (nearest n / nearest m))
  | .floorDiv => .ok (ofWrapped t (if m = 0 then 0 else n.fdiv m))
  | .mod => .ok (ofWrapped t (if m = 0 then 0 else n.fmod m))
  | .pow =>
    if m < 0 then .error .negativePower
    else
      let modulus := Nat.pow 2 (bits t)
      .ok (ofWrapped t (powerModulo modulus (n % modulus).toNat m.toNat))

/-- An operation on truth values: a sum is a disjunction, a product a conjunction, and there is no difference.  All
else counts them as small integers. -/
def onBools (op : Operation) (a b : Bool) : Except ArithmeticFault TypedScalar :=
  match op with
  | .add => .ok (ofBool (a || b))
  | .mul => .ok (ofBool (a && b))
  | .sub => .error .unsupported
  | op => onInts op (.signed .one) (if a then 1 else 0) (if b then 1 else 0)

/-- An operation on floating-point numbers, with a result also for a divisor of zero. -/
def onFloats (op : Operation) (p : Precision) (x y : Float) : TypedScalar :=
  ofFloat p <|
    match op with
    | .add => x + y
    | .sub => x - y
    | .mul => x * y
    | .div => x / y
    | .floorDiv => if y == 0.0 then x / y else Number.floorQuotient x y
    | .mod => if y == 0.0 then Number.nan else (Number.floorRemainder x y).1
    | .pow => x.pow y

def divideParts (a b : Parts) : Parts :=
  if b.2.abs ≤ b.1.abs then
    if b.isZero then (a.1 / b.1.abs, a.2 / b.1.abs)
    else
      let ratio := b.2 / b.1
      let scale := 1.0 / (b.1 + b.2 * ratio)
      ((a.1 + a.2 * ratio) * scale, (a.2 - a.1 * ratio) * scale)
  else
    let ratio := b.1 / b.2
    let scale := 1.0 / (b.2 + b.1 * ratio)
    ((a.1 * ratio + a.2) * scale, (a.2 * ratio - a.1) * scale)

def powerParts (a b : Parts) : Parts :=
  if b.isZero then (1.0, 0.0)
  else if a.isZero then if 0.0 < b.1 && b.2 == 0.0 then (0.0, 0.0) else (Number.nan, Number.nan)
  else
    match Parts.smallExponent? 99 b with
    | some n =>
      if n < 0 then divideParts (1.0, 0.0) (a.natPower n.natAbs)
      else if n = 1 then a
      else a.natPower n.toNat
    | none =>
      let (length, phase) := a.polarPower b
      .ofPolar length phase

def onParts (op : Operation) (p : ComplexPrecision) (a b : Parts) : Except ArithmeticFault TypedScalar :=
  match op with
  | .add => .ok (ofParts p (a.add b))
  | .sub => .ok (ofParts p (a.sub b))
  | .mul => .ok (ofParts p (a.mul b))
  | .div => .ok (ofParts p (divideParts a b))
  | .pow => .ok (ofParts p (powerParts a b))
  | .floorDiv | .mod => .error .unsupported

def operate (op : Operation) (a b : NumericOperand) : Except ArithmeticFault TypedScalar := do
  let t := NumericOperand.jointType [a, b]
  let x ← a.inType t
  let y ← b.inType t
  match t, x, y with
  | .bool, x, y => onBools op x.isNonzero y.isNonzero
  | .float p, .float x, .float y => return onFloats op p x y
  | .complex p, .complex a b, .complex c d => onParts op p (a, b) (c, d)
  | t, .int n, .int m => onInts op t n m
  | _, _, _ => throw .unsupported

def neg (s : TypedScalar) : Except ArithmeticFault TypedScalar :=
  match s.type, s.number with
  | .bool, _ => .error .unsupported
  | t, .int n => .ok (ofWrapped t (-n))
  | t, n => .ok ⟨t, n.neg⟩

def pos (s : TypedScalar) : Except ArithmeticFault TypedScalar :=
  if s.type = .bool then .error .unsupported else .ok s

def abs (s : TypedScalar) : TypedScalar :=
  match s.type, s.number with
  | .complex p, .complex re im => ofFloat p.part (Number.hypot re im)
  | t, .int n => if t = .bool then s else ofWrapped t n.natAbs
  | t, .float x => ⟨t, .float x.abs⟩
  | _, _ => s

end TypedScalar

end ArrayTyping

import ArrayTyping.Number
import ArrayTyping.Number.Root
/-!
# Arithmetic — sums, products, quotients and powers of numbers

Integers are exact; a quotient of integers is the nearest floating-point number.  Whole quotients round down, and a
remainder has the sign of the divisor.  A power of a negative number to a fraction is complex.
-/
namespace ArrayTyping

inductive Operation where
  | add
  | sub
  | mul
  | div
  | floorDiv
  | mod
  | pow
deriving DecidableEq

inductive ArithmeticFault where
  | unsupported
  | overflow
  | zeroDivision
  | negativePower
deriving DecidableEq

abbrev Parts := Float × Float

namespace Parts

def add (a b : Parts) : Parts := (a.1 + b.1, a.2 + b.2)

def sub (a b : Parts) : Parts := (a.1 - b.1, a.2 - b.2)

def mul (a b : Parts) : Parts := (a.1 * b.1 - a.2 * b.2, a.1 * b.2 + a.2 * b.1)

/-- A quotient, scaled by the larger part of the divisor. -/
def div (a b : Parts) : Parts :=
  if b.2.abs ≤ b.1.abs then
    let ratio := b.2 / b.1
    let denominator := b.1 + b.2 * ratio
    ((a.1 + a.2 * ratio) / denominator, (a.2 - a.1 * ratio) / denominator)
  else
    let ratio := b.1 / b.2
    let denominator := b.1 * ratio + b.2
    ((a.1 * ratio + a.2) / denominator, (a.2 * ratio - a.1) / denominator)

def isZero (a : Parts) : Bool := a.1 == 0.0 && a.2 == 0.0

/-- The power to a natural number: `square` is the base squared as often as bits of the exponent have been read, and
`result` the product of those that were set. -/
def powerFrom (exponent : Nat) (square result : Parts) : Parts :=
  if exponent = 0 then result
  else powerFrom (exponent / 2) (mul square square) (if exponent % 2 = 1 then mul result square else result)
termination_by exponent

def natPower (a : Parts) (exponent : Nat) : Parts := powerFrom exponent a (1.0, 0.0)

/-- The length and the angle of the power by magnitude and angle. -/
def polarPower (a b : Parts) : Float × Float :=
  let size := Number.hypot a.1 a.2
  let angle := Float.atan2 a.2 a.1
  let length := size.pow b.1
  let phase := angle * b.1
  if b.2 == 0.0 then (length, phase) else (length / (angle * b.2).exp, phase + b.2 * size.log)

def ofPolar (length phase : Float) : Parts := (length * phase.cos, length * phase.sin)

/-- The whole number an exponent is, if it is one of at most `limit` either way. -/
def smallExponent? (limit : Nat) (b : Parts) : Option Int :=
  if b.2 == 0.0 then (Number.toInt? b.1).filter fun n => decide (n.natAbs ≤ limit) else none

def bounded (z : Parts) : Except ArithmeticFault Parts :=
  if z.1.isInf || z.2.isInf then .error .overflow else .ok z

/-- The power of complex numbers; zero has no negative or complex ones, and there is none at an infinite angle. -/
def pow (a b : Parts) : Except ArithmeticFault Parts :=
  match smallExponent? 100 b with
  | some n =>
    let z := natPower a n.natAbs
    if 0 < n then bounded z
    else if z.isZero then .error .zeroDivision
    else bounded (div (1.0, 0.0) z)
  | none =>
    if a.isZero then if b.2 != 0.0 || b.1 < 0.0 then .error .zeroDivision else .ok (0.0, 0.0)
    else
      let (length, phase) := polarPower a b
      if phase.isInf then .error .zeroDivision else bounded (ofPolar length phase)

end Parts

namespace Number

def quotient (n d : Nat) : Float :=
  let shift := 66 + d.log2 - n.log2
  let scaled := n * Nat.pow 2 shift
  let sticky := if scaled % d = 0 then 0 else 1
  ((Dyadic.mk (2 * (scaled / d) + sticky) (-(shift + 1 : Nat))).round .double).toFloat

def divideInts (n d : Int) : Except ArithmeticFault Float :=
  if d = 0 then .error .zeroDivision
  else
    let q := quotient n.natAbs d.natAbs
    if q.isInf then .error .overflow else .ok (if (n < 0) != (d < 0) then -q else q)

def isComplex : Number → Bool
  | .complex _ _ => true
  | _ => false

/-- The power of floating-point numbers: zero has no negative ones, and a fraction of a negative number is complex. -/
def powFloat (x y : Float) : Except ArithmeticFault Number :=
  if x == 0.0 && y < 0.0 && y.isFinite then .error .zeroDivision
  else if x < 0.0 && (toInt? y).isNone && y.isFinite && x.isFinite then do
    let z ← Parts.pow (x, 0.0) (y, 0.0)
    return .complex z.1 z.2
  else
    let r := x.pow y
    if r.isInf && x.isFinite && y.isFinite then .error .overflow else .ok (.float r)

def onInts (op : Operation) (n m : Int) : Except ArithmeticFault Number :=
  match op with
  | .add => .ok (.int (n + m))
  | .sub => .ok (.int (n - m))
  | .mul => .ok (.int (n * m))
  | .div => (divideInts n m).map .float
  | .floorDiv => if m = 0 then .error .zeroDivision else .ok (.int (n.fdiv m))
  | .mod => if m = 0 then .error .zeroDivision else .ok (.int (n.fmod m))
  | .pow =>
    if 0 ≤ m then .ok (.int (n.pow m.toNat))
    else
      match ofInt? n, ofInt? m with
      | some x, some y => powFloat x y
      | _, _ => .error .overflow

def onFloats (op : Operation) (x y : Float) : Except ArithmeticFault Number :=
  match op with
  | .add => .ok (.float (x + y))
  | .sub => .ok (.float (x - y))
  | .mul => .ok (.float (x * y))
  | .div => if y == 0.0 then .error .zeroDivision else .ok (.float (x / y))
  | .floorDiv => if y == 0.0 then .error .zeroDivision else .ok (.float (floorQuotient x y))
  | .mod => if y == 0.0 then .error .zeroDivision else .ok (.float (floorRemainder x y).1)
  | .pow => powFloat x y

def onParts (op : Operation) (a b : Parts) : Except ArithmeticFault Parts :=
  match op with
  | .add => .ok (a.add b)
  | .sub => .ok (a.sub b)
  | .mul => .ok (a.mul b)
  | .div => if b.isZero then .error .zeroDivision else .ok (a.div b)
  | .floorDiv | .mod => .error .unsupported
  | .pow => a.pow b

/-- An operation on two numbers in the simplest form that holds both. -/
def operate (op : Operation) (a b : Number) : Except ArithmeticFault Number :=
  match a, b with
  | .int n, .int m => onInts op n m
  | a, b =>
    if a.isComplex || b.isComplex then
      if op = .floorDiv ∨ op = .mod then .error .unsupported
      else
        match a.parts?, b.parts? with
        | some x, some y => do
          let z ← onParts op x y
          return .complex z.1 z.2
        | _, _ => .error .overflow
    else
      match a.toFloat?, b.toFloat? with
      | some x, some y => onFloats op x y
      | _, _ => .error .overflow

def neg : Number → Number
  | .int n => .int (-n)
  | .float x => .float (-x)
  | .complex re im => .complex (-re) (-im)

def abs : Number → Except ArithmeticFault Number
  | .int n => .ok (.int n.natAbs)
  | .float x => .ok (.float x.abs)
  | .complex re im =>
    let r := hypot re im
    if r.isInf && re.isFinite && im.isFinite then .error .overflow else .ok (.float r)

end Number

end ArrayTyping

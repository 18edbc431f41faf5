/-!
# Dyadic — floating-point numbers as exact values

A finite number is `mantissa * 2 ^ exponent` with a sign.  Exact values compare with integers without rounding, and a
value is carried to a narrower binary format by rounding to its grid, a half to the even neighbour.
-/
namespace ArrayTyping

/-- A magnitude `mantissa * 2 ^ exponent`. -/
structure Dyadic where
  mantissa : Nat
  exponent : Int
deriving DecidableEq

/-- A binary floating-point format: bits of the significand, exponent of the finest grid, and the power of two that is
already infinite. -/
structure BinaryFormat where
  precision : Nat
  finest : Int
  overflow : Nat

namespace BinaryFormat

def half : BinaryFormat := ⟨11, -24, 16⟩
def single : BinaryFormat := ⟨24, -149, 128⟩
def double : BinaryFormat := ⟨53, -1074, 1024⟩

end BinaryFormat

namespace Dyadic

def ofFloat? (x : Float) : Option Dyadic :=
  let bits : Nat := x.toBits.toNat
  let biased : Nat := bits / Nat.pow 2 52 % Nat.pow 2 11
  let fraction : Nat := bits % Nat.pow 2 52
  if biased = Nat.pow 2 11 - 1 then none
  else if biased = 0 then some ⟨fraction, -1074⟩
  else some ⟨fraction + Nat.pow 2 52, (biased : Int) - 1075⟩

def grid (f : BinaryFormat) (d : Dyadic) : Int :=
  max f.finest (d.exponent + (d.mantissa.log2 + 1 : Nat) - f.precision)

/-- The nearest magnitude on the grid of `f`, a half going to the even neighbour. -/
def round (f : BinaryFormat) (d : Dyadic) : Dyadic :=
  let unit := d.grid f
  if unit ≤ d.exponent then ⟨d.mantissa * Nat.pow 2 (d.exponent - unit).toNat, unit⟩
  else
    let scale := Nat.pow 2 (unit - d.exponent).toNat
    let down := d.mantissa / scale
    let rest := d.mantissa % scale
    let up := decide (scale < 2 * rest) || (2 * rest == scale && down % 2 == 1)
    ⟨if up then down + 1 else down, unit⟩

def toFloat (d : Dyadic) : Float := (Float.ofNat d.mantissa).scaleB d.exponent

end Dyadic

/-- An exact value: infinite, or a whole number of steps of the finest grid. -/
inductive ExactValue where
  | finite (steps : Int)
  | infinite (negative : Bool)
deriving DecidableEq

namespace ExactValue

/-- How many steps of the finest grid make one. -/
def stepsOfOne : Nat := Nat.pow 2 (-BinaryFormat.double.finest).toNat

def ofInt (n : Int) : ExactValue := .finite (n * stepsOfOne)

end ExactValue

namespace Number

def signBit (x : Float) : Bool := x.toBits.toNat / Nat.pow 2 63 == 1

/-- The value that a floating-point number stands for, if any; both zeros stand for the same. -/
def exactValue? (x : Float) : Option ExactValue :=
  match Dyadic.ofFloat? x with
  | some d =>
    let steps := d.mantissa * Nat.pow 2 (d.exponent - BinaryFormat.double.finest).toNat
    some (.finite (if signBit x then -(steps : Int) else steps))
  | none => if x.isNaN then none else some (.infinite (signBit x))

/-- The nearest number of the format `f`. -/
def roundTo (f : BinaryFormat) (x : Float) : Float :=
  match Dyadic.ofFloat? x with
  | none => x
  | some d =>
    let r := d.round f
    let y := if Nat.pow 2 f.overflow ≤ r.mantissa * Nat.pow 2 r.exponent.toNat then 1.0 / 0.0 else r.toFloat
    if signBit x then -y else y

def toInt? (x : Float) : Option Int :=
  (Dyadic.ofFloat? x).bind fun d =>
    let n : Option Nat :=
      if 0 ≤ d.exponent then some (d.mantissa * Nat.pow 2 d.exponent.toNat)
      else
        let scale := Nat.pow 2 (-d.exponent).toNat
        if d.mantissa % scale = 0 then some (d.mantissa / scale) else none
    n.map fun n => if signBit x then -(n : Int) else n

def truncate? (x : Float) : Option Int :=
  (Dyadic.ofFloat? x).map fun d =>
    let n : Nat :=
      if 0 ≤ d.exponent then d.mantissa * Nat.pow 2 d.exponent.toNat
      else d.mantissa / Nat.pow 2 (-d.exponent).toNat
    if signBit x then -(n : Int) else n

/-- The nearest number to an integer; there is none past the largest finite one. -/
def ofInt? (n : Int) : Option Float :=
  let d := (Dyadic.mk n.natAbs 0).round .double
  if Nat.pow 2 BinaryFormat.double.overflow ≤ d.mantissa * Nat.pow 2 d.exponent.toNat then none
  else some (if n < 0 then -d.toFloat else d.toFloat)

end Number

end ArrayTyping

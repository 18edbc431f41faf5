import ArrayTyping.Number.Dyadic
/-!
# Remainder — whole quotients of floating-point numbers

The remainder of two finite numbers is itself one, so it is computed without rounding.  A whole quotient rounds down and
its remainder has the sign of the divisor.
-/
namespace ArrayTyping

namespace Dyadic

/-- The magnitude as a multiple of `2 ^ unit`, which must not be coarser than its own grid. -/
def inUnits (unit : Int) (d : Dyadic) : Nat := d.mantissa * Nat.pow 2 (d.exponent - unit).toNat

def mod (a b : Dyadic) : Dyadic :=
  let unit := min a.exponent b.exponent
  ⟨a.inUnits unit % b.inUnits unit, unit⟩

end Dyadic

namespace Number

def nan : Float := 0.0 / 0.0

def infinity : Float := 1.0 / 0.0

def copySign (x y : Float) : Float := if signBit y then -x.abs else x.abs

/-- The remainder of the quotient of `x` by `y` that is rounded towards zero; it has the sign of `x`. -/
def remainder (x y : Float) : Float :=
  match Dyadic.ofFloat? x, Dyadic.ofFloat? y with
  | some a, some b => if b.mantissa = 0 then nan else copySign (a.mod b).toFloat x
  | some _, none => if y.isNaN then nan else x
  | none, _ => nan

/-- The remainder with the sign of the divisor, and whether the quotient has to be taken one lower for it. -/
def floorRemainder (x y : Float) : Float × Bool :=
  let r := remainder x y
  if r == 0.0 then (copySign 0.0 y, false)
  else if (decide (y < 0.0)) != (decide (r < 0.0)) then (r + y, true)
  else (r, false)

def floorQuotient (x y : Float) : Float :=
  let q := (x - remainder x y) / y
  let q := if (floorRemainder x y).2 then q - 1.0 else q
  if q == 0.0 then copySign 0.0 (x / y)
  else if 0.5 < q - q.floor then q.floor + 1.0
  else q.floor

end Number

end ArrayTyping

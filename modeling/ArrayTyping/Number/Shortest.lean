import ArrayTyping.Number.Dyadic
/-!
# Shortest — the fewest decimal digits that read back

A magnitude of a binary format owns the reals that round to it; the ends belong to it if its mantissa is even.  Of the
decimal numbers among those, the ones with the fewest digits win, and of these the nearest.
-/
namespace ArrayTyping

/-- A magnitude `digits * 10 ^ exponent`. -/
structure Decimal where
  digits : Nat
  exponent : Int
deriving DecidableEq

namespace Decimal

/-- The same number without trailing zeros; `fuel` bounds their count. -/
def trim : Nat → Decimal → Decimal
  | 0, d => d
  | fuel + 1, d => if d.digits ≠ 0 ∧ d.digits % 10 = 0 then trim fuel ⟨d.digits / 10, d.exponent + 1⟩ else d

end Decimal

namespace Shortest

/-- The reals that round to one magnitude, all in quarters of `2 ^ exponent`. -/
structure Interval where
  low : Nat
  value : Nat
  high : Nat
  exponent : Int
  closed : Bool

/-- The reals that round to `d` in the format `f`.  Below a power of two the grid is twice as fine. -/
def interval (f : BinaryFormat) (d : Dyadic) : Interval :=
  let r := d.round f
  let edge := r.mantissa == Nat.pow 2 (f.precision - 1) && decide (f.finest < r.exponent)
  { low := 4 * r.mantissa - (if edge then 1 else 2)
    value := 4 * r.mantissa
    high := 4 * r.mantissa + 2
    exponent := r.exponent - 2
    closed := r.mantissa % 2 == 0 }

/-- The factors of numerator and denominator that turn units of `2 ^ e` into units of `10 ^ d`. -/
def scales (e d : Int) : Nat × Nat :=
  (Nat.pow 2 e.toNat * Nat.pow 10 (-d).toNat, Nat.pow 2 (-e).toNat * Nat.pow 10 d.toNat)

def Interval.holds (i : Interval) (d : Int) (n : Nat) : Bool :=
  let (num, den) := scales i.exponent d
  if i.closed then decide (i.low * num ≤ n * den) && decide (n * den ≤ i.high * num)
  else decide (i.low * num < n * den) && decide (n * den < i.high * num)

/-- The interval's nearest point on the grid of `10 ^ d`, if the interval has one. -/
def Interval.nearest? (i : Interval) (d : Int) : Option Nat :=
  let (num, den) := scales i.exponent d
  let down := i.value * num / den
  let up := down + 1
  match i.holds d down, i.holds d up with
  | true, true =>
    let below := i.value * num - down * den
    let above := up * den - i.value * num
    some (if below < above ∨ (below = above ∧ down % 2 = 0) then down else up)
  | true, false => some down
  | false, true => some up
  | false, false => none

def Interval.magnitude (i : Interval) : Int :=
  let (num, den) := scales i.exponent 0
  let whole := i.value * num / den
  if whole ≠ 0 then ((Nat.toDigits 10 whole).length : Int) - 1
  else
    match (List.range 400).find? fun t => decide (den ≤ i.value * num * Nat.pow 10 t) with
    | some t => -(t : Int)
    | none => -400

end Shortest

/-- The shortest decimal that reads back as the magnitude `d` in the format `f`. -/
def shortest (f : BinaryFormat) (d : Dyadic) : Decimal :=
  let i := Shortest.interval f d
  let top := i.magnitude
  let candidates := (List.range 18).filterMap fun (n : Nat) =>
    (i.nearest? (top - n)).map fun (c : Nat) => Decimal.mk c (top - n)
  (candidates.head?.getD ⟨0, 0⟩).trim 20

end ArrayTyping

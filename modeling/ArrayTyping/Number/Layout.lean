import ArrayTyping.Number.Shortest
/-!
# Layout — how floating-point numbers are written

The digits are the shortest that read back.  A magnitude from `10 ^ (-4)` up to below a power of ten that depends on the
format is written positionally, any other with an exponent of at least two digits and its sign.  The magnitude itself
decides, not its digits: the single-precision neighbour below one ten-thousandth is written `1e-04`.
-/
namespace ArrayTyping

/-- The format of numbers and the power of ten at which their positional notation ends. -/
structure NumberLayout where
  format : BinaryFormat
  firstExponential : Nat

namespace NumberLayout

def half : NumberLayout := ⟨.half, 3⟩
def single : NumberLayout := ⟨.single, 6⟩
def double : NumberLayout := ⟨.double, 16⟩

def isPositional (l : NumberLayout) (d : Dyadic) : Bool :=
  let num := d.mantissa * Nat.pow 2 d.exponent.toNat
  let den := Nat.pow 2 (-d.exponent).toNat
  decide (den ≤ num * Nat.pow 10 4) && decide (num < den * Nat.pow 10 l.firstExponential)

def exponentText (e : Int) : String :=
  let digits := toString e.natAbs
  "e" ++ (if e < 0 then "-" else "+") ++ (if digits.length < 2 then "0" ++ digits else digits)

def exponential (d : Decimal) : String :=
  let digits := (toString d.digits).toList
  let rest := digits.drop 1
  String.ofList (digits.take 1) ++ (if rest.isEmpty then "" else "." ++ String.ofList rest)
    ++ exponentText (d.exponent + digits.length - 1)

/-- A decimal magnitude without an exponent; a whole one ends in `.0` if it keeps its point. -/
def positional (keepsPoint : Bool) (d : Decimal) : String :=
  let digits := (toString d.digits).toList
  let top := d.exponent + digits.length - 1
  if 0 ≤ d.exponent then
    String.ofList (digits ++ List.replicate d.exponent.toNat '0') ++ (if keepsPoint then ".0" else "")
  else if 0 ≤ top then
    let whole := digits.take (top + 1).toNat
    String.ofList whole ++ "." ++ String.ofList (digits.drop whole.length)
  else
    "0." ++ String.ofList (List.replicate (-top - 1).toNat '0' ++ digits)

def magnitude (l : NumberLayout) (keepsPoint : Bool) (x : Float) : String :=
  match Dyadic.ofFloat? x with
  | some d =>
    if d.mantissa = 0 then positional keepsPoint ⟨0, 0⟩
    else if l.isPositional d then positional keepsPoint (shortest l.format d)
    else exponential (shortest l.format d)
  | none => if x.isNaN then "nan" else "inf"

/-- The text of a number; a number without value shows no sign. -/
def number (l : NumberLayout) (keepsPoint : Bool) (x : Float) : String :=
  (if Number.signBit x && !x.isNaN then "-" else "") ++ l.magnitude keepsPoint x

end NumberLayout

def floatText (l : NumberLayout) (x : Float) : String := l.number true x

/-- The text of a complex number: the imaginary part alone if the real part is a positive zero, else both in
parentheses.  Whole parts have no point. -/
def complexText (l : NumberLayout) (re im : Float) : String :=
  let imaginary := l.number false im ++ "j"
  if re == 0.0 && !Number.signBit re then imaginary
  else
    let sign := if imaginary.startsWith "-" then "" else "+"
    "(" ++ l.number false re ++ sign ++ imaginary ++ ")"

end ArrayTyping

import ArrayTyping.Number.Remainder
/-!
# Root — the length of a pair of parts

The root of the sum of two squares loses a little to rounding, which one step of correction makes up for.  Very large
and very small pairs are scaled first, so that no square leaves the range of double precision.
-/
namespace ArrayTyping

namespace Number

def powerOfTwo (n : Int) : Float := if n < 0 then 1.0 / (2.0).pow (Float.ofInt (-n)) else (2.0).pow (Float.ofInt n)

/-- The length of a pair of magnitudes of a middle size, the `large` one first.  With `h` for the rounded root, what the
square of `h` exceeds the sum by is written without large squares and taken off. -/
def correctedRoot (large small : Float) : Float :=
  let h := (large * large + small * small).sqrt
  let excess :=
    if h ≤ 2.0 * small then
      let d := h - small
      large * (2.0 * d - large) + (d - 2.0 * (large - small)) * d
    else
      let d := h - large
      2.0 * d * (large - 2.0 * small) + ((4.0 * d - small) * small + d * d)
  h - excess / (2.0 * h)

/-- The length of a pair of magnitudes, the `large` one first; a `small` one far below the other adds nothing. -/
def rootOfSquares (large small : Float) : Float :=
  let scale := powerOfTwo (-600)
  let negligible := powerOfTwo (-54)
  if powerOfTwo 511 < large then
    if small ≤ large * negligible then large + small
    else correctedRoot (large * scale) (small * scale) / scale
  else if small < powerOfTwo (-459) then
    if small / negligible ≤ large then large + small
    else correctedRoot (large / scale) (small / scale) * scale
  else if small ≤ large * negligible then large + small
  else correctedRoot large small

/-- The root of the sum of two squares; infinite as soon as one part is. -/
def hypot (x y : Float) : Float :=
  if x.isInf || y.isInf then infinity
  else if x.isNaN || y.isNaN then nan
  else if x.abs < y.abs then rootOfSquares y.abs x.abs
  else rootOfSquares x.abs y.abs

end Number

end ArrayTyping

import ArrayTyping.Shape
/-!
# IndexSpace — the index tuples of a shape

A tuple takes one item of every pool, and the last pool runs fastest.  The pools of a shape are the indices along its
axes.
-/
namespace ArrayTyping

namespace IndexSpace

/-- All tuples with one item of every pool, the last pool fastest. -/
def tuples {α : Type} : List (List α) → List (List α)
  | [] => [[]]
  | pool :: pools => pool.flatMap fun i => (tuples pools).map (i :: ·)

/-- The first `limit` of these tuples, found without the others. -/
def firstTuples {α : Type} (limit : Nat) : List (List α) → List (List α)
  | [] => [[]].take limit
  | pool :: pools =>
    let tails := firstTuples limit pools
    ((pool.take limit).flatMap fun i => tails.map (i :: ·)).take limit

end IndexSpace

end ArrayTyping

import ArrayTyping.Arithmetic
/-!
# Comparison — what an equality sign gives

Between most values an equality sign gives a plain truth value.  A number in a type of its own gives a typed one, and a
concrete array compares number by number and gives an array of them.
-/
namespace ArrayTyping

namespace Comparison

def typedTruth (b : Bool) : Value := .ofScalar (.ofBool b)

def ofAtoms (v w : Value) : Value :=
  let same := v.equals false w
  let typed := v.isTypedScalar || w.isTypedScalar
  let comparable := (v.isScalarLiteral || v.text?.isSome) && (w.isScalarLiteral || w.text?.isSome)
  if typed && comparable then typedTruth same else .bool same

/-- The equality of an array and another value, element by element; a node has no part in it. -/
def ofArrays (v w : Value) : Except Fault Value :=
  match v, w with
  | .node _, _ | _, .node _ => .ok (.bool false)
  | v, w => ConcreteArray.zip (fun a b => .ok (typedTruth (a.equals false b))) v w

def isFilled : Value → Bool
  | .array a => !a.isLazy
  | _ => false

def isByElement (v w : Value) : Bool :=
  isFilled v || isFilled w || (v.isTypedScalar && w.isNested) || (v.isNested && w.isTypedScalar)

end Comparison

mutual

def Value.equality : Value → Value → Except Fault Value
  | .callable f, w => f.equality w
  | v, w => if Comparison.isByElement v w then Comparison.ofArrays v w else .ok (Comparison.ofAtoms v w)
termination_by structural v => v

def Callable.equality : Callable → Value → Except Fault Value
  | .scaled k _, .callable (.scaled l _) => k.equality l
  | .unhashable k _, .callable (.unhashable l _) => k.equality l
  | f, w =>
    if Comparison.isFilled w then Comparison.ofArrays (.callable f) w else .ok (Comparison.ofAtoms (.callable f) w)
termination_by structural f => f

end

end ArrayTyping

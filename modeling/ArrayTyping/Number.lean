import ArrayTyping.Dtype
import ArrayTyping.Number.Layout
/-!
# Number — numeric values with and without a type of their own

Numbers compare by value whatever their form: an integer equals the floating-point number that stands for it exactly.
A typed scalar is a number that its numeric type can hold.
-/
namespace ArrayTyping

inductive Number where
  | int (n : Int)
  | float (x : Float)
  | complex (re im : Float)

namespace Number

def ofBool (b : Bool) : Number := .int (if b then 1 else 0)

def intEqFloat (n : Int) (x : Float) : Bool := toInt? x == some n

def exactParts? : Number → Option (ExactValue × ExactValue)
  | .int n => some (.ofInt n, .ofInt 0)
  | .float x => (exactValue? x).map (·, .ofInt 0)
  | .complex re im => do return (← exactValue? re, ← exactValue? im)

def equal : Number → Number → Bool
  | .int n, .int m => n == m
  | a, b => a.exactParts?.any fun p => b.exactParts? == some p

def isNonzero (n : Number) : Bool := !n.equal (.int 0)

def intLtFloat (n : Int) (x : Float) : Bool :=
  match truncate? x with
  | some m => decide (n < m) || (n == m && !intEqFloat n x && !signBit x)
  | none => !x.isNaN && !signBit x

def floatLtInt (x : Float) (n : Int) : Bool :=
  match truncate? x with
  | some m => decide (m < n) || (n == m && !intEqFloat n x && signBit x)
  | none => !x.isNaN && signBit x

/-- The order of real numbers; complex numbers have none. -/
def lt? : Number → Number → Option Bool
  | .int n, .int m => some (decide (n < m))
  | .int n, .float x => some (intLtFloat n x)
  | .float x, .int n => some (floatLtInt x n)
  | .float x, .float y => some (decide (x < y))
  | _, _ => none

def toFloat? : Number → Option Float
  | .int n => ofInt? n
  | .float x => some x
  | .complex _ _ => none

def parts? : Number → Option (Float × Float)
  | .int n => (ofInt? n).map fun x => (x, 0.0)
  | .float x => some (x, 0.0)
  | .complex re im => some (re, im)

end Number

def Precision.layout : Precision → NumberLayout
  | .half => .half
  | .single => .single
  | .double => .double

def Precision.format (p : Precision) : BinaryFormat := p.layout.format

def ComplexPrecision.part : ComplexPrecision → Precision
  | .single => .single
  | .double => .double

def Width.signedBounds (w : Width) : Int × Int := (-Int.pow 2 (8 * w.bytes - 1), Int.pow 2 (8 * w.bytes - 1) - 1)

def Width.unsignedBounds (w : Width) : Int × Int := (0, Int.pow 2 (8 * w.bytes) - 1)

def Numeric.zero : Numeric → Number
  | .float _ => .float 0.0
  | .complex _ => .complex 0.0 0.0
  | _ => .int 0

/-- A number held in a numeric type; truth values are held as zero and one. -/
structure TypedScalar where
  type : Numeric
  number : Number

namespace TypedScalar

/-- The number in the type `t`, rounded to its precision; an integer out of its bounds has no place in it. -/
def ofNumber? (t : Numeric) (n : Number) : Option TypedScalar :=
  let integer? (bounds : Int × Int) : Option Number :=
    let whole? := match n with
      | .int m => some m
      | .float x => Number.truncate? x
      | .complex _ _ => none
    whole?.bind fun m => if bounds.1 ≤ m ∧ m ≤ bounds.2 then some (.int m) else none
  let number? : Option Number := match t with
    | .bool => some (Number.ofBool n.isNonzero)
    | .signed w => integer? w.signedBounds
    | .unsigned w => integer? w.unsignedBounds
    | .float p => n.toFloat?.map fun x => .float (Number.roundTo p.format x)
    | .complex p => n.parts?.map fun (re, im) =>
      .complex (Number.roundTo p.part.format re) (Number.roundTo p.part.format im)
  number?.map fun m => ⟨t, m⟩

def ofBool (b : Bool) : TypedScalar := ⟨.bool, Number.ofBool b⟩

def textIn (l : NumberLayout) (s : TypedScalar) : String :=
  match s.type, s.number with
  | .bool, n => if n.isNonzero then "True" else "False"
  | _, .int n => toString n
  | _, .float x => floatText l x
  | _, .complex re im => complexText l re im

def layout (s : TypedScalar) : NumberLayout :=
  match s.type with
  | .float p => p.layout
  | .complex p => p.part.layout
  | _ => .double

def text (s : TypedScalar) : String := s.textIn s.layout

/-- The text of the number inside a sentence, with the digits of double precision. -/
def shown (s : TypedScalar) : String := s.textIn .double

def repr (s : TypedScalar) : String :=
  match s.type with
  | .bool => "np." ++ s.text ++ "_"
  | .complex _ =>
    let t := s.text
    "np." ++ s.type.name ++ (if t.startsWith "(" then t else "(" ++ t ++ ")")
  | t => "np." ++ t.name ++ "(" ++ s.text ++ ")"

end TypedScalar

def Number.text : Number → String
  | .int n => toString n
  | .float x => floatText .double x
  | .complex re im => complexText .double re im

end ArrayTyping

import ArrayTyping.Mark
/-!
# Dtype — element types

The numeric types are booleans, signed and unsigned integers of four widths, floating-point numbers of three precisions
and complex numbers of two.  A type may also be stored in the other byte order, and `object` holds anything.
-/
namespace ArrayTyping

inductive Width where
  | one
  | two
  | four
  | eight
deriving DecidableEq

inductive Precision where
  | half
  | single
  | double
deriving DecidableEq

inductive ComplexPrecision where
  | single
  | double
deriving DecidableEq

/-- The numeric types in native byte order. -/
inductive Numeric where
  | bool
  | signed (w : Width)
  | unsigned (w : Width)
  | float (p : Precision)
  | complex (p : ComplexPrecision)
deriving DecidableEq

inductive Dtype where
  | native (t : Numeric)
  /-- The same numbers in the other byte order.  Each description of such a type makes one of its own. -/
  | swapped (t : Numeric) (mark : Mark)
  | object
deriving DecidableEq

/-- What is known of an element type; `none` is an unknown one. -/
abbrev ElementType := Option Dtype

def Width.bytes : Width → Nat
  | .one => 1
  | .two => 2
  | .four => 4
  | .eight => 8

namespace Numeric

def name : Numeric → String
  | .bool => "bool"
  | .signed w => s!"int{8 * w.bytes}"
  | .unsigned w => s!"uint{8 * w.bytes}"
  | .float .half => "float16"
  | .float .single => "float32"
  | .float .double => "float64"
  | .complex .single => "complex64"
  | .complex .double => "complex128"

def code : Numeric → String
  | .bool => "b1"
  | .signed w => s!"i{w.bytes}"
  | .unsigned w => s!"u{w.bytes}"
  | .float .half => "f2"
  | .float .single => "f4"
  | .float .double => "f8"
  | .complex .single => "c8"
  | .complex .double => "c16"

end Numeric

namespace Dtype

def bool : Dtype := .native .bool
def int8 : Dtype := .native (.signed .one)
def int16 : Dtype := .native (.signed .two)
def int32 : Dtype := .native (.signed .four)
def int64 : Dtype := .native (.signed .eight)
def uint8 : Dtype := .native (.unsigned .one)
def uint16 : Dtype := .native (.unsigned .two)
def uint32 : Dtype := .native (.unsigned .four)
def uint64 : Dtype := .native (.unsigned .eight)
def float16 : Dtype := .native (.float .half)
def float32 : Dtype := .native (.float .single)
def float64 : Dtype := .native (.float .double)
def complex64 : Dtype := .native (.complex .single)
def complex128 : Dtype := .native (.complex .double)

/-- The element type of a result over no typed operand. -/
def default : Dtype := float64

def index : Dtype := int64

/-- The canonical name; a swapped type is named by its code behind the mark of its byte order. -/
def name : Dtype → String
  | .native t => t.name
  | .swapped t _ => ">" ++ t.code
  | .object => "object"

/-- The constructor text: the canonical name in quotes, the code letter for `object`. -/
def repr : Dtype → String
  | .object => "dtype('O')"
  | d => "dtype('" ++ d.name ++ "')"

def spellings : List (Dtype × List String) :=
  [(bool, ["bool", "?", "bool_", "|b1"]),
   (int8, ["int8", "b", "i1", "byte"]),
   (int16, ["int16", "h", "i2", "short"]),
   (int32, ["int32", "i4", "intc", "=i4"]),
   (int64, ["int64", "l", "q", "i8", "int", "intp"]),
   (uint8, ["uint8", "B", "u1", "ubyte"]),
   (uint16, ["uint16", "H", "u2"]),
   (uint32, ["uint32", "u4"]),
   (uint64, ["uint64", "L", "u8", "uint"]),
   (float16, ["float16", "e", "f2", "half"]),
   (float32, ["float32", "f", "f4", "single"]),
   (float64, ["float64", "d", "f8", "double", "float", "<f8"]),
   (complex64, ["complex64", "F", "c8"]),
   (complex128, ["complex128", "D", "c16", "complex"]),
   (object, ["object", "O"]),
   (swapped (.float .single) Mark.unmarked, [">f4"]),
   (swapped (.signed .two) Mark.unmarked, [">i2"])]

def ofName? (s : String) : Option Dtype := (spellings.find? (·.2.contains s)).map (·.1)

def plain : Dtype → Dtype
  | .swapped t _ => .swapped t Mark.unmarked
  | d => d

def same (d e : Dtype) : Bool := d.plain == e.plain

def kept : Dtype → StateM Mark Dtype
  | .swapped t m => do return .swapped t (← Mark.given m)
  | d => return d

end Dtype

end ArrayTyping

import ArrayTyping.Text.Blank
import ArrayTyping.Text.Digit
/-!
# Reading — numbers from text

A number is an optional sign and decimal digits with an optional point and exponent, or one of the words for infinity
and for no value.  A single underscore may stand between two digits, and white space around the whole.
-/
namespace ArrayTyping

namespace Reading

def strip (cs : List Char) : List Char :=
  ((cs.dropWhile isBlank).reverse.dropWhile isBlank).reverse

/-- The digits at the front, with the rest; an underscore is passed over between two digits. -/
def digits : List Char → List Nat × List Char
  | [] => ([], [])
  | '_' :: c :: cs =>
    match decimalDigit? c with
    | some d => let (ds, rest) := digits cs; (d :: ds, rest)
    | none => ([], '_' :: c :: cs)
  | c :: cs =>
    match decimalDigit? c with
    | some d => let (ds, rest) := digits cs; (d :: ds, rest)
    | none => ([], c :: cs)

/-- Digits that do not open with an underscore. -/
def leadingDigits : List Char → List Nat × List Char
  | '_' :: cs => ([], '_' :: cs)
  | cs => digits cs

def value (ds : List Nat) : Nat := ds.foldl (fun n d => 10 * n + d) 0

def sign : List Char → Bool × List Char
  | '-' :: cs => (true, cs)
  | '+' :: cs => (false, cs)
  | cs => (false, cs)

def exponent : List Char → Int × List Char
  | c :: cs =>
    if c == 'e' || c == 'E' then
      let (negative, body) := sign cs
      match leadingDigits body with
      | ([], _) => (0, c :: cs)
      | (ds, rest) => (if negative then -(value ds : Int) else value ds, rest)
    else (0, c :: cs)
  | [] => (0, [])

/-- The number that digits and a power of ten stand for, beyond all bounds infinite or zero. -/
def scaled (ds : List Nat) (e : Int) : Float :=
  let ds := ds.dropWhile (· == 0)
  if ds.isEmpty || e + ds.length < -400 then 0.0
  else if 400 < e + ds.length then 1.0 / 0.0
  else Float.ofScientific (value ds) (decide (e < 0)) e.natAbs

def magnitude? (cs : List Char) : Option (Float × List Char) :=
  let (whole, rest) := leadingDigits cs
  let (fraction, rest) := match rest with
    | '.' :: tail => leadingDigits tail
    | _ => ([], rest)
  let (e, after) := exponent rest
  if whole.isEmpty && fraction.isEmpty then
    let lower := cs.map Char.toLower
    if "infinity".toList.isPrefixOf lower then some (1.0 / 0.0, cs.drop 8)
    else if "inf".toList.isPrefixOf lower then some (1.0 / 0.0, cs.drop 3)
    else if "nan".toList.isPrefixOf lower then some (0.0 / 0.0, cs.drop 3)
    else none
  else some (scaled (whole ++ fraction) (e - fraction.length), after)

def signed? (cs : List Char) : Option (Float × List Char) :=
  let (negative, body) := sign cs
  (magnitude? body).map fun (x, rest) => (if negative then -x else x, rest)

end Reading

def readFloat? (s : String) : Option Float :=
  match Reading.signed? (Reading.strip s.toList) with
  | some (x, []) => some x
  | _ => none

namespace Reading

def isImaginaryUnit (c : Char) : Bool := c == 'j' || c == 'J'

/-- The imaginary part at the front of a text that begins with its sign, with the rest: digits may be left out. -/
def imaginary? (cs : List Char) : Option (Float × List Char) :=
  let (negative, body) := sign cs
  let (x, rest) := (magnitude? body).getD (1.0, body)
  match rest with
  | c :: rest => if isImaginaryUnit c then some (if negative then -x else x, rest) else none
  | [] => none

def isSigned (cs : List Char) : Bool :=
  match cs with
  | c :: _ => c == '+' || c == '-'
  | [] => false

/-- A complex number at the front, with the rest: a real part, an imaginary one or both. -/
def complex? (cs : List Char) : Option ((Float × Float) × List Char) :=
  match signed? cs with
  | none => (imaginary? cs).map fun (y, rest) => ((0.0, y), rest)
  | some (x, rest) =>
    if isSigned rest then (imaginary? rest).map fun (y, rest) => ((x, y), rest)
    else
      match rest with
      | c :: after => if isImaginaryUnit c then some ((0.0, x), after) else some ((x, 0.0), rest)
      | [] => some ((x, 0.0), [])

end Reading

def readComplex? (s : String) : Option (Float × Float) :=
  match Reading.strip s.toList with
  | '(' :: body =>
    match Reading.complex? (body.dropWhile isBlank) with
    | some (z, rest) => if rest.dropWhile isBlank == [')'] then some z else none
    | none => none
  | cs =>
    match Reading.complex? cs with
    | some (z, []) => some z
    | _ => none

def readInt? (s : String) : Option Int :=
  let (negative, body) := Reading.sign (Reading.strip s.toList)
  match Reading.leadingDigits body with
  | ([], _) => none
  | (ds, []) => some (if negative then -(Reading.value ds : Int) else Reading.value ds)
  | _ => none

namespace Reading

def digitIn? (base : Nat) (c : Char) : Option Nat :=
  let d :=
    if c.isLower then c.toNat - 'a'.toNat + 10
    else if c.isUpper then c.toNat - 'A'.toNat + 10
    else (decimalDigit? c).getD base
  if d < base then some d else none

/-- The number that digits in a base stand for; a single underscore may stand between two of them. -/
def valueIn? (base : Nat) (cs : List Char) : Option Nat :=
  if (cs.splitOn '_').any List.isEmpty then none
  else ((cs.filter (· != '_')).mapM (digitIn? base)).map (·.foldl (fun n d => base * n + d) 0)

def announcedBase (c : Char) : Nat :=
  match c.toLower with
  | 'x' => 16
  | 'o' => 8
  | 'b' => 2
  | _ => 0

/-- The digits behind an announced base, which has to be the given one unless that is zero. -/
def announced (base : Nat) : List Char → Nat × List Char
  | '0' :: c :: cs =>
    let b := announcedBase c
    if b != 0 && (base == 0 || base == b) then (b, match cs with | '_' :: rest => rest | rest => rest)
    else (base, '0' :: c :: cs)
  | cs => (base, cs)

end Reading

/-- The integer a text stands for in a base from two up.  The base zero is the one that the text announces, or else ten,
where only zero itself may begin with a zero. -/
def readIntIn? (base : Nat) (s : String) : Option Int :=
  let (negative, body) := Reading.sign (Reading.strip s.toList)
  let (b, body) := Reading.announced base body
  let n? := if b = 0 then (Reading.valueIn? 10 body).filter fun n => n == 0 || body.head? != some '0'
    else Reading.valueIn? b body
  n?.map fun n => if negative then -(n : Int) else n

end ArrayTyping

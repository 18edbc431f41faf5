import ArrayTyping.Text.Printable
/-!
# Quoted — text between quotes

Text stands between single quotes, or between double quotes if it holds a single quote and no double one.  The quote in
use, the backslash and the three common controls have short escapes; a character that is not printable is written by
its code point in two, four or eight hexadecimal digits.
-/
namespace ArrayTyping

/-- `n` in hexadecimal, filled with zeros to `width` digits. -/
def hexadecimal (width n : Nat) : String :=
  let digits := Nat.toDigits 16 n
  String.ofList (List.replicate (width - digits.length) '0' ++ digits)

def escapeChar (quote c : Char) : String :=
  if c == quote || c == '\\' then String.ofList ['\\', c]
  else if c == '\n' then "\\n"
  else if c == '\t' then "\\t"
  else if c == '\r' then "\\r"
  else if isPrintable c then c.toString
  else if c.toNat < 0x100 then "\\x" ++ hexadecimal 2 c.toNat
  else if c.toNat < 0x10000 then "\\u" ++ hexadecimal 4 c.toNat
  else "\\U" ++ hexadecimal 8 c.toNat

def quoted (s : String) : String :=
  let quote := if s.toList.contains '\'' && !s.toList.contains '"' then '"' else '\''
  quote.toString ++ String.join (s.toList.map (escapeChar quote)) ++ quote.toString

end ArrayTyping

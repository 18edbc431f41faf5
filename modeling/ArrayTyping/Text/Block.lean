/-!
# Block — one word over and over in nested rows

A row stands in brackets and goes on in the next line before it grows too wide.  Rows stand below each other and blocks
of rows a blank line apart.  Where there are very many words, only the first and last few along a dimension are shown.
-/
namespace ArrayTyping.Block

def lineWidth : Nat := 75

def fullSize : Nat := 1000

def edge : Nat := 3

/-- `n` equal items in a row, with an ellipsis for those that are left out. -/
def along (short : Bool) (n : Nat) (item : String) : List String :=
  if short && 2 * edge < n then List.replicate edge item ++ ["..."] ++ List.replicate edge item
  else List.replicate n item

/-- The lines that words fill up to a width, after `indent` blanks each.  The current line takes `used` characters with
the blank that follows it. -/
def fillLines (indent width : Nat) (used : Nat) (line : String) : List String → List String
  | [] => [line]
  | w :: ws =>
    if used ≤ indent then fillLines indent width (indent + w.length + 1) w ws
    else if width < used + w.length then line :: fillLines indent width (indent + w.length + 1) w ws
    else fillLines indent width (used + w.length + 1) (line ++ " " ++ w) ws

/-- What separates the items at a bracket depth: line breaks, and blanks up to the bracket's inside. -/
def gap (breaks depth : Nat) : String := String.ofList (List.replicate breaks '\n' ++ List.replicate (depth + 1) ' ')

def textAt (short : Bool) (word : String) (depth : Nat) : List Nat → String
  | [] => word
  | [n] =>
    let lines := fillLines (depth + 1) (lineWidth - depth - 1) (depth + 1) "" (along short n word)
    "[" ++ (gap 1 depth).intercalate lines ++ "]"
  | n :: lengths =>
    "[" ++ (gap lengths.length depth).intercalate (along short n (textAt short word (depth + 1) lengths)) ++ "]"

def text (word : String) (lengths : List Nat) : String :=
  textAt (fullSize < lengths.foldl (· * ·) 1) word 0 lengths

end ArrayTyping.Block

import ArrayTyping.Text.CodeRange
/-!
# Blank — white space

The separators of Unicode, the control characters that divide lines and fields, and the space itself.
-/
namespace ArrayTyping

def blankRanges : List (Nat × Nat) :=
  [(0x9, 0xd), (0x1c, 0x20), (0x85, 0x85), (0xa0, 0xa0), (0x1680, 0x1680), (0x2000, 0x200a), (0x2028, 0x2029),
   (0x202f, 0x202f), (0x205f, 0x205f), (0x3000, 0x3000)]

def isBlank (c : Char) : Bool := inRanges blankRanges c

def isBlankText (s : String) : Bool := s.toList.all isBlank

/-- The maximal runs of characters other than white space. -/
def words (s : String) : List (List Char) :=
  (s.toList.splitBy fun a b => isBlank a == isBlank b).filter (!·.all isBlank)

end ArrayTyping

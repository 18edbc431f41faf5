import ArrayTyping.Container
import ArrayTyping.ErrorCode
import ArrayTyping.Mark
import ArrayTyping.Text.Quoted
/-!
# Label — texts that name things

A kind or a code may stand wherever a text is asked for.  It counts as the text it is spelled by, yet inside a sentence
it is shown by where it belongs, and spelled out it shows both.
-/
namespace ArrayTyping

def Container.repr (k : Container) : String := "<ContainerKind." ++ k.capitals ++ ": " ++ quoted k.name ++ ">"

def ErrorCode.repr (c : ErrorCode) : String := "<ErrorCode." ++ c.capitals ++ ": " ++ quoted c.text ++ ">"

/-- A text, or a kind or code that counts as one. -/
inductive Label where
  | text (s : String) (mark : Mark)
  | kind (k : Container)
  | code (c : ErrorCode)

namespace Label

def ofString (s : String) : Label := .text s Mark.unmarked

def content : Label → String
  | .text s _ => s
  | .kind k => k.name
  | .code c => c.text

def shown : Label → String
  | .text s _ => s
  | .kind k => "ContainerKind." ++ k.capitals
  | .code c => "ErrorCode." ++ c.capitals

def repr : Label → String
  | .text s _ => quoted s
  | .kind k => k.repr
  | .code c => c.repr

def same (a b : Label) : Bool := a.content == b.content

def kept : Label → StateM Mark Label
  | .text s m => do return .text s (← Mark.given m)
  | l => return l

end Label

end ArrayTyping

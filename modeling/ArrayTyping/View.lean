import ArrayTyping.Application
import ArrayTyping.Registry
/-!
# View — arrays wrapped for reading

A view wraps an array-valued node.  Indexing and products look through views, and an array-valued result is a view
again.
-/
namespace ArrayTyping

namespace View

/-- The node that a view of `v` wraps; a view of a view wraps the same node. -/
def nodeOf : Value → Except Fault Node
  | .view n _ => .ok n
  | .node n => if n.isArray then .ok n else .error (.refusal (.viewOfNonArray (.node n)))
  | v => .error (.refusal (.viewOfNonArray v))

def unwrap : Value → Value
  | .view n _ => .node n
  | v => v

def wrap (n : Node) : Value := if n.isArray then .view n Mark.unmarked else .node n

def index (n : Node) (key : Value) : Build Value := do return wrap (← Build.index (.node n) key)

def transpose (n : Node) : Build Value := do return .view (← Build.transpose .builtin (.node n)) Mark.unmarked

def matmul (left right : Value) : Build Value := do
  return wrap (← Build.matmul .builtin (unwrap left) (unwrap right))

end View

end ArrayTyping

/-!
# Container — the structural kind of an array

Equal kinds are kept by an operation and mixed kinds become plain; with no array among the operands the kind is
abstract.
-/
namespace ArrayTyping

inductive Container where
  | plain
  | specialized
  | abstract
deriving DecidableEq

namespace Container

def name : Container → String
  | .plain => "plain"
  | .specialized => "specialized"
  | .abstract => "abstract"

def capitals : Container → String
  | .plain => "PLAIN"
  | .specialized => "SPECIALIZED"
  | .abstract => "ABSTRACT"

def all : List Container := [.plain, .specialized, .abstract]

def ofName? (s : String) : Option Container := all.find? (·.name == s)

def ofCapitals? (s : String) : Option Container := all.find? (·.capitals == s)

/-- Equal kinds are kept, mixed ones become plain. -/
def combine (a b : Container) : Container := if a = b then a else .plain

def fold : List Container → Container
  | [] => .abstract
  | k :: ks => ks.foldl combine k

end Container

end ArrayTyping

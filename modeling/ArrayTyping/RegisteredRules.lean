import ArrayTyping.Operators
/-!
# RegisteredRules — the rule book of a registry

Anything that can be called may be registered as a rule.  What is no rule itself is called with the operator and its
operands.
-/
namespace ArrayTyping

namespace Rule

/-- A callable as a rule of last resort. -/
def ofCallable (f : Callable) : Rule := .calling fun op args => Build.call (op :: args) f

end Rule

namespace Registry

def book (r : Registry) : RuleBook := r.bookWith Rule.ofCallable

end Registry

namespace Build

/-- The rule book an argument stands for: the library's own where none is given. -/
def bookOf : Value → Build RuleBook
  | .none => return .builtin
  | .registry id => do return (← registry id).book
  | _ => return .unreadable

end Build

end ArrayTyping

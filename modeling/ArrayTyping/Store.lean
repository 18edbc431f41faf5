import ArrayTyping.Fault
import ArrayTyping.Value.Identity
/-!
# Store — attached shapes, registries and events

Every node has one slot for its shape, kept under the node's identity and written at most once.  Registries are shared
by identity.  Building also records events, and all of this outlasts a request that is refused half-way.

Recording an event never fails.  The limits that an interpreter sets on the digits of an integer in a text and on the
depth of recursion are left out of the model, so every event and every report has its text.
-/
namespace ArrayTyping

inductive Event where
  | attached (s : ShapeInfo) (n : Node)
  /-- No array that the index runs over has a known shape. -/
  | looseIndex (name : Label)
  | shapeUnknown (body : Value)
  | shapeResolved (s : Shape) (body : Value)
  | builtTerm (n : Node) (k : Container) (e : ElementType) (rank : Nat) (s : ShapeInfo)
  | builtArrayOp (n : Node) (s : ShapeInfo)
  | registered (k : RuleKind) (op arity : Value)

inductive Topic where
  | metadata
  | unification
  | arrayTerm
  | registry
  | arrayOp
deriving DecidableEq

namespace Event

def topic : Event → Topic
  | .attached .. => .metadata
  | .looseIndex _ => .unification
  | .shapeUnknown _ => .unification
  | .shapeResolved .. => .unification
  | .builtTerm .. => .arrayTerm
  | .builtArrayOp .. => .arrayOp
  | .registered .. => .registry

def message : Event → String
  | .attached s n => "Attached shape " ++ shapeInfoText s ++ " to " ++ n.text
  | .looseIndex name => "Index " ++ name.shown ++ ": no usage with known shape"
  | .shapeUnknown body => "Shape of " ++ body.render.shown ++ " is unknown"
  | .shapeResolved s body => "Resolved shape " ++ s.repr ++ " for " ++ body.render.shown
  | .builtTerm n k e rank s =>
    "Built array term " ++ n.text ++ ": container=" ++ k.name ++ ", eltype=" ++ elementTypeText e ++ ", ndim="
      ++ toString rank ++ ", shape=" ++ shapeInfoText s
  | .builtArrayOp n s => "Built array op " ++ n.text ++ " with shape " ++ shapeInfoText s
  | .registered k op arity =>
    "Registered " ++ k.name ++ " rule for " ++ op.operatorName ++ " (arity "
      ++ (match arity with | .none => "*" | v => v.shown) ++ ")"

end Event

structure Slots where
  entries : List (NodeId × ShapeInfo)

namespace Slots

def empty : Slots := ⟨[]⟩

/-- The content of a node's slot; there is none before it is written. -/
def get? (s : Slots) (id : NodeId) : Option ShapeInfo := s.entries.lookup id

def insert (s : Slots) (id : NodeId) (shape : ShapeInfo) : Slots := ⟨(id, shape) :: s.entries⟩

end Slots

/-- The key of a rule: an operator and a number of operands, `none` for any number. -/
structure RuleKey where
  op : Value
  arity : Value

abbrev RuleTable := List (RuleKey × Callable)

structure Registry where
  ndims : RuleTable
  shape : RuleTable

/-- The slots, the registries by identity, the next free identity or mark, and the events so far, in order. -/
structure Store where
  slots : Slots
  registries : List (Nat × Registry)
  next : Mark
  events : List Event

namespace Store

def empty : Store := ⟨.empty, [], Mark.first, []⟩

end Store

/-- A request that reads and extends the store, and may be refused. -/
abbrev Build := ExceptT Fault (StateM Store)

namespace Build

def fresh : Build Nat :=
  modifyGet fun s => (s.next, { s with next := s.next + 1 })

def keeping {α : Type} (kept : StateM Mark α) : Build α :=
  modifyGet fun s =>
    let (a, next) := kept.run s.next
    (a, { s with next := next })

def keep (v : Value) : Build Value := keeping v.kept

def record (e : Event) : Build Unit :=
  modify fun s => { s with events := s.events ++ [e] }

def slots : Build Slots := do return (← get).slots

def refuse {α : Type} (r : Refusal) : Build α := throw (.refusal r)

end Build

end ArrayTyping

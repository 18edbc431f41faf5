import ArrayTyping.RuleBook
/-!
# Registry — rules kept by operator and arity

A lookup tries the operator at the exact number of operands, then the operator at any number, then the same two keys for
the operator's family.  An operator that cannot be a key is passed over, its family is not.
-/
namespace ArrayTyping

namespace RuleKey

def same (a b : RuleKey) : Bool := a.op.sameKey b.op && a.arity.sameKey b.arity

def isHashable (k : RuleKey) : Bool := k.op.isHashable && k.arity.isHashable

/-- The keys under which the rule for `op` at `arity` may be found, the most specific first. -/
def candidates (op arity : Value) : List RuleKey :=
  let own : List RuleKey := [⟨op, arity⟩, ⟨op, .none⟩]
  match op.isFamily, op.family? with
  | false, some f => own ++ [⟨.callable (.family f), arity⟩, ⟨.callable (.family f), .none⟩]
  | _, _ => own

end RuleKey

namespace RuleTable

def find? (t : RuleTable) (k : RuleKey) : Option Callable := (List.find? (fun e => e.1.same k) t).map (·.2)

def insert (k : RuleKey) (rule : Callable) : RuleTable → RuleTable
  | [] => [(k, rule)]
  | (l, r) :: t => if l.same k then (l, rule) :: t else (l, r) :: insert k rule t

end RuleTable

namespace Registry

def empty : Registry := ⟨[], []⟩

def table (r : Registry) : RuleKind → RuleTable
  | .ndims => r.ndims
  | .shape => r.shape

def insert (r : Registry) (kind : RuleKind) (k : RuleKey) (rule : Callable) : Registry :=
  match kind with
  | .ndims => { r with ndims := r.ndims.insert k rule }
  | .shape => { r with shape := r.shape.insert k rule }

/-- The most specific rule of a kind for `op` at `arity`. -/
def lookup (r : Registry) (kind : RuleKind) (op arity : Value) : Option Callable :=
  ((RuleKey.candidates op arity).filter RuleKey.isHashable).findSome? (r.table kind).find?

/-- Refuses an arity that is a truth value or negative; what does not compare with numbers is no arity at all, and an
array has to be a single number for it. -/
def checkArity (arity : Value) : Except Fault Unit :=
  match arity with
  | .none => .ok ()
  | .bool _ => .error (.refusal (.invalidArity arity))
  | v =>
    let negative? := match v with
      | .array a => if a.isLazy then none else if a.size = 1 then a.element.below? 0 else some false
      | v => v.below? 0
    match negative?, v with
    | some true, _ => .error (.refusal (.invalidArity arity))
    | some false, .array a => if a.size = 1 then .ok () else .error (.slip .value)
    | some false, _ => .ok ()
    | none, _ => .error .typeSlip

def register (r : Registry) (kind : RuleKind) (op rule arity : Value) : Except Fault Registry :=
  match rule.callable? with
  | none => .error (.refusal (.ruleNotCallable kind))
  | some f => do
    checkArity arity
    let key : RuleKey := ⟨op, arity⟩
    if key.isHashable then return r.insert kind key f else throw .typeSlip

/-- The rules as a book, in which callables that are no rules count as `other` says. -/
def bookWith (other : Callable → Rule) (r : Registry) : RuleBook :=
  ⟨fun kind op n => (r.lookup kind op (.ofInt n)).map (Callable.toRule other)⟩

end Registry

structure RuleEntry where
  op : Callable
  ndims : BuiltinRule
  shape : BuiltinRule
  arity : Value

def elementwisePrimitives : List Primitive := [.add, .sub, .mul, .truediv, .pow, .neg, .pos, .abs]

/-- The rules of the library: elementwise operators at any arity, matrix products of two operands, reversal of one. -/
def builtinEntries : List RuleEntry :=
  ((elementwisePrimitives.map Callable.primitive ++ [Callable.family .elementwise]).map fun f =>
    ⟨f, .elementwiseNdims, .elementwiseShape, .none⟩)
  ++ [⟨.primitive .matmul, .matmulNdims, .matmulShape, .ofInt 2⟩,
      ⟨.primitive .transpose, .transposeNdims, .transposeShape, .ofInt 1⟩]

namespace Registry

def insertEntry (r : Registry) (e : RuleEntry) : Registry :=
  let key : RuleKey := ⟨.callable e.op, e.arity⟩
  (r.insert .ndims key (.rule e.ndims)).insert .shape key (.rule e.shape)

def builtin : Registry := builtinEntries.foldl insertEntry empty

end Registry

namespace RuleBook

def builtin : RuleBook := Registry.builtin.bookWith fun _ => .reading fun _ _ _ => .error .typeSlip

/-- The book of something that holds no rules: every look-up fails. -/
def unreadable : RuleBook := ⟨fun _ _ _ => some (.reading fun _ _ _ => .error (.slip .attribute))⟩

end RuleBook

namespace Build

def newRegistry (r : Registry) : Build Nat := do
  let id ← fresh
  modify fun s => { s with registries := (id, r) :: s.registries }
  return id

def registry (id : Nat) : Build Registry := do return ((← get).registries.lookup id).getD .empty

def setRegistry (id : Nat) (r : Registry) : Build Unit :=
  modify fun s => { s with registries := s.registries.map fun e => if e.1 == id then (id, r) else e }

def register (id : Nat) (kind : RuleKind) (op rule arity : Value) : Build Unit := do
  let r ← (← registry id).register kind op rule arity
  setRegistry id r
  record (.registered kind op arity)

/-- Registers the rank rule and then the shape rule of one operator. -/
def registerBoth (id : Nat) (op ndims shape arity : Value) : Build Unit := do
  register id .ndims op ndims arity
  register id .shape op shape arity

def registerBuiltin (id : Nat) : Build Unit :=
  builtinEntries.forM fun e =>
    registerBoth id (.callable e.op) (.callable (.rule e.ndims)) (.callable (.rule e.shape)) e.arity

def copyRegistry (id : Nat) : Build Nat := do newRegistry (← registry id)

end Build

end ArrayTyping

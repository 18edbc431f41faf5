import ArrayTyping.Value
/-!
# Identity — when two values are one

A value that exists only once is known by its contents: the truth values, kinds, codes, types in native byte order,
small integers, the empty tuple and text, and texts of one early character.  All others are one if they carry the same
mark.  `kept` gives a mark to everything in a value that has none.
-/
namespace ArrayTyping

/-- Whether an integer exists only once. -/
def isSmallInt (n : Int) : Bool := decide (-5 ≤ n) && decide (n ≤ 256)

def isSmallText (s : String) : Bool :=
  match s.toList with
  | [] => true
  | [c] => decide (c.toNat < 256)
  | _ => false

namespace Callable

def isIdentical : Callable → Callable → Bool
  | .primitive p, .primitive q => p == q
  | .family f, .family g => f == g
  | .scaled _ i, .scaled _ j => Mark.same i j
  | .unhashable _ i, .unhashable _ j => Mark.same i j
  | .elementwise _ i, .elementwise _ j => Mark.same i j
  | .thunk i, .thunk j => i == j
  | .rule r, .rule s => r == s
  | .answer i .., .answer j .. => i == j
  | .reader i .., .reader j .. => i == j
  | _, _ => false

end Callable

namespace Value

def isIdentical : Value → Value → Bool
  | .none, .none => true
  | .unknown, .unknown => true
  | .bool a, .bool b => a == b
  | .kind k, .kind l => k == l
  | .code c, .code d => c == d
  | .int n i, .int m j => n == m && (isSmallInt n || Mark.same i j)
  | .float _ i, .float _ j => Mark.same i j
  | .complex _ _ i, .complex _ _ j => Mark.same i j
  | .scalar s i, .scalar t j =>
    if s.type == .bool && t.type == .bool then s.number.equal t.number else Mark.same i j
  | .text s i, .text t j => s == t && (isSmallText s || Mark.same i j)
  | .list _ i, .list _ j => Mark.same i j
  | .tuple xs i, .tuple ys j => (xs.isEmpty && ys.isEmpty) || Mark.same i j
  | .dict _ i, .dict _ j => Mark.same i j
  | .range a, .range b => Mark.same a.mark b.mark
  | .slice _ _ _ i, .slice _ _ _ j => Mark.same i j
  | .shape s, .shape t => Mark.same s.mark t.mark
  | .dtype (.swapped _ i), .dtype (.swapped _ j) => Mark.same i j
  | .dtype d, .dtype e => d == e
  | .type _ i, .type _ j => Mark.same i j
  | .array a, .array b => Mark.same a.mark b.mark
  | .object i, .object j => i == j
  | .callable f, .callable g => f.isIdentical g
  | .node n, .node m => n.id == m.id
  | .occurrence _ _ i, .occurrence _ _ j => Mark.same i j
  | .view _ i, .view _ j => Mark.same i j
  | .space _ i, .space _ j => Mark.same i j
  | .registry i, .registry j => i == j
  | .diagnostic _ i, .diagnostic _ j => Mark.same i j
  | .iterator _ i, .iterator _ j => Mark.same i j
  | _, _ => false

end Value

mutual

/-- The value with marks on all of its parts; what has a mark is left as it is. -/
def Value.kept : Value → StateM Mark Value
  | .int n m => do return .int n (← Mark.given m)
  | .float x m => do return .float x (← Mark.given m)
  | .complex re im m => do return .complex re im (← Mark.given m)
  | .scalar s m => do return .scalar s (← Mark.given m)
  | .text s m => do return .text s (← Mark.given m)
  | .list items m => do
    if m = Mark.unmarked then return .list (← keptAll items) (← Mark.given m) else return .list items m
  | .tuple items m => do
    if m = Mark.unmarked then return .tuple (← keptAll items) (← Mark.given m) else return .tuple items m
  | .dict entries m => do
    if m = Mark.unmarked then return .dict (← keptEntries entries) (← Mark.given m) else return .dict entries m
  | .range a => do return .range (← a.kept)
  | .slice start stop step m => do
    if m = Mark.unmarked then return .slice (← start.kept) (← stop.kept) (← step.kept) (← Mark.given m)
    else return .slice start stop step m
  | .shape s => do return .shape (← s.kept)
  | .dtype d => do return .dtype (← d.kept)
  | .type t m => do return .type (← t.kept) (← Mark.given m)
  | .array a => do return .array { a with mark := ← Mark.given a.mark }
  | .callable f => do return .callable (← f.kept)
  | .occurrence array dimension m => do
    if m = Mark.unmarked then return .occurrence (← array.kept) (← dimension.kept) (← Mark.given m)
    else return .occurrence array dimension m
  | .view n m => do return .view n (← Mark.given m)
  | .space axes m => do
    if m = Mark.unmarked then return .space (← axes.kept) (← Mark.given m) else return .space axes m
  | .diagnostic d m => do return .diagnostic d (← Mark.given m)
  | .iterator source m => do
    if m = Mark.unmarked then return .iterator (← source.kept) (← Mark.given m) else return .iterator source m
  | v => return v
termination_by structural v => v

def keptAll : List Value → StateM Mark (List Value)
  | [] => return []
  | v :: vs => do return (← v.kept) :: (← keptAll vs)
termination_by structural vs => vs

def keptEntries : List (Value × Value) → StateM Mark (List (Value × Value))
  | [] => return []
  | (k, v) :: es => do return (← k.kept, ← v.kept) :: (← keptEntries es)
termination_by structural es => es

def Callable.kept : Callable → StateM Mark Callable
  | .scaled k m => do
    if m = Mark.unmarked then return .scaled (← k.kept) (← Mark.given m) else return .scaled k m
  | .unhashable k m => do
    if m = Mark.unmarked then return .unhashable (← k.kept) (← Mark.given m) else return .unhashable k m
  | .elementwise f m => do
    if m = Mark.unmarked then return .elementwise (← f.kept) (← Mark.given m) else return .elementwise f m
  | f => return f
termination_by structural f => f

end

end ArrayTyping

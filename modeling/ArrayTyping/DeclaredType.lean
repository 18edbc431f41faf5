import ArrayTyping.Container
import ArrayTyping.Dtype
import ArrayTyping.Shape
/-!
# DeclaredType — what is declared of a value before its shape

A value is a scalar with an element type, or an array with a container kind, an element type and a rank.  Element type
and rank may stay free.
-/
namespace ArrayTyping

inductive DeclaredType where
  | scalar (eltype : ElementType)
  | array (container : Container) (eltype : ElementType) (rank : Rank)
deriving DecidableEq

namespace DeclaredType

def isArray : DeclaredType → Bool
  | .scalar _ => false
  | .array .. => true

def eltype : DeclaredType → ElementType
  | .scalar e => e
  | .array _ e _ => e

def rank : DeclaredType → Rank
  | .scalar _ => some 0
  | .array _ _ n => n

def container? : DeclaredType → Option Container
  | .scalar _ => none
  | .array k _ _ => some k

/-- Whether neither element type nor rank is free. -/
def isFullySpecialized (t : DeclaredType) : Bool := t.eltype.isSome && t.rank.isSome

def eltypeText : ElementType → String
  | some d => d.name
  | none => "?"

def text : DeclaredType → String
  | .scalar e => eltypeText e
  | .array k e n =>
    k.name ++ "[" ++ eltypeText e ++ ", " ++ (match n with | some n => toString n | none => "?") ++ "]"

def plain : DeclaredType → DeclaredType
  | .scalar e => .scalar (e.map Dtype.plain)
  | .array k e n => .array k (e.map Dtype.plain) n

def same (t u : DeclaredType) : Bool := t.plain == u.plain

def kept : DeclaredType → StateM Mark DeclaredType
  | .scalar e => do return .scalar (← e.mapM Dtype.kept)
  | .array k e n => do return .array k (← e.mapM Dtype.kept) n

end DeclaredType

end ArrayTyping

import ArrayTyping.Proofs.Lookalikes
import Mathlib.Logic.Equiv.Basic
/-!
# Renaming — other names for the indices

What the indices of an array by index notation are called has no say in it.  If all scalar symbols get other names, so
that no two fall together, then the array is built over the renamed output and body exactly if it is over the first,
with the same type and shape, and it is a renaming of the first.  The renamed body is made anew: its nodes have
identities and marks of their own, and stand for those of the first body by what is attached to them.
-/
namespace ArrayTyping

open Build (outcome)

/-! ## Renamings -/

/-- New names for scalar symbols.  Of the symbols of one type none fall together that did not before. -/
structure Renaming where
  name : Symbol → Label
  name_iff : ∀ {s t : Symbol}, s.type.isArray = false → s.type.plain = t.type.plain →
    ((name s).content = (name t).content ↔ s.name.content = t.name.content)

namespace Renaming

variable (ρ : Renaming) {s t : Symbol}

/-- The symbol under its new name; arrays keep theirs. -/
def apply (s : Symbol) : Symbol := if s.type.isArray then s else { s with name := ρ.name s }

theorem id_apply (s : Symbol) : (ρ.apply s).id = s.id := by
  unfold apply
  split <;> rfl

theorem type_apply (s : Symbol) : (ρ.apply s).type = s.type := by
  unfold apply
  split <;> rfl

theorem name_apply_of_scalar (h : s.type.isArray = false) : (ρ.apply s).name = ρ.name s := by
  unfold apply
  rw [h]
  rfl

theorem apply_of_array (h : s.type.isArray = true) : ρ.apply s = s := if_pos h

theorem same_apply (s t : Symbol) : (ρ.apply s).same (ρ.apply t) = s.same t := by
  rw [Bool.eq_iff_iff, Symbol.same_iff, Symbol.same_iff, ρ.type_apply, ρ.type_apply]
  refine and_congr_left fun htype => ?_
  have harray := DeclaredType.isArray_of_plain htype
  cases hs : s.type.isArray with
  | true => rw [ρ.apply_of_array hs, ρ.apply_of_array (harray.symm.trans hs)]
  | false =>
    rw [ρ.name_apply_of_scalar hs, ρ.name_apply_of_scalar (harray.symm.trans hs)]
    exact ρ.name_iff hs htype

def Corresponds (s t : Symbol) : Prop := t.same (ρ.apply s) = true

theorem corresponds_apply (s : Symbol) : ρ.Corresponds s (ρ.apply s) := Symbol.same_refl _

theorem faithful : Symbol.Faithful ρ.Corresponds := by
  intro s t s' t' h h'
  rw [← ρ.same_apply, Symbol.same_congr h, Symbol.same_comm, Symbol.same_comm (ρ.apply s), Symbol.same_congr h']

variable {ρ}

theorem Corresponds.type_eq (h : ρ.Corresponds s t) : s.type.plain = t.type.plain := by
  rw [(Symbol.same_iff.1 h).2, ρ.type_apply]

def ofNames (f : String → String) (hf : f.Injective) : Renaming where
  name s := .ofString (f s.name.content)
  name_iff _ _ := hf.eq_iff

end Renaming

/-! ## Nodes that stand for one another -/

/-- Two nodes have been made, each in its own store, and the same shape is attached to both, or nothing to either. -/
structure Store.Twins (st st' : Store) (id id' : NodeId) : Prop where
  made : id < st.next
  made' : id' < st'.next
  slot : (st.slots.get? id).map (Option.map Shape.plain) = (st'.slots.get? id').map (Option.map Shape.plain)

theorem Store.Twins.grown {st st' st₁ st₁' : Store} (hg : st.Grown st₁) (hg' : st'.Grown st₁') {id id' : NodeId}
    (h : st.Twins st' id id') : st₁.Twins st₁' id id' where
  made := Nat.lt_of_lt_of_le h.made hg.next_le
  made' := Nat.lt_of_lt_of_le h.made' hg'.next_le
  slot := by rw [hg.kept id h.made, hg'.kept id' h.made', h.slot]

inductive Value.SameBare : Value → Value → Prop where
  | int (n : Int) (m m' : Mark) : SameBare (.int n m) (.int n m')
  | float (x : Float) (m m' : Mark) : SameBare (.float x m) (.float x m')
  | complex (re im : Float) (m m' : Mark) : SameBare (.complex re im m) (.complex re im m')
  | scalar (s : TypedScalar) (m m' : Mark) : SameBare (.scalar s m) (.scalar s m')
  | array (a : ConcreteArray) (m : Mark) : SameBare (.array a) (.array { a with mark := m })
  | shared {v : Value} (h : ∀ n, v ≠ .node n) : SameBare v v

mutual

/-- The node on the right is the one on the left under new names.  Operators and reductions count only as far as they
index. -/
inductive Node.Renamed (ρ : Renaming) (st st' : Store) : Node → Node → Prop where
  | symbol {s t : Symbol} (h : ρ.Corresponds s t) (htwins : st.Twins st' s.id t.id) :
      Node.Renamed ρ st st' (.symbol s) (.symbol t)
  | constant {id id' : NodeId} (d : Datum) (tm tm' : Mark) (htwins : st.Twins st' id id') :
      Node.Renamed ρ st st' (.constant id d tm) (.constant id' d tm')
  | term {id id' : NodeId} {op op' : Callable} {args args' : List Value} {am am' : Mark} {t t' : DeclaredType}
      {tm tm' : Mark} (hop : op.isGetitem = op'.isGetitem) (hargs : RenamedAll ρ st st' args args')
      (ht : t.plain = t'.plain) (htwins : st.Twins st' id id') :
      Node.Renamed ρ st st' (.term id op args am t tm) (.term id' op' args' am' t' tm')
  | arrayOp {id id' : NodeId} {output output' : List OutputIndex} {om om' : Mark} {body body' : Value}
      {reduce reduce' : Callable} {source source' : Option Node} {k : Container} {e e' : ElementType} {tm tm' : Mark}
      (houtput : List.Forall₂ (OutputIndex.Matched ρ.Corresponds) output output')
      (hbody : Value.Renamed ρ st st' body body') (hsource : RenamedSource ρ st st' source source')
      (he : e.map Dtype.plain = e'.map Dtype.plain) (htwins : st.Twins st' id id') :
      Node.Renamed ρ st st' (.arrayOp id output om body reduce source k e tm)
        (.arrayOp id' output' om' body' reduce' source' k e' tm')

inductive Value.Renamed (ρ : Renaming) (st st' : Store) : Value → Value → Prop where
  | node {n m : Node} (h : Node.Renamed ρ st st' n m) : Value.Renamed ρ st st' (.node n) (.node m)
  | tuple {vs ws : List Value} (h : RenamedAll ρ st st' vs ws) (m m' : Mark) :
      Value.Renamed ρ st st' (.tuple vs m) (.tuple ws m')
  | list {vs ws : List Value} (h : RenamedAll ρ st st' vs ws) (m m' : Mark) :
      Value.Renamed ρ st st' (.list vs m) (.list ws m')
  | view {n m : Node} (h : Node.Renamed ρ st st' n m) (vm vm' : Mark) :
      Value.Renamed ρ st st' (.view n vm) (.view m vm')
  | bare {v w : Value} (h : v.SameBare w) : Value.Renamed ρ st st' v w

inductive RenamedAll (ρ : Renaming) (st st' : Store) : List Value → List Value → Prop where
  | nil : RenamedAll ρ st st' [] []
  | cons {v w : Value} {vs ws : List Value} (h : Value.Renamed ρ st st' v w) (hs : RenamedAll ρ st st' vs ws) :
      RenamedAll ρ st st' (v :: vs) (w :: ws)

inductive RenamedSource (ρ : Renaming) (st st' : Store) : Option Node → Option Node → Prop where
  | none : RenamedSource ρ st st' none none
  | some {n m : Node} (h : Node.Renamed ρ st st' n m) : RenamedSource ρ st st' (some n) (some m)

end

/-! ## What renamings have in common -/

section

variable {ρ : Renaming} {st st' : Store} {v w : Value} {n m : Node}

/-- A walk through a value that is no node meets nothing. -/
theorem Value.walk_of_bare (h : ∀ n, v ≠ .node n) : v.uses = [] ∧ v.WellIndexed ∧ v.symbol? = Option.none := by
  cases v with
  | node n => exact absurd rfl (h n)
  | _ => exact ⟨rfl, trivial, rfl⟩

namespace Value.SameBare

theorem ne_node (h : v.SameBare w) : (∀ n, v ≠ .node n) ∧ ∀ n, w ≠ .node n := by
  cases h with
  | shared h => exact ⟨h, h⟩
  | _ => exact ⟨by rintro n ⟨⟩, by rintro n ⟨⟩⟩

theorem symm (h : v.SameBare w) : w.SameBare v := by
  cases h with
  | int n m m' => exact .int n m' m
  | float x m m' => exact .float x m' m
  | complex re im m m' => exact .complex re im m' m
  | scalar s m m' => exact .scalar s m' m
  | array a m => exact .array { a with mark := m } a.mark
  | shared h => exact .shared h

theorem trans {x : Value} (h : v.SameBare w) (h' : w.SameBare x) : v.SameBare x := by
  cases h with
  | int n m m' =>
    cases h' with
    | int _ _ m'' => exact .int n m m''
    | shared => exact .int n m m'
  | float y m m' =>
    cases h' with
    | float _ _ m'' => exact .float y m m''
    | shared => exact .float y m m'
  | complex re im m m' =>
    cases h' with
    | complex _ _ _ m'' => exact .complex re im m m''
    | shared => exact .complex re im m m'
  | scalar s m m' =>
    cases h' with
    | scalar _ _ m'' => exact .scalar s m m''
    | shared => exact .scalar s m m'
  | array a m =>
    cases h' with
    | array _ m' => exact .array a m'
    | shared => exact .array a m
  | shared => exact h'

theorem shapeOf (h : v.SameBare w) (slots slots' : Slots) :
    SameAnswer ShapesAlike (slots.shapeOf v) (slots'.shapeOf w) := by
  have heq : slots.shapeOf v = slots'.shapeOf w := by
    cases h with
    | shared h =>
      cases v with
      | node n => exact absurd rfl (h n)
      | _ => rfl
    | _ => rfl
  rw [heq]
  exact .refl ShapesAlike.refl _

theorem eltype (h : v.SameBare w) :
    SameAnswer (fun e e' : ElementType => e.map Dtype.plain = e'.map Dtype.plain) (bodyElementType v)
      (bodyElementType w) := by
  have heq : bodyElementType v = bodyElementType w := by cases h <;> rfl
  rw [heq]
  exact sameAnswer_bodyElementType_refl w

theorem ofValue (S : Symbol → Symbol → Prop) (h : v.SameBare w) :
    SameAnswer (OutputIndex.Matched S) (OutputIndex.ofValue v) (OutputIndex.ofValue w) := by
  have hbare : ∀ {v : Value}, (∀ n, v ≠ .node n) →
      SameAnswer (OutputIndex.Matched S) (OutputIndex.ofValue v) (OutputIndex.ofValue v) := by
    intro v hv
    unfold OutputIndex.ofValue
    split
    · exact rfl
    · exact absurd rfl (hv _)
    · exact .literal _ _ _
    · split
      · exact .literal _ _ _
      · exact rfl
  cases h with
  | int n m m' => exact .literal n m m'
  | float | complex | array => exact rfl
  | scalar s m m' =>
    have hintegral : (Value.scalar s m).integral? = (Value.scalar s m').integral? := rfl
    unfold OutputIndex.ofValue
    dsimp only
    rw [hintegral]
    cases (Value.scalar s m').integral? with
    | none => exact rfl
    | some n => exact .literal n _ _
  | shared h => exact hbare h

end Value.SameBare

theorem Node.Renamed.type_eq (h : n.Renamed ρ st st' m) : n.type.plain = m.type.plain := by
  cases h with
  | symbol h _ => exact h.type_eq
  | constant => rfl
  | term _ _ ht _ => exact ht
  | @arrayOp _ _ output output' _ _ _ _ _ _ _ _ k e e' _ _ houtput _ _ he _ =>
    show DeclaredType.array k (e.map Dtype.plain) (some output.length) =
      .array k (e'.map Dtype.plain) (some output'.length)
    rw [he, houtput.length_eq]

theorem Node.Renamed.twins (h : n.Renamed ρ st st' m) : st.Twins st' n.id m.id := by
  cases h with
  | symbol _ htwins => exact htwins
  | constant _ _ _ htwins => exact htwins
  | term _ _ _ htwins => exact htwins
  | arrayOp _ _ _ _ htwins => exact htwins

theorem Node.Renamed.shapeOf (h : n.Renamed ρ st st' m) :
    SameAnswer ShapesAlike (st.slots.shapeOf (.node n)) (st'.slots.shapeOf (.node m)) := by
  refine Slots.sameAnswer_shapeOf h.twins.slot ?_
  have harray : n.isArray = m.isArray := DeclaredType.isArray_of_plain h.type_eq
  cases h with
  | constant => rfl
  | _ => exact congrArg (fun b : Bool => Except.ok (if b then none else some Shape.scalar)) harray

theorem Value.Renamed.shapeOf (h : v.Renamed ρ st st' w) :
    SameAnswer ShapesAlike (st.slots.shapeOf v) (st'.slots.shapeOf w) := by
  cases h with
  | node h => exact h.shapeOf
  | tuple | list | view => exact rfl
  | bare h => exact h.shapeOf _ _

theorem Value.Renamed.eltype (h : v.Renamed ρ st st' w) :
    SameAnswer (fun e e' : ElementType => e.map Dtype.plain = e'.map Dtype.plain) (bodyElementType v)
      (bodyElementType w) := by
  cases h with
  | node h => exact sameAnswer_bodyElementType h.type_eq
  | tuple | list | view => exact rfl
  | bare h => exact h.eltype

theorem Value.Renamed.symbol? (h : v.Renamed ρ st st' w) : Option.Rel ρ.Corresponds v.symbol? w.symbol? := by
  cases h with
  | node h =>
    cases h with
    | symbol h _ => exact .some h
    | _ => exact .none
  | tuple | list | view => exact .none
  | bare h =>
    rw [(walk_of_bare h.ne_node.1).2.2, (walk_of_bare h.ne_node.2).2.2]
    exact .none

theorem RenamedAll.forall₂ {vs ws : List Value} (h : RenamedAll ρ st st' vs ws) :
    List.Forall₂ (Value.Renamed ρ st st') vs ws := by
  induction vs generalizing ws with
  | nil =>
    cases h
    exact .nil
  | cons v vs ih =>
    cases h with
    | cons h hs => exact .cons h (ih hs)

theorem Value.Renamed.keyUses {array array' : Value} (h : array.Renamed ρ st st' array') {keys keys' : List Value}
    (hkeys : RenamedAll ρ st st' keys keys') (d : Nat) :
    List.Forall₂ (Use.Matched ρ.Corresponds st.slots st'.slots) (keyUses array d keys) (keyUses array' d keys') :=
  keyUses_related (fun _ _ _ hst => ⟨hst, rfl, h.shapeOf⟩) (hkeys.forall₂.imp fun _ _ hk => hk.symbol?) d

end

mutual

theorem Node.Renamed.walked {ρ : Renaming} {st st' : Store} : ∀ {n m : Node}, n.Renamed ρ st st' m →
    (n.WellIndexed ↔ m.WellIndexed) ∧
      List.Forall₂ (Use.Matched ρ.Corresponds st.slots st'.slots) n.uses m.uses
  | _, _, .symbol _ _ => ⟨Iff.rfl, .nil⟩
  | _, _, .constant _ _ _ _ => ⟨Iff.rfl, .nil⟩
  | _, _, @Node.Renamed.term _ _ _ _ _ op op' args args' _ _ _ _ _ _ hop hargs _ _ => by
    rw [Node.WellIndexed, Node.WellIndexed, ← hop]
    cases hget : op.isGetitem with
    | true =>
      have hget' := hop.symm.trans hget
      cases hargs with
      | nil => exact ⟨Iff.rfl, by rw [Node.uses, Node.uses, if_pos hget, if_pos hget']; exact .nil⟩
      | cons harray hkeys =>
        rw [Node.uses_indexing hget, Node.uses_indexing hget']
        exact ⟨iff_of_true (List.cons_ne_nil _ _) (List.cons_ne_nil _ _), harray.keyUses hkeys 1⟩
    | false =>
      rw [Node.uses_application hget, Node.uses_application (hop.symm.trans hget)]
      exact RenamedAll.walked hargs
  | _, _, .arrayOp _ hbody hsource _ _ => by
    obtain ⟨hwell, huses⟩ := Value.Renamed.walked hbody
    obtain ⟨hwells, husess⟩ := RenamedSource.walked hsource
    rw [Node.WellIndexed, Node.WellIndexed, Node.uses, Node.uses]
    exact ⟨and_congr hwell hwells, List.rel_append huses husess⟩
termination_by structural _ _ h => h

theorem Value.Renamed.walked {ρ : Renaming} {st st' : Store} : ∀ {v w : Value}, v.Renamed ρ st st' w →
    (v.WellIndexed ↔ w.WellIndexed) ∧
      List.Forall₂ (Use.Matched ρ.Corresponds st.slots st'.slots) v.uses w.uses
  | _, _, .node h => Node.Renamed.walked h
  | _, _, .tuple _ _ _ => ⟨Iff.rfl, .nil⟩
  | _, _, .list _ _ _ => ⟨Iff.rfl, .nil⟩
  | _, _, .view _ _ _ => ⟨Iff.rfl, .nil⟩
  | _, _, .bare h => by
    obtain ⟨hv, hw⟩ := h.ne_node
    rw [(Value.walk_of_bare hv).1, (Value.walk_of_bare hw).1]
    exact ⟨iff_of_true (Value.walk_of_bare hv).2.1 (Value.walk_of_bare hw).2.1, .nil⟩
termination_by structural _ _ h => h

theorem RenamedAll.walked {ρ : Renaming} {st st' : Store} : ∀ {vs ws : List Value}, RenamedAll ρ st st' vs ws →
    (wellIndexedAll vs ↔ wellIndexedAll ws) ∧
      List.Forall₂ (Use.Matched ρ.Corresponds st.slots st'.slots) (usesOfAll vs) (usesOfAll ws)
  | _, _, .nil => ⟨Iff.rfl, .nil⟩
  | _, _, .cons h hs => by
    obtain ⟨hwell, huses⟩ := Value.Renamed.walked h
    obtain ⟨hwells, husess⟩ := RenamedAll.walked hs
    exact ⟨and_congr hwell hwells, List.rel_append huses husess⟩
termination_by structural _ _ h => h

theorem RenamedSource.walked {ρ : Renaming} {st st' : Store} : ∀ {source source' : Option Node},
    RenamedSource ρ st st' source source' → (wellIndexedSource source ↔ wellIndexedSource source') ∧
      List.Forall₂ (Use.Matched ρ.Corresponds st.slots st'.slots) (usesOfSource source) (usesOfSource source')
  | _, _, .none => ⟨Iff.rfl, .nil⟩
  | _, _, .some h => Node.Renamed.walked h
termination_by structural _ _ h => h

end

mutual

theorem Node.Renamed.grown {ρ : Renaming} {st st' st₁ st₁' : Store} (hg : st.Grown st₁) (hg' : st'.Grown st₁') :
    ∀ {n m : Node}, n.Renamed ρ st st' m → n.Renamed ρ st₁ st₁' m
  | _, _, .symbol h htwins => .symbol h (htwins.grown hg hg')
  | _, _, .constant d tm tm' htwins => .constant d tm tm' (htwins.grown hg hg')
  | _, _, .term hop hargs ht htwins => .term hop (RenamedAll.grown hg hg' hargs) ht (htwins.grown hg hg')
  | _, _, .arrayOp houtput hbody hsource he htwins =>
    .arrayOp houtput (Value.Renamed.grown hg hg' hbody) (RenamedSource.grown hg hg' hsource) he (htwins.grown hg hg')
termination_by structural _ _ h => h

theorem Value.Renamed.grown {ρ : Renaming} {st st' st₁ st₁' : Store} (hg : st.Grown st₁) (hg' : st'.Grown st₁') :
    ∀ {v w : Value}, v.Renamed ρ st st' w → v.Renamed ρ st₁ st₁' w
  | _, _, .node h => .node (Node.Renamed.grown hg hg' h)
  | _, _, .tuple h m m' => .tuple (RenamedAll.grown hg hg' h) m m'
  | _, _, .list h m m' => .list (RenamedAll.grown hg hg' h) m m'
  | _, _, .view h vm vm' => .view (Node.Renamed.grown hg hg' h) vm vm'
  | _, _, .bare h => .bare h
termination_by structural _ _ h => h

theorem RenamedAll.grown {ρ : Renaming} {st st' st₁ st₁' : Store} (hg : st.Grown st₁) (hg' : st'.Grown st₁') :
    ∀ {vs ws : List Value}, RenamedAll ρ st st' vs ws → RenamedAll ρ st₁ st₁' vs ws
  | _, _, .nil => .nil
  | _, _, .cons h hs => .cons (Value.Renamed.grown hg hg' h) (RenamedAll.grown hg hg' hs)
termination_by structural _ _ h => h

theorem RenamedSource.grown {ρ : Renaming} {st st' st₁ st₁' : Store} (hg : st.Grown st₁) (hg' : st'.Grown st₁') :
    ∀ {source source' : Option Node}, RenamedSource ρ st st' source source' → RenamedSource ρ st₁ st₁' source source'
  | _, _, .none => .none
  | _, _, .some h => .some (Node.Renamed.grown hg hg' h)
termination_by structural _ _ h => h

end

/-! ## Every value has its renaming -/

def OutputIndex.rename (ρ : Renaming) : OutputIndex → OutputIndex
  | .literal n m => .literal n m
  | .symbol s => .symbol (ρ.apply s)

mutual

def Node.rename (ρ : Renaming) : Node → Node
  | .symbol s => .symbol (ρ.apply s)
  | .constant id d tm => .constant id d tm
  | .term id op args am t tm => .term id op (renameAll ρ args) am t tm
  | .arrayOp id output om body reduce source k e tm =>
    .arrayOp id (output.map (OutputIndex.rename ρ)) om (body.rename ρ) reduce (renameSource ρ source) k e tm
termination_by structural n => n

def Value.rename (ρ : Renaming) : Value → Value
  | .node n => .node (n.rename ρ)
  | .tuple items m => .tuple (renameAll ρ items) m
  | .list items m => .list (renameAll ρ items) m
  | .view n m => .view (n.rename ρ) m
  | v => v
termination_by structural v => v

def renameAll (ρ : Renaming) : List Value → List Value
  | [] => []
  | v :: vs => v.rename ρ :: renameAll ρ vs
termination_by structural vs => vs

def renameSource (ρ : Renaming) : Option Node → Option Node
  | .none => .none
  | .some n => .some (n.rename ρ)
termination_by structural source => source

end

theorem OutputIndex.matched_rename (ρ : Renaming) (i : OutputIndex) : i.Matched ρ.Corresponds (i.rename ρ) := by
  cases i with
  | literal n m => exact .literal n m m
  | symbol s => exact .symbol (ρ.corresponds_apply s)

theorem Store.twins_self {st : Store} {id : NodeId} (h : id < st.next) : st.Twins st id id := ⟨h, h, rfl⟩

mutual

theorem Node.renamed_rename (ρ : Renaming) {st : Store} :
    ∀ n : Node, st.HasNodes n.nodes → n.Renamed ρ st st (n.rename ρ)
  | .symbol s, h => by
    refine .symbol (ρ.corresponds_apply s) ?_
    rw [ρ.id_apply]
    exact Store.twins_self (h _ (Node.mem_nodes_self _))
  | .constant id d tm, h => .constant d tm tm (Store.twins_self (h _ (Node.mem_nodes_self _)))
  | .term id op args am t tm, h => by
    refine .term rfl (renamedAll_rename ρ args fun n hn => h n ?_) rfl (Store.twins_self (h _ (Node.mem_nodes_self _)))
    rw [Node.nodes]
    exact List.mem_cons_of_mem _ (List.mem_append_right _ hn)
  | .arrayOp id output om body reduce source k e tm, h => by
    have hself := h _ (Node.mem_nodes_self _)
    rw [Node.nodes] at h
    refine .arrayOp ?_ (Value.renamed_rename ρ body fun n hn => h n ?_)
      (renamedSource_rename ρ source fun n hn => h n ?_) rfl (Store.twins_self hself)
    · exact List.forall₂_map_right_iff.2 (List.forall₂_same.2 fun i _ => i.matched_rename ρ)
    · exact List.mem_cons_of_mem _ (List.mem_append_left _ (List.mem_append_left _ (List.mem_append_right _ hn)))
    · exact List.mem_cons_of_mem _ (List.mem_append_right _ hn)
termination_by structural n => n

theorem Value.renamed_rename (ρ : Renaming) {st : Store} :
    ∀ v : Value, st.HasNodes v.nodes → v.Renamed ρ st st (v.rename ρ)
  | .node n, h => .node (Node.renamed_rename ρ n h)
  | .tuple items m, h => .tuple (renamedAll_rename ρ items h) m m
  | .list items m, h => .list (renamedAll_rename ρ items h) m m
  | .view n m, h => .view (Node.renamed_rename ρ n h) m m
  | .none, _ | .bool _, _ | .int .., _ | .float .., _ | .complex .., _ | .scalar .., _ | .text .., _ | .dict .., _
  | .range _, _ | .slice .., _ | .unknown, _ | .shape _, _ | .dtype _, _ | .kind _, _ | .code _, _ | .type .., _
  | .array _, _ | .object _, _ | .callable _, _ | .occurrence .., _ | .space .., _ | .registry _, _
  | .diagnostic .., _ | .iterator .., _ => .bare (.shared (by rintro n ⟨⟩))
termination_by structural v => v

theorem renamedAll_rename (ρ : Renaming) {st : Store} :
    ∀ vs : List Value, st.HasNodes (nodesOfAll vs) → RenamedAll ρ st st vs (renameAll ρ vs)
  | [], _ => .nil
  | v :: vs, h => by
    rw [nodesOfAll] at h
    exact .cons (Value.renamed_rename ρ v fun n hn => h n (List.mem_append_left _ hn))
      (renamedAll_rename ρ vs fun n hn => h n (List.mem_append_right _ hn))
termination_by structural vs => vs

theorem renamedSource_rename (ρ : Renaming) {st : Store} :
    ∀ source : Option Node, st.HasNodes (nodesOfSource source) → RenamedSource ρ st st source (renameSource ρ source)
  | .none, _ => .none
  | .some n, h => .some (Node.renamed_rename ρ n h)
termination_by structural source => source

end

/-! ## Arrays over renamed bodies -/

/-- Output sequences of the same entries under new names; what is no sequence stays as it is. -/
inductive Value.RenamedOutput (ρ : Renaming) (st st' : Store) : Value → Value → Prop where
  | tuple {items items' : List Value} (h : RenamedAll ρ st st' items items') (m m' : Mark) :
      RenamedOutput ρ st st' (.tuple items m) (.tuple items' m')
  | list {items items' : List Value} (h : RenamedAll ρ st st' items items') (m m' : Mark) :
      RenamedOutput ρ st st' (.list items m) (.list items' m')
  | other {v : Value} (htuple : ∀ items m, v ≠ .tuple items m) (hlist : ∀ items m, v ≠ .list items m) :
      RenamedOutput ρ st st' v v

section

variable {ρ : Renaming} {st st' : Store} {v w : Value}

theorem Value.Renamed.ofValue (h : v.Renamed ρ st st' w) :
    SameAnswer (OutputIndex.Matched ρ.Corresponds) (OutputIndex.ofValue v) (OutputIndex.ofValue w) := by
  cases h with
  | node h =>
    cases h with
    | @symbol s t h _ =>
      unfold OutputIndex.ofValue
      dsimp only
      rw [DeclaredType.isArray_of_plain h.type_eq]
      split
      · exact rfl
      · exact .symbol h
    | _ => exact rfl
  | tuple | list | view => exact rfl
  | bare h => exact h.ofValue _

theorem Value.RenamedOutput.toOutput (h : v.RenamedOutput ρ st st' w) :
    SameAnswer (List.Forall₂ (OutputIndex.Matched ρ.Corresponds)) v.toOutput w.toOutput := by
  cases h with
  | tuple h _ _ => exact SameAnswer.mapM (fun _ _ h => h.ofValue) h.forall₂
  | list h _ _ => exact SameAnswer.mapM (fun _ _ h => h.ofValue) h.forall₂
  | other htuple hlist =>
    cases v with
    | tuple items m => exact absurd rfl (htuple items m)
    | list items m => exact absurd rfl (hlist items m)
    | shape s =>
      refine SameAnswer.mapM (R := fun v w => v = w ∧ ∃ a, v = .range a) ?_ (List.forall₂_same.2 fun v hv => ⟨rfl, ?_⟩)
      · rintro _ _ ⟨rfl, a, rfl⟩
        exact rfl
      · obtain ⟨a, -, rfl⟩ := List.mem_map.1 hv
        exact ⟨a, rfl⟩
    | _ => exact rfl

theorem Value.Renamed.toSource (h : v.Renamed ρ st st' w) :
    SameAnswer (RenamedSource ρ st st') v.toSource w.toSource := by
  cases h with
  | node h => exact .some h
  | tuple | list | view => exact rfl
  | bare h =>
    cases h with
    | shared h =>
      cases v with
      | node n => exact absurd rfl (h n)
      | none => exact .none
      | _ => exact rfl
    | _ => exact rfl

theorem Value.kept_bare {e : ElementType} (h : bodyElementType v = .ok e) (hv : ∀ n, v ≠ .node n) :
    Keeps v.kept v.SameBare := by
  cases v with
  | node n => exact absurd rfl (hv n)
  | bool b => exact Keeps.pure (.shared hv)
  | int n m => exact (Keeps.given m).bind fun m' _ => Keeps.pure (.int n m m')
  | float x m => exact (Keeps.given m).bind fun m' _ => Keeps.pure (.float x m m')
  | complex re im m => exact (Keeps.given m).bind fun m' _ => Keeps.pure (.complex re im m m')
  | scalar s m => exact (Keeps.given m).bind fun m' _ => Keeps.pure (.scalar s m m')
  | array a => exact (Keeps.given a.mark).bind fun m _ => Keeps.pure (.array a m)
  | _ => cases h

theorem Value.Renamed.kept {a b : Value} {e e' : ElementType} (h : v.Renamed ρ st st' w)
    (hv : bodyElementType v = .ok e) (hw : bodyElementType w = .ok e') (ha : Gives v.kept a) (hb : Gives w.kept b) :
    a.Renamed ρ st st' b := by
  cases h with
  | node h =>
    obtain ⟨_, rfl⟩ := ha
    obtain ⟨_, rfl⟩ := hb
    exact .node h
  | tuple | list | view => cases hv
  | bare h =>
    have hva := (Value.kept_bare hv h.ne_node.1).of_gives ha
    have hwb := (Value.kept_bare hw h.ne_node.2).of_gives hb
    exact .bare (hva.symm.trans (h.trans hwb))

theorem OutputIndex.kept_plain (i : OutputIndex) : Keeps i.kept fun j => j.plain = i.plain := by
  cases i with
  | literal n m => exact (Keeps.given m).bind fun _ _ => Keeps.pure rfl
  | symbol s => exact Keeps.pure rfl

theorem OutputIndex.Matched.of_plain {S : Symbol → Symbol → Prop} {i j i' j' : OutputIndex} (h : i.Matched S j)
    (hi : i'.plain = i.plain) (hj : j'.plain = j.plain) : i'.Matched S j' := by
  cases h with
  | literal n m m' =>
    cases i' <;> cases hi
    cases j' <;> cases hj
    exact .literal n _ _
  | symbol h =>
    cases i' <;> cases hi
    cases j' <;> cases hj
    exact .symbol h

theorem OutputIndex.matched_kept {S : Symbol → Symbol → Prop} {is js is' js' : List OutputIndex}
    (h : List.Forall₂ (OutputIndex.Matched S) is js) (hi : Gives (is.mapM OutputIndex.kept) is')
    (hj : Gives (js.mapM OutputIndex.kept) js') : List.Forall₂ (OutputIndex.Matched S) is' js' := by
  replace hi := (Keeps.mapM OutputIndex.kept_plain is).of_gives hi
  replace hj := (Keeps.mapM OutputIndex.kept_plain js).of_gives hj
  induction h generalizing is' js' with
  | nil =>
    cases hi
    cases hj
    exact .nil
  | cons h _ ih =>
    cases hi with
    | cons hi his =>
      cases hj with
      | cons hj hjs => exact .cons (h.of_plain hi hj) (ih his hjs)

end

namespace Build

theorem arrayOp_new {output body reduce source container : Value} {n : Node} {st st₁ : Store}
    (h : outcome (arrayOp output body reduce source container) st = (.ok n, st₁)) :
    ∃ out f src e k info, output.toOutput = .ok out ∧ source.toSource = .ok src ∧ bodyElementType body = .ok e ∧
      container.toContainer = .ok k ∧ IsNewArrayOp n out body f src k e st ∧ n.id < st₁.next ∧
      st₁.slots.get? n.id = some info := by
  obtain ⟨st₂, hnode, hslots, hnext⟩ := arrayOp_ok h
  obtain ⟨out, f, src, e, k, hout, -, hsrc, he, hk, hindexed⟩ := arrayOpNode_ok.1 hnode
  obtain ⟨st₃, info, st₄, info', hnew, -, -, -, -, hinsert, hlt⟩ := indexed_spec hindexed
  refine ⟨out, f, src, e, k, info', hout, hsrc, he, hk, hnew, ?_, ?_⟩
  · rw [hnew.id_eq, hnext]
    exact hlt
  · rw [hslots, hinsert, Slots.get?_insert_self]

variable {ρ : Renaming} {st st' : Store} {output output' body body' source source' : Value}

/-- **What the indices are called has no say.**  Over renamed parts an array is built exactly if it is over the first
ones, and refused for the same otherwise; it has the same container, element type, rank and shape, and it is the first
array under new names. -/
theorem arrayOp_renamed (hw : st.WellFormed) (hw' : st'.WellFormed) (ho : output.RenamedOutput ρ st st' output')
    (hb : body.Renamed ρ st st' body') (hs : source.Renamed ρ st st' source') (reduce container : Value) :
    Together (fun st₁ st₁' n m => n.Renamed ρ st₁ st₁' m ∧ n.type.plain = m.type.plain ∧
        SameAnswer ShapesAlike (st₁.slots.shapeOf (.node n)) (st₁'.slots.shapeOf (.node m)))
      (outcome (arrayOp output body reduce source container) st)
      (outcome (arrayOp output' body' reduce source' container) st') := by
  obtain ⟨hwell, huses⟩ := hb.walked
  have hread := ArrayOpParts.sameAnswer_read ho.toOutput hs.toSource hb.eltype reduce container
  have hbuilt := sameBuilt_arrayOp hw hw' hread (fun _ _ h => h.length_eq)
    fun _ _ h => sameAnswer_outputShape_of_matched ρ.faithful hwell huses h
  refine (sameBuilt_iff_together.1 hbuilt).imp fun n m st₁ st₁' hx hy hnm => ⟨?_, hnm⟩
  -- Both nodes are new, over the parts that were read, so that only what is attached to them is left to compare.
  have hg := (grows_arrayOp _ _ _ _ _).of_ok hw hx
  have hg' := (grows_arrayOp _ _ _ _ _).of_ok hw' hy
  obtain ⟨out, f, src, e, k, info, hout, hsrc, he, hk, hn, hlt, hslot⟩ := arrayOp_new hx
  obtain ⟨out', f', src', e', k', info', hout', hsrc', he', hk', hm, hlt', hslot'⟩ := arrayOp_new hy
  have htwins : st₁.Twins st₁' n.id m.id := by
    refine ⟨hlt, hlt', ?_⟩
    have hshape := hnm.2
    rw [Slots.shapeOf_of_slot hslot, Slots.shapeOf_of_slot hslot'] at hshape
    rw [hslot, hslot']
    exact congrArg some hshape
  obtain ⟨out₁, om, body₁, reduce₁, e₁, tm, rfl, hout₁, hbody₁, -, he₁⟩ := hn
  obtain ⟨out₁', om', body₁', reduce₁', e₁', tm', rfl, hout₁', hbody₁', -, he₁'⟩ := hm
  have houtput := ho.toOutput
  have hsource := hs.toSource
  have heltype := hb.eltype
  rw [hout, hout'] at houtput
  rw [hsrc, hsrc'] at hsource
  rw [he, he'] at heltype
  obtain rfl : k = k' := Except.ok.inj (hk.symm.trans hk')
  refine .arrayOp (OutputIndex.matched_kept houtput hout₁ hout₁') ?_ (RenamedSource.grown hg hg' hsource) ?_ htwins
  · exact Value.Renamed.grown hg hg' (hb.kept he he' hbody₁ hbody₁')
  · rw [(Dtype.optionKept_plain e).of_gives he₁, (Dtype.optionKept_plain e').of_gives he₁']
    exact heltype

/-- `a[i, j] * b[j]` summed over `i`, with the names `i` and `j` exchanged. -/
theorem arrayOp_renamed_exchanged :
    let ρ := Renaming.ofNames (Equiv.swap "i" "j") (Equiv.injective _)
    let st : Store := { Store.empty with next := 20 }
    let a : Value := .node (.constant 3 (.array ⟨0, [some 2, some 3], none, .filled (.int 0)⟩) 4)
    let b : Value := .node (.constant 5 (.array ⟨0, [some 3], none, .filled (.int 0)⟩) 6)
    let i : Symbol := ⟨7, .ofString "i", .scalar (some .index), 8⟩
    let j : Symbol := ⟨9, .ofString "j", .scalar (some .index), 10⟩
    let element (id : NodeId) (array : Value) (keys : List Symbol) : Value :=
      .node (.term id (.primitive .getitem) (array :: keys.map fun s => .node (.symbol s)) 11 (.scalar none) 12)
    let body : Value := .node (.term 13 (.primitive .mul) [element 14 a [i, j], element 15 b [j]] 16 (.scalar none) 17)
    let request (output : Symbol) (body : Value) := outcome
      (arrayOp (.tuple [.node (.symbol output)] 18) body (.callable (.primitive .add)) .none (.kind .plain)) st
    (ρ.apply j).name.content = "i" ∧ ∃ n m st₁ st₁', request j body = (.ok n, st₁) ∧
      request (ρ.apply j) (body.rename ρ) = (.ok m, st₁') ∧ n.type.plain = m.type.plain ∧
      SameAnswer ShapesAlike (st₁.slots.shapeOf (.node n)) (st₁'.slots.shapeOf (.node m)) := by
  intro ρ st a b i j element body request
  have hst : st.WellFormed := fun _ _ => rfl
  have hbody : st.HasNodes body.nodes := by
    intro n hn
    simp only [body, element, a, b, Value.nodes, Node.nodes, nodesOfAll, Callable.nodes, List.map_cons, List.map_nil,
      List.nil_append, List.append_nil, List.cons_append, List.mem_cons, List.not_mem_nil, or_false] at hn
    rcases hn with rfl | rfl | rfl | rfl | rfl | rfl | rfl | rfl <;> simp [Node.id, st, i, j]
  have hj : (Value.node (.symbol j)).Renamed ρ st st (.node (.symbol (ρ.apply j))) :=
    Value.renamed_rename ρ (.node (.symbol j)) (List.forall_mem_singleton.2 (by simp [Node.id, st, j]))
  have hnone : Value.Renamed ρ st st .none .none := .bare (.shared (by rintro n ⟨⟩))
  have htogether := arrayOp_renamed hst hst (.tuple (.cons hj .nil) 18 18) (Value.renamed_rename ρ body hbody) hnone
    (.callable (.primitive .add)) (.kind .plain)
  refine ⟨Equiv.swap_apply_right _ _, ?_⟩
  rcases htogether.cases with ⟨n, m, st₁, st₁', hn, hm, -, htype, hshape⟩ | ⟨f, g, st₁, st₁', hf, -⟩
  · exact ⟨n, m, st₁, st₁', hn, hm, htype, hshape⟩
  · cases hf

end Build

end ArrayTyping

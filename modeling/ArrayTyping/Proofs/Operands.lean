import ArrayTyping.Proofs.Making
import ArrayTyping.Proofs.Occurrences
/-!
# Operands — nodes and literals in an application

Nodes and literals are operands as they are.  Inside an application a node stays the same node and a literal gets a
mark, so the uses in an application are those in its operands, and the uses in an indexing are those of its keys.
-/
namespace ArrayTyping

open Build

def Value.IsOperand (v : Value) : Prop := v.isScalarLiteral = true ∨ ∃ n, v = .node n

theorem isOperand_nodes (ns : List Node) : ∀ v ∈ ns.map Value.node, v.IsOperand := by
  intro v hv
  obtain ⟨n, -, rfl⟩ := List.mem_map.1 hv
  exact .inr ⟨n, rfl⟩

theorem outcome_operand {v : Value} (h : v.IsOperand) (st : Store) : outcome (operand v) st = (.ok v, st) := by
  rcases h with h | ⟨n, rfl⟩
  · cases v with
    | bool | int | float | complex | scalar => rfl
    | _ => cases h
  · rfl

theorem outcome_operands {vs : List Value} (h : ∀ v ∈ vs, v.IsOperand) (st : Store) :
    outcome (vs.mapM operand) st = (.ok vs, st) := by
  induction vs with
  | nil => rfl
  | cons v vs ih =>
    obtain ⟨hv, hvs⟩ := List.forall_mem_cons.1 h
    rw [outcome_mapM_cons_ok]
    exact ⟨_, _, _, outcome_operand hv st, ih hvs, rfl⟩

theorem arrayType?_of_operand {v w : Value} {st st' : Store} (h : outcome (operand v) st = (.ok w, st')) :
    w.arrayType? = v.arrayType? := by
  rcases operand_ok h with ⟨rfl, -, -⟩ | ⟨a, n, rfl, rfl, hn⟩
  · rfl
  · obtain ⟨d, -, -, hd, rfl, -⟩ := constant_ok hn
    cases d with
    | scalar => cases hd
    | array b =>
      cases hd
      rfl

theorem arrayTypes_of_operands {vs ws : List Value} {st st' : Store}
    (h : outcome (vs.mapM operand) st = (.ok ws, st')) : ws.map Value.arrayType? = vs.map Value.arrayType? := by
  induction vs generalizing st ws with
  | nil =>
    obtain ⟨rfl, -⟩ := outcome_mapM_nil_ok.1 h
    rfl
  | cons v vs ih =>
    obtain ⟨w, st₁, ws, hv, hvs, rfl⟩ := outcome_mapM_cons_ok.1 h
    rw [List.map_cons, List.map_cons, arrayType?_of_operand hv, ih hvs]

theorem Value.walk_of_literal {v : Value} (h : v.isScalarLiteral = true) :
    v.uses = [] ∧ v.WellIndexed ∧ v.symbol? = Option.none ∧ v.arrayType? = Option.none := by
  cases v with
  | bool | int | float | complex | scalar => exact ⟨rfl, trivial, rfl, rfl⟩
  | _ => cases h

/-! ## Operands inside a node -/

/-- What an operand is inside a node: a node stays the same, a literal stays a literal. -/
inductive KeptOperand : Value → Value → Prop where
  | node (n : Node) : KeptOperand (.node n) (.node n)
  | literal {v w : Value} (hv : v.isScalarLiteral = true) (hw : w.isScalarLiteral = true) : KeptOperand v w

namespace KeptOperand

variable {v w : Value} {vs ws : List Value}

theorem uses_eq (h : KeptOperand v w) : w.uses = v.uses := by
  cases h with
  | node n => rfl
  | literal hv hw => rw [(Value.walk_of_literal hv).1, (Value.walk_of_literal hw).1]

theorem symbol?_eq (h : KeptOperand v w) : w.symbol? = v.symbol? := by
  cases h with
  | node n => rfl
  | literal hv hw => rw [(Value.walk_of_literal hv).2.2.1, (Value.walk_of_literal hw).2.2.1]

theorem wellIndexed_iff (h : KeptOperand v w) : w.WellIndexed ↔ v.WellIndexed := by
  cases h with
  | node n => exact Iff.rfl
  | literal hv hw => exact iff_of_true (Value.walk_of_literal hw).2.1 (Value.walk_of_literal hv).2.1

theorem usesOfAll_eq (h : List.Forall₂ KeptOperand vs ws) : usesOfAll ws = usesOfAll vs := by
  induction h with
  | nil => rfl
  | cons hv _ ih => rw [usesOfAll, usesOfAll, hv.uses_eq, ih]

theorem wellIndexedAll_iff (h : List.Forall₂ KeptOperand vs ws) : wellIndexedAll ws ↔ wellIndexedAll vs := by
  induction h with
  | nil => exact Iff.rfl
  | cons hvw _ ih => exact and_congr hvw.wellIndexed_iff ih

theorem keyUses_eq (h : List.Forall₂ KeptOperand vs ws) (array : Value) (d : Nat) :
    keyUses array d ws = keyUses array d vs := by
  induction h generalizing d with
  | nil => rfl
  | cons hvw _ ih => rw [keyUses_cons, keyUses_cons, hvw.symbol?_eq, ih]

end KeptOperand

theorem Value.IsOperand.kept {v : Value} (h : v.IsOperand) : Keeps v.kept (KeptOperand v) := by
  rcases h with h | ⟨n, rfl⟩
  · cases v with
    | bool b => exact Keeps.pure (.literal rfl rfl)
    | int n m => exact (Keeps.given m).bind fun _ _ => Keeps.pure (.literal rfl rfl)
    | float x m => exact (Keeps.given m).bind fun _ _ => Keeps.pure (.literal rfl rfl)
    | complex re im m => exact (Keeps.given m).bind fun _ _ => Keeps.pure (.literal rfl rfl)
    | scalar s m => exact (Keeps.given m).bind fun _ _ => Keeps.pure (.literal h rfl)
    | _ => cases h
  · exact Keeps.pure (.node n)

theorem Value.kept_walk {v : Value} {t : DeclaredType} (h : v.declaredType = .ok t) :
    Keeps v.kept fun w => w.uses = v.uses ∧ (w.WellIndexed ↔ v.WellIndexed) := by
  have hoperand : v.IsOperand → Keeps v.kept fun w => w.uses = v.uses ∧ (w.WellIndexed ↔ v.WellIndexed) :=
    fun hv => hv.kept.imp fun _ hw => ⟨hw.uses_eq, hw.wellIndexed_iff⟩
  cases v with
  | bool | int | float | complex | scalar => exact hoperand (.inl rfl)
  | node n => exact hoperand (.inr ⟨n, rfl⟩)
  | array a => exact (Keeps.given a.mark).bind fun _ _ => Keeps.pure ⟨rfl, Iff.rfl⟩
  | _ => cases h

theorem keptAll_operands {vs : List Value} (h : ∀ v ∈ vs, v.IsOperand) :
    Keeps (keptAll vs) (List.Forall₂ KeptOperand vs) := by
  induction vs with
  | nil => exact Keeps.pure .nil
  | cons v vs ih =>
    obtain ⟨hv, hvs⟩ := List.forall_mem_cons.1 h
    rw [keptAll]
    exact hv.kept.bind fun w hw => (ih hvs).bind fun ws hws => Keeps.pure (.cons hw hws)

theorem Callable.kept_isGetitem (f : Callable) : Keeps f.kept fun g => g.isGetitem = f.isGetitem := by
  cases f with
  | scaled k m =>
    rw [Callable.kept]
    split
    · exact k.kept_nodes.bind fun _ _ => (Keeps.given m).bind fun _ _ => Keeps.pure rfl
    · exact Keeps.pure rfl
  | unhashable k m =>
    rw [Callable.kept]
    split
    · exact k.kept_nodes.bind fun _ _ => (Keeps.given m).bind fun _ _ => Keeps.pure rfl
    · exact Keeps.pure rfl
  | elementwise f m =>
    rw [Callable.kept]
    split
    · exact f.kept_nodes.bind fun _ _ => (Keeps.given m).bind fun _ _ => Keeps.pure rfl
    · exact Keeps.pure rfl
  | _ => exact Keeps.pure rfl

namespace Build.IsNewTerm

variable {n : Node} {f : Callable} {args : List Value} {t : DeclaredType} {st : Store}

theorem symbol?_eq (h : IsNewTerm n f args t st) : (Value.node n).symbol? = none := by
  obtain ⟨f', args', am, t', tm, rfl, -⟩ := h
  rfl

theorem walk (h : IsNewTerm n f args t st) (hf : f.isGetitem = false) (hargs : ∀ v ∈ args, v.IsOperand) :
    n.uses = usesOfAll args ∧ (n.WellIndexed ↔ wellIndexedAll args) := by
  obtain ⟨f', args', am, t', tm, rfl, hf', hargs', -⟩ := h
  have hget : f'.isGetitem = false := (f.kept_isGetitem.of_gives hf').trans hf
  have hkept := (keptAll_operands hargs).of_gives hargs'
  refine ⟨by rw [Node.uses_application hget, KeptOperand.usesOfAll_eq hkept], ?_⟩
  rw [Node.WellIndexed.eq_def]
  dsimp only
  rw [if_neg (by rw [hget]; exact Bool.false_ne_true)]
  exact KeptOperand.wellIndexedAll_iff hkept

theorem walk_getitem {array : Value} {keys : List Value} (h : IsNewTerm n f (array :: keys) t st)
    (hf : f.isGetitem = true) (hargs : ∀ v ∈ array :: keys, v.IsOperand) :
    ∃ array', KeptOperand array array' ∧ n.uses = keyUses array' 1 keys ∧ n.WellIndexed := by
  obtain ⟨f', args', am, t', tm, rfl, hf', hargs', -⟩ := h
  have hget : f'.isGetitem = true := (f.kept_isGetitem.of_gives hf').trans hf
  cases (keptAll_operands hargs).of_gives hargs' with
  | @cons _ a _ ks ha hks =>
    refine ⟨a, ha, by rw [Node.uses_indexing hget, KeptOperand.keyUses_eq hks], ?_⟩
    rw [Node.WellIndexed, if_pos hget]
    exact List.cons_ne_nil _ _

theorem walk_nothing (h : IsNewTerm n f [] t st) (hf : f.isGetitem = true) : n.uses = [] ∧ ¬ n.WellIndexed := by
  obtain ⟨f', args', am, t', tm, rfl, hf', hargs', -⟩ := h
  have hget : f'.isGetitem = true := (f.kept_isGetitem.of_gives hf').trans hf
  cases (keptAll_operands (fun v hv => absurd hv List.not_mem_nil)).of_gives hargs' with
  | nil =>
    rw [Node.uses, if_pos hget, Node.WellIndexed, if_pos hget]
    exact ⟨rfl, fun hne => hne rfl⟩

theorem walk_indexing {array : Node} {keys : List Value}
    (h : IsNewTerm n (.primitive .getitem) (.node array :: keys) t st) (hkeys : ∀ v ∈ keys, v.IsOperand) :
    n.uses = keyUses (.node array) 1 keys ∧ n.WellIndexed := by
  obtain ⟨a, ha, huses, hwell⟩ := h.walk_getitem rfl (List.forall_mem_cons.2 ⟨.inr ⟨array, rfl⟩, hkeys⟩)
  cases ha with
  | node => exact ⟨huses, hwell⟩
  | literal hv => cases hv

end Build.IsNewTerm

end ArrayTyping

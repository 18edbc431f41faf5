import ArrayTyping.Proofs.Axes
import ArrayTyping.Proofs.Nodes
/-!
# Occurrences — the uses of index symbols in a body

`uses` lists every use in the order in which a walk comes to it: through the operands of composite nodes from left to
right, not below an indexing, and at an indexing one use for each key that is a symbol.  Every walk visits exactly
these, and the usage that is collected groups them by symbol.
-/
namespace ArrayTyping

namespace Symbol

theorem same_iff {a b : Symbol} : a.same b = true ↔ a.name.content = b.name.content ∧ a.type.plain = b.type.plain := by
  simp only [same, Label.same, DeclaredType.same, Bool.and_eq_true, beq_iff_eq]

theorem same_refl (a : Symbol) : a.same a = true := same_iff.2 ⟨rfl, rfl⟩

theorem same_comm (a b : Symbol) : a.same b = b.same a := by
  rw [Bool.eq_iff_iff, same_iff, same_iff]
  exact and_congr eq_comm eq_comm

theorem same_congr {a b : Symbol} (h : a.same b = true) (c : Symbol) : a.same c = b.same c := by
  obtain ⟨hn, ht⟩ := same_iff.1 h
  rw [Bool.eq_iff_iff, same_iff, same_iff, hn, ht]

end Symbol

/-- One use of an index symbol: the `array` indexed along the `dimension`, counted from one. -/
structure Use where
  symbol : Symbol
  array : Value
  dimension : Nat

namespace Use

def occurrence (u : Use) : Occurrence := .along u.array u.dimension

def axis? (slots : Slots) (u : Use) : Option Axis :=
  match slots.shapeOf u.array with
  | .ok (some s) => some (s.axis u.dimension)
  | _ => none

end Use

namespace Value

def symbol? : Value → Option Symbol
  | .node (.symbol s) => some s
  | _ => Option.none

end Value

/-- The uses at the keys of one indexing: those that are symbols, numbered from `d` on among all keys. -/
def keyUses (array : Value) (d : Nat) (keys : List Value) : List Use :=
  (keys.zipIdx d).filterMap fun key => key.1.symbol?.map (⟨·, array, key.2⟩)

theorem keyUses_cons (array : Value) (d : Nat) (key : Value) (keys : List Value) :
    keyUses array d (key :: keys) = (key.symbol?.map (⟨·, array, d⟩)).toList ++ keyUses array (d + 1) keys := by
  rw [keyUses, List.zipIdx_cons, List.filterMap_cons]
  cases key.symbol? <;> rfl

theorem keyUses_related {S : Symbol → Symbol → Prop} {R : Use → Use → Prop} {array array' : Value}
    (hR : ∀ s t d, S s t → R ⟨s, array, d⟩ ⟨t, array', d⟩) {keys keys' : List Value}
    (h : List.Forall₂ (fun k k' => Option.Rel S k.symbol? k'.symbol?) keys keys') (d : Nat) :
    List.Forall₂ R (keyUses array d keys) (keyUses array' d keys') := by
  induction h generalizing d with
  | nil => exact .nil
  | cons hk _ ih =>
    rw [keyUses_cons, keyUses_cons]
    refine List.rel_append ?_ (ih (d + 1))
    revert hk
    generalize Value.symbol? _ = a, Value.symbol? _ = b
    intro hk
    cases hk with
    | none => exact .nil
    | some hst => exact .cons (hR _ _ d hst) .nil

mutual

/-- The uses in a node, in the order of the walk. -/
def Node.uses : Node → List Use
  | .symbol _ => []
  | .constant _ _ _ => []
  | .term _ op args _ _ _ =>
    if op.isGetitem then
      match args with
      | [] => []
      | array :: keys => keyUses array 1 keys
    else usesOfAll args
  | .arrayOp _ _ _ body _ source _ _ _ => body.uses ++ usesOfSource source
termination_by structural n => n

def Value.uses : Value → List Use
  | .node n => n.uses
  | _ => []
termination_by structural v => v

def usesOfAll : List Value → List Use
  | [] => []
  | v :: vs => v.uses ++ usesOfAll vs
termination_by structural vs => vs

def usesOfSource : Option Node → List Use
  | .none => []
  | .some n => n.uses
termination_by structural n => n

end

theorem usesOfAll_eq (vs : List Value) : usesOfAll vs = vs.flatMap Value.uses := by
  induction vs with
  | nil => rfl
  | cons v vs ih => rw [usesOfAll, ih, List.flatMap_cons]

theorem Node.uses_indexing {op : Callable} (h : op.isGetitem = true) (id : NodeId) (array : Value) (keys : List Value)
    (am : Mark) (t : DeclaredType) (tm : Mark) :
    (Node.term id op (array :: keys) am t tm).uses = keyUses array 1 keys := by
  rw [Node.uses.eq_def]
  exact if_pos h

theorem Node.uses_application {op : Callable} (h : op.isGetitem = false) (id : NodeId) (args : List Value)
    (am : Mark) (t : DeclaredType) (tm : Mark) : (Node.term id op args am t tm).uses = usesOfAll args := by
  rw [Node.uses.eq_def]
  exact if_neg (by rw [h]; exact Bool.false_ne_true)

/-- **A composite node other than an indexing has the uses of its operands**, in their order. -/
theorem Node.uses_of_children {n : Node} {op : Callable} {children : List Value} (hop : n.head? = some op)
    (hget : op.isGetitem = false) (hc : n.children? = some children) : n.uses = children.flatMap Value.uses := by
  cases n with
  | symbol s => cases hc
  | constant id d tm => cases hc
  | term id f args am t tm =>
    cases hop
    cases hc
    rw [Node.uses_application hget, usesOfAll_eq]
  | arrayOp id output om body reduce source k e tm =>
    cases hc
    cases source with
    | none => simp [Node.uses, usesOfSource, Value.uses]
    | some m => simp [Node.uses, usesOfSource, Value.uses]

mutual

/-- Every indexing that a walk comes to indexes something. -/
def Node.WellIndexed : Node → Prop
  | .symbol _ => True
  | .constant _ _ _ => True
  | .term _ op args _ _ _ => if op.isGetitem then args ≠ [] else wellIndexedAll args
  | .arrayOp _ _ _ body _ source _ _ _ => body.WellIndexed ∧ wellIndexedSource source
termination_by structural n => n

def Value.WellIndexed : Value → Prop
  | .node n => n.WellIndexed
  | _ => True
termination_by structural v => v

def wellIndexedAll : List Value → Prop
  | [] => True
  | v :: vs => v.WellIndexed ∧ wellIndexedAll vs
termination_by structural vs => vs

def wellIndexedSource : Option Node → Prop
  | .none => True
  | .some n => n.WellIndexed
termination_by structural n => n

end

/-! ## The walk -/

section Walk

variable {σ : Type} (visit : Visit σ)

def Use.visited (u : Use) : Walk σ Unit := visit u.symbol u.occurrence

theorem visitKeys_eq (array : Value) (d : Nat) (keys : List Value) :
    visitKeys visit array d keys = forM (keyUses array d keys) (Use.visited visit) := by
  fun_induction visitKeys visit array d keys with
  | case1 d => rfl
  | case2 d s keys ih =>
    rw [keyUses_cons, ih]
    rfl
  | case3 d key keys hne ih =>
    have hs : key.symbol? = none := by
      unfold Value.symbol?
      split
      · exact absurd rfl (hne _)
      · rfl
    rw [keyUses_cons, hs, ih]
    rfl

mutual

/-- **A walk visits the uses in their order.** -/
theorem Node.visitUses_eq : ∀ n : Node, n.WellIndexed → n.visitUses visit = forM n.uses (Use.visited visit)
  | .symbol _, _ => rfl
  | .constant _ _ _, _ => rfl
  | .term id op args am t tm, h => by
    rw [Node.visitUses.eq_def]
    rw [Node.WellIndexed] at h
    dsimp only
    split
    · rename_i hop
      rw [if_pos hop] at h
      cases args with
      | nil => exact absurd rfl h
      | cons array keys =>
        rw [Node.uses_indexing hop]
        exact visitKeys_eq visit array 1 keys
    · rename_i hop
      rw [if_neg hop] at h
      rw [Node.uses_application (Bool.eq_false_iff.2 hop)]
      exact visitUsesAll_eq args h
  | .arrayOp id output om body reduce source k e tm, h => by
    rw [Node.visitUses, Node.uses, List.forM_append, Value.visitUses_eq body h.1, visitUsesOfSource_eq source h.2]
termination_by structural n => n

theorem Value.visitUses_eq : ∀ v : Value, v.WellIndexed → v.visitUses visit = forM v.uses (Use.visited visit)
  | .node n, h => Node.visitUses_eq n h
  | .none, _ | .bool _, _ | .int .., _ | .float .., _ | .complex .., _ | .scalar .., _ | .text .., _ | .list .., _
  | .tuple .., _ | .dict .., _ | .range _, _ | .slice .., _ | .unknown, _ | .shape _, _ | .dtype _, _ | .kind _, _
  | .code _, _ | .type .., _ | .array _, _ | .object _, _ | .callable _, _ | .occurrence .., _ | .view .., _
  | .space .., _ | .registry _, _ | .diagnostic .., _ | .iterator .., _ => rfl
termination_by structural v => v

theorem visitUsesAll_eq : ∀ vs : List Value, wellIndexedAll vs →
    visitUsesAll visit vs = forM (usesOfAll vs) (Use.visited visit)
  | [], _ => rfl
  | v :: vs, h => by
    rw [visitUsesAll, usesOfAll, List.forM_append, Value.visitUses_eq v h.1, visitUsesAll_eq vs h.2]
termination_by structural vs => vs

theorem visitUsesOfSource_eq : ∀ n : Option Node, wellIndexedSource n →
    visitUsesOfSource visit n = forM (usesOfSource n) (Use.visited visit)
  | none, _ => rfl
  | some n, h => Node.visitUses_eq n h
termination_by structural n => n

end

end Walk

/-! ## Grouping by symbol -/

namespace Usage

def occurrencesOf (u : Usage) (s : Symbol) : List Occurrence := (u.find? s).getD []

theorem occurrencesOf_nil (s : Symbol) : occurrencesOf [] s = [] := rfl

theorem occurrencesOf_cons (t : Symbol) (os : List Occurrence) (u : Usage) (s : Symbol) :
    occurrencesOf ((t, os) :: u) s = if t.same s then os else occurrencesOf u s := by
  unfold occurrencesOf find?
  rw [List.find?_cons]
  cases t.same s <;> rfl

theorem occurrencesOf_add (s : Symbol) (o : Occurrence) (t : Symbol) (u : Usage) :
    occurrencesOf (u.add s o) t = if s.same t then occurrencesOf u t ++ [o] else occurrencesOf u t := by
  induction u with
  | nil =>
    rw [add, occurrencesOf_cons, occurrencesOf_nil]
    rfl
  | cons e u ih =>
    obtain ⟨r, os⟩ := e
    rw [add]
    split
    · rename_i hrs
      rw [occurrencesOf_cons, occurrencesOf_cons, Symbol.same_congr hrs t]
      cases s.same t <;> rfl
    · rename_i hrs
      rw [occurrencesOf_cons, occurrencesOf_cons, ih]
      by_cases hst : s.same t = true
      · -- `r` is another symbol than `s`, hence than `t`.
        have hrt : r.same t = false := by
          rw [Symbol.same_comm, ← Symbol.same_congr hst, Symbol.same_comm]
          exact Bool.eq_false_iff.2 hrs
        simp only [hst, hrt, if_true, Bool.false_eq_true, if_false]
      · simp only [hst, if_false, Bool.false_eq_true]

def Distinct (u : Usage) : Prop := u.Pairwise fun e f => e.1.same f.1 = false

theorem mem_add {s : Symbol} {o : Occurrence} {e : Symbol × List Occurrence} {u : Usage} (h : e ∈ u.add s o) :
    e.1 = s ∨ ∃ f ∈ u, f.1 = e.1 := by
  induction u with
  | nil =>
    obtain rfl := List.mem_singleton.1 h
    exact .inl rfl
  | cons f u ih =>
    obtain ⟨r, os⟩ := f
    rw [add] at h
    split at h
    · rcases List.mem_cons.1 h with rfl | h
      · exact .inr ⟨_, List.mem_cons_self, rfl⟩
      · exact .inr ⟨e, List.mem_cons_of_mem _ h, rfl⟩
    · rcases List.mem_cons.1 h with rfl | h
      · exact .inr ⟨_, List.mem_cons_self, rfl⟩
      · rcases ih h with hs | ⟨f, hf, he⟩
        · exact .inl hs
        · exact .inr ⟨f, List.mem_cons_of_mem _ hf, he⟩

theorem Distinct.add {u : Usage} (h : u.Distinct) (s : Symbol) (o : Occurrence) : (u.add s o).Distinct := by
  induction u with
  | nil => exact List.pairwise_singleton _ _
  | cons e u ih =>
    obtain ⟨r, os⟩ := e
    obtain ⟨hr, hu⟩ := List.pairwise_cons.1 h
    rw [Usage.add]
    split
    · exact List.pairwise_cons.2 ⟨hr, hu⟩
    · rename_i hrs
      refine List.pairwise_cons.2 ⟨fun f hf => ?_, ih hu⟩
      rcases mem_add hf with hs | ⟨g, hg, hgf⟩
      · rw [hs]
        exact Bool.eq_false_iff.2 hrs
      · rw [← hgf]
        exact hr g hg

theorem Distinct.occurrencesOf_of_mem {u : Usage} (h : u.Distinct) {s : Symbol} {os : List Occurrence}
    (hs : (s, os) ∈ u) : occurrencesOf u s = os := by
  induction u with
  | nil => cases hs
  | cons e u ih =>
    obtain ⟨r, os'⟩ := e
    obtain ⟨hr, hu⟩ := List.pairwise_cons.1 h
    rw [occurrencesOf_cons]
    rcases List.mem_cons.1 hs with heq | hs
    · cases heq
      rw [Symbol.same_refl, if_pos rfl]
    · rw [hr _ hs, if_neg Bool.false_ne_true, ih hu hs]

theorem exists_entry_of_mem {u : Usage} {s : Symbol} {o : Occurrence} (h : o ∈ occurrencesOf u s) :
    ∃ t, t.same s = true ∧ (t, occurrencesOf u s) ∈ u := by
  induction u with
  | nil => cases h
  | cons e u ih =>
    obtain ⟨r, os⟩ := e
    rw [occurrencesOf_cons] at h ⊢
    by_cases hr : r.same s = true
    · rw [if_pos hr] at h ⊢
      exact ⟨r, hr, List.mem_cons_self⟩
    · rw [if_neg hr] at h ⊢
      obtain ⟨t, ht, hm⟩ := ih h
      exact ⟨t, ht, List.mem_cons_of_mem _ hm⟩

def grouped (uses : List Use) (u : Usage) : Usage := uses.foldl (fun u x => u.add x.symbol x.occurrence) u

theorem occurrencesOf_grouped (uses : List Use) (u : Usage) (s : Symbol) :
    occurrencesOf (grouped uses u) s =
      occurrencesOf u s ++ (uses.filter fun x => x.symbol.same s).map Use.occurrence := by
  induction uses generalizing u with
  | nil => rw [List.filter_nil, List.map_nil, List.append_nil]; rfl
  | cons x uses ih =>
    rw [grouped, List.foldl_cons, ← grouped, ih, occurrencesOf_add, List.filter_cons]
    split
    · rw [List.map_cons, List.append_assoc]
      rfl
    · rfl

theorem distinct_grouped (uses : List Use) {u : Usage} (h : u.Distinct) : (grouped uses u).Distinct := by
  induction uses generalizing u with
  | nil => exact h
  | cons x uses ih => exact ih (h.add x.symbol x.occurrence)

theorem forM_collecting (uses : List Use) (u : Usage) :
    (forM uses (Use.visited collecting)).run.run u = (.ok (), grouped uses u) := by
  induction uses generalizing u with
  | nil => rfl
  | cons x uses ih =>
    rw [List.forM_cons]
    exact ih _

end Usage

/-- **What is collected from a body are its uses, grouped by symbol.** -/
theorem Value.collectUsage_eq {v : Value} (h : v.WellIndexed) (u : Usage) :
    v.collectUsage u = .ok (Usage.grouped v.uses u) := by
  unfold Value.collectUsage
  rw [v.visitUses_eq _ h, Usage.forM_collecting]

end ArrayTyping

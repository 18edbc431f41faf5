import ArrayTyping.Proofs.Rebuilding
/-!
# Forgetting — expressions built with fewer shapes

An expression is written as the list of its parts, each behind the parts it is made of, so that a part that occurs
twice is built once.  If it builds, it also builds where any of its array symbols keep their rank and are declared
without a shape; all parts keep their types, and each has the shape it had or an unknown one.
-/
namespace ArrayTyping

open Build

/-! ## Expressions -/

inductive Operand where
  | literal (v : Value) (h : v.isScalarLiteral = true)
  | built (i : Nat)

namespace Operand

def value (nodes : List Node) : Operand → Except Fault Value
  | .literal v _ => .ok v
  | .built i =>
    match nodes[i]? with
    | some n => .ok (.node n)
    | none => .error (.slip .index)

def values (nodes : List Node) (operands : List Operand) : Except Fault (List Value) := operands.mapM (value nodes)

def value? (nodes : List Node) : Option Operand → Except Fault Value
  | some o => o.value nodes
  | none => .ok .none

end Operand

/-- One part of an expression.  Elements are taken by indexing alone. -/
inductive Part where
  | arraySymbol (name shape dtype rank container : Value)
  | scalarSymbol (name dtype : Value)
  | indexSymbols (names : List Value)
  | constant (v : Value)
  | index (array : Operand) (keys : List Operand)
  | apply (f : Callable) (hf : f.isGetitem = false) (args : List Operand)
  | arrayOp (output : List Operand) (body : Operand) (reduce : Value) (source : Option Operand) (container : Value)

def Part.build (nodes : List Node) : Part → Build (List Node)
  | .arraySymbol name shape dtype rank container => do
    return [.symbol (← Build.arraySymbol name shape dtype rank container)]
  | .scalarSymbol name dtype => do return [.symbol (← Build.scalarSymbol name dtype)]
  | .indexSymbols names => do return (← Build.indexSymbols names).map .symbol
  | .constant v => do return [← Build.constant v]
  | .index array keys => do
    let a ← array.value nodes
    return [← Build.index a (.ofItems (← Operand.values nodes keys))]
  | .apply f _ args => do return [← Build.apply .builtin (.callable f) (← Operand.values nodes args)]
  | .arrayOp output body reduce source container => do
    let out ← Operand.values nodes output
    let b ← body.value nodes
    let s ← Operand.value? nodes source
    return [← Build.arrayOp (.ofItems out) b reduce s container]

def Build.parts : List Part → List Node → Build (List Node)
  | [], nodes => return nodes
  | p :: ps, nodes => do parts ps (nodes ++ (← p.build nodes))

/-- The second part is the first, or declares the same array symbol by its rank alone. -/
inductive Part.Forgets : Part → Part → Prop where
  | same (p : Part) : Forgets p p
  | shape {name shape dtype rank container : Value} {s : Shape} (h : shape.toShape = .ok s) :
    Forgets (.arraySymbol name shape dtype rank container) (.arraySymbol name .none dtype (.ofInt s.rank) container)

/-! ## One part -/

/-- Nodes of two builds, part by part. -/
abbrev PartsMatch (st st' : Store) : List Node → List Node → Prop := List.Forall₂ (NodesMatch st st')

section

variable {st st' : Store} {ns ms : List Node}

theorem Operand.value_of_match (h : PartsMatch st st' ns ms) {o : Operand} {v : Value} (hv : o.value ns = .ok v) :
    ∃ w, o.value ms = .ok w ∧ ValuesMatch st st' v w := by
  cases o with
  | literal v hlit =>
    cases hv
    exact ⟨v, rfl, .literal hlit⟩
  | built i =>
    cases hn : ns[i]? with
    | none =>
      rw [value] at hv
      simp only [hn] at hv
      cases hv
    | some n =>
      obtain ⟨hi, rfl⟩ := List.getElem?_eq_some_iff.1 hn
      have hi' : i < ms.length := h.length_eq ▸ hi
      rw [value] at hv ⊢
      simp only [hn] at hv
      simp only [List.getElem?_eq_getElem hi']
      cases hv
      exact ⟨_, rfl, .node ((List.forall₂_iff_get.1 h).2 i hi hi')⟩

theorem Operand.values_of_match (h : PartsMatch st st' ns ms) {os : List Operand} {vs : List Value}
    (hv : values ns os = .ok vs) : ∃ ws, values ms os = .ok ws ∧ List.Forall₂ (ValuesMatch st st') vs ws :=
  exceptMapM_related (f := value ns) (g := value ms) (R := Eq) (fun _ _ _ ho hv => ho ▸ value_of_match h hv)
    (List.forall₂_refl os) hv

theorem Operand.value?_of_match (h : PartsMatch st st' ns ms) {o : Option Operand} {v : Value}
    (hv : value? ns o = .ok v) : ∃ w, value? ms o = .ok w ∧ SourcesMatch st st' v w := by
  cases o with
  | none =>
    cases hv
    exact ⟨_, rfl, .none⟩
  | some o =>
    obtain ⟨w, hw, hvw⟩ := value_of_match h hv
    exact ⟨w, hw, .operand hvw⟩

end

/-- An array symbol declared by its rank alone has an unknown shape. -/
theorem declaredShape_of_forgotten {name shape rank r : Value} {s : Shape} {info : ShapeInfo}
    (h : shape.toShape = .ok s) (hd : declaredShape name shape rank = .ok (info, r)) :
    ∃ info', declaredShape name .none (.ofInt s.rank) = .ok (info', r) ∧ Vaguer Shape.plain info info' := by
  rcases declaredShape_ok hd with ⟨rfl, -⟩ | ⟨t, ht, -, rfl⟩
  · cases h
  · rw [h] at ht
    cases ht
    exact ⟨none, rfl, .inl rfl⟩

namespace Build

variable {st st' st₁ : Store} {ns ms : List Node}

theorem outcome_bind_pure_ok {α β : Type} {x : Build α} {g : α → β} {b : β} {st st' : Store} :
    outcome (do return g (← x)) st = (.ok b, st') ↔ ∃ a, outcome x st = (.ok a, st') ∧ g a = b := by
  rw [outcome_bind_ok]
  constructor
  · rintro ⟨a, st₁, hx, hp⟩
    obtain ⟨rfl, rfl⟩ := outcome_pure_ok.1 hp
    exact ⟨a, hx, rfl⟩
  · rintro ⟨a, hx, rfl⟩
    exact ⟨a, st', hx, rfl⟩

theorem singleton_of_match {α : Type} {x y : Build α} {g : α → Node} {new : List Node}
    (h : ∀ a, outcome x st = (.ok a, st₁) → ∃ b st₁', outcome y st' = (.ok b, st₁') ∧ NodesMatch st₁ st₁' (g a) (g b))
    (hn : outcome (do return [g (← x)]) st = (.ok new, st₁)) :
    ∃ new' st₁', outcome (do return [g (← y)]) st' = (.ok new', st₁') ∧ PartsMatch st₁ st₁' new new' := by
  obtain ⟨a, ha, rfl⟩ := outcome_bind_pure_ok.1 hn
  obtain ⟨b, st₁', hb, hab⟩ := h a ha
  exact ⟨[g b], st₁', outcome_bind_pure_ok.2 ⟨b, hb, rfl⟩, .cons hab .nil⟩

theorem grows_part (p : Part) (ns : List Node) : Grows (p.build ns) := by
  cases p with
  | arraySymbol => exact (grows_arraySymbol _ _ _ _ _).bind fun _ => (Steady.pure _).grows
  | scalarSymbol => exact ((steady_scalarSymbol _ _).bind fun _ => Steady.pure _).grows
  | indexSymbols => exact ((steady_indexSymbols _).bind fun _ => Steady.pure _).grows
  | constant => exact (grows_constant _).bind fun _ => (Steady.pure _).grows
  | index =>
    refine (Steady.lift _).grows.bind fun _ => (Steady.lift _).grows.bind fun _ => ?_
    exact (grows_index _ _).bind fun _ => (Steady.pure _).grows
  | apply =>
    refine (Steady.lift _).grows.bind fun _ => ?_
    exact (grows_apply RuleBook.builtin_grows _ _).bind fun _ => (Steady.pure _).grows
  | arrayOp =>
    refine (Steady.lift _).grows.bind fun _ => (Steady.lift _).grows.bind fun _ => ?_
    refine (Steady.lift _).grows.bind fun _ => ?_
    exact (grows_arrayOp _ _ _ _ _).bind fun _ => (Steady.pure _).grows

/-- **One part, built over matching parts.** -/
theorem part_of_match (hw : st.WellFormed) (hw' : st'.WellFormed) {p q : Part} (hpq : p.Forgets q)
    (h : PartsMatch st st' ns ms) {new : List Node} (hn : outcome (p.build ns) st = (.ok new, st₁)) :
    ∃ new' st₁', outcome (q.build ms) st' = (.ok new', st₁') ∧ PartsMatch st₁ st₁' new new' := by
  cases hpq with
  | shape hs =>
    exact singleton_of_match
      (fun s hs' => arraySymbol_of_match hw' (fun _ _ hd => declaredShape_of_forgotten hs hd) hs') hn
  | same p =>
    cases p with
    | arraySymbol name shape dtype rank container =>
      exact singleton_of_match
        (fun s hs => arraySymbol_of_match hw' (fun info _ hd => ⟨info, hd, Vaguer.refl info⟩) hs) hn
    | scalarSymbol name dtype => exact singleton_of_match (fun s hs => scalarSymbol_of_match hw hw' hs) hn
    | indexSymbols names =>
      obtain ⟨ss, hss, rfl⟩ := outcome_bind_pure_ok.1 hn
      obtain ⟨ss', st₁', hss', hmatch⟩ := indexSymbols_of_match hw hw' hss
      exact ⟨ss'.map .symbol, st₁', outcome_bind_pure_ok.2 ⟨ss', hss', rfl⟩, hmatch⟩
    | constant v => exact singleton_of_match (fun n hn => constant_of_match hw' hn) hn
    | index array keys =>
      obtain ⟨a, st₂, h₂, hn⟩ := outcome_bind_ok.1 hn
      obtain ⟨ha, rfl⟩ := outcome_lift_ok.1 h₂
      obtain ⟨ks, st₃, h₃, hn⟩ := outcome_bind_ok.1 hn
      obtain ⟨hks, rfl⟩ := outcome_lift_ok.1 h₃
      obtain ⟨a', ha', haa⟩ := Operand.value_of_match h ha
      obtain ⟨ks', hks', hkk⟩ := Operand.values_of_match h hks
      obtain ⟨new', st₁', hn', hmatch⟩ := singleton_of_match (fun n hn => index_of_match hw hw' haa hkk hn) hn
      refine ⟨new', st₁', ?_, hmatch⟩
      exact outcome_bind_ok.2 ⟨a', st', outcome_lift_ok.2 ⟨ha', rfl⟩,
        outcome_bind_ok.2 ⟨ks', st', outcome_lift_ok.2 ⟨hks', rfl⟩, hn'⟩⟩
    | apply f hf args =>
      obtain ⟨vs, st₂, h₂, hn⟩ := outcome_bind_ok.1 hn
      obtain ⟨hvs, rfl⟩ := outcome_lift_ok.1 h₂
      obtain ⟨ws, hws, hvw⟩ := Operand.values_of_match h hvs
      obtain ⟨new', st₁', hn', hmatch⟩ := singleton_of_match (fun n hn => apply_of_match hw hw' hf hvw hn) hn
      exact ⟨new', st₁', outcome_bind_ok.2 ⟨ws, st', outcome_lift_ok.2 ⟨hws, rfl⟩, hn'⟩, hmatch⟩
    | arrayOp output body reduce source container =>
      obtain ⟨vs, st₂, h₂, hn⟩ := outcome_bind_ok.1 hn
      obtain ⟨hvs, rfl⟩ := outcome_lift_ok.1 h₂
      obtain ⟨b, st₃, h₃, hn⟩ := outcome_bind_ok.1 hn
      obtain ⟨hb, rfl⟩ := outcome_lift_ok.1 h₃
      obtain ⟨s, st₄, h₄, hn⟩ := outcome_bind_ok.1 hn
      obtain ⟨hs, rfl⟩ := outcome_lift_ok.1 h₄
      obtain ⟨ws, hws, hvw⟩ := Operand.values_of_match h hvs
      obtain ⟨b', hb', hbb⟩ := Operand.value_of_match h hb
      obtain ⟨s', hs', hss⟩ := Operand.value?_of_match h hs
      obtain ⟨new', st₁', hn', hmatch⟩ := singleton_of_match (fun n hn => arrayOp_of_match hw hw' hvw hbb hss hn) hn
      refine ⟨new', st₁', ?_, hmatch⟩
      exact outcome_bind_ok.2 ⟨ws, st', outcome_lift_ok.2 ⟨hws, rfl⟩, outcome_bind_ok.2 ⟨b', st',
        outcome_lift_ok.2 ⟨hb', rfl⟩, outcome_bind_ok.2 ⟨s', st', outcome_lift_ok.2 ⟨hs', rfl⟩, hn'⟩⟩⟩

/-! ## Whole expressions -/

/-- **All parts of an expression**, built behind matching nodes. -/
theorem parts_of_match (hw : st.WellFormed) (hw' : st'.WellFormed) {ps qs : List Part}
    (hpq : List.Forall₂ Part.Forgets ps qs) (h : PartsMatch st st' ns ms) {all : List Node}
    (hn : outcome (parts ps ns) st = (.ok all, st₁)) :
    ∃ all' st₁', outcome (parts qs ms) st' = (.ok all', st₁') ∧ PartsMatch st₁ st₁' all all' := by
  induction hpq generalizing st st' ns ms with
  | nil =>
    obtain ⟨rfl, rfl⟩ := outcome_pure_ok.1 hn
    exact ⟨ms, st', rfl, h⟩
  | @cons p q ps qs hp _ ih =>
    obtain ⟨new, st₂, h₂, hn⟩ := outcome_bind_ok.1 hn
    obtain ⟨new', st₂', h₂', hnew⟩ := part_of_match hw hw' hp h h₂
    have hg := (grows_part p ns).of_ok hw h₂
    have hg' := (grows_part q ms).of_ok hw' h₂'
    have hall := List.rel_append (h.imp fun _ _ hnm => hnm.grown hg hg') hnew
    obtain ⟨all', st₁', hall', hmatch⟩ := ih hg.wellFormed hg'.wellFormed hall hn
    exact ⟨all', st₁', outcome_bind_ok.2 ⟨new', st₂', h₂', hall'⟩, hmatch⟩

/-- **Forgetting shapes invents neither an answer nor a failure.**  If an expression builds, it builds with any of its
array symbols declared by their ranks alone; every part has the type it had, and the shape it had or an unknown
one. -/
theorem parts_of_forgotten_shapes (hw : st.WellFormed) (hw' : st'.WellFormed) {ps qs : List Part}
    (hpq : List.Forall₂ Part.Forgets ps qs) (hn : outcome (parts ps []) st = (.ok ns, st₁)) :
    ∃ ms st₁', outcome (parts qs []) st' = (.ok ms, st₁') ∧
      List.Forall₂ (fun n m => m.type.plain = n.type.plain ∧ ∃ s t, st₁.slots.shapeOf (.node n) = .ok s ∧
        st₁'.slots.shapeOf (.node m) = .ok t ∧ (t = none ∨ t.map Shape.plain = s.map Shape.plain)) ns ms := by
  obtain ⟨ms, st₁', hm, hmatch⟩ := parts_of_match hw hw' hpq .nil hn
  exact ⟨ms, st₁', hm, hmatch.imp fun _ _ h => ⟨h.type_eq, h.shapes.shape⟩⟩

/-- A product of two matrices, whole and by indices, with the shape of the second one known and then forgotten. -/
theorem parts_of_forgotten_shapes_product :
    let array (name : String) (shape rank : Value) : Part :=
      .arraySymbol (.ofString name) shape (.dtype .float64) rank (.kind .plain)
    let rest : List Part :=
      [.indexSymbols [.ofString "i", .ofString "j", .ofString "k"], .index (.built 0) [.built 2, .built 3],
        .index (.built 1) [.built 3, .built 4], .apply (.primitive .mul) rfl [.built 5, .built 6],
        .arrayOp [.built 2, .built 4] (.built 7) (.callable (.primitive .add)) none (.kind .plain),
        .apply (.primitive .matmul) rfl [.built 0, .built 1]]
    let precise := array "a" (.ofLengths [2, 3]) .none :: array "b" (.ofLengths [3, 4]) .none :: rest
    let vague := array "a" (.ofLengths [2, 3]) .none :: array "b" .none (.ofInt 2) :: rest
    ∃ ns st₁ ms st₁', outcome (parts precise []) .empty = (.ok ns, st₁) ∧
      outcome (parts vague []) .empty = (.ok ms, st₁') ∧
      List.Forall₂ (fun n m => m.type.plain = n.type.plain ∧ ∃ s t, st₁.slots.shapeOf (.node n) = .ok s ∧
        st₁'.slots.shapeOf (.node m) = .ok t ∧ (t = none ∨ t.map Shape.plain = s.map Shape.plain)) ns ms := by
  intro array rest precise vague
  have hok : (outcome (parts precise []) .empty).1.isOk = true := by decide +kernel
  have hforget : List.Forall₂ Part.Forgets precise vague :=
    .cons (.same _) (.cons (.shape (s := .ofLengths [3, 4]) rfl) (List.forall₂_same.2 fun p _ => .same p))
  cases h : outcome (parts precise []) .empty with
  | mk answer st₁ =>
    cases answer with
    | error f =>
      rw [h] at hok
      cases hok
    | ok ns =>
      obtain ⟨ms, st₁', hm, hmatch⟩ :=
        parts_of_forgotten_shapes Store.empty_wellFormed Store.empty_wellFormed hforget h
      exact ⟨ns, st₁, ms, st₁', rfl, hm, hmatch⟩

end Build

end ArrayTyping

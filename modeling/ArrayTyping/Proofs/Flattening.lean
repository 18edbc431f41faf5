import ArrayTyping.Proofs.KnownShapes
import ArrayTyping.Proofs.Stretching
/-!
# Flattening — operators that apply to every element, in parts

An operator of the library that applies to every element may be applied to all of its operands at once, or to two parts
of them and then to the two results: one succeeds exactly if the other does, and both give an array of the same kind,
rank and axes.  Three things have to be associative at a time: the combination of container kinds, the largest rank and
the broadcast of shapes.
-/
namespace ArrayTyping

open Build (outcome apply)

/-! ## Container kinds -/

namespace Container

theorem combine_assoc (a b c : Container) : combine (combine a b) c = combine a (combine b c) := by
  cases a <;> cases b <;> cases c <;> rfl

instance : Std.Associative combine := ⟨combine_assoc⟩

/-- There is no kind that leaves all others as they are, so both parts must have an array. -/
theorem fold_append {as bs : List Container} (ha : as ≠ []) (hb : bs ≠ []) :
    fold (as ++ bs) = combine (fold as) (fold bs) := by
  obtain ⟨a, as, rfl⟩ := List.exists_cons_of_ne_nil ha
  obtain ⟨b, bs, rfl⟩ := List.exists_cons_of_ne_nil hb
  show (as ++ b :: bs).foldl combine a = combine (as.foldl combine a) (bs.foldl combine b)
  rw [List.foldl_append, List.foldl_cons, List.foldl_assoc]

end Container

def containersOf (vs : List Value) : List Container := vs.filterMap fun v => v.arrayType?.bind DeclaredType.container?

theorem containersOf_ne_nil {vs : List Value} (h : vs.any Value.isArrayTyped = true) : containersOf vs ≠ [] := by
  obtain ⟨v, hv, ha⟩ := List.any_eq_true.1 h
  have hk : ∃ k, v.arrayType?.bind DeclaredType.container? = some k := by
    cases v with
    | node n =>
      have hn : n.isArray = true := ha
      cases ht : n.type with
      | scalar e =>
        rw [Node.isArray, ht] at hn
        cases hn
      | array k e r => exact ⟨k, by simp [Value.arrayType?, hn, ht, DeclaredType.container?]⟩
    | array a => exact ⟨_, rfl⟩
    | _ => cases ha
  obtain ⟨k, hk⟩ := hk
  exact List.ne_nil_of_mem (List.mem_filterMap.2 ⟨v, hv, hk⟩)

theorem joinedContainer_append {xs ys : List Value} (hx : xs.any Value.isArrayTyped = true)
    (hy : ys.any Value.isArrayTyped = true) :
    joinedContainer (xs ++ ys) = (joinedContainer xs).combine (joinedContainer ys) := by
  show Container.fold (containersOf (xs ++ ys)) = _
  rw [containersOf, List.filterMap_append]
  exact Container.fold_append (containersOf_ne_nil hx) (containersOf_ne_nil hy)

theorem joinedContainer_pair {x y : Node} {k l : Container} (hx : x.type.container? = some k)
    (hy : y.type.container? = some l) : joinedContainer [.node x, .node y] = k.combine l := by
  have hnode : ∀ {n : Node} {k : Container}, n.type.container? = some k →
      (Value.node n).arrayType?.bind DeclaredType.container? = some k := by
    intro n k h
    cases ht : n.type with
    | scalar e =>
      rw [ht] at h
      cases h
    | array k' e r =>
      rw [ht] at h
      simp [Value.arrayType?, Node.isArray, ht, DeclaredType.isArray, h]
  unfold joinedContainer
  rw [List.filterMap_cons, hnode hx, List.filterMap_cons, hnode hy]
  rfl

/-! ## One application -/

section Elementwise

variable {op : Value} {st : Store} {vs : List Value} {ss : List Shape}

theorem Elementwise.shape_of_operands (h : List.Forall₂ st.HasOperand vs ss) :
    shape st.slots op vs = (broadcastFor op ss).map some := by
  have hshapes : vs.mapM st.slots.shapeOf = .ok (ss.map some) := by
    rw [exceptMapM_ok, List.forall₂_map_right_iff]
    exact h.imp fun _ _ hv => hv.shape_eq
  have hk : (ss.map some).mapM id = some ss := optionMapM_id_some.2 rfl
  unfold shape
  rw [hshapes]
  simp only [bind, Except.bind, hk]
  cases broadcastFor op ss <;> rfl

theorem IsElementwise.outcome_shape (hop : IsElementwise op) (h : List.Forall₂ st.HasOperand vs ss) :
    outcome (RuleBook.builtin.shape op vs) st = ((broadcastFor op ss).map some, st) := by
  rw [RuleBook.outcome_shape_of_answer (hop.shape_rule _) _ rfl, Elementwise.shape_of_operands h]

/-- What an application of known shapes gives: an array of the given shape, up to marks, and the joined kind. -/
structure Store.HasResult (st : Store) (vs : List Value) (s : Shape) (n : Node) (t : Shape) : Prop where
  array : st.HasArray n t
  plain_eq : t.plain = s.plain
  container_eq : n.type.container? = some (joinedContainer vs)

/-- **An application to every element is built exactly if the operands broadcast.** -/
theorem IsElementwise.apply_cases (hop : IsElementwise op) (hw : st.WellFormed) (hk : List.Forall₂ st.HasOperand vs ss)
    (ha : vs.any Value.isArrayTyped = true) :
    (∃ s n st' t, broadcast ss = .ok s ∧ outcome (apply .builtin op vs) st = (.ok n, st') ∧ st.Grown st' ∧
      st'.HasResult vs s n t) ∨
    ((∀ s, broadcast ss ≠ .ok s) ∧ ∀ n st', outcome (apply .builtin op vs) st ≠ (.ok n, st')) := by
  obtain ⟨st₁, ws, ts, htaken⟩ := Build.exists_taken hw hk
  have hcallable : ∃ f, op.callable? = some f := by
    cases hop <;> exact ⟨_, rfl⟩
  obtain ⟨f, hf⟩ := hcallable
  have hshape := hop.outcome_shape htaken.known
  cases hb : broadcast ss with
  | ok s =>
    obtain ⟨t, ht, hplain⟩ := broadcast_of_plain htaken.plain_eq hb
    rw [broadcastFor_ok.2 ht] at hshape
    obtain ⟨n, st', u, hn, harray, hu, hkind⟩ := Build.arrayTerm_of_shape hf htaken.again hshape
    rw [← Build.outcome_apply_known htaken ha] at hn
    have hgrown := (Build.grows_apply RuleBook.builtin_grows op vs).of_ok hw hn
    refine .inl ⟨s, n, st', u, rfl, hn, hgrown, harray, hu.trans hplain, ?_⟩
    rw [hkind, joinedContainer_of_types htaken.types_eq]
  | error e =>
    refine .inr ⟨fun s hs => (nomatch hs), fun n st' hn => ?_⟩
    rw [Build.outcome_apply_known htaken ha] at hn
    obtain ⟨info, hinfo⟩ := Build.shape_of_arrayTerm htaken.again hn
    rw [hshape] at hinfo
    cases hts : broadcastFor op ts with
    | error g =>
      rw [hts] at hinfo
      cases hinfo
    | ok t =>
      have hback : List.Forall₂ (fun s t : Shape => t.plain = s.plain) ts ss :=
        htaken.plain_eq.flip.imp fun _ _ h => Eq.symm h
      obtain ⟨s, hs, -⟩ := broadcast_of_plain hback (broadcastFor_ok.1 hts)
      rw [hb] at hs
      cases hs

end Elementwise

/-! ## Two parts -/

def Build.applyInParts (op : Value) (xs ys : List Value) : Build Node := do
  let x ← apply .builtin op xs
  let y ← apply .builtin op ys
  apply .builtin op [.node x, .node y]

/-- Two arrays, each with the store it is in, of the same container kind and rank and with the same axes. -/
def SameArray (st : Store) (n : Node) (st' : Store) (n' : Node) : Prop :=
  n.isArray = true ∧ n'.isArray = true ∧ n'.type.container? = n.type.container? ∧ n'.type.rank = n.type.rank ∧
    ∃ s s', st.slots.shapeOf (.node n) = .ok (some s) ∧ st'.slots.shapeOf (.node n') = .ok (some s') ∧
      s'.axes.map Axis.plain = s.axes.map Axis.plain

theorem sameArray_of_results {st st' : Store} {n n' : Node} {vs ws : List Value} {s s' t t' : Shape}
    (h : st.HasResult vs s n t) (h' : st'.HasResult ws s' n' t') (hs : s'.plain = s.plain)
    (hk : joinedContainer ws = joinedContainer vs) : SameArray st n st' n' := by
  have ht : t'.plain = t.plain := h'.plain_eq.trans (hs.trans h.plain_eq.symm)
  refine ⟨h.array.isArray, h'.array.isArray, ?_, ?_, t, t', h.array.shape_eq, h'.array.shape_eq,
    Shape.map_plain_of_plain ht⟩
  · rw [h.container_eq, h'.container_eq, hk]
  · rw [h.array.rank_eq, h'.array.rank_eq, Shape.rank_of_plain ht]

section Parts

variable {op : Value} {st : Store} {xs ys : List Value} {sx sy : List Shape}

theorem IsElementwise.applyInParts_cases (hop : IsElementwise op) (hw : st.WellFormed)
    (hx : List.Forall₂ st.HasOperand xs sx) (hy : List.Forall₂ st.HasOperand ys sy)
    (hxa : xs.any Value.isArrayTyped = true) (hya : ys.any Value.isArrayTyped = true) :
    (∃ s n st' x y s' t, broadcast (sx ++ sy) = .ok s ∧ outcome (Build.applyInParts op xs ys) st = (.ok n, st') ∧
      st'.HasResult [.node x, .node y] s' n t ∧ s'.plain = s.plain ∧
      joinedContainer [.node x, .node y] = joinedContainer (xs ++ ys)) ∨
    ((∀ s, broadcast (sx ++ sy) ≠ .ok s) ∧ ∀ n st', outcome (Build.applyInParts op xs ys) st ≠ (.ok n, st')) := by
  rcases hop.apply_cases hw hx hxa with ⟨a, x, st₁, ta, ha, h₁, hg₁, hxr⟩ | ⟨hno, hfail⟩
  · have hy₁ := hy.imp fun _ _ hv => hv.grown hg₁
    rcases hop.apply_cases hg₁.wellFormed hy₁ hya with ⟨b, y, st₂, tb, hb, h₂, hg₂, hyr⟩ | ⟨hno, hfail⟩
    · have hpair : List.Forall₂ st₂.HasOperand [.node x, .node y] [ta, tb] :=
        .cons (.of_array (hxr.array.grown hg₂)) (.cons (.of_array hyr.array) .nil)
      have hplain : List.Forall₂ (fun s t : Shape => t.plain = s.plain) [a, b] [ta, tb] :=
        .cons hxr.plain_eq (.cons hyr.plain_eq .nil)
      have hany : [Value.node x, .node y].any Value.isArrayTyped = true := by
        simp [Value.isArrayTyped, hxr.array.isArray]
      have hparts : outcome (Build.applyInParts op xs ys) st = outcome (apply .builtin op [.node x, .node y]) st₂ := by
        unfold Build.applyInParts
        rw [Build.outcome_bind_of_ok h₁, Build.outcome_bind_of_ok h₂]
      rw [hparts]
      rcases hop.apply_cases hg₂.wellFormed hpair hany with ⟨s', n, st', t, hs', hn, -, hnr⟩ | ⟨hno, hfail⟩
      · obtain ⟨s, hs, hss⟩ := broadcast_of_plain (hplain.flip.imp fun _ _ h => Eq.symm h) hs'
        refine .inl ⟨s, n, st', x, y, s', t, broadcast_append.2 ⟨a, b, ha, hb, hs⟩, hn, hnr, hss.symm, ?_⟩
        rw [joinedContainer_pair hxr.container_eq hyr.container_eq, joinedContainer_append hxa hya]
      · refine .inr ⟨fun s hs => ?_, hfail⟩
        obtain ⟨a', b', ha', hb', hs⟩ := broadcast_append.1 hs
        cases ha.symm.trans ha'
        cases hb.symm.trans hb'
        obtain ⟨t, ht, -⟩ := broadcast_of_plain hplain hs
        exact hno t ht
    · refine .inr ⟨fun s hs => ?_, fun n st' hn => ?_⟩
      · obtain ⟨-, b', -, hb', -⟩ := broadcast_append.1 hs
        exact hno b' hb'
      · obtain ⟨x', st₁', h₁', hn⟩ := Build.outcome_bind_ok.1 hn
        cases h₁.symm.trans h₁'
        obtain ⟨y, st₂, h₂, -⟩ := Build.outcome_bind_ok.1 hn
        exact hfail y st₂ h₂
  · refine .inr ⟨fun s hs => ?_, fun n st' hn => ?_⟩
    · obtain ⟨a', -, ha', -⟩ := broadcast_append.1 hs
      exact hno a' ha'
    · obtain ⟨x, st₁, h₁, -⟩ := Build.outcome_bind_ok.1 hn
      exact hfail x st₁ h₁

end Parts

/-- Operands whose shapes are known, of which the store holds the nodes. -/
theorem exists_hasOperands {st : Store} {vs : List Value} (hheld : ∀ n, .node n ∈ vs → st.Holds n)
    (hknown : ∀ v ∈ vs, ∃ s, st.slots.shapeOf v = .ok (some s)) : ∃ ss, List.Forall₂ st.HasOperand vs ss := by
  induction vs with
  | nil => exact ⟨[], .nil⟩
  | cons v vs ih =>
    obtain ⟨s, hs⟩ := hknown v List.mem_cons_self
    obtain ⟨ss, hss⟩ := ih (fun n hn => hheld n (List.mem_cons_of_mem _ hn)) fun w hw => hknown w (List.mem_cons_of_mem _ hw)
    refine ⟨s :: ss, .cons (.of_known hs fun n hn => hheld n ?_) hss⟩
    rw [← hn]
    exact List.mem_cons_self

/-- **Operands may be applied in parts.**  Over operands of known shapes with an array in each part, an operator of the
library that applies to every element is built on all of them exactly if it is in parts, and to an array of the same
kind, rank and axes. -/
theorem IsElementwise.apply_append {op : Value} (hop : IsElementwise op) {st : Store} (hw : st.WellFormed)
    {xs ys : List Value} (hx : xs.any Value.isArrayTyped = true) (hy : ys.any Value.isArrayTyped = true)
    (hheld : ∀ n, .node n ∈ xs ++ ys → st.Holds n)
    (hknown : ∀ v ∈ xs ++ ys, ∃ s, st.slots.shapeOf v = .ok (some s)) :
    ((∃ n st', outcome (apply .builtin op (xs ++ ys)) st = (.ok n, st')) ↔
      ∃ n st', outcome (Build.applyInParts op xs ys) st = (.ok n, st')) ∧
    ∀ n st₁ n' st₂, outcome (apply .builtin op (xs ++ ys)) st = (.ok n, st₁) →
      outcome (Build.applyInParts op xs ys) st = (.ok n', st₂) → SameArray st₁ n st₂ n' := by
  obtain ⟨hknownx, hknowny⟩ := List.forall_mem_append.1 hknown
  obtain ⟨sx, hsx⟩ := exists_hasOperands (fun n hn => hheld n (List.mem_append_left _ hn)) hknownx
  obtain ⟨sy, hsy⟩ := exists_hasOperands (fun n hn => hheld n (List.mem_append_right _ hn)) hknowny
  have hany : (xs ++ ys).any Value.isArrayTyped = true := by simp [List.any_append, hx]
  -- Both are built exactly if all shapes together broadcast.
  have hall := hop.apply_cases hw (List.rel_append hsx hsy) hany
  rcases hop.applyInParts_cases hw hsx hsy hx hy with
    ⟨s, n', st₂, x, y, s', t', hs, hn', hr', hss, hk⟩ | ⟨hno, hfail⟩
  · rcases hall with ⟨s₀, n, st₁, t, hs₀, hn, -, hr⟩ | ⟨hno, -⟩
    · cases hs.symm.trans hs₀
      refine ⟨⟨fun _ => ⟨n', st₂, hn'⟩, fun _ => ⟨n, st₁, hn⟩⟩, fun m st₃ m' st₄ hm hm' => ?_⟩
      cases hn.symm.trans hm
      cases hn'.symm.trans hm'
      exact sameArray_of_results hr hr' hss hk
    · exact absurd hs (hno s)
  · rcases hall with ⟨s₀, -, -, -, hs₀, -⟩ | ⟨-, hfail'⟩
    · exact absurd hs₀ (hno s₀)
    · refine ⟨⟨fun ⟨n, st', hn⟩ => absurd hn (hfail' n st'), fun ⟨n, st', hn⟩ => absurd hn (hfail n st')⟩, ?_⟩
      exact fun n st₁ n' st₂ hn => absurd hn (hfail' n st₁)

/-- A column, a literal and a row. -/
theorem IsElementwise.apply_append_table :
    let xs : List Value := [.array ⟨Mark.unmarked, [some 2, some 1], some (.native .bool), .filled (.int 0)⟩]
    let ys : List Value := [.ofInt 5, .array ⟨Mark.unmarked, [some 3], some (.native .bool), .filled (.int 0)⟩]
    ∃ n st₁ n' st₂, outcome (apply .builtin (.callable (.primitive .add)) (xs ++ ys)) .empty = (.ok n, st₁) ∧
      outcome (Build.applyInParts (.callable (.primitive .add)) xs ys) .empty = (.ok n', st₂) ∧
      SameArray st₁ n st₂ n' ∧ n.type.rank = some 2 := by
  intro xs ys
  have hheld : ∀ n, .node n ∈ xs ++ ys → Store.empty.Holds n := by
    intro n hn
    simp [xs, ys, Value.ofInt] at hn
  have hadd : IsElementwise (.callable (.primitive .add)) := .primitive (by decide)
  have hoperands : List.Forall₂ Store.empty.HasOperand (xs ++ ys) [.ofLengths [2, 1], .scalar, .ofLengths [3]] :=
    .cons (.of_known rfl (by rintro n ⟨⟩)) (.cons (.of_known rfl (by rintro n ⟨⟩))
      (.cons (.of_known rfl (by rintro n ⟨⟩)) .nil))
  have hknown : ∀ v ∈ xs ++ ys, ∃ s, Store.empty.slots.shapeOf v = .ok (some s) := by
    intro v hv
    obtain ⟨s, -, hs⟩ := forall₂_exists_right hoperands v hv
    exact ⟨s, hs.shape_eq⟩
  obtain ⟨hiff, hsame⟩ := hadd.apply_append Store.empty_wellFormed rfl rfl hheld hknown
  rcases hadd.apply_cases Store.empty_wellFormed hoperands rfl with ⟨s, n, st₁, t, hs, hn, -, hr⟩ | ⟨hno, -⟩
  · obtain ⟨n', st₂, hn'⟩ := hiff.1 ⟨n, st₁, hn⟩
    cases hs
    refine ⟨n, st₁, n', st₂, hn, hn', hsame n st₁ n' st₂ hn hn', ?_⟩
    rw [hr.array.rank_eq, Shape.rank_of_plain hr.plain_eq]
    rfl
  · exact absurd rfl (hno (.ofLengths [2, 3]))

end ArrayTyping

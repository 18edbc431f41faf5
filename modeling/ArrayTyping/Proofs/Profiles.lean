import ArrayTyping.Proofs.Flattening
/-!
# Profiles — what the library's rules read of their operands

The rules read nothing of an operand but the container kind of an array, the declared rank and the shape, known or not.
So an application is built exactly if these give it a rank and a shape that do not contradict each other, and what is
read of the result is determined by what was read of the operands.
-/
namespace ArrayTyping

open Build (outcome operand arrayTerm finishedTerm apply)

/-- What the rules read of an operand; the shape is without marks. -/
structure Profile where
  kind? : Option Container
  rank : Rank
  shape : ShapeInfo

namespace Value

def IsUsable (v : Value) : Prop := v.IsOperand ∨ ∃ a, v = .array a

theorem isUsable_of_shapeOf {slots : Slots} {v : Value} {info : ShapeInfo} (h : slots.shapeOf v = .ok info) :
    v.IsUsable := by
  cases v with
  | node n => exact .inl (.inr ⟨n, rfl⟩)
  | array a => exact .inr ⟨a, rfl⟩
  | bool | int | float | complex | scalar => exact .inl (.inl rfl)
  | _ => cases h

theorem IsUsable.rank_exists {v : Value} (h : v.IsUsable) : ∃ r, v.rank = .ok r := by
  rcases h with (h | ⟨n, rfl⟩) | ⟨a, rfl⟩
  · cases v with
    | bool | int | float | complex | scalar => exact ⟨_, rfl⟩
    | _ => cases h
  · exact ⟨_, rfl⟩
  · exact ⟨_, rfl⟩

def kind? (v : Value) : Option Container := v.arrayType?.bind DeclaredType.container?

theorem isSome_kind? (v : Value) : v.kind?.isSome = v.isArrayTyped := by
  cases v with
  | node n =>
    cases ht : n.type with
    | scalar e => simp [kind?, arrayType?, isArrayTyped, Node.isArray, ht, DeclaredType.isArray]
    | array k e r =>
      simp [kind?, arrayType?, isArrayTyped, Node.isArray, ht, DeclaredType.isArray, DeclaredType.container?]
  | _ => rfl

theorem kind?_node (n : Node) : (Value.node n).kind? = n.type.container? := by
  cases ht : n.type with
  | scalar e => simp [kind?, arrayType?, Node.isArray, ht, DeclaredType.isArray, DeclaredType.container?]
  | array k e r => simp [kind?, arrayType?, Node.isArray, ht, DeclaredType.isArray, DeclaredType.container?]

end Value

/-- An operand that has been made, with what the rules read of it. -/
structure Store.HasProfile (st : Store) (v : Value) (p : Profile) : Prop where
  kind_eq : v.kind? = p.kind?
  rank_eq : v.rank = .ok p.rank
  shape_eq : ∃ info, st.slots.shapeOf v = .ok info ∧ info.map Shape.plain = p.shape
  id_lt : ∀ n, v = .node n → n.id < st.next

namespace Store.HasProfile

variable {st st' : Store} {v : Value} {p : Profile}

theorem isUsable (h : st.HasProfile v p) : v.IsUsable := by
  obtain ⟨info, hinfo, -⟩ := h.shape_eq
  exact Value.isUsable_of_shapeOf hinfo

theorem grown (h : st.HasProfile v p) (hg : st.Grown st') : st'.HasProfile v p := by
  refine ⟨h.kind_eq, h.rank_eq, ?_, fun n hn => Nat.lt_of_lt_of_le (h.id_lt n hn) hg.next_le⟩
  obtain ⟨info, hinfo, hplain⟩ := h.shape_eq
  exact ⟨info, (hg.shapeOf_eq h.id_lt).trans hinfo, hplain⟩

theorem of_shapeOf {info : ShapeInfo} (h : st.slots.shapeOf v = .ok info) (hlt : ∀ n, v = .node n → n.id < st.next) :
    ∃ p, st.HasProfile v p := by
  obtain ⟨r, hr⟩ := (Value.isUsable_of_shapeOf h).rank_exists
  exact ⟨⟨v.kind?, r, info.map Shape.plain⟩, rfl, hr, ⟨info, h, rfl⟩, hlt⟩

end Store.HasProfile

section Lists

theorem forall₂_singleton_left {α β : Type} {R : α → β → Prop} {a : α} {bs : List β} (h : List.Forall₂ R [a] bs) :
    ∃ b, bs = [b] ∧ R a b := by
  obtain ⟨b, rest, hab, hrest, rfl⟩ := List.forall₂_cons_left_iff.1 h
  cases hrest
  exact ⟨b, rfl, hab⟩

theorem forall₂_pair_left {α β : Type} {R : α → β → Prop} {a a' : α} {bs : List β} (h : List.Forall₂ R [a, a'] bs) :
    ∃ b b', bs = [b, b'] ∧ R a b ∧ R a' b' := by
  obtain ⟨b, rest, hab, hrest, rfl⟩ := List.forall₂_cons_left_iff.1 h
  obtain ⟨b', rfl, hab'⟩ := forall₂_singleton_left hrest
  exact ⟨b, b', rfl, hab, hab'⟩

variable {st : Store} {vs : List Value} {ps : List Profile}

theorem joinedContainer_of_profiles (h : List.Forall₂ st.HasProfile vs ps) :
    joinedContainer vs = Container.fold (ps.filterMap Profile.kind?) := by
  have hkinds : vs.filterMap Value.kind? = ps.filterMap Profile.kind? := by
    induction h with
    | nil => rfl
    | cons hv _ ih => rw [List.filterMap_cons, List.filterMap_cons, hv.kind_eq, ih]
  rw [← hkinds]
  rfl

theorem any_isArrayTyped_of_profiles (h : List.Forall₂ st.HasProfile vs ps) :
    vs.any Value.isArrayTyped = ps.any (·.kind?.isSome) := by
  induction h with
  | nil => rfl
  | cons hv _ ih => rw [List.any_cons, List.any_cons, ih, ← hv.kind_eq, Value.isSome_kind?]

theorem mapM_rank_of_profiles (h : List.Forall₂ st.HasProfile vs ps) : vs.mapM Value.rank = .ok (ps.map Profile.rank) := by
  rw [exceptMapM_ok, List.forall₂_map_right_iff]
  exact h.imp fun _ _ hv => hv.rank_eq

theorem mapM_shapeOf_of_profiles (h : List.Forall₂ st.HasProfile vs ps) :
    ∃ infos, vs.mapM st.slots.shapeOf = .ok infos ∧ infos.map (Option.map Shape.plain) = ps.map Profile.shape := by
  induction h with
  | nil => exact ⟨[], rfl, rfl⟩
  | cons hv _ ih =>
    obtain ⟨info, hinfo, hplain⟩ := hv.shape_eq
    obtain ⟨infos, hinfos, hplains⟩ := ih
    exact ⟨info :: infos, exceptMapM_cons_ok.2 ⟨info, infos, hinfo, hinfos, rfl⟩, by
      rw [List.map_cons, List.map_cons, hplain, hplains]⟩

end Lists

/-! ## Operands and results -/

namespace Build

variable {st : Store} {v : Value} {p : Profile} {vs : List Value} {ps : List Profile}

/-- **An operand can be taken**, and what is read of it stays. -/
theorem outcome_operand_profile (hw : st.WellFormed) (h : st.HasProfile v p) :
    ∃ w st', outcome (operand v) st = (.ok w, st') ∧ st.Grown st' ∧ w.IsOperand ∧ st'.HasProfile w p := by
  rcases h.isUsable with hv | ⟨a, rfl⟩
  · exact ⟨v, st, outcome_operand hv st, .of_slots_eq hw rfl (Nat.le_refl _), hv, h⟩
  · obtain ⟨info, hinfo, hp⟩ := h.shape_eq
    obtain ⟨n, st', hn⟩ := outcome_constant (.array a) hw hinfo
    have hg := (grows_constant (.array a)).of_ok hw hn
    obtain ⟨d, info₀, info', hd, rfl, hinfo₀, hplain, hslots, hnext⟩ := constant_ok hn
    cases d with
    | scalar => cases hd
    | array b =>
      cases hd
      cases hinfo.symm.trans hinfo₀
      refine ⟨.node (.constant st.next (.array a) (st.next + 1)), st', ?_, hg, .inr ⟨_, rfl⟩, h.kind_eq, h.rank_eq,
        ⟨info', ?_, hplain.trans hp⟩, ?_⟩
      · rw [show operand (.array a) = (do return .node (← constant (.array a))) from rfl]
        exact outcome_bind_ok.2 ⟨_, _, hn, rfl⟩
      · exact Slots.shapeOf_of_slot (by rw [hslots]; exact Slots.get?_insert_self ..)
      · intro m hm
        cases hm
        exact hnext

theorem outcome_operands_profiles (hw : st.WellFormed) (h : List.Forall₂ st.HasProfile vs ps) :
    ∃ ws st', outcome (vs.mapM operand) st = (.ok ws, st') ∧ st.Grown st' ∧ (∀ w ∈ ws, w.IsOperand) ∧
      List.Forall₂ st'.HasProfile ws ps := by
  induction vs generalizing st ps with
  | nil =>
    cases h
    exact ⟨[], st, rfl, .of_slots_eq hw rfl (Nat.le_refl _), by rintro w ⟨⟩, .nil⟩
  | cons v vs ih =>
    obtain ⟨p, ps, hv, hvs, rfl⟩ := List.forall₂_cons_left_iff.1 h
    obtain ⟨w, st₁, h₁, hg₁, hop, hw'⟩ := outcome_operand_profile hw hv
    obtain ⟨ws, st', h₂, hg₂, hops, hws⟩ := ih hg₁.wellFormed (hvs.imp fun _ _ hx => hx.grown hg₁)
    exact ⟨w :: ws, st', outcome_mapM_cons_ok.2 ⟨w, st₁, ws, h₁, h₂, rfl⟩, hg₁.trans hg₂,
      List.forall_mem_cons.2 ⟨hop, hops⟩, .cons (hw'.grown hg₂) hws⟩

/-- A program that builds a node exactly if `Q` holds of some profile, which is then the one of this node. -/
structure Yields (x : Build Node) (st : Store) (Q : Profile → Prop) : Prop where
  unique : ∀ p q, Q p → Q q → p = q
  built : ∀ q, Q q → ∃ n st', outcome x st = (.ok n, st')
  profile : ∀ n st', outcome x st = (.ok n, st') → st.Grown st' ∧ ∃ q, Q q ∧ st'.HasProfile (.node n) q

namespace Yields

variable {x y : Build Node} {Q R : Profile → Prop}

theorem bind {f : Node → Build Node} {S : Profile → Profile → Prop} (hx : Yields x st Q)
    (hf : ∀ n st' q, st.Grown st' → st'.HasProfile (.node n) q → Q q → Yields (f n) st' (S q)) :
    Yields (x >>= f) st fun r => ∃ q, Q q ∧ S q r := by
  have hnext : ∀ q, Q q → ∃ n st', outcome x st = (.ok n, st') ∧ Yields (f n) st' (S q) := by
    intro q hq
    obtain ⟨n, st', hn⟩ := hx.built q hq
    obtain ⟨hg, q', hq', hp⟩ := hx.profile n st' hn
    cases hx.unique q q' hq hq'
    exact ⟨n, st', hn, hf n st' q hg hp hq⟩
  refine ⟨?_, ?_, ?_⟩
  · rintro r r' ⟨q, hq, hr⟩ ⟨q', hq', hr'⟩
    cases hx.unique q q' hq hq'
    obtain ⟨n, st', -, hy⟩ := hnext q hq
    exact hy.unique r r' hr hr'
  · rintro r ⟨q, hq, hr⟩
    obtain ⟨n, st₁, hn, hy⟩ := hnext q hq
    obtain ⟨m, st₂, hm⟩ := hy.built r hr
    exact ⟨m, st₂, outcome_bind_ok.2 ⟨n, st₁, hn, hm⟩⟩
  · intro m st₂ hm
    obtain ⟨n, st₁, hn, hm⟩ := outcome_bind_ok.1 hm
    obtain ⟨hg, q, hq, hp⟩ := hx.profile n st₁ hn
    obtain ⟨hg', r, hr, hp'⟩ := (hf n st₁ q hg hp hq).profile m st₂ hm
    exact ⟨hg.trans hg', r, ⟨q, hq, hr⟩, hp'⟩

theorem built_iff (hx : Yields x st Q) : (∃ n st', outcome x st = (.ok n, st')) ↔ ∃ q, Q q := by
  constructor
  · rintro ⟨n, st', hn⟩
    obtain ⟨-, q, hq, -⟩ := hx.profile n st' hn
    exact ⟨q, hq⟩
  · rintro ⟨q, hq⟩
    exact hx.built q hq

/-- **Programs that yield the same profiles** are built alike. -/
theorem agree (hx : Yields x st Q) (hy : Yields y st R) (hQR : ∀ q, Q q ↔ R q) :
    ((∃ n st', outcome x st = (.ok n, st')) ↔ ∃ n st', outcome y st = (.ok n, st')) ∧
    ∀ n st₁ n' st₂, outcome x st = (.ok n, st₁) → outcome y st = (.ok n', st₂) →
      ∃ q, Q q ∧ st₁.HasProfile (.node n) q ∧ st₂.HasProfile (.node n') q := by
  rw [hx.built_iff, hy.built_iff]
  refine ⟨exists_congr hQR, fun n st₁ n' st₂ hn hn' => ?_⟩
  obtain ⟨-, q, hq, hp⟩ := hx.profile n st₁ hn
  obtain ⟨-, q', hq', hp'⟩ := hy.profile n' st₂ hn'
  cases hx.unique q q' hq ((hQR q').2 hq')
  exact ⟨q, hq, hp, hp'⟩

end Yields

end Build

/-! ## Inference -/

/-- The rank and the shape that a pair of rules gives an application, if any, from what it reads of the operands. -/
structure Inference where
  rank : List Profile → Option Nat
  shape : List Profile → Option ShapeInfo

namespace Inference

def elementwise : Inference where
  rank ps := ((ps.map Profile.rank).mapM id).map (·.foldl max 0)
  shape ps :=
    match (ps.map Profile.shape).mapM id with
    | none => some none
    | some ss => (broadcast ss).toOption.map fun s => some s.plain

def product : Inference where
  rank
    | [p, q] => p.rank.bind fun l => q.rank.bind (productRank? l)
    | _ => none
  shape
    | [p, q] =>
      match p.shape, q.shape with
      | some s, some t => (s.product t).toOption.map fun u => some u.plain
      | _, _ => some none
    | _ => none

def reversal : Inference where
  rank
    | [p] => p.rank
    | _ => none
  shape
    | [p] => some (p.shape.map fun s => s.transpose.plain)
    | _ => none

/-- What is read of an application: the kinds combined, and a rank and a shape that do not contradict each other. -/
structure Gives (R : Inference) (ps : List Profile) (q : Profile) : Prop where
  kind_eq : q.kind? = some (Container.fold (ps.filterMap Profile.kind?))
  rank_eq : q.rank = R.rank ps
  rank_known : ∃ n, q.rank = some n
  shape_eq : R.shape ps = some q.shape
  fits : ∀ s, q.shape = some s → q.rank = some s.rank

theorem Gives.unique {R : Inference} {ps : List Profile} {p q : Profile} (hp : R.Gives ps p) (hq : R.Gives ps q) :
    p = q := by
  have hk := hp.kind_eq.trans hq.kind_eq.symm
  have hr := hp.rank_eq.trans hq.rank_eq.symm
  have hs := Option.some.inj (hp.shape_eq.symm.trans hq.shape_eq)
  cases p
  cases q
  cases hk
  cases hr
  cases hs
  rfl

/-- The library's rules for an operator and a number of operands read no more than the inference does. -/
structure IsOf (R : Inference) (op : Value) (arity : Nat) : Prop where
  callable : ∃ f, op.callable? = some f
  rank_eq : ∀ {st ws ps}, List.Forall₂ st.HasProfile ws ps → ws.length = arity →
    (outcome (RuleBook.builtin.rank op ws) st).1.toOption = R.rank ps
  shape_eq : ∀ {st ws ps}, List.Forall₂ st.HasProfile ws ps → ws.length = arity →
    (outcome (RuleBook.builtin.shape op ws) st).1.toOption.map (Option.map Shape.plain) = R.shape ps

end Inference

section Rules

variable {st : Store} {op : Value} {ws : List Value}

theorem toOption_checkRank (op : Value) (ws : List Value) (r : Rank) :
    (RuleBook.checkRank op ws (.ofRank r)).toOption = r := by
  cases r with
  | none => rfl
  | some n => rw [RuleBook.checkRank_ofRank]; rfl

theorem toOption_rank (rule : BuiltinRule) (answer : Except Fault Rank)
    (hrule : RuleBook.builtin.rule? .ndims op ws.length = some (.reading rule.respond))
    (h : rule.respond st.slots op ws = (do return .ofRank (← answer))) :
    (outcome (RuleBook.builtin.rank op ws) st).1.toOption = answer.toOption.bind id := by
  rw [RuleBook.outcome_rank_of_reading hrule, h]
  cases answer with
  | error e => rfl
  | ok r => exact toOption_checkRank op ws r

theorem toOption_shape (rule : BuiltinRule) (answer : Except Fault ShapeInfo)
    (hrule : RuleBook.builtin.rule? .shape op ws.length = some (.reading rule.respond))
    (h : rule.respond st.slots op ws = (do return .ofShape (← answer))) :
    (outcome (RuleBook.builtin.shape op ws) st).1.toOption = answer.toOption := by
  rw [RuleBook.outcome_shape_of_answer hrule answer h]

theorem toOption_eq_some {ε α : Type} {x : Except ε α} {a : α} : x.toOption = some a ↔ x = .ok a := by
  cases x <;> simp [Except.toOption]

theorem map_toOption_eq {ε ε' α β : Type} {f : α → β} {x : Except ε α} {y : Except ε' α}
    (hxy : ∀ a, x = .ok a → ∃ b, y = .ok b ∧ f b = f a) (hyx : ∀ b, y = .ok b → ∃ a, x = .ok a ∧ f a = f b) :
    x.toOption.map f = y.toOption.map f := by
  cases x with
  | ok a =>
    obtain ⟨b, rfl, hb⟩ := hxy a rfl
    exact congrArg some hb.symm
  | error e =>
    cases y with
    | ok b =>
      obtain ⟨a, ha, -⟩ := hyx b rfl
      cases ha
    | error e' => rfl

theorem Shape.plain_plain (s : Shape) : s.plain.plain = s.plain := plain_ofAxes (by rw [List.map_map]; rfl)

theorem forall₂_plain (ss : List Shape) : List.Forall₂ (fun s t : Shape => t.plain = s.plain) ss (ss.map Shape.plain) := by
  rw [List.forall₂_map_right_iff, List.forall₂_same]
  exact fun s _ => s.plain_plain

theorem toOption_broadcastFor (op : Value) (ss : List Shape) : (broadcastFor op ss).toOption = (broadcast ss).toOption := by
  unfold broadcastFor
  split <;> rename_i h <;> rw [h] <;> rfl

theorem map_plain_broadcast (ss : List Shape) :
    (broadcast (ss.map Shape.plain)).toOption.map (some ∘ Shape.plain) =
      (broadcast ss).toOption.map (some ∘ Shape.plain) := by
  refine map_toOption_eq (fun s hs => ?_) fun s hs => ?_
  · obtain ⟨t, ht, hst⟩ := broadcast_of_plain ((forall₂_plain ss).flip.imp fun _ _ h => Eq.symm h) hs
    exact ⟨t, ht, congrArg some hst⟩
  · obtain ⟨t, ht, hst⟩ := broadcast_of_plain (forall₂_plain ss) hs
    exact ⟨t, ht, congrArg some hst⟩

theorem map_plain_product (s t : Shape) :
    (s.plain.product t.plain).toOption.map (some ∘ Shape.plain) = (s.product t).toOption.map (some ∘ Shape.plain) := by
  refine map_toOption_eq (fun u hu => ?_) fun u hu => ?_
  · obtain ⟨w, hw, huw⟩ := Shape.product_of_plain s.plain_plain.symm t.plain_plain.symm hu
    exact ⟨w, hw, congrArg some huw⟩
  · obtain ⟨w, hw, huw⟩ := Shape.product_of_plain s.plain_plain t.plain_plain hu
    exact ⟨w, hw, congrArg some huw⟩

end Rules

namespace Inference

theorem isOf_elementwise {op : Value} (hop : IsElementwise op) (n : Nat) : elementwise.IsOf op n where
  callable := by cases hop <;> exact ⟨_, rfl⟩
  rank_eq := by
    rintro st ws ps h -
    rw [toOption_rank _ (Elementwise.rank ws) (hop.rank_rule _) rfl, Elementwise.rank, mapM_rank_of_profiles h]
    rfl
  shape_eq := by
    rintro st ws ps h -
    obtain ⟨infos, hinfos, hplain⟩ := mapM_shapeOf_of_profiles h
    rw [toOption_shape _ (Elementwise.shape st.slots op ws) (hop.shape_rule _) rfl, Elementwise.shape, hinfos,
      elementwise]
    simp only [← hplain, optionMapM_id_map, bind, Except.bind]
    cases infos.mapM id with
    | none => rfl
    | some ss =>
      refine Eq.trans ?_ (map_plain_broadcast ss).symm
      rw [← toOption_broadcastFor op]
      dsimp only
      cases broadcastFor op ss <;> rfl

theorem isOf_product : product.IsOf (.callable (.primitive .matmul)) 2 where
  callable := ⟨_, rfl⟩
  rank_eq := by
    intro st ws ps h hlen
    obtain ⟨v, w, rfl⟩ := List.length_eq_two.1 hlen
    obtain ⟨p, q, rfl, hv, hw⟩ := forall₂_pair_left h
    rw [toOption_rank .matmulNdims (MatrixProduct.rank _ v w) rfl rfl, MatrixProduct.rank, hv.rank_eq, hw.rank_eq,
      product]
    simp only [bind, Except.bind]
    rcases p.rank with _ | l
    · rfl
    · rcases q.rank with _ | r
      · rfl
      · simp only [Option.bind_some]
        cases productRank? l r <;> rfl
  shape_eq := by
    intro st ws ps h hlen
    obtain ⟨v, w, rfl⟩ := List.length_eq_two.1 hlen
    obtain ⟨p, q, rfl, hv, hw⟩ := forall₂_pair_left h
    obtain ⟨info, hinfo, hp⟩ := hv.shape_eq
    obtain ⟨info', hinfo', hq⟩ := hw.shape_eq
    rw [toOption_shape .matmulShape (MatrixProduct.shape st.slots _ v w) rfl rfl, MatrixProduct.shape, hinfo, hinfo',
      product]
    simp only [bind, Except.bind, ← hp, ← hq]
    rcases info with _ | s
    · rfl
    · rcases info' with _ | t
      · rfl
      · refine Eq.trans ?_ (map_plain_product s t).symm
        dsimp only
        split <;> rename_i h <;> rw [h] <;> rfl

theorem isOf_reversal : reversal.IsOf (.callable (.primitive .transpose)) 1 where
  callable := ⟨_, rfl⟩
  rank_eq := by
    intro st ws ps h hlen
    obtain ⟨v, rfl⟩ := List.length_eq_one_iff.1 hlen
    obtain ⟨p, rfl, hv⟩ := forall₂_singleton_left h
    rw [toOption_rank .transposeNdims (Transposition.rank v) rfl rfl, Transposition.rank, hv.rank_eq]
    rfl
  shape_eq := by
    intro st ws ps h hlen
    obtain ⟨v, rfl⟩ := List.length_eq_one_iff.1 hlen
    obtain ⟨p, rfl, hv⟩ := forall₂_singleton_left h
    obtain ⟨info, hinfo, hp⟩ := hv.shape_eq
    rw [toOption_shape .transposeShape (Transposition.shape st.slots v) rfl rfl, Transposition.shape, hinfo, reversal]
    simp only [← hp]
    rcases info with _ | s
    · rfl
    · exact congrArg (fun t => some (some t)) (Shape.transpose_of_plain s.plain_plain).symm

end Inference

/-! ## Applications -/

namespace Build

variable {R : Inference} {op : Value} {st : Store} {vs : List Value} {ps : List Profile}

/-- **What is read of an application** follows from what is read of its operands. -/
theorem yields_arrayTerm (hR : R.IsOf op vs.length) (hw : st.WellFormed) (h : List.Forall₂ st.HasProfile vs ps) :
    Yields (arrayTerm .builtin op vs) st (R.Gives ps) := by
  obtain ⟨ws, st₁, h₁, hg₁, -, hws⟩ := outcome_operands_profiles hw h
  have hlen : ws.length = vs.length := hws.length_eq.trans h.length_eq.symm
  obtain ⟨rank, shape, hrank, hshape, -⟩ := RuleBook.outcome_builtin op ws st₁
  have hr := hR.rank_eq hws hlen
  have hs := hR.shape_eq hws hlen
  rw [show (outcome (RuleBook.builtin.rank op ws) st₁).1 = rank from congrArg Prod.fst hrank] at hr
  rw [show (outcome (RuleBook.builtin.shape op ws) st₁).1 = shape from congrArg Prod.fst hshape] at hs
  refine ⟨fun _ _ => Inference.Gives.unique, ?_, ?_⟩
  · intro q hq
    obtain ⟨n, hn⟩ := hq.rank_known
    rw [← hq.rank_eq, hn, toOption_eq_some] at hr
    rw [hq.shape_eq] at hs
    obtain ⟨info, hinfo, hplain⟩ := Option.map_eq_some_iff.1 hs
    rw [toOption_eq_some] at hinfo
    have hfit : RankFits n info := by
      rintro s rfl
      rw [← Shape.rank_of_plain s.plain_plain]
      exact (Option.some.inj (hn.symm.trans (hq.fits _ hplain.symm))).symm
    obtain ⟨f, hf⟩ := hR.callable
    obtain ⟨x, st', hx⟩ := outcome_finishedTerm hf ws n info hg₁.wellFormed
    rw [hr] at hrank
    rw [hinfo] at hshape
    exact ⟨x, st', arrayTerm_ok.2 ⟨ws, st₁, n, st₁, info, st₁, h₁, hrank, hshape, hfit, hx⟩⟩
  · intro x st' hx
    refine ⟨(grows_arrayTerm RuleBook.builtin_grows op vs).of_ok hw hx, ?_⟩
    obtain ⟨ws', st₁', n, st₂, info, st₃, h₁', hn, hinfo, hfit, hx⟩ := arrayTerm_ok.1 hx
    cases h₁.symm.trans h₁'
    cases hrank.symm.trans hn
    cases hshape.symm.trans hinfo
    obtain ⟨f, info', -, hnew, hplain, hslots, hnext⟩ := finishedTerm_ok hx
    have hkind : x.type.container? = some (Container.fold (ps.filterMap Profile.kind?)) := by
      rw [DeclaredType.container?_of_plain hnew.type_eq, ← joinedContainer_of_profiles hws]
      rfl
    refine ⟨⟨x.type.container?, some n, info.map Shape.plain⟩, ⟨hkind, hr, ⟨n, rfl⟩, hs.symm, ?_⟩,
      Value.kind?_node x, rank_node (DeclaredType.rank_of_plain hnew.type_eq), ⟨info', ?_, hplain⟩, ?_⟩
    · intro s hs'
      obtain ⟨t, rfl, rfl⟩ := Option.map_eq_some_iff.1 hs'
      rw [← hfit t rfl, Shape.rank_of_plain t.plain_plain]
    · exact Slots.shapeOf_of_slot (by rw [hslots, Slots.get?_insert_self])
    · rintro m ⟨⟩
      exact hnew.id_eq ▸ hnext

/-- **An application with an array among its operands** is built and typed from their profiles. -/
theorem yields_apply (hR : R.IsOf op vs.length) (hw : st.WellFormed) (h : List.Forall₂ st.HasProfile vs ps)
    (ha : ∃ p ∈ ps, p.kind?.isSome = true) : Yields (apply .builtin op vs) st (R.Gives ps) := by
  obtain ⟨ws, st₁, h₁, hg₁, hops, hws⟩ := outcome_operands_profiles hw h
  have hany : ws.any Value.isArrayTyped = true := by
    rw [any_isArrayTyped_of_profiles hws]
    exact List.any_eq_true.2 ha
  have happly : outcome (apply .builtin op vs) st = outcome (arrayTerm .builtin op ws) st₁ := by
    unfold apply
    rw [outcome_bind_of_ok h₁, if_pos hany]
  have hlen : vs.length = ws.length := h.length_eq.trans hws.length_eq.symm
  have hy := yields_arrayTerm (hlen ▸ hR) hg₁.wellFormed hws
  refine ⟨hy.unique, ?_, ?_⟩
  · rw [happly]
    exact hy.built
  · rw [happly]
    intro n st' hn
    obtain ⟨hg, hq⟩ := hy.profile n st' hn
    exact ⟨hg₁.trans hg, hq⟩

end Build

end ArrayTyping

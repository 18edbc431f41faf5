import ArrayTyping.Proofs.Matching
/-!
# Rebuilding — every constructor over matching parts

If a constructor succeeds over the parts of one build, it succeeds over matching parts of the other, and the two new
nodes match.
-/
namespace ArrayTyping

open Build

/-! ## Applications -/

section

variable {st st' : Store} {vs ws : List Value}

theorem usesOfAll_of_match (h : List.Forall₂ (ValuesMatch st st') vs ws) :
    List.Forall₂ (UsesMatch st st') (usesOfAll vs) (usesOfAll ws) := by
  rw [usesOfAll_eq, usesOfAll_eq]
  exact List.rel_flatMap h fun _ _ hv => hv.uses

theorem wellIndexedAll_of_match (h : List.Forall₂ (ValuesMatch st st') vs ws) :
    wellIndexedAll vs ∧ wellIndexedAll ws := by
  induction h with
  | nil => exact ⟨trivial, trivial⟩
  | cons hv _ ih => exact ⟨⟨hv.wellIndexed.1, ih.1⟩, hv.wellIndexed.2, ih.2⟩

theorem keyUses_of_match {n m : Node} (hnm : ShapesMatch st st' n m) (h : List.Forall₂ (ValuesMatch st st') vs ws)
    (d : Nat) : List.Forall₂ (UsesMatch st st') (keyUses (.node n) d vs) (keyUses (.node m) d ws) :=
  keyUses_related (fun _ _ _ hst => ⟨hst, rfl, n, m, rfl, rfl, hnm⟩) (h.imp fun _ _ hv => hv.symbol) d

theorem shapesMatch_of_attached {n m : Node} {s t s' t' : ShapeInfo} (hn : n.id < st.next) (hm : m.id < st'.next)
    (hs : st.slots.get? n.id = some s') (ht : st'.slots.get? m.id = some t')
    (hs' : s'.map Shape.plain = s.map Shape.plain)
    (ht' : t'.map Shape.plain = t.map Shape.plain) (hv : Vaguer Shape.plain s t) : ShapesMatch st st' n m :=
  ⟨hn, hm, s', t', Slots.shapeOf_of_slot hs, Slots.shapeOf_of_slot ht, hv.congr hs' ht'⟩

theorem shapesMatch_of_scalars {n m : Node} (hn : n.id < st.next) (hm : m.id < st'.next)
    (hs : st.slots.get? n.id = none) (ht : st'.slots.get? m.id = none) (hn' : n.isArray = false)
    (hm' : m.isArray = false) : ShapesMatch st st' n m :=
  ⟨hn, hm, _, _, Slots.shapeOf_of_scalar hs hn', Slots.shapeOf_of_scalar ht hm', Vaguer.refl _⟩

end

namespace Build

variable {st st' st₁ : Store} {vs ws : List Value}

/-- **An array term over matching operands** is built with the same type, and with the shape or an unknown one. -/
theorem arrayTerm_of_match (hw : st.WellFormed) (hw' : st'.WellFormed) {f : Callable} (hf : f.isGetitem = false)
    (h : List.Forall₂ (ValuesMatch st st') vs ws) {n : Node}
    (hn : outcome (arrayTerm .builtin (.callable f) vs) st = (.ok n, st₁)) :
    ∃ m st₁', outcome (arrayTerm .builtin (.callable f) ws) st' = (.ok m, st₁') ∧ NodesMatch st₁ st₁' n m := by
  have hg := (grows_arrayTerm RuleBook.builtin_grows _ _).of_ok hw hn
  obtain ⟨operands, st₂, r, st₃, s, st₄, hops, hrank, hshape, hfits, hfin⟩ := arrayTerm_ok.1 hn
  obtain ⟨hopv, hopw⟩ := isOperand_of_match (typesMatch_of_match h)
  rw [outcome_operands hopv] at hops
  cases hops
  obtain ⟨rfl, hrank'⟩ := RuleBook.builtin_rank_of_match h hrank
  obtain ⟨rfl, t, hshape', hv⟩ := RuleBook.builtin_shape_of_match h hshape
  have hfits' : RankFits r t := by
    rintro b rfl
    obtain ⟨a, rfl, hab⟩ := hv.of_some
    rw [Shape.rank_of_plain hab, hfits a rfl]
  obtain ⟨m, st₁', hfin'⟩ := outcome_finishedTerm (show (Value.callable f).callable? = some f from rfl) ws r t hw'
  have hm := arrayTerm_ok.2 ⟨ws, st', r, st', t, st', outcome_operands hopw st', hrank', hshape',
    hfits', hfin'⟩
  have hg' := (grows_arrayTerm RuleBook.builtin_grows _ _).of_ok hw' hm
  obtain ⟨f₁, s', hf₁, hnew, hs', hslots, hnext⟩ := finishedTerm_ok hfin
  obtain ⟨f₂, t', hf₂, hnew', ht', hslots', hnext'⟩ := finishedTerm_ok hfin'
  cases hf₁
  cases hf₂
  obtain ⟨hwv, hww⟩ := wellIndexedAll_of_match h
  obtain ⟨huses, hwell⟩ := hnew.walk hf hopv
  obtain ⟨huses', hwell'⟩ := hnew'.walk hf hopw
  refine ⟨m, st₁', hm, ?_, ?_, ?_, ⟨hwell.2 hwv, hwell'.2 hww⟩, ?_⟩
  · rw [hnew.type_eq, hnew'.type_eq, joinedContainer_of_match (typesMatch_of_match h),
      joinedElementType_of_match (typesMatch_of_match h)]
  · refine shapesMatch_of_attached ?_ ?_ ?_ ?_ hs' ht' hv
    · rw [hnew.id_eq]
      exact hnext
    · rw [hnew'.id_eq]
      exact hnext'
    · rw [hslots, Slots.get?_insert_self]
    · rw [hslots', Slots.get?_insert_self]
  · rw [huses, huses']
    exact (usesOfAll_of_match h).imp fun _ _ hu => hu.grown hg hg'
  · rw [hnew.symbol?_eq, hnew'.symbol?_eq]
    exact .none

theorem nodesMatch_of_scalarTerms (hw : st.WellFormed) (hw' : st'.WellFormed) {n m : Node} {f f' : Callable}
    {t u : DeclaredType} (hn : IsNewTerm n f vs t st) (hm : IsNewTerm m f' ws u st') (ht : t.isArray = false)
    (htu : u.plain = t.plain) {st₁' : Store} (hs : st₁.slots = st.slots) (hs' : st₁'.slots = st'.slots)
    (hlt : st.next < st₁.next) (hlt' : st'.next < st₁'.next) (huses : List.Forall₂ (UsesMatch st st') n.uses m.uses)
    (hwell : n.WellIndexed ∧ m.WellIndexed) : NodesMatch st₁ st₁' n m := by
  have hg := Store.Grown.of_slots_eq hw hs (Nat.le_of_lt hlt)
  have hg' := Store.Grown.of_slots_eq hw' hs' (Nat.le_of_lt hlt')
  refine ⟨by rw [hn.type_eq, hm.type_eq, htu], ?_, huses.imp fun _ _ hu => hu.grown hg hg', hwell, ?_⟩
  · refine shapesMatch_of_scalars ?_ ?_ ?_ ?_ ((DeclaredType.isArray_of_plain hn.type_eq).trans ht)
      ((DeclaredType.isArray_of_plain (hm.type_eq.trans htu)).trans ht)
    · rw [hn.id_eq]
      exact hlt
    · rw [hm.id_eq]
      exact hlt'
    · rw [hs, hn.id_eq]
      exact hw _ (Nat.le_refl _)
    · rw [hs', hm.id_eq]
      exact hw' _ (Nat.le_refl _)
  · rw [hn.symbol?_eq, hm.symbol?_eq]
    exact .none

/-- **An application over matching operands.** -/
theorem apply_of_match (hw : st.WellFormed) (hw' : st'.WellFormed) {f : Callable} (hf : f.isGetitem = false)
    (h : List.Forall₂ (ValuesMatch st st') vs ws) {n : Node}
    (hn : outcome (apply .builtin (.callable f) vs) st = (.ok n, st₁)) :
    ∃ m st₁', outcome (apply .builtin (.callable f) ws) st' = (.ok m, st₁') ∧ NodesMatch st₁ st₁' n m := by
  obtain ⟨hopv, hopw⟩ := isOperand_of_match (typesMatch_of_match h)
  unfold apply at hn ⊢
  rw [outcome_bind_of_ok (outcome_operands hopv st)] at hn
  rw [outcome_bind_of_ok (outcome_operands hopw st'), any_isArrayTyped_of_match (typesMatch_of_match h)]
  split at hn
  · rename_i harray
    rw [if_pos harray]
    exact arrayTerm_of_match hw hw' hf h hn
  · rename_i hscalar
    rw [if_neg hscalar]
    obtain ⟨t, st₂, h₂, hn⟩ := outcome_bind_ok.1 hn
    obtain ⟨ht, rfl⟩ := outcome_lift_ok.1 h₂
    have ht' := promotedScalarType_of_match (typesMatch_of_match h) ht
    obtain ⟨e, he⟩ : ∃ e, t = .scalar e := by
      rw [promotedScalarType_eq] at ht
      cases hj : joinElementTypes (vs.map contribution) with
      | error f =>
        rw [hj] at ht
        cases ht
      | ok e =>
        rw [hj] at ht
        exact ⟨e, (Except.ok.inj ht).symm⟩
    obtain ⟨f₁, hf₁, hnew, hs, hlt⟩ := term_ok hn
    cases hf₁
    obtain ⟨m, st₁', hm, hnew', hs', hlt'⟩ := outcome_term (show (Value.callable f).callable? = some f from rfl)
      ws t st'
    obtain ⟨hwv, hww⟩ := wellIndexedAll_of_match h
    obtain ⟨huses, hwell⟩ := hnew.walk hf hopv
    obtain ⟨huses', hwell'⟩ := hnew'.walk hf hopw
    refine ⟨m, st₁', ?_, nodesMatch_of_scalarTerms hw hw' hnew hnew' (by rw [he]; rfl) rfl hs hs' hlt hlt' ?_
      ⟨hwell.2 hwv, hwell'.2 hww⟩⟩
    · rw [outcome_bind_of_ok (outcome_lift_ok.2 ⟨ht', rfl⟩)]
      exact hm
    · rw [huses, huses']
      exact usesOfAll_of_match h

theorem indexKey_of_match {v w k : Value} (h : ValuesMatch st st' v w) (hk : indexKey v = .ok k) :
    ∃ k', indexKey w = .ok k' ∧ ValuesMatch st st' k k' := by
  cases h with
  | literal h =>
    refine ⟨k, hk, .literal ?_⟩
    unfold indexKey at hk
    split at hk
    · cases hk
    · cases hk
    · cases hk
      rfl
    · cases h
    · split at hk
      · cases hk
        rfl
      · cases hk
  | @node n m h =>
    unfold indexKey at hk ⊢
    dsimp only at hk ⊢
    split at hk
    · cases hk
    · rename_i hn
      cases hk
      rw [if_neg (by rw [Node.isArray, DeclaredType.isArray_of_plain h.type_eq]; exact hn)]
      exact ⟨_, rfl, .node h⟩

/-- **An element of matching arrays at matching keys.** -/
theorem index_of_match (hw : st.WellFormed) (hw' : st'.WellFormed) {array array' : Value}
    (ha : ValuesMatch st st' array array') (h : List.Forall₂ (ValuesMatch st st') vs ws) {n : Node}
    (hn : outcome (index array (.ofItems vs)) st = (.ok n, st₁)) :
    ∃ m st₁', outcome (index array' (.ofItems ws)) st' = (.ok m, st₁') ∧ NodesMatch st₁ st₁' n m := by
  unfold index at hn ⊢
  rw [outcome_bind_of_ok (outcome_operand ha.types.isOperand.1 st)] at hn
  rw [outcome_bind_of_ok (outcome_operand ha.types.isOperand.2 st')]
  cases ha with
  | literal h =>
    simp only [(Value.walk_of_literal h).2.2.2] at hn
    cases hn
  | @node a a' ha =>
    have htype := (ValuesMatch.node ha).types.arrayType
    cases ht : (Value.node a).arrayType? with
    | none =>
      simp only [ht] at hn
      cases hn
    | some t =>
      rw [ht] at htype
      obtain ⟨t', ht', htt⟩ := Option.map_eq_some_iff.1 htype
      simp only [ht] at hn
      simp only [ht']
      obtain ⟨keys, st₂, h₂, hn⟩ := outcome_bind_ok.1 hn
      rw [outcome_mapM_lift] at h₂
      obtain ⟨hk, rfl⟩ := Prod.mk.inj h₂
      obtain ⟨keys', hk', hkeys⟩ := exceptMapM_related (f := indexKey) (g := indexKey)
        (fun _ _ _ hv hx => indexKey_of_match hv hx) h hk
      obtain ⟨f, hf, hnew, hs, hlt⟩ := term_ok hn
      cases hf
      obtain ⟨m, st₁', hm, hnew', hs', hlt'⟩ := outcome_term
        (show (Value.callable (.primitive .getitem)).callable? = some _ from rfl) (.node a' :: keys')
        (.scalar t'.eltype) st'
      obtain ⟨hopv, hopw⟩ := isOperand_of_match (typesMatch_of_match hkeys)
      obtain ⟨huses, hwell⟩ := hnew.walk_indexing hopv
      obtain ⟨huses', hwell'⟩ := hnew'.walk_indexing hopw
      refine ⟨m, st₁', ?_, nodesMatch_of_scalarTerms hw hw' hnew hnew' rfl ?_ hs hs' hlt hlt' ?_ ⟨hwell, hwell'⟩⟩
      · have hkeys' : outcome ((indexKeys (.ofItems ws)).mapM fun k => (liftM (indexKey k) : Build Value)) st' =
            (.ok keys', st') := by
          rw [outcome_mapM_lift]
          exact congrArg (·, st') hk'
        rw [outcome_bind_of_ok hkeys']
        exact hm
      · exact congrArg DeclaredType.scalar (DeclaredType.eltype_of_plain htt)
      · rw [huses, huses']
        exact keyUses_of_match ha.shapes hkeys 1

end Build

/-! ## Arrays by index notation -/

section

variable {st st' : Store} {us vs : List Use} {u v : Use}

theorem UsesMatch.axis? (h : UsesMatch st st' u v) : Vaguer Axis.plain (u.axis? st.slots) (v.axis? st'.slots) := by
  obtain ⟨n, m, hn, hm, -, -, s, t, hs, ht, hst⟩ := h.array
  rw [← hn] at hs
  rw [← hm] at ht
  cases t with
  | none => exact .inl (Use.axis?_of_unknown ht)
  | some t =>
    obtain ⟨s, rfl, hplain⟩ := hst.of_some
    rw [Use.axis?_of_known hs, Use.axis?_of_known ht, h.dimension]
    exact .of_eq (congrArg some (Shape.axis_of_plain hplain _))

theorem readable_of_match {n m : Value} (h : List.Forall₂ (UsesMatch st st') n.uses m.uses) :
    (∀ u ∈ n.uses, u.Readable st.slots) ∧ ∀ v ∈ m.uses, v.Readable st'.slots := by
  constructor
  · intro u hu
    obtain ⟨v, -, huv⟩ := forall₂_exists_right h u hu
    obtain ⟨a, b, ha, -, -, -, s, t, hs, -⟩ := huv.array
    exact ⟨⟨s, ha ▸ hs⟩, n.one_le_dimension u hu⟩
  · intro v hv
    obtain ⟨u, -, huv⟩ := forall₂_exists_left h v hv
    obtain ⟨a, b, -, hb, -, -, s, t, -, ht, -⟩ := huv.array
    exact ⟨⟨t, hb ▸ ht⟩, m.one_le_dimension v hv⟩

theorem same_of_match {s t s' t' : Symbol} (hs : s'.same s = true) (ht : t'.same t = true) : s'.same t' = s.same t := by
  rw [Symbol.same_congr hs, Symbol.same_comm, Symbol.same_congr ht, Symbol.same_comm]

/-- Uses conflict in the second build only where they do in the first. -/
theorem not_conflicting_of_match (h : List.Forall₂ (UsesMatch st st') us vs) (hc : ¬ Conflicting st.slots us) :
    ¬ Conflicting st'.slots vs := by
  rintro ⟨v₁, hv₁, v₂, hv₂, hsame, a', b', ha', hb', hne⟩
  obtain ⟨u₁, hu₁, h₁⟩ := forall₂_exists_left h v₁ hv₁
  obtain ⟨u₂, hu₂, h₂⟩ := forall₂_exists_left h v₂ hv₂
  obtain ⟨a, ha, haa⟩ := (ha' ▸ h₁.axis?).of_some
  obtain ⟨b, hb, hbb⟩ := (hb' ▸ h₂.axis?).of_some
  refine hc ⟨u₁, hu₁, u₂, hu₂, ?_, a, b, ha, hb, ?_⟩
  · rw [← same_of_match h₁.symbol h₂.symbol]
    exact hsame
  · rw [← Axis.toList_of_plain haa, ← Axis.toList_of_plain hbb]
    exact hne

theorem firstUse?_of_match (h : List.Forall₂ (UsesMatch st st') us vs) {s t : Symbol} (hst : t.same s = true) :
    Option.Rel (UsesMatch st st') (firstUse? us s) (firstUse? vs t) := by
  induction h with
  | nil => exact .none
  | @cons u v us vs huv _ ih =>
    rw [firstUse?, firstUse?, List.find?_cons, List.find?_cons, same_of_match huv.symbol hst]
    split
    · exact .some huv
    · exact ih

inductive OutputsMatch : OutputIndex → OutputIndex → Prop where
  | literal (n n' : Int) (m m' : Mark) : OutputsMatch (.literal n m) (.literal n' m')
  | symbol {s t : Symbol} (h : t.same s = true) : OutputsMatch (.symbol s) (.symbol t)

theorem OutputsMatch.refl (i : OutputIndex) : OutputsMatch i i := by
  cases i with
  | literal n m => exact .literal n n m m
  | symbol s => exact .symbol s.same_refl

variable {out out' : List OutputIndex}

theorem not_unresolved_of_match (h : List.Forall₂ (UsesMatch st st') us vs) (ho : List.Forall₂ OutputsMatch out out')
    (hu : ¬ Unresolved us out) : ¬ Unresolved vs out' := by
  rintro ⟨t, ht, hno⟩
  obtain ⟨i, hi, hit⟩ := forall₂_exists_left ho _ ht
  cases hit with
  | @symbol s _ hst =>
    refine hu ⟨s, hi, firstUse?_eq_none.1 ?_⟩
    have hrel := firstUse?_of_match h hst
    rw [firstUse?_eq_none.2 hno] at hrel
    cases hf : firstUse? us s with
    | none => rfl
    | some u =>
      rw [hf] at hrel
      cases hrel

theorem axis?_of_outputsMatch (h : List.Forall₂ (UsesMatch st st') us vs) {i j : OutputIndex} (hij : OutputsMatch i j) :
    Vaguer Axis.plain (i.axis? st.slots us) (j.axis? st'.slots vs) := by
  cases hij with
  | literal => exact Vaguer.refl _
  | symbol hst =>
    rw [OutputIndex.axis?, OutputIndex.axis?]
    have hrel := firstUse?_of_match h hst
    revert hrel
    generalize firstUse? us _ = a, firstUse? vs _ = b
    intro hrel
    cases hrel with
    | none => exact Vaguer.refl _
    | some huv => exact huv.axis?

theorem vaguer_ofAxes {xs ys : List (Option Axis)} (h : List.Forall₂ (Vaguer Axis.plain) xs ys) :
    Vaguer Shape.plain ((xs.mapM id).map Shape.ofAxes) ((ys.mapM id).map Shape.ofAxes) := by
  cases hk : ys.mapM id with
  | none => exact .inl rfl
  | some bs =>
    obtain ⟨as, has, hab⟩ := Vaguer.mapM_id h hk
    rw [has]
    exact .of_eq (congrArg some (Shape.plain_ofAxes (map_eq_of_forall₂ hab)))

/-- **An output resolves over matching bodies**, to the shape or to an unknown one. -/
theorem outputShape_of_match {body body' : Value} (hb : ValuesMatch st st' body body')
    (ho : List.Forall₂ OutputsMatch out out') {info : ShapeInfo}
    (h : (outcome (outputShape out body) st).1 = .ok info) :
    ∃ info', (outcome (outputShape out' body') st').1 = .ok info' ∧ Vaguer Shape.plain info info' := by
  obtain ⟨hwell, hwell'⟩ := hb.wellIndexed
  obtain ⟨hread, hread'⟩ := readable_of_match hb.uses
  have hc : ¬ Conflicting st.slots body.uses := by
    intro hc
    obtain ⟨f, hf, -⟩ := outputShape_of_conflicting out hwell hread hc
    rw [h] at hf
    cases hf
  rw [outputShape_of_consistent out hwell hread hc] at h
  have hu : ¬ Unresolved body.uses out := by
    intro hu
    obtain ⟨s, hs⟩ := axes_of_unresolved hread body hu
    rw [hs] at h
    cases h
  rw [axes_of_not_unresolved hread body hu] at h
  rw [outputShape_of_consistent out' hwell' hread' (not_conflicting_of_match hb.uses hc),
    axes_of_not_unresolved hread' body' (not_unresolved_of_match hb.uses ho hu)]
  refine ⟨_, rfl, ?_⟩
  cases h
  refine vaguer_ofAxes ?_
  rw [List.forall₂_map_left_iff, List.forall₂_map_right_iff]
  exact ho.imp fun _ _ hij => axis?_of_outputsMatch hb.uses hij

theorem ofValue_of_match {v w : Value} {i : OutputIndex} (h : ValuesMatch st st' v w)
    (hi : OutputIndex.ofValue v = .ok i) :
    ∃ j, OutputIndex.ofValue w = .ok j ∧ OutputsMatch i j := by
  cases h with
  | literal h => exact ⟨i, hi, .refl i⟩
  | @node n m h =>
    have hsymbol := h.symbol
    cases n with
    | symbol s =>
      obtain ⟨t, ht, hst⟩ : ∃ t, m = .symbol t ∧ t.same s = true := by
        cases m with
        | symbol t =>
          cases hsymbol with
          | some hst => exact ⟨t, rfl, hst⟩
        | _ => cases hsymbol
      subst ht
      unfold OutputIndex.ofValue at hi ⊢
      dsimp only at hi ⊢
      split at hi
      · cases hi
      · rename_i harray
        cases hi
        have htype : t.type.plain = s.type.plain := h.type_eq
        rw [if_neg (by rw [DeclaredType.isArray_of_plain htype]; exact harray)]
        exact ⟨_, rfl, .symbol hst⟩
    | _ => cases hi

theorem toOutput_of_match {vs ws : List Value} (h : List.Forall₂ (ValuesMatch st st') vs ws)
    (ho : (Value.ofItems vs).toOutput = .ok out) :
    ∃ out', (Value.ofItems ws).toOutput = .ok out' ∧ List.Forall₂ OutputsMatch out out' :=
  exceptMapM_related (f := OutputIndex.ofValue) (g := OutputIndex.ofValue)
    (fun _ _ _ hv hx => ofValue_of_match hv hx) h ho

theorem bodyElementType_of_match {v w : Value} {e : ElementType} (h : ValuesMatch st st' v w)
    (he : bodyElementType v = .ok e) :
    ∃ e', bodyElementType w = .ok e' ∧ e'.map Dtype.plain = e.map Dtype.plain := by
  unfold bodyElementType at he ⊢
  obtain ⟨t, ht, he⟩ := exceptBind_ok.1 he
  obtain ⟨u, hu, htu⟩ := h.types.declaredType ht
  rw [hu]
  cases t with
  | scalar a =>
    cases u with
    | scalar b =>
      cases he
      exact ⟨b, rfl, DeclaredType.eltype_of_plain htu⟩
    | array => cases htu
  | array k a r =>
    cases u with
    | scalar => cases htu
    | array =>
      cases he
      exact ⟨none, rfl, rfl⟩

end

namespace Build

variable {st st' st₁ : Store} {vs ws : List Value}

inductive SourcesMatch (st st' : Store) : Value → Value → Prop where
  | none : SourcesMatch st st' .none .none
  | operand {v w : Value} (h : ValuesMatch st st' v w) : SourcesMatch st st' v w

theorem toSource_of_match {v w : Value} (h : SourcesMatch st st' v w) {src : Option Node} (hs : v.toSource = .ok src) :
    ∃ src', w.toSource = .ok src' ∧ Option.Rel (NodesMatch st st') src src' := by
  cases h with
  | none =>
    cases hs
    exact ⟨_, rfl, .none⟩
  | operand h =>
    cases h with
    | literal h =>
      cases v with
      | bool | int | float | complex | scalar => cases hs
      | _ => cases h
    | node h =>
      cases hs
      exact ⟨_, rfl, .some h⟩

theorem IsNewArrayOp.walk {n : Node} {output : List OutputIndex} {body : Value} {reduce : Callable}
    {source : Option Node} {k : Container} {e e' : ElementType} (h : IsNewArrayOp n output body reduce source k e st)
    (hb : bodyElementType body = .ok e') :
    n.uses = body.uses ++ usesOfSource source ∧ (n.WellIndexed ↔ body.WellIndexed ∧ wellIndexedSource source) ∧
      (Value.node n).symbol? = none := by
  obtain ⟨output', om, body', reduce', e', tm, rfl, -, hbody, -⟩ := h
  obtain ⟨t, ht, -⟩ := exceptBind_ok.1 hb
  obtain ⟨huses, hwell⟩ := (body.kept_walk ht).of_gives hbody
  exact ⟨by rw [Node.uses, huses], and_congr_left fun _ => hwell, rfl⟩

theorem usesOfSource_of_match {src src' : Option Node} (h : Option.Rel (NodesMatch st st') src src') :
    List.Forall₂ (UsesMatch st st') (usesOfSource src) (usesOfSource src') ∧ wellIndexedSource src ∧
      wellIndexedSource src' := by
  cases h with
  | none => exact ⟨.nil, trivial, trivial⟩
  | some h => exact ⟨h.uses, h.wellIndexed⟩

/-- **An array by index notation over a matching output, body and source.** -/
theorem arrayOp_of_match (hw : st.WellFormed) (hw' : st'.WellFormed) (ho : List.Forall₂ (ValuesMatch st st') vs ws)
    {body body' source source' : Value} (hb : ValuesMatch st st' body body') (hs : SourcesMatch st st' source source')
    {reduce container : Value} {n : Node}
    (hn : outcome (arrayOp (.ofItems vs) body reduce source container) st = (.ok n, st₁)) :
    ∃ m st₁', outcome (arrayOp (.ofItems ws) body' reduce source' container) st' = (.ok m, st₁') ∧
      NodesMatch st₁ st₁' n m := by
  have hg := (grows_arrayOp _ _ _ _ _).of_ok hw hn
  obtain ⟨st₂, hnode, hslots₁, hnext₁⟩ := arrayOp_ok hn
  obtain ⟨out, f, src, e, k, hout, hf, hsrc, he, hk, hindexed⟩ := arrayOpNode_ok.1 hnode
  obtain ⟨st₃, info, st₄, info₁, hnew, hs₃, hlt₃, hshape, hplain, hslots, hnext⟩ := indexed_spec hindexed
  obtain ⟨out', hout', houts⟩ := toOutput_of_match ho hout
  obtain ⟨src', hsrc', hsrcs⟩ := toSource_of_match hs hsrc
  obtain ⟨e', he', hee⟩ := bodyElementType_of_match hb he
  have hg₃ := Store.Grown.of_slots_eq hw hs₃ (Nat.le_of_lt hlt₃)
  have hresolve : ∀ st₃' : Store, st₃'.slots = st'.slots → st'.next ≤ st₃'.next →
      ∃ info', (outcome (outputShape out' body') st₃').1 = .ok info' ∧ Vaguer Shape.plain info info' :=
    fun st₃' hs₃' hle =>
      outputShape_of_match (hb.grown hg₃ (Store.Grown.of_slots_eq hw' hs₃' hle)) houts (by rw [hshape])
  obtain ⟨m, st₂', hindexed'⟩ := outcome_indexed f src' k e' hw' fun st₃' hs₃' hle =>
    (hresolve st₃' hs₃' hle).imp fun _ h => h.1
  obtain ⟨st₃', info', st₄', info₁', hnew', hs₃', hlt₃', hshape', hplain', hslots', hnext'⟩ := indexed_spec hindexed'
  have hvague : Vaguer Shape.plain info info' := by
    obtain ⟨info'', hinfo, hv⟩ := hresolve st₃' hs₃' (Nat.le_of_lt hlt₃')
    rw [hshape'] at hinfo
    cases hinfo
    exact hv
  have hslot' : st₂'.slots.get? m.id = some info₁' := by rw [hslots', Slots.get?_insert_self]
  obtain ⟨st₁', hm, hslots₁', hnext₁'⟩ := outcome_arrayOp (arrayOpNode_ok.2 ⟨out', f, src', e', k, hout', hf,
    hsrc', he', hk,
    hindexed'⟩) (Slots.shapeOf_of_slot hslot')
  have hg' := (grows_arrayOp _ _ _ _ _).of_ok hw' hm
  obtain ⟨hsrcUses, hsrcWell, hsrcWell'⟩ := usesOfSource_of_match hsrcs
  obtain ⟨huses, hwell, hsymbol⟩ := hnew.walk he
  obtain ⟨huses', hwell', hsymbol'⟩ := hnew'.walk he'
  refine ⟨m, st₁', hm, ?_, ?_, ?_, ⟨hwell.2 ⟨hb.wellIndexed.1, hsrcWell⟩, hwell'.2 ⟨hb.wellIndexed.2, hsrcWell'⟩⟩, ?_⟩
  · rw [hnew.type_eq, hnew'.type_eq, DeclaredType.plain, DeclaredType.plain, hee, houts.length_eq]
  · refine shapesMatch_of_attached ?_ ?_ ?_ ?_ hplain hplain' hvague
    · rw [hnew.id_eq, hnext₁]
      exact hnext
    · rw [hnew'.id_eq, hnext₁']
      exact hnext'
    · rw [hslots₁, hslots, Slots.get?_insert_self]
    · rw [hslots₁']
      exact hslot'
  · rw [huses, huses']
    exact (List.rel_append hb.uses hsrcUses).imp fun _ _ hu => hu.grown hg hg'
  · rw [hsymbol, hsymbol']
    exact .none

/-! ## Leaves -/

variable {st₁' : Store}

theorem nodesMatch_of_symbols {s s' : Symbol} {l : Label} {t : DeclaredType} (hs : IsNewSymbol s l t st)
    (hs' : IsNewSymbol s' l t st') (h : ShapesMatch st₁ st₁' (.symbol s) (.symbol s')) :
    NodesMatch st₁ st₁' (.symbol s) (.symbol s') where
  type_eq := hs'.type_eq.trans hs.type_eq.symm
  shapes := h
  uses := .nil
  wellIndexed := ⟨trivial, trivial⟩
  symbol := .some (Symbol.same_iff.2 ⟨hs'.content_eq.trans hs.content_eq.symm, hs'.type_eq.trans hs.type_eq.symm⟩)

theorem symbol_of_match (hw : st.WellFormed) (hw' : st'.WellFormed) {name : Value} {t : DeclaredType}
    (ht : t.isArray = false) {s : Symbol} (hs : outcome (symbol name t) st = (.ok s, st₁)) :
    ∃ s' st₁', outcome (symbol name t) st' = (.ok s', st₁') ∧ NodesMatch st₁ st₁' (.symbol s) (.symbol s') := by
  obtain ⟨l, hl, hnew, hslots, hlt⟩ := isNewSymbol_of_symbol hs
  obtain ⟨s', st₁', hnamed, hnew', hslots', hlt'⟩ := outcome_namedSymbol l t Mark.unmarked st'
  refine ⟨s', st₁', symbol_ok.2 ⟨l, hl, hnamed⟩, nodesMatch_of_symbols hnew hnew' ?_⟩
  refine shapesMatch_of_scalars ?_ ?_ ?_ ?_ ((DeclaredType.isArray_of_plain hnew.type_eq).trans ht)
    ((DeclaredType.isArray_of_plain hnew'.type_eq).trans ht)
  · exact Nat.lt_of_le_of_lt (Nat.le_of_eq hnew.id_eq) hlt
  · exact Nat.lt_of_le_of_lt (Nat.le_of_eq hnew'.id_eq) hlt'
  · rw [hslots, show (Node.symbol s).id = st.next from hnew.id_eq]
    exact hw _ (Nat.le_refl _)
  · rw [hslots', show (Node.symbol s').id = st'.next from hnew'.id_eq]
    exact hw' _ (Nat.le_refl _)

theorem scalarSymbol_of_match (hw : st.WellFormed) (hw' : st'.WellFormed) {name dtype : Value} {s : Symbol}
    (hs : outcome (scalarSymbol name dtype) st = (.ok s, st₁)) :
    ∃ s' st₁', outcome (scalarSymbol name dtype) st' = (.ok s', st₁') ∧
      NodesMatch st₁ st₁' (.symbol s) (.symbol s') := by
  unfold scalarSymbol at hs ⊢
  obtain ⟨e, st₂, h₂, hs⟩ := outcome_bind_ok.1 hs
  obtain ⟨he, rfl⟩ := outcome_lift_ok.1 h₂
  rw [outcome_bind_of_ok (outcome_lift_ok.2 ⟨he, rfl⟩)]
  exact symbol_of_match hw hw' rfl hs

theorem symbols_of_match (hw : st.WellFormed) (hw' : st'.WellFormed) {t : DeclaredType} (ht : t.isArray = false)
    {names : List Value} {ss : List Symbol} (hs : outcome (names.mapM fun name => symbol name t) st = (.ok ss, st₁)) :
    ∃ ss' st₁', outcome (names.mapM fun name => symbol name t) st' = (.ok ss', st₁') ∧
      List.Forall₂ (NodesMatch st₁ st₁') (ss.map .symbol) (ss'.map .symbol) := by
  induction names generalizing st st' ss with
  | nil =>
    obtain ⟨rfl, rfl⟩ := outcome_mapM_nil_ok.1 hs
    exact ⟨[], st', rfl, .nil⟩
  | cons name names ih =>
    obtain ⟨s, st₂, ss, h₂, h₁, rfl⟩ := outcome_mapM_cons_ok.1 hs
    obtain ⟨s', st₂', h₂', hmatch⟩ := symbol_of_match hw hw' ht h₂
    have hg := (steady_symbol name t).grows.of_ok hw h₂
    have hg' := (steady_symbol name t).grows.of_ok hw' h₂'
    obtain ⟨ss', st₁', hs', hmatches⟩ := ih hg.wellFormed hg'.wellFormed h₁
    have hrest := (Grows.mapM (fun name => (steady_symbol name t).grows) names).of_ok hg.wellFormed h₁
    have hrest' := (Grows.mapM (fun name => (steady_symbol name t).grows) names).of_ok hg'.wellFormed hs'
    exact ⟨s' :: ss', st₁', outcome_mapM_cons_ok.2 ⟨s', st₂', ss', h₂', hs', rfl⟩,
      .cons (hmatch.grown hrest hrest') hmatches⟩

theorem indexSymbols_of_match (hw : st.WellFormed) (hw' : st'.WellFormed) {names : List Value} {ss : List Symbol}
    (hs : outcome (indexSymbols names) st = (.ok ss, st₁)) :
    ∃ ss' st₁', outcome (indexSymbols names) st' = (.ok ss', st₁') ∧
      List.Forall₂ (NodesMatch st₁ st₁') (ss.map .symbol) (ss'.map .symbol) := by
  unfold indexSymbols at hs ⊢
  obtain ⟨u, st₂, h₂, hs⟩ := outcome_bind_ok.1 hs
  obtain ⟨hu, rfl⟩ := outcome_lift_ok.1 h₂
  rw [outcome_bind_of_ok (outcome_lift_ok.2 ⟨hu, rfl⟩)]
  exact symbols_of_match hw hw' rfl hs

/-- **An array symbol declared of the same rank**, with a shape that is vaguer. -/
theorem arraySymbol_of_match (hw' : st'.WellFormed)
    {name shape shape' dtype rank rank' container : Value}
    (hd : ∀ info r, declaredShape name shape rank = .ok (info, r) →
      ∃ info', declaredShape name shape' rank' = .ok (info', r) ∧ Vaguer Shape.plain info info') {s : Symbol}
    (hs : outcome (arraySymbol name shape dtype rank container) st = (.ok s, st₁)) :
    ∃ s' st₁', outcome (arraySymbol name shape' dtype rank' container) st' = (.ok s', st₁') ∧
      NodesMatch st₁ st₁' (.symbol s) (.symbol s') := by
  obtain ⟨info, r, t, l, info₁, hdecl, ht, hl, hnew, hplain, hslots, hlt⟩ := arraySymbol_ok hs
  obtain ⟨info', hdecl', hv⟩ := hd info r hdecl
  obtain ⟨s', st₁', hs'⟩ := outcome_arraySymbol hw' hdecl' ht hl
  obtain ⟨info'', r', t', l', info₁', hd', ht', hl', hnew', hplain', hslots', hlt'⟩ := arraySymbol_ok hs'
  rw [hdecl'] at hd'
  cases hd'
  rw [ht] at ht'
  cases ht'
  rw [hl] at hl'
  cases hl'
  refine ⟨s', st₁', hs', nodesMatch_of_symbols hnew hnew' (shapesMatch_of_attached ?_ ?_ ?_ ?_ hplain hplain' hv)⟩
  · exact Nat.lt_of_le_of_lt (Nat.le_of_eq hnew.id_eq) hlt
  · exact Nat.lt_of_le_of_lt (Nat.le_of_eq hnew'.id_eq) hlt'
  · rw [hslots]
    exact Slots.get?_insert_self _ _ _
  · rw [hslots']
    exact Slots.get?_insert_self _ _ _

theorem shapeOf_toValue (d : Datum) (slots slots' : Slots) : slots'.shapeOf d.toValue = slots.shapeOf d.toValue := by
  cases d <;> rfl

theorem constant_of_match (hw' : st'.WellFormed) {v : Value} {n : Node} (hn : outcome (constant v) st = (.ok n, st₁)) :
    ∃ m st₁', outcome (constant v) st' = (.ok m, st₁') ∧ NodesMatch st₁ st₁' n m := by
  obtain ⟨d, info, info₁, rfl, rfl, hshape, hplain, hslots, hlt⟩ := constant_ok hn
  obtain ⟨m, st₁', hm⟩ := outcome_constant d hw' ((shapeOf_toValue d st.slots st'.slots).trans hshape)
  obtain ⟨d', info', info₁', hd, rfl, hshape', hplain', hslots', hlt'⟩ := constant_ok hm
  obtain rfl : d = d' := by
    cases d <;> cases d' <;> cases hd <;> rfl
  rw [shapeOf_toValue d st.slots st'.slots, hshape] at hshape'
  cases hshape'
  refine ⟨_, st₁', hm, rfl, ?_, .nil, ⟨trivial, trivial⟩, .none⟩
  refine shapesMatch_of_attached hlt hlt' ?_ ?_ hplain hplain' (Vaguer.refl info)
  · rw [hslots]
    exact Slots.get?_insert_self _ _ _
  · rw [hslots']
    exact Slots.get?_insert_self _ _ _

end Build

end ArrayTyping

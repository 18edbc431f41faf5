import ArrayTyping.Proofs.RuleHistory
/-!
# RulePairs — the two rules of an operator

Both rules of an operator can be registered by one request, which registers the rank rule and then the shape rule.
Everything that can be wrong with the operator and the arity is found before the first of them is put into its table.
What is wrong with the shape rule is found after that, and the rank rule stays.  So a request that fails leaves both
tables alone, except where the shape rule alone is at fault.
-/
namespace ArrayTyping

/-! ## One rule -/

/-- The rule can be registered: it can be called, the arity is one, and operator and arity make a key. -/
structure Registrable (op rule arity : Value) (f : Callable) : Prop where
  rule_eq : rule = .callable f
  arity_ok : Registry.checkArity arity = .ok ()
  key_ok : (⟨op, arity⟩ : RuleKey).isHashable = true

namespace Registry

variable {op rule arity : Value} {f : Callable}

theorem register_of_registrable (h : Registrable op rule arity f) (r : Registry) (kind : RuleKind) :
    r.register kind op rule arity = .ok (r.insert kind ⟨op, arity⟩ f) := by
  obtain ⟨rfl, harity, hkey⟩ := h
  unfold register
  simp only [Value.callable?, harity, hkey]
  rfl

theorem register_of_uncallable (h : rule.callable? = none) (r : Registry) (kind : RuleKind) (op arity : Value) :
    r.register kind op rule arity = .error (.refusal (.ruleNotCallable kind)) := by
  unfold register
  rw [h]

theorem exists_registrable_of_ok {r r' : Registry} {kind : RuleKind} (h : r.register kind op rule arity = .ok r') :
    ∃ f, Registrable op rule arity f := by
  cases rule with
  | callable f =>
    obtain ⟨_, harity, h⟩ := exceptBind_ok.1 h
    dsimp only at h
    split at h
    · rename_i hkey
      exact ⟨f, rfl, harity, hkey⟩
    · cases h
  | _ => cases h

theorem exists_error_of_not_registrable (h : ¬ ∃ f, Registrable op rule arity f) (r : Registry) (kind : RuleKind) :
    ∃ e, r.register kind op rule arity = .error e := by
  cases hr : r.register kind op rule arity with
  | ok r' => exact absurd (exists_registrable_of_ok hr) h
  | error e => exact ⟨e, rfl⟩

end Registry

namespace RuleTable

variable {k : RuleKey} {rule : Callable} {t : RuleTable}

/-- A table stays as it is only if the rule stood there before. -/
theorem insert_eq_self_iff : insert k rule t = t ↔ t.find? k = some rule := by
  induction t with
  | nil => exact iff_of_false (List.cons_ne_nil _ _) (by rintro ⟨⟩)
  | cons e t ih =>
    obtain ⟨l, r⟩ := e
    rw [insert, find?_cons]
    by_cases hl : l.same k = true
    · rw [if_pos hl, if_pos hl]
      simp [eq_comm]
    · rw [if_neg hl, if_neg hl, List.cons.injEq, ih]
      exact and_iff_right rfl

theorem find?_insert_self (hk : k.same k = true) : (insert k rule t).find? k = some rule := by
  induction t with
  | nil => rw [insert, find?_cons, if_pos hk]
  | cons e t ih =>
    obtain ⟨l, r⟩ := e
    rw [insert]
    by_cases hl : l.same k = true
    · rw [if_pos hl, find?_cons, if_pos hl]
    · rw [if_neg hl, find?_cons, if_neg hl, ih]

end RuleTable

/-- A rule that is put into a table is found under its own key first. -/
theorem Registry.lookup_insert_self {op arity : Value} (hkey : (⟨op, arity⟩ : RuleKey).isHashable = true)
    (hself : (⟨op, arity⟩ : RuleKey).same ⟨op, arity⟩ = true) (r : Registry) (kind : RuleKind) (f : Callable) :
    (r.insert kind ⟨op, arity⟩ f).lookup kind op arity = some f := by
  have hfind : ((r.insert kind ⟨op, arity⟩ f).table kind).find? ⟨op, arity⟩ = some f := by
    cases kind <;> exact RuleTable.find?_insert_self hself
  have hfirst : ∃ others, RuleKey.candidates op arity = ⟨op, arity⟩ :: others := by
    unfold RuleKey.candidates
    split <;> exact ⟨_, rfl⟩
  obtain ⟨others, hothers⟩ := hfirst
  rw [lookup, hothers, List.filter_cons_of_pos hkey, List.findSome?_cons, hfind]

namespace Registries

variable {rs : Registries} {id id' : Nat} {r registry : Registry}

theorem get_of_lookup (h : rs.lookup id = some registry) : rs.get id = registry := by
  rw [get, h, Option.getD_some]

theorem get_set_self (h : rs.lookup id = some registry) : (rs.set id r).get id = r :=
  get_of_lookup (lookup_set_self rs h)

theorem get_set_of_ne (h : id' ≠ id) : (rs.set id r).get id' = rs.get id' := by
  rw [get, lookup_set_of_ne rs r h, get]

end Registries

/-! ## Both rules -/

/-- The rank rule can be registered, and the shape rule cannot even be called. -/
structure Halfway (op ndims shape arity : Value) (f : Callable) : Prop where
  ndims : Registrable op ndims arity f
  shape : shape.callable? = none

namespace Build

variable {op rule ndims shape arity : Value} {f : Callable}

theorem outcome_register_of_registrable (h : Registrable op rule arity f) (id : Nat) (kind : RuleKind) (st : Store) :
    ∃ st', outcome (register id kind op rule arity) st = (.ok (), st') ∧
      st'.registries = Registries.set st.registries id
        ((Registries.get st.registries id).insert kind ⟨op, arity⟩ f) := by
  unfold register
  rw [outcome_bind_of_ok (show outcome (registry id) st = (.ok (Registries.get st.registries id), st) from rfl),
    Registry.register_of_registrable h]
  exact ⟨_, rfl, rfl⟩

theorem outcome_register_of_error {id : Nat} {kind : RuleKind} {st : Store} {e : Fault}
    (h : (Registries.get st.registries id).register kind op rule arity = .error e) :
    outcome (register id kind op rule arity) st = (.error e, st) := by
  unfold register
  rw [outcome_bind_of_ok (show outcome (registry id) st = (.ok (Registries.get st.registries id), st) from rfl), h]
  rfl

/-- **Both rules are registered, or none is, or the rank rule is and the shape rule is refused.** -/
theorem registerBoth_cases (id : Nat) (op ndims shape arity : Value) (st : Store) :
    (∃ st', outcome (registerBoth id op ndims shape arity) st = (.ok (), st')) ∨
    ((¬ ∃ f, Registrable op ndims arity f) ∧ ∃ e, outcome (registerBoth id op ndims shape arity) st = (.error e, st)) ∨
    ∃ f e st', Halfway op ndims shape arity f ∧
      outcome (registerBoth id op ndims shape arity) st = (.error e, st') ∧
      st'.registries = Registries.set st.registries id
        ((Registries.get st.registries id).insert .ndims ⟨op, arity⟩ f) := by
  unfold registerBoth
  by_cases hndims : ∃ f, Registrable op ndims arity f
  · obtain ⟨f, hf⟩ := hndims
    obtain ⟨st₁, h₁, hset⟩ := outcome_register_of_registrable hf id .ndims st
    rw [outcome_bind_of_ok h₁]
    -- Operator and arity have passed, so that only the shape rule itself is left to be refused.
    cases hshape : shape.callable? with
    | none =>
      have h₂ := outcome_register_of_error
        (Registry.register_of_uncallable hshape (Registries.get st₁.registries id) .shape op arity)
      exact .inr (.inr ⟨f, _, st₁, ⟨hf, hshape⟩, h₂, hset⟩)
    | some g =>
      have hg : Registrable op shape arity g := by
        refine ⟨?_, hf.arity_ok, hf.key_ok⟩
        cases shape with
        | callable g' =>
          cases hshape
          rfl
        | _ => cases hshape
      obtain ⟨st₂, h₂, -⟩ := outcome_register_of_registrable hg id .shape st₁
      exact .inl ⟨st₂, h₂⟩
  · obtain ⟨e, he⟩ := Registry.exists_error_of_not_registrable hndims (Registries.get st.registries id) .ndims
    exact .inr (.inl ⟨hndims, e, outcome_bind_of_error (outcome_register_of_error he)⟩)

end Build

namespace Script

open Script.Run (outcome)

/-- Both tables of a registry are after a turn what they were before. -/
def Turn.Undone (e : Turn) (id : Nat) : Prop :=
  ∀ kind, (e.after.registry id).table kind = (e.before.registry id).table kind

theorem Turn.Undone.registry_eq {e : Turn} {id : Nat} (h : e.Undone id) :
    e.after.registry id = e.before.registry id := by
  have hndims := h .ndims
  have hshape := h .shape
  cases hafter : e.after.registry id
  cases hbefore : e.before.registry id
  rw [hafter, hbefore] at hndims hshape
  exact congrArg₂ Registry.mk hndims hshape

namespace Request

variable {r : Request} {s : Session} {id : Nat} {op ndims shape arity : Value}

theorem perform_registerBoth (hname : r.procedure = "register")
    (hargs : r.Binds [.registry id, op, ndims, shape, arity]) :
    r.perform = Run.build (do
      Build.registerBoth id op ndims shape arity
      return .none) >>= Run.finish := by
  obtain ⟨p, rest, hp, hbind⟩ := hargs
  rw [perform_eq hp hbind]
  rw [hname] at hp
  cases hp
  rfl

theorem registerBoth_failed (hname : r.procedure = "register") (hargs : r.Binds [.registry id, op, ndims, shape, arity])
    {t : Trouble} (hfails : (r.turn s).answer = .error t) :
    ((¬ ∃ f, Halfway op ndims shape arity f) ∧ (r.turn s).after = s) ∨
    ∃ f, Halfway op ndims shape arity f ∧ (r.turn s).after.store.registries =
      Registries.set s.store.registries id ((s.registry id).insert .ndims ⟨op, arity⟩ f) := by
  have hturn : (r.turn s).answer = (outcome r.perform s).1 ∧ (r.turn s).after = (outcome r.perform s).2 := ⟨rfl, rfl⟩
  rw [hturn.2]
  rw [hturn.1] at hfails
  rw [perform_registerBoth hname hargs, Run.outcome_bind, Run.outcome_build] at hfails ⊢
  rcases Build.registerBoth_cases id op ndims shape arity s.store with
    ⟨st, hst⟩ | ⟨hnone, e, he⟩ | ⟨f, e, st, hf, he, hset⟩
  · rw [Build.outcome_bind_of_ok hst] at hfails
    obtain ⟨w, s', hw, -⟩ := Run.outcome_finish .none { s with store := st }
    cases hfails.symm.trans (congrArg Prod.fst hw)
  · rw [Build.outcome_bind_of_error he]
    refine .inl ⟨?_, rfl⟩
    rintro ⟨f, hf⟩
    exact hnone ⟨f, hf.ndims⟩
  · rw [Build.outcome_bind_of_error he]
    exact .inr ⟨f, hf, hset⟩

/-- **A failed request for both rules leaves both tables alone unless the shape rule alone is at fault**, and then too
if the rank rule stood there already.  Otherwise the new rank rule is in the registry, and a look-up for the operator
answers with it.  No other registry is concerned. -/
theorem registerBoth_undone_iff (hname : r.procedure = "register")
    (hargs : r.Binds [.registry id, op, ndims, shape, arity]) {registry : Registry}
    (hid : s.store.registries.lookup id = some registry) {t : Trouble} (hfails : (r.turn s).answer = .error t) :
    ((r.turn s).Undone id ↔
      ∀ f, Halfway op ndims shape arity f → (registry.table .ndims).find? ⟨op, arity⟩ = some f) ∧
    ((r.turn s).Undone id → ∀ kind op' arity',
      ((r.turn s).after.registry id).lookup kind op' arity' = registry.lookup kind op' arity') ∧
    (∀ f, Halfway op ndims shape arity f →
      (r.turn s).after.registry id = registry.insert .ndims ⟨op, arity⟩ f ∧
      ((⟨op, arity⟩ : RuleKey).same ⟨op, arity⟩ = true →
        ((r.turn s).after.registry id).lookup .ndims op arity = some f)) ∧
    ∀ id', id' ≠ id → (r.turn s).after.registry id' = s.registry id' := by
  have hbefore : s.registry id = registry := Registries.get_of_lookup hid
  have hlookup (h : (r.turn s).Undone id) (kind : RuleKind) (op' arity' : Value) :
      ((r.turn s).after.registry id).lookup kind op' arity' = registry.lookup kind op' arity' := by
    rw [h.registry_eq, ← hbefore]
    rfl
  rcases registerBoth_failed hname hargs hfails with ⟨hnone, hafter⟩ | ⟨f, hf, hset⟩
  · have hundone : (r.turn s).Undone id := fun kind => by rw [hafter]; rfl
    refine ⟨iff_of_true hundone fun f hf => absurd ⟨f, hf⟩ hnone, hlookup, fun f hf => absurd ⟨f, hf⟩ hnone, ?_⟩
    intro id' _
    rw [hafter]
  · have hunique (g : Callable) (hg : Halfway op ndims shape arity g) : g = f :=
      Value.callable.inj (hg.ndims.rule_eq.symm.trans hf.ndims.rule_eq)
    have hinserted : (r.turn s).after.registry id = registry.insert .ndims ⟨op, arity⟩ f := by
      rw [Session.registry, hset, Registries.get_set_self hid, hbefore]
    have hundone : (r.turn s).Undone id ↔ (registry.table .ndims).find? ⟨op, arity⟩ = some f := by
      rw [← RuleTable.insert_eq_self_iff]
      refine ⟨fun h => ?_, fun h kind => ?_⟩
      · have hndims : ((r.turn s).after.registry id).table .ndims = (s.registry id).table .ndims := h .ndims
        rwa [hinserted, hbefore] at hndims
      · show ((r.turn s).after.registry id).table kind = (s.registry id).table kind
        rw [hinserted, hbefore]
        cases kind with
        | ndims => exact h
        | shape => rfl
    refine ⟨hundone.trans ⟨fun h g hg => hunique g hg ▸ h, fun h => h f hf⟩, hlookup, fun g hg => ?_,
      fun id' hid' => ?_⟩
    · rw [hunique g hg, hinserted]
      exact ⟨rfl, fun hself => Registry.lookup_insert_self hf.ndims.key_ok hself _ _ _⟩
    · rw [Session.registry, hset, Registries.get_set_of_ne hid', Session.registry]

/-- With a text for the new shape rule, an operator is left with the new rank rule and the old shape rule. -/
theorem registerBoth_undone_iff_mixed :
    ∃ (r : Request) (s : Session) (t : Trouble), (r.turn s).answer = .error t ∧ ¬ (r.turn s).Undone 3 ∧
      ((r.turn s).after.registry 3).lookup .ndims (.callable (.primitive .kron)) .none = some (.rule .matmulNdims) ∧
      ((r.turn s).after.registry 3).lookup .shape (.callable (.primitive .kron)) .none =
        some (.rule .elementwiseShape) := by
  let request (name : String) (args : List Value) (keywords : List (String × Value)) : Request :=
    ⟨name, args, keywords, fun _ => .error .endless⟩
  let kron : Value := .callable (.primitive .kron)
  let s₁ : Session := ((request "Registry" [] []).turn .empty).after
  let s₂ : Session := ((request "register" [.registry 3, kron]
    [("ndims", .callable (.rule .elementwiseNdims)), ("shape", .callable (.rule .elementwiseShape))]).turn s₁).after
  let r : Request := request "register" [.registry 3, kron]
    [("ndims", .callable (.rule .matmulNdims)), ("shape", .ofString "matmul_shape")]
  have hhalf : Halfway kron (.callable (.rule .matmulNdims)) (.ofString "matmul_shape") .none (.rule .matmulNdims) :=
    ⟨⟨rfl, rfl, rfl⟩, rfl⟩
  obtain ⟨hundone, -, hhalfway, -⟩ := registerBoth_undone_iff (r := r) (s := s₂) rfl ⟨_, _, rfl, rfl⟩ rfl rfl
  obtain ⟨hafter, hlookup⟩ := hhalfway _ hhalf
  refine ⟨r, s₂, _, rfl, fun h => ?_, hlookup rfl, ?_⟩
  · cases hundone.1 h _ hhalf
  · rw [hafter]
    rfl

/-- **A failed request for both rules can leave one of them behind.** -/
theorem registerBoth_not_undone :
    ∃ (r : Request) (s : Session) (t : Trouble), r.procedure = "register" ∧ (r.turn s).answer = .error t ∧
      (s.registry 3).lookup .ndims (.callable (.primitive .kron)) (.ofInt 2) = none ∧
      ((r.turn s).after.registry 3).lookup .ndims (.callable (.primitive .kron)) (.ofInt 2) =
        some (.rule .elementwiseNdims) := by
  let s : Session := ((⟨"Registry", [], [], fun _ => .error .endless⟩ : Request).turn .empty).after
  let r : Request := ⟨"register", [.registry 3, .callable (.primitive .kron)],
    [("ndims", .callable (.rule .elementwiseNdims)), ("shape", .ofString "kron_shape")], fun _ => .error .endless⟩
  exact ⟨r, s, _, rfl, rfl, rfl, rfl⟩

end Request

end Script

end ArrayTyping

import ArrayTyping.Store
import Mathlib.Data.List.Forall2
/-!
# Outcome — what a request leads to

A request leads from a store to an answer or a fault, and to another store in both cases.  `outcome` reads that off,
and for each way of putting requests together there is an equation for it.  A request of several steps that succeeds
is taken apart by `outcome_bind_ok`; `outcome_mapM_cons_ok` and `exceptMapM_ok` do the same for one request per item
of a list.  Two readings are compared by `SameAnswer`, which looks at the class of a fault and no further.
-/
namespace ArrayTyping

/-- What can be told from outside about a fault: its kind, or the class of the report. -/
inductive FaultClass where
  | general (k : FaultKind)
  | reported (k : DiagnosticClass)
deriving DecidableEq

def Fault.faultClass : Fault → FaultClass
  | .slip k => .general k
  | .refusal r => .general r.kind
  | .conflict c => .reported c.diagnostic.kind

namespace Build

variable {α β : Type}

/-- The answer or fault of a request, and the store it leaves behind. -/
def outcome (x : Build α) (st : Store) : Except Fault α × Store := x.run.run st

@[simp] theorem outcome_pure (a : α) (st : Store) : outcome (pure a) st = (.ok a, st) := rfl

@[simp] theorem outcome_lift (e : Except Fault α) (st : Store) : outcome (liftM e : Build α) st = (e, st) := rfl

@[simp] theorem outcome_slots (st : Store) : outcome slots st = (.ok st.slots, st) := rfl

@[simp] theorem outcome_fresh (st : Store) : outcome fresh st = (.ok st.next, { st with next := st.next + 1 }) := rfl

@[simp] theorem outcome_record (e : Event) (st : Store) :
    outcome (record e) st = (.ok (), { st with events := st.events ++ [e] }) := rfl

theorem outcome_bind (x : Build α) (f : α → Build β) (st : Store) :
    outcome (x >>= f) st = match outcome x st with
      | (.ok a, st') => outcome (f a) st'
      | (.error e, st') => (.error e, st') := by
  simp only [outcome, ExceptT.run_bind, StateT.run_bind]
  rcases x.run.run st with ⟨_ | a, st'⟩ <;> rfl

theorem outcome_bind_of_ok {x : Build α} {f : α → Build β} {st st' : Store} {a : α}
    (h : outcome x st = (.ok a, st')) : outcome (x >>= f) st = outcome (f a) st' := by
  rw [outcome_bind, h]

theorem outcome_bind_of_error {x : Build α} {f : α → Build β} {st st' : Store} {e : Fault}
    (h : outcome x st = (.error e, st')) : outcome (x >>= f) st = (.error e, st') := by
  rw [outcome_bind, h]

/-- **A sequence of requests succeeds exactly if every one of them does**, each from the store the one before left. -/
theorem outcome_bind_ok {x : Build α} {f : α → Build β} {st st'' : Store} {b : β} :
    outcome (x >>= f) st = (.ok b, st'') ↔
      ∃ a st', outcome x st = (.ok a, st') ∧ outcome (f a) st' = (.ok b, st'') := by
  rw [outcome_bind]
  constructor
  · intro h
    rcases hx : outcome x st with ⟨e | a, st'⟩
    · rw [hx] at h
      cases h
    · rw [hx] at h
      exact ⟨a, st', rfl, h⟩
  · rintro ⟨a, st', hx, hf⟩
    rw [hx]
    exact hf

theorem outcome_pure_ok {a b : α} {st st' : Store} :
    outcome (pure a) st = (.ok b, st') ↔ a = b ∧ st = st' := by
  rw [outcome_pure, Prod.mk.injEq, Except.ok.injEq]

theorem outcome_lift_ok {e : Except Fault α} {a : α} {st st' : Store} :
    outcome (liftM e : Build α) st = (.ok a, st') ↔ e = .ok a ∧ st = st' := by
  rw [outcome_lift, Prod.mk.injEq]

theorem outcome_mapM_cons_ok {f : α → Build β} {a : α} {as : List α} {bs : List β} {st st'' : Store} :
    outcome ((a :: as).mapM f) st = (.ok bs, st'') ↔
      ∃ b st' bs', outcome (f a) st = (.ok b, st') ∧ outcome (as.mapM f) st' = (.ok bs', st'') ∧ bs = b :: bs' := by
  rw [List.mapM_cons]
  constructor
  · intro h
    obtain ⟨b, st', hb, h⟩ := outcome_bind_ok.1 h
    obtain ⟨bs', st''', hbs, h⟩ := outcome_bind_ok.1 h
    obtain ⟨rfl, rfl⟩ := outcome_pure_ok.1 h
    exact ⟨b, st', bs', hb, hbs, rfl⟩
  · rintro ⟨b, st', bs', hb, hbs, rfl⟩
    rw [outcome_bind_of_ok hb, outcome_bind_of_ok hbs]
    rfl

theorem outcome_mapM_nil_ok {f : α → Build β} {bs : List β} {st st' : Store} :
    outcome (([] : List α).mapM f) st = (.ok bs, st') ↔ [] = bs ∧ st = st' := by
  rw [List.mapM_nil]
  exact outcome_pure_ok

/-- Requests that only look: where none of them touches the store, all of them together do not either. -/
theorem outcome_mapM_lift (f : α → Except Fault β) (as : List α) (st : Store) :
    outcome (as.mapM fun a => (liftM (f a) : Build β)) st = (as.mapM f, st) := by
  induction as with
  | nil => rfl
  | cons a as ih =>
    rw [List.mapM_cons, List.mapM_cons, outcome_bind, outcome_lift]
    cases f a with
    | error e => rfl
    | ok b =>
      dsimp only
      rw [outcome_bind, ih]
      cases as.mapM f <;> rfl

end Build

/-! ## Readings that may be refused -/

variable {ε α β : Type}

theorem exceptBind_ok {x : Except ε α} {f : α → Except ε β} {b : β} :
    x >>= f = .ok b ↔ ∃ a, x = .ok a ∧ f a = .ok b := by
  cases x with
  | error e => simp [bind, Except.bind]
  | ok a => simp [bind, Except.bind]

theorem exceptBind_error {x : Except ε α} {f : α → Except ε β} {e : ε} :
    x >>= f = .error e ↔ x = .error e ∨ ∃ a, x = .ok a ∧ f a = .error e := by
  cases x with
  | error e => simp [bind, Except.bind]
  | ok a => simp [bind, Except.bind]

theorem exceptPure_ok {a b : α} : (pure a : Except ε α) = .ok b ↔ a = b := by
  rw [show (pure a : Except ε α) = .ok a from rfl, Except.ok.injEq]

theorem exceptMapM_cons_ok {f : α → Except ε β} {a : α} {as : List α} {bs : List β} :
    (a :: as).mapM f = .ok bs ↔ ∃ b bs', f a = .ok b ∧ as.mapM f = .ok bs' ∧ bs = b :: bs' := by
  rw [List.mapM_cons]
  constructor
  · intro h
    obtain ⟨b, hb, h⟩ := exceptBind_ok.1 h
    obtain ⟨bs', hbs, h⟩ := exceptBind_ok.1 h
    exact ⟨b, bs', hb, hbs, (exceptPure_ok.1 h).symm⟩
  · rintro ⟨b, bs', hb, hbs, rfl⟩
    rw [hb, hbs]
    rfl

/-- **A reading of every item succeeds exactly if it does for each**, the answers standing in the items' order. -/
theorem exceptMapM_ok {f : α → Except ε β} {as : List α} {bs : List β} :
    as.mapM f = .ok bs ↔ List.Forall₂ (fun a b => f a = .ok b) as bs := by
  induction as generalizing bs with
  | nil =>
    rw [List.mapM_nil, exceptPure_ok]
    constructor
    · rintro rfl
      exact .nil
    · intro h
      cases h
      rfl
  | cons a as ih =>
    rw [exceptMapM_cons_ok]
    constructor
    · rintro ⟨b, bs', hb, hbs, rfl⟩
      exact .cons hb (ih.1 hbs)
    · intro h
      cases h with
      | cons hb hbs => exact ⟨_, _, hb, ih.2 hbs, rfl⟩

theorem exceptMapM_exists {f : α → Except ε β} {as : List α} (h : ∀ a ∈ as, ∃ b, f a = .ok b) :
    ∃ bs, as.mapM f = .ok bs := by
  induction as with
  | nil => exact ⟨[], rfl⟩
  | cons a as ih =>
    obtain ⟨b, hb⟩ := h a List.mem_cons_self
    obtain ⟨bs, hbs⟩ := ih fun a' ha' => h a' (List.mem_cons_of_mem _ ha')
    exact ⟨b :: bs, exceptMapM_cons_ok.2 ⟨b, bs, hb, hbs, rfl⟩⟩

theorem forall₂_exists_left {R : α → β → Prop} {as : List α} {bs : List β} (h : List.Forall₂ R as bs) :
    ∀ b ∈ bs, ∃ a ∈ as, R a b := by
  induction h with
  | nil =>
    intro b hb
    cases hb
  | cons hab _ ih =>
    intro b hb
    rcases List.mem_cons.1 hb with rfl | hb
    · exact ⟨_, List.mem_cons_self, hab⟩
    · obtain ⟨a, ha, hab⟩ := ih b hb
      exact ⟨a, List.mem_cons_of_mem _ ha, hab⟩

theorem forall₂_exists_right {R : α → β → Prop} {as : List α} {bs : List β} (h : List.Forall₂ R as bs) :
    ∀ a ∈ as, ∃ b ∈ bs, R a b :=
  forall₂_exists_left h.flip

theorem exceptMapM_related {γ δ : Type} {f : α → Except ε γ} {g : β → Except ε δ} {R : α → β → Prop} {S : γ → δ → Prop}
    (hfg : ∀ a b c, R a b → f a = .ok c → ∃ d, g b = .ok d ∧ S c d) {as : List α} {bs : List β} {cs : List γ}
    (h : List.Forall₂ R as bs) (hf : as.mapM f = .ok cs) : ∃ ds, bs.mapM g = .ok ds ∧ List.Forall₂ S cs ds := by
  induction h generalizing cs with
  | nil =>
    rw [List.mapM_nil, exceptPure_ok] at hf
    subst hf
    exact ⟨[], rfl, .nil⟩
  | cons hab _ ih =>
    obtain ⟨c, cs', hc, hcs, rfl⟩ := exceptMapM_cons_ok.1 hf
    obtain ⟨d, hd, hcd⟩ := hfg _ _ c hab hc
    obtain ⟨ds, hds, hrel⟩ := ih hcs
    exact ⟨d :: ds, exceptMapM_cons_ok.2 ⟨d, ds, hd, hds, rfl⟩, .cons hcd hrel⟩

theorem exceptMapM_error {f : α → Except ε β} {as : List α} {e : ε} (h : as.mapM f = .error e) :
    ∃ a ∈ as, f a = .error e := by
  induction as with
  | nil => cases h
  | cons a as ih =>
    rw [List.mapM_cons] at h
    cases ha : f a with
    | error e' =>
      rw [ha] at h
      cases h
      exact ⟨a, List.mem_cons_self, ha⟩
    | ok b =>
      rw [ha] at h
      cases has : as.mapM f with
      | error e' =>
        rw [has] at h
        cases h
        obtain ⟨a', ha', he⟩ := ih has
        exact ⟨a', List.mem_cons_of_mem _ ha', he⟩
      | ok bs =>
        rw [has] at h
        cases h

theorem optionMapM_id_some {as : List (Option α)} {bs : List α} : as.mapM id = some bs ↔ as = bs.map some := by
  induction as generalizing bs with
  | nil =>
    rw [List.mapM_nil]
    constructor
    · intro h
      cases h
      rfl
    · intro h
      rw [List.map_eq_nil_iff.1 h.symm]
      rfl
  | cons a as ih =>
    rw [List.mapM_cons]
    constructor
    · intro h
      obtain ⟨b, ha, h⟩ := Option.bind_eq_some_iff.1 h
      obtain ⟨bs', hbs, h⟩ := Option.bind_eq_some_iff.1 h
      cases h
      rw [ih.1 hbs, List.map_cons, ← ha]
      rfl
    · intro h
      obtain ⟨b, bs', rfl, rfl, has⟩ := List.map_eq_cons_iff.1 h.symm
      rw [ih.2 has.symm]
      rfl

theorem optionMapM_id_none {as : List (Option α)} : as.mapM id = none ↔ none ∈ as := by
  induction as with
  | nil => simp
  | cons a as ih =>
    rw [List.mapM_cons, List.mem_cons, ← ih]
    cases a with
    | none => exact ⟨fun _ => .inl rfl, fun _ => rfl⟩
    | some a => cases as.mapM id <;> simp

theorem optionMapM_id_map (f : α → β) (as : List (Option α)) :
    (as.map (Option.map f)).mapM id = (as.mapM id).map (List.map f) := by
  cases h : as.mapM id with
  | none =>
    rw [optionMapM_id_none] at h
    exact optionMapM_id_none.2 (List.mem_map.2 ⟨none, h, rfl⟩)
  | some bs =>
    rw [optionMapM_id_some] at h
    rw [h, List.map_map]
    refine optionMapM_id_some.2 ?_
    rw [List.map_map]
    rfl

theorem exceptMapM_mem {f : α → Except ε β} {as : List α} {bs : List β} (h : as.mapM f = .ok bs) :
    ∀ b ∈ bs, ∃ a ∈ as, f a = .ok b :=
  forall₂_exists_left (exceptMapM_ok.1 h)

theorem exceptMapM_range_ok {f : Nat → Except ε α} {n : Nat} {as : List α} :
    (List.range n).mapM f = .ok as ↔ as.length = n ∧ ∀ (p : Nat) (a : α), as[p]? = some a → f p = .ok a := by
  rw [exceptMapM_ok, List.forall₂_iff_get]
  constructor
  · rintro ⟨hlen, h⟩
    refine ⟨by simpa using hlen.symm, fun p a ha => ?_⟩
    obtain ⟨hp, rfl⟩ := List.getElem?_eq_some_iff.1 ha
    simpa using h p (hlen ▸ hp) hp
  · rintro ⟨rfl, h⟩
    refine ⟨List.length_range, fun p hp hp' => ?_⟩
    simpa using h p _ (List.getElem?_eq_getElem hp')

/-- Where a reading of items is refused, it is for the first item that is. -/
theorem exceptMapM_first_error {f : α → Except ε β} {as : List α} {e : ε} (h : as.mapM f = .error e) :
    ∃ (p : Nat) (a : α), as[p]? = some a ∧ f a = .error e ∧ ∀ q < p, ∀ b, as[q]? = some b → ∃ c, f b = .ok c := by
  induction as with
  | nil => cases h
  | cons a as ih =>
    rw [List.mapM_cons] at h
    rcases exceptBind_error.1 h with ha | ⟨b, hb, h⟩
    · exact ⟨0, a, rfl, ha, fun q hq => absurd hq (Nat.not_lt_zero q)⟩
    · rcases exceptBind_error.1 h with h | ⟨_, -, h⟩
      · obtain ⟨p, a', ha', he, hbefore⟩ := ih h
        refine ⟨p + 1, a', ha', he, fun q hq b' hb' => ?_⟩
        cases q with
        | zero =>
          cases hb'
          exact ⟨b, hb⟩
        | succ q => exact hbefore q (Nat.lt_of_succ_lt_succ hq) b' hb'
      · cases h

theorem exceptMapM_range_error {f : Nat → Except ε α} {n : Nat} {e : ε} (h : (List.range n).mapM f = .error e) :
    ∃ p < n, f p = .error e ∧ ∀ q < p, ∃ a, f q = .ok a := by
  obtain ⟨p, a, ha, he, hbefore⟩ := exceptMapM_first_error h
  obtain ⟨hp, rfl⟩ := List.getElem?_eq_some_iff.1 ha
  rw [List.length_range] at hp
  rw [List.getElem_range] at he
  exact ⟨p, hp, he, fun q hq => hbefore q hq q (List.getElem?_range (by omega))⟩

/-! ## Renamed faults -/

section MapError

variable {ε' : Type} (φ : ε → ε')

theorem mapError_ok {x : Except ε α} {a : α} : x.mapError φ = .ok a ↔ x = .ok a := by
  cases x with
  | ok b => exact ⟨fun h => congrArg Except.ok (Except.ok.inj h), fun h => congrArg Except.ok (Except.ok.inj h)⟩
  | error e => exact ⟨fun h => (nomatch h), fun h => (nomatch h)⟩

theorem mapError_bind (x : Except ε α) (f : α → Except ε β) :
    (x >>= f).mapError φ = x.mapError φ >>= fun a => (f a).mapError φ := by
  cases x <;> rfl

theorem mapError_mapM (f : α → Except ε β) (as : List α) :
    (as.mapM f).mapError φ = as.mapM fun a => (f a).mapError φ := by
  induction as with
  | nil => rfl
  | cons a as ih =>
    rw [List.mapM_cons, List.mapM_cons, mapError_bind, ← ih]
    refine bind_congr fun b => ?_
    rw [mapError_bind]
    rfl

theorem mapError_foldlM (f : β → α → Except ε β) (as : List α) (b : β) :
    (as.foldlM f b).mapError φ = as.foldlM (fun b a => (f b a).mapError φ) b := by
  induction as generalizing b with
  | nil => rfl
  | cons a as ih =>
    rw [List.foldlM_cons, List.foldlM_cons, mapError_bind]
    exact bind_congr fun b => ih b

end MapError

/-! ## Answers of one kind -/

/-- Two answers that are related, or refusals of one class. -/
def SameAnswer {α β : Type} (R : α → β → Prop) : Except Fault α → Except Fault β → Prop
  | .ok a, .ok b => R a b
  | .error f, .error g => f.faultClass = g.faultClass
  | _, _ => False

namespace SameAnswer

variable {α β γ δ : Type} {R : α → β → Prop} {S : γ → δ → Prop}

theorem refl {R : α → α → Prop} (hR : ∀ a, R a a) (x : Except Fault α) : SameAnswer R x x := by
  cases x with
  | ok a => exact hR a
  | error f => exact rfl

theorem cases {x : Except Fault α} {y : Except Fault β} (h : SameAnswer R x y) :
    (∃ a b, x = .ok a ∧ y = .ok b ∧ R a b) ∨ ∃ f g, x = .error f ∧ y = .error g ∧ f.faultClass = g.faultClass := by
  cases x with
  | ok a =>
    cases y with
    | ok b => exact .inl ⟨a, b, rfl, rfl, h⟩
    | error g => exact h.elim
  | error f =>
    cases y with
    | ok b => exact h.elim
    | error g => exact .inr ⟨f, g, rfl, rfl, h⟩

theorem ok {x : Except Fault α} {y : Except Fault β} (h : SameAnswer R x y) {a : α} (hx : x = .ok a) :
    ∃ b, y = .ok b ∧ R a b := by
  subst hx
  cases y with
  | ok b => exact ⟨b, rfl, h⟩
  | error g => exact h.elim

theorem bind {x : Except Fault α} {y : Except Fault β} {f : α → Except Fault γ} {g : β → Except Fault δ}
    (h : SameAnswer R x y) (hfg : ∀ a b, R a b → SameAnswer S (f a) (g b)) : SameAnswer S (x >>= f) (y >>= g) := by
  rcases h.cases with ⟨a, b, rfl, rfl, hab⟩ | ⟨e, e', rfl, rfl, he⟩
  · exact hfg a b hab
  · exact he

theorem mapM {f : α → Except Fault γ} {g : β → Except Fault δ} (hfg : ∀ a b, R a b → SameAnswer S (f a) (g b))
    {as : List α} {bs : List β} (h : List.Forall₂ R as bs) : SameAnswer (List.Forall₂ S) (as.mapM f) (bs.mapM g) := by
  induction h with
  | nil => exact .nil
  | cons hab _ ih =>
    rw [List.mapM_cons, List.mapM_cons]
    exact (hfg _ _ hab).bind fun c d hcd => ih.bind fun cs ds hcds => .cons hcd hcds

theorem foldlM {σ τ : Type} {Q : σ → τ → Prop} {f : σ → α → Except Fault σ} {g : τ → β → Except Fault τ}
    (hfg : ∀ a b s t, R a b → Q s t → SameAnswer Q (f s a) (g t b)) {as : List α} {bs : List β}
    (h : List.Forall₂ R as bs) {s : σ} {t : τ} (hst : Q s t) : SameAnswer Q (as.foldlM f s) (bs.foldlM g t) := by
  induction h generalizing s t with
  | nil => exact hst
  | cons hab _ ih =>
    rw [List.foldlM_cons, List.foldlM_cons]
    exact (hfg _ _ s t hab hst).bind fun s' t' => ih

end SameAnswer

end ArrayTyping

import ArrayTyping.Proofs.KeyEquality
import ArrayTyping.Proofs.WriteOnce
/-!
# RuleHistory — look-ups and what was registered

A registry answers from the history of what was registered on it: with the rule that was registered last under the most
specific key under which any was.  `history` reads that off a run over any number of registries, in which a copy starts
with the history of its source and both go on for themselves.
-/
namespace ArrayTyping

variable {d : Directory}

/-! ## One table -/

namespace RuleTable

variable {t : RuleTable} {k l : RuleKey} {rule : Callable}

theorem find?_cons (e : RuleKey × Callable) (t : RuleTable) (k : RuleKey) :
    find? (e :: t) k = if e.1.same k = true then some e.2 else find? t k := by
  unfold find?
  rw [List.find?_cons]
  by_cases h : e.1.same k = true
  · simp [h]
  · simp [h]

theorem usable_insert (ht : ∀ e ∈ t, e.1.Usable d) (hk : k.Usable d) : ∀ e ∈ insert k rule t, e.1.Usable d := by
  induction t with
  | nil => simpa [insert] using hk
  | cons e t ih =>
    rw [List.forall_mem_cons] at ht
    unfold insert
    split
    · exact List.forall_mem_cons.2 ht
    · exact List.forall_mem_cons.2 ⟨ht.1, ih ht.2⟩

/-- **What a table holds after an insertion.** -/
theorem find?_insert (ht : ∀ e ∈ t, e.1.Usable d) (hk : k.Usable d) (hl : l.Usable d) :
    (insert k rule t).find? l = if k.same l = true then some rule else t.find? l := by
  induction t with
  | nil => exact find?_cons _ _ _
  | cons e t ih =>
    rw [List.forall_mem_cons] at ht
    obtain ⟨he, ht⟩ := ht
    have hsymm : e.1.same k = true → k.same e.1 = true := he.same_symm hk
    unfold insert
    by_cases hek : e.1.same k = true
    -- The first key that is the same is replaced, and a look-up for it stops there as well.
    · have hel : e.1.same l = true ↔ k.same l = true :=
        ⟨hk.same_trans he hl (hsymm hek), he.same_trans hk hl hek⟩
      rw [if_pos hek, find?_cons, find?_cons]
      by_cases hkl : k.same l = true
      · rw [if_pos hkl, if_pos (hel.2 hkl)]
      · rw [if_neg hkl, if_neg (mt hel.1 hkl), if_neg (mt hel.1 hkl)]
    · rw [if_neg hek, find?_cons, find?_cons, ih ht]
      by_cases hel : e.1.same l = true
      · have hkl : ¬k.same l = true := fun hkl => hek (he.same_trans hl hk hel (hk.same_symm hl hkl))
        rw [if_pos hel, if_neg hkl, if_pos hel]
      · rw [if_neg hel, if_neg hel]

end RuleTable

/-! ## One registry -/

structure Registration where
  kind : RuleKind
  key : RuleKey
  rule : Callable

/-- The rule registered last for a kind under a key, in a history with the latest registration first. -/
def mostRecent? (log : List Registration) (kind : RuleKind) (k : RuleKey) : Option Callable :=
  (log.find? fun e => e.kind == kind && e.key.same k).map (·.rule)

theorem mostRecent?_cons (e : Registration) (log : List Registration) (kind : RuleKind) (k : RuleKey) :
    mostRecent? (e :: log) kind k =
      if e.kind = kind ∧ e.key.same k = true then some e.rule else mostRecent? log kind k := by
  unfold mostRecent?
  rw [List.find?_cons]
  by_cases h : e.kind = kind ∧ e.key.same k = true
  · simp [h]
  · have hfalse : (e.kind == kind && e.key.same k) = false := by simpa using h
    rw [hfalse, if_neg h]

/-- What a history says about one key that is tried; what cannot be a key is passed over. -/
def tried? (log : List Registration) (kind : RuleKind) (op arity : Value) : Option Callable :=
  if (⟨op, arity⟩ : RuleKey).isHashable then mostRecent? log kind ⟨op, arity⟩ else none

/-- The answer that a history gives: the rule registered last under the first key that was ever used, of those for the
operator at the arity, for the operator at any, and for its family at the arity and at any.  A family belongs to none. -/
def recalled (log : List Registration) (kind : RuleKind) (op arity : Value) : Option Callable :=
  tried? log kind op arity <|> tried? log kind op .none <|>
    if op.isFamily then none
    else op.family?.bind fun f =>
      tried? log kind (.callable (.family f)) arity <|> tried? log kind (.callable (.family f)) .none

theorem findSome?_cons_or {α β : Type} (g : α → Option β) (a : α) (as : List α) :
    (a :: as).findSome? g = (g a <|> as.findSome? g) := by
  rw [List.findSome?_cons]
  cases g a <;> rfl

theorem recalled_eq_findSome? (log : List Registration) (kind : RuleKind) (op arity : Value) :
    recalled log kind op arity = (RuleKey.candidates op arity).findSome? fun k => tried? log kind k.op k.arity := by
  unfold recalled RuleKey.candidates
  cases op.isFamily with
  | true => simp [findSome?_cons_or]
  | false => cases op.family? <;> simp [findSome?_cons_or]

theorem recalled_append_of_kind {new : List Registration} {kind : RuleKind} (hnew : ∀ e ∈ new, e.kind ≠ kind)
    (log : List Registration) : recalled (new ++ log) kind = recalled log kind := by
  have hrecent : mostRecent? (new ++ log) kind = mostRecent? log kind := by
    funext k
    induction new with
    | nil => rfl
    | cons e new ih =>
      rw [List.forall_mem_cons] at hnew
      rw [List.cons_append, mostRecent?_cons, if_neg (fun h => hnew.1 h.1), ih hnew.2]
  funext op arity
  unfold recalled tried?
  rw [hrecent]

namespace Registry

variable {log : List Registration} {kind : RuleKind} {op arity : Value}

def add (r : Registry) (e : Registration) : Registry := r.insert e.kind e.key e.rule

/-- The registry on which exactly the given rules were registered. -/
def ofHistory (log : List Registration) : Registry := log.foldr (fun e r => r.add e) .empty

theorem ofHistory_cons (e : Registration) (log : List Registration) :
    ofHistory (e :: log) = (ofHistory log).add e := rfl

theorem table_add (r : Registry) (e : Registration) (kind : RuleKind) :
    (r.add e).table kind = if e.kind = kind then (r.table kind).insert e.key e.rule else r.table kind := by
  obtain ⟨kind', key, rule⟩ := e
  cases kind' <;> cases kind <;> rfl

theorem usable_table (hlog : ∀ e ∈ log, e.key.Usable d) : ∀ e ∈ (ofHistory log).table kind, e.1.Usable d := by
  induction log with
  | nil => cases kind <;> exact fun e he => nomatch he
  | cons e log ih =>
    rw [List.forall_mem_cons] at hlog
    rw [ofHistory_cons, table_add]
    split
    · exact RuleTable.usable_insert (ih hlog.2) hlog.1
    · exact ih hlog.2

/-- **A table holds under every key what was registered there last.** -/
theorem find?_table (hlog : ∀ e ∈ log, e.key.Usable d) {k : RuleKey} (hk : k.Usable d) :
    ((ofHistory log).table kind).find? k = mostRecent? log kind k := by
  induction log with
  | nil => cases kind <;> rfl
  | cons e log ih =>
    rw [List.forall_mem_cons] at hlog
    rw [ofHistory_cons, table_add, mostRecent?_cons]
    by_cases hkind : e.kind = kind
    · rw [if_pos hkind, RuleTable.find?_insert (usable_table hlog.2) hlog.1 hk, ih hlog.2]
      simp [hkind]
    · rw [if_neg hkind, ih hlog.2]
      simp [hkind]

theorem find?_tried (hlog : ∀ e ∈ log, e.key.Usable d) {k : RuleKey} (hop : k.op.isHashable = true → k.op.Listed d)
    (harity : k.arity.isHashable = true → k.arity.Listed d) :
    (if k.isHashable = true then ((ofHistory log).table kind).find? k else none) = tried? log kind k.op k.arity := by
  unfold tried?
  by_cases hk : k.isHashable = true
  · obtain ⟨hop', harity'⟩ := Bool.and_eq_true_iff.1 hk
    rw [if_pos hk, find?_table hlog ⟨hk, hop hop', harity harity'⟩]
    exact (if_pos hk).symm
  · rw [if_neg hk]
    exact (if_neg hk).symm

theorem candidates_listed (hop : op.isHashable = true → op.Listed d) (harity : arity.isHashable = true → arity.Listed d) :
    ∀ k ∈ RuleKey.candidates op arity,
      (k.op.isHashable = true → k.op.Listed d) ∧ (k.arity.isHashable = true → k.arity.Listed d) := by
  have hnone : (Value.none).isHashable = true → (Value.none).Listed d := fun _ => .of_plain rfl rfl nofun
  have hfamily : ∀ f, (Value.callable (.family f)).isHashable = true → (Value.callable (.family f)).Listed d :=
    fun f _ => .of_plain rfl rfl nofun
  unfold RuleKey.candidates
  split
  · simp only [List.cons_append, List.nil_append, List.forall_mem_cons]
    exact ⟨⟨hop, harity⟩, ⟨hop, hnone⟩, ⟨hfamily _, harity⟩, ⟨hfamily _, hnone⟩, List.forall_mem_nil _⟩
  · simp only [List.forall_mem_cons]
    exact ⟨⟨hop, harity⟩, ⟨hop, hnone⟩, List.forall_mem_nil _⟩

/-- **A look-up is determined by the history.** -/
theorem lookup_ofHistory (hlog : ∀ e ∈ log, e.key.Usable d) (hop : op.isHashable = true → op.Listed d)
    (harity : arity.isHashable = true → arity.Listed d) :
    (ofHistory log).lookup kind op arity = recalled log kind op arity := by
  have hlisted := candidates_listed hop harity
  rw [recalled_eq_findSome?, lookup]
  generalize RuleKey.candidates op arity = ks at hlisted ⊢
  induction ks with
  | nil => rfl
  | cons k ks ih =>
    rw [List.forall_mem_cons] at hlisted
    rw [findSome?_cons_or, ← find?_tried hlog hlisted.1.1 hlisted.1.2, ← ih hlisted.2]
    by_cases hk : k.isHashable = true
    · rw [List.filter_cons_of_pos hk, findSome?_cons_or, if_pos hk]
    · rw [List.filter_cons_of_neg hk, if_neg hk]
      rfl

end Registry

def Value.ofRule (rule? : Option Callable) : Value := (rule?.map Value.callable).getD .none

/-! ## Registries by identity -/

inductive Change where
  /-- A registry is made, with rules registered on it in advance. -/
  | made (id : Nat) (log : List Registration)
  | registered (id : Nat) (e : Registration)
  | copied (source id : Nat)

namespace Change

def makes? : Change → Option Nat
  | .made id _ | .copied _ id => some id
  | .registered .. => none

def needs? : Change → Option Nat
  | .registered id _ | .copied id _ => some id
  | .made .. => none

end Change

/-- What was registered on a registry, the latest first: a copy has the history of its source up to then, and goes on
from there. -/
def history : List Change → Nat → List Registration
  | [], _ => []
  | .made id log :: cs, r => if r = id then log else history cs r
  | .registered id e :: cs, r => if r = id then e :: history cs r else history cs r
  | .copied source id :: cs, r => if r = id then history cs source else history cs r

def made (cs : List Change) : List Nat := cs.filterMap Change.makes?

abbrev Registries := List (Nat × Registry)

namespace Registries

def get (rs : Registries) (id : Nat) : Registry := (rs.lookup id).getD .empty

def set (rs : Registries) (id : Nat) (r : Registry) : Registries := rs.map fun e => if e.1 == id then (id, r) else e

theorem lookup_cons (i : Nat) (r : Registry) (rs : Registries) (id : Nat) :
    List.lookup id ((i, r) :: rs) = if id = i then some r else rs.lookup id := by
  rw [List.lookup_cons]
  by_cases h : id = i
  · simp [h]
  · have hne : (id == i) = false := by simpa using h
    rw [hne, if_neg h]

theorem set_cons (i : Nat) (r : Registry) (rs : Registries) (id : Nat) (r' : Registry) :
    set ((i, r) :: rs) id r' = (if i = id then (id, r') else (i, r)) :: set rs id r' := by
  simp [set]

theorem lookup_set_self (rs : Registries) {id : Nat} {r r' : Registry} (h : rs.lookup id = some r') :
    (rs.set id r).lookup id = some r := by
  induction rs with
  | nil => cases h
  | cons e rs ih =>
    obtain ⟨i, r₀⟩ := e
    rw [lookup_cons] at h
    rw [set_cons]
    by_cases hi : i = id
    · rw [if_pos hi, lookup_cons, if_pos rfl]
    · rw [if_neg (Ne.symm hi)] at h
      rw [if_neg hi, lookup_cons, if_neg (Ne.symm hi), ih h]

theorem lookup_set_of_ne (rs : Registries) {id id' : Nat} (r : Registry) (h : id' ≠ id) :
    (rs.set id r).lookup id' = rs.lookup id' := by
  induction rs with
  | nil => rfl
  | cons e rs ih =>
    obtain ⟨i, r₀⟩ := e
    rw [set_cons, lookup_cons]
    by_cases hi : i = id
    · rw [if_pos hi, lookup_cons, if_neg h, if_neg (hi ▸ h), ih]
    · rw [if_neg hi, lookup_cons, ih]

end Registries

/-- What happens later only adds to the history of a registry that there is. -/
theorem history_append {later : List Change} {id : Nat} (hid : id ∉ made later) (cs : List Change) :
    ∃ new, history (later ++ cs) id = new ++ history cs id ∧ ∀ e ∈ new, .registered id e ∈ later := by
  induction later with
  | nil => exact ⟨[], rfl, List.forall_mem_nil _⟩
  | cons c later ih =>
    cases c with
    | made | copied =>
      obtain ⟨hne, hid⟩ := not_or.1 (mt List.mem_cons.2 hid)
      obtain ⟨new, hnew, hmem⟩ := ih hid
      exact ⟨new, (if_neg hne).trans hnew, fun e he => .tail _ (hmem e he)⟩
    | registered id' e =>
      obtain ⟨new, hnew, hmem⟩ := ih hid
      by_cases hids : id = id'
      · subst hids
        refine ⟨e :: new, (if_pos rfl).trans (congrArg (e :: ·) hnew), List.forall_mem_cons.2 ⟨.head _, ?_⟩⟩
        exact fun e he => .tail _ (hmem e he)
      · exact ⟨new, (if_neg hids).trans hnew, fun e he => .tail _ (hmem e he)⟩

/-- Every registry holds what its history says; new ones get identities from `next` on. -/
structure Records (d : Directory) (cs : List Change) (rs : Registries) (next : Nat) : Prop where
  holds : ∀ id ∈ made cs, rs.lookup id = some (.ofHistory (history cs id))
  bound : ∀ id ∈ made cs, id < next
  nodup : (made cs).Nodup
  usable : ∀ id ∈ made cs, ∀ e ∈ history cs id, e.key.Usable d

namespace Records

variable {cs : List Change} {rs : Registries} {next next' id : Nat} {log : List Registration} {e : Registration}

theorem get (h : Records d cs rs next) (hid : id ∈ made cs) : rs.get id = .ofHistory (history cs id) := by
  rw [Registries.get, h.holds id hid]
  rfl

theorem mono (h : Records d cs rs next) (hnext : next ≤ next') : Records d cs rs next' :=
  { h with bound := fun id hid => Nat.lt_of_lt_of_le (h.bound id hid) hnext }

theorem grow (h : Records d cs rs next) {c : Change} (hmakes : c.makes? = some next)
    (hhistory : ∀ r, history (c :: cs) r = if r = next then log else history cs r)
    (hlog : ∀ e ∈ log, e.key.Usable d) :
    Records d (c :: cs) ((next, .ofHistory log) :: rs) (next + 1) := by
  have hmade : made (c :: cs) = next :: made cs := List.filterMap_cons_some hmakes
  have hne : ∀ id ∈ made cs, id ≠ next := fun id hid => Nat.ne_of_lt (h.bound id hid)
  refine ⟨?_, ?_, ?_, ?_⟩
  · rw [hmade, List.forall_mem_cons]
    refine ⟨by rw [hhistory, if_pos rfl, Registries.lookup_cons, if_pos rfl], fun id hid => ?_⟩
    rw [hhistory, if_neg (hne id hid), Registries.lookup_cons, if_neg (hne id hid), h.holds id hid]
  · rw [hmade, List.forall_mem_cons]
    exact ⟨Nat.lt_succ_self _, fun id hid => Nat.lt_succ_of_lt (h.bound id hid)⟩
  · rw [hmade, List.nodup_cons]
    exact ⟨fun hid => hne next hid rfl, h.nodup⟩
  · rw [hmade, List.forall_mem_cons]
    refine ⟨by rwa [hhistory, if_pos rfl], fun id hid => ?_⟩
    rw [hhistory, if_neg (hne id hid)]
    exact h.usable id hid

theorem register (h : Records d cs rs next) (hid : id ∈ made cs) (he : e.key.Usable d) :
    Records d (.registered id e :: cs) (rs.set id ((rs.get id).add e)) next := by
  have hmade : made (.registered id e :: cs) = made cs := rfl
  refine ⟨fun r hr => ?_, h.bound, h.nodup, fun r hr => ?_⟩
  · show _ = some (Registry.ofHistory (if r = id then e :: history cs r else history cs r))
    by_cases hrid : r = id
    · subst hrid
      rw [if_pos rfl, Registries.lookup_set_self rs (h.holds r hr), h.get hr]
      rfl
    · rw [if_neg hrid, Registries.lookup_set_of_ne rs _ hrid, h.holds r hr]
  · show ∀ x ∈ (if r = id then e :: history cs r else history cs r), x.key.Usable d
    by_cases hrid : r = id
    · rw [if_pos hrid]
      exact List.forall_mem_cons.2 ⟨he, h.usable r hr⟩
    · rw [if_neg hrid]
      exact h.usable r hr

end Records

/-! ## Requests to the store -/

def RuleEntry.registrations (e : RuleEntry) : List Registration :=
  [⟨.ndims, ⟨.callable e.op, e.arity⟩, .rule e.ndims⟩, ⟨.shape, ⟨.callable e.op, e.arity⟩, .rule e.shape⟩]

def builtinHistory : List Registration := (builtinEntries.flatMap RuleEntry.registrations).reverse

theorem Registry.builtin_eq_ofHistory : Registry.builtin = .ofHistory builtinHistory := by
  unfold Registry.builtin Registry.ofHistory builtinHistory
  rw [List.foldr_reverse, List.foldl_flatMap]
  rfl

theorem usable_of_unique {f : Callable} {arity : Value} (hf : f.isUnique = true)
    (harity : arity = .none ∨ ∃ n, arity = .ofInt n) : (⟨.callable f, arity⟩ : RuleKey).Usable d := by
  have hop : f.isHashable = true ∧ f.ownMark = Mark.unmarked ∧ f.parts = [] := by
    cases f <;> cases hf <;> exact ⟨rfl, rfl, rfl⟩
  have harity' : arity.isHashable = true ∧ arity.Listed d := by
    rcases harity with rfl | ⟨n, rfl⟩
    · exact ⟨rfl, .of_plain rfl rfl nofun⟩
    · exact ⟨rfl, .of_plain rfl rfl nofun⟩
  exact ⟨Bool.and_eq_true_iff.2 ⟨hop.1, harity'.1⟩, .of_plain hop.2.1 hop.2.2 nofun, harity'.2⟩

theorem usable_builtinHistory : ∀ e ∈ builtinHistory, e.key.Usable d := by
  have hentries : ∀ e ∈ builtinEntries, e.op.isUnique = true ∧ (e.arity = .none ∨ ∃ n, e.arity = .ofInt n) := by
    simp [builtinEntries, elementwisePrimitives, Callable.isUnique]
  intro e he
  obtain ⟨entry, hentry, he⟩ := List.mem_flatMap.1 (List.mem_reverse.1 he)
  have hkey : e.key = ⟨.callable entry.op, entry.arity⟩ := by
    simp only [RuleEntry.registrations, List.mem_cons, List.not_mem_nil, or_false] at he
    rcases he with rfl | rfl <;> rfl
  rw [hkey]
  exact usable_of_unique (hentries entry hentry).1 (hentries entry hentry).2

namespace Build

variable {id : Nat} {kind : RuleKind} {op rule ndims shape arity : Value} {st st' : Store} {a : Unit}

theorem outcome_newRegistry (r : Registry) (st : Store) :
    outcome (newRegistry r) st =
      (.ok st.next, { st with next := st.next + 1, registries := (st.next, r) :: st.registries }) := rfl

theorem register_ok (h : outcome (register id kind op rule arity) st = (.ok a, st')) :
    ∃ f, rule = .callable f ∧ (⟨op, arity⟩ : RuleKey).isHashable = true ∧ st'.next = st.next ∧
      st'.registries = Registries.set st.registries id
        ((Registries.get st.registries id).add ⟨kind, ⟨op, arity⟩, f⟩) := by
  obtain ⟨r, st₁, h₁, h⟩ := outcome_bind_ok.1 h
  cases h₁
  obtain ⟨r', st₂, h₂, h⟩ := outcome_bind_ok.1 h
  obtain ⟨hr', rfl⟩ := outcome_lift_ok.1 h₂
  cases h
  cases rule with
  | callable f =>
    obtain ⟨_, -, hr'⟩ := exceptBind_ok.1 hr'
    dsimp only at hr'
    split at hr'
    · rename_i hkey
      cases hr'
      exact ⟨f, rfl, hkey, rfl, rfl⟩
    · cases hr'
  | _ => cases hr'

end Build

def Registries.register (rs : Registries) (id : Nat) (log : List Registration) : Registries :=
  log.foldr (fun e rs => rs.set id ((rs.get id).add e)) rs

theorem Records.registerAll {cs : List Change} {rs : Registries} {next id : Nat} {log : List Registration}
    (h : Records d cs rs next) (hid : id ∈ made cs) (hlog : ∀ e ∈ log, e.key.Usable d) :
    Records d (log.map (.registered id) ++ cs) (rs.register id log) next := by
  induction log with
  | nil => exact h
  | cons e log ih =>
    rw [List.forall_mem_cons] at hlog
    have hmade : made (log.map (.registered id) ++ cs) = made cs := by
      simp [made, Change.makes?, Function.comp_def]
    exact (ih hlog.2).register (hmade ▸ hid) hlog.1

namespace Build

variable {id : Nat} {st st' : Store} {a : Unit}

theorem registerBoth_ok {op ndims shape arity : Value}
    (h : outcome (registerBoth id op ndims shape arity) st = (.ok a, st')) :
    ∃ f g, ndims = .callable f ∧ shape = .callable g ∧ (⟨op, arity⟩ : RuleKey).isHashable = true ∧
      st'.next = st.next ∧ st'.registries = Registries.register st.registries id
        [⟨.shape, ⟨op, arity⟩, g⟩, ⟨.ndims, ⟨op, arity⟩, f⟩] := by
  obtain ⟨_, st₁, h₁, h₂⟩ := outcome_bind_ok.1 h
  obtain ⟨f, rfl, -, hnext₁, hset₁⟩ := register_ok h₁
  obtain ⟨g, rfl, hkey, hnext₂, hset₂⟩ := register_ok h₂
  refine ⟨f, g, rfl, rfl, hkey, hnext₂.trans hnext₁, ?_⟩
  rw [hset₂, hset₁]
  rfl

theorem registerEntries_ok {entries : List RuleEntry}
    (h : outcome (entries.forM fun e => registerBoth id (.callable e.op) (.callable (.rule e.ndims))
      (.callable (.rule e.shape)) e.arity) st = (.ok a, st')) :
    st'.next = st.next ∧ st'.registries =
      Registries.register st.registries id (entries.flatMap RuleEntry.registrations).reverse := by
  induction entries generalizing st with
  | nil =>
    cases h
    exact ⟨rfl, rfl⟩
  | cons e entries ih =>
    unfold List.forM at h
    obtain ⟨_, st₁, h₁, h₂⟩ := outcome_bind_ok.1 h
    obtain ⟨f, g, hf, hg, -, hnext₁, hset₁⟩ := registerBoth_ok h₁
    obtain ⟨hnext₂, hset₂⟩ := ih h₂
    cases hf
    cases hg
    refine ⟨hnext₂.trans hnext₁, ?_⟩
    rw [hset₂, hset₁, Registries.register, Registries.register, Registries.register, List.flatMap_cons,
      List.reverse_append, List.foldr_append]
    rfl

end Build

namespace Script

open Script.Run (outcome)

/-! ## Requests of a script -/

variable {r : Request} {s s' : Session} {v w : Value}

def Session.registry (s : Session) (id : Nat) : Registry := Registries.get s.store.registries id

namespace Run

theorem finish_ok (h : outcome (finish v) s = (.ok w, s')) :
    s'.store.registries = s.store.registries ∧ s.store.next ≤ s'.store.next := by
  cases h
  exact ⟨rfl, (Value.kept_nodes _ s.store.next).1⟩

theorem outcome_finish_registry (id : Nat) (s : Session) : outcome (finish (.registry id)) s = (.ok (.registry id), s) := by
  have hrefresh : outcome (finish (.registry id)) s =
      outcome (keep (if s.cells.isEmpty then .registry id else (Value.registry id).refreshed s.cells)) s := rfl
  rw [hrefresh]
  split <;> rfl

theorem build_finish_ok {x : Build Value} (h : outcome (build x >>= finish) s = (.ok w, s')) :
    ∃ v st, Build.outcome x s.store = (.ok v, st) ∧ outcome (finish v) { s with store := st } = (.ok w, s') := by
  rw [outcome_bind, outcome_build] at h
  rcases hx : Build.outcome x s.store with ⟨f | v, st⟩
  · rw [hx] at h
    cases h
  · rw [hx] at h
    exact ⟨v, st, rfl, h⟩

end Run

/-- The values that a request gives to the parameters of its procedure. -/
def Request.Binds (r : Request) (values : List Value) : Prop :=
  ∃ p rest, findProcedure? r.procedure = some p ∧ p.signature.bind? r.args r.keywords = some (values, rest)

theorem Request.onRegistry_ok {name : String} {parameters : List String} {keywordOnly : List Parameter}
    {takesRest : Bool} {f : Nat → List Value → List Value → Build Value} {id : Nat} {args : List Value}
    (hp : findProcedure? r.procedure = some (Propagation.onRegistry name parameters keywordOnly takesRest f))
    (hargs : r.Binds (.registry id :: args)) (hok : outcome r.perform s = (.ok w, s')) :
    ∃ rest v st, Build.outcome (f id args rest) s.store = (.ok v, st) ∧
      outcome (Run.finish v) { s with store := st } = (.ok w, s') := by
  obtain ⟨q, rest, hq, hbind⟩ := hargs
  rw [hp] at hq
  cases hq
  have hbody : (Propagation.onRegistry name parameters keywordOnly takesRest f).body r.caller (.registry id :: args)
      rest = Run.build (f id args rest) := rfl
  rw [perform_eq hp hbind, hbody] at hok
  exact ⟨rest, Run.build_finish_ok hok⟩

theorem Request.registering_ok {name : String} {parameters : List String} {keywordOnly : List Parameter}
    {takesRest : Bool} {f : Nat → List Value → List Value → Build Value} {id : Nat} {args : List Value}
    {x : Build Unit} {answer : Value}
    (hp : findProcedure? r.procedure = some (Propagation.onRegistry name parameters keywordOnly takesRest f))
    (hf : ∀ rest, f id args rest = (do x; return answer)) (hargs : r.Binds (.registry id :: args))
    (hok : outcome r.perform s = (.ok w, s')) :
    ∃ a st, Build.outcome x s.store = (.ok a, st) ∧ s'.store.registries = st.registries ∧
      st.next ≤ s'.store.next := by
  obtain ⟨rest, v, st, hbuild, hfinish⟩ := onRegistry_ok hp hargs hok
  rw [hf] at hbuild
  obtain ⟨a, st', hx, hanswer⟩ := Build.outcome_bind_ok.1 hbuild
  cases hanswer
  exact ⟨a, st, hx, Run.finish_ok hfinish⟩

def Request.LooksUp (r : Request) (id : Nat) (kind : RuleKind) (op arity : Value) : Prop :=
  r.procedure = "lookup" ∧ ∃ label, Propagation.toKind label = .ok kind ∧ r.Binds [.registry id, label, op, arity]

/-- The procedures that register one rule, also those that answer with it, and the kind of rule. -/
def registrationKinds : List (String × RuleKind) :=
  [("register_ndims", .ndims), ("register_shape", .shape), ("ndims_rule", .ndims), ("shape_rule", .shape)]

theorem exists_registration {name : String} {kind : RuleKind} (h : (name, kind) ∈ registrationKinds) :
    ∃ answer, findProcedure? name = some (Propagation.registration name kind answer) := by
  simp only [registrationKinds, List.mem_cons, Prod.mk.injEq, List.not_mem_nil, or_false] at h
  rcases h with ⟨rfl, rfl⟩ | ⟨rfl, rfl⟩ | ⟨rfl, rfl⟩ | ⟨rfl, rfl⟩
  all_goals exact ⟨_, rfl⟩

/-- What a request that succeeds does to registries, the latest change first. -/
inductive Request.Effect (d : Directory) (r : Request) : Value → List Change → Prop where
  | create {id : Nat} (hname : r.procedure = "Registry") : r.Effect d (.registry id) [.made id []]
  | createBuiltin {id : Nat} (hname : r.procedure = "default_registry") :
      r.Effect d (.registry id) [.made id builtinHistory]
  | register {id : Nat} {kind : RuleKind} {op arity answer : Value} {f : Callable}
      (hname : (r.procedure, kind) ∈ registrationKinds) (hargs : r.Binds [.registry id, op, .callable f, arity])
      (hop : op.Listed d) (harity : arity.Listed d) : r.Effect d answer [.registered id ⟨kind, ⟨op, arity⟩, f⟩]
  | registerBoth {id : Nat} {op arity answer : Value} {f g : Callable} (hname : r.procedure = "register")
      (hargs : r.Binds [.registry id, op, .callable f, .callable g, arity]) (hop : op.Listed d)
      (harity : arity.Listed d) :
      r.Effect d answer [.registered id ⟨.shape, ⟨op, arity⟩, g⟩, .registered id ⟨.ndims, ⟨op, arity⟩, f⟩]
  | registerBuiltin {id : Nat} {answer : Value} (hname : r.procedure = "register_builtin_rules")
      (hargs : r.Binds [.registry id]) : r.Effect d answer (builtinHistory.map (.registered id))
  | copy {source id : Nat} (hname : r.procedure = "registry_copy") (hargs : r.Binds [.registry source]) :
      r.Effect d (.registry id) [.copied source id]

/-- The changes of a run, the latest first, and the session it has reached.  Each request that changes registries works
on one that there is by then; everything else leaves them alone. -/
inductive Chronicle (d : Directory) : List Change → Session → Prop where
  | start : Chronicle d [] .empty
  | request {cs changes : List Change} {s : Session} {answer : Value} (h : Chronicle d cs s) (r : Request)
      (hok : (r.turn s).answer = .ok answer) (heffect : r.Effect d answer changes)
      (hneeds : ∀ c ∈ changes, ∀ id, c.needs? = some id → id ∈ made cs) : Chronicle d (changes ++ cs) (r.turn s).after
  | aside {cs : List Change} {s s' : Session} (h : Chronicle d cs s)
      (hregistries : s'.store.registries = s.store.registries) (hnext : s.store.next ≤ s'.store.next) : Chronicle d cs s'

/-! ## Whole runs -/

namespace Request

variable {answer : Value} {changes cs : List Change}

theorem create_ok {name : String} {p : Procedure} {registry : Registry} (hp : findProcedure? name = some p)
    (hname : r.procedure = name)
    (hbody : ∀ caller fixed rest, p.body caller fixed rest =
      (do return .registry (← Run.build (Build.newRegistry registry))))
    (hok : outcome r.perform s = (.ok answer, s')) :
    answer = .registry s.store.next ∧ s'.store.registries = (s.store.next, registry) :: s.store.registries ∧
      s'.store.next = s.store.next + 1 := by
  cases hbind : p.signature.bind? r.args r.keywords with
  | none =>
    rw [perform_of_unbound (hname ▸ hp) hbind] at hok
    cases hok
  | some bound =>
    obtain ⟨fixed, rest⟩ := bound
    rw [perform_eq (hname ▸ hp) hbind, hbody, bind_assoc, Run.outcome_bind, Run.outcome_build] at hok
    simp only [Build.outcome_newRegistry, pure_bind, Run.outcome_finish_registry] at hok
    cases hok
    exact ⟨rfl, rfl, rfl⟩

theorem register_ok {id : Nat} {kind : RuleKind} {op arity : Value} {f : Callable}
    (hname : (r.procedure, kind) ∈ registrationKinds) (hargs : r.Binds [.registry id, op, .callable f, arity])
    (hok : outcome r.perform s = (.ok answer, s')) :
    (⟨op, arity⟩ : RuleKey).isHashable = true ∧ s.store.next ≤ s'.store.next ∧
      s'.store.registries = Registries.register s.store.registries id [⟨kind, ⟨op, arity⟩, f⟩] := by
  obtain ⟨answering, hp⟩ := exists_registration hname
  obtain ⟨_, st, hregister, hregistries, hle⟩ := registering_ok hp (fun _ => rfl) hargs hok
  obtain ⟨g, hg, hkey, hnext, hset⟩ := Build.register_ok hregister
  cases hg
  exact ⟨hkey, hnext ▸ hle, hregistries.trans hset⟩

theorem registerBoth_ok {id : Nat} {op arity : Value} {f g : Callable} (hname : r.procedure = "register")
    (hargs : r.Binds [.registry id, op, .callable f, .callable g, arity])
    (hok : outcome r.perform s = (.ok answer, s')) :
    (⟨op, arity⟩ : RuleKey).isHashable = true ∧ s.store.next ≤ s'.store.next ∧
      s'.store.registries = Registries.register s.store.registries id
        [⟨.shape, ⟨op, arity⟩, g⟩, ⟨.ndims, ⟨op, arity⟩, f⟩] := by
  obtain ⟨_, st, hregister, hregistries, hle⟩ := registering_ok (by rw [hname]; rfl) (fun _ => rfl) hargs hok
  obtain ⟨f', g', hf, hg, hkey, hnext, hset⟩ := Build.registerBoth_ok hregister
  cases hf
  cases hg
  exact ⟨hkey, hnext ▸ hle, hregistries.trans hset⟩

theorem registerBuiltin_ok {id : Nat} (hname : r.procedure = "register_builtin_rules") (hargs : r.Binds [.registry id])
    (hok : outcome r.perform s = (.ok answer, s')) :
    s.store.next ≤ s'.store.next ∧
      s'.store.registries = Registries.register s.store.registries id builtinHistory := by
  obtain ⟨_, st, hregister, hregistries, hle⟩ := registering_ok (by rw [hname]; rfl) (fun _ => rfl) hargs hok
  obtain ⟨hnext, hset⟩ := Build.registerEntries_ok hregister
  exact ⟨hnext ▸ hle, hregistries.trans hset⟩

theorem copy_ok {source : Nat} (hname : r.procedure = "registry_copy") (hargs : r.Binds [.registry source])
    (hok : outcome r.perform s = (.ok answer, s')) :
    answer = .registry s.store.next ∧
      s'.store.registries = (s.store.next, Registries.get s.store.registries source) :: s.store.registries ∧
      s'.store.next = s.store.next + 1 := by
  obtain ⟨rest, v, st, hbuild, hfinish⟩ := onRegistry_ok (by rw [hname]; rfl) hargs hok
  cases hbuild
  rw [Run.outcome_finish_registry] at hfinish
  cases hfinish
  exact ⟨rfl, rfl, rfl⟩

theorem perform_lookup {id : Nat} {kind : RuleKind} {op arity : Value} (h : r.LooksUp id kind op arity) (s : Session) :
    outcome r.perform s = outcome (Run.finish (.ofRule ((s.registry id).lookup kind op arity))) s := by
  obtain ⟨hname, label, hkind, p, rest, hp, hbind⟩ := h
  rw [perform_eq hp hbind]
  rw [hname] at hp
  cases hp
  show outcome (Run.build ((liftM (Propagation.toKind label) : Build RuleKind) >>= fun k => Build.registry id >>=
    fun registry => pure (.ofRule (registry.lookup k op arity))) >>= Run.finish) s = _
  rw [hkind, Run.outcome_bind, Run.outcome_build]
  rfl

/-- **One request**: registries hold afterwards what their histories say then. -/
theorem Effect.records (h : r.Effect d answer changes) (hok : outcome r.perform s = (.ok answer, s'))
    (hrecords : Records d cs s.store.registries s.store.next)
    (hneeds : ∀ c ∈ changes, ∀ id, c.needs? = some id → id ∈ made cs) :
    Records d (changes ++ cs) s'.store.registries s'.store.next := by
  cases h with
  | create hname =>
    obtain ⟨hid, hregistries, hnext⟩ := create_ok (by rfl) hname (fun _ _ _ => rfl) hok
    cases hid
    have hempty : Registry.empty = .ofHistory [] := rfl
    rw [hregistries, hnext, hempty]
    exact hrecords.grow rfl (fun _ => rfl) (List.forall_mem_nil _)
  | createBuiltin hname =>
    obtain ⟨hid, hregistries, hnext⟩ := create_ok (by rfl) hname (fun _ _ _ => rfl) hok
    cases hid
    rw [hregistries, hnext, Registry.builtin_eq_ofHistory]
    exact hrecords.grow rfl (fun _ => rfl) usable_builtinHistory
  | @register id kind op arity _ f hname hargs hop harity =>
    obtain ⟨hkey, hnext, hregistries⟩ := register_ok hname hargs hok
    have hid : id ∈ made cs := hneeds _ (.head _) id rfl
    rw [hregistries]
    exact (hrecords.registerAll hid (List.forall_mem_singleton.2 ⟨hkey, hop, harity⟩)).mono hnext
  | @registerBoth id op arity _ f g hname hargs hop harity =>
    obtain ⟨hkey, hnext, hregistries⟩ := registerBoth_ok hname hargs hok
    have hid : id ∈ made cs := hneeds _ (.head _) id rfl
    have hlog : ∀ e ∈ ([⟨.shape, ⟨op, arity⟩, g⟩, ⟨.ndims, ⟨op, arity⟩, f⟩] : List Registration), e.key.Usable d :=
      List.forall_mem_cons.2 ⟨⟨hkey, hop, harity⟩, List.forall_mem_singleton.2 ⟨hkey, hop, harity⟩⟩
    rw [hregistries]
    exact (hrecords.registerAll hid hlog).mono hnext
  | @registerBuiltin id _ hname hargs =>
    obtain ⟨hnext, hregistries⟩ := registerBuiltin_ok hname hargs hok
    obtain ⟨e, he⟩ := List.exists_mem_of_ne_nil builtinHistory (by simp [builtinHistory, builtinEntries, RuleEntry.registrations])
    have hid : id ∈ made cs := hneeds (.registered id e) (List.mem_map_of_mem he) id rfl
    rw [hregistries]
    exact (hrecords.registerAll hid usable_builtinHistory).mono hnext
  | @copy source id hname hargs =>
    obtain ⟨hid, hregistries, hnext⟩ := copy_ok hname hargs hok
    cases hid
    have hsource : source ∈ made cs := hneeds _ (.head _) source rfl
    rw [hregistries, hnext, hrecords.get hsource]
    exact hrecords.grow rfl (fun _ => rfl) (hrecords.usable source hsource)

end Request

namespace Chronicle

variable {cs : List Change}

/-- **Whole runs**: at any time, registries hold what their histories say. -/
theorem records (h : Chronicle d cs s) : Records d cs s.store.registries s.store.next := by
  induction h with
  | start => exact ⟨fun _ hid => (nomatch hid), fun _ hid => (nomatch hid), .nil, fun _ hid => (nomatch hid)⟩
  | request _ r hok heffect hneeds ih => exact heffect.records (Prod.ext hok rfl) ih hneeds
  | aside _ hregistries hnext ih =>
    rw [hregistries]
    exact ih.mono hnext

variable {id : Nat} {kind : RuleKind} {op arity : Value}

theorem lookup_eq_recalled (h : Chronicle d cs s) (hid : id ∈ made cs) (hop : op.isHashable = true → op.Listed d)
    (harity : arity.isHashable = true → arity.Listed d) :
    (s.registry id).lookup kind op arity = recalled (history cs id) kind op arity := by
  have hrecords := h.records
  rw [Session.registry, hrecords.get hid, Registry.lookup_ofHistory (hrecords.usable id hid) hop harity]

/-- A registry that there is stays one, and the changes that follow make others. -/
theorem not_mem_made_later {later : List Change} (h : Chronicle d (later ++ cs) s) (hid : id ∈ made cs) :
    id ∉ made later := by
  have hnodup : (made later ++ made cs).Nodup := by
    rw [made, made, ← List.filterMap_append]
    exact h.records.nodup
  exact fun hid' => (List.nodup_append.1 hnodup).2.2 id hid' id hid rfl

/-- **Look-ups are determined by the history of registrations.**  A request to look up a rule answers what the history of
the registry says, and the run goes on unchanged.  Whatever happens later, be it on other registries, its source and its
copies among them, or registrations of the other kind, does not change that.  And where a rule was ever registered under
one of the keys that are tried, nothing registered under a later one matters. -/
theorem lookup_recalls (h : Chronicle d cs s) (hid : id ∈ made cs) (hop : op.isHashable = true → op.Listed d)
    (harity : arity.isHashable = true → arity.Listed d) :
    (s.registry id).lookup kind op arity = recalled (history cs id) kind op arity ∧
    (∀ r : Request, r.LooksUp id kind op arity → ∃ w s', outcome r.perform s = (.ok w, s') ∧
      outcome (Run.finish (.ofRule (recalled (history cs id) kind op arity))) s = (.ok w, s') ∧
      s'.store.registries = s.store.registries ∧ Chronicle d cs s') ∧
    (∀ later s', Chronicle d (later ++ cs) s' → (∀ e, .registered id e ∈ later → e.kind ≠ kind) →
      (s'.registry id).lookup kind op arity = (s.registry id).lookup kind op arity) ∧
    ∀ before k after f, RuleKey.candidates op arity = before ++ k :: after →
      tried? (history cs id) kind k.op k.arity = some f →
      (s.registry id).lookup kind op arity =
        ((before.findSome? fun j => tried? (history cs id) kind j.op j.arity) <|> some f) := by
  refine ⟨h.lookup_eq_recalled hid hop harity, fun r hr => ?_, fun later s' h' hlater => ?_,
    fun before k after f hkeys hf => ?_⟩
  · obtain ⟨w, s', hfinish, -, -⟩ := Run.outcome_finish (.ofRule (recalled (history cs id) kind op arity)) s
    have hperform := Request.perform_lookup hr s
    rw [h.lookup_eq_recalled hid hop harity] at hperform
    obtain ⟨hregistries, hnext⟩ := Run.finish_ok hfinish
    exact ⟨w, s', hperform.trans hfinish, hfinish, hregistries, .aside h hregistries hnext⟩
  -- No later change makes this registry again, so its history only grows, by registrations of the other kind.
  · have hid' : id ∈ made (later ++ cs) := by
      rw [made, List.filterMap_append]
      exact List.mem_append_right _ hid
    obtain ⟨new, hnew, hmem⟩ := history_append (h'.not_mem_made_later hid) cs
    rw [h'.lookup_eq_recalled hid' hop harity, h.lookup_eq_recalled hid hop harity, hnew,
      recalled_append_of_kind fun e he => hlater e (hmem e he)]
  · rw [h.lookup_eq_recalled hid hop harity, recalled_eq_findSome?, hkeys, List.findSome?_append, findSome?_cons_or, hf]
    cases before.findSome? fun j => tried? (history cs id) kind j.op j.arity <;> rfl

/-- A registry and its copy, asked about an operator that is equal to the one that rules were registered for: the rule for
two operands that was registered on the copy is not found in the source. -/
theorem lookup_recalls_copied :
    ∃ (d : Directory) (cs : List Change) (s : Session), Chronicle d cs s ∧ made cs = [4, 3] ∧
      (s.registry 3).lookup .ndims (.callable (.scaled (.ofInt 7) 21)) (.ofInt 2) = some (.rule .elementwiseNdims) ∧
      (s.registry 4).lookup .ndims (.callable (.scaled (.ofInt 7) 21)) (.ofInt 2) = some (.rule .matmulNdims) := by
  let d : Directory := ⟨fun m => .callable (.scaled (.ofInt 7) m),
    fun _ => .symbol ⟨0, .text "i" Mark.unmarked, .scalar none, Mark.unmarked⟩⟩
  let op : Value := .callable (.scaled (.ofInt 7) 20)
  let request (name : String) (args : List Value) (keywords : List (String × Value)) : Request :=
    ⟨name, args, keywords, fun _ => .error .endless⟩
  have hint : ∀ n, (Value.ofInt n).Listed d := fun n => .of_plain rfl rfl nofun
  have hnone : (Value.none).Listed d := .of_plain rfl rfl nofun
  have hscaled : ∀ m, (Value.callable (.scaled (.ofInt 7) m)).Listed d := fun m =>
    .intro (fun _ => rfl) nofun (List.forall_mem_singleton.2 (hint 7))
  have h₁ : Chronicle d [.made 3 []] _ :=
    Chronicle.start.request (request "Registry" [] []) rfl (.create rfl) (by decide)
  have h₂ : Chronicle d [.registered 3 ⟨.ndims, ⟨op, .none⟩, .rule .elementwiseNdims⟩, .made 3 []] _ :=
    h₁.request (request "register_ndims" [.registry 3, op, .callable (.rule .elementwiseNdims)] []) rfl
      (.register (by decide) ⟨_, _, rfl, rfl⟩ (hscaled 20) hnone) (by simp [Change.needs?, made, Change.makes?])
  have h₃ : Chronicle d (.copied 3 4 :: _) _ := h₂.request (request "registry_copy" [.registry 3] []) rfl
    (.copy rfl ⟨_, _, rfl, rfl⟩) (by simp [Change.needs?, made, Change.makes?])
  have h₄ : Chronicle d (.registered 4 ⟨.ndims, ⟨op, .ofInt 2⟩, .rule .matmulNdims⟩ :: _) _ := h₃.request
    (request "ndims_rule" [.registry 4, op, .callable (.rule .matmulNdims)] [("arity", .ofInt 2)]) rfl
      (.register (by decide) ⟨_, _, rfl, rfl⟩ (hscaled 20) (hint 2)) (by simp [Change.needs?, made, Change.makes?])
  refine ⟨d, _, _, h₄, rfl, ?_, ?_⟩
  · exact (h₄.lookup_recalls (by simp [made, Change.makes?]) (fun _ => hscaled 21) (fun _ => hint 2)).1
  · exact (h₄.lookup_recalls (by simp [made, Change.makes?]) (fun _ => hscaled 21) (fun _ => hint 2)).1

/-- Equal operators are not always the same key: a type equals its spelling, and a rule for the type is not found under
the spelling. -/
theorem not_recalled_of_equal :
    ∃ (d : Directory) (cs : List Change) (s : Session) (op op' : Value) (f : Callable), Chronicle d cs s ∧
      made cs = [3] ∧ history cs 3 = [⟨.ndims, ⟨op, .none⟩, f⟩] ∧ op.equals false op' = true ∧
      op'.isHashable = true ∧ (s.registry 3).lookup .ndims op' (.ofInt 1) = none := by
  let d : Directory := ⟨fun _ => .none, fun _ => .symbol ⟨0, .text "i" Mark.unmarked, .scalar none, Mark.unmarked⟩⟩
  let op : Value := .dtype .float64
  have hop : op.Listed d := .of_plain rfl rfl nofun
  have htext : (Value.ofString "float64").Listed d := .of_plain rfl rfl nofun
  have hone : (Value.ofInt 1).Listed d := .of_plain rfl rfl nofun
  have h₁ : Chronicle d [.made 3 []] _ :=
    Chronicle.start.request ⟨"Registry", [], [], fun _ => .error .endless⟩ rfl (.create rfl) (by decide)
  have h₂ : Chronicle d [.registered 3 ⟨.ndims, ⟨op, .none⟩, .rule .elementwiseNdims⟩, .made 3 []] _ :=
    h₁.request ⟨"register_ndims", [.registry 3, op, .callable (.rule .elementwiseNdims)], [], fun _ => .error .endless⟩
      rfl (.register (by decide) ⟨_, _, rfl, rfl⟩ hop (.of_plain rfl rfl nofun))
      (by simp [Change.needs?, made, Change.makes?])
  refine ⟨d, _, _, op, .ofString "float64", _, h₂, rfl, rfl, by decide, rfl, ?_⟩
  exact h₂.lookup_eq_recalled (by simp [made, Change.makes?]) (fun _ => htext) (fun _ => hone)

end Chronicle

end Script

end ArrayTyping

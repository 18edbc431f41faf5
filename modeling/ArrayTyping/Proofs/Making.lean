import ArrayTyping.Proofs.Growth
/-!
# Making — the nodes that constructors make

For every constructor, what an answer of it looks like: the new node has the next free identity, its parts are those
handed in, and the slots are the former ones, with the new node's own slot written where the constructor attaches a
shape.  That every constructor grows the store follows from this.
-/
namespace ArrayTyping

namespace Build

/-! ## Symbols -/

structure IsNewSymbol (s : Symbol) (l : Label) (t : DeclaredType) (st : Store) : Prop where
  id_eq : s.id = st.next
  content_eq : s.name.content = l.content
  type_eq : s.type.plain = t.plain

theorem outcome_namedSymbol (l : Label) (t : DeclaredType) (m : Mark) (st : Store) :
    ∃ s st', outcome (namedSymbol l t m) st = (.ok s, st') ∧ IsNewSymbol s l t st ∧
      st'.slots = st.slots ∧ st.next < st'.next := by
  have hk : Keeps (do return (⟨st.next, ← l.kept, ← t.kept, ← Mark.given m⟩ : Symbol))
      fun s => IsNewSymbol s l t st := by
    refine l.kept_content.bind fun l' hl => t.kept_plain.bind fun t' ht => ?_
    exact (Keeps.given m).bind fun _ _ => Keeps.pure ⟨rfl, hl, ht⟩
  unfold namedSymbol
  rw [outcome_bind_of_ok (outcome_fresh st)]
  exact ⟨_, _, rfl, (hk _).2, rfl, (hk (st.next + 1)).1⟩

theorem symbol_ok {name : Value} {t : DeclaredType} {s : Symbol} {st st' : Store} :
    outcome (symbol name t) st = (.ok s, st') ↔
      ∃ l, symbolName name = .ok l ∧ outcome (namedSymbol l t Mark.unmarked) st = (.ok s, st') := by
  unfold symbol
  rw [outcome_bind_ok]
  constructor
  · rintro ⟨l, st₁, h₁, h⟩
    obtain ⟨hl, rfl⟩ := outcome_lift_ok.1 h₁
    exact ⟨l, hl, h⟩
  · rintro ⟨l, hl, h⟩
    exact ⟨l, st, outcome_lift_ok.2 ⟨hl, rfl⟩, h⟩

theorem isNewSymbol_of_symbol {name : Value} {t : DeclaredType} {s : Symbol} {st st' : Store}
    (h : outcome (symbol name t) st = (.ok s, st')) :
    ∃ l, symbolName name = .ok l ∧ IsNewSymbol s l t st ∧ st'.slots = st.slots ∧ st.next < st'.next := by
  obtain ⟨l, hl, h⟩ := symbol_ok.1 h
  obtain ⟨s', st'', ho, hs⟩ := outcome_namedSymbol l t Mark.unmarked st
  rw [ho] at h
  cases h
  exact ⟨l, hl, hs⟩

theorem steady_namedSymbol (l : Label) (t : DeclaredType) (m : Mark) : Steady (namedSymbol l t m) := by
  intro st
  obtain ⟨s, st', ho, -, hs, hn⟩ := outcome_namedSymbol l t m st
  rw [ho]
  exact ⟨hs, Nat.le_of_lt hn⟩

theorem steady_symbol (name : Value) (t : DeclaredType) : Steady (symbol name t) :=
  (Steady.lift _).bind fun l => steady_namedSymbol l t _

theorem steady_rawSymbol (name type : Value) : Steady (rawSymbol name type) := by
  refine (Steady.lift _).bind fun l => ?_
  split
  · exact steady_namedSymbol l _ _
  · exact Steady.refuse _

theorem steady_scalarSymbol (name dtype : Value) : Steady (scalarSymbol name dtype) :=
  (Steady.lift _).bind fun _ => steady_symbol _ _

theorem steady_indexSymbols (names : List Value) : Steady (indexSymbols names) :=
  (Steady.lift _).bind fun _ => Steady.mapM (fun _ => steady_symbol _ _) names

/-- A declaration without a shape leaves it unknown; a shape that is declared decides the rank. -/
theorem declaredShape_ok {name shape rank r : Value} {info : ShapeInfo}
    (h : declaredShape name shape rank = .ok (info, r)) :
    (shape = .none ∧ info = none) ∨ ∃ s, shape.toShape = .ok s ∧ info = some s ∧ r = .ofInt s.rank := by
  unfold declaredShape at h
  split at h
  · cases h
    exact .inl ⟨rfl, rfl⟩
  · obtain ⟨s, hs, h⟩ := exceptBind_ok.1 h
    refine .inr ⟨s, hs, ?_⟩
    split at h
    · cases h
      exact ⟨rfl, rfl⟩
    · cases h
      exact ⟨rfl, rfl⟩
    · split at h
      · cases h
        exact ⟨rfl, rfl⟩
      · cases h

/-- **An array symbol has its shape attached**, known or not, and the rank that was declared with it. -/
theorem arraySymbol_ok {name shape dtype rank container : Value} {s : Symbol} {st st' : Store}
    (h : outcome (arraySymbol name shape dtype rank container) st = (.ok s, st')) :
    ∃ info r t l info', declaredShape name shape rank = .ok (info, r) ∧
      DeclaredType.ofParts container dtype r = .ok t ∧ symbolName name = .ok l ∧ IsNewSymbol s l t st ∧
      info'.map Shape.plain = info.map Shape.plain ∧ st'.slots = st.slots.insert s.id info' ∧ st.next < st'.next := by
  unfold arraySymbol at h
  obtain ⟨⟨info, r⟩, st₁, h₁, h⟩ := outcome_bind_ok.1 h
  obtain ⟨hd, rfl⟩ := outcome_lift_ok.1 h₁
  obtain ⟨t, st₂, h₂, h⟩ := outcome_bind_ok.1 h
  obtain ⟨ht, rfl⟩ := outcome_lift_ok.1 h₂
  obtain ⟨s', st₃, h₃, h⟩ := outcome_bind_ok.1 h
  obtain ⟨info', st₄, h₄, h⟩ := outcome_bind_ok.1 h
  obtain ⟨rfl, rfl⟩ := outcome_pure_ok.1 h
  obtain ⟨l, hl, hs, hslots, hnext⟩ := isNewSymbol_of_symbol h₃
  obtain ⟨-, hplain, hinsert, hle⟩ := attach_ok h₄
  rw [hslots] at hinsert
  exact ⟨info, r, t, l, info', hd, ht, hl, hs, hplain, hinsert, Nat.lt_of_lt_of_le hnext hle⟩

theorem outcome_arraySymbol {name shape dtype rank container r : Value} {info : ShapeInfo} {t : DeclaredType}
    {l : Label}
    {st : Store} (hw : st.WellFormed) (hd : declaredShape name shape rank = .ok (info, r))
    (ht : DeclaredType.ofParts container dtype r = .ok t) (hl : symbolName name = .ok l) :
    ∃ s st', outcome (arraySymbol name shape dtype rank container) st = (.ok s, st') := by
  obtain ⟨s, st₁, h₁, hs, hslots, -⟩ := outcome_namedSymbol l t Mark.unmarked st
  have hnone : st₁.slots.get? (Node.symbol s).id = none := by
    rw [hslots, show (Node.symbol s).id = st.next from hs.id_eq]
    exact hw _ (Nat.le_refl _)
  obtain ⟨info', st₂, h₂, -⟩ := outcome_attach_of_none info hnone
  unfold arraySymbol
  rw [outcome_bind_of_ok (outcome_lift_ok.2 ⟨hd, rfl⟩)]
  dsimp only
  rw [outcome_bind_of_ok (outcome_lift_ok.2 ⟨ht, rfl⟩), outcome_bind_of_ok (symbol_ok.2 ⟨l, hl, h₁⟩),
    outcome_bind_of_ok h₂]
  exact ⟨_, _, rfl⟩

theorem grows_arraySymbol (name shape dtype rank container : Value) :
    Grows (arraySymbol name shape dtype rank container) := by
  refine (Steady.lift _).grows.bind fun ⟨info, r⟩ => (Steady.lift _).grows.bind fun t => ?_
  intro st hw
  have hg := (steady_symbol name t).grows st hw
  rw [outcome_bind]
  rcases h : outcome (symbol name t) st with ⟨e | s, st₁⟩
  · rw [h] at hg
    exact hg
  · obtain ⟨l, -, hs, hslots, hnext⟩ := isNewSymbol_of_symbol h
    rw [h] at hg
    have hid : (Node.symbol s).id = st.next := hs.id_eq
    have ha := grown_attach hg info (Nat.le_of_eq hid.symm) (hid ▸ hnext)
    dsimp only
    rw [outcome_bind]
    rcases h' : outcome (attach (.symbol s) info) st₁ with ⟨e | s', st₂⟩
    · rw [h'] at ha
      exact ha
    · rw [h'] at ha
      exact ha

/-! ## Constants and operands -/

theorem outcome_constantOf (d : Datum) (st : Store) :
    outcome (constantOf d) st = (.ok (.constant st.next d (st.next + 1)), { st with next := st.next + 1 + 1 }) := rfl

theorem rawConstant_ok {v : Value} {n : Node} {st st' : Store} (h : outcome (rawConstant v) st = (.ok n, st')) :
    ∃ d, v = d.toValue ∧ n = .constant st.next d (st.next + 1) ∧ st' = { st with next := st.next + 1 + 1 } := by
  unfold rawConstant at h
  split at h
  · rw [outcome_constantOf] at h
    cases h
    exact ⟨.array _, rfl, rfl, rfl⟩
  · rw [outcome_constantOf] at h
    cases h
    exact ⟨.scalar _ _, rfl, rfl, rfl⟩
  · cases h

theorem steady_rawConstant (v : Value) : Steady (rawConstant v) := by
  unfold rawConstant
  split
  · exact Steady.fresh.bind fun _ => Steady.fresh.bind fun _ => Steady.pure _
  · exact Steady.fresh.bind fun _ => Steady.fresh.bind fun _ => Steady.pure _
  · exact Steady.refuse _

theorem steady_shapeOf (v : Value) : Steady (shapeOf v) := Steady.slots.bind fun _ => Steady.lift _

theorem outcome_shapeOf (v : Value) (st : Store) : outcome (shapeOf v) st = (st.slots.shapeOf v, st) := rfl

/-- **A constant has the shape of its datum attached.** -/
theorem constant_ok {v : Value} {n : Node} {st st' : Store} (h : outcome (constant v) st = (.ok n, st')) :
    ∃ d info info', v = d.toValue ∧ n = .constant st.next d (st.next + 1) ∧ st.slots.shapeOf v = .ok info ∧
      info'.map Shape.plain = info.map Shape.plain ∧ st'.slots = st.slots.insert st.next info' ∧
      st.next < st'.next := by
  unfold constant at h
  obtain ⟨n', st₁, h₁, h⟩ := outcome_bind_ok.1 h
  obtain ⟨info, st₂, h₂, h⟩ := outcome_bind_ok.1 h
  obtain ⟨info', st₃, h₃, h⟩ := outcome_bind_ok.1 h
  obtain ⟨rfl, rfl⟩ := outcome_pure_ok.1 h
  obtain ⟨d, hv, hn, rfl⟩ := rawConstant_ok h₁
  rw [outcome_shapeOf] at h₂
  obtain ⟨hinfo, rfl⟩ := Prod.mk.inj h₂
  obtain ⟨-, hplain, hinsert, hle⟩ := attach_ok h₃
  have hid : n'.id = st.next := by rw [hn]; rfl
  rw [hid] at hinsert
  exact ⟨d, info, info', hv, hn, hinfo, hplain, hinsert,
    Nat.lt_of_lt_of_le (Nat.lt_succ_of_lt (Nat.lt_succ_self _)) hle⟩

theorem outcome_constant (d : Datum) {info : ShapeInfo} {st : Store} (hw : st.WellFormed)
    (h : st.slots.shapeOf d.toValue = .ok info) : ∃ n st', outcome (constant d.toValue) st = (.ok n, st') := by
  have hraw : outcome (rawConstant d.toValue) st =
      (.ok (.constant st.next d (st.next + 1)), { st with next := st.next + 1 + 1 }) := by
    cases d <;> rfl
  have hnone :
      ({ st with next := st.next + 1 + 1 } : Store).slots.get? (Node.constant st.next d (st.next + 1)).id = none :=
    hw _ (Nat.le_refl _)
  obtain ⟨info', st₂, h₂, -⟩ := outcome_attach_of_none info hnone
  unfold constant
  rw [outcome_bind_of_ok hraw, outcome_bind, outcome_shapeOf, show Slots.shapeOf _ d.toValue = _ from h]
  dsimp only
  rw [outcome_bind_of_ok h₂]
  exact ⟨_, _, rfl⟩

theorem grows_constant (v : Value) : Grows (constant v) := by
  intro st hw
  have hg := (steady_rawConstant v).grows st hw
  unfold constant
  rw [outcome_bind]
  rcases h : outcome (rawConstant v) st with ⟨e | n, st₁⟩
  · rw [h] at hg
    exact hg
  · rw [h] at hg
    obtain ⟨d, -, rfl, rfl⟩ := rawConstant_ok h
    dsimp only
    rw [outcome_bind, outcome_shapeOf]
    cases Slots.shapeOf _ v with
    | error e => exact hg
    | ok info =>
      have ha := grown_attach hg (n := .constant st.next d (st.next + 1)) info (Nat.le_refl _)
        (Nat.lt_succ_of_lt (Nat.lt_succ_self _))
      dsimp only
      rw [outcome_bind]
      rcases h' : outcome (attach (.constant st.next d (st.next + 1)) info) _ with ⟨e | s', st₂⟩
      · rw [h'] at ha
        exact ha
      · rw [h'] at ha
        exact ha

theorem operand_ok {v w : Value} {st st' : Store} (h : outcome (operand v) st = (.ok w, st')) :
    (v = w ∧ st = st' ∧ (v.isScalarLiteral = true ∨ ∃ n, v = .node n)) ∨
      ∃ a n, v = .array a ∧ w = .node n ∧ outcome (constant (.array a)) st = (.ok n, st') := by
  unfold operand at h
  split at h
  · obtain ⟨rfl, rfl⟩ := outcome_pure_ok.1 h
    exact .inl ⟨rfl, rfl, .inr ⟨_, rfl⟩⟩
  · obtain ⟨n, st₁, h₁, h⟩ := outcome_bind_ok.1 h
    obtain ⟨rfl, rfl⟩ := outcome_pure_ok.1 h
    exact .inr ⟨_, n, rfl, rfl, h₁⟩
  · split at h
    · rename_i hl
      obtain ⟨rfl, rfl⟩ := outcome_pure_ok.1 h
      exact .inl ⟨rfl, rfl, .inl hl⟩
    · cases h

theorem grows_operand (v : Value) : Grows (operand v) := by
  unfold operand
  split
  · exact (Steady.pure _).grows
  · exact (grows_constant _).bind fun _ => (Steady.pure _).grows
  · split
    · exact (Steady.pure _).grows
    · exact (Steady.refuse _).grows

/-! ## Applications -/

/-- An application made in `st` of an operator, operands and a type: its parts are those, kept. -/
def IsNewTerm (n : Node) (f : Callable) (args : List Value) (t : DeclaredType) (st : Store) : Prop :=
  ∃ f' args' am t' tm, n = .term st.next f' args' am t' tm ∧ Gives f.kept f' ∧ Gives (keptAll args) args' ∧
    Gives t.kept t'

namespace IsNewTerm

variable {n : Node} {f : Callable} {args : List Value} {t : DeclaredType} {st : Store}

theorem id_eq (h : IsNewTerm n f args t st) : n.id = st.next := by
  obtain ⟨f', args', am, t', tm, rfl, -⟩ := h
  rfl

theorem type_eq (h : IsNewTerm n f args t st) : n.type.plain = t.plain := by
  obtain ⟨f', args', am, t', tm, rfl, -, -, ht⟩ := h
  exact t.kept_plain.of_gives ht

theorem nodes_eq (h : IsNewTerm n f args t st) : n.nodes = n :: (f.nodes ++ nodesOfAll args) := by
  obtain ⟨f', args', am, t', tm, rfl, hf, hargs, -⟩ := h
  rw [Node.nodes, f.kept_nodes.of_gives hf, (keptAll_nodes args).of_gives hargs]

end IsNewTerm

theorem outcome_application (f : Callable) (args : List Value) (am : Mark) (t : DeclaredType) (tm : Mark) (st : Store) :
    ∃ n st', outcome (application f args am t tm) st = (.ok n, st') ∧ IsNewTerm n f args t st ∧
      st'.slots = st.slots ∧ st.next < st'.next := by
  have hk : Keeps (do
      return Node.term st.next (← f.kept) (← keptAll args) (← Mark.given am) (← t.kept) (← Mark.given tm))
      fun _ => True := by
    refine f.kept_nodes.bind fun _ _ => (keptAll_nodes args).bind fun _ _ => (Keeps.given am).bind fun _ _ => ?_
    exact t.kept_plain.bind fun _ _ => (Keeps.given tm).bind fun _ _ => Keeps.pure trivial
  unfold application
  rw [outcome_bind_of_ok (outcome_fresh st)]
  exact ⟨_, _, rfl, ⟨_, _, _, _, _, rfl, ⟨_, rfl⟩, ⟨_, rfl⟩, ⟨_, rfl⟩⟩, rfl, (hk (st.next + 1)).1⟩

theorem outcome_term {op : Value} {f : Callable} (hop : op.callable? = some f) (args : List Value) (t : DeclaredType)
    (st : Store) : ∃ n st', outcome (term op args t) st = (.ok n, st') ∧ IsNewTerm n f args t st ∧
      st'.slots = st.slots ∧ st.next < st'.next := by
  unfold term
  simp only [hop]
  exact outcome_application f args _ t _ st

theorem term_ok {op : Value} {args : List Value} {t : DeclaredType} {n : Node} {st st' : Store}
    (h : outcome (term op args t) st = (.ok n, st')) :
    ∃ f, op.callable? = some f ∧ IsNewTerm n f args t st ∧ st'.slots = st.slots ∧ st.next < st'.next := by
  cases hop : op.callable? with
  | none =>
    unfold term at h
    simp only [hop] at h
    cases h
  | some f =>
    obtain ⟨n', st'', ho, hn⟩ := outcome_term hop args t st
    rw [ho] at h
    cases h
    exact ⟨f, rfl, hn⟩

theorem steady_application (f : Callable) (args : List Value) (am : Mark) (t : DeclaredType) (tm : Mark) :
    Steady (application f args am t tm) := by
  intro st
  obtain ⟨n, st', ho, -, hs, hn⟩ := outcome_application f args am t tm st
  rw [ho]
  exact ⟨hs, Nat.le_of_lt hn⟩

theorem steady_term (op : Value) (args : List Value) (t : DeclaredType) : Steady (term op args t) := by
  unfold term
  split
  · exact steady_application _ _ _ _ _
  · exact Steady.refuse _

theorem steady_rawTerm (op args type : Value) : Steady (rawTerm op args type) := by
  unfold rawTerm
  split
  · exact Steady.refuse _
  · refine (Steady.lift _).bind fun items => ?_
    split
    · exact steady_application _ _ _ _ _
    · exact Steady.refuse _

end Build

namespace RuleBook

/-- Every rule of the book grows the store when it answers; one that only reads does not even change it. -/
def Grows (book : RuleBook) : Prop :=
  ∀ kind op n rule, book.rule? kind op n = some rule → ∀ args, Build.Grows (rule.respond op args)

variable {book : RuleBook}

theorem Grows.rank (h : book.Grows) (op : Value) (args : List Value) : Build.Grows (book.rank op args) := by
  unfold RuleBook.rank
  split
  · exact (Build.Steady.throw _).grows
  · rename_i rule hr
    exact (h _ _ _ rule hr args).bind fun _ => (Build.Steady.lift _).grows

theorem Grows.shape (h : book.Grows) (op : Value) (args : List Value) : Build.Grows (book.shape op args) := by
  unfold RuleBook.shape
  split
  · exact (Build.Steady.throw _).grows
  · rename_i rule hr
    exact (h _ _ _ rule hr args).bind fun _ => (Build.Steady.lift _).grows

theorem grows_of_reading (h : ∀ kind op n rule, book.rule? kind op n = some rule → ∃ f, rule = .reading f) :
    book.Grows := by
  intro kind op n rule hr args
  obtain ⟨f, rfl⟩ := h kind op n rule hr
  exact (Build.Steady.slots.bind fun _ => Build.Steady.lift _).grows

end RuleBook

def Callable.isRule : Callable → Bool
  | .rule _ => true
  | _ => false

theorem Registry.builtin_rules (kind : RuleKind) : (Registry.builtin.table kind).all (fun e => e.2.isRule) = true := by
  cases kind <;> rfl

theorem RuleBook.builtin_rule {kind : RuleKind} {op : Value} {n : Nat} {rule : Rule}
    (h : RuleBook.builtin.rule? kind op n = some rule) : ∃ r : BuiltinRule, rule = .reading r.respond := by
  obtain ⟨f, hf, rfl⟩ := Option.map_eq_some_iff.1 h
  obtain ⟨k, -, hk⟩ := List.exists_of_findSome?_eq_some hf
  obtain ⟨e, he, rfl⟩ := Option.map_eq_some_iff.1 hk
  have hrule := List.all_eq_true.1 (Registry.builtin_rules kind) e (List.mem_of_find?_eq_some he)
  cases hf' : e.2 with
  | rule r => exact ⟨r, rfl⟩
  | _ =>
    rw [hf'] at hrule
    cases hrule

theorem RuleBook.builtin_grows : RuleBook.builtin.Grows := by
  refine RuleBook.grows_of_reading fun kind op n rule h => ?_
  obtain ⟨r, hr⟩ := RuleBook.builtin_rule h
  exact ⟨r.respond, hr⟩

namespace Build

/-- The last steps of an array term, once its rank and shape are known not to contradict each other. -/
def finishedTerm (op : Value) (operands : List Value) (r : Nat) (info : ShapeInfo) : Build Node := do
  let t ← term op operands (.array (joinedContainer operands) (joinedElementType operands) (some r))
  let s ← attach t info
  record (.builtTerm t (joinedContainer operands) (joinedElementType operands) r s)
  return t

theorem arrayTerm_eq (book : RuleBook) (op : Value) (args : List Value) : arrayTerm book op args = (do
    let operands ← args.mapM operand
    let r ← book.rank op operands
    let info ← book.shape op operands
    match info with
    | some s =>
      if s.rank ≠ r then throw (.conflict (.rankContradicted op s.rank r operands))
      else finishedTerm op operands r (some s)
    | none => finishedTerm op operands r none) := by
  unfold arrayTerm
  refine bind_congr fun operands => bind_congr fun r => bind_congr fun info => ?_
  cases info with
  | none => rfl
  | some s =>
    dsimp only
    split
    · rfl
    · rfl

theorem finishedTerm_ok {op : Value} {operands : List Value} {r : Nat} {info : ShapeInfo} {n : Node} {st st' : Store}
    (h : outcome (finishedTerm op operands r info) st = (.ok n, st')) :
    ∃ f info', op.callable? = some f ∧
      IsNewTerm n f operands (.array (joinedContainer operands) (joinedElementType operands) (some r)) st ∧
      info'.map Shape.plain = info.map Shape.plain ∧ st'.slots = st.slots.insert n.id info' ∧ st.next < st'.next := by
  unfold finishedTerm at h
  obtain ⟨t, st₁, h₁, h⟩ := outcome_bind_ok.1 h
  obtain ⟨info', st₂, h₂, h⟩ := outcome_bind_ok.1 h
  rw [outcome_bind_of_ok (outcome_record _ _)] at h
  obtain ⟨rfl, rfl⟩ := outcome_pure_ok.1 h
  obtain ⟨f, hf, hn, hs, hlt⟩ := term_ok h₁
  obtain ⟨-, hplain, hinsert, hle⟩ := attach_ok h₂
  rw [hs] at hinsert
  exact ⟨f, info', hf, hn, hplain, hinsert, Nat.lt_of_lt_of_le hlt hle⟩

theorem outcome_finishedTerm {op : Value} {f : Callable} (hop : op.callable? = some f) (operands : List Value) (r : Nat)
    (info : ShapeInfo) {st : Store} (hw : st.WellFormed) :
    ∃ n st', outcome (finishedTerm op operands r info) st = (.ok n, st') := by
  unfold finishedTerm
  obtain ⟨t, st₁, h₁, ht, hs, -⟩ := outcome_term hop operands
    (.array (joinedContainer operands) (joinedElementType operands) (some r)) st
  have hnone : st₁.slots.get? t.id = none := by
    rw [hs, ht.id_eq]
    exact hw _ (Nat.le_refl _)
  obtain ⟨info', st₂, h₂, -⟩ := outcome_attach_of_none info hnone
  rw [outcome_bind_of_ok h₁, outcome_bind_of_ok h₂]
  exact ⟨_, _, rfl⟩

theorem grows_finishedTerm (op : Value) (operands : List Value) (r : Nat) (info : ShapeInfo) :
    Grows (finishedTerm op operands r info) := by
  intro st hw
  unfold finishedTerm
  have hg := (steady_term op operands
    (.array (joinedContainer operands) (joinedElementType operands) (some r))).grows st hw
  rw [outcome_bind]
  rcases h : outcome (term op operands _) st with ⟨e | t, st₁⟩
  · rw [h] at hg
    exact hg
  · rw [h] at hg
    obtain ⟨f, -, ht, -, hlt⟩ := term_ok h
    have ha := grown_attach hg info (Nat.le_of_eq ht.id_eq.symm) (ht.id_eq ▸ hlt)
    dsimp only
    rw [outcome_bind]
    rcases h' : outcome (attach t info) st₁ with ⟨e | s', st₂⟩
    · rw [h'] at ha
      exact ha
    · rw [h'] at ha
      exact ⟨ha.next_le, ha.kept, ha.wellFormed⟩

def RankFits (r : Nat) (info : ShapeInfo) : Prop := ∀ s, info = some s → s.rank = r

/-- **An array term, unpacked**: its operands, the rank and the shape that the rules gave, which do not contradict each
other, and the last steps. -/
theorem arrayTerm_ok {book : RuleBook} {op : Value} {args : List Value} {n : Node} {st st' : Store} :
    outcome (arrayTerm book op args) st = (.ok n, st') ↔
    ∃ operands st₁ r st₂ info st₃, outcome (args.mapM operand) st = (.ok operands, st₁) ∧
      outcome (book.rank op operands) st₁ = (.ok r, st₂) ∧ outcome (book.shape op operands) st₂ = (.ok info, st₃) ∧
      RankFits r info ∧ outcome (finishedTerm op operands r info) st₃ = (.ok n, st') := by
  rw [arrayTerm_eq]
  constructor
  · intro h
    obtain ⟨operands, st₁, h₁, h⟩ := outcome_bind_ok.1 h
    obtain ⟨r, st₂, h₂, h⟩ := outcome_bind_ok.1 h
    obtain ⟨info, st₃, h₃, h⟩ := outcome_bind_ok.1 h
    refine ⟨operands, st₁, r, st₂, info, st₃, h₁, h₂, h₃, ?_⟩
    cases info with
    | none => exact ⟨fun _ hs => (nomatch hs), h⟩
    | some s =>
      dsimp only at h
      split at h
      · cases h
      · rename_i hr
        refine ⟨fun t ht => ?_, h⟩
        cases ht
        exact Decidable.not_not.1 hr
  · rintro ⟨operands, st₁, r, st₂, info, st₃, h₁, h₂, h₃, hfit, h⟩
    rw [outcome_bind_of_ok h₁, outcome_bind_of_ok h₂, outcome_bind_of_ok h₃]
    cases info with
    | none => exact h
    | some s =>
      dsimp only
      rw [if_neg (Decidable.not_not.2 (hfit s rfl))]
      exact h

theorem grows_arrayTerm {book : RuleBook} (hb : book.Grows) (op : Value) (args : List Value) :
    Grows (arrayTerm book op args) := by
  rw [arrayTerm_eq]
  refine (Grows.mapM grows_operand args).bind fun operands => (hb.rank op operands).bind fun r => ?_
  refine (hb.shape op operands).bind fun info => ?_
  cases info with
  | none => exact grows_finishedTerm op operands r none
  | some s => exact Grows.ite (Steady.throw _).grows (grows_finishedTerm op operands r (some s))

theorem grows_apply {book : RuleBook} (hb : book.Grows) (op : Value) (args : List Value) :
    Grows (apply book op args) := by
  refine (Grows.mapM grows_operand args).bind fun operands => ?_
  refine Grows.ite (grows_arrayTerm hb op operands) ?_
  exact (Steady.lift _).grows.bind fun t => (steady_term op operands t).grows

theorem grows_elementwise {book : RuleBook} (hb : book.Grows) (f : Value) (args : List Value) :
    Grows (elementwise book f args) :=
  (Steady.lift _).grows.bind fun _ => grows_apply hb _ args

theorem grows_index (array key : Value) : Grows (index array key) := by
  refine (grows_operand array).bind fun target => ?_
  split
  · exact (Steady.refuse _).grows
  · exact ((Steady.mapM (fun _ => Steady.lift _) _).bind fun _ => steady_term _ _ _).grows

/-! ## Arrays by index notation -/

theorem steady_checkSymbol (name : Except Fault Label) (os : List Occurrence) : Steady (Usage.checkSymbol name os) := by
  refine Steady.slots.bind fun slots => (Steady.lift _).bind fun r => ?_
  cases r with
  | some a => exact Steady.pure _
  | none => exact (Steady.lift _).bind fun _ => (Steady.record _).bind fun _ => Steady.pure _

theorem steady_checkConsistency : ∀ u : Usage, Steady u.checkConsistency
  | [] => Steady.pure _
  | (s, os) :: u => by
    refine (steady_checkSymbol _ os).bind fun r => ?_
    cases r with
    | none => exact steady_checkConsistency u
    | some a => exact (steady_checkConsistency u).bind fun _ => Steady.pure _

theorem steady_outputShape (output : List OutputIndex) (body : Value) : Steady (outputShape output body) := by
  refine (Steady.lift _).bind fun usage => (steady_checkConsistency usage).bind fun _ => ?_
  refine Steady.slots.bind fun slots => (Steady.mapM (fun _ => Steady.lift _) output).bind fun axes => ?_
  split
  · exact (Steady.record _).bind fun _ => Steady.pure _
  · exact (Steady.record _).bind fun _ => Steady.pure _

def IsNewArrayOp (n : Node) (output : List OutputIndex) (body : Value) (reduce : Callable) (source : Option Node)
    (k : Container) (e : ElementType) (st : Store) : Prop :=
  ∃ output' om body' reduce' e' tm, n = .arrayOp st.next output' om body' reduce' source k e' tm ∧
    Gives (output.mapM OutputIndex.kept) output' ∧ Gives body.kept body' ∧ Gives reduce.kept reduce' ∧
    Gives (e.mapM Dtype.kept) e'

namespace IsNewArrayOp

variable {n : Node} {output : List OutputIndex} {body : Value} {reduce : Callable} {source : Option Node}
  {k : Container} {e : ElementType} {st : Store}

theorem id_eq (h : IsNewArrayOp n output body reduce source k e st) : n.id = st.next := by
  obtain ⟨output', om, body', reduce', e', tm, rfl, -⟩ := h
  rfl

theorem type_eq (h : IsNewArrayOp n output body reduce source k e st) :
    n.type.plain = (DeclaredType.array k e (some output.length)).plain := by
  obtain ⟨output', om, body', reduce', e', tm, rfl, ho, -, -, he⟩ := h
  have hl := ((OutputIndex.keptAll_nodes output).of_gives ho).1
  have he := (Dtype.optionKept_plain e).of_gives he
  rw [Node.type, hl, DeclaredType.plain, DeclaredType.plain, he]

theorem nodes_eq (h : IsNewArrayOp n output body reduce source k e st) :
    n.nodes = n :: (output.flatMap OutputIndex.nodes ++ body.nodes ++ reduce.nodes ++ nodesOfSource source) := by
  obtain ⟨output', om, body', reduce', e', tm, rfl, ho, hb, hr, -⟩ := h
  rw [Node.nodes, ((OutputIndex.keptAll_nodes output).of_gives ho).2, body.kept_nodes.of_gives hb,
    reduce.kept_nodes.of_gives hr]

end IsNewArrayOp

def indexedNode (output : List OutputIndex) (body : Value) (reduce : Callable) (source : Option Node) (k : Container)
    (e : ElementType) : Build Node := do
  let id ← fresh
  keeping do
    return Node.arrayOp id (← output.mapM OutputIndex.kept) (← Mark.given Mark.unmarked) (← body.kept)
      (← reduce.kept) source k (← e.mapM Dtype.kept) (← Mark.given Mark.unmarked)

theorem indexed_eq (output : List OutputIndex) (body : Value) (reduce : Callable) (source : Option Node) (k : Container)
    (e : ElementType) : indexed output body reduce source k e = (do
      let node ← indexedNode output body reduce source k e
      let s ← outputShape output body
      let _ ← attach node s
      return node) := rfl

theorem outcome_indexedNode (output : List OutputIndex) (body : Value) (reduce : Callable) (source : Option Node)
    (k : Container) (e : ElementType) (st : Store) :
    ∃ n st', outcome (indexedNode output body reduce source k e) st = (.ok n, st') ∧
      IsNewArrayOp n output body reduce source k e st ∧ st'.slots = st.slots ∧ st.next < st'.next := by
  have hk : Keeps (do
      return Node.arrayOp st.next (← output.mapM OutputIndex.kept) (← Mark.given Mark.unmarked) (← body.kept)
        (← reduce.kept) source k (← e.mapM Dtype.kept) (← Mark.given Mark.unmarked)) fun _ => True := by
    refine (OutputIndex.keptAll_nodes output).bind fun _ _ => (Keeps.given _).bind fun _ _ => ?_
    refine body.kept_nodes.bind fun _ _ => reduce.kept_nodes.bind fun _ _ => ?_
    exact (Dtype.optionKept_plain e).bind fun _ _ => (Keeps.given _).bind fun _ _ => Keeps.pure trivial
  unfold indexedNode
  rw [outcome_bind_of_ok (outcome_fresh st)]
  exact ⟨_, _, rfl, ⟨_, _, _, _, _, _, rfl, ⟨_, rfl⟩, ⟨_, rfl⟩, ⟨_, rfl⟩, ⟨_, rfl⟩⟩, rfl, (hk (st.next + 1)).1⟩

theorem indexed_ok {output : List OutputIndex} {body : Value} {reduce : Callable} {source : Option Node} {k : Container}
    {e : ElementType} {n : Node} {st st' : Store} :
    outcome (indexed output body reduce source k e) st = (.ok n, st') ↔
      ∃ st₁ info st₂ info', outcome (indexedNode output body reduce source k e) st = (.ok n, st₁) ∧
        outcome (outputShape output body) st₁ = (.ok info, st₂) ∧ outcome (attach n info) st₂ = (.ok info', st') := by
  rw [indexed_eq]
  constructor
  · intro h
    obtain ⟨n', st₁, h₁, h⟩ := outcome_bind_ok.1 h
    obtain ⟨info, st₂, h₂, h⟩ := outcome_bind_ok.1 h
    obtain ⟨info', st₃, h₃, h⟩ := outcome_bind_ok.1 h
    obtain ⟨rfl, rfl⟩ := outcome_pure_ok.1 h
    exact ⟨st₁, info, st₂, info', h₁, h₂, h₃⟩
  · rintro ⟨st₁, info, st₂, info', h₁, h₂, h₃⟩
    rw [outcome_bind_of_ok h₁, outcome_bind_of_ok h₂, outcome_bind_of_ok h₃]
    rfl

/-- **An array by index notation has its resolved shape attached.** -/
theorem indexed_spec {output : List OutputIndex} {body : Value} {reduce : Callable} {source : Option Node}
    {k : Container} {e : ElementType} {n : Node} {st st' : Store}
    (h : outcome (indexed output body reduce source k e) st = (.ok n, st')) :
    ∃ st₁ info st₂ info', IsNewArrayOp n output body reduce source k e st ∧ st₁.slots = st.slots ∧
      st.next < st₁.next ∧ outcome (outputShape output body) st₁ = (.ok info, st₂) ∧
      info'.map Shape.plain = info.map Shape.plain ∧ st'.slots = st.slots.insert n.id info' ∧ st.next < st'.next := by
  obtain ⟨st₁, info, st₂, info', h₁, h₂, h₃⟩ := indexed_ok.1 h
  obtain ⟨n', st'', ho, hn, hs, hlt⟩ := outcome_indexedNode output body reduce source k e st
  rw [ho] at h₁
  cases h₁
  obtain ⟨-, hplain, hinsert, hle⟩ := attach_ok h₃
  have hsteady := steady_outputShape output body st₁
  rw [h₂] at hsteady
  rw [hsteady.1, hs] at hinsert
  exact ⟨st₁, info, st₂, info', hn, hs, hlt, h₂, hplain, hinsert,
    Nat.lt_of_lt_of_le hlt (Nat.le_trans hsteady.2 hle)⟩

theorem outcome_indexed {output : List OutputIndex} {body : Value} (reduce : Callable) (source : Option Node)
    (k : Container) (e : ElementType) {st : Store} (hw : st.WellFormed)
    (h : ∀ st₁ : Store, st₁.slots = st.slots → st.next ≤ st₁.next →
      ∃ info, (outcome (outputShape output body) st₁).1 = .ok info) :
    ∃ n st', outcome (indexed output body reduce source k e) st = (.ok n, st') := by
  obtain ⟨n, st₁, h₁, hn, hs, hlt⟩ := outcome_indexedNode output body reduce source k e st
  have hsteady := (steady_outputShape output body st₁).1
  obtain ⟨info, hinfo⟩ := h st₁ hs (Nat.le_of_lt hlt)
  obtain ⟨st₂, h₂⟩ : ∃ st₂, outcome (outputShape output body) st₁ = (.ok info, st₂) := ⟨_, by rw [← hinfo]⟩
  rw [h₂] at hsteady
  have hnone : st₂.slots.get? n.id = none := by
    rw [hsteady, hs, hn.id_eq]
    exact hw _ (Nat.le_refl _)
  obtain ⟨info', st₃, h₃, -⟩ := outcome_attach_of_none info hnone
  exact ⟨n, st₃, indexed_ok.2 ⟨st₁, info, st₂, info', h₁, h₂, h₃⟩⟩

theorem grows_indexed (output : List OutputIndex) (body : Value) (reduce : Callable) (source : Option Node)
    (k : Container) (e : ElementType) : Grows (indexed output body reduce source k e) := by
  intro st hw
  obtain ⟨n, st₁, h₁, hn, hs, hlt⟩ := outcome_indexedNode output body reduce source k e st
  have hg := (Store.Grown.of_slots_eq hw hs (Nat.le_of_lt hlt)).trans
    ((steady_outputShape output body).grows st₁ (Store.Grown.of_slots_eq hw hs (Nat.le_of_lt hlt)).wellFormed)
  have hle := (steady_outputShape output body st₁).2
  rw [indexed_eq, outcome_bind_of_ok h₁, outcome_bind]
  rcases h₂ : outcome (outputShape output body) st₁ with ⟨f | info, st₂⟩
  · rw [h₂] at hg
    exact hg
  · rw [h₂] at hg hle
    have hid : n.id < st₂.next := by
      rw [hn.id_eq]
      exact Nat.lt_of_lt_of_le hlt hle
    have ha := grown_attach hg info (Nat.le_of_eq hn.id_eq.symm) hid
    dsimp only
    rw [outcome_bind]
    rcases h₃ : outcome (attach n info) st₂ with ⟨f | info', st₃⟩
    · rw [h₃] at ha
      exact ha
    · rw [h₃] at ha
      exact ha

theorem bodyElementType_node (n : Node) : ∃ e, bodyElementType (.node n) = .ok e := by
  unfold bodyElementType
  rw [show (Value.node n).declaredType = .ok n.type from rfl]
  cases n.type with
  | scalar e => exact ⟨e, rfl⟩
  | array k e r => exact ⟨_, rfl⟩

theorem arrayOpNode_ok {output body reduce source container : Value} {n : Node} {st st' : Store} :
    outcome (arrayOpNode output body reduce source container) st = (.ok n, st') ↔
      ∃ out f src e k, output.toOutput = .ok out ∧ reduce.callable? = some f ∧ source.toSource = .ok src ∧
        bodyElementType body = .ok e ∧ container.toContainer = .ok k ∧
        outcome (indexed out body f src k e) st = (.ok n, st') := by
  unfold arrayOpNode
  constructor
  · intro h
    obtain ⟨out, st₁, h₁, h⟩ := outcome_bind_ok.1 h
    obtain ⟨hout, rfl⟩ := outcome_lift_ok.1 h₁
    split at h
    · cases h
    · rename_i f hf
      obtain ⟨src, st₂, h₂, h⟩ := outcome_bind_ok.1 h
      obtain ⟨hsrc, rfl⟩ := outcome_lift_ok.1 h₂
      obtain ⟨e, st₃, h₃, h⟩ := outcome_bind_ok.1 h
      obtain ⟨he, rfl⟩ := outcome_lift_ok.1 h₃
      obtain ⟨k, st₄, h₄, h⟩ := outcome_bind_ok.1 h
      obtain ⟨hk, rfl⟩ := outcome_lift_ok.1 h₄
      exact ⟨out, f, src, e, k, hout, hf, hsrc, he, hk, h⟩
  · rintro ⟨out, f, src, e, k, hout, hf, hsrc, he, hk, h⟩
    rw [outcome_bind, outcome_lift, hout]
    simp only [hf]
    rw [outcome_bind, outcome_lift, hsrc]
    dsimp only
    rw [outcome_bind, outcome_lift, he]
    dsimp only
    rw [outcome_bind, outcome_lift, hk]
    exact h

theorem grows_arrayOpNode (output body reduce source container : Value) :
    Grows (arrayOpNode output body reduce source container) := by
  refine (Steady.lift _).grows.bind fun out => ?_
  split
  · exact (Steady.refuse _).grows
  · refine (Steady.lift _).grows.bind fun src => (Steady.lift _).grows.bind fun e => ?_
    exact (Steady.lift _).grows.bind fun k => grows_indexed _ _ _ _ _ _

theorem grows_arrayOp (output body reduce source container : Value) :
    Grows (arrayOp output body reduce source container) := by
  refine (grows_arrayOpNode output body reduce source container).bind fun n => ?_
  exact ((steady_shapeOf _).bind fun _ => (Steady.record _).bind fun _ => Steady.pure _).grows

theorem outcome_arrayOp {output body reduce source container : Value} {n : Node} {st st₁ : Store} {info : ShapeInfo}
    (h : outcome (arrayOpNode output body reduce source container) st = (.ok n, st₁))
    (hs : st₁.slots.shapeOf (.node n) = .ok info) :
    ∃ st', outcome (arrayOp output body reduce source container) st = (.ok n, st') ∧ st'.slots = st₁.slots ∧
      st'.next = st₁.next := by
  unfold arrayOp
  rw [outcome_bind_of_ok h, outcome_bind, outcome_shapeOf, hs]
  exact ⟨_, rfl, rfl, rfl⟩

theorem arrayOp_ok {output body reduce source container : Value} {n : Node} {st st' : Store}
    (h : outcome (arrayOp output body reduce source container) st = (.ok n, st')) :
    ∃ st₁, outcome (arrayOpNode output body reduce source container) st = (.ok n, st₁) ∧ st'.slots = st₁.slots ∧
      st'.next = st₁.next := by
  unfold arrayOp at h
  obtain ⟨n', st₁, h₁, h⟩ := outcome_bind_ok.1 h
  obtain ⟨info, st₂, h₂, h⟩ := outcome_bind_ok.1 h
  rw [outcome_bind_of_ok (outcome_record _ _)] at h
  obtain ⟨rfl, rfl⟩ := outcome_pure_ok.1 h
  rw [outcome_shapeOf] at h₂
  obtain ⟨-, rfl⟩ := Prod.mk.inj h₂
  exact ⟨st₁, h₁, rfl, rfl⟩

/-! ## Callables as rules

A registry may hold anything that can be called.  Called as a rule, it may build nodes on the way, but only by the
constructors above. -/

theorem grows_binary (p : Primitive) (l r : Value) : Grows (binary p l r) := by
  have happly : Grows (do return Value.node (← apply .builtin (.callable (.primitive p)) [l, r])) :=
    (grows_apply RuleBook.builtin_grows _ _).bind fun _ => (Steady.pure _).grows
  have hview : Grows (View.matmul l r) :=
    (grows_apply RuleBook.builtin_grows _ _).bind fun _ => (Steady.pure _).grows
  unfold binary
  split
  · exact Grows.ite hview (Steady.throw _).grows
  · exact Grows.ite hview (Steady.throw _).grows
  · exact Grows.ite happly (Steady.throw _).grows
  · exact Grows.ite happly (Steady.throw _).grows
  · exact (Steady.lift _).grows

theorem grows_unary (p : Primitive) (v : Value) : Grows (unary p v) := by
  unfold unary
  split
  · exact (grows_apply RuleBook.builtin_grows _ _).bind fun _ => (Steady.pure _).grows
  · exact (Steady.lift _).grows

theorem grows_subscript (v key : Value) : Grows (subscript v key) := by
  unfold subscript
  split
  · exact (grows_index _ _).bind fun _ => (Steady.pure _).grows
  · exact (grows_index _ _).bind fun _ => (Steady.pure _).grows
  · exact (Steady.lift _).grows

theorem grows_callPrimitive (p : Primitive) (args : List Value) : Grows (callPrimitive p args) := by
  unfold callPrimitive
  split
  case h_9 | h_10 | h_11 => exact grows_unary _ _
  case h_12 => exact grows_subscript _ _
  case h_18 => exact (Steady.pure _).grows
  case h_19 => exact ((Steady.lift _).bind fun _ => Steady.pure _).grows
  case h_20 => exact (Steady.throw _).grows
  all_goals first | exact grows_binary _ _ _ | exact (Steady.lift _).grows

theorem grows_callFamily (f : Family) (args : List Value) : Grows (callFamily f args) := by
  unfold callFamily
  split
  · exact (Steady.pure _).grows
  · exact (Steady.pure _).grows
  · exact ((Steady.lift _).bind fun _ => Steady.pure _).grows
  · refine Grows.bind ?_ fun _ => (Steady.pure _).grows
    unfold callArrayOp
    split
    · exact grows_arrayOpNode _ _ _ _ _
    · exact grows_arrayOpNode _ _ _ _ _
    · exact grows_arrayOpNode _ _ _ _ _
    · exact grows_arrayOpNode _ _ _ _ _
    · exact (Steady.throw _).grows
  · exact (Steady.slots.bind fun _ => Steady.lift _).grows

theorem grows_call (args : List Value) : ∀ f : Callable, Grows (call args f)
  | .primitive p => grows_callPrimitive p args
  | .family f => grows_callFamily f args
  | .elementwise f _ => grows_call args f
  | .rule r => by
    cases args with
    | nil => exact (Steady.throw _).grows
    | cons op rest => exact (Steady.slots.bind fun _ => Steady.lift _).grows
  | .answer _ _ v => by
    cases args with
    | nil => exact (Steady.throw _).grows
    | cons op rest => exact (Steady.pure _).grows
  | .reader _ _ r => by
    cases args with
    | nil => exact (Steady.throw _).grows
    | cons op rest => exact (Steady.slots.bind fun _ => Steady.lift _).grows
  | .scaled .. | .unhashable .. | .thunk _ => (Steady.throw _).grows

end Build

theorem Callable.toRule_grows (op : Value) (args : List Value) :
    ∀ f : Callable, Build.Grows ((f.toRule Rule.ofCallable).respond op args)
  | .rule _ | .answer .. | .reader .. => (Build.Steady.slots.bind fun _ => Build.Steady.lift _).grows
  | .elementwise f _ => toRule_grows op args f
  | .primitive _ | .family _ | .scaled .. | .unhashable .. | .thunk _ => Build.grows_call _ _

/-- **The rules of every registry grow the store.** -/
theorem Registry.book_grows (r : Registry) : r.book.Grows := by
  intro kind op n rule hr args
  obtain ⟨f, -, rfl⟩ := Option.map_eq_some_iff.1 hr
  exact f.toRule_grows op args

end ArrayTyping

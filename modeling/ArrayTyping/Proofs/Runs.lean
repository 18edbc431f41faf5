import ArrayTyping.Proofs.Ranks
/-!
# Runs — constructors called one after the other

A run starts with nothing built and calls constructors in any order, each over nodes that the run has produced by then.
A call that is refused ends nothing: what it has built on the way stays in the store.  All that the run produces is held
by the store it has reached, so declared rank and shape agree on every node of it.
-/
namespace ArrayTyping

open Build (outcome Steady Grows Holding)

/-- The rules a client may hand in: the library's own, a registry, or any functions that read the operands and answer
whatever they like. -/
inductive Rules where
  | builtin
  | registry (r : Registry)
  | functions (f : RuleKind → Value → Nat → Option RuleFn)

namespace Rules

def book : Rules → RuleBook
  | builtin => .builtin
  | registry r => r.book
  | functions f => ⟨fun kind op n => (f kind op n).map Rule.reading⟩

theorem book_grows : ∀ rules : Rules, rules.book.Grows
  | builtin => RuleBook.builtin_grows
  | registry r => r.book_grows
  | functions f => by
    refine RuleBook.grows_of_reading fun kind op n rule h => ?_
    obtain ⟨g, -, rfl⟩ := Option.map_eq_some_iff.1 h
    exact ⟨g, rfl⟩

end Rules

inductive Call where
  | indexSymbols (names : List Value)
  | scalarSymbol (name dtype : Value)
  | arraySymbol (name shape dtype rank container : Value)
  | constant (v : Value)
  | rawSymbol (name type : Value)
  | rawTerm (op args type : Value)
  | rawConstant (v : Value)
  | arrayTerm (rules : Rules) (op : Value) (args : List Value)
  | apply (rules : Rules) (op : Value) (args : List Value)
  | elementwise (rules : Rules) (f : Value) (args : List Value)
  | matmul (rules : Rules) (left right : Value)
  | transpose (rules : Rules) (v : Value)
  | index (array key : Value)
  | arrayOp (output body reduce source container : Value)

namespace Call

def perform : Call → Build (List Node)
  | indexSymbols names => do return (← Build.indexSymbols names).map .symbol
  | scalarSymbol name dtype => do return [.symbol (← Build.scalarSymbol name dtype)]
  | arraySymbol name shape dtype rank container => do
    return [.symbol (← Build.arraySymbol name shape dtype rank container)]
  | constant v => do return [← Build.constant v]
  | rawSymbol name type => do return [.symbol (← Build.rawSymbol name type)]
  | rawTerm op args type => do return [← Build.rawTerm op args type]
  | rawConstant v => do return [← Build.rawConstant v]
  | arrayTerm rules op args => do return [← Build.arrayTerm rules.book op args]
  | apply rules op args => do return [← Build.apply rules.book op args]
  | elementwise rules f args => do return [← Build.elementwise rules.book f args]
  | matmul rules left right => do return [← Build.matmul rules.book left right]
  | transpose rules v => do return [← Build.transpose rules.book v]
  | index array key => do return [← Build.index array key]
  | arrayOp output body reduce source container => do return [← Build.arrayOp output body reduce source container]

def given : Call → List Node
  | indexSymbols names => nodesOfAll names
  | scalarSymbol name dtype => name.nodes ++ dtype.nodes
  | arraySymbol name shape dtype rank container => nodesOfAll [name, shape, dtype, rank, container]
  | constant v => v.nodes
  | rawSymbol name type => name.nodes ++ type.nodes
  | rawTerm op args type => op.nodes ++ args.nodes ++ type.nodes
  | rawConstant v => v.nodes
  | arrayTerm _ op args => op.nodes ++ nodesOfAll args
  | apply _ op args => op.nodes ++ nodesOfAll args
  | elementwise _ f args => f.nodes ++ nodesOfAll args
  | matmul _ left right => nodesOfAll [left, right]
  | transpose _ v => nodesOfAll [v]
  | index array key => array.nodes ++ key.nodes
  | arrayOp output body reduce source container =>
    output.nodes ++ body.nodes ++ reduce.nodes ++ source.nodes ++ container.nodes

/-- Whether an answer of the call is an array term: always, or where it is an array at all. -/
def makesArrayTerm (n : Node) : Call → Bool
  | arrayTerm .. => true
  | apply .. => n.isArray
  | elementwise .. => n.isArray
  | matmul .. => n.isArray
  | transpose .. => n.isArray
  | _ => false

theorem perform_grows : ∀ c : Call, Grows c.perform
  | indexSymbols _ => ((Build.steady_indexSymbols _).bind fun _ => Steady.pure _).grows
  | scalarSymbol .. => ((Build.steady_scalarSymbol _ _).bind fun _ => Steady.pure _).grows
  | arraySymbol .. => (Build.grows_arraySymbol _ _ _ _ _).bind fun _ => (Steady.pure _).grows
  | constant _ => (Build.grows_constant _).bind fun _ => (Steady.pure _).grows
  | rawSymbol .. => ((Build.steady_rawSymbol _ _).bind fun _ => Steady.pure _).grows
  | rawTerm .. => ((Build.steady_rawTerm _ _ _).bind fun _ => Steady.pure _).grows
  | rawConstant _ => ((Build.steady_rawConstant _).bind fun _ => Steady.pure _).grows
  | arrayTerm rules .. => (Build.grows_arrayTerm rules.book_grows _ _).bind fun _ => (Steady.pure _).grows
  | apply rules .. => (Build.grows_apply rules.book_grows _ _).bind fun _ => (Steady.pure _).grows
  | elementwise rules .. => (Build.grows_elementwise rules.book_grows _ _).bind fun _ => (Steady.pure _).grows
  | matmul rules .. => (Build.grows_apply rules.book_grows _ _).bind fun _ => (Steady.pure _).grows
  | transpose rules _ => (Build.grows_apply rules.book_grows _ _).bind fun _ => (Steady.pure _).grows
  | index .. => (Build.grows_index _ _).bind fun _ => (Steady.pure _).grows
  | arrayOp .. => (Build.grows_arrayOp _ _ _ _ _).bind fun _ => (Steady.pure _).grows

theorem answer_of_constructor {α : Type} {x : Build α} {f : α → List Node} {P : List Node → Store → Prop}
    {st st' : Store} {ns : List Node} (h : outcome (do return f (← x)) st = (.ok ns, st'))
    (hP : ∀ a, outcome x st = (.ok a, st') → P (f a) st') : P ns st' := by
  obtain ⟨a, st₁, h₁, h⟩ := Build.outcome_bind_ok.1 h
  obtain ⟨rfl, rfl⟩ := Build.outcome_pure_ok.1 h
  exact hP a h₁

/-- The nodes of an answer are held, and the array terms among them are finished. -/
structure Answered (c : Call) (ns : List Node) (st : Store) : Prop where
  held : ∀ n ∈ ns.flatMap Node.nodes, st.Holds n
  finished : ∀ n ∈ ns, c.makesArrayTerm n = true → n.Finished st.slots

theorem answered_of_held {c : Call} {n : Node} {st : Store} (hn : ∀ m ∈ n.nodes, st.Holds m)
    (hf : c.makesArrayTerm n = true → n.Finished st.slots) : c.Answered [n] st where
  held m hm := by
    rw [List.flatMap_cons, List.flatMap_nil, List.append_nil] at hm
    exact hn m hm
  finished m hm := by
    rw [List.mem_singleton.1 hm]
    exact hf

/-- **One call**: over nodes that the store holds it answers with nodes that the store holds then. -/
theorem answered {c : Call} {ns : List Node} {st st' : Store} (hw : st.WellFormed) (hg : ∀ n ∈ c.given, st.Holds n)
    (h : outcome c.perform st = (.ok ns, st')) : c.Answered ns st' := by
  have none : ∀ n ∈ [], st.Holds n := fun n hn => nomatch hn
  cases c with
  | indexSymbols names =>
    refine answer_of_constructor h fun ss hs => ⟨fun n hn => ?_, fun n _ ht => nomatch ht⟩
    rw [List.flatMap_map] at hn
    exact Build.holding_indexSymbols names st st' ss hw none hs n hn
  | scalarSymbol name dtype =>
    refine answer_of_constructor h fun s hs => answered_of_held ?_ (nomatch ·)
    exact Build.holding_scalarSymbol name dtype st st' s hw none hs
  | arraySymbol name shape dtype rank container =>
    refine answer_of_constructor h fun s hs => answered_of_held ?_ (nomatch ·)
    exact Build.holding_arraySymbol name shape dtype rank container st st' s hw none hs
  | constant v =>
    refine answer_of_constructor h fun n hn => answered_of_held ?_ (nomatch ·)
    exact Build.holding_constant v st st' n hw none hn
  | rawSymbol name type =>
    refine answer_of_constructor h fun s hs => answered_of_held ?_ (nomatch ·)
    exact Build.holding_rawSymbol name type st st' s hw none hs
  | rawTerm op args type =>
    refine answer_of_constructor h fun n hn => answered_of_held ?_ (nomatch ·)
    exact Build.holding_rawTerm op args type st st' n hw (fun m hm => hg m (List.mem_append_left _ hm)) hn
  | rawConstant v =>
    refine answer_of_constructor h fun n hn => answered_of_held ?_ (nomatch ·)
    exact Build.holding_rawConstant v st st' n hw none hn
  | arrayTerm rules op args =>
    refine answer_of_constructor h fun n hn => ?_
    obtain ⟨hheld, hfin⟩ := Build.holds_arrayTerm rules.book_grows hw hg hn
    exact answered_of_held hheld fun _ => hfin
  | apply rules op args =>
    refine answer_of_constructor h fun n hn => ?_
    obtain ⟨hheld, hfin⟩ := Build.holds_apply rules.book_grows hw hg hn
    exact answered_of_held hheld hfin
  | elementwise rules f args =>
    refine answer_of_constructor h fun n hn => ?_
    obtain ⟨hheld, hfin⟩ := Build.holds_elementwise rules.book_grows hw hg hn
    exact answered_of_held hheld hfin
  | matmul rules left right =>
    refine answer_of_constructor h fun n hn => ?_
    have hg : ∀ m ∈ (Value.callable (.primitive .matmul)).nodes ++ nodesOfAll [left, right], st.Holds m := hg
    obtain ⟨hheld, hfin⟩ := Build.holds_apply rules.book_grows hw hg hn
    exact answered_of_held hheld hfin
  | transpose rules v =>
    refine answer_of_constructor h fun n hn => ?_
    have hg : ∀ m ∈ (Value.callable (.primitive .transpose)).nodes ++ nodesOfAll [v], st.Holds m := hg
    obtain ⟨hheld, hfin⟩ := Build.holds_apply rules.book_grows hw hg hn
    exact answered_of_held hheld hfin
  | index array key =>
    refine answer_of_constructor h fun n hn => answered_of_held ?_ (nomatch ·)
    exact Build.holding_index array key st st' n hw hg hn
  | arrayOp output body reduce source container =>
    refine answer_of_constructor h fun n hn => answered_of_held ?_ (nomatch ·)
    refine Build.holding_arrayOp output body reduce source container st st' n hw (fun m hm => hg m ?_) hn
    exact List.mem_append_left _ hm

end Call

structure Entry where
  call : Call
  answer : Except Fault (List Node)

namespace Entry

/-- The nodes that the call has answered with, and all that occur in them. -/
def produced (e : Entry) : List Node :=
  match e.answer with
  | .ok ns => ns.flatMap Node.nodes
  | .error _ => []

end Entry

def produced (history : List Entry) : List Node := history.flatMap Entry.produced

/-- The stores and histories that runs of constructors lead to: each call is over nodes that the run has produced. -/
inductive Run : Store → List Entry → Prop where
  | start : Run .empty []
  | call {st : Store} {history : List Entry} (c : Call) (h : Run st history) (hg : c.given ⊆ produced history) :
      Run (outcome c.perform st).2 (history ++ [⟨c, (outcome c.perform st).1⟩])

namespace Run

/-- The store has all that the run has produced, and the array terms among the answers are finished. -/
structure Sound (st : Store) (history : List Entry) : Prop where
  wellFormed : st.WellFormed
  held : ∀ n ∈ produced history, st.Holds n
  finished : ∀ e ∈ history, ∀ ns, e.answer = .ok ns → ∀ n ∈ ns, e.call.makesArrayTerm n = true → n.Finished st.slots

end Run

theorem Node.Finished.grown {st st' : Store} {n : Node} (h : n.Finished st.slots) (hid : n.id < st.next)
    (hg : st.Grown st') : n.Finished st'.slots := by
  refine ⟨h.1, ?_⟩
  rw [Slots.hasShape_congr (hg.kept _ hid)]
  exact h.2

theorem mem_produced_of_answer {history : List Entry} {e : Entry} {ns : List Node} {n : Node} (he : e ∈ history)
    (hns : e.answer = .ok ns) (hn : n ∈ ns) : n ∈ produced history := by
  refine List.mem_flatMap.2 ⟨e, he, ?_⟩
  rw [Entry.produced, hns]
  exact List.mem_flatMap.2 ⟨n, hn, n.mem_nodes_self⟩

namespace Run

theorem Sound.call {st : Store} {history : List Entry} (hs : Sound st history) {c : Call}
    (hg : c.given ⊆ produced history) :
    Sound (outcome c.perform st).2 (history ++ [⟨c, (outcome c.perform st).1⟩]) := by
  have hgrown := c.perform_grows st hs.wellFormed
  have hnew : ∀ ns, (outcome c.perform st).1 = .ok ns → c.Answered ns (outcome c.perform st).2 := fun ns hns =>
    Call.answered hs.wellFormed (fun n hn => hs.held n (hg hn)) (by rw [← hns])
  refine ⟨hgrown.wellFormed, fun n hn => ?_, fun e he ns hns n hn ht => ?_⟩
  · rw [produced, List.flatMap_append] at hn
    rcases List.mem_append.1 hn with hn | hn
    · exact (hs.held n hn).grown hgrown
    · rw [List.flatMap_cons, List.flatMap_nil, List.append_nil, Entry.produced] at hn
      split at hn
      · rename_i ns hns
        exact (hnew ns hns).held n hn
      · cases hn
  · rcases List.mem_append.1 he with he | he
    · exact (hs.finished e he ns hns n hn ht).grown (hs.held n (mem_produced_of_answer he hns hn)).id_lt hgrown
    · obtain rfl := List.mem_singleton.1 he
      exact (hnew ns hns).finished n hn ht

theorem sound {st : Store} {history : List Entry} (h : Run st history) : Sound st history := by
  induction h with
  | start => exact ⟨Store.empty_wellFormed, fun n hn => (nomatch hn), fun e he => (nomatch he)⟩
  | call c _ hg ih => exact ih.call hg

/-- **Declared rank and shape agree on every node of every run**, whatever rules were handed in: a scalar has the
empty shape, an array whose shape is known has a declared rank, which is the number of its axes, and an array by index
notation has the rank of its output and a written slot.  Every array term that was answered has a rank and a written
slot. -/
theorem rank_eq_shape_rank {st : Store} {history : List Entry} (h : Run st history) :
    (∀ n ∈ produced history, n.Ranked st.slots) ∧
      ∀ e ∈ history, ∀ ns, e.answer = .ok ns → ∀ n ∈ ns, e.call.makesArrayTerm n = true → n.Finished st.slots :=
  ⟨fun n hn => (h.sound.held n hn).ranked, h.sound.finished⟩

/-- A constant with two dimensions, transposed by the library's rules and then squashed by rules of the client's own,
which answer with a rank and leave the shape open. -/
theorem rank_eq_shape_rank_squashed :
    ∃ st history, Run st history ∧ history.map (fun e => e.answer.isOk) = [true, true, true] ∧
      (∀ n ∈ produced history, n.Ranked st.slots) ∧
      ∀ e ∈ history, ∀ ns, e.answer = .ok ns → ∀ n ∈ ns, e.call.makesArrayTerm n = true → n.Finished st.slots := by
  let a : ConcreteArray := ⟨Mark.unmarked, [some 2, some 3], some (.native .bool), .filled (.int 0)⟩
  let squashing : Rules := .functions fun
    | .ndims, _, _ => some fun _ _ _ => .ok (.ofInt 7)
    | .shape, _, _ => some fun _ _ _ => .ok .unknown
  have h₁ := Run.call (.constant (.array a)) .start (List.nil_subset _)
  have h₂ := h₁.call (.transpose .builtin (.node (.constant Mark.first (.array a) (Mark.first + 1)))) fun n hn => hn
  have h₃ := h₂.call (.arrayTerm squashing (.callable (.primitive .det))
    [.node (.constant Mark.first (.array a) (Mark.first + 1))]) fun n hn => List.mem_append_left _ hn
  exact ⟨_, _, h₃, by decide +kernel, rank_eq_shape_rank h₃⟩

end Run

end ArrayTyping

import ArrayTyping.Application
import ArrayTyping.ArrayOp
import ArrayTyping.Proofs.Keeping
import ArrayTyping.Proofs.Outcome
/-!
# Nodes — the nodes that occur in a value

A value holds nodes directly, as operands of other nodes, in containers and in what an operator carries.  `Value.nodes`
lists them all.  Nothing that takes a value apart or keeps it brings in a node that was not there: the items, keys,
output entries and sources read off a value have only nodes of that value, and a kept value has the same ones.
-/
namespace ArrayTyping

namespace OutputIndex

def nodes : OutputIndex → List Node
  | .literal _ _ => []
  | .symbol s => [.symbol s]

end OutputIndex

mutual

def Value.nodes : Value → List Node
  | .list items _ => nodesOfAll items
  | .tuple items _ => nodesOfAll items
  | .dict entries _ => nodesOfEntries entries
  | .slice start stop step _ => start.nodes ++ stop.nodes ++ step.nodes
  | .callable f => f.nodes
  | .node n => n.nodes
  | .occurrence array dimension _ => array.nodes ++ dimension.nodes
  | .view n _ => n.nodes
  | .space axes _ => axes.nodes
  | .iterator source _ => source.nodes
  | _ => []
termination_by structural v => v

def nodesOfAll : List Value → List Node
  | [] => []
  | v :: vs => v.nodes ++ nodesOfAll vs
termination_by structural vs => vs

def nodesOfEntries : List (Value × Value) → List Node
  | [] => []
  | (k, v) :: es => k.nodes ++ v.nodes ++ nodesOfEntries es
termination_by structural es => es

/-- A node and the nodes that occur in it. -/
def Node.nodes : Node → List Node
  | .symbol s => [.symbol s]
  | .term id op args argsMark t typeMark => .term id op args argsMark t typeMark :: (op.nodes ++ nodesOfAll args)
  | .constant id d typeMark => [.constant id d typeMark]
  | .arrayOp id output outputMark body reduce source k e typeMark =>
    .arrayOp id output outputMark body reduce source k e typeMark ::
      (output.flatMap OutputIndex.nodes ++ body.nodes ++ reduce.nodes ++ nodesOfSource source)
termination_by structural n => n

def nodesOfSource : Option Node → List Node
  | .none => []
  | .some n => n.nodes
termination_by structural n => n

def Callable.nodes : Callable → List Node
  | .scaled k _ => k.nodes
  | .unhashable k _ => k.nodes
  | .elementwise f _ => f.nodes
  | .answer _ _ v => v.nodes
  | _ => []
termination_by structural f => f

end

theorem nodesOfAll_eq (vs : List Value) : nodesOfAll vs = vs.flatMap Value.nodes := by
  induction vs with
  | nil => rfl
  | cons v vs ih => rw [nodesOfAll, ih, List.flatMap_cons]

theorem mem_nodesOfAll {n : Node} {vs : List Value} : n ∈ nodesOfAll vs ↔ ∃ v ∈ vs, n ∈ v.nodes := by
  rw [nodesOfAll_eq, List.mem_flatMap]

theorem Node.mem_nodes_self (n : Node) : n ∈ n.nodes := by
  cases n <;> simp [Node.nodes]

/-! ## What is kept -/

mutual

/-- **A kept value has the nodes it had.** -/
theorem Value.kept_nodes : ∀ v : Value, Keeps v.kept fun w => w.nodes = v.nodes
  | .none | .bool _ | .unknown | .kind _ | .code _ | .object _ | .node _ | .registry _ => Keeps.pure rfl
  | .int _ m => (Keeps.given m).bind fun _ _ => Keeps.pure rfl
  | .float _ m => (Keeps.given m).bind fun _ _ => Keeps.pure rfl
  | .complex _ _ m => (Keeps.given m).bind fun _ _ => Keeps.pure rfl
  | .scalar _ m => (Keeps.given m).bind fun _ _ => Keeps.pure rfl
  | .text _ m => (Keeps.given m).bind fun _ _ => Keeps.pure rfl
  | .list items m => by
    rw [Value.kept]
    split
    · exact (keptAll_nodes items).bind fun ws hws => (Keeps.given m).bind fun _ _ => Keeps.pure hws
    · exact Keeps.pure rfl
  | .tuple items m => by
    rw [Value.kept]
    split
    · exact (keptAll_nodes items).bind fun ws hws => (Keeps.given m).bind fun _ _ => Keeps.pure hws
    · exact Keeps.pure rfl
  | .dict entries m => by
    rw [Value.kept]
    split
    · exact (keptEntries_nodes entries).bind fun es hes => (Keeps.given m).bind fun _ _ => Keeps.pure hes
    · exact Keeps.pure rfl
  | .range a => (a.kept_plain).bind fun _ _ => Keeps.pure rfl
  | .slice start stop step m => by
    rw [Value.kept]
    split
    · refine (Value.kept_nodes start).bind fun a ha => (Value.kept_nodes stop).bind fun b hb => ?_
      refine (Value.kept_nodes step).bind fun c hc => (Keeps.given m).bind fun _ _ => Keeps.pure ?_
      rw [Value.nodes, Value.nodes, ha, hb, hc]
    · exact Keeps.pure rfl
  | .shape s => (s.kept_plain).bind fun _ _ => Keeps.pure rfl
  | .dtype d => (d.kept_plain).bind fun _ _ => Keeps.pure rfl
  | .type t m => (t.kept_plain).bind fun _ _ => (Keeps.given m).bind fun _ _ => Keeps.pure rfl
  | .array a => (Keeps.given a.mark).bind fun _ _ => Keeps.pure rfl
  | .callable f => (Callable.kept_nodes f).bind fun g hg => Keeps.pure hg
  | .occurrence array dimension m => by
    rw [Value.kept]
    split
    · refine (Value.kept_nodes array).bind fun a ha => (Value.kept_nodes dimension).bind fun d hd => ?_
      refine (Keeps.given m).bind fun _ _ => Keeps.pure ?_
      rw [Value.nodes, Value.nodes, ha, hd]
    · exact Keeps.pure rfl
  | .view _ m => (Keeps.given m).bind fun _ _ => Keeps.pure rfl
  | .space axes m => by
    rw [Value.kept]
    split
    · exact (Value.kept_nodes axes).bind fun a ha => (Keeps.given m).bind fun _ _ => Keeps.pure ha
    · exact Keeps.pure rfl
  | .diagnostic _ m => (Keeps.given m).bind fun _ _ => Keeps.pure rfl
  | .iterator source m => by
    rw [Value.kept]
    split
    · exact (Value.kept_nodes source).bind fun a ha => (Keeps.given m).bind fun _ _ => Keeps.pure ha
    · exact Keeps.pure rfl
termination_by structural v => v

theorem keptAll_nodes : ∀ vs : List Value, Keeps (keptAll vs) fun ws => nodesOfAll ws = nodesOfAll vs
  | [] => Keeps.pure rfl
  | v :: vs => by
    rw [keptAll]
    refine (Value.kept_nodes v).bind fun w hw => (keptAll_nodes vs).bind fun ws hws => Keeps.pure ?_
    rw [nodesOfAll, nodesOfAll, hw, hws]
termination_by structural vs => vs

theorem keptEntries_nodes :
    ∀ es : List (Value × Value), Keeps (keptEntries es) fun fs => nodesOfEntries fs = nodesOfEntries es
  | [] => Keeps.pure rfl
  | (k, v) :: es => by
    rw [keptEntries]
    refine (Value.kept_nodes k).bind fun l hl => (Value.kept_nodes v).bind fun w hw => ?_
    refine (keptEntries_nodes es).bind fun fs hfs => Keeps.pure ?_
    rw [nodesOfEntries, nodesOfEntries, hl, hw, hfs]
termination_by structural es => es

theorem Callable.kept_nodes : ∀ f : Callable, Keeps f.kept fun g => g.nodes = f.nodes
  | .primitive _ | .family _ | .thunk _ | .rule _ | .answer .. | .reader .. => Keeps.pure rfl
  | .scaled k m => by
    rw [Callable.kept]
    split
    · exact (Value.kept_nodes k).bind fun w hw => (Keeps.given m).bind fun _ _ => Keeps.pure hw
    · exact Keeps.pure rfl
  | .unhashable k m => by
    rw [Callable.kept]
    split
    · exact (Value.kept_nodes k).bind fun w hw => (Keeps.given m).bind fun _ _ => Keeps.pure hw
    · exact Keeps.pure rfl
  | .elementwise f m => by
    rw [Callable.kept]
    split
    · exact (Callable.kept_nodes f).bind fun g hg => (Keeps.given m).bind fun _ _ => Keeps.pure hg
    · exact Keeps.pure rfl
termination_by structural f => f

end

theorem OutputIndex.kept_nodes (i : OutputIndex) : Keeps i.kept fun j => j.nodes = i.nodes := by
  cases i with
  | literal n m => exact (Keeps.given m).bind fun _ _ => Keeps.pure rfl
  | symbol s => exact Keeps.pure rfl

theorem OutputIndex.keptAll_nodes (is : List OutputIndex) :
    Keeps (is.mapM OutputIndex.kept) fun js =>
      js.length = is.length ∧ js.flatMap OutputIndex.nodes = is.flatMap OutputIndex.nodes := by
  refine (Keeps.mapM OutputIndex.kept_nodes is).imp fun js hjs => ⟨hjs.length_eq.symm, ?_⟩
  rw [List.flatMap_def, List.flatMap_def, map_eq_of_forall₂ hjs]

/-! ## What is read off a value -/

def Nodeless (vs : List Value) : Prop := ∀ v ∈ vs, v.nodes = []

theorem Nodeless.subset {vs : List Value} (h : Nodeless vs) (ns : List Node) : ∀ v ∈ vs, v.nodes ⊆ ns := by
  intro v hv
  rw [h v hv]
  exact List.nil_subset ns

theorem nodeless_map {α : Type} (f : α → Value) (hf : ∀ a, (f a).nodes = []) (as : List α) : Nodeless (as.map f) := by
  intro v hv
  obtain ⟨a, -, rfl⟩ := List.mem_map.1 hv
  exact hf a

theorem mem_of_mem_firstOf {α : Type} {limit : Option Nat} {a : α} {as : List α} (h : a ∈ firstOf limit as) :
    a ∈ as := by
  cases limit with
  | none => exact h
  | some n => exact List.mem_of_mem_take h

theorem Axis.items_nodeless {limit : Option Nat} {a : Axis} {items : List Value} (h : a.items limit = .ok items) :
    Nodeless items := by
  unfold Axis.items at h
  split at h
  · cases h
    exact nodeless_map _ (fun _ => rfl) _
  · cases h

theorem ConcreteArray.element_nodes (a : ConcreteArray) : a.element.nodes = [] := by
  unfold ConcreteArray.element
  split
  · rfl
  · rfl
  · cases a.fill <;> rfl

theorem ConcreteArray.rows_nodeless {a : ConcreteArray} {rows : List Value} (h : a.rows = .ok rows) :
    Nodeless rows := by
  unfold ConcreteArray.rows at h
  split at h
  · cases h
    intro v hv
    rw [List.eq_of_mem_replicate hv]
    unfold ConcreteArray.part
    split
    · exact a.element_nodes
    · rfl
  · cases h

theorem characters_nodeless (s : String) : Nodeless (characters s) := nodeless_map _ (fun _ => rfl) _

theorem IndexSpace.mem_of_mem_tuples {α : Type} {i : α} : ∀ {pools : List (List α)} {t : List α},
    t ∈ IndexSpace.tuples pools → i ∈ t → ∃ pool ∈ pools, i ∈ pool
  | [], t, ht, hi => by
    rw [IndexSpace.tuples, List.mem_singleton] at ht
    rw [ht] at hi
    cases hi
  | pool :: pools, t, ht, hi => by
    rw [IndexSpace.tuples] at ht
    obtain ⟨j, hj, ht⟩ := List.mem_flatMap.1 ht
    obtain ⟨u, hu, rfl⟩ := List.mem_map.1 ht
    rcases List.mem_cons.1 hi with rfl | hi
    · exact ⟨pool, List.mem_cons_self, hj⟩
    · obtain ⟨q, hq, hi⟩ := mem_of_mem_tuples hu hi
      exact ⟨q, List.mem_cons_of_mem _ hq, hi⟩

theorem IndexSpace.mem_of_mem_firstTuples {α : Type} {i : α} {limit : Nat} : ∀ {pools : List (List α)} {t : List α},
    t ∈ IndexSpace.firstTuples limit pools → i ∈ t → ∃ pool ∈ pools, i ∈ pool
  | [], t, ht, hi => by
    rw [IndexSpace.firstTuples] at ht
    rw [List.mem_singleton.1 (List.mem_of_mem_take ht)] at hi
    cases hi
  | pool :: pools, t, ht, hi => by
    rw [IndexSpace.firstTuples] at ht
    obtain ⟨j, hj, ht⟩ := List.mem_flatMap.1 (List.mem_of_mem_take ht)
    obtain ⟨u, hu, rfl⟩ := List.mem_map.1 ht
    rcases List.mem_cons.1 hi with rfl | hi
    · exact ⟨pool, List.mem_cons_self, List.mem_of_mem_take hj⟩
    · obtain ⟨q, hq, hi⟩ := mem_of_mem_firstTuples hu hi
      exact ⟨q, List.mem_cons_of_mem _ hq, hi⟩

theorem mem_of_mem_tuplesOver {limit : Option Nat} {pools : List (List Value)} {t : List Value} {v : Value}
    (ht : t ∈ tuplesOver limit pools) (hv : v ∈ t) : ∃ pool ∈ pools, v ∈ pool := by
  cases limit with
  | none => exact IndexSpace.mem_of_mem_tuples ht hv
  | some n => exact IndexSpace.mem_of_mem_firstTuples ht hv

theorem nodes_subset_nodesOfAll {v : Value} {vs : List Value} (h : v ∈ vs) : v.nodes ⊆ nodesOfAll vs :=
  fun _ hn => mem_nodesOfAll.2 ⟨v, h, hn⟩

theorem nodes_subset_nodesOfEntries {k v : Value} : ∀ {es : List (Value × Value)}, (k, v) ∈ es →
    k.nodes ⊆ nodesOfEntries es
  | (l, w) :: es, h, n, hn => by
    rw [nodesOfEntries]
    rcases List.mem_cons.1 h with h | h
    · obtain ⟨rfl, rfl⟩ := Prod.mk.inj h
      exact List.mem_append_left _ (List.mem_append_left _ hn)
    · exact List.mem_append_right _ (nodes_subset_nodesOfEntries h hn)

mutual

/-- **What a value iterates over has only nodes of that value.** -/
theorem Value.firstItems_nodes : ∀ (v : Value) (limit : Option Nat) (items : List Value),
    v.firstItems limit = .ok items → ∀ w ∈ items, w.nodes ⊆ v.nodes
  | .list items _, limit, _, h, w, hw => by
    cases h
    exact nodes_subset_nodesOfAll (mem_of_mem_firstOf hw)
  | .tuple items _, limit, _, h, w, hw => by
    cases h
    exact nodes_subset_nodesOfAll (mem_of_mem_firstOf hw)
  | .dict entries _, limit, _, h, w, hw => by
    cases h
    obtain ⟨⟨k, v⟩, he, rfl⟩ := List.mem_map.1 (mem_of_mem_firstOf hw)
    exact nodes_subset_nodesOfEntries he
  | .range a, limit, _, h, w, hw => (Axis.items_nodeless h).subset _ w hw
  | .shape s, limit, _, h, w, hw => by
    cases h
    exact (nodeless_map _ (fun _ => rfl) s.axes).subset _ w (mem_of_mem_firstOf hw)
  | .space axes _, limit, _, h, w, hw => by
    rw [Value.firstItems] at h
    obtain ⟨pools, hp, h⟩ := exceptBind_ok.1 h
    rw [← exceptPure_ok.1 h] at hw
    obtain ⟨t, ht, rfl⟩ := List.mem_map.1 hw
    intro n hn
    obtain ⟨x, hx, hn⟩ := mem_nodesOfAll.1 hn
    obtain ⟨pool, hpool, hx⟩ := mem_of_mem_tuplesOver ht hx
    exact Value.pools_nodes axes limit pools hp pool hpool x hx hn
  | .text s _, limit, _, h, w, hw => by
    cases h
    exact (characters_nodeless s).subset _ w (mem_of_mem_firstOf hw)
  | .kind k, limit, _, h, w, hw => by
    cases h
    exact (characters_nodeless _).subset _ w (mem_of_mem_firstOf hw)
  | .code c, limit, _, h, w, hw => by
    cases h
    exact (characters_nodeless _).subset _ w (mem_of_mem_firstOf hw)
  | .array a, limit, _, h, w, hw => by
    rw [Value.firstItems] at h
    obtain ⟨rows, hr, h⟩ := exceptBind_ok.1 h
    rw [← exceptPure_ok.1 h] at hw
    exact (ConcreteArray.rows_nodeless hr).subset _ w (mem_of_mem_firstOf hw)
  | .iterator source _, limit, items, h, w, hw => Value.firstItems_nodes source limit items h w hw
  | .none, _, _, h, _, _ | .bool _, _, _, h, _, _ | .int .., _, _, h, _, _ | .float .., _, _, h, _, _
  | .complex .., _, _, h, _, _ | .scalar .., _, _, h, _, _ | .slice .., _, _, h, _, _ | .unknown, _, _, h, _, _
  | .dtype _, _, _, h, _, _ | .type .., _, _, h, _, _ | .object _, _, _, h, _, _ | .callable _, _, _, h, _, _
  | .node _, _, _, h, _, _ | .occurrence .., _, _, h, _, _ | .view .., _, _, h, _, _ | .registry _, _, _, h, _, _
  | .diagnostic .., _, _, h, _, _ => by cases h
termination_by structural v => v

theorem Value.pools_nodes : ∀ (v : Value) (limit : Option Nat) (pools : List (List Value)),
    v.pools limit = .ok pools → ∀ pool ∈ pools, ∀ w ∈ pool, w.nodes ⊆ v.nodes
  | .list items _, limit, pools, h, pool, hp, w, hw => poolsOfAll_nodes items limit pools h pool hp w hw
  | .tuple items _, limit, pools, h, pool, hp, w, hw => poolsOfAll_nodes items limit pools h pool hp w hw
  | .dict entries _, limit, pools, h, pool, hp, w, hw => poolsOfKeys_nodes entries limit pools h pool hp w hw
  | .range a, limit, _, h, pool, hp, w, hw => by
    rw [Value.pools] at h
    split at h
    · cases h
      cases hp
    · cases h
  | .shape s, limit, _, h, pool, hp, w, hw => by
    obtain ⟨a, -, ha⟩ := exceptMapM_mem h pool hp
    exact (Axis.items_nodeless ha).subset _ w hw
  | .space axes _, limit, _, h, pool, hp, w, hw => by
    rw [Value.pools] at h
    obtain ⟨pools, hps, h⟩ := exceptBind_ok.1 h
    rw [← exceptPure_ok.1 h] at hp
    obtain ⟨q, hq, hw⟩ := mem_of_mem_tuplesOver hp hw
    exact Value.pools_nodes axes none pools hps q hq w hw
  | .text s _, limit, _, h, pool, hp, w, hw => by
    cases h
    obtain ⟨c, hc, rfl⟩ := List.mem_map.1 hp
    rw [List.mem_singleton] at hw
    exact (characters_nodeless s).subset _ w (hw ▸ hc)
  | .kind k, limit, _, h, pool, hp, w, hw => by
    cases h
    obtain ⟨c, hc, rfl⟩ := List.mem_map.1 hp
    rw [List.mem_singleton] at hw
    exact (characters_nodeless _).subset _ w (hw ▸ hc)
  | .code c, limit, _, h, pool, hp, w, hw => by
    cases h
    obtain ⟨d, hd, rfl⟩ := List.mem_map.1 hp
    rw [List.mem_singleton] at hw
    exact (characters_nodeless _).subset _ w (hw ▸ hd)
  | .array a, limit, _, h, pool, hp, w, hw => by
    rw [Value.pools] at h
    obtain ⟨rows, -, h⟩ := exceptBind_ok.1 h
    obtain ⟨row, -, hrow⟩ := exceptMapM_mem h pool hp
    split at hrow
    · exact (ConcreteArray.rows_nodeless hrow).subset _ w hw
    · cases hrow
  | .iterator source _, limit, pools, h, pool, hp, w, hw => Value.pools_nodes source limit pools h pool hp w hw
  | .none, _, _, h, _, _, _, _ | .bool _, _, _, h, _, _, _, _ | .int .., _, _, h, _, _, _, _
  | .float .., _, _, h, _, _, _, _ | .complex .., _, _, h, _, _, _, _ | .scalar .., _, _, h, _, _, _, _
  | .slice .., _, _, h, _, _, _, _ | .unknown, _, _, h, _, _, _, _ | .dtype _, _, _, h, _, _, _, _
  | .type .., _, _, h, _, _, _, _ | .object _, _, _, h, _, _, _, _ | .callable _, _, _, h, _, _, _, _
  | .node _, _, _, h, _, _, _, _ | .occurrence .., _, _, h, _, _, _, _ | .view .., _, _, h, _, _, _, _
  | .registry _, _, _, h, _, _, _, _ | .diagnostic .., _, _, h, _, _, _, _ => by cases h
termination_by structural v => v

theorem poolsOfAll_nodes : ∀ (vs : List Value) (limit : Option Nat) (pools : List (List Value)),
    poolsOfAll limit vs = .ok pools → ∀ pool ∈ pools, ∀ w ∈ pool, w.nodes ⊆ nodesOfAll vs
  | [], limit, _, h, pool, hp, w, hw => by
    cases h
    cases hp
  | v :: vs, limit, _, h, pool, hp, w, hw => by
    rw [poolsOfAll] at h
    obtain ⟨items, hi, h⟩ := exceptBind_ok.1 h
    obtain ⟨rest, hr, h⟩ := exceptBind_ok.1 h
    rw [← exceptPure_ok.1 h] at hp
    rw [nodesOfAll]
    intro n hn
    rcases List.mem_cons.1 hp with rfl | hp
    · exact List.mem_append_left _ (Value.firstItems_nodes v limit _ hi w hw hn)
    · exact List.mem_append_right _ (poolsOfAll_nodes vs limit rest hr pool hp w hw hn)
termination_by structural vs => vs

theorem poolsOfKeys_nodes : ∀ (es : List (Value × Value)) (limit : Option Nat) (pools : List (List Value)),
    poolsOfKeys limit es = .ok pools → ∀ pool ∈ pools, ∀ w ∈ pool, w.nodes ⊆ nodesOfEntries es
  | [], limit, _, h, pool, hp, w, hw => by
    cases h
    cases hp
  | (k, v) :: es, limit, _, h, pool, hp, w, hw => by
    rw [poolsOfKeys] at h
    obtain ⟨items, hi, h⟩ := exceptBind_ok.1 h
    obtain ⟨rest, hr, h⟩ := exceptBind_ok.1 h
    rw [← exceptPure_ok.1 h] at hp
    rw [nodesOfEntries]
    intro n hn
    rcases List.mem_cons.1 hp with rfl | hp
    · exact List.mem_append_left _ (List.mem_append_left _ (Value.firstItems_nodes k limit _ hi w hw hn))
    · exact List.mem_append_right _ (poolsOfKeys_nodes es limit rest hr pool hp w hw hn)
termination_by structural es => es

end

theorem Value.callable?_nodes {v : Value} {f : Callable} (h : v.callable? = some f) : v.nodes = f.nodes := by
  unfold Value.callable? at h
  split at h
  · cases h
    rfl
  · cases h

theorem Build.indexKey_nodes {v w : Value} (h : Build.indexKey v = .ok w) : w.nodes ⊆ v.nodes := by
  unfold Build.indexKey at h
  split at h
  · cases h
  · cases h
  · cases h
    exact List.Subset.refl _
  · split at h
    · cases h
    · cases h
      exact List.Subset.refl _
  · split at h
    · cases h
      exact List.nil_subset _
    · cases h

theorem Build.indexKeys_nodes {key k : Value} (h : k ∈ Build.indexKeys key) : k.nodes ⊆ key.nodes := by
  unfold Build.indexKeys at h
  split at h
  · exact nodes_subset_nodesOfAll h
  · exact (nodeless_map _ (fun _ => rfl) _).subset _ k h
  · rw [List.mem_singleton.1 h]
    exact List.Subset.refl _

theorem OutputIndex.ofValue_nodes {v : Value} {i : OutputIndex} (h : OutputIndex.ofValue v = .ok i) :
    i.nodes ⊆ v.nodes := by
  unfold OutputIndex.ofValue at h
  split at h
  · cases h
  · split at h
    · cases h
    · cases h
      exact List.Subset.refl _
  · cases h
    exact List.nil_subset _
  · split at h
    · cases h
      exact List.nil_subset _
    · cases h

theorem Value.toOutput_nodes {v : Value} {out : List OutputIndex} (h : v.toOutput = .ok out) :
    out.flatMap OutputIndex.nodes ⊆ v.nodes := by
  intro n hn
  obtain ⟨i, hi, hn⟩ := List.mem_flatMap.1 hn
  unfold Value.toOutput at h
  split at h
  · obtain ⟨w, hw, hwi⟩ := exceptMapM_mem h i hi
    exact nodes_subset_nodesOfAll hw (OutputIndex.ofValue_nodes hwi hn)
  · obtain ⟨w, hw, hwi⟩ := exceptMapM_mem h i hi
    exact nodes_subset_nodesOfAll hw (OutputIndex.ofValue_nodes hwi hn)
  · obtain ⟨w, hw, hwi⟩ := exceptMapM_mem h i hi
    exact (nodeless_map _ (fun _ => rfl) _).subset _ w hw (OutputIndex.ofValue_nodes hwi hn)
  · cases h

theorem Value.toSource_nodes {v : Value} {source : Option Node} (h : v.toSource = .ok source) :
    nodesOfSource source ⊆ v.nodes := by
  unfold Value.toSource at h
  split at h
  · cases h
    exact List.nil_subset _
  · cases h
    exact List.Subset.refl _
  · cases h

end ArrayTyping

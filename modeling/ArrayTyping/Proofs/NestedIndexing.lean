import ArrayTyping.Proofs.ArrayOps
/-!
# NestedIndexing — index symbols below an indexing

A key may itself be an element of an array, as in `a[b[i]]`, and so may a part of the array that is indexed.  There `i`
indexes `b`, but the walk does not go below an indexing, and never comes to it.  `positions` lists the places where a
symbol indexes an array at any depth.  What goes unnoticed is what only they tell: an array by index notation does all
that can be expected of it exactly if no position that the walk misses is in conflict with another, and no symbol has
all its positions out of reach.
-/
namespace ArrayTyping

open Build (outcome)

mutual

/-- All places in a node where a symbol is a key, below other indexings too. -/
def Node.positions : Node → List Use
  | .symbol _ => []
  | .constant _ _ _ => []
  | .term _ op args _ _ _ =>
    (if op.isGetitem then
      match args with
      | [] => []
      | array :: keys => keyUses array 1 keys
    else []) ++ positionsOfAll args
  | .arrayOp _ _ _ body _ source _ _ _ => body.positions ++ positionsOfSource source
termination_by structural n => n

def Value.positions : Value → List Use
  | .node n => n.positions
  | _ => []
termination_by structural v => v

def positionsOfAll : List Value → List Use
  | [] => []
  | v :: vs => v.positions ++ positionsOfAll vs
termination_by structural vs => vs

def positionsOfSource : Option Node → List Use
  | .none => []
  | .some n => n.positions
termination_by structural n => n

end

mutual

/-- No symbol is a key below an indexing. -/
def Node.Flat : Node → Prop
  | .symbol _ => True
  | .constant _ _ _ => True
  | .term _ op args _ _ _ => if op.isGetitem then positionsOfAll args = [] else flatAll args
  | .arrayOp _ _ _ body _ source _ _ _ => body.Flat ∧ flatSource source
termination_by structural n => n

def Value.Flat : Value → Prop
  | .node n => n.Flat
  | _ => True
termination_by structural v => v

def flatAll : List Value → Prop
  | [] => True
  | v :: vs => v.Flat ∧ flatAll vs
termination_by structural vs => vs

def flatSource : Option Node → Prop
  | .none => True
  | .some n => n.Flat
termination_by structural n => n

end

mutual

theorem Node.positions_of_flat : ∀ n : Node, n.Flat → n.positions = n.uses
  | .symbol _, _ => rfl
  | .constant _ _ _, _ => rfl
  | .term id op args am t tm, h => by
    rw [Node.Flat] at h
    rw [Node.positions.eq_def, Node.uses.eq_def]
    dsimp only
    split
    · rename_i hop
      rw [if_pos hop] at h
      rw [h]
      cases args <;> exact List.append_nil _
    · rename_i hop
      rw [if_neg hop] at h
      rw [List.nil_append, positionsOfAll_of_flat args h]
  | .arrayOp id output om body reduce source k e tm, h => by
    rw [Node.positions, Node.uses, Value.positions_of_flat body h.1, positionsOfSource_of_flat source h.2]
termination_by structural n => n

/-- **Where no indexing stands below another, the walk comes to every position.** -/
theorem Value.positions_of_flat : ∀ v : Value, v.Flat → v.positions = v.uses
  | .node n, h => Node.positions_of_flat n h
  | .none, _ | .bool _, _ | .int .., _ | .float .., _ | .complex .., _ | .scalar .., _ | .text .., _ | .list .., _
  | .tuple .., _ | .dict .., _ | .range _, _ | .slice .., _ | .unknown, _ | .shape _, _ | .dtype _, _ | .kind _, _
  | .code _, _ | .type .., _ | .array _, _ | .object _, _ | .callable _, _ | .occurrence .., _ | .view .., _
  | .space .., _ | .registry _, _ | .diagnostic .., _ | .iterator .., _ => rfl
termination_by structural v => v

theorem positionsOfAll_of_flat : ∀ vs : List Value, flatAll vs → positionsOfAll vs = usesOfAll vs
  | [], _ => rfl
  | v :: vs, h => by
    rw [positionsOfAll, usesOfAll, Value.positions_of_flat v h.1, positionsOfAll_of_flat vs h.2]
termination_by structural vs => vs

theorem positionsOfSource_of_flat : ∀ n : Option Node, flatSource n → positionsOfSource n = usesOfSource n
  | none, _ => rfl
  | some n, h => Node.positions_of_flat n h
termination_by structural n => n

end

namespace Build

/-- What can be expected of arrays over `body`: if one is built, no two positions conflict, and a symbol is reported as
unresolved only if it is at no position. -/
def MissesNothing (st : Store) (body : Value) : Prop :=
  ∀ output reduce source container : Value,
    (∀ n st', outcome (arrayOp output body reduce source container) st = (.ok n, st') →
      ¬ Conflicting st.slots body.positions) ∧
    ∀ name b, (outcome (arrayOp output body reduce source container) st).1 = .error (.conflict (.unresolved name b)) →
      ∃ out s, output.toOutput = .ok out ∧ .symbol s ∈ out ∧ s.name = name ∧
        ∀ u ∈ body.positions, u.symbol.same s = false

/-- The walk leaves nothing out that matters: either it refuses the body, or no two positions conflict and every scalar
that is at some position has a use. -/
def Exposed (st : Store) (body : Value) : Prop :=
  body.Accepted st.slots → ¬ Conflicting st.slots body.positions ∧
    ∀ u ∈ body.positions, u.symbol.type.isArray = false → ∃ v ∈ body.uses, v.symbol.same u.symbol = true

end Build

namespace Build

variable {st : Store} {body : Value}

theorem accepted_of_built (hw : st.WellFormed) {output reduce source container : Value} {n : Node} {st' : Store}
    (h : outcome (arrayOp output body reduce source container) st = (.ok n, st')) : body.Accepted st.slots := by
  refine Classical.not_not.1 fun hacc => ?_
  rcases arrayOp_cases output body reduce source container hw with
    ⟨f, -, hf⟩ | ⟨p, -, ⟨f, -, hf⟩ | ⟨info, -, -, hinfo, -⟩⟩
  · rw [h] at hf
    cases hf
  · rw [h] at hf
    cases hf
  · obtain ⟨f, hf, -⟩ := outputShape_of_not_accepted p.output hacc
    rw [hf] at hinfo
    cases hinfo

theorem unused_of_unresolved (hw : st.WellFormed) {output reduce source container : Value} {name : Label} {b : Value}
    (h : (outcome (arrayOp output body reduce source container) st).1 = .error (.conflict (.unresolved name b))) :
    body.Accepted st.slots ∧ ∃ out s, output.toOutput = .ok out ∧ .symbol s ∈ out ∧ s.name = name ∧
      ∀ u ∈ body.uses, u.symbol.same s = false := by
  rcases arrayOp_cases output body reduce source container hw with
    ⟨f, hread, hf⟩ | ⟨p, hread, ⟨f, hshape, hf⟩ | ⟨info, n, st', -, hn, -⟩⟩
  · rw [hf] at h
    cases h
    rcases ArrayOpParts.read_error hread with h | ⟨r, h⟩
    · cases h
    · cases h
  · rw [hf] at h
    cases h
    by_cases hacc : body.Accepted st.slots
    · rcases outputShape_of_accepted p.output hacc with ⟨info, hinfo, -⟩ | ⟨s, hs, hmem, hunused⟩
      · rw [hinfo] at hshape
        cases hshape
      · rw [hs] at hshape
        cases hshape
        exact ⟨hacc, p.output, s, ArrayOpParts.read_ok hread, hmem, rfl, hunused⟩
    · obtain ⟨f, hf, hbody⟩ := outputShape_of_not_accepted p.output hacc
      rw [hshape] at hf
      cases hf
      cases hbody.kind_eq
  · rw [hn] at h
    cases h

theorem arrayOp_of_accepted (hw : st.WellFormed) {n : Node} (hacc : (Value.node n).Accepted st.slots) {output : Value}
    {out : List OutputIndex} (hout : output.toOutput = .ok out) :
    (∃ x st', outcome (arrayOp output (.node n) (.callable (.primitive .add)) .none (.kind .plain)) st = (.ok x, st') ∧
      ¬ Unresolved n.uses out) ∨
    ∃ s, (outcome (arrayOp output (.node n) (.callable (.primitive .add)) .none (.kind .plain)) st).1 =
      .error (.conflict (.unresolved s.name (.node n))) ∧ .symbol s ∈ out ∧ ∀ u ∈ n.uses, u.symbol.same s = false := by
  have hsource : Value.none.toSource = .ok none := rfl
  obtain ⟨e, hread⟩ := ArrayOpParts.read_node hout n (.primitive .add) hsource .plain
  rcases outputShape_of_accepted out hacc with ⟨info, hinfo, hresolved⟩ | ⟨s, hs, hmem⟩
  · obtain ⟨x, st', hx, -⟩ := arrayOp_of_shape hw hread hinfo
    exact .inl ⟨x, st', hx, hresolved⟩
  · exact .inr ⟨s, arrayOp_of_shape_error hw hread hs, hmem⟩

theorem exposed_of_missesNothing (hw : st.WellFormed) {n : Node} (h : MissesNothing st (.node n)) :
    Exposed st (.node n) := by
  intro hacc
  refine ⟨?_, fun u hu hscalar => ?_⟩
  · -- The empty output asks for nothing, so an array is built.
    rcases arrayOp_of_accepted hw hacc (show (Value.tuple [] Mark.unmarked).toOutput = .ok [] from rfl) with
      ⟨x, st', hx, -⟩ | ⟨s, -, hs, -⟩
    · exact (h _ _ _ _).1 x st' hx
    · cases hs
  · -- The symbol itself as the output is resolved, or reported and hence at no position.
    have hout : (Value.tuple [.node (.symbol u.symbol)] Mark.unmarked).toOutput = .ok [.symbol u.symbol] := by
      show [Value.node (.symbol u.symbol)].mapM OutputIndex.ofValue = _
      rw [exceptMapM_ok]
      refine .cons ?_ .nil
      rw [OutputIndex.ofValue, hscalar]
      rfl
    rcases arrayOp_of_accepted hw hacc hout with ⟨x, st', -, hresolved⟩ | ⟨s, hs, -⟩
    · obtain ⟨v, hv⟩ := exists_firstUse_of_not_unresolved hresolved (List.mem_singleton.2 rfl)
      exact ⟨v, firstUse?_eq_some hv⟩
    · obtain ⟨out, s', hout', hs', -, hno⟩ := (h _ _ _ _).2 _ _ hs
      rw [hout] at hout'
      cases hout'
      cases List.mem_singleton.1 hs'
      have hself := hno u hu
      rw [Symbol.same_refl] at hself
      cases hself

theorem missesNothing_of_exposed (hw : st.WellFormed) (h : Exposed st body) : MissesNothing st body := by
  intro output reduce source container
  refine ⟨fun n st' hn => (h (accepted_of_built hw hn)).1, fun name b hf => ?_⟩
  obtain ⟨hacc, out, s, hout, hs, hname, hunused⟩ := unused_of_unresolved hw hf
  refine ⟨out, s, hout, hs, hname, fun u hu => Bool.eq_false_iff.2 fun hsame => ?_⟩
  have hscalar : u.symbol.type.isArray = false := by
    rw [DeclaredType.isArray_of_plain (Symbol.same_iff.1 hsame).2]
    exact Value.isArray_of_toOutput hout hs
  obtain ⟨v, hv, hvu⟩ := (h hacc).2 u hu hscalar
  have hvs := hunused v hv
  rw [Symbol.same_congr hvu, hsame] at hvs
  cases hvs

/-- **Nothing is missed in a flat body.** -/
theorem missesNothing_of_flat (hw : st.WellFormed) (h : body.Flat) : MissesNothing st body := by
  refine missesNothing_of_exposed hw fun hacc => ?_
  rw [body.positions_of_flat h]
  exact ⟨hacc.consistent, fun u hu _ => ⟨u, hu, u.symbol.same_refl⟩⟩

/-- **When nothing is missed**: exactly over the bodies of which the walk leaves nothing out that matters. -/
theorem missesNothing_iff (hw : st.WellFormed) : MissesNothing st body ↔ Exposed st body := by
  refine ⟨fun h => ?_, missesNothing_of_exposed hw⟩
  cases body with
  | node n => exact exposed_of_missesNothing hw h
  | _ => exact fun _ => ⟨fun ⟨u, hu, _⟩ => (nomatch hu), fun u hu => (nomatch hu)⟩

/-- `a[b[i]] + c[i]` over vectors of which `b` and `c` have the same length: the walk comes to `c[i]` alone, and that is
enough. -/
theorem missesNothing_iff_alike :
    let i : Symbol := ⟨3, .ofString "i", .scalar (some .index), 4⟩
    let vector (id : NodeId) (length : Int) : Node := .constant id (.array ⟨0, [some length], none, .filled (.int 0)⟩) (id + 1)
    let element (id : NodeId) (array key : Node) : Node :=
      .term id (.primitive .getitem) [.node array, .node key] (id + 1) (.scalar none) (id + 2)
    let lookup := element 14 (vector 5 3) (element 11 (vector 7 4) (.symbol i))
    let body : Value := .node (.term 20 (.primitive .add)
      [.node lookup, .node (element 17 (vector 9 4) (.symbol i))] 21 (.scalar none) 22)
    Store.empty.WellFormed ∧ body.positions.length = 2 ∧ body.uses.length = 1 ∧ MissesNothing .empty body := by
  intro i vector element lookup body
  have huses : body.uses = [⟨i, .node (vector 9 4), 1⟩] := rfl
  have hpositions : body.positions = [⟨i, .node (vector 7 4), 1⟩, ⟨i, .node (vector 9 4), 1⟩] := rfl
  refine ⟨Store.empty_wellFormed, rfl, rfl, (missesNothing_iff Store.empty_wellFormed).2 fun _ => ⟨?_, fun u hu _ => ?_⟩⟩
  · have haxis : ∀ u ∈ body.positions, u.axis? Store.empty.slots = some (.ofLength 4) := by
      rw [hpositions]
      exact List.forall_mem_cons.2 ⟨rfl, List.forall_mem_singleton.2 rfl⟩
    rintro ⟨u, hu, v, hv, -, x, y, hx, hy, hne⟩
    rw [haxis u hu] at hx
    rw [haxis v hv] at hy
    exact hne (by rw [← Option.some.inj hx, ← Option.some.inj hy])
  · have hi : ∀ u ∈ body.positions, u.symbol = i := by
      rw [hpositions]
      exact List.forall_mem_cons.2 ⟨rfl, List.forall_mem_singleton.2 rfl⟩
    refine ⟨_, huses ▸ List.mem_cons_self, ?_⟩
    rw [hi u hu]
    exact i.same_refl

/-- `a[b[i]] + c[i]` over vectors of the lengths three, four and five: an array is built that `i` runs over, although it
indexes `b` along an axis of length four and `c` along one of length five. -/
theorem not_missesNothing_lookup :
    let i : Symbol := ⟨3, .ofString "i", .scalar (some .index), 4⟩
    let vector (id : NodeId) (name : String) : Node := .symbol ⟨id, .ofString name, .array .plain none (some 1), id + 1⟩
    let element (id : NodeId) (array key : Node) : Node :=
      .term id (.primitive .getitem) [.node array, .node key] (id + 1) (.scalar none) (id + 2)
    let lookup := element 14 (vector 5 "a") (element 11 (vector 7 "b") (.symbol i))
    let body : Node := .term 20 (.primitive .add) [.node lookup, .node (element 17 (vector 9 "c") (.symbol i))] 21
      (.scalar none) 22
    let lengths : Slots :=
      ⟨[(5, some (.ofAxes [.ofLength 3])), (7, some (.ofAxes [.ofLength 4])), (9, some (.ofAxes [.ofLength 5]))]⟩
    let st : Store := { Store.empty with next := 23, slots := lengths }
    st.WellFormed ∧
      (∃ n st', outcome (arrayOp (.tuple [.node (.symbol i)] Mark.unmarked) (.node body) (.callable (.primitive .add))
        .none (.kind .plain)) st = (.ok n, st')) ∧
      Conflicting st.slots body.positions ∧ ¬ MissesNothing st (.node body) := by
  intro i vector element lookup body lengths st
  have hw : st.WellFormed := by
    intro id hid
    have hne : ∀ k, k < 23 → (id == k) = false := fun k hk => beq_false_of_ne (Nat.ne_of_gt (Nat.lt_of_lt_of_le hk hid))
    show List.lookup id lengths.entries = none
    simp only [lengths, List.lookup_cons, hne 5 (by decide), hne 7 (by decide), hne 9 (by decide), List.lookup_nil]
  have huses : body.uses = [⟨i, .node (vector 9 "c"), 1⟩] := rfl
  have hpositions : body.positions = [⟨i, .node (vector 7 "b"), 1⟩, ⟨i, .node (vector 9 "c"), 1⟩] := rfl
  have hsame : ∀ u ∈ body.uses, u = ⟨i, .node (vector 9 "c"), 1⟩ := fun u hu => List.mem_singleton.1 (huses ▸ hu)
  have hacc : (Value.node body).Accepted st.slots := by
    refine ⟨⟨List.cons_ne_nil _ _, List.cons_ne_nil _ _, trivial⟩, fun u hu => ?_, ?_⟩
    · rw [hsame u hu]
      exact ⟨⟨_, rfl⟩, Nat.le_refl 1⟩
    · rintro ⟨u, hu, v, hv, -, x, y, hx, hy, hne⟩
      rw [hsame u hu] at hx
      rw [hsame v hv, hx] at hy
      exact hne (congrArg Axis.toList (Option.some.inj hy))
  have hconflict : Conflicting st.slots body.positions := by
    rw [hpositions]
    exact ⟨_, List.mem_cons_self, _, List.mem_cons_of_mem _ List.mem_cons_self, i.same_refl, .ofLength 4, .ofLength 5,
      rfl, rfl, by decide⟩
  refine ⟨hw, ?_, hconflict, fun h => (exposed_of_missesNothing hw h hacc).1 hconflict⟩
  rcases arrayOp_of_accepted hw hacc
    (show (Value.tuple [.node (.symbol i)] Mark.unmarked).toOutput = .ok [.symbol i] from rfl) with
    ⟨n, st', hn, -⟩ | ⟨s, -, hs, hunused⟩
  · exact ⟨n, st', hn⟩
  · cases List.mem_singleton.1 hs
    cases hunused ⟨i, .node (vector 9 "c"), 1⟩ (huses ▸ List.mem_cons_self)

end Build

end ArrayTyping

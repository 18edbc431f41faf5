import ArrayTyping.Proofs.Matching
import ArrayTyping.Proofs.Runs
/-!
# RuleAgreement — the library's rank and shape rules never contradict each other

The rank of an application is worked out from the declared ranks of its operands, its shape from their slots, by two
rules that are looked up one after the other.  Both look-ups end at the same entry of the library's table, and the two
rules of an entry agree as long as rank and shape of every operand do.  All that a run has produced is such an operand,
so the check that compares the two answers never fails.
-/
namespace ArrayTyping

open Build (outcome)

/-- If the shape of a value is known, its declared rank is, and is the number of axes. -/
def Value.Ranked (slots : Slots) (v : Value) : Prop :=
  ∀ s, slots.shapeOf v = .ok (some s) → v.rank = .ok (some s.rank)

/-! ## The three pairs of rules -/

theorem rank_of_broadcast {ss : List Shape} {s : Shape} (h : broadcast ss = .ok s) : s.rank = Broadcast.rank ss := by
  obtain ⟨axes, haxes, hs⟩ := exceptBind_ok.1 h
  rw [← exceptPure_ok.1 hs, Shape.rank, Shape.ofAxes, ← (exceptMapM_ok.1 haxes).length_eq, List.length_range]

theorem ranks_of_shapes {slots : Slots} {args : List Value} {ss : List Shape} (hr : ∀ v ∈ args, v.Ranked slots)
    (h : args.mapM slots.shapeOf = .ok (ss.map some)) : args.mapM Value.rank = .ok ((ss.map Shape.rank).map some) := by
  rw [exceptMapM_ok] at h ⊢
  rw [List.forall₂_map_right_iff] at h ⊢
  rw [List.forall₂_map_right_iff]
  induction h with
  | nil => exact .nil
  | cons hv _ ih => exact .cons (hr _ List.mem_cons_self _ hv) (ih fun v hv => hr v (List.mem_cons_of_mem _ hv))

theorem Elementwise.rank_eq {slots : Slots} {op : Value} {args : List Value} {s : Shape}
    (hr : ∀ v ∈ args, v.Ranked slots) (h : shape slots op args = .ok (some s)) : rank args = .ok (some s.rank) := by
  obtain ⟨infos, hinfos, h⟩ := exceptBind_ok.1 h
  split at h
  · cases h
  · rename_i known hknown
    obtain ⟨b, hb, h⟩ := exceptBind_ok.1 h
    cases exceptPure_ok.1 h
    rw [optionMapM_id_some.1 hknown] at hinfos
    rw [rank_of_known (ranks_of_shapes hr hinfos), rank_of_broadcast (broadcastFor_ok.1 hb), Broadcast.rank,
      List.foldl_map]

theorem Shape.length_rows? (s : Shape) : s.rows?.toList.length = if 2 ≤ s.rank then 1 else 0 := by
  unfold rows?
  split
  · rw [List.getElem?_eq_getElem (by rw [rank] at *; omega)]
    rfl
  · rfl

theorem Shape.length_columns? (s : Shape) : s.columns?.toList.length = if 2 ≤ s.rank then 1 else 0 := by
  unfold columns?
  split
  · rw [List.getLast?_eq_getElem?, List.getElem?_eq_getElem (by rw [rank] at *; omega)]
    rfl
  · rfl

/-- The four cases of the rank of a product, against its stack, rows and columns. -/
theorem Shape.rank_of_product {l r p : Shape} (h : l.product r = .ok p) : productRank? l.rank r.rank = some p.rank := by
  obtain ⟨a, b, u, ha, hb, -, hu, rfl⟩ := product_ok.1 h
  have hl : 1 ≤ l.rank := List.length_pos_iff.2 fun hnil => by
    rw [hnil] at ha
    cases ha
  have hr : 1 ≤ r.rank := List.length_pos_iff.2 fun hnil => by
    unfold contracted? at hb
    rw [hnil] at hb
    split at hb <;> cases hb
  have hstack : u.axes.length = max (l.rank - 2) (r.rank - 2) := by
    rw [show u.axes.length = u.rank from rfl, rank_of_broadcast hu]
    simp only [Broadcast.rank, List.foldl_cons, List.foldl_nil, stack, Shape.rank, ofAxes, List.length_take]
    omega
  have hp : (ofAxes (u.axes ++ l.rows?.toList ++ r.columns?.toList)).rank =
      max (l.rank - 2) (r.rank - 2) + (if 2 ≤ l.rank then 1 else 0) + (if 2 ≤ r.rank then 1 else 0) := by
    rw [Shape.rank, ofAxes, List.length_append, List.length_append, hstack, length_rows?, length_columns?]
  rw [hp]
  unfold productRank?
  split_ifs <;> first | omega | (congr 1; omega)

theorem MatrixProduct.rank_eq {slots : Slots} {op l r : Value} {s : Shape} (hl : l.Ranked slots) (hr : r.Ranked slots)
    (h : shape slots op l r = .ok (some s)) : rank op l r = .ok (some s.rank) := by
  have h₀ := h
  unfold shape at h₀
  obtain ⟨a, ha, h₀⟩ := exceptBind_ok.1 h₀
  obtain ⟨b, hb, h₀⟩ := exceptBind_ok.1 h₀
  split at h₀
  · obtain ⟨p, hp, hprod⟩ := (shape_of_known ha hb).1 h
    cases hp
    unfold rank
    simp only [bind, Except.bind, hl _ ha, hr _ hb, Shape.rank_of_product hprod]
    rfl
  · cases h₀

theorem Transposition.rank_eq {slots : Slots} {v : Value} {s : Shape} (hv : v.Ranked slots)
    (h : shape slots v = .ok (some s)) : rank v = .ok (some s.rank) := by
  obtain ⟨info, hinfo, h⟩ := exceptBind_ok.1 h
  obtain ⟨t, rfl, rfl⟩ := Option.map_eq_some_iff.1 (exceptPure_ok.1 h)
  rw [rank, hv t hinfo, Shape.transpose, Shape.rank, Shape.rank, Shape.ofAxes, List.length_reverse]

/-! ## One look-up for both rules -/

namespace RuleEntry

def rule (e : RuleEntry) : RuleKind → BuiltinRule
  | .ndims => e.ndims
  | .shape => e.shape

def key (e : RuleEntry) : RuleKey := ⟨.callable e.op, e.arity⟩

def find? (op arity : Value) : Option RuleEntry :=
  ((RuleKey.candidates op arity).filter RuleKey.isHashable).findSome? fun k => builtinEntries.find? (·.key.same k)

end RuleEntry

theorem Registry.builtin_table (kind : RuleKind) :
    Registry.builtin.table kind = builtinEntries.map fun e => (e.key, .rule (e.rule kind)) := by
  cases kind <;> rfl

/-- **Both look-ups end at the same entry**, in whatever book the library's rules are kept. -/
theorem Registry.builtin_rule?_eq (other : Callable → Rule) (kind : RuleKind) (op : Value) (n : Nat) :
    (Registry.builtin.bookWith other).rule? kind op n =
      (RuleEntry.find? op (.ofInt n)).map fun e => .reading (e.rule kind).respond := by
  have hfind : ∀ k, (Registry.builtin.table kind).find? k =
      (builtinEntries.find? (·.key.same k)).map fun e => .rule (e.rule kind) := by
    intro k
    rw [Registry.builtin_table, RuleTable.find?, List.find?_map, Option.map_map]
    rfl
  have hlookup : Registry.builtin.lookup kind op (.ofInt n) =
      (RuleEntry.find? op (.ofInt n)).map fun e => .rule (e.rule kind) := by
    rw [Registry.lookup, RuleEntry.find?, List.map_findSome?]
    exact congrArg (List.findSome? · _) (funext hfind)
  show (Registry.builtin.lookup kind op (.ofInt n)).map _ = _
  rw [hlookup, Option.map_map]
  rfl

theorem RuleBook.builtin_rule?_eq (kind : RuleKind) (op : Value) (n : Nat) :
    RuleBook.builtin.rule? kind op n = (RuleEntry.find? op (.ofInt n)).map fun e => .reading (e.rule kind).respond :=
  Registry.builtin_rule?_eq _ kind op n

theorem Registry.book_builtin : Registry.builtin.book = .builtin := by
  refine congrArg RuleBook.mk (funext fun kind => funext fun op => funext fun n => ?_)
  exact (Registry.builtin_rule?_eq _ kind op n).trans (RuleBook.builtin_rule?_eq kind op n).symm

/-- The operators that the library applies to every element of broadcast operands. -/
inductive IsElementwise : Value → Prop where
  | primitive {p : Primitive} (h : p ∈ elementwisePrimitives) : IsElementwise (.callable (.primitive p))
  | lifted (f : Callable) (m : Mark) : IsElementwise (.callable (.elementwise f m))

theorem IsElementwise.find? {op : Value} (h : IsElementwise op) (n : Nat) :
    ∃ f, RuleEntry.find? op (.ofInt n) = some ⟨f, .elementwiseNdims, .elementwiseShape, .none⟩ := by
  cases h with
  | primitive h =>
    simp only [elementwisePrimitives, List.mem_cons, List.not_mem_nil, or_false] at h
    rcases h with rfl | rfl | rfl | rfl | rfl | rfl | rfl | rfl <;> exact ⟨_, rfl⟩
  | lifted f m =>
    -- Whether or not the operator itself can be a key, the entry of its family is the only one that is found.
    have hkey : ∀ a, RuleKey.isHashable ⟨.callable (.elementwise f m), a⟩ = (f.isHashable && a.isHashable) :=
      fun _ => rfl
    have hcandidates : RuleKey.candidates (.callable (.elementwise f m)) (.ofInt n) =
        [⟨.callable (.elementwise f m), .ofInt n⟩, ⟨.callable (.elementwise f m), .none⟩,
          ⟨.callable (.family .elementwise), .ofInt n⟩, ⟨.callable (.family .elementwise), .none⟩] := rfl
    refine ⟨.family .elementwise, ?_⟩
    rw [RuleEntry.find?, hcandidates]
    simp only [List.filter_cons, hkey]
    cases f.isHashable <;> rfl

namespace IsElementwise

variable {op : Value} (hop : IsElementwise op) (n : Nat)
include hop

theorem rank_rule :
    RuleBook.builtin.rule? .ndims op n = some (.reading BuiltinRule.elementwiseNdims.respond) := by
  obtain ⟨f, hf⟩ := hop.find? n
  rw [RuleBook.builtin_rule?_eq, hf]
  rfl

theorem shape_rule :
    RuleBook.builtin.rule? .shape op n = some (.reading BuiltinRule.elementwiseShape.respond) := by
  obtain ⟨f, hf⟩ := hop.find? n
  rw [RuleBook.builtin_rule?_eq, hf]
  rfl

end IsElementwise

/-- The operators that the library has rules for, with the numbers of operands they take. -/
inductive IsBuiltin : Value → Nat → Prop where
  | elementwise {p : Primitive} (h : p ∈ elementwisePrimitives) (n : Nat) : IsBuiltin (.callable (.primitive p)) n
  | lifted (f : Callable) (m : Mark) (n : Nat) : IsBuiltin (.callable (.elementwise f m)) n
  | matmul : IsBuiltin (.callable (.primitive .matmul)) 2
  | transpose : IsBuiltin (.callable (.primitive .transpose)) 1

theorem IsBuiltin.find? {op : Value} {n : Nat} (h : IsBuiltin op n) : ∃ e, RuleEntry.find? op (.ofInt n) = some e := by
  cases h with
  | elementwise h n =>
    obtain ⟨f, hf⟩ := (IsElementwise.primitive h).find? n
    exact ⟨_, hf⟩
  | lifted f m n =>
    obtain ⟨f', hf⟩ := (IsElementwise.lifted f m).find? n
    exact ⟨_, hf⟩
  | matmul => exact ⟨_, rfl⟩
  | transpose => exact ⟨_, rfl⟩

inductive BuiltinRule.Paired : BuiltinRule → BuiltinRule → Prop where
  | elementwise : Paired .elementwiseNdims .elementwiseShape
  | matmul : Paired .matmulNdims .matmulShape
  | transpose : Paired .transposeNdims .transposeShape

theorem RuleEntry.paired_of_find? {op arity : Value} {e : RuleEntry} (h : find? op arity = some e) :
    BuiltinRule.Paired e.ndims e.shape := by
  obtain ⟨k, -, hk⟩ := List.exists_of_findSome?_eq_some h
  have he : e ∈ builtinEntries := List.mem_of_find?_eq_some hk
  simp only [builtinEntries, elementwisePrimitives, List.mem_append, List.mem_map, List.mem_cons, List.not_mem_nil,
    or_false] at he
  rcases he with ⟨f, -, rfl⟩ | rfl | rfl
  · exact .elementwise
  · exact .matmul
  · exact .transpose

/-! ## Faults that report no contradiction -/

def Fault.isContradiction : Fault → Bool
  | .conflict (.rankContradicted ..) => true
  | _ => false

/-- A reading that fails, if it does, for another reason than such a contradiction. -/
def Uncontradicted {α : Type} (x : Except Fault α) : Prop := ∀ f, x = .error f → f.isContradiction = false

namespace Uncontradicted

variable {α β : Type}

theorem ok (a : α) : Uncontradicted (.ok a) := fun _ h => nomatch h

theorem error {f : Fault} (h : f.isContradiction = false) : Uncontradicted (.error f : Except Fault α) := by
  intro g hg
  cases hg
  exact h

theorem bind {x : Except Fault α} {f : α → Except Fault β} (hx : Uncontradicted x)
    (hf : ∀ a, Uncontradicted (f a)) : Uncontradicted (x >>= f) := by
  cases x with
  | error e => exact error (hx e rfl)
  | ok a => exact hf a

theorem mapM {f : α → Except Fault β} (hf : ∀ a, Uncontradicted (f a)) (as : List α) :
    Uncontradicted (as.mapM f) := by
  intro e he
  obtain ⟨a, -, ha⟩ := exceptMapM_error he
  exact hf a e ha

theorem namedDtype (v : Value) : Uncontradicted (v.namedDtype .typeSlip) := by
  unfold Value.namedDtype
  split
  · exact ok _
  · exact error rfl
  · exact error rfl
  · split <;> exact error rfl
  · exact error rfl

theorem item (v : Value) : Uncontradicted v.item := by
  unfold Value.item
  split <;> first
    | exact ok _
    | exact (namedDtype _).bind fun _ => ok _
    | (split <;> first | exact ok _ | exact (namedDtype _).bind fun _ => ok _)

theorem declaredType (v : Value) : Uncontradicted v.declaredType := by
  unfold Value.declaredType
  split
  · exact ok _
  · exact ok _
  · split
    · exact (item _).bind fun _ => ok _
    · exact error rfl

theorem rank (v : Value) : Uncontradicted v.rank := (declaredType v).bind fun _ => ok _

theorem shapeOfDims (dims : List (Option Int)) : Uncontradicted (shapeOfDims dims) := by
  unfold ArrayTyping.shapeOfDims
  split
  · exact ok _
  · refine (mapM (fun n => ?_) _).bind fun _ => ok _
    split
    · exact error rfl
    · exact ok _

theorem shapeOf (slots : Slots) (v : Value) : Uncontradicted (slots.shapeOf v) := by
  unfold Slots.shapeOf
  split
  · split
    · exact ok _
    · unfold Node.initialShape
      split
      · exact shapeOfDims _
      · exact ok _
  · exact shapeOfDims _
  · split
    · exact ok _
    · exact error rfl

theorem broadcastFor (op : Value) (ss : List Shape) : Uncontradicted (broadcastFor op ss) := by
  unfold ArrayTyping.broadcastFor
  split
  · exact ok _
  all_goals exact error rfl

theorem elementwiseRank (args : List Value) : Uncontradicted (Elementwise.rank args) :=
  (mapM rank args).bind fun _ => ok _

theorem elementwiseShape (slots : Slots) (op : Value) (args : List Value) :
    Uncontradicted (Elementwise.shape slots op args) := by
  refine (mapM (shapeOf slots) args).bind fun infos => ?_
  split
  · exact ok _
  · exact (broadcastFor op _).bind fun _ => ok _

theorem productRank (op l r : Value) : Uncontradicted (MatrixProduct.rank op l r) := by
  refine (rank l).bind fun a => (rank r).bind fun b => ?_
  split
  · split
    · exact ok _
    · exact error rfl
  · exact ok _

theorem productShape (slots : Slots) (op l r : Value) : Uncontradicted (MatrixProduct.shape slots op l r) := by
  refine (shapeOf slots l).bind fun a => (shapeOf slots r).bind fun b => ?_
  split
  · split
    · exact ok _
    all_goals exact error rfl
  · exact ok _

theorem transposedShape (slots : Slots) (v : Value) : Uncontradicted (Transposition.shape slots v) :=
  (shapeOf slots v).bind fun _ => ok _

theorem promotedScalarType (args : List Value) : Uncontradicted (promotedScalarType args) := by
  unfold ArrayTyping.promotedScalarType joinElementTypes
  refine bind ?_ fun _ => ok _
  split
  · exact ok _
  · exact (mapM item _).bind fun _ => ok _

end Uncontradicted

namespace BuiltinRule.Paired

variable {nd sh : BuiltinRule}

/-- **The two rules of a pair**, without what wraps their answers: a rank and a shape, which agree on operands of
agreeing rank and shape. -/
theorem readings (h : Paired nd sh) (slots : Slots) (op : Value) (args : List Value) :
    ∃ (rank : Except Fault Rank) (shape : Except Fault ShapeInfo),
      nd.respond slots op args = rank.map .ofRank ∧ sh.respond slots op args = shape.map .ofShape ∧
      Uncontradicted rank ∧ Uncontradicted shape ∧
      ((∀ v ∈ args, v.Ranked slots) → ∀ s, shape = .ok (some s) → rank = .ok (some s.rank)) := by
  cases h with
  | elementwise =>
    exact ⟨_, _, rfl, rfl, .elementwiseRank args, .elementwiseShape slots op args,
      fun hr s hs => Elementwise.rank_eq hr hs⟩
  | matmul =>
    match args with
    | [l, r] =>
      refine ⟨_, _, rfl, rfl, .productRank op l r, .productShape slots op l r, fun hr s hs => ?_⟩
      exact MatrixProduct.rank_eq (hr l (by simp)) (hr r (by simp)) hs
    | [] | [_] | _ :: _ :: _ :: _ =>
      exact ⟨.error .typeSlip, .error .typeSlip, rfl, rfl, .error rfl, .error rfl, fun _ _ hs => nomatch hs⟩
  | transpose =>
    match args with
    | [v] =>
      refine ⟨_, _, rfl, rfl, .rank v, .transposedShape slots v, fun hr s hs => ?_⟩
      exact Transposition.rank_eq (hr v (by simp)) hs
    | [] | _ :: _ :: _ =>
      exact ⟨.error .typeSlip, .error .typeSlip, rfl, rfl, .error rfl, .error rfl, fun _ _ hs => nomatch hs⟩

end BuiltinRule.Paired

theorem RuleBook.outcome_builtin (op : Value) (args : List Value) (st : Store) :
    ∃ rank shape, outcome (RuleBook.builtin.rank op args) st = (rank, st) ∧
      outcome (RuleBook.builtin.shape op args) st = (shape, st) ∧ Uncontradicted rank ∧ Uncontradicted shape ∧
      ((∀ v ∈ args, v.Ranked st.slots) → ∀ s, shape = .ok (some s) → rank = .ok s.rank) := by
  cases he : RuleEntry.find? op (.ofInt args.length) with
  | none =>
    have hnone : ∀ kind, RuleBook.builtin.rule? kind op args.length = none := fun kind => by
      rw [RuleBook.builtin_rule?_eq, he, Option.map_none]
    refine ⟨.error (.conflict (.missingRule .ndims op args)), .error (.conflict (.missingRule .shape op args)), ?_, ?_,
      .error rfl, .error rfl, fun _ s hs => (nomatch hs)⟩
    · unfold RuleBook.rank
      simp only [hnone]
      rfl
    · unfold RuleBook.shape
      simp only [hnone]
      rfl
  | some e =>
    have hrule : ∀ kind, RuleBook.builtin.rule? kind op args.length = some (.reading (e.rule kind).respond) :=
      fun kind => by rw [RuleBook.builtin_rule?_eq, he, Option.map_some]
    obtain ⟨rank, shape, hrank, hshape, hur, hus, hagree⟩ := (RuleEntry.paired_of_find? he).readings st.slots op args
    rw [outcome_rank_of_reading (hrule .ndims), outcome_shape_of_reading (hrule .shape), RuleEntry.rule, hrank,
      RuleEntry.rule, hshape]
    have hs : shape.map Value.ofShape >>= Value.toShapeInfo = shape := by
      cases shape with
      | error e => rfl
      | ok info => exact toShapeInfo_ofShape info
    refine ⟨_, _, rfl, congrArg (·, st) hs, ?_, hus, fun hr s hknown => ?_⟩
    · cases rank with
      | error f => exact .error (hur f rfl)
      | ok r =>
        cases r with
        | none => exact .error rfl
        | some n =>
          show Uncontradicted (checkRank op args (.ofRank (some n)))
          rw [checkRank_ofRank]
          exact .ok n
    · rw [hagree hr s hknown]
      exact checkRank_ofRank op args s.rank

/-! ## Array terms -/

theorem Store.Holds.ranked_value {st : Store} {n : Node} (h : st.Holds n) : (Value.node n).Ranked st.slots := by
  intro s hs
  show Except.ok n.type.rank = _
  cases ht : n.type with
  | scalar e =>
    have hscalar := h.ranked.scalar e (congrArg Except.ok ht)
    rw [hs] at hscalar
    cases hscalar
    rfl
  | array k e r => rw [DeclaredType.rank, h.ranked.array k e r s (congrArg Except.ok ht) hs]

theorem Value.ranked_of_literal {v : Value} (h : v.isScalarLiteral = true) (slots : Slots) : v.Ranked slots := by
  intro s hs
  cases v with
  | bool | int | float | complex | scalar =>
    cases hs
    rfl
  | _ => cases h

theorem Value.ranked_of_array (a : ConcreteArray) (slots : Slots) : (Value.array a).Ranked slots := by
  intro s hs
  rw [rank_of_shapeOfDims (show shapeOfDims a.dims = .ok (some s) from hs)]
  rfl

namespace Build

variable {α β : Type}

theorem uncontradicted_bind {x : Build α} {f : α → Build β} {st : Store} (hx : Uncontradicted (outcome x st).1)
    (hf : ∀ a st', outcome x st = (.ok a, st') → Uncontradicted (outcome (f a) st').1) :
    Uncontradicted (outcome (x >>= f) st).1 := by
  rw [outcome_bind]
  rcases h : outcome x st with ⟨e | a, st'⟩
  · rw [h] at hx
    exact .error (hx e rfl)
  · exact hf a st' h

theorem uncontradicted_attach (n : Node) (s : ShapeInfo) (st : Store) : Uncontradicted (outcome (attach n s) st).1 := by
  cases h : st.slots.get? n.id with
  | some held =>
    rw [outcome_attach_of_some h]
    exact .error rfl
  | none =>
    obtain ⟨s', st', ho, -⟩ := outcome_attach_of_none s h
    rw [ho]
    exact .ok s'

theorem uncontradicted_operand (v : Value) (st : Store) : Uncontradicted (outcome (operand v) st).1 := by
  unfold operand
  split
  · exact .ok _
  · rename_i a
    refine uncontradicted_bind ?_ fun _ _ _ => .ok _
    refine uncontradicted_bind (.ok _) fun n st₁ _ => ?_
    refine uncontradicted_bind (.shapeOf st₁.slots (.array a)) fun s st₂ _ => ?_
    exact uncontradicted_bind (uncontradicted_attach n s st₂) fun _ _ _ => .ok _
  · split
    · exact .ok _
    · exact .error rfl

theorem uncontradicted_operands (args : List Value) (st : Store) :
    Uncontradicted (outcome (args.mapM operand) st).1 := by
  induction args generalizing st with
  | nil => exact .ok _
  | cons v vs ih =>
    rw [List.mapM_cons]
    refine uncontradicted_bind (uncontradicted_operand v st) fun _ st₁ _ => ?_
    exact uncontradicted_bind (ih st₁) fun _ _ _ => .ok _

theorem uncontradicted_term (op : Value) (args : List Value) (t : DeclaredType) (st : Store) :
    Uncontradicted (outcome (term op args t) st).1 := by
  unfold term
  split
  · rename_i f _
    obtain ⟨n, st', ho, -⟩ := outcome_application f args Mark.unmarked t Mark.unmarked st
    rw [ho]
    exact .ok n
  · exact .error rfl

theorem uncontradicted_finishedTerm (op : Value) (operands : List Value) (r : Nat) (info : ShapeInfo) (st : Store) :
    Uncontradicted (outcome (finishedTerm op operands r info) st).1 :=
  uncontradicted_bind (uncontradicted_term _ _ _ st) fun n st₁ _ =>
    uncontradicted_bind (uncontradicted_attach n info st₁) fun _ _ _ => .ok _

theorem isOperand_of_outcome {args operands : List Value} {st st' : Store}
    (h : outcome (args.mapM operand) st = (.ok operands, st')) : ∀ v ∈ operands, v.IsOperand := by
  induction args generalizing st operands with
  | nil =>
    obtain ⟨rfl, -⟩ := outcome_mapM_nil_ok.1 h
    exact fun v hv => (nomatch hv)
  | cons a args ih =>
    obtain ⟨w, st₁, ws, hw, hws, rfl⟩ := outcome_mapM_cons_ok.1 h
    refine List.forall_mem_cons.2 ⟨?_, ih hws⟩
    rcases operand_ok hw with ⟨rfl, -, hv⟩ | ⟨_, n, -, rfl, -⟩
    · exact hv
    · exact .inr ⟨n, rfl⟩

theorem ranked_operands {args operands : List Value} {st st' : Store} (hw : st.WellFormed)
    (hg : ∀ m ∈ nodesOfAll args, st.Holds m) (h : outcome (args.mapM operand) st = (.ok operands, st')) :
    ∀ v ∈ operands, v.Ranked st'.slots := by
  intro v hv
  rcases isOperand_of_outcome h v hv with hl | ⟨n, rfl⟩
  · exact Value.ranked_of_literal hl _
  · exact (holding_operands args st st' operands hw hg h n (nodes_subset_nodesOfAll hv n.mem_nodes_self)).ranked_value

/-- **An array term under the library's rules never fails for a contradiction** between its rank and its shape. -/
theorem uncontradicted_arrayTerm {op : Value} {args : List Value} {st : Store} (hw : st.WellFormed)
    (hg : ∀ m ∈ nodesOfAll args, st.Holds m) : Uncontradicted (outcome (arrayTerm .builtin op args) st).1 := by
  rw [arrayTerm_eq]
  refine uncontradicted_bind (uncontradicted_operands args st) fun operands st₁ h₁ => ?_
  obtain ⟨rank, shape, hrank, hshape, hur, hus, hagree⟩ := RuleBook.outcome_builtin op operands st₁
  refine uncontradicted_bind (hrank ▸ hur) fun r st₂ h₂ => ?_
  rw [hrank] at h₂
  obtain ⟨hr, rfl⟩ := Prod.mk.inj h₂
  refine uncontradicted_bind (hshape ▸ hus) fun info st₃ h₃ => ?_
  rw [hshape] at h₃
  obtain ⟨hs, rfl⟩ := Prod.mk.inj h₃
  cases info with
  | none => exact uncontradicted_finishedTerm op operands r none _
  | some s =>
    have hfit := hagree (ranked_operands hw hg h₁) s hs
    rw [hr] at hfit
    dsimp only
    rw [if_neg (Decidable.not_not.2 (Except.ok.inj hfit).symm)]
    exact uncontradicted_finishedTerm op operands r (some s) _

theorem uncontradicted_apply {op : Value} {args : List Value} {st : Store} (hw : st.WellFormed)
    (hg : ∀ m ∈ nodesOfAll args, st.Holds m) : Uncontradicted (outcome (apply .builtin op args) st).1 := by
  refine uncontradicted_bind (uncontradicted_operands args st) fun operands st₁ h₁ => ?_
  have hw₁ := ((Grows.mapM grows_operand args).of_ok hw h₁).wellFormed
  split
  · exact uncontradicted_arrayTerm hw₁ (holding_operands args st st₁ operands hw hg h₁)
  · exact uncontradicted_bind (.promotedScalarType operands) fun t st₂ _ => uncontradicted_term op operands t st₂

end Build

namespace Call

/-- The rules that a call hands in, if it applies an operator. -/
def rules? : Call → Option Rules
  | arrayTerm rules .. => some rules
  | apply rules .. => some rules
  | elementwise rules .. => some rules
  | matmul rules .. => some rules
  | transpose rules _ => some rules
  | _ => none

theorem uncontradicted {c : Call} {rules : Rules} {st : Store} (hw : st.WellFormed) (hg : ∀ n ∈ c.given, st.Holds n)
    (hc : c.rules? = some rules) (hr : rules.book = .builtin) : Uncontradicted (outcome c.perform st).1 := by
  have happly : ∀ op args, (∀ n ∈ nodesOfAll args, st.Holds n) →
      Uncontradicted (outcome (do return [← Build.apply .builtin op args]) st).1 := fun op args hargs =>
    Build.uncontradicted_bind (Build.uncontradicted_apply hw hargs) fun _ _ _ => .ok _
  cases c with
  | arrayTerm rules' op args =>
    cases hc
    rw [perform, hr]
    refine Build.uncontradicted_bind (Build.uncontradicted_arrayTerm hw fun n hn => hg n ?_) fun _ _ _ => .ok _
    exact List.mem_append_right _ hn
  | apply rules' op args =>
    cases hc
    rw [perform, hr]
    exact happly op args fun n hn => hg n (List.mem_append_right _ hn)
  | elementwise rules' f args =>
    cases hc
    rw [perform, hr]
    refine Build.uncontradicted_bind ?_ fun _ _ _ => .ok _
    refine Build.uncontradicted_bind ?_ fun op st₁ h₁ => ?_
    · unfold Build.elementwiseOperator
      split
      · exact .ok _
      · exact .error rfl
    · obtain ⟨-, rfl⟩ := Build.outcome_lift_ok.1 h₁
      exact Build.uncontradicted_apply hw fun n hn => hg n (List.mem_append_right _ hn)
  | matmul rules' left right =>
    cases hc
    rw [perform, hr]
    exact happly _ [left, right] hg
  | transpose rules' v =>
    cases hc
    rw [perform, hr]
    exact happly _ [v] hg
  | _ => cases hc

end Call

namespace Run

theorem forall_answers {P : Call → Except Fault (List Node) → Prop}
    (hP : ∀ c st, st.WellFormed → (∀ n ∈ c.given, st.Holds n) → P c (outcome c.perform st).1) {st : Store}
    {history : List Entry} (h : Run st history) : ∀ e ∈ history, P e.call e.answer := by
  induction h with
  | start => exact fun e he => (nomatch he)
  | call c h hg ih =>
    intro e he
    rcases List.mem_append.1 he with he | he
    · exact ih e he
    · obtain rfl := List.mem_singleton.1 he
      exact hP c _ h.sound.wellFormed fun n hn => h.sound.held n (hg hn)

/-- **The library's rank and shape rules never contradict each other.**  Every operator of the library has both rules;
where the shape rule answers with a known shape, over operands of agreeing rank and shape, the rank rule answers with the
number of its axes; and no application under these rules, in any run, fails because the two contradict each other. -/
theorem builtin_rules_agree :
    (∀ op n, IsBuiltin op n → ∃ ndims shape, RuleBook.builtin.rule? .ndims op n = some (.reading ndims) ∧
      RuleBook.builtin.rule? .shape op n = some (.reading shape)) ∧
    (∀ (st : Store) op args s, (∀ v ∈ args, v.Ranked st.slots) →
      (outcome (RuleBook.builtin.shape op args) st).1 = .ok (some s) →
      (outcome (RuleBook.builtin.rank op args) st).1 = .ok s.rank) ∧
    ∀ st history, Run st history → ∀ e ∈ history, ∀ rules, e.call.rules? = some rules → rules.book = .builtin →
      ∀ op count rank args, e.answer ≠ .error (.conflict (.rankContradicted op count rank args)) := by
  refine ⟨fun op n h => ?_, fun st op args s hr hs => ?_, fun st history h e he rules hc hb op count rank args ha => ?_⟩
  · obtain ⟨e, he⟩ := h.find?
    refine ⟨e.ndims.respond, e.shape.respond, ?_, ?_⟩
    · rw [RuleBook.builtin_rule?_eq, he, Option.map_some, RuleEntry.rule]
    · rw [RuleBook.builtin_rule?_eq, he, Option.map_some, RuleEntry.rule]
  · obtain ⟨rank, shape, hrank, hshape, -, -, hagree⟩ := RuleBook.outcome_builtin op args st
    rw [hshape] at hs
    rw [hrank]
    exact hagree hr s hs
  · have huncontradicted := forall_answers (P := fun c answer => ∀ rules, c.rules? = some rules → rules.book = .builtin →
      Uncontradicted answer) (fun c st hw hg rules hc hb => Call.uncontradicted hw hg hc hb) h e he rules hc hb
    cases huncontradicted _ ha

/-- A matrix and a vector: the rules give their product a known shape and the rank of it.  In a run the product is built,
the sum is by a registry that holds the library's rules, and the product the other way round is refused, but not for a
contradiction. -/
theorem builtin_rules_agree_product :
    ∃ l r s st history,
      (outcome (RuleBook.builtin.shape (.callable (.primitive .matmul)) [l, r]) .empty).1 = .ok (some s) ∧
      (outcome (RuleBook.builtin.rank (.callable (.primitive .matmul)) [l, r]) .empty).1 = .ok s.rank ∧ s.rank = 1 ∧
      (∃ ndims shape, RuleBook.builtin.rule? .ndims (.callable (.primitive .matmul)) 2 = some (.reading ndims) ∧
        RuleBook.builtin.rule? .shape (.callable (.primitive .matmul)) 2 = some (.reading shape)) ∧
      Run st history ∧ history.map (fun e => e.answer.isOk) = [true, true, true, true, false] ∧
      ∀ e ∈ history, ∀ rules, e.call.rules? = some rules →
        ∀ op count rank args, e.answer ≠ .error (.conflict (.rankContradicted op count rank args)) := by
  let a : ConcreteArray := ⟨Mark.unmarked, [some 2, some 3], some (.native .bool), .filled (.int 0)⟩
  let b : ConcreteArray := ⟨Mark.unmarked, [some 3], some (.native .bool), .filled (.int 0)⟩
  have hranked : ∀ v ∈ [Value.array a, Value.array b], v.Ranked Slots.empty := by
    intro v hv
    rcases List.mem_pair.1 hv with rfl | rfl
    · exact Value.ranked_of_array a _
    · exact Value.ranked_of_array b _
  have h₁ := Run.call (.constant (.array a)) .start (List.nil_subset _)
  have h₂ := h₁.call (.constant (.array b)) (List.nil_subset _)
  let m : Node := .constant 3 (.array a) 4
  let v : Node := .constant 8 (.array b) 9
  have hmv : ∀ {rest : List Node}, [m, v] ⊆ m :: v :: rest := by simp
  have hvm : ∀ {rest : List Node}, [v, m] ⊆ m :: v :: rest := by simp
  have h₃ := h₂.call (.matmul .builtin (.node m) (.node v)) hmv
  have h₄ := h₃.call (.arrayTerm (.registry .builtin) (.callable (.primitive .add)) [.node m, .node v]) hmv
  have h₅ := h₄.call (.matmul .builtin (.node v) (.node m)) hvm
  obtain ⟨hfound, hknown, hanswers⟩ := builtin_rules_agree
  refine ⟨.array a, .array b, .ofAxes [.ofLength 2], _, _, rfl, hknown .empty _ _ _ hranked rfl, rfl, hfound _ _ .matmul,
    h₅, by decide +kernel, fun e he rules hr => hanswers _ _ h₅ e he rules hr ?_⟩
  simp only [List.nil_append, List.cons_append, List.mem_cons, List.not_mem_nil, or_false] at he
  rcases he with rfl | rfl | rfl | rfl | rfl <;> cases hr
  · rfl
  · exact Registry.book_builtin
  · rfl

end Run

end ArrayTyping

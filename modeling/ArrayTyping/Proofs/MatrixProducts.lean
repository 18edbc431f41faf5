import ArrayTyping.Proofs.KnownShapes
import ArrayTyping.Proofs.Stretching
/-!
# MatrixProducts — products by promotion

A vector on the left of a matrix product counts as a matrix of one row, a vector on the right as one of one column.  With
the axis that makes it so inserted, every operand but a scalar is a stack of matrices; the product has the stacks'
broadcast, the rows of the left and the columns of the right operand, and the inserted axes are removed from it.
-/
namespace ArrayTyping

open Build (outcome arrayTerm matmul)
open Broadcast (aligned Compatible)

/-! ## The reference -/

namespace Shape

/-- The axes of a left operand, with an axis of length one before the only one of a vector. -/
def promotedLeft (s : Shape) : List Axis := if s.rank = 1 then Axis.ofLength 1 :: s.axes else s.axes

def promotedRight (s : Shape) : List Axis := if s.rank = 1 then s.axes ++ [Axis.ofLength 1] else s.axes

/-- The axes of the product: vectors are promoted to matrices, the matrices multiplied stack by stack, and the inserted
axes removed. -/
def productByPromotion? (l r : Shape) : Option (List Axis) := do
  let left := l.promotedLeft
  let right := r.promotedRight
  let rows ← left.dropLast.getLast?
  let inner ← left.getLast?
  let inner' ← right.dropLast.getLast?
  let columns ← right.getLast?
  if inner.toList = inner'.toList then
    let stack ← (broadcast [.ofAxes left.dropLast.dropLast, .ofAxes right.dropLast.dropLast]).toOption
    let axes := stack.axes ++ [rows, columns]
    let axes := if l.rank = 1 then axes.eraseIdx stack.rank else axes
    return if r.rank = 1 then axes.dropLast else axes
  else none

/-- Both operands have axes, the contracted ones have the same indices, and the stacks are compatible. -/
structure Multipliable (l r : Shape) : Prop where
  left_rank : 1 ≤ l.rank
  right_rank : 1 ≤ r.rank
  contracted : ∃ a b, l.axes.getLast? = some a ∧
    (if r.rank = 1 then r.axes.getLast? else r.axes.dropLast.getLast?) = some b ∧ a.toList = b.toList
  leading : ∀ k, Compatible (aligned [.ofAxes l.axes.dropLast.dropLast, .ofAxes r.axes.dropLast.dropLast] k)

end Shape

/-- The dimensions `(…, n?, k)` of a left operand: all before the last two, the rows if there are any, and the
contracted one. -/
def leftCore? (lengths : List Nat) : Option (List Nat × Option Nat × Nat) :=
  match lengths.reverse with
  | [] => none
  | [k] => some ([], none, k)
  | k :: n :: batch => some (batch.reverse, some n, k)

def rightCore? (lengths : List Nat) : Option (List Nat × Nat × Option Nat) :=
  match lengths.reverse with
  | [] => none
  | [k] => some ([], k, none)
  | m :: k :: batch => some (batch.reverse, k, some m)

/-- The lengths of a product by the signature `(n?, k), (k, m?) → (n?, m?)`, where the dimensions before stretch. -/
def productLengths? (ls ms : List Nat) : Option (List Nat) := do
  let (left, n?, k) ← leftCore? ls
  let (right, k', m?) ← rightCore? ms
  if k = k' then
    let batch ← (commonLengths left right).toOption
    return batch ++ n?.toList ++ m?.toList
  else none

/-! ## Shapes -/

inductive EndsIn {α : Type} : List α → Prop where
  | nil : EndsIn []
  | one (a : α) : EndsIn [a]
  | two (as : List α) (a b : α) : EndsIn (as ++ [a, b])

theorem endsIn {α : Type} (as : List α) : EndsIn as := by
  rcases h : as.reverse with _ | ⟨b, _ | ⟨a, rest⟩⟩
  · rw [List.reverse_eq_nil_iff.1 h]
    exact .nil
  · rw [← List.reverse_reverse as, h]
    exact .one b
  · rw [← List.reverse_reverse as, h, List.reverse_cons, List.reverse_cons, List.append_assoc]
    exact .two rest.reverse a b

theorem lastTwo {α : Type} (as : List α) (a b : α) : (as ++ [a, b]).getLast? = some b ∧
    (as ++ [a, b]).dropLast.getLast? = some a ∧ (as ++ [a, b]).dropLast.dropLast = as := by
  simp

namespace Shape

variable {l r p : Shape}

theorem stack_eq_dropLast (s : Shape) : s.stack = ofAxes s.axes.dropLast.dropLast := by
  rw [stack, List.dropLast_eq_take, List.dropLast_eq_take, List.take_take, List.length_take, rank]
  congr 2
  omega

theorem contracted?_eq_getLast? (s : Shape) :
    s.contracted? = if s.rank = 1 then s.axes.getLast? else s.axes.dropLast.getLast? := by
  obtain ⟨axes, m⟩ := s
  cases endsIn axes with
  | nil => rfl
  | one a => rfl
  | two as a b =>
    have hm : IsMatrices ⟨as ++ [a, b], m⟩ as a b := ⟨rfl⟩
    have hrank := hm.rank_eq
    rw [hm.contracted?_eq, if_neg (by omega), (lastTwo as a b).2.1]

theorem promotedLeft_eq (h : 1 ≤ l.rank) : ∃ stack rows inner, l.promotedLeft = stack ++ [rows, inner] ∧
    l.stack = ofAxes stack ∧ l.axes.getLast? = some inner ∧ l.rows?.toList = if l.rank = 1 then [] else [rows] := by
  obtain ⟨axes, m⟩ := l
  cases endsIn axes with
  | nil => exact absurd h (Nat.not_succ_le_zero 0)
  | one a => exact ⟨[], .ofLength 1, a, rfl, rfl, rfl, rfl⟩
  | two as a b =>
    have hm : IsMatrices ⟨as ++ [a, b], m⟩ as a b := ⟨rfl⟩
    have hrank := hm.rank_eq
    refine ⟨as, a, b, if_neg (by omega), hm.stack_eq, hm.getLast?_eq, ?_⟩
    rw [hm.rows?_eq, if_neg (by omega), Option.toList_some]

theorem promotedRight_eq (h : 1 ≤ r.rank) : ∃ stack inner columns, r.promotedRight = stack ++ [inner, columns] ∧
    r.stack = ofAxes stack ∧ r.contracted? = some inner ∧
    r.columns?.toList = if r.rank = 1 then [] else [columns] := by
  obtain ⟨axes, m⟩ := r
  cases endsIn axes with
  | nil => exact absurd h (Nat.not_succ_le_zero 0)
  | one a => exact ⟨[], a, .ofLength 1, rfl, rfl, rfl, rfl⟩
  | two as a b =>
    have hm : IsMatrices ⟨as ++ [a, b], m⟩ as a b := ⟨rfl⟩
    have hrank := hm.rank_eq
    refine ⟨as, a, b, if_neg (by omega), hm.stack_eq, hm.contracted?_eq, ?_⟩
    rw [hm.columns?_eq, if_neg (by omega), Option.toList_some]

theorem ranks_of_product (h : l.product r = .ok p) : 1 ≤ l.rank ∧ 1 ≤ r.rank := by
  have hrank := rank_of_product h
  unfold productRank? at hrank
  split at hrank
  · cases hrank
  · omega

/-- **The product is the product by promotion.** -/
theorem productByPromotion?_eq (h : l.product r = .ok p) : l.productByPromotion? r = some p.axes := by
  obtain ⟨hl, hr⟩ := ranks_of_product h
  obtain ⟨a, b, u, ha, hb, hab, hu, rfl⟩ := product_ok.1 h
  obtain ⟨ls, rows, inner, hleft, hls, hinner, hrows⟩ := promotedLeft_eq hl
  obtain ⟨rs, inner', columns, hright, hrs, hinner', hcolumns⟩ := promotedRight_eq hr
  cases hinner.symm.trans ha
  cases hinner'.symm.trans hb
  rw [hls, hrs] at hu
  obtain ⟨hl₁, hl₂, hl₃⟩ := lastTwo ls rows a
  obtain ⟨hr₁, hr₂, hr₃⟩ := lastTwo rs b columns
  have hrank : u.rank = u.axes.length := rfl
  have haxes : ∀ axes, (ofAxes axes).axes = axes := fun _ => rfl
  unfold productByPromotion?
  simp only [hleft, hright, hl₁, hl₂, hl₃, hr₁, hr₂, hr₃, hu, Axis.agrees_iff.1 hab, hrows, hcolumns, haxes, hrank,
    Except.toOption, Option.bind_eq_bind, Option.bind_some, if_true]
  have herase : (u.axes ++ [rows, columns]).eraseIdx u.axes.length = u.axes ++ [columns] := by
    rw [List.eraseIdx_append_of_length_le (Nat.le_refl _)]
    simp
  by_cases h₁ : l.rank = 1 <;> by_cases h₂ : r.rank = 1 <;> simp [h₁, h₂, herase]

theorem multipliable_iff (hl : Measured l.axes.dropLast.dropLast) (hr : Measured r.axes.dropLast.dropLast) :
    l.Multipliable r ↔ ∃ p, l.product r = .ok p := by
  constructor
  · rintro ⟨-, -, ⟨a, b, ha, hb, hab⟩, hstacks⟩
    obtain ⟨u, hu⟩ := broadcast_exists (by simpa [ofAxes] using And.intro hl hr) hstacks
    rw [← stack_eq_dropLast, ← stack_eq_dropLast] at hu
    rw [← contracted?_eq_getLast?] at hb
    exact ⟨_, product_ok.2 ⟨a, b, u, ha, hb, Axis.agrees_iff.2 hab, hu, rfl⟩⟩
  · rintro ⟨p, h⟩
    obtain ⟨hl, hr⟩ := ranks_of_product h
    obtain ⟨a, b, u, ha, hb, hab, hu, -⟩ := product_ok.1 h
    rw [stack_eq_dropLast, stack_eq_dropLast] at hu
    rw [contracted?_eq_getLast?] at hb
    exact ⟨hl, hr, ⟨a, b, ha, hb, Axis.agrees_iff.1 hab⟩, (broadcast_ok_iff.1 hu).2.1⟩

/-! ## Lengths -/

inductive HasLastLengths : List Axis → List Nat → Prop where
  | nil : HasLastLengths [] []
  | one {a : Axis} {k : Nat} (h : a.plain = .ofLength k) : HasLastLengths [a] [k]
  | two {as : List Axis} {a b : Axis} {batch : List Nat} {n k : Nat} (hs : (ofAxes as).HasLengths batch)
    (ha : a.plain = .ofLength n) (hb : b.plain = .ofLength k) : HasLastLengths (as ++ [a, b]) (batch ++ [n, k])

theorem HasLengths.last {s : Shape} {ls : List Nat} (h : s.HasLengths ls) : HasLastLengths s.axes ls := by
  unfold HasLengths at h
  cases endsIn ls with
  | nil =>
    rw [List.map_eq_nil_iff.1 h]
    exact .nil
  | one k =>
    obtain ⟨a, ha, hk⟩ := List.map_eq_singleton_iff.1 h
    rw [ha]
    exact .one hk
  | two batch n k =>
    rw [List.map_append] at h
    obtain ⟨as, rest, haxes, hs, hrest⟩ := List.map_eq_append_iff.1 h
    obtain ⟨a, rest, rfl, ha, hrest⟩ := List.map_eq_cons_iff.1 hrest
    obtain ⟨b, rfl, hb⟩ := List.map_eq_singleton_iff.1 hrest
    rw [haxes]
    exact .two hs ha hb

theorem leftCore_of_lengths {ls : List Nat} (h : l.HasLengths ls) (hr : 1 ≤ l.rank) :
    ∃ stack inner batch n? k, l.stack = ofAxes stack ∧ l.axes.getLast? = some inner ∧
      leftCore? ls = some (batch, n?, k) ∧ (ofAxes stack).HasLengths batch ∧ inner.plain = .ofLength k ∧
      l.rows?.toList.map Axis.plain = n?.toList.map Axis.ofLength := by
  have hlast := h.last
  obtain ⟨axes, m⟩ := l
  cases hlast with
  | nil => exact absurd hr (Nat.not_succ_le_zero 0)
  | @one a k ha => exact ⟨[], a, [], none, k, rfl, rfl, rfl, rfl, ha, rfl⟩
  | @two as a b batch n k hs ha hb =>
    have hm : IsMatrices ⟨as ++ [a, b], m⟩ as a b := ⟨rfl⟩
    refine ⟨as, b, batch, some n, k, hm.stack_eq, hm.getLast?_eq, by simp [leftCore?], hs, hb, ?_⟩
    exact (congrArg (·.toList.map Axis.plain) hm.rows?_eq).trans (congrArg ([·]) ha)

theorem rightCore_of_lengths {ms : List Nat} (h : r.HasLengths ms) (hr : 1 ≤ r.rank) :
    ∃ stack inner batch k m?, r.stack = ofAxes stack ∧ r.contracted? = some inner ∧
      rightCore? ms = some (batch, k, m?) ∧ (ofAxes stack).HasLengths batch ∧ inner.plain = .ofLength k ∧
      r.columns?.toList.map Axis.plain = m?.toList.map Axis.ofLength := by
  have hlast := h.last
  obtain ⟨axes, m⟩ := r
  cases hlast with
  | nil => exact absurd hr (Nat.not_succ_le_zero 0)
  | @one a k ha => exact ⟨[], a, [], k, none, rfl, rfl, rfl, rfl, ha, rfl⟩
  | @two as a b batch k n hs ha hb =>
    have hm : IsMatrices ⟨as ++ [a, b], m⟩ as a b := ⟨rfl⟩
    refine ⟨as, a, batch, k, some n, hm.stack_eq, hm.contracted?_eq, by simp [rightCore?], hs, ha, ?_⟩
    exact (congrArg (·.toList.map Axis.plain) hm.columns?_eq).trans (congrArg ([·]) hb)

/-- **Shapes that are counted from zero have a product exactly if their lengths do**, and of these lengths. -/
theorem product_lengths {ls ms : List Nat} (hl : l.HasLengths ls) (hr : r.HasLengths ms)
    (hlm : Measured l.stack.axes) (hrm : Measured r.stack.axes) :
    (∃ p ns, l.product r = .ok p ∧ productLengths? ls ms = some ns ∧ p.HasLengths ns) ∨
      ((∀ p, l.product r ≠ .ok p) ∧ productLengths? ls ms = none) := by
  have hnil : ∀ {s : Shape} {ns : List Nat}, s.HasLengths ns → ¬ 1 ≤ s.rank → ns = [] := by
    intro s ns hs hrank
    have hlen := congrArg List.length hs
    rw [List.length_map, List.length_map] at hlen
    exact List.length_eq_zero_iff.1 (hlen.symm.trans (Nat.lt_one_iff.1 (Nat.lt_of_not_le hrank)))
  -- Without axes there is no product, of shapes or of lengths.
  by_cases hl₁ : 1 ≤ l.rank
  swap
  · refine .inr ⟨fun p hp => hl₁ (ranks_of_product hp).1, ?_⟩
    rw [hnil hl hl₁]
    rfl
  by_cases hr₁ : 1 ≤ r.rank
  swap
  · refine .inr ⟨fun p hp => hr₁ (ranks_of_product hp).2, ?_⟩
    rw [hnil hr hr₁]
    cases h : leftCore? ls <;> simp [productLengths?, rightCore?, h]
  obtain ⟨lst, inner, left, n?, k, hlst, hinner, hleft, hll, hk, hrows⟩ := leftCore_of_lengths hl hl₁
  obtain ⟨rst, inner', right, k', m?, hrst, hinner', hright, hrl, hk', hcolumns⟩ := rightCore_of_lengths hr hr₁
  rw [hlst] at hlm
  rw [hrst] at hrm
  unfold productLengths?
  simp only [hleft, hright, Option.bind_eq_bind, Option.bind_some]
  by_cases hkk : k = k'
  · have hab : inner.agrees inner' = true := Axis.agrees_iff.2 (Axis.toList_of_plain (hk.trans (hkk ▸ hk'.symm)))
    rw [if_pos hkk]
    rcases broadcast_pair_lengths hlm hrm hll hrl with ⟨ns, u, hns, hu, hul⟩ | ⟨⟨f, hf⟩, hno⟩
    · refine .inl ⟨_, _, product_ok.2 ⟨inner, inner', u, hinner, hinner', hab, by rw [hlst, hrst, hu], rfl⟩,
        by rw [hns]; rfl, ?_⟩
      show (u.axes ++ l.rows?.toList ++ r.columns?.toList).map Axis.plain = _
      rw [List.map_append, List.map_append, List.map_append, List.map_append, hul, hrows, hcolumns]
    · refine .inr ⟨fun p hp => ?_, by rw [hf]; rfl⟩
      obtain ⟨-, -, u, -, -, -, hu, -⟩ := product_ok.1 hp
      rw [hlst, hrst] at hu
      exact hno u hu
  · rw [if_neg hkk]
    refine .inr ⟨fun p hp => hkk ?_, rfl⟩
    obtain ⟨a, b, -, ha, hb, hab, -, -⟩ := product_ok.1 hp
    cases hinner.symm.trans ha
    cases hinner'.symm.trans hb
    rw [← Axis.length_of_plain hk, ← Axis.length_of_plain hk']
    exact Axis.length_eq_of_toList_eq (Axis.agrees_iff.1 hab)

end Shape

/-! ## Building a product -/

section Building

variable {st st' : Store} {l r : Value} {s t : Shape} {ws : List Value} {ts : List Shape}

theorem outcome_rank_of_scalar (hl : st.HasOperand l s) (hr : st.HasOperand r t) (h : s.rank = 0 ∨ t.rank = 0) :
    outcome (RuleBook.builtin.rank (.callable (.primitive .matmul)) [l, r]) st =
      (.error (.conflict (.scalarProduct (.callable (.primitive .matmul)) [l, r])), st) := by
  have hnone : productRank? s.rank t.rank = none := if_pos h
  rw [RuleBook.outcome_rank_of_reading
    (show RuleBook.builtin.rule? .ndims _ [l, r].length = some (.reading BuiltinRule.matmulNdims.respond) from rfl)]
  simp only [BuiltinRule.respond, MatrixProduct.rank, hl.rank_eq, hr.rank_eq, bind, Except.bind, hnone]
  rfl

theorem outcome_shape_matmul (hl : st.HasOperand l s) (hr : st.HasOperand r t) {info : ShapeInfo} :
    outcome (RuleBook.builtin.shape (.callable (.primitive .matmul)) [l, r]) st = (.ok info, st) ↔
      ∃ p, info = some p ∧ s.product t = .ok p := by
  rw [RuleBook.outcome_shape_of_reading
    (show RuleBook.builtin.rule? .shape _ [l, r].length = some (.reading BuiltinRule.matmulShape.respond) from rfl)]
  simp only [BuiltinRule.respond, Prod.mk.injEq, and_true]
  rw [← MatrixProduct.shape_of_known hl.shape_eq hr.shape_eq]
  cases MatrixProduct.shape st.slots (.callable (.primitive .matmul)) l r with
  | error e => exact ⟨fun h => (nomatch h), fun h => (nomatch h)⟩
  | ok i => exact ⟨fun h => (RuleBook.toShapeInfo_ofShape i).symm.trans h, fun h => (RuleBook.toShapeInfo_ofShape i).trans h⟩

inductive AnswersProduct (s t : Shape) : Except Fault Node × Store → Prop where
  | built {p u : Shape} {n : Node} {st : Store} (hp : s.product t = .ok p) (hn : st.HasArray n u)
    (hu : u.plain = p.plain) : AnswersProduct s t (.ok n, st)
  | scalar {op : Value} {args : List Value} {st : Store} (h : s.rank = 0 ∨ t.rank = 0) :
    AnswersProduct s t (.error (.conflict (.scalarProduct op args)), st)
  | refused {e : Fault} {st : Store} (hs : 1 ≤ s.rank) (ht : 1 ≤ t.rank) (hp : ∀ p, s.product t ≠ .ok p) :
    AnswersProduct s t (.error e, st)

/-- **A product is built exactly if the shapes have one.** -/
theorem answersProduct_arrayTerm {vs : List Value} (h : Taken st vs [s, t] st' ws ts) :
    AnswersProduct s t (outcome (arrayTerm .builtin (.callable (.primitive .matmul)) vs) st) := by
  obtain ⟨a, ts₁, ha, hplain₁, rfl⟩ := List.forall₂_cons_left_iff.1 h.plain_eq
  obtain ⟨b, ts₂, hb, hplain₂, rfl⟩ := List.forall₂_cons_left_iff.1 hplain₁
  obtain rfl := List.forall₂_nil_left_iff.1 hplain₂
  obtain ⟨w, ws₁, hw, hknown₁, rfl⟩ := List.forall₂_cons_right_iff.1 h.known
  obtain ⟨x, ws₂, hx, hknown₂, rfl⟩ := List.forall₂_cons_right_iff.1 hknown₁
  obtain rfl := List.forall₂_nil_right_iff.1 hknown₂
  by_cases hzero : s.rank = 0 ∨ t.rank = 0
  · have hzero' : a.rank = 0 ∨ b.rank = 0 := by rwa [Shape.rank_of_plain ha, Shape.rank_of_plain hb]
    rw [Build.arrayTerm_of_rank_error h (outcome_rank_of_scalar hw hx hzero')]
    exact .scalar hzero
  cases hp : s.product t with
  | ok p =>
    obtain ⟨q, hq, hqp⟩ := Shape.product_of_plain ha hb hp
    obtain ⟨n, st'', u, hn, harray, hu, -⟩ :=
      Build.arrayTerm_of_shape rfl h ((outcome_shape_matmul hw hx).2 ⟨q, rfl, hq⟩)
    rw [hn]
    exact .built hp harray (hu.trans hqp)
  | error f =>
    have hno : ∀ p, s.product t ≠ .ok p := fun p h => by
      rw [hp] at h
      cases h
    rcases hout : outcome (arrayTerm .builtin (.callable (.primitive .matmul)) vs) st with ⟨e | n, st''⟩
    · exact .refused (by omega) (by omega) hno
    · obtain ⟨info, hinfo⟩ := Build.shape_of_arrayTerm h hout
      obtain ⟨q, -, hq⟩ := (outcome_shape_matmul hw hx).1 hinfo
      obtain ⟨p, hp, -⟩ := Shape.product_of_plain ha.symm hb.symm hq
      exact absurd hp (hno p)

theorem answersProduct_matmul (h : Taken st [l, r] [s, t] st' ws ts)
    (ha : [l, r].any Value.isArrayTyped = true) : AnswersProduct s t (outcome (matmul .builtin l r) st) := by
  rw [matmul, Build.outcome_apply_known h ha]
  exact answersProduct_arrayTerm h.again

end Building

/-- **The product by promotion**, as the answer to a product of operands of shapes `s` and `t`. -/
structure MultipliesByPromotion (s t : Shape) (answer : Except Fault Node × Store) : Prop where
  built_iff : (∃ n, answer.1 = .ok n) ↔ s.Multipliable t
  shape_eq : ∀ n, answer.1 = .ok n → ∃ u axes, s.productByPromotion? t = some axes ∧ answer.2.HasArray n u ∧
    u.axes.map Axis.plain = axes.map Axis.plain
  lengths_eq : ∀ ls ms, s.HasLengths ls → t.HasLengths ms →
    ((∃ n, answer.1 = .ok n) ↔ ∃ ns, productLengths? ls ms = some ns) ∧
    ∀ n ns, answer.1 = .ok n → productLengths? ls ms = some ns → ∃ u, answer.2.HasArray n u ∧ u.HasLengths ns
  scalar : s.rank = 0 ∨ t.rank = 0 → ∃ c : Conflict, answer.1 = .error (.conflict c) ∧
    c.diagnostic.kind = .propagation ∧ c.diagnostic.code = ErrorCode.unsupportedOperands.text

namespace AnswersProduct

variable {s t : Shape} {answer : Except Fault Node × Store}

theorem ok_iff (h : AnswersProduct s t answer) : (∃ n, answer.1 = .ok n) ↔ ∃ p, s.product t = .ok p := by
  cases h with
  | built hp => exact ⟨fun _ => ⟨_, hp⟩, fun _ => ⟨_, rfl⟩⟩
  | scalar h =>
    refine ⟨fun ⟨_, hn⟩ => (nomatch hn), fun ⟨p, hp⟩ => ?_⟩
    obtain ⟨hs, ht⟩ := Shape.ranks_of_product hp
    omega
  | refused hs ht hp => exact ⟨fun ⟨_, hn⟩ => (nomatch hn), fun ⟨p, h⟩ => absurd h (hp p)⟩

theorem array (h : AnswersProduct s t answer) {n : Node} (hn : answer.1 = .ok n) :
    ∃ p u, s.product t = .ok p ∧ answer.2.HasArray n u ∧ u.plain = p.plain := by
  cases h with
  | built hp harray hu =>
    cases hn
    exact ⟨_, _, hp, harray, hu⟩
  | scalar => cases hn
  | refused => cases hn

theorem multipliesByPromotion (h : AnswersProduct s t answer) (hs : Measured s.axes.dropLast.dropLast)
    (ht : Measured t.axes.dropLast.dropLast) : MultipliesByPromotion s t answer where
  built_iff := by rw [h.ok_iff, Shape.multipliable_iff hs ht]
  shape_eq n hn := by
    obtain ⟨p, u, hp, harray, hu⟩ := h.array hn
    exact ⟨u, p.axes, Shape.productByPromotion?_eq hp, harray, Shape.map_plain_of_plain hu⟩
  lengths_eq ls ms hls hms := by
    rw [h.ok_iff]
    have hs' : Measured s.stack.axes := by rwa [s.stack_eq_dropLast]
    have ht' : Measured t.stack.axes := by rwa [t.stack_eq_dropLast]
    rcases Shape.product_lengths hls hms hs' ht' with ⟨p, ns, hp, hns, hlengths⟩ | ⟨hno, hnone⟩
    · refine ⟨⟨fun _ => ⟨ns, hns⟩, fun _ => ⟨p, hp⟩⟩, fun n ns' hn hns' => ?_⟩
      obtain ⟨p', u, hp', harray, hu⟩ := h.array hn
      cases hp.symm.trans hp'
      cases hns.symm.trans hns'
      exact ⟨u, harray, (Shape.map_plain_of_plain hu).trans hlengths⟩
    · refine ⟨⟨fun ⟨p, hp⟩ => absurd hp (hno p), fun ⟨ns, hns⟩ => ?_⟩, fun n ns _ hns => ?_⟩
      · rw [hnone] at hns
        cases hns
      · rw [hnone] at hns
        cases hns
  scalar hzero := by
    cases h with
    | built hp =>
      obtain ⟨hs, ht⟩ := Shape.ranks_of_product hp
      omega
    | scalar => exact ⟨_, rfl, rfl, rfl⟩
    | refused => omega

end AnswersProduct

/-- **Matrix products follow promotion.**  Under the library's rules, operands of known shapes have a product exactly if
both have axes, the contracted axes agree and the stacks broadcast; it is the product by promotion, and a scalar operand
is refused as such.  The same holds where the rules are asked only because one of the operands is an array. -/
theorem matmul_multipliesByPromotion {st : Store} (hw : st.WellFormed) {l r : Value} {s t : Shape}
    (hl : st.HasOperand l s) (hr : st.HasOperand r t) (hs : Measured s.axes.dropLast.dropLast)
    (ht : Measured t.axes.dropLast.dropLast) :
    MultipliesByPromotion s t (outcome (arrayTerm .builtin (.callable (.primitive .matmul)) [l, r]) st) ∧
      (l.isArrayTyped = true ∨ r.isArrayTyped = true →
        MultipliesByPromotion s t (outcome (matmul .builtin l r) st)) := by
  obtain ⟨st', ws, ts, htaken⟩ := Build.exists_taken hw (.cons hl (.cons hr .nil))
  refine ⟨(answersProduct_arrayTerm htaken).multipliesByPromotion hs ht, fun ha => ?_⟩
  have hany : [l, r].any Value.isArrayTyped = true := by
    rcases ha with ha | ha <;> simp [ha]
  exact (answersProduct_matmul htaken hany).multipliesByPromotion hs ht

/-- A stack of two matrices with three columns, a vector of three, and a literal. -/
theorem matmul_multipliesByPromotion_stacked :
    let l : Value := .array ⟨Mark.unmarked, [some 2, some 4, some 3], some (.native .bool), .filled (.int 0)⟩
    let r : Value := .array ⟨Mark.unmarked, [some 3], some (.native .bool), .filled (.int 0)⟩
    (∃ n st', outcome (matmul .builtin l r) .empty = (.ok n, st') ∧ ∃ u, st'.HasArray n u ∧ u.HasLengths [2, 4]) ∧
      (∃ c : Conflict, (outcome (matmul .builtin l (.ofInt 2)) .empty).1 = .error (.conflict c) ∧
        c.diagnostic.code = "unsupported_operands") := by
  intro l r
  have hl : Store.empty.HasOperand l (.ofLengths [2, 4, 3]) := .of_known rfl fun n hn => nomatch hn
  have hr : Store.empty.HasOperand r (.ofLengths [3]) := .of_known rfl fun n hn => nomatch hn
  have h2 : Store.empty.HasOperand (.ofInt 2) .scalar := .of_known rfl fun n hn => nomatch hn
  obtain ⟨-, hproduct⟩ := matmul_multipliesByPromotion Store.empty_wellFormed hl hr (by decide) (by decide)
  obtain ⟨-, hscalar⟩ := matmul_multipliesByPromotion Store.empty_wellFormed hl h2 (by decide) (by decide)
  have hlengths := (hproduct (.inl rfl)).lengths_eq [2, 4, 3] [3] rfl rfl
  obtain ⟨n, hn⟩ := hlengths.1.2 ⟨[2, 4], rfl⟩
  obtain ⟨c, hc, -, hcode⟩ := (hscalar (.inl rfl)).scalar (.inr rfl)
  exact ⟨⟨n, _, Prod.ext hn rfl, hlengths.2 n [2, 4] hn rfl⟩, c, hc, hcode⟩

end ArrayTyping

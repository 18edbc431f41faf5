import ArrayTyping.Proofs.RuleAgreement
import ArrayTyping.Proofs.Runs
import ArrayTyping.Script.Queries
import Mathlib.Algebra.BigOperators.Group.List.Basic
import Mathlib.Algebra.Group.Action.Defs
import Mathlib.Data.List.Nodup
/-!
# IndexSpaces — what is asked of a value and the index tuples that it has

A length is asked for by the declared rank, an axis by the shape, and the index tuples are enumerated from the axes.  On
everything that a run produces the rank is the number of axes, so the answers agree: as many tuples are enumerated as
the lengths multiply to, none of them twice, and those are the tuples that the index space holds.  Membership along one
axis is decided by a division, which for either sign of the step finds the position that an index would have.
-/
namespace ArrayTyping

open Script

/-! ## Indices along one axis -/

namespace Axis

theorem nth_injective (a : Axis) : Function.Injective a.nth := by
  intro j k h
  have hmul : (j : Int) * a.step = k * a.step := Int.add_left_cancel h
  exact Int.ofNat.inj (Int.eq_of_mul_eq_mul_right a.step_ne_zero hmul)

theorem mem_toList {a : Axis} {x : Int} : x ∈ a.toList ↔ ∃ k, k < a.length ∧ a.nth k = x := by
  simp only [toList, List.mem_map, List.mem_range]

theorem nodup_toList (a : Axis) : a.toList.Nodup := List.nodup_range.map a.nth_injective

/-- **An axis holds exactly the indices that it enumerates.** -/
theorem contains_iff {a : Axis} {x : Int} : a.contains x = true ↔ x ∈ a.toList := by
  simp only [contains, Bool.and_eq_true, decide_eq_true_eq, beq_iff_eq, mem_toList]
  constructor
  · rintro ⟨⟨hnonneg, hlt⟩, hx⟩
    obtain ⟨k, hk⟩ := Int.eq_ofNat_of_zero_le hnonneg
    rw [hk] at hlt hx
    exact ⟨k, Int.ofNat_lt.1 hlt, hx⟩
  · rintro ⟨k, hk, rfl⟩
    -- The division is exact, so the sign of the step does not show in how it rounds.
    have hquotient : (a.nth k - a.start) / a.step = k := by
      rw [nth, add_sub_cancel_left, Int.mul_ediv_cancel _ a.step_ne_zero]
    rw [hquotient]
    exact ⟨⟨Int.natCast_nonneg k, Int.ofNat_lt.2 hk⟩, rfl⟩

theorem firstIndices_eq (a : Axis) (limit : Nat) : a.firstIndices limit = a.toList.take limit := by
  rw [firstIndices, toList, ← List.map_take, List.take_range]

end Axis

/-! ## Tuples -/

namespace IndexSpace

variable {α β : Type}

theorem mem_tuples {pools : List (List α)} {t : List α} :
    t ∈ tuples pools ↔ List.Forall₂ (fun x pool => x ∈ pool) t pools := by
  induction pools generalizing t with
  | nil => rw [tuples, List.mem_singleton, List.forall₂_nil_right_iff]
  | cons pool pools ih =>
    simp only [tuples, List.mem_flatMap, List.mem_map, ih, List.forall₂_cons_right_iff]
    constructor
    · rintro ⟨x, hx, u, hu, rfl⟩
      exact ⟨x, u, hx, hu, rfl⟩
    · rintro ⟨x, u, hx, hu, rfl⟩
      exact ⟨x, hx, u, hu, rfl⟩

theorem length_tuples (pools : List (List α)) : (tuples pools).length = (pools.map List.length).prod := by
  induction pools with
  | nil => rfl
  | cons pool pools ih =>
    simp only [tuples, List.length_flatMap, List.length_map, ih, List.map_const', List.sum_replicate, smul_eq_mul,
      List.map_cons, List.prod_cons]

theorem nodup_tuples {pools : List (List α)} (h : ∀ pool ∈ pools, pool.Nodup) : (tuples pools).Nodup := by
  induction pools with
  | nil => exact List.nodup_singleton _
  | cons pool pools ih =>
    obtain ⟨hpool, hpools⟩ := List.forall_mem_cons.1 h
    rw [tuples, List.nodup_flatMap]
    refine ⟨fun x _ => (ih hpools).map (List.cons_injective), hpool.imp fun hne => ?_⟩
    -- tuples with different heads are different
    intro t ht ht'
    obtain ⟨u, -, rfl⟩ := List.mem_map.1 ht
    obtain ⟨v, -, hv⟩ := List.mem_map.1 ht'
    exact hne (List.cons.inj hv).1.symm

theorem tuples_map (f : α → β) (pools : List (List α)) :
    tuples (pools.map (List.map f)) = (tuples pools).map (List.map f) := by
  induction pools with
  | nil => rfl
  | cons pool pools ih =>
    simp only [List.map_cons, tuples, ih, List.flatMap_map, List.map_flatMap, List.map_map]
    rfl

/-! ## The first tuples -/

/-- The first items of a concatenation need no more than the first items of each part. -/
theorem take_flatMap_take {f : α → List β} (xs : List α) {j k : Nat} (h : j ≤ k) :
    (xs.flatMap fun x => (f x).take k).take j = (xs.flatMap f).take j := by
  induction xs generalizing j with
  | nil => rfl
  | cons x xs ih =>
    rw [List.flatMap_cons, List.flatMap_cons, List.take_append, List.take_append, List.take_take, Nat.min_eq_left h,
      ih (Nat.le_trans (Nat.sub_le _ _) h), List.length_take]
    congr 2
    omega

/-- Nor do they need more parts than there are items, if no part is empty. -/
theorem take_take_flatMap {f : α → List β} (hf : ∀ x, f x ≠ []) (xs : List α) {j k : Nat} (h : j ≤ k) :
    ((xs.take k).flatMap f).take j = (xs.flatMap f).take j := by
  induction xs generalizing j k with
  | nil => rw [List.take_nil]
  | cons x xs ih =>
    cases k with
    | zero => rw [Nat.le_zero.1 h, List.take_zero, List.take_zero]
    | succ k =>
      have hpos := List.length_pos_iff.2 (hf x)
      rw [List.take_succ_cons, List.flatMap_cons, List.flatMap_cons, List.take_append, List.take_append,
        ih (by omega : j - (f x).length ≤ k)]

/-- **The first tuples are found without the others.** -/
theorem firstTuples_eq (limit : Nat) (pools : List (List α)) : firstTuples limit pools = (tuples pools).take limit := by
  induction pools with
  | nil => rfl
  | cons pool pools ih =>
    simp only [firstTuples, tuples, ih, List.map_take, take_flatMap_take _ (Nat.le_refl limit)]
    by_cases hnil : tuples pools = []
    · have hempty : ∀ xs : List α, (xs.flatMap fun x => (tuples pools).map (x :: ·)) = [] := fun xs =>
        List.flatMap_eq_nil_iff.2 fun x _ => by rw [hnil, List.map_nil]
      rw [hempty, hempty]
    · exact take_take_flatMap (fun x hx => hnil (List.map_eq_nil_iff.1 hx)) pool (Nat.le_refl limit)

theorem firstTuples_take (limit : Nat) (pools : List (List α)) :
    firstTuples limit (pools.map (List.take limit)) = firstTuples limit pools := by
  induction pools with
  | nil => rfl
  | cons pool pools ih => simp only [List.map_cons, firstTuples, ih, List.take_take, Nat.min_self]

end IndexSpace

/-! ## Index spaces as values -/

def Value.ofInts (ns : List Int) : Value := .ofItems (ns.map .ofInt)

def tuplesOf (axes : List Axis) : List (List Int) := IndexSpace.tuples (axes.map Axis.toList)

section Space

variable {axes : List Axis} {slots : Slots}

theorem length_tuplesOf (axes : List Axis) : (tuplesOf axes).length = (axes.map Axis.length).prod := by
  rw [tuplesOf, IndexSpace.length_tuples, List.map_map]
  exact congrArg List.prod (List.map_congr_left fun a _ => a.length_toList)

theorem nodup_tuplesOf (axes : List Axis) : (tuplesOf axes).Nodup := by
  refine IndexSpace.nodup_tuples fun pool hpool => ?_
  obtain ⟨a, -, rfl⟩ := List.mem_map.1 hpool
  exact a.nodup_toList

theorem mem_tuplesOf {ns : List Int} : ns ∈ tuplesOf axes ↔ List.Forall₂ (fun n a => n ∈ a.toList) ns axes := by
  rw [tuplesOf, IndexSpace.mem_tuples, List.forall₂_map_right_iff]

theorem poolsOfAll_ranges (limit : Option Nat) (h : ∀ a ∈ axes, a.length ≤ Axis.maxLength) :
    poolsOfAll limit (axes.map .range) = .ok (axes.map fun a => (firstOf limit a.toList).map .ofInt) := by
  induction axes with
  | nil => rfl
  | cons a axes ih =>
    obtain ⟨ha, haxes⟩ := List.forall_mem_cons.1 h
    have hitems : (Value.range a).firstItems limit = .ok ((firstOf limit a.toList).map .ofInt) := by
      show a.items limit = _
      unfold Axis.items
      rw [show a.length? = some a.length from if_pos ha]
      cases limit with
      | none =>
        show Except.ok ((a.firstIndices a.length).map Value.ofInt) = _
        rw [a.firstIndices_eq, ← a.length_toList, List.take_length]
        rfl
      | some n => exact congrArg (fun is : List Int => Except.ok (is.map Value.ofInt)) (a.firstIndices_eq n)
    rw [List.map_cons, poolsOfAll, hitems, ih haxes]
    rfl

/-- **An index space enumerates the tuples over its axes**, or the first of them. -/
theorem firstItems_space (limit : Option Nat) (h : ∀ a ∈ axes, a.length ≤ Axis.maxLength) (m : Mark) :
    (Value.space (.ofItems (axes.map .range)) m).firstItems limit =
      .ok ((firstOf limit (tuplesOf axes)).map .ofInts) := by
  have hspace : (Value.space (.ofItems (axes.map .range)) m).firstItems limit =
      (do return (tuplesOver limit (← poolsOfAll limit (axes.map .range))).map Value.ofItems) := rfl
  have hpools : axes.map (fun a => a.toList.map Value.ofInt) = (axes.map Axis.toList).map (List.map Value.ofInt) := by
    rw [List.map_map]
    rfl
  rw [hspace, poolsOfAll_ranges limit h]
  cases limit with
  | none =>
    show Except.ok ((IndexSpace.tuples (axes.map fun a => a.toList.map Value.ofInt)).map Value.ofItems) = _
    rw [hpools, IndexSpace.tuples_map, List.map_map]
    rfl
  | some n =>
    -- The pools have been cut before their tuples are, which makes no difference to the first of these.
    have htake : (axes.map fun a => (a.toList.take n).map Value.ofInt) =
        (axes.map fun a => a.toList.map Value.ofInt).map (List.take n) := by
      rw [List.map_map]
      exact List.map_congr_left fun a _ => List.map_take
    show Except.ok ((IndexSpace.firstTuples n (axes.map fun a => (a.toList.take n).map Value.ofInt)).map
      Value.ofItems) = _
    rw [htake, IndexSpace.firstTuples_take, IndexSpace.firstTuples_eq, hpools, IndexSpace.tuples_map, ← List.map_take,
      List.map_map]
    rfl

/-! ## Membership -/

theorem Axis.holds_of_exactInt {a : Axis} {v : Value} {n : Int} (h : v.exactInt? = some n) :
    a.holds v = .ok (a.contains n) := by
  unfold Axis.holds
  rw [h]

theorem allHold_ranges {items : List Value} {ns : List Int}
    (h : List.Forall₂ (fun v n => v.exactInt? = some n) items ns) (hlength : axes.length = items.length) :
    allHold slots (axes.map .range) items = .ok (decide (ns ∈ tuplesOf axes)) := by
  induction h generalizing axes with
  | nil =>
    obtain rfl := List.length_eq_zero_iff.1 hlength
    rfl
  | @cons v n items ns hv _ ih =>
    obtain ⟨a, axes, rfl⟩ := List.exists_cons_of_length_eq_add_one hlength
    have hhead : (Value.range a).holds slots v = .ok (a.contains n) := Axis.holds_of_exactInt hv
    have hmem : n :: ns ∈ tuplesOf (a :: axes) ↔ a.contains n = true ∧ ns ∈ tuplesOf axes := by
      rw [mem_tuplesOf, mem_tuplesOf, List.forall₂_cons, Axis.contains_iff]
    rw [List.map_cons, allHold, hhead]
    by_cases hc : a.contains n = true
    · rw [decide_eq_decide.2 (hmem.trans (and_iff_right hc)), ← ih (Nat.succ.inj hlength), hc]
      rfl
    · rw [decide_eq_false fun hns => hc (hmem.1 hns).1, Bool.eq_false_iff.2 hc]
      rfl

/-- **An index space holds exactly the tuples that it enumerates.** -/
theorem holds_space {items : List Value} {ns : List Int}
    (h : List.Forall₂ (fun v n => v.exactInt? = some n) items ns) (m m' : Mark) :
    (Value.space (.ofItems (axes.map .range)) m).holds slots (.tuple items m') = .ok (decide (ns ∈ tuplesOf axes)) := by
  have hholds : (Value.space (.ofItems (axes.map .range)) m).holds slots (.tuple items m') =
      if (axes.map Value.range).length ≠ items.length then .ok false
      else allHold slots (axes.map .range) items := rfl
  rw [hholds, List.length_map]
  split
  · rename_i hne
    rw [decide_eq_false fun hns => hne ?_]
    rw [← (mem_tuplesOf.1 hns).length_eq, h.length_eq]
  · rename_i heq
    exact allHold_ranges h (Decidable.not_not.1 heq)

end Space

/-! ## Queries -/

namespace Shape

def Measurable (s : Shape) : Prop := ∀ a ∈ s.axes, a.length ≤ Axis.maxLength

theorem Measurable.lengths?_eq {s : Shape} (h : s.Measurable) : s.lengths? = some (s.axes.map Axis.length) := by
  unfold Measurable at h
  unfold lengths?
  generalize s.axes = axes at h
  induction axes with
  | nil => rfl
  | cons a axes ih =>
    obtain ⟨ha, haxes⟩ := List.forall_mem_cons.1 h
    rw [List.mapM_cons, Axis.length?_of_le ha, ih haxes]
    rfl

theorem getElem?_axes {s : Shape} {d : Nat} (h : 1 ≤ d) (hd : d ≤ s.rank) : s.axes[d - 1]? = some (s.axis d) := by
  have hlt : d - 1 < s.axes.length := by
    rw [rank] at hd
    omega
  rw [axis, List.getD_eq_getElem?_getD, List.getElem?_eq_getElem hlt, Option.getD_some]

theorem axis_past {s : Shape} {d : Nat} (hd : s.rank < d) : s.axis d = .trivial := by
  have hle : s.axes.length ≤ d - 1 := by
    rw [rank] at hd
    omega
  rw [axis, List.getD_eq_getElem?_getD, List.getElem?_eq_none hle, Option.getD_none]

theorem Measurable.axis_le {s : Shape} (h : s.Measurable) {d : Nat} (hd : 1 ≤ d) :
    (s.axis d).length ≤ Axis.maxLength := by
  by_cases hle : d ≤ s.rank
  · exact h _ (List.mem_of_getElem? (getElem?_axes hd hle))
  · rw [axis_past (Nat.lt_of_not_le hle)]
    decide

end Shape

namespace Query

variable {slots : Slots} {v : Value} {s : Shape}

theorem knownShape_eq (h : slots.shapeOf v = .ok (some s)) (f : Fact) : knownShape slots v f = .ok s := by
  unfold knownShape
  rw [h]
  rfl

theorem dimensionCount_eq {r : Nat} (h : v.rank = .ok (some r)) : dimensionCount v = .ok r := by
  obtain ⟨t, ht, hr⟩ := exceptBind_ok.1 h
  unfold dimensionCount
  rw [ht]
  dsimp only [bind, Except.bind]
  rw [exceptPure_ok.1 hr]
  rfl

theorem toDimension_eq {d : Int} (h : 1 ≤ d) (m : Mark) : toDimension (.int d m) = .ok d.toNat :=
  if_neg (Int.not_lt.2 h)

theorem totalLength_eq (h : slots.shapeOf v = .ok (some s)) (hm : s.Measurable) :
    totalLength slots v = .ok (s.axes.map Axis.length).prod := by
  unfold totalLength Shape.total?
  rw [knownShape_eq h, exceptBind_ok]
  refine ⟨s, rfl, ?_⟩
  rw [hm.lengths?_eq, Option.map_some, ← List.prod_eq_foldl]
  rfl

theorem lengths_eq (h : slots.shapeOf v = .ok (some s)) (hm : s.Measurable) :
    lengths slots v = .ok (s.axes.map Axis.length) := by
  unfold lengths
  rw [knownShape_eq h, exceptBind_ok]
  refine ⟨s, rfl, ?_⟩
  rw [hm.lengths?_eq]
  rfl

/-- The length along a dimension is that of the axis, although past the declared rank the axis is not looked at. -/
theorem length_eq (hr : v.rank = .ok (some s.rank)) (h : slots.shapeOf v = .ok (some s)) (hm : s.Measurable) {d : Nat}
    (hd : 1 ≤ d) : length slots v d = .ok (s.axis d).length := by
  unfold length
  rw [dimensionCount_eq hr, exceptBind_ok]
  refine ⟨s.rank, rfl, ?_⟩
  by_cases hlt : s.rank < d
  · rw [if_pos hlt, Shape.axis_past hlt]
    rfl
  · rw [if_neg hlt, knownShape_eq h, exceptBind_ok]
    refine ⟨s, rfl, ?_⟩
    rw [Axis.length?_of_le (hm.axis_le hd)]
    rfl

theorem axes_eq (h : slots.shapeOf v = .ok (some s)) : axes slots v = .ok s.axes := by
  unfold axes
  rw [knownShape_eq h]
  rfl

theorem axis_eq (h : slots.shapeOf v = .ok (some s)) (d : Nat) : axis slots v d = .ok (s.axis d) := by
  unfold axis
  rw [knownShape_eq h]
  rfl

theorem indexSpace_eq (h : slots.shapeOf v = .ok (some s)) : indexSpace slots v = .ok s.axes := by
  unfold indexSpace
  rw [knownShape_eq h]
  rfl

end Query

/-- What the queries about one value answer, and how it fits together: the number of dimensions, the lengths and axes of
all of them and of one, the number of index tuples, and the `tuples` themselves. -/
structure Query.Agree (slots : Slots) (v : Value) (rank : Nat) (lengths : List Nat) (known : List Axis) (space : Value)
    (tuples : List (List Int)) : Prop where
  dimensionCount : dimensionCount v = .ok rank
  size : Queries.size slots v .none = .ok (.ofLengths lengths)
  axes : Queries.axes slots v .none = .ok (.ofItems (known.map .range))
  axes_length : (Value.ofItems (known.map .range)).length slots = .ok rank
  along : ∀ (d : Int) (m : Mark), 1 ≤ d → ∃ (n : Nat) (a : Axis),
    Queries.size slots v (.int d m) = .ok (.ofInt n) ∧ Queries.axes slots v (.int d m) = .ok (.range a) ∧
    (Value.range a).length slots = .ok n ∧ (d ≤ rank → lengths[d.toNat - 1]? = some n) ∧
    (rank < d → n = 1 ∧ a.plain = .ofLength 1)
  totalLength : totalLength slots v = .ok lengths.prod
  indexSpace : Queries.indexSpace slots v = .ok space
  enumerated : space.iterate = .ok (tuples.map .ofInts)
  first : ∀ limit, space.someItems limit = .ok ((tuples.take limit).map .ofInts)
  count : tuples.length = lengths.prod
  nodup : tuples.Nodup
  holds : ∀ (items : List Value) (m : Mark) (ns : List Int),
    List.Forall₂ (fun v n => v.exactInt? = some n) items ns →
    space.holds slots (.tuple items m) = .ok (decide (ns ∈ tuples))

theorem Query.agree {slots : Slots} {v : Value} {s : Shape} (hv : v.Ranked slots)
    (hs : slots.shapeOf v = .ok (some s)) (hm : s.Measurable) :
    Query.Agree slots v s.rank (s.axes.map Axis.length) s.axes (.space (.ofItems (s.axes.map .range)) Mark.unmarked)
      (tuplesOf s.axes) where
  dimensionCount := dimensionCount_eq (hv s hs)
  size := by
    unfold Queries.size
    rw [lengths_eq hs hm]
    rfl
  axes := by
    unfold Queries.axes
    rw [axes_eq hs]
    rfl
  axes_length := congrArg Except.ok (List.length_map ..)
  along d m hd := by
    have hpos : 1 ≤ d.toNat := by omega
    refine ⟨(s.axis d.toNat).length, s.axis d.toNat, ?_, ?_, ?_, fun hle => ?_, fun hlt => ?_⟩
    · have hsize : Queries.size slots v (.int d m) =
          (do return .ofInt (← length slots v (← toDimension (.int d m)))) := rfl
      rw [hsize, toDimension_eq hd, exceptBind_ok]
      refine ⟨d.toNat, rfl, ?_⟩
      rw [length_eq (hv s hs) hs hm hpos]
      rfl
    · have haxes : Queries.axes slots v (.int d m) =
          (do let _ ← axes slots v; return .range (← axis slots v (← toDimension (.int d m)))) := rfl
      rw [haxes, axes_eq hs, exceptBind_ok]
      refine ⟨s.axes, rfl, ?_⟩
      rw [toDimension_eq hd, exceptBind_ok]
      refine ⟨d.toNat, rfl, ?_⟩
      rw [axis_eq hs]
      rfl
    · show measured (s.axis d.toNat).length? = _
      rw [Axis.length?_of_le (hm.axis_le hpos)]
      rfl
    · rw [List.getElem?_map, Shape.getElem?_axes hpos (by omega), Option.map_some]
    · rw [Shape.axis_past (by omega)]
      exact ⟨rfl, rfl⟩
  totalLength := totalLength_eq hs hm
  indexSpace := by
    unfold Queries.indexSpace
    rw [indexSpace_eq hs]
    rfl
  enumerated := firstItems_space none hm Mark.unmarked
  first limit := firstItems_space (some limit) hm Mark.unmarked
  count := length_tuplesOf s.axes
  nodup := nodup_tuplesOf s.axes
  holds items m ns h := holds_space h _ m

/-- The values that can be asked about in a run: the nodes that it has produced, literals and concrete arrays. -/
inductive Queryable (history : List Entry) : Value → Prop where
  | node {n : Node} (h : n ∈ produced history) : Queryable history (.node n)
  | literal {v : Value} (h : v.isScalarLiteral = true) : Queryable history v
  | array (a : ConcreteArray) : Queryable history (.array a)

namespace Run

variable {st : Store} {history : List Entry}

theorem ranked_of_queryable (h : Run st history) {v : Value} (hv : Queryable history v) : v.Ranked st.slots := by
  cases hv with
  | node hn => exact (h.sound.held _ hn).ranked_value
  | literal hv => exact Value.ranked_of_literal hv st.slots
  | array a => exact Value.ranked_of_array a st.slots

/-- **All queries agree about every value of a run** whose shape is known and has axes that can be measured, whatever
their bounds and steps. -/
theorem queries_agree (h : Run st history) {v : Value} (hv : Queryable history v) {s : Shape}
    (hs : st.slots.shapeOf v = .ok (some s)) (hm : ∀ a ∈ s.axes, a.length ≤ Axis.maxLength) :
    ∃ rank lengths axes space tuples, Query.Agree st.slots v rank lengths axes space tuples :=
  ⟨_, _, _, _, _, Query.agree (h.ranked_of_queryable hv) hs hm⟩

/-- An array symbol with a descending axis. -/
theorem queries_agree_descending :
    let down : Axis := ⟨5, -1, -2, by decide, Mark.unmarked⟩
    let declared : Call := .arraySymbol (.ofString "A") (.ofItems [.range down, .ofInt 2]) .unknown .none (.kind .plain)
    ∃ st n s, Run st [⟨declared, .ok [n]⟩] ∧ Queryable [⟨declared, .ok [n]⟩] (.node n) ∧
      st.slots.shapeOf (.node n) = .ok (some s) ∧ s.axes.map Axis.toList = [[5, 3, 1], [0, 1]] ∧
      (∀ a ∈ s.axes, a.length ≤ Axis.maxLength) ∧
      ∃ rank lengths axes space tuples, Query.Agree st.slots (.node n) rank lengths axes space tuples := by
  intro down declared
  have hrun := Run.call declared .start (List.nil_subset _)
  obtain ⟨n, st, hn, s, hs, hindices⟩ : ∃ n st, Build.outcome declared.perform .empty = (.ok [n], st) ∧
      ∃ s, st.slots.shapeOf (.node n) = .ok (some s) ∧ s.axes.map Axis.toList = [[5, 3, 1], [0, 1]] :=
    ⟨_, _, rfl, _, rfl, by decide⟩
  rw [hn] at hrun
  have hquery : Queryable [⟨declared, .ok [n]⟩] (.node n) :=
    .node (mem_produced_of_answer List.mem_cons_self rfl List.mem_cons_self)
  have hm : ∀ a ∈ s.axes, a.length ≤ Axis.maxLength := fun a ha => by
    have hmem : a.toList ∈ [[5, 3, 1], [0, 1]] := hindices ▸ List.mem_map_of_mem ha
    rw [← a.length_toList]
    simp only [List.mem_cons, List.not_mem_nil, or_false] at hmem
    rcases hmem with hmem | hmem <;> rw [hmem] <;> decide
  exact ⟨st, n, s, hrun, hquery, hs, hindices, hm, queries_agree hrun hquery hs hm⟩

end Run

end ArrayTyping

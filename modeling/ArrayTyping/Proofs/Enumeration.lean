import ArrayTyping.Proofs.ConflictReports
import ArrayTyping.Proofs.IndexSpaces
import ArrayTyping.Proofs.Stretching
import Mathlib.Algebra.Order.Floor.Ring
import Mathlib.Data.Rat.Floor
/-!
# Enumeration — axes compared by what they enumerate

An axis is enumerated from its first index on, step by step, for as long as the bound is not reached.  Nothing of that
is done when two axes are compared: their lengths are computed by a division that rounds up, and then at most the first
indices and the steps are looked at.  The comparison tells all the same exactly whether the enumerations are equal, so
the three places that rest on it (one symbol on several arrays, broadcasting, contraction) refuse exactly what runs along
other indices.
-/
namespace ArrayTyping

namespace Axis

/-! ## The enumeration -/

/-- An index on the near side of the bound, seen in the direction of the step. -/
def Precedes (a : Axis) (i : Int) : Prop := if 0 < a.step then i < a.stop else a.stop < i

instance (a : Axis) (i : Int) : Decidable (a.Precedes i) := by
  unfold Precedes
  infer_instance

def distance (a : Axis) (i : Int) : Nat := if 0 < a.step then (a.stop - i).toNat else (i - a.stop).toNat

theorem distance_lt {a : Axis} {i : Int} (h : a.Precedes i) : a.distance (i + a.step) < a.distance i := by
  have hstep := a.step_ne_zero
  unfold Precedes at h
  unfold distance
  split at h <;> simp only [*, if_true, if_false] <;> omega

def countFrom (a : Axis) (i : Int) : List Int :=
  if a.Precedes i then i :: a.countFrom (i + a.step) else []
termination_by a.distance i
decreasing_by exact distance_lt ‹_›

def indices (a : Axis) : List Int := a.countFrom a.start

/-! ## The length -/

theorem precedes_nth_iff {a : Axis} {k : Nat} : a.Precedes (a.nth k) ↔ k < a.length := by
  have hstep := a.step_ne_zero
  unfold Precedes length nth
  by_cases hpos : 0 < a.step
  · have hmul : ((k : Int) + 1) * a.step = k * a.step + a.step := by rw [add_mul, one_mul]
    have hdiv := Int.le_ediv_iff_mul_le (a := k + 1) (b := a.stop - a.start + a.step - 1) hpos
    simp only [hpos, if_true]
    omega
  · have hneg : 0 < -a.step := by omega
    have hmul : ((k : Int) + 1) * -a.step = -(k * a.step) - a.step := by
      rw [add_mul, one_mul, mul_neg, Int.sub_eq_add_neg]
    have hdiv := Int.le_ediv_iff_mul_le (a := k + 1) (b := a.start - a.stop - a.step - 1) hneg
    simp only [hpos, if_false]
    omega

theorem nth_add_step (a : Axis) (k : Nat) : a.nth k + a.step = a.nth (k + 1) := by
  simp only [nth, Nat.cast_add, Nat.cast_one, add_mul, one_mul, add_assoc]

theorem countFrom_nth (a : Axis) {k n : Nat} (h : k + n = a.length) :
    a.countFrom (a.nth k) = (List.range' k n).map a.nth := by
  induction n generalizing k with
  | zero =>
    have hend : ¬ a.Precedes (a.nth k) := by
      rw [precedes_nth_iff]
      omega
    rw [countFrom, if_neg hend]
    rfl
  | succ n ih =>
    have hgo : a.Precedes (a.nth k) := precedes_nth_iff.2 (by omega)
    rw [countFrom, if_pos hgo, nth_add_step, ih (by omega), List.range'_succ, List.map_cons]

/-- **Step by step the same indices come out** as are computed from the length. -/
theorem indices_eq_toList (a : Axis) : a.indices = a.toList := by
  have hfirst : a.nth 0 = a.start := by simp [nth]
  have hcount := a.countFrom_nth (Nat.zero_add a.length)
  rw [hfirst] at hcount
  rw [indices, hcount, toList, List.range_eq_range']

theorem precedes_nth_iff_lt_div {a : Axis} {k : Nat} :
    a.Precedes (a.nth k) ↔ (k : ℚ) < ((a.stop - a.start : Int) : ℚ) / (a.step : ℚ) := by
  have hcast : ∀ m n : Int, (m : ℚ) < n ↔ m < n := fun m n => Int.cast_lt
  have hk : (k : ℚ) * (a.step : ℚ) = ((k * a.step : Int) : ℚ) := by push_cast; rfl
  unfold Precedes nth
  rcases lt_or_gt_of_ne a.step_ne_zero with hneg | hpos
  · have hneg' : (a.step : ℚ) < 0 := by exact_mod_cast hneg
    rw [if_neg (by omega), lt_div_iff_of_neg hneg', hk, hcast]
    omega
  · have hpos' : (0 : ℚ) < a.step := by exact_mod_cast hpos
    rw [if_pos hpos, lt_div_iff₀ hpos', hk, hcast]
    omega

/-- **The length is the distance to the bound in steps, rounded up**, and zero where that is negative. -/
theorem length_eq_ceil (a : Axis) :
    (a.length : Int) = max 0 ⌈((a.stop - a.start : Int) : ℚ) / (a.step : ℚ)⌉ := by
  have hiff : ∀ k : Nat, k < a.length ↔ (k : Int) < ⌈((a.stop - a.start : Int) : ℚ) / (a.step : ℚ)⌉ := by
    intro k
    rw [← precedes_nth_iff, precedes_nth_iff_lt_div, Int.lt_ceil, Int.cast_natCast]
  generalize ⌈((a.stop - a.start : Int) : ℚ) / (a.step : ℚ)⌉ = c at hiff
  have hself := hiff a.length
  have hend := hiff c.toNat
  omega

/-! ## The comparison -/

theorem agrees_iff_indices {a b : Axis} : a.agrees b = true ↔ a.indices = b.indices := by
  rw [agrees_iff, indices_eq_toList, indices_eq_toList]

theorem length_indices (a : Axis) : a.indices.length = a.length := by
  rw [indices_eq_toList, length_toList]

theorem contains_iff_indices {a : Axis} {x : Int} : a.contains x = true ↔ x ∈ a.indices := by
  rw [contains_iff, indices_eq_toList]

/-- A test that compares axes by what they enumerate: however they are spelled, and without enumerating them. -/
structure ComparesIndices (test : Axis → Axis → Bool) : Prop where
  same_indices : ∀ a b, test a b = true ↔ a.indices = b.indices
  equivalence : Equivalence fun a b => test a b = true
  same_length : ∀ a b, test a b = true → a.length = b.length
  same_members : ∀ a b, test a b = true → ∀ x, a.contains x = b.contains x
  empties : ∀ a b, a.length = 0 → b.length = 0 → test a b = true
  respelled : ∀ a stop, { a with stop := stop }.length = a.length → test { a with stop := stop } a = true
  by_parts : ∀ a b, test a b = true ↔
    a.length = b.length ∧ (a.length = 0 ∨ a.start = b.start ∧ (a.length = 1 ∨ a.step = b.step))

theorem comparesIndices_agrees : ComparesIndices agrees where
  same_indices _ _ := agrees_iff_indices
  equivalence := by
    refine ⟨fun a => ?_, fun h => ?_, fun h h' => ?_⟩
    · exact agrees_iff_indices.2 rfl
    · exact agrees_iff_indices.2 (agrees_iff_indices.1 h).symm
    · exact agrees_iff_indices.2 ((agrees_iff_indices.1 h).trans (agrees_iff_indices.1 h'))
  same_length a b h := by
    have hindices := agrees_iff_indices.1 h
    rw [← a.length_indices, hindices, b.length_indices]
  same_members a b h x := by
    have hindices := agrees_iff_indices.1 h
    rw [Bool.eq_iff_iff, contains_iff_indices, contains_iff_indices, hindices]
  empties a b ha hb := by
    rw [agrees_iff, toList_of_length_zero ha, toList_of_length_zero hb]
  respelled a stop h := agrees_iff.2 (toList_congr h rfl rfl)
  by_parts a b := by simp only [agrees, Bool.and_eq_true, Bool.or_eq_true, beq_iff_eq]

end Axis

/-! ## Where axes are compared -/

theorem Broadcast.compatible_iff_indices {as : List Axis} : Compatible as ↔
    ∀ a ∈ as, ∀ b ∈ as, a.length ≠ 1 → b.length ≠ 1 → a.indices = b.indices := by
  simp only [Compatible, Axis.indices_eq_toList]

theorem Broadcast.broadcast_iff_indices {shapes : List Shape} :
    (∃ s, broadcast shapes = .ok s) ↔ (∀ s ∈ shapes, Measured s.axes) ∧
      ∀ k, ∀ a ∈ aligned shapes k, ∀ b ∈ aligned shapes k, a.length ≠ 1 → b.length ≠ 1 → a.indices = b.indices := by
  simp only [← compatible_iff_indices]
  constructor
  · rintro ⟨s, hs⟩
    obtain ⟨hm, hc, -⟩ := broadcast_ok_iff.1 hs
    exact ⟨hm, hc⟩
  · rintro ⟨hm, hc⟩
    exact broadcast_exists hm hc

theorem Shape.product_contraction_iff {l r : Shape} {a b : Axis} (ha : l.axes.getLast? = some a)
    (hb : r.contracted? = some b) : (∃ d, l.product r = .error (.contraction d a b)) ↔ a.indices ≠ b.indices := by
  unfold Shape.product
  rw [ha, hb, ← not_iff_not, not_not, ← Axis.agrees_iff_indices]
  dsimp only
  by_cases hab : a.agrees b = true
  · rw [if_pos hab]
    refine iff_of_true ?_ hab
    rintro ⟨d, hd⟩
    split at hd <;> cases hd
  · rw [if_neg hab]
    exact iff_of_false (fun h => h ⟨_, rfl⟩) hab

namespace Usage

open Build (outcome)

variable {slots : Slots}

theorem checkAgainst_ok_iff {name : Except Fault Label} {expected : Axis} {xs : List (Occurrence × Shape)} :
    checkAgainst name expected xs = .ok () ↔
      ∀ x ∈ xs, ∃ a, x.2.axisAt x.1.dimension = .ok a ∧ a.toList = expected.toList := by
  induction xs with
  | nil => simp [checkAgainst]
  | cons x xs ih =>
    obtain ⟨o, s⟩ := x
    rw [checkAgainst, List.forall_mem_cons, ← ih]
    cases haxis : s.axisAt o.dimension with
    | error f => simp [bind, Except.bind]
    | ok got =>
      have hagree := Axis.agrees_iff (a := got) (b := expected)
      by_cases h : got.agrees expected = true
      · simp [bind, Except.bind, h, hagree.1 h]
      · have hne : got.toList ≠ expected.toList := mt hagree.2 h
        simp only [bind, Except.bind, h, Bool.false_eq_true, if_false]
        cases name <;> cases o.reportedDimension <;> simp [hne, throw, throwThe, MonadExceptOf.throw]

theorem known_ok {os : List Occurrence} {xs : List (Occurrence × Shape)} (h : known slots os = .ok xs) :
    (∀ o ∈ os, ∃ info, slots.shapeOf o.array = .ok info) ∧
      ∀ x, x ∈ xs ↔ x.1 ∈ os ∧ slots.shapeOf x.1.array = .ok (some x.2) := by
  induction os generalizing xs with
  | nil =>
    cases h
    simp
  | cons o os ih =>
    rcases hs : slots.shapeOf o.array with f | _ | s
    · rw [known_cons_of_unreadable os hs] at h
      cases h
    · rw [known_cons_of_unknown os hs] at h
      obtain ⟨hall, hmem⟩ := ih h
      refine ⟨List.forall_mem_cons.2 ⟨⟨none, hs⟩, hall⟩, fun x => ?_⟩
      rw [hmem, List.mem_cons]
      have hne (hx : x.1 = o) : slots.shapeOf x.1.array ≠ .ok (some x.2) := by simp [hx, hs]
      tauto
    · rw [known_cons_of_known os hs] at h
      obtain ⟨ys, hys, h⟩ := exceptBind_ok.1 h
      cases h
      obtain ⟨hall, hmem⟩ := ih hys
      refine ⟨List.forall_mem_cons.2 ⟨⟨some s, hs⟩, hall⟩, fun x => ?_⟩
      rw [List.mem_cons, hmem, List.mem_cons]
      have hx : x = (o, s) ↔ x.1 = o ∧ slots.shapeOf x.1.array = .ok (some x.2) := by
        constructor
        · rintro rfl
          exact ⟨rfl, hs⟩
        · rintro ⟨rfl, hx⟩
          rw [hs] at hx
          cases hx
          rfl
      rw [hx]
      tauto

theorem known_exists {os : List Occurrence} (h : ∀ o ∈ os, ∃ a?, o.axis slots = .ok a?) :
    ∃ xs, known slots os = .ok xs := by
  cases hxs : known slots os with
  | ok xs => exact ⟨xs, rfl⟩
  | error f =>
    obtain ⟨o, ho, hf⟩ := known_error hxs
    obtain ⟨a?, ha⟩ := h o ho
    rw [ha] at hf
    cases hf

theorem axis_eq_some_iff {o : Occurrence} {a : Axis} :
    o.axis slots = .ok (some a) ↔ ∃ s, slots.shapeOf o.array = .ok (some s) ∧ s.axisAt o.dimension = .ok a := by
  rcases hs : slots.shapeOf o.array with f | _ | s
  · simp [Occurrence.axis_of_unreadable hs]
  · simp [Occurrence.axis_of_unknown hs]
  · rw [Occurrence.axis_of_known hs]
    cases haxis : s.axisAt o.dimension <;> simp [bind, Except.bind, pure, Except.pure, haxis]

theorem reference_ok_iff (name : Except Fault Label) {os : List Occurrence} :
    (∃ a?, reference slots name os = .ok a?) ↔
      (∀ o ∈ os, ∃ a?, o.axis slots = .ok a?) ∧ Concordant slots os := by
  constructor
  · rintro ⟨a?, h⟩
    obtain ⟨xs, hxs, h⟩ := exceptBind_ok.1 h
    obtain ⟨hread, hmem⟩ := known_ok hxs
    -- All known occurrences run along one axis, that of the first.
    have halong : ∃ e : Axis, ∀ x ∈ xs, ∃ a, x.2.axisAt x.1.dimension = .ok a ∧ a.toList = e.toList := by
      cases xs with
      | nil => exact ⟨.trivial, by simp⟩
      | cons x rest =>
        obtain ⟨e, he, h⟩ := exceptBind_ok.1 h
        obtain ⟨_, hcheck, -⟩ := exceptBind_ok.1 h
        exact ⟨e, List.forall_mem_cons.2 ⟨⟨e, he, rfl⟩, checkAgainst_ok_iff.1 hcheck⟩⟩
    obtain ⟨e, halong⟩ := halong
    refine ⟨fun o ho => ?_, fun o ho p hp a b ha hb => ?_⟩
    · obtain ⟨_ | s, hs⟩ := hread o ho
      · exact ⟨none, Occurrence.axis_of_unknown hs⟩
      · obtain ⟨a, ha, -⟩ := halong (o, s) ((hmem _).2 ⟨ho, hs⟩)
        exact ⟨some a, axis_eq_some_iff.2 ⟨s, hs, ha⟩⟩
    · have hto : ∀ {q c}, q ∈ os → q.axis slots = .ok (some c) → c.toList = e.toList := by
        intro q c hq hc
        obtain ⟨s, hs, hc⟩ := axis_eq_some_iff.1 hc
        obtain ⟨c', hc', heq⟩ := halong (q, s) ((hmem _).2 ⟨hq, hs⟩)
        rw [hc] at hc'
        cases hc'
        exact heq
      rw [hto ho ha, hto hp hb]
  · rintro ⟨hread, hconcordant⟩
    obtain ⟨xs, hxs⟩ := known_exists hread
    obtain ⟨-, hmem⟩ := known_ok hxs
    have haxis : ∀ x ∈ xs, x.1 ∈ os ∧ ∃ a, x.2.axisAt x.1.dimension = .ok a ∧ x.1.axis slots = .ok (some a) := by
      intro x hx
      obtain ⟨ho, hs⟩ := (hmem x).1 hx
      obtain ⟨a?, ha⟩ := hread _ ho
      have hknown := Occurrence.axis_of_known hs
      rw [ha] at hknown
      obtain ⟨a, haxis, h⟩ := exceptBind_ok.1 hknown.symm
      cases h
      exact ⟨ho, a, haxis, ha⟩
    unfold reference
    rw [hxs]
    cases xs with
    | nil => exact ⟨none, rfl⟩
    | cons x rest =>
      obtain ⟨⟨ho, e, he, hfirst⟩, hrest⟩ := List.forall_mem_cons.1 haxis
      have hcheck : checkAgainst name e rest = .ok () := by
        refine checkAgainst_ok_iff.2 fun y hy => ?_
        obtain ⟨hp, a, ha, hlater⟩ := hrest y hy
        exact ⟨a, ha, hconcordant _ hp _ ho _ _ hlater hfirst⟩
      refine ⟨some e, ?_⟩
      simp only [bind, Except.bind, he, hcheck]
      rfl

/-- **A usage passes the check** exactly if every occurrence can be read and no two of one symbol run along other
indices. -/
theorem checkConsistency_ok_iff {u : Usage} {st : Store} :
    (∃ refs, (outcome u.checkConsistency st).1 = .ok refs) ↔
      ∀ e ∈ u, (∀ o ∈ e.2, ∃ a?, o.axis st.slots = .ok a?) ∧ Concordant st.slots e.2 := by
  induction u generalizing st with
  | nil => exact iff_of_true ⟨[], rfl⟩ (List.forall_mem_nil _)
  | cons e u ih =>
    obtain ⟨s, os⟩ := e
    rw [List.forall_mem_cons, ← reference_ok_iff (.ok s.name)]
    cases href : reference st.slots (.ok s.name) os with
    | error f =>
      rw [checkConsistency, Build.outcome_bind_of_error (outcome_checkSymbol_of_error href)]
      simp
    | ok a? =>
      obtain ⟨st₁, hslots, hout⟩ := outcome_checkConsistency_cons u href
      rw [hout, ← hslots, ← ih]
      cases (outcome (checkConsistency u) st₁).1 <;> simp [Except.map]

end Usage

/-- **Axes are compared by what they enumerate.**  The test tells exactly whether two axes enumerate the same indices,
although it looks at lengths, first indices and steps only, the length being the distance to the bound in steps, rounded
up.  It is the one test by which occurrences of a symbol, operands of a broadcast and contracted axes are checked. -/
theorem Axis.compared_by_indices :
    ComparesIndices agrees ∧
    (∀ a : Axis, (a.length : Int) = max 0 ⌈((a.stop - a.start : Int) : ℚ) / (a.step : ℚ)⌉ ∧
      a.indices.length = a.length ∧ ∀ x, a.contains x = true ↔ x ∈ a.indices) ∧
    (∀ (u : Usage) (st : Store), (∃ refs, (Build.outcome u.checkConsistency st).1 = .ok refs) ↔
      ∀ e ∈ u, (∀ o ∈ e.2, ∃ a?, o.axis st.slots = .ok a?) ∧
        ∀ o ∈ e.2, ∀ p ∈ e.2, ∀ a b, o.axis st.slots = .ok (some a) → p.axis st.slots = .ok (some b) →
          a.indices = b.indices) ∧
    (∀ shapes : List Shape, (∃ s, broadcast shapes = .ok s) ↔ (∀ s ∈ shapes, Measured s.axes) ∧
      ∀ k, ∀ a ∈ Broadcast.aligned shapes k, ∀ b ∈ Broadcast.aligned shapes k, a.length ≠ 1 → b.length ≠ 1 →
        a.indices = b.indices) ∧
    (∀ (l r : Shape) (a b : Axis), l.axes.getLast? = some a → r.contracted? = some b →
      ((∃ d, l.product r = .error (.contraction d a b)) ↔ a.indices ≠ b.indices)) := by
  refine ⟨comparesIndices_agrees, fun a => ⟨a.length_eq_ceil, a.length_indices, fun x => contains_iff_indices⟩,
    fun u st => ?_, fun shapes => Broadcast.broadcast_iff_indices,
    fun l r a b ha hb => Shape.product_contraction_iff ha hb⟩
  rw [Usage.checkConsistency_ok_iff]
  simp only [Usage.Concordant, indices_eq_toList]

example : Axis.agrees ⟨0, 3, 2, by decide, 0⟩ ⟨0, 4, 2, by decide, 0⟩ = true := by decide

end ArrayTyping

import ArrayTyping.Arithmetic
import ArrayTyping.Proofs.Matching
/-!
# Stretching — broadcasting any number of shapes

Shapes are aligned at their trailing end, so an axis is best counted from there.  The axes at one distance from the end
broadcast if those that are no singletons have the same indices; the first of these is the result's axis, or the first of
all where every one is a singleton.
-/
namespace ArrayTyping

namespace Broadcast

/-! ## One position -/

/-- The axes at the distance `k` from the trailing end, in operand order. -/
def aligned (shapes : List Shape) (k : Nat) : List Axis := shapes.filterMap fun s => s.axes.reverse[k]?

/-- All axes but singletons have the same indices. -/
def Compatible (as : List Axis) : Prop := ∀ a ∈ as, ∀ b ∈ as, a.length ≠ 1 → b.length ≠ 1 → a.toList = b.toList

def firstWide? (as : List Axis) : Option Axis := as.find? (·.length ≠ 1)

/-- The first axis that is no singleton and has other indices than `e`. -/
def firstClash? (e : Axis) (as : List Axis) : Option Axis := as.find? fun a => a.length ≠ 1 ∧ a.toList ≠ e.toList

/-- The first axis that is no singleton, or the first of all where every one is a singleton. -/
def pick (as : List Axis) : Option Axis := (firstWide? as).or as.head?

theorem firstWide?_some {as : List Axis} {e : Axis} (h : firstWide? as = some e) : e ∈ as ∧ e.length ≠ 1 :=
  ⟨List.mem_of_find?_eq_some h, by simpa using List.find?_some h⟩

theorem firstWide?_none {as : List Axis} : firstWide? as = none ↔ ∀ a ∈ as, a.length = 1 := by
  simp [firstWide?]

theorem firstClash?_none {as : List Axis} {e : Axis} :
    firstClash? e as = none ↔ ∀ a ∈ as, a.length ≠ 1 → a.toList = e.toList := by
  simp [firstClash?]

theorem compatible_iff {as : List Axis} : Compatible as ↔ ∀ e, firstWide? as = some e → firstClash? e as = none := by
  constructor
  · intro h e he
    obtain ⟨hmem, hlen⟩ := firstWide?_some he
    exact firstClash?_none.2 fun a ha hne => h a ha e hmem hne hlen
  · intro h a ha b hb hane hbne
    cases he : firstWide? as with
    | none => exact absurd (firstWide?_none.1 he a ha) hane
    | some e =>
      have hclash := firstClash?_none.1 (h e he)
      rw [hclash a ha hane, hclash b hb hbne]

theorem pick_eq_none {as : List Axis} : pick as = none ↔ as = [] := by
  cases as with
  | nil => simp [pick, firstWide?]
  | cons a as => simp [pick]

theorem mem_of_pick {as : List Axis} {a : Axis} (h : pick as = some a) : a ∈ as := by
  rcases Option.or_eq_some_iff.1 h with hw | ⟨-, hh⟩
  · exact (firstWide?_some hw).1
  · exact List.mem_of_mem_head? hh

theorem read_of_clashing {a e : Axis} (h : a.length ≤ Axis.maxLength) (hne : a.length ≠ 1)
    (hae : a.toList ≠ e.toList) (position : Nat) (s : Option Axis) :
    Choice.read position ⟨some e, s⟩ a = .error (.mismatch position e a) := by
  have hagree : a.agrees e = false := by simpa using mt Axis.agrees_iff.1 hae
  unfold Choice.read
  rw [Axis.length?_of_le h]
  split
  · rename_i heq
    cases heq
  · rename_i heq
    exact absurd (Option.some.inj heq) hne
  · simp [hagree]

/-- The axes of one position read one after the other, from any choice that earlier ones have left. -/
theorem foldlM_read {as : List Axis} (hm : Measured as) (position : Nat) (c : Choice) :
    as.foldlM (Choice.read position) c = match c.chosen.or (firstWide? as) with
      | none => .ok ⟨none, c.stretchable.or (as.find? (·.length = 1))⟩
      | some e => match firstClash? e as with
        | none => .ok ⟨some e, c.stretchable.or (as.find? (·.length = 1))⟩
        | some g => .error (.mismatch position e g) := by
  induction as generalizing c with
  | nil => rcases c with ⟨_ | e, s⟩ <;> simp [firstWide?, firstClash?, pure, Except.pure]
  | cons a as ih =>
    obtain ⟨ha, has⟩ := List.forall_mem_cons.1 hm
    rw [List.foldlM_cons]
    by_cases h1 : a.length = 1
    -- A singleton is no clash; it is remembered for the case that there are no others.
    · rw [read_of_singleton h1]
      have hwide : firstWide? (a :: as) = firstWide? as := by simp [firstWide?, h1]
      have hclash : ∀ e, firstClash? e (a :: as) = firstClash? e as := by simp [firstClash?, h1]
      have hunit : (a :: as).find? (·.length = 1) = some a := by simp [h1]
      simp only [bind, Except.bind, ih has, hwide, hclash, hunit, Option.or_assoc, Option.some_or]
    · have hunit : (a :: as).find? (·.length = 1) = as.find? (·.length = 1) := by simp [h1]
      rcases c with ⟨_ | e, s⟩
      · have hwide : firstWide? (a :: as) = some a := by simp [firstWide?, h1]
        have hclash : firstClash? a (a :: as) = firstClash? a as := by simp [firstClash?]
        rw [read_of_none ha h1]
        simp only [bind, Except.bind, ih has, hwide, hclash, hunit, Option.none_or, Option.some_or]
      · by_cases hagree : a.toList = e.toList
        · have hclash : firstClash? e (a :: as) = firstClash? e as := by simp [firstClash?, hagree]
          rw [read_of_agreeing ha h1 hagree]
          simp only [bind, Except.bind, ih has, hclash, hunit, Option.some_or]
        · have hclash : firstClash? e (a :: as) = some a := by simp [firstClash?, h1, hagree]
          rw [read_of_clashing ha h1 hagree]
          simp only [bind, Except.bind, hclash, Option.some_or]

/-! ## The columns of the result -/

theorem rank_spec (shapes : List Shape) :
    (∀ s ∈ shapes, s.rank ≤ rank shapes) ∧ (rank shapes = 0 ∨ ∃ s ∈ shapes, s.rank = rank shapes) := by
  have hfold : ∀ (ss : List Shape) (m : Nat), m ≤ ss.foldl (fun n s => max n s.rank) m ∧
      (∀ s ∈ ss, s.rank ≤ ss.foldl (fun n s => max n s.rank) m) ∧
      (ss.foldl (fun n s => max n s.rank) m = m ∨ ∃ s ∈ ss, s.rank = ss.foldl (fun n s => max n s.rank) m) := by
    intro ss
    induction ss with
    | nil => simp
    | cons s ss ih =>
      intro m
      obtain ⟨hle, hall, hatt⟩ := ih (max m s.rank)
      rw [List.foldl_cons]
      refine ⟨by omega, List.forall_mem_cons.2 ⟨by omega, hall⟩, ?_⟩
      rcases hatt with hatt | ⟨t, ht, hatt⟩
      · rcases Nat.le_total m s.rank with h | h
        · exact .inr ⟨s, List.mem_cons_self, by omega⟩
        · exact .inl (by omega)
      · exact .inr ⟨t, List.mem_cons_of_mem _ ht, hatt⟩
  exact (hfold shapes 0).2

theorem getElem?_reverse_of_le {s : Shape} {n p : Nat} (hn : s.rank ≤ n) (hp : p < n) :
    (if p < n - s.rank then none else s.axes[p - (n - s.rank)]?) = s.axes.reverse[n - 1 - p]? := by
  unfold Shape.rank at *
  split
  · rw [List.getElem?_eq_none (by rw [List.length_reverse]; omega)]
  · rw [List.getElem?_reverse (by omega)]
    congr 1
    omega

theorem column_eq_aligned {shapes : List Shape} {n p : Nat} (hn : ∀ s ∈ shapes, s.rank ≤ n) (hp : p < n) :
    column n shapes p = aligned shapes (n - 1 - p) :=
  List.filterMap_congr fun s hs => getElem?_reverse_of_le (hn s hs) hp

theorem mem_aligned {shapes : List Shape} {k : Nat} {a : Axis} :
    a ∈ aligned shapes k ↔ ∃ s ∈ shapes, s.axes.reverse[k]? = some a := List.mem_filterMap

theorem measured_aligned {shapes : List Shape} (hm : ∀ s ∈ shapes, Measured s.axes) (k : Nat) :
    Measured (aligned shapes k) := by
  intro a ha
  obtain ⟨s, hs, hk⟩ := mem_aligned.1 ha
  exact hm s hs a (List.mem_reverse.1 (List.mem_of_getElem? hk))

theorem aligned_ne_nil {shapes : List Shape} {k : Nat} (hk : k < rank shapes) : aligned shapes k ≠ [] := by
  rcases (rank_spec shapes).2 with h0 | ⟨s, hs, hrank⟩
  · omega
  · have hlt : k < s.axes.reverse.length := by
      rw [List.length_reverse]
      exact Nat.lt_of_lt_of_eq hk hrank.symm
    exact List.ne_nil_of_mem (mem_aligned.2 ⟨s, hs, List.getElem?_eq_getElem hlt⟩)

theorem aligned_eq_nil {shapes : List Shape} {k : Nat} (hk : rank shapes ≤ k) : aligned shapes k = [] := by
  refine List.filterMap_eq_nil_iff.2 fun s hs => List.getElem?_eq_none ?_
  rw [List.length_reverse]
  exact Nat.le_trans ((rank_spec shapes).1 s hs) hk

theorem aligned_append (xs ys : List Shape) (k : Nat) : aligned (xs ++ ys) k = aligned xs k ++ aligned ys k :=
  List.filterMap_append

theorem measured_of_read {position : Nat} {c c' : Choice} {a : Axis} (h : c.read position a = .ok c') :
    a.length ≤ Axis.maxLength := by
  by_contra hlong
  have hnone : a.length? = none := if_neg hlong
  unfold Choice.read at h
  rw [hnone] at h
  cases h

theorem measured_of_foldlM {position : Nat} {as : List Axis} {c c' : Choice}
    (h : as.foldlM (Choice.read position) c = .ok c') : Measured as := by
  induction as generalizing c with
  | nil => exact fun a ha => nomatch ha
  | cons a as ih =>
    rw [List.foldlM_cons] at h
    obtain ⟨c₁, h₁, h⟩ := exceptBind_ok.1 h
    exact List.forall_mem_cons.2 ⟨measured_of_read h₁, ih h⟩

section Positions

variable {shapes : List Shape} {p : Nat}

theorem column_rank (hp : p < rank shapes) : column (rank shapes) shapes p = aligned shapes (rank shapes - 1 - p) :=
  column_eq_aligned (rank_spec shapes).1 hp

/-- **One position of the result** where its axes can be measured: the axis that is picked, or the first clash. -/
theorem axisAt_cases (hm : Measured (aligned shapes (rank shapes - 1 - p))) (hp : p < rank shapes) :
    (∃ a, axisAt (rank shapes) shapes p = .ok a ∧ Compatible (aligned shapes (rank shapes - 1 - p)) ∧
      pick (aligned shapes (rank shapes - 1 - p)) = some a) ∨
    ∃ e g, axisAt (rank shapes) shapes p = .error (.mismatch (p + 1) e g) ∧
      firstWide? (aligned shapes (rank shapes - 1 - p)) = some e ∧
      firstClash? e (aligned shapes (rank shapes - 1 - p)) = some g := by
  have hne : aligned shapes (rank shapes - 1 - p) ≠ [] := aligned_ne_nil (by omega)
  unfold axisAt
  rw [column_rank hp, foldlM_read hm]
  generalize aligned shapes (rank shapes - 1 - p) = as at hne
  cases hwide : firstWide? as with
  | none =>
    -- All are singletons, so the first of them is the first of all.
    have hall := firstWide?_none.1 hwide
    obtain ⟨a, as', rfl⟩ := List.exists_cons_of_ne_nil hne
    have hunit : (a :: as').find? (·.length = 1) = some a := by simp [hall a List.mem_cons_self]
    refine .inl ⟨a, ?_, fun b hb _ _ hne => absurd (hall b hb) hne, ?_⟩
    · simp only [hunit]
      rfl
    · rw [pick, hwide]
      rfl
  | some e =>
    cases hclash : firstClash? e as with
    | none =>
      refine .inl ⟨e, ?_, compatible_iff.2 fun e' he' => ?_, ?_⟩
      · simp only [Option.none_or, hclash]
        rfl
      · rw [← Option.some.inj (hwide.symm.trans he'), hclash]
      · rw [pick, hwide]
        rfl
    | some g =>
      refine .inr ⟨e, g, ?_, rfl, hclash⟩
      simp only [Option.none_or, hclash]
      rfl

theorem measured_of_axisAt {a : Axis} (hp : p < rank shapes) (h : axisAt (rank shapes) shapes p = .ok a) :
    Measured (aligned shapes (rank shapes - 1 - p)) := by
  obtain ⟨c, hc, -⟩ := exceptBind_ok.1 h
  rw [column_rank hp] at hc
  exact measured_of_foldlM hc

end Positions

/-- The axes, counted from the trailing end, are those picked among the aligned ones; past the last there are none. -/
def Picked (shapes : List Shape) (axes : List Axis) : Prop := ∀ k, axes.reverse[k]? = pick (aligned shapes k)

theorem Picked.length_eq {shapes : List Shape} {axes : List Axis} (h : Picked shapes axes) :
    axes.length = rank shapes := by
  have hiff : ∀ k, axes.length ≤ k ↔ rank shapes ≤ k := by
    intro k
    rw [← List.length_reverse, ← List.getElem?_eq_none_iff, h k, pick_eq_none]
    constructor
    · intro hnil
      by_contra hlt
      exact aligned_ne_nil (Nat.lt_of_not_le hlt) hnil
    · exact aligned_eq_nil
  have h₁ := hiff axes.length
  have h₂ := hiff (rank shapes)
  omega

theorem Picked.getElem?_eq {shapes : List Shape} {axes : List Axis} (h : Picked shapes axes) {p : Nat}
    (hp : p < rank shapes) : axes[p]? = pick (aligned shapes (rank shapes - 1 - p)) := by
  have hlen := h.length_eq
  rw [← h, List.getElem?_reverse (by omega)]
  congr 1
  omega

theorem picked_of_getElem? {shapes : List Shape} {axes : List Axis} (hlen : axes.length = rank shapes)
    (h : ∀ p < rank shapes, axes[p]? = pick (aligned shapes (rank shapes - 1 - p))) : Picked shapes axes := by
  intro k
  by_cases hk : k < rank shapes
  · rw [List.getElem?_reverse (by omega), hlen, h _ (by omega)]
    congr 2
    omega
  · rw [List.getElem?_eq_none (by rw [List.length_reverse]; omega), aligned_eq_nil (by omega)]
    rfl

end Broadcast

open Broadcast

/-- **Shapes broadcast exactly if all axes can be measured and agree at every distance from the end**, and the result has
the axes that are picked there. -/
theorem broadcast_ok_iff {shapes : List Shape} {s : Shape} :
    broadcast shapes = .ok s ↔ (∀ t ∈ shapes, Measured t.axes) ∧ (∀ k, Compatible (aligned shapes k)) ∧
      Picked shapes s.axes ∧ s = .ofAxes s.axes := by
  constructor
  · intro h
    obtain ⟨axes, haxes, hs⟩ := exceptBind_ok.1 h
    cases exceptPure_ok.1 hs
    obtain ⟨hlen, hat⟩ := exceptMapM_range_ok.1 haxes
    -- The result's positions are counted from the left, the aligned axes from the end.
    have hmeasured : ∀ k, Measured (aligned shapes k) := by
      intro k
      by_cases hk : k < rank shapes
      · have hp : rank shapes - 1 - k < axes.length := by omega
        have hm := measured_of_axisAt (by omega) (hat _ _ (List.getElem?_eq_getElem hp))
        rwa [show rank shapes - 1 - (rank shapes - 1 - k) = k by omega] at hm
      · rw [aligned_eq_nil (Nat.le_of_not_lt hk)]
        exact fun a ha => nomatch ha
    have hcases : ∀ p < rank shapes, Compatible (aligned shapes (rank shapes - 1 - p)) ∧
        axes[p]? = pick (aligned shapes (rank shapes - 1 - p)) := by
      intro p hp
      have hget := List.getElem?_eq_getElem (Nat.lt_of_lt_of_eq hp hlen.symm)
      rcases axisAt_cases (hmeasured _) hp with ⟨a, ha, hagree, hpick⟩ | ⟨e, g, he, -⟩
      · have heq := (hat p _ hget).symm.trans ha
        rw [hget, hpick, Except.ok.inj heq]
        exact ⟨hagree, rfl⟩
      · exact absurd ((hat p _ hget).symm.trans he) (by simp)
    refine ⟨fun t ht => ?_, fun k => ?_, picked_of_getElem? hlen fun p hp => (hcases p hp).2, rfl⟩
    · intro a ha
      obtain ⟨k, hk⟩ := List.mem_iff_getElem?.1 (List.mem_reverse.2 ha)
      exact hmeasured k a (mem_aligned.2 ⟨t, ht, hk⟩)
    · by_cases hk : k < rank shapes
      · have hagree := (hcases (rank shapes - 1 - k) (by omega)).1
        rwa [show rank shapes - 1 - (rank shapes - 1 - k) = k by omega] at hagree
      · rw [aligned_eq_nil (Nat.le_of_not_lt hk)]
        exact fun a ha => nomatch ha
  · rintro ⟨hm, hagree, hpicked, hs⟩
    have haxes : (List.range (rank shapes)).mapM (axisAt (rank shapes) shapes) = .ok s.axes := by
      refine exceptMapM_range_ok.2 ⟨hpicked.length_eq, fun p a ha => ?_⟩
      have hp : p < rank shapes := hpicked.length_eq ▸ (List.getElem?_eq_some_iff.1 ha).1
      rcases axisAt_cases (measured_aligned hm _) hp with ⟨b, hb, -, hpick⟩ | ⟨e, g, -, he, hg⟩
      · rw [hpicked.getElem?_eq hp, hpick] at ha
        rw [hb, Option.some.inj ha]
      · rw [compatible_iff.1 (hagree _) e he] at hg
        cases hg
    unfold broadcast
    simp only [haxes]
    rw [hs]
    rfl

/-- Where measured shapes do not broadcast, the leftmost position with a clash is reported. -/
theorem broadcast_error {shapes : List Shape} (hm : ∀ s ∈ shapes, Measured s.axes) {f : BroadcastFault}
    (h : broadcast shapes = .error f) : ∃ p < rank shapes, ∃ e g, f = .mismatch (p + 1) e g ∧
      (∀ q < p, Compatible (aligned shapes (rank shapes - 1 - q))) ∧
      firstWide? (aligned shapes (rank shapes - 1 - p)) = some e ∧
      firstClash? e (aligned shapes (rank shapes - 1 - p)) = some g := by
  have hmapM : (List.range (rank shapes)).mapM (axisAt (rank shapes) shapes) = .error f := by
    rcases exceptBind_error.1 h with h | ⟨_, -, h⟩
    · exact h
    · cases h
  obtain ⟨p, hp, hf, hbefore⟩ := exceptMapM_range_error hmapM
  have hcases : ∀ q < rank shapes, _ := fun q => axisAt_cases (measured_aligned hm (rank shapes - 1 - q))
  rcases hcases p hp with ⟨a, ha, -⟩ | ⟨e, g, he, hwide, hclash⟩
  · rw [ha] at hf
    cases hf
  · refine ⟨p, hp, e, g, (Except.error.inj (he.symm.trans hf)).symm, fun q hq => ?_, hwide, hclash⟩
    obtain ⟨b, hb⟩ := hbefore q hq
    rcases hcases q (by omega) with ⟨-, -, hagree, -⟩ | ⟨e', g', he', -⟩
    · exact hagree
    · rw [hb] at he'
      cases he'

theorem broadcast_exists {shapes : List Shape} (hm : ∀ s ∈ shapes, Measured s.axes)
    (h : ∀ k, Compatible (aligned shapes k)) : ∃ s, broadcast shapes = .ok s := by
  cases hb : broadcast shapes with
  | ok s => exact ⟨s, rfl⟩
  | error f =>
    obtain ⟨p, -, e, g, -, -, hwide, hclash⟩ := broadcast_error hm hb
    rw [compatible_iff.1 (h _) e hwide] at hclash
    cases hclash

namespace Broadcast

theorem read_ne_vacant (position q : Nat) (c : Choice) (a : Axis) : c.read position a ≠ .error (.vacant q) := by
  intro h
  unfold Choice.read at h
  split at h
  · cases h
  · cases h
  · split at h
    · cases h
    · split at h <;> cases h

theorem foldlM_read_ne_vacant (position q : Nat) (as : List Axis) (c : Choice) :
    as.foldlM (Choice.read position) c ≠ .error (.vacant q) := by
  induction as generalizing c with
  | nil => exact fun h => nomatch h
  | cons a as ih =>
    intro h
    rw [List.foldlM_cons] at h
    rcases exceptBind_error.1 h with h | ⟨c', -, h⟩
    · exact read_ne_vacant _ _ _ _ h
    · exact ih c' h

theorem axisAt_ne_vacant {shapes : List Shape} {p : Nat} (hp : p < rank shapes) (q : Nat) :
    axisAt (rank shapes) shapes p ≠ .error (.vacant q) := by
  intro h
  have h' := h
  unfold axisAt at h'
  rcases exceptBind_error.1 h' with h' | ⟨c, hc, -⟩
  · exact foldlM_read_ne_vacant _ _ _ _ h'
  · rw [column_rank hp] at hc
    rcases axisAt_cases (measured_of_foldlM hc) hp with ⟨a, ha, -⟩ | ⟨e, g, he, -⟩
    · rw [ha] at h
      cases h
    · rw [he] at h
      cases h

end Broadcast

/-- **At every position of the result some operand has an axis**, however long the axes are. -/
theorem broadcast_ne_vacant (shapes : List Shape) (q : Nat) : broadcast shapes ≠ .error (.vacant q) := by
  intro h
  rcases exceptBind_error.1 h with h | ⟨_, -, h⟩
  · obtain ⟨p, hp, hf, -⟩ := exceptMapM_range_error h
    exact axisAt_ne_vacant hp q hf
  · cases h

/-! ## Broadcasting in parts -/

namespace Broadcast

theorem firstWide?_append (as bs : List Axis) : firstWide? (as ++ bs) = (firstWide? as).or (firstWide? bs) :=
  List.find?_append

/-- Of the axis that is picked one can tell whether there was any but singletons. -/
theorem firstWide?_pick (as : List Axis) : firstWide? (pick as).toList = firstWide? as := by
  cases hw : firstWide? as with
  | some e =>
    rw [pick, hw, Option.some_or]
    simp [firstWide?, (firstWide?_some hw).2]
  | none =>
    rw [pick, hw, Option.none_or]
    refine firstWide?_none.2 fun a ha => firstWide?_none.1 hw a ?_
    exact List.mem_of_mem_head? (Option.mem_toList.1 ha)

theorem pick_append (as bs : List Axis) : pick ((pick as).toList ++ (pick bs).toList) = pick (as ++ bs) := by
  have hhead : ((pick as).toList ++ (pick bs).toList).head? = (pick as).or (pick bs) := by
    cases pick as <;> cases pick bs <;> rfl
  rw [pick, firstWide?_append, firstWide?_pick, firstWide?_pick, hhead, pick, pick, pick, firstWide?_append,
    List.head?_append]
  cases firstWide? as <;> cases firstWide? bs <;> simp

theorem pick_of_wide {as : List Axis} (h : Compatible as) {a : Axis} (ha : a ∈ as) (hne : a.length ≠ 1) :
    ∃ e, pick as = some e ∧ e.length ≠ 1 ∧ a.toList = e.toList := by
  cases hw : firstWide? as with
  | none => exact absurd (firstWide?_none.1 hw a ha) hne
  | some e =>
    obtain ⟨hmem, hlen⟩ := firstWide?_some hw
    exact ⟨e, by rw [pick, hw, Option.some_or], hlen, h a ha e hmem hne hlen⟩

/-- Two lists of axes agree with each other exactly if each does in itself and those that are picked do. -/
theorem compatible_append {as bs : List Axis} : Compatible (as ++ bs) ↔
    Compatible as ∧ Compatible bs ∧ Compatible ((pick as).toList ++ (pick bs).toList) := by
  constructor
  · intro h
    refine ⟨fun a ha b hb => h a (List.mem_append_left _ ha) b (List.mem_append_left _ hb),
      fun a ha b hb => h a (List.mem_append_right _ ha) b (List.mem_append_right _ hb), ?_⟩
    have hmem : ∀ a ∈ (pick as).toList ++ (pick bs).toList, a ∈ as ++ bs := by
      intro a ha
      rcases List.mem_append.1 ha with ha | ha
      · exact List.mem_append_left _ (mem_of_pick (Option.mem_toList.1 ha))
      · exact List.mem_append_right _ (mem_of_pick (Option.mem_toList.1 ha))
    exact fun a ha b hb => h a (hmem a ha) b (hmem b hb)
  · rintro ⟨has, hbs, h⟩
    have hcross : ∀ a ∈ as, ∀ b ∈ bs, a.length ≠ 1 → b.length ≠ 1 → a.toList = b.toList := by
      intro a ha b hb hane hbne
      obtain ⟨e, he, hene, hae⟩ := pick_of_wide has ha hane
      obtain ⟨g, hg, hgne, hbg⟩ := pick_of_wide hbs hb hbne
      rw [hae, hbg]
      exact h e (by simp [he]) g (by simp [hg]) hene hgne
    intro a ha b hb hane hbne
    rcases List.mem_append.1 ha with ha | ha <;> rcases List.mem_append.1 hb with hb | hb
    · exact has a ha b hb hane hbne
    · exact hcross a ha b hb hane hbne
    · exact (hcross b hb a ha hbne hane).symm
    · exact hbs a ha b hb hane hbne

theorem aligned_pair (s t : Shape) (k : Nat) :
    aligned [s, t] k = s.axes.reverse[k]?.toList ++ t.axes.reverse[k]?.toList := by
  unfold aligned
  cases hs : s.axes.reverse[k]? <;> cases ht : t.axes.reverse[k]? <;> simp [hs, ht]

theorem Picked.measured {shapes : List Shape} {axes : List Axis} (h : Picked shapes axes)
    (hm : ∀ s ∈ shapes, Measured s.axes) : Measured axes := by
  intro a ha
  obtain ⟨k, hk⟩ := List.mem_iff_getElem?.1 (List.mem_reverse.2 ha)
  rw [h k] at hk
  exact measured_aligned hm k a (mem_of_pick hk)

end Broadcast

/-- **Shapes may be broadcast in two parts** and the two results with each other. -/
theorem broadcast_append {xs ys : List Shape} {s : Shape} : broadcast (xs ++ ys) = .ok s ↔
    ∃ a b, broadcast xs = .ok a ∧ broadcast ys = .ok b ∧ broadcast [a, b] = .ok s := by
  have hpair : ∀ {a b : Shape}, Picked xs a.axes → Picked ys b.axes →
      ∀ k, aligned [a, b] k = (pick (aligned xs k)).toList ++ (pick (aligned ys k)).toList := by
    intro a b ha hb k
    rw [aligned_pair, ha k, hb k]
  constructor
  · intro h
    obtain ⟨hm, hall, hpicked, hs⟩ := broadcast_ok_iff.1 h
    obtain ⟨hxs, hys⟩ := List.forall_mem_append.1 hm
    have hagree := fun k => compatible_append.1 (aligned_append xs ys k ▸ hall k)
    obtain ⟨a, ha⟩ := broadcast_exists hxs fun k => (hagree k).1
    obtain ⟨b, hb⟩ := broadcast_exists hys fun k => (hagree k).2.1
    obtain ⟨-, -, hpa, -⟩ := broadcast_ok_iff.1 ha
    obtain ⟨-, -, hpb, -⟩ := broadcast_ok_iff.1 hb
    refine ⟨a, b, ha, hb, broadcast_ok_iff.2 ⟨?_, fun k => ?_, fun k => ?_, hs⟩⟩
    · simpa using And.intro (hpa.measured hxs) (hpb.measured hys)
    · rw [hpair hpa hpb]
      exact (hagree k).2.2
    · rw [hpair hpa hpb, pick_append, ← aligned_append, hpicked k]
  · rintro ⟨a, b, ha, hb, h⟩
    obtain ⟨hxs, hax, hpa, -⟩ := broadcast_ok_iff.1 ha
    obtain ⟨hys, hay, hpb, -⟩ := broadcast_ok_iff.1 hb
    obtain ⟨-, hagree, hpicked, hs⟩ := broadcast_ok_iff.1 h
    refine broadcast_ok_iff.2 ⟨List.forall_mem_append.2 ⟨hxs, hys⟩, fun k => ?_, fun k => ?_, hs⟩
    · rw [aligned_append]
      exact compatible_append.2 ⟨hax k, hay k, hpair hpa hpb k ▸ hagree k⟩
    · rw [hpicked k, hpair hpa hpb, pick_append, aligned_append]

theorem Broadcast.compatible_toList (x : Option Axis) : Compatible x.toList := by
  cases x <;> simp [Compatible]

theorem Broadcast.pick_toList (x : Option Axis) : pick x.toList = x := by
  cases x with
  | none => rfl
  | some a => by_cases h1 : a.length = 1 <;> simp [pick, firstWide?, h1]

theorem broadcast_singleton {s : Shape} (h : Measured s.axes) : broadcast [s] = .ok (.ofAxes s.axes) := by
  have hcolumn : ∀ k, aligned [s] k = s.axes.reverse[k]?.toList := by
    intro k
    unfold aligned
    cases hk : s.axes.reverse[k]? <;> simp [hk]
  refine broadcast_ok_iff.2 ⟨by simpa using h, fun k => ?_, fun k => ?_, rfl⟩
  · rw [hcolumn]
    exact compatible_toList _
  · rw [hcolumn, pick_toList]
    rfl

theorem broadcast_cons_cons {a s t : Shape} {shapes : List Shape} :
    broadcast (a :: s :: shapes) = .ok t ↔ ∃ b, broadcast [a, s] = .ok b ∧ broadcast (b :: shapes) = .ok t := by
  have hself : ∀ {b}, broadcast [a, s] = .ok b → broadcast [b] = .ok b := by
    intro b hb
    obtain ⟨hm, -, hpicked, hb⟩ := broadcast_ok_iff.1 hb
    rw [broadcast_singleton (hpicked.measured hm), ← hb]
  rw [show a :: s :: shapes = [a, s] ++ shapes from rfl, broadcast_append]
  constructor
  · rintro ⟨b, c, hb, hc, hbc⟩
    refine ⟨b, hb, ?_⟩
    rw [← List.singleton_append, broadcast_append]
    exact ⟨b, c, hself hb, hc, hbc⟩
  · rintro ⟨b, hb, h⟩
    rw [← List.singleton_append, broadcast_append] at h
    obtain ⟨b', c, hb', hc, hbc⟩ := h
    cases (hself hb).symm.trans hb'
    exact ⟨b, c, hb, hc, hbc⟩

theorem broadcast_nil_cons {shapes : List Shape} {t : Shape} :
    broadcast (.ofAxes [] :: shapes) = .ok t ↔ broadcast shapes = .ok t := by
  have hnil : Measured (Shape.ofAxes []).axes := fun a ha => nomatch ha
  rw [broadcast_ok_iff, broadcast_ok_iff, List.forall_mem_cons, and_iff_right hnil]
  exact Iff.rfl

/-! ## Lengths alone -/

def commonLengthsOf (lengths : List (List Nat)) : Except Fault (List Nat) := lengths.foldlM commonLengths []

/-- What the lengths of two arrays at one distance from the end become, where an array may have none. -/
inductive StretchedTo : Option Nat → Option Nat → Option Nat → Prop where
  | right (b : Option Nat) : StretchedTo none b b
  | left (a : Option Nat) : StretchedTo a none a
  | both {a b c : Nat} (h : commonLength? a b = some c) : StretchedTo (some a) (some b) (some c)

theorem commonLengthsFromEnd?_some {as bs cs : List Nat} (h : commonLengthsFromEnd? as bs = some cs) (k : Nat) :
    StretchedTo as[k]? bs[k]? cs[k]? := by
  fun_induction commonLengthsFromEnd? as bs generalizing cs k with
  | case1 bs =>
    cases h
    simpa using StretchedTo.right _
  | case2 as =>
    cases h
    simpa using StretchedTo.left _
  | case3 a as b bs ih =>
    obtain ⟨c, hc, h⟩ := Option.bind_eq_some_iff.1 h
    obtain ⟨cs', hcs, h⟩ := Option.bind_eq_some_iff.1 h
    cases h
    cases k with
    | zero => exact .both hc
    | succ k => exact ih hcs k

theorem commonLengthsFromEnd?_none {as bs : List Nat} (h : commonLengthsFromEnd? as bs = none) :
    ∃ (k a b : Nat), as[k]? = some a ∧ bs[k]? = some b ∧ commonLength? a b = none := by
  fun_induction commonLengthsFromEnd? as bs with
  | case1 bs => cases h
  | case2 as => cases h
  | case3 a as b bs ih =>
    cases hc : commonLength? a b with
    | none => exact ⟨0, a, b, rfl, rfl, hc⟩
    | some c =>
      have hcs : commonLengthsFromEnd? as bs = none := by
        cases hcs : commonLengthsFromEnd? as bs with
        | none => rfl
        | some cs => simp [hc, hcs] at h
      obtain ⟨k, a', b', ha, hb, hnone⟩ := ih hcs
      exact ⟨k + 1, a', b', ha, hb, hnone⟩

/-- The shape counts the given lengths from zero. -/
def Shape.HasLengths (s : Shape) (lengths : List Nat) : Prop := s.axes.map Axis.plain = lengths.map Axis.ofLength

namespace Axis

theorem length_ofLength (n : Nat) : (ofLength n).length = n := by
  simp [length, ofLength]

theorem length_of_plain {a : Axis} {n : Nat} (h : a.plain = ofLength n) : a.length = n :=
  (congrArg Axis.length h : a.plain.length = _).trans (length_ofLength n)

end Axis

namespace Shape.HasLengths

variable {s t u : Shape} {ls ms : List Nat}

theorem getElem?_reverse (h : s.HasLengths ls) (k : Nat) :
    s.axes.reverse[k]?.map Axis.plain = ls.reverse[k]?.map Axis.ofLength := by
  rw [← List.getElem?_map, ← List.getElem?_map, List.map_reverse, List.map_reverse, h]

theorem of_getElem?_reverse (h : ∀ k : Nat, s.axes.reverse[k]?.map Axis.plain = ls[k]?.map Axis.ofLength) :
    s.HasLengths ls.reverse := by
  refine List.reverse_injective (List.ext_getElem? fun k => ?_)
  rw [← List.map_reverse, ← List.map_reverse, List.reverse_reverse, List.getElem?_map, List.getElem?_map, h]

end Shape.HasLengths

namespace Broadcast

theorem compatible_of_stretched {x y : Option Axis} {a b c : Option Nat}
    (hx : x.map Axis.plain = a.map Axis.ofLength) (hy : y.map Axis.plain = b.map Axis.ofLength)
    (h : StretchedTo a b c) : Compatible (x.toList ++ y.toList) ∧
      (pick (x.toList ++ y.toList)).map Axis.plain = c.map Axis.ofLength := by
  cases h with
  | right b =>
    cases Option.map_eq_none_iff.1 hx
    rw [Option.toList_none, List.nil_append, pick_toList]
    exact ⟨compatible_toList y, hy⟩
  | left a =>
    cases Option.map_eq_none_iff.1 hy
    rw [Option.toList_none, List.append_nil, pick_toList]
    exact ⟨compatible_toList x, hx⟩
  | @both a b c h =>
    obtain ⟨x, rfl, hxa⟩ := Option.map_eq_some_iff.1 hx
    obtain ⟨y, rfl, hyb⟩ := Option.map_eq_some_iff.1 hy
    have hlx := Axis.length_of_plain hxa
    have hly := Axis.length_of_plain hyb
    unfold commonLength? at h
    constructor
    · have hcross : x.length ≠ 1 → y.length ≠ 1 → x.toList = y.toList := by
        intro hx1 hy1
        have hab : a = b := by grind
        exact Axis.toList_of_plain (hxa.trans (hab ▸ hyb.symm))
      intro p hp q hq hp1 hq1
      rcases List.mem_pair.1 hp with rfl | rfl <;> rcases List.mem_pair.1 hq with rfl | rfl
      · rfl
      · exact hcross hp1 hq1
      · exact (hcross hq1 hp1).symm
      · rfl
    · by_cases ha : a = 1 <;> by_cases hb : b = 1 <;>
        simp_all [pick, firstWide?]

theorem not_compatible_of_lengths {x y : Axis} {a b : Nat} (hx : x.plain = .ofLength a) (hy : y.plain = .ofLength b)
    (h : commonLength? a b = none) : ¬ Compatible [x, y] := by
  intro hc
  have hlx := Axis.length_of_plain hx
  have hly := Axis.length_of_plain hy
  have hxy : a ≠ b ∧ b ≠ 1 ∧ a ≠ 1 := by
    unfold commonLength? at h
    grind
  have heq := hc x (by simp) y (by simp) (by omega) (by omega)
  have hlen := Axis.length_eq_of_toList_eq heq
  omega

end Broadcast

section Lengths

variable {s t u : Shape} {shapes : List Shape} {ls ms : List Nat} {lengths : List (List Nat)}

theorem broadcast_pair_lengths (hs : Measured s.axes) (ht : Measured t.axes) (hls : s.HasLengths ls)
    (hms : t.HasLengths ms) : (∃ ns u, commonLengths ls ms = .ok ns ∧ broadcast [s, t] = .ok u ∧ u.HasLengths ns) ∨
      ((∃ f, commonLengths ls ms = .error f) ∧ ∀ u, broadcast [s, t] ≠ .ok u) := by
  have hm : ∀ x ∈ [s, t], Measured x.axes := by simp [hs, ht]
  unfold commonLengths
  cases hns : commonLengthsFromEnd? ls.reverse ms.reverse with
  | some ns =>
    have hat := fun k => compatible_of_stretched (hls.getElem?_reverse k) (hms.getElem?_reverse k)
      (commonLengthsFromEnd?_some hns k)
    obtain ⟨u, hu⟩ := broadcast_exists hm fun k => by
      rw [aligned_pair]
      exact (hat k).1
    obtain ⟨-, -, hpicked, -⟩ := broadcast_ok_iff.1 hu
    refine .inl ⟨_, u, rfl, hu, .of_getElem?_reverse fun k => ?_⟩
    rw [hpicked k, aligned_pair, (hat k).2]
  | none =>
    obtain ⟨k, a, b, ha, hb, hnone⟩ := commonLengthsFromEnd?_none hns
    obtain ⟨x, hx, hxa⟩ := Option.map_eq_some_iff.1 ((hls.getElem?_reverse k).trans (congrArg _ ha))
    obtain ⟨y, hy, hyb⟩ := Option.map_eq_some_iff.1 ((hms.getElem?_reverse k).trans (congrArg _ hb))
    refine .inr ⟨⟨_, rfl⟩, fun u hu => ?_⟩
    have hagree := (broadcast_ok_iff.1 hu).2.1 k
    rw [aligned_pair, hx, hy] at hagree
    exact not_compatible_of_lengths hxa hyb hnone hagree

theorem broadcast_lengths_from (hm : ∀ x ∈ s :: shapes, Measured x.axes) (hls : s.HasLengths ls)
    (h : List.Forall₂ Shape.HasLengths shapes lengths) :
    (∃ ns u, lengths.foldlM commonLengths ls = .ok ns ∧ broadcast (s :: shapes) = .ok u ∧ u.HasLengths ns) ∨
      ((∃ f, lengths.foldlM commonLengths ls = .error f) ∧ ∀ u, broadcast (s :: shapes) ≠ .ok u) := by
  induction h generalizing s ls with
  | nil => exact .inl ⟨ls, .ofAxes s.axes, rfl, broadcast_singleton (hm s List.mem_cons_self), hls⟩
  | @cons t ms shapes lengths hms h ih =>
    obtain ⟨hs, ht, hm⟩ := (List.forall_mem_cons.1 hm).imp_right List.forall_mem_cons.1
    rw [List.foldlM_cons]
    rcases broadcast_pair_lengths hs ht hls hms with ⟨ns, u, hns, hu, hlengths⟩ | ⟨⟨f, hf⟩, hno⟩
    · have hmu : Measured u.axes := (broadcast_ok_iff.1 hu).2.2.1.measured (by simp [hs, ht])
      have hiff : ∀ w, broadcast (s :: t :: shapes) = .ok w ↔ broadcast (u :: shapes) = .ok w := by
        intro w
        rw [broadcast_cons_cons, hu]
        simp
      simp only [hns, hiff, Ne]
      exact ih (List.forall_mem_cons.2 ⟨hmu, hm⟩) hlengths
    · refine .inr ⟨⟨f, by rw [hf]; rfl⟩, fun u hu => ?_⟩
      obtain ⟨b, hb, -⟩ := broadcast_cons_cons.1 hu
      exact hno b hb

/-- **Shapes that are counted from zero broadcast exactly if their lengths stretch**, and to these lengths. -/
theorem broadcast_lengths (hm : ∀ x ∈ shapes, Measured x.axes) (h : List.Forall₂ Shape.HasLengths shapes lengths) :
    (∃ ns u, commonLengthsOf lengths = .ok ns ∧ broadcast shapes = .ok u ∧ u.HasLengths ns) ∨
      ((∃ f, commonLengthsOf lengths = .error f) ∧ ∀ u, broadcast shapes ≠ .ok u) := by
  have hnil : Measured (Shape.ofAxes []).axes := fun a ha => nomatch ha
  have hfrom := broadcast_lengths_from (List.forall_mem_cons.2 ⟨hnil, hm⟩) (show _ = [].map _ from rfl) h
  simpa only [broadcast_nil_cons, Ne, commonLengthsOf] using hfrom

end Lengths

/-! ## Broadcasting on behalf of an operator -/

/-- The rank that some shape has and no other exceeds; zero where there is no shape. -/
def IsLargestRank (shapes : List Shape) (n : Nat) : Prop :=
  (∀ s ∈ shapes, s.rank ≤ n) ∧ (n = 0 ∨ ∃ s ∈ shapes, s.rank = n)

/-- The leftmost position of a result of rank `n` where the axes are not compatible is the 0-based `p`, where `expected`
is the first axis that is no singleton and `got` the first one that clashes with it. -/
structure ClashAt (shapes : List Shape) (n p : Nat) (expected got : Axis) : Prop where
  lt_rank : p < n
  leftmost : ∀ q < p, Compatible (aligned shapes (n - 1 - q))
  first : firstWide? (aligned shapes (n - 1 - p)) = some expected
  clash : firstClash? expected (aligned shapes (n - 1 - p)) = some got

section Operators

variable {op : Value} {shapes : List Shape} {s : Shape} {f : Fault}

theorem broadcastFor_ne_assertion (op : Value) (shapes : List Shape) :
    broadcastFor op shapes ≠ .error (.slip .assertion) := by
  unfold broadcastFor
  cases h : broadcast shapes with
  | ok s => exact fun h => nomatch h
  | error f =>
    cases f with
    | tooLong => exact fun h => nomatch h
    | mismatch => exact fun h => nomatch h
    | vacant q => exact absurd h (broadcast_ne_vacant shapes q)

theorem broadcastFor_error (hm : ∀ s ∈ shapes, Measured s.axes) (h : broadcastFor op shapes = .error f) :
    ∃ n p expected got, IsLargestRank shapes n ∧ ClashAt shapes n p expected got ∧
      f = .conflict (.broadcast op (p + 1) expected got) := by
  cases hb : broadcast shapes with
  | ok s =>
    rw [broadcastFor_ok.2 hb] at h
    cases h
  | error g =>
    obtain ⟨p, hp, expected, got, rfl, hbefore, hfirst, hclash⟩ := broadcast_error hm hb
    refine ⟨rank shapes, p, expected, got, rank_spec shapes, ⟨hp, hbefore, hfirst, hclash⟩, ?_⟩
    unfold broadcastFor at h
    rw [hb] at h
    exact (Except.error.inj h).symm

end Operators

/-- **Broadcasting is stretching, lifted to axes.**  Shapes broadcast exactly if the axes at every position are
compatible, to a shape of the largest rank with the axes that are picked; otherwise the leftmost clash is reported.  On
shapes that are counted from zero this is stretching of lengths. -/
theorem broadcastFor_stretches (op : Value) (shapes : List Shape) :
    broadcastFor op shapes ≠ .error (.slip .assertion) ∧
    ((∀ s ∈ shapes, Measured s.axes) →
      ((∃ s, broadcastFor op shapes = .ok s) ↔ ∀ k, Compatible (aligned shapes k)) ∧
      (∀ s, broadcastFor op shapes = .ok s → IsLargestRank shapes s.rank ∧ Picked shapes s.axes) ∧
      (∀ f, broadcastFor op shapes = .error f → f.faultClass = .reported .dimensionMismatch ∧
        ∃ n p expected got, IsLargestRank shapes n ∧ ClashAt shapes n p expected got ∧
          f = .conflict (.broadcast op (p + 1) expected got)) ∧
      ∀ lengths, List.Forall₂ Shape.HasLengths shapes lengths →
        ((∃ s, broadcastFor op shapes = .ok s) ↔ ∃ ns, commonLengthsOf lengths = .ok ns) ∧
        ∀ s ns, broadcastFor op shapes = .ok s → commonLengthsOf lengths = .ok ns → s.HasLengths ns) := by
  refine ⟨broadcastFor_ne_assertion op shapes, fun hm => ⟨?_, ?_, ?_, ?_⟩⟩
  · constructor
    · rintro ⟨s, hs⟩
      exact (broadcast_ok_iff.1 (broadcastFor_ok.1 hs)).2.1
    · intro h
      obtain ⟨s, hs⟩ := broadcast_exists hm h
      exact ⟨s, broadcastFor_ok.2 hs⟩
  · intro s hs
    obtain ⟨-, -, hpicked, -⟩ := broadcast_ok_iff.1 (broadcastFor_ok.1 hs)
    rw [Shape.rank, hpicked.length_eq]
    exact ⟨rank_spec shapes, hpicked⟩
  · intro f hf
    obtain ⟨n, p, expected, got, hn, hclash, rfl⟩ := broadcastFor_error hm hf
    exact ⟨rfl, n, p, expected, got, hn, hclash, rfl⟩
  · intro lengths h
    simp only [broadcastFor_ok]
    rcases broadcast_lengths hm h with ⟨ns, u, hns, hu, hlengths⟩ | ⟨⟨f, hf⟩, hno⟩
    · refine ⟨⟨fun _ => ⟨ns, hns⟩, fun _ => ⟨u, hu⟩⟩, fun s ns' hs hns' => ?_⟩
      cases hu.symm.trans hs
      cases hns.symm.trans hns'
      exact hlengths
    · refine ⟨⟨?_, ?_⟩, fun s ns hs => absurd hs (hno s)⟩
      · rintro ⟨s, hs⟩
        exact absurd hs (hno s)
      · rintro ⟨ns, hns⟩
        rw [hf] at hns
        cases hns

/-- A column of three, a row without entries and a singleton. -/
theorem broadcastFor_stretches_empty :
    let shapes : List Shape := [.ofLengths [3, 1], .ofLengths [0], .ofLengths [1]]
    (∀ s ∈ shapes, Measured s.axes) ∧ List.Forall₂ Shape.HasLengths shapes [[3, 1], [0], [1]] ∧
      ∃ s, broadcastFor (.callable (.primitive .add)) shapes = .ok s ∧ IsLargestRank shapes s.rank ∧
        s.HasLengths [3, 0] := by
  intro shapes
  have hm : ∀ s ∈ shapes, Measured s.axes := by decide
  have hl : List.Forall₂ Shape.HasLengths shapes [[3, 1], [0], [1]] := .cons rfl (.cons rfl (.cons rfl .nil))
  obtain ⟨-, hspec⟩ := broadcastFor_stretches (.callable (.primitive .add)) shapes
  obtain ⟨-, hok, -, hlengths⟩ := hspec hm
  obtain ⟨s, hs⟩ := (hlengths _ hl).1.2 ⟨[3, 0], rfl⟩
  exact ⟨hm, hl, s, hs, (hok s hs).1, (hlengths _ hl).2 s _ hs rfl⟩

end ArrayTyping

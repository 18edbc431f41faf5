import ArrayTyping.Proofs.Flattening
import Mathlib.Data.Fintype.OfMap
import Mathlib.Data.List.Dedup
import Mathlib.Data.List.Perm.Basic
import Mathlib.Tactic.IntervalCases
/-!
# ElementTypes — the joined element type as an upper bound

Promotion gives the numeric types an order: `a` is held by `b` if `b` stays what it is when it meets `a`.  It is no
lattice.  Small signed and unsigned integers are held by a wider integer and by a short floating-point type, and neither
holds the other, so that the promotion of three types depends on how they are grouped.  Within one category it does not,
and the fold over descending categories depends on nothing but which types there are.
-/
namespace ArrayTyping

open Build (outcome contribution promotedScalarType_eq)

/-! ## Folds over sets -/

section Fold

variable {α β : Type} [DecidableEq α] {f : β → α → β} {xs ys : List α}

/-- A step that commutes and that changes nothing when repeated is folded once over each element. -/
theorem foldl_dedup (hcomm : ∀ x ∈ xs, ∀ y ∈ xs, ∀ z, f (f z x) y = f (f z y) x)
    (hidem : ∀ x ∈ xs, ∀ z, f (f z x) x = f z x) (z : β) : xs.dedup.foldl f z = xs.foldl f z := by
  induction xs generalizing z with
  | nil => rfl
  | cons x xs ih =>
    have hcomm' : ∀ x ∈ xs, ∀ y ∈ xs, ∀ z, f (f z x) y = f (f z y) x := fun x hx y hy =>
      hcomm x (List.mem_cons_of_mem _ hx) y (List.mem_cons_of_mem _ hy)
    have ih := ih hcomm' fun x hx => hidem x (List.mem_cons_of_mem _ hx)
    by_cases hx : x ∈ xs
    · -- the other `x` is brought to the front, where it does nothing
      have hfront := (List.perm_cons_erase hx).foldl_eq' hcomm'
      rw [List.dedup_cons_of_mem hx, ih, List.foldl_cons, hfront, hfront, List.foldl_cons, List.foldl_cons,
        hidem x List.mem_cons_self]
    · rw [List.dedup_cons_of_notMem hx, List.foldl_cons, List.foldl_cons, ih]

theorem foldl_eq_of_mem_iff (hcomm : ∀ x ∈ xs, ∀ y ∈ xs, ∀ z, f (f z x) y = f (f z y) x)
    (hidem : ∀ x ∈ xs, ∀ z, f (f z x) x = f z x) (h : ∀ x, x ∈ xs ↔ x ∈ ys) (z : β) :
    xs.foldl f z = ys.foldl f z := by
  have hcomm' : ∀ x ∈ ys, ∀ y ∈ ys, ∀ z, f (f z x) y = f (f z y) x := fun x hx y hy =>
    hcomm x ((h x).2 hx) y ((h y).2 hy)
  have hperm : xs.dedup.Perm ys.dedup := by
    rw [List.perm_ext_iff_of_nodup xs.nodup_dedup ys.nodup_dedup]
    intro x
    rw [List.mem_dedup, List.mem_dedup, h]
  have hdedup : ∀ x ∈ xs.dedup, ∀ y ∈ xs.dedup, ∀ z, f (f z x) y = f (f z y) x := fun x hx y hy =>
    hcomm x (List.mem_dedup.1 hx) y (List.mem_dedup.1 hy)
  rw [← foldl_dedup hcomm hidem, hperm.foldl_eq' hdedup, foldl_dedup hcomm' fun x hx => hidem x ((h x).2 hx)]

end Fold

theorem foldl_max_le_iff {ns : List Nat} {m k : Nat} : ns.foldl max m ≤ k ↔ m ≤ k ∧ ∀ n ∈ ns, n ≤ k := by
  induction ns generalizing m with
  | nil => simp
  | cons n ns ih => rw [List.foldl_cons, ih, List.forall_mem_cons, Nat.max_le, and_assoc]

/-! ## The order of the numeric types -/

namespace Numeric

def all : List Numeric :=
  [.bool, .signed .one, .signed .two, .signed .four, .signed .eight, .unsigned .one, .unsigned .two, .unsigned .four,
    .unsigned .eight, .float .half, .float .single, .float .double, .complex .single, .complex .double]

theorem mem_all (t : Numeric) : t ∈ all := by
  cases t with
  | bool => decide
  | signed w | unsigned w => cases w <;> decide
  | float p => cases p <;> decide
  | complex p => cases p <;> decide

instance : Fintype Numeric := .ofList all mem_all

def HeldBy (a b : Numeric) : Prop := b.promote a = b

instance (a b : Numeric) : Decidable (a.HeldBy b) := inferInstanceAs (Decidable (_ = _))

theorem heldBy_promote : ∀ a b : Numeric, a.HeldBy (a.promote b) ∧ b.HeldBy (a.promote b) := by decide +kernel

theorem HeldBy.trans : ∀ {a b c : Numeric}, a.HeldBy b → b.HeldBy c → a.HeldBy c := by decide +kernel

/-- **Types of one category are weighed in any order**, whatever they are weighed against. -/
theorem promote_right_comm : ∀ {a b : Numeric}, a.category = b.category → ∀ t : Numeric,
    (t.promote a).promote b = (t.promote b).promote a := by decide +kernel

theorem heldBy_foldl {a t : Numeric} (h : a.HeldBy t) (ts : List Numeric) : a.HeldBy (ts.foldl promote t) := by
  induction ts generalizing t with
  | nil => exact h
  | cons u ts ih => exact ih (h.trans (heldBy_promote t u).1)

theorem heldBy_foldl_of_mem {a : Numeric} {ts : List Numeric} (h : a ∈ ts) (t : Numeric) :
    a.HeldBy (ts.foldl promote t) := by
  induction ts generalizing t with
  | nil => cases h
  | cons u ts ih =>
    rcases List.mem_cons.1 h with rfl | h
    · exact heldBy_foldl (heldBy_promote t a).2 ts
    · exact ih h (t.promote u)

theorem category_le : ∀ t : Numeric, t.category ≤ 3 := by decide

end Numeric

/-! ## Types that must be held -/

namespace Dtype

theorem mem_ofCategory {c : Nat} {t : Numeric} {ts : List Numeric} : t ∈ ofCategory c ts ↔ t ∈ ts ∧ t.category = c := by
  rw [ofCategory, List.mem_filter, beq_iff_eq]

theorem mem_descending {t : Numeric} {ts : List Numeric} : t ∈ descending ts ↔ t ∈ ts := by
  have hle := t.category_le
  simp only [descending, List.mem_append, mem_ofCategory, ← and_or_left, and_iff_left_iff_imp]
  omega

def joinNumeric (ts : List Numeric) : Numeric := (descending ts).foldl Numeric.promote .bool

theorem heldBy_joinNumeric {t : Numeric} {ts : List Numeric} (h : t ∈ ts) : t.HeldBy (joinNumeric ts) :=
  Numeric.heldBy_foldl_of_mem (mem_descending.2 h) .bool

theorem foldl_ofCategory_congr (c : Nat) {ts us : List Numeric} (h : ∀ t, t ∈ ts ↔ t ∈ us) (t : Numeric) :
    (ofCategory c ts).foldl Numeric.promote t = (ofCategory c us).foldl Numeric.promote t := by
  refine foldl_eq_of_mem_iff (fun a ha b hb => ?_) (fun a _ z => (z.heldBy_promote a).2) (fun a => ?_) t
  · exact Numeric.promote_right_comm ((mem_ofCategory.1 ha).2.trans (mem_ofCategory.1 hb).2.symm)
  · rw [mem_ofCategory, mem_ofCategory, h]

/-- **The numeric type depends on nothing but which types there are.**  Each category is folded by itself. -/
theorem joinNumeric_congr {ts us : List Numeric} (h : ∀ t, t ∈ ts ↔ t ∈ us) : joinNumeric ts = joinNumeric us := by
  unfold joinNumeric descending
  simp only [List.foldl_append, foldl_ofCategory_congr _ h]

theorem joinNumeric_singleton : ∀ t : Numeric, joinNumeric [t] = t := by decide +kernel

theorem joinNumeric_pair : ∀ t u : Numeric, joinNumeric [t, u] = t.promote u := by decide +kernel

theorem numeric?_eq_some {d : Dtype} (h : d ≠ .object) : ∃ t, d.numeric? = some t := by
  cases d with
  | native t => exact ⟨t, rfl⟩
  | swapped t m => exact ⟨t, rfl⟩
  | object => exact absurd rfl h

theorem joinStrong?_of_object {ds : List Dtype} (h : .object ∈ ds) : joinStrong? ds = some .object := by
  unfold joinStrong?
  rw [if_pos (List.contains_iff_mem.2 h)]

theorem joinStrong?_of_numeric {ds : List Dtype} (hne : ds ≠ []) (h : .object ∉ ds) :
    joinStrong? ds = some (.native (joinNumeric (ds.filterMap numeric?))) := by
  obtain ⟨d, hd⟩ := List.exists_mem_of_ne_nil ds hne
  obtain ⟨t, ht⟩ := numeric?_eq_some fun hobj => h (hobj ▸ hd)
  have hmem := mem_descending.2 (List.mem_filterMap.2 ⟨d, hd, ht⟩)
  unfold joinStrong? joinNumeric
  rw [if_neg fun hc => h (List.contains_iff_mem.1 hc)]
  cases hdesc : descending (ds.filterMap numeric?) with
  | nil =>
    rw [hdesc] at hmem
    cases hmem
  | cons u us => rfl

theorem joinStrong?_congr {ds es : List Dtype} (h : ∀ d, d ∈ ds ↔ d ∈ es) : joinStrong? ds = joinStrong? es := by
  by_cases hobj : .object ∈ ds
  · rw [joinStrong?_of_object hobj, joinStrong?_of_object ((h _).1 hobj)]
  by_cases hne : ds = []
  · have hne' : es = [] := List.eq_nil_iff_forall_not_mem.2 fun d hd => by
      rw [← h, hne] at hd
      cases hd
    rw [hne, hne']
  · have hne' : es ≠ [] := fun hes => hne (List.eq_nil_iff_forall_not_mem.2 fun d hd => by
      rw [h, hes] at hd
      cases hd)
    rw [joinStrong?_of_numeric hne hobj, joinStrong?_of_numeric hne' fun hd => hobj ((h _).2 hd),
      joinNumeric_congr fun t => ?_]
    simp only [List.mem_filterMap, h]

/-! ## Items -/

def literalCategory (items : List Item) : Nat := (items.filterMap Item.weakCategory?).foldl max 0

theorem ofItems_eq {items : List Item} (h : ∀ n, items ≠ [.weakInt n]) :
    ofItems items = match joinStrong? (items.filterMap Item.strong?) with
      | some r => r.raise (literalCategory items)
      | none => ofWeakCategory (literalCategory items) :=
  ofItems.eq_2 items h

theorem literalCategory_congr {is js : List Item} (h : ∀ i, i ∈ is ↔ i ∈ js) :
    literalCategory is = literalCategory js := by
  refine foldl_eq_of_mem_iff (fun a _ b _ c => max_right_comm c a b) (fun a _ c => ?_) (fun c => ?_) 0
  · rw [max_assoc, max_self]
  · simp only [List.mem_filterMap, h]

theorem ofItems_congr {is js : List Item} (h : ∀ i, i ∈ is ↔ i ∈ js) (his : ∀ n, is ≠ [.weakInt n])
    (hjs : ∀ n, js ≠ [.weakInt n]) : ofItems is = ofItems js := by
  have hstrong : ∀ d, d ∈ is.filterMap Item.strong? ↔ d ∈ js.filterMap Item.strong? := fun d => by
    simp only [List.mem_filterMap, h]
  rw [ofItems_eq his, ofItems_eq hjs, joinStrong?_congr hstrong, literalCategory_congr h]

theorem ofItems_perm {is js : List Item} (h : is.Perm js) : ofItems is = ofItems js := by
  -- An integer alone is typed by its value, which no other list of items is.
  by_cases his : ∃ n, is = [.weakInt n]
  · obtain ⟨n, rfl⟩ := his
    rw [List.singleton_perm.1 h]
  · have hjs : ∀ n, js ≠ [.weakInt n] := fun n hn => his ⟨n, by rw [hn] at h; exact List.perm_singleton.1 h⟩
    exact ofItems_congr (fun i => h.mem_iff) (fun n hn => his ⟨n, hn⟩) hjs

theorem ne_weakInt_of_strong {items : List Item} {d : Dtype} (h : .strong d ∈ items) (n : Int) :
    items ≠ [.weakInt n] := by
  rintro rfl
  cases List.mem_singleton.1 h

theorem join_perm {is js : List Item} (h : is.Perm js) : join is = join js := by
  unfold join
  rw [ofItems_perm h, h.contains_eq, h.isEmpty_eq]

/-- **With a type that must be held, repetitions do not matter**, nor do marks. -/
theorem join_congr {is js : List Item} (h : ∀ i, i ∈ is.map Item.plain ↔ i ∈ js.map Item.plain) {d : Dtype}
    (hd : .strong d ∈ is) : join is = join js := by
  have hd' : .strong d.plain ∈ is.map Item.plain := List.mem_map_of_mem hd
  rw [← join_plain is, ← join_plain js]
  generalize is.map Item.plain = is', js.map Item.plain = js' at h hd'
  have hcontains : is'.contains .unknown = js'.contains .unknown := by
    rw [Bool.eq_iff_iff, List.contains_iff_mem, List.contains_iff_mem, h]
  have hempty : is'.isEmpty = js'.isEmpty := by
    rw [List.isEmpty_eq_false_iff.2 (List.ne_nil_of_mem hd'),
      List.isEmpty_eq_false_iff.2 (List.ne_nil_of_mem ((h _).1 hd'))]
  unfold join
  rw [hcontains, hempty, ofItems_congr h (ne_weakInt_of_strong hd') (ne_weakInt_of_strong ((h _).1 hd'))]

/-! ## Absorption -/

def Absorbs (r : Dtype) (i : Item) : Prop := ofItems [.strong r, i] = r

theorem ofItems_pair {r s : Dtype} {i : Item} (h : joinStrong? (r :: i.strong?.toList) = some s) :
    ofItems [.strong r, i] = s.raise (i.weakCategory?.getD 0) := by
  have hne : ∀ n, [Item.strong r, i] ≠ [.weakInt n] := fun n => by simp
  have hliteral : literalCategory [.strong r, i] = i.weakCategory?.getD 0 := by cases i <;> rfl
  have hstrong : [Item.strong r, i].filterMap Item.strong? = r :: i.strong?.toList := by cases i <;> rfl
  rw [ofItems_eq hne, hliteral, hstrong, h]

theorem absorbs_object (i : Item) : object.Absorbs i := ofItems_pair (joinStrong?_of_object List.mem_cons_self)

theorem raise_of_le {t : Numeric} {c : Nat} (h : c ≤ t.category) : raise (.native t) c = .native t := if_pos h

theorem absorbs_strong {d : Dtype} {a t : Numeric} (hd : d.numeric? = some a) (h : a.HeldBy t) :
    (native t).Absorbs (.strong d) := by
  have hobj : .object ∉ [native t, d] := by
    rintro (_ | ⟨_, _ | ⟨_, ⟨⟩⟩⟩)
    cases hd
  have hjoin : joinStrong? [native t, d] = some (.native t) := by
    have hnumeric : [native t, d].filterMap numeric? = [t, a] := by
      rw [List.filterMap_cons, List.filterMap_cons, hd]
      rfl
    rw [joinStrong?_of_numeric (List.cons_ne_nil _ _) hobj, hnumeric, joinNumeric_pair, h]
  exact (ofItems_pair hjoin).trans (raise_of_le (Nat.zero_le _))

theorem absorbs_literal {i : Item} {c : Nat} {t : Numeric} (hi : i.weakCategory? = some c) (h : c ≤ t.category) :
    (native t).Absorbs i := by
  have hnone : i.strong? = none := by
    cases i with
    | strong d => cases hi
    | _ => rfl
  have hjoin : joinStrong? (native t :: i.strong?.toList) = some (.native t) := by
    rw [hnone, Option.toList_none, joinStrong?_of_numeric (List.cons_ne_nil _ _) (by simp)]
    exact congrArg (fun t => some (native t)) (joinNumeric_singleton t)
  refine (ofItems_pair hjoin).trans (raise_of_le ?_)
  rw [hi]
  exact h

theorem raise_native {c : Nat} (hc : c ≤ 3) :
    ∀ t : Numeric, ∃ u, raise (.native t) c = .native u ∧ t.HeldBy u ∧ c ≤ u.category := by
  interval_cases c
  all_goals decide +kernel

theorem ofWeakCategory_native {c : Nat} (hc : c ≤ 3) : ∃ u, ofWeakCategory c = .native u ∧ c ≤ u.category := by
  interval_cases c
  all_goals exact ⟨_, rfl, by decide⟩

theorem le_literalCategory {i : Item} {items : List Item} {c : Nat} (h : i ∈ items) (hc : i.weakCategory? = some c) :
    c ≤ literalCategory items :=
  (foldl_max_le_iff.1 (Nat.le_refl _)).2 c (List.mem_filterMap.2 ⟨i, h, hc⟩)

theorem literalCategory_le (items : List Item) : literalCategory items ≤ 3 := by
  refine foldl_max_le_iff.2 ⟨Nat.zero_le _, fun c hc => ?_⟩
  obtain ⟨i, -, hi⟩ := List.mem_filterMap.1 hc
  cases i with
  | unknown | strong => cases hi
  | weakInt | weakFloat | weakComplex =>
    cases hi
    decide

theorem absorbs_ofInt (n : Int) : (ofInt n).Absorbs (.weakInt n) := by
  unfold ofInt
  split
  · exact absorbs_literal rfl (by decide)
  split
  · exact absorbs_literal rfl (by decide)
  · exact absorbs_object _

/-- **The type of an operation absorbs everything that has gone into it.** -/
theorem ofItems_absorbs {items : List Item} (hu : .unknown ∉ items) {i : Item} (hi : i ∈ items) :
    (ofItems items).Absorbs i := by
  by_cases hone : ∃ n, items = [.weakInt n]
  · obtain ⟨n, rfl⟩ := hone
    rw [List.mem_singleton.1 hi]
    exact absorbs_ofInt n
  rw [ofItems_eq fun n hn => hone ⟨n, hn⟩]
  have hle := literalCategory_le items
  by_cases hobj : .object ∈ items.filterMap Item.strong?
  · rw [joinStrong?_of_object hobj]
    exact absorbs_object i
  by_cases hnil : items.filterMap Item.strong? = []
  · -- literals only: each asks for no more than the largest category
    obtain ⟨u, hu', hcat⟩ := ofWeakCategory_native hle
    rw [hnil]
    show (ofWeakCategory (literalCategory items)).Absorbs i
    rw [hu']
    obtain ⟨c, hc⟩ : ∃ c, i.weakCategory? = some c := by
      cases i with
      | unknown => exact absurd hi hu
      | strong d =>
        have hd : d ∈ items.filterMap Item.strong? := List.mem_filterMap.2 ⟨_, hi, rfl⟩
        rw [hnil] at hd
        cases hd
      | weakInt | weakFloat | weakComplex => exact ⟨_, rfl⟩
    exact absorbs_literal hc (Nat.le_trans (le_literalCategory hi hc) hcat)
  · rw [joinStrong?_of_numeric hnil hobj]
    -- What the types join to is raised once more for the literals, and still holds each of the types.
    obtain ⟨u, hu', hheld, hcat⟩ := raise_native hle (joinNumeric ((items.filterMap Item.strong?).filterMap numeric?))
    dsimp only
    rw [hu']
    cases i with
    | unknown => exact absurd hi hu
    | strong d =>
      have hd : d ∈ items.filterMap Item.strong? := List.mem_filterMap.2 ⟨_, hi, rfl⟩
      obtain ⟨t, ht⟩ := numeric?_eq_some fun h => hobj (h ▸ hd)
      exact absorbs_strong ht ((heldBy_joinNumeric (List.mem_filterMap.2 ⟨d, hd, ht⟩)).trans hheld)
    | weakInt | weakFloat | weakComplex =>
      exact absorbs_literal rfl (Nat.le_trans (le_literalCategory hi rfl) hcat)

theorem join_eq_none {items : List Item} : join items = none ↔ .unknown ∈ items := by
  unfold join
  split
  · rename_i h
    exact iff_of_true rfl (List.contains_iff_mem.1 h)
  · rename_i h
    refine iff_of_false ?_ fun hu => h (List.contains_iff_mem.2 hu)
    split
    · rintro ⟨⟩
    · rintro ⟨⟩

/-- Without literals there is no exception. -/
theorem join_congr_of_typed {is js : List Item} (h : ∀ i, i ∈ is.map Item.plain ↔ i ∈ js.map Item.plain)
    (htyped : ∀ i ∈ is, i.weakCategory? = none) : join is = join js := by
  cases is with
  | nil =>
    have hjs : js.map Item.plain = [] := List.eq_nil_iff_forall_not_mem.2 fun i hi => by cases (h i).2 hi
    rw [List.map_eq_nil_iff.1 hjs]
  | cons i is =>
    have hi := htyped i List.mem_cons_self
    cases i with
    | strong d => exact join_congr h List.mem_cons_self
    | unknown =>
      obtain ⟨j, hj, hplain⟩ := List.mem_map.1 ((h .unknown).1 List.mem_cons_self)
      rw [join_eq_none.2 List.mem_cons_self, eq_comm, join_eq_none, ← Item.plain_eq_unknown.1 hplain]
      exact hj
    | weakInt | weakFloat | weakComplex => cases hi

end Dtype

/-! ## Values -/

/-- Two values that contribute the same to an element type, up to marks. -/
def Value.SameItem (v w : Value) : Prop := ∃ i j, v.item = .ok i ∧ w.item = .ok j ∧ i.plain = j.plain

structure SameItems (vs ws : List Value) : Prop where
  left : ∀ v ∈ vs, ∃ w ∈ ws, v.SameItem w
  right : ∀ w ∈ ws, ∃ v ∈ vs, v.SameItem w

theorem Value.item_eq_unknown {v : Value} : v.item = .ok .unknown ↔ v = .unknown := by
  constructor
  · intro h
    unfold Value.item at h
    split at h
    · rfl
    iterate 6 cases h
    · split at h
      · cases h
      · obtain ⟨d, -, hd⟩ := exceptBind_ok.1 h
        cases exceptPure_ok.1 hd
    · obtain ⟨d, -, hd⟩ := exceptBind_ok.1 h
      cases exceptPure_ok.1 hd
  · rintro rfl
    rfl

section Items

variable {vs ws : List Value} {is : List Dtype.Item}

theorem mem_items (h : vs.mapM Value.item = .ok is) {i : Dtype.Item} : i ∈ is ↔ ∃ v ∈ vs, v.item = .ok i := by
  constructor
  · exact fun hi => forall₂_exists_left (exceptMapM_ok.1 h) i hi
  · rintro ⟨v, hv, hi⟩
    obtain ⟨j, hj, hv⟩ := forall₂_exists_right (exceptMapM_ok.1 h) v hv
    rw [hi] at hv
    cases hv
    exact hj

theorem unknown_mem_items (h : vs.mapM Value.item = .ok is) : .unknown ∈ is ↔ .unknown ∈ vs := by
  simp only [mem_items h, Value.item_eq_unknown, exists_eq_right]

theorem joinElementTypes_eq (h : vs.mapM Value.item = .ok is) : joinElementTypes vs = .ok (Dtype.join is) := by
  unfold joinElementTypes
  split
  · rename_i hany
    obtain ⟨v, hv, hunknown⟩ := List.any_eq_true.1 hany
    cases v with
    | unknown => rw [Dtype.join_eq_none.2 ((unknown_mem_items h).2 hv)]
    | _ => cases hunknown
  · rw [h]
    rfl

theorem exists_items (h : ∀ v ∈ vs, ∃ i, v.item = .ok i) : ∃ is, vs.mapM Value.item = .ok is := exceptMapM_exists h

theorem joinElementTypes_perm (h : vs.mapM Value.item = .ok is) (hperm : vs.Perm ws) :
    joinElementTypes ws = .ok (Dtype.join is) := by
  obtain ⟨js, hjs, hsame⟩ := List.perm_comp_forall₂ hperm.symm (exceptMapM_ok.1 h)
  rw [joinElementTypes_eq (exceptMapM_ok.2 hjs), Dtype.join_perm hsame]

theorem joinElementTypes_congr (h : vs.mapM Value.item = .ok is) (hsame : SameItems vs ws) {d : Dtype}
    (hd : .strong d ∈ is) : joinElementTypes ws = .ok (Dtype.join is) := by
  have hitems : ∀ w ∈ ws, ∃ j, w.item = .ok j := fun w hw => by
    obtain ⟨v, -, -, j, -, hj, -⟩ := hsame.right w hw
    exact ⟨j, hj⟩
  obtain ⟨js, hjs⟩ := exists_items hitems
  have hplain : ∀ i, i ∈ is.map Dtype.Item.plain ↔ i ∈ js.map Dtype.Item.plain := by
    intro i
    simp only [List.mem_map, mem_items h, mem_items hjs]
    constructor
    · rintro ⟨j, ⟨v, hv, hj⟩, rfl⟩
      obtain ⟨w, hw, j', k, hj', hk, hjk⟩ := hsame.left v hv
      rw [hj] at hj'
      cases hj'
      exact ⟨k, ⟨w, hw, hk⟩, hjk.symm⟩
    · rintro ⟨k, ⟨w, hw, hk⟩, rfl⟩
      obtain ⟨v, hv, j, k', hj, hk', hjk⟩ := hsame.right w hw
      rw [hk] at hk'
      cases hk'
      exact ⟨j, ⟨v, hv, hj⟩, hjk⟩
  rw [joinElementTypes_eq hjs, Dtype.join_congr hplain hd]

theorem joinElementTypes_absorbs (h : vs.mapM Value.item = .ok is) {r : Dtype}
    (hr : Dtype.join is = some r) {v : Value} (hv : v ∈ vs) : joinElementTypes [.dtype r, v] = .ok (some r) := by
  have hu : .unknown ∉ is := fun hu => by
    rw [Dtype.join_eq_none.2 hu] at hr
    cases hr
  obtain ⟨i, hi, hvi⟩ := forall₂_exists_right (exceptMapM_ok.1 h) v hv
  have hof : Dtype.ofItems is = r := by
    unfold Dtype.join at hr
    rw [if_neg fun hc => hu (List.contains_iff_mem.1 hc),
      if_neg fun hc => List.ne_nil_of_mem hi (List.isEmpty_iff.1 hc)] at hr
    exact Option.some.inj hr
  have hpair : [Value.dtype r, v].mapM Value.item = .ok [.strong r, i] :=
    exceptMapM_ok.2 (.cons rfl (.cons hvi .nil))
  have hpair_known : .unknown ∉ [Dtype.Item.strong r, i] := by
    rintro (_ | ⟨_, _ | ⟨_, ⟨⟩⟩⟩)
    exact hu hi
  have habsorbs := hof ▸ Dtype.ofItems_absorbs hu hi
  rw [joinElementTypes_eq hpair, Dtype.join, if_neg fun hc => hpair_known (List.contains_iff_mem.1 hc)]
  exact congrArg (fun d => Except.ok (some d)) habsorbs

end Items

/-! ## Array terms -/

def arrayElementTypes (args : List Value) : List ElementType :=
  (args.filterMap Value.arrayType?).map fun t => t.eltype.map Dtype.plain

theorem joinedElementType_congr {vs ws : List Value} (h : ∀ e, e ∈ arrayElementTypes vs ↔ e ∈ arrayElementTypes ws) :
    joinedElementType vs = joinedElementType ws := by
  have hplain : ∀ us : List Value,
      ((us.filterMap Value.arrayType?).map fun t => Dtype.Item.ofElementType t.eltype).map Dtype.Item.plain =
        (arrayElementTypes us).map Dtype.Item.ofElementType := fun us => by
    rw [arrayElementTypes, List.map_map, List.map_map]
    refine List.map_congr_left fun t _ => ?_
    simp only [Function.comp_apply]
    cases t.eltype <;> rfl
  refine Dtype.join_congr_of_typed (fun i => ?_) fun i hi => ?_
  · simp only [hplain, List.mem_map, h]
  · obtain ⟨t, -, rfl⟩ := List.mem_map.1 hi
    cases t.eltype <;> rfl

theorem joinedElementType_of_types {vs ws : List Value} (h : ws.map Value.arrayType? = vs.map Value.arrayType?) :
    joinedElementType ws = joinedElementType vs := by
  have hjoined : ∀ us : List Value, us.filterMap Value.arrayType? = (us.map Value.arrayType?).filterMap id := by
    intro us
    rw [List.filterMap_map]
    rfl
  rw [joinedElementType, joinedElementType, hjoined, hjoined, h]

namespace Build

/-- An array term over `args`, built as such or as an application. -/
def IsArrayTermOver (args : List Value) (n : Node) : Prop :=
  ∃ book op st st', outcome (arrayTerm book op args) st = (.ok n, st') ∨
    (outcome (apply book op args) st = (.ok n, st') ∧ n.isArray = true)

theorem eltype_of_arrayTerm {book : RuleBook} {op : Value} {args : List Value} {n : Node} {st st' : Store}
    (h : outcome (arrayTerm book op args) st = (.ok n, st')) :
    n.type.eltype.map Dtype.plain = (joinedElementType args).map Dtype.plain := by
  obtain ⟨operands, st₁, r, st₂, info, st₃, h₁, -, -, -, hn⟩ := arrayTerm_ok.1 h
  obtain ⟨f, -, -, hnew, -⟩ := finishedTerm_ok hn
  rw [DeclaredType.eltype_of_plain hnew.type_eq, ← joinedElementType_of_types (arrayTypes_of_operands h₁)]
  rfl

theorem IsArrayTermOver.eltype_eq {args : List Value} {n : Node} (h : IsArrayTermOver args n) :
    n.type.eltype.map Dtype.plain = (joinedElementType args).map Dtype.plain := by
  obtain ⟨book, op, st, st', h | ⟨h, ha⟩⟩ := h
  · exact eltype_of_arrayTerm h
  · unfold apply at h
    obtain ⟨operands, st₁, h₁, h⟩ := outcome_bind_ok.1 h
    split at h
    · rw [eltype_of_arrayTerm h, joinedElementType_of_types (arrayTypes_of_operands h₁)]
    · obtain ⟨t, st₂, ht, h⟩ := outcome_bind_ok.1 h
      obtain ⟨f, -, hnew, -⟩ := term_ok h
      obtain ⟨hpromoted, -⟩ := outcome_lift_ok.1 ht
      rw [promotedScalarType_eq] at hpromoted
      cases hj : joinElementTypes (operands.map contribution) with
      | error f =>
        rw [hj] at hpromoted
        cases hpromoted
      | ok e =>
        rw [hj] at hpromoted
        cases hpromoted
        have hscalar : n.isArray = false := DeclaredType.isArray_of_plain hnew.type_eq
        rw [hscalar] at ha
        cases ha

end Build

theorem joinElementTypes_pair (t u : Numeric) :
    joinElementTypes [.dtype (.native t), .dtype (.native u)] = .ok (some (.native (t.promote u))) := by
  have hitems : [Value.dtype (.native t), .dtype (.native u)].mapM Value.item =
      .ok [.strong (.native t), .strong (.native u)] := rfl
  have hjoin : Dtype.joinStrong? [.native t, .native u] = some (.native (t.promote u)) := by
    rw [Dtype.joinStrong?_of_numeric (List.cons_ne_nil _ _) (by simp)]
    exact congrArg (fun t => some (Dtype.native t)) (Dtype.joinNumeric_pair t u)
  rw [joinElementTypes_eq hitems]
  exact congrArg (fun d => Except.ok (some d)) ((Dtype.ofItems_pair hjoin).trans (Dtype.raise_of_le (Nat.zero_le _)))

/-- **The joined element type is an upper bound that no order changes.**  Two types join as they promote.  The join is
unknown exactly if something in the list is.  With a type among the items that must be held, it depends on nothing but
which items there are, and it absorbs each of them.  So the element type of an array term depends on nothing but which
element types its array operands have. -/
theorem elementType_orderFree :
    (∀ t u : Numeric, joinElementTypes [.dtype (.native t), .dtype (.native u)] = .ok (some (.native (t.promote u)))) ∧
    (∀ vs : List Value, (∀ v ∈ vs, ∃ i, v.item = .ok i) → ∃ e, joinElementTypes vs = .ok e ∧
      (e = none ↔ .unknown ∈ vs) ∧
      (∀ ws, vs.Perm ws → joinElementTypes ws = .ok e) ∧
      ((∃ v ∈ vs, ∃ d, v.item = .ok (.strong d)) → ∀ ws, SameItems vs ws → joinElementTypes ws = .ok e) ∧
      ∀ r, e = some r → ∀ v ∈ vs, joinElementTypes [.dtype r, v] = .ok (some r)) ∧
    ∀ (args args' : List Value) (n n' : Node), Build.IsArrayTermOver args n → Build.IsArrayTermOver args' n' →
      (∀ e, e ∈ arrayElementTypes args ↔ e ∈ arrayElementTypes args') →
      n'.type.eltype.map Dtype.plain = n.type.eltype.map Dtype.plain := by
  refine ⟨joinElementTypes_pair, fun vs hitems => ?_, fun args args' n n' hn hn' h => ?_⟩
  · obtain ⟨is, his⟩ := exists_items hitems
    refine ⟨Dtype.join is, joinElementTypes_eq his, ?_, fun ws => joinElementTypes_perm his, ?_, ?_⟩
    · rw [Dtype.join_eq_none, unknown_mem_items his]
    · rintro ⟨v, hv, d, hd⟩ ws hsame
      exact joinElementTypes_congr his hsame ((mem_items his).2 ⟨v, hv, hd⟩)
    · exact fun r hr v hv => joinElementTypes_absorbs his hr hv
  · rw [hn.eltype_eq, hn'.eltype_eq, joinedElementType_congr h]

/-- Small integers of both signs with a short floating-point type and a literal: grouped from the left they would promote
to a wider one.  As arrays, one of them is repeated. -/
theorem elementType_orderFree_mixed :
    let vs : List Value := [.dtype .int8, .dtype .uint8, .dtype .float16, .ofInt 5]
    let array (d : Dtype) : Value := .array ⟨Mark.unmarked, [some 2], some d, .filled (.int 0)⟩
    joinElementTypes vs = .ok (some .float16) ∧ joinElementTypes vs.reverse = .ok (some .float16) ∧
      (∀ v ∈ vs, joinElementTypes [.dtype .float16, v] = .ok (some .float16)) ∧
      ∃ n n', Build.IsArrayTermOver [array .int8, array .uint8] n ∧
        Build.IsArrayTermOver [array .uint8, array .int8, array .int8] n' ∧
        n'.type.eltype.map Dtype.plain = n.type.eltype.map Dtype.plain := by
  intro vs array
  obtain ⟨-, hjoin, hterm⟩ := elementType_orderFree
  have hitems : ∀ v ∈ vs, ∃ i, v.item = .ok i := by
    simp only [vs, List.forall_mem_cons]
    exact ⟨⟨_, rfl⟩, ⟨_, rfl⟩, ⟨_, rfl⟩, ⟨_, rfl⟩, by rintro v ⟨⟩⟩
  obtain ⟨e, he, -, hperm, -, habsorbs⟩ := hjoin vs hitems
  have hfloat : joinElementTypes vs = .ok (some .float16) := rfl
  cases hfloat.symm.trans he
  have hadd : IsElementwise (.callable (.primitive .add)) := .primitive (by decide)
  have harray : ∀ d, Store.empty.HasOperand (array d) (.ofLengths [2]) := fun d => .of_known rfl (by rintro n ⟨⟩)
  obtain ⟨n, hn⟩ : ∃ n, Build.IsArrayTermOver [array .int8, array .uint8] n := by
    rcases hadd.apply_cases Store.empty_wellFormed (.cons (harray _) (.cons (harray _) .nil)) rfl with
      ⟨s, n, st', t, -, hn, -, hr⟩ | ⟨hno, -⟩
    · exact ⟨n, _, _, _, _, .inr ⟨hn, hr.array.isArray⟩⟩
    · exact absurd rfl (hno (.ofLengths [2]))
  obtain ⟨n', hn'⟩ : ∃ n, Build.IsArrayTermOver [array .uint8, array .int8, array .int8] n := by
    rcases hadd.apply_cases Store.empty_wellFormed (.cons (harray _) (.cons (harray _) (.cons (harray _) .nil))) rfl with
      ⟨s, n, st', t, -, hn, -, hr⟩ | ⟨hno, -⟩
    · exact ⟨n, _, _, _, _, .inr ⟨hn, hr.array.isArray⟩⟩
    · exact absurd rfl (hno (.ofLengths [2]))
  refine ⟨hfloat, hperm _ (List.reverse_perm vs).symm, habsorbs _ rfl, n, n', hn, hn', hterm _ _ n n' hn hn' ?_⟩
  have hleft : arrayElementTypes [array .int8, array .uint8] = [some .int8, some .uint8] := rfl
  have hright : arrayElementTypes [array .uint8, array .int8, array .int8] = [some .uint8, some .int8, some .int8] := rfl
  rw [hleft, hright]
  intro e
  simp only [List.mem_cons, List.not_mem_nil, or_false]
  tauto

end ArrayTyping

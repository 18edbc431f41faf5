import ArrayTyping.Proofs.Profiles
import Mathlib.Data.List.Perm.Basic
/-!
# OperandOrder — operands in another order

An operator of the library that applies to every element scans its operands from left to right and keeps the first axis
that is no singleton.  All later ones have the same indices, so in another order another axis may be kept but no other
indices; only where every axis is a singleton does the first operand decide which index the result has there.
-/
namespace ArrayTyping

open Build (outcome operand apply)

/-! ## Kinds and ranks -/

namespace Container

theorem combine_comm (a b : Container) : combine a b = combine b a := by cases a <;> cases b <;> rfl

instance : RightCommutative combine :=
  ⟨fun a b c => by rw [combine_assoc, combine_comm b, ← combine_assoc]⟩

/-- **The order of kinds does not matter.** -/
theorem fold_perm {as bs : List Container} (h : as.Perm bs) : fold as = fold bs := by
  induction h with
  | nil => rfl
  | cons k h _ => exact h.foldl_eq k
  | swap k l ks => exact congrArg (ks.foldl combine) (combine_comm l k)
  | trans _ _ ih ih' => exact ih.trans ih'

end Container

theorem optionMapM_id_perm {α : Type} {as bs : List (Option α)} (h : as.Perm bs) {xs : List α}
    (hxs : as.mapM id = some xs) : ∃ ys, bs.mapM id = some ys ∧ xs.Perm ys := by
  have has : List.Forall₂ (fun a x => a = some x) as xs := by
    rw [optionMapM_id_some.1 hxs, List.forall₂_map_left_iff, List.forall₂_same]
    exact fun _ _ => rfl
  obtain ⟨ys, hys, hperm⟩ := List.perm_comp_forall₂ h.symm has
  refine ⟨ys, optionMapM_id_some.2 ?_, hperm.symm⟩
  rwa [← List.forall₂_eq_eq_eq, List.forall₂_map_right_iff]

/-! ## Axes -/

/-- Axes of the same length, and with the same indices unless they are singletons. -/
def Axis.SameUnlessSingleton (a b : Axis) : Prop := a.length = b.length ∧ (a.length ≠ 1 → a.toList = b.toList)

namespace Broadcast

variable {as bs : List Axis}

theorem Compatible.perm (h : as.Perm bs) (hc : Compatible as) : Compatible bs :=
  fun a ha b hb => hc a (h.mem_iff.2 ha) b (h.mem_iff.2 hb)

/-- **Of compatible axes in another order another may be picked**, but one of the same length, and with the same indices
unless all are singletons. -/
theorem pick_perm (h : as.Perm bs) (hc : Compatible as) : Option.Rel Axis.SameUnlessSingleton (pick as) (pick bs) := by
  cases hw : firstWide? as with
  | some a =>
    obtain ⟨ha, hane⟩ := firstWide?_some hw
    obtain ⟨b, hb, -, hab⟩ := pick_of_wide (hc.perm h) (h.mem_iff.1 ha) hane
    rw [hb, pick, hw, Option.some_or]
    exact .some ⟨Axis.length_eq_of_toList_eq hab, fun _ => hab⟩
  | none =>
    have hall := firstWide?_none.1 hw
    cases hp : pick as with
    | none =>
      rw [pick_eq_none] at hp
      rw [hp, List.nil_perm] at h
      rw [pick_eq_none.2 h]
      exact .none
    | some a =>
      have hne : bs ≠ [] := by
        rintro rfl
        rw [List.perm_nil.1 h] at hp
        cases hp
      obtain ⟨b, hb⟩ := Option.ne_none_iff_exists'.1 (mt pick_eq_none.1 hne)
      have ha1 : a.length = 1 := hall a (mem_of_pick hp)
      have hb1 : b.length = 1 := hall b (h.mem_iff.2 (mem_of_pick hb))
      rw [hb]
      exact .some ⟨ha1.trans hb1.symm, fun hne => absurd ha1 hne⟩

end Broadcast

theorem forall₂_of_getElem? {α β : Type} {R : α → β → Prop} {as : List α} {bs : List β}
    (h : ∀ k : Nat, Option.Rel R as[k]? bs[k]?) : List.Forall₂ R as bs := by
  induction as generalizing bs with
  | nil =>
    cases bs with
    | nil => exact .nil
    | cons b bs => cases h 0
  | cons a as ih =>
    cases bs with
    | nil => cases h 0
    | cons b bs =>
      have hab : Option.Rel R (some a) (some b) := h 0
      cases hab with
      | some hab => exact .cons hab (ih fun k => h (k + 1))

open Broadcast in
/-- **Shapes broadcast in any order**, up to the singletons of the result. -/
theorem broadcast_perm {ss ts : List Shape} (h : ss.Perm ts) {s : Shape} (hs : broadcast ss = .ok s) :
    ∃ t, broadcast ts = .ok t ∧ List.Forall₂ Axis.SameUnlessSingleton s.axes t.axes := by
  have hperm : ∀ k, (aligned ss k).Perm (aligned ts k) := fun k => h.filterMap _
  obtain ⟨hm, hc, hpicked, -⟩ := broadcast_ok_iff.1 hs
  obtain ⟨t, ht⟩ := broadcast_exists (fun t ht => hm t (h.mem_iff.2 ht)) fun k => (hc k).perm (hperm k)
  obtain ⟨-, -, hpicked', -⟩ := broadcast_ok_iff.1 ht
  refine ⟨t, ht, List.forall₂_reverse_iff.1 (forall₂_of_getElem? fun k => ?_)⟩
  rw [hpicked k, hpicked' k]
  exact pick_perm (hperm k) (hc k)

/-- Shapes with as many axes each, which are the same one by one unless they are singletons. -/
def Shape.SameUnlessSingletons (s t : Shape) : Prop := List.Forall₂ Axis.SameUnlessSingleton s.axes t.axes

theorem Shape.SameUnlessSingletons.of_plain {s t s' t' : Shape} (h : s.SameUnlessSingletons t)
    (hs : s'.plain = s.plain) (ht : t'.plain = t.plain) : s'.SameUnlessSingletons t' := by
  have hplain : ∀ {s t : Shape}, s.plain.SameUnlessSingletons t.plain ↔ s.SameUnlessSingletons t := by
    intro s t
    show List.Forall₂ _ (s.axes.map Axis.plain) (t.axes.map Axis.plain) ↔ _
    rw [List.forall₂_map_left_iff, List.forall₂_map_right_iff]
    exact Iff.rfl
  rw [← hplain, hs, ht, hplain]
  exact h

/-! ## Profiles -/

structure Profile.SameUnlessSingletons (p q : Profile) : Prop where
  kind_eq : q.kind? = p.kind?
  rank_eq : q.rank = p.rank
  shape_rel : Option.Rel Shape.SameUnlessSingletons p.shape q.shape

namespace Inference

variable {ps qs : List Profile}

theorem elementwise_rank_perm (h : ps.Perm qs) {n : Nat} (hn : elementwise.rank ps = some n) :
    elementwise.rank qs = some n := by
  obtain ⟨ns, hns, rfl⟩ := Option.map_eq_some_iff.1 hn
  obtain ⟨ms, hms, hperm⟩ := optionMapM_id_perm (h.map Profile.rank) hns
  refine Option.map_eq_some_iff.2 ⟨ms, hms, (hperm.foldl_eq 0).symm⟩

theorem elementwise_shape_perm (h : ps.Perm qs) {info : ShapeInfo} (hs : elementwise.shape ps = some info) :
    ∃ info', elementwise.shape qs = some info' ∧ Option.Rel Shape.SameUnlessSingletons info info' := by
  unfold elementwise at hs ⊢
  dsimp only at hs ⊢
  cases hknown : (ps.map Profile.shape).mapM id with
  | none =>
    have hnone : (qs.map Profile.shape).mapM id = none :=
      optionMapM_id_none.2 ((h.map Profile.shape).mem_iff.1 (optionMapM_id_none.1 hknown))
    rw [hknown] at hs
    rw [hnone, ← Option.some.inj hs]
    exact ⟨none, rfl, .none⟩
  | some ss =>
    obtain ⟨ts, hts, hperm⟩ := optionMapM_id_perm (h.map Profile.shape) hknown
    rw [hknown] at hs
    obtain ⟨s, hok, rfl⟩ := Option.map_eq_some_iff.1 hs
    obtain ⟨t, ht, hst⟩ := broadcast_perm hperm (toOption_eq_some.1 hok)
    rw [hts]
    refine ⟨some t.plain, ?_, .some (Shape.SameUnlessSingletons.of_plain hst s.plain_plain t.plain_plain)⟩
    exact Option.map_eq_some_iff.2 ⟨t, toOption_eq_some.2 ht, rfl⟩

/-- **What is read of an application hardly depends on the order of its operands.** -/
theorem elementwise_perm (h : ps.Perm qs) {p : Profile} (hp : elementwise.Gives ps p) :
    ∃ q, elementwise.Gives qs q ∧ p.SameUnlessSingletons q := by
  obtain ⟨n, hn⟩ := hp.rank_known
  have hrank := elementwise_rank_perm h (hp.rank_eq.symm.trans hn)
  obtain ⟨info, hinfo, hrel⟩ := elementwise_shape_perm h hp.shape_eq
  refine ⟨⟨p.kind?, p.rank, info⟩, ⟨?_, hn.trans hrank.symm, hp.rank_known, hinfo, ?_⟩, rfl, rfl, hrel⟩
  · rw [hp.kind_eq, Container.fold_perm (h.filterMap Profile.kind?)]
  · rintro t rfl
    have hfits := hp.fits
    cases hs : p.shape with
    | none =>
      rw [hs] at hrel
      cases hrel
    | some s =>
      rw [hs] at hrel
      cases hrel with
      | some hst =>
        rw [hfits s hs]
        exact congrArg some hst.length_eq

end Inference

/-! ## Applications -/

/-- Two arrays, each with the store it is in, of the same kind and rank, and with shapes both unknown or the same unless
singletons. -/
structure SameUnlessSingletons (st : Store) (n : Node) (st' : Store) (n' : Node) : Prop where
  isArray : n.isArray = true ∧ n'.isArray = true
  container_eq : n'.type.container? = n.type.container?
  rank_eq : n'.type.rank = n.type.rank
  shape_rel : ∃ info info', st.slots.shapeOf (.node n) = .ok info ∧ st'.slots.shapeOf (.node n') = .ok info' ∧
    Option.Rel Shape.SameUnlessSingletons info info'

def Store.HasMade (st : Store) (vs : List Value) : Prop := ∀ n, .node n ∈ vs → n.id < st.next

section Taking

variable {st : Store} {vs ws : List Value} {st₁ : Store}

/-- What has been taken as an operand and has a shape afterwards had one before. -/
theorem exists_shape_of_operand {v w : Value} (hlt : ∀ n, v = .node n → n.id < st.next)
    (h : outcome (operand v) st = (.ok w, st₁)) {st₂ : Store} (hg : st.Grown st₂)
    (hw : ∃ info, st₂.slots.shapeOf w = .ok info) : ∃ info, st.slots.shapeOf v = .ok info := by
  rcases Build.operand_ok h with ⟨rfl, -, -⟩ | ⟨a, n, rfl, rfl, hn⟩
  · rwa [hg.shapeOf_eq hlt] at hw
  · obtain ⟨-, info, -, -, -, hinfo, -⟩ := Build.constant_ok hn
    exact ⟨info, hinfo⟩

theorem exists_shapes_of_operands (hw : st.WellFormed) (hmade : st.HasMade vs)
    (h : outcome (vs.mapM operand) st = (.ok ws, st₁)) (hshapes : ∀ w ∈ ws, ∃ info, st₁.slots.shapeOf w = .ok info) :
    ∀ v ∈ vs, ∃ info, st.slots.shapeOf v = .ok info := by
  induction vs generalizing st ws with
  | nil => rintro v ⟨⟩
  | cons v vs ih =>
    have hg := (Build.Grows.mapM Build.grows_operand (v :: vs)).of_ok hw h
    obtain ⟨w, st', ws, hv, hvs, rfl⟩ := Build.outcome_mapM_cons_ok.1 h
    obtain ⟨hhead, htail⟩ := List.forall_mem_cons.1 hshapes
    have hg' := (Build.grows_operand v).of_ok hw hv
    have hlt : ∀ n, v = .node n → n.id < st.next := fun n hn => hmade n (hn ▸ List.mem_cons_self)
    refine List.forall_mem_cons.2 ⟨exists_shape_of_operand hlt hv hg hhead, fun u hu => ?_⟩
    have hmade' : st.HasMade vs := fun n hn => hmade n (List.mem_cons_of_mem _ hn)
    have hu' := ih hg'.wellFormed (fun n hn => Nat.lt_of_lt_of_le (hmade' n hn) hg'.next_le) hvs htail u hu
    rwa [hg'.shapeOf_eq fun n hn => hmade' n (hn ▸ hu)] at hu'

theorem exists_profiles (hmade : st.HasMade vs) (h : ∀ v ∈ vs, ∃ info, st.slots.shapeOf v = .ok info) :
    ∃ ps, List.Forall₂ st.HasProfile vs ps := by
  induction vs with
  | nil => exact ⟨[], .nil⟩
  | cons v vs ih =>
    obtain ⟨⟨info, hinfo⟩, hvs⟩ := List.forall_mem_cons.1 h
    obtain ⟨ps, hps⟩ := ih (fun n hn => hmade n (List.mem_cons_of_mem _ hn)) hvs
    obtain ⟨p, hp⟩ := Store.HasProfile.of_shapeOf hinfo fun n hn => hmade n (hn ▸ List.mem_cons_self)
    exact ⟨p :: ps, .cons hp hps⟩

end Taking

namespace IsElementwise

variable {op : Value} {st : Store} {vs ws : List Value}

/-- **All operands of an application that is built have a shape**, known or not. -/
theorem exists_profiles_of_apply (hop : IsElementwise op) (hw : st.WellFormed) (hmade : st.HasMade vs)
    (ha : vs.any Value.isArrayTyped = true) {n : Node} {st' : Store}
    (h : outcome (apply .builtin op vs) st = (.ok n, st')) : ∃ ps, List.Forall₂ st.HasProfile vs ps := by
  refine exists_profiles hmade ?_
  unfold apply at h
  obtain ⟨ws, st₁, h₁, h⟩ := Build.outcome_bind_ok.1 h
  rw [if_pos ((any_isArrayTyped_of_types (arrayTypes_of_operands h₁)).trans ha)] at h
  obtain ⟨ws', st₂, r, st₃, info, st₄, h₂, hr, hs, -⟩ := Build.arrayTerm_ok.1 h
  cases (outcome_operands (Build.isOperand_of_outcome h₁) st₁).symm.trans h₂
  obtain ⟨rank, shape, hrank, hshape, -⟩ := RuleBook.outcome_builtin op ws st₁
  cases hrank.symm.trans hr
  have hanswer := toOption_shape _ (Elementwise.shape st₁.slots op ws) (hop.shape_rule _) rfl
  rw [hs] at hanswer
  obtain ⟨infos, hinfos, -⟩ := exceptBind_ok.1 (toOption_eq_some.1 hanswer.symm)
  refine exists_shapes_of_operands hw hmade h₁ fun w hw => ?_
  obtain ⟨i, -, hi⟩ := forall₂_exists_right (exceptMapM_ok.1 hinfos) w hw
  exact ⟨i, hi⟩

theorem sameUnlessSingletons_of_profiles {st' : Store} {n n' : Node} {p q : Profile} (hp : st.HasProfile (.node n) p)
    (hq : st'.HasProfile (.node n') q) (h : p.SameUnlessSingletons q) (hk : p.kind?.isSome = true) :
    SameUnlessSingletons st n st' n' := by
  have hn : n.isArray = true := by
    rw [← hp.kind_eq, Value.isSome_kind?] at hk
    exact hk
  have hn' : n'.isArray = true := by
    rw [← h.kind_eq, ← hq.kind_eq, Value.isSome_kind?] at hk
    exact hk
  refine ⟨⟨hn, hn'⟩, ?_, ?_, ?_⟩
  · rw [← Value.kind?_node, ← Value.kind?_node, hp.kind_eq, hq.kind_eq, h.kind_eq]
  · exact Except.ok.inj (hq.rank_eq.trans (h.rank_eq ▸ hp.rank_eq.symm))
  · obtain ⟨info, hinfo, hplain⟩ := hp.shape_eq
    obtain ⟨info', hinfo', hplain'⟩ := hq.shape_eq
    have hrel := h.shape_rel
    rw [← hplain, ← hplain'] at hrel
    refine ⟨info, info', hinfo, hinfo', ?_⟩
    cases info with
    | none =>
      cases info' with
      | none => exact .none
      | some t => cases hrel
    | some s =>
      cases info' with
      | none => cases hrel
      | some t =>
        cases hrel with
        | some hst => exact .some (hst.of_plain s.plain_plain.symm t.plain_plain.symm)

theorem apply_of_perm (hop : IsElementwise op) (hw : st.WellFormed) (hperm : vs.Perm ws) (hmade : st.HasMade vs)
    (ha : vs.any Value.isArrayTyped = true) {n : Node} {st₁ : Store}
    (h : outcome (apply .builtin op vs) st = (.ok n, st₁)) :
    ∃ n' st₂, outcome (apply .builtin op ws) st = (.ok n', st₂) ∧ SameUnlessSingletons st₁ n st₂ n' := by
  obtain ⟨ps, hps⟩ := hop.exists_profiles_of_apply hw hmade ha h
  obtain ⟨qs, hqs, hpq⟩ := List.perm_comp_forall₂ hperm.symm hps
  have hany : ∃ p ∈ ps, p.kind?.isSome = true := by
    rw [any_isArrayTyped_of_profiles hps] at ha
    exact List.any_eq_true.1 ha
  have hany' : ∃ q ∈ qs, q.kind?.isSome = true := by
    obtain ⟨p, hp, hk⟩ := hany
    exact ⟨p, hpq.mem_iff.2 hp, hk⟩
  obtain ⟨-, p, hp, hn⟩ :=
    (Build.yields_apply (Inference.isOf_elementwise hop _) hw hps hany).profile n st₁ h
  obtain ⟨q, hq, hsame⟩ := Inference.elementwise_perm hpq.symm hp
  have hyields := Build.yields_apply (Inference.isOf_elementwise hop _) hw hqs hany'
  obtain ⟨n', st₂, h'⟩ := hyields.built q hq
  obtain ⟨-, q', hq', hn'⟩ := hyields.profile n' st₂ h'
  cases hq.unique hq'
  exact ⟨n', st₂, h', sameUnlessSingletons_of_profiles hn hn' hsame (by rw [hp.kind_eq]; rfl)⟩

/-- **The order of operands does not matter**, up to singletons.  An operator of the library that applies to every
element is built on operands with an array among them exactly if it is on the same operands in another order, and to an
array of the same kind and rank whose shape is unknown in both orders or known in both; then it has the same lengths,
and the same indices along every axis that is no singleton. -/
theorem apply_perm (hop : IsElementwise op) (hw : st.WellFormed) (hmade : st.HasMade vs)
    (ha : vs.any Value.isArrayTyped = true) (hperm : vs.Perm ws) :
    ((∃ n st', outcome (apply .builtin op vs) st = (.ok n, st')) ↔
      ∃ n st', outcome (apply .builtin op ws) st = (.ok n, st')) ∧
    ∀ n st₁ n' st₂, outcome (apply .builtin op vs) st = (.ok n, st₁) →
      outcome (apply .builtin op ws) st = (.ok n', st₂) → SameUnlessSingletons st₁ n st₂ n' := by
  have hmade' : st.HasMade ws := fun n hn => hmade n (hperm.mem_iff.2 hn)
  have ha' : ws.any Value.isArrayTyped = true := hperm.any_eq ▸ ha
  refine ⟨⟨?_, ?_⟩, ?_⟩
  · rintro ⟨n, st₁, h⟩
    obtain ⟨n', st₂, h', -⟩ := hop.apply_of_perm hw hperm hmade ha h
    exact ⟨n', st₂, h'⟩
  · rintro ⟨n, st₁, h⟩
    obtain ⟨n', st₂, h', -⟩ := hop.apply_of_perm hw hperm.symm hmade' ha' h
    exact ⟨n', st₂, h'⟩
  · intro n st₁ n' st₂ h h'
    obtain ⟨m, st₃, hm, hsame⟩ := hop.apply_of_perm hw hperm hmade ha h
    cases hm.symm.trans h'
    exact hsame

/-- A column, a literal and a row, from either end. -/
theorem apply_perm_table :
    let column : Value := .array ⟨Mark.unmarked, [some 2, some 1], some (.native .bool), .filled (.int 0)⟩
    let row : Value := .array ⟨Mark.unmarked, [some 3], some (.native .bool), .filled (.int 0)⟩
    ∃ n st₁ n' st₂, outcome (apply .builtin (.callable (.primitive .add)) [column, .ofInt 5, row]) .empty = (.ok n, st₁) ∧
      outcome (apply .builtin (.callable (.primitive .add)) [row, .ofInt 5, column]) .empty = (.ok n', st₂) ∧
      SameUnlessSingletons st₁ n st₂ n' ∧ n.type.rank = some 2 := by
  intro column row
  have hadd : IsElementwise (.callable (.primitive .add)) := .primitive (by decide)
  have hmade : Store.empty.HasMade [column, .ofInt 5, row] := by
    intro n hn
    simp [column, row, Value.ofInt] at hn
  have hperm : [column, .ofInt 5, row].Perm [row, .ofInt 5, column] := List.reverse_perm [row, .ofInt 5, column]
  have hoperands : List.Forall₂ Store.empty.HasOperand [column, .ofInt 5, row]
      [.ofLengths [2, 1], .scalar, .ofLengths [3]] :=
    .cons (.of_known rfl (by simp [column])) (.cons (.of_known rfl (by rintro n ⟨⟩))
      (.cons (.of_known rfl (by simp [row])) .nil))
  obtain ⟨hiff, hsame⟩ := hadd.apply_perm Store.empty_wellFormed hmade rfl hperm
  rcases hadd.apply_cases Store.empty_wellFormed hoperands rfl with ⟨s, n, st₁, t, hs, hn, -, hr⟩ | ⟨hno, -⟩
  · obtain ⟨n', st₂, hn'⟩ := hiff.1 ⟨n, st₁, hn⟩
    cases hs
    refine ⟨n, st₁, n', st₂, hn, hn', hsame n st₁ n' st₂ hn hn', ?_⟩
    rw [hr.array.rank_eq, Shape.rank_of_plain hr.plain_eq]
    rfl
  · exact absurd rfl (hno (.ofLengths [2, 3]))

end IsElementwise

end ArrayTyping

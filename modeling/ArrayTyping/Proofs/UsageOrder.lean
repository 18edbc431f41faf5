import ArrayTyping.Proofs.ArrayOps
import Mathlib.Data.List.Perm.Basic
/-!
# UsageOrder — bodies that use their indices in another order

What an output over a body is refused for, and along which indices it runs, is decided by the uses that there are.
Their order decides what is known: an output symbol takes the axis of its first use, which may be unknown in one order
and known in another.  The order shows in one more place.  Symbols are checked in the order of their first uses, and an
array whose shape cannot be asked for ends the check, so that a mismatch is reported only if it comes before.
-/
namespace ArrayTyping

open Build (outcome)

/-! ## The same uses -/

structure Use.Repeats (u v : Use) : Prop where
  symbol : u.symbol.same v.symbol = true
  array : u.array = v.array
  dimension : u.dimension = v.dimension

namespace Use.Repeats

variable {u v : Use} {slots : Slots}

theorem axis?_eq (h : u.Repeats v) : v.axis? slots = u.axis? slots := by
  unfold Use.axis?
  rw [h.array, h.dimension]

theorem readable (h : u.Repeats v) (hv : v.Readable slots) : u.Readable slots :=
  ⟨h.array ▸ hv.shape, h.dimension ▸ hv.dimension⟩

end Use.Repeats

/-- Two bodies in which a walk comes to the same uses, in any order and any number. -/
structure Value.SameUses (v w : Value) : Prop where
  wellIndexed : v.WellIndexed
  wellIndexed' : w.WellIndexed
  repeated : ∀ x ∈ v.uses, ∃ y ∈ w.uses, x.Repeats y
  repeated' : ∀ y ∈ w.uses, ∃ x ∈ v.uses, y.Repeats x

namespace Value.SameUses

variable {v w : Value} {slots : Slots} {output : List OutputIndex}

theorem symm (h : v.SameUses w) : w.SameUses v := ⟨h.wellIndexed', h.wellIndexed, h.repeated', h.repeated⟩

theorem conflicting (h : v.SameUses w) (hc : Conflicting slots v.uses) : Conflicting slots w.uses := by
  obtain ⟨x, hx, y, hy, hxy, a, b, ha, hb, hne⟩ := hc
  obtain ⟨x', hx', hxx⟩ := h.repeated x hx
  obtain ⟨y', hy', hyy⟩ := h.repeated y hy
  refine ⟨x', hx', y', hy', ?_, a, b, hxx.axis?_eq.trans ha, hyy.axis?_eq.trans hb, hne⟩
  rw [← Symbol.same_congr hxx.symbol, Symbol.same_comm, ← Symbol.same_congr hyy.symbol, Symbol.same_comm]
  exact hxy

theorem conflicting_iff (h : v.SameUses w) : Conflicting slots v.uses ↔ Conflicting slots w.uses :=
  ⟨h.conflicting, h.symm.conflicting⟩

theorem unresolved (h : v.SameUses w) (hn : Unresolved v.uses output) : Unresolved w.uses output := by
  obtain ⟨s, hs, hno⟩ := hn
  refine ⟨s, hs, fun y hy => ?_⟩
  obtain ⟨x, hx, hyx⟩ := h.repeated' y hy
  rw [Symbol.same_congr hyx.symbol]
  exact hno x hx

theorem readable (h : v.SameUses w) (hr : ∀ x ∈ v.uses, x.Readable slots) : ∀ y ∈ w.uses, y.Readable slots := by
  intro y hy
  obtain ⟨x, hx, hyx⟩ := h.repeated' y hy
  exact hyx.readable (hr x hx)

theorem accepted (h : v.SameUses w) (ha : v.Accepted slots) : w.Accepted slots :=
  ⟨h.wellIndexed', h.readable ha.readable, fun hc => ha.consistent (h.symm.conflicting hc)⟩

theorem toList_eq (h : v.SameUses w) (hc : ¬ Conflicting slots v.uses) {i : OutputIndex} {a b : Axis}
    (ha : i.axis? slots v.uses = some a) (hb : i.axis? slots w.uses = some b) : a.toList = b.toList := by
  cases i with
  | literal n m =>
    cases ha
    cases hb
    rfl
  | symbol s =>
    obtain ⟨x, hx, ha⟩ := Option.bind_eq_some_iff.1 ha
    obtain ⟨y, hy, hb⟩ := Option.bind_eq_some_iff.1 hb
    obtain ⟨hx, hxs⟩ := firstUse?_eq_some hx
    obtain ⟨hy, hys⟩ := firstUse?_eq_some hy
    -- The first use in the one body is not the first in the other, but it occurs there, and uses of one symbol agree.
    obtain ⟨y', hy', hyy⟩ := h.repeated' y hy
    refine Decidable.not_not.1 fun hne => hc ⟨x, hx, y', hy', ?_, a, b, ha, hyy.axis?_eq.trans hb, hne⟩
    rw [Symbol.same_comm, ← Symbol.same_congr hyy.symbol, Symbol.same_congr hys, Symbol.same_comm]
    exact hxs

end Value.SameUses

/-! ## The answer, by the uses of the body -/

theorem forall₂_of_map_some {ι α : Type} {f g : ι → Option α} {R : α → α → Prop} {is : List ι} {as bs : List α}
    (hf : is.map f = as.map some) (hg : is.map g = bs.map some)
    (h : ∀ i a b, f i = some a → g i = some b → R a b) : List.Forall₂ R as bs := by
  induction is generalizing as bs with
  | nil =>
    rw [List.map_nil, eq_comm, List.map_eq_nil_iff] at hf hg
    rw [hf, hg]
    exact .nil
  | cons i is ih =>
    rw [List.map_cons, eq_comm, List.map_eq_cons_iff] at hf hg
    obtain ⟨a, as', rfl, ha, has⟩ := hf
    obtain ⟨b, bs', rfl, hb, hbs⟩ := hg
    exact .cons (h i a b ha.symm hb.symm) (ih has.symm hbs.symm)

namespace Build

variable (output : List OutputIndex) {body : Value} {st : Store}

/-- Where every shape can be asked for, a mismatch is reported exactly if two uses conflict. -/
theorem failsWith_mismatch_iff (hb : body.WellIndexed) (hr : ∀ u ∈ body.uses, u.Readable st.slots) :
    FailsWith (outcome (outputShape output body) st).1 .dimensionMismatch ↔ Conflicting st.slots body.uses := by
  by_cases hc : Conflicting st.slots body.uses
  · obtain ⟨f, hf, c, rfl, hk⟩ := outputShape_of_conflicting output hb hr hc
    rw [hf, failsWith_conflict]
    exact iff_of_true hk hc
  · refine iff_of_false ?_ hc
    rcases outputShape_of_accepted output ⟨hb, hr, hc⟩ with ⟨info, hok, -⟩ | ⟨s, herr, -⟩
    · rw [hok]
      exact not_failsWith_ok
    · rw [herr, failsWith_conflict]
      rintro ⟨⟩

theorem failsWith_unresolved_iff :
    FailsWith (outcome (outputShape output body) st).1 .unresolvedIndex ↔
      body.Accepted st.slots ∧ Unresolved body.uses output := by
  by_cases ha : body.Accepted st.slots
  · rcases outputShape_of_accepted output ha with ⟨info, hok, hn⟩ | ⟨s, herr, hs, hno⟩
    · rw [hok]
      exact iff_of_false not_failsWith_ok fun h => hn h.2
    · rw [herr, failsWith_conflict]
      exact iff_of_true rfl ⟨ha, s, hs, hno⟩
  · refine iff_of_false ?_ fun h => ha h.1
    obtain ⟨f, hf, hbody⟩ := outputShape_of_not_accepted output ha
    rintro ⟨c, hc, hk⟩
    rw [hf] at hc
    cases hc
    cases hbody.kind_eq.symm.trans hk

theorem outputShape_ok_iff {info : ShapeInfo} :
    (outcome (outputShape output body) st).1 = .ok info ↔ body.Accepted st.slots ∧ ¬ Unresolved body.uses output ∧
      info = ((output.map (OutputIndex.axis? st.slots body.uses)).mapM id).map Shape.ofAxes := by
  by_cases ha : body.Accepted st.slots
  · by_cases hn : Unresolved body.uses output
    · obtain ⟨c, hc, -⟩ := (failsWith_unresolved_iff output).2 ⟨ha, hn⟩
      rw [hc]
      exact iff_of_false (by rintro ⟨⟩) fun h => h.2.1 hn
    · rw [outputShape_of_consistent output ha.wellIndexed ha.readable ha.consistent,
        axes_of_not_unresolved ha.readable body hn, Except.map, Except.ok.injEq]
      exact ⟨fun h => ⟨ha, hn, h.symm⟩, fun h => h.2.2.symm⟩
  · obtain ⟨f, hf, -⟩ := outputShape_of_not_accepted output ha
    rw [hf]
    exact iff_of_false (by rintro ⟨⟩) fun h => ha h.1

theorem exists_axes_of_known {uses : List Use} {slots : Slots}
    (hk : ∀ u ∈ uses, ∃ s, slots.shapeOf u.array = .ok (some s)) (hr : ∀ u ∈ uses, u.Readable slots)
    (hn : ¬ Unresolved uses output) : ∃ axes, (output.map (OutputIndex.axis? slots uses)).mapM id = some axes := by
  cases hm : (output.map (OutputIndex.axis? slots uses)).mapM id with
  | some axes => exact ⟨axes, rfl⟩
  | none =>
    obtain ⟨s, -, u, hu, hnone⟩ := (undetermined_iff hr hn).2 (optionMapM_id_none.1 hm)
    obtain ⟨shape, hs⟩ := hk u (firstUse?_eq_some hu).1
    rw [hnone] at hs
    cases hs

end Build

/-! ## The same occurrences -/

namespace Usage

/-- The same occurrences of every symbol, in any order. -/
def SameOccurrences (u u' : Usage) : Prop := ∀ s, (u.occurrencesOf s).Perm (u'.occurrencesOf s)

def Indexes (u : Usage) (array : Value) : Prop := ∃ s, ∃ o ∈ u.occurrencesOf s, o.array = array

/-- A refusal for axes that differ, or for an array that is indexed and whose shape cannot be asked for. -/
def Refuses (slots : Slots) (u : Usage) (r : Except Fault ShapeInfo) : Prop :=
  ∃ f, r = .error f ∧ (IsMismatch f ∨ ∃ array, u.Indexes array ∧ slots.shapeOf array = .error f)

theorem mem_occurrencesOf_grouped {uses : List Use} {s : Symbol} {o : Occurrence} :
    o ∈ occurrencesOf (grouped uses []) s ↔ ∃ x ∈ uses, x.symbol.same s = true ∧ x.occurrence = o := by
  rw [occurrencesOf_grouped, occurrencesOf_nil, List.nil_append]
  simp only [List.mem_map, List.mem_filter, and_assoc]

theorem indexes_grouped {uses : List Use} {array : Value} :
    (grouped uses []).Indexes array ↔ ∃ x ∈ uses, x.array = array := by
  constructor
  · rintro ⟨s, o, ho, rfl⟩
    obtain ⟨x, hx, -, rfl⟩ := mem_occurrencesOf_grouped.1 ho
    exact ⟨x, hx, rfl⟩
  · rintro ⟨x, hx, rfl⟩
    exact ⟨x.symbol, x.occurrence, mem_occurrencesOf_grouped.2 ⟨x, hx, x.symbol.same_refl, rfl⟩, rfl⟩

theorem sameOccurrences_grouped {us vs : List Use} (h : us.Perm vs) :
    (grouped us []).SameOccurrences (grouped vs []) := by
  intro s
  rw [occurrencesOf_grouped, occurrencesOf_grouped, occurrencesOf_nil, List.nil_append]
  exact (h.filter _).map _

theorem SameOccurrences.repeated {us vs : List Use} (h : (grouped us []).SameOccurrences (grouped vs [])) :
    ∀ x ∈ us, ∃ y ∈ vs, x.Repeats y := by
  intro x hx
  have hmem := mem_occurrencesOf_grouped.2 ⟨x, hx, x.symbol.same_refl, rfl⟩
  obtain ⟨y, hy, hsame, hocc⟩ := mem_occurrencesOf_grouped.1 ((h x.symbol).mem_iff.1 hmem)
  injection hocc with harray hdim
  injection hdim with hdim
  exact ⟨y, hy, by rw [Symbol.same_comm]; exact hsame, harray.symm, (Int.ofNat.inj hdim).symm⟩

end Usage

theorem Value.collectUsage_ok {v : Value} {u : Usage} (h : v.collectUsage [] = .ok u) :
    v.WellIndexed ∧ u = Usage.grouped v.uses [] := by
  by_cases hv : v.WellIndexed
  · rw [v.collectUsage_eq hv] at h
    exact ⟨hv, (Except.ok.inj h).symm⟩
  · rw [Value.collectUsage_of_not_wellIndexed hv] at h
    cases h

/-! ## Operands in another order -/

theorem wellIndexedAll_iff {vs : List Value} : wellIndexedAll vs ↔ ∀ v ∈ vs, v.WellIndexed := by
  induction vs with
  | nil => simp [wellIndexedAll]
  | cons v vs ih => rw [wellIndexedAll, ih, List.forall_mem_cons]

/-- The second body is the first with the operands of terms other than indexings in another order.  The terms are
built anew, with identities, types and marks of their own. -/
inductive Value.Reordered : Value → Value → Prop where
  | refl (v : Value) : Reordered v v
  | trans {u v w : Value} : Reordered u v → Reordered v w → Reordered u w
  | operands {op : Callable} (hop : op.isGetitem = false) {args args' : List Value} (h : args.Perm args')
    (id id' : NodeId) (am am' : Mark) (t t' : DeclaredType) (tm tm' : Mark) :
    Reordered (.node (.term id op args am t tm)) (.node (.term id' op args' am' t' tm'))
  | operand {op : Callable} (hop : op.isGetitem = false) (before after : List Value) {v w : Value} (h : Reordered v w)
    (id id' : NodeId) (am am' : Mark) (t t' : DeclaredType) (tm tm' : Mark) :
    Reordered (.node (.term id op (before ++ v :: after) am t tm))
      (.node (.term id' op (before ++ w :: after) am' t' tm'))

namespace Value.Reordered

variable {v w : Value}

theorem uses_perm (h : v.Reordered w) : v.uses.Perm w.uses := by
  induction h with
  | refl v => exact .refl _
  | trans _ _ ih ih' => exact ih.trans ih'
  | operands hop h =>
    simp only [Value.uses, Node.uses_application hop, usesOfAll_eq]
    exact h.flatMap_right _
  | operand hop before after _ _ _ _ _ _ _ _ _ ih =>
    simp only [Value.uses, Node.uses_application hop, usesOfAll_eq, List.flatMap_append, List.flatMap_cons]
    exact (ih.append_right _).append_left _

theorem wellIndexed (h : v.Reordered w) (hv : v.WellIndexed) : w.WellIndexed := by
  induction h with
  | refl v => exact hv
  | trans _ _ ih ih' => exact ih' (ih hv)
  | operands hop h =>
    simp only [Value.WellIndexed, Node.WellIndexed, hop, Bool.false_eq_true, if_false, wellIndexedAll_iff] at hv ⊢
    exact fun w hw => hv w (h.mem_iff.2 hw)
  | operand hop before after _ _ _ _ _ _ _ _ _ ih =>
    simp only [Value.WellIndexed, Node.WellIndexed, hop, Bool.false_eq_true, if_false, wellIndexedAll_iff,
      List.forall_mem_append, List.forall_mem_cons] at hv ⊢
    exact ⟨hv.1, ih hv.2.1, hv.2.2⟩

/-- **Operands in another order leave the same occurrences.** -/
theorem collectUsage (h : v.Reordered w) {u : Usage} (hu : v.collectUsage [] = .ok u) :
    ∃ u', w.collectUsage [] = .ok u' ∧ u.SameOccurrences u' := by
  obtain ⟨hv, rfl⟩ := Value.collectUsage_ok hu
  exact ⟨_, w.collectUsage_eq (h.wellIndexed hv) [], Usage.sameOccurrences_grouped h.uses_perm⟩

end Value.Reordered

/-! ## The answer in another order -/

namespace Build

/-- What two answers about one output share, over bodies that have left the occurrences `u` in two orders. -/
structure OrderFree (slots : Slots) (u : Usage) (r r' : Except Fault ShapeInfo) : Prop where
  mismatch : (∀ array, u.Indexes array → ∃ info, slots.shapeOf array = .ok info) →
    (FailsWith r .dimensionMismatch ↔ FailsWith r' .dimensionMismatch)
  refused : (∃ array, u.Indexes array ∧ ∃ f, slots.shapeOf array = .error f) → u.Refuses slots r ∧ u.Refuses slots r'
  unresolved : FailsWith r .unresolvedIndex ↔ FailsWith r' .unresolvedIndex
  axes : ∀ s s', r = .ok (some s) → r' = .ok (some s') →
    List.Forall₂ (fun a b => a.toList = b.toList) s.axes s'.axes
  known : (∀ array, u.Indexes array → ∃ s, slots.shapeOf array = .ok (some s)) →
    (∃ s s', r = .ok (some s) ∧ r' = .ok (some s')) ∨ ∃ f f', r = .error f ∧ r' = .error f'

section

variable {output : List OutputIndex} {body body' : Value} {st : Store}

theorem refuses_of_unreadable {u : Usage} (hu : ∀ x ∈ body.uses, u.Indexes x.array) (hb : body.WellIndexed)
    (hr : ¬ ∀ x ∈ body.uses, x.Readable st.slots) : u.Refuses st.slots (outcome (outputShape output body) st).1 := by
  have hacc : ¬ body.Accepted st.slots := fun ha => hr ha.readable
  obtain ⟨f, hf, ⟨hslip, -⟩ | ⟨x, hx, hs⟩ | hm⟩ := outputShape_of_not_accepted output hacc
  · exact absurd hb hslip
  · exact ⟨f, hf, .inr ⟨x.array, hu x hx, hs⟩⟩
  · exact ⟨f, hf, .inl hm⟩

theorem exists_ok_iff :
    (∃ info, (outcome (outputShape output body) st).1 = .ok info) ↔
      body.Accepted st.slots ∧ ¬ Unresolved body.uses output := by
  simp only [outputShape_ok_iff, exists_and_left, exists_eq, and_true]

theorem orderFree_of_sameUses (h : body.SameUses body') :
    OrderFree st.slots (Usage.grouped body.uses []) (outcome (outputShape output body) st).1
      (outcome (outputShape output body') st).1 where
  mismatch hread := by
    have hr : ∀ x ∈ body.uses, x.Readable st.slots := fun x hx =>
      ⟨hread _ (Usage.indexes_grouped.2 ⟨x, hx, rfl⟩), body.one_le_dimension x hx⟩
    rw [failsWith_mismatch_iff output h.wellIndexed hr, failsWith_mismatch_iff output h.wellIndexed' (h.readable hr)]
    exact h.conflicting_iff
  refused := by
    rintro ⟨array, hi, f, hf⟩
    obtain ⟨x, hx, rfl⟩ := Usage.indexes_grouped.1 hi
    have hr : ¬ ∀ x ∈ body.uses, x.Readable st.slots := fun hr => by
      obtain ⟨info, hinfo⟩ := (hr x hx).shape
      rw [hf] at hinfo
      cases hinfo
    refine ⟨refuses_of_unreadable (fun x hx => Usage.indexes_grouped.2 ⟨x, hx, rfl⟩) h.wellIndexed hr,
      refuses_of_unreadable (fun y hy => ?_) h.wellIndexed' fun hr' => hr (h.symm.readable hr')⟩
    obtain ⟨x, hx, hyx⟩ := h.repeated' y hy
    exact Usage.indexes_grouped.2 ⟨x, hx, hyx.array.symm⟩
  unresolved := by
    rw [failsWith_unresolved_iff, failsWith_unresolved_iff]
    exact and_congr ⟨h.accepted, h.symm.accepted⟩ ⟨h.unresolved, h.symm.unresolved⟩
  axes s s' hs hs' := by
    obtain ⟨ha, -, hs⟩ := (outputShape_ok_iff output).1 hs
    obtain ⟨-, -, hs'⟩ := (outputShape_ok_iff output).1 hs'
    obtain ⟨as, hm, rfl⟩ := Option.map_eq_some_iff.1 hs.symm
    obtain ⟨bs, hm', rfl⟩ := Option.map_eq_some_iff.1 hs'.symm
    exact forall₂_of_map_some (optionMapM_id_some.1 hm) (optionMapM_id_some.1 hm') fun i a b hi hi' =>
      h.toList_eq ha.consistent hi hi'
  known hknown := by
    have hk : ∀ x ∈ body.uses, ∃ s, st.slots.shapeOf x.array = .ok (some s) := fun x hx =>
      hknown _ (Usage.indexes_grouped.2 ⟨x, hx, rfl⟩)
    have hk' : ∀ y ∈ body'.uses, ∃ s, st.slots.shapeOf y.array = .ok (some s) := fun y hy => by
      obtain ⟨x, hx, hyx⟩ := h.repeated' y hy
      rw [hyx.array]
      exact hk x hx
    -- Whether there is an answer at all is told by the uses alone, for both bodies the same.
    by_cases hok : body.Accepted st.slots ∧ ¬ Unresolved body.uses output
    · obtain ⟨ha, hn⟩ := hok
      have ha' := h.accepted ha
      have hn' : ¬ Unresolved body'.uses output := fun hn' => hn (h.symm.unresolved hn')
      obtain ⟨as, has⟩ := exists_axes_of_known output hk ha.readable hn
      obtain ⟨bs, hbs⟩ := exists_axes_of_known output hk' ha'.readable hn'
      refine .inl ⟨.ofAxes as, .ofAxes bs, ?_, ?_⟩
      · rw [outputShape_ok_iff, has]
        exact ⟨ha, hn, rfl⟩
      · rw [outputShape_ok_iff, hbs]
        exact ⟨ha', hn', rfl⟩
    · have hok' : ¬ (body'.Accepted st.slots ∧ ¬ Unresolved body'.uses output) := fun hok' =>
        hok ⟨h.symm.accepted hok'.1, fun hn => hok'.2 (h.unresolved hn)⟩
      rw [← exists_ok_iff] at hok hok'
      cases hr : (outcome (outputShape output body) st).1 with
      | ok info => exact absurd ⟨info, hr⟩ hok
      | error f =>
        cases hr' : (outcome (outputShape output body') st).1 with
        | ok info => exact absurd ⟨info, hr'⟩ hok'
        | error f' => exact .inr ⟨f, f', rfl, rfl⟩

end

/-- **The order of the uses decides only what is known.**  Over two bodies that leave the same occurrences of every
symbol, the same is refused for axes that differ and for symbols without a use, as far as the shapes of the arrays can
be asked for; and two known shapes run along the same indices.  Bodies whose terms have their operands in another order
are such bodies. -/
theorem outputShape_orderFree (output : List OutputIndex) {body body' : Value} {u u' : Usage} (st : Store)
    (hu : body.collectUsage [] = .ok u) (hu' : body'.collectUsage [] = .ok u') (h : u.SameOccurrences u') :
    OrderFree st.slots u (outcome (outputShape output body) st).1 (outcome (outputShape output body') st).1 ∧
      ∀ w, body.Reordered w → ∃ v, w.collectUsage [] = .ok v ∧ u.SameOccurrences v := by
  refine ⟨?_, fun w hw => hw.collectUsage hu⟩
  obtain ⟨hb, rfl⟩ := Value.collectUsage_ok hu
  obtain ⟨hb', rfl⟩ := Value.collectUsage_ok hu'
  have hsymm : (Usage.grouped body'.uses []).SameOccurrences (Usage.grouped body.uses []) := fun s => (h s).symm
  exact orderFree_of_sameUses ⟨hb, hb', h.repeated, hsymm.repeated⟩

/-- `a[i, j] * b[j]` and `b[j] * a[i, j]`, over a matrix of two rows and three columns and a vector of length three. -/
theorem outputShape_orderFree_product :
    let a : Value := .node (.constant 3 (.array ⟨0, [some 2, some 3], none, .filled (.int 0)⟩) 4)
    let b : Value := .node (.constant 5 (.array ⟨0, [some 3], none, .filled (.int 0)⟩) 6)
    let i : Symbol := ⟨7, .ofString "i", .scalar (some .index), 8⟩
    let j : Symbol := ⟨9, .ofString "j", .scalar (some .index), 10⟩
    let element (array : Value) (keys : List Symbol) : Value :=
      .node (.term 11 (.primitive .getitem) (array :: keys.map fun s => .node (.symbol s)) 12 (.scalar none) 13)
    let product (id : NodeId) (v w : Value) : Value := .node (.term id (.primitive .mul) [v, w] 14 (.scalar none) 15)
    let body := product 16 (element a [i, j]) (element b [j])
    let body' := product 17 (element b [j]) (element a [i, j])
    ∃ u u', body.collectUsage [] = .ok u ∧ body'.collectUsage [] = .ok u' ∧ u.SameOccurrences u' ∧
      OrderFree Store.empty.slots u (outcome (outputShape [.symbol j] body) .empty).1
        (outcome (outputShape [.symbol j] body') .empty).1 := by
  intro a b i j element product body body'
  have hu : body.collectUsage [] = .ok (Usage.grouped body.uses []) :=
    body.collectUsage_eq ⟨List.cons_ne_nil _ _, List.cons_ne_nil _ _, trivial⟩ []
  have hswap : body.Reordered body' := .operands rfl (.swap _ _ _) _ _ _ _ _ _ _ _
  obtain ⟨u', hu', hsame⟩ := hswap.collectUsage hu
  exact ⟨_, u', hu, hu', hsame, (outputShape_orderFree [.symbol j] .empty hu hu' hsame).1⟩

/-- Over a vector whose length is refused, `a[i] + b[i]` is a mismatch only if it is checked before: the index `j` of
that vector is used last in one body and first in the other. -/
theorem mismatch_depends_on_order :
    let vector (id : NodeId) (length : Int) : Value :=
      .node (.constant id (.array ⟨0, [some length], some (.native (.float .double)), .deferred true⟩) 1)
    let i : Symbol := ⟨2, .ofString "i", .scalar (some .index), 3⟩
    let j : Symbol := ⟨4, .ofString "j", .scalar (some .index), 5⟩
    let element (array : Value) (s : Symbol) : Value :=
      .node (.term 6 (.primitive .getitem) [array, .node (.symbol s)] 7 (.scalar none) 8)
    let sum (id : NodeId) (v w : Value) : Value := .node (.term id (.primitive .add) [v, w] 9 (.scalar none) 10)
    let ab := sum 11 (element (vector 12 3) i) (element (vector 13 4) i)
    let w := element (vector 14 (-1)) j
    let body := sum 15 ab w
    let body' := sum 16 w ab
    ∃ u u', body.collectUsage [] = .ok u ∧ body'.collectUsage [] = .ok u' ∧ u.SameOccurrences u' ∧
      FailsWith (outcome (outputShape [.symbol i] body) .empty).1 .dimensionMismatch ∧
      ¬ FailsWith (outcome (outputShape [.symbol i] body') .empty).1 .dimensionMismatch := by
  intro vector i j element sum ab w body body'
  have hu : body.collectUsage [] = .ok (Usage.grouped body.uses []) :=
    body.collectUsage_eq ⟨⟨List.cons_ne_nil _ _, List.cons_ne_nil _ _, trivial⟩, List.cons_ne_nil _ _, trivial⟩ []
  have hswap : body.Reordered body' := .operands rfl (.swap _ _ _) _ _ _ _ _ _ _ _
  obtain ⟨u', hu', hsame⟩ := hswap.collectUsage hu
  have hrefused : (outcome (outputShape [.symbol i] body') .empty).1 = .error (.refusal (.negativeLength (-1))) := rfl
  refine ⟨_, u', hu, hu', hsame, ⟨_, rfl, rfl⟩, ?_⟩
  rw [hrefused]
  rintro ⟨c, hc, -⟩
  cases hc

end Build

end ArrayTyping

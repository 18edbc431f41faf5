import ArrayTyping.Proofs.UsageOrder
/-!
# Grouping — a usage as the grouping of a sequence of uses

A usage that a walk adds uses to is, in the end, given by their sequence alone: symbols that were there keep their places,
the others follow in the order in which they are first used, and to what there was of a symbol its uses are appended in
their order.  So the usage of an application is the usages of its operands merged one after the other.
-/
namespace ArrayTyping

/-! ## Symbols in the order of their first mention -/

namespace Symbol

def isAmong (s : Symbol) (known : List Symbol) : Bool := known.any (·.same s)

/-- The symbols that are not known, each once and in the order in which they are first mentioned. -/
def newAmong (known ss : List Symbol) : List Symbol := (ss.filter fun s => !s.isAmong known).eraseDupsBy same

variable {known : List Symbol} {s : Symbol} {ss : List Symbol}

theorem isAmong_append (ks ls : List Symbol) : s.isAmong (ks ++ ls) = (s.isAmong ks || s.isAmong ls) :=
  List.any_append

theorem isAmong_singleton (t : Symbol) : s.isAmong [t] = t.same s := by simp [isAmong]

theorem isAmong_of_mem (h : s ∈ known) : s.isAmong known = true := List.any_eq_true.2 ⟨s, h, s.same_refl⟩

theorem isAmong_congr {t : Symbol} (h : s.same t = true) : s.isAmong known = t.isAmong known := by
  unfold isAmong
  congr 1
  funext r
  rw [same_comm, same_congr h, same_comm]

theorem newAmong_nil : newAmong known [] = [] := rfl

theorem newAmong_cons_of_known (h : s.isAmong known = true) : newAmong known (s :: ss) = newAmong known ss := by
  simp [newAmong, h]

theorem newAmong_cons_of_new (h : s.isAmong known = false) :
    newAmong known (s :: ss) = s :: newAmong (known ++ [s]) ss := by
  have hfilter : ∀ t : Symbol, (!t.same s && !t.isAmong known) = !t.isAmong (known ++ [s]) := by
    intro t
    rw [isAmong_append, isAmong_singleton, same_comm s t]
    cases t.same s <;> cases t.isAmong known <;> rfl
  simp [newAmong, h, List.eraseDupsBy_cons, List.filter_filter, hfilter]

theorem newAmong_append (ts : List Symbol) :
    newAmong known (ss ++ ts) = newAmong known ss ++ newAmong (known ++ newAmong known ss) ts := by
  induction ss generalizing known with
  | nil => rw [List.nil_append, newAmong_nil, List.nil_append, List.append_nil]
  | cons s ss ih =>
    by_cases h : s.isAmong known = true
    · rw [List.cons_append, newAmong_cons_of_known h, newAmong_cons_of_known h, ih]
    · have hnew := Bool.eq_false_iff.2 h
      rw [List.cons_append, newAmong_cons_of_new hnew, newAmong_cons_of_new hnew, ih, List.append_assoc]
      rfl

theorem isAmong_newAmong (h : s ∈ ss) : s.isAmong (known ++ newAmong known ss) = true := by
  induction ss generalizing known with
  | nil => cases h
  | cons t ss ih =>
    by_cases ht : t.isAmong known = true
    · rw [newAmong_cons_of_known ht]
      rcases List.mem_cons.1 h with rfl | h
      · rw [isAmong_append, ht, Bool.true_or]
      · exact ih h
    · have hsplit : known ++ newAmong known (t :: ss) = known ++ [t] ++ newAmong (known ++ [t]) ss := by
        rw [newAmong_cons_of_new (Bool.eq_false_iff.2 ht), List.append_assoc]
        rfl
      rw [hsplit]
      rcases List.mem_cons.1 h with rfl | h
      · rw [isAmong_append, isAmong_of_mem (List.mem_append_right _ List.mem_cons_self), Bool.true_or]
      · exact ih h

theorem mem_of_mem_newAmong (h : s ∈ newAmong known ss) : s ∈ ss := by
  induction ss generalizing known with
  | nil => exact h
  | cons t ss ih =>
    by_cases ht : t.isAmong known = true
    · rw [newAmong_cons_of_known ht] at h
      exact List.mem_cons_of_mem _ (ih h)
    · rw [newAmong_cons_of_new (Bool.eq_false_iff.2 ht)] at h
      rcases List.mem_cons.1 h with rfl | h
      · exact List.mem_cons_self
      · exact List.mem_cons_of_mem _ (ih h)

theorem not_isAmong_of_mem_newAmong (h : s ∈ newAmong known ss) : s.isAmong known = false := by
  induction ss generalizing known with
  | nil => cases h
  | cons t ss ih =>
    by_cases ht : t.isAmong known = true
    · rw [newAmong_cons_of_known ht] at h
      exact ih h
    · rw [newAmong_cons_of_new (Bool.eq_false_iff.2 ht)] at h
      rcases List.mem_cons.1 h with rfl | h
      · exact Bool.eq_false_iff.2 ht
      · have hboth := ih h
        rw [isAmong_append, Bool.or_eq_false_iff] at hboth
        exact hboth.1

/-- What is new beside others is new, and not among those. -/
theorem newAmong_eq_filter {ks both : List Symbol}
    (h : ∀ s : Symbol, s.isAmong both = (s.isAmong known || s.isAmong ks)) :
    newAmong both ss = (newAmong known ss).filter fun s => !s.isAmong ks := by
  induction ss generalizing known both with
  | nil => rfl
  | cons t ss ih =>
    have ht := h t
    by_cases hknown : t.isAmong known = true
    · rw [hknown, Bool.true_or] at ht
      rw [newAmong_cons_of_known hknown, newAmong_cons_of_known ht, ih h]
    · have hnew := Bool.eq_false_iff.2 hknown
      rw [hnew, Bool.false_or] at ht
      rw [newAmong_cons_of_new hnew, List.filter_cons]
      by_cases hks : t.isAmong ks = true
      · -- `t` is dropped on both sides; that it is known from then on adds nothing to `ks`.
        have hadd : ∀ s : Symbol, s.isAmong both = (s.isAmong (known ++ [t]) || s.isAmong ks) := by
          intro s
          have hts : t.same s = true → s.isAmong ks = true := fun hts => by rw [← isAmong_congr hts, hks]
          rw [h, isAmong_append, isAmong_singleton]
          cases hcase : t.same s <;> simp [hcase, hts]
        rw [newAmong_cons_of_known (ht.trans hks), ih hadd, hks]
        rfl
      · have hadd : ∀ s : Symbol, s.isAmong (both ++ [t]) = (s.isAmong (known ++ [t]) || s.isAmong ks) := by
          intro s
          rw [isAmong_append, isAmong_append, h]
          cases s.isAmong known <;> cases s.isAmong ks <;> cases s.isAmong [t] <;> rfl
        rw [newAmong_cons_of_new (ht.trans (Bool.eq_false_iff.2 hks)), ih hadd, Bool.eq_false_iff.2 hks]
        rfl

end Symbol

namespace Usage

def symbols (u : Usage) : List Symbol := u.map (·.1)

def occurrencesIn (uses : List Use) (s : Symbol) : List Occurrence :=
  (uses.filter fun x => x.symbol.same s).map Use.occurrence

/-- The usage extended by a sequence of uses: the symbols in it keep their places and get their new occurrences appended,
and the other symbols follow in the order of their first uses. -/
def extended (u : Usage) (uses : List Use) : Usage :=
  u.map (fun e => (e.1, e.2 ++ occurrencesIn uses e.1)) ++
    (Symbol.newAmong u.symbols (uses.map Use.symbol)).map fun s => (s, occurrencesIn uses s)

theorem symbols_cons (s : Symbol) (os : List Occurrence) (u : Usage) : symbols ((s, os) :: u) = s :: symbols u := rfl

theorem isAmong_symbols_cons (s t : Symbol) (os : List Occurrence) (u : Usage) :
    s.isAmong (symbols ((t, os) :: u)) = (t.same s || s.isAmong (symbols u)) := rfl

theorem symbols_add (s : Symbol) (o : Occurrence) (u : Usage) :
    symbols (u.add s o) = if s.isAmong u.symbols then u.symbols else u.symbols ++ [s] := by
  induction u with
  | nil => rfl
  | cons e u ih =>
    obtain ⟨t, os⟩ := e
    rw [add, isAmong_symbols_cons]
    by_cases hts : t.same s = true
    · simp [hts, symbols_cons]
    · simp only [hts, if_false, Bool.false_eq_true, symbols_cons, ih, Bool.false_or]
      split <;> rfl

theorem symbols_grouped (uses : List Use) (u : Usage) :
    symbols (grouped uses u) = u.symbols ++ Symbol.newAmong u.symbols (uses.map Use.symbol) := by
  induction uses generalizing u with
  | nil => exact (List.append_nil _).symm
  | cons x uses ih =>
    have hstep : grouped (x :: uses) u = grouped uses (u.add x.symbol x.occurrence) := rfl
    rw [hstep, ih, symbols_add, List.map_cons]
    by_cases hx : x.symbol.isAmong u.symbols = true
    · rw [if_pos hx, Symbol.newAmong_cons_of_known hx]
    · rw [if_neg hx, Symbol.newAmong_cons_of_new (Bool.eq_false_iff.2 hx), List.append_assoc]
      rfl

theorem Distinct.eq_map {u : Usage} (h : u.Distinct) : u = u.symbols.map fun s => (s, u.occurrencesOf s) := by
  have hentry : ∀ e ∈ u, (e.1, u.occurrencesOf e.1) = e := fun e he => by rw [h.occurrencesOf_of_mem he]
  rw [symbols, List.map_map]
  exact (List.map_id' u).symm.trans (List.map_congr_left fun e he => (hentry e he).symm)

theorem occurrencesOf_of_not_isAmong {u : Usage} {s : Symbol} (h : s.isAmong u.symbols = false) :
    u.occurrencesOf s = [] := by
  induction u with
  | nil => rfl
  | cons e u ih =>
    obtain ⟨t, os⟩ := e
    rw [isAmong_symbols_cons, Bool.or_eq_false_iff] at h
    rw [occurrencesOf_cons, h.1, if_neg Bool.false_ne_true, ih h.2]

/-- **Adding use after use is extending by their sequence.** -/
theorem grouped_eq_extended {u : Usage} (h : u.Distinct) (uses : List Use) : grouped uses u = u.extended uses := by
  have hof : ∀ s, occurrencesOf (grouped uses u) s = u.occurrencesOf s ++ occurrencesIn uses s :=
    occurrencesOf_grouped uses u
  rw [(distinct_grouped uses h).eq_map, symbols_grouped, List.map_append, extended]
  congr 1
  · rw [symbols, List.map_map]
    refine List.map_congr_left fun e he => ?_
    simp only [Function.comp, hof, h.occurrencesOf_of_mem he]
  · refine List.map_congr_left fun s hs => ?_
    rw [hof, occurrencesOf_of_not_isAmong (Symbol.not_isAmong_of_mem_newAmong hs), List.nil_append]

/-- Two usages put together: what the second has of a symbol follows what the first has, and the symbols that only the
second has come last. -/
def merge (u w : Usage) : Usage :=
  u.map (fun e => (e.1, e.2 ++ w.occurrencesOf e.1)) ++ w.filter fun e => !e.1.isAmong u.symbols

/-- **Uses may be grouped by themselves first.** -/
theorem grouped_eq_merge {u : Usage} (h : u.Distinct) (uses : List Use) :
    grouped uses u = u.merge (grouped uses []) := by
  have hnil : Distinct [] := List.Pairwise.nil
  have hof : ∀ s, occurrencesOf (grouped uses []) s = occurrencesIn uses s := occurrencesOf_grouped uses []
  have hnew : Symbol.newAmong u.symbols (uses.map Use.symbol) =
      (Symbol.newAmong [] (uses.map Use.symbol)).filter fun s => !s.isAmong u.symbols :=
    Symbol.newAmong_eq_filter fun s => (Bool.false_or _).symm
  rw [grouped_eq_extended h, extended, merge, hnew]
  congr 1
  · simp only [hof]
  · rw [grouped_eq_extended hnil, extended, List.map_nil, List.nil_append, List.filter_map]
    rfl

theorem grouped_append (us vs : List Use) (u : Usage) : grouped (us ++ vs) u = grouped vs (grouped us u) :=
  List.foldl_append

theorem grouped_flatMap {u : Usage} (h : u.Distinct) (vs : List Value) :
    grouped (vs.flatMap Value.uses) u = (vs.map fun v => grouped v.uses []).foldl merge u := by
  induction vs generalizing u with
  | nil => rfl
  | cons v vs ih =>
    rw [List.flatMap_cons, grouped_append, ih (distinct_grouped v.uses h), grouped_eq_merge h, List.map_cons,
      List.foldl_cons]

end Usage

/-! ## Applications -/

theorem Node.wellIndexed_iff_children {n : Node} {op : Callable} {children : List Value} (hop : n.head? = some op)
    (hget : op.isGetitem = false) (hc : n.children? = some children) :
    n.WellIndexed ↔ ∀ v ∈ children, v.WellIndexed := by
  cases n with
  | symbol s => cases hc
  | constant id d tm => cases hc
  | term id f args am t tm =>
    cases hop
    cases hc
    rw [Node.WellIndexed, hget, if_neg Bool.false_ne_true, wellIndexedAll_iff]
  | arrayOp id output om body reduce source k e tm =>
    cases hc
    cases source with
    | none => simp [Node.WellIndexed, wellIndexedSource, Value.WellIndexed]
    | some m => simp [Node.WellIndexed, wellIndexedSource, Value.WellIndexed]

theorem Value.mapM_collectUsage {vs : List Value} (h : ∀ v ∈ vs, v.WellIndexed) :
    vs.mapM (fun v => v.collectUsage []) = .ok (vs.map fun v => Usage.grouped v.uses []) := by
  induction vs with
  | nil => rfl
  | cons v vs ih =>
    obtain ⟨hv, hvs⟩ := List.forall_mem_cons.1 h
    rw [List.mapM_cons, v.collectUsage_eq hv, ih hvs]
    rfl

theorem Value.mapM_collectUsage_of_not_wellIndexed {vs : List Value} (h : ¬ ∀ v ∈ vs, v.WellIndexed) :
    vs.mapM (fun v => v.collectUsage []) = .error (.slip .value) := by
  induction vs with
  | nil => exact absurd (List.forall_mem_nil _) h
  | cons v vs ih =>
    rw [List.mapM_cons]
    by_cases hv : v.WellIndexed
    · rw [v.collectUsage_eq hv, ih fun hvs => h (List.forall_mem_cons.2 ⟨hv, hvs⟩)]
      rfl
    · rw [Value.collectUsage_of_not_wellIndexed hv]
      rfl

/-- **The usage of an application is the usages of its operands, merged one after the other.** -/
theorem Node.collectUsage_eq_merge {n : Node} {op : Callable} {children : List Value} (hop : n.head? = some op)
    (hget : op.isGetitem = false) (hc : n.children? = some children) {u : Usage} (hu : u.Distinct) :
    (Value.node n).collectUsage u =
      (children.mapM fun v : Value => v.collectUsage []).map fun usages => usages.foldl Usage.merge u := by
  have hiff := n.wellIndexed_iff_children hop hget hc
  by_cases h : (Value.node n).WellIndexed
  · rw [Value.collectUsage_eq h, Value.mapM_collectUsage (hiff.1 h)]
    exact congrArg Except.ok ((congrArg (Usage.grouped · u) (n.uses_of_children hop hget hc)).trans
      (Usage.grouped_flatMap hu children))
  · rw [Value.collectUsage_of_not_wellIndexed h, Value.mapM_collectUsage_of_not_wellIndexed (mt hiff.2 h)]
    rfl

end ArrayTyping

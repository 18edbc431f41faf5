import ArrayTyping.Proofs.Making
import ArrayTyping.Proofs.Occurrences
/-!
# Resolution — the shape that an output gets

What becomes of an output over a body is decided by the uses in the body.  It is refused if two uses of one symbol run
along axes that differ, or else if an output symbol has no use at all.  Otherwise every output symbol takes the axis of
its first use, and the shape is unknown as soon as one of these is.
-/
namespace ArrayTyping

open Build (outcome)

namespace Shape

theorem axisAt_ofInt (s : Shape) {d : Nat} (h : 1 ≤ d) : s.axisAt (.ofInt d) = .ok (s.axis d) := by
  have hbelow : (Value.ofInt d).below? 1 = some false := by
    have hd : ¬ (d : Int) < 1 := by omega
    simp [Value.ofInt, Value.below?, Value.compared?, Value.number?, Number.lt?, hd]
  have hmost : (Value.ofInt d).atMost? s.rank = some (decide (d ≤ s.rank)) := by
    rw [show (Value.ofInt d).atMost? s.rank = some (decide ((d : Int) < s.rank) || ((d : Int) == s.rank)) from rfl,
      Option.some.injEq, Bool.eq_iff_iff, Bool.or_eq_true, decide_eq_true_iff, decide_eq_true_iff, beq_iff_eq]
    omega
  unfold axisAt
  rw [hbelow, hmost]
  by_cases hd : d ≤ s.rank
  · rw [decide_eq_true hd]
    rfl
  · rw [decide_eq_false hd]
    have hnone : s.axes.length ≤ d - 1 := by
      rw [rank] at hd
      omega
    rw [axis, List.getD_eq_getElem?_getD, List.getElem?_eq_none hnone]
    rfl

end Shape

/-! ## Dimensions count from one -/

theorem mem_keyUses {u : Use} {array : Value} {d : Nat} {keys : List Value} (h : u ∈ keyUses array d keys) :
    u.array = array ∧ d ≤ u.dimension := by
  obtain ⟨⟨key, i⟩, hk, hu⟩ := List.mem_filterMap.1 h
  obtain ⟨s, -, rfl⟩ := Option.map_eq_some_iff.1 hu
  exact ⟨rfl, List.le_snd_of_mem_zipIdx hk⟩

mutual

theorem Node.one_le_dimension : ∀ (n : Node) (u : Use), u ∈ n.uses → 1 ≤ u.dimension
  | .symbol _, _, h => nomatch h
  | .constant _ _ _, _, h => nomatch h
  | .term id op args am t tm, u, h => by
    by_cases hop : op.isGetitem = true
    · cases args with
      | nil =>
        rw [Node.uses.eq_def] at h
        dsimp only at h
        rw [if_pos hop] at h
        cases h
      | cons array keys =>
        rw [Node.uses_indexing hop] at h
        exact (mem_keyUses h).2
    · rw [Node.uses_application (Bool.eq_false_iff.2 hop)] at h
      exact one_le_dimension_of_mem_all args u h
  | .arrayOp id output om body reduce source k e tm, u, h => by
    rw [Node.uses] at h
    rcases List.mem_append.1 h with h | h
    · exact Value.one_le_dimension body u h
    · exact one_le_dimension_of_mem_source source u h
termination_by structural n => n

/-- Every use is along a dimension that exists. -/
theorem Value.one_le_dimension : ∀ (v : Value) (u : Use), u ∈ v.uses → 1 ≤ u.dimension
  | .node n, u, h => Node.one_le_dimension n u h
  | .none, _, h | .bool _, _, h | .int .., _, h | .float .., _, h | .complex .., _, h | .scalar .., _, h
  | .text .., _, h | .list .., _, h | .tuple .., _, h | .dict .., _, h | .range _, _, h | .slice .., _, h
  | .unknown, _, h | .shape _, _, h | .dtype _, _, h | .kind _, _, h | .code _, _, h | .type .., _, h
  | .array _, _, h | .object _, _, h | .callable _, _, h | .occurrence .., _, h | .view .., _, h | .space .., _, h
  | .registry _, _, h | .diagnostic .., _, h | .iterator .., _, h => nomatch h
termination_by structural v => v

theorem one_le_dimension_of_mem_all : ∀ (vs : List Value) (u : Use), u ∈ usesOfAll vs → 1 ≤ u.dimension
  | [], _, h => nomatch h
  | v :: vs, u, h => by
    rw [usesOfAll] at h
    rcases List.mem_append.1 h with h | h
    · exact Value.one_le_dimension v u h
    · exact one_le_dimension_of_mem_all vs u h
termination_by structural vs => vs

theorem one_le_dimension_of_mem_source : ∀ (n : Option Node) (u : Use), u ∈ usesOfSource n → 1 ≤ u.dimension
  | none, _, h => nomatch h
  | some n, u, h => Node.one_le_dimension n u h
termination_by structural n => n

end

/-! ## Uses that can be read -/

namespace Use

/-- The shape of the array can be asked for, and the dimension counts from one. -/
structure Readable (slots : Slots) (u : Use) : Prop where
  shape : ∃ info, slots.shapeOf u.array = .ok info
  dimension : 1 ≤ u.dimension

variable {slots : Slots} {u : Use}

theorem axis?_of_known {s : Shape} (h : slots.shapeOf u.array = .ok (some s)) :
    u.axis? slots = some (s.axis u.dimension) := by
  unfold axis?
  rw [h]

theorem axis?_of_unknown (h : slots.shapeOf u.array = .ok none) : u.axis? slots = none := by
  unfold axis?
  rw [h]

theorem Readable.axis_occurrence (h : u.Readable slots) : u.occurrence.axis slots = .ok (u.axis? slots) := by
  obtain ⟨info, hs⟩ := h.shape
  unfold Occurrence.axis
  rw [show u.occurrence.array = u.array from rfl, hs]
  cases info with
  | none =>
    rw [axis?_of_unknown hs]
    rfl
  | some s =>
    rw [axis?_of_known hs, show u.occurrence.dimension = .ofInt u.dimension from rfl]
    show (do return some (← s.axisAt (.ofInt u.dimension)) : Except Fault (Option Axis)) = _
    rw [s.axisAt_ofInt h.dimension]
    rfl

theorem Readable.axis?_eq_none (h : u.Readable slots) : u.axis? slots = none ↔ slots.shapeOf u.array = .ok none := by
  refine ⟨fun hn => ?_, axis?_of_unknown⟩
  obtain ⟨info, hs⟩ := h.shape
  cases info with
  | none => exact hs
  | some s =>
    rw [axis?_of_known hs] at hn
    cases hn

end Use

def Agreeing (slots : Slots) (us : List Use) : Prop :=
  ∀ u ∈ us, ∀ v ∈ us, ∀ a b, u.axis? slots = some a → v.axis? slots = some b → a.toList = b.toList

theorem agreeing_cons_of_unknown {slots : Slots} {u : Use} {us : List Use} (h : u.axis? slots = none) :
    Agreeing slots (u :: us) ↔ Agreeing slots us := by
  refine ⟨fun ha v hv w hw => ha v (List.mem_cons_of_mem _ hv) w (List.mem_cons_of_mem _ hw), ?_⟩
  intro ha v hv w hw a b hva hwb
  rcases List.mem_cons.1 hv with rfl | hv
  · rw [h] at hva
    cases hva
  rcases List.mem_cons.1 hw with rfl | hw
  · rw [h] at hwb
    cases hwb
  exact ha v hv w hw a b hva hwb

/-- One known axis is enough to compare the others with. -/
theorem agreeing_cons_of_known {slots : Slots} {u : Use} {us : List Use} {e : Axis} (h : u.axis? slots = some e) :
    Agreeing slots (u :: us) ↔ ∀ v ∈ us, ∀ a, v.axis? slots = some a → a.toList = e.toList := by
  constructor
  · intro ha v hv a hva
    exact ha v (List.mem_cons_of_mem _ hv) u List.mem_cons_self a e hva h
  · intro ha v hv w hw a b hva hwb
    have hsame : ∀ x ∈ u :: us, ∀ c, x.axis? slots = some c → c.toList = e.toList := by
      intro x hx c hxc
      rcases List.mem_cons.1 hx with rfl | hx
      · rw [h] at hxc
        rw [Option.some.inj hxc]
      · exact ha x hx c hxc
    rw [hsame v hv a hva, hsame w hw b hwb]

namespace Usage

variable {slots : Slots}

def IsMismatch (f : Fault) : Prop := ∃ c : Conflict, f = .conflict c ∧ c.diagnostic.kind = .dimensionMismatch

def knownUse? (slots : Slots) (u : Use) : Option (Occurrence × Shape) :=
  match slots.shapeOf u.array with
  | .ok (some s) => some (u.occurrence, s)
  | _ => none

theorem knownUse?_of_known {u : Use} {s : Shape} (h : slots.shapeOf u.array = .ok (some s)) :
    knownUse? slots u = some (u.occurrence, s) := by
  unfold knownUse?
  rw [h]

theorem knownUse?_of_unknown {u : Use} (h : slots.shapeOf u.array = .ok none) : knownUse? slots u = none := by
  unfold knownUse?
  rw [h]

theorem known_eq {us : List Use} (h : ∀ u ∈ us, u.Readable slots) :
    known slots (us.map Use.occurrence) = .ok (us.filterMap (knownUse? slots)) := by
  induction us with
  | nil => rfl
  | cons u us ih =>
    obtain ⟨info, hs⟩ := (h u List.mem_cons_self).shape
    have ih := ih fun v hv => h v (List.mem_cons_of_mem _ hv)
    rw [List.map_cons, known, show u.occurrence.array = u.array from rfl, hs, ih, List.filterMap_cons]
    cases info with
    | none =>
      rw [knownUse?_of_unknown hs]
      rfl
    | some s =>
      rw [knownUse?_of_known hs]
      rfl

theorem checkAgainst_cons (name : Label) (expected : Axis) {u : Use} (hd : 1 ≤ u.dimension) (s : Shape)
    (rest : List (Occurrence × Shape)) :
    checkAgainst (.ok name) expected ((u.occurrence, s) :: rest) =
      if (s.axis u.dimension).agrees expected then checkAgainst (.ok name) expected rest
      else .error (.conflict (.index name u.array (.int u.dimension) expected (s.axis u.dimension))) := by
  rw [checkAgainst, show u.occurrence.dimension = .ofInt u.dimension from rfl, s.axisAt_ofInt hd]
  rfl

theorem checkAgainst_spec (name : Label) (expected : Axis) {us : List Use} (h : ∀ u ∈ us, u.Readable slots) :
    (checkAgainst (.ok name) expected (us.filterMap (knownUse? slots)) = .ok () ∧
      ∀ u ∈ us, ∀ a, u.axis? slots = some a → a.toList = expected.toList) ∨
    ((∃ f, checkAgainst (.ok name) expected (us.filterMap (knownUse? slots)) = .error f ∧ IsMismatch f) ∧
      ∃ u ∈ us, ∃ a, u.axis? slots = some a ∧ a.toList ≠ expected.toList) := by
  induction us with
  | nil => exact .inl ⟨rfl, fun u hu => nomatch hu⟩
  | cons u us ih =>
    have ih := ih fun v hv => h v (List.mem_cons_of_mem _ hv)
    obtain ⟨⟨info, hs⟩, hd⟩ := h u List.mem_cons_self
    rw [List.filterMap_cons]
    cases info with
    | none =>
      have haxis := Use.axis?_of_unknown hs
      rw [knownUse?_of_unknown hs]
      rcases ih with ⟨hok, hall⟩ | ⟨herr, v, hv, hne⟩
      · refine .inl ⟨hok, fun v hv a ha => ?_⟩
        rcases List.mem_cons.1 hv with rfl | hv
        · rw [haxis] at ha
          cases ha
        · exact hall v hv a ha
      · exact .inr ⟨herr, v, List.mem_cons_of_mem _ hv, hne⟩
    | some s =>
      have haxis := Use.axis?_of_known hs
      rw [knownUse?_of_known hs]
      dsimp only
      rw [checkAgainst_cons name expected hd]
      by_cases hagree : (s.axis u.dimension).agrees expected = true
      · rw [if_pos hagree]
        rcases ih with ⟨hok, hall⟩ | ⟨herr, v, hv, hne⟩
        · refine .inl ⟨hok, fun v hv a ha => ?_⟩
          rcases List.mem_cons.1 hv with rfl | hv
          · rw [haxis] at ha
            cases ha
            exact Axis.agrees_iff.1 hagree
          · exact hall v hv a ha
        · exact .inr ⟨herr, v, List.mem_cons_of_mem _ hv, hne⟩
      · rw [if_neg hagree]
        refine .inr ⟨⟨_, rfl, _, rfl, rfl⟩, u, List.mem_cons_self, _, haxis, ?_⟩
        exact fun h => hagree (Axis.agrees_iff.2 h)

theorem reference_cons_of_unknown (name : Label) {u : Use} {us : List Use} (h : ∀ v ∈ u :: us, v.Readable slots)
    (hs : slots.shapeOf u.array = .ok none) :
    reference slots (.ok name) ((u :: us).map Use.occurrence) = reference slots (.ok name) (us.map Use.occurrence) := by
  unfold reference
  rw [known_eq h, known_eq fun v hv => h v (List.mem_cons_of_mem _ hv), List.filterMap_cons, knownUse?_of_unknown hs]

theorem reference_cons_of_known (name : Label) {u : Use} {us : List Use} {s : Shape}
    (h : ∀ v ∈ u :: us, v.Readable slots) (hs : slots.shapeOf u.array = .ok (some s)) :
    reference slots (.ok name) ((u :: us).map Use.occurrence) = (do
      checkAgainst (.ok name) (s.axis u.dimension) (us.filterMap (knownUse? slots))
      return some (s.axis u.dimension)) := by
  have hd := (h u List.mem_cons_self).dimension
  unfold reference
  rw [known_eq h, List.filterMap_cons, knownUse?_of_known hs]
  show (do
    let expected ← s.axisAt (.ofInt u.dimension)
    checkAgainst (.ok name) expected (us.filterMap (knownUse? slots))
    return some expected) = _
  rw [s.axisAt_ofInt hd]
  rfl

/-- **The uses of one symbol agree on their axis, or a mismatch is reported.** -/
theorem reference_spec (name : Label) {us : List Use} (h : ∀ u ∈ us, u.Readable slots) :
    ((∃ a, reference slots (.ok name) (us.map Use.occurrence) = .ok a) ∧ Agreeing slots us) ∨
    ((∃ f, reference slots (.ok name) (us.map Use.occurrence) = .error f ∧ IsMismatch f) ∧ ¬ Agreeing slots us) := by
  induction us with
  | nil => exact .inl ⟨⟨_, rfl⟩, fun u hu => nomatch hu⟩
  | cons u us ih =>
    have hus : ∀ v ∈ us, v.Readable slots := fun v hv => h v (List.mem_cons_of_mem _ hv)
    obtain ⟨info, hs⟩ := (h u List.mem_cons_self).shape
    cases info with
    | none =>
      rw [reference_cons_of_unknown name h hs, agreeing_cons_of_unknown (Use.axis?_of_unknown hs)]
      exact ih hus
    | some s =>
      rw [reference_cons_of_known name h hs, agreeing_cons_of_known (Use.axis?_of_known hs)]
      rcases checkAgainst_spec name (s.axis u.dimension) hus with ⟨hok, hall⟩ | ⟨⟨f, hf, hm⟩, v, hv, a, ha, hne⟩
      · rw [hok]
        exact .inl ⟨⟨_, rfl⟩, hall⟩
      · rw [hf]
        exact .inr ⟨⟨f, rfl, hm⟩, fun hall => hne (hall v hv a ha)⟩

theorem outcome_checkSymbol_of_ok {name : Label} {os : List Occurrence} {a : Option Axis} {st : Store}
    (h : reference st.slots (.ok name) os = .ok a) :
    ∃ st', outcome (checkSymbol (.ok name) os) st = (.ok a, st') ∧ st'.slots = st.slots := by
  unfold checkSymbol
  rw [Build.outcome_bind_of_ok (Build.outcome_slots st), Build.outcome_bind, Build.outcome_lift, h]
  cases a with
  | none => exact ⟨_, rfl, rfl⟩
  | some a => exact ⟨_, rfl, rfl⟩

theorem outcome_checkSymbol_of_error {name : Label} {os : List Occurrence} {f : Fault} {st : Store}
    (h : reference st.slots (.ok name) os = .error f) : outcome (checkSymbol (.ok name) os) st = (.error f, st) := by
  unfold checkSymbol
  rw [Build.outcome_bind_of_ok (Build.outcome_slots st), Build.outcome_bind, Build.outcome_lift, h]

def usesOf (uses : List Use) (s : Symbol) : List Use := uses.filter fun u => u.symbol.same s

def entriesOf (uses : List Use) (ss : List Symbol) : Usage := ss.map fun s => (s, (usesOf uses s).map Use.occurrence)

/-- **All uses of every symbol agree, or a mismatch is reported.** -/
theorem outcome_checkConsistency {uses : List Use} (h : ∀ u ∈ uses, u.Readable slots) :
    ∀ (ss : List Symbol) (st : Store), st.slots = slots →
      ((∃ refs st', outcome (entriesOf uses ss).checkConsistency st = (.ok refs, st') ∧ st'.slots = slots) ∧
        ∀ s ∈ ss, Agreeing slots (usesOf uses s)) ∨
      ((∃ f st', outcome (entriesOf uses ss).checkConsistency st = (.error f, st') ∧ IsMismatch f) ∧
        ∃ s ∈ ss, ¬ Agreeing slots (usesOf uses s))
  | [], st, hst => .inl ⟨⟨_, _, rfl, hst⟩, fun s hs => nomatch hs⟩
  | s :: ss, st, hst => by
    have hs : ∀ u ∈ usesOf uses s, u.Readable slots := fun u hu => h u (List.mem_filter.1 hu).1
    rw [entriesOf, List.map_cons, ← entriesOf, checkConsistency]
    rcases reference_spec s.name hs with ⟨⟨a, ha⟩, hagree⟩ | ⟨⟨f, hf, hm⟩, hne⟩
    · obtain ⟨st₁, h₁, hst₁⟩ := outcome_checkSymbol_of_ok (hst ▸ ha)
      rw [Build.outcome_bind_of_ok h₁]
      rcases outcome_checkConsistency h ss st₁ (hst₁.trans hst) with
        ⟨⟨refs, st₂, h₂, hst₂⟩, hall⟩ | ⟨⟨f, st₂, h₂, hm⟩, t, ht, hne⟩
      · refine .inl ⟨?_, fun t ht => ?_⟩
        · cases a with
          | none => exact ⟨_, _, h₂, hst₂⟩
          | some a =>
            dsimp only
            rw [Build.outcome_bind_of_ok h₂]
            exact ⟨_, _, rfl, hst₂⟩
        · rcases List.mem_cons.1 ht with rfl | ht
          · exact hagree
          · exact hall t ht
      · refine .inr ⟨?_, t, List.mem_cons_of_mem _ ht, hne⟩
        cases a with
        | none => exact ⟨_, _, h₂, hm⟩
        | some a =>
          dsimp only
          rw [Build.outcome_bind_of_error h₂]
          exact ⟨_, _, rfl, hm⟩
    · rw [Build.outcome_bind_of_error (outcome_checkSymbol_of_error (hst ▸ hf))]
      exact .inr ⟨⟨_, _, rfl, hm⟩, s, List.mem_cons_self, hne⟩

/-- The collected usage has one entry for each of some symbols, among them every symbol that is used. -/
theorem grouped_eq_entriesOf (uses : List Use) :
    ∃ ss, grouped uses [] = entriesOf uses ss ∧ ∀ u ∈ uses, ∃ s ∈ ss, u.symbol.same s = true := by
  have hocc : ∀ s, occurrencesOf (grouped uses []) s = (usesOf uses s).map Use.occurrence := fun s => by
    rw [occurrencesOf_grouped, occurrencesOf_nil, List.nil_append, usesOf]
  refine ⟨(grouped uses []).map Prod.fst, ?_, fun u hu => ?_⟩
  · have hentry : ∀ e ∈ grouped uses [], e = (e.1, (usesOf uses e.1).map Use.occurrence) := by
      intro e he
      rw [← hocc, (distinct_grouped uses .nil).occurrencesOf_of_mem he]
    rw [entriesOf, List.map_map]
    conv_lhs => rw [← List.map_id (grouped uses [])]
    exact List.map_congr_left hentry
  · have hmem : u.occurrence ∈ occurrencesOf (grouped uses []) u.symbol := by
      rw [hocc]
      exact List.mem_map_of_mem (List.mem_filter.2 ⟨hu, Symbol.same_refl _⟩)
    obtain ⟨t, ht, he⟩ := exists_entry_of_mem hmem
    exact ⟨t, List.mem_map.2 ⟨_, he, rfl⟩, by rw [Symbol.same_comm]; exact ht⟩

end Usage

/-! ## The output -/

def firstUse? (uses : List Use) (s : Symbol) : Option Use := uses.find? fun u => u.symbol.same s

/-- Two uses of one symbol run along known axes that differ. -/
def Conflicting (slots : Slots) (uses : List Use) : Prop :=
  ∃ u ∈ uses, ∃ v ∈ uses, u.symbol.same v.symbol = true ∧
    ∃ a b, u.axis? slots = some a ∧ v.axis? slots = some b ∧ a.toList ≠ b.toList

/-- An output symbol has no use. -/
def Unresolved (uses : List Use) (output : List OutputIndex) : Prop :=
  ∃ s, .symbol s ∈ output ∧ ∀ u ∈ uses, u.symbol.same s = false

/-- The first use of an output symbol is on an array of unknown shape. -/
def Undetermined (slots : Slots) (uses : List Use) (output : List OutputIndex) : Prop :=
  ∃ s, .symbol s ∈ output ∧ ∃ u, firstUse? uses s = some u ∧ slots.shapeOf u.array = .ok none

/-- The axis of an output entry: the trivial one of an integer, that of the first use of a symbol. -/
def OutputIndex.HasAxis (slots : Slots) (uses : List Use) (a : Axis) : OutputIndex → Prop
  | .literal _ _ => a = .trivial
  | .symbol s => ∃ u shape, firstUse? uses s = some u ∧ slots.shapeOf u.array = .ok (some shape) ∧
    a = shape.axis u.dimension

theorem not_conflicting_iff {slots : Slots} {uses : List Use} {ss : List Symbol}
    (hss : ∀ u ∈ uses, ∃ s ∈ ss, u.symbol.same s = true) :
    ¬ Conflicting slots uses ↔ ∀ s ∈ ss, Agreeing slots (Usage.usesOf uses s) := by
  constructor
  · intro hn s _ u hu v hv a b ha hb
    obtain ⟨hu, hus⟩ := List.mem_filter.1 hu
    obtain ⟨hv, hvs⟩ := List.mem_filter.1 hv
    refine Decidable.not_not.1 fun hne => hn ⟨u, hu, v, hv, ?_, a, b, ha, hb, hne⟩
    rw [Symbol.same_congr hus, Symbol.same_comm]
    exact hvs
  · rintro hall ⟨u, hu, v, hv, hsame, a, b, ha, hb, hne⟩
    obtain ⟨s, hs, hus⟩ := hss u hu
    refine hne (hall s hs u (List.mem_filter.2 ⟨hu, hus⟩) v (List.mem_filter.2 ⟨hv, ?_⟩) a b ha hb)
    rw [← Symbol.same_congr hsame]
    exact hus

theorem firstUse?_eq_none {uses : List Use} {s : Symbol} :
    firstUse? uses s = none ↔ ∀ u ∈ uses, u.symbol.same s = false := by
  rw [firstUse?, List.find?_eq_none]
  exact forall₂_congr fun u _ => by rw [Bool.not_eq_true]

theorem firstUse?_eq_some {uses : List Use} {s : Symbol} {u : Use} (h : firstUse? uses s = some u) :
    u ∈ uses ∧ u.symbol.same s = true := by
  have hsame := List.find?_some (show uses.find? (fun v => v.symbol.same s) = some u from h)
  exact ⟨List.mem_of_find?_eq_some h, hsame⟩

theorem OutputIndex.axis_of_occurrencesOf (slots : Slots) (usage : Usage) (body : Value) (s : Symbol) :
    (OutputIndex.symbol s).axis slots usage body =
      match usage.occurrencesOf s with
      | o :: _ => o.axis slots
      | [] => .error (.conflict (.unresolved s.name body)) := by
  unfold OutputIndex.axis Usage.occurrencesOf
  dsimp only
  cases usage.find? s with
  | none => rfl
  | some os => cases os <;> rfl

theorem OutputIndex.axis_symbol {slots : Slots} {uses : List Use} (h : ∀ u ∈ uses, u.Readable slots) (body : Value)
    (s : Symbol) :
    (OutputIndex.symbol s).axis slots (Usage.grouped uses []) body =
      match firstUse? uses s with
      | some u => .ok (u.axis? slots)
      | none => .error (.conflict (.unresolved s.name body)) := by
  rw [OutputIndex.axis_of_occurrencesOf, Usage.occurrencesOf_grouped, Usage.occurrencesOf_nil, List.nil_append,
    firstUse?, ← List.head?_filter]
  cases hf : uses.filter fun u => u.symbol.same s with
  | nil => rfl
  | cons u us =>
    have hu : u ∈ uses := (List.mem_filter.1 (hf ▸ List.mem_cons_self)).1
    exact (h u hu).axis_occurrence

def OutputIndex.axis? (slots : Slots) (uses : List Use) : OutputIndex → Option Axis
  | .literal _ _ => some .trivial
  | .symbol s => (firstUse? uses s).bind (Use.axis? slots)

section

variable {slots : Slots} {uses : List Use} {output : List OutputIndex}

theorem exists_firstUse_of_not_unresolved (h : ¬ Unresolved uses output) {s : Symbol} (hs : .symbol s ∈ output) :
    ∃ u, firstUse? uses s = some u := by
  cases hf : firstUse? uses s with
  | none => exact absurd ⟨s, hs, firstUse?_eq_none.1 hf⟩ h
  | some u => exact ⟨u, rfl⟩

theorem readable_of_firstUse (hr : ∀ u ∈ uses, u.Readable slots) {s : Symbol} {u : Use}
    (h : firstUse? uses s = some u) :
    u.Readable slots :=
  hr u (firstUse?_eq_some h).1

theorem axes_of_not_unresolved (hr : ∀ u ∈ uses, u.Readable slots) (body : Value) (h : ¬ Unresolved uses output) :
    (output.mapM fun i => i.axis slots (Usage.grouped uses []) body) =
      .ok (output.map (OutputIndex.axis? slots uses)) := by
  rw [exceptMapM_ok, List.forall₂_map_right_iff, List.forall₂_same]
  intro i hi
  cases i with
  | literal n m => rfl
  | symbol s =>
    obtain ⟨u, hu⟩ := exists_firstUse_of_not_unresolved h hi
    rw [OutputIndex.axis_symbol hr, OutputIndex.axis?, hu]
    rfl

/-- The output is refused only for one of its symbols that has no use. -/
theorem axes_error (hr : ∀ u ∈ uses, u.Readable slots) {body : Value} {f : Fault}
    (h : (output.mapM fun i => i.axis slots (Usage.grouped uses []) body) = .error f) :
    ∃ s, f = .conflict (.unresolved s.name body) ∧ .symbol s ∈ output ∧ ∀ u ∈ uses, u.symbol.same s = false := by
  obtain ⟨i, hi, hf⟩ := exceptMapM_error h
  cases i with
  | literal n m => cases hf
  | symbol s =>
    rw [OutputIndex.axis_symbol hr] at hf
    split at hf
    · cases hf
    · rename_i hnone
      cases hf
      exact ⟨s, rfl, hi, firstUse?_eq_none.1 hnone⟩

theorem axes_of_unresolved (hr : ∀ u ∈ uses, u.Readable slots) (body : Value) (h : Unresolved uses output) :
    ∃ s : Symbol, (output.mapM fun i => i.axis slots (Usage.grouped uses []) body) =
      .error (.conflict (.unresolved s.name body)) := by
  cases hm : output.mapM fun (i : OutputIndex) => i.axis slots (Usage.grouped uses []) body with
  | ok axes =>
    obtain ⟨s, hs, hno⟩ := h
    obtain ⟨a, -, ha⟩ := forall₂_exists_right (exceptMapM_ok.1 hm) _ hs
    rw [OutputIndex.axis_symbol hr, firstUse?_eq_none.2 hno] at ha
    cases ha
  | error f =>
    obtain ⟨s, rfl, -⟩ := axes_error hr hm
    exact ⟨s, rfl⟩

theorem undetermined_iff (hr : ∀ u ∈ uses, u.Readable slots) (h : ¬ Unresolved uses output) :
    Undetermined slots uses output ↔ none ∈ output.map (OutputIndex.axis? slots uses) := by
  rw [List.mem_map]
  constructor
  · rintro ⟨s, hs, u, hu, hn⟩
    refine ⟨.symbol s, hs, ?_⟩
    rw [OutputIndex.axis?, hu]
    exact Use.axis?_of_unknown hn
  · rintro ⟨i, hi, hn⟩
    cases i with
    | literal n m => cases hn
    | symbol s =>
      obtain ⟨u, hu⟩ := exists_firstUse_of_not_unresolved h hi
      rw [OutputIndex.axis?, hu] at hn
      exact ⟨s, hi, u, hu, (readable_of_firstUse hr hu).axis?_eq_none.1 hn⟩

theorem OutputIndex.hasAxis_of_axis? {i : OutputIndex} {a : Axis} (h : i.axis? slots uses = some a) :
    i.HasAxis slots uses a := by
  cases i with
  | literal n m => exact (Option.some.inj h).symm
  | symbol s =>
    obtain ⟨u, hu, ha⟩ := Option.bind_eq_some_iff.1 h
    unfold Use.axis? at ha
    split at ha
    · rename_i shape hs
      exact ⟨u, shape, hu, hs, (Option.some.inj ha).symm⟩
    · cases ha

theorem hasAxes_of_known {axes : List Axis} (h : output.map (OutputIndex.axis? slots uses) = axes.map some) :
    List.Forall₂ (fun i a => i.HasAxis slots uses a) output axes := by
  have hsame : List.Forall₂ (fun i a => i.axis? slots uses = some a) output axes := by
    rw [← List.forall₂_map_left_iff (f := OutputIndex.axis? slots uses) (R := fun o a => o = some a), h,
      List.forall₂_map_left_iff, List.forall₂_same]
    exact fun a _ => rfl
  exact hsame.imp fun i a hi => OutputIndex.hasAxis_of_axis? hi

end

namespace Build

variable (output : List OutputIndex) {body : Value} {st : Store}

theorem outputShape_of_conflicting (hb : body.WellIndexed) (hr : ∀ u ∈ body.uses, u.Readable st.slots)
    (h : Conflicting st.slots body.uses) :
    ∃ f, (outcome (outputShape output body) st).1 = .error f ∧ Usage.IsMismatch f := by
  obtain ⟨ss, hgroup, hss⟩ := Usage.grouped_eq_entriesOf body.uses
  rcases Usage.outcome_checkConsistency hr ss st rfl with ⟨-, hall⟩ | ⟨⟨f, st', hf, hm⟩, -⟩
  · exact absurd h ((not_conflicting_iff hss).2 hall)
  · refine ⟨f, ?_, hm⟩
    unfold outputShape
    rw [outcome_bind, outcome_lift, body.collectUsage_eq hb, hgroup]
    dsimp only
    rw [outcome_bind_of_error hf]

theorem outputShape_of_consistent (hb : body.WellIndexed) (hr : ∀ u ∈ body.uses, u.Readable st.slots)
    (h : ¬ Conflicting st.slots body.uses) :
    (outcome (outputShape output body) st).1 =
      (output.mapM fun (i : OutputIndex) => i.axis st.slots (Usage.grouped body.uses []) body).map fun axes =>
        (axes.mapM id).map Shape.ofAxes := by
  obtain ⟨ss, hgroup, hss⟩ := Usage.grouped_eq_entriesOf body.uses
  rcases Usage.outcome_checkConsistency hr ss st rfl with ⟨⟨refs, st₁, h₁, hst₁⟩, -⟩ | ⟨-, s, hs, hne⟩
  · unfold outputShape
    rw [outcome_bind, outcome_lift, body.collectUsage_eq hb]
    dsimp only
    rw [← hgroup] at h₁
    rw [outcome_bind_of_ok h₁, outcome_bind_of_ok (outcome_slots st₁), outcome_bind, outcome_mapM_lift, hst₁]
    cases output.mapM fun (i : OutputIndex) => i.axis st.slots (Usage.grouped body.uses []) body with
    | error f => rfl
    | ok axes =>
      show _ = Except.ok ((axes.mapM id).map Shape.ofAxes)
      dsimp only
      cases axes.mapM id <;> rfl
  · exact absurd ((not_conflicting_iff hss).1 h s hs) hne

def FailsWith {α : Type} (r : Except Fault α) (k : DiagnosticClass) : Prop :=
  ∃ c : Conflict, r = .error (.conflict c) ∧ c.diagnostic.kind = k

theorem not_failsWith_ok {α : Type} {a : α} {k : DiagnosticClass} : ¬ FailsWith (.ok a) k := by
  rintro ⟨c, hc, -⟩
  cases hc

theorem failsWith_conflict {α : Type} {c : Conflict} {k : DiagnosticClass} :
    FailsWith (.error (.conflict c) : Except Fault α) k ↔ c.diagnostic.kind = k := by
  constructor
  · rintro ⟨c', hc, hk⟩
    cases hc
    exact hk
  · exact fun hk => ⟨c, rfl, hk⟩

/-- **The shape of an output, completely.**  A dimension mismatch is reported exactly if two uses of one symbol
conflict, an unresolved index exactly if there is no conflict and an output symbol has no use.  Without either, the
shape is unknown exactly if the first use of an output symbol is on an array of unknown shape, and otherwise it has
one axis per entry. -/
theorem outputShape_complete (output : List OutputIndex) {body : Value} {st : Store} (hb : body.WellIndexed)
    (hr : ∀ u ∈ body.uses, ∃ info, st.slots.shapeOf u.array = .ok info) :
    (FailsWith (outcome (outputShape output body) st).1 .dimensionMismatch ↔ Conflicting st.slots body.uses) ∧
    (¬ Conflicting st.slots body.uses →
      (FailsWith (outcome (outputShape output body) st).1 .unresolvedIndex ↔ Unresolved body.uses output) ∧
      (¬ Unresolved body.uses output →
        ((outcome (outputShape output body) st).1 = .ok none ↔ Undetermined st.slots body.uses output) ∧
        (¬ Undetermined st.slots body.uses output →
          ∃ axes, (outcome (outputShape output body) st).1 = .ok (some (.ofAxes axes)) ∧
            List.Forall₂ (fun i a => i.HasAxis st.slots body.uses a) output axes))) := by
  have hread : ∀ u ∈ body.uses, u.Readable st.slots := fun u hu => ⟨hr u hu, body.one_le_dimension u hu⟩
  by_cases hc : Conflicting st.slots body.uses
  · obtain ⟨f, hf, c, rfl, hk⟩ := outputShape_of_conflicting output hb hread hc
    rw [hf, failsWith_conflict]
    exact ⟨⟨fun _ => hc, fun _ => hk⟩, fun h => absurd hc h⟩
  · rw [outputShape_of_consistent output hb hread hc]
    by_cases hu : Unresolved body.uses output
    · obtain ⟨s, hs⟩ := axes_of_unresolved hread body hu
      rw [hs]
      refine ⟨⟨fun h => ?_, fun h => absurd h hc⟩,
        fun _ => ⟨⟨fun _ => hu, fun _ => ⟨_, rfl, rfl⟩⟩, fun h => absurd hu h⟩⟩
      cases failsWith_conflict.1 h
    · rw [axes_of_not_unresolved hread body hu, Except.map, undetermined_iff hread hu, ← optionMapM_id_none]
      refine ⟨⟨fun h => absurd h not_failsWith_ok, fun h => absurd h hc⟩, fun _ => ⟨?_, fun _ => ?_⟩⟩
      · exact ⟨fun h => absurd h not_failsWith_ok, fun h => absurd h hu⟩
      · cases hm : (output.map (OutputIndex.axis? st.slots body.uses)).mapM id with
        | none => exact ⟨⟨fun _ => rfl, fun _ => rfl⟩, fun h => absurd rfl h⟩
        | some axes =>
          refine ⟨⟨fun h => ?_, fun h => ?_⟩, fun _ => ⟨axes, rfl, hasAxes_of_known (optionMapM_id_some.1 hm)⟩⟩
          · cases h
          · cases h

/-- `a[i, j] * b[j]` over a matrix of two rows and three columns and a vector of length four. -/
theorem outputShape_complete_product :
    let a : Value := .node (.constant 3 (.array ⟨0, [some 2, some 3], none, .filled (.int 0)⟩) 4)
    let b : Value := .node (.constant 5 (.array ⟨0, [some 4], none, .filled (.int 0)⟩) 6)
    let i : Symbol := ⟨7, .ofString "i", .scalar (some .index), 8⟩
    let j : Symbol := ⟨9, .ofString "j", .scalar (some .index), 10⟩
    let element (array : Value) (keys : List Symbol) : Value :=
      .node (.term 11 (.primitive .getitem) (array :: keys.map fun s => .node (.symbol s)) 12 (.scalar none) 13)
    let body : Value := .node (.term 14 (.primitive .mul) [element a [i, j], element b [j]] 15 (.scalar none) 16)
    body.WellIndexed ∧ (∀ u ∈ body.uses, ∃ info, Store.empty.slots.shapeOf u.array = .ok info) ∧
      Conflicting Store.empty.slots body.uses ∧
      FailsWith (outcome (outputShape [.symbol i] body) .empty).1 .dimensionMismatch := by
  intro a b i j element body
  have hb : body.WellIndexed := ⟨List.cons_ne_nil _ _, List.cons_ne_nil _ _, trivial⟩
  have huses : body.uses = [⟨i, a, 1⟩, ⟨j, a, 2⟩, ⟨j, b, 1⟩] := rfl
  have hr : ∀ u ∈ body.uses, ∃ info, Store.empty.slots.shapeOf u.array = .ok info := by
    simp only [huses, List.forall_mem_cons]
    exact ⟨⟨_, rfl⟩, ⟨_, rfl⟩, ⟨_, rfl⟩, fun u hu => nomatch hu⟩
  have hc : Conflicting Store.empty.slots body.uses := by
    refine ⟨⟨j, a, 2⟩, by simp [huses], ⟨j, b, 1⟩, by simp [huses], j.same_refl, .ofLength 3, .ofLength 4, rfl, rfl, ?_⟩
    decide
  exact ⟨hb, hr, hc, (outputShape_complete [.symbol i] hb hr).1.2 hc⟩

end Build

end ArrayTyping

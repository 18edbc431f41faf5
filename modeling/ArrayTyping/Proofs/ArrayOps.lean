import ArrayTyping.Proofs.Resolution
/-!
# ArrayOps — what becomes of an array by index notation

The arguments are read first, then the body is walked, and the shape is resolved from what the walk has found.  A body is
*accepted* if the walk gets through it, every array it comes to can be asked for its shape, and no two uses conflict.
Only then an output symbol can be found unresolved.  Everything that is refused before has another reason.
-/
namespace ArrayTyping

open Build (outcome)

/-! ## Bodies that a walk does not get through -/

/-- A walk that visits an initial part of the uses and is then refused. -/
def EndsEarly (walk : ∀ σ : Type, Visit σ → Walk σ Unit) (uses : List Use) : Prop :=
  ∃ trail, trail <+: uses ∧ ∀ (σ : Type) (visit : Visit σ),
    walk σ visit = do
      forM trail (Use.visited visit)
      throw (.slip .value)

namespace EndsEarly

variable {w w' : ∀ σ : Type, Visit σ → Walk σ Unit} {us vs : List Use}

theorem before (h : EndsEarly w us) : EndsEarly (fun σ visit => do w σ visit; w' σ visit) (us ++ vs) := by
  obtain ⟨trail, hprefix, hwalk⟩ := h
  refine ⟨trail, hprefix.trans (List.prefix_append us vs), fun σ visit => ?_⟩
  dsimp only
  rw [hwalk, bind_assoc]
  rfl

theorem after (hw : ∀ (σ : Type) (visit : Visit σ), w σ visit = forM us (Use.visited visit)) (h : EndsEarly w' vs) :
    EndsEarly (fun σ visit => do w σ visit; w' σ visit) (us ++ vs) := by
  obtain ⟨trail, hprefix, hwalk⟩ := h
  refine ⟨us ++ trail, (List.prefix_append_right_inj us).2 hprefix, fun σ visit => ?_⟩
  dsimp only
  rw [hw, hwalk, List.forM_append, bind_assoc]

end EndsEarly

mutual

theorem Node.endsEarly : ∀ n : Node, ¬ n.WellIndexed → EndsEarly (fun _ visit => n.visitUses visit) n.uses
  | .symbol _, h => absurd trivial h
  | .constant _ _ _, h => absurd trivial h
  | .term id op args am t tm, h => by
    rw [Node.WellIndexed] at h
    by_cases hop : op.isGetitem = true
    · rw [if_pos hop, Classical.not_not] at h
      subst h
      refine ⟨[], List.nil_prefix, fun σ visit => ?_⟩
      dsimp only
      rw [Node.visitUses.eq_def]
      exact if_pos hop
    · rw [if_neg hop] at h
      obtain ⟨trail, hprefix, hwalk⟩ := endsEarly_all args h
      rw [Node.uses_application (Bool.eq_false_iff.2 hop)]
      refine ⟨trail, hprefix, fun σ visit => ?_⟩
      dsimp only
      rw [Node.visitUses.eq_def, ← hwalk]
      exact if_neg hop
  | .arrayOp id output om body reduce source k e tm, h => by
    rw [Node.WellIndexed] at h
    by_cases hb : body.WellIndexed
    · exact .after (fun _ visit => body.visitUses_eq visit hb) (endsEarly_source source fun hs => h ⟨hb, hs⟩)
    · exact (Value.endsEarly body hb).before
termination_by structural n => n

/-- **An indexing of nothing ends the walk**, wherever it stands on the way, and what comes before is visited. -/
theorem Value.endsEarly : ∀ v : Value, ¬ v.WellIndexed → EndsEarly (fun _ visit => v.visitUses visit) v.uses
  | .node n, h => Node.endsEarly n h
  | .none, h | .bool _, h | .int .., h | .float .., h | .complex .., h | .scalar .., h | .text .., h | .list .., h
  | .tuple .., h | .dict .., h | .range _, h | .slice .., h | .unknown, h | .shape _, h | .dtype _, h | .kind _, h
  | .code _, h | .type .., h | .array _, h | .object _, h | .callable _, h | .occurrence .., h | .view .., h
  | .space .., h | .registry _, h | .diagnostic .., h | .iterator .., h => absurd trivial h
termination_by structural v => v

theorem endsEarly_all : ∀ vs : List Value, ¬ wellIndexedAll vs →
    EndsEarly (fun _ visit => visitUsesAll visit vs) (usesOfAll vs)
  | [], h => absurd trivial h
  | v :: vs, h => by
    rw [wellIndexedAll] at h
    by_cases hv : v.WellIndexed
    · exact .after (fun _ visit => v.visitUses_eq visit hv) (endsEarly_all vs fun hvs => h ⟨hv, hvs⟩)
    · exact (Value.endsEarly v hv).before
termination_by structural vs => vs

theorem endsEarly_source : ∀ n : Option Node, ¬ wellIndexedSource n →
    EndsEarly (fun _ visit => visitUsesOfSource visit n) (usesOfSource n)
  | none, h => absurd trivial h
  | some n, h => Node.endsEarly n h
termination_by structural n => n

end

theorem Value.collectUsage_of_not_wellIndexed {v : Value} (h : ¬ v.WellIndexed) (u : Usage) :
    v.collectUsage u = .error (.slip .value) := by
  obtain ⟨trail, -, hwalk⟩ := v.endsEarly h
  have hvisit := hwalk Usage Usage.collecting
  dsimp only at hvisit
  unfold Value.collectUsage
  rw [hvisit, ExceptT.run_bind, StateT.run_bind, Usage.forM_collecting]
  rfl

/-! ## Arrays whose shape cannot be asked for -/

theorem shapeOfDims_error {dims : List (Option Int)} {f : Fault} (h : shapeOfDims dims = .error f) :
    ∃ r, f = .refusal r := by
  unfold shapeOfDims at h
  split at h
  · cases h
  · rcases exceptBind_error.1 h with h | ⟨axes, -, h⟩
    · obtain ⟨n, -, hn⟩ := exceptMapM_error h
      split at hn
      · cases hn
        exact ⟨_, rfl⟩
      · cases hn
    · cases h

theorem Slots.shapeOf_error {slots : Slots} {v : Value} {f : Fault} (h : slots.shapeOf v = .error f) :
    ∃ r, f = .refusal r := by
  unfold shapeOf at h
  split at h
  · split at h
    · cases h
    · unfold Node.initialShape at h
      split at h
      · exact shapeOfDims_error h
      · cases h
  · exact shapeOfDims_error h
  · split at h
    · cases h
    · cases h
      exact ⟨_, rfl⟩

namespace Usage

/-- A refusal for the uses in a body: the shape of an array that cannot be asked for, or axes that differ. -/
def IsOfUses (slots : Slots) (uses : List Use) (f : Fault) : Prop :=
  (∃ u ∈ uses, slots.shapeOf u.array = .error f) ∨ IsMismatch f

theorem IsOfUses.mono {slots : Slots} {us vs : List Use} {f : Fault} (h : IsOfUses slots us f)
    (hsub : ∀ u ∈ us, u ∈ vs) : IsOfUses slots vs f := by
  rcases h with ⟨u, hu, h⟩ | h
  · exact .inl ⟨u, hsub u hu, h⟩
  · exact .inr h

theorem known_of_unreadable {slots : Slots} {us : List Use} (h : ¬ ∀ u ∈ us, ∃ info, slots.shapeOf u.array = .ok info) :
    ∃ u ∈ us, ∃ f, slots.shapeOf u.array = .error f ∧ known slots (us.map Use.occurrence) = .error f := by
  induction us with
  | nil => exact absurd (fun u hu => nomatch hu) h
  | cons u us ih =>
    rw [List.map_cons, known, show u.occurrence.array = u.array from rfl]
    cases hs : slots.shapeOf u.array with
    | error f => exact ⟨u, List.mem_cons_self, f, hs, rfl⟩
    | ok info =>
      obtain ⟨v, hv, f, hf, hk⟩ := ih fun hus => h (List.forall_mem_cons.2 ⟨⟨info, hs⟩, hus⟩)
      rw [hk]
      exact ⟨v, List.mem_cons_of_mem _ hv, f, hf, rfl⟩

/-- The check of one symbol passes only over arrays that can be asked for their shapes. -/
theorem reference_cases (slots : Slots) (name : Label) {us : List Use} (hd : ∀ u ∈ us, 1 ≤ u.dimension) :
    ((∃ a, reference slots (.ok name) (us.map Use.occurrence) = .ok a) ∧ ∀ u ∈ us, u.Readable slots) ∨
      ∃ f, reference slots (.ok name) (us.map Use.occurrence) = .error f ∧ IsOfUses slots us f := by
  by_cases hr : ∀ u ∈ us, ∃ info, slots.shapeOf u.array = .ok info
  · have hread : ∀ u ∈ us, u.Readable slots := fun u hu => ⟨hr u hu, hd u hu⟩
    rcases reference_spec name hread with ⟨hok, -⟩ | ⟨⟨f, hf, hm⟩, -⟩
    · exact .inl ⟨hok, hread⟩
    · exact .inr ⟨f, hf, .inr hm⟩
  · obtain ⟨u, hu, f, hf, hk⟩ := known_of_unreadable hr
    refine .inr ⟨f, ?_, .inl ⟨u, hu, hf⟩⟩
    unfold reference
    rw [hk]
    rfl

theorem checkConsistency_cases (slots : Slots) {uses : List Use} (hd : ∀ u ∈ uses, 1 ≤ u.dimension) :
    ∀ (ss : List Symbol) (st : Store), st.slots = slots →
      ((∃ refs st', outcome (entriesOf uses ss).checkConsistency st = (.ok refs, st')) ∧
        ∀ s ∈ ss, ∀ u ∈ usesOf uses s, u.Readable slots) ∨
      ∃ f st', outcome (entriesOf uses ss).checkConsistency st = (.error f, st') ∧ IsOfUses slots uses f
  | [], st, _ => .inl ⟨⟨_, _, rfl⟩, fun s hs => nomatch hs⟩
  | s :: ss, st, hst => by
    have hs : ∀ u ∈ usesOf uses s, 1 ≤ u.dimension := fun u hu => hd u (List.mem_filter.1 hu).1
    rw [entriesOf, List.map_cons, ← entriesOf, checkConsistency]
    rcases reference_cases slots s.name hs with ⟨⟨a, ha⟩, hread⟩ | ⟨f, hf, hm⟩
    · obtain ⟨st₁, h₁, hst₁⟩ := outcome_checkSymbol_of_ok (hst ▸ ha)
      rw [Build.outcome_bind_of_ok h₁]
      rcases checkConsistency_cases slots hd ss st₁ (hst₁.trans hst) with ⟨⟨refs, st₂, h₂⟩, hall⟩ | ⟨f, st₂, h₂, hm⟩
      · refine .inl ⟨?_, List.forall_mem_cons.2 ⟨hread, hall⟩⟩
        cases a with
        | none => exact ⟨_, _, h₂⟩
        | some a =>
          dsimp only
          rw [Build.outcome_bind_of_ok h₂]
          exact ⟨_, _, rfl⟩
      · refine .inr ?_
        cases a with
        | none => exact ⟨_, _, h₂, hm⟩
        | some a =>
          dsimp only
          rw [Build.outcome_bind_of_error h₂]
          exact ⟨_, _, rfl, hm⟩
    · rw [Build.outcome_bind_of_error (outcome_checkSymbol_of_error (hst ▸ hf))]
      exact .inr ⟨_, _, rfl, hm.mono fun u hu => (List.mem_filter.1 hu).1⟩

end Usage

/-! ## Accepted bodies -/

/-- A body that the walk and the check of its uses have nothing against. -/
structure Value.Accepted (slots : Slots) (body : Value) : Prop where
  wellIndexed : body.WellIndexed
  readable : ∀ u ∈ body.uses, u.Readable slots
  consistent : ¬ Conflicting slots body.uses

/-- A refusal that has nothing to do with an output: an indexing of nothing, or something about the uses. -/
def Value.IsOfBody (slots : Slots) (body : Value) (f : Fault) : Prop :=
  (¬ body.WellIndexed ∧ f = .slip .value) ∨ Usage.IsOfUses slots body.uses f

theorem Value.IsOfBody.kind_eq {slots : Slots} {body : Value} {c : Conflict} (h : body.IsOfBody slots (.conflict c)) :
    c.diagnostic.kind = .dimensionMismatch := by
  rcases h with ⟨-, h⟩ | ⟨u, -, h⟩ | ⟨d, h, hk⟩
  · cases h
  · obtain ⟨r, hr⟩ := Slots.shapeOf_error h
    cases hr
  · cases h
    exact hk

namespace Build

variable (output : List OutputIndex) {body : Value} {st : Store}

theorem outputShape_of_not_wellIndexed (h : ¬ body.WellIndexed) :
    (outcome (outputShape output body) st).1 = .error (.slip .value) := by
  unfold outputShape
  rw [outcome_bind, outcome_lift, Value.collectUsage_of_not_wellIndexed h]

/-- **A body that is not accepted is refused on its own account**, whatever the output. -/
theorem outputShape_of_not_accepted (h : ¬ body.Accepted st.slots) :
    ∃ f, (outcome (outputShape output body) st).1 = .error f ∧ body.IsOfBody st.slots f := by
  by_cases hb : body.WellIndexed
  · obtain ⟨ss, hgroup, hss⟩ := Usage.grouped_eq_entriesOf body.uses
    rcases Usage.checkConsistency_cases st.slots body.one_le_dimension ss st rfl with
      ⟨-, hall⟩ | ⟨f, st', hf, hm⟩
    · have hread : ∀ u ∈ body.uses, u.Readable st.slots := fun u hu => by
        obtain ⟨s, hs, hus⟩ := hss u hu
        exact hall s hs u (List.mem_filter.2 ⟨hu, hus⟩)
      have hc : Conflicting st.slots body.uses := Classical.not_not.1 fun hc => h ⟨hb, hread, hc⟩
      obtain ⟨f, hf, hm⟩ := outputShape_of_conflicting output hb hread hc
      exact ⟨f, hf, .inr (.inr hm)⟩
    · refine ⟨f, ?_, .inr hm⟩
      unfold outputShape
      rw [outcome_bind, outcome_lift, body.collectUsage_eq hb, hgroup]
      dsimp only
      rw [outcome_bind_of_error hf]
  · exact ⟨.slip .value, outputShape_of_not_wellIndexed output hb, .inl ⟨hb, rfl⟩⟩

theorem outputShape_of_accepted (h : body.Accepted st.slots) :
    (∃ info, (outcome (outputShape output body) st).1 = .ok info ∧ ¬ Unresolved body.uses output) ∨
      ∃ s, (outcome (outputShape output body) st).1 = .error (.conflict (.unresolved s.name body)) ∧
        .symbol s ∈ output ∧ ∀ u ∈ body.uses, u.symbol.same s = false := by
  rw [outputShape_of_consistent output h.wellIndexed h.readable h.consistent]
  cases hm : output.mapM fun (i : OutputIndex) => i.axis st.slots (Usage.grouped body.uses []) body with
  | error f =>
    obtain ⟨s, rfl, hs, hunused⟩ := axes_error h.readable hm
    exact .inr ⟨s, rfl, hs, hunused⟩
  | ok axes =>
    refine .inl ⟨_, rfl, fun hu => ?_⟩
    obtain ⟨s, hs⟩ := axes_of_unresolved h.readable body hu
    rw [hs] at hm
    cases hm

end Build

/-! ## Requests that only look at the slots -/

namespace Build

variable {α β : Type}

/-- The slots stay as they are, and the answer depends on nothing else in the store. -/
structure Looks (x : Build α) : Prop where
  steady : Steady x
  answer : ∀ st st' : Store, st'.slots = st.slots → (outcome x st').1 = (outcome x st).1

namespace Looks

theorem pure (a : α) : Looks (Pure.pure a) := ⟨.pure a, fun _ _ _ => rfl⟩

theorem lift (e : Except Fault α) : Looks (liftM e : Build α) := ⟨.lift e, fun _ _ _ => rfl⟩

theorem slots : Looks Build.slots := ⟨.slots, fun _ _ h => congrArg Except.ok h⟩

theorem record (e : Event) : Looks (Build.record e) := ⟨.record e, fun _ _ _ => rfl⟩

theorem bind {x : Build α} {f : α → Build β} (hx : Looks x) (hf : ∀ a, Looks (f a)) : Looks (x >>= f) := by
  refine ⟨hx.steady.bind fun a => (hf a).steady, fun st st' hst => ?_⟩
  have hanswer := hx.answer st st' hst
  have hs := (hx.steady st).1
  have hs' := (hx.steady st').1
  rw [outcome_bind, outcome_bind]
  rcases h : outcome x st with ⟨r, st₁⟩
  rcases h' : outcome x st' with ⟨r', st₁'⟩
  rw [h, h'] at hanswer
  rw [h] at hs
  rw [h'] at hs'
  obtain rfl : r' = r := hanswer
  cases r' with
  | error e => rfl
  | ok a => exact (hf a).answer st₁ st₁' (hs'.trans (hst.trans hs.symm))

theorem mapM {f : α → Build β} (hf : ∀ a, Looks (f a)) : ∀ as : List α, Looks (as.mapM f)
  | [] => by
    rw [List.mapM_nil]
    exact pure _
  | a :: as => by
    rw [List.mapM_cons]
    exact (hf a).bind fun b => (mapM hf as).bind fun bs => pure _

end Looks

theorem looks_checkSymbol (name : Except Fault Label) (os : List Occurrence) : Looks (Usage.checkSymbol name os) := by
  refine Looks.slots.bind fun slots => (Looks.lift _).bind fun r => ?_
  cases r with
  | some a => exact .pure _
  | none => exact (Looks.lift _).bind fun _ => (Looks.record _).bind fun _ => .pure _

theorem looks_checkConsistency : ∀ u : Usage, Looks u.checkConsistency
  | [] => .pure _
  | (s, os) :: u => by
    refine (looks_checkSymbol _ os).bind fun r => ?_
    cases r with
    | none => exact looks_checkConsistency u
    | some a => exact (looks_checkConsistency u).bind fun _ => .pure _

theorem looks_outputShape (output : List OutputIndex) (body : Value) : Looks (outputShape output body) := by
  refine (Looks.lift _).bind fun usage => (looks_checkConsistency usage).bind fun _ => ?_
  refine Looks.slots.bind fun slots => (Looks.mapM (fun _ => .lift _) output).bind fun axes => ?_
  split
  · exact (Looks.record _).bind fun _ => .pure _
  · exact (Looks.record _).bind fun _ => .pure _

end Build

/-! ## The whole request -/

structure ArrayOpParts where
  output : List OutputIndex
  reduce : Callable
  source : Option Node
  container : Container
  eltype : ElementType

def ArrayOpParts.read (output body reduce source container : Value) : Except Fault ArrayOpParts := do
  let out ← output.toOutput
  match reduce.callable? with
  | none => throw (.refusal .reductionNotCallable)
  | some f =>
    let src ← source.toSource
    let e ← bodyElementType body
    let k ← container.toContainer
    return ⟨out, f, src, k, e⟩

theorem Value.declaredType_error {v : Value} {f : Fault} (h : v.declaredType = .error f) : ∃ r, f = .refusal r := by
  cases v with
  | node | array | bool | int | float | complex | scalar => cases h
  | _ =>
    cases h
    exact ⟨_, rfl⟩

theorem OutputIndex.ofValue_error {v : Value} {f : Fault} (h : OutputIndex.ofValue v = .error f) :
    ∃ r, f = .refusal r := by
  unfold OutputIndex.ofValue at h
  split at h
  · cases h
    exact ⟨_, rfl⟩
  · split at h
    · cases h
      exact ⟨_, rfl⟩
    · cases h
  · cases h
  · split at h
    · cases h
    · cases h
      exact ⟨_, rfl⟩

theorem OutputIndex.isArray_of_ofValue {v : Value} {s : Symbol} (h : OutputIndex.ofValue v = .ok (.symbol s)) :
    s.type.isArray = false := by
  unfold OutputIndex.ofValue at h
  split at h
  · cases h
  · split at h
    · cases h
    · rename_i hs
      cases h
      exact Bool.eq_false_iff.2 hs
  · cases h
  · split at h <;> cases h

theorem Value.toOutput_error {v : Value} {f : Fault} (h : v.toOutput = .error f) : ∃ r, f = .refusal r := by
  unfold Value.toOutput at h
  split at h
  iterate 3
    obtain ⟨w, -, hw⟩ := exceptMapM_error h
    exact OutputIndex.ofValue_error hw
  cases h
  exact ⟨_, rfl⟩

theorem Value.isArray_of_toOutput {v : Value} {out : List OutputIndex} (h : v.toOutput = .ok out) {s : Symbol}
    (hs : .symbol s ∈ out) : s.type.isArray = false := by
  unfold Value.toOutput at h
  split at h
  iterate 3
    obtain ⟨w, -, hw⟩ := exceptMapM_mem h _ hs
    exact OutputIndex.isArray_of_ofValue hw
  cases h

namespace ArrayOpParts

variable {output body reduce source container : Value}

theorem read_error {f : Fault} (h : read output body reduce source container = .error f) :
    f = .slip .value ∨ ∃ r, f = .refusal r := by
  rcases exceptBind_error.1 h with h | ⟨out, -, h⟩
  · exact .inr (Value.toOutput_error h)
  split at h
  · cases h
    exact .inr ⟨_, rfl⟩
  rcases exceptBind_error.1 h with h | ⟨src, -, h⟩
  · unfold Value.toSource at h
    split at h <;> cases h
    exact .inr ⟨_, rfl⟩
  rcases exceptBind_error.1 h with h | ⟨e, -, h⟩
  · rcases exceptBind_error.1 h with h | ⟨t, -, h⟩
    · exact .inr (Value.declaredType_error h)
    · split at h <;> cases h
  rcases exceptBind_error.1 h with h | ⟨k, -, h⟩
  · unfold Value.toContainer at h
    split at h <;> cases h
    exact .inl rfl
  · cases h

theorem read_ok {p : ArrayOpParts} (h : read output body reduce source container = .ok p) :
    output.toOutput = .ok p.output := by
  obtain ⟨out, hout, h⟩ := exceptBind_ok.1 h
  split at h
  · cases h
  · obtain ⟨src, -, h⟩ := exceptBind_ok.1 h
    obtain ⟨e, -, h⟩ := exceptBind_ok.1 h
    obtain ⟨k, -, h⟩ := exceptBind_ok.1 h
    rw [hout, ← exceptPure_ok.1 h]

theorem read_node {out : List OutputIndex} (hout : output.toOutput = .ok out) (n : Node) (f : Callable)
    {src : Option Node} (hsource : source.toSource = .ok src) (k : Container) :
    ∃ e, read output (.node n) (.callable f) source (.kind k) = .ok ⟨out, f, src, k, e⟩ := by
  obtain ⟨e, he⟩ := Build.bodyElementType_node n
  refine ⟨e, ?_⟩
  unfold read
  rw [hout, hsource, he]
  cases k <;> rfl

end ArrayOpParts

namespace Build

/-- The array that `n` is in `st`: its declared type, and the shape that was attached. -/
structure IsArrayOp (st : Store) (n : Node) (p : ArrayOpParts) (info : ShapeInfo) : Prop where
  type_eq : n.type.plain = (DeclaredType.array p.container p.eltype (some p.output.length)).plain
  shape : ∃ info', st.slots.shapeOf (.node n) = .ok info' ∧ info'.map Shape.plain = info.map Shape.plain

theorem outcome_arrayOpNode (output body reduce source container : Value) (st : Store) :
    outcome (arrayOpNode output body reduce source container) st =
      match ArrayOpParts.read output body reduce source container with
      | .ok p => outcome (indexed p.output body p.reduce p.source p.container p.eltype) st
      | .error f => (.error f, st) := by
  unfold arrayOpNode ArrayOpParts.read
  rw [outcome_bind, outcome_lift]
  cases output.toOutput with
  | error f => rfl
  | ok out =>
    cases reduce.callable? with
    | none => rfl
    | some g =>
      dsimp only
      rw [outcome_bind, outcome_lift]
      cases source.toSource with
      | error f => rfl
      | ok src =>
        dsimp only
        rw [outcome_bind, outcome_lift]
        cases bodyElementType body with
        | error f => rfl
        | ok e =>
          dsimp only
          rw [outcome_bind, outcome_lift]
          cases container.toContainer with
          | error f => rfl
          | ok k => rfl

theorem indexed_cases (p : ArrayOpParts) (body : Value) {st : Store} (hw : st.WellFormed) :
    (∃ f st', (outcome (outputShape p.output body) st).1 = .error f ∧
      outcome (indexed p.output body p.reduce p.source p.container p.eltype) st = (.error f, st')) ∨
    ∃ info n st', (outcome (outputShape p.output body) st).1 = .ok info ∧
      outcome (indexed p.output body p.reduce p.source p.container p.eltype) st = (.ok n, st') ∧
      IsArrayOp st' n p info := by
  obtain ⟨n, st₁, h₁, hn, hs, -⟩ := outcome_indexedNode p.output body p.reduce p.source p.container p.eltype st
  have hanswer := (looks_outputShape p.output body).answer st st₁ hs
  have hsteady := (steady_outputShape p.output body st₁).1
  rcases h₂ : outcome (outputShape p.output body) st₁ with ⟨f | info, st₂⟩
  · rw [h₂] at hanswer
    refine .inl ⟨f, st₂, hanswer.symm, ?_⟩
    rw [indexed_eq, outcome_bind_of_ok h₁, outcome_bind_of_error h₂]
  · rw [h₂] at hanswer hsteady
    have hnone : st₂.slots.get? n.id = none := by
      rw [hsteady, hs, hn.id_eq]
      exact hw _ (Nat.le_refl _)
    obtain ⟨info', st₃, h₃, hplain, hinsert, -⟩ := outcome_attach_of_none info hnone
    have hbuilt := indexed_ok.2 ⟨st₁, info, st₂, info', h₁, h₂, h₃⟩
    refine .inr ⟨info, n, st₃, hanswer.symm, hbuilt, hn.type_eq, info', ?_, hplain⟩
    exact Slots.shapeOf_of_slot (by rw [hinsert, Slots.get?_insert_self])

/-- **An array by index notation is refused for its arguments, or else for its shape, and built otherwise.** -/
theorem arrayOp_cases (output body reduce source container : Value) {st : Store} (hw : st.WellFormed) :
    (∃ f, ArrayOpParts.read output body reduce source container = .error f ∧
      (outcome (arrayOp output body reduce source container) st).1 = .error f) ∨
    ∃ p, ArrayOpParts.read output body reduce source container = .ok p ∧
      ((∃ f, (outcome (outputShape p.output body) st).1 = .error f ∧
        (outcome (arrayOp output body reduce source container) st).1 = .error f) ∨
      ∃ info n st', (outcome (outputShape p.output body) st).1 = .ok info ∧
        outcome (arrayOp output body reduce source container) st = (.ok n, st') ∧ IsArrayOp st' n p info) := by
  have hnode := outcome_arrayOpNode output body reduce source container st
  cases hread : ArrayOpParts.read output body reduce source container with
  | error f =>
    rw [hread] at hnode
    refine .inl ⟨f, rfl, ?_⟩
    unfold arrayOp
    rw [outcome_bind_of_error hnode]
  | ok p =>
    rw [hread] at hnode
    refine .inr ⟨p, rfl, ?_⟩
    rcases indexed_cases p body hw with ⟨f, st₁, hf, h₁⟩ | ⟨info, n, st₁, hinfo, h₁, hn⟩
    · refine .inl ⟨f, hf, ?_⟩
      unfold arrayOp
      rw [outcome_bind_of_error (hnode.trans h₁)]
    · obtain ⟨info', hs, hplain⟩ := hn.shape
      obtain ⟨st', hst', hslots, -⟩ := outcome_arrayOp (hnode.trans h₁) hs
      exact .inr ⟨info, n, st', hinfo, hst', hn.type_eq, info', by rw [hslots, hs], hplain⟩

section

variable {output body reduce source container : Value} {st : Store} {p : ArrayOpParts} {f : Fault}

theorem arrayOp_of_read_error (hw : st.WellFormed)
    (hread : ArrayOpParts.read output body reduce source container = .error f) :
    (outcome (arrayOp output body reduce source container) st).1 = .error f := by
  rcases arrayOp_cases output body reduce source container hw with ⟨g, hg, hx⟩ | ⟨p, hp, -⟩
  · rw [hread] at hg
    cases hg
    exact hx
  · rw [hread] at hp
    cases hp

theorem arrayOp_of_shape_error (hw : st.WellFormed)
    (hread : ArrayOpParts.read output body reduce source container = .ok p)
    (hshape : (outcome (outputShape p.output body) st).1 = .error f) :
    (outcome (arrayOp output body reduce source container) st).1 = .error f := by
  rcases arrayOp_cases output body reduce source container hw with
    ⟨g, hg, -⟩ | ⟨q, hq, ⟨g, hg, hx⟩ | ⟨info, n, st', hinfo, -⟩⟩
  · rw [hread] at hg
    cases hg
  · rw [hread] at hq
    cases hq
    rw [hshape] at hg
    cases hg
    exact hx
  · rw [hread] at hq
    cases hq
    rw [hshape] at hinfo
    cases hinfo

theorem arrayOp_of_shape {info : ShapeInfo} (hw : st.WellFormed)
    (hread : ArrayOpParts.read output body reduce source container = .ok p)
    (hshape : (outcome (outputShape p.output body) st).1 = .ok info) :
    ∃ n st', outcome (arrayOp output body reduce source container) st = (.ok n, st') ∧ IsArrayOp st' n p info := by
  rcases arrayOp_cases output body reduce source container hw with
    ⟨g, hg, -⟩ | ⟨q, hq, ⟨g, hg, -⟩ | ⟨info', n, st', hinfo, hx, hn⟩⟩
  · rw [hread] at hg
    cases hg
  · rw [hread] at hq
    cases hq
    rw [hshape] at hg
    cases hg
  · rw [hread] at hq
    cases hq
    rw [hshape] at hinfo
    cases hinfo
    exact ⟨n, st', hx, hn⟩

end

end Build

end ArrayTyping

import ArrayTyping.Proofs.ArrayOps
import ArrayTyping.Proofs.Marks
/-!
# SourceTerms — what a source term has a say in

An array by index notation may name a term that it is said to be equal to.  Its own shape does not depend on that term.
But the term is one of its operands, and a walk that comes to the array goes through the term as it goes through the
body: what the term indexes counts as a use in every array around it.  So two bodies that differ in source terms alone
are told apart, except where the walk comes to no source term, or to such only in which nothing is indexed.
-/
namespace ArrayTyping

open Build (outcome)

/-! ## Shapes of which the same is known -/

def ShapesAlike (s t : ShapeInfo) : Prop := s.map Shape.plain = t.map Shape.plain

theorem ShapesAlike.refl (s : ShapeInfo) : ShapesAlike s s := rfl

/-! ## The answer of a resolution -/

namespace Usage

/-- The check of one symbol after another, without what is recorded on the way. -/
def checked (slots : Slots) : Usage → Except Fault Unit
  | [] => .ok ()
  | (s, os) :: u => do
    let _ ← reference slots (.ok s.name) os
    checked slots u

theorem answer_checkConsistency (slots : Slots) : ∀ (u : Usage) (st : Store), st.slots = slots →
    (outcome u.checkConsistency st).1.map (fun _ => ()) = checked slots u
  | [], _, _ => rfl
  | (s, os) :: u, st, hst => by
    rw [checkConsistency, checked]
    cases hr : reference slots (.ok s.name) os with
    | error f =>
      rw [Build.outcome_bind_of_error (outcome_checkSymbol_of_error (hst ▸ hr))]
      rfl
    | ok a =>
      obtain ⟨st₁, h₁, hst₁⟩ := outcome_checkSymbol_of_ok (hst ▸ hr)
      have ih := answer_checkConsistency slots u st₁ (hst₁.trans hst)
      rw [Build.outcome_bind_of_ok h₁]
      cases a with
      | none => exact ih
      | some a =>
        refine Eq.trans ?_ ih
        dsimp only
        rw [Build.outcome_bind]
        rcases outcome (checkConsistency u) st₁ with ⟨_ | refs, st₂⟩ <;> rfl

end Usage

/-- **What a resolution answers is read off the slots**: the body is walked, the symbols are checked, and the output
takes its axes. -/
theorem Build.answer_outputShape (output : List OutputIndex) (body : Value) (st : Store) :
    (outcome (outputShape output body) st).1 = (do
      let usage ← body.collectUsage []
      usage.checked st.slots
      let axes ← output.mapM fun i => i.axis st.slots usage body
      return (axes.mapM id).map Shape.ofAxes) := by
  unfold outputShape
  rw [outcome_bind, outcome_lift]
  cases body.collectUsage [] with
  | error f => rfl
  | ok usage =>
    have hcheck := Usage.answer_checkConsistency st.slots usage st rfl
    have hslots := ((looks_checkConsistency usage).steady st).1
    dsimp only
    rw [outcome_bind]
    rcases hrun : outcome usage.checkConsistency st with ⟨f | refs, st₁⟩
    · rw [hrun] at hcheck
      show _ = (usage.checked st.slots >>= fun _ => _)
      rw [← hcheck]
      rfl
    · rw [hrun] at hcheck hslots
      show _ = (usage.checked st.slots >>= fun _ => _)
      rw [← hcheck]
      dsimp only
      rw [outcome_bind_of_ok (outcome_slots st₁), outcome_bind, outcome_mapM_lift, hslots]
      show _ = ((output.mapM fun i => i.axis st.slots usage body) >>= fun axes => _)
      cases output.mapM fun (i : OutputIndex) => i.axis st.slots usage body with
      | error f => rfl
      | ok axes =>
        show _ = Except.ok ((axes.mapM id).map Shape.ofAxes)
        dsimp only
        cases axes.mapM id <;> rfl

/-! ## Uses of which the same is known -/

/-- Two occurrences along one dimension of arrays of which the same is known, of each by its own slots. -/
structure Occurrence.Alike (slots slots' : Slots) (o p : Occurrence) : Prop where
  dimension : ∃ d : Nat, 1 ≤ d ∧ o.dimension = .ofInt d ∧ p.dimension = .ofInt d
  shape : SameAnswer ShapesAlike (slots.shapeOf o.array) (slots'.shapeOf p.array)

structure Use.Alike (slots slots' : Slots) (u v : Use) : Prop where
  symbol : u.symbol = v.symbol
  dimension : u.dimension = v.dimension
  shape : SameAnswer ShapesAlike (slots.shapeOf u.array) (slots'.shapeOf v.array)

/-- Symbols correspond one to one: two of them are the same exactly if those that they correspond to are. -/
def Symbol.Faithful (S : Symbol → Symbol → Prop) : Prop :=
  ∀ {s t s' t' : Symbol}, S s t → S s' t' → s.same s' = t.same t'

theorem Symbol.faithful_eq : Symbol.Faithful Eq := by
  rintro s _ s' _ rfl rfl
  rfl

/-- As `Use.Alike`, of symbols that correspond. -/
structure Use.Matched (S : Symbol → Symbol → Prop) (slots slots' : Slots) (u v : Use) : Prop where
  symbol : S u.symbol v.symbol
  dimension : u.dimension = v.dimension
  shape : SameAnswer ShapesAlike (slots.shapeOf u.array) (slots'.shapeOf v.array)

inductive OutputIndex.Matched (S : Symbol → Symbol → Prop) : OutputIndex → OutputIndex → Prop where
  | literal (n : Int) (m m' : Mark) : Matched S (.literal n m) (.literal n m')
  | symbol {s t : Symbol} (h : S s t) : Matched S (.symbol s) (.symbol t)

theorem OutputIndex.Matched.refl (i : OutputIndex) : i.Matched Eq i := by
  cases i with
  | literal n m => exact .literal n m m
  | symbol s => exact .symbol rfl

namespace Usage

variable {S : Symbol → Symbol → Prop} {slots slots' : Slots}

def Matched (S : Symbol → Symbol → Prop) (slots slots' : Slots) : Usage → Usage → Prop :=
  List.Forall₂ fun e f => S e.1 f.1 ∧ List.Forall₂ (Occurrence.Alike slots slots') e.2 f.2

theorem Matched.add (hS : Symbol.Faithful S) {u v : Usage} (h : Matched S slots slots' u v) {s t : Symbol} (hst : S s t)
    {o p : Occurrence} (ho : o.Alike slots slots' p) : Matched S slots slots' (u.add s o) (v.add t p) := by
  induction h with
  | nil => exact .cons ⟨hst, .cons ho .nil⟩ .nil
  | cons hef huv ih =>
    rw [Usage.add, Usage.add, hS hef.1 hst]
    split
    · exact .cons ⟨hef.1, List.rel_append hef.2 (.cons ho .nil)⟩ huv
    · exact .cons hef ih

theorem matched_grouped (hS : Symbol.Faithful S) {us vs : List Use}
    (h : List.Forall₂ (Use.Matched S slots slots') us vs) (hd : ∀ u ∈ us, 1 ≤ u.dimension) {u v : Usage}
    (huv : Matched S slots slots' u v) :
    Matched S slots slots' (grouped us u) (grouped vs v) := by
  induction h generalizing u v with
  | nil => exact huv
  | @cons x y us vs hxy _ ih =>
    obtain ⟨hx, hus⟩ := List.forall_mem_cons.1 hd
    have ho : x.occurrence.Alike slots slots' y.occurrence :=
      ⟨⟨x.dimension, hx, rfl, by rw [hxy.dimension]; rfl⟩, hxy.shape⟩
    show Matched S slots slots' (grouped us (u.add x.symbol x.occurrence)) (grouped vs (v.add y.symbol y.occurrence))
    exact ih hus (huv.add hS hxy.symbol ho)

theorem Matched.occurrencesOf (hS : Symbol.Faithful S) {u v : Usage} (h : Matched S slots slots' u v) {s t : Symbol}
    (hst : S s t) : List.Forall₂ (Occurrence.Alike slots slots') (u.occurrencesOf s) (v.occurrencesOf t) := by
  induction h with
  | nil => exact .nil
  | cons hef _ ih =>
    rw [occurrencesOf_cons, occurrencesOf_cons, hS hef.1 hst]
    split
    · exact hef.2
    · exact ih

def KnownAlike (x y : Occurrence × Shape) : Prop :=
  x.2.plain = y.2.plain ∧ ∃ d : Nat, 1 ≤ d ∧ x.1.dimension = .ofInt d ∧ y.1.dimension = .ofInt d

theorem sameAnswer_known {os ps : List Occurrence} (h : List.Forall₂ (Occurrence.Alike slots slots') os ps) :
    SameAnswer (List.Forall₂ KnownAlike) (known slots os) (known slots' ps) := by
  induction h with
  | nil => exact .nil
  | @cons o p os ps hop _ ih =>
    rw [known, known]
    refine hop.shape.bind fun s t hst => ih.bind fun xs ys hxy => ?_
    cases s with
    | none =>
      cases t with
      | none => exact hxy
      | some t => cases hst
    | some s =>
      cases t with
      | none => cases hst
      | some t => exact .cons ⟨Option.some.inj hst, hop.dimension⟩ hxy

theorem sameAnswer_checkAgainst (name name' : Label) {a b : Axis} (hab : a.plain = b.plain)
    {xs ys : List (Occurrence × Shape)} (h : List.Forall₂ KnownAlike xs ys) :
    SameAnswer (fun _ _ => True) (checkAgainst (.ok name) a xs) (checkAgainst (.ok name') b ys) := by
  induction h with
  | nil => exact trivial
  | @cons x y xs ys hxy _ ih =>
    obtain ⟨o, s⟩ := x
    obtain ⟨p, t⟩ := y
    obtain ⟨hst, d, hd, ho, hp⟩ :
        s.plain = t.plain ∧ ∃ d : Nat, 1 ≤ d ∧ o.dimension = .ofInt d ∧ p.dimension = .ofInt d :=
      hxy
    have hreport : o.reportedDimension = .ok (.int d) ∧ p.reportedDimension = .ok (.int d) := by
      unfold Occurrence.reportedDimension
      rw [ho, hp]
      exact ⟨rfl, rfl⟩
    rw [checkAgainst, checkAgainst, ho, hp, s.axisAt_ofInt hd, t.axisAt_ofInt hd, hreport.1, hreport.2]
    show SameAnswer _ (if (s.axis d).agrees a then _ else _) (if (t.axis d).agrees b then _ else _)
    rw [Axis.agrees_of_plain (Shape.axis_of_plain hst d) hab]
    split
    · exact ih
    · exact rfl

theorem sameAnswer_reference (name name' : Label) {os ps : List Occurrence}
    (h : List.Forall₂ (Occurrence.Alike slots slots') os ps) :
    SameAnswer (fun _ _ => True) (reference slots (.ok name) os) (reference slots' (.ok name') ps) := by
  unfold reference
  refine (sameAnswer_known h).bind fun xs ys hxy => ?_
  cases hxy with
  | nil => exact trivial
  | @cons x y xs ys hxy hrest =>
    obtain ⟨hst, d, hd, ho, hp⟩ := hxy
    dsimp only
    rw [ho, hp, Shape.axisAt_ofInt _ hd, Shape.axisAt_ofInt _ hd]
    exact (sameAnswer_checkAgainst name name' (Shape.axis_of_plain hst d) hrest).bind fun _ _ _ => trivial

theorem Matched.checked {u v : Usage} (h : Matched S slots slots' u v) :
    SameAnswer (fun _ _ => True) (checked slots u) (checked slots' v) := by
  induction h with
  | nil => exact trivial
  | @cons e f u v hef _ ih => exact (sameAnswer_reference e.1.name f.1.name hef.2).bind fun _ _ _ => ih

theorem Matched.axis (hS : Symbol.Faithful S) {u v : Usage} (h : Matched S slots slots' u v) (body body' : Value)
    {i j : OutputIndex} (hij : i.Matched S j) :
    SameAnswer (fun a b : Option Axis => a.map Axis.plain = b.map Axis.plain) (i.axis slots u body)
      (j.axis slots' v body') := by
  cases hij with
  | literal n m m' => exact rfl
  | @symbol s t hst =>
    rw [OutputIndex.axis_of_occurrencesOf, OutputIndex.axis_of_occurrencesOf]
    have hs := h.occurrencesOf hS hst
    revert hs
    generalize u.occurrencesOf s = us
    generalize v.occurrencesOf t = vs
    intro hs
    cases hs with
    | nil => exact rfl
    | @cons o p os ps hop _ =>
      obtain ⟨d, hd, ho, hp⟩ := hop.dimension
      dsimp only
      unfold Occurrence.axis
      refine hop.shape.bind fun x y hxy => ?_
      cases x with
      | none =>
        cases y with
        | none => exact rfl
        | some t => cases hxy
      | some s =>
        cases y with
        | none => cases hxy
        | some t =>
          dsimp only
          rw [ho, hp, s.axisAt_ofInt hd, t.axisAt_ofInt hd]
          exact congrArg some (Shape.axis_of_plain (Option.some.inj hxy) d)

end Usage

theorem shapesAlike_ofAxes {xs ys : List (Option Axis)}
    (h : List.Forall₂ (fun a b : Option Axis => a.map Axis.plain = b.map Axis.plain) xs ys) :
    ShapesAlike ((xs.mapM id).map Shape.ofAxes) ((ys.mapM id).map Shape.ofAxes) := by
  have hplain : ∀ zs : List (Option Axis), ((zs.mapM id).map Shape.ofAxes).map Shape.plain =
      ((zs.map (Option.map Axis.plain)).mapM id).map Shape.ofAxes := by
    intro zs
    rw [optionMapM_id_map, Option.map_map, Option.map_map]
    rfl
  rw [ShapesAlike, hplain, hplain, map_eq_of_forall₂ (h.imp fun a b hab => hab.symm)]

/-- **Outputs that correspond resolve alike over two bodies if the walk gets through both or neither, past uses of which
the same is known.** -/
theorem Build.sameAnswer_outputShape_of_matched {S : Symbol → Symbol → Prop} (hS : Symbol.Faithful S) {st st' : Store}
    {v w : Value} (hvw : v.WellIndexed ↔ w.WellIndexed)
    (huses : List.Forall₂ (Use.Matched S st.slots st'.slots) v.uses w.uses) {output output' : List OutputIndex}
    (houtput : List.Forall₂ (OutputIndex.Matched S) output output') :
    SameAnswer ShapesAlike (outcome (outputShape output v) st).1 (outcome (outputShape output' w) st').1 := by
  rw [answer_outputShape, answer_outputShape]
  by_cases hv : v.WellIndexed
  · have husage := Usage.matched_grouped hS huses v.one_le_dimension (.nil : Usage.Matched S st.slots st'.slots [] [])
    rw [v.collectUsage_eq hv, w.collectUsage_eq (hvw.1 hv)]
    refine husage.checked.bind fun _ _ _ => ?_
    have haxes := SameAnswer.mapM (fun i j hij => husage.axis hS v w hij) houtput
    exact haxes.bind fun xs ys hxy => shapesAlike_ofAxes hxy
  · rw [Value.collectUsage_of_not_wellIndexed hv, Value.collectUsage_of_not_wellIndexed fun hw => hv (hvw.2 hw)]
    exact rfl

theorem Build.sameAnswer_outputShape {st st' : Store} {v w : Value} (hvw : v.WellIndexed ↔ w.WellIndexed)
    (huses : List.Forall₂ (Use.Alike st.slots st'.slots) v.uses w.uses) (output : List OutputIndex) :
    SameAnswer ShapesAlike (outcome (outputShape output v) st).1 (outcome (outputShape output w) st').1 :=
  sameAnswer_outputShape_of_matched Symbol.faithful_eq hvw
    (huses.imp fun _ _ h => ⟨h.symbol, h.dimension, h.shape⟩) (List.forall₂_same.2 fun i _ => .refl i)

/-! ## Bodies that differ in source terms -/

def Slots.SameSlot (slots : Slots) (id id' : NodeId) : Prop :=
  (slots.get? id).map (Option.map Shape.plain) = (slots.get? id').map (Option.map Shape.plain)

def OutputIndex.plain : OutputIndex → OutputIndex
  | .literal n _ => .literal n Mark.unmarked
  | .symbol s => .symbol s

mutual

/-- Two nodes that differ in the source terms of arrays by index notation alone.  What stands around such an array is
built anew, with identities and marks of its own; everything else is shared. -/
inductive Node.SameButSources (slots : Slots) : Node → Node → Prop where
  | shared (n : Node) : Node.SameButSources slots n n
  | term {id id' : NodeId} {op : Callable} {args args' : List Value} {am am' : Mark} {t t' : DeclaredType} {tm tm' : Mark}
      (hargs : SameButSourcesAll slots args args') (ht : t.plain = t'.plain) (hslot : slots.SameSlot id id') :
      Node.SameButSources slots (.term id op args am t tm) (.term id' op args' am' t' tm')
  | arrayOp {id id' : NodeId} {output output' : List OutputIndex} {om om' : Mark} {body body' : Value} {reduce : Callable}
      {source source' : Option Node} {k : Container} {e e' : ElementType} {tm tm' : Mark}
      (houtput : output.map OutputIndex.plain = output'.map OutputIndex.plain)
      (hbody : Value.SameButSources slots body body') (he : e.map Dtype.plain = e'.map Dtype.plain)
      (hslot : slots.SameSlot id id') :
      Node.SameButSources slots (.arrayOp id output om body reduce source k e tm)
        (.arrayOp id' output' om' body' reduce source' k e' tm')

inductive Value.SameButSources (slots : Slots) : Value → Value → Prop where
  | shared (v : Value) : Value.SameButSources slots v v
  | node {n m : Node} (h : Node.SameButSources slots n m) : Value.SameButSources slots (.node n) (.node m)

inductive SameButSourcesAll (slots : Slots) : List Value → List Value → Prop where
  | nil : SameButSourcesAll slots [] []
  | cons {v w : Value} {vs ws : List Value} (h : Value.SameButSources slots v w) (hs : SameButSourcesAll slots vs ws) :
      SameButSourcesAll slots (v :: vs) (w :: ws)

end

theorem Slots.sameAnswer_shapeOf {slots slots' : Slots} {n m : Node}
    (h : (slots.get? n.id).map (Option.map Shape.plain) = (slots'.get? m.id).map (Option.map Shape.plain))
    (hinitial : n.initialShape = m.initialShape) :
    SameAnswer ShapesAlike (slots.shapeOf (.node n)) (slots'.shapeOf (.node m)) := by
  cases hn : slots.get? n.id with
  | none =>
    cases hm : slots'.get? m.id with
    | none =>
      rw [Slots.shapeOf_of_no_slot hn, Slots.shapeOf_of_no_slot hm, hinitial]
      exact .refl ShapesAlike.refl _
    | some t =>
      rw [hn, hm] at h
      cases h
  | some s =>
    cases hm : slots'.get? m.id with
    | none =>
      rw [hn, hm] at h
      cases h
    | some t =>
      rw [hn, hm] at h
      rw [Slots.shapeOf_of_slot hn, Slots.shapeOf_of_slot hm]
      exact Option.some.inj h

section

variable {slots : Slots} {v w : Value}

theorem Node.SameButSources.type_eq {n m : Node} (h : n.SameButSources slots m) : n.type.plain = m.type.plain := by
  cases h with
  | shared => rfl
  | term _ ht _ => exact ht
  | @arrayOp _ _ output output' _ _ _ _ _ _ _ k e e' _ _ houtput _ he _ =>
    have hlength : output.length = output'.length := by
      rw [← List.length_map OutputIndex.plain, houtput, List.length_map]
    show DeclaredType.array k (e.map Dtype.plain) (some output.length) =
      .array k (e'.map Dtype.plain) (some output'.length)
    rw [he, hlength]

theorem Node.SameButSources.shapeOf {n m : Node} (h : n.SameButSources slots m) :
    SameAnswer ShapesAlike (slots.shapeOf (.node n)) (slots.shapeOf (.node m)) := by
  have htype := DeclaredType.isArray_of_plain h.type_eq
  cases h with
  | shared => exact .refl ShapesAlike.refl _
  | @term id id' op args args' am am' t t' tm tm' _ _ hslot =>
    refine Slots.sameAnswer_shapeOf hslot ?_
    show Except.ok (if t.isArray then none else some Shape.scalar) = .ok (if t'.isArray then none else some Shape.scalar)
    rw [show t.isArray = t'.isArray from htype]
  | arrayOp _ _ _ hslot => exact Slots.sameAnswer_shapeOf hslot rfl

theorem Value.SameButSources.shapeOf (h : v.SameButSources slots w) :
    SameAnswer ShapesAlike (slots.shapeOf v) (slots.shapeOf w) := by
  cases h with
  | shared => exact .refl ShapesAlike.refl _
  | node h => exact h.shapeOf

theorem sameAnswer_bodyElementType_refl (v : Value) :
    SameAnswer (fun e e' : ElementType => e.map Dtype.plain = e'.map Dtype.plain) (bodyElementType v)
      (bodyElementType v) :=
  .refl (R := fun e e' : ElementType => e.map Dtype.plain = e'.map Dtype.plain) (fun _ => rfl) _

theorem sameAnswer_bodyElementType {n m : Node} (h : n.type.plain = m.type.plain) :
    SameAnswer (fun e e' : ElementType => e.map Dtype.plain = e'.map Dtype.plain) (bodyElementType (.node n))
      (bodyElementType (.node m)) := by
  have hdeclared : ∀ k : Node, (Value.node k).declaredType = .ok k.type := fun _ => rfl
  unfold bodyElementType
  rw [hdeclared n, hdeclared m]
  cases hn : n.type <;> cases hm : m.type <;> rw [hn, hm] at h
  · exact DeclaredType.scalar.inj h
  · cases h
  · cases h
  · exact rfl

theorem Value.SameButSources.bodyElementType (h : v.SameButSources slots w) :
    SameAnswer (fun e e' : ElementType => e.map Dtype.plain = e'.map Dtype.plain) (bodyElementType v)
      (bodyElementType w) := by
  cases h with
  | shared => exact sameAnswer_bodyElementType_refl v
  | node h => exact sameAnswer_bodyElementType h.type_eq

theorem Value.SameButSources.symbol? (h : v.SameButSources slots w) : v.symbol? = w.symbol? := by
  cases h with
  | shared => rfl
  | node h => cases h <;> rfl

theorem Use.Alike.refl (u : Use) : u.Alike slots slots u := ⟨rfl, rfl, .refl ShapesAlike.refl _⟩

theorem forall₂_alike_refl (us : List Use) : List.Forall₂ (Use.Alike slots slots) us us :=
  List.forall₂_same.2 fun u _ => .refl u

theorem keyUses_alike {array array' : Value} (h : array.SameButSources slots array') {keys keys' : List Value}
    (hk : SameButSourcesAll slots keys keys') (d : Nat) :
    List.Forall₂ (Use.Alike slots slots) (keyUses array d keys) (keyUses array' d keys') := by
  induction keys generalizing keys' d with
  | nil =>
    cases hk
    exact .nil
  | cons key keys ih =>
    cases hk with
    | cons hkey hkeys =>
      rw [keyUses_cons, keyUses_cons, ← hkey.symbol?]
      refine List.rel_append ?_ (ih hkeys (d + 1))
      cases key.symbol? with
      | none => exact .nil
      | some s => exact .cons ⟨rfl, rfl, h.shapeOf⟩ .nil

end

/-! ## Source terms in which nothing is indexed -/

mutual

/-- The source terms that a walk comes to. -/
def Node.sources : Node → List (Option Node)
  | .symbol _ => []
  | .constant _ _ _ => []
  | .term _ op args _ _ _ => if op.isGetitem then [] else sourcesOfAll args
  | .arrayOp _ _ _ body _ source _ _ _ => body.sources ++ [source]
termination_by structural n => n

def Value.sources : Value → List (Option Node)
  | .node n => n.sources
  | _ => []
termination_by structural v => v

def sourcesOfAll : List Value → List (Option Node)
  | [] => []
  | v :: vs => v.sources ++ sourcesOfAll vs
termination_by structural vs => vs

end

def SilentSource (source : Option Node) : Prop := wellIndexedSource source ∧ usesOfSource source = []

/-- The walk meets nothing in the source terms that it comes to. -/
def Value.SilentSources (v : Value) : Prop := ∀ s ∈ v.sources, SilentSource s

mutual

theorem Node.SameButSources.walked {slots : Slots} : ∀ {n m : Node}, n.SameButSources slots m →
    (∀ s ∈ n.sources, SilentSource s) → (∀ s ∈ m.sources, SilentSource s) →
    (n.WellIndexed ↔ m.WellIndexed) ∧ List.Forall₂ (Use.Alike slots slots) n.uses m.uses
  | _, _, .shared n, _, _ => ⟨Iff.rfl, forall₂_alike_refl _⟩
  | _, _, @Node.SameButSources.term _ id id' op args args' am am' t t' tm tm' hargs ht hslot, hn, hm => by
    rw [Node.sources] at hn hm
    rw [Node.WellIndexed, Node.WellIndexed]
    by_cases hop : op.isGetitem = true
    · rw [if_pos hop, if_pos hop]
      cases hargs with
      | nil => exact ⟨Iff.rfl, forall₂_alike_refl _⟩
      | cons harray hkeys =>
        rw [Node.uses_indexing hop, Node.uses_indexing hop]
        exact ⟨⟨fun _ => List.cons_ne_nil _ _, fun _ => List.cons_ne_nil _ _⟩, keyUses_alike harray hkeys 1⟩
    · rw [if_neg hop] at hn hm
      rw [if_neg hop, if_neg hop, Node.uses_application (Bool.eq_false_iff.2 hop),
        Node.uses_application (Bool.eq_false_iff.2 hop)]
      exact SameButSourcesAll.walked hargs hn hm
  | _, _, @Node.SameButSources.arrayOp _ _ _ _ _ _ _ body body' _ source source' _ _ _ _ _ _ hbody _ _, hn, hm => by
    rw [Node.sources] at hn hm
    obtain ⟨hwi, huses⟩ := Value.SameButSources.walked hbody (fun s hs => hn s (List.mem_append_left _ hs))
      fun s hs => hm s (List.mem_append_left _ hs)
    obtain ⟨hws, hus⟩ := hn source (List.mem_append_right _ List.mem_cons_self)
    obtain ⟨hws', hus'⟩ := hm source' (List.mem_append_right _ List.mem_cons_self)
    rw [Node.WellIndexed, Node.WellIndexed, Node.uses, Node.uses, hus, hus', List.append_nil, List.append_nil]
    exact ⟨⟨fun h => ⟨hwi.1 h.1, hws'⟩, fun h => ⟨hwi.2 h.1, hws⟩⟩, huses⟩
termination_by structural _ _ h => h

theorem Value.SameButSources.walked {slots : Slots} : ∀ {v w : Value}, v.SameButSources slots w →
    v.SilentSources → w.SilentSources →
    (v.WellIndexed ↔ w.WellIndexed) ∧ List.Forall₂ (Use.Alike slots slots) v.uses w.uses
  | _, _, .shared v, _, _ => ⟨Iff.rfl, forall₂_alike_refl _⟩
  | _, _, .node h, hv, hw => Node.SameButSources.walked h hv hw
termination_by structural _ _ h => h

theorem SameButSourcesAll.walked {slots : Slots} : ∀ {vs ws : List Value}, SameButSourcesAll slots vs ws →
    (∀ s ∈ sourcesOfAll vs, SilentSource s) → (∀ s ∈ sourcesOfAll ws, SilentSource s) →
    (wellIndexedAll vs ↔ wellIndexedAll ws) ∧ List.Forall₂ (Use.Alike slots slots) (usesOfAll vs) (usesOfAll ws)
  | _, _, .nil, _, _ => ⟨Iff.rfl, .nil⟩
  | _, _, @SameButSourcesAll.cons _ v w vs ws h hs, hv, hw => by
    rw [sourcesOfAll] at hv hw
    obtain ⟨hwi, huses⟩ := Value.SameButSources.walked h (fun s hs => hv s (List.mem_append_left _ hs))
      fun s hs => hw s (List.mem_append_left _ hs)
    obtain ⟨hwis, husess⟩ := SameButSourcesAll.walked hs (fun s hs => hv s (List.mem_append_right _ hs))
      fun s hs => hw s (List.mem_append_right _ hs)
    exact ⟨and_congr hwi hwis, List.rel_append huses husess⟩
termination_by structural _ _ h => h

end

mutual

theorem Node.SameButSources.length_sources {slots : Slots} : ∀ {n m : Node}, n.SameButSources slots m →
    n.sources.length = m.sources.length
  | _, _, .shared n => rfl
  | _, _, @Node.SameButSources.term _ _ _ op args args' _ _ _ _ _ _ hargs _ _ => by
    rw [Node.sources, Node.sources]
    split
    · rfl
    · exact SameButSourcesAll.length_sources hargs
  | _, _, @Node.SameButSources.arrayOp _ _ _ _ _ _ _ body body' _ _ _ _ _ _ _ _ _ hbody _ _ => by
    rw [Node.sources, Node.sources, List.length_append, List.length_append, Value.SameButSources.length_sources hbody]
    rfl
termination_by structural _ _ h => h

theorem Value.SameButSources.length_sources {slots : Slots} : ∀ {v w : Value}, v.SameButSources slots w →
    v.sources.length = w.sources.length
  | _, _, .shared v => rfl
  | _, _, .node h => Node.SameButSources.length_sources h
termination_by structural _ _ h => h

theorem SameButSourcesAll.length_sources {slots : Slots} : ∀ {vs ws : List Value}, SameButSourcesAll slots vs ws →
    (sourcesOfAll vs).length = (sourcesOfAll ws).length
  | _, _, .nil => rfl
  | _, _, .cons h hs => by
    rw [sourcesOfAll, sourcesOfAll, List.length_append, List.length_append, Value.SameButSources.length_sources h,
      SameButSourcesAll.length_sources hs]
termination_by structural _ _ h => h

end

/-! ## Other source terms in the same places -/

mutual

/-- The node with `source` in place of every source term that a walk comes to. -/
def Node.withSources (source : Option Node) : Node → Node
  | .symbol s => .symbol s
  | .constant id d tm => .constant id d tm
  | .term id op args am t tm => .term id op (if op.isGetitem then args else withSourcesOfAll source args) am t tm
  | .arrayOp id output om body reduce _ k e tm => .arrayOp id output om (body.withSources source) reduce source k e tm
termination_by structural n => n

def Value.withSources (source : Option Node) : Value → Value
  | .node n => .node (n.withSources source)
  | v => v
termination_by structural v => v

def withSourcesOfAll (source : Option Node) : List Value → List Value
  | [] => []
  | v :: vs => v.withSources source :: withSourcesOfAll source vs
termination_by structural vs => vs

end

section

variable (slots : Slots) (source : Option Node)

theorem sameButSourcesAll_refl (vs : List Value) : SameButSourcesAll slots vs vs := by
  induction vs with
  | nil => exact .nil
  | cons v vs ih => exact .cons (.shared v) ih

mutual

theorem Node.sameButSources_withSources : ∀ n : Node, n.SameButSources slots (n.withSources source)
  | .symbol s => .shared _
  | .constant id d tm => .shared _
  | .term id op args am t tm => by
    rw [Node.withSources]
    refine .term ?_ rfl rfl
    split
    · exact sameButSourcesAll_refl slots args
    · exact sameButSourcesAll_withSources args
  | .arrayOp id output om body reduce _ k e tm => .arrayOp rfl (Value.sameButSources_withSources body) rfl rfl
termination_by structural n => n

theorem Value.sameButSources_withSources : ∀ v : Value, v.SameButSources slots (v.withSources source)
  | .node n => .node (Node.sameButSources_withSources n)
  | .none | .bool _ | .int .. | .float .. | .complex .. | .scalar .. | .text .. | .list .. | .tuple .. | .dict ..
  | .range _ | .slice .. | .unknown | .shape _ | .dtype _ | .kind _ | .code _ | .type .. | .array _ | .object _
  | .callable _ | .occurrence .. | .view .. | .space .. | .registry _ | .diagnostic .. | .iterator .. => .shared _
termination_by structural v => v

theorem sameButSourcesAll_withSources : ∀ vs : List Value, SameButSourcesAll slots vs (withSourcesOfAll source vs)
  | [] => .nil
  | v :: vs => .cons (Value.sameButSources_withSources v) (sameButSourcesAll_withSources vs)
termination_by structural vs => vs

end

variable {slots} {source}

mutual

theorem Node.wellIndexed_of_withSources : ∀ n : Node, (n.withSources source).WellIndexed →
    n.sources = [] ∨ wellIndexedSource source
  | .symbol s, _ => .inl rfl
  | .constant id d tm, _ => .inl rfl
  | .term id op args am t tm, h => by
    rw [Node.withSources, Node.WellIndexed] at h
    rw [Node.sources]
    by_cases hop : op.isGetitem = true
    · exact .inl (if_pos hop)
    · rw [if_neg hop, if_neg hop] at h
      rw [if_neg hop]
      exact wellIndexedAll_of_withSources args h
  | .arrayOp id output om body reduce _ k e tm, h => .inr h.2
termination_by structural n => n

/-- A walk does not get past an indexing of nothing that stands in a source term. -/
theorem Value.wellIndexed_of_withSources : ∀ v : Value, (v.withSources source).WellIndexed →
    v.sources = [] ∨ wellIndexedSource source
  | .node n, h => Node.wellIndexed_of_withSources n h
  | .none, _ | .bool _, _ | .int .., _ | .float .., _ | .complex .., _ | .scalar .., _ | .text .., _ | .list .., _
  | .tuple .., _ | .dict .., _ | .range _, _ | .slice .., _ | .unknown, _ | .shape _, _ | .dtype _, _ | .kind _, _
  | .code _, _ | .type .., _ | .array _, _ | .object _, _ | .callable _, _ | .occurrence .., _ | .view .., _
  | .space .., _ | .registry _, _ | .diagnostic .., _ | .iterator .., _ => .inl rfl
termination_by structural v => v

theorem wellIndexedAll_of_withSources : ∀ vs : List Value, wellIndexedAll (withSourcesOfAll source vs) →
    sourcesOfAll vs = [] ∨ wellIndexedSource source
  | [], _ => .inl rfl
  | v :: vs, h => by
    rcases Value.wellIndexed_of_withSources v h.1 with hv | hs
    · rcases wellIndexedAll_of_withSources vs h.2 with hvs | hs
      · exact .inl (by rw [sourcesOfAll, hv, hvs, List.append_nil])
      · exact .inr hs
    · exact .inr hs
termination_by structural vs => vs

end

end

/-! ## Arrays over such bodies -/

def Value.ofSource : Option Node → Value
  | Option.none => .none
  | some n => .node n

structure ArrayOpParts.Alike (O : List OutputIndex → List OutputIndex → Prop) (S : Option Node → Option Node → Prop)
    (p q : ArrayOpParts) : Prop where
  output : O p.output q.output
  container : p.container = q.container
  source : S p.source q.source
  eltype : p.eltype.map Dtype.plain = q.eltype.map Dtype.plain

theorem ArrayOpParts.sameAnswer_read {output output' v w source source' : Value}
    {O : List OutputIndex → List OutputIndex → Prop} {S : Option Node → Option Node → Prop}
    (ho : SameAnswer O output.toOutput output'.toOutput) (hs : SameAnswer S source.toSource source'.toSource)
    (h : SameAnswer (fun e e' : ElementType => e.map Dtype.plain = e'.map Dtype.plain) (bodyElementType v)
      (bodyElementType w)) (reduce container : Value) :
    SameAnswer (Alike O S) (read output v reduce source container) (read output' w reduce source' container) := by
  unfold read
  refine ho.bind fun out out' hout => ?_
  cases reduce.callable? with
  | none => exact rfl
  | some f =>
    refine hs.bind fun src src' hsrc => h.bind fun e e' he => ?_
    exact (SameAnswer.refl (fun k => rfl) container.toContainer).bind fun k k' hk => ⟨hout, hk, hsrc, he⟩

namespace Build

/-- Arrays of one container, element type, rank and shape were built, or both refused for the same. -/
def SameBuilt (x y : Except Fault Node × Store) : Prop :=
  SameAnswer (fun n m => n.type.plain = m.type.plain ∧
    SameAnswer ShapesAlike (x.2.slots.shapeOf (.node n)) (y.2.slots.shapeOf (.node m))) x.1 y.1

/-- The same is built over two bodies, whatever the output, the reduction, the container and the source terms. -/
def SameArrays (st : Store) (v w : Value) : Prop :=
  ∀ (output reduce container : Value) (s t : Option Node),
    SameBuilt (outcome (arrayOp output v reduce (.ofSource s) container) st)
      (outcome (arrayOp output w reduce (.ofSource t) container) st)

theorem sameBuilt_arrayOp {st st' : Store} (hw : st.WellFormed) (hw' : st'.WellFormed)
    {output output' body body' reduce source source' container : Value}
    {O : List OutputIndex → List OutputIndex → Prop} {S : Option Node → Option Node → Prop}
    (hread : SameAnswer (ArrayOpParts.Alike O S) (ArrayOpParts.read output body reduce source container)
      (ArrayOpParts.read output' body' reduce source' container))
    (hlength : ∀ out out', O out out' → out.length = out'.length)
    (hshape : ∀ out out', O out out' → SameAnswer ShapesAlike (outcome (outputShape out body) st).1
      (outcome (outputShape out' body') st').1) :
    SameBuilt (outcome (arrayOp output body reduce source container) st)
      (outcome (arrayOp output' body' reduce source' container) st') := by
  unfold SameBuilt
  rcases hread.cases with ⟨p, q, hp, hq, hpq⟩ | ⟨f, g, hf, hg, hfg⟩
  · rcases (hshape _ _ hpq.output).cases with ⟨info, info', hs, hs', hinfo⟩ | ⟨f, g, hf, hg, hfg⟩
    · obtain ⟨n, st₁, hx, hn⟩ := arrayOp_of_shape hw hp hs
      obtain ⟨m, st₂, hy, hm⟩ := arrayOp_of_shape hw' hq hs'
      obtain ⟨a, ha, hplain⟩ := hn.shape
      obtain ⟨b, hb, hplain'⟩ := hm.shape
      rw [hx, hy]
      refine ⟨?_, ?_⟩
      · rw [hn.type_eq, hm.type_eq, DeclaredType.plain, DeclaredType.plain, hpq.container, hpq.eltype,
          hlength _ _ hpq.output]
      · rw [ha, hb]
        exact hplain.trans (hinfo.trans hplain'.symm)
    · rw [arrayOp_of_shape_error hw hp hf, arrayOp_of_shape_error hw' hq hg]
      exact hfg
  · rw [arrayOp_of_read_error hw hf, arrayOp_of_read_error hw' hg]
    exact hfg

variable {st : Store} {body body' : Value}

theorem sameArrays_of_outputShape (hw : st.WellFormed)
    (htype : SameAnswer (fun e e' : ElementType => e.map Dtype.plain = e'.map Dtype.plain) (bodyElementType body)
      (bodyElementType body'))
    (hshape : ∀ output, SameAnswer ShapesAlike (outcome (outputShape output body) st).1
      (outcome (outputShape output body') st).1) : SameArrays st body body' := by
  intro output reduce container s t
  have hsource : SameAnswer (fun _ _ => True) (Value.ofSource s).toSource (Value.ofSource t).toSource := by
    cases s <;> cases t <;> exact trivial
  exact sameBuilt_arrayOp hw hw (ArrayOpParts.sameAnswer_read (.refl (fun _ => rfl) _) hsource htype reduce container)
    (fun _ _ h => congrArg List.length h) (fun out _ h => h ▸ hshape out)

/-- **Source terms in which nothing is indexed have no say.** -/
theorem sameArrays_of_silent (hw : st.WellFormed) (h : body.SameButSources st.slots body') (hs : body.SilentSources)
    (hs' : body'.SilentSources) : SameArrays st body body' := by
  obtain ⟨hwi, huses⟩ := h.walked hs hs'
  exact sameArrays_of_outputShape hw h.bodyElementType fun output => sameAnswer_outputShape hwi huses output

theorem silentSources_of_sources_eq_nil {v : Value} (h : v.sources = []) : v.SilentSources := by
  rw [Value.SilentSources, h]
  exact fun s hs => nomatch hs

/-- The same is built over a body whatever source terms stand in it. -/
def Indifferent (st : Store) (body : Value) : Prop :=
  ∀ body', body.SameButSources st.slots body' → SameArrays st body body'

theorem indifferent_of_no_sources (hw : st.WellFormed) (h : body.sources = []) : Indifferent st body := by
  intro body' hsame
  have hlength := hsame.length_sources
  rw [h] at hlength
  exact sameArrays_of_silent hw hsame (silentSources_of_sources_eq_nil h)
    (silentSources_of_sources_eq_nil (List.eq_nil_of_length_eq_zero hlength.symm))

def total (n : Node) : Build Node :=
  arrayOp (.ofItems []) (.node n) (.callable (.primitive .add)) (.ofSource none) (.kind .plain)

theorem total_of_not_wellIndexed (hw : st.WellFormed) {n : Node} (h : ¬ n.WellIndexed) :
    (outcome (total n) st).1 = .error (.slip .value) := by
  obtain ⟨e, hread⟩ := ArrayOpParts.read_node (show (Value.ofItems []).toOutput = .ok [] from rfl) n (.primitive .add)
    (show (Value.ofSource none).toSource = .ok none from rfl) .plain
  exact arrayOp_of_shape_error hw hread (outputShape_of_not_wellIndexed _ h)

/-- Where the walk gets through and can ask for every shape, only axes that differ can be in the way. -/
theorem total_of_readable (hw : st.WellFormed) {n : Node} (hn : (Value.node n).WellIndexed)
    (hr : ∀ u ∈ (Value.node n).uses, ∃ info, st.slots.shapeOf u.array = .ok info) :
    (∃ x, (outcome (total n) st).1 = .ok x) ∨ FailsWith (outcome (total n) st).1 .dimensionMismatch := by
  obtain ⟨e, hread⟩ := ArrayOpParts.read_node (show (Value.ofItems []).toOutput = .ok [] from rfl) n (.primitive .add)
    (show (Value.ofSource none).toSource = .ok none from rfl) .plain
  have hread' : ∀ u ∈ (Value.node n).uses, u.Readable st.slots :=
    fun u hu => ⟨hr u hu, (Value.node n).one_le_dimension u hu⟩
  by_cases hc : Conflicting st.slots (Value.node n).uses
  · obtain ⟨f, hf, c, rfl, hk⟩ := outputShape_of_conflicting [] hn hread' hc
    exact .inr ⟨c, arrayOp_of_shape_error hw hread hf, hk⟩
  · rcases outputShape_of_accepted [] ⟨hn, hread', hc⟩ with ⟨info, hinfo, -⟩ | ⟨s, -, hs, -⟩
    · obtain ⟨x, st', hx, -⟩ := arrayOp_of_shape hw hread hinfo
      exact .inl ⟨x, by rw [total, hx]⟩
    · cases hs

/-- An element of no array: there is nothing that it indexes. -/
def elementOfNothing : Node := .term 0 (.primitive .getitem) [] 0 (.scalar none) 0

/-- A body is not indifferent to a source term that the walk comes to: one that is an element of nothing is in the way,
while none at all is not. -/
theorem no_sources_of_indifferent (hw : st.WellFormed) (hown : (body.withSources none).WellIndexed)
    (hr : ∀ u ∈ (body.withSources none).uses, ∃ info, st.slots.shapeOf u.array = .ok info)
    (h : Indifferent st body) : body.sources = [] := by
  cases body with
  | node n =>
    refine Classical.not_not.1 fun hne => ?_
    have hbad : ¬ (n.withSources (some elementOfNothing)).WellIndexed := fun hwi =>
      (n.wellIndexed_of_withSources hwi).elim hne fun hnothing => hnothing rfl
    have hwithout := h _ (Value.sameButSources_withSources st.slots none (.node n)) (.ofItems [])
      (.callable (.primitive .add)) (.kind .plain) none none
    have hwith := h _ (Value.sameButSources_withSources st.slots (some elementOfNothing) (.node n)) (.ofItems [])
      (.callable (.primitive .add)) (.kind .plain) none none
    change SameBuilt (outcome (total n) st) (outcome (total (n.withSources none)) st) at hwithout
    change SameBuilt (outcome (total n) st) (outcome (total (n.withSources (some elementOfNothing))) st) at hwith
    unfold SameBuilt at hwithout hwith
    rw [total_of_not_wellIndexed hw hbad] at hwith
    rcases hwith.cases with ⟨x, y, -, hy, -⟩ | ⟨f, g, hf, hg, hfg⟩
    · cases hy
    · cases hg
      rw [hf] at hwithout
      rcases total_of_readable hw hown hr with ⟨x, hx⟩ | ⟨c, hc, hk⟩
      · rw [hx] at hwithout
        exact hwithout.elim
      · rw [hc] at hwithout
        exact absurd (hfg.symm.trans hwithout) (by simp [Fault.faultClass])
  | _ => rfl

/-- **When source terms have a say.**  They have none if the walk comes to such only in which nothing is indexed.  And
where all that is indexed outside of them can be asked for its shape, a body is indifferent to what stands in them
exactly if the walk comes to none. -/
theorem indifferent_iff_no_sources (hw : st.WellFormed) :
    (∀ body', body.SameButSources st.slots body' → body.SilentSources → body'.SilentSources →
      SameArrays st body body') ∧
    ((body.withSources none).WellIndexed →
      (∀ u ∈ (body.withSources none).uses, ∃ info, st.slots.shapeOf u.array = .ok info) →
      (Indifferent st body ↔ body.sources = [])) :=
  ⟨fun _ => sameArrays_of_silent hw,
    fun hown hr => ⟨no_sources_of_indifferent hw hown hr, indifferent_of_no_sources hw⟩⟩

/-- The array of the elements `a[i]` with a constant as source term, or with none: arrays over the two are the same, and
yet a body with such a place for a source term is not indifferent to what stands there. -/
theorem indifferent_iff_no_sources_constant :
    let i : Symbol := ⟨3, .ofString "i", .scalar (some .index), 4⟩
    let vector (id : NodeId) : Node := .constant id (.array ⟨0, [some 3], none, .filled (.int 0)⟩) (id + 1)
    let element : Node := .term 9 (.primitive .getitem) [.node (vector 5), .node (.symbol i)] 10 (.scalar none) 11
    let elements (id : NodeId) (source : Option Node) : Value :=
      .node (.arrayOp id [.symbol i] (id + 1) (.node element) (.primitive .add) source .plain none (id + 2))
    Store.empty.WellFormed ∧ (elements 12 none).SameButSources Store.empty.slots (elements 15 (some (vector 7))) ∧
      (elements 12 none).SilentSources ∧ (elements 15 (some (vector 7))).SilentSources ∧
      SameArrays .empty (elements 12 none) (elements 15 (some (vector 7))) ∧
      ((elements 12 none).withSources none).WellIndexed ∧
      (∀ u ∈ ((elements 12 none).withSources none).uses, ∃ info, Store.empty.slots.shapeOf u.array = .ok info) ∧
      ¬ Indifferent .empty (elements 12 none) := by
  intro i vector element elements
  have hsame : (elements 12 none).SameButSources Store.empty.slots (elements 15 (some (vector 7))) :=
    .node (.arrayOp rfl (.shared _) rfl rfl)
  have hsilent : (elements 12 none).SilentSources := by
    intro s hs
    obtain rfl : s = none := List.mem_singleton.1 hs
    exact ⟨trivial, rfl⟩
  have hsilent' : (elements 15 (some (vector 7))).SilentSources := by
    intro s hs
    obtain rfl : s = some (vector 7) := List.mem_singleton.1 hs
    exact ⟨trivial, rfl⟩
  have hown : ((elements 12 none).withSources none).WellIndexed := ⟨List.cons_ne_nil _ _, trivial⟩
  have hr : ∀ u ∈ ((elements 12 none).withSources none).uses, ∃ info, Store.empty.slots.shapeOf u.array = .ok info := by
    intro u hu
    obtain rfl : u = ⟨i, .node (vector 5), 1⟩ := List.mem_singleton.1 hu
    exact ⟨_, rfl⟩
  obtain ⟨harrays, hiff⟩ := @indifferent_iff_no_sources _ (elements 12 none) Store.empty_wellFormed
  refine ⟨Store.empty_wellFormed, hsame, hsilent, hsilent', harrays _ hsame hsilent hsilent', hown, hr, fun h => ?_⟩
  cases (hiff hown hr).1 h

/-- The array of the elements `a[i]` of a vector of length three, as a body of its own: an array over it is built, and
refused as soon as `b[i]` stands as the source term in it, where `b` is a vector of length four. -/
theorem not_sameArrays_elements :
    let i : Symbol := ⟨3, .ofString "i", .scalar (some .index), 4⟩
    let vector (id : NodeId) (name : String) : Node := .symbol ⟨id, .ofString name, .array .plain none (some 1), id + 1⟩
    let element (id : NodeId) (array : Node) : Node :=
      .term id (.primitive .getitem) [.node array, .node (.symbol i)] (id + 1) (.scalar none) (id + 2)
    let elements (id : NodeId) (source : Option Node) : Value :=
      .node (.arrayOp id [.symbol i] (id + 1) (.node (element 9 (vector 5 "a"))) (.primitive .add) source .plain none
        (id + 2))
    let lengths : Slots :=
      ⟨[(5, some (.ofAxes [.ofLength 3])), (7, some (.ofAxes [.ofLength 4])), (15, some (.ofAxes [.ofLength 3])),
        (18, some (.ofAxes [.ofLength 3]))]⟩
    let st : Store := { Store.empty with next := 21, slots := lengths }
    let arrayOver (body : Value) : Build Node :=
      arrayOp (.ofItems [.node (.symbol i)]) body (.callable (.primitive .add)) .none (.kind .plain)
    st.WellFormed ∧
      (elements 15 none).SameButSources st.slots (elements 18 (some (element 12 (vector 7 "b")))) ∧
      (∃ n st' shape, outcome (arrayOver (elements 15 none)) st = (.ok n, st') ∧
        st'.slots.shapeOf (.node n) = .ok (some shape) ∧ shape.plain = .ofAxes [.ofLength 3]) ∧
      FailsWith (outcome (arrayOver (elements 18 (some (element 12 (vector 7 "b"))))) st).1 .dimensionMismatch ∧
      ¬ SameArrays st (elements 15 none) (elements 18 (some (element 12 (vector 7 "b")))) := by
  intro i vector element elements lengths st arrayOver
  have hw : st.WellFormed := by
    intro id hid
    have hne : ∀ k, k < 21 → (id == k) = false := fun k hk => beq_false_of_ne (Nat.ne_of_gt (Nat.lt_of_lt_of_le hk hid))
    show List.lookup id lengths.entries = none
    simp only [lengths, List.lookup_cons, hne 5 (by decide), hne 7 (by decide), hne 15 (by decide), hne 18 (by decide),
      List.lookup_nil]
  have hbuilt : ∃ n st' shape, outcome (arrayOver (elements 15 none)) st = (.ok n, st') ∧
      st'.slots.shapeOf (.node n) = .ok (some shape) ∧ shape.plain = .ofAxes [.ofLength 3] := ⟨_, _, _, rfl, rfl, rfl⟩
  have hfails : FailsWith (outcome (arrayOver (elements 18 (some (element 12 (vector 7 "b"))))) st).1 .dimensionMismatch :=
    ⟨_, rfl, rfl⟩
  refine ⟨hw, .node (.arrayOp rfl (.shared _) rfl rfl), hbuilt, hfails, fun h => ?_⟩
  obtain ⟨n, st', -, hn, -⟩ := hbuilt
  obtain ⟨c, hc, -⟩ := hfails
  have hsame := h (.ofItems [.node (.symbol i)]) (.callable (.primitive .add)) (.kind .plain) none none
  change SameBuilt (outcome (arrayOver (elements 15 none)) st)
    (outcome (arrayOver (elements 18 (some (element 12 (vector 7 "b"))))) st)
    at hsame
  unfold SameBuilt at hsame
  rw [hn, hc] at hsame
  exact hsame

end Build

end ArrayTyping

import ArrayTyping.Proofs.Resolution
import ArrayTyping.Script.Shapes
/-!
# ConflictReports — which conflict is reported

A usage is checked symbol by symbol, and the occurrences of a symbol in their order.  Those on arrays of unknown shape
are passed over, the first of the others gives the axis that is expected, and the first one after it that runs along
another axis is reported.  So the report is about the earliest symbol, and there about the earliest occurrence, that
there is a conflict at.  Only an occurrence that cannot be read, or cannot be reported, keeps the check from that.
-/
namespace ArrayTyping

open Build (outcome)

variable {slots : Slots}

/-! ## One occurrence -/

namespace Occurrence

variable {o : Occurrence}

def onKnown (slots : Slots) (o : Occurrence) : Bool :=
  match slots.shapeOf o.array with
  | .ok (some _) => true
  | _ => false

/-- Reading the axis ends with a fault, or putting the dimension into a report does. -/
def Fails (slots : Slots) (o : Occurrence) (f : Fault) : Prop :=
  o.axis slots = .error f ∨ o.reportedDimension = .error f

theorem onKnown_of_known {s : Shape} (h : slots.shapeOf o.array = .ok (some s)) : o.onKnown slots = true := by
  rw [onKnown, h]

theorem onKnown_of_unknown (h : slots.shapeOf o.array = .ok none) : o.onKnown slots = false := by
  rw [onKnown, h]

theorem axis_of_known {s : Shape} (h : slots.shapeOf o.array = .ok (some s)) :
    o.axis slots = (do return some (← s.axisAt o.dimension)) := by
  unfold axis
  rw [h]
  rfl

theorem axis_of_unknown (h : slots.shapeOf o.array = .ok none) : o.axis slots = .ok none := by
  unfold axis
  rw [h]
  rfl

theorem axis_of_unreadable {f : Fault} (h : slots.shapeOf o.array = .error f) : o.axis slots = .error f := by
  unfold axis
  rw [h]
  rfl

theorem onKnown_of_axis {a : Axis} (h : o.axis slots = .ok (some a)) : o.onKnown slots = true := by
  rcases hs : slots.shapeOf o.array with f | _ | s
  · rw [axis_of_unreadable hs] at h
    cases h
  · rw [axis_of_unknown hs] at h
    cases h
  · exact onKnown_of_known hs

end Occurrence

namespace Usage

/-! ## One symbol -/

/-- No two occurrences on arrays of known shape run along axes that differ. -/
def Concordant (slots : Slots) (os : List Occurrence) : Prop :=
  ∀ o ∈ os, ∀ p ∈ os, ∀ a b, o.axis slots = .ok (some a) → p.axis slots = .ok (some b) → a.toList = b.toList

/-- All occurrences on arrays of known shape have an axis, and it is the given one. -/
def AllAlong (slots : Slots) (a : Axis) (os : List Occurrence) : Prop :=
  ∀ o ∈ os, o.onKnown slots = true → ∃ b, o.axis slots = .ok (some b) ∧ b.toList = a.toList

/-- The axis of a symbol: that of all its occurrences on arrays of known shape, if there is one. -/
def IsReference (slots : Slots) (os : List Occurrence) : Option Axis → Prop
  | none => ∀ o ∈ os, o.onKnown slots = false
  | some a => (∃ o ∈ os, o.onKnown slots = true) ∧ AllAlong slots a os

theorem AllAlong.nil (a : Axis) : AllAlong slots a [] := by
  rintro o ⟨⟩

theorem AllAlong.cons_of_unknown {a : Axis} {o : Occurrence} {os : List Occurrence} (ho : o.onKnown slots = false)
    (h : AllAlong slots a os) : AllAlong slots a (o :: os) := by
  refine List.forall_mem_cons.2 ⟨fun hknown => ?_, h⟩
  rw [ho] at hknown
  cases hknown

theorem AllAlong.cons_of_axis {a b : Axis} {o : Occurrence} {os : List Occurrence} (ho : o.axis slots = .ok (some b))
    (hb : b.toList = a.toList) (h : AllAlong slots a os) : AllAlong slots a (o :: os) :=
  List.forall_mem_cons.2 ⟨fun _ => ⟨b, ho, hb⟩, h⟩

theorem AllAlong.toList_eq {a b : Axis} {o : Occurrence} {os : List Occurrence} (h : AllAlong slots a os) (ho : o ∈ os)
    (hb : o.axis slots = .ok (some b)) : b.toList = a.toList := by
  obtain ⟨c, hc, hca⟩ := h o ho (Occurrence.onKnown_of_axis hb)
  rw [hb] at hc
  cases hc
  exact hca

theorem IsReference.concordant {os : List Occurrence} {a? : Option Axis} (h : IsReference slots os a?) :
    Concordant slots os := by
  intro o ho p hp a b ha hb
  cases a? with
  | none =>
    have hknown := Occurrence.onKnown_of_axis ha
    rw [h o ho] at hknown
    cases hknown
  | some c => rw [h.2.toList_eq ho ha, h.2.toList_eq hp hb]

theorem IsReference.isSome {os : List Occurrence} {a? : Option Axis} (h : IsReference slots os a?) :
    os.any (·.onKnown slots) = a?.isSome := by
  cases a? with
  | none => exact List.any_eq_false.2 fun o ho => Bool.eq_false_iff.1 (h o ho)
  | some a => exact List.any_eq_true.2 h.1

theorem IsReference.cons_of_unknown {o : Occurrence} {os : List Occurrence} {a? : Option Axis}
    (ho : o.onKnown slots = false) (h : IsReference slots os a?) : IsReference slots (o :: os) a? := by
  cases a? with
  | none => exact List.forall_mem_cons.2 ⟨ho, h⟩
  | some a =>
    obtain ⟨⟨p, hp, hknown⟩, hall⟩ := h
    exact ⟨⟨p, List.mem_cons_of_mem _ hp, hknown⟩, hall.cons_of_unknown ho⟩

/-- The earliest conflict among the occurrences of a symbol: `first` is the first of them on an array of known shape,
and `later` is the first one that runs along another axis. -/
structure Clash (slots : Slots) (os : List Occurrence) where
  skipped : List Occurrence
  first : Occurrence
  agreeing : List Occurrence
  later : Occurrence
  rest : List Occurrence
  expected : Axis
  got : Axis
  os_eq : os = skipped ++ first :: (agreeing ++ later :: rest)
  skipped_unknown : ∀ o ∈ skipped, o.onKnown slots = false
  first_along : first.axis slots = .ok (some expected)
  agreeing_along : AllAlong slots expected agreeing
  later_along : later.axis slots = .ok (some got)
  differ : got.toList ≠ expected.toList

def Clash.skip {o : Occurrence} {os : List Occurrence} (k : Clash slots os) (ho : o.onKnown slots = false) :
    Clash slots (o :: os) :=
  { k with
    skipped := o :: k.skipped
    os_eq := congrArg (o :: ·) k.os_eq
    skipped_unknown := List.forall_mem_cons.2 ⟨ho, k.skipped_unknown⟩ }

inductive Compared (slots : Slots) (name : Label) (expected : Axis) (os : List Occurrence) :
    Except Fault Unit → Prop where
  | agree (h : AllAlong slots expected os) : Compared slots name expected os (.ok ())
  | differ {agreeing rest : List Occurrence} {later : Occurrence} {got : Axis} {d : DataValue}
      (hos : os = agreeing ++ later :: rest) (hagreeing : AllAlong slots expected agreeing)
      (hlater : later.axis slots = .ok (some got)) (hne : got.toList ≠ expected.toList)
      (hd : later.reportedDimension = .ok d) :
      Compared slots name expected os (.error (.conflict (.index name later.array d expected got)))
  | fail {o : Occurrence} {f : Fault} (ho : o ∈ os) (h : o.Fails slots f) : Compared slots name expected os (.error f)

inductive Checked (slots : Slots) (name : Label) (os : List Occurrence) : Except Fault (Option Axis) → Prop where
  | agree {a? : Option Axis} (h : IsReference slots os a?) : Checked slots name os (.ok a?)
  | clash (k : Clash slots os) {d : DataValue} (hd : k.later.reportedDimension = .ok d) :
      Checked slots name os (.error (.conflict (.index name k.later.array d k.expected k.got)))
  | fail {o : Occurrence} {f : Fault} (ho : o ∈ os) (h : o.Fails slots f) : Checked slots name os (.error f)

theorem Compared.cons {name : Label} {expected : Axis} {o : Occurrence} {os : List Occurrence}
    {answer : Except Fault Unit} (h : Compared slots name expected os answer)
    (hcons : ∀ {ps}, AllAlong slots expected ps → AllAlong slots expected (o :: ps)) :
    Compared slots name expected (o :: os) answer := by
  cases h with
  | agree hall => exact .agree (hcons hall)
  | differ hos hagreeing hlater hne hd => exact .differ (congrArg (o :: ·) hos) (hcons hagreeing) hlater hne hd
  | fail hp hf => exact .fail (List.mem_cons_of_mem _ hp) hf

theorem Checked.cons_of_unknown {name : Label} {o : Occurrence} {os : List Occurrence}
    {answer : Except Fault (Option Axis)} (h : Checked slots name os answer) (ho : o.onKnown slots = false) :
    Checked slots name (o :: os) answer := by
  cases h with
  | agree href => exact .agree (href.cons_of_unknown ho)
  | clash k hd => exact .clash (k.skip ho) hd
  | fail hp hf => exact .fail (List.mem_cons_of_mem _ hp) hf

theorem known_cons_of_unknown {o : Occurrence} (os : List Occurrence) (h : slots.shapeOf o.array = .ok none) :
    known slots (o :: os) = known slots os := by
  rw [known, h]
  exact bind_pure (known slots os)

theorem known_cons_of_known {o : Occurrence} {s : Shape} (os : List Occurrence)
    (h : slots.shapeOf o.array = .ok (some s)) : known slots (o :: os) = (do return (o, s) :: (← known slots os)) := by
  rw [known, h]
  rfl

theorem known_cons_of_unreadable {o : Occurrence} {f : Fault} (os : List Occurrence)
    (h : slots.shapeOf o.array = .error f) : known slots (o :: os) = .error f := by
  rw [known, h]
  rfl

theorem known_error {f : Fault} {os : List Occurrence} (h : known slots os = .error f) :
    ∃ o ∈ os, o.axis slots = .error f := by
  induction os with
  | nil => cases h
  | cons o os ih =>
    have htail (h : known slots os = .error f) : ∃ p ∈ o :: os, p.axis slots = .error f := by
      obtain ⟨p, hp, hf⟩ := ih h
      exact ⟨p, List.mem_cons_of_mem _ hp, hf⟩
    rcases hs : slots.shapeOf o.array with g | _ | s
    · rw [known_cons_of_unreadable os hs] at h
      cases h
      exact ⟨o, List.mem_cons_self, Occurrence.axis_of_unreadable hs⟩
    · exact htail (known_cons_of_unknown os hs ▸ h)
    · rw [known_cons_of_known os hs] at h
      rcases exceptBind_error.1 h with h | ⟨_, -, h⟩
      · exact htail h
      · cases h

theorem compared_checkAgainst (name : Label) (expected : Axis) {os : List Occurrence} {xs : List (Occurrence × Shape)}
    (h : known slots os = .ok xs) : Compared slots name expected os (checkAgainst (.ok name) expected xs) := by
  induction os generalizing xs with
  | nil =>
    cases h
    exact .agree (.nil expected)
  | cons o os ih =>
    rcases hs : slots.shapeOf o.array with f | _ | s
    · rw [known_cons_of_unreadable os hs] at h
      cases h
    · rw [known_cons_of_unknown os hs] at h
      exact (ih h).cons (.cons_of_unknown (Occurrence.onKnown_of_unknown hs))
    rw [known_cons_of_known os hs] at h
    obtain ⟨ys, hys, h⟩ := exceptBind_ok.1 h
    cases h
    have haxis := Occurrence.axis_of_known hs
    rw [checkAgainst]
    cases hgot : s.axisAt o.dimension with
    | error f =>
      rw [hgot] at haxis
      exact .fail List.mem_cons_self (.inl haxis)
    | ok got =>
      rw [hgot] at haxis
      show Compared _ _ _ _ (if got.agrees expected then _ else _)
      by_cases hagree : got.agrees expected = true
      · rw [if_pos hagree]
        exact (ih hys).cons (.cons_of_axis haxis (Axis.agrees_iff.1 hagree))
      · rw [if_neg hagree]
        cases hd : o.reportedDimension with
        | error f => exact .fail List.mem_cons_self (.inr hd)
        | ok d => exact .differ rfl (.nil expected) haxis (mt Axis.agrees_iff.2 hagree) hd

theorem checked_of_known (name : Label) {o : Occurrence} {os : List Occurrence} {s : Shape}
    (hs : slots.shapeOf o.array = .ok (some s)) :
    Checked slots name (o :: os) (reference slots (.ok name) (o :: os)) := by
  have haxis := Occurrence.axis_of_known hs
  unfold reference
  rw [known_cons_of_known os hs]
  cases hxs : known slots os with
  | error f =>
    obtain ⟨p, hp, hf⟩ := known_error hxs
    exact .fail (List.mem_cons_of_mem _ hp) (.inl hf)
  | ok xs =>
    show Checked _ _ _ (do
      let expected ← s.axisAt o.dimension
      checkAgainst (.ok name) expected xs
      return some expected)
    cases hexpected : s.axisAt o.dimension with
    | error f =>
      rw [hexpected] at haxis
      exact .fail List.mem_cons_self (.inl haxis)
    | ok expected =>
      rw [hexpected] at haxis
      show Checked _ _ _ (do
        checkAgainst (.ok name) expected xs
        return some expected)
      have hcompared := compared_checkAgainst name expected hxs
      generalize checkAgainst (.ok name) expected xs = answer at hcompared ⊢
      cases hcompared with
      | agree hall =>
        exact .agree ⟨⟨o, List.mem_cons_self, Occurrence.onKnown_of_known hs⟩, .cons_of_axis haxis rfl hall⟩
      | differ hos hagreeing hlater hne hd =>
        exact .clash ⟨[], o, _, _, _, expected, _, congrArg (o :: ·) hos, List.forall_mem_nil _, haxis, hagreeing,
          hlater, hne⟩ hd
      | fail hp hf => exact .fail (List.mem_cons_of_mem _ hp) hf

/-- **The occurrences of a symbol have one axis, or their earliest conflict is reported, or one of them fails.** -/
theorem checked_reference (name : Label) (os : List Occurrence) :
    Checked slots name os (reference slots (.ok name) os) := by
  induction os with
  | nil => exact .agree (List.forall_mem_nil _)
  | cons o os ih =>
    rcases hs : slots.shapeOf o.array with f | _ | s
    · have href : reference slots (.ok name) (o :: os) = .error f := by
        unfold reference
        rw [known_cons_of_unreadable os hs]
        rfl
      rw [href]
      exact .fail List.mem_cons_self (.inl (Occurrence.axis_of_unreadable hs))
    · have href : reference slots (.ok name) (o :: os) = reference slots (.ok name) os := by
        unfold reference
        rw [known_cons_of_unknown os hs]
      rw [href]
      exact ih.cons_of_unknown (Occurrence.onKnown_of_unknown hs)
    · exact checked_of_known name hs

/-! ## All symbols -/

/-- The earliest conflict of a usage: the symbols before have none. -/
structure FirstClash (slots : Slots) (u : Usage) where
  before : Usage
  symbol : Symbol
  occurrences : List Occurrence
  after : Usage
  u_eq : u = before ++ (symbol, occurrences) :: after
  before_concordant : ∀ e ∈ before, Concordant slots e.2
  clash : Clash slots occurrences

/-- What the check of a usage may come to: the axes of exactly the symbols that have occurrences on arrays of known
shape, in their order, each that of all these occurrences; or the report of the earliest conflict; or the fault of an
occurrence that cannot be read or reported, of a symbol that none with a conflict stands before. -/
inductive Verdict (slots : Slots) (u : Usage) : Except Fault (List (Symbol × Axis)) → Prop where
  | agreement {refs : List (Symbol × Axis)}
      (h : List.Forall₂ (fun e ref => ref.1 = e.1 ∧ AllAlong slots ref.2 e.2)
        (u.filter fun e => e.2.any (·.onKnown slots)) refs) : Verdict slots u (.ok refs)
  | report (k : FirstClash slots u) {c : Conflict} {d : DataValue} (hd : k.clash.later.reportedDimension = .ok d)
      (hkind : c.diagnostic.kind = .dimensionMismatch)
      (hdata : c.diagnostic.data = [("index", .text k.symbol.name.content),
        ("array", .text k.clash.later.array.render.content), ("dimension", d),
        ("expected", .text k.clash.expected.text), ("got", .text k.clash.got.text)]) :
      Verdict slots u (.error (.conflict c))
  | failure {before after : Usage} {s : Symbol} {os : List Occurrence} {o : Occurrence} {f : Fault}
      (hu : u = before ++ (s, os) :: after) (hbefore : ∀ e ∈ before, Concordant slots e.2) (ho : o ∈ os)
      (h : o.Fails slots f) : Verdict slots u (.error f)

theorem Verdict.cons {s : Symbol} {os : List Occurrence} {a? : Option Axis} {u : Usage}
    {answer : Except Fault (List (Symbol × Axis))} (h : Verdict slots u answer) (href : IsReference slots os a?) :
    Verdict slots ((s, os) :: u) (answer.map (a?.toList.map (Prod.mk s) ++ ·)) := by
  have hbefore {before : Usage} (h : ∀ e ∈ before, Concordant slots e.2) :
      ∀ e ∈ (s, os) :: before, Concordant slots e.2 := List.forall_mem_cons.2 ⟨href.concordant, h⟩
  cases h with
  | agreement h =>
    refine .agreement ?_
    rw [List.filter_cons, href.isSome]
    cases a? with
    | none => exact h
    | some a => exact .cons ⟨rfl, href.2⟩ h
  | report k hd hkind hdata =>
    exact .report { k with
      before := (s, os) :: k.before
      u_eq := congrArg ((s, os) :: ·) k.u_eq
      before_concordant := hbefore k.before_concordant } hd hkind hdata
  | failure hu hb ho hf => exact .failure (congrArg ((s, os) :: ·) hu) (hbefore hb) ho hf

/-- The check of a usage goes on with the other symbols once the first has an axis, or none. -/
theorem outcome_checkConsistency_cons {s : Symbol} {os : List Occurrence} {a? : Option Axis} {st : Store} (u : Usage)
    (h : reference st.slots (.ok s.name) os = .ok a?) :
    ∃ st₁, st₁.slots = st.slots ∧ outcome (checkConsistency ((s, os) :: u)) st =
      ((outcome u.checkConsistency st₁).1.map (a?.toList.map (Prod.mk s) ++ ·),
        (outcome u.checkConsistency st₁).2) := by
  obtain ⟨st₁, h₁, hst₁⟩ := outcome_checkSymbol_of_ok h
  refine ⟨st₁, hst₁, ?_⟩
  rw [checkConsistency, Build.outcome_bind_of_ok h₁]
  rcases hu : outcome u.checkConsistency st₁ with ⟨f | refs, st₂⟩
  · cases a? with
    | none => exact hu
    | some a => exact Build.outcome_bind_of_error hu
  · cases a? with
    | none => exact hu
    | some a =>
      dsimp only
      rw [Build.outcome_bind_of_ok hu]
      rfl

/-- **The whole run**: every usage gets one of the three verdicts. -/
theorem verdict_checkConsistency (u : Usage) : ∀ st : Store, Verdict st.slots u (outcome u.checkConsistency st).1 := by
  induction u with
  | nil => exact fun st => .agreement .nil
  | cons e u ih =>
    obtain ⟨s, os⟩ := e
    intro st
    have hchecked : Checked st.slots s.name os _ := checked_reference s.name os
    cases href : reference st.slots (.ok s.name) os with
    | ok a? =>
      rw [href] at hchecked
      cases hchecked with
      | agree h =>
        obtain ⟨st₁, hslots, hout⟩ := outcome_checkConsistency_cons u href
        rw [hout]
        exact Verdict.cons (hslots ▸ ih st₁) h
    | error f =>
      have hout : outcome (checkConsistency ((s, os) :: u)) st = (.error f, st) := by
        rw [checkConsistency, Build.outcome_bind_of_error (outcome_checkSymbol_of_error href)]
      rw [hout]
      rw [href] at hchecked
      cases hchecked with
      | clash k hd => exact .report ⟨[], s, os, u, rfl, List.forall_mem_nil _, k⟩ hd rfl rfl
      | fail ho hf => exact .failure (List.nil_append _).symm (List.forall_mem_nil _) ho hf

end Usage

/-! ## Usages of clients -/

theorem Value.mapItems_list {α : Type} (f : Value → Except Fault α) (vs : List Value) (m : Mark) :
    (Value.list vs m).mapItems f = vs.mapM f := by
  cases vs with
  | nil => rfl
  | cons v vs =>
    show (do
      let _ ← [v].mapM f
      (v :: vs).mapM f) = (v :: vs).mapM f
    rw [List.mapM_cons, List.mapM_cons]
    cases f v <;> rfl

namespace Script.Shapes

/-- The dictionary lists the occurrences of every symbol of a usage. -/
def Lists (entries : List (Value × Value)) (u : Usage) : Prop :=
  List.Forall₂ (fun e f => e.1 = .node (.symbol f.1) ∧
    ∃ vs m, e.2 = .list vs m ∧ List.Forall₂ (fun v o => toOccurrence v = .ok o) vs f.2) entries u

/-- A list of occurrences is read before any of them is compared. -/
theorem mapM_toListed {vs : List Value} {os : List Occurrence}
    (h : List.Forall₂ (fun v o => toOccurrence v = .ok o) vs os) :
    vs.mapM (toListed slots) = (do
      let _ ← Usage.known slots os
      return os) := by
  induction h with
  | nil => rfl
  | @cons v o vs os hv _ ih =>
    have hread : toListed slots v = (do
        let _ ← slots.shapeOf o.array
        return o) := by
      unfold toListed Occurrence.isKnown
      rw [hv]
      show (do
        let _ ← (do return (← slots.shapeOf o.array).isSome)
        return o) = _
      cases slots.shapeOf o.array <;> rfl
    rw [List.mapM_cons, hread, ih]
    rcases hs : slots.shapeOf o.array with f | _ | s
    · rw [Usage.known_cons_of_unreadable os hs]
      rfl
    · rw [Usage.known_cons_of_unknown os hs]
      cases Usage.known slots os <;> rfl
    · rw [Usage.known_cons_of_known os hs]
      cases Usage.known slots os <;> rfl

theorem outcome_checkEntries {entries : List (Value × Value)} {u : Usage} (h : Lists entries u) : ∀ st : Store,
    outcome (checkEntries entries) st =
      ((outcome u.checkConsistency st).1.map (List.map fun ref => (.node (.symbol ref.1), .range ref.2)),
        (outcome u.checkConsistency st).2) := by
  induction h with
  | nil => exact fun st => rfl
  | @cons e f entries u hentry _ ih =>
    obtain ⟨key, items⟩ := e
    obtain ⟨s, os⟩ := f
    obtain ⟨rfl, vs, m, rfl, hvs⟩ := hentry
    intro st
    have hitems : (Value.list vs m).mapItems (toListed st.slots) = _ :=
      (Value.mapItems_list _ vs m).trans (mapM_toListed hvs)
    rw [checkEntries, Build.outcome_bind_of_ok (Build.outcome_slots st), Build.outcome_bind, Build.outcome_lift, hitems,
      Usage.checkConsistency]
    cases hknown : Usage.known st.slots os with
    | error f =>
      have href : Usage.reference st.slots (.ok s.name) os = .error f := by
        unfold Usage.reference
        rw [hknown]
        rfl
      rw [Build.outcome_bind_of_error (Usage.outcome_checkSymbol_of_error href)]
      rfl
    | ok xs =>
      show outcome (Usage.checkSymbol (.ok s.name) os >>= _) st = _
      rcases hchecked : outcome (Usage.checkSymbol (.ok s.name) os) st with ⟨f | _ | a, st₁⟩
      · rw [Build.outcome_bind_of_error hchecked, Build.outcome_bind_of_error hchecked]
        rfl
      · rw [Build.outcome_bind_of_ok hchecked, Build.outcome_bind_of_ok hchecked]
        exact ih st₁
      · rw [Build.outcome_bind_of_ok hchecked, Build.outcome_bind_of_ok hchecked]
        dsimp only
        rw [Build.outcome_bind, Build.outcome_bind, ih st₁]
        rcases outcome (Usage.checkConsistency u) st₁ with ⟨f | refs, st₂⟩ <;> rfl

/-- **Every usage gets its verdict**, and a dictionary that lists it the same. -/
theorem verdict_of_usage (u : Usage) (st : Store) :
    Usage.Verdict st.slots u (outcome u.checkConsistency st).1 ∧
    ∀ entries, Lists entries u → (outcome (checkEntries entries) st).1 =
      (outcome u.checkConsistency st).1.map (List.map fun ref => (.node (.symbol ref.1), .range ref.2)) :=
  ⟨u.verdict_checkConsistency st, fun _ h => congrArg Prod.fst (outcome_checkEntries h st)⟩

/-- An index of a vector whose length is refused is in no conflict, and the check fails all the same. -/
theorem refused_without_conflict :
    ∃ (u : Usage) (st : Store) (f : Fault), (∀ e ∈ u, Usage.Concordant st.slots e.2) ∧
      (outcome u.checkConsistency st).1 = .error f ∧ ¬ Usage.IsMismatch f := by
  let vector : Value := .node (.constant 0 (.array ⟨0, [some (-1)], some (.native (.float .double)), .deferred true⟩) 1)
  let i : Symbol := ⟨2, .ofString "i", .scalar (some .index), 3⟩
  refine ⟨[(i, [.along vector 1])], .empty, .refusal (.negativeLength (-1)), ?_, rfl, ?_⟩
  · refine List.forall_mem_singleton.2 fun o ho p hp a b ha hb => ?_
    rw [List.mem_singleton.1 ho] at ha
    cases ha
  · rintro ⟨c, hc, -⟩
    cases hc

end Script.Shapes

end ArrayTyping

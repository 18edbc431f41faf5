import ArrayTyping.Proofs.Procedures
/-!
# WriteOnce — slots over whole runs

A run makes requests one after the other, each over nodes that there are by then, and goes on whether they succeed or
fail.  Over all of it, the slot of a node is written at most once: by the constructor that answers with the node, or by
the first request that attaches a readable shape to it.  What is written stays, and so does the shape of the node.
-/
namespace ArrayTyping

open Build (Steady)

/-! ## Specifications that cannot be read -/

theorem ConcreteArray.rows_error {a : ConcreteArray} {f : Fault} (h : a.rows = .error f) : f = .typeSlip := by
  unfold ConcreteArray.rows at h
  split at h <;> cases h
  rfl

/-- A fault for which an enumeration fails: the value does not enumerate anything, or more than can be counted. -/
def Fault.IsOfEnumeration (f : Fault) : Prop := f.isOfType = true ∨ f = .overflow

theorem Axis.items_error {limit : Option Nat} {a : Axis} {f : Fault} (h : a.items limit = .error f) : f = .overflow := by
  unfold Axis.items at h
  split at h <;> cases h
  rfl

mutual

theorem Value.firstItems_error : ∀ (v : Value) (limit : Option Nat) (f : Fault), v.firstItems limit = .error f →
    f.IsOfEnumeration
  | .range a, limit, f, h => .inr (Axis.items_error h)
  | .space axes _, limit, f, h => by
    rw [Value.firstItems] at h
    rcases exceptBind_error.1 h with h | ⟨_, -, h⟩
    · exact Value.pools_error axes limit f h
    · cases h
  | .array a, limit, f, h => by
    rw [Value.firstItems] at h
    rcases exceptBind_error.1 h with h | ⟨_, -, h⟩
    · exact .inl (by rw [ConcreteArray.rows_error h]; rfl)
    · cases h
  | .iterator source _, limit, f, h => Value.firstItems_error source limit f h
  | .node n, limit, f, h => by
    cases h
    exact .inl rfl
  | .list .., _, _, h | .tuple .., _, _, h | .dict .., _, _, h | .shape _, _, _, h | .text .., _, _, h | .kind _, _, _, h
  | .code _, _, _, h => nomatch h
  | .none, _, _, h | .bool _, _, _, h | .int .., _, _, h | .float .., _, _, h | .complex .., _, _, h
  | .scalar .., _, _, h | .slice .., _, _, h | .unknown, _, _, h | .dtype _, _, _, h | .type .., _, _, h
  | .object _, _, _, h | .callable _, _, _, h | .occurrence .., _, _, h | .view .., _, _, h | .registry _, _, _, h
  | .diagnostic .., _, _, h => by
    cases h
    exact .inl rfl
termination_by structural v => v

theorem Value.pools_error : ∀ (v : Value) (limit : Option Nat) (f : Fault), v.pools limit = .error f → f.IsOfEnumeration
  | .list items _, limit, f, h => poolsOfAll_error items limit f h
  | .tuple items _, limit, f, h => poolsOfAll_error items limit f h
  | .dict entries _, limit, f, h => poolsOfKeys_error entries limit f h
  | .range a, limit, f, h => by
    rw [Value.pools] at h
    split at h <;> cases h
    exact .inl rfl
  | .shape s, limit, f, h => by
    obtain ⟨a, -, ha⟩ := exceptMapM_error h
    exact .inr (Axis.items_error ha)
  | .space axes _, limit, f, h => by
    rw [Value.pools] at h
    rcases exceptBind_error.1 h with h | ⟨_, -, h⟩
    · exact Value.pools_error axes none f h
    · cases h
  | .array a, limit, f, h => by
    rw [Value.pools] at h
    rcases exceptBind_error.1 h with h | ⟨rows, -, h⟩
    · exact .inl (by rw [ConcreteArray.rows_error h]; rfl)
    · obtain ⟨row, -, hrow⟩ := exceptMapM_error h
      split at hrow
      · exact .inl (by rw [ConcreteArray.rows_error hrow]; rfl)
      · cases hrow
        exact .inl rfl
  | .iterator source _, limit, f, h => Value.pools_error source limit f h
  | .node n, limit, f, h => by
    cases h
    exact .inl rfl
  | .text .., _, _, h | .kind _, _, _, h | .code _, _, _, h => nomatch h
  | .none, _, _, h | .bool _, _, _, h | .int .., _, _, h | .float .., _, _, h | .complex .., _, _, h
  | .scalar .., _, _, h | .slice .., _, _, h | .unknown, _, _, h | .dtype _, _, _, h | .type .., _, _, h
  | .object _, _, _, h | .callable _, _, _, h | .occurrence .., _, _, h | .view .., _, _, h | .registry _, _, _, h
  | .diagnostic .., _, _, h => by
    cases h
    exact .inl rfl
termination_by structural v => v

theorem poolsOfAll_error : ∀ (vs : List Value) (limit : Option Nat) (f : Fault), poolsOfAll limit vs = .error f →
    f.IsOfEnumeration
  | [], _, _, h => nomatch h
  | v :: vs, limit, f, h => by
    rw [poolsOfAll] at h
    rcases exceptBind_error.1 h with h | ⟨_, -, h⟩
    · exact Value.firstItems_error v limit f h
    · rcases exceptBind_error.1 h with h | ⟨_, -, h⟩
      · exact poolsOfAll_error vs limit f h
      · cases h
termination_by structural vs => vs

theorem poolsOfKeys_error : ∀ (es : List (Value × Value)) (limit : Option Nat) (f : Fault),
    poolsOfKeys limit es = .error f → f.IsOfEnumeration
  | [], _, _, h => nomatch h
  | (k, _) :: es, limit, f, h => by
    rw [poolsOfKeys] at h
    rcases exceptBind_error.1 h with h | ⟨_, -, h⟩
    · exact Value.firstItems_error k limit f h
    · rcases exceptBind_error.1 h with h | ⟨_, -, h⟩
      · exact poolsOfKeys_error es limit f h
      · cases h
termination_by structural es => es

end

namespace Build

variable {n : Node} {spec : Value} {st : Store}

theorem outcome_attachShape (n : Node) (spec : Value) (st : Store) :
    outcome (attachShape (.node n) spec) st = match spec.toShapeInfo with
      | .ok s => outcome (attach n s) st
      | .error f => (.error f, st) := by
  show outcome ((liftM spec.toShapeInfo : Build ShapeInfo) >>= attach n) st = _
  rw [outcome_bind, outcome_lift]
  cases spec.toShapeInfo <;> rfl

theorem attachShape_of_error {f : Fault} (h : spec.toShapeInfo = .error f) :
    outcome (attachShape (.node n) spec) st = (.error f, st) := by
  rw [outcome_attachShape, h]

theorem attachShape_of_held {s held : ShapeInfo} (h : spec.toShapeInfo = .ok s)
    (hheld : st.slots.get? n.id = some held) :
    outcome (attachShape (.node n) spec) st = (.error (.conflict (.alreadyAttached n held)), st) := by
  rw [outcome_attachShape, h]
  exact outcome_attach_of_some hheld

theorem attachShape_of_empty {s : ShapeInfo} (h : spec.toShapeInfo = .ok s) (hnone : st.slots.get? n.id = none) :
    ∃ s' st', outcome (attachShape (.node n) spec) st = (.ok s', st') ∧ s'.map Shape.plain = s.map Shape.plain ∧
      st'.slots = st.slots.insert n.id s' ∧ st.next ≤ st'.next := by
  rw [outcome_attachShape, h]
  exact outcome_attach_of_none s hnone

/-! ## Constructors that write the slot of what they answer with -/

def Writes (x : Build Value) : Prop :=
  ∀ st st' v, outcome x st = (.ok v, st') → ∃ n info, v = .node n ∧ st'.slots.get? n.id = some info

theorem Writes.bind {α : Type} {x : Build α} {f : α → Build Value} (hf : ∀ a, Writes (f a)) : Writes (x >>= f) := by
  intro st st' v h
  obtain ⟨a, st₁, -, h⟩ := outcome_bind_ok.1 h
  exact hf a _ _ _ h

end Build

namespace Script

open Script.Run (outcome Grows)

/-! ## Requests -/

/-- A call of a procedure.  A function that it calls back answers or fails; whatever such a function asks for on its own
is a request of its own, made before. -/
structure Request where
  procedure : String
  args : List Value
  keywords : List (String × Value)
  callback : Nat → Except Trouble Value

namespace Request

def caller (r : Request) : Caller := fun id => (r.callback id : Except Trouble Value)

def perform (r : Request) : Run Value := do Run.keep (← Eval.call r.caller r.procedure r.args r.keywords)

def given (r : Request) : List Node := nodesOfAll r.args ++ nodesOfAll (r.keywords.map (·.2))

def Attaches (r : Request) (v spec : Value) : Prop :=
  r.procedure = "attach_shape" ∧
    ∃ rest, attachingProcedure.signature.bind? r.args r.keywords = some ([v, spec], rest)

end Request

structure Turn where
  request : Request
  before : Session
  answer : Except Trouble Value
  after : Session

def Request.turn (r : Request) (s : Session) : Turn := ⟨r, s, (outcome r.perform s).1, (outcome r.perform s).2⟩

/-- The turns of a run and the session it has reached.  Each request is over nodes that there are by then.  Between
requests a client binds names and writes down values, which leaves the slots alone. -/
inductive Trace : List Turn → Session → Prop where
  | start : Trace [] .empty
  | request {turns : List Turn} {s : Session} (h : Trace turns s) (r : Request)
      (hr : ∀ n ∈ r.given, n.id < s.store.next) : Trace (turns ++ [r.turn s]) (r.turn s).after
  | aside {turns : List Turn} {s s' : Session} (h : Trace turns s) (hslots : s'.store.slots = s.store.slots)
      (hnext : s.store.next ≤ s'.store.next) : Trace turns s'

theorem findProcedure?_some {name : String} {p : Procedure} (h : findProcedure? name = some p) :
    p ∈ procedures ∧ p.name = name :=
  ⟨List.mem_of_find?_eq_some h, by simpa using List.find?_some h⟩

theorem findProcedure?_attaching : findProcedure? "attach_shape" = some attachingProcedure := rfl

def Run.finish (v : Value) : Run Value := do Run.keep (← Run.refresh v)

namespace Run

theorem outcome_finish (v : Value) (s : Session) :
    ∃ w s', outcome (finish v) s = (.ok w, s') ∧ s'.store.slots = s.store.slots ∧ s.store.next ≤ s'.store.next := by
  refine ⟨_, _, rfl, rfl, ?_⟩
  exact (Value.kept_nodes _ s.store.next).1

end Run

namespace Request

variable {r : Request} {s : Session} {p : Procedure}

theorem perform_eq (hp : findProcedure? r.procedure = some p) {fixed rest : List Value}
    (hbind : p.signature.bind? r.args r.keywords = some (fixed, rest)) :
    r.perform = p.body r.caller fixed rest >>= Run.finish := by
  unfold perform Eval.call
  rw [hp]
  dsimp only
  rw [hbind]
  dsimp only
  rw [bind_assoc]
  rfl

theorem perform_of_unbound (hp : findProcedure? r.procedure = some p)
    (hbind : p.signature.bind? r.args r.keywords = none) : r.perform = Run.fail .typeSlip := by
  unfold perform Eval.call
  rw [hp]
  dsimp only
  rw [hbind]
  rfl

theorem perform_of_unknown (hp : findProcedure? r.procedure = none) : r.perform = Run.fail (.slip .key) := by
  unfold perform Eval.call
  rw [hp]
  rfl

/-- **Every request but one to attach a shape leaves the slots of earlier nodes.** -/
theorem perform_cases (r : Request) : Grows r.perform ∨ ∃ v spec, r.Attaches v spec := by
  cases hp : findProcedure? r.procedure with
  | none =>
    rw [perform_of_unknown hp]
    exact .inl (.fail _)
  | some p =>
    obtain ⟨hmem, hname⟩ := findProcedure?_some hp
    cases hbind : p.signature.bind? r.args r.keywords with
    | none =>
      rw [perform_of_unbound hp hbind]
      exact .inl (.fail _)
    | some bound =>
      obtain ⟨fixed, rest⟩ := bound
      rw [perform_eq hp hbind]
      have hfinish : ∀ v, Grows (Run.finish v) := fun v => (Grows.refresh v).bind fun _ => .keep _
      rcases procedures_grow p hmem with rfl | hgrows
      · match fixed with
        | [v, spec] => exact .inr ⟨v, spec, hname.symm, rest, hbind⟩
        | [] | [_] | _ :: _ :: _ :: _ => exact .inl (Grows.bind (.fail _) hfinish)
      · exact .inl (Grows.bind (hgrows _ (fun id => .of_store_eq fun _ => rfl) fixed rest) hfinish)

theorem perform_of_attaches {v spec : Value} (h : r.Attaches v spec) :
    r.perform = Run.build (do return .ofShape (← Build.attachShape v spec)) >>= Run.finish := by
  obtain ⟨hname, rest, hbind⟩ := h
  exact perform_eq (hname ▸ findProcedure?_attaching) hbind

theorem perform_of_attachShape_error {v spec : Value} (h : r.Attaches v spec) {f : Fault} {st : Store}
    (hf : Build.outcome (Build.attachShape v spec) s.store = (.error f, st)) :
    outcome r.perform s = (.error (.fault f), { s with store := st }) := by
  rw [perform_of_attaches h, Run.outcome_bind, Run.outcome_build, Build.outcome_bind_of_error hf]

theorem perform_of_attachShape_ok {v spec : Value} (h : r.Attaches v spec) {info : ShapeInfo} {st : Store}
    (hok : Build.outcome (Build.attachShape v spec) s.store = (.ok info, st)) :
    ∃ w s', outcome r.perform s = (.ok w, s') ∧ s'.store.slots = st.slots ∧ st.next ≤ s'.store.next := by
  rw [perform_of_attaches h, Run.outcome_bind, Run.outcome_build, Build.outcome_bind_of_ok hok]
  exact Run.outcome_finish _ _

end Request

/-! ## Arguments -/

namespace Signature

theorem mem_of_lookup {v : Value} {name : String} {keywords : List (String × Value)}
    (h : keywords.lookup name = some v) : v ∈ keywords.map (·.2) := by
  obtain ⟨l₁, l₂, rfl, -⟩ := List.lookup_eq_some_iff.1 h
  simp

theorem mem_of_fill {ps : List Parameter} {args : List Value} {keywords : List (String × Value)} {values : List Value}
    (h : fill ps args keywords = some values) :
    ∀ v ∈ values, v ∈ args ∨ v ∈ keywords.map (·.2) ∨ ∃ p ∈ ps, p.default? = some v := by
  induction ps generalizing args values with
  | nil =>
    cases h
    exact fun v hv => nomatch hv
  | cons p ps ih =>
    have hcons : ∀ {w : Value} {args' : List Value}, (fill ps args' keywords).map (w :: ·) = some values →
        args' ⊆ args → (w ∈ args ∨ w ∈ keywords.map (·.2) ∨ p.default? = some w) →
        ∀ v ∈ values, v ∈ args ∨ v ∈ keywords.map (·.2) ∨ ∃ q ∈ p :: ps, q.default? = some v := by
      intro w args' h hsub hw v hv
      obtain ⟨rest, hrest, rfl⟩ := Option.map_eq_some_iff.1 h
      rcases List.mem_cons.1 hv with rfl | hv
      · exact hw.imp_right (.imp_right fun hd => ⟨p, List.mem_cons_self, hd⟩)
      · rcases ih hrest v hv with hv | hv | ⟨q, hq, hd⟩
        · exact .inl (hsub hv)
        · exact .inr (.inl hv)
        · exact .inr (.inr ⟨q, List.mem_cons_of_mem _ hq, hd⟩)
    cases args with
    | cons w args =>
      rw [fill] at h
      split at h
      · cases h
      · exact hcons h (List.subset_cons_self _ _) (.inl List.mem_cons_self)
    | nil =>
      rw [fill] at h
      split at h
      · rename_i w hw
        exact hcons h (List.Subset.refl _) (.inr (.inl (mem_of_lookup hw)))
      · rename_i w _ hw
        exact hcons h (List.Subset.refl _) (.inr (.inr hw))
      · cases h

/-- A bound value was given by position or keyword, or is a default. -/
theorem mem_of_bind? {sig : Signature} {args : List Value} {keywords : List (String × Value)} {fixed rest : List Value}
    (h : sig.bind? args keywords = some (fixed, rest)) :
    ∀ v ∈ fixed, v ∈ args ∨ v ∈ keywords.map (·.2) ∨ ∃ p ∈ sig.positional ++ sig.keywordOnly, p.default? = some v := by
  unfold bind? at h
  dsimp only at h
  split at h
  · cases h
  · obtain ⟨xs, hxs, h⟩ := Option.bind_eq_some_iff.1 h
    obtain ⟨ys, hys, h⟩ := Option.bind_eq_some_iff.1 h
    cases h
    intro v hv
    rcases List.mem_append.1 hv with hv | hv
    · rcases mem_of_fill hxs v hv with hv | hv | ⟨p, hp, hd⟩
      · exact .inl (List.mem_of_mem_take hv)
      · exact .inr (.inl hv)
      · exact .inr (.inr ⟨p, List.mem_append_left _ hp, hd⟩)
    · rcases mem_of_fill hys v hv with hv | hv | ⟨p, hp, hd⟩
      · cases hv
      · exact .inr (.inl hv)
      · exact .inr (.inr ⟨p, List.mem_append_right _ hp, hd⟩)

end Signature

theorem Request.Attaches.mem_given {r : Request} {n : Node} {spec : Value} (h : r.Attaches (.node n) spec) :
    n ∈ r.given := by
  obtain ⟨-, rest, hbind⟩ := h
  have hn : n ∈ (Value.node n).nodes := n.mem_nodes_self
  rcases Signature.mem_of_bind? hbind (.node n) List.mem_cons_self with hv | hv | ⟨p, hp, hd⟩
  · exact List.mem_append_left _ (nodes_subset_nodesOfAll hv hn)
  · exact List.mem_append_right _ (nodes_subset_nodesOfAll hv hn)
  · have hdefault : ∀ p ∈ attachingProcedure.signature.positional ++ attachingProcedure.signature.keywordOnly,
        p.default? = none := by
      show ∀ p ∈ Procedure.required ["node", "shape"] ++ [], p.default? = none
      simp [Procedure.required]
    rw [hdefault p hp] at hd
    cases hd

/-! ## One turn -/

namespace Request

variable {r : Request} {s : Session}

theorem attaches_cases {n : Node} {spec : Value} (h : r.Attaches (.node n) spec) (s : Session) :
    (∃ f, spec.toShapeInfo = .error f ∧ outcome r.perform s = (.error (.fault f), s)) ∨
    (∃ info held, spec.toShapeInfo = .ok info ∧ s.store.slots.get? n.id = some held ∧
      outcome r.perform s = (.error (.fault (.conflict (.alreadyAttached n held))), s)) ∨
    ∃ info info' w s', spec.toShapeInfo = .ok info ∧ s.store.slots.get? n.id = none ∧
      outcome r.perform s = (.ok w, s') ∧ info'.map Shape.plain = info.map Shape.plain ∧
      s'.store.slots = s.store.slots.insert n.id info' ∧ s.store.next ≤ s'.store.next := by
  cases hspec : spec.toShapeInfo with
  | error f =>
    exact .inl ⟨f, rfl, perform_of_attachShape_error h (Build.attachShape_of_error hspec)⟩
  | ok info =>
    cases hslot : s.store.slots.get? n.id with
    | some held =>
      exact .inr (.inl ⟨info, held, rfl, rfl, perform_of_attachShape_error h (Build.attachShape_of_held hspec hslot)⟩)
    | none =>
      obtain ⟨info', st', hok, hplain, hslots, hnext⟩ := Build.attachShape_of_empty hspec hslot
      obtain ⟨w, s', hw, hs', hn'⟩ := perform_of_attachShape_ok h hok
      exact .inr (.inr ⟨info, info', w, s', rfl, rfl, hw, hplain, hs'.trans hslots, Nat.le_trans hnext hn'⟩)

end Request

/-! ## Constructors -/

def Run.Writes (x : Run Value) : Prop :=
  ∀ s s' v, outcome x s = (.ok v, s') → ∃ n info, v = .node n ∧ s'.store.slots.get? n.id = some info

namespace Run.Writes

theorem fail (f : Fault) : Writes (Run.fail f) := fun _ _ _ h => nomatch h

theorem bind {α : Type} {x : Run α} {f : α → Run Value} (hf : ∀ a, Writes (f a)) : Writes (x >>= f) := by
  intro s s' v h
  rw [outcome_bind] at h
  split at h
  · exact hf _ _ _ _ h
  · cases h

theorem build {x : Build Value} (hx : Build.Writes x) : Writes (Run.build x) := by
  intro s s' v h
  rw [outcome_build] at h
  split at h
  · rename_i hrun
    cases h
    exact hx _ _ _ hrun
  · cases h

end Run.Writes

namespace Session

/-- The slots that are written stay as they are, and so do the shapes of their nodes. -/
def Keeps (s s' : Session) : Prop :=
  ∀ (n : Node) (info : ShapeInfo), s.store.slots.get? n.id = some info →
    s'.store.slots.get? n.id = some info ∧ s'.store.slots.shapeOf (.node n) = s.store.slots.shapeOf (.node n)

namespace Keeps

variable {s s' s'' : Session}

theorem of_get? (h : ∀ id info, s.store.slots.get? id = some info → s'.store.slots.get? id = some info) :
    s.Keeps s' := fun n info hn =>
  ⟨h n.id info hn, Slots.shapeOf_congr ((h n.id info hn).trans hn.symm)⟩

theorem of_slots_eq (h : s'.store.slots = s.store.slots) : s.Keeps s' := .of_get? fun _ _ hid => h ▸ hid

theorem refl (s : Session) : s.Keeps s := .of_slots_eq rfl

theorem trans (h : s.Keeps s') (h' : s'.Keeps s'') : s.Keeps s'' := by
  intro n info hn
  obtain ⟨hslot, hshape⟩ := h n info hn
  obtain ⟨hslot', hshape'⟩ := h' n info hslot
  exact ⟨hslot', hshape'.trans hshape⟩

end Keeps

end Session

namespace Request

variable {r : Request} {s : Session}

/-- **One turn**: the slots of all nodes there were stay, or the shape that was asked for is put into an empty one. -/
theorem turn_cases (r : Request) (hw : s.store.WellFormed) :
    s.store.Grown (r.turn s).after.store ∨
    ∃ n spec info v, r.Attaches (.node n) spec ∧ s.store.slots.get? n.id = none ∧ (r.turn s).answer = .ok v ∧
      (r.turn s).after.store.slots = s.store.slots.insert n.id info ∧ s.store.next ≤ (r.turn s).after.store.next := by
  have unchanged : ∀ {t : Trouble}, outcome r.perform s = (.error t, s) →
      s.store.Grown (r.turn s).after.store := by
    intro t ht
    have hafter : (r.turn s).after = s := congrArg Prod.snd ht
    rw [hafter]
    exact .of_slots_eq hw rfl (Nat.le_refl _)
  rcases perform_cases r with hgrows | ⟨v, spec, h⟩
  · exact .inl (hgrows s hw)
  · cases v with
    | node n =>
      rcases attaches_cases h s with ⟨f, -, hf⟩ | ⟨_, _, -, -, hf⟩ | ⟨_, info, v, s', -, hnone, hv, -, hslots, hnext⟩
      · exact .inl (unchanged hf)
      · exact .inl (unchanged hf)
      · refine .inr ⟨n, spec, info, v, h, hnone, congrArg Prod.fst hv, ?_, ?_⟩
        · exact (congrArg (·.2.store.slots) hv).trans hslots
        · exact Nat.le_trans hnext (Nat.le_of_eq (congrArg (·.2.store.next) hv).symm)
    | _ => exact .inl (unchanged (perform_of_attachShape_error h rfl))

theorem wellFormed_after (hw : s.store.WellFormed) (hr : ∀ n ∈ r.given, n.id < s.store.next) :
    (r.turn s).after.store.WellFormed := by
  rcases r.turn_cases hw with hg | ⟨n, spec, info, v, h, -, -, hslots, hnext⟩
  · exact hg.wellFormed
  · intro id hid
    have hn : n.id < s.store.next := hr n h.mem_given
    have hne : id ≠ n.id := Nat.ne_of_gt (Nat.lt_of_lt_of_le hn (Nat.le_trans hnext hid))
    rw [hslots, Slots.get?_insert_ne _ _ hne]
    exact hw id (Nat.le_trans hnext hid)

end Request

/-! ## Whole runs -/

namespace Trace

variable {turns : List Turn} {s : Session}

theorem wellFormed (h : Trace turns s) : s.store.WellFormed := by
  induction h with
  | start => exact Store.empty_wellFormed
  | request _ r hr ih => exact Request.wellFormed_after ih hr
  | aside _ hslots hnext ih => exact (Store.Grown.of_slots_eq ih hslots hnext).wellFormed

end Trace

end Script

end ArrayTyping

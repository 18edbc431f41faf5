import ArrayTyping.Script.Eval
import ArrayTyping.Proofs.Making
import ArrayTyping.Proofs.Occurrences
/-!
# Procedures — what a call leaves of the slots

A call may build nodes and write the slots of those, and it may fail half-way.  Either way the slots of all nodes that
there were before stay as they are.  This holds of every procedure that a script can call but one: attaching a shape.
-/
namespace ArrayTyping

open Build (Steady)

/-! ## Requests on registries, and values that are kept -/

namespace Build

theorem steady_keep (v : Value) : Steady (keep v) := fun st => ⟨rfl, (v.kept_nodes st.next).1⟩

theorem steady_registry (id : Nat) : Steady (registry id) := fun _ => ⟨rfl, Nat.le_refl _⟩

theorem steady_newRegistry (r : Registry) : Steady (newRegistry r) := fun st => ⟨rfl, Nat.le_succ st.next⟩

theorem steady_setRegistry (id : Nat) (r : Registry) : Steady (setRegistry id r) := fun _ => ⟨rfl, Nat.le_refl _⟩

theorem steady_register (id : Nat) (kind : RuleKind) (op rule arity : Value) : Steady (register id kind op rule arity) :=
  (steady_registry id).bind fun _ => (Steady.lift _).bind fun r =>
    (steady_setRegistry id r).bind fun _ => Steady.record _

theorem steady_registerBoth (id : Nat) (op ndims shape arity : Value) : Steady (registerBoth id op ndims shape arity) :=
  (steady_register id .ndims op ndims arity).bind fun _ => steady_register id .shape op shape arity

theorem Steady.forM {α : Type} {f : α → Build Unit} (hf : ∀ a, Steady (f a)) : ∀ as : List α, Steady (as.forM f)
  | [] => .pure _
  | a :: as => (hf a).bind fun _ => Steady.forM hf as

theorem Grows.bookOf {α : Type} (registry : Value) {f : RuleBook → Build α}
    (hf : ∀ book : RuleBook, book.Grows → Grows (f book)) : Grows (Build.bookOf registry >>= f) := by
  cases registry with
  | none => exact hf _ RuleBook.builtin_grows
  | registry id =>
    show Grows ((Build.registry id >>= fun r => pure r.book) >>= f)
    rw [bind_assoc]
    refine (steady_registry id).grows.bind fun r => ?_
    rw [pure_bind]
    exact hf _ r.book_grows
  | _ =>
    refine hf _ (RuleBook.grows_of_reading fun kind op n rule h => ?_)
    cases h
    exact ⟨_, rfl⟩

end Build

namespace Script

namespace Run

variable {α β : Type}

def outcome (x : Run α) (s : Session) : Except Trouble α × Session := x.run.run s

theorem outcome_bind (x : Run α) (f : α → Run β) (s : Session) :
    outcome (x >>= f) s = match outcome x s with
      | (.ok a, s') => outcome (f a) s'
      | (.error t, s') => (.error t, s') := by
  simp only [outcome, ExceptT.run_bind, StateT.run_bind]
  rcases x.run.run s with ⟨_ | a, s'⟩ <;> rfl

theorem outcome_build (b : Build α) (s : Session) :
    outcome (build b) s = match Build.outcome b s.store with
      | (.ok a, st) => (.ok a, { s with store := st })
      | (.error f, st) => (.error (.fault f), { s with store := st }) := by
  have hrun : Build.outcome b s.store = b.run s.store := rfl
  show build b s = _
  rw [hrun, build]
  rcases b.run s.store with ⟨f | a, st⟩ <;> rfl

/-- The slots of earlier identities stay as they are, whatever the outcome. -/
def Grows (x : Run α) : Prop := ∀ s : Session, s.store.WellFormed → s.store.Grown (outcome x s).2.store

namespace Grows

theorem of_store_eq {x : Run α} (h : ∀ s, (outcome x s).2.store = s.store) : Grows x := by
  intro s hs
  rw [h s]
  exact .of_slots_eq hs rfl (Nat.le_refl _)

theorem pure (a : α) : Grows (Pure.pure a) := of_store_eq fun _ => rfl

theorem throw (t : Trouble) : Grows (MonadExcept.throw t : Run α) := of_store_eq fun _ => rfl

theorem fail (f : Fault) : Grows (Run.fail f : Run α) := throw _

theorem ofExcept (e : Except Fault α) : Grows (Run.ofExcept e) := by
  cases e with
  | ok a => exact pure a
  | error f => exact fail f

theorem slots : Grows Run.slots := of_store_eq fun _ => rfl

theorem refresh (v : Value) : Grows (Run.refresh v) := of_store_eq fun _ => rfl

theorem update (m : Mark) (v : Value) : Grows (Run.update m v) := of_store_eq fun _ => rfl

theorem bind {x : Run α} {f : α → Run β} (hx : Grows x) (hf : ∀ a, Grows (f a)) : Grows (x >>= f) := by
  intro s hs
  have hg := hx s hs
  rw [outcome_bind]
  rcases h : outcome x s with ⟨t | a, s'⟩
  · rw [h] at hg
    exact hg
  · rw [h] at hg
    exact hg.trans (hf a s' hg.wellFormed)

theorem build {b : Build α} (h : Build.Grows b) : Grows (Run.build b) := fun s hs => h s.store hs

theorem keep (v : Value) : Grows (Run.keep v) := build (Build.steady_keep v).grows

end Grows

end Run

open Script.Run (Grows)

/-! ## Walks that collect into a dictionary -/

namespace Shapes

def Settled {α : Type} (w : Walk Session α) : Prop :=
  ∀ s : Session, (w.run.run s).2.store.slots = s.store.slots ∧ s.store.next ≤ (w.run.run s).2.store.next

namespace Settled

variable {α β : Type}

theorem pure (a : α) : Settled (Pure.pure a) := fun _ => ⟨rfl, Nat.le_refl _⟩

theorem throw (f : Fault) : Settled (MonadExcept.throw f : Walk Session α) := fun _ => ⟨rfl, Nat.le_refl _⟩

theorem bind {w : Walk Session α} {f : α → Walk Session β} (hw : Settled w) (hf : ∀ a, Settled (f a)) :
    Settled (w >>= f) := by
  intro s
  obtain ⟨hs, hn⟩ := hw s
  simp only [ExceptT.run_bind, StateT.run_bind]
  rcases h : w.run.run s with ⟨e | a, s'⟩
  · rw [h] at hs hn
    exact ⟨hs, hn⟩
  · rw [h] at hs hn
    obtain ⟨hs', hn'⟩ := hf a s'
    exact ⟨hs'.trans hs, Nat.le_trans hn hn'⟩

theorem forM {f : α → Walk Session Unit} (hf : ∀ a, Settled (f a)) : ∀ as : List α, Settled (ForM.forM as f)
  | [] => pure _
  | a :: as => (hf a).bind fun _ => forM hf as

theorem grows {w : Walk Session α} (hw : Settled w) : Grows (walk w) := fun s hs =>
  .of_slots_eq hs (hw s).1 (hw s).2

end Settled

mutual

theorem settled_visitUses_node {visit : Visit Session} (hv : ∀ s o, Settled (visit s o)) :
    ∀ n : Node, Settled (n.visitUses visit)
  | .symbol _ => .pure _
  | .constant _ _ _ => .pure _
  | .term id op args am t tm => by
    rw [Node.visitUses.eq_def]
    dsimp only
    split
    · cases args with
      | nil => exact .throw _
      | cons array keys =>
        dsimp only
        rw [visitKeys_eq]
        exact .forM (fun u : Use => hv u.symbol u.occurrence) _
    · exact settled_visitUsesAll hv args
  | .arrayOp id output om body reduce source k e tm =>
    (settled_visitUses hv body).bind fun _ => settled_visitUsesOfSource hv source
termination_by structural n => n

theorem settled_visitUses {visit : Visit Session} (hv : ∀ s o, Settled (visit s o)) :
    ∀ v : Value, Settled (v.visitUses visit)
  | .node n => settled_visitUses_node hv n
  | .none | .bool _ | .int .. | .float .. | .complex .. | .scalar .. | .text .. | .list .. | .tuple .. | .dict ..
  | .range _ | .slice .. | .unknown | .shape _ | .dtype _ | .kind _ | .code _ | .type .. | .array _ | .object _
  | .callable _ | .occurrence .. | .view .. | .space .. | .registry _ | .diagnostic .. | .iterator .. => .pure _
termination_by structural v => v

theorem settled_visitUsesAll {visit : Visit Session} (hv : ∀ s o, Settled (visit s o)) :
    ∀ vs : List Value, Settled (visitUsesAll visit vs)
  | [] => .pure _
  | v :: vs => (settled_visitUses hv v).bind fun _ => settled_visitUsesAll hv vs
termination_by structural vs => vs

theorem settled_visitUsesOfSource {visit : Visit Session} (hv : ∀ s o, Settled (visit s o)) :
    ∀ n : Option Node, Settled (visitUsesOfSource visit n)
  | none => .pure _
  | some n => settled_visitUses_node hv n
termination_by structural n => n

end

theorem run_get_bind {α : Type} (f : Session → Walk Session α) (s : Session) :
    ((do f (← get)) : Walk Session α).run.run s = (f s).run.run s := rfl

theorem settled_growing (dictionary : Mark) (s : Symbol) (o : Occurrence) : Settled (growing dictionary s o) := by
  intro session
  have hnext := (o.toValue.kept_nodes session.store.next).1
  unfold growing
  rw [run_get_bind]
  rcases hkept : o.toValue.kept.run session.store.next with ⟨occurrence, next⟩
  rw [hkept] at hnext
  split
  · dsimp only
    split
    · exact ⟨rfl, hnext⟩
    · exact ⟨rfl, Nat.le_refl _⟩
    · exact ⟨rfl, Nat.le_succ_of_le hnext⟩
  · exact ⟨rfl, Nat.le_refl _⟩

end Shapes

/-! ## One procedure after the other -/

/-- Whatever the arguments, the slots of earlier identities stay as they are, if functions that are called back leave
them so. -/
def Procedure.Grows (p : Procedure) : Prop :=
  ∀ caller : Caller, (∀ id, Run.Grows (caller id)) → ∀ fixed rest, Run.Grows (p.body caller fixed rest)

namespace Procedure

theorem grows_onValues {name : String} {s : Signature} {body : List Value → List Value → Run Value}
    (h : ∀ fixed rest, Run.Grows (body fixed rest)) : (onValues name s body).Grows := fun _ _ => h

theorem grows_reading (name parameter : String) (f : Slots → Value → Except Fault Value) :
    (reading name parameter f).Grows := by
  refine grows_onValues fun fixed rest => ?_
  split
  · exact Grows.slots.bind fun _ => .ofExcept _
  · exact .fail _

theorem grows_reading2 (name first second : String) (f : Slots → Value → Value → Except Fault Value) :
    (reading2 name first second f).Grows := by
  refine grows_onValues fun fixed rest => ?_
  split
  · exact Grows.slots.bind fun _ => .ofExcept _
  · exact .fail _

theorem grows_building (name parameter : String) {f : Value → Build Value} (hf : ∀ v, Build.Grows (f v)) :
    (building name parameter f).Grows := by
  refine grows_onValues fun fixed rest => ?_
  split
  · exact .build (hf _)
  · exact .fail _

theorem grows_building2 (name first second : String) {f : Value → Value → Build Value}
    (hf : ∀ v w, Build.Grows (f v w)) : (building2 name first second f).Grows := by
  refine grows_onValues fun fixed rest => ?_
  split
  · exact .build (hf _ _)
  · exact .fail _

end Procedure

open Procedure

theorem declarationProcedures_grow : ∀ p ∈ declarationProcedures, p.Grows := by
  simp only [declarationProcedures, List.forall_mem_cons]
  refine ⟨grows_onValues fun _ names => ?_, grows_onValues fun fixed _ => ?_, grows_onValues fun fixed _ => ?_,
    grows_building _ _ fun v => ?_, grows_building _ _ Build.grows_operand, grows_building2 _ _ _ fun name type => ?_,
    grows_onValues fun fixed _ => ?_, grows_building _ _ fun v => ?_, grows_onValues fun fixed _ => ?_,
    grows_reading _ _ _, grows_reading _ _ _, grows_reading _ _ _, grows_reading _ _ _, grows_onValues fun fixed _ => ?_,
    grows_reading _ _ _, grows_onValues fun _ _ => .pure _, fun p hp => nomatch hp⟩
  · exact (Grows.build (Build.steady_indexSymbols names).grows).bind fun _ => .pure _
  · split
    · exact (Grows.build (Build.steady_scalarSymbol _ _).grows).bind fun _ => .pure _
    · exact .fail _
  · split
    · exact (Grows.build (Build.grows_arraySymbol _ _ _ _ _)).bind fun _ => .pure _
    · exact .fail _
  · exact (Build.grows_constant v).bind fun _ => (Steady.pure _).grows
  · exact (Build.steady_rawSymbol name type).grows.bind fun _ => (Steady.pure _).grows
  · split
    · exact (Grows.build (Build.steady_rawTerm _ _ _).grows).bind fun _ => .pure _
    · exact .fail _
  · exact (Build.steady_rawConstant v).grows.bind fun _ => (Steady.pure _).grows
  · split
    · exact (Grows.ofExcept _).bind fun _ => .pure _
    · exact .fail _
  · split
    · exact Grows.slots.bind fun _ => (Grows.ofExcept _).bind fun _ => .pure _
    · exact .fail _

theorem inspectionProcedures_grow : ∀ p ∈ inspectionProcedures, p.Grows := by
  simp only [inspectionProcedures, List.forall_mem_cons, grows_reading, grows_reading2, true_and]
  exact fun p hp => nomatch hp

def attachingProcedure : Procedure :=
  building2 "attach_shape" "node" "shape" fun v spec => do return .ofShape (← Build.attachShape v spec)

theorem grows_checkEntries (es : List (Value × Value)) : Build.Grows (Shapes.checkEntries es) := by
  induction es with
  | nil => exact (Steady.pure _).grows
  | cons e es ih =>
    obtain ⟨key, items⟩ := e
    refine Steady.slots.grows.bind fun slots => (Steady.lift _).grows.bind fun os => ?_
    refine (Build.steady_checkSymbol _ os).grows.bind fun r => ?_
    cases r with
    | none => exact ih
    | some a => exact ih.bind fun _ => (Steady.pure _).grows

theorem grows_outputShape (output body : Value) : Build.Grows (Shapes.outputShape output body) := by
  unfold Shapes.outputShape
  split
  · exact (Build.steady_outputShape _ body).grows.bind fun _ => (Steady.pure _).grows
  · refine (Steady.lift _).grows.bind fun usage => ?_
    exact (Build.steady_checkConsistency usage).grows.bind fun _ => (Steady.throw _).grows

theorem grows_collect (v usage : Value) : Grows (Shapes.collect v usage) := by
  unfold Shapes.collect
  split
  · exact (Grows.ofExcept _).bind fun _ => .pure _
  · split
    · refine (Grows.update _ _).bind fun _ => ?_
      exact (Shapes.settled_visitUses (Shapes.settled_growing _) v).grows.bind fun _ => .refresh _
    · exact .refresh _
  · exact (Shapes.settled_visitUses (fun _ _ => .throw _) v).grows.bind fun _ => .pure _

theorem shapeProcedures_grow : ∀ p ∈ shapeProcedures, p = attachingProcedure ∨ p.Grows := by
  simp only [shapeProcedures, List.forall_mem_cons]
  refine ⟨.inr (grows_reading _ _ _), .inl rfl, .inr (grows_reading _ _ _), .inr (grows_reading _ _ _),
    .inr (grows_reading _ _ _), .inr (grows_reading _ _ _), .inr (grows_reading _ _ _), .inr (grows_reading _ _ _),
    .inr (grows_reading _ _ _), .inr (grows_reading2 _ _ _ _), .inr (grows_onValues fun fixed _ => ?_),
    .inr (grows_building _ _ fun v => ?_), .inr (grows_reading2 _ _ _ _), .inr (grows_reading _ _ _),
    .inr (grows_reading _ _ _), .inr (grows_building2 _ _ _ grows_outputShape), fun p hp => nomatch hp⟩
  · split
    · exact grows_collect _ _
    · exact .fail _
  · split
    · exact (grows_checkEntries _).bind fun _ => (Steady.pure _).grows
    · exact (Steady.throw _).grows

theorem grows_applying (name parameter : String) {f : RuleBook → Value → List Value → Build Node}
    (hf : ∀ book : RuleBook, book.Grows → ∀ op args, Build.Grows (f book op args)) :
    (Operations.applying name parameter f).Grows := by
  refine grows_onValues fun fixed args => ?_
  split
  · refine .build (.bookOf _ fun book hbook => ?_)
    exact (hf book hbook _ _).bind fun _ => (Steady.pure _).grows
  · exact .fail _

theorem grows_callWith {caller : Caller} (hc : ∀ id, Grows (caller id)) (args : List Value) :
    ∀ f : Callable, Grows (callWith caller args f)
  | .elementwise f _ => grows_callWith hc args f
  | .thunk id => by
    rw [callWith]
    split
    · exact hc id
    · exact .fail _
  | .primitive _ | .family _ | .scaled .. | .unhashable .. | .rule _ | .answer .. | .reader .. =>
    .build (Build.grows_call _ _)

theorem operationProcedures_grow : ∀ p ∈ operationProcedures, p.Grows := by
  simp only [operationProcedures, List.forall_mem_cons, Operations.binary, Operations.unary]
  refine ⟨grows_applying _ _ fun _ h => Build.grows_apply h, grows_building2 _ _ _ fun array key => ?_,
    grows_onValues fun fixed _ => ?_, grows_onValues fun fixed _ => ?_,
    grows_applying _ _ fun _ h => Build.grows_elementwise h, grows_applying _ _ fun _ h => Build.grows_arrayTerm h,
    grows_reading _ _ _, grows_reading _ _ _, grows_reading _ _ _, fun caller hc fixed rest => ?_,
    fun caller hc fixed rest => ?_, grows_building2 _ _ _ (Build.grows_binary _),
    grows_building2 _ _ _ (Build.grows_binary _), grows_building2 _ _ _ (Build.grows_binary _),
    grows_building2 _ _ _ (Build.grows_binary _), grows_building2 _ _ _ (Build.grows_binary _),
    grows_building2 _ _ _ (Build.grows_binary _), grows_building _ _ (Build.grows_unary _),
    grows_building _ _ (Build.grows_unary _), grows_building _ _ (Build.grows_unary _),
    grows_building2 _ _ _ Build.grows_subscript, fun p hp => nomatch hp⟩
  · exact (Build.grows_index array key).bind fun _ => (Steady.pure _).grows
  · split
    · refine .build (.bookOf _ fun book hbook => ?_)
      exact (Build.grows_apply hbook _ _).bind fun _ => (Steady.pure _).grows
    · exact .fail _
  · split
    · refine .build (.bookOf _ fun book hbook => ?_)
      exact (Build.grows_apply hbook _ _).bind fun _ => (Steady.pure _).grows
    · exact .fail _
  · dsimp only
    split
    · split
      · exact grows_callWith hc _ _
      · exact .fail _
    · exact .fail _
  · dsimp only
    split
    · refine Grows.bind ?_ fun body => (Grows.build (Build.grows_arrayOp _ _ _ _ _)).bind fun _ => .pure _
      unfold Operations.bodyOf
      split
      · exact grows_callWith hc _ _
      · exact .pure _
    · exact .fail _

theorem grows_onApplication (name : String) (f : Slots → Value → List Value → Except Fault Value) :
    (Propagation.onApplication name f).Grows := by
  refine grows_onValues fun fixed args => ?_
  split
  · exact Grows.slots.bind fun _ => .ofExcept _
  · exact .fail _

theorem grows_rule (r : BuiltinRule) : (Propagation.rule r).Grows := by
  refine grows_onValues fun fixed rest => ?_
  split
  · exact Grows.slots.bind fun _ => .ofExcept _
  · exact .fail _

theorem propagationProcedures_grow : ∀ p ∈ propagationProcedures, p.Grows := by
  simp only [propagationProcedures, List.forall_mem_append, List.forall_mem_cons, grows_reading, grows_reading2,
    grows_onApplication, true_and]
  refine ⟨fun p hp => (nomatch hp), fun p hp => ?_⟩
  obtain ⟨r, -, rfl⟩ := List.mem_map.1 hp
  exact grows_rule r

theorem grows_onRegistry (name : String) (parameters : List String) (keywordOnly : List Parameter) (takesRest : Bool)
    {f : Nat → List Value → List Value → Build Value} (hf : ∀ id args rest, Build.Grows (f id args rest)) :
    (Propagation.onRegistry name parameters keywordOnly takesRest f).Grows := by
  refine grows_onValues fun fixed rest => ?_
  split
  · exact .build (hf _ _ _)
  · exact .fail _

theorem grows_registration (name : String) (kind : RuleKind) (answer : Value → Value) :
    (Propagation.registration name kind answer).Grows := by
  refine grows_onRegistry _ _ _ _ fun id args rest => ?_
  split
  · exact ((Build.steady_register _ _ _ _ _).bind fun _ => Steady.pure _).grows
  · exact (Steady.throw _).grows

theorem registryProcedures_grow : ∀ p ∈ registryProcedures, p.Grows := by
  simp only [registryProcedures, List.forall_mem_cons, grows_registration, true_and]
  refine ⟨grows_onValues fun _ _ => ?_, grows_onValues fun _ _ => ?_, grows_onRegistry _ _ _ _ fun id _ _ => ?_,
    grows_onRegistry _ _ _ _ fun id args _ => ?_, grows_onRegistry _ _ _ _ fun id args _ => ?_,
    grows_onRegistry _ _ _ _ fun id _ _ => ?_, grows_onRegistry _ _ _ _ fun id args rest => ?_,
    grows_onRegistry _ _ _ _ fun id args rest => ?_, fun p hp => nomatch hp⟩
  · exact (Grows.build (Build.steady_newRegistry _).grows).bind fun _ => .pure _
  · exact (Grows.build (Build.steady_newRegistry _).grows).bind fun _ => .pure _
  · exact ((Steady.forM (fun _ => Build.steady_registerBoth _ _ _ _ _) builtinEntries).bind fun _ => Steady.pure _).grows
  · split
    · exact ((Build.steady_registerBoth _ _ _ _ _).bind fun _ => Steady.pure _).grows
    · exact (Steady.throw _).grows
  · split
    · refine ((Steady.lift _).bind fun k => ?_).grows
      exact (Build.steady_registry id).bind fun _ => Steady.pure _
    · exact (Steady.throw _).grows
  · exact (((Build.steady_registry id).bind fun _ => Build.steady_newRegistry _).bind fun _ => Steady.pure _).grows
  · split
    · refine (Build.steady_registry id).grows.bind fun r => ?_
      exact (r.book_grows.rank _ _).bind fun _ => (Steady.pure _).grows
    · exact (Steady.throw _).grows
  · split
    · refine (Build.steady_registry id).grows.bind fun r => ?_
      exact (r.book_grows.shape _ _).bind fun _ => (Steady.pure _).grows
    · exact (Steady.throw _).grows

theorem grows_dimensional (name parameter : String) (f : Slots → Value → Value → Except Fault Value) :
    (Queries.dimensional name parameter f).Grows := by
  refine grows_onValues fun fixed _ => ?_
  split
  · exact Grows.slots.bind fun _ => .ofExcept _
  · exact .fail _

theorem grows_firstItems (v limit : Value) : Build.Grows (Queries.firstItems v limit) := by
  refine (Steady.lift _).grows.bind fun limit? => ?_
  split
  · refine Build.Grows.bind (Build.Grows.mapM (fun i => ?_) _) fun _ => (Steady.pure _).grows
    exact (Build.grows_index _ _).bind fun _ => (Steady.pure _).grows
  · exact ((Steady.lift _).bind fun _ => Steady.pure _).grows
  · exact ((Steady.lift _).bind fun _ => Steady.pure _).grows

theorem queryProcedures_grow : ∀ p ∈ queryProcedures, p.Grows := by
  simp only [queryProcedures, List.forall_mem_cons, grows_reading, grows_reading2, grows_dimensional,
    grows_building2 _ _ _ grows_firstItems, true_and]
  exact fun p hp => nomatch hp

theorem grows_viewTranspose (v : Value) : Build.Grows (Queries.viewTranspose v) := by
  unfold Queries.viewTranspose
  split
  · exact (Build.grows_apply RuleBook.builtin_grows _ _).bind fun _ => (Steady.pure _).grows
  · exact (Steady.throw _).grows

theorem viewProcedures_grow : ∀ p ∈ viewProcedures, p.Grows := by
  simp only [viewProcedures, List.forall_mem_cons, grows_reading, grows_dimensional,
    grows_building _ _ grows_viewTranspose, true_and]
  exact fun p hp => nomatch hp

/-- **Attaching a shape is the only call that writes to the slot of an earlier node.** -/
theorem procedures_grow : ∀ p ∈ procedures, p = attachingProcedure ∨ p.Grows := by
  simp only [procedures, List.forall_mem_append]
  exact ⟨⟨⟨⟨⟨⟨⟨fun p hp => .inr (declarationProcedures_grow p hp), fun p hp => .inr (inspectionProcedures_grow p hp)⟩,
    shapeProcedures_grow⟩, fun p hp => .inr (operationProcedures_grow p hp)⟩,
    fun p hp => .inr (propagationProcedures_grow p hp)⟩, fun p hp => .inr (registryProcedures_grow p hp)⟩,
    fun p hp => .inr (queryProcedures_grow p hp)⟩, fun p hp => .inr (viewProcedures_grow p hp)⟩

end Script

end ArrayTyping

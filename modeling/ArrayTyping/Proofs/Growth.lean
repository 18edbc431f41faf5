import ArrayTyping.Proofs.Nodes
import ArrayTyping.RegisteredRules
/-!
# Growth — how requests change the store

A slot belongs to the identity of one node.  In a well-formed store no slot is written whose identity has not been given
out yet.  A request is *steady* if it leaves all slots as they are, and it *grows* the store if it leaves the slots of
all earlier identities as they are: whatever it writes, it writes for nodes that it makes itself.  Every constructor
grows the store, whether it succeeds or not.
-/
namespace ArrayTyping

namespace Slots

theorem get?_insert_self (s : Slots) (id : NodeId) (shape : ShapeInfo) : (s.insert id shape).get? id = some shape := by
  unfold get? insert
  rw [List.lookup_cons_self]

theorem get?_insert_ne (s : Slots) {id id' : NodeId} (shape : ShapeInfo) (h : id' ≠ id) :
    (s.insert id shape).get? id' = s.get? id' := by
  unfold get? insert
  rw [List.lookup_cons, beq_false_of_ne h]

theorem shapeOf_of_slot {slots : Slots} {n : Node} {info : ShapeInfo} (h : slots.get? n.id = some info) :
    slots.shapeOf (.node n) = .ok info := by
  simp only [shapeOf, h]

theorem shapeOf_of_no_slot {slots : Slots} {n : Node} (h : slots.get? n.id = none) :
    slots.shapeOf (.node n) = n.initialShape := by
  simp only [shapeOf, h]

theorem shapeOf_of_scalar {slots : Slots} {n : Node} (h : slots.get? n.id = none) (hn : n.isArray = false) :
    slots.shapeOf (.node n) = .ok (some .scalar) := by
  rw [shapeOf_of_no_slot h]
  cases n with
  | constant => cases hn
  | symbol | term | arrayOp => exact congrArg Except.ok (if_neg (by rw [hn]; exact Bool.false_ne_true))

theorem shapeOf_congr {slots slots' : Slots} {n : Node} (h : slots'.get? n.id = slots.get? n.id) :
    slots'.shapeOf (.node n) = slots.shapeOf (.node n) := by
  simp only [shapeOf, h]

theorem hasShape_of_slot {slots : Slots} {n : Node} {info : ShapeInfo} (h : slots.get? n.id = some info) :
    slots.hasShape (.node n) = true := by
  simp only [hasShape, h, Option.isSome_some]

theorem hasShape_congr {slots slots' : Slots} {n : Node} (h : slots'.get? n.id = slots.get? n.id) :
    slots'.hasShape (.node n) = slots.hasShape (.node n) := by
  simp only [hasShape, h]

end Slots

namespace Store

/-- No slot is written whose identity has not been given out. -/
def WellFormed (st : Store) : Prop := ∀ id, st.next ≤ id → st.slots.get? id = none

theorem empty_wellFormed : Store.empty.WellFormed := fun _ _ => rfl

/-- The store `st'` comes after the well-formed store `st`, and has the slots of all earlier identities unchanged. -/
structure Grown (st st' : Store) : Prop where
  next_le : st.next ≤ st'.next
  kept : ∀ id, id < st.next → st'.slots.get? id = st.slots.get? id
  wellFormed : st'.WellFormed

namespace Grown

theorem trans {st st' st'' : Store} (h : st.Grown st') (h' : st'.Grown st'') : st.Grown st'' where
  next_le := Nat.le_trans h.next_le h'.next_le
  kept id hid := by rw [h'.kept id (Nat.lt_of_lt_of_le hid h.next_le), h.kept id hid]
  wellFormed := h'.wellFormed

theorem of_slots_eq {st st' : Store} (h : st.WellFormed) (hs : st'.slots = st.slots) (hn : st.next ≤ st'.next) :
    st.Grown st' where
  next_le := hn
  kept _ _ := by rw [hs]
  wellFormed id hid := by rw [hs]; exact h id (Nat.le_trans hn hid)

theorem shapeOf_eq {st st' : Store} (hg : st.Grown st') {v : Value} (hlt : ∀ n, v = .node n → n.id < st.next) :
    st'.slots.shapeOf v = st.slots.shapeOf v := by
  cases v with
  | node n => exact Slots.shapeOf_congr (hg.kept _ (hlt n rfl))
  | _ => rfl

end Grown

end Store

namespace Build

variable {α β : Type}

/-! ## Steady requests -/

/-- The slots stay as they are, whatever the outcome. -/
def Steady (x : Build α) : Prop := ∀ st, (outcome x st).2.slots = st.slots ∧ st.next ≤ (outcome x st).2.next

namespace Steady

theorem pure (a : α) : Steady (Pure.pure a) := fun _ => ⟨rfl, Nat.le_refl _⟩

theorem throw (f : Fault) : Steady (MonadExcept.throw f : Build α) := fun _ => ⟨rfl, Nat.le_refl _⟩

theorem refuse (r : Refusal) : Steady (Build.refuse r : Build α) := fun _ => ⟨rfl, Nat.le_refl _⟩

theorem lift (e : Except Fault α) : Steady (liftM e : Build α) := fun _ => ⟨rfl, Nat.le_refl _⟩

theorem slots : Steady Build.slots := fun _ => ⟨rfl, Nat.le_refl _⟩

theorem fresh : Steady Build.fresh := fun _ => ⟨rfl, Nat.le_succ _⟩

theorem record (e : Event) : Steady (Build.record e) := fun _ => ⟨rfl, Nat.le_refl _⟩

theorem bind {x : Build α} {f : α → Build β} (hx : Steady x) (hf : ∀ a, Steady (f a)) : Steady (x >>= f) := by
  intro st
  obtain ⟨hs, hn⟩ := hx st
  rw [outcome_bind]
  rcases h : outcome x st with ⟨e | a, st'⟩
  · rw [h] at hs hn
    exact ⟨hs, hn⟩
  · rw [h] at hs hn
    obtain ⟨hs', hn'⟩ := hf a st'
    exact ⟨hs'.trans hs, Nat.le_trans hn hn'⟩

theorem mapM {f : α → Build β} (hf : ∀ a, Steady (f a)) : ∀ as : List α, Steady (as.mapM f)
  | [] => by
    rw [List.mapM_nil]
    exact pure _
  | a :: as => by
    rw [List.mapM_cons]
    exact (hf a).bind fun b => (mapM hf as).bind fun bs => pure _

end Steady

/-! ## Requests that grow the store -/

/-- The slots of earlier identities stay as they are, whatever the outcome. -/
def Grows (x : Build α) : Prop := ∀ st : Store, st.WellFormed → st.Grown (outcome x st).2

theorem Steady.grows {x : Build α} (hx : Steady x) : Grows x :=
  fun st h => .of_slots_eq h (hx st).1 (hx st).2

namespace Grows

theorem bind {x : Build α} {f : α → Build β} (hx : Grows x) (hf : ∀ a, Grows (f a)) : Grows (x >>= f) := by
  intro st hw
  have hg := hx st hw
  rw [outcome_bind]
  rcases h : outcome x st with ⟨e | a, st'⟩
  · rw [h] at hg
    exact hg
  · rw [h] at hg
    exact hg.trans (hf a st' hg.wellFormed)

theorem mapM {f : α → Build β} (hf : ∀ a, Grows (f a)) : ∀ as : List α, Grows (as.mapM f)
  | [] => by
    rw [List.mapM_nil]
    exact (Steady.pure _).grows
  | a :: as => by
    rw [List.mapM_cons]
    exact (hf a).bind fun b => (mapM hf as).bind fun bs => (Steady.pure _).grows

theorem ite {p : Prop} [Decidable p] {x y : Build α} (hx : Grows x) (hy : Grows y) :
    Grows (if p then x else y) := by
  split
  · exact hx
  · exact hy

end Grows

theorem Grows.of_ok {x : Build α} (hx : Grows x) {st st' : Store} {a : α} (hw : st.WellFormed)
    (h : outcome x st = (.ok a, st')) : st.Grown st' := by
  have hg := hx st hw
  rw [h] at hg
  exact hg

/-! ## Writing a slot -/

theorem outcome_attach_of_some {n : Node} {s held : ShapeInfo} {st : Store} (h : st.slots.get? n.id = some held) :
    outcome (attach n s) st = (.error (.conflict (.alreadyAttached n held)), st) := by
  unfold attach
  rw [outcome_bind_of_ok (outcome_slots st)]
  simp only [h]
  rfl

/-- **An empty slot is written with the given shape**, apart from marks, and nothing else changes in the slots. -/
theorem outcome_attach_of_none {n : Node} (s : ShapeInfo) {st : Store} (h : st.slots.get? n.id = none) :
    ∃ s' st', outcome (attach n s) st = (.ok s', st') ∧ s'.map Shape.plain = s.map Shape.plain ∧
      st'.slots = st.slots.insert n.id s' ∧ st.next ≤ st'.next := by
  have hk : Keeps (s.mapM Shape.kept) fun s' => s'.map Shape.plain = s.map Shape.plain := by
    refine (Keeps.optionMapM Shape.kept_plain s).imp fun s' hs' => ?_
    cases hs' with
    | none => rfl
    | some h => exact congrArg some h
  unfold attach
  rw [outcome_bind_of_ok (outcome_slots st)]
  simp only [h]
  exact ⟨_, _, rfl, (hk st.next).2, rfl, (hk st.next).1⟩

theorem attach_ok {n : Node} {s s' : ShapeInfo} {st st' : Store} (h : outcome (attach n s) st = (.ok s', st')) :
    st.slots.get? n.id = none ∧ s'.map Shape.plain = s.map Shape.plain ∧
      st'.slots = st.slots.insert n.id s' ∧ st.next ≤ st'.next := by
  cases hg : st.slots.get? n.id with
  | some held =>
    rw [outcome_attach_of_some hg] at h
    cases h
  | none =>
    obtain ⟨t, st'', ho, ht⟩ := outcome_attach_of_none s hg
    rw [ho] at h
    cases h
    exact ⟨rfl, ht⟩

theorem grown_attach {st₀ st : Store} (hg : st₀.Grown st) {n : Node} (s : ShapeInfo) (hnew : st₀.next ≤ n.id)
    (hid : n.id < st.next) : st₀.Grown (outcome (attach n s) st).2 := by
  cases h : st.slots.get? n.id with
  | some held =>
    rw [outcome_attach_of_some h]
    exact hg
  | none =>
    obtain ⟨s', st', ho, -, hs, hn⟩ := outcome_attach_of_none s h
    rw [ho]
    refine ⟨Nat.le_trans hg.next_le hn, fun id hlt => ?_, fun id hle => ?_⟩
    · have hne : id ≠ n.id := Nat.ne_of_lt (Nat.lt_of_lt_of_le hlt hnew)
      rw [hs, Slots.get?_insert_ne _ _ hne, hg.kept id hlt]
    · have hle : st.next ≤ id := Nat.le_trans hn hle
      have hne : id ≠ n.id := Nat.ne_of_gt (Nat.lt_of_lt_of_le hid hle)
      rw [hs, Slots.get?_insert_ne _ _ hne]
      exact hg.wellFormed id hle

end Build

end ArrayTyping

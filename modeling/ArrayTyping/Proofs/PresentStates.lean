import ArrayTyping.Proofs.Keeping
import ArrayTyping.Value.Refresh
/-!
# PresentStates — values up to what shared lists hold by now

A list that grows is one list wherever a value holds it, so a value changes with the lists in it.  Two values are the
same but for certain lists and dictionaries if they are equal once these are emptied in both.  Putting later states of
those lists into a value then leaves it the same.
-/
namespace ArrayTyping

namespace Cells

def emptied (own : List Mark) : Cells := own.map fun l => (l, .list [] l)

/-- Every state is that of a list or dictionary among the given ones. -/
def Within (own : List Mark) (cells : Cells) : Prop :=
  ∀ l v, cells.lookup l = some v → l ∈ own ∧ ((∃ items, v = .list items l) ∨ ∃ entries, v = .dict entries l)

theorem lookup_emptied_of_mem {own : List Mark} {l : Mark} (h : l ∈ own) :
    (emptied own).lookup l = some (.list [] l) := by
  induction own with
  | nil => cases h
  | cons k own ih =>
    rw [emptied, List.map_cons, List.lookup_cons]
    by_cases hk : l = k
    · simp [hk]
    · simp only [beq_eq_false_iff_ne.2 hk]
      exact ih ((List.mem_cons.1 h).resolve_left hk)

theorem within_emptied {own own' : List Mark} (h : ∀ l ∈ own, l ∈ own') : Within own' (emptied own) := by
  intro l v hv
  induction own with
  | nil => cases hv
  | cons k own ih =>
    rw [emptied, List.map_cons, List.lookup_cons] at hv
    obtain ⟨hk, hrest⟩ := List.forall_mem_cons.1 h
    by_cases hlk : l = k
    · subst hlk
      simp only [beq_self_eq_true, Option.some.injEq] at hv
      exact ⟨hk, .inl ⟨[], hv.symm⟩⟩
    · simp only [beq_eq_false_iff_ne.2 hlk] at hv
      exact ih hrest hv

end Cells

open Cells (Within emptied)

section

variable {own : List Mark} {cells : Cells}

theorem refreshed_list_of_state (h : Within own cells) {l : Mark} {v : Value} (hv : cells.lookup l = some v) :
    v.refreshed (emptied own) = .list [] l := by
  obtain ⟨hmem, ⟨items, rfl⟩ | ⟨entries, rfl⟩⟩ := h l v hv
  · rw [Value.refreshed, Cells.lookup_emptied_of_mem hmem]
    rfl
  · rw [Value.refreshed, Cells.lookup_emptied_of_mem hmem]
    rfl

mutual

/-- **Later states of the given lists do not show once these are emptied.** -/
theorem Value.emptied_refreshed (h : Within own cells) :
    ∀ v : Value, (v.refreshed cells).refreshed (emptied own) = v.refreshed (emptied own)
  | .list items l => by
    rw [Value.refreshed.eq_def cells]
    dsimp only
    cases hl : cells.lookup l with
    | some v =>
      obtain ⟨hmem, -⟩ := h l v hl
      rw [Option.getD_some, refreshed_list_of_state h hl, Value.refreshed, Cells.lookup_emptied_of_mem hmem]
      rfl
    | none => rw [Option.getD_none, Value.refreshed, refreshedAll_emptied h items, ← Value.refreshed]
  | .dict entries l => by
    rw [Value.refreshed.eq_def cells]
    dsimp only
    cases hl : cells.lookup l with
    | some v =>
      obtain ⟨hmem, -⟩ := h l v hl
      rw [Option.getD_some, refreshed_list_of_state h hl, Value.refreshed, Cells.lookup_emptied_of_mem hmem]
      rfl
    | none => rw [Option.getD_none, Value.refreshed, refreshedEntries_emptied h entries, ← Value.refreshed]
  | .tuple items m => by simp only [Value.refreshed, refreshedAll_emptied h items]
  | .slice start stop step m => by
    simp only [Value.refreshed, Value.emptied_refreshed h start, Value.emptied_refreshed h stop,
      Value.emptied_refreshed h step]
  | .callable f => by simp only [Value.refreshed, Callable.emptied_refreshed h f]
  | .node n => by simp only [Value.refreshed, Node.emptied_refreshed h n]
  | .occurrence array dimension m => by
    simp only [Value.refreshed, Value.emptied_refreshed h array, Value.emptied_refreshed h dimension]
  | .view n m => by simp only [Value.refreshed, Node.emptied_refreshed h n]
  | .space axes m => by simp only [Value.refreshed, Value.emptied_refreshed h axes]
  | .iterator source m => by simp only [Value.refreshed, Value.emptied_refreshed h source]
  | .none | .bool _ | .int .. | .float .. | .complex .. | .scalar .. | .text .. | .range _ | .unknown | .shape _
  | .dtype _ | .kind _ | .code _ | .type .. | .array _ | .object _ | .registry _ | .diagnostic .. => rfl
termination_by structural v => v

theorem refreshedAll_emptied (h : Within own cells) : ∀ vs : List Value,
    refreshedAll (emptied own) (refreshedAll cells vs) = refreshedAll (emptied own) vs
  | [] => rfl
  | v :: vs => by simp only [refreshedAll, Value.emptied_refreshed h v, refreshedAll_emptied h vs]
termination_by structural vs => vs

theorem refreshedEntries_emptied (h : Within own cells) : ∀ es : List (Value × Value),
    refreshedEntries (emptied own) (refreshedEntries cells es) = refreshedEntries (emptied own) es
  | [] => rfl
  | (k, v) :: es => by
    simp only [refreshedEntries, Value.emptied_refreshed h k, Value.emptied_refreshed h v,
      refreshedEntries_emptied h es]
termination_by structural es => es

theorem Node.emptied_refreshed (h : Within own cells) :
    ∀ n : Node, (n.refreshed cells).refreshed (emptied own) = n.refreshed (emptied own)
  | .symbol _ | .constant .. => rfl
  | .term id op args am t tm => by
    simp only [Node.refreshed, Callable.emptied_refreshed h op, refreshedAll_emptied h args]
  | .arrayOp id output om body reduce source k e tm => by
    simp only [Node.refreshed, Value.emptied_refreshed h body, Callable.emptied_refreshed h reduce,
      refreshedSource_emptied h source]
termination_by structural n => n

theorem refreshedSource_emptied (h : Within own cells) : ∀ n : Option Node,
    refreshedSource (emptied own) (refreshedSource cells n) = refreshedSource (emptied own) n
  | .none => rfl
  | .some n => by simp only [refreshedSource, Node.emptied_refreshed h n]
termination_by structural n => n

theorem Callable.emptied_refreshed (h : Within own cells) :
    ∀ f : Callable, (f.refreshed cells).refreshed (emptied own) = f.refreshed (emptied own)
  | .scaled k m => by simp only [Callable.refreshed, Value.emptied_refreshed h k]
  | .unhashable k m => by simp only [Callable.refreshed, Value.emptied_refreshed h k]
  | .elementwise f m => by simp only [Callable.refreshed, Callable.emptied_refreshed h f]
  | .answer id label v => by simp only [Callable.refreshed, Value.emptied_refreshed h v]
  | .primitive _ | .family _ | .thunk _ | .rule _ | .reader .. => rfl
termination_by structural f => f

end

namespace Value

/-- The two values differ at most in what the given lists and dictionaries hold. -/
def SameBut (own : List Mark) (v w : Value) : Prop := v.refreshed (emptied own) = w.refreshed (emptied own)

namespace SameBut

variable {u v w : Value}

theorem refl (v : Value) : v.SameBut own v := rfl

theorem trans (h : u.SameBut own v) (h' : v.SameBut own w) : u.SameBut own w := Eq.trans h h'

/-- A later state of one of the lists. -/
theorem of_refreshed (h : Within own cells) (v : Value) : v.SameBut own (v.refreshed cells) :=
  (v.emptied_refreshed h).symm

theorem mono {own' : List Mark} (h : v.SameBut own w) (hsub : ∀ l ∈ own, l ∈ own') : v.SameBut own' w := by
  have hv := v.emptied_refreshed (Cells.within_emptied hsub)
  have hw := w.emptied_refreshed (Cells.within_emptied hsub)
  unfold SameBut at h ⊢
  rw [← hv, h, hw]

end SameBut

theorem forall₂_sameBut_refl (vs : List Value) : List.Forall₂ (SameBut own) vs vs :=
  List.forall₂_same.2 fun v _ => .refl v

theorem forall₂_sameBut_refreshedAll (h : Within own cells) (vs : List Value) :
    List.Forall₂ (SameBut own) vs (refreshedAll cells vs) := by
  induction vs with
  | nil => exact .nil
  | cons v vs ih => exact .cons (.of_refreshed h v) ih

end Value

end

/-! ## Later states of dictionaries -/

namespace Cells

theorem within_singleton {own : List Mark} {l : Mark} (h : l ∈ own) (items : List Value) :
    Within own [(l, .list items l)] := by
  intro k v hv
  rw [List.lookup_cons] at hv
  by_cases hk : k = l
  · subst hk
    simp only [beq_self_eq_true, Option.some.injEq] at hv
    exact ⟨h, .inl ⟨items, hv.symm⟩⟩
  · simp only [beq_eq_false_iff_ne.2 hk, List.lookup_nil] at hv
    cases hv

theorem lookup_update_self (cells : Cells) (m : Mark) (v : Value) : (cells.update m v).lookup m = some v := by
  rw [update, List.lookup_cons_self]

theorem lookup_update_of_ne {cells : Cells} {l m k : Mark} {entries : List (Value × Value)} (hml : m ≠ l)
    (h : cells.lookup m = some (.dict entries k)) (v : Value) :
    (cells.update l v).lookup m = some (.dict (refreshedEntries [(l, v)] entries) k) := by
  rw [update, List.lookup_cons, beq_eq_false_iff_ne.2 hml]
  dsimp only
  induction cells with
  | nil => cases h
  | cons c cells ih =>
    obtain ⟨n, w⟩ := c
    rw [List.lookup_cons] at h
    by_cases hn : n = l
    · subst hn
      rw [beq_eq_false_iff_ne.2 hml] at h
      rw [List.filter_cons_of_neg (by simp)]
      exact ih h
    · rw [List.filter_cons_of_pos (by simpa using hn), List.map_cons, List.lookup_cons]
      by_cases hmn : m = n
      · subst hmn
        simp only [beq_self_eq_true, Option.some.injEq] at h
        subst h
        simp only [beq_self_eq_true]
      · rw [beq_eq_false_iff_ne.2 hmn] at h ⊢
        exact ih h

end Cells

end ArrayTyping

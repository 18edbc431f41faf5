import ArrayTyping.IndexUsage
/-!
# Axes — when axes agree

Two axes agree exactly if they enumerate the same indices, although only lengths, first indices and steps are compared.
-/
namespace ArrayTyping

namespace Axis

theorem length_toList (a : Axis) : a.toList.length = a.length := by
  rw [toList, List.length_map, List.length_range]

theorem getElem?_toList (a : Axis) {k : Nat} (h : k < a.length) : a.toList[k]? = some (a.nth k) := by
  rw [toList, List.getElem?_map, List.getElem?_range h, Option.map_some]

theorem toList_of_length_zero {a : Axis} (h : a.length = 0) : a.toList = [] :=
  List.length_eq_zero_iff.1 (a.length_toList.trans h)

theorem toList_of_length_one {a : Axis} (h : a.length = 1) : a.toList = [a.start] := by
  rw [toList, h]
  simp [nth]

theorem toList_congr {a b : Axis} (hl : a.length = b.length) (hs : a.start = b.start) (ht : a.step = b.step) :
    a.toList = b.toList := by
  have hnth : a.nth = b.nth := by
    funext k
    rw [nth, nth, hs, ht]
  rw [toList, toList, hl, hnth]

theorem start_eq_of_toList_eq {a b : Axis} (h : a.toList = b.toList) (hl : a.length = b.length) (h0 : 0 < a.length) :
    a.start = b.start := by
  have hn : some (a.nth 0) = some (b.nth 0) := by
    rw [← a.getElem?_toList h0, h, b.getElem?_toList (hl ▸ h0)]
  simpa [nth] using Option.some.inj hn

theorem step_eq_of_toList_eq {a b : Axis} (h : a.toList = b.toList) (hl : a.length = b.length) (h1 : 1 < a.length) :
    a.step = b.step := by
  have hn : some (a.nth 1) = some (b.nth 1) := by
    rw [← a.getElem?_toList h1, h, b.getElem?_toList (hl ▸ h1)]
  have hs := start_eq_of_toList_eq h hl (Nat.lt_of_succ_lt h1)
  have hn := Option.some.inj hn
  simp only [nth, hs] at hn
  omega

/-- **Axes agree exactly if they enumerate the same indices.** -/
theorem agrees_iff {a b : Axis} : a.agrees b = true ↔ a.toList = b.toList := by
  simp only [agrees, Bool.and_eq_true, Bool.or_eq_true, beq_iff_eq]
  constructor
  · rintro ⟨hl, h0 | ⟨hs, h1 | ht⟩⟩
    · rw [toList_of_length_zero h0, toList_of_length_zero (hl ▸ h0)]
    · rw [toList_of_length_one h1, toList_of_length_one (hl ▸ h1), hs]
    · exact toList_congr hl hs ht
  · intro h
    have hl : a.length = b.length := by rw [← length_toList, ← length_toList, h]
    refine ⟨hl, ?_⟩
    -- An axis shows its start from one index on, and its step from two on.
    rcases Nat.lt_trichotomy a.length 1 with h0 | h1 | h2
    · exact .inl (Nat.lt_one_iff.1 h0)
    · exact .inr ⟨start_eq_of_toList_eq h hl (h1 ▸ Nat.one_pos), .inl h1⟩
    · exact .inr ⟨start_eq_of_toList_eq h hl (Nat.lt_of_succ_lt h2), .inr (step_eq_of_toList_eq h hl h2)⟩

end Axis

end ArrayTyping

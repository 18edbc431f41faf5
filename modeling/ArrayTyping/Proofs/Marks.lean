import ArrayTyping.Application
import ArrayTyping.Proofs.Keeping
import ArrayTyping.Proofs.Outcome
/-!
# Marks — what does not depend on them

Shapes that differ in their marks alone broadcast alike, multiply alike and transpose alike, and so do element types
that join: the answers differ in their marks at most, and where there is none the faults are of one class.
-/
namespace ArrayTyping

/-! ## Axes and shapes -/

namespace Axis

theorem toList_of_plain {a b : Axis} (h : b.plain = a.plain) : b.toList = a.toList :=
  (congrArg toList h : b.plain.toList = a.plain.toList)

theorem agrees_of_plain {a b c d : Axis} (hac : c.plain = a.plain) (hbd : d.plain = b.plain) :
    c.agrees d = a.agrees b := by
  show c.plain.agrees d.plain = a.plain.agrees b.plain
  rw [hac, hbd]

theorem length?_of_plain {a b : Axis} (h : b.plain = a.plain) : b.length? = a.length? :=
  (congrArg length? h : b.plain.length? = a.plain.length?)

end Axis

namespace Shape

theorem map_plain_of_plain {s t : Shape} (h : t.plain = s.plain) : t.axes.map Axis.plain = s.axes.map Axis.plain :=
  congrArg axes h

theorem plain_ofAxes {as bs : List Axis} (h : bs.map Axis.plain = as.map Axis.plain) :
    (ofAxes bs).plain = (ofAxes as).plain := congrArg ofAxes h

theorem getElem?_of_plain {s t : Shape} (h : t.plain = s.plain) (p : Nat) :
    t.axes[p]?.map Axis.plain = s.axes[p]?.map Axis.plain := by
  rw [← List.getElem?_map, ← List.getElem?_map, map_plain_of_plain h]

theorem axis_of_plain {s t : Shape} (h : t.plain = s.plain) (d : Nat) : (t.axis d).plain = (s.axis d).plain := by
  have hd := getElem?_of_plain h (d - 1)
  rw [axis, axis, List.getD_eq_getElem?_getD, List.getD_eq_getElem?_getD]
  cases hs : s.axes[d - 1]? <;> cases ht : t.axes[d - 1]? <;> rw [hs, ht] at hd
  · cases hd
  · cases hd
  · exact Option.some.inj hd

end Shape

/-! ## Broadcasting -/

theorem optionRel_of_map_eq {α β : Type} {f : α → β} {a b : Option α} (h : b.map f = a.map f) :
    Option.Rel (fun a b => f b = f a) a b := by
  cases a with
  | none =>
    rw [Option.map_none, Option.map_eq_none_iff] at h
    subst h
    exact .none
  | some a =>
    obtain ⟨b, rfl, hb⟩ := Option.map_eq_some_iff.1 h
    exact .some hb

def BroadcastFault.fault (op : Value) : BroadcastFault → Fault
  | .tooLong => .overflow
  | .mismatch position expected got => .conflict (.broadcast op position expected got)
  | .vacant _ => .slip .assertion

theorem broadcastFor_eq (op : Value) (ss : List Shape) :
    broadcastFor op ss = (broadcast ss).mapError (BroadcastFault.fault op) := by
  unfold broadcastFor
  cases broadcast ss with
  | ok s => rfl
  | error e => cases e <;> rfl

theorem broadcastFor_ok {op : Value} {ss : List Shape} {s : Shape} :
    broadcastFor op ss = .ok s ↔ broadcast ss = .ok s := by
  rw [broadcastFor_eq, mapError_ok]

namespace Broadcast

def Choice.Alike (c d : Choice) : Prop :=
  d.chosen.map Axis.plain = c.chosen.map Axis.plain ∧ d.stretchable.map Axis.plain = c.stretchable.map Axis.plain

theorem or_of_map_eq {a b c d : Option Axis} (hac : c.map Axis.plain = a.map Axis.plain)
    (hbd : d.map Axis.plain = b.map Axis.plain) : (c.or d).map Axis.plain = (a.or b).map Axis.plain := by
  rw [Option.map_or, Option.map_or, hac, hbd]

variable {ss ts : List Shape}

theorem rank_of_plain (h : List.Forall₂ (fun s t : Shape => t.plain = s.plain) ss ts) : rank ts = rank ss := by
  have hranks : ts.map Shape.rank = ss.map Shape.rank := map_eq_of_forall₂ (h.imp fun _ _ => Shape.rank_of_plain)
  unfold rank
  rw [← List.foldl_map (f := Shape.rank) (g := max), hranks, List.foldl_map]

theorem column_of_plain (h : List.Forall₂ (fun s t : Shape => t.plain = s.plain) ss ts) (n position : Nat) :
    List.Forall₂ (fun a b : Axis => b.plain = a.plain) (column n ss position) (column n ts position) := by
  refine List.rel_filterMap (fun s t hst => ?_) h
  rw [Shape.rank_of_plain hst]
  split
  · exact .none
  · exact optionRel_of_map_eq (Shape.getElem?_of_plain hst _)

theorem sameAnswer_read (op : Value) (position : Nat) {a b : Axis} {c d : Choice} (hab : b.plain = a.plain)
    (hcd : c.Alike d) :
    SameAnswer Choice.Alike ((c.read position a).mapError (BroadcastFault.fault op))
      ((d.read position b).mapError (BroadcastFault.fault op)) := by
  obtain ⟨hchosen, hstretch⟩ := hcd
  have hnew : (some b).map Axis.plain = (some a).map Axis.plain := congrArg some hab
  unfold Choice.read
  rw [Axis.length?_of_plain hab]
  split
  · exact rfl
  · exact ⟨hchosen, or_of_map_eq hstretch hnew⟩
  · cases hc : c.chosen with
    | none =>
      rw [hc, Option.map_none, Option.map_eq_none_iff] at hchosen
      simp only [hchosen]
      exact ⟨hnew, hstretch⟩
    | some e =>
      rw [hc] at hchosen
      obtain ⟨e', he', heq⟩ := Option.map_eq_some_iff.1 hchosen
      simp only [he', Axis.agrees_of_plain hab heq]
      split
      · exact ⟨by rw [hc, he']; exact congrArg some heq, hstretch⟩
      · exact rfl

theorem sameAnswer_axisAt (op : Value) (h : List.Forall₂ (fun s t : Shape => t.plain = s.plain) ss ts)
    (n position : Nat) :
    SameAnswer (fun a b : Axis => b.plain = a.plain) ((axisAt n ss position).mapError (BroadcastFault.fault op))
      ((axisAt n ts position).mapError (BroadcastFault.fault op)) := by
  unfold axisAt
  rw [mapError_bind, mapError_bind, mapError_foldlM, mapError_foldlM]
  refine (SameAnswer.foldlM (R := fun a b : Axis => b.plain = a.plain)
    (fun _ _ _ _ hab hcd => sameAnswer_read op (position + 1) hab hcd) (column_of_plain h n position)
    (show Choice.Alike ⟨none, none⟩ ⟨none, none⟩ from ⟨rfl, rfl⟩)).bind fun c d hcd => ?_
  have hor := or_of_map_eq hcd.1 hcd.2
  cases hc : c.chosen.or c.stretchable with
  | none =>
    rw [hc, Option.map_none, Option.map_eq_none_iff] at hor
    simp only [hor]
    exact rfl
  | some a =>
    rw [hc] at hor
    obtain ⟨b, hb, hplain⟩ := Option.map_eq_some_iff.1 hor
    simp only [hb]
    exact hplain

end Broadcast

/-- **Shapes broadcast alike whatever their marks**, and are refused alike. -/
theorem sameAnswer_broadcastFor (op : Value) {ss ts : List Shape}
    (h : List.Forall₂ (fun s t : Shape => t.plain = s.plain) ss ts) :
    SameAnswer (fun s t : Shape => t.plain = s.plain) (broadcastFor op ss) (broadcastFor op ts) := by
  rw [broadcastFor_eq, broadcastFor_eq]
  unfold broadcast
  rw [mapError_bind, mapError_bind, mapError_mapM, mapError_mapM, Broadcast.rank_of_plain h]
  have haxes := SameAnswer.mapM (R := Eq)
    (by rintro p _ rfl; exact Broadcast.sameAnswer_axisAt op h (Broadcast.rank ss) p)
    (List.forall₂_refl (List.range (Broadcast.rank ss)))
  exact haxes.bind fun as bs hab => Shape.plain_ofAxes (map_eq_of_forall₂ hab)

theorem broadcast_of_plain {ss ts : List Shape}
    (h : List.Forall₂ (fun s t : Shape => t.plain = s.plain) ss ts) {s : Shape}
    (hs : broadcast ss = .ok s) : ∃ t, broadcast ts = .ok t ∧ t.plain = s.plain := by
  obtain ⟨t, ht, hst⟩ := (sameAnswer_broadcastFor .none h).ok (broadcastFor_ok.2 hs)
  exact ⟨t, broadcastFor_ok.1 ht, hst⟩

/-! ## Products and reversals -/

def ProductFault.fault (op left right : Value) : ProductFault → Fault
  | .scalarOperand => .conflict (.scalarProduct op [left, right])
  | .contraction d expected got => .conflict (.contraction left right d expected got)
  | .stacks e => e.fault op

theorem MatrixProduct.shape_eq (slots : Slots) (op left right : Value) : shape slots op left right = (do
    match ← slots.shapeOf left, ← slots.shapeOf right with
    | some l, some r => return some (← (l.product r).mapError (ProductFault.fault op left right))
    | _, _ => return none) := by
  unfold shape
  refine bind_congr fun x => bind_congr fun y => ?_
  cases x with
  | none => rfl
  | some l =>
    cases y with
    | none => rfl
    | some r =>
      dsimp only
      rcases l.product r with (_ | _ | e) | s
      · rfl
      · rfl
      · cases e <;> rfl
      · rfl

namespace Shape

variable {s t : Shape}

theorem getLast?_of_plain (h : t.plain = s.plain) :
    t.axes.getLast?.map Axis.plain = s.axes.getLast?.map Axis.plain := by
  rw [← List.getLast?_map, ← List.getLast?_map, map_plain_of_plain h]

theorem stack_of_plain (h : t.plain = s.plain) : t.stack.plain = s.stack.plain := by
  refine plain_ofAxes ?_
  rw [List.map_take, List.map_take, map_plain_of_plain h, rank_of_plain h]

theorem contracted?_of_plain (h : t.plain = s.plain) : t.contracted?.map Axis.plain = s.contracted?.map Axis.plain := by
  unfold contracted?
  rw [rank_of_plain h]
  split
  · rw [← List.head?_map, ← List.head?_map, map_plain_of_plain h]
  · exact getElem?_of_plain h _

theorem rows?_of_plain (h : t.plain = s.plain) : t.rows?.map Axis.plain = s.rows?.map Axis.plain := by
  unfold rows?
  rw [rank_of_plain h]
  split
  · exact getElem?_of_plain h _
  · rfl

theorem columns?_of_plain (h : t.plain = s.plain) : t.columns?.map Axis.plain = s.columns?.map Axis.plain := by
  unfold columns?
  rw [rank_of_plain h]
  split
  · exact getLast?_of_plain h
  · rfl

theorem product_ok {l r p : Shape} : l.product r = .ok p ↔ ∃ a b u, l.axes.getLast? = some a ∧ r.contracted? = some b ∧
    a.agrees b = true ∧ broadcast [l.stack, r.stack] = .ok u ∧
    p = ofAxes (u.axes ++ l.rows?.toList ++ r.columns?.toList) := by
  unfold product
  constructor
  · intro h
    split at h
    · rename_i a b ha hb
      split at h
      · rename_i hab
        split at h
        · rename_i u hu
          cases h
          exact ⟨a, b, u, ha, hb, hab, hu, rfl⟩
        · cases h
      · cases h
    · cases h
  · rintro ⟨a, b, u, ha, hb, hab, hu, rfl⟩
    simp only [ha, hb, hab, hu, if_true]

/-- **Shapes multiply alike whatever their marks**, and are refused alike. -/
theorem sameAnswer_product (op left right left' right' : Value) {l r l' r' : Shape} (hl : l'.plain = l.plain)
    (hr : r'.plain = r.plain) :
    SameAnswer (fun s t : Shape => t.plain = s.plain) ((l.product r).mapError (ProductFault.fault op left right))
      ((l'.product r').mapError (ProductFault.fault op left' right')) := by
  have hstacks := sameAnswer_broadcastFor op (.cons (stack_of_plain hl) (.cons (stack_of_plain hr) .nil))
  rw [broadcastFor_eq, broadcastFor_eq] at hstacks
  have hlast := optionRel_of_map_eq (getLast?_of_plain hl)
  have hcontracted := optionRel_of_map_eq (contracted?_of_plain hr)
  unfold product
  revert hlast hcontracted
  generalize l.axes.getLast? = x, l'.axes.getLast? = x', r.contracted? = y, r'.contracted? = y'
  intro hlast hcontracted
  cases hlast with
  | none => exact rfl
  | some he =>
    cases hcontracted with
    | none => exact rfl
    | some hg =>
      dsimp only
      rw [Axis.agrees_of_plain he hg]
      split
      · cases hs : broadcast [l.stack, r.stack] <;> cases ht : broadcast [l'.stack, r'.stack] <;> rw [hs, ht] at hstacks
        · exact hstacks
        · exact hstacks.elim
        · exact hstacks.elim
        · refine plain_ofAxes ?_
          simp only [List.map_append, map_plain_of_plain hstacks, ← Option.toList_map, rows?_of_plain hl,
            columns?_of_plain hr]
      · exact rfl

theorem product_of_plain {l r l' r' p : Shape} (hl : l'.plain = l.plain) (hr : r'.plain = r.plain)
    (h : l.product r = .ok p) : ∃ q, l'.product r' = .ok q ∧ q.plain = p.plain := by
  obtain ⟨q, hq, hpq⟩ := (sameAnswer_product .none .none .none .none .none hl hr).ok ((mapError_ok _).2 h)
  exact ⟨q, (mapError_ok _).1 hq, hpq⟩

theorem transpose_of_plain (h : t.plain = s.plain) : t.transpose.plain = s.transpose.plain := by
  refine plain_ofAxes ?_
  rw [List.map_reverse, List.map_reverse, map_plain_of_plain h]

end Shape

/-! ## Element types -/

namespace Dtype

theorem numeric?_plain (d : Dtype) : d.plain.numeric? = d.numeric? := by cases d <;> rfl

theorem plain_eq_object {d : Dtype} : d.plain = .object ↔ d = .object := by cases d <;> simp [plain]

theorem joinStrong?_plain (ds : List Dtype) : joinStrong? (ds.map plain) = joinStrong? ds := by
  have hobject : (ds.map plain).contains .object = ds.contains .object := by
    rw [Bool.eq_iff_iff]
    simp [plain_eq_object]
  have hnumeric : (ds.map plain).filterMap numeric? = ds.filterMap numeric? := by
    rw [List.filterMap_map]
    exact List.filterMap_congr fun d _ => d.numeric?_plain
  unfold joinStrong?
  rw [hobject, hnumeric]

namespace Item

def plain : Item → Item
  | .strong d => .strong d.plain
  | i => i

theorem strong?_plain (i : Item) : i.plain.strong? = i.strong?.map Dtype.plain := by cases i <;> rfl

theorem weakCategory?_plain (i : Item) : i.plain.weakCategory? = i.weakCategory? := by cases i <;> rfl

theorem plain_eq_unknown {i : Item} : i.plain = .unknown ↔ i = .unknown := by cases i <;> simp [plain]

theorem plain_eq_weakInt {i : Item} {n : Int} : i.plain = .weakInt n ↔ i = .weakInt n := by cases i <;> simp [plain]

end Item

theorem ofItems_plain (items : List Item) : ofItems (items.map Item.plain) = ofItems items := by
  by_cases h : ∃ n, items = [.weakInt n]
  · obtain ⟨n, rfl⟩ := h
    rfl
  · have h' : ∀ n, items.map Item.plain = [.weakInt n] → False := by
      intro n hn
      obtain ⟨i, hi, hplain⟩ := List.map_eq_singleton_iff.1 hn
      exact h ⟨n, by rw [hi, Item.plain_eq_weakInt.1 hplain]⟩
    have hstrong : (items.map Item.plain).filterMap Item.strong? = (items.filterMap Item.strong?).map plain := by
      rw [List.filterMap_map, List.map_filterMap]
      exact List.filterMap_congr fun i _ => i.strong?_plain
    have hweak : (items.map Item.plain).filterMap Item.weakCategory? = items.filterMap Item.weakCategory? := by
      rw [List.filterMap_map]
      exact List.filterMap_congr fun i _ => i.weakCategory?_plain
    rw [ofItems.eq_2 _ h', ofItems.eq_2 _ fun n hn => h ⟨n, hn⟩, hstrong, hweak, joinStrong?_plain]

theorem join_plain (items : List Item) : join (items.map Item.plain) = join items := by
  have hunknown : (items.map Item.plain).contains .unknown = items.contains .unknown := by
    rw [Bool.eq_iff_iff]
    simp [Item.plain_eq_unknown]
  unfold join
  rw [hunknown, ofItems_plain, List.isEmpty_map]

/-- **Element types join alike whatever their marks.** -/
theorem join_of_plain {is js : List Item} (h : List.Forall₂ (fun i j : Item => j.plain = i.plain) is js) :
    join js = join is := by
  rw [← join_plain js, map_eq_of_forall₂ h, join_plain]

end Dtype

end ArrayTyping

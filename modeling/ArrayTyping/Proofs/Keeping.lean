import ArrayTyping.Store
import Mathlib.Data.List.Forall2
/-!
# Keeping — what giving marks leaves as it was

What is kept gets marks from a counter that only goes up.  A mark tells a value from its equals and says nothing else,
so axes, shapes, labels and types come out of `kept` as they went in, up to their marks.
-/
namespace ArrayTyping

variable {α β : Type}

/-- The counter never goes down, and whatever comes out satisfies `P`. -/
def Keeps (k : StateM Mark α) (P : α → Prop) : Prop := ∀ m : Mark, m ≤ (k.run m).2 ∧ P (k.run m).1

/-- What comes out from some mark on is `a`. -/
def Gives (k : StateM Mark α) (a : α) : Prop := ∃ m : Mark, (k.run m).1 = a

namespace Keeps

theorem of_gives {P : α → Prop} {k : StateM Mark α} (hk : Keeps k P) {a : α} (ha : Gives k a) : P a := by
  obtain ⟨m, rfl⟩ := ha
  exact (hk m).2

theorem pure {P : α → Prop} {a : α} (h : P a) : Keeps (Pure.pure a) P := fun m => ⟨Nat.le_refl m, h⟩

theorem bind {P : α → Prop} {Q : β → Prop} {k : StateM Mark α} {f : α → StateM Mark β} (hk : Keeps k P)
    (hf : ∀ a, P a → Keeps (f a) Q) : Keeps (k >>= f) Q := by
  intro m
  obtain ⟨hm, hP⟩ := hk m
  obtain ⟨hm', hQ⟩ := hf _ hP (k.run m).2
  exact ⟨Nat.le_trans hm hm', hQ⟩

theorem imp {P Q : α → Prop} {k : StateM Mark α} (hk : Keeps k P) (h : ∀ a, P a → Q a) : Keeps k Q :=
  fun m => ⟨(hk m).1, h _ (hk m).2⟩

theorem given (m : Mark) : Keeps (Mark.given m) fun _ => True := by
  unfold Mark.given
  split
  · exact fun n => ⟨Nat.le_succ n, trivial⟩
  · exact pure trivial

theorem mapM {R : α → β → Prop} {f : α → StateM Mark β} (hf : ∀ a, Keeps (f a) (R a)) :
    ∀ as : List α, Keeps (as.mapM f) (List.Forall₂ R as)
  | [] => by
    rw [List.mapM_nil]
    exact pure .nil
  | a :: as => by
    rw [List.mapM_cons]
    refine (hf a).bind fun b hb => ?_
    refine (mapM hf as).bind fun bs hbs => ?_
    exact pure (.cons hb hbs)

theorem optionMapM {R : α → β → Prop} {f : α → StateM Mark β} (hf : ∀ a, Keeps (f a) (R a)) :
    ∀ a : Option α, Keeps (a.mapM f) (Option.Rel R a)
  | none => pure .none
  | some a => (hf a).bind fun _ hb => pure (.some hb)

end Keeps

theorem map_eq_of_forall₂ {f : α → β} {as bs : List α} (h : List.Forall₂ (fun a b => f b = f a) as bs) :
    bs.map f = as.map f := by
  induction h with
  | nil => rfl
  | cons hab _ ih => rw [List.map_cons, List.map_cons, hab, ih]

namespace Axis

theorem kept_plain (a : Axis) : Keeps a.kept fun b => b.plain = a.plain :=
  (Keeps.given _).bind fun _ _ => Keeps.pure rfl

end Axis

namespace Shape

theorem rank_of_plain {s t : Shape} (h : s.plain = t.plain) : s.rank = t.rank := by
  have h : (s.axes.map Axis.plain).length = (t.axes.map Axis.plain).length :=
    congrArg (fun u : Shape => u.axes.length) h
  rw [List.length_map, List.length_map] at h
  exact h

/-- **A kept shape has the axes it had**, apart from their marks. -/
theorem kept_plain (s : Shape) : Keeps s.kept fun t => t.plain = s.plain := by
  refine (Keeps.mapM (fun a => a.kept_plain) s.axes).bind fun as has => ?_
  refine (Keeps.given _).bind fun m _ => Keeps.pure ?_
  exact congrArg ofAxes (map_eq_of_forall₂ has)

end Shape

namespace Dtype

theorem kept_plain (d : Dtype) : Keeps d.kept fun e => e.plain = d.plain := by
  cases d with
  | native t => exact Keeps.pure rfl
  | swapped t m => exact (Keeps.given m).bind fun _ _ => Keeps.pure rfl
  | object => exact Keeps.pure rfl

theorem optionKept_plain (e : ElementType) :
    Keeps (e.mapM Dtype.kept) fun f => f.map Dtype.plain = e.map Dtype.plain := by
  refine (Keeps.optionMapM kept_plain e).imp fun f hf => ?_
  cases hf with
  | none => rfl
  | some h => exact congrArg some h

end Dtype

namespace DeclaredType

/-- **A kept type declares what it declared.** -/
theorem kept_plain (t : DeclaredType) : Keeps t.kept fun u => u.plain = t.plain := by
  cases t with
  | scalar e => exact (Dtype.optionKept_plain e).bind fun f hf => Keeps.pure (congrArg scalar hf)
  | array k e n =>
    exact (Dtype.optionKept_plain e).bind fun f hf => Keeps.pure (congrArg (fun e => array k e n) hf)

theorem isArray_plain (t : DeclaredType) : t.plain.isArray = t.isArray := by cases t <;> rfl

theorem rank_plain (t : DeclaredType) : t.plain.rank = t.rank := by cases t <;> rfl

theorem container?_plain (t : DeclaredType) : t.plain.container? = t.container? := by cases t <;> rfl

theorem eltype_plain (t : DeclaredType) : t.plain.eltype = t.eltype.map Dtype.plain := by cases t <;> rfl

theorem isArray_of_plain {t u : DeclaredType} (h : t.plain = u.plain) : t.isArray = u.isArray := by
  rw [← isArray_plain t, h, isArray_plain]

theorem rank_of_plain {t u : DeclaredType} (h : t.plain = u.plain) : t.rank = u.rank := by
  rw [← rank_plain t, h, rank_plain]

theorem container?_of_plain {t u : DeclaredType} (h : t.plain = u.plain) : t.container? = u.container? := by
  rw [← container?_plain t, h, container?_plain]

theorem eltype_of_plain {t u : DeclaredType} (h : t.plain = u.plain) :
    t.eltype.map Dtype.plain = u.eltype.map Dtype.plain := by
  rw [← eltype_plain t, h, eltype_plain]

end DeclaredType

namespace Label

theorem kept_content (l : Label) : Keeps l.kept fun l' => l'.content = l.content := by
  cases l with
  | text s m => exact (Keeps.given m).bind fun _ _ => Keeps.pure rfl
  | kind k => exact Keeps.pure rfl
  | code c => exact Keeps.pure rfl

end Label

end ArrayTyping

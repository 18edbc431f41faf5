import ArrayTyping.Proofs.Occurrences
import ArrayTyping.Registry
/-!
# KeyEquality — values as keys

Two values are the same key if they are one, or if they are equal exactly.  What is one carries one mark, and a
*directory* says what each mark stands for.  Among values that a directory lists, comparing keys is symmetric and
transitive wherever something can be a key.  It is not reflexive: a number that does not equal itself is the same key as
itself only once it is kept.
-/
namespace ArrayTyping

/-! ## Numbers and marks -/

namespace ExactValue

theorem stepsOfOne_pos : 0 < stepsOfOne := by
  unfold stepsOfOne
  generalize (-BinaryFormat.double.finest).toNat = k
  exact Nat.two_pow_pos k

theorem ofInt_inj {n m : Int} : ofInt n = ofInt m ↔ n = m := by
  refine ⟨fun h => ?_, congrArg ofInt⟩
  injection h with h
  exact Int.eq_of_mul_eq_mul_right (Int.natCast_ne_zero.2 (Nat.ne_of_gt stepsOfOne_pos)) h

end ExactValue

namespace Number

/-- **Numbers are the same value exactly if both stand for one.** -/
theorem equal_iff {a b : Number} : a.equal b = true ↔ ∃ p, a.exactParts? = some p ∧ b.exactParts? = some p := by
  have hparts : (a.exactParts?.any fun p => b.exactParts? == some p) = true ↔
      ∃ p, a.exactParts? = some p ∧ b.exactParts? = some p := by
    simp only [Option.any_eq_true, beq_iff_eq]
  cases a with
  | int n =>
    cases b with
    | int m =>
      have hcongr : n = m ↔ ∃ p, (int n).exactParts? = some p ∧ (int m).exactParts? = some p := by
        constructor
        · rintro rfl
          exact ⟨_, rfl, rfl⟩
        · rintro ⟨p, hn, hm⟩
          cases hn
          exact (ExactValue.ofInt_inj.1 (Prod.mk.inj (Option.some.inj hm)).1).symm
      exact beq_iff_eq.trans hcongr
    | _ => exact hparts
  | _ => exact hparts

theorem equal_symm {a b : Number} (h : a.equal b = true) : b.equal a = true := by
  obtain ⟨p, ha, hb⟩ := equal_iff.1 h
  exact equal_iff.2 ⟨p, hb, ha⟩

theorem equal_trans {a b c : Number} (h : a.equal b = true) (h' : b.equal c = true) : a.equal c = true := by
  obtain ⟨p, ha, hb⟩ := equal_iff.1 h
  obtain ⟨q, hb', hc⟩ := equal_iff.1 h'
  cases hb.symm.trans hb'
  exact equal_iff.2 ⟨p, ha, hc⟩

end Number

namespace Mark

theorem same_iff {i j : Mark} : same i j = true ↔ i ≠ unmarked ∧ i = j := by
  simp [same]

theorem same_comm (i j : Mark) : same i j = same j i := by
  rw [Bool.eq_iff_iff, same_iff, same_iff]
  constructor <;> rintro ⟨h, rfl⟩ <;> exact ⟨h, rfl⟩

theorem same_trans {i j k : Mark} (h : same i j = true) (h' : same j k = true) : same i k = true := by
  obtain ⟨-, rfl⟩ := same_iff.1 h
  exact h'

end Mark

/-! ## Directories -/

/-- What every mark and every identity of a node stands for. -/
structure Directory where
  value : Mark → Value
  node : NodeId → Node

variable {d : Directory} {u v w : Value} {us vs ws : List Value}

namespace Callable

def ownMark : Callable → Mark
  | .scaled _ i | .unhashable _ i | .elementwise _ i => i
  | _ => Mark.unmarked

def parts : Callable → List Value
  | .scaled k _ => [k]
  | .elementwise f _ => [.callable f]
  | _ => []

def isUnique : Callable → Bool
  | .scaled .. | .unhashable .. | .elementwise .. => false
  | _ => true

end Callable

def Node.parts : Node → List Value
  | .term _ f args .. => .callable f :: args
  | .arrayOp _ _ _ body f source .. => body :: .callable f :: source.toList.map .node
  | _ => []

namespace Value

def ownMark : Value → Mark
  | .float _ i | .complex _ _ i | .scalar _ i | .list _ i | .tuple _ i | .dict _ i | .slice _ _ _ i | .type _ i
  | .occurrence _ _ i | .view _ i | .space _ i | .dtype (.swapped _ i) => i
  | .range a => a.mark
  | .shape s => s.mark
  | .callable f => f.ownMark
  | _ => Mark.unmarked

def parts : Value → List Value
  | .tuple xs _ => xs
  | .shape s => s.axes.map .range
  | .occurrence a d _ => [a, d]
  | .view n _ => [.node n]
  | .space axes _ => [axes]
  | .callable f => f.parts
  | .node n => n.parts
  | _ => []

/-- A value that the directory knows by its mark, or the node by its identity, and whose parts it knows too. -/
inductive Listed (d : Directory) : Value → Prop where
  | intro {v : Value} (own : v.ownMark ≠ Mark.unmarked → d.value v.ownMark = v)
      (node : ∀ n, v = .node n → d.node n.id = n) (parts : ∀ w ∈ v.parts, Listed d w) : Listed d v

namespace Listed

variable {n m : Node}

theorem of_plain (hmark : v.ownMark = Mark.unmarked) (hparts : v.parts = []) (hnode : ∀ n, v ≠ .node n) : v.Listed d :=
  .intro (fun h => absurd hmark h) (fun n hn => absurd hn (hnode n)) (by simp [hparts])

theorem part {w : Value} (h : v.Listed d) (hw : w ∈ v.parts) : w.Listed d := by
  cases h with
  | intro _ _ parts => exact parts w hw

theorem eq_of_mark (hu : u.Listed d) (hv : v.Listed d) (h : Mark.same u.ownMark v.ownMark = true) : u = v := by
  cases hu with
  | intro hu =>
    cases hv with
    | intro hv =>
      obtain ⟨hne, heq⟩ := Mark.same_iff.1 h
      rw [← hu hne, ← hv (heq ▸ hne), heq]

theorem eq_of_id (hn : (Value.node n).Listed d) (hm : (Value.node m).Listed d) (h : n.id = m.id) : n = m := by
  cases hn with
  | intro _ hn =>
    cases hm with
    | intro _ hm => rw [← hn n rfl, ← hm m rfl, h]

end Listed

/-! ## Values that are one -/

theorem eq_or_equals_of_identical_callable {f g : Callable} (hf : (callable f).Listed d) (hg : (callable g).Listed d)
    (h : f.isIdentical g = true) : callable f = callable g ∨ f.equals true g = true := by
  cases f <;> cases g <;> first
    | exact .inr h
    | exact .inl (hf.eq_of_mark hg h)

theorem eq_or_equals_of_identical (hu : u.Listed d) (hv : v.Listed d) (h : u.isIdentical v = true) :
    u = v ∨ u.equals true v = true := by
  unfold isIdentical at h
  split at h
  all_goals first
    | exact .inl rfl
    | exact .inl (hu.eq_of_mark hv h)
    | exact .inl (by rw [eq_of_beq h])
    | exact .inr h
    | skip
  · exact .inr (Bool.and_eq_true_iff.1 h).1
  · split at h
    · exact .inr h
    · exact .inl (hu.eq_of_mark hv h)
  · exact .inr (Bool.and_eq_true_iff.1 h).1
  · rcases Bool.or_eq_true_iff.1 h with h | h
    · obtain ⟨hxs, hys⟩ := Bool.and_eq_true_iff.1 h
      rw [List.isEmpty_iff] at hxs hys
      exact .inr (by rw [hxs, hys]; rfl)
    · exact .inl (hu.eq_of_mark hv h)
  · exact eq_or_equals_of_identical_callable hu hv h
  · exact .inl (congrArg node (hu.eq_of_id hv (eq_of_beq h)))
  · cases h

/-! ## Laws of a comparison -/

/-- Exact equality with the value is symmetric and transitive among what is listed. -/
structure Lawful (d : Directory) (u : Value) : Prop where
  symm : ∀ v, v.Listed d → u.equals true v = true → v.equals true u = true
  trans : ∀ v w, v.Listed d → w.Listed d → u.equals true v = true → v.equals true w = true → u.equals true w = true

theorem sameKey_iff : u.sameKey v = true ↔ u.isIdentical v = true ∨ u.equals true v = true := by
  rw [sameKey, Bool.or_eq_true]

theorem sameKey_of_equals (h : u.equals true v = true) : u.sameKey v = true := sameKey_iff.2 (.inr h)

theorem eq_or_equals_of_sameKey (hu : u.Listed d) (hv : v.Listed d) (h : u.sameKey v = true) :
    u = v ∨ u.equals true v = true := by
  rcases sameKey_iff.1 h with h | h
  · exact eq_or_equals_of_identical hu hv h
  · exact .inr h

namespace Lawful

theorem sameKey_symm (h : u.Lawful d) (hu : u.Listed d) (hv : v.Listed d) (huv : u.sameKey v = true) :
    v.sameKey u = true := by
  rcases eq_or_equals_of_sameKey hu hv huv with rfl | huv
  · exact huv
  · exact sameKey_of_equals (h.symm v hv huv)

theorem sameKey_trans (h : u.Lawful d) (hu : u.Listed d) (hv : v.Listed d) (hw : w.Listed d)
    (huv : u.sameKey v = true) (hvw : v.sameKey w = true) : u.sameKey w = true := by
  rcases eq_or_equals_of_sameKey hu hv huv with rfl | huv'
  · exact hvw
  · rcases eq_or_equals_of_sameKey hv hw hvw with rfl | hvw
    · exact huv
    · exact sameKey_of_equals (h.trans v w hv hw huv' hvw)

end Lawful

abbrev SameKeys (us vs : List Value) : Prop := List.Forall₂ (fun u v => u.sameKey v = true) us vs

theorem sameValues_iff : sameValues true us vs = true ↔ SameKeys us vs := by
  induction us generalizing vs with
  | nil => cases vs <;> simp [sameValues]
  | cons u us ih =>
    cases vs with
    | nil => simp [sameValues]
    | cons v vs =>
      rw [sameValues, Bool.and_eq_true, ih]
      exact (List.forall₂_cons (R := fun u v : Value => u.sameKey v = true)).symm

theorem SameKeys.symm (hus : ∀ u ∈ us, u.Lawful d ∧ u.Listed d) (hvs : ∀ v ∈ vs, v.Listed d) (h : SameKeys us vs) :
    SameKeys vs us := by
  induction h with
  | nil => exact .nil
  | cons huv _ ih =>
    rw [List.forall_mem_cons] at hus hvs
    exact .cons (hus.1.1.sameKey_symm hus.1.2 hvs.1 huv) (ih hus.2 hvs.2)

theorem SameKeys.trans (hus : ∀ u ∈ us, u.Lawful d ∧ u.Listed d) (hvs : ∀ v ∈ vs, v.Listed d)
    (hws : ∀ w ∈ ws, w.Listed d) (h : SameKeys us vs) (h' : SameKeys vs ws) : SameKeys us ws := by
  induction h generalizing ws with
  | nil => exact h'
  | cons huv _ ih =>
    cases h' with
    | cons hvw h' =>
      rw [List.forall_mem_cons] at hus hvs hws
      exact .cons (hus.1.1.sameKey_trans hus.1.2 hvs.1 hws.1 huv hvw) (ih hus.2 hvs.2 hws.2 h')

/-! ## Values without parts -/

theorem equals_number_iff {n : Number} (hu : u.number? = some n) :
    u.equals true v = true ↔ ∃ m, v.number? = some m ∧ n.equal m = true := by
  cases hv : v.number? with
  | some m =>
    have hequal : u.equals true v = n.equal m := by
      cases u <;> cases hu <;> cases v <;> cases hv <;> rfl
    simp [hequal]
  | none =>
    have hequal : u.equals true v = false := by
      cases u <;> cases hu <;> cases v <;> first | rfl | cases hv
    simp [hequal]

theorem lawful_of_number {n : Number} (hu : u.number? = some n) : u.Lawful d where
  symm v _ h := by
    obtain ⟨m, hv, h⟩ := (equals_number_iff hu).1 h
    exact (equals_number_iff hv).2 ⟨n, hu, Number.equal_symm h⟩
  trans v w _ _ h h' := by
    obtain ⟨m, hv, h⟩ := (equals_number_iff hu).1 h
    obtain ⟨k, hw, h'⟩ := (equals_number_iff hv).1 h'
    exact (equals_number_iff hu).2 ⟨k, hw, Number.equal_trans h h'⟩

/-- What is compared by something it holds. -/
theorem lawful_of_key {κ : Type} (key? : Value → Option κ) {k : κ} (hu : key? u = some k)
    (hequals : ∀ {v w k}, key? v = some k → (v.equals true w = true ↔ key? w = some k)) : u.Lawful d where
  symm _ _ h := (hequals ((hequals hu).1 h)).2 hu
  trans _ _ _ _ h h' := (hequals hu).2 ((hequals ((hequals hu).1 h)).1 h')

theorem equals_text_iff {s : String} (hu : u.text? = some s) : u.equals true v = true ↔ v.text? = some s := by
  cases hv : v.text? with
  | some t =>
    have hequal : u.equals true v = (s == t) := by
      cases u <;> cases hu <;> cases v <;> cases hv <;> rfl
    rw [hequal, beq_iff_eq, Option.some.injEq]
    exact eq_comm
  | none =>
    have hequal : u.equals true v = false := by
      cases u <;> cases hu <;> cases v <;> first | rfl | cases hv
    simp [hequal]

def indices? : Value → Option (List Int)
  | .range a => some a.toList
  | _ => Option.none

theorem equals_indices_iff {is : List Int} (hu : u.indices? = some is) : u.equals true v = true ↔ v.indices? = some is := by
  cases u <;> cases hu
  cases v with
  | range b =>
    show Axis.agrees _ b = true ↔ some b.toList = _
    rw [Axis.agrees_iff, Option.some.injEq]
    exact eq_comm
  | _ => exact iff_of_false (fun h => nomatch h) (fun h => nomatch h)

def declared? : Value → Option DeclaredType
  | .type t _ => some t.plain
  | _ => Option.none

theorem equals_declared_iff {t : DeclaredType} (hu : u.declared? = some t) :
    u.equals true v = true ↔ v.declared? = some t := by
  cases u <;> cases hu
  cases v with
  | type t' j =>
    show (_ == t'.plain) = true ↔ some t'.plain = _
    rw [beq_iff_eq, Option.some.injEq]
    exact eq_comm
  | _ => exact iff_of_false (fun h => nomatch h) (fun h => nomatch h)

def elements? : Value → Option Dtype
  | .dtype e => some e.plain
  | _ => Option.none

theorem equals_elements_iff {e : Dtype} (hu : u.elements? = some e) :
    u.equals true v = true ↔ v.elements? = some e := by
  cases u <;> cases hu
  cases v with
  | dtype e' =>
    show (_ == e'.plain) = true ↔ some e'.plain = _
    rw [beq_iff_eq, Option.some.injEq]
    exact eq_comm
  | _ => exact iff_of_false (fun h => nomatch h) (fun h => nomatch h)

def isUnique : Value → Bool
  | .none | .unknown | .array _ | .object _ | .registry _ | .diagnostic .. | .iterator .. => true
  | _ => false

theorem lawful_of_unique (hu : u.isUnique = true) : u.Lawful d where
  symm v _ h := by
    cases u <;> cases hu <;> cases v <;> first
      | (cases h; done)
      | rfl
      | exact (Mark.same_comm _ _).trans h
      | exact BEq.symm h
  trans v w _ _ h h' := by
    cases u <;> cases hu <;> cases v <;> first
      | (cases h; done)
      | skip
    all_goals
      cases w <;> first
        | (cases h'; done)
        | rfl
        | exact Mark.same_trans h h'
        | exact BEq.trans h h'

end Value

/-! ## Values with parts -/

def OutputIndex.content : OutputIndex → Int ⊕ (String × DeclaredType)
  | .literal n _ => .inl n
  | .symbol s => .inr (s.name.content, s.type.plain)

theorem OutputIndex.same_iff {x y : OutputIndex} : x.same y = true ↔ x.content = y.content := by
  cases x <;> cases y <;> simp [same, content, Symbol.same_iff]

theorem OutputIndex.sameAll_iff {xs ys : List OutputIndex} :
    sameAll xs ys = true ↔ xs.map content = ys.map content := by
  rw [← List.forall₂_eq_eq_eq, List.forall₂_map_left_iff, List.forall₂_map_right_iff, List.forall₂_iff_zip]
  simp [sameAll, List.all_eq_true, same_iff]

theorem ElementType.same_iff {e e' : ElementType} : e.same e' = true ↔ e.map Dtype.plain = e'.map Dtype.plain := by
  cases e <;> cases e' <;> simp [same, Dtype.same]

inductive NodeFrame where
  | symbol (name : String) (type : DeclaredType)
  | constant (id : NodeId)
  | term (type : DeclaredType)
  | arrayOp (output : List (Int ⊕ (String × DeclaredType))) (container : Container) (eltype : ElementType)

def Node.frame : Node → NodeFrame
  | .symbol s => .symbol s.name.content s.type.plain
  | .constant id .. => .constant id
  | .term _ _ _ _ t _ => .term t.plain
  | .arrayOp _ output _ _ _ _ k e _ => .arrayOp (output.map OutputIndex.content) k (e.map Dtype.plain)

theorem Node.same_self (n : Node) : n.same true n = true := by
  cases n with
  | symbol s => exact s.same_refl
  | constant => exact beq_self_eq_true _
  | term => exact Bool.or_eq_true_iff.2 (.inl (beq_self_eq_true _))
  | arrayOp => exact Bool.or_eq_true_iff.2 (.inl (beq_self_eq_true _))

inductive Frame where
  | sequence
  | occurrence
  | view
  | space
  | elementwise
  | node (f : NodeFrame)

namespace Value

def frame? : Value → Option Frame
  | .tuple .. | .shape _ => some .sequence
  | .occurrence .. => some .occurrence
  | .view .. => some .view
  | .space .. => some .space
  | .callable (.elementwise ..) => some .elementwise
  | .node n => some (.node n.frame)
  | _ => Option.none

theorem sameKey_node_iff {n m : Node} (hn : (node n).Listed d) (hm : (node m).Listed d) :
    (node n).sameKey (node m) = true ↔ n.same true m = true := by
  constructor
  · intro h
    rcases eq_or_equals_of_sameKey hn hm h with h | h
    · cases h
      exact n.same_self
    · exact h
  · intro h
    exact sameKey_of_equals h

theorem sameKey_range_iff {a : Axis} (ha : (range a).Listed d) (hv : v.Listed d) :
    (range a).sameKey v = true ↔ ∃ b, v = range b ∧ a.agrees b = true := by
  constructor
  · intro h
    rcases eq_or_equals_of_sameKey ha hv h with rfl | h
    · exact ⟨a, rfl, Axis.agrees_iff.2 rfl⟩
    · cases v <;> first | exact ⟨_, rfl, h⟩ | cases h
  · rintro ⟨b, rfl, h⟩
    exact sameKey_of_equals h

theorem sameAxes_iff {as : List Axis} (has : ∀ u ∈ as.map range, u.Listed d) (hvs : ∀ v ∈ vs, v.Listed d) :
    sameAxes as vs = true ↔ SameKeys (as.map range) vs := by
  induction as generalizing vs with
  | nil => cases vs <;> simp [sameAxes]
  | cons a as ih =>
    cases vs with
    | nil => simp [sameAxes]
    | cons v vs =>
      rw [List.map_cons, List.forall_mem_cons] at has
      rw [List.forall_mem_cons] at hvs
      rw [List.map_cons, SameKeys, List.forall₂_cons, sameKey_range_iff has.1 hvs.1, ← SameKeys, ← ih has.2 hvs.2]
      cases v <;> simp [sameAxes]

theorem agrees_eq_sameAxes (s t : Shape) : s.agrees t = sameAxes s.axes (t.axes.map range) := by
  have hlists : ∀ as bs : List Axis, (as.length == bs.length && (as.zip bs).all fun p => p.1.agrees p.2) =
      sameAxes as (bs.map range) := by
    intro as
    induction as with
    | nil => intro bs; cases bs <;> rfl
    | cons a as ih =>
      intro bs
      cases bs with
      | nil => rfl
      | cons b bs => simp [sameAxes, ← ih, Bool.and_left_comm]
  exact hlists s.axes t.axes

theorem sameSource_iff {a b : Option Node} (ha : ∀ u ∈ a.toList.map node, u.Listed d)
    (hb : ∀ u ∈ b.toList.map node, u.Listed d) :
    sameSource true a b = true ↔ SameKeys (a.toList.map node) (b.toList.map node) := by
  cases a with
  | none => cases b <;> simp [sameSource]
  | some n =>
    cases b with
    | none => simp [sameSource]
    | some m =>
      have hn : (node n).Listed d := ha _ (by simp)
      have hm : (node m).Listed d := hb _ (by simp)
      simp [sameSource, sameKey_node_iff hn hm]

/-- **Nodes are the same exactly if they are one, or have the same frame and the same parts in order.** -/
theorem same_node_iff {n m : Node} (hn : (node n).Listed d) (hm : (node m).Listed d) :
    n.same true m = true ↔ n = m ∨ n.frame = m.frame ∧ SameKeys n.parts m.parts := by
  have hid : n.id = m.id → n = m := hn.eq_of_id hm
  constructor
  · intro h
    cases n <;> cases m <;> first | cases h | skip
    case symbol.symbol =>
      obtain ⟨hname, htype⟩ := Symbol.same_iff.1 h
      exact .inr ⟨by rw [Node.frame, Node.frame, hname, htype], .nil⟩
    case constant.constant => exact .inl (hid (eq_of_beq h))
    case term.term =>
      rcases Bool.or_eq_true_iff.1 h with h | h
      · exact .inl (hid (eq_of_beq h))
      · simp only [Bool.and_eq_true] at h
        obtain ⟨⟨hop, hargs⟩, htype⟩ := h
        exact .inr ⟨congrArg NodeFrame.term (eq_of_beq htype), .cons hop (sameValues_iff.1 hargs)⟩
    case arrayOp.arrayOp =>
      rcases Bool.or_eq_true_iff.1 h with h | h
      · exact .inl (hid (eq_of_beq h))
      · simp only [Bool.and_eq_true] at h
        obtain ⟨⟨⟨⟨⟨hout, hbody⟩, hreduce⟩, hsource⟩, hkind⟩, heltype⟩ := h
        have hsource := (sameSource_iff (fun u hu => hn.part (.tail _ (.tail _ hu)))
          (fun u hu => hm.part (.tail _ (.tail _ hu)))).1 hsource
        refine .inr ⟨?_, .cons hbody (.cons hreduce hsource)⟩
        rw [Node.frame, Node.frame, OutputIndex.sameAll_iff.1 hout, ElementType.same_iff.1 heltype, eq_of_beq hkind]
  · rintro (rfl | ⟨hframe, hparts⟩)
    · exact n.same_self
    · cases n <;> cases m <;> first | (cases hframe; done) | skip
      case symbol.symbol =>
        injection hframe with hname htype
        exact Symbol.same_iff.2 ⟨hname, htype⟩
      case constant.constant =>
        injection hframe with hid
        exact beq_iff_eq.2 hid
      case term.term =>
        injection hframe with htype
        obtain ⟨hop, hargs⟩ := List.forall₂_cons.1 hparts
        refine Bool.or_eq_true_iff.2 (.inr ?_)
        simp only [Bool.and_eq_true]
        exact ⟨⟨hop, sameValues_iff.2 hargs⟩, beq_iff_eq.2 htype⟩
      case arrayOp.arrayOp =>
        injection hframe with hout hkind heltype
        obtain ⟨hbody, hparts⟩ := List.forall₂_cons.1 hparts
        obtain ⟨hreduce, hsource⟩ := List.forall₂_cons.1 hparts
        have hsource := (sameSource_iff (fun u hu => hn.part (.tail _ (.tail _ hu)))
          (fun u hu => hm.part (.tail _ (.tail _ hu)))).2 hsource
        refine Bool.or_eq_true_iff.2 (.inr ?_)
        simp only [Bool.and_eq_true]
        exact ⟨⟨⟨⟨⟨OutputIndex.sameAll_iff.2 hout, hbody⟩, hreduce⟩, hsource⟩, beq_iff_eq.2 hkind⟩,
          ElementType.same_iff.2 heltype⟩

theorem equals_sequence_iff (hu : u.Listed d) (hv : v.Listed d) (hframe : u.frame? = some .sequence)
    (hframe' : v.frame? = some .sequence) : u.equals true v = true ↔ SameKeys u.parts v.parts := by
  have hus : ∀ x ∈ u.parts, x.Listed d := fun x => hu.part
  have hvs : ∀ x ∈ v.parts, x.Listed d := fun x => hv.part
  cases u with
  | tuple xs => cases v with
    | tuple ys => exact sameValues_iff
    | shape t => exact sameValues_iff
    | callable g => cases g <;> cases hframe'
    | _ => cases hframe'
  | shape s => cases v with
    | tuple ys => exact sameAxes_iff hus hvs
    | shape t =>
      show s.agrees t = true ↔ _
      rw [agrees_eq_sameAxes]
      exact sameAxes_iff hus hvs
    | callable g => cases g <;> cases hframe'
    | _ => cases hframe'
  | callable f => cases f <;> cases hframe
  | _ => cases hframe

theorem frame?_of_equals {fr : Frame} (hu : u.Listed d) (hv : v.Listed d) (hframe : u.frame? = some fr)
    (h : u.equals true v = true) :
    (∃ n, u = node n ∧ v = node n) ∨ v.frame? = some fr ∧ SameKeys u.parts v.parts := by
  cases u with
  | tuple xs =>
    cases hframe
    cases v <;> first | exact .inr ⟨rfl, (equals_sequence_iff hu hv rfl rfl).1 h⟩ | cases h
  | shape s =>
    cases hframe
    cases v <;> first | exact .inr ⟨rfl, (equals_sequence_iff hu hv rfl rfl).1 h⟩ | cases h
  | occurrence a k =>
    cases hframe
    cases v with
    | occurrence b l =>
      obtain ⟨hab, hkl⟩ := Bool.and_eq_true_iff.1 h
      exact .inr ⟨rfl, .cons hab (.cons hkl .nil)⟩
    | _ => cases h
  | view n =>
    cases hframe
    cases v with
    | view m => exact .inr ⟨rfl, .cons ((sameKey_node_iff (hu.part (.head _)) (hv.part (.head _))).2 h) .nil⟩
    | _ => cases h
  | space a =>
    cases hframe
    cases v with
    | space b => exact .inr ⟨rfl, .cons h .nil⟩
    | _ => cases h
  | callable f =>
    cases f <;> cases hframe
    cases v with
    | callable g => cases g <;> first | exact .inr ⟨rfl, .cons h .nil⟩ | cases h
    | _ => cases h
  | node n =>
    cases hframe
    cases v with
    | node m =>
      rcases (same_node_iff hu hv).1 h with rfl | ⟨hframe, hparts⟩
      · exact .inl ⟨n, rfl, rfl⟩
      · exact .inr ⟨congrArg (fun f => some (Frame.node f)) hframe.symm, hparts⟩
    | _ => cases h
  | _ => cases hframe

theorem equals_of_frame {fr : Frame} (hu : u.Listed d) (hv : v.Listed d) (hframe : u.frame? = some fr)
    (hframe' : v.frame? = some fr) (h : SameKeys u.parts v.parts) : u.equals true v = true := by
  have hsequence : fr = .sequence → u.equals true v = true := by
    rintro rfl
    exact (equals_sequence_iff hu hv hframe hframe').2 h
  cases u with
  | tuple => exact hsequence (Option.some.inj hframe).symm
  | shape => exact hsequence (Option.some.inj hframe).symm
  | occurrence a k =>
    cases hframe
    cases v with
    | occurrence b l =>
      cases h with
      | cons hab h => cases h with
        | cons hkl => exact Bool.and_eq_true_iff.2 ⟨hab, hkl⟩
    | callable g => cases g <;> cases hframe'
    | _ => cases hframe'
  | view n =>
    cases hframe
    cases v with
    | view m =>
      cases h with
      | cons h => exact (sameKey_node_iff (hu.part (.head _)) (hv.part (.head _))).1 h
    | callable g => cases g <;> cases hframe'
    | _ => cases hframe'
  | space a =>
    cases hframe
    cases v with
    | space b =>
      cases h with
      | cons h => exact h
    | callable g => cases g <;> cases hframe'
    | _ => cases hframe'
  | callable f =>
    cases f <;> cases hframe
    cases v with
    | callable g =>
      cases g <;> cases hframe'
      cases h with
      | cons h => exact h
    | _ => cases hframe'
  | node n =>
    cases hframe
    cases v with
    | node m =>
      injection hframe' with hframe'
      injection hframe' with hframe'
      exact (same_node_iff hu hv).2 (.inr ⟨hframe'.symm, h⟩)
    | callable g => cases g <;> cases hframe'
    | _ => cases hframe'
  | _ => cases hframe

theorem lawful_of_frame {fr : Frame} (hu : u.Listed d) (hframe : u.frame? = some fr)
    (hparts : ∀ x ∈ u.parts, x.Lawful d) : u.Lawful d where
  symm v hv h := by
    rcases frame?_of_equals hu hv hframe h with ⟨n, rfl, rfl⟩ | ⟨hframe', hkeys⟩
    -- A node is itself, even if a part of it does not equal itself.
    · exact h
    · have hkeys' := hkeys.symm (fun x hx => ⟨hparts x hx, hu.part hx⟩) (fun x => hv.part)
      exact equals_of_frame hv hu hframe' hframe hkeys'
  trans v w hv hw h h' := by
    rcases frame?_of_equals hu hv hframe h with ⟨n, rfl, rfl⟩ | ⟨hframe', hkeys⟩
    · exact h'
    · rcases frame?_of_equals hv hw hframe' h' with ⟨n, rfl, rfl⟩ | ⟨hframe'', hkeys'⟩
      · exact h
      · have hkeys'' := hkeys.trans (fun x hx => ⟨hparts x hx, hu.part hx⟩) (fun x => hv.part) (fun x => hw.part) hkeys'
        exact equals_of_frame hu hw hframe hframe'' hkeys''

theorem equals_scaled_iff {k : Value} {i : Mark} :
    (callable (.scaled k i)).equals true v = true ↔ ∃ l j, v = callable (.scaled l j) ∧ k.equals true l = true := by
  constructor
  · intro h
    cases v with
    | callable g => cases g <;> first | exact ⟨_, _, rfl, h⟩ | cases h
    | _ => cases h
  · rintro ⟨l, j, rfl, h⟩
    exact h

/-- Scaled operators compare what they hold by equality alone, even where it is one. -/
theorem lawful_scaled {k : Value} {i : Mark} (hk : k.Lawful d) : (callable (.scaled k i)).Lawful d where
  symm v hv h := by
    obtain ⟨l, j, rfl, h⟩ := equals_scaled_iff.1 h
    exact equals_scaled_iff.2 ⟨k, i, rfl, hk.symm l (hv.part (.head _)) h⟩
  trans v w hv hw h h' := by
    obtain ⟨l, j, rfl, h⟩ := equals_scaled_iff.1 h
    obtain ⟨m, j', rfl, h'⟩ := equals_scaled_iff.1 h'
    exact equals_scaled_iff.2 ⟨m, j', rfl, hk.trans l m (hv.part (.head _)) (hw.part (.head _)) h h'⟩

theorem lawful_of_unique_callable {f : Callable} (hf : f.isUnique = true) : (callable f).Lawful d where
  symm v _ h := by
    cases v with
    | callable g => cases f <;> cases hf <;> cases g <;> first | exact BEq.symm h | cases h
    | _ => cases h
  trans v w _ _ h h' := by
    cases v with
    | callable g =>
      cases w with
      | callable k =>
        cases f <;> cases hf <;> cases g <;> first | cases h | skip
        all_goals cases k <;> first | exact BEq.trans h h' | cases h'
      | _ => cases h'
    | _ => cases h

/-! ## Keys -/

theorem allHashable_iff : allHashable us = true ↔ ∀ u ∈ us, u.isHashable = true := by
  induction us with
  | nil => simp [allHashable]
  | cons u us ih => rw [allHashable, Bool.and_eq_true, ih, List.forall_mem_cons]

theorem isHashable_part (h : u.isHashable = true) : ∀ x ∈ u.parts, x.isHashable = true := by
  cases u with
  | tuple xs => exact allHashable_iff.1 h
  | shape s => simp [parts, isHashable]
  | occurrence a k => simpa [parts, isHashable] using h
  | view n => simpa [parts, isHashable] using h
  | space a => simpa [parts, isHashable] using h
  | callable f =>
    cases f with
    | scaled k => exact List.forall_mem_singleton.2 h
    | elementwise f => exact List.forall_mem_singleton.2 h
    | _ => simp [parts, Callable.parts]
  | node n =>
    cases n with
    | symbol => simp [parts, Node.parts]
    | constant => simp [parts, Node.parts]
    | term _ f args =>
      obtain ⟨hop, hargs⟩ := Bool.and_eq_true_iff.1 h
      exact List.forall_mem_cons.2 ⟨hop, allHashable_iff.1 hargs⟩
    | arrayOp _ _ _ body f source =>
      obtain ⟨h, hsource⟩ := Bool.and_eq_true_iff.1 h
      obtain ⟨hbody, hreduce⟩ := Bool.and_eq_true_iff.1 h
      refine List.forall_mem_cons.2 ⟨hbody, List.forall_mem_cons.2 ⟨hreduce, ?_⟩⟩
      cases source <;> simp_all [sourceHashable, isHashable]
  | _ => simp [parts]

/-- **Whatever can be a key is compared symmetrically and transitively with all that is listed.** -/
theorem lawful_of_hashable (hu : u.Listed d) (hash : u.isHashable = true) : u.Lawful d := by
  -- By induction on what is listed, which is smaller in every part, be it below a node or an operator.
  induction hu with
  | @intro v own node parts ih =>
    have hparts : ∀ x ∈ v.parts, x.Lawful d := fun x hx => ih x hx (isHashable_part hash x hx)
    have hv : v.Listed d := .intro own node parts
    cases v with
    | none | unknown | array | object | registry | diagnostic | iterator => exact lawful_of_unique rfl
    | bool | int | float | complex | scalar => exact lawful_of_number rfl
    | text | kind | code => exact lawful_of_key text? rfl equals_text_iff
    | range => exact lawful_of_key indices? rfl equals_indices_iff
    | type => exact lawful_of_key declared? rfl equals_declared_iff
    | dtype => exact lawful_of_key elements? rfl equals_elements_iff
    | tuple | shape | occurrence | view | space | node => exact lawful_of_frame hv rfl hparts
    | callable f =>
      cases f with
      | scaled k => exact lawful_scaled (hparts k (.head _))
      | elementwise => exact lawful_of_frame hv rfl hparts
      | unhashable => cases hash
      | _ => exact lawful_of_unique_callable rfl
    | list | dict | slice => cases hash

end Value

namespace RuleKey

structure Usable (d : Directory) (k : RuleKey) : Prop where
  hashable : k.isHashable = true
  op : k.op.Listed d
  arity : k.arity.Listed d

variable {k l m : RuleKey}

theorem same_iff : k.same l = true ↔ k.op.sameKey l.op = true ∧ k.arity.sameKey l.arity = true := by
  rw [same, Bool.and_eq_true]

namespace Usable

theorem lawful (hk : k.Usable d) : k.op.Lawful d ∧ k.arity.Lawful d := by
  obtain ⟨hop, harity⟩ := Bool.and_eq_true_iff.1 hk.hashable
  exact ⟨Value.lawful_of_hashable hk.op hop, Value.lawful_of_hashable hk.arity harity⟩

theorem same_symm (hk : k.Usable d) (hl : l.Usable d) (h : k.same l = true) : l.same k = true := by
  obtain ⟨hop, harity⟩ := same_iff.1 h
  exact same_iff.2 ⟨hk.lawful.1.sameKey_symm hk.op hl.op hop, hk.lawful.2.sameKey_symm hk.arity hl.arity harity⟩

theorem same_trans (hk : k.Usable d) (hl : l.Usable d) (hm : m.Usable d) (h : k.same l = true)
    (h' : l.same m = true) : k.same m = true := by
  obtain ⟨hop, harity⟩ := same_iff.1 h
  obtain ⟨hop', harity'⟩ := same_iff.1 h'
  exact same_iff.2 ⟨hk.lawful.1.sameKey_trans hk.op hl.op hm.op hop hop',
    hk.lawful.2.sameKey_trans hk.arity hl.arity hm.arity harity harity'⟩

end Usable

end RuleKey

end ArrayTyping

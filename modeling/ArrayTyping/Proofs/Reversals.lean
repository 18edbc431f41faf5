import ArrayTyping.Proofs.OperandOrder
import ArrayTyping.Proofs.ProductGrouping
/-!
# Reversals — the axes of an array in reverse order

Reversed twice, an array is as it was; and the reversal of a product of vectors and matrices is the product of the
reversals in the other order.  The contracted axis is looked for by other means in a vector than in a matrix, and only on
the right, yet it is the same one in both products.  A reversal compares the shape of its operand with the declared rank,
so an array whose shape was attached by hand and contradicts its rank has none, although it may have a product.
-/
namespace ArrayTyping

open Build (outcome matmul transpose Yields)

/-! ## Shapes -/

namespace Shape

variable {s t p : Shape}

theorem rank_transpose (s : Shape) : s.transpose.rank = s.rank := List.length_reverse

theorem rank_plain_transpose (s : Shape) : s.transpose.plain.rank = s.rank := by
  rw [rank_of_plain s.transpose.plain_plain, rank_transpose]

theorem plain_transpose_transpose (s : Shape) : s.transpose.plain.transpose.plain = s.plain := by
  rw [transpose_of_plain s.transpose.plain_plain]
  show ofAxes (s.axes.reverse.reverse.map Axis.plain) = _
  rw [List.reverse_reverse]
  rfl

theorem product_ok_of_small (hs : s.rank ≤ 2) (ht : t.rank ≤ 2) : s.product t = .ok p ↔
    ∃ a b, s.axes.getLast? = some a ∧ t.contracted? = some b ∧ a.toList = b.toList ∧
      p = ofAxes (s.rows?.toList ++ t.columns?.toList) := by
  have hstack : ∀ {s : Shape}, s.rank ≤ 2 → s.stack = ofAxes [] := by
    intro s hs
    rw [stack, Nat.sub_eq_zero_of_le hs, List.take_zero]
  have hbroadcast : broadcast [ofAxes [], ofAxes []] = .ok (ofAxes []) := rfl
  rw [product_ok, hstack hs, hstack ht, hbroadcast]
  constructor
  · rintro ⟨a, b, u, ha, hb, hab, ⟨⟩, rfl⟩
    exact ⟨a, b, ha, hb, Axis.agrees_iff.1 hab, rfl⟩
  · rintro ⟨a, b, ha, hb, hab, rfl⟩
    exact ⟨a, b, _, ha, hb, Axis.agrees_iff.2 hab, rfl, rfl⟩

inductive IsSmall : Shape → Prop where
  | vector (a : Axis) (m : Mark) : IsSmall ⟨[a], m⟩
  | matrix (a b : Axis) (m : Mark) : IsSmall ⟨[a, b], m⟩

theorem isSmall_of_rank (h : s.rank = 1 ∨ s.rank = 2) : s.IsSmall := by
  obtain ⟨axes, m⟩ := s
  rcases h with h | h
  · obtain ⟨a, rfl⟩ := List.length_eq_one_iff.1 h
    exact .vector a m
  · obtain ⟨a, b, rfl⟩ := List.length_eq_two.1 h
    exact .matrix a b m

/-- **The reversal of a product is the product of the reversals**, in the other order. -/
theorem product_transpose (hs : s.rank = 1 ∨ s.rank = 2) (ht : t.rank = 1 ∨ t.rank = 2) (h : s.product t = .ok p) :
    t.transpose.product s.transpose = .ok p.transpose := by
  obtain ⟨a, b, ha, hb, hab, rfl⟩ := (product_ok_of_small (by omega) (by omega)).1 h
  refine (product_ok_of_small (by rw [rank_transpose]; omega) (by rw [rank_transpose]; omega)).2
    ⟨b, a, ?_, ?_, hab.symm, ?_⟩
  · cases isSmall_of_rank ht <;> exact hb
  · cases isSmall_of_rank hs <;> exact ha
  · cases isSmall_of_rank hs <;> cases isSmall_of_rank ht <;> rfl

end Shape

/-! ## Profiles -/

namespace Profile

/-- A shape that is known has as many axes as the declared rank says. -/
def Fits (p : Profile) : Prop := ∀ s, p.shape = some s → p.rank = some s.rank

def Unmarked (p : Profile) : Prop := ∀ s, p.shape = some s → s.plain = s

def reversed (p : Profile) : Profile := ⟨p.kind?, p.rank, p.shape.map fun s => s.transpose.plain⟩

variable {p q x z : Profile} {k l : Container}

theorem shape_reversed_of_none (h : p.shape = none) : p.reversed.shape = none := by rw [reversed, h]; rfl

theorem shape_reversed_of_some {s : Shape} (h : p.shape = some s) : p.reversed.shape = some s.transpose.plain := by
  rw [reversed, h]
  rfl

theorem fits_reversed : p.reversed.Fits ↔ p.Fits := by
  constructor
  · intro h s hs
    rw [← s.rank_plain_transpose]
    exact h _ (Option.map_eq_some_iff.2 ⟨s, hs, rfl⟩)
  · intro h t ht
    obtain ⟨s, hs, rfl⟩ := Option.map_eq_some_iff.1 ht
    rw [s.rank_plain_transpose]
    exact h s hs

theorem reversed_reversed (h : p.Unmarked) : p.reversed.reversed = p := by
  obtain ⟨kind?, rank, shape⟩ := p
  cases shape with
  | none => rfl
  | some s => exact congrArg (fun t => Profile.mk kind? rank (some t)) (s.plain_transpose_transpose.trans (h s rfl))

end Profile

theorem Store.HasProfile.unmarked {st : Store} {v : Value} {p : Profile} (h : st.HasProfile v p) : p.Unmarked := by
  intro s hs
  obtain ⟨info, -, hplain⟩ := h.shape_eq
  rw [hs] at hplain
  obtain ⟨t, -, rfl⟩ := Option.map_eq_some_iff.1 hplain
  exact t.plain_plain

namespace Inference

variable {p q x z : Profile}

/-- **What has a reversal**: an array of known rank that its shape does not contradict. -/
theorem reversal_gives (hk : p.kind?.isSome = true) (hr : p.rank.isSome = true) :
    reversal.Gives [p] q ↔ p.Fits ∧ q = p.reversed := by
  obtain ⟨k, hk⟩ := Option.isSome_iff_exists.1 hk
  obtain ⟨r, hr⟩ := Option.isSome_iff_exists.1 hr
  have hkind : some (Container.fold ([p].filterMap Profile.kind?)) = p.kind? := by
    rw [List.filterMap_cons_some hk, hk]
    rfl
  constructor
  · intro h
    have hq : q = p.reversed := by
      obtain ⟨kind?, rank, shape⟩ := q
      cases h.kind_eq.trans hkind
      cases h.rank_eq
      cases h.shape_eq
      rfl
    exact ⟨Profile.fits_reversed.1 (hq ▸ h.fits), hq⟩
  · rintro ⟨hfits, rfl⟩
    exact ⟨hkind.symm, rfl, ⟨r, hr⟩, rfl, Profile.fits_reversed.2 hfits⟩

theorem product_shape_known {s t : Shape} (hs : p.shape = some s) (ht : q.shape = some t) :
    product.shape [p, q] = (s.product t).toOption.map (some ∘ Shape.plain) := by
  simp only [product, hs, ht]
  rfl

theorem product_shape_unknown (h : p.shape = none ∨ q.shape = none) : product.shape [p, q] = some none := by
  unfold product
  dsimp only
  split
  · rename_i hs ht
    rw [hs, ht] at h
    rcases h with h | h <;> cases h
  · rfl

theorem product_unmarked (h : product.Gives [p, q] z) : z.Unmarked := by
  intro s hs
  have hshape := h.shape_eq
  rw [hs] at hshape
  unfold product at hshape
  dsimp only at hshape
  split at hshape
  · obtain ⟨u, -, hu⟩ := Option.map_eq_some_iff.1 hshape
    cases hu
    exact u.plain_plain
  · cases hshape

theorem product_shape_reversed (hp : p.Fits) (hq : q.Fits) (hpr : p.rank = some 1 ∨ p.rank = some 2)
    (hqr : q.rank = some 1 ∨ q.rank = some 2) {info : ShapeInfo} (h : product.shape [p, q] = some info) :
    product.shape [q.reversed, p.reversed] = some (info.map fun s => s.transpose.plain) := by
  rcases hs : p.shape with _ | s
  · rw [product_shape_unknown (.inl hs)] at h
    rw [product_shape_unknown (.inr (Profile.shape_reversed_of_none hs)), ← Option.some.inj h]
    rfl
  rcases ht : q.shape with _ | t
  · rw [product_shape_unknown (.inr ht)] at h
    rw [product_shape_unknown (.inl (Profile.shape_reversed_of_none ht)), ← Option.some.inj h]
    rfl
  rw [product_shape_known hs ht] at h
  obtain ⟨u, hu, rfl⟩ := Option.map_eq_some_iff.1 h
  rw [product_shape_known (Profile.shape_reversed_of_some ht) (Profile.shape_reversed_of_some hs)]
  have hrank : ∀ {p : Profile} {s : Shape}, p.Fits → p.shape = some s → p.rank = some 1 ∨ p.rank = some 2 →
      s.rank = 1 ∨ s.rank = 2 := by
    intro p s hp hs hr
    rw [hp s hs] at hr
    simpa using hr
  have hrev := Shape.product_transpose (hrank hp hs hpr) (hrank hq ht hqr) (toOption_eq_some.1 hu)
  obtain ⟨w, hw, hwu⟩ := Shape.product_of_plain t.transpose.plain_plain s.transpose.plain_plain hrev
  refine Option.map_eq_some_iff.2 ⟨w, toOption_eq_some.2 hw, congrArg some ?_⟩
  exact hwu.trans (Shape.transpose_of_plain u.plain_plain).symm

/-- **The reversal of a product is the product of the reversals**, in the other order. -/
theorem product_reversed (hp : p.Fits) (hq : q.Fits) (hpr : p.rank = some 1 ∨ p.rank = some 2)
    (hqr : q.rank = some 1 ∨ q.rank = some 2) (h : product.Gives [p, q] z) :
    product.Gives [q.reversed, p.reversed] z.reversed := by
  have hrank : product.rank [q.reversed, p.reversed] = product.rank [p, q] := by
    show (q.rank.bind fun l => p.rank.bind (productRank? l)) = p.rank.bind fun l => q.rank.bind (productRank? l)
    rcases hpr with hpr | hpr <;> rcases hqr with hqr | hqr <;> rw [hpr, hqr] <;> rfl
  refine ⟨?_, h.rank_eq.trans hrank.symm, h.rank_known, product_shape_reversed hp hq hpr hqr h.shape_eq,
    Profile.fits_reversed.2 h.fits⟩
  rw [Profile.reversed, h.kind_eq]
  exact congrArg some (Container.fold_perm ((List.Perm.swap q p []).filterMap Profile.kind?))

end Inference

/-! ## Programs -/

namespace Build

def transposeTwice (a : Value) : Build Node := do
  let x ← transpose .builtin a
  transpose .builtin (.node x)

def transposeProduct (a b : Value) : Build Node := do
  let x ← matmul .builtin a b
  transpose .builtin (.node x)

def productOfTransposes (a b : Value) : Build Node := do
  let x ← transpose .builtin b
  let y ← transpose .builtin a
  matmul .builtin (.node x) (.node y)

variable {st : Store} {a b : Value} {p q : Profile}

theorem yields_transpose (hw : st.WellFormed) (ha : st.HasProfile a p) (hk : p.kind?.isSome = true) :
    Yields (transpose .builtin a) st (Inference.reversal.Gives [p]) :=
  yields_apply Inference.isOf_reversal hw (.cons ha .nil) ⟨p, List.mem_cons_self, hk⟩

theorem yields_transposeTwice (hw : st.WellFormed) (ha : st.HasProfile a p) (hk : p.kind?.isSome = true) :
    Yields (transposeTwice a) st fun z => ∃ x, Inference.reversal.Gives [p] x ∧ Inference.reversal.Gives [x] z := by
  refine (yields_transpose hw ha hk).bind fun n st' x hg hn hx => ?_
  exact yields_transpose hg.wellFormed hn (by rw [hx.kind_eq]; rfl)

theorem yields_transposeProduct (hw : st.WellFormed) (ha : st.HasProfile a p) (hb : st.HasProfile b q)
    (hk : p.kind?.isSome = true) : Yields (transposeProduct a b) st fun z =>
      ∃ x, Inference.product.Gives [p, q] x ∧ Inference.reversal.Gives [x] z := by
  refine (yields_matmul hw ha hb hk).bind fun n st' x hg hn hx => ?_
  exact yields_transpose hg.wellFormed hn (by rw [hx.kind_eq]; rfl)

theorem yields_productOfTransposes (hw : st.WellFormed) (ha : st.HasProfile a p) (hb : st.HasProfile b q)
    (hp : p.kind?.isSome = true) (hq : q.kind?.isSome = true) : Yields (productOfTransposes a b) st fun z =>
      ∃ x, Inference.reversal.Gives [q] x ∧ ∃ y, Inference.reversal.Gives [p] y ∧ Inference.product.Gives [x, y] z := by
  refine (yields_transpose hw hb hq).bind fun n st' x hg hn hx => ?_
  refine (yields_transpose hg.wellFormed (ha.grown hg) hp).bind fun m st'' y hg' hm _ => ?_
  exact yields_matmul hg'.wellFormed (hn.grown hg') hm (by rw [hx.kind_eq]; rfl)

end Build

namespace Inference

variable {p q z : Profile}

theorem reversal_twice (hk : p.kind?.isSome = true) (hr : p.rank.isSome = true) (hp : p.Unmarked) :
    (∃ x, reversal.Gives [p] x ∧ reversal.Gives [x] z) ↔ p.Fits ∧ z = p := by
  constructor
  · rintro ⟨x, hx, hz⟩
    obtain ⟨hfits, rfl⟩ := (reversal_gives hk hr).1 hx
    obtain ⟨-, rfl⟩ := (reversal_gives (p := p.reversed) hk hr).1 hz
    exact ⟨hfits, Profile.reversed_reversed hp⟩
  · rintro ⟨hfits, rfl⟩
    refine ⟨z.reversed, (reversal_gives hk hr).2 ⟨hfits, rfl⟩, (reversal_gives (p := z.reversed) hk hr).2 ⟨?_, ?_⟩⟩
    · exact Profile.fits_reversed.2 hfits
    · exact (Profile.reversed_reversed hp).symm

theorem reversal_product : (∃ x, product.Gives [p, q] x ∧ reversal.Gives [x] z) ↔
    ∃ x, product.Gives [p, q] x ∧ z = x.reversed := by
  have hgives : ∀ {x}, product.Gives [p, q] x → (reversal.Gives [x] z ↔ z = x.reversed) := by
    intro x hx
    rw [reversal_gives (by rw [hx.kind_eq]; rfl) (Option.isSome_iff_exists.2 hx.rank_known)]
    exact and_iff_right hx.fits
  constructor
  · rintro ⟨x, hx, hz⟩
    exact ⟨x, hx, (hgives hx).1 hz⟩
  · rintro ⟨x, hx, hz⟩
    exact ⟨x, hx, (hgives hx).2 hz⟩

theorem product_reversals (hp : p.kind?.isSome = true) (hq : q.kind?.isSome = true)
    (hpr : p.rank = some 1 ∨ p.rank = some 2) (hqr : q.rank = some 1 ∨ q.rank = some 2) (hpu : p.Unmarked)
    (hqu : q.Unmarked) :
    (∃ x, reversal.Gives [q] x ∧ ∃ y, reversal.Gives [p] y ∧ product.Gives [x, y] z) ↔
      p.Fits ∧ q.Fits ∧ ∃ x, product.Gives [p, q] x ∧ z = x.reversed := by
  have hpr' : p.rank.isSome = true := by rcases hpr with h | h <;> rw [h] <;> rfl
  have hqr' : q.rank.isSome = true := by rcases hqr with h | h <;> rw [h] <;> rfl
  constructor
  · rintro ⟨x, hx, y, hy, hz⟩
    obtain ⟨hqf, rfl⟩ := (reversal_gives hq hqr').1 hx
    obtain ⟨hpf, rfl⟩ := (reversal_gives hp hpr').1 hy
    have hback := product_reversed (Profile.fits_reversed.2 hqf) (Profile.fits_reversed.2 hpf) hqr hpr hz
    rw [Profile.reversed_reversed hpu, Profile.reversed_reversed hqu] at hback
    exact ⟨hpf, hqf, z.reversed, hback, (Profile.reversed_reversed (product_unmarked hz)).symm⟩
  · rintro ⟨hpf, hqf, x, hx, rfl⟩
    exact ⟨_, (reversal_gives hq hqr').2 ⟨hqf, rfl⟩, _, (reversal_gives hp hpr').2 ⟨hpf, rfl⟩,
      product_reversed hpf hqf hpr hqr hx⟩

end Inference

namespace Build

structure HasRank (st : Store) (a : Value) (p : Profile) (r : Nat) : Prop where
  profile : st.HasProfile a p
  isArray : p.kind?.isSome = true
  rank_eq : p.rank = some r

/-- **The laws of reversals.**  Reversed twice, an array of known rank is built exactly if its shape does not contradict
the rank, and has the kind, the rank and the shape that it had.  The product of the reversals of vectors and matrices in
the other order is built exactly if their shapes do not contradict their ranks and the reversal of the product is built;
both then have the same kind, rank and shape. -/
theorem transpose_laws {st : Store} (hw : st.WellFormed) :
    (∀ a p r, HasRank st a p r → ((∃ n st', outcome (transposeTwice a) st = (.ok n, st')) ↔ p.Fits) ∧
      ∀ n st', outcome (transposeTwice a) st = (.ok n, st') → st'.HasProfile (.node n) p) ∧
    ∀ a p l b q r, HasRank st a p l → HasRank st b q r → l = 1 ∨ l = 2 → r = 1 ∨ r = 2 →
      ((∃ n st', outcome (productOfTransposes a b) st = (.ok n, st')) ↔
        p.Fits ∧ q.Fits ∧ ∃ n st', outcome (transposeProduct a b) st = (.ok n, st')) ∧
      ∀ n st₁ n' st₂, outcome (transposeProduct a b) st = (.ok n, st₁) →
        outcome (productOfTransposes a b) st = (.ok n', st₂) →
        ∃ z, st₁.HasProfile (.node n) z ∧ st₂.HasProfile (.node n') z := by
  constructor
  · intro a p r ha
    have hyields := yields_transposeTwice hw ha.profile ha.isArray
    have hlaw := fun z => Inference.reversal_twice (z := z) ha.isArray (by rw [ha.rank_eq]; rfl) ha.profile.unmarked
    refine ⟨?_, fun n st' hn => ?_⟩
    · rw [hyields.built_iff]
      simp only [hlaw, exists_and_left, exists_eq, and_true]
    · obtain ⟨-, z, hz, hnz⟩ := hyields.profile n st' hn
      obtain ⟨-, rfl⟩ := (hlaw z).1 hz
      exact hnz
  · intro a p l b q r ha hb hl hr
    have hpr : p.rank = some 1 ∨ p.rank = some 2 := by simpa [ha.rank_eq] using hl
    have hqr : q.rank = some 1 ∨ q.rank = some 2 := by simpa [hb.rank_eq] using hr
    have hproduct := yields_productOfTransposes hw ha.profile hb.profile ha.isArray hb.isArray
    have hreversal := yields_transposeProduct hw ha.profile hb.profile ha.isArray
    have hlaw := fun z => Inference.product_reversals (z := z) ha.isArray hb.isArray hpr hqr ha.profile.unmarked
      hb.profile.unmarked
    refine ⟨?_, fun n st₁ n' st₂ hn hn' => ?_⟩
    · rw [hproduct.built_iff, hreversal.built_iff]
      simp only [hlaw, Inference.reversal_product, exists_and_left]
    · obtain ⟨-, z, hz, hnz⟩ := hreversal.profile n st₁ hn
      obtain ⟨-, z', hz', hnz'⟩ := hproduct.profile n' st₂ hn'
      obtain ⟨-, -, hlast⟩ := (hlaw z').1 hz'
      cases hreversal.unique z z' hz (Inference.reversal_product.2 hlast)
      exact ⟨z, hnz, hnz'⟩

/-- A matrix and a vector. -/
theorem transpose_laws_vector :
    let array (dims : List Nat) : Value :=
      .array ⟨Mark.unmarked, dims.map fun n => some (n : Int), some (.native .bool), .filled (.int 0)⟩
    (∃ n st', outcome (transposeTwice (array [2, 3])) .empty = (.ok n, st') ∧
      st'.HasProfile (.node n) ⟨some .plain, some 2, some (.ofLengths [2, 3])⟩) ∧
    ∃ n st₁ n' st₂ z, outcome (transposeProduct (array [2, 3]) (array [3])) .empty = (.ok n, st₁) ∧
      outcome (productOfTransposes (array [2, 3]) (array [3])) .empty = (.ok n', st₂) ∧
      st₁.HasProfile (.node n) z ∧ st₂.HasProfile (.node n') z := by
  intro array
  have ha : HasRank .empty (array [2, 3]) ⟨some .plain, some 2, some (.ofLengths [2, 3])⟩ 2 :=
    ⟨⟨rfl, rfl, ⟨_, rfl, rfl⟩, by simp [array]⟩, rfl, rfl⟩
  have hb : HasRank .empty (array [3]) ⟨some .plain, some 1, some (.ofLengths [3])⟩ 1 :=
    ⟨⟨rfl, rfl, ⟨_, rfl, rfl⟩, by simp [array]⟩, rfl, rfl⟩
  have hfa : (Profile.mk (some .plain) (some 2) (some (.ofLengths [2, 3]))).Fits := by rintro s ⟨⟩; rfl
  have hfb : (Profile.mk (some .plain) (some 1) (some (.ofLengths [3]))).Fits := by rintro s ⟨⟩; rfl
  obtain ⟨htwice, hboth⟩ := transpose_laws Store.empty_wellFormed
  obtain ⟨hbuilt, hprofile⟩ := htwice _ _ _ ha
  obtain ⟨hiff, hsame⟩ := hboth _ _ _ _ _ _ ha hb (.inr rfl) (.inl rfl)
  obtain ⟨n, st₁, hn⟩ := hbuilt.2 hfa
  refine ⟨⟨n, st₁, hn, hprofile n st₁ hn⟩, ?_⟩
  have hproduct : ∃ n st', outcome (transposeProduct (array [2, 3]) (array [3])) .empty = (.ok n, st') := by
    refine (yields_transposeProduct Store.empty_wellFormed ha.profile hb.profile rfl).built_iff.2 ?_
    exact ⟨_, Inference.reversal_product.2
      ⟨⟨some .plain, some 1, some (.ofLengths [2])⟩, ⟨rfl, rfl, ⟨1, rfl⟩, rfl, by rintro s ⟨⟩; rfl⟩, rfl⟩⟩
  obtain ⟨n, st₁, hn⟩ := hproduct
  obtain ⟨n', st₂, hn'⟩ := hiff.2 ⟨hfa, hfb, n, st₁, hn⟩
  obtain ⟨z, hz, hz'⟩ := hsame n st₁ n' st₂ hn hn'
  exact ⟨n, st₁, n', st₂, z, hn, hn', hz, hz'⟩

/-- A symbol that is a vector by its type, with the shape of a matrix attached to it. -/
def contradicted : Build Node := do
  let a ← rawSymbol (.ofString "A") (.ofType (.array .plain none (some 1)))
  let _ ← attachShape (.node (.symbol a)) (.ofLengths [2, 3])
  return .symbol a

theorem exists_contradicted : ∃ a st, outcome contradicted .empty = (.ok a, st) ∧ st.WellFormed ∧
    HasRank st (.node a) ⟨some .plain, some 1, some (.ofLengths [2, 3])⟩ 1 := by
  obtain ⟨a, st₁, h₁, ha, hslots, hlt⟩ :=
    outcome_namedSymbol (.ofString "A") (.array .plain none (some 1)) Mark.unmarked .empty
  have hsymbol : outcome (rawSymbol (.ofString "A") (.ofType (.array .plain none (some 1)))) .empty = (.ok a, st₁) := h₁
  have hg₁ : Store.empty.Grown st₁ := (steady_rawSymbol _ _).grows.of_ok Store.empty_wellFormed hsymbol
  have hnew : Store.empty.next ≤ (Node.symbol a).id := Nat.le_of_eq ha.id_eq.symm
  have hid : (Node.symbol a).id < st₁.next := Nat.lt_of_le_of_lt (Nat.le_of_eq ha.id_eq) hlt
  obtain ⟨info, st₂, h₂, hplain, hinsert, hle⟩ :=
    outcome_attach_of_none (n := .symbol a) (some (.ofLengths [2, 3])) (by rw [hslots]; rfl)
  have hg₂ := grown_attach hg₁ (some (.ofLengths [2, 3])) hnew hid
  rw [h₂] at hg₂
  have hattach : outcome (attachShape (.node (.symbol a)) (.ofLengths [2, 3])) st₁ = (.ok info, st₂) := h₂
  refine ⟨.symbol a, st₂, ?_, hg₂.wellFormed, ⟨?_, ?_, ⟨info, ?_, hplain⟩, ?_⟩, rfl, rfl⟩
  · unfold contradicted
    rw [outcome_bind_of_ok hsymbol, outcome_bind_of_ok hattach]
    rfl
  · rw [Value.kind?_node]
    exact DeclaredType.container?_of_plain ha.type_eq
  · exact rank_node (DeclaredType.rank_of_plain ha.type_eq)
  · exact Slots.shapeOf_of_slot (by rw [hinsert, Slots.get?_insert_self])
  · rintro n ⟨⟩
    exact Nat.lt_of_lt_of_le hid hle

/-- **An array of known rank and shape need not have a reversal.** -/
theorem not_transposeTwice_contradicted : ∃ a st p, outcome contradicted .empty = (.ok a, st) ∧
    HasRank st (.node a) p 1 ∧ ∀ n st', outcome (transposeTwice (.node a)) st ≠ (.ok n, st') := by
  obtain ⟨a, st, ha, hw, hrank⟩ := exists_contradicted
  refine ⟨a, st, _, ha, hrank, fun n st' hn => ?_⟩
  obtain ⟨z, hz⟩ := (yields_transposeTwice hw hrank.profile hrank.isArray).built_iff.1 ⟨n, st', hn⟩
  obtain ⟨hfits, -⟩ := (Inference.reversal_twice hrank.isArray rfl hrank.profile.unmarked).1 hz
  cases hfits _ rfl

end Build

end ArrayTyping

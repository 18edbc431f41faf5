import ArrayTyping.Proofs.Grouping
import ArrayTyping.Proofs.PresentStates
import ArrayTyping.Proofs.Procedures
import Mathlib.Data.List.Nodup
/-!
# Collecting — usage collected into a dictionary that grows in place

A client may hand in a dictionary of occurrences.  It is not replaced: a use is appended to the very list that is kept
under its symbol, or a new list is put under a symbol that is not there.  So a list that is kept under several symbols
gets the occurrences of all of them, and everyone who holds the dictionary sees it grow.  What one use does is a step,
and the steps of a walk add up to the grouping of its uses.
-/
namespace ArrayTyping

/-! ## Lists related item by item -/

section

variable {α β γ : Type} {R : α → β → Prop}

theorem forall₂_append_left {as bs : List α} {cs : List β} (h : List.Forall₂ R (as ++ bs) cs) :
    ∃ xs ys, cs = xs ++ ys ∧ List.Forall₂ R as xs ∧ List.Forall₂ R bs ys := by
  have hfront := List.forall₂_take as.length h
  have hback := List.forall₂_drop as.length h
  rw [List.take_left] at hfront
  rw [List.drop_left] at hback
  exact ⟨_, _, (List.take_append_drop as.length cs).symm, hfront, hback⟩

theorem forall₂_trans {S : β → γ → Prop} {T : α → γ → Prop} (hT : ∀ a b c, R a b → S b c → T a c) {as : List α}
    {bs : List β} {cs : List γ} (h : List.Forall₂ R as bs) (h' : List.Forall₂ S bs cs) : List.Forall₂ T as cs := by
  induction h generalizing cs with
  | nil =>
    cases h'
    exact .nil
  | cons hab _ ih =>
    cases h' with
    | cons hbc h' => exact .cons (hT _ _ _ hab hbc) (ih h')

end

namespace Script.Shapes

open Script.Run (outcome)

/-! ## Dictionaries of occurrences -/

structure Row where
  symbol : Symbol
  items : List Value
  mark : Mark

def Row.entry (r : Row) : Value × Value := (.node (.symbol r.symbol), .list r.items r.mark)

def dictionary (rows : List Row) (m : Mark) : Value := .dict (rows.map Row.entry) m

def listOf (rows : List Row) (s : Symbol) : Option Mark := (rows.find? (·.symbol.same s)).map Row.mark

def DistinctSymbols (rows : List Row) : Prop := (rows.map Row.symbol).Pairwise fun s t => s.same t = false

/-- The rows of a dictionary where all marks below `next` have been given out: no symbol has two of them, a list is the
same one wherever it is kept, and no list is the dictionary itself. -/
structure IsMap (next : Mark) (rows : List Row) (m : Mark) : Prop where
  distinct : DistinctSymbols rows
  coherent : ∀ r ∈ rows, ∀ r' ∈ rows, r.mark = r'.mark → r.items = r'.items
  apart : ∀ r ∈ rows, r.mark ≠ m
  given : ∀ r ∈ rows, r.mark < next
  own : m < next

variable {rows rows' : List Row} {s : Symbol} {l m : Mark}

theorem listOf_append (rows rows' : List Row) (s : Symbol) :
    listOf (rows ++ rows') s = (listOf rows s).or (listOf rows' s) := by
  rw [listOf, List.find?_append, Option.map_or]
  rfl

theorem listOf_eq_none_iff : listOf rows s = none ↔ s.isAmong (rows.map Row.symbol) = false := by
  simp [listOf, Symbol.isAmong]

theorem exists_row_of_listOf (h : listOf rows s = some l) : ∃ r ∈ rows, r.symbol.same s = true ∧ r.mark = l := by
  obtain ⟨r, hr, hmark⟩ := Option.map_eq_some_iff.1 h
  have hsame : r.symbol.same s = true := List.find?_some (p := fun r : Row => r.symbol.same s) hr
  exact ⟨r, List.mem_of_find?_eq_some hr, hsame, hmark⟩

theorem listOf_of_mem (hd : DistinctSymbols rows) {r : Row} (hr : r ∈ rows)
    (hs : r.symbol.same s = true) : listOf rows s = some r.mark := by
  induction rows with
  | nil => cases hr
  | cons r' rows ih =>
    rw [DistinctSymbols, List.map_cons, List.pairwise_cons] at hd
    rcases List.mem_cons.1 hr with rfl | hr
    · simp [listOf, hs]
    · -- The first row is another symbol's, so the search goes on.
      have hne : r'.symbol.same s = false := by
        rw [Symbol.same_comm, ← Symbol.same_congr hs, Symbol.same_comm]
        exact hd.1 _ (List.mem_map_of_mem hr)
      have hskip : listOf (r' :: rows) s = listOf rows s := by simp [listOf, hne]
      rw [hskip, ih hd.2 hr]

theorem listOf_eq_some_iff (hd : DistinctSymbols rows) {r : Row} (hr : r ∈ rows)
    (hown : ∀ r' ∈ rows, r'.mark = r.mark → r' = r) : listOf rows s = some r.mark ↔ r.symbol.same s = true := by
  constructor
  · intro hs
    obtain ⟨r', hr', hsame, hmark⟩ := exists_row_of_listOf hs
    rwa [hown r' hr' hmark] at hsame
  · exact listOf_of_mem hd hr

theorem listOf_congr (h : List.Forall₂ (fun r r' => r'.symbol = r.symbol ∧ r'.mark = r.mark) rows rows') (s : Symbol) :
    listOf rows' s = listOf rows s := by
  induction h with
  | nil => rfl
  | @cons r r' rows rows' hr _ ih =>
    unfold listOf at ih ⊢
    rw [List.find?_cons, List.find?_cons, hr.1]
    cases r.symbol.same s
    · exact ih
    · exact congrArg some hr.2

/-! ## Lists that grow -/

/-- The value is the occurrence of the use, as it was kept when it was appended. -/
def Records (own : List Mark) (u : Use) (w : Value) : Prop :=
  ∃ array k k', Gives u.array.kept array ∧ Value.SameBut own (.occurrence array (.int u.dimension k) k') w

theorem Records.mono {own own' : List Mark} {u : Use} {w : Value} (h : Records own u w)
    (hsub : ∀ l ∈ own, l ∈ own') : Records own' u w := by
  obtain ⟨array, k, k', hkept, hsame⟩ := h
  exact ⟨array, k, k', hkept, hsame.mono hsub⟩

theorem Records.trans {own : List Mark} {u : Use} {v w : Value} (h : Records own u v) (hvw : v.SameBut own w) :
    Records own u w := by
  obtain ⟨array, k, k', hkept, hsame⟩ := h
  exact ⟨array, k, k', hkept, hsame.trans hvw⟩

/-- The items are the old ones, followed by the occurrences of the uses in their order. -/
def Continues (own : List Mark) (old : List Value) (uses : List Use) (items : List Value) : Prop :=
  ∃ before after, items = before ++ after ∧ List.Forall₂ (Value.SameBut own) old before ∧
    List.Forall₂ (Records own) uses after

namespace Continues

variable {own own' : List Mark} {old items items' : List Value} {us vs : List Use}

theorem refl (own : List Mark) (items : List Value) : Continues own items [] items :=
  ⟨items, [], (List.append_nil items).symm, Value.forall₂_sameBut_refl items, .nil⟩

theorem mono (h : Continues own old us items) (hsub : ∀ l ∈ own, l ∈ own') : Continues own' old us items := by
  obtain ⟨before, after, rfl, hbefore, hafter⟩ := h
  exact ⟨before, after, rfl, hbefore.imp fun _ _ h => h.mono hsub, hafter.imp fun _ _ h => h.mono hsub⟩

theorem trans (h : Continues own old us items) (h' : Continues own items vs items') :
    Continues own old (us ++ vs) items' := by
  obtain ⟨before, after, rfl, hbefore, hafter⟩ := h
  obtain ⟨front, back, rfl, hfront, hback⟩ := h'
  obtain ⟨before', after', rfl, hb, ha⟩ := forall₂_append_left hfront
  refine ⟨before', after' ++ back, List.append_assoc _ _ _, ?_, List.rel_append ?_ hback⟩
  · exact forall₂_trans (fun _ _ _ hv hw => hv.trans hw) hbefore hb
  · exact forall₂_trans (fun _ _ _ hv hw => hv.trans hw) hafter ha

end Continues

/-! ## Rows that grow -/

/-- The rows `kept` and then `added` are what the given ones have become by the uses: each keeps its place, symbol and
list, which is continued by the uses of the symbols that the list is kept under, and the symbols that were not there
follow in the order of their first uses, each with a list of its own. -/
structure GrownBy (m : Mark) (rows : List Row) (uses : List Use) (kept added : List Row) : Prop where
  kept_rows : List.Forall₂ (fun r r' => (r'.symbol = r.symbol ∧ r'.mark = r.mark) ∧
    Continues (m :: (kept ++ added).map Row.mark) r.items (uses.filter fun u => listOf rows u.symbol = some r.mark)
      r'.items) rows kept
  added_symbols : added.map Row.symbol = Symbol.newAmong (rows.map Row.symbol) (uses.map Use.symbol)
  added_items : ∀ r ∈ added, Continues (m :: (kept ++ added).map Row.mark) []
    (uses.filter fun u => u.symbol.same r.symbol) r.items
  added_marks : (added.map Row.mark).Nodup
  added_apart : ∀ r ∈ added, r.mark ∉ rows.map Row.mark

namespace GrownBy

variable {us vs : List Use} {kept added kept' added' : List Row}

theorem refl (m : Mark) (rows : List Row) : GrownBy m rows [] rows [] where
  kept_rows := List.forall₂_same.2 fun r _ => ⟨⟨rfl, rfl⟩, .refl _ _⟩
  added_symbols := rfl
  added_items := by simp
  added_marks := List.nodup_nil
  added_apart := by simp

theorem same_rows (h : GrownBy m rows us kept added) :
    List.Forall₂ (fun r r' => r'.symbol = r.symbol ∧ r'.mark = r.mark) rows kept :=
  h.kept_rows.imp fun _ _ hr => hr.1

theorem kept_symbols (h : GrownBy m rows us kept added) : kept.map Row.symbol = rows.map Row.symbol :=
  map_eq_of_forall₂ (h.same_rows.imp fun _ _ hr => hr.1)

theorem kept_marks (h : GrownBy m rows us kept added) : kept.map Row.mark = rows.map Row.mark :=
  map_eq_of_forall₂ (h.same_rows.imp fun _ _ hr => hr.2)

theorem symbols_eq (h : GrownBy m rows us kept added) :
    (kept ++ added).map Row.symbol =
      rows.map Row.symbol ++ Symbol.newAmong (rows.map Row.symbol) (us.map Use.symbol) := by
  rw [List.map_append, h.kept_symbols, h.added_symbols]

/-- Whose occurrences a list gets is the same before and after. -/
theorem listOf_kept (h : GrownBy m rows us kept added) (s : Symbol) {r : Row} (hr : r ∈ rows) :
    listOf (kept ++ added) s = some r.mark ↔ listOf rows s = some r.mark := by
  rw [listOf_append, listOf_congr h.same_rows]
  cases hs : listOf rows s with
  | some l => rfl
  | none =>
    refine iff_of_false (fun hadded => ?_) (by simp)
    obtain ⟨r', hr', -, hmark⟩ := exists_row_of_listOf hadded
    exact h.added_apart r' hr' (hmark ▸ List.mem_map_of_mem hr)

theorem listOf_added (h : GrownBy m rows us kept added)
    (hd : DistinctSymbols (kept ++ added)) (s : Symbol) {r : Row}
    (hr : r ∈ added) : listOf (kept ++ added) s = some r.mark ↔ s.same r.symbol = true := by
  rw [Symbol.same_comm]
  refine listOf_eq_some_iff hd (List.mem_append_right _ hr) fun r' hr' hmark => ?_
  rcases List.mem_append.1 hr' with hr' | hr'
  · have hmem : r.mark ∈ rows.map Row.mark := by
      rw [← h.kept_marks, ← hmark]
      exact List.mem_map_of_mem hr'
    exact absurd hmem (h.added_apart r hr)
  · exact List.inj_on_of_nodup_map h.added_marks hr' hr hmark

theorem unused (h : GrownBy m rows us kept added) (hs : s.isAmong ((kept ++ added).map Row.symbol) = false) :
    us.filter (fun u => u.symbol.same s) = [] := by
  refine List.filter_eq_nil_iff.2 fun u hu hsame => ?_
  have hknown : u.symbol.isAmong ((kept ++ added).map Row.symbol) = true := by
    rw [h.symbols_eq]
    exact Symbol.isAmong_newAmong (List.mem_map_of_mem hu)
  rw [Symbol.isAmong_congr hsame, hs] at hknown
  cases hknown

/-- **Growing by uses and then by more is growing by all of them**: the rows that were added come after the first ones
and before those that are added last. -/
theorem trans (h : GrownBy m rows us kept added) (hd : DistinctSymbols (kept ++ added))
    (h' : GrownBy m (kept ++ added) vs kept' added') :
    ∃ first second, kept' = first ++ second ∧ GrownBy m rows (us ++ vs) first (second ++ added') := by
  obtain ⟨first, second, rfl, hfirst, hsecond⟩ := forall₂_append_left h'.kept_rows
  have hmarks : ((first ++ second).map Row.mark) = (kept ++ added).map Row.mark := h'.kept_marks
  have hsecondMarks : second.map Row.mark = added.map Row.mark :=
    map_eq_of_forall₂ (hsecond.imp fun _ _ hr => hr.1.2)
  have hown : ∀ l ∈ m :: (kept ++ added).map Row.mark, l ∈ m :: ((first ++ second) ++ added').map Row.mark := by
    intro l hl
    rw [← hmarks] at hl
    rw [List.map_append, ← List.cons_append]
    exact List.mem_append_left _ hl
  refine ⟨first, second, rfl, ?_⟩
  rw [List.append_assoc] at hfirst hsecond hown
  constructor
  case kept_rows =>
    have hrows := (List.forall₂_and_left rows kept).2 ⟨fun r (hr : r ∈ rows) => hr, h.kept_rows⟩
    refine forall₂_trans (fun r r' r'' hr hr' => ?_) hrows hfirst
    obtain ⟨hmem, ⟨hsymbol, hmark⟩, hitems⟩ := hr
    obtain ⟨⟨hsymbol', hmark'⟩, hitems'⟩ := hr'
    refine ⟨⟨hsymbol'.trans hsymbol, hmark'.trans hmark⟩, ?_⟩
    simp only [hmark, h.listOf_kept _ hmem] at hitems'
    rw [List.filter_append]
    exact (hitems.mono hown).trans hitems'
  case added_symbols =>
    have hsymbols : second.map Row.symbol = added.map Row.symbol :=
      map_eq_of_forall₂ (hsecond.imp fun _ _ hr => hr.1.1)
    rw [List.map_append, hsymbols, h.added_symbols, h'.added_symbols, h.symbols_eq, ← Symbol.newAmong_append,
      ← List.map_append]
  case added_items =>
    intro r hr
    rw [List.filter_append]
    rcases List.mem_append.1 hr with hr | hr
    · obtain ⟨r', hr', ⟨hsymbol, -⟩, hitems⟩ := forall₂_exists_left hsecond r hr
      simp only [h.listOf_added hd _ hr'] at hitems
      rw [hsymbol]
      exact ((h.added_items r' hr').mono hown).trans (by simpa using hitems)
    · have hnew : r.symbol.isAmong ((kept ++ added).map Row.symbol) = false :=
        Symbol.not_isAmong_of_mem_newAmong (h'.added_symbols ▸ List.mem_map_of_mem hr)
      rw [h.unused hnew, List.nil_append, ← List.append_assoc]
      exact h'.added_items r hr
  case added_marks =>
    rw [List.map_append, hsecondMarks]
    refine h.added_marks.append h'.added_marks fun l hl hl' => ?_
    obtain ⟨r, hr, rfl⟩ := List.mem_map.1 hl'
    refine h'.added_apart r hr ?_
    rw [List.map_append]
    exact List.mem_append_right _ hl
  case added_apart =>
    intro r hr hmem
    rcases List.mem_append.1 hr with hr | hr
    · obtain ⟨r', hr', hmark⟩ := List.mem_map.1 (hsecondMarks ▸ List.mem_map_of_mem (f := Row.mark) hr)
      exact h.added_apart r' hr' (hmark ▸ hmem)
    · refine h'.added_apart r hr ?_
      rw [List.map_append, h.kept_marks]
      exact List.mem_append_left _ hmem

end GrownBy

/-! ## One use -/

/-- Symbols with one identity are one symbol, so that looking for one by identity or by equality makes no difference. -/
def Identified (ss : List Symbol) : Prop := ∀ s ∈ ss, ∀ t ∈ ss, s.id = t.id → s.same t = true

theorem Identified.mono {ss ts : List Symbol} (h : Identified ts) (hsub : ∀ s ∈ ss, s ∈ ts) : Identified ss :=
  fun s hs t ht => h s (hsub s hs) t (hsub t ht)

structure Standing (m : Mark) (rows : List Row) (session : Session) : Prop where
  state : session.cells.lookup m = some (dictionary rows m)
  isMap : IsMap session.store.next rows m

def Row.updated (l : Mark) (items : List Value) (r : Row) : Row :=
  { r with items := if r.mark = l then items else refreshedAll [(l, .list items l)] r.items }

theorem refreshedEntries_rows (l : Mark) (items : List Value) (rows : List Row) :
    refreshedEntries [(l, .list items l)] (rows.map Row.entry) = (rows.map (Row.updated l items)).map Row.entry := by
  induction rows with
  | nil => rfl
  | cons r rows ih =>
    have hentry : (Value.list r.items r.mark).refreshed [(l, .list items l)] =
        .list (r.updated l items).items r.mark := by
      rw [Value.refreshed, List.lookup_cons]
      by_cases h : r.mark = l
      · simp [Row.updated, h]
      · simp [Row.updated, h, beq_eq_false_iff_ne.2 h]
    simp only [List.map_cons, Row.entry, refreshedEntries, hentry]
    exact congrArg _ ih

theorem sameKey_symbol {s t : Symbol} (h : s.id = t.id → s.same t = true) :
    (Value.node (.symbol s)).sameKey (.node (.symbol t)) = s.same t := by
  rw [Bool.eq_iff_iff, Value.sameKey, Bool.or_eq_true]
  constructor
  · rintro (hid | hsame)
    · exact h (eq_of_beq hid)
    · exact hsame
  · exact .inr

theorem find?_entry (hid : ∀ r ∈ rows, r.symbol.id = s.id → r.symbol.same s = true) :
    (rows.map Row.entry).find? (fun e => e.1.sameKey (.node (.symbol s))) =
      (rows.find? (·.symbol.same s)).map Row.entry := by
  induction rows with
  | nil => rfl
  | cons r rows ih =>
    obtain ⟨hr, hrows⟩ := List.forall_mem_cons.1 hid
    have hkey : r.entry.1.sameKey (.node (.symbol s)) = r.symbol.same s := sameKey_symbol hr
    rw [List.map_cons, List.find?_cons, List.find?_cons, hkey]
    cases r.symbol.same s
    · exact ih hrows
    · rfl

theorem kept_occurrence (u : Use) (next : Mark) : ∃ array k k', Gives u.array.kept array ∧
    (u.occurrence.toValue.kept.run next).1 = .occurrence array (.int u.dimension k) k' := by
  exact ⟨_, _, _, ⟨next, rfl⟩, rfl⟩

section

variable {next next' : Mark} {u : Use} {w : Value} {r₀ : Row}

theorem GrownBy.append (h : IsMap next rows m) (hmem : r₀ ∈ rows) (hlist : listOf rows u.symbol = some r₀.mark)
    (hw : ∀ own, Records own u w) :
    GrownBy m rows [u] (rows.map (Row.updated r₀.mark (r₀.items ++ [w]))) [] where
  kept_rows := by
    refine List.forall₂_map_right_iff.2 (List.forall₂_same.2 fun r hr => ⟨⟨rfl, rfl⟩, ?_⟩)
    by_cases hmark : r.mark = r₀.mark
    · -- The very list that grows, under whatever symbol.
      have hitems : r.items = r₀.items := h.coherent r hr r₀ hmem hmark
      have hfilter : [u].filter (fun u => listOf rows u.symbol = some r.mark) = [u] := by simp [hlist, hmark]
      rw [hfilter, hitems, Row.updated, if_pos hmark]
      exact ⟨_, _, rfl, Value.forall₂_sameBut_refl _, .cons (hw _) .nil⟩
    · have hfilter : [u].filter (fun u => listOf rows u.symbol = some r.mark) = [] := by
        simp [hlist, Ne.symm hmark]
      rw [hfilter, Row.updated, if_neg hmark]
      refine ⟨_, [], (List.append_nil _).symm, Value.forall₂_sameBut_refreshedAll (Cells.within_singleton ?_ _) _, .nil⟩
      rw [List.append_nil, List.map_map]
      exact List.mem_cons_of_mem _ (List.mem_map_of_mem (f := Row.mark ∘ Row.updated _ _) hmem)
  added_symbols := by
    have hknown : u.symbol.isAmong (rows.map Row.symbol) ≠ false := fun hnew => by
      rw [listOf_eq_none_iff.2 hnew] at hlist
      cases hlist
    rw [List.map_singleton, Symbol.newAmong_cons_of_known (by simpa using hknown)]
    rfl
  added_items := by simp
  added_marks := List.nodup_nil
  added_apart := by simp

theorem GrownBy.enter (h : IsMap next rows m) (hle : next ≤ next') (hlist : listOf rows u.symbol = none)
    (hw : ∀ own, Records own u w) : GrownBy m rows [u] rows [⟨u.symbol, [w], next'⟩] where
  kept_rows := by
    refine List.forall₂_same.2 fun r _ => ⟨⟨rfl, rfl⟩, ?_⟩
    have hfilter : [u].filter (fun u => listOf rows u.symbol = some r.mark) = [] := by simp [hlist]
    rw [hfilter]
    exact .refl _ _
  added_symbols := by
    rw [List.map_singleton, List.map_singleton, Symbol.newAmong_cons_of_new (listOf_eq_none_iff.1 hlist)]
    rfl
  added_items := by
    intro r hr
    obtain rfl := List.mem_singleton.1 hr
    have hfilter : [u].filter (fun u' => u'.symbol.same u.symbol) = [u] := by simp [Symbol.same_refl]
    rw [hfilter]
    exact ⟨[], [w], rfl, .nil, .cons (hw _) .nil⟩
  added_marks := List.nodup_singleton _
  added_apart := by
    intro r hr hmem
    obtain rfl := List.mem_singleton.1 hr
    obtain ⟨r', hr', hmark⟩ := List.mem_map.1 hmem
    exact absurd (h.given r' hr') (Nat.not_lt.2 (hmark ▸ hle))

theorem IsMap.append (h : IsMap next rows m) (hle : next ≤ next') (l : Mark) (items : List Value) :
    IsMap next' (rows.map (Row.updated l items)) m where
  distinct := by
    rw [DistinctSymbols, List.map_map]
    exact h.distinct
  coherent := by
    intro r hr r' hr' hmark
    obtain ⟨a, ha, rfl⟩ := List.mem_map.1 hr
    obtain ⟨b, hb, rfl⟩ := List.mem_map.1 hr'
    have hmark : a.mark = b.mark := hmark
    simp only [Row.updated, hmark, h.coherent a ha b hb hmark]
  apart := by
    intro r hr
    obtain ⟨a, ha, rfl⟩ := List.mem_map.1 hr
    exact h.apart a ha
  given := by
    intro r hr
    obtain ⟨a, ha, rfl⟩ := List.mem_map.1 hr
    exact Nat.lt_of_lt_of_le (h.given a ha) hle
  own := Nat.lt_of_lt_of_le h.own hle

theorem IsMap.enter (h : IsMap next rows m) (hle : next ≤ next') (hlist : listOf rows s = none) (items : List Value) :
    IsMap (next' + 1) (rows ++ [⟨s, items, next'⟩]) m where
  distinct := by
    rw [DistinctSymbols, List.map_append, List.pairwise_append]
    refine ⟨h.distinct, List.pairwise_singleton _ _, fun t ht s' hs => ?_⟩
    obtain rfl := List.mem_singleton.1 hs
    exact Bool.eq_false_iff.2 fun hsame => by
      have hnew := listOf_eq_none_iff.1 hlist
      rw [Symbol.isAmong, List.any_eq_false] at hnew
      exact hnew t ht hsame
  coherent := by
    intro r hr r' hr' hmark
    have hlt : ∀ a ∈ rows, a.mark < next' := fun a ha => Nat.lt_of_lt_of_le (h.given a ha) hle
    rcases List.mem_append.1 hr with hr | hr <;> rcases List.mem_append.1 hr' with hr' | hr'
    · exact h.coherent r hr r' hr' hmark
    · obtain rfl := List.mem_singleton.1 hr'
      exact absurd hmark (Nat.ne_of_lt (hlt r hr))
    · obtain rfl := List.mem_singleton.1 hr
      exact absurd hmark.symm (Nat.ne_of_lt (hlt r' hr'))
    · obtain rfl := List.mem_singleton.1 hr
      obtain rfl := List.mem_singleton.1 hr'
      rfl
  apart := by
    intro r hr
    rcases List.mem_append.1 hr with hr | hr
    · exact h.apart r hr
    · obtain rfl := List.mem_singleton.1 hr
      exact (Nat.ne_of_lt (Nat.lt_of_lt_of_le h.own hle)).symm
  given := by
    intro r hr
    rcases List.mem_append.1 hr with hr | hr
    · exact Nat.lt_succ_of_lt (Nat.lt_of_lt_of_le (h.given r hr) hle)
    · obtain rfl := List.mem_singleton.1 hr
      exact Nat.lt_succ_self _
  own := Nat.lt_succ_of_lt (Nat.lt_of_lt_of_le h.own hle)

end

/-- **What one use does**: it is appended to the list of its symbol, or to a new one. -/
theorem run_growing {session : Session} (h : Standing m rows session) (u : Use)
    (hid : ∀ r ∈ rows, r.symbol.id = u.symbol.id → r.symbol.same u.symbol = true) :
    ∃ kept added session', (Use.visited (growing m) u).run.run session = (.ok (), session') ∧
      Standing m (kept ++ added) session' ∧ GrownBy m rows [u] kept added := by
  have hnext := (u.occurrence.toValue.kept_nodes session.store.next).1
  obtain ⟨array, k, k', harray, hvalue⟩ := kept_occurrence u session.store.next
  rcases hkept : u.occurrence.toValue.kept.run session.store.next with ⟨w, next⟩
  rw [hkept] at hnext hvalue
  have hw : ∀ own, Records own u w := fun own => ⟨array, k, k', harray, congrArg _ hvalue.symm⟩
  have hfind := find?_entry hid
  unfold Use.visited growing
  rw [run_get_bind, h.state]
  dsimp only [dictionary]
  rw [hkept]
  dsimp only
  cases hrow : rows.find? (·.symbol.same u.symbol) with
  | some r =>
    rw [hrow] at hfind
    rw [hfind]
    have hmem := List.mem_of_find?_eq_some hrow
    have hlist : listOf rows u.symbol = some r.mark := by rw [listOf, hrow, Option.map_some]
    refine ⟨_, [], _, rfl, ⟨?_, ?_⟩, GrownBy.append h.isMap hmem hlist hw⟩
    · rw [List.append_nil, dictionary, ← refreshedEntries_rows]
      exact Cells.lookup_update_of_ne (h.isMap.apart r hmem).symm h.state _
    · rw [List.append_nil]
      exact h.isMap.append hnext _ _
  | none =>
    rw [hrow] at hfind
    rw [hfind]
    have hlist : listOf rows u.symbol = none := by rw [listOf, hrow, Option.map_none]
    refine ⟨rows, [⟨u.symbol, [w], next⟩], _, rfl, ⟨?_, ?_⟩, GrownBy.enter h.isMap hnext hlist hw⟩
    · rw [dictionary, List.map_append]
      exact Cells.lookup_update_self _ _ _
    · exact h.isMap.enter hnext hlist _

/-! ## A whole walk -/

/-- **A sequence of uses is added one after the other.** -/
theorem run_forM_growing (uses : List Use) {session : Session} (h : Standing m rows session)
    (hid : Identified (rows.map Row.symbol ++ uses.map Use.symbol)) :
    ∃ kept added session', (forM uses (Use.visited (growing m))).run.run session = (.ok (), session') ∧
      Standing m (kept ++ added) session' ∧ GrownBy m rows uses kept added := by
  induction uses generalizing rows session with
  | nil => exact ⟨rows, [], session, rfl, (List.append_nil rows).symm ▸ h, .refl m rows⟩
  | cons u uses ih =>
    have hu : u.symbol ∈ rows.map Row.symbol ++ (u :: uses).map Use.symbol :=
      List.mem_append_right _ List.mem_cons_self
    obtain ⟨kept, added, session', hrun, hstanding, hgrown⟩ := run_growing h u fun r hr =>
      hid _ (List.mem_append_left _ (List.mem_map_of_mem hr)) _ hu
    -- The symbols of the rows are the former ones and that of the use.
    have hsub : ∀ t ∈ (kept ++ added).map Row.symbol ++ uses.map Use.symbol,
        t ∈ rows.map Row.symbol ++ (u :: uses).map Use.symbol := by
      intro t ht
      rw [hgrown.symbols_eq] at ht
      have hnew : t ∈ Symbol.newAmong (rows.map Row.symbol) ([u].map Use.symbol) → t = u.symbol := fun ht =>
        List.mem_singleton.1 (Symbol.mem_of_mem_newAmong ht)
      simp only [List.mem_append, List.map_cons, List.mem_cons] at ht ⊢
      tauto
    obtain ⟨kept', added', session'', hrun', hstanding', hgrown'⟩ :=
      ih hstanding (hid.mono hsub)
    obtain ⟨first, second, rfl, hboth⟩ := hgrown.trans hstanding.isMap.distinct hgrown'
    refine ⟨first, second ++ added', session'', ?_, List.append_assoc first second added' ▸ hstanding', hboth⟩
    rw [List.forM_cons, ExceptT.run_bind, StateT.run_bind, hrun]
    exact hrun'

/-- What becomes of a dictionary of occurrences that the usage in a value is collected into, which stays one. -/
inductive Collected (m : Mark) (rows : List Row) (v : Value) : Except Trouble Value × Session → Prop
  /-- The walk has come to its end. -/
  | whole {kept added : List Row} {session : Session} (indexed : v.WellIndexed)
      (grown : GrownBy m rows v.uses kept added) (isMap : IsMap session.store.next (kept ++ added) m)
      (state : (dictionary rows m).refreshed session.cells = dictionary (kept ++ added) m) :
      Collected m rows v (.ok (dictionary (kept ++ added) m), session)
  /-- The walk has come to an indexing of nothing, and the uses that any walk visits before have been added. -/
  | cut {trail : List Use} {kept added : List Row} {session : Session} (unindexed : ¬ v.WellIndexed)
      (passed : trail <+: v.uses)
      (ends : ∀ (σ : Type) (visit : Visit σ), v.visitUses visit = do
        forM trail (Use.visited visit)
        throw (.slip .value))
      (grown : GrownBy m rows trail kept added) (isMap : IsMap session.store.next (kept ++ added) m)
      (state : (dictionary rows m).refreshed session.cells = dictionary (kept ++ added) m) :
      Collected m rows v (.error (.fault (.slip .value)), session)

theorem Standing.refreshed {session : Session} (h : Standing m rows' session) (rows : List Row) :
    (dictionary rows m).refreshed session.cells = dictionary rows' m := by
  rw [dictionary, Value.refreshed, h.state, Option.getD_some]

theorem outcome_walk {α : Type} (w : Walk Session α) (session : Session) :
    outcome (walk w) session = ((w.run.run session).1.mapError Trouble.fault, (w.run.run session).2) := by
  rcases h : w.run.run session with ⟨r, session'⟩
  show walk w session = _
  have h' : w.run session = (r, session') := h
  rw [walk, h']
  cases r <;> rfl

theorem outcome_refresh (v : Value) (session : Session) :
    outcome (Run.refresh v) session =
      (.ok (if session.cells.isEmpty then v else v.refreshed session.cells), session) := rfl

theorem uses_of_not_isComposite {v : Value} (h : v.isComposite = false) : v.uses = [] ∧ v.WellIndexed := by
  cases v with
  | node n =>
    cases n with
    | symbol s => exact ⟨rfl, trivial⟩
    | constant id d tm => exact ⟨rfl, trivial⟩
    | term id op args am t tm => cases h
    | arrayOp id output om body reduce source k e tm => cases h
  | _ => exact ⟨rfl, trivial⟩

theorem Standing.outcome_refresh {session : Session} (h : Standing m rows' session) (rows : List Row) :
    outcome (Run.refresh (dictionary rows m)) session = (.ok (dictionary rows' m), session) := by
  have hne : session.cells.isEmpty = false := by
    cases hcells : session.cells with
    | nil =>
      have hstate := h.state
      rw [hcells] at hstate
      cases hstate
    | cons c cells => rfl
  rw [Shapes.outcome_refresh, hne, h.refreshed]
  rfl

theorem collect_of_isComposite {v : Value} (hv : v.isComposite = true) (rows : List Row) (m : Mark) :
    collect v (dictionary rows m) = (do
      Run.update m (dictionary rows m)
      walk (v.visitUses (growing m))
      Run.refresh (dictionary rows m)) := by
  unfold collect dictionary
  simp only [hv, if_true]

theorem collect_of_not_isComposite {v : Value} (hv : v.isComposite = false) (rows : List Row) (m : Mark) :
    collect v (dictionary rows m) = Run.refresh (dictionary rows m) := by
  unfold collect dictionary
  simp [hv]

/-- **A dictionary that is handed in grows by the uses of the value**, by those before the refusal if there is one. -/
theorem collected {session : Session} (h : IsMap session.store.next rows m)
    (hstate : (dictionary rows m).refreshed session.cells = dictionary rows m) {v : Value}
    (hid : Identified (rows.map Row.symbol ++ v.uses.map Use.symbol)) :
    Collected m rows v (outcome (collect v (dictionary rows m)) session) := by
  by_cases hv : v.isComposite = true
  · have hstart : Standing m rows { session with cells := session.cells.update m (dictionary rows m) } :=
      ⟨Cells.lookup_update_self _ _ _, h⟩
    have hupdate : outcome (Run.update m (dictionary rows m)) session =
        (.ok (), { session with cells := session.cells.update m (dictionary rows m) }) := rfl
    rw [collect_of_isComposite hv, Run.outcome_bind, hupdate]
    dsimp only
    rw [Run.outcome_bind, outcome_walk]
    by_cases hw : v.WellIndexed
    · obtain ⟨kept, added, session', hrun, hstanding, hgrown⟩ := run_forM_growing v.uses hstart hid
      rw [v.visitUses_eq _ hw, hrun]
      dsimp only [Except.mapError]
      rw [hstanding.outcome_refresh]
      exact .whole hw hgrown hstanding.isMap (hstanding.refreshed rows)
    · obtain ⟨trail, hpassed, hwalk⟩ := v.endsEarly hw
      have htrail : Identified (rows.map Row.symbol ++ trail.map Use.symbol) := hid.mono fun s hs =>
        (List.mem_append.1 hs).elim (List.mem_append_left _) fun hs =>
          List.mem_append_right _ (List.map_subset _ hpassed.subset hs)
      obtain ⟨kept, added, session', hrun, hstanding, hgrown⟩ := run_forM_growing trail hstart htrail
      have hvisit := hwalk Session (growing m)
      dsimp only at hvisit
      rw [hvisit, ExceptT.run_bind, StateT.run_bind, hrun]
      exact .cut hw hpassed hwalk hgrown hstanding.isMap (hstanding.refreshed rows)
  · -- Nothing is walked, and the dictionary is in its present state already.
    have hv := Bool.eq_false_iff.2 hv
    obtain ⟨huses, hw⟩ := uses_of_not_isComposite hv
    have hgrown : GrownBy m rows v.uses rows [] := huses ▸ .refl m rows
    have hwhole : Collected m rows v (.ok (dictionary (rows ++ []) m), session) :=
      .whole hw hgrown ((List.append_nil rows).symm ▸ h) (by rw [hstate, List.append_nil])
    rw [collect_of_not_isComposite hv, outcome_refresh, hstate, ite_self]
    rwa [List.append_nil] at hwhole

/-- The usage that is collected from a value is the grouping of its uses. -/
structure GroupsUses (v : Value) : Prop where
  /-- A walk that comes to its end extends any usage by the uses of the value. -/
  extended : v.WellIndexed → ∀ u : Usage, u.Distinct → v.collectUsage u = .ok (u.extended v.uses)
  /-- A walk that comes to an indexing of nothing is refused. -/
  refused : ¬ v.WellIndexed → ∀ u : Usage, v.collectUsage u = .error (.slip .value)
  /-- At an indexing, the keys are numbered from one, and those that are symbols are uses. -/
  numbered : ∀ (id : NodeId) (op : Callable) (array : Value) (keys : List Value) (am : Mark) (t : DeclaredType)
    (tm : Mark), v = .node (.term id op (array :: keys) am t tm) → op.isGetitem = true →
      v.uses = (keys.zipIdx 1).filterMap fun key => key.1.symbol?.map (⟨·, array, key.2⟩)
  /-- At any other application, the operands are walked from left to right, and their usages merged. -/
  merged : ∀ (n : Node) (op : Callable) (children : List Value), v = .node n → n.head? = some op →
    op.isGetitem = false → n.children? = some children → v.uses = children.flatMap Value.uses ∧
      ∀ u : Usage, u.Distinct → v.collectUsage u =
        (children.mapM fun w : Value => w.collectUsage []).map fun usages => usages.foldl Usage.merge u

theorem groupsUses (v : Value) : GroupsUses v where
  extended := fun hv u hu => by rw [v.collectUsage_eq hv, Usage.grouped_eq_extended hu]
  refused := fun hv u => Value.collectUsage_of_not_wellIndexed hv u
  numbered := by
    rintro id op array keys am t tm rfl hop
    exact Node.uses_indexing hop id array keys am t tm
  merged := by
    rintro n op children rfl hop hget hc
    exact ⟨n.uses_of_children hop hget hc, fun u hu => n.collectUsage_eq_merge hop hget hc hu⟩

/-- **Collecting groups the uses of a value.**  Without a dictionary, the answer is the usage that groups them.  A given
dictionary grows in place into the answer, and if every symbol has a list of its own, each list is continued by the uses
of its symbol.  Symbols are told apart by name and type. -/
theorem collect_groups {session : Session} (h : IsMap session.store.next rows m)
    (hstate : (dictionary rows m).refreshed session.cells = dictionary rows m) {v : Value}
    (hid : Identified (rows.map Row.symbol ++ v.uses.map Use.symbol)) :
    GroupsUses v ∧
      outcome (collect v .none) session =
        (((v.collectUsage []).map fun u => .dict (ofUsage u) Mark.unmarked).mapError .fault, session) ∧
      Collected m rows v (outcome (collect v (dictionary rows m)) session) ∧
      ((rows.map Row.mark).Nodup → ∀ r ∈ rows, ∀ t, listOf rows t = some r.mark ↔ r.symbol.same t = true) ∧
      ∀ s t : Symbol, s.same t = true ↔ s.name.content = t.name.content ∧ s.type.plain = t.type.plain := by
  refine ⟨groupsUses v, ?_, collected h hstate hid, fun hnodup r hr t => ?_, fun s t => Symbol.same_iff⟩
  · unfold collect
    cases v.collectUsage [] <;> rfl
  · exact listOf_eq_some_iff h.distinct hr fun r' hr' hmark => List.inj_on_of_nodup_map hnodup hr' hr hmark

/-- `a[i, j] * b[j]` collected into a dictionary that has a list for `j`. -/
theorem collect_groups_product :
    let a : Value := .node (.constant 3 (.array ⟨0, [some 2, some 3], none, .filled (.int 0)⟩) 4)
    let b : Value := .node (.constant 5 (.array ⟨0, [some 3], none, .filled (.int 0)⟩) 6)
    let i : Symbol := ⟨7, .ofString "i", .scalar (some .index), 8⟩
    let j : Symbol := ⟨9, .ofString "j", .scalar (some .index), 10⟩
    let element (array : Value) (keys : List Symbol) : Value :=
      .node (.term 11 (.primitive .getitem) (array :: keys.map fun s => .node (.symbol s)) 12 (.scalar none) 13)
    let body : Value := .node (.term 14 (.primitive .mul) [element a [i, j], element b [j]] 15 (.scalar none) 16)
    let rows : List Row := [⟨j, [.occurrence b (.int 1 17) 18], 19⟩]
    let session : Session := { Session.empty with store := { Store.empty with next := 30 } }
    IsMap 30 rows 20 ∧ (dictionary rows 20).refreshed session.cells = dictionary rows 20 ∧
      Identified (rows.map Row.symbol ++ body.uses.map Use.symbol) ∧
      ∃ kept added session', GrownBy 20 rows body.uses kept added ∧ added.map Row.symbol = [i] ∧
        outcome (collect body (dictionary rows 20)) session = (.ok (dictionary (kept ++ added) 20), session') := by
  intro a b i j element body rows session
  have hmap : IsMap 30 rows 20 := by
    refine ⟨List.pairwise_singleton _ _, ?_, ?_, ?_, by decide⟩
    · intro r hr r' hr' _
      rw [List.mem_singleton.1 hr, List.mem_singleton.1 hr']
    · intro r hr
      obtain rfl := List.mem_singleton.1 hr
      decide
    · intro r hr
      obtain rfl := List.mem_singleton.1 hr
      decide
  have hid : Identified (rows.map Row.symbol ++ body.uses.map Use.symbol) := by
    unfold Identified
    decide
  have hindexed : body.WellIndexed := ⟨List.cons_ne_nil _ _, List.cons_ne_nil _ _, trivial⟩
  have hcollected : Collected 20 rows body (outcome (collect body (dictionary rows 20)) session) :=
    (collect_groups hmap rfl hid).2.2.1
  refine ⟨hmap, rfl, hid, ?_⟩
  generalize outcome (collect body (dictionary rows 20)) session = result at hcollected ⊢
  cases hcollected with
  | whole _ grown _ _ => exact ⟨_, _, _, grown, grown.added_symbols, rfl⟩
  | cut unindexed _ _ _ _ _ => exact absurd hindexed unindexed

/-- An indexing of nothing has no usage, and a list that is kept under two symbols gets the occurrences of both: in
`a[i, j]` each symbol is used once, and twice in the list. -/
theorem not_grouped_by_symbol :
    let a : Value := .node (.constant 3 (.array ⟨0, [some 2, some 3], none, .filled (.int 0)⟩) 4)
    let i : Symbol := ⟨7, .ofString "i", .scalar (some .index), 8⟩
    let j : Symbol := ⟨9, .ofString "j", .scalar (some .index), 10⟩
    let element (operands : List Value) : Value := .node (.term 11 (.primitive .getitem) operands 12 (.scalar none) 13)
    let body := element [a, .node (.symbol i), .node (.symbol j)]
    let session : Session := { Session.empty with store := { Store.empty with next := 30 } }
    (element []).collectUsage [] = .error (.slip .value) ∧
      (body.uses.filter fun u => u.symbol.same i).length = 1 ∧
      ∃ first second, (outcome (collect body (dictionary [⟨i, [], 14⟩, ⟨j, [], 14⟩] 15)) session).1 =
        .ok (dictionary [⟨i, [first, second], 14⟩, ⟨j, [first, second], 14⟩] 15) := by
  exact ⟨rfl, rfl, _, _, rfl⟩

end Script.Shapes

end ArrayTyping

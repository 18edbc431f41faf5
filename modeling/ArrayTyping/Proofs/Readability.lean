import ArrayTyping.Proofs.Reading
/-!
# Readability — two expressions with the same text are the same tree

An expression is built from symbols and natural numbers by the primitive operators, at any number of operands
(`Value.expression?`).  Its text is read back to its tree up to whatever follows it, as long as that cannot belong to it
(`ReadBack`): a word must end, and the keys after a sign in front of an operand would be the operand's.  Hence no
operand with a sign in front of it is indexed; the text of one does not tell what the keys belong to
(`Node.label_indexed_signed`).
-/
namespace ArrayTyping

/-! ## Values as expressions -/

namespace Expression

/-- Keys after a sign are those of its operand. -/
def isReadable : Primitive → List Expression → Bool
  | .getitem, array :: _ => !array.isSigned
  | _, _ => true

end Expression

mutual

/-- The expression that a value is: identities and declared types are left out. -/
def Value.expression? : Value → Option Expression
  | .node n => n.expression?
  | .int (.ofNat n) _ => some (.number n)
  | _ => none
termination_by structural v => v

def Node.expression? : Node → Option Expression
  | .symbol s => if isIdentifier s.name.content then some (.name s.name.content) else none
  | .term _ op args .. => do
    let p ← op.primitive?
    let es ← expressionsOf? args
    if Expression.isReadable p es then some (.apply p es) else none
  | _ => none
termination_by structural n => n

def expressionsOf? : List Value → Option (List Expression)
  | [] => some []
  | v :: vs => do
    let e ← v.expression?
    let es ← expressionsOf? vs
    return e :: es
termination_by structural vs => vs

end

namespace Reader

def Closes (c : Char) : Prop := c = ')' ∨ c = ']'

instance : DecidablePred Closes := fun c => inferInstanceAs (Decidable (c = ')' ∨ c = ']'))

def stops : List Char := [' ', ')', ']', ',']

theorem Closes.mem_stops {c : Char} (h : Closes c) : c ∈ stops := by
  rcases h with rfl | rfl <;> decide

theorem Closes.ne_comma {c : Char} (h : Closes c) : c ≠ ',' := by
  rcases h with rfl | rfl <;> decide

theorem mem_marks_of_stops {c : Char} (h : c ∈ stops) : c ∈ marks ∧ c ≠ '(' ∧ c ≠ '[' := by
  simp only [stops, List.mem_cons, List.not_mem_nil, or_false] at h
  rcases h with rfl | rfl | rfl | rfl <;> decide

/-- The text of `e` is read back, up to whatever follows. -/
structure ReadBack (text : List Char) (e : Expression) : Prop where
  opens : ∀ {close}, Closes close → ∀ rest, (text ++ rest).head? ≠ some close
  reads : ∀ {rest x rest'}, Ends rest → (e.isSigned = true → rest.head? ≠ some '[') →
    Reads (indexed · e) rest x rest' → Reads expression (text ++ rest) x rest'

structure LabelReadBack (l : Label) (e : Expression) : Prop where
  content : ReadBack l.content.toList e
  shown : ReadBack l.shown.toList e

theorem LabelReadBack.ofString {s : String} {e : Expression} (h : ReadBack s.toList e) :
    LabelReadBack (.ofString s) e :=
  ⟨h, h⟩

theorem ends_mark {c : Char} (h : c ∈ marks) (hne : c ≠ '(') (s : List Char) : Ends (c :: s) := by
  rintro d ⟨⟩
  exact ⟨isWord_of_mark h, hne⟩

theorem ReadBack.upTo {text : List Char} {e : Expression} (h : ReadBack text e) {c : Char}
    (hc : c ∈ stops) (s : List Char) : Reads expression (text ++ c :: s) e (c :: s) := by
  obtain ⟨hmark, hparen, hkey⟩ := mem_marks_of_stops hc
  have hstop : (c :: s).head? ≠ some '[' := fun heq => hkey (Option.some.inj heq)
  exact h.reads (ends_mark hmark hparen s) (fun _ => hstop) (.stop hstop)

/-! ## Words -/

theorem ReadBack.word {word : List Char} (hword : ∀ c ∈ word, isWord c = true) (hne : word ≠ []) :
    ReadBack word (leaf word) where
  opens hclose rest := by
    cases word with
    | nil => exact absurd rfl hne
    | cons c word =>
      have hmark := mem_marks_of_stops hclose.mem_stops
      exact fun heq => ne_of_isWord (hword c List.mem_cons_self) hmark.1 (Option.some.inj heq)
  reads hends _ h := .leaf hword hne hends h

theorem isWord_of_mem_name (p : Primitive) : ∀ c ∈ p.name.toList, isWord c = true := by
  refine List.all_eq_true.1 ?_
  cases p <;> rfl

theorem toList_name_ne_nil (p : Primitive) : p.name.toList ≠ [] := by cases p <;> exact List.cons_ne_nil _ _

theorem ofName?_name (p : Primitive) : Primitive.ofName? (String.ofList p.name.toList) = some p := by
  rw [String.ofList_toList]
  cases p <;> rfl

theorem readBack_number (n : Nat) : ReadBack (toString n).toList (.number n) := by
  rw [Nat.toString_eq_ofList_toDigits, String.toList_ofList, ← leaf_toDigits]
  exact .word (fun c hc => isWord_of_digit (Nat.isDigit_of_mem_toDigits (by decide) (by decide) hc)) Nat.toDigits_ne_nil

theorem isIdentifier_iff {s : String} : isIdentifier s = true ↔
    (∃ c cs, s.toList = c :: cs ∧ Identifier.isStart c = true) ∧ ∀ c ∈ s.toList, Identifier.isContinue c = true := by
  unfold isIdentifier
  cases hs : s.toList with
  | nil => simp
  | cons c cs => simp +contextual [Identifier.isContinue]

theorem readBack_identifier {s : String} (h : isIdentifier s = true) : ReadBack s.toList (.name s) := by
  obtain ⟨⟨c, cs, hs, hstart⟩, hcontinue⟩ := isIdentifier_iff.1 h
  have hdigit : s.toList.all Char.isDigit = false := by
    rw [hs, List.all_cons]
    cases hc : c.isDigit with
    | false => rfl
    | true => cases (isStart_of_digit hc).symm.trans hstart
  have hleaf : leaf s.toList = .name s := by
    rw [leaf, hdigit, nameOf_of_identifier hcontinue]
    rfl
  rw [← hleaf]
  refine .word (fun c hc => ?_) (by rw [hs]; exact List.cons_ne_nil c cs)
  rw [isWord, hcontinue c hc, Bool.or_true]

/-- A kind or code is read as the name that it counts as. -/
theorem readBack_member {l : Label} (hl : l ∈ members) : ReadBack l.shown.toList (.name l.content) := by
  obtain ⟨hpoint, hword, hname⟩ := shown_members l hl
  have hdigit : ¬ l.shown.toList.all Char.isDigit = true := fun h => by
    cases List.all_eq_true.1 h '.' hpoint
  have hleaf : leaf l.shown.toList = .name l.content := by rw [leaf, if_neg hdigit, hname]
  rw [← hleaf]
  exact .word (List.all_eq_true.1 hword) (List.ne_nil_of_mem hpoint)

theorem kind_mem_members (k : Container) : .kind k ∈ members := by
  cases k <;> simp [members, Container.all]

theorem code_mem_members (c : ErrorCode) : .code c ∈ members := by
  cases c <;> simp [members, ErrorCode.all]

theorem labelReadBack_name {l : Label} (h : isIdentifier l.content = true) : LabelReadBack l (.name l.content) where
  content := readBack_identifier h
  shown := by
    cases l with
    | text s m => exact readBack_identifier h
    | kind k => exact readBack_member (kind_mem_members k)
    | code c => exact readBack_member (code_mem_members c)

/-! ## Operands with commas between them -/

theorem toList_joinedLabels_cons (l : Label) (ls : List Label) :
    (joinedLabels (l :: ls)).toList = l.content.toList ++ ls.flatMap (fun x => ',' :: ' ' :: x.content.toList) := by
  induction ls generalizing l with
  | nil => simp [joinedLabels, commaSeparated]
  | cons l' ls ih =>
    have hcons : joinedLabels (l :: l' :: ls) = l.content ++ ", " ++ joinedLabels (l' :: ls) :=
      String.intercalate_cons_cons
    rw [hcons, String.toList_append, String.toList_append, ih l', List.flatMap_cons]
    simp

theorem reads_more {ls : List Label} {es : List Expression} (h : List.Forall₂ LabelReadBack ls es) {close : Char}
    (hclose : Closes close) (rest : List Char) :
    ∃ c s, ls.flatMap (fun x => ',' :: ' ' :: x.content.toList) ++ close :: rest = c :: s ∧ c ∈ stops ∧
      Reads (more · close) (c :: s) es rest := by
  induction h with
  | nil => exact ⟨close, rest, rfl, hclose.mem_stops, .more_nil⟩
  | @cons l e ls es hl _ ih =>
    obtain ⟨c, s, hs, hc, hmore⟩ := ih
    refine ⟨',', ' ' :: (l.content.toList ++ c :: s), ?_, by decide, ?_⟩
    · rw [← hs]
      simp
    · exact .more_cons hclose.ne_comma (hl.content.upTo hc s) hmore

theorem reads_items {ls : List Label} {es : List Expression} (h : List.Forall₂ LabelReadBack ls es) {close : Char}
    (hclose : Closes close) (rest : List Char) :
    Reads (items · close) ((joinedLabels ls).toList ++ close :: rest) es rest := by
  cases h with
  | nil => exact .items_nil
  | @cons l e ls es hl hls =>
    obtain ⟨c, s, hs, hc, hmore⟩ := reads_more hls hclose rest
    rw [toList_joinedLabels_cons, List.append_assoc, hs]
    exact .items_cons (hl.content.opens hclose _) (hl.content.upTo hc s) hmore

/-! ## Applications -/

/-- The form of an application: keys in brackets, a sign between two operands or in front of one, or the operator's
name. -/
theorem applicationText_cases (p : Primitive) (name : String) (ls : List Label) :
    (∃ array keys, p = .getitem ∧ ls = array :: keys ∧
      applicationText (some p) name ls = array.shown ++ "[" ++ joinedLabels keys ++ "]") ∨
    (∃ l r sign, ls = [l, r] ∧ p.sign2? = some sign ∧
      applicationText (some p) name ls = "(" ++ l.shown ++ " " ++ sign ++ " " ++ r.shown ++ ")") ∨
    (∃ x sign, ls = [x] ∧ p.sign1? = some sign ∧ applicationText (some p) name ls = sign ++ x.shown) ∨
    applicationText (some p) name ls = name ++ "(" ++ joinedLabels ls ++ ")" := by
  unfold applicationText
  split
  · next array keys heq =>
    cases heq
    exact .inl ⟨array, keys, rfl, rfl, rfl⟩
  · next p' l r _ heq =>
    cases heq
    cases hsign : p.sign2? with
    | some sign => exact .inr (.inl ⟨l, r, sign, rfl, rfl, rfl⟩)
    | none => exact .inr (.inr (.inr rfl))
  · next p' x _ heq =>
    cases heq
    cases hsign : p.sign1? with
    | some sign => exact .inr (.inr (.inl ⟨x, sign, rfl, rfl, rfl⟩))
    | none => exact .inr (.inr (.inr rfl))
  · exact .inr (.inr (.inr rfl))

theorem readBack_indexed {array : Label} {a : Expression} {keys : List Label} {ks : List Expression}
    (harray : LabelReadBack array a) (ha : a.isSigned = false) (hkeys : List.Forall₂ LabelReadBack keys ks) :
    ReadBack (array.shown ++ "[" ++ joinedLabels keys ++ "]").toList (.apply .getitem (a :: ks)) := by
  have htext : ∀ rest, (array.shown ++ "[" ++ joinedLabels keys ++ "]").toList ++ rest
      = array.shown.toList ++ '[' :: ((joinedLabels keys).toList ++ ']' :: rest) := by simp
  refine ⟨fun {close} hclose rest => ?_, fun {rest x rest'} _ _ h => ?_⟩
  · rw [htext]
    exact harray.shown.opens hclose _
  · rw [htext]
    have hsigned : a.isSigned = true → ('[' :: ((joinedLabels keys).toList ++ ']' :: rest)).head? ≠ some '[' :=
      fun hs => Bool.noConfusion (ha.symm.trans hs)
    exact harray.shown.reads (ends_mark (by decide) (by decide) _) hsigned (.key (reads_items hkeys (by decide) rest) h)

theorem readBack_between {l r : Label} {a b : Expression} {p : Primitive} {sign : String} (hl : LabelReadBack l a)
    (hr : LabelReadBack r b) (hp : p.sign2? = some sign) :
    ReadBack ("(" ++ l.shown ++ " " ++ sign ++ " " ++ r.shown ++ ")").toList (.apply p [a, b]) := by
  have htext : ∀ rest, ("(" ++ l.shown ++ " " ++ sign ++ " " ++ r.shown ++ ")").toList ++ rest
      = '(' :: (l.shown.toList ++ ' ' :: (sign.toList ++ ' ' :: (r.shown.toList ++ ')' :: rest))) := by simp
  refine ⟨fun {close} hclose rest => ?_, fun {rest x rest'} _ _ h => ?_⟩
  · rw [htext]
    rintro ⟨⟩
    exact absurd hclose (by decide)
  · rw [htext]
    exact .between (hl.shown.upTo (by decide) _) (signBetween_eq hp _) (hr.shown.upTo (by decide) rest) h

/-- What follows a sign in front of an operand follows the operand. -/
theorem readBack_signed {x : Label} {a : Expression} {p : Primitive} {sign : String} (hx : LabelReadBack x a)
    (hp : p.sign1? = some sign) : ReadBack (sign ++ x.shown).toList (.apply p [a]) := by
  obtain ⟨c, hsign, hc, hmark⟩ : ∃ c, sign.toList = [c] ∧ signBefore? c = some p ∧ ¬ Closes c := by
    cases p <;> cases hp
    · exact ⟨'-', rfl, rfl, by decide⟩
    · exact ⟨'+', rfl, rfl, by decide⟩
  have htext : ∀ rest, (sign ++ x.shown).toList ++ rest = c :: (x.shown.toList ++ rest) := by simp [hsign]
  refine ⟨fun {close} hclose rest => ?_, fun {rest y rest'} hends hsigned h => ?_⟩
  · rw [htext]
    rintro ⟨⟩
    exact hmark hclose
  · have hstop : rest.head? ≠ some '[' := hsigned (by rw [Expression.isSigned, hp]; rfl)
    obtain ⟨rfl, rfl⟩ := h.unique (.stop hstop)
    rw [htext]
    exact .signed hc (hx.shown.reads hends (fun _ => hstop) (.stop hstop))

theorem readBack_call {p : Primitive} {ls : List Label} {es : List Expression} (h : List.Forall₂ LabelReadBack ls es) :
    ReadBack (p.name ++ "(" ++ joinedLabels ls ++ ")").toList (.apply p es) := by
  have htext : ∀ rest, (p.name ++ "(" ++ joinedLabels ls ++ ")").toList ++ rest
      = p.name.toList ++ '(' :: ((joinedLabels ls).toList ++ ')' :: rest) := by simp
  refine ⟨fun {close} hclose rest => ?_, fun {rest x rest'} _ _ hrest => ?_⟩
  · rw [htext]
    exact (ReadBack.word (isWord_of_mem_name p) (toList_name_ne_nil p)).opens hclose _
  · rw [htext]
    exact .call (isWord_of_mem_name p) (toList_name_ne_nil p) (ofName?_name p) (reads_items h (by decide) rest) hrest

theorem readBack_application {p : Primitive} {ls : List Label} {es : List Expression}
    (h : List.Forall₂ LabelReadBack ls es) (hp : Expression.isReadable p es = true) :
    ReadBack (applicationText (some p) p.name ls).toList (.apply p es) := by
  rcases applicationText_cases p p.name ls with
    ⟨array, keys, rfl, rfl, htext⟩ | ⟨l, r, sign, rfl, hsign, htext⟩ | ⟨x, sign, rfl, hsign, htext⟩ | htext
  · rw [htext]
    cases h with
    | cons ha hkeys => exact readBack_indexed ha (by simpa [Expression.isReadable] using hp) hkeys
  · rw [htext]
    cases h with
    | cons hl hr =>
      cases hr with
      | cons hr hnil =>
        cases hnil
        exact readBack_between hl hr hsign
  · rw [htext]
    cases h with
    | cons hx hnil =>
      cases hnil
      exact readBack_signed hx hsign
  · rw [htext]
    exact readBack_call h

end Reader

/-! ## Expressions -/

theorem Node.expression?_symbol {s : Symbol} {e : Expression} (h : (Node.symbol s).expression? = some e) :
    isIdentifier s.name.content = true ∧ e = .name s.name.content := by
  rw [Node.expression?] at h
  split at h
  · next hs => exact ⟨hs, (Option.some.inj h).symm⟩
  · cases h

theorem Node.expression?_term {id : NodeId} {op : Callable} {args : List Value} {m m' : Mark} {t : DeclaredType}
    {e : Expression} (h : (Node.term id op args m t m').expression? = some e) :
    ∃ p es, op = .primitive p ∧ expressionsOf? args = some es ∧ Expression.isReadable p es = true ∧
      e = .apply p es := by
  rw [Node.expression?] at h
  obtain ⟨p, hp, hterm⟩ := Option.bind_eq_some_iff.1 h
  obtain ⟨es, hes, hterm⟩ := Option.bind_eq_some_iff.1 hterm
  obtain rfl : op = .primitive p := by
    cases op <;> cases hp
    rfl
  split at hterm
  · next hreadable => exact ⟨p, es, rfl, hes, hreadable, (Option.some.inj hterm).symm⟩
  · cases hterm

theorem expressionsOf?_cons {v : Value} {vs : List Value} {es : List Expression}
    (h : expressionsOf? (v :: vs) = some es) :
    ∃ e es', v.expression? = some e ∧ expressionsOf? vs = some es' ∧ es = e :: es' := by
  rw [expressionsOf?] at h
  obtain ⟨e, he, h⟩ := Option.bind_eq_some_iff.1 h
  obtain ⟨es', hes, h⟩ := Option.bind_eq_some_iff.1 h
  exact ⟨e, es', he, hes, (Option.some.inj h).symm⟩

theorem Reader.labelReadBack_int {k : Int} {m : Mark} {e : Expression} (h : (Value.int k m).expression? = some e) :
    Reader.LabelReadBack (Value.int k m).render e := by
  cases k with
  | ofNat n =>
    cases h
    exact .ofString (Reader.readBack_number n)
  | negSucc n => cases h

mutual

theorem Value.labelReadBack (v : Value) {e : Expression} (h : v.expression? = some e) :
    Reader.LabelReadBack v.render e := by
  cases v with
  | node n => exact Node.labelReadBack n h
  | int k m => exact Reader.labelReadBack_int h
  | _ => cases h
termination_by structural v

theorem Node.labelReadBack (n : Node) {e : Expression} (h : n.expression? = some e) :
    Reader.LabelReadBack n.label e := by
  cases n with
  | symbol s =>
    obtain ⟨hs, rfl⟩ := Node.expression?_symbol h
    exact Reader.labelReadBack_name hs
  | term id op args m t m' =>
    obtain ⟨p, es, rfl, hes, hreadable, rfl⟩ := Node.expression?_term h
    exact .ofString (Reader.readBack_application (labelReadBackAll args hes) hreadable)
  | constant id d m => cases h
  | arrayOp => cases h
termination_by structural n

theorem labelReadBackAll : ∀ (vs : List Value) {es : List Expression}, expressionsOf? vs = some es →
    List.Forall₂ Reader.LabelReadBack (renderAll vs) es
  | [], _, rfl => .nil
  | v :: vs, _, h => by
    obtain ⟨e, es, he, hes, rfl⟩ := expressionsOf?_cons h
    exact .cons (Value.labelReadBack v he) (labelReadBackAll vs hes)

end

theorem Value.reads_render {v : Value} {e : Expression} (h : v.expression? = some e) :
    Reader.Reads Reader.expression v.render.content.toList e [] := by
  have hback := (Value.labelReadBack v h).content
  rw [← List.append_nil v.render.content.toList]
  exact hback.reads (by rintro c ⟨⟩) (fun _ => by rintro ⟨⟩) (.stop (by rintro ⟨⟩))

/-- **Expressions with the same text are the same tree**, whatever the identities and declared types in it. -/
theorem Value.render_uniquely_readable {v w : Value} {e f : Expression} (hv : v.expression? = some e)
    (hw : w.expression? = some f) (h : v.render.content = w.render.content) : e = f := by
  have hread := Value.reads_render hv
  rw [h] at hread
  exact (hread.unique (Value.reads_render hw)).1

/-- A symbol that is named by a kind and one with the same name, of other types, both negated after indexing. -/
theorem Value.render_uniquely_readable_negated :
    let value (id : NodeId) (name : Label) (t : DeclaredType) : Value :=
      let symbol (name : Label) : Value := .node (.symbol ⟨id, name, t, id⟩)
      let term (p : Primitive) (args : List Value) : Value := .node (.term id (.primitive p) args id t id)
      term .neg [term .getitem [term .abs [symbol name, .int 2 id], term .add [symbol (.ofString "j"), .int 10 id]]]
    let v := value 3 (.kind .plain) (.scalar .none)
    let w := value 5 (.ofString "plain") (.array .plain .none (some 2))
    v.render.content = "-abs(plain, 2)[(j + 10)]" ∧ w.render.content = v.render.content ∧
      ∃ e f, v.expression? = some e ∧ w.expression? = some f ∧ e = f := by
  intro value v w
  have hv : v.render.content = "-abs(plain, 2)[(j + 10)]" := by decide +kernel
  have hw : w.render.content = "-abs(plain, 2)[(j + 10)]" := by decide +kernel
  obtain ⟨e, he⟩ : ∃ e, v.expression? = some e := Option.isSome_iff_exists.1 (by decide +kernel)
  obtain ⟨f, hf⟩ : ∃ f, w.expression? = some f := Option.isSome_iff_exists.1 (by decide +kernel)
  exact ⟨hv, hw.trans hv.symm, e, f, he, hf, Value.render_uniquely_readable he hf (hv.trans hw.symm)⟩

/-- An indexed operand after a sign and a signed operand before its keys have the same text. -/
theorem Node.label_indexed_signed {p : Primitive} {sign : String} (hp : p.sign1? = some sign) (x : Value)
    (keys : List Value) (id id' : NodeId) (t t' : DeclaredType) :
    (Node.term id (.primitive .getitem) (.node (.term id' (.primitive p) [x] id' t' id') :: keys) id t id).label =
      (Node.term id (.primitive p) [.node (.term id' (.primitive .getitem) (x :: keys) id' t' id')] id t id).label := by
  have hsigned : ∀ y, applicationText (some p) p.name [y] = sign ++ y.shown := by
    cases p <;> cases hp <;> exact fun _ => rfl
  change Label.ofString (applicationText (some p) p.name [x.render] ++ "[" ++ joinedLabels (renderAll keys) ++ "]") =
    .ofString (applicationText (some p) p.name
      [.ofString (x.render.shown ++ "[" ++ joinedLabels (renderAll keys) ++ "]")])
  rw [hsigned, hsigned]
  refine congrArg Label.ofString ?_
  change sign ++ x.render.shown ++ "[" ++ joinedLabels (renderAll keys) ++ "]" =
    sign ++ (x.render.shown ++ "[" ++ joinedLabels (renderAll keys) ++ "]")
  simp only [String.append_assoc]

end ArrayTyping

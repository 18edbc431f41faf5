import ArrayTyping.Text.Identifier
import ArrayTyping.Value.Text
import Mathlib.Data.List.Basic
/-!
# Reading — expressions read back from their text

An expression is a tree of operators over names and numbers.  Its text is read from left to right: a sign in front of an
operand, two operands with a sign between them in parentheses, an operator's name with its operands, or a word; and any
number of keys in brackets after each of these but the first.  The next character always says which it is.
-/
namespace ArrayTyping

/-- What an expression is built of, without identities and declared types. -/
inductive Expression where
  | name (s : String)
  | number (n : Nat)
  | apply (p : Primitive) (args : List Expression)

namespace Expression

def isSigned : Expression → Bool
  | .apply p [_] => p.sign1?.isSome
  | _ => false

end Expression

/-! ## Words -/

namespace Reader

/-- Whether `c` may stand in a word: a name, a number, or a kind or code with the place where it is defined. -/
def isWord (c : Char) : Bool := c == '.' || Identifier.isContinue c

def marks : List Char := [' ', '(', ')', '[', ']', ',', '+', '-']

theorem isWord_of_mark {c : Char} (h : c ∈ marks) : isWord c = false := by
  have hall : marks.all (!isWord ·) = true := by decide +kernel
  simpa using List.all_eq_true.1 hall c h

theorem ne_of_isWord {c d : Char} (h : isWord c = true) (hd : d ∈ marks) : c ≠ d := by
  rintro rfl
  cases (isWord_of_mark hd).symm.trans h

theorem isContinue_point : Identifier.isContinue '.' = false := by decide +kernel

theorem inRanges_eq_false {ranges : List (Nat × Nat)} {lo hi : Nat} {c : Char} (hlo : lo ≤ c.toNat) (hhi : c.toNat ≤ hi)
    (h : ∀ r ∈ ranges, r.2 < lo ∨ hi < r.1) : inRanges ranges c = false := by
  refine List.any_eq_false.2 fun r hr => ?_
  have := h r hr
  simp only [Bool.and_eq_true, decide_eq_true_eq]
  omega

theorem isDigit_iff {c : Char} : c.isDigit = true ↔ 48 ≤ c.toNat ∧ c.toNat ≤ 57 := by
  simp only [Char.isDigit, Bool.and_eq_true, decide_eq_true_eq, ge_iff_le, UInt32.le_iff_toNat_le]
  rfl

theorem isStart_of_digit {c : Char} (h : c.isDigit = true) : Identifier.isStart c = false := by
  obtain ⟨hlo, hhi⟩ := isDigit_iff.1 h
  have hranges : ∀ r ∈ Identifier.startRanges, r.2 < 48 ∨ 57 < r.1 := by decide +kernel
  rw [Identifier.isStart, inRanges_eq_false hlo hhi hranges, Bool.or_false, beq_eq_false_iff_ne]
  rintro rfl
  cases h

theorem isWord_of_digit {c : Char} (h : c.isDigit = true) : isWord c = true := by
  obtain ⟨hlo, hhi⟩ := isDigit_iff.1 h
  have hmem : (48, 57) ∈ Identifier.continueRanges := by decide +kernel
  have hrange : inRanges Identifier.continueRanges c = true :=
    List.any_eq_true.2 ⟨(48, 57), hmem, by simp [hlo, hhi]⟩
  rw [isWord, Identifier.isContinue, hrange, Bool.or_true, Bool.or_true]

/-- The names that are written in one way among keys and operands and in another inside a sentence. -/
def members : List Label := Container.all.map .kind ++ ErrorCode.all.map .code

def nameOf (word : List Char) : String :=
  ((members.find? fun l => l.shown.toList == word).map Label.content).getD (String.ofList word)

/-- The leaf that a word stands for: a number if it has only digits, else a name. -/
def leaf (word : List Char) : Expression :=
  if word.all Char.isDigit then .number (Nat.ofDigitChars 10 word 0) else .name (nameOf word)

theorem leaf_toDigits (n : Nat) : leaf (Nat.toDigits 10 n) = .number n := by
  have hdigits : (Nat.toDigits 10 n).all Char.isDigit = true :=
    List.all_eq_true.2 fun c hc => Nat.isDigit_of_mem_toDigits (by decide) (by decide) hc
  rw [leaf, if_pos hdigits, Nat.ofDigitChars_ten_toDigits]

theorem shown_members : ∀ l ∈ members,
    '.' ∈ l.shown.toList ∧ l.shown.toList.all isWord = true ∧ nameOf l.shown.toList = l.content := by
  decide +kernel

/-- A name is not taken for a kind or code. -/
theorem nameOf_of_identifier {s : String} (h : ∀ c ∈ s.toList, Identifier.isContinue c = true) :
    nameOf s.toList = s := by
  have hnone : members.find? (fun l => l.shown.toList == s.toList) = none := by
    refine List.find?_eq_none.2 fun l hl heq => ?_
    have hpoint := (shown_members l hl).1
    rw [beq_iff_eq.1 heq] at hpoint
    cases isContinue_point.symm.trans (h '.' hpoint)
  rw [nameOf, hnone]
  exact String.ofList_toList

/-! ## The reader -/

def after (c : Char) : List Char → Option (List Char)
  | [] => none
  | d :: s => if d = c then some s else none

def signBefore? (c : Char) : Option Primitive := if c = '-' then some .neg else if c = '+' then some .pos else none

def signBetween (s : List Char) : Option (Primitive × List Char) := do
  let s ← after ' ' s
  let p ← Primitive.all.find? fun p => p.sign2?.map String.toList == some (s.takeWhile (· != ' '))
  let s ← after ' ' (s.dropWhile (· != ' '))
  return (p, s)

mutual

/-- The first expression of a text, and the rest, in so many steps. -/
def expression : Nat → List Char → Option (Expression × List Char)
  | 0, _ => none
  | _ + 1, [] => none
  | n + 1, c :: s =>
    match signBefore? c with
    | some p => do
      let (e, s) ← expression n s
      return (.apply p [e], s)
    | none =>
      if c = '(' then do
        let (l, s) ← expression n s
        let (p, s) ← signBetween s
        let (r, s) ← expression n s
        let s ← after ')' s
        indexed n (.apply p [l, r]) s
      else afterWord n ((c :: s).takeWhile isWord) ((c :: s).dropWhile isWord)
termination_by structural n => n

def afterWord : Nat → List Char → List Char → Option (Expression × List Char)
  | 0, _, _ => none
  | n + 1, word, s =>
    match after '(' s with
    | some s => do
      let p ← Primitive.ofName? (String.ofList word)
      let (args, s) ← items n ')' s
      indexed n (.apply p args) s
    | none => indexed n (leaf word) s
termination_by structural n => n

def indexed : Nat → Expression → List Char → Option (Expression × List Char)
  | 0, _, _ => none
  | n + 1, e, s =>
    match after '[' s with
    | some s => do
      let (keys, s) ← items n ']' s
      indexed n (.apply .getitem (e :: keys)) s
    | none => some (e, s)
termination_by structural n => n

def items : Nat → Char → List Char → Option (List Expression × List Char)
  | 0, _, _ => none
  | n + 1, close, s =>
    match after close s with
    | some s => some ([], s)
    | none => do
      let (e, s) ← expression n s
      let (es, s) ← more n close s
      return (e :: es, s)
termination_by structural n => n

def more : Nat → Char → List Char → Option (List Expression × List Char)
  | 0, _, _ => none
  | n + 1, close, s =>
    match after close s with
    | some s => some ([], s)
    | none => do
      let s ← after ',' s
      let s ← after ' ' s
      let (e, s) ← expression n s
      let (es, s) ← more n close s
      return (e :: es, s)
termination_by structural n => n

end

/-- Given enough steps, `a` is read from the text, up to the rest. -/
def Reads {α : Type} (read : Nat → List Char → Option (α × List Char)) (text : List Char) (a : α) (rest : List Char) :
    Prop :=
  ∃ k, ∀ n, k ≤ n → read n text = some (a, rest)

theorem Reads.unique {α : Type} {read : Nat → List Char → Option (α × List Char)} {text rest rest' : List Char}
    {a b : α} (h : Reads read text a rest) (h' : Reads read text b rest') : a = b ∧ rest = rest' := by
  obtain ⟨k, hk⟩ := h
  obtain ⟨k', hk'⟩ := h'
  have heq := (hk (max k k') (Nat.le_max_left k k')).symm.trans (hk' (max k k') (Nat.le_max_right k k'))
  exact Prod.mk.inj (Option.some.inj heq)

theorem Reads.of_succ {α : Type} {read : Nat → List Char → Option (α × List Char)} {text rest : List Char} {a : α}
    (k : Nat) (h : ∀ n, k ≤ n → read (n + 1) text = some (a, rest)) : Reads read text a rest := by
  refine ⟨k + 1, fun n hn => ?_⟩
  obtain ⟨m, rfl⟩ : ∃ m, n = m + 1 := ⟨n - 1, by omega⟩
  exact h m (by omega)

/-! ## What is read, rule by rule -/

def Ends (s : List Char) : Prop := ∀ c, s.head? = some c → isWord c = false ∧ c ≠ '('

section Rules

variable {s t u word rest : List Char} {e l r x : Expression} {es args keys : List Expression} {c close : Char}
  {p : Primitive}

@[simp]
theorem after_self (c : Char) (s : List Char) : after c (c :: s) = some s := if_pos rfl

theorem after_eq_none (h : s.head? ≠ some c) : after c s = none := by
  cases s with
  | nil => rfl
  | cons d s => exact if_neg fun hd => h (congrArg some hd)

theorem signBefore?_of_isWord (h : isWord c = true) : signBefore? c = none := by
  have hminus : c ≠ '-' := ne_of_isWord h (by decide)
  have hplus : c ≠ '+' := ne_of_isWord h (by decide)
  rw [signBefore?, if_neg hminus, if_neg hplus]

theorem signBetween_eq {sign : String} (hp : p.sign2? = some sign) (s : List Char) :
    signBetween (' ' :: sign.toList ++ ' ' :: s) = some (p, s) := by
  cases p <;> cases hp <;> rfl

theorem Reads.signed (hp : signBefore? c = some p) (h : Reads expression s e rest) :
    Reads expression (c :: s) (.apply p [e]) rest := by
  obtain ⟨k, hk⟩ := h
  refine .of_succ k fun n hn => ?_
  simp [expression, hp, hk n hn]

theorem Reads.between (hl : Reads expression s l t) (hp : signBetween t = some (p, u))
    (hr : Reads expression u r (')' :: word)) (h : Reads (indexed · (.apply p [l, r])) word x rest) :
    Reads expression ('(' :: s) x rest := by
  obtain ⟨kl, hkl⟩ := hl
  obtain ⟨kr, hkr⟩ := hr
  obtain ⟨k, hk⟩ := h
  refine .of_succ (kl + kr + k) fun n hn => ?_
  have hsign : signBefore? '(' = none := rfl
  simp [expression, hsign, hkl n (by omega), hp, hkr n (by omega), hk n (by omega)]

theorem Reads.afterWord (hword : ∀ c ∈ word, isWord c = true) (hne : word ≠ [])
    (hs : ∀ c, s.head? = some c → isWord c = false) (h : Reads (Reader.afterWord · word) s x rest) :
    Reads expression (word ++ s) x rest := by
  obtain ⟨k, hk⟩ := h
  refine .of_succ k fun n hn => ?_
  have htake : s.takeWhile isWord = [] := by
    cases s with
    | nil => rfl
    | cons d s => exact List.takeWhile_cons_of_neg (by simp [hs d rfl])
  have hdrop : s.dropWhile isWord = s := by
    cases s with
    | nil => rfl
    | cons d s => exact List.dropWhile_cons_of_neg (by simp [hs d rfl])
  cases word with
  | nil => exact absurd rfl hne
  | cons c word =>
    have hc := hword c List.mem_cons_self
    rw [List.cons_append, expression, signBefore?_of_isWord hc]
    have hparen : c ≠ '(' := ne_of_isWord hc (by decide)
    simp only [if_neg hparen]
    rw [← List.cons_append, List.takeWhile_append_of_pos hword, List.dropWhile_append_of_pos hword, htake, hdrop,
      List.append_nil]
    exact hk n hn

theorem Reads.leaf (hword : ∀ c ∈ word, isWord c = true) (hne : word ≠ []) (hs : Ends s)
    (h : Reads (indexed · (Reader.leaf word)) s x rest) : Reads expression (word ++ s) x rest := by
  refine .afterWord hword hne (fun c hc => (hs c hc).1) ?_
  obtain ⟨k, hk⟩ := h
  refine .of_succ k fun n hn => ?_
  simp only [Reader.afterWord, after_eq_none fun hc => (hs '(' hc).2 rfl, hk n hn]

theorem Reads.call (hword : ∀ c ∈ word, isWord c = true) (hne : word ≠ [])
    (hp : Primitive.ofName? (String.ofList word) = some p) (hargs : Reads (items · ')') s args t)
    (h : Reads (indexed · (.apply p args)) t x rest) : Reads expression (word ++ '(' :: s) x rest := by
  refine .afterWord hword hne ?_ ?_
  · rintro c ⟨⟩
    exact isWord_of_mark (by decide)
  · obtain ⟨ka, hka⟩ := hargs
    obtain ⟨k, hk⟩ := h
    refine .of_succ (ka + k) fun n hn => ?_
    simp [Reader.afterWord, hp, hka n (by omega), hk n (by omega)]

theorem Reads.stop (h : rest.head? ≠ some '[') : Reads (indexed · e) rest e rest :=
  .of_succ 0 fun n _ => by simp only [indexed, after_eq_none h]

theorem Reads.key (hkeys : Reads (items · ']') s keys t)
    (h : Reads (indexed · (.apply .getitem (e :: keys))) t x rest) : Reads (indexed · e) ('[' :: s) x rest := by
  obtain ⟨kk, hkk⟩ := hkeys
  obtain ⟨k, hk⟩ := h
  refine .of_succ (kk + k) fun n hn => ?_
  simp [indexed, hkk n (by omega), hk n (by omega)]

theorem Reads.items_nil : Reads (items · close) (close :: rest) [] rest :=
  .of_succ 0 fun n _ => by simp [items]

theorem Reads.items_cons (hopen : s.head? ≠ some close) (he : Reads expression s e t)
    (hes : Reads (more · close) t es rest) : Reads (items · close) s (e :: es) rest := by
  obtain ⟨ke, hke⟩ := he
  obtain ⟨k, hk⟩ := hes
  refine .of_succ (ke + k) fun n hn => ?_
  simp [items, after_eq_none hopen, hke n (by omega), hk n (by omega)]

theorem Reads.more_nil : Reads (more · close) (close :: rest) [] rest :=
  .of_succ 0 fun n _ => by simp [more]

theorem Reads.more_cons (hclose : close ≠ ',') (he : Reads expression s e t) (hes : Reads (more · close) t es rest) :
    Reads (more · close) (',' :: ' ' :: s) (e :: es) rest := by
  obtain ⟨ke, hke⟩ := he
  obtain ⟨k, hk⟩ := hes
  refine .of_succ (ke + k) fun n hn => ?_
  have hcomma : after close (',' :: ' ' :: s) = none := after_eq_none fun h => hclose (Option.some.inj h).symm
  simp [more, hcomma, hke n (by omega), hk n (by omega)]

end Rules

end Reader

end ArrayTyping

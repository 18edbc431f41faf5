import ArrayTyping.Proofs.Lookalikes
/-!
# Contexts — an array in the middle of an expression

A context is an expression with one place left open, built by applications of the library's operators, indexings and
arrays by index notation; all other parts stand there already.  Inference looks at what is put into the open place from
outside: at its type and its shape.  The one way to look further is a walk through the body of an array by index
notation, and no walk goes below an indexing.  So if the way up from the open place to each such body leads through the
array of an indexing, then two arrays of one type and shape can stand for one another.
-/
namespace ArrayTyping

open Build (outcome apply index arrayOp)

/-- An expression with one place left open. -/
inductive Context where
  | hole
  /-- An operand of an application. -/
  | operand (op : Value) (before : List Value) (c : Context) (after : List Value)
  /-- The array of an indexing. -/
  | array (c : Context) (key : Value)
  /-- The only key of an indexing. -/
  | key (array : Value) (c : Context)
  /-- One of the keys of an indexing. -/
  | keyAmong (array : Value) (before : List Value) (c : Context) (after : List Value)
  /-- The body of an array by index notation. -/
  | body (output : Value) (c : Context) (reduce source container : Value)
  /-- The source term of an array by index notation. -/
  | source (output body reduce : Value) (c : Context) (container : Value)
  /-- One of the output indices of an array by index notation. -/
  | output (before : List Value) (c : Context) (after : List Value) (body reduce source container : Value)

namespace Context

/-- The expression with `x` in the open place, built from the inside. -/
def fill (x : Node) : Context → Build Node
  | hole => return x
  | operand op before c after => do apply .builtin op (before ++ .node (← c.fill x) :: after)
  | array c k => do index (.node (← c.fill x)) k
  | key a c => do index a (.node (← c.fill x))
  | keyAmong a before c after => do index a (.ofItems (before ++ .node (← c.fill x) :: after))
  | body out c reduce src container => do arrayOp out (.node (← c.fill x)) reduce src container
  | source out b reduce c container => do arrayOp out b reduce (.node (← c.fill x)) container
  | output before c after b reduce src container => do
    arrayOp (.ofItems (before ++ .node (← c.fill x) :: after)) b reduce src container

def parts : Context → List Value
  | hole => []
  | operand _ before c after => before ++ after ++ c.parts
  | array c k => k :: c.parts
  | key a c => a :: c.parts
  | keyAmong a before c after => a :: (before ++ after ++ c.parts)
  | body _ c _ src _ => src :: c.parts
  | source _ b _ c _ => b :: c.parts
  | output before c after b _ src _ => b :: src :: (before ++ after ++ c.parts)

/-- The way up from the open place leads through the array of an indexing. -/
def throughIndexing : Context → Bool
  | hole => false
  | array _ _ => true
  | operand _ _ c _ | key _ c | keyAmong _ _ c _ | body _ c _ _ _ | source _ _ _ c _ | output _ c _ _ _ _ _ =>
    c.throughIndexing

/-- The way up from the open place to the body of every array by index notation leads through the array of an
indexing. -/
def Hygienic : Context → Prop
  | hole => True
  | body _ c _ _ _ => c.throughIndexing = true ∧ c.Hygienic
  | operand _ _ c _ | array c _ | key _ c | keyAmong _ _ c _ | source _ _ _ c _ | output _ c _ _ _ _ _ => c.Hygienic

variable {st st' base : Store} {p : Prop}

theorem grows_fill (x : Node) (c : Context) : Build.Grows (c.fill x) := by
  induction c with
  | hole => exact (Build.Steady.pure x).grows
  | operand op before c after ih => exact ih.bind fun n => Build.grows_apply RuleBook.builtin_grows op _
  | array c k ih => exact ih.bind fun n => Build.grows_index _ k
  | key a c ih => exact ih.bind fun n => Build.grows_index a _
  | keyAmong a before c after ih => exact ih.bind fun n => Build.grows_index a _
  | body out c reduce src container ih => exact ih.bind fun n => Build.grows_arrayOp _ _ _ _ _
  | source out b reduce c container ih => exact ih.bind fun n => Build.grows_arrayOp _ _ _ _ _
  | output before c after b reduce src container ih => exact ih.bind fun n => Build.grows_arrayOp _ _ _ _ _

theorem sameArguments {n m : Node} (h : st.Standin p st' n m) {before after : List Value}
    (hparts : ∀ v ∈ before ++ after, base.HasNodes v.nodes) :
    List.Forall₂ (base.SameArgument p st st') (before ++ .node n :: after) (before ++ .node m :: after) := by
  refine List.rel_append (List.forall₂_same.2 fun v hv => .shared (hparts v (List.mem_append_left _ hv)))
    (.cons (.standin h) (List.forall₂_same.2 fun v hv => .shared (hparts v (List.mem_append_right _ hv))))

/-- A source term that was made before is walked through alike. -/
theorem sameSource (hb : base.Branches st st') {src : Value} (h : base.HasNodes src.nodes) :
    SameAnswer (Build.SameSource p st st') src.toSource src.toSource := by
  cases src with
  | none => exact fun _ => ⟨Iff.rfl, .nil⟩
  | node n =>
    have hwalk : st.SameWalk st' (.node n) (.node n) := hb.sameWalk h
    exact fun _ => ⟨hwalk.wellIndexed, hwalk.uses⟩
  | _ => exact rfl

/-- An array, and any node other than a symbol, is no output index. -/
theorem ofValue_of_bare {n : Node} (h : n.isArray = true ∨ (Value.node n).symbol? = none) :
    OutputIndex.ofValue (.node n) = .error (.refusal (.invalidOutput (.node n))) := by
  cases n with
  | symbol s =>
    rcases h with h | h
    · exact if_pos h
    · cases h
  | _ => rfl

theorem sameAnswer_ofValue {v w : Value} (h : base.SameArgument p st st' v w) :
    SameAnswer Eq (OutputIndex.ofValue v) (OutputIndex.ofValue w) := by
  cases h with
  | shared => exact .refl (fun _ => rfl) _
  | @standin n m h =>
    have harray : m.isArray = n.isArray := DeclaredType.isArray_of_plain h.type_eq
    rw [ofValue_of_bare (h.bare.imp id And.left), ofValue_of_bare (h.bare.imp harray.trans And.right)]
    exact rfl

theorem sameAnswer_toOutput {vs ws : List Value} (h : List.Forall₂ (base.SameArgument p st st') vs ws) :
    SameAnswer Eq (Value.ofItems vs).toOutput (Value.ofItems ws).toOutput := by
  have hitems := SameAnswer.mapM (fun _ _ hvw => sameAnswer_ofValue hvw) h
  rw [List.forall₂_eq_eq_eq] at hitems
  exact hitems

/-- **What a context makes of lookalikes are lookalikes**, by induction on the way up from the open place.  They are
walked through alike as soon as that way has led through the array of an indexing. -/
theorem fill_together (hw : base.WellFormed) {x y : Node} (hxy : base.Standin False base x y) (c : Context)
    (hc : c.Hygienic) (hparts : ∀ v ∈ c.parts, base.HasNodes v.nodes) :
    Build.Together (Store.Standin (c.throughIndexing = true)) (outcome (c.fill x) base) (outcome (c.fill y) base) := by
  have hbranches : ∀ (c : Context) (n m : Node) (st st' : Store), outcome (c.fill x) base = (.ok n, st) →
      outcome (c.fill y) base = (.ok m, st') → base.Branches st st' :=
    fun c n m st st' hx hy => ⟨(c.grows_fill x).of_ok hw hx, (c.grows_fill y).of_ok hw hy⟩
  induction c with
  | hole => exact .of_ok rfl rfl ⟨⟨hxy.type_eq, hxy.shape, fun h => (by cases h)⟩, hxy.bare⟩
  | operand op before c after ih =>
    obtain ⟨hbeside, hinner⟩ := List.forall_mem_append.1 hparts
    refine (ih hc hinner).bind fun n m st st' hx hy hnm => ?_
    exact Build.apply_together (hbranches c n m st st' hx hy) (sameArguments hnm hbeside)
  | array c k ih =>
    obtain ⟨hk, hinner⟩ := List.forall_mem_cons.1 hparts
    refine (ih hc hinner).bind fun n m st st' hx hy hnm => ?_
    have hkeys : List.Forall₂ (base.SameArgument True st st') (Build.indexKeys k) (Build.indexKeys k) :=
      List.forall₂_same.2 fun v hv => .shared fun n hn => hk n (Build.indexKeys_nodes hv hn)
    exact Build.index_together (hbranches c n m st st' hx hy) (.standin hnm) hkeys
  | key a c ih =>
    obtain ⟨ha, hinner⟩ := List.forall_mem_cons.1 hparts
    refine (ih hc hinner).bind fun n m st st' hx hy hnm => ?_
    exact Build.index_together (p := True) (hbranches c n m st st' hx hy) (.shared ha) (.cons (.standin hnm) .nil)
  | keyAmong a before c after ih =>
    obtain ⟨ha, hrest⟩ := List.forall_mem_cons.1 hparts
    obtain ⟨hbeside, hinner⟩ := List.forall_mem_append.1 hrest
    refine (ih hc hinner).bind fun n m st st' hx hy hnm => ?_
    exact Build.index_together (p := True) (hbranches c n m st st' hx hy) (.shared ha) (sameArguments hnm hbeside)
  | body out c reduce src container ih =>
    obtain ⟨hsrc, hinner⟩ := List.forall_mem_cons.1 hparts
    refine (ih hc.2 hinner).bind fun n m st st' hx hy hnm => ?_
    have hb := hbranches c n m st st' hx hy
    exact Build.arrayOp_together hb.left.wellFormed hb.right.wellFormed (.refl (fun _ => rfl) _) (sameSource hb hsrc)
      (sameAnswer_bodyElementType hnm.type_eq.symm) (hnm.walk hc.1)
  | source out b reduce c container ih =>
    obtain ⟨hbody, hinner⟩ := List.forall_mem_cons.1 hparts
    refine (ih hc hinner).bind fun n m st st' hx hy hnm => ?_
    have hb := hbranches c n m st st' hx hy
    refine Build.arrayOp_together hb.left.wellFormed hb.right.wellFormed (.refl (fun _ => rfl) _) ?_
      (sameAnswer_bodyElementType_refl b) (hb.sameWalk hbody)
    exact fun hp => ⟨(hnm.walk hp).wellIndexed, (hnm.walk hp).uses⟩
  | output before c after b reduce src container ih =>
    obtain ⟨hbody, hrest⟩ := List.forall_mem_cons.1 hparts
    obtain ⟨hsrc, hrest⟩ := List.forall_mem_cons.1 hrest
    obtain ⟨hbeside, hinner⟩ := List.forall_mem_append.1 hrest
    refine (ih hc hinner).bind fun n m st st' hx hy hnm => ?_
    have hb := hbranches c n m st st' hx hy
    exact Build.arrayOp_together hb.left.wellFormed hb.right.wellFormed
      (sameAnswer_toOutput (sameArguments hnm hbeside)) (sameSource hb hsrc) (sameAnswer_bodyElementType_refl b)
      (hb.sameWalk hbody)

/-- **Two arrays of one declared type and one shape can stand for one another in every hygienic context**: both
expressions are built, with one declared type and one shape, or both are refused with a fault of one class. -/
theorem fill_sameBuilt (hw : st.WellFormed) (c : Context) (hc : c.Hygienic)
    (hparts : ∀ v ∈ c.parts, st.HasNodes v.nodes) {x y : Node} (hx : x.id < st.next) (hy : y.id < st.next)
    (harray : x.isArray = true) (htype : x.type.plain = y.type.plain)
    (hshape : SameAnswer ShapesAlike (st.slots.shapeOf (.node x)) (st.slots.shapeOf (.node y))) :
    Build.SameBuilt (outcome (c.fill x) st) (outcome (c.fill y) st) := by
  have hxy : st.Standin False st x y := by
    refine ⟨⟨htype.symm, ⟨hshape, ?_, ?_⟩, False.elim⟩, .inl harray⟩
    · rintro _ ⟨⟩
      exact hx
    · rintro _ ⟨⟩
      exact hy
  rw [Build.sameBuilt_iff_together]
  exact (fill_together hw hxy c hc hparts).imp fun n m st₁ st₁' _ _ hnm => ⟨hnm.type_eq.symm, hnm.shape.shape⟩

/-- The rows of a table of lengths three and five, summed up along `i`, and a vector of length three: the products of
either with another vector at `i` are arrays of length three, although `i` runs up to five inside of the sums. -/
theorem fill_sameBuilt_sums :
    let index (id : NodeId) (name : String) : Symbol := ⟨id, .ofString name, .scalar (some .index), id + 1⟩
    let array (id : NodeId) (name : String) (rank : Nat) : Node :=
      .symbol ⟨id, .ofString name, .array .plain none (some rank), id + 1⟩
    let i := index 1 "i"
    let j := index 3 "j"
    let element (id : NodeId) (a : Node) (keys : List Symbol) : Node :=
      .term id (.primitive .getitem) (.node a :: keys.map fun s => .node (.symbol s)) (id + 1) (.scalar none) (id + 2)
    let sums : Node := .arrayOp 10 [.symbol j] 11 (.node (element 7 (array 5 "table" 2) [j, i])) (.primitive .add) none
      .plain none 12
    let vector := array 13 "vector" 1
    let products : Context := .body (.ofItems [.node (.symbol i)])
      (.operand (.callable (.primitive .mul)) [.node (element 17 (array 15 "other" 1) [i])]
        (.array .hole (.node (.symbol i))) [])
      (.callable (.primitive .add)) .none (.kind .plain)
    let lengths (ns : List Nat) : ShapeInfo := some (.ofAxes (ns.map Axis.ofLength))
    let st : Store := { Store.empty with
      next := 20
      slots := ⟨[(5, lengths [3, 5]), (10, lengths [3]), (13, lengths [3]), (15, lengths [3])]⟩ }
    st.WellFormed ∧ products.Hygienic ∧ (∀ v ∈ products.parts, st.HasNodes v.nodes) ∧ sums.isArray = true ∧
      Build.SameBuilt (outcome (products.fill sums) st) (outcome (products.fill vector) st) ∧
      ∃ n st' shape, outcome (products.fill sums) st = (.ok n, st') ∧ st'.slots.shapeOf (.node n) = .ok (some shape) ∧
        shape.plain = .ofAxes [.ofLength 3] := by
  intro index array i j element sums vector products lengths st
  have hw : st.WellFormed := by
    intro id hid
    have hne : ∀ k, k < 20 → (id == k) = false := fun k hk => beq_false_of_ne (Nat.ne_of_gt (Nat.lt_of_lt_of_le hk hid))
    show List.lookup id st.slots.entries = none
    simp only [st, List.lookup_cons, hne 5 (by decide), hne 10 (by decide), hne 13 (by decide), hne 15 (by decide),
      List.lookup_nil]
  have hhygienic : products.Hygienic := ⟨rfl, trivial⟩
  have hparts : ∀ v ∈ products.parts, st.HasNodes v.nodes := by
    show ∀ v ∈ products.parts, ∀ n ∈ v.nodes, n.id < 20
    decide
  refine ⟨hw, hhygienic, hparts, rfl, ?_, _, _, _, rfl, rfl, rfl⟩
  exact fill_sameBuilt hw products hhygienic hparts (by decide) (by decide) rfl rfl (ShapesAlike.refl _)

end Context

end ArrayTyping

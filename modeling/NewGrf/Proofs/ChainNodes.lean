import NewGrf.Proofs.Assignments
import NewGrf.Proofs.Nodes

namespace NewGrf

/-- What a patch writes to: where it starts, and how many bytes. -/
def Patch.place (p : Patch) : Nat × Nat := (p.offset, p.size)

namespace Chain

/-- A part of a chain that only makes nodes. -/
abbrev Grown {α : Type} (m : Adding α) : Prop := Passes .growing m

instance (o) : Grown (pushOp o) := .modify

instance (t) : Grown (pushTerm t) := .modify

instance (value note) : Grown (pushConstant value note) := .modify

instance : Grown pop := .modify

instance (actions) : Grown (emit actions) := .modify

instance : Grown scope := by
  unfold scope
  infer_instance

instance (note) : Grown (keep note) := by
  unfold keep
  infer_instance

instance (cell) : Grown (loadOf cell) := by
  unfold loadOf
  infer_instance

instance (e) : Grown (viaParam e) := by
  unfold viaParam
  infer_instance

instance (e offset) : Grown (numberAt e offset) := by
  unfold numberAt
  split <;> infer_instance

instance (e : Option Expr) (offset) : Grown (e.mapM fun e => numberAt e offset) := by
  cases e with
  | none => exact .pure
  | some e =>
    change Grown (some <$> numberAt e offset)
    rw [map_eq_pure_bind]
    infer_instance

instance (param note) : Grown (pushParam param note) := by
  unfold pushParam
  infer_instance

instance : Grown setAside := by
  refine .andThen inferInstance fun _ => ?_
  split <;> infer_instance

instance (kept) : Grown (takeBack kept) := by
  unfold takeBack
  split <;> infer_instance

section Compile

variable {compile : Compile} [parts : ∀ e, Grown (compile e)]

instance (extra) : Grown (storeAll compile extra) := by
  induction extra with
  | nil => exact .pure
  | cons x rest ih =>
    unfold storeAll
    infer_instance

instance (extra) : Grown (storeExtra compile extra) := by
  unfold storeExtra
  infer_instance

instance (a pos) : Grown (pushAccess compile a pos) := by
  unfold pushAccess
  split <;> split <;> infer_instance

instance (op e) : Grown (rightOperand compile op e) := by
  unfold rightOperand
  infer_instance

instance (op a b pos) : Grown (pushBinary compile op a b pos) := by
  unfold pushBinary
  split
  · split <;> infer_instance
  · infer_instance

instance (e) : Grown (pushAll compile e) := by
  unfold pushAll
  split <;> infer_instance

instance (cells args) : Grown (passArguments compile cells args) := by
  unfold passArguments
  refine .andThen (.forIn fun ⟨_, _⟩ _ => ?_) fun _ => .andThen (.forIn fun ⟨_, _⟩ _ => ?_)
    fun _ => .pure
  · split
    split
    · split
      · exact .after fun _ => inferInstance
      · infer_instance
    · split <;> infer_instance
  · infer_instance

instance (name args called group pos) : Grown (pushCall compile name args called group pos) := by
  unfold pushCall
  refine .after fun _ => ?_
  split
  · split
    · infer_instance
    · refine .after fun _ => .after fun _ => ?_
      split <;> split <;> infer_instance
  · split
    · infer_instance
    · refine .after fun _ => .after fun _ => ?_
      split
      · split <;> infer_instance
      · split
        · infer_instance
        · infer_instance
        · exact .after fun _ => inferInstance

instance (cells args) : Grown (storeArguments compile cells args) := by
  unfold storeArguments
  refine .andThen (.forIn fun ⟨_, _⟩ _ => ?_) fun _ => .pure
  split
  split <;> infer_instance

end Compile

section Nodes

variable {s t : Session} {i : Nat}

instance {m : Adding Unit} [h : Grown m] (feature range) : Makes (run feature range m) :=
  .andThen (h.keeps _) fun _ => .just

instance (d name pos c) : Makes (newNode d name pos c) := by
  unfold newNode
  infer_instance

/-- A node that is made of a chain is a new one. -/
theorem newNode_eq_ok {d : Draft} {name pos c} (h : newNode d name pos c s = .ok i t) :
    s.graph.nodes.size = i ∧ i < t.graph.nodes.size ∧ (t.graph.node i).feature = d.feature ∧
      (t.graph.node i).body = .chain { c with varRange := d.range, chain := d.chain } := by
  obtain ⟨j, u, new, h⟩ := Build.bind_eq_ok.1 h
  obtain ⟨_, v, referred, h⟩ := Build.bind_eq_ok.1 h
  obtain ⟨rfl, rfl⟩ := Build.pure_eq_ok.1 h
  obtain ⟨rfl, rfl⟩ := Build.newNode_eq_ok.1 new
  have grows := (Ensures.forM (R := .growing).of_ok referred).1
  have inside (n : Node) : s.graph.nodes.size < (s.graph.addNode n).2.nodes.size := by
    simp [Graph.addNode]
  exact ⟨rfl, Nat.lt_of_lt_of_le (inside _) grows.size,
    (grows.feature _ (inside _)).trans (congrArg Node.feature Graph.node_addNode),
    (grows.body _ (inside _)).trans (congrArg Node.body Graph.node_addNode)⟩

instance {compile : Compile} [∀ e, Grown (compile e)] (e feature name range) :
    Makes (returning compile e feature name range) := by
  unfold returning
  infer_instance

end Nodes

end Chain

open Drafting

/-- What has been patched of a node. -/
def Draft.Patched (d : Draft) (places : List (Nat × Nat)) : Prop :=
  d.patches.map Patch.place = places

/-- A part of building a node that patches nothing of the node itself. -/
abbrev Unpatched {α : Type} (m : Drafting α) : Prop :=
  ∀ places, Carries .growing (Draft.Patched · places) m fun _ d => d.Patched places

theorem Drafting.emit_unpatched (actions : List Action) : Unpatched (emit actions) :=
  fun _ => .modify fun _ => id

theorem Drafting.patch_patched {places} (patches : List Patch) :
    Carries .growing (Draft.Patched · places) (patch patches)
      fun _ d => d.Patched (places ++ patches.map Patch.place) := by
  refine .modify fun d patched => ?_
  change (d.patches ++ patches).map Patch.place = _
  rw [List.map_append, patched]

instance (actions) : Passes .growing (Drafting.emit actions) := .modify

instance (patches) : Passes .growing (Drafting.patch patches) := .modify

namespace Chain

instance (title) : Fixed (nextResultName title) := .seq

instance : Fixed countResult := .modify

theorem emptyNode_unpatched (feature : Int) (pos : Option Position) :
    Unpatched (emptyNode feature pos) := by
  refine fun places => .ite (fun _ => .quiet inferInstance) fun _ =>
    .ite (fun _ => .quiet inferInstance) fun _ => .skip fun s => ?_
  exact .ite (fun _ => .quiet inferInstance) fun _ =>
    .bind (emit_unpatched _ _) fun _ => .quiet inferInstance

theorem failing_unpatched (feature : Int) (parent : Nat) (pos : Option Position) :
    Unpatched (failing feature parent pos) := by
  intro places
  refine .skip fun s => ?_
  extract_lets last
  have referred (i : Nat) : Carries .growing (Draft.Patched · places) (last i)
      fun _ d => d.Patched places := .skip fun _ => .just
  split
  · exact .bind .just referred
  · exact .bind (emptyNode_unpatched feature pos places) fun shown =>
      .bind (emit_unpatched _ _) fun _ => .skip fun i => .skip fun _ =>
      .bind (emit_unpatched _ _) fun _ =>
      .bind (.quiet (.modify fun _ => .of_sameNodes ⟨rfl, rfl⟩)) fun _ => .bind .just referred

instance (feature name group pos) : Fixed (referred? feature name group pos) := by
  unfold referred?
  split
  · infer_instance
  · refine .after fun _ => .after fun _ => ?_
    split <;> infer_instance

section Compile

variable {compile : Compile} [parts : ∀ e, Grown (compile e)]

theorem passingNode_unpatched (feature : Int) (range : VarRange) (name : Ident) (cells : List Nat)
    (args : List Expr) (pos : Option Position) :
    Unpatched (passingNode compile feature range name cells args pos) :=
  fun _ => .skip fun _ => .bind (emit_unpatched _ _) fun _ => .skip fun _ => .skip fun _ =>
    .skip fun _ => .skip fun _ => .skip fun _ => .skip fun _ =>
    .bind (emit_unpatched _ _) fun _ => .just

theorem blockResult_unpatched (parent : Nat) (range : VarRange) (name : Ident) (args : List Expr)
    (group : Option Nat) (pos : Option Position) :
    Unpatched (blockResult compile parent range name args group pos) := by
  intro places
  refine .skip fun n => .ite (fun _ => ?_) fun _ =>
    .skip fun target => .ite (fun _ => ?_) fun _ => ?_
  · exact failing_unpatched _ _ _ places
  · exact .skip fun i => .skip fun _ => .just
  · extract_lets passed
    have referred (cells : List Nat) :
        Carries .growing (Draft.Patched · places) (passed cells) fun _ d => d.Patched places :=
      .bind (passingNode_unpatched _ _ _ _ _ _ places) fun _ => .skip fun _ => .just
    split
    · exact .skip referred
    · exact .bind .just referred

end Compile

end Chain

/-- Whether a result is only known when the file is loaded. -/
def Expr.isLate : Expr → Bool
  | groupRef .. | num .. | string .. => false
  | e => e.inAssignment

namespace Chain

/-- Where a result is patched that is only known when the file is loaded. -/
def latePlaces (value : Option Expr) (offset copies : Nat) : List (Nat × Nat) :=
  if value.any Expr.isLate then (List.range copies).map fun i => (offset + 2 * i, 2) else []

section Compile

variable {compile : Compile} [parts : ∀ e, Grown (compile e)] {parent : Nat}

theorem result_patched (range : VarRange) (offset : Nat) (value : Option Expr) (computed : Expr)
    (copies : Nat) (places : List (Nat × Nat)) :
    Carries .growing (Draft.Patched · places)
      (result compile parent range offset value computed copies)
      fun _ d => d.Patched (places ++ latePlaces value offset copies) := by
  have early {value : Option Expr} (known : value.any Expr.isLate = false) :
      places ++ latePlaces value offset copies = places := by
    rw [latePlaces, known]
    exact List.append_nil _
  unfold result
  split
  · rw [early rfl]
    split
    · exact .bind (blockResult_unpatched _ _ _ _ _ _ places) fun _ => .just
    · exact .just
  · rw [early rfl]
    exact .bind (blockResult_unpatched _ _ _ _ _ _ places) fun _ => .just
  · rw [early rfl]
    exact .ite (fun _ => .just) fun _ => .failThen
  · rw [early rfl]
    exact .skip fun _ =>
      .bind (emit_unpatched _ _) fun _ => .just
  · next e noRef noNumber noText =>
    have late : e.isLate = e.inAssignment := by
      unfold Expr.isLate
      split
      · exact (noRef _ _ _ _ _ rfl).elim
      · exact (noNumber _ _ rfl).elim
      · exact (noText _ _ _ rfl).elim
      · rfl
    refine .ite (fun known => ?_) fun unknown => ?_
    · have places' : latePlaces (some e) offset copies =
          ((List.range copies).map fun i => (offset + 2 * i, 2)) := by
        rw [latePlaces, Option.any_some, late, if_pos known]
      rw [places']
      exact .skip fun _ => .skip fun _ =>
        .bind (emit_unpatched _ _) fun _ => .bind (patch_patched _) fun _ =>
        .pure fun d patched => by simpa [Function.comp_def, Patch.place] using patched
    · have known : (some e).any Expr.isLate = false := late.trans (Bool.eq_false_iff.2 unknown)
      rw [early known]
      exact .skip fun _ => .skip fun _ => .skip fun _ => .skip fun _ => .skip fun _ =>
        .bind (emit_unpatched _ _) fun _ => .skip fun _ => .just

instance (range offset value computed copies) :
    Passes .growing (result compile parent range offset value computed copies) :=
  ⟨fun d => (result_patched range offset value computed copies _ d rfl).keeps⟩

/-- The node of a choice is filled after the nodes of its values have been made. -/
instance (guard yes no feature range) :
    Makes (choiceNode compile guard yes no feature range) := by
  refine .after fun name => .after fun _ => .after fun d => ⟨fun {s t x} h => ⟨?_, trivial⟩,
    fun _ => trivial⟩
  obtain ⟨i, u, made, h⟩ := Build.bind_eq_ok.1 h
  obtain ⟨⟨_, draft⟩, v, drafted, h⟩ := Build.bind_eq_ok.1 h
  obtain ⟨-, rfl⟩ := Build.pure_eq_ok.1 h
  replace drafted := Stateful.modify_bind_eq_ok.1 drafted
  replace drafted := Stateful.modify_bind_eq_ok.1 drafted
  obtain ⟨⟨_, _⟩, _, w, second, drafted⟩ := Stateful.bind_eq_ok.1 drafted
  obtain ⟨⟨_, _⟩, _, x, first, drafted⟩ := Stateful.bind_eq_ok.1 drafted
  obtain ⟨filled, rfl⟩ := Stateful.lift_eq_ok.1 drafted
  obtain ⟨new, -⟩ := newNode_eq_ok made
  have made := ((inferInstance : Makes (newNode d name guard.pos {})).of_ok made).1
  have second := ((Passes.keeps (R := .growing) _).of_ok second).1
  have first := ((Passes.keeps (R := .growing) _).of_ok first).1
  obtain rfl := Build.modify_eq_ok.1 filled
  exact ((made.trans second).trans first).fill (Nat.le_of_eq new) rfl

instance (guard yes no) : Grown (expandTernary compile guard yes no) := by
  unfold expandTernary
  refine .after fun _ => ?_
  split
  · split <;> exact .after fun _ => inferInstance
  · split
    all_goals
      refine .after fun _ => ?_
      dsimp only
      split
      · infer_instance
      · exact .after fun _ => .after fun _ => inferInstance

instance (e) : Grown (expandAbs compile e) := by
  unfold expandAbs
  exact .after fun _ => .after fun _ => inferInstance

omit parts in
instance (kind value register owner pos) :
    Grown (expandStorage kind value register owner pos) := by
  unfold expandStorage
  split <;> split <;> split <;> infer_instance

instance (e) : Grown (lowered compile e) := by
  unfold lowered
  split <;> dsimp only <;> split <;> infer_instance

instance (e) : Grown (place compile e) := by
  unfold place
  split
  · infer_instance
  · infer_instance
  · infer_instance
  · split
    · infer_instance
    · split
      · infer_instance
      · exact .after fun _ => inferInstance
      all_goals infer_instance

instance step_grown (e) : Grown (step compile e) := by
  unfold step
  infer_instance

end Compile

instance compileWith_grown (fuel e) : Grown (compileWith fuel e) := by
  induction fuel generalizing e with
  | zero => exact .lift
  | succ fuel ih => exact step_grown e

instance (e) : Grown (compile e) := compileWith_grown ..

end Chain

end NewGrf

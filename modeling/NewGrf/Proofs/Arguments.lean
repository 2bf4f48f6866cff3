import NewGrf.Proofs.Registers

open List

namespace NewGrf

variable {i k d cell : Nat} {r : Int}

namespace Graph

/-- The cell that a term stores to. -/
def stored? : Term → Option Nat
  | .store cell _ | .pass cell => some cell
  | _ => none

/-- An evaluation from some place in the chain of a node on: the terms that are evaluated, each with
its node. A call comes back to the chain, and at its end the evaluation stops or goes on to a node
that is referred to. -/
inductive Walk (g : Graph) : Nat → Chain → List (Nat × Term) → Prop
  | stop (i : Nat) : Walk g i [] []
  | next {i j : Nat} {events : List (Nat × Term)} :
    g.Refers i j → Walk g j (g.chainOf j) events → Walk g i [] events
  | op {i : Nat} {rest : Chain} {events : List (Nat × Term)} (op : Operator) :
    Walk g i rest events → Walk g i (.op op :: rest) events
  | call {i j : Nat} {rest : Chain} {called events : List (Nat × Term)} (note : String) :
    Walk g j (g.chainOf j) called → Walk g i rest events →
      Walk g i (.term (.call j note) :: rest) (called ++ events)
  | term {i : Nat} {rest : Chain} {events : List (Nat × Term)} (t : Term) :
    (∀ j note, t ≠ .call j note) → Walk g i rest events →
      Walk g i (.term t :: rest) ((i, t) :: events)

/-- Nodes whose calls are all known as such, and that pass arguments only to what they call. -/
structure Recorded (g : Graph) (order : List Nat) : Prop where
  calls : ∀ i ∈ order, ∀ j note, .term (.call j note) ∈ g.chainOf i →
    ⟨j, true⟩ ∈ (g.node i).references
  passes : ∀ i ∈ order, ∀ cell, .term (.pass cell) ∈ g.chainOf i →
    ∃ j, g.CallsInto i j ∧ cell ∈ g.ownCells j

/-- The owner of a parameter, and nodes that it goes on to as long as they load the parameter. -/
inductive Needs (g : Graph) (cell owner : Nat) : Nat → Prop
  | owner : Needs g cell owner owner
  | next {i j : Nat} : Needs g cell owner i → g.Refers i j →
    cell ∈ loadedArguments (g.chainOf j) → Needs g cell owner j

/-- A node is on the way of an argument: it leads to the owner of the parameter, or it needs the
argument, or it is called by a node that does. -/
def OnWay (g : Graph) (cell owner k : Nat) : Prop :=
  g.CallsInto k owner ∨ ∃ i, g.Needs cell owner i ∧ (k = i ∨ g.CallsInto i k)

/-- A step off the way of an argument: from a node that leads to the owner to one that does not, or
from a node that needs the argument on to one that does not load it. -/
def Leaves (g : Graph) (cell owner i j : Nat) : Prop :=
  g.Refers i j ∧ (g.CallsInto i owner ∧ j ≠ owner ∧ ¬ g.CallsInto j owner ∨
    g.Needs cell owner i ∧ ⟨j, true⟩ ∉ (g.node i).references ∧
      cell ∉ loadedArguments (g.chainOf j))

section Way

variable {g : Graph} {order : List Nat} {cell owner n : Nat}

variable {j : Nat}

theorem CallsInto.tail (calls : g.CallsInto i j) (refers : g.Refers j k) : g.CallsInto i k := by
  obtain ⟨r, inside, isCall, path⟩ := calls
  exact ⟨r, inside, isCall, path.tail refers⟩

theorem CallsInto.transGen (calls : g.CallsInto i j) : Relation.TransGen g.Refers i j := by
  obtain ⟨r, inside, -, path⟩ := calls
  exact .head' ⟨r, inside, rfl⟩ path

theorem Ordered.mem_of_reaches (ordered : g.Ordered order) (inside : i ∈ order)
    (path : Relation.ReflTransGen g.Refers i j) : j ∈ order := by
  obtain rfl | path := Relation.reflTransGen_iff_eq_or_transGen.1 path
  · exact inside
  · obtain ⟨before, after, place⟩ := append_of_mem inside
    exact place ▸ mem_append_left _ (ordered.mem_before_of_refers place path)

/-- All that can be reached from a node that leads to the owner is on the way of the argument, or
lies behind a step off it. -/
theorem onWay_or_leaves (calls : g.CallsInto n owner) (path : Relation.ReflTransGen g.Refers n k) :
    g.OnWay cell owner k ∨ ∃ i j, Relation.ReflTransGen g.Refers n i ∧ g.Leaves cell owner i j ∧
      Relation.ReflTransGen g.Refers j k := by
  induction path with
  | refl => exact .inl (.inl calls)
  | @tail b k path refers ih =>
    obtain way | ⟨i, j, before, leaves, after⟩ := ih
    · obtain leads | ⟨i, needs, rfl | called⟩ := way
      · by_cases atOwner : k = owner
        · exact .inl (.inr ⟨owner, .owner, .inl atOwner⟩)
        by_cases still : g.CallsInto k owner
        · exact .inl (.inl still)
        · exact .inr ⟨b, k, path, ⟨refers, .inl ⟨leads, atOwner, still⟩⟩, .refl⟩
      · by_cases isCall : ⟨k, true⟩ ∈ (g.node b).references
        · exact .inl (.inr ⟨b, needs, .inr ⟨_, isCall, rfl, .refl⟩⟩)
        by_cases loads : cell ∈ loadedArguments (g.chainOf k)
        · exact .inl (.inr ⟨k, needs.next refers loads, .inl rfl⟩)
        · exact .inr ⟨b, k, path, ⟨refers, .inr ⟨needs, isCall, loads⟩⟩, .refl⟩
      · exact .inl (.inr ⟨i, needs, .inr (called.tail refers)⟩)
    · exact .inr ⟨i, j, before, leaves, after.tail refers⟩

theorem Needs.cases_owner (needs : g.Needs cell owner i) :
    i = owner ∨ cell ∈ loadedArguments (g.chainOf i) ∧ Relation.TransGen g.Refers owner i := by
  induction needs with
  | owner => exact .inl rfl
  | next _ refers loads ih =>
    obtain rfl | ⟨-, path⟩ := ih
    · exact .inr ⟨loads, .single refers⟩
    · exact .inr ⟨loads, path.tail refers⟩

theorem mem_ownCells_of_store {note}
    (inside : .term (.store d note) ∈ g.chainOf i) : d ∈ g.ownCells i := by
  unfold chainOf at inside
  split at inside
  · next c is =>
    rw [ownCells, is]
    exact mem_append_right _ (mem_filterMap.2 ⟨_, inside, rfl⟩)
  · cases inside

theorem Walk.owner_reached (recorded : g.Recorded order) (ordered : g.Ordered order)
    {rest events} (walk : g.Walk n rest events) (inside : n ∈ order)
    (part : rest ⊆ g.chainOf n) {e} (event : e ∈ events)
    (stores : stored? e.2 = some d) :
    ∃ k, Relation.ReflTransGen g.Refers n k ∧ d ∈ g.ownCells k := by
  induction walk with
  | stop => cases event
  | next refers _ ih =>
    obtain ⟨k, path, own⟩ :=
      ih (ordered.mem_of_reaches inside (.single refers)) (List.Subset.refl _) event
    exact ⟨k, .head refers path, own⟩
  | op _ _ ih => exact ih inside (cons_subset.1 part).2 event
  | @call i j rest called events note _ _ ihCalled ih =>
    obtain ⟨here, part⟩ := cons_subset.1 part
    obtain during | later := mem_append.1 event
    · have refers : g.Refers i j := ⟨_, recorded.calls i inside j note here, rfl⟩
      obtain ⟨k, path, own⟩ :=
        ihCalled (ordered.mem_of_reaches inside (.single refers)) (List.Subset.refl _) during
      exact ⟨k, .head refers path, own⟩
    · exact ih inside part later
  | @term i rest events t _ _ ih =>
    obtain ⟨here, part⟩ := cons_subset.1 part
    obtain rfl | later := mem_cons.1 event
    · cases t with
      | store cell note =>
        obtain rfl := Option.some.inj stores
        exact ⟨i, .refl, mem_ownCells_of_store here⟩
      | pass cell =>
        obtain rfl := Option.some.inj stores
        obtain ⟨k, calls, own⟩ := recorded.passes i inside _ here
        exact ⟨k, calls.transGen.to_reflTransGen, own⟩
      | _ => cases stores
    · exact ih inside part later

end Way

/-- The second graph is the first one after some cells have got registers. -/
structure Fills (cells : List Nat) (g h : Graph) : Prop extends g.Shrinks h where
  others : ∀ cell ∉ cells, h.cells[cell]? = g.cells[cell]?

section Fills

variable {g h k : Graph} {order cells : List Nat} {i : Nat}

theorem ownCells_of_shrinks (shrinks : g.Shrinks h) (j : Nat) : h.ownCells j = g.ownCells j :=
  congrArg NodeBody.ownCells (shrinks.body j)

theorem chainOf_of_shrinks (shrinks : g.Shrinks h) (j : Nat) : h.chainOf j = g.chainOf j := by
  rw [chainOf, shrinks.body, chainOf]

variable {cells' : List Nat}

theorem Fills.trans (first : Fills cells g h) (second : Fills cells' h k) :
    Fills (cells ++ cells') g k where
  toShrinks := first.toShrinks.trans second.toShrinks
  others cell outside := by
    rw [mem_append, not_or] at outside
    exact (second.others cell outside.2).trans (first.others cell outside.1)

theorem Fills.mono (fills : Fills cells g h) (more : cells ⊆ cells') : Fills cells' g h where
  toShrinks := fills.toShrinks
  others cell outside := fills.others cell fun inside => outside (more inside)

theorem giveRegister_fills (gives : g.giveRegister i cell = .ok h) : Fills [cell] g h := by
  obtain ⟨r, rest, -, rfl⟩ := giveRegister_eq_ok gives
  refine ⟨(takeRegister_shrinks i r).congr rfl, fun c outside => ?_⟩
  have differ : cell ≠ c := fun same => outside (mem_singleton.2 same.symm)
  simp [differ, cells_takeRegister]

theorem giveAll_fills (gives : cells.foldlM (fun g cell => g.giveRegister i cell) g = .ok h) :
    Fills cells g h := by
  induction cells generalizing g with
  | nil =>
    obtain rfl := Except.ok.inj gives
    exact ⟨.refl g, fun _ _ => rfl⟩
  | cons cell cells ih =>
    rw [foldlM_cons] at gives
    obtain ⟨m, first, gives⟩ := Except.bind_eq_ok.1 gives
    exact (giveRegister_fills first).trans (ih gives)

theorem withheld_eq_foldl : g.withheld i = (loadedArguments (g.chainOf i)).foldl
    (fun m c => (m.register c).elim m (m.takeRegister i)) g := by
  rw [withheld]
  congr 1
  funext m c
  cases m.register c <;> rfl

theorem withheld_removes (callable : g.Callable order) (shrinks : g.Shrinks h) (inside : i ∈ order)
    (loads : cell ∈ loadedArguments (g.chainOf i)) (has : h.register cell = some r) :
    r ∉ ((h.withheld i).node i).registers ∧
      ∀ j, g.CallsInto i j → r ∉ ((h.withheld i).node j).registers := by
  rw [withheld_eq_foldl, chainOf_of_shrinks shrinks]
  have step (m : Graph) (c : Nat) : m.Shrinks ((m.register c).elim m (m.takeRegister i)) := by
    cases m.register c with
    | some r => exact takeRegister_shrinks ..
    | none => exact .refl m
  generalize loadedArguments (g.chainOf i) = arguments at loads ⊢
  induction arguments generalizing h with
  | nil => cases loads
  | cons c cells ih =>
    obtain rfl | later := mem_cons.1 loads
    · obtain ⟨own, called⟩ :=
        takeRegister_removes callable.toOrdered shrinks callable.unused inside r
      have rest (m : Graph) : m.Shrinks (cells.foldl _ m) := Shrinks.foldl step
      rw [foldl_cons, has]
      exact ⟨(rest _).not_mem own, fun j calls => (rest _).not_mem (called j calls)⟩
    · refine ih (shrinks.trans (step h c)) ?_ later
      dsimp only
      cases h.register c with
      | some r => exact (register_takeRegister ..).trans has
      | none => exact has

theorem withheld_shrinks : g.Shrinks (g.withheld i) := by
  refine Shrinks.foldl fun m cell => ?_
  split
  · exact takeRegister_shrinks ..
  · exact .refl m

theorem giveRegisters_fills (gives : g.giveRegisters i = .ok h) : Fills (g.ownCells i) g h := by
  obtain ⟨cells, own, -, gives⟩ := giveRegisters_eq_ok gives
  have first : Fills [] g (g.withheld i) :=
    ⟨withheld_shrinks, fun cell _ => by rw [cells_withheld]⟩
  exact (first.trans (giveAll_fills gives)).mono own

theorem Callable.of_served {before after} (callable : g.Callable (before ++ after))
    (shrinks : g.Shrinks h)
    (empty : ∀ i ∈ before, ∀ cell ∈ g.ownCells i, h.cells[cell]? = some none) :
    h.Callable before where
  nodup := (nodup_append.1 callable.nodup).1
  inside i member := shrinks.size ▸ callable.inside i (mem_append_left _ member)
  earlier first i second place j target := by
    rw [targetsOf, shrinks.references] at target
    refine callable.earlier first i (second ++ after) ?_ j target
    rw [place, append_assoc, cons_append]
  unused i member := (shrinks.registers i).nodup (callable.unused i (mem_append_left _ member))
  bounded i member r has :=
    callable.bounded i (mem_append_left _ member) r ((shrinks.registers i).subset has)
  distinct := by
    have same : before.flatMap h.ownCells = before.flatMap g.ownCells := by
      rw [funext (ownCells_of_shrinks shrinks)]
    rw [same]
    have distinct := callable.distinct
    rw [flatMap_append] at distinct
    exact (nodup_append.1 distinct).1
  empty i member cell own := empty i member cell (ownCells_of_shrinks shrinks i ▸ own)

end Fills

end Graph

namespace Action

variable {s t : Session} {actions : List Action}

theorem giveRegisters_fills (run : actions.forM giveRegisters s = .ok () t) :
    Graph.Fills ((keepers actions).flatMap s.graph.ownCells) s.graph t.graph := by
  induction actions generalizing s with
  | nil =>
    obtain ⟨-, rfl⟩ := Build.pure_eq_ok.1 run
    exact ⟨.refl _, fun _ _ => rfl⟩
  | cons a actions ih =>
    obtain ⟨_, u, turn, rest⟩ := Build.bind_eq_ok.1 run
    have later := ih rest
    unfold giveRegisters at turn
    split at turn
    · next i =>
      have first := Graph.giveRegisters_fills (giveRegisters_eq_ok turn)
      rw [funext (Graph.ownCells_of_shrinks first.toShrinks)] at later
      exact first.trans later
    · next other =>
      obtain ⟨-, rfl⟩ := Build.pure_eq_ok.1 turn
      have none : keepers (a :: actions) = keepers actions := by
        cases a with
        | node i => exact absurd rfl (other i)
        | _ => rfl
      rw [none]
      exact later

theorem keepers_append (first second : List Action) :
    keepers (first ++ second) = keepers first ++ keepers second := filterMap_append ..

theorem mem_keepers : i ∈ keepers actions ↔ node i ∈ actions := by
  refine ⟨fun inside => ?_, fun inside => mem_filterMap.2 ⟨_, inside, rfl⟩⟩
  obtain ⟨a, member, is⟩ := mem_filterMap.1 inside
  cases a with
  | node j => exact Option.some.inj is ▸ member
  | _ => cases is

variable {owner : Nat}

/-- A node that loads a parameter and is served after the owner does not get its register, nor does
anything that this node calls. -/
theorem register_ne_of_loads (callable : s.graph.Callable (keepers actions))
    (run : actions.reverse.forM giveRegisters s = .ok () t)
    (inside : owner ∈ keepers actions) (own : cell ∈ s.graph.ownCells owner)
    (path : Relation.TransGen s.graph.Refers owner i)
    (loads : cell ∈ Graph.loadedArguments (s.graph.chainOf i))
    (has : t.graph.register cell = some r) (called : k = i ∨ s.graph.CallsInto i k)
    (other : d ∈ s.graph.ownCells k) : t.graph.register d ≠ some r := by
  obtain ⟨front, last, rfl⟩ := append_of_mem (mem_keepers.1 inside)
  have earlier : i ∈ keepers front := callable.mem_before_of_refers (keepers_append ..) path
  obtain ⟨before, between, rfl⟩ := append_of_mem (mem_keepers.1 earlier)
  rw [append_assoc, cons_append] at callable run inside
  generalize placed : between ++ node owner :: last = after at callable run inside
  have split : keepers (before ++ node i :: after) = keepers before ++ [i] ++ keepers after := by
    rw [keepers_append, append_assoc]
    rfl
  rw [split] at callable inside
  have self : i ∈ keepers before ++ [i] := mem_append_right _ (mem_singleton_self i)
  -- A cell of a node that has been served is not one of a node that is still to be served.
  have foreign {j m c : Nat} (member : j ∈ keepers before ++ [i]) (later : m ∈ keepers after)
      (first : c ∈ s.graph.ownCells j) : c ∉ s.graph.ownCells m := fun second => by
    obtain rfl := callable.owner_unique (mem_append_left _ member)
      (mem_append_right _ later) first second
    exact (nodup_append.1 callable.nodup).2.2 j member j later rfl
  have served : owner ∈ keepers after := mem_keepers.2 (placed ▸ by simp)
  rw [reverse_append, reverse_cons, append_assoc, forM_eq_forM,
    forM_append] at run
  obtain ⟨_, u, firsts, run⟩ := Build.bind_eq_ok.1 run
  obtain ⟨_, v, turn, rest⟩ := Build.bind_eq_ok.1 run
  have firsts := giveRegisters_fills firsts
  have turn := giveRegisters_eq_ok turn
  have own' := Graph.ownCells_of_shrinks firsts.toShrinks
  have shrinks : s.graph.Shrinks (u.graph.withheld i) :=
    firsts.toShrinks.trans Graph.withheld_shrinks
  have known : u.graph.register cell = some r := by
    have fills := (Graph.giveRegisters_fills turn).trans (giveRegisters_fills rest)
    rw [← has, Graph.register, Graph.register, fills.others]
    intro changed
    rw [funext (Graph.ownCells_of_shrinks (Graph.giveRegisters_fills turn).toShrinks), funext own',
      mem_append, mem_flatMap] at changed
    obtain first | ⟨j, member, first⟩ := changed
    · exact foreign self served first own
    · have member : j ∈ keepers before := by simpa [mem_keepers] using member
      exact foreign (mem_append_left _ member) served first own
  have empty (j : Nat) (member : j ∈ keepers before ++ [i]) (c : Nat)
      (first : c ∈ s.graph.ownCells j) : (u.graph.withheld i).cells[c]? = some none := by
    rw [Graph.cells_withheld, firsts.others, callable.empty j (mem_append_left _ member) c first]
    intro changed
    obtain ⟨m, later, second⟩ := mem_flatMap.1 changed
    exact foreign member (by simpa [mem_keepers] using later) first second
  have restart := callable.of_served shrinks empty
  have own'' := Graph.ownCells_of_shrinks shrinks
  obtain ⟨cells, -, all, gives⟩ := Graph.giveRegisters_eq_ok turn
  obtain rfl : cells = s.graph.ownCells i := by
    rw [all, own']
    intro c first
    have none := empty i self c (own' i ▸ first)
    rwa [Graph.cells_withheld] at none
  have final : (u.graph.withheld i).Given (keepers before ++ [i])
      {p | p.1 ∈ keepers before ++ [i] ∧ p.2 ∈ (u.graph.withheld i).ownCells p.1} t.graph := by
    refine giveAllRegisters_given [i] restart ?_ rest
    have turned := (Graph.Given.start restart).giveAll restart self
      (fun c first => by rwa [own'']) ((nodup_flatMap.1 callable.distinct).1 i
        (mem_append_left _ self)) (fun _ _ => id) (fun _ => False.elim) gives
    convert turned using 1
    ext ⟨j, c⟩
    simp +contextual [own'']
  obtain ⟨absent, absentBelow⟩ := Graph.withheld_removes callable firsts.toShrinks
    (mem_append_left _ self) loads known
  have reached : k ∈ keepers before ++ [i] := by
    obtain rfl | calls := called
    · exact self
    · exact mem_append_left _ (callable.mem_before_of_callsInto
        (by rw [append_assoc]; rfl) calls)
  obtain ⟨r', had, gets, -⟩ := final.taken (k, d) ⟨reached, by rwa [own'']⟩
  rintro same
  obtain rfl := Option.some.inj (gets.symm.trans same)
  obtain rfl | calls := called
  · exact absent had
  · exact absentBelow k calls had

theorem eq_of_onWay (callable : s.graph.Callable (keepers actions))
    (run : actions.reverse.forM giveRegisters s = .ok () t)
    (receiver : owner ∈ keepers actions) (own : cell ∈ s.graph.ownCells owner)
    (inside : k ∈ keepers actions) (way : s.graph.OnWay cell owner k)
    (other : d ∈ s.graph.ownCells k) (same : t.graph.register d = t.graph.register cell) :
    d = cell := by
  have given := given_of_giveRegisters callable run
  by_contra differ
  have unlike : (k, d) ≠ (owner, cell) := fun eq => differ (Prod.mk.inj eq).2
  obtain leads | ⟨i, needs, called⟩ := way
  · exact given.apart _ ⟨inside, other⟩ _ ⟨receiver, own⟩ unlike (.inr leads) same
  · obtain rfl | ⟨loads, below⟩ := needs.cases_owner
    · exact given.apart _ ⟨receiver, own⟩ _ ⟨inside, other⟩ unlike.symm
        (called.imp_left Eq.symm) same.symm
    · obtain ⟨r, -, has, -⟩ := given.taken (owner, cell) ⟨receiver, own⟩
      exact register_ne_of_loads callable run receiver own below loads has called other
        (same.trans has)

/-- An argument survives on its way. After a node has stored it, nothing that is evaluated stores
anything else in the register of the parameter, unless what is stored belongs to a node off the way
of the argument: some path of references from the first node to that one has a step from a node that
leads to the owner of the parameter to one that does not, or from one that needs the argument on to
one that does not load it. -/
theorem argument_lost_only_off_its_way (callable : s.graph.Callable (keepers actions))
    (recorded : s.graph.Recorded (keepers actions))
    (run : actions.reverse.forM giveRegisters s = .ok () t) {n owner cell : Nat}
    (caller : n ∈ keepers actions) (receiver : owner ∈ keepers actions)
    (own : cell ∈ s.graph.ownCells owner) {first rest : Chain}
    (chain : s.graph.chainOf n = first ++ .term (.pass cell) :: rest)
    {events : List (Nat × Term)} (walk : s.graph.Walk n rest events) :
    ∀ e ∈ events, ∀ d, Graph.stored? e.2 = some d →
      t.graph.register d = t.graph.register cell →
        d = cell ∨ ∃ i j k, Relation.ReflTransGen s.graph.Refers n i ∧
          s.graph.Leaves cell owner i j ∧ Relation.ReflTransGen s.graph.Refers j k ∧
            d ∈ s.graph.ownCells k := by
  intro e event d stores same
  have passes : .term (.pass cell) ∈ s.graph.chainOf n := by simp [chain]
  have part : rest ⊆ s.graph.chainOf n := by simp [chain]
  have leads : s.graph.CallsInto n owner := by
    obtain ⟨j, calls, owns⟩ := recorded.passes n caller cell passes
    have inside : j ∈ keepers actions :=
      callable.mem_of_reaches caller calls.transGen.to_reflTransGen
    exact callable.owner_unique inside receiver owns own ▸ calls
  obtain ⟨k, path, other⟩ :=
    walk.owner_reached recorded callable.toOrdered caller part event stores
  obtain way | ⟨i, j, before, leaves, after⟩ := Graph.onWay_or_leaves leads path
  · exact .inl (eq_of_onWay callable run receiver own (callable.mem_of_reaches caller path) way
      other same)
  · exact .inr ⟨i, j, k, before, leaves, after, other⟩

/-- A node that passes two arguments. The second one is chosen by a node of its own, which it calls
after it has stored the first one, and which goes on to a node that keeps a value. -/
def choosingGraph : Graph :=
  let node (c : ChainNode) (references : List Reference) : Node :=
    { feature := 0, name := "", pos := none, body := .chain c, references }
  { nodes := #[
      node { params := [(0, "x"), (1, "y")], chain :=
        [.term (.argument 0 0 "x"), .op .add, .term (.argument 1 1 "y")] } [],
      node { chain := [.constant 7, .op .storeTemp, .term (.store 2 "input")] } [],
      node { chain := [.constant 1] } [⟨1, false⟩],
      node { chain := [.constant 5, .op .storeTemp, .term (.pass 0), .op .last, .term (.call 2 ""),
        .op .storeTemp, .term (.pass 1), .op .last, .term (.call 0 "")] } [⟨2, true⟩, ⟨0, true⟩]]
    cells := #[none, none, none] }

theorem choosingGraph_callable : choosingGraph.Callable [0, 1, 2, 3] where
  nodup := by decide
  inside := by decide
  earlier := Graph.earlier_of_places (by decide)
  unused := by decide +kernel
  bounded := by decide +kernel
  distinct := by decide
  empty := by decide

theorem choosingGraph_recorded : choosingGraph.Recorded [0, 1, 2, 3] where
  calls := by
    have only (i : Nat) (inside : i ∈ [0, 1, 2, 3]) (j : Nat) (note : String)
        (calls : .term (.call j note) ∈ choosingGraph.chainOf i) : i = 3 ∧ j ∈ [2, 0] := by
      revert i
      simp [choosingGraph, Graph.chainOf, Graph.node, Step.constant]
      tauto
    intro i inside j note calls
    obtain ⟨rfl, both⟩ := only i inside j note calls
    simpa [choosingGraph, Graph.node] using both
  passes := by
    have calls : choosingGraph.CallsInto 3 0 :=
      ⟨⟨0, true⟩, mem_cons_of_mem _ (mem_singleton_self _), rfl, .refl⟩
    have only (i : Nat) (inside : i ∈ [0, 1, 2, 3]) (cell : Nat)
        (passes : .term (.pass cell) ∈ choosingGraph.chainOf i) : i = 3 ∧ cell ∈ [0, 1] := by
      revert i cell
      simp only [choosingGraph, Graph.chainOf, Graph.node, Step.constant]
      simp
    intro i inside cell passes
    obtain ⟨rfl, both⟩ := only i inside cell passes
    exact ⟨0, calls, both⟩

/-- The first argument is lost: the value that is kept meanwhile goes into its register. -/
theorem first_argument_lost :
    ∃ t, [Action.node 0, .node 1, .node 2, .node 3].reverse.forM giveRegisters
        { graph := choosingGraph } = .ok () t ∧
      choosingGraph.Walk 3 [.op .last, .term (.call 2 ""), .op .storeTemp, .term (.pass 1),
          .op .last, .term (.call 0 "")]
        [(2, .read (.constant 1)), (1, .read (.constant 7)), (1, .store 2 "input"), (3, .pass 1),
          (0, .argument 0 0 "x"), (0, .argument 1 1 "y")] ∧
      [0, 1, 2].map t.graph.register = [some 0x80, some 0x81, some 0x80] ∧
      ∃ i j k, Relation.ReflTransGen choosingGraph.Refers 3 i ∧
        choosingGraph.Leaves 0 0 i j ∧ Relation.ReflTransGen choosingGraph.Refers j k ∧
          2 ∈ choosingGraph.ownCells k := by
  have registers : (match [Action.node 0, .node 1, .node 2, .node 3].reverse.forM giveRegisters
      { graph := choosingGraph } with
      | .ok _ t => [0, 1, 2].map t.graph.register
      | .error _ _ => []) = [some 0x80, some 0x81, some 0x80] := by
    decide +kernel
  split at registers
  · next t run =>
    have walk : choosingGraph.Walk 3 [.op .last, .term (.call 2 ""), .op .storeTemp,
        .term (.pass 1), .op .last, .term (.call 0 "")] _ :=
      .op _ (.call _ (.term _ nofun (.next ⟨⟨1, false⟩, mem_singleton_self _, rfl⟩
        (.term _ nofun (.op _ (.term _ nofun (.stop 1))))))
        (.op _ (.term _ nofun (.op _ (.call _ (.term _ nofun (.op _ (.term _ nofun (.stop 0))))
          (.stop 3))))))
    have same : t.graph.register 2 = t.graph.register 0 := by
      simp only [map_cons, cons.injEq] at registers
      rw [registers.1, registers.2.2.1]
    have chain : choosingGraph.chainOf 3 = [.constant 5, .op .storeTemp] ++ .term (.pass 0) ::
        [.op .last, .term (.call 2 ""), .op .storeTemp, .term (.pass 1), .op .last,
          .term (.call 0 "")] := rfl
    have own : 0 ∈ choosingGraph.ownCells 0 := by decide
    obtain lost | off := argument_lost_only_off_its_way choosingGraph_callable
      choosingGraph_recorded run (by decide) (by decide) own chain walk (1, .store 2 "input")
      (by simp) 2 rfl same
    · cases lost
    · exact ⟨t, run, walk, registers, off⟩
  · cases registers

end Action

end NewGrf

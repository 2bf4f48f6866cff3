import Mathlib.Data.List.Pairwise
import Mathlib.Data.List.Perm.Subperm
import Mathlib.Data.Set.Insert
import Mathlib.Logic.Relation
import NewGrf.Proofs.NodeIds

open List

namespace NewGrf

/-- The cells for which a node gets registers: its parameters, and those that it stores to. -/
def NodeBody.ownCells : NodeBody → List Nat
  | .chain c => c.params.map (·.1) ++ Graph.storedCells c.chain
  | .layout _ params _ => params.map (·.1)
  | _ => []

variable {i : Nat} {before after : List Nat}

namespace Graph

def ownCells (g : Graph) (i : Nat) : List Nat := (g.node i).body.ownCells

/-- The chain of a node that has one. -/
def chainOf (g : Graph) (i : Nat) : Chain :=
  match (g.node i).body with
  | .chain c => c.chain
  | _ => []

/-- The first node refers to the second one. -/
def Refers (g : Graph) (i j : Nat) : Prop := ∃ r ∈ (g.node i).references, r.target = j

/-- The first node calls one that leads to the second one. -/
def CallsInto (g : Graph) (i j : Nat) : Prop :=
  ∃ r ∈ (g.node i).references, r.isCall = true ∧ Relation.ReflTransGen g.Refers r.target j

/-- The second graph is the first one after some registers have been taken away from nodes. -/
structure Shrinks (g h : Graph) : Prop where
  size : h.nodes.size = g.nodes.size
  references : ∀ j, (h.node j).references = (g.node j).references
  body : ∀ j, (h.node j).body = (g.node j).body
  feature : ∀ j, (h.node j).feature = (g.node j).feature
  registers : ∀ j, (h.node j).registers.Sublist (g.node j).registers

variable {j : Nat}

namespace Shrinks

variable {g h k : Graph}

theorem refl (g : Graph) : g.Shrinks g :=
  ⟨rfl, fun _ => rfl, fun _ => rfl, fun _ => rfl, fun _ => .refl _⟩

theorem trans (first : g.Shrinks h) (second : h.Shrinks k) : g.Shrinks k where
  size := second.size.trans first.size
  references j := (second.references j).trans (first.references j)
  body j := (second.body j).trans (first.body j)
  feature j := (second.feature j).trans (first.feature j)
  registers j := (second.registers j).trans (first.registers j)

theorem congr (shrinks : g.Shrinks h) (nodes : k.nodes = h.nodes) : g.Shrinks k where
  size := nodes ▸ shrinks.size
  references j := node_eq_of_nodes nodes j ▸ shrinks.references j
  body j := node_eq_of_nodes nodes j ▸ shrinks.body j
  feature j := node_eq_of_nodes nodes j ▸ shrinks.feature j
  registers j := node_eq_of_nodes nodes j ▸ shrinks.registers j

variable {α : Type}

theorem foldl {f} {xs : List α}
    (step : ∀ (g : Graph) x, g.Shrinks (f g x)) : g.Shrinks (xs.foldl f g) := by
  induction xs generalizing g with
  | nil => exact refl g
  | cons x xs ih => exact (step g x).trans ih

/-- What a turn of a loop takes away is away when the loop has ended. -/
theorem of_mem_foldl {f : Graph → α → Graph} {xs : List α} {x : α}
    (step : ∀ (g : Graph) x, g.Shrinks (f g x)) (inside : x ∈ xs) :
    ∃ h, g.Shrinks h ∧ (f h x).Shrinks (xs.foldl f g) := by
  induction xs generalizing g with
  | nil => cases inside
  | cons y xs ih =>
    obtain rfl | later := mem_cons.1 inside
    · exact ⟨g, refl g, foldl step⟩
    · obtain ⟨h, before, after⟩ := ih (g := f g y) later
      exact ⟨h, (step g y).trans before, after⟩

theorem not_mem (shrinks : g.Shrinks h) {register}
    (absent : register ∉ (g.node j).registers) : register ∉ (h.node j).registers :=
  fun inside => absent ((shrinks.registers j).subset inside)

end Shrinks

section Remove

variable {g : Graph} {register : Int}

/-- What is done to a node itself when a register is taken away. -/
def dropRegister (g : Graph) (register : Int) (i : Nat) : Graph :=
  if (g.node i).registers.contains register then
    let h := g.modifyNode i fun n => { n with registers := n.registers.erase register }
    let used := 0x7F - (h.node i).registers.length
    if h.registerPeak.1 < used then { h with registerPeak := (used, (g.node i).pos) } else h
  else g

theorem removeRegister_succ (fuel : Nat) (all : Bool) (i : Nat) :
    removeRegister (fuel + 1) register all g i =
      (g.node i).references.foldl (fun g r =>
        if all || r.isCall then removeRegister fuel register true g r.target else g)
        (g.dropRegister register i) := rfl

theorem dropRegister_nodes (register : Int) (i : Nat) :
    g.dropRegister register i = g ∧ register ∉ (g.node i).registers ∨
      (g.dropRegister register i).cells = g.cells ∧ (g.dropRegister register i).nodes =
        (g.modifyNode i fun n => { n with registers := n.registers.erase register }).nodes := by
  unfold dropRegister
  split
  · dsimp only
    split <;> exact .inr ⟨rfl, rfl⟩
  · next absent => exact .inl ⟨rfl, by simpa using absent⟩

theorem dropRegister_shrinks (i : Nat) : g.Shrinks (g.dropRegister register i) := by
  obtain ⟨same, -⟩ | ⟨-, nodes⟩ := g.dropRegister_nodes register i
  · rw [same]
    exact .refl g
  · have node (j : Nat) : (g.dropRegister register i).node j =
        (g.modifyNode i fun n => { n with registers := n.registers.erase register }).node j := by
      rw [Graph.node, Graph.node, nodes]
    refine ⟨by rw [nodes, size_modifyNode], fun j => ?_, fun j => ?_, fun j => ?_, fun j => ?_⟩
    · rw [node]
      exact kept_of_modifyNode fun _ => rfl
    · rw [node]
      exact kept_of_modifyNode fun _ => rfl
    · rw [node]
      exact kept_of_modifyNode fun _ => rfl
    · rw [node]
      by_cases own : i = j
      · subst own
        by_cases below : i < g.nodes.size
        · rw [node_modifyNode below]
          exact erase_sublist
        · simp [modifyNode, Graph.node, below]
      · rw [node_modifyNode_of_ne own]

theorem not_mem_dropRegister (below : i < g.nodes.size) (nodup : (g.node i).registers.Nodup) :
    register ∉ ((g.dropRegister register i).node i).registers := by
  obtain ⟨same, absent⟩ | ⟨-, nodes⟩ := g.dropRegister_nodes register i
  · rw [same]
    exact absent
  · have node : (g.dropRegister register i).node i =
        (g.modifyNode i fun n => { n with registers := n.registers.erase register }).node i := by
      rw [Graph.node, Graph.node, nodes]
    rw [node, node_modifyNode below]
    exact nodup.not_mem_erase

theorem removeRegister_shrinks (fuel : Nat) (all : Bool) (i : Nat) :
    g.Shrinks (removeRegister fuel register all g i) := by
  induction fuel generalizing g all i with
  | zero => exact .refl g
  | succ fuel ih =>
    rw [removeRegister_succ]
    refine (dropRegister_shrinks i).trans (.foldl fun h r => ?_)
    split
    · exact ih ..
    · exact .refl h

theorem cells_dropRegister (i : Nat) : (g.dropRegister register i).cells = g.cells := by
  obtain ⟨same, -⟩ | ⟨cells, -⟩ := g.dropRegister_nodes register i
  · rw [same]
  · exact cells

theorem cells_removeRegister (fuel : Nat) (all : Bool) (i : Nat) :
    (removeRegister fuel register all g i).cells = g.cells := by
  induction fuel generalizing g all i with
  | zero => rfl
  | succ fuel ih =>
    have own : (g.dropRegister register i).cells = g.cells := cells_dropRegister i
    rw [removeRegister_succ, ← own]
    refine foldlRecOn
      (motive := fun (h : Graph) => h.cells = (g.dropRegister register i).cells)
      _ _ rfl fun h same r _ => ?_
    split
    · exact (ih ..).trans same
    · exact same

/-- A register is taken away from a node and from all that it calls, since no path through earlier
nodes is longer than there are such nodes. -/
theorem removeRegister_removes {order : List Nat} (register : Int) (ordered : g.Ordered order)
    (fuel : Nat) (all : Bool) {h : Graph} (shrinks : g.Shrinks h)
    (nodup : ∀ j ∈ order, (g.node j).registers.Nodup)
    (place : order = before ++ i :: after) (enough : before.length < fuel) :
    register ∉ ((removeRegister fuel register all h i).node i).registers ∧
      ∀ r ∈ (g.node i).references, (all || r.isCall) = true →
        ∀ j, Relation.ReflTransGen g.Refers r.target j →
          register ∉ ((removeRegister fuel register all h i).node j).registers := by
  induction fuel generalizing all h before i after with
  | zero => omega
  | succ fuel ih =>
    have own : i ∈ order := place ▸ mem_append_right _ (mem_cons_self ..)
    have dropped : register ∉ ((h.dropRegister register i).node i).registers := by
      refine not_mem_dropRegister (shrinks.size ▸ ordered.inside i own) ?_
      exact (shrinks.registers i).nodup (nodup i own)
    have step (m : Graph) (r : Reference) : m.Shrinks
        (if all || r.isCall then removeRegister fuel register true m r.target else m) := by
      split
      · exact removeRegister_shrinks ..
      · exact .refl m
    rw [removeRegister_succ, shrinks.references]
    refine ⟨(Shrinks.foldl step).not_mem dropped, fun r inside follows j path => ?_⟩
    obtain ⟨m, earlier, later⟩ := Shrinks.of_mem_foldl (g := h.dropRegister register i) step inside
    refine later.not_mem ?_
    rw [if_pos follows]
    have target : r.target ∈ before :=
      ordered.earlier before i after place _ (mem_map_of_mem inside)
    obtain ⟨first, second, split⟩ := append_of_mem target
    have shorter : first.length < fuel := by
      have length := congrArg length split
      simp only [length_append, length_cons] at length
      omega
    obtain ⟨self, others⟩ := ih true (shrinks.trans ((dropRegister_shrinks i).trans earlier))
      (by rw [place, split, append_assoc, cons_append]) shorter
    obtain rfl | ⟨k, ⟨r', referred, rfl⟩, rest⟩ := path.cases_head
    · exact self
    · exact others r' referred rfl j rest

end Remove

/-- Nodes that can be given registers: each refers to earlier ones only and has registers left, and
the cells of all of them are different and empty. -/
structure Callable (g : Graph) (order : List Nat) : Prop extends g.Ordered order where
  unused : ∀ i ∈ order, (g.node i).registers.Nodup
  bounded : ∀ i ∈ order, ∀ r ∈ (g.node i).registers, 0x80 ≤ r ∧ r ≤ 0xFE
  distinct : (order.flatMap g.ownCells).Nodup
  empty : ∀ i ∈ order, ∀ cell ∈ g.ownCells i, g.cells[cell]? = some none

/-- What holds while registers are given out, when some cells have theirs. -/
structure Given (g : Graph) (order : List Nat) (done : Set (Nat × Nat)) (h : Graph) : Prop where
  shrinks : g.Shrinks h
  owned : ∀ p ∈ done, p.1 ∈ order ∧ p.2 ∈ g.ownCells p.1
  /-- The register of a cell is one that its node had, and nothing that this node calls has it. -/
  taken : ∀ p ∈ done, ∃ r ∈ (g.node p.1).registers, h.register p.2 = some r ∧
    r ∉ (h.node p.1).registers ∧ ∀ j, g.CallsInto p.1 j → r ∉ (h.node j).registers
  empty : ∀ i ∈ order, ∀ cell ∈ g.ownCells i, (i, cell) ∉ done → h.cells[cell]? = some none
  apart : ∀ p ∈ done, ∀ q ∈ done, p ≠ q → p.1 = q.1 ∨ g.CallsInto p.1 q.1 →
    h.register p.2 ≠ h.register q.2

section Give

variable {g h k : Graph} {order : List Nat} {done : Set (Nat × Nat)}

namespace Ordered

theorem mem_before_of_refers (ordered : g.Ordered order)
    (place : order = before ++ i :: after) (refers : Relation.TransGen g.Refers i j) :
    j ∈ before := by
  induction refers with
  | single refers =>
    obtain ⟨r, inside, rfl⟩ := refers
    exact ordered.earlier before i after place _ (mem_map_of_mem inside)
  | tail _ refers ih =>
    obtain ⟨r, inside, rfl⟩ := refers
    obtain ⟨first, second, rfl⟩ := append_of_mem ih
    refine mem_append_left _ (ordered.earlier first _ (second ++ i :: after) ?_ _
      (mem_map_of_mem inside))
    rw [place, append_assoc, cons_append]

theorem mem_before_of_callsInto (ordered : g.Ordered order)
    (place : order = before ++ i :: after) (calls : g.CallsInto i j) : j ∈ before := by
  obtain ⟨r, inside, -, path⟩ := calls
  exact ordered.mem_before_of_refers place (.head' ⟨r, inside, rfl⟩ path)

theorem not_callsInto_self (ordered : g.Ordered order) (inside : i ∈ order) :
    ¬ g.CallsInto i i := by
  intro calls
  obtain ⟨before, after, place⟩ := append_of_mem inside
  have again := ordered.mem_before_of_callsInto place calls
  have nodup := place ▸ ordered.nodup
  exact (nodup_append.1 nodup).2.2 i again i (mem_cons_self ..) rfl

end Ordered

/-- A node that takes a register takes it from all that it calls, too. -/
theorem takeRegister_removes (ordered : g.Ordered order) (shrinks : g.Shrinks h)
    (nodup : ∀ j ∈ order, (g.node j).registers.Nodup) (inside : i ∈ order)
    (register : Int) :
    register ∉ ((h.takeRegister i register).node i).registers ∧
      ∀ j, g.CallsInto i j → register ∉ ((h.takeRegister i register).node j).registers := by
  obtain ⟨before, after, place⟩ := append_of_mem inside
  have enough : before.length < h.nodes.size + 1 := by
    have below : order.length ≤ g.nodes.size := by
      have subset : order ⊆ range g.nodes.size :=
        fun j member => mem_range.2 (ordered.inside j member)
      simpa using (subperm_of_subset ordered.nodup subset).length_le
    rw [place, length_append] at below
    rw [shrinks.size]
    omega
  obtain ⟨own, called⟩ := removeRegister_removes register ordered _ false shrinks nodup place enough
  exact ⟨own, fun j ⟨r, member, isCall, path⟩ => called r member isCall j path⟩

theorem takeRegister_shrinks (i : Nat) (register : Int) : g.Shrinks (g.takeRegister i register) :=
  removeRegister_shrinks ..

theorem cells_takeRegister (i : Nat) (register : Int) :
    (g.takeRegister i register).cells = g.cells := cells_removeRegister ..

theorem register_takeRegister (i : Nat) (register : Int) (cell : Nat) :
    (g.takeRegister i register).register cell = g.register cell := by
  rw [Graph.register, cells_takeRegister, Graph.register]

variable {cell : Nat}

theorem giveRegister_eq_ok (given : g.giveRegister i cell = .ok h) :
    ∃ r rest, (g.node i).registers = r :: rest ∧
      h = { g.takeRegister i r with
        cells := (g.takeRegister i r).cells.setIfInBounds cell (some r) } := by
  unfold giveRegister at given
  dsimp only at given
  split at given
  · cases given
  · next r rest first => exact ⟨r, rest, first, (Except.ok.inj given).symm⟩

/-- What remains when a node has left alone the registers of the arguments that it loads. -/
def withheld (g : Graph) (i : Nat) : Graph :=
  (loadedArguments (g.chainOf i)).foldl (fun h cell => match h.register cell with
    | some r => h.takeRegister i r
    | none => h) g

theorem cells_withheld (i : Nat) : (g.withheld i).cells = g.cells := by
  refine foldlRecOn (motive := fun (h : Graph) => h.cells = g.cells) _ _ rfl
    fun h same cell _ => ?_
  split
  · exact (cells_takeRegister ..).trans same
  · exact same

/-- What a node does in its turn: it leaves alone the registers of the arguments that it loads, and
then all of its own cells that have none get one. -/
theorem giveRegisters_eq_ok (given : g.giveRegisters i = .ok h) : ∃ cells, cells ⊆ g.ownCells i ∧
      ((∀ cell ∈ g.ownCells i, g.cells[cell]? = some none) → cells = g.ownCells i) ∧
      cells.foldlM (fun g cell => g.giveRegister i cell) (g.withheld i) = .ok h := by
  unfold giveRegisters at given
  split at given
  · next c is =>
    have own : g.ownCells i = c.params.map (·.1) ++ storedCells c.chain := by
      rw [ownCells, is, NodeBody.ownCells]
    have chain : g.chainOf i = c.chain := by rw [chainOf, is]
    dsimp only at given
    refine ⟨_, ?_, fun empty => ?_, by rw [withheld, chain]; exact given⟩
    · rw [own]
      exact append_subset.2 ⟨fun cell member => mem_append_left _
        (mem_of_mem_filter member), subset_append_right ..⟩
    · rw [own]
      congr 1
      refine filter_eq_self.2 fun cell member => ?_
      have none := empty cell (own ▸ mem_append_left _ member)
      rw [← chain]
      change ((g.withheld i).register cell).isNone = true
      rw [Graph.register, cells_withheld, none]
      rfl
  · next l params numbers is =>
    have own : g.ownCells i = params.map (·.1) := by rw [ownCells, is, NodeBody.ownCells]
    have chain : g.chainOf i = [] := by rw [chainOf, is]
    exact ⟨_, own ▸ List.Subset.refl _, fun _ => own.symm, by rw [withheld, chain]; exact given⟩
  · next chain layout =>
    refine ⟨[], nil_subset _, fun _ => ?_, ?_⟩
    · rw [ownCells]
      unfold NodeBody.ownCells
      split
      · next c is => exact absurd is (chain c)
      · next l params numbers is => exact absurd is (layout l params numbers)
      · rfl
    · have none : g.chainOf i = [] := by
        unfold chainOf
        split
        · next c is => exact absurd is (chain c)
        · rfl
      rw [withheld, none]
      exact given

namespace Callable

theorem owner_unique (callable : g.Callable order) (first : i ∈ order)
    (second : j ∈ order) (own : cell ∈ g.ownCells i) (other : cell ∈ g.ownCells j) : i = j := by
  by_contra differ
  obtain ⟨-, apart⟩ := nodup_flatMap.1 callable.distinct
  have : Std.Symm (Function.onFun List.Disjoint g.ownCells) :=
    ⟨fun _ _ apart _ own other => apart other own⟩
  have disjoint : List.Disjoint (g.ownCells i) (g.ownCells j) := apart.forall first second differ
  exact disjoint own other

end Callable

namespace Given

theorem start (callable : g.Callable order) : g.Given order ∅ g where
  shrinks := .refl g
  owned _ inside := inside.elim
  taken _ inside := inside.elim
  empty i inside cell own _ := callable.empty i inside cell own
  apart _ inside := inside.elim

theorem take (given : g.Given order done h) (i : Nat) (register : Int) :
    g.Given order done (h.takeRegister i register) := by
  have less := takeRegister_shrinks (g := h) i register
  refine ⟨given.shrinks.trans less, given.owned, fun p inside => ?_, fun j member cell own fresh =>
    ?_, fun p first q second differ calls => ?_⟩
  · obtain ⟨r, had, gets, absent, called⟩ := given.taken p inside
    exact ⟨r, had, (register_takeRegister ..).trans gets, less.not_mem absent,
      fun j calls => less.not_mem (called j calls)⟩
  · rw [cells_takeRegister]
    exact given.empty j member cell own fresh
  · rw [register_takeRegister, register_takeRegister]
    exact given.apart p first q second differ calls

/-- A cell that gets a register gets one that no cell of a caller has, because the registers of
callers have been taken away from the node before. -/
theorem give (given : g.Given order done h) (callable : g.Callable order)
    (inside : i ∈ order) (own : cell ∈ g.ownCells i) (fresh : (i, cell) ∉ done)
    (uncalled : ∀ p ∈ done, ¬ g.CallsInto i p.1) (gives : h.giveRegister i cell = .ok k) :
    g.Given order (insert (i, cell) done) k := by
  obtain ⟨r, rest, first, rfl⟩ := giveRegister_eq_ok gives
  have less : h.Shrinks (h.takeRegister i r) := takeRegister_shrinks i r
  have had : r ∈ (h.node i).registers := first ▸ mem_cons_self ..
  obtain ⟨gone, called⟩ :=
    takeRegister_removes callable.toOrdered given.shrinks callable.unused inside r
  have sized : cell < (h.takeRegister i r).cells.size := by
    rw [cells_takeRegister]
    exact (Array.getElem?_eq_some_iff.1 (given.empty i inside cell own fresh)).1
  have gets : Graph.register { h.takeRegister i r with
      cells := (h.takeRegister i r).cells.setIfInBounds cell (some r) } cell = some r := by
    simp [Graph.register, sized]
  have other (p : Nat × Nat) (member : p ∈ done) : cell ≠ p.2 := by
    rintro rfl
    obtain ⟨placed, owned⟩ := given.owned p member
    obtain rfl := callable.owner_unique inside placed own owned
    exact fresh member
  have keeps (p : Nat × Nat) (member : p ∈ done) : Graph.register { h.takeRegister i r with
      cells := (h.takeRegister i r).cells.setIfInBounds cell (some r) } p.2 = h.register p.2 := by
    simp [Graph.register, other p member, cells_takeRegister]
  -- The register is one that the node had left, so no cell that has been served before has it.
  have unlike (p : Nat × Nat) (member : p ∈ done) (calls : p.1 = i ∨ g.CallsInto p.1 i) :
      h.register p.2 ≠ some r := by
    obtain ⟨r', -, gets', absent, below⟩ := given.taken p member
    rintro same
    obtain rfl := Option.some.inj (gets'.symm.trans same)
    obtain rfl | calls := calls
    · exact absent had
    · exact below i calls had
  refine ⟨(given.shrinks.trans less).congr rfl, ?_, ?_, ?_, ?_⟩
  · rintro p (rfl | member)
    · exact ⟨inside, own⟩
    · exact given.owned p member
  · rintro p (rfl | member)
    · exact ⟨r, (given.shrinks.registers i).subset had, gets, gone, called⟩
    · obtain ⟨r', was, gets', absent, below⟩ := given.taken p member
      exact ⟨r', was, (keeps p member).trans gets', less.not_mem absent,
        fun j calls => less.not_mem (below j calls)⟩
  · intro j member c owns unserved
    have differ : cell ≠ c := by
      rintro rfl
      obtain rfl := callable.owner_unique inside member own owns
      exact unserved (Set.mem_insert ..)
    have empty := given.empty j member c owns fun served =>
      unserved (Set.mem_insert_of_mem _ served)
    simp [differ, cells_takeRegister, empty]
  · rintro p (rfl | member) q (rfl | member') differ calls
    · exact absurd rfl differ
    · rw [gets, keeps q member']
      obtain same | calls := calls
      · exact (unlike q member' (.inl same.symm)).symm
      · exact absurd calls (uncalled q member')
    · rw [gets, keeps p member]
      exact unlike p member calls
    · rw [keeps p member, keeps q member']
      exact given.apart p member q member' differ calls

theorem giveAll (given : g.Given order done h) (callable : g.Callable order)
    (inside : i ∈ order) {cells : List Nat} (own : ∀ cell ∈ cells, cell ∈ g.ownCells i)
    (nodup : cells.Nodup) (fresh : ∀ cell ∈ cells, (i, cell) ∉ done)
    (uncalled : ∀ p ∈ done, ¬ g.CallsInto i p.1)
    (gives : cells.foldlM (fun g cell => g.giveRegister i cell) h = .ok k) :
    g.Given order (done ∪ {p | p.1 = i ∧ p.2 ∈ cells}) k := by
  induction cells generalizing h done with
  | nil =>
    obtain rfl := Except.ok.inj gives
    have none : {p : Nat × Nat | p.1 = i ∧ p.2 ∈ ([] : List Nat)} = ∅ := by ext p; simp
    rwa [none, Set.union_empty]
  | cons cell cells ih =>
    rw [foldlM_cons] at gives
    cases first : h.giveRegister i cell with
    | error fault => simp [first, bind, Except.bind] at gives
    | ok m =>
      simp only [first, bind, Except.bind] at gives
      obtain ⟨new, nodup⟩ := nodup_cons.1 nodup
      have served := given.give callable inside (own cell (mem_cons_self ..))
        (fresh cell (mem_cons_self ..)) uncalled first
      have all := ih served (fun c member => own c (mem_cons_of_mem _ member)) nodup
        (fun c member => ?_) (fun p member => ?_) gives
      · convert all using 1
        ext ⟨j, c⟩
        simp only [Set.mem_union, Set.mem_ofPred_eq, mem_cons, Set.mem_insert_iff,
          Prod.mk.injEq]
        tauto
      · rintro (same | served)
        · exact new ((Prod.mk.inj same).2 ▸ member)
        · exact fresh c (mem_cons_of_mem _ member) served
      · obtain rfl | member := member
        · exact callable.not_callsInto_self inside
        · exact uncalled p member

theorem node (given : g.Given order done h) (callable : g.Callable order)
    (inside : i ∈ order) (fresh : ∀ p ∈ done, p.1 ≠ i)
    (uncalled : ∀ p ∈ done, ¬ g.CallsInto i p.1) (gives : h.giveRegisters i = .ok k) :
    g.Given order (done ∪ {p | p.1 = i ∧ p.2 ∈ g.ownCells i}) k := by
  have unserved (cell : Nat) : (i, cell) ∉ done := fun served => fresh _ served rfl
  have nodup : (g.ownCells i).Nodup := (nodup_flatMap.1 callable.distinct).1 i inside
  have body : h.ownCells i = g.ownCells i := congrArg NodeBody.ownCells (given.shrinks.body i)
  -- What the chain loads belongs to others, and is only taken away.
  have kept : g.Given order done (h.withheld i) := by
    refine foldlRecOn (motive := fun (m : Graph) => g.Given order done m) _ _ given
      fun m was cell _ => ?_
    split
    · exact was.take ..
    · exact was
  obtain ⟨cells, -, all, gives⟩ := giveRegisters_eq_ok gives
  have whole : cells = g.ownCells i := body ▸ all fun cell own =>
    given.empty i inside cell (body ▸ own) (unserved cell)
  rw [whole] at gives
  exact kept.giveAll callable inside (fun _ => id) nodup (fun cell _ => unserved cell) uncalled
    gives

end Given

end Give

end Graph

namespace Action

/-- The node of an action if it may keep values. -/
def keeper? : Action → Option Nat
  | node i => some i
  | _ => none

def keepers (actions : List Action) : List Nat := actions.filterMap keeper?

theorem giveRegisters_eq_ok {s t : Session} (run : Build.giveRegisters i s = .ok () t) :
    s.graph.giveRegisters i = .ok t.graph := by
  simp only [Build.giveRegisters, Build.bind_eq_ok, Build.get_eq_ok, Build.ofExcept_eq_ok,
    Build.modify_eq_ok] at run
  obtain ⟨_, _, ⟨rfl, rfl⟩, graph, _, ⟨given, rfl⟩, rfl⟩ := run
  exact given

section Run

variable {g : Graph} {s t : Session}

/-- When the nodes behind an action have been served, so has the action's own node afterwards. -/
theorem giveRegisters_given {a : Action} (callable : g.Callable (before ++ (keepers [a] ++ after)))
    (given : g.Given (before ++ (keepers [a] ++ after))
      {p | p.1 ∈ after ∧ p.2 ∈ g.ownCells p.1} s.graph)
    (run : a.giveRegisters s = .ok () t) :
    g.Given (before ++ (keepers [a] ++ after))
      {p | p.1 ∈ keepers [a] ++ after ∧ p.2 ∈ g.ownCells p.1} t.graph := by
  unfold giveRegisters at run
  split at run
  · next i =>
    have inside : i ∈ before ++ i :: after := by simp
    have unserved : i ∉ after := by
      have nodup := (nodup_append.1 callable.nodup).2.1
      exact (nodup_cons.1 nodup).1
    have served := given.node callable inside (fun p member same => unserved (same ▸ member.1))
      (fun p member calls => ?_) (giveRegisters_eq_ok run)
    · convert served using 1
      ext ⟨j, cell⟩
      simp only [keepers, keeper?, filterMap_cons, filterMap_nil, singleton_append,
        mem_cons, Set.mem_union, Set.mem_ofPred_eq]
      constructor
      · rintro ⟨rfl | later, own⟩
        · exact .inr ⟨rfl, own⟩
        · exact .inl ⟨later, own⟩
      · rintro (⟨later, own⟩ | ⟨rfl, own⟩)
        · exact ⟨.inr later, own⟩
        · exact ⟨.inl rfl, own⟩
    -- A call goes to an earlier node, and those that have been served are later ones.
    · have earlier := callable.mem_before_of_callsInto rfl calls
      have apart := (nodup_append.1 callable.nodup).2.2
      exact apart _ earlier _ (mem_cons_of_mem _ member.1) rfl
  · next other =>
    obtain ⟨-, rfl⟩ := Build.pure_eq_ok.1 run
    have none : keepers [a] = [] := by
      cases a with
      | node i => exact absurd rfl (other i)
      | _ => rfl
    rw [none, nil_append] at given ⊢
    exact given

variable {actions : List Action}

/-- All nodes are served, from the last one to the first. -/
theorem giveAllRegisters_given (after : List Nat) (callable : g.Callable (keepers actions ++ after))
    (given : g.Given (keepers actions ++ after) {p | p.1 ∈ after ∧ p.2 ∈ g.ownCells p.1} s.graph)
    (run : actions.reverse.forM giveRegisters s = .ok () t) :
    g.Given (keepers actions ++ after)
      {p | p.1 ∈ keepers actions ++ after ∧ p.2 ∈ g.ownCells p.1} t.graph := by
  induction actions using reverseRecOn generalizing after s with
  | nil =>
    obtain ⟨-, rfl⟩ := Build.pure_eq_ok.1 run
    exact given
  | append_singleton actions a ih =>
    have split : keepers (actions ++ [a]) ++ after = keepers actions ++ (keepers [a] ++ after) := by
      rw [keepers, filterMap_append, append_assoc]
      rfl
    rw [split] at callable given ⊢
    rw [reverse_append, reverse_singleton, singleton_append] at run
    obtain ⟨_, u, turn, rest⟩ := Build.bind_eq_ok.1 run
    exact ih _ callable (giveRegisters_given callable given turn) rest

theorem given_of_giveRegisters (callable : s.graph.Callable (keepers actions))
    (run : actions.reverse.forM giveRegisters s = .ok () t) :
    s.graph.Given (keepers actions) {p | p.1 ∈ keepers actions ∧ p.2 ∈ s.graph.ownCells p.1}
      t.graph := by
  have none : {p : Nat × Nat | p.1 ∈ ([] : List Nat) ∧ p.2 ∈ s.graph.ownCells p.1} = ∅ := by
    ext p; simp
  have all := giveAllRegisters_given [] (by rwa [append_nil])
    (by rw [none, append_nil]; exact .start callable) run
  rwa [append_nil] at all

end Run

/-- When registers are given to nodes that each refer to earlier ones, a node and all that it calls,
on whatever path, have different ones. The cells of one node have different registers, too, and no
cell is left without one. -/
theorem giveRegisters_keeps_callers_apart {actions : List Action} {s t : Session}
    (callable : s.graph.Callable (keepers actions))
    (run : actions.reverse.forM giveRegisters s = .ok () t) :
    ∀ i ∈ keepers actions,
      (∀ cell ∈ s.graph.ownCells i, ∃ r, t.graph.register cell = some r ∧ 0x80 ≤ r ∧ r ≤ 0xFE) ∧
      ((s.graph.ownCells i).map t.graph.register).Nodup ∧
      ∀ j, s.graph.CallsInto i j →
        List.Disjoint ((s.graph.ownCells i).map t.graph.register)
          ((s.graph.ownCells j).map t.graph.register) := by
  have given := given_of_giveRegisters callable run
  intro i inside
  refine ⟨fun cell own => ?_, ?_, fun j calls => ?_⟩
  · obtain ⟨r, had, gets, -, -⟩ := given.taken (i, cell) ⟨inside, own⟩
    exact ⟨r, gets, callable.bounded i inside r had⟩
  · have nodup : (s.graph.ownCells i).Nodup :=
      (nodup_flatMap.1 callable.distinct).1 i inside
    refine nodup.map_on fun c first d second same => ?_
    by_contra differ
    exact given.apart (i, c) ⟨inside, first⟩ (i, d) ⟨inside, second⟩
      (fun eq => differ (Prod.mk.inj eq).2) (.inl rfl) same
  · obtain ⟨before, after, place⟩ := append_of_mem inside
    have called : j ∈ keepers actions :=
      place ▸ mem_append_left _ (callable.mem_before_of_callsInto place calls)
    rintro _ first second
    obtain ⟨c, own, rfl⟩ := mem_map.1 first
    obtain ⟨d, other, same⟩ := mem_map.1 second
    refine given.apart (i, c) ⟨inside, own⟩ (j, d) ⟨called, other⟩ (fun eq => ?_) (.inr calls)
      same.symm
    obtain ⟨rfl, -⟩ := Prod.mk.inj eq
    exact callable.not_callsInto_self inside calls

/-- A node with a parameter and a value of its own that calls another one, which goes on to a third
one. -/
def callingGraph : Graph :=
  let keeping (params : List (Nat × String)) (cells : List Nat) : NodeBody :=
    .chain { params, chain := cells.map fun cell => .term (.store cell "") }
  let node (body : NodeBody) (references : List Reference) : Node :=
    { feature := 0, name := "", pos := none, body, references }
  { nodes := #[node (keeping [] [0, 1]) [], node (keeping [] [2]) [⟨0, false⟩],
      node (keeping [(3, "p")] [4]) [⟨1, true⟩]]
    cells := #[none, none, none, none, none] }

theorem callingGraph_callable : callingGraph.Callable [0, 1, 2] where
  nodup := by decide
  inside := by decide
  earlier := Graph.earlier_of_places (by decide)
  unused := by decide +kernel
  bounded := by decide +kernel
  distinct := by decide
  empty := by decide

theorem shared_register_is_not_the_callers :
    ∃ t, [Action.node 0, .node 1, .label 5, .node 2].reverse.forM giveRegisters
        { graph := callingGraph } = .ok () t ∧
      List.Disjoint ([3, 4].map t.graph.register) ([0, 1].map t.graph.register) ∧
      [3, 4, 2, 0, 1].map t.graph.register =
        [some 0x80, some 0x81, some 0x82, some 0x82, some 0x83] := by
  have registers : (match [Action.node 0, .node 1, .label 5, .node 2].reverse.forM giveRegisters
      { graph := callingGraph } with
      | .ok _ t => [3, 4, 2, 0, 1].map t.graph.register
      | .error _ _ => []) = [some 0x80, some 0x81, some 0x82, some 0x82, some 0x83] := by
    decide +kernel
  split at registers
  · next t run =>
    refine ⟨t, run, ?_, registers⟩
    have calls : callingGraph.CallsInto 2 0 :=
      ⟨⟨1, true⟩, mem_singleton_self _, rfl,
        .single ⟨⟨0, false⟩, mem_singleton_self _, rfl⟩⟩
    exact (giveRegisters_keeps_callers_apart callingGraph_callable run 2 (by decide)).2.2 0 calls
  · cases registers

end Action

end NewGrf

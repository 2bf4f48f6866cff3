import NewGrf.Chain.Compile
import NewGrf.Proofs.Frames

namespace NewGrf

namespace Graph

variable {g : Graph} {i j : Nat} {n : Node} {f : Node → Node}

theorem node_addNode_of_lt (below : i < g.nodes.size) : (g.addNode n).2.node i = g.node i := by
  simp [addNode, node, Array.getElem?_push_lt below, below]

theorem node_addNode : (g.addNode n).2.node g.nodes.size = n := by
  simp [addNode, node]

theorem node_modifyNode_of_ne (ne : i ≠ j) : (g.modifyNode i f).node j = g.node j := by
  simp [modifyNode, node, Array.getElem?_modify, ne]

theorem node_modifyNode (below : i < g.nodes.size) : (g.modifyNode i f).node i = f (g.node i) := by
  simp [modifyNode, node, below, Array.getElem_modify]

theorem kept_of_modifyNode {α : Type} {field : Node → α} (keeps : ∀ n, field (f n) = field n) :
    field ((g.modifyNode i f).node j) = field (g.node j) := by
  by_cases same : i = j
  · subst same
    simp only [modifyNode, node, Array.getElem?_modify]
    cases g.nodes[i]? <;> simp [keeps]
  · rw [node_modifyNode_of_ne same]

/-- References and their count are all of a node that a reference changes. -/
theorem kept_of_addReference {α : Type} {field : Node → α} {r : Reference}
    (references : ∀ n rs, field { n with references := rs } = field n)
    (count : ∀ n c, field { n with refCount := c } = field n) :
    field ((g.addReference i r).node j) = field (g.node j) := by
  rw [addReference, kept_of_modifyNode fun n => count n _,
    kept_of_modifyNode fun n => references n _]

@[simp] theorem size_modifyNode : (g.modifyNode i f).nodes.size = g.nodes.size := by
  simp [modifyNode]

@[simp] theorem size_addReference {r} : (g.addReference i r).nodes.size = g.nodes.size := by
  simp [addReference]

end Graph

namespace Build

theorem newNode_eq_ok {n i} {s t : Session} : newNode n s = .ok i t ↔
      s.graph.nodes.size = i ∧ { s with graph := (s.graph.addNode n).2 } = t := by
  change EStateM.Result.ok s.graph.nodes.size { s with graph := (s.graph.addNode n).2 } =
    .ok i t ↔ _
  simp only [EStateM.Result.ok.injEq]

theorem resolve_eq_ok {name : Ident} {id} {s t : Session} :
    resolve name s = .ok id t ↔ s.blockIds.get? name.text = some id ∧ s = t := by
  simp only [resolve, bind_eq_ok, get_eq_ok]
  constructor
  · rintro ⟨_, _, ⟨rfl, rfl⟩, h⟩
    cases found : s.blockIds.get? name.text with
    | none => simp [found] at h
    | some i =>
      simp only [found, pure_eq_ok] at h
      exact ⟨by rw [h.1], h.2⟩
  · rintro ⟨found, rfl⟩
    exact ⟨s, s, ⟨rfl, rfl⟩, by simp [found]⟩

theorem block?_eq_ok {id b} {s t : Session} :
    block? id s = .ok b t ↔ s.blocks[id]?.getD default = b ∧ s = t := by
  change EStateM.Result.ok _ s = .ok b t ↔ _
  simp only [EStateM.Result.ok.injEq]

instance (name group feature) : Fixed (nodeOf name group feature) := by
  unfold nodeOf
  split <;> infer_instance

instance (id feature) : Fixed (cellsOf id feature) := .seq

instance (id feature node) : Fixed (setNode id feature node) := by
  unfold setNode
  infer_instance

instance (i) : Fixed (Build.node i) := .seq

end Build

/-- Nodes have been made, and those that there were keep their bodies and features. -/
structure Session.Grows (s t : Session) : Prop where
  size : s.graph.nodes.size ≤ t.graph.nodes.size
  body : ∀ i < s.graph.nodes.size, (t.graph.node i).body = (s.graph.node i).body
  feature : ∀ i < s.graph.nodes.size, (t.graph.node i).feature = (s.graph.node i).feature

namespace Session.Grows

variable {s t u : Session} {i : Nat}

theorem refl (s : Session) : s.Grows s := ⟨Nat.le_refl _, fun _ _ => rfl, fun _ _ => rfl⟩

theorem trans (first : s.Grows t) (second : t.Grows u) : s.Grows u where
  size := Nat.le_trans first.size second.size
  body i below := (second.body i (Nat.lt_of_lt_of_le below first.size)).trans (first.body i below)
  feature i below :=
    (second.feature i (Nat.lt_of_lt_of_le below first.size)).trans (first.feature i below)

theorem of_sameNodes (same : s.SameNodes t) : s.Grows t := by
  have node (i : Nat) : t.graph.node i = s.graph.node i := by
    rw [Graph.node, same.nodes, Graph.node]
  exact ⟨Nat.le_of_eq (by rw [same.nodes]), fun i _ => by rw [node], fun i _ => by rw [node]⟩

/-- A node that has been made meanwhile can still be filled. -/
theorem fill {body : NodeBody} (grows : s.Grows t) (new : s.graph.nodes.size ≤ i)
    (graph : u.graph = t.graph.modifyNode i fun n => { n with body }) : s.Grows u := by
  refine ⟨?_, fun j below => ?_, fun j below => ?_⟩
  all_goals rw [graph]
  · rw [Graph.size_modifyNode]
    exact grows.size
  · rw [Graph.node_modifyNode_of_ne (by omega)]
    exact grows.body j below
  · rw [Graph.node_modifyNode_of_ne (by omega)]
    exact grows.feature j below

end Session.Grows

/-- Nodes are made. A build that fails may leave anything. -/
def Frame.growing : Frame where
  kept := Session.Grows
  left _ _ := True
  refl := .refl
  trans := .trans
  left_refl _ := trivial
  left_trans _ _ := trivial

theorem Frame.still_within_growing : Frame.still.Within .growing :=
  ⟨fun _ _ => .of_sameNodes, fun _ _ _ => trivial⟩

/-- A build that makes nodes. -/
abbrev Makes {α : Type} (m : Build α) : Prop := Keeps .growing m

instance (priority := low) {α : Type} {m : Build α} [Still m] : Makes m :=
  Ensures.within Frame.still_within_growing

namespace Build

instance (n) : Makes (newNode n) where
  of_ok h := by
    obtain ⟨-, rfl⟩ := newNode_eq_ok.1 h
    exact ⟨⟨by simp [Graph.addNode], fun i below => by rw [Graph.node_addNode_of_lt below],
      fun i below => by rw [Graph.node_addNode_of_lt below]⟩, trivial⟩
  of_error _ := trivial

instance (source target isCall) : Makes (refer source target isCall) :=
  .modify fun _ => ⟨by simp, fun _ _ => Graph.kept_of_addReference (fun _ _ => rfl) fun _ _ => rfl,
    fun _ _ => Graph.kept_of_addReference (fun _ _ => rfl) fun _ _ => rfl⟩

end Build

end NewGrf

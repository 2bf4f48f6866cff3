import Mathlib.Data.List.Induction
import Mathlib.Data.List.Nodup
import Mathlib.Data.List.Perm.Basic
import NewGrf.Proofs.Nodes
import NewGrf.Proofs.Wordings

namespace NewGrf

def NodeBody.isItem : NodeBody → Bool
  | .item _ => true
  | _ => false

/-- The entries of a list that occur neither again in the list nor later. -/
def lastUses : List Nat → List Nat → List Nat
  | [], _ => []
  | j :: rest, later =>
    if j ∈ rest ++ later then lastUses rest later else j :: lastUses rest later

section LastUses

variable {j : Nat} {uses more later : List Nat}

theorem mem_lastUses : j ∈ lastUses uses later ↔ j ∈ uses ∧ j ∉ later := by
  induction uses with
  | nil => simp [lastUses]
  | cons k rest ih => grind [lastUses]

theorem nodup_lastUses : (lastUses uses later).Nodup := by
  induction uses with
  | nil => exact List.nodup_nil
  | cons k rest ih =>
    unfold lastUses
    split
    · exact ih
    · next last =>
      refine List.nodup_cons.2 ⟨fun again => ?_, ih⟩
      exact last (List.mem_append_left _ (mem_lastUses.1 again).1)

theorem lastUses_append :
    lastUses (uses ++ more) later = lastUses uses (more ++ later) ++ lastUses more later := by
  induction uses with
  | nil => rfl
  | cons k rest ih =>
    simp only [List.cons_append, lastUses, List.append_assoc, ih]
    split <;> rfl

end LastUses

variable {i : Nat}

namespace Graph

/-- The nodes that a node refers to, as often as it does. -/
def targetsOf (g : Graph) (i : Nat) : List Nat := (g.node i).references.map (·.target)

/-- The nodes that some nodes refer to. -/
def targets (g : Graph) (nodes : List Nat) : List Nat := nodes.flatMap g.targetsOf

/-- The nodes that a node is the last one to refer to. -/
def freedBy (g : Graph) (i : Nat) (rest : List Nat) : List Nat :=
  lastUses (g.targetsOf i) (g.targets rest)

/-- The nodes whose numbers come back, turn by turn. -/
def freedInTurns (g : Graph) : List Nat → List Nat
  | [] => []
  | i :: rest => g.freedBy i rest ++ g.freedInTurns rest

/-- A node that has had its turn while one that has not refers to it. -/
def Live (g : Graph) (done rest : List Nat) (j : Nat) : Prop := j ∈ done ∧ j ∈ g.targets rest

/-- The turn of a node, which takes one graph to the next one. -/
structure Turn (g u v : Graph) (done : List Nat) (i : Nat) (rest : List Nat) : Prop where
  /-- No number is free twice, not while references are let go either. -/
  unrepeated : ∀ n, (((u.node i).references.take n).foldl release u).freeIds.toList.Nodup
  unrepeated_after : v.freeIds.toList.Nodup
  /-- A number comes back when, and only when, its node has been referred to for the last time. -/
  returned : (u.releaseAll i).freeIds.toList.map some
    = u.freeIds.toList.map some ++ (g.freedBy i rest).map fun j => (u.node j).id
  /-- A node that a later one refers to takes a number away from the free ones. -/
  taken : i ∈ g.targets rest →
    ∃ id, (v.node i).id = some id ∧ (u.releaseAll i).freeIds.toList = v.freeIds.toList ++ [id]
  borrowed : i ∉ g.targets rest → v.freeIds = (u.releaseAll i).freeIds
  /-- The number that a node gets is not in use. -/
  given : (g.node i).body.isItem = false →
    ∃ id, (v.node i).id = some id ∧ ∀ j, g.Live done rest j → (v.node j).id ≠ some id
  /-- The other nodes keep their numbers. -/
  kept : ∀ j, j ≠ i → (v.node j).id = (u.node j).id
  unshared : ∀ j k, g.Live (done ++ [i]) rest j → g.Live (done ++ [i]) rest k →
    (v.node j).id = (v.node k).id → j = k
  /-- A node that is referred to has its number still, or loses it to this turn. -/
  resolved : ∀ j ∈ g.targetsOf i, ∃ id, (v.node j).id = some id ∧
    (g.Live done rest j ∧ id ∉ v.freeIds.toList ∨ j ∈ g.freedBy i rest)

/-- Nodes in an order in which each refers to earlier ones only. -/
structure Ordered (g : Graph) (order : List Nat) : Prop where
  nodup : order.Nodup
  inside : ∀ i ∈ order, i < g.nodes.size
  earlier : ∀ before i after, order = before ++ i :: after → ∀ j ∈ g.targetsOf i, j ∈ before

variable {g h : Graph} {id : Nat} {rest : List Nat}

/-- Whether references go to earlier nodes can be told place by place. -/
theorem earlier_of_places {order : List Nat}
    (places : ∀ n < order.length, ∀ i ∈ order[n]?, ∀ j ∈ g.targetsOf i, j ∈ order.take n)
    (before : List Nat) (i : Nat) (after : List Nat) (split : order = before ++ i :: after)
    (j : Nat) (target : j ∈ g.targetsOf i) : j ∈ before := by
  have place : i ∈ order[before.length]? := by simp [split]
  have short : before.length < order.length := by simp [split]
  simpa [split] using places before.length short i place j target

/-- Nodes in an order in which they can be written: no node refers to an item, all references are
counted, and no number is in use. -/
structure Numberable (g : Graph) (order : List Nat) : Prop extends g.Ordered order where
  noItem : ∀ j ∈ g.targets order, (g.node j).body.isItem = false
  counted : ∀ j ∈ order, (g.node j).refCount = (g.targets order).count j
  free : g.freeIds.toList.Perm (List.range 0x100)

/-- What holds of a graph when some nodes have had their turn and some references are still to be
let go: the free numbers and those of the nodes referred to are all numbers. -/
structure Accounted (g : Graph) (order : List Nat) (h : Graph) (done pending : List Nat) :
    Prop where
  size : h.nodes.size = g.nodes.size
  references : ∀ j, (h.node j).references = (g.node j).references
  body : ∀ j, (h.node j).body = (g.node j).body
  counted : ∀ j ∈ order, (h.node j).refCount = pending.count j
  ids : (h.freeIds.toList.map some
    ++ (done.filter (· ∈ pending)).map fun j => (h.node j).id).Perm ((List.range 0x100).map some)

section Release

variable {g : Graph} {r : Reference} {j : Nat}

theorem node_eq_of_nodes (same : g.nodes = h.nodes) (i : Nat) : g.node i = h.node i := by
  rw [node, node, same]

theorem nodes_release : (g.release r).nodes =
    (g.modifyNode r.target fun n => { n with refCount := n.refCount - 1 }).nodes := by
  unfold release
  dsimp only
  split <;> rfl

theorem kept_of_release {α : Type} {field : Node → α}
    (count : ∀ n c, field { n with refCount := c } = field n) :
    field ((g.release r).node j) = field (g.node j) := by
  rw [node_eq_of_nodes nodes_release]
  exact kept_of_modifyNode fun n => count n _

theorem refCount_release (below : r.target < g.nodes.size) : ((g.release r).node j).refCount =
      if j = r.target then (g.node j).refCount - 1 else (g.node j).refCount := by
  rw [node_eq_of_nodes nodes_release]
  split
  · next same => rw [same, node_modifyNode below]
  · next other => rw [node_modifyNode_of_ne (Ne.symm other)]

theorem size_release : (g.release r).nodes.size = g.nodes.size := by
  rw [nodes_release, size_modifyNode]

/-- A number is free again when the last reference to its node has been let go. -/
theorem freeIds_release (below : r.target < g.nodes.size) (own : (g.node r.target).id = some id) :
    (g.release r).freeIds =
      if (g.node r.target).refCount - 1 = 0 then g.freeIds.push id else g.freeIds := by
  unfold release
  simp only [node_modifyNode below, own]
  cases (g.node r.target).refCount - 1 <;> rfl

end Release

/-- A number that is given is free before. It is so afterwards as well if it is only borrowed. -/
theorem of_giveId (given : g.giveId i = .ok h) :
    ∃ id, h.nodes = (g.modifyNode i fun n => { n with id := some id }).nodes ∧
      if (g.node i).refCount = 0 then id ∈ g.freeIds.toList ∧ h.freeIds = g.freeIds
      else g.freeIds.toList = h.freeIds.toList ++ [id] := by
  unfold giveId at given
  by_cases unused : (g.node i).refCount = 0
  · simp only [unused, beq_self_eq_true, if_true] at given ⊢
    cases first : g.freeIds[0]? with
    | none => simp [first] at given
    | some id =>
      simp only [first, Except.ok.injEq] at given
      subst given
      exact ⟨id, rfl, Array.mem_toList_iff.2 (Array.mem_of_getElem? first), rfl⟩
  · simp only [beq_iff_eq, unused, if_false] at given ⊢
    cases last : g.freeIds.back? with
    | none => simp [last] at given
    | some id =>
      simp only [last, Except.ok.injEq] at given
      have split : g.freeIds.toList = g.freeIds.pop.toList ++ [id] := by
        obtain ⟨free, same⟩ := Array.back?_eq_some_iff.1 last
        simp [same]
      subst given
      refine ⟨id, ?_, ?_⟩
      · split <;> rfl
      · rw [split]
        split <;> rfl

/-- An item only lets go of what it refers to; any other node gets a number as well. -/
theorem of_link (linked : g.link i = .ok h) :
    if ((g.releaseAll i).node i).body.isItem then h = g.releaseAll i
    else ∃ k, (g.releaseAll i).giveId i = .ok k ∧ h.nodes = k.nodes ∧ h.freeIds = k.freeIds := by
  unfold link at linked
  dsimp only at linked
  generalize g.releaseAll i = k at linked ⊢
  cases body : (k.node i).body with
  | item =>
    simp only [body, Except.ok.injEq] at linked
    exact linked.symm
  | chain c =>
    simp only [body] at linked
    obtain ⟨k', given, linked⟩ := Except.bind_eq_ok.1 linked
    obtain rfl := Except.ok.inj linked
    exact ⟨k', given, rfl, rfl⟩
  | _ =>
    simp only [body] at linked
    exact ⟨h, linked, rfl, rfl⟩

namespace Accounted

variable {g h : Graph} {order done pending : List Nat}

variable {k u v : Graph} {j : Nat}

theorem congr (account : g.Accounted order h done pending) (nodes : k.nodes = h.nodes)
    (free : k.freeIds = h.freeIds) : g.Accounted order k done pending := by
  have same := node_eq_of_nodes nodes
  exact ⟨by rw [nodes, account.size], fun j => by rw [same, account.references],
    fun j => by rw [same, account.body], fun j ordered => by rw [same, account.counted j ordered],
    by simpa only [free, same] using account.ids⟩

theorem start (numberable : g.Numberable order) : g.Accounted order g [] (g.targets order) where
  size := rfl
  references _ := rfl
  body _ := rfl
  counted := numberable.counted
  ids := by simpa using numberable.free.map some

theorem nodup_all (account : g.Accounted order h done pending) : (h.freeIds.toList.map some
      ++ (done.filter (· ∈ pending)).map fun j => (h.node j).id).Nodup := by
  refine account.ids.nodup_iff.2 (List.Nodup.map ?_ List.nodup_range)
  exact fun _ _ => Option.some.inj

theorem nodup_free (account : g.Accounted order h done pending) : h.freeIds.toList.Nodup :=
  (List.nodup_append.1 account.nodup_all).1.of_map some

theorem id_of_mem (account : g.Accounted order h done pending) (had : j ∈ done)
    (wanted : j ∈ pending) : ∃ id, (h.node j).id = some id := by
  have inside : j ∈ done.filter (· ∈ pending) := List.mem_filter.2 ⟨had, by simpa using wanted⟩
  have member : (h.node j).id ∈ (List.range 0x100).map some :=
    account.ids.subset (List.mem_append_right _ (List.mem_map_of_mem inside))
  obtain ⟨id, -, same⟩ := List.mem_map.1 member
  exact ⟨id, same.symm⟩

theorem not_free (account : g.Accounted order h done pending) (had : j ∈ done)
    (wanted : j ∈ pending) (own : (h.node j).id = some id) : id ∉ h.freeIds.toList := by
  intro free
  have inside : j ∈ done.filter (· ∈ pending) := List.mem_filter.2 ⟨had, by simpa using wanted⟩
  have apart := (List.nodup_append.1 account.nodup_all).2.2
  exact apart _ (List.mem_map_of_mem free) _ (List.mem_map_of_mem inside) own.symm

theorem unshared (account : g.Accounted order h done pending) {k}
    (hadJ : j ∈ done) (wantedJ : j ∈ pending) (hadK : k ∈ done) (wantedK : k ∈ pending)
    (same : (h.node j).id = (h.node k).id) : j = k := by
  have insideJ : j ∈ done.filter (· ∈ pending) := List.mem_filter.2 ⟨hadJ, by simpa using wantedJ⟩
  have insideK : k ∈ done.filter (· ∈ pending) := List.mem_filter.2 ⟨hadK, by simpa using wantedK⟩
  exact List.inj_on_of_nodup_map (List.nodup_append.1 account.nodup_all).2.1 insideJ insideK same

/-- Of the nodes that were wanted, one that is wanted no more stands apart. -/
theorem filter_mem_cons_perm (nodup : done.Nodup) (had : j ∈ done) :
    (done.filter (· ∈ j :: pending)).Perm
      (lastUses [j] pending ++ done.filter (· ∈ pending)) := by
  refine (List.perm_ext_iff_of_nodup (nodup.filter _) ?_).2 fun k => ?_
  · refine List.nodup_append.2 ⟨nodup_lastUses, nodup.filter _, fun a last b wanted same => ?_⟩
    subst same
    exact (mem_lastUses.1 last).2 (by simpa using (List.mem_filter.1 wanted).2)
  · simp only [List.mem_append, mem_lastUses, List.mem_filter, List.mem_cons, decide_eq_true_eq,
      List.not_mem_nil, or_false]
    grind

theorem release {r : Reference} (account : g.Accounted order h done (r.target :: pending))
    (inside : ∀ i ∈ order, i < g.nodes.size) (ordered : done ⊆ order) (nodup : done.Nodup)
    (had : r.target ∈ done) :
    g.Accounted order (h.release r) done pending ∧
      (h.release r).freeIds.toList.map some = h.freeIds.toList.map some
        ++ (lastUses [r.target] pending).map fun j => (h.node j).id := by
  have below : r.target < h.nodes.size := account.size ▸ inside _ (ordered had)
  obtain ⟨id, own⟩ := account.id_of_mem had List.mem_cons_self
  have count := account.counted _ (ordered had)
  rw [List.count_cons_self] at count
  have ids (j : Nat) : ((h.release r).node j).id = (h.node j).id := kept_of_release fun _ _ => rfl
  have freed := freeIds_release below own
  simp only [count, Nat.add_sub_cancel, List.count_eq_zero] at freed
  have returned : (h.release r).freeIds.toList.map some = h.freeIds.toList.map some
      ++ (lastUses [r.target] pending).map fun j => (h.node j).id := by
    by_cases last : r.target ∈ pending
    · simp [freed, last, lastUses]
    · simp [freed, last, lastUses, own]
  refine ⟨⟨size_release.trans account.size, fun j => ?_, fun j => ?_, fun j ordered => ?_, ?_⟩,
    returned⟩
  · exact (kept_of_release fun _ _ => rfl).trans (account.references j)
  · exact (kept_of_release fun _ _ => rfl).trans (account.body j)
  · rw [refCount_release below, account.counted j ordered, List.count_cons]
    grind
  · simp only [returned, ids]
    refine List.Perm.trans ?_ account.ids
    rw [List.append_assoc, ← List.map_append]
    exact .append_left _ (.map _ (filter_mem_cons_perm nodup had).symm)

/-- What is let go comes back free in the order of the last uses. -/
theorem releases {rs : List Reference}
    (account : g.Accounted order h done (rs.map (·.target) ++ pending))
    (inside : ∀ i ∈ order, i < g.nodes.size) (ordered : done ⊆ order) (nodup : done.Nodup)
    (had : ∀ r ∈ rs, r.target ∈ done) :
    g.Accounted order (rs.foldl Graph.release h) done pending ∧
      (∀ j, ((rs.foldl Graph.release h).node j).id = (h.node j).id) ∧
      (rs.foldl Graph.release h).freeIds.toList.map some = h.freeIds.toList.map some
        ++ (lastUses (rs.map (·.target)) pending).map fun j => (h.node j).id := by
  induction rs generalizing h with
  | nil => exact ⟨account, fun _ => rfl, by simp [lastUses]⟩
  | cons r rs ih =>
    rw [List.forall_mem_cons] at had
    rw [List.map_cons, List.cons_append] at account
    obtain ⟨first, returned⟩ := account.release inside ordered nodup had.1
    obtain ⟨all, kept, more⟩ := ih first had.2
    have ids (j : Nat) : ((h.release r).node j).id = (h.node j).id :=
      kept_of_release fun _ _ => rfl
    refine ⟨all, fun j => (kept j).trans (ids j), ?_⟩
    rw [List.foldl_cons, more, returned, List.append_assoc]
    simp only [ids]
    rw [← List.map_append, ← lastUses_append]
    rfl

/-- A node gets a number that no node has that is still referred to. -/
theorem giveId (account : g.Accounted order h done pending)
    (inside : ∀ i ∈ order, i < g.nodes.size) (ordered : i ∈ order) (new : i ∉ done)
    (given : h.giveId i = .ok k) :
    g.Accounted order k (done ++ [i]) pending ∧ (∀ j, j ≠ i → (k.node j).id = (h.node j).id) ∧
      ∃ id, (k.node i).id = some id ∧ id ∈ h.freeIds.toList ∧
        if i ∈ pending then h.freeIds.toList = k.freeIds.toList ++ [id]
        else k.freeIds = h.freeIds := by
  obtain ⟨id, nodes, free⟩ := of_giveId given
  have below : i < h.nodes.size := account.size ▸ inside i ordered
  have own : (k.node i).id = some id := by rw [node_eq_of_nodes nodes, node_modifyNode below]
  have others (j : Nat) (ne : j ≠ i) : (k.node j).id = (h.node j).id := by
    rw [node_eq_of_nodes nodes, node_modifyNode_of_ne (Ne.symm ne)]
  have kept {α : Type} {field : Node → α} (same : ∀ n id, field { n with id := id } = field n)
      (j : Nat) : field (k.node j) = field (h.node j) := by
    rw [node_eq_of_nodes nodes]
    exact kept_of_modifyNode fun n => same n _
  have ids : (done.filter (· ∈ pending)).map (fun j => (k.node j).id) =
      (done.filter (· ∈ pending)).map fun j => (h.node j).id :=
    List.map_congr_left fun j wanted => others j fun same =>
      new (same ▸ (List.mem_filter.1 wanted).1)
  rw [account.counted i ordered] at free
  simp only [List.count_eq_zero, ite_not] at free
  refine ⟨⟨?_, fun j => ?_, fun j => ?_, fun j ordered => ?_, ?_⟩, others, id, own, ?_⟩
  · rw [nodes, size_modifyNode, account.size]
  · exact (kept (fun _ _ => rfl) j).trans (account.references j)
  · exact (kept (fun _ _ => rfl) j).trans (account.body j)
  · exact (kept (fun _ _ => rfl) j).trans (account.counted j ordered)
  · rw [List.filter_append, List.map_append, ids]
    refine List.Perm.trans ?_ account.ids
    by_cases wanted : i ∈ pending
    · rw [if_pos wanted] at free
      rw [free]
      simp only [wanted, decide_true, List.filter_cons_of_pos, List.filter_nil, List.map_cons,
        List.map_nil, own, List.map_append, List.append_assoc]
      exact .append_left _ List.perm_append_comm
    · rw [if_neg wanted] at free
      simp [wanted, free.2]
  · by_cases wanted : i ∈ pending
    · simp only [wanted, if_true] at free ⊢
      exact ⟨by simp [free], free⟩
    · simp only [wanted, if_false] at free ⊢
      exact free

theorem pass (account : g.Accounted order h done pending) (unused : i ∉ pending) :
    g.Accounted order h (done ++ [i]) pending := by
  refine ⟨account.size, account.references, account.body, account.counted, ?_⟩
  simpa [unused] using account.ids

theorem number (account : g.Accounted order (u.releaseAll i) done pending)
    (inside : ∀ i ∈ order, i < g.nodes.size) (ordered : i ∈ order) (new : i ∉ done)
    (noItem : i ∈ pending → (g.node i).body.isItem = false) (linked : u.link i = .ok v) :
    g.Accounted order v (done ++ [i]) pending ∧
      (∀ j, j ≠ i → (v.node j).id = ((u.releaseAll i).node j).id) ∧
      (i ∈ pending → ∃ id, (v.node i).id = some id ∧
        (u.releaseAll i).freeIds.toList = v.freeIds.toList ++ [id]) ∧
      (i ∉ pending → v.freeIds = (u.releaseAll i).freeIds) ∧
      ((g.node i).body.isItem = false →
        ∃ id, (v.node i).id = some id ∧ id ∈ (u.releaseAll i).freeIds.toList) := by
  have cases := of_link linked
  rw [account.body] at cases
  cases item : (g.node i).body.isItem with
  | true =>
    simp only [item, if_true] at cases
    subst cases
    have unused : i ∉ pending := fun wanted => by simp [noItem wanted] at item
    exact ⟨account.pass unused, fun _ _ => rfl, fun wanted => absurd wanted unused, fun _ => rfl,
      nofun⟩
  | false =>
    simp only [item, Bool.false_eq_true, if_false] at cases
    obtain ⟨k, given, nodes, free⟩ := cases
    obtain ⟨next, others, id, own, wasFree, rest⟩ := account.giveId inside ordered new given
    have same := node_eq_of_nodes nodes
    refine ⟨next.congr nodes free, fun j ne => ?_, fun wanted => ?_, fun unused => ?_, fun _ => ?_⟩
    · rw [same, others j ne]
    · rw [if_pos wanted] at rest
      exact ⟨id, by rw [same, own], by rw [free, rest]⟩
    · rw [if_neg unused] at rest
      rw [free, rest]
    · exact ⟨id, by rw [same, own], wasFree⟩

/-- The turn of a node keeps the account. -/
theorem turn (numberable : g.Numberable (done ++ i :: rest))
    (account : g.Accounted (done ++ i :: rest) u done (g.targets (i :: rest)))
    (linked : u.link i = .ok v) :
    g.Accounted (done ++ i :: rest) v (done ++ [i]) (g.targets rest) ∧ g.Turn u v done i rest := by
  have inside := numberable.inside
  have ordered : done ⊆ done ++ i :: rest := List.subset_append_left ..
  have own : i ∈ done ++ i :: rest := List.mem_append_right _ (List.mem_cons_self ..)
  obtain ⟨nodup, -, apart⟩ := List.nodup_append.1 numberable.nodup
  have new : i ∉ done := fun had => apart i had i (List.mem_cons_self ..) rfl
  have earlier : ∀ j ∈ g.targetsOf i, j ∈ done := numberable.earlier done i rest rfl
  have noItem (wanted : i ∈ g.targets rest) : (g.node i).body.isItem = false := by
    refine numberable.noItem i ?_
    simp only [targets, List.flatMap_append, List.flatMap_cons, List.mem_append]
    exact .inr (.inr wanted)
  have had : ∀ r ∈ (u.node i).references, r.target ∈ done := by
    intro r inside
    rw [account.references] at inside
    exact earlier _ (List.mem_map_of_mem inside)
  have uses : (u.node i).references.map (·.target) = g.targetsOf i := by
    rw [account.references, targetsOf]
  have pending : g.targets (i :: rest) =
      (u.node i).references.map (·.target) ++ g.targets rest := by
    rw [uses, targets, List.flatMap_cons, targets]
  have full := account
  rw [pending] at account
  obtain ⟨released, kept, returned⟩ := account.releases inside ordered nodup had
  rw [uses] at returned
  obtain ⟨after, others, taken, borrowed, given⟩ := released.number inside own new noItem linked
  have ids (j : Nat) (ne : j ≠ i) : (v.node j).id = (u.node j).id := (others j ne).trans (kept j)
  refine ⟨after, fun n => ?_, after.nodup_free, returned, taken, borrowed, fun item => ?_, ids,
    fun j k liveJ liveK => after.unshared liveJ.1 liveJ.2 liveK.1 liveK.2, fun j used => ?_⟩
  · -- the references that are left after `n` of them still keep their numbers from being free
    rw [← List.take_append_drop n (u.node i).references, List.map_append, List.append_assoc]
      at account
    exact (account.releases inside ordered nodup fun r some =>
      had r (List.mem_of_mem_take some)).1.nodup_free
  · obtain ⟨id, same, free⟩ := given item
    refine ⟨id, same, fun j live shared => ?_⟩
    have ne : j ≠ i := fun same => new (same ▸ live.1)
    rw [others j ne] at shared
    exact released.not_free live.1 live.2 shared free
  · have before := earlier j used
    have ne : j ≠ i := fun same => new (same ▸ before)
    have named : j ∈ g.targets (i :: rest) := by
      rw [pending, uses]
      exact List.mem_append_left _ used
    obtain ⟨id, same⟩ := full.id_of_mem before named
    rw [← ids j ne] at same
    refine ⟨id, same, ?_⟩
    by_cases wanted : j ∈ g.targets rest
    · exact .inl ⟨⟨before, wanted⟩, after.not_free (List.mem_append_left _ before) wanted same⟩
    · exact .inr (mem_lastUses.2 ⟨used, wanted⟩)

end Accounted

section Turns

variable {g : Graph} {order : List Nat}

theorem freedInTurns_eq (g : Graph) (order : List Nat) :
    g.freedInTurns order = lastUses (g.targets order) [] := by
  induction order with
  | nil => rfl
  | cons i rest ih =>
    have split : g.targets (i :: rest) = g.targetsOf i ++ g.targets rest := List.flatMap_cons ..
    rw [freedInTurns, ih, freedBy, split, lastUses_append, List.append_nil]

/-- A number comes back once for each time that it is taken away, and never if it is borrowed. -/
theorem count_freedInTurns {done} (numberable : g.Numberable (done ++ i :: rest)) :
    (g.freedInTurns (done ++ i :: rest)).count i = if i ∈ g.targets rest then 1 else 0 := by
  obtain ⟨-, -, apart⟩ := List.nodup_append.1 numberable.nodup
  have new : i ∉ done := fun had => apart i had i (List.mem_cons_self ..) rfl
  have before : i ∉ g.targets done := by
    intro inside
    obtain ⟨k, turn, used⟩ := List.mem_flatMap.1 inside
    obtain ⟨first, second, split⟩ := List.append_of_mem turn
    have earlier := numberable.earlier first k (second ++ i :: rest) (by simp [split]) i used
    exact new (split ▸ List.mem_append_left _ earlier)
  have self : i ∉ g.targetsOf i := fun used => new (numberable.earlier done i rest rfl i used)
  have all : i ∈ g.targets (done ++ i :: rest) ↔ i ∈ g.targets rest := by
    simp only [targets, List.flatMap_append, List.flatMap_cons, List.mem_append] at before ⊢
    simp [before, self]
  rw [freedInTurns_eq, List.Nodup.count nodup_lastUses]
  simp [mem_lastUses, all]

end Turns

end Graph

namespace Action

/-- The nodes that actions stand for, in their order. -/
def nodesOf (actions : List Action) : List Nat := actions.filterMap node?

theorem linkAll_cons (first : Int) (a : Action) (rest : List Action) :
    linkAll first (a :: rest) = (do
      a.link first
      linkAll (first + 1) rest) := by
  have shift (n : Nat) : ((rest.zipIdx (n + 1)).forM fun x => x.1.link (first + x.2)) =
      (rest.zipIdx n).forM fun x => x.1.link (first + 1 + x.2) := by
    induction rest generalizing n with
    | nil => rfl
    | cons b rest ih =>
      have place : first + ((n + 1 : Nat) : Int) = first + 1 + (n : Int) := by omega
      simp only [List.zipIdx_cons, List.forM, ih, place]
  have here : first + ((0 : Nat) : Int) = first := by omega
  simp only [linkAll, List.zipIdx_cons, List.forM, shift, here]

variable {first : Int} {s : Session}

theorem linkAll_append_eq_ok {before after : List Action} {t} :
    linkAll first (before ++ after) s = .ok () t ↔
      ∃ u, linkAll first before s = .ok () u ∧
        linkAll (first + before.length) after u = .ok () t := by
  induction before generalizing first s with
  | nil =>
    have here : first + (([] : List Action).length : Int) = first := by simp
    rw [here]
    constructor
    · exact fun run => ⟨s, rfl, run⟩
    · rintro ⟨u, start, run⟩
      obtain ⟨-, rfl⟩ := Build.pure_eq_ok.1 start
      exact run
  | cons a before ih =>
    have place : first + ((a :: before).length : Int) = first + 1 + before.length := by
      rw [List.length_cons]
      omega
    rw [List.cons_append, linkAll_cons, linkAll_cons, place]
    simp only [Build.bind_eq_ok, ih]
    constructor
    · rintro ⟨_, v, turn, u, run, rest⟩
      exact ⟨u, ⟨_, v, turn, run⟩, rest⟩
    · rintro ⟨u, ⟨_, v, turn, run⟩, rest⟩
      exact ⟨_, v, turn, u, run, rest⟩

theorem linkNode_eq_ok {u v : Session} (h : Build.linkNode i u = .ok () v) :
    u.graph.link i = .ok v.graph := by
  simp only [Build.linkNode, Build.bind_eq_ok, Build.get_eq_ok, Build.ofExcept_eq_ok,
    Build.modify_eq_ok] at h
  obtain ⟨_, _, ⟨rfl, rfl⟩, graph, _, ⟨linked, rfl⟩, rfl⟩ := h
  exact linked

section Turns

variable {g : Graph} {before after : List Action} {a : Action} {u v : Session}

/-- One action keeps the account, whatever it stands for. -/
theorem link_accounted {number} (numberable : g.Numberable (nodesOf (before ++ a :: after)))
    (account : g.Accounted (nodesOf (before ++ a :: after)) u.graph (nodesOf before)
      (g.targets (nodesOf (a :: after))))
    (run : a.link number u = .ok () v) :
    g.Accounted (nodesOf (before ++ a :: after)) v.graph (nodesOf (before ++ [a]))
      (g.targets (nodesOf after)) ∧
    match a.node? with
    | some i => g.Turn u.graph v.graph (nodesOf before) i (nodesOf after)
    | none => u.SameNodes v := by
  simp only [nodesOf, List.filterMap_append] at numberable account ⊢
  cases turn : a.node? with
  | some i =>
    simp only [List.filterMap_cons, turn, List.filterMap_nil] at numberable account ⊢
    rw [link_node turn] at run
    exact account.turn numberable (linkNode_eq_ok run)
  | none =>
    simp only [List.filterMap_cons, turn, List.filterMap_nil, List.append_nil] at account ⊢
    have still := ((link_fixed number turn).of_ok run).1.toSameNodes
    exact ⟨account.congr still.nodes still.freeIds, still⟩

/-- So do all actions up to any place. -/
theorem linkAll_accounted {actions}
    (numberable : s.graph.Numberable (nodesOf actions)) (split : actions = before ++ after)
    (run : linkAll first before s = .ok () u) :
    s.graph.Accounted (nodesOf actions) u.graph (nodesOf before)
      (s.graph.targets (nodesOf after)) := by
  induction before using List.reverseRecOn generalizing after u with
  | nil =>
    obtain ⟨-, rfl⟩ := Build.pure_eq_ok.1 run
    subst split
    exact .start numberable
  | append_singleton before a ih =>
    obtain ⟨w, earlier, last⟩ := linkAll_append_eq_ok.1 run
    rw [List.append_assoc, List.singleton_append] at split
    have account := ih split earlier
    rw [linkAll_cons] at last
    obtain ⟨_, v, turn, rest⟩ := Build.bind_eq_ok.1 last
    obtain ⟨-, rfl⟩ := Build.pure_eq_ok.1 rest
    subst split
    exact (link_accounted numberable account turn).1

end Turns

/-- When actions are linked in an order in which each node refers to earlier ones, no number is in
use twice: the turn of each node gives it a number that no node has to which a later one refers, and
the numbers that are free again at the end are all numbers. A number that is taken away comes back
in one turn, once, and one that is borrowed does not. -/
theorem linkAll_shares_no_id {first : Int} {actions : List Action} {s t : Session}
    (numberable : s.graph.Numberable (nodesOf actions))
    (run : linkAll first actions s = .ok () t) :
    t.graph.freeIds.toList.Perm (List.range 0x100) ∧
    ∀ before a after, actions = before ++ a :: after → ∃ u v,
      linkAll first before s = .ok () u ∧ a.link (first + before.length) u = .ok () v ∧
      linkAll (first + before.length + 1) after v = .ok () t ∧
      match a.node? with
      | some i =>
        s.graph.Turn u.graph v.graph (nodesOf before) i (nodesOf after) ∧
        (s.graph.freedInTurns (nodesOf actions)).count i =
          if i ∈ s.graph.targets (nodesOf after) then 1 else 0
      | none => u.SameNodes v := by
  refine ⟨?_, fun before a after split => ?_⟩
  · have account := linkAll_accounted numberable (List.append_nil actions).symm run
    have all := account.ids
    simp only [nodesOf, List.filterMap_nil, Graph.targets, List.flatMap_nil, List.not_mem_nil,
      decide_false, List.filter_false, List.map_nil, List.append_nil] at all
    exact (List.map_perm_map_iff fun _ _ => Option.some.inj).1 all
  · subst split
    obtain ⟨u, earlier, rest⟩ := linkAll_append_eq_ok.1 run
    rw [linkAll_cons] at rest
    obtain ⟨_, v, turn, later⟩ := Build.bind_eq_ok.1 rest
    have account := linkAll_accounted numberable rfl earlier
    have result := (link_accounted numberable account turn).2
    refine ⟨u, v, earlier, turn, later, ?_⟩
    cases node : a.node? with
    | none =>
      rw [node] at result
      exact result
    | some i =>
      rw [node] at result
      refine ⟨result, ?_⟩
      simp only [nodesOf, List.filterMap_append, List.filterMap_cons, node] at numberable ⊢
      exact Graph.count_freedInTurns numberable

/-- A set of sprites that a node and an item refer to, the node twice, and a node to which nothing
refers. -/
def sharedGraph : Graph :=
  let node (body : NodeBody) (references : List Reference) (refCount : Nat) : Node :=
    { feature := 0, name := "", pos := none, body, references, refCount }
  { nodes := #[node (.sets [0] [0]) [] 3, node (.chain {}) [⟨0, true⟩, ⟨0, false⟩] 1,
      node (.chain {}) [] 0, node (.item { id := 0 }) [⟨1, false⟩, ⟨0, false⟩] 0]
    freeIds := (List.range 0x100).toArray }

theorem sharedGraph_numberable : sharedGraph.Numberable [0, 1, 2, 3] where
  nodup := by decide
  inside := by decide
  earlier := Graph.earlier_of_places (by decide)
  noItem := by decide
  counted := by decide
  free := by simp [sharedGraph]

theorem borrowed_id_is_not_in_use :
    ∃ u v, linkAll 0 [.node 0, .node 1, .label 5] { graph := sharedGraph } = .ok () u ∧
      (Action.node 2).link 3 u = .ok () v ∧ sharedGraph.Turn u.graph v.graph [0, 1] 2 [3] ∧
      [0, 1, 2].map (fun i => (v.graph.node i).id) = [some 255, some 254, some 0] := by
  have evaluated : (match linkAll 0 [.node 0, .node 1, .label 5, .node 2, .graphics 3]
      { graph := sharedGraph } with
      | .ok _ _ => true
      | .error _ _ => false) = true := by decide +kernel
  have ids : (match linkAll 0 ([.node 0, .node 1, .label 5] ++ [.node 2])
      { graph := sharedGraph } with
      | .ok _ v => [0, 1, 2].map fun i => (v.graph.node i).id
      | .error _ _ => []) = [some 255, some 254, some 0] := by decide +kernel
  obtain ⟨t, run⟩ : ∃ t, linkAll 0 [.node 0, .node 1, .label 5, .node 2, .graphics 3]
      { graph := sharedGraph } = .ok () t := by
    split at evaluated
    · next t run => exact ⟨t, run⟩
    · cases evaluated
  obtain ⟨-, turns⟩ := linkAll_shares_no_id sharedGraph_numberable run
  obtain ⟨u, v, earlier, turn, -, result, -⟩ :=
    turns [.node 0, .node 1, .label 5] (.node 2) [.graphics 3] rfl
  refine ⟨u, v, earlier, turn, result, ?_⟩
  have both : linkAll 0 ([.node 0, .node 1, .label 5] ++ [.node 2]) { graph := sharedGraph } =
      .ok () v := by
    refine linkAll_append_eq_ok.2 ⟨u, earlier, ?_⟩
    rw [linkAll_cons]
    exact Build.bind_eq_ok.2 ⟨(), v, turn, rfl⟩
  simp only [both] at ids
  exact ids

end Action

end NewGrf

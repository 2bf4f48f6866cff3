import NewGrf.FileInfo.Node

open List

namespace NewGrf.InfoNode

mutual

/-- The values and texts of a tree, each with the keys of the branches that it stands below. -/
def leaves : InfoNode → List (List InfoKey × InfoNode)
  | branch key nodes => (leavesOfAll nodes).map fun (path, leaf) => (key :: path, leaf)
  | n => [([], n)]

def leavesOfAll : List InfoNode → List (List InfoKey × InfoNode)
  | [] => []
  | n :: ns => n.leaves ++ leavesOfAll ns

end

mutual

/-- No branch is empty. -/
def Filled : InfoNode → Prop
  | branch _ nodes => nodes ≠ [] ∧ AllFilled nodes
  | _ => True

def AllFilled : List InfoNode → Prop
  | [] => True
  | n :: ns => n.Filled ∧ AllFilled ns

end

/-- Each value and text has room below the branches that it stands below: a branch takes six bytes
besides what it holds. -/
def Fits (room : Int) (leaves : List (List InfoKey × InfoNode)) : Prop :=
  ∀ x ∈ leaves, (x.2.size + 6 * x.1.length : Int) ≤ room

theorem leavesOfAll_eq (ns : List InfoNode) : leavesOfAll ns = ns.flatMap leaves := by
  induction ns with
  | nil => rfl
  | cons n ns ih => rw [leavesOfAll, ih, flatMap_cons]

theorem allFilled_iff {ns : List InfoNode} : AllFilled ns ↔ ∀ n ∈ ns, n.Filled := by
  induction ns with
  | nil => simp [AllFilled]
  | cons n ns ih => rw [AllFilled, ih, forall_mem_cons]

theorem leaves_branch (key : InfoKey) (nodes : List InfoNode) :
    (branch key nodes).leaves =
      (nodes.flatMap leaves).map fun (path, leaf) => (key :: path, leaf) := by
  rw [leaves, leavesOfAll_eq]

theorem filled_branch {key : InfoKey} {nodes : List InfoNode} :
    (branch key nodes).Filled ↔ nodes ≠ [] ∧ ∀ n ∈ nodes, n.Filled := by
  rw [Filled, allFilled_iff]

theorem Fits.of_branch {room : Int} {key : InfoKey} {nodes : List InfoNode}
    (fits : Fits room (branch key nodes).leaves) : ∀ n ∈ nodes, Fits (room - 6) n.leaves := by
  intro n mem x inside
  have := fits (key :: x.1, x.2) (by
    rw [leaves_branch]
    exact mem_map.2 ⟨x, mem_flatMap.2 ⟨n, mem, inside⟩, rfl⟩)
  simp only [length_cons] at this
  omega

/-- What a cut of a node gives. -/
structure Cut (n : InfoNode) (room : Int) (fit rest : Option InfoNode) : Prop where
  /-- Nothing is lost, and the order stays. -/
  leaves : (fit.toList ++ rest.toList).flatMap leaves = n.leaves
  size : ∀ f ∈ fit, (f.size : Int) ≤ room
  filled : ∀ r ∈ rest, r.Filled
  whole : rest = none → fit = some n
  /-- The first value or text is cut off, if it has room. -/
  begins : Fits room n.leaves → fit ≠ none

/-- What a cut of nodes in a row gives. -/
structure CutAll (ns : List InfoNode) (room : Int) (fit rest : List InfoNode) : Prop where
  leaves : (fit ++ rest).flatMap InfoNode.leaves = ns.flatMap InfoNode.leaves
  size : fit ≠ [] → (sizeOfAll fit : Int) ≤ room
  filled : ∀ r ∈ rest, r.Filled
  whole : rest = [] → fit = ns
  begins : ∀ n ∈ ns.head?, Fits room n.leaves → fit ≠ []

theorem Cut.of_leaf {n : InfoNode} {room : Int} (leaf : n.leaves = [([], n)])
    (filled : n.Filled) (large : ¬ (n.size : Int) ≤ room) : Cut n room none (some n) where
  leaves := by simp
  size := by simp
  filled := by simpa using filled
  whole := by simp
  begins fits := absurd (by simpa using fits ([], n) (by simp [leaf])) large

/-- The nodes of a branch are cut in the room that the branch leaves them. A branch that is too
large does not hold all its nodes then. -/
theorem Cut.of_branch {key : InfoKey} {nodes fit rest : List InfoNode} {room : Int}
    (nonempty : nodes ≠ []) (large : ¬ ((branch key nodes).size : Int) ≤ room)
    (cut : CutAll nodes (room - 6) fit rest) : rest ≠ [] ∧
      Cut (branch key nodes) room (if fit.isEmpty then none else some (branch key fit))
        (some (branch key rest)) := by
  have left : rest ≠ [] := by
    intro none
    obtain rfl := cut.whole none
    have := cut.size nonempty
    simp only [InfoNode.size] at large
    omega
  refine ⟨left, ?_, ?_, ?_, by simp, fun fits => ?_⟩
  · rw [leaves_branch, ← cut.leaves]
    cases fit with
    | nil => simp [leaves_branch]
    | cons f fs => simp [leaves_branch]
  · cases fit with
    | nil => simp
    | cons f fs =>
      have := cut.size (cons_ne_nil f fs)
      simp only [isEmpty_cons, Bool.false_eq_true, if_false, Option.mem_some_iff, forall_eq',
        InfoNode.size]
      omega
  · simpa [filled_branch] using ⟨left, cut.filled⟩
  · obtain ⟨n, ns, rfl⟩ := exists_cons_of_ne_nil nonempty
    have := cut.begins n (by simp) (fits.of_branch n mem_cons_self)
    simpa using this

section Row

variable {n f r : InfoNode} {ns fit rest : List InfoNode} {room : Int}

/-- Once a node is cut, the nodes behind it are left as they are. -/
theorem CutAll.of_cut {fit : Option InfoNode} (filled : ∀ m ∈ ns, m.Filled)
    (cut : Cut n room fit (some r)) : CutAll (n :: ns) room fit.toList (r :: ns) where
  leaves := by
    rw [flatMap_cons, ← cut.leaves]
    simp
  size _ := by
    cases fit with
    | none => contradiction
    | some f => simpa [sizeOfAll] using cut.size f rfl
  filled := forall_mem_cons.2 ⟨cut.filled r rfl, filled⟩
  whole := by simp
  begins := by
    intro m first fits
    obtain rfl : n = m := by simpa using first
    have := cut.begins fits
    cases fit with
    | none => contradiction
    | some f => simp

theorem CutAll.of_whole (first : Cut n room (some f) none)
    (cut : CutAll ns (room - f.size) fit rest) : CutAll (n :: ns) room (f :: fit) rest := by
  obtain rfl : f = n := Option.some.inj (first.whole rfl)
  refine ⟨?_, fun _ => ?_, cut.filled, fun none => by rw [cut.whole none], by simp⟩
  · rw [cons_append, flatMap_cons, cut.leaves, flatMap_cons]
  · have own := first.size f rfl
    by_cases none : fit = []
    · simpa [none, sizeOfAll] using own
    · have := cut.size none
      simp only [sizeOfAll]
      omega

end Row

mutual

/-- A tree without empty branches is cut, however little room there is. -/
theorem split_cut : ∀ (n : InfoNode) (room : Int), n.Filled →
    ∃ fit rest, n.split room = some (fit, rest) ∧ Cut n room fit rest
  | n, room, filled => by
    unfold split
    by_cases small : (n.size : Int) ≤ room
    · rw [if_pos small]
      exact ⟨_, _, rfl, by simp, by simpa using small, by simp, fun _ => rfl, by simp⟩
    · rw [if_neg small]
      cases n with
      | branch key nodes =>
        obtain ⟨nonempty, inner⟩ := filled_branch.1 filled
        obtain ⟨fit, rest, isCut, cut⟩ := splitAll_cut nodes (room - 6) inner
        obtain ⟨left, cut⟩ := Cut.of_branch nonempty small cut
        dsimp only
        rw [isCut]
        exact ⟨_, _, if_neg (by simpa using left), cut⟩
      | _ => exact ⟨_, _, rfl, .of_leaf rfl filled small⟩

theorem splitAll_cut : ∀ (ns : List InfoNode) (room : Int), (∀ n ∈ ns, n.Filled) →
    ∃ fit rest, splitAll ns room = some (fit, rest) ∧ CutAll ns room fit rest
  | [], _, _ => ⟨[], [], rfl, rfl, by simp, by simp, fun _ => rfl, by simp⟩
  | n :: ns, room, filled => by
    rw [forall_mem_cons] at filled
    obtain ⟨fit, rest, isCut, cut⟩ := split_cut n room filled.1
    unfold splitAll
    rw [isCut]
    cases rest with
    | some r => exact ⟨_, _, rfl, .of_cut filled.2 cut⟩
    | none =>
      obtain rfl := cut.whole rfl
      obtain ⟨more, rest, isCutRest, cutRest⟩ := splitAll_cut ns (room - n.size) filled.2
      dsimp only
      rw [isCutRest]
      exact ⟨_, _, rfl, .of_whole cut cutRest⟩

end

theorem cut_of_split_whole {n fit : InfoNode} {room : Int}
    (h : n.split room = some (some fit, none)) : n.cut room = some [fit] := by
  rw [cut]
  split <;> simp_all

theorem cut_of_split {n fit rest : InfoNode} {room : Int}
    (h : n.split room = some (some fit, some rest)) :
    n.cut room = (rest.cut room).map (fit :: ·) := by
  rw [cut]
  split <;> simp_all

/-- The induction follows the cuts: each of them leaves fewer nodes. -/
theorem cut_leaves {n : InfoNode} {room : Int} (filled : n.Filled) (fits : Fits room n.leaves) :
    ∃ ts, n.cut room = some ts ∧ (∀ t ∈ ts, (t.size : Int) ≤ room) ∧
      ts.flatMap leaves = n.leaves := by
  obtain ⟨fit, rest, isCut, cut⟩ := split_cut n room filled
  obtain ⟨f, rfl⟩ := Option.ne_none_iff_exists'.1 (cut.begins fits)
  have small := cut.size f rfl
  cases rest with
  | none =>
    refine ⟨[f], cut_of_split_whole isCut, by simpa using small, ?_⟩
    simpa using cut.leaves
  | some r =>
    have fewer : r.count < n.count := (count_of_split n room isCut).2 rfl
    have all : f.leaves ++ r.leaves = n.leaves := by simpa using cut.leaves
    have fitsRest : Fits room r.leaves := fun x mem =>
      fits x (all ▸ mem_append_right _ mem)
    obtain ⟨ts, isCutRest, sizes, leaves⟩ := cut_leaves (cut.filled r rfl) fitsRest
    refine ⟨f :: ts, by rw [cut_of_split isCut, isCutRest]; rfl, ?_, ?_⟩
    · exact forall_mem_cons.2 ⟨small, sizes⟩
    · rw [flatMap_cons, leaves, all]
termination_by n.count

/-- A tree is cut into trees that an action has room for, without a loss: they hold the values and
texts of the tree in order, each below the branches that it stood below. -/
theorem trees_hold_all_leaves {n : InfoNode} (filled : n.Filled)
    (fits : ∀ x ∈ n.leaves, x.2.size + 6 * x.1.length ≤ 65535) :
    ∃ ts, n.trees = some ts ∧ (∀ t ∈ ts, t.size ≤ 65535) ∧ ts.flatMap leaves = n.leaves := by
  have room : Fits actionRoom n.leaves := fun x mem => by
    have := fits x mem
    rw [actionRoom]
    omega
  obtain ⟨ts, isCut, sizes, leaves⟩ := cut_leaves filled room
  refine ⟨ts, isCut, fun t mem => ?_, leaves⟩
  have := sizes t mem
  rw [actionRoom] at this
  omega

/-- A tree of more than one action, with branches that are cut in the middle. -/
def largeTree : InfoNode :=
  .branch (.name "INFO") [.value (.name "VRSN") 4 7,
    .branch (.name "PARA")
      [.branch (.number 0) [.value (.name "NAME") 40000 1, .value (.name "DESC") 40000 2],
        .branch (.number 1) [.value (.name "MASK") 50000 3, .limits 0 9]]]

theorem large_tree_is_cut : 65535 < largeTree.size ∧ largeTree.Filled ∧
    (∀ x ∈ largeTree.leaves, x.2.size + 6 * x.1.length ≤ 65535) ∧
    ∃ ts, largeTree.trees = some ts ∧ (∀ t ∈ ts, t.size ≤ 65535) ∧
      ts.flatMap leaves = largeTree.leaves := by
  have filled : largeTree.Filled := by simp [largeTree, Filled, AllFilled]
  have fits : ∀ x ∈ largeTree.leaves, x.2.size + 6 * x.1.length ≤ 65535 := by
    simp [largeTree, leaves, leavesOfAll, size]
  exact ⟨by simp [largeTree, size, sizeOfAll], filled, fits, trees_hold_all_leaves filled fits⟩

end NewGrf.InfoNode

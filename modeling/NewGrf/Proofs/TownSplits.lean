import Mathlib.Algebra.Order.BigOperators.Group.List
import Mathlib.Algebra.Order.Ring.Nat
import Mathlib.Data.List.Nodup
import Mathlib.Data.Prod.Lex
import NewGrf.Proofs.Build
import NewGrf.Town.Prepare

open List

namespace NewGrf

namespace Heap

variable {α β : Type} [LinearOrder β] {before : α → α → Bool} {key : α → β} {h : Array α}
  {i j k : Nat}

theorem getElem?_swapIfInBounds (hi : i < h.size) (hj : j < h.size) :
    (h.swapIfInBounds i j)[k]? = if j = k then h[i]? else if i = k then h[j]? else h[k]? := by
  rw [Array.swapIfInBounds_def, dif_pos hi, dif_pos hj, Array.getElem?_swap,
    Array.getElem?_eq_getElem hi, Array.getElem?_eq_getElem hj]

theorem swapIfInBounds_perm (h : Array α) (i j : Nat) :
    (h.swapIfInBounds i j).toList ~ h.toList := by
  rw [Array.swapIfInBounds_def]
  split
  · split
    · exact Array.perm_iff_toList_perm.1 (Array.swap_perm _ _)
    · exact .refl _
  · exact .refl _

/-- What one step of a rise does: it stops, or the entry changes places with its parent. -/
theorem rise_cases (before : α → α → Bool) (h : Array α) (i : Nat) :
    (rise before h i = h ∧ (0 < i → ∀ x p, h[i]? = some x → h[(i - 1) / 2]? = some p →
      before x p = false)) ∨
    ∃ x p, 0 < i ∧ h[i]? = some x ∧ h[(i - 1) / 2]? = some p ∧ before x p = true ∧
      rise before h i = rise before (h.swapIfInBounds i ((i - 1) / 2)) ((i - 1) / 2) := by
  rw [rise]
  split
  · next zero => exact .inl ⟨rfl, fun up => absurd zero (by omega)⟩
  · next other =>
    dsimp only
    split
    · next x p found above =>
      split
      · next first => exact .inr ⟨x, p, by omega, found, above, first, rfl⟩
      · next first =>
        refine .inl ⟨rfl, fun _ y q found' above' => ?_⟩
        rw [found, Option.some.injEq] at found'
        rw [above, Option.some.injEq] at above'
        exact found' ▸ above' ▸ Bool.eq_false_of_not_eq_true first
    · next missing => exact .inl ⟨rfl, fun _ x p found above => (missing x p found above).elim⟩

theorem rise_perm (before : α → α → Bool) (h : Array α) (i : Nat) :
    (rise before h i).toList ~ h.toList := by
  induction i using Nat.strongRecOn generalizing h with
  | ind i ih =>
    obtain ⟨stays, -⟩ | ⟨x, p, up, -, -, -, goes⟩ := rise_cases before h i
    · rw [stays]
    · rw [goes]
      exact (ih _ (by omega) _).trans (swapIfInBounds_perm _ _ _)

/-- The child of an entry that a sinking entry goes to. -/
def smaller (before : α → α → Bool) (h : Array α) (i : Nat) : Nat :=
  if goesRight before h i then 2 * i + 2 else 2 * i + 1

theorem smaller_child (before : α → α → Bool) (h : Array α) (i : Nat) :
    smaller before h i = 2 * i + 1 ∨ smaller before h i = 2 * i + 2 := by
  unfold smaller
  split
  · exact .inr rfl
  · exact .inl rfl

theorem sink_of_lt (inside : smaller before h i < h.size) : sink before h i =
    sink before (h.swapIfInBounds i (smaller before h i)) (smaller before h i) := by
  rw [sink]
  exact if_pos inside

theorem sink_of_le (outside : h.size ≤ smaller before h i) : sink before h i = (h, i) := by
  rw [sink]
  exact if_neg (Nat.not_lt.2 outside)

theorem sink_perm (before : α → α → Bool) (h : Array α) (i : Nat) :
    (sink before h i).1.toList ~ h.toList := by
  by_cases inside : smaller before h i < h.size
  · rw [sink_of_lt inside]
    exact (sink_perm before _ _).trans (swapIfInBounds_perm _ _ _)
  · rw [sink_of_le (Nat.not_lt.1 inside)]
termination_by h.size - i
decreasing_by
  have := smaller_child before h i
  rw [Array.size_swapIfInBounds]
  omega

theorem push_perm (before : α → α → Bool) (h : Array α) (x : α) :
    (push before h x).toList ~ x :: h.toList := by
  refine (rise_perm before _ _).trans ?_
  rw [Array.toList_push]
  exact perm_append_singleton x h.toList

/-- The entry at a position is not greater than that at another one. -/
def InOrder (key : α → β) (h : Array α) (i j : Nat) : Prop :=
  ∀ x ∈ h[i]?, ∀ y ∈ h[j]?, key x ≤ key y

def Ordered (key : α → β) (h : Array α) : Prop := ∀ j, 0 < j → InOrder key h ((j - 1) / 2) j

/-- All is in order but for one entry, which may have to go up. -/
structure Rising (key : α → β) (h : Array α) (i : Nat) : Prop where
  others : ∀ j, 0 < j → j ≠ i → InOrder key h ((j - 1) / 2) j
  around : 0 < i → ∀ j, 0 < j → (j - 1) / 2 = i → InOrder key h ((i - 1) / 2) j

/-- All is in order but for one entry, which may have to go down. -/
structure Sinking (key : α → β) (h : Array α) (i : Nat) : Prop where
  others : ∀ j, 0 < j → j ≠ i → (j - 1) / 2 ≠ i → InOrder key h ((j - 1) / 2) j
  around : 0 < i → ∀ j, 0 < j → (j - 1) / 2 = i → InOrder key h ((i - 1) / 2) j

theorem Rising.swap (r : Rising key h i) {x p : α} (up : 0 < i) (found : h[i]? = some x)
    (above : h[(i - 1) / 2]? = some p) (first : key x < key p) :
    Rising key (h.swapIfInBounds i ((i - 1) / 2)) ((i - 1) / 2) := by
  have inside : i < h.size := (Array.getElem?_eq_some_iff.1 found).1
  have places : ∀ k, (h.swapIfInBounds i ((i - 1) / 2))[k]? =
      if (i - 1) / 2 = k then some x else if i = k then some p else h[k]? := by
    intro k
    rw [getElem?_swapIfInBounds inside (by omega), found, above]
  constructor
  · intro j positive other a ha b hb
    rw [places] at ha hb
    rw [if_neg (Ne.symm other)] at hb
    by_cases same : i = j
    · subst same
      simp only [if_true, Option.mem_some_iff] at ha hb
      exact ha ▸ hb ▸ first.le
    · rw [if_neg same] at hb
      by_cases sibling : (i - 1) / 2 = (j - 1) / 2
      · rw [if_pos sibling, Option.mem_some_iff] at ha
        have := r.others j positive (Ne.symm same) p (sibling ▸ above) b hb
        exact ha ▸ first.le.trans this
      · rw [if_neg sibling] at ha
        by_cases child : i = (j - 1) / 2
        · rw [if_pos child, Option.mem_some_iff] at ha
          exact r.around up j positive child.symm a (ha ▸ above) b hb
        · rw [if_neg child] at ha
          exact r.others j positive (Ne.symm same) a ha b hb
  · intro higher j positive child a ha b hb
    rw [places, if_neg (by omega), if_neg (by omega)] at ha
    have over_p := r.others ((i - 1) / 2) higher (by omega) a ha p above
    rw [places, if_neg (by omega)] at hb
    by_cases same : i = j
    · rw [if_pos same, Option.mem_some_iff] at hb
      exact hb ▸ over_p
    · rw [if_neg same] at hb
      exact over_p.trans (r.others j positive (Ne.symm same) p (child ▸ above) b hb)

theorem Rising.ordered (r : Rising key h i)
    (stays : 0 < i → InOrder key h ((i - 1) / 2) i) : Ordered key h := by
  intro j positive
  by_cases same : j = i
  · exact same ▸ stays (same ▸ positive)
  · exact r.others j positive same

section

variable (keys : ∀ x y, before x y = true ↔ key x < key y)
include keys

theorem Rising.rise (r : Rising key h i) : Ordered key (rise before h i) := by
  induction i using Nat.strongRecOn generalizing h with
  | ind i ih =>
    obtain ⟨stays, last⟩ | ⟨x, p, up, found, above, first, goes⟩ := rise_cases before h i
    · rw [stays]
      refine r.ordered fun up a ha b hb => le_of_not_gt fun lt => ?_
      have := (keys b a).2 lt
      simp [last up b a hb ha] at this
    · rw [goes]
      exact ih _ (by omega) (r.swap up found above ((keys x p).1 first))

theorem smaller_inOrder (child : (j - 1) / 2 = i) (positive : 0 < j) :
    InOrder key h (smaller before h i) j := by
  have two : j = 2 * i + 1 ∨ j = 2 * i + 2 := by omega
  intro a ha b hb
  unfold smaller goesRight at ha
  split at ha
  · next l r left right =>
    by_cases first : before l r = true
    · simp only [first, Bool.not_true, Bool.false_eq_true, if_false, left,
        Option.mem_some_iff] at ha
      obtain rfl | rfl := two
      · rw [left, Option.mem_some_iff] at hb
        exact ha ▸ hb ▸ le_rfl
      · rw [right, Option.mem_some_iff] at hb
        exact ha ▸ hb ▸ ((keys l r).1 first).le
    · rw [Bool.not_eq_true] at first
      simp only [first, Bool.not_false, if_true, right, Option.mem_some_iff] at ha
      have le : key r ≤ key l := le_of_not_gt fun lt => by simp [(keys l r).2 lt] at first
      obtain rfl | rfl := two
      · rw [left, Option.mem_some_iff] at hb
        exact ha ▸ hb ▸ le
      · rw [right, Option.mem_some_iff] at hb
        exact ha ▸ hb ▸ le_rfl
  · next missing =>
    simp only [Bool.false_eq_true, if_false] at ha
    obtain rfl | rfl := two
    · rw [Option.mem_unique ha hb]
    · exact (missing a b ha hb).elim

omit keys in
/-- An entry that cannot sink has no children. -/
theorem leaf_of_le (outside : h.size ≤ smaller before h i) (child : (j - 1) / 2 = i)
    (positive : 0 < j) : h[j]? = none := by
  have first : h.size ≤ 2 * i + 1 := by
    by_contra more
    unfold smaller goesRight at outside
    split at outside
    · next right =>
      have := (Array.getElem?_eq_some_iff.1 right).1
      split at outside <;> omega
    · simp only [Bool.false_eq_true, if_false] at outside
      omega
  exact Array.getElem?_eq_none (by omega)

theorem Sinking.swap (r : Sinking key h i) (inside : smaller before h i < h.size) :
    Sinking key (h.swapIfInBounds i (smaller before h i)) (smaller before h i) := by
  have below := smaller_child before h i
  have places : ∀ k, (h.swapIfInBounds i (smaller before h i))[k]? =
      if smaller before h i = k then h[i]? else if i = k then h[smaller before h i]? else h[k]? :=
    fun k => getElem?_swapIfInBounds (by omega) inside
  constructor
  · intro j positive other apart a ha b hb
    rw [places, if_neg (Ne.symm other)] at hb
    rw [places, if_neg (Ne.symm apart)] at ha
    by_cases same : i = j
    · subst same
      rw [if_pos rfl] at hb
      rw [if_neg (by omega)] at ha
      exact r.around positive _ (by omega) (by omega) a ha b hb
    · rw [if_neg same] at hb
      by_cases sibling : i = (j - 1) / 2
      · rw [if_pos sibling] at ha
        exact smaller_inOrder keys sibling.symm positive a ha b hb
      · rw [if_neg sibling] at ha
        exact r.others j positive (Ne.symm same) (Ne.symm sibling) a ha b hb
  · intro _ j positive under a ha b hb
    rw [places, if_neg (by omega), if_neg (by omega)] at hb
    rw [places, if_neg (by omega), if_pos (by omega)] at ha
    exact r.others j positive (by omega) (by omega) a (under ▸ ha) b hb

theorem Sinking.sink {h : Array α} {i : Nat} (r : Sinking key h i) :
    Rising key (sink before h i).1 (sink before h i).2 := by
  by_cases inside : smaller before h i < h.size
  · rw [sink_of_lt inside]
    exact Sinking.sink (r.swap keys inside)
  · rw [Nat.not_lt] at inside
    rw [sink_of_le inside]
    constructor
    · intro j positive other
      by_cases under : (j - 1) / 2 = i
      · intro a _ b hb
        simp [leaf_of_le inside under positive] at hb
      · exact r.others j positive other under
    · intro _ j positive under a _ b hb
      simp [leaf_of_le inside under positive] at hb
termination_by h.size - i
decreasing_by
  have := smaller_child before h i
  rw [Array.size_swapIfInBounds]
  omega

theorem push_ordered (ordered : Ordered key h) (x : α) : Ordered key (push before h x) := by
  refine Rising.rise keys
    ⟨fun j positive other a ha b hb => ?_, fun _ j positive under a ha b hb => ?_⟩
  · rw [Array.getElem?_push, if_neg other] at hb
    have inside : j < h.size := (Array.getElem?_eq_some_iff.1 hb).1
    rw [Array.getElem?_push, if_neg (by omega)] at ha
    exact ordered j positive a ha b hb
  · rw [Array.getElem?_push, if_neg (by omega), Array.getElem?_eq_none (by omega)] at hb
    cases hb

omit keys in
theorem Ordered.root (ordered : Ordered key h) {x : α} (root : h[0]? = some x) :
    ∀ y ∈ h.toList, key x ≤ key y := by
  have from_root : ∀ (j : Nat) (y : α), h[j]? = some y → key x ≤ key y := by
    intro j
    induction j using Nat.strongRecOn with
    | ind j ih =>
      intro y found
      obtain rfl | positive := Nat.eq_zero_or_pos j
      · rw [Option.some.inj (root.symm.trans found)]
      · have inside := (Array.getElem?_eq_some_iff.1 found).1
        have above := Array.getElem?_eq_getElem (show (j - 1) / 2 < h.size by omega)
        exact (ih _ (by omega) _ above).trans (ordered j positive _ above _ found)
  intro y inside
  obtain ⟨j, found⟩ := mem_iff_getElem?.1 inside
  exact from_root j y (by rw [← found, Array.getElem?_toList])

theorem foldl_push {ι : Type} (f : ι → α) (is : List ι) (ordered : Ordered key h) :
    Ordered key (is.foldl (fun h i => push before h (f i)) h) ∧
      (is.foldl (fun h i => push before h (f i)) h).toList ~ h.toList ++ is.map f := by
  induction is generalizing h with
  | nil => exact ⟨ordered, by simp⟩
  | cons i is ih =>
    obtain ⟨kept, perm⟩ := ih (push_ordered keys ordered (f i))
    refine ⟨kept, perm.trans ?_⟩
    refine ((push_perm before h (f i)).append_right _).trans ?_
    rw [map_cons, cons_append]
    exact perm_middle.symm

omit keys in
theorem pop?_eq_none : pop? before h = none ↔ h.toList = [] := by
  obtain ⟨xs⟩ := h
  cases xs with
  | nil => simp [pop?]
  | cons x xs =>
    simp only [pop?, List.getElem?_toArray, List.back?_toArray, getElem?_cons_zero,
      getLast?_cons, reduceCtorEq, iff_false]
    split <;> simp

omit keys in
theorem pop_perm {x y : α} (root : h[0]? = some x) (back : h.back? = some y) :
    if h.pop.isEmpty then h.toList = [x] else
      x :: (h.pop.setIfInBounds 0 y).toList ~ h.toList := by
  obtain ⟨xs⟩ := h
  cases xs with
  | nil => simp at root
  | cons a xs =>
    obtain rfl : a = x := by simpa using root
    obtain rfl | ⟨front, last, rfl⟩ := eq_nil_or_concat xs
    · simp
    · rw [concat_eq_append] at *
      obtain rfl : last = y := by simpa [getLast?_cons] using back
      have popped : (a :: (front ++ [last])).toArray.pop = (a :: front).toArray := by
        rw [← cons_append, List.pop_toArray, dropLast_concat]
      rw [popped, if_neg (by simp)]
      simp only [List.setIfInBounds_toArray, set_cons_zero]
      exact (perm_append_singleton last front).symm.cons a

omit keys in
/-- The last entry takes the place of the root, from where it may have to go down. -/
theorem Ordered.sinking (ordered : Ordered key h) (y : α) :
    Sinking key (h.pop.setIfInBounds 0 y) 0 := by
  refine ⟨?_, fun up => absurd up (lt_irrefl 0)⟩
  intro j positive other under a ha b hb
  rw [Array.getElem?_setIfInBounds, if_neg (Ne.symm other), Array.getElem?_pop] at hb
  rw [Array.getElem?_setIfInBounds, if_neg (Ne.symm under), Array.getElem?_pop] at ha
  split at hb
  · rw [if_pos (by omega)] at ha
    exact ordered j positive a ha b hb
  · cases hb

theorem pop?_eq_some (ordered : Ordered key h) {x : α} {rest : Array α}
    (popped : pop? before h = some (x, rest)) :
    x :: rest.toList ~ h.toList ∧ Ordered key rest ∧ ∀ y ∈ h.toList, key x ≤ key y := by
  unfold pop? at popped
  split at popped
  · next first last root back =>
    have parts := pop_perm root back
    dsimp only at popped
    split at popped
    · next empty =>
      rw [Option.some.injEq, Prod.mk.injEq] at popped
      obtain ⟨rfl, rfl⟩ := popped
      rw [Array.isEmpty_iff] at empty
      rw [if_pos (by simp [empty])] at parts
      refine ⟨by simp [empty, parts], ?_, ordered.root root⟩
      intro j _ a _ b hb
      simp [empty] at hb
    · next more =>
      rw [Option.some.injEq, Prod.mk.injEq] at popped
      obtain ⟨rfl, rfl⟩ := popped
      rw [if_neg more] at parts
      refine ⟨?_, ?_, ordered.root root⟩
      · exact (((rise_perm before _ _).trans (sink_perm before _ _)).cons _).trans parts
      · exact Rising.rise keys (Sinking.sink keys (ordered.sinking last))
  · cases popped

end

end Heap

namespace Town

variable {b : Bin} {bins others : List Bin} {done pieces : List Placed} {piece : Placed}
  {count n : Nat}

namespace Bin

/-- Blocks are ordered by their weights, then by their numbers. -/
def key (b : Bin) : Int ×ₗ Nat := toLex (b.weight, b.index)

theorem before_iff (a b : Bin) : Bin.before a b = true ↔ a.key < b.key := by
  simp [Bin.before, key, Prod.Lex.toLex_lt_toLex]

theorem weight_le {a b : Bin} (le : a.key ≤ b.key) : a.weight ≤ b.weight := by
  obtain lt | ⟨same, -⟩ := Prod.Lex.toLex_le_toLex.1 le
  · exact lt.le
  · exact same.le

def add (b : Bin) (piece : Placed) : Bin :=
  { b with weight := b.weight + piece.1.probability, pieces := b.pieces ++ [piece] }

end Bin

/-- A piece goes into a block with room, of which none is lighter. Blocks without room only change
their place. The heap does not run out of blocks before that: a piece would be lost then. -/
theorem putInto_adds (piece : Placed) {fuel : Nat} {heap : Array Bin} {full : List Bin}
    (ordered : Heap.Ordered Bin.key heap) (enough : heap.size < fuel)
    (filled : ∀ b ∈ full, maxPieces ≤ b.pieces.length)
    (room : ∃ b ∈ heap.toList, b.pieces.length < maxPieces) :
    ∃ b others, b.pieces.length < maxPieces ∧ heap.toList ++ full ~ b :: others ∧
      (∀ c ∈ others, c.pieces.length < maxPieces → b.weight ≤ c.weight) ∧
      (putInto piece fuel heap full).1.toList ++ (putInto piece fuel heap full).2 ~
        b.add piece :: others ∧
      Heap.Ordered Bin.key (putInto piece fuel heap full).1 ∧
      ∀ b ∈ (putInto piece fuel heap full).2, maxPieces ≤ b.pieces.length := by
  induction fuel generalizing heap full with
  | zero => omega
  | succ fuel ih =>
    rw [putInto]
    split
    case h_1 empty =>
      obtain ⟨b, inside, -⟩ := room
      simp [Heap.pop?_eq_none.1 empty] at inside
    case h_2 b rest popped =>
      obtain ⟨perm, next, least⟩ := Heap.pop?_eq_some Bin.before_iff ordered popped
      have whole : heap.toList ++ full ~ b :: (rest.toList ++ full) := perm.symm.append_right full
      split
      · next space =>
        refine ⟨b, rest.toList ++ full, space, whole, ?_, ?_, ?_, filled⟩
        · intro c inside short
          obtain inside | inside := mem_append.1 inside
          · exact Bin.weight_le (least c (perm.subset (mem_cons_of_mem _ inside)))
          · exact absurd (filled c inside) (Nat.not_le.2 short)
        · exact (Heap.push_perm Bin.before rest (b.add piece)).append_right full
        · exact Heap.push_ordered Bin.before_iff next (b.add piece)
      · next space =>
        have size := perm.length_eq
        simp only [length_cons, Array.length_toList] at size
        have filled' : ∀ c ∈ full ++ [b], maxPieces ≤ c.pieces.length := by
          intro c inside
          obtain inside | inside := mem_append.1 inside
          · exact filled c inside
          · exact mem_singleton.1 inside ▸ Nat.not_lt.1 space
        have room' : ∃ c ∈ rest.toList, c.pieces.length < maxPieces := by
          obtain ⟨c, inside, short⟩ := room
          obtain rfl | inside := mem_cons.1 (perm.symm.subset inside)
          · exact absurd short space
          · exact ⟨c, inside, short⟩
        obtain ⟨c, others, short, before, light, after⟩ := ih next (by omega) filled' room'
        have moved : b :: (rest.toList ++ full) ~ rest.toList ++ (full ++ [b]) := by
          rw [← append_assoc]
          exact (perm_append_singleton b _).symm
        exact ⟨c, others, short, whole.trans (moved.trans before), light, after⟩

def Bin.total (b : Bin) : Int := Number.intTotal (b.pieces.map (·.1.probability))

theorem intTotal_append (xs ys : List Int) :
    Number.intTotal (xs ++ ys) = Number.intTotal xs + Number.intTotal ys := by
  induction xs with
  | nil => simp [Number.intTotal]
  | cons x xs ih => simp only [cons_append, Number.intTotal, ih]; omega

theorem intTotal_pos {xs : List Int} (some : xs ≠ []) (positive : ∀ x ∈ xs, 0 < x) :
    0 < Number.intTotal xs := by
  induction xs with
  | nil => exact absurd rfl some
  | cons x xs ih =>
    have first := positive x mem_cons_self
    obtain rfl | more := eq_or_ne xs []
    · simpa [Number.intTotal] using first
    · have := ih more fun y inside => positive y (mem_cons_of_mem x inside)
      simp only [Number.intTotal]
      omega

/-- What the blocks hold when some pieces have been put into them. As long as there are fewer pieces
than blocks, each piece has a block of its own. -/
structure Spread (count : Nat) (done : List Placed) (bins : List Bin) : Prop where
  length : bins.length = count
  pieces : bins.flatMap Bin.pieces ~ done
  weights : ∀ b ∈ bins, b.weight = b.total
  short : ∀ b ∈ bins, b.pieces.length ≤ maxPieces
  vacant : bins.countP (·.pieces.isEmpty) = count - done.length

theorem Spread.perm (s : Spread count done bins) (same : bins ~ others) :
    Spread count done others where
  length := same.length_eq ▸ s.length
  pieces := (same.symm.flatMap_right _).trans s.pieces
  weights b inside := s.weights b (same.symm.subset inside)
  short b inside := s.short b (same.symm.subset inside)
  vacant := same.countP_eq _ ▸ s.vacant

/-- A block that is not empty has some weight. -/
theorem Spread.weight_pos (s : Spread count done bins) (positive : ∀ p ∈ done, 0 < p.1.probability)
    (inside : b ∈ bins) (filled : b.pieces ≠ []) : 0 < b.weight := by
  rw [s.weights b inside]
  refine intTotal_pos (by simpa using filled) ?_
  rw [forall_mem_map]
  exact fun p own => positive p (s.pieces.subset (mem_flatMap.2 ⟨b, inside, own⟩))

theorem Spread.weight_eq_zero (s : Spread count done bins) (inside : b ∈ bins)
    (empty : b.pieces = []) : b.weight = 0 := by
  rw [s.weights b inside, Bin.total, empty]
  rfl

theorem Spread.add (s : Spread count done (b :: others))
    (positive : ∀ p ∈ done, 0 < p.1.probability) (space : b.pieces.length < maxPieces)
    (light : ∀ c ∈ others, c.pieces.length < maxPieces → b.weight ≤ c.weight) (piece : Placed) :
    Spread count (done ++ [piece]) (b.add piece :: others) where
  length := s.length
  pieces := by
    have before := s.pieces
    simp only [flatMap_cons, Bin.add] at before ⊢
    rw [append_assoc]
    refine (perm_append_comm.append_left _).trans ?_
    rw [← append_assoc]
    exact before.append_right _
  weights c inside := by
    obtain rfl | inside := mem_cons.1 inside
    · have := s.weights b mem_cons_self
      simp only [Bin.total] at this
      simp only [Bin.total, Bin.add, map_append, map_cons, map_nil, intTotal_append, this,
        Number.intTotal]
      omega
    · exact s.weights c (mem_cons_of_mem _ inside)
  short c inside := by
    obtain rfl | inside := mem_cons.1 inside
    · simp only [Bin.add, length_append, length_singleton]
      omega
    · exact s.short c (mem_cons_of_mem _ inside)
  vacant := by
    have before := s.vacant
    simp only [countP_cons, length_append, length_singleton] at before ⊢
    rw [if_neg (by simp [Bin.add])]
    by_cases empty : b.pieces = []
    · rw [if_pos (by simp [empty])] at before
      omega
    · -- A block that is not empty has some weight, so there was no empty one.
      have heavy := s.weight_pos positive mem_cons_self empty
      have none : others.countP (·.pieces.isEmpty) = 0 := by
        rw [countP_eq_zero]
        intro c inside vacant
        rw [List.isEmpty_iff] at vacant
        have lighter := light c inside (by simp [vacant, maxPieces])
        have zero := s.weight_eq_zero (mem_cons_of_mem _ inside) vacant
        omega
      rw [if_neg (by simpa using empty)] at before
      omega

/-- There is room for a piece as long as not all blocks are full. -/
theorem Spread.room (s : Spread count done bins) (more : done.length < count * maxPieces) :
    ∃ b ∈ bins, b.pieces.length < maxPieces := by
  by_contra all
  have full : ∀ n ∈ bins.map (·.pieces.length), maxPieces ≤ n := by
    rw [forall_mem_map]
    exact fun b inside => Nat.not_lt.1 fun lt => all ⟨b, inside, lt⟩
  have least := card_nsmul_le_sum _ _ full
  rw [length_map, s.length, nsmul_eq_mul, Nat.cast_id, ← length_flatMap,
    s.pieces.length_eq] at least
  omega

/-- Blocks in the heap and blocks that are full, after some pieces. -/
structure Filling (count : Nat) (done : List Placed) (state : Array Bin × List Bin) : Prop where
  ordered : Heap.Ordered Bin.key state.1
  filled : ∀ b ∈ state.2, maxPieces ≤ b.pieces.length
  spread : Spread count done (state.1.toList ++ state.2)

theorem Filling.put {state : Array Bin × List Bin} (f : Filling count done state)
    (positive : ∀ p ∈ done, 0 < p.1.probability) (more : done.length < count * maxPieces)
    (piece : Placed) :
    Filling count (done ++ [piece]) (putInto piece (count + 1) state.1 state.2) := by
  obtain ⟨b, inside, short⟩ := f.spread.room more
  have room : ∃ b ∈ state.1.toList, b.pieces.length < maxPieces := by
    obtain inside | inside := mem_append.1 inside
    · exact ⟨b, inside, short⟩
    · exact absurd (f.filled b inside) (Nat.not_le.2 short)
  have size := f.spread.length
  rw [length_append, Array.length_toList] at size
  obtain ⟨b, others, space, before, light, after, ordered, filled⟩ :=
    putInto_adds piece f.ordered (show state.1.size < count + 1 by omega) f.filled room
  exact ⟨ordered, filled, ((f.spread.perm before).add positive space light piece).perm after.symm⟩

theorem Filling.putAll {state : Array Bin × List Bin} (f : Filling count done state)
    (positive : ∀ p ∈ done ++ pieces, 0 < p.1.probability)
    (enough : (done ++ pieces).length ≤ count * maxPieces) :
    Filling count (done ++ pieces)
      (pieces.foldl (fun state p => putInto p (count + 1) state.1 state.2) state) := by
  induction pieces generalizing done state with
  | nil => simpa using f
  | cons p ps ih =>
    have next := f.put (fun q inside => positive q (mem_append_left _ inside))
      (by simp only [length_append, length_cons] at enough; omega) p
    have rest := ih next (by simpa using positive) (by simpa using enough)
    simpa using rest

theorem le_powerFrom {fuel p : Nat} (enough : n ≤ p * Number.twoPow fuel) :
    n ≤ powerFrom n fuel p := by
  induction fuel generalizing p with
  | zero => simpa [powerFrom, Number.twoPow] using enough
  | succ fuel ih =>
    rw [powerFrom]
    split
    · refine ih ?_
      rw [Number.twoPow_succ] at enough
      rw [Nat.mul_assoc]
      exact enough
    · omega

theorem powerFrom_lt {p : Nat} (less : p < n) (fuel : Nat) : powerFrom n fuel p < 2 * n := by
  induction fuel generalizing p with
  | zero => rw [powerFrom]; omega
  | succ fuel ih =>
    rw [powerFrom, if_pos less]
    by_cases again : p * 2 < n
    · exact ih again
    · cases fuel with
      | zero => rw [powerFrom]; omega
      | succ fuel => rw [powerFrom, if_neg again]; omega

/-- There are enough blocks for all pieces of a large part, and no more blocks than pieces. -/
theorem binCount_bounds (large : maxPieces < n) :
    n ≤ binCount n * maxPieces ∧ binCount n ≤ n := by
  have needed : 1 < (n + maxPieces - 1) / maxPieces := by
    simp only [maxPieces] at large ⊢
    omega
  have high := powerFrom_lt needed ((n + maxPieces - 1) / maxPieces)
  have low : (n + maxPieces - 1) / maxPieces ≤
      powerFrom ((n + maxPieces - 1) / maxPieces) ((n + maxPieces - 1) / maxPieces) 1 :=
    le_powerFrom (by have := Number.lt_twoPow ((n + maxPieces - 1) / maxPieces); omega)
  dsimp only [binCount]
  split <;> (simp only [maxPieces] at *; omega)

theorem bitsFor_least {cases : Int} {fuel start : Nat}
    (enough : cases ≤ Number.twoPow (start + fuel)) :
    start ≤ bitsFor cases fuel start ∧ cases ≤ Number.twoPow (bitsFor cases fuel start) ∧
      ∀ m, start ≤ m → cases ≤ Number.twoPow m → bitsFor cases fuel start ≤ m := by
  induction fuel generalizing start with
  | zero => exact ⟨le_rfl, enough, fun m ge _ => ge⟩
  | succ fuel ih =>
    rw [bitsFor]
    split
    · next less =>
      have later : cases ≤ Number.twoPow (start + 1 + fuel) := by rwa [Nat.add_right_comm]
      obtain ⟨ge, fits, least⟩ := ih later
      refine ⟨by omega, fits, fun m above room => least m ?_ room⟩
      obtain same | more := Nat.eq_or_lt_of_le above
      · subst same
        omega
      · exact more
    · next fits => exact ⟨le_rfl, by omega, fun m ge _ => ge⟩

theorem foldl_max_le {xs : List Int} {a c : Int} :
    xs.foldl max a ≤ c ↔ a ≤ c ∧ ∀ x ∈ xs, x ≤ c := by
  induction xs generalizing a with
  | nil => simp
  | cons x xs ih => simp [ih, and_assoc]

theorem filling_empty (count : Nat) : Filling count []
    ((range count).foldl (fun h i =>
      Heap.push Bin.before h { weight := 0, index := i, pieces := [] }) #[], []) := by
  have none : Heap.Ordered Bin.key #[] := fun j _ a _ b hb => by simp at hb
  obtain ⟨ordered, perm⟩ := Heap.foldl_push Bin.before_iff
    (fun i => { weight := 0, index := i, pieces := [] }) (range count) none
  refine ⟨ordered, fun b inside => absurd inside not_mem_nil, ?_⟩
  refine Spread.perm ?_ (by simpa using perm.symm)
  constructor
  · simp
  · simp [flatMap_map]
  · simp +contextual [Bin.total, Number.intTotal]
  · simp +contextual
  · simp [countP_map, Function.comp_def]

/-- The order in which the pieces are taken. -/
def heaviestFirst (pieces : List Piece) : List (Piece × Nat) :=
  pieces.zipIdx.mergeSort fun a b =>
    a.1.probability > b.1.probability || (a.1.probability == b.1.probability && a.2 ≥ b.2)

theorem heaviestFirst_perm (pieces : List Piece) : heaviestFirst pieces ~ pieces.zipIdx :=
  mergeSort_perm _ _

theorem spread_holds {pieces : List Piece} (large : maxPieces < pieces.length)
    (positive : ∀ p ∈ pieces, 0 < p.probability) :
    Spread (binCount pieces.length) pieces.zipIdx (spread pieces) := by
  obtain ⟨enough, -⟩ := binCount_bounds large
  have same := heaviestFirst_perm pieces
  have size : (heaviestFirst pieces).length = pieces.length := same.length_eq.trans length_zipIdx
  have filled : Filling (binCount pieces.length) ([] ++ heaviestFirst pieces) _ :=
    (filling_empty (binCount pieces.length)).putAll
      (fun p inside => positive p.1 (fst_mem_of_mem_zipIdx (same.subset inside)))
      (by rwa [nil_append, size])
  rw [nil_append] at filled
  have final := filled.spread
  have whole : Spread (binCount pieces.length) pieces.zipIdx _ :=
    ⟨final.length, final.pieces.trans same, final.weights, final.short,
      same.length_eq ▸ final.vacant⟩
  exact whole.perm perm_append_comm

theorem Spread.nonempty (s : Spread count done bins) (many : count ≤ done.length) :
    ∀ b ∈ bins, b.pieces ≠ [] := by
  have none := s.vacant
  rw [Nat.sub_eq_zero_of_le many, countP_eq_zero] at none
  exact fun b inside => by simpa using none b inside

/-- The piece that stands for all names of a block. -/
def Block.reference (b : Block) (pos : Position) : Piece :=
  { source := .named (b.name.getD ""), probability := 1, pos }

def Part.total (p : Part) : Int := Number.intTotal (p.pieces.map Piece.probability)

/-- The name of a block that holds pieces of a large part. -/
def movedName (serial i : Nat) : String := "**townname #" ++ toString (serial + 1 + i) ++ "**"

/-- The block that some pieces move to. -/
def Bin.block (bin : Bin) (name : String) (bits : Nat) (pos : Position) : Block :=
  { title := name, name := some name, pos
    parts := [{ pieces := bin.pieces.map Prod.fst, pos, bits := some bits }] }

theorem Bin.total_pieces (b : Bin) :
    Number.intTotal ((b.pieces.map Prod.fst).map Piece.probability) = b.total := by
  rw [map_map]
  rfl

def heaviest (bins : List Bin) : Int := (bins.map Bin.weight).foldl max 0

/-- The number of bits that all blocks use. -/
def commonBits (bins : List Bin) : Nat := bitsFor (heaviest bins) (heaviest bins).toNat 1

/-- The blocks' contents with their names. -/
def named (s : Session) (bins : List Bin) : List (Bin × String) :=
  bins.zipIdx.map fun x => (x.1, movedName s.towns.serial x.2)

theorem named_cons (s t : Session) (bin : Bin) (bins : List Bin)
    (next : t.towns.serial = s.towns.serial + 1) :
    named s (bin :: bins) = (bin, movedName s.towns.serial 0) :: named t bins := by
  rw [named, zipIdx_cons, map_cons, zipIdx_succ, map_map, named, next]
  refine congrArg _ (map_congr_left fun x _ => ?_)
  have number : s.towns.serial + 1 + (x.2 + 1) = s.towns.serial + 1 + 1 + x.2 := by omega
  simp only [Function.comp_apply, movedName, number]

/-- After some blocks have got their names. -/
def afterMoves (s : Session) (n : Nat) : Session :=
  { s with towns := { s.towns with serial := s.towns.serial + n } }

/-- What a part holds while its pieces are moved: those that are left, and references. -/
def holding (left : List Placed) (refs : List Piece) : List (Piece × Option Nat) :=
  left.map (fun x => (x.1, some x.2)) ++ refs.map fun x => (x, none)

/-- The pieces of a block are taken out, each of them once. -/
theorem moveBin_eq {s : Session} {pos : Position} {bits : Nat} {blocks : List Block}
    {left later : List Placed} {refs : List Piece} (distinct : (left.map Prod.snd).Nodup)
    (whole : left ~ b.pieces ++ later) : ∃ rest, rest ~ later ∧
      moveBin pos bits ⟨blocks, holding left refs⟩ b s = .ok
        ⟨blocks ++ [b.block (movedName s.towns.serial 0) bits pos], holding rest (refs ++
          [(b.block (movedName s.towns.serial 0) bits pos).reference pos])⟩
        (afterMoves s 1) := by
  let isMoved (n : Option Nat) : Bool := b.pieces.any fun moved => n == some moved.2
  have moved : ∀ x ∈ b.pieces, isMoved (some x.2) = true := fun x inside =>
    any_eq_true.2 ⟨x, inside, beq_self_eq_true _⟩
  have stays : ∀ x ∈ later, isMoved (some x.2) = false := by
    have apart := (whole.map Prod.snd).nodup_iff.1 distinct
    rw [map_append] at apart
    intro x inside
    refine any_eq_false.2 fun y own => ?_
    have differ := disjoint_of_nodup_append apart (mem_map_of_mem own)
    rw [beq_iff_eq, Option.some.injEq]
    exact fun same => differ (same ▸ mem_map_of_mem inside)
  have rest : left.filter (fun x => !isMoved (some x.2)) ~ later := by
    refine (whole.filter _).trans (.of_eq ?_)
    rw [filter_append, filter_eq_nil_iff.2 fun x inside => by simp [moved x inside], nil_append,
      filter_eq_self.2 fun x inside => by simp [stays x inside]]
  have kept : (holding left refs).filter (fun x => !isMoved x.2) =
      holding (left.filter fun x => !isMoved (some x.2)) refs := by
    have all : refs.filter ((fun x => !isMoved x.2) ∘ fun x => (x, none)) = refs :=
      filter_eq_self.2 fun x _ => by simp [isMoved]
    rw [holding, filter_append, filter_map, filter_map, all]
    rfl
  have size : (holding (left.filter fun x => !isMoved (some x.2)) refs).length +
      b.pieces.length = (holding left refs).length := by
    have all := whole.length_eq
    have others := rest.length_eq
    simp only [holding, length_append, length_map] at all others ⊢
    omega
  refine ⟨_, rest, ?_⟩
  refine Build.bind_eq_ok.2 ⟨_, _, rfl, Build.bind_eq_ok.2 ⟨_, _, rfl, ?_⟩⟩
  dsimp only
  rw [show (holding left refs).filter (fun x => !b.pieces.any fun moved => x.2 == some moved.2) = _
    from kept, beq_iff_eq.2 size]
  refine Build.pure_eq_ok.2 ⟨?_, rfl⟩
  rw [holding, holding, map_append, append_assoc]
  rfl

theorem foldlM_moveBin {pos : Position} {bits : Nat} {blocks : List Block} {left : List Placed}
    {refs : List Piece} (s : Session) (distinct : (left.map Prod.snd).Nodup)
    (whole : left ~ bins.flatMap Bin.pieces) :
    bins.foldlM (moveBin pos bits) ⟨blocks, holding left refs⟩ s = .ok
      ⟨blocks ++ (named s bins).map fun x => x.1.block x.2 bits pos,
        holding [] (refs ++ (named s bins).map fun x => (x.1.block x.2 bits pos).reference pos)⟩
      (afterMoves s bins.length) := by
  induction bins generalizing s blocks left refs with
  | nil =>
    obtain rfl := whole.eq_nil
    rw [named, zipIdx_nil, map_nil, map_nil, map_nil, append_nil, append_nil]
    rfl
  | cons b bins ih =>
    obtain ⟨rest, same, moved⟩ := moveBin_eq distinct whole
    have distinct' : (rest.map Prod.snd).Nodup := by
      have all := (whole.map Prod.snd).nodup_iff.1 distinct
      rw [flatMap_cons, map_append] at all
      exact (same.map Prod.snd).nodup_iff.2 all.of_append_right
    rw [foldlM_cons]
    refine Build.bind_eq_ok.2 ⟨_, _, moved, ?_⟩
    rw [ih (afterMoves s 1) distinct' same, named_cons s (afterMoves s 1) b bins rfl, map_cons,
      map_cons, append_assoc, append_assoc]
    have count : s.towns.serial + 1 + bins.length = s.towns.serial + (bins.length + 1) := by omega
    simp only [afterMoves, count, length_cons, singleton_append]

theorem movePieces_eq (p : Part) (s : Session) (large : maxPieces < p.pieces.length)
    (positive : ∀ x ∈ p.pieces, 0 < x.probability) :
    movePieces p s = .ok
      ((named s (spread p.pieces)).map fun x =>
        x.1.block x.2 (commonBits (spread p.pieces)) p.pos,
      { p with pieces := (named s (spread p.pieces)).map fun x =>
          (x.1.block x.2 (commonBits (spread p.pieces)) p.pos).reference p.pos })
      (afterMoves s (spread p.pieces).length) := by
  have distinct : (p.pieces.zipIdx.map Prod.snd).Nodup := by
    rw [zipIdx_map_snd]
    exact nodup_range'
  have start : holding p.pieces.zipIdx [] = p.pieces.zipIdx.map fun x => (x.1, some x.2) :=
    append_nil _
  have loop : (spread p.pieces).foldlM (moveBin p.pos (commonBits (spread p.pieces)))
      ⟨[], holding p.pieces.zipIdx []⟩ s = _ :=
    foldlM_moveBin s distinct (spread_holds large positive).pieces.symm
  rw [start] at loop
  rw [movePieces, if_neg (Nat.not_le.2 large)]
  refine Build.bind_eq_ok.2 ⟨_, _, loop, Build.pure_eq_ok.2 ⟨?_, rfl⟩⟩
  simp [holding, Function.comp_def]

theorem named_fst (s : Session) (bins : List Bin) : (named s bins).map Prod.fst = bins := by
  rw [named, map_map]
  exact zipIdx_map_fst 0 bins

theorem movedName_injective (serial : Nat) : Function.Injective (movedName serial) := by
  intro i j same
  simp only [movedName, String.append_left_inj, String.append_right_inj] at same
  have digits : Nat.toDigits 10 (serial + 1 + i) = Nat.toDigits 10 (serial + 1 + j) := by
    have := congrArg String.toList same
    simpa only [toString, Nat.repr_eq_ofList_toDigits, String.toList_ofList] using this
  have numbers := congrArg (Nat.ofDigitChars 10 · 0) digits
  simp only [Nat.ofDigitChars_toDigits (show 1 < 10 by decide) (show 10 ≤ 10 by decide)] at numbers
  omega

theorem names_nodup (s : Session) (bins : List Bin) :
    (bins.zipIdx.map fun x => some (movedName s.towns.serial x.2)).Nodup := by
  have numbers : (bins.zipIdx.map Prod.snd).Nodup := by
    rw [zipIdx_map_snd]
    exact nodup_range'
  have injective : Function.Injective fun i => some (movedName s.towns.serial i) :=
    fun i j same => movedName_injective s.towns.serial (Option.some.inj same)
  have distinct := numbers.map injective
  rwa [map_map] at distinct

theorem commonBits_least (bins : List Bin) : 1 ≤ commonBits bins ∧
    (∀ b ∈ bins, b.weight ≤ Number.twoPow (commonBits bins)) ∧
    ∀ n, 1 ≤ n → (∀ b ∈ bins, b.weight ≤ Number.twoPow n) → commonBits bins ≤ n := by
  have enough : heaviest bins ≤ Number.twoPow (1 + (heaviest bins).toNat) := by
    have := Number.lt_twoPow (1 + (heaviest bins).toNat)
    omega
  obtain ⟨positive, fits, least⟩ := bitsFor_least enough
  refine ⟨positive, fun b inside => ?_, fun n ge room => least n ge ?_⟩
  · exact (foldl_max_le.1 fits).2 _ (mem_map_of_mem inside)
  · refine foldl_max_le.2 ⟨Int.natCast_nonneg _, fun x inside => ?_⟩
    obtain ⟨b, own, rfl⟩ := mem_map.1 inside
    exact room b own

/-- The pieces of a part that is too large, all of which can be chosen, move to blocks of one part
each: every piece to one of them, some to each and not more than a part can have. In the part stands
one reference for each block, in the same order. The blocks use the same number of bits, the least
one that is enough for the pieces of each of them. -/
theorem moved_pieces_complete (p : Part) (s : Session) (large : 255 < p.pieces.length)
    (positive : ∀ x ∈ p.pieces, 0 < x.probability) :
    ∃ blocks own t bits, movePieces p s = .ok (blocks, own) t ∧
      (∀ b ∈ blocks, ∃ part, b.parts = [part] ∧ part.pieces ≠ [] ∧ part.pieces.length ≤ 255 ∧
        part.bits = some bits ∧ part.total ≤ Number.twoPow bits) ∧
      (blocks.flatMap fun b => b.parts.flatMap Part.pieces) ~ p.pieces ∧
      own = { p with pieces := blocks.map fun b => b.reference p.pos } ∧
      (blocks.map Block.name).Nodup ∧
      1 ≤ bits ∧
      ∀ n, 1 ≤ n → (∀ b ∈ blocks, ∀ part ∈ b.parts, part.total ≤ Number.twoPow n) → bits ≤ n := by
  have whole := spread_holds large positive
  have some := whole.nonempty (by rw [length_zipIdx]; exact (binCount_bounds large).2)
  obtain ⟨one, fits, least⟩ := commonBits_least (spread p.pieces)
  have contents := named_fst s (spread p.pieces)
  refine ⟨_, _, _, _, movePieces_eq p s large positive, ?_, ?_, ?_, ?_, one,
    fun n ge room => least n ge fun b inside => ?_⟩
  · intro b inside
    obtain ⟨x, listed, rfl⟩ := mem_map.1 inside
    have own : x.1 ∈ spread p.pieces := contents ▸ mem_map_of_mem listed
    have weight : x.1.total ≤ Number.twoPow (commonBits (spread p.pieces)) :=
      whole.weights _ own ▸ fits _ own
    refine ⟨_, rfl, ?_, ?_, rfl, le_of_eq_of_le x.1.total_pieces weight⟩
    · simpa using some _ own
    · rw [length_map]
      exact whole.short _ own
  · have same : (named s (spread p.pieces)).flatMap (fun x => x.1.pieces.map Prod.fst) =
        ((spread p.pieces).flatMap Bin.pieces).map Prod.fst := by
      rw [← contents, flatMap_map, map_flatMap, contents]
    have all := whole.pieces.map Prod.fst
    rw [← same, zipIdx_map_fst] at all
    simpa [flatMap_map, Bin.block] using all
  · rw [map_map]
    rfl
  · rw [map_map, named, map_map]
    exact names_nodup s (spread p.pieces)
  · rw [whole.weights b inside, ← b.total_pieces]
    rw [← contents] at inside
    obtain ⟨x, listed, rfl⟩ := mem_map.1 inside
    exact room _ (mem_map_of_mem listed) _ mem_cons_self

/-- A part with 300 texts that are equally likely. -/
def manyTexts : Part where
  pieces := replicate 300 { source := .text "A", probability := 1, pos := none }
  pos := default

theorem manyTexts_complete : 255 < manyTexts.pieces.length ∧
    (∀ x ∈ manyTexts.pieces, 0 < x.probability) ∧
    ∃ blocks own t, movePieces manyTexts {} = .ok (blocks, own) t ∧
      (blocks.flatMap fun b => b.parts.flatMap Part.pieces) ~ manyTexts.pieces ∧
      (∀ b ∈ blocks, ∃ part, b.parts = [part] ∧ part.pieces ≠ [] ∧ part.pieces.length ≤ 255) ∧
      own.pieces = blocks.map fun b => b.reference default := by
  have large : 255 < manyTexts.pieces.length := by
    rw [manyTexts, length_replicate]
    decide
  have positive : ∀ x ∈ manyTexts.pieces, 0 < x.probability := fun x inside => by
    rw [eq_of_mem_replicate inside]
    decide
  obtain ⟨blocks, own, t, bits, run, parts, whole, rfl, -⟩ :=
    moved_pieces_complete manyTexts {} large positive
  refine ⟨large, positive, blocks, _, t, run, whole, fun b inside => ?_, rfl⟩
  obtain ⟨part, one, some, few, -⟩ := parts b inside
  exact ⟨part, one, some, few⟩

end Town

end NewGrf

import Mathlib.Data.Int.LeastGreatest
import Mathlib.Order.Bounds.Basic
import NewGrf.IdSpace

open List

namespace NewGrf

namespace IdSpace

variable {s t : IdSpace} {id k a first last : Int} {count n : Nat} {pos : Option Position}
  {blocks : List (Int × Nat)}

/-- Whether a number belongs to a block. -/
def Covers (b : Int × Nat) (k : Int) : Prop := b.1 ≤ k ∧ k < b.1 + b.2

instance (b : Int × Nat) (k : Int) : Decidable (Covers b k) :=
  inferInstanceAs (Decidable (_ ∧ _))

/-- No number of a block is in use. -/
def FreeBlock (s : IdSpace) (id : Int) (count : Nat) : Prop :=
  ∀ k, Covers (id, count) k → s.isFree k = true

theorem FreeBlock.mono (h : s.FreeBlock id count) (le : n ≤ count) : s.FreeBlock id n :=
  fun k inside => h k ⟨inside.1, by have := inside.2; simp only at this ⊢; omega⟩

theorem mem_numbers {xs : List Nat} : k ∈ xs.map (fun (i : Nat) => id + (i : Int)) ↔
    ∃ i ∈ xs, k = id + (i : Int) := by
  simp only [mem_map, eq_comm]

theorem lastUsed?_eq_none : s.lastUsed? id count = none ↔ s.FreeBlock id count := by
  simp only [lastUsed?, find?_eq_none, mem_numbers, mem_reverse, mem_range, FreeBlock, Covers]
  constructor
  · intro h k inside
    simpa using h k ⟨(k - id).toNat, by omega, by omega⟩
  · rintro h k ⟨i, lt, rfl⟩
    simpa using h (id + i) (by omega)

theorem lastUsed?_eq_some (h : s.lastUsed? id count = some k) :
    Covers (id, count) k ∧ s.isFree k = false := by
  have inside := mem_of_find?_eq_some h
  obtain ⟨i, lt, rfl⟩ := mem_numbers.1 inside
  rw [mem_reverse, mem_range] at lt
  exact ⟨⟨by simp only; omega, by simp only; omega⟩, by simpa using find?_some h⟩

/-- The places from a number on where a search can find a block. -/
def places (s : IdSpace) (count : Nat) (id : Int) : Set Int :=
  {a | id ≤ a ∧ a + count ≤ s.last ∧ s.FreeBlock a count}

/-- A search that goes on behind a number in use skips no place: each block from before there has
this number in it. -/
theorem places_behind (used : s.lastUsed? id count = some k) :
    s.places count id = s.places count (k + 1) := by
  obtain ⟨⟨low, high⟩, taken⟩ := lastUsed?_eq_some used
  ext a
  simp only [places, Set.mem_ofPred_eq]
  constructor
  · rintro ⟨le, room, free⟩
    refine ⟨?_, room, free⟩
    by_contra before
    have := free k ⟨by simp only; omega, by simp only at high ⊢; omega⟩
    simp [taken] at this
  · rintro ⟨le, rest⟩
    exact ⟨by simp only at low; omega, rest⟩

theorem search_eq_some (positive : 1 ≤ count) (fuel : Nat)
    (enough : (s.last + 1 - id).toNat ≤ fuel) :
    s.search count fuel id = some a ↔ IsLeast (s.places count id) a := by
  induction fuel generalizing id with
  | zero =>
    simp only [search, reduceCtorEq, false_iff]
    rintro ⟨⟨le, room, -⟩, -⟩
    omega
  | succ fuel ih =>
    rw [search]
    split
    case isTrue room =>
      split
      case h_1 free =>
        have least : IsLeast (s.places count id) id :=
          ⟨⟨le_rfl, by omega, lastUsed?_eq_none.1 free⟩, fun b inside => inside.1⟩
        rw [Option.some.injEq]
        exact ⟨fun same => same ▸ least, least.unique⟩
      case h_2 k used =>
        have low := (lastUsed?_eq_some used).1.1
        rw [places_behind used, ih (by simp only at low; omega)]
    case isFalse none =>
      simp only [reduceCtorEq, false_iff]
      rintro ⟨⟨le, room, -⟩, -⟩
      omega

/-- What is known of a space once some blocks of it have been taken: a search never has to look
before the position that is kept for a size. -/
structure Holding (first last : Int) (blocks : List (Int × Nat)) (s : IdSpace) : Prop where
  first_eq : s.first = first
  last_eq : s.last = last
  used : ∀ k, s.isFree k = false ↔ ∃ b ∈ blocks, Covers b k
  sizes : ∀ {id n}, s.size? id = some n → (id, n) ∈ blocks
  apart : blocks.Pairwise fun b c => ∀ k, Covers b k → ¬ Covers c k
  starts_ge : ∀ p ∈ s.starts, first ≤ p.2
  starts : ∀ p ∈ s.starts, ∀ a, first ≤ a → a < p.2 → ¬ s.FreeBlock a p.1

theorem Holding.fresh (title : String) (dynamic : Bool) :
    Holding first last [] { first, last, title, dynamic } where
  first_eq := rfl
  last_eq := rfl
  used k := by simp [isFree]
  sizes h := by simp [size?] at h
  apart := .nil
  starts_ge p inside := absurd inside not_mem_nil
  starts p inside := absurd inside not_mem_nil

theorem startOf_mem (s : IdSpace) (count : Nat) : s.startOf count = s.first ∨
    ∃ n ≤ count, (n, s.startOf count) ∈ s.starts := by
  unfold startOf
  split
  case h_1 p found =>
    obtain ⟨front, rest, whole, -⟩ := lookup_eq_some_iff.1 found
    exact .inr ⟨count, le_rfl, by simp [whole]⟩
  case h_2 =>
    cases largest : ((s.starts.filter (·.1 < count)).map (·.2)).max? with
    | none => exact .inl rfl
    | some p =>
      obtain ⟨q, inside, rfl⟩ := mem_map.1 (max?_mem largest)
      obtain ⟨mem, smaller⟩ := mem_filter.1 inside
      exact .inr ⟨q.1, by simpa using (of_decide_eq_true smaller).le, mem⟩

namespace Holding

/-- No free block of the size stands before the position where its search starts. -/
theorem places_eq (h : Holding first last blocks s) (count : Nat) :
    s.places count (s.startOf count) = s.places count first := by
  ext a
  simp only [places, Set.mem_ofPred_eq, and_congr_left_iff]
  rintro ⟨-, free⟩
  obtain same | ⟨n, le, kept⟩ := s.startOf_mem count
  · rw [same, h.first_eq]
  · constructor
    · exact (h.starts_ge _ kept).trans
    · intro low
      by_contra before
      exact h.starts _ kept a low (by simp only; omega) (free.mono le)

theorem search (h : Holding first last blocks s) (positive : 1 ≤ count) :
    s.search count (s.last + 1 - s.startOf count).toNat (s.startOf count) = some a ↔
      IsLeast (s.places count first) a := by
  rw [search_eq_some positive _ le_rfl, h.places_eq]

end Holding

theorem isFree_iff : s.isFree k = true ↔ ∀ p ∈ s.used, k ≠ p.1 := by
  simp [isFree, lookup_eq_none_iff]

theorem isFree_mark (positive : 1 ≤ count) :
    (s.mark id count).isFree k = true ↔ ¬ Covers (id, count) k ∧ s.isFree k = true := by
  simp only [isFree_iff, mark, cons_append, mem_cons, mem_append, mem_map, mem_range]
  constructor
  · intro h
    refine ⟨?_, fun p inside => h p (.inr (.inr inside))⟩
    rintro ⟨low, high⟩
    obtain same | behind := eq_or_lt_of_le low
    · exact h _ (.inl rfl) same.symm
    · simp only at behind high
      refine h (k, none) (.inr (.inl ⟨(k - id - 1).toNat, by omega, ?_⟩)) rfl
      rw [Prod.mk.injEq]
      exact ⟨by omega, rfl⟩
  · rintro ⟨outside, free⟩ p (rfl | ⟨i, lt, rfl⟩ | inside) same
    · exact outside ⟨same.ge, by simp only at same ⊢; omega⟩
    · exact outside ⟨by simp only at same ⊢; omega, by simp only at same ⊢; omega⟩
    · exact free p inside same

theorem FreeBlock.of_mark (positive : 1 ≤ count) (h : (s.mark id count).FreeBlock a n) :
    s.FreeBlock a n :=
  fun k inside => ((isFree_mark positive).1 (h k inside)).2

/-- Only the first number of a block has a size. -/
theorem size?_mark (h : (s.mark id count).size? k = some n) :
    (k, n) = (id, count) ∨ s.size? k = some n := by
  simp only [size?, mark, cons_append, lookup_cons, lookup_append, Option.join_eq_some_iff] at h
  split at h
  case h_1 same =>
    rw [beq_iff_eq] at same
    exact .inl (by rw [same, ← Option.some.inj (Option.some.inj h)])
  case h_2 other =>
    obtain tail | ⟨-, old⟩ := Option.or_eq_some_iff.1 h
    · obtain ⟨front, rest, whole, -⟩ := lookup_eq_some_iff.1 tail
      have inside : (k, some n) ∈ (range (count - 1)).map
          fun (i : Nat) => (id + (i : Int) + 1, (none : Option Nat)) := by simp [whole]
      simp at inside
    · exact .inr (Option.join_eq_some_iff.2 old)

namespace Holding

theorem mark (h : Holding first last blocks s) (positive : 1 ≤ count)
    (free : s.FreeBlock id count) :
    Holding first last ((id, count) :: blocks) (s.mark id count) where
  first_eq := h.first_eq
  last_eq := h.last_eq
  used k := by
    rw [← Bool.not_eq_true, isFree_mark positive, not_and_or, not_not, Bool.not_eq_true, h.used]
    simp
  sizes found := by
    obtain same | old := size?_mark found
    · exact same ▸ mem_cons_self
    · exact mem_cons_of_mem _ (h.sizes old)
  apart := by
    refine h.apart.cons fun b inside k new old => ?_
    have := (h.used k).2 ⟨b, inside, old⟩
    simp [free k new] at this
  starts_ge := h.starts_ge
  starts p kept a low before free := h.starts p kept a low before (free.of_mark positive)

/-- A later position may be kept for a size once there is no free block before it. -/
theorem keep (h : Holding first last blocks s) {p : Int} (ge : first ≤ p)
    (none : ∀ a, first ≤ a → a < p → ¬ s.FreeBlock a count) :
    Holding first last blocks
      { s with starts := (count, p) :: s.starts.filter (·.1 != count) } where
  __ := h
  starts_ge q kept := by
    obtain rfl | old := mem_cons.1 kept
    · exact ge
    · exact h.starts_ge q (mem_filter.1 old).1
  starts q kept := by
    obtain rfl | old := mem_cons.1 kept
    · exact none
    · exact h.starts q (mem_filter.1 old).1

theorem allocate_eq_ok (h : Holding first last blocks s) (positive : 1 ≤ count) :
    (∃ t, s.allocate count pos = .ok (id, t)) ↔ IsLeast (s.places count first) id := by
  rw [← h.search positive, allocate]
  split
  case h_1 a found => simp [found]
  case h_2 none => simp [none]

theorem allocate (h : Holding first last blocks s) (positive : 1 ≤ count)
    (given : s.allocate count pos = .ok (id, t)) :
    Holding first last ((id, count) :: blocks) t := by
  have least := (h.allocate_eq_ok positive).1 ⟨t, given⟩
  have low := least.1.1
  have room := least.1.2.1
  have marked := h.mark positive least.1.2.2
  rw [IdSpace.allocate, (h.search positive).2 least] at given
  cases given
  refine marked.keep (by omega) fun a from_first before block => ?_
  obtain below | inside := lt_or_ge a id
  · have := least.2 ⟨from_first, by omega, block.of_mark positive⟩
    omega
  · have taken := ((isFree_mark positive).1 (block a ⟨le_rfl, by simp only; omega⟩)).1
    exact taken ⟨inside, before⟩

end Holding

theorem isDefined_eq_ok {defined : Bool} (h : s.isDefined id count pos = .ok defined) :
    0 ≤ id ∧ id + count - 1 ≤ s.last ∧
      if defined then s.size? id = some count else s.FreeBlock id count := by
  simp only [isDefined] at h
  split at h
  · cases h
  · next inside =>
    refine ⟨by omega, by omega, ?_⟩
    split at h
    · next same =>
      cases h
      simpa using same
    · split at h
      · next free =>
        cases h
        simpa [← lastUsed?_eq_none] using free
      · split at h
        · cases h
        · split at h <;> cases h

/-- Items take blocks of numbers one after the other: a free one, or one that they name. What they
name may also be the block of an item before. -/
inductive Taken (first last : Int) : List (Int × Nat) → IdSpace → Prop where
  | nothing (title : String) (dynamic : Bool) : Taken first last [] { first, last, title, dynamic }
  | free {blocks : List (Int × Nat)} {s t : IdSpace} {id : Int} {count : Nat}
      {pos : Option Position} : Taken first last blocks s → 1 ≤ count →
      s.allocate count pos = .ok (id, t) → Taken first last ((id, count) :: blocks) t
  | named {blocks : List (Int × Nat)} {s : IdSpace} {id : Int} {count : Nat}
      {pos : Option Position} : Taken first last blocks s → 1 ≤ count →
      s.isDefined id count pos = .ok false →
      Taken first last ((id, count) :: blocks) (s.mark id count)
  | again {blocks : List (Int × Nat)} {s : IdSpace} {id : Int} {count : Nat}
      {pos : Option Position} : Taken first last blocks s →
      s.isDefined id count pos = .ok true → Taken first last blocks s

theorem Taken.holding (h : Taken first last blocks s) : Holding first last blocks s := by
  induction h with
  | nothing title dynamic => exact .fresh title dynamic
  | free _ positive given ih => exact ih.allocate positive given
  | named _ positive free ih =>
    exact ih.mark positive (by simpa using (isDefined_eq_ok free).2.2)
  | again _ _ ih => exact ih

/-- The places where a block of numbers of the space is free. -/
def freePlaces (s : IdSpace) (first last : Int) (count : Nat) : Set Int :=
  {a | first ≤ a ∧ a + count - 1 ≤ last ∧ s.FreeBlock a count}

/-- A search looks at all free places but the last one of the space. -/
theorem Holding.mem_places (h : Holding first last blocks s) :
    a ∈ s.places count first ↔ a ∈ s.freePlaces first last count ∧ a ≠ last - count + 1 := by
  simp only [places, freePlaces, Set.mem_ofPred_eq, h.last_eq]
  constructor
  · rintro ⟨low, room, free⟩
    exact ⟨⟨low, by omega, free⟩, by omega⟩
  · rintro ⟨⟨low, room, free⟩, other⟩
    exact ⟨low, by omega, free⟩

theorem Holding.least_place (h : Holding first last blocks s) :
    IsLeast (s.places count first) a ↔
      IsLeast (s.freePlaces first last count) a ∧ a ≠ last - count + 1 := by
  constructor
  · rintro ⟨inside, lowest⟩
    obtain ⟨free, other⟩ := h.mem_places.1 inside
    refine ⟨⟨free, fun b place => ?_⟩, other⟩
    by_cases final : b = last - count + 1
    · have := free.2.1
      omega
    · exact lowest (h.mem_places.2 ⟨place, final⟩)
  · rintro ⟨⟨inside, lowest⟩, other⟩
    exact ⟨h.mem_places.2 ⟨inside, other⟩, fun b place => lowest (h.mem_places.1 place).1⟩

theorem Holding.allocate_eq_error (h : Holding first last blocks s) (positive : 1 ≤ count) :
    (∃ fault, s.allocate count pos = .error fault) ↔
      ∀ a ∈ s.freePlaces first last count, a = last - count + 1 := by
  have failed : (∃ fault, s.allocate count pos = .error fault) ↔
      ∀ a, ¬ IsLeast (s.places count first) a := by
    have given : ∀ a, (∃ t, s.allocate count pos = .ok (a, t)) ↔
        IsLeast (s.places count first) a := fun a => h.allocate_eq_ok positive
    simp only [← given]
    cases s.allocate count pos with
    | error fault => simp
    | ok given => simpa using ⟨given.1, given.2, rfl⟩
  rw [failed]
  constructor
  · intro none a place
    by_contra other
    obtain ⟨b, inside, lowest⟩ := Int.exists_least_of_bdd (P := (· ∈ s.places count first))
      ⟨first, fun b inside => inside.1⟩ ⟨a, h.mem_places.2 ⟨place, other⟩⟩
    exact none b ⟨inside, fun c => lowest c⟩
  · intro only a least
    obtain ⟨place, other⟩ := h.mem_places.1 least.1
    exact other (only a place)

/-- Whatever blocks have been taken, a request for numbers gets the least place where so many are
free, unless this is the very last place of the space: that one is never found. A request fails
exactly if no other place is free. The blocks of different items have no number in common. -/
theorem allocate_least_iff (h : Taken first last blocks s) (positive : 1 ≤ count)
    (pos : Option Position) :
    (∀ a, (∃ t, s.allocate count pos = .ok (a, t)) ↔
      IsLeast (s.freePlaces first last count) a ∧ a ≠ last - count + 1) ∧
    ((∃ fault, s.allocate count pos = .error fault) ↔
      ∀ a ∈ s.freePlaces first last count, a = last - count + 1) ∧
    (∀ k, s.isFree k = false ↔ ∃ b ∈ blocks, Covers b k) ∧
    (blocks.Pairwise fun b c => ∀ k, Covers b k → ¬ Covers c k) ∧
    ∀ id n pos, s.isDefined id n pos = .ok true → (id, n) ∈ blocks := by
  have held := h.holding
  refine ⟨fun a => (held.allocate_eq_ok positive).trans held.least_place,
    held.allocate_eq_error positive, held.used, held.apart, fun id n pos defined => ?_⟩
  exact held.sizes (by simpa using (isDefined_eq_ok defined).2.2)

/-- A space of two numbers, of which an item has taken the first. -/
def halfTaken : IdSpace where
  first := 0
  last := 1
  title := ""
  used := [(0, some 1)]
  starts := [(1, 1)]

/-- The last number of a space is free, and a request for a number fails. -/
theorem last_number_not_given : Taken 0 1 [(0, 1)] halfTaken ∧
    IsLeast (halfTaken.freePlaces 0 1 1) 1 ∧
    ∃ fault, halfTaken.allocate 1 none = .error fault := by
  have given : IdSpace.allocate { first := 0, last := 1, title := "" } 1 none =
    .ok (0, halfTaken) := rfl
  have taken : Taken 0 1 [(0, 1)] halfTaken := .free (.nothing "" true) le_rfl given
  obtain ⟨-, failed, used, -⟩ := allocate_least_iff taken le_rfl none
  have free : ∀ a ∈ halfTaken.freePlaces 0 1 1, a = 1 := by
    rintro a ⟨low, high, free⟩
    have other : a ≠ 0 := by
      rintro rfl
      exact absurd (free 0 (by decide +kernel)) (by decide)
    omega
  refine ⟨taken, ⟨⟨by decide, by decide, ?_⟩, fun a place => (free a place).ge⟩, failed.2 free⟩
  rintro k ⟨low, high⟩
  obtain rfl : k = 1 := by simp only at low high; omega
  rfl

end IdSpace

end NewGrf

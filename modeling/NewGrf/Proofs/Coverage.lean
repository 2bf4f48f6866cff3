import Mathlib.Data.List.Forall2
import Mathlib.Data.List.Pairwise
import Mathlib.Data.List.TakeWhile
import Mathlib.Order.Bounds.Defs
import NewGrf.Proofs.SwitchNodes
import NewGrf.Switch.Actions

namespace NewGrf

namespace Coverage

variable {c rest : Coverage} {low high v : Int}

/-- Whether a number lies in one of the ranges. -/
def Holds (c : Coverage) (v : Int) : Prop := ∃ r ∈ c, r.1 ≤ v ∧ v ≤ r.2

@[simp] theorem not_holds_nil : ¬Holds [] v := nofun

@[simp] theorem holds_cons {r} : Holds (r :: rest) v ↔ (r.1 ≤ v ∧ v ≤ r.2) ∨ Holds rest v := by
  simp [Holds]

theorem holds_append {c'} : Holds (c ++ c') v ↔ Holds c v ∨ Holds c' v := by
  simp [Holds, or_and_right, exists_or]

/-- A range that touches the one before it starts right behind it at the latest, so the range that
they are joined to has no number of its own. -/
theorem Holds.of_joinFrom {a b} (h : (joinFrom a b rest).Holds v) : Holds ((a, b) :: rest) v := by
  induction rest generalizing a b with
  | nil => exact h
  | cons r rest ih =>
    obtain ⟨c, d⟩ := r
    unfold joinFrom at h
    split at h
    case isTrue touches =>
      obtain ⟨above, below⟩ | other := holds_cons.1 (ih h)
      · simp only [holds_cons]
        split at below <;> omega
      · exact holds_cons.2 (.inr (holds_cons.2 (.inr other)))
    case isFalse apart =>
      obtain inside | other := holds_cons.1 h
      · exact holds_cons.2 (.inl inside)
      · exact holds_cons.2 (.inr (ih other))

theorem Holds.of_join (h : (join c).Holds v) : c.Holds v := by
  cases c with
  | nil => exact h
  | cons r rest => exact Holds.of_joinFrom h

theorem Holds.of_insert (h : (c.insert low high).Holds v) : c.Holds v ∨ (low ≤ v ∧ v ≤ high) := by
  rw [← List.takeWhile_append_dropWhile (p := (before · (low, high))) (l := c), holds_append]
  obtain first | second := holds_append.1 (Holds.of_join h)
  · exact .inl (.inl first)
  · obtain own | rest := holds_cons.1 second
    · exact .inr own
    · exact .inl (.inr rest)

theorem Holds.of_covers (covers : c.covers low high = true) (above : low ≤ v) (below : v ≤ high) :
    c.Holds v := by
  obtain ⟨r, inside, around⟩ := List.any_eq_true.1 covers
  simp only [Bool.and_eq_true, decide_eq_true_eq] at around
  exact ⟨r, inside, Int.le_trans around.1 above, Int.le_trans below around.2⟩

/-- Ranges in the order of their lower bounds. -/
def Sorted (c : Coverage) : Prop := c.Pairwise fun r r' => r.1 ≤ r'.1

/-- Ranges in order, no two of which overlap or touch. -/
def Apart (c : Coverage) : Prop := c.Pairwise fun r r' => r.1 ≤ r'.1 ∧ r.2 + 1 < r'.1

theorem Apart.sorted (apart : c.Apart) : c.Sorted := apart.imp And.left

theorem le_of_mem_joinFrom {a b r} (sorted : Sorted ((a, b) :: rest))
    (inside : r ∈ joinFrom a b rest) : a ≤ r.1 := by
  induction rest generalizing a b with
  | nil =>
    obtain rfl := List.mem_singleton.1 inside
    exact Int.le_refl _
  | cons x rest ih =>
    obtain ⟨first, others⟩ := List.pairwise_cons.1 sorted
    have next := first x (List.mem_cons_self ..)
    rw [joinFrom] at inside
    split at inside
    · refine ih (List.pairwise_cons.2 ⟨fun y later => ?_, others.of_cons⟩) inside
      exact first y (List.mem_cons_of_mem _ later)
    · obtain rfl | later := List.mem_cons.1 inside
      · exact Int.le_refl _
      · exact Int.le_trans next (ih others later)

theorem apart_joinFrom {a b} (sorted : Sorted ((a, b) :: rest)) : Apart (joinFrom a b rest) := by
  induction rest generalizing a b with
  | nil => exact List.pairwise_singleton ..
  | cons x rest ih =>
    obtain ⟨first, others⟩ := List.pairwise_cons.1 sorted
    have next := first x (List.mem_cons_self ..)
    rw [joinFrom]
    split
    · exact ih (List.pairwise_cons.2
        ⟨fun y later => first y (List.mem_cons_of_mem _ later), others.of_cons⟩)
    · refine List.pairwise_cons.2 ⟨fun y later => ?_, ih others⟩
      have := le_of_mem_joinFrom others later
      dsimp only at next ⊢
      omega

/-- The converse of `Holds.of_joinFrom`: in sorted ranges nothing is lost. -/
theorem Holds.joinFrom {a b} (sorted : Sorted ((a, b) :: rest))
    (h : Holds ((a, b) :: rest) v) : (joinFrom a b rest).Holds v := by
  induction rest generalizing a b with
  | nil => exact h
  | cons x rest ih =>
    obtain ⟨first, others⟩ := List.pairwise_cons.1 sorted
    have next := first x (List.mem_cons_self ..)
    rw [Coverage.joinFrom]
    simp only [holds_cons] at h ⊢
    split
    · refine ih (List.pairwise_cons.2
        ⟨fun y later => first y (List.mem_cons_of_mem _ later), others.of_cons⟩) ?_
      rw [holds_cons]
      obtain own | joined | later := h
      · exact .inl ⟨own.1, by dsimp only; split <;> omega⟩
      · refine .inl ⟨Int.le_trans next joined.1, ?_⟩
        dsimp only
        split <;> omega
      · exact .inr later
    · rw [holds_cons]
      exact h.imp id fun later => ih others (holds_cons.2 later)

theorem sorted_inserted (sorted : c.Sorted) (x : Int × Int) :
    Sorted (c.takeWhile (before · x) ++ x :: c.dropWhile (before · x)) := by
  have earlier : ∀ r ∈ c.takeWhile (before · x), r.1 ≤ x.1 := fun r inside => by
    have isBefore := List.mem_takeWhile_imp inside
    simp only [before, Bool.or_eq_true, Bool.and_eq_true, decide_eq_true_eq, beq_iff_eq] at isBefore
    omega
  have later : ∀ r ∈ c.dropWhile (before · x), x.1 ≤ r.1 := by
    have ordered : Sorted (c.dropWhile (before · x)) := sorted.sublist (List.dropWhile_sublist _)
    cases dropped : c.dropWhile (before · x) with
    | nil => exact fun r inside => absurd inside List.not_mem_nil
    | cons y others =>
      rw [dropped] at ordered
      have isBehind : before y x = false := by
        simpa [dropped] using List.head_dropWhile_not (before · x) (l := c) (by simp [dropped])
      have behind : x.1 ≤ y.1 := by
        simp only [before, Bool.or_eq_false_iff, decide_eq_false_iff_not] at isBehind
        omega
      intro r inside
      obtain rfl | inside := List.mem_cons.1 inside
      · exact behind
      · exact Int.le_trans behind ((List.pairwise_cons.1 ordered).1 r inside)
  refine List.pairwise_append.2 ⟨sorted.sublist (List.takeWhile_sublist _),
    List.pairwise_cons.2 ⟨later, sorted.sublist (List.dropWhile_sublist _)⟩, ?_⟩
  intro r first y second
  obtain rfl | second := List.mem_cons.1 second
  · exact earlier r first
  · exact Int.le_trans (earlier r first) (later y second)

theorem insert_eq_joinFrom (c : Coverage) (low high : Int) : ∃ a b rest,
    c.takeWhile (before · (low, high)) ++ (low, high) :: c.dropWhile (before · (low, high)) =
      (a, b) :: rest ∧ c.insert low high = joinFrom a b rest := by
  cases taken : c.takeWhile (before · (low, high)) with
  | nil => exact ⟨_, _, _, rfl, by rw [insert, taken]; rfl⟩
  | cons r others => exact ⟨r.1, r.2, _, rfl, by rw [insert, taken]; rfl⟩

theorem Apart.insert (apart : c.Apart) : (c.insert low high).Apart := by
  have sorted := sorted_inserted apart.sorted (low, high)
  obtain ⟨a, b, rest, whole, joined⟩ := insert_eq_joinFrom c low high
  rw [whole] at sorted
  rw [joined]
  exact apart_joinFrom sorted

theorem holds_insert_iff (apart : c.Apart) :
    (c.insert low high).Holds v ↔ c.Holds v ∨ (low ≤ v ∧ v ≤ high) := by
  refine ⟨Holds.of_insert, fun h => ?_⟩
  have sorted := sorted_inserted apart.sorted (low, high)
  obtain ⟨a, b, rest, whole, joined⟩ := insert_eq_joinFrom c low high
  rw [joined]
  refine Holds.joinFrom (whole ▸ sorted) (whole ▸ ?_)
  rw [← List.takeWhile_append_dropWhile (p := (before · (low, high))) (l := c), holds_append] at h
  rw [holds_append, holds_cons]
  tauto

/-- Where no two ranges touch, a range whose numbers all lie in some of them lies in one. -/
theorem covers_iff (apart : c.Apart) (some : low ≤ high) :
    c.covers low high = true ↔ ∀ v, low ≤ v → v ≤ high → c.Holds v := by
  refine ⟨fun covers v => Holds.of_covers covers, fun all => ?_⟩
  obtain ⟨r, inside, above, below⟩ := all low (Int.le_refl _) some
  refine List.any_eq_true.2 ⟨r, inside, ?_⟩
  simp only [Bool.and_eq_true, decide_eq_true_eq]
  refine ⟨above, Int.not_lt.1 fun short => ?_⟩
  -- The number right behind the range that holds the lower bound is in no other range.
  obtain ⟨r', inside', above', below'⟩ := all (r.2 + 1) (by omega) (by omega)
  have separate : c.Pairwise fun x y => x.2 + 1 < y.1 ∨ y.2 + 1 < x.1 :=
    apart.imp fun h => .inl h.2
  have other : r ≠ r' := by
    rintro rfl
    omega
  have : Std.Symm fun x y : Int × Int => x.2 + 1 < y.1 ∨ y.2 + 1 < x.1 := ⟨fun _ _ => Or.symm⟩
  have := separate.forall inside inside' other
  omega

end Coverage

/-- The numbers that the bounds of a range can have: those of the script where they are known. -/
structure SwitchRange.Becomes (r : SwitchRange) (bounds : Int × Int) : Prop where
  low : ∀ v p, r.low = .num v p → bounds.1 = v
  high : ∀ v p, r.high = .num v p → bounds.2 = v

theorem SwitchRange.Becomes.of_known {r : SwitchRange} {bounds : Int × Int} {low high : Int}
    (becomes : r.Becomes bounds) (known : r.known? = some (low, high)) : bounds = (low, high) := by
  unfold known? at known
  split at known
  · next isLow isHigh =>
    cases known
    exact Prod.ext (becomes.low _ _ isLow) (becomes.high _ _ isHigh)
  · cases known

namespace Switch

open Stateful

/-- A number lies in a range, given the bounds of all ranges. -/
def HeldBy (bounds : List (Int × Int)) (v : Int) (i : Nat) : Prop :=
  ∃ b, bounds[i]? = some b ∧ b.1 ≤ v ∧ v ≤ b.2

/-- A number lies in a range with known bounds that is not left out. -/
def CoveredBy (rs : List SwitchRange) (out : List Bool) (v : Int) (i : Nat) : Prop :=
  out[i]? = some false ∧ ∃ r low high, rs[i]? = some r ∧ r.known? = some (low, high) ∧
    low ≤ v ∧ v ≤ high

variable {rs : List SwitchRange} {covered : Coverage}

theorem length_leftOut (rs : List SwitchRange) (covered : Coverage) :
    (leftOut rs covered).length = rs.length := by
  induction rs generalizing covered with
  | nil => rfl
  | cons r rest ih =>
    unfold leftOut
    split
    · split <;> simp [ih]
    · simp [ih]

/-- What leaving out does about the first range. -/
theorem leftOut_cons (apart : covered.Apart) (r : SwitchRange) (rest : List SwitchRange) :
    ∃ o covered', leftOut (r :: rest) covered = o :: leftOut rest covered' ∧ covered'.Apart ∧
      (∀ v, covered'.Holds v ↔
        covered.Holds v ∨ CoveredBy (r :: rest) (leftOut (r :: rest) covered) v 0) ∧
      (r.known? = none → o = false) ∧
      ∀ low high, r.known? = some (low, high) → low ≤ high →
        (o = true ↔ ∀ v, low ≤ v → v ≤ high → covered.Holds v) := by
  have first (o : Bool) (out : List Bool) (v : Int) : CoveredBy (r :: rest) (o :: out) v 0 ↔
      o = false ∧ ∃ low high, r.known? = some (low, high) ∧ low ≤ v ∧ v ≤ high := by
    simp [CoveredBy]
  rw [leftOut]
  cases known : r.known? with
  | none => exact ⟨false, covered, rfl, apart, fun v => by simp [first, known], fun _ => rfl,
      fun _ _ same => by cases same⟩
  | some b =>
    obtain ⟨low, high⟩ := b
    dsimp only
    have decides {o : Bool} (isOut : o = covered.covers low high) (low' high' : Int)
        (same : some (low, high) = some (low', high')) (nonempty : low' ≤ high') :
        o = true ↔ ∀ v, low' ≤ v → v ≤ high' → covered.Holds v := by
      obtain ⟨rfl, rfl⟩ := Prod.mk.inj (Option.some.inj same)
      rw [isOut, Coverage.covers_iff apart nonempty]
    split
    · next covers =>
      exact ⟨true, covered, rfl, apart, fun v => by simp [first],
        fun none => absurd none (Option.some_ne_none _), decides covers.symm⟩
    · next uncovered =>
      refine ⟨false, covered.insert low high, rfl, apart.insert, fun v => ?_, fun _ => rfl,
        decides (Bool.eq_false_iff.2 uncovered).symm⟩
      rw [first, Coverage.holds_insert_iff apart]
      simp [known, and_assoc]

/-- A range is left out exactly if all its numbers are covered. -/
theorem leftOut_iff (apart : covered.Apart) {i : Nat} {r : SwitchRange} (found : rs[i]? = some r) :
    (r.known? = none → (leftOut rs covered)[i]? = some false) ∧
    ∀ low high, r.known? = some (low, high) → low ≤ high →
      ((leftOut rs covered)[i]? = some true ↔ ∀ v, low ≤ v → v ≤ high →
        covered.Holds v ∨ ∃ j < i, CoveredBy rs (leftOut rs covered) v j) := by
  induction rs generalizing covered i with
  | nil => cases found
  | cons x rest ih =>
    obtain ⟨o, covered', out, apart', holds, unknown, isKnown⟩ := leftOut_cons apart x rest
    cases i with
    | zero =>
      obtain rfl := Option.some.inj found
      simpa [out] using ⟨unknown, isKnown⟩
    | succ i =>
      have tail (v : Int) (j : Nat) :
          CoveredBy (x :: rest) (leftOut (x :: rest) covered) v (j + 1) ↔
            CoveredBy rest (leftOut rest covered') v j := by
        simp [CoveredBy, out]
      have same (v : Int) :
          (covered'.Holds v ∨ ∃ j < i, CoveredBy rest (leftOut rest covered') v j) ↔
            covered.Holds v ∨
              ∃ j < i + 1, CoveredBy (x :: rest) (leftOut (x :: rest) covered) v j := by
        rw [holds, or_assoc, Nat.exists_lt_succ_left]
        simp only [tail]
      have later := ih apart' (i := i) (by simpa using found)
      simp only [same] at later
      simpa [out] using later

/-- The first range of a switch that holds a number is the first one of those that are not left
out. -/
theorem isLeast_heldBy_iff {bounds : List (Int × Int)}
    (becomes : List.Forall₂ SwitchRange.Becomes rs bounds) (v : Int) (i : Nat) :
    IsLeast {i | HeldBy bounds v i} i ↔
      IsLeast {i | (leftOut rs [])[i]? = some false ∧ HeldBy bounds v i} i := by
  -- What is left out has another range before it that holds the same number and is not left out.
  have covered {j : Nat} (held : HeldBy bounds v j) : (leftOut rs [])[j]? = some false ∨
      ∃ k < j, (leftOut rs [])[k]? = some false ∧ HeldBy bounds v k := by
    obtain ⟨b, found, above, below⟩ := held
    have inside : j < rs.length := becomes.length_eq ▸ (List.getElem?_eq_some_iff.1 found).1
    have range := List.getElem?_eq_getElem inside
    obtain ⟨unknown, isKnown⟩ := leftOut_iff List.Pairwise.nil range
    have becomesAt {k : Nat} {r : SwitchRange} (range : rs[k]? = some r) :
        ∃ b, bounds[k]? = some b ∧ r.Becomes b := by
      obtain ⟨below, rfl⟩ := List.getElem?_eq_some_iff.1 range
      have below' : k < bounds.length := becomes.length_eq ▸ below
      exact ⟨_, List.getElem?_eq_getElem below', becomes.get below below'⟩
    obtain ⟨b', found', own⟩ := becomesAt range
    obtain rfl := Option.some.inj (found.symm.trans found')
    cases known : rs[j].known? with
    | none => exact .inl (unknown known)
    | some x =>
      obtain ⟨low, high⟩ := x
      obtain rfl := own.of_known known
      have out := isKnown low high known (Int.le_trans above below)
      have listed : j < (leftOut rs []).length := by rwa [length_leftOut]
      rw [List.getElem?_eq_getElem listed] at out ⊢
      cases isOut : (leftOut rs [])[j] with
      | false => exact .inl rfl
      | true =>
        obtain empty | ⟨k, before, kept, r, low', high', range', known', above', below'⟩ :=
          out.1 (congrArg some isOut) v above below
        · exact absurd empty Coverage.not_holds_nil
        · obtain ⟨b, found, becomes⟩ := becomesAt range'
          obtain rfl := becomes.of_known known'
          exact .inr ⟨k, before, kept, _, found, above', below'⟩
  constructor
  · intro ⟨held, least⟩
    obtain kept | ⟨k, before, kept, earlier⟩ := covered held
    · exact ⟨⟨kept, held⟩, fun j other => least other.2⟩
    · exact absurd (least earlier) (Nat.not_le.2 before)
  · intro ⟨⟨kept, held⟩, least⟩
    refine ⟨held, fun j other => ?_⟩
    obtain kept | ⟨k, before, kept, earlier⟩ := covered other
    · exact least ⟨kept, other⟩
    · exact Nat.le_trans (least ⟨kept, earlier⟩) (Nat.le_of_lt before)

theorem Writes.kept {s : Switch} {c : ChainNode} (writes : s.Writes c.ranges)
    (some : 0 < s.body.ranges.length) :
    Kept s.body.ranges (leftOut s.body.ranges []) c.ranges := by
  have regular : ¬s.isBare = true := fun bare => by
    simp [ranges_of_isBare bare] at some
  unfold Writes at writes
  rwa [if_neg regular] at writes

/-- Making the node of a switch writes all of its ranges that are not left out. -/
theorem draft_writes {s : Switch} {id node : Nat} {params : List (Nat × String)} {u t : Session}
    {d d' : NewGrf.Draft} (run : draft id s params d u = .ok (node, d') t) :
    ∃ c, (t.graph.node node).body = .chain c ∧ s.Writes c.ranges := by
  obtain ⟨e, u₁, -, run⟩ := lift_bind_eq_ok.1 run
  obtain ⟨chain, u₂, -, run⟩ := lift_bind_eq_ok.1 run
  replace run := modify_bind_eq_ok.1 run
  replace run := modify_bind_eq_ok.1 run
  obtain ⟨own, u₃, made, run⟩ := lift_bind_eq_ok.1 run
  obtain ⟨-, inside, -⟩ := Chain.newNode_eq_ok made
  obtain ⟨computed, d₁, u₄, returning, run⟩ := bind_eq_ok.1 run
  have grown := ((Passes.keeps (R := .growing) _).of_ok returning).1
  have below := Nat.lt_of_lt_of_le inside grown.size
  obtain ⟨⟨ranges, offset⟩, d₂, u₅, ranged, run⟩ := bind_eq_ok.1 run
  obtain ⟨grown, writes⟩ := (nodeRanges_writes s computed _ _ trivial).of_ok ranged
  replace below := Nat.lt_of_lt_of_le below grown.size
  dsimp only at run
  split at run
  · obtain ⟨_, _, failed, -⟩ := lift_bind_eq_ok.1 run
    exact (Build.fail_ne_ok.1 failed).elim
  · obtain ⟨⟨default, note⟩, d₃, u₆, otherwise, run⟩ := bind_eq_ok.1 run
    have grown := ((Passes.keeps (R := .growing) _).of_ok otherwise).1
    obtain ⟨_, u₇, filled, run⟩ := lift_bind_eq_ok.1 run
    obtain ⟨_, u₈, listed, run⟩ := lift_bind_eq_ok.1 run
    obtain ⟨rfl, -, rfl⟩ := pure_eq_ok.1 run
    obtain rfl := Build.modify_eq_ok.1 filled
    obtain rfl := Build.modify_eq_ok.1 listed
    exact ⟨_, congrArg Node.body (Graph.node_modifyNode (Nat.lt_of_lt_of_le below grown.size)),
      writes⟩

/-- The node of a switch has its ranges in their order, except for some with known bounds. The first
range that holds a number is the same with and without these, whatever becomes of the bounds that
are not known. A range with known bounds that holds a number at all is left out exactly if each of
its numbers lies in a range before it that has known bounds and is not left out. -/
theorem dropped_ranges_unreachable {s : Switch} {id : Nat} {u t : Session} {actions : List Action}
    (run : s.actions id u = .ok actions t) :
    ∃ node c out, actions.getLast? = some (.node node) ∧ (t.graph.node node).body = .chain c ∧
      (s.body.ranges ≠ [] → Kept s.body.ranges out c.ranges) ∧
      (∀ bounds v, List.Forall₂ SwitchRange.Becomes s.body.ranges bounds → ∀ i,
        IsLeast {i | HeldBy bounds v i} i ↔
          IsLeast {i | out[i]? = some false ∧ HeldBy bounds v i} i) ∧
      ∀ i r, s.body.ranges[i]? = some r →
        (r.known? = none → out[i]? = some false) ∧
        ∀ low high, r.known? = some (low, high) → low ≤ high →
          (out[i]? = some true ↔
            ∀ v, low ≤ v → v ≤ high → ∃ j < i, CoveredBy s.body.ranges out v j) := by
  obtain ⟨_, _, -, run⟩ := Build.bind_eq_ok.1 run
  obtain ⟨_, _, -, run⟩ := Build.bind_eq_ok.1 run
  obtain ⟨sets, _, -, run⟩ := Build.bind_eq_ok.1 run
  obtain ⟨cells, u₁, -, run⟩ := Build.bind_eq_ok.1 run
  obtain ⟨⟨node, d⟩, u₂, drafted, run⟩ := Build.bind_eq_ok.1 run
  obtain ⟨_, _, restored, run⟩ := Build.bind_eq_ok.1 run
  obtain ⟨rfl, rfl⟩ := Build.pure_eq_ok.1 run
  obtain ⟨c, isChain, writes⟩ := draft_writes drafted
  have same := (Assign.restoreParams_still.of_ok restored).1.nodes
  refine ⟨node, c, leftOut s.body.ranges [], by simp, by rw [Graph.node, same]; exact isChain,
    fun some => writes.kept (List.length_pos_iff.2 some),
    fun bounds v becomes => isLeast_heldBy_iff becomes v, fun i r found => ?_⟩
  simpa using leftOut_iff List.Pairwise.nil found

/-- Of the ranges 1 to 4, 5 to 10 and 3 to 7 the third one is left out, although it lies in neither
of the other two. -/
def touchingRanges : Switch :=
  let range (low high value : Int) : SwitchRange :=
    { low := .num low none, high := .num high none, single := false
      result := ⟨some (.num value none), true, none⟩ }
  { feature := 0, varRange := .self, name := ⟨"sw", none⟩, params := []
    expr := .var 0x40 0 0xFF, pos := default
    body :=
      { ranges := [range 1 4 1, range 5 10 2, range 3 7 3]
        default := some ⟨some (.num 4 none), true, none⟩ } }

theorem range_over_two_dropped : ∃ actions t node c out,
    touchingRanges.actions 0 {} = .ok actions t ∧ actions.getLast? = some (.node node) ∧
    (t.graph.node node).body = .chain c ∧ Kept touchingRanges.body.ranges out c.ranges ∧
    out[2]? = some true := by
  obtain ⟨actions, t, run⟩ : ∃ actions t, touchingRanges.actions 0 {} = .ok actions t := ⟨_, _, rfl⟩
  obtain ⟨node, c, out, last, isChain, kept, -, dropped⟩ := dropped_ranges_unreachable run
  replace kept := kept (List.cons_ne_nil _ _)
  have first : ¬out[0]? = some true := fun isOut => by
    obtain ⟨j, before, -⟩ :=
      ((dropped 0 _ rfl).2 1 4 rfl (by decide)).1 isOut 1 (by decide) (by decide)
    exact absurd before (Nat.not_lt_zero j)
  have second : ¬out[1]? = some true := fun isOut => by
    obtain ⟨j, before, -, r, low, high, found, known, above, below⟩ :=
      ((dropped 1 _ rfl).2 5 10 rfl (by decide)).1 isOut 5 (by decide) (by decide)
    obtain rfl : j = 0 := by omega
    obtain rfl := Option.some.inj found
    cases known
    omega
  obtain ⟨isFirst, isSecond⟩ : out[0]? = some false ∧ out[1]? = some false := by
    generalize c.ranges = written at kept
    cases kept with
    | skip => exact absurd rfl first
    | keep _ later =>
      cases later with
      | skip => exact absurd rfl second
      | keep => exact ⟨rfl, rfl⟩
  refine ⟨actions, t, node, c, out, run, last, isChain, kept,
    ((dropped 2 _ rfl).2 3 7 rfl (by decide)).2 fun v above below => ?_⟩
  by_cases small : v ≤ 4
  · exact ⟨0, by decide, isFirst, _, 1, 4, rfl, rfl, by omega, small⟩
  · exact ⟨1, by decide, isSecond, _, 5, 10, rfl, rfl, by omega, by omega⟩

end Switch

end NewGrf

import NewGrf.Proofs.KnownValues

open List

namespace NewGrf

open Build

namespace PropertyRow

/-- The vehicle that an action moves, and the one that it is put before. -/
def move? (r : PropertyRow) : Option (Nat × Nat) :=
  match r.values with
  | [0xFF, low, high] => some (r.first, low + 256 * high)
  | _ => none

end PropertyRow

namespace Property

/-- Puts a vehicle right before another one, if it is in the list and not that one. -/
def moveBefore (order : List Nat) (move : Nat × Nat) : List Nat :=
  if move.1 = move.2 ∨ move.1 ∉ order then order
  else (order.filter (· ≠ move.1)).flatMap fun v => if v = move.2 then [move.1, v] else [v]

/-- The order of vehicles behind some actions. -/
def reordered (order : List Nat) (rows : List PropertyRow) : List Nat :=
  (rows.filterMap PropertyRow.move?).foldl moveBefore order

section Moves

variable {order built now before after tail : List Nat} {first v w : Nat}

theorem filter_other {l : List Nat} (outside : v ∉ l) : l.filter (· ≠ v) = l := by
  rw [filter_eq_self]
  exact fun x mem => decide_eq_true fun same => outside (same ▸ mem)

theorem insert_before (inBefore : w ∉ before) (inAfter : w ∉ after) :
    (before ++ w :: after).flatMap (fun x => if x = w then [v, x] else [x]) =
      before ++ v :: w :: after := by
  have single {l : List Nat} (outside : w ∉ l) :
      l.flatMap (fun x => if x = w then [v, x] else [x]) = l := by
    induction l with
    | nil => rfl
    | cons x l ih =>
      rw [mem_cons, not_or] at outside
      rw [flatMap_cons, if_neg (Ne.symm outside.1), ih outside.2, singleton_append]
  rw [flatMap_append, flatMap_cons, if_pos rfl, single inBefore, single inAfter]
  rfl

/-- A vehicle goes to its place, and all others keep their order. -/
theorem moveBefore_eq (nodup : (before ++ tail).Nodup) (inside : v ∈ before ++ tail)
    (isNext : tail.head? = some w) (other : v ≠ w) : moveBefore (before ++ tail) (v, w) =
      before.filter (· ≠ v) ++ v :: tail.filter (· ≠ v) := by
  obtain ⟨rest, rfl⟩ := head?_eq_some_iff.1 isNext
  obtain ⟨-, behind, apart⟩ := nodup_append.1 nodup
  have inBefore : w ∉ before.filter (· ≠ v) := fun mem =>
    apart w (mem_filter.1 mem).1 w mem_cons_self rfl
  have inRest : w ∉ rest.filter (· ≠ v) := fun mem =>
    (nodup_cons.1 behind).1 (mem_filter.1 mem).1
  have kept : (w :: rest).filter (· ≠ v) = w :: rest.filter (· ≠ v) :=
    filter_cons_of_pos (decide_eq_true other.symm)
  rw [moveBefore, if_neg (not_or_intro other (not_not_intro inside)), filter_append, kept]
  exact insert_before inBefore inRest

/-- Some vehicles stand right before the first one, and all others are in their old order. -/
structure Placed (order built : List Nat) (first : Nat) (now before after : List Nat) : Prop where
  shape : now = before ++ (built ++ first :: after)
  others : before ++ first :: after = order.filter (· ∉ built)

theorem Placed.nodup (placed : Placed order built first now before after) (distinct : order.Nodup)
    (apart : built.Nodup) : now.Nodup := by
  have rest : (before ++ first :: after).Nodup := placed.others ▸ distinct.filter _
  have disjoint : ∀ v ∈ built, ∀ u ∈ before ++ first :: after, v ≠ u := by
    rintro v mem u other rfl
    rw [placed.others, mem_filter] at other
    simp [mem] at other
  have whole : (built ++ (before ++ first :: after)).Nodup := nodup_append.2 ⟨apart, rest, disjoint⟩
  rw [placed.shape, (perm_append_comm_assoc before built _).nodup_iff]
  exact whole

theorem Placed.move (placed : Placed order built first now before after) (distinct : order.Nodup)
    (apart : (v :: built).Nodup) (inside : v ∈ order) (other : v ≠ first)
    (isNext : (built ++ [first]).head? = some w) :
    Placed order (v :: built) first (moveBefore now (v, w)) (before.filter (· ≠ v))
      (after.filter (· ≠ v)) := by
  rw [nodup_cons] at apart
  have nodup := placed.nodup distinct apart.2
  have member : v ∈ before ++ (built ++ first :: after) := by
    have : v ∈ before ++ first :: after := by
      rw [placed.others, mem_filter]
      exact ⟨inside, decide_eq_true apart.1⟩
    simp only [mem_append, mem_cons] at this ⊢
    tauto
  have head : (built ++ first :: after).head? = some w := by
    cases built with
    | nil => exact isNext
    | cons b rest => exact isNext
  have elsewhere : v ≠ w := by
    rintro rfl
    have := mem_of_mem_head? isNext
    simp [apart.1, other] at this
  have kept : (first :: after).filter (· ≠ v) = first :: after.filter (· ≠ v) :=
    filter_cons_of_pos (decide_eq_true other.symm)
  constructor
  · rw [placed.shape] at nodup ⊢
    rw [moveBefore_eq nodup member head elsewhere, filter_append, kept, filter_other apart.1,
      cons_append]
  · rw [← kept, ← filter_append, placed.others, filter_filter]
    refine filter_congr fun u _ => ?_
    simp

/-- The vehicles are put in their places from the last one on. -/
theorem foldl_placed {todo : List Nat} (placed : Placed order built first now before after)
    (distinct : order.Nodup) (apart : (todo.reverse ++ built).Nodup)
    (inside : ∀ v ∈ todo, v ∈ order) (other : first ∉ todo)
    (isNext : (built ++ [first]).head? = some w) :
    ∃ before after, Placed order (todo.reverse ++ built) first
      ((todo.zip (w :: todo)).foldl moveBefore now) before after := by
  induction todo generalizing built now before after w with
  | nil => exact ⟨before, after, placed⟩
  | cons v todo ih =>
    rw [forall_mem_cons] at inside
    rw [mem_cons, not_or] at other
    rw [reverse_cons, append_assoc, singleton_append] at apart ⊢
    have moved := placed.move distinct (nodup_append.1 apart).2.1 inside.1 (Ne.symm other.1) isNext
    exact ih moved apart inside.2 other.2 rfl

/-- At last the first vehicle follows, and what it is put before is the second one. -/
theorem Placed.finish (placed : Placed order built first now before after) (distinct : order.Nodup)
    (apart : (first :: built).Nodup) (isNext : built.head? = some w) :
    moveBefore now (first, w) = before ++ (first :: built) ++ after ∧
      before ++ after = order.filter (· ∉ first :: built) := by
  rw [nodup_cons] at apart
  have nodup := placed.nodup distinct apart.2
  rw [placed.shape] at nodup ⊢
  obtain ⟨-, behind, separate⟩ := nodup_append.1 nodup
  have inBefore : first ∉ before := fun mem => separate first mem first (by simp) rfl
  have inAfter : first ∉ after := (nodup_cons.1 (nodup_append.1 behind).2.1).1
  have head : (built ++ first :: after).head? = some w := by
    rw [head?_append, isNext]
    rfl
  have elsewhere : first ≠ w := by
    rintro rfl
    exact apart.1 (mem_of_mem_head? isNext)
  have dropped : (first :: after).filter (· ≠ first) = after := by
    rw [filter_cons_of_neg (by simp), filter_other inAfter]
  constructor
  · rw [moveBefore_eq nodup (by simp) head elsewhere, filter_append, dropped, filter_other apart.1,
      filter_other inBefore, append_assoc, cons_append]
  · calc before ++ after = (before ++ first :: after).filter (· ≠ first) := by
          rw [filter_append, dropped, filter_other inBefore]
      _ = order.filter (· ∉ first :: built) := by
          rw [placed.others, filter_filter]
          refine filter_congr fun u _ => ?_
          simp

/-- The moves for some vehicles: the last one before the first, then each one before the one that
follows it. -/
def moves (vs : List Nat) : List (Nat × Nat) := vs.reverse.zip (vs.headD 0 :: vs.reverse)

theorem mem_of_mem_moves {vs : List Nat} {m : Nat × Nat} (nonempty : vs ≠ []) (mem : m ∈ moves vs) :
    m.1 ∈ vs ∧ m.2 ∈ vs := by
  obtain ⟨v, vs, rfl⟩ := exists_cons_of_ne_nil nonempty
  obtain ⟨moved, behind⟩ := of_mem_zip mem
  rw [headD_cons, mem_cons, mem_reverse] at behind
  exact ⟨mem_reverse.1 moved, behind.elim (fun same => same ▸ mem_cons_self) id⟩

theorem moves_cons (first second : Nat) (rest : List Nat) : moves (first :: second :: rest) =
    (second :: rest).reverse.zip (first :: (second :: rest).reverse) ++ [(first, second)] := by
  have same : (rest.reverse ++ [second]).length = (first :: rest.reverse).length := by simp
  have all : (first :: (rest.reverse ++ [second] ++ [first])) =
      (first :: rest.reverse) ++ [second, first] := by simp
  have few : (rest.reverse ++ [second]).zip ((first :: rest.reverse) ++ [second]) =
      (rest.reverse ++ [second]).zip (first :: rest.reverse) := by
    conv_lhs => rw [← append_nil (rest.reverse ++ [second]), zip_append same, zip_nil_left]
    rw [append_nil]
  rw [moves, reverse_cons, reverse_cons, headD_cons, all, zip_append same, ← cons_append, few]
  rfl

theorem foldl_moves {vs : List Nat} (distinct : order.Nodup) (apart : vs.Nodup)
    (inside : ∀ v ∈ vs, v ∈ order) (several : 2 ≤ vs.length) :
    ∃ before after, (moves vs).foldl moveBefore order = before ++ vs ++ after ∧
      before ++ after = order.filter (· ∉ vs) := by
  obtain ⟨first, second, rest, rfl⟩ : ∃ first second rest, vs = first :: second :: rest := by
    rcases vs with _ | ⟨a, _ | ⟨b, l⟩⟩
    · simp at several
    · simp at several
    · exact ⟨a, b, l, rfl⟩
  rw [forall_mem_cons] at inside
  obtain ⟨before, after, split⟩ := append_of_mem inside.1
  have start : Placed order [] first order before after :=
    ⟨by rw [nil_append, split], by simp [split]⟩
  obtain ⟨new, tail⟩ := nodup_cons.1 apart
  have rest' : ((second :: rest).reverse.reverse ++ []).Nodup := by simpa using tail
  obtain ⟨before', after', placed⟩ := foldl_placed start distinct rest'
    (fun v mem => inside.2 v (mem_reverse.1 mem)) (fun mem => new (mem_reverse.1 mem)) rfl
  rw [reverse_reverse, append_nil] at placed
  rw [moves_cons, foldl_append]
  exact ⟨before', after', placed.finish distinct apart rfl⟩

end Moves

section Actions

variable {g : Game} {feature number : Int} {s : Session} {start : Loading}

/-- The action for a move, and what the game reads from it. -/
def orderAction (feature number : Int) (move : Nat × Nat) : PropertyAction :=
  { feature, first := move.1, properties := [.values number [.number move.2] 3] }

def orderRow (feature number : Int) (move : Nat × Nat) : PropertyRow where
  feature := Number.lowBytes feature 1
  count := 1
  first := move.1
  number := Number.lowBytes number 1
  values := [0xFF, move.2 % 256, move.2 / 256]

theorem move?_orderRow (move : Nat × Nat) : (orderRow feature number move).move? = some move := by
  have whole : move.2 % 256 + 256 * (move.2 / 256) = move.2 := Nat.mod_add_div ..
  simp [PropertyRow.move?, orderRow, whole]

theorem reordered_orderRows (order : List Nat) (ms : List (Nat × Nat)) :
    reordered order (ms.map (orderRow feature number)) = ms.foldl moveBefore order := by
  have all : (ms.map (orderRow feature number)).filterMap PropertyRow.move? = ms := by
    rw [filterMap_map]
    exact (filterMap_congr fun m _ => move?_orderRow m).trans filterMap_some
  rw [reordered, all]

theorem bytes_orderAction (move : Nat × Nat) (s : Session) :
    (orderAction feature number move).bytes s =
      PropertyRow.head feature 1 move.1 number ++ 0xFF :: Number.bytes move.2 2 := by
  refine PropertyAction.bytes_single rfl rfl ?_
  simp [PropertyData.fixedPieces, PropertyValue.pieces, Piece.ofSize, Piece.hex, Piece.line,
    Piece.content, Piece.bytes, Number.bytes, Number.lowBytes_one]

theorem run_orderActions (idle : start.Idle) {ms : List (Nat × Nat)}
    (small : ∀ m ∈ ms, m.1 < 65536 ∧ m.2 < 65536) (u : Session) :
    (start.run g (ms.map fun m => .properties (orderAction feature number m))).log.rows u =
      start.log.rows u ++ ms.map fun m => some (orderRow feature number m) := by
  induction ms generalizing start with
  | nil => simp
  | cons m ms ih =>
    rw [forall_mem_cons] at small
    have bytes : ∀ u, (orderAction feature number m).bytes u = _ := bytes_orderAction m
    obtain ⟨moved, -, added⟩ := Loading.run_row (g := g) idle (forall_mem_nil _)
      ((@Patched.nil [] _).plain (0xFF :: Number.bytes m.2 2)) bytes
    have first : PropertyRow.firstItem [] m.1 = m.1 := by
      rw [PropertyRow.firstItem_nil, Number.lowBytes, show Number.twoPow (8 * 2) = 65536 from rfl]
      omega
    have value : (0xFF :: Number.bytes m.2 2).map UInt8.toNat =
        [0xFF, m.2 % 256, m.2 / 256] := by
      have low : (Number.lowBytes m.2 1) = m.2 % 256 := by
        rw [Number.lowBytes_one]
        omega
      have high : (Number.lowBytes (m.2 / 256 : Int) 1) = m.2 / 256 := by
        rw [Number.lowBytes_one]
        omega
      simp [Number.bytes, low, high]
      omega
    have once : start.run g (Assign.withPatches [] ([] ++ [])
        (.properties (orderAction feature number m))) =
      start.step g (.properties (orderAction feature number m)) := rfl
    rw [once] at moved added
    rw [map_cons, map_cons, Loading.run_cons, ih moved small.2, added u, append_assoc]
    simp only [orderAction, first, value, orderRow, map_nil, nil_append, singleton_append]
    rfl

theorem valueOf_small {v : Int} (low : 0 ≤ v) (high : v < 65536) (pos : Option Position) :
    valueOf number v 3 pos s = .ok (.values number [.number v] 3) s := by
  have limit : (Number.twoPow (8 * 3) : Int) = 16777216 := rfl
  have notLarge : ¬ (16777216 : Int) ≤ v := by omega
  have notNegative : ¬ v < 0 := by omega
  simp [valueOf, valuesOf, limit, notLarge, notNegative]

theorem mapM_eq_ok {α β : Type} {f : α → Build β} {h : α → β} {xs : List α}
    (each : ∀ x ∈ xs, f x s = .ok (h x) s) : xs.mapM f s = .ok (xs.map h) s := by
  induction xs with
  | nil => rfl
  | cons x xs ih =>
    rw [forall_mem_cons] at each
    rw [mapM_cons, bind_eq_ok]
    refine ⟨_, _, each.1, bind_eq_ok.2 ⟨_, _, ih each.2, rfl⟩⟩

theorem sort_eq_ok {ids : List (Int × Option Position)} {vs : List Nat}
    (isVehicle : orderNumber feature = some number) (named : ids.map (·.1) = vs.map Int.ofNat)
    (small : ∀ v ∈ vs, v < 65536) (several : 2 ≤ vs.length) : sort feature ids s =
      .ok ((moves vs).map fun m => .properties (orderAction feature number m)) s := by
  have length : ids.length = vs.length := by simpa using congrArg length named
  obtain ⟨a, b, rest, rfl⟩ : ∃ a b rest, ids = a :: b :: rest := by
    rcases ids with _ | ⟨a, _ | ⟨b, rest⟩⟩
    · simp at length; omega
    · simp at length; omega
    · exact ⟨a, b, rest, rfl⟩
  let pairs := (a :: b :: rest).reverse.zip (a :: (a :: b :: rest).reverse)
  have projected : pairs.map (Prod.map (·.1) (·.1)) =
      (moves vs).map (Prod.map Int.ofNat Int.ofNat) := by
    have first : a.1 = Int.ofNat (vs.headD 0) := by
      cases vs with
      | nil => cases named
      | cons v vs => exact (cons.inj named).1
    rw [moves, ← zip_map, ← zip_map, map_cons, map_cons, map_reverse, map_reverse, named, first]
  let made (m : Int × Int) : Action :=
    .properties { feature, first := m.1, properties := [.values number [.number m.2] 3] }
  have each : ∀ x ∈ pairs, (do
      let data ← valueOf number x.2.1 3 x.2.2
      pure (.properties { feature, first := x.1.1, properties := [data] }) : Build Action) s =
        .ok (made (Prod.map (·.1) (·.1) x)) s := by
    intro x mem
    obtain ⟨m, inside, same⟩ := mem_map.1 (projected ▸ mem_map_of_mem mem)
    have behind : x.2.1 = (m.2 : Int) := (congrArg (·.2) same).symm
    have nonempty : vs ≠ [] := ne_nil_of_length_pos (by omega)
    have bound : m.2 < 65536 := small _ (mem_of_mem_moves nonempty inside).2
    rw [bind_eq_ok]
    exact ⟨_, _, valueOf_small (by omega) (by omega) x.2.2, rfl⟩
  unfold sort
  simp only [isVehicle]
  have all : pairs.map (fun x => made (Prod.map (·.1) (·.1) x)) =
      (pairs.map (Prod.map (·.1) (·.1))).map made := by
    rw [map_map]
    rfl
  refine (mapM_eq_ok each).trans ?_
  rw [all, projected, map_map]
  rfl

/-- The vehicles that a script puts in an order stand next to each other in that order in the end,
whatever the order was, and all others are in the order that they had. -/
theorem sorted_vehicles_adjacent {ids : List (Int × Option Position)} {vs order : List Nat}
    (isVehicle : orderNumber feature = some number) (named : ids.map (·.1) = vs.map Int.ofNat)
    (several : 2 ≤ vs.length) (apart : vs.Nodup) (inside : ∀ v ∈ vs, v ∈ order)
    (distinct : order.Nodup) (numbers : ∀ v ∈ order, v < 65536) (idle : start.Idle) :
    ∃ actions rows, sort feature ids s = .ok actions s ∧
      (∀ u, (start.run g actions).log.rows u = start.log.rows u ++ rows.map some) ∧
      (∀ row ∈ rows, (row.feature : Int) = feature ∧ (row.number : Int) = number ∧ row.count = 1 ∧
        row.move?.isSome) ∧
      ∃ before after, reordered order rows = before ++ vs ++ after ∧
        before ++ after = order.filter (· ∉ vs) := by
  have small : ∀ v ∈ vs, v < 65536 := fun v mem => numbers v (inside v mem)
  have nonempty : vs ≠ [] := ne_nil_of_length_pos (by omega)
  refine ⟨_, (moves vs).map (orderRow feature number), sort_eq_ok isVehicle named small several,
    fun u => ?_, ?_, ?_⟩
  · rw [run_orderActions idle (fun m mem => ?_) u, map_map]
    · rfl
    · obtain ⟨moved, behind⟩ := mem_of_mem_moves nonempty mem
      exact ⟨small _ moved, small _ behind⟩
  · rw [forall_mem_map]
    intro m _
    refine ⟨?_, ?_, rfl, by rw [move?_orderRow]; rfl⟩
    all_goals
      unfold orderNumber at isVehicle
      split at isVehicle <;> cases isVehicle <;> rfl
  · rw [reordered_orderRows]
    exact foldl_moves distinct apart inside several

theorem ships_put_in_order : ∃ actions rows,
    sort 0x02 [(9, none), (3, none), (11, none), (4, none)] {} = .ok actions {} ∧
      (∀ u, (({ params := fun _ => 0 } : Loading).run (Assign.silentGame fun _ => false)
        actions).log.rows u = rows.map some) ∧
      ∃ before after, reordered [3, 4, 5, 9, 10, 11] rows = before ++ [9, 3, 11, 4] ++ after ∧
        before ++ after = [5, 10] := by
  have isShip : orderNumber 0x02 = some 0x1B := rfl
  have named : [(9, none), (3, none), (11, none), (4, none)].map (·.1 : Int × Option Position → Int)
      = [9, 3, 11, 4].map Int.ofNat := rfl
  have inside : ∀ v ∈ [9, 3, 11, 4], v ∈ [3, 4, 5, 9, 10, 11] := by decide
  have idle : ({ params := fun _ => 0 } : Loading).Idle := ⟨rfl, rfl⟩
  obtain ⟨actions, rows, made, read, -, before, after, placed, others⟩ :=
    sorted_vehicles_adjacent (g := Assign.silentGame fun _ => false) (s := {}) isShip named
      (by decide) (by decide) inside (by decide) (by decide) idle
  exact ⟨actions, rows, made, read, before, after, placed, others⟩

end Actions

end Property

end NewGrf

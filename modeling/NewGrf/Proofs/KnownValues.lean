import Mathlib.Data.List.Induction
import NewGrf.Action.Write
import NewGrf.Proofs.Bytes
import NewGrf.Proofs.Steps
import NewGrf.Property.Snowline

open List

namespace NewGrf

open Build

/-- Whether a build gives a result. -/
def Build.works {α : Type} (m : Build α) (s : Session) : Bool :=
  match m s with
  | .ok .. => true
  | .error .. => false

theorem Build.ok_of_works {α : Type} {m : Build α} {s : Session} (h : m.works s = true) :
    ∃ a t, m s = .ok a t := by
  unfold works at h
  split at h
  case h_1 same => exact ⟨_, _, same⟩
  case h_2 => cases h

/-- The low bytes of a word, the lowest first. -/
def Word.bytes (w : Word) (n : Nat) : List Nat :=
  (range n).map fun i => w.toNat / Number.twoPow (8 * i) % 256

theorem Word.bytes_one (w : Word) : w.bytes 1 = [w.toNat % 256] := by
  simp [bytes, Number.twoPow]

namespace Written

/-- Bytes from an offset on, with those that are written replaced. -/
def overlay (ws : List Written) (offset : Nat) (bytes : List UInt8) : List Nat :=
  (bytes.zipIdx offset).map fun (b, i) => (byteAt? ws i).getD b.toNat

variable {ws more : List Written} {offset i : Nat} {a b : List UInt8}

theorem overlay_append : overlay ws offset (a ++ b) =
    overlay ws offset a ++ overlay ws (offset + a.length) b := by
  rw [overlay, zipIdx_append, map_append]
  rfl

theorem overlay_nil : overlay [] offset a = a.map UInt8.toNat := by
  rw [overlay, ← zipIdx_map_fst offset a, map_map, zipIdx_map_fst]
  rfl

theorem length_overlay : (overlay ws offset a).length = a.length := by simp [overlay]

theorem overlay_congr (same : ∀ i, offset ≤ i → i < offset + a.length →
    byteAt? more i = byteAt? ws i) : overlay more offset a = overlay ws offset a := by
  refine map_congr_left fun x inside => ?_
  obtain ⟨byte, i⟩ := x
  obtain ⟨low, high, -⟩ := mem_zipIdx inside
  exact congrArg (Option.getD · byte.toNat) (same i low high)

theorem byteAt?_append : byteAt? (ws ++ more) i = (byteAt? more i).or (byteAt? ws i) := by
  induction more using reverseRecOn with
  | nil => simp [byteAt?]
  | append_singleton more w ih =>
    simp only [byteAt?, ← append_assoc, foldl_append, foldl_cons, foldl_nil] at ih ⊢
    split
    · rfl
    · exact ih

theorem byteAt?_eq_none (apart : ∀ w ∈ ws, i < w.offset ∨ w.offset + w.size ≤ i) :
    byteAt? ws i = none := by
  induction ws using reverseRecOn with
  | nil => rfl
  | append_singleton ws w ih =>
    rw [forall_mem_append] at apart
    rw [byteAt?_append, ih apart.1]
    have := apart.2 w (by simp)
    simp only [byteAt?, foldl_cons, foldl_nil, Option.or_none]
    rw [if_neg (by omega)]

/-- A parameter is written over zeros. -/
theorem overlay_word (v : Word) (n : Nat) :
    overlay [⟨offset, n, v⟩] offset (replicate n 0) = v.bytes n := by
  apply ext_getElem
  · simp [overlay, Word.bytes]
  · intro i low _
    rw [length_overlay, length_replicate] at low
    simp [overlay, Word.bytes, byteAt?, low]

end Written

/-- An action that sets one property of items in a row, as the game reads it. -/
structure PropertyRow where
  feature : Nat
  count : Nat
  first : Nat
  number : Nat
  values : List Nat
  deriving Repr, DecidableEq

namespace PropertyRow

def read : List Nat → Option PropertyRow
  | 0 :: feature :: 1 :: count :: 0xFF :: low :: high :: number :: values =>
    some { feature, count, first := low + 256 * high, number, values }
  | _ => none

/-- The bytes before the values of the property. -/
def head (feature count first number : Int) : List UInt8 :=
  [0] ++ Number.bytes feature 1 ++ [1] ++ Number.bytes count 1 ++ [0xFF] ++ Number.bytes first 2 ++
    Number.bytes number 1

end PropertyRow

namespace PropertyAction

/-- The bytes of an action that is written. -/
def bytes (p : PropertyAction) (s : Session) : List UInt8 :=
  match p.pieces s with
  | .ok body _ => body.flatMap Piece.content
  | .error .. => []

end PropertyAction

namespace Log

/-- What the game reads from the actions that set properties. -/
def rows (s : Session) (log : Log) : List (Option PropertyRow) :=
  log.filterMap fun (action, ws) => match action with
    | .properties p => some (PropertyRow.read (Written.overlay ws 0 (p.bytes s)))
    | _ => none

end Log

/-- Bytes behind the head of an action, with patches for them. The patches take the values of
parameters that are not free. -/
structure Patched (free : List Int) (params : Params) (patches : List Patch) (bytes : List UInt8)
    (shown : List Nat) : Prop where
  apart : ∀ p ∈ patches, p.param ∉ free
  within : ∀ p ∈ patches, 8 ≤ p.offset ∧ p.offset + p.size ≤ 8 + bytes.length
  overlaid : Written.overlay (patches.map (Patch.written params)) 8 bytes = shown

namespace Patched

variable {free fewer : List Int} {params : Params} {patches : List Patch} {bytes : List UInt8}
  {shown : List Nat}

theorem nil : Patched free params [] [] [] := ⟨by simp, by simp, rfl⟩

/-- Changes of free parameters are not seen. -/
theorem mono (patched : Patched free params patches bytes shown) (within : fewer ⊆ free)
    {later : Params} (same : ∀ n, n ∉ free → later n = params n) :
    Patched fewer later patches bytes shown := by
  refine ⟨fun p inside mem => patched.apart p inside (within mem), patched.within, ?_⟩
  rw [← patched.overlaid]
  congr 1
  refine map_congr_left fun p inside => ?_
  rw [Patch.written, same _ (patched.apart p inside), Patch.written]

theorem byteAt?_behind (patched : Patched free params patches bytes shown) {i : Nat}
    (behind : 8 + bytes.length ≤ i) :
    Written.byteAt? (patches.map (Patch.written params)) i = none := by
  refine Written.byteAt?_eq_none ?_
  rw [forall_mem_map]
  exact fun p inside => .inr (Nat.le_trans (patched.within p inside).2 behind)

theorem plain (patched : Patched free params patches bytes shown) (more : List UInt8) :
    Patched free params patches (bytes ++ more) (shown ++ more.map UInt8.toNat) := by
  refine ⟨patched.apart, fun p inside => ?_, ?_⟩
  · have := patched.within p inside
    rw [length_append]
    omega
  · have behind : Written.overlay (patches.map (Patch.written params)) (8 + bytes.length) more =
        Written.overlay [] (8 + bytes.length) more :=
      Written.overlay_congr fun i low _ => patched.byteAt?_behind low
    rw [Written.overlay_append, patched.overlaid, behind, Written.overlay_nil]

theorem constant (patched : Patched free params patches bytes shown) (v : Int) :
    Patched free params patches (bytes ++ Number.bytes v 1) (shown ++ [Number.lowBytes v 1]) := by
  have low := Number.lowBytes_one_lt v
  simpa [Number.bytes, Nat.mod_eq_of_lt low] using patched.plain (Number.bytes v 1)

theorem patch (patched : Patched free params patches bytes shown) {param : Int}
    (taken : param ∉ free) (n : Nat) :
    Patched free params (patches ++ [⟨param, n, 8 + bytes.length⟩]) (bytes ++ replicate n 0)
      (shown ++ (params param).bytes n) := by
  refine ⟨?_, ?_, ?_⟩
  · rw [forall_mem_append, forall_mem_singleton]
    exact ⟨patched.apart, taken⟩
  · rw [forall_mem_append, forall_mem_singleton, length_append, length_replicate]
    refine ⟨fun p inside => ?_, Nat.le_add_right .., Nat.le_of_eq (Nat.add_assoc ..)⟩
    have := patched.within p inside
    omega
  · rw [Written.overlay_append, map_append, map_singleton]
    congr 1
    · rw [← patched.overlaid]
      refine Written.overlay_congr fun i _ high => ?_
      rw [Written.byteAt?_append]
      have other : Written.byteAt? [Patch.written params ⟨param, n, 8 + bytes.length⟩] i = none :=
        Written.byteAt?_eq_none (by simpa [Patch.written] using .inl high)
      rw [other, Option.none_or]
    · rw [← Written.overlay_word]
      refine Written.overlay_congr fun i low _ => ?_
      rw [Written.byteAt?_append, patched.byteAt?_behind low, Option.or_none]
      rfl

end Patched

namespace PropertyRow

/-- The number of the first item, where bytes of it may be written over. -/
def firstItem (ws : List Written) (first : Int) : Nat :=
  (Written.byteAt? ws 5).getD (Number.lowBytes first 1) +
    256 * (Written.byteAt? ws 6).getD (Number.lowBytes (first / 256) 1)

theorem firstItem_nil (first : Int) : firstItem [] first = Number.lowBytes first 2 := by
  rw [Number.lowBytes_succ]
  rfl

theorem firstItem_written (v : Word) (first : Int) :
    firstItem [⟨5, 2, v⟩] first = v.toNat % 65536 := by
  have low : Written.byteAt? [⟨5, 2, v⟩] 5 = some (v.toNat / 1 % 256) := rfl
  have high : Written.byteAt? [⟨5, 2, v⟩] 6 = some (v.toNat / 256 % 256) := rfl
  rw [firstItem, low, high, Option.getD_some, Option.getD_some]
  omega

/-- Nothing that is written over the number of the first item or over values touches the rest. -/
theorem read_overlay {own more : List Written} (number : ∀ w ∈ own, w.offset = 5 ∧ w.size = 2)
    (behind : ∀ w ∈ more, 8 ≤ w.offset) (feature count first property : Int)
    (values : List UInt8) :
    read (Written.overlay (own ++ more) 0 (head feature count first property ++ values)) =
      some { feature := Number.lowBytes feature 1, count := Number.lowBytes count 1
             first := firstItem own first, number := Number.lowBytes property 1
             values := Written.overlay more 8 values } := by
  have outside {i : Nat} (apart : i < 5 ∨ i = 7) : Written.byteAt? (own ++ more) i = none := by
    refine Written.byteAt?_eq_none ?_
    rw [forall_mem_append]
    refine ⟨fun w inside => ?_, fun w inside => ?_⟩
    · have := number w inside
      omega
    · have := behind w inside
      omega
  have inner {i : Nat} (before : i < 8) :
      Written.byteAt? (own ++ more) i = Written.byteAt? own i := by
    have none : Written.byteAt? more i = none := Written.byteAt?_eq_none fun w inside => by
      have := behind w inside
      omega
    rw [Written.byteAt?_append, none, Option.none_or]
  have later : Written.overlay (own ++ more) 8 values = Written.overlay more 8 values := by
    refine Written.overlay_congr fun i low _ => ?_
    have none : Written.byteAt? own i = none := Written.byteAt?_eq_none fun w inside => by
      have := number w inside
      omega
    rw [Written.byteAt?_append, none, Option.or_none]
  rw [Written.overlay_append, show 0 + (head feature count first property).length = 8 from rfl,
    later]
  simp [head, Number.bytes, Written.overlay, outside, inner, read, firstItem,
    Nat.mod_eq_of_lt (Number.lowBytes_one_lt _)]

end PropertyRow

namespace PropertyAction

variable {p : PropertyAction} {number : Int}

theorem bytes_single {d : PropertyData} {s : Session} (fixed : d.pieces s = .ok d.fixedPieces s)
    (single : p.properties = [d]) {values : List UInt8}
    (body : d.fixedPieces.flatMap Piece.content = Number.bytes number 1 ++ values) :
    p.bytes s = PropertyRow.head p.feature p.count p.first number ++ values := by
  have written : p.pieces s = .ok (Piece.sprite ([Piece.hex 0, .hex p.feature, .byte 1,
      .hex p.count, .hex 0xFF, .wordHex p.first, .line] ++ d.fixedPieces)) s := by
    rw [pieces, single]
    simp [fixed]
  rw [bytes, written]
  simp only [Piece.sprite, flatMap_append, flatMap_cons, body, Piece.content, Piece.bytes,
    Piece.hex, Piece.line,
    flatMap_nil, nil_append, append_nil, PropertyRow.head, append_assoc]
  rfl

theorem bytes_values {vs : List Int}
    (single : p.properties = [.values number (vs.map .number) 1]) (s : Session) :
    p.bytes s = PropertyRow.head p.feature p.count p.first number ++
      vs.flatMap (Number.bytes · 1) := by
  refine bytes_single rfl single ?_
  simp [PropertyData.fixedPieces, flatMap_map, flatMap_assoc, Piece.hex, Piece.line, Piece.content,
    Piece.bytes, PropertyValue.pieces, Piece.ofSize]

theorem bytes_inRows (n : Nat) (ps : List (List Piece)) :
    (inRows n ps).flatMap Piece.content = ps.flatMap (·.flatMap Piece.content) := by
  have each (x : List Piece × Nat) :
      (if x.2 > 0 && x.2 % n == 0 then .line :: x.1 else x.1 : List Piece).flatMap Piece.content =
        x.1.flatMap Piece.content := by
    split <;> rfl
  rw [inRows, flatMap_assoc]
  simp only [each]
  conv_rhs => rw [← zipIdx_map_fst 0 ps, flatMap_map]

end PropertyAction

/-- Whether an action sets properties. -/
def Action.isProperties : Action → Bool
  | .properties _ => true
  | _ => false

namespace Loading

variable {g : Game} {st : Loading}

theorem rows_run {actions : List Action} (none : ∀ a ∈ actions, a.isProperties = false)
    (s : Session) : (st.run g actions).log.rows s = st.log.rows s := by
  induction actions generalizing st with
  | nil => rfl
  | cons a rest ih =>
    rw [forall_mem_cons] at none
    rw [run_cons, ih none.2]
    rcases step_log g st a with ⟨same, -⟩ | ⟨-, added⟩
    · rw [same]
    · rw [added, Log.rows, filterMap_append, Log.rows]
      cases a with
      | properties p => cases none.1
      | _ => exact append_nil _

/-- Patches reach the action right behind them. -/
theorem run_patched (idle : st.Idle) (patches : List Patch) (p : PropertyAction) (s : Session) :
    let last := st.run g (Assign.withPatches [] patches (.properties p))
    last.Idle ∧ last.params = st.params ∧ last.log.rows s = st.log.rows s ++
      [PropertyRow.read
        (Written.overlay (patches.map (Patch.written st.params)) 0 (p.bytes s))] := by
  obtain ⟨params, waiting, passing, log⟩ := st
  obtain ⟨rfl, rfl⟩ := idle
  cases patches with
  | nil =>
    refine ⟨⟨rfl, rfl⟩, rfl, ?_⟩
    simp [Assign.withPatches, step, perform, Action.overlaid, Log.rows]
  | cons patch rest =>
    refine ⟨⟨rfl, rfl⟩, rfl, ?_⟩
    simp [Assign.withPatches, step, perform, Action.overlaid, Log.rows]

/-- An action whose values are patched, and maybe the number of its first item. -/
theorem run_row (idle : st.Idle) {own patches : List Patch} {free : List Int}
    {values : List UInt8} {shown : List Nat} {p : PropertyAction} {property : Int}
    (atNumber : ∀ q ∈ own, q.offset = 5 ∧ q.size = 2)
    (patched : Patched free st.params patches values shown)
    (bytes : ∀ s, p.bytes s = PropertyRow.head p.feature p.count p.first property ++ values) :
    let last := st.run g (Assign.withPatches [] (own ++ patches) (.properties p))
    last.Idle ∧ last.params = st.params ∧ ∀ s, last.log.rows s = st.log.rows s ++
      [some { feature := Number.lowBytes p.feature 1, count := Number.lowBytes p.count 1
              first := PropertyRow.firstItem (own.map (Patch.written st.params)) p.first
              number := Number.lowBytes property 1, values := shown }] := by
  have ran := run_patched (g := g) idle (own ++ patches) p
  refine ⟨(ran {}).1, (ran {}).2.1, fun s => ?_⟩
  have number : ∀ w ∈ own.map (Patch.written st.params), w.offset = 5 ∧ w.size = 2 := by
    rwa [forall_mem_map]
  have behind : ∀ w ∈ patches.map (Patch.written st.params), 8 ≤ w.offset := by
    rw [forall_mem_map]
    exact fun q inside => (patched.within q inside).1
  rw [(ran s).2.2, map_append, bytes, PropertyRow.read_overlay number behind, patched.overlaid]

end Loading

namespace Assign

/-- An assignment of a value to a parameter leaves there what the value is at first, as long as all
parameters but those that were free are as they were at first. -/
structure Right (g : Game) (free : List Int) (start : Params) (e : Expr) : Prop where
  /-- A parameter needs no assignment. -/
  direct : ∀ n, paramNumber? e = some n → ∀ later : Params,
    (∀ m, m ∉ free → later m = start m) → later n = e.value start.world
  compiled : ∀ ⦃target : Int⦄ ⦃s t : Session⦄ ⦃actions : List Action⦄,
    compile (paramOf target) e s = .ok actions t → Pool s → s.params.free ⊆ free →
    target ∈ free → target ∉ s.params.free → t.params.free = s.params.free ∧
      (∀ a ∈ actions, a.isProperties = false) ∧
      ∀ now : Loading, now.Idle → (∀ m, m ∉ free → now.params m = start m) →
        (now.run g actions).Idle ∧ (now.run g actions).params target = e.value start.world ∧
          ∀ n, n ≠ target → n ∉ s.params.free → (now.run g actions).params n = now.params n

/-- Expressions without a choice are computed right, if they read no parameter that is for values
in between and all their counts are turned. -/
theorem right_of_straight {g : Game} {free : List Int} {start : Params} {e : Expr}
    (straight : e.Straight Operator.exact) (defined : e.Defined IsKept start)
    (fit : ∀ n ∈ free, 0x40 ≤ n ∧ n < 0x80) (turned : g.Turns e.turns) :
    Right g free start e := by
  have apart {n : Int} (isKept : IsKept n) : n ∉ free := fun mem => by
    have := fit n mem
    unfold IsKept at isKept
    omega
  have stepwise : e.Straight stepwise := straight.mono (subset_append_left _ _)
  obtain ⟨reads, same⟩ := straight.computed_eq_value
    (fun n kept => by unfold IsKept at kept; omega) defined
  constructor
  · intro n isParam later unchanged
    unfold paramNumber? at isParam
    split at isParam
    · cases isParam
      exact (unchanged _ (apart reads.2)).trans same
    · cases isParam
  · intro target s t actions compiled pool fewer inside taken
    have isParam : IsParam target := by
      have := fit target inside
      exact ⟨by omega, this.2⟩
    rw [paramOf_eq isParam] at compiled
    obtain ⟨settles, runs⟩ := compile_sound g none none compiled stepwise isParam taken pool
    refine ⟨settles.free, fun a inside => ?_, fun now idle unchanged => ?_⟩
    · obtain ⟨changes, -⟩ := runs { params := start } ⟨rfl, rfl⟩
        (stepwise.reads_mono reads fun n => IsKept.readable pool.fit) turned
      have isStep := changes.steps a inside
      cases a with
      | properties => cases isStep
      | _ => rfl
    · obtain ⟨readsNow, sameNow⟩ := stepwise.unnoticed reads fun n kept => unchanged n (apart kept)
      obtain ⟨changes, value⟩ := runs now idle
        (stepwise.reads_mono readsNow fun n => IsKept.readable pool.fit) turned
      refine ⟨changes.idle, value.trans (sameNow.trans same), fun n other outside => ?_⟩
      exact changes.other n (not_or_intro other outside)

/-- No parameter has changed but those that were free at first, and some of these are free still. -/
structure Ready (free : List Int) (start : Params) (s : Session) (now : Loading) : Prop where
  pool : Pool s
  idle : now.Idle
  fewer : s.params.free ⊆ free
  unchanged : ∀ n, n ∉ free → now.params n = start n

/-- From one state of a build and of the game to a later one, no parameter was changed but free
ones, and no property was set. -/
structure Advances (s : Session) (now : Loading) (t : Session) (later : Loading) : Prop where
  pool : Pool t
  fewer : t.params.free ⊆ s.params.free
  idle : later.Idle
  other : ∀ n, n ∉ s.params.free → later.params n = now.params n
  rows : ∀ u, later.log.rows u = now.log.rows u

namespace Advances

variable {s t u : Session} {now later last : Loading}

theorem refl (pool : Pool s) (idle : now.Idle) : Advances s now s now :=
  ⟨pool, fun _ => id, idle, fun _ _ => rfl, fun _ => rfl⟩

theorem trans (first : Advances s now t later) (second : Advances t later u last) :
    Advances s now u last :=
  ⟨second.pool, fun _ mem => first.fewer (second.fewer mem), second.idle,
    fun n outside => (second.other n fun mem => outside (first.fewer mem)).trans
      (first.other n outside),
    fun v => (second.rows v).trans (first.rows v)⟩

theorem ready {free : List Int} {start : Params} (ready : Ready free start s now)
    (advances : Advances s now t later) : Ready free start t later :=
  ⟨advances.pool, advances.idle, fun _ mem => ready.fewer (advances.fewer mem),
    fun n outside => (advances.other n fun mem => outside (ready.fewer mem)).trans
      (ready.unchanged n outside)⟩

end Advances

/-- The values that are known are in their parameters. -/
def Holds (start : Params) (s : Session) (now : Loading) (known : BaseCost.Known) : Prop :=
  ∀ k ∈ known, k.param ∉ s.params.free ∧ now.params k.param = k.value.value start.world

theorem Holds.advance {start : Params} {s t : Session} {now later : Loading}
    {known : BaseCost.Known} (holds : Holds start s now known) (advances : Advances s now t later) :
    Holds start t later known := fun k inside =>
  ⟨fun mem => (holds k inside).1 (advances.fewer mem),
    (advances.other _ (holds k inside).1).trans (holds k inside).2⟩

section Compute

variable {g : Game} {free : List Int} {start : Params} {e : Expr} {s t : Session} {now : Loading}
  {param : Int} {before : List Action}

theorem intoParam_right (right : Right g free start e) (ready : Ready free start s now)
    (h : intoParam compile e s = .ok (param, before) t) :
    Advances s now t (now.run g before) ∧ param ∉ t.params.free ∧
      (now.run g before).params param = e.value start.world := by
  simp only [intoParam, bind_eq_ok, pure_eq_ok, Prod.mk.injEq] at h
  obtain ⟨n, u, popped, actions, _, compiled, ⟨rfl, rfl⟩, rfl⟩ := h
  obtain ⟨free', took⟩ := popParam_took popped
  have pool := took.pool ready.pool
  have inside : n ∈ s.params.free := by simp [free']
  have taken : n ∉ u.params.free := by
    have nodup := ready.pool.nodup
    rw [free'] at nodup
    exact (nodup_cons.1 nodup).1
  obtain ⟨settled, none, runs⟩ := right.compiled compiled pool
    (fun m mem => ready.fewer (took.subset mem)) (ready.fewer inside) taken
  obtain ⟨idle, value, other⟩ := runs now ready.idle ready.unchanged
  refine ⟨⟨⟨?_, by rw [settled]; exact pool.nodup⟩, ?_, idle, fun m outside => ?_,
    fun v => Loading.rows_run none v⟩, by rwa [settled], value⟩
  · rw [ParamsFit, settled]
    exact pool.fit
  · rw [settled]
    exact took.subset
  · exact other m (fun same => outside (same ▸ inside)) fun mem => outside (took.subset mem)

theorem compute_right {known more : BaseCost.Known} {name : Option Position}
    (right : Right g free start e) (ready : Ready free start s now)
    (holds : Holds start s now known) (h : known.compute e name s = .ok (param, before, more) t) :
    Advances s now t (now.run g before) ∧ param ∉ t.params.free ∧
      (now.run g before).params param = e.value start.world ∧
      Holds start t (now.run g before) more ∧ ∃ turned shiftAt,
        more = { value := e, computed := e.asOf turned shiftAt, param, name } :: known := by
  simp only [BaseCost.Known.compute, current, bind_eq_ok, get_eq_ok, pure_eq_ok, Prod.mk.injEq] at h
  obtain ⟨⟨n, actions⟩, u, computed, _, _, ⟨_, _, ⟨rfl, rfl⟩, rfl, rfl⟩, ⟨rfl, rfl, rfl⟩, rfl⟩ := h
  obtain ⟨advances, taken, value⟩ := intoParam_right right ready computed
  refine ⟨advances, taken, value, ?_, _, _, rfl⟩
  rw [Holds, forall_mem_cons]
  exact ⟨⟨taken, value⟩, holds.advance advances⟩

end Compute

end Assign

namespace Expr

/-- No constant count of a shift to the right is negative. -/
def CountsFit : Expr → Prop
  | .binary op a b _ => a.CountsFit ∧ b.CountsFit ∧
    (op = .shiftRight ∨ op = .shiftRightU → ∀ n ∈ b.constant?, 0 ≤ n)
  | .param n _ => n.CountsFit
  | .ternary guard yes no _ => guard.CountsFit ∧ yes.CountsFit ∧ no.CountsFit
  | _ => True

theorem Straight.countsFit {ops : List Operator} {e : Expr} (straight : e.Straight ops)
    (known : .shiftRight ∉ ops ∧ .shiftRightU ∉ ops) : e.CountsFit := by
  induction straight with
  | num | bitNot | not => trivial
  | param _ _ ih => exact ih
  | binary _ inside _ _ left right =>
    refine ⟨left, right, ?_⟩
    rintro (rfl | rfl)
    · exact absurd inside known.1
    · exact absurd inside known.2
  | shift _ _ _ _ low _ ih => exact ⟨ih, trivial, fun _ n same => by cases same; exact low⟩

section Same

variable {turned turned' : Option Position → Bool} {shiftAt shiftAt' : Option Position → Option Int}

/-- The right operand of an operation as of some moment. -/
def rightAsOf (turned : Option Position → Bool) (shiftAt : Option Position → Option Int)
    (op : Operator) : Expr → Expr
  | num n p => if (op == .shiftRight || op == .shiftRightU) && turned p then num (-n) p else num n p
  | e => e.asOf turned shiftAt

theorem asOf_binary (op : Operator) (a b : Expr) (p : Option Position) :
    (binary op a b p).asOf turned shiftAt =
      binary op (a.asOf turned shiftAt) (b.rightAsOf turned shiftAt op) p := by
  cases b <;> simp only [asOf, rightAsOf]

theorem constant?_asOf (e : Expr) : (e.asOf turned shiftAt).constant? = e.constant? := by
  cases e with
  | binary => rw [asOf_binary]; rfl
  | _ => rfl

theorem constant?_of_same {a b : Expr} (same : a.same b = true) : a.constant? = b.constant? := by
  rw [Expr.same.eq_def] at same
  split at same
  case h_1 => exact congrArg some (beq_iff_eq.1 same)
  all_goals first | rfl | cases same

theorem rightAsOf_of_late {op : Operator} {e : Expr} (late : e.constant? = none) :
    e.rightAsOf turned shiftAt op = e.asOf turned shiftAt := by
  cases e with
  | num => cases late
  | _ => rfl

/-- A constant right operand is turned only where it counts a shift to the right. -/
theorem constant?_rightAsOf (turned : Option Position → Bool)
    (shiftAt : Option Position → Option Int) (op : Operator) {e : Expr} {n : Int}
    (known : e.constant? = some n) : ∃ m, (e.rightAsOf turned shiftAt op).constant? = some m ∧
      (m = n ∨ m = -n ∧ (op = .shiftRight ∨ op = .shiftRightU)) := by
  obtain ⟨p, rfl⟩ := constant?_eq_some.1 known
  rw [rightAsOf]
  split
  case isTrue turns =>
    simp only [Bool.and_eq_true, Bool.or_eq_true, beq_iff_eq] at turns
    exact ⟨_, rfl, .inr ⟨rfl, turns.1⟩⟩
  case isFalse => exact ⟨_, rfl, .inl rfl⟩

/-- Right operands that are the same are the same constant, if no count of a shift to the right is
negative, or neither of them is one. -/
theorem rightAsOf_same {op : Operator} {a b : Expr}
    (fit : op = .shiftRight ∨ op = .shiftRightU → ∀ n ∈ a.constant?, 0 ≤ n)
    (fit' : op = .shiftRight ∨ op = .shiftRightU → ∀ n ∈ b.constant?, 0 ≤ n)
    (same : (a.rightAsOf turned shiftAt op).same (b.rightAsOf turned' shiftAt' op) = true) :
    (∃ n, a.constant? = some n ∧ b.constant? = some n) ∨
      (a.asOf turned shiftAt).same (b.asOf turned' shiftAt') = true := by
  have agree := constant?_of_same same
  cases known : a.constant? with
  | none =>
    cases known' : b.constant? with
    | none => exact .inr (by rwa [rightAsOf_of_late known, rightAsOf_of_late known'] at same)
    | some n' =>
      obtain ⟨m, turned, -⟩ := constant?_rightAsOf turned' shiftAt' op known'
      rw [rightAsOf_of_late known, constant?_asOf, known, turned] at agree
      cases agree
  | some n =>
    obtain ⟨m, first, was⟩ := constant?_rightAsOf turned shiftAt op known
    cases known' : b.constant? with
    | none =>
      rw [rightAsOf_of_late known', constant?_asOf, known', first] at agree
      cases agree
    | some n' =>
      obtain ⟨m', second, was'⟩ := constant?_rightAsOf turned' shiftAt' op known'
      rw [first, second, Option.some.injEq] at agree
      refine .inl ⟨n, rfl, congrArg some ?_⟩
      rcases was with rfl | ⟨rfl, shift⟩ <;> rcases was' with rfl | ⟨rfl, shift⟩
      · exact agree.symm
      all_goals
        have := fit shift _ known
        have := fit' shift _ known'
        omega

/-- A value that is the same as another one up to counts that are negated has the same word. -/
theorem value_of_same (w : World) : ∀ a b : Expr, a.CountsFit → b.CountsFit →
    (a.asOf turned shiftAt).same (b.asOf turned' shiftAt') = true → a.value w = b.value w
  | .num v p, b, _, _, same => by
    have constant := constant?_of_same same
    rw [constant?_asOf, constant?_asOf] at constant
    obtain ⟨q, rfl⟩ := constant?_eq_some.1 constant.symm
    rfl
  | .binary op x y p, b, fit, fit', same => by
    rw [asOf_binary] at same
    cases b with
    | binary op' x' y' p' =>
      rw [asOf_binary] at same
      simp only [Expr.same, Bool.and_eq_true, beq_iff_eq] at same
      obtain ⟨⟨rfl, left⟩, right⟩ := same
      have first := value_of_same w x x' fit.1 fit'.1 left
      have second : y.value w = y'.value w := by
        rcases rightAsOf_same fit.2.2 fit'.2.2 right with ⟨n, known, known'⟩ | right
        · obtain ⟨_, rfl⟩ := constant?_eq_some.1 known
          obtain ⟨_, rfl⟩ := constant?_eq_some.1 known'
          rfl
        · exact value_of_same w y y' fit.2.1 fit'.2.1 right
      rw [value, value, first, second]
    | _ => cases same
  | .param n p, b, fit, fit', same => by
    cases b with
    | param n' p' => rw [value, value, value_of_same w n n' fit fit' same]
    | binary => rw [asOf_binary] at same; cases same
    | _ => cases same
  | .ternary c x y p, b, fit, fit', same => by
    cases b with
    | ternary c' x' y' p' =>
      simp only [asOf, Expr.same, Bool.and_eq_true] at same
      rw [value, value, value_of_same w c c' fit.1 fit'.1 same.1.1,
        value_of_same w x x' fit.2.1 fit'.2.1 same.1.2,
        value_of_same w y y' fit.2.2 fit'.2.2 same.2]
    | binary => rw [asOf_binary] at same; cases same
    | _ => cases same
  | .special _ k p, b, _, _, same => by
    cases b with
    | special _ k' p' =>
      simp only [asOf, Expr.same, Bool.and_eq_true, beq_iff_eq] at same
      rw [value, value, same.1.2]
    | binary => rw [asOf_binary] at same; cases same
    | _ => cases same
  | .patchVar n p, b, _, _, same => by
    cases b with
    | patchVar n' p' =>
      simp only [asOf, Expr.same, Bool.and_eq_true, beq_iff_eq] at same
      rw [value, value, same.1]
    | binary => rw [asOf_binary] at same; cases same
    | _ => cases same
  | .check c p, b, _, _, same => by
    cases b with
    | check c' p' =>
      simp only [asOf, Expr.same, Bool.and_eq_true, beq_iff_eq] at same
      rw [value, value, same.1]
    | binary => rw [asOf_binary] at same; cases same
    | _ => cases same
  | .ident .., b, _, _, same | .groupRef .., b, _, _, same | .string .., b, _, _, same => by
    cases b with
    | ident | groupRef | string => rfl
    | binary => rw [asOf_binary] at same; cases same
    | _ => cases same
  | .access .., _, _, _, same
  | .float .., _, _, _, same | .literal .., _, _, _, same | .call .., _, _, _, same
  | .array .., _, _, _, same | .bitNot .., _, _, _, same | .not .., _, _, _, same
  | .boolean .., _, _, _, same | .abs .., _, _, _, same | .bitmask .., _, _, _, same
  | .otherParam .., _, _, _, same | .storage .., _, _, _, same
  | .cargo .., _, _, _, same | .reserve .., _, _, _, same | .function .., _, _, _, same
  | .loadTemp .., _, _, _, same | .loadArg .., _, _, _, same
  | .stationSprites .., _, _, _, same => by
    simp [asOf, Expr.same] at same

end Same

end Expr

end NewGrf

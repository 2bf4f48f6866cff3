import NewGrf.Action.Write
import NewGrf.Layout.Compile
import NewGrf.Layout.Station
import NewGrf.Proofs.Bytes
import NewGrf.Proofs.SwitchNodes

open List

namespace NewGrf

open Stateful

variable {α : Type} {s t : Session} {offset : Nat}

namespace Piece

/-- Where parts start that are written one after the other, from an offset on. -/
def starts : Nat → List (List Piece) → List Nat
  | _, [] => []
  | offset, ps :: rest => offset :: starts (offset + sizeOf ps) rest

theorem sizeOf_bytes {f : α → Piece} (byte : ∀ x, (f x).size = 1) (xs : List α) :
    sizeOf (xs.map f) = xs.length := by
  induction xs with
  | nil => rfl
  | cons x rest ih => rw [map_cons, sizeOf_cons, byte, ih, length_cons, Nat.add_comm]

theorem starts_add (offset more : Nat) (parts : List (List Piece)) :
    starts (offset + more) parts = (starts more parts).map (offset + ·) := by
  induction parts generalizing more with
  | nil => rfl
  | cons ps rest ih => rw [starts, starts, map_cons, Nat.add_assoc, ih]

theorem length_starts (offset : Nat) (parts : List (List Piece)) :
    (starts offset parts).length = parts.length := by
  induction parts generalizing offset with
  | nil => rfl
  | cons ps rest ih => rw [starts, length_cons, ih, length_cons]

end Piece

namespace Layout

variable {registers : Nat → Int} {l : Layout}

/-- What is written for each of the sprites, of the ground first. The number of a sprite comes
first. -/
def parts (registers : Nat → Int) (l : Layout) : List (List Piece) :=
  (Piece.dwordHex l.ground.number
    :: (if l.advanced then .wordHex l.ground.flags :: l.ground.registerPieces registers else [])
    ++ [Piece.line]) :: l.buildings.map (·.pieces registers l.advanced)

/-- What is written in front of the sprites, and behind them. -/
def count (l : Layout) : Piece :=
  .byte (if l.advanced then Number.bitOr 0x40 l.buildings.length else l.buildings.length)

def filler (l : Layout) : List Piece :=
  if l.buildings.isEmpty && !l.advanced then noBuilding else []

theorem pieces_eq_parts :
    l.pieces registers = l.count :: (l.parts registers).flatten ++ l.filler := by
  unfold pieces parts filler count
  cases none : l.buildings.isEmpty && !l.advanced with
  | false => simp [flatMap_def]
  | true =>
    have empty : l.buildings = [] := by simp_all
    simp [empty]

theorem Sprite.sizeOf_registerPieces (registers : Nat → Int) (s : Sprite) :
    2 + Piece.sizeOf (s.registerPieces registers) = s.flagsSize := by
  unfold registerPieces flagsSize
  rw [Piece.sizeOf_append, Piece.sizeOf_bytes fun _ => rfl, Piece.sizeOf_bytes fun _ => rfl]
  omega

theorem Sprite.sizeOf_pieces (s : Sprite) (advanced : Bool) :
    Piece.sizeOf (s.pieces registers advanced) =
      4 + (if advanced then s.flagsSize else 0) + s.boxSize := by
  have box : Piece.sizeOf s.box = s.boxSize := by
    unfold box boxSize
    split <;> rfl
  have registers := s.sizeOf_registerPieces registers
  cases advanced with
  | false => simp [Sprite.pieces, box, Piece.size, Piece.line]
  | true =>
    simp [Sprite.pieces, box, Piece.size, Piece.line, ← registers]
    omega

/-- The offsets are those at which the sprites are written. -/
theorem starts_parts (registers : Nat → Int) (l : Layout) :
    Piece.starts 0 (l.parts registers) = l.numberOffsets := by
  have loop (bs : List Sprite) (start : Nat) (offsets : List Nat) :
      (bs.foldl (fun (x : Nat × List Nat) (s : Sprite) =>
        (x.1 + 4 + (if l.advanced then s.flagsSize else 0) + s.boxSize, x.2 ++ [x.1]))
          (start, offsets)).2 =
        offsets ++ Piece.starts start (bs.map (·.pieces registers l.advanced)) := by
    induction bs generalizing start offsets with
    | nil => simp [Piece.starts]
    | cons b rest ih =>
      rw [foldl_cons, ih, map_cons, Piece.starts, Sprite.sizeOf_pieces, ← Nat.add_assoc,
        ← Nat.add_assoc, append_assoc, singleton_append]
  have ground := l.ground.sizeOf_registerPieces registers
  unfold parts numberOffsets
  dsimp only
  rw [loop, Piece.starts, nil_append]
  cases l.advanced <;> simp [Piece.size, Piece.line, ← ground]

theorem length_numberOffsets : l.numberOffsets.length = l.buildings.length + 1 := by
  rw [← l.starts_parts fun _ => 0, Piece.length_starts]
  simp [parts]

end Layout

/-- A loop whose turns each patch something: what holds of each turn, and all patches in order. -/
theorem Drafting.mapM_patched {β γ : Type} {f : α → Drafting β} {R : α → β → γ → Prop}
    {places : α → β → γ → List (Nat × Nat)} {xs : List α} {ys : List β} {d d' : Draft}
    (run : (xs.mapM f : Drafting (List β)) d s = .ok (ys, d') t)
    (each : ∀ {x y d d' s t}, f x d s = .ok (y, d') t → ∃ z, R x y z ∧
      d'.patches.map Patch.place = d.patches.map Patch.place ++ places x y z) :
    ∃ turns : List (α × β × γ), turns.map (·.1) = xs ∧ turns.map (·.2.1) = ys ∧
      (∀ x ∈ turns, R x.1 x.2.1 x.2.2) ∧ d'.patches.map Patch.place =
        d.patches.map Patch.place ++ turns.flatMap fun x => places x.1 x.2.1 x.2.2 := by
  induction xs generalizing d s ys with
  | nil =>
    obtain ⟨rfl, rfl, rfl⟩ := pure_eq_ok.1 run
    exact ⟨[], rfl, rfl, nofun, (append_nil _).symm⟩
  | cons x rest ih =>
    rw [mapM_cons] at run
    obtain ⟨y, d₁, u, first, run⟩ := bind_eq_ok.1 run
    obtain ⟨ys', d₂, v, others, run⟩ := bind_eq_ok.1 run
    obtain ⟨rfl, rfl, rfl⟩ := pure_eq_ok.1 run
    obtain ⟨z, holds, own⟩ := each first
    obtain ⟨turns, rfl, rfl, all, patched⟩ := ih others
    refine ⟨(x, y, z) :: turns, rfl, rfl, forall_mem_cons.2 ⟨holds, all⟩, ?_⟩
    rw [patched, own, append_assoc, flatMap_cons]

namespace Layout

/-- The reduced number of a sprite. -/
def Draft.Numbered (d : Draft) (e : Expr) : Prop :=
  ∃ e₀ s t u v, d.writtenNumber s = .ok e₀ t ∧ e₀.reduce [] u = .ok e v

/-- A sprite as it is written, with zero for a number that is not known. -/
def Draft.withNumber (d : Draft) (e : Expr) : Sprite :=
  { d.sprite with number := e.constant?.getD 0 }

/-- A layout as it is written. Its sprites are given with their reduced numbers. -/
structure Parsed.Finished (p : Parsed) (l : Layout) (sprites : List (Draft × Expr)) : Prop where
  drafts : sprites.map (·.1) = p.ground :: p.buildings
  numbers : ∀ x ∈ sprites, x.1.Numbered x.2
  written : l.ground :: l.buildings = sprites.map fun x => x.1.withNumber x.2

/-- Where numbers are patched in that are not known, if they are written at these offsets. -/
def latePlaces (sprites : List (Draft × Expr)) (offsets : List Nat) : List (Nat × Nat) :=
  (sprites.zip offsets).flatMap fun x => Assign.fieldPlaces x.1.2 x.2 4

def Sprite.unnumbered (s : Sprite) : Sprite := { s with number := 0 }

def unnumbered (l : Layout) : Layout :=
  { ground := l.ground.unnumbered, buildings := l.buildings.map Sprite.unnumbered }

/-- The offsets do not depend on the numbers. -/
theorem numberOffsets_unnumbered (l : Layout) : l.unnumbered.numberOffsets = l.numberOffsets := by
  have advanced : l.unnumbered.advanced = l.advanced := by
    rw [Layout.advanced, Layout.advanced, unnumbered, any_map]
    rfl
  unfold numberOffsets
  rw [advanced]
  simp only [unnumbered, foldl_map]
  rfl

variable {p : Parsed} {sprites : List (Draft × Expr)} {d d' : NewGrf.Draft}

theorem Parsed.Finished.numberOffsets_eq (finished : p.Finished l sprites) : l.numberOffsets =
      numberOffsets { ground := p.ground.sprite, buildings := p.buildings.map (·.sprite) } := by
  have all := congrArg (map Sprite.unnumbered) finished.written
  have drafts := congrArg (map fun d => d.sprite.unnumbered) finished.drafts
  rw [map_map] at all drafts
  obtain ⟨ground, buildings⟩ := cons.inj (all.trans drafts)
  have same : l.unnumbered = unnumbered
      { ground := p.ground.sprite, buildings := p.buildings.map (·.sprite) } := by
    rw [unnumbered, ground, buildings, unnumbered, map_map]
    rfl
  rw [← numberOffsets_unnumbered l, same, numberOffsets_unnumbered]

theorem number_patched {x : Draft × Nat} {y : Sprite × Expr} (run : (do
      let e ← x.1.writtenNumber
      let (number, before, patches) ← Assign.field (← e.reduce) (offset + x.2) 4
      Drafting.emit before
      Drafting.patch patches
      pure ({ x.1.sprite with number }, e) : Drafting (Sprite × Expr)) d s = .ok (y, d') t) :
    ∃ e, (x.1.Numbered e ∧ y.1 = x.1.withNumber e) ∧ d'.patches.map Patch.place =
      d.patches.map Patch.place ++ Assign.fieldPlaces e (offset + x.2) 4 := by
  obtain ⟨e₀, u₁, written, run⟩ := lift_bind_eq_ok.1 run
  obtain ⟨e, u₂, reduced, run⟩ := lift_bind_eq_ok.1 run
  obtain ⟨⟨number, before, patches⟩, u₃, value, run⟩ := lift_bind_eq_ok.1 run
  replace run := modify_bind_eq_ok.1 run
  replace run := modify_bind_eq_ok.1 run
  obtain ⟨rfl, rfl, rfl⟩ := pure_eq_ok.1 run
  obtain ⟨-, known, places⟩ := (Assign.field_ensures e (offset + x.2) 4).of_ok value
  refine ⟨e, ⟨⟨e₀, s, u₁, u₁, u₂, written, reduced⟩, ?_⟩, ?_⟩
  · exact congrArg (fun n => { x.1.sprite with number := n }) known
  · exact map_append.trans (congrArg _ places)

theorem finish_patched {x : Layout × List Expr} (run : finish p offset d s = .ok (x, d') t) :
    ∃ sprites, p.Finished x.1 sprites ∧ d'.patches.map Patch.place =
      d.patches.map Patch.place ++ latePlaces sprites (x.1.numberOffsets.map (offset + ·)) := by
  obtain ⟨ys, d₁, u, loop, run⟩ := bind_eq_ok.1 run
  obtain ⟨turns, inputs, rfl, all, patched⟩ := Drafting.mapM_patched loop number_patched
  obtain ⟨drafts, offsets⟩ : turns.map (·.1.1) = p.ground :: p.buildings ∧ turns.map (·.1.2) =
      numberOffsets { ground := p.ground.sprite, buildings := p.buildings.map (·.sprite) } := by
    have first := congrArg (map Prod.fst) inputs
    have second := congrArg (map Prod.snd) inputs
    rw [map_map] at first second
    have length : (numberOffsets { ground := p.ground.sprite
                                   buildings := p.buildings.map (·.sprite) }).length =
        (p.ground :: p.buildings).length := by
      simp [length_numberOffsets]
    exact ⟨first.trans (map_fst_zip (Nat.le_of_eq length.symm)),
      second.trans (map_snd_zip (Nat.le_of_eq length))⟩
  have finished (l : Layout) (own : l.ground :: l.buildings = turns.map (·.2.1.1)) :
      p.Finished l (turns.map fun x => (x.1.1, x.2.2)) := by
    refine ⟨?_, ?_, own.trans ?_⟩
    · rw [← drafts, map_map]
      rfl
    · intro x inside
      obtain ⟨turn, member, rfl⟩ := mem_map.1 inside
      exact (all turn member).1
    · rw [map_map]
      exact map_congr_left fun turn member => (all turn member).2
  obtain ⟨own, rfl⟩ : x.1.ground :: x.1.buildings = turns.map (·.2.1.1) ∧ d₁ = d' := by
    cases turns with
    | nil => cases drafts
    | cons turn rest =>
      obtain ⟨rfl, rfl, -⟩ := pure_eq_ok.1 run
      simp
  refine ⟨_, finished _ own, ?_⟩
  rw [patched, (finished _ own).numberOffsets_eq, ← offsets, latePlaces, map_map, zip_map',
    flatMap_map]
  rfl

/-- Numbers that are not known are patched in elsewhere, if they are patched in at other offsets. -/
theorem latePlaces_eq_iff {offsets : List Nat} {m n : Nat}
    (length : sprites.length ≤ offsets.length) (apart : m ≠ n) :
    latePlaces sprites (offsets.map (m + ·)) = latePlaces sprites (offsets.map (n + ·)) ↔
      ∀ x ∈ sprites, x.2.isConstant = true := by
  induction sprites generalizing offsets with
  | nil => simp [latePlaces]
  | cons x rest ih =>
    cases offsets with
    | nil => cases length
    | cons offset others =>
      have split (k : Nat) : latePlaces (x :: rest) ((offset :: others).map (k + ·)) =
          Assign.fieldPlaces x.2 (k + offset) 4 ++ latePlaces rest (others.map (k + ·)) := rfl
      rw [split, split, forall_mem_cons, ← ih (Nat.le_of_succ_le_succ length)]
      cases known : x.2.isConstant with
      | true => simp [Assign.fieldPlaces, known]
      | false =>
        simp [Assign.fieldPlaces, known]
        omega

theorem length_latePlaces (sprites : List (Draft × Expr)) (offsets : List Nat) (f g : Nat → Nat) :
    (latePlaces sprites (offsets.map f)).length = (latePlaces sprites (offsets.map g)).length := by
  have one (e : Expr) (m n : Nat) :
      (Assign.fieldPlaces e m 4).length = (Assign.fieldPlaces e n 4).length := by
    unfold Assign.fieldPlaces
    split <;> rfl
  induction sprites generalizing offsets with
  | nil => rfl
  | cons x rest ih =>
    cases offsets with
    | nil => rfl
    | cons offset others =>
      have own := one x.2 (f offset) (g offset)
      have others := ih others
      simp_all [latePlaces]

end Layout

namespace Station

open Layout (latePlaces)

/-- A layout that is read, as it is written with the numbers of its sprites, and its sprites with
their reduced numbers. -/
abbrev Row := Layout.Parsed × (Layout × List Expr) × List (Layout.Draft × Expr)

/-- The property for the layouts of a station. -/
def property (feature id : Int) (rows : List Row) : PropertyAction :=
  { feature, first := id
    properties := [.stationLayouts 0x1A (rows.map (·.2.1.1)) (rows.flatMap (·.2.1.2))] }

/-- Where numbers of sprites that are not known stand, if layouts are written from an offset on. In
front of the sprites of a layout stands their count. -/
def numberPlaces (registers : Nat → Int) : Nat → List Row → List (Nat × Nat)
  | _, [] => []
  | offset, (_, (l, _), sprites) :: rest =>
    latePlaces sprites (Piece.starts (offset + 1) (l.parts registers))
      ++ numberPlaces registers (offset + Piece.sizeOf (l.pieces registers)) rest

/-- Where they are patched in: each layout as if it were the only one, right behind the head of the
action. -/
def patchPlaces (rows : List Row) : List (Nat × Nat) :=
  rows.flatMap fun (_, (l, _), sprites) => latePlaces sprites (l.numberOffsets.map (7 + ·))

variable {feature id : Int} {rows : List Row}

theorem layoutActions_rows {layouts : List Layout.Parsed}
    {actions : List Action} (run : layoutActions feature id layouts s = .ok actions t) :
    ∃ rows before patches, rows.map (·.1) = layouts ∧
      (∀ row ∈ rows, row.1.Finished row.2.1.1 row.2.2) ∧
      actions = before ++ Action.patching patches ++ [.properties (property feature id rows)] ∧
      patches.map Patch.place = patchPlaces rows := by
  obtain ⟨_, _, -, run⟩ := Build.bind_eq_ok.1 run
  obtain ⟨⟨xs, d⟩, u, loop, run⟩ := Build.bind_eq_ok.1 run
  obtain ⟨_, _, -, run⟩ := Build.bind_eq_ok.1 run
  obtain ⟨rfl, -⟩ := Build.pure_eq_ok.1 run
  obtain ⟨rows, rfl, rfl, all, patched⟩ := Drafting.mapM_patched loop Layout.finish_patched
  refine ⟨rows, d.actions, d.patches, rfl, all, ?_, patched⟩
  rw [property, map_map, flatMap_map]
  rfl

/-- What is written in front of the layouts: the head of the action, the number of the property and
the number of layouts. -/
def head (feature id : Int) (count : Nat) : List Piece :=
  [.hex 0, .hex feature, .byte 1, .hex 1, .hex 0xFF, .wordHex id, .line, .hex 0x1A, .byte count,
    .line]

theorem property_pieces {u v : Session} {body : List Piece}
    (run : (property feature id rows).pieces u = .ok body v) : ∃ registers, body =
      Piece.sprite (head feature id rows.length
        ++ rows.flatMap fun row => row.2.1.1.pieces registers) := by
  obtain ⟨bodies, w, written, run⟩ := Build.bind_eq_ok.1 run
  obtain ⟨rfl, rfl⟩ := Build.pure_eq_ok.1 run
  rw [property, mapM_cons, mapM_nil] at written
  obtain ⟨own, x, first, written⟩ := Build.bind_eq_ok.1 written
  obtain ⟨rest, y, last, written⟩ := Build.bind_eq_ok.1 written
  obtain ⟨rfl, rfl⟩ := Build.pure_eq_ok.1 last
  obtain ⟨rfl, rfl⟩ := Build.pure_eq_ok.1 written
  obtain ⟨_, z, -, first⟩ := Build.bind_eq_ok.1 first
  obtain ⟨session, _, -, first⟩ := Build.bind_eq_ok.1 first
  obtain ⟨rfl, rfl⟩ := Build.pure_eq_ok.1 first
  refine ⟨session.graph.numbering.registers, ?_⟩
  rw [flatten_singleton, length_map, flatMap_map]
  rfl

theorem patchPlaces_eq_iff {registers : Nat → Int}
    (all : ∀ row ∈ rows, row.1.Finished row.2.1.1 row.2.2) (behind : 9 ≤ offset) :
    patchPlaces rows = numberPlaces registers offset rows ↔
      ∀ row ∈ rows, ∀ x ∈ row.2.2, x.2.isConstant = true := by
  induction rows generalizing offset with
  | nil => simp [patchPlaces, numberPlaces]
  | cons row rest ih =>
    obtain ⟨p, ⟨l, numbers⟩, sprites⟩ := row
    rw [forall_mem_cons] at all
    have length : sprites.length ≤ l.numberOffsets.length := by
      have := congrArg length all.1.written
      simp [Layout.length_numberOffsets] at this ⊢
      omega
    have own : latePlaces sprites (Piece.starts (offset + 1) (l.parts registers)) =
        latePlaces sprites (l.numberOffsets.map (offset + 1 + ·)) := by
      rw [← Layout.starts_parts, ← Piece.starts_add, Nat.add_zero]
    have apart := Layout.latePlaces_eq_iff length (m := 7) (n := offset + 1) (by omega)
    rw [forall_mem_cons, ← apart, ← ih all.2 (Nat.le_trans behind (Nat.le_add_right _ _))]
    change latePlaces sprites _ ++ patchPlaces rest =
      latePlaces sprites _ ++ numberPlaces registers _ rest ↔ _
    rw [own]
    constructor
    · exact fun same => append_inj same (Layout.length_latePlaces ..)
    · exact fun ⟨first, others⟩ => by rw [first, others]

/-- Each number of a sprite of a station's layouts that is not known has one patch right in front of
the property, and nothing else has. All patches hit their numbers exactly if there are none: in each
layout they are by three bytes and all layouts before too far to the front. -/
theorem layout_patches_hit_iff {feature id : Int} {layouts : List Layout.Parsed} {s t : Session}
    {actions : List Action} (run : layoutActions feature id layouts s = .ok actions t) :
    ∃ rows before patches, rows.map (·.1) = layouts ∧
      (∀ row ∈ rows, row.1.Finished row.2.1.1 row.2.2) ∧
      actions = before ++ Action.patching patches ++ [.properties (property feature id rows)] ∧
      patches.map Patch.place = patchPlaces rows ∧
      ∀ u v body, (property feature id rows).pieces u = .ok body v → ∃ registers,
        body = Piece.sprite (head feature id rows.length
          ++ rows.flatMap fun row => row.2.1.1.pieces registers) ∧
        (∀ l : Layout, l.pieces registers = l.count :: (l.parts registers).flatten ++ l.filler ∧
          (l.parts registers).map List.head? =
            (l.ground :: l.buildings).map fun s => some (.dwordHex s.number)) ∧
        (patches.map Patch.place =
            numberPlaces registers (Piece.sizeOf (head feature id rows.length)) rows ↔
          ∀ row ∈ rows, ∀ x ∈ row.2.2, x.2.isConstant = true) := by
  obtain ⟨rows, before, patches, read, all, rfl, patched⟩ := layoutActions_rows run
  refine ⟨rows, before, patches, read, all, rfl, patched, fun u v body written => ?_⟩
  obtain ⟨registers, rfl⟩ := property_pieces written
  refine ⟨registers, rfl, fun l => ⟨l.pieces_eq_parts, ?_⟩, ?_⟩
  · simp [Layout.parts, Layout.Sprite.pieces]
  · rw [patched]
    exact patchPlaces_eq_iff all (Nat.le_refl 9)

/-- A layout with only a ground sprite, whose number is a parameter. -/
def lateGround : Layout.Parsed :=
  { ground :=
      { sprite := { kind := .ground, station := true }, pos := none
        number := .param (.int 1) none, given := ["sprite"] } }

/-- The number stands at offset 10 and is patched in at offset 7. -/
theorem ground_number_patched_too_early : ∃ actions t rows before patches,
    layoutActions 4 3 [lateGround] {} = .ok actions t ∧
    actions = before ++ Action.patching patches ++ [.properties (property 4 3 rows)] ∧
    patches.map Patch.place = [(7, 4)] ∧
    ∀ u v body, (property 4 3 rows).pieces u = .ok body v → ∃ registers,
      numberPlaces registers (Piece.sizeOf (head 4 3 rows.length)) rows = [(10, 4)] := by
  have runs : ∃ actions t, layoutActions 4 3 [lateGround] {} = .ok actions t := ⟨_, _, rfl⟩
  obtain ⟨actions, t, run⟩ := runs
  obtain ⟨rows, before, patches, read, all, rfl, patched, written⟩ := layout_patches_hit_iff run
  obtain ⟨⟨p, ⟨l, numbers⟩, sprites⟩, rfl, rfl⟩ := map_eq_singleton_iff.1 read
  have finished := all _ (.head _)
  obtain ⟨⟨d, e⟩, rfl, same⟩ := map_eq_singleton_iff.1 finished.drafts
  obtain rfl : d = lateGround.ground := same
  have late : e.isConstant = false := by
    obtain ⟨e₀, _, _, u, v, number, reduced⟩ := finished.numbers _ (.head _)
    cases number
    injection reduced with result
    exact (congrArg Expr.isConstant result).symm
  have offsets : l.numberOffsets = [0] := finished.numberOffsets_eq
  have places (k : Nat) : latePlaces [(lateGround.ground, e)] (l.numberOffsets.map (k + ·)) =
      [(k, 4)] := by
    simp [latePlaces, offsets, Assign.fieldPlaces, late]
  refine ⟨_, t, _, before, patches, run, rfl, patched.trans ?_, fun u v body shown => ?_⟩
  · simp [patchPlaces, places]
  · obtain ⟨registers, -⟩ := written u v body shown
    refine ⟨registers, ?_⟩
    change latePlaces _ (Piece.starts (10 + 0) (l.parts registers)) ++ [] = _
    rw [Piece.starts_add, Layout.starts_parts, places]
    rfl

end Station

end NewGrf

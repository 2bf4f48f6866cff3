import NewGrf.Block.References
import NewGrf.Proofs.ChainNodes
import NewGrf.Sprite.Replace
import NewGrf.Switch.Random

namespace NewGrf

/-- Where a value is patched that is not known. -/
def Assign.fieldPlaces (e : Expr) (offset size : Nat) : List (Nat × Nat) :=
  if e.isConstant then [] else [(offset, size)]

/-- A known value is written as it is, and another one is patched. -/
theorem Assign.field_ensures (e : Expr) (offset size : Nat) :
    Ensures .still (field e offset size) fun x =>
      x.1 = e.constant?.getD 0 ∧ x.2.2.map Patch.place = fieldPlaces e offset size := by
  have unknown (notNumber : ∀ v p, e = .num v p → False) :
      e.constant? = none ∧ fieldPlaces e offset size = [(offset, size)] := by
    cases e with
    | num v p => exact (notNumber v p rfl).elim
    | _ => exact ⟨rfl, rfl⟩
  unfold field
  split
  · exact .pure ⟨rfl, rfl⟩
  · next notNumber _ =>
    obtain ⟨constant, places⟩ := unknown notNumber
    rw [constant, places]
    exact .pure ⟨rfl, rfl⟩
  · next notNumber _ =>
    obtain ⟨constant, places⟩ := unknown notNumber
    rw [constant, places]
    exact .after fun _ => .pure ⟨rfl, rfl⟩

/-- The bounds of a range, if both are known. -/
def SwitchRange.known? (r : SwitchRange) : Option (Int × Int) :=
  match r.low, r.high with
  | .num low _, .num high _ => some (low, high)
  | _, _ => none

/-- How a range is written: with its bounds as far as they are known, and a note that names them. -/
structure SwitchRange.WrittenAs (r : SwitchRange) (own : ResultRange) : Prop where
  low : ∀ v p, r.low = .num v p → own.low = v
  high : ∀ v p, r.high = .num v p → own.high = v
  note : ∃ result, own.note = r.low.text ++ " .. " ++ r.high.text ++ ": " ++ result

namespace Switch

variable {node : Nat}

theorem bound_known (e : Expr) (offset : Nat) :
    Carries .growing (fun _ => True) (bound e offset) fun v _ =>
      ∀ n p, e = .num n p → v = n :=
  .andThen (.run ((Assign.field_ensures e offset 4).widen Frame.still_within_growing))
    fun _ known => .pass fun _ => .pass fun _ => .pure fun _ _ => by rintro n p rfl; exact known.1

theorem rangeAt_written (range : VarRange) (computed : Expr) (r : SwitchRange) (offset : Nat) :
    Carries .growing (fun _ => True) (rangeAt node range computed r offset)
      fun own _ => r.WrittenAs own :=
  .pass fun _ => .ite (fun _ => .failThen) fun _ =>
    (bound_known _ _).known fun _ low => (bound_known _ _).known fun _ high =>
    .pure fun _ _ => ⟨low, high, _, rfl⟩

/-- Which ranges are left out, since others before them have covered them. -/
def leftOut : List SwitchRange → Coverage → List Bool
  | [], _ => []
  | r :: rest, covered =>
    match r.known? with
    | some (low, high) =>
      if covered.covers low high then true :: leftOut rest covered
      else false :: leftOut rest (covered.insert low high)
    | none => false :: leftOut rest covered

/-- The ranges that are written, for those of a switch and whether each of them is left out. -/
inductive Kept : List SwitchRange → List Bool → List ResultRange → Prop
  | nil : Kept [] [] []
  | skip {r : SwitchRange} {rs : List SwitchRange} {out : List Bool} {written : List ResultRange}
      (rest : Kept rs out written) : Kept (r :: rs) (true :: out) written
  | keep {r : SwitchRange} {rs : List SwitchRange} {out : List Bool} {own : ResultRange}
      {written : List ResultRange} (first : r.WrittenAs own) (rest : Kept rs out written) :
      Kept (r :: rs) (false :: out) (own :: written)

theorem rangesFrom_kept (range : VarRange) (computed : Expr) (rs : List SwitchRange)
    (offset : Nat) (covered : Coverage) :
    Carries .growing (fun _ => True)
      (rangesFrom node range computed rs offset covered) fun x _ =>
      Kept rs (leftOut rs covered) x.1 := by
  induction rs generalizing offset covered with
  | nil => exact .pure fun _ _ => .nil
  | cons r rest ih =>
    refine (rangeAt_written range computed r offset).known fun own same => ?_
    have isKnown : (r.low.isConstant && r.high.isConstant) = r.known?.isSome := by
      unfold SwitchRange.known? Expr.isConstant
      split <;> split <;> simp_all
    dsimp only
    rw [isKnown]
    cases known : r.known? with
    | some b =>
      obtain ⟨low, high⟩ := b
      have out : leftOut (r :: rest) covered = if covered.covers low high then
          true :: leftOut rest covered else false :: leftOut rest (covered.insert low high) := by
        rw [leftOut, known]
      obtain ⟨isLow, isHigh⟩ : own.low = low ∧ own.high = high := by
        unfold SwitchRange.known? at known
        split at known
        · next first second =>
          cases known
          exact ⟨same.low _ _ first, same.high _ _ second⟩
        · cases known
      rw [isLow, isHigh, out, Option.isSome_some, Bool.true_and]
      refine .ite (fun inside => ?_) fun outside => ?_
      · rw [if_pos inside]
        exact .skip fun _ => (ih (offset + 10) covered).mono (fun _ => id) fun _ _ => .skip
      · rw [if_neg outside]
        exact (ih (offset + 10) _).known fun _ kept => .pure fun _ _ => .keep same kept
    | none =>
      -- A range without known bounds covers nothing and is never covered.
      have out : leftOut (r :: rest) covered = false :: leftOut rest covered := by
        rw [leftOut, known]
      rw [out]
      refine .ite (fun inside => absurd inside Bool.false_ne_true) fun _ => ?_
      exact (ih (offset + 10) covered).known fun _ kept => .pure fun _ _ => .keep same kept

instance (s) : Passes .growing (computedResult s) := by
  unfold computedResult
  infer_instance

/-- Whether a range that holds nothing is written, since there is no other one. -/
def isBare (s : Switch) : Bool :=
  s.body.ranges.isEmpty && !(s.body.default.map (·.value.isNone)).getD false

theorem ranges_of_isBare {s : Switch} (bare : s.isBare = true) : s.body.ranges = [] := by
  simpa using (Bool.and_eq_true_iff.1 bare).1

/-- Which ranges are written for a switch. -/
def Writes (s : Switch) (written : List ResultRange) : Prop :=
  if s.isBare then written.length = 1 else Kept s.body.ranges (leftOut s.body.ranges []) written

theorem nodeRanges_writes (s : Switch) (computed : Expr) (offset : Nat) :
    Carries .growing (fun _ => True) (nodeRanges node s computed offset)
      fun x _ => s.Writes x.1 := by
  refine (rangesFrom_kept _ computed _ offset []).known fun x kept => ?_
  dsimp only
  refine .ite (fun bare => ?_) fun regular => ?_
  · exact .pass fun _ => .pure fun _ _ => (if_pos bare).mpr rfl
  · exact .pure fun _ _ => (if_neg regular).mpr kept

end Switch

end NewGrf

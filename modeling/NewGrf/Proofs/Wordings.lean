import NewGrf.Action.Link
import NewGrf.Proofs.Reduction

namespace NewGrf

namespace Language

section Setting

variable {s : Setting} [text : ∀ e, Fixed (s.textOf e)] [∀ e, Fixed (s.plural e)]
  [∀ e, Fixed (s.gender e)]

instance (kind e) : Fixed (s.showKnown kind e) := by
  cases kind with
  | decimal | hexadecimal => exact .seq
  | text => exact text e

instance (c code size st) : Fixed (s.showArgument c code size st) := by
  unfold Setting.showArgument
  repeat' first | infer_instance | split | dsimp only

instance (c st) : Fixed (s.showChoice c st) := by
  unfold Setting.showChoice
  repeat' first | infer_instance | split | dsimp only | intro _ | apply Ensures.andThen

instance (parts st) : Fixed (s.showParts parts st) := by
  induction parts generalizing st with
  | nil => exact .just
  | cons part rest ih =>
    cases part <;> unfold Setting.showParts
    all_goals repeat' first | infer_instance | split

instance (p) : Fixed (s.showPhrase p) := by
  unfold Setting.showPhrase
  infer_instance

instance showEntry_fixed (lang e) : Fixed (s.showEntry lang e) := by
  unfold Setting.showEntry
  infer_instance

end Setting

instance (name) : Fixed (markUsed name) := by
  refine .modify fun s => ?_
  split <;> exact ⟨⟨rfl, rfl⟩, rfl, rfl, rfl, rfl⟩

instance textIn_fixed (fuel lang wanted name args) : Fixed (textIn fuel lang wanted name args) := by
  induction fuel generalizing lang wanted name args with
  | zero => exact .stop
  | succ fuel ih =>
    refine .after fun _ => .after fun _ => ?_
    refine @showEntry_fixed _ (fun e => ?_) (fun e => ?_) (fun e => ?_) lang _
    all_goals
      dsimp only
      repeat' first | infer_instance | split

instance (e wanted) : Fixed (wording e wanted) := by
  unfold wording
  split <;> infer_instance

instance (e) : Fixed (demandText e) := by
  unfold demandText
  split <;> infer_instance

mutual

theorem differing_fixed : ∀ e : Expr, Fixed (differing e)
  | .string name args _ => by
    unfold differing
    exact .after fun s => .after fun own => differingAmong_fixed args own
  | .num .. | .float .. | .literal .. | .ident .. | .call .. | .array .. | .binary ..
  | .ternary .. | .bitNot .. | .not .. | .boolean .. | .abs .. | .bitmask .. | .param ..
  | .otherParam .. | .access .. | .patchVar .. | .special .. | .groupRef .. | .storage ..
  | .cargo .. | .check .. | .reserve .. | .function .. | .loadTemp .. | .loadArg ..
  | .stationSprites .. => .just

theorem differingAmong_fixed :
    ∀ (es : List Expr) (found : List Nat), Fixed (differingAmong es found)
  | [], _ => .just
  | e :: es, _ => .bind (differing_fixed e) fun _ _ => differingAmong_fixed es _

end

instance (e) : Fixed (differing e) := differing_fixed e

end Language

namespace Town

instance (f) : Fixed (modifyRegistry f) := .modify

instance (index f) : Fixed (modifyBlock index f) := .modify

instance (number) : Fixed (indexOf number) := .seq

instance : Fixed newNumber := by
  unfold newNumber
  repeat' first | infer_instance | split | dsimp only | intro _ | apply Ensures.andThen

instance (p) : Fixed (resolvePiece p) := by
  unfold resolvePiece
  repeat' first | infer_instance | split | dsimp only | intro _ | apply Ensures.andThen

instance (fuel index start) : Fixed (assignBits fuel index start) := by
  induction fuel generalizing index start with
  | zero => exact .just
  | succ fuel ih =>
    unfold assignBits
    infer_instance

instance (index b) : Fixed (number index b) := by
  unfold number
  repeat' first | infer_instance | split

instance (style) : Fixed (styleNames style) := by
  unfold styleNames
  repeat' first | infer_instance | split

instance link_fixed (index) : Fixed (link index) := by
  unfold link resolve use placeParts
  repeat' first | infer_instance | intro _ | apply Ensures.andThen

end Town

instance (lines) : Fixed (Recolour.check lines) := by
  refine Keeps.forM fun l => ?_
  split <;> infer_instance

namespace Action

instance (name pos) : Fixed (checkSound name pos) := by
  unfold checkSound
  infer_instance

/-- The node that an action stands for. -/
def node? : Action → Option Nat
  | node i | graphics i => some i
  | _ => none

/-- Only the turn of a node changes nodes. -/
theorem link_fixed (number : Int) {a : Action} (other : a.node? = none) :
    Fixed (a.link number) := by
  cases a with
  | node i | graphics i => cases other
  | sprite s =>
    unfold link
    repeat' first | infer_instance | dsimp only | split
  | soundFile name pos => exact inferInstanceAs (Fixed (checkSound name pos))
  | town index => exact Town.link_fixed index
  | _ => exact .just

theorem link_node {number : Int} {a : Action} {i : Nat} (turn : a.node? = some i) :
    a.link number = Build.linkNode i := by
  cases a with
  | node j | graphics j =>
    cases turn
    rfl
  | _ => cases turn

end Action

end NewGrf

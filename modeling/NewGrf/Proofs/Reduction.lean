import NewGrf.Expr.Reduce
import NewGrf.Proofs.Frames

namespace NewGrf

variable {R : Frame}

namespace Block

section ReadOnly

variable {R : Frame} {blockReadOnly : Ident → Build Bool}

mutual

theorem readOnly_keeps (h : ∀ n, Keeps R (blockReadOnly n)) :
    ∀ e : Expr, Keeps R (e.readOnly blockReadOnly)
  | .array vs _ | .bitmask vs _ => allReadOnly_keeps h vs
  | .binary _ a b _ => by
    have left := readOnly_keeps h a
    have right := readOnly_keeps h b
    exact .seq
  | .ternary g a b _ => by
    have guard := readOnly_keeps h g
    have yes := readOnly_keeps h a
    have no := readOnly_keeps h b
    exact .seq
  | .bitNot e _ | .not e _ | .boolean e _ | .abs e _ => readOnly_keeps h e
  | .storage kind _ register _ _ => .ite (fun _ => .just) fun _ => readOnly_keeps h register
  | .groupRef name _ _ _ _ => .ite (fun _ => .just) fun _ => h name
  | .num .. | .float .. | .literal .. | .ident .. | .call .. | .param .. | .otherParam ..
  | .access .. | .patchVar .. | .special .. | .string .. | .cargo .. | .check .. | .reserve ..
  | .function .. | .loadTemp .. | .loadArg .. | .stationSprites .. => .just

theorem allReadOnly_keeps (h : ∀ n, Keeps R (blockReadOnly n)) :
    ∀ es : List Expr, Keeps R (Expr.allReadOnly blockReadOnly es)
  | [] => .just
  | e :: es => by
    have first := readOnly_keeps h e
    have others := allReadOnly_keeps h es
    exact .seq

end

end ReadOnly

instance (fuel name) : Keeps R (readOnly fuel name) := by
  induction fuel generalizing name with
  | zero => exact .just
  | succ fuel ih =>
    refine .after fun _ => .after fun _ => .andThen (allReadOnly_keeps ih _) fun _ =>
      .ite (fun _ => ?_) fun _ => .just
    split
    · exact readOnly_keeps ih _
    · exact .just

instance (e : Expr) : Keeps R e.isReadOnly :=
  .after fun _ => readOnly_keeps (fun _ => inferInstance) e

instance [R.Noting] (name pos) : Keeps R (sayOptimised name pos) := by
  unfold sayOptimised
  infer_instance

instance (id b) : Fixed (findOutcome id b) := by
  unfold findOutcome
  repeat' first | infer_instance | split | intro _ | apply Ensures.andThen

instance (id) : Fixed (outcome? id) := by
  unfold outcome?
  repeat' first | infer_instance | split | intro _ | apply Ensures.andThen

end Block

/-- A frame that allows what reduction does. -/
class Frame.Reducing (R : Frame) : Prop extends R.Noting where
  outcome : ∀ id, Keeps R (Block.outcome? id)

attribute [instance] Frame.Reducing.outcome

instance : Frame.fixed.Reducing where
  outcome _ := inferInstance

/-- Looking names up stays within the frame. -/
class Scope.Kept (R : Frame) (scope : Scope) : Prop where
  tables : ∀ table ∈ scope, ∀ name pos, Keeps R (table name pos)

/-- A reduction that stays within the frame. -/
class Builtin.Reduce.Kept (R : Frame) (reduce : Builtin.Reduce) : Prop where
  kept : ∀ (scope : Scope) [scope.Kept R] (e : Expr), Keeps R (reduce scope e)

class Builtin.Function.Kept (R : Frame) (f : Builtin.Function) : Prop where
  kept : ∀ (reduce : Builtin.Reduce) [reduce.Kept R] (name args pos),
    Keeps R (f reduce name args pos)

instance (priority := low) {reduce : Builtin.Reduce} [h : reduce.Kept R] {scope : Scope}
    [scope.Kept R] {e : Expr} : Keeps R (reduce scope e) := h.kept scope e

instance : Scope.Kept R [] := ⟨fun _ inside => absurd inside List.not_mem_nil⟩

instance {numbers : List (String × Int)} {scope : Scope} [rest : scope.Kept R] :
    Scope.Kept R (NameTable.ofNumbers numbers :: scope) :=
  ⟨List.forall_mem_cons.2 ⟨fun _ _ => .just, rest.tables⟩⟩

instance [R.Noting] : Scope.general.Kept R where
  tables := by
    unfold Scope.general
    simp only [List.forall_mem_cons, List.not_mem_nil, false_imp_iff, implies_true, and_true]
    repeat' apply And.intro
    all_goals
      intro name pos
      first
        | unfold NameTable.constants | unfold NameTable.ofSpecials | unfold NameTable.settingBits
        | unfold NameTable.params | unfold NameTable.ofNames NameTable.ofNumbers
        | unfold NameTable.items
        | unfold NameTable.settings | unfold NameTable.groups | unfold NameTable.ofNumbers
      repeat' first | infer_instance | split | dsimp only | intro _ | apply Ensures.andThen

instance {scope : Scope} [known : scope.Kept R] (name pos) : Keeps R (scope.find? name pos) := by
  obtain ⟨tables⟩ := known
  induction scope with
  | nil => exact .just
  | cons table rest ih =>
    obtain ⟨first, others⟩ := List.forall_mem_cons.1 tables
    refine .andThen (first name pos) fun found => ?_
    cases found with
    | some e => exact .just
    | none => exact ih others

namespace Variable

instance (table name args pos) : Keeps R (labelNumber table name args pos) := by
  unfold labelNumber
  repeat' first | infer_instance | split | dsimp only | intro _ | apply Ensures.andThen

instance {α : Type} (name needs args pos) : Keeps R (countFault name needs args pos : Build α) :=
  .fail

variable {reduce : Plain} [∀ e, Keeps R (reduce e)]

instance (form : ArgForm) (name args pos) : Keeps R (form.arguments reduce name args pos) := by
  unfold ArgForm.arguments
  cases form with
  | tileOffset =>
    dsimp only
    split
    · refine .andThen (Keeps.forIn fun a _ => ?_) fun _ => inferInstance
      split <;> infer_instance
    · infer_instance
  | _ =>
    dsimp only
    repeat' first | infer_instance | split

instance (adjust : Adjust) (i e) : Keeps R (adjust.apply reduce i e) := by
  cases adjust
  all_goals
    unfold Adjust.apply
    infer_instance

instance [R.Noting] (i : Info) (name pos) : Keeps R (i.read reduce name pos) := by
  unfold Info.read
  split <;> infer_instance

instance (i : Info) (name args pos) : Keeps R (i.call reduce name args pos) := by
  unfold Info.call
  infer_instance

end Variable

namespace Builtin

variable [R.Reducing] {reduce : Reduce} [reduce.Kept R]

instance {α : Type} (name what pos) : Keeps R (need name what pos : Build α) := .fail

instance {α : Type} (name pos) : Keeps R (oneParameter name pos : Build α) := .fail

instance (name low high e) : Keeps R (checkArg name low high e) := by
  unfold checkArg
  split <;> infer_instance

instance {scope : Scope} [scope.Kept R] (e) : Keeps R (constant reduce scope e) := by
  refine .after fun _ => ?_
  split <;> infer_instance

instance {α : Type} {step : Build α} [Keeps R step] : Keeps R (leniently step) :=
  .andThen Keeps.note fun _ => .after fun _ => .andThen Keeps.note fun _ => .just

instance (name args pos) : Keeps R (constantArg reduce name args pos) := by
  unfold constantArg
  repeat' first | infer_instance | split | intro _ | apply Ensures.andThen

instance (sound pos) : Keeps R (addSound sound pos) := by
  refine .after fun _ => ?_
  dsimp only
  split
  · exact .just
  · exact .andThen Keeps.note fun _ => .just

instance (arg pos) : Keeps R (volume reduce arg pos) := by
  unfold volume
  split <;> infer_instance

instance (name i args) : Keeps R (formatValues reduce name i args) := by
  induction args generalizing i with
  | nil => exact .just
  | cons arg rest ih =>
    unfold formatValues
    repeat' first | infer_instance | split | intro _ | apply Ensures.andThen

theorem find?_kept {name} {f : Function} (found : find? name = some f) : f.Kept R := by
  have all : ∀ entry ∈ table, Function.Kept R entry.2 := by
    simp only [table, List.forall_mem_cons, List.not_mem_nil, false_imp_iff, implies_true]
    repeat' apply And.intro
    all_goals first | trivial | refine ⟨fun reduce h name args pos => ?_⟩
    all_goals
      first
        | unfold extreme | unfold date | unfold dayOfYear | unfold storage | unfold operator
        | unfold bitmask | unfold getBits | unfold openttdVersion | unfold labelAvailable
        | unfold fileStatus | unfold visualEffect | unfold createEffect | unfold labelToNumber
        | unfold typeNumber | unfold reserveSprites | unfold industryType | unfold cargo
        | unfold mathematical | unfold round | unfold truncate | unfold absolute | unfold sound
        | unfold importSound | unfold relativeCoord | unfold cornersRaised | unfold slopeOffset
        | unfold paletteOne | unfold paletteTwo | unfold curveInfo | unfold formatString
      repeat' first
        | infer_instance | split | dsimp only | intro _ | apply Ensures.andThen
  obtain ⟨_, _, entries, -⟩ := List.lookup_eq_some_iff.1 found
  exact all _ (entries ▸ List.mem_append_right _ (.head _))

end Builtin

namespace Expr

variable [R.Reducing]

instance (e text pos) : Keeps R (needInteger e text pos) := by
  unfold needInteger
  split <;> infer_instance

instance (a b pos) : Keeps R (demandIntegers a b pos) := by
  unfold demandIntegers
  infer_instance

instance (a b pos) : Keeps R (demandNumbers a b pos) := by
  unfold demandNumbers
  infer_instance

instance (op a b pos) : Keeps R (checkOperands op a b pos) := by
  unfold checkOperands
  repeat' first | infer_instance | split

instance (e : Expr) : Keeps R e.currentShift := by
  unfold currentShift
  split <;> infer_instance

instance (e : Expr) : Keeps R e.ownCount := by
  unfold ownCount
  repeat' first | infer_instance | split

instance (e : Expr) : Keeps R e.ownShift := by
  unfold ownShift
  repeat' first | infer_instance | split

instance (set pos) : Keeps R (stationSlot set pos) := by
  unfold stationSlot
  repeat' first
    | infer_instance | exact Keeps.note | dsimp only | split | intro _ | apply Ensures.andThen

instance (custom name args pos) : Keeps R (callStationSprites custom name args pos) := by
  unfold callStationSprites
  repeat' first | infer_instance | split

section Reduce

variable {again : Builtin.Reduce} [again.Kept R] {scope : Scope} [scope.Kept R]

instance (a shift) : Keeps R (attach?.moved a shift) := by
  unfold attach?.moved
  infer_instance

instance (op a right pos) : Keeps R (attach? again scope op a right pos) := by
  unfold attach?
  repeat' first | infer_instance | split

instance (pos op a b) : Keeps R (reduceBinary.joined again scope pos op a b) := by
  unfold reduceBinary.joined
  repeat' first | infer_instance | split

instance (pos op a b) : Keeps R (reduceBinary.rest again scope pos op a b) := by
  unfold reduceBinary.rest
  repeat' first | infer_instance | split | intro _ | apply Ensures.andThen

instance (op a b pos) : Keeps R (reduceBinary again scope op a b pos) := by
  unfold reduceBinary
  repeat' first | infer_instance | split

instance (es sum) : Keeps R (bitsOf again scope es sum) := by
  induction es generalizing sum with
  | nil => exact .just
  | cons e es ih =>
    unfold bitsOf
    repeat' first | infer_instance | split | dsimp only | intro _ | apply Ensures.andThen

instance (e) : Keeps R (reduceOption again scope e) := by
  unfold reduceOption
  split <;> infer_instance

instance (a pos) : Keeps R (reduceAccess again scope a pos) := by
  unfold reduceAccess
  repeat' first | infer_instance | split | dsimp only | intro _ | apply Ensures.andThen

instance (kind value register owner pos) :
    Keeps R (reduceStorage again scope kind value register owner pos) := by
  unfold reduceStorage
  repeat' first | infer_instance | split | dsimp only | intro _ | apply Ensures.andThen

instance (name args target pos) : Keeps R (callNamed again name args target pos) := by
  unfold callNamed
  split <;> infer_instance

end Reduce

/-- Reduction stays within every frame that allows what it does. -/
instance reduceWith_kept (fuel strict) : Builtin.Reduce.Kept R (reduceWith fuel strict) := by
  induction fuel generalizing strict with
  | zero => exact ⟨fun _ _ _ => .stop⟩
  | succ fuel ih =>
    refine ⟨fun scope known e => ?_⟩
    unfold reduceWith
    cases e with
    | call name args pos =>
      refine .andThen Keeps.note fun _ => .after fun args => .andThen Keeps.note fun _ => ?_
      split
      · next f found =>
        have := Builtin.find?_kept (R := R) found
        have := this.kept (reduceWith fuel true) name.text args pos
        refine .after fun e => .after fun found => ?_
        split <;> exact .just
      · refine .after fun found => ?_
        split <;> infer_instance
    | _ =>
      dsimp only
      repeat' first | infer_instance | split | dsimp only | intro _ | apply Ensures.andThen

variable {scope : Scope} [scope.Kept R]

instance (e : Expr) : Keeps R (e.reduce scope) := by
  unfold reduce
  infer_instance

instance (e : Expr) : Keeps R (e.reduceConstant scope) := by
  refine .after fun _ => ?_
  split <;> infer_instance

end Expr

namespace Variable

variable [R.Reducing]

instance (infos) (name pos) : Keeps R (plainTable infos name pos) := by
  unfold plainTable
  split <;> infer_instance

instance (scope : Variable.Scope) {extra : NewGrf.Scope} [h : extra.Kept R] :
    NewGrf.Scope.Kept R (scope.names extra) where
  tables := by
    intro table inside
    simp only [Scope.names, List.mem_append, List.mem_cons, List.not_mem_nil, or_false] at inside
    obtain (own | rfl | rfl | rfl) | general := inside
    · exact h.tables table own
    · exact fun name pos => inferInstance
    · exact fun name pos => inferInstance
    · exact fun _ _ => .just
    · exact NewGrf.Scope.Kept.tables table general

end Variable

instance [R.Reducing] (e : Expr) (scope) {extra : Scope} [extra.Kept R] :
    Keeps R (e.reduceIn scope extra) := by
  unfold Expr.reduceIn
  infer_instance

end NewGrf

import Mathlib.Logic.Relation
import NewGrf.Proofs.Nodes

namespace NewGrf.Storing

open Relation

/-- An expression that writes a register or persistent storage itself. -/
def stores : Expr → Bool
  | .storage kind .. => kind.stores
  | _ => false

/-- The operands that the check looks at. -/
def operands : Expr → List Expr
  | .array vs _ | .bitmask vs _ => vs
  | .binary _ a b _ => [a, b]
  | .ternary g a b _ => [g, a, b]
  | .bitNot e _ | .not e _ | .boolean e _ | .abs e _ => [e]
  | .storage _ _ register _ _ => [register]
  | _ => []

/-- What else is computed for an expression: the arguments of a call, further values for a variable,
and a value to be stored. -/
def inputs : Expr → List Expr
  | .groupRef _ args _ _ _ => args
  | .access a _ => a.extra.map (·.2)
  | .storage _ value _ _ _ => value.toList
  | _ => []

/-- What a block decides by. -/
def deciding : Block.Content → List Expr
  | .switchBlock s => [s.expr]
  | _ => []

/-- What the check looks at in a block. -/
def checked (c : Block.Content) : List Expr := Block.results c ++ deciding c

/-- What else is computed by a block. -/
def counts : Block.Content → List Expr
  | .randomSwitch s => s.count.toList
  | _ => []

/-- The block that a reference leads to, unless the callback fails. -/
def target (s : Session) : Expr → Option Nat
  | .groupRef name _ _ _ _ =>
    if name.text == "CB_FAILED" then none else s.blockIds.get? name.text
  | _ => none

def content (s : Session) (id : Nat) : Block.Content := (s.blocks[id]?.getD default).content

section Relations

variable (s : Session)

/-- The check goes on from one expression to another. -/
inductive Next (e x : Expr) : Prop where
  | operand (inside : x ∈ operands e)
  | called {id : Nat} (leads : target s e = some id) (inside : x ∈ checked (content s id))

/-- One expression is computed for another, and the check does not look at it. -/
inductive Hidden (e x : Expr) : Prop where
  | input (inside : x ∈ inputs e)
  | count {id : Nat} (leads : target s e = some id) (inside : x ∈ counts (content s id))

/-- An expression that is computed for another one, or by a block that is called for it. -/
def Computed : Expr → Expr → Prop := ReflTransGen fun e x => Next s e x ∨ Hidden s e x

/-- An expression that the check gets to. -/
def Reached : Expr → Expr → Prop := ReflTransGen (Next s)

/-- No expression that the check gets to stores anything. -/
def Clean (e : Expr) : Prop := ∀ x, Reached s e x → stores x = false

/-- The blocks that an expression itself refers to are among the first ones. -/
def Within (n : Nat) (e : Expr) : Prop :=
  ∀ x, ReflTransGen (fun e x => x ∈ operands e) e x → ∀ id, target s x = some id → id < n

/-- Blocks refer only to blocks before them. -/
def Ranked : Prop := ∀ id b, s.blocks[id]? = some b → ∀ x ∈ checked b.content, Within s id x

end Relations

variable {s t : Session} {e x y : Expr} {n : Nat}

/-- What is computed can be reached, or is computed for something hidden behind what can. -/
theorem computed_iff : Computed s e y ↔
    Reached s e y ∨ ∃ w x, Reached s e w ∧ Hidden s w x ∧ Computed s x y := by
  constructor
  · intro computed
    induction computed using ReflTransGen.head_induction_on with
    | refl => exact .inl .refl
    | head step rest ih =>
      obtain next | hidden := step
      · obtain reached | ⟨w, x, reached, hidden, rest⟩ := ih
        · exact .inl (.head next reached)
        · exact .inr ⟨w, x, .head next reached, hidden, rest⟩
      · exact .inr ⟨_, _, .refl, hidden, rest⟩
  · have reach {x} (reached : Reached s e x) : Computed s e x :=
      ReflTransGen.mono (fun _ _ => .inl) _ _ reached
    rintro (reached | ⟨w, x, reached, hidden, rest⟩)
    · exact reach reached
    · exact (reach reached).trans (.head (.inr hidden) rest)

theorem clean_iff : Clean s e ↔ stores e = false ∧ (∀ x ∈ operands e, Clean s x) ∧
    ∀ id, target s e = some id → ∀ x ∈ checked (content s id), Clean s x := by
  constructor
  · intro clean
    exact ⟨clean e .refl, fun x inside y reached => clean y (.head (.operand inside) reached),
      fun id leads x inside y reached => clean y (.head (.called leads inside) reached)⟩
  · rintro ⟨own, ofOperands, ofBlock⟩ y reached
    obtain rfl | ⟨x, next, rest⟩ := ReflTransGen.cases_head reached
    · exact own
    · obtain inside | ⟨leads, inside⟩ := next
      · exact ofOperands x inside y rest
      · exact ofBlock _ leads x inside y rest

theorem Within.operand (h : Within s n e) (inside : x ∈ operands e) : Within s n x :=
  fun y below => h y (.head inside below)

theorem within_of_operands_nil (none : operands e = [])
    (own : ∀ id, target s e = some id → id < n) : Within s n e := by
  intro x below
  obtain rfl | ⟨y, inside, -⟩ := ReflTransGen.cases_head below
  · exact own
  · rw [none] at inside
    exact absurd inside List.not_mem_nil

/-- A check that leaves the session alone and gives whether something holds. -/
def Tells (s : Session) (m : Build Bool) (P : Prop) : Prop :=
  ∀ r t, m s = .ok r t → s = t ∧ (r = true ↔ P)

namespace Tells

variable {m m' : Build Bool} {P Q : Prop}

theorem pure {b : Bool} (h : b = true ↔ P) : Tells s (pure b) P := by
  intro r t run
  obtain ⟨rfl, rfl⟩ := Build.pure_eq_ok.1 run
  exact ⟨rfl, h⟩

theorem congr (h : Tells s m P) (same : P ↔ Q) : Tells s m Q :=
  fun r t run => ⟨(h r t run).1, (h r t run).2.trans same⟩

theorem both (first : Tells s m P) (second : Tells s m' Q) :
    Tells s (do if ← m then m' else Pure.pure false) (P ∧ Q) := by
  intro r t run
  obtain ⟨b, _, holds, run⟩ := Build.bind_eq_ok.1 run
  obtain ⟨rfl, tells⟩ := first _ _ holds
  cases b with
  | true =>
    obtain ⟨rfl, tells'⟩ := second _ _ run
    exact ⟨rfl, tells'.trans (and_iff_right (tells.1 rfl)).symm⟩
  | false =>
    obtain ⟨rfl, rfl⟩ := Build.pure_eq_ok.1 run
    exact ⟨rfl, iff_of_false Bool.false_ne_true fun h => Bool.false_ne_true (tells.2 h.1)⟩

theorem all {check : Ident → Build Bool} {es : List Expr} {P : Expr → Prop}
    (each : ∀ e ∈ es, Tells s (e.readOnly check) (P e)) :
    Tells s (Expr.allReadOnly check es) (∀ e ∈ es, P e) := by
  induction es with
  | nil => exact pure (by simp)
  | cons e es ih =>
    rw [List.forall_mem_cons] at each
    exact (both each.1 (ih each.2)).congr List.forall_mem_cons.symm

end Tells

theorem sizeOf_operand (inside : x ∈ operands e) : sizeOf x < sizeOf e := by
  cases e with
  | array vs _ | bitmask vs _ =>
    have := List.sizeOf_lt_of_mem (show x ∈ vs from inside)
    simp only [Expr.array.sizeOf_spec, Expr.bitmask.sizeOf_spec]
    omega
  | binary op a b _ =>
    simp only [operands, List.mem_cons, List.not_mem_nil, or_false] at inside
    simp only [Expr.binary.sizeOf_spec]
    obtain rfl | rfl := inside <;> omega
  | ternary g a b _ =>
    simp only [operands, List.mem_cons, List.not_mem_nil, or_false] at inside
    simp only [Expr.ternary.sizeOf_spec]
    obtain rfl | rfl | rfl := inside <;> omega
  | bitNot a _ | not a _ | boolean a _ | abs a _ =>
    obtain rfl := List.mem_singleton.1 (show x ∈ [a] from inside)
    simp only [Expr.bitNot.sizeOf_spec, Expr.not.sizeOf_spec, Expr.boolean.sizeOf_spec,
      Expr.abs.sizeOf_spec]
    omega
  | storage _ _ register _ _ =>
    obtain rfl := List.mem_singleton.1 (show x ∈ [register] from inside)
    simp only [Expr.storage.sizeOf_spec]
    omega
  | _ => exact absurd inside List.not_mem_nil

/-- The check of an expression tells whether it is clean, if the check of a block does. -/
theorem readOnly_tells {check : Ident → Build Bool}
    (block : ∀ name : Ident, (∀ id, s.blockIds.get? name.text = some id → id < n) →
      Tells s (check name) (∀ id, s.blockIds.get? name.text = some id →
        ∀ x ∈ checked (content s id), Clean s x)) :
    ∀ e, Within s n e → Tells s (e.readOnly check) (Clean s e) := by
  intro e
  induction size : sizeOf e using Nat.strongRecOn generalizing e with
  | ind m ih =>
    subst size
    intro within
    have each : ∀ x ∈ operands e, Tells s (x.readOnly check) (Clean s x) := fun x inside =>
      ih _ (sizeOf_operand inside) x rfl (within.operand inside)
    rw [clean_iff]
    cases e with
    | array vs _ | bitmask vs _ =>
      exact (Tells.all each).congr (by simp [stores, operands, target])
    | binary _ a b _ =>
      exact ((each a (by simp [operands])).both (each b (by simp [operands]))).congr
        (by simp [stores, operands, target])
    | ternary g a b _ =>
      exact ((each g (by simp [operands])).both
        ((each a (by simp [operands])).both (each b (by simp [operands])))).congr
        (by simp [stores, operands, target])
    | bitNot a _ | not a _ | boolean a _ | abs a _ =>
      exact (each a (by simp [operands])).congr (by simp [stores, operands, target])
    | storage kind _ register _ _ =>
      rw [Expr.readOnly]
      split
      case isTrue isStore => exact .pure (by simp [stores, isStore])
      case isFalse isLoad =>
        exact (each register (by simp [operands])).congr
          (by simp [stores, isLoad, operands, target])
    | groupRef name args _ _ _ =>
      rw [Expr.readOnly]
      split
      case isTrue failing => exact .pure (by simp [stores, operands, target, failing])
      case isFalse known =>
        refine (block name fun id leads => within _ .refl id ?_).congr ?_
        · rw [target, if_neg known, leads]
        · simp [stores, operands, target, known]
    | _ => exact .pure (by simp [stores, operands, target])

theorem blockReadOnly_tells (ranked : Ranked s) (fuel : Nat) (name : Ident) (low : n ≤ fuel)
    (inside : n ≤ s.blocks.size)
    (within : ∀ id, s.blockIds.get? name.text = some id → id < n) :
    Tells s (Block.readOnly fuel name) (∀ id, s.blockIds.get? name.text = some id →
      ∀ x ∈ checked (content s id), Clean s x) := by
  induction fuel generalizing n name with
  | zero =>
    exact .pure (iff_of_true rfl fun id leads => absurd (within id leads) (by omega))
  | succ fuel ih =>
    intro r t run
    obtain ⟨id, _, resolved, run⟩ := Build.bind_eq_ok.1 run
    obtain ⟨leads, rfl⟩ := Build.resolve_eq_ok.1 resolved
    obtain ⟨b, _, found, run⟩ := Build.bind_eq_ok.1 run
    obtain ⟨rfl, rfl⟩ := Build.block?_eq_ok.1 found
    have below := within id leads
    have part {x} (isChecked : x ∈ checked (content s id)) :
        Tells s (x.readOnly (Block.readOnly fuel)) (Clean s x) := by
      have some : s.blocks[id]? = some s.blocks[id] := Array.getElem?_eq_getElem _
      refine readOnly_tells (n := id) (fun name => ih (n := id) name (by omega) (by omega)) x ?_
      refine ranked id _ some x ?_
      rwa [content, some] at isChecked
    have same : (∀ id', s.blockIds.get? name.text = some id' →
        ∀ x ∈ checked (content s id'), Clean s x) ↔ ∀ x ∈ checked (content s id), Clean s x :=
      ⟨fun h => h id leads, fun h id' leads' => Option.some.inj (leads.symm.trans leads') ▸ h⟩
    rw [same]
    have part : ∀ x ∈ checked (content s id), _ := fun x => part
    unfold content at part ⊢
    generalize (s.blocks[id]?.getD default).content = c at part run ⊢
    have results := Tells.all fun x inside => part x (List.mem_append_left _ inside)
    rw [checked, List.forall_mem_append]
    cases c with
    | switchBlock w =>
      have expr := part w.expr (List.mem_append_right _ (.head _))
      exact (results.both (expr.congr List.forall_mem_singleton.symm)) r t run
    | _ => exact (results.both (.pure (by simp [deciding]))) r t run

/-- The check of an expression tells whether it is clean. -/
theorem isReadOnly_tells (ranked : Ranked s) (within : Within s s.blocks.size e) :
    Tells s e.isReadOnly (Clean s e) := by
  intro r t run
  obtain ⟨_, _, got, run⟩ := Build.bind_eq_ok.1 run
  obtain ⟨rfl, rfl⟩ := Build.get_eq_ok.1 got
  exact readOnly_tells (fun name => blockReadOnly_tells ranked _ name (Nat.le_succ _)
    (Nat.le_refl _)) e within r t run

/-- The check says no exactly if something stores that it looks at. Where it says yes, something is
stored exactly if it is computed for an argument of a call, for a further value of a variable or for
the count of a random switch. -/
theorem read_only_stores_iff_hidden {r : Bool} (ranked : Ranked s)
    (within : Within s s.blocks.size e) (run : e.isReadOnly s = .ok r t) :
    (r = false ↔ ∃ x, Reached s e x ∧ stores x = true) ∧
    (r = true → ((∃ x, Computed s e x ∧ stores x = true) ↔
      ∃ w x y, Reached s e w ∧ Hidden s w x ∧ Computed s x y ∧ stores y = true)) := by
  have clean := (isReadOnly_tells ranked within r t run).2
  constructor
  · rw [← Bool.not_eq_true, clean, Clean]
    simp only [Classical.not_forall, Bool.not_eq_false, exists_prop]
  · intro isTrue
    constructor
    · rintro ⟨y, computed, isStore⟩
      obtain reached | ⟨w, x, reached, hidden, rest⟩ := computed_iff.1 computed
      · exact absurd (clean.1 isTrue y reached) (by simp [isStore])
      · exact ⟨w, x, y, reached, hidden, rest, isStore⟩
    · rintro ⟨w, x, y, reached, hidden, rest, isStore⟩
      exact ⟨y, computed_iff.2 (.inr ⟨w, x, reached, hidden, rest⟩), isStore⟩

/-- A procedure with one parameter. -/
def passingOn : Session where
  graph := { cells := #[none] }
  blockIds := [("f", 0)]
  blocks := #[{ content := .switchBlock { (default : Switch) with expr := .num 1 none }
                name := none, pos := default, registers := [(0, [0])], nodes := [(0, 1)] }]

/-- A call to which a value is passed that is stored at the same time. -/
def storingCall : Expr :=
  .groupRef ⟨"f", none⟩ [.storage .storeTemp (some (.num 7 none)) (.num 1 none) none none] true none
    none

/-- A choice whose first value is the call. -/
def storingChoice : Expr :=
  .ternary (.var 0x40 0 0xFF) storingCall (.num 2 none) none

/-- The chain that a build ends with. -/
def builtChain : EStateM.Result Stop Session Chain.Draft → Chain
  | .ok d _ => d.chain
  | .error .. => []

/-- Nothing seems to be stored by the call. So the chain of a choice computes it before anything is
chosen, and stores 7 in register 1. -/
theorem storing_argument_is_hidden :
    storingCall.isReadOnly passingOn = .ok true passingOn ∧
    (∃ x, Computed passingOn storingCall x ∧ stores x = true) ∧
    ((builtChain (Chain.ofExpr 0 .self storingChoice passingOn)).drop 16).take 3 =
      [.constant 7 "", .op .storeTemp, .constant 1 ""] := by
  have run : storingCall.isReadOnly passingOn = .ok true passingOn := by rfl
  refine ⟨run, ((read_only_stores_iff_hidden ?_ ?_ run).2 rfl).2 ?_, by decide +kernel⟩
  · intro id b found x inside
    obtain ⟨below, rfl⟩ := Array.getElem?_eq_some_iff.1 found
    obtain rfl : id = 0 := Nat.lt_one_iff.1 below
    obtain rfl := List.mem_singleton.1 (show x ∈ [.num 1 none] from inside)
    exact within_of_operands_nil rfl fun id leads => absurd leads (by simp [target])
  · exact within_of_operands_nil rfl fun id leads =>
      (Option.some.inj (show some 0 = some id from leads)) ▸ Nat.zero_lt_one
  · exact ⟨storingCall, _, _, .refl, .input (.head _), .refl, rfl⟩

end NewGrf.Storing

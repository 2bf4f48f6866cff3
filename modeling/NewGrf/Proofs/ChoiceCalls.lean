import NewGrf.Proofs.ChainNodes
import NewGrf.Proofs.ConstantFolding

namespace NewGrf

/-- Whether a value of the chain lies in the range, as a signed number. -/
def ResultRange.holds (r : ResultRange) (v : Word) : Bool :=
  (Word.ofInt r.low).sle v && v.sle (Word.ofInt r.high)

/-- Where a node leads to for a value of its chain; nowhere if the value itself is the result. -/
def ChainNode.selected? (c : ChainNode) (v : Word) : Option Result :=
  if c.ranges.isEmpty then none
  else some (((c.ranges.find? (·.holds v)).map (·.result)).getD c.default)

/-- What running the chain of a node does: the value that it leaves, and what becomes of the
world. -/
abbrev Runner := Nat → Chain → World → Option (Word × World)

/-- What a call of a node gives, with nodes that lead to others at most so many times. Without
ranges it is the value of the chain. A result with the highest bit set gives its other bits. -/
def Graph.call (g : Graph) (run : Runner) : Nat → Nat → World → Option (Word × World)
  | 0, _, _ => none
  | depth + 1, i, w =>
    match (g.node i).body with
    | .chain c =>
      (run i c.chain w).bind fun x =>
        match c.selected? x.1 with
        | none => some x
        | some (.number v) => some (Word.ofInt (Number.bitOr v 0x8000) &&& 0x7FFF, x.2)
        | some (.node j) => g.call run depth j x.2
    | _ => none

/-- Values that only the game can compute. -/
def Expr.isComputed : Expr → Bool
  | num .. | groupRef .. | string .. => false
  | e => !e.inAssignment

/-- Numbers, and values that only the game can compute. -/
def Expr.IsValue (e : Expr) : Prop := e.isComputed = true ∨ ∃ v p, e = .num v p

namespace Chain

/-- What a value of a choice becomes: a number, or the chain of a node. -/
inductive Code where
  | number (v : Int)
  | chain (node : Nat) (c : Chain)

/-- What is left of a number in a result. -/
def kept (v : Int) : Word := Word.ofInt v &&& 0x7FFF

/-- What there is to do for a value. -/
def Code.outcome (run : Runner) (w : World) : Code → Option (Word × World)
  | number v => some (kept v, w)
  | chain node c => run node c w

/-- The code of a value. A chain is the one of the value alone. -/
inductive Codes (feature : Int) (range : VarRange) : Expr → Code → Prop where
  | number {v p} (low : -0x4000 ≤ v) (high : v < 0x8000) :
    Codes feature range (.num v p) (.number v)
  | chain {e : Expr} {node : Nat} {d : Draft} {s t : Session} (isComputed : e.isComputed = true)
      (built : ofExpr feature range e s = .ok d t) : Codes feature range e (.chain node d.chain)

/-- A result in a graph holds a code. -/
inductive Code.Held (g : Graph) : Code → Result → Prop where
  | number (v : Int) : Held g (.number v) (.number v)
  | chain {node : Nat} {c : ChainNode} (body : (g.node node).body = .chain c)
    (plain : c.ranges = []) : Held g (.chain node c.chain) (.node node)

theorem bitOr_kept (v : Int) : Word.ofInt (Number.bitOr v 0x8000) &&& 0x7FFF = kept v := by
  have cut : (Word.ofInt 0x8000 : Word) &&& 0x7FFF = 0 := by decide
  rw [Word.ofInt_bitOr, BitVec.and_or_distrib_right, cut, kept]
  exact BitVec.or_zero

/-- Exactly the numbers that are not negative come out as they are. -/
theorem kept_eq_iff {v : Int} (low : -0x4000 ≤ v) (high : v < 0x8000) :
    kept v = Word.ofInt v ↔ 0 ≤ v := by
  have mask : (0x7FFF : Word).toNat = 2 ^ 15 - 1 := rfl
  rw [kept, ← BitVec.toNat_inj, BitVec.toNat_and, mask, Nat.and_two_pow_sub_one_eq_mod,
    BitVec.toNat_ofInt]
  omega

theorem Codes.kept_eq_iff {feature : Int} {range : VarRange} {v : Int} {p : Option Position}
    {code : Code} (codes : Codes feature range (.num v p) code) :
    kept v = Word.ofInt v ↔ 0 ≤ v := by
  cases codes with
  | number low high => exact Chain.kept_eq_iff low high
  | chain isComputed => cases isComputed

section Held

variable {g : Graph} {run : Runner} {i j : Nat} {c : ChainNode} {w : World} {x : Word × World}
    {depth : Nat}

theorem call_chain (body : (g.node j).body = .chain c) (plain : c.ranges = []) :
    g.call run (depth + 1) j w = run j c.chain w := by
  have selects : ∀ v, c.selected? v = none := fun v => by simp [ChainNode.selected?, plain]
  rw [Graph.call]
  simp only [body, selects]
  exact Option.bind_fun_some _

/-- A call of a node whose result holds a code does what the code says. -/
theorem call_held {code : Code} {r : Result} (body : (g.node i).body = .chain c)
    (ran : run i c.chain w = some x) (selects : c.selected? x.1 = some r) (held : code.Held g r) :
    g.call run (depth + 2) i w = code.outcome run x.2 := by
  rw [Graph.call]
  simp only [body, ran, Option.bind_some, selects]
  cases held with
  | number v =>
    simp only [bitOr_kept]
    rfl
  | chain body plain => exact call_chain body plain

end Held

open Stateful

variable {parent i : Nat} {range : VarRange} {offset copies : Nat} {e computed : Expr} {r : Result}
    {note : String} {d d' : NewGrf.Draft} {s t : Session} {feature : Int}

theorem returning_eq_ok {name : String} {actions : List Action}
    (h : returning compile e feature name range s = .ok (actions, i) t) :
    ∃ d u, ofExpr feature range e s = .ok d u ∧ s.graph.nodes.size ≤ i ∧ i < t.graph.nodes.size ∧
      ∃ c, (t.graph.node i).body = .chain c ∧ c.chain = d.chain ∧ c.ranges = [] := by
  obtain ⟨d, u, built, h⟩ := Build.bind_eq_ok.1 h
  obtain ⟨j, v, made, h⟩ := Build.bind_eq_ok.1 h
  obtain ⟨same, rfl⟩ := Build.pure_eq_ok.1 h
  obtain ⟨-, rfl⟩ := Prod.mk.inj same
  have grown := ((inferInstance : Makes (run feature range (pushAll compile e))).of_ok built).1
  obtain ⟨new, inside, -, body⟩ := newNode_eq_ok made
  exact ⟨d, u, built, new ▸ grown.size, inside, _, body, rfl, rfl⟩

theorem Code.Held.of_kept {code : Code} {g h : Graph} (held : code.Held g r)
    (kept : ∀ node, r = .node node → (h.node node).body = (g.node node).body) : code.Held h r := by
  cases held with
  | number v => exact .number v
  | chain body plain => exact .chain ((kept _ rfl).trans body) plain

theorem Code.Held.of_grows {code : Code} (held : code.Held s.graph r)
    (inside : ∀ node, r = .node node → node < s.graph.nodes.size) (grown : s.Grows t) :
    code.Held t.graph r := held.of_kept fun node same => grown.body node (inside node same)

theorem isComputed_iff : e.isComputed = true ↔
    e.inAssignment = false ∧ (∀ v p, e ≠ .num v p) ∧
      (∀ name args called group p, e ≠ .groupRef name args called group p) ∧
      ∀ name args p, e ≠ .string name args p := by
  unfold Expr.isComputed
  split
  · exact iff_of_false Bool.false_ne_true fun h => h.2.1 _ _ rfl
  · exact iff_of_false Bool.false_ne_true fun h => h.2.2.1 _ _ _ _ _ rfl
  · exact iff_of_false Bool.false_ne_true fun h => h.2.2.2 _ _ _ rfl
  · next noNumber noRef noText =>
    rw [Bool.not_eq_true']
    exact (and_iff_left ⟨noNumber, noRef, noText⟩).symm

/-- A number that fits is a result as it is. -/
theorem result_number {v : Int} {p : Option Position}
    (h : result compile parent range offset (some (.num v p)) computed copies d s =
      .ok ((r, note), d') t) : r = .number v ∧ -0x4000 ≤ v ∧ v < 0x8000 ∧ t = s := by
  unfold result at h
  dsimp only at h
  split at h
  · next fits =>
    obtain ⟨same, -, rfl⟩ := pure_eq_ok.1 h
    obtain ⟨rfl, -⟩ := Prod.mk.inj same
    simp only [Bool.and_eq_true, decide_eq_true_eq] at fits
    exact ⟨rfl, fits.1, by omega, rfl⟩
  · obtain ⟨_, _, failed, -⟩ := lift_bind_eq_ok.1 h
    exact (Build.fail_ne_ok.1 failed).elim

/-- A value that only the game can compute is returned by a node, to which the parent refers. -/
theorem result_computed (isComputed : e.isComputed = true)
    (h : result compile parent range offset (some e) computed copies d s = .ok ((r, note), d') t) :
    ∃ name actions i u, returning compile e (s.graph.node parent).feature name range s =
        .ok (actions, i) u ∧ r = .node i ∧ u.Grows t := by
  obtain ⟨unknown, noNumber, noRef, noText⟩ := isComputed_iff.1 isComputed
  rw [result] at h
  all_goals try assumption
  rw [if_neg (by simp [unknown])] at h
  obtain ⟨own, _, named, h⟩ := lift_bind_eq_ok.1 h
  obtain ⟨_, _, seen, named⟩ := Build.bind_eq_ok.1 named
  obtain ⟨rfl, rfl⟩ := Build.get_eq_ok.1 seen
  obtain ⟨rfl, rfl⟩ := Build.pure_eq_ok.1 named
  obtain ⟨_, _, looked, h⟩ := lift_bind_eq_ok.1 h
  obtain ⟨rfl, rfl⟩ : s.graph.node parent = _ ∧ s = _ := Build.pure_eq_ok.1 looked
  obtain ⟨⟨actions, i⟩, u, returns, h⟩ := lift_bind_eq_ok.1 h
  obtain ⟨_, u₁, counted, h⟩ := lift_bind_eq_ok.1 h
  obtain ⟨_, u₂, refers, h⟩ := lift_bind_eq_ok.1 h
  replace h := modify_bind_eq_ok.1 h
  obtain ⟨_, u₃, shown, h⟩ := lift_bind_eq_ok.1 h
  obtain ⟨same, -, rfl⟩ := pure_eq_ok.1 h
  obtain ⟨rfl, -⟩ := Prod.mk.inj same
  have counts := ((inferInstance : Makes countResult).of_ok counted).1
  have refers := ((inferInstance : Makes (Build.refer parent i false)).of_ok refers).1
  have shows := ((inferInstance : Makes (Build.current e)).of_ok shown).1
  exact ⟨_, actions, i, u, returns, rfl, (counts.trans refers).trans shows⟩

/-- A value becomes a code, which is in a new node or in no node. -/
theorem result_codes (isValue : e.IsValue) (below : parent < s.graph.nodes.size)
    (h : result compile parent range offset (some e) computed copies d s = .ok ((r, note), d') t) :
    ∃ code, Codes (s.graph.node parent).feature range e code ∧ code.Held t.graph r ∧
      (∀ node, r = .node node → node < t.graph.nodes.size ∧ node ≠ parent) ∧
      (t.graph.node parent).feature = (s.graph.node parent).feature := by
  obtain isComputed | ⟨v, p, rfl⟩ := isValue
  · obtain ⟨name, actions, i, u, returns, rfl, grown⟩ := result_computed isComputed h
    obtain ⟨built, _, compiled, new, inside, c, body, chain, plain⟩ := returning_eq_ok returns
    have made := ((inferInstance : Makes (returning compile e _ name range)).of_ok returns).1
    have other : i ≠ parent := by omega
    have held : (Code.chain i c.chain).Held u.graph (.node i) := .chain body plain
    refine ⟨.chain i c.chain, chain ▸ .chain isComputed compiled,
      held.of_grows (fun node same => ?_) grown, fun node same => ?_,
      (made.trans grown).feature parent below⟩
    all_goals obtain rfl := Result.node.inj same
    · exact inside
    · exact ⟨Nat.lt_of_lt_of_le inside grown.size, other⟩
  · obtain ⟨rfl, low, high, rfl⟩ := result_number h
    exact ⟨.number v, .number low high, .number v, (fun _ same => by cases same), rfl⟩

theorem selected?_zero {c : ChainNode} {z : ResultRange} (single : c.ranges = [z]) (low : z.low = 0)
    (high : z.high = 0) (v : Word) :
    c.selected? v = some (if v = 0 then z.result else c.default) := by
  have holds : z.holds v = decide (v = 0) := by
    rw [ResultRange.holds, low, high, Bool.eq_iff_iff, Bool.and_eq_true, decide_eq_true_eq]
    simp only [BitVec.sle_iff_toInt_le]
    rw [← BitVec.toInt_inj]
    simp
    omega
  rw [ChainNode.selected?, single, List.isEmpty_cons, List.find?_cons, holds]
  by_cases zero : v = 0
  · rw [decide_eq_true zero, if_pos zero]
    rfl
  · rw [decide_eq_false zero, if_neg zero]
    rfl

/-- A call of a node with a range from 0 to 0 that has been filled. -/
theorem call_filled {g : Graph} {own : Nat} {c : ChainNode} {z : ResultRange} {chosen other : Code}
    (below : own < g.nodes.size) (single : c.ranges = [z]) (low : z.low = 0) (high : z.high = 0)
    (first : chosen.Held g c.default) (second : other.Held g z.result)
    (apart : Result.node own ≠ c.default ∧ Result.node own ≠ z.result)
    {run : Runner} {w w' : World} {v : Word} (ran : run own c.chain w = some (v, w')) :
    (g.modifyNode own fun n => { n with body := .chain c }).call run 2 own w =
      if v = 0 then other.outcome run w' else chosen.outcome run w' := by
  have body := congrArg Node.body
    (Graph.node_modifyNode (f := fun n => { n with body := .chain c }) below)
  have kept {code : Code} {r : Result} (held : code.Held g r) (ne : Result.node own ≠ r) :
      code.Held (g.modifyNode own fun n => { n with body := .chain c }) r := by
    refine held.of_kept fun node same => congrArg Node.body (Graph.node_modifyNode_of_ne ?_)
    rintro rfl
    exact ne same.symm
  have selects := selected?_zero single low high v
  split
  · next zero =>
    rw [if_pos zero] at selects
    exact call_held body ran selects (kept second apart.2)
  · next other =>
    rw [if_neg other] at selects
    exact call_held body ran selects (kept first apart.1)

/-- A call of the node of a choice runs the chain of the guard once, and then does what belongs to
the value that it selects, and nothing of the other one. A value that only the game can compute has
a chain of its own, and all 32 bits of its value come out. A number comes out as it is exactly if it
is not negative: a result holds 15 bits. -/
theorem choice_call_eq_selected {guard yes no : Expr} {actions : List Action}
    (run : choiceNode compile guard yes no feature range s = .ok (actions, e) t)
    (first : yes.IsValue) (second : no.IsValue) :
    ∃ node name d u u' chosen other,
      actions.getLast? = some (.node node) ∧ e = .groupRef name [] false (some node) none ∧
      Chain.run feature range (do
        let reduced ← guard.reduceIn ((Variable.Scope.ofRange? feature range).getD .towns)
        pushAll compile reduced) u = .ok d u' ∧
      Codes d.feature range yes chosen ∧ Codes d.feature range no other ∧
      (∀ (exec : Runner) (w w' : World) (v : Word), exec node d.chain w = some (v, w') →
        t.graph.call exec 2 node w =
          if v = 0 then other.outcome exec w' else chosen.outcome exec w') ∧
      ∀ n p, yes = .num n p ∨ no = .num n p → (kept n = Word.ofInt n ↔ 0 ≤ n) := by
  obtain ⟨name, _, -, run⟩ := Build.bind_eq_ok.1 run
  obtain ⟨_, u, -, run⟩ := Build.bind_eq_ok.1 run
  obtain ⟨d, v, built, run⟩ := Build.bind_eq_ok.1 run
  obtain ⟨own, s₁, made, run⟩ := Build.bind_eq_ok.1 run
  obtain ⟨-, below, isFeature, -⟩ := newNode_eq_ok made
  obtain ⟨⟨_, draft⟩, s₄, drafted, run⟩ := Build.bind_eq_ok.1 run
  obtain ⟨same, rfl⟩ := Build.pure_eq_ok.1 run
  obtain ⟨rfl, rfl⟩ := Prod.mk.inj same
  replace drafted := modify_bind_eq_ok.1 drafted
  replace drafted := modify_bind_eq_ok.1 drafted
  obtain ⟨⟨r₂, _⟩, d₁, s₂, otherwise, drafted⟩ := bind_eq_ok.1 drafted
  obtain ⟨other, codes₂, held₂, inside₂, feature₂⟩ := result_codes second below otherwise
  have below₂ := Nat.lt_of_lt_of_le below
    ((Passes.keeps (R := .growing) _).of_ok otherwise).1.size
  obtain ⟨⟨r₁, _⟩, d₂, s₃, selected, drafted⟩ := bind_eq_ok.1 drafted
  obtain ⟨chosen, codes₁, held₁, inside₁, -⟩ := result_codes first below₂ selected
  have grown := ((Passes.keeps (R := .growing) _).of_ok selected).1
  have below₃ := Nat.lt_of_lt_of_le below₂ grown.size
  replace held₂ := held₂.of_grows (fun node same => (inside₂ node same).1) grown
  obtain ⟨filled, rfl⟩ := lift_eq_ok.1 drafted
  obtain rfl := Build.modify_eq_ok.1 filled
  rw [feature₂, isFeature] at codes₁
  rw [isFeature] at codes₂
  have apart : Result.node own ≠ r₁ ∧ Result.node own ≠ r₂ :=
    ⟨fun same => (inside₁ own same.symm).2 rfl, fun same => (inside₂ own same.symm).2 rfl⟩
  refine ⟨own, _, d, u, v, chosen, other, by simp, rfl, built, codes₁, codes₂,
    fun exec w w' x ran => call_filled below₃ rfl rfl rfl held₁ held₂ apart ran, ?_⟩
  rintro n p (rfl | rfl)
  · exact codes₁.kept_eq_iff
  · exact codes₂.kept_eq_iff

/-- A choice by the lowest byte of variable 64, between storing a number and a negative number. -/
def storingOrNegative : Build (List Action × Expr) :=
  choiceNode compile (.var 0x40 0 0xFF) (.binary .storeTemp (.int 1) (.int 7) none) (.int (-5)) 0
    .self

/-- The negative number comes out as 32763. -/
theorem negative_number_cut : ∃ actions e t node chain, storingOrNegative {} = .ok (actions, e) t ∧
    actions.getLast? = some (.node node) ∧
    ∀ (exec : Runner) (w w' : World), exec node chain w = some (0, w') →
      t.graph.call exec 2 node w = some (32763, w') := by
  obtain ⟨⟨actions, e⟩, t, run⟩ : ∃ x t, storingOrNegative {} = .ok x t := ⟨_, _, rfl⟩
  obtain ⟨node, _, d, _, _, _, other, last, -, -, -, codes, calls, -⟩ :=
    choice_call_eq_selected run (.inl rfl) (.inr ⟨_, _, rfl⟩)
  refine ⟨actions, e, t, node, d.chain, run, last, fun exec w w' ran => ?_⟩
  rw [calls exec w w' 0 ran, if_pos rfl]
  cases codes with
  | number => rfl
  | chain isComputed => cases isComputed

end Chain

end NewGrf

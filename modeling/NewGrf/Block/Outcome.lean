import NewGrf.Session

namespace NewGrf

mutual

/-- Whether computing an expression leaves all storage as it is. -/
def Expr.readOnly (blockReadOnly : Ident → Build Bool) : Expr → Build Bool
  | .array vs _ | .bitmask vs _ => Expr.allReadOnly blockReadOnly vs
  | .binary _ a b _ => do
    if ← a.readOnly blockReadOnly then b.readOnly blockReadOnly else pure false
  | .ternary g a b _ => do
    if ← g.readOnly blockReadOnly then
      if ← a.readOnly blockReadOnly then b.readOnly blockReadOnly else pure false
    else pure false
  | .bitNot e _ | .not e _ | .boolean e _ | .abs e _ => e.readOnly blockReadOnly
  | .storage kind _ register _ _ =>
    if kind.stores then pure false else register.readOnly blockReadOnly
  | .groupRef name _ _ _ _ =>
    if name.text == "CB_FAILED" then pure true else blockReadOnly name
  | _ => pure true

def Expr.allReadOnly (blockReadOnly : Ident → Build Bool) : List Expr → Build Bool
  | [] => pure true
  | e :: es => do
    if ← e.readOnly blockReadOnly then Expr.allReadOnly blockReadOnly es else pure false

end

namespace Block

def results : Content → List Expr
  | .switchBlock s =>
    s.body.ranges.filterMap (·.result.value) ++ (s.body.default.bind (·.value)).toList
  | .randomSwitch s => s.choices.filterMap (·.result.value)
  | _ => []

/-- Whether a block leaves all storage as it is. A block refers only to blocks before it, so the
number of blocks bounds the depth. -/
def readOnly : Nat → Ident → Build Bool
  | 0, _ => pure true
  | fuel + 1, name => do
    let id ← Build.resolve name
    let b ← Build.block? id
    if ← Expr.allReadOnly (readOnly fuel) (results b.content) then
      match b.content with
      | .switchBlock s => s.expr.readOnly (readOnly fuel)
      | _ => pure true
    else pure false

end Block

def Expr.isReadOnly (e : Expr) : Build Bool := do
  e.readOnly (Block.readOnly ((← get).blocks.size + 1))

namespace Block

def isFrom (v : Int) : Expr → Bool
  | .num low _ => low ≤ v
  | .float low _ => low ≤ Number.floatOfInt v
  | _ => false

def isUpTo (v : Int) : Expr → Bool
  | .num high _ => v ≤ high
  | .float high _ => Number.floatOfInt v ≤ high
  | _ => false

/-- The result of a switch, if it is the same for all that can happen. -/
def constantResult? (s : Switch) (readOnly : Bool) : Option Expr :=
  let chosen := match s.expr with
    | .num v _ =>
      let hits := s.body.ranges.filter fun r => isFrom v r.low && isUpTo v r.high
      match hits.getLast? with
      | some r => some (r.result.value.getD s.expr)
      | none => s.body.default.map fun d => d.value.getD s.expr
    | _ => none
  match chosen with
  | some e => some e
  | none =>
    if readOnly && s.body.ranges.isEmpty then s.body.default.bind (·.value) else none

def returning (s : Switch) (e : Expr) : Switch :=
  { s with expr := e, body := { ranges := [], default := some ⟨none, true, e.pos⟩ } }

def sayOptimised (name : String) (pos : Position) : Build Unit :=
  Build.warn ("Block '" ++ name ++ "' returns a constant, optimising.") (some pos) .optimisation

def findOutcome (id : Nat) (b : Block) : Build Outcome := do
  match b.content with
  | .switchBlock s =>
    match constantResult? s (← s.expr.isReadOnly) with
    | none => pure .itself
    | some e =>
      sayOptimised s.name.text s.pos
      if plain : isPlainResult e then pure (.value e plain)
      else
        Build.modifyBlock id fun b => { b with content := .switchBlock (returning s e) }
        pure .itself
  | .randomSwitch s =>
    match s.triggers, s.choices with
    | .num 0 _, [c] =>
      match c.result.value with
      | some e =>
        if plain : isPlainResult e then
          sayOptimised s.name.text s.pos
          pure (.value e plain)
        else pure .itself
      | none => pure .itself
    | _, _ => pure .itself
  | _ => pure .unknown

def outcome? (id : Nat) : Build (Option Expr) := do
  let b ← Build.block? id
  match b.outcome with
  | .itself => pure none
  | .value e _ => pure (some e)
  | .unknown =>
    let o ← findOutcome id b
    Build.modifyBlock id fun b => { b with outcome := o }
    match o with
    | .value e _ => pure (some e)
    | _ => pure none

end Block

end NewGrf

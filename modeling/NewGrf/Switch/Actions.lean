import NewGrf.Sprite.Sets

namespace NewGrf

/-- Ranges in ascending order; two that overlap or touch are joined to one. -/
abbrev Coverage := List (Int × Int)

namespace Coverage

def covers (c : Coverage) (low high : Int) : Bool := c.any fun (a, b) => a ≤ low && high ≤ b

def before (a b : Int × Int) : Bool := a.1 < b.1 || (a.1 == b.1 && a.2 ≤ b.2)

def joinFrom (a b : Int) : Coverage → Coverage
  | [] => [(a, b)]
  | (c, d) :: rest =>
    if c ≤ b + 1 then joinFrom a (if b < d then d else b) rest else (a, b) :: joinFrom c d rest

def join : Coverage → Coverage
  | [] => []
  | (a, b) :: rest => joinFrom a b rest

def insert (c : Coverage) (low high : Int) : Coverage :=
  join (c.takeWhile (before · (low, high)) ++ (low, high) :: c.dropWhile (before · (low, high)))

end Coverage

namespace Switch

open Chain (compile)

def bound (e : Expr) (offset : Nat) : Drafting Int := do
  let (v, before, patches) ← Assign.field e offset 4
  Drafting.emit before
  Drafting.patch patches
  pure v

def rangeAt (node : Nat) (range : VarRange) (computed : Expr) (r : SwitchRange) (offset : Nat) :
    Drafting ResultRange := do
  let (result, note) ← Chain.result compile node range offset r.result.value computed
  if r.unit.isSome then
    Build.fail "Using a unit is in switch-ranges is not (temporarily) not supported" r.low.pos
  let low ← bound r.low (offset + 2)
  let high ← bound r.high (offset + 6)
  pure { low, high, result, note := r.low.text ++ " .. " ++ r.high.text ++ ": " ++ note }

/-- The ranges of a switch, from an offset on. Those that are never reached are left out. -/
def rangesFrom (node : Nat) (range : VarRange) (computed : Expr) :
    List SwitchRange → Nat → Coverage → Drafting (List ResultRange × Nat)
  | [], offset, _ => pure ([], offset)
  | r :: rest, offset, covered => do
    let own ← rangeAt node range computed r offset
    let known := r.low.isConstant && r.high.isConstant
    if known && covered.covers own.low own.high then
      Build.warn "Range overlaps with existing ranges so it'll never be reached" r.low.pos
      rangesFrom node range computed rest (offset + 10) covered
    else
      let covered := if known then covered.insert own.low own.high else covered
      let (ranges, offset) ← rangesFrom node range computed rest (offset + 10) covered
      pure (own :: ranges, offset)

def failedRef : Expr := .groupRef ⟨"CB_FAILED", none⟩ [] false none none

/-- What a result without a value stands for. A switch that only returns what it computes needs
nothing; one with ranges needs a further node. -/
def computedResult (s : Switch) : Drafting Expr := do
  let results := s.body.ranges.map (·.result) ++ s.body.default.toList
  if results.any (·.value.isNone) && !s.body.ranges.isEmpty then
    let name := s.name.text ++ "@return"
    let (actions, i) ← Chain.returning compile (Expr.var 0x1C) s.feature name .self
    Drafting.emit actions
    pure (.groupRef ⟨name, none⟩ [] false (some i) none)
  else pure (.int 0)

/-- The ranges of the node of a switch, from an offset on, and the offset behind them. A node
without ranges would return what it computes. -/
def nodeRanges (node : Nat) (s : Switch) (computed : Expr) (offset : Nat) :
    Drafting (List ResultRange × Nat) := do
  let (ranges, offset) ← rangesFrom node s.varRange computed s.body.ranges offset []
  let returnsComputed := (s.body.default.map (·.value.isNone)).getD false
  if s.body.ranges.isEmpty && !returnsComputed then
    let (result, _) ← Chain.result compile node s.varRange (offset + 10) (some failedRef) computed
    pure ([{ low := 1, high := 0, result, note := "Bogus range to avoid nvar == 0" }], offset + 10)
  else pure (ranges, offset)

/-- Where a switch leads to for all values outside its ranges. -/
def defaultValue (s : Switch) : Option Expr :=
  match s.body.default with
  | some c => c.value
  | none => some failedRef

def defaultNote (s : Switch) (note : String) : String :=
  match s.body.default with
  | none => "No default specified -> fail callback"
  | some { value := none, .. } => "Return computed value"
  | some _ => "default: " ++ note

def draft (id : Nat) (s : Switch) (params : List (Nat × String)) : Drafting Nat := do
  let scope := (Variable.Scope.ofRange? s.feature s.varRange).getD Variable.Scope.towns
  let d ← Chain.ofExpr s.feature s.varRange (← s.expr.reduceIn scope)
  Drafting.emit d.before
  Drafting.patch d.nodePatches
  let node ← Chain.newNode d s.name.text (some s.pos) { params }
  let computed ← computedResult s
  let (ranges, offset) ← nodeRanges node s computed (4 + d.size + 1)
  if 255 < ranges.length then Build.fail "Too many ranges." s.pos
  let (default, note) ← Chain.result compile node s.varRange offset s.defaultValue computed
  Build.setBody node (.chain
    { varRange := s.varRange, params, chain := d.chain, ranges, default
      defaultNote := s.defaultNote note })
  Build.setNode id s.feature node
  pure node

def actions (id : Nat) (s : Switch) : Build (List Action) := do
  modify fun st => { st with resultNodes := 0 }
  Assign.saveParams
  let sets ← SpriteSet.showingAll id
  let names := s.params.map Expr.text
  let cells ← Build.cellsOf id s.feature
  let (node, d) ← (draft id s (cells.zip names)).run {}
  Assign.restoreParams
  pure (sets ++ d.actions ++ Action.patching d.patches ++ [.node node])

end Switch

end NewGrf

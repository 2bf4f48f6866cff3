import NewGrf.Block.References
import NewGrf.Graph.Build
import NewGrf.Script.Register

namespace NewGrf

/-- The table of the parameters of a block. Each time a name is found it is a load of its own. -/
def NameTable.ofParams (params : List (Nat × String)) : NameTable := fun name _ => do
  match params.find? (·.2 == name) with
  | some (cell, name) => pure (some (.loadArg cell (← Build.newLoad) name none))
  | none => pure none

def paramNames (title : String) (params : List Expr) : Build (List String) :=
  params.foldlM (fun names e => do
    match e with
    | .ident name pos =>
      if names.contains name then
        Build.fail ("Duplicate parameter name '" ++ name ++ "' encountered.") pos
      pure (names ++ [name])
    | e => Build.fail (title ++ " parameter names must be identifiers.") e.pos) []

namespace SwitchRange

def isDefault (r : SwitchRange) : Bool :=
  match r.low with
  | .ident "default" _ => r.single
  | _ => false

end SwitchRange

namespace Switch

def reduceChoice (scope : Variable.Scope) (tables : Scope) (c : Choice) : Build Choice := do
  pure { c with value := ← c.value.mapM fun e => e.reduceIn scope tables }

/-- The ranges of a body in their order; the default is taken out. -/
def prepareRanges (scope : Variable.Scope) (tables : Scope) :
    List SwitchRange → Option Choice → Build (List SwitchRange × Option Choice)
  | [], default => pure ([], default)
  | r :: rest, default => do
    if r.isDefault then
      if default.isSome then
        Build.fail "Switch-block has more than one default, which is impossible." r.result.pos
      prepareRanges scope tables rest (some r.result)
    else
      let low ← r.low.reduce Scope.general
      let high ← r.high.reduce Scope.general
      let result ← reduceChoice scope tables r.result
      let (ranges, default) ← prepareRanges scope tables rest default
      pure ({ r with low, high, result } :: ranges, default)

def sameValue : Option Expr → Option Expr → Bool
  | some a, some b => a.same b
  | none, none => true
  | _, _ => false

/-- Reduces all parts of a body. Ranges that all lead to the default are left out. -/
def prepareBody (scope : Variable.Scope) (tables : Scope) (body : SwitchBody) :
    Build SwitchBody := do
  let (ranges, default) ← prepareRanges scope tables body.ranges body.default
  match default with
  | none => pure { ranges, default }
  | some d =>
    let d ← reduceChoice scope tables d
    if !ranges.isEmpty && ranges.all fun r => sameValue d.value r.result.value then
      Build.warn "Switch-Block ranges are the same as default, optimising." d.pos .optimisation
      pure { ranges := [], default := some d }
    else pure { ranges, default := some d }

def prepare (s : Switch) : Build Nat := do
  let names ← paramNames "switch" s.params
  match Variable.Scope.ofRange? s.feature s.varRange with
  | none => Build.fail "Requested scope not available for this feature." s.pos
  | some scope =>
    let id ← Block.new
      { content := .switchBlock s, name := some s.name, pos := s.pos, numParams := names.length
        features := [s.feature] }
    let params ← Build.newParams id s.feature names
    let tables : Scope := [NameTable.ofParams params]
    let expr ← s.expr.reduceIn scope tables
    let body ← prepareBody scope tables s.body
    let s := { s with expr, body }
    Build.modifyBlock id fun b => { b with content := .switchBlock s }
    Block.addReferences id (expr :: Block.results (.switchBlock s))
    Block.register id s.name s.pos
    pure id

end Switch

namespace RandomSwitch

def varRange (s : RandomSwitch) : VarRange := if s.kind.text == "PARENT" then .parent else .self

def prepareChoice (scope : Variable.Scope) (c : RandomChoice) : Build RandomChoice := do
  let (p, pos) ← c.probability.reduceConstant Scope.general
  if p ≤ 0 then Build.fail "Random probability must be higher than 0" pos
  let value ← c.result.value.mapM fun e => e.reduceIn scope
  pure { probability := .num p pos, result := { c.result with value } }

def prepareOther (c : Choice) : Build Choice := do
  if c.isReturn then
    Build.fail "Expected a random_switch identifier after (in)dependent, not a return." c.pos
  let value ← c.value.mapM fun e => do
    let e ← e.reduce Scope.general
    match e with
    | .groupRef name [] _ _ pos =>
      match (← Build.block? (← Build.resolve name)).content with
      | .randomSwitch _ => pure e
      | _ =>
        Build.fail ("Value of (in)dependent '" ++ name.text
          ++ "' should refer to a random_switch.") pos
    | e => Build.fail "Value for (in)dependent should be an identifier" e.pos
  pure { c with value }

def prepare (s : RandomSwitch) : Build Nat := do
  let scope := (Variable.Scope.ofRange? s.feature s.varRange).getD Variable.Scope.towns
  let choices ← s.choices.mapM (prepareChoice scope)
  let dependent ← s.dependent.mapM prepareOther
  let independent ← s.independent.mapM prepareOther
  let (t, pos) ← s.triggers.reduceConstant Scope.general
  unless 0 ≤ t && t ≤ 255 do
    Build.fail ("random_switch parameter 4 'triggers' out of range 0..255, encountered "
      ++ toString t) pos
  let s := { s with choices, dependent, independent, triggers := .num t pos }
  let id ← Block.new
    { content := .randomSwitch s, name := some s.name, pos := s.pos, features := [s.feature] }
  Block.addReferences id (Block.results (.randomSwitch s))
  Block.register id s.name s.pos
  pure id

end RandomSwitch

namespace ProduceOld

def prepare (p : ProduceOld) : Build Nat := do
  Build.warn ("Consider using the new produce() syntax for '" ++ p.name.text ++ "'") p.name.pos
    .deprecation
  let params ← p.params.mapM fun e => e.reduceIn Variable.Scope.industries
  let id ← Block.new
    { content := .produceOld { p with params }, name := some p.name, pos := p.pos
      features := [0x0A] }
  Block.addReferences id params
  Block.register id p.name p.pos
  pure id

end ProduceOld

namespace Produce

def prepare (p : Produce) : Build Nat := do
  let reduceAll (as : List (Ident × SettingValue)) : Build (List (Ident × Expr)) :=
    as.mapM fun (name, v) => do
      match v.expr? with
      | some e => pure (name, ← e.reduceIn Variable.Scope.industries)
      | none => Build.fail "Expected an amount" name.pos
  let subtract ← reduceAll p.subtract
  let add ← reduceAll p.add
  let again ← p.again.reduceIn Variable.Scope.industries
  let id ← Block.new
    { content := .produce
        { p with
          subtract := subtract.map fun (name, e) => (name, .expr e)
          add := add.map fun (name, e) => (name, .expr e)
          again }
      name := some p.name, pos := p.pos, features := [0x0A] }
  Block.addReferences id ((subtract ++ add).map (·.2))
  Block.register id p.name p.pos
  pure id

end Produce

namespace SpriteGroup

def prepareView (v : SpriteView) : Build SpriteView := do
  let sets ← v.sets.mapM fun e => e.reduce Scope.general
  for e in sets do
    match e with
    | .groupRef name args _ _ pos =>
      unless (← Build.block? (← Build.resolve name)).isSpriteset do
        Build.fail "Expected a sprite set reference" pos
      unless args.isEmpty do
        Build.fail "Spritesets referenced from a spritegroup may not have parameters." pos
    | e => Build.fail "Expected a sprite set reference" e.pos
  pure { v with sets }

def prepare (g : SpriteGroup) : Build Nat := do
  let views ← g.views.mapM prepareView
  let id ← Block.new
    { content := .spritegroup { g with views }, name := some g.name, pos := g.pos }
  Block.register id g.name g.pos
  pure id

end SpriteGroup

namespace SpriteLayout

def prepare (l : SpriteLayout) : Build Nat := do
  let names ← paramNames "spritelayout" (l.params.map fun i => .ident i.text i.pos)
  let id ← Block.new
    { content := .spritelayout l, name := some l.name, pos := l.pos, numParams := names.length }
  Block.register id l.name l.pos
  pure id

end SpriteLayout

namespace Graphics

def computedText : String :=
  "Returning the computed value is not possible in a graphics-block, as there is no computed value."

def prepare (g : Graphics) : Build Nat := do
  let feature := (← get).item.feature
  let scope := (Variable.Scope.ofRange? feature .self).getD Variable.Scope.towns
  let defs ← g.defs.mapM fun d => do
    match d.result.value with
    | none => Build.fail computedText d.result.pos
    | some e => do
      pure { d with result := { d.result with value := some (← e.reduceIn scope) } }
  let default ← g.default.mapM fun c => do
    match c.value with
    | none => Build.fail computedText g.pos
    | some e => do pure { c with value := some (← e.reduceIn scope) }
  let id ← Block.new
    { content := .graphics { g with defs, default }, name := none, pos := g.pos
      features := [feature] }
  Block.addReferences id (defs.filterMap (·.result.value) ++ (default.bind (·.value)).toList)
  pure id

end Graphics

end NewGrf

import NewGrf.Switch.Random

namespace NewGrf.Production

def amount (e : Expr) : Chain.Adding RegisterRef := do
  match e with
  | .storage .loadTemp _ (.num n _) _ _ => pure (.fixed n)
  | e =>
    unless (← get).steps.isEmpty do Chain.pushOp .last
    Chain.pushAll Chain.compile (← e.reduceIn Variable.Scope.industries)
    pure (.cell (← Chain.keep))

/-- The node of a production, behind one that fills its registers if there is something to fill. -/
def finish (id : Nat) (name : Ident) (pos : Position) (before : List Action)
    (p : Production) (chain : Chain.Draft) : Build (List Action) := do
  let node ← Build.newNode
    { feature := 0x0A, name := name.text, pos := some pos, body := .production p }
  if chain.steps.isEmpty then
    Build.setNode id 0x0A node
    return before ++ [.node node]
  let (more, i) ← RandomSwitch.leadingTo chain (name.text ++ "@registers") (some pos) node false
  Build.setNode id 0x0A i
  pure (before ++ [.node node] ++ more)

def ofAmounts (id : Nat) (p : ProduceOld) : Build (List Action) := do
  Assign.saveParams
  let result ←
    if p.params.all Expr.inAssignment then do
      let fields ← p.params.zipIdx.mapM fun (e, i) =>
        Assign.field e (4 + 2 * i) (if i < 5 then 2 else 1)
      let values := fields.map (·.1)
      let before := fields.flatMap fun (_, before, _) => before
      let patches := fields.flatMap fun (_, _, patches) => patches
      finish id p.name p.pos (before ++ Action.patching patches)
        (.amounts (values.take 5) ((values[5]?).getD 0)) { feature := 0x0A }
    else do
      let (refs, chain) ← (p.params.mapM amount).run { feature := 0x0A, range := .self }
      finish id p.name p.pos [] (.registers (refs.take 5) ((refs[5]?).getD (.fixed 0))) chain
  Assign.restoreParams
  pure result

def ofCargos (id : Nat) (p : Produce) : Build (List Action) := do
  Assign.saveParams
  let cargo (name : Ident) (v : SettingValue) : Chain.Adding (Int × RegisterRef) := do
    match (← getThe Session).names.cargos.get? name.text with
    | none =>
      Build.fail ("Cargo label " ++ name.text ++ " not found in your cargo table") p.pos
    | some n => do pure (n, ← amount (v.expr?.getD (.int 0)))
  let build : Chain.Adding Production := do
    let taken ← p.subtract.mapM fun (name, v) => cargo name v
    let made ← p.add.mapM fun (name, v) => cargo name v
    pure (.cargos taken made (← amount p.again))
  let (production, chain) ← build.run { feature := 0x0A, range := .self }
  let result ← finish id p.name p.pos [] production chain
  Assign.restoreParams
  pure result

end NewGrf.Production

import NewGrf.Action.Texts
import NewGrf.Expr.Reduce
import NewGrf.Feature
import NewGrf.Graph.Build

namespace NewGrf.Chain

structure Draft where
  feature : Int
  range : VarRange := .self
  /-- The steps, the last one first. -/
  steps : List Step := []
  before : List Action := []
  patches : List Patch := []
  calls : List Nat := []
  storing : Bool := false
  deriving Inhabited

namespace Draft

def size (d : Draft) : Nat := Chain.size d.steps

def chain (d : Draft) : Chain := d.steps.reverse

def nodePatches (d : Draft) : List Patch := d.patches.map fun p => { p with offset := p.offset + 4 }

end Draft

abbrev Adding := StateT Draft Build

abbrev Compile := Expr → Adding Unit

def push (s : Step) : Adding Unit := modify fun d => { d with steps := s :: d.steps }

def pushOp (o : Operator) : Adding Unit := push (.op o)

def pushTerm (t : Term) : Adding Unit := push (.term t)

def pushConstant (value : Int) (note : String := "") : Adding Unit := push (.constant value note)

def pop : Adding Unit := modify fun d => { d with steps := d.steps.drop 1 }

def emit (actions : List Action) : Adding Unit :=
  modify fun d => { d with before := d.before ++ actions }

def scope : Adding Variable.Scope := do
  let d ← get
  pure ((Variable.Scope.ofRange? d.feature d.range).getD Variable.Scope.towns)

def keep (note : String := "") : Adding Nat := do
  let cell ← Build.newCell
  pushOp .storeTemp
  pushTerm (.store cell note)
  pure cell

def loadOf (cell : Nat) : Adding Expr := do pure (.loadTemp cell (← Build.newLoad) none)

def viaParam (e : Expr) : Adding Int := do
  let (n, before) ← Assign.intoParam Assign.compile e
  emit before
  pure n

/-- A number in a term, which is patched if it is not known. The offset is counted from the start of
the term. -/
def numberAt (e : Expr) (offset : Nat) : Adding Int := do
  match e with
  | .num v _ => pure v
  | e =>
    let param ← viaParam e
    modify fun d => { d with
      patches := d.patches ++ [{ param, size := 4, offset := d.size + offset }] }
    pure 0

def pushParam (param : Int) (note : String) : Adding Unit := do
  modify fun d => { d with patches := d.patches ++ [{ param, size := 4, offset := d.size + 2 }] }
  pushConstant 0 note

/-- Keeps what has been computed so far, if there is something, and the operator that waits for its
right operand. -/
def setAside : Adding (Option (Nat × Operator)) := do
  match (← get).steps with
  | .op o :: _ => do
    pop
    let cell ← keep
    pushOp .last
    pure (some (cell, o))
  | _ => pure none

def takeBack : Option (Nat × Operator) → Adding Unit
  | some (cell, o) => do
    pushTerm (.load cell (← Build.newLoad))
    pushOp o
  | none => pure ()

def storeAll (compile : Compile) : List (Int × Expr) → Adding Unit
  | [] => pure ()
  | (register, e) :: rest => do
    compile e
    pushOp .storeTemp
    pushConstant register
    pushOp .last
    storeAll compile rest

/-- Values that the game expects in registers are stored right before the variable is read. What has
been computed so far is kept meanwhile. -/
def storeExtra (compile : Compile) (extra : List (Int × Expr)) : Adding Unit := do
  if extra.isEmpty then return
  let kept ← setAside
  storeAll compile extra
  takeBack kept

def pushAccess (compile : Compile) (a : Access Expr) (pos : Option Position) : Adding Unit := do
  let var ← match a.num with
    | .num v _ => pure v
    | _ => Build.fail "Variable number must be a constant number" pos
  let argument : Option Int ← match a.param with
    | none => pure none
    | some (.num v _) => pure (some v)
    | some _ => Build.fail "Variable parameter must be a constant number" pos
  storeExtra compile a.extra
  let offset := if argument.isSome then 3 else 2
  let mask ← numberAt a.mask offset
  let plus ← a.add.mapM fun e => numberAt e (offset + 4)
  let divisor ← a.div.mapM fun e => numberAt e (offset + 8)
  let rest ← a.mod.mapM fun e => numberAt e (offset + 8)
  pushTerm (.read
    { var, shift := ← a.shift.currentShift, mask, param := argument, add := plus, div := divisor
      mod := rest })

/-- Operators that a chain does not have, in terms of those that it has. A comparison gives 0, 1 or
2 for less, equal and greater. -/
def expand (op : Operator) (a b : Expr) (pos : Option Position) : Expr :=
  let compared : Expr := .op .compare a b
  let bit : Expr := .opInt .and (.op .shiftRightU a b) 1
  match op with
  | .lt => .opInt .xor (.opInt .min compared 1) 1
  | .gt => .opInt .max (.opInt .sub compared 1) 0
  | .le => .opInt .min (.opInt .xor compared 2) 1
  | .ge => .opInt .min compared 1
  | .eq => .opInt .and compared 1
  | .ne => .opInt .xor (.opInt .and compared 1) 1
  | .hasBit => bit
  | .notHasBit => .opInt .xor bit 1
  | op => .binary op a b pos

def isTerm : Expr → Bool
  | .num .. | .access .. | .loadTemp .. | .loadArg .. | .param (.num ..) _
  | .storage .loadTemp .. => true
  | _ => false

def rightOperand (compile : Compile) (op : Operator) (e : Expr) : Adding Expr := do
  if isTerm e || op == .last then pure e
  else if e.inAssignment then
    let n ← viaParam e
    pure (.param (.int n) none)
  else
    compile e
    let cell ← keep
    pushOp .last
    loadOf cell

def pushBinary (compile : Compile) (op : Operator) (a b : Expr) (pos : Option Position) :
    Adding Unit := do
  if op.switchCode?.isNone then Build.check (Expr.switchFault? (.binary op a b pos))
  if op == .storeTemp then modify fun d => { d with storing := true }
  let b ← rightOperand compile op b
  compile a
  pushOp op
  compile b
  if op == .storeTemp then modify fun d => { d with storing := false }

def pushAll (compile : Compile) (e : Expr) : Adding Unit := do
  match e with
  | .array [] pos => Build.fail "An array of expressions cannot be empty" pos
  | .array es _ =>
    for e in es do
      compile e
      pushOp .last
    pop
  | e => compile e

/-- Stores the arguments of a call. If one of them calls something itself, it might overwrite those
before it, so all are computed first. -/
def passArguments (compile : Compile) (cells : List Nat) (args : List Expr) : Adding Unit := do
  let nested := !(Expr.referencesIn args).isEmpty
  let mut kept : List (Nat × Nat) := []
  for (arg, i) in args.zipIdx do
    let target := cells[i]?.getD 0
    if i > 0 then pushOp .last
    if nested then
      let cell ← Build.newCell
      pushAll compile (← arg.reduceIn (← scope))
      pushOp .storeTemp
      pushTerm (.store cell "")
      kept := kept ++ [(cell, target)]
    else
      pushAll compile (← arg.reduceIn (← scope))
      pushOp .storeTemp
      pushTerm (.pass target)
  for (cell, target) in kept do
    pushOp .last
    pushTerm (.load cell (← Build.newLoad))
    pushOp .storeTemp
    pushTerm (.pass target)

def pushCall (compile : Compile) (name : Ident) (args : List Expr) (called : Bool)
    (group : Option Nat) (pos : Option Position) : Adding Unit := do
  let ref : Expr := .groupRef name args called group pos
  let feature := (← get).feature
  let cells ← match group with
    | some _ => pure []
    | none => do
      let id ← Build.resolve name
      match (← Build.block? id).content with
      | .switchBlock _ | .randomSwitch _ => pure ()
      | _ => Build.fail ("Block with name '" ++ name.text ++ "' is not a valid procedure") pos
      unless called do
        Build.fail ("Unexpected identifier encountered: '" ++ name.text ++ "'") pos
      Build.cellsOf id feature
  passArguments compile cells args
  unless args.isEmpty do pushOp .last
  let node ← Build.nodeOf name group feature
  pushTerm (.call node ref.text)
  modify fun d => { d with calls := d.calls ++ [node] }

def run (feature : Int) (range : VarRange) (m : Adding Unit) : Build Draft := do
  let ((), d) ← m.run { feature, range }
  pure d

def newNode (d : Draft) (name : String) (pos : Option Position) (node : ChainNode) : Build Nat := do
  let i ← Build.newNode
    { feature := d.feature, name, pos
      body := .chain { node with varRange := d.range, chain := d.chain } }
  d.calls.forM fun target => Build.refer i target true
  pure i

def returning (compile : Compile) (e : Expr) (feature : Int) (name : String) (range : VarRange) :
    Build (List Action × Nat) := do
  let d ← run feature range (pushAll compile e)
  let i ← newNode d name e.pos { defaultNote := "Return computed value" }
  pure (d.before ++ Action.patching d.nodePatches ++ [.node i], i)

def usesLayouts (feature : Int) : Bool := [0x07, 0x09, 0x0F, 0x11, 0x14].contains feature

def nextResultName (title : String) : Build String := do
  pure ("@" ++ title ++ "_action_" ++ toString (← get).resultNodes)

def countResult : Build Unit := modify fun s => { s with resultNodes := s.resultNodes + 1 }

def simpleSets (feature set : Int) : NodeBody :=
  .sets (if feature != 0x04 then [set] else []) (if feature ≤ 0x04 then [set] else [])

def emptyNode (feature : Int) (pos : Option Position) : Drafting Nat := do
  if feature == 0x0A then
    Build.newNode { feature, name := "@CB_FAILED_PROD", pos
                    body := .production (.amounts [0, 0, 0, 0, 0] 0) }
  else if usesLayouts feature then
    Build.newNode { feature, name := "@CB_FAILED_LAYOUT" ++ hexText 2 feature, pos
                    body := .layout Layout.empty [] [] }
  else
    unless (← getThe Session).collections.any (·.feature == feature) do
      Drafting.emit [.spriteSets feature 0 1 0]
    Build.newNode { feature, name := "@CB_FAILED_REAL" ++ hexText 2 feature, pos
                    body := simpleSets feature 0 }

/-- The node for a callback that fails: it has no result, except that something has to be shown when
graphics are asked for. There is one for each feature. -/
def failing (feature : Int) (parent : Nat) (pos : Option Position) : Drafting (Nat × String) := do
  let name := "@CB_FAILED" ++ hexText 2 feature
  let i ← match (← getThe Session).failedNodes.lookup feature with
    | some i => pure i
    | none =>
      let shown ← emptyNode feature pos
      Drafting.emit [.node shown]
      let i ← Build.newNode
        { feature, name, pos
          body := .chain
            { chain := [.term (.read { var := 0x0C, mask := 0xFFFF })]
              ranges := [{ low := 0, high := 0, result := .number 0
                           note := "graphics callback -> return 0" }]
              default := .node shown
              defaultNote := "Non-graphics callback, return graphics result" } }
      Build.refer i shown
      Drafting.emit [.node i]
      modifyThe Session fun s => { s with failedNodes := s.failedNodes ++ [(feature, i)] }
      pure i
  Build.refer parent i
  pure (i, name)

/-- The block that a reference names. A layout has to fit the feature. -/
def referred? (feature : Int) (name : Ident) (group : Option Nat) (pos : Option Position) :
    Build (Option Nat) := do
  match group with
  | some _ => pure none
  | none =>
    let id ← Build.resolve name
    match (← Build.block? id).content with
    | .spritelayout _ =>
      if usesLayouts feature then pure (some id)
      else
        Build.fail ("SpriteLayout '" ++ name.text ++ "' is not a valid return value for feature '"
          ++ Feature.name feature ++ "'") pos
    | _ => pure (some id)

def storeArguments (compile : Compile) (cells : List Nat) (args : List Expr) : Adding Unit := do
  for (arg, i) in args.zipIdx do
    if i > 0 then pushOp .last
    pushAll compile (← arg.reduceIn (← scope))
    pushOp .storeTemp
    pushTerm (.pass (cells[i]?.getD 0))

def passingNode (compile : Compile) (feature : Int) (range : VarRange) (name : Ident)
    (cells : List Nat) (args : List Expr) (pos : Option Position) : Drafting (Nat × String) := do
  let d ← run feature range (storeArguments compile cells args)
  Drafting.emit (d.before ++ Action.patching d.nodePatches)
  let own ← nextResultName "return"
  countResult
  let shown ← Build.nodeOf name none feature
  let i ← Build.newNode
    { feature, name := own, pos
      body := .chain
        { varRange := range, chain := d.chain
          ranges := [{ low := 0, high := 0, result := .node shown, note := name.text }]
          default := .node shown, defaultNote := name.text } }
  -- As calls, so that the registers of the target are not those that are passed.
  Build.refer i shown true
  Build.refer i shown true
  Drafting.emit [.node i]
  pure (i, own)

def blockResult (compile : Compile) (parent : Nat) (range : VarRange) (name : Ident)
    (args : List Expr) (group : Option Nat) (pos : Option Position) : Drafting (Nat × String) := do
  let feature := (← Build.node parent).feature
  if name.text == "CB_FAILED" then failing feature parent pos
  else
    let target ← referred? feature name group pos
    if args.isEmpty then
      let i ← Build.nodeOf name group feature
      Build.refer parent i
      pure (i, name.text)
    else
      let cells ← match target with
        | some id => Build.cellsOf id feature
        | none => pure []
      let (i, own) ← passingNode compile feature range name cells args pos
      Build.refer parent i
      pure (i, own)

private def resultLimits (v : Int) : String :=
  "Callback results are limited to -16384..16383 (when the result is a signed number)"
    ++ " or 0..32767 (unsigned), encountered " ++ toString v ++ "."

/-- A result of a node, and a note on it. Nothing for the value stands for the value of `computed`.
A value that is only known later is patched into `copies` words from the offset on. -/
def result (compile : Compile) (parent : Nat) (range : VarRange) (offset : Nat)
    (value : Option Expr) (computed : Expr := .int 0) (copies : Nat := 1) :
    Drafting (Result × String) := do
  match value with
  | none =>
    match computed with
    | .groupRef name args _ group pos =>
      let (i, _) ← blockResult compile parent range name args group pos
      pure (.node i, "return;")
    | e => pure (.number (e.constant?.getD 0), "return;")
  | some (.groupRef name args _ group pos) =>
    let (i, own) ← blockResult compile parent range name args group pos
    pure (.node i, own ++ ";")
  | some (.num v pos) =>
    unless -16384 ≤ v && v ≤ 32767 do Build.fail (resultLimits v) pos
    pure (.number v, "return " ++ toString v ++ ";")
  | some e@(.string ..) =>
    let (n, actions) ← Texts.define 0 (some 0xD0) e
    Drafting.emit actions
    pure (.number (n - 0xD000 + 0x8000), "return " ++ e.text ++ ";")
  | some e =>
    if e.inAssignment then
      let (param, before) ← Assign.intoParam Assign.compile (← (Expr.opInt .or e 0x8000).reduce)
      Drafting.emit before
      Drafting.patch ((List.range copies).map fun i =>
        { param, size := 2, offset := offset + 2 * i })
      pure (.number 0, "return param[" ++ toString param ++ "];")
    else
      let own ← nextResultName "return"
      let feature := (← Build.node parent).feature
      let (actions, i) ← returning compile e feature own range
      countResult
      Build.refer parent i
      Drafting.emit actions
      pure (.node i, "return " ++ (← Build.current e).text)

def choiceNode (compile : Compile) (guard yes no : Expr) (feature : Int) (range : VarRange) :
    Build (List Action × Expr) := do
  let name ← nextResultName "ternary"
  countResult
  let scope := (Variable.Scope.ofRange? feature range).getD Variable.Scope.towns
  let d ← run feature range (do pushAll compile (← guard.reduceIn scope))
  let i ← newNode d name guard.pos {}
  let offset := 4 + d.size + 1
  let draft : Drafting Unit := do
    Drafting.emit d.before
    Drafting.patch d.nodePatches
    let (second, secondNote) ← result compile i range offset (some no)
    let (first, firstNote) ← result compile i range (offset + 2) (some yes)
    Build.setBody i (.chain
      { varRange := range, chain := d.chain
        ranges := [{ low := 0, high := 0, result := second, note := secondNote }]
        default := first, defaultNote := firstNote })
  let ((), draft) ← draft.run {}
  pure (draft.actions ++ Action.patching draft.patches ++ [.node i],
    .groupRef ⟨name, none⟩ [] false (some i) none)

/-- A choice. Both values are computed, and the one that is not wanted is multiplied by zero. -/
def expandTernary (compile : Compile) (guard yes no : Expr) : Adding Expr := do
  let readOnly ← do
    if ← yes.isReadOnly then no.isReadOnly else pure false
  if !readOnly then
    let d ← get
    let (actions, e) ← choiceNode compile guard yes no d.feature d.range
    emit actions
    return e
  compile (← (Expr.boolean guard none).reduce)
  match yes, no with
  | .num a _, .num b _ =>
    pushOp .mul
    pushConstant (a - b) "expr1 - expr2"
    pushOp .add
    pure no
  | yes, no =>
    let chosen ← keep "guard"
    pushOp .xor
    pushConstant 1
    let other ← keep "!guard"
    pushOp .last
    let first := Expr.op .mul yes (← loadOf chosen)
    pure (.op .add first (.op .mul no (← loadOf other)))

def expandAbs (compile : Compile) (e : Expr) : Adding Expr := do
  compile (← e.reduce)
  let cell ← keep "input"
  pushOp .compare
  pushConstant 0
  pushOp .sub
  pushConstant 1
  pushOp .mul
  loadOf cell

/-- Storage as a variable or an operator. That of a town has an owner, whose id goes to a
register. -/
def expandStorage (kind : Storage) (value : Option Expr) (register : Expr) (owner : Option Expr)
    (pos : Option Position) : Adding Expr := do
  let scope ← scope
  if kind.persistent && !scope.persistentStorage then
    Build.fail ("Persistent storage is not supported for feature '" ++ scope.name ++ "'") pos
  let plain : Expr :=
    if kind.stores then
      .binary (if kind.persistent then .storePerm else .storeTemp) (value.getD (.int 0)) register
        pos
    else Expr.var (if kind.persistent then 0x7C else 0x7D) 0 0xFFFFFFFF (some register) pos
  if kind.persistent && scope.name == Variable.Scope.towns.name then
    let id ← match owner with
      | none => pure 0xFFFFFFFF
      | some o => Build.ofExcept o.label
    pure (.op .last (.opInt .storeTemp (.int id) 0x100 pos) plain)
  else
    if owner.isSome then
      Build.fail "Specifying a grfid is only possible for town persistent storage." pos
    pure plain

def lowered (compile : Compile) (e : Expr) : Adding Expr := do
  let e := match e with
    | .special _ kind pos => kind.reading pos
    | e => e
  match e with
  | .binary op a b pos => (expand op a b pos).reduce
  | .boolean e _ => pure (.opInt .minU e 1)
  | .bitNot e _ => pure (.opInt .xor e 0xFFFFFFFF)
  | .ternary g a b _ => if e.inAssignment then pure e else expandTernary compile g a b
  | .abs a _ => if e.inAssignment then pure e else expandAbs compile a
  | .storage kind value register owner pos => expandStorage kind value register owner pos
  | e => pure e

def place (compile : Compile) (e : Expr) : Adding Unit := do
  match e with
  | .num v _ => pushConstant v
  | .param (.num n _) _ => pushParam n e.text
  | .access a pos => pushAccess compile a pos
  | e =>
    if e.inAssignment then
      let n ← viaParam e
      compile (.param (.int n) none)
    else
      match e with
      | .binary op a b pos => pushBinary compile op a b pos
      | .not a _ =>
        match Expr.opInt .xor a 1 with
        | .binary op a b pos => pushBinary compile op a b pos
        | _ => pure ()
      | .string .. =>
        let range := if (← get).storing then 0xDC else 0xD0
        let (n, actions) ← Texts.define 0 (some range) e
        emit actions
        pushConstant n
      | .loadTemp cell number _ => pushTerm (.load cell number)
      | .loadArg cell number name _ => pushTerm (.argument cell number name)
      | .groupRef name args called group pos => pushCall compile name args called group pos
      | e => Build.check e.switchFault?

def step (compile : Compile) (e : Expr) : Adding Unit := do place compile (← lowered compile e)

/-- Adds an expression. Every part is smaller or has fewer operators that a chain does not have, so
a bound on the depth is never reached. -/
def compileWith : Nat → Compile
  | 0 => fun e => Build.stop { cause := .tooDeep, pos := e.pos }
  | fuel + 1 => step (compileWith fuel)

def compile : Compile := compileWith 10000

def ofExpr (feature : Int) (range : VarRange) (e : Expr) : Build Draft :=
  run feature range (pushAll compile e)

end NewGrf.Chain

import NewGrf.Action.Basic
import NewGrf.Expr.Reduce

namespace NewGrf.Assign

def popParam (pos : Option Position) : Build Int := do
  let (n, params) ← Build.ofExcept ((← get).params.pop pos)
  modify fun s => { s with params }
  pure n

def saveParams : Build Unit := modify fun s => { s with params := s.params.save }

def restoreParams : Build Unit := modify fun s => { s with params := s.params.restore }

def popLabel (pos : Option Position) : Build Int := do
  let (n, labels) ← Build.ofExcept ((← get).labels.pop pos)
  modify fun s => { s with labels }
  pure n

def popUnusedLabel (pos : Option Position) : Build Int := do
  let (n, labels) ← Build.ofExcept ((← get).labels.popUnused pos)
  modify fun s => { s with labels }
  pure n

abbrev Compile := (target value : Expr) → Build (List Action)

def paramNumber? : Expr → Option Int
  | .param (.num n _) _ => some n
  | _ => none

def paramOf (n : Int) : Expr := .param (.int n) none

def intoParam (compile : Compile) (e : Expr) : Build (Int × List Action) := do
  let n ← popParam e.pos
  pure (n, ← compile (paramOf n) e)

def intoParamUnlessOne (compile : Compile) (e : Expr) : Build (Int × List Action) :=
  match paramNumber? e with
  | some n => pure (n, [])
  | none => intoParam compile e

def subexpression (compile : Compile) (e : Expr) : Build (Expr × List Action) :=
  if e.isConstant || (paramNumber? e).isSome then pure (e, [])
  else do
    let (n, actions) ← intoParam compile e
    pure (paramOf n, actions)

structure Condition where
  param : Option Int
  before : List Action := []
  code : Nat
  mnemonic : String
  value : Int
  size : Nat

def Condition.skip (c : Condition) (kind : Nat) (param target : Int) : Skip :=
  { kind, param, size := c.size, code := c.code, mnemonic := some c.mnemonic, value := c.value
    target }

def whenZero (param : Option Int) (before : List Action := []) : Condition :=
  { param, before, code := 2, mnemonic := "\\7=", value := 0, size := 4 }

/-- The comparison that skips when the operator does not hold. -/
def skipCode? : Operator → Option (Nat × String)
  | .ne => some (2, "\\7=")
  | .eq => some (3, "\\7!")
  | .ge => some (4, "\\7<")
  | .le => some (5, "\\7>")
  | _ => none

/-- When to skip what is done under a guard; without a guard it is always done. -/
def condition (compile : Compile) (guard : Option Expr) : Build Condition := do
  let general (e : Expr) : Build Condition := do
    let inner := match e with
      | .boolean inner _ => inner
      | e => e
    match inner with
    | .not inner _ =>
      let (n, before) ← intoParam compile inner
      pure { param := some n, before, code := 3, mnemonic := "\\7!", value := 0, size := 4 }
    | inner =>
      let (n, before) ← intoParam compile inner
      pure (whenZero (some n) before)
  match guard with
  | none => pure (whenZero none)
  | some e@(.binary op a b _) =>
    if op == .hasBit || op == .notHasBit then
      let (n, before) ← intoParamUnlessOne compile a
      let code := if op == .hasBit then 1 else 0
      let mnemonic := if op == .hasBit then "\\70" else "\\71"
      match b.constant? with
      | some bit => pure { param := some n, before, code, mnemonic, value := bit, size := 1 }
      | none =>
        let (n, more) ← intoParamUnlessOne compile b
        pure { param := some n, before := before ++ more ++ [.patch [⟨n, 1, 4⟩]], code, mnemonic
               value := 0, size := 1 }
    else
      match skipCode? op, b.constant? with
      | some (code, mnemonic), some value =>
        let (n, before) ← intoParamUnlessOne compile a
        pure { param := some n, before, code, mnemonic, value, size := 4 }
      | _, _ => general e
  | some e => general e

/-- What may be done with a run of actions: leave it, skip it by kind 7, or skip it by kind 9. -/
structure SkipWays where
  leave : Bool := true
  by7 : Bool := true
  by9 : Bool := true
  deriving Repr, DecidableEq, Inhabited

def SkipWays.of (a : Action) : SkipWays := ⟨!a.skipMatters, a.skippable7, a.skippable9⟩

def SkipWays.and (a b : SkipWays) : SkipWays :=
  ⟨a.leave && b.leave, a.by7 && b.by7, a.by9 && b.by9⟩

def SkipWays.any (a : SkipWays) : Bool := a.leave || a.by7 || a.by9

/-- A run of actions behind one skip, unless it can be left. A long run needs a label. -/
def skipRun (c : Condition) (param : Int) (pos : Option Position) (ways : SkipWays)
    (run : List Action) : Build (List Action) := do
  if ways.leave then pure run
  else
    let kind := if ways.by7 then 7 else 9
    if run.length < 0x10 then pure (.skip (c.skip kind param run.length) :: run)
    else
      let label ← popLabel pos
      pure (.skip (c.skip kind param label) :: run ++ [.label label])

/-- Cuts actions into the longest runs that one skip can pass over, and puts a skip before each. -/
def skipRuns (c : Condition) (param : Int) (pos : Option Position) :
    List Action → SkipWays → List Action → Build (List Action)
  | [], ways, run => skipRun c param pos ways run.reverse
  | a :: rest, ways, run => do
    let own := SkipWays.of a
    let both := ways.and own
    if both.any && !(!run.isEmpty && ways.leave && !both.leave) then
      skipRuns c param pos rest both (a :: run)
    else
      let done ← skipRun c param pos ways run.reverse
      pure (done ++ (← skipRuns c param pos rest own [a]))

def behind (c : Condition) (param : Int) (pos : Option Position) (actions : List Action) :
    Build (List Action) :=
  if actions.isEmpty then pure [] else skipRuns c param pos actions {} []

/-- Counts an open conditional or loop. Labels are only taken back when the outermost one ends, so
that an inner one never gets the label of one around it. -/
def enterSkips : Build Unit := modify fun s =>
  let depth := s.skipDepth + 1
  { s with skipDepth := depth, labels := if depth == 1 then s.labels.save else s.labels }

def leaveSkips : Build Unit := modify fun s =>
  { s with skipDepth := s.skipDepth - 1
           labels := if s.skipDepth == 1 then s.labels.restore else s.labels }

abbrev CompiledBranch := Option Expr × Build (List Action)

/-- The branches that can be reached: none with a guard that never holds, and none behind one that
always holds. -/
def reachable : List CompiledBranch → List CompiledBranch
  | [] => []
  | (some (.num v _), body) :: rest => if v == 0 then reachable rest else [(none, body)]
  | branch :: rest => branch :: reachable rest

def setTo (param value : Int) : Action :=
  .assign { target := param, left := 0xFF, op := .assign, right := 0
            data := some (Number.signed32 value) }

/-- Compiles the guards and the bodies of all branches. Every body but the last first says that no
further branch is to be taken. -/
def branchParts (compile : Compile) (done : Int) :
    List CompiledBranch → Build (List (Condition × List Action))
  | [] => pure []
  | (guard, body) :: rest => do
    let c ← condition compile guard
    let actions ← body
    let actions := if rest.isEmpty then actions else setTo done 0 :: actions
    pure ((c, actions) :: (← branchParts compile done rest))

/-- Puts the bodies behind their skips. A branch but the first is also skipped when one before it
has been taken. -/
def branchSkips (pos : Option Position) (done : Int) :
    Bool → List (Condition × List Action) → Build (List Action)
  | _, [] => pure []
  | isFirst, (c, actions) :: rest => do
    let before ← if isFirst then pure c.before
      else do
        let before ← behind (whenZero none) done pos c.before
        pure (before ++ match c.param with
          | some n => [.assign { target := n, left := n, op := .and, right := done }]
          | none => [])
    let body ← behind c (c.param.getD done) pos actions
    pure (before ++ body ++ (← branchSkips pos done false rest))

/-- Compiles a conditional. A conditional of which one branch is always taken is left open, so that
the labels inside it stay in use. -/
def conditional (compile : Compile) (branches : List CompiledBranch) (pos : Option Position) :
    Build (List Action) := do
  enterSkips
  match reachable branches with
  | [(none, body)] => body
  | branches =>
    saveParams
    let (done, first) ←
      if 1 < branches.length then intoParam compile (.int 0xFFFFFFFF) else pure (0, [])
    let parts ← branchParts compile done branches
    let actions ← branchSkips pos done true parts
    leaveSkips
    restoreParams
    pure (first ++ actions)

def loop (compile : Compile) (guard : Expr) (body : Build (List Action)) (pos : Option Position) :
    Build (List Action) := do
  enterSkips
  saveParams
  let label ← popUnusedLabel pos
  let c ← condition compile (some guard)
  let actions ← body
  let actions ← behind c (c.param.getD 0) pos (actions ++ [.skip (Skip.always 9 label)])
  leaveSkips
  restoreParams
  pure (.label label :: c.before ++ actions)

def choose (compile : Compile) (target otherwise : Expr) (guard value : Expr) :
    Build (List Action) := do
  let first ← compile target otherwise
  pure (first ++ (← conditional compile [(some guard, compile target value)] none))

def targetNumber (compile : Compile) : Expr → Build (Int × List Action × List Patch)
  | .num n _ => pure (n, [], [])
  | e => do
    let (n, actions) ← intoParamUnlessOne compile e
    pure (0, actions, [⟨n, 1, 1⟩])

def withPatches (actions : List Action) (patches : List Patch) (last : Action) : List Action :=
  actions ++ (if patches.isEmpty then [] else [.patch patches]) ++ [last]

def numberOf : Expr → Expr
  | .param n _ => n
  | e => e

def spriteFeature : Int := 0x08

def reserveSprites (compile : Compile) (target : Expr) (count : Int) : Build (List Action) := do
  saveParams
  let (t, actions, patches) ← targetNumber compile (numberOf target)
  restoreParams
  pure (withPatches actions patches (.reserve { target := t, feature := spriteFeature, count }))

/-- An operation that a step can do on two operands, and what comes before it. -/
structure Prepared where
  op : Operator
  left : Expr
  right : Expr
  /-- Where the right operand stands if it is the count of a shift to the right. -/
  count : Option Position := none
  before : List Action := []

/-- Turns an operation into one that a step can do. The target may be used for values in
between. -/
def prepare (compile : Compile) (target : Expr) (op : Operator) (left right : Expr) :
    Build Prepared := do
  let difference (a b : Expr) : Build (List Action) := compile target (.op .sub a b)
  -- A shift to the left by a negative count is one to the right, here of the sign.
  let less (a b : Expr) : Build Prepared := do
    pure { op := .shiftLeftU, left := target, right := .int (-31), before := ← difference a b }
  let atMost (a b : Expr) : Build Prepared := do
    let before ← difference a b
    let p ← less target (.int 1)
    pure { p with before := before ++ p.before }
  let shift (op : Operator) : Build Prepared := do
    match right with
    | .num n p =>
      Build.turnCount p
      pure { op, left, right := .num (-n) p, count := p }
    | right => pure { op, left, right := .op .sub (.int 0) right }
  match op with
  | .ge => atMost right left
  | .le => atMost left right
  | .gt => less right left
  | .lt => less left right
  -- Anything but zero divided by itself is one, and zero divided by zero is zero.
  | .ne => pure { op := .div, left := target, right := target, before := ← difference left right }
  | .eq =>
    let before ← difference left right
    let clamp ← compile target (.op .div target target)
    pure { op := .sub, left := .int 1, right := target, before := before ++ clamp }
  | .shiftRight => shift .shiftLeft
  | .shiftRightU => shift .shiftLeftU
  | .xor =>
    let (a, first) ← subexpression compile left
    let (b, second) ← subexpression compile right
    let (either, third) ← intoParam compile (.op .or a b)
    let (both, fourth) ← intoParam compile (.op .and a b)
    pure { op := .sub, left := paramOf either, right := paramOf both
           before := first ++ second ++ third ++ fourth }
  | op => pure { op, left, right }

def operand (compile : Compile) (dataFree : Bool) (e : Expr) :
    Build (Int × Option Int × List Action) := do
  match e.constant?, dataFree with
  | some v, true => pure (0xFF, some v, [])
  | _, _ =>
    let (n, actions) ← intoParamUnlessOne compile e
    pure (n, none, actions)

def readNumber (compile : Compile) : Expr → Build (Int × List Action × List Patch)
  | .num n _ => pure (n, [], [])
  | e => do
    let (n, actions) ← intoParam compile e
    pure (0, actions, [⟨n, 1, 3⟩])

def plain (compile : Compile) (target value : Expr) : Build (List Action) := do
  saveParams
  let (t, actions, patches) ← targetNumber compile (numberOf target)
  let result ← match value with
    | .num v _ =>
      pure (withPatches actions patches
        (.assign { target := t, left := 0xFF, op := .assign, right := 0, data := some v }))
    | .param n _ =>
      let (left, more, morePatches) ← readNumber compile n
      pure (withPatches (actions ++ more) (patches ++ morePatches)
        (.assign { target := t, left, op := .assign, right := 0 }))
    | .otherParam owner n _ =>
      let (left, more, morePatches) ← readNumber compile n
      let owner ← Build.ofExcept owner.label
      pure (withPatches (actions ++ more) (patches ++ morePatches)
        (.assign { target := t, left, op := .assign, right := 0xFE
                   data := some (Number.signed32 owner) }))
    | .patchVar n _ =>
      pure (withPatches actions patches
        (.assign { target := t, left := n, op := .assign, right := 0xFE, data := some 0xFFFF }))
    | .binary op a b _ =>
      let p ← prepare compile target op a b
      let (left, data, first) ← operand compile true p.left
      let (right, moreData, second) ← operand compile data.isNone p.right
      pure (withPatches (actions ++ p.before ++ first ++ second) patches
        (.assign { target := t, left, op := p.op, right, data := data <|> moreData
                   count := p.count }))
    | e => Build.fail "Invalid expression in argument assignment" e.pos
  restoreParams
  pure result

/-- Compiles one assignment, with the assignments that it is made of compiled by `compile`. -/
def step (compile : Compile) (target value : Expr) : Build (List Action) := do
  Build.check value.assignFault?
  let (target, value) ← match target with
    | .special _ kind pos => do
      let (t, v) ← Build.ofExcept (kind.writing value pos)
      pure (← t.reduce, ← v.reduce)
    | .ident name pos =>
      match (← get).names.params.get? name with
      | some n => pure (.param (.int n) pos, value)
      -- A named parameter that is never read has no number.
      | none => return []
    | t => pure (t, value)
  let value ← match value with
    | .special _ kind pos => (kind.reading pos).reduce
    | v => pure v
  match value with
  | .ternary guard yes no _ => choose compile target no guard yes
  | .abs e _ => choose compile target e (.opInt .lt e 0) (.op .sub (.int 0) e)
  | .check c _ =>
    let first ← compile target (.int c.onFalse)
    let value := match c.mask with
      | some mask => Number.bitAnd c.value mask + mask * 0x100000000
      | none => c.value
    let skip : Skip := { kind := 9, param := c.var, size := c.size, code := c.code
                         mnemonic := c.mnemonic, value, target := 1 }
    pure (first ++ [.skip skip] ++ (← compile target (.int c.onTrue)))
  | .reserve _ count _ => reserveSprites compile target count
  | .boolean e _ => choose compile target (.int 0) (.opInt .ne e 0) (.int 1)
  | .not e _ => plain compile target (.op .sub (.int 1) e)
  | .bitNot e _ => plain compile target (.op .sub (.int 0xFFFFFFFF) e)
  | .binary .hasBit .. | .binary .notHasBit .. => choose compile target (.int 0) value (.int 1)
  | .binary .min a b _ | .binary .max a b _ =>
    saveParams
    let (a, first) ← subexpression compile a
    let (b, second) ← subexpression compile b
    let op : Operator := match value with
      | .binary .min .. => .lt
      | _ => .gt
    let third ← compile target (.ternary (.binary op a b none) a b none)
    restoreParams
    pure (first ++ second ++ third)
  | value => plain compile target value

/-- Compiles an assignment. Each inner assignment has a smaller value or fewer operators that a
step cannot do, so a bound on the depth is never reached. -/
def compileWith : Nat → Compile
  | 0 => fun _ value => Build.stop { cause := .tooDeep, pos := value.pos }
  | fuel + 1 => step (compileWith fuel)

def compile : Compile := compileWith 10000

/-- A value in an action: the value to write, what comes before the action, and the patches that put
in a value which is not constant. -/
def field (e : Expr) (offset size : Nat) : Build (Int × List Action × List Patch) := do
  match e, paramNumber? e with
  | .num v _, _ => pure (v, [], [])
  | _, some param => pure (0, [], [{ param, size, offset }])
  | e, none =>
    let (param, before) ← intoParam compile e
    pure (0, before, [{ param, size, offset }])

end NewGrf.Assign

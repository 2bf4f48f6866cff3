import NewGrf.Block.Outcome
import NewGrf.Expr.Builtin
import NewGrf.Expr.Support

namespace NewGrf

namespace Expr

def needInteger (e : Expr) (text : String) (pos : Option Position) : Build Unit :=
  match e.type with
  | .integer => pure ()
  | .group => Build.stop e.uncalledFault
  | _ => Build.fail text pos

def isNumber (e : Expr) : Bool :=
  match e.type with
  | .integer | .float => true
  | _ => false

def isFixed : Expr → Bool
  | num .. | float .. => true
  | _ => false

def isZero : Expr → Bool
  | num v _ => v == 0
  | float v _ => v == 0
  | _ => false

def demandIntegers (a b : Expr) (pos : Option Position) : Build Unit :=
  if a.type == .integer && b.type == .integer then pure ()
  else if a.type == .group then Build.stop a.uncalledFault
  else if b.type == .group then Build.stop b.uncalledFault
  else Build.fail "Binary operator requires both operands to be integers." pos

def demandNumbers (a b : Expr) (pos : Option Position) : Build Unit :=
  if !(isNumber a && isNumber b) then
    if a.type == .group then Build.stop a.uncalledFault
    else if b.type == .group then Build.stop b.uncalledFault
    else Build.fail "Binary operator requires both operands to be integers or floats." pos
  else if (a.type == .float && !isFixed b) || (b.type == .float && !isFixed a) then
    Build.fail
      "Floating-point operations are only possible when both operands are compile-time constants."
      pos
  else pure ()

def checkOperands (op : Operator) (a b : Expr) (pos : Option Position) : Build Unit := do
  match op.demand with
  | .anything => pure ()
  | .integers => demandIntegers a b pos
  | .numbers => demandNumbers a b pos
  | .addable =>
    if (a.type == .literal) != (b.type == .literal) then
      Build.fail "Concatenating a string literal and a number is not possible." pos
    if a.type != .literal then demandNumbers a b pos
  | .divisible =>
    demandNumbers a b pos
    if isZero b then
      Build.fail "Division and modulo require the right hand side to be nonzero." pos
  | .rotatable =>
    demandIntegers a b pos
    match a, b with
    -- Two constants are rotated at once, by no more places than a word has.
    | num .., num n _ => if n < 0 || n > 32 then Build.crash
    | _, _ => pure ()
  | .nonNegativeRight =>
    demandIntegers a b pos
    match b with
    | num v p =>
      if v < 0 || (← Build.isTurned p) then
        Build.fail "Right hand side of the operator may not be a negative number." pos
    | _ => pure ()

/-- The value on two constant words. A count of places beyond the word gives the same as 64. -/
def foldWords? (op : Operator) (a b : Int) : Option Int :=
  match op with
  | .shiftLeft | .shiftRight | .shiftRightU | .hasBit | .notHasBit =>
    op.fold? a (if 64 < b then 64 else b)
  | op => op.fold? a b

def foldConstants? (op : Operator) (a b : Expr) (pos : Option Position) : Option Expr :=
  match a, b with
  | num x _, num y _ => (foldWords? op x y).map fun v => .int v (pos.map Position.loose)
  | literal s p, literal t _ => some (.literal (s ++ t) p)
  | num x _, float y _ => (op.foldFloat? (Number.floatOfInt x) y).map fun v => .float v pos
  | float x _, num y _ => (op.foldFloat? x (Number.floatOfInt y)).map fun v => .float v pos
  | float x _, float y _ => (op.foldFloat? x y).map fun v => .float v pos
  | _, _ => none

/-- How simple an operand is; of two that may be swapped the simpler one goes to the right. -/
def priority (e : Expr) : Int :=
  match e with
  | access .. => 0
  | num .. => 2
  | e => if e.inAssignment then 1 else -1

/-- Swaps the operands where that changes nothing and makes the right one simpler. -/
def orderOperands (op : Operator) (a b : Expr) : Operator × Expr × Expr :=
  if (op.commutative || op == .lt || op == .gt) && b.priority < a.priority then
    (match op with
      | .lt => .gt
      | .gt => .lt
      | op => op, b, a)
  else (op, a, b)

def isNeutral (op : Operator) (right : Int) : Bool :=
  match op with
  | .and => right == -1
  | .div | .divU | .mul => right == 1
  | .add | .sub | .shiftLeftU | .shiftLeft | .shiftRightU | .shiftRight | .or | .xor
  | .rotateRight => right == 0
  | _ => false

def currentShift (e : Expr) : Build Int := do
  match e with
  | num v p => pure (((← get).shiftAt p).getD v)
  | _ => pure 0

/-- The shift of a variable with a position of its own, by which all that reads the variable sees
when it changes. -/
def ownShift (e : Expr) : Build Expr := do
  match e with
  | num _ p => pure (.num (← currentShift e) (some (← Build.ownAt (p.getD default))))
  | e => pure e

/-- An operation whose count, if it is a shift to the right, has a position of its own. -/
def ownCount (e : Expr) : Build Expr := do
  match e with
  | binary op a (num v (some p)) pos =>
    if op == .shiftRight || op == .shiftRightU then
      pure (.binary op a (.num v (some (← Build.ownAt p))) pos)
    else pure e
  | e => pure e

/-- Attaches an operation to a variable access, if the access has room for it. An access takes
bits, adds, then divides or takes a remainder, in this order. -/
def attach? (again : Scope → Expr → Build Expr) (scope : Scope) (op : Operator) (a : Access Expr)
    (right : Expr) (pos : Option Position) : Build (Option (Access Expr)) := do
  let unscaled := a.div.isNone && a.mod.isNone
  let plus := a.add.getD (.int 0)
  let shift ← currentShift a.shift
  match op with
  | .and =>
    if a.add.isNone then
      pure (some { a with mask := ← again scope (.op .and a.mask right pos) })
    else pure none
  | .add =>
    if unscaled then
      match a.add with
      | none => pure (some { a with add := some right })
      | some old => pure (some { a with add := some (← again scope (.op .add old right pos)) })
    else pure none
  | .sub =>
    if unscaled then
      pure (some { a with add := some (← again scope (.op .sub plus right pos)) })
    else pure none
  | .div => pure (if unscaled then some { a with add := some plus, div := some right } else none)
  | .mod => pure (if unscaled then some { a with add := some plus, mod := some right } else none)
  | .shiftLeft =>
    match right with
    | num count _ =>
      if a.add.isNone ∧ count < shift then
        let mask ← again [] (.op .shiftLeft a.mask right)
        pure (some { a with shift := ← moved (shift - count), mask })
      else pure none
    | _ => pure none
  | .shiftRight | .shiftRightU =>
    let unsignedMask := a.mask.constant?.any (0 ≤ ·)
    match right with
    | num count _ =>
      if (op == .shiftRightU || unsignedMask) ∧ 0 ≤ count ∧ 0 ≤ shift ∧ shift + count < 32 then
        let mask ← again [] (.op .shiftRightU a.mask right)
        pure (some { a with shift := ← moved (shift + count), mask })
      else pure none
    | _ => pure none
  | _ => pure none
where
  moved (shift : Int) : Build Expr := do
    Build.setShift a.shift.pos shift
    pure (.num shift a.shift.pos)

/-- Joins the constants of two additions or subtractions in a row. -/
def mergeSum? (op : Operator) (a b : Expr) (pos : Option Position) : Option Expr :=
  match a, b with
  | binary inner x (num c _) _, num d _ =>
    let d := if op == .add then d else -d
    match op, inner with
    | .add, .add | .sub, .add => some (.opInt .add x (c + d) pos)
    | .add, .sub | .sub, .sub => some (.opInt .sub x (c - d) pos)
    | _, _ => none
  | _, _ => none

def reduceBinary (again : Scope → Expr → Build Expr) (scope : Scope) (op : Operator) (a b : Expr)
    (pos : Option Position) : Build Expr := do
  checkOperands op a b pos
  match foldConstants? op a b pos with
  | some e => pure e
  | none =>
    let (op, a, b) := orderOperands op a b
    match b with
    | num v _ => if isNeutral op v then pure a else rest op a b
    | _ => rest op a b
where
  rest (op : Operator) (a b : Expr) : Build Expr := do
    match a with
    | access x p =>
      if b.inAssignment then
        match ← attach? again scope op x b pos with
        | some x => pure (.access x p)
        | none => joined op a b
      else joined op a b
    | _ => joined op a b
  joined (op : Operator) (a b : Expr) : Build Expr :=
    match mergeSum? op a b pos with
    | some e => again [] e
    | none =>
      match op, a, b with
      | .or, boolean x _, boolean y _ => again scope (.boolean (.op .or x y pos) none)
      | _, _, _ => ownCount (.op op a b pos)

def opposite? : Operator → Option Operator
  | .eq => some .ne | .ne => some .eq | .le => some .gt | .ge => some .lt | .lt => some .ge
  | .gt => some .le | .hasBit => some .notHasBit | .notHasBit => some .hasBit
  | _ => none

def bitsOf (again : Scope → Expr → Build Expr) (scope : Scope) : List Expr → Expr → Build Expr
  | [], sum => pure sum
  | e :: es, sum => do
    let v ← again scope e
    needInteger v "Parameters of 'bitmask' must be integers." e.pos
    match v with
    | num n _ =>
      if 32 ≤ n then Build.fail "Parameters of 'bitmask' cannot be greater than 31" e.pos
    | _ => pure ()
    bitsOf again scope es (.op .or sum (.op .shiftLeft (.int 1) v))

def reduceOption (again : Scope → Expr → Build Expr) (scope : Scope) (e : Option Expr) :
    Build (Option Expr) :=
  match e with
  | some e => do pure (some (← again scope e))
  | none => pure none

def reduceAccess (again : Scope → Expr → Build Expr) (scope : Scope) (a : Access Expr)
    (pos : Option Position) : Build Expr := do
  let number ← again scope a.num
  let shift ← again scope a.shift
  let mask ← again scope a.mask
  let argument ← reduceOption again scope a.param
  let isInt (e : Expr) : Bool := e.type == .integer
  if !(isInt number && isInt shift && isInt mask && argument.all isInt) then
    Build.fail "All parts of a variable access must be integers." pos
  let plus ← reduceOption again scope a.add
  let divisor ← reduceOption again scope a.div
  let rest ← reduceOption again scope a.mod
  let extra ← a.extra.mapM fun (r, e) => do pure (r, ← again scope e)
  pure (.access
    { num := number, shift := ← ownShift shift, mask, param := argument, add := plus
      div := divisor, mod := rest, extra }
    pos)

def reduceStorage (again : Scope → Expr → Build Expr) (scope : Scope) (kind : Storage)
    (value : Option Expr) (register : Expr) (owner : Option Expr) (pos : Option Position) :
    Build Expr := do
  let value ← reduceOption again scope value
  if let some v := value then needInteger v "Value to store must be an integer." v.pos
  let register ← again scope register
  needInteger register "Register to access must be an integer." register.pos
  match register with
  | num n _ =>
    if kind.limit < n then
      Build.fail ("Maximum register for " ++ kind.name ++ " is " ++ toString kind.limit) pos
    if kind.reserves n then
      Build.fail
        "Temporary registers from 128 to 255 are reserved for NML's internal calculations." pos
  | _ => pure ()
  let owner ← reduceOption again scope owner
  if let some o := owner then discard (Build.ofExcept o.label)
  pure (.storage kind value register owner pos)

/-- The slot of a sprite set of a station, which gets one when it is named first. -/
def stationSlot (set : StationSet) (pos : Option Position) : Build Int := do
  let s := (← get).stationSlots
  match s.slots.lookup set with
  | some slot => pure slot
  | none =>
    if s.next == 8 then Build.fail "A station can't use more than 6 different sprite sets" pos
    let next := if s.next == 1 then 3 else s.next + 1
    modify fun st => { st with stationSlots := { slots := s.slots ++ [(set, s.next)], next } }
    pure s.next

def callStationSprites (custom : Bool) (name : String) (args : List Expr) (pos : Option Position) :
    Build Expr := do
  if !custom then return .stationSprites none args none pos
  match args with
  | [] => Build.fail ("'" ++ name ++ "' expects 1 or 2 parameters") pos
  | .num v _ :: offset => do
    let slot ← stationSlot (.custom v) pos
    pure (.stationSprites none offset (some slot) pos)
  | _ => Build.fail ("First parameter for '" ++ name ++ "' must be a constant") pos

def callNamed (again : Scope → Expr → Build Expr) (name : Ident) (args : List Expr)
    (target : Expr) (pos : Option Position) : Build Expr :=
  match target with
  | groupRef n _ _ g p => pure (.groupRef n args true g p)
  | function n (.reading info) _ => info.call (again []) n.text args n.pos
  | function n (.stationSprites custom) _ => callStationSprites custom n.text args n.pos
  | _ => Build.fail ("'" ++ name.text ++ "' is defined, but it is not a function.") pos

/-- Reduces an expression. With `strict` an unknown name is a fault. Every step into an operand or
into a result uses up fuel. -/
def reduceWith : Nat → Bool → Scope → Expr → Build Expr
  | 0, _, _, e => Build.stop { cause := .tooDeep, pos := e.pos }
  | fuel + 1, strict, scope, e => do
    let again := reduceWith fuel true
    match e with
    | ident name pos =>
      match ← scope.find? name pos with
      | some (num v p) => pure (.num v (p.map Position.loose))
      | some found => again scope found
      | none =>
        if strict && !(← get).lenient then
          Build.fail ("Unrecognized identifier '" ++ name ++ "' encountered") pos
        else pure e
    | call name args pos =>
      modify fun s => { s with lenient := true }
      let args ← args.mapM (reduceWith fuel false scope)
      modify fun s => { s with lenient := false }
      match Builtin.find? name.text with
      | some f =>
        match ← again scope (← f again name.text args pos) with
        | num v p => pure (.num v (p.map Position.loose))
        | found => pure found
      | none =>
        match ← scope.find? name.text name.pos with
        | some target => callNamed again name args target pos
        | none =>
          if strict then
            Build.fail ("'" ++ name.text ++ "' is not defined as a function.") pos
          else pure (.call name args pos)
    | array vs pos => do pure (.array (← vs.mapM (reduceWith fuel strict scope)) pos)
    | binary op a b pos =>
      let a ← again scope a
      let b ← again scope b
      reduceBinary again scope op a b pos
    | ternary g a b pos =>
      let g ← again scope g
      let a ← again scope a
      let b ← again scope b
      match g with
      | num v _ => pure (if v ≠ 0 then a else b)
      | _ =>
        let text := "All parts of the ternary operator (?:) must be integers."
        -- a block that is not called is reported before any other operand that does not fit
        for x in [g, a, b] do
          if x.type == .group then Build.stop x.uncalledFault
        for x in [g, a, b] do
          needInteger x text pos
        pure (.ternary g a b pos)
    | bitNot x _ =>
      let x ← again scope x
      needInteger x "Not-operator (~) requires an integer argument." x.pos
      match x with
      | num v _ => pure (.int (Number.bitXor 0xFFFFFFFF v))
      | bitNot y _ => pure y
      | x => pure (.bitNot x none)
    | not x _ =>
      let x ← again scope x
      needInteger x "Not-operator (!) requires an integer argument." x.pos
      match x with
      | num v _ => pure (.int (if v == 0 then 1 else 0))
      | not y _ => again [] (.boolean y none)
      | binary op a b _ =>
        match opposite? op with
        | some op => pure (.op op a b)
        | none => pure (.not x none)
      | x => pure (.not x none)
    | boolean x _ =>
      let x ← again scope x
      needInteger x "Only integers can be converted to a boolean value." x.pos
      pure (if x.isBoolean then x else .boolean x none)
    | abs x pos =>
      let x ← again scope x
      needInteger x "abs() requires an integer argument." x.pos
      match x with
      | num v _ => pure (.int (if v < 0 then -v else v))
      | x => pure (.abs x pos)
    | bitmask vs pos => again [] (← bitsOf again scope vs (.int 0 pos))
    | param n pos =>
      let n ← again scope n
      if n.type != .integer then Build.fail "Parameter number must be an integer." n.pos
      pure (.param n pos)
    | otherParam owner n pos =>
      let owner ← again scope owner
      discard (Build.ofExcept owner.label)
      let n ← again scope n
      if n.type != .integer then Build.fail "Parameter number must be an integer." n.pos
      pure (.otherParam owner n pos)
    | access a pos => reduceAccess again scope a pos
    | groupRef name _ called _ _ =>
      if name.text == "CB_FAILED" || called then pure e
      else
        match ← Block.outcome? (← Build.resolve name) with
        | some found => pure found
        | none => pure e
    | storage kind value register owner pos =>
      reduceStorage again scope kind value register owner pos
    | string name args pos => do pure (.string name (← args.mapM (again scope)) pos)
    | function name _ _ =>
      Build.fail ("'" ++ name.text
        ++ "' is a function and should be called using the function call syntax.") name.pos
    | e => pure e

def reduceFuel : Nat := 100000

def reduce (e : Expr) (scope : Scope := []) : Build Expr := reduceWith reduceFuel true scope e

def reduceLeniently (e : Expr) (scope : Scope := []) : Build Expr :=
  reduceWith reduceFuel false scope e

def reduceConstant (e : Expr) (scope : Scope := []) : Build (Int × Option Position) := do
  match ← e.reduce scope with
  | num v p => pure (v, p)
  | _ => Build.stop { cause := .notConstant, pos := e.pos }

end Expr

namespace Variable

def plainTable (infos : List (String × Info)) : NameTable := fun name pos =>
  match infos.lookup name with
  | some i => do pure (some (← i.read (fun e => e.reduce) name pos))
  | none => pure none

def calledTable (infos : List (String × Info)) : NameTable := fun name pos =>
  pure ((infos.lookup name).map fun i => .function ⟨name, pos⟩ (.reading i) none)

namespace Scope

def names (s : Scope) (extra : NewGrf.Scope := []) : NewGrf.Scope :=
  extra ++ [plainTable global, plainTable s.plain, calledTable s.called] ++ NewGrf.Scope.general

def ofRange? (feature : Int) (range : VarRange) : Option Scope :=
  match ofFeature? feature, range with
  | some (own, _), .self => some own
  | some (_, parent), .parent => parent
  | none, _ => none

end Scope

end Variable

def Expr.reduceIn (e : Expr) (scope : Variable.Scope) (extra : Scope := []) : Build Expr :=
  e.reduce (scope.names extra)

end NewGrf

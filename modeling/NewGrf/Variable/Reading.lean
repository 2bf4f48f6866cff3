import NewGrf.Expr.Basic
import NewGrf.Name.Special
import NewGrf.Session
import NewGrf.Text.Escaped
import NewGrf.Variable.Table

namespace NewGrf

namespace Variable

/-- Reduces an expression without any names; it is handed in by the reduction itself. -/
abbrev Plain := Expr → Build Expr

def LabelTable.numbers (names : Names) : LabelTable → LabelNumbers
  | .cargo => names.cargos
  | .rail => names.rails
  | .road => names.roads
  | .tram => names.trams

def LabelTable.title : LabelTable → String
  | .cargo => "cargo"
  | .rail => "railtype"
  | .road => "roadtype"
  | .tram => "tramtype"

def labelNumber (table : LabelTable) (name : String) (args : List Expr) (pos : Option Position) :
    Build Expr := do
  let names := (← get).names
  match args with
  | [arg] =>
    let found : Option Int := match arg with
      | .literal s _ => (table.numbers names).get? s
      | _ => none
    match found with
    | some n => pure (.int n)
    | none =>
      Build.fail ("Parameter for " ++ name ++ "() must be a string literal that is also in your "
        ++ table.title ++ " table") pos
  | _ => Build.fail (name ++ "() must have 1 parameter") pos

abbrev Arguments := Expr × List (Int × Expr)

def countFault {α : Type} (name : String) (needs : String) (args : List Expr)
    (pos : Option Position) : Build α :=
  Build.fail (name ++ "() requires " ++ needs ++ ", encountered " ++ toString args.length) pos

def quotedName (name : String) : String := "'" ++ name ++ "'"

def ArgForm.arguments (form : ArgForm) (reduce : Plain) (name : String) (args : List Expr)
    (pos : Option Position) : Build Arguments := do
  match form with
  | .one =>
    match args with
    | [a] => pure (a, [])
    | _ => countFault (quotedName name) "one argument" args pos
  | .tileOffset low high =>
    match args with
    | [x, y] =>
      for a in args do
        if let .num v p := a then Build.checkRange v low high ("Argument of '" ++ name ++ "'") p
      let x := Expr.opInt .and x 0xF
      let y := Expr.opInt .shiftLeft (.opInt .and y 0xF) 4
      pure (← reduce (.op .add x y), [])
    | _ => countFault (quotedName name) "2 arguments" args pos
  | .signedByte =>
    match args with
    | [a] =>
      if let .num v _ := a then Build.checkRange v (-128) 127 ("parameter of " ++ name ++ "()") pos
      pure (← reduce (.opInt .and a 0xFF pos), [])
    | _ => countFault name "one argument" args pos
  | .label table => pure (← labelNumber table name args pos, [])
  | .platform middle =>
    match args with
    | [a] =>
      match a with
      | .num 0 _ => pure (.int (if middle then 0x46 else 0x40), [])
      | .num 1 _ => pure (.int (if middle then 0x47 else 0x41), [])
      | .num 2 _ =>
        if middle then
          Build.fail ("Invalid argument for '" ++ name
            ++ "'(), PLATFORM_SAME_DIRECTION is not supported here.") pos
        else pure (.int 0x49, [])
      | _ =>
        Build.fail ("Invalid argument for '" ++ name
          ++ "'(), must be one of PLATFORM_SAME_XXX.") pos
    | _ => countFault (quotedName name) "one argument" args pos
  | .cargoNearby =>
    match args with
    | [a] => pure (a, [(0x100, .int 0 pos)])
    | [a, x, y] =>
      let offset (title : String) (e : Expr) : Build Expr := do
        if let .num v _ := e then Build.checkRange v (-128) 127 (name ++ "-parameter " ++ title) pos
        reduce (.opInt .and e 0xFF pos)
      let x ← offset "1 'xoffset'" x
      let y ← offset "2 'yoffset'" y
      pure (a, [(0x100, ← reduce (.op .or (.opInt .mul y 256 pos) x))])
    | _ => countFault name "1 or 3 arguments" args pos
  | .nearestHouse =>
    match args with
    | [radius, criterion] =>
      if let .num v _ := radius then
        Build.checkRange v 1 63 (name ++ "()-parameter 1 'radius'") pos
      if let .num v _ := criterion then
        if v < 0 ∨ 2 < v then
          Build.fail ("Invalid value for " ++ name ++ "()-parameter 2 'criterion'") pos
      let radius := Expr.opInt .and radius 0x3F pos
      let criterion := Expr.opInt .mul (.opInt .and criterion 0x03 pos) 0x40
      pure (← reduce (.op .or criterion radius), [])
    | _ => countFault name "2 arguments" args pos
  | .counted =>
    match args with
    | [a] => pure (a, [(0x100, .int 0xFFFFFFFF)])
    | [a, owner] => pure (a, [(0x100, owner)])
    | _ => countFault (quotedName name) "between 1 and 2 argument(s)" args pos
  | .countedLayout =>
    match args with
    | [a, layout] =>
      pure (a, [(0x100, .int 0xFFFFFFFF), (0x101, ← reduce (.opInt .and layout 0xFF))])
    | [a, layout, owner] => pure (a, [(0x100, owner), (0x101, ← reduce (.opInt .and layout 0xFF))])
    | _ => countFault (quotedName name) "between 2 and 3 argument(s)" args pos
  | .countedTown =>
    match args with
    | [a] => pure (a, [(0x100, .int 0xFFFFFFFF), (0x101, .int 0x0100)])
    | [a, owner] => pure (a, [(0x100, owner), (0x101, .int 0x0100)])
    | _ => countFault (quotedName name) "between 1 and 2 argument(s)" args pos

/-- Reads the variable whose number stands in the place of the parameter. -/
def platformAccess : Expr → Expr
  | .access a p => .access { a with num := a.param.getD a.num, param := none } p
  | e => e

def Adjust.apply (adjust : Adjust) (reduce : Plain) (i : Info) (e : Expr) : Build Expr :=
  match adjust with
  | .asIs => pure e
  | .signExtend => pure (SpecialParam.signExtend e i.size)
  | .mulDiv mul div => pure (.opInt .div (.opInt .mul e mul) div)
  | .add n => pure (.opInt .add e n)
  | .equals n => pure (.opInt .eq e n)
  | .differs n => pure (.opInt .ne e n)
  | .atLeast n => pure (.opInt .ge e n)
  | .keepBits mask => reduce (.opInt .and e mask)
  | .negate => pure (.not e e.pos)
  | .platform => pure (platformAccess e)
  | .platformSigned => pure (SpecialParam.signExtend (platformAccess e) i.size)
  | .houseClass =>
    let north := Expr.var 0x7D 24 0xFF (some (.int 0xFF)) e.pos
    let counts := Expr.var 0x7B i.start i.mask (some (.int 0x61)) e.pos
    pure (.op .last north counts e.pos)

def Info.read (i : Info) (reduce : Plain) (name : String) (pos : Option Position) : Build Expr := do
  if let some new := i.replacedBy then
    Build.warn ("'" ++ name ++ "' is deprecated, consider using '" ++ new ++ "' instead") pos
      .deprecation
  i.adjust.apply reduce i (.var i.var i.start i.mask (i.param.map fun n => .int n) pos)

/-- Reads a variable with arguments. A parameter that is not a constant byte is computed first, and
the variable is read through variable 7B. -/
def Info.call (i : Info) (reduce : Plain) (name : String) (args : List Expr)
    (pos : Option Position) : Build Expr := do
  let (param, extra) ← i.form.arguments reduce name args pos
  let constant : Bool := match param with
    | .num v _ => 0 ≤ v && v ≤ 255
    | _ => false
  let access (num : Int) (argument : Expr) : Expr :=
    .access
      { num := .int num, shift := .int i.start, mask := .int i.mask, param := some argument, extra }
      pos
  let e : Expr :=
    if constant then access i.var param
    else .op .last param (access 0x7B (.int i.var)) pos
  i.adjust.apply reduce i e

end Variable

end NewGrf

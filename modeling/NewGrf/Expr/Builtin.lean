import NewGrf.Expr.Printer
import NewGrf.Name.Table
import NewGrf.Text.Format
import NewGrf.Variable.Reading

namespace NewGrf.Builtin

/-- Reduces an expression in a scope; it is handed in by the reduction itself. -/
abbrev Reduce := Scope → Expr → Build Expr

def constant (reduce : Reduce) (scope : Scope) (e : Expr) : Build Int := do
  match ← reduce scope e with
  | .num v _ => pure v
  | _ => Build.stop { cause := .notConstant, pos := e.pos }

/-- A function: how it was called, its arguments, and where. -/
abbrev Function := Reduce → String → List Expr → Option Position → Build Expr

def need {α : Type} (name what : String) (pos : Option Position) : Build α :=
  Build.fail (name ++ "() " ++ what) pos

def oneParameter {α : Type} (name : String) (pos : Option Position) : Build α :=
  need name "must have 1 parameter" pos

def checkArg (name : String) (low high : Int) (e : Expr) : Build Unit :=
  match e with
  | .num v p => Build.checkRange v low high ("Argument of '" ++ name ++ "'") p
  | _ => pure ()

def extreme (op : Operator) : Function := fun _ name args pos =>
  match args with
  | first :: second :: rest =>
    pure ((second :: rest).foldl (fun e a => .op op e a pos) first)
  | _ => need name "requires at least 2 arguments" pos

def leniently {α : Type} (step : Build α) : Build α := do
  modify fun s => { s with lenient := true }
  let a ← step
  modify fun s => { s with lenient := false }
  pure a

def monthLengths : List Int := [31, 28, 31, 30, 31, 30, 31, 31, 30, 31, 30, 31]

def monthLength (month : Int) : Int := monthLengths[(month - 1).toNat]?.getD 0

def daysBefore (month : Int) : Int := Number.intTotal (monthLengths.take (month - 1).toNat)

def leapYearsBefore (year : Int) : Int :=
  let y := year - 1
  (y.fdiv 4 + 1) - (y.fdiv 100 + 1) + (y.fdiv 400 + 1)

def isLeapYear (year : Int) : Bool :=
  year % 4 == 0 && (year % 100 != 0 || year % 400 == 0)

def dayNumber (year month day : Int) : Int :=
  year * 365 + leapYearsBefore year + daysBefore month + day - 1
    + (if 3 ≤ month && isLeapYear year then 1 else 0)

def yearStart (year : Expr) : Expr :=
  let days := Expr.op .add (.opInt .mul year 365) (.opInt .div year 4)
  .op .add (.op .sub days (.opInt .div year 100)) (.opInt .div year 400)

def date : Function := fun reduce name args pos => do
  match args with
  | [year, month, day] =>
    let y ← leniently (reduce Scope.general year)
    let known (e : Expr) : Build Int := do
      match ← reduce [] e with
      | .num v _ => pure v
      | _ =>
        Build.fail "Month and day parameters of date() should be compile-time constants" pos
    let m ← known month
    let d ← known day
    Build.checkRange m 1 12 "month" month.pos
    Build.checkRange d 1 (monthLength m) "day" day.pos
    match y with
    | .num v p =>
      Build.checkRange v 0 5000000 "year" p
      pure (.int (dayNumber v m d) pos)
    | y =>
      if m ≠ 1 ∨ d ≠ 1 then
        Build.fail ("when the year parameter of date() is not a compile time constant month and day"
          ++ " should be 1") pos
      pure (yearStart y)
  | _ => need name "requires exactly 3 arguments" pos

def dayOfYear : Function := fun reduce name args pos => do
  match args with
  | [month, day] =>
    match ← reduce [] month with
    | .num m p =>
      if m < 1 ∨ 12 < m then Build.fail "Month should be a value between 1 and 12." p
      match ← reduce [] day with
      | .num d q =>
        if d < 1 ∨ monthLength m < d then
          Build.fail ("Day should be value between 1 and " ++ toString (monthLength m) ++ ".") q
        pure (.int (daysBefore m + d) pos)
      | e => Build.fail "Day should be a compile-time constant." e.pos
    | e => Build.fail "Month should be a compile-time constant." e.pos
  | _ => need name "must have a month and a day parameter" pos

def storage (kind : Storage) : Function := fun _ name args pos =>
  let wrong (needs : String) : Build Expr :=
    Build.fail (name ++ " requires " ++ needs ++ " argument(s), encountered "
      ++ toString args.length) pos
  match kind.stores, kind.takesOwner, args with
  | true, _, [value, register] => pure (.storage kind (some value) register none pos)
  | true, _, _ => wrong "2"
  | false, _, [register] => pure (.storage kind none register none pos)
  | false, true, [register, owner] => pure (.storage kind none register (some owner) pos)
  | false, true, _ => wrong "1..2"
  | false, false, _ => wrong "1"

def operator (op : Operator) : Function := fun _ name args pos =>
  match args with
  | [a, b] => pure (.op op a b pos)
  | _ => need name "must have exactly two parameters" pos

def bitmask : Function := fun _ _ args pos => pure (.bitmask args pos)

def getBits : Function := fun _ name args pos =>
  match args with
  | [value, first, amount] =>
    let moved := Expr.op .shiftRightU value first pos
    let high := Expr.op .shiftLeft (.int 0xFFFFFFFF) amount pos
    pure (.op .and moved (.opInt .xor high 0xFFFFFFFF pos) pos)
  | _ => need name "must have exactly three parameters" pos

def openttdVersion : Function := fun reduce name args pos => do
  match args with
  | major :: minor :: rest =>
    let major ← constant reduce [] major
    let minor ← constant reduce [] minor
    if 12 ≤ major then
      if !rest.isEmpty then
        need name "must have at exactly 2 parameters for OpenTTD >= 12.0" pos
      pure (.int (Number.bitOr (Number.shiftLeft (16 + major) 24) (Number.shiftLeft minor 20)))
    else
      if 2 < rest.length then need name "must have at most 4 parameters" pos
      let revision ← match rest with
        | r :: _ => constant reduce [] r
        | [] => pure 0
      let build ← match rest with
        | [_, b] => constant reduce [] b
        | _ => pure 0x80000
      let high := Number.bitOr (Number.shiftLeft major 28) (Number.shiftLeft minor 24)
      pure (.int (Number.bitOr (Number.bitOr high (Number.shiftLeft revision 20)) build))
  | _ => need name "must have at least 2 parameters" pos

def labelAvailable (code : Nat) (mnemonic : Option String) : Function :=
    fun reduce name args pos => do
  match args with
  | [arg] =>
    let label ← reduce [] arg
    let value ← Build.ofExcept label.label
    pure (.check
      { code, mnemonic, var := 0, onTrue := 1, onFalse := 0, value
        text := name ++ "(" ++ label.text ++ ")" } arg.pos)
  | _ => need name "must have exactly 1 parameter" pos

def fileStatus (code : Nat) (mnemonic : String) (onTrue onFalse : Int) : Function :=
  fun reduce name args pos => do
    let check (file : Expr) (inner : String) (size : Nat) (mask : Option Int) : Build Expr := do
      let value ← Build.ofExcept file.label
      pure (.check
        { code, mnemonic := some mnemonic, var := 0x88, onTrue, onFalse, value
          text := name ++ "(" ++ inner ++ ")", size, mask } (args.head?.bind Expr.pos))
    match args with
    | [file] =>
      let file ← reduce [] file
      check file file.text 4 none
    | [file, mask] =>
      let file ← reduce [] file
      let mask ← Build.ofExcept (← reduce [] mask).label
      check file (file.text ++ ", " ++ toString mask) 8 (some mask)
    | _ => need name "must have 1 or 2 parameters" pos

def visualEffect (count : Nat) : Function := fun reduce name args pos => do
  if args.length ≠ count then need name ("must have " ++ toString count ++ " parameters") pos
  match args with
  | effect :: offset :: rest =>
    let effect ← constant reduce Scope.general effect
    let shifted := Expr.opInt .add offset 8
    let offset ← constant reduce [] shifted
    Build.checkRange offset 0 0x0F ("offset in function " ++ name) pos
    let powered ← match rest with
      | p :: _ => do
        let p ← constant reduce Scope.general p
        if p ≠ 0 ∧ p ≠ 0x80 then
          Build.fail ("3rd argument to visual_effect_and_powered (powered) must be"
            ++ " either ENABLE_WAGON_POWER or DISABLE_WAGON_POWER") pos
        pure p
      | [] => pure 0
    pure (.int (Number.bitOr (Number.bitOr effect offset) powered))
  | _ => need name "" pos

def createEffect : Function := fun reduce name args pos => do
  match args with
  | [sprite, x, y, z] =>
    let s ← constant reduce Scope.general sprite
    let l ← constant reduce [] x
    let t ← constant reduce [] y
    let h ← constant reduce [] z
    Build.checkRange s 0 255 ("effect_sprite in function " ++ name) sprite.pos
    Build.checkRange l (-128) 127 ("l_x_offset in function " ++ name) x.pos
    Build.checkRange t (-128) 127 ("t_y_offset in function " ++ name) y.pos
    Build.checkRange h (-128) 127 ("z_offset in function " ++ name) z.pos
    pure (.int (littleEndian [s, l % 256, t % 256, h % 256]))
  | _ => need name "must have 4 parameters" pos

def labelToNumber : Function := fun _ name args pos => do
  match args with
  | [arg] => pure (.int (← Build.ofExcept arg.label))
  | _ => oneParameter name pos

def typeNumber (table : Variable.LabelTable) : Function := fun _ name args pos =>
  Variable.labelNumber table name args pos

def reserveSprites : Function := fun reduce name args pos => do
  match args with
  | [arg] => pure (.reserve name (← constant reduce [] arg) pos)
  | _ => oneParameter name pos

def industryType : Function := fun reduce name args pos => do
  match args with
  | [type, id] =>
    let type ← constant reduce Scope.general type
    if type ≠ 0 ∧ type ≠ 1 then
      Build.fail "First argument of industry_type() must be IND_TYPE_OLD or IND_TYPE_NEW" pos
    let id ← constant reduce Scope.general id
    if id < 0 ∨ 127 < id then
      Build.fail "Second argument 'id' of industry_type() must be in range 0..127" pos
    pure (.int (type * 128 + id))
  | _ => need name "must have 2 parameters" pos

def cargo (accepts : Bool) : Function := fun _ name args pos => do
  let cargos := (← get).names.cargos
  match args with
  | [] => need name "must have 1 or more parameters" pos
  | first :: rest =>
    let found : Option (String × Int) := match first with
      | .literal s _ => (cargos.get? s).map fun n => (s, n)
      | _ => none
    match found with
    | some (label, n) => pure (.cargo accepts label n rest pos)
    | none =>
      Build.fail ("First argument of " ++ name
        ++ "() must be a string literal that is also in your cargo table") pos

def constantArg (reduce : Reduce) (name : String) (args : List Expr)
    (pos : Option Position) : Build (Sum Int Float × Option Position) := do
  match args with
  | [arg] =>
    match ← reduce [] arg with
    | .num v p => pure (.inl v, p)
    | .float v p => pure (.inr v, p)
    | _ => Build.fail ("Parameter for " ++ name ++ "() must be a constant") pos
  | _ => oneParameter name pos

def mathematical (f : Float → Float) : Function := fun reduce name args pos => do
  match ← constantArg reduce name args pos with
  | (.inl v, p) => pure (.float (f (Number.floatOfInt v)) p)
  | (.inr v, p) => pure (.float (f v) p)

def round : Function := fun reduce name args pos => do
  match ← constantArg reduce name args pos with
  | (.inl v, _) => pure (.int v pos)
  | (.inr v, _) => pure (.int (Number.roundHalfEven v) pos)

def truncate : Function := fun reduce name args pos => do
  match ← constantArg reduce name args pos with
  | (.inl v, p) => pure (.int v p)
  | (.inr v, p) => pure (.int (Number.truncate v) p)

def absolute : Function := fun reduce name args pos => do
  match args with
  | [arg] => reduce [] (.abs arg arg.pos)
  | _ => oneParameter name pos

def soundOffset : Nat := 73

def addSound (sound : Sound) (pos : Option Position) : Build Nat := do
  let sounds := (← get).sounds
  match sounds.findIdx? (·.1 == sound) with
  | some i => pure (i + soundOffset)
  | none =>
    modify fun s => { s with sounds := s.sounds ++ [(sound, pos)] }
    pure (sounds.length + soundOffset)

def volume (reduce : Reduce) (arg : Option Expr) (pos : Option Position) : Build Int := do
  let v ← match arg with
    | some e => constant reduce [] e
    | none => pure 100
  Build.checkRange v 0 100 "sound volume" pos
  pure v

def sound : Function := fun reduce name args pos => do
  match args with
  | [] | _ :: _ :: _ :: _ => need name "must have 1 or 2 parameters" pos
  | file :: rest =>
    match file with
    | .literal s _ =>
      let v ← volume reduce rest.head? pos
      pure (.int (← addSound (.file s v) pos) pos)
    | _ => Build.fail ("Parameter for " ++ name ++ "() must be a string literal") pos

def importSound : Function := fun reduce name args pos => do
  match args with
  | owner :: number :: rest =>
    if 1 < rest.length then need name "must have 2 or 3 parameters" pos
    let owner ← Build.ofExcept (← reduce [] owner).label
    let number ← constant reduce [] number
    let v ← volume reduce rest.head? pos
    pure (.int (← addSound (.imported owner number v) pos) pos)
  | _ => need name "must have 2 or 3 parameters" pos

def relativeCoord : Function := fun _ name args pos => do
  match args with
  | [x, y] =>
    checkArg name 0 255 x
    checkArg name 0 255 y
    pure (.op .or (.opInt .and x 0xFF) (.opInt .shiftLeft (.opInt .and y 0xFF) 8) pos)
  | _ => need name "must have x and y coordinates as parameters" pos

/-- Counts the raised corners of a slope: four copies of its five bits, one bit of each kept, and
the remainder by 15 adds them up. -/
def cornersRaised : Function := fun _ name args pos =>
  match args with
  | [slope] =>
    let copies := Expr.opInt .mul (.opInt .and slope 0x1F pos) 0x8421
    pure (.opInt .mod (.opInt .and copies 0x11111) 0xF)
  | _ => oneParameter name pos

def steepSlopes : List (Int × Int) := [(23, 16), (27, 17), (29, 15), (30, 18)]

def slopeOffset : Function := fun _ name args pos => do
  match args with
  | [slope] =>
    checkArg name 0 15 slope
    let flat := Expr.op .and (.opInt .le slope 14 pos) (.opInt .ge slope 0 pos)
    pure (steepSlopes.foldl
      (fun e (s, offset) => .op .add e (.opInt .mul (.opInt .eq slope s pos) offset))
      (.op .mul flat slope))
  | _ => oneParameter name pos

def paletteOne : Function := fun _ name args pos => do
  match args with
  | [colour] =>
    checkArg name 0 15 colour
    pure (.opInt .add colour 775 pos)
  | _ => oneParameter name pos

def paletteTwo : Function := fun _ name args pos => do
  match args with
  | [first, second] =>
    checkArg name 0 15 first
    checkArg name 0 15 second
    let both := Expr.op .add (.opInt .mul second 16 pos) first
    pure (.op .add both (.special "base_sprite_2cc" (.patch 0x11 0 32 .asIs) pos))
  | _ => need name "must have 2 parameters" pos

def curveInfo : Function := fun _ name args pos => do
  match args with
  | [first, second] =>
    checkArg name (-2) 2 first
    checkArg name (-2) 2 second
    let next := Expr.opInt .shiftLeft (.opInt .and second 0xF pos) 8
    pure (.op .or (.opInt .and first 0xF pos) next)
  | _ => need name "must have 2 parameters" pos

def formatValues (reduce : Reduce) (name : String) :
    Nat → List Expr → Build (List Text.FieldValue)
  | _, [] => pure []
  | i, arg :: rest => do
    let value : Text.FieldValue ← match ← reduce [] arg with
      | .literal s _ => pure (.text s)
      | .float v _ => pure (.float v)
      | .num v _ => pure (.int v)
      | e =>
        need name ("parameter " ++ toString (i + 1)
          ++ " is not a constant number of literal string") e.pos
    pure (value :: (← formatValues reduce name (i + 1) rest))

def formatString : Function := fun reduce name args pos => do
  match args with
  | [] => need name "must have at least one parameter" pos
  | form :: rest =>
    match ← reduce [] form with
    | .literal s _ =>
      let values ← formatValues reduce name 0 rest
      match Text.format s values with
      | .ok t => pure (.literal t pos)
      | .error e =>
        Build.fail ("Invalid combination of format / arguments for " ++ name ++ ": " ++ e) pos
    | e => need name "parameter 1 'format' must be a literal string" e.pos

def table : List (String × Function) := [
  ("min", extreme .min), ("max", extreme .max), ("date", date), ("day_of_year", dayOfYear),
  ("STORE_TEMP", storage .storeTemp), ("STORE_PERM", storage .storePerm),
  ("LOAD_TEMP", storage .loadTemp), ("LOAD_PERM", storage .loadPerm),
  ("UCMP", operator .compareU), ("CMP", operator .compare), ("rotate", operator .rotateRight),
  ("bitmask", bitmask), ("hasbit", operator .hasBit), ("getbits", getBits),
  ("version_openttd", openttdVersion),
  ("cargotype_available", labelAvailable 0x0B (some "\\7c")),
  ("railtype_available", labelAvailable 0x0D none),
  ("roadtype_available", labelAvailable 0x0F none),
  ("tramtype_available", labelAvailable 0x11 none),
  ("grf_current_status", fileStatus 0x06 "\\7G" 0 1),
  ("grf_future_status", fileStatus 0x0A "\\7gg" 1 0),
  ("grf_order_behind", fileStatus 0x08 "\\7gG" 1 0),
  ("visual_effect", visualEffect 2), ("visual_effect_and_powered", visualEffect 3),
  ("create_effect", createEffect), ("str2number", labelToNumber),
  ("cargotype", typeNumber .cargo), ("railtype", typeNumber .rail),
  ("roadtype", typeNumber .road), ("tramtype", typeNumber .tram),
  ("reserve_sprites", reserveSprites), ("industry_type", industryType),
  ("accept_cargo", cargo true), ("produce_cargo", cargo false),
  ("acos", mathematical Float.acos), ("asin", mathematical Float.asin),
  ("atan", mathematical Float.atan), ("cos", mathematical Float.cos),
  ("sin", mathematical Float.sin), ("sqrt", mathematical Float.sqrt),
  ("tan", mathematical Float.tan), ("round", round), ("int", truncate), ("abs", absolute),
  ("sound", sound), ("import_sound", importSound), ("relative_coord", relativeCoord),
  ("num_corners_raised", cornersRaised), ("slope_to_sprite_offset", slopeOffset),
  ("palette_1cc", paletteOne), ("palette_2cc", paletteTwo), ("vehicle_curv_info", curveInfo),
  ("format_string", formatString)]

def find? (name : String) : Option Function := table.lookup name

end NewGrf.Builtin

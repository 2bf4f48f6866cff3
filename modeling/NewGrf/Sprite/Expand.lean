import NewGrf.Expr.Reduce
import NewGrf.Sprite.Image

namespace NewGrf.Sprite

abbrev Arguments := Dict Expr

def Arguments.table (args : Arguments) : NameTable := fun name pos =>
  pure ((args.get? name).map (·.setPos pos))

/-- The files that sprites come from when they do not name one, and the places that lead to them. -/
structure Setting where
  file : Option FileName
  mask : Option FileName
  places : List Position
  args : Arguments := []

namespace Setting

def constant (s : Setting) (e : Expr) : Build (Int × Option Position) :=
  e.reduceConstant [s.args.table]

def literal? (s : Setting) (e : Expr) : Build (Option FileName) := do
  match ← e.reduce [s.args.table] with
  | .literal t p => pure (some (t, p))
  | _ => pure none

end Setting

def checkRect (x y width height : Int × Option Position) : Build Unit := do
  Build.checkRange x.1 0 0x7FFFFFFF "Real sprite paramater 'xpos'" x.2
  Build.checkRange y.1 0 0x7FFFFFFF "Real sprite paramater 'ypos'" y.2
  Build.checkRange width.1 1 0xFFFF "Real sprite paramater 'xsize'" width.2
  Build.checkRange height.1 1 0xFFFF "Real sprite paramater 'ysize'" height.2

def readRect (s : Setting) (params : List Expr) : Build (Option Rect × List Expr) := do
  match params with
  | x :: y :: w :: h :: a :: b :: rest =>
    let x ← s.constant x
    let y ← s.constant y
    let w ← s.constant w
    let h ← s.constant h
    checkRect x y w h
    pure (some ⟨x.1, y.1, w.1, h.1⟩, a :: b :: rest)
  | params => pure (none, params)

def checkOffset (v : Int × Option Position) (number : Nat) (name : String) : Build Unit :=
  Build.checkRange v.1 (-0x8000) 0x7FFF
    ("Real sprite paramater " ++ toString number ++ " '" ++ name ++ "'") v.2

def readFlags (s : Setting) (params : List Expr) : Build (Int × List Expr) := do
  match params with
  | [] => pure (0, [])
  | e :: rest =>
    tryCatch
      (do
        let (v, _) ← e.reduceConstant [NameTable.ofNumbers ImageSprite.flagNames, s.args.table]
        pure (v, rest))
      fun stop => match stop with
        | .fault { cause := .notConstant, .. } => pure (0, e :: rest)
        | stop => throw stop

def readFileName (s : Setting) (number : Nat) (params : List Expr) :
    Build (Option FileName × List Expr) := do
  match params with
  | [] | .array .. :: _ => pure (s.file, params)
  | e :: rest =>
    let e ← e.reduce [s.args.table]
    match e with
    | .literal t p => pure (some (t, p), rest)
    | e =>
      Build.fail ("Real sprite parameter " ++ toString (number + 2)
        ++ " 'file' should be a string literal") e.pos

/-- The mask and its place. An array may hold a file, a place or both; an empty one stands for no
mask. -/
def readMask (s : Setting) (file : FileName) (number : Nat) (params : List Expr) :
    Build (Option FileName × Option (Int × Int) × List Expr) := do
  match params with
  | [] => pure (s.mask, none, [])
  | .array values p :: rest =>
    let place (mask : Option FileName) (x y : Expr) : Build (Option (Int × Int)) := do
      let (x, xpos) ← s.constant x
      let (y, _) ← s.constant y
      if mask.isNone then
        Build.fail "Mask offsets are specified, but there is no mask file set." xpos
      pure (some (x, y))
    let ownMask (e : Expr) : Build (Option FileName) := do
      match ← s.literal? e with
      | some m => pure (some m)
      | none => Build.fail "Real sprite parameter 'mask_file' should be a string literal" file.2
    match values with
    | [] => pure (none, none, rest)
    | [m] => do pure (← ownMask m, none, rest)
    | [x, y] => do pure (s.mask, ← place s.mask x y, rest)
    | [m, x, y] => do
      let mask ← ownMask m
      pure (mask, ← place mask x y, rest)
    | vs =>
      Build.fail ("Real sprite mask should be an array with 0 to 3 values, encountered "
        ++ toString vs.length) p
  | e :: rest =>
    match ← s.literal? e with
    | some m => pure (some m, none, rest)
    | none =>
      Build.fail ("Real sprite parameter " ++ toString (number + 2)
        ++ " 'mask' should be an array or string literal") file.2

def readImage (s : Setting) (params : List Expr) (pos : Position) : Build Sprite := do
  let first := params.head?.bind Expr.pos
  let count := params.length
  if count == 0 then return .empty
  if count < 2 || 9 < count then
    Build.fail "Invalid number of arguments for real sprite. Expected 2..9." first
  let (rect, rest) ← readRect s params
  match rest with
  | xrel :: yrel :: rest =>
    let xrel ← s.constant xrel
    let yrel ← s.constant yrel
    let done := count - rest.length
    checkOffset xrel (done - 1) "xrel"
    checkOffset yrel done "yrel"
    let (flags, rest) ← readFlags s rest
    let (file, rest) ← readFileName s (count - rest.length) rest
    match file with
    | none => Build.fail "No image file specified for real sprite" first
    | some file =>
      let (mask, maskPos, rest) ← readMask s file (count - rest.length) rest
      if let e :: _ := rest then
        Build.fail ("Real sprite has too many parameters, the last " ++ toString rest.length
          ++ " parameter(s) cannot be parsed.") e.pos
      pure (.image {
        file, rect, xrel := xrel.1, yrel := yrel.1, flags, mask, maskPos
        places := s.places ++ [pos] })
  | _ => pure .empty

def readRecolour (s : Setting) (r : Recolour) : Build RecolourLine := do
  let (low, _) ← s.constant r.low
  let high ← match r.high with
    | some e => do pure (← s.constant e).1
    | none => pure low
  let (toLow, _) ← s.constant r.toLow
  let toHigh ← r.toHigh.mapM fun e => do pure (← s.constant e).1
  pure { low, high, toLow, toHigh, pos := r.pos }

def template (name : Ident) : Build Template := do
  match (← get).templates.get? name.text with
  | some t => pure t
  | none => Build.fail ("Encountered unknown template identifier: " ++ name.text) name.pos

def readArguments (s : Setting) (t : Template) (args : List Expr) (pos : Position) :
    Build Arguments := do
  if args.length ≠ t.params.length then
    Build.fail ("Incorrect number of template arguments. Expected " ++ toString t.params.length
      ++ ", got " ++ toString args.length) pos
  let values ← args.mapM fun e => do
    match ← e.reduce [NameTable.ofNumbers ImageSprite.flagNames, s.args.table] with
    | .num v p => pure (Expr.num v p)
    | .literal t p => pure (Expr.literal t p)
    | e => Build.fail "Template parameters should be compile-time constants" e.pos
  pure ((t.params.zip values).foldl (fun d (n, v) => Dict.set d n.text v) [])

/-- The sprites of a list. A template uses only templates before it, which bounds the depth. -/
def expand : Nat → Setting → List SpriteEntry → Build (List Sprite)
  | 0, _, _ => Build.stop { cause := .tooDeep }
  | fuel + 1, s, entries => do
    let lists ← entries.mapM fun entry => match entry with
      | .real _ params pos => do pure [← readImage s params pos]
      | .recolour _ mapping _ => do pure [.recolour (← mapping.mapM (readRecolour s))]
      | .template _ name args pos => do
        let t ← template name
        let args ← readArguments s t args pos
        expand fuel { s with args, places := s.places ++ [pos] } t.sprites
    pure lists.flatten

abbrev Labels := Dict Nat × Nat

def addLabels (pos : Position) (known more : Labels) : Build Labels := do
  let labels ← more.1.foldlM (fun (labels : Dict Nat) (name, offset) => do
    if labels.contains name then
      Build.fail ("Duplicate label encountered; '" ++ name ++ "' already exists.") pos
    pure (labels.set name (offset + known.2))) known.1
  pure (labels, known.2 + more.2)

def labels : Nat → Position → List SpriteEntry → Build Labels
  | 0, _, _ => Build.stop { cause := .tooDeep }
  | fuel + 1, pos, entries =>
    let own (label : Option Ident) : Labels :=
      ((label.map fun l => (l.text, 0)).toList, 1)
    entries.foldlM (fun known entry => do
      let more ← match entry with
        | .real label .. | .recolour label .. => pure (own label)
        | .template label name _ p => do
          let t ← template name
          let (inner, count) ← labels fuel t.pos t.sprites
          match label with
          | none => pure (inner, count)
          | some l => do
            if inner.contains l.text then
              Build.fail ("Duplicate label encountered; '" ++ l.text ++ "' already exists.") p
            pure (Dict.set inner l.text 0, count)
      addLabels pos known more) ([], 0)

def templateFuel : Build Nat := do pure ((← get).templates.length + 2)

end NewGrf.Sprite

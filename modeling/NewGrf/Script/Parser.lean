import NewGrf.Expr.Parser
import NewGrf.Script.Construct

namespace NewGrf

abbrev Reader := StateT Cursor Build

namespace Reader

def sayNotices (c : Cursor) : Build Cursor := do
  c.notices.reverse.forM fun n => Build.warn n.text n.pos?
  pure { c with notices := [] }

def read {α : Type} (p : Parser α) : Reader α := fun c => do
  match p.run c with
  | .ok a c => pure (a, ← sayNotices c)
  | .error r c =>
    let c ← sayNotices c
    match r with
    | .fault f => Build.stop f
    | .illegal ch pos left =>
      Build.modifyConsole fun o => o.print (illegalCharacter c.source ch pos left)
      throw (.exit 1)

def peek? : Reader (Option Token) := read Parser.peek?

def sign (s : Sign) : Reader Position := read (Parser.sign s)

def keyword (k : Keyword) : Reader Position := read (Parser.keyword k)

def ident : Reader Ident := read Parser.ident

def expr : Reader Expr := read Parser.expr

def exprs : Reader (List Expr) := read Parser.exprs

def optionalSign (s : Sign) : Reader Bool := read (Parser.optionalSign s)

def unexpected {α : Type} : Reader α := read do Parser.unexpected (← Parser.peekLexeme?)

def tooDeep {α : Type} : Reader α := read Expr.tooDeep

def bound : Reader Nat := read Parser.bound

def untilSign {α : Type} (s : Sign) (one : Reader α) : Reader (List α) := do
  let rec go : Nat → Reader (List α)
    | 0 => tooDeep
    | fuel + 1 => do
      if Parser.isSign s (← peek?) then pure []
      else
        let a ← one
        let as ← go fuel
        pure (a :: as)
  go (← bound)

def someUntil {α : Type} (s : Sign) (one : Reader α) : Reader (List α) := do
  let a ← one
  let as ← untilSign s one
  pure (a :: as)

/-- At least one element, divided by commas; one comma more may follow the last. -/
def commaList {α : Type} (close : Sign) (one : Reader α) : Reader (List α) := do
  let rec go : Nat → Reader (List α)
    | 0 => tooDeep
    | fuel + 1 => do
      let a ← one
      if ← optionalSign .comma then
        if Parser.isSign close (← peek?) then pure [a]
        else
          let as ← go fuel
          pure (a :: as)
      else pure [a]
  go (← bound)

def braced {α : Type} (body : Reader α) : Reader α := do
  let _ ← sign .braceOpen
  let a ← body
  let _ ← sign .braceClose
  pure a

def arguments : Reader (List Expr) := do
  let _ ← sign .parenOpen
  let es ← exprs
  let _ ← sign .parenClose
  pure es

def guard : Reader Expr := do
  let _ ← sign .parenOpen
  let e ← expr
  let _ ← sign .parenClose
  pure e

def assignment : Reader Assignment := do
  let name ← ident
  let _ ← sign .colon
  let value ← expr
  let _ ← sign .semicolon
  pure { name, value }

def nextPos : Reader Position := do
  match ← read Parser.peekLexeme? with
  | some l => pure l.pos
  | none => unexpected

def optionalUnit : Reader (Option String) := do
  match ← peek? with
  | some (.unit u) => read Parser.skip; pure (some u)
  | _ => pure none

def stringRef : Reader Expr := do
  if Parser.isKeyword .stringRef (← peek?) then read (do Expr.parseOperand (← Parser.bound))
  else unexpected

def choice : Reader Choice := do
  if Parser.isKeyword .result (← peek?) then
    let pos ← keyword .result
    if ← optionalSign .semicolon then pure { value := none, isReturn := true, pos := some pos }
    else
      let e ← expr
      let _ ← sign .semicolon
      pure { value := some e, isReturn := true, pos := e.pos }
  else
    let e ← expr
    let _ ← sign .semicolon
    pure { value := some e, isReturn := false, pos := e.pos }

def switchBody : Reader SwitchBody := do
  let rec go : Nat → Reader SwitchBody
    | 0 => tooDeep
    | fuel + 1 => do
      let t ← peek?
      if Parser.isSign .braceClose t then pure { ranges := [], default := none }
      else if Parser.isKeyword .result t then
        let c ← choice
        pure { ranges := [], default := some c }
      else
        let low ← expr
        if ← optionalSign .semicolon then
          let c : Choice := { value := some low, isReturn := false, pos := low.pos }
          pure { ranges := [], default := some c }
        else
          let single := !(← optionalSign .range)
          let high ← if single then pure low else expr
          let unit ← optionalUnit
          let _ ← sign .colon
          let result ← choice
          let body ← go fuel
          pure { body with ranges := { low, high, single, result, unit } :: body.ranges }
  go (← bound)

def randomChoice : Reader RandomChoice := do
  let probability ← expr
  let _ ← sign .colon
  let result ← choice
  RandomChoice.make probability result

def graphicsBody (pos : Position) : Reader Graphics := do
  let rec go : Nat → Reader Graphics
    | 0 => tooDeep
    | fuel + 1 => do
      if Parser.isKeyword .result (← peek?) then
        let c ← choice
        pure { defs := [], default := some c, pos }
      else
        let cargo ← expr
        if ← optionalSign .semicolon then
          let c : Choice := { value := some cargo, isReturn := false, pos := cargo.pos }
          pure { defs := [], default := some c, pos }
        else
          let _ ← sign .colon
          let result ← choice
          let rest ← if Parser.isSign .braceClose (← peek?)
            then pure { defs := [], default := none, pos }
            else go fuel
          pure { rest with defs := { cargo, result } :: rest.defs }
  go (← bound)

def settingValue : Reader (Ident × SettingValue) := do
  let name ← ident
  let _ ← sign .colon
  if ← optionalSign .braceOpen then
    let entries ← someUntil .braceClose do
      let key ← expr
      let _ ← sign .colon
      let text ← stringRef
      let _ ← sign .semicolon
      pure (key, text)
    let _ ← sign .braceClose
    let _ ← sign .semicolon
    pure (name, .names entries (entries.head?.bind fun e => e.1.pos))
  else
    let value ← expr
    let _ ← sign .semicolon
    pure (name, .expr value)

def setting : Reader Setting := do
  let name ← ident
  let values ← braced (someUntil .braceClose settingValue)
  pure { name, values }

def grfEntry : Reader GrfEntry := do
  if Parser.isKeyword .param (← peek?) then
    let _ ← keyword .param
    let num ← if Parser.isSign .braceOpen (← peek?) then pure none else do pure (some (← expr))
    let settings ← braced (someUntil .braceClose setting)
    pure (.param { num, settings })
  else do pure (.value (← assignment))

def recolour : Reader Recolour := do
  let low ← expr
  let high ← if ← optionalSign .range then do pure (some (← expr)) else pure none
  let _ ← sign .colon
  let toLow ← expr
  let toHigh ← if high.isSome then
      if ← optionalSign .range then do pure (some (← expr)) else pure none
    else pure none
  let _ ← sign .semicolon
  pure { low, high, toLow, toHigh, pos := low.pos }

def labelledSprite (label : Option Ident) (pos : Position) : Reader SpriteEntry := do
  let t ← peek?
  if Parser.isSign .bracketOpen t then
    let _ ← sign .bracketOpen
    let params ← exprs
    let _ ← sign .bracketClose
    pure (.real label params pos)
  else if Parser.isKeyword .recolourSprite t then
    let _ ← keyword .recolourSprite
    let mapping ← braced (untilSign .braceClose recolour)
    pure (.recolour label mapping pos)
  else
    let name ← ident
    let args ← arguments
    pure (.template label name args pos)

def spriteEntry : Reader SpriteEntry := do
  match ← read Parser.peekLexeme? with
  | some l =>
    match l.token with
    | .ident n =>
      read Parser.skip
      let name : Ident := ⟨n, some l.pos⟩
      if ← optionalSign .colon then labelledSprite (some name) l.pos
      else
        let args ← arguments
        pure (.template none name args l.pos)
    | _ => labelledSprite none l.pos
  | none => unexpected

def sprites : Reader (List SpriteEntry) := braced (someUntil .braceClose spriteEntry)

def spriteView : Reader SpriteView := do
  let name ← ident
  let pos := name.pos.getD default
  let _ ← sign .colon
  let listed := Parser.isSign .bracketOpen (← peek?)
  let e ← expr
  let _ ← sign .semicolon
  match listed, e with
  | true, .array sets _ => pure { name, sets, pos }
  | _, e => pure { name, sets := [e], pos }

def layoutSprite : Reader LayoutSprite := do
  let kind ← ident
  let params ← braced (someUntil .braceClose assignment)
  pure { kind, params, pos := kind.pos.getD default }

def tileEntry : Reader TileEntry := do
  let first ← peek?
  let e ← expr
  match first, e with
  | some (.ident _), .ident n p =>
    if ← optionalSign .colon then
      let value ← expr
      let _ ← sign .semicolon
      pure (.property { name := ⟨n, p⟩, value })
    else tile e
  | _, e => tile e
where
  tile (x : Expr) : Reader TileEntry := do
    let _ ← sign .comma
    let y ← expr
    let _ ← sign .colon
    let type ← expr
    let _ ← sign .semicolon
    pure (.tile x y type)

def townPiece : Reader TownPiece := do
  let pos ← nextPos
  if Parser.isKeyword .townNames (← peek?) then
    let _ ← keyword .townNames
    let _ ← sign .parenOpen
    let ref ← expr
    let _ ← sign .comma
    let probability ← expr
    let _ ← sign .parenClose
    pure (.block ref probability pos)
  else
    let key ← ident
    let _ ← sign .parenOpen
    let (text, textPos) ← read (Parser.take fun l => match l.token with
      | .literal s => some (s, some l.pos)
      | _ => none)
    let _ ← sign .comma
    let probability ← expr
    let _ ← sign .parenClose
    pure (.text key text textPos probability pos)

def townEntry : Reader TownEntry := do
  let pos ← nextPos
  if Parser.isSign .braceOpen (← peek?) then
    let pieces ← braced (commaList .braceClose townPiece)
    pure (.part pieces pos)
  else
    let key ← ident
    let _ ← sign .colon
    let value ← stringRef
    let _ ← sign .semicolon
    pure (.styles key value pos)

def label : Reader Expr :=
  read (Parser.take fun l => match l.token with
    | .ident n => some (.ident n (some l.pos))
    | .literal s => some (.literal s (some l.pos))
    | _ => none)

def trackEntry : Reader TrackEntry := do
  match ← label with
  | .ident n p =>
    if ← optionalSign .colon then
      let _ ← sign .bracketOpen
      let labels ← exprs
      let _ ← sign .bracketClose
      pure (.choice ⟨n, p⟩ labels)
    else pure (.label (.ident n p))
  | e => pure (.label e)

def property : Reader Property := do
  let pos ← nextPos
  let name ← read (Parser.take fun l => match l.token with
    | .ident n => some (.ident ⟨n, some l.pos⟩)
    | .number v => some (.number (Number.signed32 v) (some l.pos))
    | _ => none)
  let _ ← sign .colon
  let value ← expr
  let unit ← optionalUnit
  let _ ← sign .semicolon
  pure { name, value, unit := unit.bind Measure.find?, pos }

def snowEntry : Reader SnowEntry := do
  let day ← expr
  let _ ← sign .colon
  let height ← expr
  let unit ← optionalUnit
  let _ ← sign .semicolon
  pure { day, height, unit := unit.bind Measure.find? }

/-- Whether an empty list of cargos or one with names comes next, and not a list of values. -/
def cargosNext : Reader Bool := do
  let c ← get
  let tokens : List Token := (c.rest.take 3).map (·.token)
  match tokens with
  | .sign .bracketOpen :: .sign .bracketClose :: _ => pure true
  | .sign .bracketOpen :: .ident _ :: .sign .colon :: _ => pure true
  | _ => pure false

def cargoAmounts : Reader (List (Ident × SettingValue)) := do
  let _ ← sign .bracketOpen
  let as ← untilSign .bracketClose settingValue
  let _ ← sign .bracketClose
  pure as

def produce : Reader Stmt := do
  let pos ← keyword .produce
  let _ ← sign .parenOpen
  let name ← ident
  let _ ← sign .comma
  let _ ← peek?
  if ← cargosNext then
    let subtract ← cargoAmounts
    let _ ← sign .comma
    let add ← cargoAmounts
    let again ← if ← optionalSign .comma then expr else pure (.int 0)
    let _ ← sign .parenClose
    pure (.produce { name, subtract, add, again, pos })
  else
    let amounts ← exprs
    let _ ← sign .parenClose
    let _ ← sign .semicolon
    ProduceOld.make name amounts pos

def optionalName : Reader (Option Ident) := do
  match ← peek? with
  | some (.ident _) => do pure (some (← ident))
  | _ => pure none

def spriteBlock (k : Keyword)
    (make : List Expr → List SpriteEntry → Option Ident → Position → Build Stmt) :
    Reader Stmt := do
  let pos ← keyword k
  let name ← optionalName
  let params ← arguments
  let ss ← sprites
  make params ss name pos

def command (k : Keyword) (make : List Expr → Position → Build Stmt) : Reader Stmt := do
  let pos ← keyword k
  let args ← arguments
  let _ ← sign .semicolon
  make args pos

def simple (k : Keyword) : Reader Stmt :=
  match k with
  | .switchBlock => do
    let pos ← keyword k
    let params ← arguments
    let body ← braced switchBody
    Switch.make params body pos
  | .randomSwitch => do
    let pos ← keyword k
    let params ← arguments
    let choices ← braced (untilSign .braceClose randomChoice)
    RandomSwitch.make params choices pos
  | .produce => produce
  | .spriteset => do
    let pos ← keyword k
    let params ← arguments
    let ss ← sprites
    SpriteSet.make params ss pos
  | .spritegroup => do
    let pos ← keyword k
    let name ← ident
    let views ← braced (untilSign .braceClose spriteView)
    pure (.spritegroup { name, views, pos })
  | .spritelayout => do
    let pos ← keyword k
    let name ← ident
    let params ← if ← optionalSign .parenOpen then do
        let ps ← read Parser.idents
        let _ ← sign .parenClose
        pure ps
      else pure []
    let ss ← braced (untilSign .braceClose layoutSprite)
    pure (.spritelayout { name, params, sprites := ss, pos })
  | .template => do
    let pos ← keyword k
    let name ← ident
    let _ ← sign .parenOpen
    let params ← read Parser.idents
    let _ ← sign .parenClose
    let ss ← sprites
    pure (.template { name, params, sprites := ss, pos })
  | .tilelayout => do
    let pos ← keyword k
    let name ← ident
    let entries ← braced (someUntil .braceClose tileEntry)
    pure (.tilelayout { name, entries, pos })
  | .townNames => do
    let pos ← keyword k
    let name ← if Parser.isSign .parenOpen (← peek?) then do pure (some (← guard)) else pure none
    let entries ← braced (someUntil .braceClose townEntry)
    pure (.townNames { name, entries, pos })
  | .cargotable => do
    let pos ← keyword k
    let labels ← braced (commaList .braceClose label)
    pure (.cargotable labels pos)
  | .railtypetable => trackTable .rail
  | .roadtypetable => trackTable .road
  | .tramtypetable => trackTable .tram
  | .grf => do
    let pos ← keyword k
    let entries ← braced (someUntil .braceClose grfEntry)
    GrfInfo.make entries pos
  | .skipAll => do
    let pos ← keyword k
    let _ ← sign .semicolon
    pure (.skipAll pos)
  | .properties => do
    let pos ← keyword k
    let ps ← braced (someUntil .braceClose property)
    pure (.properties ps pos)
  | .graphics => do
    let pos ← keyword k
    let g ← braced (graphicsBody pos)
    pure (.graphics g)
  | .liveryOverride => do
    let pos ← keyword k
    let wagon ← guard
    let g ← braced (graphicsBody pos)
    pure (.liveryOverride wagon g)
  | .errorMessage => command k ErrorMessage.make
  | .disableItem => command k makeDisableItem
  | .deactivate => command k fun args pos => pure (.deactivate args pos)
  | .engineOverride => command k fun args pos => pure (.engineOverride args pos)
  | .sortVehicles => command k makeSort
  | .replace => spriteBlock k SpriteBlock.replace
  | .replacenew => spriteBlock k SpriteBlock.replaceNew
  | .baseGraphics => spriteBlock k SpriteBlock.baseGraphics
  | .fontGlyph => spriteBlock k SpriteBlock.fontGlyph
  | .alternativeSprites => do
    let pos ← keyword k
    let params ← arguments
    let ss ← sprites
    SpriteBlock.alternative params ss pos
  | .snowline => do
    let pos ← keyword k
    let _ ← sign .parenOpen
    let kind ← ident
    let _ ← sign .parenClose
    let entries ← braced (untilSign .braceClose snowEntry)
    Snowline.make kind entries pos
  | .basecost => do
    let pos ← keyword k
    let costs ← braced <| untilSign .braceClose do
      let name ← expr
      let _ ← sign .colon
      let value ← expr
      let _ ← sign .semicolon
      pure (name, value)
    pure (.basecost costs pos)
  | .constant => do
    let _ ← keyword k
    let name ← expr
    let _ ← sign .equals
    let value ← expr
    let _ ← sign .semicolon
    pure (.constant name value)
  | .param | .variableAccess | .stringRef => paramAssignment
  | _ => unexpected
where
  paramAssignment : Reader Stmt := do
    let target ← expr
    let _ ← sign .equals
    let value ← expr
    let _ ← sign .semicolon
    pure (.assign target value target.pos)
  trackTable (kind : TrackKind) : Reader Stmt := do
    let pos ← keyword k
    let entries ← braced (commaList .braceClose trackEntry)
    kind.makeTable entries pos

mutual

def statement : Nat → Reader Stmt
  | 0 => tooDeep
  | fuel + 1 => do
    match ← peek? with
    | some (.keyword .item) =>
      let pos ← keyword .item
      let params ← arguments
      let body ← braced (statements fuel)
      ItemHead.make params body pos
    | some (.keyword .loop) =>
      let pos ← keyword .loop
      let g ← guard
      let body ← braced (statements fuel)
      pure (.loop g body pos)
    | some (.keyword .cond) =>
      let pos ← keyword .cond
      let bs ← branches fuel pos
      pure (.conditional bs)
    | some (.keyword k) => simple k
    | t => if Expr.starts t then simple .param else unexpected

def branches : Nat → Position → Reader (List (Branch Stmt))
  | 0, _ => tooDeep
  | fuel + 1, pos => do
    let g ← guard
    let body ← braced (statements fuel)
    let first : Branch Stmt := { guard := some g, body, pos }
    if Parser.isKeyword .otherwise (← peek?) then
      let pos ← keyword .otherwise
      if Parser.isKeyword .cond (← peek?) then
        let _ ← keyword .cond
        let rest ← branches fuel pos
        pure (first :: rest)
      else
        let body ← braced (statements fuel)
        pure [first, { guard := none, body, pos }]
    else pure [first]

def statements : Nat → Reader (List Stmt)
  | 0 => tooDeep
  | fuel + 1 => do
    match ← peek? with
    | none => pure []
    | some (.sign .braceClose) => pure []
    | _ =>
      let s ← statement fuel
      let ss ← statements fuel
      pure (s :: ss)

end

def script : Reader (List Stmt) := do
  let ss ← statements (← bound)
  match ← peek? with
  | none => pure ss
  | some _ => unexpected

end Reader

def countNames (ls : List Lexeme) : Dict Nat :=
  ls.foldl (fun d l => match l.token with
    | .ident n => d.set n ((d.get? n).getD 0 + 1)
    | _ => d) []

def readScript (file text : String) : Build (List Stmt) := do
  let (lexemes, ending) := scan file text
  Build.modifyNames fun n => { n with occurrences := countNames lexemes }
  let (ss, _) ← Reader.script.run { source := text, rest := lexemes, ending }
  pure ss

end NewGrf

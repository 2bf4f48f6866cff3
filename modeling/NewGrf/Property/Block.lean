import NewGrf.Action.Texts
import NewGrf.Expr.Reduce
import NewGrf.Feature
import NewGrf.Property.Special
import NewGrf.Property.Table

namespace NewGrf

def houseTiles (size : Int) : Nat :=
  if size == 4 then 4 else if size == 2 || size == 3 then 2 else 1

namespace PropertyName

def pos : PropertyName → Option Position
  | ident i => i.pos
  | number _ p => p

end PropertyName

namespace Property

structure Entry where
  name : String
  info : Info
  pos : Option Position
  values : List (Option Expr)
  deriving Inhabited

def lookup (feature : Int) (name : PropertyName) : Build (String × List Info) := do
  match table? feature with
  | none =>
    Build.fail ("Setting properties for feature '" ++ Feature.name feature
      ++ "' is not possible, no properties are defined.") name.pos
  | some table =>
    let (key, infos) ← match name with
      | .ident i =>
        match table.get? i.text with
        | some infos => pure (i.text, infos)
        | none => Build.fail ("Unknown property name: " ++ i.text) i.pos
      | .number v p =>
        let hit := table.find? fun (_, infos) => match infos with
          | [info] => match info.number with
            | some (.fixed n) => n == v
            | _ => false
          | _ => false
        match hit with
        | some entry => pure entry
        | none => Build.fail ("Unknown property number: " ++ toString v) p
    infos.forM fun info => do
      if let some better := info.replacedBy then
        Build.warn ("'" ++ key ++ "' is deprecated, consider using '" ++ better ++ "' instead")
          name.pos .deprecation
    pure (key, infos)

def valuesFor (info : Info) (value : Expr) (unit : Option Measure) (house : Option Int) :
    Build (List (Option Expr)) := do
  let value ← info.value.apply (← convert info value unit)
  match house, value with
  | some size, some v => do
    pure ((← info.tiles.apply v (houseTiles size) size).map some)
  | _, v => pure [v]

/-- Warns of properties that should come first, and complains about those that are missing. -/
def checkEntries (feature : Int) (entries : List Entry) : Build Unit := do
  let late := entries.drop 1 |>.filter (·.info.first)
  for (name, infos) in (table? feature).getD [] do
    if let some e := late.find? (·.name == name) then
      Build.warn ("Property '" ++ name
        ++ "' should be set before all other properties and graphics.") e.pos
    for info in infos do
      if info.required && !entries.any (·.name == name) then
        if let some p := entries.getLast?.bind (·.pos) then
          Build.complain ("Property '" ++ name ++ "' is not set. Item will be invalid.") p

/-- The values of a property as they are written, and what makes them so. -/
structure Written where
  before : List Action := []
  patches : List Patch := []
  behind : List Action := []
  values : List (PropertyValue × Option Position) := []
  deriving Inhabited

namespace Written

/-- The bytes of the next value come from a parameter. -/
def patched (w : Written) (param : Int) (size : Nat) (before : List Action) : Written :=
  { w with
    before := w.before ++ before
    patches := w.patches ++ [{ param, size, offset := w.values.length * size + 1 }]
    values := w.values ++ [(.number 0, none)] }

def push (w : Written) (value : PropertyValue) (pos : Option Position) : Written :=
  { w with values := w.values ++ [(value, pos)] }

def add (info : Info) (feature id : Int) (w : Written) (value : Expr) : Build Written := do
  let number := match info.number with
    | some (.fixed n) => toString n
    | _ => ""
  match value with
  | .num v p => pure (w.push (.number v) p)
  | .literal s p =>
    if info.label then
      if !Text.isAscii s then Build.stop Text.unicodeFault
      if Text.size s false ≠ 4 then
        Build.fail ("Value for property " ++ number ++ " must be of length 4") p
      pure (w.push (.label s) p)
    else
      let (param, before) ← Assign.intoParam Assign.compile value
      pure (w.patched param info.size before)
  | .string _ _ p =>
    match info.text with
    | none => Build.fail ("String used as value for non-string property: " ++ number) p
    | some range =>
      let (n, actions) ← Texts.define feature (range.get id) value (.int id)
      pure { w.push (.number n) none with behind := w.behind ++ actions }
  | e =>
    match Assign.paramNumber? e with
    | some n => pure (w.patched n info.size [])
    | none =>
      let (param, before) ← Assign.intoParam Assign.compile e
      pure (w.patched param info.size before)

end Written

def isWritten (e : Entry) : Bool :=
  match e.values with
  | [none] => false
  | [some v] =>
    match e.info.atLeast with
    | none => true
    | some low => match v with
      | .num n _ => low ≤ n
      | _ => false
  | _ => true

def write (feature id : Int) (e : Entry) : Build (List PropertyData × Written) := do
  let values := e.values.filterMap fun v => v
  match e.info.special with
  | some s => pure (← s.apply values, {})
  | none =>
    let w ← values.foldlM (Written.add e.info feature id) {}
    let number := (e.info.number.map (·.get id)).getD (-1)
    if number == -1 then pure ([], w)
    else pure ([← valuesOf number w.values e.info.size], w)

structure Parts where
  before : List Action := []
  patches : List Patch := []
  data : List PropertyData := []
  behind : List Action := []
  offset : Nat := 7

def addEntry (feature id : Int) (parts : Parts) (e : Entry) : Build Parts := do
  if !isWritten e then return parts
  let (data, w) ← write feature id e
  pure {
    before := parts.before ++ w.before
    patches := parts.patches ++ w.patches.map fun p => { p with offset := p.offset + parts.offset }
    data := parts.data ++ data
    behind := parts.behind ++ w.behind
    offset := parts.offset + Number.total (data.map (·.size)) }

def blockActions (props : List Property) : Build (List Action) := do
  let item := (← get).item
  Assign.saveParams
  let id := item.id.constant?.getD 0
  let house := if item.feature == 0x07 then some (item.size.getD 0) else none
  let entries ← props.foldlM (fun (entries : List Entry) prop => do
    let (name, infos) ← lookup item.feature prop.name
    let more ← infos.mapM fun info => do
      let values ← valuesFor info prop.value prop.unit house
      pure { name, info, pos := prop.name.pos, values : Entry }
    pure (entries ++ more)) []
  checkEntries item.feature entries
  let parts ← entries.foldlM (addEntry item.feature id) {}
  let action : PropertyAction :=
    { feature := item.feature, first := id, count := houseTiles (house.getD 0)
      properties := parts.data }
  let setting := (if parts.patches.isEmpty then [] else [Action.patch parts.patches])
    ++ (if parts.data.isEmpty then [] else [.properties action])
  Assign.restoreParams
  pure (parts.before ++ setting ++ parts.behind)

end Property

end NewGrf

import NewGrf.Action.Basic
import NewGrf.Language.Wording

namespace NewGrf.FileInfo

/-- A node whose texts are still to be looked up. -/
inductive Plan where
  | text (key : InfoKey) (text : Expr) (master : Bool)
  | branch (key : InfoKey) (plans : List Plan)
  | node (n : InfoNode)

instance : Inhabited Plan := ⟨.node .palette⟩

namespace Plan

def ofText (key : InfoKey) (text : Expr) (master : Bool := true) : Build Plan := do
  Language.demandText text
  pure (.text key text master)

def value (label : String) (size : Nat) (v : Int) : Plan :=
  .node (.value (.name label) size v)

mutual

def resolve : Plan → Build InfoNode
  | text key e master => do
    let first ← if master then do pure [(Language.masterId, ← Language.wording e)] else pure []
    let langs ← Language.differing e
    let others ← langs.mapM fun lang => do pure (lang, ← Language.wording e lang)
    pure (.text key (first ++ others))
  | branch key plans => do pure (.branch key (← resolveAll plans))
  | node n => pure n

def resolveAll : List Plan → Build (List InfoNode)
  | [] => pure []
  | p :: ps => do
    let n ← p.resolve
    pure (n :: (← resolveAll ps))

end

def inOthers (label : String) (e : Expr) : Build (List Plan) := do
  if (← Language.differing e).isEmpty then pure []
  else pure [← ofText (.name label) e false]

def optional (label : String) (e : Option Expr) : Build (List Plan) := do
  pure (← e.mapM fun e => ofText (.name label) e).toList

/-- The limits of a number. Limits that contradict each other or the default do not count. -/
def limits (param : Int) (s : PlayerSetting) : Build InfoNode := do
  let low := (s.low.map Number.unsigned32).getD 0
  let high := (s.high.map Number.unsigned32).getD 0xFFFFFFFF
  let default := (s.default.map Number.unsigned32).getD 0
  if low > high || default < low || default > high then
    Build.warn ("Limits for GRF parameter " ++ toString param ++ " are incoherent, ignoring.")
    pure (.limits 0 0xFFFFFFFF)
  else pure (.limits low high)

def ofSetting (param : Int) (number : Nat) (s : PlayerSetting) : Build Plan := do
  let name ← optional "NAME" s.name
  let desc ← optional "DESC" s.desc
  let range ← if s.isSwitch then
      pure [value "TYPE" 1 1, .node (.bits param (s.bit.getD 0) 1)]
    else do
      let limits ← limits param s
      let names ← s.valueNames.mapM fun (v, e) => ofText (.number v) e
      pure ([value "MASK" 1 param, .node limits]
        ++ if names.isEmpty then [] else [branch (.name "VALU") names])
  let default := (s.default.map (value "DFLT" 4)).toList
  pure (.branch (.number number) (name ++ desc ++ range ++ default))

def ofParams (params : List PlayerParam) : Build (List Plan) := do
  let settings := params.flatMap fun p => p.settings.map fun s => (p.number, s)
  let plans ← settings.zipIdx.mapM fun ((param, s), i) => ofSetting param i s
  pure (value "NPAR" 1 settings.length
    :: if plans.isEmpty then [] else [branch (.name "PARA") plans])

def ofDescription (d : FileDescription) : Build Plan := do
  let name ← inOthers "NAME" d.name
  let desc ← inOthers "DESC" d.desc
  let url ← optional "URL_" d.url
  let versions := [value "VRSN" 4 d.version, value "MINV" 4 d.minVersion]
  let params ← ofParams d.params
  pure (.branch (.name "INFO")
    (name ++ desc ++ url ++ versions ++ params ++ [.node .palette, .node .depth]))

end Plan

def actions (d : FileDescription) : Build (List Action) := do
  let tree ← (← Plan.ofDescription d).resolve
  match tree.trees with
  | some trees => pure (trees.map .info ++ [.head d.grfid d.name d.desc])
  | none => throw (.system "internal" "")

end NewGrf.FileInfo

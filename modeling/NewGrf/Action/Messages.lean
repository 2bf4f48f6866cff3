import NewGrf.Action.Texts

namespace NewGrf.Messages

def severities : List (String × Int) := [("NOTICE", 0), ("WARNING", 1), ("ERROR", 2), ("FATAL", 3)]

def known : List (String × Int) := [
  ("REQUIRES_TTDPATCH", 0), ("REQUIRES_DOS_WINDOWS", 1), ("USED_WITH", 2),
  ("INVALID_PARAMETER", 3), ("MUST_LOAD_BEFORE", 4), ("MUST_LOAD_AFTER", 5),
  ("REQUIRES_OPENTTD", 6)]

def prepare (e : ErrorMessage) : Build ErrorMessage := do
  let severity ← e.severity.reduce [NameTable.ofNumbers severities]
  let message ← e.message.reduce [NameTable.ofNumbers known]
  let data ← e.data.mapM fun d => d.reduce
  let params ← e.params.mapM fun p => p.reduce
  pure { e with severity, message, data, params }

def languagesOf (e : Expr) : Build (List Nat) := do
  match e with
  | .string .. =>
    Language.demandText e
    Language.differing e
  | _ => pure []

def numberOf : Expr → Build Int
  | .string .. => pure 0
  | m => do pure (← m.reduceConstant).1

def languagesOfData : Option Expr → Build (List Nat)
  | none | some (.literal ..) => pure []
  | some (.string n args p) => languagesOf (.string n args p)
  | some d =>
    Build.fail "Error parameter 3 'data' should be the identifier of a custom sting" d.pos

def paramOf (done : List Int × List Action) (e : Expr) :
    Build (List Int × List Action) := do
  let (n, before) ← Assign.intoParamUnlessOne Assign.compile e
  pure (done.1 ++ [n], done.2 ++ before)

def textIn (number : Int) (lang : Nat) : Expr → Build MessageText
  | e@(.string ..) => do pure (.own (← Language.wording e lang))
  | _ => pure (.known number)

def dataIn (lang : Nat) : Expr → Build String
  | .literal t _ => pure t
  | d => Language.wording d lang

def actions (e : ErrorMessage) : Build (List Action) := do
  Assign.saveParams
  let (severity, before, patches) ← Assign.field e.severity 1 1
  let own ← languagesOf e.message
  let number ← numberOf e.message
  let data : Option Expr ← e.data.mapM fun d => d.reduce
  let more ← languagesOfData data
  let (params, computed) ← e.params.foldlM paramOf ([], [])
  let langs := (Language.masterId :: own ++ more).eraseDups.mergeSort fun a b => a ≤ b
  let messages ← langs.mapM fun lang => do
    let text ← textIn number lang e.message
    let data ← data.mapM (dataIn lang)
    pure (Assign.withPatches [] patches (.message { severity, lang, text, data, params }))
  Assign.restoreParams
  pure (before ++ computed ++ messages.flatten)

end NewGrf.Messages

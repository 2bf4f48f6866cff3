import NewGrf.Expr.Basic

namespace NewGrf

namespace Expr

private def refuse (e : Expr) (t : String) : Option Fault :=
  some { cause := .script t, pos := e.pos }

private def tokenText (o : Operator) : String :=
  match o.token? with
  | some t => " '" ++ t ++ "'"
  | none => ""

def switchFault? (e : Expr) : Option Fault :=
  match e with
  | num .. | access .. | special .. | groupRef .. | storage .. | loadTemp .. | loadArg .. => none
  | binary o a b _ =>
    if o.inSwitch then a.switchFault? <|> b.switchFault?
    else e.refuse ("Operator" ++ tokenText o ++ " not supported in a switch-block")
  | ternary g a b _ => g.switchFault? <|> a.switchFault? <|> b.switchFault?
  | bitNot a _ | not a _ | boolean a _ | abs a _ => a.switchFault?
  | param n _ =>
    if n.isConstant then none
    else e.refuse
      "Parameter acessess with non-constant numbers are not supported in a switch-block."
  | otherParam .. =>
    e.refuse "Reading parameters from another GRF is not supported in a switch-block."
  | patchVar .. => e.refuse "Reading patch variables is not supported in a switch-block."
  | _ => e.refuse "This expression is not supported in a switch-block or produce-block"

def assignFault? (e : Expr) : Option Fault :=
  match e with
  | num .. | param .. | otherParam .. | patchVar .. | special .. | check .. | reserve .. => none
  | ident n _ => e.refuse ("Unknown identifier '" ++ n ++ "'")
  | binary o a b _ =>
    if o.inAssignment then a.assignFault? <|> b.assignFault?
    else match o with
      | .storePerm => e.refuse "STORE_PERM is only available in switch-blocks."
      | .storeTemp => e.refuse "STORE_TEMP is only available in switch-blocks."
      | _ => e.refuse ("Operator" ++ tokenText o ++ " not supported in parameter assignment")
  | ternary g a b _ => g.assignFault? <|> a.assignFault? <|> b.assignFault?
  | bitNot a _ | not a _ | boolean a _ | abs a _ => a.assignFault?
  | access a _ =>
    match a.num with
    | .num 0x7C _ => e.refuse "LOAD_PERM is only available in switch-blocks."
    | .num 0x7D _ => e.refuse "LOAD_TEMP is only available in switch-blocks."
    | _ => e.refuse "Variable accesses are not supported outside of switch-blocks."
  | storage k _ _ _ _ => e.refuse (k.name ++ "() may only be used inside switch-blocks")
  | _ => e.refuse "This expression can not be assigned to a parameter"

def inAssignment (e : Expr) : Bool := e.assignFault?.isNone

mutual

/-- The references to blocks, from left to right; a reference stands before its arguments. -/
def references : Expr → List Expr
  | e@(groupRef _ args _ _ _) => e :: referencesIn args
  | array vs _ | bitmask vs _ => referencesIn vs
  | binary _ a b _ => a.references ++ b.references
  | ternary g a b _ => g.references ++ a.references ++ b.references
  | bitNot a _ | not a _ | boolean a _ | abs a _ => a.references
  | storage _ v r _ _ => r.references ++ referencesOption v
  | _ => []

def referencesIn : List Expr → List Expr
  | [] => []
  | e :: es => e.references ++ referencesIn es

def referencesOption : Option Expr → List Expr
  | none => []
  | some e => e.references

end

end Expr

end NewGrf

import NewGrf.Expr.Basic
import NewGrf.Text.Hex
import NewGrf.Text.Integer

namespace NewGrf

namespace Expr

mutual

def text : Expr → String
  | num v _ => toString v
  | float v _ => Number.floatText v
  | literal s _ => "\"" ++ s ++ "\""
  | ident n _ => n
  | call n args _ => n.text ++ "(" ++ ", ".intercalate (texts args) ++ ")"
  | array vs _ => "[" ++ ", ".intercalate (texts vs) ++ "]"
  | binary .sub (.num 0 _) b _ => "-" ++ b.text
  | binary op a b _ => op.write a.text b.text
  | ternary g a b _ => "(" ++ g.text ++ " ? " ++ a.text ++ " : " ++ b.text ++ ")"
  | bitNot e _ => "~" ++ e.text
  | not e _ => "!" ++ e.text
  | boolean e _ => "!!(" ++ e.text ++ ")"
  | abs e _ => "abs(" ++ e.text ++ ")"
  | bitmask vs _ => "bitmask(" ++ ", ".intercalate (texts vs) ++ ")"
  | param n _ => "param[" ++ n.text ++ "]"
  | otherParam g n _ => "param[" ++ g.text ++ ", " ++ n.text ++ "]"
  | access a _ => accessText a
  | patchVar n _ => "PatchVariable(" ++ toString n ++ ")"
  | special n _ _ => n
  | groupRef n args _ _ _ =>
    match args with
    | [] => n.text
    | args => n.text ++ "(" ++ ", ".intercalate (texts args) ++ ")"
  | storage k v r g _ =>
    k.name ++ "(" ++ ", ".intercalate (optionTexts v ++ r.text :: optionTexts g) ++ ")"
  | string n args _ => "string(" ++ ", ".intercalate (n.text :: texts args) ++ ")"
  | cargo accepts label _ values _ =>
    (if accepts then "accept_cargo(" else "produce_cargo(") ++ label ++ ", ["
      ++ ", ".intercalate (texts values) ++ "])"
  | check c _ => c.text
  | reserve n c _ => n ++ "(" ++ toString c ++ ")"
  | function n _ _ => n.text
  | loadTemp .. => ""
  | loadArg _ _ n _ => n
  | stationSprites .. => ""

def texts : List Expr → List String
  | [] => []
  | e :: es => e.text :: texts es

def optionTexts : Option Expr → List String
  | none => []
  | some e => [e.text]

/-- A variable access; the operations attached to it follow as ordinary ones. -/
def accessText : Access Expr → String
  | ⟨n, shift, mask, argument, plus, divisor, rest, _⟩ =>
    let number := match n with
      | .num v _ => "0x" ++ hexText 2 v
      | _ => n.text
    let base := "var["
      ++ ", ".intercalate (number :: shift.text :: mask.text :: optionTexts argument) ++ "]"
    let wrap (sign : String) (r : String) (part : List String) : String :=
      part.foldl (fun r t => "(" ++ r ++ sign ++ t ++ ")") r
    wrap " % " (wrap " / " (wrap " + " base (optionTexts plus)) (optionTexts divisor))
      (optionTexts rest)

end

def outlineLine (indent : Nat) (s : String) : String :=
  "".pushn ' ' indent ++ s

mutual

def outline (i : Nat) : Expr → List String
  | num v _ => [outlineLine i ("Int: " ++ toString v)]
  | float v _ => [outlineLine i ("Float: " ++ Number.floatText v)]
  | literal s _ => [outlineLine i ("String literal: \"" ++ s ++ "\"")]
  | ident n _ => [outlineLine i ("ID: " ++ n)]
  | call n args _ => outlineLine i ("Call function: " ++ n.text) :: outlineArgs (i + 2) args
  | array vs _ => outlineLine i "Array of values:" :: outlines (i + 2) vs
  | binary op a b _ =>
    outlineLine i ("Binary operator, op = " ++ op.token?.getD "None")
      :: outline (i + 2) a ++ outline (i + 2) b
  | ternary g a b _ =>
    outlineLine i "Ternary operator" :: outlineLine i "Guard:" :: outline (i + 2) g
      ++ outlineLine i "Expression 1:" :: outline (i + 2) a
      ++ outlineLine i "Expression 2:" :: outline (i + 2) b
  | bitNot e _ => outlineLine i "Binary not:" :: outline (i + 2) e
  | not e _ => outlineLine i "Logical not:" :: outline (i + 2) e
  | boolean e _ => outlineLine i "Force expression to boolean:" :: outline (i + 2) e
  | abs e _ => outlineLine i "abs():" :: outline (i + 2) e
  | bitmask vs _ => outlineLine i "Get bitmask:" :: outlines (i + 2) vs
  | param n _ => outlineLine i "Parameter:" :: outline (i + 2) n
  | otherParam g n _ => outlineLine i "OtherGRFParameter:" :: outline (i + 2) g ++ outline (i + 2) n
  | access a _ => outlineAccess i a
  | patchVar n _ => [outlineLine i ("PatchVariable: " ++ toString n)]
  | special n _ _ => [outlineLine i ("Special parameter '" ++ n ++ "'")]
  | groupRef n args _ _ _ =>
    outlineLine i ("Reference to: " ++ n.text)
      :: (match args with
          | [] => []
          | args => outlineLine i "Parameters:" :: outlines (i + 2) args)
  | storage k v r g _ =>
    outlineLine i k.name :: outlineLine (i + 2) "Register:" :: outline (i + 4) r
      ++ outlineOption (i + 2) "Value:" v ++ outlineOption (i + 2) "GRFID:" g
  | string n args _ =>
    outlineLine i "String:" :: outlineLine (i + 2) ("ID: " ++ n.text) :: outlineArgs (i + 2) args
  | _ => []

def outlines (i : Nat) : List Expr → List String
  | [] => []
  | e :: es => outline i e ++ outlines i es

def outlineArgs (i : Nat) : List Expr → List String
  | [] => []
  | e :: es => outlineLine i "Parameter:" :: outline (i + 2) e ++ outlineArgs i es

def outlineOption (i : Nat) (title : String) : Option Expr → List String
  | none => []
  | some e => outlineLine i title :: outline (i + 2) e

def outlineAccess (i : Nat) : Access Expr → List String
  | ⟨n, _, _, argument, _, _, _, _⟩ =>
    outlineLine i "Action2 variable" :: outline (i + 2) n
      ++ outlineOption (i + 2) "Parameter:" argument

end

end Expr

end NewGrf

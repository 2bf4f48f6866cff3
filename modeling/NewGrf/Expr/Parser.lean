import NewGrf.Expr.Basic
import NewGrf.Token.Cursor
import NewGrf.Token.Scanner

namespace NewGrf

namespace Expr

inductive Joint where
  | operator (op : Operator)
  | logical (op : Operator)
  | conditional
  deriving Repr, DecidableEq, Inhabited

def joint? : Sign → Option (Nat × Joint)
  | .question => some (2, .conditional)
  | .logicalOr => some (3, .logical .or)
  | .logicalAnd => some (4, .logical .and)
  | .bitOr => some (5, .operator .or)
  | .bitXor => some (6, .operator .xor)
  | .bitAnd => some (7, .operator .and)
  | .same => some (8, .operator .eq)
  | .differs => some (8, .operator .ne)
  | .atMost => some (8, .operator .le)
  | .atLeast => some (8, .operator .ge)
  | .less => some (8, .operator .lt)
  | .greater => some (8, .operator .gt)
  | .shiftLeft => some (9, .operator .shiftLeft)
  | .shiftRight => some (9, .operator .shiftRight)
  | .shiftRightU => some (9, .operator .shiftRightU)
  | .plus => some (10, .operator .add)
  | .minus => some (10, .operator .sub)
  | .times => some (11, .operator .mul)
  | .divide => some (11, .operator .div)
  | .modulo => some (11, .operator .mod)
  | _ => none

def starts : Option Token → Bool
  | some (.number _) | some (.float _) | some (.ident _) | some (.literal _) => true
  | some (.keyword k) => k == .param || k == .variableAccess || k == .stringRef
  | some (.sign s) =>
    s == .parenOpen || s == .bracketOpen || s == .logicalNot || s == .bitNot || s == .minus
  | _ => false

def namedParam (number : Expr) (p : Position) : Parser Expr := do
  match number with
  | .num v _ => if v < 0 ∨ 63 < v then Parser.note (.paramRange p)
  | _ => pure ()
  pure (.param number (some p))

/-- A variable access written as number, shift, mask and parameter, of which all but the first may
be missing. -/
def variableAccess (parts : List Expr) (p : Position) : Parser Expr :=
  match parts with
  | number :: more =>
    pure <| .access
      { num := number, shift := more.head?.getD (.int 0 (some p))
        mask := more[1]?.getD (.int 0xFFFFFFFF), param := more[2]? } (some p)
  | [] => throw <| .fault { cause := .script "Missing variable number", pos := some p }

def stringOf (parts : List Expr) (p : Position) : Parser Expr :=
  match parts with
  | [] => throw <| .fault
      { cause := .script "string() requires at least one parameter.", pos := some p }
  | .ident n q :: args => pure (.string ⟨n, q⟩ args (some p))
  | _ => throw <| .fault
      { cause := .script "First parameter of string() must be an identifier.", pos := some p }

def join (o : Joint) (left right : Expr) : Expr :=
  match o with
  | .logical op => .op op (.boolean left none) (.boolean right none) left.pos
  | .operator op => .op op left right left.pos
  | .conditional => left

open NewGrf.Parser

def tooDeep {α : Type} : Parser α := throw (.fault { cause := .tooDeep })

mutual

def parse : Nat → Nat → Parser Expr
  | 0, _ => tooDeep
  | fuel + 1, level => do
    let left ← parseOperand fuel
    parseJoints fuel level left

def parseOperand : Nat → Parser Expr
  | 0 => tooDeep
  | fuel + 1 => do
    match ← peekLexeme? with
    | none => unexpected none
    | some l =>
      match l.token with
      | .number n => skip; pure (.int n (some l.pos))
      | .float x => skip; pure (.float x (some l.pos))
      | .literal s => skip; pure (.literal s (some l.pos))
      | .ident n =>
        skip
        if ← optionalSign .parenOpen then
          let args ← parseList fuel
          let _ ← sign .parenClose
          pure (.call ⟨n, some l.pos⟩ args (some l.pos))
        else pure (.ident n (some l.pos))
      | .keyword .param =>
        skip
        let _ ← sign .bracketOpen
        let first ← parse fuel 0
        if ← optionalSign .comma then
          let second ← parse fuel 0
          let _ ← sign .bracketClose
          pure (.otherParam first second (some l.pos))
        else
          let _ ← sign .bracketClose
          namedParam first l.pos
      | .keyword .variableAccess =>
        skip
        let _ ← sign .bracketOpen
        let parts ← parseList fuel
        let _ ← sign .bracketClose
        variableAccess parts l.pos
      | .keyword .stringRef =>
        skip
        let _ ← sign .parenOpen
        let parts ← parseList fuel
        let _ ← sign .parenClose
        stringOf parts l.pos
      | .sign .parenOpen =>
        skip
        let e ← parse fuel 0
        let _ ← sign .parenClose
        pure e
      | .sign .bracketOpen =>
        skip
        let es ← parseList fuel
        let _ ← sign .bracketClose
        pure (.array es (some l.pos))
      | .sign .minus =>
        skip
        let e ← parse fuel 11
        pure (.op .sub (.int 0) e (some l.pos))
      | .sign .logicalNot =>
        skip
        let e ← parse fuel 13
        pure (.not (.boolean e none) (some l.pos))
      | .sign .bitNot =>
        skip
        let e ← parse fuel 13
        pure (.bitNot e (some l.pos))
      | _ => unexpected (some l)

def parseJoints : Nat → Nat → Expr → Parser Expr
  | 0, _, _ => tooDeep
  | fuel + 1, level, left => do
    match ← peek? with
    | some (.sign s) =>
      match joint? s with
      | some (own, o) =>
        if own < level then pure left
        else
          skip
          match o with
          | .conditional =>
            let yes ← parse fuel 0
            let _ ← sign .colon
            let no ← parse fuel own
            parseJoints fuel level (.ternary left yes no left.pos)
          | o =>
            let right ← parse fuel (own + 1)
            parseJoints fuel level (join o left right)
      | none => pure left
    | _ => pure left

/-- Expressions divided by commas; one comma more may follow the last. -/
def parseList : Nat → Parser (List Expr)
  | 0 => tooDeep
  | fuel + 1 => do
    if starts (← peek?) then
      let e ← parse fuel 0
      if ← optionalSign .comma then
        let es ← parseList fuel
        pure (e :: es)
      else pure [e]
    else pure []

end

end Expr

namespace Parser

def expr : Parser Expr := do Expr.parse (← bound) 0

def exprs : Parser (List Expr) := do Expr.parseList (← bound)

def ident : Parser Ident :=
  take fun l => match l.token with
    | .ident n => some ⟨n, some l.pos⟩
    | _ => none

def idents : Parser (List Ident) := do
  let rec go : Nat → Parser (List Ident)
    | 0 => Expr.tooDeep
    | fuel + 1 => do
      match ← peek? with
      | some (.ident _) =>
        let i ← ident
        if ← optionalSign .comma then
          let is ← go fuel
          pure (i :: is)
        else pure [i]
      | _ => pure []
  go (← bound)

end Parser

end NewGrf

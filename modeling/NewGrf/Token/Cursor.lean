import NewGrf.Fault
import NewGrf.Token.Scanner

namespace NewGrf

/-- Something to say that does not stop the reading. -/
inductive Notice where
  /-- A line mark returns to a file that was not open. -/
  | badMark
  | paramRange (pos : Position)
  deriving Repr, DecidableEq, Inhabited

def Notice.text : Notice → String
  | badMark =>
    "Information about included files is inconsistent, position information for errors may be"
      ++ " wrong."
  | paramRange _ =>
    "Accessing parameters out of the range 0..63 is not supported and may lead to unexpected"
      ++ " behaviour."

def Notice.pos? : Notice → Option Position
  | badMark => none
  | paramRange p => some p

inductive Reject where
  | fault (f : Fault)
  /-- A character that starts no token, and how many characters are left with it. -/
  | illegal (c : Char) (pos : Position) (left : Nat)
  deriving Repr, Inhabited

structure Cursor where
  source : String
  rest : List Lexeme
  ending : Scanner.End
  notices : List Notice := []

abbrev Parser := EStateM Reject Cursor

namespace Parser

def note (n : Notice) : Parser Unit :=
  modify fun c => { c with notices := n :: c.notices }

def noteMarks (count : Nat) : Parser Unit :=
  modify fun c => { c with notices := List.replicate count .badMark ++ c.notices }

def peekLexeme? : Parser (Option Lexeme) := do
  let c ← get
  match c.rest with
  | l :: ls =>
    if l.badMarks == 0 then pure (some l)
    else
      set { c with rest := { l with badMarks := 0 } :: ls }
      noteMarks l.badMarks
      pure (some l)
  | [] =>
    match c.ending with
    | .done marks =>
      set { c with ending := .done 0 }
      noteMarks marks
      pure none
    | .illegal ch pos left marks =>
      noteMarks marks
      throw (.illegal ch pos left)

def peek? : Parser (Option Token) := do
  pure ((← peekLexeme?).map (·.token))

def unexpected {α : Type} (l : Option Lexeme) : Parser α :=
  throw <| .fault <| match l with
    | some l =>
      { cause := .script ("Syntax error, unexpected token \"" ++ l.token.text ++ "\"")
        pos := some l.pos }
    | none => { cause := .script "Syntax error, unexpected end-of-file" }

def skip : Parser Unit :=
  modify fun c => { c with rest := c.rest.tail }

def take {α : Type} (f : Lexeme → Option α) : Parser α := do
  let l ← peekLexeme?
  match l.bind f with
  | some a => skip; pure a
  | none => unexpected l

def isSign (s : Sign) : Option Token → Bool
  | some (.sign t) => s == t
  | _ => false

def isKeyword (k : Keyword) : Option Token → Bool
  | some (.keyword t) => k == t
  | _ => false

def sign (s : Sign) : Parser Position :=
  take fun l => match l.token with
    | .sign t => if s == t then some l.pos else none
    | _ => none

def keyword (k : Keyword) : Parser Position :=
  take fun l => match l.token with
    | .keyword t => if k == t then some l.pos else none
    | _ => none

def optionalSign (s : Sign) : Parser Bool := do
  if isSign s (← peek?) then skip; pure true else pure false

def bound : Parser Nat := do pure (4 * (← get).rest.length + 8)

end Parser

end NewGrf

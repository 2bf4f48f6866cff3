import NewGrf.Position

namespace NewGrf

inductive Cause where
  | script (text : String)
  | notConstant
  | outOfRange (name value low high : String)
  /-- A block is used as a value without being called. -/
  | uncalled (name : String)
  | image (text : String)
  | repeated (kind : String)
  | tooDeep
  deriving Repr, DecidableEq, Inhabited

def Cause.text : Cause → String
  | script t => t
  | notConstant => "Expected a compile-time integer constant"
  | outOfRange name value low high =>
    name ++ " out of range " ++ low ++ ".." ++ high ++ ", encountered " ++ value
  | uncalled name => "Missing '()' after '" ++ name ++ "'."
  | image t => t
  | repeated kind => "A grf may contain only one " ++ kind ++ "."
  | tooDeep => "The source is nested too deeply."

structure Fault where
  cause : Cause
  pos : Option Position := none
  deriving Repr, DecidableEq, Inhabited

namespace Fault

def report (f : Fault) : String :=
  match f.pos with
  | none => f.cause.text
  | some p =>
    p.includes.reverse.foldl (fun r inc => r ++ "\nIncluded from: " ++ inc.text)
      (p.text ++ ": " ++ f.cause.text)

def inImage (text file : String) (user : Option Position) : Fault :=
  { cause := .image text
    pos := some { place := .image file, includes := (user.map Position.place).toList } }

end Fault

inductive Stop where
  | fault (f : Fault)
  /-- The run ends at once with this exit code; what there is to say has been printed. -/
  | exit (code : Nat)
  | system (kind : String) (text : String)
  deriving Repr, DecidableEq, Inhabited

end NewGrf

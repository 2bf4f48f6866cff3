import NewGrf.Dict
import NewGrf.Position

namespace NewGrf.Language

structure Command where
  name : String
  case? : Option Nat := none
  arguments : List String := []
  offset : Option Int := none
  place : Option Nat := none
  pos : Position
  deriving Repr, Inhabited

inductive Part where
  | literal (text : String)
  | command (c : Command)
  deriving Repr, Inhabited

structure Phrase where
  parts : List Part
  gender : Option String := none
  pos : Position
  deriving Repr, Inhabited

structure Entry where
  phrase : Phrase
  cases : Dict Phrase := []
  deriving Repr, Inhabited

end NewGrf.Language

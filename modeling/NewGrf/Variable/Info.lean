import NewGrf.Number.Basic

namespace NewGrf.Variable

inductive LabelTable where
  | cargo | rail | road | tram
  deriving Repr, DecidableEq, Inhabited

inductive Adjust where
  | asIs
  | signExtend
  | mulDiv (mul div : Int)
  | add (n : Int)
  | equals (n : Int)
  | differs (n : Int)
  | atLeast (n : Int)
  | keepBits (mask : Int)
  | negate
  /-- The parameter holds the number of the variable to read. -/
  | platform
  | platformSigned
  | houseClass
  deriving Repr, DecidableEq, Inhabited

inductive ArgForm where
  | one
  | tileOffset (low high : Int)
  | signedByte
  | label (table : LabelTable)
  | platform (middle : Bool)
  | cargoNearby
  | nearestHouse
  | counted
  | countedLayout
  | countedTown
  deriving Repr, DecidableEq, Inhabited

structure Info where
  var : Nat
  start : Nat
  size : Nat
  adjust : Adjust := .asIs
  form : ArgForm := .one
  param : Option Nat := none
  /-- The name to use in its place, for a deprecated name. -/
  replacedBy : Option String := none
  deriving Repr, DecidableEq, Inhabited

def Info.mask (i : Info) : Int := (Number.twoPow i.size : Int) - 1

end NewGrf.Variable
